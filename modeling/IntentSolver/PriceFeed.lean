import IntentSolver.SwapStore
import Mathlib.Order.Bounds.Defs
import Mathlib.Tactic.Linarith
import Mathlib.Tactic.Positivity
import Mathlib.Algebra.Order.Ring.Int

/-!
# Pricing one asset against another

A price is an exact decimal, quote asset per whole unit of the base asset. A conversion is
one product, one division and one rounding, which the caller chooses. Both directions use
the same price, unflipped.
-/

namespace IntentSolver.PriceFeed

open SwapStore

/-- A price as an exact decimal: `mantissa / 10 ^ scale`. -/
structure Price where
  mantissa : ℤ
  scale : ℕ
  deriving DecidableEq

/-- Which way to round a conversion that is not exact. -/
inductive Rounding where
  | down
  | up
  deriving DecidableEq

/-- The widest precision a leg may declare. -/
def MAX_DECIMALS : ℤ := 36

/-- Refuse decimals no leg may declare. -/
def checkDecimals (baseDecimals quoteDecimals : ℤ) : Except Fault Unit := do
  for (name, value) in [("baseDecimals", baseDecimals), ("quoteDecimals", quoteDecimals)] do
    if value < 0 ∨ MAX_DECIMALS < value then
      throw (.error (name ++ " must be an integer in 0.." ++ toString MAX_DECIMALS ++ ", got " ++
        toString value))

/-- Divide, and round a remainder the way the caller asked. -/
def divRound (numerator denominator : ℤ) (rounding : Rounding) : Except Fault ℤ :=
  if denominator = 0 then .error (.error "Division by zero")
  else
    let quotient := numerator.tdiv denominator
    .ok (if rounding = .up ∧ numerator.tmod denominator ≠ 0 then quotient + 1 else quotient)

/-- Convert an amount of the base asset into the quote asset. -/
def convertAmount (baseAmount : ℤ) (price : Price) (baseDecimals quoteDecimals : ℤ)
    (rounding : Rounding) : Except Fault ℤ :=
  if baseAmount < 0 then
    .error (.error ("baseAmount must not be negative, got " ++ toString baseAmount))
  else do
    checkDecimals baseDecimals quoteDecimals
    divRound (baseAmount * price.mantissa * 10 ^ quoteDecimals.toNat)
      (10 ^ price.scale * 10 ^ baseDecimals.toNat) rounding

/-- Convert an amount of the quote asset back into the base asset. -/
def convertQuoteToBase (quoteAmount : ℤ) (price : Price) (baseDecimals quoteDecimals : ℤ)
    (rounding : Rounding) : Except Fault ℤ :=
  if quoteAmount < 0 then
    .error (.error ("quoteAmount must not be negative, got " ++ toString quoteAmount))
  else do
    checkDecimals baseDecimals quoteDecimals
    divRound (quoteAmount * 10 ^ price.scale * 10 ^ baseDecimals.toNat)
      (price.mantissa * 10 ^ quoteDecimals.toNat) rounding

/-! ## Rounded division -/

/-- Rounded down, a quotient is the greatest that fits. -/
theorem divRound_down {numerator denominator : ℤ} (hn : 0 ≤ numerator) (hd : 0 < denominator) :
    ∃ result, divRound numerator denominator .down = .ok result ∧
      IsGreatest {quotient | quotient * denominator ≤ numerator} result := by
  refine ⟨numerator / denominator, ?_, Int.ediv_mul_le numerator hd.ne', fun quotient hq => ?_⟩
  · unfold divRound
    rw [if_neg hd.ne', Int.tdiv_eq_ediv_of_nonneg hn]
    rfl
  · exact (Int.le_ediv_iff_mul_le hd).mpr hq

/-- Rounded up, a quotient is the least that covers. -/
theorem divRound_up {numerator denominator : ℤ} (hn : 0 ≤ numerator) (hd : 0 < denominator) :
    ∃ result, divRound numerator denominator .up = .ok result ∧
      IsLeast {quotient | numerator ≤ quotient * denominator} result := by
  have hsum : numerator / denominator * denominator + numerator % denominator = numerator :=
    Int.ediv_mul_add_emod numerator denominator
  have hrem : 0 ≤ numerator % denominator := Int.emod_nonneg numerator hd.ne'
  have hlt : numerator % denominator < denominator := Int.emod_lt_of_pos numerator hd
  unfold divRound
  rw [if_neg hd.ne', Int.tdiv_eq_ediv_of_nonneg hn, Int.tmod_eq_emod_of_nonneg hn]
  by_cases hz : numerator % denominator = 0
  · refine ⟨numerator / denominator, by simp [hz], ?_, fun quotient hq => ?_⟩
    · change numerator ≤ numerator / denominator * denominator
      omega
    · have hq' : numerator / denominator * denominator ≤ quotient * denominator := by
        change numerator ≤ quotient * denominator at hq
        omega
      exact le_of_mul_le_mul_right hq' hd
  · refine ⟨numerator / denominator + 1, by simp [hz], ?_, fun quotient hq => ?_⟩
    · change numerator ≤ (numerator / denominator + 1) * denominator
      linarith
    · have hq' : numerator / denominator * denominator < quotient * denominator := by
        change numerator ≤ quotient * denominator at hq
        omega
      exact Int.add_one_le_of_lt (lt_of_mul_lt_mul_right hq' hd.le)

/-! ## What a conversion is worth -/

/-- The value of a base amount and of a quote amount, on one scale: the price and both
precisions are multiplied out. -/
def baseWorth (price : Price) (quoteDecimals baseAmount : ℤ) : ℤ :=
  baseAmount * price.mantissa * 10 ^ quoteDecimals.toNat

/-- The value of a quote amount on the same scale. -/
def quoteWorth (price : Price) (baseDecimals quoteAmount : ℤ) : ℤ :=
  quoteAmount * 10 ^ price.scale * 10 ^ baseDecimals.toNat

/-- Decimals a leg may declare. -/
def Declarable (decimals : ℤ) : Prop := 0 ≤ decimals ∧ decimals ≤ MAX_DECIMALS

variable {price : Price} {baseDecimals quoteDecimals amount : ℤ}

/-- Decimals that may be declared pass the check. -/
theorem checkDecimals_ok (hb : Declarable baseDecimals) (hq : Declarable quoteDecimals) :
    checkDecimals baseDecimals quoteDecimals = .ok () := by
  have hbase : ¬(baseDecimals < 0 ∨ MAX_DECIMALS < baseDecimals) := by
    have := hb.1
    have := hb.2
    omega
  have hquote : ¬(quoteDecimals < 0 ∨ MAX_DECIMALS < quoteDecimals) := by
    have := hq.1
    have := hq.2
    omega
  simp only [checkDecimals, List.forIn_cons, List.forIn_nil, if_neg hbase, if_neg hquote]
  rfl

/-- On declared decimals a conversion is its division. -/
theorem convertAmount_eq (hb : Declarable baseDecimals) (hq : Declarable quoteDecimals)
    (ha : 0 ≤ amount) (rounding : Rounding) :
    convertAmount amount price baseDecimals quoteDecimals rounding =
      divRound (baseWorth price quoteDecimals amount)
        (10 ^ price.scale * 10 ^ baseDecimals.toNat) rounding := by
  unfold convertAmount
  rw [if_neg (not_lt.mpr ha), checkDecimals_ok hb hq]
  rfl

/-- And so is the conversion back. -/
theorem convertQuoteToBase_eq (hb : Declarable baseDecimals) (hq : Declarable quoteDecimals)
    (ha : 0 ≤ amount) (rounding : Rounding) :
    convertQuoteToBase amount price baseDecimals quoteDecimals rounding =
      divRound (quoteWorth price baseDecimals amount)
        (price.mantissa * 10 ^ quoteDecimals.toNat) rounding := by
  unfold convertQuoteToBase
  rw [if_neg (not_lt.mpr ha), checkDecimals_ok hb hq]
  rfl

/-- The worth of quote units as one multiple of the amount. -/
theorem quoteWorth_eq (price : Price) (baseDecimals amount : ℤ) :
    quoteWorth price baseDecimals amount =
      amount * (10 ^ price.scale * 10 ^ baseDecimals.toNat) := mul_assoc _ _ _

/-- The worth of base units as one multiple of the amount. -/
theorem baseWorth_eq (price : Price) (quoteDecimals amount : ℤ) :
    baseWorth price quoteDecimals amount =
      amount * (price.mantissa * 10 ^ quoteDecimals.toNat) := mul_assoc _ _ _

/-- Base units are worth nothing negative. -/
theorem baseWorth_nonneg (hp : 0 < price.mantissa) (ha : 0 ≤ amount) :
    0 ≤ baseWorth price quoteDecimals amount := by
  unfold baseWorth
  positivity

/-- Quote units are worth nothing negative. -/
theorem quoteWorth_nonneg (ha : 0 ≤ amount) : 0 ≤ quoteWorth price baseDecimals amount := by
  unfold quoteWorth
  positivity

/-- A base amount is converted down to the greatest quote amount worth no more, and up to the
least worth no less. -/
theorem convertAmount_rounds (hp : 0 < price.mantissa) (hb : Declarable baseDecimals)
    (hq : Declarable quoteDecimals) (ha : 0 ≤ amount) :
    (∃ result, convertAmount amount price baseDecimals quoteDecimals .down = .ok result ∧
      IsGreatest {quote | quoteWorth price baseDecimals quote ≤
        baseWorth price quoteDecimals amount} result) ∧
    (∃ result, convertAmount amount price baseDecimals quoteDecimals .up = .ok result ∧
      IsLeast {quote | baseWorth price quoteDecimals amount ≤
        quoteWorth price baseDecimals quote} result) := by
  have hn : 0 ≤ baseWorth price quoteDecimals amount := baseWorth_nonneg hp ha
  have hd : (0 : ℤ) < 10 ^ price.scale * 10 ^ baseDecimals.toNat := by positivity
  simp only [convertAmount_eq hb hq ha, quoteWorth_eq]
  exact ⟨divRound_down hn hd, divRound_up hn hd⟩

/-- And a quote amount likewise, back into the base asset. -/
theorem convertQuoteToBase_rounds (hp : 0 < price.mantissa) (hb : Declarable baseDecimals)
    (hq : Declarable quoteDecimals) (ha : 0 ≤ amount) :
    (∃ result, convertQuoteToBase amount price baseDecimals quoteDecimals .down = .ok result ∧
      IsGreatest {base | baseWorth price quoteDecimals base ≤
        quoteWorth price baseDecimals amount} result) ∧
    (∃ result, convertQuoteToBase amount price baseDecimals quoteDecimals .up = .ok result ∧
      IsLeast {base | quoteWorth price baseDecimals amount ≤
        baseWorth price quoteDecimals base} result) := by
  have hn : 0 ≤ quoteWorth price baseDecimals amount := quoteWorth_nonneg ha
  have hd : 0 < price.mantissa * 10 ^ quoteDecimals.toNat := by positivity
  simp only [convertQuoteToBase_eq hb hq ha, baseWorth_eq]
  exact ⟨divRound_down hn hd, divRound_up hn hd⟩

/-- There and back, rounded down both ways, never gains. -/
theorem there_and_back_le {tokens back : ℤ} (hp : 0 < price.mantissa)
    (hb : Declarable baseDecimals) (hq : Declarable quoteDecimals) (ha : 0 ≤ amount)
    (hthere : convertAmount amount price baseDecimals quoteDecimals .down = .ok tokens)
    (hback : convertQuoteToBase tokens price baseDecimals quoteDecimals .down = .ok back) :
    back ≤ amount := by
  obtain ⟨result, hr, hgreatest⟩ := (convertAmount_rounds hp hb hq ha).1
  cases hr.symm.trans hthere
  have htokens : 0 ≤ tokens := by
    refine hgreatest.2 ?_
    change quoteWorth price baseDecimals 0 ≤ _
    rw [show quoteWorth price baseDecimals 0 = 0 by simp [quoteWorth]]
    exact baseWorth_nonneg hp ha
  obtain ⟨result, hr, hfits⟩ := (convertQuoteToBase_rounds hp hb hq htokens).1
  cases hr.symm.trans hback
  have hworth : baseWorth price quoteDecimals back ≤ baseWorth price quoteDecimals amount :=
    hfits.1.trans hgreatest.1
  rw [baseWorth_eq, baseWorth_eq] at hworth
  exact le_of_mul_le_mul_right hworth (by positivity)

end IntentSolver.PriceFeed
