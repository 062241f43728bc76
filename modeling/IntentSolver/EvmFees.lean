import IntentSolver.ChainPace
import IntentSolver.Fallible
import IntentSolver.SwapStore
import Mathlib

/-!
# Fees that outlast a deadline

A transaction is includable while its fee cap covers the base fee, and the base fee rises by
at most an eighth per block, and by one wei where an eighth is less. The cap is compounded
over every block the deadline leaves room for. A policy ceiling may bind it, and doubles as
the point where compounding stops. Base fees are compared with what the chain may do, not
with one run of it. Numbers of blocks and seconds are exact here.
-/

namespace IntentSolver.EvmFees

open SwapStore ChainPace Fallible

/-- The base fee rises by at most an eighth per block. -/
def MAX_RISE_DENOMINATOR : ℤ := 8

/-- And never by less than one wei. -/
def MIN_RISE : ℤ := 1

/-- The two caps of a transaction. -/
structure FeeQuote where
  maxFeePerGas : ℤ
  maxPriorityFeePerGas : ℤ
  deriving DecidableEq

/-- What a price is asked for. -/
structure FeeInputs where
  /-- Base fee of the latest block. -/
  baseFeePerGas : ℤ
  /-- What the chain currently wants as a tip. -/
  tipPerGas : ℤ
  /-- How many blocks the transaction may need to survive unmined. -/
  blocksOfHeadroom : ℚ
  /-- The affordability bound. -/
  maxFeeCeilingPerGas : ℤ

/-- A priced transaction. -/
structure PricedFee extends FeeQuote where
  /-- The ceiling bound the answer. -/
  cappedByPolicy : Bool
  deriving DecidableEq

/-- The base fee after one full block. -/
def risen (fee : ℤ) : ℤ :=
  let rise := fee / MAX_RISE_DENOMINATOR
  fee + if MIN_RISE < rise then rise else MIN_RISE

/-- The compounding loop, left early once the fee is past `stopAbove`. -/
def compounded (stopAbove : Option ℤ) : ℕ → ℤ → ℤ
  | 0, fee => fee
  | blocks + 1, fee =>
    if stopAbove.any fun stop => decide (stop < fee) then fee
    else compounded stopAbove blocks (risen fee)

variable (text : ℚ → String)

/-- The highest the base fee can reach in `blocks`. -/
def worstCaseBaseFee (baseFeePerGas : ℤ) (blocks : ℚ) (stopAbove : Option ℤ) : Except Fault ℤ :=
  if baseFeePerGas < 0 then
    .error (.error ("baseFeePerGas must not be negative, got " ++ toString baseFeePerGas))
  else if blocks.den ≠ 1 ∨ blocks < 0 then
    .error (.error ("blocks must be a non-negative integer, got " ++ text blocks))
  else .ok (compounded stopAbove blocks.num.toNat baseFeePerGas)

/-- Price a transaction for its whole window, as far as the ceiling allows. -/
def priceTransaction (inputs : FeeInputs) : Except Fault PricedFee :=
  if inputs.tipPerGas < 0 then
    .error (.error ("tipPerGas must not be negative, got " ++ toString inputs.tipPerGas))
  else if inputs.maxFeeCeilingPerGas ≤ 0 then
    .error (.error ("maxFeeCeilingPerGas must be positive, got " ++
      toString inputs.maxFeeCeilingPerGas))
  else do
    let worst ← worstCaseBaseFee text inputs.baseFeePerGas inputs.blocksOfHeadroom
      (some inputs.maxFeeCeilingPerGas)
    let wanted := worst + inputs.tipPerGas
    let capped := decide (inputs.maxFeeCeilingPerGas < wanted)
    let maxFeePerGas := if capped then inputs.maxFeeCeilingPerGas else wanted
    return {
      maxFeePerGas
      maxPriorityFeePerGas :=
        if maxFeePerGas < inputs.tipPerGas then maxFeePerGas else inputs.tipPerGas
      cappedByPolicy := capped }

/-- How many blocks fit in a deadline, on the fastest cadence. -/
def blocksBefore (seconds fastestSecondsPerBlock : ℚ) : Except Fault ℚ :=
  if seconds ≤ 0 then .error (.error ("seconds must be positive, got " ++ text seconds))
  else if fastestSecondsPerBlock ≤ 0 then
    .error (.error ("fastestSecondsPerBlock must be positive, got " ++
      text fastestSecondsPerBlock))
  else .ok ⌈seconds / fastestSecondsPerBlock⌉

/-! ## Compounding -/

/-- One block raises the fee by an eighth, and by one at least. -/
theorem risen_eq (fee : ℤ) : risen fee = fee + max (fee / 8) 1 := by
  change fee + (if 1 < fee / 8 then fee / 8 else 1) = fee + max (fee / 8) 1
  split <;> omega

/-- A full block over a higher fee ends no lower. -/
theorem risen_monotone : Monotone risen := by
  intro low high h
  rw [risen_eq, risen_eq]
  omega

/-- A full block raises the fee. -/
theorem le_risen : id ≤ risen := by
  intro fee
  change fee ≤ risen fee
  rw [risen_eq]
  omega

/-- Left to run, the loop is the step iterated. -/
theorem compounded_none (blocks : ℕ) (fee : ℤ) :
    compounded none blocks fee = risen^[blocks] fee := by
  induction blocks generalizing fee with
  | zero => rfl
  | succ blocks ih =>
    rw [Function.iterate_succ_apply]
    exact ih (risen fee)

/-- Cut short, the loop is past the stop, and the whole of it is higher still. -/
theorem compounded_some (stop : ℤ) (blocks : ℕ) (fee : ℤ) :
    compounded (some stop) blocks fee = risen^[blocks] fee ∨
      stop < compounded (some stop) blocks fee ∧
        compounded (some stop) blocks fee ≤ risen^[blocks] fee := by
  induction blocks generalizing fee with
  | zero => exact .inl rfl
  | succ blocks ih =>
    unfold compounded
    by_cases hs : stop < fee
    · rw [if_pos (by simpa using hs)]
      exact .inr ⟨hs, Function.id_le_iterate_of_id_le le_risen (blocks + 1) fee⟩
    · rw [if_neg (by simpa using hs), Function.iterate_succ_apply]
      exact ih (risen fee)

/-- Both counts compound to more on more blocks and on a higher fee. -/
theorem iterate_risen_mono {blocks more : ℕ} {low high : ℤ} (hb : blocks ≤ more) (hf : low ≤ high) :
    risen^[blocks] low ≤ risen^[more] high :=
  calc risen^[blocks] low ≤ risen^[more] low :=
        Function.monotone_iterate_of_id_le le_risen hb low
    _ ≤ risen^[more] high := risen_monotone.iterate more hf

/-- No chain that keeps the step outruns the iterated step. -/
theorem le_iterate_risen {baseFee : ℕ → ℤ} {blocks : ℕ}
    (hs : ∀ i < blocks, baseFee (i + 1) ≤ baseFee i + max (baseFee i / 8) 1) :
    ∀ i ≤ blocks, baseFee i ≤ risen^[i] (baseFee 0) := by
  intro i hi
  induction i with
  | zero => exact le_rfl
  | succ i ih =>
    have hstep := hs i hi
    rw [← risen_eq] at hstep
    rw [Function.iterate_succ_apply']
    exact hstep.trans (risen_monotone (ih (Nat.le_of_succ_le hi)))

/-! ## The price -/

/-- What a price may be asked for. -/
structure FeeInputs.Priceable (inputs : FeeInputs) : Prop where
  base : 0 ≤ inputs.baseFeePerGas
  tip : 0 ≤ inputs.tipPerGas
  ceiling : 0 < inputs.maxFeeCeilingPerGas
  blocks : ∃ blocks : ℕ, inputs.blocksOfHeadroom = blocks

/-- The fully compounded base fee and the tip. -/
def FeeInputs.wanted (inputs : FeeInputs) : ℤ :=
  risen^[inputs.blocksOfHeadroom.num.toNat] inputs.baseFeePerGas + inputs.tipPerGas

/-- The price as a function of the whole window. -/
def FeeInputs.price (inputs : FeeInputs) : PricedFee where
  maxFeePerGas := min inputs.wanted inputs.maxFeeCeilingPerGas
  maxPriorityFeePerGas := min inputs.tipPerGas (min inputs.wanted inputs.maxFeeCeilingPerGas)
  cappedByPolicy := decide (inputs.maxFeeCeilingPerGas < inputs.wanted)

variable {text}

/-- A count of blocks is a natural number. -/
theorem natural_iff {blocks : ℚ} :
    ¬(blocks.den ≠ 1 ∨ blocks < 0) ↔ ∃ count : ℕ, blocks = count := by
  constructor
  · intro h
    simp only [not_or, not_not, not_lt] at h
    obtain ⟨count, hcount⟩ := Int.eq_ofNat_of_zero_le (Rat.num_nonneg.mpr h.2)
    refine ⟨count, ?_⟩
    rw [← (Rat.den_eq_one_iff blocks).mp h.1, hcount]
    rfl
  · rintro ⟨count, rfl⟩
    simp

/-- A worst case is answered for a fee and a whole number of blocks, and is the compounded one. -/
theorem worstCaseBaseFee_ok_iff {baseFeePerGas : ℤ} {blocks : ℚ} {stopAbove : Option ℤ}
    {worst : ℤ} :
    worstCaseBaseFee text baseFeePerGas blocks stopAbove = .ok worst ↔
      0 ≤ baseFeePerGas ∧ (∃ count : ℕ, blocks = count) ∧
        compounded stopAbove blocks.num.toNat baseFeePerGas = worst := by
  rw [← natural_iff]
  unfold worstCaseBaseFee
  by_cases hb : baseFeePerGas < 0
  · simp [hb, not_le.mpr hb]
  rw [if_neg hb]
  by_cases hc : blocks.den ≠ 1 ∨ blocks < 0
  · rw [if_pos hc]
    simp [hc]
  · rw [if_neg hc]
    simp [hc, not_lt.mp hb]

/-- The stop never changes the price: whatever can be priced is priced for its whole window
as far as the ceiling allows, and nothing else is priced. -/
theorem priceTransaction_ok_iff {inputs : FeeInputs} {priced : PricedFee} :
    priceTransaction text inputs = .ok priced ↔ inputs.Priceable ∧ priced = inputs.price := by
  unfold priceTransaction
  by_cases ht : inputs.tipPerGas < 0
  · rw [if_pos ht]
    simp only [reduceCtorEq, false_iff, not_and]
    intro hp
    exact absurd hp.tip (not_le.mpr ht)
  by_cases hc : inputs.maxFeeCeilingPerGas ≤ 0
  · rw [if_neg ht, if_pos hc]
    simp only [reduceCtorEq, false_iff, not_and]
    intro hp
    exact absurd hp.ceiling (not_lt.mpr hc)
  rw [if_neg ht, if_neg hc]
  have hprice : ∀ worst, compounded (some inputs.maxFeeCeilingPerGas)
      inputs.blocksOfHeadroom.num.toNat inputs.baseFeePerGas = worst →
      min (worst + inputs.tipPerGas) inputs.maxFeeCeilingPerGas =
          min inputs.wanted inputs.maxFeeCeilingPerGas ∧
        (inputs.maxFeeCeilingPerGas < worst + inputs.tipPerGas ↔
          inputs.maxFeeCeilingPerGas < inputs.wanted) := by
    intro worst hw
    have hs := compounded_some inputs.maxFeeCeilingPerGas inputs.blocksOfHeadroom.num.toNat
      inputs.baseFeePerGas
    rw [hw] at hs
    unfold FeeInputs.wanted
    omega
  have hcapped : ∀ wanted : ℤ,
      (if decide (inputs.maxFeeCeilingPerGas < wanted) = true then inputs.maxFeeCeilingPerGas
        else wanted) = min wanted inputs.maxFeeCeilingPerGas := by
    intro wanted
    simp only [decide_eq_true_eq]
    split <;> omega
  have htip : ∀ maxFee : ℤ, (if maxFee < inputs.tipPerGas then maxFee else inputs.tipPerGas) =
      min inputs.tipPerGas maxFee := by
    intro maxFee
    split <;> omega
  constructor
  · intro h
    obtain ⟨worst, hw, hp⟩ := bind_ok h
    obtain ⟨hbase, hblocks, hcomp⟩ := worstCaseBaseFee_ok_iff.mp hw
    obtain ⟨hmin, hiff⟩ := hprice worst hcomp
    refine ⟨⟨hbase, not_lt.mp ht, not_le.mp hc, hblocks⟩, ?_⟩
    cases hp
    simp only [hcapped, htip, hmin, FeeInputs.price, PricedFee.mk.injEq, true_and]
    exact decide_eq_decide.mpr hiff
  · rintro ⟨hp, rfl⟩
    have hw : worstCaseBaseFee text inputs.baseFeePerGas inputs.blocksOfHeadroom
        (some inputs.maxFeeCeilingPerGas) = .ok _ :=
      worstCaseBaseFee_ok_iff.mpr ⟨hp.base, hp.blocks, rfl⟩
    rw [hw, ok_bind]
    obtain ⟨hmin, hiff⟩ := hprice _ rfl
    simp only [hcapped, htip, hmin, FeeInputs.price]
    rw [decide_eq_decide.mpr hiff]
    rfl

/-- Everything in order can be priced. -/
theorem priceTransaction_answers {inputs : FeeInputs} (h : inputs.Priceable) :
    priceTransaction text inputs = .ok inputs.price := priceTransaction_ok_iff.mpr ⟨h, rfl⟩

/-- A price no ceiling bound covers every fee the chain can reach in the window. -/
theorem price_covers {inputs : FeeInputs} {baseFee : ℕ → ℤ}
    (hc : inputs.price.cappedByPolicy = false) (hstart : baseFee 0 = inputs.baseFeePerGas)
    (hstep : ∀ i : ℕ, (i : ℚ) < inputs.blocksOfHeadroom →
      baseFee (i + 1) ≤ baseFee i + max (baseFee i / 8) 1)
    (hp : inputs.Priceable) (i : ℕ) (hi : (i : ℚ) ≤ inputs.blocksOfHeadroom) :
    baseFee i + inputs.tipPerGas ≤ inputs.price.maxFeePerGas := by
  obtain ⟨blocks, hblocks⟩ := hp.blocks
  rw [hblocks] at hi hstep
  have hbound : baseFee i ≤ risen^[i] (baseFee 0) :=
    le_iterate_risen (fun k hk => hstep k (by exact_mod_cast hk)) i (by exact_mod_cast hi)
  have hmore : risen^[i] (baseFee 0) ≤ risen^[blocks] (baseFee 0) :=
    iterate_risen_mono (by exact_mod_cast hi) le_rfl
  have hwithin : ¬inputs.maxFeeCeilingPerGas < inputs.wanted := of_decide_eq_false hc
  have hfee : inputs.price.maxFeePerGas = inputs.wanted := min_eq_left (not_lt.mp hwithin)
  rw [hfee]
  unfold FeeInputs.wanted
  rw [hblocks, Rat.num_natCast, Int.toNat_natCast, ← hstart]
  omega

/-- Asking for more never lowers any part of the price. -/
theorem price_mono {inputs larger : FeeInputs} (hp : inputs.Priceable) (hl : larger.Priceable)
    (hb : inputs.baseFeePerGas ≤ larger.baseFeePerGas) (ht : inputs.tipPerGas ≤ larger.tipPerGas)
    (hn : inputs.blocksOfHeadroom ≤ larger.blocksOfHeadroom)
    (hc : inputs.maxFeeCeilingPerGas = larger.maxFeeCeilingPerGas) :
    inputs.price.maxFeePerGas ≤ larger.price.maxFeePerGas ∧
      inputs.price.maxPriorityFeePerGas ≤ larger.price.maxPriorityFeePerGas ∧
      inputs.price.cappedByPolicy ≤ larger.price.cappedByPolicy := by
  obtain ⟨blocks, hblocks⟩ := hp.blocks
  obtain ⟨more, hmore⟩ := hl.blocks
  rw [hblocks, hmore] at hn
  have hfee : inputs.wanted ≤ larger.wanted := by
    unfold FeeInputs.wanted
    rw [hblocks, hmore, Rat.num_natCast, Rat.num_natCast, Int.toNat_natCast, Int.toNat_natCast]
    have hrise := iterate_risen_mono (Nat.cast_le.mp hn) hb
    omega
  have hmax : min inputs.wanted inputs.maxFeeCeilingPerGas ≤
      min larger.wanted larger.maxFeeCeilingPerGas := min_le_min hfee hc.le
  refine ⟨hmax, min_le_min ht hmax, ?_⟩
  rw [Bool.le_iff_imp]
  intro hcapped
  have hover : inputs.maxFeeCeilingPerGas < inputs.wanted := of_decide_eq_true hcapped
  exact decide_eq_true (by omega)

/-- What a price promises. Every request in order gets one. Uncapped, it covers the base fee and
the tip in every block of the window, on every chain that keeps the step. It is capped exactly
when the step taken in every block of the window, which is what the worst case without its stop
comes to, and the tip are past the ceiling. No part of it falls when the base fee, the tip
or the window grows. And the tip cap, the fee cap and the ceiling are in order. -/
theorem fee_headroom {inputs : FeeInputs} {priced : PricedFee}
    (h : priceTransaction text inputs = .ok priced) :
    (∀ request : FeeInputs, request.Priceable →
      ∃ answer, priceTransaction text request = .ok answer) ∧
    (priced.cappedByPolicy = false →
      ∀ baseFee : ℕ → ℤ, baseFee 0 = inputs.baseFeePerGas →
        (∀ i : ℕ, (i : ℚ) < inputs.blocksOfHeadroom →
          baseFee (i + 1) ≤ baseFee i + max (baseFee i / 8) 1) →
        ∀ i : ℕ, (i : ℚ) ≤ inputs.blocksOfHeadroom →
          baseFee i + inputs.tipPerGas ≤ priced.maxFeePerGas) ∧
    (∃ worst, worst = risen^[inputs.blocksOfHeadroom.num.toNat] inputs.baseFeePerGas ∧
      worstCaseBaseFee text inputs.baseFeePerGas inputs.blocksOfHeadroom none = .ok worst ∧
      (priced.cappedByPolicy = true ↔ inputs.maxFeeCeilingPerGas < worst + inputs.tipPerGas)) ∧
    (∀ larger more, priceTransaction text larger = .ok more →
      inputs.baseFeePerGas ≤ larger.baseFeePerGas → inputs.tipPerGas ≤ larger.tipPerGas →
      inputs.blocksOfHeadroom ≤ larger.blocksOfHeadroom →
      inputs.maxFeeCeilingPerGas = larger.maxFeeCeilingPerGas →
      priced.maxFeePerGas ≤ more.maxFeePerGas ∧
        priced.maxPriorityFeePerGas ≤ more.maxPriorityFeePerGas ∧
        priced.cappedByPolicy ≤ more.cappedByPolicy) ∧
    priced.maxPriorityFeePerGas ≤ priced.maxFeePerGas ∧
    priced.maxFeePerGas ≤ inputs.maxFeeCeilingPerGas := by
  obtain ⟨hp, rfl⟩ := priceTransaction_ok_iff.mp h
  refine ⟨fun request hr => ⟨request.price, priceTransaction_answers hr⟩,
    fun hc baseFee hstart hstep => price_covers hc hstart hstep hp,
    ⟨_, rfl, ?_, decide_eq_true_iff⟩, ?_, min_le_right _ _, min_le_right _ _⟩
  · exact worstCaseBaseFee_ok_iff.mpr ⟨hp.base, hp.blocks, compounded_none _ _⟩
  · intro larger more hm hb ht hn hc
    obtain ⟨hl, rfl⟩ := priceTransaction_ok_iff.mp hm
    exact price_mono hp hl hb ht hn hc

/-- Four wei, two full blocks and a tip of one: the one-wei rises are what the fee cap holds. -/
theorem fee_headroom_sample :
    priceTransaction (fun _ => "") ⟨4, 1, 2, 100⟩ = .ok ⟨⟨7, 1⟩, false⟩ ∧
      (∀ baseFee : ℕ → ℤ, baseFee 0 = 4 →
        (∀ i : ℕ, (i : ℚ) < 2 → baseFee (i + 1) ≤ baseFee i + max (baseFee i / 8) 1) →
        baseFee 2 + 1 ≤ 7) := by
  have hp : priceTransaction (fun _ => "") ⟨4, 1, 2, 100⟩ = .ok ⟨⟨7, 1⟩, false⟩ :=
    priceTransaction_ok_iff.mpr
      ⟨⟨by norm_num, by norm_num, by norm_num, ⟨2, by norm_num⟩⟩, by decide +kernel⟩
  exact ⟨hp, fun baseFee hstart hstep =>
    (fee_headroom hp).2.1 rfl baseFee hstart hstep 2 (by norm_num)⟩

/-- Priced for a deadline with no ceiling in the way, a transaction is includable in every
block that arrives before it, on a chain no faster than the cadence says. -/
theorem includable_before_deadline {inputs : FeeInputs} {priced : PricedFee}
    {seconds fastest moment : ℚ} {height : ℤ} {arrival : ℤ → ℚ} {baseFee : ℕ → ℤ}
    (hn : blocksBefore text seconds fastest = .ok inputs.blocksOfHeadroom)
    (h : priceTransaction text inputs = .ok priced) (hc : priced.cappedByPolicy = false)
    (ha : NoFaster arrival fastest moment height) (hstart : baseFee 0 = inputs.baseFeePerGas)
    (hstep : ∀ i, baseFee (i + 1) ≤ baseFee i + max (baseFee i / 8) 1) (i : ℕ)
    (hi : arrival (height + (i + 1 : ℕ)) ≤ moment + seconds) :
    baseFee (i + 1) + inputs.tipPerGas ≤ priced.maxFeePerGas := by
  obtain ⟨hp, rfl⟩ := priceTransaction_ok_iff.mp h
  refine price_covers hc hstart (fun i _ => hstep i) hp (i + 1) ?_
  unfold blocksBefore at hn
  split at hn
  · cases hn
  split at hn
  · cases hn
  next hf =>
    have hreach := ha.reaches i
    have hfit : ((i + 1 : ℕ) : ℚ) ≤ seconds / fastest := by
      rw [le_div_iff₀ (not_le.mp hf)]
      linarith
    rw [← Except.ok.inj hn]
    exact hfit.trans (Int.le_ceil _)

end IntentSolver.EvmFees
