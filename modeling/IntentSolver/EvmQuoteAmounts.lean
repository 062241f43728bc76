import IntentSolver.CorridorPolicy
import IntentSolver.PriceFeed

/-!
# The amounts of the EVM quotes

A send quote takes its fee off the sats and converts the payout into the token. A receive
quote converts the token into sats and takes its fee off those. Both conversions are rounded
down, since the solver pays both results out, so tokens bought and sold back at one price
never bring in more than they cost.
-/

namespace IntentSolver.EvmQuoteAmounts

open CorridorPolicy PriceFeed

/-- What a token's market admits, in the token's own units. -/
structure TokenLimits where
  minUnits : ℤ
  maxUnits : ℤ

/-- The bounds of a corridor, in sats. -/
structure SatsLimits where
  minSats : ℤ
  maxSats : ℤ

/-- A token the corridor serves. -/
structure ServedToken where
  decimals : ℤ
  tokenLimits : Option TokenLimits
  limits : SatsLimits
  fee : Fee

/-- Why an amount is not quoted. -/
inductive AmountRefusal where
  | feeConsumesSwap
  | invalidEvmAmount
  | priceUnavailable
  | payoutBelowDust
  | amountOutOfRange
  deriving DecidableEq

/-- Satoshis have eight decimals. -/
def SAT_DECIMALS : ℤ := 8

/-- The largest integer a double holds exactly together with all below it. -/
def MAX_SAFE_INTEGER : ℤ := 2 ^ 53 - 1

/-- Outside the inventory bound. -/
def ServedToken.outside (served : ServedToken) (units : ℤ) : Bool :=
  served.tokenLimits.any fun limits => decide (units < limits.minUnits ∨ limits.maxUnits < units)

/-- The tokens a send quote pays out for these sats. -/
def evmSendAmount (served : ServedToken) (price : Price) (amountSats : ℕ) :
    Except AmountRefusal ℤ :=
  let payoutSats := payoutSatsFor amountSats served.fee
  if payoutSats ≤ 0 then .error .feeConsumesSwap
  else match convertAmount payoutSats price SAT_DECIMALS served.decimals .down with
    | .error _ => .error .priceUnavailable
    | .ok evmAmount =>
      if evmAmount ≤ 0 then .error .payoutBelowDust
      else if served.outside evmAmount then .error .amountOutOfRange
      else .ok evmAmount

/-- The sats a receive quote pays out for these tokens. -/
def evmReceiveAmount (served : ServedToken) (price : Price) (locked : ℤ) :
    Except AmountRefusal ℤ :=
  if locked ≤ 0 then .error .invalidEvmAmount
  else if served.outside locked then .error .amountOutOfRange
  else match convertQuoteToBase locked price SAT_DECIMALS served.decimals .down with
    | .error _ => .error .priceUnavailable
    | .ok grossSats =>
      if MAX_SAFE_INTEGER < grossSats then .error .amountOutOfRange
      else if grossSats < served.limits.minSats ∨ served.limits.maxSats < grossSats then
        .error .amountOutOfRange
      else
        let payoutSats := payoutSatsFor grossSats.toNat served.fee
        if payoutSats ≤ 0 then .error .feeConsumesSwap else .ok payoutSats

variable {served : ServedToken} {price : Price}

/-- What stands behind an accepted send amount. -/
theorem evmSendAmount_ok {amountSats : ℕ} {evmAmount : ℤ}
    (h : evmSendAmount served price amountSats = .ok evmAmount) :
    0 < payoutSatsFor amountSats served.fee ∧ 0 < evmAmount ∧
      convertAmount (payoutSatsFor amountSats served.fee) price SAT_DECIMALS served.decimals
        .down = .ok evmAmount := by
  unfold evmSendAmount at h
  dsimp only at h
  split at h
  · cases h
  next hpayout =>
  split at h
  · cases h
  next converted hc =>
  split at h
  · cases h
  next hpos =>
  split at h
  · cases h
  · cases h
    exact ⟨not_le.mp hpayout, not_le.mp hpos, hc⟩

/-- What stands behind an accepted receive amount. -/
theorem evmReceiveAmount_ok {locked payoutSats : ℤ}
    (h : evmReceiveAmount served price locked = .ok payoutSats) :
    0 < payoutSats ∧ ∃ grossSats,
      convertQuoteToBase locked price SAT_DECIMALS served.decimals .down = .ok grossSats ∧
        payoutSats = payoutSatsFor grossSats.toNat served.fee := by
  unfold evmReceiveAmount at h
  split at h
  · cases h
  split at h
  · cases h
  split at h
  · cases h
  next grossSats hc =>
  split at h
  · cases h
  split at h
  · cases h
  dsimp only at h
  split at h
  · cases h
  next hpayout =>
    cases h
    exact ⟨not_le.mp hpayout, grossSats, hc, rfl⟩

/-- Sats sold for tokens and bought back at the same price bring in no more than they cost,
whatever the two corridors' fees and bounds are. -/
theorem round_trip_le {back : ServedToken} {amountSats : ℕ} {evmAmount payoutSats : ℤ}
    (hp : 0 < price.mantissa) (hd : Declarable served.decimals)
    (hsame : back.decimals = served.decimals)
    (hsend : evmSendAmount served price amountSats = .ok evmAmount)
    (hreceive : evmReceiveAmount back price evmAmount = .ok payoutSats) :
    payoutSats ≤ amountSats := by
  obtain ⟨hpayout, -, hthere⟩ := evmSendAmount_ok hsend
  obtain ⟨hpos, grossSats, hback, rfl⟩ := evmReceiveAmount_ok hreceive
  rw [hsame] at hback
  have hsat : Declarable SAT_DECIMALS := by
    unfold Declarable SAT_DECIMALS MAX_DECIMALS
    omega
  have hgross := there_and_back_le hp hsat hd hpayout.le hthere hback
  have hkept := payoutSatsFor_le amountSats served.fee
  have hrest := payoutSatsFor_le grossSats.toNat back.fee
  omega

/-- Nothing is given away. Rounded down, both conversions give the greatest amount worth no
more than what came in, and rounded up the least worth no less. A send quote and a receive
quote of the same tokens at one price pay back no more sats than went in. And the exact-out
give is the least that pays what was asked, and pays exactly that. -/
theorem conversion_gives_nothing_away {price : Price} (hp : 0 < price.mantissa) :
    (∀ baseDecimals quoteDecimals amount : ℤ, Declarable baseDecimals →
      Declarable quoteDecimals → 0 ≤ amount →
      ((∃ result, convertAmount amount price baseDecimals quoteDecimals .down = .ok result ∧
          IsGreatest {quote | quoteWorth price baseDecimals quote ≤
            baseWorth price quoteDecimals amount} result) ∧
        (∃ result, convertAmount amount price baseDecimals quoteDecimals .up = .ok result ∧
          IsLeast {quote | baseWorth price quoteDecimals amount ≤
            quoteWorth price baseDecimals quote} result)) ∧
      (∃ result, convertQuoteToBase amount price baseDecimals quoteDecimals .down = .ok result ∧
        IsGreatest {base | baseWorth price quoteDecimals base ≤
          quoteWorth price baseDecimals amount} result) ∧
      (∃ result, convertQuoteToBase amount price baseDecimals quoteDecimals .up = .ok result ∧
        IsLeast {base | quoteWorth price baseDecimals amount ≤
          baseWorth price quoteDecimals base} result)) ∧
    (∀ (out back : ServedToken) (amountSats : ℕ) (evmAmount payoutSats : ℤ),
      Declarable out.decimals → back.decimals = out.decimals →
      evmSendAmount out price amountSats = .ok evmAmount →
      evmReceiveAmount back price evmAmount = .ok payoutSats → payoutSats ≤ amountSats) ∧
    (∀ fee : Fee, fee.bps < 10000 → ∀ rounds payoutSats : ℕ,
      ∃ give, giveSatsFor rounds payoutSats fee = some give ∧
        IsLeast {give : ℕ | (payoutSats : ℤ) ≤ payoutSatsFor give fee} give ∧
        payoutSatsFor give fee = payoutSats) := by
  refine ⟨fun baseDecimals quoteDecimals amount hb hq ha =>
    ⟨convertAmount_rounds hp hb hq ha, convertQuoteToBase_rounds hp hb hq ha⟩, ?_,
    fun fee hb rounds payoutSats => giveSatsFor_least hb rounds payoutSats⟩
  intro out back amountSats evmAmount payoutSats hd hsame hsend hreceive
  exact round_trip_le hp hd hsame hsend hreceive

/-- A token of six decimals at 65000.5 of it per coin, for one per cent each way. -/
def sampleToken : ServedToken where
  decimals := 6
  tokenLimits := none
  limits := ⟨1000, 10000000⟩
  fee := ⟨100, 0⟩

/-- A million sats go out as 643504950 units, which come back as 980100 sats. -/
theorem conversion_gives_nothing_away_sample :
    evmSendAmount sampleToken ⟨650005, 1⟩ 1000000 = .ok 643504950 ∧
      evmReceiveAmount sampleToken ⟨650005, 1⟩ 643504950 = .ok 980100 ∧
      (980100 : ℤ) ≤ (1000000 : ℕ) := by
  have hsend : evmSendAmount sampleToken ⟨650005, 1⟩ 1000000 = .ok 643504950 := by
    decide +kernel
  have hreceive : evmReceiveAmount sampleToken ⟨650005, 1⟩ 643504950 = .ok 980100 := by
    decide +kernel
  have hd : Declarable sampleToken.decimals := ⟨by decide, by decide⟩
  exact ⟨hsend, hreceive, (@conversion_gives_nothing_away ⟨650005, 1⟩ (by decide)).2.1
    sampleToken sampleToken 1000000 643504950 980100 hd rfl hsend hreceive⟩

end IntentSolver.EvmQuoteAmounts
