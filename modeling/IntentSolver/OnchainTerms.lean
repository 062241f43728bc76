import IntentSolver.ArkadeLockup
import IntentSolver.SwapTimelocks
import Mathlib.Data.Rat.Floor

/-!
# Terms of an onchain send: deadlines, the funding gate and refund fees

The solver funds an L1 HTLC the client claims with the preimage, and takes it
back once its locktime has matured. The gate asked before the funding bounds
both locktimes; a refund that stays unconfirmed is replaced at a fee that rises
toward the last moment a late claim could still be answered. Fee rates are
rational sats per vbyte; the power that interpolates between two rates is the
platform's own and comes in as a parameter.
-/

namespace IntentSolver.OnchainTerms

open ArkadeLockup SwapTimelocks

/-- How long a quoted swap stays fundable. -/
def DEFAULT_ONCHAIN_LOCKUP_TIMEOUT : ℤ := 15 * MINUTE

/-- Block interval the client's own guardrail uses. -/
def ONCHAIN_SECONDS_PER_BLOCK : ℤ := 600

/-- Margin a claim needs on top of its confirmations. -/
def ONCHAIN_CLAIM_MARGIN_SECONDS : ℤ := 90 * MINUTE

/-- Taproot dust. -/
def ONCHAIN_DUST_SATS : ℤ := 330

/-- How far median time past may lag the wall clock. -/
def HTLC_REFUND_MTP_MARGIN : ℤ := 90 * MINUTE

/-- Reorg depth under the solver's own refund before the lockup goes back. -/
def CLIENT_LOCKUP_RELEASE_DELAY_SECONDS : ℤ := 60 * MINUTE

/-- What the solver needs after learning the preimage to land its claim. -/
def ARKADE_CLAIM_WINDOW_SECONDS : ℤ := 90 * MINUTE

/-- Time that must remain before the refund opens when the HTLC is funded. -/
def MIN_ONCHAIN_FUND_WINDOW : ℤ := 90 * MINUTE

/-- The last instant a client claim can reach the chain. -/
def latestClaimArrival (htlcLocktime : ℤ) : ℤ := htlcLocktime + HTLC_REFUND_MTP_MARGIN

/-- The last instant the solver may still need to spend the lockup. -/
def arkadeClaimDeadline (htlcLocktime : ℤ) : ℤ :=
  latestClaimArrival htlcLocktime + ARKADE_CLAIM_WINDOW_SECONDS

/-- By when the solver's L1 refund must confirm. -/
def onchainRefundConfirmDeadline (refundLocktime : ℤ) : ℤ :=
  refundLocktime - ARKADE_CLAIM_WINDOW_SECONDS

/-- The earliest batch expiry that comes before the claim deadline, if any. -/
def expiryBeforeClaimDeadline (outputs : List FundedOutput) (htlcLocktime : ℤ) : Option ℤ :=
  let early := (outputs.filterMap FundedOutput.expiresAt).filter fun expiresAt =>
    decide (expiresAt < arkadeClaimDeadline htlcLocktime)
  early.min?

/-- What the funding gate looks at. -/
structure OnchainFunding where
  refundLocktime : ℤ
  htlcLocktime : ℤ
  minConfirmations : ℤ
  now : ℤ

/-- Asked immediately before the HTLC is funded; an error is the refusal. -/
def evaluateOnchainSendFunding (params : OnchainFunding) : Except String Unit :=
  let claimWindow :=
    params.minConfirmations * ONCHAIN_SECONDS_PER_BLOCK + ONCHAIN_CLAIM_MARGIN_SECONDS
  if params.refundLocktime - MIN_ONCHAIN_FUND_WINDOW ≤ params.now then
    .error "refused to fund: refund window closing"
  else if params.htlcLocktime - params.now ≤ claimWindow then
    .error ("refused to fund: " ++ toString (params.htlcLocktime - params.now) ++
      "s to htlc_locktime " ++ toString params.htlcLocktime ++ " is inside the " ++
      toString claimWindow ++ "s a " ++ toString params.minConfirmations ++
      "-confirmation claim needs — the client's arkade lockup is untouched and refunds at " ++
      toString params.refundLocktime)
  else .ok ()

/-! ## Replacing an unconfirmed refund -/

/-- About two blocks. -/
def FEE_BUMP_INTERVAL_SECONDS : ℤ := 20 * MINUTE

/-- From here to the deadline a version pays everything above dust. -/
def FEE_BUMP_ALL_IN_SECONDS : ℤ := 2 * FEE_BUMP_INTERVAL_SECONDS

/-- Further out than this a version only keeps up with the estimate. -/
def FEE_BUMP_RAMP_SECONDS : ℤ := 6 * FEE_BUMP_INTERVAL_SECONDS

/-- The relay floor, in sats per vbyte. -/
def MIN_RELAY_FEE_RATE : ℚ := 1

/-- A version this old is due for replacement. -/
def bumpDue (broadcastAt now : ℤ) : Bool := decide (FEE_BUMP_INTERVAL_SECONDS ≤ now - broadcastAt)

/-- What the time left calls for: the estimate far out, the cap at the
deadline, geometric between. -/
def urgencyFeeRate (power : ℚ → ℚ → ℚ) (estimateRate capRate : ℚ) (deadline now : ℤ) : ℚ :=
  let estimate := max estimateRate MIN_RELAY_FEE_RATE
  let left := deadline - now
  if capRate ≤ estimate ∨ left ≤ FEE_BUMP_ALL_IN_SECONDS then capRate
  else if FEE_BUMP_RAMP_SECONDS ≤ left then estimate
  else estimate * power (capRate / estimate)
    (((FEE_BUMP_RAMP_SECONDS - left : ℤ) : ℚ) /
      ((FEE_BUMP_RAMP_SECONDS - FEE_BUMP_ALL_IN_SECONDS : ℤ) : ℚ))

/-- The fee at this rate, capped to leave dust; none when even the cap cannot relay. -/
def affordableFee (vsize : ℤ) (feeRate : ℚ) (valueSats dustSats : ℤ) : Option ℤ :=
  let cap := valueSats - dustSats
  if cap < ⌈(vsize : ℚ) * MIN_RELAY_FEE_RATE⌉ then none
  else some (min ⌈(vsize : ℚ) * feeRate⌉ cap)

/-- A fee a refund can afford never eats into the dust it must leave. -/
theorem affordableFee_leaves_dust {vsize valueSats dustSats fee : ℤ} {feeRate : ℚ}
    (h : affordableFee vsize feeRate valueSats dustSats = some fee) :
    dustSats ≤ valueSats - fee := by
  unfold affordableFee at h
  dsimp only at h
  split at h
  · cases h
  · cases h
    have hle := min_le_right ⌈(vsize : ℚ) * feeRate⌉ (valueSats - dustSats)
    omega

end IntentSolver.OnchainTerms
