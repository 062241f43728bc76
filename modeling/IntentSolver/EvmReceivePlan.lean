import IntentSolver.EvmPort
import Mathlib.Algebra.Order.Ring.Rat

/-!
# What an EVM receive does next

The mirror of the send planner with the risk reversed: the solver commits sats against a
token lock it did not create. A preimage means the sats are out, so claiming the ERC20
outranks everything; a claim is sent while none is on record, and the row waits for the
receipt of the one that is.
-/

namespace IntentSolver.EvmReceivePlan

open EvmPort

/-- States of an EVM receive. -/
inductive EvmReceiveSwapState where
  | quoted
  | awaitingLock
  | locked
  | fundingArkade
  | awaitingClaim
  | claiming
  | claimed
  | refundingArkade
  | refunded
  | refused
  | stuck
  deriving DecidableEq

/-- States the planner never moves a row out of. -/
def TERMINAL : List EvmReceiveSwapState := [.claimed, .refunded, .refused, .stuck]

/-- The planner's view of a row. -/
structure EvmReceivePlanRow where
  state : EvmReceiveSwapState
  refundLocktime : ℤ
  /-- Height from which the client may take the tokens back. -/
  evmTimeout : ℤ
  validUntil : ℤ
  minConfirmations : ℤ
  minAgeSeconds : ℚ
  preimage : Option String
  /-- Set once the claim is broadcast. -/
  evmClaimTxid : Option String

/-- Blocks a funding may take to land. -/
def EVM_RECEIVE_FUND_LANDING_BLOCKS : ℤ := 20

/-- Blocks a claim may take to land. -/
def EVM_RECEIVE_CLAIM_LANDING_BLOCKS : ℤ := 40

/-- Both landings. -/
def EVM_RECEIVE_CLAIM_MARGIN_BLOCKS : ℤ :=
  EVM_RECEIVE_FUND_LANDING_BLOCKS + EVM_RECEIVE_CLAIM_LANDING_BLOCKS

/-- Why a lock that times out soon is not funded against. -/
def EVM_RECEIVE_FUND_WINDOW_REFUSAL : String := "client ERC20 timeout too close to fund against"

/-- Too little of the client's timeout is left to fund and claim. -/
def evmReceiveFundWindowClosed (evmTimelockHeight evmTimeout : ℤ) : Bool :=
  decide (evmTimeout ≤ evmTimelockHeight + EVM_RECEIVE_CLAIM_MARGIN_BLOCKS)

/-- What was observed about the world. -/
structure EvmReceiveObservation where
  evmLockPresent : Bool
  evmLockConfirmations : ℤ
  evmLockAgeSeconds : ℤ
  arkadeLockupFunded : Bool
  evmClaimOutcome : EvmTransactionOutcome
  preimage : Option String
  nowSeconds : ℤ
  evmTimelockHeight : ℤ

/-- What to do next. -/
inductive EvmReceiveAction where
  | wait
  | fundArkade
  | awaitClaim
  | claimEvm (preimage : String)
  | recordClaim
  | refundArkade
  | refuse (reason : String)
  | stick (reason : String)
  deriving DecidableEq

/-- The incident of a claim that did not pay. -/
def CLAIM_REVERTED : String := "the ERC20 claim transaction reverted; the solver has not been paid"

/-- The incident of a preimage that came too late. -/
def CLAIM_TIMED_OUT : String := "preimage revealed but the client ERC20 timeout has passed"

/-- Decide once a preimage is known: the sats are out and the ERC20 is the payment. -/
def planRevealed (row : EvmReceivePlanRow) (seen : EvmReceiveObservation) (preimage : String) :
    EvmReceiveAction :=
  if row.evmClaimTxid ≠ none ∧ seen.evmClaimOutcome = .success then .recordClaim
  else if row.evmTimeout ≤ seen.evmTimelockHeight then .stick CLAIM_TIMED_OUT
  else if row.evmClaimTxid ≠ none then
    if seen.evmClaimOutcome = .reverted then .stick CLAIM_REVERTED else .wait
  else .claimEvm preimage

/-- Decide for a row without a preimage, by its state. -/
def planByState (row : EvmReceivePlanRow) (seen : EvmReceiveObservation) : EvmReceiveAction :=
  match row.state with
  | .quoted | .awaitingLock =>
    if !seen.evmLockPresent then
      if row.validUntil ≤ seen.nowSeconds then .refuse "quote expired before the client locked"
      else if row.refundLocktime ≤ seen.nowSeconds then .refuse "client never locked the ERC20"
      else .wait
    else if row.validUntil ≤ seen.nowSeconds then
      .refuse "ERC20 lock observed after the quote expired"
    else if seen.evmLockConfirmations < row.minConfirmations ∨
        seen.evmLockAgeSeconds < row.minAgeSeconds then .wait
    else if evmReceiveFundWindowClosed seen.evmTimelockHeight row.evmTimeout then
      .refuse EVM_RECEIVE_FUND_WINDOW_REFUSAL
    else .fundArkade
  | .locked => .fundArkade
  | .fundingArkade => if seen.arkadeLockupFunded then .awaitClaim else .wait
  | .awaitingClaim => if row.refundLocktime ≤ seen.nowSeconds then .refundArkade else .wait
  | .refundingArkade => if seen.arkadeLockupFunded then .refundArkade else .wait
  | _ => .wait

/-- Decide what the row needs next. -/
def planEvmReceive (row : EvmReceivePlanRow) (seen : EvmReceiveObservation) : EvmReceiveAction :=
  if row.state ∈ TERMINAL then .wait
  else match seen.preimage.or row.preimage with
    | some preimage => planRevealed row seen preimage
    | none => planByState row seen

/-- States before the solver's sats go out. -/
def Uncommitted (state : EvmReceiveSwapState) : Prop :=
  state = .quoted ∨ state = .awaitingLock ∨ state = .locked

/-- What holds of the row and the observation whenever the planner gives this order. -/
def Presupposes (row : EvmReceivePlanRow) (seen : EvmReceiveObservation) : EvmReceiveAction → Prop
  | .wait => True
  | .fundArkade => Uncommitted row.state
  | .awaitClaim => row.state = .fundingArkade
  | .claimEvm _ => row.state ∉ TERMINAL ∧ row.evmClaimTxid = none
  | .recordClaim => seen.evmClaimOutcome = .success
  | .refundArkade => row.state = .awaitingClaim ∨ row.state = .refundingArkade
  | .refuse _ => Uncommitted row.state
  | .stick reason => row.state ∉ TERMINAL ∧
      (reason = CLAIM_REVERTED → row.evmClaimTxid ≠ none ∧ seen.evmClaimOutcome = .reverted)

/-- Every order of the planner rests on what its rule asks for. -/
theorem planEvmReceive_presupposes (row : EvmReceivePlanRow) (seen : EvmReceiveObservation) :
    Presupposes row seen (planEvmReceive row seen) := by
  unfold planEvmReceive
  split
  · trivial
  next ht =>
  split
  next preimage _ =>
    unfold planRevealed
    split
    next hs => exact hs.2
    split
    · exact ⟨ht, fun hr => absurd hr (by decide)⟩
    split
    next hc =>
      split
      next ho => exact ⟨ht, fun _ => ⟨hc, ho⟩⟩
      · trivial
    next hc => exact ⟨ht, by simpa using hc⟩
  · unfold planByState
    split
    case h_1 hs | h_2 hs =>
      have hu : Uncommitted row.state := by
        unfold Uncommitted
        simp [hs]
      repeat' split
      all_goals first | exact hu | trivial
    next hs => exact .inr (.inr hs)
    next hs =>
      split
      · exact hs
      · trivial
    next hs =>
      split
      · exact .inl hs
      · trivial
    next hs =>
      split
      · exact .inr hs
      · trivial
    · trivial

end IntentSolver.EvmReceivePlan
