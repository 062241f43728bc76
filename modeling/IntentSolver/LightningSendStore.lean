import IntentSolver.LightningPort
import IntentSolver.LockupCollection

/-!
# The Lightning send table

One `send_swap` row: the columns the corridor reads and writes, its lifecycle
and the two column allowlists. JSON columns hold their parsed values. Columns
that only serve to rebuild the covenant script or to show a swap to an
operator are left out.
-/

namespace IntentSolver.LightningSendStore

open SwapStore ArkadeLockup LockupCollection LightningPort

/-- Lifecycle of a Lightning send. -/
inductive SendSwapState where
  | quoted
  | funded
  | paying
  | paid
  | claiming
  | claimed
  | refused
  | stuck
  deriving DecidableEq

/-- State names as the database spells them. -/
def SendSwapState.name : SendSwapState → String
  | quoted => "quoted"
  | funded => "funded"
  | paying => "paying"
  | paid => "paid"
  | claiming => "claiming"
  | claimed => "claimed"
  | refused => "refused"
  | stuck => "stuck"

/-- The lifecycle table. -/
def LnSendMachine : SendSwapState → StateSpec SendSwapState
  | .quoted => ⟨true, false, [.funded, .refused]⟩
  | .funded => ⟨true, false, [.paying, .claiming, .refused]⟩
  | .paying => ⟨true, true, [.paid, .stuck, .refused]⟩
  | .paid => ⟨true, true, [.claiming, .stuck, .refused]⟩
  | .claiming => ⟨true, true, [.claimed, .stuck]⟩
  | .claimed => ⟨false, false, []⟩
  | .refused => ⟨false, false, []⟩
  | .stuck => ⟨false, false, [.claiming, .refused]⟩

/-- What a quote fixes about its row. -/
structure QuoteRecord where
  id : String
  invoice : String
  paymentHash : String
  /-- Sats the client must lock up. -/
  amountSats : ℤ
  invoiceExpiresAt : ℤ
  /-- Null on rows quoted before the column existed. -/
  quotedRefundDeadline : Option ℤ
  refundLocktime : ℤ
  /-- The provider key the claim leaf was built with. -/
  receiverPubkey : String
  refundWithoutReceiverDelay : ℤ
  pkScript : String
  /-- Where a covenant refund pays; null on rows without one. -/
  refundPkScript : Option String
  /-- Present when the refund leaf has no timelock. -/
  clientRefundPubkey : Option String
  quotedRoutingFeeSats : Option ℤ

/-- One row of `send_swap`. -/
structure SendSwapRow extends QuoteRecord where
  state : SendSwapState
  createdAt : ℤ
  updatedAt : ℤ
  lockupTxid : Option String
  lockupVout : Option ℕ
  lockupValue : Option ℤ
  /-- Outputs adopted at funding, each to be collected. -/
  lockupOutpoints : Option (List AdoptedOutput)
  idempotencyKey : Option String
  payAttemptedAt : Option ℤ
  paymentBackend : Option String
  paymentWallet : Option String
  paymentId : Option String
  preimage : Option String
  claimArkTxid : Option String
  failureReason : Option String
  refundArkTxid : Option String
  refundOutcome : Option RefundOutcome
  refundAttempt : Option String
  paymentEvidence : Option PaymentEvidence
  paymentFailureReason : Option PaymentFailureReason
  routingFeePaidSats : Option ℤ
  /-- Last step of each L1 claim of an unrolled output. -/
  unrolledClaim : Option UnrolledSteps

/-- The row `insertQuote` writes: nothing has happened yet. -/
def insertQuote (quote : QuoteRecord) (now : ℤ) : SendSwapRow where
  toQuoteRecord := quote
  state := .quoted
  createdAt := now
  updatedAt := now
  lockupTxid := none
  lockupVout := none
  lockupValue := none
  lockupOutpoints := none
  idempotencyKey := none
  payAttemptedAt := none
  paymentBackend := none
  paymentWallet := none
  paymentId := none
  preimage := none
  claimArkTxid := none
  failureReason := none
  refundArkTxid := none
  refundOutcome := none
  refundAttempt := none
  paymentEvidence := none
  paymentFailureReason := none
  routingFeePaidSats := none
  unrolledClaim := none

/-- One assignment of an UPDATE. -/
inductive SendColumn where
  | lockupTxid (value : Option String)
  | lockupVout (value : Option ℕ)
  | lockupValue (value : ℤ)
  | lockupOutpoints (value : List AdoptedOutput)
  | idempotencyKey (value : String)
  | payAttemptedAt (value : ℤ)
  | paymentBackend (value : String)
  | paymentWallet (value : String)
  | paymentId (value : String)
  | preimage (value : String)
  | claimArkTxid (value : Option String)
  | failureReason (value : String)
  | refundArkTxid (value : String)
  | refundOutcome (value : RefundOutcome)
  | refundAttempt (value : String)
  | paymentEvidence (value : PaymentEvidence)
  | paymentFailureReason (value : PaymentFailureReason)
  | routingFeePaidSats (value : ℤ)
  | unrolledClaim (value : UnrolledSteps)

/-- Column names as the database spells them. -/
def SendColumn.name : SendColumn → String
  | lockupTxid _ => "lockup_txid"
  | lockupVout _ => "lockup_vout"
  | lockupValue _ => "lockup_value"
  | lockupOutpoints _ => "lockup_outpoints"
  | idempotencyKey _ => "idempotency_key"
  | payAttemptedAt _ => "pay_attempted_at"
  | paymentBackend _ => "payment_backend"
  | paymentWallet _ => "payment_wallet"
  | paymentId _ => "payment_id"
  | preimage _ => "preimage"
  | claimArkTxid _ => "claim_ark_txid"
  | failureReason _ => "failure_reason"
  | refundArkTxid _ => "refund_ark_txid"
  | refundOutcome _ => "refund_outcome"
  | refundAttempt _ => "refund_attempt"
  | paymentEvidence _ => "payment_evidence"
  | paymentFailureReason _ => "payment_failure_reason"
  | routingFeePaidSats _ => "routing_fee_paid_sats"
  | unrolledClaim _ => "unrolled_claim"

/-- Write one column. -/
def SendColumn.assign (row : SendSwapRow) : SendColumn → SendSwapRow
  | lockupTxid value => { row with lockupTxid := value }
  | lockupVout value => { row with lockupVout := value }
  | lockupValue value => { row with lockupValue := some value }
  | lockupOutpoints value => { row with lockupOutpoints := some value }
  | idempotencyKey value => { row with idempotencyKey := some value }
  | payAttemptedAt value => { row with payAttemptedAt := some value }
  | paymentBackend value => { row with paymentBackend := some value }
  | paymentWallet value => { row with paymentWallet := some value }
  | paymentId value => { row with paymentId := some value }
  | preimage value => { row with preimage := some value }
  | claimArkTxid value => { row with claimArkTxid := value }
  | failureReason value => { row with failureReason := some value }
  | refundArkTxid value => { row with refundArkTxid := some value }
  | refundOutcome value => { row with refundOutcome := some value }
  | refundAttempt value => { row with refundAttempt := some value }
  | paymentEvidence value => { row with paymentEvidence := some value }
  | paymentFailureReason value => { row with paymentFailureReason := some value }
  | routingFeePaidSats value => { row with routingFeePaidSats := some value }
  | unrolledClaim value => { row with unrolledClaim := some value }

/-- Columns a transition may set alongside its state change. -/
def SendColumn.inTransition : SendColumn → Bool
  | lockupTxid _ | lockupVout _ | lockupValue _ | idempotencyKey _ | payAttemptedAt _
  | paymentBackend _ | paymentWallet _ | paymentId _ | preimage _ | claimArkTxid _
  | failureReason _ | lockupOutpoints _ => true
  | _ => false

/-- The only columns a patch may touch. -/
def SendColumn.inPatch : SendColumn → Bool
  | lockupValue _ | paymentId _ | payAttemptedAt _ | refundArkTxid _ | refundOutcome _
  | paymentEvidence _ | paymentFailureReason _ | refundAttempt _ | paymentBackend _
  | paymentWallet _ | routingFeePaidSats _ | unrolledClaim _ | claimArkTxid _ => true
  | _ => false

/-- The send table as the shared store sees it. -/
def sendShape : StoreShape SendSwapRow SendSwapState SendColumn where
  lifecycleLabel := "swap lifecycle"
  spec := LnSendMachine
  stateName := SendSwapState.name
  stuck := .stuck
  refused := .refused
  columnName := SendColumn.name
  transitionColumns := SendColumn.inTransition
  patchColumns := SendColumn.inPatch
  state := SendSwapRow.state
  stamp target now row := { row with state := target, updatedAt := now }
  touch now row := { row with updatedAt := now }
  assign column row := column.assign row
  state_stamp _ _ _ := rfl
  state_assign column _ := by cases column <;> rfl
  state_touch _ _ := rfl

/-- The row has a refund this service may push: refused, covenant-capable, not
yet refunded, and past its script's own deadline if that has one. -/
def findRefundable (now : ℤ) (row : SendSwapRow) : Bool :=
  decide (row.state = .refused) && row.refundOutcome.isNone && row.refundPkScript.isSome &&
    (row.clientRefundPubkey.isSome || decide (row.refundLocktime ≤ now))

/-- First backfill of `migrate`: the retired sentinel in the txid column. -/
def backfillExternal (row : SendSwapRow) : SendSwapRow :=
  if row.refundArkTxid = some "external" ∧ row.refundOutcome = none then
    { row with refundOutcome := some .external, refundArkTxid := none }
  else row

/-- Second backfill of `migrate`: a txid without an outcome reads as pushed. -/
def backfillPushed (row : SendSwapRow) : SendSwapRow :=
  if row.refundArkTxid.isSome ∧ row.refundOutcome = none then
    { row with refundOutcome := some .pushed }
  else row

end IntentSolver.LightningSendStore
