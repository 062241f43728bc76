import IntentSolver.SwapStore

/-!
# The Lightning backend port

The plain types the corridors exchange with whichever Lightning backend moves
the sats: where a payment of ours or a hold invoice has got to, what the
backend has committed against a payment hash, and what a payment is asked for.
-/

namespace IntentSolver.LightningPort

/-- Where a payment has got to. -/
inductive PaymentStatus where
  | pending
  | succeeded
  | failed
  deriving DecidableEq

/-- What the backend knows about a payment. -/
inductive PaymentEvidence where
  | noRecord
  | inFlight
  | terminal
  deriving DecidableEq

/-- Why the backend says a payment failed. -/
inductive PaymentFailureReason where
  | rejectedByDestination
  | insufficientBalance
  | pathfindingTimeout
  | routeNotFound
  | canceled
  | unknown
  deriving DecidableEq

/-- The backend's word on one payment. -/
structure PaymentResult where
  /-- Backend-assigned id, used to poll. -/
  id : String
  status : PaymentStatus
  evidence : Option PaymentEvidence := none
  failureReason : Option PaymentFailureReason := none
  /-- The preimage, once known. -/
  preimage : Option String := none
  /-- What routing actually cost. -/
  feePaidSats : Option ℤ := none

/-- What a payment is made with. -/
structure PayInvoiceParams where
  invoice : String
  maxFeeSats : ℤ
  idempotencyKey : String
  maxCltvBlocks : ℤ

/-- What the backend has committed against a payment hash. -/
inductive SendHtlcStatus where
  /-- Sats are committed and the payee has not revealed. -/
  | committed
  /-- The preimage was revealed: we paid. -/
  | settled
  /-- The commitment was unwound: we paid nothing. -/
  | returned
  deriving DecidableEq

/-- The backend's record of a commitment. -/
structure SendHtlcState where
  status : SendHtlcStatus
  preimage : Option String := none

/-- Where a hold invoice has got to. -/
inductive HoldStatus where
  | pending
  | armed
  | settled
  | cancelled
  | unknown
  deriving DecidableEq

/-- The backend's word on a hold invoice. -/
structure HoldState where
  status : HoldStatus
  /-- Deadline of an armed HTLC. -/
  expiresAt : Option ℤ
  deriving DecidableEq

/-- What the corridors read off an invoice. -/
structure DecodedInvoice where
  amountSats : ℤ
  minFinalCltvBlocks : ℤ
  worstRouteHintCltvBlocks : ℤ
  bestRouteHintCltvBlocks : ℤ

end IntentSolver.LightningPort
