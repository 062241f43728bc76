import IntentSolver.ArkadeLockup

/-!
# The Lightning receive table

One `receive_swap` row with its lifecycle, its column allowlists and the fund
lease. The lease is a column of its own: it is taken and released beside the
state, and the state's compare-and-swap does not look at it. Columns that only
serve to rebuild the covenant script are left out.
-/

namespace IntentSolver.LightningReceiveStore

open SwapStore ArkadeLockup

/-- Lifecycle of a Lightning receive. -/
inductive ReceiveSwapState where
  | quoted
  | armed
  | funded
  | claimed
  | refunding
  | settled
  | refunded
  | refused
  | stuck
  deriving DecidableEq

/-- State names as the database spells them. -/
def ReceiveSwapState.name : ReceiveSwapState → String
  | quoted => "quoted"
  | armed => "armed"
  | funded => "funded"
  | claimed => "claimed"
  | refunding => "refunding"
  | settled => "settled"
  | refunded => "refunded"
  | refused => "refused"
  | stuck => "stuck"

/-- The lifecycle table. -/
def LnReceiveMachine : ReceiveSwapState → StateSpec ReceiveSwapState
  | .quoted => ⟨true, false, [.armed, .refused]⟩
  | .armed => ⟨true, false, [.funded, .refused, .stuck]⟩
  | .funded => ⟨true, true, [.claimed, .refunding, .refunded, .stuck]⟩
  | .claimed => ⟨true, true, [.settled, .stuck]⟩
  | .refunding => ⟨true, true, [.refunded, .claimed, .stuck]⟩
  | .settled => ⟨false, false, []⟩
  | .refunded => ⟨false, false, []⟩
  | .refused => ⟨false, false, []⟩
  | .stuck => ⟨false, false, []⟩

/-- What a quote fixes about its row. -/
structure ReceiveQuoteRecord where
  id : String
  paymentHash : String
  /-- What the client pays. -/
  amountSats : ℤ
  /-- What the solver funds into the lockup. -/
  payoutSats : ℤ
  invoice : String
  invoiceWalletFingerprint : Option String
  invoiceBackendName : Option String
  invoiceExpiresAt : ℤ
  /-- The client's sealed preimage, when it sent one. -/
  claimPacket : Option String
  refundLocktime : ℤ
  refundWithoutReceiverDelay : ℤ
  pkScript : String
  lockupAddress : String

/-- One row of `receive_swap`. -/
structure ReceiveSwapRow extends ReceiveQuoteRecord where
  state : ReceiveSwapState
  createdAt : ℤ
  updatedAt : ℤ
  /-- Deadline of the held HTLC; null until armed, and on a coupled row. -/
  htlcExpiresAt : Option ℤ
  /-- When a worker won the exclusive right to fund. -/
  fundStartedAt : Option ℤ
  arkadeLockupTxid : Option String
  arkadeLockupVout : Option ℕ
  arkadeLockupValue : Option ℤ
  stampedAt : Option ℤ
  preimage : Option String
  refundArkTxid : Option String
  failureReason : Option String

/-- The row `insertQuote` writes. -/
def insertQuote (quote : ReceiveQuoteRecord) (now : ℤ) : ReceiveSwapRow where
  toReceiveQuoteRecord := quote
  state := .quoted
  createdAt := now
  updatedAt := now
  htlcExpiresAt := none
  fundStartedAt := none
  arkadeLockupTxid := none
  arkadeLockupVout := none
  arkadeLockupValue := none
  stampedAt := none
  preimage := none
  refundArkTxid := none
  failureReason := none

/-- One assignment of an UPDATE. -/
inductive ReceiveColumn where
  | htlcExpiresAt (value : Option ℤ)
  | fundStartedAt (value : Option ℤ)
  | arkadeLockupTxid (value : String)
  | arkadeLockupVout (value : ℕ)
  | arkadeLockupValue (value : ℤ)
  | stampedAt (value : ℤ)
  | preimage (value : String)
  | refundArkTxid (value : String)
  | failureReason (value : String)

/-- Column names as the database spells them. -/
def ReceiveColumn.name : ReceiveColumn → String
  | htlcExpiresAt _ => "htlc_expires_at"
  | fundStartedAt _ => "fund_started_at"
  | arkadeLockupTxid _ => "arkade_lockup_txid"
  | arkadeLockupVout _ => "arkade_lockup_vout"
  | arkadeLockupValue _ => "arkade_lockup_value"
  | stampedAt _ => "stamped_at"
  | preimage _ => "preimage"
  | refundArkTxid _ => "refund_ark_txid"
  | failureReason _ => "failure_reason"

/-- Write one column. -/
def ReceiveColumn.assign (row : ReceiveSwapRow) : ReceiveColumn → ReceiveSwapRow
  | htlcExpiresAt value => { row with htlcExpiresAt := value }
  | fundStartedAt value => { row with fundStartedAt := value }
  | arkadeLockupTxid value => { row with arkadeLockupTxid := some value }
  | arkadeLockupVout value => { row with arkadeLockupVout := some value }
  | arkadeLockupValue value => { row with arkadeLockupValue := some value }
  | stampedAt value => { row with stampedAt := some value }
  | preimage value => { row with preimage := some value }
  | refundArkTxid value => { row with refundArkTxid := some value }
  | failureReason value => { row with failureReason := some value }

/-- Columns a transition may set alongside its state change. -/
def ReceiveColumn.inTransition : ReceiveColumn → Bool
  | stampedAt _ => false
  | _ => true

/-- The only columns a patch may touch. -/
def ReceiveColumn.inPatch : ReceiveColumn → Bool
  | stampedAt _ | arkadeLockupValue _ | refundArkTxid _ => true
  | _ => false

/-- The receive table as the shared store sees it. -/
def receiveShape : StoreShape ReceiveSwapRow ReceiveSwapState ReceiveColumn where
  lifecycleLabel := "receive swap lifecycle"
  spec := LnReceiveMachine
  stateName := ReceiveSwapState.name
  stuck := .stuck
  refused := .refused
  columnName := ReceiveColumn.name
  transitionColumns := ReceiveColumn.inTransition
  patchColumns := ReceiveColumn.inPatch
  state := ReceiveSwapRow.state
  stamp target now row := { row with state := target, updatedAt := now }
  touch now row := { row with updatedAt := now }
  assign column row := column.assign row
  state_stamp _ _ _ := rfl
  state_assign column _ := by cases column <;> rfl
  state_touch _ _ := rfl

/-- The UPDATE behind `claimFundLease`. The receive store passes no
`staleBefore`, which the shared store reads as -1: a lease never goes stale. -/
def claimFundLease (now : ℤ) (source : ReceiveSwapState) (row : ReceiveSwapRow) :
    Option ReceiveSwapRow :=
  if row.state = source ∧ leaseFree (-1) row.fundStartedAt = true then
    some { row with fundStartedAt := some now, updatedAt := now }
  else none

/-- The UPDATE behind `releaseFundLease`: no state in its WHERE clause. -/
def releaseFundLease (row : ReceiveSwapRow) : ReceiveSwapRow := { row with fundStartedAt := none }

end IntentSolver.LightningReceiveStore
