import IntentSolver.LockupCollection
import IntentSolver.OnchainTerms

/-!
# The onchain send table

One `send_onchain_swap` row: the columns the corridor reads and writes, its
lifecycle, the two column allowlists, the funding lease and the write-once
record of the signed funding. JSON and list columns hold their parsed values,
and the recorded funding its parsed transaction. Columns that only serve to
rebuild the covenant script or to show a swap to an operator are left out.
-/

namespace IntentSolver.OnchainSendStore

open SwapStore ArkadeLockup LockupCollection OnchainTerms

/-- Lifecycle of an onchain send. -/
inductive OnchainSendSwapState where
  | quoted
  | funded
  | fundingOnchain
  | awaitingClaim
  | claiming
  | refundingOnchain
  | claimed
  | refunded
  | refused
  | stuck
  deriving DecidableEq

/-- State names as the database spells them. -/
def OnchainSendSwapState.name : OnchainSendSwapState → String
  | quoted => "quoted"
  | funded => "funded"
  | fundingOnchain => "funding_onchain"
  | awaitingClaim => "awaiting_claim"
  | claiming => "claiming"
  | refundingOnchain => "refunding_onchain"
  | claimed => "claimed"
  | refunded => "refunded"
  | refused => "refused"
  | stuck => "stuck"

/-- The lifecycle table. -/
def OnchainSendMachine : OnchainSendSwapState → StateSpec OnchainSendSwapState
  | .quoted => ⟨true, false, [.funded, .refused]⟩
  | .funded => ⟨true, false, [.fundingOnchain, .refused]⟩
  | .fundingOnchain => ⟨true, true, [.awaitingClaim, .refused, .stuck]⟩
  | .awaitingClaim => ⟨true, true, [.claiming, .refundingOnchain, .stuck]⟩
  | .claiming => ⟨true, true, [.claimed, .stuck]⟩
  | .refundingOnchain => ⟨true, true, [.claiming, .refunded, .stuck]⟩
  | .claimed => ⟨false, false, []⟩
  | .refunded => ⟨false, false, []⟩
  | .refused => ⟨false, false, []⟩
  | .stuck => ⟨false, false, [.claiming]⟩

/-- One output of a parsed transaction. -/
structure TxOutput where
  /-- Output script, hex. -/
  script : Option String
  /-- Sats. -/
  amount : ℤ
  deriving DecidableEq

/-- A signed funding transaction. -/
structure FundingTx where
  txid : String
  outputs : List TxOutput
  deriving DecidableEq

/-- What a quote fixes about its row. -/
structure OnchainQuoteRecord where
  id : String
  paymentHash : String
  /-- Sats the client locks at the Arkade covenant. -/
  amountSats : ℤ
  /-- Sats the HTLC is funded with. -/
  payoutSats : ℤ
  refundLocktime : ℤ
  providerPubkey : String
  pkScript : String
  /-- Null on rows older than the column. -/
  clientRefundPubkey : Option String
  /-- The client's key on the HTLC's claim leaf. -/
  payoutPubkey : String
  /-- The solver's key on the HTLC's refund leaf. -/
  htlcPubkey : String
  htlcLocktime : ℤ
  minConfirmations : ℤ
  onchainAddress : String
  onchainPkScript : String

/-- One row of `send_onchain_swap`. -/
structure OnchainSendSwapRow extends OnchainQuoteRecord where
  state : OnchainSendSwapState
  createdAt : ℤ
  updatedAt : ℤ
  onchainLockupTxid : Option String
  onchainLockupVout : Option ℕ
  onchainLockupValue : Option ℤ
  fundingTxid : Option String
  fundingVout : Option ℕ
  preimage : Option String
  claimArkTxid : Option String
  /-- Last step of each L1 claim of an unrolled output. -/
  unrolledClaim : Option UnrolledSteps
  /-- Outputs adopted at funding, each to be collected. -/
  lockupOutpoints : Option (List AdoptedOutput)
  /-- The refund attempted, not one that landed. -/
  onchainRefundTxid : Option String
  onchainRefundFeeRate : Option ℚ
  onchainRefundBroadcastAt : Option ℤ
  /-- Refund versions the current one replaced, newest first. -/
  onchainRefundPriorTxids : List String
  refundArkTxid : Option String
  refundOutcome : Option RefundOutcome
  failureReason : Option String
  /-- When a worker won the right to sign this row's funding. -/
  fundStartedAt : Option ℤ
  /-- The signed funding, recorded before it is broadcast. -/
  fundingTx : Option FundingTx

/-- The row `insertQuote` writes: nothing has happened yet. -/
def insertQuote (quote : OnchainQuoteRecord) (now : ℤ) : OnchainSendSwapRow where
  toOnchainQuoteRecord := quote
  state := .quoted
  createdAt := now
  updatedAt := now
  onchainLockupTxid := none
  onchainLockupVout := none
  onchainLockupValue := none
  fundingTxid := none
  fundingVout := none
  preimage := none
  claimArkTxid := none
  unrolledClaim := none
  lockupOutpoints := none
  onchainRefundTxid := none
  onchainRefundFeeRate := none
  onchainRefundBroadcastAt := none
  onchainRefundPriorTxids := []
  refundArkTxid := none
  refundOutcome := none
  failureReason := none
  fundStartedAt := none
  fundingTx := none

/-- One assignment of an UPDATE. -/
inductive OnchainColumn where
  | onchainLockupTxid (value : Option String)
  | onchainLockupVout (value : Option ℕ)
  | onchainLockupValue (value : ℤ)
  | fundingTxid (value : String)
  | fundingVout (value : ℕ)
  | preimage (value : String)
  | claimArkTxid (value : Option String)
  | onchainRefundTxid (value : String)
  | failureReason (value : String)
  | fundStartedAt (value : ℤ)
  | lockupOutpoints (value : List AdoptedOutput)
  | refundArkTxid (value : String)
  | refundOutcome (value : RefundOutcome)
  | onchainRefundFeeRate (value : ℚ)
  | onchainRefundBroadcastAt (value : ℤ)
  | onchainRefundPriorTxids (value : List String)
  | unrolledClaim (value : UnrolledSteps)

/-- Column names as the database spells them. -/
def OnchainColumn.name : OnchainColumn → String
  | onchainLockupTxid _ => "onchain_lockup_txid"
  | onchainLockupVout _ => "onchain_lockup_vout"
  | onchainLockupValue _ => "onchain_lockup_value"
  | fundingTxid _ => "funding_txid"
  | fundingVout _ => "funding_vout"
  | preimage _ => "preimage"
  | claimArkTxid _ => "claim_ark_txid"
  | onchainRefundTxid _ => "onchain_refund_txid"
  | failureReason _ => "failure_reason"
  | fundStartedAt _ => "fund_started_at"
  | lockupOutpoints _ => "lockup_outpoints"
  | refundArkTxid _ => "refund_ark_txid"
  | refundOutcome _ => "refund_outcome"
  | onchainRefundFeeRate _ => "onchain_refund_fee_rate"
  | onchainRefundBroadcastAt _ => "onchain_refund_broadcast_at"
  | onchainRefundPriorTxids _ => "onchain_refund_prior_txids"
  | unrolledClaim _ => "unrolled_claim"

/-- Write one column. -/
def OnchainColumn.assign (row : OnchainSendSwapRow) : OnchainColumn → OnchainSendSwapRow
  | onchainLockupTxid value => { row with onchainLockupTxid := value }
  | onchainLockupVout value => { row with onchainLockupVout := value }
  | onchainLockupValue value => { row with onchainLockupValue := some value }
  | fundingTxid value => { row with fundingTxid := some value }
  | fundingVout value => { row with fundingVout := some value }
  | preimage value => { row with preimage := some value }
  | claimArkTxid value => { row with claimArkTxid := value }
  | onchainRefundTxid value => { row with onchainRefundTxid := some value }
  | failureReason value => { row with failureReason := some value }
  | fundStartedAt value => { row with fundStartedAt := some value }
  | lockupOutpoints value => { row with lockupOutpoints := some value }
  | refundArkTxid value => { row with refundArkTxid := some value }
  | refundOutcome value => { row with refundOutcome := some value }
  | onchainRefundFeeRate value => { row with onchainRefundFeeRate := some value }
  | onchainRefundBroadcastAt value => { row with onchainRefundBroadcastAt := some value }
  | onchainRefundPriorTxids value => { row with onchainRefundPriorTxids := value }
  | unrolledClaim value => { row with unrolledClaim := some value }

/-- Columns a transition may set alongside its state change. -/
def OnchainColumn.inTransition : OnchainColumn → Bool
  | onchainLockupTxid _ | onchainLockupVout _ | onchainLockupValue _ | fundingTxid _
  | fundingVout _ | preimage _ | claimArkTxid _ | onchainRefundTxid _ | failureReason _
  | fundStartedAt _ | lockupOutpoints _ => true
  | _ => false

/-- The only columns a patch may touch. -/
def OnchainColumn.inPatch : OnchainColumn → Bool
  | onchainLockupValue _ | refundArkTxid _ | refundOutcome _ | onchainRefundTxid _
  | onchainRefundFeeRate _ | onchainRefundBroadcastAt _ | onchainRefundPriorTxids _
  | unrolledClaim _ | claimArkTxid _ => true
  | _ => false

/-- The onchain send table as the shared store sees it. -/
def onchainShape : StoreShape OnchainSendSwapRow OnchainSendSwapState OnchainColumn where
  lifecycleLabel := "onchain send lifecycle"
  spec := OnchainSendMachine
  stateName := OnchainSendSwapState.name
  stuck := .stuck
  refused := .refused
  columnName := OnchainColumn.name
  transitionColumns := OnchainColumn.inTransition
  patchColumns := OnchainColumn.inPatch
  state := OnchainSendSwapRow.state
  stamp target now row := { row with state := target, updatedAt := now }
  touch now row := { row with updatedAt := now }
  assign column row := column.assign row
  state_stamp _ _ _ := rfl
  state_assign column _ := by cases column <;> rfl
  state_touch _ _ := rfl

/-- How long a funding lease holds. -/
def FUND_LEASE_TTL_SECONDS : ℤ := 10 * 60

/-- The UPDATE behind `claimFundLease`: the lease expires. -/
def claimFundLease (now : ℤ) (source : OnchainSendSwapState) (row : OnchainSendSwapRow) :
    Option OnchainSendSwapRow :=
  if row.state = source ∧ leaseFree (now - FUND_LEASE_TTL_SECONDS) row.fundStartedAt = true then
    some { row with fundStartedAt := some now, updatedAt := now }
  else none

/-- The UPDATE behind `releaseFundLease`: no state in its WHERE clause. -/
def releaseFundLease (row : OnchainSendSwapRow) : OnchainSendSwapRow :=
  { row with fundStartedAt := none }

/-- The UPDATE behind `recordFundingTx`: single-winner, in `funding_onchain` only. -/
def recordFundingTx (tx : FundingTx) (now : ℤ) (row : OnchainSendSwapRow) :
    Option OnchainSendSwapRow :=
  if row.state = .fundingOnchain ∧ row.fundingTx = none then
    some { row with fundingTx := some tx, updatedAt := now }
  else none

/-- The row has a lockup the sweep may return: refused, not yet refunded, and
past its script's own deadline if that has one. -/
def findRefundable (now : ℤ) (row : OnchainSendSwapRow) : Bool :=
  decide (row.state = .refused) && row.refundOutcome.isNone &&
    (row.clientRefundPubkey.isSome || decide (row.refundLocktime ≤ now))

/-- The row's L1 refund landed long enough ago for its lockup to go back. -/
def findReleasable (now : ℤ) (row : OnchainSendSwapRow) : Bool :=
  decide (row.state = .refunded) && row.refundOutcome.isNone &&
    decide (row.updatedAt ≤ now - CLIENT_LOCKUP_RELEASE_DELAY_SECONDS)

/-- Every version of the solver's refund that could still confirm, newest first. -/
def trackedRefundTxids (row : OnchainSendSwapRow) : List String :=
  match row.onchainRefundTxid with
  | none => row.onchainRefundPriorTxids
  | some txid => txid :: row.onchainRefundPriorTxids

/-- The output pays the row's HTLC exactly. -/
def paysHtlc (quote : OnchainQuoteRecord) (output : TxOutput) : Bool :=
  decide (output.script = some quote.onchainPkScript ∧ output.amount = quote.payoutSats)

/-- Positions of the outputs that pay the row's HTLC exactly. -/
def htlcVouts (tx : FundingTx) (quote : OnchainQuoteRecord) : List ℕ :=
  (tx.outputs.zipIdx.filter fun entry => paysHtlc quote entry.1).map Prod.snd

/-- The one output of a recorded funding that pays this swap's HTLC exactly. -/
def fundingOutputOf (tx : FundingTx) (quote : OnchainQuoteRecord) : Except Fault Outpoint :=
  match htlcVouts tx quote with
  | [vout] => .ok ⟨tx.txid, vout⟩
  | vouts => .error (.error ("recorded funding " ++ tx.txid ++ " pays this HTLC " ++
      toString vouts.length ++ " times"))

end IntentSolver.OnchainSendStore
