import IntentSolver.ChainClock
import IntentSolver.LightningReceiveStore
import IntentSolver.LightningSendStore

/-!
# The Lightning receive corridor up to its funding

The solver mints a hold invoice, waits for the payer's HTLC (or for the
client's own send lockup when the two legs are coupled) and then pays the
client's Arkade lockup. This module is the code that decides and makes that
payment: `whenQuoted` and `whenArmed` of the receive orchestrator, driven by
`tick`. Every await is one action, so another worker can run between any two.
The later steps (claim, settle, refund), logging and timings are left out.
-/

namespace IntentSolver.LightningReceive

open SwapStore SwapTimelocks ArkadeLockup WorkerProgram ChainClock LightningPort
open LightningReceiveStore
open LightningSendStore (SendSwapRow)

/-- Questions that change nothing the solver keeps. -/
inductive ReceiveQuestion where
  /-- `ln.getHoldState` of the row's hash. -/
  | getHoldState
  /-- `coupledSendStore.findLiveByPaymentHash`. -/
  | coupledSend
  /-- `arkade.findLockups` of the coupled send's script. -/
  | coupledLockups (pkScript : String)
  /-- Height of the chain tip. -/
  | tipHeight
  /-- `ln.cancelHold`, whose every failure is swallowed. -/
  | cancelHold

/-- What each question answers. -/
abbrev ReceiveQuestion.Answer : ReceiveQuestion → Type
  | getHoldState => HoldState
  | coupledSend => Option SendSwapRow
  | coupledLockups _ => List FundedOutput
  | tipHeight => ℤ
  | cancelHold => Unit

/-- Atomic actions of a receive worker. -/
inductive ReceiveOp where
  | get
  | update (source target : ReceiveSwapState) (columns : List ReceiveColumn)
  | patch (columns : List ReceiveColumn)
  | claimFundLease (source : ReceiveSwapState)
  | releaseFundLease
  | now
  | read (question : ReceiveQuestion)
  /-- Every outpoint the row's script has held, spent ones included. -/
  | findLockupOutpoints
  /-- `arkade.fund` of the row's lockup with the row's payout. -/
  | fund (lockupAddress : String) (payoutSats : ℤ) (stamped : Bool)

/-- What each action answers. -/
abbrev ReceiveOp.Ans : ReceiveOp → Type
  | get => ReceiveSwapRow
  | update _ _ _ => Bool
  | patch _ => Unit
  | claimFundLease _ => Bool
  | releaseFundLease => Unit
  | now => ℤ
  | read question => Except Fault question.Answer
  | findLockupOutpoints => Except Fault (List LockupOutpoint)
  | fund _ _ _ => Except Fault String

/-- Code of a receive worker. -/
abbrev Prog (α : Type) : Type := Program ReceiveOp.Ans Fault α

/-- One action. -/
def issue (op : ReceiveOp) : Prog op.Ans := Program.issue op

/-- A question whose failure is thrown. -/
def ask (question : ReceiveQuestion) : Prog question.Answer := do
  let answer ← issue (.read question)
  Program.ofExcept answer

/-- `arkade.findLockupOutpoints`, whose failure is thrown. -/
def findLockupOutpoints : Prog (List LockupOutpoint) := do
  let answer ← issue .findLockupOutpoints
  Program.ofExcept answer

/-- `store.transition` on the row. -/
def transition (source target : ReceiveSwapState) (columns : List ReceiveColumn) : Prog Bool :=
  SwapStore.transition receiveShape (fun s t c => issue (.update s t c)) source target columns

/-- `store.fail` on the row. -/
def fail (source : ReceiveSwapState) (reason : String) : Prog Unit :=
  SwapStore.fail receiveShape (fun s t c => issue (.update s t c)) .failureReason source reason

/-- `store.patch` on the row. -/
def patch (columns : List ReceiveColumn) : Prog Unit := do
  Program.ofExcept (patchCheck receiveShape columns)
  issue (.patch columns)

/-- The columns that record a funding as the row's lockup. -/
def lockupColumns (output : LockupOutpoint) : List ReceiveColumn :=
  [.arkadeLockupTxid output.txid, .arkadeLockupVout output.vout, .arkadeLockupValue output.value]

/-- The configuration of one receive worker. -/
structure ReceiveDeps where
  /-- A send store is wired, so the two legs may be coupled. -/
  coupledSendStore : Bool
  /-- A chain tip provider is wired. -/
  chainTip : Bool
  /-- The backend can cancel a hold invoice. -/
  cancelHold : Bool
  /-- The operator accepts the unilateral gap. -/
  acceptUnilateralGap : Bool
  /-- Whether the funding of this row carries a claim packet. -/
  claimPacketStamp : ReceiveSwapRow → Bool

/-- What the remaining refund window is measured for. -/
def DEADLINE_SECONDS_PURPOSE : String := "order the refund deadline against the HTLC"

variable (deps : ReceiveDeps)

/-- The corridor's clock and tip. -/
def chainPort : ChainPort ReceiveOp.Ans where
  now := issue .now
  height := if deps.chainTip then some (ask .tipHeight) else none

/-- `coupledSendStore?.findLiveByPaymentHash`. -/
def coupledSend : Prog (Option SendSwapRow) :=
  if deps.coupledSendStore then ask .coupledSend else return none

/-- Retire a hold invoice nobody will settle; failures are swallowed. -/
def retireInvoice : Prog Unit :=
  if deps.cancelHold then do
    let _ ← issue (.read .cancelHold)
    return ()
  else return ()

/-- Arm against the client's send lockup, once it is funded and holds what it
promised. -/
def whenQuotedCoupled (row : ReceiveSwapRow) (coupled : SendSwapRow) : Prog Bool := do
  if coupled.amountSats < row.payoutSats then
    fail .quoted ("refused to fund: coupled send lockup of " ++ toString coupled.amountSats ++
      " sats cannot cover a " ++ toString row.payoutSats ++ " sat payout")
    return false
  if coupled.state = .refused then
    retireInvoice deps
    fail .quoted "coupled send was refused; the receive leg can never fund against it"
    return false
  if coupled.state ≠ .funded then return false
  let deadline ← refundDeadlineSeconds (chainPort deps) coupled.refundLocktime
    DEADLINE_SECONDS_PURPOSE
  if !refundWithoutReceiverDelayCovers coupled.refundWithoutReceiverDelay deadline
      coupled.createdAt then
    fail .quoted "refused to fund: coupled send refund timing is unsafe"
    return false
  let lockups ← ask (.coupledLockups coupled.pkScript)
  if !(satsOutputs lockups).any fun output => decide (output.value = coupled.amountSats) then
    return false
  retireInvoice deps
  transition .quoted .armed [.htlcExpiresAt none]

/-- Arm on a held HTLC, else on the coupled send, else expire. -/
def whenQuoted (row : ReceiveSwapRow) : Prog Bool := do
  let state ← ask .getHoldState
  if state.status = .armed then transition .quoted .armed [.htlcExpiresAt state.expiresAt]
  else do
    let coupled ← coupledSend deps
    match coupled with
    | some coupled => whenQuotedCoupled deps row coupled
    | none => do
      let now ← issue .now
      if row.invoiceExpiresAt ≤ now then
        retireInvoice deps
        fail .quoted "invoice expired before it was ever armed"
        return false
      return false

/-- The gates of a coupled row; true when it may fund. -/
def coupledGates (row : ReceiveSwapRow) (coupled : SendSwapRow) : Prog Bool := do
  if coupled.state ≠ .funded then
    fail .armed ("refused to fund: coupled send swap is " ++ coupled.state.name ++ ", not funded")
    return false
  let deadline ← refundDeadlineSeconds (chainPort deps) coupled.refundLocktime
    DEADLINE_SECONDS_PURPOSE
  if !refundWithoutReceiverDelayCovers coupled.refundWithoutReceiverDelay deadline
      coupled.createdAt then
    fail .armed "refused to fund: coupled send refund timing is unsafe"
    return false
  if coupled.amountSats < row.payoutSats then
    fail .armed ("refused to fund: coupled send lockup of " ++ toString coupled.amountSats ++
      " sats cannot cover a " ++ toString row.payoutSats ++ " sat payout")
    return false
  let now ← issue .now
  if row.invoiceExpiresAt ≤ now then
    fail .armed "refused to fund: invoice_expired"
    return false
  return true

/-- The gates of a Lightning row; true when it may fund. -/
def lightningGates (row : ReceiveSwapRow) (htlcExpiresAt : Option ℤ) : Prog Bool := do
  let refundLocktime ← refundDeadlineSeconds (chainPort deps) row.refundLocktime
    DEADLINE_SECONDS_PURPOSE
  let now ← issue .now
  let decision ← Program.ofExcept (evaluateReceiveFunding ⟨row.invoiceExpiresAt, htlcExpiresAt,
    refundLocktime, row.refundWithoutReceiverDelay, deps.acceptUnilateralGap, now⟩)
  match decision with
  | .ok _ => return true
  | .error reason =>
    fail .armed ("refused to fund: " ++ reason)
    return false

/-- Wait for this row's own broadcast to appear at the script. `polls` is how
many reads fit in the confirmation budget. -/
def confirmFunding (row : ReceiveSwapRow) (fundTxid : String) : ℕ → Prog LockupOutpoint
  | 0 => throw (Fault.error ("swap " ++ row.id ++ ": funded output never appeared at the indexer"))
  | polls + 1 => do
    let outpoints ← findLockupOutpoints
    match outpoints.find? fun output => decide (output.txid = fundTxid) with
    | some funded => return funded
    | none => confirmFunding row fundTxid polls

/-- A funding call that threw: the lease is given back only when provably
nothing was submitted. -/
def fundingThrew (coupled : Bool) (error : Fault) : Prog Bool :=
  match error with
  | .fundNotSubmitted message =>
    if coupled then do
      retireInvoice deps
      let _ ← transition .armed .refused [.fundStartedAt none,
        .failureReason ("refused to fund coupled payout: " ++ message)]
      return false
    else do
      issue .releaseFundLease
      throw error
  | _ => throw error

/-- Take the lease, pay the lockup, record it. -/
def fundLockup (row : ReceiveSwapRow) (coupled : Bool) (polls : ℕ) : Prog Bool := do
  let won ← issue (.claimFundLease .armed)
  if !won then return false
  let stamped := deps.claimPacketStamp row
  let answer ← issue (.fund row.lockupAddress row.payoutSats stamped)
  match answer with
  | .error error => fundingThrew deps coupled error
  | .ok fundTxid => do
    if stamped then
      let now ← issue .now
      patch [.stampedAt now]
    let funded ← confirmFunding row fundTxid polls
    transition .armed .funded (lockupColumns funded)

/-- A row whose funding response was lost waits for the refund deadline. -/
def awaitLostFunding (row : ReceiveSwapRow) : Prog Bool := do
  let deadline ← refundDeadlineSeconds (chainPort deps) row.refundLocktime DEADLINE_SECONDS_PURPOSE
  let now ← issue .now
  if deadline ≤ now then
    let _ ← transition .armed .stuck [.failureReason ("funding response lost; refund deadline " ++
      "reached with no lockup adopted — review for a stray lockup")]
    return false
  return false

/-- The HTLC deadline worth trusting right now. -/
def trustedExpiry (fresh : HoldState) : Option ℤ :=
  if fresh.status = .armed then fresh.expiresAt else none

/-- The coupled send, looked for only when no HTLC is held. -/
def coupledUnless (htlcExpiresAt : Option ℤ) : Prog (Option SendSwapRow) :=
  if htlcExpiresAt.isNone then coupledSend deps else return none

/-- Adopt an earlier funding, or ask the gates and fund. -/
def whenArmed (row : ReceiveSwapRow) (polls : ℕ) : Prog Bool := do
  let outpoints ← findLockupOutpoints
  match adoptFunding outpoints row.payoutSats with
  | some alreadyFunded =>
    transition .armed .funded (lockupColumns alreadyFunded)
  | none =>
    if row.fundStartedAt.isSome then awaitLostFunding deps row
    else do
      let fresh ← ask .getHoldState
      let coupled ← coupledUnless deps (trustedExpiry fresh)
      match coupled with
      | some coupled => do
        let fund ← coupledGates deps row coupled
        if fund then fundLockup deps row true polls else return false
      | none => do
        let fund ← lightningGates deps row (trustedExpiry fresh)
        if fund then fundLockup deps row false polls else return false

/-- One step of a tick. States past the funding are not modelled. -/
def step (row : ReceiveSwapRow) (polls : ℕ) : Prog Bool :=
  match row.state with
  | .quoted => whenQuoted deps row
  | .armed => whenArmed deps row polls
  | _ => return false

/-- Advance the row as far as it can go, at most `rounds` steps. -/
def tick (polls : ℕ) : ℕ → Prog Unit
  | 0 => return ()
  | rounds + 1 => do
    let row ← issue .get
    let advanced ← step deps row polls
    if advanced then tick polls rounds else return ()

end IntentSolver.LightningReceive
