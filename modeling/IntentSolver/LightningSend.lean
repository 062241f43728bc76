import IntentSolver.ChainClock
import IntentSolver.LightningReceiveStore
import IntentSolver.LightningSendStore

/-!
# The Lightning send corridor

The client locks sats at an Arkade script, the solver pays the client's
invoice and claims the lockup with the preimage it bought; a row that cannot
be paid gives the lockup back. This module is the send orchestrator's `tick`
with every step it drives, the refund sweep and the store's start-up. Every
await is one action, so another worker can run between any two. Logging,
hooks, timings and the recovery of swept lockups are left out.
-/

namespace IntentSolver.LightningSend

open SwapStore SwapTimelocks ArkadeLockup LockupCollection WorkerProgram ChainClock LightningPort
open LightningSendStore
open LightningReceiveStore (ReceiveSwapRow)

/-- Questions that change nothing the solver keeps. -/
inductive SendQuestion where
  /-- `arkade.findLockups`: spendable outputs at the row's script. -/
  | findLockups
  | lockupProvablySpent
  | lockupSpendEvidence
  /-- `arkade.findLockupOutpoints`: every outpoint, spent ones included. -/
  | findLockupOutpoints
  /-- `ln.walletFingerprint`. -/
  | walletFingerprint
  /-- Height of the chain tip. -/
  | tipHeight
  /-- `coupling.receiveStore.findLiveByPaymentHash`. -/
  | liveReceive
  /-- `coupling.receiveStore.findByPaymentHash`. -/
  | receive
  /-- `coupling.findLockupOutpoints` of the receive row's script. -/
  | coupledOutpoints (pkScript : String)
  /-- `coupling.findClaimPreimage`. -/
  | coupledPreimage (outpoints : List LockupOutpoint)
  | getOwnInvoiceState
  | getKnownInvoiceState
  /-- `askApproval`. -/
  | approval

/-- What each question answers. -/
abbrev SendQuestion.Answer : SendQuestion → Type
  | findLockups => List FundedOutput
  | lockupProvablySpent => Bool
  | lockupSpendEvidence => LockupSpendEvidence
  | findLockupOutpoints => List LockupOutpoint
  | walletFingerprint => Option String
  | tipHeight => ℤ
  | liveReceive => Option ReceiveSwapRow
  | receive => Option ReceiveSwapRow
  | coupledOutpoints _ => List LockupOutpoint
  | coupledPreimage _ => Option String
  | getOwnInvoiceState => Option HoldStatus
  | getKnownInvoiceState => Option HoldStatus
  | approval => Bool

/-- Atomic actions of a send worker. -/
inductive SendOp where
  | get
  | update (source target : SendSwapState) (columns : List SendColumn)
  | patch (columns : List SendColumn)
  /-- The row, if `store.findRefundable` selects it. -/
  | findRefundable (now : ℤ)
  /-- First backfill of `migrate`. -/
  | backfillExternal
  /-- Second backfill of `migrate`. -/
  | backfillPushed
  | now
  /-- `boundedSpendInputs(outputs, this.now())`. -/
  | boundedInputs (outputs : List FundedOutput)
  | read (question : SendQuestion)
  /-- `arkade.refund` of these outputs. -/
  | refund (outputs : List FundedOutput)
  /-- `arkade.claim` of these outputs. -/
  | claim (outputs : List FundedOutput)
  | finalizePendingClaim
  /-- `arkade.findClaimPreimage` of one outpoint. -/
  | findClaimPreimage (outpoint : Outpoint)
  | claimUnrolled (lockup : Outpoint) (record : Option String)
  | getSendHtlcState
  | getPayment (paymentId : String)
  /-- The call of `ln.payInvoice`. -/
  | payInvoice (params : PayInvoiceParams)
  /-- The answer of this worker's last `ln.payInvoice`. -/
  | payResult

/-- What each action answers. -/
abbrev SendOp.Ans : SendOp → Type
  | get => SendSwapRow
  | update _ _ _ => Bool
  | patch _ => Except Fault Unit
  | findRefundable _ => Option SendSwapRow
  | backfillExternal => Unit
  | backfillPushed => Unit
  | now => ℤ
  | boundedInputs _ => List FundedOutput
  | read question => Except Fault question.Answer
  | refund _ => Except Fault String
  | claim _ => Except Fault String
  | finalizePendingClaim => Except Fault (Option String)
  | findClaimPreimage _ => Except Fault (Option String)
  | claimUnrolled _ _ => List String × Except Fault UnrolledSpendStep
  | getSendHtlcState => Except Fault (Option SendHtlcState)
  | getPayment _ => Except Fault PaymentResult
  | payInvoice _ => Unit
  | payResult => Except Fault PaymentResult

/-- Code of a send worker. -/
abbrev Prog (α : Type) : Type := Program SendOp.Ans Fault α

/-- One action. -/
def issue (op : SendOp) : Prog op.Ans := Program.issue op

/-- A question whose failure is thrown. -/
def ask (question : SendQuestion) : Prog question.Answer := do
  let answer ← issue (.read question)
  Program.ofExcept answer

/-- `store.transition` on the row. -/
def transition (source target : SendSwapState) (columns : List SendColumn) : Prog Bool :=
  SwapStore.transition sendShape (fun s t c => issue (.update s t c)) source target columns

/-- `store.fail` on the row. -/
def fail (source : SendSwapState) (reason : String) : Prog Unit :=
  SwapStore.fail sendShape (fun s t c => issue (.update s t c)) .failureReason source reason

/-- `store.patch` on the row. -/
def patch (columns : List SendColumn) : Prog Unit := do
  Program.ofExcept (patchCheck sendShape columns)
  let written ← issue (.patch columns)
  Program.ofExcept written

/-- `store.patch` whose failure is swallowed. -/
def tryPatch (columns : List SendColumn) : Prog Unit := do
  let _ ← issue (.patch columns)
  return ()

/-- What the wallet of a deployment can do. -/
structure WalletCaps where
  findLockupOutpoints : Bool
  findClaimPreimage : Bool
  claimUnrolled : Bool
  finalizePendingClaim : Bool

/-- The configuration of one send worker. -/
structure SendDeps where
  providerPubkey : String
  backendName : Option String
  /-- `network === 'regtest'`. -/
  regtest : Bool
  lockupTimeout : ℤ
  /-- A chain tip provider is wired. -/
  chainTip : Bool
  /-- The receive store is wired, so the two legs may be coupled. -/
  coupling : Bool
  /-- An approval gate is wired. -/
  approvalGate : Bool
  /-- The backend can name its wallet. -/
  walletFingerprint : Bool
  getOwnInvoiceState : Bool
  getKnownInvoiceState : Bool
  /-- The backend can be asked by payment hash. -/
  getSendHtlcState : Bool
  routeCltvBudgetBlocks : ℤ
  enforcesRouteCltv : Bool
  decodeInvoice : String → Except Fault DecodedInvoice
  preimageMatchesHash : String → String → Bool
  /-- One line naming the row's server-independent recourse. -/
  unilateralExitRecourse : SendSwapRow → String

/-- How long a probe's silence about a fresh submission proves nothing. -/
def NO_RECORD_GRACE_SECONDS : ℤ := 60

/-- How long a blocked hash is retried before it is parked. -/
def ORPHANED_REGISTRATION_SECONDS : ℤ := 3600

/-- What the remaining refund window is measured for. -/
def DEADLINE_SECONDS_PURPOSE : String := "size the remaining claim window"

/-- Both are known and they differ. -/
def foreign (recorded live : Option String) : Bool :=
  match truthy recorded, truthy live with
  | some recorded, some live => decide (recorded ≠ live)
  | _, _ => false

variable (wallet : WalletCaps) (deps : SendDeps)

/-- The corridor's clock and tip. -/
def chainPort : ChainPort SendOp.Ans where
  now := issue .now
  height := if deps.chainTip then some (ask .tipHeight) else none

/-- `ln.walletFingerprint?.().catch(() => undefined)`. -/
def liveWallet : Prog (Option String) :=
  if deps.walletFingerprint then do
    let answer ← issue (.read .walletFingerprint)
    match answer with
    | .ok wallet => return wallet
    | .error _ => return none
  else return none

/-- The columns that bind an attempt to its backend and wallet. -/
def identityColumns (wallet : Option String) : List SendColumn :=
  ((truthy deps.backendName).map SendColumn.paymentBackend).toList ++
    ((truthy wallet).map SendColumn.paymentWallet).toList

/-! ## Refunds -/

/-- The columns of a refund that went out: only a full one earns its outcome. -/
def refundColumns (all : Bool) (txid : String) : List SendColumn :=
  if all then [.refundOutcome .pushed, .refundArkTxid txid] else [.refundArkTxid txid]

/-- Push the covenant refund, or record that the lockup provably moved. -/
def pushRefund : Prog Bool := do
  let outputs ← ask .findLockups
  if outputs.isEmpty then
    let proven ← ask .lockupProvablySpent
    if proven then patch [.refundOutcome .external]
    return false
  let answer ← issue (.refund outputs)
  let txid ← Program.ofExcept answer
  let inputs ← issue (.boundedInputs outputs)
  patch (refundColumns (decide (inputs.length = outputs.length)) txid)
  return true

/-- Push the refund of every row the sweep selects; a failed push is retried
by the next sweep. -/
def refundSweep : Prog Unit := do
  let now ← issue .now
  let selected ← issue (.findRefundable now)
  match selected with
  | none => return ()
  | some row =>
    if row.lockupValue.getD 0 ≤ 0 then return ()
    else do
      let _ ← pushRefund.tryCatch fun _ => return false
      return ()

/-- Write down why the refund did not go out. -/
def recordRefundFailure (error : Fault) : Prog Bool := do
  tryPatch [.refundAttempt (String.ofList (("failed: " ++ error.message).toList.take 500))]
  return false

/-- Push the covenant refund of a swap whose payment provably died. Never
throws; true when the refund is on the wire. -/
def refundAfterTerminalFailure : Prog Bool := do
  let lockups ← issue (.read .findLockups)
  match lockups with
  | .error error => recordRefundFailure error
  | .ok outputs =>
    if outputs.isEmpty then
      tryPatch [.refundAttempt "nothing-at-script"]
      return false
    else
      let pushed ← issue (.refund outputs)
      match pushed with
      | .error error => recordRefundFailure error
      | .ok txid =>
        let inputs ← issue (.boundedInputs outputs)
        tryPatch (refundColumns (decide (inputs.length = outputs.length)) txid ++
          [SendColumn.refundAttempt "pushed"])
        return true

/-- What the self-payment probe licenses. -/
inductive SelfPaymentVerdict where
  | resolved
  | withhold
  | notOurs
  | unknown
  deriving DecidableEq

/-- Why a terminally failed row is handed to a human. -/
def stuckBecause (refunded : Bool) (verdict : SelfPaymentVerdict) : String :=
  if verdict = .withhold then "refund withheld — our own node may still collect against this hash"
  else if !refunded then "the refund did not land — see refund_attempt"
  else "client refunded, but the self-payment probe could not be asked"

/-- Close a terminally failed row in the state it has earned. -/
def settleTerminalFailure (source : SendSwapState) (refunded : Bool)
    (verdict : SelfPaymentVerdict) : Prog Unit :=
  if !(refunded && decide (verdict = .notOurs)) then
    fail source ("lightning payment failed terminally; " ++ stuckBecause refunded verdict)
  else do
    let _ ← transition source .refused
      [.failureReason "lightning payment failed terminally; client refunded"]
    return ()

/-- Refuse and refund a self-payment our own node can disprove. -/
def refundDisproved (row : SendSwapRow) (source : SendSwapState) : Prog SelfPaymentVerdict := do
  let won ← transition source .refused
    [.failureReason "self-payment failed terminally; our own node says it was never paid"]
  if !won then return .withhold
  if row.clientRefundPubkey.isNone then return .resolved
  let _ ← pushRefund.tryCatch fun _ => return false
  return .resolved

/-- Ask our own node about the payee side of a terminally failed payment. -/
def refundProvenSelfPayment (row : SendSwapRow) (source : SendSwapState) :
    Prog SelfPaymentVerdict :=
  if !deps.getOwnInvoiceState then return .unknown
  else do
    let own ← issue (.read .getOwnInvoiceState)
    match own with
    | .error _ => return .unknown
    | .ok none => return .notOurs
    | .ok (some status) =>
      if status ≠ .pending ∧ status ≠ .cancelled then return .withhold
      else refundDisproved row source

/-- The ordinary refund, unless the probe vetoed it. -/
def refundUnlessWithheld (verdict : SelfPaymentVerdict) : Prog Bool :=
  if verdict = .withhold then return false else refundAfterTerminalFailure

/-- A payment that is dead for good: probe, refund, close. -/
def terminalFailure (row : SendSwapRow) (source : SendSwapState) : Prog Bool := do
  let verdict ← refundProvenSelfPayment deps row source
  if verdict = .resolved then return false
  let refunded ← refundUnlessWithheld verdict
  settleTerminalFailure source refunded verdict
  return false

/-! ## Paying -/

/-- Move a row to `claiming` with a preimage that opens its script. -/
def claimWithPreimage (row : SendSwapRow) (preimage : String) (source : SendSwapState) :
    Prog Bool := do
  if !deps.preimageMatchesHash preimage row.paymentHash then
    fail source "preimage does not match the payment hash"
    return false
  transition source .claiming [.preimage preimage]

/-- Latest expiry first; an output without one outlives them all. -/
def expiresLater (a b : FundedOutput) : Bool :=
  match a.expiresAt, b.expiresAt with
  | none, _ => true
  | some _, none => false
  | some x, some y => decide (y ≤ x)

/-- The earliest expiry among the first outputs that cover the funding. -/
def coveredDeadline (funded : ℤ) : List FundedOutput → ℤ → ℤ → ℤ
  | [], deadline, _ => deadline
  | output :: rest, deadline, covered =>
    if funded ≤ covered then deadline
    else coveredDeadline funded rest
      (match output.expiresAt with
        | some expiresAt => min deadline expiresAt
        | none => deadline)
      (covered + output.value)

/-- The refund deadline, or the lockup's batch expiry when that comes first. -/
def payDeadline (row : SendSwapRow) (refundDeadline : ℤ) : Prog ℤ := do
  let outputs ← ask .findLockups
  let held := totalValue outputs
  let funded := row.lockupValue.getD held
  if outputs.isEmpty ∨ held < funded then issue .now
  else if deps.regtest then return refundDeadline
  else
    let latest := outputs.insertionSort fun a b => expiresLater a b = true
    return coveredDeadline funded latest refundDeadline 0

/-- The CLTV numbers of the row's invoice on the live rail. -/
def cltvOf (invoice : DecodedInvoice) : HtlcCltv :=
  ⟨invoice.minFinalCltvBlocks, invoice.worstRouteHintCltvBlocks, invoice.bestRouteHintCltvBlocks,
    deps.routeCltvBudgetBlocks, deps.enforcesRouteCltv⟩

/-- Refuse on proof that nothing was paid, park without it. -/
def refuseToPay (row : SendSwapRow) (nothingCommitted : Bool) (reason : String) : Prog Bool := do
  if nothingCommitted then
    let _ ← transition row.state .refused [.failureReason reason]
    return false
  else
    fail row.state reason
    return false

/-- The pay call submitted nothing: refuse and refund. -/
def refuseUnsubmittedPayment (detail : String) : Prog Unit := do
  let won ← transition .paying .refused
    [.failureReason ("refused before Lightning submission: " ++ detail)]
  if won then
    let _ ← refundAfterTerminalFailure
    return ()

/-- Record what `payInvoice` answered and act on it. -/
def afterPayment (row : SendSwapRow) (result : PaymentResult) : Prog Bool := do
  let wallet ← liveWallet deps
  let now ← issue .now
  patch ([SendColumn.paymentId result.id, SendColumn.payAttemptedAt now] ++
    identityColumns deps wallet ++
    (result.feePaidSats.map SendColumn.routingFeePaidSats).toList)
  if result.status = .failed then terminalFailure deps row .paying
  else do
    let won ← transition .paying .paid [.paymentId result.id]
    if !won then return false
    match truthy result.preimage with
    | some preimage => do
      let _ ← claimWithPreimage deps row preimage .paid
      return true
    | none => return true

/-- Call `payInvoice` and handle whatever it answers or throws. -/
def callPayInvoice (row : SendSwapRow) (nothingCommitted : Bool) (params : PayInvoiceParams) :
    Prog Bool := do
  issue (.payInvoice params)
  let answer ← issue .payResult
  match answer with
  | .ok result => afterPayment deps row result
  | .error (.paymentNotStarted message) =>
    if nothingCommitted then do
      refuseUnsubmittedPayment message
      return false
    else throw (Fault.paymentNotStarted message)
  | .error error => throw error

/-- The last gates before the pay call, on an invoice already decoded. -/
def payWithin (row : SendSwapRow) (nothingCommitted : Bool) (idempotencyKey : String)
    (invoice : DecodedInvoice) (deadline : ℤ) : Prog Bool := do
  let now ← issue .now
  let maxCltvBlocks := payableCltvBlocks (cltvOf deps invoice) deadline now
  if maxCltvBlocks ≤ invoice.minFinalCltvBlocks + hintCltvBlocks (cltvOf deps invoice) then
    refuseToPay row nothingCommitted "refused to pay: cltv_budget_too_short"
  else
    callPayInvoice deps row nothingCommitted ⟨row.invoice,
      row.quotedRoutingFeeSats.getD (maxRoutingFeeSats invoice.amountSats), idempotencyKey,
      maxCltvBlocks⟩

/-- Whether an uncapped route may outlive the deadline. -/
def uncappedTooLong (invoice : DecodedInvoice) (deadline : ℤ) : Prog Bool :=
  if deps.enforcesRouteCltv then return false
  else do
    let now ← issue .now
    return !deadlineContainsHtlc (cltvOf deps invoice) deadline now

/-- Submit the payment of a row in `paying`. `nothingCommitted` is the caller's
proof that no payment is committed against the row's hash. -/
def submitPayment (row : SendSwapRow) (nothingCommitted : Bool) : Prog Bool :=
  match truthy row.idempotencyKey with
  | none => do
    fail row.state "paying state with no idempotency key"
    return false
  | some idempotencyKey =>
    if row.receiverPubkey ≠ deps.providerPubkey then
      refuseToPay row nothingCommitted "refused to pay: provider key rotated since quote"
    else do
      let refundDeadline ← refundDeadlineSeconds (chainPort deps) row.refundLocktime
        DEADLINE_SECONDS_PURPOSE
      if !refundWithoutReceiverDelayCovers row.refundWithoutReceiverDelay
          (row.quotedRefundDeadline.getD refundDeadline) row.createdAt then
        refuseToPay row nothingCommitted "refused to pay: client_solo_refund_too_soon"
      else do
        let invoice ← Program.ofExcept (deps.decodeInvoice row.invoice)
        let deadline ← payDeadline deps row refundDeadline
        let tooLong ← uncappedTooLong deps invoice deadline
        if tooLong then
          refuseToPay row nothingCommitted "refused to pay: uncapped_route_deadline_too_short"
        else payWithin deps row nothingCommitted idempotencyKey invoice deadline

/-! ## The steps of a tick -/

/-- Refuse a quoted row whose lockup holds this much. -/
def refuseQuoted (lockupValue : ℤ) (reason : String) : Prog Bool := do
  patch [.lockupValue lockupValue]
  fail .quoted reason
  return false

/-- Record whatever is there, so that the sweep can return it. -/
def recordHeld (held : ℤ) : Prog Unit :=
  if 0 < held then patch [.lockupValue held] else return ()

/-- Time ran out before the row could be adopted. -/
def expireQuoted (row : SendSwapRow) (locked held : ℤ) (expired : Bool) : Prog Bool := do
  recordHeld held
  fail .quoted (if expired then "invoice expired before funding completed"
    else if row.amountSats ≤ locked then "lockup arrived after the funding deadline"
    else if 0 < locked then "lockup timeout with partial " ++ toString locked ++ " sats"
    else "lockup timeout")
  return false

/-- Adopt an exact, timely, asset-free funding; refuse everything else. -/
def adoptQuoted (row : SendSwapRow) (lockups : List FundedOutput) (timedOut expired : Bool) :
    Prog Bool :=
  let outputs := satsOutputs lockups
  let locked := totalValue outputs
  let held := totalValue lockups
  if row.amountSats < locked then
    refuseQuoted locked ("overfunded lockup: " ++ toString locked ++ " > " ++
      toString row.amountSats ++ " sats")
  else if locked = row.amountSats ∧ MAX_LOCKUP_SPEND_INPUTS < outputs.length then
    refuseQuoted locked ("lockup funded in " ++ toString outputs.length ++ " outputs, over " ++
      toString MAX_LOCKUP_SPEND_INPUTS)
  else if locked < row.amountSats ∧ row.amountSats ≤ held then
    refuseQuoted held ("lockup funded on an asset vtxo a claim cannot spend: " ++ toString held ++
      " held, " ++ toString locked ++ " spendable")
  else if locked = row.amountSats ∧ !timedOut ∧ !expired then
    transition .quoted .funded [.lockupTxid (outputs.head?.map FundedOutput.txid),
      .lockupVout (outputs.head?.map FundedOutput.vout), .lockupValue locked,
      .lockupOutpoints (outputs.map fun output => ⟨output.txid, output.vout, output.value⟩)]
  else if timedOut || expired then expireQuoted row locked held expired
  else return false

/-- Look for the client's lockup. -/
def whenQuoted (row : SendSwapRow) : Prog Bool := do
  let lockups ← ask .findLockups
  let now ← issue .now
  let later ← issue .now
  adoptQuoted row lockups
    (decide (lockupDeadlineFor row.createdAt row.invoiceExpiresAt deps.lockupTimeout ≤ now))
    (decide (row.invoiceExpiresAt ≤ later))

/-- Collect on a coupled receive: the preimage shows on Arkade, nothing is paid. -/
def whenFundedCoupled (row : SendSwapRow) (coupled : ReceiveSwapRow) : Prog Bool := do
  if coupled.htlcExpiresAt.isSome then
    fail .funded "refused to collect: receive took a real htlc"
    return false
  let outpoints ← ask (.coupledOutpoints coupled.pkScript)
  if outpoints.isEmpty then return false
  let preimage ← ask (.coupledPreimage outpoints)
  match preimage with
  | none => return false
  | some preimage => claimWithPreimage deps row preimage .funded

/-- `ln.walletFingerprint?.()`. -/
def currentWallet : Prog (Option String) :=
  if deps.walletFingerprint then ask .walletFingerprint else return none

/-- What our own node says about the invoice of a refused coupled receive;
none when it cannot be asked. -/
def ownInvoiceState (receive : ReceiveSwapRow) : Prog (Option HoldStatus) := do
  if deps.getOwnInvoiceState then ask .getOwnInvoiceState
  else if !deps.getKnownInvoiceState then return none
  else do
    let currentWallet ← currentWallet deps
    match truthy receive.invoiceWalletFingerprint, truthy currentWallet,
        truthy receive.invoiceBackendName with
    | some issuedBy, some current, some issuedThrough =>
      if issuedBy ≠ current ∨ some issuedThrough ≠ deps.backendName then return none
      else ask .getKnownInvoiceState
    | _, _, _ => return none

/-- Give the lockup back when the coupled receive was refused before funding. -/
def refundCoupledRefusal (receive : ReceiveSwapRow) : Prog Bool := do
  if receive.fundStartedAt.isSome ∨ receive.htlcExpiresAt.isSome then return false
  let own ← ownInvoiceState deps receive
  if own ≠ some .pending ∧ own ≠ some .cancelled then return false
  let won ← transition .funded .refused
    [.failureReason "coupled receive refused before funding; client refund pending"]
  if won then
    let _ ← refundAfterTerminalFailure
    return false
  return false

/-- Commit the intent to pay, then pay. -/
def commitToPay (row : SendSwapRow) : Prog Bool := do
  let wallet ← liveWallet deps
  let now ← issue .now
  let won ← transition .funded .paying ([SendColumn.payAttemptedAt now,
    SendColumn.idempotencyKey ("swap-" ++ row.paymentHash)] ++ identityColumns deps wallet)
  if !won then return false
  let row ← issue .get
  submitPayment deps row true

/-- The operator's approval gate, when one is wired. -/
def askApproval : Prog Bool := if deps.approvalGate then ask .approval else return true

/-- The pay-time gates, asked immediately before the money moves. -/
def payFunded (row : SendSwapRow) (refundDeadline : ℤ) : Prog Bool := do
  let invoice ← Program.ofExcept (deps.decodeInvoice row.invoice)
  let refundLocktime ← payDeadline deps row refundDeadline
  let now ← issue .now
  match evaluateSendPayment ⟨row.invoiceExpiresAt, refundLocktime, row.lockupValue.getD 0,
      row.amountSats, cltvOf deps invoice, now⟩ with
  | .error reason => do
    fail .funded ("refused to pay: " ++ reason)
    return false
  | .ok _ => do
    let approved ← askApproval deps
    if !approved then return false
    commitToPay deps row

/-- `coupling?.receiveStore.findLiveByPaymentHash`. -/
def liveReceive : Prog (Option ReceiveSwapRow) :=
  if deps.coupling then ask .liveReceive else return none

/-- `coupling?.receiveStore.findByPaymentHash`. -/
def receiveByHash : Prog (Option ReceiveSwapRow) :=
  if deps.coupling then ask .receive else return none

/-- Pay, collect a coupled receive, or give the lockup back. -/
def whenFunded (row : SendSwapRow) : Prog Bool := do
  if row.receiverPubkey ≠ deps.providerPubkey then
    fail .funded "provider key rotated since quote; refusing to pay an unclaimable lockup"
    return false
  let refundDeadline ← refundDeadlineSeconds (chainPort deps) row.refundLocktime
    DEADLINE_SECONDS_PURPOSE
  if !refundWithoutReceiverDelayCovers row.refundWithoutReceiverDelay
      (row.quotedRefundDeadline.getD refundDeadline) row.createdAt then
    fail .funded "refused to proceed: client solo refund opens before the quoted refund"
    return false
  let coupled ← liveReceive deps
  match coupled with
  | some coupled => whenFundedCoupled deps row coupled
  | none => do
    let failedReceive ← receiveByHash deps
    match failedReceive with
    | some receive =>
      if receive.invoice.toLower = row.invoice.toLower ∧ receive.state = .refused then
        refundCoupledRefusal deps receive
      else payFunded deps row refundDeadline
    | none => payFunded deps row refundDeadline

/-- Write one polled value, if there is one and the row holds another. -/
def patchChanged {α : Type} [DecidableEq α] (column : α → SendColumn) (polled known : Option α) :
    Prog Unit :=
  match polled with
  | some value => if known = some value then return () else patch [column value]
  | none => return ()

/-- Write down what a poll said, where it changed. -/
def recordPolled (row : SendSwapRow) (polled : PaymentResult) : Prog Unit := do
  patchChanged .paymentEvidence polled.evidence row.paymentEvidence
  patchChanged .paymentFailureReason polled.failureReason row.paymentFailureReason
  patchChanged .routingFeePaidSats polled.feePaidSats row.routingFeePaidSats

/-- A failure without a record, seen too soon after the attempt to mean it. -/
def tooSoon (row : SendSwapRow) (evidence : Option PaymentEvidence) : Prog Bool :=
  match evidence, row.payAttemptedAt with
  | some .noRecord, some attemptedAt => do
    let now ← issue .now
    return decide (now - attemptedAt < NO_RECORD_GRACE_SECONDS)
  | _, _ => return false

/-- A payment that is not failed moves its row to `paid`. -/
def markPaid (source : SendSwapState) : Prog Bool :=
  if source = .paying then transition .paying .paid [] else return true

/-- Act on what a poll said. -/
def settlePolled (row : SendSwapRow) (source : SendSwapState) (polled : PaymentResult) :
    Prog Bool := do
  if polled.status = .failed then do
    let wait ← tooSoon row polled.evidence
    if wait then return false
    terminalFailure deps row source
  else do
    let won ← markPaid source
    if !won then return false
    match truthy polled.preimage with
    | none => return decide (source = .paying)
    | some preimage => claimWithPreimage deps row preimage .paid

/-- Poll the backend once for the payment's outcome. -/
def settleFromBackend (row : SendSwapRow) (source : SendSwapState) : Prog Bool :=
  match truthy row.paymentId with
  | none =>
    match truthy row.preimage with
    | some preimage => claimWithPreimage deps row preimage .paid
    | none => return false
  | some paymentId => do
    let answer ← issue (.getPayment paymentId)
    let polled ← Program.ofExcept answer
    recordPolled row polled
    settlePolled deps row source polled

/-- A payment hash the backend blocks but holds nothing for. -/
def whenHashBlocked (row : SendSwapRow) (message : String) : Prog Bool :=
  match row.payAttemptedAt with
  | none => throw (Fault.paymentHashRegistered message)
  | some since => do
    let now ← issue .now
    if now - since < ORPHANED_REGISTRATION_SECONDS then
      throw (Fault.paymentHashRegistered message)
    else do
      fail .paying ("orphaned registration: " ++ message ++
        ", yet it reports no commitment for this hash — unpayable and unclearable by retrying. " ++
        "Read the wallet transfers before refunding or claiming.")
      return false

/-- Resolve a row on the backend's own record of its commitment. -/
def recoverCommitted (row : SendSwapRow) (htlc : SendHtlcState) : Prog Bool :=
  match htlc.status with
  | .settled =>
    match truthy htlc.preimage with
    | none => do
      fail .paying "backend settled the payment but reported no preimage"
      return false
    | some preimage => do
      let won ← transition .paying .paid [.preimage preimage]
      if !won then return false
      claimWithPreimage deps row preimage .paid
  | .returned => do
    let verdict ← refundProvenSelfPayment deps row .paying
    if verdict = .resolved then return false
    let _ ← refundUnlessWithheld verdict
    fail .paying "lightning payment returned by the backend"
    return false
  | .committed => return false

/-- A probe's silence is not yet proof. -/
def insideGrace (row : SendSwapRow) : Prog Bool :=
  match row.payAttemptedAt with
  | none => return false
  | some attemptedAt => do
    let now ← issue .now
    return decide (now - attemptedAt < NO_RECORD_GRACE_SECONDS)

/-- Submit again on a probe that answered nothing. -/
def resubmit (row : SendSwapRow) : Prog Bool :=
  (submitPayment deps row true).tryCatch fun error =>
    match error with
    | .paymentHashRegistered message => whenHashBlocked row message
    | _ => throw error

/-- Where a foreign attempt is parked. -/
def foreignReason (row : SendSwapRow) (wallet : Option String) : String :=
  "refused to re-submit: payment attempted on " ++ row.paymentBackend.getD "?" ++ "/" ++
    row.paymentWallet.getD "?" ++ ", now on " ++ deps.backendName.getD "?" ++ "/" ++
    wallet.getD "?" ++ "; a payment there is invisible here — reconcile before retry"

/-- Recovery: the process died, or the call threw, somewhere around `payInvoice`. -/
def whenPaying (row : SendSwapRow) : Prog Bool :=
  if (truthy row.paymentId).isSome then settleFromBackend deps row .paying
  else do
    let wallet ← liveWallet deps
    if foreign row.paymentBackend deps.backendName || foreign row.paymentWallet wallet then
      fail .paying (foreignReason deps row wallet)
      return false
    if !deps.getSendHtlcState then submitPayment deps row false
    else do
      let answer ← issue .getSendHtlcState
      let committed ← Program.ofExcept answer
      match committed with
      | some htlc => recoverCommitted deps row htlc
      | none => do
        let wait ← insideGrace row
        if wait then return false
        resubmit deps row

/-! ## Claiming -/

/-- `arkade.findClaimPreimage`. -/
def findClaimPreimage (outpoint : Outpoint) : Prog (Option String) := do
  let answer ← issue (.findClaimPreimage outpoint)
  Program.ofExcept answer

/-- The wallet calls and store writes of one claiming row. -/
def claimPort : ClaimPort SendOp.Ans where
  findLockupOutpoints := if wallet.findLockupOutpoints then
      some (ask .findLockupOutpoints)
    else none
  claimUnrolled := if wallet.claimUnrolled then
      some fun lockup record => issue (.claimUnrolled lockup record)
    else none
  findClaimPreimage := if wallet.findClaimPreimage then some findClaimPreimage else none
  patchUnrolled steps := issue (.patch [.unrolledClaim steps])
  patchClaimTxid txid := patch [.claimArkTxid (some txid)]
  fail reason := fail .claiming reason
  finish := transition .claiming .claimed []

/-- `arkade.finalizePendingClaim?.`, asked only when the lockup is spent. -/
def pendingClaim (evidence : LockupSpendEvidence) : Prog (Option String) :=
  if evidence = .spent ∧ wallet.finalizePendingClaim then do
    let answer ← issue .finalizePendingClaim
    Program.ofExcept answer
  else return none

/-- The lockup is provably spent, or the refund deadline has opened. -/
def spentOrReached (row : SendSwapRow) (evidence : LockupSpendEvidence) : Prog Bool :=
  if evidence = .spent then return true
  else refundDeadlineReached (chainPort deps) row.refundLocktime

/-- The lockup holds too little to claim and nothing was unrolled. -/
def claimShort (row : SendSwapRow) (held : ℤ) : Prog Bool := do
  let evidence ← ask .lockupSpendEvidence
  let reached ← spentOrReached deps row evidence
  if !reached then
    throw (Fault.error ("swap " ++ row.id ++ ": lockup holds " ++ toString held ++ " < " ++
      toString row.amountSats ++ " while claiming but no spend is provable (" ++ evidence.name ++
      ")"))
  else do
    let pending ← pendingClaim wallet evidence
    match truthy pending with
    | some txid => transition .claiming .claimed [.claimArkTxid (some txid)]
    | none => do
      fail .claiming ("lockup holds " ++ toString held ++ " < amount " ++
        toString row.amountSats ++ " while claiming; no claim txid recorded; needs review")
      return false

/-- What this tick's claim took, recomputed after it. -/
def claimedNow (outputs : List FundedOutput) (txid : Option String) : Prog (List Outpoint) :=
  match txid with
  | none => return []
  | some _ => do
    let inputs ← issue (.boundedInputs outputs)
    return inputs.map FundedOutput.outpoint

/-- Write the claim's txid, if this tick made one. -/
def recordClaimTxid (txid : Option String) : Prog Unit :=
  if txid.isSome then patch [.claimArkTxid txid] else return ()

/-- Nothing adopted is left out: write `claimed`, or settle the L1 claims. -/
def finishClaim (row : SendSwapRow) (txid : Option String) (unrolled : Option UnrolledClaims) :
    Prog Bool :=
  match unrolled with
  | none => do
    let _ ← transition .claiming .claimed [.claimArkTxid txid]
    return false
  | some claims => do
    recordClaimTxid txid
    settleUnrolledClaims (claimPort wallet) claims (deps.unilateralExitRecourse row)

/-- Check every adopted output before the row is closed. -/
def collectClaim (row : SendSwapRow) (outputs : List FundedOutput) (txid : Option String)
    (unrolled : Option UnrolledClaims) : Prog Bool :=
  if unrolled.all UnrolledClaims.settled then do
    let claimed ← claimedNow outputs txid
    let leftover ← lockupLeftover (claimPort wallet) row.lockupOutpoints claimed unrolled
    if leftover.isEmpty then finishClaim wallet deps row txid unrolled
    else do
      let pastDeadline ← refundDeadlineReached (chainPort deps) row.refundLocktime
      awaitLeftover (claimPort wallet) row.id txid leftover pastDeadline
        (deps.unilateralExitRecourse row)
  else finishClaim wallet deps row txid unrolled

/-- Claim what is there. -/
def claimHeld (row : SendSwapRow) (outputs : List FundedOutput)
    (unrolled : Option UnrolledClaims) : Prog Bool :=
  if outputs.isEmpty then collectClaim wallet deps row outputs none unrolled
  else do
    let answer ← issue (.claim outputs)
    match answer with
    | .ok txid => collectClaim wallet deps row outputs (some txid) unrolled
    | .error error => do
      let reached ← refundDeadlineReached (chainPort deps) row.refundLocktime
      if !reached then throw error
      else do
        fail .claiming ("claim failing past the refund deadline: " ++ error.message ++ " — " ++
          deps.unilateralExitRecourse row)
        return false

/-- Collect the lockup with the preimage. -/
def whenClaiming (row : SendSwapRow) : Prog Bool :=
  match truthy row.preimage with
  | none => do
    fail .claiming "claiming state with no preimage"
    return false
  | some _ => do
    let lockups ← ask .findLockups
    let unrolled ← advanceUnrolledClaims (claimPort wallet) row.unrolledClaim
    let outputs := claimOutputs lockups row.amountSats
    if totalValue outputs < row.amountSats ∧ unrolled.isNone then
      claimShort wallet deps row (totalValue outputs)
    else claimHeld wallet deps row outputs unrolled

/-- One step of a tick. -/
def step (row : SendSwapRow) : Prog Bool :=
  match row.state with
  | .quoted => whenQuoted deps row
  | .funded => whenFunded deps row
  | .paying => whenPaying deps row
  | .paid => settleFromBackend deps row .paid
  | .claiming => whenClaiming wallet deps row
  | _ => return false

/-- Advance the row as far as it can go, at most `rounds` steps. -/
def tick : ℕ → Prog Unit
  | 0 => return ()
  | rounds + 1 => do
    let row ← issue .get
    let advanced ← step wallet deps row
    if advanced then tick rounds else return ()

/-- `SwapStore.open`: bring the table up to date. -/
def openStore : Prog Unit := do
  issue .backfillExternal
  issue .backfillPushed

/-! ## Licences -/

/-- A discipline that never minds what a claiming row does. -/
structure FreeClaiming (D : Discipline SendOp.Ans) : Prop where
  now : D.Free (issue .now)
  read : ∀ question, D.Free (issue (.read question))
  boundedInputs : ∀ outputs, D.Free (issue (.boundedInputs outputs))
  claim : ∀ outputs, D.Free (issue (.claim outputs))
  finalizePendingClaim : D.Free (issue .finalizePendingClaim)
  findClaimPreimage : ∀ outpoint, D.Free (issue (.findClaimPreimage outpoint))
  claimUnrolled : ∀ lockup record, D.Free (issue (.claimUnrolled lockup record))
  patchClaimTxid : ∀ txid, D.Free (issue (.patch [.claimArkTxid txid]))
  patchUnrolled : ∀ steps, D.Free (issue (.patch [.unrolledClaim steps]))
  update : ∀ target ∈ (LnSendMachine .claiming).edges, ∀ columns,
    (∀ column ∈ columns, column.inTransition = true) →
    D.Free (issue (.update .claiming target columns))

namespace FreeClaiming

variable {D : Discipline SendOp.Ans} (hD : FreeClaiming D)

include hD

/-- Asking the outside world is licensed. -/
theorem ask (question : SendQuestion) : D.Free (LightningSend.ask question) :=
  (hD.read question).bind fun answer => Discipline.free_ofExcept answer

/-- Recording the claim's transaction is licensed. -/
theorem patch_claimTxid (txid : Option String) : D.Free (patch [.claimArkTxid txid]) :=
  (Discipline.free_ofExcept _).bind fun _ =>
    (hD.patchClaimTxid txid).bind fun written => Discipline.free_ofExcept written

/-- Leaving `claiming` is licensed. -/
theorem transition (target : SendSwapState) (columns : List SendColumn) :
    D.Free (LightningSend.transition .claiming target columns) :=
  fun note => SwapStore.obeys_transition_checked sendShape _ fun he hc =>
    hD.update target he columns hc note

/-- Failing a claiming row is licensed. -/
theorem fail (reason : String) : D.Free (LightningSend.fail .claiming reason) :=
  (hD.transition _ _).bind fun _ => Discipline.free_ret _

/-- Asking whether the refund deadline is reached is licensed. -/
theorem reached (deps : SendDeps) (refundLocktime : ℤ) :
    D.Free (refundDeadlineReached (chainPort deps) refundLocktime) := by
  have hnow : D.Steady (fun _ => True) (chainPort deps).now := hD.now.keeps
  have hheight : ∀ height ∈ (chainPort deps).height, D.Steady (fun _ => True) height := by
    intro height hh
    unfold chainPort at hh
    dsimp only at hh
    split at hh
    · cases hh
      exact (hD.ask .tipHeight).keeps
    · cases hh
  exact .of_steady (ChainClock.steady_refundDeadlineReached hnow hheight refundLocktime)

/-- The Lightning port never asks what the discipline minds. -/
theorem port (wallet : WalletCaps) : FreePort D (claimPort wallet) where
  findLockupOutpoints read hr := by
    unfold claimPort at hr
    dsimp only at hr
    split at hr
    · cases hr
      exact hD.ask .findLockupOutpoints
    · cases hr
  claimUnrolled claim hc key record := by
    unfold claimPort at hc
    dsimp only at hc
    split at hc
    · cases hc
      exact hD.claimUnrolled key record
    · cases hc
  findClaimPreimage find hf outpoint := by
    unfold claimPort at hf
    dsimp only at hf
    split at hf
    · cases hf
      exact (hD.findClaimPreimage outpoint).bind fun answer => Discipline.free_ofExcept answer
    · cases hf
  patchUnrolled := hD.patchUnrolled
  patchClaimTxid txid := hD.patch_claimTxid (some txid)
  fail := hD.fail
  finish := hD.transition _ _

/-- A claim that would fall short is refused within the discipline. -/
theorem claimShort (wallet : WalletCaps) (deps : SendDeps) (row : SendSwapRow) (held : ℤ) :
    D.Free (claimShort wallet deps row held) := by
  refine (hD.ask .lockupSpendEvidence).bind fun evidence => ?_
  have hr : D.Free (spentOrReached deps row evidence) := by
    unfold spentOrReached
    split
    · exact Discipline.free_ret _
    · exact hD.reached deps _
  refine hr.bind fun reached => ?_
  split
  · exact Discipline.free_throw _
  · have hp : D.Free (pendingClaim wallet evidence) := by
      unfold pendingClaim
      split
      · exact hD.finalizePendingClaim.bind fun answer => Discipline.free_ofExcept answer
      · exact Discipline.free_ret _
    refine hp.bind fun pending => ?_
    cases truthy pending with
    | some txid => exact hD.transition _ _
    | none => exact (hD.fail _).bind fun _ => Discipline.free_ret _

/-- Finishing a claim is licensed. -/
theorem finishClaim (wallet : WalletCaps) (deps : SendDeps) (row : SendSwapRow)
    (txid : Option String) (unrolled : Option UnrolledClaims) :
    D.Free (finishClaim wallet deps row txid unrolled) := by
  cases unrolled with
  | none => exact (hD.transition _ _).bind fun _ => Discipline.free_ret _
  | some claims =>
    have hp : D.Free (recordClaimTxid txid) := by
      unfold recordClaimTxid
      split
      · exact hD.patch_claimTxid txid
      · exact Discipline.free_ret _
    exact hp.bind fun _ => free_settleUnrolledClaims (hD.port wallet) _ _

/-- Collecting the lockup is licensed. -/
theorem collectClaim (wallet : WalletCaps) (deps : SendDeps) (row : SendSwapRow)
    (outputs : List FundedOutput) (txid : Option String) (unrolled : Option UnrolledClaims) :
    D.Free (collectClaim wallet deps row outputs txid unrolled) := by
  unfold LightningSend.collectClaim
  split
  · have hc : D.Free (claimedNow outputs txid) := by
      cases txid with
      | none => exact Discipline.free_ret _
      | some txid => exact (hD.boundedInputs outputs).bind fun _ => Discipline.free_ret _
    refine hc.bind fun claimed => ?_
    refine (free_lockupLeftover (hD.port wallet) _ _ _).bind fun leftover => ?_
    split
    · exact hD.finishClaim wallet deps row txid unrolled
    · exact (hD.reached deps _).bind fun _ => free_awaitLeftover (hD.port wallet) _ _ _ _ _
  · exact hD.finishClaim wallet deps row txid unrolled

/-- Then it never minds the whole claiming step. -/
theorem whenClaiming (wallet : WalletCaps) (deps : SendDeps) (row : SendSwapRow) :
    D.Free (whenClaiming wallet deps row) := by
  unfold LightningSend.whenClaiming
  cases truthy row.preimage with
  | none => exact (hD.fail _).bind fun _ => Discipline.free_ret _
  | some preimage =>
    refine (hD.ask .findLockups).bind fun lockups => ?_
    refine (free_advanceUnrolledClaims (hD.port wallet) _).bind fun unrolled => ?_
    dsimp only
    split
    · exact hD.claimShort wallet deps row _
    · unfold claimHeld
      split
      · exact hD.collectClaim wallet deps row _ _ _
      · refine (hD.claim _).bind fun answer => ?_
        cases answer with
        | ok txid => exact hD.collectClaim wallet deps row _ _ _
        | error error =>
          refine (hD.reached deps _).bind fun reached => ?_
          split
          · exact Discipline.free_throw _
          · exact (hD.fail _).bind fun _ => Discipline.free_ret _

end FreeClaiming

end IntentSolver.LightningSend
