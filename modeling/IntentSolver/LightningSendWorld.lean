import IntentSolver.CollectedLockup
import IntentSolver.LightningSend
import IntentSolver.WorkerInterleaving

/-!
# The world of one Lightning send row

The stored row, the fate of its Lightning payment, what has been pushed and
collected at its lockup, and the history the safety statements speak about.
The Lightning backend pays a hash at most once, a failure it reports is final,
and its lookup by hash may miss a payment only during the first sixty seconds
after the call. Indexer reads answer anything: lagging, empty or partial.
-/

namespace IntentSolver.LightningSendWorld

open SwapStore ArkadeLockup LockupCollection WorkerProgram WorkerInterleaving LightningPort
open LightningSendStore LightningSend
open CollectedLockup (AcceptedClaim)
open LightningReceiveStore (ReceiveSwapRow)

/-- What has become of the payment of the row's hash. -/
inductive PaymentFate where
  /-- Nothing was submitted. -/
  | idle
  /-- Submitted and undecided. -/
  | inFlight
  /-- The payee was paid. -/
  | settled
  /-- The payment failed for good. -/
  | dead
  deriving DecidableEq

/-- What a worker's last look at the lockup gives a refund to stand on. -/
structure RefundEvidence where
  /-- Outputs its last `findLockups` showed. -/
  shown : List FundedOutput := []
  /-- Outputs its refund spent since that read. -/
  spent : Option (List FundedOutput) := none
  /-- Whether the lockup was provably spent since that read. -/
  provablySpent : Bool := false

/-- The shared world of one send row. -/
structure SendWorld where
  /-- Unix seconds. -/
  clock : ℕ
  /-- The stored row. -/
  row : SendSwapRow
  fate : PaymentFate := .idle
  /-- Some worker has called `payInvoice`. -/
  payCalled : Bool := false
  /-- When each `payInvoice` call that submitted something was made. -/
  calls : List ℕ := []
  /-- Whether a worker's last `payInvoice` call submitted anything. -/
  submitted : ℕ → Bool := fun _ => false
  /-- Some worker has moved the row `funded -> paying`. -/
  moved : Bool := false
  /-- `pay_attempted_at` of the row a worker last read. -/
  attemptedAt : ℕ → Option ℤ := fun _ => none
  /-- When a worker's probe by hash answered nothing, until it reads the clock or
  the row. -/
  probedAt : ℕ → Option ℕ := fun _ => none
  /-- A call has submitted something since a worker's last proof that nothing is
  committed: a probe by hash that answered nothing, or its own `funded -> paying`. -/
  paidSince : ℕ → Bool := fun _ => false
  /-- The row was refused since a worker last read it `paying` or moved it there. -/
  refusedSince : ℕ → Bool := fun _ => false
  /-- The solver has pushed a refund of the lockup. -/
  refundPushed : Bool := false
  /-- Outpoints the solver has collected. -/
  collected : List Outpoint := []
  /-- A worker's last accepted claim. -/
  lastClaim : ℕ → Option AcceptedClaim := fun _ => none
  /-- What each claim of the lockup was submitted for. -/
  claims : List (List Outpoint) := []
  /-- A worker's evidence for closing the refund. -/
  evidence : ℕ → RefundEvidence := fun _ => {}
  /-- The evidence of the worker whose write gave the row its refund outcome. -/
  closedOn : Option RefundEvidence := none

/-- What the outside answers; an action reads the fields it asks for. -/
structure SendReply where
  /-- A driver fault, for writes that may fail. -/
  storeFault : Option Fault := none
  lockups : Except Fault (List FundedOutput) := .ok []
  provablySpent : Except Fault Bool := .ok false
  spendEvidence : Except Fault LockupSpendEvidence := .ok .unknown
  outpoints : Except Fault (List LockupOutpoint) := .ok []
  walletFingerprint : Except Fault (Option String) := .ok none
  tipHeight : Except Fault ℤ := .ok 0
  receive : Except Fault (Option ReceiveSwapRow) := .ok none
  preimage : Except Fault (Option String) := .ok none
  invoiceState : Except Fault (Option HoldStatus) := .ok none
  approval : Except Fault Bool := .ok true
  /-- The txid, or the error, a wallet spend answers. -/
  txid : Except Fault String := .ok ""
  /-- The server took a spend whose answer was an error. -/
  landed : Bool := false
  /-- What `finalizePendingClaim` finalized: its txid and the outputs it spent. -/
  finalized : Except Fault (Option (String × List Outpoint)) := .ok none
  unrolled : List String × Except Fault UnrolledSpendStep := ([], .ok .waiting)
  htlc : Except Fault (Option SendHtlcState) := .ok none
  payment : Except Fault PaymentResult := .ok ⟨"", .pending, none, none, none, none⟩
  /-- The backend submits the payment it is asked for. -/
  submits : Bool := true

/-- The answer to a question. -/
def SendReply.answer (reply : SendReply) : (question : SendQuestion) → Except Fault question.Answer
  | .findLockups => reply.lockups
  | .lockupProvablySpent => reply.provablySpent
  | .lockupSpendEvidence => reply.spendEvidence
  | .findLockupOutpoints => reply.outpoints
  | .walletFingerprint => reply.walletFingerprint
  | .tipHeight => reply.tipHeight
  | .liveReceive => reply.receive
  | .receive => reply.receive
  | .coupledOutpoints _ => reply.outpoints
  | .coupledPreimage _ => reply.preimage
  | .getOwnInvoiceState => reply.invoiceState
  | .getKnownInvoiceState => reply.invoiceState
  | .approval => reply.approval

variable (worker : ℕ) (world : SendWorld)

/-- The row after a write by this worker; a write that gives the row its refund
outcome leaves the worker's evidence behind. -/
def SendWorld.write (row : SendSwapRow) : SendWorld :=
  { world with
    row := row
    closedOn := if world.row.refundOutcome.isNone && row.refundOutcome.isSome then
      some (world.evidence worker) else world.closedOn }

/-- This worker's evidence is now this. -/
def SendWorld.witness (evidence : RefundEvidence) : SendWorld :=
  { world with evidence := Function.update world.evidence worker evidence }

/-- What a read teaches about the lockup's refund. -/
def SendWorld.see (reply : SendReply) : SendQuestion → SendWorld
  | .findLockups =>
    match reply.lockups with
    | .ok outputs => world.witness worker ⟨outputs, none, false⟩
    | .error _ => world
  | .lockupProvablySpent =>
    match reply.provablySpent with
    | .ok proven => world.witness worker { world.evidence worker with provablySpent := proven }
    | .error _ => world
  | _ => world

/-- This worker has read the row. -/
def SendWorld.look : SendWorld :=
  { world with
    attemptedAt := Function.update world.attemptedAt worker world.row.payAttemptedAt
    probedAt := Function.update world.probedAt worker none
    refusedSince := if world.row.state = .paying then
      Function.update world.refusedSince worker false else world.refusedSince }

/-- This worker has read the clock. -/
def SendWorld.judge : SendWorld :=
  { world with probedAt := Function.update world.probedAt worker none }

/-- This worker's probe by hash answered nothing. -/
def SendWorld.prove : SendWorld :=
  { world with
    probedAt := Function.update world.probedAt worker (some world.clock)
    paidSince := Function.update world.paidSince worker false }

/-- A won `funded -> paying` is proof that nothing was paid before it; a refusal
reaches everybody who has the row in mind. -/
def SendWorld.commit (source target : SendSwapState) : SendWorld :=
  if source = .funded ∧ target = .paying then
    { world with
      moved := true
      paidSince := Function.update world.paidSince worker false
      refusedSince := Function.update world.refusedSince worker false }
  else if target = .refused then { world with refusedSince := fun _ => true }
  else world

/-- The wallet's answer to a spend of these outputs: none of them may be spent
when all of them expire too soon. -/
def spendAnswer (verb : String) (outputs : List FundedOutput) (reply : SendReply) :
    Except Fault String :=
  if boundedSpendInputs outputs world.clock = [] then
    .error (.error ("nothing to " ++ verb ++ ": every one of the " ++ toString outputs.length ++
      " funded outputs expires too soon to spend"))
  else reply.txid

/-- The server took the spend although its answer was an error. -/
def spendLanded (outputs : List FundedOutput) (reply : SendReply) : Bool :=
  reply.landed && !(boundedSpendInputs outputs world.clock).isEmpty

/-- A refund the server took. -/
def SendWorld.refund (outputs : List FundedOutput) : SendWorld :=
  { world.witness worker
      { world.evidence worker with spent := some (boundedSpendInputs outputs world.clock) } with
    refundPushed := true }

/-- A claim is submitted for these outputs, whatever becomes of it. -/
def SendWorld.offer (outputs : List FundedOutput) : SendWorld :=
  { world with
    claims := (boundedSpendInputs outputs world.clock).map FundedOutput.outpoint :: world.claims }

/-- A claim the server took. -/
def SendWorld.claim (outputs : List FundedOutput) : SendWorld :=
  { world with
    collected := (boundedSpendInputs outputs world.clock).map FundedOutput.outpoint ++
      world.collected
    lastClaim := Function.update world.lastClaim worker
      (some ⟨outputs, boundedSpendInputs outputs world.clock⟩) }

/-- Outpoints the solver has collected by other means. -/
def SendWorld.collect (outpoints : List Outpoint) : SendWorld :=
  { world with collected := outpoints ++ world.collected }

/-- The backend is asked to pay; it may reject the call before submitting. -/
def SendWorld.pay (submits : Bool) : SendWorld :=
  { world with
    payCalled := true
    submitted := Function.update world.submitted worker submits
    calls := if submits then world.clock :: world.calls else world.calls
    paidSince := if submits then fun _ => true else world.paidSince
    fate := if submits && decide (world.fate = .idle) then .inFlight else world.fate }

/-- The pay call's answer is one the backend can give. -/
def payable (answer : Except Fault PaymentResult) : Bool :=
  match answer with
  | .ok result => world.submitted worker && (decide (result.status ≠ .failed) ||
      decide (world.fate = .dead))
  | .error (.paymentNotStarted _) => !world.submitted worker
  | .error _ => true

/-- The probe's answer is one the backend can give. -/
def probeable (answer : Except Fault (Option SendHtlcState)) : Bool :=
  match answer with
  | .ok none => world.calls.all fun called =>
      decide ((world.clock : ℤ) < called + NO_RECORD_GRACE_SECONDS)
  | .ok (some htlc) =>
    match htlc.status with
    | .committed => true
    | .settled => decide (world.fate = .settled)
    | .returned => decide (world.fate = .dead)
  | .error _ => true

/-- The poll's answer is one the backend can give. -/
def pollable (answer : Except Fault PaymentResult) : Bool :=
  match answer with
  | .ok result => decide (result.status ≠ .failed) || decide (world.fate = .dead)
  | .error _ => true

/-- Effect of one action. -/
def perform : (op : SendOp) → SendReply → SendWorld → Option (op.Ans × SendWorld)
  | .get, _, world => some (world.row, world.look worker)
  | .update source target columns, _, world =>
    match updateWhere sendShape world.clock source target columns (fun _ => true) world.row with
    | some row => some (true, (world.write worker row).commit worker source target)
    | none => some (false, world)
  | .patch columns, reply, world =>
    match reply.storeFault with
    | some fault => some (.error fault, world)
    | none => some (.ok (), world.write worker (patchRow sendShape world.clock columns world.row))
  | .findRefundable now, _, world =>
    some (if LightningSendStore.findRefundable now world.row then some world.row else none, world)
  | .backfillExternal, _, world => some ((), world.write worker (backfillExternal world.row))
  | .backfillPushed, _, world => some ((), world.write worker (backfillPushed world.row))
  | .now, _, world => some (world.clock, world.judge worker)
  | .boundedInputs outputs, _, world => some (boundedSpendInputs outputs world.clock, world)
  | .read question, reply, world => some (reply.answer question, world.see worker reply question)
  | .refund outputs, reply, world =>
    match spendAnswer world "refund" outputs reply with
    | .ok txid => some (.ok txid, world.refund worker outputs)
    | .error fault => some (.error fault,
        if spendLanded world outputs reply then world.refund worker outputs else world)
  | .claim outputs, reply, world =>
    match spendAnswer world "claim" outputs reply with
    | .ok txid => some (.ok txid, (world.offer outputs).claim worker outputs)
    | .error fault => some (.error fault,
        if spendLanded world outputs reply then (world.offer outputs).claim worker outputs
        else world.offer outputs)
  | .finalizePendingClaim, reply, world =>
    match reply.finalized with
    | .ok (some (txid, spent)) => some (.ok (some txid), world.collect spent)
    | .ok none => some (.ok none, world)
    | .error fault => some (.error fault, world)
  | .findClaimPreimage outpoint, reply, world =>
    match reply.preimage with
    | .ok (some preimage) => some (.ok (some preimage), world.collect [outpoint])
    | .ok none => some (.ok none, world)
    | .error fault => some (.error fault, world)
  | .claimUnrolled lockup _, reply, world =>
    match reply.unrolled.2 with
    | .ok (.confirmed _) => some (reply.unrolled, world.collect [lockup])
    | _ => some (reply.unrolled, world)
  | .getSendHtlcState, reply, world =>
    if probeable world reply.htlc then
      match reply.htlc with
      | .ok none => some (.ok none, world.prove worker)
      | answer => some (answer, world)
    else none
  | .getPayment _, reply, world =>
    if pollable world reply.payment then some (reply.payment, world) else none
  | .payInvoice _, reply, world => some ((), world.pay worker reply.submits)
  | .payResult, reply, world =>
    if payable worker world reply.payment then some (reply.payment, world) else none

/-- A transition leaves the row as a won compare-and-swap does, or loses and changes nothing. -/
theorem perform_update {worker : ℕ} {world next : SendWorld} {reply : SendReply}
    {source target : SendSwapState} {columns : List SendColumn} {won : Bool}
    (hp : perform worker (.update source target columns) reply world = some (won, next)) :
    (∃ row, updateWhere sendShape world.clock source target columns (fun _ => true) world.row =
        some row ∧ won = true ∧ next = (world.write worker row).commit worker source target) ∨
      won = false ∧ next = world := by
  simp only [perform] at hp
  split at hp
  · next row hu =>
    cases hp
    exact .inl ⟨row, hu, rfl, rfl⟩
  · cases hp
    exact .inr ⟨rfl, rfl⟩

/-- A patch writes its columns, or fails and changes nothing. -/
theorem perform_patch {worker : ℕ} {world next : SendWorld} {reply : SendReply}
    {columns : List SendColumn} {written : Except Fault Unit}
    (hp : perform worker (.patch columns) reply world = some (written, next)) :
    next = world ∨
      next = world.write worker (patchRow sendShape world.clock columns world.row) := by
  simp only [perform] at hp
  split at hp
  · cases hp
    exact .inl rfl
  · cases hp
    exact .inr rfl

/-- What happens without a worker. -/
inductive SendMove where
  /-- Time passes. -/
  | wait (seconds : ℕ)
  /-- The payment in flight reaches the payee. -/
  | settle
  /-- The payment fails for good. -/
  | die

/-- Effect of one environment move. -/
def stir : SendMove → SendWorld → Option SendWorld
  | .wait seconds, world => some { world with clock := world.clock + seconds }
  | .settle, world =>
    if world.fate = .inFlight then some { world with fate := .settled } else none
  | .die, world =>
    if world.fate = .idle ∨ world.fate = .inFlight then some { world with fate := .dead } else none

/-- What a move can do: time passes, a payment in flight settles, or one that
has not settled dies. -/
theorem stir_cases {move : SendMove} {world next : SendWorld} (hs : stir move world = some next) :
    (∃ seconds, next = { world with clock := world.clock + seconds }) ∨
      (world.fate = .inFlight ∧ next = { world with fate := .settled }) ∨
      ((world.fate = .idle ∨ world.fate = .inFlight) ∧ next = { world with fate := .dead }) := by
  cases move with
  | wait seconds =>
    cases hs
    exact .inl ⟨seconds, rfl⟩
  | settle =>
    simp only [stir] at hs
    split at hs
    · next hf =>
      cases hs
      exact .inr (.inl ⟨hf, rfl⟩)
    · cases hs
  | die =>
    simp only [stir] at hs
    split at hs
    · next hf =>
      cases hs
      exact .inr (.inr ⟨hf, rfl⟩)
    · cases hs

/-- What a send worker can be started on. -/
inductive SendJob where
  /-- A tick of at most this many steps. -/
  | tick (deps : SendDeps) (rounds : ℕ)
  | refundSweep
  /-- A process starts and opens the store. -/
  | openStore

/-- The code of a job. -/
def SendJob.program (wallet : WalletCaps) : SendJob → Prog Unit
  | tick deps rounds => LightningSend.tick wallet deps rounds
  | refundSweep => LightningSend.refundSweep
  | openStore => LightningSend.openStore

/-- Workers on one send row. -/
def sendMachine (wallet : WalletCaps) : Machine where
  Op := SendOp
  Ans := SendOp.Ans
  Err := Fault
  World := SendWorld
  Reply := SendReply
  Move := SendMove
  Job := SendJob
  perform := perform
  stir := stir
  program := SendJob.program wallet

/-- The world right after the quote was inserted. -/
def quoted (quote : QuoteRecord) (clock : ℕ) : SendWorld :=
  { clock := clock, row := insertQuote quote clock }

/-- A wallet with every optional call. -/
def sampleWallet : WalletCaps := ⟨true, true, true, true⟩

/-- A quote of 50500 sats whose refund leaf needs no timelock. -/
def sampleQuote : QuoteRecord :=
  ⟨"s1", "lnbc500u", "hash", 50500, 2000003600, some 2000086400, 2000086400, "provider", 90112,
    "script", some "refund", some "client", some 100⟩

/-- A deployment without optional gates. -/
def sampleDeps : SendDeps where
  providerPubkey := "provider"
  backendName := none
  regtest := false
  lockupTimeout := 900
  chainTip := false
  coupling := false
  approvalGate := false
  walletFingerprint := false
  getOwnInvoiceState := false
  getKnownInvoiceState := false
  getSendHtlcState := true
  routeCltvBudgetBlocks := 10
  enforcesRouteCltv := true
  decodeInvoice _ := .ok ⟨50000, 40, 0, 0⟩
  preimageMatchesHash _ _ := true
  unilateralExitRecourse _ := ""

/-- An event of the sample deployment. -/
abbrev SampleEvent : Type := Event (sendMachine sampleWallet)

/-- Worker 0 starts a tick. -/
def sampleTick (rounds : ℕ) : SampleEvent := .start 0 (SendJob.tick sampleDeps rounds)

/-- Worker 0's next action is answered. -/
def sampleAct (reply : SendReply) : SampleEvent := .act 0 reply

/-- Something outside the workers happens. -/
def sampleStir (move : SendMove) : SampleEvent := .stir move

end IntentSolver.LightningSendWorld
