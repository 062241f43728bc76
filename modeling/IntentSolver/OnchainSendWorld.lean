import IntentSolver.CollectedLockup
import IntentSolver.OnchainSend
import IntentSolver.WorkerInterleaving

/-!
# The world of one onchain send row

The stored row, every funding and refund transaction the solver has broadcast,
the in-flight slots of its processes, and the history the safety statements
speak about. Chain and indexer reads answer anything, a broadcast whose answer
was an error may have gone out all the same, and the clock may pass any expiry.
-/

namespace IntentSolver.OnchainSendWorld

open SwapStore ArkadeLockup LockupCollection WorkerProgram WorkerInterleaving
open OnchainTerms OnchainSendStore OnchainSend
open CollectedLockup (AcceptedClaim)

/-- What stood behind one automatic push of the lockup back to the client. -/
structure Release where
  /-- Some refund of the solver's own had been reported confirmed. -/
  confirmed : Bool
  /-- The output whose spend the sweep itself last read, and that spend. -/
  witness : Option (Outpoint × List String)

/-- The shared world of one onchain send row. -/
structure OnchainWorld where
  /-- Unix seconds. -/
  clock : ℕ
  /-- The stored row. -/
  row : OnchainSendSwapRow
  /-- Funding transactions broadcast, newest first. -/
  fundings : List FundingTx := []
  /-- Refunds of the HTLC the solver has signed. -/
  signedRefunds : List String := []
  /-- Refunds of the HTLC broadcast. -/
  refunds : List String := []
  /-- Transactions a node has reported confirmed. -/
  confirmed : List String := []
  /-- In-flight slots, one per process. -/
  slots : ℕ → Bool := fun _ => false
  /-- The last spend a worker read, and of which output. -/
  witnesses : ℕ → Option (Outpoint × List String) := fun _ => none
  /-- Every push of the lockup back to the client. -/
  releases : List Release := []
  /-- Outpoints the solver has collected. -/
  collected : List Outpoint := []
  /-- A worker's last accepted claim. -/
  lastClaim : ℕ → Option AcceptedClaim := fun _ => none
  /-- What each claim of the lockup was submitted for. -/
  claims : List (List Outpoint) := []
  /-- Another worker has recorded a funding since a worker last read the row. -/
  recordedSince : ℕ → Bool := fun _ => false
  /-- A funding went out since a worker was last told that a transaction is unknown. -/
  sentSince : ℕ → Bool := fun _ => false
  /-- The row was parked since a worker last read it in `funding_onchain`, or recorded
  its funding. -/
  parkedSince : ℕ → Bool := fun _ => false

/-- What the outside answers; an action reads the fields it asks for. -/
structure OnchainReply where
  /-- A driver fault, for writes that may fail. -/
  storeFault : Option Fault := none
  lockups : Except Fault (List FundedOutput) := .ok []
  spendEvidence : Except Fault LockupSpendEvidence := .ok .unknown
  outpoints : Except Fault (List LockupOutpoint) := .ok []
  approval : Except Fault Bool := .ok true
  outputs : Except Fault (List FundedOnchainOutput) := .ok []
  feeRate : Except Fault ℚ := .ok 1
  heldOff : Bool := false
  witness : Except Fault (Option (List String)) := .ok none
  outcome : Except Fault OnchainTxOutcome := .ok .unknown
  funding : Except Fault FundingTx := .ok ⟨"", []⟩
  refundTxid : Except Fault String := .ok ""
  broadcast : Except Fault Unit := .ok ()
  /-- The txid, or the error, an Arkade spend answers. -/
  txid : Except Fault String := .ok ""
  /-- A spend or broadcast went out although its answer was an error. -/
  landed : Bool := false
  /-- What `finalizePendingClaim` finalized: its txid and the outputs it spent. -/
  finalized : Except Fault (Option (String × List Outpoint)) := .ok none
  preimage : Except Fault (Option String) := .ok none
  unrolled : List String × Except Fault UnrolledSpendStep := ([], .ok .waiting)

/-- The answer to a question. -/
def OnchainReply.answer (reply : OnchainReply) :
    (question : OnchainQuestion) → Except Fault question.Answer
  | .findLockups => reply.lockups
  | .lockupSpendEvidence => reply.spendEvidence
  | .findLockupOutpoints => reply.outpoints
  | .approval => reply.approval
  | .findOutputs _ => reply.outputs
  | .estimateFeeRate => reply.feeRate
  | .heldOff => .ok reply.heldOff

variable (worker : ℕ) (world : OnchainWorld)

/-- The wallet's answer to a spend of these outputs: none of them may be spent
when all of them expire too soon. -/
def spendAnswer (verb : String) (outputs : List FundedOutput) (reply : OnchainReply) :
    Except Fault String :=
  if boundedSpendInputs outputs world.clock = [] then
    .error (.error ("nothing to " ++ verb ++ ": every one of the " ++ toString outputs.length ++
      " funded outputs expires too soon to spend"))
  else reply.txid

/-- The server took the spend although its answer was an error. -/
def spendLanded (outputs : List FundedOutput) (reply : OnchainReply) : Bool :=
  reply.landed && !(boundedSpendInputs outputs world.clock).isEmpty

/-- The transaction went out. -/
def sent (reply : OnchainReply) : Bool :=
  match reply.broadcast with
  | .ok _ => true
  | .error _ => reply.landed

/-- A node has reported a refund of the solver's own confirmed. -/
def OnchainWorld.ownConfirmed : Bool :=
  world.confirmed.any fun txid => decide (txid ∈ world.signedRefunds)

/-- A refund of the lockup the server took. -/
def OnchainWorld.release : OnchainWorld :=
  { world with releases := ⟨world.ownConfirmed, world.witnesses worker⟩ :: world.releases }

/-- A claim is submitted for these outputs, whatever becomes of it. -/
def OnchainWorld.offer (outputs : List FundedOutput) : OnchainWorld :=
  { world with
    claims := (boundedSpendInputs outputs world.clock).map FundedOutput.outpoint :: world.claims }

/-- A claim the server took. -/
def OnchainWorld.claim (outputs : List FundedOutput) : OnchainWorld :=
  { world with
    collected := (boundedSpendInputs outputs world.clock).map FundedOutput.outpoint ++
      world.collected
    lastClaim := Function.update world.lastClaim worker
      (some ⟨outputs, boundedSpendInputs outputs world.clock⟩) }

/-- Outpoints the solver has collected by other means. -/
def OnchainWorld.collect (outpoints : List Outpoint) : OnchainWorld :=
  { world with collected := outpoints ++ world.collected }

/-- This worker reads the row. -/
def OnchainWorld.look : OnchainWorld :=
  { world with
    recordedSince := Function.update world.recordedSince worker false
    parkedSince := if world.row.state = .fundingOnchain then
      Function.update world.parkedSince worker false else world.parkedSince }

/-- A won transition; parking a row that is being funded reaches everybody. -/
def OnchainWorld.move (source target : OnchainSendSwapState) (row : OnchainSendSwapRow) :
    OnchainWorld :=
  { world with
    row := row
    parkedSince := if source = .fundingOnchain ∧ target = .stuck then fun _ => true
      else world.parkedSince }

/-- This worker has recorded a funding: the copies the others hold predate it. -/
def OnchainWorld.record (row : OnchainSendSwapRow) : OnchainWorld :=
  { world with
    row := row
    recordedSince := fun other => decide (other ≠ worker) || world.recordedSince other
    parkedSince := Function.update world.parkedSince worker false }

/-- This worker is told that a transaction is unknown. -/
def OnchainWorld.miss : OnchainWorld :=
  { world with sentSince := Function.update world.sentSince worker false }

/-- A funding goes out. -/
def OnchainWorld.fund (tx : FundingTx) : OnchainWorld :=
  { world with fundings := tx :: world.fundings, sentSince := fun _ => true }

/-- The guard an UPDATE adds to its WHERE clause. -/
def updateGuard (unrecorded : Bool) (row : OnchainSendSwapRow) : Bool :=
  !unrecorded || row.fundingTx.isNone

/-- Effect of one action. -/
def perform : (op : OnchainOp) → OnchainReply → OnchainWorld → Option (op.Ans × OnchainWorld)
  | .get, _, world => some (world.row, world.look worker)
  | .update source target columns unrecorded, _, world =>
    match updateWhere onchainShape world.clock source target columns (updateGuard unrecorded)
        world.row with
    | some row => some (true, world.move source target row)
    | none => some (false, world)
  | .patch columns, reply, world =>
    match reply.storeFault with
    | some fault => some (.error fault, world)
    | none =>
      some (.ok (), { world with row := patchRow onchainShape world.clock columns world.row })
  | .claimFundLease, _, world =>
    match OnchainSendStore.claimFundLease world.clock .fundingOnchain world.row with
    | some row => some (true, { world with row := row })
    | none => some (false, world)
  | .releaseFundLease, _, world =>
    some ((), { world with row := OnchainSendStore.releaseFundLease world.row })
  | .recordFundingTx tx, _, world =>
    match OnchainSendStore.recordFundingTx tx world.clock world.row with
    | some row => some (true, world.record worker row)
    | none => some (false, world)
  | .findRefundable now, _, world =>
    some (if OnchainSendStore.findRefundable now world.row then some world.row else none, world)
  | .findReleasable now, _, world =>
    some (if OnchainSendStore.findReleasable now world.row then some world.row else none, world)
  | .now, _, world => some (world.clock, world)
  | .boundedInputs outputs, _, world => some (boundedSpendInputs outputs world.clock, world)
  | .read question, reply, world => some (reply.answer question, world)
  | .findSpendWitness txid vout, reply, world =>
    match reply.witness with
    | .ok witness => some (.ok witness, { world with
        witnesses := Function.update world.witnesses worker
          (witness.map fun spend => (⟨txid, vout⟩, spend)) })
    | .error fault => some (.error fault, world)
  | .transactionOutcome txid, reply, world =>
    match reply.outcome with
    | .ok .confirmed => some (.ok .confirmed, { world with confirmed := txid :: world.confirmed })
    | .ok .unknown => some (.ok .unknown, world.miss worker)
    | answer => some (answer, world)
  | .signFunding _ _ _, reply, world => some (reply.funding, world)
  | .broadcastFunding tx, reply, world =>
    some (reply.broadcast, if sent reply then world.fund tx else world)
  | .signRefund _ _ _, reply, world =>
    match reply.refundTxid with
    | .ok txid => some (.ok txid, { world with signedRefunds := txid :: world.signedRefunds })
    | .error fault => some (.error fault, world)
  | .broadcastRefund txid, reply, world =>
    some (reply.broadcast,
      if sent reply then { world with refunds := txid :: world.refunds } else world)
  | .refund outputs, reply, world =>
    match spendAnswer world "refund" outputs reply with
    | .ok txid => some (.ok txid, world.release worker)
    | .error fault => some (.error fault,
        if spendLanded world outputs reply then world.release worker else world)
  | .claim outputs, reply, world =>
    match spendAnswer world "claim" outputs reply with
    | .ok txid => some (.ok txid, (world.offer outputs).claim worker outputs)
    | .error fault => some (.error fault,
        if spendLanded world outputs reply then (world.offer outputs).claim worker outputs
        else world.offer outputs)
  | .finalizePendingClaim, reply, world =>
    match reply.finalized with
    | .ok (some (txid, spent)) => some (.ok (some txid), world.collect spent)
    | .ok none => some (.ok none, world)
    | .error fault => some (.error fault, world)
  | .findClaimPreimage outpoint, reply, world =>
    match reply.preimage with
    | .ok (some preimage) => some (.ok (some preimage), world.collect [outpoint])
    | .ok none => some (.ok none, world)
    | .error fault => some (.error fault, world)
  | .findClaimPreimageAmong _, reply, world => some (reply.preimage, world)
  | .claimUnrolled lockup _, reply, world =>
    match reply.unrolled.2 with
    | .ok (.confirmed _) => some (reply.unrolled, world.collect [lockup])
    | _ => some (reply.unrolled, world)
  | .takeSlot process _, _, world =>
    if world.slots process then some (false, world)
    else some (true, { world with slots := Function.update world.slots process true })
  | .freeSlot process, _, world =>
    some ((), { world with slots := Function.update world.slots process false })

/-! ## What an action leaves alone -/

section Frame

variable {worker : ℕ} {world after : OnchainWorld} {op : OnchainOp} {reply : OnchainReply}
  {answer : op.Ans}

attribute [local simp] perform
attribute [local grind] OnchainWorld.release OnchainWorld.offer OnchainWorld.claim
  OnchainWorld.collect OnchainWorld.look OnchainWorld.move OnchainWorld.record OnchainWorld.miss
  OnchainWorld.fund

/-- The action may write the row. -/
def writes : OnchainOp → Bool
  | .update _ _ _ _ => true
  | .patch _ => true
  | .claimFundLease => true
  | .releaseFundLease => true
  | .recordFundingTx _ => true
  | _ => false

/-- The row changes by a write only. -/
theorem perform_row (hw : writes op = false)
    (hp : perform worker op reply world = some (answer, after)) : after.row = world.row := by
  cases op with
  | update source target columns unrecorded => cases hw
  | patch columns => cases hw
  | claimFundLease => cases hw
  | releaseFundLease => cases hw
  | recordFundingTx tx => cases hw
  | _ =>
    simp only [perform] at hp
    grind

/-- The action may broadcast a funding. -/
def funds : OnchainOp → Bool
  | .broadcastFunding _ => true
  | _ => false

/-- Fundings go out by a broadcast only. -/
theorem perform_fundings (hf : funds op = false)
    (hp : perform worker op reply world = some (answer, after)) :
    after.fundings = world.fundings := by
  cases op with
  | broadcastFunding tx => cases hf
  | _ =>
    simp only [perform] at hp
    grind

/-- The action may broadcast a refund of the HTLC. -/
def takesBack : OnchainOp → Bool
  | .broadcastRefund _ => true
  | _ => false

/-- Refunds go out by a broadcast only. -/
theorem perform_refunds (ht : takesBack op = false)
    (hp : perform worker op reply world = some (answer, after)) :
    after.refunds = world.refunds := by
  cases op with
  | broadcastRefund txid => cases ht
  | _ =>
    simp only [perform] at hp
    grind

/-- The action tells somebody how old its copy of the row is. -/
def marks : OnchainOp → Bool
  | .get => true
  | .update _ _ _ _ => true
  | .recordFundingTx _ => true
  | .transactionOutcome _ => true
  | .broadcastFunding _ => true
  | _ => false

/-- Copies age by these actions only. -/
theorem perform_marks (hm : marks op = false)
    (hp : perform worker op reply world = some (answer, after)) :
    after.recordedSince = world.recordedSince ∧ after.sentSince = world.sentSince ∧
      after.parkedSince = world.parkedSince := by
  cases op with
  | get => cases hm
  | update source target columns unrecorded => cases hm
  | recordFundingTx tx => cases hm
  | transactionOutcome txid => cases hm
  | broadcastFunding tx => cases hm
  | _ =>
    simp only [perform] at hp
    grind

/-- The action takes or frees a slot. -/
def slotted : OnchainOp → Bool
  | .takeSlot _ _ => true
  | .freeSlot _ => true
  | _ => false

/-- Slots change hands by taking and freeing only. -/
theorem perform_slots (hs : slotted op = false)
    (hp : perform worker op reply world = some (answer, after)) :
    after.slots = world.slots := by
  cases op with
  | takeSlot process read => cases hs
  | freeSlot process => cases hs
  | _ =>
    simp only [perform] at hp
    grind

/-- A transition leaves the row as a won compare-and-swap does, or loses and changes nothing. -/
theorem perform_update {source target : OnchainSendSwapState} {columns : List OnchainColumn}
    {unrecorded won : Bool}
    (hp : perform worker (.update source target columns unrecorded) reply world =
      some (won, after)) :
    (∃ row, updateWhere onchainShape world.clock source target columns (updateGuard unrecorded)
        world.row = some row ∧ won = true ∧ after = world.move source target row) ∨
      won = false ∧ after = world := by
  simp only [perform] at hp
  split at hp
  · next row hu =>
    cases hp
    exact .inl ⟨row, hu, rfl, rfl⟩
  · cases hp
    exact .inr ⟨rfl, rfl⟩

/-- A patch writes its columns, or fails and changes nothing. -/
theorem perform_patch {columns : List OnchainColumn} {written : Except Fault Unit}
    (hp : perform worker (.patch columns) reply world = some (written, after)) :
    (∃ fault, written = .error fault ∧ after = world) ∨
      written = .ok () ∧
        after = { world with row := patchRow onchainShape world.clock columns world.row } := by
  simp only [perform] at hp
  split at hp
  · next fault _ =>
    cases hp
    exact .inl ⟨fault, rfl, rfl⟩
  · cases hp
    exact .inr ⟨rfl, rfl⟩

/-- Won or lost, the lease changes no other column. -/
theorem perform_claimFundLease {won : Bool}
    (hp : perform worker .claimFundLease reply world = some (won, after)) :
    ∃ since updated, after =
      { world with row := { world.row with fundStartedAt := since, updatedAt := updated } } := by
  simp only [perform, OnchainSendStore.claimFundLease] at hp
  split at hp
  · next row hrow =>
    cases hp
    split at hrow
    · cases hrow
      exact ⟨_, _, rfl⟩
    · cases hrow
  · cases hp
    exact ⟨world.row.fundStartedAt, world.row.updatedAt, rfl⟩

/-- The funding is recorded where none was, in `funding_onchain`, or nothing changes. -/
theorem perform_recordFundingTx {tx : FundingTx} {won : Bool}
    (hp : perform worker (.recordFundingTx tx) reply world = some (won, after)) :
    (world.row.state = .fundingOnchain ∧ world.row.fundingTx = none) ∧ won = true ∧
        after = world.record worker
          { world.row with fundingTx := some tx, updatedAt := world.clock } ∨
      won = false ∧ after = world := by
  simp only [perform, OnchainSendStore.recordFundingTx] at hp
  split at hp
  · next row hrow =>
    cases hp
    split at hrow
    · next hc =>
      cases hrow
      exact .inl ⟨hc, rfl, rfl⟩
    · cases hrow
  · cases hp
    exact .inr ⟨rfl, rfl⟩

end Frame

/-- What happens without a worker: time passes. -/
structure OnchainMove where
  seconds : ℕ

/-- Effect of one environment move. -/
def stir (move : OnchainMove) (world : OnchainWorld) : Option OnchainWorld :=
  some { world with clock := world.clock + move.seconds }

/-- What an onchain send worker can be started on. -/
inductive OnchainJob (paymentHashFromPreimage : String → String) where
  /-- A tick of at most this many steps. -/
  | tick (deps : OnchainDeps paymentHashFromPreimage) (rounds : ℕ)
  | refundSweep
  | reclaimOnchainHtlc (deps : OnchainDeps paymentHashFromPreimage)

/-- The code of a job. -/
def OnchainJob.program (wallet : WalletCaps) {paymentHashFromPreimage : String → String} :
    OnchainJob paymentHashFromPreimage → Prog Unit
  | tick deps rounds => OnchainSend.tick wallet deps rounds
  | refundSweep => OnchainSend.refundSweep paymentHashFromPreimage
  | reclaimOnchainHtlc deps => OnchainSend.reclaimOnchainHtlc deps

/-- Workers on one onchain send row. -/
def onchainMachine (wallet : WalletCaps) (paymentHashFromPreimage : String → String) :
    Machine where
  Op := OnchainOp
  Ans := OnchainOp.Ans
  Err := Fault
  World := OnchainWorld
  Reply := OnchainReply
  Move := OnchainMove
  Job := OnchainJob paymentHashFromPreimage
  perform := perform
  stir := stir
  program := OnchainJob.program wallet

/-- The world right after the quote was inserted. -/
def quoted (quote : OnchainQuoteRecord) (clock : ℕ) : OnchainWorld :=
  { clock := clock, row := insertQuote quote clock }

/-- A wallet with every optional call. -/
def sampleWallet : WalletCaps := ⟨true, true, true, true⟩

/-- A quote of 50500 sats paying out 50000. -/
def sampleQuote : OnchainQuoteRecord :=
  ⟨"o1", "hash", 50500, 50000, 2000030000, "provider", "script", some "client", "payout", "refund",
    2000014400, 1, "address", "htlc"⟩

/-- One preimage is known for the sample's payment hash. -/
def sampleHash (preimage : String) : String := if preimage = "preimage" then "hash" else ""

/-- A deployment without optional gates. -/
def sampleDeps (process : ℕ) : OnchainDeps sampleHash where
  process := process
  providerPubkey := "provider"
  regtest := false
  approvalGate := false
  htlcPkScript _ _ _ _ := "htlc"
  refundVsize := 100
  power _ _ := 1
  unilateralExitRecourse _ := ""

/-- An event of the sample deployment. -/
abbrev SampleEvent : Type := Event (onchainMachine sampleWallet sampleHash)

/-- A worker of this process starts a tick. -/
def sampleTick (worker process rounds : ℕ) : SampleEvent :=
  .start worker (OnchainJob.tick (sampleDeps process) rounds)

/-- The worker's next action is answered. -/
def sampleAct (worker : ℕ) (reply : OnchainReply) : SampleEvent := .act worker reply

/-- The worker's next actions get their default answers. -/
def sampleActs (worker count : ℕ) : List SampleEvent := List.replicate count (sampleAct worker {})

/-- Time passes. -/
def sampleWait (seconds : ℕ) : SampleEvent := .stir (⟨seconds⟩ : OnchainMove)

/-- The indexer shows the lockup the quote asked for. -/
def sampleLockup : OnchainReply := { lockups := .ok [⟨"l1", 0, 50500, [], none⟩] }

/-- A signed funding that pays the HTLC once. -/
def sampleFunding : FundingTx := ⟨"f1", [⟨some "htlc", 50000⟩]⟩

/-- Worker 0 adopts the lockup. -/
def sampleAdopt : List SampleEvent :=
  sampleTick 0 0 1 :: sampleActs 0 2 ++ [sampleAct 0 sampleLockup] ++ sampleActs 0 3

/-- Worker 0 passes the gates of the funded row and signs its funding. -/
def sampleSign : List SampleEvent :=
  sampleTick 0 0 1 :: sampleActs 0 3 ++ [sampleAct 0 sampleLockup] ++ sampleActs 0 4 ++
    [sampleAct 0 sampleLockup] ++ sampleActs 0 1 ++ [sampleAct 0 { funding := .ok sampleFunding }]

/-- Worker 0 records the funding it signed, broadcasts it and moves on. -/
def samplePublish : List SampleEvent := sampleActs 0 5

/-- The HTLC matures unclaimed and worker 0 starts to take it back. -/
def sampleMature : List SampleEvent := sampleWait 20000 :: sampleTick 0 0 1 :: sampleActs 0 6

/-- Worker 0 broadcasts this version of the refund. -/
def sampleRefund (txid : String) : List SampleEvent :=
  sampleTick 0 0 1 :: sampleActs 0 5 ++ [sampleAct 0 { refundTxid := .ok txid }] ++ sampleActs 0 4

end IntentSolver.OnchainSendWorld
