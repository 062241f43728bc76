import IntentSolver.LightningReceive
import IntentSolver.WorkerInterleaving

/-!
# Who funds a Lightning receive, and when a refusal may stand

The world of one receive row: the stored row, the outputs its public lockup
address has ever held and the funding transactions the solver has submitted.
Any number of workers tick the row. The indexer answers any part of the truth;
a funding call submits, provably does not, or loses its answer, and a
submission may land at any later time or never.
-/

namespace IntentSolver.LightningReceiveFunding

open SwapStore ArkadeLockup WorkerProgram WorkerInterleaving LightningReceiveStore
open LightningReceive LightningPort
open LightningSendStore (SendSwapRow)

/-- One output at the row's script. -/
structure HeldOutput where
  txid : String
  vout : ℕ
  value : ℤ
  deriving DecidableEq

/-- What an indexer entry says about the output, its spent flag aside. -/
def heldOf (output : LockupOutpoint) : HeldOutput := ⟨output.txid, output.vout, output.value⟩

/-- The shared world of one receive row. -/
structure ReceiveWorld where
  /-- Unix seconds. -/
  clock : ℕ
  /-- The stored row. -/
  row : ReceiveSwapRow
  /-- Every output the row's script has ever held. -/
  held : List HeldOutput
  /-- Output at the script of each funding the solver has submitted. -/
  submitted : List HeldOutput

/-- How a funding call ends. -/
inductive FundReply where
  /-- Submitted, and the caller learns the txid. -/
  | submitted (txid : String) (vout : ℕ)
  /-- Submitted, but the caller only sees an error. -/
  | lost (txid : String) (vout : ℕ) (message : String)
  /-- An ambiguous error behind which nothing was submitted. -/
  | dropped (message : String)
  /-- `FundNotSubmittedError`. -/
  | notSubmitted (message : String)

/-- What the outside answers; an action reads the field it asks for. -/
structure ReceiveReply where
  holdState : Except Fault HoldState := .ok ⟨.pending, none⟩
  coupledSend : Except Fault (Option SendSwapRow) := .ok none
  coupledLockups : Except Fault (List FundedOutput) := .ok []
  tipHeight : Except Fault ℤ := .ok 0
  cancelHold : Except Fault Unit := .ok ()
  outpoints : Except Fault (List LockupOutpoint) := .ok []
  fund : FundReply := .notSubmitted ""

/-- The answer to a question. -/
def ReceiveReply.answer (reply : ReceiveReply) :
    (question : ReceiveQuestion) → Except Fault question.Answer
  | .getHoldState => reply.holdState
  | .coupledSend => reply.coupledSend
  | .coupledLockups _ => reply.coupledLockups
  | .tipHeight => reply.tipHeight
  | .cancelHold => reply.cancelHold

/-- A txid no output and no submission carries yet. -/
def ReceiveWorld.unused (world : ReceiveWorld) (txid : String) : Bool :=
  (world.held ++ world.submitted).all fun output => decide (output.txid ≠ txid)

/-- Effect of `arkade.fund`. -/
def performFund (payoutSats : ℤ) (reply : FundReply) (world : ReceiveWorld) :
    Option (Except Fault String × ReceiveWorld) :=
  match reply with
  | .submitted txid vout =>
    if world.unused txid then
      some (.ok txid, { world with submitted := ⟨txid, vout, payoutSats⟩ :: world.submitted })
    else none
  | .lost txid vout message =>
    if world.unused txid then
      some (.error (.error message),
        { world with submitted := ⟨txid, vout, payoutSats⟩ :: world.submitted })
    else none
  | .dropped message => some (.error (.error message), world)
  | .notSubmitted message => some (.error (.fundNotSubmitted message), world)

/-- Effect of one action. -/
def perform (_worker : ℕ) : (op : ReceiveOp) → ReceiveReply → ReceiveWorld →
    Option (op.Ans × ReceiveWorld)
  | .get, _, world => some (world.row, world)
  | .update source target columns, _, world =>
    match updateWhere receiveShape world.clock source target columns (fun _ => true) world.row with
    | some row => some (true, { world with row := row })
    | none => some (false, world)
  | .patch columns, _, world =>
    some ((), { world with row := patchRow receiveShape world.clock columns world.row })
  | .claimFundLease source, _, world =>
    match claimFundLease world.clock source world.row with
    | some row => some (true, { world with row := row })
    | none => some (false, world)
  | .releaseFundLease, _, world => some ((), { world with row := releaseFundLease world.row })
  | .now, _, world => some (world.clock, world)
  | .read question, reply, world => some (reply.answer question, world)
  | .findLockupOutpoints, reply, world =>
    match reply.outpoints with
    | .error fault => some (.error fault, world)
    | .ok outpoints =>
      if ∀ output ∈ outpoints, heldOf output ∈ world.held then some (.ok outpoints, world) else none
  | .fund _ payoutSats _, reply, world => performFund payoutSats reply.fund world

/-- What happens without a worker of this module. -/
inductive ReceiveMove where
  /-- Time passes. -/
  | wait (seconds : ℕ)
  /-- A submitted funding lands at the script. -/
  | land (output : HeldOutput)
  /-- Somebody else pays the public address. -/
  | deposit (output : HeldOutput)
  /-- A later step of the corridor moves a funded row along its lifecycle. -/
  | later (target : ReceiveSwapState)

/-- Effect of one environment move. -/
def stir : ReceiveMove → ReceiveWorld → Option ReceiveWorld
  | .wait seconds, world => some { world with clock := world.clock + seconds }
  | .land output, world =>
    if output ∈ world.submitted then some { world with held := output :: world.held } else none
  | .deposit output, world =>
    if world.submitted.all fun ours => decide (ours.txid ≠ output.txid) then
      some { world with held := output :: world.held }
    else none
  | .later target, world =>
    if world.row.state ∈ [.funded, .claimed, .refunding] ∧
        target ∈ (LnReceiveMachine world.row.state).edges then
      some { world with row := { world.row with state := target } }
    else none

/-- What a move can do: time passes, an output lands (ours, or a stranger's), or
the row moves on after its funding. -/
theorem stir_cases {move : ReceiveMove} {world next : ReceiveWorld}
    (hs : stir move world = some next) :
    (∃ seconds, next = { world with clock := world.clock + seconds }) ∨
      (∃ output, (output ∈ world.submitted ∨ ∀ ours ∈ world.submitted, ours.txid ≠ output.txid) ∧
        next = { world with held := output :: world.held }) ∨
      ∃ target, world.row.state ∈ [.funded, .claimed, .refunding] ∧
        target ∈ (LnReceiveMachine world.row.state).edges ∧
        next = { world with row := { world.row with state := target } } := by
  cases move with
  | wait seconds =>
    cases hs
    exact .inl ⟨seconds, rfl⟩
  | land output =>
    simp only [stir] at hs
    split at hs
    · next ho =>
      cases hs
      exact .inr (.inl ⟨output, .inl ho, rfl⟩)
    · cases hs
  | deposit output =>
    simp only [stir] at hs
    split at hs
    · next hn =>
      cases hs
      have hforeign : ∀ ours ∈ world.submitted, ours.txid ≠ output.txid := fun ours hm =>
        of_decide_eq_true (List.all_eq_true.mp hn ours hm)
      exact .inr (.inl ⟨output, .inr hforeign, rfl⟩)
    · cases hs
  | later target =>
    simp only [stir] at hs
    split at hs
    · next hc =>
      cases hs
      exact .inr (.inr ⟨target, hc.1, hc.2, rfl⟩)
    · cases hs

/-- A tick of a worker with its own configuration. -/
structure ReceiveJob where
  deps : ReceiveDeps
  polls : ℕ
  rounds : ℕ

/-- Workers on one receive row. -/
def receiveMachine : Machine where
  Op := ReceiveOp
  Ans := ReceiveOp.Ans
  Err := Fault
  World := ReceiveWorld
  Reply := ReceiveReply
  Move := ReceiveMove
  Job := ReceiveJob
  perform := perform
  stir := stir
  program job := tick job.deps job.polls job.rounds

/-- The world right after the quote was inserted; strangers may already have
paid the address. -/
def quoted (quote : ReceiveQuoteRecord) (clock : ℕ) (held : List HeldOutput) : ReceiveWorld :=
  ⟨clock, insertQuote quote clock, held, []⟩

end IntentSolver.LightningReceiveFunding
