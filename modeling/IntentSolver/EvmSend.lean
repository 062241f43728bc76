import IntentSolver.EvmSendPlan
import IntentSolver.SingleCommit
import IntentSolver.WorkerInterleaving
import Mathlib.Data.Rat.Floor

/-!
# The EVM send corridor

The client locks sats, the solver locks an ERC20 against them. A tick observes the
world, plans and carries one order out; the compare-and-swap into `locking_evm` comes
before the lock is broadcast. The refund sweep hands a refused client its lockup back,
and a watch keeps reading closed rows for a late claim. The chain, the indexer and the
operator answer anything. The payout-funding adapter is not wired, and the per-process
lock sequence only orders workers that may here run in any order.
-/

namespace IntentSolver.EvmSend

open EvmPort EvmSendPlan WorkerProgram WorkerInterleaving SingleCommit

/-- The stored row, as far as the corridor reads it. -/
structure EvmSendSwapRow where
  id : String
  state : EvmSendSwapState
  createdAt : ℤ
  updatedAt : ℤ
  amountSats : ℤ
  /-- What the solver locks, in the token's base units. -/
  evmAmount : ℕ
  evmTimeout : ℤ
  validUntil : ℤ
  minConfirmations : ℤ
  minAgeSeconds : ℚ
  refundLocktime : ℤ
  evmLockTxid : Option String := none
  evmRefundTxid : Option String := none
  preimage : Option String := none
  claimArkTxid : Option String := none
  refundArkTxid : Option String := none
  refundOutcome : Option String := none
  failureReason : Option String := none

/-- The planner's view of the row. -/
def EvmSendSwapRow.plan (row : EvmSendSwapRow) : EvmSendPlanRow :=
  ⟨row.state, row.refundLocktime, row.evmTimeout, row.validUntil, row.minConfirmations,
    row.minAgeSeconds, row.preimage, row.evmRefundTxid⟩

/-- Columns the corridor writes. -/
inductive EvmSendColumn where
  | evmLockTxid (txid : String)
  | preimage (preimage : String)
  | claimArkTxid (txid : String)
  | refundArkTxid (txid : String)
  | refundOutcome (outcome : String)
  | failureReason (reason : String)

/-- Write one column. -/
def assign : EvmSendColumn → EvmSendSwapRow → EvmSendSwapRow
  | .evmLockTxid txid, row => { row with evmLockTxid := some txid }
  | .preimage preimage, row => { row with preimage := some preimage }
  | .claimArkTxid txid, row => { row with claimArkTxid := some txid }
  | .refundArkTxid txid, row => { row with refundArkTxid := some txid }
  | .refundOutcome outcome, row => { row with refundOutcome := some outcome }
  | .failureReason reason, row => { row with failureReason := some reason }

/-- State names as the database spells them. -/
def stateName : EvmSendSwapState → String
  | .quoted => "quoted"
  | .funded => "funded"
  | .lockingEvm => "locking_evm"
  | .awaitingClaim => "awaiting_claim"
  | .claiming => "claiming"
  | .claimed => "claimed"
  | .refundingEvm => "refunding_evm"
  | .refunded => "refunded"
  | .refused => "refused"
  | .stuck => "stuck"

/-- The `send_evm_swap` table. -/
def evmSendShape : EvmSwapShape EvmSendSwapRow EvmSendSwapState EvmSendColumn where
  noun := "send"
  stateName := stateName
  state := EvmSendSwapRow.state
  stamp state now row := { row with state := state, updatedAt := now }
  touch now row := { row with updatedAt := now }
  assign := assign
  state_stamp _ _ _ := rfl
  state_touch _ _ := rfl
  state_assign column row := by cases column <;> rfl

/-! ## Actions -/

/-- What the corridor asks the chain, the indexer and the operator. -/
inductive EvmSendQuestion where
  | arkadeLockupFunded
  | isLocked
  | isLockedAt (probe : ℤ)
  | blockTimestampAt (probe : ℤ)
  | blockHeight
  | timelockHeight
  | transactionOutcome (txid : String)
  | transactionBlock (txid : String)
  | findRefund (floor : ℤ)
  | findClaimPreimage (floor nowSeconds : ℤ)
  | approval
  | allowance
  | findLockups
  | lockupProvablySpent
  deriving DecidableEq

/-- What each question answers; a lockup read answers how many outputs there are. -/
abbrev EvmSendQuestion.Answer : EvmSendQuestion → Type
  | .arkadeLockupFunded => Bool
  | .isLocked => Bool
  | .isLockedAt _ => Bool
  | .blockTimestampAt _ => ℤ
  | .blockHeight => ℤ
  | .timelockHeight => ℤ
  | .transactionOutcome _ => EvmTransactionOutcome
  | .transactionBlock _ => Option ℤ
  | .findRefund _ => Bool
  | .findClaimPreimage _ _ => Option String
  | .approval => Bool
  | .allowance => ℕ
  | .findLockups => ℕ
  | .lockupProvablySpent => Bool

/-- Atomic actions of a worker on the row. -/
inductive EvmSendOp where
  | get
  | update (source target : EvmSendSwapState) (columns : List EvmSendColumn)
  | patch (columns : List EvmSendColumn)
  | claimRefundTxid (txid : String)
  | findRefundable
  | findClosedOverLock (nowSeconds : ℤ)
  | now
  | read (question : EvmSendQuestion)
  | broadcast (call : EvmCall)
  | claimArkade (preimage : String)
  | refundArkade

/-- What each action answers. -/
abbrev EvmSendOp.Ans : EvmSendOp → Type
  | .get => EvmSendSwapRow
  | .update _ _ _ => Bool
  | .patch _ => Unit
  | .claimRefundTxid _ => Bool
  | .findRefundable => Option EvmSendSwapRow
  | .findClosedOverLock _ => Option EvmSendSwapRow
  | .now => ℤ
  | .read question => Except EvmFault question.Answer
  | .broadcast _ => Except EvmFault String
  | .claimArkade _ => Except EvmFault String
  | .refundArkade => Except EvmFault String

/-- Programs of this corridor. -/
abbrev Prog (α : Type) : Type := Program EvmSendOp.Ans EvmFault α

/-- One action. -/
def issue (op : EvmSendOp) : Prog op.Ans := Program.issue op

/-- One question; its error is thrown. -/
def ask (question : EvmSendQuestion) : Prog question.Answer := do
  Program.ofExcept (← issue (.read question))

/-- `transition`: a lost compare-and-swap throws. -/
def transition (id : String) (source target : EvmSendSwapState) (columns : List EvmSendColumn) :
    Prog Unit := do
  if ← issue (.update source target columns) then return ()
  throw (notInState evmSendShape id source)

/-- `fail`: every caller names the state it saw, and the row ends `stuck`. -/
def fail (id : String) (source : EvmSendSwapState) (reason : String) : Prog Unit :=
  transition id source .stuck [.failureReason reason]

/-- Write columns without moving the row. -/
def patch (columns : List EvmSendColumn) : Prog Unit := issue (.patch columns)

/-- Broadcast one call; its error is thrown. -/
def broadcast (call : EvmCall) : Prog String := do
  Program.ofExcept (← issue (.broadcast call))

/-- How a worker is configured. -/
structure EvmSendDeps where
  /-- Whether an approval gate is wired. -/
  approvalGate : Bool
  /-- The fastest plausible block time. -/
  fastestSecondsPerBlock : ℚ

variable (deps : EvmSendDeps)

/-! ## Observing -/

/-- Asked only where an absent lock is ambiguous. -/
def lockReverted (row : EvmSendSwapRow) : Prog Bool :=
  match row.evmLockTxid with
  | none => return false
  | some txid =>
    if row.state ≠ .lockingEvm then return false
    else orElse (do return decide ((← ask (.transactionOutcome txid)) = .reverted)) false

/-- Asked only while a refund is out. -/
def refundOutcome (row : EvmSendSwapRow) : Prog EvmTransactionOutcome :=
  match row.evmRefundTxid with
  | none => return .pending
  | some txid =>
    if row.state ≠ .refundingEvm then return .pending
    else orElse (ask (.transactionOutcome txid)) .pending

/-- Whether some refund of this lock is proven mined. -/
def refundLanded (row : EvmSendSwapRow) : Prog Bool :=
  if row.state ≠ .refundingEvm then return false
  else orElse (ask (.findRefund row.evmTimeout)) false

/-- The height the row cannot have been inserted above. -/
def rowCreationFloor (row : EvmSendSwapRow) (height : ℤ) : Prog ℤ := do
  let elapsed := (← issue .now) - row.createdAt
  if elapsed < 0 then return 0
  return max 0 (height - ⌈(elapsed : ℚ) / deps.fastestSecondsPerBlock⌉)

/-- The block our lock was mined in, when it can be read. -/
def lockBlock (row : EvmSendSwapRow) : Prog (Option ℤ) :=
  match row.evmLockTxid with
  | none => return none
  | some txid => ask (.transactionBlock txid)

/-- No claim of the lock precedes this block. -/
def lockFloor (row : EvmSendSwapRow) (height : ℤ) : Prog ℤ := do
  match ← lockBlock row with
  | some block => return block
  | none => rowCreationFloor deps row height

/-- Where the scan for a claim starts. -/
def claimScanFloor (row : EvmSendSwapRow) (height : ℤ) : Prog ℤ := do
  let floor ← lockFloor deps row height
  return max 0 (floor - row.minConfirmations)

/-- The preimage on the row, or the one a claim of our lock has revealed. -/
def scanPreimage (row : EvmSendSwapRow) (height : ℤ) : Prog (Option String) :=
  if row.preimage = none ∧ row.state ∈ EVM_SEND_EXPOSED then
    (do
      let floor ← claimScanFloor deps row height
      ask (.findClaimPreimage floor (← issue .now))).tryCatch fun
        -- Only an unverifiable claim is an error; any other failed read finds nothing.
        | .claimVerification message => .throw (.claimVerification message)
        | .error _ => .ret none
  else return row.preimage

/-- Everything the planner needs, gathered before any decision. -/
def observe (row : EvmSendSwapRow) : Prog EvmSendObservation := do
  let funded ← ask .arkadeLockupFunded
  let present ← ask .isLocked
  let height ← ask .blockHeight
  let clock ← ask .timelockHeight
  let lockReverted ← lockReverted row
  let refundOutcome ← refundOutcome row
  let refundLanded ← refundLanded row
  let preimage ← scanPreimage deps row height
  let depth ← provenDepth (fun probe => ask (.isLockedAt probe))
    (fun probe => ask (.blockTimestampAt probe)) present height row.minConfirmations
    (← issue .now)
  return ⟨funded, present, lockReverted, refundOutcome, refundLanded, depth.confirmations,
    depth.ageSeconds, preimage, ← issue .now, clock⟩

/-! ## Stepping -/

/-- Operator approval, where a gate is wired. -/
def askApproval : Prog Bool := if deps.approvalGate then ask .approval else return true

/-- Broadcast every call in order; the last txid is the lock's. -/
def broadcastAll : List EvmCall → String → Prog String
  | [], txid => return txid
  | call :: rest, _ => do broadcastAll rest (← broadcast call)

/-- The body of the lock sequence: read and plan again, then expose, then lock. -/
def lockEvm : Prog Bool := do
  let current ← issue .get
  if planEvmSend current.plan (← observe deps current) ≠ .lockEvm then return true
  if !(← askApproval deps) then return false
  transition current.id current.state .lockingEvm []
  let allowance ← ask .allowance
  let txid ← broadcastAll (lockCalls current.evmAmount allowance) ""
  patch [.evmLockTxid txid]
  return true

/-- Claim the lockup with a revealed preimage, which is persisted first. -/
def claimArkade (row : EvmSendSwapRow) (preimage : String) : Prog Bool := do
  let current ← if row.state = .claiming then pure row else issue .get
  if current.state ≠ .claiming then
    transition row.id current.state .claiming [.preimage preimage]
  let _ ← issue .get
  let arkTxid ← Program.ofExcept (← issue (.claimArkade preimage))
  transition row.id .claiming .claimed [.claimArkTxid arkTxid]
  return false

/-- Take the solver's own lock back; the first recorded txid stays. -/
def refundEvm (row : EvmSendSwapRow) : Prog Bool := do
  if row.state ≠ .refundingEvm then transition row.id row.state .refundingEvm []
  let txid ← broadcast .refund
  let _ ← issue (.claimRefundTxid txid)
  return false

/-- One step; true when the row may be tried again. -/
def step (row : EvmSendSwapRow) : Prog Bool := do
  match planEvmSend row.plan (← observe deps row) with
  | .wait => return false
  | .refuse reason =>
    transition row.id row.state .refused [.failureReason reason]
    return false
  | .stick reason =>
    fail row.id row.state reason
    return false
  | .lockEvm => lockEvm deps
  | .awaitClaim =>
    transition row.id row.state .awaitingClaim []
    return true
  | .claimArkade preimage => claimArkade row preimage
  | .refundEvm => refundEvm row
  | .recordRefund =>
    transition row.id .refundingEvm .refunded []
    return false

/-- Step the row until it stops advancing, at most this many times. -/
def tick : ℕ → Prog Unit
  | 0 => return ()
  | rounds + 1 => do
    if ← step deps (← issue .get) then tick rounds

/-- Hand a refused client its lockup back. -/
def refundSweep : Prog Unit := do
  match ← issue .findRefundable with
  | none => return ()
  | some _ =>
    if (← ask .findLockups) = 0 then
      -- One empty read is no proof that somebody else spent the lockup.
      if ← ask .lockupProvablySpent then patch [.refundOutcome "external"]
    else
      let txid ← Program.ofExcept (← issue .refundArkade)
      patch [.refundOutcome "pushed", .refundArkTxid txid]

/-- Read a closed row for a late claim and keep its preimage. -/
def watchLateLocks : Prog Unit := do
  match ← issue (.findClosedOverLock (← issue .now)) with
  | none => return ()
  | some row =>
    let height ← ask .blockHeight
    let _ ← ask .isLocked
    if row.preimage ≠ none then return ()
    let floor ← claimScanFloor deps row height
    match ← ask (.findClaimPreimage floor (← issue .now)) with
    | none => return ()
    | some preimage => patch [.preimage preimage]

/-! ## The world of one row -/

/-- The shared world of one row. -/
structure EvmSendWorld where
  /-- Unix seconds. -/
  clock : ℕ
  row : EvmSendSwapRow
  /-- Who won the lock, broadcast it, refused the row or gave its lockup back; latest first. -/
  deeds : List (ℕ × Deed)

/-- How a broadcast ends. -/
inductive SendReply where
  | sent (txid : String)
  /-- Sent, but the caller only sees an error. -/
  | lost (message : String)
  | failed (message : String)

/-- What the outside answers; an action reads the field it asks for. -/
structure EvmSendReply where
  answer : (question : EvmSendQuestion) → Except EvmFault question.Answer
  send : SendReply := .failed ""
  /-- Outcome of an Arkade claim or refund. -/
  arkade : Except EvmFault String := .error (.error "")

/-- The deed of moving a row into this state. -/
def deedOf (worker : ℕ) : EvmSendSwapState → List (ℕ × Deed)
  | .lockingEvm => [(worker, .won)]
  | .refused => [(worker, .refused)]
  | _ => []

/-- Effect of a broadcast: the lock is the commitment. -/
def performBroadcast (worker : ℕ) (call : EvmCall) (reply : SendReply) (world : EvmSendWorld) :
    Except EvmFault String × EvmSendWorld :=
  let sent := if call = .lock then { world with deeds := (worker, .committed) :: world.deeds }
    else world
  match reply with
  | .sent txid => (.ok txid, sent)
  | .lost message => (.error (.error message), sent)
  | .failed message => (.error (.error message), world)

/-- Effect of one action. -/
def perform (worker : ℕ) : (op : EvmSendOp) → EvmSendReply → EvmSendWorld →
    Option (op.Ans × EvmSendWorld)
  | .get, _, world => some (world.row, world)
  | .update source target columns, _, world =>
    match updateWhere evmSendShape world.clock source target columns world.row with
    | some row =>
      some (true, { world with row := row, deeds := deedOf worker target ++ world.deeds })
    | none => some (false, world)
  | .patch columns, _, world =>
    some ((), { world with row := patchRow evmSendShape world.clock columns world.row })
  | .claimRefundTxid txid, _, world =>
    if world.row.evmRefundTxid = none then
      some (true, { world with row :=
        { world.row with updatedAt := world.clock, evmRefundTxid := some txid } })
    else some (false, world)
  | .findRefundable, _, world =>
    some (if world.row.state = .refused ∧ world.row.refundOutcome = none then some world.row
      else none, world)
  | .findClosedOverLock nowSeconds, _, world =>
    some (if (world.row.state = .stuck ∨ world.row.state = .refunded) ∧
        nowSeconds < world.row.refundLocktime ∧ ∃ deed ∈ world.deeds, deed.2 = .won then
      some world.row else none, world)
  | .now, _, world => some ((world.clock : ℤ), world)
  | .read question, reply, world => some (reply.answer question, world)
  | .broadcast call, reply, world => some (performBroadcast worker call reply.send world)
  | .claimArkade _, reply, world => some (reply.arkade, world)
  | .refundArkade, reply, world =>
    some (reply.arkade, { world with deeds := (worker, .returned) :: world.deeds })

/-- What a worker can be started on. -/
inductive EvmSendJob where
  | tick (deps : EvmSendDeps) (rounds : ℕ)
  | refundSweep
  | watchLateLocks (deps : EvmSendDeps)

/-- Workers on one EVM send row; time passes by itself. -/
def evmSendMachine : Machine where
  Op := EvmSendOp
  Ans := EvmSendOp.Ans
  Err := EvmFault
  World := EvmSendWorld
  Reply := EvmSendReply
  Move := ℕ
  Job := EvmSendJob
  perform := perform
  stir seconds world := some { world with clock := world.clock + seconds }
  program
    | .tick deps rounds => tick deps rounds
    | .refundSweep => refundSweep
    | .watchLateLocks deps => watchLateLocks deps

/-- The world right after the quote was inserted. -/
def quoted (row : EvmSendSwapRow) (clock : ℕ) : EvmSendWorld :=
  ⟨clock, { row with state := .quoted, preimage := none }, []⟩

/-! ## Observing under a discipline -/

/-- The question is about the outputs at the script. -/
def EvmSendQuestion.readsScript : EvmSendQuestion → Bool
  | .arkadeLockupFunded => true
  | .findLockups => true
  | .lockupProvablySpent => true
  | _ => false

/-- The preimage observed is the one on the row, or a scan for one was due. -/
def Scanned (row : EvmSendSwapRow) (seen : EvmSendObservation) : Prop :=
  seen.preimage = row.preimage ∨ (row.preimage = none ∧ row.state ∈ EVM_SEND_EXPOSED)

section Observing

variable {D : Discipline EvmSendOp.Ans} {deps}

/-- Looking for the floor of the scan only reads. -/
theorem idle_claimScanFloor_of (hr : ∀ txid, D.Idle (ask (.transactionBlock txid)))
    (hn : D.Idle (issue .now)) (row : EvmSendSwapRow) (height : ℤ) :
    D.Idle (claimScanFloor deps row height) := by
  have hblock : D.Idle (lockBlock row) := by
    unfold lockBlock
    split
    · trivial
    · exact hr _
  have hcreation : D.Idle (rowCreationFloor deps row height) := by
    refine hn.bind fun now => ?_
    dsimp only
    split <;> trivial
  have hfloor : D.Idle (lockFloor deps row height) := by
    refine hblock.bind fun mined => ?_
    cases mined with
    | none => exact hcreation
    | some block => trivial
  refine hfloor.bind fun floor => ?_
  trivial

variable (hr : ∀ question, question.readsScript = false → D.Idle (ask question))
  (hn : D.Idle (issue .now))

include hr hn

/-- Scanning for the preimage teaches nothing. -/
theorem idle_scanPreimage_of (row : EvmSendSwapRow) (height : ℤ) :
    D.Idle (scanPreimage deps row height) := by
  unfold scanPreimage
  split
  · refine Discipline.Idle.tryCatch ((idle_claimScanFloor_of (fun _ => hr _ rfl) hn row
      height).bind fun floor => hn.bind fun now => hr _ rfl) fun error => ?_
    split <;> trivial
  · trivial

omit hn in
/-- Asking whether the lock reverted teaches nothing. -/
theorem idle_lockReverted_of (row : EvmSendSwapRow) : D.Idle (lockReverted row) := by
  unfold lockReverted
  split
  · trivial
  · split
    · trivial
    · refine idle_orElse ((hr _ rfl).bind fun outcome => ?_) _
      trivial

omit hn in
/-- Asking what became of the refund teaches nothing. -/
theorem idle_refundOutcome_of (row : EvmSendSwapRow) : D.Idle (refundOutcome row) := by
  unfold refundOutcome
  split
  · trivial
  · split
    · trivial
    · exact idle_orElse (hr _ rfl) _

omit hn in
/-- Asking whether the refund landed teaches nothing. -/
theorem idle_refundLanded_of (row : EvmSendSwapRow) : D.Idle (refundLanded row) := by
  unfold refundLanded
  split
  · trivial
  · exact idle_orElse (hr _ rfl) _

/-- Observing teaches the worker what the funding read teaches and nothing else, and finds
no preimage but the one on the row where no scan is due. -/
theorem obeys_observe_of {note : D.Note} {Taught : Bool → D.Note → Prop}
    (hf : D.Obeys note (ask .arkadeLockupFunded) Taught) (row : EvmSendSwapRow) :
    D.Obeys note (observe deps row) fun seen after =>
      Taught seen.arkadeLockupFunded after ∧ Scanned row seen := by
  unfold observe
  refine hf.bind fun funded after ht => ?_
  refine (hr _ rfl).quiet.obeys_bind fun present => (hr _ rfl).quiet.obeys_bind fun height =>
    (hr _ rfl).quiet.obeys_bind fun clock =>
    (idle_lockReverted_of hr row).quiet.obeys_bind fun reverted =>
    (idle_refundOutcome_of hr row).quiet.obeys_bind fun outcome =>
    (idle_refundLanded_of hr row).quiet.obeys_bind fun landed => ?_
  have hrest : ∀ preimage, D.Obeys after (do
      let depth ← provenDepth (fun probe => ask (.isLockedAt probe))
        (fun probe => ask (.blockTimestampAt probe)) present height row.minConfirmations
        (← issue .now)
      return (⟨funded, present, reverted, outcome, landed, depth.confirmations, depth.ageSeconds,
        preimage, ← issue .now, clock⟩ : EvmSendObservation)) fun seen after =>
          Taught seen.arkadeLockupFunded after ∧ seen.preimage = preimage := fun preimage => by
    refine hn.quiet.obeys_bind fun now => (idle_provenDepth (fun _ => hr _ rfl)
      (fun _ => hr _ rfl) _ _ _ _).quiet.obeys_bind fun depth =>
        hn.quiet.obeys_bind fun now => ⟨ht, rfl⟩
  by_cases he : row.preimage = none ∧ row.state ∈ EVM_SEND_EXPOSED
  · refine (idle_scanPreimage_of hr hn row height).quiet.obeys_bind fun preimage =>
      (hrest preimage).mono fun seen after h => ⟨h.1, .inr he⟩
  · unfold scanPreimage
    rw [if_neg he]
    exact (hrest row.preimage).mono fun seen after h => ⟨h.1, .inl h.2⟩

end Observing

end IntentSolver.EvmSend
