import IntentSolver.ArkadeLockup
import IntentSolver.EvmSend

/-!
# The lockup under an EVM send

The corridor's programs over a world that holds the lockup's outputs. The funding read sums
every output at the script, a claim or a refund spends what one spend takes of them, and
anybody may add outputs at any time. Beside the world stands a history: what each lock was
ordered on, what the claims collected, and what each pass of the refund sweep was shown
and gave back.
-/

namespace IntentSolver.EvmSendLockup

open ArkadeLockup EvmPort EvmSendPlan EvmSend WorkerProgram WorkerInterleaving

/-- Is the lockup funded for the sats that were quoted? -/
def lockupIsFunded (outputs : List FundedOutput) (amount : ℤ) : Bool :=
  decide (amount ≤ totalValue outputs)

/-- What one spend takes, unless every output expires too soon. -/
def spendable (funded : List FundedOutput) (verb : String) (now : ℤ) :
    Except EvmFault (List FundedOutput) :=
  if boundedSpendInputs funded now = [] then
    .error (.error ("nothing to " ++ verb ++ ": every one of the " ++ toString funded.length ++
      " funded outputs expires too soon to spend"))
  else .ok (boundedSpendInputs funded now)

/-- A read of the script: what it showed, and when. -/
structure LockupRead where
  shown : List FundedOutput
  clock : ℤ

/-- A pass of the refund sweep, as far as it has come. -/
structure Pass where
  /-- What its read of the script showed. -/
  shown : List FundedOutput
  /-- What its refund spent. -/
  returned : List FundedOutput
  /-- Whether the script was then proven to be spent. -/
  provablySpent : Bool

/-- The corridor's world with the script and the history of its spends. -/
structure LockupWorld where
  base : EvmSendWorld
  /-- Unspent outputs at the script. -/
  lockup : List FundedOutput
  /-- Every outpoint that has been at the script. -/
  known : List Outpoint
  /-- Outputs the row's claims have spent. -/
  collected : List FundedOutput
  /-- The last funding read of each worker. -/
  funding : ℕ → LockupRead
  /-- The read each lock was ordered on, latest first. -/
  orders : List LockupRead
  /-- The pass each worker is in. -/
  pass : ℕ → Pass
  /-- The passes that wrote a refund outcome, latest first. -/
  writes : List Pass
  /-- Whether an output has arrived since the worker's last read of the script. -/
  arrived : ℕ → Bool
  /-- An output arrived between a pass's read and its write, or after an outcome was
  written. -/
  late : Bool

/-- Change what is known of the pass a worker is in. -/
def LockupWorld.editPass (world : LockupWorld) (worker : ℕ) (edit : Pass → Pass) : LockupWorld :=
  { world with pass := Function.update world.pass worker (edit (world.pass worker)) }

/-- How a spend submitted to the server ends. -/
inductive SpendReply where
  | accepted (txid : String)
  /-- Accepted, but the caller only sees an error. -/
  | lost (message : String)
  | refused (message : String)

/-- What the outside answers. -/
structure LockupReply where
  base : EvmSendReply
  /-- Whether a read of the script fails. -/
  fault : Option EvmFault := none
  provablySpent : Bool := false
  spend : SpendReply := .refused ""

/-- Submit a spend of these inputs; the server accepts none that is gone. -/
def submit {World : Type} (inputs lockup : List FundedOutput) (reply : SpendReply)
    (world spent : World) : Option (Except EvmFault String × World) :=
  match reply with
  | .accepted txid => if inputs ⊆ lockup then some (.ok txid, spent) else none
  | .lost message => if inputs ⊆ lockup then some (.error (.error message), spent) else none
  | .refused message => some (.error (.error message), world)

/-- `deps.claimArkade`: read the script and spend what one claim takes. -/
def performClaim (reply : LockupReply) (world : LockupWorld) :
    Option (Except EvmFault String × LockupWorld) :=
  match reply.fault with
  | some fault => some (.error fault, world)
  | none =>
    if world.lockup = [] then
      some (.error (.error ("no spendable output at the lockup for " ++ world.base.row.id ++
        " - nothing to claim yet")), world)
    else match spendable world.lockup "claim" world.base.clock with
      | .error fault => some (.error fault, world)
      | .ok inputs => submit inputs world.lockup reply.spend world
        { world with
          lockup := world.lockup.filter (· ∉ inputs)
          collected := inputs ++ world.collected }

/-- `arkade.refund` of the outputs the pass was shown. -/
def performRefund (worker : ℕ) (reply : LockupReply) (world : LockupWorld) :
    Option (Except EvmFault String × LockupWorld) :=
  match spendable (world.pass worker).shown "refund" world.base.clock with
  | .error fault => some (.error fault, world)
  | .ok inputs => submit inputs world.lockup reply.spend world
    ({ world with lockup := world.lockup.filter (· ∉ inputs) }.editPass worker
      fun pass => { pass with returned := inputs })

/-- A read of the script, kept where its worker will use it. -/
def performRead (worker : ℕ) (reply : LockupReply) (world : LockupWorld) :
    (question : EvmSendQuestion) → Option (Except EvmFault question.Answer × LockupWorld)
  | .arkadeLockupFunded => match reply.fault with
    | some fault => some (.error fault, world)
    | none => some (.ok (lockupIsFunded world.lockup world.base.row.amountSats),
        { world with funding :=
          Function.update world.funding worker ⟨world.lockup, world.base.clock⟩ })
  | .findLockups => match reply.fault with
    | some fault => some (.error fault, world)
    | none => some (.ok world.lockup.length,
        { world with
          pass := Function.update world.pass worker ⟨world.lockup, [], false⟩
          arrived := Function.update world.arrived worker false })
  | .lockupProvablySpent => match reply.fault with
    | some fault => some (.error fault, world)
    | none =>
      -- The unfiltered view shows every output it has seen as spent.
      if reply.provablySpent = true ∧ world.lockup ≠ [] then none
      else some (.ok reply.provablySpent, world.editPass worker fun pass =>
        { pass with provablySpent := reply.provablySpent })
  | question => some (reply.base.answer question, world)

/-- The columns write a refund outcome. -/
def settles (columns : List EvmSendColumn) : Bool :=
  columns.any fun
    | .refundOutcome _ => true
    | _ => false

/-- What a write adds to the history. -/
def record (worker : ℕ) : (op : EvmSendOp) → op.Ans → LockupWorld → LockupWorld
  | .update _ target _, true, world =>
    if target = .lockingEvm then { world with orders := world.funding worker :: world.orders }
    else world
  | .patch columns, _, world =>
    if settles columns then
      { world with
        writes := world.pass worker :: world.writes
        late := world.late || world.arrived worker }
    else world
  | _, _, world => world

/-- The history is no part of the corridor's world. -/
theorem record_base (worker : ℕ) (op : EvmSendOp) (answer : op.Ans) (world : LockupWorld) :
    (record worker op answer world).base = world.base ∧
      (record worker op answer world).lockup = world.lockup := by
  unfold record
  split
  · split <;> exact ⟨rfl, rfl⟩
  · split <;> exact ⟨rfl, rfl⟩
  · exact ⟨rfl, rfl⟩

/-- Any other action is the corridor's own, and its writes are recorded. -/
def performBase (worker : ℕ) (op : EvmSendOp) (reply : LockupReply) (world : LockupWorld) :
    Option (op.Ans × LockupWorld) :=
  (EvmSend.perform worker op reply.base world.base).map fun result =>
    (result.1, record worker op result.1 { world with base := result.2 })

/-- Effect of one action. -/
def perform (worker : ℕ) : (op : EvmSendOp) → LockupReply → LockupWorld →
    Option (op.Ans × LockupWorld)
  | .read question, reply, world => performRead worker reply world question
  | .claimArkade _, reply, world => performClaim reply world
  | .refundArkade, reply, world => performRefund worker reply world
  | op, reply, world => performBase worker op reply world

/-- What happens at the script without a worker. -/
inductive LockupMove where
  | wait (seconds : ℕ)
  /-- Somebody pays the script. -/
  | arrive (output : FundedOutput)
  /-- Somebody else spends an output, or its batch expires. -/
  | depart (output : FundedOutput)

/-- Effect of one environment move. -/
def stir : LockupMove → LockupWorld → Option LockupWorld
  | .wait seconds, world =>
    some { world with base := { world.base with clock := world.base.clock + seconds } }
  | .arrive output, world =>
    if output.value < 0 ∨ output.outpoint ∈ world.known then none
    else some { world with
      lockup := world.lockup ++ [output]
      known := output.outpoint :: world.known
      arrived := fun _ => true
      late := world.late || world.base.row.refundOutcome.isSome }
  | .depart output, world => some { world with lockup := world.lockup.filter (· ≠ output) }

/-- Workers on one EVM send row and its script. -/
def lockupMachine : Machine where
  Op := EvmSendOp
  Ans := EvmSendOp.Ans
  Err := EvmFault
  World := LockupWorld
  Reply := LockupReply
  Move := LockupMove
  Job := EvmSendJob
  perform := perform
  stir := stir
  program
    | .tick deps rounds => tick deps rounds
    | .refundSweep => refundSweep
    | .watchLateLocks deps => watchLateLocks deps

/-- A row whose script nobody has looked at yet. -/
def opened (row : EvmSendSwapRow) (lockup : List FundedOutput) (clock : ℕ) : LockupWorld where
  base := ⟨clock, row, []⟩
  lockup := lockup
  known := lockup.map FundedOutput.outpoint
  collected := []
  funding _ := ⟨[], 0⟩
  orders := []
  pass _ := ⟨[], [], false⟩
  writes := []
  arrived _ := true
  late := false

/-! ## What the workers remember -/

/-- What one worker remembers of the script. -/
structure LockupNote where
  /-- Its last funding read found the quoted sats. -/
  funded : Bool
  /-- A claim of its was accepted. -/
  collected : Bool
  /-- How many outputs its last read of the script showed. -/
  read : Option ℕ
  /-- Gave the outputs back since that read, or has proof they were spent. -/
  settled : Bool

/-- Moves and writes that what a worker remembers licenses. -/
def LockupNote.may (note : LockupNote) : EvmSendOp → Prop
  | .update source target columns =>
    (target = .lockingEvm → source = .funded ∨ (source = .quoted ∧ note.funded = true)) ∧
    (target = .claimed → note.collected = true) ∧
    target ≠ .quoted ∧ target ≠ .funded ∧ settles columns = false
  | .patch columns => settles columns = true → note.settled = true
  | _ => True

/-- What an answer adds to what a worker remembers. -/
def LockupNote.learn (note : LockupNote) : (op : EvmSendOp) → op.Ans → LockupNote
  | .read .arkadeLockupFunded, .ok funded => { note with funded := funded }
  | .read .findLockups, .ok count => { note with read := some count, settled := false }
  | .read .lockupProvablySpent, .ok spent =>
    { note with settled := spent && decide (note.read = some 0) }
  | .claimArkade _, .ok _ => { note with collected := true }
  | .refundArkade, .ok _ => { note with settled := true }
  | _, _ => note

/-- Find the sats before locking, collect before closing, and give back before a refund
outcome is written. Nobody moves a row back to `quoted`, or to `funded` at all. -/
def lockupDiscipline : Discipline EvmSendOp.Ans where
  Note := LockupNote
  fresh := ⟨false, false, none, false⟩
  may := LockupNote.may
  learn := LockupNote.learn

section Jobs

variable (deps : EvmSendDeps)

/-- A question that does not read the lockup script teaches nothing about it. -/
theorem idle_ask {question : EvmSendQuestion} (h : question.readsScript = false) :
    lockupDiscipline.Idle (ask question) := by
  refine Discipline.Idle.bind (Discipline.idle_issue fun note => ⟨trivial, fun answer => ?_⟩)
    Discipline.idle_ofExcept
  cases question with
  | arkadeLockupFunded => cases h
  | findLockups => cases h
  | lockupProvablySpent => cases h
  | _ => rfl

/-- The clock teaches nothing about the lockup. -/
theorem idle_now : lockupDiscipline.Idle (issue .now) :=
  Discipline.idle_issue fun _ => ⟨trivial, fun _ => rfl⟩

/-- Observing teaches what the funding read answered. -/
theorem obeys_observe (row : EvmSendSwapRow) (note : LockupNote) :
    lockupDiscipline.Obeys note (observe deps row) fun seen after =>
      after.funded = seen.arkadeLockupFunded := by
  have hf : lockupDiscipline.Obeys note (ask .arkadeLockupFunded) fun funded after =>
      after.funded = funded := by
    refine Discipline.obeys_issue_bind.mpr ⟨trivial, fun answer =>
      Discipline.obeys_ofExcept fun funded h => ?_⟩
    rw [h]
    rfl
  exact (obeys_observe_of (fun _ => idle_ask) idle_now hf row).mono fun _ _ h => h.1

/-- A move into any of the states in between is licensed by any notes. -/
theorem obeys_transition {note : LockupNote} {id : String} {source target : EvmSendSwapState}
    {columns : List EvmSendColumn} {P : Unit → LockupNote → Prop}
    (hm : note.may (.update source target columns)) (hp : P () note) :
    lockupDiscipline.Obeys note (transition id source target columns) P := by
  refine Discipline.obeys_issue_bind.mpr ⟨hm, fun won => ?_⟩
  cases won with
  | true => exact hp
  | false => trivial

/-- Broadcasting an EVM call needs nothing of the lockup. -/
theorem free_broadcast (call : EvmCall) : lockupDiscipline.Free (broadcast call) :=
  (Discipline.free_issue fun _ => trivial).bind fun _ => Discipline.free_ofExcept _

/-- Broadcasting a list of calls needs nothing of the lockup. -/
theorem free_broadcastAll (calls : List EvmCall) (txid : String) :
    lockupDiscipline.Free (broadcastAll calls txid) := by
  induction calls generalizing txid with
  | nil => exact Discipline.free_ret _
  | cons call rest ih => exact (free_broadcast call).bind fun _ => ih _

/-- A patch that does not settle the row is always allowed. -/
theorem free_patch {columns : List EvmSendColumn} (h : settles columns = false) :
    lockupDiscipline.Free (patch columns) :=
  Discipline.free_issue fun _ hs => absurd (hs.symm.trans h) (by simp)

/-- The EVM leg's lock keeps the discipline from every note. -/
theorem free_lockEvm : lockupDiscipline.Free (EvmSend.lockEvm deps) := by
  intro note
  refine Discipline.obeys_issue_bind.mpr ⟨trivial, fun current => ?_⟩
  refine (obeys_observe deps current _).bind fun seen after hf => ?_
  split
  · trivial
  next hplan =>
  simp only [ne_eq, Decidable.not_not] at hplan
  have hsource : current.state = .funded ∨ (current.state = .quoted ∧ after.funded = true) := by
    have hp := planEvmSend_presupposes current.plan seen
    rw [hplan] at hp
    obtain ⟨hq, hfunded, -⟩ | hs := hp.2
    · exact .inr ⟨hq, hf.trans hfunded⟩
    · exact .inl hs
  have happroval : lockupDiscipline.Idle (askApproval deps) := by
    unfold askApproval
    split
    · exact idle_ask rfl
    · trivial
  refine happroval.quiet.obeys_bind fun approved => ?_
  split
  · trivial
  refine (obeys_transition (P := fun _ _ => True)
    ⟨fun _ => hsource, by simp, by simp, by simp, rfl⟩ trivial).bind fun _ won _ => ?_
  refine (idle_ask rfl).quiet.obeys_bind fun allowance =>
    (free_broadcastAll _ _ won).bind fun txid after _ => (free_patch rfl after).bind
      fun _ _ _ => trivial

/-- The Arkade claim keeps the discipline from every note. -/
theorem free_claimArkade (row : EvmSendSwapRow) (preimage : String) :
    lockupDiscipline.Free (EvmSend.claimArkade row preimage) := by
  have hrest : lockupDiscipline.Free (do
      let _ ← issue .get
      let arkTxid ← Program.ofExcept (← issue (.claimArkade preimage))
      transition row.id .claiming .claimed [.claimArkTxid arkTxid]
      return false) := fun note => by
    refine Discipline.obeys_issue_bind.mpr ⟨trivial, fun _ =>
      Discipline.obeys_issue_bind.mpr ⟨trivial, fun answer => ?_⟩⟩
    cases answer with
    | error fault => trivial
    | ok arkTxid =>
      exact (obeys_transition (P := fun _ _ => True)
        ⟨by simp, fun _ => rfl, by simp, by simp, rfl⟩ trivial).bind fun _ _ _ => trivial
  have hmove : ∀ current : EvmSendSwapRow, lockupDiscipline.Free (do
        if current.state ≠ .claiming then
          transition row.id current.state .claiming [.preimage preimage]
        let _ ← issue .get
        let arkTxid ← Program.ofExcept (← issue (.claimArkade preimage))
        transition row.id .claiming .claimed [.claimArkTxid arkTxid]
        return false) := fun current note => by
    dsimp only
    split
    · exact (obeys_transition (P := fun _ _ => True)
        ⟨by simp, by simp, by simp, by simp, rfl⟩ trivial).bind fun _ after _ => hrest after
    · exact hrest note
  intro note
  unfold EvmSend.claimArkade
  split
  · exact hmove row note
  · exact Discipline.obeys_issue_bind.mpr ⟨trivial, fun current => hmove current _⟩

/-- The EVM refund keeps the discipline from every note. -/
theorem free_refundEvm (row : EvmSendSwapRow) :
    lockupDiscipline.Free (EvmSend.refundEvm row) := by
  have hrest : lockupDiscipline.Free (do
      let txid ← broadcast .refund
      let _ ← issue (.claimRefundTxid txid)
      return false) := (free_broadcast _).bind fun _ _ =>
    Discipline.obeys_issue_bind.mpr ⟨trivial, fun _ => trivial⟩
  intro note
  unfold EvmSend.refundEvm
  dsimp only
  split
  · exact (obeys_transition (P := fun _ _ => True)
      ⟨by simp, by simp, by simp, by simp, rfl⟩ trivial).bind fun _ after _ => hrest after
  · exact hrest note

/-- One whole step of the row keeps the discipline. -/
theorem free_step (row : EvmSendSwapRow) : lockupDiscipline.Free (EvmSend.step deps row) := by
  -- Neither `locking_evm` nor `claimed` is written here, so any notes do.
  have hmove : ∀ (source target : EvmSendSwapState) (columns : List EvmSendColumn) (again : Bool),
      target ≠ .lockingEvm → target ≠ .claimed → target ≠ .quoted → target ≠ .funded →
      settles columns = false → lockupDiscipline.Free (do
        transition row.id source target columns
        return again) := fun source target columns again hl hc hq hf hs note =>
    (obeys_transition (P := fun _ _ => True)
      ⟨fun h => absurd h hl, fun h => absurd h hc, hq, hf, hs⟩ trivial).bind fun _ _ _ => trivial
  intro note
  refine (obeys_observe deps row note).bind fun seen after _ => ?_
  split
  · trivial
  · exact hmove _ _ _ _ (by simp) (by simp) (by simp) (by simp) rfl after
  · exact hmove _ _ _ _ (by simp) (by simp) (by simp) (by simp) rfl after
  · exact free_lockEvm deps after
  · exact hmove _ _ _ _ (by simp) (by simp) (by simp) (by simp) rfl after
  · exact free_claimArkade row _ after
  · exact free_refundEvm row after
  · exact hmove _ _ _ _ (by simp) (by simp) (by simp) (by simp) rfl after

/-- Every tick keeps the discipline. -/
theorem free_tick (rounds : ℕ) : lockupDiscipline.Free (EvmSend.tick deps rounds) := by
  induction rounds with
  | zero => exact fun _ => trivial
  | succ rounds ih =>
    intro note
    refine Discipline.obeys_issue_bind.mpr ⟨trivial, fun row => ?_⟩
    refine (free_step deps row _).bind fun again after _ => ?_
    split
    · exact ih after
    · trivial

/-- An outcome is written on an empty read with proof, or after the refund went through. -/
theorem free_refundSweep : lockupDiscipline.Free EvmSend.refundSweep := by
  intro note
  refine Discipline.obeys_issue_bind.mpr ⟨trivial, fun found => ?_⟩
  cases found with
  | none => trivial
  | some row =>
    refine Discipline.obeys_issue_bind.mpr ⟨trivial, fun outputs => ?_⟩
    cases outputs with
    | error fault => trivial
    | ok count =>
      change lockupDiscipline.Obeys _ (if count = 0 then _ else _) _
      split
      next hc =>
        refine Discipline.obeys_issue_bind.mpr ⟨trivial, fun proven => ?_⟩
        cases proven with
        | error fault => trivial
        | ok spent =>
          cases spent with
          | false => trivial
          | true =>
            exact ⟨fun _ => by simp [lockupDiscipline, LockupNote.learn, hc], fun _ => trivial⟩
      · refine Discipline.obeys_issue_bind.mpr ⟨trivial, fun answer => ?_⟩
        cases answer with
        | error fault => trivial
        | ok txid => exact ⟨fun _ => rfl, fun _ => trivial⟩

/-- The late-lock watch keeps the discipline. -/
theorem free_watchLateLocks : lockupDiscipline.Free (EvmSend.watchLateLocks deps) := by
  intro note
  refine idle_now.quiet.obeys_bind fun now =>
    Discipline.obeys_issue_bind.mpr ⟨trivial, fun found => ?_⟩
  cases found with
  | none => trivial
  | some row =>
    refine (idle_ask rfl).quiet.obeys_bind fun height => (idle_ask rfl).quiet.obeys_bind
      fun _ => ?_
    split
    · trivial
    refine (idle_claimScanFloor_of (fun _ => idle_ask rfl) idle_now row height).quiet.obeys_bind
      fun floor => idle_now.quiet.obeys_bind fun now => (idle_ask rfl).quiet.obeys_bind
        fun claimed => ?_
    cases claimed with
    | none => trivial
    | some preimage => exact free_patch rfl _

/-- Every job obeys from fresh notes. -/
theorem obeys_jobs : ∀ job, lockupDiscipline.Obeys lockupDiscipline.fresh
    (lockupMachine.program job) fun _ _ => True
  | .tick deps rounds => free_tick deps rounds _
  | .refundSweep => free_refundSweep _
  | .watchLateLocks deps => free_watchLateLocks deps _

end Jobs

/-! ## What an action does -/

/-- The terms, the state and the refund outcome are what they were. -/
structure Kept (row next : EvmSendSwapRow) : Prop where
  amountSats : next.amountSats = row.amountSats
  state : next.state = row.state
  refundOutcome : next.refundOutcome = row.refundOutcome

/-- Every row keeps its own terms. -/
theorem Kept.refl (row : EvmSendSwapRow) : Kept row row := ⟨rfl, rfl, rfl⟩

/-- The amount is no column. -/
theorem amountSats_assignAll (columns : List EvmSendColumn) (row : EvmSendSwapRow) :
    (assignAll evmSendShape columns row).amountSats = row.amountSats := by
  unfold assignAll
  induction columns generalizing row with
  | nil => rfl
  | cons column rest ih =>
    rw [List.foldl_cons, ih]
    cases column <;> rfl

/-- Columns that settle nothing leave the refund outcome alone. -/
theorem refundOutcome_assignAll {columns : List EvmSendColumn} (h : settles columns = false)
    (row : EvmSendSwapRow) :
    (assignAll evmSendShape columns row).refundOutcome = row.refundOutcome := by
  unfold assignAll
  induction columns generalizing row with
  | nil => rfl
  | cons column rest ih =>
    rw [List.foldl_cons]
    unfold settles at h ih
    rw [List.any_cons, Bool.or_eq_false_iff] at h
    rw [ih h.2]
    cases column with
    | refundOutcome outcome => cases h.1
    | _ => rfl

/-- Everything an action can do to the script, the row and the history. -/
inductive Effect (worker : ℕ) (world : LockupWorld) :
    (op : EvmSendOp) → op.Ans → LockupWorld → Prop where
  /-- Nothing that anybody here keeps. -/
  | nothing {op : EvmSendOp} {answer : op.Ans} {base : EvmSendWorld}
      (hl : ∀ note : LockupNote, note.learn op answer = note)
      (hc : base.clock = world.base.clock) (hk : Kept world.base.row base.row) :
      Effect worker world op answer { world with base := base }
  | funding : Effect worker world (.read .arkadeLockupFunded)
      (.ok (lockupIsFunded world.lockup world.base.row.amountSats))
      { world with funding :=
        Function.update world.funding worker ⟨world.lockup, world.base.clock⟩ }
  | outputs : Effect worker world (.read .findLockups) (.ok world.lockup.length)
      { world with
        pass := Function.update world.pass worker ⟨world.lockup, [], false⟩
        arrived := Function.update world.arrived worker false }
  | proof (spent : Bool) (hs : spent = true → world.lockup = []) :
      Effect worker world (.read .lockupProvablySpent) (.ok spent)
        (world.editPass worker fun pass => { pass with provablySpent := spent })
  | claim {preimage : String} {answer : Except EvmFault String} {inputs : List FundedOutput}
      (hi : boundedSpendInputs world.lockup world.base.clock = inputs) (hn : inputs ≠ []) :
      Effect worker world (.claimArkade preimage) answer
        { world with
          lockup := world.lockup.filter (· ∉ inputs)
          collected := inputs ++ world.collected }
  | refund {answer : Except EvmFault String} {inputs : List FundedOutput}
      (hi : boundedSpendInputs (world.pass worker).shown world.base.clock = inputs)
      (hn : inputs ≠ []) :
      Effect worker world .refundArkade answer
        ({ world with lockup := world.lockup.filter (· ∉ inputs) }.editPass worker
          fun pass => { pass with returned := inputs })
  | move {source target : EvmSendSwapState} {columns : List EvmSendColumn} {base : EvmSendWorld}
      (hc : base.clock = world.base.clock) (hs : world.base.row.state = source)
      (ht : base.row.state = target) (ha : base.row.amountSats = world.base.row.amountSats)
      (ho : settles columns = false → base.row.refundOutcome = world.base.row.refundOutcome) :
      Effect worker world (.update source target columns) true
        (record worker (.update source target columns) true { world with base := base })
  | patch {columns : List EvmSendColumn} {base : EvmSendWorld}
      (hc : base.clock = world.base.clock) (hs : base.row.state = world.base.row.state)
      (ha : base.row.amountSats = world.base.row.amountSats)
      (ho : settles columns = false → base.row.refundOutcome = world.base.row.refundOutcome) :
      Effect worker world (.patch columns) ()
        (record worker (.patch columns) () { world with base := base })

section Performing

variable {worker : ℕ} {world next : LockupWorld} {reply : LockupReply}

/-- An action that leaves the world alone and teaches nothing. -/
theorem effect_nothing {op : EvmSendOp} {answer : op.Ans}
    (hl : ∀ note : LockupNote, note.learn op answer = note) :
    Effect worker world op answer world :=
  show Effect worker world op answer { world with base := world.base } from
    .nothing hl rfl (Kept.refl _)

/-- A spend goes through, seen or unseen by its caller, or it is refused. -/
theorem submit_cases {World : Type} {inputs lockup : List FundedOutput} {reply : SpendReply}
    {world spent next : World} {answer : Except EvmFault String}
    (h : submit inputs lockup reply world spent = some (answer, next)) :
    next = spent ∨ (next = world ∧ ∃ message, answer = .error (.error message)) := by
  unfold submit at h
  split at h
  · split at h
    · cases h
      exact .inl rfl
    · cases h
  · split at h
    · cases h
      exact .inl rfl
    · cases h
  · cases h
    exact .inr ⟨rfl, _, rfl⟩

/-- What one spend takes, when there is anything to take. -/
theorem spendable_ok {funded inputs : List FundedOutput} {verb : String} {now : ℤ}
    (h : spendable funded verb now = .ok inputs) :
    boundedSpendInputs funded now = inputs ∧ inputs ≠ [] := by
  unfold spendable at h
  split at h
  · cases h
  next hn =>
    cases h
    exact ⟨rfl, hn⟩

/-- What a performed claim may change in the world. -/
theorem effect_claim {preimage : String} {answer : Except EvmFault String}
    (h : performClaim reply world = some (answer, next)) :
    Effect worker world (.claimArkade preimage) answer next := by
  unfold performClaim at h
  split at h
  · cases h
    exact effect_nothing fun _ => rfl
  · split at h
    · cases h
      exact effect_nothing fun _ => rfl
    · split at h
      · cases h
        exact effect_nothing fun _ => rfl
      next inputs hi =>
        obtain ⟨hi, hn⟩ := spendable_ok hi
        obtain rfl | ⟨rfl, message, rfl⟩ := submit_cases h
        · exact .claim hi hn
        · exact effect_nothing fun _ => rfl

/-- What a performed refund may change in the world. -/
theorem effect_refund {answer : Except EvmFault String}
    (h : performRefund worker reply world = some (answer, next)) :
    Effect worker world .refundArkade answer next := by
  unfold performRefund at h
  split at h
  · cases h
    exact effect_nothing fun _ => rfl
  next inputs hi =>
    obtain ⟨hi, hn⟩ := spendable_ok hi
    obtain rfl | ⟨rfl, message, rfl⟩ := submit_cases h
    · exact .refund hi hn
    · exact effect_nothing fun _ => rfl

/-- What an answered read may change in the world: nothing of the lockup. -/
theorem effect_read {question : EvmSendQuestion} {answer : Except EvmFault question.Answer}
    (h : performRead worker reply world question = some (answer, next)) :
    Effect worker world (.read question) answer next := by
  cases question with
  | arkadeLockupFunded =>
    simp only [performRead] at h
    split at h
    · cases h
      exact effect_nothing fun _ => rfl
    · cases h
      exact .funding
  | findLockups =>
    simp only [performRead] at h
    split at h
    · cases h
      exact effect_nothing fun _ => rfl
    · cases h
      exact .outputs
  | lockupProvablySpent =>
    simp only [performRead] at h
    split at h
    · cases h
      exact effect_nothing fun _ => rfl
    · split at h
      · cases h
      next hs =>
        cases h
        exact .proof _ fun hp => by simpa [hp] using hs
  | _ =>
    cases h
    exact effect_nothing fun _ => rfl

/-- A broadcast touches neither the clock nor the row. -/
theorem performBroadcast_row (worker : ℕ) (call : EvmCall) (reply : SendReply)
    (base : EvmSendWorld) :
    (performBroadcast worker call reply base).2.clock = base.clock ∧
      (performBroadcast worker call reply base).2.row = base.row := by
  unfold performBroadcast
  by_cases hc : call = .lock
  · cases reply <;> simp [hc]
  · cases reply <;> simp [hc]

/-- What any other request may change in the world: nothing of the lockup. -/
theorem effect_base {op : EvmSendOp} {answer : op.Ans}
    (hr : ∀ question, op ≠ .read question) (hc : ∀ preimage, op ≠ .claimArkade preimage)
    (hf : op ≠ .refundArkade) (h : performBase worker op reply world = some (answer, next)) :
    Effect worker world op answer next := by
  unfold performBase at h
  obtain ⟨⟨told, base⟩, hp, hn⟩ := Option.map_eq_some_iff.mp h
  cases op with
  | read question => exact absurd rfl (hr question)
  | claimArkade preimage => exact absurd rfl (hc preimage)
  | refundArkade => exact absurd rfl hf
  | update source target columns =>
    simp only [EvmSend.perform] at hp
    split at hp
    next row hu =>
      cases hp
      cases hn
      obtain ⟨hs, ht⟩ := updateWhere_some evmSendShape hu
      have hrow := updateWhere_eq evmSendShape hu
      refine .move rfl hs ht ?_ fun ho => ?_
      · rw [hrow]
        exact amountSats_assignAll _ _
      · rw [hrow]
        exact refundOutcome_assignAll ho _
    next =>
      cases hp
      cases hn
      exact effect_nothing fun _ => rfl
  | patch columns =>
    cases hp
    cases hn
    exact .patch rfl (state_patchRow evmSendShape _ _ _) (amountSats_assignAll _ _)
      fun ho => refundOutcome_assignAll ho _
  | claimRefundTxid txid =>
    simp only [EvmSend.perform] at hp
    split at hp <;> cases hp <;> cases hn
    · exact .nothing (fun _ => rfl) rfl ⟨rfl, rfl, rfl⟩
    · exact effect_nothing fun _ => rfl
  | broadcast call =>
    obtain ⟨hclock, hrow⟩ := performBroadcast_row worker call reply.base.send world.base
    have hb := Option.some.inj hp
    rw [hb] at hclock hrow
    cases hn
    refine .nothing (fun _ => rfl) hclock ?_
    rw [hrow]
    exact Kept.refl _
  | _ =>
    cases hp
    cases hn
    exact effect_nothing fun _ => rfl

/-- Every action does one of these things. -/
theorem perform_effect {op : EvmSendOp} {answer : op.Ans}
    (h : perform worker op reply world = some (answer, next)) :
    Effect worker world op answer next := by
  cases op with
  | read question => exact effect_read h
  | claimArkade preimage => exact effect_claim h
  | refundArkade => exact effect_refund h
  | _ => exact effect_base (by simp) (by simp) (by simp) h

end Performing

/-! ## A row to run -/

/-- A send of a thousand sats with an hour left on its quote. -/
def sampleRow : EvmSendSwapRow :=
  { id := "swap", state := .quoted, createdAt := 0, updatedAt := 0, amountSats := 1000,
    evmAmount := 20, evmTimeout := 5000, validUntil := 3600, minConfirmations := 3,
    minAgeSeconds := 60, refundLocktime := 90000 }

/-- The chain answers in time, the claim of the lock shows this preimage, and what is sent
goes through. -/
def sampleReply (preimage : Option String) : LockupReply where
  base :=
    { answer := fun
        | .arkadeLockupFunded => .ok false
        | .isLocked => .ok false
        | .isLockedAt _ => .ok false
        | .blockTimestampAt _ => .ok 0
        | .blockHeight => .ok 100
        | .timelockHeight => .ok 100
        | .transactionOutcome _ => .ok .pending
        | .transactionBlock _ => .ok (some 90)
        | .findRefund _ => .ok false
        | .findClaimPreimage _ _ => .ok preimage
        | .approval => .ok true
        | .allowance => .ok (20 : ℕ)
        | .findLockups => .ok (0 : ℕ)
        | .lockupProvablySpent => .ok false
      send := .sent "0xlock" }
  spend := .accepted "arktx"

end IntentSolver.EvmSendLockup
