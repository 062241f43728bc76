import IntentSolver.WorkerProgram

/-!
# A service that does one job at a time

Jobs queue and run one after another, so nothing comes between two actions of one. The process
may die at any action, and what it kept in memory dies with it; what it wrote down stays. The
process that starts next first runs a program of its own over what was written down, and
serves only once that program has returned. A rule about single licensed actions, with notes
that say what the process has learnt and still owes, then holds at every moment of every run.
-/

namespace IntentSolver.SerialService

open WorkerProgram

/-- Actions, the world they act on, the jobs and how a process starts. -/
structure Service where
  Op : Type
  Ans : Op → Type
  Err : Type
  /-- What is written down, what is in memory, and the outside. -/
  World : Type
  /-- What the outside decides when an action runs. -/
  Reply : Type
  /-- What happens on its own. -/
  Move : Type
  Job : Type
  /-- What a process is started with. -/
  Boot : Type
  perform : (op : Op) → Reply → World → Option (Ans op × World)
  stir : Move → World → Option World
  /-- What is left when a process dies. -/
  wipe : World → World
  program : Job → Program Ans Err Unit
  /-- What a new process runs before it serves. -/
  restart : Boot → Program Ans Err Unit

variable {S : Service}

/-- What the process is doing. -/
inductive Activity (S : Service) where
  /-- There is none. -/
  | down
  | booting (code : Program S.Ans S.Err Unit)
  | serving (code : Program S.Ans S.Err Unit)

/-- The world and the process. -/
structure Config (S : Service) where
  world : S.World
  activity : Activity S

/-- One event of a run. -/
inductive Event (S : Service) where
  /-- A process starts; the one before it, if any, is dead. -/
  | boot (boot : S.Boot)
  /-- The next job starts. -/
  | start (job : S.Job)
  /-- The next action runs and the outside replies. -/
  | act (reply : S.Reply)
  | stir (move : S.Move)

/-- Effect of one event; none when it cannot happen here. -/
def step (config : Config S) : Event S → Option (Config S)
  | .boot boot => some ⟨S.wipe config.world, .booting (S.restart boot)⟩
  | .start job =>
    match config.activity with
    | .booting (.ret ()) => some ⟨config.world, .serving (S.program job)⟩
    | .serving (.ret ()) => some ⟨config.world, .serving (S.program job)⟩
    | .serving (.throw _) => some ⟨config.world, .serving (S.program job)⟩
    | _ => none
  | .act reply =>
    match config.activity with
    | .booting (.call op next) =>
      (S.perform op reply config.world).map fun result =>
        ⟨result.2, .booting (next result.1)⟩
    | .serving (.call op next) =>
      (S.perform op reply config.world).map fun result =>
        ⟨result.2, .serving (next result.1)⟩
    | _ => none
  | .stir move => (S.stir move config.world).map fun world => ⟨world, config.activity⟩

/-- A whole run, event by event. -/
def run (config : Config S) : List (Event S) → Option (Config S)
  | [] => some config
  | event :: rest => (step config event).bind fun next => run next rest

/-- A run goes on from where its first part ends. -/
theorem run_append {config mid : Config S} {first rest : List (Event S)}
    (h : run config first = some mid) : run config (first ++ rest) = run mid rest := by
  induction first generalizing config with
  | nil =>
    cases h
    rfl
  | cons event first ih =>
    obtain ⟨next, hs, hr⟩ := Option.bind_eq_some_iff.mp h
    rw [List.cons_append, run, hs, Option.bind_some]
    exact ih hr

/-- What a proof about a service supplies. -/
structure Rules (S : Service) where
  discipline : Discipline S.Ans
  /-- The notes of a process that starts. -/
  bootNote : discipline.Note
  /-- What holds of the world and the notes, at every moment. -/
  inv : S.World → discipline.Note → Prop
  /-- The notes a job may end with: nothing is owed. -/
  rest : discipline.Note → Prop
  /-- The notes of a process that serves. -/
  awake : discipline.Note → Prop
  settle : ∀ world note, inv world note → rest note → inv world discipline.fresh
  boots : ∀ world note, inv world note → inv (S.wipe world) bootNote
  act : ∀ world note op reply answer next, inv world note → discipline.may note op →
    S.perform op reply world = some (answer, next) → inv next (discipline.learn note op answer)
  stir : ∀ world note move next, inv world note → S.stir move world = some next → inv next note
  awake_fresh : awake discipline.fresh
  awake_learn : ∀ note op answer, awake note → awake (discipline.learn note op answer)
  jobs : ∀ job, discipline.Ends discipline.fresh (S.program job) (fun _ => rest) fun _ => rest
  restarts : ∀ boot, discipline.Ends bootNote (S.restart boot) (fun _ => rest) fun _ _ => True

namespace Rules

variable (R : Rules S)

/-- The rest of what the process does is licensed by its notes. -/
def Licensed (note : R.discipline.Note) : Activity S → Prop
  | .down => True
  | .booting code => R.discipline.Ends note code (fun _ => R.rest) fun _ _ => True
  | .serving code =>
    R.awake note ∧ R.discipline.Ends note code (fun _ => R.rest) fun _ => R.rest

/-- The invariant, with the process licensed by some notes. -/
def Holds (config : Config S) (note : R.discipline.Note) : Prop :=
  R.inv config.world note ∧ R.Licensed note config.activity

variable {R}

/-- Every event keeps it. -/
theorem holds_step {config next : Config S} {note : R.discipline.Note} {event : Event S}
    (h : R.Holds config note) (hs : step config event = some next) :
    ∃ note', R.Holds next note' := by
  obtain ⟨world, activity⟩ := config
  obtain ⟨hinv, hlicensed⟩ := h
  cases event with
  | boot boot =>
    cases hs
    exact ⟨R.bootNote, R.boots _ _ hinv, R.restarts boot⟩
  | stir move =>
    obtain ⟨world', hw, rfl⟩ := Option.map_eq_some_iff.mp hs
    exact ⟨note, R.stir _ _ _ _ hinv hw, hlicensed⟩
  | start job =>
    have hfresh : R.rest note → R.Holds ⟨world, .serving (S.program job)⟩ R.discipline.fresh :=
      fun hr => ⟨R.settle _ _ hinv hr, R.awake_fresh, R.jobs job⟩
    unfold step at hs
    dsimp only at hs
    split at hs
    · cases hs
      exact ⟨_, hfresh hlicensed⟩
    · cases hs
      exact ⟨_, hfresh hlicensed.2⟩
    · cases hs
      exact ⟨_, hfresh hlicensed.2⟩
    · cases hs
  | act reply =>
    unfold step at hs
    dsimp only at hs
    split at hs
    next op rest =>
      obtain ⟨⟨answer, world'⟩, hw, rfl⟩ := Option.map_eq_some_iff.mp hs
      exact ⟨_, R.act _ _ _ _ _ _ hinv hlicensed.1 hw, hlicensed.2 answer⟩
    next op rest =>
      obtain ⟨⟨answer, world'⟩, hw, rfl⟩ := Option.map_eq_some_iff.mp hs
      exact ⟨_, R.act _ _ _ _ _ _ hinv hlicensed.2.1 hw, R.awake_learn _ _ _ hlicensed.1,
        hlicensed.2.2 answer⟩
    next => cases hs

/-- So does every run. -/
theorem holds_run {config final : Config S} {note : R.discipline.Note} {events : List (Event S)}
    (h : R.Holds config note) (hr : run config events = some final) :
    ∃ note', R.Holds final note' := by
  induction events generalizing config note with
  | nil =>
    cases hr
    exact ⟨note, h⟩
  | cons event rest ih =>
    obtain ⟨mid, hs, hr⟩ := Option.bind_eq_some_iff.mp hr
    obtain ⟨note', hm⟩ := holds_step h hs
    exact ih hm hr

end Rules

end IntentSolver.SerialService
