import IntentSolver.WorkerProgram
import Mathlib.Data.Nat.Notation
import Mathlib.Logic.Function.Basic

/-!
# Interleavings of workers over one shared world

Any number of workers run programs against a shared world. Between any two
atomic actions another worker may act, the environment may move, or a worker
may crash and start over. Nothing is assumed about the schedule. A run is the
list of its events, so that a concrete schedule can be evaluated; the
invariant rule turns facts about single licensed actions into facts about
every run.
-/

namespace IntentSolver.WorkerInterleaving

open IntentSolver.WorkerProgram

/-- Actions, the world they act on and the jobs workers are given. -/
structure Machine where
  /-- Atomic actions a program may issue. -/
  Op : Type
  /-- What an action answers. -/
  Ans : Op → Type
  /-- Errors a program may throw. -/
  Err : Type
  /-- The shared world: the store, the chains and the history kept for proofs. -/
  World : Type
  /-- What the outside world decides when an action runs. -/
  Reply : Type
  /-- Moves of the environment on its own. -/
  Move : Type
  /-- What a worker can be started on. -/
  Job : Type
  /-- Effect of one action by one worker; none when the reply cannot occur. -/
  perform : ℕ → (op : Op) → Reply → World → Option (Ans op × World)
  /-- Effect of one environment move; none when it cannot occur. -/
  stir : Move → World → Option World
  /-- The code of a job. -/
  program : Job → Program Ans Err Unit

variable {M : Machine}

/-- The shared world and what is left of every worker's job. -/
structure Config (M : Machine) where
  /-- The shared world. -/
  world : M.World
  /-- The rest of each worker's job; a leaf is an idle worker. -/
  worker : ℕ → Program M.Ans M.Err Unit

/-- Nobody has started. -/
def boot (world : M.World) : Config M := ⟨world, fun _ => .ret ()⟩

/-- One event of a run. -/
inductive Event (M : Machine) where
  /-- The worker starts this job, abandoning what it was doing. -/
  | start (worker : ℕ) (job : M.Job)
  /-- The worker's next action runs and the outside world replies. -/
  | act (worker : ℕ) (reply : M.Reply)
  /-- The worker dies where it stands. -/
  | crash (worker : ℕ)
  /-- The environment moves. -/
  | stir (move : M.Move)

/-- Effect of one event; none when it cannot happen here. -/
def step (config : Config M) : Event M → Option (Config M)
  | .start worker job =>
    some ⟨config.world, Function.update config.worker worker (M.program job)⟩
  | .act worker reply =>
    match config.worker worker with
    | .call op next =>
      (M.perform worker op reply config.world).map fun result =>
        ⟨result.2, Function.update config.worker worker (next result.1)⟩
    | _ => none
  | .crash worker => some ⟨config.world, Function.update config.worker worker (.ret ())⟩
  | .stir move => (M.stir move config.world).map fun world => ⟨world, config.worker⟩

/-- A whole run, event by event. -/
def run (config : Config M) : List (Event M) → Option (Config M)
  | [] => some config
  | event :: rest => (step config event).bind fun next => run next rest

/-- A condition on single actions: who issues what, which reply comes, and the
world it meets. -/
abbrev Condition (M : Machine) : Type := ℕ → M.Op → M.Reply → M.World → Prop

/-- The action a program is about to issue meets the condition. -/
def Meets (condition : Condition M) (worker : ℕ) (reply : M.Reply) (world : M.World) :
    Program M.Ans M.Err Unit → Prop
  | .call op _ => condition worker op reply world
  | _ => True

/-- The action an event performs, if any, meets the condition. -/
def Allowed (condition : Condition M) (config : Config M) : Event M → Prop
  | .act worker reply => Meets condition worker reply config.world (config.worker worker)
  | _ => True

/-- Every action of the run meets the condition where it is issued. -/
def Permitted (condition : Condition M) (config : Config M) : List (Event M) → Prop
  | [] => True
  | event :: rest =>
    Allowed condition config event ∧ ∀ next ∈ step config event, Permitted condition next rest

/-- A permitted run is permitted in both its parts. -/
theorem Permitted.append {condition : Condition M} {config mid : Config M}
    {first rest : List (Event M)} (h : Permitted condition config (first ++ rest))
    (hr : run config first = some mid) :
    Permitted condition config first ∧ Permitted condition mid rest := by
  induction first generalizing config with
  | nil =>
    cases hr
    exact ⟨trivial, h⟩
  | cons event first ih =>
    obtain ⟨next, hs, hr⟩ := Option.bind_eq_some_iff.mp hr
    refine ⟨⟨h.1, fun other ho => ?_⟩, (ih (h.2 next hs) hr).2⟩
    cases hs.symm.trans ho
    exact (ih (h.2 next hs) hr).1

/-- A run that is permitted twice is permitted under both conditions at once. -/
theorem Permitted.and {first second : Condition M} {config : Config M} {events : List (Event M)}
    (h : Permitted first config events) (hs : Permitted second config events) :
    Permitted (fun worker op reply world =>
      first worker op reply world ∧ second worker op reply world) config events := by
  induction events generalizing config with
  | nil => trivial
  | cons event rest ih =>
    refine ⟨?_, fun next hn => ih (h.2 next hn) (hs.2 next hn)⟩
    have hf := h.1
    have hg := hs.1
    cases event with
    | act worker reply =>
      cases hc : config.worker worker with
      | call op next =>
        simp only [Allowed, Meets, hc] at hf hg ⊢
        exact ⟨hf, hg⟩
      | ret value => simp [Allowed, Meets, hc]
      | throw error => simp [Allowed, Meets, hc]
    | start worker job => trivial
    | crash worker => trivial
    | stir move => trivial

section Decidability

variable {condition : Condition M}
  [∀ worker op reply world, Decidable (condition worker op reply world)]

instance (worker : ℕ) (reply : M.Reply) (world : M.World) :
    (program : Program M.Ans M.Err Unit) → Decidable (Meets condition worker reply world program)
  | .call op _ => inferInstanceAs (Decidable (condition worker op reply world))
  | .ret _ => isTrue trivial
  | .throw _ => isTrue trivial

instance (config : Config M) : (event : Event M) → Decidable (Allowed condition config event)
  | .act worker reply =>
    inferInstanceAs (Decidable (Meets condition worker reply config.world (config.worker worker)))
  | .start _ _ => isTrue trivial
  | .crash _ => isTrue trivial
  | .stir _ => isTrue trivial

instance decidablePermitted :
    (config : Config M) → (events : List (Event M)) → Decidable (Permitted condition config events)
  | _, [] => isTrue trivial
  | config, event :: rest =>
    have (next : Config M) : Decidable (Permitted condition next rest) :=
      decidablePermitted next rest
    inferInstanceAs (Decidable (Allowed condition config event ∧
      ∀ next ∈ step config event, Permitted condition next rest))

end Decidability

/-- No condition at all. -/
def anything : Condition M := fun _ _ _ _ => True

/-- Every run is permitted when nothing is asked of it. -/
theorem permitted_anything (config : Config M) (events : List (Event M)) :
    Permitted anything config events := by
  induction events generalizing config with
  | nil => trivial
  | cons event rest ih =>
    refine ⟨?_, fun next _ => ih next⟩
    cases event with
    | act worker reply => cases h : config.worker worker <;> simp [Allowed, Meets, anything, h]
    | start worker job => trivial
    | crash worker => trivial
    | stir move => trivial

/-- What a protocol proof supplies: notes for each worker and an invariant of
the world and all notes that every licensed action, every restart and every
environment move keeps. -/
structure Protocol (M : Machine) (condition : Condition M) where
  /-- Which actions a worker's notes license. -/
  discipline : Discipline M.Ans
  /-- What holds of the world and of all workers' notes. -/
  inv : M.World → (ℕ → discipline.Note) → Prop
  /-- A worker that starts over forgets its notes. -/
  forget : ∀ world notes worker, inv world notes →
    inv world (Function.update notes worker discipline.fresh)
  /-- A licensed action keeps the invariant with the notes it teaches. -/
  act : ∀ world notes worker op reply answer next, inv world notes →
    discipline.may (notes worker) op → condition worker op reply world →
    M.perform worker op reply world = some (answer, next) →
    inv next (Function.update notes worker (discipline.learn (notes worker) op answer))
  /-- An environment move keeps the invariant. -/
  stir : ∀ world notes move next, inv world notes → M.stir move world = some next →
    inv next notes
  /-- Every job obeys the discipline from fresh notes. -/
  jobs : ∀ job, discipline.Obeys discipline.fresh (M.program job) fun _ _ => True

namespace Protocol

variable {condition : Condition M} (P : Protocol M condition)

/-- The invariant, with every worker's remaining code licensed by its notes. -/
def Holds (config : Config M) (notes : ℕ → P.discipline.Note) : Prop :=
  P.inv config.world notes ∧
    ∀ worker, P.discipline.Obeys (notes worker) (config.worker worker) fun _ _ => True

variable {P}

/-- Replacing one worker's code and notes together keeps everybody licensed. -/
theorem obeys_update {config : Config M} {notes : ℕ → P.discipline.Note}
    (h : ∀ worker, P.discipline.Obeys (notes worker) (config.worker worker) fun _ _ => True)
    (worker : ℕ) {note : P.discipline.Note} {program : Program M.Ans M.Err Unit}
    (hp : P.discipline.Obeys note program fun _ _ => True) (other : ℕ) :
    P.discipline.Obeys (Function.update notes worker note other)
      (Function.update config.worker worker program other) fun _ _ => True := by
  by_cases ho : other = worker
  · subst ho
    simpa only [Function.update_self] using hp
  · simpa only [Function.update_of_ne ho] using h other

/-- One event keeps the invariant and everybody's licence. -/
theorem holds_step {config next : Config M} {notes : ℕ → P.discipline.Note} {event : Event M}
    (h : P.Holds config notes) (ha : Allowed condition config event)
    (hs : step config event = some next) : ∃ notes', P.Holds next notes' := by
  cases event with
  | start worker job =>
    cases hs
    exact ⟨_, P.forget _ _ worker h.1, obeys_update h.2 worker (P.jobs job)⟩
  | crash worker =>
    cases hs
    refine ⟨notes, h.1, fun other => ?_⟩
    have hi : P.discipline.Obeys (notes worker) (.ret () : Program M.Ans M.Err Unit)
        fun _ _ => True := trivial
    simpa only [Function.update_eq_self] using obeys_update h.2 worker hi other
  | stir move =>
    obtain ⟨world, hw, rfl⟩ := Option.map_eq_some_iff.mp hs
    exact ⟨notes, P.stir _ _ _ _ h.1 hw, h.2⟩
  | act worker reply =>
    cases hc : config.worker worker with
    | ret value => simp [step, hc] at hs
    | throw error => simp [step, hc] at hs
    | call op rest =>
      have ho := h.2 worker
      simp only [Allowed, Meets, hc] at ha
      simp only [step, hc] at hs
      rw [hc] at ho
      obtain ⟨⟨answer, world⟩, hw, rfl⟩ := Option.map_eq_some_iff.mp hs
      exact ⟨_, P.act _ _ _ _ _ _ _ h.1 ho.1 ha hw, obeys_update h.2 worker (ho.2 answer)⟩

/-- Every permitted run keeps the invariant and everybody's licence. -/
theorem holds_run {config final : Config M} {notes : ℕ → P.discipline.Note}
    {events : List (Event M)} (h : P.Holds config notes)
    (hp : Permitted condition config events) (hr : run config events = some final) :
    ∃ notes', P.Holds final notes' := by
  induction events generalizing config notes with
  | nil =>
    cases hr
    exact ⟨notes, h⟩
  | cons event rest ih =>
    obtain ⟨mid, hs, hr⟩ := Option.bind_eq_some_iff.mp hr
    obtain ⟨notes', hm⟩ := holds_step h hp.1 hs
    exact ih hm (hp.2 mid hs) hr

/-- From a world that meets the invariant with fresh notes, every permitted
run ends in one that meets it. -/
theorem inv_of_run {world : M.World} {final : Config M} {events : List (Event M)}
    (h : P.inv world fun _ => P.discipline.fresh)
    (hp : Permitted condition (boot world) events) (hr : run (boot world) events = some final) :
    ∃ notes, P.inv final.world notes := by
  have hb : P.Holds (boot world) fun _ => P.discipline.fresh := ⟨h, fun _ => trivial⟩
  obtain ⟨notes, hf⟩ := holds_run hb hp hr
  exact ⟨notes, hf.1⟩

end Protocol

end IntentSolver.WorkerInterleaving
