import IntentSolver.WorkerProgram
import Mathlib.Data.Nat.Notation
import Mathlib.Data.List.Forall2

/-!
# Calls of one process, turn by turn

One process runs any number of calls over a state they share. A call runs alone from one
await to the next: that is a turn, and between two turns of a call any other may take its
own. No call is abandoned, so each ends by returning or by throwing. What every licensed
action keeps, and what every ending leaves settled, holds of the process at any time.
-/

namespace IntentSolver.EventLoop

open WorkerProgram

/-- Actions, the state they act on and the calls that can be made. -/
structure Process where
  /-- What a turn may issue. -/
  Op : Type
  /-- What it answers. -/
  Ans : Op → Type
  /-- What a call may throw. -/
  Err : Type
  /-- The state the calls share. -/
  State : Type
  /-- What the outside world decides in a turn. -/
  Reply : Type
  /-- What can be called. -/
  Job : Type
  /-- What a call returns. -/
  Result : Type
  /-- Effect of one action of one call; none when the reply cannot occur. -/
  perform : ℕ → (op : Op) → Reply → State → Option (Ans op × State)
  /-- The code of a call. -/
  program : Job → Program Ans Err Result

variable {P : Process}

/-- The state and what is left of every call, in the order they were made. -/
structure Config (P : Process) where
  state : P.State
  calls : List (Program P.Ans P.Err P.Result)

/-- One turn of the process. -/
inductive Turn (P : Process) where
  /-- A call is made. -/
  | enter (job : P.Job)
  /-- A call runs on to its next await. -/
  | resume (call : ℕ) (reply : P.Reply)

/-- Effect of one turn; none when it cannot happen here. -/
def step (config : Config P) : Turn P → Option (Config P)
  | .enter job => some ⟨config.state, config.calls ++ [P.program job]⟩
  | .resume call reply =>
    match config.calls[call]? with
    | some (.call op next) =>
      (P.perform call op reply config.state).map fun result =>
        ⟨result.2, config.calls.set call (next result.1)⟩
    | _ => none

/-- A whole run, turn by turn. -/
def run (config : Config P) : List (Turn P) → Option (Config P)
  | [] => some config
  | turn :: rest => (step config turn).bind fun next => run next rest

/-- A run in two parts. -/
theorem run_append {config mid : Config P} {first second : List (Turn P)}
    (h : run config first = some mid) : run config (first ++ second) = run mid second := by
  induction first generalizing config with
  | nil =>
    cases h
    rfl
  | cons turn rest ih =>
    obtain ⟨next, hs, hr⟩ := Option.bind_eq_some_iff.mp h
    rw [List.cons_append, run, hs]
    exact ih hr

/-- The call is over. -/
def Over : Program P.Ans P.Err P.Result → Prop
  | .call _ _ => False
  | _ => True

/-! ## Notes of calls -/

section Notes

variable {α : Type} {notes : List α} {call : ℕ}

/-- The notes of all calls after one of them learns something. -/
theorem getElem?_set_cases {fresh note : α} {index : ℕ}
    (h : (notes.set call fresh)[index]? = some note) :
    index = call ∧ note = fresh ∨ index ≠ call ∧ notes[index]? = some note := by
  rw [List.getElem?_set] at h
  split at h
  · rename_i hi
    split at h
    · cases h
      exact .inl ⟨hi.symm, rfl⟩
    · cases h
  · rename_i hi
    exact .inr ⟨fun he => hi he.symm, h⟩

/-- Nothing happened and nothing was learnt. -/
theorem set_self {old : α} (h : notes[call]? = some old) : notes.set call old = notes := by
  obtain ⟨hlt, rfl⟩ := List.getElem?_eq_some_iff.mp h
  exact List.set_getElem_self hlt

/-- What a call has just learnt. -/
theorem getElem?_set_own {old fresh : α} (h : notes[call]? = some old) :
    (notes.set call fresh)[call]? = some fresh := by
  obtain ⟨hlt, -⟩ := List.getElem?_eq_some_iff.mp h
  rw [List.getElem?_set_self hlt]

/-- The other calls have learnt nothing. -/
theorem getElem?_set_other {fresh note : α} {index : ℕ} (hne : index ≠ call)
    (h : notes[index]? = some note) : (notes.set call fresh)[index]? = some note := by
  rw [List.getElem?_set_ne hne.symm]
  exact h

/-- One entry more is the last, or one of those before. -/
theorem getElem?_concat_cases {fresh note : α} {index : ℕ}
    (h : (notes ++ [fresh])[index]? = some note) :
    index = notes.length ∧ note = fresh ∨ index < notes.length ∧ notes[index]? = some note := by
  obtain hlt | hge := Nat.lt_or_ge index notes.length
  · rw [List.getElem?_append_left hlt] at h
    exact .inr ⟨hlt, h⟩
  · rw [List.getElem?_append_right hge] at h
    obtain ⟨hz, he⟩ := List.getElem?_eq_some_iff.mp h
    rw [List.length_singleton] at hz
    have hz' : index - notes.length = 0 := by omega
    refine .inl ⟨by omega, ?_⟩
    simp only [hz', List.getElem_cons_zero] at he
    exact he.symm

/-- What was there stays where it was. -/
theorem getElem?_concat_left {fresh note : α} {index : ℕ} (h : notes[index]? = some note) :
    (notes ++ [fresh])[index]? = some note := by
  obtain ⟨hlt, -⟩ := List.getElem?_eq_some_iff.mp h
  rw [List.getElem?_append_left hlt]
  exact h

end Notes

/-- What a proof about all calls supplies: notes for each of them, and an invariant that
every licensed action keeps. -/
structure Books (P : Process) where
  /-- Which actions the notes of a call license. -/
  discipline : Discipline P.Ans
  /-- The notes of a call that is over. -/
  settled : discipline.Note → Prop
  /-- What holds of the state and of the notes of all calls. -/
  inv : P.State → List discipline.Note → Prop
  /-- A new call has asked nothing yet. -/
  enter : ∀ state notes, inv state notes → inv state (notes ++ [discipline.fresh])
  /-- A licensed action keeps the invariant with the notes it teaches. -/
  act : ∀ state notes call note op reply answer next, inv state notes →
    notes[call]? = some note → discipline.may note op →
    P.perform call op reply state = some (answer, next) →
    inv next (notes.set call (discipline.learn note op answer))
  /-- Every call obeys, and ends settled whether it returns or throws. -/
  jobs : ∀ job, discipline.Ends discipline.fresh (P.program job)
    (fun _ note => settled note) fun _ note => settled note

namespace Books

variable (B : Books P)

/-- What is left of a call is licensed by its notes and ends settled. -/
def Licensed (program : Program P.Ans P.Err P.Result) (note : B.discipline.Note) : Prop :=
  B.discipline.Ends note program (fun _ after => B.settled after) fun _ after => B.settled after

/-- The invariant, with every call licensed by its notes. -/
def Holds (config : Config P) (notes : List B.discipline.Note) : Prop :=
  B.inv config.state notes ∧ List.Forall₂ B.Licensed config.calls notes

variable {B}

/-- One turn keeps the invariant and every licence. -/
theorem holds_step {config next : Config P} {notes : List B.discipline.Note} {turn : Turn P}
    (h : B.Holds config notes) (hs : step config turn = some next) :
    ∃ notes', B.Holds next notes' := by
  obtain ⟨hinv, hall⟩ := h
  cases turn with
  | enter job =>
    cases hs
    refine ⟨notes ++ [B.discipline.fresh], B.enter _ _ hinv, ?_⟩
    exact List.rel_append hall (.cons (B.jobs job) .nil)
  | resume call reply =>
    unfold step at hs
    dsimp only at hs
    split at hs
    next op rest hc =>
      obtain ⟨⟨answer, state⟩, hp, rfl⟩ := Option.map_eq_some_iff.mp hs
      obtain ⟨hlt, hcall⟩ := List.getElem?_eq_some_iff.mp hc
      have hlength := hall.length_eq
      have hget : B.Licensed config.calls[call] notes[call] :=
        (List.forall₂_iff_get.mp hall).2 call hlt (hlength ▸ hlt)
      rw [hcall] at hget
      refine ⟨_, B.act _ _ _ _ _ _ _ _ hinv (List.getElem?_eq_getElem (hlength ▸ hlt)) hget.1 hp,
        ?_⟩
      refine List.forall₂_iff_get.mpr ⟨by simp [hlength], fun index hi hj => ?_⟩
      rw [List.get_eq_getElem, List.get_eq_getElem, List.getElem_set, List.getElem_set]
      split
      · exact hget.2 answer
      · exact (List.forall₂_iff_get.mp hall).2 index (by simpa using hi) (by simpa using hj)
    next => cases hs

/-- Every run keeps the invariant and every licence. -/
theorem holds_run {config final : Config P} {notes : List B.discipline.Note}
    {turns : List (Turn P)} (h : B.Holds config notes) (hr : run config turns = some final) :
    ∃ notes', B.Holds final notes' := by
  induction turns generalizing config notes with
  | nil =>
    cases hr
    exact ⟨notes, h⟩
  | cons turn rest ih =>
    obtain ⟨mid, hs, hr⟩ := Option.bind_eq_some_iff.mp hr
    obtain ⟨notes', hm⟩ := holds_step h hs
    exact ih hm hr

/-- From a state that meets the invariant with no call made, every run ends in one that
meets it. -/
theorem holds_of_run {state : P.State} {final : Config P} {turns : List (Turn P)}
    (h : B.inv state []) (hr : run ⟨state, []⟩ turns = some final) :
    ∃ notes, B.Holds final notes :=
  holds_run ⟨h, .nil⟩ hr

/-- A call that is over is settled. -/
theorem settled_of_over {program : Program P.Ans P.Err P.Result} {note : B.discipline.Note}
    (h : B.Licensed program note) (ho : Over program) : B.settled note := by
  cases program with
  | ret value => exact h
  | throw error => exact h
  | call op next => cases ho

/-- Where every call is over, every call is settled. -/
theorem Holds.settled {config : Config P} {notes : List B.discipline.Note}
    (h : B.Holds config notes) (ho : ∀ call ∈ config.calls, Over call) :
    ∀ note ∈ notes, B.settled note := by
  intro note hm
  obtain ⟨index, hlt, hget⟩ := List.mem_iff_getElem.mp hm
  have hlength := h.2.length_eq
  have hlicensed : B.Licensed config.calls[index] notes[index] :=
    (List.forall₂_iff_get.mp h.2).2 index (hlength ▸ hlt) hlt
  rw [hget] at hlicensed
  exact settled_of_over hlicensed (ho _ (List.getElem_mem _))

end Books

end IntentSolver.EventLoop
