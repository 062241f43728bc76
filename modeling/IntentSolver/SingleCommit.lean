import Mathlib.Data.Nat.Notation
import Mathlib.Logic.Function.Basic

/-!
# One commitment behind a compare-and-swap

A shared record starts undecided. Workers race to move it: the one that wins the
move to the committing side may commit, once; another may refuse it instead. Both
moves leave the undecided side for good, so whoever came second finds the record
gone. What a worker has won or seen is kept in its notes, which a crash loses. The
history of deeds then has one of very few shapes.
-/

namespace IntentSolver.SingleCommit

/-- Where the shared record stands. -/
inductive Phase where
  | undecided
  | underway
  | refused
  deriving DecidableEq

/-- What a worker did to the record. -/
inductive Deed where
  /-- Won the move to the committing side. -/
  | won
  /-- Issued the commitment. -/
  | committed
  /-- Refused the record. -/
  | refused
  /-- Gave back what a refused record held. -/
  | returned
  deriving DecidableEq

/-- The record and everything done to it, latest first. -/
structure Ledger where
  phase : Phase
  deeds : List (ℕ × Deed)

/-- What one worker remembers. -/
structure Note where
  /-- Won, and has not committed since. -/
  holds : Bool
  /-- Saw the record underway. -/
  left : Bool
  /-- Saw the record refused. -/
  declined : Bool

/-- A worker that remembers nothing. -/
def Note.blank : Note := ⟨false, false, false⟩

/-- The note says no more than an earlier note and a look at the record justify. -/
structure Note.Backed (earlier later : Note) (phase : Phase) : Prop where
  holds : later.holds = true → earlier.holds = true
  left : later.left = true → earlier.left = true ∨ phase = .underway
  declined : later.declined = true → earlier.declined = true ∨ phase = .refused

/-- Notes back themselves. -/
theorem Note.backed_refl (note : Note) (phase : Phase) : note.Backed note phase :=
  ⟨id, .inl, .inl⟩

/-- Blank notes need no backing. -/
theorem Note.backed_blank (note : Note) (phase : Phase) : note.Backed Note.blank phase :=
  ⟨by simp [Note.blank], by simp [Note.blank], by simp [Note.blank]⟩

/-- One action of one worker, on its note and on the record. -/
inductive Step (worker : ℕ) : Note → Ledger → Note → Ledger → Prop where
  /-- Look at the record, or do something it does not notice. -/
  | look {note note' ledger} (h : note.Backed note' ledger.phase) :
      Step worker note ledger note' ledger
  /-- Win the move to the committing side. -/
  | win {note note' ledger} (hp : ledger.phase = .undecided) (hd : note'.declined = false) :
      Step worker note ledger note' ⟨.underway, (worker, .won) :: ledger.deeds⟩
  /-- Refuse the record. -/
  | refuse {note note' ledger} (hp : ledger.phase = .undecided) (hh : note'.holds = false)
      (hl : note'.left = false) :
      Step worker note ledger note' ⟨.refused, (worker, .refused) :: ledger.deeds⟩
  /-- Move the record past the commitment without it. -/
  | pass {note note' ledger} (hp : ledger.phase = .undecided) (hh : note'.holds = false)
      (hd : note'.declined = false) : Step worker note ledger note' ⟨.underway, ledger.deeds⟩
  /-- Commit. -/
  | commit {note note' ledger} (h : note.holds = true) (hh : note'.holds = false)
      (hd : note'.declined = false) :
      Step worker note ledger note' ⟨ledger.phase, (worker, .committed) :: ledger.deeds⟩
  /-- Give back what the refused record held. -/
  | giveBack {note note' ledger} (h : note.declined = true) (hh : note'.holds = false)
      (hl : note'.left = false) :
      Step worker note ledger note' ⟨ledger.phase, (worker, .returned) :: ledger.deeds⟩

/-- The deeds of a record, by where it stands. -/
def Shape : Phase → List (ℕ × Deed) → Prop
  | .undecided, deeds => deeds = []
  | .refused, deeds => ∀ deed ∈ deeds, deed.2 = .refused ∨ deed.2 = .returned
  | .underway, deeds => deeds = [] ∨
      ∃ worker, deeds = [(worker, .won)] ∨ deeds = [(worker, .committed), (worker, .won)]

/-- The record has one of its shapes and every note is true of it. -/
structure Inv (ledger : Ledger) (notes : ℕ → Note) : Prop where
  shape : Shape ledger.phase ledger.deeds
  holds : ∀ worker, (notes worker).holds = true →
    ledger.phase = .underway ∧ ledger.deeds = [(worker, .won)]
  left : ∀ worker, (notes worker).left = true → ledger.phase = .underway
  declined : ∀ worker, (notes worker).declined = true → ledger.phase = .refused

/-- A record nobody has touched. -/
theorem inv_start : Inv ⟨.undecided, []⟩ fun _ => Note.blank :=
  ⟨rfl, by simp [Note.blank], by simp [Note.blank], by simp [Note.blank]⟩

/-- A worker may forget. -/
theorem Inv.forget {ledger : Ledger} {notes : ℕ → Note} (h : Inv ledger notes) (worker : ℕ) :
    Inv ledger (Function.update notes worker Note.blank) := by
  refine ⟨h.shape, fun other => ?_, fun other => ?_, fun other => ?_⟩
  all_goals
    by_cases ho : other = worker
    · subst ho
      rw [Function.update_self]
      simp [Note.blank]
    · rw [Function.update_of_ne ho]
      first | exact h.holds other | exact h.left other | exact h.declined other

/-- On an undecided record nobody's note says anything. -/
theorem Inv.undecided {ledger : Ledger} {notes : ℕ → Note} (h : Inv ledger notes)
    (hp : ledger.phase = .undecided) (worker : ℕ) :
    ledger.deeds = [] ∧ (notes worker).holds = false ∧ (notes worker).left = false ∧
      (notes worker).declined = false := by
  have hs := h.shape
  rw [hp] at hs
  refine ⟨hs, ?_, ?_, ?_⟩
  · cases hn : (notes worker).holds with
    | false => rfl
    | true => exact absurd (hp.symm.trans (h.holds worker hn).1) (by simp)
  · cases hn : (notes worker).left with
    | false => rfl
    | true => exact absurd (hp.symm.trans (h.left worker hn)) (by simp)
  · cases hn : (notes worker).declined with
    | false => rfl
    | true => exact absurd (hp.symm.trans (h.declined worker hn)) (by simp)

/-- Every action of every worker keeps the record's shape and everybody's note true. -/
theorem Step.keeps {worker : ℕ} {ledger next : Ledger} {notes : ℕ → Note} {note' : Note}
    (hs : Step worker (notes worker) ledger note' next) (h : Inv ledger notes) :
    Inv next (Function.update notes worker note') := by
  cases hs with
  | look hb =>
    refine ⟨h.shape, fun other => ?_, fun other => ?_, fun other => ?_⟩
    all_goals by_cases ho : other = worker
    all_goals first | rw [ho, Function.update_self] | rw [Function.update_of_ne ho]
    · exact fun hn => h.holds worker (hb.holds hn)
    · exact h.holds other
    · exact fun hn => (hb.left hn).elim (h.left worker) id
    · exact h.left other
    · exact fun hn => (hb.declined hn).elim (h.declined worker) id
    · exact h.declined other
  | win hp hd =>
    have hu := h.undecided hp
    refine ⟨.inr ⟨worker, .inl ?_⟩, fun other => ?_, fun _ _ => rfl, fun other => ?_⟩
    · simp [(hu worker).1]
    all_goals by_cases ho : other = worker
    all_goals first | rw [ho, Function.update_self] | rw [Function.update_of_ne ho]
    · exact fun _ => ⟨rfl, by simp [(hu worker).1]⟩
    · simp [(hu other).2.1]
    · simp [hd]
    · simp [(hu other).2.2.2]
  | refuse hp hh hl =>
    have hu := h.undecided hp
    refine ⟨?_, fun other => ?_, fun other => ?_, fun _ _ => rfl⟩
    · simp [Shape, (hu worker).1]
    all_goals by_cases ho : other = worker
    all_goals first | rw [ho, Function.update_self] | rw [Function.update_of_ne ho]
    · simp [hh]
    · simp [(hu other).2.1]
    · simp [hl]
    · simp [(hu other).2.2.1]
  | pass hp hh hd =>
    have hu := h.undecided hp
    refine ⟨.inl (hu worker).1, fun other => ?_, fun _ _ => rfl, fun other => ?_⟩
    all_goals by_cases ho : other = worker
    all_goals first | rw [ho, Function.update_self] | rw [Function.update_of_ne ho]
    · simp [hh]
    · simp [(hu other).2.1]
    · simp [hd]
    · simp [(hu other).2.2.2]
  | commit hc hh hd =>
    obtain ⟨hp, hdeeds⟩ := h.holds worker hc
    refine ⟨?_, fun other => ?_, fun _ _ => hp, fun other => ?_⟩
    · simp only [hp, hdeeds]
      exact .inr ⟨worker, .inr rfl⟩
    all_goals by_cases ho : other = worker
    all_goals first | rw [ho, Function.update_self] | rw [Function.update_of_ne ho]
    · simp [hh]
    · intro hn
      have hother := (h.holds other hn).2.symm.trans hdeeds
      simp only [List.cons.injEq, Prod.mk.injEq, and_true] at hother
      exact absurd hother ho
    · simp [hd]
    · intro hn
      exact absurd (hp.symm.trans (h.declined other hn)) (by simp)
  | giveBack hc hh hl =>
    have hp := h.declined worker hc
    have hshape := h.shape
    rw [hp] at hshape
    refine ⟨?_, fun other => ?_, fun other => ?_, fun _ _ => hp⟩
    · simp only [hp]
      intro deed hm
      obtain rfl | hm := List.mem_cons.mp hm
      · exact .inr rfl
      · exact hshape deed hm
    all_goals by_cases ho : other = worker
    all_goals first | rw [ho, Function.update_self] | rw [Function.update_of_ne ho]
    · simp [hh]
    · intro hn
      exact absurd (hp.symm.trans (h.holds other hn).1) (by simp)
    · simp [hl]
    · intro hn
      exact absurd (hp.symm.trans (h.left other hn)) (by simp)

/-- How often the record was committed to. -/
def commits (deeds : List (ℕ × Deed)) : ℕ := deeds.countP fun deed => decide (deed.2 = .committed)

/-- At most one commitment, issued by a worker that had won the move before, and none
at all on a record that was ever refused or given back. -/
structure Clean (deeds : List (ℕ × Deed)) : Prop where
  once : commits deeds ≤ 1
  afterWin : ∀ worker after before, deeds = after ++ (worker, Deed.committed) :: before →
    (worker, Deed.won) ∈ before
  refusedNever : ∀ worker, (worker, Deed.refused) ∈ deeds →
    ∀ other, (other, Deed.committed) ∉ deeds
  returnedNever : ∀ worker, (worker, Deed.returned) ∈ deeds →
    ∀ other, (other, Deed.committed) ∉ deeds

/-- Every shape is clean. -/
theorem Inv.clean {ledger : Ledger} {notes : ℕ → Note} (h : Inv ledger notes) :
    Clean ledger.deeds := by
  have hs := h.shape
  cases hp : ledger.phase with
  | undecided =>
    rw [hp] at hs
    have he : ledger.deeds = [] := hs
    rw [he]
    exact ⟨by simp [commits], by simp, by simp, by simp⟩
  | refused =>
    rw [hp] at hs
    have hn : ∀ other, (other, Deed.committed) ∉ ledger.deeds := fun other hm => by
      obtain hr | hr := hs _ hm <;> cases hr
    refine ⟨?_, fun worker after before he => ?_, fun _ _ => hn, fun _ _ => hn⟩
    · have hc : commits ledger.deeds = 0 := List.countP_eq_zero.mpr fun deed hm => by
        obtain hr | hr := hs deed hm <;> simp [hr]
      omega
    · exact absurd (he ▸ List.mem_append_right after List.mem_cons_self) (hn worker)
  | underway =>
    rw [hp] at hs
    obtain he | ⟨winner, he | he⟩ := hs
    · rw [he]
      exact ⟨by simp [commits], by simp, by simp, by simp⟩
    · rw [he]
      refine ⟨by simp [commits], fun worker after before hsplit => ?_, by simp, by simp⟩
      cases after with
      | nil => simp at hsplit
      | cons first rest => simp at hsplit
    · rw [he]
      refine ⟨by simp [commits], fun worker after before hsplit => ?_, by simp, by simp⟩
      cases after with
      | nil =>
        simp only [List.nil_append, List.cons.injEq, Prod.mk.injEq, and_true] at hsplit
        rw [← hsplit.2, hsplit.1]
        exact List.mem_singleton.mpr rfl
      | cons first rest =>
        cases rest with
        | nil => simp at hsplit
        | cons second rest => simp at hsplit

end IntentSolver.SingleCommit
