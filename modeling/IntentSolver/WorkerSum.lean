import IntentSolver.WorkerProgram

/-!
# Workers of two kinds over one world

Two families of code, each with actions of its own, run side by side. The
actions of the whole are the disjoint sum, a program of either kind is a
program of the sum, and a worker keeps notes for both kinds, of which its own
actions change only one side. A program checked against a discipline of its
own kind therefore obeys the sum of the two. The last rule carries what one
discipline licenses over to another that licenses at least as much.
-/

namespace IntentSolver.WorkerProgram

variable {Left Right : Type} {LeftAns : Left → Type} {RightAns : Right → Type} {Err α : Type}

/-- What an action of either kind answers. -/
abbrev SumAns (LeftAns : Left → Type) (RightAns : Right → Type) : Left ⊕ Right → Type
  | .inl op => LeftAns op
  | .inr op => RightAns op

namespace Program

/-- A program of the first kind. -/
def left : Program LeftAns Err α → Program (SumAns LeftAns RightAns) Err α
  | ret value => ret value
  | throw error => throw error
  | call op next => call (.inl op) fun answer => (next answer).left

/-- A program of the second kind. -/
def right : Program RightAns Err α → Program (SumAns LeftAns RightAns) Err α
  | ret value => ret value
  | throw error => throw error
  | call op next => call (.inr op) fun answer => (next answer).right

end Program

namespace Discipline

/-- Both disciplines side by side: an action is licensed by, and teaches, the
notes of its own kind. -/
def sum (D : Discipline LeftAns) (E : Discipline RightAns) :
    Discipline (SumAns LeftAns RightAns) where
  Note := D.Note × E.Note
  fresh := (D.fresh, E.fresh)
  may note
    | .inl op => D.may note.1 op
    | .inr op => E.may note.2 op
  learn note
    | .inl op, answer => (D.learn note.1 op answer, note.2)
    | .inr op, answer => (note.1, E.learn note.2 op answer)

variable {D : Discipline LeftAns} {E : Discipline RightAns}

/-- A program of the first kind is licensed by its own notes alone. -/
theorem Obeys.left {note : D.Note} {program : Program LeftAns Err α}
    {post : α → D.Note → Prop} (h : D.Obeys note program post) (other : E.Note) :
    (D.sum E).Obeys (note, other) program.left fun value after => post value after.1 := by
  induction program generalizing note with
  | ret value => exact h
  | throw error => trivial
  | call op next ih => exact ⟨h.1, fun answer => ih answer (h.2 answer)⟩

/-- A program of the second kind is licensed by its own notes alone. -/
theorem Obeys.right {note : E.Note} {program : Program RightAns Err α}
    {post : α → E.Note → Prop} (h : E.Obeys note program post) (other : D.Note) :
    (D.sum E).Obeys (other, note) program.right fun value after => post value after.2 := by
  induction program generalizing note with
  | ret value => exact h
  | throw error => trivial
  | call op next ih => exact ⟨h.1, fun answer => ih answer (h.2 answer)⟩

/-- What one discipline licenses, another licenses from notes with a property
that makes it no stricter and that no answer takes back. -/
theorem Obeys.transfer {D E : Discipline LeftAns} {note : D.Note} {other : E.Note}
    {program : Program LeftAns Err α} {post : α → D.Note → Prop} {ready : E.Note → Prop}
    (h : D.Obeys note program post) (hr : ready other)
    (hm : ∀ note other op, D.may note op → ready other → E.may other op)
    (hk : ∀ other op answer, ready other → ready (E.learn other op answer)) :
    E.Obeys other program fun _ after => ready after := by
  induction program generalizing note other with
  | ret value => exact hr
  | throw error => trivial
  | call op next ih =>
    have hnext : ∀ answer, ready (E.learn other op answer) := fun answer => hk other op answer hr
    exact ⟨hm note other op h.1 hr, fun answer => ih answer (h.2 answer) (hnext answer)⟩

end Discipline

/-! ## A program among other actions -/

section Relabel

variable {Op Op' : Type} {Ans : Op → Type} {Ans' : Op' → Type} {send : Op → Op'}

/-- The program with its actions sent as others, whose answers it hears as its own. -/
def Program.relabel (send : Op → Op') (hear : (op : Op) → Ans' (send op) → Ans op) :
    Program Ans Err α → Program Ans' Err α
  | .ret value => .ret value
  | .throw error => .throw error
  | .call op next => .call (send op) fun answer => (next (hear op answer)).relabel send hear

variable {hear : (op : Op) → Ans' (send op) → Ans op} {D : Discipline Ans} {D' : Discipline Ans'}

/-- What licenses the actions as its own licenses them where they are sent. -/
theorem Discipline.Obeys.relabel {carry : D.Note → D'.Note}
    (hmay : ∀ note op, D.may note op → D'.may (carry note) (send op))
    (hlearn : ∀ note op answer, D'.learn (carry note) (send op) answer =
      carry (D.learn note op (hear op answer)))
    {note : D.Note} {program : Program Ans Err α} {post : α → D.Note → Prop}
    (h : D.Obeys note program post) :
    D'.Obeys (carry note) (program.relabel send hear) fun value after =>
      ∃ own, after = carry own ∧ post value own := by
  induction program generalizing note with
  | ret value => exact ⟨note, rfl, h⟩
  | throw error => trivial
  | call op next ih =>
    refine ⟨hmay note op h.1, fun answer => ?_⟩
    rw [hlearn]
    exact ih (hear op answer) (h.2 (hear op answer))

end Relabel

end IntentSolver.WorkerProgram
