import Mathlib.Logic.Basic

/-!
# Programs over atomic actions and the disciplines they obey

A worker's code is a tree: it returns, it throws, or it issues one atomic
action and continues with the answer. Everything between two actions is pure,
so an interleaving of such trees loses no schedule of the original code. A
discipline follows one worker alone: it keeps notes on what the worker has
learnt from its answers and says which actions those notes license. Obeying a
discipline is a sequential fact about the code, proved by walking the tree;
what the licensed actions do to a shared world is somebody else's theorem.
-/

namespace IntentSolver.WorkerProgram

variable {Op : Type} {Ans : Op → Type} {Err α β : Type}

/-- Code of one worker as a tree of atomic actions. -/
inductive Program {Op : Type} (Ans : Op → Type) (Err α : Type) where
  /-- The job is over and this is its value. -/
  | ret (value : α)
  /-- The job ends in an error nobody has caught yet. -/
  | throw (error : Err)
  /-- Issue one action and continue with whatever it answers. -/
  | call (op : Op) (next : Ans op → Program Ans Err α)

namespace Program

/-- Sequencing: errors skip the rest. -/
def bind : Program Ans Err α → (α → Program Ans Err β) → Program Ans Err β
  | ret value, rest => rest value
  | throw error, _ => throw error
  | call op next, rest => call op fun answer => (next answer).bind rest

/-- Run the handler in place of an error; actions already issued stay issued. -/
def tryCatch : Program Ans Err α → (Err → Program Ans Err α) → Program Ans Err α
  | ret value, _ => ret value
  | throw error, handler => handler error
  | call op next, handler => call op fun answer => (next answer).tryCatch handler

/-- Run to the end and hand over how it ended. -/
def attempt : Program Ans Err α → Program Ans Err (Except Err α)
  | ret value => ret (.ok value)
  | throw error => ret (.error error)
  | call op next => call op fun answer => (next answer).attempt

instance : Monad (Program Ans Err) where
  pure := ret
  bind := bind

instance : MonadExcept Err (Program Ans Err) where
  throw := throw
  tryCatch := tryCatch

/-- One action as a program of its own. -/
def issue (op : Op) : Program Ans Err (Ans op) := call op ret

/-- One fallible action: its error, if any, is thrown. -/
def ofExcept : Except Err α → Program Ans Err α
  | .ok value => ret value
  | .error error => throw error

/-- `try … finally`: the last part runs however the body ends. -/
def andFinally (body : Program Ans Err α) (last : Program Ans Err Unit) : Program Ans Err α :=
  body.attempt.bind fun outcome => last.bind fun _ => ofExcept outcome

/-- Do-blocks sequence with the tree's own sequencing. -/
@[simp]
theorem bind_def (program : Program Ans Err α) (rest : α → Program Ans Err β) :
    (program >>= rest) = program.bind rest := rfl

/-- Do-blocks return with the tree's own leaf. -/
@[simp]
theorem pure_def (value : α) : (pure value : Program Ans Err α) = ret value := rfl

end Program

/-- What one worker may do, given what it has learnt so far. -/
structure Discipline {Op : Type} (Ans : Op → Type) where
  /-- Everything a worker remembers from its own answers. -/
  Note : Type
  /-- The notes of a worker that has asked nothing yet. -/
  fresh : Note
  /-- The action is licensed by these notes. -/
  may : Note → Op → Prop
  /-- The notes after one more answer. -/
  learn : Note → (op : Op) → Ans op → Note

namespace Discipline

variable (D : Discipline Ans)

/-- Every action the program can reach is licensed by the notes gathered on
the way, and every value it can return meets the postcondition. Throwing is
always allowed: an uncaught error only ends the job. -/
def Obeys : D.Note → Program Ans Err α → (α → D.Note → Prop) → Prop
  | note, .ret value, post => post value note
  | _, .throw _, _ => True
  | note, .call op next, post =>
    D.may note op ∧ ∀ answer, Obeys (D.learn note op answer) (next answer) post

variable {D} {note : D.Note}

/-- A leaf obeys exactly its postcondition. -/
@[simp]
theorem obeys_ret {value : α} {post : α → D.Note → Prop} :
    D.Obeys note (.ret value : Program Ans Err α) post ↔ post value note := Iff.rfl

/-- A throw obeys every discipline. -/
@[simp]
theorem obeys_throw {error : Err} {post : α → D.Note → Prop} :
    D.Obeys note (.throw error : Program Ans Err α) post := trivial

/-- One action is licensed and every answer is handled. -/
@[simp]
theorem obeys_call {op : Op} {next : Ans op → Program Ans Err α} {post : α → D.Note → Prop} :
    D.Obeys note (.call op next) post ↔
      D.may note op ∧ ∀ answer, D.Obeys (D.learn note op answer) (next answer) post := Iff.rfl

/-- The postcondition may be weakened. -/
theorem Obeys.mono {program : Program Ans Err α} {post weaker : α → D.Note → Prop}
    (h : D.Obeys note program post) (hw : ∀ value note, post value note → weaker value note) :
    D.Obeys note program weaker := by
  induction program generalizing note with
  | ret value => exact hw value note h
  | throw error => trivial
  | call op next ih => exact ⟨h.1, fun answer => ih answer (h.2 answer)⟩

/-- Sequencing: the rest is checked from the notes the first part leaves. -/
theorem Obeys.bind {program : Program Ans Err α} {rest : α → Program Ans Err β}
    {mid : α → D.Note → Prop} {post : β → D.Note → Prop} (h : D.Obeys note program mid)
    (hr : ∀ value note, mid value note → D.Obeys note (rest value) post) :
    D.Obeys note (program.bind rest) post := by
  induction program generalizing note with
  | ret value => exact hr value note h
  | throw error => trivial
  | call op next ih => exact ⟨h.1, fun answer => ih answer (h.2 answer)⟩

/-- What no licensed action can make a worker forget still holds at the end. -/
theorem Obeys.keep {program : Program Ans Err α} {post : α → D.Note → Prop}
    {keeps : D.Note → Prop} (h : D.Obeys note program post)
    (hk : ∀ note op answer, D.may note op → keeps note → keeps (D.learn note op answer))
    (hn : keeps note) :
    D.Obeys note program fun value after => post value after ∧ keeps after := by
  induction program generalizing note with
  | ret value => exact ⟨h, hn⟩
  | throw error => trivial
  | call op next ih =>
    exact ⟨h.1, fun answer => ih answer (h.2 answer) (hk note op answer h.1 hn)⟩

/-- What no answer can make a worker forget still holds at the end. -/
theorem Obeys.persist {program : Program Ans Err α} {post : α → D.Note → Prop}
    {keeps : D.Note → Prop} (h : D.Obeys note program post)
    (hk : ∀ note op answer, keeps note → keeps (D.learn note op answer)) (hn : keeps note) :
    D.Obeys note program fun value after => post value after ∧ keeps after :=
  h.keep (fun note op answer _ => hk note op answer) hn

/-- Catching: the handler may start from any notes, since a throw forgets
where it happened. -/
theorem Obeys.tryCatch {program : Program Ans Err α} {handler : Err → Program Ans Err α}
    {post : α → D.Note → Prop} (h : D.Obeys note program post)
    (hh : ∀ error note, D.Obeys note (handler error) post) :
    D.Obeys note (program.tryCatch handler) post := by
  induction program generalizing note with
  | ret value => exact h
  | throw error => exact hh error note
  | call op next ih => exact ⟨h.1, fun answer => ih answer (h.2 answer)⟩

/-- An action followed by a continuation is the action's own node. -/
@[simp]
theorem obeys_issue_bind {op : Op} {rest : Ans op → Program Ans Err β} {post : β → D.Note → Prop} :
    D.Obeys note ((Program.issue op : Program Ans Err (Ans op)).bind rest) post ↔
      D.may note op ∧ ∀ answer, D.Obeys (D.learn note op answer) (rest answer) post := Iff.rfl

/-- A fallible answer: only its value needs checking. -/
theorem obeys_ofExcept {outcome : Except Err α} {post : α → D.Note → Prop}
    (h : ∀ value, outcome = .ok value → post value note) :
    D.Obeys note (Program.ofExcept outcome : Program Ans Err α) post := by
  cases outcome with
  | ok value => exact h value rfl
  | error error => trivial

/-- A program that asks nothing anybody minds and teaches its worker nothing:
licensed from any notes, which it leaves alone. -/
def Quiet (D : Discipline Ans) (program : Program Ans Err α) : Prop :=
  ∀ note, D.Obeys note program fun _ after => after = note

/-- A quiet program may stand in front of anything. -/
theorem Quiet.obeys_bind {program : Program Ans Err α} {rest : α → Program Ans Err β}
    {post : β → D.Note → Prop} (h : D.Quiet program)
    (hr : ∀ value, D.Obeys note (rest value) post) : D.Obeys note (program.bind rest) post := by
  apply (h note).bind
  rintro value after rfl
  exact hr value

/-- Quiet programs compose. -/
theorem Quiet.bind {program : Program Ans Err α} {rest : α → Program Ans Err β}
    (h : D.Quiet program) (hr : ∀ value, D.Quiet (rest value)) : D.Quiet (program.bind rest) :=
  fun note => h.obeys_bind fun value => hr value note

/-- Returning a value is quiet. -/
theorem quiet_ret (value : α) : D.Quiet (.ret value : Program Ans Err α) := fun _ => rfl

/-- Throwing is quiet. -/
theorem quiet_throw (error : Err) : D.Quiet (.throw error : Program Ans Err α) := fun _ => trivial

/-- Handing on an outcome is quiet. -/
theorem quiet_ofExcept (outcome : Except Err α) :
    D.Quiet (Program.ofExcept outcome : Program Ans Err α) :=
  fun _ => obeys_ofExcept fun _ _ => rfl

/-- A quiet last part leaves the body's end as it is. -/
theorem Obeys.andFinally {program : Program Ans Err α} {last : Program Ans Err Unit}
    {post : α → D.Note → Prop} (h : D.Obeys note program post) (hq : D.Quiet last) :
    D.Obeys note (program.andFinally last) post := by
  unfold Program.andFinally
  induction program generalizing note with
  | ret value => exact hq.obeys_bind fun _ => h
  | throw error => exact hq.obeys_bind fun _ => trivial
  | call op next ih => exact ⟨h.1, fun answer => ih answer (h.2 answer)⟩

/-- One action is quiet when it is always licensed and never teaches anything. -/
theorem quiet_issue {op : Op} (hm : ∀ note, D.may note op)
    (hl : ∀ note answer, D.learn note op answer = note) :
    D.Quiet (Program.issue op : Program Ans Err (Ans op)) :=
  fun note => ⟨hm note, fun answer => hl note answer⟩

/-- Every action of the program is licensed from any notes and teaches nothing. -/
def Idle (D : Discipline Ans) : Program Ans Err α → Prop
  | .ret _ => True
  | .throw _ => True
  | .call op next =>
    (∀ note, D.may note op ∧ ∀ answer, D.learn note op answer = note) ∧
      ∀ answer, Idle D (next answer)

/-- Idle programs compose. -/
theorem Idle.bind {program : Program Ans Err α} {rest : α → Program Ans Err β}
    (h : D.Idle program) (hr : ∀ value, D.Idle (rest value)) : D.Idle (program.bind rest) := by
  induction program with
  | ret value => exact hr value
  | throw error => trivial
  | call op next ih => exact ⟨h.1, fun answer => ih answer (h.2 answer)⟩

/-- Unlike a quiet program, an idle one may be caught: no note was taken on the way. -/
theorem Idle.tryCatch {program : Program Ans Err α} {handler : Err → Program Ans Err α}
    (h : D.Idle program) (hh : ∀ error, D.Idle (handler error)) :
    D.Idle (program.tryCatch handler) := by
  induction program with
  | ret value => trivial
  | throw error => exact hh error
  | call op next ih => exact ⟨h.1, fun answer => ih answer (h.2 answer)⟩

/-- A program whose every action is idle is quiet. -/
theorem Idle.quiet {program : Program Ans Err α} (h : D.Idle program) : D.Quiet program := by
  intro note
  induction program with
  | ret value => rfl
  | throw error => trivial
  | call op next ih =>
    refine ⟨(h.1 note).1, fun answer => ?_⟩
    rw [(h.1 note).2 answer]
    exact ih answer (h.2 answer)

/-- Handing on an outcome issues no action. -/
theorem idle_ofExcept (outcome : Except Err α) :
    D.Idle (Program.ofExcept outcome : Program Ans Err α) := by
  cases outcome <;> trivial

/-- One action is idle when it is always licensed and never teaches anything. -/
theorem idle_issue {op : Op} (h : ∀ note, D.may note op ∧ ∀ answer, D.learn note op answer = note) :
    D.Idle (Program.issue op : Program Ans Err (Ans op)) := ⟨h, fun _ => trivial⟩

/-- A program licensed from any notes, whatever it teaches. -/
def Free (D : Discipline Ans) (program : Program Ans Err α) : Prop :=
  ∀ note, D.Obeys note program fun _ _ => True

/-- A quiet program keeps the discipline from every note. -/
theorem Quiet.free {program : Program Ans Err α} (h : D.Quiet program) : D.Free program :=
  fun note => (h note).mono fun _ _ _ => trivial

/-- Free programs compose. -/
theorem Free.bind {program : Program Ans Err α} {rest : α → Program Ans Err β}
    (h : D.Free program) (hr : ∀ value, D.Free (rest value)) : D.Free (program.bind rest) :=
  fun note => (h note).bind fun value after _ => hr value after

/-- A caught free program is free when its handler is. -/
theorem Free.tryCatch {program : Program Ans Err α} {handler : Err → Program Ans Err α}
    (h : D.Free program) (hh : ∀ error, D.Free (handler error)) :
    D.Free (program.tryCatch handler) :=
  fun note => (h note).tryCatch fun error after => hh error after

/-- Returning a value is licensed from any notes. -/
theorem free_ret (value : α) : D.Free (.ret value : Program Ans Err α) := fun _ => trivial

/-- Throwing is licensed from any notes. -/
theorem free_throw (error : Err) : D.Free (.throw error : Program Ans Err α) := fun _ => trivial

/-- Handing on an outcome is licensed from any notes. -/
theorem free_ofExcept (outcome : Except Err α) :
    D.Free (Program.ofExcept outcome : Program Ans Err α) := (quiet_ofExcept outcome).free

/-- One action is free when it is always licensed. -/
theorem free_issue {op : Op} (hm : ∀ note, D.may note op) :
    D.Free (Program.issue op : Program Ans Err (Ans op)) :=
  fun note => ⟨hm note, fun _ => trivial⟩

/-- From notes with this property the program is licensed and keeps it. -/
def Steady (D : Discipline Ans) (ready : D.Note → Prop) (program : Program Ans Err α) : Prop :=
  ∀ note, ready note → D.Obeys note program fun _ after => ready after

section Steady

variable {ready : D.Note → Prop}

/-- Steady programs may stand in front of anything. -/
theorem Steady.obeys_bind {program : Program Ans Err α} {rest : α → Program Ans Err β}
    {post : β → D.Note → Prop} (h : D.Steady ready program) (hn : ready note)
    (hr : ∀ value after, ready after → D.Obeys after (rest value) post) :
    D.Obeys note (program.bind rest) post :=
  (h note hn).bind hr

/-- Steady programs compose. -/
theorem Steady.bind {program : Program Ans Err α} {rest : α → Program Ans Err β}
    (h : D.Steady ready program) (hr : ∀ value, D.Steady ready (rest value)) :
    D.Steady ready (program.bind rest) :=
  fun _ hn => h.obeys_bind hn fun value after ha => hr value after ha

/-- Returning a value keeps the worker ready. -/
theorem steady_ret (value : α) : D.Steady ready (.ret value : Program Ans Err α) :=
  fun _ hn => hn

/-- Throwing keeps the worker ready. -/
theorem steady_throw (error : Err) : D.Steady ready (.throw error : Program Ans Err α) :=
  fun _ _ => trivial

/-- A caught program keeps what its handler, which may start anywhere, ends with. -/
theorem Steady.tryCatch {program : Program Ans Err α} {handler : Err → Program Ans Err α}
    (h : D.Steady ready program)
    (hh : ∀ error note, D.Obeys note (handler error) fun _ after => ready after) :
    D.Steady ready (program.tryCatch handler) :=
  fun note hn => (h note hn).tryCatch hh

/-- Handing on an outcome keeps the worker ready. -/
theorem steady_ofExcept (outcome : Except Err α) :
    D.Steady ready (Program.ofExcept outcome : Program Ans Err α) :=
  fun _ hn => obeys_ofExcept fun _ _ => hn

/-- A quiet program keeps everything. -/
theorem Quiet.steady {program : Program Ans Err α} (h : D.Quiet program) :
    D.Steady ready program := by
  intro note hn
  apply (h note).mono
  rintro value after rfl
  exact hn

/-- A program that keeps every single note is quiet. -/
theorem Quiet.of_steady {program : Program Ans Err α}
    (h : ∀ note, D.Steady (fun after => after = note) program) : D.Quiet program :=
  fun note => h note note rfl

/-- A free program keeps what asks nothing of the notes. -/
theorem Free.keeps {program : Program Ans Err α} (h : D.Free program) :
    D.Steady (fun _ => True) program :=
  fun note _ => h note

/-- And a program that keeps it is free. -/
theorem Free.of_steady {program : Program Ans Err α}
    (h : D.Steady (fun _ => True) program) : D.Free program :=
  fun note => h note trivial

/-- A free program keeps what no answer takes back. -/
theorem Free.steady {program : Program Ans Err α} (h : D.Free program)
    (hk : ∀ note op answer, ready note → ready (D.learn note op answer)) :
    D.Steady ready program :=
  fun note hn => ((h note).persist hk hn).mono fun _ _ ha => ha.2

end Steady

section Ends

variable {note : D.Note} {post : α → D.Note → Prop} {raise : Err → D.Note → Prop}

/-- As `Obeys`, and every error the program can throw leaves notes a handler may rely on. -/
def Ends (D : Discipline Ans) :
    D.Note → Program Ans Err α → (α → D.Note → Prop) → (Err → D.Note → Prop) → Prop
  | note, .ret value, post, _ => post value note
  | note, .throw error, _, raise => raise error note
  | note, .call op next, post, raise =>
    D.may note op ∧ ∀ answer, Ends D (D.learn note op answer) (next answer) post raise

/-- A program with both ends described obeys the discipline up to its return. -/
theorem Ends.obeys {program : Program Ans Err α} (h : D.Ends note program post raise) :
    D.Obeys note program post := by
  induction program generalizing note with
  | ret value => exact h
  | throw error => trivial
  | call op next ih => exact ⟨h.1, fun answer => ih answer (h.2 answer)⟩

/-- What is known of the end may be weakened. -/
theorem Ends.mono {program : Program Ans Err α} {weaker : α → D.Note → Prop}
    {weakerRaise : Err → D.Note → Prop} (h : D.Ends note program post raise)
    (hp : ∀ value note, post value note → weaker value note)
    (hr : ∀ error note, raise error note → weakerRaise error note) :
    D.Ends note program weaker weakerRaise := by
  induction program generalizing note with
  | ret value => exact hp value note h
  | throw error => exact hr error note h
  | call op next ih => exact ⟨h.1, fun answer => ih answer (h.2 answer)⟩

/-- Sequencing: an error of either part is an error of the whole. -/
theorem Ends.bind {program : Program Ans Err α} {rest : α → Program Ans Err β}
    {after : β → D.Note → Prop} (h : D.Ends note program post raise)
    (hr : ∀ value note, post value note → D.Ends note (rest value) after raise) :
    D.Ends note (program.bind rest) after raise := by
  induction program generalizing note with
  | ret value => exact hr value note h
  | throw error => exact h
  | call op next ih => exact ⟨h.1, fun answer => ih answer (h.2 answer)⟩

/-- Catching: the handler starts from the notes the error left. -/
theorem Ends.tryCatch {program : Program Ans Err α} {handler : Err → Program Ans Err α}
    {outer : Err → D.Note → Prop} (h : D.Ends note program post raise)
    (hh : ∀ error note, raise error note → D.Ends note (handler error) post outer) :
    D.Ends note (program.tryCatch handler) post outer := by
  induction program generalizing note with
  | ret value => exact h
  | throw error => exact hh error note h
  | call op next ih => exact ⟨h.1, fun answer => ih answer (h.2 answer)⟩

/-- A body that is followed by its last part ends as the last part leaves it. -/
theorem Ends.andFinally {program : Program Ans Err α} {last : Program Ans Err Unit}
    {keeps closed : D.Note → Prop}
    (h : D.Ends note program (fun _ after => keeps after) fun _ after => keeps after)
    (hl : ∀ after, keeps after → D.Ends after last (fun _ => closed) fun _ => closed) :
    D.Ends note (program.andFinally last) (fun _ => closed) fun _ => closed := by
  unfold Program.andFinally
  induction program generalizing note with
  | ret value => exact (hl note h).bind fun _ _ ho => ho
  | throw error => exact (hl note h).bind fun _ _ ho => ho
  | call op next ih => exact ⟨h.1, fun answer => ih answer (h.2 answer)⟩

/-- An action followed by a continuation is the action's own node. -/
theorem ends_issue_bind {op : Op} {rest : Ans op → Program Ans Err α} :
    D.Ends note ((Program.issue op : Program Ans Err (Ans op)).bind rest) post raise ↔
      D.may note op ∧ ∀ answer, D.Ends (D.learn note op answer) (rest answer) post raise := Iff.rfl

/-- An idle program may stand in front of anything, and throws from the notes it met. -/
theorem Idle.ends_bind {program : Program Ans Err α} {rest : α → Program Ans Err β}
    {after : β → D.Note → Prop} (h : D.Idle program) (he : ∀ error, raise error note)
    (hr : ∀ value, D.Ends note (rest value) after raise) :
    D.Ends note (program.bind rest) after raise := by
  induction program with
  | ret value => exact hr value
  | throw error => exact he error
  | call op next ih =>
    refine ⟨(h.1 note).1, fun answer => ?_⟩
    rw [(h.1 note).2 answer]
    exact ih answer (h.2 answer)

end Ends

section Gives

variable {allowed : Op → Prop} {post : α → Prop}

/-- Every action of the program is among these, and so is every value it can return. -/
def Gives (allowed : Op → Prop) (post : α → Prop) : Program Ans Err α → Prop
  | .ret value => post value
  | .throw _ => True
  | .call op next => allowed op ∧ ∀ answer, Gives allowed post (next answer)

/-- Returning a value gives what holds of it. -/
theorem gives_ret {value : α} (h : post value) :
    Gives allowed post (.ret value : Program Ans Err α) := h

/-- A fallible step: what it succeeds with is known. -/
theorem gives_ofExcept {outcome : Except Err α} (h : ∀ value, outcome = .ok value → post value) :
    Gives allowed post (Program.ofExcept outcome : Program Ans Err α) := by
  cases outcome with
  | ok value => exact h value rfl
  | error error => trivial

/-- One action; nothing is known of its answer. -/
theorem gives_issue {op : Op} (h : allowed op) :
    Gives allowed (fun _ => True) (Program.issue op : Program Ans Err (Ans op)) :=
  ⟨h, fun _ => trivial⟩

/-- A weaker property of the values a program returns. -/
theorem Gives.mono {program : Program Ans Err α} {weaker : α → Prop}
    (h : Gives allowed post program) (hw : ∀ value, post value → weaker value) :
    Gives allowed weaker program := by
  induction program with
  | ret value => exact hw value h
  | throw error => trivial
  | call op next ih => exact ⟨h.1, fun answer => ih answer (h.2 answer)⟩

/-- The second part may rely on what the first one returns. -/
theorem Gives.bind {program : Program Ans Err α} {rest : α → Program Ans Err β}
    {after : β → Prop} (h : Gives allowed post program)
    (hr : ∀ value, post value → Gives allowed after (rest value)) :
    Gives allowed after (program.bind rest) := by
  induction program with
  | ret value => exact hr value h
  | throw error => trivial
  | call op next ih => exact ⟨h.1, fun answer => ih answer (h.2 answer)⟩

/-- How a program ends: a value it can return, or an error. -/
theorem Gives.attempt {program : Program Ans Err α} (h : Gives allowed post program) :
    Gives allowed (fun outcome => ∀ value, outcome = .ok value → post value)
      program.attempt := by
  induction program with
  | ret value =>
    intro other ho
    cases ho
    exact h
  | throw error =>
    intro other ho
    cases ho
  | call op next ih => exact ⟨h.1, fun answer => ih answer (h.2 answer)⟩

/-- What a program can return is known whichever notes it runs with. -/
theorem Obeys.gives {program : Program Ans Err α} {note : D.Note} {told : α → D.Note → Prop}
    (h : D.Obeys note program told) (hg : Gives allowed post program) :
    D.Obeys note program fun value after => told value after ∧ post value := by
  induction program generalizing note with
  | ret value => exact ⟨h, hg⟩
  | throw error => trivial
  | call op next ih => exact ⟨h.1, fun answer => ih answer (h.2 answer) (hg.2 answer)⟩

/-- Where the actions are licensed and keep something, all of the program keeps it. -/
theorem Gives.ends {program : Program Ans Err α} {good : D.Note → Prop} {note : D.Note}
    (h : Gives allowed post program) (ha : ∀ note op, allowed op → D.may note op)
    (hl : ∀ note op answer, allowed op → good note → good (D.learn note op answer))
    (hn : good note) :
    D.Ends note program (fun value after => post value ∧ good after) fun _ => good := by
  induction program generalizing note with
  | ret value => exact ⟨h, hn⟩
  | throw error => exact hn
  | call op next ih =>
    exact ⟨ha note op h.1, fun answer => ih answer (h.2 answer) (hl note op answer h.1 hn)⟩

end Gives

/-- How a program ends is handed over with the notes it ended with. -/
theorem Ends.attempt {note : D.Note} {program : Program Ans Err α} {post : α → D.Note → Prop}
    {raise outer : Err → D.Note → Prop} (h : D.Ends note program post raise) :
    D.Ends note program.attempt (fun outcome after =>
      (∀ value, outcome = .ok value → post value after) ∧
        ∀ error, outcome = .error error → raise error after) outer := by
  induction program generalizing note with
  | ret value =>
    constructor
    · intro other ho
      cases ho
      exact h
    · intro other ho
      cases ho
  | throw error =>
    constructor
    · intro other ho
      cases ho
    · intro other ho
      cases ho
      exact h
  | call op next ih => exact ⟨h.1, fun answer => ih answer (h.2 answer)⟩

/-- Two disciplines at once, each with its own notes. -/
def prod (D E : Discipline Ans) : Discipline Ans where
  Note := D.Note × E.Note
  fresh := (D.fresh, E.fresh)
  may note op := D.may note.1 op ∧ E.may note.2 op
  learn note op answer := (D.learn note.1 op answer, E.learn note.2 op answer)

/-- A program that obeys both disciplines obeys them together. -/
theorem Obeys.prod {E : Discipline Ans} {first : D.Note} {second : E.Note}
    {program : Program Ans Err α} {post : α → D.Note → Prop} {other : α → E.Note → Prop}
    (h : D.Obeys first program post) (he : E.Obeys second program other) :
    (D.prod E).Obeys (first, second) program fun value note =>
      post value note.1 ∧ other value note.2 := by
  induction program generalizing first second with
  | ret value => exact ⟨h, he⟩
  | throw error => trivial
  | call op next ih => exact ⟨⟨h.1, he.1⟩, fun answer => ih answer (h.2 answer) (he.2 answer)⟩

/-- The same notes, with only some actions allowed. -/
def restrict (D : Discipline Ans) (allowed : Op → Prop) : Discipline Ans where
  Note := D.Note
  fresh := D.fresh
  may note op := D.may note op ∧ allowed op
  learn := D.learn

/-- A program that keeps to the allowed actions keeps to all of them. -/
theorem Obeys.unrestrict {allowed : Op → Prop} {program : Program Ans Err α}
    {post : α → D.Note → Prop} (h : (D.restrict allowed).Obeys note program post) :
    D.Obeys note program post := by
  induction program generalizing note with
  | ret value => exact h
  | throw error => trivial
  | call op next ih => exact ⟨h.1.1, fun answer => ih answer (h.2 answer)⟩

/-- A program free under fewer allowed requests is free under all. -/
theorem Free.unrestrict {allowed : Op → Prop} {program : Program Ans Err α}
    (h : (D.restrict allowed).Free program) : D.Free program := fun note => (h note).unrestrict

/-- Catching: what the allowed actions cannot take back the handler may rely on. -/
theorem Obeys.tryCatch_restrict {allowed : Op → Prop} {program : Program Ans Err α}
    {handler : Err → Program Ans Err α} {post : α → D.Note → Prop} {keeps : D.Note → Prop}
    (h : (D.restrict allowed).Obeys note program fun _ _ => True)
    (hk : ∀ note op answer, allowed op → keeps note → keeps (D.learn note op answer))
    (hn : keeps note) (hp : ∀ value after, keeps after → post value after)
    (hh : ∀ error after, keeps after → D.Obeys after (handler error) post) :
    D.Obeys note (program.tryCatch handler) post := by
  induction program generalizing note with
  | ret value => exact hp value note hn
  | throw error => exact hh error note hn
  | call op next ih =>
    exact ⟨h.1.1, fun answer => ih answer (h.2 answer) (hk note op answer h.1.2 hn)⟩

end Discipline

end IntentSolver.WorkerProgram
