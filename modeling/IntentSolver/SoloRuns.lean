import IntentSolver.WorkerProgram

/-!
# One worker alone, cut short or left in peace

Runs of a single program on a shared world with nobody else about. A run may be cut short
after any action, whatever the outside replied; that is a crash. A run left in peace gets
only replies of an agreed kind: it always finds one to go on with, and wherever it ends, it
ends as promised.
-/

namespace IntentSolver.SoloRuns

open WorkerProgram

variable {Op : Type} {Ans : Op → Type} {Err World Reply Move α β V : Type}

/-- What each action does under each reply; none when the reply cannot occur. -/
abbrev Effects {Op : Type} (Ans : Op → Type) (World Reply : Type) : Type :=
  (op : Op) → Reply → World → Option (Ans op × World)

variable {effects : Effects Ans World Reply}

/-! ## Cut short -/

/-- The program can have brought the world this far when it was cut short. -/
def Reaches (effects : Effects Ans World Reply) : Program Ans Err α → World → World → Prop
  | .ret _, world, reached => reached = world
  | .throw _, world, reached => reached = world
  | .call op next, world, reached => reached = world ∨
    ∃ reply answer mid, effects op reply world = some (answer, mid) ∧
      Reaches effects (next answer) mid reached

/-- Cut the program short after these replies. -/
def cut (effects : Effects Ans World Reply) :
    List Reply → Program Ans Err α → World → Option World
  | [], _, world => some world
  | reply :: rest, .call op next, world =>
    (effects op reply world).bind fun result => cut effects rest (next result.1) result.2
  | _ :: _, _, _ => none

/-- What a program cut short after some replies leaves is something it reaches. -/
theorem reaches_cut {replies : List Reply} {program : Program Ans Err α} {world reached : World}
    (h : cut effects replies program world = some reached) :
    Reaches effects program world reached := by
  induction replies generalizing program world with
  | nil =>
    cases h
    cases program with
    | ret value => rfl
    | throw error => rfl
    | call op next => exact .inl rfl
  | cons reply rest ih =>
    cases program with
    | ret value => cases h
    | throw error => cases h
    | call op next =>
      obtain ⟨⟨answer, mid⟩, hp, hr⟩ := Option.bind_eq_some_iff.mp h
      exact .inr ⟨reply, answer, mid, hp, ih hr⟩

/-- Only these actions, whatever is answered. -/
def only (Ans : Op → Type) (allowed : Op → Prop) : Discipline Ans where
  Note := Unit
  fresh := ()
  may _ op := allowed op
  learn _ _ _ := ()

/-- What every action of the program keeps holds wherever it is cut short. -/
theorem Reaches.keeps {allowed : Op → Prop} {inv : World → Prop}
    {program : Program Ans Err α} {world reached : World}
    (hf : (only Ans allowed).Free program)
    (hk : ∀ op reply world answer next, allowed op → inv world →
      effects op reply world = some (answer, next) → inv next)
    (hr : Reaches effects program world reached) (hi : inv world) : inv reached := by
  induction program generalizing world with
  | ret value => exact hr ▸ hi
  | throw error => exact hr ▸ hi
  | call op next ih =>
    obtain ⟨hm, hnext⟩ := hf ()
    obtain rfl | ⟨reply, answer, mid, hp, hr⟩ := hr
    · exact hi
    · exact ih answer (fun _ => hnext answer) hr (hk op reply world answer mid hm hi hp)

/-! ## Left in peace -/

/-- With replies of this kind only, the program always finds one to go on with and ends as
promised. -/
def Ensures (effects : Effects Ans World Reply) (kind : Reply → Prop) :
    Program Ans Err α → World → (Except Err α → World → Prop) → Prop
  | .ret value, world, post => post (.ok value) world
  | .throw error, world, post => post (.error error) world
  | .call op next, world, post =>
    (∃ reply result, kind reply ∧ effects op reply world = some result) ∧
    ∀ reply answer mid, kind reply → effects op reply world = some (answer, mid) →
      Ensures effects kind (next answer) mid post

variable {kind : Reply → Prop} {world : World}

/-- A weaker promise of how the program ends. -/
theorem Ensures.mono {program : Program Ans Err α} {post weaker : Except Err α → World → Prop}
    (h : Ensures effects kind program world post) (hw : ∀ out mid, post out mid → weaker out mid) :
    Ensures effects kind program world weaker := by
  induction program generalizing world with
  | ret value => exact hw _ _ h
  | throw error => exact hw _ _ h
  | call op next ih =>
    exact ⟨h.1, fun reply answer mid hk hp => ih answer (h.2 reply answer mid hk hp)⟩

/-- The program returns, with a value and a world as promised. -/
def Gives (effects : Effects Ans World Reply) (kind : Reply → Prop) (program : Program Ans Err α)
    (world : World) (post : α → World → Prop) : Prop :=
  Ensures effects kind program world fun out mid => ∃ value, out = .ok value ∧ post value mid

/-- Returning a value gives what holds of it. -/
theorem gives_ret {value : α} {post : α → World → Prop} (h : post value world) :
    Gives effects kind (.ret value : Program Ans Err α) world post := ⟨value, rfl, h⟩

/-- A weaker promise of what the program returns. -/
theorem Gives.mono {program : Program Ans Err α} {post weaker : α → World → Prop}
    (h : Gives effects kind program world post)
    (hw : ∀ value mid, post value mid → weaker value mid) :
    Gives effects kind program world weaker := by
  refine Ensures.mono h fun out mid hp => ?_
  obtain ⟨value, ho, hv⟩ := hp
  exact ⟨value, ho, hw value mid hv⟩

/-- What a program that returns is followed by starts from what it promised. -/
theorem Gives.bind {program : Program Ans Err α} {rest : α → Program Ans Err β}
    {mid : α → World → Prop} {post : Except Err β → World → Prop}
    (h : Gives effects kind program world mid)
    (hr : ∀ value world, mid value world → Ensures effects kind (rest value) world post) :
    Ensures effects kind (program.bind rest) world post := by
  induction program generalizing world with
  | ret value =>
    obtain ⟨other, ho, hm⟩ := h
    cases ho
    exact hr value world hm
  | throw error =>
    obtain ⟨other, ho, -⟩ := h
    cases ho
  | call op next ih =>
    exact ⟨h.1, fun reply answer after hk hp => ih answer (h.2 reply answer after hk hp)⟩

/-- A handler is not needed where nothing is thrown. -/
theorem Gives.tryCatch {program : Program Ans Err α} {handler : Err → Program Ans Err α}
    {post : α → World → Prop} (h : Gives effects kind program world post) :
    Gives effects kind (program.tryCatch handler) world post := by
  induction program generalizing world with
  | ret value => exact h
  | throw error =>
    obtain ⟨other, ho, -⟩ := h
    cases ho
  | call op next ih =>
    exact ⟨h.1, fun reply answer after hk hp => ih answer (h.2 reply answer after hk hp)⟩

/-- One action that some reply answers, and what every reply of the kind makes of it. -/
theorem gives_issue {op : Op} {post : Ans op → World → Prop}
    (hs : ∃ reply result, kind reply ∧ effects op reply world = some result)
    (h : ∀ reply answer mid, kind reply → effects op reply world = some (answer, mid) →
      post answer mid) :
    Gives effects kind (Program.issue op : Program Ans Err (Ans op)) world post :=
  ⟨hs, fun reply answer mid hk hp => ⟨answer, rfl, h reply answer mid hk hp⟩⟩

/-- One action that every reply of the kind answers the same way. -/
theorem gives_issue_of_eq {op : Op} {answer : Ans op} {next : World}
    (hs : ∃ reply, kind reply)
    (h : ∀ reply, kind reply → effects op reply world = some (answer, next)) :
    Gives effects kind (Program.issue op : Program Ans Err (Ans op)) world
      fun told mid => told = answer ∧ mid = next := by
  obtain ⟨reply, hk⟩ := hs
  refine gives_issue ⟨reply, _, hk, h reply hk⟩ fun other told mid hk hp => ?_
  rw [h other hk] at hp
  obtain ⟨rfl, rfl⟩ := Prod.mk.inj (Option.some.inj hp)
  exact ⟨rfl, rfl⟩

/-- The program returns and leaves what this view shows of the world alone. -/
def Watches (effects : Effects Ans World Reply) (kind : Reply → Prop) (view : World → V)
    (program : Program Ans Err α) : Prop :=
  ∀ world, Gives effects kind program world fun _ mid => view mid = view world

section Watches

variable {view : World → V}

/-- Returning a value leaves the world alone. -/
theorem watches_ret (value : α) :
    Watches effects kind view (.ret value : Program Ans Err α) := fun _ => gives_ret rfl

/-- Two programs that leave the view alone do so in sequence. -/
theorem Watches.bind {program : Program Ans Err α} {rest : α → Program Ans Err β}
    (h : Watches effects kind view program) (hr : ∀ value, Watches effects kind view (rest value)) :
    Watches effects kind view (program.bind rest) := by
  intro world
  refine (h world).bind fun value mid hm => ?_
  refine (hr value mid).mono fun other final hf => ?_
  exact hf.trans hm

/-- A program that leaves the view alone never needs its handler. -/
theorem Watches.tryCatch {program : Program Ans Err α} {handler : Err → Program Ans Err α}
    (h : Watches effects kind view program) :
    Watches effects kind view (program.tryCatch handler) := fun world => (h world).tryCatch

end Watches

/-! ## The environment alone -/

/-- Several moves of the environment. -/
def stirs (stir : Move → World → Option World) : World → List Move → Option World
  | world, [] => some world
  | world, move :: rest => (stir move world).bind fun next => stirs stir next rest

/-- What every move keeps, any number of moves keep. -/
theorem stirs_keeps {stir : Move → World → Option World} {inv : World → Prop}
    (hk : ∀ move world next, inv world → stir move world = some next → inv next)
    {moves : List Move} {next : World} (hs : stirs stir world moves = some next)
    (hi : inv world) : inv next := by
  induction moves generalizing world with
  | nil =>
    cases hs
    exact hi
  | cons move rest ih =>
    obtain ⟨mid, hm, hr⟩ := Option.bind_eq_some_iff.mp hs
    exact ih hr (hk move world mid hi hm)

end IntentSolver.SoloRuns
