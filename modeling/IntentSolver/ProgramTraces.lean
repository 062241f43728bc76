import IntentSolver.WorkerProgram

/-!
# Complete runs of a program

A complete run of a program is the list of actions it issued with the answers it got,
and the value or error it ended with. The answers are arbitrary: what a theorem assumes
about them it says of the trace.
-/

namespace IntentSolver.ProgramTraces

open WorkerProgram

variable {Op : Type} {Ans : Op → Type} {Err α β : Type}

/-- Actions in the order they were issued, each with its answer. -/
abbrev Trace {Op : Type} (Ans : Op → Type) : Type := List ((op : Op) × Ans op)

/-- The program issues this trace and ends with this outcome. -/
def Yields : Program Ans Err α → Trace Ans → Except Err α → Prop
  | .ret value, trace, out => trace = [] ∧ out = .ok value
  | .throw error, trace, out => trace = [] ∧ out = .error error
  | .call op next, trace, out =>
    ∃ answer rest, trace = ⟨op, answer⟩ :: rest ∧ Yields (next answer) rest out

/-- A leaf issues nothing. -/
theorem yields_ret {value : α} {trace : Trace Ans} {out : Except Err α} :
    Yields (.ret value : Program Ans Err α) trace out ↔ trace = [] ∧ out = .ok value := Iff.rfl

/-- A throw issues nothing. -/
theorem yields_throw {error : Err} {trace : Trace Ans} {out : Except Err α} :
    Yields (.throw error : Program Ans Err α) trace out ↔ trace = [] ∧ out = .error error := Iff.rfl

/-- One action is the trace of itself. -/
theorem yields_issue {op : Op} {trace : Trace Ans} {out : Except Err (Ans op)} :
    Yields (Program.issue op : Program Ans Err (Ans op)) trace out ↔
      ∃ answer, trace = [⟨op, answer⟩] ∧ out = .ok answer := by
  constructor
  · intro h
    obtain ⟨answer, rest, ht, hr, ho⟩ := h
    exact ⟨answer, by rw [ht, hr], ho⟩
  · intro h
    obtain ⟨answer, ht, ho⟩ := h
    exact ⟨answer, [], ht, rfl, ho⟩

/-- A stored result issues nothing and is the outcome. -/
theorem yields_ofExcept {result : Except Err α} {trace : Trace Ans} {out : Except Err α} :
    Yields (Program.ofExcept result : Program Ans Err α) trace out ↔ trace = [] ∧ out = result := by
  cases result with
  | ok value => exact Iff.rfl
  | error error => exact Iff.rfl

/-- A sequence ends in the error of its first part, or runs both parts one after another. -/
theorem yields_bind {program : Program Ans Err α} {rest : α → Program Ans Err β}
    {trace : Trace Ans} {out : Except Err β} :
    Yields (program.bind rest) trace out ↔
      (∃ error, out = .error error ∧ Yields program trace (.error error)) ∨
      ∃ value first second, trace = first ++ second ∧ Yields program first (.ok value) ∧
        Yields (rest value) second out := by
  induction program generalizing trace with
  | ret value =>
    constructor
    · intro h
      exact .inr ⟨value, [], trace, rfl, ⟨rfl, rfl⟩, h⟩
    · intro h
      obtain ⟨error, -, -, hv⟩ | ⟨other, first, second, ht, ⟨hf, ho⟩, hs⟩ := h
      · cases hv
      · cases ho
        rw [ht, hf]
        exact hs
  | throw error =>
    constructor
    · intro h
      exact .inl ⟨error, h.2, h.1, rfl⟩
    · intro h
      obtain ⟨other, ho, ht, hv⟩ | ⟨other, first, second, ht, ⟨hf, hv⟩, hs⟩ := h
      · cases hv
        exact ⟨ht, ho⟩
      · cases hv
  | call op next ih =>
    constructor
    · intro h
      obtain ⟨answer, later, ht, hl⟩ := h
      obtain ⟨error, ho, hy⟩ | ⟨value, first, second, hs, hf, hr⟩ := (ih answer).mp hl
      · exact .inl ⟨error, ho, answer, later, ht, hy⟩
      · refine .inr ⟨value, ⟨op, answer⟩ :: first, second, ?_, ⟨answer, first, rfl, hf⟩, hr⟩
        rw [ht, hs, List.cons_append]
    · intro h
      obtain ⟨error, ho, answer, later, ht, hy⟩ |
        ⟨value, first, second, ht, ⟨answer, later, hl, hf⟩, hs⟩ := h
      · exact ⟨answer, later, ht, (ih answer).mpr (.inl ⟨error, ho, hy⟩)⟩
      · refine ⟨answer, later ++ second, ?_, (ih answer).mpr (.inr ⟨value, later, second, rfl,
          hf, hs⟩)⟩
        rw [ht, hl, List.cons_append]

/-- A sequence that ends well ran both its parts one after another. -/
theorem yields_bind_ok {program : Program Ans Err α} {rest : α → Program Ans Err β}
    {trace : Trace Ans} {result : β} (h : Yields (program.bind rest) trace (.ok result)) :
    ∃ value first second, trace = first ++ second ∧ Yields program first (.ok value) ∧
      Yields (rest value) second (.ok result) := by
  obtain ⟨error, he, -⟩ | hr := yields_bind.mp h
  · cases he
  · exact hr

/-- A guarded program ends with its own value, or runs the handler on its error. -/
theorem yields_tryCatch {program : Program Ans Err α} {handler : Err → Program Ans Err α}
    {trace : Trace Ans} {out : Except Err α} (h : Yields (program.tryCatch handler) trace out) :
    (∃ value, out = .ok value ∧ Yields program trace (.ok value)) ∨
    ∃ error first second, trace = first ++ second ∧ Yields program first (.error error) ∧
      Yields (handler error) second out := by
  induction program generalizing trace with
  | ret value => exact .inl ⟨value, h.2, h.1, rfl⟩
  | throw error => exact .inr ⟨error, [], trace, rfl, ⟨rfl, rfl⟩, h⟩
  | call op next ih =>
    obtain ⟨answer, later, ht, hl⟩ := h
    obtain ⟨value, ho, hy⟩ | ⟨error, first, second, hs, hf, hh⟩ := ih answer hl
    · exact .inl ⟨value, ho, answer, later, ht, hy⟩
    · refine .inr ⟨error, ⟨op, answer⟩ :: first, second, ?_, ⟨answer, first, rfl, hf⟩, hh⟩
      rw [ht, hs, List.cons_append]

/-- An attempt runs as its program does. -/
theorem yields_attempt {program : Program Ans Err α} {trace : Trace Ans}
    {out : Except Err (Except Err α)} :
    Yields program.attempt trace out ↔
      ∃ outcome, out = .ok outcome ∧ Yields program trace outcome := by
  induction program generalizing trace with
  | ret value =>
    constructor
    · exact fun h => ⟨_, h.2, h.1, rfl⟩
    · rintro ⟨outcome, rfl, ht, rfl⟩
      exact ⟨ht, rfl⟩
  | throw error =>
    constructor
    · exact fun h => ⟨_, h.2, h.1, rfl⟩
    · rintro ⟨outcome, rfl, ht, rfl⟩
      exact ⟨ht, rfl⟩
  | call op next ih =>
    constructor
    · rintro ⟨answer, rest, ht, hr⟩
      obtain ⟨outcome, ho, hy⟩ := (ih answer).mp hr
      exact ⟨outcome, ho, answer, rest, ht, hy⟩
    · rintro ⟨outcome, ho, answer, rest, ht, hy⟩
      exact ⟨answer, rest, ht, (ih answer).mpr ⟨outcome, ho, hy⟩⟩

/-- However the actions are answered, the program comes to an end. -/
theorem exists_yields (program : Program Ans Err α) (answers : (op : Op) → Ans op) :
    ∃ trace out, Yields program trace out ∧ ∀ step ∈ trace, step.2 = answers step.1 := by
  induction program with
  | ret value => exact ⟨[], .ok value, ⟨rfl, rfl⟩, by simp⟩
  | throw error => exact ⟨[], .error error, ⟨rfl, rfl⟩, by simp⟩
  | call op next ih =>
    obtain ⟨trace, out, hy, ha⟩ := ih (answers op)
    refine ⟨⟨op, answers op⟩ :: trace, out, ⟨answers op, trace, rfl, hy⟩, fun step hm => ?_⟩
    obtain rfl | hm := List.mem_cons.mp hm
    · rfl
    · exact ha step hm

/-- One action and what follows it. -/
theorem yields_issue_bind {op : Op} {rest : Ans op → Program Ans Err β} {trace : Trace Ans}
    {out : Except Err β} :
    Yields ((Program.issue op).bind rest) trace out ↔
      ∃ answer later, trace = ⟨op, answer⟩ :: later ∧ Yields (rest answer) later out := Iff.rfl

/-- A stored result and what follows it. -/
theorem yields_ofExcept_bind {result : Except Err α} {rest : α → Program Ans Err β}
    {trace : Trace Ans} {out : Except Err β} :
    Yields ((Program.ofExcept result).bind rest) trace out ↔
      (∃ error, result = .error error ∧ trace = [] ∧ out = .error error) ∨
      ∃ value, result = .ok value ∧ Yields (rest value) trace out := by
  cases result with
  | ok value =>
    constructor
    · exact fun h => .inr ⟨value, rfl, h⟩
    · intro h
      obtain ⟨error, he, -⟩ | ⟨other, ho, hy⟩ := h
      · cases he
      · cases ho
        exact hy
  | error error =>
    constructor
    · exact fun h => .inl ⟨error, rfl, h⟩
    · intro h
      obtain ⟨other, he, ho⟩ | ⟨value, hv, -⟩ := h
      · cases he
        exact ho
      · cases hv

/-! ## Answers read before they are used -/

section Reading

variable {Raw : Op → Type} (read : (op : Op) → Raw op → Ans op)

/-- The program over raw answers, each read before the program goes on. -/
def reading : Program Ans Err α → Program Raw Err α
  | .ret value => .ret value
  | .throw error => .throw error
  | .call op next => .call op fun raw => reading (next (read op raw))

/-- One action with its answer read. -/
def readStep (step : (op : Op) × Raw op) : (op : Op) × Ans op := ⟨step.1, read step.1 step.2⟩

/-- A run over raw answers is the run over what they read as. -/
theorem yields_reading {program : Program Ans Err α} {trace : Trace Raw} {out : Except Err α}
    (h : Yields (reading read program) trace out) :
    Yields program (trace.map (readStep read)) out := by
  induction program generalizing trace with
  | ret value =>
    obtain ⟨ht, ho⟩ := h
    rw [ht]
    exact ⟨rfl, ho⟩
  | throw error =>
    obtain ⟨ht, ho⟩ := h
    rw [ht]
    exact ⟨rfl, ho⟩
  | call op next ih =>
    obtain ⟨raw, rest, ht, hr⟩ := h
    rw [ht]
    exact ⟨read op raw, rest.map (readStep read), rfl, ih (read op raw) hr⟩

end Reading

/-- The run in which every action gets the answer the table has for it. -/
def played (answers : (op : Op) → Ans op) : Program Ans Err α → Trace Ans × Except Err α
  | .ret value => ([], .ok value)
  | .throw error => ([], .error error)
  | .call op next =>
    let later := played answers (next (answers op))
    (⟨op, answers op⟩ :: later.1, later.2)

/-- It is a run. -/
theorem yields_played (answers : (op : Op) → Ans op) (program : Program Ans Err α) :
    Yields program (played answers program).1 (played answers program).2 := by
  induction program with
  | ret value => exact ⟨rfl, rfl⟩
  | throw error => exact ⟨rfl, rfl⟩
  | call op next ih => exact ⟨answers op, _, rfl, ih (answers op)⟩

/-- A sequence ends as its parts do, one after another. -/
theorem played_bind (answers : (op : Op) → Ans op) (program : Program Ans Err α)
    (rest : α → Program Ans Err β) :
    (played answers (program.bind rest)).2 =
      (played answers program).2.bind fun value => (played answers (rest value)).2 := by
  induction program with
  | ret value => rfl
  | throw error => rfl
  | call op next ih => exact ih (answers op)

/-- Raw answers from a table end the run as what they read as does. -/
theorem played_reading {Raw : Op → Type} (read : (op : Op) → Raw op → Ans op)
    (raw : (op : Op) → Raw op) (program : Program Ans Err α) :
    (played raw (reading read program)).2 =
      (played (fun op => read op (raw op)) program).2 := by
  induction program with
  | ret value => rfl
  | throw error => rfl
  | call op next ih => exact ih (read op (raw op))

/-! ## Runs cut short -/

/-- The program issues this trace first; a run may stop after any action. -/
def Begins : Program Ans Err α → Trace Ans → Prop
  | .ret _, trace => trace = []
  | .throw _, trace => trace = []
  | .call op next, trace =>
    trace = [] ∨ ∃ answer rest, trace = ⟨op, answer⟩ :: rest ∧ Begins (next answer) rest

/-- A sequence stops within its first part, or within its second after all of the first. -/
theorem begins_bind {program : Program Ans Err α} {rest : α → Program Ans Err β}
    {trace : Trace Ans} (h : Begins (program.bind rest) trace) :
    Begins program trace ∨ ∃ value first second, trace = first ++ second ∧
      Yields program first (.ok value) ∧ Begins (rest value) second := by
  induction program generalizing trace with
  | ret value => exact .inr ⟨value, [], trace, rfl, ⟨rfl, rfl⟩, h⟩
  | throw error => exact .inl h
  | call op next ih =>
    obtain hn | ⟨answer, later, ht, hl⟩ := h
    · exact .inl (.inl hn)
    · obtain hb | ⟨value, first, second, hs, hf, hr⟩ := ih answer hl
      · exact .inl (.inr ⟨answer, later, ht, hb⟩)
      · refine .inr ⟨value, ⟨op, answer⟩ :: first, second, ?_, ⟨answer, first, rfl, hf⟩, hr⟩
        rw [ht, hs, List.cons_append]

/-- A stored result stops at once, or what follows it does. -/
theorem begins_ofExcept_bind {result : Except Err α} {rest : α → Program Ans Err β}
    {trace : Trace Ans} (h : Begins ((Program.ofExcept result).bind rest) trace) :
    trace = [] ∨ ∃ value, result = .ok value ∧ Begins (rest value) trace := by
  cases result with
  | ok value => exact .inr ⟨value, rfl, h⟩
  | error error => exact .inl h

/-- What an attempt issues first, its program does. -/
theorem begins_attempt {program : Program Ans Err α} {trace : Trace Ans} :
    Begins program.attempt trace ↔ Begins program trace := by
  induction program generalizing trace with
  | ret value => exact Iff.rfl
  | throw error => exact Iff.rfl
  | call op next ih =>
    refine or_congr Iff.rfl (exists_congr fun answer => exists_congr fun rest => ?_)
    exact and_congr Iff.rfl (ih answer)

/-- A complete run is in particular the beginning of one. -/
theorem Yields.begins {program : Program Ans Err α} {trace : Trace Ans} {out : Except Err α}
    (h : Yields program trace out) : Begins program trace := by
  induction program generalizing trace with
  | ret value => exact h.1
  | throw error => exact h.1
  | call op next ih =>
    obtain ⟨answer, later, ht, hl⟩ := h
    exact .inr ⟨answer, later, ht, ih answer hl⟩

/-- A body with a last part stops within the body, or within the last part. -/
theorem begins_andFinally {body : Program Ans Err α} {last : Program Ans Err Unit}
    {trace : Trace Ans} (h : Begins (body.andFinally last) trace) :
    Begins body trace ∨ ∃ outcome first second, trace = first ++ second ∧
      Yields body first outcome ∧ Begins last second := by
  obtain hb | ⟨outcome, first, second, ht, hf, hs⟩ := begins_bind h
  · exact .inl (begins_attempt.mp hb)
  · obtain ⟨ended, ho, hy⟩ := yields_attempt.mp hf
    cases ho
    obtain hl | ⟨_, begun, rest, hs', hl, hr⟩ := begins_bind hs
    · exact .inr ⟨_, first, second, ht, hy, hl⟩
    · have hnil : rest = [] := by
        cases outcome with
        | ok value => exact hr
        | error error => exact hr
      rw [hnil, List.append_nil] at hs'
      exact .inr ⟨_, first, second, ht, hy, hs' ▸ hl.begins⟩

/-- Whatever an idle program issues, its discipline licenses. -/
theorem idle_licensed {D : Discipline Ans} {program : Program Ans Err α} (h : D.Idle program)
    {trace : Trace Ans} (hb : Begins program trace) (note : D.Note) :
    ∀ step ∈ trace, D.may note step.1 := by
  induction program generalizing trace with
  | ret value =>
    intro step hm
    rw [show trace = [] from hb] at hm
    cases hm
  | throw error =>
    intro step hm
    rw [show trace = [] from hb] at hm
    cases hm
  | call op next ih =>
    obtain hn | ⟨answer, later, ht, hl⟩ := hb
    · intro step hm
      rw [hn] at hm
      cases hm
    · intro step hm
      rw [ht] at hm
      obtain rfl | hm := List.mem_cons.mp hm
      · exact (h.1 note).1
      · exact ih answer (h.2 answer) hl step hm

end IntentSolver.ProgramTraces
