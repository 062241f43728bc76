import IntentSolver.WorkerProgram
import Mathlib.Data.Nat.Notation
import Mathlib.Data.Int.Notation

/-!
# The shared swap store: lifecycle tables and the compare-and-swap

Every corridor keeps one row per swap and moves it through a lifecycle table.
The store's only guard is the compare-and-swap of `transition`: the UPDATE
matches the row's id and the state the caller observed. The edge check and the
column allowlist run in the caller before the UPDATE and throw. Event tables,
paging and the id column (one row is modelled at a time) are left out.
-/

namespace IntentSolver.SwapStore

open WorkerProgram

/-- Errors the corridors tell apart by class; every other one is an `error`. -/
inductive Fault where
  /-- An ordinary `Error`. -/
  | error (message : String)
  /-- `PaymentNotStarted`: this pay call submitted and committed nothing. -/
  | paymentNotStarted (message : String)
  /-- `PaymentHashRegistered`: the backend already holds something for the hash. -/
  | paymentHashRegistered (message : String)
  /-- `FundNotSubmittedError`: this funding provably submitted nothing. -/
  | fundNotSubmitted (message : String)

/-- The text an operator reads. -/
def Fault.message : Fault → String
  | .error message => message
  | .paymentNotStarted message => message
  | .paymentHashRegistered message => message
  | .fundNotSubmitted message => message

/-- A string JavaScript takes for true. -/
def truthy : Option String → Option String
  | some "" => none
  | text => text

/-- One state's entry in a lifecycle table. -/
structure StateSpec (State : Type) where
  /-- Driven by the sweep and counted toward committed sats. -/
  live : Bool
  /-- The solver may have paid out and not yet been made whole. -/
  exposed : Bool
  /-- States an edge leads to. -/
  edges : List State

/-- What differs between stores, with the laws every row mapper keeps. -/
structure StoreShape (Row State Column : Type) where
  /-- How the store names its lifecycle in an illegal-transition error. -/
  lifecycleLabel : String
  /-- The lifecycle table. -/
  spec : State → StateSpec State
  /-- State names as the database spells them. -/
  stateName : State → String
  /-- Where `fail` routes an exposed row. -/
  stuck : State
  /-- Where `fail` routes every other row. -/
  refused : State
  /-- Column names as the database spells them. -/
  columnName : Column → String
  /-- Columns a transition may set. -/
  transitionColumns : Column → Bool
  /-- Columns a patch may set. -/
  patchColumns : Column → Bool
  /-- The row's state column. -/
  state : Row → State
  /-- Write the state and `updated_at` columns. -/
  stamp : State → ℤ → Row → Row
  /-- Write the `updated_at` column. -/
  touch : ℤ → Row → Row
  /-- Write one named column. -/
  assign : Column → Row → Row
  /-- The state column reads back what was stamped. -/
  state_stamp : ∀ target now row, state (stamp target now row) = target
  /-- No named column is the state. -/
  state_assign : ∀ column row, state (assign column row) = state row
  /-- Touching a row does not move it. -/
  state_touch : ∀ now row, state (touch now row) = state row

variable {Row State Column : Type} (shape : StoreShape Row State Column)

/-- The columns of one UPDATE, in order. -/
def assignAll (columns : List Column) (row : Row) : Row :=
  columns.foldl (fun row column => shape.assign column row) row

/-- What each of these columns keeps, their assignment keeps. -/
theorem assignAll_keeps {P : Row → Prop} {columns : List Column}
    (hP : ∀ column ∈ columns, ∀ row, P row → P (shape.assign column row)) {row : Row} (h : P row) :
    P (assignAll shape columns row) := by
  induction columns generalizing row with
  | nil => exact h
  | cons column columns ih =>
    rw [assignAll, List.foldl_cons]
    exact ih (fun other ho => hP other (List.mem_cons_of_mem _ ho))
      (hP column List.mem_cons_self row h)

/-- A field none of these columns writes survives their assignment. -/
theorem assignAll_frame {β : Type} (field : Row → β) {columns : List Column}
    (hf : ∀ column ∈ columns, ∀ row, field (shape.assign column row) = field row) (row : Row) :
    field (assignAll shape columns row) = field row := by
  have hkeeps : ∀ column ∈ columns, ∀ next, field next = field row →
      field (shape.assign column next) = field row :=
    fun column hc next hn => (hf column hc next).trans hn
  exact assignAll_keeps shape hkeeps rfl

/-- Columns never move the row. -/
@[simp]
theorem state_assignAll (columns : List Column) (row : Row) :
    shape.state (assignAll shape columns row) = shape.state row :=
  assignAll_frame shape shape.state (fun column _ => shape.state_assign column) row

/-- The checks `transitionWhere` makes before it reaches the driver. -/
def transitionCheck [DecidableEq State] (source target : State) (columns : List Column) :
    Except Fault Unit :=
  if target ∈ (shape.spec source).edges then
    match columns.find? fun column => !shape.transitionColumns column with
    | some column =>
      .error (.error ("transition() may not set column '" ++ shape.columnName column ++ "'"))
    | none => .ok ()
  else
    .error (.error ("illegal transition " ++ shape.stateName source ++ " -> " ++
      shape.stateName target ++ ": not an edge of the " ++ shape.lifecycleLabel))

/-- The check `patch` makes before it reaches the driver. -/
def patchCheck (columns : List Column) : Except Fault Unit :=
  match columns.find? fun column => !shape.patchColumns column with
  | some column =>
    .error (.error ("patch() may not set column '" ++ shape.columnName column ++ "'"))
  | none => .ok ()

/-- A transition that passes its checks follows an edge of the table. -/
theorem transitionCheck_edge [DecidableEq State] {source target : State} {columns : List Column}
    {passed : Unit} (h : transitionCheck shape source target columns = .ok passed) :
    target ∈ (shape.spec source).edges := by
  unfold transitionCheck at h
  split at h
  · assumption
  · cases h

/-- A transition that passes its checks sets only columns it may. -/
theorem transitionCheck_columns [DecidableEq State] {source target : State}
    {columns : List Column} {passed : Unit}
    (h : transitionCheck shape source target columns = .ok passed) :
    ∀ column ∈ columns, shape.transitionColumns column = true := by
  unfold transitionCheck at h
  split at h
  · split at h
    · cases h
    · next hf =>
      intro column hc
      have hn := List.find?_eq_none.mp hf column hc
      simpa using hn
  · cases h

/-- The UPDATE behind a transition: `WHERE state = ? AND guard`. None when it
changes no row, which the caller sees as a lost race. -/
def updateWhere [DecidableEq State] (now : ℤ) (source target : State) (columns : List Column)
    (guard : Row → Bool) (row : Row) : Option Row :=
  if shape.state row = source ∧ guard row = true then
    some (assignAll shape columns (shape.stamp target now row))
  else none

/-- A won UPDATE found the row where the caller said and left it where it said. -/
theorem updateWhere_state [DecidableEq State] {now : ℤ} {source target : State}
    {columns : List Column} {guard : Row → Bool} {row next : Row}
    (h : updateWhere shape now source target columns guard row = some next) :
    shape.state row = source ∧ guard row = true ∧ shape.state next = target := by
  unfold updateWhere at h
  split at h
  · next hc =>
    cases h
    exact ⟨hc.1, hc.2, by rw [state_assignAll, shape.state_stamp]⟩
  · cases h

/-- The row a won UPDATE leaves. -/
theorem updateWhere_row [DecidableEq State] {now : ℤ} {source target : State}
    {columns : List Column} {guard : Row → Bool} {row next : Row}
    (h : updateWhere shape now source target columns guard row = some next) :
    next = assignAll shape columns (shape.stamp target now row) := by
  unfold updateWhere at h
  split at h
  · cases h
    rfl
  · cases h

/-- A field that neither the stamp nor any of these columns writes survives a
won UPDATE. -/
theorem updateWhere_frame [DecidableEq State] {β : Type} (field : Row → β)
    (hs : ∀ target now row, field (shape.stamp target now row) = field row)
    {now : ℤ} {source target : State} {columns : List Column} {guard : Row → Bool}
    (hf : ∀ column ∈ columns, ∀ row, field (shape.assign column row) = field row)
    {row next : Row} (h : updateWhere shape now source target columns guard row = some next) :
    field next = field row := by
  rw [updateWhere_row shape h, assignAll_frame shape field hf, hs]

/-- The UPDATE behind a patch: no state in its WHERE clause. -/
def patchRow (now : ℤ) (columns : List Column) (row : Row) : Row :=
  assignAll shape columns (shape.touch now row)

/-- A field that neither the touch nor any of these columns writes survives a patch. -/
theorem patchRow_frame {β : Type} (field : Row → β)
    (ht : ∀ now row, field (shape.touch now row) = field row) {now : ℤ} {columns : List Column}
    (hf : ∀ column ∈ columns, ∀ row, field (shape.assign column row) = field row) (row : Row) :
    field (patchRow shape now columns row) = field row := by
  rw [patchRow, assignAll_frame shape field hf, ht]

/-- A patch never moves the row. -/
@[simp]
theorem state_patchRow (now : ℤ) (columns : List Column) (row : Row) :
    shape.state (patchRow shape now columns row) = shape.state row := by
  rw [patchRow, state_assignAll, shape.state_touch]

/-- `stuck` rather than a refusal when money is already exposed. -/
def failTarget (source : State) : State :=
  if (shape.spec source).exposed then shape.stuck else shape.refused

/-- `fund_started_at IS NULL OR fund_started_at <= staleBefore`. -/
def leaseFree (staleBefore : ℤ) : Option ℤ → Bool
  | none => true
  | some since => decide (since ≤ staleBefore)

section Programs

variable [DecidableEq State] {Op : Type} {Ans : Op → Type}
  (update : State → State → List Column → Program Ans Fault Bool)

/-- The compare-and-swap as a corridor calls it: the checks throw, a lost race
answers false. -/
def transition (source target : State) (columns : List Column) : Program Ans Fault Bool := do
  Program.ofExcept (transitionCheck shape source target columns)
  update source target columns

/-- Route a row out of the state the caller observed. -/
def fail (failureReason : String → Column) (source : State) (reason : String) :
    Program Ans Fault Unit := do
  let _ ← transition shape update source (failTarget shape source) [failureReason reason]
  return ()

variable {D : Discipline Ans} {note : D.Note}

/-- A transition is licensed when its UPDATE is, and only edges and allowed
columns reach it. -/
theorem obeys_transition_checked {source target : State} {columns : List Column}
    {post : Bool → D.Note → Prop}
    (h : target ∈ (shape.spec source).edges →
      (∀ column ∈ columns, shape.transitionColumns column = true) →
      D.Obeys note (update source target columns) post) :
    D.Obeys note (transition shape update source target columns) post := by
  have hc : D.Obeys note (Program.ofExcept (transitionCheck shape source target columns) :
      Program Ans Fault Unit) fun _ after => after = note ∧
        target ∈ (shape.spec source).edges ∧
        ∀ column ∈ columns, shape.transitionColumns column = true :=
    Discipline.obeys_ofExcept fun _ hk =>
      ⟨rfl, transitionCheck_edge shape hk, transitionCheck_columns shape hk⟩
  apply hc.bind
  rintro _ after ⟨rfl, he, hk⟩
  exact h he hk

/-- A transition is licensed when its UPDATE is, and only edges reach it. -/
theorem obeys_transition {source target : State} {columns : List Column}
    {post : Bool → D.Note → Prop}
    (h : target ∈ (shape.spec source).edges → D.Obeys note (update source target columns) post) :
    D.Obeys note (transition shape update source target columns) post :=
  obeys_transition_checked shape update fun he _ => h he

end Programs

end IntentSolver.SwapStore
