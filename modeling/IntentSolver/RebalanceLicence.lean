import IntentSolver.RebalanceService

/-!
# What licenses an action of the rebalancing service

A job remembers what its own queries told it and what it wrote. From that alone every write is
licensed: a quote is only cancelled or marked for submission, and marked only with a reservation
in hand and room for one more transfer; an open transfer stays open or ends; pins are given up
only for a row that says its inputs are gone. A job ends with no reservation in hand.
-/

namespace IntentSolver.RebalanceLicence

open Admission EvmClaimAnswers RebalanceService RebalanceTransfers RefillPolicy WorkerProgram

/-! ## Facts -/

/-- What a job may know. -/
inductive Fact where
  /-- These are the terms stored under their identity. -/
  | known (terms : TransferTerms)
  /-- This quote is stored as it is. -/
  | quoted (row : RebalanceTransfer)
  | ended (id : String)
  /-- The transfer left, its inputs are still its own, and this is how the store says so. -/
  | unclear (id : String) (clearedAt : Option ℤ)
  | cleared (id : String)
  /-- Rows in this state are of transfers that left. -/
  | started (state : RebalanceState)
  /-- Marked for submission, and not submitted. -/
  | unsubmitted (id : String)
  /-- One transfer is open at most. -/
  | room
  /-- This policy is in force. -/
  | policy (policy : RebalancePolicy)
  /-- The clock was read. -/
  | time (time : ℤ)
  /-- One reading came no later than another. -/
  | order (earlier later : ℤ)
  | rolled (total time : ℤ)
  /-- The pool was last read to have this balance. -/
  | reading (poolId : String) (balance : ℤ)
  /-- No attempt is later. -/
  | attempted (time : ℤ)
  | held (id : String)
  /-- No other transfer is open. -/
  | actives (ids : List String)
  /-- No other transfer that ended has its inputs pinned. -/
  | protecteds (ids : List String)

/-- What a job has learnt and what it still owes. -/
structure Note where
  /-- The holds of the process are restored. -/
  awake : Bool
  /-- The reservation in hand. -/
  carry : Option String
  knows : Fact → Prop

/-- The notes of a job that starts. -/
def Note.fresh : Note where
  awake := true
  carry := none
  knows := fun _ => False

/-- The notes of a process that starts. -/
def Note.booting : Note where
  awake := false
  carry := none
  knows := fun _ => False

/-- Some facts are dropped, others are added. -/
def Note.revise (note : Note) (keeps adds : Fact → Prop) : Note :=
  { note with knows := fun fact => (note.knows fact ∧ keeps fact) ∨ adds fact }

/-- What a query of the store teaches. -/
inductive Taught : (query : StoreRead) → query.Answer → Fact → Prop where
  | getKnown {id : String} {row : RebalanceTransfer} :
    Taught (.get id) (some row) (.known row.terms)
  | getQuoted {id : String} {row : RebalanceTransfer} (h : row.state = .quoted) :
    Taught (.get id) (some row) (.quoted row)
  | activeKnown {rows : List RebalanceTransfer} {row : RebalanceTransfer} (h : row ∈ rows) :
    Taught .active rows (.known row.terms)
  | activeUnclear {rows : List RebalanceTransfer} {row : RebalanceTransfer} (h : row ∈ rows) :
    Taught .active rows (.unclear row.id row.sourceInputsClearedAt)
  | activeStarted {rows : List RebalanceTransfer} {row : RebalanceTransfer} (h : row ∈ rows) :
    Taught .active rows (.started row.state)
  | activeRoom {rows : List RebalanceTransfer} (h : rows.length ≤ 1) :
    Taught .active rows .room
  | actives {rows : List RebalanceTransfer} :
    Taught .active rows (.actives (rows.map RebalanceTransfer.id))
  | protectedKnown {rows : List RebalanceTransfer} {row : RebalanceTransfer} (h : row ∈ rows) :
    Taught .protectedTerminalInputs rows (.known row.terms)
  | protectedEnded {rows : List RebalanceTransfer} {row : RebalanceTransfer} (h : row ∈ rows) :
    Taught .protectedTerminalInputs rows (.ended row.id)
  | protecteds {rows : List RebalanceTransfer} :
    Taught .protectedTerminalInputs rows (.protecteds (rows.map RebalanceTransfer.id))
  | rolled {now total : ℤ} : Taught (.rollingDebit now) total (.rolled total now)
  | attempted {latest : ℤ} : Taught .lastAttempt latest (.attempted latest)

/-- What outlives the write of a row. -/
def outlives (note : Note) (row : RebalanceTransfer) : Fact → Prop
  | .quoted _ => False
  | .room => False
  | .time _ => False
  | .rolled _ _ => False
  | .protecteds _ => False
  | .actives _ => row.state ≠ .submitting
  | .unclear id _ => id ≠ row.id ∨ note.knows (.unclear row.id row.sourceInputsClearedAt)
  | _ => True

/-- What the write of a row teaches. -/
inductive Wrote (note : Note) (row : RebalanceTransfer) : Fact → Prop where
  | unclear {old : RebalanceTransfer} (hq : note.knows (.quoted old)) (ht : row.terms = old.terms)
    (hc : row.sourceInputsClearedAt = old.sourceInputsClearedAt) (hs : row.state = .submitting) :
    Wrote note row (.unclear row.id row.sourceInputsClearedAt)
  | ended (h : row.state.isEnded = true) : Wrote note row (.ended row.id)
  | cleared (h : row.sourceInputsClearedAt ≠ none) : Wrote note row (.cleared row.id)
  | unsubmitted {old : RebalanceTransfer} (hq : note.knows (.quoted old))
    (ht : row.terms = old.terms) (hs : row.state = .submitting) :
    Wrote note row (.unsubmitted row.id)

/-- What a reading of the clock teaches. -/
inductive Timed (note : Note) (now : ℤ) : Fact → Prop where
  | time : Timed note now (.time now)
  | order {earlier : ℤ} (h : note.knows (.time earlier)) : Timed note now (.order earlier now)

/-- What the pins of the process teach. -/
inductive Pinned (rows : List RebalanceTransfer) : Fact → Prop where
  | known {row : RebalanceTransfer} (h : row ∈ rows) : Pinned rows (.known row.terms)
  | ended {row : RebalanceTransfer} (h : row ∈ rows) : Pinned rows (.ended row.id)

/-- The notes after one more answer. -/
def learn (note : Note) : (op : RebalanceOp) → op.Ans → Note
  | .read query, .ok answer => note.revise (fun _ => True) (Taught query answer)
  | .save row, .ok () => note.revise (outlives note row) (Wrote note row)
  | .recordAttempt _, .ok () =>
    note.revise (fun fact => ∀ time, fact ≠ .attempted time) fun _ => False
  | .readBalance poolId, .ok balance =>
    note.revise (fun fact => ∀ before, fact ≠ .reading poolId before)
      (· = .reading poolId balance)
  | .readBalance poolId, .error _ =>
    note.revise (fun fact => ∀ balance, fact ≠ .reading poolId balance) fun _ => False
  | .now, now => note.revise (fun _ => True) (Timed note now)
  | .policy, policy => note.revise (fun _ => True) (· = .policy policy)
  | .setPolicy policy, () =>
    note.revise (fun fact => ∀ old, fact ≠ .policy old) (· = .policy policy)
  | .reserve row _ _, .ok () => { note with carry := some row.id }
  | .keep id, () => { note.revise (fun _ => True) (· = .held id) with carry := none }
  | .letGo _, () => { note with carry := none }
  | .holdPending row, .ok () => note.revise (fun _ => True) (· = .held row.id)
  | .release id, () => note.revise (· ≠ .held id) fun _ => False
  | .submit _, _ => note.revise (fun fact => ∀ id, fact ≠ .unsubmitted id) fun _ => False
  | .terminalPins, rows => note.revise (fun _ => True) (Pinned rows)
  | _, _ => note

/-! ## Licences -/

/-- A refill within the limits of its policy. -/
structure WithinLimits (policy : RebalancePolicy) (terms : TransferTerms) : Prop where
  debit : terms.debitSats ≤ policy.maxDebitSats
  fee : terms.feeSats = terms.debitSats - terms.netSats
  feeSats : terms.feeSats ≤ policy.maxFeeSats
  feeBps : terms.feeSats * 10000 ≤ terms.netSats * policy.maxFeeBps
  least : policy.minTransferSats ≤ terms.netSats

/-- A refill that takes its pool no further than the target. -/
def WithinTarget (policy : RebalancePolicy) (terms : TransferTerms) (balance : ℤ) : Prop :=
  ∃ target, (terms.poolId, target) ∈ policy.targets ∧
    balance + terms.netSats ≤ target.targetSats

/-- What licenses the row of a new quote. -/
structure MayCreate (note : Note) (row : RebalanceTransfer) : Prop where
  quoted : row.state = .quoted
  uncharged : row.chargedAt = none
  unclear : row.sourceInputsClearedAt = none
  limits : row.terms.origin = .automatic →
    ∃ policy, note.knows (.policy policy) ∧ WithinLimits policy row.terms
  target : row.terms.origin = .automatic → ∃ policy balance, note.knows (.policy policy) ∧
    note.knows (.reading row.terms.poolId balance) ∧ WithinTarget policy row.terms balance

/-- The debit fits what the day still allows. -/
def WithinDay (note : Note) (terms : TransferTerms) (time : ℤ) : Prop :=
  ∃ policy total now, note.knows (.policy policy) ∧ note.knows (.rolled total now) ∧
    note.knows (.time now) ∧ note.knows (.order now time) ∧
    terms.debitSats + total ≤ policy.dailyDebitSats

/-- What licenses the write of a row. -/
inductive MaySave (note : Note) (row : RebalanceTransfer) : Prop where
  | cancel (old : RebalanceTransfer) (hq : note.knows (.quoted old)) (hold : row.terms = old.terms)
      (hclear : row.sourceInputsClearedAt = old.sourceInputsClearedAt)
      (hs : row.state = .cancelled) (hc : row.chargedAt = old.chargedAt)
  | charge (old : RebalanceTransfer) (hq : note.knows (.quoted old)) (hold : row.terms = old.terms)
      (hclear : row.sourceInputsClearedAt = old.sourceInputsClearedAt)
      (hroom : note.knows .room) (hcarry : note.carry = some row.id) (hs : row.state = .submitting)
      (time : ℤ) (hc : row.chargedAt = some time)
      (ht : note.knows (.time time))
      (hday : row.terms.origin = .automatic → WithinDay note row.terms time)
  | follow (hu : note.knows (.unclear row.id row.sourceInputsClearedAt))
      (hs : row.Started ∨ note.knows (.started row.state))
  | clear (he : note.knows (.ended row.id)) (hclear : row.sourceInputsClearedAt ≠ none)

/-- What licenses an attempt. -/
def MayAttempt (note : Note) (time : ℤ) : Prop :=
  ∃ policy latest now, note.knows (.policy policy) ∧ note.knows (.attempted latest) ∧
    note.knows (.order now time) ∧ (latest ≤ 0 ∨ policy.cooldownSeconds ≤ now - latest)

/-- The action is licensed by these notes. -/
def May (note : Note) : RebalanceOp → Prop
  | .create row => MayCreate note row
  | .save row => note.knows (.known row.terms) ∧ MaySave note row
  | .recordAttempt time => MayAttempt note time
  | .setPolicy policy => policy.Valid
  | .reserve _ _ _ => note.carry = none
  | .keep id => note.carry = some id
  | .letGo id => note.carry = some id ∧ ∃ old, note.knows (.quoted old) ∧ old.id = id
  | .release id => note.knows (.cleared id)
  | .submit row => note.knows (.unsubmitted row.id)
  | .setTerminalPin row => note.knows (.known row.terms) ∧ note.knows (.ended row.id)
  | _ => True

/-- The discipline of the service. -/
abbrev licence : Discipline RebalanceOp.Ans where
  Note := Note
  fresh := Note.fresh
  may := May
  learn := learn

/-- Every pin that is needed is held. -/
def Restored (note : Note) : Prop :=
  ∃ actives protecteds, note.knows (.actives actives) ∧ note.knows (.protecteds protecteds) ∧
    ∀ id ∈ actives ++ protecteds, note.knows (.held id)

/-- The notes a job or a start may end with. -/
def Settled (note : Note) : Prop := note.carry = none ∧ (note.awake = true ∨ Restored note)

/-! ## What is kept -/

/-- Nothing was forgotten. -/
structure Extends (note after : Note) : Prop where
  awake : after.awake = note.awake
  carry : after.carry = note.carry
  knows : ∀ fact, note.knows fact → after.knows fact

/-- Notes extend themselves. -/
theorem Extends.refl (note : Note) : Extends note note := ⟨rfl, rfl, fun _ h => h⟩

/-- Extensions of notes chain. -/
theorem Extends.trans {note mid after : Note} (h : Extends note mid) (h' : Extends mid after) :
    Extends note after :=
  ⟨h'.awake.trans h.awake, h'.carry.trans h.carry, fun fact hk => h'.knows fact (h.knows fact hk)⟩

/-- Adding facts forgets nothing. -/
theorem extends_revise {note : Note} {adds : Fact → Prop} :
    Extends note (note.revise (fun _ => True) adds) :=
  ⟨rfl, rfl, fun _ h => .inl ⟨h, trivial⟩⟩

/-- Actions that ask and change nothing. -/
def Asks : RebalanceOp → Prop
  | .ask _ => True
  | .read _ => True
  | .now => True
  | .policy => True
  | .stopped => True
  | .holdsHas _ => True
  | .terminalPins => True
  | _ => False

/-- Asking is always licensed. -/
theorem may_of_asks {note : Note} {op : RebalanceOp} (h : Asks op) : May note op := by
  cases op <;> trivial

/-- What is learnt by asking only adds to the notes. -/
theorem learn_of_asks {note : Note} {op : RebalanceOp} {answer : op.Ans} (h : Asks op) :
    Extends note (learn note op answer) := by
  cases op with
  | read query =>
    cases answer with
    | ok answer => exact extends_revise
    | error fault => exact Extends.refl note
  | ask question => exact Extends.refl note
  | stopped => exact Extends.refl note
  | holdsHas id => exact Extends.refl note
  | now => exact extends_revise
  | policy => exact extends_revise
  | terminalPins => exact extends_revise
  | _ => exact h.elim

variable {α β : Type}

/-- Code that only asks forgets nothing. -/
theorem ends_of_gives {note : Note} {program : Rebalancing α} {post : α → Prop}
    (h : Discipline.Gives Asks post program) :
    licence.Ends note program (fun value after => post value ∧ Extends note after)
      fun _ after => Extends note after :=
  h.ends (fun _ _ ha => may_of_asks ha)
    (fun _ _ _ ha he => he.trans (learn_of_asks ha)) (Extends.refl note)

/-- An outcome is handed on without asking anything. -/
theorem asks_orThrow {α : Type} {result : Except String α} :
    Discipline.Gives Asks (fun value => result = .ok value) (orThrow result) :=
  Discipline.gives_ofExcept fun _ h => h

/-- A question only asks. -/
theorem asks_ask (question : RebalanceQuestion) :
    Discipline.Gives Asks (fun _ => True) (ask question) :=
  (Discipline.gives_issue trivial).bind fun _ _ => asks_orThrow.mono fun _ _ => trivial

/-- A read of the store only asks. -/
theorem asks_read (query : StoreRead) : Discipline.Gives Asks (fun _ => True) (read query) :=
  (Discipline.gives_issue trivial).bind fun _ _ => asks_orThrow.mono fun _ _ => trivial

end IntentSolver.RebalanceLicence
