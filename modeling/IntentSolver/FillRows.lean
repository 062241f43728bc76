import IntentSolver.OfferSettle
import IntentSolver.SingleCommit
import IntentSolver.SwapStore
import IntentSolver.WorkerInterleaving
import IntentSolver.WorkerSum

/-!
# Rows a fill is submitted from

Two stores keep fills, and both keep the same promise. An attempt claims a row by moving it to
`filling` with the phase `selecting`, and wins the phase `submitting` immediately before it
submits. Only a row still `selecting` may be walked back. Any number of processes recover any
row they find `filling`, so an attempt that is alive can lose its claim to another and take
that one's claim in turn; what keeps the submission single is the latch alone. A row filled
under an older version has no phase, and nothing is ever submitted from it again.
-/

namespace IntentSolver.FillRows

open OfferSettle OfferTerms SingleCommit SwapStore WorkerInterleaving WorkerProgram

/-- How far the attempt that holds a `filling` row got. -/
inductive FillPhase where
  | selecting
  | submitting
  deriving DecidableEq

/-- What differs between the two stores, with the laws of their columns. -/
structure FillShape (Row State Column : Type) extends StoreShape Row State Column where
  /-- Where a row goes back to when its attempt submitted nothing. -/
  waiting : State
  filling : State
  filled : State
  /-- No attempt holds the row, and one still may. -/
  isOpen : State → Bool
  /-- The `failure_reason` column. -/
  failureReason : String → Column
  /-- The row's `fill_phase` column. -/
  fillPhase : Row → Option FillPhase
  /-- Write it. -/
  setFillPhase : Option FillPhase → Row → Row
  waiting_open : isOpen waiting = true
  filling_closed : isOpen filling = false
  filled_closed : isOpen filled = false
  stuck_closed : isOpen stuck = false
  filled_ne : filled ≠ filling
  stuck_ne : stuck ≠ filling
  stuck_ne_filled : stuck ≠ filled
  state_setFillPhase : ∀ phase row, state (setFillPhase phase row) = state row
  fillPhase_setFillPhase : ∀ phase row, fillPhase (setFillPhase phase row) = phase

/-- A corridor of fills: its rows, and what it asks of the outside. -/
structure FillKit where
  Row : Type
  State : Type
  Column : Type
  Question : Type
  Answer : Question → Type
  shape : FillShape Row State Column
  decState : DecidableEq State

attribute [instance] FillKit.decState

/-- What a worker issues. -/
inductive FillOp (K : FillKit) where
  /-- Read the row. -/
  | get
  | now
  /-- Ask the outside: prices, balances, approvals. -/
  | ask (question : K.Question)
  /-- The UPDATE of a transition. -/
  | update (source target : K.State) (columns : List K.Column)
  | revertUnsubmitted
  /-- An action of the settle; its latch is the row's. -/
  | settle (op : SettleOp)
  /-- The deferrals the process remembers for the row. -/
  | deferrals
  | remember (deferrals : ℕ)

variable {K : FillKit}

/-- What it answers. -/
abbrev FillOp.Ans : FillOp K → Type
  | get => K.Row
  | now => ℤ
  | ask question => K.Answer question
  | update _ _ _ => Bool
  | revertUnsubmitted => Bool
  | settle op => op.Ans
  | deferrals => ℕ
  | remember _ => Unit

/-- Code of a worker. -/
abbrev Prog (K : FillKit) (α : Type) : Type := Program (@FillOp.Ans K) FloatFault α

/-- One action. -/
def issue (op : FillOp K) : Prog K op.Ans := Program.issue op

/-- A question that may fail. -/
def demand {α : Type} (question : K.Question) (read : K.Answer question → Except FloatFault α) :
    Prog K α :=
  (issue (.ask question)).bind fun answer => Program.ofExcept (read answer)

/-- The compare-and-swap on the state. -/
def transition (source target : K.State) (columns : List K.Column) : Prog K Bool := do
  Program.ofExcept ((transitionCheck K.shape.toStoreShape source target columns).mapError
    fun fault => FloatFault.error fault.message)
  issue (.update source target columns)

/-- Route a row out of the state the caller observed. -/
def fail (source : K.State) (reason : String) : Prog K Unit :=
  if (K.shape.spec source).live then do
    let _ ← transition source (failTarget K.shape.toStoreShape source)
      [K.shape.failureReason reason]
    return ()
  else throw (FloatFault.error ("fail() cannot act on " ++ K.shape.stateName source ++
    ": it is terminal, so there is nothing left to fail"))

/-- Code of a settle, with the row's latch for its own. -/
def settle {α : Type} (program : Settling α) : Prog K α :=
  program.relabel FillOp.settle fun _ answer => answer

/-! ## One row and the processes that share it -/

/-- The row, the clock, what each process remembers, and what was done with the latch. -/
structure FillWorld (K : FillKit) where
  row : K.Row
  clock : ℤ
  memory : ℕ → ℕ
  /-- Latches won and submissions made, latest first. -/
  deeds : List (ℕ × Deed)

/-- What the outside answers. -/
structure FillReply (K : FillKit) where
  answer : (question : K.Question) → K.Answer question
  settled : (op : SettleOp) → op.Ans

/-- What happens on its own. -/
inductive FillMove where
  | wait (seconds : ℕ)
  /-- A process starts over with nothing remembered. -/
  | restart (worker : ℕ)

/-- `state = 'filling' AND fill_phase = 'selecting'`. -/
def Selecting (row : K.Row) : Prop :=
  K.shape.state row = K.shape.filling ∧ K.shape.fillPhase row = some .selecting

instance (row : K.Row) : Decidable (Selecting row) := inferInstanceAs (Decidable (_ ∧ _))

/-- Effect of one action. -/
def perform (worker : ℕ) (op : FillOp K) (reply : FillReply K) (world : FillWorld K) :
    Option (op.Ans × FillWorld K) :=
  match op with
  | .get => some (world.row, world)
  | .now => some (world.clock, world)
  | .ask question => some (reply.answer question, world)
  | .update source target columns =>
    match updateWhere K.shape.toStoreShape world.clock source target columns (fun _ => true)
      world.row with
    | some row => some (true, { world with row := row })
    | none => some (false, world)
  | .revertUnsubmitted =>
    if Selecting world.row then
      some (true, { world with
        row := K.shape.setFillPhase none
          (K.shape.stamp K.shape.waiting world.clock world.row) })
    else some (false, world)
  | .settle .markSubmitting =>
    if Selecting world.row then
      some (.ok true, { world with
        row := K.shape.setFillPhase (some .submitting) (K.shape.touch world.clock world.row)
        deeds := (worker, .won) :: world.deeds })
    else some (.ok false, world)
  | .settle (.fillOffer request) =>
    some (reply.settled (.fillOffer request),
      { world with deeds := (worker, .committed) :: world.deeds })
  | .settle op => some (reply.settled op, world)
  | .deferrals => some (world.memory worker, world)
  | .remember deferrals =>
    some ((), { world with memory := Function.update world.memory worker deferrals })

/-- Effect of one move. -/
def stir (move : FillMove) (world : FillWorld K) : Option (FillWorld K) :=
  match move with
  | .wait seconds => some { world with clock := world.clock + seconds }
  | .restart worker => some { world with memory := Function.update world.memory worker 0 }

/-- Processes at work on one row. -/
def fillMachine (K : FillKit) {Job : Type} (program : Job → Prog K Unit) : Machine where
  Op := FillOp K
  Ans := FillOp.Ans
  Err := FloatFault
  World := FillWorld K
  Reply := FillReply K
  Move := FillMove
  Job := Job
  perform := perform
  stir := stir
  program := program

/-- A row as it was found, with no process at work. -/
def found (row : K.Row) (clock : ℤ) : FillWorld K := ⟨row, clock, fun _ => 0, []⟩

/-! ## The latch -/

/-- What a worker remembers: whether it holds the latch, and whether it submitted since its
last transition. -/
structure FillNote where
  latch : SingleCommit.Note
  sent : Bool

/-- Nothing. -/
def FillNote.blank : FillNote := ⟨Note.blank, false⟩

/-- A settle submits only with the latch. -/
def settleMay (note : FillNote) : SettleOp → Prop
  | .fillOffer _ => note.latch.holds = true
  | _ => True

/-- What a settle learns. -/
def settleLearn : FillNote → (op : SettleOp) → op.Ans → FillNote
  | note, .markSubmitting, .ok true => ⟨⟨true, false, false⟩, note.sent⟩
  | _, .fillOffer _, _ => ⟨Note.blank, true⟩
  | note, _, _ => note

/-- The settle alone. -/
def settleDiscipline : Discipline SettleOp.Ans where
  Note := FillNote
  fresh := FillNote.blank
  may := settleMay
  learn := settleLearn

/-- Moves of the row a worker may attempt: an open row may be claimed with the phase
`selecting` or moved elsewhere, a `filling` one may end stuck, or filled by who submitted. -/
def mayMove (note : FillNote) (source target : K.State) (columns : List K.Column) : Prop :=
  (K.shape.isOpen source = true ∧ target ≠ K.shape.filled ∧
    (target = K.shape.filling → ∀ row, K.shape.fillPhase
      (assignAll K.shape.toStoreShape columns row) = some .selecting)) ∨
  (source = K.shape.filling ∧
    (target = K.shape.stuck ∨ target = K.shape.filled ∧ note.sent = true))

/-- Win the latch before submitting. -/
def latchDiscipline (K : FillKit) : Discipline (@FillOp.Ans K) where
  Note := FillNote
  fresh := FillNote.blank
  may
    | note, .update source target columns => mayMove note source target columns
    | note, .settle op => settleMay note op
    | _, _ => True
  learn
    | _, .update _ _ _, _ => FillNote.blank
    | note, .settle op, answer => settleLearn note op answer
    | note, _, _ => note

/-- The latch is still to be won while the row is open or selected for. -/
def phaseOf (row : K.Row) : Phase :=
  if K.shape.isOpen (K.shape.state row) = true ∨ Selecting row then .undecided else .underway

/-- The row's part of the ledger. -/
def ledgerOf (world : FillWorld K) : Ledger := ⟨phaseOf world.row, world.deeds⟩

/-- What holds of the row, of what was done with its latch and of everybody's notes. -/
structure FillInv (first : K.Row) (world : FillWorld K) (notes : ℕ → FillNote) : Prop where
  /-- The latch was won at most once, and used at most once by its winner. -/
  latched : SingleCommit.Inv (ledgerOf world) fun worker => (notes worker).latch
  /-- Once it is won the row is `submitting`, filled or stuck. -/
  after : world.deeds ≠ [] →
    (K.shape.state world.row = K.shape.filling ∧
      K.shape.fillPhase world.row = some .submitting) ∨
    K.shape.state world.row = K.shape.filled ∨ K.shape.state world.row = K.shape.stuck
  /-- Where it could not be won at first, it never is. -/
  never : phaseOf first = .underway → phaseOf world.row = .underway ∧ world.deeds = []
  /-- Who remembers a submission made it. -/
  sent : ∀ worker, (notes worker).sent = true → commits world.deeds ≠ 0
  /-- A row is filled by a submission. -/
  filled : K.shape.state world.row = K.shape.filled →
    K.shape.state first = K.shape.filled ∨ commits world.deeds ≠ 0

/-- What one action can do to the row and to the deeds, and what its worker then remembers. -/
inductive RowStep (worker : ℕ) (note : FillNote) (world : FillWorld K) :
    FillNote → FillWorld K → Prop where
  /-- Nothing. -/
  | look {next} (hr : next.row = world.row) (hd : next.deeds = world.deeds) :
      RowStep worker note world note next
  /-- Nothing, after a lost race. -/
  | lose {next} (hr : next.row = world.row) (hd : next.deeds = world.deeds) :
      RowStep worker note world FillNote.blank next
  /-- An open row is claimed, or moved elsewhere than to be filled. -/
  | move {next} (hopen : K.shape.isOpen (K.shape.state world.row) = true)
      (hclaim : K.shape.state next.row = K.shape.filling →
        K.shape.fillPhase next.row = some .selecting)
      (hf : K.shape.state next.row ≠ K.shape.filled) (hd : next.deeds = world.deeds) :
      RowStep worker note world FillNote.blank next
  /-- A `filling` row ends. -/
  | close {next} (hs : K.shape.state world.row = K.shape.filling)
      (ht : K.shape.state next.row = K.shape.stuck ∨
        K.shape.state next.row = K.shape.filled ∧ note.sent = true)
      (hd : next.deeds = world.deeds) : RowStep worker note world FillNote.blank next
  /-- A row still selected for is walked back. -/
  | revert {next} (hs : Selecting world.row)
      (hopen : K.shape.isOpen (K.shape.state next.row) = true) (hd : next.deeds = world.deeds) :
      RowStep worker note world note next
  /-- The latch is won. -/
  | win {next} (hs : Selecting world.row) (hf : K.shape.state next.row = K.shape.filling)
      (hp : K.shape.fillPhase next.row = some .submitting)
      (hd : next.deeds = (worker, .won) :: world.deeds) :
      RowStep worker note world ⟨⟨true, false, false⟩, note.sent⟩ next
  /-- A submission is made. -/
  | submit {next} (hh : note.latch.holds = true) (hr : next.row = world.row)
      (hd : next.deeds = (worker, .committed) :: world.deeds) :
      RowStep worker note world ⟨Note.blank, true⟩ next

/-- That is all a licensed action does. -/
theorem perform_rowStep {world next : FillWorld K} {worker : ℕ} {note : FillNote} {op : FillOp K}
    {reply : FillReply K} {answer : op.Ans} (hm : (latchDiscipline K).may note op)
    (hp : perform worker op reply world = some (answer, next)) :
    RowStep worker note world ((latchDiscipline K).learn note op answer) next := by
  cases op with
  | get =>
    cases hp
    exact .look rfl rfl
  | now =>
    cases hp
    exact .look rfl rfl
  | ask question =>
    cases hp
    exact .look rfl rfl
  | deferrals =>
    cases hp
    exact .look rfl rfl
  | remember deferrals =>
    cases hp
    exact .look rfl rfl
  | update source target columns =>
    simp only [perform] at hp
    split at hp
    next row hu =>
      cases hp
      obtain ⟨hs, -, ht⟩ := updateWhere_state K.shape.toStoreShape hu
      obtain ⟨hopen, hfilled, hclaim⟩ | ⟨hfilling, hend⟩ := hm
      · refine .move (by rw [hs]; exact hopen) (fun hf => ?_) (by rw [ht]; exact hfilled) rfl
        dsimp only at hf ⊢
        rw [updateWhere_row K.shape.toStoreShape hu]
        exact hclaim (ht.symm.trans hf) _
      · refine .close (by rw [hs]; exact hfilling) ?_ rfl
        dsimp only
        rw [ht]
        exact hend
    next =>
      cases hp
      exact .lose rfl rfl
  | revertUnsubmitted =>
    simp only [perform] at hp
    split at hp
    next hs =>
      cases hp
      refine .revert hs ?_ rfl
      dsimp only
      rw [K.shape.state_setFillPhase, K.shape.state_stamp]
      exact K.shape.waiting_open
    next =>
      cases hp
      exact .look rfl rfl
  | settle op =>
    cases op with
    | markSubmitting =>
      simp only [perform] at hp
      split at hp
      next hs =>
        cases hp
        refine .win hs ?_ (K.shape.fillPhase_setFillPhase _ _) rfl
        dsimp only
        rw [K.shape.state_setFillPhase, K.shape.state_touch]
        exact hs.1
      next =>
        cases hp
        exact .look rfl rfl
    | fillOffer request =>
      cases hp
      exact .submit hm rfl rfl
    | _ =>
      cases hp
      exact .look rfl rfl

/-- A selected row is undecided. -/
theorem phaseOf_selecting {row : K.Row} (h : Selecting row) : phaseOf row = .undecided :=
  if_pos (.inr h)

/-- So is an open one. -/
theorem phaseOf_open {row : K.Row} (h : K.shape.isOpen (K.shape.state row) = true) :
    phaseOf row = .undecided := if_pos (.inl h)

/-- A row that is neither open nor filling is decided. -/
theorem phaseOf_ended {row : K.Row} (ho : K.shape.isOpen (K.shape.state row) = false)
    (hf : K.shape.state row ≠ K.shape.filling) : phaseOf row = .underway := by
  apply if_neg
  rintro (h | h)
  · rw [ho] at h
    cases h
  · exact hf h.1

/-- And so is one that is submitting. -/
theorem phaseOf_submitting {row : K.Row} (hf : K.shape.state row = K.shape.filling)
    (hp : K.shape.fillPhase row = some .submitting) : phaseOf row = .underway := by
  apply if_neg
  rintro (h | h)
  · rw [hf, K.shape.filling_closed] at h
    cases h
  · have hselecting := h.2
    rw [hp] at hselecting
    cases hselecting

/-- An open row is in none of the states an attempt leads to. -/
theorem open_ne {row : K.Row} (h : K.shape.isOpen (K.shape.state row) = true) :
    K.shape.state row ≠ K.shape.filling ∧ K.shape.state row ≠ K.shape.filled ∧
      K.shape.state row ≠ K.shape.stuck := by
  refine ⟨fun hs => ?_, fun hs => ?_, fun hs => ?_⟩
  · rw [hs, K.shape.filling_closed] at h
    cases h
  · rw [hs, K.shape.filled_closed] at h
    cases h
  · rw [hs, K.shape.stuck_closed] at h
    cases h

/-- A row whose latch can still be won was never submitted from. -/
theorem FillInv.unused {first : K.Row} {world : FillWorld K} {notes : ℕ → FillNote}
    (h : FillInv first world notes) (hp : phaseOf world.row = .undecided) : world.deeds = [] := by
  have hshape := h.latched.shape
  unfold ledgerOf at hshape
  dsimp only at hshape
  rw [hp] at hshape
  exact hshape

/-- Who holds the latch has won it. -/
theorem FillInv.won {first : K.Row} {world : FillWorld K} {notes : ℕ → FillNote}
    (h : FillInv first world notes) {worker : ℕ} (hh : (notes worker).latch.holds = true) :
    world.deeds ≠ [] := by
  have hdeeds : world.deeds = [(worker, .won)] := (h.latched.holds worker hh).2
  rw [hdeeds]
  exact List.cons_ne_nil _ _

/-- A row that ended stuck or filled is decided. -/
theorem phaseOf_closed {row : K.Row} (h : K.shape.state row = K.shape.stuck ∨
    K.shape.state row = K.shape.filled) : phaseOf row = .underway := by
  obtain hs | hs := h
  · exact phaseOf_ended (by rw [hs]; exact K.shape.stuck_closed)
      (by rw [hs]; exact K.shape.stuck_ne)
  · exact phaseOf_ended (by rw [hs]; exact K.shape.filled_closed)
      (by rw [hs]; exact K.shape.filled_ne)

/-- On the ledger every action is one of a single commitment. -/
theorem RowStep.ledger {worker : ℕ} {note note' : FillNote} {world next : FillWorld K}
    (h : RowStep worker note world note' next) :
    Step worker note.latch (ledgerOf world) note'.latch (ledgerOf next) := by
  unfold ledgerOf
  cases h with
  | look hr hd =>
    rw [hr, hd]
    exact .look (Note.backed_refl _ _)
  | lose hr hd =>
    rw [hr, hd]
    exact .look (Note.backed_blank _ _)
  | move hopen hclaim hf hd =>
    rw [hd]
    by_cases hp : phaseOf next.row = .undecided
    · rw [hp, phaseOf_open hopen]
      exact .look (Note.backed_blank _ _)
    · have hunderway : phaseOf next.row = .underway := by
        unfold phaseOf at hp ⊢
        split_ifs at hp ⊢ <;> first | rfl | exact absurd rfl hp
      rw [hunderway]
      exact .pass (phaseOf_open hopen) rfl rfl
  | close hs ht hd =>
    have hunderway : phaseOf next.row = .underway := phaseOf_closed (ht.imp_right And.left)
    rw [hd, hunderway]
    by_cases hp : phaseOf world.row = .undecided
    · exact .pass hp rfl rfl
    · have hbefore : phaseOf world.row = .underway := by
        unfold phaseOf at hp ⊢
        split_ifs at hp ⊢ <;> first | rfl | exact absurd rfl hp
      rw [hbefore]
      exact .look (Note.backed_blank _ _)
  | revert hs hopen hd =>
    rw [hd, phaseOf_open hopen, phaseOf_selecting hs]
    exact .look (Note.backed_refl _ _)
  | win hs hf hp hd =>
    rw [hd, phaseOf_submitting hf hp]
    exact .win (phaseOf_selecting hs) rfl
  | submit hh hr hd =>
    rw [hd, hr]
    exact .commit hh rfl rfl

/-- Nothing that is done takes a submission back. -/
theorem RowStep.commits_le {worker : ℕ} {note note' : FillNote} {world next : FillWorld K}
    (h : RowStep worker note world note' next) : commits world.deeds ≤ commits next.deeds := by
  cases h with
  | win hs hf hp hd =>
    rw [hd]
    simp [commits]
  | submit hh hr hd =>
    rw [hd]
    simp [commits]
  | _ => simp_all

/-- Every action of every worker keeps the invariant. -/
theorem RowStep.keeps {first : K.Row} {worker : ℕ} {note' : FillNote} {world next : FillWorld K}
    {notes : ℕ → FillNote} (h : FillInv first world notes)
    (hs : RowStep worker (notes worker) world note' next) :
    FillInv first next (Function.update notes worker note') := by
  have hledger := hs.ledger.keeps h.latched
  have hmore := hs.commits_le
  have hsent : note'.sent = true → commits next.deeds ≠ 0 := by
    intro hn
    cases hs with
    | look hr hd =>
      rw [hd]
      exact h.sent worker hn
    | revert hs hopen hd =>
      rw [hd]
      exact h.sent worker hn
    | win hs hf hp hd =>
      have hbefore := h.sent worker hn
      omega
    | submit hh hr hd =>
      rw [hd]
      simp [commits]
    | _ => cases hn
  refine ⟨?_, ?_, ?_, fun other hn => ?_, ?_⟩
  · have hnotes : (fun other => (Function.update notes worker note' other).latch) =
        Function.update (fun other => (notes other).latch) worker note'.latch := by
      funext other
      by_cases ho : other = worker
      · rw [ho, Function.update_self, Function.update_self]
      · rw [Function.update_of_ne ho, Function.update_of_ne ho]
    rw [hnotes]
    exact hledger
  · intro hne
    cases hs with
    | look hr hd =>
      rw [hr]
      exact h.after (hd ▸ hne)
    | lose hr hd =>
      rw [hr]
      exact h.after (hd ▸ hne)
    | move hopen hclaim hf hd => exact absurd (h.unused (phaseOf_open hopen)) (hd ▸ hne)
    | close hs ht hd => exact .inr (ht.symm.imp_left And.left)
    | revert hs hopen hd => exact absurd (h.unused (phaseOf_selecting hs)) (hd ▸ hne)
    | win hs hf hp hd => exact .inl ⟨hf, hp⟩
    | submit hh hr hd =>
      rw [hr]
      exact h.after (h.won hh)
  · intro hfirst
    obtain ⟨hphase, hnone⟩ := h.never hfirst
    cases hs with
    | look hr hd => exact ⟨by rw [hr]; exact hphase, hd.trans hnone⟩
    | lose hr hd => exact ⟨by rw [hr]; exact hphase, hd.trans hnone⟩
    | move hopen hclaim hf hd =>
      have hbad := (phaseOf_open hopen).symm.trans hphase
      cases hbad
    | close hs ht hd =>
      exact ⟨phaseOf_closed (ht.imp_right And.left), hd.trans hnone⟩
    | revert hs hopen hd =>
      have hbad := (phaseOf_selecting hs).symm.trans hphase
      cases hbad
    | win hs hf hp hd =>
      have hbad := (phaseOf_selecting hs).symm.trans hphase
      cases hbad
    | submit hh hr hd => exact absurd hnone (h.won hh)
  · by_cases ho : other = worker
    · rw [ho, Function.update_self] at hn
      exact hsent hn
    · rw [Function.update_of_ne ho] at hn
      have hbefore := h.sent other hn
      omega
  · intro hfilled
    have hkeep : ∀ {before : K.Row}, K.shape.state before = K.shape.filled → before = world.row →
        K.shape.state first = K.shape.filled ∨ commits next.deeds ≠ 0 := by
      rintro before hb rfl
      exact (h.filled hb).imp_right fun hc => by omega
    cases hs with
    | look hr hd => exact hkeep hfilled hr
    | lose hr hd => exact hkeep hfilled hr
    | move hopen hclaim hf hd => exact absurd hfilled hf
    | close hs ht hd =>
      obtain ht | ⟨-, ht⟩ := ht
      · exact absurd (ht.symm.trans hfilled) K.shape.stuck_ne_filled
      · have hbefore := h.sent worker ht
        exact .inr (by omega)
    | revert hs hopen hd => exact absurd hfilled (open_ne hopen).2.1
    | win hs hf hp hd => exact absurd (hf.symm.trans hfilled) K.shape.filled_ne.symm
    | submit hh hr hd => exact hkeep hfilled hr

/-- A row as it was found meets it, whatever its state and phase. -/
theorem fillInv_found (row : K.Row) (clock : ℤ) :
    FillInv row (found row clock) fun _ => FillNote.blank := by
  refine ⟨⟨?_, ?_, ?_, ?_⟩, fun hne => absurd rfl hne, fun hp => ⟨hp, rfl⟩, fun _ hn => ?_,
    fun hf => .inl hf⟩
  · unfold ledgerOf
    dsimp only [found]
    unfold phaseOf
    split_ifs
    · rfl
    · exact .inl rfl
  · exact fun _ hn => nomatch hn
  · exact fun _ hn => nomatch hn
  · exact fun _ hn => nomatch hn
  · cases hn

/-- Processes whose code keeps to the latch keep the invariant in every run. -/
def fillProtocol {Job : Type} (program : Job → Prog K Unit) (first : K.Row)
    (hjobs : ∀ job, (latchDiscipline K).Free (program job)) :
    Protocol (fillMachine K program) anything where
  discipline := latchDiscipline K
  inv world notes := FillInv first world notes
  forget world notes worker h := (RowStep.lose rfl rfl).keeps h
  act world notes worker op reply answer next h hm _ hp := (perform_rowStep hm hp).keeps h
  stir world notes move next h hs := by
    cases move with
    | wait seconds =>
      cases hs
      exact ⟨h.latched, h.after, h.never, h.sent, h.filled⟩
    | restart worker =>
      cases hs
      exact ⟨h.latched, h.after, h.never, h.sent, h.filled⟩
  jobs job := hjobs job _

/-- What becomes of a row from which a fill may be submitted. -/
structure SubmittedOnce (first : K.Row) (world : FillWorld K) : Prop where
  /-- At most one submission is made over its whole life. -/
  once : commits world.deeds ≤ 1
  /-- By a worker that had won the latch. -/
  afterWin : ∀ worker after before, world.deeds = after ++ (worker, Deed.committed) :: before →
    (worker, Deed.won) ∈ before
  /-- None has been made while an attempt could still claim the row or be walked back. -/
  unused : K.shape.isOpen (K.shape.state world.row) = true ∨ Selecting world.row →
    world.deeds = []
  /-- Once it is made the row is filling, filled or stuck. -/
  after : commits world.deeds ≠ 0 → K.shape.state world.row = K.shape.filling ∨
    K.shape.state world.row = K.shape.filled ∨ K.shape.state world.row = K.shape.stuck
  /-- A row is filled by a submission, or was. -/
  filled : K.shape.state world.row = K.shape.filled →
    K.shape.state first = K.shape.filled ∨ commits world.deeds ≠ 0
  /-- A row that was found ended, or held without the phase `selecting`, is never submitted. -/
  never : K.shape.isOpen (K.shape.state first) = false → ¬ Selecting first → world.deeds = []

/-- Every run of processes whose code keeps to the latch submits once at most. -/
theorem submittedOnce_of_run {Job : Type} {program : Job → Prog K Unit}
    (hjobs : ∀ job, (latchDiscipline K).Free (program job)) {first : K.Row} {clock : ℤ}
    {events : List (Event (fillMachine K program))} {final : Config (fillMachine K program)}
    (h : run (boot (found first clock)) events = some final) :
    SubmittedOnce first final.world := by
  obtain ⟨notes, hinv⟩ := (fillProtocol program first hjobs).inv_of_run
    (fillInv_found first clock) (permitted_anything _ _) h
  have hholds : FillInv first final.world notes := hinv
  have hclean : Clean final.world.deeds := hholds.latched.clean
  refine ⟨hclean.once, hclean.afterWin, fun ho => hholds.unused (if_pos ho), fun hc => ?_,
    hholds.filled, fun ho hs => ?_⟩
  · have hne : final.world.deeds ≠ [] := by
      intro hn
      rw [hn] at hc
      exact hc rfl
    exact (hholds.after hne).imp_left And.left
  · refine (hholds.never ?_).2
    apply if_neg
    rintro (hopen | hselecting)
    · rw [ho] at hopen
      cases hopen
    · exact hs hselecting

/-! ## Code that keeps to the latch -/

/-- What does not touch the latch is quiet in a settle. -/
theorem quiet_demand {α : Type} {op : SettleOp} (hop : ¬ op.Commits)
    (read : op.Ans → Except FloatFault α) :
    settleDiscipline.Quiet (OfferSettle.demand op read) := by
  have hquiet : settleDiscipline.Quiet (OfferSettle.issue op) := by
    apply Discipline.quiet_issue
    · intro note
      cases op with
      | fillOffer request => exact absurd trivial hop
      | _ => trivial
    · intro note answer
      cases op with
      | markSubmitting => exact absurd trivial hop
      | fillOffer request => exact absurd trivial hop
      | _ => rfl
  exact hquiet.bind fun answer => Discipline.quiet_ofExcept _

/-- Reading the outputs of a script is quiet. -/
theorem quiet_liveOfferOutpoints {AssetId : Type} (deps : SettleDeps AssetId) (script : String) :
    settleDiscipline.Quiet (liveOfferOutpoints deps script) := by
  have hidle : settleDiscipline.Idle (outputSource deps script).batches :=
    IndexerPaging.idle_batches fun _ _ => ⟨trivial, fun _ => rfl⟩
  exact hidle.quiet.bind fun _ => Discipline.quiet_ret _

/-- A fill submits with the latch it won, and returns only once it submitted. -/
theorem obeys_fulfillOffer {AssetId : Type} (deps : SettleDeps AssetId) (offer : Offer AssetId)
    (deposit : OfferFulfill.OfferDepositOutpoint) (note : FillNote) :
    settleDiscipline.Obeys note (OfferFulfill.fulfillOffer deps.sdk deps.ctx (settlePort true)
      offer deposit) fun _ after => after.sent = true := by
  unfold OfferFulfill.fulfillOffer
  split_ifs
  · trivial
  · trivial
  · refine (quiet_demand id _).obeys_bind fun spendable => ?_
    refine (quiet_demand id _).obeys_bind fun pinned => ?_
    refine Discipline.Obeys.andFinally ?_
      (Discipline.quiet_issue (fun _ => trivial) fun _ _ => rfl)
    refine ⟨trivial, fun won => ?_⟩
    cases won with
    | error error => trivial
    | ok won =>
      cases won with
      | false => trivial
      | true =>
        refine ⟨rfl, fun submitted => ?_⟩
        cases submitted with
        | error error => trivial
        | ok txid => rfl

/-- So does the settle of a packet. -/
theorem obeys_offerSettle {AssetId : Type} (deps : SettleDeps AssetId) (intent : OfferFillIntent)
    (note : FillNote) :
    settleDiscipline.Obeys note (offerSettle deps true intent) fun _ after =>
      after.sent = true := by
  refine (quiet_demand id _).obeys_bind fun raw => ?_
  refine (Discipline.quiet_ofExcept _).obeys_bind fun found => ?_
  refine (quiet_liveOfferOutpoints deps _).obeys_bind fun live => ?_
  refine (Discipline.quiet_ofExcept _).obeys_bind fun deposit => ?_
  exact obeys_fulfillOffer deps _ _ _

/-- And that of a quote. -/
theorem obeys_quotedOfferSettle {AssetId : Type} (deps : SettleDeps AssetId)
    (derivation : OfferDerivation) (emulatorPubkey : BigEndian.Bytes) (intent : QuotedOfferIntent)
    (note : FillNote) :
    settleDiscipline.Obeys note (quotedOfferSettle deps derivation emulatorPubkey true intent)
      fun _ after => after.sent = true := by
  unfold quotedOfferSettle
  split
  · refine (Discipline.quiet_ofExcept _).obeys_bind fun derived => ?_
    refine (quiet_liveOfferOutpoints deps _).obeys_bind fun live => ?_
    refine (Discipline.quiet_ofExcept _).obeys_bind fun measured => ?_
    refine (Discipline.quiet_ofExcept _).obeys_bind fun filled => ?_
    exact obeys_fulfillOffer deps _ _ _
  · trivial

/-- What keeps to the latch in a settle keeps to the latch of its row. -/
theorem obeys_settle {α : Type} {program : Settling α} {note : FillNote}
    {post : α → FillNote → Prop} (h : settleDiscipline.Obeys note program post) :
    (latchDiscipline K).Obeys note (settle program) post := by
  have hrow : (latchDiscipline K).Obeys note (settle program) fun value after =>
      ∃ own : FillNote, after = own ∧ post value own :=
    @Discipline.Obeys.relabel FloatFault α SettleOp (FillOp K) SettleOp.Ans FillOp.Ans
      FillOp.settle (fun _ answer => answer) settleDiscipline (latchDiscipline K) id
      (fun _ _ hm => hm) (fun _ _ _ => rfl) note program post h
  apply hrow.mono
  rintro value after ⟨own, rfl, hpost⟩
  exact hpost

/-- A transition is licensed when the move is; only edges reach it. -/
theorem obeys_transition {note : FillNote} {source target : K.State} {columns : List K.Column}
    (h : target ∈ (K.shape.spec source).edges → mayMove note source target columns) :
    (latchDiscipline K).Obeys note (transition source target columns) fun _ _ => True := by
  unfold transition
  cases hc : transitionCheck K.shape.toStoreShape source target columns with
  | error fault => trivial
  | ok passed => exact ⟨h (transitionCheck_edge K.shape.toStoreShape hc), fun _ => trivial⟩

/-- A failure from a state that is open, or held, is licensed from any notes. -/
theorem free_fail {source : K.State} {reason : String}
    (h : ∀ note, mayMove note source (failTarget K.shape.toStoreShape source)
      [K.shape.failureReason reason]) :
    (latchDiscipline K).Free (fail source reason) := by
  intro note
  unfold fail
  split
  · exact (obeys_transition fun _ => h note).bind fun _ _ _ => trivial
  · trivial

/-- A question is licensed from any notes. -/
theorem free_demand {α : Type} {question : K.Question}
    {read : K.Answer question → Except FloatFault α} :
    (latchDiscipline K).Free (demand question read) :=
  (Discipline.free_issue fun _ => trivial).bind fun _ => Discipline.free_ofExcept _

end IntentSolver.FillRows
