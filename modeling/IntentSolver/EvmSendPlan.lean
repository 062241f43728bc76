import IntentSolver.EvmPort
import Mathlib.Algebra.Order.Ring.Rat

/-!
# What an EVM send does next

The decision is a pure function of the row and of one observation of the world;
the corridor carries it out and writes the state it calls for. A run applies the
planner again and again to whatever was observed. The rules that cost money are
facts about such runs: the ERC20 is locked once, against a funded lockup and a
live quote; a revealed preimage outranks the refund; and the four terminal states
are never left.
-/

namespace IntentSolver.EvmSendPlan

open EvmPort

/-- States of an EVM send. -/
inductive EvmSendSwapState where
  | quoted
  | funded
  | lockingEvm
  | awaitingClaim
  | claiming
  | claimed
  | refundingEvm
  | refunded
  | refused
  | stuck
  deriving DecidableEq

/-- States in which the solver's tokens are out. -/
def EVM_SEND_EXPOSED : List EvmSendSwapState :=
  [.lockingEvm, .awaitingClaim, .claiming, .refundingEvm]

/-- States the planner never moves a row out of. -/
def TERMINAL : List EvmSendSwapState := [.claimed, .refunded, .refused, .stuck]

/-- The planner's view of a row. -/
structure EvmSendPlanRow where
  state : EvmSendSwapState
  /-- From here the client may take the lockup back. -/
  refundLocktime : ℤ
  /-- Height from which the solver may take its lock back. -/
  evmTimeout : ℤ
  /-- Until here the quote binds. -/
  validUntil : ℤ
  minConfirmations : ℤ
  minAgeSeconds : ℚ
  preimage : Option String
  /-- None while no refund is on record. -/
  evmRefundTxid : Option String

/-- What was observed about the world. -/
structure EvmSendObservation where
  arkadeLockupFunded : Bool
  evmLockPresent : Bool
  evmLockReverted : Bool
  evmRefundOutcome : EvmTransactionOutcome
  evmRefundLanded : Bool
  evmLockConfirmations : ℤ
  evmLockAgeSeconds : ℤ
  preimage : Option String
  nowSeconds : ℤ
  evmTimelockHeight : ℤ

/-- What to do next. -/
inductive EvmSendAction where
  | wait
  | lockEvm
  | awaitClaim
  | claimArkade (preimage : String)
  | refundEvm
  | recordRefund
  | refuse (reason : String)
  | stick (reason : String)
  deriving DecidableEq

/-- Decide for a row without a preimage, by its state. -/
def planByState (row : EvmSendPlanRow) (seen : EvmSendObservation) : EvmSendAction :=
  match row.state with
  | .quoted =>
    if !seen.arkadeLockupFunded then
      if row.validUntil ≤ seen.nowSeconds then .refuse "quote expired before the client funded"
      else if row.refundLocktime ≤ seen.nowSeconds then
        .refuse "client never funded the Arkade lockup"
      else .wait
    else if row.validUntil ≤ seen.nowSeconds then .refuse "lockup funded after the quote expired"
    else .lockEvm
  | .funded => .lockEvm
  | .lockingEvm =>
    if !seen.evmLockPresent && seen.evmLockReverted then
      .stick "the ERC20 lock transaction reverted; no lock was created"
    -- Ahead of the presence split: an unreadable node must not withhold the timeout.
    else if row.evmTimeout ≤ seen.evmTimelockHeight then .refundEvm
    else if !seen.evmLockPresent then .wait
    else if row.minConfirmations ≤ seen.evmLockConfirmations ∧
        row.minAgeSeconds ≤ seen.evmLockAgeSeconds then .awaitClaim
    else .wait
  | .awaitingClaim => if row.evmTimeout ≤ seen.evmTimelockHeight then .refundEvm else .wait
  | .refundingEvm =>
    if seen.evmRefundOutcome = .success then .recordRefund
    else if seen.evmRefundOutcome = .reverted ∧ seen.evmLockPresent = true then
      .stick "the ERC20 refund transaction reverted; the lock is still funded"
    else if row.evmRefundTxid = none ∧ seen.evmLockPresent = true ∧
        row.evmTimeout ≤ seen.evmTimelockHeight then .refundEvm
    else if seen.evmRefundLanded then .recordRefund
    else .wait
  | _ => .wait

/-- Decide what the row needs next. A preimage outranks everything but a terminal state. -/
def planEvmSend (row : EvmSendPlanRow) (seen : EvmSendObservation) : EvmSendAction :=
  if row.state ∈ TERMINAL then .wait
  else match seen.preimage.or row.preimage with
    | some preimage =>
      if row.refundLocktime ≤ seen.nowSeconds then
        .stick "preimage revealed but the Arkade refund window has closed"
      else .claimArkade preimage
    | none => planByState row seen

/-! ## What each order presupposes -/

/-- Nobody has revealed a preimage, on the row or in the observation. -/
def Unrevealed (row : EvmSendPlanRow) (seen : EvmSendObservation) : Prop :=
  row.preimage = none ∧ seen.preimage = none

/-- What holds of the row and the observation whenever the planner gives this order. -/
def Presupposes (row : EvmSendPlanRow) (seen : EvmSendObservation) : EvmSendAction → Prop
  | .wait => row.state ∈ TERMINAL ∨ Unrevealed row seen
  | .lockEvm => Unrevealed row seen ∧
      ((row.state = .quoted ∧ seen.arkadeLockupFunded = true ∧ seen.nowSeconds < row.validUntil) ∨
        row.state = .funded)
  | .awaitClaim => Unrevealed row seen ∧ row.state = .lockingEvm
  | .claimArkade preimage => row.state ∉ TERMINAL ∧
      seen.preimage.or row.preimage = some preimage ∧ seen.nowSeconds < row.refundLocktime
  | .refundEvm => Unrevealed row seen ∧ row.evmTimeout ≤ seen.evmTimelockHeight ∧
      (row.state = .lockingEvm ∨ row.state = .awaitingClaim ∨ row.state = .refundingEvm)
  | .recordRefund => Unrevealed row seen ∧ row.state = .refundingEvm ∧
      (seen.evmRefundOutcome = .success ∨ seen.evmRefundLanded = true)
  | .refuse _ => Unrevealed row seen ∧ row.state = .quoted
  | .stick _ => row.state ∉ TERMINAL ∧
      (row.state = .lockingEvm ∨ row.state = .refundingEvm ∨ ¬ Unrevealed row seen)

/-- The states decide without a preimage exactly as their rules say. -/
theorem planByState_presupposes {row : EvmSendPlanRow} {seen : EvmSendObservation}
    (ht : row.state ∉ TERMINAL) (hu : Unrevealed row seen) :
    Presupposes row seen (planByState row seen) := by
  unfold planByState
  split
  next hs =>
    split
    · split
      · exact ⟨hu, hs⟩
      · split
        · exact ⟨hu, hs⟩
        · exact .inr hu
    next hf =>
      split
      · exact ⟨hu, hs⟩
      next hv =>
        simp only [Bool.not_eq_true', Bool.not_eq_false] at hf
        exact ⟨hu, .inl ⟨hs, hf, by omega⟩⟩
  next hs => exact ⟨hu, .inr hs⟩
  next hs =>
    split
    · exact ⟨ht, .inl hs⟩
    · split
      next hh => exact ⟨hu, hh, .inl hs⟩
      · split
        · exact .inr hu
        · split
          · exact ⟨hu, hs⟩
          · exact .inr hu
  next hs =>
    split
    next hh => exact ⟨hu, hh, .inr (.inl hs)⟩
    · exact .inr hu
  next hs =>
    split
    next ho => exact ⟨hu, hs, .inl ho⟩
    · split
      · exact ⟨ht, .inr (.inl hs)⟩
      · split
        next hr => exact ⟨hu, hr.2.2, .inr (.inr hs)⟩
        · split
          next hl => exact ⟨hu, hs, .inr hl⟩
          · exact .inr hu
  · exact .inr hu

/-- Every order of the planner rests on what its rule asks for. -/
theorem planEvmSend_presupposes (row : EvmSendPlanRow) (seen : EvmSendObservation) :
    Presupposes row seen (planEvmSend row seen) := by
  unfold planEvmSend
  split
  next ht => exact .inl ht
  next ht =>
  split
  next preimage ho =>
    split
    · refine ⟨ht, .inr (.inr fun hu => ?_)⟩
      rw [hu.1, hu.2] at ho
      cases ho
    · exact ⟨ht, ho, by omega⟩
  next ho =>
    rw [Option.or_eq_none_iff] at ho
    exact planByState_presupposes ht ⟨ho.2, ho.1⟩

/-- Whatever is observed, a terminal row is left alone. -/
theorem plan_terminal {row : EvmSendPlanRow} (ht : row.state ∈ TERMINAL)
    (seen : EvmSendObservation) : planEvmSend row seen = .wait := if_pos ht

/-! ## Runs of the planner -/

/-- What one step of the corridor meets: the observation it plans on, the one it takes
again before it locks, and how the outside answers. -/
structure StepInput where
  seen : EvmSendObservation
  /-- Taken again inside the lock sequence. -/
  again : EvmSendObservation
  /-- The operator's answer to the approval asked before exposure. -/
  approved : Bool
  /-- Whether the Arkade claim went through. -/
  claimed : Bool
  /-- Txid of the refund broadcast; none when it threw or the process died after the move. -/
  refundTxid : Option String

/-- One applied decision: the row it was taken on, the observation it rests on, the order
and the row it left. -/
structure Applied where
  row : EvmSendPlanRow
  seen : EvmSendObservation
  order : EvmSendAction
  after : EvmSendPlanRow

/-- The row with its state moved. -/
def EvmSendPlanRow.move (row : EvmSendPlanRow) (state : EvmSendSwapState) : EvmSendPlanRow :=
  { row with state := state }

/-- Carry out one order as `step` writes it. -/
def carryOut (row : EvmSendPlanRow) (input : StepInput) : EvmSendAction → Applied
  | .wait => ⟨row, input.seen, .wait, row⟩
  | .refuse reason => ⟨row, input.seen, .refuse reason, row.move .refused⟩
  | .stick reason => ⟨row, input.seen, .stick reason, row.move .stuck⟩
  | .lockEvm =>
    -- Planned again on a fresh observation; only a repeated order is asked approval for.
    if planEvmSend row input.again = .lockEvm ∧ input.approved = true then
      ⟨row, input.again, .lockEvm, row.move .lockingEvm⟩
    else ⟨row, input.seen, .wait, row⟩
  | .awaitClaim => ⟨row, input.seen, .awaitClaim, row.move .awaitingClaim⟩
  | .claimArkade preimage =>
    -- The preimage is persisted before the claim is attempted.
    let claiming := if row.state = .claiming then row
      else { row.move .claiming with preimage := some preimage }
    ⟨row, input.seen, .claimArkade preimage,
      if input.claimed then claiming.move .claimed else claiming⟩
  | .refundEvm => ⟨row, input.seen, .refundEvm,
      { row.move .refundingEvm with evmRefundTxid := row.evmRefundTxid.or input.refundTxid }⟩
  | .recordRefund => ⟨row, input.seen, .recordRefund, row.move .refunded⟩

/-- One step: observe, plan and carry out. -/
def apply (row : EvmSendPlanRow) (input : StepInput) : Applied :=
  carryOut row input (planEvmSend row input.seen)

/-- A whole run, as the decisions it applied. -/
def run : EvmSendPlanRow → List StepInput → List Applied
  | _, [] => []
  | row, input :: rest => apply row input :: run (apply row input).after rest

/-- What carrying out this order leaves behind. -/
def Leaves (row after : EvmSendPlanRow) : EvmSendAction → Prop
  | .wait => after = row
  | .refuse _ => after.state = .refused ∧ after.preimage = row.preimage
  | .stick _ => after.state = .stuck ∧ after.preimage = row.preimage
  | .lockEvm => after.state = .lockingEvm ∧ after.preimage = row.preimage
  | .awaitClaim => after.state = .awaitingClaim ∧ after.preimage = row.preimage
  | .claimArkade preimage => (after.state = .claiming ∨ after.state = .claimed) ∧
      (after.preimage = some preimage ∨ after.preimage = row.preimage ∧ row.state = .claiming)
  | .refundEvm => after.state = .refundingEvm ∧ after.preimage = row.preimage
  | .recordRefund => after.state = .refunded ∧ after.preimage = row.preimage

/-- The deadlines a quote fixed. -/
def EvmSendPlanRow.deadlines (row : EvmSendPlanRow) : ℤ × ℤ × ℤ :=
  (row.refundLocktime, row.evmTimeout, row.validUntil)

/-- One step takes the row it was given, rests on what its order presupposes, leaves what
its order says and never moves a deadline. -/
theorem apply_spec (row : EvmSendPlanRow) (input : StepInput) :
    (apply row input).row = row ∧
      Presupposes row (apply row input).seen (apply row input).order ∧
      Leaves row (apply row input).after (apply row input).order ∧
      (apply row input).after.deadlines = row.deadlines := by
  have hp := planEvmSend_presupposes row input.seen
  unfold apply
  cases ho : planEvmSend row input.seen with
  | lockEvm =>
    rw [ho] at hp
    unfold carryOut
    dsimp only
    split
    next ha =>
      have hp' := planEvmSend_presupposes row input.again
      rw [ha.1] at hp'
      exact ⟨rfl, hp', ⟨rfl, rfl⟩, rfl⟩
    · exact ⟨rfl, .inr hp.1, rfl, rfl⟩
  | claimArkade preimage =>
    rw [ho] at hp
    unfold carryOut
    dsimp only
    refine ⟨rfl, hp, ?_, ?_⟩
    · by_cases hc : row.state = .claiming <;> cases input.claimed <;>
        simp [Leaves, EvmSendPlanRow.move, hc]
    · by_cases hc : row.state = .claiming <;> cases input.claimed <;>
        simp [EvmSendPlanRow.deadlines, EvmSendPlanRow.move, hc]
  | wait =>
    rw [ho] at hp
    exact ⟨rfl, hp, rfl, rfl⟩
  | _ =>
    rw [ho] at hp
    exact ⟨rfl, hp, ⟨rfl, rfl⟩, rfl⟩

/-- Nothing observed moves a terminal row. -/
theorem apply_terminal {row : EvmSendPlanRow} (ht : row.state ∈ TERMINAL) (input : StepInput) :
    (apply row input).after = row ∧ (apply row input).order = .wait := by
  unfold apply
  rw [plan_terminal ht]
  exact ⟨rfl, rfl⟩

/-- No step leads back to a state before the lock. -/
theorem apply_unlocked {row : EvmSendPlanRow} {input : StepInput}
    (h : (apply row input).after.state = .quoted ∨ (apply row input).after.state = .funded) :
    (apply row input).after = row ∧ (apply row input).order = .wait := by
  obtain ⟨-, -, hl, -⟩ := apply_spec row input
  cases ho : (apply row input).order with
  | wait =>
    rw [ho] at hl
    exact ⟨hl, rfl⟩
  | claimArkade preimage =>
    rw [ho] at hl
    obtain ⟨hs | hs, -⟩ := hl <;> simp [hs] at h
  | _ =>
    rw [ho] at hl
    simp [hl.1] at h

/-- The secret is out of the planner's way: on the row, or the row is closed. -/
def Settled (row : EvmSendPlanRow) : Prop := row.preimage ≠ none ∨ row.state ∈ TERMINAL

/-- Once settled, a row stays settled. -/
theorem apply_settled {row : EvmSendPlanRow} (h : Settled row) (input : StepInput) :
    Settled (apply row input).after := by
  obtain hp | ht := h
  · obtain ⟨-, -, hl, -⟩ := apply_spec row input
    refine .inl ?_
    cases ho : (apply row input).order with
    | wait =>
      rw [ho] at hl
      rw [show (apply row input).after = row from hl]
      exact hp
    | claimArkade preimage =>
      rw [ho] at hl
      obtain ⟨-, hn | ⟨hn, -⟩⟩ := hl
      · simp [hn]
      · rw [hn]
        exact hp
    | _ =>
      rw [ho] at hl
      rw [hl.2]
      exact hp
  · rw [(apply_terminal ht input).1]
    exact .inr ht

/-- A row that is claiming has its preimage on record. -/
def Recorded (row : EvmSendPlanRow) : Prop := row.state = .claiming → row.preimage ≠ none

/-- A row still has its preimage on record when a step leaves it claiming. -/
theorem apply_recorded {row : EvmSendPlanRow} (h : Recorded row) (input : StepInput) :
    Recorded (apply row input).after := by
  obtain ⟨-, -, hl, -⟩ := apply_spec row input
  intro hs
  cases ho : (apply row input).order with
  | wait =>
    rw [ho] at hl
    rw [show (apply row input).after = row from hl] at hs ⊢
    exact h hs
  | claimArkade preimage =>
    rw [ho] at hl
    obtain ⟨-, hn | ⟨hn, hc⟩⟩ := hl
    · simp [hn]
    · rw [hn]
      exact h hc
  | _ =>
    rw [ho] at hl
    simp [hl.1] at hs

/-- A preimage in sight settles the row, at once. -/
theorem apply_revealed {row : EvmSendPlanRow} {input : StepInput} (hr : Recorded row)
    (h : ¬ Unrevealed row (apply row input).seen) : Settled (apply row input).after := by
  obtain ⟨-, hp, hl, -⟩ := apply_spec row input
  cases ho : (apply row input).order with
  | wait =>
    rw [ho] at hp
    exact apply_settled (.inr (hp.resolve_right h)) input
  | claimArkade preimage =>
    rw [ho] at hl
    obtain ⟨-, hn | ⟨hn, hc⟩⟩ := hl
    · exact .inl (by simp [hn])
    · exact .inl (hn ▸ hr hc)
  | stick reason =>
    rw [ho] at hl
    exact .inr (by simp [hl.1, TERMINAL])
  | _ =>
    rw [ho] at hp
    exact absurd hp.1 h

/-! ## Rules over whole runs -/

/-- What holds of one applied decision of a run that started from this row. -/
structure Ruled (start : EvmSendPlanRow) (decision : Applied) : Prop where
  deadlines : decision.row.deadlines = start.deadlines
  notFunded : decision.row.state ≠ .funded
  presupposes : Presupposes decision.row decision.seen decision.order
  leaves : Leaves decision.row decision.after decision.order

/-- Every decision of a run keeps its rule. -/
theorem run_ruled {start row : EvmSendPlanRow} (hd : row.deadlines = start.deadlines)
    (hf : row.state ≠ .funded) (inputs : List StepInput) :
    ∀ decision ∈ run row inputs, Ruled start decision := by
  induction inputs generalizing row with
  | nil => simp [run]
  | cons input rest ih =>
    obtain ⟨hrow, hp, hl, hk⟩ := apply_spec row input
    intro decision hm
    rcases List.mem_cons.mp hm with rfl | hm
    · exact ⟨hrow.symm ▸ hd, hrow.symm ▸ hf, hrow.symm ▸ hp, hrow.symm ▸ hl⟩
    · refine ih (hk.trans hd) (fun hs => hf ?_) decision hm
      rw [← (apply_unlocked (.inr hs)).1]
      exact hs

/-- Orders to lock, in a run. -/
def locks (decisions : List Applied) : ℕ :=
  decisions.countP fun decision => decide (decision.order = .lockEvm)

/-- A run orders at most one lock, and none once the row has left `quoted`. -/
theorem run_locks {row : EvmSendPlanRow} (hf : row.state ≠ .funded) (inputs : List StepInput) :
    locks (run row inputs) ≤ if row.state = .quoted then 1 else 0 := by
  induction inputs generalizing row with
  | nil => simp [run, locks]
  | cons input rest ih =>
    obtain ⟨-, hp, hl, -⟩ := apply_spec row input
    have hnf : (apply row input).after.state ≠ .funded := fun hs =>
      hf ((apply_unlocked (.inr hs)).1 ▸ hs)
    have hrest := ih hnf
    unfold locks at hrest ⊢
    rw [run, List.countP_cons]
    by_cases ho : (apply row input).order = .lockEvm
    · rw [ho] at hp hl
      have hq : row.state = .quoted := (hp.2.resolve_right hf).1
      simp only [hl.1, reduceCtorEq, if_false] at hrest
      simp only [ho, hq, decide_true, if_true]
      omega
    · simp only [ho, decide_false, Bool.false_eq_true, if_false]
      refine Nat.le_trans hrest ?_
      by_cases hs : (apply row input).after.state = .quoted
      · have heq : (apply row input).after = row := (apply_unlocked (.inl hs)).1
        exact Nat.le_of_eq (by rw [heq])
      · rw [if_neg hs]
        exact Nat.zero_le _

/-- A settled row is never refunded from. -/
theorem run_settled {row : EvmSendPlanRow} (h : Settled row) (inputs : List StepInput) :
    ∀ decision ∈ run row inputs, decision.order ≠ .refundEvm := by
  induction inputs generalizing row with
  | nil => simp [run]
  | cons input rest ih =>
    intro decision hm
    rcases List.mem_cons.mp hm with rfl | hm
    · obtain ⟨-, hp, -, -⟩ := apply_spec row input
      intro ho
      obtain hs | ht := h
      · rw [ho] at hp
        exact hs hp.1.1
      · rw [(apply_terminal ht input).2] at ho
        cases ho
    · exact ih (apply_settled h input) decision hm

/-- Once a preimage was in sight, no later decision refunds. -/
theorem run_revealed {row : EvmSendPlanRow} (h : Recorded row) (inputs : List StepInput) :
    (run row inputs).Pairwise fun earlier later =>
      ¬ Unrevealed earlier.row earlier.seen → later.order ≠ .refundEvm := by
  induction inputs generalizing row with
  | nil => exact List.Pairwise.nil
  | cons input rest ih =>
    rw [run, List.pairwise_cons]
    refine ⟨fun later hm hr => ?_, ih (apply_recorded h input)⟩
    rw [(apply_spec row input).1] at hr
    exact run_settled (apply_revealed h hr) rest later hm

/-- The planner keeps its rules over every run from a quoted row, whatever is observed:
one lock at most, and only against a funded lockup inside the quote; a claim only with a
preimage and before the refund locktime; a refund only from the timeout on and never once
a preimage is in sight; `refunded` only out of `refundingEvm` on a refund that mined or
provably landed. And no observation moves a terminal row. -/
theorem planner_keeps_its_rules (row : EvmSendPlanRow) (hq : row.state = .quoted)
    (inputs : List StepInput) :
    locks (run row inputs) ≤ 1 ∧
    (∀ decision ∈ run row inputs, decision.order = .lockEvm →
      decision.seen.arkadeLockupFunded = true ∧ decision.seen.nowSeconds < row.validUntil) ∧
    (∀ decision ∈ run row inputs, ∀ preimage, decision.order = .claimArkade preimage →
      decision.seen.preimage.or decision.row.preimage = some preimage ∧
        decision.seen.nowSeconds < row.refundLocktime) ∧
    (∀ decision ∈ run row inputs, decision.order = .refundEvm →
      row.evmTimeout ≤ decision.seen.evmTimelockHeight ∧
        Unrevealed decision.row decision.seen) ∧
    ((run row inputs).Pairwise fun earlier later =>
      ¬ Unrevealed earlier.row earlier.seen → later.order ≠ .refundEvm) ∧
    (∀ decision ∈ run row inputs, decision.after.state = .refunded →
      decision.row.state ≠ .refunded → decision.row.state = .refundingEvm ∧
        (decision.seen.evmRefundOutcome = .success ∨ decision.seen.evmRefundLanded = true)) ∧
    ∀ (terminal : EvmSendPlanRow) (input : StepInput), terminal.state ∈ TERMINAL →
      (apply terminal input).after = terminal := by
  have hf : row.state ≠ .funded := by simp [hq]
  have hruled := run_ruled rfl hf inputs
  refine ⟨?_, ?_, ?_, ?_, ?_, ?_, fun terminal input ht => (apply_terminal ht input).1⟩
  · have hl := run_locks hf inputs
    rwa [if_pos hq] at hl
  · intro decision hm ho
    obtain ⟨hd, hn, hp, -⟩ := hruled decision hm
    rw [ho] at hp
    obtain ⟨-, hfund, hv⟩ := hp.2.resolve_right hn
    simp only [EvmSendPlanRow.deadlines, Prod.mk.injEq] at hd
    exact ⟨hfund, hd.2.2 ▸ hv⟩
  · intro decision hm preimage ho
    obtain ⟨hd, -, hp, -⟩ := hruled decision hm
    rw [ho] at hp
    simp only [EvmSendPlanRow.deadlines, Prod.mk.injEq] at hd
    exact ⟨hp.2.1, hd.1 ▸ hp.2.2⟩
  · intro decision hm ho
    obtain ⟨hd, -, hp, -⟩ := hruled decision hm
    rw [ho] at hp
    simp only [EvmSendPlanRow.deadlines, Prod.mk.injEq] at hd
    exact ⟨hd.2.1 ▸ hp.2.1, hp.1⟩
  · exact run_revealed (fun hc => absurd hc (by simp [hq])) inputs
  · intro decision hm ha hn
    obtain ⟨-, -, hp, hl⟩ := hruled decision hm
    cases ho : decision.order with
    | recordRefund =>
      rw [ho] at hp
      exact hp.2
    | wait =>
      rw [ho] at hl
      exact absurd ((congrArg EvmSendPlanRow.state hl).symm.trans ha) hn
    | claimArkade preimage =>
      rw [ho] at hl
      obtain ⟨hs | hs, -⟩ := hl <;> simp [hs] at ha
    | _ =>
      rw [ho] at hl
      simp [hl.1] at ha

/-- A quoted row that is funded, locked and, past its timeout, refunded; the first broadcast
of the refund fails after the move, and the next step sends it again. -/
theorem planner_keeps_its_rules_sample :
    let row : EvmSendPlanRow := ⟨.quoted, 2000, 100, 1000, 3, 60, none, none⟩
    let seen (present : Bool) (outcome : EvmTransactionOutcome) (height : ℤ)
        (refundTxid : Option String) : StepInput :=
      let observed : EvmSendObservation :=
        ⟨true, present, false, outcome, false, 3, 90, none, 500, height⟩
      ⟨observed, observed, true, false, refundTxid⟩
    let inputs := [seen false .pending 10 none, seen true .pending 20 none,
      seen true .pending 100 none, seen true .pending 101 (some "refund"),
      seen false .success 110 none]
    (run row inputs).map (fun decision => (decision.order, decision.after.state)) =
      [(.lockEvm, .lockingEvm), (.awaitClaim, .awaitingClaim), (.refundEvm, .refundingEvm),
        (.refundEvm, .refundingEvm), (.recordRefund, .refunded)] ∧ locks (run row inputs) ≤ 1 := by
  intro row seen inputs
  exact ⟨by decide, (planner_keeps_its_rules row rfl inputs).1⟩

end IntentSolver.EvmSendPlan
