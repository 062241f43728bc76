import IntentSolver.EvmReceive
import IntentSolver.ProgramTraces
import Mathlib.Tactic.NormNum

/-!
# Runs of an EVM receive

A run applies the planner step after step from the quote on, whatever is observed and
wherever a step stops short. The funding order rests on the full acceptance policy: the
one state that funds without asking is never entered. A preimage in sight rules the
refund out, and a row is closed as claimed on a mined claim only. The two numbers the
policy compares are proven against the contract's past, and what they prove is said here
of any chain history.
-/

namespace IntentSolver.EvmReceiveRuns

open EvmPort EvmReceivePlan EvmReceive WorkerProgram ProgramTraces

/-! ## What each order rests on -/

/-- The acceptance policy of a client lock, met on one observation. -/
structure Fundable (row : EvmReceivePlanRow) (seen : EvmReceiveObservation) : Prop where
  present : seen.evmLockPresent = true
  confirmations : row.minConfirmations ≤ seen.evmLockConfirmations
  age : row.minAgeSeconds ≤ seen.evmLockAgeSeconds
  fresh : seen.nowSeconds < row.validUntil
  window : seen.evmTimelockHeight + 60 < row.evmTimeout

/-- No preimage on the row or in the observation. -/
def Unrevealed (row : EvmReceivePlanRow) (seen : EvmReceiveObservation) : Prop :=
  row.preimage = none ∧ seen.preimage = none

/-- What holds of the row and the observation whenever the planner gives this order. -/
def Grounds (row : EvmReceivePlanRow) (seen : EvmReceiveObservation) : EvmReceiveAction → Prop
  | .fundArkade => row.state = .locked ∨ Fundable row seen
  | .refundArkade => Unrevealed row seen
  | .claimEvm _ => seen.evmTimelockHeight < row.evmTimeout ∧ row.evmClaimTxid = none
  | .recordClaim => row.evmClaimTxid ≠ none ∧ seen.evmClaimOutcome = .success
  | _ => True

/-- An open fund window in numbers. -/
theorem fundWindow_open {height evmTimeout : ℤ}
    (h : ¬ evmReceiveFundWindowClosed height evmTimeout = true) : height + 60 < evmTimeout := by
  have hn : ¬ evmTimeout ≤ height + 60 := fun hl => h (decide_eq_true hl)
  omega

/-- Once a preimage is known, only the claim and its outcome are left to decide on. -/
theorem planRevealed_grounds (row : EvmReceivePlanRow) (seen : EvmReceiveObservation)
    (preimage : String) : Grounds row seen (planRevealed row seen preimage) := by
  unfold planRevealed
  split
  next hs => exact hs
  split
  · trivial
  next ht =>
    split
    · split <;> trivial
    next hc => exact ⟨by omega, not_not.mp hc⟩

/-- Without a preimage the states decide, and only the state nothing leads into funds
without the full policy. -/
theorem planByState_grounds {row : EvmReceivePlanRow} {seen : EvmReceiveObservation}
    (hu : Unrevealed row seen) : Grounds row seen (planByState row seen) := by
  unfold planByState
  split
  case h_1 _ | h_2 _ =>
    split
    · split
      · trivial
      · split <;> trivial
    next hl =>
    split
    · trivial
    next hv =>
    split
    · trivial
    next hd =>
    split
    · trivial
    next hw =>
      push Not at hd
      simp only [Bool.not_eq_true', Bool.not_eq_false] at hl
      exact .inr ⟨hl, hd.1, hd.2, by omega, fundWindow_open hw⟩
  next hs => exact .inl hs
  next hs => split <;> trivial
  next hs =>
    split
    · exact hu
    · trivial
  next hs =>
    split
    · exact hu
    · trivial
  next => trivial

/-- Every order of the planner rests on its grounds. -/
theorem planEvmReceive_grounds (row : EvmReceivePlanRow) (seen : EvmReceiveObservation) :
    Grounds row seen (planEvmReceive row seen) := by
  unfold planEvmReceive
  split
  · trivial
  next ht =>
  split
  next preimage _ => exact planRevealed_grounds row seen preimage
  next ho =>
    rw [Option.or_eq_none_iff] at ho
    exact planByState_grounds ⟨ho.2, ho.1⟩

/-! ## Runs of the planner -/

/-- What one step of the corridor meets: the observation it plans on, the height it reads
again before it funds, and how far its order got. -/
structure StepInput where
  seen : EvmReceiveObservation
  /-- The timelock height right before the funding. -/
  again : ℤ
  /-- Whether the step's compare-and-swap went through. -/
  moved : Bool
  /-- Txid of a claim that was broadcast and recorded. -/
  claimTxid : Option String
  /-- Whether the Arkade refund and its closing transition went through. -/
  refunded : Bool

/-- One applied decision: the row it was taken on, the observation it rests on, the order
and the row it left. -/
structure Applied where
  row : EvmReceivePlanRow
  seen : EvmReceiveObservation
  order : EvmReceiveAction
  after : EvmReceivePlanRow

/-- The row with its state moved. -/
def move (row : EvmReceivePlanRow) (state : EvmReceiveSwapState) : EvmReceivePlanRow :=
  { row with state := state }

/-- The row a claim is broadcast for: moved with its preimage first, unless it was
claiming already; none where the move failed. -/
def claiming (row : EvmReceivePlanRow) (moved : Bool) (preimage : String) :
    Option EvmReceivePlanRow :=
  if row.state = .claiming then some row
  else if moved then some { move row .claiming with preimage := some preimage }
  else none

/-- The row an order leaves, as `step` writes it. -/
def carryOut (row : EvmReceivePlanRow) (input : StepInput) : EvmReceiveAction → EvmReceivePlanRow
  | .wait => row
  | .refuse _ => if input.moved then move row .refused else row
  | .stick _ => if input.moved then move row .stuck else row
  | .fundArkade =>
    if input.moved then
      if evmReceiveFundWindowClosed input.again row.evmTimeout then move row .refused
      else move row .fundingArkade
    else row
  | .awaitClaim => if input.moved then move row .awaitingClaim else row
  | .claimEvm preimage =>
    match claiming row input.moved preimage with
    | none => row
    | some current => { current with evmClaimTxid := input.claimTxid.or current.evmClaimTxid }
  | .recordClaim =>
    -- The transition names its own source and not the row's.
    if input.moved ∧ row.state = .claiming then move row .claimed else row
  | .refundArkade =>
    if row.state = .refundingArkade ∨ input.moved then
      if input.refunded then move row .refunded else move row .refundingArkade
    else row

/-- One step: plan on the observation and carry the order out. -/
def apply (row : EvmReceivePlanRow) (input : StepInput) : Applied :=
  ⟨row, input.seen, planEvmReceive row input.seen,
    carryOut row input (planEvmReceive row input.seen)⟩

/-- A whole run, as the decisions it applied. -/
def run : EvmReceivePlanRow → List StepInput → List Applied
  | _, [] => []
  | row, input :: rest => apply row input :: run (apply row input).after rest

/-- What carrying out this order may leave behind. -/
def Leaves (row after : EvmReceivePlanRow) (order : EvmReceiveAction) : Prop :=
  after.state = row.state ∨
    (after.state ≠ .awaitingLock ∧ after.state ≠ .locked ∧
      (after.state = .claimed → order = .recordClaim))

/-- No order leads into a state that waits for the lock, and only a recorded claim
closes a row as claimed. -/
theorem carryOut_leaves (row : EvmReceivePlanRow) (input : StepInput)
    (order : EvmReceiveAction) : Leaves row (carryOut row input order) order := by
  unfold Leaves
  cases order with
  | wait => exact .inl rfl
  | fundArkade =>
    simp only [carryOut, move]
    split_ifs <;> simp
  | claimEvm preimage =>
    simp only [carryOut, claiming, move]
    split
    · exact .inl rfl
    next current hc =>
      split_ifs at hc <;> cases hc <;> simp
  | recordClaim =>
    simp only [carryOut, move]
    split_ifs <;> simp
  | refundArkade =>
    simp only [carryOut, move]
    split_ifs <;> simp
  | _ =>
    simp only [carryOut, move]
    split_ifs <;> simp

/-! ## Rules over whole runs -/

/-- What holds of one applied decision. -/
structure Ruled (decision : Applied) : Prop where
  /-- Sats are committed against a proven lock that does not expire soon. -/
  fund : decision.order = .fundArkade → Fundable decision.row decision.seen
  /-- A preimage in sight rules the refund out. -/
  refund : decision.order = .refundArkade → Unrevealed decision.row decision.seen
  /-- A claim is sent while it can land and while none is on record. -/
  claim : ∀ preimage, decision.order = .claimEvm preimage →
    decision.seen.evmTimelockHeight < decision.row.evmTimeout ∧ decision.row.evmClaimTxid = none
  /-- A row is closed as claimed on a mined claim of its own. -/
  claimed : decision.row.state ≠ .claimed → decision.after.state = .claimed →
    decision.row.evmClaimTxid ≠ none ∧ decision.seen.evmClaimOutcome = .success

/-- The row does not wait for a lock that is to be looked at. -/
def Entered (row : EvmReceivePlanRow) : Prop := row.state ≠ .awaitingLock ∧ row.state ≠ .locked

/-- One step from such a row keeps the rules and leaves such a row. -/
theorem apply_ruled {row : EvmReceivePlanRow} (h : Entered row) (input : StepInput) :
    Ruled (apply row input) ∧ Entered (apply row input).after := by
  have hg := planEvmReceive_grounds row input.seen
  have hl := carryOut_leaves row input (planEvmReceive row input.seen)
  refine ⟨⟨?_, ?_, ?_, ?_⟩, ?_⟩
  · intro ho
    change planEvmReceive row input.seen = _ at ho
    rw [ho] at hg
    exact hg.resolve_left h.2
  · intro ho
    change planEvmReceive row input.seen = _ at ho
    rw [ho] at hg
    exact hg
  · intro preimage ho
    change planEvmReceive row input.seen = _ at ho
    rw [ho] at hg
    exact hg
  · intro hn hc
    change row.state ≠ _ at hn
    obtain hs | ⟨-, -, hr⟩ := hl
    · exact absurd (hs.symm.trans hc) hn
    · rw [hr hc] at hg
      exact hg
  · obtain hs | ⟨ha, hk, -⟩ := hl
    · unfold Entered apply
      dsimp only
      rw [hs]
      exact h
    · exact ⟨ha, hk⟩

/-- Every decision of a run keeps the rules. -/
theorem run_ruled {row : EvmReceivePlanRow} (h : Entered row) (inputs : List StepInput) :
    ∀ decision ∈ run row inputs, Ruled decision := by
  induction inputs generalizing row with
  | nil =>
    intro decision hm
    cases hm
  | cons input rest ih =>
    obtain ⟨hr, ha⟩ := apply_ruled h input
    intro decision hm
    obtain rfl | hm := List.mem_cons.mp hm
    · exact hr
    · exact ih ha decision hm

/-! ## From the code's steps to planned ones -/

/-- What one action of a worker alone on its row does to the stored row: compare-and-swaps
and patches write it, everything else leaves it. -/
def Writes : (op : EvmReceiveOp) → op.Ans → EvmReceiveSwapRow → EvmReceiveSwapRow → Prop
  | .get, shown, row, next => shown = row ∧ next = row
  | .update source target columns, won, row, next =>
    ∃ now, (won = true ∧
        updateWhere evmReceiveShape now source target columns row = some next) ∨
      (won = false ∧ next = row)
  | .patch columns, _, row, next => ∃ now, next = patchRow evmReceiveShape now columns row
  | _, _, row, next => next = row

/-- What a trace does to it. -/
def Stored : Trace EvmReceiveOp.Ans → EvmReceiveSwapRow → EvmReceiveSwapRow → Prop
  | [], row, after => after = row
  | step :: rest, row, after => ∃ next, Writes step.1 step.2 row next ∧ Stored rest next after

/-- What a trace stores, its two parts store one after the other. -/
theorem stored_append {first second : Trace EvmReceiveOp.Ans} {row after : EvmReceiveSwapRow}
    (h : Stored (first ++ second) row after) :
    ∃ middle, Stored first row middle ∧ Stored second middle after := by
  induction first generalizing row with
  | nil => exact ⟨row, rfl, h⟩
  | cons step rest ih =>
    obtain ⟨next, hw, hs⟩ := h
    obtain ⟨middle, hf, hm⟩ := ih hs
    exact ⟨middle, ⟨next, hw, hf⟩, hm⟩

/-- Actions that leave the row alone. -/
def Reads (op : EvmReceiveOp) : Prop :=
  ∀ (answer : op.Ans) (row next : EvmReceiveSwapRow), Writes op answer row next → next = row

/-- Reading the row leaves it alone. -/
theorem reads_get : Reads .get := fun _ _ _ hw => hw.2

/-- A question leaves the row alone. -/
theorem reads_read (question : EvmReceiveQuestion) : Reads (.read question) :=
  fun _ _ _ hw => hw

/-- Broadcasting the claim leaves the row alone. -/
theorem reads_broadcastClaim (preimage : String) : Reads (.broadcastClaim preimage) :=
  fun _ _ _ hw => hw

/-- Funding the lockup leaves the row alone. -/
theorem reads_fund (address : String) (sats : ℤ) : Reads (.fund address sats) :=
  fun _ _ _ hw => hw

/-- Refunding the lockup leaves the row alone. -/
theorem reads_refundArkade : Reads .refundArkade := fun _ _ _ hw => hw

/-- A worker that only reads. -/
def readDiscipline : Discipline EvmReceiveOp.Ans where
  Note := Unit
  fresh := ()
  may _ op := Reads op
  learn _ _ _ := ()

/-- A trace of such actions leaves the row alone. -/
theorem stored_reads {trace : Trace EvmReceiveOp.Ans} {row after : EvmReceiveSwapRow}
    (hr : ∀ step ∈ trace, Reads step.1) (h : Stored trace row after) : after = row := by
  induction trace generalizing row with
  | nil => exact h
  | cons step rest ih =>
    obtain ⟨next, hw, hs⟩ := h
    have hn := hr step List.mem_cons_self step.2 row next hw
    rw [hn] at hs
    exact ih (fun other hm => hr other (List.mem_cons_of_mem _ hm)) hs

/-- Observing leaves the row alone, wherever it stops. -/
theorem observe_reads {row stored after : EvmReceiveSwapRow} {trace : Trace EvmReceiveOp.Ans}
    (hb : Begins (observe row) trace) (h : Stored trace stored after) : after = stored := by
  have hread : ∀ op, Reads op → readDiscipline.Idle (issue op) :=
    fun op hr => Discipline.idle_issue fun _ => ⟨hr, fun _ => rfl⟩
  have hidle : readDiscipline.Idle (observe row) :=
    idle_observe_of
      (fun question => (hread _ (reads_read question)).bind Discipline.idle_ofExcept)
      (fun txid => hread _ fun _ _ _ hw => hw) (hread _ fun _ _ _ hw => hw) row
  exact stored_reads (idle_licensed hidle hb ()) h

section Blocks

variable {row after : EvmReceiveSwapRow} {trace : Trace EvmReceiveOp.Ans} {α β : Type}

/-- An action that reads, and what follows it. -/
theorem begins_read {op : EvmReceiveOp} (hr : Reads op) {rest : op.Ans → Prog β}
    (hb : Begins ((issue op).bind rest) trace) (hs : Stored trace row after) :
    after = row ∨ ∃ answer later, Writes op answer row row ∧ Begins (rest answer) later ∧
      Stored later row after := by
  obtain hn | ⟨answer, later, ht, hl⟩ := hb
  · rw [hn] at hs
    exact .inl hs
  · rw [ht] at hs
    obtain ⟨next, hw, hs⟩ := hs
    have hn := hr answer row next hw
    rw [hn] at hw hs
    exact .inr ⟨answer, later, hw, hl, hs⟩

/-- A stored result, and what follows it. -/
theorem begins_ofExcept {result : Except EvmFault α} {rest : α → Prog β}
    (hb : Begins ((Program.ofExcept result).bind rest) trace) (hs : Stored trace row after) :
    after = row ∨ ∃ value, Begins (rest value) trace := by
  cases result with
  | ok value => exact .inr ⟨value, hb⟩
  | error error =>
    rw [show trace = [] from hb] at hs
    exact .inl hs

/-- A question, and what follows it. -/
theorem begins_ask {question : EvmReceiveQuestion} {rest : question.Answer → Prog β}
    (hb : Begins ((ask question).bind rest) trace) (hs : Stored trace row after) :
    after = row ∨ ∃ value later, Begins (rest value) later ∧ Stored later row after := by
  have hk : (ask question).bind rest = (issue (.read question)).bind fun answer =>
      (Program.ofExcept answer).bind rest := by
    unfold ask issue Program.issue
    rfl
  rw [hk] at hb
  obtain hn | ⟨answer, later, -, hl, hs⟩ := begins_read (reads_read question) hb hs
  · exact .inl hn
  · obtain hn | ⟨value, hv⟩ := begins_ofExcept hl hs
    · exact .inl hn
    · exact .inr ⟨value, later, hv, hs⟩

/-- A transition, and what follows it once it went through. -/
theorem begins_transition {id : String} {source target : EvmReceiveSwapState}
    {columns : List EvmReceiveColumn} {rest : Unit → Prog β}
    (hb : Begins ((transition id source target columns).bind rest) trace)
    (hs : Stored trace row after) :
    after = row ∨ row.state = source ∧ ∃ now later,
      Begins (rest ()) later ∧
      Stored later (assignAll evmReceiveShape columns (evmReceiveShape.stamp target now row))
        after := by
  obtain hn | ⟨won, later, ht, hl⟩ := hb
  · rw [hn] at hs
    exact .inl hs
  rw [ht] at hs
  obtain ⟨next, ⟨now, ⟨hw, hu⟩ | ⟨hw, hn⟩⟩, hs⟩ := hs
  · dsimp only at hw
    rw [hw] at hl
    unfold updateWhere at hu
    split at hu
    next hst =>
      cases hu
      exact .inr ⟨hst, now, later, hl, hs⟩
    · cases hu
  · dsimp only at hw
    rw [hw] at hl
    rw [hn, show later = [] from hl] at hs
    exact .inl hs

/-- A patch, and what follows it. -/
theorem begins_patch {columns : List EvmReceiveColumn} {rest : Unit → Prog β}
    (hb : Begins ((patch columns).bind rest) trace) (hs : Stored trace row after) :
    after = row ∨ ∃ now later, Begins (rest ()) later ∧
      Stored later (patchRow evmReceiveShape now columns row) after := by
  obtain hn | ⟨answer, later, ht, hl⟩ := hb
  · rw [hn] at hs
    exact .inl hs
  · rw [ht] at hs
    obtain ⟨next, ⟨now, hn⟩, hs⟩ := hs
    rw [hn] at hs
    exact .inr ⟨now, later, hl, hs⟩

/-- A returned value issues nothing. -/
theorem begins_ret {value : α} (hb : Begins (.ret value : Prog α) trace)
    (hs : Stored trace row after) : after = row := by
  rw [show trace = [] from hb] at hs
  exact hs

end Blocks

/-- The planner's view after a transition. -/
theorem plan_transition (row : EvmReceiveSwapRow) (target : EvmReceiveSwapState) (now : ℤ)
    {columns : List EvmReceiveColumn}
    (hc : columns = [] ∨ (∃ reason, columns = [.failureReason reason]) ∨
      ∃ txid, columns = [.refundArkTxid txid]) :
    (assignAll evmReceiveShape columns (evmReceiveShape.stamp target now row)).plan =
      move row.plan target := by
  obtain rfl | ⟨reason, rfl⟩ | ⟨txid, rfl⟩ := hc <;> rfl

/-- The order carried out on this observation leaves this row, for some way it may go. -/
def AppliedTo (row after : EvmReceiveSwapRow) (order : EvmReceiveAction)
    (seen : EvmReceiveObservation) : Prop :=
  ∃ input : StepInput, input.seen = seen ∧ after.plan = carryOut row.plan input order

variable {row after : EvmReceiveSwapRow} {trace : Trace EvmReceiveOp.Ans}
  {seen : EvmReceiveObservation}

/-- A step that did not get anywhere. -/
theorem appliedTo_stopped {order : EvmReceiveAction}
    (hc : ∀ input : StepInput, input.moved = false → input.claimTxid = none →
      input.refunded = false → carryOut row.plan input order = row.plan) (h : after = row) :
    AppliedTo row after order seen :=
  ⟨⟨seen, 0, false, none, false⟩, rfl, by rw [h, hc _ rfl rfl rfl]⟩

/-- An order that is one transition. -/
theorem transition_applied {order : EvmReceiveAction} {target : EvmReceiveSwapState}
    {columns : List EvmReceiveColumn} {value : Bool}
    (hc : columns = [] ∨ (∃ reason, columns = [.failureReason reason]) ∨
      ∃ txid, columns = [.refundArkTxid txid])
    (hm : ∀ input : StepInput, carryOut row.plan input order =
      if input.moved then move row.plan target else row.plan)
    (hb : Begins ((transition row.id row.state target columns).bind fun _ => .ret value) trace)
    (hs : Stored trace row after) : AppliedTo row after order seen := by
  obtain hn | ⟨-, now, later, hl, hs⟩ := begins_transition hb hs
  · refine appliedTo_stopped (fun input hi _ _ => ?_) hn
    rw [hm, hi]
    rfl
  · refine ⟨⟨seen, 0, true, none, false⟩, rfl, ?_⟩
    rw [begins_ret hl hs, plan_transition row target now hc, hm]
    rfl
/-- The funding itself is not the planner's to see. -/
theorem fund_keeps_plan {moved : EvmReceiveSwapRow}
    (hb : Begins (do
      let current ← issue .get
      let txid ← Program.ofExcept (← issue (.fund current.lockupAddress current.payoutSats))
      patch [.fundArkTxid txid]
      return true : Prog Bool) trace) (hs : Stored trace moved after) :
    after.plan = moved.plan := by
  obtain hn | ⟨shown, later, -, hl, hs⟩ := begins_read reads_get hb hs
  · rw [hn]
  obtain hn | ⟨answer, later, -, hl, hs⟩ := begins_read (reads_fund _ _) hl hs
  · rw [hn]
  obtain hn | ⟨txid, hl⟩ := begins_ofExcept hl hs
  · rw [hn]
  obtain hn | ⟨now, later, hl, hs⟩ := begins_patch hl hs
  · rw [hn]
  · rw [begins_ret hl hs]
    rfl

/-- However far the funding gets, the row is left as the planner's order leaves it. -/
theorem fundArkade_applied (hb : Begins (fundArkade row) trace) (hs : Stored trace row after) :
    AppliedTo row after .fundArkade seen := by
  have hstop : after = row → AppliedTo row after .fundArkade seen := by
    refine appliedTo_stopped fun input hi _ _ => ?_
    simp only [carryOut, hi, Bool.false_eq_true, if_false]
  obtain hn | ⟨height, later, hl, hs⟩ := begins_ask hb hs
  · exact hstop hn
  by_cases hc : evmReceiveFundWindowClosed height row.evmTimeout = true
  · rw [if_pos hc] at hl
    obtain hn | ⟨-, now, later, hl, hs⟩ := begins_transition hl hs
    · exact hstop hn
    · refine ⟨⟨seen, height, true, none, false⟩, rfl, ?_⟩
      rw [begins_ret hl hs, plan_transition row _ now (.inr (.inl ⟨_, rfl⟩))]
      exact (if_pos hc).symm
  · rw [if_neg hc] at hl
    obtain hn | ⟨-, now, later, hl, hs⟩ := begins_transition hl hs
    · exact hstop hn
    · refine ⟨⟨seen, height, true, none, false⟩, rfl, ?_⟩
      rw [fund_keeps_plan hl hs, plan_transition row _ now (.inl rfl)]
      exact (if_neg hc).symm

/-- Broadcasting and recording a claim, once the row is claiming. -/
theorem claim_broadcast {current : EvmReceiveSwapRow} {preimage : String}
    (hb : Begins (do
      let _ ← issue .get
      let txid ← Program.ofExcept (← issue (.broadcastClaim preimage))
      patch [.evmClaimTxid txid]
      return false : Prog Bool) trace) (hs : Stored trace current after) :
    ∃ txid : Option String, after.plan =
      { current.plan with evmClaimTxid := txid.or current.plan.evmClaimTxid } := by
  obtain hn | ⟨shown, later, -, hl, hs⟩ := begins_read reads_get hb hs
  · exact ⟨none, by rw [hn]; rfl⟩
  obtain hn | ⟨answer, later, -, hl, hs⟩ := begins_read (reads_broadcastClaim _) hl hs
  · exact ⟨none, by rw [hn]; rfl⟩
  obtain hn | ⟨txid, hl⟩ := begins_ofExcept hl hs
  · exact ⟨none, by rw [hn]; rfl⟩
  obtain hn | ⟨now, later, hl, hs⟩ := begins_patch hl hs
  · exact ⟨none, by rw [hn]; rfl⟩
  · refine ⟨some txid, ?_⟩
    rw [begins_ret hl hs]
    rfl

/-- However far the claim gets, the row is left as the planner's order leaves it. -/
theorem claimEvm_applied {preimage : String} (hb : Begins (claimEvm row preimage) trace)
    (hs : Stored trace row after) : AppliedTo row after (.claimEvm preimage) seen := by
  unfold claimEvm at hb
  by_cases hc : row.state = .claiming
  · rw [if_neg (not_not.mpr hc)] at hb
    obtain ⟨txid, ht⟩ := claim_broadcast hb hs
    refine ⟨⟨seen, 0, false, txid, false⟩, rfl, ?_⟩
    have hk : claiming row.plan false preimage = some row.plan := if_pos hc
    simp only [carryOut, hk]
    exact ht
  · rw [if_pos hc] at hb
    have hk : ∀ moved, claiming row.plan moved preimage =
        if moved then some { move row.plan .claiming with preimage := some preimage }
        else none := fun moved => if_neg hc
    obtain hn | ⟨-, now, later, hl, hs⟩ := begins_transition hb hs
    · refine appliedTo_stopped (fun input hi _ _ => ?_) hn
      simp only [carryOut, hk, hi, Bool.false_eq_true, if_false]
    · obtain ⟨txid, ht⟩ := claim_broadcast hl hs
      refine ⟨⟨seen, 0, true, txid, false⟩, rfl, ?_⟩
      simp only [carryOut, hk, if_true]
      exact ht

/-- Taking the sats back, once the row is refunding. -/
theorem refund_closed {current : EvmReceiveSwapRow}
    (hb : Begins (do
      let shown ← issue .get
      if (← ask .findLockups) = 0 then
        throw (EvmFault.error ("no spendable output at the lockup for " ++ shown.id ++
          " - nothing to refund"))
      let txid ← Program.ofExcept (← issue .refundArkade)
      transition row.id .refundingArkade .refunded [.refundArkTxid txid]
      return false : Prog Bool) trace) (hs : Stored trace current after) :
    after.plan = current.plan ∨ after.plan = move current.plan .refunded := by
  obtain hn | ⟨shown, later, -, hl, hs⟩ := begins_read reads_get hb hs
  · exact .inl (by rw [hn])
  obtain hn | ⟨outputs, later, hl, hs⟩ := begins_ask hl hs
  · exact .inl (by rw [hn])
  split at hl
  · rw [show later = [] from hl] at hs
    exact .inl (by rw [show after = current from hs])
  obtain hn | ⟨answer, later, -, hl, hs⟩ := begins_read reads_refundArkade hl hs
  · exact .inl (by rw [hn])
  obtain hn | ⟨txid, hl⟩ := begins_ofExcept hl hs
  · exact .inl (by rw [hn])
  obtain hn | ⟨-, now, later, hl, hs⟩ := begins_transition hl hs
  · exact .inl (by rw [hn])
  · refine .inr ?_
    rw [begins_ret hl hs, plan_transition current _ now (.inr (.inr ⟨_, rfl⟩))]

/-- However far the refund gets, the row is left as the planner's order leaves it. -/
theorem refundArkade_applied (hb : Begins (refundArkade row) trace) (hs : Stored trace row after) :
    AppliedTo row after .refundArkade seen := by
  unfold refundArkade at hb
  by_cases hc : row.state = .refundingArkade
  · rw [if_neg (not_not.mpr hc)] at hb
    have hm : move row.plan .refundingArkade = row.plan := by
      unfold move
      rw [← hc]
      rfl
    obtain hp | hp := refund_closed hb hs
    · refine ⟨⟨seen, 0, false, none, false⟩, rfl, ?_⟩
      rw [hp]
      exact (hm.symm.trans (if_neg Bool.false_ne_true).symm).trans (if_pos (.inl hc)).symm
    · refine ⟨⟨seen, 0, false, none, true⟩, rfl, ?_⟩
      rw [hp]
      exact (if_pos rfl).symm.trans (if_pos (.inl hc)).symm
  · rw [if_pos hc] at hb
    obtain hn | ⟨-, now, later, hl, hs⟩ := begins_transition hb hs
    · refine appliedTo_stopped (fun input hi _ _ => ?_) hn
      have hf : ¬ (row.plan.state = .refundingArkade ∨ input.moved = true) := by
        rw [hi]
        simp [EvmReceiveSwapRow.plan, hc]
      simp only [carryOut, if_neg hf]
    · have ht := plan_transition row .refundingArkade now (.inl rfl)
      obtain hp | hp := refund_closed hl hs
      · refine ⟨⟨seen, 0, true, none, false⟩, rfl, ?_⟩
        rw [hp, ht]
        simp [carryOut]
      · refine ⟨⟨seen, 0, true, none, true⟩, rfl, ?_⟩
        rw [hp, ht]
        simp [carryOut, move]

/-- Wherever a step of the code stops, a worker alone on its row has either not yet
observed anything or has left the row as the planner's step on its observation says. -/
theorem step_applies (hb : Begins (step row) trace) (hs : Stored trace row after) :
    after = row ∨ ∃ seen first, Yields (observe row) first (.ok seen) ∧
      ∃ input : StepInput, input.seen = seen ∧ after.plan = (apply row.plan input).after := by
  obtain hb | ⟨seen, first, second, ht, hy, hb⟩ := begins_bind hb
  · exact .inl (observe_reads hb hs)
  rw [ht] at hs
  obtain ⟨middle, hf, hs⟩ := stored_append hs
  rw [observe_reads hy.begins hf] at hs
  suffices h : AppliedTo row after (planEvmReceive row.plan seen) seen by
    obtain ⟨input, hi, ha⟩ := h
    refine .inr ⟨seen, first, hy, input, hi, ?_⟩
    unfold apply
    rw [hi]
    exact ha
  cases ho : planEvmReceive row.plan seen with
  | wait =>
    rw [ho] at hb
    exact appliedTo_stopped (fun _ _ _ _ => rfl) (begins_ret hb hs)
  | refuse reason =>
    rw [ho] at hb
    exact transition_applied (.inr (.inl ⟨_, rfl⟩)) (fun _ => rfl) hb hs
  | stick reason =>
    rw [ho] at hb
    exact transition_applied (.inr (.inl ⟨_, rfl⟩)) (fun _ => rfl) hb hs
  | fundArkade =>
    rw [ho] at hb
    exact fundArkade_applied hb hs
  | awaitClaim =>
    rw [ho] at hb
    exact transition_applied (.inl rfl) (fun _ => rfl) hb hs
  | claimEvm preimage =>
    rw [ho] at hb
    exact claimEvm_applied hb hs
  | recordClaim =>
    rw [ho] at hb
    obtain hn | ⟨hc, now, later, hl, hs⟩ := begins_transition hb hs
    · refine appliedTo_stopped (fun input hi _ _ => ?_) hn
      simp [carryOut, hi]
    · refine ⟨⟨seen, 0, true, none, false⟩, rfl, ?_⟩
      rw [begins_ret hl hs, plan_transition row _ now (.inl rfl)]
      exact (if_pos ⟨rfl, hc⟩).symm
  | refundArkade =>
    rw [ho] at hb
    exact refundArkade_applied hb hs

/-! ## What the depth numbers prove -/

/-- A chain history as the probe reads it: at which blocks the lock exists, and when each
block was mined. -/
structure LockHistory where
  locked : ℤ → Bool
  timestamp : ℤ → ℤ
  /-- The block `latest` stands for. -/
  tip : ℤ

/-- Every read of an observation that answered, answered from the history. -/
structure Truthful (history : LockHistory) (trace : Trace EvmReceiveOp.Ans) : Prop where
  isLocked : ∀ present, ⟨.read .isLocked, .ok present⟩ ∈ trace →
    present = history.locked history.tip
  isLockedAt : ∀ probe present, ⟨.read (.isLockedAt probe), .ok present⟩ ∈ trace →
    present = history.locked probe
  blockTimestampAt : ∀ probe stamp, ⟨.read (.blockTimestampAt probe), .ok stamp⟩ ∈ trace →
    stamp = history.timestamp probe

/-- A question that answered is the whole trace of asking it. -/
theorem yields_ask {question : EvmReceiveQuestion} {trace : Trace EvmReceiveOp.Ans}
    {answer : question.Answer} (h : Yields (ask question) trace (.ok answer)) :
    trace = [⟨.read question, .ok answer⟩] := by
  obtain ⟨result, later, ht, hl⟩ := yields_issue_bind.mp h
  obtain ⟨hn, ho⟩ := yields_ofExcept.mp hl
  rw [ht, hn, ← ho]

/-- A depth is proven by the two reads at the probe, or not at all. -/
theorem yields_provenDepth {present : Bool} {height minConfirmations nowSeconds : ℤ}
    {trace : Trace EvmReceiveOp.Ans} {depth : LockDepth}
    (h : Yields (provenDepth (fun probe => ask (.isLockedAt probe))
      (fun probe => ask (.blockTimestampAt probe)) present height minConfirmations nowSeconds)
      trace (.ok depth)) :
    depth = UNPROVEN ∨
    (present = true ∧ ∃ stamp,
      ⟨.read (.isLockedAt (height - minConfirmations + 1)), .ok true⟩ ∈ trace ∧
      ⟨.read (.blockTimestampAt (height - minConfirmations + 1)), .ok stamp⟩ ∈ trace ∧
      depth = ⟨minConfirmations, nowSeconds - stamp⟩) := by
  unfold provenDepth at h
  dsimp only at h
  split at h
  · exact .inl (Except.ok.inj (yields_ret.mp h).2)
  next hp =>
  simp only [Bool.or_eq_true, Bool.not_eq_true', decide_eq_true_eq, not_or, Bool.not_eq_false]
    at hp
  obtain ⟨value, ho, hy⟩ | ⟨error, first, second, -, -, hs⟩ := yields_tryCatch h
  · cases ho
    obtain ⟨found, first, second, ht, hf, hs⟩ := yields_bind_ok hy
    have ha := yields_ask hf
    cases found with
    | false => exact .inl (Except.ok.inj (yields_ret.mp hs).2)
    | true =>
      obtain ⟨stamp, read, last, hr, hb, hv⟩ := yields_bind_ok hs
      obtain ⟨-, hv⟩ := yields_ret.mp hv
      refine .inr ⟨hp.1, stamp, ?_, ?_, Except.ok.inj hv⟩
      · rw [ht, ha]
        exact List.mem_append_left _ (List.mem_singleton_self _)
      · rw [ht, hr, yields_ask hb]
        exact List.mem_append_right _ (List.mem_append_left _ (List.mem_singleton_self _))
  · exact .inl (Except.ok.inj (yields_ret.mp hs).2)

/-- What an observation was read from. -/
structure ReadFrom (row : EvmReceiveSwapRow) (seen : EvmReceiveObservation)
    (trace : Trace EvmReceiveOp.Ans) : Prop where
  present : ⟨.read .isLocked, .ok seen.evmLockPresent⟩ ∈ trace
  /-- The two acceptance numbers are those of the probe below the height read. -/
  depth : (seen.evmLockConfirmations = 0 ∧ seen.evmLockAgeSeconds = 0) ∨
    seen.evmLockPresent = true ∧
    ∃ height clock stamp, ⟨.read .blockHeight, .ok height⟩ ∈ trace ∧ ⟨.now, clock⟩ ∈ trace ∧
      ⟨.read (.isLockedAt (height - row.minConfirmations + 1)), .ok true⟩ ∈ trace ∧
      ⟨.read (.blockTimestampAt (height - row.minConfirmations + 1)), .ok stamp⟩ ∈ trace ∧
      seen.evmLockConfirmations = row.minConfirmations ∧
      seen.evmLockAgeSeconds = clock - stamp
  /-- A successful claim is the recorded one, by its receipt. -/
  outcome : seen.evmClaimOutcome = .success → ∃ txid, row.evmClaimTxid = some txid ∧
    ⟨.transactionOutcome txid, .ok .success⟩ ∈ trace

/-- A claim is reported mined on its receipt only. -/
theorem yields_claimOutcome {row : EvmReceiveSwapRow} {trace : Trace EvmReceiveOp.Ans}
    (h : Yields (claimOutcome row) trace (.ok .success)) :
    ∃ txid, row.evmClaimTxid = some txid ∧ ⟨.transactionOutcome txid, .ok .success⟩ ∈ trace := by
  unfold claimOutcome at h
  split at h
  · cases (yields_ret.mp h).2
  next txid ht =>
    refine ⟨txid, ht, ?_⟩
    obtain ⟨value, ho, hy⟩ | ⟨error, first, second, -, -, hs⟩ := yields_tryCatch h
    · cases ho
      obtain ⟨answer, later, hq, hl⟩ := yields_issue_bind.mp hy
      obtain ⟨-, ha⟩ := yields_ofExcept.mp hl
      rw [hq, ← ha]
      exact List.mem_cons_self
    · cases (yields_ret.mp hs).2

/-- Every observation is read from the trace of observing. -/
theorem readFrom_observe {row : EvmReceiveSwapRow} {trace : Trace EvmReceiveOp.Ans}
    {seen : EvmReceiveObservation} (h : Yields (observe row) trace (.ok seen)) :
    ReadFrom row seen trace := by
  obtain ⟨present, t1, r1, e1, h1, h⟩ := yields_bind_ok h
  obtain ⟨funded, t2, r2, e2, h2, h⟩ := yields_bind_ok h
  obtain ⟨height, t3, r3, e3, h3, h⟩ := yields_bind_ok h
  obtain ⟨clock, t4, r4, e4, h4, h⟩ := yields_bind_ok h
  obtain ⟨outcome, t5, r5, e5, h5, h⟩ := yields_bind_ok h
  obtain ⟨preimage, t6, r6, e6, h6, h⟩ := yields_bind_ok h
  obtain ⟨now, r7, e7, h⟩ := yields_issue_bind.mp h
  obtain ⟨depth, t8, r8, e8, h8, h⟩ := yields_bind_ok h
  obtain ⟨last, r9, e9, h⟩ := yields_issue_bind.mp h
  obtain ⟨-, ho⟩ := yields_ret.mp h
  cases ho
  have hw : trace = t1 ++ (t2 ++ (t3 ++ (t4 ++ (t5 ++ (t6 ++ (⟨.now, now⟩ :: (t8 ++ r8))))))) := by
    rw [e1, e2, e3, e4, e5, e6, e7, e8]
  constructor
  · rw [hw, yields_ask h1]
    simp
  · obtain hu | ⟨hp, stamp, hl, ht, hd⟩ := yields_provenDepth h8
    · rw [hu]
      exact .inl ⟨rfl, rfl⟩
    · refine .inr ⟨hp, height, now, stamp, ?_, ?_, ?_, ?_, ?_, ?_⟩
      · rw [hw, yields_ask h3]
        simp
      · rw [hw]
        simp
      · rw [hw]
        simp [hl]
      · rw [hw]
        simp [ht]
      · rw [hd]
      · rw [hd]
  · intro hs
    dsimp only at hs
    rw [hs] at h5
    obtain ⟨txid, hx, hm⟩ := yields_claimOutcome h5
    refine ⟨txid, hx, ?_⟩
    rw [hw]
    simp [hm]

/-- What passing the two acceptance numbers proves of a chain history. -/
structure Buried (row : EvmReceiveSwapRow) (history : LockHistory)
    (trace : Trace EvmReceiveOp.Ans) : Prop where
  /-- The lock stands at the tip. -/
  standing : history.locked history.tip = true
  /-- It stood that many confirmations below the height read, in a block old enough. -/
  probed : ∃ height clock, ⟨.read .blockHeight, .ok height⟩ ∈ trace ∧ ⟨.now, clock⟩ ∈ trace ∧
    history.locked (height - row.minConfirmations + 1) = true ∧
    row.minAgeSeconds ≤ (clock - history.timestamp (height - row.minConfirmations + 1) : ℤ)

/-- An observation that passes both numbers has proven the lock buried. -/
theorem buried_of_passing {row : EvmReceiveSwapRow} {history : LockHistory}
    {trace : Trace EvmReceiveOp.Ans} {seen : EvmReceiveObservation}
    (hm : 1 ≤ row.minConfirmations) (hr : ReadFrom row seen trace) (ht : Truthful history trace)
    (hc : row.minConfirmations ≤ seen.evmLockConfirmations)
    (ha : row.minAgeSeconds ≤ seen.evmLockAgeSeconds) : Buried row history trace := by
  obtain ⟨hz, -⟩ | ⟨hp, height, clock, stamp, hh, hk, hl, hs, -, he⟩ := hr.depth
  · omega
  constructor
  · have hi := ht.isLocked _ hr.present
    rw [← hi]
    exact hp
  · refine ⟨height, clock, hh, hk, (ht.isLockedAt _ _ hl).symm, ?_⟩
    rw [← ht.blockTimestampAt _ _ hs, ← he]
    exact ha

/-- Every run from a quote keeps the planner's rules under whatever it observes; and the
numbers its acceptance rests on prove, of any chain history, that the lock stands at the
tip and stood the configured depth below it in a block of the configured age, just as a
claim counts as mined on the receipt of the recorded transaction only. -/
theorem evm_receive_funds_proven_locks :
    (∀ row : EvmReceivePlanRow, row.state = .quoted → ∀ inputs : List StepInput,
      ∀ decision ∈ run row inputs, Ruled decision) ∧
    ∀ (row : EvmReceiveSwapRow) (trace : Trace EvmReceiveOp.Ans) (seen : EvmReceiveObservation),
      Yields (observe row) trace (.ok seen) →
      (∀ history, 1 ≤ row.minConfirmations → Truthful history trace →
        row.minConfirmations ≤ seen.evmLockConfirmations →
        row.minAgeSeconds ≤ seen.evmLockAgeSeconds → Buried row history trace) ∧
      (seen.evmClaimOutcome = .success → ∃ txid, row.evmClaimTxid = some txid ∧
        ⟨.transactionOutcome txid, .ok .success⟩ ∈ trace) := by
  constructor
  · intro row hq inputs
    refine run_ruled ⟨?_, ?_⟩ inputs <;> rw [hq] <;> decide
  · intro row trace seen hy
    have hr := readFrom_observe hy
    exact ⟨fun history hm ht hc ha => buried_of_passing hm hr ht hc ha, hr.outcome⟩

/-- A quoted row whose policy asks for three confirmations and half a second. -/
def sampleRow : EvmReceivePlanRow :=
  { state := .quoted, refundLocktime := 90000, evmTimeout := 161, validUntil := 3600,
    minConfirmations := 3, minAgeSeconds := 1 / 2, preimage := none, evmClaimTxid := none }

/-- The same row as the store holds it. -/
def sampleSwapRow : EvmReceiveSwapRow :=
  { id := "swap", state := .quoted, updatedAt := 0, payoutSats := 40000, lockupAddress := "ark1",
    evmTimeout := 161, validUntil := 3600, minConfirmations := 3, minAgeSeconds := 1 / 2,
    refundLocktime := 90000 }

/-- The lock is three deep and a second old, with 61 blocks left. -/
def sampleInput : StepInput :=
  { seen := ⟨true, 3, 1, false, .pending, none, 3599, 100⟩, again := 100, moved := true,
    claimTxid := none, refunded := false }

/-- The receiver takes the sats and reveals the preimage; the claim is broadcast. -/
def revealedInput : StepInput :=
  { sampleInput with seen := ⟨true, 0, 0, true, .pending, some "preimage", 3600, 101⟩,
                     claimTxid := some "0xa" }

/-- The claim was mined. -/
def minedInput : StepInput :=
  { sampleInput with seen := ⟨false, 0, 0, false, .success, some "preimage", 3700, 110⟩ }

/-- The lock went in at block 98 of a chain at height 100. -/
def sampleHistory : LockHistory where
  locked block := decide (98 ≤ block)
  timestamp block := 3598 + (block - 98)
  tip := 100

/-- What observing the sample row asks of a node that tells the truth of that chain. -/
def sampleTrace : Trace EvmReceiveOp.Ans :=
  [⟨.read .isLocked, .ok true⟩, ⟨.read .arkadeLockupFunded, .ok false⟩,
    ⟨.read .blockHeight, .ok 100⟩, ⟨.read .timelockHeight, .ok 100⟩, ⟨.now, 3599⟩,
    ⟨.read (.isLockedAt 98), .ok true⟩, ⟨.read (.blockTimestampAt 98), .ok 3598⟩, ⟨.now, 3599⟩]

/-- The trace is one of the observation. -/
theorem yields_sampleTrace : Yields (observe sampleSwapRow) sampleTrace (.ok sampleInput.seen) := by
  refine ⟨_, _, rfl, _, _, rfl, _, _, rfl, _, _, rfl, _, _, rfl, ?_⟩
  exact ⟨_, _, rfl, _, _, rfl, _, _, rfl, rfl, rfl⟩

/-- Every answer in it is the history's. -/
theorem truthful_sampleTrace : Truthful sampleHistory sampleTrace := by
  constructor
  · intro present h
    simp [sampleTrace] at h
    simp [h, sampleHistory]
  · intro probe present h
    simp [sampleTrace] at h
    simp [h, sampleHistory]
  · intro probe stamp h
    simp [sampleTrace] at h
    simp [h, sampleHistory]

/-- The sample run funds, claims and books its claim by the rules; and the observation its
funding rests on proves the lock two blocks below the tip. -/
theorem evm_receive_funds_proven_locks_sample :
    (run sampleRow [sampleInput, revealedInput, minedInput]).map Applied.order =
        [.fundArkade, .claimEvm "preimage", .recordClaim] ∧
      (∀ decision ∈ run sampleRow [sampleInput, revealedInput, minedInput], Ruled decision) ∧
      Buried sampleSwapRow sampleHistory sampleTrace := by
  refine ⟨by decide +kernel, evm_receive_funds_proven_locks.1 sampleRow rfl _, ?_⟩
  refine (evm_receive_funds_proven_locks.2 sampleSwapRow sampleTrace sampleInput.seen
    yields_sampleTrace).1 sampleHistory (by decide) truthful_sampleTrace (by decide) ?_
  norm_num [sampleSwapRow, sampleInput]

end IntentSolver.EvmReceiveRuns
