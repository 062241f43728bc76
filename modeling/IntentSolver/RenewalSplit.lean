import IntentSolver.VtxoPool
import Mathlib.Data.Rat.Floor
import Mathlib.Tactic.Linarith

/-!
# Carving the proceeds of a renewal

A renewal settles the float and hands it back in several outputs, each of which pays a fee
that depends on its own amount. Pieces of the target are taken largest first, then pieces of
the ceiling, and what remains becomes a last output of its own or goes into the last piece.
What no output claims is paid to the operator.
-/

namespace IntentSolver.RenewalSplit

open VtxoPool

/-- What there is to divide, and how. -/
structure SplitRenewalArgs where
  /-- Input value minus input fees. -/
  gross : ℤ
  target : List PoolRung
  dust : ℤ
  /-- The cost of one output of this size. -/
  outputFeeOn : ℤ → ℤ
  /-- Outputs one settlement may create. -/
  maxOutputs : ℤ
  /-- The most an output may hold; negative means no limit. -/
  maxAmount : ℤ

/-- Pieces so far, the last one first, and what remains. -/
structure Carving where
  pieces : List ℤ
  remaining : ℤ

/-- Correct the amount while its fee does not fit, a bounded number of times. -/
def correct (fee : ℤ → ℤ) (budget : ℤ) : ℕ → ℤ → ℤ
  | 0, amount => amount
  | times + 1, amount =>
    if 0 < amount ∧ budget < amount + fee amount then correct fee budget times (budget - fee amount)
    else amount

/-- A piece that leaves room for its own fee out of a budget. -/
def fitWithin (fee : ℤ → ℤ) (budget : ℤ) : ℤ := correct fee budget 8 (budget - fee budget)

namespace SplitRenewalArgs

variable (args : SplitRenewalArgs)

/-- No more than an output may hold. -/
def capped (amount : ℤ) : ℤ :=
  if 0 ≤ args.maxAmount ∧ args.maxAmount < amount then args.maxAmount else amount

/-- What an output of the ceiling costs. -/
def unit : ℤ := args.maxAmount + args.outputFeeOn args.maxAmount

/-- How many outputs of the ceiling a value needs. -/
def tailSlots (value : ℤ) : ℤ :=
  if args.unit ≤ 0 then 1 else Int.tdiv (value + args.unit - 1) args.unit

/-- The piece leaves too few outputs for the rest. -/
def crowds (pieces : ℕ) (left : ℤ) : Prop :=
  0 ≤ args.maxAmount ∧ args.maxOutputs < pieces + 1 + args.tailSlots left

instance (pieces : ℕ) (left : ℤ) : Decidable (args.crowds pieces left) := by
  unfold crowds
  infer_instance

/-- Pieces of one size, up to a number of them. -/
def takePieces (size : ℤ) : ℕ → Carving → Carving
  | 0, carving => carving
  | want + 1, carving =>
    if args.maxOutputs - 1 ≤ carving.pieces.length then carving
    else
      let left := carving.remaining - (size + args.outputFeeOn size)
      if left < args.dust ∨ args.crowds carving.pieces.length left then carving
      else takePieces size want ⟨size :: carving.pieces, left⟩

/-- The pieces of one rung, if an output may have its size. -/
def takeRung (carving : Carving) (rung : PoolRung) : Carving :=
  if rung.size < args.dust ∨ (0 ≤ args.maxAmount ∧ args.maxAmount < rung.size) then carving
  else args.takePieces rung.size rung.want.toNat carving

/-- The pieces of all rungs, the largest first. -/
def rungs : Carving :=
  (args.target.insertionSort fun first second => second.size - first.size ≤ 0).foldl
    args.takeRung ⟨[], args.gross⟩

/-- Pieces of the ceiling while what remains is above it; each takes a slot. -/
def takeCeilings : ℕ → Carving → Carving
  | 0, carving => carving
  | slots + 1, carving =>
    if args.maxAmount < fitWithin args.outputFeeOn carving.remaining then
      takeCeilings slots ⟨args.maxAmount :: carving.pieces, carving.remaining - args.unit⟩
    else carving

end SplitRenewalArgs

/-- A fee that is never negative and never falls. -/
structure Rising (fee : ℤ → ℤ) : Prop where
  nonneg : ∀ amount, 0 ≤ fee amount
  mono : ∀ less more, less ≤ more → fee less ≤ fee more

/-- Where the fee at the budget is no lower than that at the piece, the piece fits at once. -/
theorem fitWithin_eq {fee : ℤ → ℤ} {budget : ℤ}
    (h : fee (budget - fee budget) ≤ fee budget) : fitWithin fee budget = budget - fee budget := by
  unfold fitWithin correct
  rw [if_neg]
  omega

/-- The amount is affordable, and no larger one is. -/
def Greatest (fee : ℤ → ℤ) (budget amount : ℤ) : Prop :=
  amount + fee amount ≤ budget ∧ ∀ more, amount < more → budget < more + fee more

/-- What `fitWithin` answers is always affordable; it is the most that is exactly where one sat
more would still cost the fee of the whole budget. -/
theorem fitWithin_greatest_iff {fee : ℤ → ℤ} (hfee : Rising fee) (budget : ℤ) :
    Greatest fee budget (fitWithin fee budget) ↔
      fee budget ≤ fee (budget - fee budget + 1) := by
  have hnonneg := hfee.nonneg budget
  have hfit := hfee.mono (budget - fee budget) budget (by omega)
  rw [fitWithin_eq hfit]
  constructor
  · intro h
    have hmore := h.2 (budget - fee budget + 1) (by omega)
    omega
  · intro h
    constructor
    · omega
    · intro more hm
      have hmore := hfee.mono (budget - fee budget + 1) more (by omega)
      omega

/-- One percent, rounded up, of what is positive. -/
def onePercent (amount : ℤ) : ℤ := if amount ≤ 0 then 0 else (amount + 99) / 100

/-- A fee of one percent rises with the amount. -/
theorem rising_onePercent : Rising onePercent := by
  constructor
  · intro amount
    unfold onePercent
    split <;> omega
  · intro less more h
    unfold onePercent
    split <;> split <;> omega

/-- Of a million sats, 990000 go out where 990099 could. -/
theorem fitWithin_falls_short :
    ¬ ∀ fee : ℤ → ℤ, Rising fee → ∀ budget : ℤ, Greatest fee budget (fitWithin fee budget) := by
  intro h
  have hmost := (h onePercent rising_onePercent 1000000).2 990099 (by decide)
  revert hmost
  decide

/-- A flat fee leaves nothing over. -/
theorem fitWithin_greatest_sample :
    Greatest (fun _ => 3) 10 (fitWithin (fun _ => 3) 10) ∧ fitWithin (fun _ => 3) 10 = 7 := by
  have hflat : Rising fun _ => 3 := ⟨fun _ => by decide, fun _ _ _ => le_refl _⟩
  exact ⟨(fitWithin_greatest_iff hflat 10).mpr (by decide), by decide⟩

end IntentSolver.RenewalSplit
