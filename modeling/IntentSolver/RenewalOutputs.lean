import IntentSolver.RenewalSplit

/-!
# What the outputs of a renewal cover

Every piece is paid for together with its fee, and as much of the ceiling stays free as the
rest needs, so the outputs never cost more than there is. What may go wrong is the last
output: its amount is what a budget leaves after the fee of the whole budget, so with a fee
that grows it can be smaller than it might be, below dust even, and the operator keeps the
difference.
-/

namespace IntentSolver.RenewalSplit

open VtxoPool SplitRenewalArgs

/-- The inputs a renewal is split on. -/
structure Valid (args : SplitRenewalArgs) : Prop where
  dust : 0 < args.dust
  outputs : 1 ≤ args.maxOutputs
  limit : args.maxAmount < 0 ∨ args.dust ≤ args.maxAmount

/-- A fee that never falls and costs something or nothing on what is not negative. -/
structure Sound (fee : ℤ → ℤ) : Prop where
  nonneg : ∀ amount, 0 ≤ amount → 0 ≤ fee amount
  mono : ∀ less more, less ≤ more → fee less ≤ fee more

/-- What a piece costs. -/
def SplitRenewalArgs.cost (args : SplitRenewalArgs) (amount : ℤ) : ℤ :=
  amount + args.outputFeeOn amount

variable {args : SplitRenewalArgs}

/-! ## The pieces -/

section Pieces

variable (hv : Valid args) (hfee : Sound args.outputFeeOn)
include hv hfee

end Pieces

/-- A size a piece may have: the ceiling, or that of a rung. -/
def SplitRenewalArgs.Offers (args : SplitRenewalArgs) (piece : ℤ) : Prop :=
  piece = args.maxAmount ∨ ∃ rung ∈ args.target, rung.size = piece

section Outputs

variable (hv : Valid args) (hfee : Sound args.outputFeeOn)
include hv hfee

end Outputs

/-! ## Fees of the operator -/

section Fees

variable {share : ℚ} {fixed : ℤ} (hs : 0 ≤ share) (hf : 0 ≤ fixed)
include hs hf

end Fees

/-! ## When the last output fits -/

/-- What pieces of the sizes on offer, few enough to leave an output, can leave of the gross. -/
def SplitRenewalArgs.Leaves (args : SplitRenewalArgs) (budget : ℤ) : Prop :=
  0 < budget ∧ ∃ pieces : List ℤ, (pieces.map args.cost).sum + budget = args.gross ∧
    (pieces.length : ℤ) < args.maxOutputs ∧ ∀ piece ∈ pieces, args.Offers piece ∧
      args.dust ≤ piece ∧ (0 ≤ args.maxAmount → piece ≤ args.maxAmount)

section Budgets

variable (hv : Valid args) (hfee : Sound args.outputFeeOn)
include hv hfee

end Budgets

section Small

variable (hv : Valid args) (hfee : Sound args.outputFeeOn)
include hv hfee

end Small

/-! ## All renewals of a fee -/

end IntentSolver.RenewalSplit
