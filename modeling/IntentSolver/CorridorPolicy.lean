import Mathlib.Data.Nat.Notation
import Mathlib.Data.Int.Notation
import Mathlib.Order.Bounds.Defs
import Mathlib.Order.Lattice
import Mathlib.Algebra.Order.Ring.Nat

/-!
# What a corridor charges

A fee is a spread and a flat charge, rounded up, so a payout is rounded down. The exact-out
direction inverts the spread and then corrects upwards until the payout is reached. Amounts
are whole sats whose products a double holds exactly.
-/

namespace IntentSolver.CorridorPolicy

/-- A corridor's fee. -/
structure Fee where
  bps : ℕ
  flatSats : ℕ

/-- The fee on an amount, rounded up. -/
def feeSatsFor (amountSats : ℕ) (fee : Fee) : ℕ :=
  (amountSats * fee.bps + 9999) / 10000 + fee.flatSats

/-- What the taker receives; not clamped. -/
def payoutSatsFor (giveSats : ℕ) (fee : Fee) : ℤ := giveSats - feeSatsFor giveSats fee

/-- The correction loop of `giveSatsFor`, for at most so many rounds. -/
def raiseGive (payoutSats : ℕ) (fee : Fee) : ℕ → ℕ → Option ℕ
  | 0, give => if payoutSatsFor give fee < payoutSats then none else some give
  | rounds + 1, give =>
    if payoutSatsFor give fee < payoutSats then raiseGive payoutSats fee rounds (give + 1)
    else some give

/-- The spread undone, rounded up. -/
def invertedGive (payoutSats : ℕ) (fee : Fee) : ℕ :=
  ((payoutSats + fee.flatSats) * 10000 + (10000 - fee.bps) - 1) / (10000 - fee.bps)

/-- The smallest give whose payout is at least this. -/
def giveSatsFor (rounds payoutSats : ℕ) (fee : Fee) : Option ℕ :=
  raiseGive payoutSats fee rounds (invertedGive payoutSats fee)

variable {fee : Fee}

/-- A payout is reached exactly where what is left after the spread covers it and the flat
charge. -/
theorem le_payoutSatsFor_iff (hb : fee.bps < 10000) {payoutSats give : ℕ} :
    (payoutSats : ℤ) ≤ payoutSatsFor give fee ↔
      (payoutSats + fee.flatSats) * 10000 ≤ give * (10000 - fee.bps) := by
  have hspread : give * (10000 - fee.bps) + give * fee.bps = give * 10000 := by
    rw [← Nat.mul_add, Nat.sub_add_cancel hb.le]
  unfold payoutSatsFor feeSatsFor
  omega

/-- Give one sat more, and the payout grows by at most one. -/
theorem payoutSatsFor_succ_le (give : ℕ) (fee : Fee) :
    payoutSatsFor (give + 1) fee ≤ payoutSatsFor give fee + 1 := by
  have hspread : (give + 1) * fee.bps = give * fee.bps + fee.bps := Nat.succ_mul give fee.bps
  unfold payoutSatsFor feeSatsFor
  omega

/-- A payout is never more than the give. -/
theorem payoutSatsFor_le (give : ℕ) (fee : Fee) : payoutSatsFor give fee ≤ give := by
  unfold payoutSatsFor
  omega

/-- The inverse already is the smallest give. -/
theorem invertedGive_isLeast (hb : fee.bps < 10000) (payoutSats : ℕ) :
    IsLeast {give : ℕ | (payoutSats : ℤ) ≤ payoutSatsFor give fee}
      (invertedGive payoutSats fee) := by
  have hkept : 0 < 10000 - fee.bps := Nat.sub_pos_of_lt hb
  have hiff : ∀ give : ℕ, (payoutSats : ℤ) ≤ payoutSatsFor give fee ↔
      invertedGive payoutSats fee ≤ give := by
    intro give
    rw [le_payoutSatsFor_iff hb]
    unfold invertedGive
    rw [Nat.div_le_iff_le_mul_add_pred hkept, Nat.mul_comm give]
    omega
  exact ⟨(hiff _).mpr le_rfl, fun give hg => (hiff give).mp hg⟩

/-- The smallest give pays exactly what was asked. -/
theorem payoutSatsFor_least {payoutSats give : ℕ}
    (h : IsLeast {give : ℕ | (payoutSats : ℤ) ≤ payoutSatsFor give fee} give) :
    payoutSatsFor give fee = payoutSats := by
  have hreach : (payoutSats : ℤ) ≤ payoutSatsFor give fee := h.1
  cases give with
  | zero =>
    have hzero := payoutSatsFor_le 0 fee
    omega
  | succ give =>
    have hshort : ¬(payoutSats : ℤ) ≤ payoutSatsFor give fee := fun hr => by
      have hle := h.2 hr
      omega
    have hstep := payoutSatsFor_succ_le give fee
    omega

/-- The correction loop has nothing to correct: it is left at once, however many rounds it
has, with the smallest give, which pays exactly what was asked. -/
theorem giveSatsFor_least (hb : fee.bps < 10000) (rounds payoutSats : ℕ) :
    ∃ give, giveSatsFor rounds payoutSats fee = some give ∧
      IsLeast {give : ℕ | (payoutSats : ℤ) ≤ payoutSatsFor give fee} give ∧
      payoutSatsFor give fee = payoutSats := by
  have hleast := invertedGive_isLeast hb payoutSats
  refine ⟨invertedGive payoutSats fee, ?_, hleast, payoutSatsFor_least hleast⟩
  have hreach : ¬payoutSatsFor (invertedGive payoutSats fee) fee < payoutSats :=
    Int.not_lt.mpr hleast.1
  unfold giveSatsFor
  cases rounds with
  | zero => exact if_neg hreach
  | succ rounds => exact if_neg hreach

end IntentSolver.CorridorPolicy
