import Mathlib.Data.Rat.Floor
import Mathlib.Tactic.Linarith
import Mathlib.Tactic.Push
import Mathlib.Algebra.Order.Ring.Rat

/-!
# The pace of a chain

A chain is read as the moment each height is reached. Two bounds on its pace turn a span
of blocks into a span of seconds: after some moment no block takes longer than a gap, or
none takes less. A third speaks of the whole history and not of one moment: consecutive
blocks are never closer than the gap.
-/

namespace IntentSolver.ChainPace

/-- After `moment`, with `height` reached, no block takes longer than `gap`. -/
def NoSlower (arrival : ℤ → ℚ) (gap moment : ℚ) (height : ℤ) : Prop :=
  arrival height ≤ moment ∧
    ∀ block, height ≤ block → arrival (block + 1) ≤ max moment (arrival block) + gap

/-- After `moment`, with `height` reached, no block takes less than `gap`; the block
under way is timed from `moment` on. -/
def NoFaster (arrival : ℤ → ℚ) (gap moment : ℚ) (height : ℤ) : Prop :=
  ∀ block, height ≤ block → max moment (arrival block) + gap ≤ arrival (block + 1)

/-- Consecutive blocks are never closer than `gap`. -/
def Spaced (arrival : ℤ → ℚ) (gap : ℚ) : Prop :=
  ∀ block, arrival block + gap ≤ arrival (block + 1)

/-- Blocks at exactly one gap from each other, `height` reached at `moment`. -/
def steady (gap moment : ℚ) (height block : ℤ) : ℚ := moment + (block - height : ℤ) * gap

variable {arrival : ℤ → ℚ} {gap moment : ℚ} {height : ℤ}

/-- A chain no slower than the gap reaches the k-th next height within k gaps. -/
theorem NoSlower.reaches (h : NoSlower arrival gap moment height) (hg : 0 ≤ gap) (k : ℕ) :
    arrival (height + k) ≤ moment + k * gap := by
  induction k with
  | zero =>
    have h0 := h.1
    simpa using h0
  | succ k ih =>
    have hs := h.2 (height + k) (by omega)
    have hk : 0 ≤ (k : ℚ) * gap := by positivity
    have hm : max moment (arrival (height + k)) ≤ moment + k * gap := max_le (by linarith) ih
    have he : height + ((k + 1 : ℕ) : ℤ) = height + k + 1 := by push_cast; ring
    rw [he]
    push_cast
    linarith

/-- A chain no faster than the gap needs k gaps for the k-th next height. -/
theorem NoFaster.reaches (h : NoFaster arrival gap moment height) (k : ℕ) :
    moment + (k + 1 : ℕ) * gap ≤ arrival (height + (k + 1 : ℕ)) := by
  induction k with
  | zero =>
    have hs := h height le_rfl
    have hm := le_max_left moment (arrival height)
    simp only [Nat.zero_add, Nat.cast_one, one_mul]
    linarith
  | succ k ih =>
    have hs := h (height + (k + 1 : ℕ)) (by omega)
    have hm := le_max_right moment (arrival (height + (k + 1 : ℕ)))
    have he : height + ((k + 1 + 1 : ℕ) : ℤ) = height + (k + 1 : ℕ) + 1 := by push_cast; ring
    rw [he]
    push_cast at ih hs hm ⊢
    linarith

/-- Spaced blocks put k gaps between heights k apart. -/
theorem Spaced.reaches (h : Spaced arrival gap) (block : ℤ) (k : ℕ) :
    arrival block + k * gap ≤ arrival (block + k) := by
  induction k with
  | zero => simp
  | succ k ih =>
    have hs := h (block + k)
    have he : block + ((k + 1 : ℕ) : ℤ) = block + k + 1 := by push_cast; ring
    rw [he]
    push_cast
    linarith

/-- The steady chain keeps the gap from above. -/
theorem noSlower_steady (gap moment : ℚ) (height : ℤ) :
    NoSlower (steady gap moment height) gap moment height := by
  constructor
  · simp [steady]
  · intro block hb
    have hm := le_max_right moment (steady gap moment height block)
    have he : steady gap moment height (block + 1) = steady gap moment height block + gap := by
      unfold steady
      push_cast
      ring
    linarith

/-- The steady chain keeps the gap from below. -/
theorem noFaster_steady {gap : ℚ} (hg : 0 ≤ gap) (moment : ℚ) (height : ℤ) :
    NoFaster (steady gap moment height) gap moment height := by
  intro block hb
  have hspan : (0 : ℚ) ≤ (block - height : ℤ) := by
    exact_mod_cast (show 0 ≤ block - height by omega)
  have hm : max moment (steady gap moment height block) = steady gap moment height block :=
    max_eq_right (by
      unfold steady
      linarith [mul_nonneg hspan hg])
  have he : steady gap moment height (block + 1) = steady gap moment height block + gap := by
    unfold steady
    push_cast
    ring
  rw [hm, he]

end IntentSolver.ChainPace
