import Mathlib.Data.Int.Notation
import Mathlib.Order.Bounds.Defs
import Mathlib.Order.Lattice
import Mathlib.Algebra.Order.Ring.Int
import Mathlib.Tactic.Ring

/-!
# Searching for the least number that reaches

A test on the integers that, once passed, stays passed has a least positive number that
passes it. Doubling from one finds a number that passes, within a budget of rounds, and
halving the range below it finds the least.
-/

namespace IntentSolver.MonotoneSearch

variable (reaches : ℤ → Bool)

/-- Double until the test is passed or the rounds are spent. -/
def doubled : ℕ → ℤ → ℤ
  | 0, hi => hi
  | rounds + 1, hi => if reaches hi then hi else doubled rounds (hi * 2)

/-- Halve the range, keeping the half that holds the least passing number. -/
def bisected (lo hi : ℤ) : ℤ :=
  if lo < hi then
    let mid := (lo + hi) / 2
    if reaches mid then bisected lo mid else bisected (mid + 1) hi
  else lo
termination_by (hi - lo).toNat
decreasing_by all_goals omega

/-- The least positive number that passes, if doubling so many times meets one that does. -/
def leastReaching (rounds : ℕ) : Option ℤ :=
  let hi := doubled reaches rounds 1
  if reaches hi then some (bisected reaches 1 hi) else none

/-- What is passed stays passed. -/
def Stays : Prop := ∀ low high, low ≤ high → reaches low = true → reaches high = true

variable {reaches}

/-- Doubling ends on a number that passes, or has spent its rounds on ones that do not. -/
theorem doubled_cases (reaches : ℤ → Bool) (rounds : ℕ) {hi : ℤ} (hp : 0 < hi) :
    0 < doubled reaches rounds hi ∧ doubled reaches rounds hi ≤ hi * 2 ^ rounds ∧
      (reaches (doubled reaches rounds hi) = true ∨
        doubled reaches rounds hi = hi * 2 ^ rounds) := by
  induction rounds generalizing hi with
  | zero => exact ⟨hp, by simp [doubled], .inr (by simp [doubled])⟩
  | succ rounds ih =>
    unfold doubled
    by_cases hr : reaches hi = true
    · rw [if_pos hr]
      refine ⟨hp, ?_, .inl hr⟩
      exact le_mul_of_one_le_right hp.le (one_le_pow₀ (by omega))
    · rw [if_neg hr]
      have hdouble : hi * 2 * 2 ^ rounds = hi * 2 ^ (rounds + 1) := by ring
      rw [← hdouble]
      exact ih (by omega)

/-- With everything below the range failing and its end passing, halving ends on the least
number that passes. -/
theorem bisected_isLeast {lo hi : ℤ} (hle : lo ≤ hi) (hend : reaches hi = true)
    (hs : Stays reaches) : IsLeast {n | lo ≤ n ∧ reaches n = true} (bisected reaches lo hi) := by
  induction lo, hi using bisected.induct reaches with
  | case1 lo hi hlt mid hr ih =>
    unfold bisected
    rw [if_pos hlt]
    dsimp only
    rw [if_pos hr]
    exact ih (by omega) hr
  | case2 lo hi hlt mid hr ih =>
    unfold bisected
    rw [if_pos hlt]
    dsimp only
    rw [if_neg hr]
    obtain ⟨hmem, hleast⟩ := ih (by omega) hend
    refine ⟨⟨?_, hmem.2⟩, fun n hn => hleast ⟨?_, hn.2⟩⟩
    · have hge : mid + 1 ≤ bisected reaches (mid + 1) hi := hmem.1
      change lo ≤ bisected reaches (mid + 1) hi
      omega
    · by_contra hlow
      exact hr (hs n mid (by omega) hn.2)
  | case3 lo hi hlt =>
    unfold bisected
    rw [if_neg hlt]
    have heq : lo = hi := by omega
    exact ⟨⟨le_rfl, heq ▸ hend⟩, fun n hn => hn.1⟩

/-- The search finds the least positive number that passes. -/
theorem leastReaching_some (hs : Stays reaches) {rounds : ℕ} {least : ℤ}
    (h : leastReaching reaches rounds = some least) :
    IsLeast {n | 0 < n ∧ reaches n = true} least := by
  have hpos := (doubled_cases reaches rounds Int.one_pos).1
  unfold leastReaching at h
  dsimp only at h
  split at h
  next hr =>
    cases h
    exact bisected_isLeast hpos hr hs
  · cases h

/-- It finds none exactly where nothing up to the last doubling passes. -/
theorem leastReaching_none_iff (hs : Stays reaches) {rounds : ℕ} :
    leastReaching reaches rounds = none ↔ ∀ n, 0 < n → n ≤ 2 ^ rounds → reaches n = false := by
  obtain ⟨hpos, hle, hcases⟩ := doubled_cases reaches rounds Int.one_pos
  rw [one_mul] at hle hcases
  unfold leastReaching
  dsimp only
  constructor
  · intro h n hn hbound
    split at h
    · cases h
    next hr =>
      rw [Bool.eq_false_iff]
      intro hreach
      rw [hcases.resolve_left hr] at hr
      exact hr (hs n _ hbound hreach)
  · intro h
    rw [if_neg]
    rw [h _ hpos hle]
    exact Bool.false_ne_true

end IntentSolver.MonotoneSearch
