import IntentSolver.ChainPace
import IntentSolver.Fallible
import IntentSolver.JsNumber
import IntentSolver.SwapStore

/-!
# Block heights and wall-clock seconds

The token contract counts its timelock in blocks, every other deadline is in unix
seconds. Reading somebody's timelock assumes fast blocks, setting our own assumes slow
ones. A cadence is a pair of finite numbers, fractions included, and each operation on them
rounds to a double: a deadline can come out whole where the exact product is not, or later
than it, and a long span can overflow. How a number prints is a parameter.
-/

namespace IntentSolver.EvmBlockTime

open SwapStore ChainPace Fallible JsNumber

/-- A chain's cadence, as the two bounds the conversions need. -/
structure EvmBlockCadence where
  /-- The fastest blocks are expected to arrive. -/
  fastestSecondsPerBlock : ℚ
  /-- The slowest blocks are expected to arrive. -/
  slowestSecondsPerBlock : ℚ

variable (text : ℚ → String)

/-- One bound of a cadence is a positive number. -/
def assertPositive (name : String) (value : ℚ) : Except Fault Unit :=
  if value ≤ 0 then .error (.error (name ++ " must be a positive number, got " ++ text value))
  else .ok ()

/-- Reject a cadence that cannot be used safely. -/
def assertCadence (cadence : EvmBlockCadence) : Except Fault Unit := do
  assertPositive text "fastestSecondsPerBlock" cadence.fastestSecondsPerBlock
  assertPositive text "slowestSecondsPerBlock" cadence.slowestSecondsPerBlock
  if cadence.slowestSecondsPerBlock < cadence.fastestSecondsPerBlock then
    .error (.error ("fastestSecondsPerBlock (" ++ text cadence.fastestSecondsPerBlock ++
      ") must be <= slowestSecondsPerBlock (" ++ text cadence.slowestSecondsPerBlock ++ ")"))
  else .ok ()

/-- When `timeoutBlock` arrives at the earliest, in unix seconds; not clamped to now. -/
def deadlineSecondsForBlock (timeoutBlock currentBlock : ℤ) (nowSeconds : ℚ)
    (cadence : EvmBlockCadence) : Except Fault Number := do
  assertCadence text cadence
  let remaining := timeoutBlock - currentBlock
  return (Number.finite nowSeconds).add
    ((toDouble remaining).mul (.finite cadence.fastestSecondsPerBlock))

/-- `BigInt(Math.max(1, Math.floor(value)))`: no infinite number converts. -/
def wholeBlocks (value : Number) : Except Fault ℤ :=
  match value with
  | .finite blocks => .ok (max 1 ⌊blocks⌋)
  | other => .error (.error ("The number " ++ other.print text ++
      " cannot be converted to a BigInt because it is not an integer"))

/-- How many blocks a lock of this many seconds runs for: floored, and at least one. -/
def blocksForDuration (seconds : ℚ) (cadence : EvmBlockCadence) : Except Fault ℤ := do
  assertCadence text cadence
  if seconds ≤ 0 then
    .error (.error ("duration must be positive seconds, got " ++ text seconds))
  else wholeBlocks text (toDouble (seconds / cadence.slowestSecondsPerBlock))

variable {text}

/-- What an accepted cadence is. -/
theorem assertCadence_ok_iff {cadence : EvmBlockCadence} :
    assertCadence text cadence = .ok () ↔
      0 < cadence.fastestSecondsPerBlock ∧ 0 < cadence.slowestSecondsPerBlock ∧
        cadence.fastestSecondsPerBlock ≤ cadence.slowestSecondsPerBlock := by
  unfold assertCadence assertPositive
  by_cases hf : cadence.fastestSecondsPerBlock ≤ 0
  · rw [if_pos hf]
    simp only [error_bind, reduceCtorEq, false_iff]
    intro h
    linarith [h.1]
  by_cases hs : cadence.slowestSecondsPerBlock ≤ 0
  · rw [if_neg hf, if_pos hs]
    simp only [ok_bind, error_bind, reduceCtorEq, false_iff]
    intro h
    linarith [h.2.1]
  rw [if_neg hf, if_neg hs, ok_bind, ok_bind]
  by_cases ho : cadence.slowestSecondsPerBlock < cadence.fastestSecondsPerBlock
  · rw [if_pos ho]
    simp only [reduceCtorEq, false_iff]
    intro h
    linarith [h.2.2]
  · rw [if_neg ho]
    simp only [true_iff]
    exact ⟨not_le.mp hf, not_le.mp hs, not_lt.mp ho⟩

/-- Under an accepted cadence a timeout height has a deadline. -/
theorem deadlineSecondsForBlock_eq {cadence : EvmBlockCadence} (timeoutBlock currentBlock : ℤ)
    (nowSeconds : ℚ) (h : assertCadence text cadence = .ok ()) :
    deadlineSecondsForBlock text timeoutBlock currentBlock nowSeconds cadence =
      .ok ((Number.finite nowSeconds).add ((toDouble (timeoutBlock - currentBlock : ℤ)).mul
        (.finite cadence.fastestSecondsPerBlock))) := by
  unfold deadlineSecondsForBlock
  rw [h, ok_bind]
  rfl

/-- The block count a duration converts to, where it converts at all. -/
theorem blocksForDuration_ok {seconds : ℚ} {cadence : EvmBlockCadence} {blocks : ℤ}
    (h : blocksForDuration text seconds cadence = .ok blocks) :
    0 < seconds ∧ 0 < cadence.slowestSecondsPerBlock ∧
      ∃ quotient, toDouble (seconds / cadence.slowestSecondsPerBlock) = .finite quotient ∧
        blocks = max 1 ⌊quotient⌋ := by
  unfold blocksForDuration at h
  obtain ⟨u, hc, hb⟩ := bind_ok h
  split at hb
  · cases hb
  next hs =>
    refine ⟨not_le.mp hs, (assertCadence_ok_iff.mp hc).2.1, ?_⟩
    unfold wholeBlocks at hb
    split at hb
    next quotient hq =>
      cases hb
      exact ⟨quotient, hq, rfl⟩
    · cases hb

/-- A positive duration whose quotient is no overflow converts. -/
theorem blocksForDuration_finite {seconds quotient : ℚ} {cadence : EvmBlockCadence}
    (hc : assertCadence text cadence = .ok ()) (hs : 0 < seconds)
    (hq : toDouble (seconds / cadence.slowestSecondsPerBlock) = .finite quotient) :
    blocksForDuration text seconds cadence = .ok (max 1 ⌊quotient⌋) := by
  unfold blocksForDuration
  rw [hc, ok_bind, if_neg (not_le.mpr hs), hq]
  rfl

/-- A lock of some blocks ends in time on every chain no slower than the cadence, exactly
when that many of its slowest blocks fit the duration. -/
theorem blocks_in_time (seconds moment : ℚ) (height : ℤ) {slowest : ℚ} {blocks : ℤ}
    (hp : 0 < slowest) (hb : 0 ≤ blocks) :
    (∀ arrival, NoSlower arrival slowest moment height →
      arrival (height + blocks) ≤ moment + seconds) ↔ blocks * slowest ≤ seconds := by
  constructor
  · intro h
    have ht := h _ (noSlower_steady slowest moment height)
    unfold steady at ht
    rw [add_sub_cancel_left] at ht
    linarith
  · intro hl arrival ha
    obtain ⟨count, hk⟩ := Int.eq_ofNat_of_zero_le hb
    have hr := ha.reaches hp.le count
    rw [hk] at hl ⊢
    push_cast at hl
    linarith

end IntentSolver.EvmBlockTime
