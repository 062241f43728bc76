import Mathlib.Data.Nat.Notation
import Mathlib.Algebra.Order.Ring.Nat
import Mathlib.Data.List.Induction
import Mathlib.Tactic.Ring

/-!
# Numbers as big-endian bytes

A number's minimal big-endian bytes have no leading zero, and zero has none at all. They
read back as the number, and any bytes without a leading zero are the minimal bytes of
what they read as. Bytes of one length are told apart by their value, so padding to a
fixed width loses nothing.
-/

namespace IntentSolver.BigEndian

/-- A byte string. -/
abbrev Bytes : Type := List UInt8

/-- The number a byte string reads as, most significant byte first. -/
def value (bytes : Bytes) : ℕ := bytes.foldl (fun sum byte => sum * 256 + byte.toNat) 0

/-- The shortest byte string that reads as the number. -/
def minimalBytes (number : ℕ) : Bytes :=
  if number = 0 then [] else minimalBytes (number / 256) ++ [UInt8.ofNat (number % 256)]

/-- The byte string filled up with leading zeros. -/
def padded (width : ℕ) (bytes : Bytes) : Bytes :=
  List.replicate (width - bytes.length) 0 ++ bytes

/-- No bytes stand for zero. -/
theorem value_nil : value [] = 0 := rfl

/-- One more byte shifts the value by eight bits. -/
theorem value_concat (bytes : Bytes) (byte : UInt8) :
    value (bytes ++ [byte]) = value bytes * 256 + byte.toNat := by
  unfold value
  rw [List.foldl_append]
  rfl

/-- Zero is written with no bytes. -/
theorem minimalBytes_zero : minimalBytes 0 = [] := by
  rw [minimalBytes]
  rfl

/-- A positive number ends in its lowest byte. -/
theorem minimalBytes_pos {number : ℕ} (h : number ≠ 0) :
    minimalBytes number = minimalBytes (number / 256) ++ [UInt8.ofNat (number % 256)] := by
  rw [minimalBytes, if_neg h]

/-- A small number is one byte of itself. -/
theorem toNat_ofNat {number : ℕ} (h : number < 256) : (UInt8.ofNat number).toNat = number := by
  rw [UInt8.toNat_ofNat']
  exact Nat.mod_eq_of_lt h

/-- The minimal bytes read back as the number. -/
theorem value_minimalBytes (number : ℕ) : value (minimalBytes number) = number := by
  induction number using Nat.strongRecOn with
  | ind number ih =>
    by_cases h : number = 0
    · rw [h, minimalBytes_zero]
      rfl
    · rw [minimalBytes_pos h, value_concat, ih (number / 256) (by omega),
        toNat_ofNat (by omega)]
      omega

/-- The bytes do not start with a zero. -/
def Canonical (bytes : Bytes) : Prop := bytes.head? ≠ some 0

instance (bytes : Bytes) : Decidable (Canonical bytes) :=
  inferInstanceAs (Decidable (bytes.head? ≠ some 0))

/-- No bytes do not start with a zero. -/
theorem canonical_nil : Canonical [] := by
  unfold Canonical
  simp

/-- Only the first byte decides. -/
theorem canonical_append {bytes : Bytes} (h : bytes ≠ []) (rest : Bytes) :
    Canonical (bytes ++ rest) ↔ Canonical bytes := by
  unfold Canonical
  cases bytes with
  | nil => exact absurd rfl h
  | cons byte tail => rfl

/-- Minimal bytes are canonical. -/
theorem canonical_minimalBytes (number : ℕ) : Canonical (minimalBytes number) := by
  induction number using Nat.strongRecOn with
  | ind number ih =>
    by_cases h : number = 0
    · rw [h, minimalBytes_zero]
      exact canonical_nil
    · rw [minimalBytes_pos h]
      by_cases hq : number / 256 = 0
      · rw [hq, minimalBytes_zero]
        intro hz
        have hb : UInt8.ofNat (number % 256) = 0 := Option.some.inj hz
        have ht : (UInt8.ofNat (number % 256)).toNat = 0 := by rw [hb]; rfl
        rw [toNat_ofNat (by omega)] at ht
        omega
      · have hn : minimalBytes (number / 256) ≠ [] := by
          intro hz
          have hv := value_minimalBytes (number / 256)
          rw [hz] at hv
          exact hq hv.symm
        rw [canonical_append hn]
        exact ih (number / 256) (by omega)

/-- Bytes that start with no zero and read as zero are empty. -/
theorem value_pos {bytes : Bytes} (h : Canonical bytes) (hn : bytes ≠ []) : value bytes ≠ 0 := by
  induction bytes using List.reverseRecOn with
  | nil => exact absurd rfl hn
  | append_singleton bytes byte ih =>
    rw [value_concat]
    by_cases he : bytes = []
    · rw [he] at h ⊢
      intro hz
      rw [value_nil] at hz
      have hb : byte = 0 := UInt8.toNat_inj.mp (by rw [show byte.toNat = 0 by omega]; rfl)
      exact h (by rw [hb]; rfl)
    · have hv := ih ((canonical_append he _).mp h) he
      omega

/-- Bytes without a leading zero are the minimal bytes of their value. -/
theorem minimalBytes_value {bytes : Bytes} (h : Canonical bytes) :
    minimalBytes (value bytes) = bytes := by
  induction bytes using List.reverseRecOn with
  | nil => exact minimalBytes_zero
  | append_singleton bytes byte ih =>
    have hp := value_pos h (by simp)
    have hb := byte.toNat_lt
    have hd : value (bytes ++ [byte]) / 256 = value bytes := by
      rw [value_concat]
      omega
    have hm : value (bytes ++ [byte]) % 256 = byte.toNat := by
      rw [value_concat]
      omega
    rw [minimalBytes_pos hp, hd, hm, UInt8.ofNat_toNat]
    by_cases he : bytes = []
    · rw [he, value_nil, minimalBytes_zero]
    · rw [ih ((canonical_append he _).mp h)]

/-- A byte string of this length reads below this power. -/
theorem value_lt (bytes : Bytes) : value bytes < 256 ^ bytes.length := by
  induction bytes using List.reverseRecOn with
  | nil => simp [value_nil]
  | append_singleton bytes byte ih =>
    have hb := byte.toNat_lt
    rw [value_concat, List.length_append, List.length_singleton, pow_succ]
    omega

/-- A number below this power needs at most this many bytes. -/
theorem length_minimalBytes_le {number width : ℕ} (h : number < 256 ^ width) :
    (minimalBytes number).length ≤ width := by
  induction width generalizing number with
  | zero =>
    have hz : number = 0 := by simpa using h
    rw [hz, minimalBytes_zero]
    simp
  | succ width ih =>
    by_cases hz : number = 0
    · rw [hz, minimalBytes_zero]
      simp
    · rw [minimalBytes_pos hz, List.length_append, List.length_singleton]
      have hq : number / 256 < 256 ^ width := by
        rw [pow_succ] at h
        omega
      have hl := ih hq
      omega

/-- Bytes of one length with one value are the same bytes. -/
theorem eq_of_value_eq {first second : Bytes} (hl : first.length = second.length)
    (hv : value first = value second) : first = second := by
  induction first using List.reverseRecOn generalizing second with
  | nil =>
    rw [List.length_nil] at hl
    exact (List.length_eq_zero_iff.mp hl.symm).symm
  | append_singleton first byte ih =>
    obtain rfl | ⟨rest, last, rfl⟩ := List.eq_nil_or_concat second
    · simp at hl
    · rw [value_concat, List.concat_eq_append, value_concat] at hv
      rw [List.concat_eq_append] at hl ⊢
      simp only [List.length_append, List.length_singleton] at hl
      have h1 := byte.toNat_lt
      have h2 := last.toNat_lt
      have hr := ih (by omega) (show value first = value rest by omega)
      have hb : byte = last := UInt8.toNat_inj.mp (by omega)
      rw [hr, hb]

/-- Leading zeros do not change the value. -/
theorem value_padded (width : ℕ) (bytes : Bytes) : value (padded width bytes) = value bytes := by
  unfold padded
  induction width - bytes.length with
  | zero => rfl
  | succ count ih =>
    rw [List.replicate_succ, List.cons_append]
    exact ih

/-- Padding fills up to the width. -/
theorem length_padded {width : ℕ} {bytes : Bytes} (h : bytes.length ≤ width) :
    (padded width bytes).length = width := by
  unfold padded
  rw [List.length_append, List.length_replicate]
  omega

/-- Stripping leading zeros and padding again gives the padded bytes. -/
theorem padded_minimalBytes {width : ℕ} {bytes : Bytes} (h : bytes.length ≤ width) :
    padded width (minimalBytes (value bytes)) = padded width bytes := by
  have hm : (minimalBytes (value bytes)).length ≤ width :=
    (length_minimalBytes_le (value_lt bytes)).trans h
  refine eq_of_value_eq ?_ ?_
  · rw [length_padded hm, length_padded h]
  · rw [value_padded, value_padded, value_minimalBytes]

end IntentSolver.BigEndian
