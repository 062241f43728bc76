import IntentSolver.HexText
import Mathlib.Data.Int.Log
import Mathlib.Data.List.DropRight
import Mathlib.Data.Rat.Floor
import Mathlib.Tactic.NormNum

/-!
# What a text is as a number

`Number(text)` reads a whole text: white space around it, no text at all for nought, digits
with a fraction and an exponent, an infinity, or digits of another base after a mark. What it
reads is rounded to the nearest double, the even one of two. A double here is the rational it
stands for, and both zeros are one.
-/

namespace IntentSolver.JsNumber

open HexText

/-- What a text reads as. -/
inductive Number where
  /-- `NaN`. -/
  | nan
  | infinite (negative : Bool)
  | finite (value : ℚ)
  deriving DecidableEq

/-- The other sign. -/
def Number.neg : Number → Number
  | .nan => .nan
  | .infinite negative => .infinite !negative
  | .finite value => .finite (-value)

/-- `Number.isInteger`, with the integer. -/
def Number.integer : Number → Option ℤ
  | .finite value => if value.den = 1 then some value.num else none
  | _ => none

/-- How a number reads in a template, where `text` prints the finite ones. -/
def Number.print (text : ℚ → String) : Number → String
  | .nan => "NaN"
  | .infinite true => "-Infinity"
  | .infinite false => "Infinity"
  | .finite value => text value

/-- An integer is one. -/
theorem integer_int (value : ℤ) : (Number.finite value).integer = some value := by
  unfold Number.integer
  dsimp only
  rw [if_pos (Rat.den_intCast value), Rat.num_intCast]

/-- Nothing else is one. -/
theorem integer_eq_some {number : Number} {value : ℤ} (h : number.integer = some value) :
    number = .finite value := by
  unfold Number.integer at h
  split at h
  next rational =>
    split at h
    next hd =>
      rw [← Option.some.inj h, Rat.coe_int_num_of_den_eq_one hd]
    · cases h
  · cases h

/-! ## Doubles -/

/-- The nearest integer, the even one of two. -/
def roundHalfEven (value : ℚ) : ℤ :=
  if value - ⌊value⌋ < 1 / 2 then ⌊value⌋
  else if 1 / 2 < value - ⌊value⌋ then ⌊value⌋ + 1
  else if ⌊value⌋ % 2 = 0 then ⌊value⌋
  else ⌊value⌋ + 1

/-- The exponent of the last place of doubles around a value. -/
def lastPlace (value : ℚ) : ℤ := max (Int.log 2 |value| - 52) (-1074)

/-- The double nearest to a value. -/
def toDouble (value : ℚ) : Number :=
  let rounded := (roundHalfEven (value / 2 ^ lastPlace value) : ℚ) * 2 ^ lastPlace value
  if 2 ^ 1024 ≤ |rounded| then .infinite (decide (value < 0)) else .finite rounded

/-- Rounding keeps to integers below. -/
theorem le_roundHalfEven {value : ℚ} {bound : ℤ} (h : (bound : ℚ) ≤ value) :
    bound ≤ roundHalfEven value := by
  have hfloor : bound ≤ ⌊value⌋ := Int.le_floor.mpr h
  unfold roundHalfEven
  split_ifs <;> omega

/-- An integer is nearest to itself. -/
theorem roundHalfEven_int (value : ℤ) : roundHalfEven value = value := by
  unfold roundHalfEven
  rw [Int.floor_intCast, sub_self, if_pos (by norm_num)]

/-- An integer of at most 53 bits is a double. -/
theorem toDouble_int {value : ℤ} (h : |value| < 2 ^ 53) : toDouble value = .finite value := by
  have hscaled : ∃ scaled : ℤ,
      (value : ℚ) / 2 ^ lastPlace (value : ℚ) = scaled := by
    by_cases hz : value = 0
    · exact ⟨0, by rw [hz]; simp⟩
    · have hone : (1 : ℚ) ≤ |(value : ℚ)| := by
        rw [← Int.cast_abs]
        exact_mod_cast Int.one_le_abs hz
      have hlow : 0 ≤ Int.log 2 |(value : ℚ)| := by
        have hmono := Int.log_mono_right (b := 2) one_pos hone
        rwa [Int.log_one_right] at hmono
      have hhigh : Int.log 2 |(value : ℚ)| < 53 := by
        refine (Int.lt_zpow_iff_log_lt (by norm_num) (by linarith)).mp ?_
        rw [← Int.cast_abs]
        exact_mod_cast h
      obtain ⟨places, hp⟩ := Int.eq_ofNat_of_zero_le
        (show 0 ≤ 52 - Int.log 2 |(value : ℚ)| by omega)
      have hplace : lastPlace (value : ℚ) = -(places : ℤ) := by
        unfold lastPlace
        omega
      refine ⟨value * 2 ^ places, ?_⟩
      rw [hplace, zpow_neg, div_inv_eq_mul, zpow_natCast]
      push_cast
      rfl
  obtain ⟨scaled, hs⟩ := hscaled
  have hpos : (0 : ℚ) < 2 ^ lastPlace (value : ℚ) := zpow_pos (by norm_num) _
  have hback : (scaled : ℚ) * 2 ^ lastPlace (value : ℚ) = value := by
    rw [← hs, div_mul_cancel₀ _ hpos.ne']
  have hsmall : |(value : ℚ)| < 2 ^ 1024 := by
    have hcast : |(value : ℚ)| < 2 ^ 53 := by
      rw [← Int.cast_abs]
      exact_mod_cast h
    exact hcast.trans_le (pow_le_pow_right₀ (by norm_num) (by norm_num))
  unfold toDouble
  dsimp only
  rw [hs, roundHalfEven_int, hback, if_neg (not_le.mpr hsmall)]

/-- What is past the integers of 53 bits is not rounded back among them. -/
theorem toDouble_large {value rounded : ℚ} (h : 2 ^ 53 ≤ value)
    (hr : toDouble value = .finite rounded) : 2 ^ 53 ≤ rounded := by
  have hpos : 0 < value := lt_of_lt_of_le (by norm_num) h
  have habs : |value| = value := abs_of_pos hpos
  have hlog : 53 ≤ Int.log 2 value := by
    refine (Int.zpow_le_iff_le_log (by norm_num) hpos).mp ?_
    exact_mod_cast h
  have hself : (2 : ℚ) ^ Int.log 2 value ≤ value := by
    exact_mod_cast Int.zpow_log_le_self (b := 2) (by norm_num) hpos
  have hplace : lastPlace value = Int.log 2 value - 52 := by
    unfold lastPlace
    rw [habs]
    omega
  have hunit : (0 : ℚ) < 2 ^ lastPlace value := zpow_pos (by norm_num) _
  have hscaled : ((2 ^ 52 : ℤ) : ℚ) ≤ value / 2 ^ lastPlace value := by
    rw [le_div_iff₀ hunit, hplace]
    have hcast : ((2 ^ 52 : ℤ) : ℚ) = 2 ^ (52 : ℤ) := by norm_num
    rw [hcast, ← zpow_add₀ (by norm_num), add_sub_cancel]
    exact hself
  have hround : ((2 ^ 52 : ℤ) : ℚ) ≤ roundHalfEven (value / 2 ^ lastPlace value) := by
    exact_mod_cast le_roundHalfEven hscaled
  unfold toDouble at hr
  dsimp only at hr
  split at hr
  · cases hr
  · cases hr
    have hbig : (2 : ℚ) ^ (1 : ℤ) ≤ 2 ^ lastPlace value :=
      zpow_le_zpow_right₀ (by norm_num) (by omega)
    calc (2 : ℚ) ^ 53 = ((2 ^ 52 : ℤ) : ℚ) * 2 ^ (1 : ℤ) := by norm_num
      _ ≤ _ := mul_le_mul hround hbig (by norm_num) (le_trans (by norm_num) hround)

/-- A value past the integers of 53 bits rounds to one past them, or to infinity. -/
theorem toDouble_past {value : ℚ} (h : 2 ^ 53 ≤ value) :
    toDouble value = .infinite false ∨
      ∃ rounded, toDouble value = .finite rounded ∧ 2 ^ 53 ≤ rounded := by
  have hpos : ¬ value < 0 := not_lt.mpr (le_trans (by norm_num) h)
  cases hd : toDouble value with
  | nan =>
    unfold toDouble at hd
    dsimp only at hd
    split at hd <;> cases hd
  | infinite negative =>
    refine .inl ?_
    unfold toDouble at hd
    dsimp only at hd
    split at hd
    · rw [decide_eq_false hpos] at hd
      exact hd.symm
    · cases hd
  | finite rounded => exact .inr ⟨rounded, rfl, toDouble_large h hd⟩

/-! ## Arithmetic on doubles -/

/-- `a + b`. -/
def Number.add : Number → Number → Number
  | .finite first, .finite second => toDouble (first + second)
  | .finite _, .infinite negative => .infinite negative
  | .infinite negative, .finite _ => .infinite negative
  | .infinite first, .infinite second => if first = second then .infinite first else .nan
  | _, _ => .nan

/-- `a - b`. -/
def Number.sub (first second : Number) : Number := first.add second.neg

/-- `a * b`. -/
def Number.mul : Number → Number → Number
  | .finite first, .finite second => toDouble (first * second)
  | .finite value, .infinite negative =>
    if value = 0 then .nan else .infinite (xor negative (decide (value < 0)))
  | .infinite negative, .finite value =>
    if value = 0 then .nan else .infinite (xor negative (decide (value < 0)))
  | .infinite first, .infinite second => .infinite (xor first second)
  | _, _ => .nan

/-- `a < b`, which nothing is beside `NaN`. -/
def Number.less : Number → Number → Bool
  | .finite first, .finite second => decide (first < second)
  | .finite _, .infinite negative => !negative
  | .infinite negative, .finite _ => negative
  | .infinite first, .infinite second => first && !second
  | _, _ => false

/-- `a <= b`, which nothing is beside `NaN`. -/
def Number.atMost (first second : Number) : Bool :=
  first.less second || (first != .nan && first == second)

/-- Integers add up exactly while the sum has 53 bits. -/
theorem add_int {first second : ℤ} (h : |first + second| < 2 ^ 53) :
    (Number.finite first).add (.finite second) = .finite (first + second : ℤ) := by
  have hsum : (first : ℚ) + second = ((first + second : ℤ) : ℚ) := by push_cast; rfl
  unfold Number.add
  dsimp only
  rw [hsum, toDouble_int h]

/-- Integers are taken from each other exactly while the difference has 53 bits. -/
theorem sub_int {first second : ℤ} (h : |first - second| < 2 ^ 53) :
    (Number.finite first).sub (.finite second) = .finite (first - second : ℤ) := by
  have hneg : (Number.finite (second : ℚ)).neg = .finite ((-second : ℤ) : ℚ) := by
    unfold Number.neg
    dsimp only
    push_cast
    rfl
  have hd : |first + -second| < 2 ^ 53 := by rwa [← sub_eq_add_neg]
  unfold Number.sub
  rw [hneg, add_int hd, sub_eq_add_neg]

/-- What is less among finite numbers. -/
theorem less_finite (first second : ℚ) :
    (Number.finite first).less (.finite second) = true ↔ first < second := by
  unfold Number.less
  exact decide_eq_true_iff

/-- What is at most another among finite numbers. -/
theorem atMost_finite (first second : ℚ) :
    (Number.finite first).atMost (.finite second) = true ↔ first ≤ second := by
  unfold Number.atMost
  rw [Bool.or_eq_true, less_finite, le_iff_lt_or_eq]
  simp

/-! ## Texts -/

/-- White space and line ends. -/
def isSpace (char : Char) : Bool :=
  [0x09, 0x0A, 0x0B, 0x0C, 0x0D, 0x20, 0xA0, 0x1680, 0x2000, 0x2001, 0x2002, 0x2003, 0x2004,
    0x2005, 0x2006, 0x2007, 0x2008, 0x2009, 0x200A, 0x2028, 0x2029, 0x202F, 0x205F, 0x3000,
    0xFEFF].contains char.toNat

/-- A text without the white space around it. -/
def trim (chars : List Char) : List Char := (chars.dropWhile isSpace).rdropWhile isSpace

/-- Decimal digits as one number. -/
def digitsValue (digits : List Char) : ℕ := Nat.ofDigitChars 10 digits 0

/-- One or more decimal digits. -/
def decimalDigits (digits : List Char) : Option ℤ :=
  if digits ≠ [] ∧ digits.all Char.isDigit then some (digitsValue digits) else none

/-- What follows the digits: nothing, or an exponent. -/
def exponentOf : List Char → Option ℤ
  | [] => some 0
  | mark :: rest =>
    if mark = 'e' ∨ mark = 'E' then
      match rest with
      | '+' :: digits => decimalDigits digits
      | '-' :: digits => (decimalDigits digits).map Neg.neg
      | digits => decimalDigits digits
    else none

/-- A decimal without a sign. -/
def unsignedDecimal (chars : List Char) : Number :=
  if chars = "Infinity".toList then .infinite false
  else
    let whole := chars.takeWhile Char.isDigit
    let rest := chars.dropWhile Char.isDigit
    let fraction := if rest.head? = some '.' then rest.tail.takeWhile Char.isDigit else []
    let tail := if rest.head? = some '.' then rest.tail.dropWhile Char.isDigit else rest
    if whole = [] ∧ fraction = [] then .nan
    else
      match exponentOf tail with
      | none => .nan
      | some exponent =>
        toDouble (digitsValue (whole ++ fraction) * 10 ^ (exponent - fraction.length))

/-- A decimal with or without a sign. -/
def decimal : List Char → Number
  | '+' :: rest => unsignedDecimal rest
  | '-' :: rest => (unsignedDecimal rest).neg
  | chars => unsignedDecimal chars

/-- The base a mark stands for. -/
def radixOf (mark : Char) : Option ℕ :=
  if mark = 'x' ∨ mark = 'X' then some 16
  else if mark = 'o' ∨ mark = 'O' then some 8
  else if mark = 'b' ∨ mark = 'B' then some 2
  else none

/-- Digits of a base as one number. -/
def radixDigits (radix : ℕ) (digits : List Char) : Option ℕ :=
  if digits = [] then none
  else digits.foldlM (fun sum digit =>
    ((hexDigit digit).filter (· < radix)).map (sum * radix + ·)) 0

/-- Digits of another base; none where the text has no mark of one. -/
def nonDecimal : List Char → Option Number
  | '0' :: mark :: digits => (radixOf mark).map fun radix =>
    ((radixDigits radix digits).map fun value => toDouble value).getD .nan
  | _ => none

/-- `Number(text)`. -/
def toNumber (text : String) : Number :=
  let chars := trim text.toList
  if chars = [] then .finite 0 else (nonDecimal chars).getD (decimal chars)

/-! ## Digits -/

/-- A digit is no white space. -/
theorem isSpace_of_isDigit {char : Char} (h : char.isDigit = true) : isSpace char = false := by
  have hrange := Char.isDigit_iff_toNat.mp h
  rw [show '0'.toNat = 48 from rfl, show '9'.toNat = 57 from rfl] at hrange
  unfold isSpace
  rw [← Bool.not_eq_true, List.contains_iff_mem]
  intro hm
  simp only [List.mem_cons, List.not_mem_nil, or_false] at hm
  omega

/-- Nothing is trimmed from a text without white space. -/
theorem trim_eq {chars : List Char} (h : ∀ char ∈ chars, isSpace char = false) :
    trim chars = chars := by
  have hleft : chars.dropWhile isSpace = chars := by
    cases chars with
    | nil => rfl
    | cons char rest =>
      have hc := h char (List.mem_cons_self ..)
      exact List.dropWhile_cons_of_neg (by rw [hc]; exact Bool.false_ne_true)
  unfold trim
  rw [hleft, List.rdropWhile_eq_self_iff]
  intro hl hs
  rw [h _ (List.getLast_mem hl)] at hs
  cases hs

/-- Digits alone are an integer. -/
theorem unsignedDecimal_digits {digits : List Char} (hn : digits ≠ [])
    (hd : ∀ digit ∈ digits, digit.isDigit = true) :
    unsignedDecimal digits = toDouble (digitsValue digits) := by
  have htake : digits.takeWhile Char.isDigit = digits := List.takeWhile_eq_self_iff.mpr hd
  have hdrop : digits.dropWhile Char.isDigit = [] := List.dropWhile_eq_nil_iff.mpr hd
  have hword : digits ≠ "Infinity".toList := by
    intro he
    have hi := hd 'I' (by rw [he]; decide)
    exact absurd hi (by decide)
  unfold unsignedDecimal
  rw [if_neg hword, htake, hdrop]
  dsimp only
  rw [if_neg fun h => hn h.1]
  simp [exponentOf]

/-- The first of some digits. -/
theorem nonDecimal_digits {digits : List Char} (hd : ∀ digit ∈ digits, digit.isDigit = true) :
    nonDecimal digits = none := by
  unfold nonDecimal
  split
  · rename_i mark rest
    have hmark := hd mark (by simp)
    have hradix : radixOf mark = none := by
      unfold radixOf
      split_ifs with hx ho hb
      · obtain rfl | rfl := hx <;> exact absurd hmark (by decide)
      · obtain rfl | rfl := ho <;> exact absurd hmark (by decide)
      · obtain rfl | rfl := hb <;> exact absurd hmark (by decide)
      · rfl
    rw [hradix]
    rfl
  · rfl

/-- Digits alone carry no sign. -/
theorem decimal_digits {digits : List Char} (hd : ∀ digit ∈ digits, digit.isDigit = true) :
    decimal digits = unsignedDecimal digits := by
  unfold decimal
  split
  · exact absurd (hd '+' (by simp)) (by decide)
  · exact absurd (hd '-' (by simp)) (by decide)
  · rfl

/-- A text of digits is the double nearest to the integer they spell. -/
theorem toNumber_digits {digits : List Char} (hn : digits ≠ [])
    (hd : ∀ digit ∈ digits, digit.isDigit = true) :
    toNumber (String.ofList digits) = toDouble (digitsValue digits) := by
  have htrim : trim digits = digits := trim_eq fun digit hm => isSpace_of_isDigit (hd digit hm)
  unfold toNumber
  rw [String.toList_ofList, htrim]
  dsimp only
  rw [if_neg hn, nonDecimal_digits hd, Option.getD_none, decimal_digits hd,
    unsignedDecimal_digits hn hd]

/-- The same after a minus. -/
theorem toNumber_neg_digits {digits : List Char} (hn : digits ≠ [])
    (hd : ∀ digit ∈ digits, digit.isDigit = true) :
    toNumber (String.ofList ('-' :: digits)) = (toDouble (digitsValue digits)).neg := by
  have htrim : trim ('-' :: digits) = '-' :: digits := by
    refine trim_eq fun char hm => ?_
    obtain rfl | hm := List.mem_cons.mp hm
    · decide
    · exact isSpace_of_isDigit (hd char hm)
  have hradix : nonDecimal ('-' :: digits) = none := by
    unfold nonDecimal
    split
    · rename_i he
      cases he
    · rfl
  unfold toNumber
  rw [String.toList_ofList, htrim]
  dsimp only
  rw [if_neg (List.cons_ne_nil _ _), hradix, Option.getD_none, decimal,
    unsignedDecimal_digits hn hd]

/-! ## Integers that are written out -/

/-- The largest integer with neighbours a double tells apart. -/
def MAX_SAFE_INTEGER : ℤ := 2 ^ 53 - 1

/-- The digits of a number spell it. -/
theorem digitsValue_repr (value : ℕ) : digitsValue (Nat.repr value).toList = value := by
  unfold digitsValue
  rw [Nat.toList_repr]
  exact Nat.ofDigitChars_ten_toDigits

/-- The digits of a number are digits. -/
theorem isDigit_repr (value : ℕ) : ∀ digit ∈ (Nat.repr value).toList, digit.isDigit = true := by
  intro digit hm
  rw [Nat.toList_repr] at hm
  exact Nat.isDigit_of_mem_toDigits (by decide) (by decide) hm

/-- A number has digits. -/
theorem repr_toList_ne_nil (value : ℕ) : (Nat.repr value).toList ≠ [] := by
  rw [Nat.toList_repr]
  exact Nat.toDigits_ne_nil

/-- An integer that is written out reads as itself. -/
theorem toNumber_toString {value : ℤ} (h : |value| ≤ MAX_SAFE_INTEGER) :
    toNumber (toString value) = .finite value := by
  obtain ⟨hlow, hhigh⟩ := abs_le.mp h
  unfold MAX_SAFE_INTEGER at hlow hhigh
  cases value with
  | ofNat number =>
    rw [Int.ofNat_eq_natCast] at hhigh
    have hbound : |((number : ℕ) : ℤ)| < 2 ^ 53 := by
      rw [abs_lt]
      omega
    have htext : toString (Int.ofNat number) = String.ofList (Nat.repr number).toList := by
      rw [String.ofList_toList]
      rfl
    rw [htext, toNumber_digits (repr_toList_ne_nil _) (isDigit_repr _), digitsValue_repr]
    exact toDouble_int hbound
  | negSucc number =>
    have hbound : |((number + 1 : ℕ) : ℤ)| < 2 ^ 53 := by
      rw [abs_lt]
      omega
    have hread : toDouble ((number + 1 : ℕ) : ℚ) = .finite ((number + 1 : ℕ) : ℚ) :=
      toDouble_int hbound
    have htext : toString (Int.negSucc number) =
        String.ofList ('-' :: (Nat.repr (number + 1)).toList) := by
      rw [String.ofList_cons, String.ofList_toList]
      rfl
    rw [htext, toNumber_neg_digits (repr_toList_ne_nil _) (isDigit_repr _), digitsValue_repr,
      hread, Int.cast_negSucc]
    rfl

/-- What an integer is written with. -/
theorem mem_toString {value : ℤ} {char : Char} (h : char ∈ (toString value).toList) :
    char = '-' ∨ char.isDigit = true := by
  rw [Int.toString_eq_repr, Int.repr_eq_if] at h
  split at h
  · exact .inr (isDigit_repr _ char h)
  · rw [String.toList_append] at h
    obtain hm | hm := List.mem_append.mp h
    · exact .inl (List.mem_singleton.mp hm)
    · exact .inr (isDigit_repr _ char hm)

end IntentSolver.JsNumber
