import IntentSolver.JsonPointer
import IntentSolver.PriceFeed

/-!
# Reading a price out of a feed

A feed answers a JSON document and the operator points at the price in it. A pointer is looked
over before it is used, by taking its escapes out one kind after the other. Tokens are read the
same way, and one that meets an array is read as a number in any spelling.
-/

namespace IntentSolver.PricePointer

open EvmClaimAnswers (Json)
open JsNumber JsonPointer PriceFeed

/-- Why no price is read. -/
inductive PriceFault where
  /-- Neither a number nor a text. -/
  | notNumeric
  /-- No plain decimal. -/
  | notPlain (text : String)
  | notPositive (text : String)
  | outOfRange (pointer token : String)
  | noKey (pointer token : String)
  | cannotDescend (pointer token : String)
  deriving DecidableEq

/-- Why a pointer is refused. -/
inductive PathFault where
  /-- It does not start with a slash. -/
  | noSlash
  /-- A tilde is not escaped. -/
  | bareTilde
  deriving DecidableEq

/-! ## A value as a price -/

/-- Digits, and after a point more digits. -/
def decimalParts (chars : List Char) : Option (List Char × List Char) :=
  let whole := chars.takeWhile Char.isDigit
  if whole = [] then none
  else
    match chars.dropWhile Char.isDigit with
    | [] => some (whole, [])
    | mark :: fraction =>
      if mark = '.' ∧ fraction ≠ [] ∧ fraction.all Char.isDigit then some (whole, fraction)
      else none

/-- The text a value is read from; `text` is how a number is written. -/
def shown (text : ℚ → String) : Json → Option String
  | .number value => some (text value)
  | .text value => some (String.ofList (trim value.toList))
  | _ => none

/-- Read a price from a feed value, exactly. -/
def priceFrom (text : ℚ → String) (value : Json) : Except PriceFault Price :=
  match shown text value with
  | none => .error .notNumeric
  | some shown =>
    match decimalParts shown.toList with
    | none => .error (.notPlain shown)
    | some (whole, fraction) =>
      if digitsValue (whole ++ fraction) = 0 then .error (.notPositive shown)
      else .ok ⟨digitsValue (whole ++ fraction), fraction.length⟩

/-- A plain decimal writes out this number: digits, and after a point more digits. -/
inductive Decimal : List Char → ℚ → Prop where
  | whole {digits : List Char} (hn : digits ≠ []) (hd : ∀ char ∈ digits, char.isDigit = true) :
    Decimal digits (digitsValue digits)
  | pointed {whole fraction : List Char} (hw : whole ≠ []) (hf : fraction ≠ [])
    (hd : ∀ char ∈ whole ++ fraction, char.isDigit = true) :
    Decimal (whole ++ '.' :: fraction)
      (digitsValue whole + digitsValue fraction / 10 ^ fraction.length)

/-- The number a price stands for. -/
def worth (price : Price) : ℚ := price.mantissa / 10 ^ price.scale

/-- Digits behind a point are so many tenths, hundredths and so on. -/
theorem worth_digits (whole fraction : List Char) :
    worth ⟨digitsValue (whole ++ fraction), fraction.length⟩ =
      digitsValue whole + digitsValue fraction / 10 ^ fraction.length := by
  have hvalue : digitsValue (whole ++ fraction) =
      10 ^ fraction.length * digitsValue whole + digitsValue fraction := by
    unfold digitsValue
    rw [Nat.ofDigitChars_append, Nat.ofDigitChars_eq_ofDigitChars_zero]
  have hpos : (10 : ℚ) ^ fraction.length ≠ 0 := by positivity
  unfold worth
  rw [hvalue]
  push_cast
  field_simp

/-- The digits a text is taken apart into make it up again. -/
theorem decimalParts_iff {chars whole fraction : List Char} :
    decimalParts chars = some (whole, fraction) ↔
      whole ≠ [] ∧ (∀ char ∈ whole ++ fraction, char.isDigit = true) ∧
        (fraction = [] ∧ chars = whole ∨ fraction ≠ [] ∧ chars = whole ++ '.' :: fraction) := by
  constructor
  · intro h
    unfold decimalParts at h
    dsimp only at h
    have hall := List.takeWhile_append_dropWhile (p := Char.isDigit) (l := chars)
    have hdigits : ∀ char ∈ chars.takeWhile Char.isDigit, char.isDigit = true :=
      fun char hm => List.mem_takeWhile_imp hm
    split at h
    · cases h
    next hn =>
    split at h
    next hdrop =>
      cases h
      rw [hdrop, List.append_nil] at hall
      exact ⟨hn, by simpa using hdigits, .inl ⟨rfl, hall.symm⟩⟩
    next mark rest hdrop =>
      split at h
      next hpoint =>
        cases h
        obtain ⟨rfl, hf, hrest⟩ := hpoint
        rw [hdrop] at hall
        refine ⟨hn, fun char hm => ?_, .inr ⟨hf, hall.symm⟩⟩
        obtain hw | hf := List.mem_append.mp hm
        · exact hdigits char hw
        · exact List.all_eq_true.mp hrest char hf
      next => cases h
  · rintro ⟨hn, hd, ⟨rfl, rfl⟩ | ⟨hf, rfl⟩⟩
    · have hd : ∀ char ∈ chars, char.isDigit = true := by simpa using hd
      have htake := List.takeWhile_eq_self_iff.mpr hd
      have hdrop := List.dropWhile_eq_nil_iff.mpr hd
      unfold decimalParts
      rw [htake, hdrop, if_neg hn]
    · have hw : ∀ char ∈ whole, char.isDigit = true :=
        fun char hm => hd char (List.mem_append_left _ hm)
      have hfraction : fraction.all Char.isDigit = true :=
        List.all_eq_true.mpr fun char hm => hd char (List.mem_append_right _ hm)
      have htake : (whole ++ '.' :: fraction).takeWhile Char.isDigit = whole := by
        rw [List.takeWhile_append_of_pos hw]
        simp
      have hdrop : (whole ++ '.' :: fraction).dropWhile Char.isDigit = '.' :: fraction := by
        rw [List.dropWhile_append_of_pos hw]
        simp
      unfold decimalParts
      rw [htake, hdrop, if_neg hn]
      dsimp only
      rw [if_pos ⟨rfl, hf, hfraction⟩]

/-- A price is read exactly where a plain positive decimal is written, and it is that number. -/
theorem priceFrom_iff {text : ℚ → String} {value : Json} {number : ℚ} :
    (∃ price, priceFrom text value = .ok price ∧ worth price = number) ↔
      ∃ written, shown text value = some written ∧ Decimal written.toList number ∧
        0 < number := by
  have hpositive : ∀ whole fraction : List Char, digitsValue (whole ++ fraction) ≠ 0 ↔
      0 < worth ⟨digitsValue (whole ++ fraction), fraction.length⟩ := by
    intro whole fraction
    have hpos : (0 : ℚ) < 10 ^ fraction.length := by positivity
    unfold worth
    rw [div_pos_iff_of_pos_right hpos]
    push_cast
    rw [Nat.cast_pos, Nat.pos_iff_ne_zero]
  constructor
  · rintro ⟨price, hprice, rfl⟩
    unfold priceFrom at hprice
    split at hprice
    · cases hprice
    next written hwritten =>
    split at hprice
    · cases hprice
    next whole fraction hparts =>
    split at hprice
    · cases hprice
    next hzero =>
    cases hprice
    obtain ⟨hn, hd, ⟨rfl, hchars⟩ | ⟨hf, hchars⟩⟩ := decimalParts_iff.mp hparts
    · refine ⟨written, hwritten, ?_, (hpositive whole []).mp hzero⟩
      rw [hchars, worth_digits]
      have hdecimal := Decimal.whole hn (by simpa using hd)
      simpa [digitsValue] using hdecimal
    · refine ⟨written, hwritten, ?_, (hpositive whole fraction).mp hzero⟩
      rw [hchars, worth_digits]
      exact .pointed hn hf hd
  · rintro ⟨written, hwritten, hdecimal, hnumber⟩
    obtain ⟨whole, fraction, hparts, hworth⟩ : ∃ whole fraction,
        decimalParts written.toList = some (whole, fraction) ∧
          worth ⟨digitsValue (whole ++ fraction), fraction.length⟩ = number := by
      generalize written.toList = chars at hdecimal
      cases hdecimal with
      | whole hn hd =>
        refine ⟨chars, [], decimalParts_iff.mpr ⟨hn, by simpa using hd, .inl ⟨rfl, rfl⟩⟩, ?_⟩
        rw [worth_digits]
        simp [digitsValue]
      | pointed hw hf hd =>
        exact ⟨_, _, decimalParts_iff.mpr ⟨hw, hd, .inr ⟨hf, rfl⟩⟩, worth_digits _ _⟩
    rw [← hworth] at hnumber
    refine ⟨_, ?_, hworth⟩
    unfold priceFrom
    rw [hwritten]
    dsimp only
    rw [hparts]
    exact if_neg ((hpositive whole fraction).mpr hnumber)

/-! ## Looking a pointer over -/

/-- Every escape of a tilde, replaced from the left. -/
def replaceAll (digit : Char) (replacement : List Char) : List Char → List Char
  | [] => []
  | [char] => [char]
  | first :: second :: rest =>
    if first = '~' ∧ second = digit then replacement ++ replaceAll digit replacement rest
    else first :: replaceAll digit replacement (second :: rest)

/-- Refuse a pointer that is not RFC 6901 shaped. -/
def validatePricePath (pointer : String) : Except PathFault Unit :=
  if pointer = "" then .ok ()
  else if pointer.toList.head? ≠ some '/' then .error .noSlash
  else if '~' ∈ replaceAll '1' [] (replaceAll '0' [] pointer.toList) then .error .bareTilde
  else .ok ()

/-! ## Walking a document -/

/-- What a step can lead to: a part of the document, or what every object inherits. -/
inductive Node where
  | json (value : Json)
  /-- A function of `Object.prototype`. -/
  | function
  /-- `Object.prototype` itself. -/
  | prototype

/-- The functions every object inherits. -/
def inheritedFunctions : List String :=
  ["constructor", "__defineGetter__", "__defineSetter__", "hasOwnProperty", "__lookupGetter__",
    "__lookupSetter__", "isPrototypeOf", "propertyIsEnumerable", "toString", "valueOf",
    "toLocaleString"]

/-- What an object has by a name it does not hold itself. -/
def inherited (token : String) : Option Node :=
  if inheritedFunctions.contains token then some .function
  else if token = "__proto__" then some .prototype
  else none

/-- One token further. -/
def descend (pointer : String) (node : Node) (token : String) : Except PriceFault Node :=
  match node with
  | .json (.array items) =>
    match (toNumber token).integer with
    | none => .error (.outOfRange pointer token)
    | some index =>
      if index < 0 then .error (.outOfRange pointer token)
      else match items[index.toNat]? with
        | none => .error (.outOfRange pointer token)
        | some item => .ok (.json item)
  | .json (.object fields) =>
    match fields.lookup token with
    | some value => .ok (.json value)
    | none =>
      match inherited token with
      | some node => .ok node
      | none => .error (.noKey pointer token)
  | .prototype =>
    if inheritedFunctions.contains token then .ok .function
    else if token = "__proto__" then .ok (.json .null)
    else .error (.noKey pointer token)
  | _ => .error (.cannotDescend pointer token)

/-- The tokens the code reads. -/
def readTokens (pointer : List Char) : List String :=
  ((if pointer.head? = some '/' then pointer.tail else pointer).splitOn '/').map fun raw =>
    String.ofList (replaceAll '0' ['~'] (replaceAll '1' ['/'] raw))

/-- A node as a price. -/
def priceOf (text : ℚ → String) : Node → Except PriceFault Price
  | .json value => priceFrom text value
  | _ => .error .notNumeric

/-- Walk a pointer into a document and read the price. -/
def resolvePrice (text : ℚ → String) (body : Json) (pointer : String) : Except PriceFault Price :=
  if pointer = "" then priceFrom text body
  else do
    let node ← (readTokens pointer.toList).foldlM (descend pointer) (.json body)
    priceOf text node

/-! ## What is accepted -/

/-- One step of a text that is accepted. -/
inductive Piece where
  | plain (char : Char) (h : char ≠ '~')
  /-- `~0`. -/
  | tilde
  /-- A tilde, so many `~0` and a `1`. Without any it is the escape of a slash. -/
  | slash (between : ℕ)

/-- So many `~0`. -/
def tildes : ℕ → List Char
  | 0 => []
  | count + 1 => '~' :: '0' :: tildes count

/-- Its characters. -/
def Piece.chars : Piece → List Char
  | .plain char _ => [char]
  | .tilde => ['~', '0']
  | .slash between => '~' :: (tildes between ++ ['1'])

/-- What is left of it once `~0` is taken out. -/
def Piece.reduced : Piece → List Char
  | .plain char _ => [char]
  | .tilde => []
  | .slash _ => ['~', '1']

/-- A match is replaced and the search goes on behind it. -/
theorem replaceAll_match (digit : Char) (replacement rest : List Char) :
    replaceAll digit replacement ('~' :: digit :: rest) =
      replacement ++ replaceAll digit replacement rest := by
  rw [replaceAll, if_pos ⟨rfl, rfl⟩]

/-- A character that begins no escape of the digit stays. -/
theorem replaceAll_cons {digit char : Char} (replacement rest : List Char)
    (h : char ≠ '~' ∨ rest.head? ≠ some digit) :
    replaceAll digit replacement (char :: rest) = char :: replaceAll digit replacement rest := by
  cases rest with
  | nil => rfl
  | cons second rest =>
    rw [replaceAll, if_neg]
    intro he
    obtain hc | hd := h
    · exact hc he.1
    · exact hd (congrArg some he.2)

/-- Tildes and zeros are taken out in front. -/
theorem replaceAll_tildes (count : ℕ) (rest : List Char) :
    replaceAll '0' [] (tildes count ++ rest) = replaceAll '0' [] rest := by
  induction count with
  | zero => rfl
  | succ count ih =>
    rw [tildes, List.cons_append, List.cons_append, replaceAll_match, ih]
    rfl

/-- Taking `~0` out of the pieces. -/
theorem replaceAll_pieces (pieces : List Piece) :
    replaceAll '0' [] (pieces.flatMap Piece.chars) = pieces.flatMap Piece.reduced := by
  induction pieces with
  | nil => rfl
  | cons piece rest ih =>
    rw [List.flatMap_cons, List.flatMap_cons, ← ih]
    cases piece with
    | plain char h => exact replaceAll_cons [] _ (.inl h)
    | tilde => exact replaceAll_match '0' [] _
    | slash between =>
      have hfirst : (tildes between ++ '1' :: rest.flatMap Piece.chars).head? ≠ some '0' := by
        cases between with
        | zero => simp [tildes]
        | succ between => simp [tildes]
      have hchars : (Piece.slash between).chars ++ rest.flatMap Piece.chars =
          '~' :: (tildes between ++ '1' :: rest.flatMap Piece.chars) := by
        simp [Piece.chars]
      rw [hchars, replaceAll_cons [] _ (.inr hfirst), replaceAll_tildes,
        replaceAll_cons [] _ (.inl (by decide))]
      rfl

/-- Taking `~1` out as well leaves no tilde. -/
theorem tilde_not_mem_pieces (pieces : List Piece) :
    '~' ∉ replaceAll '1' [] (replaceAll '0' [] (pieces.flatMap Piece.chars)) := by
  rw [replaceAll_pieces]
  induction pieces with
  | nil => simp [replaceAll]
  | cons piece rest ih =>
    rw [List.flatMap_cons]
    cases piece with
    | plain char h =>
      change '~' ∉ replaceAll '1' [] (char :: rest.flatMap Piece.reduced)
      rw [replaceAll_cons [] _ (.inl h), List.mem_cons, not_or]
      exact ⟨fun he => h he.symm, ih⟩
    | tilde => exact ih
    | slash between =>
      change '~' ∉ replaceAll '1' [] ('~' :: '1' :: rest.flatMap Piece.reduced)
      rw [replaceAll_match]
      exact ih

/-- A text that begins with `1` once `~0` is taken out. -/
theorem begins_with_one {chars left : List Char} (h : replaceAll '0' [] chars = '1' :: left) :
    ∃ count rest, chars = tildes count ++ '1' :: rest ∧ replaceAll '0' [] rest = left := by
  induction chars using escapedOk.induct with
  | case1 => cases h
  | case2 char =>
    cases h
    exact ⟨0, [], rfl, rfl⟩
  | case3 digit rest ih =>
    by_cases hd : digit = '0'
    · rw [hd, replaceAll_match] at h
      obtain ⟨count, later, hr, hl⟩ := ih h
      refine ⟨count + 1, later, ?_, hl⟩
      rw [hd, hr]
      rfl
    · rw [replaceAll_cons [] _ (.inr (by simpa using hd))] at h
      cases h
  | case4 char digit rest hc ih =>
    rw [replaceAll_cons [] _ (.inl hc)] at h
    cases h
    exact ⟨0, digit :: rest, rfl, rfl⟩

/-- A text in which no tilde is left is made of pieces. -/
theorem exists_pieces (chars : List Char)
    (h : '~' ∉ replaceAll '1' [] (replaceAll '0' [] chars)) :
    ∃ pieces : List Piece, chars = pieces.flatMap Piece.chars := by
  induction hlen : chars.length using Nat.strong_induction_on generalizing chars with
  | _ length ih =>
    cases chars with
    | nil => exact ⟨[], rfl⟩
    | cons first rest =>
      rw [List.length_cons] at hlen
      by_cases hf : first = '~'
      · rw [hf] at h ⊢
        cases rest with
        | nil => exact absurd h (by decide)
        | cons second rest =>
          rw [List.length_cons] at hlen
          by_cases hs : second = '0'
          · rw [hs, replaceAll_match] at h
            obtain ⟨pieces, hp⟩ := ih rest.length (by omega) rest h rfl
            refine ⟨.tilde :: pieces, ?_⟩
            rw [hs, List.flatMap_cons, ← hp]
            rfl
          · rw [replaceAll_cons [] _ (.inr (by simpa using hs))] at h
            -- the tilde is taken out only as the escape of a slash
            generalize hleft : replaceAll '0' [] (second :: rest) = left at h
            obtain ⟨later, rfl⟩ : ∃ later, left = '1' :: later := by
              by_contra hne
              refine h ?_
              rw [replaceAll_cons [] left (.inr ?_)]
              · exact List.mem_cons_self ..
              · intro hh
                obtain ⟨later, rfl⟩ := List.head?_eq_some_iff.mp hh
                exact hne ⟨later, rfl⟩
            obtain ⟨count, more, hm, hl⟩ := begins_with_one hleft
            rw [replaceAll_match, ← hl] at h
            have hshort : more.length < length := by
              have hcount := congrArg List.length hm
              rw [List.length_append, List.length_cons, List.length_cons] at hcount
              omega
            obtain ⟨pieces, hp⟩ := ih more.length hshort more h rfl
            refine ⟨.slash count :: pieces, ?_⟩
            rw [List.flatMap_cons, ← hp, hm]
            simp [Piece.chars]
      · rw [replaceAll_cons [] _ (.inl hf), replaceAll_cons [] _ (.inl hf), List.mem_cons,
          not_or] at h
        obtain ⟨pieces, hp⟩ := ih rest.length (by omega) rest h.2 rfl
        refine ⟨.plain first hf :: pieces, ?_⟩
        rw [List.flatMap_cons, ← hp]
        rfl

/-- The pieces are those of a pointer when no tilde is followed by both digits. -/
theorem escapedOk_pieces (pieces : List Piece) :
    escapedOk (pieces.flatMap Piece.chars) = true ↔
      ∀ between, Piece.slash between ∈ pieces → between = 0 := by
  induction pieces with
  | nil => simp [escapedOk]
  | cons piece rest ih =>
    rw [List.flatMap_cons]
    cases piece with
    | plain char h =>
      rw [show (Piece.plain char h).chars ++ rest.flatMap Piece.chars =
        char :: rest.flatMap Piece.chars from rfl, escapedOk_cons _ h, ih]
      simp
    | tilde =>
      rw [show Piece.tilde.chars ++ rest.flatMap Piece.chars =
        '~' :: '0' :: rest.flatMap Piece.chars from rfl, escapedOk_escape _ _ (.inl rfl), ih]
      simp
    | slash between =>
      cases between with
      | zero =>
        rw [show (Piece.slash 0).chars ++ rest.flatMap Piece.chars =
          '~' :: '1' :: rest.flatMap Piece.chars from rfl, escapedOk_escape _ _ (.inr rfl), ih]
        simp
      | succ between =>
        have hbad : escapedOk ((Piece.slash (between + 1)).chars ++ rest.flatMap Piece.chars) =
            false := by
          change escapedOk ('~' :: '~' :: _) = false
          rw [escapedOk, if_pos rfl]
          rfl
        rw [hbad]
        simp only [Bool.false_eq_true, false_iff]
        intro hall
        exact absurd (hall (between + 1) (List.mem_cons_self ..)) (Nat.succ_ne_zero between)

/-- A pointer that is taken for one: somewhere a tilde is followed by one or more `~0` and then
by `1`. -/
def Slips (pointer : List Char) : Prop :=
  pointer.head? = some '/' ∧ ∃ pieces : List Piece, pointer = pieces.flatMap Piece.chars ∧
    ∃ between, 0 < between ∧ Piece.slash between ∈ pieces

/-- What is accepted: nothing, or pieces after a slash. -/
theorem validatePricePath_iff (pointer : String) : validatePricePath pointer = .ok () ↔
    pointer = "" ∨ pointer.toList.head? = some '/' ∧
      ∃ pieces : List Piece, pointer.toList = pieces.flatMap Piece.chars := by
  unfold validatePricePath
  split_ifs with he hh ht
  · simp [he]
  · simp [he, hh]
  · simp only [he, false_or, false_iff, not_and, not_exists]
    intro _ pieces hp
    rw [hp] at ht
    exact tilde_not_mem_pieces pieces ht
  · simp only [he, false_or, true_iff]
    exact ⟨not_not.mp hh, exists_pieces _ ht⟩

/-- A pointer is made of pieces. -/
theorem pieces_of_escapedOk {chars : List Char} (h : escapedOk chars = true) :
    ∃ pieces : List Piece, chars = pieces.flatMap Piece.chars := by
  induction chars using escapedOk.induct with
  | case1 => exact ⟨[], rfl⟩
  | case2 char => exact ⟨[.plain char (of_decide_eq_true h)], rfl⟩
  | case3 digit rest ih =>
    rw [escapedOk, if_pos rfl, Bool.and_eq_true, Bool.or_eq_true, decide_eq_true_eq,
      decide_eq_true_eq] at h
    obtain ⟨pieces, hp⟩ := ih h.2
    obtain rfl | rfl := h.1
    · exact ⟨.tilde :: pieces, by rw [hp]; rfl⟩
    · exact ⟨.slash 0 :: pieces, by rw [hp]; rfl⟩
  | case4 char digit rest hc ih =>
    rw [escapedOk, if_neg hc] at h
    obtain ⟨pieces, hp⟩ := ih h
    exact ⟨.plain char hc :: pieces, by rw [hp]; rfl⟩

/-- A pointer is accepted. -/
theorem validatePricePath_wellFormed {pointer : String} (h : WellFormed pointer.toList) :
    validatePricePath pointer = .ok () := by
  refine (validatePricePath_iff pointer).mpr ?_
  obtain he | ⟨hh, hok⟩ := h
  · exact .inl (String.toList_eq_nil_iff.mp he)
  · exact .inr ⟨hh, pieces_of_escapedOk hok⟩

/-- The right pointers are accepted exactly where this one is none that slips through. -/
theorem accepts_iff (pointer : String) :
    (validatePricePath pointer = .ok () ↔ WellFormed pointer.toList) ↔ ¬ Slips pointer.toList := by
  constructor
  · intro h hs
    obtain ⟨hh, pieces, hp, between, hb, hm⟩ := hs
    obtain he | ⟨-, hok⟩ := h.mp ((validatePricePath_iff pointer).mpr (.inr ⟨hh, pieces, hp⟩))
    · rw [he] at hh
      cases hh
    · rw [hp, escapedOk_pieces] at hok
      exact absurd (hok between hm) hb.ne'
  · intro hs
    refine ⟨fun h => ?_, validatePricePath_wellFormed⟩
    obtain rfl | ⟨hh, pieces, hp⟩ := (validatePricePath_iff pointer).mp h
    · exact .inl rfl
    · refine .inr ⟨hh, ?_⟩
      rw [hp, escapedOk_pieces]
      intro between hm
      by_contra hb
      exact hs ⟨hh, pieces, hp, between, Nat.pos_of_ne_zero hb, hm⟩

/-! ## What is read -/

/-- In a token whose tildes are escaped, replacing one kind of escape after the other is
reading it from the left. -/
theorem replaceAll_eq_unescape {token : List Char} (h : escapedOk token = true) :
    replaceAll '0' ['~'] (replaceAll '1' ['/'] token) = unescape token := by
  induction token using escapedOk.induct with
  | case1 => rfl
  | case2 char => rfl
  | case3 digit rest ih =>
    rw [escapedOk, if_pos rfl, Bool.and_eq_true, Bool.or_eq_true, decide_eq_true_eq,
      decide_eq_true_eq] at h
    obtain ⟨rfl | rfl, hrest⟩ := h
    · have hslash : replaceAll '1' ['/'] ('~' :: '0' :: rest) =
          '~' :: '0' :: replaceAll '1' ['/'] rest := by
        rw [replaceAll_cons _ _ (.inr (by simp)), replaceAll_cons _ _ (.inl (by decide))]
      rw [hslash, replaceAll_match, unescape_tilde, ih hrest]
      rfl
    · rw [replaceAll_match, List.singleton_append, replaceAll_cons _ _ (.inl (by decide)),
        unescape_slash, ih hrest]
  | case4 char digit rest hc ih =>
    rw [escapedOk, if_neg hc] at h
    rw [replaceAll_cons _ _ (.inl hc), replaceAll_cons _ _ (.inl hc), unescape_cons _ hc, ih h]

/-- The tokens of a pointer are read. -/
theorem readTokens_eq {pointer : List Char} (h : WellFormed pointer) (hn : pointer ≠ []) :
    readTokens pointer = tokens pointer := by
  obtain he | ⟨hh, hok⟩ := h
  · exact absurd he hn
  · obtain ⟨rest, rfl⟩ := List.head?_eq_some_iff.mp hh
    rw [escapedOk_cons _ (by decide)] at hok
    unfold readTokens tokens
    rw [if_pos hh]
    refine List.map_congr_left fun token hm => ?_
    rw [replaceAll_eq_unescape (escapedOk_tokens hok token hm)]

/-- Every array has the items an array can have. -/
inductive Held : Json → Prop where
  | null : Held .null
  | bool (value : Bool) : Held (.bool value)
  | number (value : ℚ) : Held (.number value)
  | text (value : String) : Held (.text value)
  | array (items : List Json) (h : items.length < 2 ^ 32) (all : ∀ item ∈ items, Held item) :
    Held (.array items)
  | object (fields : List (String × Json)) (all : ∀ field ∈ fields, Held field.2) :
    Held (.object fields)

/-- A token that reads as the number of an item and is no such number. -/
def Misread (token : String) : Prop :=
  canonicalIndex token = none ∧
    ∃ index : ℕ, (toNumber token).integer = some (index : ℤ) ∧ index < 2 ^ 32 - 1

/-- The item of an array a token is read as. -/
def itemAt (items : List Json) (token : String) : Option Json :=
  match (toNumber token).integer with
  | none => none
  | some index => if index < 0 then none else items[index.toNat]?

/-- A step into an array. -/
theorem descend_array (pointer token : String) (items : List Json) :
    descend pointer (.json (.array items)) token =
      match itemAt items token with
      | none => .error (.outOfRange pointer token)
      | some item => .ok (.json item) := by
  unfold descend itemAt
  cases (toNumber token).integer with
  | none => rfl
  | some index =>
    dsimp only
    split_ifs <;> rfl

/-- The number of an item reads as it is. -/
theorem itemAt_canonical {token : String} {index : ℕ} (h : canonicalIndex token = some index)
    {items : List Json} (hi : items.length < 2 ^ 32) : itemAt items token = items[index]? := by
  obtain ⟨hn, hd, hv⟩ := canonicalIndex_digits h
  have hread : toNumber token = toDouble (index : ℚ) := by
    have htext := toNumber_digits hn hd
    rw [String.ofList_toList, ← hv] at htext
    exact htext
  unfold itemAt
  obtain hsmall | hlarge := Nat.lt_or_ge index (2 ^ 53)
  · have hint : toDouble (index : ℚ) = .finite ((index : ℤ) : ℚ) := by
      refine @toDouble_int (index : ℤ) ?_
      rw [abs_of_nonneg (Int.natCast_nonneg index)]
      exact_mod_cast hsmall
    rw [hread, hint, integer_int]
    dsimp only
    rw [if_neg (by omega), Int.toNat_natCast]
  · have hout : items[index]? = none := List.getElem?_eq_none (by omega)
    rw [hread, hout]
    cases hr : toDouble (index : ℚ) with
    | nan => rfl
    | infinite negative => rfl
    | finite value =>
      have hbig : (2 : ℚ) ^ 53 ≤ value := toDouble_large (by exact_mod_cast hlarge) hr
      unfold Number.integer
      dsimp only
      split_ifs with hden
      · have hnum : (value.num : ℚ) = value := (Rat.den_eq_one_iff value).mp hden
        have hint : (2 : ℤ) ^ 53 ≤ value.num := by
          rw [← hnum] at hbig
          exact_mod_cast hbig
        dsimp only
        rw [if_neg (by omega), List.getElem?_eq_none (by omega)]
      · rfl

/-- No item is read by a token that is no number, unless it is misread. -/
theorem itemAt_none {token : String} (h : canonicalIndex token = none) (hm : ¬ Misread token)
    {items : List Json} (hi : items.length < 2 ^ 32) : itemAt items token = none := by
  unfold itemAt
  cases hr : (toNumber token).integer with
  | none => rfl
  | some index =>
    dsimp only
    split_ifs with hneg
    · rfl
    · refine List.getElem?_eq_none ?_
      by_contra hlt
      refine hm ⟨h, index.toNat, ?_, by omega⟩
      rw [hr, Int.toNat_of_nonneg (by omega)]

section Walking

variable {text : ℚ → String} (pointer : String)

/-- Nothing a walk leads to from here is a price. -/
def Dead : Node → Prop
  | .json value => value = .null
  | _ => True

/-- What objects inherit leads to no price. -/
theorem walk_dead (names : List String) {node : Node} (h : Dead node) :
    (names.foldlM (descend pointer) node >>= priceOf text).toOption = none := by
  induction names generalizing node with
  | nil =>
    cases node with
    | json value =>
      cases h
      rfl
    | function => rfl
    | prototype => rfl
  | cons name rest ih =>
    rw [List.foldlM_cons]
    cases node with
    | json value =>
      cases h
      rfl
    | function => rfl
    | prototype =>
      unfold descend
      dsimp only
      split_ifs
      · exact @ih .function trivial
      · exact @ih (.json .null) rfl
      · rfl

/-- What an object inherits is dead. -/
theorem dead_inherited {name : String} {node : Node} (h : inherited name = some node) :
    Dead node := by
  unfold inherited at h
  split_ifs at h
  · cases h
    trivial
  · cases h
    trivial

/-- A member is one of the fields. -/
theorem mem_of_lookup {fields : List (String × Json)} {name : String} {value : Json}
    (h : fields.lookup name = some value) : (name, value) ∈ fields := by
  obtain ⟨before, after, rfl, -⟩ := List.lookup_eq_some_iff.mp h
  exact List.mem_append_right _ (List.mem_cons_self ..)

/-- Where no token is misread, the walk reads what the tokens lead to. -/
theorem walk_eq_evaluate (names : List String) (hm : ∀ name ∈ names, ¬ Misread name) {value : Json}
    (hv : Held value) :
    (names.foldlM (descend pointer) (.json value) >>= priceOf text).toOption =
      (evaluate names value).bind fun found => (priceFrom text found).toOption := by
  induction names generalizing value with
  | nil => rfl
  | cons name rest ih =>
    have hrest : ∀ name ∈ rest, ¬ Misread name := fun other ho =>
      hm other (List.mem_cons_of_mem _ ho)
    rw [List.foldlM_cons]
    cases hv with
    | null => rfl
    | bool shown => rfl
    | number shown => rfl
    | text shown => rfl
    | array items hi hall =>
      have hitem : itemAt items name = (canonicalIndex name).bind fun index => items[index]? := by
        cases hc : canonicalIndex name with
        | none => exact itemAt_none hc (hm name (List.mem_cons_self ..)) hi
        | some index => exact itemAt_canonical hc hi
      have heval : evaluate (name :: rest) (.array items) =
          (itemAt items name).bind (evaluate rest) := by
        rw [hitem, Option.bind_assoc]
        rfl
      rw [descend_array, heval]
      cases hat : itemAt items name with
      | none => rfl
      | some item =>
        refine ih hrest (hall item ?_)
        rw [hitem] at hat
        obtain ⟨index, -, hget⟩ := Option.bind_eq_some_iff.mp hat
        exact List.mem_of_getElem? hget
    | object fields hall =>
      have heval : evaluate (name :: rest) (.object fields) =
          (fields.lookup name).bind (evaluate rest) := rfl
      rw [heval]
      unfold descend
      dsimp only
      cases hl : fields.lookup name with
      | some found =>
        exact ih hrest (hall (name, found) (mem_of_lookup hl))
      | none =>
        dsimp only
        cases hin : inherited name with
        | none => rfl
        | some node => exact walk_dead pointer rest (dead_inherited hin)

/-- Where the tokens lead to a value, the walk comes to it. -/
theorem walk_of_evaluate (names : List String) {value found : Json} (hv : Held value)
    (h : evaluate names value = some found) :
    names.foldlM (descend pointer) (.json value) = .ok (.json found) := by
  induction names generalizing value with
  | nil =>
    cases h
    rfl
  | cons name rest ih =>
    rw [List.foldlM_cons]
    cases hv with
    | null => cases h
    | bool shown => cases h
    | number shown => cases h
    | text shown => cases h
    | array items hi hall =>
      obtain ⟨index, hc, h⟩ := Option.bind_eq_some_iff.mp h
      obtain ⟨item, hget, h⟩ := Option.bind_eq_some_iff.mp h
      rw [descend_array, itemAt_canonical hc hi, hget]
      exact ih (hall item (List.mem_of_getElem? hget)) h
    | object fields hall =>
      obtain ⟨inner, hl, h⟩ := Option.bind_eq_some_iff.mp h
      unfold descend
      dsimp only
      rw [hl]
      exact ih (hall (name, inner) (mem_of_lookup hl)) h

/-- An object in an object, down a path. -/
def nested (path : List String) (leaf : Json) : Json :=
  path.foldr (fun name inner => .object [(name, inner)]) leaf

/-- A value that is held is held under any path. -/
theorem held_nested (path : List String) {leaf : Json} (h : Held leaf) :
    Held (nested path leaf) := by
  induction path with
  | nil => exact h
  | cons name rest ih =>
    refine .object _ fun field hf => ?_
    rw [List.mem_singleton.mp hf]
    exact ih

/-- What is at the end of the path. -/
theorem evaluate_nested (path more : List String) (leaf : Json) :
    evaluate (path ++ more) (nested path leaf) = evaluate more leaf := by
  induction path with
  | nil => rfl
  | cons name rest ih =>
    have hl : [(name, nested rest leaf)].lookup name = some (nested rest leaf) := by simp
    change ([(name, nested rest leaf)].lookup name).bind (evaluate (rest ++ more)) = _
    rw [hl]
    exact ih

/-- A token that is misread is read as an item, in some document where it names none. -/
theorem exists_misread {names : List String} {name : String} (hn : name ∈ names)
    (hm : Misread name) :
    ∃ value price, Held value ∧
      (names.foldlM (descend pointer) (.json value) >>= priceOf text).toOption = some price ∧
      evaluate names value = none := by
  obtain ⟨before, after, rfl⟩ := List.append_of_mem hn
  obtain ⟨hc, index, hr, hi⟩ := hm
  let items := List.replicate index Json.null ++ [nested after (.text "1")]
  have hleaf : Held (nested after (.text "1")) := held_nested after (.text "1")
  have hitems : Held (.array items) := by
    refine .array items (by simp [items]; omega) fun item hm => ?_
    obtain hm | hm := List.mem_append.mp hm
    · rw [(List.mem_replicate.mp hm).2]
      exact .null
    · rw [List.mem_singleton.mp hm]
      exact hleaf
  have hat : itemAt items name = some (nested after (.text "1")) := by
    unfold itemAt
    rw [hr]
    dsimp only
    rw [if_neg (by omega), Int.toNat_natCast, List.getElem?_append_right (by simp)]
    simp
  have hbefore : before.foldlM (descend pointer) (.json (nested before (.array items))) =
      .ok (.json (.array items)) := by
    have heval := evaluate_nested before [] (.array items)
    rw [List.append_nil] at heval
    exact walk_of_evaluate pointer before (held_nested before hitems) heval
  have hafter : after.foldlM (descend pointer) (.json (nested after (.text "1"))) =
      .ok (.json (.text "1")) := by
    have heval := evaluate_nested after [] (.text "1")
    rw [List.append_nil] at heval
    exact walk_of_evaluate pointer after hleaf heval
  refine ⟨nested before (.array items), ⟨1, 0⟩, held_nested before hitems, ?_, ?_⟩
  · rw [List.foldlM_append, hbefore]
    change ((name :: after).foldlM (descend pointer) (.json (.array items)) >>=
      priceOf text).toOption = _
    rw [List.foldlM_cons, descend_array, hat]
    change (after.foldlM (descend pointer) (.json (nested after (.text "1"))) >>=
      priceOf text).toOption = _
    rw [hafter]
    rfl
  · rw [evaluate_nested]
    change ((canonicalIndex name).bind fun index => _) = none
    rw [hc]
    rfl

end Walking

/-! ## The meaning of a pointer -/

/-- A pointer means what the RFC says: it is accepted when it is one, and what is read is the
price at the value it leads to. -/
structure MeansRfc (text : ℚ → String) (pointer : String) : Prop where
  accepts : validatePricePath pointer = .ok () ↔ WellFormed pointer.toList
  reads : validatePricePath pointer = .ok () → pointer ≠ "" → ∀ document, Held document →
    (resolvePrice text document pointer).toOption =
      (evaluatePointer pointer.toList document).bind fun found => (priceFrom text found).toOption

/-- The walk of a pointer. -/
theorem resolvePrice_wellFormed {text : ℚ → String} {pointer : String} (hn : pointer ≠ "")
    (h : WellFormed pointer.toList) (document : Json) :
    resolvePrice text document pointer =
      (tokens pointer.toList).foldlM (descend pointer) (.json document) >>= priceOf text := by
  unfold resolvePrice
  rw [if_neg hn, readTokens_eq h fun he => hn (String.toList_eq_nil_iff.mp he)]

/-- The value a pointer leads to. -/
theorem evaluatePointer_wellFormed {pointer : String} (hn : pointer ≠ "")
    (h : WellFormed pointer.toList) (document : Json) :
    evaluatePointer pointer.toList document = evaluate (tokens pointer.toList) document := by
  unfold evaluatePointer
  rw [if_neg fun he => hn (String.toList_eq_nil_iff.mp he), if_pos h]

/-- What is at a path is read by the path's pointer. -/
theorem resolvePrice_encodePath {text : ℚ → String} {path : List String} {document found : Json}
    (hd : Held document) (h : evaluate path document = some found) :
    resolvePrice text document (String.ofList (encodePath path)) = priceFrom text found := by
  by_cases hp : path = []
  · rw [hp] at h ⊢
    cases h
    exact if_pos rfl
  · have hwell := wellFormed_encodePath path
    have hne : String.ofList (encodePath path) ≠ "" := by
      intro he
      have hnil : encodePath path = [] := by
        rw [← String.toList_ofList (l := encodePath path), he]
        rfl
      obtain ⟨key, rest, rfl⟩ := List.exists_cons_of_ne_nil hp
      cases hnil
    rw [resolvePrice_wellFormed hne (by rwa [String.toList_ofList]), String.toList_ofList,
      tokens_encodePath hp, walk_of_evaluate _ path hd h]
    rfl

/-- A pointer means what the RFC says exactly when it does not slip through and none of its
tokens is misread. Whatever the keys of a path are, its pointer reads what is at the path. And
a value is read as a price exactly where it writes out a plain positive decimal, as that number. -/
theorem pointer_means_rfc_iff (text : ℚ → String) (pointer : String) :
    (MeansRfc text pointer ↔ ¬ Slips pointer.toList ∧
      (pointer ≠ "" → WellFormed pointer.toList →
        ∀ token ∈ tokens pointer.toList, ¬ Misread token)) ∧
    (∀ path document found, Held document → evaluate path document = some found →
      resolvePrice text document (String.ofList (encodePath path)) = priceFrom text found) ∧
    ∀ value number, (∃ price, priceFrom text value = .ok price ∧ worth price = number) ↔
      ∃ written, shown text value = some written ∧ Decimal written.toList number ∧
        0 < number := by
  refine ⟨⟨fun h => ⟨(accepts_iff pointer).mp h.accepts, fun hn hw token ht hm => ?_⟩,
    fun h => ⟨(accepts_iff pointer).mpr h.1, fun ha hn document hd => ?_⟩⟩,
    fun path document found hd h => resolvePrice_encodePath hd h,
    fun value number => priceFrom_iff⟩
  · obtain ⟨document, price, hd, hread, hnone⟩ := @exists_misread text pointer _ _ ht hm
    have hboth := h.reads (validatePricePath_wellFormed hw) hn document hd
    rw [resolvePrice_wellFormed hn hw, hread, evaluatePointer_wellFormed hn hw, hnone] at hboth
    cases hboth
  · have hw := ((accepts_iff pointer).mpr h.1).mp ha
    rw [resolvePrice_wellFormed hn hw, evaluatePointer_wellFormed hn hw]
    exact walk_eq_evaluate pointer _ (h.2 hn hw) hd

/-- A pointer of two names. -/
theorem pointer_means_rfc_sample :
    resolvePrice (fun _ => "") (.object [("btc/usd", .object [("a~b", .text "7.50")])])
      "/btc~1usd/a~0b" = .ok ⟨750, 2⟩ := by
  have hread := (pointer_means_rfc_iff (fun _ => "") "").2.1 ["btc/usd", "a~b"]
    (.object [("btc/usd", .object [("a~b", .text "7.50")])]) (.text "7.50")
    (held_nested ["btc/usd", "a~b"] (.text "7.50")) (by rfl)
  exact hread

/-- A number with a leading zero is read as the number. -/
theorem toNumber_leading_zero : (toNumber "01").integer = some 1 := by
  have hread : toNumber "01" = toDouble (1 : ℕ) :=
    toNumber_digits (List.cons_ne_nil '0' ['1']) (List.all_eq_true.mp (by decide))
  have hone : toDouble ((1 : ℕ) : ℚ) = .finite ((1 : ℤ) : ℚ) := @toDouble_int 1 (by decide)
  rw [hread, hone, integer_int]

/-- Two tildes in a row are accepted where one `~0` and a `1` follow, and an item is read by a
number with a leading zero. -/
theorem pointer_slips_and_misreads :
    ¬ MeansRfc (fun _ => "") "/~~01" ∧ ¬ MeansRfc (fun _ => "") "/01" ∧
    validatePricePath "/~~01" = .ok () ∧ ¬ WellFormed "/~~01".toList ∧
    resolvePrice (fun _ => "") (.object [("~~1", .text "5")]) "/~~01" = .ok ⟨5, 0⟩ ∧
    resolvePrice (fun _ => "") (.array [.null, .text "7"]) "/01" = .ok ⟨7, 0⟩ ∧
    evaluatePointer "/01".toList (.array [.null, .text "7"]) = none := by
  have haccepted : validatePricePath "/~~01" = .ok () := by rfl
  have hshape : ¬ WellFormed "/~~01".toList := by decide
  have hitem : resolvePrice (fun _ => "") (.array [.null, .text "7"]) "/01" = .ok ⟨7, 0⟩ := by
    have hat : itemAt [.null, .text "7"] "01" = some (.text "7") := by
      unfold itemAt
      rw [toNumber_leading_zero]
      rfl
    have hwalk : resolvePrice (fun _ => "") (.array [.null, .text "7"]) "/01" =
        (descend "/01" (.json (.array [.null, .text "7"])) "01" >>= fun node => pure node) >>=
          priceOf fun _ => "" := by rfl
    rw [hwalk, descend_array, hat]
    rfl
  have hnone : evaluatePointer "/01".toList (.array [.null, .text "7"]) = none := by rfl
  refine ⟨fun h => hshape (h.accepts.mp haccepted), fun h => ?_, haccepted, hshape, by rfl, hitem,
    hnone⟩
  have hheld : Held (.array [.null, .text "7"]) := by
    refine .array _ (by decide) fun item hm => ?_
    obtain rfl | hm := List.mem_cons.mp hm
    · exact .null
    · rw [List.mem_singleton.mp hm]
      exact .text "7"
  have hboth := h.reads (by rfl) (by decide) _ hheld
  rw [hitem, hnone] at hboth
  cases hboth

end IntentSolver.PricePointer
