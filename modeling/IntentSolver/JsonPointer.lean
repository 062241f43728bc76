import IntentSolver.EvmClaimAnswers
import IntentSolver.JsNumber

/-!
# Pointers into a JSON document

A pointer is empty or a row of tokens, each after a slash. In a token a tilde is written `~0`
and a slash `~1`, and nothing else follows a tilde. A token names a member of an object, or an
item of an array by its number, which has no leading zero.
-/

namespace IntentSolver.JsonPointer

open EvmClaimAnswers (Json)
open JsNumber (digitsValue)

/-- Every tilde is followed by `0` or `1`. -/
def escapedOk : List Char → Bool
  | [] => true
  | [char] => char ≠ '~'
  | first :: second :: rest =>
    if first = '~' then (second = '0' || second = '1') && escapedOk rest
    else escapedOk (second :: rest)

/-- The text is a pointer. -/
def WellFormed (pointer : List Char) : Prop :=
  pointer = [] ∨ pointer.head? = some '/' ∧ escapedOk pointer = true

instance (pointer : List Char) : Decidable (WellFormed pointer) :=
  inferInstanceAs (Decidable (_ ∨ _))

/-- What a token stands for. -/
def unescape : List Char → List Char
  | [] => []
  | [char] => [char]
  | first :: second :: rest =>
    if first = '~' ∧ second = '0' then '~' :: unescape rest
    else if first = '~' ∧ second = '1' then '/' :: unescape rest
    else first :: unescape (second :: rest)

/-- The tokens of a pointer. -/
def tokens (pointer : List Char) : List String :=
  (pointer.tail.splitOn '/').map fun token => String.ofList (unescape token)

/-- The item a token names: `0`, or digits that do not begin with one. -/
def canonicalIndex (token : String) : Option ℕ :=
  if token.toList = ['0'] ∨
      token.toList ≠ [] ∧ token.toList.head? ≠ some '0' ∧ token.toList.all Char.isDigit
  then some (digitsValue token.toList) else none

/-- The value the tokens lead to, one after another. -/
def evaluate : List String → Json → Option Json
  | [], value => some value
  | token :: rest, .array items => do
    let index ← canonicalIndex token
    let item ← items[index]?
    evaluate rest item
  | token :: rest, .object fields => do
    let value ← fields.lookup token
    evaluate rest value
  | _ :: _, _ => none

/-- The value a pointer leads to. -/
def evaluatePointer (pointer : List Char) (document : Json) : Option Json :=
  if pointer = [] then some document
  else if WellFormed pointer then evaluate (tokens pointer) document
  else none

/-! ## Writing a pointer -/

/-- A key as a token. -/
def escape : List Char → List Char
  | [] => []
  | char :: rest =>
    if char = '~' then '~' :: '0' :: escape rest
    else if char = '/' then '~' :: '1' :: escape rest
    else char :: escape rest

/-- The pointer to what is at a path. -/
def encodePath (path : List String) : List Char := path.flatMap fun key => '/' :: escape key.toList

/-- A tilde with its digit is passed over. -/
theorem escapedOk_escape (second : Char) (rest : List Char) (h : second = '0' ∨ second = '1') :
    escapedOk ('~' :: second :: rest) = escapedOk rest := by
  obtain rfl | rfl := h
  · rw [escapedOk, if_pos rfl]
    rfl
  · rw [escapedOk, if_pos rfl]
    rfl

/-- So is any other character. -/
theorem escapedOk_cons {char : Char} (rest : List Char) (h : char ≠ '~') :
    escapedOk (char :: rest) = escapedOk rest := by
  cases rest with
  | nil => simp [escapedOk, h]
  | cons second rest => rw [escapedOk, if_neg h]

/-- A tilde and a zero stand for a tilde. -/
theorem unescape_tilde (rest : List Char) :
    unescape ('~' :: '0' :: rest) = '~' :: unescape rest := by
  rw [unescape, if_pos ⟨rfl, rfl⟩]

/-- A tilde and a one stand for a slash. -/
theorem unescape_slash (rest : List Char) :
    unescape ('~' :: '1' :: rest) = '/' :: unescape rest := by
  rw [unescape, if_neg (by decide), if_pos ⟨rfl, rfl⟩]

/-- Every character but a tilde stands for itself. -/
theorem unescape_cons {char : Char} (rest : List Char) (h : char ≠ '~') :
    unescape (char :: rest) = char :: unescape rest := by
  cases rest with
  | nil => rfl
  | cons second rest => rw [unescape, if_neg fun he => h he.1, if_neg fun he => h he.1]

/-- What is written is a token. -/
theorem escapedOk_written (key : List Char) : escapedOk (escape key) = true := by
  induction key with
  | nil => rfl
  | cons char rest ih =>
    rw [escape]
    split_ifs with ht hs
    · rw [escapedOk_escape _ _ (.inl rfl), ih]
    · rw [escapedOk_escape _ _ (.inr rfl), ih]
    · rw [escapedOk_cons _ ht, ih]

/-- It stands for the key. -/
theorem unescape_written (key : List Char) : unescape (escape key) = key := by
  induction key with
  | nil => rfl
  | cons char rest ih =>
    rw [escape]
    split_ifs with ht hs
    · rw [unescape_tilde, ih, ht]
    · rw [unescape_slash, ih, hs]
    · rw [unescape_cons _ ht, ih]

/-- It has no slash. -/
theorem slash_not_mem_written (key : List Char) : '/' ∉ escape key := by
  induction key with
  | nil => simp [escape]
  | cons char rest ih =>
    rw [escape]
    split_ifs with ht hs
    · simp [ih]
    · simp [ih]
    · simp only [List.mem_cons, not_or]
      exact ⟨fun he => hs he.symm, ih⟩

/-- The tokens of a pointer that was written are the keys of the path. -/
theorem tokens_encodePath {path : List String} (h : path ≠ []) :
    tokens (encodePath path) = path := by
  have hsplit : ∀ (key : String) (rest : List String),
      (escape key.toList ++ encodePath rest).splitOn '/' =
        (key :: rest).map fun key => escape key.toList := by
    intro key rest
    induction rest generalizing key with
    | nil =>
      rw [encodePath, List.flatMap_nil, List.append_nil,
        List.splitOn_eq_singleton (slash_not_mem_written _)]
      rfl
    | cons next rest ih =>
      have hcons : encodePath (next :: rest) = '/' :: (escape next.toList ++ encodePath rest) := rfl
      rw [hcons, List.splitOn_append_cons_self_of_not_mem (slash_not_mem_written _), ih next]
      rfl
  cases path with
  | nil => exact absurd rfl h
  | cons key rest =>
    have htail : (encodePath (key :: rest)).tail = escape key.toList ++ encodePath rest := rfl
    rw [tokens, htail, hsplit, List.map_map]
    have hid : ∀ key : String, String.ofList (unescape (escape key.toList)) = key := by
      intro key
      rw [unescape_written, String.ofList_toList]
    exact List.map_id''  hid _

/-- A text whose tildes are escaped may stand before another. -/
theorem escapedOk_append {first : List Char} (second : List Char) (h : escapedOk first = true) :
    escapedOk (first ++ second) = escapedOk second := by
  induction first using escapedOk.induct with
  | case1 => rfl
  | case2 char =>
    have hc : char ≠ '~' := of_decide_eq_true h
    exact escapedOk_cons second hc
  | case3 digit rest ih =>
    rw [escapedOk, if_pos rfl, Bool.and_eq_true, Bool.or_eq_true, decide_eq_true_eq,
      decide_eq_true_eq] at h
    rw [List.cons_append, List.cons_append, escapedOk_escape _ _ h.1, ih h.2]
  | case4 char digit rest hc ih =>
    rw [escapedOk, if_neg hc] at h
    rw [List.cons_append, escapedOk_cons _ hc, ih h]

/-- It is a pointer. -/
theorem wellFormed_encodePath (path : List String) : WellFormed (encodePath path) := by
  have hok : escapedOk (encodePath path) = true := by
    induction path with
    | nil => rfl
    | cons key rest ih =>
      have hcons : encodePath (key :: rest) = '/' :: (escape key.toList ++ encodePath rest) := rfl
      rw [hcons, escapedOk_cons _ (by decide), escapedOk_append _ (escapedOk_written _), ih]
  cases path with
  | nil => exact .inl rfl
  | cons key rest => exact .inr ⟨rfl, hok⟩

/-- Each token of a pointer has its tildes escaped. -/
theorem escapedOk_tokens {chars : List Char} (h : escapedOk chars = true) :
    ∀ token ∈ chars.splitOn '/', escapedOk token = true := by
  have hhead : ∀ {unit rest : List Char}, escapedOk unit = true →
      (∀ token ∈ rest.splitOn '/', escapedOk token = true) →
      ∀ token ∈ (rest.splitOn '/').modifyHead (unit ++ ·), escapedOk token = true := by
    intro unit rest hu hr token hm
    cases hs : rest.splitOn '/' with
    | nil => exact absurd hs (List.splitOn_ne_nil _ _)
    | cons first more =>
      rw [hs] at hr hm
      obtain rfl | hm := List.mem_cons.mp hm
      · rw [escapedOk_append _ hu]
        exact hr first (List.mem_cons_self ..)
      · exact hr token (List.mem_cons_of_mem _ hm)
  induction chars using escapedOk.induct with
  | case1 => simp [escapedOk]
  | case2 char =>
    have hc : char ≠ '~' := of_decide_eq_true h
    rw [List.splitOn_cons_eq_if_modifyHead]
    split
    · simp [escapedOk]
    · exact @hhead [char] _ h (by simp [escapedOk])
  | case3 digit rest ih =>
    rw [escapedOk, if_pos rfl, Bool.and_eq_true, Bool.or_eq_true, decide_eq_true_eq,
      decide_eq_true_eq] at h
    have hdigit : (digit == '/') = false := by
      obtain rfl | rfl := h.1 <;> rfl
    have hunit : escapedOk ['~', digit] = true := by
      rw [escapedOk_escape _ _ h.1]
      rfl
    rw [List.splitOn_cons_eq_if_modifyHead, if_neg (by decide), List.splitOn_cons_eq_if_modifyHead,
      hdigit, if_neg Bool.false_ne_true, List.modifyHead_modifyHead]
    exact hhead hunit (ih h.2)
  | case4 char digit rest hc ih =>
    rw [escapedOk, if_neg hc] at h
    rw [List.splitOn_cons_eq_if_modifyHead]
    split
    · intro token hm
      obtain rfl | hm := List.mem_cons.mp hm
      · rfl
      · exact ih h token hm
    · exact @hhead [char] _ (by simp [escapedOk, hc]) (ih h)

/-! ## Items by number -/

/-- A number without a leading zero has digits, and no other. -/
theorem canonicalIndex_digits {token : String} {index : ℕ} (h : canonicalIndex token = some index) :
    token.toList ≠ [] ∧ (∀ digit ∈ token.toList, digit.isDigit = true) ∧
      index = digitsValue token.toList := by
  unfold canonicalIndex at h
  split at h
  · rename_i hform
    cases h
    obtain hz | ⟨hn, -, hall⟩ := hform
    · rw [hz]
      exact ⟨List.cons_ne_nil _ _, by simp, rfl⟩
    · exact ⟨hn, List.all_eq_true.mp hall, rfl⟩
  · cases h

end IntentSolver.JsonPointer
