import IntentSolver.BigEndian
import IntentSolver.EvmPort
import IntentSolver.Fallible

/-!
# RLP

What every Ethereum transaction is built out of: byte strings and lists of them. A single
small byte is itself; anything else is its payload behind a header that gives the length,
in one byte up to 55 and in minimal big-endian bytes from there on. The decoder reads one
header at an offset and accepts only the form the encoder writes.
-/

namespace IntentSolver.EvmRlp

open BigEndian EvmPort Fallible

/-- What RLP can encode. -/
inductive RlpInput where
  | bytes (content : Bytes)
  | list (items : List RlpInput)

/-- A length as the shortest big-endian byte string. -/
def lengthBytes (length : ℕ) : Bytes := minimalBytes length

/-- The payload behind its header. -/
def withPrefix (payload : Bytes) (short long : ℕ) : Bytes :=
  if payload.length ≤ 55 then UInt8.ofNat (short + payload.length) :: payload
  else UInt8.ofNat (long + (lengthBytes payload.length).length) ::
    (lengthBytes payload.length ++ payload)

mutual

/-- The encoding of one item. -/
def rlpEncode : RlpInput → Bytes
  | .bytes content =>
    if content.length = 1 ∧ content.head?.all (· < 0x80) then content
    else withPrefix content 0x80 0xb7
  | .list items => withPrefix (rlpEncodeAll items) 0xc0 0xf7

/-- The encodings of a list's items, one after another. -/
def rlpEncodeAll : List RlpInput → Bytes
  | [] => []
  | item :: rest => rlpEncode item ++ rlpEncodeAll rest

end

/-- A quantity: minimal bytes, and none for zero. -/
def rlpQuantity (quantity : ℤ) : Except EvmFault Bytes :=
  if quantity < 0 then
    .error (.error ("quantity must not be negative, got " ++ toString quantity))
  else .ok (minimalBytes quantity.toNat)

/-! ## Reading a header -/

/-- The largest integer a number holds exactly; no typed array is longer. -/
def MAX_SAFE_INTEGER : ℕ := 2 ^ 53 - 1

/-- Where an item's payload lies. -/
structure RlpHeader where
  list : Bool
  start : ℕ
  stop : ℕ
  deriving DecidableEq

/-- Read length bytes one by one, watching that the sum stays exact. -/
def readLength : ℕ → Bytes → Except EvmFault ℕ
  | length, [] => .ok length
  | length, byte :: rest =>
    if MAX_SAFE_INTEGER < length * 256 + byte.toNat then
      .error (.error "RLP length exceeds safe bounds")
    else readLength (length * 256 + byte.toNat) rest

/-- The start and the length of a payload whose length is written out. -/
def longLength (raw : Bytes) (start limit width : ℕ) : Except EvmFault (ℕ × ℕ) :=
  if limit < start + width ∨ raw[start]? = some 0 then .error (.error "invalid RLP length")
  else do
    let length ← readLength 0 ((raw.drop start).take width)
    if length < 56 then .error (.error "noncanonical long RLP item")
    else .ok (start + width, length)

/-- The header byte of an empty payload. -/
def shortBase (list : Bool) : ℕ := if list then 0xc0 else 0x80

/-- The last header byte that gives the length itself. -/
def shortLimit (list : Bool) : ℕ := if list then 0xf7 else 0xb7

/-- The start and the length of the payload behind a header byte. -/
def payloadSpan (raw : Bytes) (offset limit first : ℕ) (list : Bool) :
    Except EvmFault (ℕ × ℕ) :=
  if first ≤ shortLimit list then .ok (offset + 1, first - shortBase list)
  else longLength raw (offset + 1) limit (first - shortLimit list)

/-- The header of the item at `offset`, which has to end before `limit`. -/
def rlpHeader (raw : Bytes) (offset limit : ℕ) : Except EvmFault RlpHeader :=
  if limit ≤ offset then .error (.error "truncated RLP item")
  else
    let first := (raw.getD offset 0).toNat
    if first < 0x80 then .ok ⟨false, offset, offset + 1⟩
    else do
      let list := decide (0xc0 ≤ first)
      let span ← payloadSpan raw offset limit first list
      let stop := span.1 + span.2
      if MAX_SAFE_INTEGER < stop ∨ limit < stop then .error (.error "truncated RLP payload")
      else if list = false ∧ span.2 = 1 ∧ raw.getD span.1 0 < 0x80 then
        .error (.error "noncanonical single-byte RLP item")
      else .ok ⟨list, span.1, stop⟩

/-! ## Bytes from an offset on -/

section Offsets

variable {raw tail : Bytes} {offset : ℕ} {first : UInt8}

/-- The byte at the offset is the first of the rest. -/
theorem getD_offset (hv : raw.drop offset = first :: tail) : raw.getD offset 0 = first := by
  have he : (raw.drop offset)[0]? = raw[offset]? := by
    rw [List.getElem?_drop, Nat.add_zero]
  rw [List.getD_eq_getElem?_getD, ← he, hv]
  rfl

/-- Dropping past the first byte drops from the rest. -/
theorem drop_after (hv : raw.drop offset = first :: tail) (count : ℕ) :
    raw.drop (offset + 1 + count) = tail.drop count := by
  have hd : (raw.drop offset).drop (1 + count) = raw.drop (offset + 1 + count) := by
    rw [List.drop_drop, Nat.add_assoc]
  rw [← hd, hv, Nat.add_comm 1 count, List.drop_succ_cons]

/-- A byte past the first is one of the rest. -/
theorem getElem?_after (hv : raw.drop offset = first :: tail) (count : ℕ) :
    raw[offset + 1 + count]? = tail[count]? := by
  have hd := drop_after hv count
  have hl : (raw.drop (offset + 1 + count))[0]? = raw[offset + 1 + count]? := by
    rw [List.getElem?_drop, Nat.add_zero]
  have hr : (tail.drop count)[0]? = tail[count]? := by
    rw [List.getElem?_drop, Nat.add_zero]
  rw [← hl, hd, hr]

/-- The length splits at the offset. -/
theorem length_offset (hv : raw.drop offset = first :: tail) :
    raw.length = offset + 1 + tail.length := by
  have hl := congrArg List.length hv
  rw [List.length_drop, List.length_cons] at hl
  omega

/-- An offset within the bytes has a byte and what comes after it. -/
theorem exists_drop (h : offset < raw.length) : ∃ first tail, raw.drop offset = first :: tail :=
  ⟨_, _, List.drop_eq_getElem_cons h⟩

end Offsets

/-! ## Lengths -/

/-- The sum the length loop keeps. -/
theorem readLength_ok {length result : ℕ} {bytes : Bytes}
    (h : readLength length bytes = .ok result) :
    result = bytes.foldl (fun sum byte => sum * 256 + byte.toNat) length := by
  induction bytes generalizing length with
  | nil =>
    cases h
    rfl
  | cons byte rest ih =>
    rw [readLength] at h
    split at h
    · cases h
    · exact ih h

/-- The sum never shrinks along the loop. -/
theorem le_foldl (length : ℕ) (bytes : Bytes) :
    length ≤ bytes.foldl (fun sum byte => sum * 256 + byte.toNat) length := by
  induction bytes generalizing length with
  | nil => exact le_rfl
  | cons byte rest ih =>
    have h := ih (length * 256 + byte.toNat)
    rw [List.foldl_cons]
    omega

/-- A sum that ends exact was exact throughout. -/
theorem readLength_safe {length : ℕ} {bytes : Bytes}
    (h : bytes.foldl (fun sum byte => sum * 256 + byte.toNat) length ≤ MAX_SAFE_INTEGER) :
    readLength length bytes =
      .ok (bytes.foldl (fun sum byte => sum * 256 + byte.toNat) length) := by
  induction bytes generalizing length with
  | nil => rfl
  | cons byte rest ih =>
    have hl := le_foldl (length * 256 + byte.toNat) rest
    rw [List.foldl_cons] at h
    rw [readLength, if_neg (by omega), ih h]
    rfl

/-- A written-out length is the value of its bytes, which have no leading zero. -/
theorem longLength_ok {raw tail : Bytes} {offset limit width start length : ℕ} {first : UInt8}
    (hv : raw.drop offset = first :: tail)
    (h : longLength raw (offset + 1) limit width = .ok (start, length)) :
    offset + 1 + width ≤ limit ∧ start = offset + 1 + width ∧ 56 ≤ length ∧
      (0 < width → Canonical (tail.take width)) ∧ length = value (tail.take width) := by
  unfold longLength at h
  split at h
  · cases h
  next hn =>
  push Not at hn
  obtain ⟨read, hr, hc⟩ := bind_ok h
  split at hc
  · cases hc
  next hb =>
    cases hc
    have hd : raw.drop (offset + 1) = tail := drop_after hv 0
    rw [hd] at hr
    refine ⟨hn.1, rfl, by omega, fun hw => ?_, readLength_ok hr⟩
    have hz : raw[offset + 1]? = tail[0]? := getElem?_after hv 0
    rw [hz] at hn
    unfold Canonical
    rw [List.head?_take, if_neg (by omega), List.head?_eq_getElem?]
    exact hn.2

/-! ## What a header stands for -/

/-- The bytes from `start` up to `stop`. -/
def slice (raw : Bytes) (start stop : ℕ) : Bytes := (raw.drop start).take (stop - start)

/-- A byte string or a list as the encoder writes it, by its payload. -/
def itemBytes (list : Bool) (payload : Bytes) : Bytes :=
  if list then withPrefix payload 0xc0 0xf7 else rlpEncode (.bytes payload)

/-- A single byte that is itself. -/
def SingleByte (payload : Bytes) : Prop := payload.length = 1 ∧ payload.head?.all (· < 0x80)

/-- A list, or bytes other than a single low one, are written behind a length. -/
theorem itemBytes_prefixed {list : Bool} {payload : Bytes}
    (h : list = true ∨ ¬ SingleByte payload) :
    itemBytes list payload = withPrefix payload (shortBase list) (shortLimit list) := by
  cases list with
  | true => rfl
  | false =>
    have hn : ¬ SingleByte payload := h.resolve_left Bool.false_ne_true
    unfold itemBytes
    rw [if_neg Bool.false_ne_true, rlpEncode]
    exact if_neg hn

/-- A single low byte is written as itself. -/
theorem itemBytes_single {payload : Bytes} (h : SingleByte payload) :
    itemBytes false payload = payload := by
  unfold itemBytes
  rw [if_neg Bool.false_ne_true, rlpEncode]
  exact if_pos h

/-- A single small byte at the front, read back. -/
theorem singleByte_take {tail : Bytes} {length : ℕ} (hl : length ≤ tail.length)
    (h : SingleByte (tail.take length)) : length = 1 ∧ tail.getD 0 0 < 0x80 := by
  obtain ⟨h1, h2⟩ := h
  rw [List.length_take] at h1
  have hone : length = 1 := by omega
  refine ⟨hone, ?_⟩
  rw [hone] at h2
  cases tail with
  | nil =>
    rw [List.length_nil] at h1
    omega
  | cons byte rest => simpa using h2

/-- A short header gives the payload's length in its own byte. -/
theorem withPrefix_short {payload : Bytes} {short long : ℕ} (h : payload.length ≤ 55) :
    withPrefix payload short long = UInt8.ofNat (short + payload.length) :: payload := if_pos h

/-- A long header writes the payload's length out. -/
theorem withPrefix_long {payload : Bytes} {short long : ℕ} (h : 56 ≤ payload.length) :
    withPrefix payload short long = UInt8.ofNat (long + (lengthBytes payload.length).length) ::
      (lengthBytes payload.length ++ payload) := if_neg (by omega)

/-- What an accepted header says of the bytes it was read from. -/
structure Delimits (raw : Bytes) (offset limit : ℕ) (header : RlpHeader) : Prop where
  progress : offset < header.stop
  ordered : header.start ≤ header.stop
  within : header.stop ≤ limit
  encoded : slice raw offset header.stop =
    itemBytes header.list (slice raw header.start header.stop)

section Delimits

variable {raw tail : Bytes} {offset limit : ℕ} {first : UInt8}

/-- A byte below the first header byte is an item of its own. -/
theorem delimits_single (hv : raw.drop offset = first :: tail) (hl : offset < limit)
    (hf : first.toNat < 0x80) : Delimits raw offset limit ⟨false, offset, offset + 1⟩ := by
  have hs : slice raw offset (offset + 1) = [first] := by
    unfold slice
    rw [hv, Nat.add_sub_cancel_left, List.take_succ_cons, List.take_zero]
  refine ⟨Nat.lt_succ_self offset, Nat.le_succ offset, hl, ?_⟩
  rw [hs, itemBytes_single]
  refine ⟨rfl, ?_⟩
  have hb : first < 0x80 := UInt8.lt_iff_toNat_lt.mpr hf
  simpa using hb

/-- A short header followed by as many bytes as it says. -/
theorem delimits_short (hv : raw.drop offset = first :: tail) (hl : limit ≤ raw.length)
    {list : Bool} {length : ℕ} (hf : first.toNat = shortBase list + length)
    (hn : length ≤ 55) (hb : offset + 1 + length ≤ limit)
    (hs : list = true ∨ ¬ SingleByte (tail.take length)) :
    Delimits raw offset limit ⟨list, offset + 1, offset + 1 + length⟩ := by
  have hlen := length_offset hv
  have hp : slice raw (offset + 1) (offset + 1 + length) = tail.take length := by
    unfold slice
    rw [show raw.drop (offset + 1) = tail from drop_after hv 0, Nat.add_sub_cancel_left]
  have htl : (tail.take length).length = length := by
    rw [List.length_take]
    omega
  refine ⟨by dsimp only; omega, by dsimp only; omega, hb, ?_⟩
  dsimp only
  rw [hp, itemBytes_prefixed hs, withPrefix_short (by omega), htl, ← hf, UInt8.ofNat_toNat]
  unfold slice
  rw [hv, show offset + 1 + length - offset = length + 1 by omega, List.take_succ_cons]

/-- A long header followed by the length it announces and as many bytes as that says. -/
theorem delimits_long (hv : raw.drop offset = first :: tail) (hl : limit ≤ raw.length)
    {list : Bool} {width length : ℕ} (hf : first.toNat = shortLimit list + width)
    (hw : Canonical (tail.take width)) (he : length = value (tail.take width))
    (hn : 56 ≤ length) (hb : offset + 1 + width + length ≤ limit) :
    Delimits raw offset limit ⟨list, offset + 1 + width, offset + 1 + width + length⟩ := by
  have hlen := length_offset hv
  have hp : slice raw (offset + 1 + width) (offset + 1 + width + length) =
      (tail.drop width).take length := by
    unfold slice
    rw [drop_after hv width, Nat.add_sub_cancel_left]
  have htl : ((tail.drop width).take length).length = length := by
    rw [List.length_take, List.length_drop]
    omega
  have hbytes : lengthBytes length = tail.take width := by
    unfold lengthBytes
    rw [he]
    exact minimalBytes_value hw
  have hwl : (tail.take width).length = width := by
    rw [List.length_take]
    omega
  have hs : list = true ∨ ¬ SingleByte ((tail.drop width).take length) := by
    refine .inr fun h => ?_
    have h1 := h.1
    omega
  refine ⟨by dsimp only; omega, by dsimp only; omega, hb, ?_⟩
  dsimp only
  rw [hp, itemBytes_prefixed hs, withPrefix_long (by omega), htl, hbytes, hwl, ← hf,
    UInt8.ofNat_toNat]
  unfold slice
  rw [hv, show offset + 1 + width + length - offset = width + length + 1 by omega,
    List.take_succ_cons, List.take_add]

/-- Whatever header the decoder accepts, the bytes it delimits are the ones the encoder
writes for their payload. -/
theorem rlpHeader_delimits {header : RlpHeader} (h : rlpHeader raw offset limit = .ok header)
    (hl : limit ≤ raw.length) : Delimits raw offset limit header := by
  unfold rlpHeader at h
  split at h
  · cases h
  next ho =>
  obtain ⟨first, tail, hv⟩ := exists_drop (show offset < raw.length by omega)
  rw [getD_offset hv] at h
  dsimp only at h
  split at h
  next hf =>
    cases h
    exact delimits_single hv (by omega) hf
  next hf =>
  obtain ⟨⟨start, length⟩, hr, hc⟩ := bind_ok h
  dsimp only at hc
  split at hc
  · cases hc
  next hb =>
  split at hc
  · cases hc
  next hs =>
  cases hc
  push Not at hb
  have hbase : shortBase (decide (0xc0 ≤ first.toNat)) ≤ first.toNat ∧
      shortLimit (decide (0xc0 ≤ first.toNat)) ≤
        shortBase (decide (0xc0 ≤ first.toNat)) + 55 := by
    unfold shortBase shortLimit
    split <;> simp_all
  unfold payloadSpan at hr
  split at hr
  next hshort =>
    cases hr
    refine delimits_short hv hl (by omega) (by omega) hb.2 ?_
    by_cases hlist : decide (0xc0 ≤ first.toNat) = true
    · exact .inl hlist
    · refine .inr fun hone => ?_
      have hlen := length_offset hv
      obtain ⟨h1, h2⟩ := singleByte_take (by omega) hone
      refine hs ⟨by simpa using hlist, h1, ?_⟩
      rw [List.getD_eq_getElem?_getD, show raw[offset + 1]? = tail[0]? from getElem?_after hv 0,
        ← List.getD_eq_getElem?_getD]
      exact h2
  next hlong =>
    obtain ⟨hw, rfl, hn, hcan, he⟩ := longLength_ok hv hr
    exact delimits_long hv hl (by omega) (hcan (by omega)) he hn hb.2

end Delimits

/-! ## Reading back what was written -/

/-- Which kind of item a header byte opens. -/
theorem kind_of_first {list : Bool} {first : ℕ}
    (h : shortBase list ≤ first ∧ first ≤ shortLimit list + 8) :
    ¬ first < 0x80 ∧ decide (0xc0 ≤ first) = list := by
  unfold shortBase shortLimit at h
  cases list with
  | true =>
    simp only [if_true] at h
    exact ⟨by omega, decide_eq_true (by omega)⟩
  | false =>
    simp only [Bool.false_eq_true, if_false] at h
    exact ⟨by omega, decide_eq_false (by omega)⟩

section Written

variable {raw payload rest : Bytes} {offset limit : ℕ} {list : Bool}

/-- A header in front of a payload that fits is accepted, once its span is read. -/
theorem rlpHeader_of_span {first : UInt8} {tail : Bytes} {start length : ℕ}
    (hv : raw.drop offset = first :: tail) (hl : offset < limit)
    (hk : ¬ first.toNat < 0x80 ∧ decide (0xc0 ≤ first.toNat) = list)
    (hs : payloadSpan raw offset limit first.toNat list = .ok (start, length))
    (hb : start + length ≤ limit) (hm : limit ≤ MAX_SAFE_INTEGER)
    (hn : list = true ∨ ¬ (length = 1 ∧ raw.getD start 0 < 0x80)) :
    rlpHeader raw offset limit = .ok ⟨list, start, start + length⟩ := by
  unfold rlpHeader
  rw [if_neg (by omega), getD_offset hv]
  dsimp only
  rw [if_neg hk.1, hk.2, hs, ok_bind]
  dsimp only
  rw [if_neg (by omega), if_neg]
  rintro ⟨hf, hone⟩
  exact hn.elim (fun ht => by rw [hf] at ht; cases ht) fun hno => hno hone

/-- A single small byte is read as itself. -/
theorem rlpHeader_single (hr : raw.drop offset = payload ++ rest) (h : SingleByte payload)
    (hl : offset < limit) : rlpHeader raw offset limit = .ok ⟨false, offset, offset + 1⟩ := by
  obtain ⟨byte, rfl⟩ := List.length_eq_one_iff.mp h.1
  have hb : byte.toNat < 0x80 := by
    have h2 := h.2
    simp only [List.head?_cons, Option.all_some, decide_eq_true_eq] at h2
    exact UInt8.lt_iff_toNat_lt.mp h2
  unfold rlpHeader
  rw [if_neg (by omega), getD_offset hr]
  dsimp only
  rw [if_pos hb]

/-- A short payload behind its header. -/
theorem rlpHeader_short
    (hr : raw.drop offset = UInt8.ofNat (shortBase list + payload.length) :: (payload ++ rest))
    (hp : payload.length ≤ 55) (hs : list = true ∨ ¬ SingleByte payload)
    (hb : offset + 1 + payload.length ≤ limit) (hm : limit ≤ MAX_SAFE_INTEGER) :
    rlpHeader raw offset limit =
      .ok ⟨list, offset + 1, offset + 1 + payload.length⟩ := by
  have hbase : shortBase list + 55 ≤ shortLimit list ∧ shortLimit list < 256 := by
    cases list <;> decide
  have hf : (UInt8.ofNat (shortBase list + payload.length)).toNat =
      shortBase list + payload.length := toNat_ofNat (by omega)
  refine rlpHeader_of_span hr (by omega) ?_ ?_ hb hm ?_
  · rw [hf]
    exact kind_of_first ⟨by omega, by omega⟩
  · unfold payloadSpan
    rw [hf, if_pos (by omega), Nat.add_sub_cancel_left]
  · refine hs.imp_right fun hn hone => hn ⟨hone.1, ?_⟩
    obtain ⟨byte, rfl⟩ := List.length_eq_one_iff.mp hone.1
    have h2 := hone.2
    rw [List.getD_eq_getElem?_getD, show raw[offset + 1]? = _ from getElem?_after hr 0] at h2
    simpa using h2

/-- The bytes of a length that fits a number are few. -/
theorem length_lengthBytes {length : ℕ} (h : length ≤ MAX_SAFE_INTEGER) :
    (lengthBytes length).length ≤ 7 := by
  refine length_minimalBytes_le (lt_of_le_of_lt h ?_)
  decide

/-- A long payload behind its header and its written-out length. -/
theorem rlpHeader_long
    (hr : raw.drop offset =
      UInt8.ofNat (shortLimit list + (lengthBytes payload.length).length) ::
        (lengthBytes payload.length ++ (payload ++ rest)))
    (hp : 56 ≤ payload.length)
    (hb : offset + 1 + (lengthBytes payload.length).length + payload.length ≤ limit)
    (hm : limit ≤ MAX_SAFE_INTEGER) :
    rlpHeader raw offset limit =
      .ok ⟨list, offset + 1 + (lengthBytes payload.length).length,
        offset + 1 + (lengthBytes payload.length).length + payload.length⟩ := by
  have hw := length_lengthBytes (show payload.length ≤ MAX_SAFE_INTEGER by omega)
  have hv : value (lengthBytes payload.length) = payload.length := value_minimalBytes _
  have hne : lengthBytes payload.length ≠ [] := by
    intro hz
    rw [hz, value_nil] at hv
    omega
  have hpos : 0 < (lengthBytes payload.length).length := List.length_pos_iff.mpr hne
  have hlim : shortBase list + 55 ≤ shortLimit list ∧ shortLimit list + 8 < 256 := by
    cases list <;> decide
  have hf : (UInt8.ofNat (shortLimit list + (lengthBytes payload.length).length)).toNat =
      shortLimit list + (lengthBytes payload.length).length := toNat_ofNat (by omega)
  refine rlpHeader_of_span hr (by omega) ?_ ?_ hb hm (.inr fun hone => by omega)
  · rw [hf]
    exact kind_of_first ⟨by omega, by omega⟩
  · unfold payloadSpan
    rw [hf, if_neg (by omega), Nat.add_sub_cancel_left]
    have hz : raw[offset + 1]? ≠ some 0 := by
      rw [show raw[offset + 1]? = _ from getElem?_after hr 0,
        List.getElem?_append_left hpos, ← List.head?_eq_getElem?]
      exact canonical_minimalBytes _
    have ht : (raw.drop (offset + 1)).take (lengthBytes payload.length).length =
        lengthBytes payload.length := by
      rw [show raw.drop (offset + 1) = _ from drop_after hr 0]
      exact List.take_left
    have hread : readLength 0 (lengthBytes payload.length) = .ok payload.length := by
      have hsum : (lengthBytes payload.length).foldl
          (fun sum byte => sum * 256 + byte.toNat) 0 = payload.length := hv
      have hs := readLength_safe (show _ ≤ MAX_SAFE_INTEGER by rw [hsum]; omega)
      rw [hsum] at hs
      exact hs
    unfold longLength
    rw [if_neg, ht, hread, ok_bind, if_neg (by omega)]
    rintro (hc | hc)
    · omega
    · exact hz hc

/-- The decoder reads back the header of every item the encoder writes. -/
theorem rlpHeader_itemBytes (hr : raw.drop offset = itemBytes list payload ++ rest)
    (hb : offset + (itemBytes list payload).length ≤ limit) (hm : limit ≤ MAX_SAFE_INTEGER) :
    rlpHeader raw offset limit =
      .ok ⟨list, offset + (itemBytes list payload).length - payload.length,
        offset + (itemBytes list payload).length⟩ := by
  by_cases hs : list = true ∨ ¬ SingleByte payload
  · rw [itemBytes_prefixed hs] at hr hb ⊢
    by_cases hp : payload.length ≤ 55
    · rw [withPrefix_short hp] at hr hb ⊢
      rw [List.length_cons] at hb ⊢
      rw [rlpHeader_short hr hp hs (by omega) hm]
      simp only [Except.ok.injEq, RlpHeader.mk.injEq, true_and]
      omega
    · rw [withPrefix_long (by omega)] at hr hb ⊢
      rw [List.length_cons, List.length_append] at hb ⊢
      rw [List.cons_append, List.append_assoc] at hr
      rw [rlpHeader_long hr (by omega) (by omega) hm]
      simp only [Except.ok.injEq, RlpHeader.mk.injEq, true_and]
      omega
  · push Not at hs
    have hf : list = false := by simpa using hs.1
    rw [hf, itemBytes_single hs.2] at hr hb ⊢
    rw [rlpHeader_single hr hs.2 (by have h1 := hs.2.1; omega), hs.2.1]
    simp

end Written

end IntentSolver.EvmRlp
