import IntentSolver.EvmRlp

/-!
# Signed transactions

Building, signing and reading back an EIP-1559 transaction. Signing writes the type byte
and one list of twelve items, the nine signed fields and the signature, and reports the
sender the signature recovers to; decoding accepts one complete list of that shape and
nothing else. What the decoder accepts it can write again byte for byte, and what signing
produced it reads back as it was. Hashing and curve arithmetic are parameters.
-/

namespace IntentSolver.EvmTransaction

open BigEndian EvmPort EvmRlp Fallible

/-- The EIP-1559 transaction type byte. -/
def TYPE_2 : UInt8 := 0x02

/-- Everything the signature commits to. -/
structure Eip1559Fields where
  chainId : ℤ
  nonce : ℤ
  maxPriorityFeePerGas : ℤ
  maxFeePerGas : ℤ
  gas : ℤ
  /-- 20 bytes for a call, none for contract creation. -/
  destination : Bytes
  /-- Native currency, in wei. -/
  value : ℤ
  data : Bytes
  deriving DecidableEq

/-- What the transaction code asks of the hash and the curve. -/
structure Crypto where
  /-- The 32-byte keccak. -/
  keccak256 : Bytes → Bytes
  /-- A recoverable signature over a hash: recovery byte, `r`, `s`. -/
  sign : Bytes → Bytes → Except EvmFault Bytes
  /-- The uncompressed public key. -/
  getPublicKey : Bytes → Except EvmFault Bytes
  /-- Whether a signature's `s` is the high one; out of range, it is no signature. -/
  hasHighS : ℕ → ℕ → Except EvmFault Bool
  /-- The compressed key a recoverable signature over a hash belongs to. -/
  recoverPublicKey : Bytes → Bytes → Except EvmFault Bytes
  /-- A compressed key written out in full. -/
  uncompressed : Bytes → Except EvmFault Bytes

/-! ## Checks -/

def UINT256_LIMIT : ℤ := 2 ^ 256

def NONCE_LIMIT : ℤ := 2 ^ 64 - 1

/-- One quantity, checked to be an unsigned 256-bit integer. -/
def checkUint256 (field : String) (quantity : ℤ) : Except EvmFault Unit :=
  if quantity < 0 then .error (.error (field ++ " must not be negative (uint256)"))
  else if UINT256_LIMIT ≤ quantity then .error (.error (field ++ " must be a uint256"))
  else .ok ()

/-- Refuse unless the condition holds. -/
def ensure (condition : Prop) [Decidable condition] (message : String) : Except EvmFault Unit :=
  if condition then .ok () else .error (.error message)

/-- The checks on a transaction's fields before it is encoded. -/
def validateFields (tx : Eip1559Fields) : Except EvmFault Unit := do
  ensure (tx.destination.length = 0 ∨ tx.destination.length = 20)
    "to must be 20 bytes or empty for contract creation"
  checkUint256 "chainId" tx.chainId
  checkUint256 "nonce" tx.nonce
  checkUint256 "maxPriorityFeePerGas" tx.maxPriorityFeePerGas
  checkUint256 "maxFeePerGas" tx.maxFeePerGas
  checkUint256 "gas" tx.gas
  checkUint256 "value" tx.value
  ensure (¬ (tx.chainId = 0 ∨ tx.gas = 0)) "chainId and gas must be positive"
  ensure (tx.gas < 2 ^ 64) "gas exceeds uint64"
  ensure (tx.nonce < NONCE_LIMIT) "nonce exceeds the transaction nonce limit"
  ensure (tx.maxPriorityFeePerGas ≤ tx.maxFeePerGas) "priority fee exceeds maximum fee"

/-! ## Encoding -/

/-- The nine signed fields, in the order the type fixes, the access list empty. -/
def unsignedFields (tx : Eip1559Fields) : Except EvmFault (List RlpInput) := do
  validateFields tx
  let chainId ← rlpQuantity tx.chainId
  let nonce ← rlpQuantity tx.nonce
  let maxPriorityFeePerGas ← rlpQuantity tx.maxPriorityFeePerGas
  let maxFeePerGas ← rlpQuantity tx.maxFeePerGas
  let gas ← rlpQuantity tx.gas
  let value ← rlpQuantity tx.value
  return [.bytes chainId, .bytes nonce, .bytes maxPriorityFeePerGas, .bytes maxFeePerGas,
    .bytes gas, .bytes tx.destination, .bytes value, .bytes tx.data, .list []]

/-- A typed array of these bytes; none is longer than a number counts. -/
def typedArray (bytes : Bytes) : Except EvmFault Bytes :=
  if MAX_SAFE_INTEGER < bytes.length then .error (.error "Invalid typed array length")
  else .ok bytes

/-- The exact bytes a signature covers. -/
def unsignedPayload (tx : Eip1559Fields) : Except EvmFault Bytes := do
  let fields ← unsignedFields tx
  typedArray (TYPE_2 :: rlpEncode (.list fields))

/-- The bytes a node accepts: the nine fields and the signature as quantities. -/
def signedPayload (tx : Eip1559Fields) (yParity r s : ℤ) : Except EvmFault Bytes := do
  let fields ← unsignedFields tx
  let yParity ← rlpQuantity yParity
  let r ← rlpQuantity r
  let s ← rlpQuantity s
  typedArray (TYPE_2 :: rlpEncode (.list (fields ++
    [RlpInput.bytes yParity, RlpInput.bytes r, RlpInput.bytes s])))

section Signing

variable (crypto : Crypto)

/-- What is actually signed. -/
def signingHash (tx : Eip1559Fields) : Except EvmFault Bytes := do
  let payload ← unsignedPayload tx
  return crypto.keccak256 payload

/-- An address from an uncompressed public key: the last 20 bytes of its keccak, the
leading byte left out. -/
def addressFromPublicKey (uncompressed : Bytes) : Except EvmFault Bytes :=
  if uncompressed.length = 65 ∧ uncompressed.head? = some 0x04 then
    .ok ((crypto.keccak256 uncompressed.tail).drop
      ((crypto.keccak256 uncompressed.tail).length - 20))
  else .error (.error ("expected a 65-byte uncompressed public key, got " ++
    toString uncompressed.length))

/-- The address a private key controls. -/
def addressFromPrivateKey (privateKey : Bytes) : Except EvmFault Bytes := do
  let key ← crypto.getPublicKey privateKey
  addressFromPublicKey crypto key

/-- A signature over a transaction. -/
structure SignatureParts where
  yParity : ℕ
  r : Bytes
  s : Bytes
  deriving DecidableEq

/-- The recovery byte and the two scalars of the signature over a hash. -/
def signatureParts (hash privateKey : Bytes) : Except EvmFault SignatureParts := do
  let sig ← crypto.sign hash privateKey
  match sig with
  | [] => .error (.error "Cannot convert undefined to a BigInt")
  | recovery :: scalars =>
    return ⟨recovery.toNat, scalars.take 32, (scalars.drop 32).take 32⟩

/-- Bytes filled up to a size with leading zeros. -/
def padLeft (bytes : Bytes) (size : ℕ) : Except EvmFault Bytes :=
  if bytes.length = size then .ok bytes
  else if size < bytes.length then
    .error (.error ("value is " ++ toString bytes.length ++ " bytes, expected at most " ++
      toString size))
  else .ok (padded size bytes)

/-- The address that signed a transaction, from its signature. -/
def recoverSender (tx : Eip1559Fields) (signature : SignatureParts) : Except EvmFault Bytes := do
  ensure (signature.yParity = 0 ∨ signature.yParity = 1) "yParity must be zero or one"
  let high ← crypto.hasHighS (value signature.r) (value signature.s)
  ensure (high = false) "transaction signature must use low s"
  let r ← padLeft signature.r 32
  let s ← padLeft signature.s 32
  let hash ← signingHash crypto tx
  let point ← crypto.recoverPublicKey (UInt8.ofNat signature.yParity :: (r ++ s)) hash
  let key ← crypto.uncompressed point
  addressFromPublicKey crypto key

/-- A transaction ready to send. -/
structure SignedTransaction where
  raw : Bytes
  /-- The id a node will index it by. -/
  hash : Bytes
  /-- The source's `from`: recovered from the signature. -/
  sender : Bytes
  deriving DecidableEq

/-- Sign, and report the sender the chain will recover. -/
def signTransaction (tx : Eip1559Fields) (privateKey : Bytes) :
    Except EvmFault SignedTransaction := do
  let hash ← signingHash crypto tx
  let parts ← signatureParts crypto hash privateKey
  let raw ← signedPayload tx parts.yParity (value parts.r) (value parts.s)
  let sender ← recoverSender crypto tx parts
  let address ← addressFromPrivateKey crypto privateKey
  ensure (sender = address)
    "signed transaction recovers to a different sender than the key that signed it"
  return ⟨raw, crypto.keccak256 raw, sender⟩

end Signing

/-! ## Decoding -/

/-- A quantity out of a decoded item. -/
def quantityFromRlp (item : RlpInput) (name : String) : Except EvmFault ℕ :=
  match item with
  | .bytes content =>
    if 32 < content.length ∨ content.head? = some 0 then
      .error (.error (name ++ " must be a canonical uint256 quantity"))
    else .ok (value content)
  | .list _ => .error (.error (name ++ " must be a canonical uint256 quantity"))

/-- The bytes of a decoded item. -/
def bytesFromRlp (item : RlpInput) (name : String) : Except EvmFault Bytes :=
  match item with
  | .bytes content => .ok content
  | .list _ => .error (.error (name ++ " must be an RLP byte string"))

/-- The item a header delimits, the `index`-th of its list. -/
def readItem (raw : Bytes) (index : ℕ) (header : RlpHeader) : Except EvmFault RlpInput :=
  if header.list then
    if index ≠ 8 ∨ header.start ≠ header.stop then
      .error (.error "only an empty access list is supported")
    else .ok (.list [])
  else .ok (.bytes (slice raw header.start header.stop))

/-- A long length is read past where it starts. -/
theorem longLength_start {raw : Bytes} {start limit width : ℕ} {span : ℕ × ℕ}
    (h : longLength raw start limit width = .ok span) : start ≤ span.1 := by
  unfold longLength at h
  split at h
  · cases h
  · obtain ⟨length, -, hc⟩ := bind_ok h
    split at hc
    · cases hc
    · cases hc
      exact Nat.le_add_right start width

/-- Whatever header is accepted, its item ends after the offset. -/
theorem rlpHeader_progress {raw : Bytes} {offset limit : ℕ} {header : RlpHeader}
    (h : rlpHeader raw offset limit = .ok header) : offset < header.stop := by
  unfold rlpHeader at h
  split at h
  · cases h
  dsimp only at h
  split at h
  · cases h
    exact Nat.lt_succ_self offset
  obtain ⟨span, hr, hc⟩ := bind_ok h
  have hs : offset + 1 ≤ span.1 := by
    unfold payloadSpan at hr
    split at hr
    · cases hr
      exact le_rfl
    · exact longLength_start hr
  split at hc
  · cases hc
  split at hc
  · cases hc
  · cases hc
    dsimp only
    omega

/-- A list ends where a number still counts exactly. -/
theorem rlpHeader_safe {raw : Bytes} {offset limit : ℕ} {header : RlpHeader}
    (h : rlpHeader raw offset limit = .ok header) (hl : header.list = true) :
    header.stop ≤ MAX_SAFE_INTEGER := by
  unfold rlpHeader at h
  split at h
  · cases h
  dsimp only at h
  split at h
  · cases h
    cases hl
  obtain ⟨span, -, hc⟩ := bind_ok h
  split at hc
  · cases hc
  next hn =>
  split at hc
  · cases hc
  · cases hc
    dsimp only
    omega

/-- The items of a list, read one after another until it ends. -/
def decodeItems (raw : Bytes) (stop offset : ℕ) (items : List RlpInput) :
    Except EvmFault (List RlpInput) :=
  if offset < stop then
    match _hh : rlpHeader raw offset stop with
    | .error fault => .error fault
    | .ok header => do
      let item ← readItem raw items.length header
      if 12 < items.length + 1 then .error (.error "transaction must contain twelve fields")
      else decodeItems raw stop header.stop (items ++ [item])
  else .ok items
termination_by stop - offset
decreasing_by
  have hp := rlpHeader_progress _hh
  omega

/-- A transaction read back from its bytes. -/
structure DecodedSignedTransaction extends SignedTransaction where
  fields : Eip1559Fields
  signature : SignatureParts
  deriving DecidableEq

/-- The fields and the signature of twelve items. -/
def decodeFields (items : List RlpInput) : Except EvmFault (Eip1559Fields × SignatureParts) :=
  match items with
  | [chainId, nonce, maxPriorityFeePerGas, maxFeePerGas, gas, destination, amount, data,
      .list _, yParity, r, s] => do
    let chainId ← quantityFromRlp chainId "chainId"
    let nonce ← quantityFromRlp nonce "nonce"
    let maxPriorityFeePerGas ← quantityFromRlp maxPriorityFeePerGas "maxPriorityFeePerGas"
    let maxFeePerGas ← quantityFromRlp maxFeePerGas "maxFeePerGas"
    let gas ← quantityFromRlp gas "gas"
    let destination ← bytesFromRlp destination "to"
    let amount ← quantityFromRlp amount "value"
    let data ← bytesFromRlp data "data"
    let fields : Eip1559Fields :=
      ⟨chainId, nonce, maxPriorityFeePerGas, maxFeePerGas, gas, destination, amount, data⟩
    validateFields fields
    let yParity ← quantityFromRlp yParity "yParity"
    let rBytes ← bytesFromRlp r "r"
    let sBytes ← bytesFromRlp s "s"
    let _ ← quantityFromRlp r "r"
    let _ ← quantityFromRlp s "s"
    return (fields, ⟨yParity, rBytes, sBytes⟩)
  | _ => .error (.error "transaction must contain twelve fields")

/-- A raw transaction back to its fields and signature. -/
def decodeSignedTransaction (crypto : Crypto) (raw : Bytes) :
    Except EvmFault DecodedSignedTransaction := do
  ensure (raw.head? = some TYPE_2) "expected an EIP-1559 transaction"
  let root ← rlpHeader raw 1 raw.length
  ensure (root.list = true ∧ root.stop = raw.length) "transaction must be one complete RLP list"
  let items ← decodeItems raw root.stop root.start []
  let read ← decodeFields items
  let sender ← recoverSender crypto read.1 read.2
  return ⟨⟨raw, crypto.keccak256 raw, sender⟩, read.1, read.2⟩

/-! ## What the checks establish -/

/-- A check that passes holds. -/
theorem ensure_ok {condition : Prop} [Decidable condition] {message : String}
    (h : ensure condition message = .ok ()) : condition := by
  unfold ensure at h
  split at h
  · assumption
  · cases h

/-- A check of what holds passes. -/
theorem ensure_pos {condition : Prop} [Decidable condition] (h : condition) (message : String) :
    ensure condition message = .ok () := if_pos h

/-- A quantity that passes the check fits 256 bits. -/
theorem checkUint256_ok {field : String} {quantity : ℤ}
    (h : checkUint256 field quantity = .ok ()) :
    0 ≤ quantity ∧ quantity < UINT256_LIMIT := by
  unfold checkUint256 at h
  split at h
  · cases h
  split at h
  · cases h
  · omega

/-- The fields a signature may commit to, as far as their encoding goes. -/
structure Encodable (tx : Eip1559Fields) : Prop where
  chainId : 0 ≤ tx.chainId ∧ tx.chainId < UINT256_LIMIT
  nonce : 0 ≤ tx.nonce ∧ tx.nonce < UINT256_LIMIT
  maxPriorityFeePerGas : 0 ≤ tx.maxPriorityFeePerGas ∧ tx.maxPriorityFeePerGas < UINT256_LIMIT
  maxFeePerGas : 0 ≤ tx.maxFeePerGas ∧ tx.maxFeePerGas < UINT256_LIMIT
  gas : 0 ≤ tx.gas ∧ tx.gas < UINT256_LIMIT
  value : 0 ≤ tx.value ∧ tx.value < UINT256_LIMIT

/-- Every quantity of fields that pass is an unsigned 256-bit integer. -/
theorem validateFields_ok {tx : Eip1559Fields}
    (h : validateFields tx = .ok ()) : Encodable tx := by
  unfold validateFields at h
  obtain ⟨_, -, h⟩ := bind_ok h
  obtain ⟨_, hchain, h⟩ := bind_ok h
  obtain ⟨_, hnonce, h⟩ := bind_ok h
  obtain ⟨_, hpriority, h⟩ := bind_ok h
  obtain ⟨_, hfee, h⟩ := bind_ok h
  obtain ⟨_, hgas, h⟩ := bind_ok h
  obtain ⟨_, hvalue, h⟩ := bind_ok h
  exact ⟨checkUint256_ok hchain, checkUint256_ok hnonce, checkUint256_ok hpriority,
    checkUint256_ok hfee, checkUint256_ok hgas, checkUint256_ok hvalue⟩

/-! ## The items of a transaction -/

/-- A quantity as an item. -/
def quantityItem (quantity : ℤ) : RlpInput := .bytes (minimalBytes quantity.toNat)

/-- The nine items of the signed fields. -/
def fieldItems (tx : Eip1559Fields) : List RlpInput :=
  [quantityItem tx.chainId, quantityItem tx.nonce, quantityItem tx.maxPriorityFeePerGas,
    quantityItem tx.maxFeePerGas, quantityItem tx.gas, .bytes tx.destination,
    quantityItem tx.value, .bytes tx.data, .list []]

/-- The twelve items of a signed transaction. -/
def signedItems (tx : Eip1559Fields) (yParity r s : ℕ) : List RlpInput :=
  fieldItems tx ++ [quantityItem yParity, quantityItem r, quantityItem s]

/-- A quantity that is not negative is written as its shortest bytes. -/
theorem rlpQuantity_nonneg {quantity : ℤ} (h : 0 ≤ quantity) :
    rlpQuantity quantity = .ok (minimalBytes quantity.toNat) := if_neg (by omega)

/-- Fields that pass are written as their nine items. -/
theorem unsignedFields_eq {tx : Eip1559Fields}
    (h : validateFields tx = .ok ()) : unsignedFields tx = .ok (fieldItems tx) := by
  have he := validateFields_ok h
  unfold unsignedFields
  rw [h, ok_bind, rlpQuantity_nonneg he.chainId.1, ok_bind, rlpQuantity_nonneg he.nonce.1,
    ok_bind, rlpQuantity_nonneg he.maxPriorityFeePerGas.1, ok_bind,
    rlpQuantity_nonneg he.maxFeePerGas.1, ok_bind, rlpQuantity_nonneg he.gas.1, ok_bind,
    rlpQuantity_nonneg he.value.1, ok_bind]
  rfl

/-- Fields whose items were written had passed. -/
theorem unsignedFields_valid {tx : Eip1559Fields} {items : List RlpInput}
    (h : unsignedFields tx = .ok items) : validateFields tx = .ok () := by
  unfold unsignedFields at h
  obtain ⟨_, hv, -⟩ := bind_ok h
  exact hv

/-- A typed array holds the bytes it was made from. -/
theorem typedArray_ok {bytes array : Bytes} (h : typedArray bytes = .ok array) :
    array = bytes ∧ bytes.length ≤ MAX_SAFE_INTEGER := by
  unfold typedArray at h
  split at h
  · cases h
  · cases h
    exact ⟨rfl, by omega⟩

/-- The signed bytes of fields that pass are the type byte and the list of twelve items. -/
theorem signedPayload_eq {tx : Eip1559Fields} (h : validateFields tx = .ok ())
    (yParity r s : ℕ) :
    signedPayload tx yParity r s =
      typedArray (TYPE_2 :: rlpEncode (.list (signedItems tx yParity r s))) := by
  unfold signedPayload
  rw [unsignedFields_eq h, ok_bind, rlpQuantity_nonneg (Int.natCast_nonneg yParity), ok_bind,
    rlpQuantity_nonneg (Int.natCast_nonneg r), ok_bind,
    rlpQuantity_nonneg (Int.natCast_nonneg s), ok_bind]
  rfl

/-! ## What was read can be written again -/

/-- Two adjoining slices make up the slice over both. -/
theorem slice_append {raw : Bytes} {start mid stop : ℕ} (h1 : start ≤ mid) (h2 : mid ≤ stop) :
    slice raw start stop = slice raw start mid ++ slice raw mid stop := by
  unfold slice
  have hd : raw.drop mid = (raw.drop start).drop (mid - start) := by
    rw [List.drop_drop, Nat.add_sub_cancel' h1]
  rw [hd, ← List.take_add]
  congr 1
  omega

/-- An empty span cuts nothing out. -/
theorem slice_self (raw : Bytes) (start : ℕ) : slice raw start start = [] := by
  unfold slice
  rw [Nat.sub_self, List.take_zero]

/-- Only the empty list stands among the items. -/
def Flat (item : RlpInput) : Prop := ∀ inner, item = .list inner → inner = []

/-- An item that was read is written as the bytes it was read from. -/
theorem readItem_ok {raw : Bytes} {index : ℕ} {header : RlpHeader} {item : RlpInput}
    (h : readItem raw index header = .ok item) :
    rlpEncode item = itemBytes header.list (slice raw header.start header.stop) ∧ Flat item := by
  unfold readItem at h
  split at h
  next hl =>
    split at h
    · cases h
    next he =>
      cases h
      push Not at he
      refine ⟨?_, fun inner hi => (RlpInput.list.inj hi).symm⟩
      rw [hl, he.2, slice_self, rlpEncode, rlpEncodeAll]
      rfl
  next hl =>
    cases h
    refine ⟨?_, fun inner hi => RlpInput.noConfusion hi⟩
    rw [Bool.eq_false_iff.mpr hl]
    rfl

/-- What the loop adds to the items is written as the bytes it went over. -/
theorem decodeItems_ok {raw : Bytes} {stop offset : ℕ} {items all : List RlpInput}
    (h : decodeItems raw stop offset items = .ok all) (hl : stop ≤ raw.length)
    (ho : offset ≤ stop) :
    ∃ added, all = items ++ added ∧ rlpEncodeAll added = slice raw offset stop ∧
      ∀ item ∈ added, Flat item := by
  induction offset, items using decodeItems.induct raw stop generalizing all with
  | case1 offset items hlt fault hh =>
    rw [decodeItems, if_pos hlt, hh] at h
    cases h
  | case2 offset items hlt header hh ih =>
    rw [decodeItems, if_pos hlt, hh] at h
    obtain ⟨item, hi, hc⟩ := bind_ok h
    split at hc
    · cases hc
    have hd := rlpHeader_delimits hh hl
    obtain ⟨hw, hf⟩ := readItem_ok hi
    obtain ⟨added, rfl, hb, hflat⟩ := ih item hc hd.within
    refine ⟨item :: added, by simp, ?_, fun other ho => ?_⟩
    · rw [rlpEncodeAll, hb, hw, ← hd.encoded]
      exact (slice_append hd.progress.le hd.within).symm
    · rcases List.mem_cons.mp ho with rfl | hm
      · exact hf
      · exact hflat other hm
  | case3 offset items hge =>
    rw [decodeItems, if_neg hge] at h
    cases h
    have he : offset = stop := by omega
    rw [he, slice_self]
    exact ⟨[], by simp, by rw [rlpEncodeAll], by simp⟩

/-- An accepted quantity is the minimal bytes of its value. -/
theorem quantityFromRlp_ok {item : RlpInput} {name : String} {quantity : ℕ}
    (h : quantityFromRlp item name = .ok quantity) : item = quantityItem quantity := by
  cases item with
  | list inner => cases h
  | bytes content =>
    unfold quantityFromRlp at h
    dsimp only at h
    split at h
    · cases h
    next hn =>
      cases h
      push Not at hn
      unfold quantityItem
      rw [Int.toNat_natCast, minimalBytes_value hn.2]

/-- What is read as bytes was bytes. -/
theorem bytesFromRlp_ok {item : RlpInput} {name : String} {content : Bytes}
    (h : bytesFromRlp item name = .ok content) : item = .bytes content := by
  cases item with
  | list inner => cases h
  | bytes content =>
    cases h
    rfl

/-- A scalar read both as bytes and as a quantity has no leading zero. -/
theorem scalar_ok {item : RlpInput} {name name' : String} {content : Bytes} {quantity : ℕ}
    (hb : bytesFromRlp item name = .ok content) (hq : quantityFromRlp item name' = .ok quantity) :
    item = quantityItem (value content) ∧ Canonical content := by
  have he := quantityFromRlp_ok hq
  have hc := bytesFromRlp_ok hb
  rw [he] at hc
  unfold quantityItem at he hc
  rw [Int.toNat_natCast] at hc
  rw [← RlpInput.bytes.inj hc, value_minimalBytes, he]
  exact ⟨rfl, canonical_minimalBytes quantity⟩

/-- The fields and the signature that were read are written as the items they were read
from, and they pass. -/
theorem decodeFields_ok {items : List RlpInput} {read : Eip1559Fields × SignatureParts}
    (h : decodeFields items = .ok read) (hf : ∀ item ∈ items, Flat item) :
    validateFields read.1 = .ok () ∧
      items = signedItems read.1 read.2.yParity (value read.2.r) (value read.2.s) ∧
      Canonical read.2.r ∧ Canonical read.2.s := by
  unfold decodeFields at h
  split at h
  next chainId nonce priority fee gas destination amount data inner yParity r s =>
    obtain ⟨chainId', h1, h⟩ := bind_ok h
    obtain ⟨nonce', h2, h⟩ := bind_ok h
    obtain ⟨priority', h3, h⟩ := bind_ok h
    obtain ⟨fee', h4, h⟩ := bind_ok h
    obtain ⟨gas', h5, h⟩ := bind_ok h
    obtain ⟨destination', h6, h⟩ := bind_ok h
    obtain ⟨amount', h7, h⟩ := bind_ok h
    obtain ⟨data', h8, h⟩ := bind_ok h
    obtain ⟨_, hv, h⟩ := bind_ok h
    obtain ⟨yParity', h9, h⟩ := bind_ok h
    obtain ⟨r', h10, h⟩ := bind_ok h
    obtain ⟨s', h11, h⟩ := bind_ok h
    obtain ⟨rq, h12, h⟩ := bind_ok h
    obtain ⟨sq, h13, h⟩ := bind_ok h
    cases h
    obtain ⟨hr, hrc⟩ := scalar_ok h10 h12
    obtain ⟨hs, hsc⟩ := scalar_ok h11 h13
    refine ⟨hv, ?_, hrc, hsc⟩
    have hinner : inner = [] := hf (.list inner) (by simp) inner rfl
    rw [quantityFromRlp_ok h1, quantityFromRlp_ok h2, quantityFromRlp_ok h3,
      quantityFromRlp_ok h4, quantityFromRlp_ok h5, bytesFromRlp_ok h6, quantityFromRlp_ok h7,
      bytesFromRlp_ok h8, hinner, quantityFromRlp_ok h9, hr, hs]
    rfl
  next => cases h

/-- What decoding went through: the whole list, its items and the sender. -/
theorem decodeSignedTransaction_ok {crypto : Crypto} {raw : Bytes}
    {decoded : DecodedSignedTransaction}
    (h : decodeSignedTransaction crypto raw = .ok decoded) :
    ∃ root items, raw.head? = some TYPE_2 ∧ rlpHeader raw 1 raw.length = .ok root ∧
      root.list = true ∧ root.stop = raw.length ∧
      decodeItems raw root.stop root.start [] = .ok items ∧
      decodeFields items = .ok (decoded.fields, decoded.signature) ∧
      recoverSender crypto decoded.fields decoded.signature = .ok decoded.sender ∧
      decoded.raw = raw ∧ decoded.hash = crypto.keccak256 raw := by
  unfold decodeSignedTransaction at h
  obtain ⟨_, ht, h⟩ := bind_ok h
  obtain ⟨root, hr, h⟩ := bind_ok h
  obtain ⟨_, hroot, h⟩ := bind_ok h
  obtain ⟨items, hi, h⟩ := bind_ok h
  obtain ⟨read, hf, h⟩ := bind_ok h
  obtain ⟨sender, hs, h⟩ := bind_ok h
  cases h
  exact ⟨root, items, ensure_ok ht, hr, (ensure_ok hroot).1, (ensure_ok hroot).2, hi, hf, hs,
    rfl, rfl⟩

/-- Whatever bytes are accepted, the fields and the signature read from them are written as
those bytes. -/
theorem signedPayload_decoded {crypto : Crypto} {raw : Bytes} {decoded : DecodedSignedTransaction}
    (h : decodeSignedTransaction crypto raw = .ok decoded) :
    signedPayload decoded.fields decoded.signature.yParity (value decoded.signature.r)
        (value decoded.signature.s) = .ok raw ∧
      Canonical decoded.signature.r ∧ Canonical decoded.signature.s := by
  obtain ⟨root, items, ht, hr, hlist, hstop, hi, hf, -⟩ := decodeSignedTransaction_ok h
  have hd := rlpHeader_delimits hr le_rfl
  obtain ⟨added, rfl, hb, hflat⟩ := decodeItems_ok hi hd.within hd.ordered
  obtain ⟨hv, hitems, hcanonical⟩ := decodeFields_ok hf hflat
  obtain ⟨tail, rfl⟩ := List.head?_eq_some_iff.mp ht
  have hall : slice (TYPE_2 :: tail) 1 (TYPE_2 :: tail).length = tail := by
    unfold slice
    rw [List.drop_succ_cons, List.drop_zero, List.length_cons, Nat.add_sub_cancel]
    exact List.take_length
  have hencoded := hd.encoded
  rw [hlist, ← hb, hstop, hall] at hencoded
  have hsafe := rlpHeader_safe hr hlist
  rw [hstop] at hsafe
  refine ⟨?_, hcanonical⟩
  rw [signedPayload_eq hv, ← hitems, rlpEncode]
  unfold itemBytes at hencoded
  rw [if_pos rfl] at hencoded
  rw [← hencoded]
  exact if_neg (by omega)

/-! ## What was written reads back -/

/-- An item the decoder takes at this place of its list. -/
inductive Readable : ℕ → RlpInput → Prop where
  | bytes (index : ℕ) (content : Bytes) : Readable index (.bytes content)
  | accessList : Readable 8 (.list [])

/-- Items the decoder takes from this place on. -/
def ReadableFrom : ℕ → List RlpInput → Prop
  | _, [] => True
  | index, item :: rest => Readable index item ∧ ReadableFrom (index + 1) rest

/-- An item ends with its payload. -/
theorem itemBytes_payload (list : Bool) (payload : Bytes) :
    ∃ header, itemBytes list payload = header ++ payload := by
  by_cases hs : list = true ∨ ¬ SingleByte payload
  · rw [itemBytes_prefixed hs]
    unfold withPrefix
    split
    · exact ⟨[_], rfl⟩
    · exact ⟨_ :: lengthBytes payload.length, by rw [List.cons_append]⟩
  · push Not at hs
    have hf : list = false := by simpa using hs.1
    rw [hf, itemBytes_single hs.2]
    exact ⟨[], rfl⟩

/-- No item is empty. -/
theorem itemBytes_pos (list : Bool) (payload : Bytes) : 0 < (itemBytes list payload).length := by
  by_cases hs : list = true ∨ ¬ SingleByte payload
  · rw [itemBytes_prefixed hs]
    unfold withPrefix
    split
    · exact Nat.succ_pos _
    · exact Nat.succ_pos _
  · push Not at hs
    have hf : list = false := by simpa using hs.1
    have h1 := hs.2.1
    rw [hf, itemBytes_single hs.2]
    omega

/-- The payload lies where the header of a written item says. -/
theorem slice_payload {raw payload rest : Bytes} {offset : ℕ} {list : Bool}
    (hr : raw.drop offset = itemBytes list payload ++ rest) :
    slice raw (offset + (itemBytes list payload).length - payload.length)
      (offset + (itemBytes list payload).length) = payload := by
  obtain ⟨header, he⟩ := itemBytes_payload list payload
  rw [he] at hr ⊢
  rw [List.length_append]
  have hd : raw.drop (offset + header.length) = payload ++ rest := by
    rw [← List.drop_drop, hr, List.append_assoc]
    exact List.drop_left
  unfold slice
  rw [show offset + (header.length + payload.length) - payload.length =
      offset + header.length by omega, hd,
    show offset + (header.length + payload.length) - (offset + header.length) =
      payload.length by omega]
  exact List.take_left

/-- The header and the content of an item that was written. -/
theorem readItem_written {raw rest : Bytes} {offset limit index : ℕ} {item : RlpInput}
    (hi : Readable index item) (hr : raw.drop offset = rlpEncode item ++ rest)
    (hb : offset + (rlpEncode item).length ≤ limit) (hm : limit ≤ MAX_SAFE_INTEGER) :
    ∃ header, rlpHeader raw offset limit = .ok header ∧
      header.stop = offset + (rlpEncode item).length ∧ readItem raw index header = .ok item := by
  cases hi with
  | bytes _ content =>
    have he : rlpEncode (.bytes content) = itemBytes false content := rfl
    rw [he] at hr hb ⊢
    refine ⟨_, rlpHeader_itemBytes hr hb hm, rfl, ?_⟩
    unfold readItem
    rw [if_neg Bool.false_ne_true, slice_payload hr]
  | accessList =>
    have he : rlpEncode (.list []) = itemBytes true [] := by
      rw [rlpEncode, rlpEncodeAll]
      rfl
    rw [he] at hr hb ⊢
    refine ⟨_, rlpHeader_itemBytes hr hb hm, rfl, ?_⟩
    unfold readItem
    rw [if_pos rfl, if_neg]
    simp

/-- An item the decoder takes is not empty. -/
theorem rlpEncode_pos {index : ℕ} {item : RlpInput} (hi : Readable index item) :
    0 < (rlpEncode item).length := by
  cases hi with
  | bytes _ content => exact itemBytes_pos false content
  | accessList =>
    rw [rlpEncode, rlpEncodeAll]
    exact itemBytes_pos true []

/-- The loop reads back the items that were written, as long as there are no more than
twelve. -/
theorem decodeItems_written {raw rest : Bytes} {stop : ℕ} (hm : stop ≤ MAX_SAFE_INTEGER)
    {written : List RlpInput} {items : List RlpInput} {offset : ℕ}
    (hr : raw.drop offset = rlpEncodeAll written ++ rest)
    (he : offset + (rlpEncodeAll written).length = stop)
    (hw : ReadableFrom items.length written) (hn : items.length + written.length ≤ 12) :
    decodeItems raw stop offset items = .ok (items ++ written) := by
  induction written generalizing items offset with
  | nil =>
    rw [rlpEncodeAll, List.length_nil] at he
    rw [decodeItems, if_neg (by omega), List.append_nil]
  | cons item written ih =>
    rw [rlpEncodeAll, List.append_assoc] at hr
    rw [rlpEncodeAll, List.length_append] at he
    rw [List.length_cons] at hn
    have hpos := rlpEncode_pos hw.1
    obtain ⟨header, hh, hs, hread⟩ := readItem_written hw.1 hr (by omega) hm
    have hd : raw.drop header.stop = rlpEncodeAll written ++ rest := by
      rw [hs, ← List.drop_drop, hr]
      exact List.drop_left
    have hl : (items ++ [item]).length = items.length + 1 := by simp
    have hnext := ih hd (by omega) (by rw [hl]; exact hw.2) (by omega)
    rw [decodeItems, if_pos (by omega), hh]
    dsimp only
    rw [hread, ok_bind, if_neg (by omega), hnext, List.append_assoc]
    rfl

/-- The twelve items of a signed transaction are items the decoder takes. -/
theorem readable_signedItems (tx : Eip1559Fields) (yParity r s : ℕ) :
    ReadableFrom 0 (signedItems tx yParity r s) := by
  unfold signedItems fieldItems quantityItem
  simp only [List.cons_append, List.nil_append, ReadableFrom, Readable.bytes,
    Nat.reduceAdd, Readable.accessList, and_self]

/-- A quantity that fits a word reads back. -/
theorem quantityFromRlp_written {quantity : ℤ} (h : 0 ≤ quantity ∧ quantity < UINT256_LIMIT)
    (name : String) : quantityFromRlp (quantityItem quantity) name = .ok quantity.toNat := by
  have hlt : quantity.toNat < 256 ^ 32 := by
    unfold UINT256_LIMIT at h
    omega
  have hl := length_minimalBytes_le hlt
  have hc := canonical_minimalBytes quantity.toNat
  unfold quantityFromRlp quantityItem
  dsimp only
  rw [if_neg, value_minimalBytes]
  rintro (hlen | hz)
  · omega
  · exact hc hz

/-- The value of at most 32 bytes fits a word. -/
theorem value_uint256 {bytes : Bytes} (h : bytes.length ≤ 32) :
    0 ≤ (value bytes : ℤ) ∧ (value bytes : ℤ) < UINT256_LIMIT := by
  have hv := value_lt bytes
  have hp : 256 ^ bytes.length ≤ 256 ^ 32 := Nat.pow_le_pow_right (by decide) h
  unfold UINT256_LIMIT
  omega

/-- The twelve items of fields that pass read back as the fields and the signature, its
scalars without leading zeros. -/
theorem decodeFields_written {tx : Eip1559Fields} {parts : SignatureParts}
    (hv : validateFields tx = .ok ()) (hy : parts.yParity = 0 ∨ parts.yParity = 1)
    (hr : parts.r.length ≤ 32) (hs : parts.s.length ≤ 32) :
    decodeFields (signedItems tx parts.yParity (value parts.r) (value parts.s)) =
      .ok (tx, ⟨parts.yParity, minimalBytes (value parts.r), minimalBytes (value parts.s)⟩) := by
  have he := validateFields_ok hv
  have hyl : 0 ≤ (parts.yParity : ℤ) ∧ (parts.yParity : ℤ) < UINT256_LIMIT := by
    unfold UINT256_LIMIT
    omega
  have hfields : (⟨tx.chainId.toNat, tx.nonce.toNat, tx.maxPriorityFeePerGas.toNat,
      tx.maxFeePerGas.toNat, tx.gas.toNat, tx.destination, tx.value.toNat, tx.data⟩ :
        Eip1559Fields) = tx := by
    rw [Int.toNat_of_nonneg he.chainId.1, Int.toNat_of_nonneg he.nonce.1,
      Int.toNat_of_nonneg he.maxPriorityFeePerGas.1, Int.toNat_of_nonneg he.maxFeePerGas.1,
      Int.toNat_of_nonneg he.gas.1, Int.toNat_of_nonneg he.value.1]
  unfold signedItems fieldItems decodeFields
  simp only [List.cons_append, List.nil_append]
  rw [quantityFromRlp_written he.chainId, ok_bind, quantityFromRlp_written he.nonce, ok_bind,
    quantityFromRlp_written he.maxPriorityFeePerGas, ok_bind,
    quantityFromRlp_written he.maxFeePerGas, ok_bind, quantityFromRlp_written he.gas, ok_bind]
  rw [show bytesFromRlp (.bytes tx.destination) "to" = .ok tx.destination from rfl, ok_bind,
    quantityFromRlp_written he.value, ok_bind,
    show bytesFromRlp (.bytes tx.data) "data" = .ok tx.data from rfl, ok_bind]
  rw [hfields, hv, ok_bind, quantityFromRlp_written hyl, ok_bind,
    quantityFromRlp_written (value_uint256 hr), quantityFromRlp_written (value_uint256 hs)]
  rfl

/-- Bytes that fit are padded. -/
theorem padLeft_of_le {bytes : Bytes} {size : ℕ} (h : bytes.length ≤ size) :
    padLeft bytes size = .ok (padded size bytes) := by
  unfold padLeft
  split
  next he =>
    unfold padded
    rw [he, Nat.sub_self]
    rfl
  next => rw [if_neg (by omega)]

/-- Bytes that fit are padded to the same as without their leading zeros. -/
theorem padLeft_minimal {bytes : Bytes} {size : ℕ} (h : bytes.length ≤ size) :
    padLeft (minimalBytes (value bytes)) size = padLeft bytes size := by
  have hm : (minimalBytes (value bytes)).length ≤ size :=
    (length_minimalBytes_le (value_lt bytes)).trans h
  rw [padLeft_of_le hm, padLeft_of_le h, padded_minimalBytes h]

/-- Dropping leading zeros does not change what is recovered. -/
theorem recoverSender_minimal (crypto : Crypto) (tx : Eip1559Fields) {parts : SignatureParts}
    (hr : parts.r.length ≤ 32) (hs : parts.s.length ≤ 32) :
    recoverSender crypto tx
      ⟨parts.yParity, minimalBytes (value parts.r), minimalBytes (value parts.s)⟩ =
      recoverSender crypto tx parts := by
  unfold recoverSender
  dsimp only
  rw [value_minimalBytes, value_minimalBytes, padLeft_minimal hr, padLeft_minimal hs]

/-- The type byte and one list of twelve items are decoded as the items are. -/
theorem decodeSignedTransaction_written {crypto : Crypto} {items : List RlpInput}
    (hi : ReadableFrom 0 items) (hn : items.length ≤ 12)
    (hm : (TYPE_2 :: rlpEncode (.list items)).length ≤ MAX_SAFE_INTEGER)
    {read : Eip1559Fields × SignatureParts} {sender : Bytes} (hf : decodeFields items = .ok read)
    (hs : recoverSender crypto read.1 read.2 = .ok sender) :
    decodeSignedTransaction crypto (TYPE_2 :: rlpEncode (.list items)) =
      .ok ⟨⟨TYPE_2 :: rlpEncode (.list items),
        crypto.keccak256 (TYPE_2 :: rlpEncode (.list items)), sender⟩, read.1, read.2⟩ := by
  have he : rlpEncode (.list items) = itemBytes true (rlpEncodeAll items) := by
    rw [rlpEncode]
    rfl
  rw [he] at hm ⊢
  have hd : (TYPE_2 :: itemBytes true (rlpEncodeAll items)).drop 1 =
      itemBytes true (rlpEncodeAll items) ++ [] := by simp
  have hlen : (TYPE_2 :: itemBytes true (rlpEncodeAll items)).length =
      1 + (itemBytes true (rlpEncodeAll items)).length := by
    rw [List.length_cons, Nat.add_comm]
  have hroot := rlpHeader_itemBytes hd hlen.ge hm
  obtain ⟨header, hp⟩ := itemBytes_payload true (rlpEncodeAll items)
  have hstart : (TYPE_2 :: itemBytes true (rlpEncodeAll items)).drop
      (1 + (itemBytes true (rlpEncodeAll items)).length - (rlpEncodeAll items).length) =
        rlpEncodeAll items ++ [] := by
    rw [hp, List.length_append, show 1 + (header.length + (rlpEncodeAll items).length) -
      (rlpEncodeAll items).length = header.length + 1 by omega, List.drop_succ_cons,
      List.append_nil]
    exact List.drop_left
  have hitems : decodeItems (TYPE_2 :: itemBytes true (rlpEncodeAll items))
      (1 + (itemBytes true (rlpEncodeAll items)).length)
      (1 + (itemBytes true (rlpEncodeAll items)).length - (rlpEncodeAll items).length) [] =
        .ok ([] ++ items) := by
    refine decodeItems_written (hlen ▸ hm) hstart ?_ hi ?_
    · rw [hp, List.length_append]
      omega
    · rw [List.length_nil]
      omega
  unfold decodeSignedTransaction
  rw [ensure_pos (by rfl), ok_bind, hroot, ok_bind, ensure_pos ⟨rfl, hlen.symm⟩, ok_bind,
    hitems, ok_bind, List.nil_append, hf, ok_bind, hs, ok_bind]
  rfl

/-- The parts of a signature are scalars of at most 32 bytes. -/
theorem signatureParts_length {crypto : Crypto} {hash privateKey : Bytes} {parts : SignatureParts}
    (h : signatureParts crypto hash privateKey = .ok parts) :
    parts.r.length ≤ 32 ∧ parts.s.length ≤ 32 := by
  unfold signatureParts at h
  obtain ⟨sig, -, h⟩ := bind_ok h
  cases sig with
  | nil => cases h
  | cons recovery scalars =>
    cases h
    dsimp only
    rw [List.length_take, List.length_take]
    exact ⟨min_le_left _ _, min_le_left _ _⟩

/-- A transaction that was signed is decoded as it was. -/
theorem decode_signed {crypto : Crypto} {tx : Eip1559Fields} {privateKey : Bytes}
    {signed : SignedTransaction} (h : signTransaction crypto tx privateKey = .ok signed) :
    ∃ decoded, decodeSignedTransaction crypto signed.raw = .ok decoded ∧ decoded.fields = tx ∧
      decoded.toSignedTransaction = signed ∧
      addressFromPrivateKey crypto privateKey = .ok decoded.sender ∧
      signed.hash = crypto.keccak256 signed.raw := by
  unfold signTransaction at h
  obtain ⟨hash, hh, h⟩ := bind_ok h
  obtain ⟨parts, hparts, h⟩ := bind_ok h
  obtain ⟨raw, hraw, h⟩ := bind_ok h
  obtain ⟨sender, hsender, h⟩ := bind_ok h
  obtain ⟨address, haddress, h⟩ := bind_ok h
  obtain ⟨_, hsame, h⟩ := bind_ok h
  cases h
  obtain ⟨items, hitems, -⟩ := bind_ok hraw
  have hv := unsignedFields_valid hitems
  have hy : parts.yParity = 0 ∨ parts.yParity = 1 := by
    unfold recoverSender at hsender
    obtain ⟨_, hy, -⟩ := bind_ok hsender
    exact ensure_ok hy
  obtain ⟨hr, hs⟩ := signatureParts_length hparts
  rw [signedPayload_eq hv] at hraw
  obtain ⟨rfl, hm⟩ := typedArray_ok hraw
  rw [← recoverSender_minimal crypto tx hr hs] at hsender
  refine ⟨_, decodeSignedTransaction_written (readable_signedItems tx _ _ _) le_rfl hm
    (decodeFields_written hv hy hr hs) hsender, rfl, rfl, ?_, rfl⟩
  rw [haddress, ensure_ok hsame]

/-- The two directions of the codec agree, whatever the hash and the curve compute. A
transaction that was signed is decoded as its fields, its signer and its hash. Bytes that
are decoded are the ones that signing these fields with this signature writes. -/
theorem eip1559_codec_inverse (crypto : Crypto) :
    (∀ tx privateKey signed, signTransaction crypto tx privateKey = .ok signed →
      ∃ decoded, decodeSignedTransaction crypto signed.raw = .ok decoded ∧
        decoded.fields = tx ∧ decoded.toSignedTransaction = signed ∧
        addressFromPrivateKey crypto privateKey = .ok decoded.sender ∧
        signed.hash = crypto.keccak256 signed.raw) ∧
    (∀ raw decoded, decodeSignedTransaction crypto raw = .ok decoded →
      signedPayload decoded.fields decoded.signature.yParity (value decoded.signature.r)
        (value decoded.signature.s) = .ok raw ∧
      Canonical decoded.signature.r ∧ Canonical decoded.signature.s ∧
      decoded.raw = raw ∧ decoded.hash = crypto.keccak256 raw ∧
      recoverSender crypto decoded.fields decoded.signature = .ok decoded.sender) := by
  constructor
  · intro tx privateKey signed h
    exact decode_signed h
  · intro raw decoded h
    obtain ⟨hp, hr, hs⟩ := signedPayload_decoded h
    obtain ⟨root, items, -, -, -, -, -, -, hsender, hraw, hhash⟩ := decodeSignedTransaction_ok h
    exact ⟨hp, hr, hs, hraw, hhash, hsender⟩

/-! ### A transaction of the key `1` -/

/-- The private key `1`. -/
def sampleKey : Bytes := List.replicate 31 0 ++ [1]

/-- A call of a burn address on chain 1. -/
def sampleFields : Eip1559Fields :=
  ⟨1, 0, 1, 2, 21000, List.replicate 18 0 ++ [0xde, 0xad], 0, []⟩

/-- The bytes its signature covers. -/
def samplePayload : Bytes :=
  [0x02, 0xdf, 0x01, 0x80, 0x01, 0x02, 0x82, 0x52, 0x08, 0x94, 0x00, 0x00, 0x00, 0x00, 0x00, 0x00,
   0x00, 0x00, 0x00, 0x00, 0x00, 0x00, 0x00, 0x00, 0x00, 0x00, 0x00, 0x00, 0xde, 0xad, 0x80, 0x80,
   0xc0]

/-- The hash that is signed. -/
def sampleSigningHash : Bytes :=
  [0xb1, 0x8a, 0xbc, 0x85, 0x50, 0xe0, 0xf1, 0xf8, 0x5a, 0x62, 0x19, 0xff, 0x71, 0xd5, 0xbe, 0xa9,
   0xa2, 0x5c, 0xaf, 0x66, 0xb2, 0x5f, 0xea, 0xa6, 0x98, 0x92, 0xad, 0x62, 0x01, 0x0b, 0x9e, 0x61]

/-- The two scalars of the signature, whose recovery byte is one. -/
def sampleScalars : Bytes :=
  [0xf9, 0x6e, 0x6d, 0x3c, 0xf6, 0x84, 0x26, 0xc2, 0xaf, 0x18, 0x2f, 0x48, 0x2f, 0x49, 0x97, 0x9d,
   0xa8, 0x23, 0x33, 0x14, 0x86, 0xb5, 0x8b, 0x1e, 0xa8, 0x77, 0x74, 0xda, 0x03, 0x66, 0xa7, 0x5a,
   0x1e, 0x93, 0x5c, 0xed, 0xa7, 0x08, 0x0e, 0x95, 0x1a, 0x16, 0x31, 0xad, 0xb3, 0x59, 0x22, 0x8f,
   0xf7, 0x63, 0xe6, 0x7e, 0x4a, 0xd8, 0x3a, 0xa0, 0xf3, 0x7f, 0x87, 0xb4, 0x62, 0x06, 0x79, 0xc8]

/-- The point of the key: the curve's generator. -/
def samplePoint : Bytes :=
  [0x79, 0xbe, 0x66, 0x7e, 0xf9, 0xdc, 0xbb, 0xac, 0x55, 0xa0, 0x62, 0x95, 0xce, 0x87, 0x0b, 0x07,
   0x02, 0x9b, 0xfc, 0xdb, 0x2d, 0xce, 0x28, 0xd9, 0x59, 0xf2, 0x81, 0x5b, 0x16, 0xf8, 0x17, 0x98,
   0x48, 0x3a, 0xda, 0x77, 0x26, 0xa3, 0xc4, 0x65, 0x5d, 0xa4, 0xfb, 0xfc, 0x0e, 0x11, 0x08, 0xa8,
   0xfd, 0x17, 0xb4, 0x48, 0xa6, 0x85, 0x54, 0x19, 0x9c, 0x47, 0xd0, 0x8f, 0xfb, 0x10, 0xd4, 0xb8]

/-- The signed bytes. -/
def sampleRaw : Bytes :=
  [0x02, 0xf8, 0x62, 0x01, 0x80, 0x01, 0x02, 0x82, 0x52, 0x08, 0x94, 0x00, 0x00, 0x00, 0x00, 0x00,
   0x00, 0x00, 0x00, 0x00, 0x00, 0x00, 0x00, 0x00, 0x00, 0x00, 0x00, 0x00, 0x00, 0xde, 0xad, 0x80,
   0x80, 0xc0, 0x01, 0xa0, 0xf9, 0x6e, 0x6d, 0x3c, 0xf6, 0x84, 0x26, 0xc2, 0xaf, 0x18, 0x2f, 0x48,
   0x2f, 0x49, 0x97, 0x9d, 0xa8, 0x23, 0x33, 0x14, 0x86, 0xb5, 0x8b, 0x1e, 0xa8, 0x77, 0x74, 0xda,
   0x03, 0x66, 0xa7, 0x5a, 0xa0, 0x1e, 0x93, 0x5c, 0xed, 0xa7, 0x08, 0x0e, 0x95, 0x1a, 0x16, 0x31,
   0xad, 0xb3, 0x59, 0x22, 0x8f, 0xf7, 0x63, 0xe6, 0x7e, 0x4a, 0xd8, 0x3a, 0xa0, 0xf3, 0x7f, 0x87,
   0xb4, 0x62, 0x06, 0x79, 0xc8]

/-- Their hash. -/
def sampleHash : Bytes :=
  [0x56, 0x5f, 0xa9, 0xf9, 0xf6, 0xd6, 0xb8, 0xfe, 0x6e, 0x47, 0x78, 0xac, 0x68, 0x5d, 0x21, 0x21,
   0xd9, 0x04, 0xb4, 0x76, 0x43, 0x2d, 0x43, 0x04, 0xdd, 0xf9, 0x8b, 0xbb, 0xe2, 0x64, 0x19, 0x49]

/-- The account of the key. -/
def sampleAddress : Bytes :=
  [0x7e, 0x5f, 0x45, 0x52, 0x09, 0x1a, 0x69, 0x12, 0x5d, 0x5d, 0xfc, 0xb7, 0xb8, 0xc2, 0x65, 0x90,
   0x29, 0x39, 0x5b, 0xdf]

/-- The hash and the curve on what this transaction asks of them. -/
def sampleCrypto : Crypto where
  keccak256 bytes :=
    if bytes = samplePayload then sampleSigningHash
    else if bytes = sampleRaw then sampleHash
    else if bytes = samplePoint then
      [0xc0, 0xa6, 0xc4, 0x24, 0xac, 0x71, 0x57, 0xae, 0x40, 0x83, 0x98, 0xdf] ++ sampleAddress
    else []
  sign hash key :=
    if hash = sampleSigningHash ∧ key = sampleKey then .ok (1 :: sampleScalars)
    else .error (.error "not sampled")
  getPublicKey key :=
    if key = sampleKey then .ok (4 :: samplePoint) else .error (.error "not sampled")
  hasHighS _ s :=
    .ok (decide (0x7fffffffffffffffffffffffffffffff5d576e7357a4501ddfe92f46681b20a0 < s))
  recoverPublicKey signature hash :=
    if signature = 1 :: sampleScalars ∧ hash = sampleSigningHash then
      .ok (2 :: samplePoint.take 32)
    else .error (.error "not sampled")
  uncompressed key :=
    if key = 2 :: samplePoint.take 32 then .ok (4 :: samplePoint)
    else .error (.error "not sampled")

/-- The sample fields pass every check. -/
theorem sampleFields_valid : validateFields sampleFields = .ok () := by rfl

/-- The items of the signed fields, their quantities written out. -/
theorem fieldItems_sample : fieldItems sampleFields =
    [.bytes [1], .bytes [], .bytes [1], .bytes [2], .bytes [0x52, 0x08],
      .bytes sampleFields.destination, .bytes [], .bytes [], .list []] := by
  have h (bytes : Bytes) (hc : Canonical bytes) : quantityItem (value bytes) = .bytes bytes :=
    congrArg RlpInput.bytes (minimalBytes_value hc)
  have h0 : quantityItem 0 = .bytes [] := h [] canonical_nil
  have h1 : quantityItem 1 = .bytes [1] := h [1] (by decide)
  have h2 : quantityItem 2 = .bytes [2] := h [2] (by decide)
  have h3 : quantityItem 21000 = .bytes [0x52, 0x08] := h [0x52, 0x08] (by decide)
  unfold fieldItems
  rw [show sampleFields.chainId = 1 from rfl, show sampleFields.nonce = 0 from rfl,
    show sampleFields.maxPriorityFeePerGas = 1 from rfl,
    show sampleFields.maxFeePerGas = 2 from rfl, show sampleFields.gas = 21000 from rfl,
    show sampleFields.value = 0 from rfl, h0, h1, h2, h3]
  rfl

/-- The sample fields hash to the sample digest. -/
theorem signingHash_sample : signingHash sampleCrypto sampleFields = .ok sampleSigningHash := by
  have he : TYPE_2 :: rlpEncode (.list (fieldItems sampleFields)) = samplePayload := by
    rw [fieldItems_sample]
    decide
  unfold signingHash unsignedPayload
  rw [unsignedFields_eq sampleFields_valid, ok_bind, he]
  rfl

/-- The parts of the sampled signature. -/
def sampleParts : SignatureParts := ⟨1, sampleScalars.take 32, sampleScalars.drop 32⟩

/-- The sample signature encodes as the sample raw transaction. -/
theorem signedPayload_sample : signedPayload sampleFields sampleParts.yParity
    (value sampleParts.r) (value sampleParts.s) = .ok sampleRaw := by
  have hy : quantityItem (sampleParts.yParity : ℕ) = .bytes [1] :=
    congrArg RlpInput.bytes (minimalBytes_value (show Canonical [1] by decide))
  have hr : quantityItem (value sampleParts.r) = .bytes sampleParts.r :=
    congrArg RlpInput.bytes (minimalBytes_value (by decide))
  have hs : quantityItem (value sampleParts.s) = .bytes sampleParts.s :=
    congrArg RlpInput.bytes (minimalBytes_value (by decide))
  have he : TYPE_2 :: rlpEncode (.list (signedItems sampleFields sampleParts.yParity
      (value sampleParts.r) (value sampleParts.s))) = sampleRaw := by
    have hl : lengthBytes 98 = [98] := minimalBytes_value (show Canonical [98] by decide)
    unfold signedItems
    rw [hy, hr, hs, fieldItems_sample, rlpEncode, withPrefix_long (by decide)]
    rw [show List.length (rlpEncodeAll _) = 98 by decide, hl]
    decide
  rw [signedPayload_eq sampleFields_valid, he]
  rfl

/-- The sample signature recovers the sample sender. -/
theorem recoverSender_sample :
    recoverSender sampleCrypto sampleFields sampleParts = .ok sampleAddress := by
  unfold recoverSender
  rw [signingHash_sample]
  rfl

/-- The sample key signs the sample fields into the sample transaction. -/
theorem signTransaction_sample : signTransaction sampleCrypto sampleFields sampleKey =
    .ok ⟨sampleRaw, sampleHash, sampleAddress⟩ := by
  have hp : signatureParts sampleCrypto sampleSigningHash sampleKey = .ok sampleParts := by rfl
  have ha : addressFromPrivateKey sampleCrypto sampleKey = .ok sampleAddress := by rfl
  unfold signTransaction
  rw [signingHash_sample, ok_bind, hp, ok_bind, signedPayload_sample, ok_bind,
    recoverSender_sample, ok_bind, ha, ok_bind, ensure_pos rfl, ok_bind]
  rfl

/-- The sampled transaction is signed, decodes as its fields, signer and hash, and what was
decoded is written as its bytes. -/
theorem eip1559_codec_inverse_sample :
    signTransaction sampleCrypto sampleFields sampleKey =
      .ok ⟨sampleRaw, sampleHash, sampleAddress⟩ ∧
    ∃ decoded, decodeSignedTransaction sampleCrypto sampleRaw = .ok decoded ∧
      decoded.fields = sampleFields ∧
      decoded.toSignedTransaction = ⟨sampleRaw, sampleHash, sampleAddress⟩ ∧
      signedPayload decoded.fields decoded.signature.yParity (value decoded.signature.r)
        (value decoded.signature.s) = .ok sampleRaw := by
  have h := eip1559_codec_inverse sampleCrypto
  obtain ⟨decoded, hd, hf, hs, -⟩ := h.1 _ _ _ signTransaction_sample
  exact ⟨signTransaction_sample, decoded, hd, hf, hs, (h.2 _ _ hd).1⟩

end IntentSolver.EvmTransaction
