import IntentSolver.BigEndian

/-!
# Bytes as hex texts

A byte is two hex digits, written in lower case and read in either case. What is written
reads back, so two byte strings with one text are the same.
-/

namespace IntentSolver.HexText

open BigEndian

/-- A byte in hex. -/
def hexByte (byte : UInt8) : String :=
  let digit (value : ℕ) : Char := "0123456789abcdef".toList.getD value '0'
  String.ofList [digit (byte.toNat / 16), digit (byte.toNat % 16)]

/-- Bytes in hex. -/
def hexEncode (bytes : Bytes) : String := String.join (bytes.map hexByte)

/-- The value of a hex digit of either case. -/
def hexDigit (digit : Char) : Option ℕ :=
  if '0' ≤ digit ∧ digit ≤ '9' then some (digit.toNat - 48)
  else if 'a' ≤ digit ∧ digit ≤ 'f' then some (digit.toNat - 87)
  else if 'A' ≤ digit ∧ digit ≤ 'F' then some (digit.toNat - 55)
  else none

/-- Digits two by two. -/
def hexToBytes : List Char → Option Bytes
  | [] => some []
  | [_] => none
  | high :: low :: rest => do
    let high ← hexDigit high
    let low ← hexDigit low
    let bytes ← hexToBytes rest
    return UInt8.ofNat (high * 16 + low) :: bytes

/-- The bytes of a hex text. -/
def hexDecode (text : String) : Option Bytes := hexToBytes text.toList

/-- The digit a value below sixteen is written as. -/
theorem hexDigit_written {value : ℕ} (h : value < 16) :
    hexDigit ("0123456789abcdef".toList.getD value '0') = some value := by
  have hall : ∀ value : Fin 16,
      hexDigit ("0123456789abcdef".toList.getD value.val '0') = some value.val := by
    decide +kernel
  exact hall ⟨value, h⟩

/-- The digits of some bytes read back as the bytes. -/
theorem hexToBytes_written (bytes : Bytes) :
    hexToBytes ((bytes.map hexByte).flatMap String.toList) = some bytes := by
  induction bytes with
  | nil => rfl
  | cons byte rest ih =>
    have hb := byte.toNat_lt
    have hhigh := hexDigit_written (show byte.toNat / 16 < 16 by omega)
    have hlow := hexDigit_written (show byte.toNat % 16 < 16 by omega)
    rw [List.map_cons, List.flatMap_cons, hexByte, String.toList_ofList]
    change (hexDigit _).bind _ = _
    rw [hhigh]
    change (hexDigit _).bind _ = _
    rw [hlow]
    change (hexToBytes ((rest.map hexByte).flatMap String.toList)).bind _ = _
    rw [ih]
    change some (UInt8.ofNat (byte.toNat / 16 * 16 + byte.toNat % 16) :: rest) = _
    rw [show byte.toNat / 16 * 16 + byte.toNat % 16 = byte.toNat by omega, UInt8.ofNat_toNat]

/-- What is written reads back. -/
theorem hexDecode_hexEncode (bytes : Bytes) : hexDecode (hexEncode bytes) = some bytes := by
  unfold hexDecode hexEncode
  rw [String.toList_join]
  exact hexToBytes_written bytes

/-- One text stands for one byte string. -/
theorem hexEncode_injective {first second : Bytes} (h : hexEncode first = hexEncode second) :
    first = second := by
  have hread := hexDecode_hexEncode first
  rw [h, hexDecode_hexEncode] at hread
  exact (Option.some.inj hread).symm

end IntentSolver.HexText
