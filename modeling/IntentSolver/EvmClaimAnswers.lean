import IntentSolver.EvmClaimEvidence

/-!
# Reading what a node answers

A node answers in JSON, and nothing in an answer is taken on trust: a quantity, a hash or an
address is read by its exact form, and what has another form counts as missing. A field
that is left out is told from one that is there with a wrong value, where the code tells
them apart. The verifier of a claim is the one over the fields, with every answer read
before it is looked at.
-/

namespace IntentSolver.EvmClaimAnswers

open BigEndian EvmPort HexText ProgramTraces WorkerProgram
open EvmClaimEvidence hiding Field verifyEvmClaimEvidence

/-- A field that may be left out, in the trace of a node. -/
abbrev Optional (α : Type) : Type := EvmClaimEvidence.Field α

/-- A JSON value. An object holds a key at most once. -/
inductive Json where
  | null
  | bool (value : Bool)
  | number (value : ℚ)
  | text (value : String)
  | array (items : List Json)
  | object (fields : List (String × Json))

/-- A field of an object; nothing where the value is no object. -/
def Json.field (key : String) : Json → Option Json
  | .object fields => fields.lookup key
  | _ => none

/-! ## Hex texts -/

/-- What follows the `0x` of a text. -/
def hexBody (text : String) : Option (List Char) :=
  match text.toList with
  | zero :: mark :: digits => if zero = '0' ∧ (mark = 'x' ∨ mark = 'X') then some digits else none
  | _ => none

/-- Digits as one number. -/
def hexNumber (digits : List Char) : Option ℕ :=
  digits.foldlM (fun sum digit => (hexDigit digit).map (sum * 16 + ·)) 0

/-- A `0x` quantity. -/
def quantity : Option Json → Option ℤ
  | some (.text text) => do
    let digits ← hexBody text
    if digits = [] then none else (hexNumber digits).map Int.ofNat
  | _ => none

/-- A text that is the hex of so many bytes, in either case. -/
def fixedHex (length : ℕ) : Option Json → Option Bytes
  | some (.text text) => do
    let bytes ← hexToBytes (← hexBody text)
    if bytes.length = length then some bytes else none
  | _ => none

/-- A text that may be calldata. -/
def calldata : Option Json → Option Calldata
  | some (.text text) =>
    match (hexBody text).bind hexToBytes with
    | some bytes => some (.bytes bytes)
    | none => some (.other text.toLower)
  | _ => none

/-- The items of an array. -/
def items : Option Json → Option (List Json)
  | some (.array items) => some items
  | _ => none

/-! ## What is written reads back -/

/-- Written bytes are read as the digits after the mark. -/
theorem hexBody_hex (bytes : Bytes) :
    hexBody (hex bytes) = some ((bytes.map hexByte).flatMap String.toList) := by
  have hmark : "0x".toList = ['0', 'x'] := by decide
  unfold hexBody hex
  rw [String.toList_append, String.toList_join, hmark]
  exact if_pos ⟨rfl, .inl rfl⟩

/-- Bytes of the right length are read back. -/
theorem fixedHex_hex {length : ℕ} {bytes : Bytes} (h : bytes.length = length) :
    fixedHex length (some (.text (hex bytes))) = some bytes := by
  unfold fixedHex
  dsimp only
  rw [hexBody_hex]
  change (hexToBytes _).bind _ = _
  rw [hexToBytes_written]
  exact if_pos h

/-- Calldata is read back. -/
theorem calldata_hex (bytes : Bytes) :
    calldata (some (.text (hex bytes))) = some (.bytes bytes) := by
  unfold calldata
  dsimp only
  rw [hexBody_hex, Option.bind_some, hexToBytes_written]

/-! ## The answers -/

/-- A log as the node answers it, field by field. -/
def readLog (answer : Json) : LogRecord where
  address := fixedHex 20 (answer.field "address")
  topics := (items (answer.field "topics")).map (List.map fun topic => fixedHex 32 (some topic))
  data := fixedHex 32 (answer.field "data")
  removed := match answer.field "removed" with
    | none => false
    | some (.bool marked) => marked
    | some _ => true
  transactionHash := fixedHex 32 (answer.field "transactionHash")
  blockHash := fixedHex 32 (answer.field "blockHash")
  blockNumber := quantity (answer.field "blockNumber")
  logIndex := quantity (answer.field "logIndex")

/-- A receipt as the node answers it, field by field. -/
def readReceipt (answer : Json) : ReceiptRecord where
  status := quantity (answer.field "status")
  transactionHash := fixedHex 32 (answer.field "transactionHash")
  blockHash := fixedHex 32 (answer.field "blockHash")
  blockNumber := quantity (answer.field "blockNumber")
  logs := (items (answer.field "logs")).map (List.map readLog)
  caller := fixedHex 20 (answer.field "from")
  callee := fixedHex 20 (answer.field "to")

/-- A transaction as the node answers it, field by field. -/
def readTransaction (answer : Json) : TransactionRecord where
  hash := fixedHex 32 (answer.field "hash")
  blockHash := fixedHex 32 (answer.field "blockHash")
  blockNumber := quantity (answer.field "blockNumber")
  caller := fixedHex 20 (answer.field "from")
  callee := fixedHex 20 (answer.field "to")
  input := calldata (answer.field "input")

/-- A header as the node answers it, field by field. -/
def readHeader (answer : Json) : HeaderRecord where
  hash := fixedHex 32 (answer.field "hash")
  number := quantity (answer.field "number")
  timestamp := quantity (answer.field "timestamp")

/-- `TRACE_FRAME_TYPES`. -/
def frameType : Option Json → Option TraceFrameType
  | some (.text "CALL") => some .call
  | some (.text "CALLCODE") => some .callcode
  | some (.text "DELEGATECALL") => some .delegatecall
  | some (.text "STATICCALL") => some .staticcall
  | some (.text "CREATE") => some .create
  | some (.text "CREATE2") => some .create2
  | some (.text "SELFDESTRUCT") => some .selfdestruct
  | _ => none

/-- The error of a frame: none, null and an empty text are all no error. -/
def frameError : Option Json → TraceError
  | none => .absent
  | some .null => .absent
  | some (.text text) => if text = "" then .absent else .text
  | some _ => .malformed

/-- The logs of a frame, which may be left out. -/
def frameLogs : Option Json → Optional (List LogRecord)
  | none => .absent
  | some (.array logs) => .given (logs.map readLog)
  | some _ => .malformed

mutual

/-- A frame of a call trace with everything below it. A value that is no object reads as a
frame nothing of which is well formed. -/
def readTrace : Json → TraceFrame
  | .object fields =>
    .frame (frameType (fields.lookup "type")) (fixedHex 20 (fields.lookup "from"))
      (fixedHex 20 (fields.lookup "to")) (calldata (fields.lookup "input"))
      (frameError (fields.lookup "error")) (frameLogs (fields.lookup "logs")) (readCalls fields)
  | _ => .frame none none none none .absent .absent .malformed

/-- The `calls` among the fields of a frame. -/
def readCalls : List (String × Json) → Optional (List TraceFrame)
  | [] => .absent
  | field :: rest => readCall field (readCalls rest)

/-- A field is the calls, or leaves them to the fields after it. -/
def readCall : String × Json → Optional (List TraceFrame) → Optional (List TraceFrame)
  | ⟨key, value⟩, later => if key = "calls" then readChildren value else later

/-- The frames that were called. -/
def readChildren : Json → Optional (List TraceFrame)
  | .array frames => .given (readFrames frames)
  | _ => .malformed

/-- Each of the frames. -/
def readFrames : List Json → List TraceFrame
  | [] => []
  | frame :: rest => readTrace frame :: readFrames rest

end

/-- A node answers some JSON or fails. -/
abbrev EvidenceOp.Raw (_ : EvidenceOp) : Type := Except EvmFault Json

/-- An answer as what was asked for. -/
def readAnswer : (op : EvidenceOp) → EvidenceOp.Raw op → op.Ans
  | .blockNumber, answer => answer.map fun json => quantity (some json)
  | .getLogs _, answer => answer.map fun json => (items (some json)).map (List.map readLog)
  | .getTransactionReceipt _, answer => answer.map readReceipt
  | .getTransactionByHash _, answer => answer.map readTransaction
  | .traceTransaction _, answer => answer.map readTrace
  | .getBlockByNumber _, answer => answer.map readHeader

/-- The preimage a Claim log proves for this lock, asked of a node that answers in JSON. -/
def verifyEvmClaimEvidence (digests : Digests) (contract : Bytes) (lock : Erc20SwapLock)
    (policy : EvmClaimFinalityPolicy) (candidate : Json) :
    Program EvidenceOp.Raw EvmFault (Option Bytes) :=
  reading readAnswer
    (EvmClaimEvidence.verifyEvmClaimEvidence digests contract lock policy (readLog candidate))

end IntentSolver.EvmClaimAnswers
