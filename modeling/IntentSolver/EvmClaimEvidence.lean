import IntentSolver.BigEndian
import IntentSolver.EvmLogScan
import IntentSolver.EvmRlp
import IntentSolver.HexText
import Mathlib.Algebra.Order.Ring.Rat
import Mathlib.Data.Rat.Floor

/-!
# Evidence for a claim

A Claim log names a preimage hash, not a lock: whoever looks for the claim of one lock has
to show that the transaction behind the log executed exactly that claim. A transaction
that calls the swap contract itself is told by its calldata. Any other is told by its call
trace, which has to be available, small and unambiguous. An answer of the node is held
here as the fields the code reads of it, none standing for what is missing or malformed.
-/

namespace IntentSolver.EvmClaimEvidence

open BigEndian EvmLogScan EvmPort EvmRlp HexText RangePaging WorkerProgram

/-! ## The calls of a claim -/

/-- The six fields a lock is known by. -/
structure Erc20SwapLock where
  preimageHash : Bytes
  amount : ℤ
  tokenAddress : Bytes
  claimAddress : Bytes
  refundAddress : Bytes
  timelock : ℤ
  deriving DecidableEq

/-- The two hashes in use. -/
structure Digests where
  /-- The keccak of a text. -/
  keccak256 : String → Bytes
  sha256 : Bytes → Bytes

/-- Bytes of a required length. -/
def assertLength (label : String) (bytes : Bytes) (expected : ℕ) : Except EvmFault Unit :=
  if bytes.length ≠ expected then
    .error (.error (label ++ " must be " ++ toString expected ++ " bytes, got " ++
      toString bytes.length))
  else .ok ()

/-- An unsigned integer as one big-endian word. -/
def uintWord (number : ℤ) (label : String) : Except EvmFault Bytes :=
  if number < 0 then
    .error (.error (label ++ " must not be negative, got " ++ toString number))
  else if 2 ^ 256 ≤ number then .error (.error (label ++ " does not fit in uint256"))
  else .ok (padded 32 (minimalBytes number.toNat))

/-- An address as one left-padded word. -/
def addressWord (address : Bytes) (label : String) : Except EvmFault Bytes := do
  assertLength label address 20
  return padded 32 address

/-- A word that is one already. -/
def bytes32Word (word : Bytes) (label : String) : Except EvmFault Bytes := do
  assertLength label word 32
  return word

def CLAIM_SIGNATURE : String := "claim(bytes32,uint256,address,address,uint256)"

def CLAIM_FOR_SIGNATURE : String := "claim(bytes32,uint256,address,address,address,uint256)"

def CLAIM_EVENT_SIGNATURE : String := "Claim(bytes32,bytes32)"

variable (digests : Digests)

/-- The four bytes that select a function. -/
def selectorFor (signature : String) : Bytes := (digests.keccak256 signature).take 4

/-- The topic of a Claim event. -/
def claimEventTopic : Bytes := digests.keccak256 CLAIM_EVENT_SIGNATURE

/-- The call of a claim by the claim address itself. -/
def encodeClaim (preimage : Bytes) (lock : Erc20SwapLock) : Except EvmFault Bytes := do
  let preimage ← bytes32Word preimage "preimage"
  let amount ← uintWord lock.amount "amount"
  let token ← addressWord lock.tokenAddress "tokenAddress"
  let refund ← addressWord lock.refundAddress "refundAddress"
  let timelock ← uintWord lock.timelock "timelock"
  return selectorFor digests CLAIM_SIGNATURE ++ (preimage ++ amount ++ token ++ refund ++ timelock)

/-- The call of a claim by anybody for the claim address. -/
def encodeClaimFor (preimage : Bytes) (lock : Erc20SwapLock) : Except EvmFault Bytes := do
  let amount ← uintWord lock.amount "amount"
  let token ← addressWord lock.tokenAddress "tokenAddress"
  let claim ← addressWord lock.claimAddress "claimAddress"
  let refund ← addressWord lock.refundAddress "refundAddress"
  let timelock ← uintWord lock.timelock "timelock"
  return selectorFor digests CLAIM_FOR_SIGNATURE ++
    (preimage ++ amount ++ token ++ claim ++ refund ++ timelock)

/-! ## What the node answers -/

/-- A log of an answer. -/
structure LogRecord where
  address : Option Bytes
  /-- None where the topics are no array. -/
  topics : Option (List (Option Bytes))
  data : Option Bytes
  /-- Marked as removed, or marked with anything but `false`. -/
  removed : Bool
  transactionHash : Option Bytes
  blockHash : Option Bytes
  blockNumber : Option ℤ
  logIndex : Option ℤ
  deriving DecidableEq

/-- A transaction receipt. -/
structure ReceiptRecord where
  status : Option ℤ
  transactionHash : Option Bytes
  blockHash : Option Bytes
  blockNumber : Option ℤ
  /-- None where the logs are no array. -/
  logs : Option (List LogRecord)
  caller : Option Bytes
  callee : Option Bytes

/-- A text that may be calldata: bytes where it is well-formed hex. -/
inductive Calldata where
  | bytes (content : Bytes)
  | other (text : String)
  deriving DecidableEq

/-- A transaction. -/
structure TransactionRecord where
  hash : Option Bytes
  blockHash : Option Bytes
  blockNumber : Option ℤ
  caller : Option Bytes
  callee : Option Bytes
  /-- None where the input is no text. -/
  input : Option Calldata

/-- A block header. -/
structure HeaderRecord where
  hash : Option Bytes
  number : Option ℤ
  timestamp : Option ℤ

/-- A field that may be left out. -/
inductive Field (α : Type) where
  | absent
  | malformed
  | given (value : α)

/-- How a frame of a trace ended. -/
inductive TraceError where
  /-- No error, or an empty one. -/
  | absent
  | text
  /-- An error that is not a text. -/
  | malformed
  deriving DecidableEq

/-- The kinds of frame a tracer reports. -/
inductive TraceFrameType where
  | call
  | callcode
  | delegatecall
  | staticcall
  | create
  | create2
  | selfdestruct
  deriving DecidableEq

/-- One frame of a call trace with the frames it called. -/
inductive TraceFrame where
  | frame (kind : Option TraceFrameType) (caller callee : Option Bytes) (input : Option Calldata)
      (error : TraceError) (logs : Field (List LogRecord)) (calls : Field (List TraceFrame))

namespace TraceFrame

def kind : TraceFrame → Option TraceFrameType
  | frame kind _ _ _ _ _ _ => kind

def caller : TraceFrame → Option Bytes
  | frame _ caller _ _ _ _ _ => caller

def callee : TraceFrame → Option Bytes
  | frame _ _ callee _ _ _ _ => callee

def input : TraceFrame → Option Calldata
  | frame _ _ _ input _ _ _ => input

def error : TraceFrame → TraceError
  | frame _ _ _ _ error _ _ => error

def logs : TraceFrame → Field (List LogRecord)
  | frame _ _ _ _ _ logs _ => logs

def calls : TraceFrame → Field (List TraceFrame)
  | frame _ _ _ _ _ _ calls => calls

/-- The frame did not take effect. -/
def failed (frame : TraceFrame) : Bool := frame.error ≠ .absent

/-- The frame's input is well-formed hex. -/
def hexInput : TraceFrame → Bool
  | frame _ _ _ (some (.bytes _)) _ _ _ => true
  | _ => false

end TraceFrame

/-- The requests a claim is looked for with. -/
inductive EvidenceOp where
  | blockNumber
  | getLogs (page : Page)
  | getTransactionReceipt (hash : Bytes)
  | getTransactionByHash (hash : Bytes)
  | traceTransaction (hash : Bytes)
  | getBlockByNumber (number : ℤ)

/-- What each answers. -/
abbrev EvidenceOp.Answer : EvidenceOp → Type
  | .blockNumber => Option ℤ
  | .getLogs _ => Option (List LogRecord)
  | .getTransactionReceipt _ => ReceiptRecord
  | .getTransactionByHash _ => TransactionRecord
  | .traceTransaction _ => TraceFrame
  | .getBlockByNumber _ => HeaderRecord

/-- A request may fail. -/
abbrev EvidenceOp.Ans (op : EvidenceOp) : Type := Except EvmFault op.Answer

/-- A program of such requests. -/
abbrev Prog (α : Type) : Type := Program EvidenceOp.Ans EvmFault α

/-! ## Reading a Claim event -/

section Verifier

variable (contract : Bytes) (lock : Erc20SwapLock)

/-- The preimage a Claim event of the lock's hash reveals. -/
def claimPreimage (log : LogRecord) : Option Bytes :=
  if log.address = some contract ∧
      log.topics = some [some (claimEventTopic digests), some lock.preimageHash] then
    log.data.filter fun preimage => digests.sha256 preimage = lock.preimageHash
  else none

/-- The same of a log that was not removed again. -/
def eventPreimage (log : LogRecord) : Option Bytes :=
  if log.removed then none else claimPreimage digests contract lock log

/-- What a log says of itself. -/
structure Candidate where
  preimage : Bytes
  txHash : Bytes
  blockHash : Bytes
  blockNumber : ℤ
  logIndex : ℤ
  deriving DecidableEq

/-- A log that reveals a preimage and says where it stands. -/
def candidateOf (log : LogRecord) : Option Candidate := do
  let preimage ← eventPreimage digests contract lock log
  let txHash ← log.transactionHash
  let blockHash ← log.blockHash
  let blockNumber ← log.blockNumber
  let logIndex ← log.logIndex
  return ⟨preimage, txHash, blockHash, blockNumber, logIndex⟩

/-- A log of the receipt that is the candidate. -/
def SameLog (candidate : Candidate) (entry : LogRecord) : Prop :=
  eventPreimage digests contract lock entry = some candidate.preimage ∧
    entry.transactionHash = some candidate.txHash ∧ entry.blockHash = some candidate.blockHash ∧
    entry.blockNumber = some candidate.blockNumber ∧ entry.logIndex = some candidate.logIndex

instance (candidate : Candidate) (entry : LogRecord) :
    Decidable (SameLog digests contract lock candidate entry) :=
  inferInstanceAs (Decidable (_ ∧ _ ∧ _ ∧ _ ∧ _))

/-- The logs of a successful receipt that stands where the candidate says and holds it. -/
def receiptLogs (candidate : Candidate) (receipt : ReceiptRecord) : Option (List LogRecord) :=
  if receipt.status = some 1 ∧ receipt.transactionHash = some candidate.txHash ∧
      receipt.blockHash = some candidate.blockHash ∧
      receipt.blockNumber = some candidate.blockNumber then
    receipt.logs.filter fun logs => logs.any fun entry =>
      decide (SameLog digests contract lock candidate entry)
  else none

/-- Who a transaction was sent by and to. -/
structure Route where
  sender : Bytes
  transactionTo : Bytes
  deriving DecidableEq

/-- The route of a transaction that stands where the candidate says, as the receipt has it
too. -/
def routeOf (candidate : Candidate) (receipt : ReceiptRecord) (transaction : TransactionRecord) :
    Option Route := do
  let transactionTo ← transaction.callee
  if transaction.hash = some candidate.txHash ∧ receipt.callee = some transactionTo ∧
      transaction.blockHash = some candidate.blockHash ∧
      transaction.blockNumber = some candidate.blockNumber then
    let sender ← transaction.caller
    if receipt.caller = some sender then return ⟨sender, transactionTo⟩ else none
  else none

/-- The two exact claims of the lock with a preimage. -/
structure ClaimCalls where
  preimage : Bytes
  claimSelf : Bytes
  claimFor : Bytes
  deriving DecidableEq

/-- Both claims of the lock with this preimage. -/
def claimCalls (preimage : Bytes) : Except EvmFault ClaimCalls := do
  let claimSelf ← encodeClaim digests preimage lock
  let claimFor ← encodeClaimFor digests preimage lock
  return ⟨preimage, claimSelf, claimFor⟩

/-- A call of the contract that is an exact claim of the lock. -/
def ExactClaim (calls : ClaimCalls) (caller callee : Option Bytes) (input : Option Calldata) :
    Prop :=
  callee = some contract ∧ (input = some (.bytes calls.claimFor) ∨
    (input = some (.bytes calls.claimSelf) ∧ caller = some lock.claimAddress))

instance (calls : ClaimCalls) (caller callee : Option Bytes) (input : Option Calldata) :
    Decidable (ExactClaim contract lock calls caller callee input) :=
  inferInstanceAs (Decidable (_ ∧ (_ ∨ (_ ∧ _))))

/-! ## Call traces -/

def MAX_TRACE_NODES : ℕ := 256

def MAX_TRACE_DEPTH : ℕ := 32

/-- Frames seen so far, and exact claims among them. -/
structure Visited where
  nodes : ℕ
  found : ℕ

/-- A log of the list reveals this preimage. -/
def reveals (calls : ClaimCalls) (logs : List LogRecord) : Bool :=
  logs.any fun entry => decide (claimPreimage digests contract lock entry = some calls.preimage)

/-- A frame that took effect reads as one. -/
def wellFormed (frame : TraceFrame) : Bool :=
  frame.kind.isSome && frame.caller.isSome && frame.callee.isSome && frame.hexInput &&
    match frame.logs with
    | .malformed => false
    | _ => true

/-- An exact claim is counted, and its event has to be its own. -/
def countClaim (calls : ClaimCalls) (frame : TraceFrame) (found : ℕ) : Except EvmFault ℕ :=
  if frame.kind = some .call ∧
      ExactClaim contract lock calls frame.caller frame.callee frame.input then
    match frame.logs with
    | .given logs =>
      if reveals digests contract lock calls logs then .ok (found + 1)
      else .error (.claimVerification
        "claim trace cannot attribute the receipt event to its exact call")
    | _ => .error (.claimVerification
        "claim trace cannot attribute the receipt event to its exact call")
  else .ok found

/-- Visit a frame and the frames it called, `levels` deep at most. -/
def visit (calls : ClaimCalls) : ℕ → Visited → TraceFrame → Except EvmFault Visited
  | levels, seen, frame =>
    if MAX_TRACE_NODES < seen.nodes + 1 then
      .error (.claimVerification ("claim transaction trace exceeds the " ++
        toString MAX_TRACE_NODES ++ "-frame limit"))
    else match levels with
    | 0 => .error (.claimVerification ("claim transaction trace exceeds the " ++
        toString MAX_TRACE_DEPTH ++ "-level depth limit"))
    | levels + 1 =>
      match frame.calls, frame.error with
      | .malformed, _ => .error (.claimVerification "claim transaction trace is malformed")
      | _, .malformed =>
        .error (.claimVerification "claim transaction trace has a malformed error field")
      | _, .text => .ok ⟨seen.nodes + 1, seen.found⟩
      | children, .absent =>
        if wellFormed frame then do
          let found ← countClaim digests contract lock calls frame seen.found
          match children with
          | .given frames => frames.foldlM (visit calls levels) ⟨seen.nodes + 1, found⟩
          | _ => .ok ⟨seen.nodes + 1, found⟩
        else .error (.claimVerification "claim transaction trace is malformed")

/-- Whether the trace of a transaction shows the claim it was included for. -/
def judgeTrace (calls : ClaimCalls) (route : Route) (input : Calldata) (logs : List LogRecord)
    (trace : TraceFrame) : Except EvmFault Bool :=
  if trace.failed ∨ trace.kind ≠ some .call ∨ trace.caller ≠ some route.sender ∨
      trace.callee ≠ some route.transactionTo ∨ trace.hexInput = false ∨
      trace.input ≠ some input then
    .error (.claimVerification "claim transaction trace does not match the canonical transaction")
  else if reveals digests contract lock calls logs = false then .ok false
  else do
    let seen ← visit digests contract lock calls (MAX_TRACE_DEPTH + 1) ⟨0, 0⟩ trace
    if 1 < seen.found then
      .error (.claimVerification "claim trace has multiple exact successful claim calls")
    else .ok (seen.found = 1)

/-! ## The verifier -/

/-- A request whose error is thrown. -/
def ask (op : EvidenceOp) : Prog op.Answer := (Program.issue op).bind Program.ofExcept

/-- The text of an error. -/
def message : EvmFault → String
  | .error text => text
  | .claimVerification text => text

/-- Bytes as the node writes them. -/
def hex (bytes : Bytes) : String := "0x" ++ String.join (bytes.map hexByte)

/-- The trace of a transaction; without one nothing is known of the claim. -/
def traceOf (txHash : Bytes) : Prog TraceFrame :=
  (ask (.traceTransaction txHash)).tryCatch fun fault =>
    .throw (.claimVerification ("claim transaction trace " ++ hex txHash ++
      " is unavailable: " ++ String.ofList ((message fault).toList.take 256)))

/-- Whether a transaction that does not call the contract with an exact claim executed one
all the same. -/
def nestedClaimExecuted (calls : ClaimCalls) (txHash : Bytes) (route : Route)
    (input : Option Calldata) (logs : List LogRecord) : Prog Bool :=
  match input with
  | none => .throw (.claimVerification "claim transaction has no usable root calldata")
  | some input =>
    if route.transactionTo = contract then .ret false
    else (traceOf txHash).bind fun trace =>
      Program.ofExcept (judgeTrace digests contract lock calls route input logs trace)

/-- Whether the transaction executed the claim of the lock. -/
def claimExecuted (calls : ClaimCalls) (txHash : Bytes) (route : Route)
    (input : Option Calldata) (logs : List LogRecord) : Prog Bool :=
  if ExactClaim contract lock calls (some route.sender) (some route.transactionTo) input then
    .ret true
  else nestedClaimExecuted digests contract lock calls txHash route input logs

/-- How deep and how old a claim has to be. -/
structure EvmClaimFinalityPolicy where
  minConfirmations : ℚ
  minAgeSeconds : ℚ
  nowSeconds : ℚ

/-- `Number.isSafeInteger`. -/
def isSafeInteger (number : ℚ) : Prop := number.den = 1 ∧ |number| ≤ MAX_SAFE_INTEGER

instance (number : ℚ) : Decidable (isSafeInteger number) :=
  inferInstanceAs (Decidable (_ ∧ _))

/-- One number of a policy. -/
def policyNumber (number : ℚ) : Prop := isSafeInteger number ∧ 0 ≤ number

instance (number : ℚ) : Decidable (policyNumber number) :=
  inferInstanceAs (Decidable (_ ∧ _))

/-- A policy the verifier works with. -/
def ValidPolicy (policy : EvmClaimFinalityPolicy) : Prop :=
  policyNumber policy.minConfirmations ∧ policyNumber policy.minAgeSeconds ∧
    policyNumber policy.nowSeconds

instance (policy : EvmClaimFinalityPolicy) : Decidable (ValidPolicy policy) :=
  inferInstanceAs (Decidable (_ ∧ _ ∧ _))

/-- The header is the candidate's block, old enough. -/
def OldEnough (policy : EvmClaimFinalityPolicy) (candidate : Candidate) (header : HeaderRecord) :
    Prop :=
  header.hash = some candidate.blockHash ∧ header.number = some candidate.blockNumber ∧
    ∃ timestamp ∈ header.timestamp, timestamp ≤ MAX_SAFE_INTEGER ∧
      policy.minAgeSeconds ≤ policy.nowSeconds - timestamp

instance (policy : EvmClaimFinalityPolicy) (candidate : Candidate) (header : HeaderRecord) :
    Decidable (OldEnough policy candidate header) :=
  inferInstanceAs (Decidable (_ ∧ _ ∧ _))

/-- The candidate's block is deep enough under the tip. -/
def DeepEnough (policy : EvmClaimFinalityPolicy) (candidate : Candidate) (tip : Option ℤ) : Prop :=
  ∃ height ∈ tip, candidate.blockNumber ≤ height ∧
    ⌊max 1 policy.minConfirmations⌋ ≤ height - candidate.blockNumber + 1

instance (policy : EvmClaimFinalityPolicy) (candidate : Candidate) (tip : Option ℤ) :
    Decidable (DeepEnough policy candidate tip) := by
  unfold DeepEnough
  infer_instance

/-- The preimage of a claim that is final: its block read, the tip, and its block again, so
that a block replaced meanwhile proves nothing. -/
def finalPreimage (policy : EvmClaimFinalityPolicy) (candidate : Candidate) :
    Prog (Option Bytes) := do
  let header ← ask (.getBlockByNumber candidate.blockNumber)
  if OldEnough policy candidate header then
    let tip ← ask .blockNumber
    if DeepEnough policy candidate tip then
      let current ← ask (.getBlockByNumber candidate.blockNumber)
      if current.hash = some candidate.blockHash ∧
          current.number = some candidate.blockNumber then
        return some candidate.preimage
      else return none
    else return none
  else return none

/-- What the transaction behind a candidate shows of it. -/
def verifyCandidate (policy : EvmClaimFinalityPolicy) (candidate : Candidate) :
    Prog (Option Bytes) := do
  let receipt ← ask (.getTransactionReceipt candidate.txHash)
  match receiptLogs digests contract lock candidate receipt with
  | none => return none
  | some logs =>
    let transaction ← ask (.getTransactionByHash candidate.txHash)
    match routeOf candidate receipt transaction with
    | none => return none
    | some route =>
      let calls ← Program.ofExcept (claimCalls digests lock candidate.preimage)
      let executed ← claimExecuted digests contract lock calls candidate.txHash route
        transaction.input logs
      if executed then finalPreimage policy candidate else return none

/-- The preimage a Claim log proves for this lock, none where it proves nothing. -/
def verifyEvmClaimEvidence (policy : EvmClaimFinalityPolicy) (log : LogRecord) :
    Prog (Option Bytes) :=
  if contract.length ≠ 20 then .throw (.error "Claim contract must be a 20-byte address")
  else if ¬ ValidPolicy policy then .throw (.error "Invalid claim finality policy")
  else match candidateOf digests contract lock log with
    | none => .ret none
    | some candidate => verifyCandidate digests contract lock policy candidate

/-- The scan's two reads. -/
def evidencePort : LogPort EvidenceOp.Ans LogRecord where
  blockNumber := (ask .blockNumber).bind fun height => match height with
    | some height => .ret height
    | none => .throw (.error "eth_blockNumber: expected a 0x quantity")
  getLogs page := ask (.getLogs page)

/-- The preimage the claim of this lock revealed, from a floor on. -/
def findClaimPreimage (range : LogScanRange) (policy : EvmClaimFinalityPolicy)
    (fromBlock : ℤ) : Prog (Option Bytes) :=
  scanLogs evidencePort range (verifyEvmClaimEvidence digests contract lock policy) fromBlock

end Verifier

/-! ## The settings -/

section Settings

variable (text : ℚ → String)

/-- The smallest positive double. -/
def MIN_VALUE : ℚ := 1 / 2 ^ 1074

/-- A setting that is of its kind and no less than its least value. -/
def boundedFrom (name : String) (least : ℚ) (valid : ℚ → Bool) (kind : String) (number : ℚ) :
    Except EvmFault ℚ :=
  if valid number = false ∨ number < least then
    .error (.error (name ++ " must be " ++ kind ++ " >= " ++ text least ++ ", got " ++ text number))
  else .ok number

/-- A finite number, fractions included. -/
def numberFrom (name : String) (least number : ℚ) : Except EvmFault ℚ :=
  boundedFrom text name least (fun _ => true) "a finite number" number

/-- A whole number. -/
def intFrom (name : String) (least number : ℚ) : Except EvmFault ℚ :=
  boundedFrom text name least (fun number => number.den = 1) "an integer" number

/-- How deep and how old the configuration asks a lock and a claim to be. -/
structure FinalitySettings where
  minConfirmations : ℚ
  minAgeSeconds : ℚ

/-- The part of `loadEvmChainConfig` that reads them. -/
def loadFinality (minConfirmations minAgeSeconds : ℚ) : Except EvmFault FinalitySettings := do
  let minConfirmations ← intFrom text "EVM_MIN_CONFIRMATIONS" 1 minConfirmations
  let minAgeSeconds ← numberFrom text "EVM_MIN_AGE_SECONDS" MIN_VALUE minAgeSeconds
  return ⟨minConfirmations, minAgeSeconds⟩

end Settings

end IntentSolver.EvmClaimEvidence
