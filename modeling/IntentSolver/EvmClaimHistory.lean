import IntentSolver.EvmClaimEvidence
import IntentSolver.Fallible
import IntentSolver.EvmSend

/-!
# The claim of a lock on a chain

A chain as far as the scan for a claim sees it: blocks of transactions, each with its
logs and with the trace a node has of it, if it has one. Reads that answer truthfully then
decide what the verifier makes of every log. A direct claim that is final is accepted; what
comes before it in the scan may end the scan instead, for the verifier throws where it
cannot tell what a transaction did.
-/

namespace IntentSolver.EvmClaimHistory

open BigEndian EvmClaimEvidence EvmLogScan EvmPort EvmRlp Fallible ProgramTraces RangePaging
open WorkerProgram
open EvmSend (EvmSendSwapRow)

/-! ## Chains -/

/-- An event as the chain holds it. -/
structure EventLog where
  address : Bytes
  topics : List Bytes
  data : Bytes
  index : ℤ

/-- A transaction with what it did. -/
structure ChainTransaction where
  hash : Bytes
  sender : Bytes
  /-- None for the creation of a contract. -/
  destination : Option Bytes
  input : Bytes
  success : Bool
  logs : List EventLog
  /-- What the node answers when it is asked for the trace. -/
  trace : Except EvmFault TraceFrame
  /-- A transaction that failed has no events. -/
  quiet : success = false → logs = []

/-- A block. -/
structure ChainBlock where
  hash : Bytes
  timestamp : ℤ
  transactions : List ChainTransaction

/-- The blocks by their numbers; time does not run backwards. -/
structure History where
  block : ℤ → ChainBlock
  ordered : ∀ earlier later, earlier ≤ later →
    (block earlier).timestamp ≤ (block later).timestamp

/-- An event with the transaction and the block it is in. -/
structure Placed where
  number : ℤ
  tx : ChainTransaction
  log : EventLog

variable (history : History)

/-- An event as the node shows it. -/
def logRecord (number : ℤ) (tx : ChainTransaction) (log : EventLog) : LogRecord where
  address := some log.address
  topics := some (log.topics.map some)
  data := if log.data.length = 32 then some log.data else none
  removed := false
  transactionHash := some tx.hash
  blockHash := some (history.block number).hash
  blockNumber := some number
  logIndex := some log.index

/-- An event of a scan as the node shows it. -/
def Placed.record (placed : Placed) : LogRecord :=
  logRecord history placed.number placed.tx placed.log

/-- A receipt as the node shows it. -/
def receiptRecord (number : ℤ) (tx : ChainTransaction) : ReceiptRecord where
  status := some (if tx.success then 1 else 0)
  transactionHash := some tx.hash
  blockHash := some (history.block number).hash
  blockNumber := some number
  logs := some (tx.logs.map (logRecord history number tx))
  caller := some tx.sender
  callee := tx.destination

/-- A transaction as the node shows it. -/
def transactionRecord (number : ℤ) (tx : ChainTransaction) : TransactionRecord where
  hash := some tx.hash
  blockHash := some (history.block number).hash
  blockNumber := some number
  caller := some tx.sender
  callee := tx.destination
  input := some (.bytes tx.input)

/-- A header as the node shows it. -/
def headerRecord (number : ℤ) : HeaderRecord where
  hash := some (history.block number).hash
  number := some number
  timestamp := some (history.block number).timestamp

variable (digests : Digests) (contract : Bytes) (lock : Erc20SwapLock)

/-- The contract's Claim events that name the lock's hash. -/
def ofLock (log : EventLog) : Bool :=
  log.address = contract ∧ log.topics.head? = some (claimEventTopic digests) ∧
    log.topics[1]? = some lock.preimageHash

/-- Those of one block, in order. -/
def blockLogs (number : ℤ) : List Placed :=
  (history.block number).transactions.flatMap fun tx =>
    (tx.logs.filter (ofLock digests contract lock)).map (Placed.mk number tx)

/-- Those of the blocks from `first` to `last`, in order. -/
def logsBetween (first last : ℤ) : List Placed :=
  (List.range (last + 1 - first).toNat).flatMap fun index : ℕ =>
    blockLogs history digests contract lock (first + index)

/-- An answer that tells the truth of the chain, whose tip is no lower than `tip` from the
first read on. -/
def Truthful (tip : ℤ) : ((op : EvidenceOp) × op.Ans) → Prop
  | ⟨.blockNumber, answer⟩ => ∃ height, answer = .ok (some height) ∧ tip ≤ height
  | ⟨.getLogs page, answer⟩ => answer = .ok (some
      ((logsBetween history digests contract lock page.first page.last).map
        (Placed.record history)))
  | ⟨.getTransactionReceipt hash, answer⟩ => ∀ number, ∀ tx ∈ (history.block number).transactions,
      tx.hash = hash → answer = .ok (receiptRecord history number tx)
  | ⟨.getTransactionByHash hash, answer⟩ => ∀ number, ∀ tx ∈ (history.block number).transactions,
      tx.hash = hash → answer = .ok (transactionRecord history number tx)
  | ⟨.traceTransaction hash, answer⟩ => ∀ number, ∀ tx ∈ (history.block number).transactions,
      tx.hash = hash → answer = tx.trace
  | ⟨.getBlockByNumber number, answer⟩ => answer = .ok (headerRecord history number)

/-! ## Reads -/

section Reads

variable {α : Type} {trace : Trace EvidenceOp.Ans} {out : Except EvmFault α}
  {Told : ((op : EvidenceOp) × op.Ans) → Prop}

/-- A request that has to answer a value is followed by the rest of the program on it. -/
theorem answered {op : EvidenceOp} {rest : op.Answer → Prog α} (Value : op.Answer → Prop)
    (h : Yields ((ask op).bind rest) trace out) (ht : ∀ step ∈ trace, Told step)
    (hv : ∀ answer, Told ⟨op, answer⟩ → ∃ value, answer = .ok value ∧ Value value) :
    ∃ value later, Value value ∧ Yields (rest value) later out ∧ ∀ step ∈ later, Told step := by
  obtain ⟨error, -, hy⟩ | ⟨value, first, second, hs, hy, hr⟩ := yields_bind.mp h
  · obtain ⟨answer, later, hl, ho⟩ := yields_issue_bind.mp hy
    obtain ⟨value, he, -⟩ := hv answer (ht _ (by rw [hl]; exact List.mem_cons_self))
    rw [he] at ho
    cases (yields_ofExcept.mp ho).2
  · obtain ⟨answer, later, hl, ho⟩ := yields_issue_bind.mp hy
    obtain ⟨told, he, hp⟩ := hv answer (ht _ (by rw [hs, hl]; exact List.mem_cons_self))
    rw [he] at ho
    cases (yields_ofExcept.mp ho).2
    exact ⟨value, second, hp, hr, fun step hm => ht step (by
      rw [hs]
      exact List.mem_append_right _ hm)⟩

/-- The same where the truth leaves one value. -/
theorem answered_as {op : EvidenceOp} {rest : op.Answer → Prog α} {value : op.Answer}
    (h : Yields ((ask op).bind rest) trace out) (ht : ∀ step ∈ trace, Told step)
    (hv : ∀ answer, Told ⟨op, answer⟩ → answer = .ok value) :
    ∃ later, Yields (rest value) later out ∧ ∀ step ∈ later, Told step := by
  obtain ⟨told, later, rfl, hy, hl⟩ :=
    answered (· = value) h ht fun answer ha => ⟨value, hv answer ha, rfl⟩
  exact ⟨later, hy, hl⟩

end Reads

/-! ## What the verifier makes of a log -/

section Verdicts

variable {history digests contract lock} {policy : EvmClaimFinalityPolicy} {tip : ℤ}
  {trace : Trace EvidenceOp.Ans}

/-- A truthful header answer is the header of the block asked for. -/
theorem header_told {number : ℤ} {answer : Except EvmFault HeaderRecord}
    (h : Truthful history digests contract lock tip ⟨.getBlockByNumber number, answer⟩) :
    answer = .ok (headerRecord history number) := h

/-- A truthful tip answer is a block no lower than the tip. -/
theorem tip_told {answer : Except EvmFault (Option ℤ)}
    (h : Truthful history digests contract lock tip ⟨.blockNumber, answer⟩) :
    ∃ value, answer = .ok value ∧ ∃ highest, value = some highest ∧ tip ≤ highest := by
  obtain ⟨highest, he, hge⟩ := h
  exact ⟨some highest, he, highest, rfl, hge⟩

/-- A truthful log answer holds every log of the lock between the two blocks. -/
theorem logs_told {page : Page} {answer : Except EvmFault (Option (List LogRecord))}
    (h : Truthful history digests contract lock tip ⟨.getLogs page, answer⟩) :
    answer = .ok (some ((logsBetween history digests contract lock page.first page.last).map
      (Placed.record history))) := h

/-- The block is deep and old enough for the policy. -/
structure Final (history : History) (policy : EvmClaimFinalityPolicy) (tip number : ℤ) : Prop where
  below : number ≤ tip
  deep : policy.minConfirmations ≤ tip - number + 1
  old : policy.minAgeSeconds ≤ policy.nowSeconds - (history.block number).timestamp

/-- What is final of a block is final of every earlier one, under any higher tip. -/
theorem Final.earlier {number earlier height : ℤ} (h : Final history policy tip number)
    (he : earlier ≤ number) (ht : tip ≤ height) : Final history policy height earlier := by
  have ho := history.ordered earlier number he
  have hd := h.deep
  have ha := h.old
  have hb := h.below
  constructor
  · omega
  · have hq : (tip : ℚ) - number + 1 ≤ height - earlier + 1 := by
      have h1 : (tip : ℚ) ≤ height := by exact_mod_cast ht
      have h2 : (earlier : ℚ) ≤ number := by exact_mod_cast he
      linarith
    linarith
  · have hq : ((history.block earlier).timestamp : ℚ) ≤ (history.block number).timestamp := by
      exact_mod_cast ho
    linarith

/-- A final block passes both checks. -/
theorem final_passes {number : ℤ} (hp : ValidPolicy policy)
    (h : Final history policy tip number) {candidate : Candidate}
    (hn : candidate.blockNumber = number)
    (hh : candidate.blockHash = (history.block number).hash) :
    OldEnough policy candidate (headerRecord history number) ∧
      DeepEnough policy candidate (some tip) := by
  have hnow := (abs_le.mp hp.2.2.1.2).2
  have hage := hp.2.1.2
  have hold := h.old
  constructor
  · refine ⟨by rw [hh]; rfl, by rw [hn]; rfl, (history.block number).timestamp, rfl, ?_, hold⟩
    have hq : ((history.block number).timestamp : ℚ) ≤ MAX_SAFE_INTEGER := by linarith
    exact_mod_cast hq
  · refine ⟨tip, rfl, by rw [hn]; exact h.below, ?_⟩
    rw [hn]
    have hb : (1 : ℚ) ≤ ((tip - number + 1 : ℤ) : ℚ) := by
      have hi : (1 : ℤ) ≤ tip - number + 1 := by
        have := h.below
        omega
      exact_mod_cast hi
    have hm : max 1 policy.minConfirmations ≤ ((tip - number + 1 : ℤ) : ℚ) := by
      refine max_le hb ?_
      push_cast
      exact h.deep
    have hf := Int.floor_le_floor hm
    rw [Int.floor_intCast] at hf
    exact hf

/-- The last three reads confirm a claim whose block is final. -/
theorem finalPreimage_ok (hp : ValidPolicy policy) {candidate : Candidate}
    (hf : Final history policy tip candidate.blockNumber)
    (hh : candidate.blockHash = (history.block candidate.blockNumber).hash)
    {out : Except EvmFault (Option Bytes)} (h : Yields (finalPreimage policy candidate) trace out)
    (ht : ∀ step ∈ trace, Truthful history digests contract lock tip step) :
    out = .ok (some candidate.preimage) := by
  obtain ⟨later, hy, hl⟩ := answered_as h ht fun answer => header_told
  rw [if_pos (final_passes hp hf rfl hh).1] at hy
  obtain ⟨height, after, ⟨highest, rfl, hge⟩, hy, hl⟩ := answered
    (fun height => ∃ highest, height = some highest ∧ tip ≤ highest) hy hl fun answer => tip_told
  rw [if_pos (final_passes hp (hf.earlier le_rfl hge) rfl hh).2] at hy
  obtain ⟨last, hy, hl⟩ := answered_as hy hl fun answer => header_told
  rw [if_pos ⟨by rw [hh]; rfl, rfl⟩] at hy
  exact (yields_ret.mp hy).2

variable (history digests contract lock) in
/-- The preimage an event reveals. -/
def revealed (placed : Placed) : Option Bytes :=
  claimPreimage digests contract lock (placed.record history)

variable (history digests contract lock) in
/-- What the trace of a transaction that was sent elsewhere shows. -/
def traceVerdict (calls : ClaimCalls) (placed : Placed) (transactionTo : Bytes) :
    Except EvmFault Bool := do
  let trace ← placed.tx.trace
  judgeTrace digests contract lock calls ⟨placed.tx.sender, transactionTo⟩
    (.bytes placed.tx.input)
    (placed.tx.logs.map (logRecord history placed.number placed.tx)) trace

/-- The transaction calls the contract itself with an exact claim of the lock. -/
def Direct (contract : Bytes) (lock : Erc20SwapLock) (calls : ClaimCalls) (placed : Placed) :
    Prop :=
  ExactClaim contract lock calls (some placed.tx.sender) placed.tx.destination
    (some (.bytes placed.tx.input))

variable (history digests contract lock) in
/-- The event proves the claim: by the call itself, or by the trace of another contract's. -/
def Accepted (calls : ClaimCalls) (placed : Placed) : Prop :=
  revealed history digests contract lock placed = some calls.preimage ∧
    (Direct contract lock calls placed ∨
      ∃ transactionTo, placed.tx.destination = some transactionTo ∧ transactionTo ≠ contract ∧
        traceVerdict history digests contract lock calls placed transactionTo = .ok true)

variable (history digests contract lock) in
/-- The event reveals the preimage through another contract, and the trace that would tell
whether it claimed this lock is unavailable, too large, or leaves it open. -/
def Refused (calls : ClaimCalls) (placed : Placed) : Prop :=
  revealed history digests contract lock placed = some calls.preimage ∧
    ∃ transactionTo, placed.tx.destination = some transactionTo ∧ transactionTo ≠ contract ∧
      ∃ fault, traceVerdict history digests contract lock calls placed transactionTo = .error fault

/-- No event is both. -/
theorem Accepted.not_refused {calls : ClaimCalls} {placed : Placed}
    (h : Accepted history digests contract lock calls placed) :
    ¬ Refused history digests contract lock calls placed := by
  rintro ⟨-, other, ho, hn, fault, hf⟩
  obtain ⟨-, hd | ⟨transactionTo, hs, -, hv⟩⟩ := h
  · exact hn (Option.some.inj (ho.symm.trans hd.1))
  · rw [ho] at hs
    cases hs
    rw [hf] at hv
    cases hv

/-- The event is in the chain. -/
structure InChain (history : History) (placed : Placed) : Prop where
  tx : placed.tx ∈ (history.block placed.number).transactions
  log : placed.log ∈ placed.tx.logs

/-- What an event says of itself. -/
def candidate (history : History) (placed : Placed) (preimage : Bytes) : Candidate :=
  ⟨preimage, placed.tx.hash, (history.block placed.number).hash, placed.number, placed.log.index⟩

/-- A recorded log is a candidate exactly when its claim reveals a preimage. -/
theorem candidateOf_record (placed : Placed) :
    candidateOf digests contract lock (placed.record history) =
      (revealed history digests contract lock placed).map (candidate history placed) := by
  unfold candidateOf eventPreimage revealed
  rw [if_neg (by exact Bool.false_ne_true)]
  cases claimPreimage digests contract lock (placed.record history) with
  | none => rfl
  | some preimage => rfl

/-- The receipt of an event's transaction shows the event. -/
theorem receiptLogs_record {placed : Placed} {preimage : Bytes} (hc : InChain history placed)
    (hr : revealed history digests contract lock placed = some preimage) :
    receiptLogs digests contract lock (candidate history placed preimage)
      (receiptRecord history placed.number placed.tx) =
      some (placed.tx.logs.map (logRecord history placed.number placed.tx)) := by
  have hs : placed.tx.success = true := by
    by_contra hn
    have hq := placed.tx.quiet (by simpa using hn)
    have hl := hc.log
    rw [hq] at hl
    cases hl
  have hsame : SameLog digests contract lock (candidate history placed preimage)
      (logRecord history placed.number placed.tx placed.log) := by
    refine ⟨?_, rfl, rfl, rfl, rfl⟩
    unfold eventPreimage
    rw [if_neg (by exact Bool.false_ne_true)]
    exact hr
  unfold receiptLogs
  rw [if_pos ⟨by unfold receiptRecord; rw [hs]; rfl, rfl, rfl, rfl⟩]
  unfold receiptRecord
  dsimp only
  rw [Option.filter_some, if_pos]
  rw [List.any_eq_true]
  exact ⟨_, List.mem_map_of_mem hc.log, decide_eq_true hsame⟩

/-- The route read off truthful records is the sender and destination of the transaction. -/
theorem routeOf_record (placed : Placed) (preimage : Bytes) :
    routeOf (candidate history placed preimage) (receiptRecord history placed.number placed.tx)
      (transactionRecord history placed.number placed.tx) =
      placed.tx.destination.map (Route.mk placed.tx.sender) := by
  unfold routeOf
  cases hd : placed.tx.destination with
  | none =>
    rw [show (transactionRecord history placed.number placed.tx).callee = none from hd]
    rfl
  | some transactionTo =>
    rw [show (transactionRecord history placed.number placed.tx).callee = some transactionTo
      from hd]
    have hr : (receiptRecord history placed.number placed.tx).callee = some transactionTo := hd
    change (if _ then _ else _) = _
    rw [if_pos ⟨rfl, hr, rfl, rfl⟩]
    exact if_pos rfl

/-- A truthful receipt is that of the transaction asked for. -/
theorem receipt_told {placed : Placed} (hc : InChain history placed)
    {answer : Except EvmFault ReceiptRecord}
    (h : Truthful history digests contract lock tip
      ⟨.getTransactionReceipt placed.tx.hash, answer⟩) :
    answer = .ok (receiptRecord history placed.number placed.tx) :=
  h placed.number placed.tx hc.tx rfl

/-- A truthful transaction answer is the transaction asked for. -/
theorem transaction_told {placed : Placed} (hc : InChain history placed)
    {answer : Except EvmFault TransactionRecord}
    (h : Truthful history digests contract lock tip
      ⟨.getTransactionByHash placed.tx.hash, answer⟩) :
    answer = .ok (transactionRecord history placed.number placed.tx) :=
  h placed.number placed.tx hc.tx rfl

/-- A truthful trace is the one the transaction really left. -/
theorem trace_told {placed : Placed} (hc : InChain history placed)
    {answer : Except EvmFault TraceFrame}
    (h : Truthful history digests contract lock tip ⟨.traceTransaction placed.tx.hash, answer⟩) :
    answer = placed.tx.trace := h placed.number placed.tx hc.tx rfl

/-- The trace that was read is the one the node has. -/
theorem traceOf_told {placed : Placed} (hc : InChain history placed)
    {out : Except EvmFault TraceFrame} (h : Yields (traceOf placed.tx.hash) trace out)
    (ht : ∀ step ∈ trace, Truthful history digests contract lock tip step) :
    (∃ shown, placed.tx.trace = .ok shown ∧ out = .ok shown) ∨
      (∃ fault, placed.tx.trace = .error fault) ∧ ∃ fault, out = .error fault := by
  obtain ⟨answer, later, hl, hy⟩ := h
  have he : answer = placed.tx.trace :=
    trace_told hc (ht _ (by rw [hl]; exact List.mem_cons_self))
  rw [← he]
  cases answer with
  | ok shown => exact .inl ⟨shown, rfl, hy.2⟩
  | error fault => exact .inr ⟨⟨fault, rfl⟩, _, hy.2⟩

/-- What becomes of the question whether the transaction executed the claim. -/
theorem claimExecuted_told {calls : ClaimCalls} {placed : Placed} {transactionTo : Bytes}
    (hc : InChain history placed) (hd : placed.tx.destination = some transactionTo)
    {out : Except EvmFault Bool}
    (h : Yields (claimExecuted digests contract lock calls placed.tx.hash
      ⟨placed.tx.sender, transactionTo⟩ (some (.bytes placed.tx.input))
      (placed.tx.logs.map (logRecord history placed.number placed.tx))) trace out)
    (ht : ∀ step ∈ trace, Truthful history digests contract lock tip step) :
    (Direct contract lock calls placed ∧ out = .ok true) ∨
    (¬ Direct contract lock calls placed ∧ transactionTo = contract ∧ out = .ok false) ∨
    (transactionTo ≠ contract ∧
      ((∃ shown, traceVerdict history digests contract lock calls placed transactionTo =
        .ok shown ∧ out = .ok shown) ∨
      (∃ fault, traceVerdict history digests contract lock calls placed transactionTo =
        .error fault) ∧ ∃ fault, out = .error fault)) := by
  have hdirect : ExactClaim contract lock calls (some placed.tx.sender) (some transactionTo)
      (some (.bytes placed.tx.input)) ↔ Direct contract lock calls placed := by
    unfold Direct
    rw [hd]
  unfold claimExecuted at h
  split at h
  next he => exact .inl ⟨hdirect.mp he, (yields_ret.mp h).2⟩
  next he =>
  unfold nestedClaimExecuted at h
  dsimp only at h
  split at h
  next hto => exact .inr (.inl ⟨fun hn => he (hdirect.mpr hn), hto, (yields_ret.mp h).2⟩)
  next hto =>
  refine .inr (.inr ⟨hto, ?_⟩)
  unfold traceVerdict
  obtain ⟨error, ho, hy⟩ | ⟨shown, first, second, hs, hy, hr⟩ := yields_bind.mp h
  · obtain ⟨shown, -, hn⟩ | ⟨⟨fault, hf⟩, -⟩ := traceOf_told hc hy ht
    · cases hn
    · rw [hf]
      exact .inr ⟨⟨fault, rfl⟩, error, ho⟩
  · have hfirst : ∀ step ∈ first, Truthful history digests contract lock tip step :=
      fun step hm => ht step (by rw [hs]; exact List.mem_append_left _ hm)
    obtain ⟨other, hk, hv⟩ | ⟨-, fault, hf⟩ := traceOf_told hc hy hfirst
    · cases hv
      rw [hk, ok_bind]
      have ho := (yields_ofExcept.mp hr).2
      rw [ho]
      cases judgeTrace digests contract lock calls ⟨placed.tx.sender, transactionTo⟩
        (.bytes placed.tx.input)
        (placed.tx.logs.map (logRecord history placed.number placed.tx)) shown with
      | ok verdict => exact .inl ⟨verdict, rfl, rfl⟩
      | error fault => exact .inr ⟨⟨fault, rfl⟩, fault, rfl⟩
    · cases hf

/-- The lock's hash has one preimage of 32 bytes. -/
def SinglePreimage (digests : Digests) (lock : Erc20SwapLock) (preimage : Bytes) : Prop :=
  ∀ other : Bytes, other.length = 32 → digests.sha256 other = lock.preimageHash → other = preimage

/-- Every event that reveals a preimage reveals that one. -/
theorem revealed_eq {placed : Placed} {preimage other : Bytes}
    (hs : SinglePreimage digests lock preimage)
    (hr : revealed history digests contract lock placed = some other) : other = preimage := by
  unfold revealed claimPreimage at hr
  split at hr
  next =>
    obtain ⟨hd, hh⟩ := Option.filter_eq_some_iff.mp hr
    have hl : (if placed.log.data.length = 32 then some placed.log.data else none) =
      some other := hd
    split at hl
    next h32 =>
      cases hl
      exact hs _ h32 (by simpa using hh)
    next => cases hl
  next => cases hr

/-- From the route on: the transaction executed the claim, it did not, or nobody can tell. -/
theorem executed_told {calls : ClaimCalls} {placed : Placed} {transactionTo : Bytes}
    (hc : InChain history placed) (hp : ValidPolicy policy)
    (hr : revealed history digests contract lock placed = some calls.preimage)
    (hd : placed.tx.destination = some transactionTo)
    (hf : Final history policy tip placed.number) {out : Except EvmFault (Option Bytes)}
    (h : Yields ((claimExecuted digests contract lock calls placed.tx.hash
      ⟨placed.tx.sender, transactionTo⟩ (some (.bytes placed.tx.input))
      (placed.tx.logs.map (logRecord history placed.number placed.tx))).bind fun executed =>
        if executed then finalPreimage policy (candidate history placed calls.preimage)
        else .ret none) trace out)
    (ht : ∀ step ∈ trace, Truthful history digests contract lock tip step) :
    (Accepted history digests contract lock calls placed ∧ out = .ok (some calls.preimage)) ∨
    (Refused history digests contract lock calls placed ∧ ∃ fault, out = .error fault) ∨
    (¬ Accepted history digests contract lock calls placed ∧
      ¬ Refused history digests contract lock calls placed ∧ out = .ok none) := by
  obtain ⟨error, ho, hx⟩ | ⟨executed, first, second, hs, hx, hz⟩ := yields_bind.mp h
  · obtain ⟨-, hn⟩ | ⟨-, -, hn⟩ | ⟨hto, ⟨shown, -, hn⟩ | ⟨⟨fault, hv⟩, -⟩⟩ :=
      claimExecuted_told hc hd hx ht
    · cases hn
    · cases hn
    · cases hn
    · exact .inr (.inl ⟨⟨hr, transactionTo, hd, hto, fault, hv⟩, error, ho⟩)
  · have hfirst : ∀ step ∈ first, Truthful history digests contract lock tip step :=
      fun step hm => ht step (by rw [hs]; exact List.mem_append_left _ hm)
    have hsecond : ∀ step ∈ second, Truthful history digests contract lock tip step :=
      fun step hm => ht step (by rw [hs]; exact List.mem_append_right _ hm)
    obtain ⟨hdirect, hn⟩ | ⟨hdirect, hto, hn⟩ | ⟨hto, ⟨shown, hv, hn⟩ | ⟨-, fault, hn⟩⟩ :=
      claimExecuted_told hc hd hx hfirst
    · cases hn
      exact .inl ⟨⟨hr, .inl hdirect⟩, finalPreimage_ok hp hf rfl hz hsecond⟩
    · cases hn
      refine .inr (.inr ⟨fun ha => ?_, fun ha => ?_, (yields_ret.mp hz).2⟩)
      · obtain ⟨-, hx | ⟨other, ho, hne, -⟩⟩ := ha
        · exact hdirect hx
        · cases hd.symm.trans ho
          exact hne hto
      · obtain ⟨-, other, ho, hne, -⟩ := ha
        cases hd.symm.trans ho
        exact hne hto
    · cases hn
      cases executed with
      | true =>
        exact .inl ⟨⟨hr, .inr ⟨transactionTo, hd, hto, hv⟩⟩, finalPreimage_ok hp hf rfl hz hsecond⟩
      | false =>
        refine .inr (.inr ⟨fun ha => ?_, fun ha => ?_, (yields_ret.mp hz).2⟩)
        · obtain ⟨-, hx | ⟨other, ho, -, hv'⟩⟩ := ha
          · exact hto (Option.some.inj (hd.symm.trans hx.1))
          · cases hd.symm.trans ho
            cases hv.symm.trans hv'
        · obtain ⟨-, other, ho, -, fault, hv'⟩ := ha
          cases hd.symm.trans ho
          cases hv.symm.trans hv'
    · cases hn

/-- What the verifier makes of an event in a final block: the preimage where the event
proves the claim, an error where it cannot tell, nothing otherwise. -/
theorem verify_told {calls : ClaimCalls} {placed : Placed} (hc : InChain history placed)
    (h20 : contract.length = 20) (hp : ValidPolicy policy)
    (hs : SinglePreimage digests lock calls.preimage)
    (hcalls : claimCalls digests lock calls.preimage = .ok calls)
    (hf : Final history policy tip placed.number) {out : Except EvmFault (Option Bytes)}
    (h : Yields (verifyEvmClaimEvidence digests contract lock policy (placed.record history))
      trace out)
    (ht : ∀ step ∈ trace, Truthful history digests contract lock tip step) :
    (Accepted history digests contract lock calls placed ∧ out = .ok (some calls.preimage)) ∨
    (Refused history digests contract lock calls placed ∧ ∃ fault, out = .error fault) ∨
    (¬ Accepted history digests contract lock calls placed ∧
      ¬ Refused history digests contract lock calls placed ∧ out = .ok none) := by
  unfold verifyEvmClaimEvidence at h
  rw [if_neg (by rw [h20]; simp), if_neg (not_not.mpr hp), candidateOf_record] at h
  cases hr : revealed history digests contract lock placed with
  | none =>
    rw [hr] at h
    refine .inr (.inr ⟨fun ha => ?_, fun ha => ?_, (yields_ret.mp h).2⟩)
    · cases hr.symm.trans ha.1
    · cases hr.symm.trans ha.1
  | some preimage =>
  cases revealed_eq hs hr
  rw [hr] at h
  obtain ⟨later, hy, hl⟩ := answered_as h ht fun answer => receipt_told hc
  rw [receiptLogs_record hc hr] at hy
  obtain ⟨later, hy, hl⟩ := answered_as hy hl fun answer => transaction_told hc
  rw [routeOf_record] at hy
  cases hd : placed.tx.destination with
  | none =>
    rw [hd] at hy
    refine .inr (.inr ⟨fun ha => ?_, fun ha => ?_, (yields_ret.mp hy).2⟩)
    · obtain ⟨-, hx | ⟨other, ho, -⟩⟩ := ha
      · cases hd.symm.trans hx.1
      · cases hd.symm.trans ho
    · obtain ⟨-, other, ho, -⟩ := ha
      cases hd.symm.trans ho
  | some transactionTo =>
  rw [hd] at hy
  obtain ⟨error, he, -⟩ | ⟨told, he, hy⟩ := yields_ofExcept_bind.mp hy
  · cases hcalls.symm.trans he
  cases hcalls.symm.trans he
  exact executed_told hc hp hr hd hf hy hl

/-! ## What a scan makes of the logs before a claim -/

variable (history digests contract lock) in
/-- Each of these logs in turn can be told, up to the first that proves the claim. -/
def Passable (calls : ClaimCalls) : List Placed → Prop
  | [] => True
  | placed :: rest =>
    Accepted history digests contract lock calls placed ∨
      (¬ Refused history digests contract lock calls placed ∧ Passable calls rest)

/-- Logs in front of one that proves the claim: the preimage is found if they can be
passed, and the look through them ends in an error if not. -/
theorem takeEach_told {calls : ClaimCalls} {claim : Placed} {before after : List Placed}
    (h20 : contract.length = 20) (hp : ValidPolicy policy)
    (hs : SinglePreimage digests lock calls.preimage)
    (hcalls : claimCalls digests lock calls.preimage = .ok calls)
    (hin : ∀ placed ∈ before ++ [claim], InChain history placed ∧
      Final history policy tip placed.number)
    (ha : Accepted history digests contract lock calls claim)
    {out : Except EvmFault (Option Bytes)}
    (h : Yields (takeEach (verifyEvmClaimEvidence digests contract lock policy)
      ((before ++ claim :: after).map (Placed.record history))) trace out)
    (ht : ∀ step ∈ trace, Truthful history digests contract lock tip step) :
    (Passable history digests contract lock calls before → out = .ok (some calls.preimage)) ∧
      (¬ Passable history digests contract lock calls before → ∃ fault, out = .error fault) := by
  induction before generalizing trace with
  | nil =>
    refine ⟨fun _ => ?_, fun hn => absurd trivial hn⟩
    obtain ⟨hc, hf⟩ := hin claim (by simp)
    obtain ⟨hv, hn⟩ | ⟨first, later, hs', hv, hr⟩ := yields_takeEach_cons_iff.mp h
    · obtain ⟨-, ho⟩ | ⟨hr, -⟩ | ⟨hna, -⟩ := verify_told hc h20 hp hs hcalls hf hv ht
      · exact ho
      · exact absurd hr ha.not_refused
      · exact absurd ha hna
    · have hfirst : ∀ step ∈ first, Truthful history digests contract lock tip step :=
        fun step hm => ht step (by rw [hs']; exact List.mem_append_left _ hm)
      obtain ⟨-, ho⟩ | ⟨-, fault, ho⟩ | ⟨hna, -⟩ := verify_told hc h20 hp hs hcalls hf hv hfirst
      · cases ho
      · cases ho
      · exact absurd ha hna
  | cons placed before ih =>
    obtain ⟨hc, hf⟩ := hin placed (by simp)
    obtain ⟨hv, hn⟩ | ⟨first, later, hs', hv, hr⟩ := yields_takeEach_cons_iff.mp h
    · obtain ⟨hacc, ho⟩ | ⟨href, hfault⟩ | ⟨-, -, ho⟩ := verify_told hc h20 hp hs hcalls hf hv ht
      · exact ⟨fun _ => ho, fun hno => absurd (.inl hacc) hno⟩
      · refine ⟨fun hpass => ?_, fun _ => hfault⟩
        obtain hacc | ⟨hno, -⟩ := hpass
        · exact absurd href hacc.not_refused
        · exact absurd href hno
      · exact absurd ho hn
    · have hfirst : ∀ step ∈ first, Truthful history digests contract lock tip step :=
        fun step hm => ht step (by rw [hs']; exact List.mem_append_left _ hm)
      have hlater : ∀ step ∈ later, Truthful history digests contract lock tip step :=
        fun step hm => ht step (by rw [hs']; exact List.mem_append_right _ hm)
      have hrest := ih (fun other hm => hin other (List.mem_cons_of_mem _ hm)) hr hlater
      obtain ⟨-, ho⟩ | ⟨-, fault, ho⟩ | ⟨hna, hnr, -⟩ :=
        verify_told hc h20 hp hs hcalls hf hv hfirst
      · cases ho
      · cases ho
      · refine ⟨fun hpass => hrest.1 ?_, fun hno => hrest.2 fun hpass => hno (.inr ⟨hnr, hpass⟩)⟩
        exact (hpass.resolve_left hna).2

/-- A policy the verifier does not work with ends every look at a log in an error. -/
theorem takeEach_invalid (h20 : contract.length = 20) (hp : ¬ ValidPolicy policy)
    {log : LogRecord} {rest : List LogRecord} {out : Except EvmFault (Option Bytes)}
    (h : Yields (takeEach (verifyEvmClaimEvidence digests contract lock policy) (log :: rest))
      trace out) : ∃ fault, out = .error fault := by
  have hv : verifyEvmClaimEvidence digests contract lock policy log =
      .throw (.error "Invalid claim finality policy") := by
    unfold verifyEvmClaimEvidence
    rw [if_neg (by rw [h20]; simp), if_pos hp]
  obtain ⟨hy, -⟩ | ⟨first, later, -, hy, -⟩ := yields_takeEach_cons_iff.mp h
  · rw [hv] at hy
    exact ⟨_, (yields_throw.mp hy).2⟩
  · rw [hv] at hy
    cases (yields_throw.mp hy).2

/-! ## The whole scan -/

/-- Two adjoining ranges of blocks hold the logs of the whole range, in order. -/
theorem logsBetween_append {first mid last : ℤ} (h1 : first ≤ mid + 1) (h2 : mid ≤ last) :
    logsBetween history digests contract lock first last =
      logsBetween history digests contract lock first mid ++
        logsBetween history digests contract lock (mid + 1) last := by
  unfold logsBetween
  have hn : (last + 1 - first).toNat = (mid + 1 - first).toNat + (last + 1 - (mid + 1)).toNat := by
    omega
  rw [hn, List.range_add, List.flatMap_append, List.flatMap_map]
  congr 1
  refine List.flatMap_congr fun index _ => ?_
  congr 1
  push_cast
  omega

/-- An empty range of blocks holds no log. -/
theorem logsBetween_nil {first last : ℤ} (h : last < first) :
    logsBetween history digests contract lock first last = [] := by
  unfold logsBetween
  rw [show (last + 1 - first).toNat = 0 by omega]
  rfl

/-- What a page leaves is what the next one starts with. -/
theorem logsBetween_rest (start span finish : ℤ) :
    logsBetween history digests contract lock (min (start + span - 1) finish + 1) finish =
      logsBetween history digests contract lock (start + span) finish := by
  by_cases h : start + span - 1 ≤ finish
  · rw [min_eq_left h, sub_add_cancel]
  · rw [min_eq_right (by omega), logsBetween_nil (by omega), logsBetween_nil (by omega)]

/-- A log of a range stands in the chain, within the range. -/
theorem mem_logsBetween {first last : ℤ} {placed : Placed}
    (h : placed ∈ logsBetween history digests contract lock first last) :
    InChain history placed ∧ first ≤ placed.number ∧ placed.number ≤ last := by
  unfold logsBetween blockLogs at h
  obtain ⟨index, hi, hb⟩ := List.mem_flatMap.mp h
  obtain ⟨tx, htx, hl⟩ := List.mem_flatMap.mp hb
  obtain ⟨log, hlog, rfl⟩ := List.mem_map.mp hl
  have hr := List.mem_range.mp hi
  refine ⟨⟨htx, (List.mem_filter.mp hlog).1⟩, ?_, ?_⟩
  · dsimp only
    omega
  · dsimp only
    omega

/-- The logs of a range stand in the order of their blocks. -/
theorem pairwise_logsBetween (first last : ℤ) :
    (logsBetween history digests contract lock first last).Pairwise
      fun earlier later => earlier.number ≤ later.number := by
  have hblock : ∀ (number : ℤ), ∀ placed ∈ blockLogs history digests contract lock number,
      placed.number = number := by
    intro number placed hm
    obtain ⟨tx, -, hl⟩ := List.mem_flatMap.mp hm
    obtain ⟨log, -, rfl⟩ := List.mem_map.mp hl
    rfl
  unfold logsBetween
  refine List.pairwise_flatMap.mpr ⟨fun index _ => ?_, ?_⟩
  · refine List.pairwise_of_forall_mem_list fun earlier he later hl => ?_
    rw [hblock _ earlier he, hblock _ later hl]
  · refine List.pairwise_lt_range.imp fun {earlier later} hlt x hx y hy => ?_
    rw [hblock _ x hx, hblock _ y hy]
    omega

/-- A scan told the truth looks through the logs of its whole range, by induction on the
blocks left to read. -/
theorem scanPages_told {range : LogScanRange} {finish : ℤ} (blocks : ℕ) :
    ∀ {start : ℤ} {trace : Trace EvidenceOp.Ans} {out : Except EvmFault (Option Bytes)},
      finish + 1 - start ≤ blocks →
      Yields (scanPages evidencePort range (verifyEvmClaimEvidence digests contract lock policy)
        finish start) trace out →
      (∀ step ∈ trace, Truthful history digests contract lock tip step) →
      ∃ look, Yields (takeEach (verifyEvmClaimEvidence digests contract lock policy)
        ((logsBetween history digests contract lock start finish).map (Placed.record history)))
          look out ∧ ∀ step ∈ look, Truthful history digests contract lock tip step := by
  induction blocks with
  | zero =>
    intro start trace out hb h ht
    rw [scanPages, if_neg (by omega)] at h
    rw [logsBetween_nil (by omega)]
    exact ⟨trace, h, ht⟩
  | succ blocks ih =>
    intro start trace out hb h ht
    rw [scanPages] at h
    split at h
    next hle =>
      have hspan := range.positive
      obtain ⟨later, hy, hl⟩ := answered_as h ht fun answer => logs_told
      dsimp only at hy
      rw [logsBetween_append (show start ≤ min (start + range.span - 1) finish + 1 by omega)
        (min_le_right _ _), List.map_append]
      obtain ⟨error, ho, hk⟩ | ⟨found, page, after, hs, hk, hr⟩ := yields_bind.mp hy
      · rw [ho]
        exact ⟨later, yields_takeEach_left hk (by simp) _, hl⟩
      have hpage : ∀ step ∈ page, Truthful history digests contract lock tip step :=
        fun step hm => hl step (by rw [hs]; exact List.mem_append_left _ hm)
      have hafter : ∀ step ∈ after, Truthful history digests contract lock tip step :=
        fun step hm => hl step (by rw [hs]; exact List.mem_append_right _ hm)
      cases found with
      | some found =>
        rw [(yields_ret.mp hr).2]
        exact ⟨page, yields_takeEach_left hk (by simp) _, hpage⟩
      | none =>
        obtain ⟨look, hlook, htold⟩ := ih (by omega) hr hafter
        rw [← logsBetween_rest] at hlook
        refine ⟨page ++ look, yields_takeEach_append hk hlook, fun step hm => ?_⟩
        exact (List.mem_append.mp hm).elim (hpage step) (htold step)
    next hgt =>
      rw [logsBetween_nil (by omega)]
      exact ⟨trace, h, ht⟩

/-- The whole look-up told the truth looks through the logs from its floor to some tip. -/
theorem findClaimPreimage_told {range : LogScanRange} {floor : ℤ}
    {out : Except EvmFault (Option Bytes)}
    (h : Yields (findClaimPreimage digests contract lock range policy floor) trace out)
    (ht : ∀ step ∈ trace, Truthful history digests contract lock tip step) :
    ∃ finish look, tip ≤ finish ∧
      Yields (takeEach (verifyEvmClaimEvidence digests contract lock policy)
        ((logsBetween history digests contract lock floor finish).map (Placed.record history)))
          look out ∧ ∀ step ∈ look, Truthful history digests contract lock tip step := by
  obtain ⟨error, -, hy⟩ | ⟨finish, first, second, hs, hy, hr⟩ := yields_bind.mp h
  · obtain ⟨height, later, ⟨highest, rfl, -⟩, hy, -⟩ := answered
      (fun height => ∃ highest, height = some highest ∧ tip ≤ highest) hy ht fun answer => tip_told
    cases (yields_ret.mp hy).2
  · have hfirst : ∀ step ∈ first, Truthful history digests contract lock tip step :=
      fun step hm => ht step (by rw [hs]; exact List.mem_append_left _ hm)
    have hsecond : ∀ step ∈ second, Truthful history digests contract lock tip step :=
      fun step hm => ht step (by rw [hs]; exact List.mem_append_right _ hm)
    obtain ⟨height, later, ⟨highest, rfl, hge⟩, hy, -⟩ := answered
      (fun height => ∃ highest, height = some highest ∧ tip ≤ highest) hy hfirst
      fun answer => tip_told
    cases (yields_ret.mp hy).2
    obtain ⟨look, hlook, htold⟩ :=
      scanPages_told (finish + 1 - floor).toNat (by omega) hr hsecond
    exact ⟨finish, look, hge, hlook, htold⟩

/-- A direct claim that is final under a policy is found from any chain a node tells
truthfully exactly when the verifier works with the policy and every log of the same hash
before it, up to the first that proves the claim, can be told. -/
theorem direct_claim_found_iff {calls : ClaimCalls}
    (h20 : contract.length = 20) (hcalls : claimCalls digests lock calls.preimage = .ok calls)
    (hsingle : SinglePreimage digests lock calls.preimage)
    {floor : ℤ} {claim : Placed} {before after : List Placed}
    (hlogs : logsBetween history digests contract lock floor tip = before ++ claim :: after)
    (hreveal : revealed history digests contract lock claim = some calls.preimage)
    (hdirect : Direct contract lock calls claim)
    (hfinal : Final history policy tip claim.number)
    {range : LogScanRange} {out : Except EvmFault (Option Bytes)}
    (hrun : Yields (findClaimPreimage digests contract lock range policy floor) trace out)
    (htrue : ∀ step ∈ trace, Truthful history digests contract lock tip step) :
    out = .ok (some calls.preimage) ↔
      ValidPolicy policy ∧ Passable history digests contract lock calls before := by
  obtain ⟨finish, look, hge, hlook, htold⟩ := findClaimPreimage_told hrun htrue
  have hmem : claim ∈ logsBetween history digests contract lock floor tip := by
    rw [hlogs]
    simp
  obtain ⟨-, hfloor, htip⟩ := mem_logsBetween hmem
  rw [logsBetween_append (show floor ≤ tip + 1 by omega) hge, hlogs, List.append_assoc,
    List.cons_append] at hlook
  by_cases hp : ValidPolicy policy
  · have hsorted : (before ++ claim :: after).Pairwise
        fun earlier later => earlier.number ≤ later.number := by
      rw [← hlogs]
      exact pairwise_logsBetween floor tip
    have hin : ∀ placed ∈ before ++ [claim], InChain history placed ∧
        Final history policy tip placed.number := by
      intro placed hm
      have hall : placed ∈ logsBetween history digests contract lock floor tip := by
        rw [hlogs]
        simp only [List.mem_append, List.mem_cons, List.not_mem_nil, or_false] at hm ⊢
        exact hm.imp_right .inl
      have hle : placed.number ≤ claim.number := by
        obtain hb | hc := List.mem_append.mp hm
        · exact (List.pairwise_append.mp hsorted).2.2 placed hb claim List.mem_cons_self
        · rw [List.mem_singleton.mp hc]
      exact ⟨(mem_logsBetween hall).1, hfinal.earlier hle le_rfl⟩
    obtain ⟨hpass, hstop⟩ :=
      takeEach_told h20 hp hsingle hcalls hin ⟨hreveal, .inl hdirect⟩ hlook htold
    constructor
    · intro ho
      by_contra hn
      obtain ⟨fault, hfault⟩ := hstop fun hno => hn ⟨hp, hno⟩
      rw [ho] at hfault
      cases hfault
    · exact fun hboth => hpass hboth.2
  · have hfault : ∃ fault, out = .error fault := by
      cases before with
      | nil => exact takeEach_invalid h20 hp hlook
      | cons placed rest => exact takeEach_invalid h20 hp hlook
    constructor
    · intro ho
      obtain ⟨fault, hf⟩ := hfault
      rw [ho] at hf
      cases hf
    · exact fun hboth => absurd hboth.1 hp

end Verdicts

/-! ## Rows -/

/-- The policy a row's claim is looked for under. -/
def claimPolicy (row : EvmSendSwapRow) (nowSeconds : ℤ) : EvmClaimFinalityPolicy :=
  ⟨row.minConfirmations, row.minAgeSeconds, nowSeconds⟩

/-- Settings the verifier works with: the age is whole, and no number is too large to be
exact. -/
structure SafeSettings (row : EvmSendSwapRow) (nowSeconds : ℤ) : Prop where
  wholeAge : row.minAgeSeconds.den = 1
  age : row.minAgeSeconds ≤ MAX_SAFE_INTEGER
  confirmations : row.minConfirmations ≤ MAX_SAFE_INTEGER
  clock : 0 ≤ nowSeconds ∧ nowSeconds ≤ MAX_SAFE_INTEGER

/-- An integer is a policy number exactly between zero and the largest safe integer. -/
theorem policyNumber_intCast (number : ℤ) :
    policyNumber number ↔ 0 ≤ number ∧ number ≤ MAX_SAFE_INTEGER := by
  unfold policyNumber isSafeInteger
  constructor
  · rintro ⟨⟨-, hm⟩, h0⟩
    have hn : (0 : ℤ) ≤ number := by exact_mod_cast h0
    have hq := (abs_le.mp hm).2
    exact ⟨hn, by exact_mod_cast hq⟩
  · rintro ⟨h0, hm⟩
    have hn : (0 : ℚ) ≤ number := by exact_mod_cast h0
    refine ⟨⟨Rat.den_intCast number, ?_⟩, hn⟩
    rw [abs_of_nonneg hn]
    exact_mod_cast hm

/-- What the configuration lets through: a whole number of confirmations from one on, any
positive age. -/
theorem loadFinality_ok {text : ℚ → String} {minConfirmations minAgeSeconds : ℚ}
    {settings : FinalitySettings}
    (h : loadFinality text minConfirmations minAgeSeconds = .ok settings) :
    1 ≤ minConfirmations ∧ 0 < minAgeSeconds := by
  obtain ⟨confirmations, hc, h⟩ := bind_ok h
  obtain ⟨age, ha, -⟩ := bind_ok h
  unfold intFrom boundedFrom at hc
  unfold numberFrom boundedFrom at ha
  split at hc
  · cases hc
  next hnc =>
  split at ha
  · cases ha
  next hna =>
  push Not at hnc hna
  have hpos : (0 : ℚ) < MIN_VALUE := by
    unfold MIN_VALUE
    positivity
  exact ⟨hnc.2, lt_of_lt_of_le hpos hna.2⟩

/-- A row whose settings were let through has a policy the verifier works with exactly when
its age is whole and its numbers exact. -/
theorem validPolicy_iff {text : ℚ → String} {row : EvmSendSwapRow} {settings : FinalitySettings}
    (h : loadFinality text row.minConfirmations row.minAgeSeconds = .ok settings)
    (nowSeconds : ℤ) : ValidPolicy (claimPolicy row nowSeconds) ↔ SafeSettings row nowSeconds := by
  obtain ⟨hc, ha⟩ := loadFinality_ok h
  have hone : 1 ≤ row.minConfirmations := by exact_mod_cast hc
  unfold ValidPolicy claimPolicy
  dsimp only
  rw [policyNumber_intCast, policyNumber_intCast]
  constructor
  · rintro ⟨h1, ⟨⟨hd, hm⟩, h0⟩, h3⟩
    exact ⟨hd, (abs_le.mp hm).2, h1.2, h3⟩
  · rintro ⟨hd, hm, h1, h3⟩
    refine ⟨⟨by omega, h1⟩, ⟨⟨hd, ?_⟩, ha.le⟩, h3⟩
    rw [abs_of_nonneg ha.le]
    exact hm

/-- A final direct claim is learned from any chain a node tells truthfully exactly when the
row's settings are ones the verifier works with, and every log of the same hash before it,
up to the first that proves the claim, can be told. -/
theorem direct_claim_learned_iff {text : ℚ → String} {row : EvmSendSwapRow} {nowSeconds : ℤ}
    {settings : FinalitySettings}
    (hset : loadFinality text row.minConfirmations row.minAgeSeconds = .ok settings)
    {digests : Digests} {contract : Bytes} {lock : Erc20SwapLock} {calls : ClaimCalls}
    (h20 : contract.length = 20) (hcalls : claimCalls digests lock calls.preimage = .ok calls)
    (hsingle : SinglePreimage digests lock calls.preimage)
    {history : History} {floor tip : ℤ} {claim : Placed} {before after : List Placed}
    (hlogs : logsBetween history digests contract lock floor tip = before ++ claim :: after)
    (hreveal : revealed history digests contract lock claim = some calls.preimage)
    (hdirect : Direct contract lock calls claim)
    (hfinal : Final history (claimPolicy row nowSeconds) tip claim.number)
    {range : LogScanRange} {trace : Trace EvidenceOp.Ans} {out : Except EvmFault (Option Bytes)}
    (hrun : Yields (findClaimPreimage digests contract lock range (claimPolicy row nowSeconds)
      floor) trace out)
    (htrue : ∀ step ∈ trace, Truthful history digests contract lock tip step) :
    out = .ok (some calls.preimage) ↔
      SafeSettings row nowSeconds ∧ Passable history digests contract lock calls before := by
  rw [← validPolicy_iff hset nowSeconds]
  exact direct_claim_found_iff h20 hcalls hsingle hlogs hreveal hdirect hfinal hrun htrue

/-! ### A chain with one claim -/

/-- The preimage of the sampled lock. -/
def samplePreimage : Bytes := List.replicate 32 7

/-- Its hash. -/
def samplePreimageHash : Bytes :=
  [0x4b, 0xb0, 0x6f, 0x8e, 0x4e, 0x3a, 0x77, 0x15, 0xd2, 0x01, 0xd5, 0x73, 0xd0, 0xaa, 0x42, 0x37,
   0x62, 0xe5, 0x5d, 0xab, 0xd6, 0x1a, 0x2c, 0x02, 0x27, 0x8f, 0xa5, 0x6c, 0xc6, 0xd2, 0x94, 0xe0]

/-- The keccak of the claim by the claim address itself. -/
def sampleClaimKeccak : Bytes :=
  [0xcd, 0x41, 0x3e, 0xfa, 0xe3, 0xcc, 0x11, 0xc8, 0x74, 0x4c, 0xe1, 0x32, 0x9c, 0x0a, 0x43, 0x65,
   0x3d, 0x9c, 0x37, 0x07, 0x16, 0xef, 0x9a, 0x1b, 0x39, 0xdc, 0x79, 0x30, 0x5b, 0x98, 0xf9, 0x47]

/-- The keccak of the longer claim. -/
def sampleClaimForKeccak : Bytes :=
  [0xbc, 0x58, 0x6b, 0x28, 0xca, 0xac, 0x5a, 0x9c, 0x94, 0xac, 0xce, 0x26, 0x07, 0xe4, 0x92, 0xa1,
   0x46, 0x31, 0x2b, 0x50, 0xbc, 0x58, 0xea, 0xb9, 0xcc, 0x8c, 0x42, 0xe9, 0x7e, 0x0a, 0xa8, 0x3c]

/-- The topic of a Claim event. -/
def sampleClaimTopic : Bytes :=
  [0x56, 0x64, 0x14, 0x2a, 0xf3, 0xdc, 0xfc, 0x3d, 0xc3, 0xde, 0x45, 0xa4, 0x3f, 0x75, 0xc7, 0x46,
   0xbd, 0x1d, 0x8c, 0x11, 0x17, 0x0a, 0x50, 0x37, 0xfd, 0xf9, 0x8b, 0xdb, 0x35, 0x77, 0x51, 0x37]

/-- The two hashes on what the sample asks of them. -/
def sampleDigests : Digests where
  keccak256 text :=
    if text = CLAIM_SIGNATURE then sampleClaimKeccak
    else if text = CLAIM_FOR_SIGNATURE then sampleClaimForKeccak
    else if text = CLAIM_EVENT_SIGNATURE then sampleClaimTopic
    else []
  sha256 bytes := if bytes = samplePreimage then samplePreimageHash else []

def sampleContract : Bytes := List.replicate 20 1

def sampleLock : Erc20SwapLock :=
  ⟨samplePreimageHash, 1000, List.replicate 20 2, List.replicate 20 3, List.replicate 20 4, 900⟩

/-- The two claims of the sampled lock. -/
def sampleCalls : ClaimCalls where
  preimage := samplePreimage
  claimSelf := selectorFor sampleDigests CLAIM_SIGNATURE ++ (samplePreimage ++
    padded 32 (minimalBytes 1000) ++ padded 32 sampleLock.tokenAddress ++
    padded 32 sampleLock.refundAddress ++ padded 32 (minimalBytes 900))
  claimFor := selectorFor sampleDigests CLAIM_FOR_SIGNATURE ++ (samplePreimage ++
    padded 32 (minimalBytes 1000) ++ padded 32 sampleLock.tokenAddress ++
    padded 32 sampleLock.claimAddress ++ padded 32 sampleLock.refundAddress ++
    padded 32 (minimalBytes 900))

/-- The sample claim's calldata is encoded as computed here once. -/
theorem claimCalls_sample :
    claimCalls sampleDigests sampleLock sampleCalls.preimage = .ok sampleCalls := by rfl

/-- Only one preimage is known for the sample lock. -/
theorem singlePreimage_sample : SinglePreimage sampleDigests sampleLock sampleCalls.preimage := by
  intro other _ ho
  by_contra hn
  rw [show sampleDigests.sha256 other = [] from if_neg hn] at ho
  cases ho

/-- A Claim event of the sampled hash. -/
def sampleEvent : EventLog :=
  ⟨sampleContract, [sampleClaimTopic, samplePreimageHash], samplePreimage, 0⟩

/-- Anybody's claim for the claim address, sent to the contract itself. -/
def sampleDirect : ChainTransaction where
  hash := List.replicate 32 9
  sender := List.replicate 20 5
  destination := some sampleContract
  input := sampleCalls.claimFor
  success := true
  logs := [sampleEvent]
  trace := .error (.error "the method debug_traceTransaction does not exist")
  quiet h := by cases h

/-- A claim of another lock of the same hash through another contract, on a node that does
not trace. -/
def sampleForeign : ChainTransaction where
  hash := List.replicate 32 8
  sender := List.replicate 20 5
  destination := some (List.replicate 20 6)
  input := []
  success := true
  logs := [sampleEvent]
  trace := .error (.error "the method debug_traceTransaction does not exist")
  quiet h := by cases h

/-- The same, on a node that traces it: the other contract claims another lock. -/
def sampleTold : ChainTransaction :=
  { sampleForeign with
    hash := List.replicate 32 7
    trace := .ok (.frame (some .call) (some (List.replicate 20 5)) (some (List.replicate 20 6))
      (some (.bytes [])) .absent .absent (.given [.frame (some .call) (some (List.replicate 20 6))
        (some sampleContract) (some (.bytes [1])) .absent (.given []) .absent])) }

/-- Blocks of twelve seconds, these transactions in block 100. -/
def sampleHistory (transactions : List ChainTransaction) : History where
  block number := ⟨List.replicate 32 0, 12 * number, if number = 100 then transactions else []⟩
  ordered earlier later h := by
    dsimp only
    omega

/-- What a truthful node at block 100 answers. -/
def sampleAnswers (transactions : List ChainTransaction) : (op : EvidenceOp) → op.Ans
  | .blockNumber => .ok (some 100)
  | .getLogs page => .ok (some ((logsBetween (sampleHistory transactions) sampleDigests
      sampleContract sampleLock page.first page.last).map
        (Placed.record (sampleHistory transactions))))
  | .getTransactionReceipt hash => match transactions.find? (·.hash = hash) with
    | some tx => .ok (receiptRecord (sampleHistory transactions) 100 tx)
    | none => .error (.error "not found")
  | .getTransactionByHash hash => match transactions.find? (·.hash = hash) with
    | some tx => .ok (transactionRecord (sampleHistory transactions) 100 tx)
    | none => .error (.error "not found")
  | .traceTransaction hash => match transactions.find? (·.hash = hash) with
    | some tx => tx.trace
    | none => .error (.error "not found")
  | .getBlockByNumber number => .ok (headerRecord (sampleHistory transactions) number)

/-- Transactions of block 100 with hashes of their own are found by them. -/
theorem find_sample {transactions : List ChainTransaction}
    (h : transactions.Pairwise fun first second => first.hash ≠ second.hash) {number : ℤ}
    {tx : ChainTransaction}
    (hm : tx ∈ ((sampleHistory transactions).block number).transactions) :
    number = 100 ∧ transactions.find? (·.hash = tx.hash) = some tx := by
  have hn : number = 100 := by
    by_contra hne
    rw [show ((sampleHistory transactions).block number).transactions = [] from if_neg hne] at hm
    cases hm
  rw [show ((sampleHistory transactions).block number).transactions = transactions
    from if_pos hn] at hm
  refine ⟨hn, ?_⟩
  clear hn
  induction transactions with
  | nil => cases hm
  | cons first rest ih =>
    obtain ⟨hfirst, hrest⟩ := List.pairwise_cons.mp h
    obtain rfl | hm := List.mem_cons.mp hm
    · exact List.find?_cons_of_pos (by simp)
    · rw [List.find?_cons_of_neg (by simpa using hfirst tx hm)]
      exact ih hrest hm

/-- The sample answers are truthful for any chain of distinct transactions. -/
theorem truthful_sample {transactions : List ChainTransaction}
    (h : transactions.Pairwise fun first second => first.hash ≠ second.hash) (op : EvidenceOp) :
    Truthful (sampleHistory transactions) sampleDigests sampleContract sampleLock 100
      ⟨op, sampleAnswers transactions op⟩ := by
  cases op with
  | blockNumber => exact ⟨100, rfl, le_rfl⟩
  | getLogs page => rfl
  | getTransactionReceipt hash =>
    rintro number tx hm rfl
    obtain ⟨rfl, hf⟩ := find_sample h hm
    unfold sampleAnswers
    dsimp only
    rw [hf]
  | getTransactionByHash hash =>
    rintro number tx hm rfl
    obtain ⟨rfl, hf⟩ := find_sample h hm
    unfold sampleAnswers
    dsimp only
    rw [hf]
  | traceTransaction hash =>
    rintro number tx hm rfl
    obtain ⟨rfl, hf⟩ := find_sample h hm
    unfold sampleAnswers
    dsimp only
    rw [hf]
  | getBlockByNumber number => rfl

/-- A look-up on such a node comes to an end. -/
theorem exists_run_sample (transactions : List ChainTransaction)
    (h : transactions.Pairwise fun first second => first.hash ≠ second.hash)
    (policy : EvmClaimFinalityPolicy) :
    ∃ trace out, Yields (findClaimPreimage sampleDigests sampleContract sampleLock
      ⟨10000, by decide⟩ policy 100) trace out ∧
      ∀ step ∈ trace, Truthful (sampleHistory transactions) sampleDigests sampleContract
        sampleLock 100 step := by
  obtain ⟨trace, out, hy, ha⟩ := exists_yields (findClaimPreimage sampleDigests sampleContract
    sampleLock ⟨10000, by decide⟩ policy 100) (sampleAnswers transactions)
  refine ⟨trace, out, hy, fun step hm => ?_⟩
  have ht := truthful_sample h step.1
  rw [← ha step hm] at ht
  exact ht

/-- A row waiting for its claim. -/
def sampleRow (minAgeSeconds : ℚ) : EvmSendSwapRow :=
  { id := "s", state := .awaitingClaim, createdAt := 1000, updatedAt := 1000, amountSats := 1000,
    evmAmount := 1000, evmTimeout := 900, validUntil := 1060, minConfirmations := 1,
    minAgeSeconds := minAgeSeconds, refundLocktime := 1700000000 }

/-- Both ages are let through. -/
theorem loadFinality_sample (text : ℚ → String) {age : ℚ} (h : 1 / 2 ≤ age) :
    loadFinality text (sampleRow age).minConfirmations (sampleRow age).minAgeSeconds =
      .ok ⟨1, age⟩ := by
  have hv : ¬ age < MIN_VALUE := by
    have hp : (2 : ℚ) ≤ 2 ^ 1074 := le_self_pow₀ (by norm_num) (by norm_num)
    have hm : MIN_VALUE ≤ 1 / 2 := one_div_le_one_div_of_le (by norm_num) hp
    linarith
  unfold loadFinality intFrom numberFrom boundedFrom
  rw [if_neg (by norm_num [sampleRow]), ok_bind, if_neg (by simpa [sampleRow] using hv), ok_bind]
  norm_num [sampleRow]
  rfl

/-- The sample transaction claims the lock directly. -/
theorem direct_sample : Direct sampleContract sampleLock sampleCalls
    ⟨100, sampleDirect, sampleEvent⟩ := ⟨rfl, .inl rfl⟩

/-- The sample event reveals the sample preimage wherever it is placed. -/
theorem revealed_sample (transactions : List ChainTransaction) (tx : ChainTransaction) :
    revealed (sampleHistory transactions) sampleDigests sampleContract sampleLock
      ⟨100, tx, sampleEvent⟩ = some sampleCalls.preimage := by
  rfl

/-- The sample block holds the lock's logs of the listed transactions. -/
theorem logsBetween_sample (transactions : List ChainTransaction) :
    logsBetween (sampleHistory transactions) sampleDigests sampleContract sampleLock 100 100 =
      transactions.flatMap fun tx => (tx.logs.filter
        (ofLock sampleDigests sampleContract sampleLock)).map (Placed.mk 100 tx) := by
  unfold logsBetween blockLogs
  simp [sampleHistory]

/-- The sample block is final for every policy age of at most one second. -/
theorem final_sample (transactions : List ChainTransaction) {age : ℚ} (h : age ≤ 1) :
    Final (sampleHistory transactions) (claimPolicy (sampleRow age) 2000) 100 100 := by
  constructor
  · exact le_rfl
  · norm_num [claimPolicy, sampleRow]
  · norm_num [claimPolicy, sampleRow, sampleHistory]
    linarith

/-- The trace tells that the other claim is none of the sampled lock. -/
theorem told_sample (transactions : List ChainTransaction) :
    ¬ Refused (sampleHistory transactions) sampleDigests sampleContract sampleLock sampleCalls
      ⟨100, sampleTold, sampleEvent⟩ := by
  rintro ⟨-, transactionTo, ho, -, fault, hf⟩
  cases ho
  have hv : traceVerdict (sampleHistory transactions) sampleDigests sampleContract sampleLock
      sampleCalls ⟨100, sampleTold, sampleEvent⟩ (List.replicate 20 6) = .ok false := by rfl
  rw [hv] at hf
  cases hf

/-- The direct claim is learned past a nested claim of another lock that the node can trace. -/
theorem direct_claim_learned_iff_sample :
    ∃ trace out, Yields (findClaimPreimage sampleDigests sampleContract sampleLock
      ⟨10000, by decide⟩ (claimPolicy (sampleRow 1) 2000) 100) trace out ∧
      (∀ step ∈ trace, Truthful (sampleHistory [sampleTold, sampleDirect]) sampleDigests
        sampleContract sampleLock 100 step) ∧ out = .ok (some samplePreimage) := by
  obtain ⟨trace, out, hy, ht⟩ := exists_run_sample [sampleTold, sampleDirect] (by simp; decide)
    (claimPolicy (sampleRow 1) 2000)
  refine ⟨trace, out, hy, ht, ?_⟩
  have hlogs : logsBetween (sampleHistory [sampleTold, sampleDirect]) sampleDigests sampleContract
      sampleLock 100 100 =
        [⟨100, sampleTold, sampleEvent⟩] ++ ⟨100, sampleDirect, sampleEvent⟩ :: [] := by
    rw [logsBetween_sample]
    rfl
  have hpass : Passable (sampleHistory [sampleTold, sampleDirect]) sampleDigests sampleContract
      sampleLock sampleCalls [⟨100, sampleTold, sampleEvent⟩] := .inr ⟨told_sample _, trivial⟩
  refine (direct_claim_learned_iff (loadFinality_sample (fun _ => "") (by norm_num)) (by decide)
    claimCalls_sample singlePreimage_sample hlogs (revealed_sample _ _) direct_sample
    (final_sample _ le_rfl) hy ht).mpr ⟨?_, hpass⟩
  constructor <;> norm_num [sampleRow, MAX_SAFE_INTEGER]

/-- A claim of another lock of the same hash through another contract, in front of the
direct claim, ends the scan on a node that does not trace; and an age of half a second,
which the configuration lets through, ends it at the direct claim itself. -/
theorem final_direct_claim_not_learned :
    (∃ trace out, Yields (findClaimPreimage sampleDigests sampleContract sampleLock
      ⟨10000, by decide⟩ (claimPolicy (sampleRow 1) 2000) 100) trace out ∧
      (∀ step ∈ trace, Truthful (sampleHistory [sampleForeign, sampleDirect]) sampleDigests
        sampleContract sampleLock 100 step) ∧ out ≠ .ok (some samplePreimage)) ∧
    loadFinality (fun _ => "") (sampleRow (1 / 2)).minConfirmations
      (sampleRow (1 / 2)).minAgeSeconds = .ok ⟨1, 1 / 2⟩ ∧
    ∃ trace out, Yields (findClaimPreimage sampleDigests sampleContract sampleLock
      ⟨10000, by decide⟩ (claimPolicy (sampleRow (1 / 2)) 2000) 100) trace out ∧
      (∀ step ∈ trace, Truthful (sampleHistory [sampleDirect]) sampleDigests sampleContract
        sampleLock 100 step) ∧ out ≠ .ok (some samplePreimage) := by
  refine ⟨?_, loadFinality_sample _ le_rfl, ?_⟩
  · obtain ⟨trace, out, hy, ht⟩ := exists_run_sample [sampleForeign, sampleDirect]
      (by simp; decide)
      (claimPolicy (sampleRow 1) 2000)
    refine ⟨trace, out, hy, ht, fun ho => ?_⟩
    have hlogs : logsBetween (sampleHistory [sampleForeign, sampleDirect]) sampleDigests
        sampleContract sampleLock 100 100 =
          [⟨100, sampleForeign, sampleEvent⟩] ++ ⟨100, sampleDirect, sampleEvent⟩ :: [] := by
      rw [logsBetween_sample]
      rfl
    have hiff := direct_claim_found_iff (by decide) claimCalls_sample singlePreimage_sample hlogs
      (revealed_sample _ _) direct_sample (final_sample _ le_rfl) hy ht
    have hrefused : Refused (sampleHistory [sampleForeign, sampleDirect]) sampleDigests
        sampleContract sampleLock sampleCalls ⟨100, sampleForeign, sampleEvent⟩ :=
      ⟨revealed_sample _ _, _, rfl, by decide, _, rfl⟩
    obtain ha | ⟨hn, -⟩ := (hiff.mp ho).2
    · exact ha.not_refused hrefused
    · exact hn hrefused
  · obtain ⟨trace, out, hy, ht⟩ := exists_run_sample [sampleDirect] (by simp)
      (claimPolicy (sampleRow (1 / 2)) 2000)
    refine ⟨trace, out, hy, ht, fun ho => ?_⟩
    have hlogs : logsBetween (sampleHistory [sampleDirect]) sampleDigests sampleContract
        sampleLock 100 100 = [] ++ ⟨100, sampleDirect, sampleEvent⟩ :: [] := by
      rw [logsBetween_sample]
      rfl
    have hiff := direct_claim_found_iff (by decide) claimCalls_sample singlePreimage_sample hlogs
      (revealed_sample _ _) direct_sample (final_sample _ (by norm_num)) hy ht
    have hden : (1 / 2 : ℚ).den = 1 := (hiff.mp ho).1.2.1.1.1
    have hnum : ((1 / 2 : ℚ).num : ℚ) = 1 / 2 := (Rat.den_eq_one_iff _).mp hden
    have htwo : (1 / 2 : ℚ).num * 2 = 1 := by
      have hq : ((1 / 2 : ℚ).num : ℚ) * 2 = 1 := by linarith
      exact_mod_cast hq
    omega

end IntentSolver.EvmClaimHistory
