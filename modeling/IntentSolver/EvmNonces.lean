import IntentSolver.EventLoop
import IntentSolver.EvmFees
import IntentSolver.EvmTransaction

/-!
# Nonces of one account

All broadcasters that sign with one key share a high-water mark. The node's pending count
moves it forwards, and a nonce whose transaction was never signed moves it back by one, when
it is still on top. Calls interleave at every await. The mark stays above every nonce that is
held or was handed to a send, and that is why none is issued twice.
-/

namespace IntentSolver.EvmNonces

open BigEndian EvmPort EvmTransaction EventLoop SwapStore WorkerProgram
open EvmFees (blocksBefore priceTransaction PricedFee)

/-- Why a broadcast fails. -/
inductive BroadcastFault where
  /-- Pricing. -/
  | pricing (fault : Fault)
  /-- Signing, or an answer of the node. -/
  | evm (fault : EvmFault)

/-- A call of a contract. -/
structure ContractCall where
  /-- The source's `to`. -/
  destination : Bytes
  data : Bytes

/-- What a broadcaster is made with, besides the key and the nonces. -/
structure EvmBroadcastDeps where
  chainId : ℤ
  /-- Gas ceiling for one call. -/
  gasLimit : ℤ
  /-- The fee ceiling policy refuses to price above. -/
  maxFeeCeilingPerGas : ℤ
  /-- How long the transaction must stay viable, seconds. -/
  headroomSeconds : ℚ
  /-- The chain's fastest observed block time. -/
  fastestSecondsPerBlock : ℚ

/-- The latest block and the tip, with their quantities read. -/
structure LatestFees where
  /-- Base fee; none without a block. -/
  baseFeePerGas : Option (Except EvmFault ℤ)
  tipPerGas : Except EvmFault ℤ

/-- What the node says to a raw transaction. -/
inductive SendAnswer where
  | hash (value : String)
  /-- No string; this is its JSON. -/
  | other (json : String)

/-- What a turn may issue. -/
inductive NonceOp where
  /-- The latest block and the tip, asked for together. -/
  | latest
  /-- `onCappedByPolicy`. -/
  | cappedByPolicy (call : ContractCall)
  /-- The pending count of an account. -/
  | pendingCount (address : Bytes)
  /-- Reserve the next nonce, the chain's count at hand. -/
  | reserve (address : Bytes) (chain : ℤ)
  /-- Sign. -/
  | sign (tx : Eip1559Fields)
  /-- Give a nonce back. -/
  | release (address : Bytes) (nonce : ℤ)
  /-- `eth_sendRawTransaction`. -/
  | sendRawTransaction (raw : Bytes)

/-- What each answers. -/
abbrev NonceOp.Ans : NonceOp → Type
  | .latest => Except EvmFault LatestFees
  | .cappedByPolicy _ => Except EvmFault Unit
  | .pendingCount _ => Except EvmFault ℤ
  | .reserve _ _ => ℤ
  | .sign _ => Except EvmFault SignedTransaction
  | .release _ _ => Unit
  | .sendRawTransaction _ => Except EvmFault SendAnswer

/-- Code of a broadcast. -/
abbrev Broadcasting (α : Type) : Type := Program NonceOp.Ans BroadcastFault α

/-- A failure of the node or of the signer is thrown. -/
def orThrow {α : Type} (result : Except EvmFault α) : Broadcasting α :=
  Program.ofExcept (result.mapError BroadcastFault.evm)

/-- A failure to price is thrown. -/
def priced {α : Type} (result : Except Fault α) : Broadcasting α :=
  Program.ofExcept (result.mapError BroadcastFault.pricing)

/-! ## The source of nonces -/

/-- An address has 20 bytes. -/
def assertEvmAddress (address : Bytes) : Except EvmFault Unit :=
  if address.length = 20 then .ok ()
  else .error (.error ("address must be 20 bytes, got " ++ toString address.length))

/-- Highest nonce handed out per address, plus one. -/
abbrev Marks : Type := Bytes → Option ℤ

/-- The nonce that is reserved. -/
def nonceOf (mark : Option ℤ) (chain : ℤ) : ℤ :=
  match mark with
  | none => chain
  | some mark => if mark < chain then chain else mark

/-- The marks after a nonce was issued. -/
def Marks.issued (marks : Marks) (address : Bytes) (nonce : ℤ) : Marks :=
  Function.update marks address (some (nonce + 1))

/-- The marks after a nonce was given back. Only the one on top moves the mark. -/
def Marks.released (marks : Marks) (address : Bytes) (nonce : ℤ) : Marks :=
  if marks address = some (nonce + 1) then Function.update marks address (some nonce) else marks

/-- The nonce to use next. -/
def next (address : Bytes) : Broadcasting ℤ := do
  orThrow (assertEvmAddress address)
  let answer ← Program.issue (NonceOp.pendingCount address)
  let chain ← orThrow answer
  Program.issue (NonceOp.reserve address chain)

/-! ## A broadcast -/

section Broadcast

variable (text : ℚ → String) (crypto : Crypto) (privateKey : Bytes)

/-- The price of a call. -/
def price (deps : EvmBroadcastDeps) (latest : LatestFees) : Broadcasting PricedFee := do
  match latest.baseFeePerGas with
  | none => throw (.evm (.error "eth_getBlockByNumber returned no latest block"))
  | some baseFee =>
    let baseFeePerGas ← orThrow baseFee
    let tipPerGas ← orThrow latest.tipPerGas
    let blocksOfHeadroom ← priced (blocksBefore text deps.headroomSeconds
      deps.fastestSecondsPerBlock)
    priced (priceTransaction text ⟨baseFeePerGas, tipPerGas, blocksOfHeadroom,
      deps.maxFeeCeilingPerGas⟩)

/-- The transaction of a call. -/
def transactionOf (deps : EvmBroadcastDeps) (call : ContractCall) (fee : PricedFee) (nonce : ℤ) :
    Eip1559Fields where
  chainId := deps.chainId
  nonce := nonce
  maxPriorityFeePerGas := fee.maxPriorityFeePerGas
  maxFeePerGas := fee.maxFeePerGas
  gas := deps.gasLimit
  destination := call.destination
  value := 0
  data := call.data

/-- Sign, and give the nonce back where that fails: nothing has left the process. -/
def signed (sender : Bytes) (tx : Eip1559Fields) : Broadcasting Bytes := do
  let outcome ← Program.issue (NonceOp.sign tx)
  match outcome with
  | .ok transaction => return transaction.raw
  | .error fault =>
    let _ ← Program.issue (NonceOp.release sender tx.nonce)
    throw (.evm fault)

/-- Hand a transaction to the node. Its nonce stays burnt, whatever comes of it. -/
def submitted (raw : Bytes) : Broadcasting String := do
  let answer ← Program.issue (NonceOp.sendRawTransaction raw)
  let accepted ← orThrow answer
  match accepted with
  | .hash value => return value
  | .other json =>
    throw (.evm (.error ("eth_sendRawTransaction: expected a hash, got " ++ json)))

/-- A price the ceiling bound is told of. -/
def surface (call : ContractCall) (fee : PricedFee) : Broadcasting Unit :=
  if fee.cappedByPolicy then do
    let told ← Program.issue (NonceOp.cappedByPolicy call)
    orThrow told
  else return ()

/-- One call, priced, signed and sent. A key without an address makes no broadcaster. -/
def broadcast (deps : EvmBroadcastDeps) (call : ContractCall) : Broadcasting String := do
  let sender ← orThrow (addressFromPrivateKey crypto privateKey)
  let answer ← Program.issue NonceOp.latest
  let latest ← orThrow answer
  let fee ← price text deps latest
  surface call fee
  let nonce ← next sender
  let raw ← signed sender (transactionOf deps call fee nonce)
  submitted raw

/-! ## The process -/

/-- What becomes of a nonce, in the order it happens. -/
inductive Event where
  /-- A call read a pending count. -/
  | counted (call : ℕ) (chain : ℤ)
  /-- It was issued a nonce. -/
  | issued (call : ℕ) (chain nonce : ℤ)
  /-- It handed a raw transaction to the node. -/
  | handed (call : ℕ) (raw : Bytes)

/-- The marks, and what has happened. -/
structure NonceState where
  marks : Marks
  log : List Event

/-- What the outside world decides in a turn: an answer, or that the signer fails. -/
inductive Reply where
  | latest (answer : Except EvmFault LatestFees)
  | told (answer : Except EvmFault Unit)
  | counted (answer : Except EvmFault ℤ)
  | sent (answer : Except EvmFault SendAnswer)
  /-- The signer fails for a reason of its own. -/
  | unsigned (fault : EvmFault)
  | none

/-- Effect of an action. -/
def perform (call : ℕ) : (op : NonceOp) → Reply → NonceState → Option (op.Ans × NonceState)
  | .latest, .latest answer, state => some (answer, state)
  | .cappedByPolicy _, .told answer, state => some (answer, state)
  | .pendingCount _, .counted answer, state =>
    some (answer, match answer with
      | .ok chain => { state with log := state.log ++ [.counted call chain] }
      | .error _ => state)
  | .reserve address chain, .none, state =>
    let nonce := nonceOf (state.marks address) chain
    some (nonce,
      { marks := state.marks.issued address nonce
        log := state.log ++ [.issued call chain nonce] })
  | .sign _, .unsigned fault, state => some (.error fault, state)
  | .sign tx, .none, state => some (signTransaction crypto tx privateKey, state)
  | .release address nonce, .none, state =>
    some ((), { state with marks := state.marks.released address nonce })
  | .sendRawTransaction raw, .sent answer, state =>
    some (answer, { state with log := state.log ++ [.handed call raw] })
  | _, _, _ => none

/-- The process: any broadcasters of one key, called in any order. -/
def Broadcasters : Process where
  Op := NonceOp
  Ans := NonceOp.Ans
  Err := BroadcastFault
  State := NonceState
  Reply := Reply
  Job := EvmBroadcastDeps × ContractCall
  Result := String
  perform := perform crypto privateKey
  program job := broadcast text crypto privateKey job.1 job.2

/-- A process that has made no call. -/
def createNonceSource : NonceState := ⟨fun _ => Option.none, []⟩

end Broadcast

/-! ## What a call has learnt -/

/-- Where a call stands with its nonce. -/
inductive Note where
  | asking
  | counted (chain : ℤ)
  | holding (nonce : ℤ)
  | signed (nonce : ℤ) (raw : Bytes)
  | unsigned (nonce : ℤ)
  | spent

/-- The nonce a call holds. -/
def Note.nonce : Note → Option ℤ
  | .holding nonce => some nonce
  | .signed nonce _ => some nonce
  | .unsigned nonce => some nonce
  | _ => none

/-- A nonce is reserved over a count that was read, signed with once, and then given back or
handed to the node. -/
def nonceDiscipline (sender : Bytes) : Discipline NonceOp.Ans where
  Note := Note
  fresh := .asking
  may note
    | .latest => note = .asking
    | .cappedByPolicy _ => note = .asking
    | .pendingCount address => note = .asking ∧ address = sender
    | .reserve address chain => note = .counted chain ∧ address = sender
    | .sign tx => note = .holding tx.nonce
    | .release address nonce => note = .unsigned nonce ∧ address = sender
    | .sendRawTransaction raw => ∃ nonce, note = .signed nonce raw
  learn note
    | .latest, _ => note
    | .cappedByPolicy _, _ => note
    | .pendingCount _, .ok chain => .counted chain
    | .pendingCount _, .error _ => note
    | .reserve _ _, nonce => .holding nonce
    | .sign tx, .ok transaction => .signed tx.nonce transaction.raw
    | .sign tx, .error _ => .unsigned tx.nonce
    | .release _ _, _ => .spent
    | .sendRawTransaction _, _ => .spent

section Code

variable {sender : Bytes} {text : ℚ → String} {crypto : Crypto} {privateKey : Bytes}

/-- Checks issue nothing. -/
theorem idle_orThrow {α : Type} (result : Except EvmFault α) :
    (nonceDiscipline sender).Idle (orThrow result) := by
  cases result with
  | ok value => trivial
  | error fault => trivial

/-- Handing on a price touches no nonce. -/
theorem idle_priced {α : Type} (result : Except Fault α) :
    (nonceDiscipline sender).Idle (priced result) := by
  cases result with
  | ok value => trivial
  | error fault => trivial

/-- Working out the price touches no nonce. -/
theorem idle_price (deps : EvmBroadcastDeps) (latest : LatestFees) :
    (nonceDiscipline sender).Idle (price text deps latest) := by
  unfold price
  cases latest.baseFeePerGas with
  | none => trivial
  | some baseFee =>
    exact (idle_orThrow _).bind fun _ => (idle_orThrow _).bind fun _ =>
      (idle_priced _).bind fun _ => idle_priced _

/-- Telling of a capped price leaves the call where it is. -/
theorem ends_surface (call : ContractCall) (fee : PricedFee) :
    (nonceDiscipline sender).Ends .asking (surface call fee) (fun _ note => note = .asking)
      fun _ _ => True := by
  unfold surface
  split
  · refine Discipline.ends_issue_bind.mpr ⟨rfl, fun told => ?_⟩
    cases told with
    | ok done => exact rfl
    | error fault => trivial
  · exact rfl

/-- The nonce that is answered is held. -/
theorem ends_next : (nonceDiscipline sender).Ends .asking (next sender)
    (fun nonce note => note = .holding nonce) fun _ _ => True := by
  refine (idle_orThrow _).ends_bind (fun _ => trivial) fun _ => ?_
  refine Discipline.ends_issue_bind.mpr ⟨⟨rfl, rfl⟩, fun answer => ?_⟩
  cases answer with
  | ok chain => exact ⟨⟨rfl, rfl⟩, fun nonce => rfl⟩
  | error fault => trivial

/-- What comes out signed carries the nonce that is held. -/
theorem ends_signed (tx : Eip1559Fields) :
    (nonceDiscipline sender).Ends (.holding tx.nonce) (signed sender tx)
      (fun raw note => ∃ nonce, note = .signed nonce raw) fun _ _ => True := by
  refine Discipline.ends_issue_bind.mpr ⟨rfl, fun outcome => ?_⟩
  cases outcome with
  | ok transaction => exact ⟨tx.nonce, rfl⟩
  | error fault => exact ⟨⟨rfl, rfl⟩, fun _ => trivial⟩

/-- A signed transaction is sent once. -/
theorem ends_submitted {nonce : ℤ} (raw : Bytes) :
    (nonceDiscipline sender).Ends (.signed nonce raw) (submitted raw) (fun _ _ => True)
      fun _ _ => True := by
  refine Discipline.ends_issue_bind.mpr ⟨⟨nonce, rfl⟩, fun answer => ?_⟩
  refine (idle_orThrow _).ends_bind (fun _ => trivial) fun accepted => ?_
  cases accepted with
  | hash value => trivial
  | other json => trivial

/-- A broadcast keeps to the discipline. -/
theorem ends_broadcast (h : addressFromPrivateKey crypto privateKey = .ok sender)
    (deps : EvmBroadcastDeps) (call : ContractCall) :
    (nonceDiscipline sender).Ends .asking (broadcast text crypto privateKey deps call)
      (fun _ _ => True) fun _ _ => True := by
  unfold broadcast
  rw [h]
  refine Discipline.ends_issue_bind.mpr ⟨rfl, fun answer => ?_⟩
  refine (idle_orThrow _).ends_bind (fun _ => trivial) fun latest => ?_
  refine (idle_price _ _).ends_bind (fun _ => trivial) fun fee => ?_
  refine (ends_surface call fee).bind fun _ note hn => ?_
  rw [hn]
  refine ends_next.bind fun nonce note hn => ?_
  rw [hn]
  refine (ends_signed (transactionOf deps call fee nonce)).bind fun raw note hn => ?_
  obtain ⟨held, rfl⟩ := hn
  exact ends_submitted raw

end Code

/-! ## The invariant -/

/-- The transaction is one that is decoded with this nonce. -/
def Carries (crypto : Crypto) (raw : Bytes) (nonce : ℤ) : Prop :=
  ∃ decoded, decodeSignedTransaction crypto raw = .ok decoded ∧ decoded.fields.nonce = nonce

/-- A transaction carries one nonce. -/
theorem Carries.unique {crypto : Crypto} {raw : Bytes} {nonce other : ℤ}
    (h : Carries crypto raw nonce) (ho : Carries crypto raw other) : nonce = other := by
  obtain ⟨decoded, hd, hn⟩ := h
  obtain ⟨again, ha, hm⟩ := ho
  rw [hd] at ha
  cases ha
  rw [← hn, ← hm]

/-- The nonce is below the mark. -/
def Below (marks : Marks) (sender : Bytes) (nonce : ℤ) : Prop :=
  ∃ mark, marks sender = some mark ∧ nonce < mark

/-- A reserved nonce is at least the chain's count and past all those below the mark. -/
theorem nonceOf_spec {marks : Marks} {sender : Bytes} {chain : ℤ} :
    chain ≤ nonceOf (marks sender) chain ∧
      ∀ nonce, Below marks sender nonce → nonce < nonceOf (marks sender) chain := by
  unfold nonceOf
  constructor
  · cases marks sender with
    | none => exact le_refl chain
    | some mark =>
      dsimp only
      split
      · exact le_refl chain
      · omega
  · intro nonce hb
    obtain ⟨mark, hm, hlt⟩ := hb
    rw [hm]
    dsimp only
    split
    · omega
    · exact hlt

/-- What is below the mark stays below it when a nonce is issued, and the nonce is, too. -/
theorem below_issued {marks : Marks} {sender : Bytes} {issued nonce : ℤ}
    (h : nonce ≤ issued) : Below (marks.issued sender issued) sender nonce :=
  ⟨issued + 1, Function.update_self .., by omega⟩

/-- What is below the mark and is not the nonce that is given back stays below it. -/
theorem below_released {marks : Marks} {sender : Bytes} {freed nonce : ℤ}
    (h : Below marks sender nonce) (hn : nonce ≠ freed) :
    Below (marks.released sender freed) sender nonce := by
  obtain ⟨mark, hm, hlt⟩ := h
  unfold Marks.released
  split
  · rename_i htop
    rw [hm] at htop
    cases htop
    exact ⟨freed, Function.update_self .., by omega⟩
  · exact ⟨mark, hm, hlt⟩

/-- One event before another: a nonce that was handed to the node is neither issued nor
handed again. -/
def Once (crypto : Crypto) (earlier later : Event) : Prop :=
  ∀ call raw nonce, earlier = .handed call raw → Carries crypto raw nonce →
    (∀ other chain, later ≠ .issued other chain nonce) ∧
    ∀ other again, later = .handed other again → ¬ Carries crypto again nonce

/-- Every nonce that is held or was handed to the node is below the mark, and no two of
them are the same. -/
structure Inv (crypto : Crypto) (sender : Bytes) (state : NonceState) (notes : List Note) :
    Prop where
  counted : ∀ (call : ℕ) (chain : ℤ), notes[call]? = some (Note.counted chain) →
    Event.counted call chain ∈ state.log
  below : ∀ (call : ℕ) (note : Note) (nonce : ℤ), notes[call]? = some note →
    note.nonce = some nonce → Below state.marks sender nonce
  apart : ∀ (first second : ℕ) (note other : Note) (nonce : ℤ), notes[first]? = some note →
    notes[second]? = some other → note.nonce = some nonce → other.nonce = some nonce →
    first = second
  signed : ∀ (call : ℕ) (nonce : ℤ) (raw : Bytes), notes[call]? = some (Note.signed nonce raw) →
    Carries crypto raw nonce
  burnt : ∀ (call : ℕ) (raw : Bytes) (nonce : ℤ), Event.handed call raw ∈ state.log →
    Carries crypto raw nonce → Below state.marks sender nonce ∧
      ∀ (other : ℕ) (note : Note), notes[other]? = some note → note.nonce ≠ some nonce
  carried : ∀ (call : ℕ) (raw : Bytes), Event.handed call raw ∈ state.log →
    ∃ nonce, Carries crypto raw nonce
  once : state.log.Pairwise (Once crypto)
  floors : ∀ (index call : ℕ) (chain nonce : ℤ),
    state.log[index]? = some (Event.issued call chain nonce) →
      chain ≤ nonce ∧ Event.counted call chain ∈ state.log.take index

section Steps

variable {crypto : Crypto} {sender : Bytes} {state : NonceState} {notes : List Note}
  {call : ℕ} {old : Note}

/-- An event at the end of the log keeps what was said of the earlier ones. -/
theorem floors_append {log : List Event} {event : Event}
    (h : ∀ (index call : ℕ) (chain nonce : ℤ), log[index]? = some (Event.issued call chain nonce) →
      chain ≤ nonce ∧ Event.counted call chain ∈ log.take index)
    (he : ∀ call chain nonce, event = .issued call chain nonce →
      chain ≤ nonce ∧ .counted call chain ∈ log) (index call : ℕ) (chain nonce : ℤ)
    (hi : (log ++ [event])[index]? = some (Event.issued call chain nonce)) :
    chain ≤ nonce ∧ Event.counted call chain ∈ (log ++ [event]).take index := by
  obtain hlt | hge := Nat.lt_or_ge index log.length
  · rw [List.getElem?_append_left hlt] at hi
    rw [List.take_append_of_le_length (le_of_lt hlt)]
    exact h index call chain nonce hi
  · rw [List.getElem?_append_right hge] at hi
    have hlast : index - log.length = 0 := by
      by_contra hne
      rw [List.getElem?_eq_none (by simp; omega)] at hi
      cases hi
    rw [hlast] at hi
    cases hi
    have hlen : index = log.length := by omega
    rw [hlen, List.take_left']
    · exact he call chain nonce rfl
    · rfl

/-- An event at the end of the log follows all the others. -/
theorem once_append {log : List Event} {event : Event} (h : log.Pairwise (Once crypto))
    (he : ∀ call raw nonce, .handed call raw ∈ log → Carries crypto raw nonce →
      (∀ other chain, event ≠ .issued other chain nonce) ∧
      ∀ other again, event = .handed other again → ¬ Carries crypto again nonce) :
    (log ++ [event]).Pairwise (Once crypto) := by
  refine List.pairwise_append.mpr ⟨h, List.pairwise_singleton .., fun earlier hm later hl => ?_⟩
  rw [List.mem_singleton.mp hl]
  intro call raw nonce hh hc
  rw [hh] at hm
  exact he call raw nonce hm hc

/-- A count is read. -/
theorem Inv.count (h : Inv crypto sender state notes) (chain : ℤ) :
    Inv crypto sender { state with log := state.log ++ [.counted call chain] }
      (notes.set call (.counted chain)) where
  counted index count hi := by
    obtain ⟨rfl, hn⟩ | ⟨-, hi⟩ := getElem?_set_cases hi
    · cases hn
      exact List.mem_append_right _ (List.mem_singleton_self _)
    · exact List.mem_append_left _ (h.counted index count hi)
  below index note nonce hi hn := by
    obtain ⟨-, rfl⟩ | ⟨-, hi⟩ := getElem?_set_cases hi
    · cases hn
    · exact h.below index note nonce hi hn
  apart first second note other nonce hf hs hn ho := by
    obtain ⟨-, rfl⟩ | ⟨-, hf⟩ := getElem?_set_cases hf
    · cases hn
    · obtain ⟨-, rfl⟩ | ⟨-, hs⟩ := getElem?_set_cases hs
      · cases ho
      · exact h.apart first second note other nonce hf hs hn ho
  signed index nonce raw hi := by
    obtain ⟨-, hn⟩ | ⟨-, hi⟩ := getElem?_set_cases hi
    · cases hn
    · exact h.signed index nonce raw hi
  burnt index raw nonce hm hc := by
    have hm : Event.handed index raw ∈ state.log := by simpa using hm
    obtain ⟨hb, hfree⟩ := h.burnt index raw nonce hm hc
    refine ⟨hb, fun other note hi => ?_⟩
    obtain ⟨-, rfl⟩ | ⟨-, hi⟩ := getElem?_set_cases hi
    · exact fun hn => by cases hn
    · exact hfree other note hi
  carried index raw hm := h.carried index raw (by simpa using hm)
  once := once_append h.once fun _ _ _ _ _ =>
    ⟨fun _ _ he => (by cases he), fun _ _ he => (by cases he)⟩
  floors := floors_append h.floors fun _ _ _ he => by cases he

/-- A nonce is issued. -/
theorem Inv.reserve (h : Inv crypto sender state notes) {chain : ℤ}
    (hc : notes[call]? = some (.counted chain)) :
    Inv crypto sender
      { marks := state.marks.issued sender (nonceOf (state.marks sender) chain)
        log := state.log ++ [.issued call chain (nonceOf (state.marks sender) chain)] }
      (notes.set call (.holding (nonceOf (state.marks sender) chain))) := by
  obtain ⟨hfloor, hpast⟩ := @nonceOf_spec state.marks sender chain
  generalize nonceOf (state.marks sender) chain = issued at hfloor hpast
  constructor
  · intro index count hi
    obtain ⟨-, hn⟩ | ⟨-, hi⟩ := getElem?_set_cases hi
    · cases hn
    · exact List.mem_append_left _ (h.counted index count hi)
  · intro index note nonce hi hn
    obtain ⟨-, rfl⟩ | ⟨-, hi⟩ := getElem?_set_cases hi
    · cases hn
      exact below_issued (le_refl _)
    · exact below_issued (hpast nonce (h.below index note nonce hi hn)).le
  · intro first second note other nonce hf hs hn ho
    obtain ⟨rfl, rfl⟩ | ⟨-, hf⟩ := getElem?_set_cases hf
    · cases hn
      obtain ⟨rfl, -⟩ | ⟨-, hs⟩ := getElem?_set_cases hs
      · rfl
      · exact absurd (hpast _ (h.below second other _ hs ho)) (lt_irrefl _)
    · obtain ⟨-, rfl⟩ | ⟨-, hs⟩ := getElem?_set_cases hs
      · cases ho
        exact absurd (hpast _ (h.below first note _ hf hn)) (lt_irrefl _)
      · exact h.apart first second note other nonce hf hs hn ho
  · intro index nonce raw hi
    obtain ⟨-, hn⟩ | ⟨-, hi⟩ := getElem?_set_cases hi
    · cases hn
    · exact h.signed index nonce raw hi
  · intro index raw nonce hm hcarry
    have hm : Event.handed index raw ∈ state.log := by simpa using hm
    obtain ⟨hb, hfree⟩ := h.burnt index raw nonce hm hcarry
    refine ⟨below_issued (hpast nonce hb).le, fun other note hi => ?_⟩
    obtain ⟨-, rfl⟩ | ⟨-, hi⟩ := getElem?_set_cases hi
    · intro hn
      cases hn
      exact absurd (hpast _ hb) (lt_irrefl _)
    · exact hfree other note hi
  · intro index raw hm
    exact h.carried index raw (by simpa using hm)
  · refine once_append h.once fun other raw nonce hm hcarry => ⟨fun index count he => ?_, ?_⟩
    · cases he
      exact absurd (hpast _ (h.burnt other raw _ hm hcarry).1) (lt_irrefl _)
    · exact fun index again he => by cases he
  · refine floors_append h.floors fun index count nonce he => ?_
    cases he
    exact ⟨hfloor, h.counted call chain hc⟩

/-- A call whose nonce stays what it was. -/
theorem Inv.keep (h : Inv crypto sender state notes) {fresh : Note}
    (hc : notes[call]? = some old) (hn : fresh.nonce = old.nonce)
    (hcount : ∀ chain, fresh ≠ .counted chain)
    (hsigned : ∀ nonce raw, fresh = .signed nonce raw → Carries crypto raw nonce) :
    Inv crypto sender state (notes.set call fresh) := by
  have hget : ∀ {index : ℕ} {note : Note}, (notes.set call fresh)[index]? = some note →
      ∃ before, notes[index]? = some before ∧ note.nonce = before.nonce := by
    intro index note hi
    obtain ⟨rfl, rfl⟩ | ⟨-, hi⟩ := getElem?_set_cases hi
    · exact ⟨old, hc, hn⟩
    · exact ⟨note, hi, rfl⟩
  constructor
  · intro index count hi
    obtain ⟨-, he⟩ | ⟨-, hi⟩ := getElem?_set_cases hi
    · exact absurd he.symm (hcount count)
    · exact h.counted index count hi
  · intro index note nonce hi hnote
    obtain ⟨before, hb, he⟩ := hget hi
    exact h.below index before nonce hb (he ▸ hnote)
  · intro first second note other nonce hf hs hnote hother
    obtain ⟨before, hb, he⟩ := hget hf
    obtain ⟨beside, hb', he'⟩ := hget hs
    exact h.apart first second before beside nonce hb hb' (he ▸ hnote) (he' ▸ hother)
  · intro index nonce raw hi
    obtain ⟨-, he⟩ | ⟨-, hi⟩ := getElem?_set_cases hi
    · exact hsigned nonce raw he.symm
    · exact h.signed index nonce raw hi
  · intro index raw nonce hm hcarry
    obtain ⟨hb, hfree⟩ := h.burnt index raw nonce hm hcarry
    refine ⟨hb, fun other note hi => ?_⟩
    obtain ⟨before, hbefore, he⟩ := hget hi
    rw [he]
    exact hfree other before hbefore
  · exact h.carried
  · exact h.once
  · exact h.floors

/-- A nonce is given back. No other call holds it. -/
theorem Inv.release (h : Inv crypto sender state notes) {nonce : ℤ}
    (hc : notes[call]? = some (.unsigned nonce)) :
    Inv crypto sender { state with marks := state.marks.released sender nonce }
      (notes.set call .spent) where
  counted index count hi := by
    obtain ⟨-, hn⟩ | ⟨-, hi⟩ := getElem?_set_cases hi
    · cases hn
    · exact h.counted index count hi
  below index note other hi hn := by
    obtain ⟨-, rfl⟩ | ⟨hne, hi⟩ := getElem?_set_cases hi
    · cases hn
    · refine below_released (h.below index note other hi hn) fun he => hne ?_
      rw [he] at hn
      exact h.apart index call note _ nonce hi hc hn rfl
  apart first second note other held hf hs hn ho := by
    obtain ⟨-, rfl⟩ | ⟨-, hf⟩ := getElem?_set_cases hf
    · cases hn
    · obtain ⟨-, rfl⟩ | ⟨-, hs⟩ := getElem?_set_cases hs
      · cases ho
      · exact h.apart first second note other held hf hs hn ho
  signed index held raw hi := by
    obtain ⟨-, hn⟩ | ⟨-, hi⟩ := getElem?_set_cases hi
    · cases hn
    · exact h.signed index held raw hi
  burnt index raw held hm hcarry := by
    obtain ⟨hb, hfree⟩ := h.burnt index raw held hm hcarry
    refine ⟨below_released hb fun he => ?_, fun other note hi => ?_⟩
    · rw [he] at hfree
      exact hfree call _ hc rfl
    · obtain ⟨-, rfl⟩ | ⟨-, hi⟩ := getElem?_set_cases hi
      · exact fun hn => by cases hn
      · exact hfree other note hi
  carried := h.carried
  once := h.once
  floors := h.floors

/-- A signed transaction is handed to the node, and its nonce is burnt. -/
theorem Inv.hand (h : Inv crypto sender state notes) {nonce : ℤ} {raw : Bytes}
    (hc : notes[call]? = some (.signed nonce raw)) :
    Inv crypto sender { state with log := state.log ++ [.handed call raw] }
      (notes.set call .spent) := by
  have hown := h.signed call nonce raw hc
  constructor
  · intro index count hi
    obtain ⟨-, hn⟩ | ⟨-, hi⟩ := getElem?_set_cases hi
    · cases hn
    · exact List.mem_append_left _ (h.counted index count hi)
  · intro index note other hi hn
    obtain ⟨-, rfl⟩ | ⟨-, hi⟩ := getElem?_set_cases hi
    · cases hn
    · exact h.below index note other hi hn
  · intro first second note other held hf hs hn ho
    obtain ⟨-, rfl⟩ | ⟨-, hf⟩ := getElem?_set_cases hf
    · cases hn
    · obtain ⟨-, rfl⟩ | ⟨-, hs⟩ := getElem?_set_cases hs
      · cases ho
      · exact h.apart first second note other held hf hs hn ho
  · intro index held again hi
    obtain ⟨-, hn⟩ | ⟨-, hi⟩ := getElem?_set_cases hi
    · cases hn
    · exact h.signed index held again hi
  · intro index again held hm hcarry
    obtain hm | hm := List.mem_append.mp hm
    · obtain ⟨hb, hfree⟩ := h.burnt index again held hm hcarry
      refine ⟨hb, fun other note hi => ?_⟩
      obtain ⟨-, rfl⟩ | ⟨-, hi⟩ := getElem?_set_cases hi
      · exact fun hn => by cases hn
      · exact hfree other note hi
    · cases List.mem_singleton.mp hm
      cases hown.unique hcarry
      refine ⟨h.below call _ nonce hc rfl, fun other note hi hn => ?_⟩
      obtain ⟨-, rfl⟩ | ⟨hne, hi⟩ := getElem?_set_cases hi
      · cases hn
      · exact hne (h.apart other call note _ nonce hi hc hn rfl)
  · intro index again hm
    obtain hm | hm := List.mem_append.mp hm
    · exact h.carried index again hm
    · cases List.mem_singleton.mp hm
      exact ⟨nonce, hown⟩
  · refine once_append h.once fun other again held hm hcarry => ⟨fun _ _ he => (by cases he), ?_⟩
    intro index last he hlast
    cases he
    cases hown.unique hlast
    exact (h.burnt other again nonce hm hcarry).2 call _ hc rfl
  · exact floors_append h.floors fun _ _ _ he => by cases he

end Steps

/-! ## Any calls in any order -/

section Runs

variable (text : ℚ → String) {crypto : Crypto} {privateKey sender : Bytes}

/-- Every licensed action keeps the invariant. -/
theorem inv_act {state after : NonceState} {notes : List Note} {call : ℕ} {note : Note}
    {op : NonceOp} {reply : Reply} {answer : op.Ans} (h : Inv crypto sender state notes)
    (hc : notes[call]? = some note) (hmay : (nonceDiscipline sender).may note op)
    (hp : perform crypto privateKey call op reply state = some (answer, after)) :
    Inv crypto sender after (notes.set call ((nonceDiscipline sender).learn note op answer)) := by
  cases op with
  | latest =>
    cases reply with
    | latest given =>
      cases hp
      rw [show (nonceDiscipline sender).learn note .latest answer = note from rfl, set_self hc]
      exact h
    | _ => cases hp
  | cappedByPolicy asked =>
    cases reply with
    | told given =>
      cases hp
      rw [show (nonceDiscipline sender).learn note (.cappedByPolicy asked) answer = note from rfl,
        set_self hc]
      exact h
    | _ => cases hp
  | pendingCount address =>
    cases reply with
    | counted given =>
      cases hp
      cases answer with
      | ok chain => exact h.count chain
      | error fault =>
        rw [show (nonceDiscipline sender).learn note (.pendingCount address) (.error fault) = note
          from rfl, set_self hc]
        exact h
    | _ => cases hp
  | reserve address chain =>
    cases reply with
    | none =>
      cases hp
      obtain ⟨rfl, rfl⟩ := hmay
      exact h.reserve hc
    | _ => cases hp
  | sign tx =>
    cases hmay
    cases reply with
    | unsigned fault =>
      cases hp
      exact h.keep hc rfl (fun _ he => by cases he) fun _ _ he => by cases he
    | none =>
      cases hp
      cases hs : signTransaction crypto tx privateKey with
      | ok transaction =>
        obtain ⟨decoded, hd, hf, -⟩ := decode_signed hs
        refine h.keep hc rfl (fun _ he => by cases he) fun nonce raw he => ?_
        cases he
        exact ⟨decoded, hd, by rw [hf]⟩
      | error fault =>
        exact h.keep hc rfl (fun _ he => by cases he) fun _ _ he => by cases he
    | _ => cases hp
  | release address nonce =>
    cases reply with
    | none =>
      cases hp
      obtain ⟨rfl, rfl⟩ := hmay
      exact h.release hc
    | _ => cases hp
  | sendRawTransaction raw =>
    cases reply with
    | sent given =>
      cases hp
      obtain ⟨nonce, rfl⟩ := hmay
      exact h.hand hc
    | _ => cases hp

/-- A call that begins holds nothing. -/
theorem Inv.enter {state : NonceState} {notes : List Note} (h : Inv crypto sender state notes) :
    Inv crypto sender state (notes ++ [.asking]) := by
  have hget : ∀ {index : ℕ} {note : Note}, (notes ++ [Note.asking])[index]? = some note →
      note = .asking ∨ notes[index]? = some note := by
    intro index note hi
    obtain hlt | hge := Nat.lt_or_ge index notes.length
    · rw [List.getElem?_append_left hlt] at hi
      exact .inr hi
    · rw [List.getElem?_append_right hge] at hi
      exact .inl (List.mem_singleton.mp (List.mem_of_getElem? hi))
  constructor
  · intro index chain hi
    obtain he | hi := hget hi
    · cases he
    · exact h.counted index chain hi
  · intro index note nonce hi hn
    obtain rfl | hi := hget hi
    · cases hn
    · exact h.below index note nonce hi hn
  · intro first second note other nonce hf hs hn ho
    obtain rfl | hf := hget hf
    · cases hn
    · obtain rfl | hs := hget hs
      · cases ho
      · exact h.apart first second note other nonce hf hs hn ho
  · intro index nonce raw hi
    obtain he | hi := hget hi
    · cases he
    · exact h.signed index nonce raw hi
  · intro index raw nonce hm hcarry
    obtain ⟨hb, hfree⟩ := h.burnt index raw nonce hm hcarry
    refine ⟨hb, fun other note hi => ?_⟩
    obtain rfl | hi := hget hi
    · exact fun hn => by cases hn
    · exact hfree other note hi
  · exact h.carried
  · exact h.once
  · exact h.floors

/-- What is proved about all calls at once. -/
def nonceBooks (h : addressFromPrivateKey crypto privateKey = .ok sender) :
    Books (Broadcasters text crypto privateKey) where
  discipline := nonceDiscipline sender
  settled _ := True
  inv := Inv crypto sender
  enter _ _ h := h.enter
  act _ _ _ _ _ _ _ _ h hc hmay hp := inv_act h hc hmay hp
  jobs job := ends_broadcast h job.1 job.2

/-- Nothing has happened yet. -/
theorem inv_createNonceSource : Inv crypto sender createNonceSource [] := by
  constructor <;> simp [createNonceSource]

/-- In every run of any number of calls, no two transactions handed to the node carry one
nonce, no nonce is issued below the pending count the call had read for it, and a nonce that
was handed to the node is never issued again. -/
theorem nonces_never_shared (crypto : Crypto) (privateKey : Bytes) {sender : Bytes}
    (h : addressFromPrivateKey crypto privateKey = .ok sender)
    {turns : List (Turn (Broadcasters text crypto privateKey))}
    {final : Config (Broadcasters text crypto privateKey)}
    (hr : run ⟨createNonceSource, []⟩ turns = some final) :
    (∀ call raw, Event.handed call raw ∈ final.state.log → ∃ nonce, Carries crypto raw nonce) ∧
    final.state.log.Pairwise (Once crypto) ∧
    ∀ (index call : ℕ) (chain nonce : ℤ),
      final.state.log[index]? = some (Event.issued call chain nonce) →
        chain ≤ nonce ∧ Event.counted call chain ∈ final.state.log.take index := by
  obtain ⟨notes, hinv, -⟩ := (nonceBooks text h).holds_of_run inv_createNonceSource hr
  exact ⟨hinv.carried, hinv.once, hinv.floors⟩

end Runs

/-! ### Two calls at once, one of which is never signed -/

def sampleText (_ : ℚ) : String := ""

def sampleDeps : EvmBroadcastDeps where
  chainId := 1
  gasLimit := 21000
  maxFeeCeilingPerGas := 100
  headroomSeconds := 1
  fastestSecondsPerBlock := 1

def sampleCall : ContractCall where
  destination := sampleFields.destination
  data := []

def sampleLatest : LatestFees := ⟨some (.ok 0), .ok 1⟩

def sampleFee : PricedFee := ⟨⟨2, 1⟩, false⟩

/-- The broadcasters of the sampled key. -/
abbrev SampleProcess : Process := Broadcasters sampleText sampleCrypto sampleKey

/-- A call that is made. -/
def sampleBegun : Broadcasting String :=
  broadcast sampleText sampleCrypto sampleKey sampleDeps sampleCall

/-- What is left of it once its price is known. -/
def samplePriced : Broadcasting String :=
  (next sampleAddress).bind fun nonce =>
    (signed sampleAddress (transactionOf sampleDeps sampleCall sampleFee nonce)).bind submitted

/-- Both calls count before either is issued a nonce. -/
def sampleRace : List (Turn SampleProcess) :=
  [.resume 0 (.counted (.ok 0)), .resume 1 (.counted (.ok 0)), .resume 0 .none, .resume 1 .none,
    .resume 1 (.unsigned (.error "no entropy")), .resume 1 .none]

def sampleTurns : List (Turn SampleProcess) :=
  [.enter (sampleDeps, sampleCall), .enter (sampleDeps, sampleCall),
    .resume 0 (.latest (.ok sampleLatest)), .resume 1 (.latest (.ok sampleLatest))] ++
  (sampleRace ++ [.resume 0 .none, .resume 0 (.sent (.ok (.hash "0x56")))])

def sampleLog : List Event :=
  [.counted 0 0, .counted 1 0, .issued 0 0 0, .issued 1 0 1, .handed 0 sampleRaw]

/-- The sample call costs the sample fee. -/
theorem price_sample : price sampleText sampleDeps sampleLatest = .ret sampleFee := by
  have hblocks : blocksBefore sampleText 1 1 = .ok 1 := by
    unfold blocksBefore
    norm_num
  change (priced (blocksBefore sampleText 1 1)).bind
    (fun blocks => priced (priceTransaction sampleText ⟨0, 1, blocks, 100⟩)) = _
  rw [hblocks]
  rfl

/-- The sample call first asks for the latest fees. -/
theorem begun_sample : ∃ rest, sampleBegun = .call .latest rest ∧
    rest (.ok sampleLatest) = samplePriced := by
  refine ⟨_, rfl, ?_⟩
  change (price sampleText sampleDeps sampleLatest).bind
    (fun fee => (surface sampleCall fee).bind fun _ => _) = _
  rw [price_sample]
  rfl

/-- Two calls that count together are issued different nonces. -/
theorem race_sample : ∃ marks signing,
    run (P := SampleProcess) ⟨createNonceSource, [samplePriced, samplePriced]⟩ sampleRace =
      some ⟨⟨marks, sampleLog.take 4⟩,
        [.call (.sign sampleFields) signing, .throw (.evm (.error "no entropy"))]⟩ ∧
    signing (.ok ⟨sampleRaw, sampleHash, sampleAddress⟩) = submitted sampleRaw :=
  ⟨_, _, rfl, rfl⟩

/-- The first call sends the nonce nought, and the nonce of the second comes back. -/
theorem run_sample : ∃ final : Config SampleProcess,
    run ⟨createNonceSource, []⟩ sampleTurns = some final ∧ final.state.log = sampleLog := by
  obtain ⟨rest, hb, hp⟩ := begun_sample
  obtain ⟨marks, signing, hrace, hsigned⟩ := race_sample
  have hasked : run (P := SampleProcess) ⟨createNonceSource, []⟩ [.enter (sampleDeps, sampleCall),
      .enter (sampleDeps, sampleCall), .resume 0 (.latest (.ok sampleLatest)),
      .resume 1 (.latest (.ok sampleLatest))] =
        some ⟨createNonceSource, [samplePriced, samplePriced]⟩ := by
    change run (P := SampleProcess) ⟨createNonceSource, [sampleBegun, sampleBegun]⟩
      [.resume 0 (.latest (.ok sampleLatest)), .resume 1 (.latest (.ok sampleLatest))] = _
    rw [hb, ← hp]
    rfl
  have hsent : ∃ final : Config SampleProcess,
      run (P := SampleProcess) ⟨⟨marks, sampleLog.take 4⟩,
        [.call (.sign sampleFields) signing, .throw (.evm (.error "no entropy"))]⟩
        [.resume 0 .none, .resume 0 (.sent (.ok (.hash "0x56")))] = some final ∧
      final.state.log = sampleLog := by
    change ∃ final : Config SampleProcess,
      run (P := SampleProcess) ⟨⟨marks, sampleLog.take 4⟩,
        [signing (signTransaction sampleCrypto sampleFields sampleKey),
          .throw (.evm (.error "no entropy"))]⟩
        [.resume 0 (.sent (.ok (.hash "0x56")))] = some final ∧ final.state.log = sampleLog
    rw [signTransaction_sample, hsigned]
    exact ⟨_, rfl, rfl⟩
  obtain ⟨final, hf, hl⟩ := hsent
  refine ⟨final, ?_, hl⟩
  unfold sampleTurns
  rw [run_append hasked, run_append hrace, hf]

/-- Two calls race, one is refused its signature, and no nonce is shared. -/
theorem nonces_never_shared_sample : ∃ final : Config SampleProcess,
    run ⟨createNonceSource, []⟩ sampleTurns = some final ∧ final.state.log = sampleLog ∧
    final.state.log.Pairwise (Once sampleCrypto) := by
  obtain ⟨final, hr, hl⟩ := run_sample
  have hsender : addressFromPrivateKey sampleCrypto sampleKey = .ok sampleAddress := by rfl
  have hshared := nonces_never_shared sampleText sampleCrypto sampleKey hsender hr
  exact ⟨final, hr, hl, hshared.2.1⟩

end IntentSolver.EvmNonces
