import IntentSolver.EvmReceivePlan
import IntentSolver.SingleCommit
import IntentSolver.WorkerInterleaving

/-!
# The EVM receive corridor

The client locks an ERC20, the solver funds an Arkade lockup against it and claims the
tokens with the preimage the client's claim reveals. The compare-and-swap into
`funding_arkade` comes before the funding; the claim's txid is patched after the
broadcast, so a crash between the two leaves a claim the row does not name. Claims of one
lock are mined in any order; one of them succeeds at most. Everything else the chain, the
indexer and the wallet answer is arbitrary.
-/

namespace IntentSolver.EvmReceive

open EvmPort EvmReceivePlan WorkerProgram WorkerInterleaving SingleCommit

/-- The stored row, as far as the corridor reads it. -/
structure EvmReceiveSwapRow where
  id : String
  state : EvmReceiveSwapState
  updatedAt : ℤ
  /-- What the solver pays into the lockup. -/
  payoutSats : ℤ
  lockupAddress : String
  evmTimeout : ℤ
  validUntil : ℤ
  minConfirmations : ℤ
  minAgeSeconds : ℚ
  refundLocktime : ℤ
  evmClaimTxid : Option String := none
  preimage : Option String := none
  fundArkTxid : Option String := none
  refundArkTxid : Option String := none
  failureReason : Option String := none

/-- The planner's view of the row. -/
def EvmReceiveSwapRow.plan (row : EvmReceiveSwapRow) : EvmReceivePlanRow :=
  ⟨row.state, row.refundLocktime, row.evmTimeout, row.validUntil, row.minConfirmations,
    row.minAgeSeconds, row.preimage, row.evmClaimTxid⟩

/-- Columns the corridor writes. -/
inductive EvmReceiveColumn where
  | evmClaimTxid (txid : String)
  | preimage (preimage : String)
  | fundArkTxid (txid : String)
  | refundArkTxid (txid : String)
  | failureReason (reason : String)
  deriving DecidableEq

/-- Write one column. -/
def assign : EvmReceiveColumn → EvmReceiveSwapRow → EvmReceiveSwapRow
  | .evmClaimTxid txid, row => { row with evmClaimTxid := some txid }
  | .preimage preimage, row => { row with preimage := some preimage }
  | .fundArkTxid txid, row => { row with fundArkTxid := some txid }
  | .refundArkTxid txid, row => { row with refundArkTxid := some txid }
  | .failureReason reason, row => { row with failureReason := some reason }

/-- State names as the database spells them. -/
def stateName : EvmReceiveSwapState → String
  | .quoted => "quoted"
  | .awaitingLock => "awaiting_lock"
  | .locked => "locked"
  | .fundingArkade => "funding_arkade"
  | .awaitingClaim => "awaiting_claim"
  | .claiming => "claiming"
  | .claimed => "claimed"
  | .refundingArkade => "refunding_arkade"
  | .refunded => "refunded"
  | .refused => "refused"
  | .stuck => "stuck"

/-- The `receive_evm_swap` table. -/
def evmReceiveShape : EvmSwapShape EvmReceiveSwapRow EvmReceiveSwapState EvmReceiveColumn where
  noun := "receive"
  stateName := stateName
  state := EvmReceiveSwapRow.state
  stamp state now row := { row with state := state, updatedAt := now }
  touch now row := { row with updatedAt := now }
  assign := assign
  state_stamp _ _ _ := rfl
  state_touch _ _ := rfl
  state_assign column row := by cases column <;> rfl

/-! ## Actions -/

/-- What the corridor asks the chain and the indexer. -/
inductive EvmReceiveQuestion where
  | isLocked
  | isLockedAt (probe : ℤ)
  | blockTimestampAt (probe : ℤ)
  | arkadeLockupFunded
  | arkadePreimage
  | blockHeight
  | timelockHeight
  | findLockups

/-- What each question answers; a lockup read answers how many outputs there are. -/
abbrev EvmReceiveQuestion.Answer : EvmReceiveQuestion → Type
  | .isLocked => Bool
  | .isLockedAt _ => Bool
  | .blockTimestampAt _ => ℤ
  | .arkadeLockupFunded => Bool
  | .arkadePreimage => Option String
  | .blockHeight => ℤ
  | .timelockHeight => ℤ
  | .findLockups => ℕ

/-- Atomic actions of a worker on the row. -/
inductive EvmReceiveOp where
  | get
  | update (source target : EvmReceiveSwapState) (columns : List EvmReceiveColumn)
  | patch (columns : List EvmReceiveColumn)
  | now
  | read (question : EvmReceiveQuestion)
  | transactionOutcome (txid : String)
  | broadcastClaim (preimage : String)
  | fund (address : String) (sats : ℤ)
  | refundArkade

/-- What each action answers. -/
abbrev EvmReceiveOp.Ans : EvmReceiveOp → Type
  | .get => EvmReceiveSwapRow
  | .update _ _ _ => Bool
  | .patch _ => Unit
  | .now => ℤ
  | .read question => Except EvmFault question.Answer
  | .transactionOutcome _ => Except EvmFault EvmTransactionOutcome
  | .broadcastClaim _ => Except EvmFault String
  | .fund _ _ => Except EvmFault String
  | .refundArkade => Except EvmFault String

/-- Programs of this corridor. -/
abbrev Prog (α : Type) : Type := Program EvmReceiveOp.Ans EvmFault α

/-- One action. -/
def issue (op : EvmReceiveOp) : Prog op.Ans := Program.issue op

/-- One question; its error is thrown. -/
def ask (question : EvmReceiveQuestion) : Prog question.Answer := do
  Program.ofExcept (← issue (.read question))

/-- `transition`: a lost compare-and-swap throws. -/
def transition (id : String) (source target : EvmReceiveSwapState)
    (columns : List EvmReceiveColumn) : Prog Unit := do
  if ← issue (.update source target columns) then return ()
  throw (notInState evmReceiveShape id source)

/-- `fail`: the row ends `stuck`. -/
def fail (id : String) (source : EvmReceiveSwapState) (reason : String) : Prog Unit :=
  transition id source .stuck [.failureReason reason]

/-- Write columns without moving the row. -/
def patch (columns : List EvmReceiveColumn) : Prog Unit := issue (.patch columns)

/-! ## Observing -/

/-- What became of the recorded claim; an unreadable receipt is pending. -/
def claimOutcome (row : EvmReceiveSwapRow) : Prog EvmTransactionOutcome :=
  match row.evmClaimTxid with
  | none => return .pending
  | some txid => orElse (do Program.ofExcept (← issue (.transactionOutcome txid))) .pending

/-- The preimage on the row, or the one the client's claim of a funded lockup reveals. -/
def readPreimage (row : EvmReceiveSwapRow) (funded : Bool) : Prog (Option String) :=
  match row.preimage with
  | some preimage => return some preimage
  | none => if funded then ask .arkadePreimage else return none

/-- Everything the planner needs, gathered before any decision. -/
def observe (row : EvmReceiveSwapRow) : Prog EvmReceiveObservation := do
  let present ← ask .isLocked
  let funded ← ask .arkadeLockupFunded
  let height ← ask .blockHeight
  let clock ← ask .timelockHeight
  let outcome ← claimOutcome row
  let preimage ← readPreimage row funded
  let depth ← provenDepth (fun probe => ask (.isLockedAt probe))
    (fun probe => ask (.blockTimestampAt probe)) present height row.minConfirmations
    (← issue .now)
  return ⟨present, depth.confirmations, depth.ageSeconds, funded, outcome, preimage, ← issue .now,
    clock⟩

/-- Observing reads and nothing else. -/
theorem idle_observe_of {D : Discipline EvmReceiveOp.Ans} (hr : ∀ question, D.Idle (ask question))
    (ho : ∀ txid, D.Idle (issue (.transactionOutcome txid))) (hn : D.Idle (issue .now))
    (row : EvmReceiveSwapRow) : D.Idle (observe row) := by
  have houtcome : D.Idle (claimOutcome row) := by
    unfold claimOutcome
    split
    · trivial
    · exact idle_orElse ((ho _).bind Discipline.idle_ofExcept) _
  have hpreimage : ∀ funded, D.Idle (readPreimage row funded) := fun funded => by
    unfold readPreimage
    split
    · trivial
    · split
      · exact hr _
      · trivial
  refine (hr _).bind fun present => (hr _).bind fun funded => (hr _).bind fun height =>
    (hr _).bind fun clock => houtcome.bind fun outcome => (hpreimage funded).bind fun preimage =>
    hn.bind fun now => (idle_provenDepth (fun _ => hr _) (fun _ => hr _) _ _ _ _).bind fun depth =>
    hn.bind fun now => ?_
  trivial

/-! ## Stepping -/

/-- Commit the solver's sats, unless the client's timeout has come too close since. -/
def fundArkade (row : EvmReceiveSwapRow) : Prog Bool := do
  if evmReceiveFundWindowClosed (← ask .timelockHeight) row.evmTimeout then
    transition row.id row.state .refused [.failureReason EVM_RECEIVE_FUND_WINDOW_REFUSAL]
    return false
  transition row.id row.state .fundingArkade []
  let current ← issue .get
  let txid ← Program.ofExcept (← issue (.fund current.lockupAddress current.payoutSats))
  patch [.fundArkTxid txid]
  return true

/-- Claim the client's ERC20; the preimage is persisted first and the txid last. -/
def claimEvm (row : EvmReceiveSwapRow) (preimage : String) : Prog Bool := do
  if row.state ≠ .claiming then
    transition row.id row.state .claiming [.preimage preimage]
  let _ ← issue .get
  let txid ← Program.ofExcept (← issue (.broadcastClaim preimage))
  patch [.evmClaimTxid txid]
  return false

/-- Take the solver's own sats back. -/
def refundArkade (row : EvmReceiveSwapRow) : Prog Bool := do
  if row.state ≠ .refundingArkade then transition row.id row.state .refundingArkade []
  let current ← issue .get
  if (← ask .findLockups) = 0 then
    throw (.error ("no spendable output at the lockup for " ++ current.id ++
      " - nothing to refund"))
  let txid ← Program.ofExcept (← issue .refundArkade)
  transition row.id .refundingArkade .refunded [.refundArkTxid txid]
  return false

/-- One step; true when the row may be tried again. -/
def step (row : EvmReceiveSwapRow) : Prog Bool := do
  match planEvmReceive row.plan (← observe row) with
  | .wait => return false
  | .refuse reason =>
    transition row.id row.state .refused [.failureReason reason]
    return false
  | .stick reason =>
    fail row.id row.state reason
    return false
  | .fundArkade => fundArkade row
  | .awaitClaim =>
    transition row.id row.state .awaitingClaim []
    return true
  | .claimEvm preimage => claimEvm row preimage
  | .recordClaim =>
    transition row.id .claiming .claimed []
    return false
  | .refundArkade => refundArkade row

/-- Step the row until it stops advancing, at most this many times. -/
def tick : ℕ → Prog Unit
  | 0 => return ()
  | rounds + 1 => do
    if ← step (← issue .get) then tick rounds

/-! ## The world of one row -/

/-- A claim the solver broadcast. -/
structure ClaimTx where
  txid : String
  outcome : EvmTransactionOutcome
  deriving DecidableEq

/-- The shared world of one row. -/
structure EvmReceiveWorld where
  /-- Unix seconds. -/
  clock : ℕ
  row : EvmReceiveSwapRow
  /-- Who won the funding, submitted it or refused the row; latest first. -/
  deeds : List (ℕ × Deed)
  /-- Every claim the solver has broadcast for the row. -/
  claims : List ClaimTx

/-- How a broadcast or a funding ends. -/
inductive SubmitReply where
  | sent (txid : String)
  /-- Submitted, but the caller only sees an error. -/
  | lost (txid message : String)
  | failed (message : String)

/-- What the outside answers; an action reads the field it asks for. -/
structure EvmReceiveReply where
  isLocked : Except EvmFault Bool := .ok false
  isLockedAt : Except EvmFault Bool := .ok false
  blockTimestampAt : Except EvmFault ℤ := .ok 0
  arkadeLockupFunded : Except EvmFault Bool := .ok false
  arkadePreimage : Except EvmFault (Option String) := .ok none
  blockHeight : Except EvmFault ℤ := .ok 0
  timelockHeight : Except EvmFault ℤ := .ok 0
  findLockups : Except EvmFault ℕ := .ok 0
  outcome : Except EvmFault EvmTransactionOutcome := .ok .pending
  submit : SubmitReply := .failed ""
  refund : Except EvmFault String := .error (.error "")

/-- The answer to a question. -/
def EvmReceiveReply.answer (reply : EvmReceiveReply) :
    (question : EvmReceiveQuestion) → Except EvmFault question.Answer
  | .isLocked => reply.isLocked
  | .isLockedAt _ => reply.isLockedAt
  | .blockTimestampAt _ => reply.blockTimestampAt
  | .arkadeLockupFunded => reply.arkadeLockupFunded
  | .arkadePreimage => reply.arkadePreimage
  | .blockHeight => reply.blockHeight
  | .timelockHeight => reply.timelockHeight
  | .findLockups => reply.findLockups

/-- A receipt says no more than what was mined. -/
def truthful (claims : List ClaimTx) (txid : String) :
    Except EvmFault EvmTransactionOutcome → Bool
  | .ok .success => decide (⟨txid, .success⟩ ∈ claims)
  | .ok .reverted => decide (⟨txid, .reverted⟩ ∈ claims)
  | _ => true

/-- A txid no claim carries yet. -/
def unused (claims : List ClaimTx) (txid : String) : Bool :=
  claims.all fun claim => decide (claim.txid ≠ txid)

/-- The deed of moving a row into this state. -/
def deedOf (worker : ℕ) : EvmReceiveSwapState → List (ℕ × Deed)
  | .fundingArkade => [(worker, .won)]
  | .refused => [(worker, .refused)]
  | _ => []

/-- Effect of a claim broadcast. -/
def performClaim (reply : SubmitReply) (world : EvmReceiveWorld) :
    Option (Except EvmFault String × EvmReceiveWorld) :=
  match reply with
  | .sent txid =>
    if unused world.claims txid then
      some (.ok txid, { world with claims := ⟨txid, .pending⟩ :: world.claims })
    else none
  | .lost txid message =>
    if unused world.claims txid then
      some (.error (.error message), { world with claims := ⟨txid, .pending⟩ :: world.claims })
    else none
  | .failed message => some (.error (.error message), world)

/-- Effect of a funding. -/
def performFund (worker : ℕ) (reply : SubmitReply) (world : EvmReceiveWorld) :
    Except EvmFault String × EvmReceiveWorld :=
  match reply with
  | .sent txid => (.ok txid, { world with deeds := (worker, .committed) :: world.deeds })
  | .lost _ message =>
    (.error (.error message), { world with deeds := (worker, .committed) :: world.deeds })
  | .failed message => (.error (.error message), world)

/-- Effect of one action. -/
def perform (worker : ℕ) : (op : EvmReceiveOp) → EvmReceiveReply → EvmReceiveWorld →
    Option (op.Ans × EvmReceiveWorld)
  | .get, _, world => some (world.row, world)
  | .update source target columns, _, world =>
    match updateWhere evmReceiveShape world.clock source target columns world.row with
    | some row =>
      some (true, { world with row := row, deeds := deedOf worker target ++ world.deeds })
    | none => some (false, world)
  | .patch columns, _, world =>
    some ((), { world with row := patchRow evmReceiveShape world.clock columns world.row })
  | .now, _, world => some ((world.clock : ℤ), world)
  | .read question, reply, world => some (reply.answer question, world)
  | .transactionOutcome txid, reply, world =>
    if truthful world.claims txid reply.outcome then some (reply.outcome, world) else none
  | .broadcastClaim _, reply, world => performClaim reply.submit world
  | .fund _ _, reply, world => some (performFund worker reply.submit world)
  | .refundArkade, reply, world => some (reply.refund, world)

/-- What happens without a worker. -/
inductive EvmReceiveMove where
  /-- Time passes. -/
  | wait (seconds : ℕ)
  /-- A pending claim is mined. -/
  | mine (txid : String) (success : Bool)

/-- Write the outcome of one pending claim. -/
def settle (txid : String) (success : Bool) (claim : ClaimTx) : ClaimTx :=
  if claim.txid = txid ∧ claim.outcome = .pending then
    ⟨txid, if success then .success else .reverted⟩
  else claim

/-- Effect of one environment move; a claim succeeds only while none has. -/
def stir : EvmReceiveMove → EvmReceiveWorld → Option EvmReceiveWorld
  | .wait seconds, world => some { world with clock := world.clock + seconds }
  | .mine txid success, world =>
    if success = true ∧ ∃ claim ∈ world.claims, claim.outcome = .success then none
    else some { world with claims := world.claims.map (settle txid success) }

/-- Workers on one EVM receive row; a job is a tick of so many rounds. -/
def evmReceiveMachine : Machine where
  Op := EvmReceiveOp
  Ans := EvmReceiveOp.Ans
  Err := EvmFault
  World := EvmReceiveWorld
  Reply := EvmReceiveReply
  Move := EvmReceiveMove
  Job := ℕ
  perform := perform
  stir := stir
  program rounds := tick rounds

/-- The world right after the quote was inserted. -/
def quoted (row : EvmReceiveSwapRow) (clock : ℕ) : EvmReceiveWorld :=
  let fresh := { row with
    state := .quoted
    evmClaimTxid := none
    preimage := none
    failureReason := none }
  ⟨clock, fresh, [], []⟩

end IntentSolver.EvmReceive
