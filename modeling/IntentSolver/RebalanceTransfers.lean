import IntentSolver.KeyedRows
import IntentSolver.RefillPolicy
import IntentSolver.RollingBudget
import IntentSolver.WorkerProgram

/-!
# Rebalance transfers and the store that keeps them

One row per transfer. What a transfer is, its terms, is fixed when it is quoted; how far it got
is rewritten in place, by a statement that guards the move. One unique index keeps a second
transfer from being undecided, and the debit of a row is charged to the day it left. Beside the
rows stand the pins on the source's inputs, which belong to a process and die with it.
-/

namespace IntentSolver.RebalanceTransfers

open Admission KeyedRows RefillPolicy RollingBudget WorkerProgram

/-! ## Transfers -/

/-- How a destination takes a deposit. -/
inductive DepositKind where
  | onchain
  | lightning
  deriving DecidableEq

/-- What the destination asks for. -/
structure RebalanceDeposit where
  kind : DepositKind
  destination : String
  amountSats : ℤ
  netSats : ℤ
  feeSats : ℤ
  expiresAt : Option ℤ
  deriving DecidableEq

/-- The states of a transfer. -/
inductive RebalanceState where
  | quoted
  | submitting
  | pending
  | needsReconciliation
  | completed
  | refunded
  | failed
  | cancelled
  deriving DecidableEq

namespace RebalanceState

/-- `ACTIVE`: the outcome is still open. -/
def isActive : RebalanceState → Bool
  | submitting => true
  | pending => true
  | needsReconciliation => true
  | _ => false

/-- States of the unique index: whether the payment left is not known. -/
def isCritical : RebalanceState → Bool
  | submitting => true
  | needsReconciliation => true
  | _ => false

/-- Nothing leads out of these. -/
def isTerminal : RebalanceState → Bool
  | completed => true
  | refunded => true
  | failed => true
  | cancelled => true
  | _ => false

/-- The payment left and its outcome is known. -/
def isEnded : RebalanceState → Bool
  | completed => true
  | refunded => true
  | _ => false

end RebalanceState

/-- Who asked for a transfer. -/
inductive Origin where
  | manual
  | automatic
  deriving DecidableEq

/-- A coin the transfer is paid from. -/
structure TransferInput where
  txid : String
  vout : ℕ
  value : ℤ
  deriving DecidableEq

/-- What is fixed when a transfer is quoted. -/
structure TransferTerms where
  id : String
  requestKey : String
  origin : Origin
  poolId : String
  netSats : ℤ
  debitSats : ℤ
  feeSats : ℤ
  policyRevision : String
  receivingFeeAllowanceSats : Option ℤ
  createdAt : ℤ
  expiresAt : ℤ
  deposit : RebalanceDeposit
  inputs : List TransferInput
  overridePendingIds : Option (List String)
  deriving DecidableEq

/-- A row: the terms, and how far the transfer got. -/
structure RebalanceTransfer where
  terms : TransferTerms
  state : RebalanceState
  updatedAt : ℤ
  chargedAt : Option ℤ
  fundingTxid : Option String
  sourceInputsClearedAt : Option ℤ
  error : Option String
  creditedSats : Option ℤ
  deriving DecidableEq

namespace RebalanceTransfer

abbrev id (row : RebalanceTransfer) : String := row.terms.id

/-- The payment left, or may have. -/
def Started (row : RebalanceTransfer) : Prop :=
  row.state.isActive = true ∨ row.state.isEnded = true

/-- The inputs of the source are still the transfer's. -/
def NeedsPin (row : RebalanceTransfer) : Prop :=
  row.Started ∧ row.sourceInputsClearedAt = none

instance (row : RebalanceTransfer) : Decidable row.Started := inferInstanceAs (Decidable (_ ∨ _))

end RebalanceTransfer

/-! ## What the store writes -/

/-- The numbers of a row, in the order they are checked. -/
def storedNumbers (row : RebalanceTransfer) : List (ℤ × String) :=
  [(row.terms.createdAt, "createdAt")] ++ row.chargedAt.toList.map (·, "chargedAt") ++
    [(row.terms.debitSats, "debitSats"), (row.terms.netSats, "netSats"),
      (row.terms.feeSats, "feeSats")] ++
    row.terms.receivingFeeAllowanceSats.toList.map (·, "receivingFeeAllowanceSats") ++
    row.creditedSats.toList.map (·, "creditedSats") ++
    row.sourceInputsClearedAt.toList.map (·, "sourceInputsClearedAt") ++
    [(row.terms.deposit.amountSats, "deposit.amountSats"),
      (row.terms.deposit.netSats, "deposit.netSats"),
      (row.terms.deposit.feeSats, "deposit.feeSats")] ++
    row.terms.inputs.map fun input => (input.value, "input.value")

/-- The parameters of a write: every number must be one the store can keep. -/
def params (row : RebalanceTransfer) : Except String Unit :=
  match (storedNumbers row).find? fun number => !isNonnegative number.1 with
  | some number => .error (integerFault number.2)
  | none => .ok ()

/-- The condition of the UPDATE, beside the identity of the row. -/
def savable (row stored : RebalanceTransfer) : Bool :=
  decide (stored.terms.requestKey = row.terms.requestKey ∧
    (stored.state.isActive = false ∨
      (row.state ≠ .quoted ∧ row.state ≠ .cancelled ∧ row.state ≠ .failed)) ∧
    (stored.state.isTerminal = false ∨ stored.state = row.state) ∧
    (stored.chargedAt = none ∨
      (stored.chargedAt = row.chargedAt ∧ stored.terms.debitSats = row.terms.debitSats)))

/-- The rows of the unique index. -/
def critical (rows : List RebalanceTransfer) : ℕ := rows.countP fun row => row.state.isCritical

/-- The transfers whose outcome is open. -/
def active (rows : List RebalanceTransfer) : ℕ := rows.countP fun row => row.state.isActive

/-- The table after an UPDATE. -/
def saved (row : RebalanceTransfer) (rows : List RebalanceTransfer) : List RebalanceTransfer :=
  update RebalanceTransfer.id (savable row) row rows

/-- The fault of an UPDATE that changed nothing. -/
def saveRefused : String :=
  "rebalance transfer missing, request key changed, or unsafe state/charge transition"

/-- The row an UPDATE replaces; none when the statement fails. -/
def RebalanceStore.save (row : RebalanceTransfer) (rows : List RebalanceTransfer) :
    Except String RebalanceTransfer := do
  params row
  match rows.find? fun stored => decide (stored.id = row.id) && savable row stored with
  | none => .error saveRefused
  | some stored =>
    if 1 < critical (saved row rows) then
      .error "UNIQUE constraint failed: index 'idx_rebalance_critical_source'"
    else .ok stored

/-- The INSERT of a new row. -/
def RebalanceStore.create (row : RebalanceTransfer) (rows : List RebalanceTransfer) :
    Except String Unit := do
  params row
  if rows.any fun stored => decide (stored.id = row.id) then
    .error "UNIQUE constraint failed: rebalance_transfer.id"
  else if rows.any fun stored => decide (stored.terms.requestKey = row.terms.requestKey) then
    .error "UNIQUE constraint failed: rebalance_transfer.request_key"
  else .ok ()

/-- One rolling day. -/
def ROLLING_SECONDS : ℤ := 86400

/-- A row that counts in the rolling debit of this moment. -/
def inRollingDebit (now : ℤ) (row : RebalanceTransfer) : Bool :=
  match row.chargedAt with
  | none => false
  | some time => decide (now - ROLLING_SECONDS < time ∧ time ≤ now ∧ row.state ≠ .failed ∧
      row.state ≠ .cancelled)

/-- What a query of the store asks. -/
inductive StoreRead where
  | get (id : String)
  | byKey (key : String)
  | active
  | protectedTerminalInputs
  | rollingDebit (now : ℤ)
  | lastAttempt

/-- What it answers. -/
abbrev StoreRead.Answer : StoreRead → Type
  | get _ => Option RebalanceTransfer
  | byKey _ => Option RebalanceTransfer
  | active => List RebalanceTransfer
  | protectedTerminalInputs => List RebalanceTransfer
  | rollingDebit _ => ℤ
  | lastAttempt => ℤ

/-- The rows as a query reads them, beside the clock of the attempts. -/
def StoreRead.result (rows : List RebalanceTransfer) (lastAttempt : ℤ) :
    (query : StoreRead) → Except String query.Answer
  | .get id => .ok (rows.find? fun row => decide (row.id = id))
  | .byKey key => .ok (rows.find? fun row => decide (row.terms.requestKey = key))
  | .active => .ok (rows.filter fun row => row.state.isActive)
  | .protectedTerminalInputs => .ok (rows.filter fun row =>
      row.chargedAt.isSome && row.state.isEnded && row.sourceInputsClearedAt.isNone)
  | .rollingDebit now =>
    let total := ((rows.filter (inRollingDebit now)).map fun row => row.terms.debitSats).sum
    if isNonnegative now = false then .error (integerFault "now")
    else if isNonnegative total = false then .error (integerFault "rolling debit")
    else .ok total
  | .lastAttempt =>
    let latest := rows.foldl (fun most row => max most (row.chargedAt.getD 0)) lastAttempt
    if isNonnegative latest = false then .error (integerFault "last attempt") else .ok latest

/-! ## What the service issues -/

/-- A destination of the backend. -/
structure RebalancePool where
  id : String
  kinds : List DepositKind

/-- What became of a deposit. -/
inductive RebalanceReceipt where
  | pending
  | credited (netSats : Option ℤ)
  | failed (reason : Option String)

/-- What the source would debit. -/
structure SourceQuote where
  debitSats : ℤ
  feeSats : ℤ
  inputs : List TransferInput
  expiresAt : ℤ

/-- What the source reports of a payment. -/
inductive SourceState where
  | unknown
  | submitted
  | refunded
  deriving DecidableEq

/-- What the source knows of a payment. -/
structure SourceReport where
  state : SourceState
  fundingTxid : Option String

/-- A transfer whose debit a checkpoint has or has not seen. -/
structure PendingDebit where
  id : String
  chargedAt : ℤ
  debitObserved : Bool
  observedDebitSats : ℤ

/-- Attribution that waits for transfers to resolve. -/
structure AttributionDeferred where
  transferIds : List String
  overrideId : Option String

/-- What of a checkpoint concerns rebalancing. -/
structure CheckpointRebalance where
  accountingVersion : Option ℕ
  pending : List PendingDebit
  attributionDeferred : Option AttributionDeferred
  delayedBtcWarningIds : List ℤ

/-- The balances as they were last read together. -/
structure BalanceCheckpoint where
  startedAt : ℤ
  finishedAt : ℤ
  totalSats : Option String
  /-- The assets that went down. -/
  decreases : List String
  rebalance : Option CheckpointRebalance

/-- A question to the outside, which may fail. -/
inductive RebalanceQuestion where
  | pools
  | prepare (poolId : String) (kind : DepositKind) (netSats maxFeeSats : ℤ)
  | receipt (poolId : String) (deposit : RebalanceDeposit) (fundingTxid : Option String)
  | maintain
  | overlapCheckpoint
  | quote (deposit : RebalanceDeposit) (policy : RebalancePolicy) (origin : Origin)
  | inputsAbsent (rows : List RebalanceTransfer)
  | reconcile (row : RebalanceTransfer)
  | savePolicy (policy : RebalancePolicy)
  | randomUUID

/-- What each question is answered with. -/
abbrev RebalanceQuestion.Answer : RebalanceQuestion → Type
  | pools => List RebalancePool
  | prepare _ _ _ _ => RebalanceDeposit
  | receipt _ _ _ => RebalanceReceipt
  | maintain => Unit
  | overlapCheckpoint => Option BalanceCheckpoint
  | quote _ _ _ => SourceQuote
  | inputsAbsent _ => List String
  | reconcile _ => SourceReport
  | savePolicy _ => Unit
  | randomUUID => String

/-- One action of the service. -/
inductive RebalanceOp where
  | ask (question : RebalanceQuestion)
  | read (query : StoreRead)
  | create (row : RebalanceTransfer)
  | save (row : RebalanceTransfer)
  | recordAttempt (time : ℤ)
  | readBalance (poolId : String)
  | now
  | policy
  | setPolicy (policy : RebalancePolicy)
  | stopped
  | holdsHas (id : String)
  /-- Pin the inputs a new transfer is paid from. -/
  | reserve (row : RebalanceTransfer) (policy : RebalancePolicy) (restoring : Bool)
  /-- Keep the reservation just made among the holds. -/
  | keep (id : String)
  /-- Give the reservation just made back. -/
  | letGo (id : String)
  /-- Pin the inputs of a payment that left, in place of what was held before. -/
  | holdPending (row : RebalanceTransfer)
  | release (id : String)
  | submit (row : RebalanceTransfer)
  | terminalPins
  | setTerminalPin (row : RebalanceTransfer)
  | deleteTerminalPin (id : String)

/-- What it answers. -/
abbrev RebalanceOp.Ans : RebalanceOp → Type
  | ask question => Except String question.Answer
  | read query => Except String query.Answer
  | create _ => Except String Unit
  | save _ => Except String Unit
  | recordAttempt _ => Except String Unit
  | readBalance _ => Except String ℤ
  | now => ℤ
  | policy => RebalancePolicy
  | setPolicy _ => Unit
  | stopped => Bool
  | holdsHas _ => Bool
  | reserve _ _ _ => Except String Unit
  | keep _ => Unit
  | letGo _ => Unit
  | holdPending _ => Except String Unit
  | release _ => Unit
  | submit _ => Except String String
  | terminalPins => List RebalanceTransfer
  | setTerminalPin _ => Unit
  | deleteTerminalPin _ => Unit

/-- Code of the service. -/
abbrev Rebalancing (α : Type) : Type := Program RebalanceOp.Ans String α

/-- One action. -/
def issue (op : RebalanceOp) : Rebalancing op.Ans := Program.issue op

/-! ## The world -/

/-- A transfer as it was quoted: the policy in force and the balance its pool was last read to
have. -/
structure Birth where
  terms : TransferTerms
  policy : RebalancePolicy
  reading : Option ℤ

/-- An automatic attempt. -/
structure Attempt where
  time : ℤ
  policy : RebalancePolicy

/-- What was done, latest first. -/
structure RebalanceHistory where
  /-- Every policy that was put in force. -/
  policies : List RebalancePolicy
  /-- The transfers the source was told to pay. -/
  submissions : List String
  charges : List Charge
  births : List Birth
  attempts : List Attempt

/-- The tables, the memory of the process, the pins at the source and the clock. -/
structure RebalanceWorld where
  rows : List RebalanceTransfer
  /-- `rebalance_clock`. -/
  lastAttempt : ℤ
  policy : RebalancePolicy
  stopped : Bool
  holds : String → Bool
  terminalPins : List RebalanceTransfer
  /-- Pins on the inputs of each transfer. -/
  pins : String → ℕ
  /-- The balance of each pool as it was last read. -/
  readings : String → Option ℤ
  clock : ℤ
  history : RebalanceHistory

/-- What the outside decides when an action runs. -/
structure RebalanceReply where
  /-- The store, a pool or the source fails, and nothing was done. -/
  fault : Option String
  answer : (question : RebalanceQuestion) → Except String question.Answer
  balance : ℤ
  submitted : Except String String

/-- What happens on its own. -/
inductive RebalanceMove where
  | wait (seconds : ℤ)
  /-- `close` stops the service. -/
  | stop

/-- The charge a row makes when it is rewritten: none if it was made before. -/
def chargeOf (policy : RebalancePolicy) (stored row : RebalanceTransfer) : List Charge :=
  match stored.chargedAt, row.chargedAt with
  | none, some time =>
    [⟨row.terms.debitSats, time,
      if row.terms.origin = .automatic then some policy.dailyDebitSats else none⟩]
  | _, _ => []

/-- A function with one value set. -/
abbrev put {α : Type} (f : String → α) (id : String) (value : α) : String → α :=
  Function.update f id value

/-- Effect of one action. -/
def perform (op : RebalanceOp) (reply : RebalanceReply) (world : RebalanceWorld) :
    Option (op.Ans × RebalanceWorld) :=
  match op with
  | .ask question => some (reply.answer question, world)
  | .read query =>
    match reply.fault with
    | some fault => some (.error fault, world)
    | none => some (query.result world.rows world.lastAttempt, world)
  | .create row =>
    match reply.fault, RebalanceStore.create row world.rows with
    | some fault, _ => some (.error fault, world)
    | none, .error fault => some (.error fault, world)
    | none, .ok () => some (.ok (), { world with
        rows := row :: world.rows
        history := { world.history with
          births := ⟨row.terms, world.policy, world.readings row.terms.poolId⟩ ::
            world.history.births } })
  | .save row =>
    match reply.fault, RebalanceStore.save row world.rows with
    | some fault, _ => some (.error fault, world)
    | none, .error fault => some (.error fault, world)
    | none, .ok stored => some (.ok (), { world with
        rows := saved row world.rows
        history := { world.history with
          charges := chargeOf world.policy stored row ++ world.history.charges } })
  | .recordAttempt time =>
    match reply.fault with
    | some fault => some (.error fault, world)
    | none =>
      if isNonnegative time = false then some (.error (integerFault "attempt time"), world)
      else some (.ok (), { world with
        lastAttempt := max world.lastAttempt time
        history := { world.history with
          attempts := ⟨time, world.policy⟩ :: world.history.attempts } })
  | .readBalance poolId =>
    match reply.fault with
    | some fault => some (.error fault, { world with readings := put world.readings poolId none })
    | none => some (.ok reply.balance,
        { world with readings := put world.readings poolId (some reply.balance) })
  | .now => some (world.clock, world)
  | .policy => some (world.policy, world)
  | .setPolicy policy => some ((), { world with
      policy := policy
      history := { world.history with policies := policy :: world.history.policies } })
  | .stopped => some (world.stopped, world)
  | .holdsHas id => some (world.holds id, world)
  | .reserve row _ _ =>
    match reply.fault with
    | some fault => some (.error fault, world)
    | none => some (.ok (),
        { world with pins := put world.pins row.id (world.pins row.id + 1) })
  | .keep id => some ((), { world with holds := put world.holds id true })
  | .letGo id => some ((), { world with pins := put world.pins id (world.pins id - 1) })
  | .holdPending row =>
    match reply.fault with
    | some fault => some (.error fault, world)
    | none => some (.ok (), { world with
        pins := put world.pins row.id
          (world.pins row.id + 1 - if world.holds row.id then 1 else 0)
        holds := put world.holds row.id true })
  | .release id => some ((), { world with
      pins := put world.pins id (world.pins id - if world.holds id then 1 else 0)
      holds := put world.holds id false })
  | .submit row => some (reply.submitted, { world with
      history := { world.history with submissions := row.id :: world.history.submissions } })
  | .terminalPins => some (world.terminalPins, world)
  | .setTerminalPin row => some ((), { world with
      terminalPins := if world.terminalPins.any fun pinned => decide (pinned.id = row.id) then
          world.terminalPins.map fun pinned => if pinned.id = row.id then row else pinned
        else world.terminalPins ++ [row] })
  | .deleteTerminalPin id => some ((), { world with
      terminalPins := world.terminalPins.filter fun pinned => decide (pinned.id ≠ id) })

/-- Effect of one move; a steady clock never goes back. -/
def stir (steady : Bool) (move : RebalanceMove) (world : RebalanceWorld) :
    Option RebalanceWorld :=
  match move with
  | .wait seconds =>
    if steady = true ∧ seconds < 0 then none
    else some { world with clock := world.clock + seconds }
  | .stop => some { world with stopped := true }

/-- What is left when the process dies: the tables, the clock and what was done. -/
def wipe (world : RebalanceWorld) : RebalanceWorld :=
  { world with
    stopped := false
    holds := fun _ => false
    terminalPins := []
    pins := fun _ => 0
    readings := fun _ => none }

end IntentSolver.RebalanceTransfers
