import IntentSolver.RebalanceTransfers
import IntentSolver.SerialService

/-!
# The rebalancing service

A transfer is quoted, sent, and followed until its deposit is credited or its source gave the
money back. Jobs run one at a time. A row is marked before its payment is submitted, so a
process that dies in between leaves a row that is never submitted again, only reconciled; the
payment of a second transfer needs the explicit override of exactly one that is pending. A
tick follows the transfers that are open and, where the policy says so, refills a pool that
is below its trigger, out of what the rolling day still allows.
-/

namespace IntentSolver.RebalanceService

open Admission EvmClaimAnswers RebalanceTransfers RefillPolicy WorkerProgram

/-- A question or an action that may fail: its error is thrown. -/
def orThrow {α : Type} (result : Except String α) : Rebalancing α := Program.ofExcept result

/-- Ask the outside. -/
def ask (question : RebalanceQuestion) : Rebalancing question.Answer :=
  (issue (.ask question)).bind orThrow

/-- Query the store. -/
def read (query : StoreRead) : Rebalancing query.Answer := (issue (.read query)).bind orThrow

/-- Write a row. -/
def saveRow (row : RebalanceTransfer) : Rebalancing Unit := (issue (.save row)).bind orThrow

/-- What the service is deployed with. -/
structure RebalanceDeps where
  /-- The hash that names a policy. -/
  revision : RebalancePolicy → String
  /-- The backend has maintenance to do. -/
  maintains : Bool
  parseUrl : String → Except String RelayUrl

/-- A text that JavaScript takes for true. -/
def truthy : Option String → Option String
  | some text => if text = "" then none else some text
  | none => none

/-- `/^[0-9a-f]{64}$/i`. -/
def isTxid (text : String) : Bool := isHex 64 text

/-- Length in UTF-16 code units. -/
def textLength (text : String) : ℕ :=
  (text.toList.map fun char => if char.toNat < 0x10000 then 1 else 2).sum

def isPositiveSats (value : ℤ) : Bool := isSafeInteger value && decide (0 < value)

/-- The backend's pools. -/
def pools : Rebalancing (List RebalancePool) := do
  let found ← ask .pools
  if (found.map RebalancePool.id).Nodup then return found
  else throw "duplicate rebalance pool identity"

/-! ## Admission of one more transfer -/

/-- A list of overridden transfers that names exactly one. -/
def namesOne : List String → Bool
  | [id] => decide (id ≠ "") && decide (textLength id ≤ 128)
  | _ => false

/-- The checkpoint saw the debit of the transfer that is overridden, and nothing else moved. -/
def rebalanceOverlapReady (checkpoint : BalanceCheckpoint) (pendingIds : List String) : Bool :=
  match checkpoint.rebalance, pendingIds with
  | some rebalance, [id] =>
    let deferred := match rebalance.attributionDeferred with
      | none => false
      | some deferred => (truthy deferred.overrideId).isSome || decide (deferred.transferIds ≠ [id])
    if checkpoint.totalSats = none ∨ rebalance.accountingVersion ≠ some 2 ∨ deferred = true ∨
        rebalance.delayedBtcWarningIds ≠ [] ∨ "BTC" ∈ checkpoint.decreases then false
    else
      -- A map from identity: of rows with one identity the last stands.
      match rebalance.pending.reverse.find? fun row => decide (row.id = id) with
      | none => false
      | some row => row.debitObserved && decide (0 < row.observedDebitSats) &&
          decide (row.chargedAt ≤ checkpoint.startedAt)
  | _, _ => false

/-- Attribution still waits for a transfer to resolve. -/
def attributionDeferred (checkpoint : Option BalanceCheckpoint) : Bool :=
  ((checkpoint.bind BalanceCheckpoint.rebalance).bind
    CheckpointRebalance.attributionDeferred).isSome

/-- Age a checkpoint may have to admit an override. -/
def OVERLAP_FRESH_SECONDS : ℤ := 180

/-- The transfer that is open is the one overridden, and it is plainly pending. -/
def overridable (prior : RebalanceTransfer) (others : List RebalanceTransfer) (held : Bool)
    (overridePendingIds : List String) : Bool :=
  decide (others = []) && decide (overridePendingIds.head? = some prior.id) &&
    decide (prior.state = .pending) && held && prior.fundingTxid.any isTxid

/-- The refusal of an override whose first transfer no checkpoint has seen. -/
def checkpointWanted : String :=
  "Wait for a fresh balance checkpoint to observe the first transfer before overriding it."

/-- Whether one more transfer may start. -/
def checkAdmission (origin : Origin) (overridePendingIds : Option (List String)) :
    Rebalancing Unit := do
  if overridePendingIds.any fun ids => !namesOne ids then
    throw "Select exactly one pending transfer to override."
  else
    let checkpoint ← ask .overlapCheckpoint
    if attributionDeferred checkpoint = true ∧
        (origin ≠ .manual ∨ overridePendingIds = none) then
      throw ("Balance attribution is still catching up after an overlapping transfer. " ++
        "Wait for a fresh checkpoint.")
    else
      let open_ ← read .active
      match open_, overridePendingIds with
      | [], none => return ()
      | [], some _ =>
        throw "The transfer being overridden has changed. Review a fresh quote."
      | prior :: others, some ids =>
        if origin ≠ .manual then
          throw ("Another transfer is still in progress. Check its status or explicitly review " ++
            "one more transfer.")
        else
          let held ← issue (.holdsHas prior.id)
          if overridable prior others held ids then
            let now ← issue .now
            match checkpoint with
            | some seen =>
              if seen.finishedAt < now - OVERLAP_FRESH_SECONDS ∨
                  rebalanceOverlapReady seen ids = false then throw checkpointWanted
              else return ()
            | none => throw checkpointWanted
          else
            throw ("The pending transfer changed or needs reconciliation. Review its status " ++
              "before trying again.")
      | _ :: _, none =>
        throw ("Another transfer is still in progress. Check its status or explicitly review " ++
          "one more transfer.")

/-! ## Quoting -/

/-- What a quote is asked for. -/
structure QuoteParams where
  poolId : String
  amountSats : ℤ
  requestKey : String
  kind : Option DepositKind
  receivingFeeAllowanceSats : Option ℤ
  overridePendingIds : Option (List String)

/-- The allowance of a manual transfer; an automatic one has the policy's. -/
def receivingAllowance (params : QuoteParams) : Origin → Option ℤ
  | .manual => some (params.receivingFeeAllowanceSats.getD 1000)
  | .automatic => none

/-- A row under the same key that was asked for differently. -/
def differsFrom (params : QuoteParams) (allowance : Option ℤ) (existing : RebalanceTransfer) :
    Bool :=
  decide (existing.terms.poolId ≠ params.poolId ∨ existing.terms.netSats ≠ params.amountSats) ||
    (existing.terms.receivingFeeAllowanceSats.isSome &&
      decide (existing.terms.receivingFeeAllowanceSats ≠ allowance)) ||
    allowance.any (fun allowed => decide (allowed < existing.terms.deposit.feeSats)) ||
    params.kind.any (fun kind => decide (existing.terms.deposit.kind ≠ kind)) ||
    decide (existing.terms.overridePendingIds.getD [] ≠ params.overridePendingIds.getD [])

/-- What the fees may come to. -/
def totalAllowance (policy : RebalancePolicy) (amountSats : ℤ) (allowance : Option ℤ) : ℤ :=
  allowance.getD (min policy.maxFeeSats (amountSats * policy.maxFeeBps / 10000))

/-- The destination's quote, checked. -/
def prepare (poolId : String) (kind : DepositKind) (amountSats feeAllowance : ℤ) :
    Rebalancing RebalanceDeposit := do
  let deposit ← ask (.prepare poolId kind amountSats feeAllowance)
  if deposit.kind ≠ kind ∨ deposit.netSats ≠ amountSats ∨ deposit.destination = "" then
    throw "invalid destination deposit quote"
  else if isPositiveSats deposit.amountSats = false then
    throw "amount must be a positive whole safe number of sats"
  else if isNonnegative deposit.feeSats = false ∨ feeAllowance < deposit.feeSats ∨
      deposit.amountSats - deposit.netSats ≠ deposit.feeSats then
    throw "deposit fee allowance does not match quoted credit"
  else return deposit

/-- Estimates until the fees of both sides fit the allowance, so many at most. -/
def estimate (policy : RebalancePolicy) (poolId : String) (kind : DepositKind) (amountSats : ℤ)
    (origin : Origin) (total : ℤ) : ℕ → ℤ → Rebalancing (RebalanceDeposit × SourceQuote)
  | more, feeAllowance => do
    let deposit ← prepare poolId kind amountSats feeAllowance
    let source ← ask (.quote deposit policy origin)
    let sourceFee := source.debitSats - deposit.amountSats
    if isPositiveSats source.debitSats = false then
      throw "amount must be a positive whole safe number of sats"
    else if isNonnegative sourceFee = false then throw "invalid source fee estimate"
    else if origin = .manual ∨ source.debitSats - amountSats ≤ total ∨ total - sourceFee < 0 ∨
        feeAllowance ≤ total - sourceFee then
      return (deposit, source)
    else
      match more with
      | 0 => return (deposit, source)
      | more + 1 => estimate policy poolId kind amountSats origin total more (total - sourceFee)

/-- What an automatic debit must fit. -/
def checkDebit (policy : RebalancePolicy) (amountSats debitSats : ℤ) : Rebalancing Unit := do
  orThrow (checkRebalanceFees policy amountSats debitSats)
  if policy.maxDebitSats < debitSats then throw "transfer exceeds per-transfer debit limit"
  else
    let now ← issue .now
    let rolling ← read (.rollingDebit now)
    if policy.dailyDebitSats < debitSats + rolling then
      throw "transfer exceeds rolling 24-hour debit limit"
    else return ()

/-- How long a quote stands. -/
def QUOTE_SECONDS : ℤ := 60

variable (deps : RebalanceDeps)

/-- The quote of one kind of deposit. -/
def quoteKind (policy : RebalancePolicy) (params : QuoteParams) (origin : Origin)
    (allowance : Option ℤ) (kind : DepositKind) : Rebalancing RebalanceTransfer := do
  let total := totalAllowance policy params.amountSats allowance
  let (deposit, source) ←
    estimate policy params.poolId kind params.amountSats origin total 2 total
  let _ ← (if origin = .automatic then checkDebit policy params.amountSats source.debitSats
    else .ret ())
  if source.feeSats ≠ source.debitSats - params.amountSats then
    throw "source quote fee does not match debit"
  else
    let now ← issue .now
    let expiresAt := min (min (now + QUOTE_SECONDS) source.expiresAt)
      (deposit.expiresAt.getD source.expiresAt)
    if isSafeInteger expiresAt = false ∨ expiresAt ≤ now then throw "rebalance quote expired"
    else
      let id ← ask .randomUUID
      return {
        terms := {
          id := id
          requestKey := params.requestKey
          origin := origin
          poolId := params.poolId
          netSats := params.amountSats
          debitSats := source.debitSats
          feeSats := source.feeSats
          policyRevision := deps.revision policy
          receivingFeeAllowanceSats := allowance
          createdAt := now
          expiresAt := expiresAt
          deposit := deposit
          inputs := source.inputs
          overridePendingIds := params.overridePendingIds }
        state := .quoted
        updatedAt := now
        chargedAt := none
        fundingTxid := none
        sourceInputsClearedAt := none
        error := none
        creditedSats := none }

def kindName : DepositKind → String
  | .onchain => "onchain"
  | .lightning => "lightning"

/-- The quotes of the kinds asked for, and why the others gave none. -/
def quoteKinds (policy : RebalancePolicy) (params : QuoteParams) (origin : Origin)
    (allowance : Option ℤ) : List DepositKind → Rebalancing (List RebalanceTransfer × List String)
  | [] => return ([], [])
  | kind :: kinds => do
    if params.kind.any fun wanted => decide (wanted ≠ kind) then
      quoteKinds policy params origin allowance kinds
    else
      let outcome ← (quoteKind deps policy params origin allowance kind).attempt
      let (quotes, failures) ← quoteKinds policy params origin allowance kinds
      match outcome with
      | .ok quote => return (quote :: quotes, failures)
      | .error fault => return (quotes, (kindName kind ++ ": " ++ fault) :: failures)

/-- Cheaper first; lightning before on-chain at the same debit. -/
def Cheaper (a b : RebalanceTransfer) : Prop :=
  a.terms.debitSats < b.terms.debitSats ∨ (a.terms.debitSats = b.terms.debitSats ∧
    (a.terms.deposit.kind = .lightning ∨ b.terms.deposit.kind = .onchain))

instance (a b : RebalanceTransfer) : Decidable (Cheaper a b) := inferInstanceAs (Decidable (_ ∨ _))

/-- The quote of a transfer that was not asked for before. -/
def freshQuote (params : QuoteParams) (origin : Origin) (allowance : Option ℤ) :
    Rebalancing RebalanceTransfer := do
  checkAdmission origin params.overridePendingIds
  let policy ← issue .policy
  if origin = .automatic ∧ (params.amountSats < policy.minTransferSats ∨
      policy.maxDebitSats = 0 ∨ policy.dailyDebitSats = 0) then
    throw "configure debit limits and minimum transfer size before rebalancing"
  else
    let found ← pools
    match found.find? fun pool => decide (pool.id = params.poolId) with
    | none => throw "rebalance destination pool is unavailable"
    | some pool => do
      let (quotes, failures) ← quoteKinds deps policy params origin allowance pool.kinds
      match (quotes.insertionSort Cheaper).head? with
      | none =>
        throw (if failures = [] then "requested deposit route is unavailable"
          else "; ".intercalate failures)
      | some selected => do
        (issue (.create selected)).bind orThrow
        return selected

/-- A quote; the one stored under the same key, where it is the same request. -/
def makeQuote (params : QuoteParams) (origin : Origin) : Rebalancing RebalanceTransfer := do
  let stopped ← issue .stopped
  let allowance := receivingAllowance params origin
  if stopped then throw "rebalancing is stopping"
  else if isPositiveSats params.amountSats = false then
    throw "amount must be a positive whole safe number of sats"
  else if allowance.any fun allowed => !isNonnegative allowed then
    throw "receiving fee allowance must be nonnegative whole safe sats"
  else if JsNumber.trim params.requestKey.toList = [] ∨ 128 < textLength params.requestKey then
    throw "request key is required and must be at most 128 characters"
  else
    let stored ← read (.byKey params.requestKey)
    match stored with
    | some existing =>
      if differsFrom params allowance existing then
        throw "request key already belongs to a different transfer"
      else return existing
    | none => freshQuote deps params origin allowance

/-! ## Sending -/

/-- What is left of the allowance is checked again before an automatic transfer is sent. -/
def checkBudget (policy : RebalancePolicy) (terms : TransferTerms) : Rebalancing Unit := do
  orThrow (checkRebalanceFees policy terms.netSats terms.debitSats)
  let now ← issue .now
  let rolling ← read (.rollingDebit now)
  if policy.dailyDebitSats < terms.debitSats + rolling then
    throw "rolling 24-hour debit limit reached"
  else return ()

/-- Whether the payment left is not known. -/
def markUnknown (row : RebalanceTransfer) (fault : String) : Rebalancing RebalanceTransfer := do
  let now ← issue .now
  let unknown := { row with
    state := .needsReconciliation
    error := some fault
    updatedAt := now }
  saveRow unknown
  return unknown

/-- Submit the payment of a row that was marked for it. -/
def submitPayment (row : RebalanceTransfer) : Rebalancing RebalanceTransfer := do
  let answer ← issue (.submit row)
  match answer with
  | .error fault => markUnknown row fault
  | .ok txid =>
    if isTxid txid = false then
      markUnknown row
        "submission returned no valid transaction id; reconcile before retrying"
    else do
      let now ← issue .now
      let paid := { row with
        fundingTxid := some txid
        state := .pending
        updatedAt := now }
      let outcome ← ((saveRow paid).bind fun _ =>
        (issue (.holdPending paid)).bind orThrow).attempt
      match outcome with
      | .error fault => markUnknown paid fault
      | .ok () => return paid

/-- Reserve, mark the row, and submit. -/
def charge (row : RebalanceTransfer) (policy : RebalancePolicy) :
    Rebalancing RebalanceTransfer := do
  (issue (.reserve row policy false)).bind orThrow
  let chargedAt ← issue .now
  let updatedAt ← issue .now
  let marked := { row with
    state := .submitting
    chargedAt := some chargedAt
    updatedAt := updatedAt }
  let outcome ← issue (.save marked)
  match outcome with
  | .error fault => do
    issue (.letGo row.id)
    throw fault
  | .ok () => do
    issue (.keep row.id)
    submitPayment marked

/-- Send a quote. -/
def send (id : String) (overridePendingIds : Option (List String)) :
    Rebalancing RebalanceTransfer := do
  let stored ← read (.get id)
  match stored with
  | none => throw "rebalance quote not found"
  | some row =>
    if row.state ≠ .quoted then return row
    else do
      let stopped ← issue .stopped
      let now ← issue .now
      let policy ← issue .policy
      if stopped then throw "rebalancing is stopping"
      else if row.terms.expiresAt ≤ now then
        throw "rebalance quote expired; request another preview"
      else if row.terms.origin ≠ .manual ∧ row.terms.policyRevision ≠ deps.revision policy then
        throw "policy changed; request another preview"
      else if row.terms.overridePendingIds.getD [] ≠ overridePendingIds.getD [] then
        throw "The pending-transfer override changed. Review a fresh quote."
      else do
        checkAdmission row.terms.origin row.terms.overridePendingIds
        let _ ← (if row.terms.origin ≠ .manual then checkBudget policy row.terms else .ret ())
        charge row policy

/-- Cancel a quote. -/
def cancel (id : String) : Rebalancing RebalanceTransfer := do
  let stored ← read (.get id)
  match stored with
  | some row =>
    if row.state ≠ .quoted then throw "only an unsubmitted quote can be cancelled"
    else do
      let now ← issue .now
      let cancelled := { row with
        state := .cancelled
        updatedAt := now }
      saveRow cancelled
      return cancelled
  | none => throw "only an unsubmitted quote can be cancelled"

/-- Put another policy in force. -/
def setPolicy (value : Option Json) : Rebalancing Unit := do
  let next ← orThrow (validateRebalancePolicy deps.parseUrl value)
  ask (.savePolicy next)
  issue (.setPolicy next)

/-! ## Following transfers -/

/-- Clear the pins of those whose inputs the source no longer has. -/
def clearPins (absent : List String) : List RebalanceTransfer → Rebalancing Unit
  | [] => return ()
  | row :: rows => do
    let held ← issue (.holdsHas row.id)
    if held = false then throw "terminal rebalance inputs lost their source protection"
    else if row.id ∉ absent then clearPins absent rows
    else do
      let now ← issue .now
      let cleared := { row with sourceInputsClearedAt := some now }
      issue (.setTerminalPin cleared)
      let outcome ← issue (.save cleared)
      match outcome with
      | .error _ => clearPins absent rows
      | .ok () => do
        issue (.release row.id)
        issue (.deleteTerminalPin row.id)
        clearPins absent rows

/-- Give up pins on inputs that a fresh reading of the wallet proves gone. -/
def clearTerminalPins : Rebalancing Unit := do
  let pinned ← issue .terminalPins
  if pinned = [] then return ()
  else do
    let absent ← issue (.ask (.inputsAbsent pinned))
    match absent with
    | .error _ => return ()
    | .ok absent => clearPins absent pinned

/-- What the destination says: the transfer is done, or the row as it is now and a fault. -/
inductive Followed where
  | credited
  | pending (row : RebalanceTransfer) (receiptError : Option String)

/-- Whether a receipt's credit covers what was promised. -/
def covers (row : RebalanceTransfer) (creditedSats : Option ℤ) : Bool :=
  creditedSats.any fun sats => isSafeInteger sats && decide (row.terms.netSats ≤ sats)

/-- Ask the destination. -/
def followReceipt (found : List RebalancePool) (poolError : Option String)
    (row : RebalanceTransfer) : Rebalancing Followed := do
  match found.find? fun pool => decide (pool.id = row.terms.poolId) with
  | none =>
    return .pending row (some (poolError.getD
      "destination pool unavailable; transfer remains tracked"))
  | some pool =>
    let answer ← issue (.ask (.receipt pool.id row.terms.deposit row.fundingTxid))
    match answer with
    | .error fault => return .pending row (some fault)
    | .ok (.credited creditedSats) =>
      if covers row creditedSats = false then
        return .pending row (some "destination credited less than the quoted minimum")
      else do
        let now ← issue .now
        let done := { row with
          state := .completed
          creditedSats := creditedSats
          error := none
          updatedAt := now }
        let outcome ← issue (.save done)
        match outcome with
        | .error fault => return .pending done (some fault)
        | .ok () => do
          issue (.setTerminalPin done)
          return .credited
    | .ok (.failed reason) =>
      return .pending row (some (reason.getD
        "destination deposit failed; source recovery remains tracked"))
    | .ok .pending => return .pending row none

/-- Why neither end could be followed. -/
def bothErrors (receiptError : Option String) (fault : String) : String :=
  match truthy receiptError with
  | some receipt => receipt ++ "; source recovery: " ++ fault
  | none => fault

/-- Note down why the source could not be followed. -/
def noteSourceError (row : RebalanceTransfer) (receiptError : Option String) (fault : String) :
    Rebalancing Unit := do
  let now ← issue .now
  saveRow { row with
    error := some (bothErrors receiptError fault)
    updatedAt := now }

/-- The row with what the destination said. -/
def noteReceipt (row : RebalanceTransfer) (receiptError : Option String) : RebalanceTransfer :=
  match truthy receiptError with
  | some receipt => { row with error := some receipt }
  | none => row

/-- The source knows the payment of a transfer. -/
def foundPayment (row : RebalanceTransfer) (receiptError : Option String) (txid : String) :
    Rebalancing Unit := do
  if isTxid txid = false then
    noteSourceError row receiptError "invalid source reconciliation transaction id"
  else do
    let found := { row with
      fundingTxid := some txid
      state := .pending
      error := if (truthy receiptError).isSome then row.error else none }
    let now ← issue .now
    let outcome ← ((saveRow { found with updatedAt := now }).bind fun _ =>
      (issue (.holdPending found)).bind orThrow).attempt
    match outcome with
    | .error fault => noteSourceError found receiptError fault
    | .ok () => return ()

/-- The source gave the money back. -/
def foundRefund (row : RebalanceTransfer) (receiptError : Option String) : Rebalancing Unit := do
  let now ← issue .now
  let back := { row with
    state := .refunded
    updatedAt := now }
  let outcome ← issue (.save back)
  match outcome with
  | .error fault => noteSourceError back receiptError fault
  | .ok () => issue (.setTerminalPin back)

/-- The source knows nothing new. -/
def foundNothing (row : RebalanceTransfer) (receiptError : Option String) : Rebalancing Unit := do
  if (truthy row.error).isNone then return ()
  else do
    let now ← issue .now
    let outcome ← issue (.save { row with updatedAt := now })
    match outcome with
    | .error fault => noteSourceError row receiptError fault
    | .ok () => return ()

/-- Ask the source. -/
def reconcileRow (row : RebalanceTransfer) (receiptError : Option String) : Rebalancing Unit := do
  let answer ← issue (.ask (.reconcile row))
  match answer with
  | .error fault => noteSourceError row receiptError fault
  | .ok observed =>
    match observed.state, truthy observed.fundingTxid with
    | .submitted, some txid => foundPayment row receiptError txid
    | .refunded, _ => foundRefund row receiptError
    | _, _ => foundNothing row receiptError

/-- Follow every open transfer. -/
def followRows (found : List RebalancePool) (poolError : Option String) :
    List RebalanceTransfer → Rebalancing Unit
  | [] => return ()
  | row :: rows => do
    let followed ← followReceipt found poolError row
    match followed with
    | .credited => followRows found poolError rows
    | .pending row receiptError => do
      reconcileRow (noteReceipt row receiptError) receiptError
      followRows found poolError rows

/-! ## Refilling -/

/-- The balances of the pools, as far as they can be read. -/
def readBalances (balances : String → Option ℤ) :
    List RebalancePool → Rebalancing (String → Option ℤ)
  | [] => return balances
  | pool :: rest => do
    let balance ← issue (.readBalance pool.id)
    readBalances (put balances pool.id balance.toOption) rest

/-- Attempts one refill makes at a quote. -/
def QUOTE_ATTEMPTS : ℕ := 8

/-- The largest amount that gets a quote, halving from the most that is allowed. -/
def seekQuote (poolId : String) (leastSats : ℤ) :
    ℕ → ℤ → Rebalancing (Option RebalanceTransfer)
  | 0, _ => return none
  | attempts + 1, amount => do
    if amount < leastSats then return none
    else do
      let requestKey ← ask .randomUUID
      let outcome ← (makeQuote deps {
        poolId := poolId
        amountSats := amount
        requestKey := requestKey
        kind := none
        receivingFeeAllowanceSats := none
        overridePendingIds := none } .automatic).attempt
      match outcome with
      | .ok quoted => return some quoted
      | .error fault =>
        if attempts = 0 ∨ amount = leastSats then throw fault
        else seekQuote poolId leastSats attempts (max leastSats (amount / 2))

/-- The quote of a refill, out of what the day still allows. -/
def quoteRefill (policy : RebalancePolicy) (choice : RefillChoice) :
    Rebalancing RebalanceTransfer := do
  let now ← issue .now
  let rolling ← read (.rollingDebit now)
  let maximum := min choice.netSats (min policy.maxDebitSats (policy.dailyDebitSats - rolling))
  if maximum < policy.minTransferSats then
    throw "remaining daily allowance below minimum transfer size"
  else do
    let quoted ← seekQuote deps choice.poolId policy.minTransferSats QUOTE_ATTEMPTS maximum
    match quoted with
    | none => throw "source surplus cannot cover minimum transfer size"
    | some quoted => return quoted

/-- One refill; a failure is noted and waits for the cooldown. -/
def refill (policy : RebalancePolicy) (choice : RefillChoice) : Rebalancing Unit := do
  let quoted ← (quoteRefill deps policy choice).attempt
  match quoted with
  | .error _ => return ()
  | .ok quoted => do
    let sent ← (send deps quoted.id none).attempt
    match sent with
    | .ok _ => return ()
    | .error _ => do
      let _ ← issue (.read (.get quoted.id))
      return ()

/-- The automatic part of a tick. -/
def refillBelow (policy : RebalancePolicy) (found : List RebalancePool) : Rebalancing Unit := do
  let balances ← readBalances (fun _ => none) found
  let now ← issue .now
  let lastAttempt ← read .lastAttempt
  match selectRebalanceTarget policy balances (fun _ => none) now lastAttempt with
  | none => return ()
  | some choice => do
    let attemptAt ← issue .now
    (issue (.recordAttempt attemptAt)).bind orThrow
    refill deps policy choice

/-- Where there is nothing to follow, to maintain or to refill, a tick ends at once. -/
def nothingToDo (policy : RebalancePolicy) : Rebalancing Bool := do
  if policy.enabled = true then return false
  else do
    let rows ← read .active
    return decide (rows = []) && !deps.maintains

/-- The backend's own upkeep; whether the tick goes on. -/
def maintained : Rebalancing Bool := do
  if deps.maintains = true then do
    let outcome ← issue (.ask .maintain)
    return outcome.toOption.isSome
  else return true

/-- What a tick does after it followed what is open. -/
def tickRefill (found : List RebalancePool) (poolError : Option String) : Rebalancing Unit := do
  let policy ← issue .policy
  let goesOn ← maintained deps
  if goesOn = false ∨ policy.enabled = false ∨ (truthy poolError).isSome = true then return ()
  else do
    let rows ← read .active
    if rows ≠ [] then return () else refillBelow deps policy found

/-- One tick. -/
def tick : Rebalancing Unit := do
  let stopped ← issue .stopped
  if stopped then return ()
  else do
    clearTerminalPins
    let policy ← issue .policy
    let idle ← nothingToDo deps policy
    if idle then return ()
    else do
      let outcome ← pools.attempt
      let rows ← read .active
      let found := outcome.toOption.getD []
      let poolError := match outcome with
        | .ok _ => none
        | .error fault => some fault
      followRows found poolError rows
      clearTerminalPins
      tickRefill deps found poolError

/-! ## Starting over -/

/-- Restore the hold of one open transfer. -/
def restoreRow (policy : RebalancePolicy) (stored : RebalanceTransfer) : Rebalancing Unit := do
  let row := if stored.state = .submitting then { stored with
      state := .needsReconciliation
      error := some "Process stopped during submission; reconcile before any new spend." }
    else stored
  let _ ← (if stored.state = .submitting then saveRow row else .ret ())
  if (truthy row.fundingTxid).isSome then (issue (.holdPending row)).bind orThrow
  else do
    (issue (.reserve row policy true)).bind orThrow
    issue (.keep row.id)

/-- The rows a restart restores, one after the other. -/
def restoreRows (policy : RebalancePolicy) : List RebalanceTransfer → Rebalancing Unit
  | [] => return ()
  | row :: rows => do
    restoreRow policy row
    restoreRows policy rows

/-- Restore the pins of transfers that ended and whose inputs may still be there. -/
def restorePins : List RebalanceTransfer → Rebalancing Unit
  | [] => return ()
  | row :: rows => do
    (issue (.holdPending row)).bind orThrow
    issue (.setTerminalPin row)
    restorePins rows

/-- A process starts. -/
def create (configured : Option Json) : Rebalancing Unit := do
  let policy ← orThrow (validateRebalancePolicy deps.parseUrl configured)
  issue (.setPolicy policy)
  let rows ← read .active
  restoreRows policy rows
  let pinned ← read .protectedTerminalInputs
  restorePins pinned

/-- What the service is called for. -/
inductive RebalanceJob where
  | quote (params : QuoteParams)
  | submit (id : String) (overridePendingIds : Option (List String))
  | cancel (id : String)
  | setPolicy (value : Option Json)
  | tick

/-- The code of a job. -/
def program : RebalanceJob → Rebalancing Unit
  | .quote params => (makeQuote deps params .manual).bind fun _ => .ret ()
  | .submit id overridePendingIds => (send deps id overridePendingIds).bind fun _ => .ret ()
  | .cancel id => (cancel id).bind fun _ => .ret ()
  | .setPolicy value => setPolicy deps value
  | .tick => tick deps

/-- The service over its store, its source and its clock, which may be a steady one. -/
abbrev rebalanceService (steady : Bool) : SerialService.Service where
  Op := RebalanceOp
  Ans := RebalanceOp.Ans
  Err := String
  World := RebalanceWorld
  Reply := RebalanceReply
  Move := RebalanceMove
  Job := RebalanceJob
  Boot := Option Json
  perform := perform
  stir := stir steady
  wipe := wipe
  program := program deps
  restart := create deps

end IntentSolver.RebalanceService
