import IntentSolver.OnchainSendStore

/-!
# The onchain send corridor

The client locks sats at an Arkade script and the solver funds an L1 HTLC. The
client's claim of the HTLC reveals the preimage, with which the solver claims
the lockup; a client that never claims has the HTLC refunded to the solver and
then the lockup given back. This module is the onchain send orchestrator's
`tick` with every step it drives, the refund sweep and the operator's
`reclaimOnchainHtlc`. Every await is one action. Logging, alerts, the operator's
`refundNow` and the recovery of swept lockups are left out, and the sweep's
in-memory hold-off answers arbitrarily.
-/

namespace IntentSolver.OnchainSend

open SwapStore ArkadeLockup LockupCollection WorkerProgram OnchainTerms OnchainSendStore

/-- What a node knows about one transaction. -/
inductive OnchainTxOutcome where
  | unknown
  | mempool
  | confirmed
  deriving DecidableEq

/-- One output paying an address. -/
structure FundedOnchainOutput where
  txid : String
  vout : ℕ
  valueSats : ℤ
  deriving DecidableEq

/-- Questions that change nothing the solver keeps. -/
inductive OnchainQuestion where
  /-- `arkade.findLockups`: spendable outputs at the row's script. -/
  | findLockups
  | lockupSpendEvidence
  /-- `arkade.findLockupOutpoints`: every outpoint, spent ones included. -/
  | findLockupOutpoints
  /-- `askApproval`. -/
  | approval
  /-- `onchain.findOutputs` of the HTLC's address. -/
  | findOutputs (address : String)
  | estimateFeeRate
  /-- The sweep still holds this row off after an unknown lockup. -/
  | heldOff

/-- What each question answers. -/
abbrev OnchainQuestion.Answer : OnchainQuestion → Type
  | findLockups => List FundedOutput
  | lockupSpendEvidence => LockupSpendEvidence
  | findLockupOutpoints => List LockupOutpoint
  | approval => Bool
  | findOutputs _ => List FundedOnchainOutput
  | estimateFeeRate => ℚ
  | heldOff => Bool

/-- Atomic actions of an onchain send worker. -/
inductive OnchainOp where
  | get
  /-- The guarded UPDATE; `unrecorded` adds `funding_tx IS NULL` to its WHERE clause. -/
  | update (source target : OnchainSendSwapState) (columns : List OnchainColumn)
    (unrecorded : Bool)
  | patch (columns : List OnchainColumn)
  | claimFundLease
  | releaseFundLease
  | recordFundingTx (tx : FundingTx)
  /-- The row, if `store.findRefundable` selects it. -/
  | findRefundable (now : ℤ)
  /-- The row, if `store.findReleasable` selects it. -/
  | findReleasable (now : ℤ)
  | now
  /-- `boundedSpendInputs(outputs, this.now())`. -/
  | boundedInputs (outputs : List FundedOutput)
  | read (question : OnchainQuestion)
  /-- The witness that spends the HTLC, if any. -/
  | findSpendWitness (txid : String) (vout : ℕ)
  | transactionOutcome (txid : String)
  /-- `onchain.signFunding` to this address. -/
  | signFunding (address : String) (amountSats feeRateSatPerVbyte : ℤ)
  /-- `onchain.broadcastRaw` of the recorded funding. -/
  | broadcastFunding (tx : FundingTx)
  /-- Sign the HTLC's refund paying out this much; the answer is its txid. -/
  | signRefund (fundingTxid : String) (fundingVout : ℕ) (payoutAmountSats : ℤ)
  /-- `onchain.broadcastRaw` of a signed refund. -/
  | broadcastRefund (txid : String)
  /-- `arkade.refund` of these outputs. -/
  | refund (outputs : List FundedOutput)
  /-- `arkade.claim` of these outputs. -/
  | claim (outputs : List FundedOutput)
  | finalizePendingClaim
  /-- `arkade.findClaimPreimage` of one outpoint. -/
  | findClaimPreimage (outpoint : Outpoint)
  /-- `arkade.findClaimPreimage` of all of these at once. -/
  | findClaimPreimageAmong (outpoints : List LockupOutpoint)
  | claimUnrolled (lockup : Outpoint) (record : Option String)
  /-- Take the process's in-flight slot; `read` is the row the caller already
  holds and will act on. -/
  | takeSlot (process : ℕ) (read : Option OnchainSendSwapRow)
  | freeSlot (process : ℕ)

/-- What each action answers. -/
abbrev OnchainOp.Ans : OnchainOp → Type
  | get => OnchainSendSwapRow
  | update _ _ _ _ => Bool
  | patch _ => Except Fault Unit
  | claimFundLease => Bool
  | releaseFundLease => Unit
  | recordFundingTx _ => Bool
  | findRefundable _ => Option OnchainSendSwapRow
  | findReleasable _ => Option OnchainSendSwapRow
  | now => ℤ
  | boundedInputs _ => List FundedOutput
  | read question => Except Fault question.Answer
  | findSpendWitness _ _ => Except Fault (Option (List String))
  | transactionOutcome _ => Except Fault OnchainTxOutcome
  | signFunding _ _ _ => Except Fault FundingTx
  | broadcastFunding _ => Except Fault Unit
  | signRefund _ _ _ => Except Fault String
  | broadcastRefund _ => Except Fault Unit
  | refund _ => Except Fault String
  | claim _ => Except Fault String
  | finalizePendingClaim => Except Fault (Option String)
  | findClaimPreimage _ => Except Fault (Option String)
  | findClaimPreimageAmong _ => Except Fault (Option String)
  | claimUnrolled _ _ => List String × Except Fault UnrolledSpendStep
  | takeSlot _ _ => Bool
  | freeSlot _ => Unit

/-- Code of an onchain send worker. -/
abbrev Prog (α : Type) : Type := Program OnchainOp.Ans Fault α

/-- One action. -/
def issue (op : OnchainOp) : Prog op.Ans := Program.issue op

/-- A question whose failure is thrown. -/
def ask (question : OnchainQuestion) : Prog question.Answer := do
  let answer ← issue (.read question)
  Program.ofExcept answer

/-- `store.transition` on the row. -/
def transition (source target : OnchainSendSwapState) (columns : List OnchainColumn) : Prog Bool :=
  SwapStore.transition onchainShape (fun s t c => issue (.update s t c false)) source target columns

/-- `store.fail` on the row. -/
def fail (source : OnchainSendSwapState) (reason : String) : Prog Unit :=
  SwapStore.fail onchainShape (fun s t c => issue (.update s t c false)) .failureReason source
    reason

/-- `store.fail`, after which the step stops. -/
def failStep (source : OnchainSendSwapState) (reason : String) : Prog Bool := do
  fail source reason
  return false

/-- Never over a recorded funding. -/
def refuseUnrecorded (reason : String) : Prog Bool :=
  SwapStore.transition onchainShape (fun s t c => issue (.update s t c true)) .fundingOnchain
    .refused [.failureReason reason]

/-- Entry and lease in one write. -/
def enterFunding : Prog Bool := do
  let now ← issue .now
  transition .funded .fundingOnchain [.fundStartedAt now]

/-- `store.patch` on the row. -/
def patch (columns : List OnchainColumn) : Prog Unit := do
  Program.ofExcept (patchCheck onchainShape columns)
  let written ← issue (.patch columns)
  Program.ofExcept written

/-- `onchain.findSpendWitness` of the HTLC. -/
def findSpendWitness (txid : String) (vout : ℕ) : Prog (Option (List String)) := do
  let answer ← issue (.findSpendWitness txid vout)
  Program.ofExcept answer

/-- `onchain.transactionOutcome`. -/
def transactionOutcome (txid : String) : Prog OnchainTxOutcome := do
  let answer ← issue (.transactionOutcome txid)
  Program.ofExcept answer

/-- What the wallet of a deployment can do. -/
structure WalletCaps where
  findLockupOutpoints : Bool
  findClaimPreimage : Bool
  claimUnrolled : Bool
  finalizePendingClaim : Bool

/-- The configuration of one onchain send worker; every worker hashes preimages alike. -/
structure OnchainDeps (paymentHashFromPreimage : String → String) where
  /-- The process the worker runs in: its ticks share one in-flight set. -/
  process : ℕ
  providerPubkey : String
  /-- `network === 'regtest'`. -/
  regtest : Bool
  /-- An approval gate is wired. -/
  approvalGate : Bool
  /-- The HTLC script rebuilt from payment hash, claim key, refund key and locktime. -/
  htlcPkScript : String → String → String → ℤ → String
  /-- Size of a refund of the HTLC, in vbytes. -/
  refundVsize : ℤ
  /-- The platform's `**`. -/
  power : ℚ → ℚ → ℚ
  /-- One line naming the row's server-independent recourse. -/
  unilateralExitRecourse : OnchainSendSwapRow → String

/-- The provider key the lockup was built with is gone. -/
def KEY_ROTATED : String :=
  "provider key rotated since quote; refusing to fund an unclaimable lockup"

/-- A spend of the HTLC that is neither ours nor the client's claim. -/
def FOREIGN_SPEND : String := "onchain HTLC spent by something other than a matching claim"

/-- How long a funding may sit unconfirmed before it is looked up. -/
def FUNDING_STUCK_ALERT_SECONDS : ℤ := 20 * 60

variable {paymentHashFromPreimage : String → String}


/-- The witness `[signature, preimage, claimScript, controlBlock]` reveals the
row's preimage. -/
def revealed (paymentHashFromPreimage : String → String) (row : OnchainSendSwapRow)
    (witness : List String) : Option String :=
  match witness[1]? with
  | some preimage =>
    if paymentHashFromPreimage preimage = row.paymentHash then some preimage else none
  | none => none

/-- The HTLC's outpoint, once the row carries it. -/
def htlcOf (row : OnchainSendSwapRow) : Option Outpoint :=
  match truthy row.fundingTxid, row.fundingVout with
  | some txid, some vout => some ⟨txid, vout⟩
  | _, _ => none

variable (wallet : WalletCaps) (deps : OnchainDeps paymentHashFromPreimage)

/-! ## Refunds of the lockup -/

/-- Why an empty lockup could not be acted on. -/
def unrefundableReason (evidence : LockupSpendEvidence) (row : OnchainSendSwapRow) (now : ℤ) :
    String :=
  if evidence = .unknown then
    "the unfiltered view reports no output at this lockup script, so no spend is provable and " ++
    "nothing is there to give back — an unfunded quote stays this way and is rechecked hourly; " ++
    "a funded one needs a human"
  else if DEFAULT_ONCHAIN_LOCKUP_TIMEOUT < now - row.refundLocktime then
    "the spendable view is empty; the unfiltered view still reports an unspent output, " ++
    toString (now - row.refundLocktime) ++
    "s past the refund locktime — too long to be one view catching up, and it needs a human"
  else
    "the spendable view is empty; the unfiltered view still reports an unspent output — " ++
    "the spendable view is behind, so this retries"

/-- The columns of a refund that went out: only a full one earns its outcome. -/
def refundColumns (all : Bool) (txid : String) : List OnchainColumn :=
  if all then [.refundOutcome .pushed, .refundArkTxid txid] else [.refundArkTxid txid]

/-- Push the covenant refund of the lockup; throws when it could not. -/
def pushRefund (row : OnchainSendSwapRow) : Prog Unit := do
  let outputs ← ask .findLockups
  if outputs.isEmpty then
    let evidence ← ask .lockupSpendEvidence
    if evidence ≠ .spent then
      let now ← issue .now
      throw (Fault.error ("swap " ++ row.id ++ ": " ++ unrefundableReason evidence row now))
    else patch [.refundOutcome .external]
  else
    let answer ← issue (.refund outputs)
    let txid ← Program.ofExcept answer
    let inputs ← issue (.boundedInputs outputs)
    patch (refundColumns (decide (inputs.length = outputs.length)) txid)

/-- Unspent: our refund was reorged out. A matching preimage: their claim
replaced it, so claim, don't release. -/
def onchainRefundIsFinal (paymentHashFromPreimage : String → String)
    (row : OnchainSendSwapRow) : Prog Bool :=
  match htlcOf row with
  | none => return false
  | some htlc => do
    let witness ← findSpendWitness htlc.txid htlc.vout
    match witness with
    | none => return false
    | some witness =>
      match revealed paymentHashFromPreimage row witness with
      | some preimage => throw (Fault.error ("swap " ++ row.id ++
          ": the onchain HTLC this row refunded now reads as claimed, preimage " ++ preimage ++
          " — claim the arkade lockup with it instead of releasing it to the client"))
      | none => return true

/-- One row of the sweep; whatever it throws only ends its own turn. -/
def sweepRow (paymentHashFromPreimage : String → String)
    (row : OnchainSendSwapRow) : Prog Unit := do
  let held ← ask .heldOff
  if held then return ()
  else
    let release : Prog Unit := do
      if row.state = .refunded then
        let final ← onchainRefundIsFinal paymentHashFromPreimage row
        if final then pushRefund row else return ()
      else pushRefund row
    release.tryCatch fun _ => return ()

/-- Push the refund of every row a query selects. -/
def sweepRows (paymentHashFromPreimage : String → String) : List OnchainSendSwapRow → Prog Unit
  | [] => return ()
  | row :: rest => do
    sweepRow paymentHashFromPreimage row
    sweepRows paymentHashFromPreimage rest

/-- The automatic sweep: refused rows, and rows whose L1 refund has landed. -/
def refundSweep (paymentHashFromPreimage : String → String) : Prog Unit := do
  let now ← issue .now
  let refundable ← issue (.findRefundable now)
  let releasable ← issue (.findReleasable now)
  sweepRows paymentHashFromPreimage (refundable.toList ++ releasable.toList)

/-! ## Adopting the lockup -/

/-- Refuse a quoted row whose lockup holds this much. -/
def refuseQuoted (held : ℤ) (reason : String) : Prog Bool := do
  patch [.onchainLockupValue held]
  failStep .quoted reason

/-- Record whatever is there, so that the sweep can return it. -/
def recordHeld (held : ℤ) : Prog Unit :=
  if 0 < held then patch [.onchainLockupValue held] else return ()

/-- Adopt the lockup unless a batch expires before the claim deadline. -/
def adopt (row : OnchainSendSwapRow) (outputs : List FundedOutput) : Prog Bool :=
  match if deps.regtest then none else expiryBeforeClaimDeadline outputs row.htlcLocktime with
  | some expiresTooSoon =>
    failStep .quoted ("lockup expires at " ++ toString expiresTooSoon ++ ", before " ++
      toString (arkadeClaimDeadline row.htlcLocktime) ++
      " — the last moment a claim answering this swap could still need it")
  | none =>
    transition .quoted .funded [.onchainLockupTxid (outputs.head?.map FundedOutput.txid),
      .onchainLockupVout (outputs.head?.map FundedOutput.vout),
      .onchainLockupValue (totalValue outputs),
      .lockupOutpoints (outputs.map fun output => ⟨output.txid, output.vout, output.value⟩)]

/-- The funding window closed. -/
def expireQuoted (locked held : ℤ) : Prog Bool := do
  recordHeld held
  failStep .quoted (if 0 < locked then "lockup timeout with partial " ++ toString locked ++ " sats"
    else "lockup timeout")

/-- Adopt an exact, timely, asset-free funding; refuse everything else. -/
def adoptQuoted (row : OnchainSendSwapRow) (lockups : List FundedOutput) (timedOut : Bool) :
    Prog Bool :=
  let outputs := satsOutputs lockups
  let locked := totalValue outputs
  let held := totalValue lockups
  if row.amountSats < locked then
    refuseQuoted held ("overfunded lockup: " ++ toString locked ++ " > " ++
      toString row.amountSats ++ " sats")
  else if locked = row.amountSats ∧ MAX_LOCKUP_SPEND_INPUTS < outputs.length then
    failStep .quoted ("lockup funded in " ++ toString outputs.length ++ " outputs, over " ++
      toString MAX_LOCKUP_SPEND_INPUTS)
  else if locked < row.amountSats ∧ row.amountSats ≤ held then
    refuseQuoted held ("lockup funded on an asset vtxo a claim cannot spend: " ++ toString held ++
      " held, " ++ toString locked ++ " spendable")
  else if locked = row.amountSats ∧ !timedOut then adopt deps row outputs
  else if timedOut then expireQuoted locked held
  else return false

/-- Look for the client's lockup. -/
def whenQuoted (row : OnchainSendSwapRow) : Prog Bool := do
  let lockups ← ask .findLockups
  let now ← issue .now
  adoptQuoted deps row lockups (decide (row.createdAt + DEFAULT_ONCHAIN_LOCKUP_TIMEOUT ≤ now))

/-! ## Funding the HTLC -/

/-- Why the lockup no longer backs a funding, when it does not. -/
def lockupShortfall (row : OnchainSendSwapRow) : Prog (Option String) := do
  let lockups ← ask .findLockups
  let held := totalValue lockups
  let funded := row.onchainLockupValue.getD row.amountSats
  return if held < funded then
    some ("lockup holds " ++ toString held ++ " of " ++ toString funded ++
      " sats at funding: unrolled, swept or spent")
  else none

/-- The gate asked before money moves. -/
def fundingDecision (row : OnchainSendSwapRow) : Prog (Except String Unit) := do
  let now ← issue .now
  return evaluateOnchainSendFunding
    ⟨row.refundLocktime, row.htlcLocktime, row.minConfirmations, now⟩

/-- Why the row may no longer be funded, when it may not. -/
def fundingRefusal (row : OnchainSendSwapRow) : Prog (Option String) :=
  if row.providerPubkey ≠ deps.providerPubkey then return some KEY_ROTATED
  else do
    let decision ← fundingDecision row
    match decision with
    | .ok _ => return none
    | .error reason => return some reason

/-- The gates a re-drive asks again: the first one that has closed. -/
def redriveRefusal (row : OnchainSendSwapRow) (recheck : Bool) : Prog (Option String) :=
  if recheck then do
    let refusal ← fundingRefusal deps row
    match refusal with
    | some reason => return some reason
    | none => lockupShortfall row
  else return none

/-- Record where the recorded funding pays the HTLC. -/
def enterAwaitingClaim (htlc : Outpoint) : Prog Bool :=
  transition .fundingOnchain .awaitingClaim [.fundingTxid htlc.txid, .fundingVout htlc.vout]

/-- Only ever the recorded funding, so a resend cannot pay the HTLC twice. -/
def publishFunding (row : OnchainSendSwapRow) (tx : FundingTx) (recheck : Bool) : Prog Bool := do
  let htlc ← Program.ofExcept (fundingOutputOf tx row.toOnchainQuoteRecord)
  let outcome ← transactionOutcome htlc.txid
  if outcome = .unknown then
    let refusal ← redriveRefusal deps row recheck
    match refusal with
    | some reason => failStep .fundingOnchain (reason ++ "; recorded funding " ++ htlc.txid ++
        " was never seen on chain")
    | none => do
      let answer ← issue (.broadcastFunding tx)
      Program.ofExcept answer
      enterAwaitingClaim htlc
  else enterAwaitingClaim htlc

/-- Off a recovered row a funding that threw may still land, so that refusal
parks for a human. -/
def refuseFunding (fresh : Bool) (reason : String) : Prog Bool :=
  if !fresh then failStep .fundingOnchain reason
  else do
    let won ← refuseUnrecorded reason
    if won then
      issue .releaseFundLease
      return false
    else return false

/-- The exclusive right to sign, which a fresh entry already holds. -/
def fundingLease (fresh : Bool) : Prog Bool :=
  if fresh then return true else issue .claimFundLease

/-- Re-read the lockup and sign, unless it falls short. -/
def signOrShort (row : OnchainSendSwapRow) : Prog (String ⊕ FundingTx) := do
  let shortfall ← lockupShortfall row
  match shortfall with
  | some reason => return .inl reason
  | none => do
    let estimate ← ask .estimateFeeRate
    let answer ← issue (.signFunding row.onchainAddress row.payoutSats
      ⌊max estimate MIN_RELAY_FEE_RATE + 1 / 2⌋)
    let signed ← Program.ofExcept answer
    return .inr signed

/-- Nothing is broadcast before the record, and only by the worker that won it. -/
def recordAndPublish (row : OnchainSendSwapRow) (tx : FundingTx) : Prog Bool := do
  let recorded ← issue (.recordFundingTx tx)
  if !recorded then return false
  else publishFunding deps row tx false

/-- Sign a funding, record it, and only then broadcast it. -/
def submitFunding (row : OnchainSendSwapRow) (fresh : Bool) : Prog Bool := do
  let leased ← fundingLease fresh
  if !leased then return false
  else
    let refusal ← fundingRefusal deps row
    match refusal with
    | some reason => refuseFunding fresh reason
    | none => do
      let signed ← (signOrShort row).tryCatch fun error => do
        issue .releaseFundLease
        throw error
      match signed with
      | .inl shortfall => refuseFunding fresh shortfall
      | .inr tx => recordAndPublish deps row tx

/-- The process died around the funding: resend the recorded one, else ask the
chain, else sign. -/
def recoverFunding (row : OnchainSendSwapRow) : Prog Bool :=
  match row.fundingTx with
  | some tx => publishFunding deps row tx true
  | none => do
    let outputs ← ask (.findOutputs row.onchainAddress)
    match outputs.find? fun output => output.valueSats = row.payoutSats with
    | none => submitFunding deps row false
    | some already => enterAwaitingClaim ⟨already.txid, already.vout⟩

/-- A row that carries its funding already moves on. -/
def checkFunded : Prog Bool := transition .fundingOnchain .awaitingClaim []

/-- Recovery, or the next step of a funding already recorded. -/
def whenFundingOnchain (row : OnchainSendSwapRow) : Prog Bool :=
  match truthy row.fundingTxid with
  | some _ => checkFunded
  | none => recoverFunding deps row

/-- The operator's approval gate, when one is wired. -/
def askApproval : Prog Bool := if deps.approvalGate then ask .approval else return true

/-- Pass every gate, enter `funding_onchain`, and fund. -/
def whenFunded (row : OnchainSendSwapRow) : Prog Bool :=
  if row.providerPubkey ≠ deps.providerPubkey then failStep .funded KEY_ROTATED
  else do
    let decision ← fundingDecision row
    match decision with
    | .error reason => failStep .funded reason
    | .ok _ => do
      let approved ← askApproval deps
      if !approved then return false
      else
        let shortfall ← lockupShortfall row
        match shortfall with
        | some reason => failStep .funded reason
        | none => do
          let won ← enterFunding
          if !won then return false
          else
            let row ← issue .get
            submitFunding deps row true

/-! ## Waiting for the client, and claiming -/

/-- Look up a funding that has been out for long; only an operator reads it. -/
def watchFunding (row : OnchainSendSwapRow) (txid : String) : Prog Unit :=
  match row.fundStartedAt with
  | none => return ()
  | some since => do
    let now ← issue .now
    if FUNDING_STUCK_ALERT_SECONDS ≤ now - since then
      let _ ← transactionOutcome txid
      return ()
    else return ()

/-- Wait for the client to reveal the preimage, or for the HTLC to mature. -/
def whenAwaitingClaim (paymentHashFromPreimage : String → String)
    (row : OnchainSendSwapRow) : Prog Bool :=
  match htlcOf row with
  | none => failStep .awaitingClaim "awaiting_claim state with no funding txid/vout"
  | some htlc => do
    let witness ← findSpendWitness htlc.txid htlc.vout
    match witness with
    | none => do
      let now ← issue .now
      if row.htlcLocktime + HTLC_REFUND_MTP_MARGIN ≤ now then
        transition .awaitingClaim .refundingOnchain []
      else
        watchFunding row htlc.txid
        return false
    | some witness =>
      match revealed paymentHashFromPreimage row witness with
      | none => failStep .awaitingClaim FOREIGN_SPEND
      | some preimage => transition .awaitingClaim .claiming [.preimage preimage]

/-- `arkade.findClaimPreimage` of one outpoint. -/
def findClaimPreimage (outpoint : Outpoint) : Prog (Option String) := do
  let answer ← issue (.findClaimPreimage outpoint)
  Program.ofExcept answer

/-- The wallet calls and store writes of one claiming row. -/
def claimPort : ClaimPort OnchainOp.Ans where
  findLockupOutpoints := if wallet.findLockupOutpoints then
      some (ask .findLockupOutpoints)
    else none
  claimUnrolled := if wallet.claimUnrolled then
      some fun lockup record => issue (.claimUnrolled lockup record)
    else none
  findClaimPreimage := if wallet.findClaimPreimage then some findClaimPreimage else none
  patchUnrolled steps := issue (.patch [.unrolledClaim steps])
  patchClaimTxid txid := patch [.claimArkTxid (some txid)]
  fail reason := fail .claiming reason
  finish := transition .claiming .claimed []

/-- `arkade.finalizePendingClaim?.`, asked only when the lockup is spent. -/
def pendingClaim (evidence : LockupSpendEvidence) : Prog (Option String) :=
  if evidence = .spent ∧ wallet.finalizePendingClaim then do
    let answer ← issue .finalizePendingClaim
    Program.ofExcept answer
  else return none

/-- The lockup is provably spent, or the refund deadline has passed. -/
def spentOrReached (row : OnchainSendSwapRow) (evidence : LockupSpendEvidence) : Prog Bool :=
  if evidence = .spent then return true
  else do
    let now ← issue .now
    return decide (row.refundLocktime ≤ now)

/-- A past spend of some outpoint reveals our preimage. -/
def spentByOurClaim : Prog Bool :=
  if wallet.findLockupOutpoints then do
    let outpoints ← ask .findLockupOutpoints
    if outpoints.isEmpty ∨ wallet.findClaimPreimage = false then return false
    else
      let answer ← issue (.findClaimPreimageAmong outpoints)
      let preimage ← Program.ofExcept answer
      return (truthy preimage).isSome
  else return false

/-- Nobody can say what became of the lockup. -/
def claimUnexplained (row : OnchainSendSwapRow) (held : ℤ) : Prog Bool :=
  failStep .claiming ("lockup holds " ++ toString held ++ " < amount " ++ toString row.amountSats ++
    " while claiming; no claim txid recorded; needs review")

/-- The lockup holds too little to claim and nothing was unrolled. -/
def claimShort (row : OnchainSendSwapRow) (held : ℤ) : Prog Bool := do
  let evidence ← ask .lockupSpendEvidence
  let reached ← spentOrReached row evidence
  if !reached then
    throw (Fault.error ("swap " ++ row.id ++ ": lockup holds " ++ toString held ++ " < " ++
      toString row.amountSats ++ " while claiming but no spend is provable (" ++ evidence.name ++
      ")"))
  else
    let pending ← pendingClaim wallet evidence
    match truthy pending with
    | some txid => transition .claiming .claimed [.claimArkTxid (some txid)]
    | none => do
      let ours ← spentByOurClaim wallet
      if ours then
        let leftover ← lockupLeftover (claimPort wallet) row.lockupOutpoints [] none
        if leftover.isEmpty then transition .claiming .claimed [.claimArkTxid none]
        else claimUnexplained row held
      else claimUnexplained row held

/-- What this tick's claim took, recomputed after it. -/
def claimedNow (outputs : List FundedOutput) (txid : Option String) : Prog (List Outpoint) :=
  match txid with
  | none => return []
  | some _ => do
    let inputs ← issue (.boundedInputs outputs)
    return inputs.map FundedOutput.outpoint

/-- Write the claim's txid, if this tick made one. -/
def recordClaimTxid (txid : Option String) : Prog Unit :=
  if txid.isSome then patch [.claimArkTxid txid] else return ()

/-- Nothing adopted is left out: write `claimed`, or settle the L1 claims. -/
def finishClaim (row : OnchainSendSwapRow) (txid : Option String)
    (unrolled : Option UnrolledClaims) : Prog Bool :=
  match unrolled with
  | none => do
    let _ ← transition .claiming .claimed [.claimArkTxid txid]
    return false
  | some claims => do
    recordClaimTxid txid
    settleUnrolledClaims (claimPort wallet) claims (deps.unilateralExitRecourse row)

/-- Check every adopted output before the row is closed. -/
def collectClaim (row : OnchainSendSwapRow) (outputs : List FundedOutput) (txid : Option String)
    (unrolled : Option UnrolledClaims) : Prog Bool :=
  if unrolled.all UnrolledClaims.settled then do
    let claimed ← claimedNow outputs txid
    let leftover ← lockupLeftover (claimPort wallet) row.lockupOutpoints claimed unrolled
    if leftover.isEmpty then finishClaim wallet deps row txid unrolled
    else do
      let now ← issue .now
      awaitLeftover (claimPort wallet) row.id txid leftover (decide (row.refundLocktime ≤ now))
        (deps.unilateralExitRecourse row)
  else finishClaim wallet deps row txid unrolled

/-- Claim what is there. -/
def claimHeld (row : OnchainSendSwapRow) (outputs : List FundedOutput)
    (unrolled : Option UnrolledClaims) : Prog Bool :=
  if outputs.isEmpty then collectClaim wallet deps row outputs none unrolled
  else do
    let answer ← issue (.claim outputs)
    match answer with
    | .ok txid => collectClaim wallet deps row outputs (some txid) unrolled
    | .error error => do
      let now ← issue .now
      if row.refundLocktime ≤ now then
        failStep .claiming ("claim failing past the refund deadline: " ++ error.message ++ " — " ++
          deps.unilateralExitRecourse row)
      else throw error

/-- Collect the lockup with the preimage. -/
def whenClaiming (row : OnchainSendSwapRow) : Prog Bool :=
  match truthy row.preimage with
  | none => failStep .claiming "claiming state with no preimage"
  | some _ => do
    let lockups ← ask .findLockups
    let unrolled ← advanceUnrolledClaims (claimPort wallet) row.unrolledClaim
    let outputs := claimOutputs lockups row.amountSats
    if totalValue outputs < row.amountSats ∧ unrolled.isNone then
      claimShort wallet row (totalValue outputs)
    else claimHeld wallet deps row outputs unrolled

/-! ## Taking the HTLC back -/

/-- What the tracked versions of a refund have come to. -/
inductive TrackedOutcome where
  | confirmed (txid : String)
  | mempool
  | unknown

/-- Ask about every version in turn; an older one confirming ends the search. -/
def outcomeOfAny : List String → Bool → Prog TrackedOutcome
  | [], seen => return if seen then .mempool else .unknown
  | txid :: rest, seen => do
    let outcome ← transactionOutcome txid
    match outcome with
    | .confirmed => return .confirmed txid
    | .mempool => outcomeOfAny rest true
    | .unknown => outcomeOfAny rest seen

/-- One attempt at the solver's own refund of the HTLC. -/
inductive OnchainHtlcRefundAttempt where
  | broadcast (txid : String)
  /-- A refusal; `retry` when only the fee of the moment stood in the way. -/
  | refused (reason : String) (retry : Bool)

/-- Which version of the refund is being priced. -/
structure RefundVersion where
  estimate : ℚ
  previousFeeRate : Option ℚ

/-- The fee of the version this one would replace. -/
def previousFee (row : OnchainSendSwapRow) (version : RefundVersion) : Option ℤ :=
  version.previousFeeRate.bind fun rate =>
    affordableFee deps.refundVsize rate row.payoutSats ONCHAIN_DUST_SATS

/-- BIP125 rule 4: the standing version already pays enough. -/
def underIncrement (fee : ℤ) : Option ℤ → Bool
  | some previous => decide (fee - previous < deps.refundVsize)
  | none => false

/-- What the row tracks once this version is written: the new txid, then
everything tracked before. -/
def refundVersionColumns (row : OnchainSendSwapRow) (txid : String) (feeRate : ℚ) (now : ℤ) :
    List OnchainColumn :=
  [.onchainRefundTxid txid,
    .onchainRefundPriorTxids ((trackedRefundTxids row).eraseDups.filter fun prior =>
      decide (prior ≠ txid)),
    .onchainRefundFeeRate feeRate, .onchainRefundBroadcastAt now]

/-- Sign, pre-commit the txid, and broadcast. -/
def sendHtlcRefund (row : OnchainSendSwapRow) (htlc : Outpoint) (feeRate : ℚ) (fee : ℤ) :
    Prog OnchainHtlcRefundAttempt := do
  let answer ← issue (.signRefund htlc.txid htlc.vout (row.payoutSats - fee))
  let txid ← Program.ofExcept answer
  let now ← issue .now
  patch (refundVersionColumns row txid feeRate now)
  let sent ← issue (.broadcastRefund txid)
  Program.ofExcept sent
  return .broadcast txid

/-- Rebuild, price, sign and broadcast the solver's own refund of the HTLC. -/
def pushOnchainHtlcRefund (row : OnchainSendSwapRow) (htlc : Outpoint) (version : RefundVersion) :
    Prog OnchainHtlcRefundAttempt :=
  if deps.htlcPkScript row.paymentHash row.payoutPubkey row.htlcPubkey row.htlcLocktime ≠
      row.onchainPkScript then
    return .refused "onchain HTLC rebuilt from row does not match the funded pkScript" false
  else do
    let now ← issue .now
    let capRate : ℚ := ((row.payoutSats - ONCHAIN_DUST_SATS : ℤ) : ℚ) / (deps.refundVsize : ℚ)
    let feeRate := urgencyFeeRate deps.power version.estimate capRate
      (onchainRefundConfirmDeadline row.refundLocktime) now
    match affordableFee deps.refundVsize feeRate row.payoutSats ONCHAIN_DUST_SATS with
    | none => return .refused ("a " ++ toString row.payoutSats ++
        " sat HTLC cannot pay for its own " ++ toString deps.refundVsize ++
        " vB refund and still clear the " ++ toString ONCHAIN_DUST_SATS ++ " sat dust limit") true
    | some fee =>
      if underIncrement deps fee (previousFee deps row version) then
        return .refused ("refund at " ++ toString ((previousFee deps row version).getD 0) ++
          " sats stands: " ++ toString fee ++ " is all the time left calls for, under the " ++
          toString deps.refundVsize ++ " sat relay increment above it") true
      else sendHtlcRefund row htlc feeRate fee

/-- The attempt's txid, when it was broadcast. -/
def attemptTxid : OnchainHtlcRefundAttempt → Option String
  | .broadcast txid => some txid
  | .refused _ _ => none

/-- Replace a version the mempool has held for long enough. -/
def replaceOnchainHtlcRefund (row : OnchainSendSwapRow) (htlc : Outpoint) :
    Prog (Option String) := do
  let now ← issue .now
  if !bumpDue (row.onchainRefundBroadcastAt.getD row.updatedAt) now then return none
  else
    let estimate ← ask .estimateFeeRate
    let attempt ← pushOnchainHtlcRefund deps row htlc
      ⟨estimate, some (row.onchainRefundFeeRate.getD estimate)⟩
    return attemptTxid attempt

/-- A first version of the refund, at today's estimate. -/
def firstRefund (row : OnchainSendSwapRow) (htlc : Outpoint) : Prog OnchainHtlcRefundAttempt := do
  let estimate ← ask .estimateFeeRate
  pushOnchainHtlcRefund deps row htlc ⟨estimate, none⟩

/-- No tracked version is known to the chain: look for a late claim, else refund. -/
def refundUnclaimed (row : OnchainSendSwapRow) (htlc : Outpoint) : Prog Bool := do
  let claimWitness ← findSpendWitness htlc.txid htlc.vout
  match claimWitness with
  | some witness =>
    match revealed paymentHashFromPreimage row witness with
    | some preimage => transition .refundingOnchain .claiming [.preimage preimage]
    | none => failStep .refundingOnchain FOREIGN_SPEND
  | none => do
    let attempt ← firstRefund deps row htlc
    match attempt with
    | .broadcast _ => return false
    | .refused reason retry => do
      let now ← issue .now
      if retry ∧ now < row.refundLocktime then throw (Fault.error reason)
      else failStep .refundingOnchain reason

/-- The client never claimed the HTLC: reclaim it. -/
def whenRefundingOnchain (row : OnchainSendSwapRow) : Prog Bool :=
  match htlcOf row with
  | none => failStep .refundingOnchain "refunding_onchain state with no funding txid/vout"
  | some htlc => do
    let tracked ← outcomeOfAny (trackedRefundTxids row) false
    match tracked with
    | .confirmed txid => transition .refundingOnchain .refunded [.onchainRefundTxid txid]
    | .mempool => do
      let _ ← replaceOnchainHtlcRefund deps row htlc
      return false
    | .unknown => refundUnclaimed deps row htlc

/-- One step of a tick. -/
def step (row : OnchainSendSwapRow) : Prog Bool :=
  match row.state with
  | .quoted => whenQuoted deps row
  | .funded => whenFunded deps row
  | .fundingOnchain => whenFundingOnchain deps row
  | .awaitingClaim => whenAwaitingClaim paymentHashFromPreimage row
  | .claiming => whenClaiming wallet deps row
  | .refundingOnchain => whenRefundingOnchain deps row
  | _ => return false

/-- Advance the row as far as it can go, at most `rounds` steps. -/
def drive : ℕ → Prog Unit
  | 0 => return ()
  | rounds + 1 => do
    let row ← issue .get
    let advanced ← step wallet deps row
    if advanced then drive rounds else return ()

/-- Run with the process's in-flight slot taken, and free it whatever happens. -/
def holdingSlot {α : Type} (body : Prog α) : Prog α := do
  let value ← body.tryCatch fun error => do
    issue (.freeSlot deps.process)
    throw error
  issue (.freeSlot deps.process)
  return value

/-- One guarded tick: a re-entrant call does nothing. -/
def tick (rounds : ℕ) : Prog Unit := do
  let taken ← issue (.takeSlot deps.process none)
  if !taken then return ()
  else holdingSlot deps (drive wallet deps rounds)

/-- Broadcast or replace the refund, with the slot taken. -/
def reclaimHolding (row : OnchainSendSwapRow) (htlc : Outpoint) (waiting : Bool) : Prog Unit :=
  if waiting then do
    let _ ← replaceOnchainHtlcRefund deps row htlc
    return ()
  else do
    let attempt ← firstRefund deps row htlc
    match attempt with
    | .broadcast _ => return ()
    | .refused reason _ => throw (Fault.error reason)

/-- Past the reads: take the slot the tick takes, and push. -/
def reclaimSlot (row : OnchainSendSwapRow) (htlc : Outpoint) (waiting : Bool) : Prog Unit := do
  let witness ← findSpendWitness htlc.txid htlc.vout
  match witness.bind (revealed paymentHashFromPreimage row) with
  | some preimage => throw (Fault.error ("swap " ++ row.id ++
      "'s onchain HTLC was already claimed by the client, preimage " ++ preimage ++
      " — a refund of it can never confirm; claim the Arkade lockup with that preimage instead"))
  | none => do
    let taken ← issue (.takeSlot deps.process (some row))
    if !taken then
      throw (Fault.error ("swap " ++ row.id ++
        " is already being ticked; retry once that tick finishes"))
    else holdingSlot deps (reclaimHolding deps row htlc waiting)

/-- The operator's reclaim of the solver's own L1 sats, whatever the row's state. -/
def reclaimOnchainHtlc : Prog Unit := do
  let row ← issue .get
  match htlcOf row with
  | none => throw (Fault.error ("swap " ++ row.id ++
      " has no funding txid/vout: nothing was ever broadcast to the onchain HTLC"))
  | some htlc => do
    let tracked ← outcomeOfAny (trackedRefundTxids row) false
    match tracked with
    | .confirmed _ => return ()
    | .mempool => reclaimSlot deps row htlc true
    | .unknown => reclaimSlot deps row htlc false

end IntentSolver.OnchainSend
