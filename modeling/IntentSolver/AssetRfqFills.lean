import IntentSolver.FillRows

/-!
# Filling quoted offers

Here the row comes first: terms are quoted, and the client accepts by funding the offer both
sides derive from them. A tick drives a row one step: it looks for the deposit until the quote
lapses, decides at the last moment whether to spend it, claims the row with the outpoint the
decision was about, and settles what the row then records. A row found `filling` belongs to a
process that is gone. An operator may park any live row.
-/

namespace IntentSolver.AssetRfqFills

open FillRows OfferSettle OfferTerms SingleCommit SwapStore WorkerInterleaving WorkerProgram

/-- States of a negotiation. -/
inductive AssetRfqSwapState where
  | quoted
  | funded
  | filling
  | filled
  | refused
  | stuck
  deriving DecidableEq

/-- A negotiation. -/
structure AssetRfqSwapRow where
  id : String
  state : AssetRfqSwapState
  fillPhase : Option FillPhase
  updatedAt : ℤ
  fromAssetId : Option String
  fromAmount : ℤ
  toAssetId : Option String
  toAmount : ℤ
  makerPkScript : String
  makerPublicKey : String
  offerPkScript : String
  validUntil : ℤ
  depositTxid : Option String
  depositVout : Option ℕ
  fillTxid : Option String
  failureReason : Option String

/-- Columns a transition may set. -/
inductive AssetRfqColumn where
  | depositTxid (value : String)
  | depositVout (value : ℕ)
  | fillTxid (value : String)
  | failureReason (value : String)
  | fillPhase (value : FillPhase)

/-- The lifecycle table. -/
def assetRfqSpec : AssetRfqSwapState → StateSpec AssetRfqSwapState
  | .quoted => ⟨true, false, [.funded, .refused]⟩
  | .funded => ⟨true, false, [.filling, .refused]⟩
  | .filling => ⟨true, true, [.filled, .stuck]⟩
  | _ => ⟨false, false, []⟩

/-- State names in the database. -/
def assetRfqStateName : AssetRfqSwapState → String
  | .quoted => "quoted"
  | .funded => "funded"
  | .filling => "filling"
  | .filled => "filled"
  | .refused => "refused"
  | .stuck => "stuck"

/-- Column names in the database. -/
def assetRfqColumnName : AssetRfqColumn → String
  | .depositTxid _ => "deposit_txid"
  | .depositVout _ => "deposit_vout"
  | .fillTxid _ => "fill_txid"
  | .failureReason _ => "failure_reason"
  | .fillPhase _ => "fill_phase"

/-- Write one column. -/
def assignAssetRfq : AssetRfqColumn → AssetRfqSwapRow → AssetRfqSwapRow
  | .depositTxid value, row => { row with depositTxid := some value }
  | .depositVout value, row => { row with depositVout := some value }
  | .fillTxid value, row => { row with fillTxid := some value }
  | .failureReason value, row => { row with failureReason := some value }
  | .fillPhase value, row => { row with fillPhase := some value }

/-- The store of these rows. -/
def assetRfqShape : FillShape AssetRfqSwapRow AssetRfqSwapState AssetRfqColumn where
  lifecycleLabel := "asset rfq lifecycle"
  spec := assetRfqSpec
  stateName := assetRfqStateName
  stuck := .stuck
  refused := .refused
  columnName := assetRfqColumnName
  transitionColumns _ := true
  patchColumns _ := false
  state := AssetRfqSwapRow.state
  stamp target now row := { row with
    state := target
    updatedAt := now }
  touch now row := { row with updatedAt := now }
  assign := assignAssetRfq
  state_stamp _ _ _ := rfl
  state_assign column row := by cases column <;> rfl
  state_touch _ _ := rfl
  waiting := .funded
  filling := .filling
  filled := .filled
  isOpen state := decide (state = .quoted ∨ state = .funded)
  failureReason := .failureReason
  fillPhase := AssetRfqSwapRow.fillPhase
  setFillPhase phase row := { row with fillPhase := phase }
  waiting_open := rfl
  filling_closed := rfl
  filled_closed := rfl
  stuck_closed := rfl
  filled_ne := by decide
  stuck_ne := by decide
  stuck_ne_filled := by decide
  state_setFillPhase _ _ := rfl
  fillPhase_setFillPhase _ _ := rfl

/-- What a tick asks of the outside. -/
inductive AssetRfqQuestion where
  /-- What can be spent of each asset. -/
  | balance
  /-- Whether the approval gate lets a swap proceed. -/
  | approval (swapId : String) (assetId : Option String) (amount : ℤ)

/-- The corridor of quoted offers. -/
def assetRfqKit : FillKit where
  Row := AssetRfqSwapRow
  State := AssetRfqSwapState
  Column := AssetRfqColumn
  Question := AssetRfqQuestion
  Answer
    | .balance => Except FloatFault (List (Option String × ℤ))
    | .approval _ _ _ => Except FloatFault Bool
  shape := assetRfqShape
  decState := inferInstance

/-- Why a deposit is not spent. -/
inductive AssetFillRefusal where
  | quoteExpired
  | depositShort
  | insufficientInventory
  deriving DecidableEq

/-- As a row names it. -/
def AssetFillRefusal.text : AssetFillRefusal → String
  | quoteExpired => "quote_expired"
  | depositShort => "deposit_short"
  | insufficientInventory => "insufficient_inventory"

/-- Whether to spend the deposit right now; none spends it. -/
def evaluateAssetFill (row : AssetRfqSwapRow) (depositedAmount : ℤ)
    (available : List (Option String × ℤ)) (now : ℤ) : Option AssetFillRefusal :=
  if row.validUntil < now then some .quoteExpired
  else if depositedAmount < row.fromAmount then some .depositShort
  else if (available.lookup row.toAssetId).getD 0 < row.toAmount then
    some .insufficientInventory
  else none

/-- What the orchestrator is bound to. -/
structure AssetRfqDeps (AssetId : Type) where
  settling : SettleDeps AssetId
  derivation : OfferDerivation
  /-- The emulator's key in its x-only spelling. -/
  emulatorPubkey : BigEndian.Bytes
  /-- There is an approval gate. -/
  approvalGate : Bool

/-- What the row is settled on. -/
def intentOf (row : AssetRfqSwapRow) : QuotedOfferIntent where
  offerPkScript := row.offerPkScript
  fromAssetId := row.fromAssetId
  fromAmount := row.fromAmount
  toAssetId := row.toAssetId
  toAmount := row.toAmount
  makerPkScript := row.makerPkScript
  makerPublicKey := row.makerPublicKey
  depositTxid := row.depositTxid
  depositVout := row.depositVout

/-- The columns that name a deposit. -/
def depositColumns (deposit : OfferOutpoint) : List AssetRfqColumn :=
  [.depositTxid deposit.txid, .depositVout deposit.vout]

/-- A step of the lifecycle. -/
def move (source target : AssetRfqSwapState) (columns : List AssetRfqColumn) :
    Prog assetRfqKit Bool := transition (K := assetRfqKit) source target columns

/-- The row now. -/
def get : Prog assetRfqKit AssetRfqSwapRow := issue (K := assetRfqKit) .get

section Orchestrator

variable {AssetId : Type} (deps : AssetRfqDeps AssetId)

/-- The deposit at an offer's script, if there is one. -/
def depositAt (script : String) (leg : Option String) :
    Prog assetRfqKit (Option OfferOutpoint) := do
  let live ← settle (liveOfferOutpoints deps.settling script)
  return largestOfferOutpoint live leg

/-- Whether the approval gate lets the row proceed. -/
def askApprovalFor (row : AssetRfqSwapRow) : Prog assetRfqKit Bool :=
  if deps.approvalGate then
    demand (K := assetRfqKit) (.approval row.id row.toAssetId row.toAmount) fun answer => answer
  else return true

/-- Awaiting the deposit, until the quote lapses. -/
def whenQuoted (row : AssetRfqSwapRow) : Prog assetRfqKit Unit := do
  let now ← issue .now
  if row.validUntil < now then
    fail (K := assetRfqKit) .quoted "quote expired before the deposit was observed"
  else
    let deposit ← depositAt deps row.offerPkScript row.fromAssetId
    match deposit with
    | none => return ()
    | some deposit =>
      if heldOf deposit.toOfferDeposit row.fromAssetId ≤ 0 then return ()
      else
        let _ ← move .quoted .funded (depositColumns deposit)
        return ()

/-- What a failed settle leaves of the row. -/
def settleFailed (error : FloatFault) : Prog assetRfqKit Unit :=
  match error with
  | .offerNotSubmitted _ => do
    let _ ← issue .revertUnsubmitted
    return ()
  | error => fail (K := assetRfqKit) .filling error.message

/-- A deposit is there: decide now whether to spend it, claim the row and settle it. -/
def whenFunded (row : AssetRfqSwapRow) : Prog assetRfqKit Unit := do
  let deposit ← depositAt deps row.offerPkScript row.fromAssetId
  let available ← demand (K := assetRfqKit) .balance fun answer => answer
  let now ← issue .now
  let deposited := (deposit.map fun found =>
    heldOf found.toOfferDeposit row.fromAssetId).getD 0
  match evaluateAssetFill row deposited available now with
  | some reason => fail (K := assetRfqKit) .funded ("not filled: " ++ reason.text)
  | none =>
    let approved ← askApprovalFor deps row
    if !approved then return ()
    else
      let seen := (deposit.map depositColumns).getD []
      let claimed ← move .funded .filling (seen ++ [.fillPhase .selecting])
      if !claimed then return ()
      else
        tryCatch (do
          let current ← get
          let txid ← settle (quotedOfferSettle deps.settling deps.derivation deps.emulatorPubkey
            true (intentOf current))
          let _ ← move .filling .filled [.fillTxid txid]
          return ()) settleFailed

/-- A row a process left behind: only `selecting` walks back. -/
def whenFilling (row : AssetRfqSwapRow) : Prog assetRfqKit Unit :=
  if row.fillPhase = some .selecting then do
    let _ ← issue .revertUnsubmitted
    return ()
  else fail (K := assetRfqKit) .filling
    "fill outcome unknown after restart; check the offer address"

/-- Drive one negotiation one step. -/
def drive : Prog assetRfqKit Unit := do
  let row ← get
  match row.state with
  | .quoted => whenQuoted deps row
  | .funded => whenFunded deps row
  | .filling => whenFilling row
  | _ => return ()

end Orchestrator

/-- An operator parks a live row, for a reason without surrounding blanks. -/
def park (reason : String) : Prog assetRfqKit Unit :=
  if reason = "" then
    throw (FloatFault.error
      "a reason is required: a parked row with no explanation is a mystery later")
  else do
    let row ← get
    if !(assetRfqSpec row.state).live then
      throw (FloatFault.error ("swap " ++ row.id ++ " is already " ++
        assetRfqStateName row.state ++ "; only a live swap can be parked"))
    else
      fail (K := assetRfqKit) row.state reason
      let after ← get
      if after.state = .stuck ∨ after.state = .refused then return ()
      else throw (FloatFault.error ("swap " ++ row.id ++ " moved to " ++
        assetRfqStateName after.state ++
        " while being parked — the sweep raced us; re-read it and retry"))

/-- What a process is started on. -/
inductive AssetRfqJob (AssetId : Type) where
  | tick (deps : AssetRfqDeps AssetId)
  | park (reason : String)

/-- Its code. -/
def AssetRfqJob.program {AssetId : Type} : AssetRfqJob AssetId → Prog assetRfqKit Unit
  | tick deps => drive deps
  | park reason => AssetRfqFills.park reason

/-! ## The code keeps to the latch -/

/-- A row that is held may always end stuck. -/
theorem mayMove_stuck (note : FillNote) (columns : List AssetRfqColumn) :
    mayMove (K := assetRfqKit) note .filling .stuck columns := .inr ⟨rfl, .inl rfl⟩

/-- It is filled by who submitted. -/
theorem mayMove_filled {note : FillNote} (h : note.sent = true)
    (columns : List AssetRfqColumn) :
    mayMove (K := assetRfqKit) note .filling .filled columns := .inr ⟨rfl, .inr ⟨rfl, h⟩⟩

/-- Before an attempt holds it, it may be refused, -/
theorem mayMove_refused (note : FillNote) {source : AssetRfqSwapState}
    (h : source = .quoted ∨ source = .funded) (columns : List AssetRfqColumn) :
    mayMove (K := assetRfqKit) note source .refused columns :=
  .inl ⟨decide_eq_true h, nofun, nofun⟩

/-- its deposit may be observed, -/
theorem mayMove_funded (note : FillNote) (columns : List AssetRfqColumn) :
    mayMove (K := assetRfqKit) note .quoted .funded columns := .inl ⟨rfl, nofun, nofun⟩

/-- and it may be claimed, with the phase written last. -/
theorem mayMove_claim (note : FillNote) (columns : List AssetRfqColumn) :
    mayMove (K := assetRfqKit) note .funded .filling
      (columns ++ [AssetRfqColumn.fillPhase .selecting]) := by
  have hlast : ∀ row : AssetRfqSwapRow,
      assignAll assetRfqShape.toStoreShape (columns ++ [.fillPhase .selecting]) row =
        assignAssetRfq (.fillPhase .selecting)
          (assignAll assetRfqShape.toStoreShape columns row) := by
    intro row
    unfold assignAll
    rw [List.foldl_append]
    rfl
  exact .inl ⟨rfl, nofun, fun _ row => congrArg AssetRfqSwapRow.fillPhase (hlast row)⟩

/-- Wherever a live row is, it may fail. -/
theorem free_fail_live (source : AssetRfqSwapState) (reason : String) :
    (latchDiscipline assetRfqKit).Free (fail (K := assetRfqKit) source reason) := by
  cases source with
  | quoted => exact free_fail fun note => mayMove_refused note (.inl rfl) _
  | funded => exact free_fail fun note => mayMove_refused note (.inr rfl) _
  | filling => exact free_fail fun note => mayMove_stuck note _
  | _ => exact fun _ => trivial

/-- Reading the row needs nothing of the latch. -/
theorem free_get : (latchDiscipline assetRfqKit).Free get :=
  Discipline.free_issue fun _ => trivial

/-- A walk-back is licensed from any notes. -/
theorem free_revert : (latchDiscipline assetRfqKit).Free (do
    let _ ← issue (K := assetRfqKit) .revertUnsubmitted
    return ()) :=
  (Discipline.free_issue fun _ => trivial).bind fun _ => Discipline.free_ret _

variable {AssetId : Type} (deps : AssetRfqDeps AssetId)

/-- Looking for the deposit needs nothing of the latch. -/
theorem free_depositAt (script : String) (leg : Option String) :
    (latchDiscipline assetRfqKit).Free (depositAt deps script leg) := by
  intro note
  exact (obeys_settle (quiet_liveOfferOutpoints deps.settling script note)).bind
    fun live after _ => trivial

/-- Asking for approval needs nothing of the latch. -/
theorem free_askApprovalFor (row : AssetRfqSwapRow) :
    (latchDiscipline assetRfqKit).Free (askApprovalFor deps row) := by
  unfold askApprovalFor
  split
  · exact free_demand
  · exact Discipline.free_ret _

/-- A quoted row is stepped without touching the latch. -/
theorem free_whenQuoted (row : AssetRfqSwapRow) :
    (latchDiscipline assetRfqKit).Free (whenQuoted deps row) := by
  unfold whenQuoted
  refine (Discipline.free_issue fun _ => trivial).bind fun now => ?_
  split
  · exact free_fail_live _ _
  · refine (free_depositAt deps _ _).bind fun deposit => ?_
    split
    · exact Discipline.free_ret _
    · split
      · exact Discipline.free_ret _
      · exact fun note => (obeys_transition fun _ => mayMove_funded note _).bind
          fun _ _ _ => trivial

/-- A failed settlement is recorded without touching the latch. -/
theorem free_settleFailed (error : FloatFault) :
    (latchDiscipline assetRfqKit).Free (settleFailed error) := by
  unfold settleFailed
  split
  · exact free_revert
  · exact free_fail_live _ _

/-- A funded row claims its latch within the discipline. -/
theorem free_whenFunded (row : AssetRfqSwapRow) :
    (latchDiscipline assetRfqKit).Free (whenFunded deps row) := by
  unfold whenFunded
  refine (free_depositAt deps _ _).bind fun deposit => ?_
  refine free_demand.bind fun available => ?_
  refine (Discipline.free_issue fun _ => trivial).bind fun now => ?_
  dsimp only
  split
  · exact free_fail_live _ _
  · refine (free_askApprovalFor deps row).bind fun approved => ?_
    split
    · exact Discipline.free_ret _
    · intro note
      refine (obeys_transition fun _ => mayMove_claim note _).bind fun claimed after _ => ?_
      split
      · trivial
      · refine Discipline.Obeys.tryCatch ?_ fun error other => free_settleFailed error other
        refine (free_get _).bind fun current found _ => ?_
        refine (obeys_settle (obeys_quotedOfferSettle deps.settling _ _ _ _)).bind
          fun txid sent hsent => ?_
        exact (obeys_transition fun _ => mayMove_filled hsent _).bind fun _ _ _ => trivial

/-- A filling row wins or walks back its latch within the discipline. -/
theorem free_whenFilling (row : AssetRfqSwapRow) :
    (latchDiscipline assetRfqKit).Free (whenFilling row) := by
  unfold whenFilling
  split
  · exact free_revert
  · exact free_fail_live _ _

/-- One drive of the row keeps the latch discipline. -/
theorem free_drive : (latchDiscipline assetRfqKit).Free (drive deps) := by
  refine free_get.bind fun row => ?_
  split
  · exact free_whenQuoted deps row
  · exact free_whenFunded deps row
  · exact free_whenFilling row
  · exact Discipline.free_ret _

/-- Parking the row keeps the latch discipline. -/
theorem free_park (reason : String) : (latchDiscipline assetRfqKit).Free (park reason) := by
  unfold park
  split
  · exact Discipline.free_throw _
  · refine free_get.bind fun row => ?_
    split
    · exact Discipline.free_throw _
    · refine (free_fail_live _ _).bind fun _ => free_get.bind fun after => ?_
      split
      · exact Discipline.free_ret _
      · exact Discipline.free_throw _

/-! ## Every run -/

/-- Every job of the store keeps the latch discipline. -/
theorem free_program (job : AssetRfqJob AssetId) :
    (latchDiscipline assetRfqKit).Free job.program := by
  cases job with
  | tick deps => exact free_drive deps
  | park reason => exact free_park reason

/-- Any number of processes tick over one negotiation or park it. -/
abbrev assetRfqMachine (AssetId : Type) : Machine :=
  fillMachine assetRfqKit (@AssetRfqJob.program AssetId)

/-- However many processes tick over a negotiation or park it, each recovering what it did not
start, in any order and with crashes anywhere, from any state and phase the row was found in:
one submission is made at most, by who won the latch; a row is claimed or walked back only
while none was made; after it the row is filling, filled or stuck; and a row found without a
phase is never submitted. -/
theorem quote_submitted_once {first : AssetRfqSwapRow} {clock : ℤ}
    {events : List (Event (assetRfqMachine AssetId))} {final : Config (assetRfqMachine AssetId)}
    (h : run (boot (found (K := assetRfqKit) first clock)) events = some final) :
    SubmittedOnce first final.world :=
  submittedOnce_of_run free_program h

/-- The negotiation of the sample quote, before its deposit. -/
def sampleRow : AssetRfqSwapRow where
  id := "row"
  state := .quoted
  fillPhase := none
  updatedAt := 0
  fromAssetId := none
  fromAmount := 1000
  toAssetId := some "asset"
  toAmount := 40
  makerPkScript := "52"
  makerPublicKey := "53"
  offerPkScript := "51"
  validUntil := 60
  depositTxid := none
  depositVout := none
  fillTxid := none
  failureReason := none

/-- An orchestrator of the sample deployment. -/
def sampleOrchestrator : AssetRfqDeps Unit where
  settling := sampleDeps
  derivation := sampleDerivation
  emulatorPubkey := List.replicate 32 0x54
  approvalGate := false

/-- The outside answers as the sample settle expects. -/
def sampleReply : FillReply assetRfqKit where
  answer
    | .balance => Except.ok [(some "asset", 100)]
    | .approval _ _ _ => Except.ok true
  settled
    | .fetchTx _ => .ok none
    | .getVtxos _ _ => .ok ⟨sampleOutputs, none⟩
    | .getSpendableVtxos => .ok [sampleCoin]
    | .pin _ => .ok (0, [sampleCoin])
    | .markSubmitting => .ok false
    | .fillOffer _ => .ok "fill"
    | .release _ => ()

/-- A process observes the deposit and claims the row; another walks it back and claims it; the
first then wins the latch on the claim of the second and fills the offer. -/
def sampleEvents : List (Event (assetRfqMachine Unit)) :=
  .start 0 (.tick sampleOrchestrator) :: List.replicate 4 (.act 0 sampleReply) ++
    .start 0 (.tick sampleOrchestrator) :: List.replicate 5 (.act 0 sampleReply) ++
    .start 1 (.tick sampleOrchestrator) :: List.replicate 2 (.act 1 sampleReply) ++
    .start 1 (.tick sampleOrchestrator) :: List.replicate 5 (.act 1 sampleReply) ++
    List.replicate 8 (.act 0 sampleReply) ++ List.replicate 7 (.act 1 sampleReply)

/-- The sample run submits the quote's fill once, though both processes claimed the row. -/
theorem quote_submitted_once_sample :
    ∃ final, run (boot (found (K := assetRfqKit) sampleRow 0)) sampleEvents = some final ∧
      final.world.deeds = [(0, .committed), (0, .won)] ∧
      SubmittedOnce (K := assetRfqKit) sampleRow final.world := by
  have hdeeds : (run (boot (found (K := assetRfqKit) sampleRow 0)) sampleEvents).map
      (fun final => final.world.deeds) = some [(0, .committed), (0, .won)] := by
    decide +kernel
  obtain ⟨final, hr, hd⟩ := Option.map_eq_some_iff.mp hdeeds
  exact ⟨final, hr, hd, quote_submitted_once hr⟩

end IntentSolver.AssetRfqFills
