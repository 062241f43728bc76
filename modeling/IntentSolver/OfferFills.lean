import IntentSolver.AssetQuotes
import IntentSolver.FillRows

/-!
# Filling published offers

A row records the intent to fill an offer that was found on chain. Each tick recovers the rows
an earlier process left `filling` and submits the others: the price is asked for again, then
the approval, then the row is claimed, and only the settle says whether anything was submitted.
A settle that submitted nothing gives its claim back, a bounded number of times; whatever else
goes wrong after the claim leaves the row stuck.
-/

namespace IntentSolver.OfferFills

open AssetQuotes FillRows OfferSettle OfferTerms PriceFeed SingleCommit SwapStore
  WorkerInterleaving WorkerProgram

/-- States of a row. -/
inductive OfferFillState where
  | fillable
  | filling
  | filled
  | lost
  | refused
  | stuck
  deriving DecidableEq

/-- A row. -/
structure OfferFillRow where
  id : String
  state : OfferFillState
  fillPhase : Option FillPhase
  updatedAt : ℤ
  offerTxid : String
  offerVout : ℕ
  offerPkScript : String
  wantAssetId : Option String
  wantAmount : ℤ
  offerAssetId : Option String
  offerAmount : ℤ
  fillTxid : Option String
  failureReason : Option String

/-- Columns a transition may set. -/
inductive OfferFillColumn where
  | fillTxid (value : String)
  | failureReason (value : String)
  | fillPhase (value : FillPhase)

/-- The lifecycle table: `fail` is called on `filling` rows that may have submitted. -/
def offerFillSpec : OfferFillState → StateSpec OfferFillState
  | .fillable => ⟨true, false, [.filling, .refused, .lost]⟩
  | .filling => ⟨true, true, [.filled, .lost, .stuck]⟩
  | _ => ⟨false, false, []⟩

/-- State names in the database. -/
def offerFillStateName : OfferFillState → String
  | .fillable => "fillable"
  | .filling => "filling"
  | .filled => "filled"
  | .lost => "lost"
  | .refused => "refused"
  | .stuck => "stuck"

/-- Column names in the database. -/
def offerFillColumnName : OfferFillColumn → String
  | .fillTxid _ => "fill_txid"
  | .failureReason _ => "failure_reason"
  | .fillPhase _ => "fill_phase"

/-- Write one column. -/
def assignOfferFill : OfferFillColumn → OfferFillRow → OfferFillRow
  | .fillTxid value, row => { row with fillTxid := some value }
  | .failureReason value, row => { row with failureReason := some value }
  | .fillPhase value, row => { row with fillPhase := some value }

/-- The store of these rows. -/
def offerFillShape : FillShape OfferFillRow OfferFillState OfferFillColumn where
  lifecycleLabel := "offer fill lifecycle"
  spec := offerFillSpec
  stateName := offerFillStateName
  stuck := .stuck
  refused := .refused
  columnName := offerFillColumnName
  transitionColumns _ := true
  patchColumns _ := false
  state := OfferFillRow.state
  stamp target now row := { row with
    state := target
    updatedAt := now }
  touch now row := { row with updatedAt := now }
  assign := assignOfferFill
  state_stamp _ _ _ := rfl
  state_assign column row := by cases column <;> rfl
  state_touch _ _ := rfl
  waiting := .fillable
  filling := .filling
  filled := .filled
  isOpen state := decide (state = .fillable)
  failureReason := .failureReason
  fillPhase := OfferFillRow.fillPhase
  setFillPhase phase row := { row with fillPhase := phase }
  waiting_open := rfl
  filling_closed := rfl
  filled_closed := rfl
  stuck_closed := rfl
  filled_ne := by decide
  stuck_ne := by decide
  stuck_ne_filled := by decide
  state_setFillPhase _ _ := rfl
  fillPhase_setFillPhase _ _ := rfl

/-- What a tick asks of the outside. -/
inductive OfferQuestion where
  | fetchPrice (feedUrl pricePath : String)
  /-- Whether the approval gate lets a swap proceed. -/
  | approval (swapId : String) (assetId : Option String) (amount : ℤ)

/-- The corridor of published offers. -/
def offerKit : FillKit where
  Row := OfferFillRow
  State := OfferFillState
  Column := OfferFillColumn
  Question := OfferQuestion
  Answer
    | .fetchPrice _ _ => Except FloatFault Price
    | .approval _ _ _ => Except FloatFault Bool
  shape := offerFillShape
  decState := inferInstance

/-- A served market with its price source. -/
structure AssetMarketPricing where
  base : Option String
  quote : Option String
  baseDecimals : ℕ
  quoteDecimals : ℕ
  feedUrl : String
  pricePath : String
  toleranceBps : ℤ
  feeBps : ℤ
  sellBaseFeeFlat : Option ℤ
  buyBaseFeeFlat : Option ℤ

/-- The market as the price gate is given it. -/
def AssetMarketPricing.market (pricing : AssetMarketPricing) : OfferPriceMarket where
  baseDecimals := pricing.baseDecimals
  quoteDecimals := pricing.quoteDecimals
  toleranceBps := pricing.toleranceBps
  feeBps := pricing.feeBps
  sellBaseFeeBps := none
  buyBaseFeeBps := none
  sellBaseFeeFlat := pricing.sellBaseFeeFlat
  buyBaseFeeFlat := pricing.buyBaseFeeFlat

/-- What the service is bound to. -/
structure AssetOfferDeps (AssetId : Type) where
  /-- None opts out of pricing. -/
  pricing : Option (List AssetMarketPricing)
  /-- A feed can be read. -/
  fetchPrice : Bool
  carrierSats : ℤ
  chargesDeliveredCarrier : Bool
  /-- None submits nothing. -/
  settle : Option (SettleDeps AssetId)
  /-- There is an approval gate. -/
  approvalGate : Bool

/-- Most times a settle may give its claim back before the row is a human's. -/
def MAX_FILL_DEFERRALS : ℕ := 40

/-- A leg as a message names it. -/
def legName (id : Option String) : String := id.getD "BTC"

/-- The amounts as a message names them. -/
def amountsOf (input : OfferFillInput) : String :=
  "wants " ++ toString input.wantAmount ++ " " ++ legName input.wantAssetId ++ " for " ++
    toString input.offerAmount ++ " " ++ legName input.offerAssetId

/-- What the row was priced on. -/
def termsOf (row : OfferFillRow) : OfferFillInput where
  wantAssetId := row.wantAssetId
  wantAmount := row.wantAmount
  offerAssetId := row.offerAssetId
  offerAmount := row.offerAmount

/-- What the row is settled on. -/
def intentOf (row : OfferFillRow) : OfferFillIntent where
  offerTxid := row.offerTxid
  offerVout := row.offerVout
  offerPkScript := row.offerPkScript
  wantAssetId := row.wantAssetId
  wantAmount := row.wantAmount
  offerAssetId := row.offerAssetId
  offerAmount := row.offerAmount

section Service

variable {AssetId : Type} (deps : AssetOfferDeps AssetId)

/-- The first market the offer is on, and its side. -/
def pricingFor (input : OfferFillInput) : Option (AssetMarketPricing × OfferDirection) :=
  (deps.pricing.getD []).findSome? fun market =>
    (offerDirectionOn market.base market.quote input.offerAssetId input.wantAssetId).map
      fun direction => (market, direction)

/-- Whether the offer's price is one the solver takes; an unreadable feed refuses. -/
def withinTolerance (input : OfferFillInput) : Prog offerKit Bool :=
  if deps.pricing.isNone then return true
  else
    match pricingFor deps input with
    | none => return false
    | some (pricing, direction) =>
      if !deps.fetchPrice then return false
      else do
        let read ← issue (K := offerKit)
          (.ask (OfferQuestion.fetchPrice pricing.feedUrl pricing.pricePath))
        let feed : Except FloatFault Price := read
        match feed with
        | .error _ => return false
        | .ok feed =>
          let fronted := input.offerAssetId.isSome
          let delivered := input.wantAssetId.isSome
          return offerWithinTolerance input.offerAmount input.wantAmount direction pricing.market
            feed (if delivered && !fronted && deps.chargesDeliveredCarrier then deps.carrierSats
              else 0)
            (if fronted && !delivered then deps.carrierSats else 0)

/-- Whether the approval gate lets the row proceed. -/
def askApprovalFor (row : OfferFillRow) : Prog offerKit Bool :=
  if deps.approvalGate then
    demand (K := offerKit) (.approval row.id row.wantAssetId row.wantAmount) fun answer => answer
  else return true

/-- What a failed settle leaves of the row. -/
def settleFailed (error : FloatFault) : Prog offerKit Unit := do
  let deferrals ← issue .deferrals
  match error with
  | .offerNotSubmitted message =>
    if deferrals + 1 ≤ MAX_FILL_DEFERRALS then
      let reverted ← issue .revertUnsubmitted
      if reverted then issue (.remember (deferrals + 1)) else return ()
    else
      fail (K := offerKit) .filling (message ++ "; " ++ toString MAX_FILL_DEFERRALS ++
        " retries exhausted")
  | error => fail (K := offerKit) .filling error.message

/-- Submit one recorded intent. -/
def fillRow (settling : SettleDeps AssetId) (row : OfferFillRow) : Prog offerKit Unit := do
  let priced ← withinTolerance deps (termsOf row)
  if !priced then
    fail (K := offerKit) .fillable ("price_out_of_tolerance; " ++ amountsOf (termsOf row))
  else
    let approved ← askApprovalFor deps row
    if !approved then return ()
    else
      let claimed ← transition (K := offerKit) .fillable .filling [.fillPhase .selecting]
      if !claimed then return ()
      else
        tryCatch (do
          let txid ← settle (offerSettle settling true (intentOf row))
          let _ ← transition (K := offerKit) .filling .filled [.fillTxid txid]
          return ()) settleFailed

/-- A row left `filling` by a process that is gone: only `selecting` walks back. -/
def recoverFilling (row : OfferFillRow) : Prog offerKit Unit :=
  if row.fillPhase = some .selecting then do
    let _ ← issue .revertUnsubmitted
    return ()
  else fail (K := offerKit) .filling
    "fill outcome unknown after restart; check the offer address"

/-- What a tick does for one row it listed. -/
def tickRow : Prog offerKit Unit :=
  match deps.settle with
  | none => return ()
  | some settling => do
    let read ← issue (K := offerKit) .get
    let row : OfferFillRow := read
    match row.state with
    | .filling => recoverFilling row
    | .fillable => fillRow deps settling row
    | _ => return ()

end Service

/-! ## The code keeps to the latch -/

variable {AssetId : Type} (deps : AssetOfferDeps AssetId)

/-- What is asked before the claim is licensed from any notes. -/
theorem free_withinTolerance (input : OfferFillInput) :
    (latchDiscipline offerKit).Free (withinTolerance deps input) := by
  unfold withinTolerance
  split
  · exact Discipline.free_ret _
  · split
    · exact Discipline.free_ret _
    · split
      · exact Discipline.free_ret _
      · refine (Discipline.free_issue fun _ => trivial).bind fun read => ?_
        dsimp only
        split
        · exact Discipline.free_ret _
        · exact Discipline.free_ret _

/-- Asking for approval needs nothing of the latch. -/
theorem free_askApprovalFor (row : OfferFillRow) :
    (latchDiscipline offerKit).Free (askApprovalFor deps row) := by
  unfold askApprovalFor
  split
  · exact free_demand
  · exact Discipline.free_ret _

/-- A row that is held may always end stuck. -/
theorem mayMove_stuck (note : FillNote) (columns : List OfferFillColumn) :
    mayMove (K := offerKit) note .filling .stuck columns := .inr ⟨rfl, .inl rfl⟩

/-- It is filled by who submitted. -/
theorem mayMove_filled {note : FillNote} (h : note.sent = true)
    (columns : List OfferFillColumn) :
    mayMove (K := offerKit) note .filling .filled columns := .inr ⟨rfl, .inr ⟨rfl, h⟩⟩

/-- A row that waits may be refused. -/
theorem mayMove_refused (note : FillNote) (columns : List OfferFillColumn) :
    mayMove (K := offerKit) note .fillable .refused columns :=
  .inl ⟨rfl, nofun, nofun⟩

/-- It may be claimed, with the phase written. -/
theorem mayMove_claim (note : FillNote) :
    mayMove (K := offerKit) note .fillable .filling [OfferFillColumn.fillPhase .selecting] :=
  .inl ⟨rfl, nofun, fun _ _ => rfl⟩

/-- A failed settlement is recorded without touching the latch. -/
theorem free_settleFailed (error : FloatFault) :
    (latchDiscipline offerKit).Free (settleFailed error) := by
  have hfail : ∀ reason, (latchDiscipline offerKit).Free
      (fail (K := offerKit) .filling reason) :=
    fun reason => free_fail fun note => mayMove_stuck note _
  unfold settleFailed
  refine (Discipline.free_issue fun _ => trivial).bind fun deferrals => ?_
  split
  · split
    · refine (Discipline.free_issue fun _ => trivial).bind fun reverted => ?_
      split
      · exact Discipline.free_issue fun _ => trivial
      · exact Discipline.free_ret _
    · exact hfail _
  · exact hfail _

/-- A filling row is walked back within the latch discipline. -/
theorem free_recoverFilling (row : OfferFillRow) :
    (latchDiscipline offerKit).Free (recoverFilling row) := by
  unfold recoverFilling
  split
  · exact (Discipline.free_issue fun _ => trivial).bind fun _ => Discipline.free_ret _
  · exact free_fail fun note => mayMove_stuck note _

/-- Filling a row obeys the latch discipline. -/
theorem free_fillRow (settling : SettleDeps AssetId) (row : OfferFillRow) :
    (latchDiscipline offerKit).Free (fillRow deps settling row) := by
  unfold fillRow
  refine (free_withinTolerance deps _).bind fun priced => ?_
  split
  · exact free_fail fun note => mayMove_refused note _
  · refine (free_askApprovalFor deps row).bind fun approved => ?_
    split
    · exact Discipline.free_ret _
    · intro note
      refine (obeys_transition fun _ => mayMove_claim note).bind fun claimed after _ => ?_
      split
      · trivial
      · refine Discipline.Obeys.tryCatch ?_ fun error other => free_settleFailed error other
        refine (obeys_settle (obeys_offerSettle settling _ _)).bind fun txid sent hsent => ?_
        exact (obeys_transition fun _ => mayMove_filled hsent _).bind fun _ _ _ => trivial

/-- A tick of the row obeys the latch discipline. -/
theorem free_tickRow : (latchDiscipline offerKit).Free (tickRow deps) := by
  unfold tickRow
  split
  · exact Discipline.free_ret _
  · refine (Discipline.free_issue fun _ => trivial).bind fun row => ?_
    dsimp only
    split
    · exact free_recoverFilling row
    · exact free_fillRow deps _ row
    · exact Discipline.free_ret _

/-! ## Every run -/

/-- Any number of processes tick over one row. -/
abbrev offerMachine (AssetId : Type) : Machine :=
  fillMachine offerKit fun deps : AssetOfferDeps AssetId => tickRow deps

/-- However many processes tick over a row, each recovering what it did not start, in any
order and with crashes anywhere, from any state and phase the row was found in: one submission
is made at most, by who won the latch; a row is claimed or walked back only while none was
made; after it the row is filling, filled or stuck; and a row found without a phase is never
submitted. -/
theorem offer_submitted_once {AssetId : Type} {first : OfferFillRow} {clock : ℤ}
    {events : List (Event (offerMachine AssetId))} {final : Config (offerMachine AssetId)}
    (h : run (boot (found (K := offerKit) first clock)) events = some final) :
    SubmittedOnce first final.world :=
  submittedOnce_of_run free_tickRow h

/-- The row of the sample packet. -/
def sampleRow : OfferFillRow where
  id := "row"
  state := .fillable
  fillPhase := none
  updatedAt := 0
  offerTxid := "deposit"
  offerVout := 1
  offerPkScript := "51"
  wantAssetId := some "asset"
  wantAmount := 40
  offerAssetId := none
  offerAmount := 1000
  fillTxid := none
  failureReason := none

/-- A service without prices or approvals. -/
def sampleService : AssetOfferDeps Unit where
  pricing := none
  fetchPrice := false
  carrierSats := 330
  chargesDeliveredCarrier := false
  settle := some sampleDeps
  approvalGate := false

/-- The outside answers as the sample settle expects. -/
def sampleReply : FillReply offerKit where
  answer
    | .fetchPrice _ _ => Except.error (FloatFault.error "no feed")
    | .approval _ _ _ => Except.ok true
  settled
    | .fetchTx _ => .ok (some "psbt")
    | .getVtxos _ _ => .ok ⟨sampleOutputs, none⟩
    | .getSpendableVtxos => .ok [sampleCoin]
    | .pin _ => .ok (0, [sampleCoin])
    | .markSubmitting => .ok false
    | .fillOffer _ => .ok "fill"
    | .release _ => ()

/-- The first process claims the row; the second walks it back and claims it; the first then
wins the latch on the claim of the second and fills the offer. -/
def sampleEvents : List (Event (offerMachine Unit)) :=
  [.start 0 sampleService, .act 0 sampleReply, .act 0 sampleReply,
    .start 1 sampleService, .act 1 sampleReply, .act 1 sampleReply,
    .start 1 sampleService, .act 1 sampleReply, .act 1 sampleReply] ++
  List.replicate 8 (.act 0 sampleReply) ++ List.replicate 6 (.act 1 sampleReply)

/-- The sample run submits the fill once, though both processes claimed the row. -/
theorem offer_submitted_once_sample :
    ∃ final, run (boot (found (K := offerKit) sampleRow 0)) sampleEvents = some final ∧
      final.world.deeds = [(0, .committed), (0, .won)] ∧
      SubmittedOnce (K := offerKit) sampleRow final.world := by
  have hdeeds : (run (boot (found (K := offerKit) sampleRow 0)) sampleEvents).map
      (fun final => final.world.deeds) = some [(0, .committed), (0, .won)] := by
    decide +kernel
  obtain ⟨final, hr, hd⟩ := Option.map_eq_some_iff.mp hdeeds
  exact ⟨final, hr, hd, offer_submitted_once hr⟩

end IntentSolver.OfferFills
