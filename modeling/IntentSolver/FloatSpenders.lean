import IntentSolver.EventLoop
import IntentSolver.OfferFulfill

/-!
# Spenders of one float

Lockups are funded and offers filled out of the same coins, by any number of calls of one
process. Each call reads what is spendable, and then selects and pins in a single turn. The
pins keep the selections of calls in flight apart, and every call gives its own back however it
ends.
-/

namespace IntentSolver.FloatSpenders

open ArkadeLockup CoinReservations EventLoop LockupFunding OfferFulfill OfferTerms WorkerProgram

/-! ## What a call does -/

/-- Stamps a funding for a claim: the packet, and the tree it is for. -/
structure ClaimPacketStamp where
  packet : String
  tapTree : String
  deriving DecidableEq

/-- What the wallet is asked to send. -/
structure LockupSend where
  address : String
  amountSats : ℤ
  stamp : Option ClaimPacketStamp
  selectedVtxos : List Coin
  deriving DecidableEq

/-- What spends coins of the float. -/
inductive Submission where
  | send (funding : LockupSend)
  | fill (request : FillRequest)
  deriving DecidableEq

/-- The coins a submission is handed. -/
def Submission.outpoints : Submission → List Outpoint
  | send funding => funding.selectedVtxos.map Coin.outpoint
  | fill request => request.fund.map fun coin => ⟨coin.txid, coin.vout⟩

/-- How a submission fails. -/
inductive SubmissionFault where
  /-- The operator's `AMOUNT_TOO_LOW`. -/
  | amountTooLow (message : String)
  | other (message : String)
  deriving DecidableEq

/-- As a caller throws it on. -/
def SubmissionFault.fault : SubmissionFault → FloatFault
  | amountTooLow message => .error message
  | other message => .error message

/-- What a call issues. -/
inductive FloatOp where
  | getSpendableVtxos
  /-- Read the clock and the pins, select, and pin what was selected. -/
  | pin (select : Selection)
  | markSubmitting
  /-- The submission leaves. -/
  | submit (submission : Submission)
  /-- Its answer, or its failure. -/
  | outcome
  | release (handle : ℕ)

/-- What it answers. -/
abbrev FloatOp.Ans : FloatOp → Type
  | getSpendableVtxos => Except FloatFault (List Coin)
  | pin _ => Except FloatFault (ℕ × List Coin)
  | markSubmitting => Except FloatFault Bool
  | submit _ => Unit
  | outcome => Except SubmissionFault String
  | release _ => Unit

/-- Code of a call. -/
abbrev Spending (α : Type) : Type := Program FloatOp.Ans FloatFault α

/-- One action. -/
def issue (op : FloatOp) : Spending op.Ans := Program.issue op

/-- A read or a write whose failure is thrown. -/
def orThrow {α : Type} (result : Except FloatFault α) : Spending α := Program.ofExcept result

/-- The coins that may be spent. -/
def getSpendableVtxos : Spending (List Coin) :=
  (issue .getSpendableVtxos).bind orThrow

/-- Select and pin. -/
def pin (select : Selection) : Spending (ℕ × List Coin) := (issue (.pin select)).bind orThrow

/-- Submit, and wait for the answer. -/
def submitted (submission : Submission) : Spending (Except SubmissionFault String) :=
  (issue (.submit submission)).bind fun _ => issue .outcome

/-- How a fill acts in this process; the latch only where there is a row. -/
def fulfillPort (latched : Bool) : FulfillPort FloatOp.Ans where
  getSpendableVtxos := getSpendableVtxos
  pin := pin
  markSubmitting :=
    if latched then some ((issue .markSubmitting).bind orThrow) else none
  fillOffer request := (submitted (.fill request)).bind fun outcome =>
    orThrow (outcome.mapError SubmissionFault.fault)
  release handle := issue (.release handle)

/-- What of the deployment a funding reads. -/
structure FundContext where
  dustSats : ℤ
  vtxoMinSats : ℤ

/-- What a lockup funding is asked for. -/
structure FundRequest where
  address : String
  amountSats : ℤ
  stamp : Option ClaimPacketStamp
  horizonSeconds : ℤ

/-- The question put to the selection of lockup funding. -/
def fundingRequest (ctx : FundContext) (request : FundRequest) (spendable : List Coin) (now : ℤ)
    (reserved : String → Bool) : LockupFundingRequest where
  candidates := spendable
  amountSats := request.amountSats
  horizonSeconds := request.horizonSeconds
  nowSeconds := now
  reserved := reserved
  dustSats := ctx.dustSats
  vtxoMinSats := ctx.vtxoMinSats

/-- Coins that fund a lockup, among those nobody has pinned. -/
def fundingInputs (ctx : FundContext) (request : FundRequest) (spendable : List Coin) :
    Selection :=
  fun now reserved =>
    match selectLockupFunding (fundingRequest ctx request spendable now reserved) with
    | .ok inputs _ => .ok inputs
    | .refused reason => .error (.fundNotSubmitted ("refusing to fund lockup of " ++
        toString request.amountSats ++ " sats: " ++ reason.reason))

/-- The half that runs before any funding request exists. -/
def selectFundingInputs (ctx : FundContext) (request : FundRequest) : Spending (ℕ × List Coin) :=
  getSpendableVtxos.bind fun spendable => pin (fundingInputs ctx request spendable)

/-- A failure before the submission is known to have submitted nothing. -/
def notSubmitted (request : FundRequest) : FloatFault → FloatFault
  | .fundNotSubmitted message => .fundNotSubmitted message
  | _ => .fundNotSubmitted ("failed to select coins to fund a lockup of " ++
      toString request.amountSats ++ " sats")

/-- The send, whose ambiguous failures stay as they are. -/
def sendFunding (request : FundRequest) (inputs : List Coin) : Spending String :=
  (submitted (.send ⟨request.address, request.amountSats, request.stamp, inputs⟩)).bind fun
    | .ok txid => .ret txid
    | .error (.amountTooLow _) => .throw
        (.fundNotSubmitted "arkd rejected a sub-minimum funding output before submission")
    | .error fault => .throw fault.fault

/-- Fund a lockup. -/
def fundLockup (ctx : FundContext) (request : FundRequest) : Spending String :=
  (Program.tryCatch (selectFundingInputs ctx request) fun error =>
      .throw (notSubmitted request error)).bind fun selection =>
    (sendFunding request selection.2).andFinally (issue (.release selection.1))

/-! ## The process -/

/-- What the calls share, and what was submitted so far by which of them. -/
structure FloatState where
  ledger : ReservationLedger
  sent : List (ℕ × Submission)

/-- What the outside world decides. -/
inductive FloatReply where
  | spendable (answer : Except FloatFault (List Coin))
  | clock (now : ℤ)
  | latch (answer : Except FloatFault Bool)
  | done
  | outcome (answer : Except SubmissionFault String)

/-- One action of one call. -/
def perform (call : ℕ) :
    (op : FloatOp) → FloatReply → FloatState → Option (op.Ans × FloatState)
  | .getSpendableVtxos, .spendable answer, state => some (answer, state)
  | .pin select, .clock now, state =>
    match select now state.ledger.reserved with
    | .error error => some (.error error, state)
    | .ok coins => some (.ok (state.ledger.reservations.length, coins),
        { state with ledger := state.ledger.reserve (coins.map Coin.outpoint) })
  | .markSubmitting, .latch answer, state => some (answer, state)
  | .submit submission, .done, state =>
    some ((), { state with sent := state.sent ++ [(call, submission)] })
  | .outcome, .outcome answer, state => some (answer, state)
  | .release handle, .done, state => some ((), { state with ledger := state.ledger.release handle })
  | _, _, _ => none

/-- What can be called. -/
inductive FloatJob (AssetId : Type) where
  | fundLockup (request : FundRequest)
  | fulfillOffer (offer : Offer AssetId) (deposit : OfferDepositOutpoint) (latched : Bool)

/-- The spenders of one float. -/
def Spenders {AssetId : Type} (sdk : SwapSdk AssetId) (fund : FundContext) (fill : FillContext) :
    Process where
  Op := FloatOp
  Ans := FloatOp.Ans
  Err := FloatFault
  State := FloatState
  Reply := FloatReply
  Job := FloatJob AssetId
  Result := String
  perform := perform
  program
    | .fundLockup request => fundLockup fund request
    | .fulfillOffer offer deposit latched =>
      fulfillOffer sdk fill (fulfillPort latched) offer deposit

/-- Nothing is pinned and nothing was submitted. -/
def idleFloat : FloatState := ⟨createReservationLedger, []⟩

/-! ## What a call has learnt -/

/-- The coins pay the amount, and the change is nothing or what the operator accepts, with an
asset's own carrier where one rides along. -/
def PaysLockup (ctx : FundContext) (amountSats : ℤ) (coins : List Coin) : Prop :=
  amountSats ≤ (coins.map (usableSatsOf · ctx.dustSats)).sum ∧
    ((coins.map Coin.value).sum - amountSats = 0 ∨
      max ctx.vtxoMinSats (if coins.any (fun coin => !coin.assets.isEmpty) then ctx.dustSats else 0)
        ≤ (coins.map Coin.value).sum - amountSats)

/-- What every submission must be. -/
def Submission.Sound (ctx : FundContext) : Submission → Prop
  | send funding => PaysLockup ctx funding.amountSats funding.selectedVtxos
  | fill _ => True

/-- Where a call stands. -/
inductive Stage where
  /-- It holds no coins yet. -/
  | choosing
  /-- It pinned these, by this selection. -/
  | pinned (handle : ℕ) (coins : List Coin) (select : Selection)
  /-- It has handed them to a submission. -/
  | sent (handle : ℕ) (coins : List Coin)
  /-- It has given them back. -/
  | ended

/-- The reservation a call has, and what it includes. -/
def Stage.hold : Stage → Option (ℕ × List Coin)
  | pinned handle coins _ => some (handle, coins)
  | sent handle coins => some (handle, coins)
  | _ => none

/-- What a call may do where it stands. -/
def Stage.May (ctx : FundContext) : Stage → FloatOp → Prop
  | .choosing, .getSpendableVtxos => True
  | .choosing, .pin select => TakesFree select
  | .pinned _ _ _, .markSubmitting => True
  | .pinned _ coins select, .submit submission =>
    submission.outpoints = coins.map Coin.outpoint ∧
      ∀ now reserved, select now reserved = .ok coins → submission.Sound ctx
  | .sent _ _, .outcome => True
  | .pinned handle _ _, .release given => given = handle
  | .sent handle _, .release given => given = handle
  | _, _ => False

/-- Where a call stands after one more answer. -/
def Stage.learn : Stage → (op : FloatOp) → op.Ans → Stage
  | .choosing, .pin select, .ok (handle, coins) => .pinned handle coins select
  | .pinned handle coins _, .submit _, _ => .sent handle coins
  | _, .release _, _ => .ended
  | stage, _, _ => stage

/-- One pin, then one submission of what was pinned, then one release. -/
def spendDiscipline (ctx : FundContext) : Discipline FloatOp.Ans where
  Note := Stage
  fresh := .choosing
  may := Stage.May ctx
  learn := Stage.learn

section Calls

variable {ctx : FundContext}

/-- Submitting what was pinned leaves it submitted, however it is answered. -/
theorem ends_submitted {handle : ℕ} {coins : List Coin} {select : Selection}
    {submission : Submission} (ho : submission.outpoints = coins.map Coin.outpoint)
    (hs : ∀ now reserved, select now reserved = .ok coins → submission.Sound ctx) :
    (spendDiscipline ctx).Ends (.pinned handle coins select) (submitted submission)
      (fun _ stage => stage.hold = some (handle, coins))
      fun _ stage => stage.hold = some (handle, coins) :=
  ⟨⟨ho, hs⟩, fun _ => ⟨trivial, fun _ => rfl⟩⟩

/-- A release ends the call. -/
theorem ends_release {stage : Stage} {handle : ℕ} {coins : List Coin}
    (h : stage.hold = some (handle, coins)) :
    (spendDiscipline ctx).Ends stage (issue (.release handle)) (fun _ after => after.hold = none)
      fun _ after => after.hold = none := by
  cases stage with
  | choosing => cases h
  | pinned held taken select =>
    cases h
    exact ⟨rfl, fun _ => rfl⟩
  | sent held taken =>
    cases h
    exact ⟨rfl, fun _ => rfl⟩
  | ended => cases h

/-- A selection that fails pins nothing. -/
theorem ends_pin {select : Selection} (h : TakesFree select) :
    (spendDiscipline ctx).Ends .choosing (pin select)
      (fun pinned stage => stage = .pinned pinned.1 pinned.2 select)
      fun _ stage => stage = .choosing := by
  refine ⟨h, fun answer => ?_⟩
  cases answer with
  | ok pinned => rfl
  | error error => rfl

/-- Choosing coins leaves the spender choosing, however it ends. -/
theorem ends_getSpendableVtxos :
    (spendDiscipline ctx).Ends .choosing getSpendableVtxos
      (fun _ stage => stage = .choosing) fun _ stage => stage = .choosing := by
  refine ⟨trivial, fun answer => ?_⟩
  cases answer with
  | ok coins => rfl
  | error error => rfl

/-- A lockup's selection takes free coins that pay it. -/
theorem fundingInputs_spec {request : FundRequest} {spendable : List Coin} {now : ℤ}
    {reserved : String → Bool} {coins : List Coin}
    (h : fundingInputs ctx request spendable now reserved = .ok coins) :
    PaysLockup ctx request.amountSats coins ∧
      ∀ coin ∈ coins, reserved (outpointKey coin.outpoint) = false := by
  unfold fundingInputs at h
  split at h
  next inputs clearedHorizon hselected =>
    cases h
    obtain ⟨hfunds, hfree⟩ := selectLockupFunding_ok hselected
    refine ⟨hfunds, fun coin hc => ?_⟩
    have hpinned := (List.mem_filter.mp (hfree hc)).2
    rwa [Bool.not_eq_true'] at hpinned
  next => cases h

/-- Sending what was pinned leaves it held. -/
theorem ends_sendFunding {handle : ℕ} {coins : List Coin} {request : FundRequest}
    {spendable : List Coin} :
    (spendDiscipline ctx).Ends (.pinned handle coins (fundingInputs ctx request spendable))
      (sendFunding request coins) (fun _ stage => stage.hold = some (handle, coins))
      fun _ stage => stage.hold = some (handle, coins) := by
  unfold sendFunding
  have hsound : ∀ now reserved, fundingInputs ctx request spendable now reserved = .ok coins →
      (Submission.send ⟨request.address, request.amountSats, request.stamp, coins⟩).Sound ctx :=
    fun _ _ hselected => (fundingInputs_spec hselected).1
  refine (ends_submitted rfl hsound).bind fun outcome stage hheld => ?_
  cases outcome with
  | ok txid => exact hheld
  | error fault =>
    cases fault with
    | amountTooLow message => exact hheld
    | other message => exact hheld

/-- A lockup funding ends holding nothing. -/
theorem ends_fundLockup (request : FundRequest) :
    (spendDiscipline ctx).Ends .choosing (fundLockup ctx request)
      (fun _ stage => stage.hold = none) fun _ stage => stage.hold = none := by
  have hselect : (spendDiscipline ctx).Ends .choosing (selectFundingInputs ctx request)
      (fun pinned stage => ∃ spendable,
        stage = .pinned pinned.1 pinned.2 (fundingInputs ctx request spendable))
      fun _ stage => stage = .choosing := by
    refine ends_getSpendableVtxos.bind ?_
    rintro spendable stage rfl
    have hfree : TakesFree (fundingInputs ctx request spendable) :=
      fun _ _ _ hselected => (fundingInputs_spec hselected).2
    exact (ends_pin hfree).mono (fun _ _ hs => ⟨spendable, hs⟩) fun _ _ hs => hs
  refine (hselect.tryCatch fun error stage hs => ?_).bind ?_
  · rw [hs]
    rfl
  · rintro pinned stage ⟨spendable, rfl⟩
    exact ends_sendFunding.andFinally fun after hheld => ends_release hheld

section Fill

variable {AssetId : Type} {sdk : SwapSdk AssetId} (fill : FillContext) (latched : Bool)
  (offer : Offer AssetId) (deposit : OfferDepositOutpoint)

/-- Claiming the latch leaves the coins pinned. -/
theorem ends_claimLatch {handle : ℕ} {coins : List Coin} {select : Selection} :
    (spendDiscipline ctx).Ends (.pinned handle coins select)
      (claimLatch (fulfillPort latched) deposit)
      (fun _ stage => stage = .pinned handle coins select)
      fun _ stage => stage.hold = some (handle, coins) := by
  cases latched with
  | false => rfl
  | true =>
    refine ⟨trivial, fun answer => ?_⟩
    cases answer with
    | error error => rfl
    | ok won =>
      cases won with
      | true => rfl
      | false => rfl

/-- The coins of a fill are those it declares. -/
theorem outpoints_fillRequest (coins : List Coin) :
    (Submission.fill (fillRequest sdk fill offer deposit coins)).outpoints =
      coins.map Coin.outpoint := by
  have hmap : ((coins.map fillFunding).map fun coin => (⟨coin.txid, coin.vout⟩ : Outpoint)) =
      coins.map Coin.outpoint := by
    rw [List.map_map]
    rfl
  exact hmap

/-- The last steps of a fill keep the coins held. -/
theorem ends_submitFill {handle : ℕ} {coins : List Coin} {select : Selection} :
    (spendDiscipline ctx).Ends (.pinned handle coins select)
      (submitFill sdk fill (fulfillPort latched) offer deposit coins)
      (fun _ stage => stage.hold = some (handle, coins))
      fun _ stage => stage.hold = some (handle, coins) := by
  refine (ends_claimLatch latched deposit).bind ?_
  rintro _ stage rfl
  have hcoins := @outpoints_fillRequest _ sdk fill offer deposit coins
  refine (ends_submitted hcoins fun _ _ _ => trivial).bind fun outcome stage hheld => ?_
  cases outcome with
  | ok txid => exact hheld
  | error fault => exact hheld

/-- A fill ends holding nothing. -/
theorem ends_fulfillOffer (hsdk : Selects sdk) :
    (spendDiscipline ctx).Ends .choosing
      (fulfillOffer sdk fill (fulfillPort latched) offer deposit)
      (fun _ stage => stage.hold = none) fun _ stage => stage.hold = none := by
  unfold fulfillOffer
  split
  · rfl
  · split
    · rfl
    · refine (ends_getSpendableVtxos.mono (fun _ _ hs => hs) fun _ stage hs => ?_).bind ?_
      · rw [hs]
        rfl
      rintro spendable stage rfl
      refine ((ends_pin (makerFunding_takesFree hsdk offer spendable)).mono (fun _ _ hs => hs)
        fun _ stage hs => ?_).bind ?_
      · rw [hs]
        rfl
      rintro pinned stage rfl
      exact (ends_submitFill fill latched offer deposit).andFinally
        fun after hheld => ends_release hheld

end Fill

end Calls

/-! ## The invariant -/

/-- The keys a list of coins is pinned under. -/
def keysOf (coins : List Coin) : List String := (coins.map Coin.outpoint).map outpointKey

/-- The ledger is what the calls hold, no two of them share a key, and what was submitted is
sound and still held, or given back. -/
structure Inv (ctx : FundContext) (state : FloatState) (stages : List Stage) : Prop where
  balanced : Balanced state.ledger
  /-- What a call holds is reserved for it. -/
  held : ∀ (call : ℕ) (stage : Stage) (handle : ℕ) (coins : List Coin),
    stages[call]? = some stage → stage.hold = some (handle, coins) →
    state.ledger.reservations[handle]? = some ⟨keysOf coins, false⟩
  /-- What is reserved is held by a call. -/
  owned : ∀ (handle : ℕ) (reservation : Reservation),
    state.ledger.reservations[handle]? = some reservation → reservation.released = false →
    ∃ (call : ℕ) (stage : Stage) (coins : List Coin), stages[call]? = some stage ∧
      stage.hold = some (handle, coins)
  /-- Two calls hold two reservations. -/
  alone : ∀ (first second : ℕ) (stage other : Stage) (handle : ℕ) (coins more : List Coin),
    stages[first]? = some stage → stages[second]? = some other →
    stage.hold = some (handle, coins) → other.hold = some (handle, more) → first = second
  /-- Two reservations in force have no key in common. -/
  apart : ∀ (first second : ℕ) (one other : Reservation), first ≠ second →
    state.ledger.reservations[first]? = some one →
    state.ledger.reservations[second]? = some other →
    one.released = false → other.released = false → one.keys.Disjoint other.keys
  /-- What is pinned was selected. -/
  chosen : ∀ (call handle : ℕ) (coins : List Coin) (select : Selection),
    stages[call]? = some (.pinned handle coins select) →
    ∃ now reserved, select now reserved = .ok coins
  sound : ∀ entry ∈ state.sent, entry.2.Sound ctx
  /-- A call submits once. -/
  once : (state.sent.map Prod.fst).Nodup
  /-- A call that submitted still holds the coins, or is over. -/
  sentBy : ∀ entry ∈ state.sent, ∃ stage, stages[entry.1]? = some stage ∧
    (stage = .ended ∨ ∃ handle coins, stage = .sent handle coins ∧
      entry.2.outpoints = coins.map Coin.outpoint)

section Steps

variable {ctx : FundContext} {state : FloatState} {stages : List Stage} {call : ℕ}

/-- A call that begins holds nothing. -/
theorem Inv.enter (h : Inv ctx state stages) : Inv ctx state (stages ++ [.choosing]) where
  balanced := h.balanced
  held call stage handle coins hs hh := by
    obtain ⟨-, rfl⟩ | ⟨-, hs⟩ := getElem?_concat_cases hs
    · cases hh
    · exact h.held call stage handle coins hs hh
  owned handle reservation hr hf := by
    obtain ⟨call, stage, coins, hs, hh⟩ := h.owned handle reservation hr hf
    exact ⟨call, stage, coins, getElem?_concat_left hs, hh⟩
  alone first second stage other handle coins more hs ho hh hm := by
    obtain ⟨-, rfl⟩ | ⟨-, hs⟩ := getElem?_concat_cases hs
    · cases hh
    · obtain ⟨-, rfl⟩ | ⟨-, ho⟩ := getElem?_concat_cases ho
      · cases hm
      · exact h.alone first second stage other handle coins more hs ho hh hm
  apart := h.apart
  chosen call handle coins select hs := by
    obtain ⟨-, hn⟩ | ⟨-, hs⟩ := getElem?_concat_cases hs
    · cases hn
    · exact h.chosen call handle coins select hs
  sound := h.sound
  once := h.once
  sentBy entry hm := by
    obtain ⟨stage, hs, hstands⟩ := h.sentBy entry hm
    exact ⟨stage, getElem?_concat_left hs, hstands⟩

/-- Coins that are free are pinned for the call that selected them. -/
theorem Inv.pin (h : Inv ctx state stages) {select : Selection} (htakes : TakesFree select)
    (hc : stages[call]? = some .choosing) {now : ℤ} {coins : List Coin}
    (hselect : select now state.ledger.reserved = .ok coins) :
    Inv ctx { state with ledger := state.ledger.reserve (coins.map Coin.outpoint) }
      (stages.set call (.pinned state.ledger.reservations.length coins select)) where
  balanced := h.balanced.reserve _
  held other stage handle taken hs hh := by
    obtain ⟨-, rfl⟩ | ⟨-, hs⟩ := getElem?_set_cases hs
    · cases hh
      exact List.getElem?_concat_length
    · exact getElem?_concat_left (h.held other stage handle taken hs hh)
  owned handle reservation hr hf := by
    obtain ⟨rfl, rfl⟩ | ⟨-, hr⟩ := getElem?_concat_cases hr
    · exact ⟨call, _, coins, getElem?_set_own hc, rfl⟩
    · obtain ⟨other, stage, taken, hs, hh⟩ := h.owned handle reservation hr hf
      refine ⟨other, stage, taken, getElem?_set_other ?_ hs, hh⟩
      rintro rfl
      rw [hc] at hs
      cases hs
      cases hh
  alone first second stage other handle taken more hs ho hh hm := by
    -- No call has held the new reservation before.
    have hnew : ∀ (index : ℕ) (old : Stage) (given : List Coin), stages[index]? = some old →
        old.hold ≠ some (state.ledger.reservations.length, given) := by
      intro index old given hi hg
      have hlt := (List.getElem?_eq_some_iff.mp (h.held index old _ given hi hg)).1
      exact absurd hlt (lt_irrefl _)
    obtain ⟨hfirst, rfl⟩ | ⟨-, hs'⟩ := getElem?_set_cases hs
    · obtain ⟨hsecond, -⟩ | ⟨-, ho'⟩ := getElem?_set_cases ho
      · exact hfirst.trans hsecond.symm
      · cases hh
        exact absurd hm (hnew second other more ho')
    · obtain ⟨-, rfl⟩ | ⟨-, ho'⟩ := getElem?_set_cases ho
      · cases hm
        exact absurd hh (hnew first stage taken hs')
      · exact h.alone first second stage other handle taken more hs' ho' hh hm
  apart first second one other hne hone hother hf hg := by
    -- What was selected was under no reservation in force.
    have hfresh : ∀ (handle : ℕ) (reservation : Reservation),
        state.ledger.reservations[handle]? = some reservation → reservation.released = false →
        (keysOf coins).Disjoint reservation.keys := by
      intro handle reservation hr hforce key hk hmem
      obtain ⟨outpoint, ho, rfl⟩ := List.mem_map.mp hk
      obtain ⟨coin, hcoin, rfl⟩ := List.mem_map.mp ho
      have hfree := htakes now _ coins hselect coin hcoin
      have hpinned := (h.balanced.reserved_iff (outpointKey coin.outpoint)).mpr
        ⟨reservation, List.mem_of_getElem? hr, hforce, hmem⟩
      rw [hfree] at hpinned
      cases hpinned
    obtain ⟨hlast, rfl⟩ | ⟨hlt, hone⟩ := getElem?_concat_cases hone
    · obtain ⟨hlast', -⟩ | ⟨-, hother⟩ := getElem?_concat_cases hother
      · exact absurd (hlast.trans hlast'.symm) hne
      · exact hfresh second other hother hg
    · obtain ⟨-, rfl⟩ | ⟨-, hother⟩ := getElem?_concat_cases hother
      · exact List.disjoint_comm.mp (hfresh first one hone hf)
      · exact h.apart first second one other hne hone hother hf hg
  chosen other handle taken selection hs := by
    obtain ⟨-, hn⟩ | ⟨-, hs⟩ := getElem?_set_cases hs
    · cases hn
      exact ⟨now, _, hselect⟩
    · exact h.chosen other handle taken selection hs
  sound := h.sound
  once := h.once
  sentBy entry hm := by
    obtain ⟨stage, hs, hstands⟩ := h.sentBy entry hm
    refine ⟨stage, getElem?_set_other ?_ hs, hstands⟩
    intro he
    rw [he, hc] at hs
    cases hs
    obtain hover | ⟨handle, taken, hsent, -⟩ := hstands
    · cases hover
    · cases hsent

/-- What a call holds it goes on holding while it moves on. -/
theorem Inv.submit (h : Inv ctx state stages) {handle : ℕ} {coins : List Coin}
    {select : Selection} (hc : stages[call]? = some (.pinned handle coins select))
    {submission : Submission} (ho : submission.outpoints = coins.map Coin.outpoint)
    (hs : submission.Sound ctx) :
    Inv ctx { state with sent := state.sent ++ [(call, submission)] }
      (stages.set call (.sent handle coins)) := by
  -- The other calls stand where they stood, and this one holds what it held.
  have hback : ∀ (index : ℕ) (stage : Stage) (held : ℕ) (taken : List Coin),
      (stages.set call (.sent handle coins))[index]? = some stage →
      stage.hold = some (held, taken) →
      ∃ old, stages[index]? = some old ∧ old.hold = some (held, taken) := by
    intro index stage held taken hi hh
    obtain ⟨rfl, rfl⟩ | ⟨-, hi⟩ := getElem?_set_cases hi
    · cases hh
      exact ⟨_, hc, rfl⟩
    · exact ⟨stage, hi, hh⟩
  have hfirst : call ∉ state.sent.map Prod.fst := by
    intro hm
    obtain ⟨entry, hentry, rfl⟩ := List.mem_map.mp hm
    obtain ⟨stage, hstage, hstands⟩ := h.sentBy entry hentry
    rw [hc] at hstage
    cases hstage
    obtain hover | ⟨held, taken, hsent, -⟩ := hstands
    · cases hover
    · cases hsent
  constructor
  · exact h.balanced
  · intro index stage held taken hi hh
    obtain ⟨old, hold, hheld⟩ := hback index stage held taken hi hh
    exact h.held index old held taken hold hheld
  · intro held reservation hr hf
    obtain ⟨index, stage, taken, hi, hh⟩ := h.owned held reservation hr hf
    by_cases he : index = call
    · rw [he, hc] at hi
      cases hi
      exact ⟨call, _, taken, getElem?_set_own hc, hh⟩
    · exact ⟨index, stage, taken, getElem?_set_other he hi, hh⟩
  · intro first second stage other held taken more hf hg hh hm
    obtain ⟨old, hold, hheld⟩ := hback first stage held taken hf hh
    obtain ⟨old', hold', hheld'⟩ := hback second other held more hg hm
    exact h.alone first second old old' held taken more hold hold' hheld hheld'
  · exact h.apart
  · intro index held taken selection hi
    obtain ⟨-, hn⟩ | ⟨-, hi⟩ := getElem?_set_cases hi
    · cases hn
    · exact h.chosen index held taken selection hi
  · intro entry hm
    obtain hm | hm := List.mem_append.mp hm
    · exact h.sound entry hm
    · rw [List.mem_singleton.mp hm]
      exact hs
  · rw [List.map_append]
    refine List.Nodup.append h.once (List.nodup_singleton _) ?_
    intro index hi hj
    rw [List.mem_singleton.mp hj] at hi
    exact hfirst hi
  · intro entry hm
    obtain hold | hnew := List.mem_append.mp hm
    · obtain ⟨stage, hstage, hstands⟩ := h.sentBy entry hold
      refine ⟨stage, getElem?_set_other ?_ hstage, hstands⟩
      rintro rfl
      exact hfirst (List.mem_map_of_mem hold)
    · rw [List.mem_singleton.mp hnew]
      exact ⟨_, getElem?_set_own hc, .inr ⟨handle, coins, rfl, ho⟩⟩

/-- A release of a reservation in force changes nothing but that. -/
theorem release_inForce {ledger : ReservationLedger} {handle : ℕ} {keys : List String}
    (h : ledger.reservations[handle]? = some ⟨keys, false⟩) :
    (ledger.release handle).reservations = ledger.reservations.set handle ⟨keys, true⟩ := by
  unfold ReservationLedger.release
  rw [h]
  rfl

/-- What a call gives back was nobody else's. -/
theorem Inv.release (h : Inv ctx state stages) {old : Stage} {handle : ℕ} {coins : List Coin}
    (hc : stages[call]? = some old) (hh : old.hold = some (handle, coins)) :
    Inv ctx { state with ledger := state.ledger.release handle } (stages.set call .ended) := by
  have hset := release_inForce (h.held call old handle coins hc hh)
  -- A reservation in force afterwards was in force before, and is another one.
  have hback : ∀ {index : ℕ} {reservation : Reservation},
      (state.ledger.release handle).reservations[index]? = some reservation →
      reservation.released = false →
      index ≠ handle ∧ state.ledger.reservations[index]? = some reservation := by
    intro index reservation hr hf
    rw [hset] at hr
    obtain ⟨-, rfl⟩ | ⟨hne, hr⟩ := getElem?_set_cases hr
    · cases hf
    · exact ⟨hne, hr⟩
  constructor
  · exact h.balanced.release handle
  · intro other stage held taken hs hheld
    obtain ⟨-, rfl⟩ | ⟨hne, hs⟩ := getElem?_set_cases hs
    · cases hheld
    · have hr := h.held other stage held taken hs hheld
      rw [hset]
      refine getElem?_set_other ?_ hr
      rintro rfl
      exact hne (h.alone other call stage old held taken coins hs hc hheld hh)
  · intro held reservation hr hf
    obtain ⟨hne, hr⟩ := hback hr hf
    obtain ⟨other, stage, taken, hs, hheld⟩ := h.owned held reservation hr hf
    refine ⟨other, stage, taken, getElem?_set_other ?_ hs, hheld⟩
    rintro rfl
    rw [hc] at hs
    cases hs
    rw [hh] at hheld
    cases hheld
    exact hne rfl
  · intro first second stage other held taken more hs ho hheld hm
    obtain ⟨-, rfl⟩ | ⟨-, hs'⟩ := getElem?_set_cases hs
    · cases hheld
    · obtain ⟨-, rfl⟩ | ⟨-, ho'⟩ := getElem?_set_cases ho
      · cases hm
      · exact h.alone first second stage other held taken more hs' ho' hheld hm
  · intro first second one other hne hone hother hf hg
    exact h.apart first second one other hne (hback hone hf).2 (hback hother hg).2 hf hg
  · intro other held taken selection hs
    obtain ⟨-, hn⟩ | ⟨-, hs⟩ := getElem?_set_cases hs
    · cases hn
    · exact h.chosen other held taken selection hs
  · exact h.sound
  · exact h.once
  · intro entry hm
    obtain ⟨stage, hs, hstands⟩ := h.sentBy entry hm
    by_cases he : entry.1 = call
    · refine ⟨.ended, ?_, .inl rfl⟩
      rw [he]
      exact getElem?_set_own hc
    · exact ⟨stage, getElem?_set_other he hs, hstands⟩

/-- A licensed release gives back what the call holds. -/
theorem hold_of_mayRelease {stage : Stage} {handle : ℕ} (h : stage.May ctx (.release handle)) :
    ∃ coins, stage.hold = some (handle, coins) := by
  cases stage with
  | choosing => cases h
  | pinned held coins select =>
    cases h
    exact ⟨coins, rfl⟩
  | sent held coins =>
    cases h
    exact ⟨coins, rfl⟩
  | ended => cases h

/-- Every licensed action keeps the invariant. -/
theorem inv_act {after : FloatState} {stage : Stage} {op : FloatOp} {reply : FloatReply}
    {answer : op.Ans} (h : Inv ctx state stages) (hc : stages[call]? = some stage)
    (hmay : stage.May ctx op) (hp : perform call op reply state = some (answer, after)) :
    Inv ctx after (stages.set call (stage.learn op answer)) := by
  cases op with
  | getSpendableVtxos =>
    cases reply with
    | spendable given =>
      cases hp
      cases stage with
      | choosing => exact (set_self hc).symm ▸ h
      | _ => cases hmay
    | _ => cases hp
  | pin select =>
    cases reply with
    | clock now =>
      cases stage with
      | choosing =>
        unfold perform at hp
        dsimp only at hp
        split at hp
        · cases hp
          exact (set_self hc).symm ▸ h
        next coins hselect =>
          cases hp
          exact h.pin hmay hc hselect
      | _ => cases hmay
    | _ => cases hp
  | markSubmitting =>
    cases reply with
    | latch given =>
      cases hp
      cases stage with
      | pinned handle coins select => exact (set_self hc).symm ▸ h
      | _ => cases hmay
    | _ => cases hp
  | submit submission =>
    cases reply with
    | done =>
      cases hp
      cases stage with
      | pinned handle coins select =>
        obtain ⟨now, reserved, hselect⟩ := h.chosen call handle coins select hc
        exact h.submit hc hmay.1 (hmay.2 now reserved hselect)
      | _ => cases hmay
    | _ => cases hp
  | outcome =>
    cases reply with
    | outcome given =>
      cases hp
      cases stage with
      | sent handle coins => exact (set_self hc).symm ▸ h
      | _ => cases hmay
    | _ => cases hp
  | release handle =>
    cases reply with
    | done =>
      cases hp
      obtain ⟨coins, hh⟩ := hold_of_mayRelease hmay
      have hover : stage.learn (.release handle) () = .ended := by
        cases stage with
        | _ => rfl
      rw [hover]
      exact h.release hc hh
    | _ => cases hp

end Steps

/-- Nothing has happened yet. -/
theorem inv_idleFloat (ctx : FundContext) : Inv ctx idleFloat [] where
  balanced := balanced_create
  held _ _ _ _ hs := by simp at hs
  owned _ _ hr := by simp [idleFloat, createReservationLedger] at hr
  alone _ _ _ _ _ _ _ hs := by simp at hs
  apart _ _ _ _ _ hr := by simp [idleFloat, createReservationLedger] at hr
  chosen _ _ _ _ hs := by simp at hs
  sound _ hm := nomatch hm
  once := List.nodup_nil
  sentBy _ hm := nomatch hm

/-! ## Any calls in any order -/

section Runs

variable {AssetId : Type} {sdk : SwapSdk AssetId} {fund : FundContext} {fill : FillContext}

/-- What is proved about all calls at once. -/
def spendingBooks (hsdk : Selects sdk) : Books (Spenders sdk fund fill) where
  discipline := spendDiscipline fund
  settled stage := stage.hold = none
  inv := Inv fund
  enter _ _ h := h.enter
  act _ _ _ _ _ _ _ _ h hc hmay hp := inv_act h hc hmay hp
  jobs job :=
    match job with
    | .fundLockup request => ends_fundLockup request
    | .fulfillOffer offer deposit latched => ends_fulfillOffer fill latched offer deposit hsdk

/-- What a call submitted it still holds, unless it is over. -/
theorem held_of_sent {config : Config (Spenders sdk fund fill)} {stages : List Stage}
    (hsdk : Selects sdk) (h : (spendingBooks hsdk).Holds config stages) {entry : ℕ × Submission}
    (hm : entry ∈ config.state.sent) {program : Program (Spenders sdk fund fill).Ans
      (Spenders sdk fund fill).Err (Spenders sdk fund fill).Result}
    (hp : config.calls[entry.1]? = some program) (hover : ¬ Over program) :
    ∃ handle coins, stages[entry.1]? = some (.sent handle coins) ∧
      entry.2.outpoints = coins.map Coin.outpoint := by
  obtain ⟨stage, hs, hstands⟩ := h.1.sentBy entry hm
  obtain rfl | ⟨handle, coins, rfl, ho⟩ := hstands
  · -- A call that gave its coins back may do nothing more.
    exfalso
    obtain ⟨hlt, hcall⟩ := List.getElem?_eq_some_iff.mp hp
    obtain ⟨hlt', hstage⟩ := List.getElem?_eq_some_iff.mp hs
    have hlicensed : (spendingBooks hsdk).Licensed config.calls[entry.1] stages[entry.1] :=
      (List.forall₂_iff_get.mp h.2).2 entry.1 hlt hlt'
    rw [hcall, hstage] at hlicensed
    cases program with
    | ret value => exact hover trivial
    | throw error => exact hover trivial
    | call op next =>
      have hmay : Stage.May fund .ended op := hlicensed.1
      cases op <;> cases hmay
  · exact ⟨handle, coins, hs, ho⟩

/-- In every run of any number of lockup fundings and fills: an outpoint is reserved exactly
while a reservation that includes it has not been given back; two calls in flight never hand
one outpoint to their submissions, and no call submits twice; every lockup is funded with
coins that pay it and change that may stand; and when all calls are over nothing is reserved. -/
theorem spenders_share_no_coin (hsdk : Selects sdk)
    {turns : List (Turn (Spenders sdk fund fill))} {final : Config (Spenders sdk fund fill)}
    (hr : run ⟨idleFloat, []⟩ turns = some final) :
    (∀ key, final.state.ledger.reserved key = true ↔
      ∃ reservation ∈ final.state.ledger.reservations, reservation.released = false ∧
        key ∈ reservation.keys) ∧
    (∀ first ∈ final.state.sent, ∀ second ∈ final.state.sent, first.1 ≠ second.1 →
      ∀ one other, final.calls[first.1]? = some one → final.calls[second.1]? = some other →
        ¬ Over one → ¬ Over other → first.2.outpoints.Disjoint second.2.outpoints) ∧
    (final.state.sent.map Prod.fst).Nodup ∧
    (∀ call funding, (call, Submission.send funding) ∈ final.state.sent →
      PaysLockup fund funding.amountSats funding.selectedVtxos) ∧
    ((∀ call ∈ final.calls, Over call) → ∀ key, final.state.ledger.reserved key = false) := by
  obtain ⟨stages, hholds⟩ := (spendingBooks hsdk).holds_of_run (inv_idleFloat fund) hr
  have hinv : Inv fund final.state stages := hholds.1
  refine ⟨fun key => hinv.balanced.reserved_iff key, ?_, hinv.once,
    fun call funding hm => hinv.sound _ hm, ?_⟩
  · intro first hf second hs hne one other hone hother hlive hlive'
    obtain ⟨handle, coins, hstage, hcoins⟩ := held_of_sent hsdk hholds hf hone hlive
    obtain ⟨handle', more, hstage', hmore⟩ := held_of_sent hsdk hholds hs hother hlive'
    have hreserved := hinv.held first.1 _ handle coins hstage rfl
    have hreserved' := hinv.held second.1 _ handle' more hstage' rfl
    have hapart : handle ≠ handle' := by
      rintro rfl
      exact hne (hinv.alone first.1 second.1 _ _ handle coins more hstage hstage' rfl rfl)
    have hdisjoint := hinv.apart handle handle' _ _ hapart hreserved hreserved' rfl rfl
    intro outpoint ho ho'
    rw [hcoins] at ho
    rw [hmore] at ho'
    exact hdisjoint (List.mem_map_of_mem ho) (List.mem_map_of_mem ho')
  · intro hover key
    by_contra hkey
    rw [Bool.not_eq_false] at hkey
    obtain ⟨reservation, hm, hforce, -⟩ := (hinv.balanced.reserved_iff key).mp hkey
    obtain ⟨handle, hlt, hget⟩ := List.mem_iff_getElem.mp hm
    obtain ⟨call, stage, coins, hs, hh⟩ :=
      hinv.owned handle reservation (List.getElem?_eq_some_iff.mpr ⟨hlt, hget⟩) hforce
    have hsettled := hholds.settled hover stage (List.mem_of_getElem? hs)
    have hnone : stage.hold = none := hsettled
    rw [hnone] at hh
    cases hh

end Runs

/-! ### A lockup and a fill at once -/

/-- Packages that select every coin they are given. -/
def sampleSdk : SwapSdk String where
  assetIdText text := text
  assetIdFrom text := .ok text
  hexDecode _ := .ok []
  offerVtxoScript _ _ := .ok []
  fundingTx _ := none
  encodeOffer _ := []
  selectVirtualCoins coins _ := .ok coins
  selectCoinsWithAsset coins _ _ := .ok coins

/-- A plain coin without an expiry. -/
def sampleCoin (txid : String) (value : ℤ) : Coin := ⟨txid, 0, value, none, [], "", ""⟩

/-- An offer that wants sats. -/
def sampleOffer : Offer String where
  wantAmount := 500
  wantAsset := none
  offerAsset := some "asset"
  makerPkScript := []
  makerPublicKey := []
  emulatorPubkey := []
  exitDelay := ⟨.blocks, 1⟩
  swapPkScript := []

/-- The spenders of a small deployment. -/
abbrev SampleSpenders : Process := Spenders sampleSdk ⟨330, 330⟩ ⟨[], "", "", 330⟩

/-- Two coins, read by both calls before either selects. -/
def sampleFloat : FloatReply := .spendable (.ok [sampleCoin "a" 1000, sampleCoin "b" 600])

/-- The lockup is funded with the first coin; the fill gets the other. -/
def sampleTurns : List (Turn SampleSpenders) :=
  [.enter (FloatJob.fundLockup ⟨"lockup", 1000, none, 60⟩),
    .enter (FloatJob.fulfillOffer sampleOffer ⟨"deposit", 0, 330, none⟩ true),
    .resume 0 sampleFloat, .resume 1 sampleFloat,
    .resume 0 (FloatReply.clock 0), .resume 1 (FloatReply.clock 0),
    .resume 0 FloatReply.done, .resume 1 (FloatReply.latch (.ok true)),
    .resume 1 FloatReply.done]

/-- The selections of both calls are in flight, apart, and the lockup is paid. -/
theorem spenders_share_no_coin_sample :
    ∃ final, run ⟨idleFloat, []⟩ sampleTurns = some final ∧
      final.state.sent.map (fun entry => (entry.1, entry.2.outpoints)) =
        [(0, [⟨"a", 0⟩]), (1, [⟨"b", 0⟩])] ∧
      (final.state.sent.map Prod.fst).Nodup := by
  have hselects : Selects sampleSdk := by
    constructor
    · intro coins sats selected h
      cases h
      exact fun _ hc => hc
    · intro coins assetId amount selected h
      cases h
      exact fun _ hc => hc
  have hsent : (run ⟨idleFloat, []⟩ sampleTurns).map (fun final =>
      final.state.sent.map fun entry => (entry.1, entry.2.outpoints)) =
        some [(0, [⟨"a", 0⟩]), (1, [⟨"b", 0⟩])] := by
    decide +kernel
  obtain ⟨final, hr, hs⟩ := Option.map_eq_some_iff.mp hsent
  exact ⟨final, hr, hs, (spenders_share_no_coin hselects hr).2.2.1⟩

end IntentSolver.FloatSpenders
