import IntentSolver.Fallible
import IntentSolver.IndexerPaging
import IntentSolver.OfferFulfill

/-!
# Settling a recorded offer

A row says what was priced; the chain says what a fill would spend. Both routes to a fill bring
the two together again before anything is submitted: the route of a published packet rebuilds
the offer from its funding transaction, the route of a quote compiles it from the terms the
row records. The decision may have summed several outputs at one script, but a fill takes one
of them, so that one is measured alone. Whatever disagrees is an error above the latch.
-/

namespace IntentSolver.OfferSettle

open BigEndian HexText IndexerPaging LockupFunding OfferFulfill OfferTerms ProgramTraces
  WorkerProgram

/-- A fill recorded for a packet. -/
structure OfferFillIntent where
  offerTxid : String
  offerVout : ℕ
  offerPkScript : String
  wantAssetId : Option String
  wantAmount : ℤ
  offerAssetId : Option String
  offerAmount : ℤ

/-- A fill recorded for a quote. -/
structure QuotedOfferIntent where
  offerPkScript : String
  fromAssetId : Option String
  fromAmount : ℤ
  toAssetId : Option String
  toAmount : ℤ
  makerPkScript : String
  makerPublicKey : String
  depositTxid : Option String
  depositVout : Option ℕ

/-- What a settle is bound to. -/
structure SettleDeps (AssetId : Type) where
  sdk : SwapSdk AssetId
  ctx : FillContext
  /-- What the refusals of the page reader say. -/
  pagingText : IndexerPagingError → String

/-- What a settle issues. -/
inductive SettleOp where
  | fetchTx (txid : String)
  /-- Outputs of a script. -/
  | getVtxos (script : String) (pageIndex : ℤ)
  | getSpendableVtxos
  /-- Read the pins, select, and pin what was selected. -/
  | pin (select : Selection)
  | markSubmitting
  | fillOffer (request : FillRequest)
  | release (handle : ℕ)

/-- What it answers. -/
abbrev SettleOp.Ans : SettleOp → Type
  | fetchTx _ => Except FloatFault (Option String)
  | getVtxos _ _ => Except FloatFault (Served VirtualCoin)
  | getSpendableVtxos => Except FloatFault (List Coin)
  | pin _ => Except FloatFault (ℕ × List Coin)
  | markSubmitting => Except FloatFault Bool
  | fillOffer _ => Except FloatFault String
  | release _ => Unit

/-- Code of a settle. -/
abbrev Settling (α : Type) : Type := Program SettleOp.Ans FloatFault α

/-- One action. -/
def issue (op : SettleOp) : Settling op.Ans := Program.issue op

/-- One action whose failure is thrown. -/
def demand {α : Type} (op : SettleOp) (read : op.Ans → Except FloatFault α) : Settling α :=
  (issue op).bind fun answer => Program.ofExcept (read answer)

/-- How a fill acts here; the latch only where the caller has one. -/
def settlePort (latched : Bool) : FulfillPort SettleOp.Ans where
  getSpendableVtxos := demand .getSpendableVtxos id
  pin select := demand (.pin select) id
  markSubmitting := if latched then some (demand .markSubmitting id) else none
  fillOffer request := demand (.fillOffer request) id
  release handle := issue (.release handle)

/-- An output nobody has spent or swept. -/
def liveOutpoint (coin : VirtualCoin) : Option OfferOutpoint :=
  if coin.isSpent ∨ coin.isSwept then none
  else some
    { txid := coin.txid
      vout := coin.vout
      sats := coin.value
      assets := coin.assets.map fun entry => ⟨entry.1, entry.2⟩ }

/-- The output a recorded outpoint names. -/
def outpointAt (live : List OfferOutpoint) (txid : String) (vout : ℕ) : Option OfferOutpoint :=
  live.find? fun output => decide (output.txid = txid ∧ output.vout = vout)

/-- A leg as a message names it. -/
def legText (leg : Option String) : String := leg.getD "BTC"

/-- An outpoint as a message names it. -/
def outpointText (txid : String) (vout : ℕ) : String := txid ++ ":" ++ toString vout

/-- The terms a quoted row records. -/
def termsOf (intent : QuotedOfferIntent) : QuotedOfferTerms where
  wantAmount := intent.toAmount
  wantAssetId := intent.toAssetId
  offerAssetId := intent.fromAssetId
  makerPkScript := intent.makerPkScript
  makerPublicKey := intent.makerPublicKey

/-- Sats as a number. -/
def assertSafeSats (sats : ℤ) : Except FloatFault ℤ :=
  if MAX_SAFE_INTEGER < sats then
    .error (.error ("deposit of " ++ toString sats ++ " sats exceeds a safe integer"))
  else .ok sats

section Settle

variable {AssetId : Type} (deps : SettleDeps AssetId)

/-- Where the outputs of a script come from. -/
def outputSource (script : String) : PageSource SettleOp.Ans FloatFault VirtualCoin where
  request := SettleOp.getVtxos script
  read _ answer := answer.map fun served => (served.rows, served.page)
  refuse error := .error (deps.pagingText error)

/-- Every unspent, unswept output at a script. -/
def liveOfferOutpoints (script : String) : Settling (List OfferOutpoint) :=
  (outputSource deps script).batches.bind fun batches =>
    .ret (batches.flatten.filterMap liveOutpoint)

/-- The terms of a discovered offer, with the sats at its output for its deposit. -/
def foundTerms (found : DiscoveredOffer AssetId) : OfferFillInput :=
  offerFillInputFrom deps.sdk found.offer ⟨found.value, []⟩

/-- The offer the funding transaction publishes, when it is the one the row was recorded
for. -/
def recordedOffer (intent : OfferFillIntent) (raw : Option String) :
    Except FloatFault (DiscoveredOffer AssetId) :=
  match raw.filter fun raw => decide (raw ≠ "") with
  | none => .error (.error ("no funding transaction for " ++ intent.offerTxid ++
      ": the offer cannot be rebuilt to fill it"))
  | some raw =>
    match offerFromFundingTx deps.sdk raw with
    | none => .error (.error (intent.offerTxid ++ " carries no offer this taker can decode"))
    | some found =>
      let terms := foundTerms deps found
      if found.txid ≠ intent.offerTxid then
        .error (.error (found.txid ++ " is not the funding transaction " ++ intent.offerTxid ++
          " this intent was recorded on"))
      else if found.vout ≠ intent.offerVout then
        .error (.error ("the offer's deposit is at vout " ++ toString found.vout ++
          ", but the intent was recorded on " ++ toString intent.offerVout))
      else if (hexEncode found.offer.swapPkScript).toLower ≠ intent.offerPkScript.toLower then
        .error (.error (intent.offerTxid ++
          " funds a different offer script than the intent was recorded against"))
      else if terms.wantAmount ≠ intent.wantAmount then
        .error (.error (intent.offerTxid ++ " wants " ++ toString terms.wantAmount ++
          ", but the intent was priced at " ++ toString intent.wantAmount))
      else if terms.wantAssetId ≠ intent.wantAssetId then
        .error (.error (intent.offerTxid ++ " names want asset " ++ legText terms.wantAssetId ++
          ", not " ++ legText intent.wantAssetId))
      else if terms.offerAssetId ≠ intent.offerAssetId then
        .error (.error (intent.offerTxid ++ " names deposit asset " ++
          legText terms.offerAssetId ++ ", not " ++ legText intent.offerAssetId))
      else .ok found

/-- The deposit of a packet, measured alone. -/
def recordedDeposit (intent : OfferFillIntent) (found : DiscoveredOffer AssetId)
    (live : List OfferOutpoint) : Except FloatFault OfferDepositOutpoint :=
  match outpointAt live intent.offerTxid intent.offerVout with
  | none => .error (.error (outpointText intent.offerTxid intent.offerVout ++
      " is no longer live at " ++ intent.offerPkScript))
  | some deposit =>
    let terms := foundTerms deps found
    match terms.offerAssetId with
    | none =>
      if terms.offerAmount < intent.offerAmount then
        .error (.error (outpointText intent.offerTxid found.vout ++ " holds " ++
          toString terms.offerAmount ++ " sats, but the intent was priced against " ++
          toString intent.offerAmount))
      else .ok ⟨found.txid, found.vout, found.value, none⟩
    | some assetId =>
      let assetAmount := heldOf deposit.toOfferDeposit (some assetId)
      if assetAmount < intent.offerAmount then
        .error (.error (outpointText intent.offerTxid intent.offerVout ++ " holds " ++
          toString assetAmount ++ " of the deposit leg, but the intent was priced against " ++
          toString intent.offerAmount))
      else .ok ⟨found.txid, found.vout, found.value, some assetAmount⟩

/-- Settle a fill recorded for a packet. -/
def offerSettle (latched : Bool) (intent : OfferFillIntent) : Settling String := do
  let raw ← demand (.fetchTx intent.offerTxid) id
  let found ← Program.ofExcept (recordedOffer deps intent raw)
  let live ← liveOfferOutpoints deps intent.offerPkScript
  let deposit ← Program.ofExcept (recordedDeposit deps intent found live)
  fulfillOffer deps.sdk deps.ctx (settlePort latched) found.offer deposit

/-- The script the recorded terms compile to, when it is the one the client was told. -/
def derivedScript (derivation : OfferDerivation) (emulatorPubkey : Bytes)
    (intent : QuotedOfferIntent) : Except FloatFault String := do
  let derived ← offerScriptFrom deps.sdk derivation emulatorPubkey (termsOf intent)
  if derived.toLower ≠ intent.offerPkScript.toLower then
    throw (FloatFault.error ("the recorded terms derive " ++ derived ++
      ", not the offer script " ++ intent.offerPkScript))
  else return derived

/-- The deposit of a quote, measured alone, and what it holds of the deposit leg. -/
def quotedDeposit (intent : QuotedOfferIntent) (txid : String) (vout : ℕ)
    (live : List OfferOutpoint) : Except FloatFault (OfferOutpoint × ℤ) :=
  match outpointAt live txid vout with
  | none => .error (.error (outpointText txid vout ++ " is no longer live at " ++
      intent.offerPkScript))
  | some deposit =>
    let held := heldOf deposit.toOfferDeposit intent.fromAssetId
    if held < intent.fromAmount then
      .error (.error (outpointText txid vout ++ " holds " ++ toString held ++
        " of the deposit leg, but the quote was priced against " ++ toString intent.fromAmount))
    else .ok (deposit, held)

/-- What a fill of a quote is called with. -/
def quotedFill (derivation : OfferDerivation) (emulatorPubkey : Bytes)
    (intent : QuotedOfferIntent) (derived : String) (deposit : OfferOutpoint) (held : ℤ) :
    Except FloatFault (Offer AssetId × OfferDepositOutpoint) := do
  let body ← offerFromTerms deps.sdk (termsOf intent) emulatorPubkey derivation.exitDelay
  let swapPkScript ← deps.sdk.hexDecode derived
  let value ← assertSafeSats deposit.sats
  return (⟨body, swapPkScript⟩,
    ⟨deposit.txid, deposit.vout, value, intent.fromAssetId.map fun _ => held⟩)

/-- Settle a fill recorded for a quote, with the emulator's key in its x-only spelling. -/
def quotedOfferSettle (derivation : OfferDerivation) (emulatorPubkey : Bytes) (latched : Bool)
    (intent : QuotedOfferIntent) : Settling String :=
  match intent.depositTxid, intent.depositVout with
  | some txid, some vout => do
    let derived ← Program.ofExcept (derivedScript deps derivation emulatorPubkey intent)
    let live ← liveOfferOutpoints deps intent.offerPkScript
    let measured ← Program.ofExcept (quotedDeposit intent txid vout live)
    let filled ← Program.ofExcept
      (quotedFill deps derivation emulatorPubkey intent derived measured.1 measured.2)
    fulfillOffer deps.sdk deps.ctx (settlePort latched) filled.1 filled.2
  | _, _ => throw (FloatFault.error ("the negotiation at " ++ intent.offerPkScript ++
      " records no deposit outpoint to spend"))

/-- The settle of quotes in a deployment; a key of no known spelling gives none. -/
def quotedOfferSettleFor (derivation : OfferDerivation) :
    Except FloatFault (Bool → QuotedOfferIntent → Settling String) :=
  (xOnlyPubkey derivation.emulatorPubkey).map (quotedOfferSettle deps derivation)

end Settle

/-! ## What comes before the latch -/

/-- It claims the row, or submits. -/
def SettleOp.Commits : SettleOp → Prop
  | .markSubmitting => True
  | .fillOffer _ => True
  | _ => False

variable {AssetId : Type} {deps : SettleDeps AssetId} {latched : Bool}

/-- The last steps submit what was built of the offer, its deposit and the coins, and where
there is a latch only once it is won. -/
theorem begins_submitFill {offer : Offer AssetId} {deposit : OfferDepositOutpoint}
    {funding : List Coin} {trace : Trace SettleOp.Ans}
    (h : Begins (submitFill deps.sdk deps.ctx (settlePort latched) offer deposit funding) trace) :
    ∀ request answer, ⟨.fillOffer request, answer⟩ ∈ trace →
      request = fillRequest deps.sdk deps.ctx offer deposit funding ∧
      (latched = true → ⟨.markSubmitting, .ok true⟩ ∈ trace) := by
  -- Once past the latch only the submission is left.
  have hlast : ∀ trace, Begins (demand (.fillOffer
      (fillRequest deps.sdk deps.ctx offer deposit funding)) id) trace →
      ∀ request answer, ⟨.fillOffer request, answer⟩ ∈ trace →
        request = fillRequest deps.sdk deps.ctx offer deposit funding := by
    intro trace hb request answer hm
    obtain rfl | ⟨given, rest, rfl, hr⟩ := hb
    · cases hm
    · have hrest : rest = [] := by
        cases given with
        | ok value => exact hr
        | error error => exact hr
      rw [hrest, List.mem_singleton] at hm
      cases hm
      rfl
  intro request answer hm
  cases latched with
  | false => exact ⟨hlast trace h request answer hm, fun hl => nomatch hl⟩
  | true =>
    obtain rfl | ⟨won, rest, rfl, hr⟩ := h
    · cases hm
    · have hrest : ⟨.fillOffer request, answer⟩ ∈ rest := by
        obtain hm' | hm' := List.mem_cons.mp hm
        · cases hm'
        · exact hm'
      cases won with
      | error error =>
        rw [show rest = [] from hr] at hrest
        cases hrest
      | ok won =>
        cases won with
        | false =>
          rw [show rest = [] from hr] at hrest
          cases hrest
        | true => exact ⟨hlast rest hr request answer hrest, fun _ => List.mem_cons_self⟩

/-- A fill that commits anything is of a consistent offer, and submits what was built of it
and its deposit, where there is a latch only once it is won. -/
theorem begins_fulfillOffer {offer : Offer AssetId} {deposit : OfferDepositOutpoint}
    {trace : Trace SettleOp.Ans}
    (h : Begins (fulfillOffer deps.sdk deps.ctx (settlePort latched) offer deposit) trace)
    (hc : ∃ step ∈ trace, step.1.Commits) :
    offerIsConsistent deps.sdk offer deps.ctx.arkServerPublicKey = true ∧
    ∀ request answer, ⟨.fillOffer request, answer⟩ ∈ trace →
      (∃ funding, request = fillRequest deps.sdk deps.ctx offer deposit funding) ∧
      (latched = true → ⟨.markSubmitting, .ok true⟩ ∈ trace) := by
  obtain ⟨committed, hin, hcommits⟩ := hc
  unfold fulfillOffer at h
  split at h
  · rw [show trace = [] from h] at hin
    cases hin
  next hconsistent =>
    refine ⟨by simpa using hconsistent, ?_⟩
    split at h
    · rw [show trace = [] from h] at hin
      cases hin
    · -- The coins are read, then pinned.
      intro request answer hm
      obtain rfl | ⟨spendable, read, rfl, hread⟩ := h
      · cases hm
      obtain hm | hm := List.mem_cons.mp hm
      · cases hm
      obtain rfl | ⟨coins, -, hpin⟩ := begins_ofExcept_bind hread
      · cases hm
      obtain rfl | ⟨pinned, body, rfl, hbody⟩ := hpin
      · cases hm
      obtain hm | hm := List.mem_cons.mp hm
      · cases hm
      obtain rfl | ⟨reserved, -, hfill⟩ := begins_ofExcept_bind hbody
      · cases hm
      obtain hb | ⟨outcome, first, second, rfl, hf, hs⟩ := begins_andFinally hfill
      · obtain ⟨hrequest, hlatch⟩ := begins_submitFill hb request answer hm
        exact ⟨⟨_, hrequest⟩, fun hl =>
          List.mem_cons_of_mem _ (List.mem_cons_of_mem _ (hlatch hl))⟩
      · obtain hm | hm := List.mem_append.mp hm
        · obtain ⟨hrequest, hlatch⟩ := begins_submitFill hf.begins request answer hm
          exact ⟨⟨_, hrequest⟩, fun hl => List.mem_cons_of_mem _ (List.mem_cons_of_mem _
            (List.mem_append_left _ (hlatch hl)))⟩
        · -- Giving the pin back submits nothing.
          obtain rfl | ⟨done, rest, rfl, hrest⟩ := hs
          · cases hm
          · rw [show rest = [] from hrest, List.mem_singleton] at hm
            cases hm

/-- Commit nothing. -/
def uncommitting : Discipline SettleOp.Ans where
  Note := Unit
  fresh := ()
  may _ op := ¬ op.Commits
  learn note _ _ := note

/-- Nothing is committed while outputs are read, and what is committed afterwards knows all of
the script. -/
theorem begins_live_bind {script : String} {α : Type} {rest : List OfferOutpoint → Settling α}
    {trace : Trace SettleOp.Ans} (h : Begins ((liveOfferOutpoints deps script).bind rest) trace)
    (hc : ∃ step ∈ trace, step.1.Commits) :
    ∃ asked later served, trace = asked ++ later ∧
      Whole (outputSource deps script) asked served ∧ (∀ step ∈ asked, ¬ step.1.Commits) ∧
      Begins (rest ((served.map Prod.fst).flatten.filterMap liveOutpoint)) later := by
  have hquiet : ∀ asked : Trace SettleOp.Ans, Begins (outputSource deps script).batches asked →
      ∀ step ∈ asked, ¬ step.1.Commits := by
    have hidle : uncommitting.Idle (outputSource deps script).batches :=
      idle_batches fun _ _ => ⟨fun hcommits => hcommits, fun _ => rfl⟩
    exact fun asked hb => idle_licensed hidle hb ()
  obtain ⟨committed, hin, hcommits⟩ := hc
  obtain hb | ⟨live, asked, later, ht, hy, hl⟩ := begins_bind h
  · obtain hb' | ⟨batches, first, second, ht, hf, hs⟩ := begins_bind hb
    · exact absurd hcommits (hquiet _ hb' committed hin)
    · rw [ht, show second = [] from hs, List.append_nil] at hin
      exact absurd hcommits (hquiet _ hf.begins committed hin)
  · obtain ⟨batches, first, second, hs, hf, ⟨hn, hvalue⟩⟩ := yields_bind_ok hy
    rw [hn, List.append_nil] at hs
    obtain ⟨-, hwhole⟩ := yields_batches hf
    obtain ⟨served, hserved, hbatches⟩ := hwhole batches rfl
    cases hvalue
    rw [← hs, hbatches] at *
    exact ⟨asked, later, served, ht, hserved, hquiet _ hf.begins, hl⟩

/-- The live output of an outpoint is reported unspent and unswept there. -/
theorem outpointAt_live {rows : List VirtualCoin} {txid : String} {vout : ℕ}
    {output : OfferOutpoint} (h : outpointAt (rows.filterMap liveOutpoint) txid vout =
      some output) :
    ∃ coin ∈ rows, coin.txid = txid ∧ coin.vout = vout ∧ coin.isSpent = false ∧
      coin.isSwept = false ∧ liveOutpoint coin = some output := by
  have hat := List.find?_some h
  obtain ⟨coin, hm, hlive⟩ := List.mem_filterMap.mp (List.mem_of_find?_eq_some h)
  have hcoin := hlive
  unfold liveOutpoint at hcoin
  split at hcoin
  · cases hcoin
  next hopen =>
    cases hcoin
    have hpair : coin.txid = txid ∧ coin.vout = vout := by simpa using hat
    have hboth : coin.isSpent = false ∧ coin.isSwept = false := by simpa using hopen
    exact ⟨coin, hm, hpair.1, hpair.2, hboth.1, hboth.2, hlive⟩

/-! ## What each route has compared -/

/-- A recorded offer is the one its funding transaction publishes at the recorded output, at
the recorded script and with the recorded terms. -/
theorem recordedOffer_spec {intent : OfferFillIntent} {raw : Option String}
    {found : DiscoveredOffer AssetId} (h : recordedOffer deps intent raw = .ok found) :
    (∃ text, raw = some text ∧ offerFromFundingTx deps.sdk text = some found) ∧
      found.txid = intent.offerTxid ∧ found.vout = intent.offerVout ∧
      (hexEncode found.offer.swapPkScript).toLower = intent.offerPkScript.toLower ∧
      found.offer.wantAmount = intent.wantAmount ∧
      found.offer.wantAsset.map deps.sdk.assetIdText = intent.wantAssetId ∧
      found.offer.offerAsset.map deps.sdk.assetIdText = intent.offerAssetId := by
  unfold recordedOffer at h
  split at h
  · cases h
  next text htext =>
    have hraw : raw = some text := (Option.filter_eq_some_iff.mp htext).1
    split at h
    · cases h
    next other hfound =>
      dsimp only at h
      split_ifs at h with htxid hvout hscript hamount hwant hoffer
      cases h
      exact ⟨⟨text, hraw, hfound⟩, not_not.mp htxid, not_not.mp hvout, not_not.mp hscript,
        not_not.mp hamount, not_not.mp hwant, not_not.mp hoffer⟩

/-- A recorded deposit is live and holds what the row was priced against: its asset as read at
the script, its sats as the funding transaction pays them. -/
theorem recordedDeposit_spec {intent : OfferFillIntent} {found : DiscoveredOffer AssetId}
    {live : List OfferOutpoint} {deposit : OfferDepositOutpoint}
    (h : recordedDeposit deps intent found live = .ok deposit) :
    ∃ output, outpointAt live intent.offerTxid intent.offerVout = some output ∧
      deposit.txid = found.txid ∧ deposit.vout = found.vout ∧ deposit.value = found.value ∧
      (found.offer.offerAsset = none → intent.offerAmount ≤ found.value) ∧
      ∀ assetId, found.offer.offerAsset.map deps.sdk.assetIdText = some assetId →
        intent.offerAmount ≤ heldOf output.toOfferDeposit (some assetId) := by
  unfold recordedDeposit at h
  split at h
  · cases h
  next output hlive =>
    refine ⟨output, hlive, ?_⟩
    cases hasset : found.offer.offerAsset with
    | none =>
      simp only [foundTerms, offerFillInputFrom, hasset, Option.map_none, heldOf] at h
      split_ifs at h with hshort
      cases h
      exact ⟨rfl, rfl, rfl, fun _ => not_lt.mp hshort, fun _ hn => nomatch hn⟩
    | some asset =>
      simp only [foundTerms, offerFillInputFrom, hasset, Option.map_some] at h
      split_ifs at h with hshort
      cases h
      refine ⟨rfl, rfl, rfl, fun hn => (by cases hn), fun assetId ha => ?_⟩
      rw [Option.map_some, Option.some.injEq] at ha
      rw [← ha]
      exact not_lt.mp hshort

/-- What the fill of a packet rests on: the funding transaction its row is keyed to, and what
was read at the recorded script. -/
structure RecordedFill (deps : SettleDeps AssetId) (intent : OfferFillIntent) (raw : String)
    (rows : List VirtualCoin) (offer : Offer AssetId) (deposit : OfferDepositOutpoint) :
    Prop where
  /-- The deposit is the recorded outpoint. -/
  outpoint : deposit.txid = intent.offerTxid ∧ deposit.vout = intent.offerVout
  /-- The transaction publishes the offer and pays that output to the recorded script. -/
  funding : ∃ tx script, deps.sdk.fundingTx raw = some tx ∧ offer = tx.offer ∧
    tx.id = intent.offerTxid ∧ tx.outputs[intent.offerVout]? = some (some (script, deposit.value)) ∧
    (hexEncode script).toLower = intent.offerPkScript.toLower
  /-- The offer's own terms compile to its script, and that is the recorded one. -/
  script : deps.sdk.offerVtxoScript offer.toOfferBody deps.ctx.arkServerPublicKey =
      .ok offer.swapPkScript ∧
    (hexEncode offer.swapPkScript).toLower = intent.offerPkScript.toLower
  /-- It is live there and alone holds the asset the row was priced against. -/
  live : ∃ coin ∈ rows, coin.txid = intent.offerTxid ∧ coin.vout = intent.offerVout ∧
    coin.isSpent = false ∧ coin.isSwept = false ∧
    ∀ assetId, intent.offerAssetId = some assetId → ∃ output, liveOutpoint coin = some output ∧
      intent.offerAmount ≤ heldOf output.toOfferDeposit (some assetId)
  /-- Or the sats. -/
  sats : intent.offerAssetId = none → intent.offerAmount ≤ deposit.value
  wantAmount : offer.wantAmount = intent.wantAmount
  wantAsset : offer.wantAsset.map deps.sdk.assetIdText = intent.wantAssetId
  offerAsset : offer.offerAsset.map deps.sdk.assetIdText = intent.offerAssetId

/-- When the settle of a packet claims its row or submits anything, whatever the indexer
answered and however many deposits share the script: it has read the funding transaction and
then all of the script, without committing anything on the way; the one output it takes is the
recorded one, live and alone holding what the row was priced against, at the script that the
very offer it fills compiles to, with the amount and assets of the row; and it submits a fill
of that offer from that deposit, where there is a latch only once it is won. -/
theorem offerSettle_covered {intent : OfferFillIntent} {trace : Trace SettleOp.Ans}
    (h : Begins (offerSettle deps latched intent) trace)
    (hc : ∃ step ∈ trace, step.1.Commits) :
    ∃ raw asked served filling offer deposit,
      trace = ⟨.fetchTx intent.offerTxid, .ok (some raw)⟩ :: (asked ++ filling) ∧
      Whole (outputSource deps intent.offerPkScript) asked served ∧
      (∀ step ∈ asked, ¬ step.1.Commits) ∧
      RecordedFill deps intent raw (served.map Prod.fst).flatten offer deposit ∧
      ∀ request answer, ⟨.fillOffer request, answer⟩ ∈ filling →
        (∃ funding, request = fillRequest deps.sdk deps.ctx offer deposit funding) ∧
        (latched = true → ⟨.markSubmitting, .ok true⟩ ∈ filling) := by
  obtain ⟨committed, hin, hcommits⟩ := hc
  obtain rfl | ⟨fetched, rest, rfl, hrest⟩ := h
  · cases hin
  have hin' : committed ∈ rest := by
    obtain hm | hm := List.mem_cons.mp hin
    · rw [hm] at hcommits
      exact hcommits.elim
    · exact hm
  obtain rfl | ⟨raw, hraw, hfound⟩ := begins_ofExcept_bind hrest
  · cases hin'
  obtain rfl | ⟨found, hoffer, hlive⟩ := begins_ofExcept_bind hfound
  · cases hin'
  obtain ⟨asked, later, served, rfl, hwhole, hquiet, hlater⟩ :=
    begins_live_bind hlive ⟨committed, hin', hcommits⟩
  have hin : committed ∈ later := by
    obtain hm | hm := List.mem_append.mp hin'
    · exact absurd hcommits (hquiet _ hm)
    · exact hm
  obtain rfl | ⟨deposit, hdeposit, hfill⟩ := begins_ofExcept_bind hlater
  · cases hin
  obtain ⟨hconsistent, hsubmits⟩ := begins_fulfillOffer hfill ⟨committed, hin, hcommits⟩
  obtain ⟨⟨text, rfl, hpacket⟩, htxid, hvout, hscript, hamount, hwant, hasset⟩ :=
    recordedOffer_spec hoffer
  obtain ⟨tx, script, htx, hof, htxid', hout, hpays, -⟩ := offerFromFundingTx_spec hpacket
  obtain ⟨output, hat, hdtxid, hdvout, hvalue, hsats, hheld⟩ := recordedDeposit_spec hdeposit
  obtain ⟨coin, hcoin, hct, hcv, hunspent, hunswept, hcl⟩ := outpointAt_live hat
  refine ⟨text, asked, served, later, found.offer, deposit, ?_, hwhole, hquiet, ?_, hsubmits⟩
  · rw [show fetched = .ok (some text) from hraw]
  · refine ⟨⟨hdtxid.trans htxid, hdvout.trans hvout⟩, ⟨tx, script, htx, hof, ?_, ?_, ?_⟩,
      ⟨offerIsConsistent_spec hconsistent, hscript⟩,
      ⟨coin, hcoin, hct, hcv, hunspent, hunswept, fun assetId ha => ⟨output, hcl, ?_⟩⟩, ?_,
      hamount, hwant, hasset⟩
    · rw [← htxid', htxid]
    · rw [hvalue, ← hvout]
      exact hout
    · rw [hpays, hscript]
    · exact hheld assetId (hasset.trans ha)
    · intro hn
      rw [hvalue]
      apply hsats
      rw [hn] at hasset
      exact Option.map_eq_none_iff.mp hasset

/-! ## A packet settled -/

/-- An offer of sats for an asset, at a script every offer compiles to. -/
def sampleOffer : Offer Unit where
  wantAmount := 40
  wantAsset := some ()
  offerAsset := none
  makerPkScript := [0x52]
  makerPublicKey := [0x53]
  emulatorPubkey := List.replicate 32 0x54
  exitDelay := ⟨.blocks, 6⟩
  swapPkScript := [0x51]

/-- One asset, one script, and one transaction that publishes an offer. -/
def sampleSdk : SwapSdk Unit where
  assetIdText _ := "asset"
  assetIdFrom _ := .ok ()
  hexDecode text := (hexDecode text).elim (.error (.error "invalid hex")) .ok
  offerVtxoScript _ _ := .ok [0x51]
  fundingTx raw :=
    if raw = "psbt" then some ⟨"deposit", [none, some ([0x51], 1000)], sampleOffer⟩ else none
  encodeOffer _ := [0x01]
  selectVirtualCoins coins _ := .ok coins
  selectCoinsWithAsset coins _ _ := .ok coins

/-- A small deployment. -/
def sampleDeps : SettleDeps Unit where
  sdk := sampleSdk
  ctx := ⟨[], "operator", "emulator", 330⟩
  pagingText _ := "paging"

/-- The fill recorded for that transaction. -/
def sampleIntent : OfferFillIntent where
  offerTxid := "deposit"
  offerVout := 1
  offerPkScript := "51"
  wantAssetId := some "asset"
  wantAmount := 40
  offerAssetId := none
  offerAmount := 1000

/-- Two deposits at one script. -/
def sampleOutputs : List VirtualCoin :=
  [⟨"other", 0, 700, [], false, false⟩, ⟨"deposit", 1, 1000, [], false, false⟩]

/-- A coin that pays the maker. -/
def sampleCoin : Coin := ⟨"coin", 0, 330, none, [⟨"asset", 40⟩], "", ""⟩

/-- The steps from the coins on. -/
def sampleFilling (deposit : OfferDepositOutpoint) : Trace SettleOp.Ans :=
  [⟨.getSpendableVtxos, .ok [sampleCoin]⟩,
    ⟨.pin (makerFunding sampleSdk sampleOffer [sampleCoin]), .ok (0, [sampleCoin])⟩,
    ⟨.markSubmitting, .ok true⟩,
    ⟨.fillOffer (fillRequest sampleSdk sampleDeps.ctx sampleOffer deposit [sampleCoin]),
      .ok "fill"⟩]

/-- The whole run. -/
def sampleTrace : Trace SettleOp.Ans :=
  [⟨.fetchTx "deposit", .ok (some "psbt")⟩, ⟨.getVtxos "51" 0, .ok ⟨sampleOutputs, none⟩⟩] ++
    sampleFilling ⟨"deposit", 1, 1000, none⟩

/-- The fill from the coins on is a run of it. -/
theorem begins_sampleFilling (deposit : OfferDepositOutpoint) :
    Begins (fulfillOffer sampleSdk sampleDeps.ctx (settlePort true) sampleOffer deposit)
      (sampleFilling deposit) :=
  .inr ⟨_, _, rfl, .inr ⟨_, _, rfl, .inr ⟨_, _, rfl, .inr ⟨_, _, rfl, .inl rfl⟩⟩⟩⟩

/-- The sample trace settles an offer whose recorded fill is found. -/
theorem offerSettle_covered_sample :
    Begins (offerSettle sampleDeps true sampleIntent) sampleTrace ∧
    ∃ raw rows offer deposit, RecordedFill sampleDeps sampleIntent raw rows offer deposit := by
  have hfound : recordedOffer sampleDeps sampleIntent (some "psbt") =
      .ok ⟨sampleOffer, "deposit", 1, 1000⟩ := by
    have hhex : hexEncode [0x51] = "51" := by decide +kernel
    have hpacket : offerFromFundingTx sampleSdk "psbt" =
        some ⟨sampleOffer, "deposit", 1, 1000⟩ := by
      simp [offerFromFundingTx, sampleSdk, fundingOutput, sampleOffer, MAX_SAFE_INTEGER]
    have hraw : (some "psbt").filter (fun raw => decide (raw ≠ "")) = some "psbt" := by decide
    unfold recordedOffer
    rw [hraw]
    simp only [sampleDeps, hpacket]
    simp [foundTerms, offerFillInputFrom, sampleOffer, sampleIntent, sampleSdk, hhex]
  have hrun : Begins (offerSettle sampleDeps true sampleIntent) sampleTrace := by
    refine .inr ⟨_, _, rfl, ?_⟩
    have hrest : Begins ((Program.ofExcept (.ok ⟨sampleOffer, "deposit", 1, 1000⟩)).bind
        fun found => (liveOfferOutpoints sampleDeps "51").bind fun live =>
          (Program.ofExcept (recordedDeposit sampleDeps sampleIntent found live)).bind
            fun deposit => fulfillOffer sampleSdk sampleDeps.ctx (settlePort true) found.offer
              deposit) (sampleTrace.drop 1) :=
      .inr ⟨_, _, rfl, begins_sampleFilling _⟩
    rw [← hfound] at hrest
    exact hrest
  obtain ⟨raw, asked, served, filling, offer, deposit, -, -, -, hfill, -⟩ :=
    offerSettle_covered hrun ⟨⟨.markSubmitting, .ok true⟩, by simp [sampleTrace, sampleFilling],
      trivial⟩
  exact ⟨hrun, raw, _, offer, deposit, hfill⟩

/-! ## The route of a quote -/

/-- A derived script is compiled from the recorded terms and is the one the client was told. -/
theorem derivedScript_spec {derivation : OfferDerivation} {emulatorPubkey : Bytes}
    {intent : QuotedOfferIntent} {derived : String}
    (h : derivedScript deps derivation emulatorPubkey intent = .ok derived) :
    ∃ body script, offerFromTerms deps.sdk (termsOf intent) emulatorPubkey derivation.exitDelay =
        .ok body ∧ deps.sdk.offerVtxoScript body derivation.serverPubkey = .ok script ∧
      derived = hexEncode script ∧ derived.toLower = intent.offerPkScript.toLower := by
  obtain ⟨text, hderive, hsame⟩ := Fallible.bind_ok h
  obtain ⟨body, hbody, hcompile⟩ := Fallible.bind_ok hderive
  obtain ⟨script, hscript, htext⟩ := Fallible.bind_ok hcompile
  cases htext
  split_ifs at hsame with hother
  cases hsame
  exact ⟨body, script, hbody, hscript, rfl, not_not.mp hother⟩

/-- A measured deposit is live and alone holds what the quote was priced against. -/
theorem quotedDeposit_spec {intent : QuotedOfferIntent} {txid : String} {vout : ℕ}
    {live : List OfferOutpoint} {measured : OfferOutpoint × ℤ}
    (h : quotedDeposit intent txid vout live = .ok measured) :
    outpointAt live txid vout = some measured.1 ∧
      intent.fromAmount ≤ heldOf measured.1.toOfferDeposit intent.fromAssetId := by
  unfold quotedDeposit at h
  split at h
  · cases h
  next output hlive =>
    dsimp only at h
    split_ifs at h with hshort
    cases h
    exact ⟨hlive, not_lt.mp hshort⟩

/-- What a fill is called with is of the recorded terms and the measured output. -/
theorem quotedFill_spec {derivation : OfferDerivation} {emulatorPubkey : Bytes}
    {intent : QuotedOfferIntent} {derived : String} {output : OfferOutpoint} {held : ℤ}
    {filled : Offer AssetId × OfferDepositOutpoint}
    (h : quotedFill deps derivation emulatorPubkey intent derived output held = .ok filled) :
    offerFromTerms deps.sdk (termsOf intent) emulatorPubkey derivation.exitDelay =
        .ok filled.1.toOfferBody ∧
      deps.sdk.hexDecode derived = .ok filled.1.swapPkScript ∧
      output.sats ≤ MAX_SAFE_INTEGER ∧ filled.2.txid = output.txid ∧
      filled.2.vout = output.vout ∧ filled.2.value = output.sats := by
  obtain ⟨body, hbody, hrest⟩ := Fallible.bind_ok h
  obtain ⟨swapPkScript, hscript, hrest⟩ := Fallible.bind_ok hrest
  obtain ⟨value, hvalue, hfilled⟩ := Fallible.bind_ok hrest
  unfold assertSafeSats at hvalue
  split_ifs at hvalue with hbig
  cases hvalue
  cases hfilled
  exact ⟨hbody, hscript, not_lt.mp hbig, rfl, rfl, rfl⟩

/-- An offer of terms wants their amount and names their assets. -/
theorem offerFromTerms_spec {terms : QuotedOfferTerms} {emulatorPubkey : Bytes}
    {exitDelay : SwapTimelocks.RelativeDelay} {body : OfferBody AssetId}
    (h : offerFromTerms deps.sdk terms emulatorPubkey exitDelay = .ok body) :
    body.wantAmount = terms.wantAmount ∧
      assetFrom deps.sdk terms.wantAssetId = .ok body.wantAsset ∧
      assetFrom deps.sdk terms.offerAssetId = .ok body.offerAsset := by
  obtain ⟨wantAsset, hwant, hrest⟩ := Fallible.bind_ok h
  obtain ⟨offerAsset, hoffer, hrest⟩ := Fallible.bind_ok hrest
  obtain ⟨makerPkScript, -, hrest⟩ := Fallible.bind_ok hrest
  obtain ⟨makerPublicKey, -, hbody⟩ := Fallible.bind_ok hrest
  cases hbody
  exact ⟨rfl, hwant, hoffer⟩

/-- What the fill of a quote rests on: the terms its row records, and what was read at the
script the client was told. -/
structure QuotedFill (deps : SettleDeps AssetId) (derivation : OfferDerivation)
    (intent : QuotedOfferIntent) (rows : List VirtualCoin) (offer : Offer AssetId)
    (deposit : OfferDepositOutpoint) : Prop where
  /-- The deposit is the recorded outpoint. -/
  outpoint : intent.depositTxid = some deposit.txid ∧ intent.depositVout = some deposit.vout
  /-- The script the client was told is the one the offer's terms compile to. -/
  derived : ∃ script, deps.sdk.offerVtxoScript offer.toOfferBody derivation.serverPubkey =
      .ok script ∧ (hexEncode script).toLower = intent.offerPkScript.toLower ∧
    deps.sdk.hexDecode (hexEncode script) = .ok offer.swapPkScript
  /-- And so is the script the offer states. -/
  script : deps.sdk.offerVtxoScript offer.toOfferBody deps.ctx.arkServerPublicKey =
    .ok offer.swapPkScript
  /-- The deposit is live there and alone holds what the quote was priced against. -/
  live : ∃ coin ∈ rows, coin.txid = deposit.txid ∧ coin.vout = deposit.vout ∧
    coin.isSpent = false ∧ coin.isSwept = false ∧ ∃ output, liveOutpoint coin = some output ∧
      deposit.value = output.sats ∧ output.sats ≤ MAX_SAFE_INTEGER ∧
      intent.fromAmount ≤ heldOf output.toOfferDeposit intent.fromAssetId
  wantAmount : offer.wantAmount = intent.toAmount
  wantAsset : assetFrom deps.sdk intent.toAssetId = .ok offer.wantAsset
  offerAsset : assetFrom deps.sdk intent.fromAssetId = .ok offer.offerAsset

/-- The output a quote is moved to funded on holds what the quote was priced against whenever
some live output does. And when the settle of a quote claims its row or submits anything,
whatever the indexer answered and however many deposits share the script: it has first read
all of the script without committing anything; the one output it takes is the recorded one,
live and alone holding what the quote was priced against, at the script that the recorded
terms compile to; those are the terms of the very offer it fills; and it submits a fill of
that offer from that deposit, where there is a latch only once it is won. -/
theorem quotedOfferSettle_covered {derivation : OfferDerivation}
    {settle : Bool → QuotedOfferIntent → Settling String} {intent : QuotedOfferIntent}
    (h : quotedOfferSettleFor deps derivation = .ok settle) :
    (∀ live, ∀ outpoint ∈ live,
      intent.fromAmount ≤ heldOf outpoint.toOfferDeposit intent.fromAssetId →
      ∃ best ∈ live, largestOfferOutpoint live intent.fromAssetId = some best ∧
        intent.fromAmount ≤ heldOf best.toOfferDeposit intent.fromAssetId) ∧
    ∀ trace, Begins (settle latched intent) trace → (∃ step ∈ trace, step.1.Commits) →
      ∃ asked served filling offer deposit, trace = asked ++ filling ∧
        Whole (outputSource deps intent.offerPkScript) asked served ∧
        (∀ step ∈ asked, ¬ step.1.Commits) ∧
        QuotedFill deps derivation intent (served.map Prod.fst).flatten offer deposit ∧
        ∀ request answer, ⟨.fillOffer request, answer⟩ ∈ filling →
          (∃ funding, request = fillRequest deps.sdk deps.ctx offer deposit funding) ∧
          (latched = true → ⟨.markSubmitting, .ok true⟩ ∈ filling) := by
  constructor
  · intro live outpoint hm henough
    obtain ⟨best, hbest, hin, hle⟩ := largestOfferOutpoint_spec live intent.fromAssetId outpoint hm
    exact ⟨best, hin, hbest, henough.trans hle⟩
  intro trace hb ⟨committed, hin, hcommits⟩
  obtain ⟨emulatorPubkey, rfl⟩ : ∃ emulatorPubkey,
      settle = quotedOfferSettle deps derivation emulatorPubkey := by
    unfold quotedOfferSettleFor at h
    cases hkey : xOnlyPubkey derivation.emulatorPubkey with
    | error error =>
      rw [hkey] at h
      cases h
    | ok emulatorPubkey =>
      rw [hkey] at h
      cases h
      exact ⟨emulatorPubkey, rfl⟩
  unfold quotedOfferSettle at hb
  split at hb
  next txid vout htxid hvout =>
    obtain rfl | ⟨derived, hderived, hlive⟩ := begins_ofExcept_bind hb
    · cases hin
    obtain ⟨asked, later, served, rfl, hwhole, hquiet, hlater⟩ :=
      begins_live_bind hlive ⟨committed, hin, hcommits⟩
    have hin' : committed ∈ later := by
      obtain hm | hm := List.mem_append.mp hin
      · exact absurd hcommits (hquiet _ hm)
      · exact hm
    obtain rfl | ⟨measured, hmeasured, hfilling⟩ := begins_ofExcept_bind hlater
    · cases hin'
    obtain rfl | ⟨filled, hfilled, hfill⟩ := begins_ofExcept_bind hfilling
    · cases hin'
    obtain ⟨hconsistent, hsubmits⟩ := begins_fulfillOffer hfill ⟨committed, hin', hcommits⟩
    obtain ⟨body, script, hbody, hcompiled, rfl, hsame⟩ := derivedScript_spec hderived
    obtain ⟨hat, hheld⟩ := quotedDeposit_spec hmeasured
    obtain ⟨hfbody, hdecoded, hsafe, hftxid, hfvout, hvalue⟩ := quotedFill_spec hfilled
    obtain ⟨hamount, hwant, hasset⟩ := offerFromTerms_spec hfbody
    obtain ⟨coin, hcoin, hct, hcv, hunspent, hunswept, hcl⟩ := outpointAt_live hat
    -- The output found is the one that was looked for.
    have hnamed : measured.1.txid = txid ∧ measured.1.vout = vout := by
      simpa using List.find?_some hat
    rw [hbody] at hfbody
    cases hfbody
    refine ⟨asked, served, later, filled.1, filled.2, rfl, hwhole, hquiet, ?_, hsubmits⟩
    refine ⟨⟨?_, ?_⟩, ⟨script, hcompiled, hsame, hdecoded⟩, offerIsConsistent_spec hconsistent,
      ⟨coin, hcoin, ?_, ?_, hunspent, hunswept, measured.1, hcl, hvalue, hsafe, hheld⟩, hamount,
      hwant, hasset⟩
    · rw [htxid, hftxid, hnamed.1]
    · rw [hvout, hfvout, hnamed.2]
    · rw [hct, hftxid, hnamed.1]
    · rw [hcv, hfvout, hnamed.2]
  · rw [show trace = [] from hb] at hin
    cases hin

/-- A quote for the same offer, its deposit the larger of the two. -/
def sampleQuote : QuotedOfferIntent where
  offerPkScript := "51"
  fromAssetId := none
  fromAmount := 1000
  toAssetId := some "asset"
  toAmount := 40
  makerPkScript := "52"
  makerPublicKey := "53"
  depositTxid := some "deposit"
  depositVout := some 1

/-- The keys of the deployment. -/
def sampleDerivation : OfferDerivation := ⟨[], 0x02 :: List.replicate 32 0x54, ⟨.blocks, 6⟩⟩

/-- The sample trace settles a quoted offer from the largest deposit at its address. -/
theorem quotedOfferSettle_covered_sample :
    ∃ settle, quotedOfferSettleFor sampleDeps sampleDerivation = .ok settle ∧
      Begins (settle true sampleQuote)
        (⟨.getVtxos "51" 0, .ok ⟨sampleOutputs, none⟩⟩ ::
          sampleFilling ⟨"deposit", 1, 1000, none⟩) ∧
      ∃ rows offer deposit,
        QuotedFill sampleDeps sampleDerivation sampleQuote rows offer deposit := by
  have hsettle : quotedOfferSettleFor sampleDeps sampleDerivation =
      .ok (quotedOfferSettle sampleDeps sampleDerivation (List.replicate 32 0x54)) := rfl
  have hderived : derivedScript sampleDeps sampleDerivation (List.replicate 32 0x54) sampleQuote =
      .ok "51" := by
    have hhex : hexEncode [0x51] = "51" := by decide +kernel
    have hscript : offerScriptFrom sampleSdk sampleDerivation (List.replicate 32 0x54)
        (termsOf sampleQuote) = .ok (hexEncode [0x51]) := rfl
    unfold derivedScript
    rw [show sampleDeps.sdk = sampleSdk from rfl, hscript, hhex]
    exact if_neg (not_not.mpr rfl)
  have hrun : Begins (quotedOfferSettle sampleDeps sampleDerivation (List.replicate 32 0x54) true
      sampleQuote) (⟨.getVtxos "51" 0, .ok ⟨sampleOutputs, none⟩⟩ ::
        sampleFilling ⟨"deposit", 1, 1000, none⟩) := by
    have hrest : Begins ((Program.ofExcept (.ok "51")).bind fun derived =>
        (liveOfferOutpoints sampleDeps "51").bind fun live =>
          (Program.ofExcept (quotedDeposit sampleQuote "deposit" 1 live)).bind fun measured =>
            (Program.ofExcept (quotedFill sampleDeps sampleDerivation (List.replicate 32 0x54)
              sampleQuote derived measured.1 measured.2)).bind fun filled =>
                fulfillOffer sampleSdk sampleDeps.ctx (settlePort true) filled.1 filled.2)
        (⟨.getVtxos "51" 0, .ok ⟨sampleOutputs, none⟩⟩ ::
          sampleFilling ⟨"deposit", 1, 1000, none⟩) :=
      .inr ⟨_, _, rfl, begins_sampleFilling _⟩
    rw [← hderived] at hrest
    exact hrest
  obtain ⟨asked, served, filling, offer, deposit, -, -, -, hfill, -⟩ :=
    (quotedOfferSettle_covered hsettle).2 _ hrun
      ⟨⟨.markSubmitting, .ok true⟩, by simp [sampleFilling], trivial⟩
  exact ⟨_, hsettle, hrun, _, offer, deposit, hfill⟩

end IntentSolver.OfferSettle
