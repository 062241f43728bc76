import IntentSolver.HexText
import IntentSolver.LockupFunding
import IntentSolver.SwapTimelocks

/-!
# Offers and what is held at their scripts

An offer says what it wants and which asset it offers. How much it holds is not for the offer
to say: it is read from the outputs at its script. A packet found on a funding transaction is
taken with the first output that pays the script it states, and terms that were quoted are
compiled to the script they must be found at.
-/

namespace IntentSolver.OfferTerms

open BigEndian HexText LockupFunding SwapTimelocks

/-- Errors the spenders of the float tell apart by class. -/
inductive FloatFault where
  /-- An ordinary `Error`. -/
  | error (message : String)
  /-- `FundNotSubmittedError`: this funding provably submitted nothing. -/
  | fundNotSubmitted (message : String)
  /-- `OfferNotSubmittedError`: this fill provably submitted nothing. -/
  | offerNotSubmitted (message : String)
  deriving DecidableEq

/-- The text an operator reads. -/
def FloatFault.message : FloatFault → String
  | .error message => message
  | .fundNotSubmitted message => message
  | .offerNotSubmitted message => message

/-- What an offer's script is compiled from. -/
structure OfferBody (AssetId : Type) where
  /-- What any spend of the offer must deliver. -/
  wantAmount : ℤ
  /-- None is sats. -/
  wantAsset : Option AssetId
  /-- None is sats. -/
  offerAsset : Option AssetId
  makerPkScript : Bytes
  makerPublicKey : Bytes
  emulatorPubkey : Bytes
  exitDelay : RelativeDelay

/-- An offer, with the script it says its terms compile to. -/
structure Offer (AssetId : Type) extends OfferBody AssetId where
  swapPkScript : Bytes

/-- A transaction with an offer packet, decoded. -/
structure FundingTx (AssetId : Type) where
  id : String
  /-- Script and amount of each output, where it has both. -/
  outputs : List (Option (Bytes × ℤ))
  offer : Offer AssetId

/-- What the swap and wallet packages provide. -/
structure SwapSdk (AssetId : Type) where
  /-- `AssetId.toString`. -/
  assetIdText : AssetId → String
  /-- `AssetId.fromString`. -/
  assetIdFrom : String → Except FloatFault AssetId
  /-- `hex.decode`, which throws on a malformed text. -/
  hexDecode : String → Except FloatFault Bytes
  /-- The script of `offerVtxoScript`. -/
  offerVtxoScript : OfferBody AssetId → Bytes → Except FloatFault Bytes
  /-- The transaction of a base64 PSBT whose offer packet decodes; none where anything fails. -/
  fundingTx : String → Option (FundingTx AssetId)
  /-- `encodeOffer`. -/
  encodeOffer : Offer AssetId → Bytes
  /-- Coins that carry this many sats, or the text of the error. -/
  selectVirtualCoins : List Coin → ℤ → Except String (List Coin)
  /-- Coins that carry this much of an asset, or the text of the error. -/
  selectCoinsWithAsset : List Coin → String → ℤ → Except String (List Coin)

/-- What the chain says is at an offer's script. -/
structure OfferDeposit where
  sats : ℤ
  assets : List AssetEntry
  deriving DecidableEq

/-- How much of an asset the deposit holds, or its sats when the leg is sats. -/
def heldOf (deposit : OfferDeposit) : Option String → ℤ
  | none => deposit.sats
  | some assetId => ((deposit.assets.filter fun entry => decide (entry.assetId = assetId)).map
      AssetEntry.amount).sum

/-- What a fill is decided on. -/
structure OfferFillInput where
  wantAssetId : Option String
  wantAmount : ℤ
  offerAssetId : Option String
  offerAmount : ℤ
  deriving DecidableEq

/-- One live output at an offer's script. -/
structure OfferOutpoint extends OfferDeposit where
  txid : String
  vout : ℕ
  deriving DecidableEq

/-- The output holding most of the deposit leg; sats break a tie, and the first of equals
stays. -/
def largestOfferOutpoint (outpoints : List OfferOutpoint) (leg : Option String) :
    Option OfferOutpoint :=
  outpoints.foldl (fun best next =>
    match best with
    | none => some next
    | some best =>
      let held := heldOf next.toOfferDeposit leg
      let most := heldOf best.toOfferDeposit leg
      if held ≠ most then some (if most < held then next else best)
      else some (if best.sats < next.sats then next else best)) none

/-- A decoded offer, funded at a known output of the transaction that carried it. -/
structure DiscoveredOffer (AssetId : Type) where
  offer : Offer AssetId
  txid : String
  vout : ℕ
  /-- Sats on that output. -/
  value : ℤ

/-- `Number.MAX_SAFE_INTEGER`. -/
def MAX_SAFE_INTEGER : ℤ := 2 ^ 53 - 1

/-- The terms of a quote its offer is compiled from. -/
structure QuotedOfferTerms where
  wantAmount : ℤ
  wantAssetId : Option String
  offerAssetId : Option String
  makerPkScript : String
  makerPublicKey : String

/-- The keys and the delay of a deployment. -/
structure OfferDerivation where
  serverPubkey : Bytes
  emulatorPubkey : Bytes
  exitDelay : RelativeDelay

section Sdk

variable {AssetId : Type} (sdk : SwapSdk AssetId)

/-- The decision's input, from a decoded offer and an observed deposit. -/
def offerFillInputFrom (offer : Offer AssetId) (deposit : OfferDeposit) : OfferFillInput :=
  let offerAssetId := offer.offerAsset.map sdk.assetIdText
  { wantAssetId := offer.wantAsset.map sdk.assetIdText
    wantAmount := offer.wantAmount
    offerAssetId := offerAssetId
    offerAmount := heldOf deposit offerAssetId }

/-- The offer's script is the one its own terms compile to; terms that compile to nothing
agree with no script. -/
def offerIsConsistent (offer : Offer AssetId) (serverPubkey : Bytes) : Bool :=
  match sdk.offerVtxoScript offer.toOfferBody serverPubkey with
  | .ok script => decide (hexEncode script = hexEncode offer.swapPkScript)
  | .error _ => false

/-- The first output that pays the script the offer states. -/
def fundingOutput (tx : FundingTx AssetId) :
    ℕ → List (Option (Bytes × ℤ)) → Option (DiscoveredOffer AssetId)
  | _, [] => none
  | vout, none :: rest => fundingOutput tx (vout + 1) rest
  | vout, some (script, value) :: rest =>
    if (hexEncode script).toLower ≠ (hexEncode tx.offer.swapPkScript).toLower then
      fundingOutput tx (vout + 1) rest
    else if value < 0 ∨ MAX_SAFE_INTEGER < value then none
    else some ⟨tx.offer, tx.id, vout, value⟩

/-- The offer a funding transaction publishes, if it publishes one that can be acted on. -/
def offerFromFundingTx (rawArkadeTx : String) : Option (DiscoveredOffer AssetId) :=
  (sdk.fundingTx rawArkadeTx).bind fun tx => fundingOutput tx 0 tx.outputs

/-- The x-only spelling of a key that may be compressed. -/
def xOnlyPubkey (pubkey : Bytes) : Except FloatFault Bytes :=
  if pubkey.length ≠ 32 ∧ pubkey.length ≠ 33 then
    .error (.error ("pubkey must be 32 bytes x-only or 33 compressed, got " ++
      toString pubkey.length))
  else .ok (pubkey.drop (pubkey.length - 32))

/-- An asset of the terms, parsed where there is one. -/
def assetFrom : Option String → Except FloatFault (Option AssetId)
  | none => .ok none
  | some text => (sdk.assetIdFrom text).map some

/-- The offer the terms describe, less its script. -/
def offerFromTerms (terms : QuotedOfferTerms) (emulatorPubkey : Bytes) (exitDelay : RelativeDelay) :
    Except FloatFault (OfferBody AssetId) := do
  let wantAsset ← assetFrom sdk terms.wantAssetId
  let offerAsset ← assetFrom sdk terms.offerAssetId
  let makerPkScript ← sdk.hexDecode terms.makerPkScript
  let makerPublicKey ← sdk.hexDecode terms.makerPublicKey
  return ⟨terms.wantAmount, wantAsset, offerAsset, makerPkScript, makerPublicKey, emulatorPubkey,
    exitDelay⟩

/-- The script these terms compile to, in hex. -/
def offerScriptFrom (derivation : OfferDerivation) (emulatorPubkey : Bytes)
    (terms : QuotedOfferTerms) : Except FloatFault String := do
  let body ← offerFromTerms sdk terms emulatorPubkey derivation.exitDelay
  let script ← sdk.offerVtxoScript body derivation.serverPubkey
  return hexEncode script

end Sdk

/-! ## Facts -/

/-- The better of two outputs holds as much of the leg as either. -/
def betterOutpoint (leg : Option String) (best next : OfferOutpoint) : OfferOutpoint :=
  if heldOf next.toOfferDeposit leg ≠ heldOf best.toOfferDeposit leg then
    if heldOf best.toOfferDeposit leg < heldOf next.toOfferDeposit leg then next else best
  else if best.sats < next.sats then next else best

/-- It is one of the two, and neither holds more. -/
theorem betterOutpoint_spec (leg : Option String) (best next : OfferOutpoint) :
    (betterOutpoint leg best next = best ∨ betterOutpoint leg best next = next) ∧
      heldOf best.toOfferDeposit leg ≤
        heldOf (betterOutpoint leg best next).toOfferDeposit leg ∧
      heldOf next.toOfferDeposit leg ≤
        heldOf (betterOutpoint leg best next).toOfferDeposit leg := by
  unfold betterOutpoint
  split
  · split
    · exact ⟨.inr rfl, by omega, le_refl _⟩
    · exact ⟨.inl rfl, le_refl _, by omega⟩
  · split
    · exact ⟨.inr rfl, by omega, le_refl _⟩
    · exact ⟨.inl rfl, le_refl _, by omega⟩

/-- One output more is the largest, or the largest stays. -/
theorem largestOfferOutpoint_concat (outpoints : List OfferOutpoint) (next : OfferOutpoint)
    (leg : Option String) :
    largestOfferOutpoint (outpoints ++ [next]) leg =
      some (((largestOfferOutpoint outpoints leg).map fun best =>
        betterOutpoint leg best next).getD next) := by
  unfold largestOfferOutpoint
  rw [List.foldl_append, List.foldl_cons, List.foldl_nil]
  generalize outpoints.foldl _ none = found
  cases found with
  | none => rfl
  | some best =>
    simp only [Option.map_some, Option.getD_some, betterOutpoint]
    split
    · rfl
    · rfl

/-- The largest output is one of them and holds as much of the leg as any. -/
theorem largestOfferOutpoint_spec (outpoints : List OfferOutpoint) (leg : Option String) :
    ∀ outpoint ∈ outpoints, ∃ best, largestOfferOutpoint outpoints leg = some best ∧
      best ∈ outpoints ∧
      heldOf outpoint.toOfferDeposit leg ≤ heldOf best.toOfferDeposit leg := by
  induction outpoints using List.reverseRecOn with
  | nil => exact fun _ hm => nomatch hm
  | append_singleton seen next ih =>
    intro outpoint hm
    rw [largestOfferOutpoint_concat]
    cases hfound : largestOfferOutpoint seen leg with
    | none =>
      refine ⟨next, rfl, List.mem_append_right _ (List.mem_singleton_self _), ?_⟩
      obtain hm | hm := List.mem_append.mp hm
      · obtain ⟨best, hb, -⟩ := ih outpoint hm
        rw [hfound] at hb
        cases hb
      · rw [List.mem_singleton.mp hm]
    | some best =>
      obtain ⟨heither, hbest, hnext⟩ := betterOutpoint_spec leg best next
      rw [Option.map_some, Option.getD_some]
      refine ⟨_, rfl, ?_, ?_⟩
      · -- The largest so far is one of those seen.
        have hseen : best ∈ seen := by
          cases seen with
          | nil => cases hfound
          | cons first rest =>
            obtain ⟨found, hf, hin, -⟩ := ih first List.mem_cons_self
            rw [hfound] at hf
            cases hf
            exact hin
        obtain he | he := heither
        · rw [he]
          exact List.mem_append_left _ hseen
        · rw [he]
          exact List.mem_append_right _ (List.mem_singleton_self _)
      · obtain hm | hm := List.mem_append.mp hm
        · obtain ⟨found, hf, -, hle⟩ := ih outpoint hm
          rw [hfound] at hf
          cases hf
          exact hle.trans hbest
        · rw [List.mem_singleton.mp hm]
          exact hnext

section Sdk

variable {AssetId : Type} {sdk : SwapSdk AssetId}

/-- A discovered output is one of the transaction, at the script its offer states. -/
theorem offerFromFundingTx_spec {rawArkadeTx : String} {found : DiscoveredOffer AssetId}
    (h : offerFromFundingTx sdk rawArkadeTx = some found) :
    ∃ tx script, sdk.fundingTx rawArkadeTx = some tx ∧ found.offer = tx.offer ∧
      found.txid = tx.id ∧ tx.outputs[found.vout]? = some (some (script, found.value)) ∧
      (hexEncode script).toLower = (hexEncode found.offer.swapPkScript).toLower ∧
      0 ≤ found.value := by
  obtain ⟨tx, ht, hf⟩ := Option.bind_eq_some_iff.mp h
  refine ⟨tx, ?_⟩
  -- The outputs passed over so far are counted in the number of the next.
  have hloop : ∀ (passed rest : List (Option (Bytes × ℤ))),
      fundingOutput tx passed.length rest = some found →
      ∃ script, found.offer = tx.offer ∧ found.txid = tx.id ∧
        (passed ++ rest)[found.vout]? = some (some (script, found.value)) ∧
        (hexEncode script).toLower = (hexEncode found.offer.swapPkScript).toLower ∧
        0 ≤ found.value := by
    intro passed rest
    induction rest generalizing passed with
    | nil => exact fun hn => nomatch hn
    | cons output rest ih =>
      intro hfound
      have hskip := ih (passed ++ [output])
      rw [List.length_append, List.length_singleton, List.append_assoc, List.singleton_append]
        at hskip
      cases output with
      | none => exact hskip hfound
      | some pay =>
        obtain ⟨script, value⟩ := pay
        unfold fundingOutput at hfound
        split at hfound
        · exact hskip hfound
        next hscript =>
          split at hfound
          · cases hfound
          next hvalue =>
            cases hfound
            refine ⟨script, rfl, rfl, ?_, not_not.mp hscript,
              not_lt.mp fun hneg => hvalue (.inl hneg)⟩
            rw [List.getElem?_append_right (le_refl _), Nat.sub_self]
            rfl
  obtain ⟨script, hoffer, htxid, hout, hscript, hvalue⟩ := hloop [] tx.outputs hf
  exact ⟨script, ht, hoffer, htxid, hout, hscript, hvalue⟩

/-- A consistent offer's script is compiled from its terms. -/
theorem offerIsConsistent_spec {offer : Offer AssetId} {serverPubkey : Bytes}
    (h : offerIsConsistent sdk offer serverPubkey = true) :
    sdk.offerVtxoScript offer.toOfferBody serverPubkey = .ok offer.swapPkScript := by
  unfold offerIsConsistent at h
  cases hs : sdk.offerVtxoScript offer.toOfferBody serverPubkey with
  | error error => simp [hs] at h
  | ok script =>
    simp only [hs, decide_eq_true_eq] at h
    rw [hexEncode_injective h]

end Sdk

end IntentSolver.OfferTerms
