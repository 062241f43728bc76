import IntentSolver.OfferTerms
import IntentSolver.ProgramTraces

/-!
# Filling an offer

A fill spends the maker's deposit and pays the maker out of the float. Coins are chosen among
those nobody has pinned and pinned in the same turn, so that no other spender takes them. The
latch of the row is claimed last: whoever fails to claim it submits nothing. Every refusal
above the latch leaves the deposit and the float as they were.
-/

namespace IntentSolver.OfferFulfill

open BigEndian CoinReservations HexText LockupFunding OfferTerms WorkerProgram

/-- A coin as the fill declares it. -/
structure FillFunding where
  txid : String
  vout : ℕ
  value : ℤ
  tapLeafScript : String
  tapTree : String
  assets : List AssetEntry
  deriving DecidableEq

/-- What the fill is asked to build and submit. -/
structure FillRequest where
  operatorUrl : String
  /-- The encoded offer, in hex. -/
  offer : String
  /-- Inputs after the deposit, in this order. -/
  fund : List FillFunding
  fundingTxid : String
  assetCarrierSats : ℤ
  emulator : String
  deriving DecidableEq

/-- The deposit a fill was decided on. -/
structure OfferDepositOutpoint where
  txid : String
  vout : ℕ
  value : ℤ
  /-- What it holds of the offered asset; none where the offer is sats. -/
  assetAmount : Option ℤ

/-- What of the deployment a fill reads. -/
structure FillContext where
  arkServerPublicKey : Bytes
  operatorUrl : String
  emulatorUrl : String
  dustSats : ℤ

/-- Choose coins, given the clock and which outpoints are pinned. -/
abbrev Selection : Type := ℤ → (String → Bool) → Except FloatFault (List Coin)

/-- How a fill acts. -/
structure FulfillPort {Op : Type} (Ans : Op → Type) where
  getSpendableVtxos : Program Ans FloatFault (List Coin)
  /-- One turn: what is pinned is read, coins are selected and pinned. -/
  pin : Selection → Program Ans FloatFault (ℕ × List Coin)
  /-- Absent where the caller has no row to claim. -/
  markSubmitting : Option (Program Ans FloatFault Bool)
  fillOffer : FillRequest → Program Ans FloatFault String
  release : ℕ → Program Ans FloatFault Unit

/-- Assets a coin carries, without empty ones. -/
def assetsOn (coin : Coin) : List AssetEntry :=
  coin.assets.filter fun entry => decide (0 < entry.amount)

/-- A coin as an input of the fill. -/
def fillFunding (coin : Coin) : FillFunding :=
  ⟨coin.txid, coin.vout, coin.value, coin.forfeitTapLeafScript, coin.tapTree, assetsOn coin⟩

/-- The coins nobody has pinned. -/
def freeCoins (spendable : List Coin) (reserved : String → Bool) : List Coin :=
  spendable.filter fun coin => !reserved (outpointKey coin.outpoint)

section Fill

variable {AssetId Op : Type} {Ans : Op → Type} (sdk : SwapSdk AssetId) (ctx : FillContext)
  (port : FulfillPort Ans)

/-- Coins that pay the maker, among those nobody has pinned. -/
def makerFunding (offer : Offer AssetId) (spendable : List Coin) : Selection :=
  fun _ reserved =>
    let free := freeCoins spendable reserved
    let wantedAssetId := offer.wantAsset.map sdk.assetIdText
    let selected := match wantedAssetId with
      | none => sdk.selectVirtualCoins free offer.wantAmount
      | some assetId => sdk.selectCoinsWithAsset free assetId offer.wantAmount
    match selected with
    | .error text => .error (.offerNotSubmitted
        ("no spendable coins to pay the maker " ++ toString offer.wantAmount ++ " " ++
          wantedAssetId.getD "sats" ++ " (holding " ++
          toString (free.map Coin.value).sum ++ " sats): " ++ text))
    | .ok [] => .error (.offerNotSubmitted
        ("no spendable coins to pay the maker " ++ toString offer.wantAmount ++ " sats"))
    | .ok funding => .ok funding

/-- What is submitted for an offer, its deposit and the coins that pay the maker. -/
def fillRequest (offer : Offer AssetId) (deposit : OfferDepositOutpoint) (funding : List Coin) :
    FillRequest where
  operatorUrl := ctx.operatorUrl
  offer := hexEncode (sdk.encodeOffer offer)
  fund := funding.map fillFunding
  fundingTxid := deposit.txid
  assetCarrierSats := ctx.dustSats
  emulator := ctx.emulatorUrl

/-- Claim the row, if there is one to claim. -/
def claimLatch (deposit : OfferDepositOutpoint) : Program Ans FloatFault Unit :=
  match port.markSubmitting with
  | none => .ret ()
  | some markSubmitting => do
    let won ← markSubmitting
    if won then return ()
    else throw (FloatFault.offerNotSubmitted ("another attempt already holds the fill for " ++
      deposit.txid ++ ":" ++ toString deposit.vout ++ "; nothing was submitted"))

/-- The last steps, with the coins pinned. -/
def submitFill (offer : Offer AssetId) (deposit : OfferDepositOutpoint) (funding : List Coin) :
    Program Ans FloatFault String := do
  claimLatch port deposit
  port.fillOffer (fillRequest sdk ctx offer deposit funding)

/-- Fulfil one offer. -/
def fulfillOffer (offer : Offer AssetId) (deposit : OfferDepositOutpoint) :
    Program Ans FloatFault String :=
  if !offerIsConsistent sdk offer ctx.arkServerPublicKey then
    throw (FloatFault.error
      "offer inconsistency: the script does not encode the stated terms")
  else if offer.wantAsset.isSome ∧ offer.offerAsset.isSome then
    throw (FloatFault.error "an offer names an asset on exactly one leg, not both")
  else do
    let spendable ← port.getSpendableVtxos
    let pinned ← port.pin (makerFunding sdk offer spendable)
    (submitFill sdk ctx port offer deposit pinned.2).andFinally (port.release pinned.1)

end Fill

/-! ## Facts -/

/-- The packages select among the coins they are given. -/
structure Selects {AssetId : Type} (sdk : SwapSdk AssetId) : Prop where
  virtualCoins : ∀ {coins sats selected}, sdk.selectVirtualCoins coins sats = .ok selected →
    selected ⊆ coins
  coinsWithAsset : ∀ {coins assetId amount selected},
    sdk.selectCoinsWithAsset coins assetId amount = .ok selected → selected ⊆ coins

/-- A selection takes no coin that is pinned. -/
def TakesFree (select : Selection) : Prop :=
  ∀ now reserved coins, select now reserved = .ok coins →
    ∀ coin ∈ coins, reserved (outpointKey coin.outpoint) = false

/-- A free coin is not reserved. -/
theorem mem_freeCoins {spendable : List Coin} {reserved : String → Bool} {coin : Coin}
    (h : coin ∈ freeCoins spendable reserved) : reserved (outpointKey coin.outpoint) = false := by
  have hfree := (List.mem_filter.mp h).2
  rwa [Bool.not_eq_true'] at hfree

/-- The maker is paid from coins that are not pinned. -/
theorem makerFunding_takesFree {AssetId : Type} {sdk : SwapSdk AssetId} (hsdk : Selects sdk)
    (offer : Offer AssetId) (spendable : List Coin) :
    TakesFree (makerFunding sdk offer spendable) := by
  intro now reserved coins h coin hc
  have hsub : coins ⊆ freeCoins spendable reserved := by
    unfold makerFunding at h
    dsimp only at h
    split at h
    · cases h
    · cases h
    next funding hselected =>
      cases h
      split at hselected
      · exact hsdk.virtualCoins hselected
      · exact hsdk.coinsWithAsset hselected
  exact mem_freeCoins (hsub hc)

end IntentSolver.OfferFulfill
