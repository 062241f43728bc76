import IntentSolver.MonotoneSearch
import IntentSolver.PriceFeed
import Mathlib

/-!
# Quotes between an asset and sats on Arkade

A quote converts what the client gives, at the feed's price, and takes the spread out of the
payout. The exact-out direction searches that one formula, so both directions round the same
way. Flat fees and the carrier's sats sit on the legs outside the price. A published offer is
held against the same formula with the market's tolerance in it: the two ways into one
settlement must agree, or the gate refuses what the quote issued.
-/

namespace IntentSolver.AssetQuotes

open PriceFeed MonotoneSearch

/-! ## The price -/

/-- One whole unit in basis points. -/
def BPS : ℤ := 10000

/-- What decides a price besides the input. -/
structure Rate where
  givesBase : Bool
  baseDecimals : ℕ
  quoteDecimals : ℕ
  feeBps : ℤ
  toleranceBps : ℤ
  feed : Price

/-- The payout before the spread. -/
def Rate.mid (rate : Rate) (netInput : ℤ) : ℤ :=
  let scale : ℤ := 10 ^ rate.feed.scale
  let baseUnit : ℤ := 10 ^ rate.baseDecimals
  let quoteUnit : ℤ := 10 ^ rate.quoteDecimals
  if rate.givesBase then
    (netInput * rate.feed.mantissa * (BPS + rate.toleranceBps) * quoteUnit).tdiv
      (baseUnit * scale * BPS)
  else
    (netInput * baseUnit * scale * BPS).tdiv
      (quoteUnit * rate.feed.mantissa * (BPS - rate.toleranceBps))

/-- Exact-in payout: convert, then take the spread, rounded up. -/
def assetExactInPayout (rate : Rate) (netInput : ℤ) : ℤ :=
  let mid := rate.mid netInput
  let fee := (mid * rate.feeBps + BPS - 1).tdiv BPS
  mid - fee

/-- The least input whose payout reaches `payout`, searched up to `2 ^ 256`. -/
def assetExactOutInput (rate : Rate) (payout : ℤ) : Option ℤ :=
  if payout ≤ 0 then none
  else leastReaching (fun netInput => decide (payout ≤ assetExactInPayout rate netInput)) 256

/-! ## Quotes -/

/-- A leg's asset id, or none for BTC. -/
abbrev AssetLeg : Type := Option String

/-- What the client deposits and what the solver delivers. -/
structure AssetPair where
  giving : AssetLeg
  taking : AssetLeg

/-- One priced market. -/
structure AssetQuoteMarket where
  base : AssetLeg
  quote : AssetLeg
  baseDecimals : ℕ
  quoteDecimals : ℕ
  feeBps : ℤ
  sellBaseFeeBps : Option ℤ
  buyBaseFeeBps : Option ℤ
  /-- Charged in the base input when the client sells base. -/
  sellBaseFeeFlat : Option ℤ
  /-- Charged in the quote input when the client buys base. -/
  buyBaseFeeFlat : Option ℤ
  minPayout : ℤ
  maxPayout : ℤ

/-- Why a quote is refused. -/
inductive AssetQuoteRefusal where
  | unsupportedPair
  | priceUnavailable
  | feeConsumesSwap
  | amountOutOfRange
  deriving DecidableEq

/-- Whether the client gives the market's base, where the pair is on it at all. -/
def assetQuoteGivesBase (pair : AssetPair) (market : AssetQuoteMarket) : Option Bool :=
  if pair.giving = market.base ∧ pair.taking = market.quote then some true
  else if pair.giving = market.quote ∧ pair.taking = market.base then some false
  else none

/-- The direction's flat fee. -/
def assetFlatFeeFor (givesBase : Bool) (market : AssetQuoteMarket) : ℤ :=
  (if givesBase then market.sellBaseFeeFlat else market.buyBaseFeeFlat).getD 0

/-- The direction's spread. -/
def assetFeeBpsFor (givesBase : Bool) (market : AssetQuoteMarket) : ℤ :=
  (if givesBase then market.sellBaseFeeBps else market.buyBaseFeeBps).getD market.feeBps

/-- The carrier on either leg. -/
structure CarrierLegs where
  /-- Netted off the deposit. -/
  charged : ℤ
  /-- Added to the payout. -/
  returned : ℤ

/-- Which leg carries: an asset deposit comes with one, an asset payout needs one. -/
def carrierLegs (pair : AssetPair) (carrierSats : ℤ) : CarrierLegs :=
  let clientFronts := pair.giving.isSome
  let solverDelivers := pair.taking.isSome
  { charged := if solverDelivers && !clientFronts then carrierSats else 0
    returned := if clientFronts && !solverDelivers then carrierSats else 0 }

/-- What the price puts on neither leg. -/
structure FlatParts where
  flatFee : ℤ
  giving : ℤ
  taking : ℤ

/-- The flat fee and the carrier, by leg. -/
def flatPartsOf (pair : AssetPair) (market : AssetQuoteMarket) (givesBase : Bool)
    (carrierSats : ℤ) : FlatParts :=
  let flatFee := assetFlatFeeFor givesBase market
  let legs := carrierLegs pair carrierSats
  { flatFee, giving := flatFee + legs.charged, taking := legs.returned }

/-- The rate of a quote. -/
def quoteRate (market : AssetQuoteMarket) (givesBase : Bool) (feed : Price) : Rate where
  givesBase := givesBase
  baseDecimals := market.baseDecimals
  quoteDecimals := market.quoteDecimals
  feeBps := assetFeeBpsFor givesBase market
  toleranceBps := 0
  feed := feed

/-- Which side the client named. -/
inductive AmountSide where
  | giving
  | taking
  deriving DecidableEq

/-- What a quote is asked for. -/
structure AssetQuoteArgs where
  pair : AssetPair
  amount : ℤ
  amountSide : AmountSide
  market : AssetQuoteMarket
  feed : Price
  carrierSats : ℤ
  dustSats : ℤ

/-- The two amounts of a quote. -/
structure AssetQuote where
  fromAmount : ℤ
  toAmount : ℤ
  deriving DecidableEq

/-- The exact-out side: the client named what it takes. -/
def resolveTaking (args : AssetQuoteArgs) (rate : Rate) (flat : FlatParts) :
    Except AssetQuoteRefusal AssetQuote :=
  let wanted := args.amount - flat.taking
  if wanted ≤ 0 then .error .feeConsumesSwap
  else if wanted < args.market.minPayout ∨ args.market.maxPayout < wanted then
    .error .amountOutOfRange
  else match assetExactOutInput rate wanted with
    | none => .error .priceUnavailable
    | some netInput =>
      if args.pair.taking.isNone ∧ args.amount < args.dustSats then .error .amountOutOfRange
      else .ok ⟨netInput + flat.giving, args.amount⟩

/-- The exact-in side: the client named what it gives. -/
def resolveGiving (args : AssetQuoteArgs) (rate : Rate) (flat : FlatParts) :
    Except AssetQuoteRefusal AssetQuote :=
  let netAmount := args.amount - flat.giving
  if netAmount ≤ 0 then .error .feeConsumesSwap
  else
    let payout := assetExactInPayout rate netAmount
    if payout ≤ 0 then .error .feeConsumesSwap
    else if payout < args.market.minPayout ∨ args.market.maxPayout < payout then
      .error .amountOutOfRange
    else
      let toAmount := payout + flat.taking
      if args.pair.taking.isNone ∧ toAmount < args.dustSats then .error .amountOutOfRange
      else .ok ⟨args.amount, toAmount⟩

/-- The two amounts a quote resolves to. -/
def resolveAssetQuote (args : AssetQuoteArgs) : Except AssetQuoteRefusal AssetQuote :=
  match assetQuoteGivesBase args.pair args.market with
  | none => .error .unsupportedPair
  | some givesBase =>
    if args.feed.mantissa ≤ 0 then .error .priceUnavailable
    else if args.market.feeBps < 0 ∨ BPS ≤ args.market.feeBps then .error .priceUnavailable
    else if args.amount ≤ 0 then .error .amountOutOfRange
    else if args.carrierSats < 0 ∨ args.dustSats < 0 then .error .priceUnavailable
    else
      let flat := flatPartsOf args.pair args.market givesBase args.carrierSats
      if flat.flatFee < 0 then .error .priceUnavailable
      else
        let feeBps := assetFeeBpsFor givesBase args.market
        if feeBps < 0 ∨ BPS ≤ feeBps then .error .priceUnavailable
        else
          let rate := quoteRate args.market givesBase args.feed
          match args.amountSide with
          | .taking => resolveTaking args rate flat
          | .giving => resolveGiving args rate flat

/-! ## Offers -/

/-- Which side of the market the maker is on. -/
inductive OfferDirection where
  | sellBase
  | buyBase
  deriving DecidableEq

/-- The market as the offer gate is given it. -/
structure OfferPriceMarket where
  baseDecimals : ℕ
  quoteDecimals : ℕ
  /-- Deviation from the feed the solver accepts. -/
  toleranceBps : ℤ
  feeBps : ℤ
  sellBaseFeeBps : Option ℤ
  buyBaseFeeBps : Option ℤ
  sellBaseFeeFlat : Option ℤ
  buyBaseFeeFlat : Option ℤ

/-- Whether an offer is within tolerance of the feed. -/
def offerWithinTolerance (depositAmount wantAmount : ℤ) (direction : OfferDirection)
    (market : OfferPriceMarket) (feed : Price) (carrierCharged carrierReturned : ℤ) : Bool :=
  if carrierCharged < 0 ∨ carrierReturned < 0 then false
  else if depositAmount ≤ 0 ∨ wantAmount ≤ 0 then false
  else if feed.mantissa ≤ 0 then false
  else if market.toleranceBps < 0 ∨ BPS ≤ market.toleranceBps then false
  else
    let feeBps := (if direction = .sellBase then market.sellBaseFeeBps
      else market.buyBaseFeeBps).getD market.feeBps
    if feeBps < 0 ∨ BPS ≤ feeBps then false
    else
      let flatFee := (if direction = .sellBase then market.sellBaseFeeFlat
        else market.buyBaseFeeFlat).getD 0
      if flatFee < 0 then false
      else
        let netDeposit := depositAmount - flatFee - carrierCharged
        if netDeposit ≤ 0 then false
        else
          let payout := assetExactInPayout
            { givesBase := decide (direction = .sellBase)
              baseDecimals := market.baseDecimals
              quoteDecimals := market.quoteDecimals
              feeBps := feeBps
              toleranceBps := market.toleranceBps
              feed := feed } netDeposit
          decide (wantAmount ≤ payout + carrierReturned)

/-- The maker's side of the market, where the offer is on it. -/
def offerDirectionOn (base quote depositAssetId wantAssetId : AssetLeg) : Option OfferDirection :=
  if depositAssetId = base ∧ wantAssetId = quote then some .sellBase
  else if depositAssetId = quote ∧ wantAssetId = base then some .buyBase
  else none

/-- The same market at the offer gate. -/
def AssetQuoteMarket.offers (market : AssetQuoteMarket) (toleranceBps : ℤ) : OfferPriceMarket where
  baseDecimals := market.baseDecimals
  quoteDecimals := market.quoteDecimals
  toleranceBps := toleranceBps
  feeBps := market.feeBps
  sellBaseFeeBps := market.sellBaseFeeBps
  buyBaseFeeBps := market.buyBaseFeeBps
  sellBaseFeeFlat := market.sellBaseFeeFlat
  buyBaseFeeFlat := market.buyBaseFeeFlat

/-! ## Three floors and a ceiling -/

/-- A positive price, a tolerance below one whole and a spread below one whole. -/
structure Rate.Sound (rate : Rate) : Prop where
  price : 0 < rate.feed.mantissa
  tolerance_nonneg : 0 ≤ rate.toleranceBps
  tolerance_lt : rate.toleranceBps < BPS
  fee_nonneg : 0 ≤ rate.feeBps
  fee_lt : rate.feeBps < BPS

/-- Whole steps of the numerator move a truncated quotient by no more. -/
theorem tdiv_add_mul_le (numerator : ℤ) {steps : ℤ} (hs : 0 ≤ steps) :
    (numerator + steps * 10000).tdiv 10000 ≤ numerator.tdiv 10000 + steps := by
  have hsign : Int.sign 10000 = 1 := rfl
  rw [Int.tdiv_eq_ediv, Int.tdiv_eq_ediv, hsign]
  split <;> split <;> omega

/-- What is left after the spread grows with what there was. -/
theorem afterSpread_mono {feeBps : ℤ} (hl : feeBps < BPS) :
    Monotone fun mid : ℤ => mid - (mid * feeBps + BPS - 1).tdiv BPS := by
  intro low high h
  change low - (low * feeBps + 10000 - 1).tdiv 10000 ≤
    high - (high * feeBps + 10000 - 1).tdiv 10000
  change feeBps < 10000 at hl
  have hfee : (high - low) * feeBps ≤ (high - low) * 10000 :=
    mul_le_mul_of_nonneg_left hl.le (sub_nonneg.mpr h)
  have hsum : high * feeBps + 10000 - 1 ≤ low * feeBps + 10000 - 1 + (high - low) * 10000 := by
    have hsplit : high * feeBps = low * feeBps + (high - low) * feeBps := by ring
    omega
  have hfloor := Int.tdiv_le_tdiv (show (0 : ℤ) < 10000 by decide) hsum
  have hstep := tdiv_add_mul_le (low * feeBps + 10000 - 1) (sub_nonneg.mpr h)
  omega

variable {rate : Rate}

/-- The conversion grows with the input. -/
theorem Rate.Sound.mid_mono (hr : rate.Sound) : Monotone rate.mid := by
  intro low high h
  have hprice := hr.price
  have htolerance := hr.tolerance_nonneg
  have hroom : 0 < BPS - rate.toleranceBps := sub_pos.mpr hr.tolerance_lt
  have hbps : (0 : ℤ) < BPS := by decide
  unfold Rate.mid
  dsimp only
  split
  · refine Int.tdiv_le_tdiv (by positivity) ?_
    gcongr
  · refine Int.tdiv_le_tdiv (by positivity) ?_
    gcongr

/-- The payout grows with the input. -/
theorem Rate.Sound.payout_mono (hr : rate.Sound) : Monotone (assetExactInPayout rate) :=
  (afterSpread_mono hr.fee_lt).comp hr.mid_mono

/-- The conversion of a real input grows with the tolerance. -/
theorem Rate.Sound.mid_tolerant (hr : rate.Sound) {more netInput : ℤ} (hn : 0 ≤ netInput)
    (hm : rate.toleranceBps ≤ more) (hl : more < BPS) :
    rate.mid netInput ≤ { rate with toleranceBps := more }.mid netInput := by
  have hprice := hr.price
  have htolerance := hr.tolerance_nonneg
  have hbps : (0 : ℤ) < BPS := by decide
  have hroom : 0 < BPS - more := sub_pos.mpr hl
  have hwider : 0 < BPS - rate.toleranceBps := sub_pos.mpr (lt_of_le_of_lt hm hl)
  unfold Rate.mid
  dsimp only
  split
  · refine Int.tdiv_le_tdiv (by positivity) ?_
    gcongr
  · have hnum : 0 ≤ netInput * 10 ^ rate.baseDecimals * 10 ^ rate.feed.scale * BPS := by positivity
    have hden : (0 : ℤ) < 10 ^ rate.quoteDecimals * rate.feed.mantissa * (BPS - more) := by
      positivity
    have hless : 10 ^ rate.quoteDecimals * rate.feed.mantissa * (BPS - more) ≤
        10 ^ rate.quoteDecimals * rate.feed.mantissa * (BPS - rate.toleranceBps) := by
      gcongr
    rw [Int.tdiv_eq_ediv_of_nonneg hnum, Int.tdiv_eq_ediv_of_nonneg hnum,
      Int.le_ediv_iff_mul_le hden]
    refine (mul_le_mul_of_nonneg_left hless (Int.ediv_nonneg hnum ?_)).trans
      (Int.ediv_mul_le _ (ne_of_gt ?_))
    · positivity
    · positivity

/-- The payout of a real input grows with the tolerance. -/
theorem Rate.Sound.payout_tolerant (hr : rate.Sound) {more netInput : ℤ} (hn : 0 ≤ netInput)
    (hm : rate.toleranceBps ≤ more) (hl : more < BPS) :
    assetExactInPayout rate netInput ≤
      assetExactInPayout { rate with toleranceBps := more } netInput :=
  afterSpread_mono hr.fee_lt (hr.mid_tolerant hn hm hl)

/-- No input pays out nothing. -/
theorem assetExactInPayout_zero (rate : Rate) : assetExactInPayout rate 0 = 0 := by
  unfold assetExactInPayout Rate.mid BPS
  simp

/-! ## The search -/

/-- Once an input reaches a payout, every larger one does. -/
theorem Rate.Sound.stays (hr : rate.Sound) (payout : ℤ) :
    Stays fun netInput => decide (payout ≤ assetExactInPayout rate netInput) := by
  intro low high h hlow
  exact decide_eq_true ((of_decide_eq_true hlow).trans (hr.payout_mono h))

/-- What the search finds is the least positive input that reaches the payout. -/
theorem assetExactOutInput_some (hr : rate.Sound) {payout netInput : ℤ}
    (h : assetExactOutInput rate payout = some netInput) :
    0 < payout ∧ IsLeast {n | 0 < n ∧ payout ≤ assetExactInPayout rate n} netInput := by
  unfold assetExactOutInput at h
  split at h
  · cases h
  next hp =>
    have hleast := leastReaching_some (hr.stays payout) h
    simp only [decide_eq_true_eq] at hleast
    exact ⟨not_le.mp hp, hleast⟩

/-- It finds none where nothing is wanted, and where no input up to `2 ^ 256` pays enough. -/
theorem assetExactOutInput_none_iff (hr : rate.Sound) {payout : ℤ} :
    assetExactOutInput rate payout = none ↔
      payout ≤ 0 ∨ ∀ n, 0 < n → n ≤ 2 ^ 256 → assetExactInPayout rate n < payout := by
  unfold assetExactOutInput
  by_cases hp : payout ≤ 0
  · simp [hp]
  · rw [if_neg hp, leastReaching_none_iff (hr.stays payout)]
    simp [hp]

/-! ## Quotes and the gate -/

variable {args : AssetQuoteArgs} {quote : AssetQuote}

/-- What stands behind an accepted quote. -/
structure Priced (args : AssetQuoteArgs) (quote : AssetQuote) (givesBase : Bool) : Prop where
  direction : assetQuoteGivesBase args.pair args.market = some givesBase
  sound : (quoteRate args.market givesBase args.feed).Sound
  carrier_nonneg : 0 ≤ args.carrierSats
  flatFee_nonneg : 0 ≤ assetFlatFeeFor givesBase args.market
  /-- The input net of the flat parts. -/
  net_pos : 0 < quote.fromAmount -
    (flatPartsOf args.pair args.market givesBase args.carrierSats).giving
  /-- The payout net of the flat parts. -/
  payout_pos : 0 < quote.toAmount -
    (flatPartsOf args.pair args.market givesBase args.carrierSats).taking
  pays : quote.toAmount ≤ assetExactInPayout (quoteRate args.market givesBase args.feed)
      (quote.fromAmount - (flatPartsOf args.pair args.market givesBase args.carrierSats).giving) +
    (flatPartsOf args.pair args.market givesBase args.carrierSats).taking
  /-- On the exact-out side no smaller deposit pays what was named. -/
  least : args.amountSide = .taking → quote.toAmount = args.amount ∧
    ∀ fromAmount, quote.toAmount ≤
      assetExactInPayout (quoteRate args.market givesBase args.feed)
        (fromAmount - (flatPartsOf args.pair args.market givesBase args.carrierSats).giving) +
      (flatPartsOf args.pair args.market givesBase args.carrierSats).taking →
    quote.fromAmount ≤ fromAmount

/-- An exact-in quote pays its own forward price. -/
theorem resolveGiving_ok {flat : FlatParts} (h : resolveGiving args rate flat = .ok quote) :
    0 < quote.fromAmount - flat.giving ∧ 0 < quote.toAmount - flat.taking ∧
      quote.toAmount = assetExactInPayout rate (quote.fromAmount - flat.giving) + flat.taking := by
  unfold resolveGiving at h
  dsimp only at h
  split at h
  · cases h
  next hnet =>
  split at h
  · cases h
  next hpayout =>
  split at h
  · cases h
  split at h
  · cases h
  · cases h
    exact ⟨not_le.mp hnet, by simpa using hpayout, rfl⟩

/-- An exact-out quote asks for the least deposit that pays what was named. -/
theorem resolveTaking_ok (hr : rate.Sound) {flat : FlatParts}
    (h : resolveTaking args rate flat = .ok quote) :
    quote.toAmount = args.amount ∧ 0 < quote.toAmount - flat.taking ∧
      IsLeast {n | 0 < n ∧ quote.toAmount - flat.taking ≤ assetExactInPayout rate n}
        (quote.fromAmount - flat.giving) := by
  unfold resolveTaking at h
  dsimp only at h
  split at h
  · cases h
  next hwanted =>
  split at h
  · cases h
  split at h
  · cases h
  next netInput hsome =>
  split at h
  · cases h
  · cases h
    dsimp only
    rw [add_sub_cancel_right]
    exact ⟨rfl, not_le.mp hwanted, (assetExactOutInput_some hr hsome).2⟩

/-- Every accepted quote is priced. -/
theorem resolveAssetQuote_ok (h : resolveAssetQuote args = .ok quote) :
    ∃ givesBase, Priced args quote givesBase := by
  unfold resolveAssetQuote at h
  split at h
  · cases h
  next givesBase hdirection =>
  refine ⟨givesBase, ?_⟩
  split at h
  · cases h
  next hprice =>
  split at h
  · cases h
  split at h
  · cases h
  split at h
  · cases h
  next hcarrier =>
  dsimp only at h
  split at h
  · cases h
  next hflat =>
  split at h
  · cases h
  next hfee =>
  have hsound : (quoteRate args.market givesBase args.feed).Sound :=
    { price := not_le.mp hprice
      tolerance_nonneg := le_rfl
      tolerance_lt := show (0 : ℤ) < BPS by decide
      fee_nonneg := not_lt.mp fun hn => hfee (.inl hn)
      fee_lt := not_le.mp fun hl => hfee (.inr hl) }
  have hcarrier' : 0 ≤ args.carrierSats := not_lt.mp fun hn => hcarrier (.inl hn)
  have hflat' : 0 ≤ assetFlatFeeFor givesBase args.market := not_lt.mp hflat
  split at h
  next hside =>
    obtain ⟨hnamed, hpayout, hleast⟩ := resolveTaking_ok hsound h
    have hpays := hleast.1.2
    refine ⟨hdirection, hsound, hcarrier', hflat', hleast.1.1, hpayout, by omega, fun _ =>
      ⟨hnamed, fun fromAmount hforward => ?_⟩⟩
    -- A deposit that does not cover the flat parts buys nothing.
    have hpos : 0 < fromAmount -
        (flatPartsOf args.pair args.market givesBase args.carrierSats).giving := by
      by_contra hn
      have hmono := hsound.payout_mono (not_lt.mp hn)
      rw [assetExactInPayout_zero] at hmono
      omega
    have hbound := hleast.2 ⟨hpos, by omega⟩
    omega
  next hside =>
    obtain ⟨hnet, hpayout, hpays⟩ := resolveGiving_ok h
    refine ⟨hdirection, hsound, hcarrier', hflat', hnet, hpayout, hpays.le, fun ht => ?_⟩
    rw [hside] at ht
    cases ht

/-- The direction a market gives a pair is the maker's side of it. -/
def directionOf (givesBase : Bool) : OfferDirection := if givesBase then .sellBase else .buyBase

/-- An offer's direction is the direction of the quote. -/
theorem offerDirectionOn_eq (pair : AssetPair) (market : AssetQuoteMarket) :
    offerDirectionOn market.base market.quote pair.giving pair.taking =
      (assetQuoteGivesBase pair market).map directionOf := by
  unfold offerDirectionOn assetQuoteGivesBase
  split
  · rfl
  · split <;> rfl

/-- Carrier legs are no debts. -/
theorem carrierLegs_nonneg (pair : AssetPair) {carrierSats : ℤ} (h : 0 ≤ carrierSats) :
    0 ≤ (carrierLegs pair carrierSats).charged ∧ 0 ≤ (carrierLegs pair carrierSats).returned := by
  unfold carrierLegs
  dsimp only
  constructor <;> split <;> omega

/-- A priced quote passes the gate, whatever the tolerance. -/
theorem Priced.within {givesBase : Bool} (h : Priced args quote givesBase) {toleranceBps : ℤ}
    (hn : 0 ≤ toleranceBps) (hl : toleranceBps < BPS) :
    offerWithinTolerance quote.fromAmount quote.toAmount (directionOf givesBase)
      (args.market.offers toleranceBps) args.feed
      (carrierLegs args.pair args.carrierSats).charged
      (carrierLegs args.pair args.carrierSats).returned = true := by
  obtain ⟨hcharged, hreturned⟩ := carrierLegs_nonneg args.pair h.carrier_nonneg
  have hnet := h.net_pos
  have hpayout := h.payout_pos
  have hpays := h.pays
  have hflat := h.flatFee_nonneg
  have hfee := h.sound.fee_nonneg
  have hfee' := h.sound.fee_lt
  have htolerant := h.sound.payout_tolerant hnet.le (show (0 : ℤ) ≤ toleranceBps from hn) hl
  simp only [flatPartsOf] at hnet hpayout hpays htolerant
  have hdirection : (decide (directionOf givesBase = .sellBase)) = givesBase := by
    cases givesBase <;> rfl
  have hbps : ((if directionOf givesBase = .sellBase then args.market.sellBaseFeeBps
      else args.market.buyBaseFeeBps).getD args.market.feeBps) =
        assetFeeBpsFor givesBase args.market := by
    cases givesBase <;> rfl
  have hfees : ((if directionOf givesBase = .sellBase then args.market.sellBaseFeeFlat
      else args.market.buyBaseFeeFlat).getD 0) = assetFlatFeeFor givesBase args.market := by
    cases givesBase <;> rfl
  have hprice : ¬args.feed.mantissa ≤ 0 := not_le.mpr h.sound.price
  have hspread : ¬(assetFeeBpsFor givesBase args.market < 0 ∨
      BPS ≤ assetFeeBpsFor givesBase args.market) := by
    rintro (hneg | hbig)
    · exact absurd hfee (not_le.mpr hneg)
    · exact absurd hfee' (not_lt.mpr hbig)
  unfold offerWithinTolerance
  simp only [AssetQuoteMarket.offers, hbps, hfees, hdirection]
  rw [if_neg (by omega), if_neg (by omega), if_neg hprice, if_neg (by omega), if_neg hspread,
    if_neg (by omega), if_neg (by omega)]
  refine decide_eq_true ?_
  rw [← sub_sub] at hpays htolerant
  exact hpays.trans (add_le_add_left htolerant _)

/-- Both sides of a quote agree, and the gate takes what the quote issued. The payout grows
with the input, and of a real input with the tolerance. For an amount that is wanted the
search gives the least positive input that pays it, and none exactly where no input up to
`2 ^ 256` does. A quote resolved from what the client takes asks for the smallest deposit
that pays it, and an accepted quote of either side is within every tolerance below one. -/
theorem asset_quote_sides_agree {rate : Rate} (hr : rate.Sound) {args : AssetQuoteArgs}
    {quote : AssetQuote} (h : resolveAssetQuote args = .ok quote) :
    (Monotone (assetExactInPayout rate) ∧
      ∀ more netInput, 0 ≤ netInput → rate.toleranceBps ≤ more → more < BPS →
        assetExactInPayout rate netInput ≤
          assetExactInPayout { rate with toleranceBps := more } netInput) ∧
    (∀ payout, 0 < payout →
      (∀ netInput, assetExactOutInput rate payout = some netInput →
        IsLeast {n | 0 < n ∧ payout ≤ assetExactInPayout rate n} netInput) ∧
      (assetExactOutInput rate payout = none ↔
        ∀ n, 0 < n → n ≤ 2 ^ 256 → assetExactInPayout rate n < payout)) ∧
    ∃ givesBase, assetQuoteGivesBase args.pair args.market = some givesBase ∧
      (args.amountSide = .taking → quote.toAmount = args.amount ∧
        IsLeast {fromAmount | quote.toAmount ≤
          assetExactInPayout (quoteRate args.market givesBase args.feed)
            (fromAmount -
              (flatPartsOf args.pair args.market givesBase args.carrierSats).giving) +
          (flatPartsOf args.pair args.market givesBase args.carrierSats).taking}
          quote.fromAmount) ∧
      ∃ direction, offerDirectionOn args.market.base args.market.quote args.pair.giving
          args.pair.taking = some direction ∧
        ∀ toleranceBps, 0 ≤ toleranceBps → toleranceBps < BPS →
          offerWithinTolerance quote.fromAmount quote.toAmount direction
            (args.market.offers toleranceBps) args.feed
            (carrierLegs args.pair args.carrierSats).charged
            (carrierLegs args.pair args.carrierSats).returned = true := by
  refine ⟨⟨hr.payout_mono, fun more netInput hn hm hl => hr.payout_tolerant hn hm hl⟩,
    fun payout hp => ⟨fun netInput hs => (assetExactOutInput_some hr hs).2, ?_⟩, ?_⟩
  · rw [assetExactOutInput_none_iff hr]
    constructor
    · intro hnone
      exact hnone.resolve_left (not_le.mpr hp)
    · exact .inr
  · obtain ⟨givesBase, hpriced⟩ := resolveAssetQuote_ok h
    refine ⟨givesBase, hpriced.direction, fun hside => ?_, directionOf givesBase, ?_, ?_⟩
    · obtain ⟨hnamed, hleast⟩ := hpriced.least hside
      exact ⟨hnamed, hpriced.pays, hleast⟩
    · rw [offerDirectionOn_eq, hpriced.direction]
      rfl
    · intro toleranceBps hn hl
      exact hpriced.within hn hl

/-- An asset against sats: two sats a unit, one per cent, and the carrier on top. -/
def sampleMarket : AssetQuoteMarket where
  base := some "a"
  quote := none
  baseDecimals := 0
  quoteDecimals := 0
  feeBps := 100
  sellBaseFeeBps := none
  buyBaseFeeBps := none
  sellBaseFeeFlat := some 1
  buyBaseFeeFlat := none
  minPayout := 1
  maxPayout := 1000

/-- The client sells for five sats and its carrier. -/
def sampleArgs : AssetQuoteArgs where
  pair := ⟨some "a", none⟩
  amount := 335
  amountSide := .taking
  market := sampleMarket
  feed := ⟨2, 0⟩
  carrierSats := 330
  dustSats := 330

/-- The sample rate is sound. -/
theorem sampleRate_sound : (quoteRate sampleMarket true ⟨2, 0⟩).Sound := by
  constructor <;> decide

/-- Three units pay five sats, two pay three. -/
theorem sampleSearch : assetExactOutInput (quoteRate sampleMarket true ⟨2, 0⟩) 5 = some 3 := by
  have hleast : IsLeast {n : ℤ | 0 < n ∧
      5 ≤ assetExactInPayout (quoteRate sampleMarket true ⟨2, 0⟩) n} 3 := by
    refine ⟨⟨by decide, by decide⟩, fun n hn => ?_⟩
    by_contra hlow
    have hmono := sampleRate_sound.payout_mono (show n ≤ 2 by omega)
    have htwo : assetExactInPayout (quoteRate sampleMarket true ⟨2, 0⟩) 2 = 3 := by decide
    have hpays := hn.2
    omega
  cases hs : assetExactOutInput (quoteRate sampleMarket true ⟨2, 0⟩) 5 with
  | none =>
    have hnone := (assetExactOutInput_none_iff sampleRate_sound).mp hs
    have hthree := hnone.resolve_left (by decide) 3 (by decide) (by norm_num)
    exact absurd hthree (by decide)
  | some netInput => rw [(assetExactOutInput_some sampleRate_sound hs).2.unique hleast]

/-- It deposits four units, one of them the flat fee, and the gate takes the offer. -/
theorem asset_quote_sides_agree_sample :
    resolveAssetQuote sampleArgs = .ok ⟨4, 335⟩ ∧
      offerWithinTolerance 4 335 .sellBase (sampleMarket.offers 0) ⟨2, 0⟩ 0 330 = true := by
  have hq : resolveAssetQuote sampleArgs = .ok ⟨4, 335⟩ := by
    change resolveTaking sampleArgs (quoteRate sampleMarket true ⟨2, 0⟩) ⟨1, 1, 330⟩ = _
    unfold resolveTaking
    dsimp only
    rw [if_neg (by decide), if_neg (by decide), show sampleArgs.amount - 330 = 5 from rfl,
      sampleSearch]
    rfl
  obtain ⟨-, -, givesBase, -, -, direction, hd, hwithin⟩ :=
    asset_quote_sides_agree sampleRate_sound hq
  cases hd
  exact ⟨hq, hwithin 0 le_rfl (by decide)⟩

/-- Nothing wanted is paid by every input, and the search answers none; and the payout of a
negative input falls when the tolerance grows. -/
theorem nothing_wanted_finds_none :
    (¬∀ (rate : Rate), rate.Sound → ∀ payout,
      (assetExactOutInput rate payout = none ↔
        ∀ n, 0 < n → n ≤ 2 ^ 256 → assetExactInPayout rate n < payout)) ∧
    ¬∀ (rate : Rate), rate.Sound → ∀ more netInput, rate.toleranceBps ≤ more → more < BPS →
      assetExactInPayout rate netInput ≤
        assetExactInPayout { rate with toleranceBps := more } netInput := by
  constructor
  · intro hall
    have hshort := (hall _ sampleRate_sound 0).mp rfl 1 (by decide) (by norm_num)
    exact absurd hshort (by decide)
  · intro hall
    have hgrows := hall _ sampleRate_sound 5000 (-10) (by decide) (by decide)
    exact absurd hgrows (by decide)

end IntentSolver.AssetQuotes
