import IntentSolver.CoinReservations
import Mathlib.Data.List.Sort

/-!
# Which coins may fund a lockup

A lockup inherits the expiry of what funds it, so coins are taken latest-expiring first, and
as few of them as fund the amount. Coins that outlive the swap are preferred and the others
are the fallback. A coin that carries an asset leaves one dust behind with its change, and
positive change must reach the minimum of the operator.
-/

namespace IntentSolver.LockupFunding

open ArkadeLockup CoinReservations

/-- An asset that rides on a coin. -/
structure AssetEntry where
  assetId : String
  amount : ℤ
  deriving DecidableEq

/-- A coin of the float. -/
structure Coin where
  txid : String
  vout : ℕ
  value : ℤ
  /-- Batch expiry in milliseconds, when the coin has one on the clock. -/
  expiresAt : Option ℤ
  assets : List AssetEntry
  forfeitTapLeafScript : String
  tapTree : String
  deriving DecidableEq

/-- Where the coin sits. -/
def Coin.outpoint (coin : Coin) : Outpoint := ⟨coin.txid, coin.vout⟩

/-- How many sats of a coin can fund something. -/
def usableSatsOf (coin : Coin) (dustSats : ℤ) : ℤ :=
  if coin.assets.isEmpty then coin.value else coin.value - dustSats

/-- Why a selection was refused. -/
inductive LockupFundingRefusal where
  | insufficient_unreserved_balance
  | minimum_change_unavailable
  deriving DecidableEq

/-- The word for a refusal. -/
def LockupFundingRefusal.reason : LockupFundingRefusal → String
  | insufficient_unreserved_balance => "insufficient_unreserved_balance"
  | minimum_change_unavailable => "minimum_change_unavailable"

/-- What a selection answers. -/
inductive LockupFundingSelection where
  | ok (inputs : List Coin) (clearedHorizon : Bool)
  | refused (reason : LockupFundingRefusal)
  deriving DecidableEq

/-- What a selection is asked. -/
structure LockupFundingRequest where
  candidates : List Coin
  amountSats : ℤ
  /-- How long the lockup must remain spendable. -/
  horizonSeconds : ℤ
  nowSeconds : ℤ
  /-- Outpoints another operation has pinned. -/
  reserved : String → Bool
  dustSats : ℤ
  /-- Smallest positive change the operator accepts. -/
  vtxoMinSats : ℤ

namespace LockupFundingRequest

variable (request : LockupFundingRequest)

/-- The coins nobody has pinned. -/
def free : List Coin :=
  request.candidates.filter fun coin => !request.reserved (outpointKey coin.outpoint)

/-- Those that can fund anything at all. -/
def unreserved : List Coin :=
  request.free.filter fun coin => decide (0 < usableSatsOf coin request.dustSats)

/-- The coin's batch ends after the horizon. -/
def outlivesHorizon (coin : Coin) : Bool :=
  match coin.expiresAt with
  | none => false
  | some expiresAt => decide ((request.nowSeconds + request.horizonSeconds) * 1000 < expiresAt)

/-- Later expiry first, an unknown one last; then the larger coin. -/
def before (first second : Coin) : Prop :=
  let byExpiry := second.expiresAt.getD 0 - first.expiresAt.getD 0
  (if byExpiry ≠ 0 then byExpiry
    else usableSatsOf second request.dustSats - usableSatsOf first request.dustSats) ≤ 0

instance : DecidableRel request.before := fun _ _ => by unfold before; infer_instance

/-- The order coins are taken in. -/
def ordered : List Coin := request.unreserved.insertionSort request.before

/-- Coins from the front until they fund the amount, with the totals so far. -/
def takeFrom : List Coin → List Coin → ℤ → ℤ → Bool → Option (List Coin)
  | [], _, _, _, _ => none
  | coin :: rest, inputs, usableTotal, rawTotal, hasAssets =>
    let inputs := inputs ++ [coin]
    let usableTotal := usableTotal + usableSatsOf coin request.dustSats
    let rawTotal := rawTotal + coin.value
    let hasAssets := hasAssets || !coin.assets.isEmpty
    let change := rawTotal - request.amountSats
    if request.amountSats ≤ usableTotal ∧ (change = 0 ∨
        max request.vtxoMinSats (if hasAssets then request.dustSats else 0) ≤ change) then
      some inputs
    else takeFrom rest inputs usableTotal rawTotal hasAssets

/-- The first coins that fund the amount. -/
def take (coins : List Coin) : Option (List Coin) := request.takeFrom coins [] 0 0 false

/-- These coins pay the amount, and their change is nothing or enough. -/
def Funds (coins : List Coin) : Prop :=
  request.amountSats ≤ (coins.map (usableSatsOf · request.dustSats)).sum ∧
    let change := (coins.map Coin.value).sum - request.amountSats
    change = 0 ∨ max request.vtxoMinSats
      (if coins.any (fun coin => !coin.assets.isEmpty) then request.dustSats else 0) ≤ change

instance (coins : List Coin) : Decidable (request.Funds coins) := by unfold Funds; infer_instance

end LockupFundingRequest

/-- Pick coins to fund a lockup, preferring those that outlive the swap. -/
def selectLockupFunding (request : LockupFundingRequest) : LockupFundingSelection :=
  match request.take (request.ordered.filter request.outlivesHorizon) with
  | some inputs => .ok inputs true
  | none =>
    match request.take request.ordered with
    | some inputs => .ok inputs false
    | none =>
      if (request.ordered.map (usableSatsOf · request.dustSats)).sum < request.amountSats then
        .refused .insufficient_unreserved_balance
      else .refused .minimum_change_unavailable

/-! ## The loop -/

variable {request : LockupFundingRequest}

/-- The loop goes over to the next coin with the totals of what it took. -/
theorem takeFrom_cons (coin : Coin) (rest inputs : List Coin) :
    request.takeFrom (coin :: rest) inputs
        (inputs.map (usableSatsOf · request.dustSats)).sum (inputs.map Coin.value).sum
        (inputs.any fun taken => !taken.assets.isEmpty) =
      if request.Funds (inputs ++ [coin]) then some (inputs ++ [coin])
      else request.takeFrom rest (inputs ++ [coin])
        ((inputs ++ [coin]).map (usableSatsOf · request.dustSats)).sum
        ((inputs ++ [coin]).map Coin.value).sum
        ((inputs ++ [coin]).any fun taken => !taken.assets.isEmpty) := by
  have hany : ((inputs ++ [coin]).any fun taken => !taken.assets.isEmpty) =
      ((inputs.any fun taken => !taken.assets.isEmpty) || !coin.assets.isEmpty) := by
    simp
  have hsum : ∀ amount : Coin → ℤ, ((inputs ++ [coin]).map amount).sum =
      (inputs.map amount).sum + amount coin := by
    intro amount
    simp
  rw [LockupFundingRequest.takeFrom, ← hany, ← hsum, ← hsum]
  by_cases hf : request.Funds (inputs ++ [coin])
  · rw [if_pos hf]
    exact if_pos hf
  · rw [if_neg hf]
    exact if_neg hf

/-- What the loop takes is a front of the coins that funds the amount. -/
theorem takeFrom_some {coins inputs result : List Coin}
    (h : request.takeFrom coins inputs (inputs.map (usableSatsOf · request.dustSats)).sum
      (inputs.map Coin.value).sum (inputs.any fun taken => !taken.assets.isEmpty) = some result) :
    request.Funds result ∧ ∃ front, front <+: coins ∧ result = inputs ++ front := by
  induction coins generalizing inputs with
  | nil => cases h
  | cons coin rest ih =>
    rw [takeFrom_cons] at h
    by_cases hf : request.Funds (inputs ++ [coin])
    · rw [if_pos hf] at h
      cases h
      exact ⟨hf, [coin], ⟨rest, rfl⟩, rfl⟩
    · rw [if_neg hf] at h
      obtain ⟨hfunds, front, hfront, hr⟩ := ih h
      refine ⟨hfunds, coin :: front, List.cons_prefix_cons.mpr ⟨rfl, hfront⟩, ?_⟩
      rw [hr, List.append_assoc, List.singleton_append]

/-- The loop gives up exactly when no front funds the amount. -/
theorem takeFrom_none {coins inputs : List Coin} :
    request.takeFrom coins inputs (inputs.map (usableSatsOf · request.dustSats)).sum
        (inputs.map Coin.value).sum (inputs.any fun taken => !taken.assets.isEmpty) = none ↔
      ∀ front, front <+: coins → front ≠ [] → ¬ request.Funds (inputs ++ front) := by
  induction coins generalizing inputs with
  | nil =>
    constructor
    · intro _ front hfront hne
      exact absurd (List.prefix_nil.mp hfront) hne
    · intro _
      rfl
  | cons coin rest ih =>
    rw [takeFrom_cons]
    by_cases hf : request.Funds (inputs ++ [coin])
    · rw [if_pos hf]
      constructor
      · intro h
        cases h
      · intro h
        exact absurd hf (h [coin] ⟨rest, rfl⟩ (List.cons_ne_nil _ _))
    · rw [if_neg hf, ih]
      constructor
      · intro h front hfront hne
        cases front with
        | nil => exact absurd rfl hne
        | cons head front =>
          obtain ⟨rfl, hmore⟩ := List.cons_prefix_cons.mp hfront
          cases front with
          | nil => exact hf
          | cons next more =>
            have hrest := h (next :: more) hmore (List.cons_ne_nil _ _)
            rwa [List.append_assoc, List.singleton_append] at hrest
      · intro h front hfront hne
        have hrest := h (coin :: front) (List.cons_prefix_cons.mpr ⟨rfl, hfront⟩)
          (List.cons_ne_nil _ _)
        rwa [List.append_assoc, List.singleton_append]

/-- What is taken funds the amount and is a front of the coins. -/
theorem take_some {coins inputs : List Coin} (h : request.take coins = some inputs) :
    request.Funds inputs ∧ inputs <+: coins := by
  obtain ⟨hf, front, hfront, hr⟩ := takeFrom_some h
  rw [List.nil_append] at hr
  exact ⟨hf, hr ▸ hfront⟩

/-- Nothing is taken exactly when no front funds the amount. -/
theorem take_none {coins : List Coin} :
    request.take coins = none ↔ ∀ front, front <+: coins → front ≠ [] → ¬ request.Funds front :=
  takeFrom_none

/-- The order is one of the coins that can fund something. -/
theorem ordered_perm (request : LockupFundingRequest) :
    request.ordered.Perm request.unreserved := List.perm_insertionSort _ _

/-- An ordered coin is a free one. -/
theorem mem_ordered {coin : Coin} (h : coin ∈ request.ordered) : coin ∈ request.free :=
  List.mem_of_mem_filter ((ordered_perm request).mem_iff.mp h)

/-- A selection is made of free coins and funds the amount. -/
theorem selectLockupFunding_ok {inputs : List Coin} {clearedHorizon : Bool}
    (h : selectLockupFunding request = .ok inputs clearedHorizon) :
    request.Funds inputs ∧ inputs ⊆ request.free := by
  unfold selectLockupFunding at h
  split at h
  next taken ht =>
    cases h
    obtain ⟨hf, hfront⟩ := take_some ht
    exact ⟨hf, fun coin hc => mem_ordered (List.mem_of_mem_filter (hfront.subset hc))⟩
  next =>
    split at h
    next taken ht =>
      cases h
      obtain ⟨hf, hfront⟩ := take_some ht
      exact ⟨hf, fun coin hc => mem_ordered (hfront.subset hc)⟩
    next =>
      split at h
      · cases h
      · cases h

/-! ## Refusals -/

/-- Leaving out what funds nothing never lowers what some coins can fund. -/
theorem sum_le_sum_filter (amount : Coin → ℤ) (coins : List Coin) :
    (coins.map amount).sum ≤
      ((coins.filter fun coin => decide (0 < amount coin)).map amount).sum := by
  induction coins with
  | nil => exact le_refl _
  | cons coin rest ih =>
    rw [List.filter_cons]
    split
    · rw [List.map_cons, List.map_cons, List.sum_cons, List.sum_cons]
      omega
    next hneg =>
      have hle : amount coin ≤ 0 := by simpa using hneg
      rw [List.map_cons, List.sum_cons]
      omega

/-- Fewer coins, none of them negative, add up to no more. -/
theorem sum_sublist_le (amount : Coin → ℤ) {some all : List Coin} (hs : some.Sublist all)
    (hp : ∀ coin ∈ all, 0 ≤ amount coin) : (some.map amount).sum ≤ (all.map amount).sum := by
  induction hs with
  | slnil => exact le_refl _
  | cons coin hs ih =>
    have hrest := ih fun other hm => hp other (List.mem_cons_of_mem _ hm)
    have hone := hp coin List.mem_cons_self
    rw [List.map_cons, List.sum_cons]
    omega
  | cons_cons coin hs ih =>
    have hrest := ih fun other hm => hp other (List.mem_cons_of_mem _ hm)
    rw [List.map_cons, List.map_cons, List.sum_cons, List.sum_cons]
    omega

/-- A coin that is offered is worth more than its asset dust. -/
theorem usable_of_unreserved {coin : Coin} (h : coin ∈ request.unreserved) :
    0 < usableSatsOf coin request.dustSats := of_decide_eq_true (List.mem_filter.mp h).2

/-- No choice of free coins has more usable sats than all that can fund something. -/
theorem usable_le_ordered {coins : List Coin} (h : coins.Sublist request.free) :
    (coins.map (usableSatsOf · request.dustSats)).sum ≤
      (request.ordered.map (usableSatsOf · request.dustSats)).sum := by
  have hfilter := sum_le_sum_filter (usableSatsOf · request.dustSats) coins
  have hsub : (coins.filter fun coin => decide (0 < usableSatsOf coin request.dustSats)).Sublist
      request.unreserved := h.filter _
  have hle := sum_sublist_le (usableSatsOf · request.dustSats) hsub fun coin hc =>
    (usable_of_unreserved hc).le
  have hperm := ((ordered_perm request).map (usableSatsOf · request.dustSats)).sum_eq
  omega

/-- A refusal has tried all coins that can fund something, together. -/
theorem refused_all {reason : LockupFundingRefusal}
    (h : selectLockupFunding request = .refused reason) (hne : request.unreserved ≠ []) :
    ¬ request.Funds request.ordered := by
  have hnone : request.take request.ordered = none := by
    unfold selectLockupFunding at h
    split at h
    · cases h
    next =>
      split at h
      · cases h
      next hn => exact hn
  have hordered : request.ordered ≠ [] := fun he =>
    hne (List.nil_perm.mp (he ▸ ordered_perm request))
  exact take_none.mp hnone _ (List.prefix_refl _) hordered

/-- Where neither the dust nor a coin is negative, no coin that can fund something is. -/
theorem value_nonneg (h : 0 ≤ request.dustSats ∨ ∀ coin ∈ request.candidates, 0 ≤ coin.value)
    {coin : Coin} (hc : coin ∈ request.unreserved) : 0 ≤ coin.value := by
  obtain hd | hv := h
  · have hu := usable_of_unreserved hc
    unfold usableSatsOf at hu
    split at hu
    · omega
    · omega
  · exact hv coin (List.mem_of_mem_filter (List.mem_of_mem_filter hc))

/-- Coins without assets, with a coin that has some put to them, are no more than all. -/
theorem value_beside_assets {coins : List Coin} (hs : coins.Sublist request.unreserved)
    (hv : ∀ coin ∈ request.unreserved, 0 ≤ coin.value)
    (hnone : ∀ coin ∈ coins, coin.assets.isEmpty = true) {other : Coin}
    (ho : other ∈ request.unreserved) (ha : other.assets.isEmpty = false) :
    (coins.map Coin.value).sum + other.value ≤ (request.unreserved.map Coin.value).sum := by
  have hplain : coins.Sublist (request.unreserved.filter fun coin => coin.assets.isEmpty) := by
    have hf := hs.filter fun coin => coin.assets.isEmpty
    rwa [List.filter_eq_self.mpr hnone] at hf
  have hrest : [other].Sublist (request.unreserved.filter fun coin => !coin.assets.isEmpty) :=
    List.singleton_sublist.mpr (List.mem_filter.mpr ⟨ho, by rw [ha]; rfl⟩)
  have hperm := List.filter_append_perm (fun coin : Coin => coin.assets.isEmpty)
    request.unreserved
  have hle := sum_sublist_le Coin.value (hplain.append hrest) fun coin hc =>
    hv coin (hperm.mem_iff.mp hc)
  rw [List.map_append, List.sum_append, List.map_singleton, List.sum_singleton,
    (hperm.map Coin.value).sum_eq] at hle
  exact hle

/-- Change that is enough for some of the coins that can fund something is enough for all of
them together. -/
theorem funds_all {coins : List Coin}
    (h : 0 ≤ request.dustSats ∨ ∀ coin ∈ request.candidates, 0 ≤ coin.value)
    (hs : coins.Sublist request.unreserved) (hf : request.Funds coins)
    (hn : (coins.map Coin.value).sum ≠ request.amountSats) : request.Funds request.ordered := by
  have hv : ∀ coin ∈ request.unreserved, 0 ≤ coin.value := fun coin => value_nonneg h
  have hperm := ordered_perm request
  have husable := sum_sublist_le (usableSatsOf · request.dustSats) hs fun coin hc =>
    (usable_of_unreserved hc).le
  have hraw := sum_sublist_le Coin.value hs hv
  obtain ⟨hreach, hzero | hchange⟩ := hf
  · exact absurd (by omega) hn
  unfold LockupFundingRequest.Funds
  dsimp only
  rw [(hperm.map _).sum_eq, (hperm.map _).sum_eq, hperm.any_eq]
  refine ⟨by omega, .inr ?_⟩
  rw [max_le_iff] at hchange ⊢
  refine ⟨by omega, ?_⟩
  cases hall : request.unreserved.any fun coin => !coin.assets.isEmpty with
  | false =>
    have hsome : (coins.any fun coin => !coin.assets.isEmpty) = false := by
      rw [List.any_eq_false] at hall ⊢
      exact fun coin hc => hall coin (hs.subset hc)
    rw [hsome] at hchange
    simp only [Bool.false_eq_true, if_false] at hchange ⊢
    omega
  | true =>
    rw [if_pos rfl]
    cases hsome : coins.any fun coin => !coin.assets.isEmpty with
    | true =>
      rw [hsome, if_pos rfl] at hchange
      omega
    | false =>
      -- The assets ride on a coin that is not among these, and its sats cover the dust.
      obtain ⟨other, ho, ha⟩ := List.any_eq_true.mp hall
      have hasset : other.assets.isEmpty = false := by simpa using ha
      have hnone : ∀ coin ∈ coins, coin.assets.isEmpty = true := fun coin hc => by
        simpa using List.any_eq_false.mp hsome coin hc
      have hsum := value_beside_assets hs hv hnone ho hasset
      have hu := usable_of_unreserved ho
      unfold usableSatsOf at hu
      rw [hasset] at hu
      rw [hsome] at hchange
      simp only [Bool.false_eq_true, if_false] at hu hchange
      omega

/-- Where a selection is refused, some of the free coins that can fund something fund the
amount only if they pay it exactly: none leave change that is enough. Where it is refused for
want of balance, no choice of free coins reaches the amount. -/
theorem refused_only_beside_exact_coins (request : LockupFundingRequest)
    (h : 0 ≤ request.dustSats ∨ ∀ coin ∈ request.candidates, 0 ≤ coin.value) :
    (∀ reason, selectLockupFunding request = .refused reason →
      ∀ coins : List Coin, coins.Sublist request.unreserved → coins ≠ [] →
        request.Funds coins → (coins.map Coin.value).sum = request.amountSats) ∧
    (selectLockupFunding request = .refused .insufficient_unreserved_balance →
      ∀ coins : List Coin, coins.Sublist request.free →
        (coins.map (usableSatsOf · request.dustSats)).sum < request.amountSats) := by
  constructor
  · intro reason hrefused coins hs hne hf
    by_contra hn
    have hall : request.unreserved ≠ [] := fun he => hne (List.sublist_nil.mp (he ▸ hs))
    exact refused_all hrefused hall (funds_all h hs hf hn)
  · intro hrefused coins hc
    unfold selectLockupFunding at hrefused
    split at hrefused
    · cases hrefused
    next =>
      split at hrefused
      · cases hrefused
      next =>
        split at hrefused
        next hlow =>
          have hle := usable_le_ordered hc
          omega
        · cases hrefused

/-- A small coin that expires late and a coin of just the amount. -/
def sampleFloat : LockupFundingRequest where
  candidates := [⟨"late", 0, 200, some 9000000, [], "", ""⟩,
    ⟨"exact", 0, 1000, some 8000000, [], "", ""⟩]
  amountSats := 1000
  horizonSeconds := 60
  nowSeconds := 1000
  reserved _ := false
  dustSats := 330
  vtxoMinSats := 330

/-- A coin that leaves too little change, and dust under an asset, which funds nothing. -/
def sampleDust : LockupFundingRequest where
  candidates := [⟨"coin", 0, 1000, some 9000000, [], "", ""⟩,
    ⟨"dust", 0, 330, some 8000000, [⟨"asset", 5⟩], "", ""⟩]
  amountSats := 900
  horizonSeconds := 60
  nowSeconds := 1000
  reserved _ := false
  dustSats := 330
  vtxoMinSats := 330

/-- A refusal although one coin alone pays the amount; and one although the dust under an
asset, which is dropped for funding nothing, would have raised the change enough. -/
theorem refused_beside_an_exact_coin :
    (¬ ∀ request : LockupFundingRequest, (∃ reason, selectLockupFunding request = .refused reason) →
      ∀ coins : List Coin, coins.Sublist request.free → ¬ request.Funds coins) ∧
    ¬ ∀ request : LockupFundingRequest, (∃ reason, selectLockupFunding request = .refused reason) →
      ∀ coins : List Coin, coins.Sublist request.free → request.Funds coins →
        (coins.map Coin.value).sum = request.amountSats := by
  constructor
  · intro h
    have hrefused : selectLockupFunding sampleFloat = .refused .minimum_change_unavailable := by
      decide +kernel
    have hsub : [⟨"exact", 0, 1000, some 8000000, [], "", ""⟩].Sublist sampleFloat.free := by
      decide +kernel
    exact h sampleFloat ⟨_, hrefused⟩ _ hsub (by decide +kernel)
  · intro h
    have hrefused : selectLockupFunding sampleDust = .refused .minimum_change_unavailable := by
      decide +kernel
    have hexact := h sampleDust ⟨_, hrefused⟩ sampleDust.free (List.Sublist.refl _)
      (by decide +kernel)
    revert hexact
    decide +kernel

/-- Beside the refusal of the sample float, only an exact choice of its coins funds it. -/
theorem refused_only_beside_exact_coins_sample :
    selectLockupFunding sampleFloat = .refused .minimum_change_unavailable ∧
      ∀ coins : List Coin, coins.Sublist sampleFloat.unreserved → coins ≠ [] →
        sampleFloat.Funds coins → (coins.map Coin.value).sum = 1000 := by
  have hrefused : selectLockupFunding sampleFloat = .refused .minimum_change_unavailable := by
    decide +kernel
  exact ⟨hrefused, (refused_only_beside_exact_coins sampleFloat (.inl (by decide))).1 _ hrefused⟩

end IntentSolver.LockupFunding
