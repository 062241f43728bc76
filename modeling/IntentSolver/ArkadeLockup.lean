import IntentSolver.SwapStore
import Mathlib.Algebra.BigOperators.Group.List.Basic
import Mathlib.Algebra.Ring.Int.Defs
import Mathlib.Data.List.Sort
import Mathlib.Data.List.Perm.Subperm

/-!
# Outputs at an Arkade lockup and what one spend takes of them

The lockup address is public: anyone may add outputs, with or without assets,
expiring at any time. One spend takes at most sixteen outputs, none of them
close to its batch expiry, the largest ones first, in the order they were
given. The selection is recomputed against whatever clock its caller reads,
which is why its dependence on the clock is the subject of the lemmas here.
-/

namespace IntentSolver.ArkadeLockup

/-- One output ever seen at a script. -/
structure Outpoint where
  txid : String
  vout : ℕ
  deriving DecidableEq

/-- A spendable output sitting at a swap script. -/
structure FundedOutput where
  txid : String
  vout : ℕ
  /-- Sats carried. -/
  value : ℤ
  /-- Asset ids carried, empty on a sats output. -/
  assets : List String
  /-- Batch expiry in unix seconds, when the server gave one. -/
  expiresAt : Option ℤ
  deriving DecidableEq

/-- The outpoint of a funded output. -/
def FundedOutput.outpoint (output : FundedOutput) : Outpoint := ⟨output.txid, output.vout⟩

/-- One outpoint a script has ever held, spent ones included. -/
structure LockupOutpoint where
  txid : String
  vout : ℕ
  value : ℤ
  /-- Spent, on whichever rail it lives. -/
  spent : Bool
  /-- Lives on L1 since the client unrolled it. -/
  unrolled : Bool
  deriving DecidableEq

/-- The outpoint of one history entry. -/
def LockupOutpoint.outpoint (output : LockupOutpoint) : Outpoint := ⟨output.txid, output.vout⟩

/-- An output adopted at funding, each to be collected. -/
structure AdoptedOutput where
  txid : String
  vout : ℕ
  value : ℤ
  deriving DecidableEq

/-- How a refund of the lockup ended. -/
inductive RefundOutcome where
  /-- This service pushed it. -/
  | pushed
  /-- Somebody else spent the lockup. -/
  | external
  deriving DecidableEq

/-- The outpoint of an adopted output. -/
def AdoptedOutput.outpoint (output : AdoptedOutput) : Outpoint := ⟨output.txid, output.vout⟩

/-- What the unfiltered view says about a script. -/
inductive LockupSpendEvidence where
  /-- No output at all. -/
  | unknown
  /-- Some output is not spent. -/
  | unspent
  /-- Outputs were seen and all of them are spent. -/
  | spent
  deriving DecidableEq

/-- The evidence as messages spell it. -/
def LockupSpendEvidence.name : LockupSpendEvidence → String
  | unknown => "unknown"
  | unspent => "unspent"
  | spent => "spent"

/-- Sats in a list of outputs. -/
def totalValue (outputs : List FundedOutput) : ℤ := (outputs.map FundedOutput.value).sum

/-- Cap on the inputs of one lockup spend. -/
def MAX_LOCKUP_SPEND_INPUTS : ℕ := 16

/-- An input closer to its expiry than this sinks the whole spend. -/
def LOCKUP_SPEND_EXPIRY_MARGIN : ℤ := 5 * 60

/-- The output outlives the margin. -/
def spendableAt (now : ℤ) (output : FundedOutput) : Bool :=
  match output.expiresAt with
  | none => true
  | some expiresAt => decide (LOCKUP_SPEND_EXPIRY_MARGIN < expiresAt - now)

/-- Positions of the largest outputs, by a stable descending sort of values. -/
def largest (usable : List FundedOutput) : List ℕ :=
  ((usable.zipIdx.insertionSort fun a b => b.1.value ≤ a.1.value).take
    MAX_LOCKUP_SPEND_INPUTS).map Prod.snd

/-- The outputs one spend takes: value picks which, never their order. -/
def boundedSpendInputs (funded : List FundedOutput) (now : ℤ) : List FundedOutput :=
  let usable := funded.filter (spendableAt now)
  if usable.length ≤ MAX_LOCKUP_SPEND_INPUTS then usable
  else (usable.zipIdx.filter fun entry => decide (entry.2 ∈ largest usable)).map Prod.fst

/-- The outputs a sats lockup is made of. -/
def satsOutputs (outputs : List FundedOutput) : List FundedOutput :=
  outputs.filter fun output => output.assets.isEmpty

/-- What a claim is offered: the asset-free outputs when they cover the
amount, else every output. -/
def claimOutputs (outputs : List FundedOutput) (amountSats : ℤ) : List FundedOutput :=
  if amountSats ≤ totalValue (satsOutputs outputs) then satsOutputs outputs else outputs

/-- Time only takes outputs away from a spend. -/
theorem spendableAt_anti {now later : ℤ} (hle : now ≤ later) {output : FundedOutput}
    (h : spendableAt later output = true) : spendableAt now output = true := by
  unfold spendableAt at h ⊢
  cases he : output.expiresAt with
  | none => rfl
  | some expiresAt =>
    simp only [he, decide_eq_true_eq] at h ⊢
    omega

/-- At most sixteen positions are the largest. -/
theorem largest_length (usable : List FundedOutput) :
    (largest usable).length ≤ MAX_LOCKUP_SPEND_INPUTS := by
  unfold largest
  rw [List.length_map, List.length_take]
  exact min_le_left _ _

/-- A spend never takes more outputs than it may. -/
theorem boundedSpendInputs_length (funded : List FundedOutput) (now : ℤ) :
    (boundedSpendInputs funded now).length ≤ MAX_LOCKUP_SPEND_INPUTS := by
  unfold boundedSpendInputs
  dsimp only
  split
  · assumption
  · set usable := funded.filter (spendableAt now)
    set taken := usable.zipIdx.filter fun entry => decide (entry.2 ∈ largest usable)
    have hn : (taken.map Prod.snd).Nodup := by
      refine List.Nodup.sublist (List.filter_sublist.map Prod.snd) ?_
      rw [List.zipIdx_map_snd]
      exact List.nodup_range'
    have hs : taken.map Prod.snd ⊆ largest usable := by
      intro position hp
      obtain ⟨entry, he, rfl⟩ := List.mem_map.mp hp
      exact of_decide_eq_true (List.mem_filter.mp he).2
    have hl := (List.subperm_of_subset hn hs).length_le
    rw [List.length_map] at hl ⊢
    exact hl.trans (largest_length usable)

/-- A selection as long as the offer took the whole offer. -/
theorem boundedSpendInputs_full {funded : List FundedOutput} {later : ℤ}
    (h : (boundedSpendInputs funded later).length = funded.length) :
    (∀ output ∈ funded, spendableAt later output = true) ∧
      funded.length ≤ MAX_LOCKUP_SPEND_INPUTS := by
  have hc : funded.length ≤ MAX_LOCKUP_SPEND_INPUTS := h ▸ boundedSpendInputs_length funded later
  have hf := List.length_filter_le (spendableAt later) funded
  refine ⟨?_, hc⟩
  unfold boundedSpendInputs at h
  dsimp only at h
  rw [if_pos (by omega)] at h
  exact List.length_filter_eq_length_iff.mp h

/-- With at most sixteen spendable outputs the selection is all of them. -/
theorem boundedSpendInputs_of_few {funded : List FundedOutput} {now : ℤ}
    (h : (funded.filter (spendableAt now)).length ≤ MAX_LOCKUP_SPEND_INPUTS) :
    boundedSpendInputs funded now = funded.filter (spendableAt now) := by
  unfold boundedSpendInputs
  dsimp only
  rw [if_pos h]

/-- If the whole offer is selected later, the whole offer was selected before. -/
theorem boundedSpendInputs_eq_of_full {funded : List FundedOutput} {now later : ℤ}
    (hle : now ≤ later) (h : (boundedSpendInputs funded later).length = funded.length) :
    boundedSpendInputs funded now = funded := by
  obtain ⟨hs, hc⟩ := boundedSpendInputs_full h
  have hf : funded.filter (spendableAt now) = funded :=
    List.filter_eq_self.mpr fun output ho => spendableAt_anti hle (hs output ho)
  rw [boundedSpendInputs_of_few (by rw [hf]; exact hc), hf]

/-- The whole offer is taken exactly when it is short and none of it expires soon. -/
theorem boundedSpendInputs_eq_self_iff {funded : List FundedOutput} {now : ℤ} :
    boundedSpendInputs funded now = funded ↔
      (∀ output ∈ funded, spendableAt now output = true) ∧
        funded.length ≤ MAX_LOCKUP_SPEND_INPUTS := by
  constructor
  · intro h
    exact boundedSpendInputs_full (by rw [h])
  · intro h
    have hf : funded.filter (spendableAt now) = funded := List.filter_eq_self.mpr h.1
    rw [boundedSpendInputs_of_few (by rw [hf]; exact h.2), hf]

/-- Outputs beyond the largest, by the same stable sort. -/
def beyondLargest (usable : List FundedOutput) : List FundedOutput :=
  ((usable.zipIdx.insertionSort fun a b => b.1.value ≤ a.1.value).drop
    MAX_LOCKUP_SPEND_INPUTS).map Prod.fst

/-- What a spend leaves at the script: outputs that expire too soon, and those beyond the
largest. -/
def leftOut (funded : List FundedOutput) (now : ℤ) : List FundedOutput :=
  funded.filter (fun output => !spendableAt now output) ++
    beyondLargest (funded.filter (spendableAt now))

/-- The largest positions and the rest make up the whole list. -/
theorem largest_perm (usable : List FundedOutput) :
    ((usable.zipIdx.filter fun entry => decide (entry.2 ∈ largest usable)).map Prod.fst ++
      beyondLargest usable).Perm usable := by
  let sorted := usable.zipIdx.insertionSort fun a b => b.1.value ≤ a.1.value
  let kept := sorted.take MAX_LOCKUP_SPEND_INPUTS
  let rest := sorted.drop MAX_LOCKUP_SPEND_INPUTS
  have hsorted : sorted.Perm usable.zipIdx := List.perm_insertionSort _ _
  have hsplit : kept ++ rest = sorted := List.take_append_drop _ _
  have hn : ((kept ++ rest).map Prod.snd).Nodup := by
    rw [hsplit, (hsorted.map Prod.snd).nodup_iff, List.zipIdx_map_snd]
    exact List.nodup_range'
  rw [List.map_append] at hn
  -- No position is both among the largest and beyond them.
  have hrest : rest.filter (fun entry => decide (entry.2 ∈ kept.map Prod.snd)) = [] := by
    refine List.filter_eq_nil_iff.mpr fun entry he hm => ?_
    exact List.disjoint_of_nodup_append hn (of_decide_eq_true hm) (List.mem_map_of_mem he)
  have hkept : kept.filter (fun entry => decide (entry.2 ∈ kept.map Prod.snd)) = kept := by
    refine List.filter_eq_self.mpr fun entry he => ?_
    exact decide_eq_true (List.mem_map_of_mem he)
  have hfilter : (usable.zipIdx.filter fun entry => decide (entry.2 ∈ kept.map Prod.snd)).Perm
      kept := by
    refine (hsorted.symm.filter _).trans ?_
    rw [← hsplit, List.filter_append, hkept, hrest, List.append_nil]
  have hwhole : ((usable.zipIdx.filter fun entry => decide (entry.2 ∈ kept.map Prod.snd)) ++
      rest).Perm usable.zipIdx := by
    refine (hfilter.append_right rest).trans ?_
    rw [hsplit]
    exact hsorted
  have hmap := hwhole.map Prod.fst
  rw [List.map_append, List.zipIdx_map_fst] at hmap
  exact hmap

/-- A spend takes the offer apart into what it takes and what it leaves. -/
theorem boundedSpendInputs_perm (funded : List FundedOutput) (now : ℤ) :
    (boundedSpendInputs funded now ++ leftOut funded now).Perm funded := by
  have hparts : (funded.filter (spendableAt now) ++
      funded.filter fun output => !spendableAt now output).Perm funded :=
    List.filter_append_perm _ _
  have htaken : (boundedSpendInputs funded now ++
      beyondLargest (funded.filter (spendableAt now))).Perm (funded.filter (spendableAt now)) := by
    unfold boundedSpendInputs
    dsimp only
    split
    next hl =>
      have hnone : beyondLargest (funded.filter (spendableAt now)) = [] := by
        unfold beyondLargest
        rw [List.drop_eq_nil_of_le, List.map_nil]
        rw [List.length_insertionSort, List.length_zipIdx]
        exact hl
      rw [hnone, List.append_nil]
    · exact largest_perm _
  unfold leftOut
  have hswap := (List.perm_append_comm : (funded.filter (fun output => !spendableAt now output) ++
    beyondLargest (funded.filter (spendableAt now))).Perm _).append_left
      (boundedSpendInputs funded now)
  refine hswap.trans ?_
  rw [← List.append_assoc]
  exact (htaken.append_right _).trans hparts

/-- A spend takes only what it was offered. -/
theorem boundedSpendInputs_subset (funded : List FundedOutput) (now : ℤ) :
    boundedSpendInputs funded now ⊆ funded := fun _ ho =>
  (boundedSpendInputs_perm funded now).mem_iff.mp (List.mem_append_left _ ho)

/-- The solver's own earlier funding of a lockup, if any: exact value, spent
outputs included, an unspent match first. -/
def adoptFunding (outpoints : List LockupOutpoint) (payoutSats : ℤ) : Option LockupOutpoint :=
  let ours := outpoints.filter fun output => decide (output.value = payoutSats)
  (ours.find? fun output => !output.spent).or ours.head?

/-- Whatever is adopted was shown and holds exactly the payout. -/
theorem adoptFunding_exact {outpoints : List LockupOutpoint} {payoutSats : ℤ}
    {output : LockupOutpoint} (h : adoptFunding outpoints payoutSats = some output) :
    output ∈ outpoints ∧ output.value = payoutSats := by
  have hm : output ∈ outpoints.filter fun output => decide (output.value = payoutSats) := by
    unfold adoptFunding at h
    dsimp only at h
    rcases Option.or_eq_some_iff.mp h with hf | ⟨_, hh⟩
    · exact List.mem_of_find?_eq_some hf
    · exact List.mem_of_head? hh
  exact ⟨List.mem_of_mem_filter hm, of_decide_eq_true (List.mem_filter.mp hm).2⟩

end IntentSolver.ArkadeLockup
