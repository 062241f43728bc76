import IntentSolver.VtxoPoolPlans
import Mathlib.Algebra.Order.BigOperators.Group.List
import Mathlib.Algebra.Order.Ring.Nat
import Mathlib.Data.List.Count
import Mathlib.Data.List.Perm.Subperm
import Mathlib.Data.Prod.Lex
import Mathlib.Order.WellFounded

/-!
# Reshaping comes to an end

How many keepers a rung has depends on the coins alone and not on their order: it is the
number of coins that serve the rung, up to what the rung wants. A plan spends no keeper, so no
rung loses one. A split adds a keeper somewhere and a merge leaves fewer coins, so whatever
the coins expire on, reshaping again and again must stop.
-/

namespace IntentSolver.VtxoPool

open PoolArgs

variable {args : PoolArgs}

/-! ## Keepers -/

/-- The coin is worth about one piece of the rung. -/
def PoolArgs.serves (args : PoolArgs) (rung : ℕ) (coin : PoolCoin) : Bool :=
  decide (rungOf coin.usable args.target = some rung) && decide (coin.usable < 2 * args.largest)

/-- One coin counts for the rung it serves, unless the rung has what it wants. -/
theorem keep_counts (keepers : Keepers) (entry : Entry) (rung : ℕ) :
    (args.keep keepers entry).counts rung = keepers.counts rung +
      if args.serves rung entry.1 = true ∧ (keepers.counts rung : ℤ) < args.wantAt rung
        then 1 else 0 := by
  unfold keep serves
  cases hr : rungOf entry.1.usable args.target with
  | none => simp
  | some place =>
    dsimp only
    by_cases hp : rung = place
    · subst hp
      split
      next hskip =>
        rw [if_neg]
        · rfl
        · rw [Bool.and_eq_true, decide_eq_true_eq, decide_eq_true_eq]
          omega
      next hkeep =>
        dsimp only
        rw [Function.update_self, if_pos]
        rw [Bool.and_eq_true, decide_eq_true_eq, decide_eq_true_eq]
        exact ⟨⟨rfl, by omega⟩, by omega⟩
    · have hother : ¬ some place = some rung := fun h => hp (Option.some.inj h).symm
      split
      · rw [if_neg]
        · rfl
        · rw [Bool.and_eq_true, decide_eq_true_eq]
          exact fun h => hother h.1.1
      · dsimp only
        rw [Function.update_of_ne hp, if_neg]
        · rfl
        · rw [Bool.and_eq_true, decide_eq_true_eq]
          exact fun h => hother h.1.1

/-- A rung keeps the coins that serve it, up to what it wants. -/
theorem foldl_keep_counts (entries : List Entry) (keepers : Keepers) (rung : ℕ) :
    (entries.foldl args.keep keepers).counts rung = max (keepers.counts rung)
      (min (args.wantAt rung).toNat
        (keepers.counts rung + entries.countP fun entry => args.serves rung entry.1)) := by
  induction entries generalizing keepers with
  | nil =>
    rw [List.foldl_nil, List.countP_nil]
    omega
  | cons entry rest ih =>
    have hone := @keep_counts args keepers entry rung
    rw [List.foldl_cons, ih, List.countP_cons]
    by_cases hs : args.serves rung entry.1 = true
    · rw [if_pos hs]
      by_cases hw : (keepers.counts rung : ℤ) < args.wantAt rung
      · rw [if_pos ⟨hs, hw⟩] at hone
        omega
      · rw [if_neg fun h => hw h.2] at hone
        omega
    · rw [if_neg hs]
      rw [if_neg fun h => hs h.1] at hone
      omega

/-- The places kept are those of coins that serve, as many for each rung as were counted. -/
theorem foldl_keep_places (entries : List Entry) (keepers : Keepers) :
    ∃ kept : List Entry, kept.Sublist entries ∧
      (entries.foldl args.keep keepers).places = keepers.places ++ kept.map Prod.snd ∧
      ∀ rung, (entries.foldl args.keep keepers).counts rung =
        keepers.counts rung + kept.countP fun entry => args.serves rung entry.1 := by
  induction entries generalizing keepers with
  | nil =>
    refine ⟨[], List.Sublist.slnil, ?_, fun rung => ?_⟩
    · rw [List.foldl_nil, List.map_nil, List.append_nil]
    · rfl
  | cons entry rest ih =>
    obtain ⟨kept, hs, hplaces, hcounts⟩ := ih (args.keep keepers entry)
    have hcount := @keep_counts args keepers entry
    rw [List.foldl_cons]
    by_cases hk : args.keep keepers entry = keepers
    · rw [hk] at hplaces hcounts ⊢
      exact ⟨kept, hs.cons entry, hplaces, hcounts⟩
    · -- The coin is kept: it serves exactly the rung it is counted for.
      have hkept : (args.keep keepers entry).places = keepers.places ++ [entry.2] ∧
          ∀ rung, (args.keep keepers entry).counts rung =
            keepers.counts rung + if args.serves rung entry.1 then 1 else 0 := by
        unfold keep at hk ⊢
        cases hr : rungOf entry.1.usable args.target with
        | none =>
          rw [hr] at hk
          exact absurd rfl hk
        | some place =>
          rw [hr] at hk
          dsimp only at hk ⊢
          split at hk
          · exact absurd rfl hk
          next hgo =>
            rw [if_neg hgo]
            refine ⟨rfl, fun rung => ?_⟩
            dsimp only
            by_cases hp : rung = place
            · rw [hp, Function.update_self, if_pos]
              unfold serves
              rw [Bool.and_eq_true, decide_eq_true_eq, decide_eq_true_eq]
              exact ⟨hr, by omega⟩
            · rw [Function.update_of_ne hp, if_neg]
              · rfl
              · unfold serves
                rw [Bool.and_eq_true, decide_eq_true_eq, hr]
                exact fun h => hp (Option.some.inj h.1).symm
      refine ⟨entry :: kept, hs.cons_cons entry, ?_, fun rung => ?_⟩
      · rw [hplaces, hkept.1, List.map_cons, List.append_assoc, List.singleton_append]
      · have hrung := hkept.2 rung
        rw [hcounts rung, List.countP_cons]
        omega

/-- The entries in their sorted order are those of the coins. -/
theorem sorted_perm (args : PoolArgs) : (args.coins.zipIdx.insertionSort fun first second =>
    byExpiry true first.1 second.1 ≤ 0).Perm args.coins.zipIdx := List.perm_insertionSort _ _

/-- How many coins of a list serve a rung, told apart by place or not. -/
theorem countP_zipIdx (rung : ℕ) (coins : List PoolCoin) :
    (coins.zipIdx.countP fun entry => args.serves rung entry.1) =
      coins.countP (args.serves rung) := by
  have hmap := List.countP_map (p := args.serves rung) (f := Prod.fst) (l := coins.zipIdx)
  rw [List.zipIdx_map_fst] at hmap
  rw [hmap]
  rfl

/-- A rung has the coins that serve it for keepers, up to what it wants. -/
theorem keepers_counts (args : PoolArgs) (rung : ℕ) :
    args.keepers.counts rung =
      min (args.wantAt rung).toNat (args.coins.countP (args.serves rung)) := by
  unfold keepers
  rw [foldl_keep_counts, (sorted_perm args).countP_eq, countP_zipIdx]
  dsimp only
  omega

/-- The coins a plan does not spend. -/
def PoolArgs.rest (args : PoolArgs) (chosen : List Entry) : List PoolCoin :=
  (args.coins.zipIdx.filter fun entry => decide (entry.2 ∉ chosen.map Prod.snd)).map Prod.fst

/-- Every keeper is among the coins a plan does not spend. -/
theorem counts_le_rest {chosen : List Entry} (h : Loose args chosen) (rung : ℕ) :
    args.keepers.counts rung ≤ (args.rest chosen).countP (args.serves rung) := by
  obtain ⟨kept, hs, hplaces, hcounts⟩ := @foldl_keep_places args
    (args.coins.zipIdx.insertionSort fun first second => byExpiry true first.1 second.1 ≤ 0)
    ⟨fun _ => 0, []⟩
  have hzip : (args.coins.zipIdx.map Prod.snd).Nodup := by
    rw [List.zipIdx_map_snd]
    exact List.nodup_range'
  have hnodup : kept.Nodup :=
    (((sorted_perm args).nodup_iff.mpr (List.Nodup.of_map _ hzip)).sublist hs)
  have hsubset : kept ⊆ args.coins.zipIdx.filter fun entry =>
      decide (entry.2 ∉ chosen.map Prod.snd) := by
    intro entry hm
    refine List.mem_filter.mpr ⟨(sorted_perm args).mem_iff.mp (hs.subset hm), ?_⟩
    rw [decide_eq_true_eq]
    intro hspent
    obtain ⟨other, ho, hplace⟩ := List.mem_map.mp hspent
    apply h.unkept other ho
    rw [hplace]
    unfold keepers
    rw [hplaces]
    exact List.mem_append_right _ (List.mem_map_of_mem hm)
  have hle := (List.subperm_of_subset hnodup hsubset).countP_le
    fun entry => args.serves rung entry.1
  unfold keepers rest
  rw [hcounts, List.countP_map]
  dsimp only
  rw [Nat.zero_add]
  exact hle

/-! ## A plan carried out -/

/-- A coin a plan pays out: plain, and not due. -/
def Plain (coin : PoolCoin) : Prop :=
  coin.usable = coin.value ∧ coin.hasAssets = false ∧ coin.renewalDue = false

/-- The float after a plan is carried out, in any order: what was not spent, the outputs as
plain coins with any expiry, and the carrier when assets ride along. -/
def Replaces (args : PoolArgs) (float : List PoolCoin) : Prop :=
  ∃ fresh carriers : List PoolCoin,
    float.Perm (args.rest args.reshape.inputs ++ fresh ++ carriers) ∧
    fresh.map PoolCoin.value = args.reshape.outputs ∧ (∀ coin ∈ fresh, Plain coin) ∧
    carriers.map PoolCoin.value =
      (if 0 < args.reshape.carrier then [args.reshape.carrier] else []) ∧
    ∀ coin ∈ carriers, coin.hasAssets = true ∧ coin.renewalDue = false

/-- The same pool with another float. -/
def PoolArgs.withFloat (args : PoolArgs) (float : List PoolCoin) : PoolArgs :=
  { args with coins := float }

/-- The rungs are of ascending size. -/
def Ascending (target : List PoolRung) : Prop :=
  target.Pairwise fun first second => first.size < second.size

/-- A piece of the size of a rung counts toward the rung. -/
theorem rungOf_size {target : List PoolRung} (h : Ascending target) {place : ℕ} {rung : PoolRung}
    (hg : target[place]? = some rung) : rungOf rung.size target = some place := by
  have hz : target.zipIdx[place]? = some (rung, place) := by simp [hg]
  obtain ⟨hl, he⟩ := List.getElem?_eq_some_iff.mp hz
  have hsplit : target.zipIdx =
      target.zipIdx.take place ++ (rung, place) :: target.zipIdx.drop (place + 1) := by
    rw [← he, List.cons_getElem_drop_succ, List.take_append_drop]
  have hfind : target.zipIdx.reverse.find? (fun entry => decide (entry.1.size ≤ rung.size)) =
      some (rung, place) := by
    rw [List.find?_eq_some_iff_append]
    refine ⟨by simp, (target.zipIdx.drop (place + 1)).reverse,
      (target.zipIdx.take place).reverse, ?_, ?_⟩
    · conv_lhs => rw [hsplit]
      simp
    · -- Whatever comes after the rung is larger than it.
      intro entry hm
      obtain ⟨index, hi, rfl⟩ := List.mem_iff_getElem.mp (List.mem_reverse.mp hm)
      rw [List.length_drop, List.length_zipIdx] at hi
      obtain ⟨hlt, hget⟩ := List.getElem?_eq_some_iff.mp hg
      have hsize := List.pairwise_iff_getElem.mp h place (place + 1 + index) hlt (by omega)
        (by omega)
      rw [hget] at hsize
      rw [List.getElem_drop, List.getElem_zipIdx, Bool.not_eq_true', decide_eq_false_iff_not]
      dsimp only
      omega
  unfold rungOf
  rw [hfind]
  rfl

/-- No rung is larger than the largest. -/
theorem size_le_largest {rung : PoolRung} (h : rung ∈ args.target) :
    rung.size ≤ args.largest := by
  have hfold : ∀ (sizes : List ℤ) (first : ℤ), first ≤ sizes.foldl max first ∧
      ∀ size ∈ sizes, size ≤ sizes.foldl max first := by
    intro sizes
    induction sizes with
    | nil => exact fun first => ⟨le_refl _, fun _ hm => nomatch hm⟩
    | cons head rest ih =>
      intro first
      obtain ⟨hfirst, hrest⟩ := ih (max first head)
      rw [List.foldl_cons]
      refine ⟨by omega, fun size hm => ?_⟩
      obtain rfl | hm := List.mem_cons.mp hm
      · omega
      · exact hrest size hm
  have hm : rung.size ∈ args.target.map PoolRung.size := List.mem_map_of_mem h
  unfold largest
  cases hs : args.target.map PoolRung.size with
  | nil =>
    rw [hs] at hm
    cases hm
  | cons head rest =>
    rw [hs] at hm
    obtain ⟨hfirst, hrest⟩ := hfold rest head
    obtain he | hm := List.mem_cons.mp hm
    · rw [he]
      exact hfirst
    · exact hrest _ hm

section Steps

variable {float : List PoolCoin}

/-- No rung loses a keeper. -/
theorem counts_mono (hr : Replaces args float) (hl : Loose args args.reshape.inputs) (rung : ℕ) :
    args.keepers.counts rung ≤ (args.withFloat float).keepers.counts rung := by
  obtain ⟨fresh, carriers, hp, -, -, -, -⟩ := hr
  have hrest := counts_le_rest hl rung
  have hbefore := keepers_counts args rung
  have hafter : (args.withFloat float).keepers.counts rung =
      min (args.wantAt rung).toNat (float.countP (args.serves rung)) :=
    keepers_counts (args.withFloat float) rung
  rw [hp.countP_eq, List.countP_append, List.countP_append] at hafter
  omega

/-- A rung gains a keeper where a piece of its size is paid out and it wants one. -/
theorem counts_lt (hsizes : Sizes args.target) (ha : Ascending args.target)
    (hr : Replaces args float) (hl : Loose args args.reshape.inputs) {place : ℕ}
    {rung : PoolRung} (hg : args.target[place]? = some rung)
    (hw : (args.keepers.counts place : ℤ) < rung.want) (hm : rung.size ∈ args.reshape.outputs) :
    args.keepers.counts place < (args.withFloat float).keepers.counts place := by
  obtain ⟨fresh, carriers, hp, hfresh, hplain, -, -⟩ := hr
  have hrest := counts_le_rest hl place
  have hafter : (args.withFloat float).keepers.counts place =
      min (args.wantAt place).toNat (float.countP (args.serves place)) :=
    keepers_counts (args.withFloat float) place
  rw [hp.countP_eq, List.countP_append, List.countP_append] at hafter
  -- The new coin serves the rung.
  rw [← hfresh] at hm
  obtain ⟨coin, hc, hvalue⟩ := List.mem_map.mp hm
  have hlarge := size_le_largest (List.mem_of_getElem? hg)
  have hpositive := hsizes rung (List.mem_of_getElem? hg)
  have husable : coin.usable = rung.size := (hplain coin hc).1.trans hvalue
  have hserves : args.serves place coin = true := by
    unfold serves
    rw [husable, rungOf_size ha hg, Bool.and_eq_true, decide_eq_true_eq, decide_eq_true_eq]
    exact ⟨rfl, by omega⟩
  have hone := List.countP_pos_iff.mpr ⟨coin, hc, hserves⟩
  have hwant : args.wantAt place = rung.want := by
    unfold wantAt
    rw [hg]
    rfl
  rw [hwant] at hafter
  omega

/-- What is not spent is as many coins as the plan leaves. -/
theorem length_rest {chosen : List Entry} (h : Loose args chosen) :
    (args.rest chosen).length + chosen.length = args.coins.length := by
  have hspent : (args.coins.zipIdx.filter fun entry =>
      !decide (entry.2 ∉ chosen.map Prod.snd)).Perm chosen := by
    have hzip : (args.coins.zipIdx.map Prod.snd).Nodup := by
      rw [List.zipIdx_map_snd]
      exact List.nodup_range'
    refine (List.perm_ext_iff_of_nodup (List.Nodup.filter _ (List.Nodup.of_map _ hzip))
      (List.Nodup.of_map _ h.distinct)).mpr fun entry => ?_
    rw [List.mem_filter, Bool.not_eq_true', decide_eq_false_iff_not, not_not]
    constructor
    · intro hm
      obtain ⟨hz, hs⟩ := hm
      obtain ⟨other, ho, hplace⟩ := List.mem_map.mp hs
      have hget := List.mem_zipIdx_iff_getElem?.mp hz
      have hother := h.placed other ho
      rw [hplace, hget] at hother
      have hcoin := Option.some.inj hother
      have hsame : other = entry := Prod.ext hcoin.symm hplace
      rwa [hsame] at ho
    · intro hm
      exact ⟨List.mem_zipIdx_iff_getElem?.mpr (h.placed entry hm), List.mem_map_of_mem hm⟩
  have hparts := (List.filter_append_perm
    (fun entry : Entry => decide (entry.2 ∉ chosen.map Prod.snd)) args.coins.zipIdx).length_eq
  rw [List.length_append, hspent.length_eq, List.length_zipIdx] at hparts
  unfold rest
  rw [List.length_map]
  exact hparts

/-- The float has as many coins as the plan says remain. -/
theorem length_replaces (hr : Replaces args float) (hl : Loose args args.reshape.inputs) :
    (float.length : ℤ) = args.coins.length - args.reshape.inputs.length +
      args.reshape.outputs.length + if 0 < args.reshape.carrier then 1 else 0 := by
  obtain ⟨fresh, carriers, hp, hfresh, -, hcarrier, -⟩ := hr
  have hrest := length_rest hl
  have hlength := hp.length_eq
  have hf := congrArg List.length hfresh
  have hc := congrArg List.length hcarrier
  rw [List.length_append, List.length_append] at hlength
  rw [List.length_map] at hf hc
  split at hc
  next hpos =>
    rw [List.length_singleton] at hc
    rw [if_pos hpos]
    omega
  next hneg =>
    rw [List.length_nil] at hc
    rw [if_neg hneg]
    omega

end Steps

/-! ## The measure -/

/-- How many keepers are still wanted. -/
def PoolArgs.wanting (args : PoolArgs) : ℕ :=
  ((List.range args.target.length).map fun rung =>
    (args.wantAt rung).toNat - args.keepers.counts rung).sum

/-- Fewer keepers are wanted, or as many and there are fewer coins. -/
def Falls : PoolArgs → PoolArgs → Prop :=
  InvImage (Prod.Lex (· < ·) (· < ·)) fun args => (args.wanting, args.coins.length)

/-- No sequence of reshapings falls for ever. -/
theorem wellFounded_falls : WellFounded Falls :=
  InvImage.wf _ (WellFounded.prod_lex Nat.lt_wfRel.wf Nat.lt_wfRel.wf)

/-- Every plan that spends anything makes the measure fall. -/
theorem falls_of_replaces {float : List PoolCoin} (hsizes : Sizes args.target)
    (ha : Ascending args.target) (h : args.reshape.inputs ≠ [])
    (hr : Replaces args float) : Falls (args.withFloat float) args := by
  obtain ⟨-, hcuts⟩ := cuts_of_inputs h
  obtain ⟨hloose, -⟩ := chosen_spec args
  rw [← hcuts.inputs_eq] at hloose
  have hmono := counts_mono hr hloose
  have hle : (args.withFloat float).wanting ≤ args.wanting := by
    refine List.sum_le_sum fun rung _ => ?_
    have hrung := hmono rung
    change (args.wantAt rung).toNat - _ ≤ _
    omega
  apply Prod.lex_iff.mpr
  cases hc : args.consolidating with
  | true =>
    have hremain := (hcuts.merge hc).2
    have hlength := length_replaces hr hloose
    have hfewer : (args.withFloat float).coins.length < args.coins.length := by
      change float.length < _
      unfold remain extra at hremain
      rw [← hcuts.carrier_eq, ← hcuts.outputs_eq, ← hcuts.inputs_eq] at hremain
      omega
    dsimp only
    omega
  | false =>
    left
    obtain ⟨place, rung, hg, hw, hm⟩ := missing_of_pieces hsizes _ (hcuts.split hc)
    rw [← hcuts.outputs_eq] at hm
    have hlt := counts_lt hsizes ha hr hloose hg hw hm
    have hafter := keepers_counts (args.withFloat float) place
    change _ = min (args.wantAt place).toNat _ at hafter
    refine List.sum_lt_sum _ _ (fun other _ => ?_) ⟨place, ?_, ?_⟩
    · have hother := hmono other
      change (args.wantAt other).toNat - _ ≤ _
      omega
    · exact List.mem_range.mpr (List.getElem?_eq_some_iff.mp hg).1
    · change (args.wantAt place).toNat - _ < _
      omega

/-- The target has ascending sizes, all of them positive. -/
theorem poolTarget_spec {maxSats : ℤ} (maxExposedSats : ℤ) (h : 2 ≤ maxSats) :
    Sizes (poolTarget maxSats maxExposedSats) ∧ Ascending (poolTarget maxSats maxExposedSats) := by
  unfold poolTarget
  constructor
  · intro rung hm
    simp only [List.mem_cons, List.not_mem_nil, or_false] at hm
    obtain rfl | rfl := hm
    · dsimp only
      omega
    · dsimp only
      omega
  · refine List.pairwise_pair.mpr ?_
    dsimp only
    omega

/-- However often the pool is planned and the plan carried out, with whatever expiry the new
coins get, a plan comes that spends nothing and pays nothing out. -/
theorem reshaping_stops {maxSats maxExposedSats : ℤ} (hmax : 2 ≤ maxSats) (pool : PoolArgs)
    (htarget : pool.target = poolTarget maxSats maxExposedSats) (floats : ℕ → List PoolCoin)
    (hrun : ∀ step, (planPool (pool.withFloat (floats step))).inputs ≠ [] →
      Replaces (pool.withFloat (floats step)) (floats (step + 1))) :
    ∃ step, (planPool (pool.withFloat (floats step))).inputs = [] ∧
      (planPool (pool.withFloat (floats step))).outputs = [] := by
  obtain ⟨hsizes, hascending⟩ := poolTarget_spec maxExposedSats hmax
  rw [← htarget] at hsizes hascending
  by_contra hnever
  push Not at hnever
  have hgo : ∀ step, (pool.withFloat (floats step)).reshape.inputs ≠ [] := by
    intro step hnone
    refine hnever step ?_ (outputs_of_no_inputs hnone)
    unfold planPool
    rw [hnone, List.map_nil]
  have hfalls : ∀ step,
      Falls (pool.withFloat (floats (step + 1))) (pool.withFloat (floats step)) := by
    intro step
    have hspends : (planPool (pool.withFloat (floats step))).inputs ≠ [] := fun hnone =>
      hgo step (List.map_eq_nil_iff.mp hnone)
    exact @falls_of_replaces (pool.withFloat (floats step)) _ hsizes hascending (hgo step)
      (hrun step hspends)
  exact (wellFounded_iff_isEmpty_descending_chain.mp wellFounded_falls).false
    ⟨fun step => pool.withFloat (floats step), hfalls⟩

/-- A pool of one coin, for swaps of at most forty sats. -/
def soloPool : PoolArgs where
  coins := []
  target := poolTarget 40 40
  maxCount := 8
  maxInputs := 4
  maxOutputs := 8
  minOutput := 5
  maxAmount := -1

/-- A plain coin without an expiry. -/
def plainCoin (key : String) (value : ℤ) : PoolCoin := ⟨key, value, value, none, false, false⟩

/-- What the coin is cut into. -/
def soloPieces : List PoolCoin :=
  [plainCoin "b:0" 10, plainCoin "b:1" 40, plainCoin "b:2" 10, plainCoin "b:3" 40,
    plainCoin "b:4" 900]

/-- The coin, and then its pieces for good. -/
def soloFloats : ℕ → List PoolCoin
  | 0 => [plainCoin "a:0" 1000]
  | _ + 1 => soloPieces

/-- The coin is cut, and then the pool matches its target. -/
theorem reshaping_stops_sample :
    (planPool (soloPool.withFloat (soloFloats 0))).outputs = [10, 40, 10, 40, 900] ∧
    ∃ step, (planPool (soloPool.withFloat (soloFloats step))).inputs = [] ∧
      (planPool (soloPool.withFloat (soloFloats step))).outputs = [] := by
  constructor
  · decide +kernel
  · refine @reshaping_stops 40 40 (by decide) soloPool rfl soloFloats fun step hspends => ?_
    cases step with
    | zero =>
      refine ⟨soloPieces, [], ?_, ?_, ?_, ?_, ?_⟩
      · decide +kernel
      · decide +kernel
      · unfold Plain
        decide +kernel
      · decide +kernel
      · exact fun _ hm => nomatch hm
    | succ step =>
      have hnone : (planPool (soloPool.withFloat soloPieces)).inputs = [] := by decide +kernel
      exact absurd hnone hspends

end IntentSolver.VtxoPool
