import IntentSolver.VtxoPool
import Mathlib.Algebra.BigOperators.Group.List.Basic
import Mathlib.Algebra.Ring.Int.Defs
import Mathlib.Data.List.Nodup

/-!
# What a plan of the pool keeps to

Pieces are handed out, taken back where the remainder is too small or too large, and the rest
is divided evenly. Nothing of this changes what the outputs add up to, and the plan is dropped
at the end where an output is out of bounds or there are too many.
-/

namespace IntentSolver.VtxoPool

open PoolArgs

variable {args : PoolArgs}

/-! ## Sums -/

/-- Even parts add up to the sum. -/
theorem sum_evenly (sum : ℤ) {parts : ℕ} (h : 0 < parts) : (evenly sum parts).sum = sum := by
  have hrange : ∀ count : ℕ, ((List.range count).map fun index : ℕ =>
      sum / parts + if (index : ℤ) < sum % parts then 1 else 0).sum =
        count * (sum / parts) + min (count : ℤ) (sum % parts) := by
    intro count
    induction count with
    | zero =>
      have hrest := Int.emod_nonneg sum (show (parts : ℤ) ≠ 0 by omega)
      simp only [List.range_zero, List.map_nil, List.sum_nil]
      omega
    | succ count ih =>
      rw [List.range_succ, List.map_append, List.sum_append, ih, List.map_singleton,
        List.sum_singleton]
      push_cast
      rw [Int.add_mul]
      split <;> omega
  have hlt := Int.emod_lt_of_pos sum (show (0 : ℤ) < parts by omega)
  have hdiv := Int.mul_ediv_add_emod sum parts
  unfold evenly
  rw [hrange, min_eq_right (by omega)]
  exact hdiv

/-- No parts, no outputs. -/
theorem evenly_zero (sum : ℤ) : evenly sum 0 = [] := rfl

/-- A positive sum needs at least one part. -/
theorem partsOf_pos {sum size : ℤ} (h : 0 < size) (hs : 0 < sum) : 0 < partsOf sum size := by
  have hone : 1 ≤ (sum + size - 1) / size := by
    rw [Int.le_ediv_iff_mul_le h]
    omega
  exact hone

/-! ## Which coins are spent -/

/-- One more input is still no more than there may be. -/
theorem length_snoc_le {inputs : List Entry} (entry : Entry)
    (h : ¬ args.maxInputs ≤ inputs.length) :
    ((inputs ++ [entry]).length : ℤ) ≤ args.maxInputs := by
  rw [List.length_append, List.length_singleton]
  push_cast
  omega

/-- A merge spends some of what it is offered, no more than it may. -/
theorem gatherMerge_spec (entries inputs : List Entry) (gross : ℤ) :
    (args.gatherMerge entries inputs gross).Sublist (inputs ++ entries) ∧
      ((inputs.length : ℤ) ≤ args.maxInputs →
        ((args.gatherMerge entries inputs gross).length : ℤ) ≤ args.maxInputs) := by
  induction entries generalizing inputs gross with
  | nil =>
    rw [List.append_nil]
    exact ⟨List.Sublist.refl _, id⟩
  | cons entry rest ih =>
    unfold gatherMerge
    split
    · exact ⟨List.sublist_append_left _ _, id⟩
    · split
      · obtain ⟨hs, hl⟩ := ih inputs gross
        exact ⟨hs.trans ((List.sublist_cons_self entry rest).append_left inputs), hl⟩
      next hfull _ =>
        obtain ⟨hs, hl⟩ := ih (inputs ++ [entry]) (gross + entry.1.value)
        rw [List.append_assoc, List.singleton_append] at hs
        exact ⟨hs, fun _ => hl (length_snoc_le entry hfull)⟩

/-- So does a split. -/
theorem gatherSplit_spec (entries inputs : List Entry) (gross : ℤ) :
    (args.gatherSplit entries inputs gross).Sublist (inputs ++ entries) ∧
      ((inputs.length : ℤ) ≤ args.maxInputs →
        ((args.gatherSplit entries inputs gross).length : ℤ) ≤ args.maxInputs) := by
  induction entries generalizing inputs gross with
  | nil =>
    rw [List.append_nil]
    exact ⟨List.Sublist.refl _, id⟩
  | cons entry rest ih =>
    unfold gatherSplit
    split
    · exact ⟨List.sublist_append_left _ _, id⟩
    next hfull =>
      obtain ⟨hs, hl⟩ := ih (inputs ++ [entry]) (gross + entry.1.value)
      rw [List.append_assoc, List.singleton_append] at hs
      exact ⟨hs, fun _ => hl (length_snoc_le entry fun h => hfull (.inl h))⟩

/-- Coins a plan may spend: each at its own place, not kept and not due for renewal. -/
structure Loose (args : PoolArgs) (chosen : List Entry) : Prop where
  distinct : (chosen.map Prod.snd).Nodup
  placed : ∀ entry ∈ chosen, args.coins[entry.2]? = some entry.1
  unkept : ∀ entry ∈ chosen, entry.2 ∉ args.keepers.places
  notDue : ∀ entry ∈ chosen, entry.1.renewalDue = false

/-- Whatever is gathered from a reordering of the eligible coins is loose. -/
theorem loose_of_sublist {chosen sorted : List Entry} (hs : chosen.Sublist sorted)
    (hp : sorted.Perm args.eligible) : Loose args chosen := by
  have heligible : ∀ entry ∈ chosen, entry ∈ args.eligible := fun entry hm =>
    hp.mem_iff.mp (hs.subset hm)
  have hall : ∀ entry ∈ chosen, entry ∈ args.coins.zipIdx ∧
      entry.2 ∉ args.keepers.places ∧ entry.1.renewalDue = false := by
    intro entry hm
    obtain ⟨hz, hf⟩ := List.mem_filter.mp (heligible entry hm)
    rw [Bool.and_eq_true, decide_eq_true_eq, Bool.not_eq_true'] at hf
    exact ⟨hz, hf⟩
  constructor
  · have hzip : (args.coins.zipIdx.map Prod.snd).Nodup := by
      rw [List.zipIdx_map_snd]
      exact List.nodup_range'
    have hsorted := (hp.map Prod.snd).nodup_iff.mpr
      (hzip.sublist (List.filter_sublist.map Prod.snd))
    exact hsorted.sublist (hs.map Prod.snd)
  · intro entry hm
    exact List.mem_zipIdx_iff_getElem?.mp (hall entry hm).1
  · exact fun entry hm => (hall entry hm).2.1
  · exact fun entry hm => (hall entry hm).2.2

/-- The coins to merge are loose and no more than a plan may spend. -/
theorem merged_spec (args : PoolArgs) :
    Loose args args.merged ∧ (0 ≤ args.maxInputs → (args.merged.length : ℤ) ≤ args.maxInputs) := by
  obtain ⟨hs, hl⟩ := @gatherMerge_spec args (args.eligible.insertionSort mergeOrder) [] 0
  exact ⟨loose_of_sublist hs (List.perm_insertionSort _ _), hl⟩

/-- The coins to cut are loose and no more than a plan may spend. -/
theorem cut_spec (args : PoolArgs) :
    Loose args args.cut ∧ (0 ≤ args.maxInputs → (args.cut.length : ℤ) ≤ args.maxInputs) := by
  obtain ⟨hs, hl⟩ := @gatherSplit_spec args
    (args.eligible.insertionSort fun first second => second.1.value - first.1.value ≤ 0) [] 0
  exact ⟨loose_of_sublist hs (List.perm_insertionSort _ _), hl⟩

/-! ## The pieces -/

/-- Pieces of short rungs and a remainder that add up to this much. -/
structure Handed (args : PoolArgs) (amount : ℤ) (pieces : List ℤ) (left : ℤ) : Prop where
  sum : pieces.sum + left = amount
  sizes : ∀ piece ∈ pieces, ∃ rung ∈ args.short, rung.size = piece
  covered : pieces ≠ [] → 0 ≤ left

/-- These rungs have the sizes of short ones. -/
def Sized (args : PoolArgs) (rungs : List ShortRung) : Prop :=
  ∀ rung ∈ rungs, ∃ known ∈ args.short, known.size = rung.size

/-- Fewer rungs keep the sizes of short ones. -/
theorem Sized.tail {rung : ShortRung} {rest : List ShortRung} (h : Sized args (rung :: rest)) :
    Sized args rest := fun other hm => h other (List.mem_cons_of_mem _ hm)

/-- Two lists of such rungs make one. -/
theorem Sized.append {first second : List ShortRung} (h : Sized args first)
    (hs : Sized args second) : Sized args (first ++ second) := by
  intro rung hm
  obtain hm | hm := List.mem_append.mp hm
  · exact h rung hm
  · exact hs rung hm

/-- Every rung has a positive size. -/
def Sizes (target : List PoolRung) : Prop := ∀ rung ∈ target, 0 < rung.size

/-- A rung that is short is one of the target. -/
theorem mem_short {short : ShortRung} (h : short ∈ args.short) :
    ∃ place rung, args.target[place]? = some rung ∧ rung.size = short.size ∧
      (args.keepers.counts place : ℤ) < rung.want := by
  obtain ⟨hmap, hf⟩ := List.mem_filter.mp h
  obtain ⟨⟨rung, place⟩, hz, rfl⟩ := List.mem_map.mp hmap
  rw [Bool.and_eq_true, Bool.and_eq_true, decide_eq_true_eq] at hf
  refine ⟨place, rung, List.mem_zipIdx_iff_getElem?.mp hz, rfl, ?_⟩
  have hmissing := hf.1.1
  dsimp only at hmissing
  omega

/-- A short rung has a positive size. -/
theorem short_positive (hsizes : Sizes args.target) {short : ShortRung} (h : short ∈ args.short) :
    0 < short.size := by
  obtain ⟨place, rung, hget, hsize, -⟩ := mem_short h
  rw [← hsize]
  exact hsizes rung (List.mem_of_getElem? hget)

/-- A round hands out pieces of short rungs. -/
theorem handOut_spec (slots amount : ℤ) (rungs : List ShortRung) {pieces : List ℤ} {left : ℤ}
    {seen : List ShortRung} {progress : Bool} (h : Handed args amount pieces left)
    (hr : Sized args rungs) (hs : Sized args seen) :
    Handed args amount (handOut slots rungs pieces left seen progress).1.pieces
        (handOut slots rungs pieces left seen progress).1.left ∧
      Sized args (handOut slots rungs pieces left seen progress).1.short := by
  induction rungs generalizing pieces left seen progress with
  | nil => exact ⟨h, hs⟩
  | cons rung rest ih =>
    have hone : Sized args [rung] := by
      intro other hm
      rw [List.mem_singleton.mp hm]
      exact hr rung List.mem_cons_self
    unfold handOut
    split
    · exact ⟨h, hs.append hr⟩
    · split
      · exact ih h hr.tail (hs.append hone)
      next hgo =>
        rw [not_or, Int.not_le, Int.not_lt] at hgo
        have hnext : Handed args amount (rung.size :: pieces) (left - rung.size) := by
          constructor
          · have hsum := h.sum
            rw [List.sum_cons]
            omega
          · intro piece hm
            obtain rfl | hm := List.mem_cons.mp hm
            · exact hr rung List.mem_cons_self
            · exact h.sizes piece hm
          · intro _
            omega
        have hfewer : Sized args [{ rung with missing := rung.missing - 1 }] := by
          intro other hm
          rw [List.mem_singleton.mp hm]
          exact hr rung List.mem_cons_self
        exact ih hnext hr.tail (hs.append hfewer)

/-- So do any number of rounds. -/
theorem rounds_spec (slots amount : ℤ) (fuel : ℕ) {state : Pieces}
    (h : Handed args amount state.pieces state.left) (hs : Sized args state.short) :
    Handed args amount (rounds slots fuel state).pieces (rounds slots fuel state).left := by
  induction fuel generalizing state with
  | zero => exact h
  | succ fuel ih =>
    obtain ⟨hnext, hshort⟩ := @handOut_spec args slots amount state.short _ _ [] false h hs
      (fun _ hm => nomatch hm)
    unfold rounds
    dsimp only
    split
    · exact h
    · split
      · exact ih hnext hshort
      · exact hnext

/-- Each round that goes on hands out a piece, unless the slots are full. -/
theorem handOut_progress (slots : ℤ) (rungs : List ShortRung) (pieces : List ℤ) (left : ℤ)
    (seen : List ShortRung) (progress : Bool) :
    pieces.length ≤ (handOut slots rungs pieces left seen progress).1.pieces.length ∧
      ((handOut slots rungs pieces left seen progress).2 = true → progress = false →
        pieces.length < (handOut slots rungs pieces left seen progress).1.pieces.length) := by
  induction rungs generalizing pieces left seen progress with
  | nil =>
    constructor
    · exact le_refl _
    · intro ht hf
      rw [handOut, hf] at ht
      cases ht
  | cons rung rest ih =>
    unfold handOut
    split
    · constructor
      · exact le_refl _
      · intro ht hf
        rw [hf] at ht
        cases ht
    · split
      · exact ih pieces left (seen ++ [rung]) progress
      · have hlength := (ih (rung.size :: pieces) (left - rung.size)
          (seen ++ [{ rung with missing := rung.missing - 1 }]) true).1
        rw [List.length_cons] at hlength
        constructor
        · omega
        · intro _ _
          omega

/-- With a round for every slot the rounds end as the loop does: the slots are full, or a
round hands out nothing. -/
theorem rounds_exhausted (slots : ℤ) (fuel : ℕ) (state : Pieces)
    (h : slots - 1 - state.pieces.length ≤ fuel) :
    slots - 1 ≤ (rounds slots fuel state).pieces.length ∨
      ∃ last : Pieces, (handOut slots last.short last.pieces last.left [] false).2 = false ∧
        rounds slots fuel state = (handOut slots last.short last.pieces last.left [] false).1 := by
  induction fuel generalizing state with
  | zero =>
    left
    unfold rounds
    push_cast at h
    omega
  | succ fuel ih =>
    unfold rounds
    dsimp only
    split
    next hfull => exact .inl hfull
    next hopen =>
      split
      next hgo =>
        obtain ⟨-, hmore⟩ := handOut_progress slots state.short state.pieces state.left [] false
        have hlength := hmore hgo rfl
        apply ih
        push_cast at h
        omega
      next hstop => exact .inr ⟨state, Bool.eq_false_iff.mpr hstop, rfl⟩

/-- A piece that is taken back was positive, and the rest still adds up. -/
theorem Handed.pop (hsizes : Sizes args.target) {amount piece left : ℤ} {rest : List ℤ}
    (h : Handed args amount (piece :: rest) left) :
    0 < piece ∧ Handed args amount rest (left + piece) := by
  have hsum := h.sum
  have hleft := h.covered (List.cons_ne_nil _ _)
  obtain ⟨rung, hr, hsize⟩ := h.sizes piece List.mem_cons_self
  have hpositive := short_positive hsizes hr
  rw [List.sum_cons] at hsum
  refine ⟨by omega, ?_⟩
  constructor
  · omega
  · exact fun other hm => h.sizes other (List.mem_cons_of_mem _ hm)
  · intro _
    omega

/-- Taking pieces back keeps what they and the remainder add up to, and only adds to the
remainder. -/
theorem takeBack_spec (hsizes : Sizes args.target) (amount : ℤ) (asks : ℕ → ℤ → Bool)
    {pieces : List ℤ} {left : ℤ} (h : Handed args amount pieces left) :
    Handed args amount (takeBack asks pieces left).1 (takeBack asks pieces left).2 ∧
      left ≤ (takeBack asks pieces left).2 := by
  induction pieces generalizing left with
  | nil => exact ⟨h, le_refl _⟩
  | cons piece rest ih =>
    unfold takeBack
    split
    · obtain ⟨hpositive, hpop⟩ := h.pop hsizes
      obtain ⟨hnext, hle⟩ := ih hpop
      exact ⟨hnext, by omega⟩
    · exact ⟨h, le_refl _⟩

section Cutting

variable (hsizes : Sizes args.target) (inputs : List Entry)
include hsizes

/-- Refilling the short rungs hands out what the carrier leaves. -/
theorem handed_refilled : Handed args (gross inputs - args.carrier inputs)
    (args.refilled inputs).1 (args.refilled inputs).2 := by
  have hstart : Handed args (gross inputs - args.carrier inputs) []
      (gross inputs - args.carrier inputs) := by
    constructor
    · simp
    · exact fun _ hm => nomatch hm
    · exact fun hne => absurd rfl hne
  have hshort : Sized args args.short := fun rung hm => ⟨rung, hm, rfl⟩
  have hrounds := @rounds_spec args (args.slots inputs) _ (args.slots inputs - 1).toNat
    ⟨[], gross inputs - args.carrier inputs, args.short⟩ hstart hshort
  exact (takeBack_spec hsizes _ _ hrounds).1

/-- Levelling hands out what the carrier leaves too. -/
theorem handed_levelled : Handed args (gross inputs - args.carrier inputs)
    (args.levelled inputs).1.1 (args.left inputs) := by
  have hrefilled := handed_refilled hsizes inputs
  unfold left levelled
  dsimp only
  split
  · exact (takeBack_spec hsizes _ _ hrefilled).1
  · exact hrefilled

/-- The remainder is in as many parts as it needs, and in none when there is none. -/
theorem sum_parts (hmin : 0 < args.minOutput)
    (hmax : args.maxAmount < 0 ∨ args.minOutput ≤ args.maxAmount)
    (hleft : 0 ≤ args.left inputs) :
    (evenly (args.left inputs) (args.levelled inputs).2).sum = args.left inputs := by
  have hrefilled := handed_refilled hsizes inputs
  unfold left at hleft ⊢
  unfold levelled at hleft ⊢
  dsimp only at hleft ⊢
  split
  next hover =>
    -- What is above the ceiling needs at least one part.
    have hle := (takeBack_spec hsizes _ (fun count left =>
      decide (args.slots inputs < count + partsOf left args.maxAmount)) hrefilled).2
    have hsize : 0 < args.maxAmount := by omega
    have hparts := partsOf_pos hsize (by omega : 0 < (takeBack (fun count left =>
      decide (args.slots inputs < count + partsOf left args.maxAmount))
      (args.refilled inputs).1 (args.refilled inputs).2).2)
    exact sum_evenly _ (by omega)
  next hunder =>
    rw [if_neg hunder] at hleft
    dsimp only at hleft ⊢
    split
    · exact sum_evenly _ Nat.one_pos
    · rw [evenly_zero, List.sum_nil]
      omega

/-- The outputs add up to what the inputs hold beside the carrier. -/
theorem sum_outputs (hmin : 0 < args.minOutput)
    (hmax : args.maxAmount < 0 ∨ args.minOutput ≤ args.maxAmount)
    (hleft : 0 ≤ args.left inputs) :
    (args.outputs inputs).sum = gross inputs - args.carrier inputs := by
  have hsum := (handed_levelled hsizes inputs).sum
  have hparts := sum_parts hsizes inputs hmin hmax hleft
  unfold outputs pieces
  rw [List.sum_append, hparts, List.sum_reverse]
  exact hsum

/-- Where pieces stay, nothing is overdrawn. -/
theorem left_of_pieces (h : args.pieces inputs ≠ []) : 0 ≤ args.left inputs := by
  apply (handed_levelled hsizes inputs).covered
  intro hnone
  apply h
  unfold pieces
  rw [hnone, List.reverse_nil]

/-- A piece that stays is one that was missing. -/
theorem missing_of_pieces (h : args.pieces inputs ≠ []) :
    ∃ place rung, args.target[place]? = some rung ∧
      (args.keepers.counts place : ℤ) < rung.want ∧ rung.size ∈ args.outputs inputs := by
  obtain ⟨piece, hp⟩ := List.exists_mem_of_ne_nil _ h
  obtain ⟨short, hs, hpiece⟩ := (handed_levelled hsizes inputs).sizes piece
    (List.mem_reverse.mp hp)
  obtain ⟨place, rung, hget, hsize, hmissing⟩ := mem_short hs
  rw [← hpiece, ← hsize] at hp
  exact ⟨place, rung, hget, hmissing, List.mem_append_left _ hp⟩

end Cutting

/-! ## Plans -/

/-- What a plan that is made keeps to. -/
structure Conserves (args : PoolArgs) (chosen : List Entry) (outputs : List ℤ) : Prop where
  loose : Loose args chosen
  fewInputs : (chosen.length : ℤ) ≤ args.maxInputs
  /-- Nothing is lost but what the assets ride on. -/
  sum : outputs.sum = gross chosen -
    if chosen.any fun entry => entry.1.hasAssets then args.minOutput else 0
  accepted : ∀ amount ∈ outputs, args.minOutput ≤ amount ∧
    (0 ≤ args.maxAmount → amount ≤ args.maxAmount)
  fewOutputs : (outputs.length : ℤ) + args.extra chosen ≤ args.maxOutputs
  /-- A split stays under the ceiling and makes a piece that was missing. -/
  split : args.consolidating = false →
    (args.coins.length : ℤ) - chosen.length + outputs.length + args.extra chosen ≤ args.ceiling ∧
    ∃ place rung, args.target[place]? = some rung ∧
      (args.keepers.counts place : ℤ) < rung.want ∧ rung.size ∈ outputs
  /-- A merge leaves fewer coins. -/
  merge : args.consolidating = true →
    (args.coins.length : ℤ) - chosen.length + outputs.length + args.extra chosen <
      args.coins.length

/-- What is known where inputs are cut into the outputs of a plan. -/
structure Cuts (args : PoolArgs) (inputs : List Entry) (plan : Reshape) : Prop where
  inputs_eq : plan.inputs = inputs
  outputs_eq : plan.outputs = args.outputs inputs
  carrier_eq : plan.carrier = args.carrier inputs
  bounded : args.bounded inputs = true
  fits : ((args.outputs inputs).length : ℤ) ≤ args.slots inputs
  merge : args.consolidating = true → 0 ≤ args.left inputs ∧ args.remain inputs < args.coins.length
  split : args.consolidating = false → args.pieces inputs ≠ []

/-- Inputs are cut, or there is no plan. -/
theorem reshapeFrom_cases (args : PoolArgs) (inputs : List Entry) :
    (∃ reason, args.reshapeFrom inputs = nonePlan reason) ∨
      Cuts args inputs (args.reshapeFrom inputs) := by
  unfold reshapeFrom
  split
  · exact .inl ⟨_, rfl⟩
  · split
    next hmerge =>
      dsimp only
      split
      · exact .inl ⟨_, rfl⟩
      next hfits =>
        rw [not_or, Bool.not_eq_false, Bool.and_eq_true, Bool.and_eq_true, decide_eq_true_eq,
          decide_eq_true_eq, Int.not_le] at hfits
        obtain ⟨⟨⟨hleft, hbounded⟩, hfew⟩, hremain⟩ := hfits
        refine .inr ⟨rfl, rfl, rfl, hbounded, hfew, fun _ => ⟨hleft, hremain⟩, fun hsplit => ?_⟩
        rw [hmerge] at hsplit
        cases hsplit
    next hsplit =>
      split
      · exact .inl ⟨_, rfl⟩
      next hfits =>
        rw [not_or, Int.not_lt, not_and, Bool.not_eq_false] at hfits
        split
        · exact .inl ⟨_, rfl⟩
        next hpieces =>
          exact .inr ⟨rfl, rfl, rfl, hfits.2 hpieces, hfits.1, fun hmerge => absurd hmerge hsplit,
            fun _ => hpieces⟩

/-- The coins a plan spends, if it spends any. -/
def PoolArgs.chosen (args : PoolArgs) : List Entry :=
  if args.consolidating then args.merged else args.cut

/-- The chosen coins are cut, or there is no plan. -/
theorem reshape_cases (args : PoolArgs) :
    (∃ reason, args.reshape = nonePlan reason) ∨
      (args.maxAmount < 0 ∨ args.minOutput ≤ args.maxAmount) ∧ args.chosen ≠ [] ∧
        args.reshape = args.reshapeFrom args.chosen := by
  unfold reshape chosen
  split
  · exact .inl ⟨_, rfl⟩
  · split
    · exact .inl ⟨_, rfl⟩
    next hmax =>
      have hlimit : args.maxAmount < 0 ∨ args.minOutput ≤ args.maxAmount := by omega
      split
      · exact .inl ⟨_, rfl⟩
      · split
        · split
          · exact .inl ⟨_, rfl⟩
          next hmany =>
            refine .inr ⟨hlimit, fun hnone => ?_, rfl⟩
            rw [hnone] at hmany
            exact hmany (by decide)
        · split
          · split
            · exact .inl ⟨_, rfl⟩
            next hcut => exact .inr ⟨hlimit, hcut, rfl⟩
          · exact .inl ⟨_, rfl⟩

/-- What a plan that spends anything spends is cut. -/
theorem cuts_of_inputs (h : args.reshape.inputs ≠ []) :
    (args.maxAmount < 0 ∨ args.minOutput ≤ args.maxAmount) ∧
      Cuts args args.chosen args.reshape := by
  obtain ⟨reason, hnone⟩ | ⟨hmax, -, hreshape⟩ := reshape_cases args
  · rw [hnone] at h
    exact absurd rfl h
  · obtain ⟨reason, hnone⟩ | hcuts := reshapeFrom_cases args args.chosen
    · rw [hreshape, hnone] at h
      exact absurd rfl h
    · rw [hreshape]
      exact ⟨hmax, hcuts⟩

/-- A plan that spends nothing pays nothing out. -/
theorem outputs_of_no_inputs (h : args.reshape.inputs = []) : args.reshape.outputs = [] := by
  obtain ⟨reason, hnone⟩ | ⟨-, hne, hreshape⟩ := reshape_cases args
  · rw [hnone]
    rfl
  · obtain ⟨reason, hnone⟩ | hcuts := reshapeFrom_cases args args.chosen
    · rw [hreshape, hnone]
      rfl
    · rw [hreshape, hcuts.inputs_eq] at h
      exact absurd h hne

/-- What is spent is loose, and no more than a plan may spend. -/
theorem chosen_spec (args : PoolArgs) :
    Loose args args.chosen ∧
      (0 ≤ args.maxInputs → (args.chosen.length : ℤ) ≤ args.maxInputs) := by
  unfold chosen
  split
  · exact merged_spec args
  · exact cut_spec args

/-- A reshaping that is made keeps the value of the coins it spends. -/
theorem conserves_reshape (hsizes : Sizes args.target) (hmin : 0 < args.minOutput)
    (hin : 0 ≤ args.maxInputs)
    (h : args.reshape.inputs ≠ []) :
    Conserves args args.reshape.inputs args.reshape.outputs := by
  obtain ⟨hmax, hcuts⟩ := cuts_of_inputs h
  obtain ⟨hloose, hfew⟩ := chosen_spec args
  rw [hcuts.inputs_eq, hcuts.outputs_eq]
  have hleft : 0 ≤ args.left args.chosen := by
    cases hc : args.consolidating with
    | true => exact (hcuts.merge hc).1
    | false => exact left_of_pieces hsizes args.chosen (hcuts.split hc)
  have hslots := hcuts.fits
  constructor
  · exact hloose
  · exact hfew hin
  · exact sum_outputs hsizes args.chosen hmin hmax hleft
  · intro amount hm
    have haccepted := List.all_eq_true.mp hcuts.bounded amount hm
    unfold within at haccepted
    rw [Bool.and_eq_true, Bool.or_eq_true, decide_eq_true_eq, decide_eq_true_eq,
      decide_eq_true_eq] at haccepted
    exact ⟨haccepted.1, fun hlimit => by omega⟩
  · unfold slots at hslots
    split at hslots
    · omega
    · omega
  · intro hc
    refine ⟨?_, missing_of_pieces hsizes args.chosen (hcuts.split hc)⟩
    unfold slots at hslots
    rw [hc, if_neg Bool.false_ne_true] at hslots
    omega
  · intro hc
    exact (hcuts.merge hc).2

/-- A plan that spends anything spends loose coins, each once and no more than it may, and pays
out what they hold beside the carrier of their assets, in outputs within every bound: a split
stays under the ceiling and makes a piece that was missing, a merge leaves fewer coins. -/
theorem plan_keeps_its_bounds (args : PoolArgs) (hsizes : ∀ rung ∈ args.target, 0 < rung.size)
    (hmin : 0 < args.minOutput) (hin : 1 ≤ args.maxInputs)
    (hplan : (planPool args).inputs ≠ []) :
    ∃ chosen : List Entry, (planPool args).inputs = chosen.map (·.1.key) ∧
      Conserves args chosen (planPool args).outputs := by
  have hne : args.reshape.inputs ≠ [] := by
    intro hnone
    apply hplan
    unfold planPool
    rw [hnone, List.map_nil]
  exact ⟨args.reshape.inputs, rfl, conserves_reshape hsizes hmin (by omega) hne⟩

/-- Six coins at a ceiling of six: the piece that expires last, four loose ones of which one
carries an asset, and one that renewal takes. -/
def samplePool : PoolArgs where
  coins := [⟨"a:0", 1050, 1020, some 9, false, false⟩, ⟨"b:0", 700, 670, some 5, false, false⟩,
    ⟨"c:0", 600, 570, some 4, false, false⟩, ⟨"d:0", 800, 770, some 6, true, false⟩,
    ⟨"e:0", 500, 470, some 3, false, false⟩, ⟨"f:0", 900, 870, some 1, false, true⟩]
  target := [⟨1000, 2⟩, ⟨4000, 1⟩]
  maxCount := 6
  maxInputs := 4
  maxOutputs := 5
  minOutput := 330
  maxAmount := 3000

/-- The keeper and the coin due for renewal stay; the other four are merged into a missing piece
and a remainder, beside the carrier of the asset. -/
theorem plan_keeps_its_bounds_sample :
    (planPool samplePool).inputs = ["e:0", "c:0", "b:0", "d:0"] ∧
    (planPool samplePool).outputs = [1000, 1270] ∧
    ∃ chosen : List Entry, (planPool samplePool).inputs = chosen.map (·.1.key) ∧
      Conserves samplePool chosen (planPool samplePool).outputs := by
  have hinputs : (planPool samplePool).inputs = ["e:0", "c:0", "b:0", "d:0"] := by decide +kernel
  have houtputs : (planPool samplePool).outputs = [1000, 1270] := by decide +kernel
  exact ⟨hinputs, houtputs, plan_keeps_its_bounds samplePool (by decide) (by decide) (by decide)
    (by decide +kernel)⟩

end IntentSolver.VtxoPool
