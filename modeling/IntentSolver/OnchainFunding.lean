import IntentSolver.OnchainFundingDiscipline

/-!
# One funding, and a lockup given back only without it

The funding lease expires, so two workers may both believe they own a
funding. What keeps it single is the write-once record: whatever is broadcast
is the row's `funding_tx`. The automatic sweep gives the lockup back from
`refused`, which no recorded funding reaches, and from `refunded`, which only
a confirmed refund of the solver's own reaches. What the record does not
protect is the row's memory of a funding that went out: a worker whose copy
predates the record can still park the row.
-/

namespace IntentSolver.OnchainFunding

open SwapStore ArkadeLockup LockupCollection WorkerProgram WorkerInterleaving
open OnchainTerms OnchainSendStore OnchainSend OnchainSendWorld OnchainSendSteps
open OnchainFundingDiscipline

/-! ## What a write does to the row -/

/-- How a row changes over time. -/
structure Later (row next : OnchainSendSwapRow) : Prop where
  quote : next.toOnchainQuoteRecord = row.toOnchainQuoteRecord
  /-- The record is written once. -/
  recorded : ∀ tx, row.fundingTx = some tx → next.fundingTx = some tx
  /-- A refusal is for good. -/
  refused : row.state = .refused → next.state = .refused
  /-- So is a refund, with the HTLC it is about. -/
  refunded : row.state = .refunded → next.state = .refunded ∧ htlcOf next = htlcOf row

/-- What a row's state says about its funding. -/
structure SoundRow (row : OnchainSendSwapRow) : Prop where
  unrecorded : row.state = .quoted ∨ row.state = .funded ∨ row.state = .refused →
    row.fundingTx = none
  bare : row.state = .quoted ∨ row.state = .funded ∨ row.state = .fundingOnchain →
    row.fundingTxid = none

/-- A row that has not changed is a later one. -/
theorem Later.refl (row : OnchainSendSwapRow) : Later row row :=
  ⟨rfl, fun _ h => h, id, fun h => ⟨h, rfl⟩⟩

variable {hash : String → String} {note : FundingNote} {row next : OnchainSendSwapRow}

/-- A write that leaves the state, the record and the HTLC alone. -/
theorem Later.of_same (hq : next.toOnchainQuoteRecord = row.toOnchainQuoteRecord)
    (hr : next.fundingTx = row.fundingTx) (hs : next.state = row.state)
    (ht : next.fundingTxid = row.fundingTxid) (hv : next.fundingVout = row.fundingVout) :
    Later row next :=
  ⟨hq, fun _ h => hr.trans h, fun h => hs.trans h, fun h => ⟨hs.trans h, htlcOf_congr ht hv⟩⟩

/-- A row stays sound while its state and its funding stay. -/
theorem SoundRow.of_same (h : SoundRow row) (hr : next.fundingTx = row.fundingTx)
    (hs : next.state = row.state) (ht : next.fundingTxid = row.fundingTxid) : SoundRow next := by
  constructor
  · rw [hs, hr]
    exact h.unrecorded
  · rw [hs, ht]
    exact h.bare

/-- Only `funding_onchain` leads out of the states without a funding and back
into one, and only to `refused`. -/
theorem edge_unrecorded {source target : OnchainSendSwapState}
    (he : target ∈ (OnchainSendMachine source).edges)
    (ht : target = .quoted ∨ target = .funded ∨ target = .refused) :
    source = .quoted ∨ source = .funded ∨ source = .fundingOnchain ∧ target = .refused := by
  revert he ht
  cases source <;> cases target <;> decide

/-- Nothing leads back to before the HTLC's outpoint is known. -/
theorem edge_bare {source target : OnchainSendSwapState}
    (he : target ∈ (OnchainSendMachine source).edges)
    (ht : target = .quoted ∨ target = .funded ∨ target = .fundingOnchain) :
    source = .quoted ∨ source = .funded := by
  revert he ht
  cases source <;> cases target <;> decide

section Update

variable {clock : ℤ} {source target : OnchainSendSwapState} {columns : List OnchainColumn}
  {unrecorded : Bool} (hm : may hash note (.update source target columns unrecorded))
  (hu : updateWhere onchainShape clock source target columns (updateGuard unrecorded) row =
    some next)

include hm hu

/-- A licensed transition moves the row forward. -/
theorem later_update : Later row next := by
  obtain ⟨hs, ht⟩ := update_states hu
  obtain ⟨hr, hq⟩ := update_record hu
  have he := hm.1
  refine ⟨hq, fun tx h => hr.trans h, fun h => ?_, fun h => ?_⟩
  · rw [← hs, h] at he
    cases he
  · rw [← hs, h] at he
    cases he

/-- A licensed transition leaves a row whose state tells the truth. -/
theorem sound_update (h : SoundRow row) : SoundRow next := by
  obtain ⟨hs, ht⟩ := update_states hu
  obtain ⟨hr, -⟩ := update_record hu
  obtain ⟨-, hg, -⟩ := updateWhere_state onchainShape hu
  obtain ⟨he, hc, hleave, -⟩ := hm
  constructor
  · intro hn
    rw [ht] at hn
    rw [hr]
    rcases edge_unrecorded he hn with hsource | hsource | ⟨hsource, htarget⟩
    · exact h.unrecorded (.inl (hs.trans hsource))
    · exact h.unrecorded (.inr (.inl (hs.trans hsource)))
    · have hguard := (hleave hsource).1 htarget
      rw [hguard] at hg
      simpa [updateGuard] using hg
  · intro hn
    rw [ht] at hn
    have hsource := edge_bare he hn
    have hf : source ≠ .fundingOnchain := by
      rintro rfl
      exact hsource.elim nofun nofun
    rw [(update_outpoint hu hc hf).1]
    exact h.bare (hsource.imp hs.trans fun hb => .inl (hs.trans hb))

end Update

section Patch

variable {columns : List OnchainColumn} (hm : ∀ column ∈ columns, MayPatch note column)

include hm

/-- A licensed patch leaves the HTLC alone. -/
theorem patch_outpoint (clock : ℤ) (row : OnchainSendSwapRow) :
    (patchRow onchainShape clock columns row).fundingTxid = row.fundingTxid ∧
      (patchRow onchainShape clock columns row).fundingVout = row.fundingVout := by
  have hkeeps : ∀ column ∈ columns, ∀ row : OnchainSendSwapRow,
      (onchainShape.assign column row).fundingTxid = row.fundingTxid ∧
        (onchainShape.assign column row).fundingVout = row.fundingVout := by
    intro column hcol
    apply assign_outpoint
    · rintro value rfl
      exact hm _ hcol
    · rintro value rfl
      exact hm _ hcol
  exact ⟨patchRow_frame onchainShape OnchainSendSwapRow.fundingTxid (fun _ _ => rfl)
      (fun column hcol row => (hkeeps column hcol row).1) row,
    patchRow_frame onchainShape OnchainSendSwapRow.fundingVout (fun _ _ => rfl)
      (fun column hcol row => (hkeeps column hcol row).2) row⟩

omit hm in
/-- No patch touches the recorded funding or the quote. -/
theorem patch_record (clock : ℤ) (columns : List OnchainColumn) (row : OnchainSendSwapRow) :
    (patchRow onchainShape clock columns row).fundingTx = row.fundingTx ∧
      (patchRow onchainShape clock columns row).toOnchainQuoteRecord = row.toOnchainQuoteRecord :=
  ⟨patchRow_frame onchainShape OnchainSendSwapRow.fundingTx (fun _ _ => rfl)
      (fun column _ row => (assign_record column row).1) row,
    patchRow_frame onchainShape OnchainSendSwapRow.toOnchainQuoteRecord (fun _ _ => rfl)
      (fun column _ row => (assign_record column row).2) row⟩

/-- A licensed patch tracks only refunds of the solver's own. -/
theorem patch_tracked (clock : ℤ) {signed : List String} (ho : note.own ⊆ signed)
    (ht : trackedRefundTxids row ⊆ signed) :
    trackedRefundTxids (patchRow onchainShape clock columns row) ⊆ signed := by
  refine assignAll_keeps onchainShape (P := fun row => trackedRefundTxids row ⊆ signed)
    (fun column hcol row hrow txid hmem => ?_) ht
  have hmay := hm column hcol
  cases column with
  | onchainRefundTxid value =>
    rcases mem_trackedRefundTxids.mp hmem with h | h
    · cases h
      exact ho hmay
    · exact hrow (mem_trackedRefundTxids.mpr (.inr h))
  | onchainRefundPriorTxids values =>
    rcases mem_trackedRefundTxids.mp hmem with h | h
    · exact hrow (mem_trackedRefundTxids.mpr (.inl h))
    · exact ho (hmay h)
  | _ => exact hrow hmem

end Patch

/-! ## The invariant -/

/-- The part of the world fundings and releases are judged by. -/
structure FundingView where
  row : OnchainSendSwapRow
  fundings : List FundingTx
  signedRefunds : List String
  confirmed : List String
  witnesses : ℕ → Option (Outpoint × List String)
  releases : List Release

/-- What fundings and releases are judged by in a world. -/
def view (world : OnchainWorld) : FundingView :=
  ⟨world.row, world.fundings, world.signedRefunds, world.confirmed, world.witnesses,
    world.releases⟩

/-- A refund of the solver's own is confirmed, and the sweep itself read the
row's HTLC as spent by something that is no claim. -/
def RefundedFirst (hash : String → String) (row : OnchainSendSwapRow) (release : Release) : Prop :=
  release.confirmed = true ∧ ∃ htlc witness, htlcOf row = some htlc ∧
    release.witness = some (htlc, witness) ∧ revealed hash row witness = none

/-- A push of the lockup, with the state it was made from. -/
def Justified (hash : String → String) (row : OnchainSendSwapRow) (release : Release) : Prop :=
  row.state = .refused ∨ row.state = .refunded ∧ RefundedFirst hash row release

/-- What the books say of the row, whoever acts. -/
structure Booked (hash : String → String) (v : FundingView) : Prop where
  sound : SoundRow v.row
  fundings : ∀ tx ∈ v.fundings, v.row.fundingTx = some tx
  own : trackedRefundTxids v.row ⊆ v.signedRefunds
  refunded : v.row.state = .refunded → ∃ txid ∈ v.confirmed, txid ∈ v.signedRefunds
  releases : ∀ release ∈ v.releases, Justified hash v.row release

/-- What one worker's notes promise. -/
structure Knows (v : FundingView) (worker : ℕ) (note : FundingNote) : Prop where
  recorded : ∀ tx ∈ note.recorded, v.row.fundingTx = some tx
  own : note.own ⊆ v.signedRefunds
  confirmed : note.confirmed ⊆ v.confirmed
  refused : note.refused = true → v.row.state = .refused
  released : ∀ row ∈ note.released, row.state = .refunded ∧ v.row.state = .refunded ∧
    htlcOf row = htlcOf v.row ∧ row.paymentHash = v.row.paymentHash
  seen : ∀ spend, note.seen = some spend → v.witnesses worker = some spend
  carried : note.carried = false

/-- What holds in every run. -/
def Inv (hash : String → String) (v : FundingView) (notes : ℕ → FundingNote) : Prop :=
  Booked hash v ∧ ∀ worker, Knows v worker (notes worker)

/-- The books only grow. -/
structure Grows (v v' : FundingView) : Prop where
  row : Later v.row v'.row
  signed : v.signedRefunds ⊆ v'.signedRefunds
  confirmed : v.confirmed ⊆ v'.confirmed

/-- A worker that has done nothing promises nothing. -/
theorem knows_fresh (v : FundingView) (worker : ℕ) : Knows v worker .fresh where
  recorded _ h := by cases h
  own _ h := by cases h
  confirmed _ h := by cases h
  refused h := by cases h
  released _ h := by cases h
  seen _ h := by cases h
  carried := rfl

variable {v v' : FundingView} {worker : ℕ} {notes : ℕ → FundingNote}

/-- Notes stay true while the books grow, as long as nobody else reads for us. -/
theorem Knows.grow (h : Knows v worker note) (hg : Grows v v')
    (hw : v'.witnesses worker = v.witnesses worker) : Knows v' worker note where
  recorded tx ht := hg.row.recorded tx (h.recorded tx ht)
  own _ ht := hg.signed (h.own ht)
  confirmed _ ht := hg.confirmed (h.confirmed ht)
  refused hr := hg.row.refused (h.refused hr)
  released row hr := by
    obtain ⟨hs, hv, hh, hp⟩ := h.released row hr
    obtain ⟨hstate, hhtlc⟩ := hg.row.refunded hv
    have hquote : v'.row.paymentHash = v.row.paymentHash := by rw [hg.row.quote]
    exact ⟨hs, hstate, hh.trans hhtlc.symm, hp.trans hquote.symm⟩
  seen spend hs := hw.trans (h.seen spend hs)
  carried := h.carried

/-- The payment hash is all a row says about which preimage is its own. -/
theorem revealed_congr {row next : OnchainSendSwapRow} (h : next.paymentHash = row.paymentHash) :
    revealed hash next = revealed hash row := by
  funext witness
  unfold revealed
  rw [h]

/-- A push stays justified. -/
theorem Justified.later {release : Release} (h : Justified hash row release)
    (hl : Later row next) : Justified hash next release := by
  rcases h with h | ⟨hs, hc, htlc, witness, hh, hw, hr⟩
  · exact .inl (hl.refused h)
  · obtain ⟨hstate, hhtlc⟩ := hl.refunded hs
    have hp : next.paymentHash = row.paymentHash := by rw [hl.quote]
    rw [← revealed_congr hp] at hr
    exact .inr ⟨hstate, hc, htlc, witness, hhtlc.trans hh, hw, hr⟩

/-- One worker acts: the books grow, and only its own notes change. -/
theorem Inv.step (h : Inv hash v notes) (hb : Booked hash v') (hg : Grows v v')
    (hw : ∀ other ≠ worker, v'.witnesses other = v.witnesses other) (hk : Knows v' worker note) :
    Inv hash v' (Function.update notes worker note) := by
  refine ⟨hb, fun other => ?_⟩
  by_cases ho : other = worker
  · subst ho
    simpa only [Function.update_self] using hk
  · simpa only [Function.update_of_ne ho] using (h.2 other).grow hg (hw other ho)

/-- The worker learns something, and the books stay as they are. -/
theorem Inv.noted (h : Inv hash v notes) (hk : Knows v worker note) :
    Inv hash v (Function.update notes worker note) :=
  h.step h.1 ⟨.refl _, List.Subset.refl _, List.Subset.refl _⟩ (fun _ _ => rfl) hk

/-- The row is written, and the worker learns something. -/
theorem Inv.write (h : Inv hash v notes) {row : OnchainSendSwapRow} (hl : Later v.row row)
    (hs : SoundRow row) (ho : trackedRefundTxids row ⊆ v.signedRefunds)
    (hr : row.state = .refunded → v.row.state = .refunded ∨
      ∃ txid ∈ v.confirmed, txid ∈ v.signedRefunds)
    (hk : Grows v { v with row := row } → Knows { v with row := row } worker note) :
    Inv hash { v with row := row } (Function.update notes worker note) := by
  have hg : Grows v { v with row := row } := ⟨hl, List.Subset.refl _, List.Subset.refl _⟩
  refine h.step ⟨hs, fun tx ht => hl.recorded tx (h.1.fundings tx ht), ho, fun ht => ?_,
    fun release hrel => (h.1.releases release hrel).later hl⟩ hg (fun _ _ => rfl) (hk hg)
  exact (hr ht).elim h.1.refunded id

/-! ## One action -/

variable {world after : OnchainWorld} {reply : OnchainReply}

/-- What a read of the row teaches is true. -/
theorem Inv.meet (h : Inv hash v notes) : Knows v worker ((notes worker).meet v.row) := by
  have hk := h.2 worker
  refine ⟨fun tx ht => ?_, fun txid ht => ?_, hk.confirmed, hk.refused, hk.released, hk.seen, ?_⟩
  · rcases List.mem_append.mp ht with ht | ht
    · split at ht
      · exact Option.mem_toList.mp ht
      · cases ht
    · exact hk.recorded tx ht
  · rcases List.mem_append.mp ht with ht | ht
    · exact h.1.own ht
    · exact hk.own ht
  · have hbare : (decide (v.row.state = .fundingOnchain) && v.row.fundingTxid.isSome) = false := by
      by_cases hs : v.row.state = .fundingOnchain
      · rw [h.1.sound.bare (.inr (.inr hs))]
        simp
      · simp [hs]
    unfold FundingNote.meet
    dsimp only
    rw [hk.carried, hbare, Bool.false_or]

/-- A licensed transition keeps the books. -/
theorem Inv.update (h : Inv hash (view world) notes) {source target : OnchainSendSwapState}
    {columns : List OnchainColumn} {unrecorded won : Bool}
    (hm : may hash (notes worker) (.update source target columns unrecorded))
    (hp : perform worker (.update source target columns unrecorded) reply world =
      some (won, after)) :
    Inv hash (view after) (Function.update notes worker (notes worker)) := by
  have hk := h.2 worker
  obtain ⟨row, hu, -, rfl⟩ | ⟨-, rfl⟩ := perform_update hp
  · obtain ⟨-, ht⟩ := update_states hu
    obtain ⟨-, hc, -, hclose⟩ := id hm
    refine h.write (later_update hm hu) (sound_update hm hu h.1.sound) ?_ ?_
      fun hg => hk.grow hg rfl
    · by_cases hr : target = .refunded
      · obtain ⟨txid, ho, -, rfl⟩ := hclose hr
        rw [updateWhere_row onchainShape hu]
        intro other hmem
        rcases mem_trackedRefundTxids.mp hmem with hother | hother
        · cases hother
          exact hk.own ho
        · exact h.1.own (mem_trackedRefundTxids.mpr (.inr hother))
      · have hsame := update_tracked hu hc hr
        exact hsame.symm ▸ h.1.own
    · intro hr
      obtain ⟨txid, ho, hconf, -⟩ := hclose (ht.symm.trans hr)
      exact .inr ⟨txid, hk.confirmed hconf, hk.own ho⟩
  · exact h.noted hk

/-- A licensed patch keeps the books. -/
theorem Inv.patch (h : Inv hash (view world) notes) {columns : List OnchainColumn}
    {written : Except Fault Unit} (hm : ∀ column ∈ columns, MayPatch (notes worker) column)
    (hp : perform worker (.patch columns) reply world = some (written, after)) :
    Inv hash (view after) (Function.update notes worker (notes worker)) := by
  have hk := h.2 worker
  obtain ⟨fault, -, rfl⟩ | ⟨-, rfl⟩ := perform_patch hp
  · exact h.noted hk
  · have hs : (patchRow onchainShape world.clock columns world.row).state = world.row.state :=
      state_patchRow onchainShape world.clock columns world.row
    obtain ⟨hr, hq⟩ := patch_record world.clock columns world.row
    obtain ⟨ht, hv⟩ := patch_outpoint hm world.clock world.row
    refine h.write (.of_same hq hr hs ht hv) (h.1.sound.of_same hr hs ht)
      (patch_tracked hm world.clock hk.own h.1.own) (fun hrow => .inl (hs.symm.trans hrow))
      fun hg => hk.grow hg rfl

/-- Taking or freeing the lease is no business of the books. -/
theorem Inv.lease (h : Inv hash v notes) {row : OnchainSendSwapRow}
    (hrow : ∃ since updated, row = { v.row with fundStartedAt := since, updatedAt := updated }) :
    Inv hash { v with row := row } (Function.update notes worker (notes worker)) := by
  obtain ⟨since, updated, rfl⟩ := hrow
  exact h.write (.of_same rfl rfl rfl rfl rfl) (h.1.sound.of_same rfl rfl rfl) h.1.own .inl
    fun hg => (h.2 worker).grow hg rfl

/-- The record is written where there was none, in `funding_onchain` only. -/
theorem Inv.record (h : Inv hash (view world) notes) {tx : FundingTx} {won : Bool}
    (hp : perform worker (.recordFundingTx tx) reply world = some (won, after)) :
    Inv hash (view after)
      (Function.update notes worker (learn (notes worker) (.recordFundingTx tx) won)) := by
  have hk := h.2 worker
  obtain ⟨⟨hstate, hnone⟩, rfl, rfl⟩ | ⟨rfl, rfl⟩ := perform_recordFundingTx hp
  · have hl : Later world.row { world.row with fundingTx := some tx, updatedAt := world.clock } :=
      ⟨rfl, fun other ho => by simp [hnone] at ho, id, fun hs => ⟨hs, rfl⟩⟩
    refine h.write hl ⟨fun hs => ?_, h.1.sound.bare⟩ h.1.own .inl fun hg => ?_
    · have hearly : world.row.state = .quoted ∨ world.row.state = .funded ∨
          world.row.state = .refused := hs
      rw [hstate] at hearly
      exact absurd hearly (by decide)
    · have hgrown := hk.grow hg rfl
      exact ⟨fun other ho => (List.mem_cons.mp ho).elim (fun he => he ▸ rfl)
        (hgrown.recorded other), hgrown.own, hgrown.confirmed, hgrown.refused, hgrown.released,
        hgrown.seen, hgrown.carried⟩
  · exact h.noted hk

/-- A push of the lockup is justified by the notes that license it. -/
theorem Inv.release (h : Inv hash (view world) notes) {outputs : List FundedOutput}
    (hm : may hash (notes worker) (.refund outputs)) :
    Inv hash (view (world.release worker)) (Function.update notes worker (notes worker)) := by
  have hk := h.2 worker
  have hj : Justified hash world.row ⟨world.ownConfirmed, world.witnesses worker⟩ := by
    rcases hm with hm | ⟨row, hrow, hm⟩
    · exact .inl (hk.refused hm)
    · obtain ⟨hs, hstate, hhtlc, hpay⟩ := hk.released row hrow
      obtain ⟨htlc, witness, hh, hw, hr⟩ := hm hs
      have hown : world.ownConfirmed = true := by
        obtain ⟨txid, hconf, hsigned⟩ := h.1.refunded hstate
        exact List.any_eq_true.mpr ⟨txid, hconf, decide_eq_true hsigned⟩
      rw [revealed_congr hpay] at hr
      exact .inr ⟨hstate, hown, htlc, witness, hhtlc.symm.trans hh, hk.seen _ hw, hr⟩
  refine h.step ⟨h.1.sound, h.1.fundings, h.1.own, h.1.refunded, fun release hrel => ?_⟩
    ⟨.refl _, List.Subset.refl _, List.Subset.refl _⟩ (fun _ _ => rfl)
    (hk.grow ⟨.refl _, List.Subset.refl _, List.Subset.refl _⟩ rfl)
  rcases List.mem_cons.mp hrel with rfl | hrel
  · exact hj
  · exact h.1.releases release hrel

/-- A refund of the lockup, whatever it answers. -/
theorem Inv.push (h : Inv hash (view world) notes) {outputs : List FundedOutput}
    {answer : Except Fault String} (hm : may hash (notes worker) (.refund outputs))
    (hp : perform worker (.refund outputs) reply world = some (answer, after)) :
    Inv hash (view after) (Function.update notes worker (notes worker)) := by
  simp only [perform] at hp
  split at hp
  · cases hp
    exact h.release hm
  · cases hp
    split
    · exact h.release hm
    · exact h.noted (h.2 worker)

/-- The sweep's two queries tell the state of the rows they give. -/
theorem Inv.query (h : Inv hash (view world) notes) (now : ℤ) :
    Inv hash (view world) (Function.update notes worker (learn (notes worker) (.findRefundable now)
      (if findRefundable now world.row then some world.row else none))) ∧
    Inv hash (view world) (Function.update notes worker (learn (notes worker) (.findReleasable now)
      (if findReleasable now world.row then some world.row else none))) := by
  have hk := h.2 worker
  constructor
  · split
    · next hf =>
      simp only [findRefundable, Bool.and_eq_true, decide_eq_true_eq] at hf
      exact h.noted ⟨hk.recorded, hk.own, hk.confirmed, fun _ => hf.1.1, hk.released, hk.seen,
        hk.carried⟩
    · exact h.noted hk
  · split
    · next hf =>
      simp only [findReleasable, Bool.and_eq_true, decide_eq_true_eq] at hf
      refine h.noted ⟨hk.recorded, hk.own, hk.confirmed, hk.refused, fun row hrow => ?_, hk.seen,
        hk.carried⟩
      rcases List.mem_cons.mp hrow with rfl | hrow
      · exact ⟨hf.1.1, hf.1.1, rfl, rfl⟩
      · exact hk.released row hrow
    · exact h.noted hk

/-- The worker reads a spend. -/
theorem Inv.witness (h : Inv hash v notes) (spend : Option (Outpoint × List String)) :
    Inv hash { v with witnesses := Function.update v.witnesses worker spend }
      (Function.update notes worker { notes worker with seen := spend }) := by
  have hk := h.2 worker
  refine h.step ⟨h.1.sound, h.1.fundings, h.1.own, h.1.refunded, h.1.releases⟩
    ⟨.refl _, List.Subset.refl _, List.Subset.refl _⟩
    (fun other ho => Function.update_of_ne ho _ _)
    ⟨hk.recorded, hk.own, hk.confirmed, hk.refused, hk.released, fun seen hs => ?_, hk.carried⟩
  exact (Function.update_self _ _ _).trans hs

/-- A node reports a transaction confirmed. -/
theorem Inv.confirm (h : Inv hash v notes) (txid : String) :
    Inv hash { v with confirmed := txid :: v.confirmed }
      (Function.update notes worker
        { notes worker with confirmed := txid :: (notes worker).confirmed }) := by
  have hk := h.2 worker
  have hsub : v.confirmed ⊆ txid :: v.confirmed := List.subset_cons_self _ _
  refine h.step ⟨h.1.sound, h.1.fundings, h.1.own, fun hs => ?_, h.1.releases⟩
    ⟨.refl _, List.Subset.refl _, hsub⟩ (fun _ _ => rfl)
    ⟨hk.recorded, hk.own, List.cons_subset_cons txid hk.confirmed, hk.refused, hk.released, hk.seen,
      hk.carried⟩
  obtain ⟨other, hc, ho⟩ := h.1.refunded hs
  exact ⟨other, hsub hc, ho⟩

/-- The solver signs a refund of the HTLC. -/
theorem Inv.sign (h : Inv hash v notes) (txid : String) :
    Inv hash { v with signedRefunds := txid :: v.signedRefunds }
      (Function.update notes worker { notes worker with own := txid :: (notes worker).own }) := by
  have hk := h.2 worker
  have hsub : v.signedRefunds ⊆ txid :: v.signedRefunds := List.subset_cons_self _ _
  refine h.step ⟨h.1.sound, h.1.fundings, fun _ ho => hsub (h.1.own ho), fun hs => ?_, h.1.releases⟩
    ⟨.refl _, hsub, List.Subset.refl _⟩ (fun _ _ => rfl)
    ⟨hk.recorded, List.cons_subset_cons txid hk.own, hk.confirmed, hk.refused, hk.released, hk.seen,
      hk.carried⟩
  obtain ⟨other, hc, ho⟩ := h.1.refunded hs
  exact ⟨other, hc, hsub ho⟩

/-- A worker broadcasts a funding it knows recorded. -/
theorem Inv.broadcast (h : Inv hash v notes) {tx : FundingTx} (hm : tx ∈ (notes worker).recorded) :
    Inv hash { v with fundings := tx :: v.fundings }
      (Function.update notes worker (notes worker)) := by
  have hk := h.2 worker
  refine h.step ⟨h.1.sound, fun other ho => ?_, h.1.own, h.1.refunded, h.1.releases⟩
    ⟨.refl _, List.Subset.refl _, List.Subset.refl _⟩ (fun _ _ => rfl)
    ⟨hk.recorded, hk.own, hk.confirmed, hk.refused, hk.released, hk.seen, hk.carried⟩
  rcases List.mem_cons.mp ho with rfl | ho
  · exact hk.recorded _ hm
  · exact h.1.fundings other ho

/-- Every licensed action keeps the books with the notes it teaches. -/
theorem Inv.act {op : OnchainOp} {answer : op.Ans} (h : Inv hash (view world) notes)
    (hm : may hash (notes worker) op)
    (hp : perform worker op reply world = some (answer, after)) :
    Inv hash (view after) (Function.update notes worker (learn (notes worker) op answer)) := by
  have hk := h.2 worker
  -- what neither the books nor the notes record
  have hquiet : view after = view world → learn (notes worker) op answer = notes worker →
      Inv hash (view after) (Function.update notes worker (learn (notes worker) op answer)) := by
    intro hv hl
    rw [hv, hl]
    exact h.noted hk
  cases op with
  | get =>
    cases hp
    exact h.noted h.meet
  | update source target columns unrecorded => exact h.update hm hp
  | patch columns => exact h.patch hm hp
  | claimFundLease =>
    obtain ⟨since, updated, rfl⟩ := perform_claimFundLease hp
    exact h.lease ⟨since, updated, rfl⟩
  | releaseFundLease =>
    cases hp
    exact h.lease ⟨none, world.row.updatedAt, rfl⟩
  | recordFundingTx tx => exact h.record hp
  | findRefundable now =>
    cases hp
    exact (h.query now).1
  | findReleasable now =>
    cases hp
    exact (h.query now).2
  | now =>
    cases hp
    exact hquiet rfl rfl
  | boundedInputs outputs =>
    cases hp
    exact hquiet rfl rfl
  | read question =>
    cases hp
    exact hquiet rfl rfl
  | findSpendWitness txid vout =>
    simp only [perform] at hp
    split at hp
    · cases hp
      exact h.witness _
    · cases hp
      exact hquiet rfl rfl
  | transactionOutcome txid =>
    simp only [perform] at hp
    split at hp
    · cases hp
      exact h.confirm txid
    · cases hp
      exact h.noted
        ⟨hk.recorded, hk.own, hk.confirmed, hk.refused, hk.released, hk.seen, hk.carried⟩
    · next hne hnu =>
      cases hp
      refine hquiet rfl ?_
      unfold learn
      split <;> simp_all
  | signFunding address amountSats feeRate =>
    cases hp
    exact hquiet rfl rfl
  | broadcastFunding tx =>
    cases hp
    split
    · exact h.broadcast hm
    · exact h.noted hk
  | signRefund txid vout amount =>
    simp only [perform] at hp
    split at hp
    · cases hp
      exact h.sign _
    · cases hp
      exact hquiet rfl rfl
  | broadcastRefund txid =>
    cases hp
    refine hquiet ?_ rfl
    split <;> rfl
  | refund outputs => exact h.push hm hp
  | claim outputs =>
    simp only [perform] at hp
    split at hp
    · cases hp
      exact hquiet rfl rfl
    · cases hp
      refine hquiet ?_ rfl
      split <;> rfl
  | finalizePendingClaim =>
    simp only [perform] at hp
    split at hp <;> cases hp <;> exact hquiet rfl rfl
  | findClaimPreimage outpoint =>
    simp only [perform] at hp
    split at hp <;> cases hp <;> exact hquiet rfl rfl
  | findClaimPreimageAmong outpoints =>
    cases hp
    exact hquiet rfl rfl
  | claimUnrolled lockup record =>
    simp only [perform] at hp
    split at hp <;> cases hp <;> exact hquiet rfl rfl
  | takeSlot process read =>
    simp only [perform] at hp
    split at hp <;> cases hp <;> exact hquiet rfl rfl
  | freeSlot process =>
    cases hp
    exact hquiet rfl rfl

/-- The row of a fresh quote, with nothing done about it. -/
theorem inv_quoted (quote : OnchainQuoteRecord) (clock : ℕ) :
    Inv hash (view (quoted quote clock)) fun _ => .fresh :=
  ⟨⟨⟨fun _ => rfl, fun _ => rfl⟩, nofun, nofun, nofun, nofun⟩, fun worker => knows_fresh _ worker⟩

/-- The books are kept by every run. -/
def fundingProtocol (wallet : WalletCaps) (hash : String → String)
    (condition : Condition (onchainMachine wallet hash)) :
    Protocol (onchainMachine wallet hash) condition where
  discipline := fundingDiscipline hash
  inv world notes := Inv hash (view world) notes
  forget world _ worker h := h.noted (knows_fresh (view world) worker)
  act _ _ _ _ _ _ _ h hm _ hp := h.act hm hp
  stir world _ _ _ h hs := by
    cases hs
    exact h
  jobs := obeys_job_fresh wallet

/-- In every run the books are kept. -/
theorem booked_of_run {wallet : WalletCaps} {quote : OnchainQuoteRecord} {clock : ℕ}
    {events : List (Event (onchainMachine wallet hash))}
    {final : Config (onchainMachine wallet hash)}
    (hr : run (boot (quoted quote clock)) events = some final) :
    Booked hash (view final.world) := by
  obtain ⟨_, h⟩ := (fundingProtocol wallet hash anything).inv_of_run (inv_quoted quote clock)
    (permitted_anything _ events) hr
  exact h.1

/-- Whatever any number of workers broadcast to fund one row, in any order and
across any expiry of the lease, is the transaction its `funding_tx` holds. -/
theorem broadcasts_the_recorded_funding (wallet : WalletCaps) (hash : String → String)
    (quote : OnchainQuoteRecord) (clock : ℕ) (events : List (Event (onchainMachine wallet hash)))
    (final : Config (onchainMachine wallet hash))
    (hr : run (boot (quoted quote clock)) events = some final) :
    (∀ tx ∈ final.world.fundings, final.world.row.fundingTx = some tx) ∧
      ∀ tx ∈ final.world.fundings, ∀ other ∈ final.world.fundings, tx = other := by
  have hb := (booked_of_run hr).fundings
  refine ⟨hb, fun tx ht other ho => ?_⟩
  exact Option.some.inj ((hb tx ht).symm.trans (hb other ho))

/-- A run that funds its row. -/
def fundedRun : List SampleEvent := sampleAdopt ++ sampleSign ++ samplePublish

/-- Worker 0 records its funding and is held up past its lease. Worker 1, of another process,
resends the recorded transaction; then worker 0 broadcasts it too, and moves the row. -/
def resentRun : List SampleEvent :=
  sampleAdopt ++ sampleSign ++ sampleActs 0 2 ++ [sampleWait 601, sampleTick 1 1 1] ++
    sampleActs 1 4 ++ [sampleAct 1 sampleLockup] ++ sampleActs 1 1 ++ sampleActs 0 3 ++
    sampleActs 1 2

/-- Two workers broadcast across an expired lease, both the recorded funding. -/
theorem broadcasts_the_recorded_funding_sample :
    ∃ final, run (boot (quoted sampleQuote 2000000000)) resentRun = some final ∧
      final.world.fundings = [sampleFunding, sampleFunding] ∧
      (∀ tx ∈ final.world.fundings, final.world.row.fundingTx = some tx) ∧
      ∀ tx ∈ final.world.fundings, ∀ other ∈ final.world.fundings, tx = other := by
  obtain ⟨final, hr⟩ : ∃ final, run (boot (quoted sampleQuote 2000000000)) resentRun =
      some final := Option.isSome_iff_exists.mp (by decide +kernel)
  have hf : ((run (boot (quoted sampleQuote 2000000000)) resentRun).map fun final =>
      final.world.fundings) = some [sampleFunding, sampleFunding] := by decide +kernel
  rw [hr] at hf
  exact ⟨final, hr, Option.some.inj hf,
    broadcasts_the_recorded_funding sampleWallet sampleHash sampleQuote 2000000000 resentRun final
      hr⟩

/-- The automatic sweep gives the lockup back only if no funding was ever
broadcast, or after the solver's own refund confirmed and the sweep itself read
the row's HTLC as spent without the preimage. -/
theorem release_loses_no_leg (wallet : WalletCaps) (hash : String → String)
    (quote : OnchainQuoteRecord) (clock : ℕ) (events : List (Event (onchainMachine wallet hash)))
    (final : Config (onchainMachine wallet hash))
    (hr : run (boot (quoted quote clock)) events = some final) :
    ∀ release ∈ final.world.releases,
      final.world.fundings = [] ∨ RefundedFirst hash final.world.row release := by
  intro release hrel
  have hb := booked_of_run hr
  rcases hb.releases release hrel with hs | ⟨-, hj⟩
  · left
    have hnone := hb.sound.unrecorded (.inr (.inr hs))
    rw [List.eq_nil_iff_forall_not_mem]
    intro tx ht
    have hrec := hb.fundings tx ht
    rw [hnone] at hrec
    cases hrec
  · exact .inr hj

/-- The row's refund confirms; an hour later the sweep reads the HTLC spent
without the preimage and gives the lockup back. -/
def releasedRun : List SampleEvent :=
  fundedRun ++ sampleMature ++ sampleRefund "r1" ++
    sampleTick 0 0 1 :: sampleActs 0 2 ++ [sampleAct 0 { outcome := .ok .confirmed }] ++
    sampleActs 0 2 ++ [sampleWait 3600, .start 1 (OnchainJob.refundSweep)] ++ sampleActs 1 4 ++
    [sampleAct 1 { witness := .ok (some ["signature", "script"]) }, sampleAct 1 sampleLockup,
      sampleAct 1 { txid := .ok "back" }] ++ sampleActs 1 2

/-- A release after a funding. -/
theorem release_loses_no_leg_sample :
    ∃ final, run (boot (quoted sampleQuote 2000000000)) releasedRun = some final ∧
      final.world.releases ≠ [] ∧ final.world.fundings ≠ [] ∧
      ∀ release ∈ final.world.releases,
        final.world.fundings = [] ∨ RefundedFirst sampleHash final.world.row release := by
  obtain ⟨final, hr⟩ : ∃ final, run (boot (quoted sampleQuote 2000000000)) releasedRun =
      some final := Option.isSome_iff_exists.mp (by decide +kernel)
  have hf : ((run (boot (quoted sampleQuote 2000000000)) releasedRun).map fun final =>
      (final.world.releases.length, final.world.fundings.length)) = some (1, 1) := by
    decide +kernel
  rw [hr] at hf
  simp only [Option.map_some, Option.some.injEq, Prod.mk.injEq] at hf
  refine ⟨final, hr, ?_, ?_,
    release_loses_no_leg sampleWallet sampleHash sampleQuote 2000000000 releasedRun final hr⟩
  · exact List.ne_nil_of_length_pos (by omega)
  · exact List.ne_nil_of_length_pos (by omega)

end IntentSolver.OnchainFunding
