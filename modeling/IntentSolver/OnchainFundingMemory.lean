import IntentSolver.OnchainFunding

/-!
# A broadcast funding the row may forget

A funding that went out is only recoverable through the outpoint on its row.
The guarded refusal never ends a row with a recorded funding, but two plain
writes out of `funding_onchain` look at nothing but the state: the parking of a
row whose gates have closed, and the adoption of an output found on chain. Each
is decided on a copy of the row, or on what a node said of its funding, and
either may be overtaken before the write lands; so may the broadcast itself.
Where no copy is overtaken the row remembers.
-/

namespace IntentSolver.OnchainFundingMemory

open SwapStore ArkadeLockup LockupCollection WorkerProgram WorkerInterleaving
open OnchainTerms OnchainSendStore OnchainSend OnchainSendWorld OnchainSendSteps
open OnchainFundingDiscipline OnchainFunding

/-- The row carries the outpoint at which this funding pays its HTLC. -/
def carries (row : OnchainSendSwapRow) (tx : FundingTx) : Bool :=
  match fundingOutputOf tx row.toOnchainQuoteRecord with
  | .ok htlc => decide (row.fundingTxid = some htlc.txid ∧ row.fundingVout = some htlc.vout)
  | .error _ => false

/-- The row is still being funded or carries this funding's outpoint. -/
def Kept (row : OnchainSendSwapRow) (tx : FundingTx) : Prop :=
  row.state = .fundingOnchain ∨ carries row tx = true

/-- The action is not overtaken. A plain write that wins the row out of `funding_onchain`
is made off a copy no other worker's record is newer than; where it parks the row, no funding
has gone out since its writer was last told that a transaction is unknown; and a funding is
broadcast only if the row was not parked since the broadcaster last read it in
`funding_onchain`, or recorded its funding. -/
def racesNone (worker : ℕ) (world : OnchainWorld) : OnchainOp → Bool
  | .update source target _ _ =>
    decide (source ≠ .fundingOnchain ∨ world.row.state ≠ .fundingOnchain ∨ target = .refused) ||
      !world.recordedSince worker && (decide (target ≠ .stuck) || !world.sentSince worker)
  | .broadcastFunding _ => !world.parkedSince worker
  | _ => true

/-- The condition on a run. -/
def unraced (wallet : WalletCaps) (hash : String → String) :
    Condition (onchainMachine wallet hash) := fun worker op _ world =>
  racesNone worker world op = true

instance (wallet : WalletCaps) (hash : String → String) (worker : ℕ)
    (op : (onchainMachine wallet hash).Op) (reply : (onchainMachine wallet hash).Reply)
    (world : (onchainMachine wallet hash).World) :
    Decidable (unraced wallet hash worker op reply world) :=
  inferInstanceAs (Decidable (racesNone worker world op = true))

/-- The node answers `unknown` for no funding that has been broadcast. -/
def seesBroadcasts (wallet : WalletCaps) (hash : String → String) :
    Condition (onchainMachine wallet hash) := fun _ op reply world =>
  match op, reply.outcome with
  | .transactionOutcome txid, .ok .unknown => ∀ tx ∈ world.fundings, tx.txid ≠ txid
  | _, _ => True

instance (wallet : WalletCaps) (hash : String → String) (worker : ℕ)
    (op : (onchainMachine wallet hash).Op) (reply : (onchainMachine wallet hash).Reply)
    (world : (onchainMachine wallet hash).World) :
    Decidable (seesBroadcasts wallet hash worker op reply world) := by
  unfold seesBroadcasts
  split <;> infer_instance

/-! ## What a worker may rely on -/

/-- What one worker's notes promise of the row's memory. -/
structure Recalls (world : OnchainWorld) (worker : ℕ) (note : FundingNote) : Prop where
  quote : ∀ quote, note.quote = some quote → world.row.toOnchainQuoteRecord = quote
  /-- A blank copy nobody's record has overtaken is still true. -/
  blank : note.blank = true → world.recordedSince worker = false → world.row.fundingTx = none
  /-- What the node called unknown, and was not sent since, is not out. -/
  unseen : note.unseen = true → world.sentSince worker = false → world.fundings = []
  /-- What it may publish the row keeps, unless it was parked. -/
  kept : ∀ tx ∈ note.recorded, world.parkedSince worker = false → Kept world.row tx

/-- The row keeps every funding that went out. -/
structure Memory (world : OnchainWorld) (notes : ℕ → FundingNote) : Prop where
  recalls : ∀ worker, Recalls world worker (notes worker)
  remembers : ∀ tx ∈ world.fundings, Kept world.row tx

/-- The row says the same of its funding. -/
structure SameFunding (row next : OnchainSendSwapRow) : Prop where
  quote : next.toOnchainQuoteRecord = row.toOnchainQuoteRecord
  state : next.state = row.state
  record : next.fundingTx = row.fundingTx
  txid : next.fundingTxid = row.fundingTxid
  vout : next.fundingVout = row.fundingVout

variable {hash : String → String} {row next : OnchainSendSwapRow} {worker : ℕ}
  {note learned : FundingNote} {world after : OnchainWorld} {notes : ℕ → FundingNote}
  {reply : OnchainReply}

/-- Nothing asked, nothing to be mistaken about. -/
theorem recalls_fresh (world : OnchainWorld) (worker : ℕ) : Recalls world worker .fresh :=
  ⟨nofun, nofun, nofun, nofun⟩

/-- Carrying an outpoint depends on the quote and on the outpoint alone. -/
theorem carries_congr (hq : next.toOnchainQuoteRecord = row.toOnchainQuoteRecord)
    (ht : next.fundingTxid = row.fundingTxid) (hv : next.fundingVout = row.fundingVout)
    (tx : FundingTx) : carries next tx = carries row tx := by
  unfold carries
  rw [hq, ht, hv]

/-- A write that leaves the funding alone forgets nothing. -/
theorem Kept.of_same {tx : FundingTx} (h : Kept row tx) (hs : SameFunding row next) :
    Kept next tx := by
  unfold Kept
  rw [hs.state, carries_congr hs.quote hs.txid hs.vout]
  exact h

/-- Naming the outpoint of a funding makes the row carry it. -/
theorem carries_outpointColumns {tx : FundingTx} {htlc : Outpoint} {clock : ℤ}
    {target : OnchainSendSwapState}
    (ho : fundingOutputOf tx row.toOnchainQuoteRecord = .ok htlc) :
    carries (assignAll onchainShape (outpointColumns htlc)
      (onchainShape.stamp target clock row)) tx = true := by
  unfold carries
  have hq : (assignAll onchainShape (outpointColumns htlc)
      (onchainShape.stamp target clock row)).toOnchainQuoteRecord = row.toOnchainQuoteRecord := rfl
  rw [hq, ho]
  exact decide_eq_true ⟨rfl, rfl⟩

/-- A worker's notes and its copy's age are what they were, and the row says the same. -/
theorem Recalls.of_same (h : Recalls world worker note) (hs : SameFunding world.row after.row)
    (hf : after.fundings = world.fundings)
    (hr : after.recordedSince worker = world.recordedSince worker)
    (ht : after.sentSince worker = world.sentSince worker)
    (hp : after.parkedSince worker = world.parkedSince worker) :
    Recalls after worker note := by
  refine ⟨fun quote hq => hs.quote.trans (h.quote quote hq), fun hb hn => ?_, fun hu hn => ?_,
    fun tx hm hn => ?_⟩
  · rw [hs.record]
    exact h.blank hb (hr.symm.trans hn)
  · rw [hf]
    exact h.unseen hu (ht.symm.trans hn)
  · exact (h.kept tx hm (hp.symm.trans hn)).of_same hs

/-- Notes that agree on the funding promise the same. -/
theorem Recalls.congr (h : Recalls world worker note) (hq : learned.quote = note.quote)
    (hb : learned.blank = note.blank) (hu : learned.unseen = note.unseen)
    (hr : learned.recorded = note.recorded) : Recalls world worker learned := by
  refine ⟨?_, ?_, ?_, ?_⟩
  · rw [hq]
    exact h.quote
  · rw [hb]
    exact h.blank
  · rw [hu]
    exact h.unseen
  · rw [hr]
    exact h.kept

/-- One worker acts: the others' promises, and its own. -/
theorem Memory.step (hr : ∀ other, other ≠ worker → Recalls after other (notes other))
    (hw : Recalls after worker learned) (hm : ∀ tx ∈ after.fundings, Kept after.row tx) :
    Memory after (Function.update notes worker learned) := by
  refine ⟨fun other => ?_, hm⟩
  by_cases ho : other = worker
  · rw [ho, Function.update_self]
    exact hw
  · rw [Function.update_of_ne ho]
    exact hr other ho

/-! ## One action -/

/-- What an answer about anything else teaches is nothing about the funding. -/
theorem learn_unmarked {op : OnchainOp} (answer : op.Ans) (hm : marks op = false) :
    (learn note op answer).quote = note.quote ∧ (learn note op answer).blank = note.blank ∧
      (learn note op answer).unseen = note.unseen ∧
      (learn note op answer).recorded = note.recorded := by
  unfold learn
  split <;> first | exact ⟨rfl, rfl, rfl, rfl⟩ | cases hm

/-- An action that ages no copy and leaves the row's funding alone. -/
theorem Memory.unmarked (h : Memory world notes) {op : OnchainOp} {answer : op.Ans}
    (hm : marks op = false) (hf : funds op = false)
    (hp : perform worker op reply world = some (answer, after))
    (hs : SameFunding world.row after.row) :
    Memory after (Function.update notes worker (learn (notes worker) op answer)) := by
  obtain ⟨hrecorded, hsent, hparked⟩ := perform_marks hm hp
  have hfundings := perform_fundings hf hp
  have hall : ∀ other, Recalls after other (notes other) := fun other =>
    (h.recalls other).of_same hs hfundings (congrFun hrecorded other) (congrFun hsent other)
      (congrFun hparked other)
  obtain ⟨hq, hb, hu, hr⟩ := @learn_unmarked (notes worker) op answer hm
  refine Memory.step (fun other _ => hall other) ((hall worker).congr hq hb hu hr) fun tx ht => ?_
  rw [hfundings] at ht
  exact (h.remembers tx ht).of_same hs

/-- The worker reads the row. -/
theorem Memory.look (h : Memory world notes) :
    Memory (world.look worker) (Function.update notes worker ((notes worker).meet world.row)) := by
  have hsame : SameFunding world.row (world.look worker).row := ⟨rfl, rfl, rfl, rfl, rfl⟩
  refine Memory.step (fun other ho => ?_) ⟨?_, fun hb _ => ?_, nofun, fun tx hm hp => ?_⟩
    h.remembers
  · refine (h.recalls other).of_same hsame rfl (Function.update_of_ne ho _ _) rfl ?_
    unfold OnchainWorld.look
    dsimp only
    split
    · exact Function.update_of_ne ho _ _
    · rfl
  · rintro _ ⟨⟩
    rfl
  · have hblank : world.row.fundingTx = none := by simpa [FundingNote.meet] using hb
    exact hblank
  · by_cases hs : world.row.state = .fundingOnchain
    · exact .inl hs
    · simp only [FundingNote.meet, if_neg hs, List.nil_append] at hm
      simp only [OnchainWorld.look, if_neg hs] at hp
      exact (h.recalls worker).kept tx hm hp

/-- The only ways out of `funding_onchain`. -/
theorem edge_fundingOnchain {target : OnchainSendSwapState}
    (h : target ∈ (OnchainSendMachine .fundingOnchain).edges) :
    target = .awaitingClaim ∨ target = .refused ∨ target = .stuck := by
  revert h
  cases target <;> decide

section Update

variable {source target : OnchainSendSwapState} {columns : List OnchainColumn} {unrecorded : Bool}

/-- A transition that parks nothing keeps the recorded funding the row kept. -/
theorem Kept.update (hi : Inv hash (view world) notes) (h : Recalls world worker (notes worker))
    (hm : may hash (notes worker) (.update source target columns unrecorded))
    (hc : racesNone worker world (.update source target columns unrecorded) = true)
    (hu : updateWhere onchainShape world.clock source target columns (updateGuard unrecorded)
      world.row = some next)
    (hpark : ¬(source = .fundingOnchain ∧ target = .stuck)) {tx : FundingTx}
    (hrec : world.row.fundingTx = some tx) (hk : Kept world.row tx) : Kept next tx := by
  obtain ⟨hs, ht⟩ := update_states hu
  obtain ⟨hr, hq⟩ := update_record hu
  by_cases hf : source = .fundingOnchain
  · subst hf
    rcases edge_fundingOnchain hm.1 with rfl | rfl | rfl
    · right
      have hunrecorded : world.recordedSince worker = false := by
        simpa [racesNone, hs] using hc
      rcases (hm.2.2.1 rfl).2.2 rfl with
        ⟨htlc, rfl, hblank | ⟨other, hmem, quote, hquote, ho⟩⟩ | hcarried
      · have hnone := h.blank hblank hunrecorded
        rw [hrec] at hnone
        cases hnone
      · have hsame : world.row.fundingTx = some other := (hi.2 worker).recorded other hmem
        obtain rfl : tx = other := Option.some.inj (hrec.symm.trans hsame)
        rw [← h.quote quote hquote] at ho
        rw [updateWhere_row onchainShape hu]
        exact carries_outpointColumns ho
      · have hnot := (hi.2 worker).carried
        rw [hcarried] at hnot
        cases hnot
    · -- the guard has found no recorded funding
      have hnone : next.fundingTx = none :=
        (sound_update hm hu hi.1.sound).unrecorded (.inr (.inr ht))
      rw [hr, hrec] at hnone
      cases hnone
    · exact absurd ⟨rfl, rfl⟩ hpark
  · obtain ⟨htxid, hvout⟩ := update_outpoint hu hm.2.1 hf
    right
    rw [carries_congr hq htxid hvout]
    exact hk.resolve_left fun hstate => hf (hs.symm.trans hstate)

/-- Nothing is out when a worker parks the row. -/
theorem unsent_of_park (hi : Inv hash (view world) notes)
    (h : Recalls world worker (notes worker))
    (hm : may hash (notes worker) (.update .fundingOnchain .stuck columns unrecorded))
    (hc : racesNone worker world (.update .fundingOnchain .stuck columns unrecorded) = true)
    (hs : world.row.state = .fundingOnchain) : world.fundings = [] := by
  obtain ⟨hrecorded, hsent⟩ : world.recordedSince worker = false ∧
      world.sentSince worker = false := by
    simpa [racesNone, hs] using hc
  rcases (hm.2.2.1 rfl).2.1 rfl with hblank | hunseen
  · have hnone := h.blank hblank hrecorded
    rw [List.eq_nil_iff_forall_not_mem]
    intro tx ht
    have hrec : world.row.fundingTx = some tx := hi.1.fundings tx ht
    rw [hnone] at hrec
    cases hrec
  · exact h.unseen hunseen hsent

/-- A licensed transition that is not overtaken forgets no funding. -/
theorem Memory.update (h : Memory world notes) (hi : Inv hash (view world) notes) {won : Bool}
    (hm : may hash (notes worker) (.update source target columns unrecorded))
    (hc : racesNone worker world (.update source target columns unrecorded) = true)
    (hp : perform worker (.update source target columns unrecorded) reply world =
      some (won, after)) :
    Memory after (Function.update notes worker (notes worker)) := by
  rw [Function.update_eq_self]
  obtain ⟨row, hu, -, rfl⟩ | ⟨-, rfl⟩ := perform_update hp
  · obtain ⟨hs, ht⟩ := update_states hu
    obtain ⟨hr, hq⟩ := update_record hu
    have hrow : (world.move source target row).row = row := rfl
    have hkept : ¬(source = .fundingOnchain ∧ target = .stuck) → ∀ tx,
        world.row.fundingTx = some tx → Kept world.row tx → Kept row tx := fun hpark _ =>
      Kept.update hi (h.recalls worker) hm hc hu hpark
    refine ⟨fun other => ?_, fun tx htx => ?_⟩
    · have hk := h.recalls other
      refine ⟨fun quote hquote => hq.trans (hk.quote quote hquote), fun hb hn => ?_, hk.unseen,
        fun tx hmem hn => ?_⟩
      · exact hr.trans (hk.blank hb hn)
      · by_cases hpark : source = .fundingOnchain ∧ target = .stuck
        · simp [OnchainWorld.move, hpark] at hn
        · simp only [OnchainWorld.move, if_neg hpark] at hn
          exact hkept hpark tx ((hi.2 other).recorded tx hmem) (hk.kept tx hmem hn)
    · by_cases hpark : source = .fundingOnchain ∧ target = .stuck
      · obtain ⟨rfl, rfl⟩ := hpark
        have hnone := unsent_of_park hi (h.recalls worker) hm hc hs
        have hout : tx ∈ world.fundings := htx
        rw [hnone] at hout
        cases hout
      · exact hkept hpark tx (hi.1.fundings tx htx) (h.remembers tx htx)
  · exact h

end Update

/-- The record is written where there was none: the copies of the others are overtaken. -/
theorem Memory.record (h : Memory world notes) {tx : FundingTx} {won : Bool}
    (hp : perform worker (.recordFundingTx tx) reply world = some (won, after)) :
    Memory after
      (Function.update notes worker (learn (notes worker) (.recordFundingTx tx) won)) := by
  obtain ⟨⟨hstate, -⟩, rfl, rfl⟩ | ⟨rfl, rfl⟩ := perform_recordFundingTx hp
  · refine Memory.step (fun other ho => ?_)
      ⟨(h.recalls worker).quote, fun hb => absurd hb Bool.false_ne_true,
        (h.recalls worker).unseen, fun _ _ _ => .inl hstate⟩ fun _ _ => .inl hstate
    have hk := h.recalls other
    refine ⟨hk.quote, fun _ hn => ?_, hk.unseen, fun _ _ _ => .inl hstate⟩
    simp [OnchainWorld.record, ho] at hn
  · rw [show learn (notes worker) (.recordFundingTx tx) false = notes worker from rfl,
      Function.update_eq_self]
    exact h

/-- A funding goes out while the row keeps it. -/
theorem Memory.fund (h : Memory world notes) {tx : FundingTx} (hm : tx ∈ (notes worker).recorded)
    (hc : world.parkedSince worker = false) :
    Memory (world.fund tx) (Function.update notes worker (notes worker)) := by
  rw [Function.update_eq_self]
  refine ⟨fun other => ?_, fun other ho => ?_⟩
  · have hk := h.recalls other
    exact ⟨hk.quote, hk.blank, nofun, hk.kept⟩
  · rcases List.mem_cons.mp ho with rfl | ho
    · exact (h.recalls worker).kept _ hm hc
    · exact h.remembers other ho

/-- A node calls a transaction unknown: none of the row's fundings is out under that name. -/
theorem Memory.miss (h : Memory world notes) (hi : Inv hash (view world) notes) {txid : String}
    (hc : ∀ tx ∈ world.fundings, tx.txid ≠ txid) :
    Memory (world.miss worker) (Function.update notes worker
      (learn (notes worker) (.transactionOutcome txid) (.ok .unknown))) := by
  have hk := h.recalls worker
  refine Memory.step (fun other ho => ?_) ⟨hk.quote, hk.blank, fun hu _ => ?_, hk.kept⟩ h.remembers
  · exact (h.recalls other).of_same ⟨rfl, rfl, rfl, rfl, rfl⟩ rfl rfl
      (Function.update_of_ne ho _ _) rfl
  · obtain ⟨tx, hmem, heq⟩ := List.any_eq_true.mp hu
    have htxid : tx.txid = txid := of_decide_eq_true heq
    refine List.eq_nil_iff_forall_not_mem.mpr fun other hout => ?_
    -- Whatever is out is what the row records.
    have hrow : world.row.fundingTx = some other := hi.1.fundings other hout
    obtain rfl : tx = other :=
      Option.some.inj (((hi.2 worker).recorded tx hmem).symm.trans hrow)
    exact hc tx hout htxid

/-- Every licensed action that is not overtaken forgets no funding. -/
theorem Memory.act {wallet : WalletCaps} {op : OnchainOp} {answer : op.Ans}
    (h : Memory world notes) (hi : Inv hash (view world) notes) (hm : may hash (notes worker) op)
    (hb : seesBroadcasts wallet hash worker op reply world)
    (hc : racesNone worker world op = true)
    (hp : perform worker op reply world = some (answer, after)) :
    Memory after (Function.update notes worker (learn (notes worker) op answer)) := by
  cases op with
  | get =>
    cases hp
    exact h.look
  | update source target columns unrecorded => exact h.update hi hm hc hp
  | recordFundingTx tx => exact h.record hp
  | broadcastFunding tx =>
    cases hp
    split
    · exact h.fund hm (by simpa [racesNone] using hc)
    · exact Memory.step (fun other _ => h.recalls other) (h.recalls worker) h.remembers
  | transactionOutcome txid =>
    simp only [perform] at hp
    split at hp
    · cases hp
      have hall : ∀ other, Recalls { world with confirmed := txid :: world.confirmed } other
          (notes other) := fun other =>
        (h.recalls other).of_same ⟨rfl, rfl, rfl, rfl, rfl⟩ rfl rfl rfl rfl
      exact Memory.step (fun other _ => hall other) ((hall worker).congr rfl rfl rfl rfl)
        h.remembers
    · next ho =>
      cases hp
      have hunknown : ∀ tx ∈ world.fundings, tx.txid ≠ txid := by
        simpa [seesBroadcasts, ho] using hb
      exact h.miss hi hunknown
    · next hne hnu =>
      cases hp
      have hl : learn (notes worker) (.transactionOutcome txid) reply.outcome = notes worker := by
        unfold learn
        split <;> simp_all
      rw [hl]
      exact Memory.step (fun other _ => h.recalls other) (h.recalls worker) h.remembers
  | patch columns =>
    refine h.unmarked rfl rfl hp ?_
    obtain ⟨fault, -, rfl⟩ | ⟨-, rfl⟩ := perform_patch hp
    · exact ⟨rfl, rfl, rfl, rfl, rfl⟩
    · obtain ⟨hr, hq⟩ := patch_record world.clock columns world.row
      obtain ⟨ht, hv⟩ := patch_outpoint hm world.clock world.row
      exact ⟨hq, state_patchRow onchainShape world.clock columns world.row, hr, ht, hv⟩
  | claimFundLease =>
    refine h.unmarked rfl rfl hp ?_
    obtain ⟨since, updated, rfl⟩ := perform_claimFundLease hp
    exact ⟨rfl, rfl, rfl, rfl, rfl⟩
  | releaseFundLease =>
    refine h.unmarked rfl rfl hp ?_
    cases hp
    exact ⟨rfl, rfl, rfl, rfl, rfl⟩
  | _ =>
    refine h.unmarked rfl rfl hp ?_
    rw [perform_row rfl hp]
    exact ⟨rfl, rfl, rfl, rfl, rfl⟩

/-- The books and the memory of every run in which nobody is overtaken. -/
def memoryProtocol (wallet : WalletCaps) (hash : String → String) :
    Protocol (onchainMachine wallet hash) fun worker op reply world =>
      seesBroadcasts wallet hash worker op reply world ∧
        unraced wallet hash worker op reply world where
  discipline := fundingDiscipline hash
  inv world notes := Inv hash (view world) notes ∧ Memory world notes
  forget world notes worker h :=
    ⟨h.1.noted (knows_fresh (view world) worker),
      Memory.step (fun other _ => h.2.recalls other) (recalls_fresh world worker) h.2.remembers⟩
  act _ _ _ _ _ _ _ h hm hc hp := ⟨h.1.act hm hp, h.2.act h.1 hm hc.1 hc.2 hp⟩
  stir world notes _ _ h hs := by
    cases hs
    refine ⟨h.1, fun worker => ?_, h.2.remembers⟩
    have hk := h.2.recalls worker
    exact ⟨hk.quote, hk.blank, hk.unseen, hk.kept⟩
  jobs := obeys_job_fresh wallet

/-- In every run in which the node knows every funding that was broadcast and no plain write
and no broadcast is overtaken, a row whose recorded funding is out is still in
`funding_onchain` or carries its outpoint; so it never ends `stuck` or `refused` without
one. -/
theorem broadcast_funding_is_remembered (wallet : WalletCaps) (hash : String → String)
    (quote : OnchainQuoteRecord) (clock : ℕ) (events : List (Event (onchainMachine wallet hash)))
    (final : Config (onchainMachine wallet hash))
    (hr : run (boot (quoted quote clock)) events = some final)
    (hb : Permitted (seesBroadcasts wallet hash) (boot (quoted quote clock)) events)
    (hp : Permitted (unraced wallet hash) (boot (quoted quote clock)) events) :
    ∀ tx ∈ final.world.fundings, final.world.row.fundingTx = some tx ∧
      (final.world.row.state = .fundingOnchain ∨ carries final.world.row tx = true) ∧
      (final.world.row.state = .stuck ∨ final.world.row.state = .refused →
        final.world.row.fundingTxid ≠ none) := by
  have hstart : Memory (quoted quote clock) fun _ => (fundingDiscipline hash).fresh :=
    ⟨fun worker => recalls_fresh _ worker, nofun⟩
  obtain ⟨_, hi, hm⟩ := (memoryProtocol wallet hash).inv_of_run
    ⟨inv_quoted quote clock, hstart⟩ (hb.and hp) hr
  intro tx ht
  have hkept := hm.remembers tx ht
  refine ⟨hi.1.fundings tx ht, hkept, fun hs hnone => ?_⟩
  rcases hkept with hstate | hcarries
  · rw [hstate] at hs
    exact hs.elim nofun nofun
  · unfold carries at hcarries
    rw [hnone] at hcarries
    split at hcarries
    · simp at hcarries
    · cases hcarries

/-- Worker 0 signs shortly before the gate closes and is held up past the
lease. Worker 1, of another process, reads the row unfunded, finds no output
and takes the expired lease. Worker 0 records and broadcasts; then worker 1
finds the gate closed and parks the row. -/
def forgottenRun : List SampleEvent :=
  sampleAdopt ++ [sampleWait 7800] ++ sampleSign ++ [sampleWait 601, sampleTick 1 1 1] ++
    sampleActs 1 4 ++ sampleActs 0 3 ++ sampleActs 1 2

/-- The row is parked without the outpoint of the funding that went out,
although every broadcast funding is seen by the node. -/
theorem parks_a_broadcast_funding :
    Permitted (seesBroadcasts sampleWallet sampleHash) (boot (quoted sampleQuote 2000000000))
      forgottenRun ∧
    ((run (boot (quoted sampleQuote 2000000000)) forgottenRun).map fun final =>
      (final.world.row.state, final.world.row.fundingTxid, final.world.row.fundingTx,
        final.world.fundings)) =
      some (.stuck, none, some sampleFunding, [sampleFunding]) := by
  constructor
  · decide
  · decide

/-- Two workers resend the recorded funding, neither overtaken: the row carries its outpoint. -/
theorem broadcast_funding_is_remembered_sample :
    ∃ final, run (boot (quoted sampleQuote 2000000000)) resentRun = some final ∧
      final.world.fundings = [sampleFunding, sampleFunding] ∧
      Permitted (unraced sampleWallet sampleHash) (boot (quoted sampleQuote 2000000000))
        resentRun ∧
      ∀ tx ∈ final.world.fundings, final.world.row.fundingTx = some tx ∧
        (final.world.row.state = .fundingOnchain ∨ carries final.world.row tx = true) ∧
        (final.world.row.state = .stuck ∨ final.world.row.state = .refused →
          final.world.row.fundingTxid ≠ none) := by
  obtain ⟨final, hr⟩ : ∃ final, run (boot (quoted sampleQuote 2000000000)) resentRun =
      some final := Option.isSome_iff_exists.mp (by decide +kernel)
  have hf : ((run (boot (quoted sampleQuote 2000000000)) resentRun).map fun final =>
      final.world.fundings) = some [sampleFunding, sampleFunding] := by decide +kernel
  have hb : Permitted (seesBroadcasts sampleWallet sampleHash)
      (boot (quoted sampleQuote 2000000000)) resentRun := by decide +kernel
  have hp : Permitted (unraced sampleWallet sampleHash) (boot (quoted sampleQuote 2000000000))
      resentRun := by decide +kernel
  rw [hr] at hf
  exact ⟨final, hr, Option.some.inj hf, hp, broadcast_funding_is_remembered sampleWallet sampleHash
    sampleQuote 2000000000 resentRun final hr hb hp⟩

end IntentSolver.OnchainFundingMemory
