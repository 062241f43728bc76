import IntentSolver.OnchainSendSteps

/-!
# What an onchain worker may do about a funding

A worker broadcasts only a funding it recorded itself or read recorded, leaves
`funding_onchain` for `refused` only with the guard that no funding is
recorded, parks a row there only off a copy without a funding or one whose
funding a node has called unknown, adopts an outpoint only off a copy without a
funding or the recorded one, closes a row only on a tracked refund it was told is confirmed, and
pushes the lockup back only off a row the sweep's own queries gave it: a
refused one, or a refunded one whose HTLC it has just read as spent by
something that is no claim. Every job obeys.
-/

namespace IntentSolver.OnchainFundingDiscipline

open SwapStore ArkadeLockup LockupCollection WorkerProgram WorkerInterleaving
open OnchainTerms OnchainSendStore OnchainSend OnchainSendWorld OnchainSendSteps

/-- What a worker remembers of the row's funding and of its refunds. -/
structure FundingNote where
  /-- Fundings it recorded itself or read recorded in `funding_onchain`. -/
  recorded : List FundingTx
  /-- What the row it read was quoted. -/
  quote : Option OnchainQuoteRecord
  /-- The row it last read had no funding, and it has recorded none since. -/
  blank : Bool
  /-- The last transaction a node called unknown to it was a recorded funding. -/
  unseen : Bool
  /-- Refunds of the HTLC it signed itself or read tracked. -/
  own : List String
  /-- Transactions it was told are confirmed. -/
  confirmed : List String
  /-- It was given the row as refused. -/
  refused : Bool
  /-- The row as `findReleasable` gave it. -/
  released : List OnchainSendSwapRow
  /-- The last spend it read, and of which output. -/
  seen : Option (Outpoint × List String)
  /-- It read the row in `funding_onchain` with a funding txid. -/
  carried : Bool

namespace FundingNote

/-- Nothing asked yet. -/
def fresh : FundingNote := ⟨[], none, false, false, [], [], false, [], none, false⟩

/-- What a read of the row adds. -/
def meet (note : FundingNote) (row : OnchainSendSwapRow) : FundingNote :=
  { note with
    recorded := (if row.state = .fundingOnchain then row.fundingTx.toList else []) ++ note.recorded
    quote := some row.toOnchainQuoteRecord
    blank := row.fundingTx.isNone
    unseen := false
    own := trackedRefundTxids row ++ note.own
    carried := note.carried || (decide (row.state = .fundingOnchain) && row.fundingTxid.isSome) }

end FundingNote

/-- The columns `enterAwaitingClaim` writes. -/
def outpointColumns (htlc : Outpoint) : List OnchainColumn :=
  [.fundingTxid htlc.txid, .fundingVout htlc.vout]

/-- The sweep has read a spend of the row's HTLC that is no client claim. -/
def Final (hash : String → String) (note : FundingNote) (row : OnchainSendSwapRow) : Prop :=
  ∃ htlc witness, htlcOf row = some htlc ∧ note.seen = some (htlc, witness) ∧
    revealed hash row witness = none

/-- The worker knows this for the outpoint of a recorded funding. -/
def Published (note : FundingNote) (htlc : Outpoint) : Prop :=
  ∃ tx ∈ note.recorded, ∃ quote, note.quote = some quote ∧ fundingOutputOf tx quote = .ok htlc

/-- A write out of `funding_onchain`: a refusal looks for a recorded funding, a row is
parked off a blank copy or one whose funding is unknown, and the move to `awaiting_claim`
names an outpoint, found off a blank copy or the recorded one, unless one was there. -/
def MayLeaveFunding (note : FundingNote) (target : OnchainSendSwapState)
    (columns : List OnchainColumn) (unrecorded : Bool) : Prop :=
  (target = .refused → unrecorded = true) ∧
    (target = .stuck → note.blank = true ∨ note.unseen = true) ∧
    (target = .awaitingClaim →
      (∃ htlc, columns = outpointColumns htlc ∧ (note.blank = true ∨ Published note htlc)) ∨
        note.carried = true)

/-- A patch of this column invents no refund of the solver's own. -/
def MayPatch (note : FundingNote) : OnchainColumn → Prop
  | .onchainRefundTxid txid => txid ∈ note.own
  | .onchainRefundPriorTxids txids => txids ⊆ note.own
  | .fundingTxid _ => False
  | .fundingVout _ => False
  | _ => True

/-- What the notes license. -/
def may (hash : String → String) (note : FundingNote) : OnchainOp → Prop
  | .update source target columns unrecorded =>
    target ∈ (OnchainSendMachine source).edges ∧
      (∀ column ∈ columns, benign source target column = true) ∧
      (source = .fundingOnchain → MayLeaveFunding note target columns unrecorded) ∧
      (target = .refunded → ∃ txid ∈ note.own, txid ∈ note.confirmed ∧
        columns = [.onchainRefundTxid txid])
  | .patch columns => ∀ column ∈ columns, MayPatch note column
  | .broadcastFunding tx => tx ∈ note.recorded
  | .refund _ => note.refused = true ∨
      ∃ row ∈ note.released, row.state = .refunded → Final hash note row
  | _ => True

/-- What an answer adds to the notes. -/
def learn (note : FundingNote) : (op : OnchainOp) → op.Ans → FundingNote
  | .get, row => note.meet row
  | .findRefundable _, some _ => { note with refused := true }
  | .findReleasable _, some row => { note with released := row :: note.released }
  | .findSpendWitness txid vout, .ok witness =>
    { note with seen := witness.map fun spend => (⟨txid, vout⟩, spend) }
  | .transactionOutcome txid, .ok .confirmed => { note with confirmed := txid :: note.confirmed }
  | .transactionOutcome txid, .ok .unknown =>
    { note with unseen := note.recorded.any fun tx => decide (tx.txid = txid) }
  | .signRefund _ _ _, .ok txid => { note with own := txid :: note.own }
  | .recordFundingTx tx, true => { note with recorded := tx :: note.recorded, blank := false }
  | _, _ => note

/-- Broadcast only what is recorded, close only on a confirmed refund, and give
back only what no funding stands against. -/
def fundingDiscipline (hash : String → String) : Discipline OnchainOp.Ans where
  Note := FundingNote
  fresh := .fresh
  may := may hash
  learn := learn

variable {hash : String → String} {note : FundingNote}

/-- What any patch may write, this one may. -/
theorem mayPatch_of_ordinary {column : OnchainColumn} (h : ordinary column = true) :
    MayPatch note column := by
  cases column <;> first | exact trivial | exact absurd h Bool.false_ne_true

/-- Everything but the fundings and refunds of the row is free. -/
theorem freeOps : FreeOps (fundingDiscipline hash) fun source =>
    decide (source = .fundingOnchain ∨ source = .refundingOnchain) where
  get := Discipline.free_issue fun _ => trivial
  claimFundLease := Discipline.free_issue fun _ => trivial
  releaseFundLease := Discipline.free_issue fun _ => trivial
  findRefundable _ := Discipline.free_issue fun _ => trivial
  findReleasable _ := Discipline.free_issue fun _ => trivial
  now := Discipline.free_issue fun _ => trivial
  boundedInputs _ := Discipline.free_issue fun _ => trivial
  read _ := Discipline.free_issue fun _ => trivial
  findSpendWitness _ _ := Discipline.free_issue fun _ => trivial
  transactionOutcome _ := Discipline.free_issue fun _ => trivial
  signFunding _ _ _ := Discipline.free_issue fun _ => trivial
  update source target columns unrecorded hs he hc := Discipline.free_issue fun note => by
    have hsource : ¬(source = .fundingOnchain ∨ source = .refundingOnchain) := by simpa using hs
    refine ⟨he, fun column hm => (hc column hm).2, fun h => ?_, fun h => ?_⟩
    · exact absurd (.inl h) hsource
    · subst h
      cases source <;> simp_all [OnchainSendMachine]
  patch columns hc := Discipline.free_issue fun _ column hm => mayPatch_of_ordinary (hc column hm)

/-- Knowledge only grows, but for the last spend read. -/
theorem learn_grows (note : FundingNote) (op : OnchainOp) (answer : op.Ans) :
    note.recorded ⊆ (learn note op answer).recorded ∧ note.own ⊆ (learn note op answer).own ∧
      (note.refused = true → (learn note op answer).refused = true) ∧
      note.released ⊆ (learn note op answer).released := by
  unfold learn
  split <;> simp_all [FundingNote.meet]

/-! ## Funding -/

/-- A licensed write out of `funding_onchain`. -/
theorem obeys_leaveFunding {target : OnchainSendSwapState} {columns : List OnchainColumn}
    {unrecorded : Bool} (hc : ∀ column ∈ columns, benign .fundingOnchain target column = true)
    (hl : MayLeaveFunding note target columns unrecorded) :
    (fundingDiscipline hash).Obeys note
      (SwapStore.transition onchainShape (fun s t c => issue (.update s t c unrecorded))
        .fundingOnchain target columns) fun _ _ => True := by
  apply obeys_transition_checked onchainShape
  intro he _
  refine ⟨⟨he, hc, fun _ => hl, fun ht => ?_⟩, fun _ => trivial⟩
  subst ht
  simp [onchainShape, OnchainSendMachine] at he

/-- Leaving `funding_onchain` for a human. -/
theorem obeys_park (reason : String) (hn : note.blank = true ∨ note.unseen = true) :
    (fundingDiscipline hash).Obeys note (failStep .fundingOnchain reason) fun _ _ => True := by
  have hl : MayLeaveFunding note .stuck [.failureReason reason] false :=
    ⟨nofun, fun _ => hn, nofun⟩
  have hf : (fundingDiscipline hash).Obeys note (fail .fundingOnchain reason) fun _ _ => True :=
    (obeys_leaveFunding (by simp [benign]) hl).bind fun _ _ _ => trivial
  exact hf.bind fun _ _ _ => trivial

/-- Recording where the HTLC was found, or where the recorded funding pays it. -/
theorem obeys_enterAwaitingClaim {htlc : Outpoint}
    (hn : note.blank = true ∨ Published note htlc) :
    (fundingDiscipline hash).Obeys note (enterAwaitingClaim htlc) fun _ _ => True :=
  obeys_leaveFunding (by simp [benign]) ⟨nofun, nofun, fun _ => .inl ⟨htlc, rfl, hn⟩⟩

/-- A recovered row is parked, a fresh one refused under the guard. -/
theorem obeys_refuseFunding (fresh : Bool) (reason : String)
    (hn : fresh = false → note.blank = true) :
    (fundingDiscipline hash).Obeys note (refuseFunding fresh reason) fun _ _ => True := by
  unfold refuseFunding
  split
  · next hf => exact obeys_park reason (.inl (hn (by simpa using hf)))
  · have hu : (fundingDiscipline hash).Free (refuseUnrecorded reason) := fun _ =>
      obeys_leaveFunding (by simp [benign]) ⟨fun _ => rfl, nofun, nofun⟩
    refine (hu note).bind fun won after _ => ?_
    split
    · exact (freeOps.releaseFundLease after).bind fun _ _ _ => trivial
    · trivial

/-- An outpoint of a funding names it. -/
theorem txid_of_fundingOutputOf {tx : FundingTx} {quote : OnchainQuoteRecord} {htlc : Outpoint}
    (h : fundingOutputOf tx quote = .ok htlc) : htlc.txid = tx.txid := by
  unfold fundingOutputOf at h
  split at h <;> cases h
  rfl

/-- The first look at the node: a funding it calls unknown is unseen. -/
def Redriven (tx : FundingTx) (quote : OnchainQuoteRecord) (note : FundingNote) : Prop :=
  tx ∈ note.recorded ∧ note.quote = some quote ∧ note.unseen = true

/-- A recorded funding may be published. -/
theorem obeys_publishFunding (deps : OnchainDeps hash) (row : OnchainSendSwapRow)
    {tx : FundingTx} (recheck : Bool) (hn : tx ∈ note.recorded)
    (hq : note.quote = some row.toOnchainQuoteRecord) :
    (fundingDiscipline hash).Obeys note (publishFunding deps row tx recheck) fun _ _ => True := by
  have hnow : (fundingDiscipline hash).Steady (Redriven tx row.toOnchainQuoteRecord)
      (issue .now) := fun _ hr => ⟨trivial, fun _ => hr⟩
  have hread : ∀ question, (fundingDiscipline hash).Steady
      (Redriven tx row.toOnchainQuoteRecord) (issue (.read question)) :=
    fun _ _ hr => ⟨trivial, fun _ => hr⟩
  unfold publishFunding
  cases ho : fundingOutputOf tx row.toOnchainQuoteRecord with
  | error fault => trivial
  | ok htlc =>
    have hpublished : Published note htlc := ⟨tx, hn, _, hq, ho⟩
    refine Discipline.obeys_issue_bind.mpr ⟨trivial, fun answer => ?_⟩
    cases answer with
    | error fault => trivial
    | ok outcome =>
      cases outcome with
      | confirmed => exact obeys_enterAwaitingClaim (.inr hpublished)
      | mempool => exact obeys_enterAwaitingClaim (.inr hpublished)
      | unknown =>
        have hunseen : note.recorded.any (fun tx => decide (tx.txid = htlc.txid)) = true :=
          List.any_eq_true.mpr ⟨tx, hn, decide_eq_true (txid_of_fundingOutputOf ho).symm⟩
        refine (steady_redriveRefusal hnow hread deps row recheck).obeys_bind ⟨hn, hq, hunseen⟩
          fun refusal asked ha => ?_
        obtain ⟨hmem, hquote, hseen⟩ := ha
        cases refusal with
        | some reason => exact obeys_park _ (.inr hseen)
        | none =>
          refine Discipline.obeys_issue_bind.mpr ⟨hmem, fun answer => ?_⟩
          refine (Discipline.quiet_ofExcept _).obeys_bind fun _ => ?_
          exact obeys_enterAwaitingClaim (.inr ⟨tx, hmem, _, hquote, ho⟩)

/-- The worker that won the record publishes what it recorded. -/
theorem obeys_recordAndPublish (deps : OnchainDeps hash) (row : OnchainSendSwapRow)
    (tx : FundingTx) (hq : note.quote = some row.toOnchainQuoteRecord) :
    (fundingDiscipline hash).Obeys note (recordAndPublish deps row tx) fun _ _ => True := by
  refine Discipline.obeys_issue_bind.mpr ⟨trivial, fun recorded => ?_⟩
  cases recorded with
  | false => trivial
  | true => exact obeys_publishFunding deps row false List.mem_cons_self hq

/-- The worker knows what the row was quoted, and read it without a funding unless it
entered `funding_onchain` itself. -/
def Submits (row : OnchainSendSwapRow) (fresh : Bool) (note : FundingNote) : Prop :=
  note.quote = some row.toOnchainQuoteRecord ∧ (fresh = false → note.blank = true)

/-- Signing, recording and publishing a funding. -/
theorem obeys_submit (deps : OnchainDeps hash) {row : OnchainSendSwapRow} {fresh : Bool}
    (hn : Submits row fresh note) :
    (fundingDiscipline hash).Obeys note (submitFunding deps row fresh) fun _ _ => True := by
  have hnow : (fundingDiscipline hash).Steady (Submits row fresh) (issue .now) :=
    fun _ hr => ⟨trivial, fun _ => hr⟩
  have hread : ∀ question, (fundingDiscipline hash).Steady (Submits row fresh)
      (issue (.read question)) := fun _ _ hr => ⟨trivial, fun _ => hr⟩
  have hlease : (fundingDiscipline hash).Steady (Submits row fresh) (issue .claimFundLease) :=
    fun _ hr => ⟨trivial, fun _ => hr⟩
  have hsign : ∀ address amountSats feeRate, (fundingDiscipline hash).Steady (Submits row fresh)
      (issue (.signFunding address amountSats feeRate)) :=
    fun _ _ _ _ hr => ⟨trivial, fun _ => hr⟩
  exact obeys_submitFunding hnow hread hlease freeOps.releaseFundLease hsign hn
    (fun reason after ha => obeys_refuseFunding fresh reason ha.2)
    fun tx after ha => obeys_recordAndPublish deps row tx ha.1

/-- The recovery of a row read just now. -/
theorem obeys_whenFundingOnchain (deps : OnchainDeps hash) {row : OnchainSendSwapRow}
    (hs : row.state = .fundingOnchain) :
    (fundingDiscipline hash).Obeys (note.meet row) (whenFundingOnchain deps row)
      fun _ _ => True := by
  unfold whenFundingOnchain
  split
  · next txid ht =>
    have hc : row.fundingTxid.isSome = true := by
      cases hf : row.fundingTxid with
      | none => simp [truthy, hf] at ht
      | some txid => rfl
    refine obeys_leaveFunding (by simp) ⟨nofun, nofun, fun _ => .inr ?_⟩
    simp [FundingNote.meet, hs, hc]
  · unfold recoverFunding
    split
    · next tx ht =>
      refine obeys_publishFunding deps row true ?_ rfl
      simp [FundingNote.meet, hs, ht]
    · next ht =>
      have hblank : (note.meet row).blank = true := by simp [FundingNote.meet, ht]
      have hread : (fundingDiscipline hash).Quiet (ask (.findOutputs row.onchainAddress)) :=
        (Discipline.quiet_issue (fun _ => trivial) fun _ _ => rfl).bind fun answer =>
          Discipline.quiet_ofExcept answer
      refine hread.obeys_bind fun outputs => ?_
      split
      · exact obeys_submit deps ⟨rfl, fun _ => hblank⟩
      · exact obeys_enterAwaitingClaim (.inl hblank)

/-! ## The sweep -/

/-- The row was given by one of the sweep's two queries. -/
def Given (note : FundingNote) (row : OnchainSendSwapRow) : Prop :=
  note.refused = true ∨ row ∈ note.released

/-- A row the sweep was given stays given. -/
theorem Given.learn {row : OnchainSendSwapRow} (h : Given note row) (op : OnchainOp)
    (answer : op.Ans) : Given (learn note op answer) row :=
  h.imp (learn_grows note op answer).2.2.1 fun hr => (learn_grows note op answer).2.2.2 hr

/-- A licensed push of the lockup. -/
theorem obeys_pushRefund (row : OnchainSendSwapRow)
    (hn : note.refused = true ∨
      ∃ row ∈ note.released, row.state = .refunded → Final hash note row) :
    (fundingDiscipline hash).Obeys note (pushRefund row) fun _ _ => True := by
  have hquiet : ∀ question, (fundingDiscipline hash).Quiet (ask question) := fun question =>
    (Discipline.quiet_issue (fun _ => trivial) fun _ _ => rfl).bind fun answer =>
      Discipline.quiet_ofExcept answer
  apply (hquiet .findLockups).obeys_bind
  intro outputs
  split
  · apply (hquiet .lockupSpendEvidence).obeys_bind
    intro evidence
    split
    · exact freeOps.now.bind (fun _ => Discipline.free_throw _) note
    · exact freeOps.patch_ordinary (by simp [ordinary]) note
  · refine Discipline.obeys_issue_bind.mpr ⟨hn, fun answer => ?_⟩
    refine (Discipline.free_ofExcept _).bind (fun txid => ?_) _
    refine (freeOps.boundedInputs outputs).bind fun inputs => ?_
    apply freeOps.patch_ordinary
    unfold refundColumns
    split <;> simp [ordinary]

/-- A refund that reads as final was seen spent by something that is no claim. -/
theorem obeys_onchainRefundIsFinal {row : OnchainSendSwapRow} (hn : Given note row) :
    (fundingDiscipline hash).Obeys note (onchainRefundIsFinal hash row) fun final after =>
      Given after row ∧ (final = true → Final hash after row) := by
  unfold onchainRefundIsFinal
  split
  · exact ⟨hn, nofun⟩
  · next htlc hh =>
    refine Discipline.obeys_issue_bind.mpr ⟨trivial, fun answer => ?_⟩
    cases answer with
    | error fault => trivial
    | ok witness =>
      cases witness with
      | none => exact ⟨hn.learn _ _, nofun⟩
      | some witness =>
        dsimp only [Program.bind, Program.ofExcept]
        split
        · trivial
        · next hr =>
          exact ⟨hn.learn _ _, fun _ => ⟨htlc, witness, hh, rfl, hr⟩⟩

/-- One row of the sweep. -/
theorem obeys_sweepRow {row : OnchainSendSwapRow} (hn : Given note row) :
    (fundingDiscipline hash).Obeys note (sweepRow hash row) fun _ _ => True := by
  have hquiet : (fundingDiscipline hash).Quiet (ask .heldOff) :=
    (Discipline.quiet_issue (fun _ => trivial) fun _ _ => rfl).bind fun answer =>
      Discipline.quiet_ofExcept answer
  apply hquiet.obeys_bind
  intro held
  split
  · trivial
  · refine Discipline.Obeys.tryCatch ?_ fun _ _ => trivial
    split
    · apply (obeys_onchainRefundIsFinal hn).bind
      rintro final after ⟨hg, hf⟩
      split
      · next ht => exact obeys_pushRefund row (hg.imp id fun hr => ⟨row, hr, fun _ => hf ht⟩)
      · trivial
    · next hs => exact obeys_pushRefund row (hn.imp id fun hr => ⟨row, hr, fun h => absurd h hs⟩)

/-- Every row of the sweep, whatever became of the ones before. -/
theorem obeys_sweepRows {rows : List OnchainSendSwapRow} (hn : ∀ row ∈ rows, Given note row) :
    (fundingDiscipline hash).Obeys note (sweepRows hash rows) fun _ _ => True := by
  induction rows generalizing note with
  | nil => trivial
  | cons row rest ih =>
    have hrest : ∀ row ∈ rest, Given note row := fun row h => hn row (List.mem_cons_of_mem _ h)
    have hkeep : ∀ (note : FundingNote) (op : OnchainOp) (answer : op.Ans),
        (∀ row ∈ rest, Given note row) → ∀ row ∈ rest, Given (learn note op answer) row :=
      fun _ op answer h row hr => (h row hr).learn op answer
    apply ((obeys_sweepRow (hn row List.mem_cons_self)).persist hkeep hrest).bind
    exact fun _ _ h => ih h.2

/-- The refund sweep is licensed from any notes. -/
theorem free_refundSweep : (fundingDiscipline hash).Free (refundSweep hash) := by
  refine freeOps.now.bind fun now => ?_
  intro note
  refine Discipline.obeys_issue_bind.mpr ⟨trivial, fun refundable => ?_⟩
  refine Discipline.obeys_issue_bind.mpr ⟨trivial, fun releasable => ?_⟩
  apply obeys_sweepRows
  intro row hr
  rcases List.mem_append.mp hr with hr | hr
  · apply Given.learn
    rw [Option.mem_toList.mp hr]
    exact .inl rfl
  · rw [Option.mem_toList.mp hr]
    exact .inr List.mem_cons_self

/-! ## Taking the HTLC back -/

/-- The worker knows every version the row tracks for the solver's own. -/
def Tracks (row : OnchainSendSwapRow) (note : FundingNote) : Prop :=
  trackedRefundTxids row ⊆ note.own

/-- A version known for the solver's own stays known. -/
theorem Tracks.learn {row : OnchainSendSwapRow} (h : Tracks row note) (op : OnchainOp)
    (answer : op.Ans) : Tracks row (learn note op answer) :=
  fun _ ht => (learn_grows note op answer).2.1 (h ht)

/-- A worker that meets a row knows its versions. -/
theorem tracks_meet (note : FundingNote) (row : OnchainSendSwapRow) : Tracks row (note.meet row) :=
  fun _ h => List.mem_append_left _ h

/-- A new version is signed by the solver, and so is everything it replaces. -/
theorem obeys_sendHtlcRefund {row : OnchainSendSwapRow} (htlc : Outpoint) (feeRate : ℚ) (fee : ℤ)
    (hn : Tracks row note) :
    (fundingDiscipline hash).Obeys note (sendHtlcRefund row htlc feeRate fee) fun _ _ => True := by
  refine Discipline.obeys_issue_bind.mpr ⟨trivial, fun answer => ?_⟩
  cases answer with
  | error fault => trivial
  | ok txid =>
    have htracks : Tracks row { note with own := txid :: note.own } :=
      hn.learn (.signRefund htlc.txid htlc.vout (row.payoutSats - fee)) (.ok txid)
    refine Discipline.obeys_issue_bind.mpr ⟨trivial, fun now => ?_⟩
    have hpatch : (fundingDiscipline hash).Obeys { note with own := txid :: note.own }
        (patch (refundVersionColumns row txid feeRate now)) fun _ _ => True := by
      apply (Discipline.quiet_ofExcept _).obeys_bind
      intro _
      refine Discipline.obeys_issue_bind.mpr ⟨?_, fun written => Discipline.free_ofExcept _ _⟩
      intro column hm
      simp only [refundVersionColumns, List.mem_cons, List.not_mem_nil, or_false] at hm
      rcases hm with rfl | rfl | rfl | rfl
      · exact List.mem_cons_self
      · intro prior hp
        exact htracks (List.mem_eraseDups.mp (List.mem_of_mem_filter hp))
      · trivial
      · trivial
    apply hpatch.bind
    intro _ after _
    refine Discipline.obeys_issue_bind.mpr ⟨trivial, fun sent => ?_⟩
    exact (Discipline.free_ofExcept _ _).bind fun _ _ _ => trivial

/-- Only a tracked version that has confirmed closes the row. -/
theorem obeys_outcome {row : OnchainSendSwapRow} {txid : String}
    (ht : txid ∈ trackedRefundTxids row) (hn : Tracks row note) :
    (fundingDiscipline hash).Obeys note (transactionOutcome txid) fun outcome after =>
      Tracks row after ∧ (outcome = .confirmed → (fundingDiscipline hash).Obeys after
        (transition .refundingOnchain .refunded [.onchainRefundTxid txid]) fun _ _ => True) := by
  refine Discipline.obeys_issue_bind.mpr ⟨trivial, fun answer => ?_⟩
  refine Discipline.obeys_ofExcept fun outcome ho => ⟨hn.learn _ _, fun hc => ?_⟩
  subst ho hc
  apply obeys_transition_checked onchainShape
  intro he _
  refine ⟨⟨he, by simp [benign], nofun, fun _ => ?_⟩, fun _ => trivial⟩
  exact ⟨txid, hn ht, List.mem_cons_self, rfl⟩

/-- The refunding step of a row read just now. -/
theorem obeys_whenRefundingOnchain (deps : OnchainDeps hash) (row : OnchainSendSwapRow) :
    (fundingDiscipline hash).Obeys (note.meet row) (whenRefundingOnchain deps row)
      fun _ _ => True := by
  have hkeep : ∀ (note : FundingNote) (op : OnchainOp) (answer : op.Ans), Tracks row note →
      Tracks row (learn note op answer) := fun _ op answer h => h.learn op answer
  refine freeOps.whenRefundingOnchain (freeOps.now.steady hkeep)
    (fun question => (freeOps.read question).steady hkeep)
    (fun htlc feeRate fee _ => obeys_sendHtlcRefund htlc feeRate fee)
    (fun txid vout => (freeOps.findSpendWitness txid vout).steady hkeep)
    (fun txid ht _ => obeys_outcome ht) ?_ deps (tracks_meet note row)
  intro target ht columns hc after
  apply obeys_transition_checked onchainShape
  exact fun he _ => ⟨⟨he, hc, nofun, fun h => absurd h ht⟩, fun _ => trivial⟩

/-! ## Every job -/

/-- A claiming row asks nothing the funding minds. -/
theorem free_whenClaiming (wallet : WalletCaps) (deps : OnchainDeps hash)
    (row : OnchainSendSwapRow) : (fundingDiscipline hash).Free (whenClaiming wallet deps row) := by
  refine freeOps.whenClaiming rfl (fun _ => ?_) ?_ (fun _ => ?_) (fun _ => ?_) (fun _ _ => ?_)
    (fun steps => ?_) wallet deps row
  · exact Discipline.free_issue fun _ => trivial
  · exact Discipline.free_issue fun _ => trivial
  · exact Discipline.free_issue fun _ => trivial
  · exact Discipline.free_issue fun _ => trivial
  · exact Discipline.free_issue fun _ => trivial
  · refine Discipline.free_issue fun note column hm => ?_
    rw [List.mem_singleton.mp hm]
    trivial

/-- Each step, right after the row was read. -/
theorem obeys_step (wallet : WalletCaps) (deps : OnchainDeps hash) (note : FundingNote)
    (row : OnchainSendSwapRow) :
    (fundingDiscipline hash).Obeys (note.meet row) (OnchainSend.step wallet deps row)
      fun _ _ => True := by
  unfold OnchainSend.step
  split
  · exact freeOps.whenQuoted deps rfl row _
  · exact freeOps.whenFunded rfl (fun row note => obeys_submit deps ⟨rfl, nofun⟩) _
  · next hs => exact obeys_whenFundingOnchain deps hs
  · exact freeOps.whenAwaitingClaim hash rfl row _
  · exact free_whenClaiming wallet deps row _
  · exact obeys_whenRefundingOnchain deps row
  · trivial

/-- Every job of a worker is licensed. -/
theorem obeys_job (wallet : WalletCaps) (job : OnchainJob hash) :
    (fundingDiscipline hash).Free (job.program wallet) := by
  have hslot : ∀ process, (fundingDiscipline hash).Free (issue (.freeSlot process)) :=
    fun _ => Discipline.free_issue fun _ => trivial
  have htake : ∀ process read, (fundingDiscipline hash).Free (issue (.takeSlot process read)) :=
    fun _ _ => Discipline.free_issue fun _ => trivial
  cases job with
  | tick deps rounds => exact freeOps.tick hslot htake (obeys_step wallet deps) rounds
  | refundSweep => exact free_refundSweep
  | reclaimOnchainHtlc deps =>
    exact freeOps.reclaimOnchainHtlc hslot htake deps tracks_meet
      (fun _ _ op answer h => h.learn op answer)
      (fun _ htlc feeRate fee _ => obeys_sendHtlcRefund htlc feeRate fee)

/-- A worker starts every job with fresh notes. -/
theorem obeys_job_fresh (wallet : WalletCaps) (job : OnchainJob hash) :
    (fundingDiscipline hash).Obeys (fundingDiscipline hash).fresh (job.program wallet)
      fun _ _ => True :=
  obeys_job wallet job _

end IntentSolver.OnchainFundingDiscipline
