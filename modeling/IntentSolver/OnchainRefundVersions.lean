import IntentSolver.OnchainSendSteps

/-!
# Every broadcast version of the solver's refund stays tracked

Each push of the HTLC's refund writes the whole list of versions from the row
its caller read, then broadcasts. Inside one process a slot keeps ticks and the
operator's reclaim apart, and a tick reads its row with the slot taken. The
reclaim reads first and takes the slot afterwards: when a tick pushes in
between, the reclaim's write drops that version. When the row a reclaim holds
tracks every version already broadcast, nothing is lost.
-/

namespace IntentSolver.OnchainRefundVersions

open SwapStore ArkadeLockup LockupCollection WorkerProgram WorkerInterleaving
open OnchainTerms OnchainSendStore OnchainSend OnchainSendWorld OnchainSendSteps

/-- What a worker remembers of the slot and of the versions it may rewrite. -/
structure VersionNote where
  /-- The process whose slot it holds. -/
  holds : Option ℕ
  /-- Versions tracked by the row it read while holding the slot. -/
  covers : Option (List String)
  /-- The version it wrote to the row last. -/
  written : Option String
  /-- Transactions its node has called unknown since it read its row. -/
  unknown : List String
  /-- It read the spend of the HTLC with every version it knew called unknown. -/
  cleared : Bool

/-- The column leaves the refund versions alone. -/
def versionless : OnchainColumn → Bool
  | .onchainRefundTxid _ => false
  | .onchainRefundPriorTxids _ => false
  | _ => true

/-- The columns add one version to those of the row read under the slot. -/
def MayReplace (note : VersionNote) (columns : List OnchainColumn) : Prop :=
  note.holds.isSome = true ∧ ∃ row txid feeRate now,
    note.covers = some (trackedRefundTxids row) ∧
      columns = refundVersionColumns row txid feeRate now

/-- The column writes the row off for a foreign spend. -/
def isForeign : OnchainColumn → Bool
  | .failureReason reason => decide (reason = FOREIGN_SPEND)
  | _ => false

/-- A refunding row is written off for a foreign spend. -/
def writesOff (source : OnchainSendSwapState) (columns : List OnchainColumn) : Bool :=
  decide (source = .refundingOnchain) && columns.any isForeign

/-- What the notes license. -/
def may (note : VersionNote) : OnchainOp → Prop
  | .update source target columns _ =>
    target ∈ (OnchainSendMachine source).edges ∧
      (∀ column ∈ columns, benign source target column = true) ∧
      (writesOff source columns = true → note.holds.isSome = true ∧ note.cleared = true)
  | .patch columns => (∀ column ∈ columns, versionless column = true) ∨ MayReplace note columns
  | .broadcastRefund txid => note.holds.isSome = true ∧ note.written = some txid
  | .freeSlot process => note.holds = some process
  | _ => True

/-- Every version the worker knows has been called unknown. -/
def VersionNote.allUnknown (note : VersionNote) : Bool :=
  match note.covers with
  | some txids => txids.all fun txid => decide (txid ∈ note.unknown)
  | none => false

/-- What an answer adds to the notes. -/
def learn (note : VersionNote) : (op : OnchainOp) → op.Ans → VersionNote
  | .get, row =>
    { note with
      covers := if row.state = .refunded then none else some (trackedRefundTxids row)
      unknown := []
      cleared := false }
  | .transactionOutcome txid, .ok .unknown => { note with unknown := txid :: note.unknown }
  | .findSpendWitness _ _, .ok (some _) => { note with cleared := note.allUnknown }
  | .patch (.onchainRefundTxid txid :: _), .ok _ => { note with written := some txid }
  | .broadcastRefund _, _ => { note with covers := none, cleared := false }
  | .takeSlot process read, true => ⟨some process, read.map trackedRefundTxids, none, [], false⟩
  | .freeSlot _, _ => { note with holds := none }
  | _, _ => note

/-- Rewrite the versions, and broadcast, only with the slot taken. -/
def versionDiscipline : Discipline OnchainOp.Ans where
  Note := VersionNote
  fresh := ⟨none, none, none, [], false⟩
  may := may
  learn := learn

/-- The same inside the slot, which a body neither takes nor frees. -/
def slotDiscipline : Discipline OnchainOp.Ans :=
  versionDiscipline.restrict fun op => slotted op = false

variable {hash : String → String} {note : VersionNote}

/-- An ordinary column is no version. -/
theorem versionless_of_ordinary {column : OnchainColumn} (h : ordinary column = true) :
    versionless column = true := by
  cases column <;> first | rfl | exact absurd h Bool.false_ne_true

/-- What a row that is not refunding writes is no such verdict. -/
theorem writesOff_source {source : OnchainSendSwapState} (hs : source ≠ .refundingOnchain)
    (columns : List OnchainColumn) : writesOff source columns = false := by
  unfold writesOff
  rw [decide_eq_false hs, Bool.false_and]

/-- The rows whose writes are minded. -/
def refunding (state : OnchainSendSwapState) : Bool := decide (state = .refundingOnchain)

/-- Everything inside the slot is free but rewriting versions, broadcasting them and leaving
`refunding_onchain`. -/
theorem freeOps : FreeOps slotDiscipline refunding where
  get := Discipline.free_issue fun _ => ⟨trivial, rfl⟩
  claimFundLease := Discipline.free_issue fun _ => ⟨trivial, rfl⟩
  releaseFundLease := Discipline.free_issue fun _ => ⟨trivial, rfl⟩
  findRefundable _ := Discipline.free_issue fun _ => ⟨trivial, rfl⟩
  findReleasable _ := Discipline.free_issue fun _ => ⟨trivial, rfl⟩
  now := Discipline.free_issue fun _ => ⟨trivial, rfl⟩
  boundedInputs _ := Discipline.free_issue fun _ => ⟨trivial, rfl⟩
  read _ := Discipline.free_issue fun _ => ⟨trivial, rfl⟩
  findSpendWitness _ _ := Discipline.free_issue fun _ => ⟨trivial, rfl⟩
  transactionOutcome _ := Discipline.free_issue fun _ => ⟨trivial, rfl⟩
  signFunding _ _ _ := Discipline.free_issue fun _ => ⟨trivial, rfl⟩
  update source _ columns _ hs he hc := Discipline.free_issue fun note => by
    have hw := writesOff_source (of_decide_eq_false hs) columns
    have hb : writesOff source columns = true → note.holds.isSome = true ∧ note.cleared = true := by
      rw [hw]
      exact nofun
    exact ⟨⟨he, fun column hm => (hc column hm).2, hb⟩, rfl⟩
  patch columns hc := Discipline.free_issue fun _ =>
    ⟨.inl fun column hm => versionless_of_ordinary (hc column hm), rfl⟩

/-- Nothing inside the slot gives it up. -/
theorem learn_holds (note : VersionNote) (op : OnchainOp) (answer : op.Ans)
    (hs : slotted op = false) (hn : note.holds.isSome = true) :
    (learn note op answer).holds.isSome = true := by
  unfold learn
  split
  case h_6 => cases hs
  case h_7 => cases hs
  all_goals exact hn

/-- The worker holds the slot, and read this row under it. -/
def Ready (row : OnchainSendSwapRow) (note : VersionNote) : Prop :=
  note.holds.isSome = true ∧ note.covers = some (trackedRefundTxids row)

/-- A push adds its version to those of the row read under the slot. -/
theorem obeys_sendHtlcRefund {row : OnchainSendSwapRow} (htlc : Outpoint) (feeRate : ℚ) (fee : ℤ)
    (hn : Ready row note) :
    slotDiscipline.Obeys note (sendHtlcRefund row htlc feeRate fee) fun _ _ => True := by
  refine Discipline.obeys_issue_bind.mpr ⟨⟨trivial, rfl⟩, fun answer => ?_⟩
  cases answer with
  | error fault => trivial
  | ok txid =>
    refine Discipline.obeys_issue_bind.mpr ⟨⟨trivial, rfl⟩, fun now => ?_⟩
    have hpatch : slotDiscipline.Obeys note (patch (refundVersionColumns row txid feeRate now))
        fun _ after => after.holds.isSome = true ∧ after.written = some txid := by
      apply (Discipline.quiet_ofExcept _).obeys_bind
      intro _
      refine Discipline.obeys_issue_bind.mpr ⟨⟨.inr ?_, rfl⟩, fun written => ?_⟩
      · exact ⟨hn.1, row, txid, feeRate, now, hn.2, rfl⟩
      · exact Discipline.obeys_ofExcept fun _ ho => by
          subst ho
          exact ⟨hn.1, rfl⟩
    apply hpatch.bind
    intro _ after ha
    refine Discipline.obeys_issue_bind.mpr ⟨⟨ha, rfl⟩, fun sent => ?_⟩
    exact (Discipline.free_ofExcept _ _).bind fun _ _ _ => trivial

section Quiet

variable {ready : VersionNote → Prop}

/-- An action of the slot that teaches nothing keeps everything. -/
theorem steady_quiet {op : OnchainOp} (hm : ∀ note, may note op) (hs : slotted op = false)
    (hl : ∀ note answer, learn note op answer = note) :
    slotDiscipline.Steady ready (issue op) := by
  have hq : slotDiscipline.Quiet (issue op) :=
    Discipline.quiet_issue (fun note => ⟨hm note, hs⟩) hl
  exact hq.steady

/-- Reading the clock keeps every property of the notes. -/
theorem steady_now : slotDiscipline.Steady ready (issue .now) :=
  steady_quiet (fun _ => trivial) rfl fun _ _ => rfl

/-- Asking the outside world keeps every property of the notes. -/
theorem steady_read (question : OnchainQuestion) :
    slotDiscipline.Steady ready (issue (.read question)) :=
  steady_quiet (fun _ => trivial) rfl fun _ _ => rfl

end Quiet

/-- The outcome of one version: what is called unknown is remembered. -/
theorem obeys_transactionOutcome {row : OnchainSendSwapRow} (txid : String) (hn : Ready row note) :
    slotDiscipline.Obeys note (transactionOutcome txid) fun outcome after => Ready row after ∧
      note.unknown ⊆ after.unknown ∧ (outcome = .unknown → txid ∈ after.unknown) := by
  refine Discipline.obeys_issue_bind.mpr ⟨⟨trivial, rfl⟩, fun answer => ?_⟩
  refine Discipline.obeys_ofExcept fun outcome ho => ?_
  subst ho
  cases outcome with
  | confirmed => exact ⟨hn, fun _ h => h, nofun⟩
  | mempool => exact ⟨hn, fun _ h => h, nofun⟩
  | unknown => exact ⟨hn, fun _ h => List.mem_cons_of_mem _ h, fun _ => List.mem_cons_self⟩

/-- No version known to the chain: each one was called unknown. -/
theorem obeys_outcomeOfAny {row : OnchainSendSwapRow} (txids : List String) (seen : Bool)
    (hn : Ready row note) :
    slotDiscipline.Obeys note (outcomeOfAny txids seen) fun tracked after => Ready row after ∧
      note.unknown ⊆ after.unknown ∧
      (tracked = .unknown → seen = false ∧ txids ⊆ after.unknown) := by
  induction txids generalizing note seen with
  | nil =>
    cases seen with
    | true => exact ⟨hn, fun _ h => h, nofun⟩
    | false => exact ⟨hn, fun _ h => h, fun _ => ⟨rfl, List.nil_subset _⟩⟩
  | cons txid rest ih =>
    apply (obeys_transactionOutcome txid hn).bind
    rintro outcome after ⟨ha, hkept, hunknown⟩
    cases outcome with
    | confirmed => exact ⟨ha, hkept, nofun⟩
    | mempool =>
      apply (ih true ha).mono
      rintro tracked told ⟨ht, hmore, hall⟩
      exact ⟨ht, List.Subset.trans hkept hmore, fun h => absurd (hall h).1 Bool.noConfusion⟩
    | unknown =>
      apply (ih seen ha).mono
      rintro tracked told ⟨ht, hmore, hall⟩
      refine ⟨ht, List.Subset.trans hkept hmore, fun h => ⟨(hall h).1, ?_⟩⟩
      exact List.cons_subset.mpr ⟨hmore (hunknown rfl), (hall h).2⟩

/-! ## Leaving `refunding_onchain` -/

/-- Any write out of `refunding_onchain` but the verdict is free. -/
theorem free_leave {target : OnchainSendSwapState} {columns : List OnchainColumn}
    (hc : ∀ column ∈ columns, benign .refundingOnchain target column = true)
    (hw : writesOff .refundingOnchain columns = false) :
    slotDiscipline.Free (transition .refundingOnchain target columns) := by
  intro note
  apply SwapStore.obeys_transition_checked onchainShape
  intro he _
  have hb : writesOff .refundingOnchain columns = true →
      note.holds.isSome = true ∧ note.cleared = true := by
    rw [hw]
    exact nofun
  exact ⟨⟨⟨he, hc, hb⟩, rfl⟩, fun _ => trivial⟩

/-- A refunding row may fail for every reason but a foreign spend. -/
theorem free_failRefunding {reason : String} (hr : reason ≠ FOREIGN_SPEND) :
    slotDiscipline.Free (failStep .refundingOnchain reason) := by
  have hw : writesOff .refundingOnchain [.failureReason reason] = false := by
    simp [writesOff, isForeign, hr]
  have hf : slotDiscipline.Free (fail .refundingOnchain reason) :=
    (free_leave (by simp [benign]) hw).bind fun _ => Discipline.free_ret _
  exact hf.bind fun _ => Discipline.free_ret _

/-- The row is written off for a foreign spend after every version was called unknown. -/
theorem obeys_writeOff (hh : note.holds.isSome = true) (hc : note.cleared = true) :
    slotDiscipline.Obeys note (failStep .refundingOnchain FOREIGN_SPEND) fun _ _ => True := by
  have hf : slotDiscipline.Obeys note (fail .refundingOnchain FOREIGN_SPEND) fun _ _ => True := by
    have ht : slotDiscipline.Obeys note
        (transition .refundingOnchain .stuck [.failureReason FOREIGN_SPEND]) fun _ _ => True := by
      apply SwapStore.obeys_transition_checked onchainShape
      intro he _
      exact ⟨⟨⟨he, by simp [benign], fun _ => ⟨hh, hc⟩⟩, rfl⟩, fun _ => trivial⟩
    exact ht.bind fun _ _ _ => trivial
  exact hf.bind fun _ _ _ => trivial

/-- A refused attempt names a reason of its own. -/
def OwnReason (attempt : OnchainHtlcRefundAttempt) : Prop :=
  ∀ reason retry, attempt = .refused reason retry → reason ≠ FOREIGN_SPEND

/-- Reasons that begin otherwise are not the verdict. -/
theorem reason_ne (letter : Char) {first reason : String}
    (hl : first.toList.head? = some letter) (hn : letter ≠ 'o') :
    first ++ reason ≠ FOREIGN_SPEND := by
  intro he
  have hh := congrArg (fun text => text.toList.head?) he
  simp only [String.toList_append, List.head?_append, hl, Option.some_or] at hh
  have ho : FOREIGN_SPEND.toList.head? = some 'o' := by decide
  rw [ho] at hh
  exact hn (Option.some.inj hh)

/-- No attempt to refund is refused for a foreign spend. -/
theorem gives_firstRefund (deps : OnchainDeps hash) (row : OnchainSendSwapRow) (htlc : Outpoint) :
    Discipline.Gives (fun _ => True) OwnReason (firstRefund deps row htlc) := by
  have hask : Discipline.Gives (fun _ : OnchainOp => True) (fun _ => True)
      (ask .estimateFeeRate : Prog ℚ) :=
    (Discipline.gives_issue trivial).bind fun _ _ => Discipline.gives_ofExcept fun _ _ => trivial
  have hsend : ∀ feeRate fee, Discipline.Gives (fun _ : OnchainOp => True) OwnReason
      (sendHtlcRefund row htlc feeRate fee) := by
    intro feeRate fee
    have hany : ∀ {α : Type} (outcome : Except Fault α),
        Discipline.Gives (fun _ : OnchainOp => True) (fun _ => True)
          (Program.ofExcept outcome : Prog α) :=
      fun outcome => Discipline.gives_ofExcept fun _ _ => trivial
    refine (Discipline.gives_issue trivial).bind fun answer _ => ?_
    refine (hany answer).bind fun txid _ => ?_
    refine (Discipline.gives_issue trivial).bind fun now _ => ?_
    have hpatch : Discipline.Gives (fun _ : OnchainOp => True) (fun _ => True)
        (patch (refundVersionColumns row txid feeRate now)) :=
      (hany _).bind fun _ _ => (Discipline.gives_issue trivial).bind fun written _ => hany written
    refine hpatch.bind fun _ _ => ?_
    refine (Discipline.gives_issue trivial).bind fun sent _ => ?_
    exact (hany sent).bind fun _ _ => Discipline.gives_ret nofun
  refine hask.bind fun estimate _ => ?_
  unfold pushOnchainHtlcRefund
  split
  · refine Discipline.gives_ret ?_
    rintro reason retry ⟨⟩
    decide
  · refine (Discipline.gives_issue trivial).bind fun now _ => ?_
    dsimp only
    split
    · refine Discipline.gives_ret ?_
      rintro reason retry ⟨⟩
      simp only [String.append_assoc]
      exact reason_ne 'a' (by decide) (by decide)
    · split
      · refine Discipline.gives_ret ?_
        rintro reason retry ⟨⟩
        simp only [String.append_assoc]
        exact reason_ne 'r' (by decide) (by decide)
      · exact hsend _ _

/-- The refunding step, from a row read under the slot. -/
theorem obeys_whenRefundingOnchain (deps : OnchainDeps hash) {row : OnchainSendSwapRow}
    (hn : Ready row note) :
    slotDiscipline.Obeys note (whenRefundingOnchain deps row) fun _ _ => True := by
  have hpush := fun htlc feeRate fee note (h : Ready row note) =>
    obeys_sendHtlcRefund htlc feeRate fee h
  unfold whenRefundingOnchain
  split
  · exact free_failRefunding (by decide) note
  · next htlc _ =>
    apply (obeys_outcomeOfAny (trackedRefundTxids row) false hn).bind
    rintro tracked after ⟨ha, -, hunknown⟩
    cases tracked with
    | confirmed txid => exact free_leave (by simp [benign]) rfl after
    | mempool =>
      exact (FreeOps.replaceOnchainHtlcRefund steady_now steady_read hpush deps htlc ha).bind
        fun _ _ _ => trivial
    | unknown =>
      -- every tracked version was called unknown, so a spend that is read now is cleared
      have hall : after.allUnknown = true := by
        unfold VersionNote.allUnknown
        rw [ha.2]
        refine List.all_eq_true.mpr fun txid hm => ?_
        exact decide_eq_true ((hunknown rfl).2 hm)
      refine Discipline.obeys_issue_bind.mpr ⟨⟨trivial, rfl⟩, fun answer => ?_⟩
      cases answer with
      | error fault => trivial
      | ok claimWitness =>
        cases claimWitness with
        | some witness =>
          change slotDiscipline.Obeys { after with cleared := after.allUnknown } _ _
          dsimp only [Program.bind, Program.ofExcept]
          split
          · exact free_leave (by simp [benign]) rfl _
          · exact obeys_writeOff ha.1 hall
        | none =>
          change slotDiscipline.Obeys after _ _
          dsimp only [Program.bind, Program.ofExcept]
          have hfirst := (FreeOps.firstRefund steady_now steady_read hpush deps htlc ha).gives
            (gives_firstRefund deps row htlc)
          apply hfirst.bind
          rintro attempt asked ⟨-, hown⟩
          cases attempt with
          | broadcast txid => trivial
          | refused reason retry =>
            apply (freeOps.now asked).bind
            intro now later _
            split
            · trivial
            · exact free_failRefunding (hown reason retry rfl) later

/-- A claiming row never touches the slot. -/
theorem free_whenClaiming (wallet : WalletCaps) (deps : OnchainDeps hash)
    (row : OnchainSendSwapRow) : slotDiscipline.Free (whenClaiming wallet deps row) := by
  refine freeOps.whenClaiming rfl (fun _ => ?_) ?_ (fun _ => ?_) (fun _ => ?_) (fun _ _ => ?_)
    (fun steps => ?_) wallet deps row
  · exact Discipline.free_issue fun _ => ⟨trivial, rfl⟩
  · exact Discipline.free_issue fun _ => ⟨trivial, rfl⟩
  · exact Discipline.free_issue fun _ => ⟨trivial, rfl⟩
  · exact Discipline.free_issue fun _ => ⟨trivial, rfl⟩
  · exact Discipline.free_issue fun _ => ⟨trivial, rfl⟩
  · refine Discipline.free_issue fun note => ⟨.inl fun column hm => ?_, rfl⟩
    rw [List.mem_singleton.mp hm]
    rfl

/-- Each step of a tick, right after it read the row under the slot. -/
theorem obeys_step (wallet : WalletCaps) (deps : OnchainDeps hash) (row : OnchainSendSwapRow)
    (hn : note.holds.isSome = true) :
    slotDiscipline.Obeys (learn note .get row) (OnchainSend.step wallet deps row)
      fun _ _ => True := by
  have hrecord : ∀ tx, slotDiscipline.Free (issue (.recordFundingTx tx)) :=
    fun _ => Discipline.free_issue fun _ => ⟨trivial, rfl⟩
  have hbroadcast : ∀ tx, slotDiscipline.Free (issue (.broadcastFunding tx)) :=
    fun _ => Discipline.free_issue fun _ => ⟨trivial, rfl⟩
  unfold OnchainSend.step
  split
  · exact freeOps.whenQuoted deps rfl row _
  · exact freeOps.whenFunded rfl
      (fun row _ => freeOps.submits rfl hrecord hbroadcast deps row true _) _
  · exact freeOps.whenFundingOnchain rfl hrecord hbroadcast deps row _
  · exact freeOps.whenAwaitingClaim hash rfl row _
  · exact free_whenClaiming wallet deps row _
  · next hs =>
    have hready : Ready row (learn note .get row) := by
      refine ⟨hn, ?_⟩
      simp [learn, hs]
    exact obeys_whenRefundingOnchain deps hready
  · trivial

/-- A body that keeps to the slot may run with it held. -/
theorem obeys_holdingSlot {α : Type} (deps : OnchainDeps hash) {body : Prog α}
    (hb : slotDiscipline.Obeys note body fun _ _ => True) (hn : note.holds = some deps.process) :
    versionDiscipline.Obeys note (holdingSlot deps body) fun _ _ => True := by
  have hkeep : ∀ (note : VersionNote) (op : OnchainOp) (answer : op.Ans), slotted op = false →
      note.holds = some deps.process → (learn note op answer).holds = some deps.process := by
    intro note op answer hs hh
    unfold learn
    split
    case h_6 => cases hs
    case h_7 => cases hs
    all_goals exact hh
  have hfree : ∀ after : VersionNote, after.holds = some deps.process →
      versionDiscipline.Obeys after (issue (.freeSlot deps.process)) fun _ _ => True :=
    fun after ha => ⟨ha, fun _ => trivial⟩
  have hcaught : versionDiscipline.Obeys note (body.tryCatch fun error => do
      issue (.freeSlot deps.process)
      throw error) fun _ after => after.holds = some deps.process :=
    hb.tryCatch_restrict hkeep hn (fun _ _ h => h) fun _ after ha =>
      (hfree after ha).bind fun _ _ _ => trivial
  exact hcaught.bind fun _ after ha => (hfree after ha).bind fun _ _ _ => trivial

/-- Every tick is licensed by the versions it knows. -/
theorem free_tick (wallet : WalletCaps) (deps : OnchainDeps hash) (rounds : ℕ) :
    versionDiscipline.Free (tick wallet deps rounds) := by
  refine fun note => Discipline.obeys_issue_bind.mpr ⟨trivial, fun taken => ?_⟩
  cases taken with
  | false => trivial
  | true =>
    apply obeys_holdingSlot deps _ rfl
    have hstep : ∀ (note : VersionNote) row, note.holds.isSome = true →
        slotDiscipline.Obeys (learn note .get row) (OnchainSend.step wallet deps row)
          fun _ after => after.holds.isSome = true := by
      intro note row hn
      have hkeep : ∀ (note : VersionNote) (op : OnchainOp) (answer : op.Ans),
          slotDiscipline.may note op → note.holds.isSome = true →
          (learn note op answer).holds.isSome = true :=
        fun note op answer hm => learn_holds note op answer hm.2
      have hread : (learn note .get row).holds.isSome = true := hn
      exact ((obeys_step wallet deps row hn).keep hkeep hread).mono fun _ _ h => h.2
    have hholds : (learn note (.takeSlot deps.process none) true).holds.isSome = true := rfl
    exact (freeOps.drive hstep rounds hholds).mono fun _ _ _ => trivial

/-- Taking the HTLC back is licensed by the versions it knows. -/
theorem free_reclaimOnchainHtlc (deps : OnchainDeps hash) :
    versionDiscipline.Free (reclaimOnchainHtlc deps) := by
  have hslot : ∀ row htlc waiting,
      versionDiscipline.Free (reclaimSlot deps row htlc waiting) := by
    intro row htlc waiting
    have hw : versionDiscipline.Free (findSpendWitness htlc.txid htlc.vout) :=
      (freeOps.witness htlc.txid htlc.vout).unrestrict
    refine hw.bind fun witness => ?_
    split
    · exact Discipline.free_throw _
    · refine fun note => Discipline.obeys_issue_bind.mpr ⟨trivial, fun taken => ?_⟩
      cases taken with
      | false => trivial
      | true =>
        have hready : Ready row (learn note (.takeSlot deps.process (some row)) true) := ⟨rfl, rfl⟩
        exact obeys_holdingSlot deps (FreeOps.reclaimHolding steady_now steady_read
          (fun htlc feeRate fee _ h => obeys_sendHtlcRefund htlc feeRate fee h) deps htlc waiting
          hready) rfl
  have hget : versionDiscipline.Free (issue .get) := freeOps.get.unrestrict
  refine hget.bind fun row => ?_
  split
  · exact Discipline.free_throw _
  · next htlc _ =>
    have ho : versionDiscipline.Free (outcomeOfAny (trackedRefundTxids row) false) :=
      (freeOps.outcomeOfAny _ _).unrestrict
    refine ho.bind fun tracked => ?_
    cases tracked with
    | confirmed txid => exact Discipline.free_ret _
    | mempool => exact hslot row htlc true
    | unknown => exact hslot row htlc false

/-- Every job of a worker is licensed by the versions it knows. -/
theorem obeys_job (wallet : WalletCaps) (job : OnchainJob hash) :
    versionDiscipline.Free (job.program wallet) := by
  cases job with
  | tick deps rounds => exact free_tick wallet deps rounds
  | refundSweep =>
    have hr : ∀ outputs, slotDiscipline.Free (issue (.refund outputs)) :=
      fun _ => Discipline.free_issue fun _ => ⟨trivial, rfl⟩
    exact (freeOps.refundSweep hr hash).unrestrict
  | reclaimOnchainHtlc deps => exact free_reclaimOnchainHtlc deps

/-! ## The invariant -/

/-- What holds in one process as long as every reclaim takes the slot with a
row that tracks what is out. -/
structure Guarded (process : ℕ) (world : OnchainWorld) (notes : ℕ → VersionNote) : Prop where
  tracked : world.row.state ≠ .refunded → world.refunds ⊆ trackedRefundTxids world.row
  /-- A held slot is the process's own, and taken. -/
  held : ∀ worker other, (notes worker).holds = some other →
    other = process ∧ world.slots process = true
  unique : ∀ worker other, (notes worker).holds.isSome = true →
    (notes other).holds.isSome = true → worker = other
  covers : ∀ worker txids, (notes worker).holds.isSome = true →
    (notes worker).covers = some txids → world.refunds ⊆ txids
  written : ∀ worker txid, (notes worker).holds.isSome = true →
    (notes worker).written = some txid → world.row.state ≠ .refunded →
    txid ∈ trackedRefundTxids world.row

variable {process worker : ℕ} {world after : OnchainWorld} {notes : ℕ → VersionNote}
  {reply : OnchainReply}

/-- An action that leaves the slots alone and teaches nothing about them. -/
theorem Guarded.step (h : Guarded process world notes) {next : VersionNote}
    (hslots : after.slots = world.slots) (hholds : next.holds = (notes worker).holds)
    (ht : after.row.state ≠ .refunded → after.refunds ⊆ trackedRefundTxids after.row)
    (hown : next.holds.isSome = true → (∀ txids, next.covers = some txids → after.refunds ⊆ txids) ∧
      ∀ txid, next.written = some txid → after.row.state ≠ .refunded →
        txid ∈ trackedRefundTxids after.row)
    (hothers : (next.holds.isSome = true ∨ after.refunds = world.refunds ∧
      (after.row.state ≠ .refunded → world.row.state ≠ .refunded ∧
        trackedRefundTxids after.row = trackedRefundTxids world.row))) :
    Guarded process after (Function.update notes worker next) := by
  have hsame : ∀ other, (Function.update notes worker next other).holds = (notes other).holds := by
    intro other
    by_cases ho : other = worker
    · subst ho
      rw [Function.update_self, hholds]
    · rw [Function.update_of_ne ho]
  refine ⟨ht, fun other process' hp => ?_, fun first second hf hs => ?_,
    fun other txids hh hc => ?_, fun other txid hh hw hr => ?_⟩
  · rw [hsame] at hp
    rw [hslots]
    exact h.held other process' hp
  · rw [hsame] at hf hs
    exact h.unique first second hf hs
  · by_cases ho : other = worker
    · subst ho
      rw [Function.update_self] at hh hc
      exact (hown hh).1 txids hc
    · rw [Function.update_of_ne ho] at hh hc
      rcases hothers with hn | ⟨hrefunds, -⟩
      · rw [hholds] at hn
        exact absurd (h.unique other worker hh hn) ho
      · rw [hrefunds]
        exact h.covers other txids hh hc
  · by_cases ho : other = worker
    · subst ho
      rw [Function.update_self] at hh hw
      exact (hown hh).2 txid hw hr
    · rw [Function.update_of_ne ho] at hh hw
      rcases hothers with hn | ⟨-, hrow⟩
      · rw [hholds] at hn
        exact absurd (h.unique other worker hh hn) ho
      · obtain ⟨hstate, htracked⟩ := hrow hr
        rw [htracked]
        exact h.written other txid hh hw hstate

/-- The notes say the same of the slot and of the versions. -/
def SameVersions (note next : VersionNote) : Prop :=
  next.holds = note.holds ∧ next.covers = note.covers ∧ next.written = note.written

/-- Notes say the same as themselves. -/
theorem SameVersions.rfl {note : VersionNote} : SameVersions note note :=
  ⟨Eq.refl _, Eq.refl _, Eq.refl _⟩

/-- An action that changes neither the versions nor what the notes say of them. -/
theorem Guarded.quiet (h : Guarded process world notes) {next : VersionNote}
    (hn : SameVersions (notes worker) next) (hslots : after.slots = world.slots)
    (hrefunds : after.refunds = world.refunds)
    (hrow : after.row.state ≠ .refunded → world.row.state ≠ .refunded ∧
      trackedRefundTxids after.row = trackedRefundTxids world.row) :
    Guarded process after (Function.update notes worker next) := by
  obtain ⟨hholds, hcovers, hwritten⟩ := hn
  refine h.step hslots hholds (fun hr => ?_) (fun hh => ?_) (.inr ⟨hrefunds, hrow⟩)
  · rw [hrefunds, (hrow hr).2]
    exact h.tracked (hrow hr).1
  · rw [hholds] at hh
    rw [hcovers, hwritten]
    refine ⟨fun txids hc => ?_, fun txid hw hr => ?_⟩
    · rw [hrefunds]
      exact h.covers worker txids hh hc
    · rw [(hrow hr).2]
      exact h.written worker txid hh hw (hrow hr).1

/-- The versions a push writes: its own and all it knew. -/
theorem tracked_refundVersionColumns (row stored : OnchainSendSwapRow) (txid : String) (feeRate : ℚ)
    (now clock : ℤ) :
    txid ∈ trackedRefundTxids (patchRow onchainShape clock
        (refundVersionColumns row txid feeRate now) stored) ∧
      trackedRefundTxids row ⊆ trackedRefundTxids (patchRow onchainShape clock
        (refundVersionColumns row txid feeRate now) stored) := by
  refine ⟨List.mem_cons_self, fun other ho => ?_⟩
  by_cases he : other = txid
  · subst he
    exact List.mem_cons_self
  · refine List.mem_cons_of_mem _ (List.mem_filter.mpr ⟨List.mem_eraseDups.mpr ho, ?_⟩)
    exact decide_eq_true he

/-- A won transition drops no version before the row records a confirmed one. -/
theorem Guarded.update (h : Guarded process world notes) {source target : OnchainSendSwapState}
    {columns : List OnchainColumn} {unrecorded won : Bool}
    (hm : may (notes worker) (.update source target columns unrecorded))
    (hp : perform worker (.update source target columns unrecorded) reply world =
      some (won, after)) :
    Guarded process after (Function.update notes worker (notes worker)) := by
  have hslots := perform_slots rfl hp
  have hrefunds := perform_refunds rfl hp
  refine h.quiet .rfl hslots hrefunds fun hr => ?_
  obtain ⟨row, hu, -, rfl⟩ | ⟨-, rfl⟩ := perform_update hp
  · obtain ⟨hs, ht⟩ := update_states hu
    have htarget : target ≠ .refunded := fun he => hr (ht.trans he)
    refine ⟨fun hstate => ?_, update_tracked hu hm.2.1 htarget⟩
    have he := hm.1
    rw [← hs, hstate] at he
    cases he
  · exact ⟨hr, rfl⟩

/-- A patch of other columns leaves the versions alone. -/
theorem patch_versionless {columns : List OnchainColumn}
    (hc : ∀ column ∈ columns, versionless column = true) (clock : ℤ) (row : OnchainSendSwapRow) :
    trackedRefundTxids (patchRow onchainShape clock columns row) = trackedRefundTxids row := by
  refine patchRow_frame onchainShape trackedRefundTxids (fun _ _ => rfl)
    (fun column hm => assign_tracked ?_ ?_) row
  · rintro value rfl
    cases hc _ hm
  · rintro value rfl
    cases hc _ hm

/-- A patch of other columns teaches nothing about versions. -/
theorem learn_versionless {columns : List OnchainColumn}
    (hc : ∀ column ∈ columns, versionless column = true) (note : VersionNote)
    (answer : Except Fault Unit) : learn note (.patch columns) answer = note := by
  cases columns with
  | nil => rfl
  | cons column columns =>
    cases column with
    | onchainRefundTxid txid => cases hc _ List.mem_cons_self
    | _ => rfl

/-- A patch drops no version. -/
theorem Guarded.patch (h : Guarded process world notes) {columns : List OnchainColumn}
    {written : Except Fault Unit} (hm : may (notes worker) (.patch columns))
    (hp : perform worker (.patch columns) reply world = some (written, after)) :
    Guarded process after
      (Function.update notes worker (learn (notes worker) (.patch columns) written)) := by
  have hslots := perform_slots rfl hp
  have hrefunds := perform_refunds rfl hp
  obtain ⟨fault, rfl, rfl⟩ | ⟨rfl, rfl⟩ := perform_patch hp
  · have hl : learn (notes worker) (.patch columns) (.error fault) = notes worker := by
      cases columns with
      | nil => rfl
      | cons column columns => cases column <;> rfl
    rw [hl]
    exact h.quiet .rfl rfl rfl fun hr => ⟨hr, rfl⟩
  · have hs : (patchRow onchainShape world.clock columns world.row).state = world.row.state :=
      state_patchRow onchainShape world.clock columns world.row
    rcases hm with hm | ⟨hh, row, txid, feeRate, now, hc, rfl⟩
    · rw [learn_versionless hm]
      refine h.quiet .rfl rfl rfl fun hr => ⟨fun he => hr (hs.trans he), ?_⟩
      exact patch_versionless hm world.clock world.row
    · obtain ⟨hnew, hold⟩ := tracked_refundVersionColumns row world.row txid feeRate now world.clock
      have hout := h.covers worker _ hh hc
      refine h.step rfl rfl (fun _ => List.Subset.trans hout hold) (fun _ => ⟨fun txids hcov => ?_,
        fun other hw _ => ?_⟩) (.inl hh)
      · exact h.covers worker txids hh hcov
      · cases hw
        exact hnew

/-- Taking the slot, with a row that tracks everything that is out. -/
theorem Guarded.takeSlot (h : Guarded process world notes) {read : Option OnchainSendSwapRow}
    {taken : Bool}
    (hc : world.slots process = false → ∀ row ∈ read, world.refunds ⊆ trackedRefundTxids row)
    (hp : perform worker (.takeSlot process read) reply world = some (taken, after)) :
    Guarded process after
      (Function.update notes worker (learn (notes worker) (.takeSlot process read) taken)) := by
  simp only [perform] at hp
  split at hp
  · cases hp
    exact h.quiet .rfl rfl rfl fun hr => ⟨hr, rfl⟩
  · next hfree =>
    cases hp
    have hfree : world.slots process = false := by simpa using hfree
    -- the slot was free, so nobody else holds it
    have hnobody : ∀ other, (notes other).holds.isSome = true → False := by
      intro other ho
      obtain ⟨held, hheld⟩ := Option.isSome_iff_exists.mp ho
      rw [(h.held other held hheld).2] at hfree
      cases hfree
    have hother : ∀ other, (Function.update notes worker
        (⟨some process, read.map trackedRefundTxids, none, [], false⟩ : VersionNote)
          other).holds.isSome = true → other = worker := by
      intro other ho
      by_contra hne
      rw [Function.update_of_ne hne] at ho
      exact hnobody other ho
    refine ⟨h.tracked, fun other held hheld => ?_, fun first second hf hs => ?_,
      fun other txids hh hcov => ?_, fun other txid hh hw => ?_⟩
    · have ho := hother other (by simp only [learn] at hheld; rw [hheld]; rfl)
      subst ho
      simp only [learn, Function.update_self, Option.some.injEq] at hheld
      exact ⟨hheld.symm, Function.update_self _ _ _⟩
    · exact (hother first hf).trans (hother second hs).symm
    · have ho := hother other hh
      subst ho
      simp only [learn, Function.update_self, Option.map_eq_some_iff] at hcov
      obtain ⟨row, hrow, rfl⟩ := hcov
      exact hc hfree row hrow
    · have ho := hother other hh
      subst ho
      simp only [learn, Function.update_self] at hw
      cases hw

/-- Freeing the slot one holds. -/
theorem Guarded.freeSlot (h : Guarded process world notes) {freed : ℕ} {done : Unit}
    (hm : (notes worker).holds = some freed)
    (hp : perform worker (.freeSlot freed) reply world = some (done, after)) :
    Guarded process after
      (Function.update notes worker (learn (notes worker) (.freeSlot freed) done)) := by
  cases hp
  have hholder : (notes worker).holds.isSome = true := by
    rw [hm]
    rfl
  have hnobody : ∀ other, (Function.update notes worker
      (learn (notes worker) (.freeSlot freed) ()) other).holds.isSome = true → False := by
    intro other ho
    by_cases hne : other = worker
    · subst hne
      rw [Function.update_self] at ho
      cases ho
    · rw [Function.update_of_ne hne] at ho
      exact hne (h.unique other worker ho hholder)
  refine ⟨h.tracked, fun other held hheld => ?_, fun first _ hf _ => ?_,
    fun other txids hh _ => ?_, fun other txid hh _ _ => ?_⟩
  · exact (hnobody other (by rw [hheld]; rfl)).elim
  · exact (hnobody first hf).elim
  · exact (hnobody other hh).elim
  · exact (hnobody other hh).elim

/-- A worker that starts over forgets that it held the slot, which stays taken. -/
theorem Guarded.forget (h : Guarded process world notes) :
    Guarded process world (Function.update notes worker ⟨none, none, none, [], false⟩) := by
  have hkept : ∀ other, (Function.update notes worker
      (⟨none, none, none, [], false⟩ : VersionNote) other).holds.isSome = true →
      Function.update notes worker ⟨none, none, none, [], false⟩ other = notes other := by
    intro other ho
    by_cases hne : other = worker
    · subst hne
      rw [Function.update_self] at ho
      cases ho
    · rw [Function.update_of_ne hne]
  refine ⟨h.tracked, fun other held hheld => ?_, fun first second hf hs => ?_,
    fun other txids hh hc => ?_, fun other txid hh hw => ?_⟩
  · rw [hkept other (by rw [hheld]; rfl)] at hheld
    exact h.held other held hheld
  · rw [hkept first hf] at hf
    rw [hkept second hs] at hs
    exact h.unique first second hf hs
  · have hk := hkept other hh
    rw [hk] at hh hc
    exact h.covers other txids hh hc
  · have hk := hkept other hh
    rw [hk] at hh hw
    exact h.written other txid hh hw

/-- The actions run in one process, and a reclaim takes the slot with a row
that tracks every version broadcast so far. -/
def reclaimsFresh (process : ℕ) (world : OnchainWorld) : OnchainOp → Bool
  | .takeSlot taken read => decide (taken = process) && (world.slots process ||
      read.all fun row => world.refunds.all fun txid => decide (txid ∈ trackedRefundTxids row))
  | _ => true

/-- What a fresh take of the slot promises. -/
theorem reclaimsFresh_takeSlot {taken : ℕ} {read : Option OnchainSendSwapRow}
    (h : reclaimsFresh process world (.takeSlot taken read) = true) :
    taken = process ∧ (world.slots process = false → ∀ row ∈ read,
      world.refunds ⊆ trackedRefundTxids row) := by
  simp only [reclaimsFresh, Bool.and_eq_true, decide_eq_true_eq, Bool.or_eq_true] at h
  refine ⟨h.1, fun hs row hr txid ht => ?_⟩
  have hall := h.2.resolve_left (by simp [hs])
  rw [Option.mem_def.mp hr, Option.all_some] at hall
  exact of_decide_eq_true (List.all_eq_true.mp hall txid ht)

/-- Every licensed action keeps every version tracked. -/
theorem Guarded.act {op : OnchainOp} {answer : op.Ans} (h : Guarded process world notes)
    (hm : may (notes worker) op) (hc : reclaimsFresh process world op = true)
    (hp : perform worker op reply world = some (answer, after)) :
    Guarded process after (Function.update notes worker (learn (notes worker) op answer)) := by
  cases op with
  | get =>
    cases hp
    refine h.step rfl rfl h.tracked (fun hh => ⟨fun txids hcov => ?_, fun txid hw =>
      h.written worker txid hh hw⟩) (.inr ⟨rfl, fun hr => ⟨hr, rfl⟩⟩)
    simp only [learn] at hcov
    split at hcov
    · cases hcov
    · next hr =>
      cases hcov
      exact h.tracked hr
  | update source target columns unrecorded => exact h.update hm hp
  | patch columns => exact h.patch hm hp
  | broadcastRefund txid =>
    cases hp
    have hnew := h.written worker txid hm.1 hm.2
    refine h.step ?_ rfl ?_ (fun hh => ⟨nofun, fun other hw hr => ?_⟩) (.inl hm.1)
    · split <;> rfl
    · split
      · intro hr other ho
        rcases List.mem_cons.mp ho with rfl | ho
        · exact hnew hr
        · exact h.tracked hr ho
      · exact h.tracked
    · have hrow : (if sent reply = true then { world with refunds := txid :: world.refunds }
          else world).row = world.row := by split <;> rfl
      rw [hrow] at hr ⊢
      exact h.written worker other hh hw hr
  | takeSlot taken read =>
    obtain ⟨rfl, hfresh⟩ := reclaimsFresh_takeSlot hc
    exact h.takeSlot hfresh hp
  | freeSlot freed => exact h.freeSlot hm hp
  | claimFundLease =>
    refine h.quiet .rfl (perform_slots rfl hp) (perform_refunds rfl hp) ?_
    obtain ⟨since, updated, rfl⟩ := perform_claimFundLease hp
    exact fun hr => ⟨hr, rfl⟩
  | releaseFundLease =>
    cases hp
    exact h.quiet .rfl rfl rfl fun hr => ⟨hr, rfl⟩
  | recordFundingTx tx =>
    refine h.quiet .rfl (perform_slots rfl hp) (perform_refunds rfl hp) ?_
    obtain ⟨-, -, rfl⟩ | ⟨-, rfl⟩ := perform_recordFundingTx hp
    · exact fun hr => ⟨hr, rfl⟩
    · exact fun hr => ⟨hr, rfl⟩
  | transactionOutcome txid =>
    have hrow := perform_row rfl hp
    refine h.quiet ?_ (perform_slots rfl hp) (perform_refunds rfl hp) fun hr => ?_
    · obtain fault | ⟨_ | _ | _⟩ := answer <;> exact .rfl
    · rw [hrow] at hr ⊢
      exact ⟨hr, rfl⟩
  | findSpendWitness txid vout =>
    have hrow := perform_row rfl hp
    refine h.quiet ?_ (perform_slots rfl hp) (perform_refunds rfl hp) fun hr => ?_
    · obtain fault | ⟨_ | _⟩ := answer <;> exact .rfl
    · rw [hrow] at hr ⊢
      exact ⟨hr, rfl⟩
  | _ =>
    have hrow := perform_row rfl hp
    exact h.quiet .rfl (perform_slots rfl hp) (perform_refunds rfl hp) fun hr => by
      rw [hrow] at hr ⊢
      exact ⟨hr, rfl⟩

end IntentSolver.OnchainRefundVersions
