import IntentSolver.EvmSend

/-!
# An EVM send is locked once or refused, never both

The row is undecided while `quoted`. A worker may broadcast the lock only after it won
the move into `locking_evm`, and may push a lockup back only after it saw the row
`refused`. What carries this against stale copies is that a preimage is only ever known
of a row whose lock was won, so that no write leads out of `refused`.
-/

namespace IntentSolver.EvmSendCommit

open EvmPort EvmSendPlan EvmSend WorkerProgram WorkerInterleaving SingleCommit

/-- Where a state leaves the row. -/
def phaseOf : EvmSendSwapState → Phase
  | .quoted => .undecided
  | .funded => .undecided
  | .refused => .refused
  | _ => .underway

/-- The columns write a preimage. -/
def bares (columns : List EvmSendColumn) : Bool :=
  columns.any fun
    | .preimage _ => true
    | _ => false

/-- What a look at the row teaches; a preimage is only known of a row underway. -/
def Note.see (note : Note) (row : EvmSendSwapRow) : Note :=
  { note with
    left := note.left || decide (phaseOf row.state = .underway) || row.preimage.isSome
    declined := note.declined || decide (phaseOf row.state = .refused) }

/-- Moves of the row the worker's note licenses. -/
def mayMove (note : Note) (source target : EvmSendSwapState) : Prop :=
  (phaseOf source = .undecided ∧ phaseOf target ≠ .undecided) ∨
    (phaseOf target = .underway ∧ target ≠ .lockingEvm ∧
      (phaseOf source = .underway ∨ note.left = true))

/-- What a won move leaves of the note. -/
def noteAfter : EvmSendSwapState → Note
  | .lockingEvm => ⟨true, true, false⟩
  | .refused => ⟨false, false, true⟩
  | _ => ⟨false, true, false⟩

/-- Win before locking, see the refusal before giving back, and bare a preimage only of a
row underway. -/
def commitDiscipline : Discipline EvmSendOp.Ans where
  Note := Note
  fresh := Note.blank
  may
    | note, .update source target columns => mayMove note source target ∧
        (bares columns = true → phaseOf target = .underway)
    | note, .patch columns => bares columns = true → note.left = true
    | note, .broadcast .lock => note.holds = true
    | note, .refundArkade => note.declined = true
    | _, _ => True
  learn
    | note, .get, row => Note.see note row
    | note, .findRefundable, some _ => { note with declined := true }
    | note, .findClosedOverLock _, some _ => { note with left := true }
    | _, .update _ target _, true => noteAfter target
    | note, .broadcast .lock, _ => { note with holds := false, declined := false }
    | note, .refundArkade, _ => { note with holds := false, left := false }
    | note, _, _ => note

/-- The row's part of the ledger. -/
def ledgerOf (world : EvmSendWorld) : Ledger := ⟨phaseOf world.row.state, world.deeds⟩

/-- The ledger is in shape, and a preimage is only on a row underway. -/
structure CommitInv (world : EvmSendWorld) (notes : ℕ → Note) : Prop where
  ledger : Inv (ledgerOf world) notes
  bared : world.row.preimage ≠ none → phaseOf world.row.state = .underway

/-! ## Writes -/

/-- Columns that bare nothing leave the preimage alone. -/
theorem preimage_assignAll {columns : List EvmSendColumn} (h : bares columns = false)
    (row : EvmSendSwapRow) : (assignAll evmSendShape columns row).preimage = row.preimage := by
  unfold assignAll
  induction columns generalizing row with
  | nil => rfl
  | cons column rest ih =>
    rw [List.foldl_cons]
    unfold bares at h ih
    rw [List.any_cons, Bool.or_eq_false_iff] at h
    rw [ih h.2]
    cases column with
    | preimage preimage => cases h.1
    | _ => rfl

/-- A won move that bares nothing leaves the preimage alone. -/
theorem preimage_updateWhere {now : ℤ} {source target : EvmSendSwapState}
    {columns : List EvmSendColumn} {row next : EvmSendSwapRow} (hb : bares columns = false)
    (h : updateWhere evmSendShape now source target columns row = some next) :
    next.preimage = row.preimage := by
  rw [updateWhere_eq evmSendShape h, preimage_assignAll hb]
  rfl

/-- A look at the row as it stands is backed by it. -/
theorem see_backed {world : EvmSendWorld} {notes : ℕ → Note} (h : CommitInv world notes)
    (note : Note) : note.Backed (Note.see note world.row) (ledgerOf world).phase := by
  refine ⟨fun hh => hh, fun hl => ?_, fun hd => ?_⟩
  · simp only [Note.see, Bool.or_eq_true, decide_eq_true_eq] at hl
    obtain (hl | hl) | hl := hl
    · exact .inl hl
    · exact .inr hl
    · exact .inr (h.bared (Option.isSome_iff_ne_none.mp hl))
  · simp only [Note.see, Bool.or_eq_true, decide_eq_true_eq] at hd
    exact hd

/-- Less is known after a broadcast than before. -/
theorem backed_spent (note : Note) (phase : Phase) :
    note.Backed { note with holds := false, declined := false } phase :=
  ⟨by simp, .inl, by simp⟩

/-- What a won move does to the ledger. -/
theorem step_update {world : EvmSendWorld} {notes : ℕ → Note} (h : CommitInv world notes)
    {worker : ℕ} {source target : EvmSendSwapState} {row : EvmSendSwapRow}
    (hm : mayMove (notes worker) source target) (hs : world.row.state = source)
    (ht : row.state = target) :
    Step worker (notes worker) (ledgerOf world) (noteAfter target)
      ⟨phaseOf row.state, deedOf worker target ++ world.deeds⟩ := by
  subst hs ht
  obtain ⟨hsource, htarget⟩ | ⟨hunderway, hnew, hfrom⟩ := hm
  · -- The row was undecided: this is the win, the refusal or a way past both.
    cases hr : row.state with
    | lockingEvm => exact .win hsource rfl
    | refused => exact .refuse hsource rfl rfl
    | quoted => exact absurd (by rw [hr]; rfl) htarget
    | funded => exact absurd (by rw [hr]; rfl) htarget
    | _ => exact .pass hsource rfl rfl
  · have hphase : (ledgerOf world).phase = .underway :=
      hfrom.elim id fun hl => h.ledger.left worker hl
    have hdeeds : deedOf worker row.state = [] := by
      cases hr : row.state with
      | lockingEvm => exact absurd hr hnew
      | refused =>
        rw [hr] at hunderway
        cases hunderway
      | _ => rfl
    have hnote : noteAfter row.state = ⟨false, true, false⟩ := by
      cases hr : row.state with
      | lockingEvm => exact absurd hr hnew
      | refused =>
        rw [hr] at hunderway
        cases hunderway
      | _ => rfl
    have hledger : (⟨phaseOf row.state, deedOf worker row.state ++ world.deeds⟩ : Ledger) =
        ledgerOf world := by
      unfold ledgerOf at hphase ⊢
      dsimp only at hphase
      rw [hunderway, hphase, hdeeds, List.nil_append]
    rw [hledger, hnote]
    exact .look ⟨by simp, fun _ => .inr hphase, by simp⟩

/-- What each action does to the ledger and to the worker's note. -/
theorem perform_step {world next : EvmSendWorld} {notes : ℕ → Note} (h : CommitInv world notes)
    {worker : ℕ} {op : EvmSendOp} {reply : EvmSendReply} {answer : op.Ans}
    (hm : commitDiscipline.may (notes worker) op)
    (hp : perform worker op reply world = some (answer, next)) :
    Step worker (notes worker) (ledgerOf world) (commitDiscipline.learn (notes worker) op answer)
      (ledgerOf next) ∧ (next.row.preimage ≠ none → phaseOf next.row.state = .underway) := by
  cases op with
  | get =>
    cases hp
    exact ⟨.look (see_backed h _), h.bared⟩
  | update source target columns =>
    simp only [perform] at hp
    split at hp
    next row hu =>
      cases hp
      obtain ⟨hs, ht⟩ := updateWhere_some evmSendShape hu
      refine ⟨step_update h hm.1 hs ht, fun hb => ?_⟩
      cases hc : bares columns with
      | true =>
        rw [show row.state = target from ht]
        exact hm.2 hc
      | false =>
        dsimp only at hb ⊢
        rw [preimage_updateWhere hc hu] at hb
        have hunder := h.bared hb
        rw [show world.row.state = source from hs] at hunder
        rw [show row.state = target from ht]
        obtain ⟨hsource, -⟩ | ⟨htarget, -, -⟩ := hm.1
        · exact absurd (hsource.symm.trans hunder) (by simp)
        · exact htarget
    next =>
      cases hp
      exact ⟨.look (Note.backed_refl _ _), h.bared⟩
  | patch columns =>
    cases hp
    have hstate : (patchRow evmSendShape world.clock columns world.row).state = world.row.state :=
      state_patchRow evmSendShape _ _ _
    refine ⟨?_, fun hb => ?_⟩
    · unfold ledgerOf
      dsimp only
      rw [hstate]
      exact .look (Note.backed_refl _ _)
    · dsimp only at hb ⊢
      rw [hstate]
      cases hc : bares columns with
      | true => exact h.ledger.left worker (hm hc)
      | false =>
        refine h.bared fun hn => hb ?_
        unfold patchRow
        rw [preimage_assignAll hc]
        exact hn
  | claimRefundTxid txid =>
    simp only [perform] at hp
    split at hp <;> cases hp <;> exact ⟨.look (Note.backed_refl _ _), h.bared⟩
  | findRefundable =>
    cases hp
    refine ⟨?_, h.bared⟩
    split
    next hr => exact .look ⟨id, .inl, fun _ => .inr (by unfold ledgerOf; rw [hr.1]; rfl)⟩
    · exact .look (Note.backed_refl _ _)
  | findClosedOverLock nowSeconds =>
    cases hp
    refine ⟨?_, h.bared⟩
    split
    next hr =>
      refine .look ⟨id, fun _ => .inr ?_, .inl⟩
      unfold ledgerOf
      obtain hs | hs := hr.1 <;> rw [hs] <;> rfl
    · exact .look (Note.backed_refl _ _)
  | now =>
    cases hp
    exact ⟨.look (Note.backed_refl _ _), h.bared⟩
  | read question =>
    cases hp
    exact ⟨.look (Note.backed_refl _ _), h.bared⟩
  | claimArkade preimage =>
    cases hp
    exact ⟨.look (Note.backed_refl _ _), h.bared⟩
  | refundArkade =>
    cases hp
    exact ⟨.giveBack hm rfl rfl, h.bared⟩
  | broadcast call =>
    simp only [perform, performBroadcast, Option.some.injEq] at hp
    cases call with
    | lock =>
      have hcommit : Step worker (notes worker) (ledgerOf world)
          { notes worker with holds := false, declined := false }
          ⟨phaseOf world.row.state, (worker, .committed) :: world.deeds⟩ := .commit hm rfl rfl
      split at hp <;> cases hp
      · exact ⟨hcommit, h.bared⟩
      · exact ⟨hcommit, h.bared⟩
      · exact ⟨.look (backed_spent _ _), h.bared⟩
    | _ => split at hp <;> cases hp <;> exact ⟨.look (Note.backed_refl _ _), h.bared⟩

/-! ## The code keeps the discipline -/

section Jobs

variable (deps : EvmSendDeps)

/-- A question teaches nothing about the commitment. -/
theorem idle_ask (question : EvmSendQuestion) : commitDiscipline.Idle (ask question) :=
  (Discipline.idle_issue fun _ => ⟨trivial, fun _ => rfl⟩).bind Discipline.idle_ofExcept

/-- The clock teaches nothing about the commitment. -/
theorem idle_now : commitDiscipline.Idle (issue .now) :=
  Discipline.idle_issue fun _ => ⟨trivial, fun _ => rfl⟩

/-- Working out where the scan starts teaches nothing about the commitment. -/
theorem idle_claimScanFloor (row : EvmSendSwapRow) (height : ℤ) :
    commitDiscipline.Idle (claimScanFloor deps row height) :=
  idle_claimScanFloor_of (fun _ => idle_ask _) idle_now row height

/-- Observing teaches the worker nothing, and before the lock was won it finds no preimage
but the one on the row. -/
theorem obeys_observe (row : EvmSendSwapRow) (note : Note) :
    commitDiscipline.Obeys note (observe deps row) fun seen after =>
      after = note ∧ (row.state ∉ EVM_SEND_EXPOSED → seen.preimage = row.preimage) :=
  (obeys_observe_of (fun _ _ => idle_ask _) idle_now ((idle_ask _).quiet note) row).mono
    fun _ _ h => ⟨h.1, fun he => h.2.resolve_right fun hx => he hx.2⟩

/-- A licensed move leaves the note of the state it won. -/
theorem obeys_transition {note : Note} {id : String} {source target : EvmSendSwapState}
    {columns : List EvmSendColumn} (hm : mayMove note source target)
    (hb : bares columns = true → phaseOf target = .underway) :
    commitDiscipline.Obeys note (transition id source target columns) fun _ after =>
      after = noteAfter target := by
  refine Discipline.obeys_issue_bind.mpr ⟨⟨hm, hb⟩, fun won => ?_⟩
  cases won with
  | true => rfl
  | false => trivial

/-- Broadcasts that lock nothing teach nothing. -/
theorem idle_broadcast {call : EvmCall} (h : call ≠ .lock) :
    commitDiscipline.Idle (broadcast call) := by
  refine Discipline.Idle.bind (Discipline.idle_issue fun note => ?_) Discipline.idle_ofExcept
  cases call with
  | lock => exact absurd rfl h
  | _ => exact ⟨trivial, fun _ => rfl⟩

/-- A winner may broadcast the lock. -/
theorem free_broadcast_lock {note : Note} (h : note.holds = true) :
    commitDiscipline.Obeys note (broadcast .lock) fun _ _ => True :=
  Discipline.obeys_issue_bind.mpr ⟨h, fun _ => Discipline.free_ofExcept _ _⟩

/-- The lock comes once and last among the calls, so one win covers them all. -/
theorem obeys_lockCalls {note : Note} (h : note.holds = true) (amount allowance : ℕ)
    (txid : String) :
    commitDiscipline.Obeys note (broadcastAll (lockCalls amount allowance) txid)
      fun _ _ => True := by
  have hlock : ∀ txid, commitDiscipline.Obeys note (broadcastAll [.lock] txid) fun _ _ => True :=
    fun txid => (free_broadcast_lock h).bind fun _ _ _ => trivial
  unfold lockCalls
  split
  · exact hlock txid
  · split
    · exact (idle_broadcast (by simp)).quiet.obeys_bind hlock
    · exact (idle_broadcast (by simp)).quiet.obeys_bind fun _ =>
        (idle_broadcast (by simp)).quiet.obeys_bind hlock

/-- A patch without a preimage is licensed from any notes. -/
theorem free_patch {columns : List EvmSendColumn} (h : bares columns = false) :
    commitDiscipline.Free (patch columns) :=
  Discipline.free_issue fun _ hb => absurd (hb.symm.trans h) (by simp)

/-- Locking the EVM leg is licensed from any notes. -/
theorem free_lockEvm : commitDiscipline.Free (EvmSend.lockEvm deps) := by
  intro note
  refine Discipline.obeys_issue_bind.mpr ⟨trivial, fun current => ?_⟩
  refine (obeys_observe deps current _).bind fun seen after ha => ?_
  obtain ⟨rfl, -⟩ := ha
  split
  · trivial
  next hplan =>
  simp only [ne_eq, Decidable.not_not] at hplan
  have hsource : phaseOf current.state = .undecided := by
    have hp := planEvmSend_presupposes current.plan seen
    rw [hplan] at hp
    obtain ⟨hq, -⟩ | hf := hp.2
    · rw [show current.state = .quoted from hq]
      rfl
    · rw [show current.state = .funded from hf]
      rfl
  have happroval : commitDiscipline.Idle (askApproval deps) := by
    unfold askApproval
    split
    · exact idle_ask _
    · trivial
  refine happroval.quiet.obeys_bind fun approved => ?_
  split
  · trivial
  refine (obeys_transition (.inl ⟨hsource, by simp [phaseOf]⟩) (by simp [bares])).bind
    fun _ won hw => ?_
  subst hw
  refine (idle_ask _).quiet.obeys_bind fun allowance => (obeys_lockCalls rfl _ _ _).bind
    fun txid after _ => (free_patch (by rfl) after).bind fun _ _ _ => trivial

/-- What a worker knows of the copy of the row it steps. -/
structure Knows (note : Note) (row : EvmSendSwapRow) : Prop where
  underway : phaseOf row.state = .underway → note.left = true
  bared : row.preimage ≠ none → note.left = true

/-- A worker knows the row it has just seen. -/
theorem knows_see (note : Note) (row : EvmSendSwapRow) : Knows (Note.see note row) row := by
  refine ⟨fun h => ?_, fun h => ?_⟩
  · simp [Note.see, h]
  · simp [Note.see, Option.isSome_iff_ne_none.mpr h]

/-- The Arkade claim is licensed once the row has left its quote. -/
theorem obeys_claimArkade {note : Note} {row : EvmSendSwapRow} (hl : note.left = true)
    (preimage : String) :
    commitDiscipline.Obeys note (EvmSend.claimArkade row preimage) fun _ _ => True := by
  have hrest : commitDiscipline.Free (do
      let _ ← issue .get
      let arkTxid ← Program.ofExcept (← issue (.claimArkade preimage))
      transition row.id .claiming .claimed [.claimArkTxid arkTxid]
      return false) := fun after => by
    refine Discipline.obeys_issue_bind.mpr ⟨trivial, fun _ =>
      Discipline.obeys_issue_bind.mpr ⟨trivial, fun answer => ?_⟩⟩
    refine (Discipline.quiet_ofExcept answer).obeys_bind fun arkTxid =>
      (obeys_transition (.inr ⟨rfl, by simp, .inl rfl⟩) (by simp [bares])).bind fun _ _ _ => trivial
  have hmove : ∀ (current : EvmSendSwapRow) (note : Note), note.left = true →
      commitDiscipline.Obeys note (do
        if current.state ≠ .claiming then
          transition row.id current.state .claiming [.preimage preimage]
        let _ ← issue .get
        let arkTxid ← Program.ofExcept (← issue (.claimArkade preimage))
        transition row.id .claiming .claimed [.claimArkTxid arkTxid]
        return false) fun _ _ => True := fun current note hl => by
    dsimp only
    split
    · exact (obeys_transition (.inr ⟨rfl, by simp, .inr hl⟩) fun _ => rfl).bind
        fun _ after _ => hrest after
    · exact hrest note
  unfold EvmSend.claimArkade
  split
  · exact hmove row note hl
  · refine Discipline.obeys_issue_bind.mpr ⟨trivial, fun current => hmove current _ ?_⟩
    simp [commitDiscipline, Note.see, hl]

/-- A live row may be moved on, except into the lock. -/
theorem mayMove_of_live {note : Note} {source target : EvmSendSwapState} (hs : source ∉ TERMINAL)
    (ht : phaseOf target = .underway) (hn : target ≠ .lockingEvm) : mayMove note source target := by
  have hlive : phaseOf source = .undecided ∨ phaseOf source = .underway := by
    cases source with
    | refused => exact absurd (by simp [TERMINAL]) hs
    | quoted => exact .inl rfl
    | funded => exact .inl rfl
    | _ => exact .inr rfl
  obtain hu | hu := hlive
  · exact .inl ⟨hu, by simp [ht]⟩
  · exact .inr ⟨ht, hn, .inl hu⟩

/-- The EVM refund is licensed from a locked row. -/
theorem obeys_refundEvm {note : Note} {row : EvmSendSwapRow}
    (hs : row.state = .lockingEvm ∨ row.state = .awaitingClaim ∨ row.state = .refundingEvm) :
    commitDiscipline.Obeys note (EvmSend.refundEvm row) fun _ _ => True := by
  have hrest : commitDiscipline.Free (do
      let txid ← broadcast .refund
      let _ ← issue (.claimRefundTxid txid)
      return false) := fun after =>
    (idle_broadcast (by simp)).quiet.obeys_bind fun txid =>
      Discipline.obeys_issue_bind.mpr ⟨trivial, fun _ => trivial⟩
  have hunderway : phaseOf row.state = .underway := by
    obtain hs | hs | hs := hs <;> rw [hs] <;> rfl
  unfold EvmSend.refundEvm
  dsimp only
  split
  · exact (obeys_transition (.inr ⟨rfl, by simp, .inl hunderway⟩) (by simp [bares])).bind
      fun _ after _ => hrest after
  · exact hrest note

/-- One step of the row it knows is licensed. -/
theorem free_step {note : Note} {row : EvmSendSwapRow} (hk : Knows note row) :
    commitDiscipline.Obeys note (EvmSend.step deps row) fun _ _ => True := by
  refine (obeys_observe deps row note).bind fun seen after ha => ?_
  obtain ⟨rfl, hseen⟩ := ha
  have hp := planEvmSend_presupposes row.plan seen
  split
  · trivial
  next reason ho =>
    rw [ho] at hp
    have hs : row.state = .quoted := hp.2
    exact (obeys_transition (.inl ⟨by rw [hs]; rfl, by simp [phaseOf]⟩) (by simp [bares])).bind
      fun _ _ _ => trivial
  next reason ho =>
    rw [ho] at hp
    exact (obeys_transition (mayMove_of_live hp.1 rfl (by simp)) (by simp [bares])).bind
      fun _ _ _ => trivial
  · exact free_lockEvm deps _
  next ho =>
    rw [ho] at hp
    have hs : row.state = .lockingEvm := hp.2
    exact (obeys_transition (.inr ⟨rfl, by simp, .inl (by rw [hs]; rfl)⟩) (by simp [bares])).bind
      fun _ _ _ => trivial
  next preimage ho =>
    rw [ho] at hp
    refine obeys_claimArkade ?_ preimage
    by_cases he : row.state ∈ EVM_SEND_EXPOSED
    · refine hk.underway ?_
      simp only [EVM_SEND_EXPOSED, List.mem_cons, List.not_mem_nil, or_false] at he
      obtain hs | hs | hs | hs := he <;> rw [hs] <;> rfl
    · refine hk.bared fun hn => ?_
      have hsome : seen.preimage.or row.preimage = some preimage := hp.2.1
      rw [hseen he, hn] at hsome
      cases hsome
  next ho =>
    rw [ho] at hp
    exact obeys_refundEvm hp.2.2
  · exact (obeys_transition (.inr ⟨rfl, by simp, .inl rfl⟩) (by simp [bares])).bind
      fun _ _ _ => trivial

/-- A tick is licensed from any notes. -/
theorem free_tick (rounds : ℕ) : commitDiscipline.Free (EvmSend.tick deps rounds) := by
  induction rounds with
  | zero => exact fun _ => trivial
  | succ rounds ih =>
    intro note
    refine Discipline.obeys_issue_bind.mpr ⟨trivial, fun row => ?_⟩
    refine (free_step deps (knows_see note row)).bind fun again after _ => ?_
    split
    · exact ih after
    · trivial

/-- The refund sweep is licensed from any notes. -/
theorem free_refundSweep : commitDiscipline.Free EvmSend.refundSweep := by
  intro note
  refine Discipline.obeys_issue_bind.mpr ⟨trivial, fun found => ?_⟩
  cases found with
  | none => trivial
  | some row =>
    refine (idle_ask _).quiet.obeys_bind fun outputs => ?_
    split
    · refine (idle_ask _).quiet.obeys_bind fun spent => ?_
      split
      · exact free_patch rfl _
      · trivial
    · refine Discipline.obeys_issue_bind.mpr ⟨rfl, fun answer => ?_⟩
      exact (Discipline.quiet_ofExcept answer).obeys_bind fun txid => free_patch rfl _

/-- The late-lock watch is licensed from any notes. -/
theorem free_watchLateLocks : commitDiscipline.Free (EvmSend.watchLateLocks deps) := by
  intro note
  refine idle_now.quiet.obeys_bind fun now =>
    Discipline.obeys_issue_bind.mpr ⟨trivial, fun found => ?_⟩
  cases found with
  | none => trivial
  | some row =>
    refine (idle_ask _).quiet.obeys_bind fun height => (idle_ask _).quiet.obeys_bind fun _ => ?_
    split
    · trivial
    refine (idle_claimScanFloor deps row height).quiet.obeys_bind fun floor =>
      idle_now.quiet.obeys_bind fun now => (idle_ask _).quiet.obeys_bind fun claimed => ?_
    cases claimed with
    | none => trivial
    | some preimage => exact ⟨fun _ => rfl, fun _ => trivial⟩

end Jobs

/-- Every schedule of ticks, sweeps and watches keeps the ledger in shape. -/
def commitProtocol : Protocol evmSendMachine anything where
  discipline := commitDiscipline
  inv := CommitInv
  forget _ _ worker h := ⟨h.ledger.forget worker, h.bared⟩
  act world notes worker op reply answer next h hm _ hp := by
    obtain ⟨hs, hb⟩ := perform_step h hm hp
    exact ⟨hs.keeps h.ledger, hb⟩
  stir world notes move next h hs := by
    cases hs
    exact ⟨h.ledger, h.bared⟩
  jobs
    | .tick deps rounds => free_tick deps rounds _
    | .refundSweep => free_refundSweep _
    | .watchLateLocks deps => free_watchLateLocks deps _

/-- Every run from a fresh quote leaves a clean history. -/
theorem clean_of_run {row : EvmSendSwapRow} {clock : ℕ} {events : List (Event evmSendMachine)}
    {final : Config evmSendMachine} (h : run (boot (quoted row clock)) events = some final) :
    Clean final.world.deeds := by
  have hstart : CommitInv (quoted row clock) fun _ => Note.blank := ⟨inv_start, by simp [quoted]⟩
  obtain ⟨notes, hf⟩ := commitProtocol.inv_of_run hstart (permitted_anything _ _) h
  exact hf.ledger.clean

end IntentSolver.EvmSendCommit
