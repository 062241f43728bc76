import IntentSolver.LightningSendSteps

/-!
# Collecting the lockup of a Lightning send

A send row is closed as `claimed` by three exits: a pending claim finalized, a
claim made this tick, and L1 claims that settled. The second and third close
it only when every adopted output is known collected, provided the set the
tick recomputes after its claim is within what the claim took; the first does
so when the finalized claim spent them all.
-/

namespace IntentSolver.LightningSendCollection

open SwapStore ArkadeLockup LockupCollection WorkerProgram WorkerInterleaving LightningPort
open LightningSendStore LightningSend LightningSendWorld LightningSendSteps CollectedLockup

/-- What a collecting worker may do. -/
def may (note : CollectNote) : SendOp → Prop
  | .update source target columns =>
    target ∈ (LnSendMachine source).edges ∧
      (∀ column ∈ columns, column.inTransition = true ∧
        (source ≠ .quoted → adopts column = false)) ∧
      (target = .claimed → note.Closes)
  | .patch columns => ∀ column ∈ columns, adopts column = false ∧
      ∀ steps, column = .unrolledClaim steps →
        ∀ outpoint ∈ confirmedKeys steps, outpoint ∈ note.collected
  | _ => True

/-- What it learns from an answer. -/
def learn (note : CollectNote) : (op : SendOp) → op.Ans → CollectNote
  | .get, row =>
    note.read (decide (row.state = .quoted)) row.lockupOutpoints (row.unrolledClaim.getD [])
  | .boundedInputs outputs, inputs => note.select outputs inputs
  | .claim outputs, .ok _ => note.claim outputs
  | .claim _, .error _ => { note with offered := none }
  | .finalizePendingClaim, .ok (some _) => note.finalize
  | .findClaimPreimage outpoint, .ok (some _) => note.found outpoint
  | .claimUnrolled lockup _, (_, .ok (.confirmed _)) => note.found lockup
  | _, _ => note

/-- The notes and licences of a collecting worker. -/
def collectDiscipline : Discipline SendOp.Ans where
  Note := CollectNote
  fresh := .fresh
  may := may
  learn := learn

variable {note : CollectNote}

/-! ## What a worker never forgets -/

/-- No answer takes anything back. -/
theorem extends_learn (note : CollectNote) (op : SendOp) (answer : op.Ans) :
    Extends note (learn note op answer) := by
  cases op with
  | get => exact extends_read note _ _ _
  | boundedInputs outputs => exact extends_select note _ _
  | claim outputs =>
    rcases answer with fault | txid
    · exact ⟨fun _ h => h, fun _ h => h, id⟩
    · exact ⟨fun _ h => h, fun _ h => h, id⟩
  | finalizePendingClaim =>
    rcases answer with fault | _ | txid
    · exact .refl note
    · exact .refl note
    · exact extends_finalize note
  | findClaimPreimage outpoint =>
    rcases answer with fault | _ | preimage
    · exact .refl note
    · exact .refl note
    · exact extends_found note outpoint
  | claimUnrolled lockup record =>
    rcases answer with ⟨saved, fault | step⟩
    · exact .refl note
    · cases step with
      | confirmed record => exact extends_found note lockup
      | waiting => exact .refl note
      | spent => exact .refl note
      | closed reason => exact .refl note
      | pending record => exact .refl note
  | _ => exact .refl note

/-! ## The code obeys -/

/-- An edge that neither claims nor re-adopts is licensed from any notes. -/
theorem free_update {source target : SendSwapState} {columns : List SendColumn}
    (he : target ∈ (LnSendMachine source).edges) (ht : target ≠ .claimed)
    (hc : ∀ column ∈ columns, column.inTransition = true ∧
      (source ≠ .quoted → adopts column = false)) :
    collectDiscipline.Free (issue (.update source target columns)) :=
  Discipline.free_issue fun _ => ⟨he, hc, fun h => absurd h ht⟩

/-- A patch of columns beside the claim is licensed from any notes. -/
theorem free_patch {columns : List SendColumn}
    (hc : ∀ column ∈ columns, adopts column = false ∧
      ∀ steps, column ≠ .unrolledClaim steps) :
    collectDiscipline.Free (issue (.patch columns)) :=
  Discipline.free_issue fun _ column hm =>
    ⟨(hc column hm).1, fun steps hs => absurd hs ((hc column hm).2 steps)⟩

/-- The same, with the store's answer checked. -/
theorem free_patch_checked {columns : List SendColumn}
    (hc : ∀ column ∈ columns, adopts column = false ∧
      ∀ steps, column ≠ .unrolledClaim steps) :
    collectDiscipline.Free (LightningSend.patch columns) :=
  (Discipline.free_ofExcept _).bind fun _ =>
    (free_patch hc).bind fun written => Discipline.free_ofExcept written

/-- Asking the outside world is licensed from any notes. -/
theorem free_read (question : SendQuestion) :
    collectDiscipline.Free (issue (.read question)) := Discipline.free_issue fun _ => trivial

/-- Asking with the answer checked is licensed from any notes. -/
theorem free_ask (question : SendQuestion) : collectDiscipline.Free (ask question) :=
  (free_read question).bind fun answer => Discipline.free_ofExcept answer

/-- The columns of a refund are no business of the claim. -/
theorem refundColumns_plain (all : Bool) (txid : String) :
    ∀ column ∈ refundColumns all txid, adopts column = false ∧
      ∀ steps, column ≠ .unrolledClaim steps := by
  cases all <;> simp [refundColumns, adopts]

/-- Pushing a refund is licensed from any notes. -/
theorem free_pushRefund : collectDiscipline.Free pushRefund := by
  refine (free_ask .findLockups).bind fun outputs => ?_
  split
  · refine (free_ask .lockupProvablySpent).bind fun proven => ?_
    split
    · exact (free_patch_checked (by simp [adopts])).bind fun _ => Discipline.free_ret _
    · exact Discipline.free_ret _
  · have hr : collectDiscipline.Free (issue (.refund outputs)) :=
      Discipline.free_issue fun _ => trivial
    refine hr.bind fun answer => ?_
    refine (Discipline.free_ofExcept _).bind fun txid => ?_
    have hb : collectDiscipline.Free (issue (.boundedInputs outputs)) :=
      Discipline.free_issue fun _ => trivial
    refine hb.bind fun inputs => ?_
    exact (free_patch_checked (refundColumns_plain _ _)).bind fun _ => Discipline.free_ret _

/-- Recording a failed refund is licensed from any notes. -/
theorem free_recordRefundFailure (error : Fault) :
    collectDiscipline.Free (recordRefundFailure error) := by
  have hp : collectDiscipline.Free (tryPatch
      [.refundAttempt (String.ofList (("failed: " ++ error.message).toList.take 500))]) :=
    (free_patch (by simp [adopts])).bind fun _ => Discipline.free_ret _
  exact hp.bind fun _ => Discipline.free_ret _

/-- Refunding after a terminal failure is licensed from any notes. -/
theorem free_refundAfterTerminalFailure :
    collectDiscipline.Free refundAfterTerminalFailure := by
  refine (free_read .findLockups).bind fun lockups => ?_
  rcases lockups with fault | outputs
  · exact free_recordRefundFailure fault
  · show collectDiscipline.Free (if outputs.isEmpty = true then _ else _)
    split
    · have hp : collectDiscipline.Free (tryPatch [.refundAttempt "nothing-at-script"]) :=
        (free_patch (by simp [adopts])).bind fun _ => Discipline.free_ret _
      exact hp.bind fun _ => Discipline.free_ret _
    · have hr : collectDiscipline.Free (issue (.refund outputs)) :=
        Discipline.free_issue fun _ => trivial
      refine hr.bind fun pushed => ?_
      rcases pushed with fault | txid
      · exact free_recordRefundFailure fault
      · have hb : collectDiscipline.Free (issue (.boundedInputs outputs)) :=
          Discipline.free_issue fun _ => trivial
        refine hb.bind fun inputs => ?_
        have hp : collectDiscipline.Free (tryPatch
            (refundColumns (decide (inputs.length = outputs.length)) txid ++
              [SendColumn.refundAttempt "pushed"])) := by
          refine (free_patch fun column hm => ?_).bind fun _ => Discipline.free_ret _
          rcases List.mem_append.mp hm with hm | hm
          · exact refundColumns_plain _ _ column hm
          · rw [List.mem_singleton.mp hm]
            exact ⟨rfl, by simp⟩
        exact hp.bind fun _ => Discipline.free_ret _

/-- The discipline never minds what a row does outside its refunds and its claim. -/
theorem freeSteps : FreeSteps collectDiscipline where
  get := Discipline.free_issue fun _ => trivial
  findRefundable _ := Discipline.free_issue fun _ => trivial
  backfillExternal := Discipline.free_issue fun _ => trivial
  backfillPushed := Discipline.free_issue fun _ => trivial
  now := Discipline.quiet_issue (fun _ => trivial) fun _ _ => rfl
  tipHeight := Discipline.quiet_issue (fun _ => trivial) fun _ _ => rfl
  read := free_read
  getSendHtlcState := Discipline.free_issue fun _ => trivial
  getPayment _ := Discipline.free_issue fun _ => trivial
  payInvoice _ := Discipline.free_issue fun _ => trivial
  payResult := Discipline.free_issue fun _ => trivial
  update _ _ _ he ht hc := free_update he ht hc
  patch columns ho := free_patch fun column hm => by
    have hplain := ho column hm
    cases column with
    | lockupOutpoints adopted => cases hplain
    | unrolledClaim steps => cases hplain
    | _ => exact ⟨rfl, fun steps hs => by cases hs⟩
  pushRefund := free_pushRefund
  refundAfterTerminalFailure := free_refundAfterTerminalFailure

/-! ## The claiming step -/

/-- An output the notes know collected. -/
def Known (note : collectDiscipline.Note) (outpoint : Outpoint) : Prop :=
  outpoint ∈ CollectNote.collected note

/-- The Lightning port keeps what it promises about its answers. -/
theorem collectingPort (wallet : WalletCaps) :
    CollectingPort collectDiscipline (claimPort wallet) Known where
  keeps outpoint note op answer hk := (extends_learn note op answer).collected hk
  findLockupOutpoints read hr := by
    unfold claimPort at hr
    dsimp only at hr
    split at hr
    · cases hr
      exact free_ask .findLockupOutpoints
    · cases hr
  claimUnrolled claim hc key record note := by
    unfold claimPort at hc
    dsimp only at hc
    split at hc
    · cases hc
      refine ⟨trivial, fun answer => ?_⟩
      intro confirmed ha
      obtain ⟨saved, outcome⟩ := answer
      have ha : outcome = .ok (.confirmed confirmed) := ha
      subst ha
      exact List.mem_cons_self
    · cases hc
  findClaimPreimage find hf outpoint note := by
    unfold claimPort at hf
    dsimp only at hf
    split at hf
    · cases hf
      refine Discipline.obeys_issue_bind.mpr ⟨trivial, fun answer => ?_⟩
      rcases answer with fault | _ | preimage
      · trivial
      · intro hs
        cases hs
      · exact fun _ => List.mem_cons_self
    · cases hf
  patchUnrolled steps note hr := by
    refine ⟨fun column hm => ?_, fun _ => trivial⟩
    rw [List.mem_singleton.mp hm]
    refine ⟨rfl, fun other hs outpoint ho => ?_⟩
    cases hs
    obtain ⟨record, hstep⟩ := mem_confirmedKeys.mp ho
    exact hr outpoint record hstep
  patchClaimTxid txid := free_patch_checked (by simp [adopts])
  fail reason := freeSteps.fail .claiming reason

/-- What the notes know of the row stays known through a program. -/
theorem keeps_extends {α : Type} {program : Prog α} {post : α → CollectNote → Prop}
    (h : collectDiscipline.Obeys note program post) :
    collectDiscipline.Obeys note program fun value after =>
      post value after ∧ Extends note after :=
  h.persist (fun before op answer (he : Extends note before) =>
    he.trans (extends_learn before op answer)) (Extends.refl note)

/-- Asking whether the refund deadline is reached is licensed from any notes. -/
theorem free_reached (deps : SendDeps) (refundLocktime : ℤ) :
    collectDiscipline.Free (ChainClock.refundDeadlineReached (chainPort deps) refundLocktime) :=
  (ChainClock.quiet_refundDeadlineReached freeSteps.now (freeSteps.height deps) _).free

/-- A licensed close. -/
theorem obeys_close {columns : List SendColumn} (hc : note.Closes)
    (hp : ∀ column ∈ columns, adopts column = false) :
    collectDiscipline.Obeys note (transition .claiming .claimed columns) fun _ _ => True := by
  apply SwapStore.obeys_transition_checked sendShape
  intro he hk
  have hcolumns : ∀ column ∈ columns, column.inTransition = true ∧
      (SendSwapState.claiming ≠ .quoted → adopts column = false) :=
    fun column hm => ⟨hk column hm, fun _ => hp column hm⟩
  exact ⟨⟨he, hcolumns, fun _ => hc⟩, fun _ => trivial⟩

variable {row : SendSwapRow}

/-- The pending claim's exit. -/
theorem obeys_claimShort (wallet : WalletCaps) (deps : SendDeps) (held : ℤ)
    (hread : row.lockupOutpoints ∈ note.reads) :
    collectDiscipline.Obeys note (claimShort wallet deps row held) fun _ _ => True := by
  apply (keeps_extends (free_ask .lockupSpendEvidence note)).bind
  rintro evidence told ⟨-, htold⟩
  have hreached : collectDiscipline.Free (spentOrReached deps row evidence) := by
    unfold spentOrReached
    split
    · exact Discipline.free_ret _
    · exact free_reached deps _
  apply (keeps_extends (hreached told)).bind
  rintro reached asked ⟨-, hasked⟩
  have hread : row.lockupOutpoints ∈ asked.reads := hasked.reads (htold.reads hread)
  split
  · trivial
  · have hpending : collectDiscipline.Obeys asked (pendingClaim wallet evidence)
        fun pending after => pending.isSome = true → CollectNote.Closes after := by
      unfold pendingClaim
      split
      · refine Discipline.obeys_issue_bind.mpr ⟨trivial, fun answer => ?_⟩
        rcases answer with fault | _ | txid
        · trivial
        · intro hs
          cases hs
        · intro _
          have hne : asked.reads ≠ [] := List.ne_nil_of_mem hread
          have hlearn : learn asked .finalizePendingClaim (.ok (some txid)) =
              { asked with finalized := true } := if_neg hne
          show CollectNote.Closes (learn asked .finalizePendingClaim (.ok (some txid)))
          rw [hlearn]
          exact ⟨row.lockupOutpoints, hread, fun output _ => .inr rfl⟩
      · intro hs
        cases hs
    apply hpending.bind
    intro pending after hcloses
    cases ht : truthy pending with
    | none => exact (freeSteps.fail_stop .claiming _) after
    | some txid =>
      have hs : pending.isSome = true := by
        cases pending with
        | none => cases ht
        | some txid => rfl
      exact obeys_close (hcloses hs) (by simp [adopts])

/-- Closing after the leftover check. -/
theorem obeys_finishClaim (wallet : WalletCaps) (deps : SendDeps) (txid : Option String)
    (unrolled : Option UnrolledClaims)
    (hc : unrolled.all UnrolledClaims.settled = true → note.Closes) :
    collectDiscipline.Obeys note (finishClaim wallet deps row txid unrolled) fun _ _ => True := by
  cases unrolled with
  | none => exact (obeys_close (hc rfl) (by simp [adopts])).bind fun _ _ _ => trivial
  | some claims =>
    have hrecord : collectDiscipline.Free (recordClaimTxid txid) := by
      unfold recordClaimTxid
      split
      · exact free_patch_checked (by simp [adopts])
      · exact Discipline.free_ret _
    apply (keeps_extends (hrecord note)).bind
    rintro _ after ⟨-, hafter⟩
    apply obeys_settleUnrolledClaims (collectingPort wallet)
    intro hs
    exact obeys_close (hafter.closes (hc hs)) (by simp)

/-- The leftover check licenses closing. -/
theorem obeys_collectClaim {wallet : WalletCaps} (hw : wallet.findLockupOutpoints = true)
    (hf : wallet.findClaimPreimage = true) (deps : SendDeps) {outputs : List FundedOutput}
    {txid : Option String} {unrolled : Option UnrolledClaims}
    (hread : row.lockupOutpoints ∈ note.reads)
    (hoffer : txid.isSome = true → note.offered = some outputs)
    (hclaims : ∀ pass ∈ unrolled, ∀ outpoint ∈ pass.confirmed, outpoint ∈ note.collected) :
    collectDiscipline.Obeys note (collectClaim wallet deps row outputs txid unrolled)
      fun _ _ => True := by
  unfold collectClaim
  split
  · have hnow : collectDiscipline.Obeys note (claimedNow outputs txid) fun claimed after =>
        ∀ outpoint ∈ claimed, Known after outpoint := by
      cases txid with
      | none =>
        intro outpoint ho
        cases ho
      | some txid =>
        refine Discipline.obeys_issue_bind.mpr ⟨trivial, fun inputs => ?_⟩
        intro outpoint ho
        have hlearn : learn note (.boundedInputs outputs) inputs =
            { note with collected := inputs.map FundedOutput.outpoint ++ note.collected } :=
          if_pos (hoffer rfl)
        show outpoint ∈ (learn note (.boundedInputs outputs) inputs).collected
        rw [hlearn]
        exact List.mem_append_left _ ho
    apply (keeps_extends hnow).bind
    rintro claimed told ⟨hclaimed, htold⟩
    have hpasses : ∀ pass ∈ unrolled, ∀ outpoint ∈ pass.confirmed, Known told outpoint :=
      fun pass hp outpoint ho => htold.collected (hclaims pass hp outpoint ho)
    have hleft : collectDiscipline.Obeys told (lockupLeftover (claimPort wallet)
        row.lockupOutpoints claimed unrolled) fun leftover after =>
          leftover = [] → ∀ output ∈ row.lockupOutpoints.getD [], Known after output.outpoint :=
      obeys_lockupLeftover (collectingPort wallet) (by simp [claimPort, hf])
        (by simp [claimPort, hw]) hclaimed hpasses
    apply (keeps_extends hleft).bind
    rintro leftover after ⟨hnone, hafter⟩
    split
    · next he =>
      apply obeys_finishClaim
      intro _
      have hall := hnone (List.isEmpty_iff.mp he)
      exact ⟨row.lockupOutpoints, hafter.reads (htold.reads hread),
        fun output ho => .inl (hall output ho)⟩
    · apply (free_reached deps _ after).bind
      intro pastDeadline reached _
      exact CollectedLockup.free_awaitLeftover (collectingPort wallet) _ _ _ _ _ reached
  · next hs =>
    apply obeys_finishClaim
    intro hall
    exact absurd hall hs

/-- A claiming row collects within the discipline from the row just read. -/
theorem obeys_whenClaiming {wallet : WalletCaps} (hw : wallet.findLockupOutpoints = true)
    (hf : wallet.findClaimPreimage = true) (deps : SendDeps)
    (hread : row.lockupOutpoints ∈ note.reads)
    (hsteps : ∀ outpoint ∈ confirmedKeys (row.unrolledClaim.getD []),
      outpoint ∈ note.collected) :
    collectDiscipline.Obeys note (whenClaiming wallet deps row) fun _ _ => True := by
  unfold whenClaiming
  cases truthy row.preimage with
  | none => exact freeSteps.fail_stop .claiming _ note
  | some preimage =>
    apply (keeps_extends (free_ask .findLockups note)).bind
    rintro lockups told ⟨-, htold⟩
    have hrecorded : Recorded Known told (row.unrolledClaim.getD []) := by
      intro key record hs
      exact htold.collected (hsteps key (mem_confirmedKeys.mpr ⟨record, hs⟩))
    apply (keeps_extends (obeys_advanceUnrolledClaims (collectingPort wallet) hrecorded)).bind
    rintro unrolled after ⟨hclaims, hafter⟩
    have hread : row.lockupOutpoints ∈ after.reads := hafter.reads (htold.reads hread)
    dsimp only
    split
    · exact obeys_claimShort wallet deps _ hread
    · unfold claimHeld
      split
      · apply obeys_collectClaim hw hf deps hread
        · intro hs
          cases hs
        · exact hclaims
      · refine Discipline.obeys_issue_bind.mpr ⟨trivial, fun answer => ?_⟩
        rcases answer with fault | txid
        · apply (free_reached deps _ _).bind
          intro reached asked _
          split
          · trivial
          · exact freeSteps.fail_stop .claiming _ asked
        · apply obeys_collectClaim hw hf deps
          · exact hread
          · exact fun _ => rfl
          · exact hclaims

/-- Every job obeys. -/
theorem obeys_job {wallet : WalletCaps} (hw : wallet.findLockupOutpoints = true)
    (hf : wallet.findClaimPreimage = true) (job : SendJob) :
    collectDiscipline.Free (job.program wallet) := by
  apply freeSteps.job
  intro deps row note hs
  have hq : decide (row.state = .quoted) = false := by
    rw [hs]
    rfl
  have hlearn : collectDiscipline.learn note .get row =
      CollectNote.read note false row.lockupOutpoints (row.unrolledClaim.getD []) := by
    show CollectNote.read note (decide (row.state = .quoted)) _ _ = _
    rw [hq]
  rw [hlearn]
  apply obeys_whenClaiming hw hf deps
  · exact List.mem_cons_self
  · exact fun outpoint ho => List.mem_append_left _ ho

/-! ## The invariant -/

/-- What collecting is judged by in a world. -/
def view (world : SendWorld) : CollectView where
  quoted := decide (world.row.state = .quoted)
  claimed := decide (world.row.state = .claimed)
  adopted := world.row.lockupOutpoints
  steps := world.row.unrolledClaim.getD []
  collected := world.collected
  lastClaim := world.lastClaim

variable {world next : SendWorld} {notes : ℕ → CollectNote} {worker : ℕ} {op : SendOp}
  {reply : SendReply} {answer : op.Ans}

/-- Every adopted output not yet collected is one that a claim of the row, finalized
now, was submitted for; and the set recomputed after a claim is within what the
claim took. -/
def countsSoundly (worker : ℕ) (reply : SendReply) (world : SendWorld) : SendOp → Bool
  | .finalizePendingClaim =>
    match reply.finalized with
    | .ok (some (_, spent)) =>
      coveredBy world.collected world.claims spent (world.row.lockupOutpoints.getD [])
    | _ => true
  | .boundedInputs outputs =>
    match world.lastClaim worker with
    | some claim => decide (claim.offered ≠ outputs) ||
        (boundedSpendInputs outputs world.clock).all fun output => decide (output ∈ claim.taken)
    | none => true
  | _ => true

/-- The condition on a run. -/
def soundCounts (wallet : WalletCaps) : Condition (sendMachine wallet) :=
  fun worker op reply world => countsSoundly worker reply world op = true

instance (wallet : WalletCaps) (worker : ℕ) (op : (sendMachine wallet).Op)
    (reply : (sendMachine wallet).Reply) (world : (sendMachine wallet).World) :
    Decidable (soundCounts wallet worker op reply world) :=
  inferInstanceAs (Decidable (countsSoundly worker reply world op = true))

/-- A commitment to pay is no business of the collection. -/
theorem view_commit (source target : SendSwapState) :
    view (world.commit worker source target) = view world := by
  unfold SendWorld.commit
  split
  · rfl
  · split <;> rfl

/-- A column that adopts nothing keeps what was adopted. -/
theorem assign_lockupOutpoints {column : SendColumn} (hc : adopts column = false)
    (row : SendSwapRow) : (sendShape.assign column row).lockupOutpoints = row.lockupOutpoints := by
  cases column with
  | lockupOutpoints adopted => cases hc
  | _ => rfl

/-- No transition may set the recorded steps. -/
theorem assign_unrolledClaim {column : SendColumn} (hc : column.inTransition = true)
    (row : SendSwapRow) : (sendShape.assign column row).unrolledClaim = row.unrolledClaim := by
  cases column with
  | unrolledClaim steps => cases hc
  | _ => rfl

/-- A transition that wins. -/
theorem collecting_update (h : Collecting (view world) notes) {source target : SendSwapState}
    {columns : List SendColumn} (hm : may (notes worker) (.update source target columns))
    {won : Bool}
    (hp : perform worker (.update source target columns) reply world = some (won, next)) :
    Collecting (view next) notes := by
  obtain ⟨hedge, hcolumns, hcloses⟩ := hm
  obtain ⟨row, hu, -, rfl⟩ | ⟨-, rfl⟩ := perform_update hp
  · rw [view_commit]
    obtain ⟨hsource, -, htarget⟩ := updateWhere_state sendShape hu
    have hsource : world.row.state = source := hsource
    have htarget : row.state = target := htarget
    have hsteps : row.unrolledClaim = world.row.unrolledClaim :=
      updateWhere_frame sendShape SendSwapRow.unrolledClaim (fun _ _ _ => rfl)
        (fun column hc => assign_unrolledClaim (hcolumns column hc).1) hu
    have hview : view (world.write worker row) =
        { view world with
          quoted := decide (row.state = .quoted)
          claimed := decide (row.state = .claimed)
          adopted := row.lockupOutpoints } := by
      simp [view, SendWorld.write, hsteps]
    rw [hview]
    apply h.move
    · intro hq
      have hq : source ≠ .quoted := by
        rw [← hsource]
        exact of_decide_eq_false hq
      have hadopted : row.lockupOutpoints = world.row.lockupOutpoints :=
        updateWhere_frame sendShape SendSwapRow.lockupOutpoints (fun _ _ _ => rfl)
          (fun column hc => assign_lockupOutpoints ((hcolumns column hc).2 hq)) hu
      refine ⟨decide_eq_false ?_, hadopted⟩
      rw [htarget]
      rintro rfl
      cases source <;> simp [LnSendMachine] at hedge
    · intro hc
      have hc : row.state = .claimed := of_decide_eq_true hc
      exact hcloses (htarget.symm.trans hc)
  · exact h

/-- A patch. -/
theorem collecting_patch (h : Collecting (view world) notes) {columns : List SendColumn}
    (hm : may (notes worker) (.patch columns)) {written : Except Fault Unit}
    (hp : perform worker (.patch columns) reply world = some (written, next)) :
    Collecting (view next) notes := by
  obtain rfl | rfl := perform_patch hp
  · exact h
  · set row := patchRow sendShape world.clock columns world.row with hrow
    have hstate : row.state = world.row.state :=
      state_patchRow sendShape world.clock columns world.row
    have hadopted : row.lockupOutpoints = world.row.lockupOutpoints :=
      patchRow_frame sendShape SendSwapRow.lockupOutpoints (fun _ _ => rfl)
        (fun column hc => assign_lockupOutpoints (hm column hc).1) world.row
    have hview : view (world.write worker row) =
        { view world with steps := row.unrolledClaim.getD [] } := by
      simp [view, SendWorld.write, hstate, hadopted]
    rw [hview]
    apply h.record
    -- Each column leaves the steps, or writes some this worker knows collected.
    have hkeeps : ∀ column ∈ columns, ∀ row : SendSwapRow,
        (∀ outpoint ∈ confirmedKeys (row.unrolledClaim.getD []), outpoint ∈ world.collected) →
        ∀ outpoint ∈ confirmedKeys ((sendShape.assign column row).unrolledClaim.getD []),
          outpoint ∈ world.collected := by
      intro column hc row hr
      cases column with
      | unrolledClaim steps =>
        intro outpoint ho
        exact (h.knows worker).collected outpoint ((hm _ hc).2 steps rfl outpoint ho)
      | _ => exact hr
    have hall := assignAll_keeps sendShape hkeeps
      (show ∀ outpoint ∈
          confirmedKeys ((sendShape.touch world.clock world.row).unrolledClaim.getD []),
        outpoint ∈ world.collected from h.recorded)
    exact hall

/-- A claim, whatever it answers. -/
theorem collecting_claim (h : Collecting (view world) notes) {outputs : List FundedOutput}
    {answer : Except Fault String}
    (hp : perform worker (.claim outputs) reply world = some (answer, next)) :
    Collecting (view next)
      (Function.update notes worker (learn (notes worker) (.claim outputs) answer)) := by
  simp only [perform] at hp
  split at hp
  · cases hp
    apply h.claim
    rintro other ⟨⟩
    rfl
  · cases hp
    split
    · apply h.claim
      intro other ho
      cases ho
    · exact h.learn (h.knows worker).forgetOffer

/-- Every licensed action keeps the invariant with the notes it teaches. -/
theorem collecting_act (h : Collecting (view world) notes) (hm : may (notes worker) op)
    (hs : countsSoundly worker reply world op = true)
    (hp : perform worker op reply world = some (answer, next)) :
    Collecting (view next) (Function.update notes worker (learn (notes worker) op answer)) := by
  have hk := h.knows worker
  have hquiet : Collecting (view next) notes → learn (notes worker) op answer = notes worker →
      Collecting (view next) (Function.update notes worker (learn (notes worker) op answer)) := by
    intro ht hl
    rw [hl]
    exact ht.learn (ht.knows worker)
  cases op with
  | get =>
    cases hp
    exact h.learn (hk.read h.recorded)
  | update source target columns => exact hquiet (collecting_update h hm hp) rfl
  | patch columns => exact hquiet (collecting_patch h hm hp) rfl
  | findRefundable now => cases hp; exact hquiet h rfl
  | backfillExternal =>
    cases hp
    refine hquiet ?_ rfl
    unfold backfillExternal
    split <;> exact h
  | backfillPushed =>
    cases hp
    refine hquiet ?_ rfl
    unfold backfillPushed
    split <;> exact h
  | now => cases hp; exact hquiet h rfl
  | boundedInputs outputs =>
    cases hp
    apply h.learn
    apply hk.select
    intro taken hl output ho
    have hl : world.lastClaim worker = some ⟨outputs, taken⟩ := hl
    simp only [countsSoundly, hl] at hs
    have hall : (boundedSpendInputs outputs world.clock).all
        (fun output => decide (output ∈ taken)) = true := by simpa using hs
    exact of_decide_eq_true (List.all_eq_true.mp hall output ho)
  | read question =>
    cases hp
    refine hquiet ?_ rfl
    cases question <;> try exact h
    · unfold SendWorld.see
      cases reply.lockups <;> exact h
    · unfold SendWorld.see
      cases reply.provablySpent <;> exact h
  | refund outputs =>
    simp only [perform] at hp
    split at hp
    · cases hp
      exact hquiet h rfl
    · cases hp
      refine hquiet ?_ rfl
      split <;> exact h
  | claim outputs => exact collecting_claim h hp
  | finalizePendingClaim =>
    simp only [perform] at hp
    split at hp
    · next txid spent hf =>
      cases hp
      simp only [countsSoundly, hf] at hs
      exact h.finalize (mem_of_coveredBy hs)
    · cases hp
      exact hquiet h rfl
    · cases hp
      exact hquiet h rfl
  | findClaimPreimage outpoint =>
    simp only [perform] at hp
    split at hp
    · cases hp
      exact h.found outpoint
    · cases hp
      exact hquiet h rfl
    · cases hp
      exact hquiet h rfl
  | claimUnrolled lockup record =>
    simp only [perform] at hp
    split at hp
    · next confirmed hu =>
      cases hp
      have hlearn : learn (notes worker) (.claimUnrolled lockup record) reply.unrolled =
          (notes worker).found lockup := by
        rw [show reply.unrolled = (reply.unrolled.1, .ok (.confirmed confirmed)) from
          Prod.ext rfl hu]
        rfl
      rw [hlearn]
      exact h.found lockup
    · next hn =>
      cases hp
      apply hquiet h
      rcases hu : reply.unrolled with ⟨saved, fault | step⟩
      · rfl
      · cases step with
        | confirmed confirmed => exact absurd (by rw [hu]) (hn confirmed)
        | _ => rfl
  | getSendHtlcState =>
    simp only [perform] at hp
    split at hp
    · split at hp <;> cases hp <;> exact hquiet h rfl
    · cases hp
  | getPayment paymentId =>
    simp only [perform] at hp
    split at hp <;> cases hp
    exact hquiet h rfl
  | payInvoice params => cases hp; exact hquiet h rfl
  | payResult =>
    simp only [perform] at hp
    split at hp <;> cases hp
    exact hquiet h rfl

/-- What is collected stays collected while the outside world moves. -/
theorem collecting_stir (h : Collecting (view world) notes) {move : SendMove}
    (hs : stir move world = some next) : Collecting (view next) notes := by
  obtain ⟨seconds, rfl⟩ | ⟨-, rfl⟩ | ⟨-, rfl⟩ := stir_cases hs
  · exact h
  · exact h
  · exact h

/-- A row that has just been quoted has collected nothing. -/
theorem collecting_quoted (quote : QuoteRecord) (clock : ℕ) :
    Collecting (view (quoted quote clock)) fun _ => collectDiscipline.fresh where
  knows _ := CollectedLockup.knows_fresh _ _
  recorded _ h := by cases h
  closed h := by cases h

/-- The protocol of collecting a Lightning send. -/
def collectProtocol {wallet : WalletCaps} (hw : wallet.findLockupOutpoints = true)
    (hf : wallet.findClaimPreimage = true) :
    Protocol (sendMachine wallet) (soundCounts wallet) where
  discipline := collectDiscipline
  inv world notes := Collecting (view world) notes
  forget _ _ _ h := h.learn (CollectedLockup.knows_fresh _ _)
  act _ _ _ _ _ _ _ h hm hs hp := collecting_act h hm hs hp
  stir _ _ _ _ h hs := collecting_stir h hs
  jobs job := obeys_job hw hf job _

/-- A `claimed` Lightning row has collected everything it adopted. -/
theorem claimed_collected {wallet : WalletCaps} (hw : wallet.findLockupOutpoints = true)
    (hf : wallet.findClaimPreimage = true) {quote : QuoteRecord} {clock : ℕ}
    {events : List (Event (sendMachine wallet))} {final : Config (sendMachine wallet)}
    (hr : run (boot (quoted quote clock)) events = some final)
    (hp : Permitted (soundCounts wallet) (boot (quoted quote clock)) events)
    (hc : final.world.row.state = .claimed) :
    ∀ adopted, final.world.row.lockupOutpoints = some adopted →
      ∀ output ∈ adopted, output.outpoint ∈ final.world.collected := by
  obtain ⟨notes, h⟩ := (collectProtocol hw hf).inv_of_run (collecting_quoted quote clock) hp hr
  intro adopted ha
  exact h.of_claimed (decide_eq_true hc) ha

end IntentSolver.LightningSendCollection
