import IntentSolver.LightningSendSteps

/-!
# A partial refund stays refundable

A refund spends at most sixteen outputs and none close to its expiry, so it
may leave some behind. Only a push that took everything its read showed, or an
empty read of a provably spent lockup, earns the row a refund outcome, and
without one the sweep keeps selecting the row. The start-up backfill reads a
txid without an outcome as a finished refund; the theorem holds where it meets
no partial one.
-/

namespace IntentSolver.LightningSendRefunds

open SwapStore ArkadeLockup LockupCollection WorkerProgram WorkerInterleaving LightningPort
open LightningSendStore LightningSend LightningSendWorld LightningSendSteps

/-- The evidence that closes a refund: everything shown was spent, or nothing
was shown and the lockup was provably spent. -/
def Closes (evidence : RefundEvidence) : Prop :=
  evidence.spent = some evidence.shown ∨ (evidence.shown = [] ∧ evidence.provablySpent = true)

/-- What a worker remembers of its own refund. -/
structure RefundNote where
  /-- What its last look at the lockup showed. -/
  shown : Option (List FundedOutput)
  /-- Its refund of exactly that was taken. -/
  sent : Bool
  /-- That refund took all of it. -/
  full : Bool
  /-- The look was empty and the lockup provably spent. -/
  gone : Bool

/-- The column gives the row its refund outcome. -/
def closes : SendColumn → Bool
  | .refundOutcome _ => true
  | _ => false

/-- Only a worker with such a refund may write an outcome. -/
def may (note : RefundNote) : SendOp → Prop
  | .update _ _ columns => ∀ column ∈ columns, closes column = false
  | .patch columns => (∃ column ∈ columns, closes column = true) →
      note.full = true ∨ note.gone = true
  | _ => True

/-- What a worker learns from an answer. -/
def learn (note : RefundNote) : (op : SendOp) → op.Ans → RefundNote
  | .read .findLockups, .ok outputs => ⟨some outputs, false, false, false⟩
  | .read .lockupProvablySpent, .ok proven =>
    { note with gone := proven && decide (note.shown = some []) }
  | .refund outputs, .ok _ =>
    { note with sent := decide (note.shown = some outputs), full := false }
  | .refund _, .error _ => { note with sent := false, full := false }
  | .boundedInputs outputs, inputs =>
    { note with
      full := note.full || (note.sent && decide (note.shown = some outputs) &&
        decide (inputs.length = outputs.length)) }
  | _, _ => note

/-- The notes and licences of a refunding worker. -/
def refundDiscipline : Discipline SendOp.Ans where
  Note := RefundNote
  fresh := ⟨none, false, false, false⟩
  may := may
  learn := learn

/-! ## The code obeys -/

variable {note : RefundNote}

/-- A patch closes the refund only on a full push or a lockup that is gone. -/
theorem obeys_patch {columns : List SendColumn} {α : Type} (value : α)
    (h : (∃ column ∈ columns, closes column = true) → note.full = true ∨ note.gone = true) :
    refundDiscipline.Obeys note ((LightningSend.patch columns).bind fun _ => .ret value)
      fun _ _ => True := by
  have hp : refundDiscipline.Obeys note (LightningSend.patch columns) fun _ _ => True := by
    refine (Discipline.quiet_ofExcept _).obeys_bind fun _ => ?_
    refine Discipline.obeys_issue_bind.mpr ⟨h, fun written => ?_⟩
    exact Discipline.obeys_ofExcept fun _ _ => trivial
  exact hp.bind fun _ _ _ => trivial

/-- The columns of a refund carry an outcome only when it took everything. -/
theorem refundColumns_closes {all : Bool} {txid : String}
    (h : ∃ column ∈ refundColumns all txid, closes column = true) : all = true := by
  obtain ⟨column, hm, hc⟩ := h
  unfold refundColumns at hm
  split at hm
  · assumption
  · rw [List.mem_singleton.mp hm] at hc
    cases hc

/-- A taken refund and a selection as long as the offer make a full refund. -/
theorem full_of_selected {outputs inputs : List FundedOutput} (txid : String)
    (hs : note.shown = some outputs) (hl : inputs.length = outputs.length) :
    (learn (learn note (.refund outputs) (.ok txid)) (.boundedInputs outputs) inputs).full =
      true := by
  simp [learn, hs, hl]

/-- Pushing the refund is licensed from any notes. -/
theorem free_pushRefund : refundDiscipline.Free pushRefund := by
  intro note
  refine Discipline.obeys_issue_bind.mpr ⟨trivial, fun answer => ?_⟩
  rcases answer with fault | outputs
  · trivial
  · show refundDiscipline.Obeys _ (if outputs.isEmpty = true then _ else _) _
    split
    · next he =>
      have hempty : outputs = [] := List.isEmpty_iff.mp he
      refine Discipline.obeys_issue_bind.mpr ⟨trivial, fun answer => ?_⟩
      rcases answer with fault | proven
      · trivial
      · cases proven with
        | false => trivial
        | true =>
          apply obeys_patch
          intro _
          right
          subst hempty
          rfl
    · refine Discipline.obeys_issue_bind.mpr ⟨trivial, fun answer => ?_⟩
      rcases answer with fault | txid
      · trivial
      · refine Discipline.obeys_issue_bind.mpr ⟨trivial, fun inputs => ?_⟩
        apply obeys_patch
        intro hc
        left
        have hl : inputs.length = outputs.length := of_decide_eq_true (refundColumns_closes hc)
        exact full_of_selected txid rfl hl

/-- The same for a patch whose failure is swallowed. -/
theorem obeys_tryPatch {columns : List SendColumn} {α : Type} (value : α)
    (h : (∃ column ∈ columns, closes column = true) → note.full = true ∨ note.gone = true) :
    refundDiscipline.Obeys note ((tryPatch columns).bind fun _ => .ret value) fun _ _ => True :=
  ⟨h, fun _ => trivial⟩

/-- A failed push closes the refund only when nothing is left to push. -/
theorem obeys_recordRefundFailure (error : Fault) :
    refundDiscipline.Obeys note (recordRefundFailure error) fun _ _ => True := by
  apply obeys_tryPatch
  rintro ⟨column, hm, hc⟩
  rw [List.mem_singleton.mp hm] at hc
  cases hc

/-- The refund after a terminal failure is licensed from any notes. -/
theorem free_refundAfterTerminalFailure : refundDiscipline.Free refundAfterTerminalFailure := by
  intro note
  refine Discipline.obeys_issue_bind.mpr ⟨trivial, fun answer => ?_⟩
  rcases answer with fault | outputs
  · exact obeys_recordRefundFailure fault
  · show refundDiscipline.Obeys _ (if outputs.isEmpty = true then _ else _) _
    split
    · apply obeys_tryPatch
      rintro ⟨column, hm, hc⟩
      rw [List.mem_singleton.mp hm] at hc
      cases hc
    · refine Discipline.obeys_issue_bind.mpr ⟨trivial, fun answer => ?_⟩
      rcases answer with fault | txid
      · exact obeys_recordRefundFailure fault
      · refine Discipline.obeys_issue_bind.mpr ⟨trivial, fun inputs => ?_⟩
        apply obeys_tryPatch
        rintro ⟨column, hm, hc⟩
        left
        have hall : ∃ column ∈ refundColumns (decide (inputs.length = outputs.length)) txid,
            closes column = true := by
          rcases List.mem_append.mp hm with hm | hm
          · exact ⟨column, hm, hc⟩
          · rw [List.mem_singleton.mp hm] at hc
            cases hc
        have hl : inputs.length = outputs.length := of_decide_eq_true (refundColumns_closes hall)
        exact full_of_selected txid rfl hl

/-- No transition may set the outcome. -/
theorem closes_of_inTransition {column : SendColumn} (h : column.inTransition = true) :
    closes column = false := by
  cases column with
  | refundOutcome outcome => cases h
  | _ => rfl

/-- The discipline never minds what a row does outside its refunds and its claim. -/
theorem freeSteps : FreeSteps refundDiscipline where
  get := Discipline.free_issue fun _ => trivial
  findRefundable _ := Discipline.free_issue fun _ => trivial
  backfillExternal := Discipline.free_issue fun _ => trivial
  backfillPushed := Discipline.free_issue fun _ => trivial
  now := Discipline.quiet_issue (fun _ => trivial) fun _ _ => rfl
  tipHeight := Discipline.quiet_issue (fun _ => trivial) fun _ _ => rfl
  read _ := Discipline.free_issue fun _ => trivial
  getSendHtlcState := Discipline.free_issue fun _ => trivial
  getPayment _ := Discipline.free_issue fun _ => trivial
  payInvoice _ := Discipline.free_issue fun _ => trivial
  payResult := Discipline.free_issue fun _ => trivial
  update _ _ _ _ _ hc := Discipline.free_issue fun _ column hm =>
    closes_of_inTransition (hc column hm).1
  patch columns ho := Discipline.free_issue fun _ => by
    rintro ⟨column, hm, hc⟩
    have hplain := ho column hm
    cases column with
    | refundOutcome outcome => cases hplain
    | _ => cases hc
  pushRefund := free_pushRefund
  refundAfterTerminalFailure := free_refundAfterTerminalFailure

/-- The discipline never minds what a claiming row does. -/
theorem freeClaiming : FreeClaiming refundDiscipline where
  now := freeSteps.now.free
  read := freeSteps.read
  boundedInputs _ := Discipline.free_issue fun _ => trivial
  claim _ := Discipline.free_issue fun _ => trivial
  finalizePendingClaim := Discipline.free_issue fun _ => trivial
  findClaimPreimage _ := Discipline.free_issue fun _ => trivial
  claimUnrolled _ _ := Discipline.free_issue fun _ => trivial
  patchClaimTxid _ := freeSteps.patch _ (by simp [ordinary])
  patchUnrolled steps := Discipline.free_issue fun _ => by
    rintro ⟨column, hm, hc⟩
    rw [List.mem_singleton.mp hm] at hc
    cases hc
  update _ _ _ hc := Discipline.free_issue fun _ column hm =>
    closes_of_inTransition (hc column hm)

/-- Every job obeys. -/
theorem obeys_job (wallet : WalletCaps) (job : SendJob) :
    refundDiscipline.Free (job.program wallet) :=
  freeSteps.job (fun deps row _ _ => freeClaiming.whenClaiming wallet deps row _) job

/-! ## The invariant -/

/-- The part of the world a refund is judged by. -/
structure RefundView where
  clock : ℕ
  row : SendSwapRow
  evidence : ℕ → RefundEvidence
  closedOn : Option RefundEvidence

/-- What the refund is judged by in a world. -/
def view (world : SendWorld) : RefundView :=
  ⟨world.clock, world.row, world.evidence, world.closedOn⟩

/-- What one worker's notes promise about its evidence. -/
structure Knows (clock : ℕ) (evidence : RefundEvidence) (note : RefundNote) : Prop where
  shown : ∀ outputs, note.shown = some outputs → evidence.shown = outputs
  /-- The refund took what the bound selected at some moment up to now. -/
  sent : note.sent = true → ∃ moment : ℕ, moment ≤ clock ∧
    evidence.spent = some (boundedSpendInputs evidence.shown moment)
  full : note.full = true → evidence.spent = some evidence.shown
  gone : note.gone = true → evidence.shown = [] ∧ evidence.provablySpent = true

/-- The row's outcome, if it has one, was written on closing evidence. -/
def Closed (v : RefundView) : Prop :=
  v.row.refundOutcome.isSome = true → ∃ evidence, v.closedOn = some evidence ∧ Closes evidence

/-- What holds in every run whose backfills meet no partial refund. -/
structure Tracked (v : RefundView) (notes : ℕ → RefundNote) : Prop where
  knows : ∀ worker, Knows v.clock (v.evidence worker) (notes worker)
  closed : Closed v

variable {v : RefundView} {world next : SendWorld} {notes : ℕ → RefundNote} {worker : ℕ}
  {op : SendOp} {reply : SendReply} {answer : op.Ans}

/-- A worker that has done nothing promises nothing. -/
theorem knows_fresh (clock : ℕ) (evidence : RefundEvidence) :
    Knows clock evidence ⟨none, false, false, false⟩ where
  shown _ h := by cases h
  sent h := by cases h
  full h := by cases h
  gone h := by cases h

/-- What a worker knows of its refund stays true as time passes. -/
theorem Knows.later {clock later : ℕ} {evidence : RefundEvidence} (h : Knows clock evidence note)
    (hle : clock ≤ later) : Knows later evidence note := by
  refine ⟨h.shown, fun hs => ?_, h.full, h.gone⟩
  obtain ⟨moment, hm, he⟩ := h.sent hs
  exact ⟨moment, hm.trans hle, he⟩

/-- What closing notes promise. -/
theorem Knows.closes {clock : ℕ} {evidence : RefundEvidence} (h : Knows clock evidence note)
    (hn : note.full = true ∨ note.gone = true) : Closes evidence :=
  hn.imp h.full h.gone

/-- One worker learns something true of its evidence; nobody else's changes. -/
theorem Tracked.relearn (h : Tracked v notes) {evidence : RefundEvidence}
    (hk : Knows v.clock evidence note) :
    Tracked { v with evidence := Function.update v.evidence worker evidence }
      (Function.update notes worker note) := by
  refine ⟨fun other => ?_, h.closed⟩
  by_cases ho : other = worker
  · subst ho
    simpa only [Function.update_self] using hk
  · simpa only [Function.update_of_ne ho] using h.knows other

/-- The same, when the worker's evidence stands. -/
theorem Tracked.noted (h : Tracked v notes) (hk : Knows v.clock (v.evidence worker) note) :
    Tracked v (Function.update notes worker note) := by
  have hr := @Tracked.relearn note v notes worker h (v.evidence worker) hk
  rwa [Function.update_eq_self] at hr

/-- The row after a write, with the evidence it was written on. -/
def rewritten (worker : ℕ) (v : RefundView) (row : SendSwapRow) : RefundView :=
  { v with
    row := row
    closedOn := if v.row.refundOutcome.isNone && row.refundOutcome.isSome then
      some (v.evidence worker) else v.closedOn }

/-- A write that gives no outcome without closing evidence. -/
theorem Tracked.rewrite (h : Tracked v notes) {row : SendSwapRow}
    (hw : row.refundOutcome.isSome = true →
      v.row.refundOutcome.isSome = true ∨ Closes (v.evidence worker)) :
    Tracked (rewritten worker v row) notes := by
  refine ⟨h.knows, fun hs => ?_⟩
  have hs : row.refundOutcome.isSome = true := hs
  unfold rewritten
  dsimp only
  by_cases ho : v.row.refundOutcome.isSome = true
  · obtain ⟨evidence, he, hc⟩ := h.closed ho
    have hn : v.row.refundOutcome.isNone = false := by
      rw [Option.isNone_eq_false_iff]
      exact ho
    rw [hn, Bool.false_and]
    exact ⟨evidence, he, hc⟩
  · have hn : v.row.refundOutcome.isNone = true := by simpa using ho
    rw [hn, hs]
    exact ⟨_, rfl, (hw hs).resolve_left ho⟩

/-- A write that keeps the outcome. -/
theorem Tracked.rewrite_same (h : Tracked v notes) {row : SendSwapRow}
    (hw : row.refundOutcome = v.row.refundOutcome) : Tracked (rewritten worker v row) notes :=
  h.rewrite fun hs => .inl (hw ▸ hs)

/-! ## One action -/

/-- A column that closes nothing keeps the outcome. -/
theorem assign_refundOutcome {column : SendColumn} (hc : closes column = false)
    (row : SendSwapRow) : (sendShape.assign column row).refundOutcome = row.refundOutcome := by
  cases column with
  | refundOutcome outcome => cases hc
  | _ => rfl

/-- The schedule opens the store on no row with a partial refund: a txid and
no outcome. -/
def opensSettled (row : SendSwapRow) : SendOp → Bool
  | .backfillExternal => !(row.refundArkTxid.isSome && row.refundOutcome.isNone)
  | .backfillPushed => !(row.refundArkTxid.isSome && row.refundOutcome.isNone)
  | _ => true

/-- The condition on a run. -/
def settledOpens (wallet : WalletCaps) : Condition (sendMachine wallet) := fun _ op _ world =>
  opensSettled world.row op = true

instance (wallet : WalletCaps) (worker : ℕ) (op : (sendMachine wallet).Op)
    (reply : (sendMachine wallet).Reply) (world : (sendMachine wallet).World) :
    Decidable (settledOpens wallet worker op reply world) :=
  inferInstanceAs (Decidable (opensSettled world.row op = true))

/-- Then the backfills do nothing. -/
theorem backfills_settled {row : SendSwapRow}
    (h : (!(row.refundArkTxid.isSome && row.refundOutcome.isNone)) = true) :
    backfillExternal row = row ∧ backfillPushed row = row := by
  have hn : row.refundOutcome = none → row.refundArkTxid = none := by
    intro ho
    simpa [ho] using h
  constructor
  · unfold backfillExternal
    split
    · next hc =>
      have ht := hn hc.2
      rw [ht] at hc
      exact absurd hc.1 (by simp)
    · rfl
  · unfold backfillPushed
    split
    · next hc =>
      have ht := hn hc.2
      rw [ht] at hc
      exact absurd hc.1 (by simp)
    · rfl

/-- What a look at the lockup does to a worker's evidence and notes. -/
theorem Tracked.see (h : Tracked (view world) notes) (question : SendQuestion) :
    Tracked (view (world.see worker reply question))
      (Function.update notes worker
        (learn (notes worker) (.read question) (reply.answer question))) := by
  have hk := h.knows worker
  cases question with
  | findLockups =>
    simp only [SendReply.answer, SendWorld.see]
    cases reply.lockups with
    | error fault => exact h.noted hk
    | ok outputs =>
      refine h.relearn ⟨?_, ?_, ?_, ?_⟩
      · rintro _ ⟨⟩
        rfl
      · intro hn
        cases hn
      · intro hn
        cases hn
      · intro hn
        cases hn
  | lockupProvablySpent =>
    simp only [SendReply.answer, SendWorld.see]
    cases reply.provablySpent with
    | error fault => exact h.noted hk
    | ok proven =>
      refine h.relearn ⟨hk.shown, hk.sent, hk.full, fun hn => ?_⟩
      obtain ⟨hp, hs⟩ := Bool.and_eq_true_iff.mp hn
      exact ⟨hk.shown [] (of_decide_eq_true hs), hp⟩
  | _ => exact h.noted hk

/-- What a taken refund does to a worker's evidence and notes. -/
theorem Tracked.refund (h : Tracked (view world) notes) (outputs : List FundedOutput)
    (hk : Knows world.clock { world.evidence worker with
      spent := some (boundedSpendInputs outputs world.clock) } note) :
    Tracked (view (world.refund worker outputs)) (Function.update notes worker note) :=
  h.relearn hk

/-- A commitment to pay is no business of the refund. -/
theorem view_commit (source target : SendSwapState) :
    view (world.commit worker source target) = view world := by
  unfold SendWorld.commit
  split
  · rfl
  · split <;> rfl

/-- A won transition keeps the outcome. -/
theorem Tracked.update (h : Tracked (view world) notes) {source target : SendSwapState}
    {columns : List SendColumn} (hm : ∀ column ∈ columns, closes column = false) {won : Bool}
    (hp : perform worker (.update source target columns) reply world = some (won, next)) :
    Tracked (view next) notes := by
  obtain ⟨row, hu, -, rfl⟩ | ⟨-, rfl⟩ := perform_update hp
  · rw [view_commit]
    apply h.rewrite_same
    exact updateWhere_frame sendShape SendSwapRow.refundOutcome (fun _ _ _ => rfl)
      (fun column hc => assign_refundOutcome (hm column hc)) hu
  · exact h

/-- A patch gives an outcome only on closing notes. -/
theorem Tracked.patch (h : Tracked (view world) notes) {columns : List SendColumn}
    (hm : may (notes worker) (.patch columns)) {written : Except Fault Unit}
    (hp : perform worker (.patch columns) reply world = some (written, next)) :
    Tracked (view next) notes := by
  obtain rfl | rfl := perform_patch hp
  · exact h
  · by_cases hc : ∃ column ∈ columns, closes column = true
    · have hcloses := (h.knows worker).closes (hm hc)
      exact h.rewrite fun _ => .inr hcloses
    · apply h.rewrite_same
      have hplain : ∀ column ∈ columns, closes column = false := by
        intro column hmem
        rw [← Bool.not_eq_true]
        exact fun ht => hc ⟨column, hmem, ht⟩
      exact patchRow_frame sendShape SendSwapRow.refundOutcome (fun _ _ => rfl)
        (fun column hmem => assign_refundOutcome (hplain column hmem)) world.row

/-- A backfill that meets no partial refund. -/
theorem Tracked.backfill (h : Tracked (view world) notes) {row : SendSwapRow}
    (hr : row = world.row) : Tracked (view (world.write worker row)) notes := by
  subst hr
  exact h.rewrite_same rfl

/-- The selection of a later moment shows that the refund took everything. -/
theorem Knows.selected {clock : ℕ} {evidence : RefundEvidence} (hk : Knows clock evidence note)
    (outputs : List FundedOutput) :
    Knows clock evidence
      (LightningSendRefunds.learn note (.boundedInputs outputs)
        (boundedSpendInputs outputs clock)) := by
  refine ⟨hk.shown, hk.sent, fun hn => ?_, hk.gone⟩
  rcases Bool.or_eq_true_iff.mp hn with hn | hn
  · exact hk.full hn
  · obtain ⟨hsent, hlen⟩ := Bool.and_eq_true_iff.mp hn
    obtain ⟨hsent, hshown⟩ := Bool.and_eq_true_iff.mp hsent
    obtain ⟨moment, hle, hspent⟩ := hk.sent hsent
    have hs : evidence.shown = outputs := hk.shown outputs (of_decide_eq_true hshown)
    have hfull : boundedSpendInputs outputs moment = outputs :=
      boundedSpendInputs_eq_of_full (by exact_mod_cast hle) (of_decide_eq_true hlen)
    rw [hspent, hs, hfull]

/-- A taken refund, answered with its txid. -/
theorem Knows.refunded {clock : ℕ} {evidence : RefundEvidence} (hk : Knows clock evidence note)
    (outputs : List FundedOutput) (txid : String) :
    Knows clock { evidence with spent := some (boundedSpendInputs outputs clock) }
      (LightningSendRefunds.learn note (.refund outputs) (.ok txid)) := by
  refine ⟨hk.shown, fun hn => ?_, fun hn => ?_, hk.gone⟩
  · have hs : evidence.shown = outputs := hk.shown outputs (of_decide_eq_true hn)
    refine ⟨clock, le_rfl, ?_⟩
    dsimp only
    rw [hs]
  · cases hn

/-- A refund that may or may not have been taken. -/
theorem Knows.unsure {clock : ℕ} {evidence : RefundEvidence} (hk : Knows clock evidence note)
    (spent : Option (List FundedOutput)) :
    Knows clock { evidence with spent := spent } { note with sent := false, full := false } := by
  refine ⟨hk.shown, fun hn => ?_, fun hn => ?_, hk.gone⟩
  · cases hn
  · cases hn

/-- A refund, whatever it answers. -/
theorem Tracked.push (h : Tracked (view world) notes) {outputs : List FundedOutput}
    {answer : Except Fault String}
    (hp : perform worker (.refund outputs) reply world = some (answer, next)) :
    Tracked (view next)
      (Function.update notes worker (learn (notes worker) (.refund outputs) answer)) := by
  have hk := h.knows worker
  simp only [perform] at hp
  split at hp
  · next txid ha =>
    cases hp
    exact h.refund outputs (hk.refunded outputs txid)
  · next fault ha =>
    cases hp
    split
    · exact h.refund outputs (hk.unsure _)
    · exact h.noted (hk.unsure _)

/-- Every licensed action keeps the invariant with the notes it teaches. -/
theorem Tracked.act (h : Tracked (view world) notes) (hm : may (notes worker) op)
    (ho : opensSettled world.row op = true)
    (hp : perform worker op reply world = some (answer, next)) :
    Tracked (view next) (Function.update notes worker (learn (notes worker) op answer)) := by
  have hk := h.knows worker
  have hquiet : Tracked (view next) notes → learn (notes worker) op answer = notes worker →
      Tracked (view next) (Function.update notes worker (learn (notes worker) op answer)) := by
    intro ht hl
    rw [hl]
    exact ht.noted (ht.knows worker)
  cases op with
  | get => cases hp; exact hquiet h rfl
  | update source target columns => exact hquiet (h.update hm hp) rfl
  | patch columns => exact hquiet (h.patch hm hp) rfl
  | findRefundable now => cases hp; exact hquiet h rfl
  | backfillExternal =>
    cases hp
    exact hquiet (h.backfill (backfills_settled ho).1) rfl
  | backfillPushed =>
    cases hp
    exact hquiet (h.backfill (backfills_settled ho).2) rfl
  | now => cases hp; exact hquiet h rfl
  | boundedInputs outputs =>
    cases hp
    exact h.noted (hk.selected outputs)
  | read question =>
    cases hp
    exact h.see question
  | refund outputs => exact h.push hp
  | claim outputs =>
    simp only [perform] at hp
    split at hp
    · cases hp
      exact hquiet h rfl
    · cases hp
      refine hquiet ?_ rfl
      split
      · exact h
      · exact h
  | finalizePendingClaim =>
    simp only [perform] at hp
    split at hp <;> cases hp <;> exact hquiet h rfl
  | findClaimPreimage outpoint =>
    simp only [perform] at hp
    split at hp <;> cases hp <;> exact hquiet h rfl
  | claimUnrolled lockup record =>
    simp only [perform] at hp
    split at hp <;> cases hp <;> exact hquiet h rfl
  | getSendHtlcState =>
    simp only [perform] at hp
    split at hp
    · split at hp <;> cases hp <;> exact hquiet h rfl
    · cases hp
  | getPayment paymentId =>
    simp only [perform] at hp
    split at hp <;> cases hp
    exact hquiet h rfl
  | payInvoice params => cases hp; exact hquiet h rfl
  | payResult =>
    simp only [perform] at hp
    split at hp <;> cases hp
    exact hquiet h rfl

/-- Time and the payment's fate leave the refund alone. -/
theorem Tracked.stir (h : Tracked (view world) notes) {move : SendMove}
    (hs : stir move world = some next) : Tracked (view next) notes := by
  obtain ⟨seconds, rfl⟩ | ⟨-, rfl⟩ | ⟨-, rfl⟩ := stir_cases hs
  · exact ⟨fun other => (h.knows other).later (Nat.le_add_right _ _), h.closed⟩
  · exact h
  · exact h

/-- The refund of a fresh quote is open. -/
theorem tracked_quoted (quote : QuoteRecord) (clock : ℕ) :
    Tracked (view (quoted quote clock)) fun _ => refundDiscipline.fresh where
  knows _ := knows_fresh _ _
  closed h := by cases h

/-- The protocol of refunds. -/
def refundProtocol (wallet : WalletCaps) : Protocol (sendMachine wallet) (settledOpens wallet) where
  discipline := refundDiscipline
  inv world notes := Tracked (view world) notes
  forget _ _ _ h := h.noted (knows_fresh _ _)
  act _ _ _ _ _ _ _ h hm ho hp := h.act hm ho hp
  stir _ _ _ _ h hs := h.stir hs
  jobs job := obeys_job wallet job _

/-- In every run whose opens meet no partial refund, an outcome was written on
closing evidence only, and a refused row with a covenant that is past its
deadline and not so closed is still selected by the sweep. -/
theorem partial_refund_stays_refundable (wallet : WalletCaps) (quote : QuoteRecord) (clock : ℕ)
    (events : List (Event (sendMachine wallet))) (final : Config (sendMachine wallet))
    (hr : run (boot (quoted quote clock)) events = some final)
    (hp : Permitted (settledOpens wallet) (boot (quoted quote clock)) events) :
    (final.world.row.refundOutcome ≠ none →
      ∃ evidence, final.world.closedOn = some evidence ∧ Closes evidence) ∧
    ∀ now, final.world.row.state = .refused → final.world.row.refundPkScript.isSome = true →
      (final.world.row.clientRefundPubkey.isSome = true ∨
        final.world.row.refundLocktime ≤ now) →
      (¬∃ evidence, final.world.closedOn = some evidence ∧ Closes evidence) →
      findRefundable now final.world.row = true := by
  obtain ⟨notes, h⟩ := (refundProtocol wallet).inv_of_run (tracked_quoted quote clock) hp hr
  have hclosed : final.world.row.refundOutcome ≠ none →
      ∃ evidence, final.world.closedOn = some evidence ∧ Closes evidence :=
    fun hn => h.closed (Option.isSome_iff_ne_none.mpr hn)
  refine ⟨hclosed, fun now hs hscript hopen hnot => ?_⟩
  have hnone : final.world.row.refundOutcome = none := by
    by_contra hn
    exact hnot (hclosed hn)
  unfold findRefundable
  rw [decide_eq_true hs, hnone, hscript, Bool.true_and]
  simpa using hopen

/-! ## A start-up that closes a partial refund -/

/-- The lockup holds too much, and one output is about to expire. -/
def samplePartial : SendReply :=
  { lockups := .ok [⟨"l1", 0, 50500, [], none⟩, ⟨"l2", 0, 1000, [], some 2000000010⟩]
    txid := .ok "refund1" }

/-- Worker 0 starts the refund sweep. -/
def sampleStart : SampleEvent := .start 0 SendJob.refundSweep

/-- The overfunded row is refused; the sweep refunds what it can. -/
def sampleSweep : List SampleEvent :=
  [sampleTick 1] ++ List.replicate 6 (sampleAct samplePartial) ++
    [sampleStart] ++ List.replicate 6 (sampleAct samplePartial)

/-- A process starts and opens the store. -/
def sampleOpen : List SampleEvent := [.start 1 SendJob.openStore, .act 1 {}, .act 1 {}]

/-- The backfill of a start-up closes a refund that left an output behind. -/
theorem open_closes_partial_refund :
    ((run (boot (quoted sampleQuote 2000000000)) (sampleSweep ++ sampleOpen)).map fun final =>
      (final.world.row.state, final.world.row.refundOutcome,
        (final.world.evidence 0).shown.length, (final.world.evidence 0).spent.map List.length,
        findRefundable 2000000000 final.world.row)) =
      some (.refused, some .pushed, 2, some 1, false) := by
  decide +kernel

/-- Processes open the store while the row is quoted and after it was refused; only then is it
refunded in part. -/
def sampleReopened : List SampleEvent :=
  sampleOpen ++ [sampleTick 1] ++ List.replicate 6 (sampleAct samplePartial) ++ sampleOpen ++
    [sampleStart] ++ List.replicate 6 (sampleAct samplePartial)

/-- A partial refund after two openings of the store: the row is still selected. -/
theorem partial_refund_stays_refundable_sample :
    ∃ final, run (boot (quoted sampleQuote 2000000000)) sampleReopened = some final ∧
      final.world.row.refundArkTxid = some "refund1" ∧
      findRefundable 2000000000 final.world.row = true := by
  obtain ⟨final, hr⟩ : ∃ final, run (boot (quoted sampleQuote 2000000000)) sampleReopened =
      some final := Option.isSome_iff_exists.mp (by decide +kernel)
  have hrow : ((run (boot (quoted sampleQuote 2000000000)) sampleReopened).map fun final =>
      (final.world.row.refundArkTxid, final.world.row.state, final.world.row.refundPkScript,
        final.world.row.clientRefundPubkey, final.world.closedOn.isNone)) =
      some (some "refund1", .refused, some "refund", some "client", true) := by decide +kernel
  have hp : Permitted (settledOpens sampleWallet) (boot (quoted sampleQuote 2000000000))
      sampleReopened := by decide +kernel
  have h := partial_refund_stays_refundable sampleWallet sampleQuote 2000000000 sampleReopened final
    hr hp
  rw [hr] at hrow
  simp only [Option.map_some, Option.some.injEq, Prod.mk.injEq] at hrow
  obtain ⟨htxid, hstate, hscript, hclient, hopen⟩ := hrow
  refine ⟨final, hr, htxid, h.2 2000000000 hstate (by rw [hscript]; rfl)
    (.inl (by rw [hclient]; rfl)) ?_⟩
  rintro ⟨evidence, he, -⟩
  rw [he] at hopen
  cases hopen

end IntentSolver.LightningSendRefunds
