import IntentSolver.CoupledPair
import IntentSolver.LightningSendSteps

/-!
# What the workers of a coupled pair know before they write

A send worker may take its row out of `funded` only towards `claiming`, unless
it has read of the receive row that no coupled payout can follow: it took a
real HTLC, or it was refused without a fund lease. A receive worker asks for
the fund lease only with what its last hold poll and its last look at the send
row have told it. Both corridors' code is walked against these licences, the
send corridor only where its row is quoted or funded: what a worker does with
a row it has seen beyond `funded` no longer concerns the pair.
-/

namespace IntentSolver.CoupledWorkers

open SwapStore SwapTimelocks ArkadeLockup WorkerProgram ChainClock LightningPort
open LightningSendStore LightningReceiveStore CoupledPair
open LightningSend (SendOp SendDeps SendQuestion WalletCaps FreeClaiming)
open LightningSendWorld (SendJob)
open LightningSendSteps (FreeSteps)
open LightningReceive (ReceiveOp ReceiveDeps ReceiveQuestion)

/-! ## Send workers -/

/-- What a send worker has learnt. -/
structure SendNote where
  /-- The row as it last read it. -/
  row : Option SendSwapRow := none
  /-- What its last look at the lockup showed. -/
  looked : Option ℤ := none
  /-- The receive store has answered that no live row is left. -/
  gone : Bool := false
  /-- No coupled payout can follow, or an answer was one the other side never gives. -/
  dead : Bool := false
  /-- It has read its row beyond `funded`. -/
  past : Bool := false

/-- The notes no longer restrict what the worker does to its row. -/
def SendNote.free (note : SendNote) : Bool := note.dead || note.past

variable (config : PairConfig)

/-- The row carries this deployment's key and a deadline its ladder covers. -/
def sound (row : SendSwapRow) : Bool :=
  decide (row.receiverPubkey = config.quote.providerPubkey) &&
    row.quotedRefundDeadline.any fun deadline =>
      refundWithoutReceiverDelayCovers row.refundWithoutReceiverDelay deadline row.createdAt

/-- The state lies beyond `funded`. -/
def beyond (state : SendSwapState) : Bool := decide (state ≠ .quoted ∧ state ≠ .funded)

/-- Refused, and nobody holds the fund lease. -/
def unleased (receive : ReceiveSwapRow) : Bool :=
  decide (receive.state = .refused) && receive.fundStartedAt.isNone

/-- The refused receive row of this send row's own invoice. -/
def ownRefusal (row : SendSwapRow) (receive : ReceiveSwapRow) : Bool :=
  decide (receive.invoice.toLower = row.invoice.toLower ∧ receive.state = .refused)

/-- What a send worker learns from an answer. -/
def sendLearn (note : SendNote) : (op : SendOp) → op.Ans → SendNote
  | .get, row =>
    { note with
      row := some row
      dead := note.dead || !sound config row
      past := note.past || beyond row.state }
  | .read .findLockups, .ok outputs =>
    { note with looked := some (totalValue (satsOutputs outputs)) }
  | .read .liveReceive, .ok none => { note with gone := true }
  | .read .liveReceive, .ok (some receive) =>
    { note with dead := note.dead || receive.htlcExpiresAt.isSome }
  | .read .receive, .ok receive =>
    { note with
      dead := note.dead || receive.any unleased || (note.gone &&
        !receive.any fun receive => note.row.all fun row => ownRefusal row receive) }
  | .read (.coupledPreimage _), .ok (some preimage) =>
    { note with
      dead := note.dead || !note.row.all fun row =>
        config.preimageMatchesHash preimage row.paymentHash }
  | _, _ => note

/-- What a send worker may do with these notes. -/
def sendMay (note : SendNote) : SendOp → Prop
  | .update source target _ => target ∈ (LnSendMachine source).edges ∧ (note.free = true ∨
      ((source = .funded → target = .claiming) ∧
        (target = .funded → ∃ row, note.row = some row ∧ note.looked = some row.amountSats)))
  | _ => True

/-- The notes and licences of a send worker. -/
def sendDiscipline : Discipline SendOp.Ans where
  Note := SendNote
  fresh := {}
  may := sendMay
  learn := sendLearn config

/-- Any write along the lifecycle, and no notes. -/
def edgeDiscipline : Discipline SendOp.Ans where
  Note := Unit
  fresh := ()
  may _
    | .update source target _ => target ∈ (LnSendMachine source).edges
    | _ => True
  learn _ _ _ := ()

section NonUpdates

variable {D : Discipline SendOp.Ans}
  (hD : ∀ op, (∀ source target columns, op ≠ .update source target columns) →
    D.Free (LightningSend.issue op))

include hD

/-- Any question may be asked. -/
theorem free_ask (question : SendQuestion) : D.Free (LightningSend.ask question) :=
  (hD (.read question) (by simp)).bind fun answer => Discipline.free_ofExcept answer

/-- Any patch may be made. -/
theorem free_patch (columns : List SendColumn) : D.Free (LightningSend.patch columns) :=
  (Discipline.free_ofExcept _).bind fun _ =>
    (hD (.patch columns) (by simp)).bind fun written => Discipline.free_ofExcept written

/-- Also one whose fault is swallowed. -/
theorem free_tryPatch (columns : List SendColumn) : D.Free (LightningSend.tryPatch columns) :=
  (hD (.patch columns) (by simp)).bind fun _ => Discipline.free_ret _

/-- A refund moves no state. -/
theorem free_pushRefund : D.Free LightningSend.pushRefund := by
  refine (free_ask hD .findLockups).bind fun outputs => ?_
  split
  · refine (free_ask hD .lockupProvablySpent).bind fun proven => ?_
    split
    · exact (free_patch hD _).bind fun _ => Discipline.free_ret _
    · exact Discipline.free_ret _
  · refine (hD (.refund outputs) (by simp)).bind fun answer => ?_
    refine (Discipline.free_ofExcept _).bind fun txid => ?_
    refine (hD (.boundedInputs outputs) (by simp)).bind fun inputs => ?_
    exact (free_patch hD _).bind fun _ => Discipline.free_ret _

/-- A failed refund is written down. -/
theorem free_recordRefundFailure (error : Fault) :
    D.Free (LightningSend.recordRefundFailure error) :=
  (free_tryPatch hD _).bind fun _ => Discipline.free_ret _

/-- The refund after a failure is a push and a patch. -/
theorem free_refundAfterTerminalFailure : D.Free LightningSend.refundAfterTerminalFailure := by
  refine (hD (.read .findLockups) (by simp)).bind fun lockups => ?_
  cases lockups with
  | error error => exact free_recordRefundFailure hD error
  | ok outputs =>
    dsimp only
    split
    · exact (free_tryPatch hD _).bind fun _ => Discipline.free_ret _
    · refine (hD (.refund outputs) (by simp)).bind fun pushed => ?_
      cases pushed with
      | error error => exact free_recordRefundFailure hD error
      | ok txid =>
        refine (hD (.boundedInputs outputs) (by simp)).bind fun inputs => ?_
        exact (free_tryPatch hD _).bind fun _ => Discipline.free_ret _

/-- So do the sweep and the opening of the store. -/
theorem free_refundSweep : D.Free LightningSend.refundSweep := by
  refine (hD .now (by simp)).bind fun now => ?_
  refine (hD (.findRefundable now) (by simp)).bind fun selected => ?_
  cases selected with
  | none => exact Discipline.free_ret _
  | some row =>
    dsimp only
    split
    · exact Discipline.free_ret _
    · have hp := (free_pushRefund hD).tryCatch fun _ => Discipline.free_ret false
      exact hp.bind fun _ => Discipline.free_ret _

/-- Opening the store runs its backfills. -/
theorem free_openStore : D.Free LightningSend.openStore :=
  (hD .backfillExternal (by simp)).bind fun _ => hD .backfillPushed (by simp)

end NonUpdates

/-- Nobody minds an action that is not an UPDATE. -/
theorem free_edge_issue (op : SendOp)
    (h : ∀ source target columns, op ≠ .update source target columns) :
    edgeDiscipline.Free (LightningSend.issue op) := by
  refine Discipline.free_issue fun _ => ?_
  cases op with
  | update source target columns => exact absurd rfl (h source target columns)
  | _ => trivial

/-- Nothing but a transition is restricted. -/
theorem quiet_edge_issue (op : SendOp)
    (h : ∀ source target columns, op ≠ .update source target columns) :
    edgeDiscipline.Quiet (LightningSend.issue op) := by
  intro note
  refine ⟨(free_edge_issue op h note).1, fun _ => rfl⟩

/-- And a transition only to the edges of the machine. -/
theorem free_edge_update {source target : SendSwapState} (columns : List SendColumn)
    (h : target ∈ (LnSendMachine source).edges) :
    edgeDiscipline.Free (LightningSend.issue (.update source target columns)) :=
  Discipline.free_issue fun _ => h

/-- The whole corridor writes along the lifecycle. -/
theorem freeSteps_edge : FreeSteps edgeDiscipline where
  get := free_edge_issue _ (by simp)
  findRefundable _ := free_edge_issue _ (by simp)
  backfillExternal := free_edge_issue _ (by simp)
  backfillPushed := free_edge_issue _ (by simp)
  now := quiet_edge_issue _ (by simp)
  tipHeight := quiet_edge_issue _ (by simp)
  read _ := free_edge_issue _ (by simp)
  getSendHtlcState := free_edge_issue _ (by simp)
  getPayment _ := free_edge_issue _ (by simp)
  payInvoice _ := free_edge_issue _ (by simp)
  payResult := free_edge_issue _ (by simp)
  update _ _ columns he _ _ := free_edge_update columns he
  patch _ _ := free_edge_issue _ (by simp)
  pushRefund := free_pushRefund free_edge_issue
  refundAfterTerminalFailure := free_refundAfterTerminalFailure free_edge_issue

/-- A claim writes along the machine. -/
theorem freeClaiming_edge : FreeClaiming edgeDiscipline where
  now := free_edge_issue _ (by simp)
  read _ := free_edge_issue _ (by simp)
  boundedInputs _ := free_edge_issue _ (by simp)
  claim _ := free_edge_issue _ (by simp)
  finalizePendingClaim := free_edge_issue _ (by simp)
  findClaimPreimage _ := free_edge_issue _ (by simp)
  claimUnrolled _ _ := free_edge_issue _ (by simp)
  patchClaimTxid _ := free_edge_issue _ (by simp)
  patchUnrolled _ := free_edge_issue _ (by simp)
  update _ he columns _ := free_edge_update columns he

variable {config} {note : SendNote}

/-- Notes that restrict nothing stay so. -/
theorem free_sendLearn (op : SendOp) (answer : op.Ans) (h : note.free = true) :
    (sendLearn config note op answer).free = true := by
  rcases Bool.or_eq_true_iff.mp h with hd | hp
  · unfold sendLearn
    split <;> simp [SendNote.free, hd]
  · unfold sendLearn
    split <;> simp [SendNote.free, hp]

/-- With notes that restrict nothing, code that keeps to the lifecycle is licensed. -/
theorem obeys_of_free {α : Type} {program : LightningSend.Prog α}
    (hf : edgeDiscipline.Free program) (h : note.free = true) :
    (sendDiscipline config).Obeys note program fun _ _ => True := by
  have hm : ∀ (_ : Unit) (other : SendNote) op, edgeDiscipline.may () op → other.free = true →
      sendMay other op := by
    intro _ other op he ho
    cases op with
    | update source target columns => exact ⟨he, .inl ho⟩
    | _ => trivial
  have ht := (hf ()).transfer (E := sendDiscipline config) h hm
    fun other op answer ho => free_sendLearn op answer ho
  exact ht.mono fun _ _ _ => trivial

/-- Actions other than UPDATEs are always licensed. -/
theorem free_send_issue (op : SendOp)
    (h : ∀ source target columns, op ≠ .update source target columns) :
    (sendDiscipline config).Free (LightningSend.issue op) := by
  refine Discipline.free_issue fun _ => ?_
  cases op with
  | update source target columns => exact absurd rfl (h source target columns)
  | _ => trivial

/-- The send worker keeps nothing of the clock. -/
theorem quiet_send_now : (sendDiscipline config).Quiet (LightningSend.issue .now) :=
  Discipline.quiet_issue (fun _ => trivial) fun _ _ => rfl

/-- Nor of the chain's height. -/
theorem quiet_send_tip : (sendDiscipline config).Quiet (LightningSend.ask .tipHeight) := by
  have hi : (sendDiscipline config).Quiet (LightningSend.issue (.read .tipHeight)) :=
    Discipline.quiet_issue (fun _ => trivial) fun _ _ => rfl
  exact hi.bind fun answer => Discipline.quiet_ofExcept answer

/-- So a refund deadline is resolved without a trace. -/
theorem quiet_send_deadline (deps : SendDeps) (refundLocktime : ℤ) (purpose : String) :
    (sendDiscipline config).Quiet
      (refundDeadlineSeconds (LightningSend.chainPort deps) refundLocktime purpose) := by
  refine quiet_refundDeadlineSeconds quiet_send_now (fun height hh => ?_) _ _
  unfold LightningSend.chainPort at hh
  dsimp only at hh
  split at hh
  · cases hh
    exact quiet_send_tip
  · cases hh

/-- A patch teaches a send worker nothing. -/
theorem quiet_send_patch (columns : List SendColumn) :
    (sendDiscipline config).Quiet (LightningSend.patch columns) := by
  have hi : (sendDiscipline config).Quiet (LightningSend.issue (.patch columns)) :=
    Discipline.quiet_issue (fun _ => trivial) fun _ _ => rfl
  refine (Discipline.quiet_ofExcept _).bind fun _ => ?_
  exact hi.bind fun written => Discipline.quiet_ofExcept written

/-- A quoted row that is refused restricts nobody. -/
theorem obeys_fail_quoted (reason : String) :
    (sendDiscipline config).Obeys note
      ((LightningSend.fail .quoted reason).bind fun _ => .ret false) fun _ _ => True := by
  have ht : (sendDiscipline config).Obeys note (LightningSend.fail .quoted reason)
      fun _ _ => True := by
    have hu : (sendDiscipline config).Obeys note (LightningSend.transition .quoted
        (failTarget sendShape .quoted) [.failureReason reason]) fun _ _ => True := by
      apply SwapStore.obeys_transition sendShape
      intro he
      exact ⟨⟨he, .inr ⟨by simp, fun hf => absurd hf (by decide)⟩⟩, fun _ => trivial⟩
    exact hu.bind fun _ _ _ => trivial
  exact ht.bind fun _ _ _ => trivial

/-- A quoted row is not funded yet, and refusing it is free. -/
theorem obeys_refuseQuoted (lockupValue : ℤ) (reason : String) :
    (sendDiscipline config).Obeys note (LightningSend.refuseQuoted lockupValue reason)
      fun _ _ => True :=
  (quiet_send_patch _).obeys_bind fun _ => obeys_fail_quoted reason

/-- A look at the lockup is remembered. -/
theorem obeys_look :
    (sendDiscipline config).Obeys note (LightningSend.ask .findLockups) fun lockups after =>
      after = { note with looked := some (totalValue (satsOutputs lockups)) } := by
  refine Discipline.obeys_issue_bind.mpr ⟨trivial, fun answer => ?_⟩
  cases answer with
  | error fault => trivial
  | ok outputs => rfl

/-- A quoted row is adopted only on a look that showed its whole amount. -/
theorem obeys_adoptQuoted {row : SendSwapRow} {lockups : List FundedOutput}
    (hr : note.row = some row) (hl : note.looked = some (totalValue (satsOutputs lockups)))
    (timedOut expired : Bool) :
    (sendDiscipline config).Obeys note (LightningSend.adoptQuoted row lockups timedOut expired)
      fun _ _ => True := by
  unfold LightningSend.adoptQuoted
  dsimp only
  split
  · exact obeys_refuseQuoted _ _
  split
  · exact obeys_refuseQuoted _ _
  split
  · exact obeys_refuseQuoted _ _
  split
  · next hw =>
    apply SwapStore.obeys_transition sendShape
    intro he
    have hlooked : note.looked = some row.amountSats := by rw [hl, hw.1]
    exact ⟨⟨he, .inr ⟨by simp, fun _ => ⟨row, hr, hlooked⟩⟩⟩, fun _ => trivial⟩
  split
  · have hrecord :
        (sendDiscipline config).Quiet (LightningSend.recordHeld (totalValue lockups)) := by
      unfold LightningSend.recordHeld
      split
      · exact quiet_send_patch _
      · exact Discipline.quiet_ret _
    exact hrecord.obeys_bind fun _ => obeys_fail_quoted _
  · trivial

/-- Adopting records exactly what the last look at the lockup showed. -/
theorem obeys_send_whenQuoted (deps : SendDeps) {row : SendSwapRow} (hr : note.row = some row) :
    (sendDiscipline config).Obeys note (LightningSend.whenQuoted deps row) fun _ _ => True := by
  apply obeys_look.bind
  rintro lockups after rfl
  refine quiet_send_now.obeys_bind fun now => ?_
  refine quiet_send_now.obeys_bind fun later => ?_
  have hrow : ({ note with looked := some (totalValue (satsOutputs lockups)) } : SendNote).row =
      some row := hr
  exact obeys_adoptQuoted hrow rfl _ _

/-- With notes that restrict nothing a row may be failed from any state. -/
theorem obeys_fail_free (source : SendSwapState) (reason : String) (h : note.free = true) :
    (sendDiscipline config).Obeys note
      ((LightningSend.fail source reason).bind fun _ => .ret false) fun _ _ => True :=
  obeys_of_free (freeSteps_edge.fail_stop source reason) h

/-- The coupled branch leaves `funded` for `claiming`, unless the receive row took an HTLC. -/
theorem obeys_whenFundedCoupled (deps : SendDeps) {row : SendSwapRow} {coupled : ReceiveSwapRow}
    (hr : note.row = some row) (hd : coupled.htlcExpiresAt.isSome = true → note.free = true) :
    (sendDiscipline config).Obeys note
      (LightningSend.whenFundedCoupled (config.wire deps) row coupled) fun _ _ => True := by
  unfold LightningSend.whenFundedCoupled
  split
  · next hh => exact obeys_fail_free _ _ (hd hh)
  · have hq : (sendDiscipline config).Quiet
        (LightningSend.ask (.coupledOutpoints coupled.pkScript)) := by
      have hi : (sendDiscipline config).Quiet
          (LightningSend.issue (.read (.coupledOutpoints coupled.pkScript))) :=
        Discipline.quiet_issue (fun _ => trivial) fun _ _ => rfl
      exact hi.bind fun answer => Discipline.quiet_ofExcept answer
    refine hq.obeys_bind fun outpoints => ?_
    split
    · trivial
    · refine Discipline.obeys_issue_bind.mpr ⟨trivial, fun answer => ?_⟩
      rcases answer with fault | _ | preimage
      · trivial
      · trivial
      · -- A preimage that fails the check is not one the indexer gives.
        change (sendDiscipline config).Obeys _
          (LightningSend.claimWithPreimage (config.wire deps) row preimage .funded) _
        unfold LightningSend.claimWithPreimage
        split
        · next hm =>
          refine obeys_fail_free _ _ ?_
          have hmatch : config.preimageMatchesHash preimage row.paymentHash = false := by
            simpa [PairConfig.wire] using hm
          have hdead : (sendLearn config note (.read (.coupledPreimage outpoints))
              (.ok (some preimage))).dead = true := by
            simp [sendLearn, hr, hmatch]
          exact Bool.or_eq_true_iff.mpr (.inl hdead)
        · apply SwapStore.obeys_transition sendShape
          intro he
          exact ⟨⟨he, .inr ⟨fun _ => rfl, fun hf => (by cases hf)⟩⟩, fun _ => trivial⟩

/-- A refusal frees the lockup only when nobody holds the fund lease. -/
theorem obeys_refundCoupledRefusal (deps : SendDeps) {receive : ReceiveSwapRow}
    (hd : receive.fundStartedAt = none → note.free = true) :
    (sendDiscipline config).Obeys note (LightningSend.refundCoupledRefusal deps receive)
      fun _ _ => True := by
  by_cases hf : receive.fundStartedAt = none
  · exact obeys_of_free (freeSteps_edge.refundCoupledRefusal deps receive) (hd hf)
  · have hs : receive.fundStartedAt.isSome ∨ receive.htlcExpiresAt.isSome :=
      .inl (Option.isSome_iff_ne_none.mpr hf)
    unfold LightningSend.refundCoupledRefusal
    rw [if_pos hs]
    trivial

/-- A funded row of this deployment waits for the receive row's fate. -/
theorem obeys_send_whenFunded (deps : SendDeps) {row : SendSwapRow} (hr : note.row = some row)
    (hs : sound config row = false → note.free = true) :
    (sendDiscipline config).Obeys note (LightningSend.whenFunded (config.wire deps) row)
      fun _ _ => True := by
  by_cases hf : note.free = true
  · exact obeys_of_free (freeSteps_edge.whenFunded _ row) hf
  have hsound : sound config row = true := by
    by_contra hn
    exact hf (hs (by simpa using hn))
  simp only [sound, Bool.and_eq_true, decide_eq_true_eq] at hsound
  obtain ⟨hkey, hcovers⟩ := hsound
  obtain ⟨deadline, hquoted, hcovers⟩ := (Option.any_eq_true _ _).mp hcovers
  unfold LightningSend.whenFunded
  have hwired : (config.wire deps).providerPubkey = config.quote.providerPubkey := rfl
  rw [if_neg (by rw [hwired, hkey]; simp)]
  refine (quiet_send_deadline _ _ _).obeys_bind fun refundDeadline => ?_
  rw [if_neg (by rw [hquoted, Option.getD_some, hcovers]; simp)]
  refine Discipline.obeys_issue_bind.mpr ⟨trivial, fun live => ?_⟩
  rcases live with fault | _ | coupled
  · trivial
  · -- No live receive row: only its refusal can be found.
    refine Discipline.obeys_issue_bind.mpr ⟨trivial, fun answer => ?_⟩
    rcases answer with fault | _ | receive
    · trivial
    · refine obeys_of_free (freeSteps_edge.payFunded _ row _) ?_
      have hdead : (sendLearn config { note with gone := true } (.read .receive)
          (.ok none)).dead = true := by
        simp [sendLearn]
      exact Bool.or_eq_true_iff.mpr (.inl hdead)
    · change (sendDiscipline config).Obeys _ (if receive.invoice.toLower = row.invoice.toLower ∧
        receive.state = .refused then LightningSend.refundCoupledRefusal (config.wire deps) receive
        else LightningSend.payFunded (config.wire deps) row refundDeadline) _
      split
      · next hown =>
        refine obeys_refundCoupledRefusal _ fun hfree => ?_
        have hdead : (sendLearn config { note with gone := true } (.read .receive)
            (.ok (some receive))).dead = true := by
          simp [sendLearn, unleased, hown.2, hfree]
        exact Bool.or_eq_true_iff.mpr (.inl hdead)
      · next hown =>
        refine obeys_of_free (freeSteps_edge.payFunded _ row _) ?_
        have hdead : (sendLearn config { note with gone := true } (.read .receive)
            (.ok (some receive))).dead = true := by
          have hmiss : ownRefusal row receive = false := decide_eq_false hown
          simp [sendLearn, hr, hmiss]
        exact Bool.or_eq_true_iff.mpr (.inl hdead)
  · refine obeys_whenFundedCoupled deps hr fun hh => ?_
    have hdead : (sendLearn config note (.read .liveReceive) (.ok (some coupled))).dead = true := by
      simp [sendLearn, hh]
    exact Bool.or_eq_true_iff.mpr (.inl hdead)

/-- Every step of a send tick is licensed by the row it read. -/
theorem obeys_send_step (deps : SendDeps) (row : SendSwapRow) :
    (sendDiscipline config).Obeys (sendLearn config note .get row)
      (LightningSend.step config.wallet (config.wire deps) row) fun _ _ => True := by
  have hpast : beyond row.state = true → (sendLearn config note .get row).free = true := by
    intro hb
    simp [sendLearn, SendNote.free, hb]
  unfold LightningSend.step
  split
  · exact obeys_send_whenQuoted _ rfl
  · refine obeys_send_whenFunded deps rfl fun hs => ?_
    simp [sendLearn, SendNote.free, hs]
  · next hp =>
    exact obeys_of_free (freeSteps_edge.whenPaying _ row) (hpast (by rw [hp]; rfl))
  · next hp =>
    exact obeys_of_free (freeSteps_edge.settleFromBackend _ row _) (hpast (by rw [hp]; rfl))
  · next hp =>
    exact obeys_of_free (freeClaiming_edge.whenClaiming _ _ row) (hpast (by rw [hp]; rfl))
  · trivial

/-- A tick reads the row before each step. -/
theorem obeys_send_tick (deps : SendDeps) (rounds : ℕ) :
    (sendDiscipline config).Obeys note
      (LightningSend.tick config.wallet (config.wire deps) rounds) fun _ _ => True := by
  induction rounds generalizing note with
  | zero => trivial
  | succ rounds ih =>
    refine Discipline.obeys_issue_bind.mpr ⟨trivial, fun row => ?_⟩
    refine (obeys_send_step deps row).bind fun advanced after _ => ?_
    split
    · exact ih
    · trivial

/-- So is every job of a send worker. -/
theorem obeys_send_job (job : SendJob) :
    (sendDiscipline config).Obeys note ((config.wireJob job).program config.wallet)
      fun _ _ => True := by
  cases job with
  | tick deps rounds => exact obeys_send_tick deps rounds
  | refundSweep => exact free_refundSweep free_send_issue note
  | openStore => exact free_openStore free_send_issue note

/-! ## Receive workers -/

/-- What a receive worker has learnt about the pair. -/
structure ModeNote where
  /-- The row as it last read it. -/
  row : Option ReceiveSwapRow := none
  /-- What it has found since its last hold poll, if it has polled. -/
  mode : Option (Option SendSwapRow) := none
  /-- It has won the fund lease since. -/
  claimed : Bool := false

/-- The column that tells a coupled row from a Lightning one. -/
def marksHtlc : ReceiveColumn → Bool
  | .htlcExpiresAt _ => true
  | _ => false

/-- It has polled, and a send row it found since is funded and covers the payout. -/
def Ready (note : ModeNote) : Prop :=
  ∃ mode, note.mode = some mode ∧ ∀ coupled, mode = some coupled →
    coupled.state = .funded ∧ ∃ row, note.row = some row ∧ row.payoutSats ≤ coupled.amountSats

/-- What a receive worker may do with these notes. -/
def modeMay (note : ModeNote) : ReceiveOp → Prop
  | .update source _ columns => source ≠ .quoted → ∀ column ∈ columns, marksHtlc column = false
  | .patch columns => ∀ column ∈ columns, marksHtlc column = false
  | .claimFundLease _ => Ready note
  | .fund _ payoutSats _ => note.claimed = true ∧ Ready note ∧
      ∃ row, note.row = some row ∧ payoutSats = row.payoutSats
  | _ => True

/-- What a receive worker learns from an answer. -/
def modeLearn (note : ModeNote) : (op : ReceiveOp) → op.Ans → ModeNote
  | .get, row => { row := some row }
  | .read .getHoldState, _ => { note with mode := some none, claimed := false }
  | .read .coupledSend, .ok coupled => { note with mode := some coupled, claimed := false }
  | .read .coupledSend, .error _ => { note with mode := some none, claimed := false }
  | .claimFundLease _, won => { note with claimed := won }
  | _, _ => note

/-- The notes and licences of a receive worker about the pair. -/
def modeDiscipline : Discipline ReceiveOp.Ans where
  Note := ModeNote
  fresh := {}
  may := modeMay
  learn := modeLearn

section Receive

variable {note : ModeNote}

/-- The receive worker keeps nothing of the clock. -/
theorem quiet_mode_now : modeDiscipline.Quiet (LightningReceive.issue .now) :=
  Discipline.quiet_issue (fun _ => trivial) fun _ _ => rfl

/-- Reads that say nothing about the mode. -/
theorem quiet_mode_ask {question : ReceiveQuestion}
    (hl : ∀ note answer, modeLearn note (.read question) answer = note) :
    modeDiscipline.Quiet (LightningReceive.ask question) := by
  have hi : modeDiscipline.Quiet (LightningReceive.issue (.read question)) :=
    Discipline.quiet_issue (fun _ => trivial) hl
  exact hi.bind fun answer => Discipline.quiet_ofExcept answer

/-- A refund deadline is resolved without a trace. -/
theorem quiet_mode_deadline (deps : ReceiveDeps) (refundLocktime : ℤ) (purpose : String) :
    modeDiscipline.Quiet
      (refundDeadlineSeconds (LightningReceive.chainPort deps) refundLocktime purpose) := by
  refine quiet_refundDeadlineSeconds quiet_mode_now (fun height hh => ?_) _ _
  unfold LightningReceive.chainPort at hh
  dsimp only at hh
  split at hh
  · cases hh
    exact quiet_mode_ask fun _ _ => rfl
  · cases hh

/-- Retiring the invoice has nothing to do with the mode. -/
theorem quiet_mode_retireInvoice (deps : ReceiveDeps) :
    modeDiscipline.Quiet (LightningReceive.retireInvoice deps) := by
  unfold LightningReceive.retireInvoice
  split
  · have hi : modeDiscipline.Quiet (LightningReceive.issue (.read .cancelHold)) :=
      Discipline.quiet_issue (fun _ => trivial) fun _ _ => rfl
    exact hi.bind fun _ => Discipline.quiet_ret ()
  · exact Discipline.quiet_ret ()

/-- Nor has looking for the payout's outputs. -/
theorem quiet_mode_outpoints : modeDiscipline.Quiet LightningReceive.findLockupOutpoints := by
  have hi : modeDiscipline.Quiet (LightningReceive.issue .findLockupOutpoints) :=
    Discipline.quiet_issue (fun _ => trivial) fun _ _ => rfl
  exact hi.bind fun answer => Discipline.quiet_ofExcept answer

/-- A transition that leaves the HTLC column alone. -/
theorem quiet_mode_transition {source target : ReceiveSwapState} {columns : List ReceiveColumn}
    (h : source ≠ .quoted → ∀ column ∈ columns, marksHtlc column = false) :
    modeDiscipline.Quiet (LightningReceive.transition source target columns) := by
  intro note
  apply SwapStore.obeys_transition receiveShape
  intro _
  exact ⟨h, fun _ => rfl⟩

/-- Failing a row leaves the HTLC column alone. -/
theorem quiet_mode_fail (source : ReceiveSwapState) (reason : String) :
    modeDiscipline.Quiet (LightningReceive.fail source reason) :=
  (quiet_mode_transition (by simp [marksHtlc])).bind fun _ => Discipline.quiet_ret _

/-- A row may be failed and left. -/
theorem quiet_mode_failStop (source : ReceiveSwapState) (reason : String) :
    modeDiscipline.Quiet ((LightningReceive.fail source reason).bind fun _ => .ret false) :=
  (quiet_mode_fail source reason).bind fun _ => Discipline.quiet_ret _

/-- Only a quoted row is marked with its HTLC. -/
theorem quiet_mode_arm (expiresAt : Option ℤ) :
    modeDiscipline.Quiet
      (LightningReceive.transition .quoted .armed [.htlcExpiresAt expiresAt]) :=
  quiet_mode_transition fun h => absurd rfl h

/-- A look at the send row is remembered; without a send store there is none. -/
theorem obeys_coupledSend (deps : ReceiveDeps) (hm : note.mode = some none) :
    modeDiscipline.Obeys note (LightningReceive.coupledSend deps)
      fun coupled after => after.row = note.row ∧ after.mode = some coupled := by
  unfold LightningReceive.coupledSend
  split
  · refine Discipline.obeys_issue_bind.mpr ⟨trivial, fun answer => ?_⟩
    cases answer with
    | error fault => trivial
    | ok coupled => exact ⟨rfl, rfl⟩
  · exact ⟨rfl, hm⟩

/-- Arming a coupled row leaves it unmarked. -/
theorem free_mode_whenQuotedCoupled (deps : ReceiveDeps) (row : ReceiveSwapRow)
    (coupled : SendSwapRow) :
    modeDiscipline.Free (LightningReceive.whenQuotedCoupled deps row coupled) := by
  unfold LightningReceive.whenQuotedCoupled
  split
  · exact (quiet_mode_failStop _ _).free
  split
  · exact (quiet_mode_retireInvoice deps).free.bind fun _ => (quiet_mode_failStop _ _).free
  split
  · exact Discipline.free_ret _
  refine (quiet_mode_deadline deps _ _).free.bind fun deadline => ?_
  split
  · exact (quiet_mode_failStop _ _).free
  refine (quiet_mode_ask fun _ _ => rfl).free.bind fun lockups => ?_
  split
  · exact Discipline.free_ret _
  · exact (quiet_mode_retireInvoice deps).free.bind fun _ => (quiet_mode_arm none).free

/-- The send row of the pair may be looked up at any time. -/
theorem free_mode_coupledSend (deps : ReceiveDeps) :
    modeDiscipline.Free (LightningReceive.coupledSend deps) := by
  unfold LightningReceive.coupledSend
  split
  · have hi : modeDiscipline.Free (LightningReceive.issue (.read .coupledSend)) :=
      Discipline.free_issue fun _ => trivial
    exact hi.bind fun answer => Discipline.free_ofExcept answer
  · exact Discipline.free_ret _

/-- The hold may be polled at any time. -/
theorem free_mode_holdState :
    modeDiscipline.Free (LightningReceive.ask .getHoldState) := by
  have hi : modeDiscipline.Free (LightningReceive.issue (.read .getHoldState)) :=
    Discipline.free_issue fun _ => trivial
  exact hi.bind fun answer => Discipline.free_ofExcept answer

/-- A quoted row is armed or refused, and nothing is paid. -/
theorem free_mode_whenQuoted (deps : ReceiveDeps) (row : ReceiveSwapRow) :
    modeDiscipline.Free (LightningReceive.whenQuoted deps row) := by
  refine free_mode_holdState.bind fun state => ?_
  split
  · exact (quiet_mode_arm _).free
  · refine (free_mode_coupledSend deps).bind fun coupled => ?_
    cases coupled with
    | some coupled => exact free_mode_whenQuotedCoupled deps row coupled
    | none =>
      refine quiet_mode_now.free.bind fun now => ?_
      split
      · exact (quiet_mode_retireInvoice deps).free.bind fun _ => (quiet_mode_failStop _ _).free
      · exact Discipline.free_ret _

/-- Passed coupled gates: the send row was funded and covers the payout. -/
theorem obeys_mode_coupledGates (deps : ReceiveDeps) (row : ReceiveSwapRow)
    (coupled : SendSwapRow) :
    modeDiscipline.Obeys note (LightningReceive.coupledGates deps row coupled)
      fun fund after => after = note ∧ (fund = true →
        coupled.state = .funded ∧ row.payoutSats ≤ coupled.amountSats) := by
  have hfail : ∀ reason, modeDiscipline.Obeys note
      ((LightningReceive.fail .armed reason).bind fun _ => .ret false)
      fun fund after => after = note ∧ (fund = true →
        coupled.state = .funded ∧ row.payoutSats ≤ coupled.amountSats) := by
    intro reason
    apply (quiet_mode_fail .armed reason).obeys_bind
    intro _
    exact ⟨rfl, fun hf => by cases hf⟩
  unfold LightningReceive.coupledGates
  split
  · exact hfail _
  next hfunded =>
  refine (quiet_mode_deadline deps _ _).obeys_bind fun deadline => ?_
  split
  · exact hfail _
  split
  · exact hfail _
  next hcovers =>
  refine quiet_mode_now.obeys_bind fun now => ?_
  split
  · exact hfail _
  · exact ⟨rfl, fun _ => ⟨not_not.mp hfunded, not_lt.mp hcovers⟩⟩

/-- The gates of a Lightning row read and refuse. -/
theorem quiet_mode_lightningGates (deps : ReceiveDeps) (row : ReceiveSwapRow)
    (htlcExpiresAt : Option ℤ) :
    modeDiscipline.Quiet (LightningReceive.lightningGates deps row htlcExpiresAt) := by
  refine (quiet_mode_deadline deps _ _).bind fun refundLocktime => ?_
  refine quiet_mode_now.bind fun now => ?_
  refine (Discipline.quiet_ofExcept _).bind fun decision => ?_
  cases decision with
  | ok _ => exact Discipline.quiet_ret _
  | error reason => exact quiet_mode_failStop _ _

/-- A funding is looked for until it shows. -/
theorem quiet_mode_confirmFunding (row : ReceiveSwapRow) (fundTxid : String) (polls : ℕ) :
    modeDiscipline.Quiet (LightningReceive.confirmFunding row fundTxid polls) := by
  induction polls with
  | zero => exact Discipline.quiet_throw _
  | succ polls ih =>
    refine quiet_mode_outpoints.bind fun outpoints => ?_
    split
    · exact Discipline.quiet_ret _
    · exact ih

/-- Recording a funding leaves the mark of the HTLC alone. -/
theorem quiet_mode_record (output : LockupOutpoint) :
    modeDiscipline.Quiet
      (LightningReceive.transition .armed .funded (LightningReceive.lockupColumns output)) :=
  quiet_mode_transition (by simp [LightningReceive.lockupColumns, marksHtlc])

/-- What a failed funding leaves behind has nothing to do with the mode. -/
theorem free_mode_fundingThrew (deps : ReceiveDeps) (coupled : Bool) (error : Fault) :
    modeDiscipline.Free (LightningReceive.fundingThrew deps coupled error) := by
  unfold LightningReceive.fundingThrew
  split
  · split
    · refine (quiet_mode_retireInvoice deps).free.bind fun _ => ?_
      exact (quiet_mode_transition (by simp [marksHtlc])).free.bind fun _ => Discipline.free_ret _
    · have hr : modeDiscipline.Free (LightningReceive.issue .releaseFundLease) :=
        Discipline.free_issue fun _ => trivial
      exact hr.bind fun _ => Discipline.free_throw _
  · exact Discipline.free_throw _

/-- The payout is asked for only by a worker that is ready for it. -/
theorem obeys_mode_fundLockup (deps : ReceiveDeps) {row : ReceiveSwapRow} (coupled : Bool)
    (polls : ℕ) (hr : note.row = some row) (hn : Ready note) :
    modeDiscipline.Obeys note (LightningReceive.fundLockup deps row coupled polls)
      fun _ _ => True := by
  refine Discipline.obeys_issue_bind.mpr ⟨hn, fun won => ?_⟩
  cases won with
  | false => trivial
  | true =>
  refine Discipline.obeys_issue_bind.mpr ⟨⟨rfl, hn, row, hr, rfl⟩, fun answer => ?_⟩
  cases answer with
  | error error => exact free_mode_fundingThrew deps coupled error _
  | ok fundTxid =>
    have hrest : modeDiscipline.Free ((LightningReceive.confirmFunding row fundTxid polls).bind
        fun funded => LightningReceive.transition .armed .funded
          (LightningReceive.lockupColumns funded)) :=
      (quiet_mode_confirmFunding row fundTxid polls).free.bind fun funded =>
        (quiet_mode_record funded).free
    dsimp only
    split
    · refine quiet_mode_now.obeys_bind fun now => ?_
      have hp : modeDiscipline.Free (LightningReceive.patch [.stampedAt now]) := by
        refine (Discipline.free_ofExcept _).bind fun _ => ?_
        exact Discipline.free_issue fun _ => by simp [modeDiscipline, modeMay, marksHtlc]
      exact (hp.bind fun _ => hrest) _
    · exact hrest _

/-- Nor has waiting for a funding that was lost. -/
theorem free_mode_awaitLostFunding (deps : ReceiveDeps) (row : ReceiveSwapRow) :
    modeDiscipline.Free (LightningReceive.awaitLostFunding deps row) := by
  refine (quiet_mode_deadline deps _ _).free.bind fun deadline => ?_
  refine quiet_mode_now.free.bind fun now => ?_
  split
  · exact (quiet_mode_transition (by simp [marksHtlc])).free.bind fun _ => Discipline.free_ret _
  · exact Discipline.free_ret _

/-- What a worker finds after its hold poll is its mode. -/
theorem obeys_coupledUnless (deps : ReceiveDeps) (htlcExpiresAt : Option ℤ)
    (hm : note.mode = some none) :
    modeDiscipline.Obeys note (LightningReceive.coupledUnless deps htlcExpiresAt)
      fun coupled after => after.row = note.row ∧ after.mode = some coupled := by
  unfold LightningReceive.coupledUnless
  split
  · exact obeys_coupledSend deps hm
  · exact ⟨rfl, hm⟩

/-- An armed row is funded in the mode its worker found after its last poll, and only after it won
the lease. -/
theorem obeys_mode_whenArmed (deps : ReceiveDeps) {row : ReceiveSwapRow} (polls : ℕ)
    (hr : note.row = some row) :
    modeDiscipline.Obeys note (LightningReceive.whenArmed deps row polls) fun _ _ => True := by
  refine quiet_mode_outpoints.obeys_bind fun outpoints => ?_
  cases adoptFunding outpoints row.payoutSats with
  | some alreadyFunded => exact (quiet_mode_record alreadyFunded).free note
  | none =>
    dsimp only
    split
    · exact free_mode_awaitLostFunding deps row note
    refine Discipline.obeys_issue_bind.mpr ⟨trivial, fun answer => ?_⟩
    cases answer with
    | error fault => trivial
    | ok fresh =>
      apply (obeys_coupledUnless deps (LightningReceive.trustedExpiry fresh) rfl).bind
      rintro coupled found ⟨hrow, hmode⟩
      have hread : found.row = some row := hrow.trans hr
      cases coupled with
      | some coupled =>
        apply (obeys_mode_coupledGates deps row coupled).bind
        rintro fund after ⟨rfl, hgates⟩
        split
        · next hf =>
          obtain ⟨hfunded, hcovers⟩ := hgates hf
          refine obeys_mode_fundLockup deps true polls hread ⟨some coupled, hmode, ?_⟩
          rintro _ ⟨⟩
          exact ⟨hfunded, row, hread, hcovers⟩
        · trivial
      | none =>
        apply (quiet_mode_lightningGates deps row _).obeys_bind
        intro fund
        split
        · exact obeys_mode_fundLockup deps false polls hread ⟨none, hmode, by simp⟩
        · trivial

/-- Every receive tick is licensed. -/
theorem obeys_mode_tick (deps : ReceiveDeps) (polls rounds : ℕ) :
    modeDiscipline.Obeys note (LightningReceive.tick deps polls rounds) fun _ _ => True := by
  induction rounds generalizing note with
  | zero => trivial
  | succ rounds ih =>
    refine Discipline.obeys_issue_bind.mpr ⟨trivial, fun row => ?_⟩
    have hs : modeDiscipline.Obeys (modeLearn note .get row)
        (LightningReceive.step deps row polls) fun _ _ => True := by
      unfold LightningReceive.step
      split
      · exact free_mode_whenQuoted deps row _
      · exact obeys_mode_whenArmed deps polls rfl
      · trivial
    refine hs.bind fun advanced after _ => ?_
    split
    · exact ih
    · trivial

end Receive

end IntentSolver.CoupledWorkers
