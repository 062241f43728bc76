import IntentSolver.LightningSendWorld

/-!
# One walk through the Lightning send corridor

Most statements about a send row mind only a few of its writes: the refund's
columns, or the step that closes a claim. For a discipline that lets a worker
do everything else at any time, this module walks every job once and leaves
only the minded parts to be checked.
-/

namespace IntentSolver.LightningSendSteps

open SwapStore ArkadeLockup LockupCollection WorkerProgram ChainClock LightningPort
open LightningSendStore LightningSend LightningSendWorld
open LightningReceiveStore (ReceiveSwapRow)

/-- The column records which outputs a funding adopted. -/
def adopts : SendColumn → Bool
  | .lockupOutpoints _ => true
  | _ => false

/-- A patch of this column minds neither a refund's outcome nor a claim. -/
def ordinary : SendColumn → Bool
  | .lockupOutpoints _ => false
  | .refundOutcome _ => false
  | .unrolledClaim _ => false
  | _ => true

/-- A discipline that never minds what a row does outside its refunds and its
claim. -/
structure FreeSteps (D : Discipline SendOp.Ans) : Prop where
  get : D.Free (issue .get)
  findRefundable : ∀ now, D.Free (issue (.findRefundable now))
  backfillExternal : D.Free (issue .backfillExternal)
  backfillPushed : D.Free (issue .backfillPushed)
  now : D.Quiet (issue .now)
  tipHeight : D.Quiet (issue (.read .tipHeight))
  read : ∀ question, D.Free (issue (.read question))
  getSendHtlcState : D.Free (issue .getSendHtlcState)
  getPayment : ∀ paymentId, D.Free (issue (.getPayment paymentId))
  payInvoice : ∀ params, D.Free (issue (.payInvoice params))
  payResult : D.Free (issue .payResult)
  update : ∀ source target columns, target ∈ (LnSendMachine source).edges → target ≠ .claimed →
    (∀ column ∈ columns, column.inTransition = true ∧ (source ≠ .quoted → adopts column = false)) →
    D.Free (issue (.update source target columns))
  patch : ∀ columns, (∀ column ∈ columns, ordinary column = true) →
    D.Free (issue (.patch columns))
  pushRefund : D.Free pushRefund
  refundAfterTerminalFailure : D.Free refundAfterTerminalFailure

namespace FreeSteps

variable {D : Discipline SendOp.Ans} (hD : FreeSteps D)

include hD

/-- Every question may be asked. -/
theorem ask (question : SendQuestion) : D.Free (LightningSend.ask question) :=
  (hD.read question).bind fun answer => Discipline.free_ofExcept answer

/-- A transition that closes no claim is one of the machine's own edges, or it throws. -/
theorem transition (source : SendSwapState) {target : SendSwapState} (ht : target ≠ .claimed)
    {columns : List SendColumn}
    (hc : source ≠ .quoted → ∀ column ∈ columns, adopts column = false) :
    D.Free (LightningSend.transition source target columns) := by
  intro note
  apply SwapStore.obeys_transition_checked sendShape
  intro he hk
  have hcolumns : ∀ column ∈ columns,
      column.inTransition = true ∧ (source ≠ .quoted → adopts column = false) :=
    fun column hm => ⟨hk column hm, fun hq => hc hq column hm⟩
  exact hD.update source target columns he ht hcolumns note

/-- A row may be failed at any time. -/
theorem fail (source : SendSwapState) (reason : String) :
    D.Free (LightningSend.fail source reason) := by
  have ht : failTarget sendShape source ≠ .claimed := by cases source <;> decide
  exact (hD.transition source ht (by simp [adopts])).bind fun _ => Discipline.free_ret _

/-- A parked or refused row ends the step. -/
theorem fail_stop (source : SendSwapState) (reason : String) :
    D.Free ((LightningSend.fail source reason).bind fun _ => .ret false) :=
  (hD.fail source reason).bind fun _ => Discipline.free_ret _

/-- A patch that minds neither a refund's outcome nor a claim. -/
theorem patch_ordinary {columns : List SendColumn}
    (hc : ∀ column ∈ columns, ordinary column = true) :
    D.Free (LightningSend.patch columns) :=
  (Discipline.free_ofExcept _).bind fun _ =>
    (hD.patch columns hc).bind fun written => Discipline.free_ofExcept written

/-- Reading the chain's height changes nothing the discipline minds. -/
theorem height (deps : SendDeps) : ∀ height ∈ (chainPort deps).height, D.Quiet height := by
  intro height hh
  unfold chainPort at hh
  dsimp only at hh
  split at hh
  · cases hh
    exact hD.tipHeight.bind fun answer => Discipline.quiet_ofExcept answer
  · cases hh

/-- Resolving a refund deadline only reads. -/
theorem deadlineSeconds (deps : SendDeps) (refundLocktime : ℤ) (purpose : String) :
    D.Free (refundDeadlineSeconds (chainPort deps) refundLocktime purpose) :=
  (quiet_refundDeadlineSeconds hD.now (hD.height deps) _ _).free

/-- Asking whether the wallet has rotated only reads. -/
theorem liveWallet (deps : SendDeps) : D.Free (liveWallet deps) := by
  unfold LightningSend.liveWallet
  split
  · refine (hD.read _).bind fun answer => ?_
    cases answer with
    | ok wallet => exact Discipline.free_ret _
    | error fault => exact Discipline.free_ret _
  · exact Discipline.free_ret _

omit hD in
/-- The columns that bind an attempt are ordinary ones. -/
theorem identityColumns_plain (deps : SendDeps) (wallet : Option String) :
    ∀ column ∈ identityColumns deps wallet, ordinary column = true ∧ adopts column = false := by
  intro column hc
  unfold identityColumns at hc
  rcases List.mem_append.mp hc with hc | hc
  · obtain ⟨name, -, rfl⟩ := Option.map_eq_some_iff.mp (Option.mem_toList.mp hc)
    exact ⟨rfl, rfl⟩
  · obtain ⟨name, -, rfl⟩ := Option.map_eq_some_iff.mp (Option.mem_toList.mp hc)
    exact ⟨rfl, rfl⟩

/-- Working out until when the lockup can be claimed only reads. -/
theorem payDeadline (deps : SendDeps) (row : SendSwapRow) (refundDeadline : ℤ) :
    D.Free (payDeadline deps row refundDeadline) := by
  refine (hD.ask .findLockups).bind fun outputs => ?_
  dsimp only
  split
  · exact hD.now.free
  · split
    · exact Discipline.free_ret _
    · exact Discipline.free_ret _

/-! ## Refunds and failures -/

/-- The sweep pushes refunds of the rows it selects, and nothing else. -/
theorem refundSweep : D.Free refundSweep := by
  refine hD.now.free.bind fun now => ?_
  refine (hD.findRefundable now).bind fun selected => ?_
  cases selected with
  | none => exact Discipline.free_ret _
  | some row =>
    dsimp only
    split
    · exact Discipline.free_ret _
    · have hp := hD.pushRefund.tryCatch fun _ => Discipline.free_ret false
      exact hp.bind fun _ => Discipline.free_ret _

/-- A self-payment our own node disproves is refused and its refund pushed. -/
theorem refundDisproved (row : SendSwapRow) (source : SendSwapState) :
    D.Free (refundDisproved row source) := by
  refine (hD.transition _ (by decide) (by simp [adopts])).bind fun won => ?_
  split
  · exact Discipline.free_ret _
  · split
    · exact Discipline.free_ret _
    · have hp := hD.pushRefund.tryCatch fun _ => Discipline.free_ret false
      exact hp.bind fun _ => Discipline.free_ret _

/-- Our own node is asked about the payee side, and only what it disproves is refunded. -/
theorem refundProvenSelfPayment (deps : SendDeps) (row : SendSwapRow)
    (source : SendSwapState) : D.Free (refundProvenSelfPayment deps row source) := by
  unfold LightningSend.refundProvenSelfPayment
  split
  · exact Discipline.free_ret _
  · refine (hD.read _).bind fun own => ?_
    rcases own with fault | _ | status
    · exact Discipline.free_ret _
    · exact Discipline.free_ret _
    · dsimp only
      split
      · exact Discipline.free_ret _
      · exact hD.refundDisproved row source

/-- A refund is pushed unless the verdict withholds it. -/
theorem refundUnlessWithheld (verdict : SelfPaymentVerdict) :
    D.Free (refundUnlessWithheld verdict) := by
  unfold LightningSend.refundUnlessWithheld
  split
  · exact Discipline.free_ret _
  · exact hD.refundAfterTerminalFailure

/-- A failed payment is closed as refused, or parked. -/
theorem settleTerminalFailure (source : SendSwapState) (refunded : Bool)
    (verdict : SelfPaymentVerdict) : D.Free (settleTerminalFailure source refunded verdict) := by
  unfold LightningSend.settleTerminalFailure
  split
  · exact hD.fail _ _
  · exact (hD.transition _ (by decide) (by simp [adopts])).bind fun _ => Discipline.free_ret _

/-- A payment that is dead for good is probed, refunded and closed. -/
theorem terminalFailure (deps : SendDeps) (row : SendSwapRow)
    (source : SendSwapState) : D.Free (terminalFailure deps row source) := by
  refine (hD.refundProvenSelfPayment deps row source).bind fun verdict => ?_
  split
  · exact Discipline.free_ret _
  · refine (hD.refundUnlessWithheld verdict).bind fun refunded => ?_
    exact (hD.settleTerminalFailure source refunded verdict).bind fun _ => Discipline.free_ret _

/-! ## Paying -/

/-- A preimage moves the row on to its claim. -/
theorem claimWithPreimage (deps : SendDeps) (row : SendSwapRow) (preimage : String)
    (source : SendSwapState) :
    D.Free (claimWithPreimage deps row preimage source) := by
  unfold LightningSend.claimWithPreimage
  split
  · exact hD.fail_stop _ _
  · exact hD.transition _ (by decide) (by simp [adopts])

/-- Refusing to pay closes the row, or parks it where there is no proof. -/
theorem refuseToPay (row : SendSwapRow) (nothingCommitted : Bool)
    (reason : String) : D.Free (refuseToPay row nothingCommitted reason) := by
  unfold LightningSend.refuseToPay
  split
  · exact (hD.transition _ (by decide) (by simp [adopts])).bind fun _ => Discipline.free_ret _
  · exact hD.fail_stop _ _

/-- What a payment answered decides between the claim, waiting and a refusal. -/
theorem afterPayment (deps : SendDeps) (row : SendSwapRow) (result : PaymentResult) :
    D.Free (afterPayment deps row result) := by
  refine (hD.liveWallet deps).bind fun wallet => ?_
  refine hD.now.free.bind fun now => ?_
  have hpatch := @FreeSteps.patch_ordinary D hD
    ([SendColumn.paymentId result.id, SendColumn.payAttemptedAt now] ++
      identityColumns deps wallet ++
      (result.feePaidSats.map SendColumn.routingFeePaidSats).toList) (by
      intro column hc
      rcases List.mem_append.mp hc with hc | hc
      · rcases List.mem_append.mp hc with hc | hc
        · rcases List.mem_cons.mp hc with rfl | hc
          · rfl
          · rw [List.mem_singleton.mp hc]
            rfl
        · exact (identityColumns_plain deps wallet column hc).1
      · obtain ⟨fee, -, rfl⟩ := Option.map_eq_some_iff.mp (Option.mem_toList.mp hc)
        rfl)
  refine hpatch.bind fun _ => ?_
  split
  · exact hD.terminalFailure deps row .paying
  · refine (hD.transition _ (by decide) (by simp [adopts])).bind fun won => ?_
    split
    · exact Discipline.free_ret _
    · cases truthy result.preimage with
      | none => exact Discipline.free_ret _
      | some preimage =>
        exact (hD.claimWithPreimage deps row preimage _).bind fun _ =>
          Discipline.free_ret _

/-- The pay call itself, and the refusal where it was turned away unsubmitted. -/
theorem callPayInvoice (deps : SendDeps) (row : SendSwapRow) (nothingCommitted : Bool)
    (params : PayInvoiceParams) : D.Free (callPayInvoice deps row nothingCommitted params) := by
  refine (hD.payInvoice params).bind fun _ => ?_
  refine hD.payResult.bind fun answer => ?_
  rcases answer with fault | result
  · cases fault with
    | paymentNotStarted message =>
      dsimp only
      split
      · have hr : D.Free (refuseUnsubmittedPayment message) := by
          refine (hD.transition _ (by decide) (by simp [adopts])).bind fun won => ?_
          split
          · exact hD.refundAfterTerminalFailure.bind fun _ => Discipline.free_ret _
          · exact Discipline.free_ret _
        exact hr.bind fun _ => Discipline.free_ret _
      · exact Discipline.free_throw _
    | error message => exact Discipline.free_throw _
    | paymentHashRegistered message => exact Discipline.free_throw _
    | fundNotSubmitted message => exact Discipline.free_throw _
  · exact hD.afterPayment deps row result

/-- Everything between the commitment and the pay call only reads. -/
theorem submitPayment (deps : SendDeps) (row : SendSwapRow)
    (nothingCommitted : Bool) : D.Free (submitPayment deps row nothingCommitted) := by
  unfold LightningSend.submitPayment
  cases truthy row.idempotencyKey with
  | none => exact hD.fail_stop _ _
  | some idempotencyKey =>
    dsimp only
    split
    · exact hD.refuseToPay row _ _
    · refine (hD.deadlineSeconds deps _ _).bind fun refundDeadline => ?_
      split
      · exact hD.refuseToPay row _ _
      · refine (Discipline.free_ofExcept _).bind fun invoice => ?_
        refine (hD.payDeadline deps row _).bind fun deadline => ?_
        have hu : D.Free (uncappedTooLong deps invoice deadline) := by
          unfold uncappedTooLong
          split
          · exact Discipline.free_ret _
          · exact hD.now.free.bind fun _ => Discipline.free_ret _
        refine hu.bind fun tooLong => ?_
        split
        · exact hD.refuseToPay row _ _
        · refine hD.now.free.bind fun now => ?_
          dsimp only
          split
          · exact hD.refuseToPay row _ _
          · exact hD.callPayInvoice deps row _ _

/-! ## The steps of a tick -/

/-- A quoted row may be refused over its lockup. -/
theorem refuseQuoted (lockupValue : ℤ) (reason : String) :
    D.Free (refuseQuoted lockupValue reason) :=
  (hD.patch_ordinary (by simp [ordinary])).bind fun _ => hD.fail_stop _ _

/-- Adopting a lockup is a write out of `quoted`. -/
theorem whenQuoted (deps : SendDeps) (row : SendSwapRow) : D.Free (whenQuoted deps row) := by
  refine (hD.ask .findLockups).bind fun lockups => ?_
  refine hD.now.free.bind fun now => ?_
  refine hD.now.free.bind fun later => ?_
  unfold adoptQuoted
  dsimp only
  split
  · exact hD.refuseQuoted _ _
  · split
    · exact hD.refuseQuoted _ _
    · split
      · exact hD.refuseQuoted _ _
      · split
        · exact hD.transition _ (by decide) fun hq => absurd rfl hq
        · split
          · have hr : D.Free (recordHeld (totalValue lockups)) := by
              unfold recordHeld
              split
              · exact hD.patch_ordinary (by simp [ordinary])
              · exact Discipline.free_ret _
            exact hr.bind fun _ => hD.fail_stop _ _
          · exact Discipline.free_ret _

/-- A coupled row collects its lockup, waits, or is parked. -/
theorem whenFundedCoupled (deps : SendDeps) (row : SendSwapRow) (coupled : ReceiveSwapRow) :
    D.Free (whenFundedCoupled deps row coupled) := by
  unfold LightningSend.whenFundedCoupled
  split
  · exact hD.fail_stop _ _
  · refine (hD.ask _).bind fun outpoints => ?_
    split
    · exact Discipline.free_ret _
    · refine (hD.ask _).bind fun preimage => ?_
      cases preimage with
      | none => exact Discipline.free_ret _
      | some preimage => exact hD.claimWithPreimage deps row preimage _

/-- Reading what became of the solver's own invoice changes nothing. -/
theorem ownInvoiceState (deps : SendDeps) (receive : ReceiveSwapRow) :
    D.Free (ownInvoiceState deps receive) := by
  unfold LightningSend.ownInvoiceState
  split
  · exact hD.ask .getOwnInvoiceState
  · split
    · exact Discipline.free_ret _
    · have hw : D.Free (currentWallet deps) := by
        unfold currentWallet
        split
        · exact hD.ask .walletFingerprint
        · exact Discipline.free_ret _
      refine hw.bind fun wallet => ?_
      split
      · split
        · exact Discipline.free_ret _
        · exact hD.ask .getKnownInvoiceState
      · exact Discipline.free_ret _

/-- A row whose receive leg was refused unfunded is refused and refunded. -/
theorem refundCoupledRefusal (deps : SendDeps) (receive : ReceiveSwapRow) :
    D.Free (refundCoupledRefusal deps receive) := by
  unfold LightningSend.refundCoupledRefusal
  split
  · exact Discipline.free_ret _
  · refine (hD.ownInvoiceState deps receive).bind fun own => ?_
    split
    · exact Discipline.free_ret _
    · refine (hD.transition _ (by decide) (by simp [adopts])).bind fun won => ?_
      split
      · exact hD.refundAfterTerminalFailure.bind fun _ => Discipline.free_ret _
      · exact Discipline.free_ret _

/-- The commitment is one transition into `paying`. -/
theorem commitToPay (deps : SendDeps) (row : SendSwapRow) : D.Free (commitToPay deps row) := by
  refine (hD.liveWallet deps).bind fun wallet => ?_
  refine hD.now.free.bind fun now => ?_
  have hplain : ∀ column ∈ [SendColumn.payAttemptedAt now,
      SendColumn.idempotencyKey ("swap-" ++ row.paymentHash)] ++ identityColumns deps wallet,
      adopts column = false := by
    intro column hc
    rcases List.mem_append.mp hc with hc | hc
    · rcases List.mem_cons.mp hc with rfl | hc
      · rfl
      · rw [List.mem_singleton.mp hc]
        rfl
    · exact (identityColumns_plain deps wallet column hc).2
  refine (hD.transition _ (by decide) fun _ => hplain).bind fun won => ?_
  split
  · exact Discipline.free_ret _
  · exact hD.get.bind fun row => hD.submitPayment deps row true

/-- Past the gates the row commits and pays. -/
theorem payFunded (deps : SendDeps) (row : SendSwapRow) (refundDeadline : ℤ) :
    D.Free (payFunded deps row refundDeadline) := by
  refine (Discipline.free_ofExcept _).bind fun invoice => ?_
  refine (hD.payDeadline deps row _).bind fun refundLocktime => ?_
  refine hD.now.free.bind fun now => ?_
  split
  · exact hD.fail_stop _ _
  · have ha : D.Free (askApproval deps) := by
      unfold askApproval
      split
      · exact hD.ask .approval
      · exact Discipline.free_ret _
    refine ha.bind fun approved => ?_
    split
    · exact Discipline.free_ret _
    · exact hD.commitToPay deps row

/-- A funded row passes its gates or is refused. -/
theorem whenFunded (deps : SendDeps) (row : SendSwapRow) : D.Free (whenFunded deps row) := by
  unfold LightningSend.whenFunded
  split
  · exact hD.fail_stop _ _
  · refine (hD.deadlineSeconds deps _ _).bind fun refundDeadline => ?_
    split
    · exact hD.fail_stop _ _
    · have hl : D.Free (liveReceive deps) := by
        unfold liveReceive
        split
        · exact hD.ask .liveReceive
        · exact Discipline.free_ret _
      refine hl.bind fun coupled => ?_
      cases coupled with
      | some coupled => exact hD.whenFundedCoupled deps row coupled
      | none =>
        have hr : D.Free (receiveByHash deps) := by
          unfold receiveByHash
          split
          · exact hD.ask .receive
          · exact Discipline.free_ret _
        refine hr.bind fun failedReceive => ?_
        cases failedReceive with
        | none => exact hD.payFunded deps row _
        | some receive =>
          dsimp only
          split
          · exact hD.refundCoupledRefusal deps receive
          · exact hD.payFunded deps row _

/-- A polled value is written only when it is new. -/
theorem patchChanged {α : Type} [DecidableEq α] {column : α → SendColumn}
    (hc : ∀ value, ordinary (column value) = true) (polled known : Option α) :
    D.Free (patchChanged column polled known) := by
  cases polled with
  | none => exact Discipline.free_ret _
  | some value =>
    unfold LightningSend.patchChanged
    dsimp only
    split
    · exact Discipline.free_ret _
    · exact hD.patch_ordinary (by simp [hc])

/-- What a poll answered is kept before it is acted on. -/
theorem settlePolled (deps : SendDeps) (row : SendSwapRow) (source : SendSwapState)
    (polled : PaymentResult) : D.Free (settlePolled deps row source polled) := by
  unfold LightningSend.settlePolled
  split
  · have ht : D.Free (tooSoon row polled.evidence) := by
      unfold tooSoon
      split
      · exact hD.now.free.bind fun _ => Discipline.free_ret _
      · exact Discipline.free_ret _
    refine ht.bind fun wait => ?_
    split
    · exact Discipline.free_ret _
    · exact hD.terminalFailure deps row source
  · have hm : D.Free (markPaid source) := by
      unfold markPaid
      split
      · exact hD.transition _ (by decide) (by simp)
      · exact Discipline.free_ret _
    refine hm.bind fun won => ?_
    split
    · exact Discipline.free_ret _
    · cases truthy polled.preimage with
      | none => exact Discipline.free_ret _
      | some preimage => exact hD.claimWithPreimage deps row preimage _

/-- A committed row asks the backend what became of its payment. -/
theorem settleFromBackend (deps : SendDeps) (row : SendSwapRow) (source : SendSwapState) :
    D.Free (settleFromBackend deps row source) := by
  unfold LightningSend.settleFromBackend
  cases truthy row.paymentId with
  | none =>
    cases truthy row.preimage with
    | none => exact Discipline.free_ret _
    | some preimage => exact hD.claimWithPreimage deps row preimage _
  | some paymentId =>
    refine (hD.getPayment paymentId).bind fun answer => ?_
    refine (Discipline.free_ofExcept _).bind fun polled => ?_
    have hr : D.Free (recordPolled row polled) :=
      (hD.patchChanged (fun _ => rfl) _ _).bind fun _ =>
        (hD.patchChanged (fun _ => rfl) _ _).bind fun _ => hD.patchChanged (fun _ => rfl) _ _
    exact hr.bind fun _ => hD.settlePolled deps row source polled

/-- A blocked hash is thrown, and parked once it is old. -/
theorem whenHashBlocked (row : SendSwapRow) (message : String) :
    D.Free (whenHashBlocked row message) := by
  unfold LightningSend.whenHashBlocked
  split
  · exact Discipline.free_throw _
  · refine hD.now.free.bind fun now => ?_
    split
    · exact Discipline.free_throw _
    · exact hD.fail_stop _ _

/-- A committed HTLC settles its row, refunds it, or leaves it to a later poll. -/
theorem recoverCommitted (deps : SendDeps) (row : SendSwapRow) (htlc : SendHtlcState) :
    D.Free (recoverCommitted deps row htlc) := by
  unfold LightningSend.recoverCommitted
  cases htlc.status with
  | settled =>
    cases truthy htlc.preimage with
    | none => exact hD.fail_stop _ _
    | some preimage =>
      refine (hD.transition _ (by decide) (by simp [adopts])).bind fun won => ?_
      split
      · exact Discipline.free_ret _
      · exact hD.claimWithPreimage deps row preimage _
  | returned =>
    refine (hD.refundProvenSelfPayment deps row _).bind fun verdict => ?_
    split
    · exact Discipline.free_ret _
    · exact (hD.refundUnlessWithheld verdict).bind fun _ => hD.fail_stop _ _
  | committed => exact Discipline.free_ret _

/-- A row in `paying` recovers its payment, or refuses one no backend knows of. -/
theorem whenPaying (deps : SendDeps) (row : SendSwapRow) : D.Free (whenPaying deps row) := by
  unfold LightningSend.whenPaying
  split
  · exact hD.settleFromBackend deps row .paying
  · refine (hD.liveWallet deps).bind fun wallet => ?_
    split
    · exact hD.fail_stop _ _
    · split
      · exact hD.submitPayment deps row false
      · refine hD.getSendHtlcState.bind fun answer => ?_
        refine (Discipline.free_ofExcept _).bind fun committed => ?_
        cases committed with
        | some htlc => exact hD.recoverCommitted deps row htlc
        | none =>
          have hg : D.Free (insideGrace row) := by
            unfold insideGrace
            split
            · exact Discipline.free_ret _
            · exact hD.now.free.bind fun _ => Discipline.free_ret _
          refine hg.bind fun wait => ?_
          split
          · exact Discipline.free_ret _
          · refine (hD.submitPayment deps row true).tryCatch fun error => ?_
            cases error with
            | paymentHashRegistered message => exact hD.whenHashBlocked row message
            | error message => exact Discipline.free_throw _
            | paymentNotStarted message => exact Discipline.free_throw _
            | fundNotSubmitted message => exact Discipline.free_throw _

section Jobs

variable {wallet : WalletCaps}
  (hc : ∀ deps row note, row.state = .claiming →
    D.Obeys (D.learn note .get row) (whenClaiming wallet deps row) fun _ _ => True)

include hc

/-- A tick is free once its claiming step is licensed by the row it read. -/
theorem tick (deps : SendDeps) (rounds : ℕ) : D.Free (tick wallet deps rounds) := by
  induction rounds with
  | zero => exact Discipline.free_ret _
  | succ rounds ih =>
    intro note
    have hget : D.may note .get := (hD.get note).1
    refine Discipline.obeys_issue_bind.mpr ⟨hget, fun row => ?_⟩
    have hstep : D.Obeys (D.learn note .get row) (LightningSend.step wallet deps row)
        fun _ _ => True := by
      unfold LightningSend.step
      split
      · exact hD.whenQuoted deps row _
      · exact hD.whenFunded deps row _
      · exact hD.whenPaying deps row _
      · exact hD.settleFromBackend deps row _ _
      · next hs => exact hc deps row note hs
      · trivial
    refine hstep.bind fun advanced after _ => ?_
    split
    · exact ih after
    · trivial

/-- So is every job. -/
theorem job (job : SendJob) : D.Free (job.program wallet) := by
  cases job with
  | tick deps rounds => exact hD.tick hc deps rounds
  | refundSweep => exact hD.refundSweep
  | openStore => exact hD.backfillExternal.bind fun _ => hD.backfillPushed

end Jobs

end FreeSteps

end IntentSolver.LightningSendSteps
