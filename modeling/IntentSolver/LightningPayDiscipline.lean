import IntentSolver.LightningSendWorld

/-!
# What licenses a Lightning send worker to pay and to refund

A worker's own answers license what it does: it pays only a row it knows was
moved `funded -> paying`, it refunds only a row it knows refused or a payment
it was told failed for good, and it refuses an exposed row only on such an
answer or on its proof that nothing is committed: its own `funded -> paying`, or
a probe by hash that answered nothing once the grace of the row it had read was
over. Every job of the corridor keeps to this, whatever it is answered.
-/

namespace IntentSolver.LightningPayDiscipline

open SwapStore ArkadeLockup LockupCollection WorkerProgram WorkerInterleaving LightningPort
open LightningSendStore LightningSend LightningSendWorld

/-- The grace that runs from this `pay_attempted_at` is over. -/
def graceOver (attemptedAt : Option ℤ) (now : ℤ) : Bool :=
  attemptedAt.all fun since => decide (NO_RECORD_GRACE_SECONDS ≤ now - since)

/-- What a send worker has learnt. -/
structure PayNote where
  /-- Somebody moved the row `funded -> paying`. -/
  moved : Bool
  /-- `pay_attempted_at` of the row it last read. -/
  attempted : Option (Option ℤ)
  /-- Its last probe by hash answered nothing, and it has not read the clock since. -/
  probed : Bool
  /-- A probe by hash answered nothing and the grace is over, or this worker moved
  the row itself. -/
  unpaid : Bool
  /-- The backend reported a final failure. -/
  dead : Bool
  /-- The row is refused. -/
  refused : Bool

/-- The worker may refuse a row out of this state. -/
def MayRefuse (note : PayNote) (source : SendSwapState) : Prop :=
  source = .quoted ∨ source = .funded ∨ note.unpaid = true ∨ note.dead = true

/-- The worker may give the lockup back. -/
def MayRefund (note : PayNote) : Prop := note.dead = true ∨ note.refused = true

/-- What a worker may do with these notes. -/
def may (note : PayNote) : SendOp → Prop
  | .update source target _ =>
    target ∈ (LnSendMachine source).edges ∧ (target = .refused → MayRefuse note source)
  | .refund _ => MayRefund note
  | .payInvoice _ => note.moved = true
  | _ => True

/-- The clock judges a probe that answered nothing by the row last read. -/
def PayNote.judge (note : PayNote) (now : ℤ) : PayNote :=
  { note with
    probed := false
    unpaid := note.unpaid ||
      (note.probed && note.attempted.any fun attemptedAt => graceOver attemptedAt now) }

/-- A failure is final. -/
def learnPayment (note : PayNote) : Except Fault PaymentResult → PayNote
  | .ok result => { note with dead := note.dead || decide (result.status = .failed) }
  | .error _ => note

/-- What a worker learns from an answer. -/
def learn (note : PayNote) : (op : SendOp) → op.Ans → PayNote
  | .get, row =>
    { note with
      moved := note.moved || decide (row.state = .paying)
      attempted := some row.payAttemptedAt
      probed := false }
  | .now, now => note.judge now
  | .update source target _, won =>
    { note with
      moved := note.moved || (won && decide (source = .funded ∧ target = .paying))
      unpaid := note.unpaid || (won && decide (source = .funded ∧ target = .paying))
      refused := note.refused || (won && decide (target = .refused)) }
  | .findRefundable _, selected => { note with refused := note.refused || selected.isSome }
  -- Without a `pay_attempted_at` the code waits for no grace.
  | .getSendHtlcState, .ok none =>
    { note with
      probed := decide (note.attempted ≠ some none)
      unpaid := decide (note.attempted = some none) }
  | .getSendHtlcState, .ok (some htlc) =>
    { note with dead := note.dead || decide (htlc.status = .returned) }
  | .getPayment _, answer => learnPayment note answer
  | .payResult, answer => learnPayment note answer
  | _, _ => note

/-- The notes and licences of a send worker. -/
def payDiscipline : Discipline SendOp.Ans where
  Note := PayNote
  fresh := ⟨false, none, false, false, false, false⟩
  may := may
  learn := learn

/-! ## The code obeys -/

/-- While no probe waits to be judged the program is licensed and teaches nothing. -/
def Calm {α : Type} (program : Prog α) : Prop :=
  ∀ note : PayNote, note.probed = false →
    payDiscipline.Steady (fun after => after = note) program

variable {note : PayNote}

/-- A calm program may stand in front of anything. -/
theorem Calm.obeys_bind {α β : Type} {program : Prog α} {rest : α → Prog β}
    {post : β → PayNote → Prop} (h : Calm program) (hn : note.probed = false)
    (hr : ∀ value, payDiscipline.Obeys note (rest value) post) :
    payDiscipline.Obeys note (program.bind rest) post := by
  refine (h note hn).obeys_bind rfl ?_
  rintro value after rfl
  exact hr value

/-- Calm programs compose. -/
theorem Calm.bind {α β : Type} {program : Prog α} {rest : α → Prog β} (h : Calm program)
    (hr : ∀ value, Calm (rest value)) : Calm (program.bind rest) :=
  fun note hn => (h note hn).bind fun value => hr value note hn

/-- A quiet program is calm. -/
theorem calm_of_quiet {α : Type} {program : Prog α} (h : payDiscipline.Quiet program) :
    Calm program :=
  fun _ _ => h.steady

/-- Reading the clock teaches nothing while no probe waits. -/
theorem calm_now : Calm (issue .now) := by
  intro note hn after ha
  refine ⟨trivial, fun now => ?_⟩
  show after.judge now = note
  rw [ha]
  obtain ⟨moved, attempted, probed, unpaid, dead, refused⟩ := note
  cases hn
  simp [PayNote.judge]

/-- Reading the clock is always licensed. -/
theorem free_now : payDiscipline.Free (issue .now) := Discipline.free_issue fun _ => trivial

/-- Choosing what a claim may spend teaches nothing. -/
theorem quiet_bounded (outputs : List FundedOutput) :
    payDiscipline.Quiet (issue (.boundedInputs outputs)) :=
  Discipline.quiet_issue (fun _ => trivial) fun _ _ => rfl

/-- No answer of the indexer, the chain or the other store is kept in the notes. -/
theorem quiet_read (question : SendQuestion) :
    payDiscipline.Quiet (issue (.read question)) :=
  Discipline.quiet_issue (fun _ => trivial) fun _ _ => rfl

/-- The same where a fault of the answer is thrown. -/
theorem quiet_ask (question : SendQuestion) : payDiscipline.Quiet (ask question) :=
  (quiet_read question).bind fun answer => Discipline.quiet_ofExcept answer

/-- A patch moves nothing the notes speak of. -/
theorem quiet_issue_patch (columns : List SendColumn) :
    payDiscipline.Quiet (issue (.patch columns)) :=
  Discipline.quiet_issue (fun _ => trivial) fun _ _ => rfl

/-- The same where its fault is thrown. -/
theorem quiet_patch (columns : List SendColumn) : payDiscipline.Quiet (patch columns) :=
  (Discipline.quiet_ofExcept _).bind fun _ =>
    (quiet_issue_patch columns).bind fun written => Discipline.quiet_ofExcept written

/-- And where its fault is swallowed. -/
theorem quiet_tryPatch (columns : List SendColumn) : payDiscipline.Quiet (tryPatch columns) :=
  (quiet_issue_patch columns).bind fun _ => Discipline.quiet_ret ()

/-- The height of the chain is read and not kept. -/
theorem quiet_height (deps : SendDeps) :
    ∀ height ∈ (chainPort deps).height, payDiscipline.Quiet height := by
  intro height hh
  unfold chainPort at hh
  dsimp only at hh
  split at hh
  · cases hh
    exact quiet_ask _
  · cases hh

/-- The refund deadline in seconds is read calmly. -/
theorem calm_deadlineSeconds (deps : SendDeps) (refundLocktime : ℤ) (purpose : String) :
    Calm (ChainClock.refundDeadlineSeconds (chainPort deps) refundLocktime purpose) :=
  fun note hn => ChainClock.steady_refundDeadlineSeconds (calm_now note hn)
    (fun height hh => (quiet_height deps height hh).steady) _ _

/-- The wallet's fingerprint is read and not kept. -/
theorem quiet_liveWallet (deps : SendDeps) : payDiscipline.Quiet (liveWallet deps) := by
  unfold liveWallet
  split
  · refine (quiet_read _).bind fun answer => ?_
    cases answer with
    | ok wallet => exact Discipline.quiet_ret _
    | error fault => exact Discipline.quiet_ret _
  · exact Discipline.quiet_ret _

/-- So is the pay deadline. -/
theorem calm_payDeadline (deps : SendDeps) (row : SendSwapRow) (refundDeadline : ℤ) :
    Calm (payDeadline deps row refundDeadline) := by
  refine (calm_of_quiet (quiet_ask .findLockups)).bind fun outputs => ?_
  dsimp only
  split
  · exact calm_now
  · split
    · exact calm_of_quiet (Discipline.quiet_ret _)
    · exact calm_of_quiet (Discipline.quiet_ret _)

/-- And the question whether an uncapped route outlives it. -/
theorem calm_uncappedTooLong (deps : SendDeps) (invoice : DecodedInvoice) (deadline : ℤ) :
    Calm (uncappedTooLong deps invoice deadline) := by
  unfold uncappedTooLong
  split
  · exact calm_of_quiet (Discipline.quiet_ret _)
  · exact calm_now.bind fun _ => calm_of_quiet (Discipline.quiet_ret _)

/-- Writing down what a poll answered changes nothing the notes speak of. -/
theorem quiet_recordPolled (row : SendSwapRow) (polled : PaymentResult) :
    payDiscipline.Quiet (recordPolled row polled) := by
  have hc : ∀ {α : Type} [DecidableEq α] (column : α → SendColumn) (new known : Option α),
      payDiscipline.Quiet (patchChanged column new known) := by
    intro α _ column new known
    unfold patchChanged
    cases new with
    | none => exact Discipline.quiet_ret _
    | some value =>
      dsimp only
      split
      · exact Discipline.quiet_ret _
      · exact quiet_patch _
  exact (hc _ _ _).bind fun _ => (hc _ _ _).bind fun _ => hc _ _ _

/-- A transition is licensed by its edge, and teaches whether it was won. -/
theorem obeys_transition {source target : SendSwapState} (columns : List SendColumn)
    (h : target = .refused → MayRefuse note source) :
    payDiscipline.Obeys note (transition source target columns)
      fun won after => after = learn note (.update source target columns) won :=
  SwapStore.obeys_transition sendShape _ fun he => ⟨⟨he, h⟩, fun _ => rfl⟩

/-- Failing is licensed where it does not refuse, or may. -/
theorem obeys_fail {source : SendSwapState} (reason : String)
    (h : failTarget sendShape source = .refused → MayRefuse note source) :
    payDiscipline.Obeys note (fail source reason) fun _ _ => True :=
  (obeys_transition _ h).bind fun _ _ _ => trivial

/-- Failing and stopping. -/
theorem obeys_fail_stop {source : SendSwapState} (reason : String)
    (h : failTarget sendShape source = .refused → MayRefuse note source) :
    payDiscipline.Obeys note ((fail source reason).bind fun _ => .ret false) fun _ _ => True :=
  (obeys_fail reason h).bind fun _ _ _ => trivial

/-- States `fail` never refuses unpaid rows from. -/
theorem mayRefuse_of_fail {source : SendSwapState}
    (hs : source ∈ [.quoted, .funded, .paying, .paid, .claiming]) :
    failTarget sendShape source = .refused → MayRefuse note source := by
  intro hf
  simp only [List.mem_cons, List.not_mem_nil, or_false] at hs
  rcases hs with rfl | rfl | rfl | rfl | rfl
  · exact .inl rfl
  · exact .inr (.inl rfl)
  · cases hf
  · cases hf
  · cases hf

/-! ### Refunds -/

/-- A worker that may refund pushes the refund and learns nothing new. -/
theorem obeys_pushRefund (h : MayRefund note) :
    payDiscipline.Obeys note pushRefund fun _ after => after = note := by
  refine (quiet_ask .findLockups).obeys_bind fun outputs => ?_
  split
  · refine (quiet_ask .lockupProvablySpent).obeys_bind fun proven => ?_
    split
    · exact (quiet_patch _).obeys_bind fun _ => rfl
    · rfl
  · refine ⟨h, fun answer => ?_⟩
    refine (Discipline.quiet_ofExcept _).obeys_bind fun txid => ?_
    refine (quiet_bounded outputs).obeys_bind fun inputs => ?_
    exact (quiet_patch _).obeys_bind fun _ => rfl

/-- A push whose failure is swallowed; the notes at the throw are unknown. -/
theorem obeys_pushRefund_caught (h : MayRefund note) :
    payDiscipline.Obeys note (pushRefund.tryCatch fun _ => .ret false) fun _ _ => True :=
  ((obeys_pushRefund h).mono fun _ _ _ => trivial).tryCatch fun _ _ => trivial

/-- A refund that failed is written down and no more. -/
theorem quiet_recordRefundFailure (error : Fault) :
    payDiscipline.Quiet (recordRefundFailure error) :=
  (quiet_tryPatch _).bind fun _ => Discipline.quiet_ret _

/-- The refund after a failure is that push, its own failure caught. -/
theorem obeys_refundAfterTerminalFailure (h : MayRefund note) :
    payDiscipline.Obeys note refundAfterTerminalFailure fun _ after => after = note := by
  refine (quiet_read .findLockups).obeys_bind fun lockups => ?_
  cases lockups with
  | error error => exact quiet_recordRefundFailure error note
  | ok outputs =>
    dsimp only
    split
    · exact (quiet_tryPatch _).obeys_bind fun _ => rfl
    · refine ⟨h, fun pushed => ?_⟩
      cases pushed with
      | error error => exact quiet_recordRefundFailure error note
      | ok txid =>
        refine (quiet_bounded outputs).obeys_bind fun inputs => ?_
        exact (quiet_tryPatch _).obeys_bind fun _ => rfl

/-- The sweep refunds only a row the store has selected, which is refused. -/
theorem obeys_refundSweep : payDiscipline.Obeys note refundSweep fun _ _ => True := by
  refine Discipline.obeys_issue_bind.mpr ⟨trivial, fun now => ?_⟩
  refine Discipline.obeys_issue_bind.mpr ⟨trivial, fun selected => ?_⟩
  cases selected with
  | none => trivial
  | some row =>
    dsimp only
    split
    · trivial
    · have hr : MayRefund (learn (note.judge now) (.findRefundable now) (some row)) :=
        .inr (Bool.or_true _)
      exact (obeys_pushRefund_caught hr).bind fun _ _ _ => trivial

/-- With a final failure known, closing the row as refused is licensed. -/
theorem obeys_settleTerminalFailure (source : SendSwapState) (refunded : Bool)
    (verdict : SelfPaymentVerdict) (hd : note.dead = true) :
    payDiscipline.Obeys note (settleTerminalFailure source refunded verdict) fun _ _ => True := by
  unfold settleTerminalFailure
  split
  · refine obeys_fail _ fun _ => ?_
    exact .inr (.inr (.inr hd))
  · exact (obeys_transition _ fun _ => .inr (.inr (.inr hd))).bind fun _ _ _ => trivial

/-- The probe either resolves the row or leaves the final failure known. -/
theorem obeys_refundProvenSelfPayment (deps : SendDeps) (row : SendSwapRow)
    (source : SendSwapState) (hd : note.dead = true) :
    payDiscipline.Obeys note (refundProvenSelfPayment deps row source)
      fun verdict after => verdict = .resolved ∨ after.dead = true := by
  unfold refundProvenSelfPayment
  split
  · exact .inr hd
  · refine (quiet_read _).obeys_bind fun own => ?_
    rcases own with _ | _ | status
    · exact .inr hd
    · exact .inr hd
    · dsimp only
      split
      · exact .inr hd
      · refine (obeys_transition _ fun _ => .inr (.inr (.inr hd))).bind fun won after ha => ?_
        subst ha
        cases won with
        | false => exact .inr hd
        | true =>
          have hr : MayRefund (learn note (.update source .refused
              [.failureReason
                "self-payment failed terminally; our own node says it was never paid"])
              true) := .inr (Bool.or_true _)
          simp only [Bool.not_true, Bool.false_eq_true, if_false]
          split
          · exact .inl rfl
          · exact (obeys_pushRefund_caught hr).bind fun _ _ _ => .inl rfl

/-- So is its refund. -/
theorem obeys_refundUnlessWithheld (verdict : SelfPaymentVerdict) (hd : note.dead = true) :
    payDiscipline.Obeys note (refundUnlessWithheld verdict) fun _ after => after = note := by
  unfold refundUnlessWithheld
  split
  · rfl
  · exact obeys_refundAfterTerminalFailure (.inl hd)

/-- And the whole handling of a final failure. -/
theorem obeys_terminalFailure (deps : SendDeps) (row : SendSwapRow) (source : SendSwapState)
    (hd : note.dead = true) :
    payDiscipline.Obeys note (terminalFailure deps row source) fun _ _ => True := by
  refine (obeys_refundProvenSelfPayment deps row source hd).bind fun verdict after hv => ?_
  split
  · trivial
  · next hne =>
    have ha : after.dead = true := hv.resolve_left hne
    refine (obeys_refundUnlessWithheld verdict ha).bind fun refunded later hl => ?_
    subst hl
    exact (obeys_settleTerminalFailure source refunded verdict ha).bind fun _ _ _ => trivial

/-! ### Paying -/

/-- A claim refuses nothing: its row is paid, or funded and paid on Arkade. -/
theorem obeys_claimWithPreimage (deps : SendDeps) (row : SendSwapRow) (preimage : String)
    {source : SendSwapState} (hs : source = .paid ∨ source = .funded) :
    payDiscipline.Obeys note (claimWithPreimage deps row preimage source) fun _ _ => True := by
  unfold claimWithPreimage
  split
  · refine obeys_fail_stop _ (mayRefuse_of_fail ?_)
    rcases hs with rfl | rfl <;> decide
  · exact (obeys_transition _ fun hc => by cases hc).mono fun _ _ _ => trivial

/-- The proof a caller of `submitPayment` hands over. -/
def Proof (note : PayNote) (row : SendSwapRow) (nothingCommitted : Bool) : Prop :=
  if nothingCommitted then note.unpaid = true else row.state = .paying

/-- What refusing needs is what the caller's proof gives. -/
theorem Proof.mayRefuse {row : SendSwapRow} {nothingCommitted : Bool}
    (h : Proof note row nothingCommitted) :
    failTarget sendShape row.state = .refused → MayRefuse note row.state := by
  cases nothingCommitted with
  | true => exact fun _ => .inr (.inr (.inl h))
  | false =>
    have hp : row.state = .paying := h
    rw [hp]
    exact mayRefuse_of_fail (by decide)

/-- A caller that says nothing is committed has the proof of it. -/
theorem obeys_refuseToPay {row : SendSwapRow} {nothingCommitted : Bool} (reason : String)
    (h : Proof note row nothingCommitted) :
    payDiscipline.Obeys note (refuseToPay row nothingCommitted reason) fun _ _ => True := by
  unfold refuseToPay
  cases nothingCommitted with
  | true => exact (obeys_transition _ fun _ => .inr (.inr (.inl h))).bind fun _ _ _ => trivial
  | false => exact obeys_fail_stop reason h.mayRefuse

/-- A call that was turned away unsubmitted refuses on the same proof. -/
theorem obeys_refuseUnsubmittedPayment (detail : String) (h : note.unpaid = true) :
    payDiscipline.Obeys note (refuseUnsubmittedPayment detail) fun _ _ => True := by
  refine (obeys_transition _ fun _ => .inr (.inr (.inl h))).bind fun won after ha => ?_
  subst ha
  cases won with
  | false => trivial
  | true =>
    refine (obeys_refundAfterTerminalFailure ?_).bind fun _ _ _ => trivial
    exact .inr (Bool.or_true _)

/-- What a pay call answers settles the row only where it says the payment failed. -/
theorem obeys_afterPayment (deps : SendDeps) (row : SendSwapRow) (result : PaymentResult)
    (hn : note.probed = false) (hd : result.status = .failed → note.dead = true) :
    payDiscipline.Obeys note (afterPayment deps row result) fun _ _ => True := by
  refine (quiet_liveWallet deps).obeys_bind fun wallet => ?_
  refine calm_now.obeys_bind hn fun now => ?_
  refine (quiet_patch _).obeys_bind fun _ => ?_
  split
  · next hf => exact obeys_terminalFailure deps row .paying (hd hf)
  · refine (obeys_transition _ fun hc => by cases hc).bind fun won after _ => ?_
    cases won with
    | false => trivial
    | true =>
      simp only [Bool.not_true, Bool.false_eq_true, if_false]
      cases truthy result.preimage with
      | none => trivial
      | some preimage =>
        exact (obeys_claimWithPreimage deps row preimage (.inl rfl)).bind fun _ _ _ => trivial

/-- The pay call is made by a worker that knows the row was moved, and handled with its proof. -/
theorem obeys_callPayInvoice (deps : SendDeps) {row : SendSwapRow} {nothingCommitted : Bool}
    (params : PayInvoiceParams) (hn : note.probed = false) (hm : note.moved = true)
    (h : Proof note row nothingCommitted) :
    payDiscipline.Obeys note (callPayInvoice deps row nothingCommitted params) fun _ _ => True := by
  refine Discipline.obeys_issue_bind.mpr ⟨hm, fun _ => ?_⟩
  refine Discipline.obeys_issue_bind.mpr ⟨trivial, fun answer => ?_⟩
  rcases answer with error | result
  · cases error with
    | paymentNotStarted message =>
      cases nothingCommitted with
      | true => exact (obeys_refuseUnsubmittedPayment message h).bind fun _ _ _ => trivial
      | false => trivial
    | error message => trivial
    | paymentHashRegistered message => trivial
    | fundNotSubmitted message => trivial
  · refine obeys_afterPayment deps row result hn fun hf => ?_
    show (note.dead || decide (result.status = .failed)) = true
    rw [decide_eq_true hf, Bool.or_true]

/-- Everything before the call refuses on that proof alone. -/
theorem obeys_submitPayment (deps : SendDeps) {row : SendSwapRow} {nothingCommitted : Bool}
    (hn : note.probed = false) (hm : note.moved = true) (h : Proof note row nothingCommitted) :
    payDiscipline.Obeys note (submitPayment deps row nothingCommitted) fun _ _ => True := by
  unfold submitPayment
  cases truthy row.idempotencyKey with
  | none => exact obeys_fail_stop _ h.mayRefuse
  | some idempotencyKey =>
    dsimp only
    split
    · exact obeys_refuseToPay _ h
    · refine (calm_deadlineSeconds deps _ _).obeys_bind hn fun refundDeadline => ?_
      split
      · exact obeys_refuseToPay _ h
      · refine (Discipline.quiet_ofExcept _).obeys_bind fun invoice => ?_
        refine (calm_payDeadline deps row refundDeadline).obeys_bind hn fun deadline => ?_
        refine (calm_uncappedTooLong deps invoice deadline).obeys_bind hn fun tooLong => ?_
        split
        · exact obeys_refuseToPay _ h
        · refine calm_now.obeys_bind hn fun now => ?_
          dsimp only
          split
          · exact obeys_refuseToPay _ h
          · exact obeys_callPayInvoice deps _ hn hm h

/-! ### The steps of a tick -/

/-- A quoted row was never exposed. -/
theorem obeys_refuseQuoted (lockupValue : ℤ) (reason : String) :
    payDiscipline.Obeys note (refuseQuoted lockupValue reason) fun _ _ => True :=
  (quiet_patch _).obeys_bind fun _ => obeys_fail_stop _ (mayRefuse_of_fail (by decide))

/-- Adopting a lockup pays and refunds nothing. -/
theorem obeys_whenQuoted (deps : SendDeps) (row : SendSwapRow) (hn : note.probed = false) :
    payDiscipline.Obeys note (whenQuoted deps row) fun _ _ => True := by
  refine (quiet_ask .findLockups).obeys_bind fun lockups => ?_
  refine calm_now.obeys_bind hn fun now => ?_
  refine calm_now.obeys_bind hn fun later => ?_
  unfold adoptQuoted
  dsimp only
  split
  · exact obeys_refuseQuoted _ _
  · split
    · exact obeys_refuseQuoted _ _
    · split
      · exact obeys_refuseQuoted _ _
      · split
        · exact (obeys_transition _ fun hc => by cases hc).mono fun _ _ _ => trivial
        · split
          · have hr : payDiscipline.Quiet (recordHeld (totalValue lockups)) := by
              unfold recordHeld
              split
              · exact quiet_patch _
              · exact Discipline.quiet_ret _
            exact hr.obeys_bind fun _ => obeys_fail_stop _ (mayRefuse_of_fail (by decide))
          · trivial

/-- Collecting a coupled receive pays nothing. -/
theorem obeys_whenFundedCoupled (deps : SendDeps) (row : SendSwapRow)
    (coupled : LightningReceiveStore.ReceiveSwapRow) :
    payDiscipline.Obeys note (whenFundedCoupled deps row coupled) fun _ _ => True := by
  unfold whenFundedCoupled
  split
  · exact obeys_fail_stop _ (mayRefuse_of_fail (by decide))
  · refine (quiet_ask _).obeys_bind fun outpoints => ?_
    split
    · trivial
    · refine (quiet_ask _).obeys_bind fun preimage => ?_
      cases preimage with
      | none => trivial
      | some preimage => exact obeys_claimWithPreimage deps row preimage (.inr rfl)

/-- What our own node says of an invoice is read and not kept. -/
theorem quiet_ownInvoiceState (deps : SendDeps) (receive : LightningReceiveStore.ReceiveSwapRow) :
    payDiscipline.Quiet (ownInvoiceState deps receive) := by
  unfold ownInvoiceState
  split
  · exact quiet_ask .getOwnInvoiceState
  · split
    · exact Discipline.quiet_ret _
    · have hw : payDiscipline.Quiet (currentWallet deps) := by
        unfold currentWallet
        split
        · exact quiet_ask .walletFingerprint
        · exact Discipline.quiet_ret _
      refine hw.bind fun current => ?_
      split
      · split
        · exact Discipline.quiet_ret _
        · exact quiet_ask .getKnownInvoiceState
      · exact Discipline.quiet_ret _

/-- A coupled row is refused before it is exposed, and then refunded. -/
theorem obeys_refundCoupledRefusal (deps : SendDeps)
    (receive : LightningReceiveStore.ReceiveSwapRow) :
    payDiscipline.Obeys note (refundCoupledRefusal deps receive) fun _ _ => True := by
  unfold refundCoupledRefusal
  split
  · trivial
  · refine (quiet_ownInvoiceState deps receive).obeys_bind fun own => ?_
    split
    · trivial
    · refine (obeys_transition _ fun _ => .inr (.inl rfl)).bind fun won after ha => ?_
      subst ha
      cases won with
      | false => trivial
      | true =>
        have hr : MayRefund (learn note (.update .funded .refused
            [.failureReason "coupled receive refused before funding; client refund pending"])
            true) :=
          .inr (Bool.or_true _)
        exact (obeys_refundAfterTerminalFailure hr).bind fun _ _ _ => trivial

/-- The worker that wins the commitment has its own proof that nothing was paid. -/
theorem obeys_commitToPay (deps : SendDeps) (row : SendSwapRow) (hn : note.probed = false) :
    payDiscipline.Obeys note (commitToPay deps row) fun _ _ => True := by
  refine (quiet_liveWallet deps).obeys_bind fun wallet => ?_
  refine calm_now.obeys_bind hn fun now => ?_
  refine (obeys_transition _ fun hc => by cases hc).bind fun won after ha => ?_
  subst ha
  cases won with
  | false => trivial
  | true =>
    simp only [Bool.not_true, Bool.false_eq_true, if_false]
    refine Discipline.obeys_issue_bind.mpr ⟨trivial, fun reread => ?_⟩
    refine obeys_submitPayment deps rfl ?_ ?_
    · simp [payDiscipline, learn]
    · simp [Proof, payDiscipline, learn]

/-- Past the gates it is the commitment. -/
theorem obeys_payFunded (deps : SendDeps) (row : SendSwapRow) (refundDeadline : ℤ)
    (hn : note.probed = false) :
    payDiscipline.Obeys note (payFunded deps row refundDeadline) fun _ _ => True := by
  refine (Discipline.quiet_ofExcept _).obeys_bind fun invoice => ?_
  refine (calm_payDeadline deps row refundDeadline).obeys_bind hn fun refundLocktime => ?_
  refine calm_now.obeys_bind hn fun now => ?_
  split
  · exact obeys_fail_stop _ (mayRefuse_of_fail (by decide))
  · have ha : payDiscipline.Quiet (askApproval deps) := by
      unfold askApproval
      split
      · exact quiet_ask .approval
      · exact Discipline.quiet_ret _
    refine ha.obeys_bind fun approved => ?_
    split
    · trivial
    · exact obeys_commitToPay deps row hn

/-- The gates refuse a row that was never exposed. -/
theorem obeys_whenFunded (deps : SendDeps) (row : SendSwapRow) (hn : note.probed = false) :
    payDiscipline.Obeys note (whenFunded deps row) fun _ _ => True := by
  have hlive : payDiscipline.Quiet (liveReceive deps) := by
    unfold liveReceive
    split
    · exact quiet_ask .liveReceive
    · exact Discipline.quiet_ret _
  have hreceive : payDiscipline.Quiet (receiveByHash deps) := by
    unfold receiveByHash
    split
    · exact quiet_ask .receive
    · exact Discipline.quiet_ret _
  unfold whenFunded
  split
  · exact obeys_fail_stop _ (mayRefuse_of_fail (by decide))
  · refine (calm_deadlineSeconds deps _ _).obeys_bind hn fun refundDeadline => ?_
    split
    · exact obeys_fail_stop _ (mayRefuse_of_fail (by decide))
    · refine hlive.obeys_bind fun coupled => ?_
      cases coupled with
      | some coupled => exact obeys_whenFundedCoupled deps row coupled
      | none =>
        refine hreceive.obeys_bind fun failed => ?_
        cases failed with
        | none => exact obeys_payFunded deps row refundDeadline hn
        | some receive =>
          dsimp only
          split
          · exact obeys_refundCoupledRefusal deps receive
          · exact obeys_payFunded deps row refundDeadline hn

/-- A poll that answers failed is the final failure itself. -/
theorem obeys_settlePolled (deps : SendDeps) (row : SendSwapRow) (source : SendSwapState)
    (polled : PaymentResult) (hn : note.probed = false)
    (hd : polled.status = .failed → note.dead = true) :
    payDiscipline.Obeys note (settlePolled deps row source polled) fun _ _ => True := by
  unfold settlePolled
  split
  · next hf =>
    have ht : Calm (tooSoon row polled.evidence) := by
      unfold tooSoon
      split
      · exact calm_now.bind fun _ => calm_of_quiet (Discipline.quiet_ret _)
      · exact calm_of_quiet (Discipline.quiet_ret _)
    refine ht.obeys_bind hn fun wait => ?_
    split
    · trivial
    · exact obeys_terminalFailure deps row source (hd hf)
  · have hp : payDiscipline.Obeys note (markPaid source) fun _ _ => True := by
      unfold markPaid
      split
      · exact (obeys_transition _ fun hc => by cases hc).mono fun _ _ _ => trivial
      · trivial
    refine hp.bind fun won after _ => ?_
    split
    · trivial
    · cases truthy polled.preimage with
      | none => trivial
      | some preimage => exact obeys_claimWithPreimage deps row preimage (.inl rfl)

/-- The payment the row names is polled and settled. -/
theorem obeys_settleFromBackend (deps : SendDeps) (row : SendSwapRow) (source : SendSwapState)
    (hn : note.probed = false) :
    payDiscipline.Obeys note (settleFromBackend deps row source) fun _ _ => True := by
  unfold settleFromBackend
  cases truthy row.paymentId with
  | none =>
    cases truthy row.preimage with
    | none => trivial
    | some preimage => exact obeys_claimWithPreimage deps row preimage (.inl rfl)
  | some paymentId =>
    refine Discipline.obeys_issue_bind.mpr ⟨trivial, fun answer => ?_⟩
    cases answer with
    | error fault => trivial
    | ok polled =>
      refine (quiet_recordPolled row polled).obeys_bind fun _ => ?_
      refine obeys_settlePolled deps row source polled hn fun hf => ?_
      show (note.dead || decide (polled.status = .failed)) = true
      rw [decide_eq_true hf, Bool.or_true]

/-- A blocked hash is never refused, only parked. -/
theorem obeys_whenHashBlocked (row : SendSwapRow) (message : String) :
    payDiscipline.Obeys note (whenHashBlocked row message) fun _ _ => True := by
  unfold whenHashBlocked
  cases row.payAttemptedAt with
  | none => trivial
  | some since =>
    refine Discipline.obeys_issue_bind.mpr ⟨trivial, fun now => ?_⟩
    split
    · trivial
    · exact obeys_fail_stop _ (mayRefuse_of_fail (by decide))

/-- A commitment that was returned is a final failure too. -/
theorem obeys_recoverCommitted (deps : SendDeps) (row : SendSwapRow) (htlc : SendHtlcState)
    (hd : htlc.status = .returned → note.dead = true) :
    payDiscipline.Obeys note (recoverCommitted deps row htlc) fun _ _ => True := by
  unfold recoverCommitted
  cases hs : htlc.status with
  | committed => trivial
  | settled =>
    cases truthy htlc.preimage with
    | none => exact obeys_fail_stop _ (mayRefuse_of_fail (by decide))
    | some preimage =>
      refine (obeys_transition _ fun hc => by cases hc).bind fun won after _ => ?_
      split
      · trivial
      · exact obeys_claimWithPreimage deps row preimage (.inl rfl)
  | returned =>
    refine (obeys_refundProvenSelfPayment deps row .paying (hd hs)).bind fun verdict after hv => ?_
    split
    · trivial
    · next hne =>
      have ha : after.dead = true := hv.resolve_left hne
      refine (obeys_refundUnlessWithheld verdict ha).bind fun refunded later hl => ?_
      exact obeys_fail_stop _ (mayRefuse_of_fail (by decide))

/-- A probe that answered nothing, judged by the grace of the row read before it: the worker
waits, or holds its proof. -/
theorem obeys_insideGrace {row : SendSwapRow} (ha : note.attempted = some row.payAttemptedAt) :
    payDiscipline.Obeys (learn note .getSendHtlcState (.ok none)) (insideGrace row)
      fun wait after => wait = true ∨
        after.probed = false ∧ after.unpaid = true ∧ after.moved = note.moved := by
  unfold insideGrace
  cases hrow : row.payAttemptedAt with
  | none =>
    rw [hrow] at ha
    exact .inr ⟨by simp [learn, ha], by simp [learn, ha], rfl⟩
  | some since =>
    rw [hrow] at ha
    refine Discipline.obeys_issue_bind.mpr ⟨trivial, fun now => ?_⟩
    by_cases hw : now - since < NO_RECORD_GRACE_SECONDS
    · exact .inl (decide_eq_true hw)
    · refine .inr ⟨rfl, ?_, rfl⟩
      have hover : graceOver (some since) now = true := decide_eq_true (not_lt.mp hw)
      simp [payDiscipline, learn, PayNote.judge, ha, hover]

/-- A row found in `paying` is paid again only after a probe that answered nothing and the grace of
the very row that was read. -/
theorem obeys_whenPaying (deps : SendDeps) {row : SendSwapRow} (hs : row.state = .paying)
    (ha : note.attempted = some row.payAttemptedAt) (hn : note.probed = false)
    (hm : note.moved = true) :
    payDiscipline.Obeys note (whenPaying deps row) fun _ _ => True := by
  unfold whenPaying
  split
  · exact obeys_settleFromBackend deps row .paying hn
  · refine (quiet_liveWallet deps).obeys_bind fun wallet => ?_
    split
    · exact obeys_fail_stop _ (mayRefuse_of_fail (by decide))
    · split
      · exact obeys_submitPayment deps hn hm hs
      · refine Discipline.obeys_issue_bind.mpr ⟨trivial, fun answer => ?_⟩
        rcases answer with fault | _ | htlc
        · trivial
        · -- With the grace over this is the proof the gates act on.
          refine (obeys_insideGrace ha).bind fun wait after hwait => ?_
          split
          · trivial
          · next hgo =>
            obtain ⟨hcalm, hunpaid, hmoved⟩ := hwait.resolve_left hgo
            have hproof : Proof after row true := hunpaid
            refine (obeys_submitPayment deps hcalm (hmoved.trans hm) hproof).tryCatch
              fun error later => ?_
            cases error with
            | paymentHashRegistered message => exact obeys_whenHashBlocked row message
            | error message => trivial
            | paymentNotStarted message => trivial
            | fundNotSubmitted message => trivial
        · refine obeys_recoverCommitted deps row htlc fun hr => ?_
          show (note.dead || decide (htlc.status = .returned)) = true
          rw [decide_eq_true hr, Bool.or_true]

/-- What a claim does is licensed by any notes. -/
theorem freeClaiming : FreeClaiming payDiscipline where
  now := free_now
  read question := (quiet_read question).free
  boundedInputs outputs := (quiet_bounded outputs).free
  claim _ := Discipline.free_issue fun _ => trivial
  finalizePendingClaim := Discipline.free_issue fun _ => trivial
  findClaimPreimage _ := Discipline.free_issue fun _ => trivial
  claimUnrolled _ _ := Discipline.free_issue fun _ => trivial
  patchClaimTxid _ := (quiet_issue_patch _).free
  patchUnrolled _ := (quiet_issue_patch _).free
  update target he columns _ := Discipline.free_issue fun _ => ⟨he, fun hr => by
    subst hr
    simp [LnSendMachine] at he⟩

/-- Each step keeps to the discipline, right after its worker read the row. -/
theorem obeys_step (wallet : WalletCaps) (deps : SendDeps) {row : SendSwapRow}
    (ha : note.attempted = some row.payAttemptedAt) (hn : note.probed = false)
    (hm : row.state = .paying → note.moved = true) :
    payDiscipline.Obeys note (LightningSend.step wallet deps row) fun _ _ => True := by
  unfold LightningSend.step
  split
  · exact obeys_whenQuoted deps row hn
  · exact obeys_whenFunded deps row hn
  · next hs => exact obeys_whenPaying deps hs ha hn (hm hs)
  · exact obeys_settleFromBackend deps row .paid hn
  · exact freeClaiming.whenClaiming wallet deps row note
  · trivial

/-- So does a whole tick. -/
theorem obeys_tick (wallet : WalletCaps) (deps : SendDeps) (rounds : ℕ) :
    payDiscipline.Obeys note (tick wallet deps rounds) fun _ _ => True := by
  induction rounds generalizing note with
  | zero => trivial
  | succ rounds ih =>
    refine Discipline.obeys_issue_bind.mpr ⟨trivial, fun row => ?_⟩
    have hm : row.state = .paying → (payDiscipline.learn note .get row).moved = true := by
      intro hs
      show (note.moved || decide (row.state = .paying)) = true
      rw [decide_eq_true hs, Bool.or_true]
    refine (obeys_step wallet deps rfl rfl hm).bind fun advanced after _ => ?_
    split
    · exact ih
    · trivial

/-- Every job obeys. -/
theorem obeys_job (wallet : WalletCaps) (job : SendJob) :
    payDiscipline.Obeys payDiscipline.fresh (job.program wallet) fun _ _ => True := by
  cases job with
  | tick deps rounds => exact obeys_tick wallet deps rounds
  | refundSweep => exact obeys_refundSweep
  | openStore => exact ⟨trivial, fun _ => ⟨trivial, fun _ => trivial⟩⟩

end IntentSolver.LightningPayDiscipline
