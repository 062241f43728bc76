import IntentSolver.LightningReceiveFunding

/-!
# The fund lease: one submission, and when a refusal may stand

What a worker learns from its own answers (the row it read, whether it holds
the lease, what the indexer showed it) licenses every write it makes. The lease
has no expiry and is given back only by a holder whose call provably submitted
nothing, so one submission is all there ever is. A refusal compares only the
state: it is safe exactly while nobody else has taken the lease.
-/

namespace IntentSolver.LightningReceiveLease

open SwapStore ArkadeLockup WorkerProgram WorkerInterleaving LightningReceiveStore
open LightningReceive LightningReceiveFunding

/-- What a receive worker has learnt since it last read the row. -/
structure LeaseNote where
  /-- The row as this worker read it. -/
  row : Option ReceiveSwapRow
  /-- This worker holds the fund lease and has submitted nothing under it. -/
  lease : Bool
  /-- Txid of this worker's own funding. -/
  funded : Option String
  /-- Outputs the indexer has shown this worker. -/
  shown : List LockupOutpoint

/-- The output is the row's payout, or sits in this worker's own funding. -/
def Payout (note : LeaseNote) (output : LockupOutpoint) : Prop :=
  output ∈ note.shown ∧
    ((∃ row, note.row = some row ∧ output.value = row.payoutSats) ∨ note.funded = some output.txid)

/-- Columns that touch neither the lease nor the recorded lockup. -/
def plain : ReceiveColumn → Bool
  | .htlcExpiresAt _ | .failureReason _ | .stampedAt _ => true
  | _ => false

/-- Columns a worker may write with a state change. -/
def Writes (note : LeaseNote) (target : ReceiveSwapState) (columns : List ReceiveColumn) : Prop :=
  (∀ column ∈ columns, plain column = true) ∨
  (∃ output, target = .funded ∧ columns = lockupColumns output ∧ Payout note output) ∨
  (∃ reason, target = .refused ∧ columns = [.fundStartedAt none, .failureReason reason] ∧
    note.lease = true)

/-- What a worker may do with these notes. -/
def may (note : LeaseNote) : ReceiveOp → Prop
  | .update source target columns =>
    target ∈ (LnReceiveMachine source).edges ∧ Writes note target columns
  | .patch columns => ∀ column ∈ columns, plain column = true
  | .claimFundLease source => source = .armed
  | .releaseFundLease => note.lease = true
  | .fund _ payoutSats _ => note.lease = true ∧
      ∃ row, note.row = some row ∧ payoutSats = row.payoutSats
  | _ => True

/-- What a worker learns from an answer. -/
def learn (note : LeaseNote) : (op : ReceiveOp) → op.Ans → LeaseNote
  | .get, row => ⟨some row, false, none, []⟩
  | .update _ _ _, _ => { note with lease := false }
  | .claimFundLease _, won => { note with lease := won }
  | .releaseFundLease, _ => { note with lease := false }
  | .findLockupOutpoints, .ok outpoints => { note with shown := outpoints }
  | .fund _ _ _, .ok txid => { note with lease := false, funded := some txid }
  | .fund _ _ _, .error (.fundNotSubmitted _) => note
  | .fund _ _ _, .error _ => { note with lease := false }
  | _, _ => note

/-- The notes and licences of a receive worker. -/
def leaseDiscipline : Discipline ReceiveOp.Ans where
  Note := LeaseNote
  fresh := ⟨none, false, none, []⟩
  may := may
  learn := learn

/-! ## The code obeys -/

/-- Reading the clock takes no lease. -/
theorem quiet_now : leaseDiscipline.Quiet (issue .now) :=
  Discipline.quiet_issue (fun _ => trivial) fun _ _ => rfl

/-- Asking the outside world takes no lease. -/
theorem quiet_ask (question : ReceiveQuestion) : leaseDiscipline.Quiet (ask question) := by
  have hi : leaseDiscipline.Quiet (issue (.read question)) :=
    Discipline.quiet_issue (fun _ => trivial) fun _ _ => rfl
  exact hi.bind fun answer => Discipline.quiet_ofExcept answer

/-- Working out the refund deadline takes no lease. -/
theorem quiet_deadline (deps : ReceiveDeps) (refundLocktime : ℤ) (purpose : String) :
    leaseDiscipline.Quiet
      (ChainClock.refundDeadlineSeconds (chainPort deps) refundLocktime purpose) := by
  refine ChainClock.quiet_refundDeadlineSeconds quiet_now (fun height hh => ?_) _ _
  unfold chainPort at hh
  dsimp only at hh
  split at hh
  · cases hh
    exact quiet_ask _
  · cases hh

/-- Retiring the hold invoice takes no lease. -/
theorem quiet_retireInvoice (deps : ReceiveDeps) : leaseDiscipline.Quiet (retireInvoice deps) := by
  unfold retireInvoice
  split
  · have hi : leaseDiscipline.Quiet (issue (.read .cancelHold)) :=
      Discipline.quiet_issue (fun _ => trivial) fun _ _ => rfl
    exact hi.bind fun _ => Discipline.quiet_ret ()
  · exact Discipline.quiet_ret ()

/-- Looking up the coupled send row takes no lease. -/
theorem quiet_coupledSend (deps : ReceiveDeps) : leaseDiscipline.Quiet (coupledSend deps) := by
  unfold coupledSend
  split
  · exact quiet_ask .coupledSend
  · exact Discipline.quiet_ret none

/-- Looking up the coupled send row for an unarmed row takes no lease. -/
theorem quiet_coupledUnless (deps : ReceiveDeps) (htlcExpiresAt : Option ℤ) :
    leaseDiscipline.Quiet (coupledUnless deps htlcExpiresAt) := by
  unfold coupledUnless
  split
  · exact quiet_coupledSend deps
  · exact Discipline.quiet_ret none

variable {note : LeaseNote}

/-- A transition is licensed by its columns; afterwards nothing is promised. -/
theorem obeys_transition {source target : ReceiveSwapState} {columns : List ReceiveColumn}
    (h : Writes note target columns) :
    leaseDiscipline.Obeys note (transition source target columns) fun _ _ => True :=
  SwapStore.obeys_transition receiveShape _ fun he => ⟨⟨he, h⟩, fun _ => trivial⟩

/-- A failure text is always licensed. -/
theorem obeys_fail (source : ReceiveSwapState) (reason : String) :
    leaseDiscipline.Obeys note (fail source reason) fun _ _ => True := by
  have hw : Writes note (failTarget receiveShape source) [.failureReason reason] :=
    .inl fun column hc => by rw [List.mem_singleton.mp hc]; rfl
  exact (obeys_transition hw).bind fun _ _ _ => trivial

/-- Failing and stopping. -/
theorem obeys_fail_false (source : ReceiveSwapState) (reason : String) :
    leaseDiscipline.Obeys note ((fail source reason).bind fun _ => .ret false)
      fun advanced _ => advanced = false :=
  (obeys_fail source reason).bind fun _ _ _ => rfl

/-- Arming never touches the lease. -/
theorem obeys_arm (expiresAt : Option ℤ) :
    leaseDiscipline.Obeys note (transition .quoted .armed [.htlcExpiresAt expiresAt])
      fun _ _ => True :=
  obeys_transition (.inl fun column hc => by rw [List.mem_singleton.mp hc]; rfl)

/-- A coupled quoted row is stepped within the lease discipline. -/
theorem obeys_whenQuotedCoupled (deps : ReceiveDeps) (row : ReceiveSwapRow)
    (coupled : LightningSendStore.SendSwapRow) :
    leaseDiscipline.Obeys note (whenQuotedCoupled deps row coupled) fun _ _ => True := by
  unfold whenQuotedCoupled
  split_ifs
  · exact (obeys_fail_false _ _).mono fun _ _ _ => trivial
  · refine (quiet_retireInvoice deps).obeys_bind fun _ => ?_
    exact (obeys_fail_false _ _).mono fun _ _ _ => trivial
  · trivial
  · refine (quiet_deadline deps _ _).obeys_bind fun deadline => ?_
    split_ifs
    · exact (obeys_fail_false _ _).mono fun _ _ _ => trivial
    · refine (quiet_ask _).obeys_bind fun lockups => ?_
      split_ifs
      · trivial
      · exact (quiet_retireInvoice deps).obeys_bind fun _ => obeys_arm none

/-- A quoted row is stepped within the lease discipline. -/
theorem obeys_whenQuoted (deps : ReceiveDeps) (row : ReceiveSwapRow) :
    leaseDiscipline.Obeys note (whenQuoted deps row) fun _ _ => True := by
  refine (quiet_ask .getHoldState).obeys_bind fun state => ?_
  split_ifs
  · exact obeys_arm state.expiresAt
  · refine (quiet_coupledSend deps).obeys_bind fun coupled => ?_
    cases coupled with
    | some coupled => exact obeys_whenQuotedCoupled deps row coupled
    | none =>
      refine quiet_now.obeys_bind fun now => ?_
      split_ifs
      · refine (quiet_retireInvoice deps).obeys_bind fun _ => ?_
        exact (obeys_fail_false _ _).mono fun _ _ _ => trivial
      · trivial

/-- Reading the script: the answer is what the notes now show. -/
theorem obeys_findLockupOutpoints :
    leaseDiscipline.Obeys note findLockupOutpoints
      fun outpoints after => after = { note with shown := outpoints } := by
  refine ⟨trivial, fun answer => ?_⟩
  cases answer with
  | ok outpoints => rfl
  | error fault => trivial

/-- A passed gate has taught nothing. -/
theorem obeys_coupledGates (deps : ReceiveDeps) (row : ReceiveSwapRow)
    (coupled : LightningSendStore.SendSwapRow) :
    leaseDiscipline.Obeys note (coupledGates deps row coupled)
      fun fund after => fund = true → after = note := by
  have hf : ∀ reason, leaseDiscipline.Obeys note ((fail .armed reason).bind fun _ => .ret false)
      fun fund after => fund = true → after = note := fun reason =>
    (obeys_fail_false _ reason).mono fun fund _ he ht => absurd (he.symm.trans ht) (by decide)
  unfold coupledGates
  split
  · exact hf _
  · refine (quiet_deadline deps _ _).obeys_bind fun deadline => ?_
    split
    · exact hf _
    · split
      · exact hf _
      · refine quiet_now.obeys_bind fun now => ?_
        split
        · exact hf _
        · exact fun _ => rfl

/-- The Lightning gates leave the lease as it was whenever they let the row fund. -/
theorem obeys_lightningGates (deps : ReceiveDeps) (row : ReceiveSwapRow)
    (htlcExpiresAt : Option ℤ) :
    leaseDiscipline.Obeys note (lightningGates deps row htlcExpiresAt)
      fun fund after => fund = true → after = note := by
  refine (quiet_deadline deps _ _).obeys_bind fun refundLocktime => ?_
  refine quiet_now.obeys_bind fun now => ?_
  refine (Discipline.quiet_ofExcept _).obeys_bind fun decision => ?_
  cases decision with
  | ok _ => exact fun _ => rfl
  | error reason =>
    exact (obeys_fail_false _ _).mono fun fund _ he ht => absurd (he.symm.trans ht) (by decide)

/-- The output a worker waits for sits in its own funding. -/
theorem obeys_confirmFunding (row : ReceiveSwapRow) {fundTxid : String} (polls : ℕ)
    (hf : note.funded = some fundTxid) :
    leaseDiscipline.Obeys note (confirmFunding row fundTxid polls)
      fun output after => Payout after output := by
  induction polls generalizing note with
  | zero => trivial
  | succ polls ih =>
    refine obeys_findLockupOutpoints.bind fun outpoints after ha => ?_
    subst ha
    cases hs : outpoints.find? fun output => decide (output.txid = fundTxid) with
    | none => exact ih hf
    | some output =>
      have hm := List.mem_of_find?_eq_some hs
      have ht : output.txid = fundTxid := by simpa using List.find?_some hs
      exact ⟨hm, .inr (ht.symm ▸ hf)⟩

/-- Only a call that provably submitted nothing gives the lease back. -/
theorem obeys_fundingThrew (deps : ReceiveDeps) (coupled : Bool) (error : Fault)
    (hl : ∀ message, error = .fundNotSubmitted message → note.lease = true) :
    leaseDiscipline.Obeys note (fundingThrew deps coupled error) fun _ _ => True := by
  unfold fundingThrew
  cases error with
  | fundNotSubmitted message =>
    have hh : note.lease = true := hl message rfl
    dsimp only
    split_ifs
    · refine (quiet_retireInvoice deps).obeys_bind fun _ => ?_
      exact (obeys_transition (.inr (.inr ⟨_, rfl, rfl, hh⟩))).bind fun _ _ _ => trivial
    · exact ⟨hh, fun _ => trivial⟩
  | error message => trivial
  | paymentNotStarted message => trivial
  | paymentHashRegistered message => trivial

/-- Funding from the row just read obeys the lease discipline. -/
theorem obeys_fundLockup (deps : ReceiveDeps) {row : ReceiveSwapRow} (coupled : Bool) (polls : ℕ)
    (hr : note.row = some row) :
    leaseDiscipline.Obeys note (fundLockup deps row coupled polls) fun _ _ => True := by
  refine ⟨rfl, fun won => ?_⟩
  cases won with
  | false => trivial
  | true =>
    refine ⟨⟨rfl, row, hr, rfl⟩, fun answer => ?_⟩
    cases answer with
    | error error =>
      refine obeys_fundingThrew deps coupled error ?_
      rintro message rfl
      rfl
    | ok fundTxid =>
      have hc : ∀ note : LeaseNote, note.funded = some fundTxid →
          leaseDiscipline.Obeys note ((confirmFunding row fundTxid polls).bind fun funded =>
            transition .armed .funded (lockupColumns funded)) fun _ _ => True := fun note hf =>
        (obeys_confirmFunding row polls hf).bind fun funded after hp =>
          obeys_transition (.inr (.inl ⟨funded, rfl, rfl, hp⟩))
      dsimp only
      split_ifs
      · refine quiet_now.obeys_bind fun now => ?_
        refine ⟨fun column hc => by rw [List.mem_singleton.mp hc]; rfl, fun _ => ?_⟩
        exact hc _ rfl
      · exact hc _ rfl

/-- Waiting for a funding whose answer was lost obeys the lease discipline. -/
theorem obeys_awaitLostFunding (deps : ReceiveDeps) (row : ReceiveSwapRow) :
    leaseDiscipline.Obeys note (awaitLostFunding deps row) fun _ _ => True := by
  refine (quiet_deadline deps _ _).obeys_bind fun deadline => ?_
  refine quiet_now.obeys_bind fun now => ?_
  split_ifs
  · have hw : ∀ reason, Writes note .stuck [.failureReason reason] := fun reason =>
      .inl fun column hc => by rw [List.mem_singleton.mp hc]; rfl
    exact (obeys_transition (hw _)).bind fun _ _ _ => trivial
  · trivial

/-- An armed row is stepped within the lease discipline. -/
theorem obeys_whenArmed (deps : ReceiveDeps) {row : ReceiveSwapRow} (polls : ℕ)
    (hr : note.row = some row) :
    leaseDiscipline.Obeys note (whenArmed deps row polls) fun _ _ => True := by
  refine obeys_findLockupOutpoints.bind fun outpoints after ha => ?_
  subst ha
  cases had : adoptFunding outpoints row.payoutSats with
  | some alreadyFunded =>
    obtain ⟨hm, hv⟩ := adoptFunding_exact had
    exact obeys_transition (.inr (.inl ⟨alreadyFunded, rfl, rfl, hm, .inl ⟨row, hr, hv⟩⟩))
  | none =>
    dsimp only
    split_ifs
    · exact obeys_awaitLostFunding deps row
    · refine (quiet_ask .getHoldState).obeys_bind fun fresh => ?_
      refine (quiet_coupledUnless deps _).obeys_bind fun coupled => ?_
      cases coupled with
      | some coupled =>
        refine (obeys_coupledGates deps row coupled).bind fun fund after hf => ?_
        split_ifs with ht
        · exact obeys_fundLockup deps true polls (by rw [hf ht]; exact hr)
        · trivial
      | none =>
        refine (obeys_lightningGates deps row _).bind fun fund after hf => ?_
        split_ifs with ht
        · exact obeys_fundLockup deps false polls (by rw [hf ht]; exact hr)
        · trivial

/-- Every tick obeys, whatever the notes it starts from. -/
theorem obeys_tick (deps : ReceiveDeps) (polls rounds : ℕ) :
    leaseDiscipline.Obeys note (tick deps polls rounds) fun _ _ => True := by
  induction rounds generalizing note with
  | zero => trivial
  | succ rounds ih =>
    refine ⟨trivial, fun row => ?_⟩
    have hs : leaseDiscipline.Obeys (learn note .get row) (LightningReceive.step deps row polls)
        fun _ _ => True := by
      unfold LightningReceive.step
      split
      · exact obeys_whenQuoted deps row
      · exact obeys_whenArmed deps polls rfl
      · trivial
    refine hs.bind fun advanced after _ => ?_
    split_ifs
    · exact ih
    · trivial

/-! ## The invariant -/

/-- What one worker's notes promise about the world. -/
structure Knows (world : ReceiveWorld) (note : LeaseNote) : Prop where
  /-- The terms of the quote never change. -/
  quote : ∀ row, note.row = some row → row.toReceiveQuoteRecord = world.row.toReceiveQuoteRecord
  /-- A holder's lease is on the row, and nothing was ever submitted. -/
  lease : note.lease = true → world.row.fundStartedAt ≠ none ∧ world.submitted = []
  /-- The worker's own funding is among the submitted ones. -/
  funded : ∀ txid, note.funded = some txid → ∃ ours ∈ world.submitted, ours.txid = txid
  /-- What the indexer showed is at the script. -/
  shown : ∀ output ∈ note.shown, heldOf output ∈ world.held

/-- What holds of the row, the chain and all workers' notes. -/
structure Funding (world : ReceiveWorld) (notes : ℕ → LeaseNote) : Prop where
  knows : ∀ worker, Knows world (notes worker)
  /-- Two holders are one. -/
  sole : ∀ one other, (notes one).lease = true → (notes other).lease = true → one = other
  /-- A submission keeps the lease on the row for good. -/
  leased : world.submitted ≠ [] → world.row.fundStartedAt ≠ none
  /-- A lease never looks stale to a store that passes no `staleBefore`. -/
  dated : ∀ since, world.row.fundStartedAt = some since → 0 ≤ since
  opened : world.row.fundStartedAt ≠ none → world.row.state ≠ .quoted
  once : world.submitted.length ≤ 1
  payout : ∀ ours ∈ world.submitted, ours.value = world.row.payoutSats
  /-- An output in the solver's own funding is the funding's output. -/
  ours : ∀ output ∈ world.held, ∀ ours ∈ world.submitted, output.txid = ours.txid → output = ours
  recorded : ∀ txid vout, world.row.arkadeLockupTxid = some txid →
    world.row.arkadeLockupVout = some vout →
    ⟨txid, vout, world.row.payoutSats⟩ ∈ world.held ∧
      world.row.arkadeLockupValue = some world.row.payoutSats

variable {world : ReceiveWorld} {notes : ℕ → LeaseNote}

/-- Nobody has learnt anything yet. -/
theorem knows_fresh (world : ReceiveWorld) : Knows world ⟨none, false, none, []⟩ where
  quote row hr := by cases hr
  lease hl := by cases hl
  funded txid hf := by cases hf
  shown output ho := by cases ho

/-- New notes that promise no lease beyond the old ones. -/
theorem Funding.relearn (h : Funding world notes) {worker : ℕ} {note : LeaseNote}
    (hk : Knows world note) (hl : note.lease = true → (notes worker).lease = true) :
    Funding world (Function.update notes worker note) where
  knows := (Function.forall_update_iff notes fun _ note => Knows world note).mpr
    ⟨hk, fun other _ => h.knows other⟩
  sole := by
    have hs : ∀ other, (Function.update notes worker note other).lease = true →
        (notes other).lease = true := by
      intro other ho
      by_cases he : other = worker
      · subst he
        rw [Function.update_self] at ho
        exact hl ho
      · rwa [Function.update_of_ne he] at ho
    exact fun one other h1 h2 => h.sole one other (hs one h1) (hs other h2)
  leased := h.leased
  dated := h.dated
  opened := h.opened
  once := h.once
  payout := h.payout
  ours := h.ours
  recorded := h.recorded

/-- Dropping the lease from a worker's notes keeps what it knows. -/
theorem Knows.drop {note : LeaseNote} (h : Knows world note) :
    Knows world { note with lease := false } :=
  ⟨h.quote, fun hl => (by cases hl), h.funded, h.shown⟩

/-- The recorded outpoint holds exactly the payout. -/
def Recorded (held : List HeldOutput) (row : ReceiveSwapRow) : Prop :=
  ∀ txid vout, row.arkadeLockupTxid = some txid → row.arkadeLockupVout = some vout →
    ⟨txid, vout, row.payoutSats⟩ ∈ held ∧ row.arkadeLockupValue = some row.payoutSats

/-- A write that leaves the quote and the lease alone. -/
theorem Funding.rewrite (h : Funding world notes) {row : ReceiveSwapRow}
    (hq : row.toReceiveQuoteRecord = world.row.toReceiveQuoteRecord)
    (hf : row.fundStartedAt = world.row.fundStartedAt)
    (hs : row.state = .quoted → world.row.state = .quoted) (hr : Recorded world.held row) :
    Funding { world with row := row } notes := by
  have hp : row.payoutSats = world.row.payoutSats := congrArg ReceiveQuoteRecord.payoutSats hq
  refine ⟨fun worker => ?_, h.sole, ?_, ?_, ?_, h.once, ?_, h.ours, hr⟩
  · have hk := h.knows worker
    exact ⟨fun r hn => (hk.quote r hn).trans hq.symm, fun hl => by rw [hf]; exact hk.lease hl,
      hk.funded, hk.shown⟩
  · rw [hf]
    exact h.leased
  · rw [hf]
    exact h.dated
  · rw [hf]
    exact fun hn hc => h.opened hn (hs hc)
  · rw [hp]
    exact h.payout

/-- The holder gives the lease back: nobody holds it and nothing was submitted. -/
theorem Funding.release (h : Funding world notes) {worker : ℕ} {row : ReceiveSwapRow}
    (hl : (notes worker).lease = true)
    (hq : row.toReceiveQuoteRecord = world.row.toReceiveQuoteRecord)
    (hf : row.fundStartedAt = none) (hr : Recorded world.held row) :
    Funding { world with row := row }
      (Function.update notes worker { notes worker with lease := false }) := by
  have hn : world.submitted = [] := ((h.knows worker).lease hl).2
  have hu : ∀ other, (Function.update notes worker
      { notes worker with lease := false } other).lease = false := by
    intro other
    by_cases he : other = worker
    · subst he
      rw [Function.update_self]
    · rw [Function.update_of_ne he]
      exact Bool.eq_false_iff.mpr fun ho => he (h.sole other worker ho hl)
  refine ⟨fun other => ?_, fun one _ h1 => ?_, fun hc => absurd hn hc, fun since hd => ?_,
    fun hc => absurd hf hc, h.once, ?_, h.ours, hr⟩
  · have hk : Knows world (Function.update notes worker
        { notes worker with lease := false } other) := by
      by_cases he : other = worker
      · subst he
        rw [Function.update_self]
        exact (h.knows other).drop
      · rw [Function.update_of_ne he]
        exact h.knows other
    refine ⟨fun r hn => (hk.quote r hn).trans hq.symm, fun ho => ?_, hk.funded, hk.shown⟩
    rw [hu other] at ho
    cases ho
  · rw [hu one] at h1
    cases h1
  · dsimp only at hd
    rw [hf] at hd
    cases hd
  · intro ours ho
    dsimp only at ho
    rw [hn] at ho
    cases ho

/-- The parts of the row the invariant reads, its state aside. -/
def terms (row : ReceiveSwapRow) :
    ReceiveQuoteRecord × Option ℤ × Option String × Option ℕ × Option ℤ :=
  (row.toReceiveQuoteRecord, row.fundStartedAt, row.arkadeLockupTxid, row.arkadeLockupVout,
    row.arkadeLockupValue)

/-- A write that leaves every term alone. -/
theorem Funding.keep (h : Funding world notes) {row : ReceiveSwapRow}
    (ht : terms row = terms world.row) (hs : row.state = .quoted → world.row.state = .quoted) :
    Funding { world with row := row } notes := by
  simp only [terms, Prod.mk.injEq] at ht
  obtain ⟨hq, hf, hx, hv, ha⟩ := ht
  refine h.rewrite hq hf hs ?_
  unfold Recorded
  rw [hx, hv, ha, hq]
  exact h.recorded

/-- A plain column is none of the row's terms. -/
theorem terms_plain {column : ReceiveColumn} (h : plain column = true) (row : ReceiveSwapRow) :
    terms (receiveShape.assign column row) = terms row := by
  cases column <;> first | rfl | cases h

/-- No edge leads back to `quoted`. -/
theorem edge_ne_quoted {source target : ReceiveSwapState}
    (h : target ∈ (LnReceiveMachine source).edges) : target ≠ .quoted := by
  rintro rfl
  cases source <;> simp [LnReceiveMachine] at h

/-- A licensed transition that wins. -/
theorem Funding.update (h : Funding world notes) {worker : ℕ} {source target : ReceiveSwapState}
    {columns : List ReceiveColumn} {row : ReceiveSwapRow} {now : ℤ}
    (hm : may (notes worker) (.update source target columns))
    (hu : updateWhere receiveShape now source target columns (fun _ => true) world.row = some row) :
    Funding { world with row := row }
      (Function.update notes worker { notes worker with lease := false }) := by
  obtain ⟨he, hw⟩ := hm
  have hrow := updateWhere_row receiveShape hu
  have hst : row.state = target := (updateWhere_state receiveShape hu).2.2
  have hs : row.state = .quoted → world.row.state = .quoted := fun hc =>
    absurd (hst.symm.trans hc) (edge_ne_quoted he)
  rcases hw with hp | ⟨output, rfl, rfl, hp⟩ | ⟨reason, rfl, rfl, hl⟩
  · have ht : terms row = terms world.row :=
      updateWhere_frame receiveShape terms (fun _ _ _ => rfl)
        (fun column hc => terms_plain (hp column hc)) hu
    have hk := h.keep ht hs
    exact hk.relearn (hk.knows worker).drop fun hl => by cases hl
  · -- The recorded output was shown to this worker and holds the payout.
    have hv : heldOf output ∈ world.held := (h.knows worker).shown output hp.1
    have hx : output.value = world.row.payoutSats := by
      rcases hp.2 with ⟨read, hread, hval⟩ | hown
      · rw [hval, (h.knows worker).quote read hread]
      · obtain ⟨ours, hmem, htx⟩ := (h.knows worker).funded _ hown
        have heq : heldOf output = ours := h.ours _ hv _ hmem htx.symm
        have hval : output.value = ours.value := congrArg HeldOutput.value heq
        rw [hval, h.payout ours hmem]
    have hr : Recorded world.held row := by
      rw [hrow]
      intro txid vout htx hvo
      cases htx
      cases hvo
      refine ⟨?_, congrArg some hx⟩
      have hheld : (⟨output.txid, output.vout, world.row.payoutSats⟩ : HeldOutput) ∈
          world.held := hx ▸ hv
      exact hheld
    have hk := h.rewrite (by rw [hrow]; rfl) (by rw [hrow]; rfl) hs hr
    exact hk.relearn (hk.knows worker).drop fun hl => by cases hl
  · have hr : Recorded world.held row := by
      rw [hrow]
      exact h.recorded
    exact h.release hl (by rw [hrow]; rfl) (by rw [hrow]; rfl) hr

/-- The lease is won only on a row nobody has a lease on, armed and unfunded. -/
theorem claimFundLease_row {now : ℤ} {source : ReceiveSwapState} {row next : ReceiveSwapRow}
    (h : claimFundLease now source row = some next)
    (hd : ∀ since, row.fundStartedAt = some since → 0 ≤ since) :
    row.state = source ∧ row.fundStartedAt = none ∧
      next = { row with fundStartedAt := some now, updatedAt := now } := by
  unfold claimFundLease at h
  split at h
  · next hc =>
    refine ⟨hc.1, ?_, by cases h; rfl⟩
    cases hf : row.fundStartedAt with
    | none => rfl
    | some since =>
      have hle : since ≤ -1 := by simpa [leaseFree, hf] using hc.2
      have hge := hd since hf
      omega
  · cases h

/-- Winning the lease. -/
theorem Funding.claim (h : Funding world notes) {worker : ℕ} {row : ReceiveSwapRow}
    (hc : claimFundLease world.clock .armed world.row = some row) :
    Funding { world with row := row }
      (Function.update notes worker { notes worker with lease := true }) := by
  obtain ⟨hst, hfree, rfl⟩ := claimFundLease_row hc h.dated
  have hn : world.submitted = [] := by
    by_contra hne
    exact h.leased hne hfree
  have hno : ∀ other, (notes other).lease = false := fun other =>
    Bool.eq_false_iff.mpr fun ho => ((h.knows other).lease ho).1 hfree
  refine ⟨fun other => ?_, fun one other h1 h2 => ?_, fun _ => by simp, fun since hs => ?_,
    fun _ hq => ?_, h.once, h.payout, h.ours, h.recorded⟩
  · by_cases he : other = worker
    · subst he
      rw [Function.update_self]
      exact ⟨(h.knows other).quote, fun _ => ⟨by simp, hn⟩, (h.knows other).funded,
        (h.knows other).shown⟩
    · rw [Function.update_of_ne he]
      exact ⟨(h.knows other).quote, fun ho => absurd ho (by simp [hno other]),
        (h.knows other).funded, (h.knows other).shown⟩
  · have hw : ∀ other, (Function.update notes worker
        { notes worker with lease := true } other).lease = true → other = worker := by
      intro other ho
      by_contra he
      rw [Function.update_of_ne he, hno other] at ho
      cases ho
    rw [hw one h1, hw other h2]
  · cases hs
    exact Int.natCast_nonneg _
  · dsimp only at hq
    rw [hst] at hq
    cases hq

/-- A txid no output carries is new to the script and to the submissions. -/
theorem unused_txid {txid : String} (h : world.unused txid = true) :
    ∀ output ∈ world.held ++ world.submitted, output.txid ≠ txid := by
  intro output ho
  have ha := List.all_eq_true.mp h output ho
  simpa using ha

/-- A submission under the lease is the first and only one. -/
theorem Funding.submit (h : Funding world notes) {worker : ℕ} {ours : HeldOutput}
    {note : LeaseNote} (hl : (notes worker).lease = true) (hu : world.unused ours.txid = true)
    (hv : ours.value = world.row.payoutSats)
    (hk : Knows { world with submitted := ours :: world.submitted } note)
    (hd : note.lease = false) :
    Funding { world with submitted := ours :: world.submitted }
      (Function.update notes worker note) := by
  obtain ⟨hf, hn⟩ := (h.knows worker).lease hl
  have hno : ∀ other, (Function.update notes worker note other).lease = false := by
    intro other
    by_cases he : other = worker
    · subst he
      rw [Function.update_self]
      exact hd
    · rw [Function.update_of_ne he]
      exact Bool.eq_false_iff.mpr fun ho => he (h.sole other worker ho hl)
  refine ⟨fun other => ?_, fun one other h1 => ?_, fun _ => hf, h.dated, h.opened, ?_, ?_, ?_,
    h.recorded⟩
  · by_cases he : other = worker
    · subst he
      rw [Function.update_self]
      exact hk
    · have ho := hno other
      rw [Function.update_of_ne he] at ho ⊢
      have hw := h.knows other
      refine ⟨hw.quote, fun hc => absurd hc (by simp [ho]), fun txid ht => ?_, hw.shown⟩
      obtain ⟨prior, hm, hx⟩ := hw.funded txid ht
      exact ⟨prior, List.mem_cons_of_mem _ hm, hx⟩
  · rw [hno one] at h1
    cases h1
  · dsimp only
    rw [hn]
    exact le_rfl
  · intro other ho
    rcases List.mem_cons.mp ho with rfl | ho
    · exact hv
    · exact h.payout other ho
  · intro output ho other hm ht
    rcases List.mem_cons.mp hm with rfl | hm
    · exact absurd ht (unused_txid hu output (List.mem_append_left _ ho))
    · exact h.ours output ho other hm ht

/-- What `arkade.fund` can do, and what its caller learns. -/
theorem Funding.fund (h : Funding world notes) {worker : ℕ} {address : String} {payoutSats : ℤ}
    {stamped : Bool} {reply : FundReply} {answer : Except Fault String} {next : ReceiveWorld}
    (hm : may (notes worker) (.fund address payoutSats stamped))
    (hp : performFund payoutSats reply world = some (answer, next)) :
    Funding next (Function.update notes worker
      (learn (notes worker) (.fund address payoutSats stamped) answer)) := by
  obtain ⟨hl, row, hr, rfl⟩ := hm
  have hk := h.knows worker
  have hv : row.payoutSats = world.row.payoutSats := by rw [hk.quote row hr]
  cases reply with
  | submitted txid vout =>
    simp only [performFund] at hp
    split at hp
    · next hu =>
      cases hp
      refine h.submit hl hu hv ⟨hk.quote, fun hc => (by cases hc), ?_, hk.shown⟩ rfl
      rintro _ ⟨⟩
      exact ⟨_, List.mem_cons_self, rfl⟩
    · cases hp
  | lost txid vout message =>
    simp only [performFund] at hp
    split at hp
    · next hu =>
      cases hp
      refine h.submit hl hu hv ⟨hk.quote, fun hc => (by cases hc), ?_, hk.shown⟩ rfl
      intro mine hf
      obtain ⟨ours, hmem, ht⟩ := hk.funded mine hf
      exact ⟨ours, List.mem_cons_of_mem _ hmem, ht⟩
    · cases hp
  | dropped message =>
    cases hp
    exact h.relearn hk.drop fun hc => by cases hc
  | notSubmitted message =>
    cases hp
    exact h.relearn hk fun hc => hc

/-- Every licensed action keeps the invariant with the notes it teaches. -/
theorem Funding.act (h : Funding world notes) {worker : ℕ} {op : ReceiveOp} {reply : ReceiveReply}
    {answer : op.Ans} {next : ReceiveWorld} (hm : may (notes worker) op)
    (hp : perform worker op reply world = some (answer, next)) :
    Funding next (Function.update notes worker (learn (notes worker) op answer)) := by
  have hk := h.knows worker
  cases op with
  | get =>
    cases hp
    refine h.relearn ⟨?_, fun hc => (by cases hc), fun _ hc => (by cases hc),
      fun _ hc => (by cases hc)⟩ fun hc => by cases hc
    rintro _ ⟨⟩
    rfl
  | update source target columns =>
    simp only [perform] at hp
    split at hp
    · next row hu =>
      cases hp
      exact h.update hm hu
    · cases hp
      exact h.relearn hk.drop fun hc => by cases hc
  | patch columns =>
    cases hp
    have ht : terms (patchRow receiveShape world.clock columns world.row) = terms world.row :=
      patchRow_frame receiveShape terms (fun _ _ => rfl)
        (fun column hc => terms_plain (hm column hc)) world.row
    have hs : (patchRow receiveShape world.clock columns world.row).state = world.row.state :=
      state_patchRow receiveShape world.clock columns world.row
    have hkeep := h.keep ht fun hc => hs.symm.trans hc
    exact hkeep.relearn (hkeep.knows worker) fun hc => hc
  | claimFundLease source =>
    cases hm
    simp only [perform] at hp
    split at hp
    · next row hc =>
      cases hp
      exact h.claim hc
    · cases hp
      exact h.relearn hk.drop fun hc => by cases hc
  | releaseFundLease =>
    cases hp
    exact h.release hm rfl rfl h.recorded
  | now =>
    cases hp
    exact h.relearn hk fun hc => hc
  | read question =>
    cases hp
    exact h.relearn hk fun hc => hc
  | findLockupOutpoints =>
    simp only [perform] at hp
    split at hp
    · cases hp
      exact h.relearn hk fun hc => hc
    · split at hp
      · next hh =>
        cases hp
        exact h.relearn ⟨hk.quote, hk.lease, hk.funded, hh⟩ fun hc => hc
      · cases hp
  | fund address payoutSats stamped => exact h.fund hm hp

/-- One more output at the script. -/
theorem Funding.deposit (h : Funding world notes) {output : HeldOutput}
    (ho : ∀ ours ∈ world.submitted, output.txid = ours.txid → output = ours) :
    Funding { world with held := output :: world.held } notes := by
  refine ⟨fun worker => ?_, h.sole, h.leased, h.dated, h.opened, h.once, h.payout, ?_, ?_⟩
  · have hk := h.knows worker
    exact ⟨hk.quote, hk.lease, hk.funded, fun seen hm =>
      List.mem_cons_of_mem _ (hk.shown seen hm)⟩
  · intro other hm
    rcases List.mem_cons.mp hm with rfl | hm
    · exact ho
    · exact h.ours other hm
  · intro txid vout ht hv
    obtain ⟨hm, hval⟩ := h.recorded txid vout ht hv
    exact ⟨List.mem_cons_of_mem _ hm, hval⟩

/-- Time, landings, strangers' deposits and later steps keep the invariant. -/
theorem Funding.stir (h : Funding world notes) {move : ReceiveMove} {next : ReceiveWorld}
    (hs : stir move world = some next) : Funding next notes := by
  obtain ⟨seconds, rfl⟩ | ⟨output, ho, rfl⟩ | ⟨target, -, hedge, rfl⟩ := stir_cases hs
  · exact ⟨fun worker => ⟨(h.knows worker).quote, (h.knows worker).lease, (h.knows worker).funded,
      (h.knows worker).shown⟩, h.sole, h.leased, h.dated, h.opened, h.once, h.payout, h.ours,
      h.recorded⟩
  · refine h.deposit fun ours hm ht => ?_
    rcases ho with ho | hforeign
    · -- Only one funding was ever submitted, so this one is the one that landed.
      obtain ⟨only, hone⟩ := List.length_eq_one_iff.mp
        (le_antisymm h.once (List.length_pos_of_mem ho))
      rw [hone, List.mem_singleton] at ho hm
      rw [ho, hm]
    · exact absurd ht.symm (hforeign ours hm)
  · exact h.keep rfl fun hq => absurd hq (edge_ne_quoted hedge)

/-- The world of a fresh quote. -/
theorem funding_quoted (quote : ReceiveQuoteRecord) (clock : ℕ) (held : List HeldOutput) :
    Funding (quoted quote clock held) fun _ => leaseDiscipline.fresh where
  knows _ := knows_fresh _
  sole _ _ hl := by cases hl
  leased hn := absurd rfl hn
  dated _ hd := by cases hd
  opened hn := absurd rfl hn
  once := Nat.zero_le 1
  payout _ ho := by cases ho
  ours _ _ _ ho := by cases ho
  recorded _ _ ht := by cases ht

/-- Every run keeps the funding invariant. -/
def fundingProtocol : Protocol receiveMachine anything where
  discipline := leaseDiscipline
  inv := Funding
  forget _ _ _ h := h.relearn (knows_fresh _) fun hl => by cases hl
  act _ _ _ _ _ _ _ h hm _ hp := h.act hm hp
  stir _ _ _ _ h hs := h.stir hs
  jobs job := obeys_tick job.deps job.polls job.rounds

/-- However many workers tick a receive row, in whatever order and with
whatever answers and crashes, at most one funding is ever submitted, and the
outpoint the row records is an output at its script worth exactly its payout. -/
theorem funds_at_most_once {quote : ReceiveQuoteRecord} {clock : ℕ} {held : List HeldOutput}
    {events : List (Event receiveMachine)} {final : Config receiveMachine}
    (hr : run (boot (M := receiveMachine) (quoted quote clock held)) events = some final) :
    final.world.submitted.length ≤ 1 ∧
      ∀ txid vout, final.world.row.arkadeLockupTxid = some txid →
        final.world.row.arkadeLockupVout = some vout →
        ⟨txid, vout, final.world.row.payoutSats⟩ ∈ final.world.held ∧
          final.world.row.arkadeLockupValue = some final.world.row.payoutSats := by
  obtain ⟨notes, h⟩ := fundingProtocol.inv_of_run (funding_quoted quote clock held)
    (permitted_anything _ _) hr
  exact ⟨h.once, h.recorded⟩

/-! ## Runs on a sample quote -/

/-- A quote of fifty thousand sats that expires after ten minutes. -/
def sampleQuote : ReceiveQuoteRecord :=
  ⟨"r1", "hash", 50000, 49000, "lnbc500u", none, none, 2000000600, none, 2000010000, 512, "script",
    "ark1lockup"⟩

/-- A worker without coupling, one step and one confirmation read per tick. -/
def sampleTick (worker : ℕ) : Event receiveMachine :=
  .start worker (⟨⟨false, false, false, true, fun _ => false⟩, 1, 1⟩ : ReceiveJob)

/-- The worker's next action, answered like this. -/
def sampleAct (worker : ℕ) (reply : ReceiveReply) : Event receiveMachine := .act worker reply

/-- The payer's HTLC is held until well past the refund deadline. -/
def sampleHeld : ReceiveReply := { holdState := .ok ⟨.armed, some 2000020000⟩ }

/-- Worker 0 arms the row. -/
def sampleArming : List (Event receiveMachine) :=
  [sampleTick 0, sampleAct 0 {}, sampleAct 0 sampleHeld, sampleAct 0 {}]

/-- Worker 1 passes every gate and takes the lease. -/
def sampleLeasing : List (Event receiveMachine) :=
  [sampleTick 1, sampleAct 1 {}, sampleAct 1 {}, sampleAct 1 sampleHeld, sampleAct 1 {},
    sampleAct 1 {}, sampleAct 1 {}]

/-- Worker 1 submits the funding. -/
def sampleFunding : Event receiveMachine := sampleAct 1 { fund := .submitted "f1" 0 }

/-- The row is armed, funded by one worker and recorded. -/
def sampleRun : List (Event receiveMachine) :=
  sampleArming ++ sampleLeasing ++ [sampleFunding, .stir (ReceiveMove.land ⟨"f1", 0, 49000⟩),
    sampleAct 1 { outpoints := .ok [⟨"f1", 0, 49000, false, false⟩] }, sampleAct 1 {}]

/-- The sample run funds the lockup and records the transaction, having submitted it once. -/
theorem funds_at_most_once_sample :
    ∃ final : Config receiveMachine,
      run (boot (M := receiveMachine) (quoted sampleQuote 2000000000 [])) sampleRun = some final ∧
        final.world.row.arkadeLockupTxid = some "f1" ∧ final.world.submitted.length ≤ 1 :=
  ⟨_, rfl, rfl, (@funds_at_most_once sampleQuote 2000000000 [] sampleRun _ rfl).1⟩

/-! ## When a refusal may stand -/

/-- The write is no gate's refusal, or it loses its race, or the stored row carries no lease. -/
def refusalUnleased (row : ReceiveSwapRow) : ReceiveOp → Bool
  | .update .armed .refused columns =>
    !columns.all plain || decide (row.state ≠ .armed) || row.fundStartedAt.isNone
  | _ => true

/-- Every gate's refusal is written while the stored row carries no lease. -/
def refusesUnleased : Condition receiveMachine := fun _ op _ world =>
  refusalUnleased world.row op = true

instance (worker : ℕ) (op : receiveMachine.Op) (reply : receiveMachine.Reply)
    (world : receiveMachine.World) : Decidable (refusesUnleased worker op reply world) :=
  inferInstanceAs (Decidable (refusalUnleased (ReceiveWorld.row world) op = true))

/-- The funding invariant of a row that is refused only without a lease. -/
def Settled (world : ReceiveWorld) (notes : ℕ → LeaseNote) : Prop :=
  Funding world notes ∧ (world.row.state = .refused → world.row.fundStartedAt = none)

/-- Only `quoted` and `armed` rows can be refused. -/
theorem edge_refused {source : ReceiveSwapState}
    (h : .refused ∈ (LnReceiveMachine source).edges) : source = .quoted ∨ source = .armed := by
  cases source <;> simp [LnReceiveMachine] at h ⊢

/-- A won refusal leaves no lease on the row. -/
theorem refusal_unleased (h : Funding world notes) {worker : ℕ} {source : ReceiveSwapState}
    {columns : List ReceiveColumn} {row : ReceiveSwapRow} {now : ℤ} {reply : ReceiveReply}
    (hm : may (notes worker) (.update source .refused columns))
    (hc : refusesUnleased worker (.update source .refused columns) reply world)
    (hu : updateWhere receiveShape now source .refused columns (fun _ => true) world.row =
      some row) : row.fundStartedAt = none := by
  have hst : world.row.state = source := (updateWhere_state receiveShape hu).1
  rcases hm.2 with hp | ⟨_, ht, _⟩ | ⟨reason, _, rfl, _⟩
  · have hf : row.fundStartedAt = world.row.fundStartedAt := by
      have ht : terms row = terms world.row := updateWhere_frame receiveShape terms
        (fun _ _ _ => rfl) (fun column hc => terms_plain (hp column hc)) hu
      exact congrArg (fun t => t.2.1) ht
    rw [hf]
    rcases edge_refused hm.1 with rfl | rfl
    · by_contra hn
      exact h.opened hn hst
    · have hall : columns.all plain = true := List.all_eq_true.mpr hp
      simpa [refusesUnleased, refusalUnleased, hall, hst] using hc
  · cases ht
  · rw [updateWhere_row receiveShape hu]
    rfl

/-- What one action can do to the stored row. -/
theorem row_of_perform {worker : ℕ} {op : ReceiveOp} {reply : ReceiveReply} {answer : op.Ans}
    {next : ReceiveWorld} (hp : perform worker op reply world = some (answer, next)) :
    next.row = world.row ∨
    (∃ source target columns, op = .update source target columns ∧
      updateWhere receiveShape world.clock source target columns (fun _ => true) world.row =
        some next.row) ∨
    (∃ columns, op = .patch columns ∧
      next.row = patchRow receiveShape world.clock columns world.row) ∨
    (∃ source, op = .claimFundLease source ∧
      claimFundLease world.clock source world.row = some next.row) ∨
    (op = .releaseFundLease ∧ next.row = releaseFundLease world.row) := by
  cases op with
  | update source target columns =>
    simp only [perform] at hp
    split at hp
    · next row hu =>
      cases hp
      exact .inr (.inl ⟨source, target, columns, rfl, hu⟩)
    · cases hp
      exact .inl rfl
  | patch columns =>
    cases hp
    exact .inr (.inr (.inl ⟨columns, rfl, rfl⟩))
  | claimFundLease source =>
    simp only [perform] at hp
    split at hp
    · next row hw =>
      cases hp
      exact .inr (.inr (.inr (.inl ⟨source, rfl, hw⟩)))
    · cases hp
      exact .inl rfl
  | releaseFundLease =>
    cases hp
    exact .inr (.inr (.inr (.inr ⟨rfl, rfl⟩)))
  | get =>
    cases hp
    exact .inl rfl
  | now =>
    cases hp
    exact .inl rfl
  | read question =>
    cases hp
    exact .inl rfl
  | findLockupOutpoints =>
    simp only [perform] at hp
    split at hp
    · cases hp
      exact .inl rfl
    · split at hp
      · cases hp
        exact .inl rfl
      · cases hp
  | fund address payoutSats stamped =>
    simp only [perform, performFund] at hp
    split at hp
    · split at hp
      · cases hp
        exact .inl rfl
      · cases hp
    · split at hp
      · cases hp
        exact .inl rfl
      · cases hp
    · cases hp
      exact .inl rfl
    · cases hp
      exact .inl rfl

/-- A licensed patch leaves every term alone. -/
theorem terms_patchRow {note : LeaseNote} {columns : List ReceiveColumn} {now : ℤ}
    (hm : may note (.patch columns)) (row : ReceiveSwapRow) :
    terms (patchRow receiveShape now columns row) = terms row :=
  patchRow_frame receiveShape terms (fun _ _ => rfl)
    (fun column hc => terms_plain (hm column hc)) row

/-- Under the condition every licensed action keeps refusals lease-free. -/
theorem Settled.act (h : Settled world notes) {worker : ℕ} {op : ReceiveOp} {reply : ReceiveReply}
    {answer : op.Ans} {next : ReceiveWorld} (hm : may (notes worker) op)
    (hc : refusesUnleased worker op reply world)
    (hp : perform worker op reply world = some (answer, next)) :
    Settled next (Function.update notes worker (learn (notes worker) op answer)) := by
  refine ⟨h.1.act hm hp, fun hr => ?_⟩
  rcases row_of_perform hp with he | ⟨source, target, columns, rfl, hu⟩ | ⟨columns, rfl, he⟩ |
    ⟨source, rfl, hw⟩ | ⟨rfl, he⟩
  · rw [he] at hr ⊢
    exact h.2 hr
  · have hst : next.row.state = target := (updateWhere_state receiveShape hu).2.2
    obtain rfl : target = .refused := hst.symm.trans hr
    exact refusal_unleased h.1 hm hc hu
  · have hs : next.row.state = world.row.state := by
      rw [he]
      exact state_patchRow receiveShape world.clock columns world.row
    have hf : next.row.fundStartedAt = world.row.fundStartedAt := by
      rw [he]
      exact congrArg (fun t => t.2.1) (terms_patchRow hm world.row)
    rw [hf]
    exact h.2 (hs.symm.trans hr)
  · cases hm
    obtain ⟨hst, -, he⟩ := claimFundLease_row hw h.1.dated
    rw [he] at hr
    exact absurd (hst.symm.trans hr) (by decide)
  · rw [he]
    rfl

/-- Moves of the environment never refuse a row and never touch its lease. -/
theorem row_of_stir {move : ReceiveMove} {next : ReceiveWorld} (hs : stir move world = some next) :
    next.row = world.row ∨
      ∃ target, world.row.state ∈ [.funded, .claimed, .refunding] ∧
        target ∈ (LnReceiveMachine world.row.state).edges ∧
        next.row = { world.row with state := target } := by
  obtain ⟨seconds, rfl⟩ | ⟨output, -, rfl⟩ | ⟨target, hin, hedge, rfl⟩ := stir_cases hs
  · exact .inl rfl
  · exact .inl rfl
  · exact .inr ⟨target, hin, hedge, rfl⟩

/-- What is settled stays settled while the outside world moves. -/
theorem Settled.stir (h : Settled world notes) {move : ReceiveMove} {next : ReceiveWorld}
    (hs : stir move world = some next) : Settled next notes := by
  refine ⟨h.1.stir hs, fun hr => ?_⟩
  rcases row_of_stir hs with he | ⟨target, hin, hedge, he⟩
  · rw [he] at hr ⊢
    exact h.2 hr
  · rw [he] at hr
    cases hr
    rcases edge_refused hedge with hq | hq <;> rw [hq] at hin <;> simp at hin

/-- Runs that refuse only unleased rows. -/
def refusalProtocol : Protocol receiveMachine refusesUnleased where
  discipline := leaseDiscipline
  inv := Settled
  forget _ _ _ h := ⟨h.1.relearn (knows_fresh _) fun hl => (by cases hl), h.2⟩
  act _ _ _ _ _ _ _ h hm hc hp := h.act hm hc hp
  stir _ _ _ _ h hs := h.stir hs
  jobs job := obeys_tick job.deps job.polls job.rounds

/-- A row refused without a lease. -/
def Refused (world : ReceiveWorld) (notes : ℕ → LeaseNote) : Prop :=
  Funding world notes ∧ world.row.state = .refused ∧ world.row.fundStartedAt = none

/-- A refused row is never leased or moved again, whatever the workers do. -/
theorem Refused.act (h : Refused world notes) {worker : ℕ} {op : ReceiveOp} {reply : ReceiveReply}
    {answer : op.Ans} {next : ReceiveWorld} (hm : may (notes worker) op)
    (hp : perform worker op reply world = some (answer, next)) :
    Refused next (Function.update notes worker (learn (notes worker) op answer)) := by
  refine ⟨h.1.act hm hp, ?_⟩
  rcases row_of_perform hp with he | ⟨source, target, columns, rfl, hu⟩ | ⟨columns, rfl, he⟩ |
    ⟨source, rfl, hw⟩ | ⟨rfl, he⟩
  · rw [he]
    exact h.2
  · have hst : world.row.state = source := (updateWhere_state receiveShape hu).1
    obtain rfl : source = .refused := hst.symm.trans h.2.1
    exact absurd hm.1 (by simp [LnReceiveMachine])
  · rw [he]
    refine ⟨(state_patchRow receiveShape world.clock columns world.row).trans h.2.1, ?_⟩
    exact (congrArg (fun t => t.2.1) (terms_patchRow hm world.row)).trans h.2.2
  · cases hm
    have hst := (claimFundLease_row hw h.1.dated).1
    exact absurd (hst.symm.trans h.2.1) (by decide)
  · rw [he]
    exact ⟨h.2.1, rfl⟩

/-- Every run from a row refused without a lease. -/
def refusedProtocol : Protocol receiveMachine anything where
  discipline := leaseDiscipline
  inv := Refused
  forget _ _ _ h := ⟨h.1.relearn (knows_fresh _) fun hl => (by cases hl), h.2⟩
  act _ _ _ _ _ _ _ h hm _ hp := h.act hm hp
  stir _ _ _ _ h hs := by
    refine ⟨h.1.stir hs, ?_⟩
    rcases row_of_stir hs with he | ⟨target, hin, -, -⟩
    · rw [he]
      exact h.2
    · rw [h.2.1] at hin
      simp at hin
  jobs job := obeys_tick job.deps job.polls job.rounds

/-- In a run that writes every gate refusal while the stored row carries no
fund lease, a row that was ever refused has no funding, before or after. -/
theorem refusal_hides_no_funding {quote : ReceiveQuoteRecord} {clock : ℕ} {held : List HeldOutput}
    {before after : List (Event receiveMachine)} {mid final : Config receiveMachine}
    (hp : Permitted refusesUnleased (boot (M := receiveMachine) (quoted quote clock held))
      (before ++ after))
    (hb : run (boot (M := receiveMachine) (quoted quote clock held)) before = some mid)
    (ha : run mid after = some final) (hr : mid.world.row.state = .refused) :
    mid.world.submitted = [] ∧ final.world.submitted = [] := by
  have hnone : ∀ {world notes}, Funding world notes → world.row.fundStartedAt = none →
      world.submitted = [] := by
    intro world notes h hf
    by_contra hn
    exact h.leased hn hf
  have hstart : refusalProtocol.Holds (boot (M := receiveMachine) (quoted quote clock held))
      fun _ => leaseDiscipline.fresh :=
    ⟨⟨funding_quoted quote clock held, fun hq => (by cases hq)⟩, fun _ => trivial⟩
  obtain ⟨notes, hmid, hobey⟩ := Protocol.holds_run hstart (hp.append hb).1 hb
  have hrefused : refusedProtocol.Holds mid notes := ⟨⟨hmid.1, hr, hmid.2 hr⟩, hobey⟩
  obtain ⟨_, hfinal, _⟩ := Protocol.holds_run hrefused (permitted_anything _ _) ha
  exact ⟨hnone hmid.1 (hmid.2 hr), hnone hfinal.1 hfinal.2.2⟩

/-- Worker 0 reads the armed row before worker 1 takes the lease; ten minutes
later its expiry gate refuses the row while worker 1 is about to submit. -/
def sampleHidden : List (Event receiveMachine) :=
  sampleArming ++ [sampleTick 0, sampleAct 0 {}, sampleAct 0 {}] ++ sampleLeasing ++
    [Event.stir (ReceiveMove.wait 700), sampleAct 0 sampleHeld, sampleAct 0 {}, sampleAct 0 {},
      sampleAct 0 {}]

/-- A stale refusal hides a funding. -/
theorem refusal_hides_a_funding :
    ∃ mid final : Config receiveMachine,
      run (boot (M := receiveMachine) (quoted sampleQuote 2000000000 [])) sampleHidden = some mid ∧
        run mid [sampleFunding] = some final ∧ mid.world.row.state = .refused ∧
        final.world.submitted ≠ [] :=
  ⟨_, _, rfl, rfl, rfl, by decide⟩

/-- Worker 0 lets the invoice expire and refuses the row nobody has leased. -/
def sampleRefusal : List (Event receiveMachine) :=
  sampleArming ++ [Event.stir (ReceiveMove.wait 700), sampleTick 0, sampleAct 0 {}, sampleAct 0 {},
    sampleAct 0 sampleHeld, sampleAct 0 {}, sampleAct 0 {}, sampleAct 0 {}]

/-- The sample run ends in a refusal, and nothing was ever submitted. -/
theorem refusal_hides_no_funding_sample :
    ∃ mid : Config receiveMachine,
      run (boot (M := receiveMachine) (quoted sampleQuote 2000000000 [])) sampleRefusal = some mid ∧
        mid.world.row.state = .refused ∧ mid.world.submitted = [] :=
  ⟨_, rfl, rfl, (@refusal_hides_no_funding sampleQuote 2000000000 [] sampleRefusal [] _ _
    (by decide) rfl rfl rfl).1⟩

end IntentSolver.LightningReceiveLease
