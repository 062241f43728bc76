import IntentSolver.OnchainSendWorld

/-!
# One walk through the onchain send corridor

Each statement about an onchain row minds a few of its writes and lets a
worker do everything else at any time. For such a discipline this module walks
every step once; a step whose writes are minded is left to the statement
itself.
-/

namespace IntentSolver.OnchainSendSteps

open SwapStore ArkadeLockup LockupCollection WorkerProgram OnchainTerms
open OnchainSendStore OnchainSend OnchainSendWorld

/-- A transition between these states may set the column. -/
def benign (source target : OnchainSendSwapState) : OnchainColumn → Bool
  | .fundingTxid _ => decide (source = .fundingOnchain)
  | .fundingVout _ => decide (source = .fundingOnchain)
  | .onchainRefundTxid _ => decide (target = .refunded)
  | .onchainRefundPriorTxids _ => false
  | .lockupOutpoints _ => decide (source = .quoted)
  | _ => true

/-- A patch of this column minds no funding, no refund version and no claim. -/
def ordinary : OnchainColumn → Bool
  | .fundingTxid _ => false
  | .fundingVout _ => false
  | .onchainRefundTxid _ => false
  | .onchainRefundPriorTxids _ => false
  | .lockupOutpoints _ => false
  | .unrolledClaim _ => false
  | _ => true

/-- A discipline that never minds what a row does, but for its writes out of
the minded states. -/
structure FreeOps (D : Discipline OnchainOp.Ans) (minds : OnchainSendSwapState → Bool) :
    Prop where
  get : D.Free (issue .get)
  claimFundLease : D.Free (issue .claimFundLease)
  releaseFundLease : D.Free (issue .releaseFundLease)
  findRefundable : ∀ now, D.Free (issue (.findRefundable now))
  findReleasable : ∀ now, D.Free (issue (.findReleasable now))
  now : D.Free (issue .now)
  boundedInputs : ∀ outputs, D.Free (issue (.boundedInputs outputs))
  read : ∀ question, D.Free (issue (.read question))
  findSpendWitness : ∀ txid vout, D.Free (issue (.findSpendWitness txid vout))
  transactionOutcome : ∀ txid, D.Free (issue (.transactionOutcome txid))
  signFunding : ∀ address amountSats feeRate,
    D.Free (issue (.signFunding address amountSats feeRate))
  update : ∀ source target columns unrecorded, minds source = false →
    target ∈ (OnchainSendMachine source).edges →
    (∀ column ∈ columns, column.inTransition = true ∧ benign source target column = true) →
    D.Free (issue (.update source target columns unrecorded))
  patch : ∀ columns, (∀ column ∈ columns, ordinary column = true) →
    D.Free (issue (.patch columns))

/-! ## Funding gates -/

section Gates

variable {hash : String → String} {D : Discipline OnchainOp.Ans} {ready : D.Note → Prop}
  (hnow : D.Steady ready (issue .now)) (hread : ∀ question, D.Steady ready (issue (.read question)))

include hread in
/-- What the wallet's answers keep, the lockup's shortfall keeps. -/
theorem steady_lockupShortfall (row : OnchainSendSwapRow) :
    D.Steady ready (lockupShortfall row) :=
  ((hread .findLockups).bind fun answer => Discipline.steady_ofExcept answer).bind fun _ =>
    Discipline.steady_ret _

include hnow in
/-- What the clock keeps, the first gate keeps. -/
theorem steady_fundingDecision (row : OnchainSendSwapRow) :
    D.Steady ready (fundingDecision row) :=
  hnow.bind fun _ => Discipline.steady_ret _

include hnow in
/-- And the question why the row may not be funded. -/
theorem steady_fundingRefusal (deps : OnchainDeps hash) (row : OnchainSendSwapRow) :
    D.Steady ready (fundingRefusal deps row) := by
  unfold OnchainSend.fundingRefusal
  split
  · exact Discipline.steady_ret _
  · refine (steady_fundingDecision hnow row).bind fun decision => ?_
    cases decision with
    | ok _ => exact Discipline.steady_ret _
    | error reason => exact Discipline.steady_ret _

include hnow hread in
/-- A re-drive's gates keep what clock and wallet keep. -/
theorem steady_redriveRefusal (deps : OnchainDeps hash) (row : OnchainSendSwapRow)
    (recheck : Bool) : D.Steady ready (redriveRefusal deps row recheck) := by
  unfold OnchainSend.redriveRefusal
  split
  · refine (steady_fundingRefusal hnow deps row).bind fun refusal => ?_
    cases refusal with
    | some reason => exact Discipline.steady_ret _
    | none => exact steady_lockupShortfall hread row
  · exact Discipline.steady_ret _

variable (hlease : D.Steady ready (issue .claimFundLease))
  (hfree : D.Free (issue .releaseFundLease))
  (hsign : ∀ address amountSats feeRate,
    D.Steady ready (issue (.signFunding address amountSats feeRate)))

include hlease in
/-- A fresh entry holds the lease already. -/
theorem steady_fundingLease (fresh : Bool) : D.Steady ready (fundingLease fresh) := by
  unfold OnchainSend.fundingLease
  split
  · exact Discipline.steady_ret _
  · exact hlease

include hread hfree hsign in
/-- Signing releases the lease when it throws. -/
theorem steady_signing (row : OnchainSendSwapRow) :
    D.Steady ready ((signOrShort row).tryCatch fun error => do
      issue .releaseFundLease
      throw error) := by
  refine Discipline.Steady.tryCatch ?_ fun error note => ?_
  · refine (steady_lockupShortfall hread row).bind fun shortfall => ?_
    cases shortfall with
    | some reason => exact Discipline.steady_ret _
    | none =>
      refine ((hread .estimateFeeRate).bind fun answer =>
        Discipline.steady_ofExcept answer).bind fun estimate => ?_
      refine (hsign _ _ _).bind fun answer => ?_
      exact (Discipline.steady_ofExcept _).bind fun _ => Discipline.steady_ret _
  · exact (hfree note).bind fun _ _ _ => trivial

include hnow hread hlease hfree hsign in
/-- Everything up to the record of the signed funding. -/
theorem obeys_submitFunding {deps : OnchainDeps hash} {row : OnchainSendSwapRow} {fresh : Bool}
    {note : D.Note} (hn : ready note)
    (hrefuse : ∀ reason note, ready note →
      D.Obeys note (refuseFunding fresh reason) fun _ _ => True)
    (hsend : ∀ tx note, ready note → D.Obeys note (recordAndPublish deps row tx) fun _ _ => True) :
    D.Obeys note (submitFunding deps row fresh) fun _ _ => True := by
  refine (steady_fundingLease hlease fresh).obeys_bind hn fun leased after ha => ?_
  split
  · trivial
  · refine (steady_fundingRefusal hnow deps row).obeys_bind ha fun refusal asked hasked => ?_
    cases refusal with
    | some reason => exact hrefuse reason asked hasked
    | none =>
      refine (steady_signing hread hfree hsign row).obeys_bind hasked fun signed later hl => ?_
      cases signed with
      | inl shortfall => exact hrefuse shortfall later hl
      | inr tx => exact hsend tx later hl

end Gates

namespace FreeOps

variable {hash : String → String} {D : Discipline OnchainOp.Ans}
  {minds : OnchainSendSwapState → Bool}
  (hD : FreeOps D minds)

include hD

/-- Every question may be asked. -/
theorem ask (question : OnchainQuestion) : D.Free (OnchainSend.ask question) :=
  (hD.read question).bind fun answer => Discipline.free_ofExcept answer

/-- The spend of an output may be looked for at any time. -/
theorem witness (txid : String) (vout : ℕ) : D.Free (OnchainSend.findSpendWitness txid vout) :=
  (hD.findSpendWitness txid vout).bind fun answer => Discipline.free_ofExcept answer

/-- What became of a transaction may be asked at any time. -/
theorem outcome (txid : String) : D.Free (OnchainSend.transactionOutcome txid) :=
  (hD.transactionOutcome txid).bind fun answer => Discipline.free_ofExcept answer

/-- A transition out of a state that is not minded, along the machine or thrown. -/
theorem transition {source target : OnchainSendSwapState} (hs : minds source = false)
    {columns : List OnchainColumn} (hc : ∀ column ∈ columns, benign source target column = true) :
    D.Free (OnchainSend.transition source target columns) := by
  intro note
  apply SwapStore.obeys_transition_checked onchainShape
  intro he hk
  have hcolumns : ∀ column ∈ columns,
      column.inTransition = true ∧ benign source target column = true :=
    fun column hm => ⟨hk column hm, hc column hm⟩
  exact hD.update source target columns false hs he hcolumns note

/-- A row in a state that is not minded may be failed. -/
theorem fail {source : OnchainSendSwapState} (hs : minds source = false) (reason : String) :
    D.Free (OnchainSend.fail source reason) :=
  (hD.transition hs (by simp [benign])).bind fun _ => Discipline.free_ret _

/-- A step may end in such a failure. -/
theorem failStep {source : OnchainSendSwapState} (hs : minds source = false) (reason : String) :
    D.Free (OnchainSend.failStep source reason) :=
  (hD.fail hs reason).bind fun _ => Discipline.free_ret _

/-- A patch of columns nobody minds. -/
theorem patch_ordinary {columns : List OnchainColumn}
    (hc : ∀ column ∈ columns, ordinary column = true) : D.Free (OnchainSend.patch columns) :=
  (Discipline.free_ofExcept _).bind fun _ =>
    (hD.patch columns hc).bind fun written => Discipline.free_ofExcept written

/-! ## Adopting the lockup -/

/-- A quoted row may be refused over its lockup. -/
theorem refuseQuoted (hs : minds .quoted = false) (held : ℤ) (reason : String) :
    D.Free (refuseQuoted held reason) :=
  (hD.patch_ordinary (by simp [ordinary])).bind fun _ => hD.failStep hs reason

/-- Adopting a lockup is a write out of `quoted`. -/
theorem adopt (deps : OnchainDeps hash) (hs : minds .quoted = false) (row : OnchainSendSwapRow)
    (outputs : List FundedOutput) : D.Free (adopt deps row outputs) := by
  unfold OnchainSend.adopt
  split
  · exact hD.failStep hs _
  · exact hD.transition hs (by simp [benign])

/-- So is letting the quote run out. -/
theorem expireQuoted (hs : minds .quoted = false) (locked held : ℤ) :
    D.Free (expireQuoted locked held) := by
  have hr : D.Free (recordHeld held) := by
    unfold recordHeld
    split
    · exact hD.patch_ordinary (by simp [ordinary])
    · exact Discipline.free_ret _
  exact hr.bind fun _ => hD.failStep hs _

/-- The whole step of a quoted row. -/
theorem whenQuoted (deps : OnchainDeps hash) (hs : minds .quoted = false)
    (row : OnchainSendSwapRow) : D.Free (whenQuoted deps row) := by
  refine (hD.ask .findLockups).bind fun lockups => ?_
  refine hD.now.bind fun now => ?_
  unfold adoptQuoted
  dsimp only
  split
  · exact hD.refuseQuoted hs _ _
  · split
    · exact hD.failStep hs _
    · split
      · exact hD.refuseQuoted hs _ _
      · split
        · exact hD.adopt deps hs row _
        · split
          · exact hD.expireQuoted hs _ _
          · exact Discipline.free_ret _

/-! ## Before the entry -/

/-- The lockup's shortfall is free to ask. -/
theorem lockupShortfall (row : OnchainSendSwapRow) : D.Free (lockupShortfall row) :=
  .of_steady (steady_lockupShortfall (fun question => (hD.read question).keeps) row)

/-- So is the first gate. -/
theorem fundingDecision (row : OnchainSendSwapRow) : D.Free (fundingDecision row) :=
  .of_steady (steady_fundingDecision hD.now.keeps row)

/-- And a re-drive's gates. -/
theorem redriveRefusal (deps : OnchainDeps hash) (row : OnchainSendSwapRow) (recheck : Bool) :
    D.Free (redriveRefusal deps row recheck) :=
  .of_steady (steady_redriveRefusal hD.now.keeps (fun question => (hD.read question).keeps) deps
    row recheck)

/-- Asking for approval only reads. -/
theorem askApproval (deps : OnchainDeps hash) : D.Free (askApproval deps) := by
  unfold OnchainSend.askApproval
  split
  · exact hD.ask .approval
  · exact Discipline.free_ret _

/-! ## Waiting for the client -/

/-- A funding is watched until it is deep enough, by reads alone. -/
theorem watchFunding (row : OnchainSendSwapRow) (txid : String) :
    D.Free (watchFunding row txid) := by
  unfold OnchainSend.watchFunding
  split
  · exact Discipline.free_ret _
  · refine hD.now.bind fun now => ?_
    split
    · exact (hD.outcome txid).bind fun _ => Discipline.free_ret _
    · exact Discipline.free_ret _

/-- A funded row waits for its client's claim, or starts to take its money back. -/
theorem whenAwaitingClaim (hash : String → String) (hs : minds .awaitingClaim = false)
    (row : OnchainSendSwapRow) : D.Free (whenAwaitingClaim hash row) := by
  unfold OnchainSend.whenAwaitingClaim
  split
  · exact hD.failStep hs _
  · next htlc _ =>
    refine (hD.witness htlc.txid htlc.vout).bind fun witness => ?_
    cases witness with
    | none =>
      refine hD.now.bind fun now => ?_
      split
      · exact hD.transition hs (by simp)
      · exact (hD.watchFunding row htlc.txid).bind fun _ => Discipline.free_ret _
    | some witness =>
      dsimp only
      split
      · exact hD.failStep hs _
      · exact hD.transition hs (by simp [benign])

/-- A list of transactions is asked about one after the other. -/
theorem outcomeOfAny (txids : List String) (seen : Bool) : D.Free (outcomeOfAny txids seen) := by
  induction txids generalizing seen with
  | nil => exact Discipline.free_ret _
  | cons txid rest ih =>
    refine (hD.outcome txid).bind fun outcome => ?_
    cases outcome with
    | confirmed => exact Discipline.free_ret _
    | mempool => exact ih true
    | unknown => exact ih seen

/-! ## Refunds of the lockup -/

section Sweep

variable (hr : ∀ outputs, D.Free (issue (.refund outputs)))

include hr

/-- Giving the lockup back is a push and a note of it. -/
theorem pushRefund (row : OnchainSendSwapRow) : D.Free (pushRefund row) := by
  refine (hD.ask .findLockups).bind fun outputs => ?_
  split
  · refine (hD.ask .lockupSpendEvidence).bind fun evidence => ?_
    split
    · exact hD.now.bind fun _ => Discipline.free_throw _
    · exact hD.patch_ordinary (by simp [ordinary])
  · refine (hr outputs).bind fun answer => ?_
    refine (Discipline.free_ofExcept _).bind fun txid => ?_
    refine (hD.boundedInputs outputs).bind fun inputs => ?_
    apply hD.patch_ordinary
    unfold refundColumns
    split <;> simp [ordinary]

/-- The sweep looks at one row and gives its lockup back where it may. -/
theorem sweepRow (hash : String → String) (row : OnchainSendSwapRow) :
    D.Free (sweepRow hash row) := by
  refine (hD.ask .heldOff).bind fun held => ?_
  split
  · exact Discipline.free_ret _
  · refine Discipline.Free.tryCatch ?_ fun _ => Discipline.free_ret _
    split
    · have hfinal : D.Free (onchainRefundIsFinal hash row) := by
        unfold onchainRefundIsFinal
        split
        · exact Discipline.free_ret _
        · refine (hD.witness _ _).bind fun witness => ?_
          cases witness with
          | none => exact Discipline.free_ret _
          | some witness =>
            dsimp only
            split
            · exact Discipline.free_throw _
            · exact Discipline.free_ret _
      refine hfinal.bind fun final => ?_
      split
      · exact hD.pushRefund hr row
      · exact Discipline.free_ret _
    · exact hD.pushRefund hr row

/-- It does so with every row the store selects. -/
theorem refundSweep (hash : String → String) : D.Free (refundSweep hash) := by
  refine hD.now.bind fun now => ?_
  refine (hD.findRefundable now).bind fun refundable => ?_
  refine (hD.findReleasable now).bind fun releasable => ?_
  generalize refundable.toList ++ releasable.toList = rows
  induction rows with
  | nil => exact Discipline.free_ret _
  | cons row rest ih => exact (hD.sweepRow hr hash row).bind fun _ => ih

end Sweep

/-! ## Funding -/

section Submission

variable {deps : OnchainDeps hash} {row : OnchainSendSwapRow}
  (hrefuse : ∀ fresh reason, D.Free (refuseFunding fresh reason))
  (hsend : ∀ tx, D.Free (recordAndPublish deps row tx))

include hrefuse hsend

/-- Everything up to the record of the signed funding. -/
theorem submitFunding (fresh : Bool) : D.Free (submitFunding deps row fresh) := fun _ =>
  obeys_submitFunding hD.now.keeps (fun question => (hD.read question).keeps)
    hD.claimFundLease.keeps hD.releaseFundLease
    (fun address amountSats feeRate => (hD.signFunding address amountSats feeRate).keeps) trivial
    (fun reason note _ => hrefuse fresh reason note) fun tx note _ => hsend tx note

omit hrefuse hsend

/-- Everything up to the entry into `funding_onchain`. -/
theorem whenFunded (hf : minds .funded = false)
    (hsubmit : ∀ row note, D.Obeys (D.learn note .get row)
      (OnchainSend.submitFunding deps row true) fun _ _ => True) :
    D.Free (whenFunded deps row) := by
  unfold OnchainSend.whenFunded
  split
  · exact hD.failStep hf _
  · refine (hD.fundingDecision row).bind fun decision => ?_
    cases decision with
    | error reason => exact hD.failStep hf _
    | ok _ =>
      refine (hD.askApproval deps).bind fun approved => ?_
      split
      · exact Discipline.free_ret _
      · refine (hD.lockupShortfall row).bind fun shortfall => ?_
        cases shortfall with
        | some reason => exact hD.failStep hf _
        | none =>
          have he : D.Free enterFunding :=
            hD.now.bind fun _ => hD.transition hf (by simp [benign])
          refine he.bind fun won => ?_
          split
          · exact Discipline.free_ret _
          · exact fun note => Discipline.obeys_issue_bind.mpr
              ⟨(hD.get note).1, fun row => hsubmit row note⟩

end Submission

section Funding

variable (hs : minds .fundingOnchain = false)
  (hrecord : ∀ tx, D.Free (issue (.recordFundingTx tx)))
  (hbroadcast : ∀ tx, D.Free (issue (.broadcastFunding tx)))

include hs

/-- A funding whose outpoint is known moves the row on. -/
theorem enterAwaitingClaim (htlc : Outpoint) : D.Free (enterAwaitingClaim htlc) :=
  hD.transition hs (by simp [benign])

/-- A funding that may not be made refuses the row, or parks it. -/
theorem refuseFunding (fresh : Bool) (reason : String) : D.Free (refuseFunding fresh reason) := by
  unfold OnchainSend.refuseFunding
  split
  · exact hD.failStep hs reason
  · have hu : D.Free (refuseUnrecorded reason) := by
      intro note
      apply SwapStore.obeys_transition_checked onchainShape
      intro he hk
      exact hD.update _ _ _ true hs he (fun column hm => ⟨hk column hm, by
        rw [List.mem_singleton.mp hm]
        rfl⟩) note
    refine hu.bind fun won => ?_
    split
    · exact hD.releaseFundLease.bind fun _ => Discipline.free_ret _
    · exact Discipline.free_ret _

include hbroadcast

/-- A recorded funding is sent, found sent, or parked. -/
theorem publishFunding (deps : OnchainDeps hash) (row : OnchainSendSwapRow) (tx : FundingTx)
    (recheck : Bool) : D.Free (publishFunding deps row tx recheck) := by
  refine (Discipline.free_ofExcept _).bind fun htlc => ?_
  refine (hD.outcome htlc.txid).bind fun outcome => ?_
  split
  · refine (hD.redriveRefusal deps row recheck).bind fun refusal => ?_
    cases refusal with
    | some reason => exact hD.failStep hs _
    | none =>
      refine (hbroadcast tx).bind fun answer => ?_
      exact (Discipline.free_ofExcept _).bind fun _ => hD.enterAwaitingClaim hs htlc
  · exact hD.enterAwaitingClaim hs htlc

include hrecord

/-- A funding is signed, recorded and sent under its lease. -/
theorem submits (deps : OnchainDeps hash) (row : OnchainSendSwapRow) (fresh : Bool) :
    D.Free (OnchainSend.submitFunding deps row fresh) := by
  refine hD.submitFunding (hD.refuseFunding hs) (fun tx => ?_) fresh
  refine (hrecord tx).bind fun recorded => ?_
  split
  · exact Discipline.free_ret _
  · exact hD.publishFunding hs hbroadcast deps row tx false

/-- A row that was left in `funding_onchain` is recovered. -/
theorem whenFundingOnchain (deps : OnchainDeps hash) (row : OnchainSendSwapRow) :
    D.Free (whenFundingOnchain deps row) := by
  unfold OnchainSend.whenFundingOnchain
  split
  · exact hD.transition hs (by simp)
  · unfold recoverFunding
    split
    · exact hD.publishFunding hs hbroadcast deps row _ true
    · refine (hD.ask _).bind fun outputs => ?_
      split
      · exact hD.submits hs hrecord hbroadcast deps row false
      · exact hD.enterAwaitingClaim hs _

end Funding

/-! ## Claiming -/

section Claiming

variable (hs : minds .claiming = false) (hclaim : ∀ outputs, D.Free (issue (.claim outputs)))
  (hfinalize : D.Free (issue .finalizePendingClaim))
  (hpreimage : ∀ outpoint, D.Free (issue (.findClaimPreimage outpoint)))
  (hamong : ∀ outpoints, D.Free (issue (.findClaimPreimageAmong outpoints)))
  (hunrolled : ∀ lockup record, D.Free (issue (.claimUnrolled lockup record)))
  (hsteps : ∀ steps, D.Free (issue (.patch [.unrolledClaim steps])))

include hamong in
/-- A spent lockup is looked at for the solver's own claim. -/
theorem spentByOurClaim (wallet : WalletCaps) : D.Free (spentByOurClaim wallet) := by
  unfold OnchainSend.spentByOurClaim
  split
  · refine (hD.ask .findLockupOutpoints).bind fun outpoints => ?_
    split
    · exact Discipline.free_ret _
    · refine (hamong outpoints).bind fun answer => ?_
      exact (Discipline.free_ofExcept _).bind fun _ => Discipline.free_ret _
  · exact Discipline.free_ret _

include hs hpreimage hunrolled hsteps

/-- What collecting a lockup asks of the corridor is free. -/
theorem port (wallet : WalletCaps) : FreePort D (claimPort wallet) where
  findLockupOutpoints read hr := by
    unfold claimPort at hr
    dsimp only at hr
    split at hr
    · cases hr
      exact hD.ask .findLockupOutpoints
    · cases hr
  claimUnrolled claim hc key record := by
    unfold claimPort at hc
    dsimp only at hc
    split at hc
    · cases hc
      exact hunrolled key record
    · cases hc
  findClaimPreimage find hf outpoint := by
    unfold claimPort at hf
    dsimp only at hf
    split at hf
    · cases hf
      exact (hpreimage outpoint).bind fun answer => Discipline.free_ofExcept answer
    · cases hf
  patchUnrolled := hsteps
  patchClaimTxid _ := hD.patch_ordinary (by simp [ordinary])
  fail := hD.fail hs
  finish := hD.transition hs (by simp)

include hfinalize hamong

/-- A lockup that shows too little is looked into, not claimed. -/
theorem claimShort (wallet : WalletCaps) (row : OnchainSendSwapRow) (held : ℤ) :
    D.Free (claimShort wallet row held) := by
  have hport := hD.port hs hpreimage hunrolled hsteps wallet
  refine (hD.ask .lockupSpendEvidence).bind fun evidence => ?_
  have hreached : D.Free (spentOrReached row evidence) := by
    unfold spentOrReached
    split
    · exact Discipline.free_ret _
    · exact hD.now.bind fun _ => Discipline.free_ret _
  refine hreached.bind fun reached => ?_
  split
  · exact Discipline.free_throw _
  · have hpending : D.Free (pendingClaim wallet evidence) := by
      unfold pendingClaim
      split
      · exact hfinalize.bind fun answer => Discipline.free_ofExcept answer
      · exact Discipline.free_ret _
    refine hpending.bind fun pending => ?_
    cases truthy pending with
    | some txid => exact hD.transition hs (by simp [benign])
    | none =>
      refine (hD.spentByOurClaim hamong wallet).bind fun ours => ?_
      split
      · refine (free_lockupLeftover hport _ _ _).bind fun leftover => ?_
        split
        · exact hD.transition hs (by simp [benign])
        · exact hD.failStep hs _
      · exact hD.failStep hs _

omit hfinalize hamong in
/-- A collected lockup closes its row. -/
theorem finishClaim (wallet : WalletCaps) (deps : OnchainDeps hash) (row : OnchainSendSwapRow)
    (txid : Option String) (unrolled : Option UnrolledClaims) :
    D.Free (finishClaim wallet deps row txid unrolled) := by
  have hport := hD.port hs hpreimage hunrolled hsteps wallet
  cases unrolled with
  | none => exact (hD.transition hs (by simp [benign])).bind fun _ => Discipline.free_ret _
  | some claims =>
    have hr : D.Free (recordClaimTxid txid) := by
      unfold recordClaimTxid
      split
      · exact hD.patch_ordinary (by simp [ordinary])
      · exact Discipline.free_ret _
    exact hr.bind fun _ => free_settleUnrolledClaims hport _ _

omit hfinalize hamong in
/-- What the claim left over decides whether the row is closed. -/
theorem collectClaim (wallet : WalletCaps) (deps : OnchainDeps hash) (row : OnchainSendSwapRow)
    (outputs : List FundedOutput) (txid : Option String) (unrolled : Option UnrolledClaims) :
    D.Free (collectClaim wallet deps row outputs txid unrolled) := by
  have hport := hD.port hs hpreimage hunrolled hsteps wallet
  have hfinish := hD.finishClaim hs hpreimage hunrolled hsteps wallet deps row txid unrolled
  unfold OnchainSend.collectClaim
  split
  · have hnow : D.Free (claimedNow outputs txid) := by
      cases txid with
      | none => exact Discipline.free_ret _
      | some txid => exact (hD.boundedInputs outputs).bind fun _ => Discipline.free_ret _
    refine hnow.bind fun claimed => ?_
    refine (free_lockupLeftover hport _ _ _).bind fun leftover => ?_
    split
    · exact hfinish
    · exact hD.now.bind fun _ => free_awaitLeftover hport _ _ _ _ _
  · exact hfinish

include hclaim

/-- The whole step of a row in `claiming`. -/
theorem whenClaiming (wallet : WalletCaps) (deps : OnchainDeps hash) (row : OnchainSendSwapRow) :
    D.Free (whenClaiming wallet deps row) := by
  unfold OnchainSend.whenClaiming
  cases truthy row.preimage with
  | none => exact hD.failStep hs _
  | some preimage =>
    have hport := hD.port hs hpreimage hunrolled hsteps wallet
    refine (hD.ask .findLockups).bind fun lockups => ?_
    refine (free_advanceUnrolledClaims hport _).bind fun unrolled => ?_
    dsimp only
    split
    · exact hD.claimShort hs hfinalize hpreimage hamong hunrolled hsteps wallet row _
    · unfold claimHeld
      split
      · exact hD.collectClaim hs hpreimage hunrolled hsteps wallet deps row _ _ _
      · refine (hclaim _).bind fun answer => ?_
        cases answer with
        | ok txid => exact hD.collectClaim hs hpreimage hunrolled hsteps wallet deps row _ _ _
        | error error =>
          refine hD.now.bind fun now => ?_
          split
          · exact hD.failStep hs _
          · exact Discipline.free_throw _

end Claiming

/-! ## Taking the HTLC back -/

section Refunding

variable {ready : D.Note → Prop} {row : OnchainSendSwapRow} {note : D.Note}
  (hnow : D.Steady ready (issue .now))
  (hread : ∀ question, D.Steady ready (issue (.read question)))
  (hsend : ∀ htlc feeRate fee note, ready note →
    D.Obeys note (sendHtlcRefund row htlc feeRate fee) fun _ _ => True)

omit hD in
include hnow hsend in
/-- One version of the refund is signed, recorded and broadcast. -/
theorem pushOnchainHtlcRefund (deps : OnchainDeps hash) (htlc : Outpoint) (version : RefundVersion)
    (hn : ready note) :
    D.Obeys note (pushOnchainHtlcRefund deps row htlc version) fun _ _ => True := by
  unfold OnchainSend.pushOnchainHtlcRefund
  split
  · trivial
  · apply hnow.obeys_bind hn
    intro now after ha
    dsimp only
    split
    · trivial
    · split
      · trivial
      · exact hsend _ _ _ after ha

omit hD in
include hread in
/-- A question disturbs nothing the notes rely on. -/
theorem steady_ask (question : OnchainQuestion) : D.Steady ready (OnchainSend.ask question) :=
  (hread question).bind fun answer => Discipline.steady_ofExcept answer

omit hD in
include hnow hread hsend in
/-- A refund that does not confirm is replaced at a higher fee. -/
theorem replaceOnchainHtlcRefund (deps : OnchainDeps hash) (htlc : Outpoint) (hn : ready note) :
    D.Obeys note (replaceOnchainHtlcRefund deps row htlc) fun _ _ => True := by
  apply hnow.obeys_bind hn
  intro now after ha
  split
  · trivial
  · apply (steady_ask hread .estimateFeeRate).obeys_bind ha
    intro estimate told ht
    exact (pushOnchainHtlcRefund hnow hsend deps htlc _ ht).bind fun _ _ _ => trivial

omit hD in
include hnow hread hsend in
/-- The first version of the refund is no different. -/
theorem firstRefund (deps : OnchainDeps hash) (htlc : Outpoint) (hn : ready note) :
    D.Obeys note (firstRefund deps row htlc) fun _ _ => True := by
  apply (steady_ask hread .estimateFeeRate).obeys_bind hn
  intro estimate told ht
  exact pushOnchainHtlcRefund hnow hsend deps htlc _ ht

omit hD in
include hnow hread hsend in
/-- The operator's push, once the slot is taken. -/
theorem reclaimHolding (deps : OnchainDeps hash) (htlc : Outpoint) (waiting : Bool)
    (hn : ready note) :
    D.Obeys note (reclaimHolding deps row htlc waiting) fun _ _ => True := by
  unfold OnchainSend.reclaimHolding
  split
  · exact (replaceOnchainHtlcRefund hnow hread hsend deps htlc hn).bind fun _ _ _ => trivial
  · apply (firstRefund hnow hread hsend deps htlc hn).bind
    intro attempt _ _
    cases attempt with
    | broadcast txid => trivial
    | refused reason retry => trivial

variable (hwitness : ∀ txid vout, D.Steady ready (issue (.findSpendWitness txid vout)))
  (houtcome : ∀ txid ∈ trackedRefundTxids row, ∀ note, ready note →
    D.Obeys note (OnchainSend.transactionOutcome txid) fun outcome after => ready after ∧
      (outcome = .confirmed → D.Obeys after
        (OnchainSend.transition .refundingOnchain .refunded [.onchainRefundTxid txid])
          fun _ _ => True))
  (hleave : ∀ target ≠ .refunded, ∀ columns : List OnchainColumn,
    (∀ column ∈ columns, benign .refundingOnchain target column = true) →
    D.Free (OnchainSend.transition .refundingOnchain target columns))

omit hD in
include houtcome in
/-- A version that has confirmed licenses closing the row. -/
theorem obeys_outcomeOfAny {txids : List String} (ht : txids ⊆ trackedRefundTxids row)
    (seen : Bool) (hn : ready note) :
    D.Obeys note (OnchainSend.outcomeOfAny txids seen) fun tracked after => ready after ∧
      ∀ txid, tracked = .confirmed txid → D.Obeys after
        (OnchainSend.transition .refundingOnchain .refunded [.onchainRefundTxid txid])
          fun _ _ => True := by
  induction txids generalizing note seen with
  | nil => exact ⟨hn, fun txid h => by cases seen <;> cases h⟩
  | cons txid rest ih =>
    have hrest : rest ⊆ trackedRefundTxids row := fun _ h => ht (List.mem_cons_of_mem _ h)
    apply (houtcome txid (ht List.mem_cons_self) note hn).bind
    rintro outcome after ⟨ha, hclose⟩
    cases outcome with
    | confirmed =>
      refine ⟨ha, fun other h => ?_⟩
      cases h
      exact hclose rfl
    | mempool => exact ih hrest true ha
    | unknown => exact ih hrest seen ha

omit hD in
include hleave in
/-- A row that is taking its money back may be failed. -/
theorem failRefunding (reason : String) :
    D.Free (OnchainSend.failStep .refundingOnchain reason) := by
  have hf : D.Free (OnchainSend.fail .refundingOnchain reason) :=
    (hleave .stuck (by decide) [.failureReason reason] (by simp [benign])).bind fun _ =>
      Discipline.free_ret _
  exact hf.bind fun _ => Discipline.free_ret _

include hnow hread hsend hwitness houtcome hleave in
/-- The refunding step, from notes that license its push. -/
theorem whenRefundingOnchain (deps : OnchainDeps hash) (hn : ready note) :
    D.Obeys note (whenRefundingOnchain deps row) fun _ _ => True := by
  unfold OnchainSend.whenRefundingOnchain
  split
  · exact failRefunding hleave _ note
  · next htlc _ =>
    apply (obeys_outcomeOfAny houtcome (fun _ h => h) false hn).bind
    rintro tracked after ⟨ha, hclose⟩
    cases tracked with
    | confirmed txid => exact hclose txid rfl
    | mempool =>
      exact (replaceOnchainHtlcRefund hnow hread hsend deps htlc ha).bind fun _ _ _ => trivial
    | unknown =>
      have hw : D.Steady ready (OnchainSend.findSpendWitness htlc.txid htlc.vout) :=
        (hwitness _ _).bind fun answer => Discipline.steady_ofExcept answer
      apply hw.obeys_bind ha
      intro witness told ht
      cases witness with
      | some witness =>
        dsimp only
        split
        · exact hleave .claiming (by decide) _ (by simp [benign]) told
        · exact failRefunding hleave _ told
      | none =>
        apply (firstRefund hnow hread hsend deps htlc ht).bind
        intro attempt asked _
        cases attempt with
        | broadcast txid => trivial
        | refused reason retry =>
          apply (hD.now asked).bind
          intro now later _
          split
          · trivial
          · exact failRefunding hleave _ later

end Refunding

/-! ## Whole jobs -/

section Jobs

variable (hfree : ∀ process, D.Free (issue (.freeSlot process)))

omit hD in
include hfree in
/-- A body that may run may run with the slot held. -/
theorem holdingSlot {α : Type} {note : D.Note} (deps : OnchainDeps hash) {body : Prog α}
    (hb : D.Obeys note body fun _ _ => True) :
    D.Obeys note (holdingSlot deps body) fun _ _ => True := by
  have hc : D.Obeys note (body.tryCatch fun error => do
      issue (.freeSlot deps.process)
      throw error) fun _ _ => True :=
    hb.tryCatch fun _ after => (hfree deps.process after).bind fun _ _ _ => trivial
  exact hc.bind fun _ after _ => (hfree deps.process after).bind fun _ _ _ => trivial

/-- Steps that each keep something of the notes keep it over a whole drive. -/
theorem drive {wallet : WalletCaps} {deps : OnchainDeps hash} {keeps : D.Note → Prop}
    (hstep : ∀ note row, keeps note → D.Obeys (D.learn note .get row) (step wallet deps row)
      fun _ after => keeps after) (rounds : ℕ) {note : D.Note} (hn : keeps note) :
    D.Obeys note (drive wallet deps rounds) fun _ after => keeps after := by
  induction rounds generalizing note with
  | zero => exact hn
  | succ rounds ih =>
    refine Discipline.obeys_issue_bind.mpr ⟨(hD.get note).1, fun row => ?_⟩
    apply (hstep note row hn).bind
    intro advanced after ha
    split
    · exact ih ha
    · exact ha

variable (htake : ∀ process read, D.Free (issue (.takeSlot process read)))

include hfree htake

/-- A tick may run when each of its steps may, right after reading its row. -/
theorem tick {wallet : WalletCaps} {deps : OnchainDeps hash}
    (hstep : ∀ note row, D.Obeys (D.learn note .get row) (step wallet deps row) fun _ _ => True)
    (rounds : ℕ) : D.Free (tick wallet deps rounds) := by
  refine (htake _ _).bind fun taken => ?_
  split
  · exact Discipline.free_ret _
  · intro note
    have hdrive : D.Obeys note (OnchainSend.drive wallet deps rounds) fun _ _ => True :=
      hD.drive (fun note row _ => hstep note row) rounds trivial
    exact holdingSlot hfree deps hdrive

/-- The operator's reclaim may run when its push may, from what it read. -/
theorem reclaimOnchainHtlc (deps : OnchainDeps hash) {ready : OnchainSendSwapRow → D.Note → Prop}
    (hready : ∀ note row, ready row (D.learn note .get row))
    (hkeep : ∀ row note op answer, ready row note → ready row (D.learn note op answer))
    (hsend : ∀ row htlc feeRate fee note, ready row note →
      D.Obeys note (sendHtlcRefund row htlc feeRate fee) fun _ _ => True) :
    D.Free (reclaimOnchainHtlc deps) := by
  have hslot : ∀ row htlc waiting note, ready row note →
      D.Obeys note (reclaimSlot deps row htlc waiting) fun _ _ => True := by
    intro row htlc waiting note hn
    apply ((hD.witness htlc.txid htlc.vout).steady (hkeep row)).obeys_bind hn
    intro witness after ha
    split
    · trivial
    · apply ((htake deps.process (some row)).steady (hkeep row)).obeys_bind ha
      intro taken held hh
      split
      · trivial
      · exact holdingSlot hfree deps (reclaimHolding (hD.now.steady (hkeep row))
          (fun question => (hD.read question).steady (hkeep row)) (hsend row) deps htlc waiting hh)
  intro note
  refine Discipline.obeys_issue_bind.mpr ⟨(hD.get note).1, fun row => ?_⟩
  have hn := hready note row
  split
  · trivial
  · next htlc _ =>
    apply ((hD.outcomeOfAny (trackedRefundTxids row) false).steady (hkeep row)).obeys_bind hn
    intro tracked after ha
    cases tracked with
    | confirmed txid => trivial
    | mempool => exact hslot row htlc true after ha
    | unknown => exact hslot row htlc false after ha

end Jobs

end FreeOps

/-! ## What a write does to the row -/

/-- Where the HTLC is depends on the outpoint columns alone. -/
theorem htlcOf_congr {row next : OnchainSendSwapRow} (ht : next.fundingTxid = row.fundingTxid)
    (hv : next.fundingVout = row.fundingVout) : htlcOf next = htlcOf row := by
  unfold htlcOf
  rw [ht, hv]

/-- No column is the record of the funding, nor a term of the quote. -/
theorem assign_record (column : OnchainColumn) (row : OnchainSendSwapRow) :
    (onchainShape.assign column row).fundingTx = row.fundingTx ∧
      (onchainShape.assign column row).toOnchainQuoteRecord = row.toOnchainQuoteRecord := by
  cases column <;> exact ⟨rfl, rfl⟩

/-- Other columns leave the outpoint alone. -/
theorem assign_outpoint {column : OnchainColumn}
    (hc : ∀ value, column ≠ .fundingTxid value) (hv : ∀ value, column ≠ .fundingVout value)
    (row : OnchainSendSwapRow) :
    (onchainShape.assign column row).fundingTxid = row.fundingTxid ∧
      (onchainShape.assign column row).fundingVout = row.fundingVout := by
  cases column with
  | fundingTxid value => exact absurd rfl (hc value)
  | fundingVout value => exact absurd rfl (hv value)
  | _ => exact ⟨rfl, rfl⟩

/-- Other columns leave the list of refunds alone. -/
theorem assign_tracked {column : OnchainColumn} (hc : ∀ value, column ≠ .onchainRefundTxid value)
    (hv : ∀ value, column ≠ .onchainRefundPriorTxids value) (row : OnchainSendSwapRow) :
    trackedRefundTxids (onchainShape.assign column row) = trackedRefundTxids row := by
  cases column with
  | onchainRefundTxid value => exact absurd rfl (hc value)
  | onchainRefundPriorTxids value => exact absurd rfl (hv value)
  | _ => rfl

/-- A version is tracked as the current one or as one it replaced. -/
theorem mem_trackedRefundTxids {row : OnchainSendSwapRow} {txid : String} :
    txid ∈ trackedRefundTxids row ↔
      row.onchainRefundTxid = some txid ∨ txid ∈ row.onchainRefundPriorTxids := by
  unfold trackedRefundTxids
  split
  · next h => simp [h]
  · next current h => simp [h, eq_comm]

section Update

variable {clock : ℤ} {source target : OnchainSendSwapState} {columns : List OnchainColumn}
  {guard : OnchainSendSwapRow → Bool} {row next : OnchainSendSwapRow}
  (hu : updateWhere onchainShape clock source target columns guard row = some next)

include hu

/-- A transition that wins starts from its source and ends in its target. -/
theorem update_states : row.state = source ∧ next.state = target := by
  obtain ⟨hs, -, ht⟩ := updateWhere_state onchainShape hu
  exact ⟨hs, ht⟩

/-- It touches neither the recorded funding nor the quote. -/
theorem update_record : next.fundingTx = row.fundingTx ∧
    next.toOnchainQuoteRecord = row.toOnchainQuoteRecord :=
  ⟨updateWhere_frame onchainShape OnchainSendSwapRow.fundingTx (fun _ _ _ => rfl)
      (fun column _ row => (assign_record column row).1) hu,
    updateWhere_frame onchainShape OnchainSendSwapRow.toOnchainQuoteRecord (fun _ _ _ => rfl)
      (fun column _ row => (assign_record column row).2) hu⟩

/-- Only a write out of `funding_onchain` sets the HTLC's outpoint. -/
theorem update_outpoint (hc : ∀ column ∈ columns, benign source target column = true)
    (hs : source ≠ .fundingOnchain) :
    next.fundingTxid = row.fundingTxid ∧ next.fundingVout = row.fundingVout := by
  have hkeeps : ∀ column ∈ columns, ∀ row : OnchainSendSwapRow,
      (onchainShape.assign column row).fundingTxid = row.fundingTxid ∧
        (onchainShape.assign column row).fundingVout = row.fundingVout := by
    intro column hm
    apply assign_outpoint
    · rintro value rfl
      exact hs (of_decide_eq_true (hc _ hm))
    · rintro value rfl
      exact hs (of_decide_eq_true (hc _ hm))
  exact ⟨updateWhere_frame onchainShape OnchainSendSwapRow.fundingTxid (fun _ _ _ => rfl)
      (fun column hm row => (hkeeps column hm row).1) hu,
    updateWhere_frame onchainShape OnchainSendSwapRow.fundingVout (fun _ _ _ => rfl)
      (fun column hm row => (hkeeps column hm row).2) hu⟩

/-- Only the write of `refunded` sets a refund version. -/
theorem update_tracked (hc : ∀ column ∈ columns, benign source target column = true)
    (ht : target ≠ .refunded) :
    trackedRefundTxids next = trackedRefundTxids row := by
  refine updateWhere_frame onchainShape trackedRefundTxids (fun _ _ _ => rfl)
    (fun column hcol => assign_tracked ?_ ?_) hu
  · rintro value rfl
    exact ht (of_decide_eq_true (hc _ hcol))
  · rintro value rfl
    cases hc _ hcol

end Update

end IntentSolver.OnchainSendSteps
