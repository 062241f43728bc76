import IntentSolver.OnchainSendSteps

/-!
# Collecting the lockup of an onchain send

An onchain row is closed as `claimed` by the exits of a Lightning row and one
more: a past spend that reveals the preimage, after which every adopted output
is checked as well. As there, a finalized pending claim is counted for all
adopted outputs without looking at which ones it spent.
-/

namespace IntentSolver.OnchainSendCollection

open SwapStore ArkadeLockup LockupCollection WorkerProgram WorkerInterleaving OnchainTerms
open OnchainSendStore OnchainSend OnchainSendWorld OnchainSendSteps CollectedLockup

/-- The column records what was adopted. -/
def adopts : OnchainColumn → Bool
  | .lockupOutpoints _ => true
  | _ => false

/-- What a collecting worker may do. -/
def may (note : CollectNote) : OnchainOp → Prop
  | .update source target columns _ =>
    target ∈ (OnchainSendMachine source).edges ∧
      (∀ column ∈ columns, column.inTransition = true ∧ benign source target column = true) ∧
      (target = .claimed → note.Closes)
  | .patch columns => ∀ column ∈ columns, adopts column = false ∧
      ∀ steps, column = .unrolledClaim steps →
        ∀ outpoint ∈ confirmedKeys steps, outpoint ∈ note.collected
  | _ => True

/-- What it learns from an answer. -/
def learn (note : CollectNote) : (op : OnchainOp) → op.Ans → CollectNote
  | .get, row =>
    note.read (decide (row.state = .quoted)) row.lockupOutpoints (row.unrolledClaim.getD [])
  | .boundedInputs outputs, inputs => note.select outputs inputs
  | .claim outputs, .ok _ => note.claim outputs
  | .claim _, .error _ => { note with offered := none }
  | .finalizePendingClaim, .ok (some _) => note.finalize
  | .findClaimPreimage outpoint, .ok (some _) => note.found outpoint
  | .claimUnrolled lockup _, (_, .ok (.confirmed _)) => note.found lockup
  | _, _ => note

/-- The notes and licences of a collecting worker. -/
def collectDiscipline : Discipline OnchainOp.Ans where
  Note := CollectNote
  fresh := .fresh
  may := may
  learn := learn

variable {hash : String → String} {note : CollectNote}

/-- No answer takes anything back. -/
theorem extends_learn (note : CollectNote) (op : OnchainOp) (answer : op.Ans) :
    Extends note (learn note op answer) := by
  cases op with
  | get => exact extends_read note _ _ _
  | boundedInputs outputs => exact extends_select note _ _
  | claim outputs =>
    rcases answer with fault | txid
    · exact ⟨fun _ h => h, fun _ h => h, id⟩
    · exact ⟨fun _ h => h, fun _ h => h, id⟩
  | finalizePendingClaim =>
    rcases answer with fault | _ | txid
    · exact .refl note
    · exact .refl note
    · exact extends_finalize note
  | findClaimPreimage outpoint =>
    rcases answer with fault | _ | preimage
    · exact .refl note
    · exact .refl note
    · exact extends_found note outpoint
  | claimUnrolled lockup record =>
    rcases answer with ⟨saved, fault | step⟩
    · exact .refl note
    · cases step with
      | confirmed record => exact extends_found note lockup
      | waiting => exact .refl note
      | spent => exact .refl note
      | closed reason => exact .refl note
      | pending record => exact .refl note
  | _ => exact .refl note

/-- Only the writes out of `claiming` matter. -/
theorem freeOps : FreeOps collectDiscipline fun source => decide (source = .claiming) where
  get := Discipline.free_issue fun _ => trivial
  claimFundLease := Discipline.free_issue fun _ => trivial
  releaseFundLease := Discipline.free_issue fun _ => trivial
  findRefundable _ := Discipline.free_issue fun _ => trivial
  findReleasable _ := Discipline.free_issue fun _ => trivial
  now := Discipline.free_issue fun _ => trivial
  boundedInputs _ := Discipline.free_issue fun _ => trivial
  read _ := Discipline.free_issue fun _ => trivial
  findSpendWitness _ _ := Discipline.free_issue fun _ => trivial
  transactionOutcome _ := Discipline.free_issue fun _ => trivial
  signFunding _ _ _ := Discipline.free_issue fun _ => trivial
  update source target columns unrecorded hs he hc := Discipline.free_issue fun _ => by
    have hsource : source ≠ .claiming := of_decide_eq_false hs
    refine ⟨he, hc, fun ht => absurd ?_ hsource⟩
    subst ht
    revert he
    cases source <;> decide
  patch columns hc := Discipline.free_issue fun _ column hm => by
    have ho := hc column hm
    cases column with
    | lockupOutpoints adopted => cases ho
    | unrolledClaim steps => cases ho
    | _ => exact ⟨rfl, nofun⟩

/-! ## The condition on a run -/

/-- Every adopted output not yet collected is one that a claim of the row, finalized
now, was submitted for; and the set recomputed after a claim is within what the
claim took. -/
def countsSoundly (worker : ℕ) (reply : OnchainReply) (world : OnchainWorld) : OnchainOp → Bool
  | .finalizePendingClaim =>
    match reply.finalized with
    | .ok (some (_, spent)) =>
      coveredBy world.collected world.claims spent (world.row.lockupOutpoints.getD [])
    | _ => true
  | .boundedInputs outputs =>
    match world.lastClaim worker with
    | some claim => decide (claim.offered ≠ outputs) ||
        (boundedSpendInputs outputs world.clock).all fun output => decide (output ∈ claim.taken)
    | none => true
  | _ => true

/-- The condition on a run. -/
def soundCounts (wallet : WalletCaps) (hash : String → String) :
    Condition (onchainMachine wallet hash) :=
  fun worker op reply world => countsSoundly worker reply world op = true

instance (wallet : WalletCaps) (hash : String → String) (worker : ℕ)
    (op : (onchainMachine wallet hash).Op) (reply : (onchainMachine wallet hash).Reply)
    (world : (onchainMachine wallet hash).World) :
    Decidable (soundCounts wallet hash worker op reply world) :=
  inferInstanceAs (Decidable (countsSoundly worker reply world op = true))

/-! ## Everything but the claiming step -/

/-- Parking a claiming row closes nothing. -/
theorem free_fail (reason : String) : collectDiscipline.Free (fail .claiming reason) := by
  have ht : collectDiscipline.Free (transition .claiming .stuck [.failureReason reason]) := by
    intro note
    apply obeys_transition_checked onchainShape
    intro he hk
    exact ⟨⟨he, fun column hm => ⟨hk column hm, by rw [List.mem_singleton.mp hm]; rfl⟩, nofun⟩,
      fun _ => trivial⟩
  exact ht.bind fun _ => Discipline.free_ret _

/-- A claiming row may always fail. -/
theorem free_failStep (reason : String) :
    collectDiscipline.Free (failStep .claiming reason) :=
  (free_fail reason).bind fun _ => Discipline.free_ret _

/-- A version of the refund is no business of the claim. -/
theorem free_sendHtlcRefund (row : OnchainSendSwapRow) (htlc : Outpoint) (feeRate : ℚ) (fee : ℤ) :
    collectDiscipline.Free (sendHtlcRefund row htlc feeRate fee) := by
  have hsign : collectDiscipline.Free (issue (.signRefund htlc.txid htlc.vout
      (row.payoutSats - fee))) := Discipline.free_issue fun _ => trivial
  refine hsign.bind fun answer => (Discipline.free_ofExcept _).bind fun txid =>
    freeOps.now.bind fun now => ?_
  have hp :
      collectDiscipline.Free (issue (.patch (refundVersionColumns row txid feeRate now))) := by
    refine Discipline.free_issue fun _ column hm => ?_
    simp only [refundVersionColumns, List.mem_cons, List.not_mem_nil, or_false] at hm
    rcases hm with rfl | rfl | rfl | rfl
    · exact ⟨rfl, nofun⟩
    · exact ⟨rfl, nofun⟩
    · exact ⟨rfl, nofun⟩
    · exact ⟨rfl, nofun⟩
  have hpatch : collectDiscipline.Free (patch (refundVersionColumns row txid feeRate now)) :=
    (Discipline.free_ofExcept _).bind fun _ => hp.bind fun _ => Discipline.free_ofExcept _
  have hsend : collectDiscipline.Free (issue (.broadcastRefund txid)) :=
    Discipline.free_issue fun _ => trivial
  exact hpatch.bind fun _ => hsend.bind fun _ =>
    (Discipline.free_ofExcept _).bind fun _ => Discipline.free_ret _

/-- A refunding row asks nothing the collection minds. -/
theorem free_whenRefundingOnchain (deps : OnchainDeps hash) (row : OnchainSendSwapRow) :
    collectDiscipline.Free (whenRefundingOnchain deps row) := by
  have hany : ∀ (note : CollectNote) (op : OnchainOp) (answer : op.Ans), True → True :=
    fun _ _ _ h => h
  have hleave : ∀ target columns,
      (∀ column ∈ columns, benign .refundingOnchain target column = true) →
      collectDiscipline.Free (transition .refundingOnchain target columns) :=
    fun target columns hc => freeOps.transition rfl hc
  intro note
  refine freeOps.whenRefundingOnchain (freeOps.now.steady hany)
    (fun question => (freeOps.read question).steady hany)
    (fun htlc feeRate fee note _ => free_sendHtlcRefund row htlc feeRate fee note)
    (fun txid vout => (freeOps.findSpendWitness txid vout).steady hany)
    (fun txid _ note _ => ?_) (fun target _ columns => hleave target columns) deps trivial
  apply (freeOps.outcome txid note).mono
  exact fun _ told _ => ⟨trivial, fun _ => hleave .refunded _ (by simp [benign]) told⟩

/-! ## The claiming step -/

/-- An output the notes know collected. -/
def Known (note : collectDiscipline.Note) (outpoint : Outpoint) : Prop :=
  outpoint ∈ CollectNote.collected note

/-- The on-chain port keeps what it promises about its answers. -/
theorem collectingPort (wallet : WalletCaps) :
    CollectingPort collectDiscipline (claimPort wallet) Known where
  keeps outpoint note op answer hk := (extends_learn note op answer).collected hk
  findLockupOutpoints read hr := by
    unfold claimPort at hr
    dsimp only at hr
    split at hr
    · cases hr
      exact freeOps.ask .findLockupOutpoints
    · cases hr
  claimUnrolled claim hc key record note := by
    unfold claimPort at hc
    dsimp only at hc
    split at hc
    · cases hc
      refine ⟨trivial, fun answer => ?_⟩
      intro confirmed ha
      obtain ⟨saved, outcome⟩ := answer
      have ha : outcome = .ok (.confirmed confirmed) := ha
      subst ha
      exact List.mem_cons_self
    · cases hc
  findClaimPreimage find hf outpoint note := by
    unfold claimPort at hf
    dsimp only at hf
    split at hf
    · cases hf
      refine Discipline.obeys_issue_bind.mpr ⟨trivial, fun answer => ?_⟩
      rcases answer with fault | _ | preimage
      · trivial
      · intro hs
        cases hs
      · exact fun _ => List.mem_cons_self
    · cases hf
  patchUnrolled steps note hr := by
    refine ⟨fun column hm => ?_, fun _ => trivial⟩
    rw [List.mem_singleton.mp hm]
    refine ⟨rfl, fun other hs outpoint ho => ?_⟩
    cases hs
    obtain ⟨record, hstep⟩ := mem_confirmedKeys.mp ho
    exact hr outpoint record hstep
  patchClaimTxid txid := freeOps.patch_ordinary (by simp [ordinary])
  fail := free_fail

/-- What the notes know of the row stays known through a program. -/
theorem keeps_extends {α : Type} {program : Prog α} {post : α → CollectNote → Prop}
    (h : collectDiscipline.Obeys note program post) :
    collectDiscipline.Obeys note program fun value after =>
      post value after ∧ Extends note after :=
  h.persist (fun before op answer (he : Extends note before) =>
    he.trans (extends_learn before op answer)) (Extends.refl note)

/-- A licensed close. -/
theorem obeys_close {columns : List OnchainColumn} (hc : note.Closes)
    (hp : ∀ column ∈ columns, benign .claiming .claimed column = true) :
    collectDiscipline.Obeys note (transition .claiming .claimed columns) fun _ _ => True := by
  apply obeys_transition_checked onchainShape
  intro he hk
  exact ⟨⟨he, fun column hm => ⟨hk column hm, hp column hm⟩, fun _ => hc⟩, fun _ => trivial⟩

variable {row : OnchainSendSwapRow}

/-- Nothing left over of what the row adopted licenses closing it. -/
theorem obeys_leftover {wallet : WalletCaps} (hw : wallet.findLockupOutpoints = true)
    (hf : wallet.findClaimPreimage = true) {claimed : List Outpoint}
    {unrolled : Option UnrolledClaims} (hread : row.lockupOutpoints ∈ note.reads)
    (hclaimed : ∀ outpoint ∈ claimed, outpoint ∈ note.collected)
    (hclaims : ∀ pass ∈ unrolled, ∀ outpoint ∈ pass.confirmed, outpoint ∈ note.collected) :
    collectDiscipline.Obeys note
      (lockupLeftover (claimPort wallet) row.lockupOutpoints claimed unrolled)
      fun leftover after => leftover = [] → CollectNote.Closes after := by
  have hleft : collectDiscipline.Obeys note (lockupLeftover (claimPort wallet)
      row.lockupOutpoints claimed unrolled) fun leftover after =>
        leftover = [] → ∀ output ∈ row.lockupOutpoints.getD [], Known after output.outpoint :=
    obeys_lockupLeftover (collectingPort wallet) (by simp [claimPort, hf])
      (by simp [claimPort, hw]) hclaimed hclaims
  apply (keeps_extends hleft).mono
  rintro leftover after ⟨hnone, hafter⟩ he
  exact ⟨row.lockupOutpoints, hafter.reads hread, fun output ho => .inl (hnone he output ho)⟩

/-- The pending claim's exit, and the exit of a past spend of ours. -/
theorem obeys_claimShort {wallet : WalletCaps} (hw : wallet.findLockupOutpoints = true)
    (hf : wallet.findClaimPreimage = true) (held : ℤ) (hread : row.lockupOutpoints ∈ note.reads) :
    collectDiscipline.Obeys note (claimShort wallet row held) fun _ _ => True := by
  apply (keeps_extends (freeOps.ask .lockupSpendEvidence note)).bind
  rintro evidence told ⟨-, htold⟩
  have hreached : collectDiscipline.Free (spentOrReached row evidence) := by
    unfold spentOrReached
    split
    · exact Discipline.free_ret _
    · exact freeOps.now.bind fun _ => Discipline.free_ret _
  apply (keeps_extends (hreached told)).bind
  rintro reached asked ⟨-, hasked⟩
  have hread : row.lockupOutpoints ∈ asked.reads := hasked.reads (htold.reads hread)
  split
  · trivial
  · have hpending : collectDiscipline.Obeys asked (pendingClaim wallet evidence)
        fun pending after => pending.isSome = true → CollectNote.Closes after := by
      unfold pendingClaim
      split
      · refine Discipline.obeys_issue_bind.mpr ⟨trivial, fun answer => ?_⟩
        rcases answer with fault | _ | txid
        · trivial
        · intro hs
          cases hs
        · intro _
          have hne : asked.reads ≠ [] := List.ne_nil_of_mem hread
          have hlearn : learn asked .finalizePendingClaim (.ok (some txid)) =
              { asked with finalized := true } := if_neg hne
          show CollectNote.Closes (learn asked .finalizePendingClaim (.ok (some txid)))
          rw [hlearn]
          exact ⟨row.lockupOutpoints, hread, fun output _ => .inr rfl⟩
      · intro hs
        cases hs
    apply (keeps_extends hpending).bind
    rintro pending after ⟨hcloses, hafter⟩
    cases ht : truthy pending with
    | some txid =>
      have hs : pending.isSome = true := by
        cases pending with
        | none => cases ht
        | some txid => rfl
      exact obeys_close (hcloses hs) (by simp [benign])
    | none =>
      have hamong : ∀ outpoints,
          collectDiscipline.Free (issue (.findClaimPreimageAmong outpoints)) :=
        fun _ => Discipline.free_issue fun _ => trivial
      have hours := freeOps.spentByOurClaim hamong wallet
      apply (keeps_extends (hours after)).bind
      rintro ours found ⟨-, hfound⟩
      split
      · have hread : row.lockupOutpoints ∈ found.reads := hfound.reads (hafter.reads hread)
        apply (obeys_leftover hw hf hread (by simp) (by simp)).bind
        intro leftover last hlast
        split
        · next he => exact obeys_close (hlast (List.isEmpty_iff.mp he)) (by simp [benign])
        · exact free_failStep _ last
      · exact free_failStep _ found

/-- Closing after the leftover check. -/
theorem obeys_finishClaim (wallet : WalletCaps) (deps : OnchainDeps hash) (txid : Option String)
    (unrolled : Option UnrolledClaims)
    (hc : unrolled.all UnrolledClaims.settled = true → note.Closes) :
    collectDiscipline.Obeys note (finishClaim wallet deps row txid unrolled) fun _ _ => True := by
  cases unrolled with
  | none => exact (obeys_close (hc rfl) (by simp [benign])).bind fun _ _ _ => trivial
  | some claims =>
    have hrecord : collectDiscipline.Free (recordClaimTxid txid) := by
      unfold recordClaimTxid
      split
      · exact freeOps.patch_ordinary (by simp [ordinary])
      · exact Discipline.free_ret _
    apply (keeps_extends (hrecord note)).bind
    rintro _ after ⟨-, hafter⟩
    apply obeys_settleUnrolledClaims (collectingPort wallet)
    intro hs
    exact obeys_close (hafter.closes (hc hs)) (by simp)

/-- The leftover check licenses closing. -/
theorem obeys_collectClaim {wallet : WalletCaps} (hw : wallet.findLockupOutpoints = true)
    (hf : wallet.findClaimPreimage = true) (deps : OnchainDeps hash) {outputs : List FundedOutput}
    {txid : Option String} {unrolled : Option UnrolledClaims}
    (hread : row.lockupOutpoints ∈ note.reads)
    (hoffer : txid.isSome = true → note.offered = some outputs)
    (hclaims : ∀ pass ∈ unrolled, ∀ outpoint ∈ pass.confirmed, outpoint ∈ note.collected) :
    collectDiscipline.Obeys note (collectClaim wallet deps row outputs txid unrolled)
      fun _ _ => True := by
  unfold collectClaim
  split
  · have hnow : collectDiscipline.Obeys note (claimedNow outputs txid) fun claimed after =>
        ∀ outpoint ∈ claimed, outpoint ∈ CollectNote.collected after := by
      cases txid with
      | none => exact nofun
      | some txid =>
        refine Discipline.obeys_issue_bind.mpr ⟨trivial, fun inputs => ?_⟩
        intro outpoint ho
        have hlearn : learn note (.boundedInputs outputs) inputs =
            { note with collected := inputs.map FundedOutput.outpoint ++ note.collected } :=
          if_pos (hoffer rfl)
        show outpoint ∈ (learn note (.boundedInputs outputs) inputs).collected
        rw [hlearn]
        exact List.mem_append_left _ ho
    apply (keeps_extends hnow).bind
    rintro claimed told ⟨hclaimed, htold⟩
    apply (obeys_leftover hw hf (htold.reads hread) hclaimed
      fun pass hp outpoint ho => htold.collected (hclaims pass hp outpoint ho)).bind
    intro leftover after hcloses
    split
    · next he =>
      have hc := hcloses (List.isEmpty_iff.mp he)
      exact obeys_finishClaim wallet deps txid unrolled fun _ => hc
    · apply (freeOps.now after).bind
      intro now reached _
      exact CollectedLockup.free_awaitLeftover (collectingPort wallet) _ _ _ _ _ reached
  · next hs =>
    apply obeys_finishClaim
    intro hall
    exact absurd hall hs

/-- A claiming row collects within the discipline from the row just read. -/
theorem obeys_whenClaiming {wallet : WalletCaps} (hw : wallet.findLockupOutpoints = true)
    (hf : wallet.findClaimPreimage = true) (deps : OnchainDeps hash)
    (hread : row.lockupOutpoints ∈ note.reads)
    (hsteps : ∀ outpoint ∈ confirmedKeys (row.unrolledClaim.getD []),
      outpoint ∈ note.collected) :
    collectDiscipline.Obeys note (whenClaiming wallet deps row) fun _ _ => True := by
  unfold whenClaiming
  cases truthy row.preimage with
  | none => exact free_failStep _ note
  | some preimage =>
    apply (keeps_extends (freeOps.ask .findLockups note)).bind
    rintro lockups told ⟨-, htold⟩
    have hrecorded : Recorded Known told (row.unrolledClaim.getD []) := by
      intro key record hs
      exact htold.collected (hsteps key (mem_confirmedKeys.mpr ⟨record, hs⟩))
    apply (keeps_extends (obeys_advanceUnrolledClaims (collectingPort wallet) hrecorded)).bind
    rintro unrolled after ⟨hclaims, hafter⟩
    have hread : row.lockupOutpoints ∈ after.reads := hafter.reads (htold.reads hread)
    dsimp only
    split
    · exact obeys_claimShort hw hf _ hread
    · unfold claimHeld
      split
      · exact obeys_collectClaim hw hf deps hread nofun hclaims
      · refine Discipline.obeys_issue_bind.mpr ⟨trivial, fun answer => ?_⟩
        rcases answer with fault | txid
        · apply (freeOps.now _).bind
          intro now asked _
          split
          · exact free_failStep _ asked
          · trivial
        · apply obeys_collectClaim hw hf deps
          · exact hread
          · exact fun _ => rfl
          · exact hclaims

/-- Each step, right after the row was read. -/
theorem obeys_step {wallet : WalletCaps} (hw : wallet.findLockupOutpoints = true)
    (hf : wallet.findClaimPreimage = true) (deps : OnchainDeps hash) (note : CollectNote)
    (row : OnchainSendSwapRow) :
    collectDiscipline.Obeys (learn note .get row) (OnchainSend.step wallet deps row)
      fun _ _ => True := by
  have hrecord : ∀ tx, collectDiscipline.Free (issue (.recordFundingTx tx)) :=
    fun _ => Discipline.free_issue fun _ => trivial
  have hbroadcast : ∀ tx, collectDiscipline.Free (issue (.broadcastFunding tx)) :=
    fun _ => Discipline.free_issue fun _ => trivial
  unfold OnchainSend.step
  split
  · exact freeOps.whenQuoted deps rfl row _
  · exact freeOps.whenFunded rfl
      (fun row _ => freeOps.submits rfl hrecord hbroadcast deps row true _) _
  · exact freeOps.whenFundingOnchain rfl hrecord hbroadcast deps row _
  · exact freeOps.whenAwaitingClaim hash rfl row _
  · next hs =>
    have hread : row.lockupOutpoints ∈ (learn note .get row).reads := by
      simp [learn, CollectNote.read, hs]
    exact obeys_whenClaiming hw hf deps hread fun outpoint ho => List.mem_append_left _ ho
  · exact free_whenRefundingOnchain deps row _
  · trivial

/-- Every job obeys. -/
theorem obeys_job {wallet : WalletCaps} (hw : wallet.findLockupOutpoints = true)
    (hf : wallet.findClaimPreimage = true) (job : OnchainJob hash) :
    collectDiscipline.Free (job.program wallet) := by
  have hslot : ∀ process, collectDiscipline.Free (issue (.freeSlot process)) :=
    fun _ => Discipline.free_issue fun _ => trivial
  have htake : ∀ process read, collectDiscipline.Free (issue (.takeSlot process read)) :=
    fun _ _ => Discipline.free_issue fun _ => trivial
  cases job with
  | tick deps rounds => exact freeOps.tick hslot htake (obeys_step hw hf deps) rounds
  | refundSweep => exact freeOps.refundSweep (fun _ => Discipline.free_issue fun _ => trivial) hash
  | reclaimOnchainHtlc deps =>
    exact @FreeOps.reclaimOnchainHtlc _ _ _ freeOps hslot htake deps (fun _ _ => True)
      (fun _ _ => trivial) (fun _ _ _ _ h => h)
      fun row htlc feeRate fee note _ => free_sendHtlcRefund row htlc feeRate fee note

/-! ## The invariant -/

/-- What collecting is judged by in a world. -/
def view (world : OnchainWorld) : CollectView where
  quoted := decide (world.row.state = .quoted)
  claimed := decide (world.row.state = .claimed)
  adopted := world.row.lockupOutpoints
  steps := world.row.unrolledClaim.getD []
  collected := world.collected
  lastClaim := world.lastClaim

variable {world after : OnchainWorld} {notes : ℕ → CollectNote} {worker : ℕ} {op : OnchainOp}
  {reply : OnchainReply} {answer : op.Ans}

/-- A column that adopts nothing keeps what was adopted. -/
theorem assign_lockupOutpoints {column : OnchainColumn} (hc : adopts column = false)
    (row : OnchainSendSwapRow) :
    (onchainShape.assign column row).lockupOutpoints = row.lockupOutpoints := by
  cases column with
  | lockupOutpoints adopted => cases hc
  | _ => rfl

/-- No transition may set the recorded steps. -/
theorem assign_unrolledClaim {column : OnchainColumn} (hc : column.inTransition = true)
    (row : OnchainSendSwapRow) :
    (onchainShape.assign column row).unrolledClaim = row.unrolledClaim := by
  cases column with
  | unrolledClaim steps => cases hc
  | _ => rfl

/-- A transition that wins. -/
theorem collecting_update (h : Collecting (view world) notes) {source target : OnchainSendSwapState}
    {columns : List OnchainColumn} {unrecorded won : Bool}
    (hm : may (notes worker) (.update source target columns unrecorded))
    (hp : perform worker (.update source target columns unrecorded) reply world =
      some (won, after)) : Collecting (view after) notes := by
  obtain ⟨hedge, hcolumns, hcloses⟩ := hm
  obtain ⟨row, hu, -, rfl⟩ | ⟨-, rfl⟩ := perform_update hp
  · obtain ⟨hsource, htarget⟩ := update_states hu
    have hsteps : row.unrolledClaim = world.row.unrolledClaim :=
      updateWhere_frame onchainShape OnchainSendSwapRow.unrolledClaim (fun _ _ _ => rfl)
        (fun column hc => assign_unrolledClaim (hcolumns column hc).1) hu
    have hview : view (world.move source target row) =
        { view world with
          quoted := decide (row.state = .quoted)
          claimed := decide (row.state = .claimed)
          adopted := row.lockupOutpoints } := by
      simp only [view, OnchainWorld.move, hsteps]
      rfl
    rw [hview]
    apply h.move
    · intro hq
      have hq : source ≠ .quoted := by
        rw [← hsource]
        exact of_decide_eq_false hq
      have hplain : ∀ column ∈ columns, adopts column = false := by
        intro column hc
        cases column with
        | lockupOutpoints adopted => exact absurd (of_decide_eq_true (hcolumns _ hc).2) hq
        | _ => rfl
      have hadopted : row.lockupOutpoints = world.row.lockupOutpoints :=
        updateWhere_frame onchainShape OnchainSendSwapRow.lockupOutpoints (fun _ _ _ => rfl)
          (fun column hc => assign_lockupOutpoints (hplain column hc)) hu
      refine ⟨decide_eq_false ?_, hadopted⟩
      rw [htarget]
      rintro rfl
      revert hedge
      cases source <;> decide
    · intro hc
      exact hcloses (htarget.symm.trans (of_decide_eq_true hc))
  · exact h

/-- A patch. -/
theorem collecting_patch (h : Collecting (view world) notes) {columns : List OnchainColumn}
    (hm : may (notes worker) (.patch columns)) {written : Except Fault Unit}
    (hp : perform worker (.patch columns) reply world = some (written, after)) :
    Collecting (view after) notes := by
  obtain ⟨fault, -, rfl⟩ | ⟨-, rfl⟩ := perform_patch hp
  · exact h
  · have hstate : (patchRow onchainShape world.clock columns world.row).state = world.row.state :=
      state_patchRow onchainShape world.clock columns world.row
    have hadopted : (patchRow onchainShape world.clock columns world.row).lockupOutpoints =
        world.row.lockupOutpoints :=
      patchRow_frame onchainShape OnchainSendSwapRow.lockupOutpoints (fun _ _ => rfl)
        (fun column hc => assign_lockupOutpoints (hm column hc).1) world.row
    have hview : view { world with row := patchRow onchainShape world.clock columns world.row } =
        { view world with steps :=
          (patchRow onchainShape world.clock columns world.row).unrolledClaim.getD [] } := by
      simp [view, hstate, hadopted]
    rw [hview]
    apply h.record
    -- Each column leaves the steps, or writes some this worker knows collected.
    have hkeeps : ∀ column ∈ columns, ∀ row : OnchainSendSwapRow,
        (∀ outpoint ∈ confirmedKeys (row.unrolledClaim.getD []), outpoint ∈ world.collected) →
        ∀ outpoint ∈ confirmedKeys ((onchainShape.assign column row).unrolledClaim.getD []),
          outpoint ∈ world.collected := by
      intro column hc row hr
      cases column with
      | unrolledClaim steps =>
        intro outpoint ho
        exact (h.knows worker).collected outpoint ((hm _ hc).2 steps rfl outpoint ho)
      | _ => exact hr
    have hall := assignAll_keeps onchainShape hkeeps
      (show ∀ outpoint ∈ confirmedKeys
        ((onchainShape.touch world.clock world.row).unrolledClaim.getD []),
        outpoint ∈ world.collected from h.recorded)
    exact hall

/-- A claim, whatever it answers. -/
theorem collecting_claim (h : Collecting (view world) notes) {outputs : List FundedOutput}
    {answer : Except Fault String}
    (hp : perform worker (.claim outputs) reply world = some (answer, after)) :
    Collecting (view after)
      (Function.update notes worker (learn (notes worker) (.claim outputs) answer)) := by
  simp only [perform] at hp
  split at hp
  · cases hp
    apply h.claim
    rintro other ⟨⟩
    rfl
  · cases hp
    split
    · exact h.claim _ _ fun _ hl => by cases hl
    · exact h.learn (h.knows worker).forgetOffer

/-- Every licensed action keeps the invariant with the notes it teaches. -/
theorem collecting_act (h : Collecting (view world) notes) (hm : may (notes worker) op)
    (hs : countsSoundly worker reply world op = true)
    (hp : perform worker op reply world = some (answer, after)) :
    Collecting (view after) (Function.update notes worker (learn (notes worker) op answer)) := by
  have hk := h.knows worker
  have hquiet : Collecting (view after) notes → learn (notes worker) op answer = notes worker →
      Collecting (view after) (Function.update notes worker (learn (notes worker) op answer)) := by
    intro ht hl
    rw [hl]
    exact ht.learn (ht.knows worker)
  cases op with
  | get =>
    cases hp
    exact h.learn (hk.read h.recorded)
  | update source target columns unrecorded => exact hquiet (collecting_update h hm hp) rfl
  | patch columns => exact hquiet (collecting_patch h hm hp) rfl
  | boundedInputs outputs =>
    cases hp
    apply h.learn
    apply hk.select
    intro taken hl output ho
    have hl : world.lastClaim worker = some ⟨outputs, taken⟩ := hl
    simp only [countsSoundly, hl] at hs
    have hall : (boundedSpendInputs outputs world.clock).all
        (fun output => decide (output ∈ taken)) = true := by simpa using hs
    exact of_decide_eq_true (List.all_eq_true.mp hall output ho)
  | claim outputs => exact collecting_claim h hp
  | finalizePendingClaim =>
    simp only [perform] at hp
    split at hp
    · next txid spent hf =>
      cases hp
      simp only [countsSoundly, hf] at hs
      exact h.finalize (mem_of_coveredBy hs)
    · cases hp
      exact hquiet h rfl
    · cases hp
      exact hquiet h rfl
  | findClaimPreimage outpoint =>
    simp only [perform] at hp
    split at hp
    · cases hp
      exact h.found outpoint
    · cases hp
      exact hquiet h rfl
    · cases hp
      exact hquiet h rfl
  | claimUnrolled lockup record =>
    simp only [perform] at hp
    split at hp
    · next confirmed hu =>
      cases hp
      have hlearn : learn (notes worker) (.claimUnrolled lockup record) reply.unrolled =
          (notes worker).found lockup := by
        rw [show reply.unrolled = (reply.unrolled.1, .ok (.confirmed confirmed)) from
          Prod.ext rfl hu]
        rfl
      rw [hlearn]
      exact h.found lockup
    · next hn =>
      cases hp
      apply hquiet h
      rcases hu : reply.unrolled with ⟨saved, fault | step⟩
      · rfl
      · cases step with
        | confirmed confirmed => exact absurd (by rw [hu]) (hn confirmed)
        | _ => rfl
  | claimFundLease =>
    obtain ⟨since, updated, rfl⟩ := perform_claimFundLease hp
    exact hquiet h rfl
  | recordFundingTx tx =>
    obtain ⟨-, rfl, rfl⟩ | ⟨rfl, rfl⟩ := perform_recordFundingTx hp
    · exact hquiet h rfl
    · exact hquiet h rfl
  | _ =>
    refine hquiet ?_ rfl
    simp only [perform] at hp
    grind [OnchainWorld.release, OnchainWorld.look, OnchainWorld.miss, OnchainWorld.fund, view,
      OnchainSendStore.releaseFundLease]

/-- A row that has just been quoted has collected nothing. -/
theorem collecting_quoted (quote : OnchainQuoteRecord) (clock : ℕ) :
    Collecting (view (quoted quote clock)) fun _ => collectDiscipline.fresh where
  knows _ := CollectedLockup.knows_fresh _ _
  recorded _ h := by cases h
  closed h := by cases h

/-- The protocol of collecting an onchain send. -/
def collectProtocol {wallet : WalletCaps} (hw : wallet.findLockupOutpoints = true)
    (hf : wallet.findClaimPreimage = true) (hash : String → String) :
    Protocol (onchainMachine wallet hash) (soundCounts wallet hash) where
  discipline := collectDiscipline
  inv world notes := Collecting (view world) notes
  forget _ _ _ h := h.learn (CollectedLockup.knows_fresh _ _)
  act _ _ _ _ _ _ _ h hm hs hp := collecting_act h hm hs hp
  stir _ _ _ _ h hs := by
    cases hs
    exact h
  jobs job := obeys_job hw hf job _

/-- A `claimed` onchain row has collected everything it adopted. -/
theorem claimed_collected {wallet : WalletCaps} (hw : wallet.findLockupOutpoints = true)
    (hf : wallet.findClaimPreimage = true) {quote : OnchainQuoteRecord} {clock : ℕ}
    {events : List (Event (onchainMachine wallet hash))}
    {final : Config (onchainMachine wallet hash)}
    (hr : run (boot (quoted quote clock)) events = some final)
    (hp : Permitted (soundCounts wallet hash) (boot (quoted quote clock)) events)
    (hc : final.world.row.state = .claimed) :
    ∀ adopted, final.world.row.lockupOutpoints = some adopted →
      ∀ output ∈ adopted, output.outpoint ∈ final.world.collected := by
  obtain ⟨notes, h⟩ := (collectProtocol hw hf hash).inv_of_run (collecting_quoted quote clock) hp hr
  intro adopted ha
  exact h.of_claimed (decide_eq_true hc) ha

end IntentSolver.OnchainSendCollection
