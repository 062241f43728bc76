import IntentSolver.EvmReceive

/-!
# Stuck over an unpaid claim

The row names one claim txid and its outcome decides. A worker that dies between the
broadcast and the patch leaves a claim the row does not name, and the next worker sends a
twin: the twin reverts once the first claim has paid, and the row is filed as unpaid. The
send corridor's planner has a rule against this reading, the receive corridor's has none.
As long as no second claim goes out, a revert does mean that nothing was paid.
-/

namespace IntentSolver.EvmReceiveClaims

open EvmPort EvmReceivePlan EvmReceive WorkerProgram WorkerInterleaving

/-- The row is filed as an unpaid claim. -/
def FiledUnpaid (row : EvmReceiveSwapRow) : Prop :=
  row.state = .stuck ∧ row.failureReason = some CLAIM_REVERTED

/-- One of the claims was mined and reverted. -/
def SawRevert (claims : List ClaimTx) : Prop := ∃ claim ∈ claims, claim.outcome = .reverted

/-- The node never took the transaction. -/
def neverSent : SubmitReply → Bool
  | .failed _ => true
  | _ => false

/-- A claim goes out only as the first of its row. -/
def opensClaims (claims : List ClaimTx) (reply : EvmReceiveReply) : EvmReceiveOp → Bool
  | .broadcastClaim _ => neverSent reply.submit || claims.isEmpty
  | _ => true

/-- No claim of the row goes out after another. -/
def firstClaim : Condition evmReceiveMachine :=
  fun _ op reply world => opensClaims world.claims reply op = true

instance (worker : ℕ) (op : evmReceiveMachine.Op) (reply : evmReceiveMachine.Reply)
    (world : evmReceiveMachine.World) : Decidable (firstClaim worker op reply world) :=
  inferInstanceAs (Decidable (opensClaims world.claims reply op = true))

/-- The columns file the row for a reason, and as unpaid only after a revert was seen. -/
def files (sawRevert : Bool) (columns : List EvmReceiveColumn) : Prop :=
  ∃ reason, columns = [.failureReason reason] ∧ (reason = CLAIM_REVERTED → sawRevert = true)

/-- File as unpaid only after reading a reverted receipt; the note is that a revert was
read. -/
def claimDiscipline : Discipline EvmReceiveOp.Ans where
  Note := Bool
  fresh := false
  may
    | note, .update _ target columns => target = .stuck → files note columns
    | _, .patch columns => ∀ reason, .failureReason reason ∉ columns
    | _, _ => True
  learn
    | _, .transactionOutcome _, .ok .reverted => true
    | note, _, _ => note

/-! ## What one action does -/

/-- At most one claim is out, and whoever read or filed a revert read it off that claim. -/
structure Inv (world : EvmReceiveWorld) (notes : ℕ → Bool) : Prop where
  single : world.claims.length ≤ 1
  noted : ∀ worker, notes worker = true → SawRevert world.claims
  filed : FiledUnpaid world.row → SawRevert world.claims

/-- The only claim there is cannot have reverted and paid. -/
theorem unpaid_of_revert {claims : List ClaimTx} (hs : claims.length ≤ 1) (hr : SawRevert claims)
    (claim : ClaimTx) (hc : claim ∈ claims) : claim.outcome ≠ .success := by
  obtain ⟨reverted, hm, ho⟩ := hr
  match claims with
  | [] => cases hm
  | [only] =>
    obtain rfl := List.mem_singleton.mp hm
    obtain rfl := List.mem_singleton.mp hc
    rw [ho]
    decide
  | _ :: _ :: _ =>
    simp only [List.length_cons] at hs
    omega

/-- Mining leaves a reverted claim as it is. -/
theorem SawRevert.settle {claims : List ClaimTx} (h : SawRevert claims) (txid : String)
    (success : Bool) : SawRevert (claims.map (EvmReceive.settle txid success)) := by
  obtain ⟨claim, hc, ho⟩ := h
  refine ⟨_, List.mem_map_of_mem hc, ?_⟩
  have hkeep : EvmReceive.settle txid success claim = claim := by
    unfold EvmReceive.settle
    rw [if_neg]
    simp [ho]
  rw [hkeep]
  exact ho

/-- Writing columns that file nothing leaves the reason alone. -/
theorem failureReason_assignAll {columns : List EvmReceiveColumn}
    (h : ∀ reason, .failureReason reason ∉ columns) (row : EvmReceiveSwapRow) :
    (assignAll evmReceiveShape columns row).failureReason = row.failureReason := by
  induction columns generalizing row with
  | nil => rfl
  | cons column rest ih =>
    have hrest := ih (fun reason hm => h reason (List.mem_cons_of_mem _ hm)) (assign column row)
    cases column with
    | failureReason reason => exact absurd List.mem_cons_self (h reason)
    | _ => exact hrest

/-- A patch that files nothing files nothing new. -/
theorem filedUnpaid_of_patch {columns : List EvmReceiveColumn} {now : ℤ} {row : EvmReceiveSwapRow}
    (h : ∀ reason, .failureReason reason ∉ columns)
    (hf : FiledUnpaid (patchRow evmReceiveShape now columns row)) : FiledUnpaid row := by
  obtain ⟨hs, hr⟩ := hf
  constructor
  · exact (state_patchRow evmReceiveShape now columns row).symm.trans hs
  · exact (failureReason_assignAll h (evmReceiveShape.touch now row)).symm.trans hr

/-- A move that files the row as unpaid was made by a worker that read a revert. -/
theorem sawRevert_of_update {sawRevert : Bool} {now : ℤ} {source target : EvmReceiveSwapState}
    {columns : List EvmReceiveColumn} {row next : EvmReceiveSwapRow}
    (hm : target = .stuck → files sawRevert columns)
    (hu : updateWhere evmReceiveShape now source target columns row = some next)
    (hf : FiledUnpaid next) : sawRevert = true := by
  have htarget : next.state = target := (updateWhere_some evmReceiveShape hu).2
  obtain ⟨reason, rfl, hr⟩ := hm (htarget.symm.trans hf.1)
  apply hr
  unfold updateWhere at hu
  split at hu
  · cases hu
    exact Option.some.inj hf.2
  · cases hu

/-- A worker may note a revert that is there. -/
theorem Inv.note {world : EvmReceiveWorld} {notes : ℕ → Bool} (h : Inv world notes) {worker : ℕ}
    {note : Bool} (hn : note = true → SawRevert world.claims) :
    Inv world (Function.update notes worker note) where
  single := h.single
  noted other ho := by
    by_cases he : other = worker
    · subst he
      rw [Function.update_self] at ho
      exact hn ho
    · rw [Function.update_of_ne he] at ho
      exact h.noted other ho
  filed := h.filed

/-- A worker that learned nothing keeps its note. -/
theorem Inv.same {world : EvmReceiveWorld} {notes : ℕ → Bool} (h : Inv world notes)
    (worker : ℕ) : Inv world (Function.update notes worker (notes worker)) :=
  h.note (h.noted worker)

/-- The first claim goes out, or none does. -/
theorem Inv.first {world next : EvmReceiveWorld} {notes : ℕ → Bool} {reply : SubmitReply}
    {answer : Except EvmFault String} (h : Inv world notes)
    (he : neverSent reply = true ∨ world.claims = [])
    (hp : performClaim reply world = some (answer, next)) : Inv next notes := by
  have hsent : world.claims = [] → ∀ txid,
      Inv { world with claims := ⟨txid, .pending⟩ :: world.claims } notes := by
    intro he txid
    have hnone : ¬SawRevert world.claims := by
      rw [he]
      rintro ⟨claim, hc, -⟩
      cases hc
    refine ⟨?_, fun worker hn => absurd (h.noted worker hn) hnone,
      fun hf => absurd (h.filed hf) hnone⟩
    rw [he]
    exact Nat.le_refl 1
  unfold performClaim at hp
  split at hp
  · split at hp <;> cases hp
    exact hsent (he.resolve_left Bool.false_ne_true) _
  · split at hp <;> cases hp
    exact hsent (he.resolve_left Bool.false_ne_true) _
  · cases hp
    exact h

/-- Every action that sends no second claim keeps the invariant. -/
theorem Inv.perform {world next : EvmReceiveWorld} {notes : ℕ → Bool} {worker : ℕ}
    {op : EvmReceiveOp} {reply : EvmReceiveReply} {answer : op.Ans} (h : Inv world notes)
    (hm : claimDiscipline.may (notes worker) op) (hc : firstClaim worker op reply world)
    (hp : EvmReceive.perform worker op reply world = some (answer, next)) :
    Inv next (Function.update notes worker (claimDiscipline.learn (notes worker) op answer)) := by
  cases op with
  | update source target columns =>
    simp only [EvmReceive.perform] at hp
    split at hp
    next row hu =>
      cases hp
      have hkeep : Inv world (Function.update notes worker (notes worker)) := h.same worker
      exact ⟨hkeep.single, hkeep.noted, fun hf =>
        h.noted worker (sawRevert_of_update hm hu hf)⟩
    next =>
      cases hp
      exact h.same worker
  | patch columns =>
    cases hp
    have hkeep : Inv world (Function.update notes worker (notes worker)) := h.same worker
    exact ⟨hkeep.single, hkeep.noted, fun hf => h.filed (filedUnpaid_of_patch hm hf)⟩
  | transactionOutcome txid =>
    simp only [EvmReceive.perform] at hp
    split at hp
    next ht =>
      cases hp
      refine h.note fun hn => ?_
      match ho : reply.outcome with
      | .ok .reverted =>
        rw [ho] at ht
        exact ⟨⟨txid, .reverted⟩, of_decide_eq_true ht, rfl⟩
      | .ok .success =>
        rw [ho] at hn
        exact h.noted worker hn
      | .ok .pending =>
        rw [ho] at hn
        exact h.noted worker hn
      | .error error =>
        rw [ho] at hn
        exact h.noted worker hn
    next => cases hp
  | broadcastClaim preimage =>
    have hopen := (Bool.or_eq_true_iff.mp hc).imp_right List.isEmpty_iff.mp
    have hn : Inv next notes := h.first hopen hp
    exact hn.same worker
  | fund address sats =>
    simp only [EvmReceive.perform, performFund, Option.some.injEq] at hp
    split at hp <;> cases hp
    · exact ⟨h.single, (h.same worker).noted, h.filed⟩
    · exact ⟨h.single, (h.same worker).noted, h.filed⟩
    · exact h.same worker
  | get =>
    cases hp
    exact h.same worker
  | now =>
    cases hp
    exact h.same worker
  | read question =>
    cases hp
    exact h.same worker
  | refundArkade =>
    cases hp
    exact h.same worker

/-- Time and the miners keep the invariant. -/
theorem Inv.stir {world next : EvmReceiveWorld} {notes : ℕ → Bool} {move : EvmReceiveMove}
    (h : Inv world notes) (hs : EvmReceive.stir move world = some next) : Inv next notes := by
  cases move with
  | wait seconds =>
    cases hs
    exact ⟨h.single, h.noted, h.filed⟩
  | mine txid success =>
    simp only [EvmReceive.stir] at hs
    split at hs
    · cases hs
    · cases hs
      refine ⟨?_, fun worker hn => (h.noted worker hn).settle txid success,
        fun hf => (h.filed hf).settle txid success⟩
      rw [List.length_map]
      exact h.single

/-! ## The code keeps the discipline -/

/-- An action that neither writes the row nor hears of a claim teaches nothing about it. -/
theorem idle_issue {op : EvmReceiveOp}
    (hu : ∀ source target columns, op ≠ .update source target columns)
    (hp : ∀ columns, op ≠ .patch columns) (ho : ∀ txid, op ≠ .transactionOutcome txid) :
    claimDiscipline.Idle (issue op) := by
  refine Discipline.idle_issue fun note => ?_
  cases op with
  | update source target columns => exact absurd rfl (hu source target columns)
  | patch columns => exact absurd rfl (hp columns)
  | transactionOutcome txid => exact absurd rfl (ho txid)
  | _ => exact ⟨trivial, fun _ => rfl⟩

/-- A question teaches nothing about the claim. -/
theorem idle_ask (question : EvmReceiveQuestion) : claimDiscipline.Idle (ask question) :=
  (idle_issue (by simp) (by simp) (by simp)).bind Discipline.idle_ofExcept

/-- A patch that gives no failure reason teaches nothing about the claim. -/
theorem idle_patch {columns : List EvmReceiveColumn}
    (h : ∀ reason, .failureReason reason ∉ columns) : claimDiscipline.Idle (patch columns) :=
  Discipline.idle_issue fun _ => ⟨h, fun _ => rfl⟩

/-- A transition other than to `stuck` teaches nothing about the claim. -/
theorem idle_transition {id : String} {source target : EvmReceiveSwapState}
    {columns : List EvmReceiveColumn} (h : target ≠ .stuck) :
    claimDiscipline.Idle (transition id source target columns) := by
  have hmove : claimDiscipline.Idle (issue (.update source target columns)) :=
    Discipline.idle_issue fun _ => ⟨fun ht => absurd ht h, fun _ => rfl⟩
  refine hmove.bind fun won => ?_
  split <;> trivial

/-- An outcome that reads as reverted was read off a receipt. -/
theorem obeys_claimOutcome (note : Bool) (row : EvmReceiveSwapRow) :
    claimDiscipline.Obeys note (claimOutcome row) fun outcome after =>
      outcome = .reverted → after = true := by
  unfold claimOutcome
  split
  · intro h
    cases h
  · refine ⟨trivial, fun answer => ?_⟩
    match answer with
    | .ok .reverted => exact fun _ => rfl
    | .ok .success => exact fun h => by cases h
    | .ok .pending => exact fun h => by cases h
    | .error error => exact fun h => by cases h

/-- Reading the preimage teaches nothing about the claim. -/
theorem idle_readPreimage (row : EvmReceiveSwapRow) (funded : Bool) :
    claimDiscipline.Idle (readPreimage row funded) := by
  unfold readPreimage
  split
  · trivial
  · split
    · exact idle_ask _
    · trivial

/-- An observation of a reverted claim rests on a receipt. -/
theorem obeys_observe (note : Bool) (row : EvmReceiveSwapRow) :
    claimDiscipline.Obeys note (observe row) fun seen after =>
      seen.evmClaimOutcome = .reverted → after = true := by
  refine (idle_ask _).quiet.obeys_bind fun present => (idle_ask _).quiet.obeys_bind fun funded =>
    (idle_ask _).quiet.obeys_bind fun height => (idle_ask _).quiet.obeys_bind fun clock =>
    (obeys_claimOutcome note row).bind fun outcome after ha => ?_
  refine (idle_readPreimage row funded).quiet.obeys_bind fun preimage =>
    (idle_issue (by simp) (by simp) (by simp)).quiet.obeys_bind fun now =>
    (idle_provenDepth (fun _ => idle_ask _) (fun _ => idle_ask _) _ _ _ _).quiet.obeys_bind
      fun depth =>
    (idle_issue (by simp) (by simp) (by simp)).quiet.obeys_bind fun now => ?_
  exact ha

/-- Funding the lockup teaches nothing about the claim. -/
theorem idle_fundArkade (row : EvmReceiveSwapRow) :
    claimDiscipline.Idle (EvmReceive.fundArkade row) := by
  refine (idle_ask _).bind fun height => ?_
  split
  · exact (idle_transition (by simp)).bind fun _ => trivial
  · exact (idle_transition (by simp)).bind fun _ =>
      (idle_issue (by simp) (by simp) (by simp)).bind fun current =>
      (idle_issue (by simp) (by simp) (by simp)).bind fun answer =>
      (Discipline.idle_ofExcept answer).bind fun txid =>
      (idle_patch (by simp)).bind fun _ => trivial

/-- Sending the claim teaches nothing about its outcome. -/
theorem idle_claimEvm (row : EvmReceiveSwapRow) (preimage : String) :
    claimDiscipline.Idle (EvmReceive.claimEvm row preimage) := by
  have hrest : claimDiscipline.Idle (do
      let _ ← issue .get
      let txid ← Program.ofExcept (← issue (.broadcastClaim preimage))
      patch [.evmClaimTxid txid]
      return false) :=
    (idle_issue (by simp) (by simp) (by simp)).bind fun _ =>
      (idle_issue (by simp) (by simp) (by simp)).bind fun answer =>
      (Discipline.idle_ofExcept answer).bind fun txid =>
      (idle_patch (by simp)).bind fun _ => trivial
  unfold EvmReceive.claimEvm
  dsimp only
  split
  · exact (idle_transition (by simp)).bind fun _ => hrest
  · exact hrest

/-- Refunding the lockup teaches nothing about the claim. -/
theorem idle_refundArkade (row : EvmReceiveSwapRow) :
    claimDiscipline.Idle (EvmReceive.refundArkade row) := by
  have hrest : claimDiscipline.Idle (do
      let current ← issue .get
      if (← ask .findLockups) = 0 then
        throw (.error ("no spendable output at the lockup for " ++ current.id ++
          " - nothing to refund"))
      let txid ← Program.ofExcept (← issue .refundArkade)
      transition row.id .refundingArkade .refunded [.refundArkTxid txid]
      return false) := by
    refine (idle_issue (by simp) (by simp) (by simp)).bind fun current =>
      (idle_ask _).bind fun outputs => ?_
    dsimp only
    split
    · trivial
    · exact (idle_issue (by simp) (by simp) (by simp)).bind fun answer =>
        (Discipline.idle_ofExcept answer).bind fun txid =>
        (idle_transition (by simp)).bind fun _ => trivial
  unfold EvmReceive.refundArkade
  dsimp only
  split
  · exact (idle_transition (by simp)).bind fun _ => hrest
  · exact hrest

/-- Filing needs a revert only for the one reason that speaks of it. -/
theorem obeys_fail {note : Bool} {id reason : String} {source : EvmReceiveSwapState}
    (h : reason = CLAIM_REVERTED → note = true) :
    claimDiscipline.Obeys note (fail id source reason) fun _ _ => True := by
  refine Discipline.obeys_issue_bind.mpr ⟨fun _ => ⟨reason, rfl, h⟩, fun won => ?_⟩
  cases won <;> trivial

/-- A move that files nothing and ends the step. -/
theorem free_transition {id : String} {source target : EvmReceiveSwapState}
    {columns : List EvmReceiveColumn} (h : target ≠ .stuck) (again : Bool) :
    claimDiscipline.Free ((transition id source target columns).bind fun _ => .ret again) := by
  refine Discipline.Quiet.free (Discipline.Idle.quiet ?_)
  exact (idle_transition h).bind fun _ => trivial

/-- One step of a row is licensed from any notes. -/
theorem free_step (row : EvmReceiveSwapRow) : claimDiscipline.Free (EvmReceive.step row) := by
  intro note
  refine (obeys_observe note row).bind fun seen after ha => ?_
  have hp := planEvmReceive_presupposes row.plan seen
  split
  · trivial
  · exact free_transition (by simp) _ after
  next reason ho =>
    rw [ho] at hp
    have hfile : reason = CLAIM_REVERTED → after = true := fun hr => ha (hp.2 hr).2
    exact (obeys_fail hfile).bind fun _ _ _ => trivial
  · exact (idle_fundArkade row).quiet.free after
  · exact free_transition (by simp) _ after
  · exact (idle_claimEvm row _).quiet.free after
  · exact free_transition (by simp) _ after
  · exact (idle_refundArkade row).quiet.free after

/-- A tick is licensed from any notes. -/
theorem free_tick (rounds : ℕ) : claimDiscipline.Free (EvmReceive.tick rounds) := by
  induction rounds with
  | zero => exact Discipline.free_ret _
  | succ rounds ih =>
    intro note
    refine (idle_issue (by simp) (by simp) (by simp)).quiet.obeys_bind fun row =>
      (free_step row note).bind fun again after _ => ?_
    split
    · exact ih after
    · trivial

/-- Every schedule of ticks that sends no second claim keeps the invariant. -/
def claimProtocol : Protocol evmReceiveMachine firstClaim where
  discipline := claimDiscipline
  inv := Inv
  forget _ _ _ h := h.note (by simp [claimDiscipline])
  act _ _ _ _ _ _ _ h hm hc hp := h.perform hm hc hp
  stir _ _ _ _ h hs := h.stir hs
  jobs rounds := free_tick rounds _

/-! ## Stuck means unpaid -/

/-- A row that ends stuck over a reverted claim was not paid by any claim the solver sent,
as long as no claim followed another. -/
theorem stuck_claim_is_unpaid (row : EvmReceiveSwapRow) (clock : ℕ)
    (events : List (Event evmReceiveMachine)) (final : Config evmReceiveMachine)
    (hr : run (boot (quoted row clock)) events = some final)
    (hp : Permitted firstClaim (boot (quoted row clock)) events)
    (hf : FiledUnpaid final.world.row) :
    ∀ claim ∈ final.world.claims, claim.outcome ≠ .success := by
  have hstart : Inv (quoted row clock) fun _ => false := by
    refine ⟨Nat.zero_le 1, fun _ hn => absurd hn Bool.false_ne_true, fun hf => ?_⟩
    cases hf.1
  obtain ⟨notes, hi⟩ := claimProtocol.inv_of_run hstart hp hr
  exact unpaid_of_revert hi.single (hi.filed hf)

/-- A receive row with an hour left on its quote. -/
def sampleRow : EvmReceiveSwapRow :=
  { id := "swap", state := .quoted, updatedAt := 0, payoutSats := 40000, lockupAddress := "ark1",
    evmTimeout := 5000, validUntil := 3600, minConfirmations := 3, minAgeSeconds := 60,
    refundLocktime := 90000 }

/-- The client's lock is deep and old enough, and the funding goes out. -/
def lockedReply : EvmReceiveReply :=
  { isLocked := .ok true, isLockedAt := .ok true, blockTimestampAt := .ok 10,
    blockHeight := .ok 100, timelockHeight := .ok 100, submit := .sent "arktx" }

/-- The client has claimed the lockup, and a claim of the ERC20 goes out as this txid. -/
def revealedReply (txid : String) : EvmReceiveReply :=
  { arkadeLockupFunded := .ok true, arkadePreimage := .ok (some "preimage"),
    timelockHeight := .ok 100, submit := .sent txid }

/-- The receipt of the recorded claim says reverted. -/
def revertedReply : EvmReceiveReply :=
  { arkadeLockupFunded := .ok true, timelockHeight := .ok 100, outcome := .ok .reverted }

/-- One worker funds, claims, records its claim and reads the revert. -/
def revertedRun : List (Event evmReceiveMachine) :=
  .start 0 (show ℕ from 1) :: List.append (List.replicate 14 (.act 0 lockedReply))
    (.start 0 (show ℕ from 1) :: List.append (List.replicate 12 (.act 0 (revealedReply "0xa")))
      (.stir (.mine "0xa" false) ::
        .start 0 (show ℕ from 1) :: List.replicate 9 (.act 0 revertedReply)))

/-- A row stuck over its only claim. -/
theorem stuck_claim_is_unpaid_sample :
    ∃ final, run (boot (quoted sampleRow 100)) revertedRun = some final ∧
      FiledUnpaid final.world.row ∧ ∀ claim ∈ final.world.claims, claim.outcome ≠ .success := by
  obtain ⟨final, hr⟩ : ∃ final, run (boot (quoted sampleRow 100)) revertedRun = some final :=
    Option.isSome_iff_exists.mp (by decide +kernel)
  have hrow : ((run (boot (quoted sampleRow 100)) revertedRun).map fun final =>
      (final.world.row.state, final.world.row.failureReason)) =
      some (.stuck, some CLAIM_REVERTED) := by decide +kernel
  have hp : Permitted firstClaim (boot (quoted sampleRow 100)) revertedRun := by decide +kernel
  rw [hr] at hrow
  obtain ⟨hs, hc⟩ := Prod.mk.inj (Option.some.inj hrow)
  exact ⟨final, hr, ⟨hs, hc⟩, stuck_claim_is_unpaid _ _ _ final hr hp ⟨hs, hc⟩⟩

/-- One worker funds and claims and dies before its txid is written; another claims again
and records the twin, which reverts behind the claim that paid. -/
def twinRun : List (Event evmReceiveMachine) :=
  .start 0 (show ℕ from 1) :: List.append (List.replicate 14 (.act 0 lockedReply))
    (.start 0 (show ℕ from 1) :: List.append (List.replicate 11 (.act 0 (revealedReply "0xa")))
      (.crash 0 :: .start 1 (show ℕ from 1) ::
        List.append (List.replicate 10 (.act 1 (revealedReply "0xb")))
          (.stir (.mine "0xa" true) :: .stir (.mine "0xb" false) ::
            .start 1 (show ℕ from 1) :: List.replicate 9 (.act 1 revertedReply))))

/-- A crash between broadcast and patch files a paid row as unpaid. -/
theorem twin_claim_files_a_paid_row :
    ¬∀ (row : EvmReceiveSwapRow) (clock : ℕ) (events : List (Event evmReceiveMachine))
      (final : Config evmReceiveMachine), run (boot (quoted row clock)) events = some final →
      FiledUnpaid final.world.row → ∀ claim ∈ final.world.claims, claim.outcome ≠ .success := by
  intro h
  obtain ⟨final, hr⟩ : ∃ final, run (boot (quoted sampleRow 100)) twinRun = some final :=
    Option.isSome_iff_exists.mp (by decide +kernel)
  have hend : ((run (boot (quoted sampleRow 100)) twinRun).map fun final =>
      ((final.world.row.state, final.world.row.failureReason), final.world.claims)) =
      some ((.stuck, some CLAIM_REVERTED), [⟨"0xb", .reverted⟩, ⟨"0xa", .success⟩]) := by
    decide +kernel
  rw [hr] at hend
  obtain ⟨hrow, hclaims⟩ := Prod.mk.inj (Option.some.inj hend)
  obtain ⟨hs, hc⟩ := Prod.mk.inj hrow
  have hunpaid := h sampleRow 100 twinRun final hr ⟨hs, hc⟩ ⟨"0xa", .success⟩
  rw [hclaims] at hunpaid
  exact hunpaid (by simp) rfl

end IntentSolver.EvmReceiveClaims
