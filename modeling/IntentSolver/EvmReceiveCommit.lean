import IntentSolver.EvmReceive

/-!
# An EVM receive is funded once or refused, never both

The row is undecided until it leaves `quoted`. A worker submits the funding only after it
won the move into `funding_arkade`; every other move either leaves the undecided side or
stays on the far one, and no write starts from `refused`.
-/

namespace IntentSolver.EvmReceiveCommit

open EvmPort EvmReceivePlan EvmReceive WorkerProgram WorkerInterleaving SingleCommit

/-- Where a state leaves the row. -/
def phaseOf : EvmReceiveSwapState → Phase
  | .quoted => .undecided
  | .awaitingLock => .undecided
  | .locked => .undecided
  | .refused => .refused
  | _ => .underway

/-- Moves of the row any worker may attempt. -/
def mayMove (source target : EvmReceiveSwapState) : Prop :=
  (phaseOf source = .undecided ∧ phaseOf target ≠ .undecided) ∨
    (phaseOf source = .underway ∧ phaseOf target = .underway ∧ target ≠ .fundingArkade)

/-- What a won move leaves of the note. -/
def noteAfter : EvmReceiveSwapState → Note
  | .fundingArkade => ⟨true, false, false⟩
  | _ => Note.blank

/-- Win before funding. -/
def commitDiscipline : Discipline EvmReceiveOp.Ans where
  Note := Note
  fresh := Note.blank
  may
    | _, .update source target _ => mayMove source target
    | note, .fund _ _ => note.holds = true
    | _, _ => True
  learn
    | _, .update _ target _, true => noteAfter target
    | _, .fund _ _, _ => Note.blank
    | note, _, _ => note

/-- The row's part of the ledger. -/
def ledgerOf (world : EvmReceiveWorld) : Ledger := ⟨phaseOf world.row.state, world.deeds⟩

/-- What a won move does to the ledger. -/
theorem step_update {world : EvmReceiveWorld} {worker : ℕ} {note : Note}
    {source target : EvmReceiveSwapState} {row : EvmReceiveSwapRow} (hm : mayMove source target)
    (hs : world.row.state = source) (ht : row.state = target) :
    Step worker note (ledgerOf world) (noteAfter target)
      ⟨phaseOf row.state, deedOf worker target ++ world.deeds⟩ := by
  subst hs ht
  obtain ⟨hsource, htarget⟩ | ⟨hsource, hunderway, hnew⟩ := hm
  · cases hr : row.state with
    | fundingArkade => exact .win hsource rfl
    | refused => exact .refuse hsource rfl rfl
    | quoted => exact absurd (by rw [hr]; rfl) htarget
    | awaitingLock => exact absurd (by rw [hr]; rfl) htarget
    | locked => exact absurd (by rw [hr]; rfl) htarget
    | _ => exact .pass hsource rfl rfl
  · have hdeeds : deedOf worker row.state = [] ∧ noteAfter row.state = Note.blank := by
      cases hr : row.state with
      | fundingArkade => exact absurd hr hnew
      | refused =>
        rw [hr] at hunderway
        cases hunderway
      | _ => exact ⟨rfl, rfl⟩
    have hledger : (⟨phaseOf row.state, deedOf worker row.state ++ world.deeds⟩ : Ledger) =
        ledgerOf world := by
      unfold ledgerOf
      rw [hunderway, hsource, hdeeds.1, List.nil_append]
    rw [hledger, hdeeds.2]
    exact .look (Note.backed_blank _ _)

/-- What each action does to the ledger and to the worker's note. -/
theorem perform_step {world next : EvmReceiveWorld} {worker : ℕ} {note : Note}
    {op : EvmReceiveOp} {reply : EvmReceiveReply} {answer : op.Ans}
    (hm : commitDiscipline.may note op)
    (hp : perform worker op reply world = some (answer, next)) :
    Step worker note (ledgerOf world) (commitDiscipline.learn note op answer) (ledgerOf next) := by
  cases op with
  | update source target columns =>
    simp only [perform] at hp
    split at hp
    next row hu =>
      cases hp
      obtain ⟨hs, ht⟩ := updateWhere_some evmReceiveShape hu
      exact step_update hm hs ht
    next =>
      cases hp
      exact .look (Note.backed_refl _ _)
  | patch columns =>
    cases hp
    have hstate : (patchRow evmReceiveShape world.clock columns world.row).state =
        world.row.state := state_patchRow evmReceiveShape _ _ _
    unfold ledgerOf
    dsimp only
    rw [hstate]
    exact .look (Note.backed_refl _ _)
  | transactionOutcome txid =>
    simp only [perform] at hp
    split at hp
    · cases hp
      exact .look (Note.backed_refl _ _)
    · cases hp
  | broadcastClaim preimage =>
    simp only [perform, performClaim] at hp
    split at hp
    · split at hp
      · cases hp
        exact .look (Note.backed_refl _ _)
      · cases hp
    · split at hp
      · cases hp
        exact .look (Note.backed_refl _ _)
      · cases hp
    · cases hp
      exact .look (Note.backed_refl _ _)
  | fund address sats =>
    simp only [perform, performFund, Option.some.injEq] at hp
    split at hp <;> cases hp
    · exact .commit hm rfl rfl
    · exact .commit hm rfl rfl
    · exact .look (Note.backed_blank _ _)
  | get =>
    cases hp
    exact .look (Note.backed_refl _ _)
  | now =>
    cases hp
    exact .look (Note.backed_refl _ _)
  | read question =>
    cases hp
    exact .look (Note.backed_refl _ _)
  | refundArkade =>
    cases hp
    exact .look (Note.backed_refl _ _)

/-! ## The code keeps the discipline -/

/-- An action that neither moves the row nor funds teaches nothing about the commitment. -/
theorem idle_issue {op : EvmReceiveOp}
    (hu : ∀ source target columns, op ≠ .update source target columns)
    (hf : ∀ address sats, op ≠ .fund address sats) : commitDiscipline.Idle (issue op) := by
  refine Discipline.idle_issue fun note => ?_
  cases op with
  | update source target columns => exact absurd rfl (hu source target columns)
  | fund address sats => exact absurd rfl (hf address sats)
  | _ => exact ⟨trivial, fun _ => rfl⟩

/-- A question teaches nothing about the commitment. -/
theorem idle_ask (question : EvmReceiveQuestion) : commitDiscipline.Idle (ask question) :=
  (idle_issue (by simp) (by simp)).bind Discipline.idle_ofExcept

/-- Observing the row teaches nothing about the commitment. -/
theorem idle_observe (row : EvmReceiveSwapRow) : commitDiscipline.Idle (observe row) :=
  idle_observe_of idle_ask (fun _ => idle_issue (by simp) (by simp))
    (idle_issue (by simp) (by simp)) row

/-- An allowed move leaves the note of the state it won. -/
theorem obeys_transition {note : Note} {id : String} {source target : EvmReceiveSwapState}
    {columns : List EvmReceiveColumn} (hm : mayMove source target) :
    commitDiscipline.Obeys note (transition id source target columns) fun _ after =>
      after = noteAfter target := by
  refine Discipline.obeys_issue_bind.mpr ⟨hm, fun won => ?_⟩
  cases won with
  | true => rfl
  | false => trivial

/-- A move that nothing is built on. -/
theorem free_transition {α : Type} {id : String} {source target : EvmReceiveSwapState}
    {columns : List EvmReceiveColumn} (hm : mayMove source target) {rest : Prog α}
    (hr : commitDiscipline.Free rest) :
    commitDiscipline.Free ((transition id source target columns).bind fun _ => rest) :=
  fun _ => (obeys_transition hm).bind fun _ after _ => hr after

/-- An uncommitted state is undecided. -/
theorem phaseOf_uncommitted {state : EvmReceiveSwapState} (h : Uncommitted state) :
    phaseOf state = .undecided := by
  obtain rfl | rfl | rfl := h <;> rfl

/-- A live row may be moved on, except into the funding. -/
theorem mayMove_of_live {source target : EvmReceiveSwapState} (hs : source ∉ TERMINAL)
    (ht : phaseOf target = .underway) (hn : target ≠ .fundingArkade) : mayMove source target := by
  cases hp : phaseOf source with
  | undecided => exact .inl ⟨hp, by simp [ht]⟩
  | underway => exact .inr ⟨hp, ht, hn⟩
  | refused =>
    cases source with
    | refused => exact absurd (by simp [TERMINAL]) hs
    | _ => cases hp

/-- Funding is licensed from a row that is not committed. -/
theorem free_fundArkade {row : EvmReceiveSwapRow} (hu : Uncommitted row.state) :
    commitDiscipline.Free (EvmReceive.fundArkade row) := by
  have hsource := phaseOf_uncommitted hu
  intro note
  refine (idle_ask _).quiet.obeys_bind fun height => ?_
  split
  · exact free_transition (.inl ⟨hsource, by simp [phaseOf]⟩) (Discipline.free_ret _) _
  · refine (obeys_transition (.inl ⟨hsource, by simp [phaseOf]⟩)).bind fun _ won hw => ?_
    subst hw
    refine (idle_issue (by simp) (by simp)).quiet.obeys_bind fun current => ?_
    refine Discipline.obeys_issue_bind.mpr ⟨rfl, fun answer => ?_⟩
    exact (Discipline.quiet_ofExcept answer).obeys_bind fun txid =>
      (idle_issue (by simp) (by simp)).quiet.obeys_bind fun _ => trivial

/-- Claiming is licensed from every row that is not terminal. -/
theorem free_claimEvm {row : EvmReceiveSwapRow} (hs : row.state ∉ TERMINAL) (preimage : String) :
    commitDiscipline.Free (EvmReceive.claimEvm row preimage) := by
  have hrest : commitDiscipline.Free (do
      let _ ← issue .get
      let txid ← Program.ofExcept (← issue (.broadcastClaim preimage))
      patch [.evmClaimTxid txid]
      return false) := by
    refine Discipline.Quiet.free (Discipline.Idle.quiet ?_)
    refine (idle_issue (by simp) (by simp)).bind fun _ => (idle_issue (by simp) (by simp)).bind
      fun answer => (Discipline.idle_ofExcept answer).bind fun txid =>
      (idle_issue (by simp) (by simp)).bind fun _ => ?_
    trivial
  unfold EvmReceive.claimEvm
  dsimp only
  split
  · exact free_transition (mayMove_of_live hs rfl (by simp)) hrest
  · exact hrest

/-- Refunding is licensed from a committed row. -/
theorem free_refundArkade {row : EvmReceiveSwapRow}
    (hs : row.state = .awaitingClaim ∨ row.state = .refundingArkade) :
    commitDiscipline.Free (EvmReceive.refundArkade row) := by
  have hrest : commitDiscipline.Free (do
      let current ← issue .get
      if (← ask .findLockups) = 0 then
        throw (.error ("no spendable output at the lockup for " ++ current.id ++
          " - nothing to refund"))
      let txid ← Program.ofExcept (← issue .refundArkade)
      transition row.id .refundingArkade .refunded [.refundArkTxid txid]
      return false) := fun note => by
    refine (idle_issue (by simp) (by simp)).quiet.obeys_bind fun current =>
      (idle_ask _).quiet.obeys_bind fun outputs => ?_
    dsimp only
    split
    · trivial
    · refine (idle_issue (by simp) (by simp)).quiet.obeys_bind fun answer =>
        (Discipline.quiet_ofExcept answer).obeys_bind fun txid =>
        free_transition (.inr ⟨rfl, rfl, by simp⟩) (Discipline.free_ret _) _
  have hunderway : phaseOf row.state = .underway := by
    obtain hs | hs := hs <;> rw [hs] <;> rfl
  unfold EvmReceive.refundArkade
  dsimp only
  split
  · exact free_transition (.inr ⟨hunderway, rfl, by simp⟩) hrest
  · exact hrest

/-- One step of a row is licensed. -/
theorem free_step (row : EvmReceiveSwapRow) : commitDiscipline.Free (EvmReceive.step row) := by
  intro note
  refine (idle_observe row).quiet.obeys_bind fun seen => ?_
  have hp := planEvmReceive_presupposes row.plan seen
  split
  · trivial
  next reason ho =>
    rw [ho] at hp
    exact free_transition (.inl ⟨phaseOf_uncommitted hp, by simp [phaseOf]⟩)
      (Discipline.free_ret _) _
  next reason ho =>
    rw [ho] at hp
    exact free_transition (mayMove_of_live hp.1 rfl (by simp)) (Discipline.free_ret _) _
  next ho =>
    rw [ho] at hp
    exact free_fundArkade hp note
  next ho =>
    rw [ho] at hp
    have hs : row.state = .fundingArkade := hp
    exact free_transition (.inr ⟨by rw [hs]; rfl, rfl, by simp⟩) (Discipline.free_ret _) _
  next preimage ho =>
    rw [ho] at hp
    exact free_claimEvm hp.1 preimage note
  · exact free_transition (.inr ⟨rfl, rfl, by simp⟩) (Discipline.free_ret _) _
  next ho =>
    rw [ho] at hp
    exact free_refundArkade hp note

/-- A tick is licensed from any notes. -/
theorem free_tick (rounds : ℕ) : commitDiscipline.Free (EvmReceive.tick rounds) := by
  induction rounds with
  | zero => exact Discipline.free_ret _
  | succ rounds ih =>
    intro note
    refine (idle_issue (by simp) (by simp)).quiet.obeys_bind fun row =>
      (free_step row note).bind fun again after _ => ?_
    split
    · exact ih after
    · trivial

/-- Every schedule of ticks keeps the ledger in shape. -/
def commitProtocol : Protocol evmReceiveMachine anything where
  discipline := commitDiscipline
  inv world notes := Inv (ledgerOf world) notes
  forget _ _ worker h := h.forget worker
  act world notes worker op reply answer next h hm _ hp := (perform_step hm hp).keeps h
  stir world notes move next h hs := by
    cases move with
    | wait seconds =>
      cases hs
      exact h
    | mine txid success =>
      simp only [evmReceiveMachine, EvmReceive.stir] at hs
      split at hs
      · cases hs
      · cases hs
        exact h
  jobs rounds := free_tick rounds _

/-- Every run from a fresh quote leaves a clean history. -/
theorem clean_of_run {row : EvmReceiveSwapRow} {clock : ℕ}
    {events : List (Event evmReceiveMachine)} {final : Config evmReceiveMachine}
    (h : run (boot (quoted row clock)) events = some final) : Clean final.world.deeds := by
  have hstart : Inv (ledgerOf (quoted row clock)) fun _ => Note.blank := inv_start
  obtain ⟨notes, hf⟩ := commitProtocol.inv_of_run hstart (permitted_anything _ _) h
  exact hf.clean

end IntentSolver.EvmReceiveCommit
