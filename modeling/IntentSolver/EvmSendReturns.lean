import IntentSolver.EvmSendLockup

/-!
# A refused EVM send and what its sweep gives back

The sweep reads the script, refunds what it was shown and writes the outcome, which takes
the row out of the sweep for good. The refund spends at most sixteen outputs and none that
expires soon, and its txid does not tell. In runs whose refunds are shown no more than one
spend takes, an outcome is only ever written over a script that was given back whole.
-/

namespace IntentSolver.EvmSendReturns

open ArkadeLockup EvmPort EvmSendPlan EvmSend EvmSendLockup WorkerProgram WorkerInterleaving

/-- A refund is only asked for outputs that one spend takes: sixteen at most, and none that
expires soon. -/
def oneSpend : Condition lockupMachine
  | worker, .refundArkade, _, world =>
    (∀ output ∈ (world.pass worker).shown, spendableAt world.base.clock output = true) ∧
      (world.pass worker).shown.length ≤ MAX_LOCKUP_SPEND_INPUTS
  | _, _, _, _ => True

instance : ∀ worker op reply world, Decidable (oneSpend worker op reply world)
  | worker, .refundArkade, _, world => inferInstanceAs (Decidable
      ((∀ output ∈ (world.pass worker).shown, spendableAt world.base.clock output = true) ∧
        (world.pass worker).shown.length ≤ MAX_LOCKUP_SPEND_INPUTS))
  | _, .get, _, _ | _, .update _ _ _, _, _ | _, .patch _, _, _ | _, .claimRefundTxid _, _, _
  | _, .findRefundable, _, _ | _, .findClosedOverLock _, _, _ | _, .now, _, _
  | _, .read _, _, _ | _, .broadcast _, _, _ | _, .claimArkade _, _, _ => isTrue trivial

/-- The pass gave back everything it was shown, or was shown nothing of a script that was
then proven to be spent. -/
def GaveBack (pass : Pass) : Prop :=
  (pass.shown ≠ [] ∧ pass.returned = pass.shown) ∨ (pass.shown = [] ∧ pass.provablySpent = true)

/-- Everything at the script was shown to whoever has seen it since the last arrival, and
whoever is about to write an outcome has given it back. -/
structure ReturnsInv (world : LockupWorld) (notes : ℕ → LockupNote) : Prop where
  shown : ∀ worker, world.arrived worker = false → world.lockup ⊆ (world.pass worker).shown
  read : ∀ worker count, (notes worker).read = some count →
    (world.pass worker).shown.length = count
  settled : ∀ worker, (notes worker).settled = true → GaveBack (world.pass worker) ∧
    (world.arrived worker = false → world.lockup = [])
  writes : ∀ pass ∈ world.writes, GaveBack pass
  outcome : world.late = false → world.base.row.refundOutcome ≠ none → world.lockup = []

section Steps

variable {world next : LockupWorld} {notes : ℕ → LockupNote} {worker : ℕ}

/-- A note that says no more about the script is as true. -/
theorem ReturnsInv.update {note : LockupNote} (h : ReturnsInv world notes)
    (hr : note.read = (notes worker).read) (hs : note.settled = (notes worker).settled) :
    ReturnsInv world (Function.update notes worker note) := by
  refine ⟨h.shown, fun other => ?_, fun other => ?_, h.writes, h.outcome⟩
  all_goals by_cases ho : other = worker
  all_goals first | rw [ho, Function.update_self] | rw [Function.update_of_ne ho]
  · rw [hr]
    exact h.read worker
  · exact h.read other
  · rw [hs]
    exact h.settled worker
  · exact h.settled other

/-- The invariant survives what leaves the refund outcome alone. -/
theorem ReturnsInv.keep {base : EvmSendWorld} (h : ReturnsInv world notes)
    (ho : base.row.refundOutcome = world.base.row.refundOutcome) :
    ReturnsInv { world with base := base } notes :=
  ⟨h.shown, h.read, h.settled, h.writes, fun hl hn => h.outcome hl (ho ▸ hn)⟩

/-- Taking outputs away from the script spoils nothing. -/
theorem ReturnsInv.shrink {rest : List FundedOutput} (h : ReturnsInv world notes)
    (hs : rest ⊆ world.lockup) : ReturnsInv { world with lockup := rest } notes := by
  have hempty : world.lockup = [] → rest = [] := fun hn => by
    rw [hn] at hs
    exact List.subset_nil.mp hs
  refine ⟨fun other ha => List.Subset.trans hs (h.shown other ha), h.read, fun other hn => ?_,
    h.writes, fun hl hn => hempty (h.outcome hl hn)⟩
  obtain ⟨hgave, hclear⟩ := h.settled other hn
  exact ⟨hgave, fun ha => hempty (hclear ha)⟩

/-- A read of the lockup starts a new pass and keeps the invariant. -/
theorem keeps_outputs (h : ReturnsInv world notes) :
    ReturnsInv
      { world with
        pass := Function.update world.pass worker ⟨world.lockup, [], false⟩
        arrived := Function.update world.arrived worker false }
      (Function.update notes worker
        { notes worker with read := some world.lockup.length, settled := false }) := by
  refine ⟨fun other => ?_, fun other count => ?_, fun other => ?_, h.writes, h.outcome⟩
  all_goals
    dsimp only
    by_cases ho : other = worker
  all_goals first
    | rw [ho, Function.update_self, Function.update_self]
    | rw [Function.update_of_ne ho, Function.update_of_ne ho]
  · exact fun _ => List.Subset.refl _
  · exact h.shown other
  · exact fun hr => Option.some.inj hr
  · exact h.read other count
  · intro hs
    cases hs
  · rw [Function.update_of_ne ho]
    exact h.settled other

/-- Another worker's pass is not touched by editing one's own. -/
theorem pass_editPass_of_ne (world : LockupWorld) {worker other : ℕ} (edit : Pass → Pass)
    (h : other ≠ worker) : (world.editPass worker edit).pass other = world.pass other :=
  Function.update_of_ne h _ _

/-- The edited pass is the one that is found. -/
theorem pass_editPass (world : LockupWorld) (worker : ℕ) (edit : Pass → Pass) :
    (world.editPass worker edit).pass worker = edit (world.pass worker) :=
  Function.update_self _ _ _

/-- A pass that settles itself settles what its worker may write. -/
theorem keeps_editPass {edit : Pass → Pass} {note : LockupNote} (h : ReturnsInv world notes)
    (hshown : (edit (world.pass worker)).shown = (world.pass worker).shown)
    (hr : note.read = (notes worker).read)
    (hs : note.settled = true → GaveBack (edit (world.pass worker)) ∧
      (world.arrived worker = false → world.lockup = [])) :
    ReturnsInv (world.editPass worker edit) (Function.update notes worker note) := by
  refine ⟨fun other => ?_, fun other count => ?_, fun other => ?_, h.writes, h.outcome⟩
  all_goals by_cases ho : other = worker
  · rw [ho, pass_editPass, hshown]
    exact h.shown worker
  · rw [pass_editPass_of_ne _ _ ho]
    exact h.shown other
  · rw [ho, pass_editPass, hshown, Function.update_self, hr]
    exact h.read worker count
  · rw [pass_editPass_of_ne _ _ ho, Function.update_of_ne ho]
    exact h.read other count
  · rw [ho, pass_editPass, Function.update_self]
    exact hs
  · rw [pass_editPass_of_ne _ _ ho, Function.update_of_ne ho]
    exact h.settled other

/-- A refund of every spendable output keeps the invariant. -/
theorem keeps_refund {inputs : List FundedOutput} {answer : Except EvmFault String}
    (h : ReturnsInv world notes)
    (hc : (∀ output ∈ (world.pass worker).shown, spendableAt world.base.clock output = true) ∧
      (world.pass worker).shown.length ≤ MAX_LOCKUP_SPEND_INPUTS)
    (hi : boundedSpendInputs (world.pass worker).shown world.base.clock = inputs)
    (hn : inputs ≠ []) :
    ReturnsInv ({ world with lockup := world.lockup.filter (· ∉ inputs) }.editPass worker
        fun pass => { pass with returned := inputs })
      (Function.update notes worker ((notes worker).learn .refundArkade answer)) := by
  have hall : inputs = (world.pass worker).shown :=
    hi.symm.trans (boundedSpendInputs_eq_self_iff.mpr hc)
  have hread : ((notes worker).learn .refundArkade answer).read = (notes worker).read := by
    cases answer <;> rfl
  refine keeps_editPass (h.shrink (List.filter_subset_self _)) rfl hread
    fun _ => ⟨.inl ⟨?_, hall⟩, ?_⟩
  · dsimp only
    rw [← hall]
    exact hn
  · -- Everything at the script was shown, so everything was spent.
    intro ha
    refine List.filter_eq_nil_iff.mpr fun output ho => ?_
    have hm : output ∈ inputs := hall ▸ h.shown worker ha ho
    simpa using hm

/-- A licensed patch keeps the invariant. -/
theorem keeps_patch {columns : List EvmSendColumn} {base : EvmSendWorld}
    (h : ReturnsInv world notes) (hm : (notes worker).may (.patch columns))
    (ho : settles columns = false → base.row.refundOutcome = world.base.row.refundOutcome) :
    ReturnsInv (record worker (.patch columns) () { world with base := base }) notes := by
  simp only [record]
  split
  next hs =>
    obtain ⟨hgave, hclear⟩ := h.settled worker (hm hs)
    refine ⟨h.shown, h.read, h.settled, fun pass hp => ?_, fun hl _ => ?_⟩
    · obtain rfl | hp := List.mem_cons.mp hp
      · exact hgave
      · exact h.writes pass hp
    · exact hclear (Bool.or_eq_false_iff.mp hl).2
  next hs => exact h.keep (ho (Bool.eq_false_iff.mpr hs))

/-- A transition that writes no outcome keeps the invariant. -/
theorem keeps_move {source target : EvmSendSwapState} {columns : List EvmSendColumn}
    {base : EvmSendWorld} (h : ReturnsInv world notes)
    (ho : base.row.refundOutcome = world.base.row.refundOutcome) :
    ReturnsInv (record worker (.update source target columns) true { world with base := base })
      notes := by
  have hrest := h.keep ho
  simp only [record]
  split
  · exact ⟨hrest.shown, hrest.read, hrest.settled, hrest.writes, hrest.outcome⟩
  · exact hrest

/-- Every licensed action whose refunds are one spend keeps the invariant. -/
theorem keeps_effect {op : EvmSendOp} {reply : LockupReply} {answer : op.Ans}
    (h : ReturnsInv world notes) (hm : (notes worker).may op)
    (hc : oneSpend worker op reply world) (he : Effect worker world op answer next) :
    ReturnsInv next (Function.update notes worker ((notes worker).learn op answer)) := by
  cases he with
  | nothing hl _ hk =>
    rw [hl, Function.update_eq_self]
    exact h.keep hk.refundOutcome
  | funding =>
    have hrest : ReturnsInv
        { world with
          funding := Function.update world.funding worker ⟨world.lockup, world.base.clock⟩ }
        notes :=
      ⟨h.shown, h.read, h.settled, h.writes, h.outcome⟩
    exact hrest.update rfl rfl
  | outputs => exact keeps_outputs h
  | proof spent hs =>
    refine keeps_editPass h rfl rfl fun hsettled => ?_
    obtain ⟨hproven, hread⟩ := Bool.and_eq_true_iff.mp hsettled
    have hnone : (world.pass worker).shown = [] :=
      List.length_eq_zero_iff.mp (h.read worker 0 (of_decide_eq_true hread))
    exact ⟨.inr ⟨hnone, hproven⟩, fun _ => hs hproven⟩
  | @claim _ answer inputs _ _ =>
    have hless : ReturnsInv { world with lockup := world.lockup.filter (· ∉ inputs) } notes :=
      h.shrink (List.filter_subset_self _)
    have hrest : ReturnsInv
        { world with
          lockup := world.lockup.filter (· ∉ inputs)
          collected := inputs ++ world.collected } notes :=
      ⟨hless.shown, hless.read, hless.settled, hless.writes, hless.outcome⟩
    cases answer with
    | error fault => exact hrest.update rfl rfl
    | ok txid => exact hrest.update rfl rfl
  | refund hi hn => exact keeps_refund h hc hi hn
  | move _ _ _ _ ho => exact (keeps_move h (ho hm.2.2.2.2)).update rfl rfl
  | patch _ _ _ ho => exact (keeps_patch h hm ho).update rfl rfl

/-- An arrival is something nobody has been shown. -/
theorem keeps_stir {move : LockupMove} (h : ReturnsInv world notes)
    (hs : stir move world = some next) : ReturnsInv next notes := by
  cases move with
  | wait seconds =>
    cases hs
    exact h.keep rfl
  | arrive output =>
    simp only [stir] at hs
    split at hs
    · cases hs
    · cases hs
      refine ⟨by simp, h.read, fun other hn => ?_, h.writes, fun hl hn => ?_⟩
      · exact ⟨(h.settled other hn).1, by simp⟩
      · have hsome := (Bool.or_eq_false_iff.mp hl).2
        exact absurd (Option.isNone_iff_eq_none.mp (by simpa using hsome)) hn
  | depart output =>
    cases hs
    exact h.shrink (List.filter_subset_self _)

end Steps

/-- Every schedule whose refunds are one spend keeps the invariant. -/
def returnsProtocol : Protocol lockupMachine oneSpend where
  discipline := lockupDiscipline
  inv := ReturnsInv
  forget world notes worker h := by
    refine ⟨h.shown, fun other => ?_, fun other => ?_, h.writes, h.outcome⟩
    all_goals by_cases ho : other = worker
    all_goals first | rw [ho, Function.update_self] | rw [Function.update_of_ne ho]
    · simp [lockupDiscipline]
    · exact h.read other
    · simp [lockupDiscipline]
    · exact h.settled other
  act world notes worker op reply answer next h hm hc hp := keeps_effect h hm hc (perform_effect hp)
  stir world notes move next h hs := keeps_stir h hs
  jobs := obeys_jobs

/-- A refused row without an outcome is found. -/
theorem findRefundable_open {world : LockupWorld} (hs : world.base.row.state = .refused)
    (hn : world.base.row.refundOutcome = none) (worker : ℕ) (reply : LockupReply) :
    EvmSendLockup.perform worker .findRefundable reply world =
      some (some world.base.row, world) := by
  simp [EvmSendLockup.perform, performBase, EvmSend.perform, record, hs, hn]

/-- A row with an outcome is not. -/
theorem findRefundable_closed {world : LockupWorld}
    (hn : world.base.row.refundOutcome ≠ none) (worker : ℕ) (reply : LockupReply) :
    EvmSendLockup.perform worker .findRefundable reply world = some (none, world) := by
  simp [EvmSendLockup.perform, performBase, EvmSend.perform, record, hn]

/-- From a row without a refund outcome, in every run whose refunds are one spend: an
outcome is only written by a pass that gave back all it was shown, or was shown nothing and
has proof the script was spent; and unless an output arrived behind the back of the pass
that wrote it, a refused row whose script still holds an output is still swept. -/
theorem refused_row_stays_in_the_sweep {row : EvmSendSwapRow} {lockup : List FundedOutput}
    {clock : ℕ} {events : List (Event lockupMachine)} {final : Config lockupMachine}
    (hn : row.refundOutcome = none)
    (hr : run (boot (opened row lockup clock)) events = some final)
    (hp : Permitted oneSpend (boot (opened row lockup clock)) events) :
    (∀ pass ∈ final.world.writes, GaveBack pass) ∧
    (final.world.late = false → final.world.base.row.state = .refused →
      final.world.lockup ≠ [] → ∀ worker reply,
        EvmSendLockup.perform worker .findRefundable reply final.world =
          some (some final.world.base.row, final.world)) := by
  have hstart : ReturnsInv (opened row lockup clock) fun _ => lockupDiscipline.fresh :=
    ⟨by simp [opened], by simp [lockupDiscipline], by simp [lockupDiscipline], by simp [opened],
      fun _ ho => absurd hn ho⟩
  obtain ⟨notes, hinv⟩ := returnsProtocol.inv_of_run hstart hp hr
  refine ⟨hinv.writes, fun hl hs hne worker reply => ?_⟩
  have hopen : final.world.base.row.refundOutcome = none := by
    by_contra ho
    exact hne (hinv.outcome hl ho)
  exact findRefundable_open hs hopen worker reply

/-- The sample row, refused. -/
def refusedRow : EvmSendSwapRow := { sampleRow with state := .refused }

/-- Outputs of a hundred sats each. -/
def hundreds (count : ℕ) : List FundedOutput :=
  (List.range count).map fun vout => ⟨"a", vout, 100, [], none⟩

/-- A whole pass. -/
def sweepPass : List (Event lockupMachine) :=
  .start 0 .refundSweep :: List.replicate 4 (.act 0 (sampleReply none))

/-- A pass the server refuses, and one more output. -/
def refusedPass : List (Event lockupMachine) :=
  .start 0 .refundSweep ::
    List.append (List.replicate 3 (.act 0 { sampleReply none with spend := .refused "busy" }))
      [.stir (.arrive ⟨"b", 0, 50, [], none⟩)]

/-- After a pass that failed the row is still swept, and the next pass gives back what had
arrived meanwhile. -/
theorem refused_row_stays_in_the_sweep_sample :
    (∃ final, run (boot (opened refusedRow (hundreds 2) 100)) refusedPass = some final ∧
      ∀ worker reply, EvmSendLockup.perform worker .findRefundable reply final.world =
        some (some final.world.base.row, final.world)) ∧
    (∃ final, run (boot (opened refusedRow (hundreds 2) 100)) (refusedPass ++ sweepPass) =
        some final ∧ final.world.writes ≠ [] ∧ final.world.lockup = [] ∧
      ∀ pass ∈ final.world.writes, GaveBack pass) := by
  constructor
  · obtain ⟨final, hr⟩ : ∃ final, run (boot (opened refusedRow (hundreds 2) 100)) refusedPass =
        some final := Option.isSome_iff_exists.mp (by decide +kernel)
    have hp : Permitted oneSpend (boot (opened refusedRow (hundreds 2) 100)) refusedPass := by
      decide +kernel
    have hs : (run (boot (opened refusedRow (hundreds 2) 100)) refusedPass).map (fun final =>
        (final.world.late, final.world.base.row.state, final.world.lockup.length)) =
          some (false, .refused, 3) := by decide +kernel
    rw [hr] at hs
    simp only [Option.map_some, Option.some.injEq, Prod.mk.injEq] at hs
    have hne : final.world.lockup ≠ [] := List.ne_nil_of_length_pos (by omega)
    exact ⟨final, hr, (refused_row_stays_in_the_sweep rfl hr hp).2 hs.1 hs.2.1 hne⟩
  · obtain ⟨final, hr⟩ : ∃ final, run (boot (opened refusedRow (hundreds 2) 100))
        (refusedPass ++ sweepPass) = some final := Option.isSome_iff_exists.mp (by decide +kernel)
    have hp : Permitted oneSpend (boot (opened refusedRow (hundreds 2) 100))
        (refusedPass ++ sweepPass) := by decide +kernel
    have hs : (run (boot (opened refusedRow (hundreds 2) 100)) (refusedPass ++ sweepPass)).map
        (fun final => (final.world.writes.length, final.world.lockup)) = some (1, []) := by
      decide +kernel
    rw [hr] at hs
    simp only [Option.map_some, Option.some.injEq, Prod.mk.injEq] at hs
    have hne : final.world.writes ≠ [] := List.ne_nil_of_length_pos (by omega)
    exact ⟨final, hr, hne, hs.2, (refused_row_stays_in_the_sweep rfl hr hp).1⟩

/-- Of seventeen outputs the refund spends sixteen, the outcome is written all the same, and
the last output stays at a script nobody sweeps any more. -/
theorem seventeenth_output_is_left :
    ∃ final, run (boot (opened refusedRow (hundreds 17) 100)) sweepPass = some final ∧
      (∃ pass ∈ final.world.writes, ¬ GaveBack pass) ∧
      final.world.late = false ∧ final.world.base.row.state = .refused ∧
      final.world.lockup ≠ [] ∧
      ∀ worker reply, EvmSendLockup.perform worker .findRefundable reply final.world =
        some (none, final.world) := by
  obtain ⟨final, hr⟩ : ∃ final, run (boot (opened refusedRow (hundreds 17) 100)) sweepPass =
      some final := Option.isSome_iff_exists.mp (by decide +kernel)
  have hs : (run (boot (opened refusedRow (hundreds 17) 100)) sweepPass).map (fun final =>
      (final.world.late, final.world.base.row.state, final.world.base.row.refundOutcome)) =
      some (false, .refused, some "pushed") := by decide +kernel
  have hl : (run (boot (opened refusedRow (hundreds 17) 100)) sweepPass).map (fun final =>
      (final.world.lockup.length,
        final.world.writes.map fun pass => (pass.shown.length, pass.returned.length))) =
      some (1, [(17, 16)]) := by decide +kernel
  rw [hr] at hs hl
  simp only [Option.map_some, Option.some.injEq, Prod.mk.injEq] at hs hl
  obtain ⟨hlate, hstate, houtcome⟩ := hs
  obtain ⟨hlockup, hwrites⟩ := hl
  have hne : final.world.lockup ≠ [] := List.ne_nil_of_length_pos (by omega)
  have hmem : (17, 16) ∈ final.world.writes.map fun pass =>
      (pass.shown.length, pass.returned.length) := by simp [hwrites]
  obtain ⟨pass, hm, hv⟩ := List.mem_map.mp hmem
  obtain ⟨hshown, hreturned⟩ := Prod.mk.inj hv
  refine ⟨final, hr, ⟨pass, hm, fun hg => ?_⟩, hlate, hstate, hne, fun worker reply => ?_⟩
  · obtain ⟨-, he⟩ | ⟨he, -⟩ := hg
    · rw [he] at hreturned
      omega
    · rw [he] at hshown
      cases hshown
  · exact findRefundable_closed (by rw [houtcome]; simp) worker reply

end IntentSolver.EvmSendReturns
