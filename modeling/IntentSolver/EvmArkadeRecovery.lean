import IntentSolver.EvmReceiveRecovery
import IntentSolver.EvmSendRecovery

/-!
# After a crash around an Arkade spend

Both EVM corridors spend a lockup between two compare-and-swaps: the send leg claims the
client's sats, the receive leg takes its own back. A crash may come anywhere in between. A
later step plans the same order again, but both spends need an output that is still there,
and none is once the server had accepted the spend the crash cut off.
-/

namespace IntentSolver.EvmArkadeRecovery

open ArkadeLockup EvmPort EvmSendLockup SoloRuns

/-- Wherever a crash cuts off a claim of the send leg or a refund of the receive leg before
its closing move, and whatever happens at the script meanwhile, a later step that nothing
goes wrong in, on the send leg before the refund locktime, closes the row exactly where the
script still holds an output a spend takes. -/
theorem crashed_spend_recovers_iff (worker other : ℕ) :
    (∀ (deps : EvmSend.EvmSendDeps) (preimage : String) (seen : EvmSendPlan.EvmSendObservation)
      (world crashed later : LockupWorld) (moves : List LockupMove),
      EvmSendPlan.planEvmSend world.base.row.plan seen = .claimArkade preimage →
      EvmSend.Scanned world.base.row seen →
      Reaches (EvmSendLockup.perform worker) (EvmSend.claimArkade world.base.row preimage) world
        crashed →
      crashed.base.row.state ≠ .claimed →
      stirs EvmSendLockup.stir crashed moves = some later →
      (later.base.clock : ℤ) < later.base.row.refundLocktime →
      Ensures (EvmSendLockup.perform other) (EvmSendRecovery.Faultless preimage)
        (EvmSend.step deps later.base.row) later fun _ final =>
          final.base.row.state = .claimed ↔
            boundedSpendInputs later.lockup later.base.clock ≠ []) ∧
    (∀ (seen : EvmReceivePlan.EvmReceiveObservation)
      (world crashed later : EvmReceiveRecovery.ReceiveLockupWorld) (moves : List LockupMove),
      EvmReceivePlan.planEvmReceive world.base.row.plan seen = .refundArkade →
      seen.nowSeconds ≤ world.base.clock →
      lockupIsFunded world.held world.base.row.payoutSats = true →
      Reaches (EvmReceiveRecovery.perform worker) (EvmReceive.refundArkade world.base.row) world
        crashed →
      crashed.base.row.state ≠ .refunded →
      stirs EvmReceiveRecovery.stir crashed moves = some later →
      Ensures (EvmReceiveRecovery.perform other) EvmReceiveRecovery.Undisturbed
        (EvmReceive.step later.base.row) later fun _ final =>
          final.base.row.state = .refunded ↔
            boundedSpendInputs later.lockup later.base.clock ≠ []) := by
  constructor
  · intro deps preimage seen world crashed later moves hp hs hr hopen hm hn
    have hdue := EvmSendRecovery.due_of_plan hp hs
    have hcrashed := EvmSendRecovery.sendLeft_of_reaches ⟨rfl, .inr hdue⟩ hr
    obtain ⟨hlater, hrow⟩ := EvmSendRecovery.sendLeft_of_stirs hcrashed hm
    rw [← hrow] at hopen
    exact EvmSendRecovery.ensures_step (hlater.2.resolve_left hopen) hn
  · intro seen world crashed later moves hp hn hf hr hopen hm
    obtain ⟨hunrevealed, hstate⟩ := EvmReceiveRecovery.refund_ordered hp
    have hstart : EvmReceiveRecovery.Left world := by
      refine ⟨hunrevealed, hf, .inr ?_⟩
      obtain ⟨hs, hl⟩ | hs := hstate
      · exact .inl ⟨hs, le_trans hl hn⟩
      · exact .inr hs
    have hcrashed := EvmReceiveRecovery.left_of_reaches hstart hr
    obtain ⟨hlater, hrow⟩ := EvmReceiveRecovery.left_of_stirs hcrashed hm
    rw [← hrow] at hopen
    exact EvmReceiveRecovery.ensures_step
      ⟨hlater.unrevealed, hlater.funded, hlater.state.resolve_left hopen⟩

/-- One output of a thousand sats. -/
def sampleLockup : List FundedOutput := [⟨"a", 0, 1000, [], none⟩]

/-- A send whose lock is out and whose preimage the client has revealed. -/
def sampleSend : LockupWorld :=
  opened { sampleRow with state := .awaitingClaim } sampleLockup 100

/-- What the step saw of it. -/
def sampleSeen : EvmSendPlan.EvmSendObservation :=
  ⟨true, true, false, .pending, false, 3, 90, some "preimage", 100, 100⟩

/-- A receive past its locktime. -/
def sampleReceive : EvmReceiveRecovery.ReceiveLockupWorld where
  base :=
    { clock := 100
      row :=
        { id := "swap", state := .awaitingClaim, updatedAt := 0, payoutSats := 1000,
          lockupAddress := "ark1", evmTimeout := 5000, validUntil := 3600, minConfirmations := 3,
          minAgeSeconds := 60, refundLocktime := 50 }
      deeds := []
      claims := [] }
  lockup := sampleLockup
  held := sampleLockup
  shown _ := []

/-- What the step saw of it. -/
def sampleReceiveSeen : EvmReceivePlan.EvmReceiveObservation :=
  ⟨true, 3, 90, true, .pending, none, 100, 100⟩

/-- Cut short after so many actions. -/
def cutClaim (count : ℕ) : Option LockupWorld :=
  cut (EvmSendLockup.perform 0) (List.replicate count (sampleReply none))
    (EvmSend.claimArkade sampleSend.base.row "preimage") sampleSend

/-- Cut short after so many actions. -/
def cutRefund (count : ℕ) : Option EvmReceiveRecovery.ReceiveLockupWorld :=
  cut (EvmReceiveRecovery.perform 0) (List.replicate count EvmReceiveRecovery.quietReply)
    (EvmReceive.refundArkade sampleReceive.base.row) sampleReceive

/-- A crash right after the first compare-and-swap: the next step closes either row. -/
theorem crashed_spend_recovers_iff_sample :
    (∃ crashed, cutClaim 2 = some crashed ∧ crashed.base.row.state = .claiming ∧
      Ensures (EvmSendLockup.perform 1) (EvmSendRecovery.Faultless "preimage")
        (EvmSend.step ⟨false, 12⟩ crashed.base.row) crashed fun _ final =>
          final.base.row.state = .claimed) ∧
    (∃ crashed, cutRefund 1 = some crashed ∧ crashed.base.row.state = .refundingArkade ∧
      Ensures (EvmReceiveRecovery.perform 1) EvmReceiveRecovery.Undisturbed
        (EvmReceive.step crashed.base.row) crashed fun _ final =>
          final.base.row.state = .refunded) := by
  constructor
  · obtain ⟨crashed, hc⟩ : ∃ crashed, cutClaim 2 = some crashed :=
      Option.isSome_iff_exists.mp (by decide +kernel)
    have hs : (cutClaim 2).map (fun world => (world.base.row.state,
        decide ((world.base.clock : ℤ) < world.base.row.refundLocktime),
        boundedSpendInputs world.lockup world.base.clock)) =
          some (.claiming, true, sampleLockup) := by decide +kernel
    rw [hc] at hs
    simp only [Option.map_some, Option.some.injEq, Prod.mk.injEq, decide_eq_true_eq] at hs
    obtain ⟨hstate, hclock, hinputs⟩ := hs
    refine ⟨crashed, hc, hstate, ?_⟩
    refine ((crashed_spend_recovers_iff 0 1).1 ⟨false, 12⟩ "preimage" sampleSeen sampleSend
      crashed crashed [] (by decide) (.inr ⟨rfl, by decide⟩) (reaches_cut hc) (by simp [hstate])
      rfl hclock).mono fun _ final hf => hf.mpr ?_
    rw [hinputs]
    exact List.cons_ne_nil _ _
  · obtain ⟨crashed, hc⟩ : ∃ crashed, cutRefund 1 = some crashed :=
      Option.isSome_iff_exists.mp (by decide +kernel)
    have hs : (cutRefund 1).map (fun world => (world.base.row.state,
        boundedSpendInputs world.lockup world.base.clock)) =
          some (.refundingArkade, sampleLockup) := by decide +kernel
    rw [hc] at hs
    simp only [Option.map_some, Option.some.injEq, Prod.mk.injEq] at hs
    obtain ⟨hstate, hinputs⟩ := hs
    refine ⟨crashed, hc, hstate, ?_⟩
    refine ((crashed_spend_recovers_iff 0 1).2 sampleReceiveSeen sampleReceive crashed crashed []
      (by decide) (by decide) (by decide) (reaches_cut hc) (by simp [hstate]) rfl).mono
        fun _ final hf => hf.mpr ?_
    rw [hinputs]
    exact List.cons_ne_nil _ _

/-- A crash between the accepted spend and the closing move: the planner orders the same
spend again, finds nothing to take, and neither row is ever closed by such a step. -/
theorem accepted_spend_is_not_recovered :
    (∃ crashed, Reaches (EvmSendLockup.perform 0)
        (EvmSend.claimArkade sampleSend.base.row "preimage") sampleSend crashed ∧
      EvmSendPlan.planEvmSend sampleSend.base.row.plan sampleSeen = .claimArkade "preimage" ∧
      (crashed.base.clock : ℤ) < crashed.base.row.refundLocktime ∧
      Ensures (EvmSendLockup.perform 1) (EvmSendRecovery.Faultless "preimage")
        (EvmSend.step ⟨false, 12⟩ crashed.base.row) crashed fun _ final =>
          final.base.row.state ≠ .claimed) ∧
    (∃ crashed, Reaches (EvmReceiveRecovery.perform 0)
        (EvmReceive.refundArkade sampleReceive.base.row) sampleReceive crashed ∧
      EvmReceivePlan.planEvmReceive sampleReceive.base.row.plan sampleReceiveSeen =
        .refundArkade ∧
      Ensures (EvmReceiveRecovery.perform 1) EvmReceiveRecovery.Undisturbed
        (EvmReceive.step crashed.base.row) crashed fun _ final =>
          final.base.row.state ≠ .refunded) := by
  constructor
  · obtain ⟨crashed, hc⟩ : ∃ crashed, cutClaim 4 = some crashed :=
      Option.isSome_iff_exists.mp (by decide +kernel)
    have hs : (cutClaim 4).map (fun world => (world.base.row.state, world.base.row.preimage,
        decide ((world.base.clock : ℤ) < world.base.row.refundLocktime), world.lockup)) =
          some (.claiming, some "preimage", true, []) := by decide +kernel
    rw [hc] at hs
    simp only [Option.map_some, Option.some.injEq, Prod.mk.injEq, decide_eq_true_eq] at hs
    obtain ⟨hstate, hpreimage, hclock, hlockup⟩ := hs
    have hdue : EvmSendRecovery.Due "preimage" crashed.base.row :=
      ⟨by simp [hstate, EvmSendPlan.TERMINAL], .inl hpreimage⟩
    refine ⟨crashed, reaches_cut hc, by decide, hclock, ?_⟩
    refine (EvmSendRecovery.ensures_step hdue hclock).mono fun _ final hf hclaimed => ?_
    have hsome := hf.mp hclaimed
    rw [hlockup] at hsome
    exact hsome rfl
  · obtain ⟨crashed, hc⟩ : ∃ crashed, cutRefund 4 = some crashed :=
      Option.isSome_iff_exists.mp (by decide +kernel)
    have hs : (cutRefund 4).map (fun world => (world.base.row.state, world.base.row.preimage,
        lockupIsFunded world.held world.base.row.payoutSats, world.lockup)) =
          some (.refundingArkade, none, true, []) := by decide +kernel
    rw [hc] at hs
    simp only [Option.map_some, Option.some.injEq, Prod.mk.injEq] at hs
    obtain ⟨hstate, hpreimage, hfunded, hlockup⟩ := hs
    refine ⟨crashed, reaches_cut hc, by decide, ?_⟩
    refine (EvmReceiveRecovery.ensures_step ⟨hpreimage, hfunded, .inr hstate⟩).mono
      fun _ final hf hrefunded => ?_
    have hsome := hf.mp hrefunded
    rw [hlockup] at hsome
    exact hsome rfl

end IntentSolver.EvmArkadeRecovery
