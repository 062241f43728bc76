import IntentSolver.EvmSendCommit
import IntentSolver.EvmReceiveCommit

/-!
# The EVM corridors commit once and refuse cleanly

Both corridors expose a row by compare-and-swap before they commit to it, and both
refuse it by compare-and-swap from the same states. The two histories are read together.
-/

namespace IntentSolver.EvmCommitOnce

open EvmPort WorkerInterleaving SingleCommit

/-- Any number of workers, any schedule and any crashes, whatever the outside answers: a
send row sees at most one lock broadcast and a receive row at most one funding, each by a
worker that had won the exposing move before, and none on a row that was ever refused or
whose lockup was given back. -/
theorem evm_corridors_commit_once :
    (∀ (row : EvmSend.EvmSendSwapRow) (clock : ℕ) (events : List (Event EvmSend.evmSendMachine))
      (final : Config EvmSend.evmSendMachine),
      run (boot (EvmSend.quoted row clock)) events = some final → Clean final.world.deeds) ∧
    (∀ (row : EvmReceive.EvmReceiveSwapRow) (clock : ℕ)
      (events : List (Event EvmReceive.evmReceiveMachine))
      (final : Config EvmReceive.evmReceiveMachine),
      run (boot (EvmReceive.quoted row clock)) events = some final →
        Clean final.world.deeds) :=
  ⟨fun _ _ _ _ h => EvmSendCommit.clean_of_run h,
    fun _ _ _ _ h => EvmReceiveCommit.clean_of_run h⟩

/-- A send row with an hour left on its quote. -/
def sampleSendRow : EvmSend.EvmSendSwapRow :=
  { id := "swap", state := .quoted, createdAt := 0, updatedAt := 0, amountSats := 50000,
    evmAmount := 20, evmTimeout := 5000, validUntil := 3600, minConfirmations := 3,
    minAgeSeconds := 60, refundLocktime := 90000 }

/-- The lockup is funded, the ERC20 is not locked yet, and the next broadcast goes out. -/
def sampleSendReply : EvmSend.EvmSendReply where
  answer
    | .arkadeLockupFunded => .ok true
    | .isLocked => .ok false
    | .isLockedAt _ => .ok false
    | .blockTimestampAt _ => .ok 0
    | .blockHeight => .ok 100
    | .timelockHeight => .ok 100
    | .transactionOutcome _ => .ok .pending
    | .transactionBlock _ => .ok none
    | .findRefund _ => .ok false
    | .findClaimPreimage _ _ => .ok none
    | .approval => .ok true
    | .allowance => .ok (20 : ℕ)
    | .findLockups => .ok (0 : ℕ)
    | .lockupProvablySpent => .ok false
  send := .sent "0xlock"

/-- A receive row with an hour left on its quote. -/
def sampleReceiveRow : EvmReceive.EvmReceiveSwapRow :=
  { id := "swap", state := .quoted, updatedAt := 0, payoutSats := 40000, lockupAddress := "ark1",
    evmTimeout := 5000, validUntil := 3600, minConfirmations := 3, minAgeSeconds := 60,
    refundLocktime := 90000 }

/-- The client's lock is deep and old enough, and the funding goes out. -/
def sampleReceiveReply : EvmReceive.EvmReceiveReply :=
  { isLocked := .ok true, isLockedAt := .ok true, blockTimestampAt := .ok 10,
    blockHeight := .ok 100, timelockHeight := .ok 100, submit := .sent "arktx" }

/-- Two workers tick the send row in turn; the first of them commits. -/
def sendRun : List (Event EvmSend.evmSendMachine) :=
  .start 0 (.tick ⟨false, 12⟩ 1) :: .start 1 (.tick ⟨false, 12⟩ 1) ::
    List.append (List.replicate 10 (.act 1 sampleSendReply))
      (List.replicate 18 (.act 0 sampleSendReply))

/-- One tick that funds the receive row. -/
def receiveRun : List (Event EvmReceive.evmReceiveMachine) :=
  .start 0 (show ℕ from 1) :: List.replicate 14 (.act 0 sampleReceiveReply)

/-- A committed row of each corridor. -/
theorem evm_corridors_commit_once_sample :
    (∃ final, run (boot (EvmSend.quoted sampleSendRow 100)) sendRun = some final ∧
      final.world.deeds = [(0, .committed), (0, .won)] ∧ Clean final.world.deeds) ∧
    (∃ final, run (boot (EvmReceive.quoted sampleReceiveRow 100)) receiveRun = some final ∧
      final.world.deeds = [(0, .committed), (0, .won)] ∧ Clean final.world.deeds) := by
  constructor
  · obtain ⟨final, hr⟩ : ∃ final, run (boot (EvmSend.quoted sampleSendRow 100)) sendRun =
        some final := Option.isSome_iff_exists.mp (by decide +kernel)
    have hd : ((run (boot (EvmSend.quoted sampleSendRow 100)) sendRun).map fun final =>
        final.world.deeds) = some [(0, .committed), (0, .won)] := by decide +kernel
    rw [hr] at hd
    exact ⟨final, hr, Option.some.inj hd, evm_corridors_commit_once.1 _ _ _ final hr⟩
  · obtain ⟨final, hr⟩ : ∃ final, run (boot (EvmReceive.quoted sampleReceiveRow 100)) receiveRun =
        some final := Option.isSome_iff_exists.mp (by decide +kernel)
    have hd : ((run (boot (EvmReceive.quoted sampleReceiveRow 100)) receiveRun).map fun final =>
        final.world.deeds) = some [(0, .committed), (0, .won)] := by decide +kernel
    rw [hr] at hd
    exact ⟨final, hr, Option.some.inj hd, evm_corridors_commit_once.2 _ _ _ final hr⟩

end IntentSolver.EvmCommitOnce
