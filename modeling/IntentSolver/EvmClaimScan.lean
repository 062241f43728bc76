import IntentSolver.ChainPace
import IntentSolver.EvmLogScan
import IntentSolver.EvmSend

/-!
# Where the scan for a claim starts, and what it reads

A claim of our lock comes after the lock. The floor of the scan is the lock's own block,
or, where that block cannot be read, the tip less the most blocks the fastest cadence
allows since the row was created, and a margin of confirmations below either. The second
floor is only as good as the clock: it counts blocks by the seconds the clock shows.
-/

namespace IntentSolver.EvmClaimScan

open ChainPace EvmPort EvmSend EvmLogScan ProgramTraces RangePaging WorkerProgram

variable {deps : EvmSendDeps} {row : EvmSendSwapRow} {height : ℤ} {arrival : ℤ → ℚ}
  {lockMined : ℤ}

variable {Log T : Type}

/-- A row whose lock was mined in block 100, its txid lost in a crash. -/
def sampleRow : EvmSendSwapRow :=
  { id := "s", state := .lockingEvm, createdAt := 1200, updatedAt := 1200, amountSats := 1000,
    evmAmount := 1000, evmTimeout := 900, validUntil := 1260, minConfirmations := 1,
    minAgeSeconds := 1, refundLocktime := 1700000000 }

/-- Blocks of twelve seconds from time zero on. -/
def sampleDeps : EvmSendDeps := ⟨false, 12⟩

end IntentSolver.EvmClaimScan
