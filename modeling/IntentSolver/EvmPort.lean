import IntentSolver.SoloRuns
import Mathlib.Data.Nat.Notation
import Mathlib.Data.Int.Notation

/-!
# The EVM port and the store both EVM corridors share

What the corridors exchange with an EVM chain: calls they broadcast, the outcome of a
transaction, and the proof that a lock is deep enough. The store keeps one row per swap;
its only guard is the compare-and-swap on the state the caller saw, and a `patch` writes
columns without one. Event tables, paging and indexes are left out.
-/

namespace IntentSolver.EvmPort

open WorkerProgram

/-- Errors the EVM corridors tell apart. -/
inductive EvmFault where
  /-- An ordinary `Error`. -/
  | error (message : String)
  /-- `EvmClaimVerificationError`: a claim event that does not verify. -/
  | claimVerification (message : String)

/-- What became of a transaction. -/
inductive EvmTransactionOutcome where
  | pending
  | success
  | reverted
  deriving DecidableEq

/-- Calls the corridors broadcast. -/
inductive EvmCall where
  | approve (amount : ℕ)
  | lock
  | claim (preimage : String)
  | refund
  deriving DecidableEq

/-- The calls that lock this amount: an allowance is reset before it is raised, and the
lock always comes last. -/
def lockCalls (amount currentAllowance : ℕ) : List EvmCall :=
  if amount ≤ currentAllowance then [.lock]
  else if currentAllowance = 0 then [.approve amount, .lock]
  else [.approve 0, .approve amount, .lock]

variable {Op : Type} {Ans : Op → Type}

/-- Run a read and answer a default where it throws. -/
def orElse {α : Type} (program : Program Ans EvmFault α) (default : α) : Program Ans EvmFault α :=
  program.tryCatch fun _ => .ret default

/-- Depth and age a lock was proven to have. -/
structure LockDepth where
  confirmations : ℤ
  ageSeconds : ℤ

/-- Nothing proven. -/
def UNPROVEN : LockDepth := ⟨0, 0⟩

/-- Prove the lock is `minConfirmations` deep by asking for it at an older height; a read
that fails proves nothing. -/
def provenDepth (isLockedAt : ℤ → Program Ans EvmFault Bool)
    (blockTimestampAt : ℤ → Program Ans EvmFault ℤ) (present : Bool)
    (height minConfirmations nowSeconds : ℤ) : Program Ans EvmFault LockDepth :=
  let probe := height - minConfirmations + 1
  if !present || decide (probe < 1) then .ret UNPROVEN
  else orElse (do
    if !(← isLockedAt probe) then return UNPROVEN
    let stamp ← blockTimestampAt probe
    return ⟨minConfirmations, nowSeconds - stamp⟩) UNPROVEN

/-! ## The store -/

/-- What differs between the two stores, with the laws every row mapper keeps. -/
structure EvmSwapShape (Row State Column : Type) where
  /-- How error text names the row. -/
  noun : String
  /-- State names as the database spells them. -/
  stateName : State → String
  /-- The row's state column. -/
  state : Row → State
  /-- Write the state and `updated_at` columns. -/
  stamp : State → ℤ → Row → Row
  /-- Write the `updated_at` column. -/
  touch : ℤ → Row → Row
  /-- Write one named column. -/
  assign : Column → Row → Row
  state_stamp : ∀ target now row, state (stamp target now row) = target
  state_touch : ∀ now row, state (touch now row) = state row
  state_assign : ∀ column row, state (assign column row) = state row

section Store

variable {Row State Column : Type} (shape : EvmSwapShape Row State Column)

/-- Write several columns, in order. -/
def assignAll (columns : List Column) (row : Row) : Row :=
  columns.foldl (fun written column => shape.assign column written) row

/-- Assigned columns never hold the state. -/
@[simp]
theorem state_assignAll (columns : List Column) (row : Row) :
    shape.state (assignAll shape columns row) = shape.state row := by
  induction columns generalizing row with
  | nil => rfl
  | cons column rest ih => exact (ih _).trans (shape.state_assign column row)

/-- The UPDATE of `transition`: none when the row is not in the state asked for. -/
def updateWhere [DecidableEq State] (now : ℤ) (source target : State) (columns : List Column)
    (row : Row) : Option Row :=
  if shape.state row = source then some (assignAll shape columns (shape.stamp target now row))
  else none

/-- The row `patch` leaves. -/
def patchRow (now : ℤ) (columns : List Column) (row : Row) : Row :=
  assignAll shape columns (shape.touch now row)

/-- A patch never moves the row. -/
@[simp]
theorem state_patchRow (now : ℤ) (columns : List Column) (row : Row) :
    shape.state (patchRow shape now columns row) = shape.state row := by
  unfold patchRow
  rw [state_assignAll, shape.state_touch]

/-- A successful UPDATE found the source state and left the target. -/
theorem updateWhere_some [DecidableEq State] {now : ℤ} {source target : State}
    {columns : List Column} {row next : Row}
    (h : updateWhere shape now source target columns row = some next) :
    shape.state row = source ∧ shape.state next = target := by
  unfold updateWhere at h
  split at h
  next hs =>
    cases h
    exact ⟨hs, by rw [state_assignAll, shape.state_stamp]⟩
  · cases h

/-- The row a successful UPDATE leaves. -/
theorem updateWhere_eq [DecidableEq State] {now : ℤ} {source target : State}
    {columns : List Column} {row next : Row}
    (h : updateWhere shape now source target columns row = some next) :
    next = assignAll shape columns (shape.stamp target now row) := by
  unfold updateWhere at h
  split at h
  · exact (Option.some.inj h).symm
  · cases h

/-- What a lost compare-and-swap throws. -/
def notInState (id : String) (source : State) : EvmFault :=
  .error ("evm " ++ shape.noun ++ " swap " ++ id ++ " is not in state " ++ shape.stateName source)

end Store

section Discipline

variable {D : Discipline Ans}

/-- A default in place of an error teaches nothing. -/
theorem idle_orElse {α : Type} {program : Program Ans EvmFault α} (h : D.Idle program)
    (default : α) : D.Idle (orElse program default) := h.tryCatch fun _ => trivial

/-- Reading the proven depth teaches nothing. -/
theorem idle_provenDepth {isLockedAt : ℤ → Program Ans EvmFault Bool}
    {blockTimestampAt : ℤ → Program Ans EvmFault ℤ} (hl : ∀ probe, D.Idle (isLockedAt probe))
    (hb : ∀ probe, D.Idle (blockTimestampAt probe)) (present : Bool)
    (height minConfirmations nowSeconds : ℤ) :
    D.Idle (provenDepth isLockedAt blockTimestampAt present height minConfirmations
      nowSeconds) := by
  unfold provenDepth
  dsimp only
  split
  · trivial
  · refine idle_orElse ((hl _).bind fun locked => ?_) _
    split
    · trivial
    · exact (hb _).bind fun _ => trivial

end Discipline

section Watching

open SoloRuns

variable {World Reply V : Type} {effects : Effects Ans World Reply}
  {kind : Reply → Prop} {view : World → V}

/-- A default in place of an error leaves the view alone. -/
theorem watches_orElse {α : Type} {program : Program Ans EvmFault α}
    (h : Watches effects kind view program) (default : α) :
    Watches effects kind view (orElse program default) := h.tryCatch

/-- Probing the depth of a lock only reads. -/
theorem watches_provenDepth {isLockedAt : ℤ → Program Ans EvmFault Bool}
    {blockTimestampAt : ℤ → Program Ans EvmFault ℤ}
    (hl : ∀ probe, Watches effects kind view (isLockedAt probe))
    (hb : ∀ probe, Watches effects kind view (blockTimestampAt probe)) (present : Bool)
    (height minConfirmations nowSeconds : ℤ) :
    Watches effects kind view (provenDepth isLockedAt blockTimestampAt present height
      minConfirmations nowSeconds) := by
  unfold provenDepth
  dsimp only
  split
  · exact watches_ret _
  · refine watches_orElse ((hl _).bind fun locked => ?_) _
    split
    · exact watches_ret _
    · exact (hb _).bind fun _ => watches_ret _

end Watching

end IntentSolver.EvmPort
