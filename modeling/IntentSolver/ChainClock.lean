import IntentSolver.SwapTimelocks
import IntentSolver.WorkerProgram

/-!
# Deadlines on the chain's clock

A stored refund locktime is unix seconds or a block height. The two questions
asked of it read the wall clock first and the chain tip only for a height, so
both are programs over a port that has a clock and perhaps a tip.
-/

namespace IntentSolver.ChainClock

open SwapStore SwapTimelocks WorkerProgram

variable {Op : Type} {Ans : Op → Type}

/-- What the deadline questions read. -/
structure ChainPort {Op : Type} (Ans : Op → Type) where
  /-- The wall clock, in unix seconds. -/
  now : Program Ans Fault ℤ
  /-- Height of the chain tip, when a provider is wired. -/
  height : Option (Program Ans Fault ℤ)

variable (port : ChainPort Ans)

/-- A stored refund locktime as unix seconds, for duration questions only. -/
def refundDeadlineSeconds (refundLocktime : ℤ) (purpose : String) : Program Ans Fault ℤ := do
  let now ← port.now
  if absoluteLocktimeUnit refundLocktime = .seconds then return refundLocktime
  match port.height with
  | none => throw (Fault.error ("refund locktime " ++ toString refundLocktime ++
      " is a block height, but no chainTip provider is wired — a block-typed deployment needs " ++
      "one to " ++ purpose))
  | some height =>
    let tipHeight ← height
    return absoluteLocktimeSeconds refundLocktime ⟨now, tipHeight⟩

/-- Has the refund deadline opened, asked in the locktime's own unit. -/
def refundDeadlineReached (refundLocktime : ℤ) : Program Ans Fault Bool := do
  let now ← port.now
  if absoluteLocktimeUnit refundLocktime = .seconds then return decide (refundLocktime ≤ now)
  match port.height with
  | none => throw (Fault.error ("refund locktime " ++ toString refundLocktime ++
      " is a block height, but no chainTip provider is wired — a block-typed deployment needs " ++
      "one to tell whether a deadline has opened"))
  | some height =>
    let tipHeight ← height
    return absoluteLocktimeReached refundLocktime ⟨now, tipHeight⟩

section Discipline

variable {port} {D : Discipline Ans} {ready : D.Note → Prop}

section Steady

variable (hn : D.Steady ready port.now) (hh : ∀ height ∈ port.height, D.Steady ready height)

include hn hh

/-- What the clock and the tip keep, the deadline in seconds keeps. -/
theorem steady_refundDeadlineSeconds (refundLocktime : ℤ) (purpose : String) :
    D.Steady ready (refundDeadlineSeconds port refundLocktime purpose) := by
  refine hn.bind fun now => ?_
  split
  · exact Discipline.steady_ret _
  · split
    · exact Discipline.steady_throw _
    · next height he => exact (hh height he).bind fun _ => Discipline.steady_ret _

/-- What the clock and the tip keep, the question whether the deadline opened keeps. -/
theorem steady_refundDeadlineReached (refundLocktime : ℤ) :
    D.Steady ready (refundDeadlineReached port refundLocktime) := by
  refine hn.bind fun now => ?_
  split
  · exact Discipline.steady_ret _
  · split
    · exact Discipline.steady_throw _
    · next height he => exact (hh height he).bind fun _ => Discipline.steady_ret _

end Steady

variable (hn : D.Quiet port.now) (hh : ∀ height ∈ port.height, D.Quiet height)

include hn hh

/-- On a quiet clock and tip both questions are quiet. -/
theorem quiet_refundDeadlineSeconds (refundLocktime : ℤ) (purpose : String) :
    D.Quiet (refundDeadlineSeconds port refundLocktime purpose) :=
  Discipline.Quiet.of_steady fun _ =>
    steady_refundDeadlineSeconds hn.steady (fun height he => (hh height he).steady) _ _

/-- Asking whether the deadline is reached is quiet. -/
theorem quiet_refundDeadlineReached (refundLocktime : ℤ) :
    D.Quiet (refundDeadlineReached port refundLocktime) :=
  Discipline.Quiet.of_steady fun _ =>
    steady_refundDeadlineReached hn.steady (fun height he => (hh height he).steady) _

end Discipline

end IntentSolver.ChainClock
