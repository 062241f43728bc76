import IntentSolver.ArkadeLockup
import IntentSolver.WorkerProgram

/-!
# Collecting a lockup on both rails

The send corridors collect a lockup with one offchain claim and one L1 claim
per output the client unrolled. A row is closed only when every output adopted
at funding has been collected. These steps are shared by the corridors and
written over a port: the wallet calls some deployments lack are optional, and
the store writes are the corridor's own. The wallet's intermediate saves of an
L1 claim are handed over with its answer and written in order before it.
-/

namespace IntentSolver.LockupCollection

open SwapStore ArkadeLockup WorkerProgram

variable {Op : Type} {Ans : Op → Type}

/-- Outpoints as the database and the messages spell them. -/
def outpointKey (outpoint : Outpoint) : String := outpoint.txid ++ ":" ++ toString outpoint.vout

/-- Where one L1 spend of an unrolled output has got to. -/
inductive UnrolledSpendStep where
  /-- Too early, or asked too recently. -/
  | waiting
  /-- Spent by a transaction that is not ours. -/
  | spent
  /-- No co-signed spend will happen. -/
  | closed (reason : String)
  /-- Broadcast and tracked under this record. -/
  | pending (record : String)
  /-- The spend has confirmed. -/
  | confirmed (record : String)
  deriving DecidableEq

/-- The last step of each L1 claim, in the order first recorded. -/
abbrev UnrolledSteps := List (Outpoint × UnrolledSpendStep)

/-- Read one output's last step. -/
def stepOf (steps : UnrolledSteps) (key : Outpoint) : Option UnrolledSpendStep :=
  (steps.find? fun entry => entry.1 = key).map Prod.snd

/-- Write one output's step, in place when it has one already. -/
def setStep (key : Outpoint) (step : UnrolledSpendStep) : UnrolledSteps → UnrolledSteps
  | [] => [(key, step)]
  | entry :: rest =>
    if entry.1 = key then (key, step) :: rest else entry :: setStep key step rest

/-- Reading back a written step. -/
theorem stepOf_setStep (steps : UnrolledSteps) (key other : Outpoint) (step : UnrolledSpendStep) :
    stepOf (setStep key step steps) other =
      if other = key then some step else stepOf steps other := by
  induction steps with
  | nil =>
    by_cases ho : other = key
    · simp [stepOf, setStep, ho]
    · simp [stepOf, setStep, ho, Ne.symm ho]
  | cons entry rest ih =>
    unfold stepOf at ih ⊢
    by_cases he : entry.1 = key
    · rw [setStep, if_pos he]
      by_cases ho : other = key
      · simp [ho]
      · have hk : entry.1 ≠ other := fun h => ho (h ▸ he)
        simp [ho, Ne.symm ho, hk]
    · rw [setStep, if_neg he]
      by_cases ho : entry.1 = other
      · have hk : other ≠ key := fun h => he (ho.trans h)
        simp [ho, hk]
      · simpa [ho] using ih

/-- What a tick learns about the L1 claims of a row. -/
structure UnrolledClaims where
  /-- Each claim has confirmed or been lost. -/
  settled : Bool
  /-- Reasons of the lost ones. -/
  lost : List String
  /-- Outputs whose L1 claim has confirmed. -/
  confirmed : List Outpoint
  /-- First throw, held until every other output has had its turn. -/
  error : Option Fault

/-- The wallet calls and store writes of one claiming row. -/
structure ClaimPort {Op : Type} (Ans : Op → Type) where
  /-- Every outpoint the script has held, when the wallet can say. -/
  findLockupOutpoints : Option (Program Ans Fault (List LockupOutpoint))
  /-- Advance one L1 claim: the records saved on the way, then the outcome. -/
  claimUnrolled : Option (Outpoint → Option String →
    Program Ans Fault (List String × Except Fault UnrolledSpendStep))
  /-- The row's preimage, when the spend of this outpoint reveals it. -/
  findClaimPreimage : Option (Outpoint → Program Ans Fault (Option String))
  /-- Write the `unrolled_claim` column. -/
  patchUnrolled : UnrolledSteps → Program Ans Fault (Except Fault Unit)
  /-- Write the `claim_ark_txid` column. -/
  patchClaimTxid : String → Program Ans Fault Unit
  /-- Park the claiming row with this reason. -/
  fail : String → Program Ans Fault Unit
  /-- `claiming -> claimed` with no further column. -/
  finish : Program Ans Fault Bool

variable (port : ClaimPort Ans)

/-- Record a step unless the row already holds it. A failed write leaves the
step in memory all the same. -/
def keep (steps : UnrolledSteps) (key : Outpoint) (step : UnrolledSpendStep) :
    Program Ans Fault (UnrolledSteps × Except Fault Unit) :=
  if stepOf steps key = some step then return (steps, .ok ())
  else do
    let written ← port.patchUnrolled (setStep key step steps)
    return (setStep key step steps, written)

/-- Write the records an L1 claim saved on its way; a failed write ends it. -/
def keepSaved (key : Outpoint) :
    List String → UnrolledSteps → Program Ans Fault (UnrolledSteps × Except Fault Unit)
  | [], steps => return (steps, .ok ())
  | record :: saved, steps => do
    let (steps, written) ← keep port steps key (.pending record)
    match written with
    | .ok _ => keepSaved key saved steps
    | .error fault => return (steps, .error fault)

/-- The record a pending claim is followed under. -/
def recordOf : Option UnrolledSpendStep → Option String
  | some (.pending record) => some record
  | _ => none

/-- One L1 claim's turn: its throw, or a failed write, is handed back. -/
def advanceOne
    (claimUnrolled : Outpoint → Option String →
      Program Ans Fault (List String × Except Fault UnrolledSpendStep))
    (key : Outpoint) (steps : UnrolledSteps) :
    Program Ans Fault (UnrolledSteps × Except Fault Unit) := do
  let (saved, outcome) ← claimUnrolled key (recordOf (stepOf steps key))
  let (steps, written) ← keepSaved port key saved steps
  match written, outcome with
  | .error fault, _ => return (steps, .error fault)
  | .ok _, .error thrown => return (steps, .error thrown)
  | .ok _, .ok .waiting => return (steps, .ok ())
  | .ok _, .ok step => keep port steps key step

/-- Advance each L1 claim in turn, even when another one throws. -/
def advanceEach
    (claimUnrolled : Outpoint → Option String →
      Program Ans Fault (List String × Except Fault UnrolledSpendStep)) :
    List Outpoint → UnrolledSteps → Option Fault → Program Ans Fault (UnrolledSteps × Option Fault)
  | [], steps, error => return (steps, error)
  | key :: keys, steps, error =>
    match stepOf steps key with
    | some (.confirmed _) => advanceEach claimUnrolled keys steps error
    | _ => do
      let (steps, outcome) ← advanceOne port claimUnrolled key steps
      match outcome with
      | .ok _ => advanceEach claimUnrolled keys steps error
      | .error thrown => advanceEach claimUnrolled keys steps (error.or (some thrown))

/-- Why an L1 claim is lost, when it is. -/
def lostReason (key : Outpoint) : Option UnrolledSpendStep → Option String
  | some .spent => some (outpointKey key ++ " spent on L1 by a transaction that is not ours")
  | some (.closed reason) => some (outpointKey key ++ ": " ++ reason)
  | _ => none

/-- Sum up the steps after a pass. -/
def claimsOf (keys : List Outpoint) (steps : UnrolledSteps) (error : Option Fault) :
    UnrolledClaims where
  settled := keys.all fun key => match stepOf steps key with
    | some .spent => true
    | some (.closed _) => true
    | some (.confirmed _) => true
    | _ => false
  lost := keys.filterMap fun key => lostReason key (stepOf steps key)
  confirmed := keys.filter fun key => match stepOf steps key with
    | some (.confirmed _) => true
    | _ => false
  error := error

/-- The send legs' co-signed L1 claims, one per output the client unrolled.
None when the wallet cannot make them or nothing was unrolled. -/
def advanceUnrolledClaims (unrolledClaim : Option UnrolledSteps) :
    Program Ans Fault (Option UnrolledClaims) :=
  match port.findLockupOutpoints, port.claimUnrolled with
  | some findLockupOutpoints, some claimUnrolled => do
    let steps := unrolledClaim.getD []
    let outpoints ← findLockupOutpoints
    let found := (outpoints.filter LockupOutpoint.unrolled).map LockupOutpoint.outpoint
    let keys := (steps.map Prod.fst ++ found).eraseDups
    if keys.isEmpty then return none
    let (steps, error) ← advanceEach port claimUnrolled keys steps none
    return some (claimsOf keys steps error)
  | _, _ => return none

/-- `claimed` once every L1 claim confirmed, parked once one is lost and none
is still out. -/
def settleUnrolledClaims (claims : UnrolledClaims) (recourse : String) :
    Program Ans Fault Bool :=
  if !claims.settled then
    match claims.error with
    | some error => throw error
    | none => return false
  else if claims.lost.isEmpty then port.finish
  else do
    port.fail ("L1 claim of the unrolled lockup lost: " ++ "; ".intercalate claims.lost ++ " — " ++
      recourse)
    return false

/-- What a tick may count as collected. -/
structure CollectionEvidence where
  /-- Every outpoint the script has held, as read after this tick's claim. -/
  outpoints : List LockupOutpoint
  /-- Offchain outputs a claim accepted this tick. -/
  claimedOffchain : List Outpoint
  /-- Unrolled outputs whose L1 claim has confirmed. -/
  claimedOnL1 : List Outpoint
  /-- Offchain outputs the read shows spent whose spend reveals our preimage. -/
  spentByUs : List Outpoint

/-- Adopted outputs not yet collected on either rail. One the read does not
show is unknown, never collected. -/
def uncollected (adopted : List AdoptedOutput) (evidence : CollectionEvidence) :
    List AdoptedOutput :=
  adopted.filter fun output =>
    if output.outpoint ∈ evidence.claimedOffchain then false
    else match evidence.outpoints.find? fun seen => seen.outpoint = output.outpoint with
      | none => true
      | some seen =>
        if seen.unrolled then decide (output.outpoint ∉ evidence.claimedOnL1)
        else if seen.spent then decide (output.outpoint ∉ evidence.spentByUs)
        else true

/-- Ask for each spent offchain outpoint whether its spend reveals our preimage. -/
def revealedAmong (findClaimPreimage : Outpoint → Program Ans Fault (Option String)) :
    List Outpoint → Program Ans Fault (List Outpoint)
  | [] => return []
  | outpoint :: rest => do
    let preimage ← findClaimPreimage outpoint
    let ours ← revealedAmong findClaimPreimage rest
    return if preimage.isSome then outpoint :: ours else ours

/-- Spent offchain outputs whose spend reveals our preimage. A wallet that
cannot look trusts every spend. -/
def spentByUs (outpoints : List LockupOutpoint) (claimedOffchain : List Outpoint) :
    Program Ans Fault (List Outpoint) :=
  let candidates := (outpoints.filter fun seen =>
    seen.spent && !seen.unrolled && decide (seen.outpoint ∉ claimedOffchain)).map
      LockupOutpoint.outpoint
  match port.findClaimPreimage with
  | none => return candidates
  | some findClaimPreimage => revealedAmong findClaimPreimage candidates

/-- `claims?.confirmed ?? []`. -/
def confirmedOf : Option UnrolledClaims → List Outpoint
  | some claims => claims.confirmed
  | none => []

/-- Each output adopted at funding that neither rail has collected. Empty for a
row without a recorded set, and for a wallet that cannot list outpoints. -/
def lockupLeftover (lockupOutpoints : Option (List AdoptedOutput)) (claimedNow : List Outpoint)
    (claims : Option UnrolledClaims) : Program Ans Fault (List Outpoint) :=
  match lockupOutpoints, port.findLockupOutpoints with
  | some adopted, some findLockupOutpoints => do
    let outpoints ← findLockupOutpoints
    let ours ← spentByUs port outpoints claimedNow
    return (uncollected adopted ⟨outpoints, claimedNow, confirmedOf claims, ours⟩).map
      AdoptedOutput.outpoint
  | _, _ => return []

/-- Retry until the refund deadline, then park. -/
def parkLeftover (id : String) (leftover : List Outpoint) (pastDeadline : Bool)
    (recourse : String) : Program Ans Fault Bool :=
  if !pastDeadline then
    throw (Fault.error ("swap " ++ id ++ ": lockup output(s) " ++
      ", ".intercalate (leftover.map outpointKey) ++ " not yet collected"))
  else do
    port.fail ("lockup output(s) " ++ ", ".intercalate (leftover.map outpointKey) ++
      " uncollected at the refund deadline — " ++ recourse)
    return false

/-- Never `claimed` while an adopted output is out: retried until the refund
deadline, then parked. -/
def awaitLeftover (id : String) (claimTxid : Option String) (leftover : List Outpoint)
    (pastDeadline : Bool) (recourse : String) : Program Ans Fault Bool :=
  match claimTxid with
  | some txid => do
    port.patchClaimTxid txid
    parkLeftover port id leftover pastDeadline recourse
  | none => parkLeftover port id leftover pastDeadline recourse

/-! ## Licences -/

/-- A discipline that never minds what a claiming row does. -/
structure FreePort (D : Discipline Ans) (port : ClaimPort Ans) : Prop where
  findLockupOutpoints : ∀ read ∈ port.findLockupOutpoints, D.Free read
  claimUnrolled : ∀ claim ∈ port.claimUnrolled, ∀ key record, D.Free (claim key record)
  findClaimPreimage : ∀ find ∈ port.findClaimPreimage, ∀ outpoint, D.Free (find outpoint)
  patchUnrolled : ∀ steps, D.Free (port.patchUnrolled steps)
  patchClaimTxid : ∀ txid, D.Free (port.patchClaimTxid txid)
  fail : ∀ reason, D.Free (port.fail reason)
  finish : D.Free port.finish

section Free

variable {D : Discipline Ans} {port} (hp : FreePort D port)

include hp

/-- Keeping one step is licensed. -/
theorem free_keep (steps : UnrolledSteps) (key : Outpoint) (step : UnrolledSpendStep) :
    D.Free (keep port steps key step) := by
  unfold keep
  split
  · exact Discipline.free_ret _
  · exact (hp.patchUnrolled _).bind fun _ => Discipline.free_ret _

/-- Keeping the saved steps is licensed. -/
theorem free_keepSaved (key : Outpoint) (saved : List String) (steps : UnrolledSteps) :
    D.Free (keepSaved port key saved steps) := by
  induction saved generalizing steps with
  | nil => exact Discipline.free_ret _
  | cons record saved ih =>
    refine (free_keep hp _ _ _).bind fun kept => ?_
    rcases kept with ⟨steps, _ | _⟩
    · exact Discipline.free_ret _
    · exact ih steps

/-- Advancing one unrolled claim is licensed. -/
theorem free_advanceOne {claimUnrolled} (hc : claimUnrolled ∈ port.claimUnrolled) (key : Outpoint)
    (steps : UnrolledSteps) : D.Free (advanceOne port claimUnrolled key steps) := by
  refine (hp.claimUnrolled _ hc _ _).bind fun answer => ?_
  refine (free_keepSaved hp _ _ _).bind fun kept => ?_
  rcases kept with ⟨steps, _ | _⟩
  · exact Discipline.free_ret _
  · rcases answer with ⟨_, _ | step⟩
    · exact Discipline.free_ret _
    · cases step with
      | waiting => exact Discipline.free_ret _
      | spent => exact free_keep hp _ _ _
      | closed reason => exact free_keep hp _ _ _
      | pending record => exact free_keep hp _ _ _
      | confirmed record => exact free_keep hp _ _ _

/-- Advancing every unrolled claim is licensed. -/
theorem free_advanceEach {claimUnrolled} (hc : claimUnrolled ∈ port.claimUnrolled)
    (keys : List Outpoint) (steps : UnrolledSteps) (error : Option Fault) :
    D.Free (advanceEach port claimUnrolled keys steps error) := by
  induction keys generalizing steps error with
  | nil => exact Discipline.free_ret _
  | cons key keys ih =>
    unfold advanceEach
    split
    · exact ih _ _
    · refine (free_advanceOne hp hc _ _).bind fun turn => ?_
      rcases turn with ⟨steps, _ | _⟩
      · exact ih _ _
      · exact ih _ _

/-- Advancing the unrolled claims of a row is licensed. -/
theorem free_advanceUnrolledClaims (unrolledClaim : Option UnrolledSteps) :
    D.Free (advanceUnrolledClaims port unrolledClaim) := by
  unfold advanceUnrolledClaims
  split
  · next find claim hf hc =>
    refine (hp.findLockupOutpoints _ hf).bind fun outpoints => ?_
    dsimp only
    split
    · exact Discipline.free_ret _
    · exact (free_advanceEach hp hc _ _ _).bind fun _ => Discipline.free_ret _
  · exact Discipline.free_ret _

/-- Settling the unrolled claims of a row is licensed. -/
theorem free_settleUnrolledClaims (claims : UnrolledClaims) (recourse : String) :
    D.Free (settleUnrolledClaims port claims recourse) := by
  unfold settleUnrolledClaims
  split
  · split
    · exact Discipline.free_throw _
    · exact Discipline.free_ret _
  · split
    · exact hp.finish
    · exact (hp.fail _).bind fun _ => Discipline.free_ret _

/-- Looking for a revealed preimage is licensed. -/
theorem free_revealedAmong {find} (hf : find ∈ port.findClaimPreimage) (outpoints : List Outpoint) :
    D.Free (revealedAmong find outpoints) := by
  induction outpoints with
  | nil => exact Discipline.free_ret _
  | cons outpoint rest ih =>
    refine (hp.findClaimPreimage _ hf outpoint).bind fun preimage => ?_
    exact ih.bind fun _ => Discipline.free_ret _

/-- Working out what a claim left behind is licensed. -/
theorem free_lockupLeftover (adopted : Option (List AdoptedOutput)) (claimedNow : List Outpoint)
    (claims : Option UnrolledClaims) : D.Free (lockupLeftover port adopted claimedNow claims) := by
  unfold lockupLeftover
  split
  · next find _ hf =>
    refine (hp.findLockupOutpoints _ hf).bind fun outpoints => ?_
    have hs : D.Free (spentByUs port outpoints claimedNow) := by
      unfold spentByUs
      dsimp only
      split
      · exact Discipline.free_ret _
      · next reveal hr => exact free_revealedAmong hp hr _
    exact hs.bind fun _ => Discipline.free_ret _
  · exact Discipline.free_ret _

/-- Parking a row over its leftover is licensed. -/
theorem free_parkLeftover (id : String) (leftover : List Outpoint) (pastDeadline : Bool)
    (recourse : String) : D.Free (parkLeftover port id leftover pastDeadline recourse) := by
  unfold parkLeftover
  split
  · exact Discipline.free_throw _
  · exact (hp.fail _).bind fun _ => Discipline.free_ret _

/-- Waiting for the leftover is licensed. -/
theorem free_awaitLeftover (id : String) (claimTxid : Option String) (leftover : List Outpoint)
    (pastDeadline : Bool) (recourse : String) :
    D.Free (awaitLeftover port id claimTxid leftover pastDeadline recourse) := by
  cases claimTxid with
  | none => exact free_parkLeftover hp _ _ _ _
  | some txid => exact (hp.patchClaimTxid txid).bind fun _ => free_parkLeftover hp _ _ _ _

end Free

end IntentSolver.LockupCollection
