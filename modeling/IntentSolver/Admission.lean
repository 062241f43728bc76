import IntentSolver.WorkerInterleaving
import Mathlib.Algebra.BigOperators.Group.List.Basic
import Mathlib.Algebra.Ring.Int.Defs

/-!
# Admission control

In-memory counters of what quotes in flight have claimed: sats against the exposure cap,
sats against the wallet, sats of named inventory pools. Every read-modify-write runs as a
job of one queue, one job at a time; releases and `restoreInventory` run between any two
awaits of such a job. A claim is given back by an undo closure, which a returned
reservation runs at most once.
-/

namespace IntentSolver.Admission

open WorkerProgram WorkerInterleaving

/-- What a call may throw. -/
inductive AdmissionFault where
  | rangeError (message : String)
  /-- An insert met a row of the same hash. -/
  | uniqueConstraint
  /-- An error of a callback. -/
  | error (message : String)
  deriving DecidableEq

/-- `Number.MAX_SAFE_INTEGER`. -/
def MAX_SAFE_INTEGER : ℤ := 9007199254740991

/-- `Number.isSafeInteger` of an integer. -/
def isSafeInteger (value : ℤ) : Bool :=
  decide (-MAX_SAFE_INTEGER ≤ value ∧ value ≤ MAX_SAFE_INTEGER)

/-! ## The counters -/

/-- The counters of `AdmissionControl`; a pool without an entry stands at zero. -/
structure AdmissionControl where
  reserved : ℤ := 0
  reservedFloat : ℤ := 0
  inventory : String → ℤ := fun _ => 0
  inventoryGeneration : ℕ := 0

namespace AdmissionControl

/-- Claim exposure; none when the cap does not allow it. -/
def claimExposure (control : AdmissionControl) (sats capSats committed : ℤ) :
    Option AdmissionControl :=
  if capSats < committed + control.reserved + sats then none
  else some { control with reserved := control.reserved + sats }

/-- Claim float; none when the wallet does not hold it. -/
def claimFloat (control : AdmissionControl) (required availableSats owed : ℤ) :
    Option AdmissionControl :=
  if availableSats < owed + control.reservedFloat + required then none
  else some { control with reservedFloat := control.reservedFloat + required }

/-- What is held of one pool. -/
def outstandingInventorySats (control : AdmissionControl) (poolId : String) : ℤ :=
  control.inventory poolId

/-- Hold sats of a pool, whatever it has left. -/
def restoreInventory (control : AdmissionControl) (poolId : String) (requiredSats : ℤ) :
    Except AdmissionFault AdmissionControl :=
  if poolId = "" ∨ isSafeInteger requiredSats = false ∨ requiredSats ≤ 0 then
    .error (.rangeError "invalid inventory reservation")
  else if isSafeInteger (control.outstandingInventorySats poolId + requiredSats) = false then
    .error (.rangeError "inventory reservation exceeds safe integer range")
  else
    .ok { control with
      inventory := Function.update control.inventory poolId
        (control.outstandingInventorySats poolId + requiredSats) }

/-- Give sats of a pool back; every hold that ends starts a new generation. -/
def releaseInventory (control : AdmissionControl) (poolId : String) (sats : ℤ) :
    AdmissionControl :=
  { control with
    inventory := Function.update control.inventory poolId
      (control.outstandingInventorySats poolId - sats)
    inventoryGeneration := control.inventoryGeneration + 1 }

end AdmissionControl

/-- A closure that gives one claim back. -/
inductive Undo where
  | exposure (sats : ℤ)
  | float (required : ℤ)
  | pool (poolId : String) (sats : ℤ)
  /-- `held.release()` of a reservation of its own: the second call does nothing. -/
  | held (poolId : String) (sats : ℤ) (released : Bool)

/-- Call the closure. -/
def Undo.call (control : AdmissionControl) : Undo → AdmissionControl
  | .exposure sats => { control with reserved := control.reserved - sats }
  | .float required => { control with reservedFloat := control.reservedFloat - required }
  | .pool poolId sats => control.releaseInventory poolId sats
  | .held poolId sats released =>
    if released then control else control.releaseInventory poolId sats

/-- The closure after it was called. -/
def Undo.called : Undo → Undo
  | .held poolId sats _ => .held poolId sats true
  | undo => undo

/-- `undo.forEach((release) => release())`. -/
def undoAll (undo : List Undo) (control : AdmissionControl) : AdmissionControl :=
  undo.foldl Undo.call control

/-! ## Requests and reservations -/

/-- Sats the corridor must hold; none available when no reading has landed. -/
structure FloatRequirement where
  requiredSats : ℤ
  available : Option ℤ

/-- Sats a named pool must hold. -/
structure InventoryRequirement extends FloatRequirement where
  poolId : String

/-- What a quote asks for; its callbacks are answered by the world. -/
structure AdmissionRequest where
  giveSats : ℤ
  capSats : ℤ
  float : Option FloatRequirement := none
  inventory : Option InventoryRequirement := none

/-- How much a reservation claims, by the request it answers. -/
structure Size where
  exposure : ℤ := 0
  float : ℤ := 0
  pool : Option (String × ℤ) := none

/-- What a reservation claims of one pool. -/
def Size.inventory (size : Size) (poolId : String) : ℤ :=
  match size.pool with
  | some (id, sats) => if id = poolId then sats else 0
  | none => 0

/-- A reservation that was returned to a caller. -/
structure Issued where
  size : Size
  undo : List Undo
  released : Bool := false
  /-- Whose call returned it. -/
  worker : ℕ
  /-- The row that supersedes it is durable. -/
  landed : Bool := false
  /-- It landed after the committed total was last read. -/
  recent : Bool := false

/-- `releasing(undo)`, returned to this caller. -/
def issuedTo (worker : ℕ) (size : Size) (undo : List Undo) : Issued :=
  { size := size, undo := undo, worker := worker }

/-- What is claimed of one counter by reservations returned and not released. -/
def outstanding (issued : List Issued) (part : Size → ℤ) : ℤ :=
  ((issued.filter fun reservation => !reservation.released).map fun reservation =>
    part reservation.size).sum

/-! ## Actions -/

/-- The ceiling that refused. -/
inductive Ceiling where
  | exposure
  | float
  deriving DecidableEq

/-- Atomic actions of a call. -/
inductive AdmissionOp where
  /-- The queue runs this job next. -/
  | enter
  /-- The job is over; with a reservation of this size, or without one. -/
  | settle (size : Option Size)
  | inventoryFor
  | committedSats
  | owedSats
  | onRefused (ceiling : Ceiling)
  | inventoryGeneration
  | outstandingInventorySats (poolId : String)
  | claimExposure (sats capSats committed : ℤ)
  | claimFloat (required availableSats owed : ℤ)
  /-- Inside a job: the hold becomes one of its undo closures. -/
  | restoreInventory (poolId : String) (requiredSats : ℤ) (nested : Bool)
  | undoExposure (sats : ℤ)
  | undoAll
  /-- Outside the queue: the hold is the reservation. -/
  | restore (poolId : String) (requiredSats : ℤ)
  | release (handle : ℕ)
  /-- Everything a quote does between its reservation and its insert; what to insert. -/
  | prepare
  | insertQuote (handle : ℕ) (amountSats : ℕ)

/-- What each action answers. -/
abbrev AdmissionOp.Ans : AdmissionOp → Type
  | .enter => Unit
  | .settle _ => Option ℕ
  | .inventoryFor => Except AdmissionFault (Option InventoryRequirement)
  | .committedSats => Except AdmissionFault ℤ
  | .owedSats => Except AdmissionFault ℤ
  | .onRefused _ => Except AdmissionFault Unit
  | .inventoryGeneration => ℕ
  | .outstandingInventorySats _ => ℤ
  | .claimExposure _ _ _ => Bool
  | .claimFloat _ _ _ => Bool
  | .restoreInventory _ _ _ => Except AdmissionFault Unit
  | .undoExposure _ => Unit
  | .undoAll => Unit
  | .restore _ _ => Except AdmissionFault ℕ
  | .release _ => Unit
  | .prepare => Except AdmissionFault (Option ℕ)
  | .insertQuote _ _ => Except AdmissionFault Unit

/-- Programs of the quoting process. -/
abbrev Prog (α : Type) : Type := Program AdmissionOp.Ans AdmissionFault α

/-- One action. -/
def issue (op : AdmissionOp) : Prog op.Ans := Program.issue op

/-! ## The calls -/

/-- One job of the queue; a job that throws ends without a reservation. -/
def serialise (job : Prog (Option Size)) : Prog (Option ℕ) := do
  issue .enter
  let size ← job.tryCatch fun error => do
    let _ ← issue (.settle none)
    throw error
  issue (.settle size)

/-- The job of `reserve`. -/
def reserveJob (sats capSats : ℤ) : Prog (Option Size) := do
  if ¬0 < sats then
    throw (.rangeError ("reserve() needs a positive size, got " ++ toString sats))
  let committed ← Program.ofExcept (← issue .committedSats)
  if ← issue (.claimExposure sats capSats committed) then return some { exposure := sats }
  return none

/-- Claim exposure if the cap allows. -/
def reserve (sats capSats : ℤ) : Prog (Option ℕ) := serialise (reserveJob sats capSats)

/-- The job of `reserveInventory`. -/
def reserveInventoryJob (poolId : String) (requiredSats available : ℤ) : Prog (Option Size) := do
  let obligations ← Program.ofExcept (← issue .owedSats)
  if isSafeInteger available = false ∨ available < 0 ∨ isSafeInteger obligations = false ∨
      obligations < 0 then
    throw (.rangeError "invalid inventory balance or obligations")
  if available < obligations + (← issue (.outstandingInventorySats poolId)) + requiredSats then
    return none
  Program.ofExcept (← issue (.restoreInventory poolId requiredSats false))
  return some { pool := some (poolId, requiredSats) }

/-- Claim sats of a pool if it holds them. -/
def reserveInventory (poolId : String) (requiredSats available : ℤ) : Prog (Option ℕ) :=
  serialise (reserveInventoryJob poolId requiredSats available)

/-- `restoreInventory` as the rebalancer calls it. -/
def restoreInventory (poolId : String) (requiredSats : ℤ) : Prog ℕ := do
  Program.ofExcept (← issue (.restore poolId requiredSats))

/-- The requirement cannot be checked. -/
def invalidRequirement (inventory : InventoryRequirement) (owed : ℤ) : Bool :=
  !isSafeInteger owed || decide (owed < 0) || !isSafeInteger inventory.requiredSats ||
    decide (inventory.requiredSats ≤ 0) ||
    match inventory.available with
    | some sats => !isSafeInteger sats || decide (sats < 0)
    | none => false

/-- The pool cannot carry the requirement, or its balance was read in an older generation. -/
def inventoryShort (inventory : InventoryRequirement) (owed held : ℤ) (generation now : ℕ) :
    Bool :=
  decide (generation ≠ now) ||
    match inventory.available with
    | some sats => decide (sats < owed + held + inventory.requiredSats)
    | none => true

/-- The inventory ceiling of `admit`; false when it refused. -/
def holdInventory (giveSats : ℤ) (generation : ℕ) (inventory : InventoryRequirement) :
    Prog Bool := do
  let owed ← Program.ofExcept (← issue .owedSats)
  if invalidRequirement inventory owed then
    throw (.rangeError "invalid inventory requirement")
  let now ← issue .inventoryGeneration
  let held ← issue (.outstandingInventorySats inventory.poolId)
  if inventoryShort inventory owed held generation now then
    issue (.undoExposure giveSats)
    Program.ofExcept (← issue (.onRefused .float))
    return false
  Program.ofExcept (← issue (.restoreInventory inventory.poolId inventory.requiredSats true))
  return true

/-- A refusal by the float ceiling: every claim so far is undone, then the caller hears. -/
def refuseFloat : Prog (Option Size) := do
  issue .undoAll
  Program.ofExcept (← issue (.onRefused .float))
  return none

/-- The float ceiling of `admit`; the size is what is claimed so far. -/
def takeFloat (size : Size) : Option FloatRequirement → Prog (Option Size)
  | none => return some size
  | some float =>
    match float.available with
    | none => refuseFloat
    | some availableSats => do
      let owed ← Program.ofExcept (← issue .owedSats)
      if ← issue (.claimFloat float.requiredSats availableSats owed) then
        return some { size with float := float.requiredSats }
      refuseFloat

/-- Both ceilings behind the exposure cap. -/
def takeCeilings (request : AdmissionRequest) (generation : ℕ) :
    Option InventoryRequirement → Prog (Option Size)
  | none => takeFloat { exposure := request.giveSats } request.float
  | some inventory => do
    if ← holdInventory request.giveSats generation inventory then
      takeFloat
        { exposure := request.giveSats, pool := some (inventory.poolId, inventory.requiredSats) }
        request.float
    else return none

/-- The job of `admit`; an error behind the exposure claim undoes what was claimed. -/
def admitJob (request : AdmissionRequest) (generation : ℕ)
    (guardedInventory : Option InventoryRequirement) : Prog (Option Size) := do
  let committed ← Program.ofExcept (← issue .committedSats)
  if ← issue (.claimExposure request.giveSats request.capSats committed) then
    (takeCeilings request generation guardedInventory).tryCatch fun error => do
      issue .undoAll
      throw error
  else do
    Program.ofExcept (← issue (.onRefused .exposure))
    return none

/-- The inventory a request is held to. -/
def inventoryOf (request : AdmissionRequest) : Prog (Option InventoryRequirement) :=
  match request.inventory with
  | some inventory => return some inventory
  | none => do Program.ofExcept (← issue .inventoryFor)

/-- Claim headroom for a quote under every ceiling it names. -/
def admitRequest (request : AdmissionRequest) : Prog (Option ℕ) := do
  if ¬0 < request.giveSats then
    throw (.rangeError ("admit() needs a positive size, got " ++ toString request.giveSats))
  let generation ← issue .inventoryGeneration
  let guardedInventory ← inventoryOf request
  serialise (admitJob request generation guardedInventory)

/-! ## The process -/

/-- The memory of the process and the live rows behind it. -/
structure AdmissionWorld where
  control : AdmissionControl := {}
  /-- Whose job the queue is running. -/
  turn : Option ℕ := none
  /-- The undo closures of that job. -/
  undo : List Undo := []
  /-- Every reservation that was returned, in order. -/
  issued : List Issued := []
  /-- `amount_sats` of the live rows. -/
  rows : List ℕ := []
  /-- The committed total was read and not yet held against the cap. -/
  reading : Bool := false

/-- What the outside answers; an action reads the field it asks for. -/
structure AdmissionReply where
  inventoryFor : Except AdmissionFault (Option InventoryRequirement) := .ok none
  sats : Except AdmissionFault ℤ := .ok 0
  refused : Except AdmissionFault Unit := .ok ()
  prepared : Except AdmissionFault (Option ℕ) := .ok none
  /-- The insert reached the table. -/
  lands : Bool := true
  inserted : Except AdmissionFault Unit := .ok ()

/-- The callbacks of the requests: how they answer, and from what. -/
structure Callbacks where
  committedSats : AdmissionReply → List ℕ → Except AdmissionFault ℤ
  onRefused : AdmissionReply → Ceiling → Except AdmissionFault Unit

/-- Callbacks that answer, throw or reject as they like. -/
def anyCallbacks : Callbacks := ⟨fun reply _ => reply.sats, fun reply _ => reply.refused⟩

/-- Effect of a release; a second one does nothing. -/
def releaseAt (handle : ℕ) (world : AdmissionWorld) : Option AdmissionWorld :=
  match world.issued[handle]? with
  | some reservation =>
    if reservation.released then some world
    else some { world with
      control := undoAll reservation.undo world.control
      issued := world.issued.set handle { reservation with released := true } }
  | none => none

/-- Effect of an insert that reaches the table. -/
def landAt (handle amountSats : ℕ) (world : AdmissionWorld) : Option AdmissionWorld :=
  match world.issued[handle]? with
  | some reservation => some { world with
      rows := amountSats :: world.rows
      issued := world.issued.set handle { reservation with landed := true, recent := true } }
  | none => none

/-- The reservation is older than the total that is being read. -/
def Issued.older (reservation : Issued) : Issued := { reservation with recent := false }

/-- Effect of one action. -/
def perform (callbacks : Callbacks) (worker : ℕ) : (op : AdmissionOp) → AdmissionReply →
    AdmissionWorld → Option (op.Ans × AdmissionWorld)
  | .enter, _, world =>
    if world.turn = none then some ((), { world with turn := some worker, undo := [] }) else none
  | .settle none, _, world => some (none, { world with turn := none, undo := [] })
  | .settle (some size), _, world =>
    some (some world.issued.length, { world with
      turn := none
      undo := []
      issued := world.issued ++ [issuedTo worker size world.undo] })
  | .inventoryFor, reply, world => some (reply.inventoryFor, world)
  | .committedSats, reply, world =>
    some (callbacks.committedSats reply world.rows, { world with
      issued := world.issued.map Issued.older
      reading := (callbacks.committedSats reply world.rows).isOk })
  | .owedSats, reply, world => some (reply.sats, world)
  | .onRefused ceiling, reply, world => some (callbacks.onRefused reply ceiling, world)
  | .inventoryGeneration, _, world => some (world.control.inventoryGeneration, world)
  | .outstandingInventorySats poolId, _, world =>
    some (world.control.outstandingInventorySats poolId, world)
  | .claimExposure sats capSats committed, _, world =>
    match world.control.claimExposure sats capSats committed with
    | some control =>
      some (true, { world with control := control, undo := [.exposure sats], reading := false })
    | none => some (false, { world with reading := false })
  | .claimFloat required availableSats owed, _, world =>
    match world.control.claimFloat required availableSats owed with
    | some control =>
      some (true, { world with control := control, undo := world.undo ++ [.float required] })
    | none => some (false, world)
  | .restoreInventory poolId requiredSats nested, _, world =>
    match world.control.restoreInventory poolId requiredSats with
    | .ok control =>
      some (.ok (), { world with
        control := control
        undo := world.undo ++
          [if nested then .held poolId requiredSats false else .pool poolId requiredSats] })
    | .error error => some (.error error, world)
  | .undoExposure sats, _, world =>
    some ((), { world with control := Undo.call world.control (.exposure sats) })
  | .undoAll, _, world =>
    some ((), { world with
      control := Admission.undoAll world.undo world.control
      undo := world.undo.map Undo.called })
  | .restore poolId requiredSats, _, world =>
    match world.control.restoreInventory poolId requiredSats with
    | .ok control =>
      some (.ok world.issued.length, { world with
        control := control
        issued := world.issued ++
          [issuedTo worker { pool := some (poolId, requiredSats) } [.pool poolId requiredSats]] })
    | .error error => some (.error error, world)
  | .release handle, _, world => (releaseAt handle world).map fun next => ((), next)
  | .prepare, reply, world => some (reply.prepared, world)
  | .insertQuote handle amountSats, reply, world =>
    if reply.lands then
      (landAt handle amountSats world).map fun next => (reply.inserted, next)
    else some (reply.inserted, world)

/-- What happens without a call. -/
inductive AdmissionMove where
  /-- A live row reaches a state that is not live. -/
  | retire (index : ℕ)

/-- Effect of one such move. -/
def stir : AdmissionMove → AdmissionWorld → Option AdmissionWorld
  | .retire index, world => some { world with rows := world.rows.eraseIdx index }

/-- Concurrent calls in one process. -/
def processMachine (callbacks : Callbacks) {Job : Type} (program : Job → Prog Unit) : Machine where
  Op := AdmissionOp
  Ans := AdmissionOp.Ans
  Err := AdmissionFault
  World := AdmissionWorld
  Reply := AdmissionReply
  Move := AdmissionMove
  Job := Job
  perform := perform callbacks
  stir := stir
  program := program

/-- The calls of the class. -/
inductive AdmissionCall where
  | reserve (sats capSats : ℤ)
  | admitRequest (request : AdmissionRequest)
  | reserveInventory (poolId : String) (requiredSats available : ℤ)
  | restoreInventory (poolId : String) (requiredSats : ℤ)
  | release (handle : ℕ)

/-- One call. -/
def AdmissionCall.program : AdmissionCall → Prog Unit
  | .reserve sats capSats => do
    let _ ← Admission.reserve sats capSats
  | .admitRequest request => do
    let _ ← Admission.admitRequest request
  | .reserveInventory poolId requiredSats available => do
    let _ ← Admission.reserveInventory poolId requiredSats available
  | .restoreInventory poolId requiredSats => do
    let _ ← Admission.restoreInventory poolId requiredSats
  | .release handle => issue (.release handle)

end IntentSolver.Admission
