import Mathlib.Algebra.BigOperators.Group.List.Basic
import Mathlib.Algebra.Order.Group.Int
import Mathlib.Algebra.Ring.Int.Defs
import Mathlib.Data.Int.Notation
import Mathlib.Data.List.Sort
import Mathlib.Logic.Function.Basic

/-!
# The shape of the float

The float is kept cut into pieces: small ones any swap can use, large ones that fund any swap
alone. Below a ceiling on their number loose coins are split into the pieces that are missing;
at the ceiling loose coins are merged into those pieces and one remainder. The coins worth
about one piece that expire last are keepers, and no plan spends them.
-/

namespace IntentSolver.VtxoPool

/-- One rung of the target shape. -/
structure PoolRung where
  /-- Piece size in sats. -/
  size : ℤ
  /-- How many pieces of the size the pool wants. -/
  want : ℤ
  deriving DecidableEq

/-- One coin, as the planner sees it. -/
structure PoolCoin where
  key : String
  value : ℤ
  usable : ℤ
  expiresAtMs : Option ℤ
  hasAssets : Bool
  /-- Renewal takes it this pass. -/
  renewalDue : Bool
  deriving DecidableEq

/-- What to spend, and what to pay back to the solver. -/
structure PoolPlan where
  inputs : List String
  outputs : List ℤ
  reason : String
  deriving DecidableEq

/-- The target shape for these limits. -/
def poolTarget (maxSats maxExposedSats : ℤ) : List PoolRung :=
  let concurrent := max 1 (maxExposedSats / max 1 maxSats)
  let small := max 1 (maxSats / 4)
  [⟨small, concurrent * 2⟩, ⟨maxSats, concurrent + 1⟩]

/-- The place of the largest rung a coin of this value can fully serve. -/
def rungOf (value : ℤ) (target : List PoolRung) : Option ℕ :=
  (target.zipIdx.reverse.find? fun entry => decide (entry.1.size ≤ value)).map Prod.snd

/-- The order of two coins by expiry; one that has none comes last. -/
def byExpiry (latestFirst : Bool) (first second : PoolCoin) : ℤ :=
  if first.expiresAtMs = second.expiresAtMs then 0
  else match first.expiresAtMs, second.expiresAtMs with
    | none, _ => 1
    | _, none => -1
    | some early, some late => if latestFirst then late - early else early - late

/-- A sum in parts that differ by at most one. -/
def evenly (sum : ℤ) (parts : ℕ) : List ℤ :=
  (List.range parts).map fun index : ℕ =>
    sum / parts + if (index : ℤ) < sum % parts then 1 else 0

/-- How many parts of at most this size a sum needs. -/
def partsOf (sum size : ℤ) : ℤ := (sum + size - 1) / size

/-- What a plan is made from. -/
structure PoolArgs where
  /-- Already filtered of reserved coins. -/
  coins : List PoolCoin
  target : List PoolRung
  /-- Coin count at which the pool stops splitting and starts merging. -/
  maxCount : ℤ
  maxInputs : ℤ
  /-- Outputs one transaction may create, an asset carrier included. -/
  maxOutputs : ℤ
  /-- The least an output may hold. -/
  minOutput : ℤ
  /-- The most an output may hold; negative means no limit. -/
  maxAmount : ℤ

/-- A coin with its place in the list, which tells equal coins apart. -/
abbrev Entry : Type := PoolCoin × ℕ

/-- The coins kept so far and how many of each rung they are. -/
structure Keepers where
  counts : ℕ → ℕ
  places : List ℕ

/-- A rung that is short of pieces. -/
structure ShortRung where
  size : ℤ
  missing : ℤ
  deriving DecidableEq

/-- Pieces handed out so far, the last one first, what is left to hand out, and the rungs
still short. -/
structure Pieces where
  pieces : List ℤ
  left : ℤ
  short : List ShortRung
  deriving DecidableEq

namespace PoolArgs

variable (args : PoolArgs)

/-- How many pieces the rung at a place wants. -/
def wantAt (rung : ℕ) : ℤ := (args.target[rung]?.map PoolRung.want).getD 0

/-- The largest piece size. -/
def largest : ℤ :=
  match args.target.map PoolRung.size with
  | [] => 0
  | size :: sizes => sizes.foldl max size

/-- The smallest piece size. -/
def smallest : ℤ :=
  match args.target.map PoolRung.size with
  | [] => 0
  | size :: sizes => sizes.foldl min size

/-- Everything the coins hold. -/
def total : ℤ := (args.coins.map PoolCoin.value).sum

/-- The coin count that separates splitting from merging. -/
def ceiling : ℤ := max args.maxCount (args.target.map PoolRung.want).sum

/-- Keep a coin that serves a rung which wants more. -/
def keep (keepers : Keepers) (entry : Entry) : Keepers :=
  match rungOf entry.1.usable args.target with
  | none => keepers
  | some rung =>
    if 2 * args.largest ≤ entry.1.usable ∨ args.wantAt rung ≤ keepers.counts rung then keepers
    else ⟨Function.update keepers.counts rung (keepers.counts rung + 1),
      keepers.places ++ [entry.2]⟩

/-- The keepers: the latest-expiring coins of each rung. -/
def keepers : Keepers :=
  (args.coins.zipIdx.insertionSort fun first second =>
    byExpiry true first.1 second.1 ≤ 0).foldl args.keep ⟨fun _ => 0, []⟩

/-- The coins a plan may spend. -/
def eligible : List Entry :=
  args.coins.zipIdx.filter fun entry =>
    decide (entry.2 ∉ args.keepers.places) && !entry.1.renewalDue

/-- The pool has reached its ceiling. -/
def consolidating : Bool := decide (args.ceiling ≤ args.coins.length)

/-- What a merge can pay out, when outputs are limited. -/
def capacity : Option ℤ :=
  if 0 ≤ args.maxAmount then some ((args.maxOutputs - 1) * args.maxAmount) else none

/-- The merge goes on with one coin after another, as far as the inputs and the capacity
reach. -/
def gatherMerge : List Entry → List Entry → ℤ → List Entry
  | [], inputs, _ => inputs
  | entry :: rest, inputs, gross =>
    if args.maxInputs ≤ inputs.length then inputs
    else if args.capacity.any fun capacity => decide (capacity < gross + entry.1.value) then
      gatherMerge rest inputs gross
    else gatherMerge rest (inputs ++ [entry]) (gross + entry.1.value)

/-- Soonest expiry first, then the smaller coin. -/
def mergeOrder (first second : Entry) : Prop :=
  let order := byExpiry false first.1 second.1
  (if order ≠ 0 then order else first.1.value - second.1.value) ≤ 0

instance : DecidableRel mergeOrder := fun _ _ => by unfold mergeOrder; infer_instance

/-- The coins a merge spends. -/
def merged : List Entry := args.gatherMerge (args.eligible.insertionSort mergeOrder) [] 0

/-- What the pieces that are missing would take. -/
def need : ℤ :=
  (args.target.zipIdx.map fun rung =>
    (rung.1.want - (args.keepers.counts rung.2 : ℤ)) * rung.1.size).sum + args.minOutput

/-- The split goes on with one coin after another until it has what it needs. -/
def gatherSplit : List Entry → List Entry → ℤ → List Entry
  | [], inputs, _ => inputs
  | entry :: rest, inputs, gross =>
    if args.maxInputs ≤ inputs.length ∨ args.need ≤ gross then inputs
    else gatherSplit rest (inputs ++ [entry]) (gross + entry.1.value)

/-- The coins a split spends, the largest first. -/
def cut : List Entry :=
  args.gatherSplit (args.eligible.insertionSort fun first second =>
    second.1.value - first.1.value ≤ 0) [] 0

/-- Some rung is short of pieces. -/
def isShort : Bool :=
  args.target.zipIdx.any fun rung => decide ((args.keepers.counts rung.2 : ℤ) < rung.1.want)

/-- The rungs short of pieces that may be paid out. -/
def short : List ShortRung :=
  (args.target.zipIdx.map fun rung =>
    ShortRung.mk rung.1.size (rung.1.want - args.keepers.counts rung.2)).filter fun rung =>
      decide (0 < rung.missing) && decide (args.minOutput ≤ rung.size) &&
        (decide (args.maxAmount < 0) || decide (rung.size ≤ args.maxAmount))

/-- An output the operator accepts. -/
def within (amount : ℤ) : Bool :=
  decide (args.minOutput ≤ amount) &&
    (decide (args.maxAmount < 0) || decide (amount ≤ args.maxAmount))

/-- What the loose coins say of the state of the pool. -/
def shape : String :=
  String.intercalate " " (args.target.zipIdx.map fun rung =>
    toString (args.keepers.counts rung.2) ++ "/" ++ toString rung.1.want ++ "x" ++
      toString rung.1.size)

/-- Loose coins that renewal is about to take. -/
def due : ℕ :=
  (args.coins.zipIdx.filter fun entry =>
    decide (entry.2 ∉ args.keepers.places) && entry.1.renewalDue).length

end PoolArgs

/-- One piece for each short rung in turn, as far as the slots and what is left reach; and
whether any was handed out. -/
def handOut (slots : ℤ) : List ShortRung → List ℤ → ℤ → List ShortRung → Bool → Pieces × Bool
  | [], pieces, left, seen, progress => (⟨pieces, left, seen⟩, progress)
  | rung :: rest, pieces, left, seen, progress =>
    if slots - 1 ≤ pieces.length then (⟨pieces, left, seen ++ rung :: rest⟩, progress)
    else if rung.missing ≤ 0 ∨ left < rung.size then
      handOut slots rest pieces left (seen ++ [rung]) progress
    else handOut slots rest (rung.size :: pieces) (left - rung.size)
      (seen ++ [{ rung with missing := rung.missing - 1 }]) true

/-- Round after round from the smallest rung, while pieces are handed out. Each round that
goes on fills a slot, so as many rounds as there are slots are enough. -/
def rounds (slots : ℤ) : ℕ → Pieces → Pieces
  | 0, state => state
  | fuel + 1, state =>
    if slots - 1 ≤ state.pieces.length then state
    else
      let round := handOut slots state.short state.pieces state.left [] false
      if round.2 then rounds slots fuel round.1 else round.1

/-- Take pieces back, the last one first, while a condition asks for it. -/
def takeBack (asks : ℕ → ℤ → Bool) : List ℤ → ℤ → List ℤ × ℤ
  | [], left => ([], left)
  | piece :: rest, left =>
    if asks (rest.length + 1) left then takeBack asks rest (left + piece)
    else (piece :: rest, left)

/-- A plan with the coins themselves. -/
structure Reshape where
  inputs : List Entry
  outputs : List ℤ
  /-- What the change that carries the assets holds. -/
  carrier : ℤ
  reason : String

/-- No plan. -/
def nonePlan (reason : String) : Reshape := ⟨[], [], 0, reason⟩

namespace PoolArgs

variable (args : PoolArgs) (inputs : List Entry)

/-- What the inputs hold. -/
def gross : ℤ := (inputs.map fun entry => entry.1.value).sum

/-- What the assets of the inputs ride on. -/
def carrier : ℤ := if inputs.any fun entry => entry.1.hasAssets then args.minOutput else 0

/-- The output the carrier takes. -/
def extra : ℤ := if 0 < args.carrier inputs then 1 else 0

/-- Outputs there is room for beside the carrier. -/
def slots : ℤ :=
  if args.consolidating then args.maxOutputs - args.extra inputs
  else min (args.maxOutputs - args.extra inputs)
    (args.ceiling - (args.coins.length - inputs.length) - args.extra inputs)

/-- The pieces handed out in rounds. -/
def handedOut : Pieces :=
  rounds (args.slots inputs) (args.slots inputs - 1).toNat
    ⟨[], gross inputs - args.carrier inputs, args.short⟩

/-- A remainder too small for an output takes pieces back. -/
def refilled : List ℤ × ℤ :=
  takeBack (fun _ left => decide (0 < left) && decide (left < args.minOutput))
    (args.handedOut inputs).pieces (args.handedOut inputs).left

/-- A remainder above the ceiling takes pieces back until its parts fit the slots. -/
def levelled : (List ℤ × ℤ) × ℕ :=
  let refilled := args.refilled inputs
  if 0 ≤ args.maxAmount ∧ args.maxAmount < refilled.2 then
    let levelled := takeBack (fun count left =>
      decide (args.slots inputs < count + partsOf left args.maxAmount)) refilled.1 refilled.2
    (levelled, (partsOf levelled.2 args.maxAmount).toNat)
  else (refilled, if 0 < refilled.2 then 1 else 0)

/-- The pieces that stay. -/
def pieces : List ℤ := (args.levelled inputs).1.1.reverse

/-- What is left beside them. -/
def left : ℤ := (args.levelled inputs).1.2

/-- The pieces and the remainder, in even parts. -/
def outputs : List ℤ := args.pieces inputs ++ evenly (args.left inputs) (args.levelled inputs).2

/-- Every output is one the operator accepts. -/
def bounded : Bool := (args.outputs inputs).all args.within

/-- How many coins there are after the plan. -/
def remain : ℤ :=
  args.coins.length - inputs.length + (args.outputs inputs).length + args.extra inputs

/-- What the plan says of assets. -/
def assetsNote : String :=
  if 0 < args.carrier inputs then
    "; assets ride a " ++ toString (args.carrier inputs) ++ " sat change"
  else ""

/-- How full the pool is. -/
def fill : String := toString args.coins.length ++ "/" ++ toString args.ceiling ++ " coins"

/-- Spend these inputs into pieces and a remainder, or say why not. -/
def reshapeFrom : Reshape :=
  if args.slots inputs < 2 then nonePlan ("pool at its ceiling — " ++ args.fill)
  else if args.consolidating then
    let fits := decide (0 ≤ args.left inputs) && args.bounded inputs &&
      decide (((args.outputs inputs).length : ℤ) ≤ args.slots inputs)
    if fits = false ∨ (args.coins.length : ℤ) ≤ args.remain inputs then
      nonePlan ("pool at its ceiling — " ++ args.fill ++ ", and merging " ++
        toString inputs.length ++ " " ++
        (if fits then "would not shrink it"
          else "would leave an output outside the operator's bounds"))
    else ⟨inputs, args.outputs inputs, args.carrier inputs,
      "consolidating " ++ toString inputs.length ++ " of " ++ toString args.coins.length ++
        " coins into " ++ toString (args.outputs inputs).length ++ " output(s), ceiling " ++
        toString args.ceiling ++ "; " ++ toString (args.remain inputs) ++ " remain" ++
        args.assetsNote inputs⟩
  else if args.slots inputs < (args.outputs inputs).length ∨
      (args.pieces inputs ≠ [] ∧ args.bounded inputs = false) then
    nonePlan (toString (gross inputs) ++ " sat cannot be cut into " ++
      toString (args.slots inputs) ++ " outputs under the operator's " ++ toString args.maxAmount ++
      " sat per-output ceiling")
  else if args.pieces inputs = [] then
    nonePlan (if args.total < args.smallest + args.minOutput then
        "float " ++ toString args.total ++ " sat is below one " ++ toString args.smallest ++
          " sat piece plus " ++ toString args.minOutput ++ " — fund the solver"
      else "float " ++ toString args.total ++ " sat cannot afford any piece toward " ++ args.shape)
  else ⟨inputs, args.outputs inputs, args.carrier inputs,
    "minting " ++ toString (args.pieces inputs).length ++ " piece(s) from " ++
      toString inputs.length ++ " coin(s) toward " ++ args.shape ++ args.assetsNote inputs⟩

/-- What to spend so that the float matches its target. -/
def reshape : Reshape :=
  if args.target = [] then nonePlan "no pool target configured"
  else if 0 ≤ args.maxAmount ∧ args.maxAmount < args.minOutput then
    nonePlan ("the operator's " ++ toString args.maxAmount ++
      " sat per-output ceiling is below its " ++ toString args.minOutput ++ " sat floor")
  else if args.total ≤ 0 then nonePlan ("nothing spendable — " ++ toString args.total ++ " sat")
  else if args.consolidating then
    if args.merged.length < 2 then
      nonePlan ("pool at its ceiling — " ++ args.fill ++ ", " ++ toString args.eligible.length ++
        " loose, " ++ toString args.due ++ " due for renewal")
    else args.reshapeFrom args.merged
  else if args.isShort then
    if args.cut = [] then
      nonePlan (if 0 < args.due then
          "pool short toward " ++ args.shape ++ "; its " ++ toString args.due ++
            " loose coin(s) are due for renewal, which reshapes them"
        else "pool short toward " ++ args.shape ++ " with nothing loose to cut — fund the solver")
    else args.reshapeFrom args.cut
  else nonePlan ("pool already matches its target — " ++ args.shape)

end PoolArgs

/-- The plan, by the keys of its coins. -/
def planPool (args : PoolArgs) : PoolPlan :=
  ⟨args.reshape.inputs.map (·.1.key), args.reshape.outputs, args.reshape.reason⟩

end IntentSolver.VtxoPool
