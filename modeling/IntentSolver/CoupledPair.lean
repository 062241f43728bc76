import IntentSolver.CoupledQuote
import IntentSolver.LightningReceiveFunding
import IntentSolver.LightningSendWorld
import IntentSolver.WorkerSum

/-!
# The world of a coupled self-payment

One receive row and the send row a client quotes on its invoice, in two stores
that share no transaction. Workers of both corridors tick their own row and
read the other's; a read answers the other row as it stands at that moment, or
a driver fault. The send quote looks at the receive row while it is still
quoted and inserts its own row at any later time. Everything else is as each
corridor has it on its own.
-/

namespace IntentSolver.CoupledPair

open SwapStore SwapTimelocks ArkadeLockup WorkerProgram WorkerInterleaving LightningPort
open CoupledQuote
open LightningSendStore (SendSwapRow SendSwapState)
open LightningSend (SendOp SendDeps WalletCaps)
open LightningSendWorld (SendWorld SendReply SendMove SendJob)
open LightningReceiveStore (ReceiveSwapRow ReceiveSwapState ReceiveQuoteRecord)
open LightningReceive (ReceiveOp)
open LightningReceiveFunding (ReceiveWorld ReceiveReply ReceiveMove ReceiveJob HeldOutput)

/-- What every process of one deployment shares. -/
structure PairConfig where
  wallet : WalletCaps
  quote : SendQuoteDeps
  preimageMatchesHash : String → String → Bool

/-- A send worker of this deployment: the provider key is the one that quotes,
and the receive store is wired. -/
def PairConfig.wire (config : PairConfig) (deps : SendDeps) : SendDeps :=
  { deps with
    providerPubkey := config.quote.providerPubkey
    coupling := true
    preimageMatchesHash := config.preimageMatchesHash }

/-- The send row's own world, and what its quote had read. -/
structure SendSide where
  reads : SendQuoteReads
  world : SendWorld

/-- A payout submitted in coupled mode. -/
structure CoupledPayout where
  sats : ℤ
  /-- What every look at the send lockup had shown until then. -/
  looks : List ℤ

/-- The two rows and the history the statements speak about. -/
structure PairWorld where
  receive : ReceiveWorld
  /-- None until the send quote inserts its row. -/
  send : Option SendSide := none
  /-- The coupled send a receive worker has found since its last hold poll: what
  it does next, it does in coupled mode. -/
  mode : ℕ → Option SendSwapRow := fun _ => none
  /-- Asset-free totals of the looks at the send lockup. -/
  looks : List ℤ := []
  /-- Every state the send row has gone to from `funded`. -/
  left : List SendSwapState := []
  payouts : List CoupledPayout := []

/-- What the outside answers a worker of either corridor. -/
structure PairReply where
  send : SendReply := {}
  receive : ReceiveReply := {}

/-! ## What one corridor reads of the other -/

/-- `findLiveByPaymentHash` of the receive store. -/
def liveReceive (row : ReceiveSwapRow) : Option ReceiveSwapRow :=
  if row.state = .refused then none else some row

/-- `findLiveByPaymentHash` of the send store: a funded refusal still answers. -/
def liveSend (row : SendSwapRow) : Option SendSwapRow :=
  if row.state ≠ .refused ∨ (0 < row.lockupValue.getD 0 ∧ row.refundOutcome = none) then some row
  else none

/-- The reply with the receive store's answers in it; a driver fault stays one. -/
def crossSend (row : ReceiveSwapRow) (reply : SendReply) : SendOp → SendReply
  | .read .liveReceive => { reply with receive := reply.receive.map fun _ => liveReceive row }
  | .read .receive => { reply with receive := reply.receive.map fun _ => some row }
  | _ => reply

/-- The reply with the send store's answer in it. -/
def crossReceive (send : Option SendSide) (reply : ReceiveReply) : ReceiveOp → ReceiveReply
  | .read .coupledSend =>
    { reply with
      coupledSend := reply.coupledSend.map fun _ => send.bind fun side => liveSend side.world.row }
  | _ => reply

/-- `findClaimPreimage` checks what it found against the hash before it answers. -/
def credible (config : PairConfig) (row : SendSwapRow) (reply : SendReply) : SendOp → Bool
  | .read (.coupledPreimage _) =>
    match reply.preimage with
    | .ok (some preimage) => config.preimageMatchesHash preimage row.paymentHash
    | _ => true
  | _ => true

/-! ## The history -/

/-- A send worker's look at the lockup. -/
def sendLook : (op : SendOp) → op.Ans → List ℤ → List ℤ
  | .read .findLockups, .ok outputs, looks => totalValue (satsOutputs outputs) :: looks
  | _, _, looks => looks

/-- A receive worker's look at the send lockup. -/
def receiveLook : (op : ReceiveOp) → op.Ans → List ℤ → List ℤ
  | .read (.coupledLockups _), .ok outputs, looks => totalValue (satsOutputs outputs) :: looks
  | _, _, looks => looks

/-- What a receive worker has found since its last hold poll. -/
def receiveMode : (op : ReceiveOp) → op.Ans → Option SendSwapRow → Option SendSwapRow
  | .read .getHoldState, _, _ => none
  | .read .coupledSend, .ok coupled, _ => coupled
  | .read .coupledSend, .error _, _ => none
  | _, _, mode => mode

/-- A submission of a worker in coupled mode. -/
def coupledPayouts (mode : Option SendSwapRow) (before after : List HeldOutput) (looks : List ℤ) :
    ReceiveOp → List CoupledPayout → List CoupledPayout
  | .fund _ payoutSats _, payouts =>
    if mode.isSome ∧ after.length ≠ before.length then ⟨payoutSats, looks⟩ :: payouts else payouts
  | _, payouts => payouts

variable (world : PairWorld)

/-- The world after an action of a send worker. -/
def PairWorld.afterSend (side : SendSide) (op : SendOp) (answer : op.Ans) (after : SendWorld) :
    PairWorld :=
  { world with
    send := some { side with world := after }
    looks := sendLook op answer world.looks
    left := if side.world.row.state = .funded ∧ after.row.state ≠ .funded then
      after.row.state :: world.left else world.left }

/-- The world after an action of a receive worker. -/
def PairWorld.afterReceive (worker : ℕ) (op : ReceiveOp) (answer : op.Ans) (after : ReceiveWorld) :
    PairWorld :=
  { world with
    receive := after
    mode := Function.update world.mode worker (receiveMode op answer (world.mode worker))
    looks := receiveLook op answer world.looks
    payouts := coupledPayouts (world.mode worker) world.receive.submitted after.submitted
      world.looks op world.payouts }

/-! ## The machine -/

variable (config : PairConfig) (worker : ℕ)

/-- Effect of a send worker's action; none while there is no send row. -/
def performSend (op : SendOp) (reply : SendReply) : Option (op.Ans × PairWorld) :=
  match world.send with
  | none => none
  | some side =>
    if credible config side.world.row reply op then
      (LightningSendWorld.perform worker op (crossSend world.receive.row reply op) side.world).map
        fun result => (result.1, world.afterSend side op result.1 result.2)
    else none

/-- Effect of a receive worker's action. -/
def performReceive (op : ReceiveOp) (reply : ReceiveReply) : Option (op.Ans × PairWorld) :=
  (LightningReceiveFunding.perform worker op (crossReceive world.send reply op) world.receive).map
    fun result => (result.1, world.afterReceive worker op result.1 result.2)

/-- Effect of one action of either corridor. -/
def perform : (op : SendOp ⊕ ReceiveOp) → PairReply → PairWorld →
    Option (SumAns SendOp.Ans ReceiveOp.Ans op × PairWorld)
  | .inl op, reply, world => performSend world config worker op reply.send
  | .inr op, reply, world => performReceive world worker op reply.receive

/-- What happens without a worker. -/
inductive PairMove where
  /-- Time passes for both corridors. -/
  | wait (seconds : ℕ)
  /-- A send quote that found the receive row still quoted inserts its row. -/
  | quoteSend (reads : SendQuoteReads)
  /-- The send row's payment in flight reaches the payee. -/
  | settle
  /-- The send row's payment fails for good. -/
  | die
  /-- A submitted payout lands at the receive script. -/
  | land (output : HeldOutput)
  /-- Somebody else pays the receive script. -/
  | deposit (output : HeldOutput)
  /-- `whenFunded`, `whenClaimed` or `whenRefunding` moves a funded receive row. -/
  | later (target : ReceiveSwapState)

/-- A move of the send row's world. -/
def stirSend (move : SendMove) : Option PairWorld :=
  match world.send with
  | none => none
  | some side => (LightningSendWorld.stir move side.world).map fun after =>
      { world with send := some { side with world := after } }

/-- A move of the receive row's world. -/
def stirReceive (move : ReceiveMove) : Option PairWorld :=
  (LightningReceiveFunding.stir move world.receive).map fun after => { world with receive := after }

/-- The send row's world some seconds later. -/
def SendSide.wait (seconds : ℕ) (side : SendSide) : SendSide :=
  { side with
    world := { side.world with clock := side.world.clock + seconds } }

/-- The send quote, on the receive row as its own quote inserted it. -/
def insertSend (reads : SendQuoteReads) : Option PairWorld :=
  if world.send.isNone ∧ reads.paymentHash = world.receive.row.paymentHash ∧
      reads.quotedAt ≤ world.receive.clock then
    match coupledSendQuote config.quote (LightningReceiveStore.insertQuote
        world.receive.row.toReceiveQuoteRecord world.receive.row.createdAt) reads with
    | .ok record => some { world with
        send := some ⟨reads, LightningSendWorld.quoted record world.receive.clock⟩ }
    | .error _ => none
  else none

/-- Effect of one environment move. -/
def stir (move : PairMove) (world : PairWorld) : Option PairWorld :=
  match move with
  | .wait seconds => some { world with
      receive := { world.receive with clock := world.receive.clock + seconds }
      send := world.send.map (SendSide.wait seconds) }
  | .quoteSend reads => insertSend world config reads
  | .settle => stirSend world .settle
  | .die => stirSend world .die
  | .land output => stirReceive world (.land output)
  | .deposit output => stirReceive world (.deposit output)
  | .later target => stirReceive world (.later target)

/-- What a worker of either corridor can be started on. -/
inductive PairJob where
  | send (job : SendJob)
  | receive (job : ReceiveJob)

/-- A send job as this deployment runs it. -/
def PairConfig.wireJob (config : PairConfig) : SendJob → SendJob
  | .tick deps rounds => .tick (config.wire deps) rounds
  | .refundSweep => .refundSweep
  | .openStore => .openStore

/-- The code of a job. -/
def PairJob.program : PairJob → Program (SumAns SendOp.Ans ReceiveOp.Ans) Fault Unit
  | send job => ((config.wireJob job).program config.wallet).left
  | receive job => (LightningReceive.tick job.deps job.polls job.rounds).right

/-- Workers of both corridors on one coupled pair. -/
def pairMachine : Machine where
  Op := SendOp ⊕ ReceiveOp
  Ans := SumAns SendOp.Ans ReceiveOp.Ans
  Err := Fault
  World := PairWorld
  Reply := PairReply
  Move := PairMove
  Job := PairJob
  perform := perform config
  stir := stir config
  program := PairJob.program config

/-- The world right after the receive quote was inserted. -/
def quoted (quote : ReceiveQuoteRecord) (clock : ℕ) (held : List HeldOutput) : PairWorld where
  receive := LightningReceiveFunding.quoted quote clock held

end IntentSolver.CoupledPair
