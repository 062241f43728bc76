import IntentSolver.EvmReceive
import IntentSolver.EvmSendLockup

/-!
# An EVM receive after a crash around its refund

The corridor's programs over a world that holds the lockup the solver funded. The planner
re-drives a refund on the spend-aware view of the script, in which an output that was spent
still counts; the refund itself needs one that was not.
-/

namespace IntentSolver.EvmReceiveRecovery

open ArkadeLockup EvmPort EvmReceivePlan EvmReceive EvmSendLockup WorkerProgram SoloRuns

/-- The corridor's world with the script the solver funded. -/
structure ReceiveLockupWorld where
  base : EvmReceiveWorld
  /-- Unspent outputs at the script. -/
  lockup : List FundedOutput
  /-- Every output that has been at the script, spent ones included. -/
  held : List FundedOutput
  /-- What the last read of each worker showed. -/
  shown : ℕ → List FundedOutput

/-- What the outside answers. -/
structure ReceiveLockupReply where
  base : EvmReceiveReply
  /-- Whether a read of the script fails. -/
  fault : Option EvmFault := none
  spend : SpendReply := .refused ""

/-- `arkade.refund` of the outputs the worker was shown. -/
def performRefund (worker : ℕ) (reply : ReceiveLockupReply) (world : ReceiveLockupWorld) :
    Option (Except EvmFault String × ReceiveLockupWorld) :=
  match spendable (world.shown worker) "refund" world.base.clock with
  | .error fault => some (.error fault, world)
  | .ok inputs => submit inputs world.lockup reply.spend world
    { world with lockup := world.lockup.filter (· ∉ inputs) }

/-- Any other action is the corridor's own. -/
def performBase (worker : ℕ) (op : EvmReceiveOp) (reply : ReceiveLockupReply)
    (world : ReceiveLockupWorld) : Option (op.Ans × ReceiveLockupWorld) :=
  (EvmReceive.perform worker op reply.base world.base).map fun result =>
    (result.1, { world with base := result.2 })

/-- Effect of one action. -/
def perform (worker : ℕ) : (op : EvmReceiveOp) → ReceiveLockupReply →
    ReceiveLockupWorld → Option (op.Ans × ReceiveLockupWorld)
  | .read .arkadeLockupFunded, reply, world => match reply.fault with
    | some fault => some (.error fault, world)
    -- The spend-aware read: an output that was spent still counts.
    | none => some (.ok (lockupIsFunded world.held world.base.row.payoutSats), world)
  | .read .findLockups, reply, world => match reply.fault with
    | some fault => some (.error fault, world)
    | none => some (.ok world.lockup.length,
        { world with shown := Function.update world.shown worker world.lockup })
  | .refundArkade, reply, world => performRefund worker reply world
  | op, reply, world => performBase worker op reply world

/-- What happens at the script without a worker. -/
def stir : LockupMove → ReceiveLockupWorld → Option ReceiveLockupWorld
  | .wait seconds, world =>
    some { world with base := { world.base with clock := world.base.clock + seconds } }
  | .arrive output, world =>
    if output.value < 0 then none
    else some { world with lockup := world.lockup ++ [output], held := output :: world.held }
  | .depart output, world => some { world with lockup := world.lockup.filter (· ≠ output) }

/-- Replies of a step nothing goes wrong in: every read answers, nobody has claimed the
lockup, and the server accepts the spend. -/
structure Undisturbed (reply : ReceiveLockupReply) : Prop where
  fault : reply.fault = none
  answers : ∀ question, ∃ value, reply.base.answer question = .ok value
  unclaimed : reply.base.arkadePreimage = .ok none
  receipt : ∃ outcome, reply.base.outcome = .ok outcome
  spend : ∃ txid, reply.spend = .accepted txid

/-- The defaults answer everything. -/
def quietReply : ReceiveLockupReply where
  base := {}
  spend := .accepted "arktx"

/-- The quiet reply disturbs nothing. -/
theorem undisturbed_quietReply : Undisturbed quietReply := by
  refine ⟨rfl, fun question => ?_, rfl, ⟨_, rfl⟩, _, rfl⟩
  cases question <;> exact ⟨_, rfl⟩

/-- What a step needs of the world. -/
def view (world : ReceiveLockupWorld) :
    EvmReceiveWorld × List FundedOutput × List FundedOutput :=
  (world.base, world.lockup, world.held)

variable {worker : ℕ}

/-- Every question is answered and changes nothing a step needs. -/
theorem read_answers {question : EvmReceiveQuestion} {reply : ReceiveLockupReply}
    (hk : Undisturbed reply) (world : ReceiveLockupWorld) :
    ∃ value mid, perform worker (.read question) reply world = some (.ok value, mid) ∧
      view mid = view world := by
  obtain ⟨value, hv⟩ := hk.answers question
  cases question with
  | arkadeLockupFunded =>
    refine ⟨lockupIsFunded world.held world.base.row.payoutSats, world, ?_, rfl⟩
    simp only [perform, hk.fault]
  | findLockups =>
    refine ⟨world.lockup.length,
      { world with shown := Function.update world.shown worker world.lockup }, ?_, rfl⟩
    simp only [perform, hk.fault]
  | _ =>
    refine ⟨value, world, ?_, rfl⟩
    simp only [perform, performBase, EvmReceive.perform, hv]
    rfl

/-- Asking with the answer checked returns and changes nothing. -/
theorem watches_ask (question : EvmReceiveQuestion) :
    Watches (perform worker) Undisturbed view (EvmReceive.ask question) := by
  intro world
  have hissue : Gives (perform worker) Undisturbed
      (EvmReceive.issue (.read question)) world fun answer mid =>
        (∃ value, answer = .ok value) ∧ view mid = view world := by
    obtain ⟨_, _, hp, -⟩ : ∃ value mid, perform worker (.read question) _ world =
      some (.ok value, mid) ∧ view mid = view world :=
        read_answers undisturbed_quietReply world
    refine gives_issue ⟨_, _, undisturbed_quietReply, hp⟩ fun reply answer mid hk hp => ?_
    obtain ⟨value, other, hv, ho⟩ := read_answers hk world
    rw [hv] at hp
    cases hp
    exact ⟨⟨value, rfl⟩, ho⟩
  refine hissue.bind fun answer mid hm => ?_
  obtain ⟨⟨value, rfl⟩, ho⟩ := hm
  exact gives_ret ho

/-- A question every reply of the kind answers the same way. -/
theorem gives_ask {question : EvmReceiveQuestion} {world mid : ReceiveLockupWorld}
    {value : question.Answer} (h : ∀ reply, Undisturbed reply →
      perform worker (.read question) reply world = some (.ok value, mid)) :
    Gives (perform worker) Undisturbed (EvmReceive.ask question) world
      fun told after => told = value ∧ after = mid := by
  refine Gives.bind (gives_issue_of_eq ⟨_, undisturbed_quietReply⟩ h) fun answer after ha => ?_
  obtain ⟨rfl, rfl⟩ := ha
  exact gives_ret ⟨rfl, rfl⟩

/-- The clock is answered with the time. -/
theorem gives_now (world : ReceiveLockupWorld) :
    Gives (perform worker) Undisturbed (EvmReceive.issue .now) world
      fun now mid => now = world.base.clock ∧ mid = world :=
  gives_issue_of_eq ⟨_, undisturbed_quietReply⟩ fun _ _ => rfl

/-- Reading the clock changes nothing. -/
theorem watches_now :
    Watches (perform worker) Undisturbed view (EvmReceive.issue .now) :=
  fun world => (gives_now world).mono fun _ _ h => by rw [h.2]

/-- Asking what became of the claim returns and changes nothing. -/
theorem watches_claimOutcome (row : EvmReceiveSwapRow) :
    Watches (perform worker) Undisturbed view (claimOutcome row) := by
  unfold claimOutcome
  split
  · exact watches_ret _
  next txid _ =>
    refine watches_orElse (fun world => ?_) _
    have hissue : Gives (perform worker) Undisturbed
        (EvmReceive.issue (.transactionOutcome txid)) world fun answer mid =>
          (∃ outcome, answer = .ok outcome) ∧ mid = world := by
      refine gives_issue ⟨quietReply, (.ok .pending, world), undisturbed_quietReply, rfl⟩
        fun reply answer mid hk hp => ?_
      obtain ⟨outcome, ho⟩ := hk.receipt
      simp only [perform, performBase, EvmReceive.perform, ho] at hp
      split at hp
      · cases hp
        exact ⟨⟨outcome, rfl⟩, rfl⟩
      · cases hp
    refine hissue.bind fun answer mid hm => ?_
    obtain ⟨⟨outcome, rfl⟩, rfl⟩ := hm
    exact gives_ret rfl

/-- The refund is due: nobody has revealed a preimage, the funding is at the script or was,
and the row is past its locktime or already refunding. -/
structure RefundDue (world : ReceiveLockupWorld) : Prop where
  unrevealed : world.base.row.preimage = none
  funded : lockupIsFunded world.held world.base.row.payoutSats = true
  state : (world.base.row.state = .awaitingClaim ∧
      world.base.row.refundLocktime ≤ world.base.clock) ∨ world.base.row.state = .refundingArkade

/-- Where a refund is due, a step observes a funded lockup nobody has claimed. -/
theorem gives_observe {world : ReceiveLockupWorld} (hd : RefundDue world) :
    Gives (perform worker) Undisturbed (EvmReceive.observe world.base.row) world
      fun seen mid => seen.preimage = none ∧ seen.arkadeLockupFunded = true ∧
        seen.nowSeconds = world.base.clock ∧ view mid = view world := by
  have hfunded : ∀ mid, view mid = view world →
      Gives (perform worker) Undisturbed (EvmReceive.ask .arkadeLockupFunded) mid
        fun told after => told = true ∧ after = mid := by
    intro mid hv
    refine gives_ask fun reply hk => ?_
    obtain ⟨hbase, -, hheld⟩ : mid.base = world.base ∧ mid.lockup = world.lockup ∧
      mid.held = world.held := by simpa [view] using hv
    simp only [perform, hk.fault, hbase, hheld, hd.funded]
  have hpreimage : ∀ mid : ReceiveLockupWorld, Gives (perform worker) Undisturbed
      (readPreimage world.base.row true) mid fun told after => told = none ∧ after = mid := by
    intro mid
    unfold readPreimage
    rw [hd.unrevealed]
    refine gives_ask fun reply hk => ?_
    simp only [perform, performBase, EvmReceive.perform, EvmReceiveReply.answer,
      hk.unclaimed]
    rfl
  refine (watches_ask _ world).bind fun present w₁ h₁ =>
    (hfunded w₁ h₁).bind fun funded w₂ h₂ =>
    (watches_ask _ w₂).bind fun height w₃ h₃ =>
    (watches_ask _ w₃).bind fun clock w₄ h₄ =>
    (watches_claimOutcome world.base.row w₄).bind fun outcome w₅ h₅ => ?_
  obtain ⟨rfl, rfl⟩ := h₂
  refine (hpreimage w₅).bind fun found w₆ h₆ => (watches_now w₆).bind fun now w₇ h₇ =>
    (watches_provenDepth (fun _ => watches_ask _) (fun _ => watches_ask _)
      present height world.base.row.minConfirmations now w₇).bind fun depth w₈ h₈ =>
    (gives_now w₈).bind fun now w₉ h₉ => ?_
  have hview : view w₈ = view world := by
    rw [h₈, h₇, h₆.2, h₅, h₄, h₃, h₁]
  obtain ⟨rfl, -⟩ := h₆
  obtain ⟨rfl, rfl⟩ := h₉
  exact gives_ret ⟨rfl, rfl, congrArg (fun shown => (shown.1.clock : ℤ)) hview, hview⟩

/-- The refund that is due is ordered. -/
theorem plan_refund_due {world : ReceiveLockupWorld} {seen : EvmReceiveObservation}
    (hd : RefundDue world) (hp : seen.preimage = none) (hf : seen.arkadeLockupFunded = true)
    (hn : seen.nowSeconds = world.base.clock) :
    planEvmReceive world.base.row.plan seen = .refundArkade := by
  have hor : seen.preimage.or world.base.row.plan.preimage = none := by
    simp [EvmReceiveSwapRow.plan, hp, hd.unrevealed]
  have hlive : world.base.row.plan.state ∉ EvmReceivePlan.TERMINAL := by
    obtain ⟨hs, -⟩ | hs := hd.state <;> simp [EvmReceiveSwapRow.plan, hs, EvmReceivePlan.TERMINAL]
  unfold planEvmReceive
  rw [if_neg hlive, hor]
  obtain ⟨hs, hl⟩ | hs := hd.state
  · simp [EvmReceivePlan.planByState, EvmReceiveSwapRow.plan, hs, hn, hl]
  · simp [EvmReceivePlan.planByState, EvmReceiveSwapRow.plan, hs, hf]

/-- The world a won compare-and-swap leaves. -/
def wonMove (worker : ℕ) (target : EvmReceiveSwapState) (columns : List EvmReceiveColumn)
    (world : ReceiveLockupWorld) : ReceiveLockupWorld :=
  let base := { world.base with
    row := assignAll evmReceiveShape columns
      (evmReceiveShape.stamp target world.base.clock world.base.row)
    deeds := EvmReceive.deedOf worker target ++ world.base.deeds }
  { world with base := base }

/-- A compare-and-swap from the stored state is won. -/
theorem perform_wonMove {source target : EvmReceiveSwapState} {world : ReceiveLockupWorld}
    (hs : world.base.row.state = source) (columns : List EvmReceiveColumn)
    (reply : ReceiveLockupReply) :
    perform worker (.update source target columns) reply world =
      some (true, wonMove worker target columns world) := by
  have hwon : updateWhere evmReceiveShape world.base.clock source target columns
      world.base.row = some (assignAll evmReceiveShape columns
        (evmReceiveShape.stamp target world.base.clock world.base.row)) := if_pos hs
  simp only [perform, performBase, EvmReceive.perform, hwon]
  rfl

/-- A compare-and-swap from the state the row is in. -/
theorem gives_transition {id : String} {source target : EvmReceiveSwapState}
    {columns : List EvmReceiveColumn} {world : ReceiveLockupWorld}
    (hs : world.base.row.state = source) :
    Gives (perform worker) Undisturbed
      (EvmReceive.transition id source target columns) world fun _ mid =>
        mid.base.row.state = target ∧ mid.lockup = world.lockup ∧
          mid.base.clock = world.base.clock := by
  refine Gives.bind (gives_issue_of_eq ⟨_, undisturbed_quietReply⟩
    fun reply _ => perform_wonMove hs columns reply) fun won mid h => ?_
  obtain ⟨rfl, rfl⟩ := h
  exact gives_ret ⟨state_assignAll evmReceiveShape columns _, rfl, rfl⟩

/-- The script is refunded exactly where it holds an output a spend takes. -/
theorem gives_refund {world : ReceiveLockupWorld} (hshown : world.shown worker = world.lockup) :
    Gives (perform worker) Undisturbed (EvmReceive.issue .refundArkade) world
      fun answer mid => mid.base = world.base ∧
        ((∃ txid, answer = .ok txid) ↔
          boundedSpendInputs world.lockup world.base.clock ≠ []) := by
  have hrefund : ∀ reply, Undisturbed reply → ∃ answer mid,
      performRefund worker reply world = some (answer, mid) ∧ mid.base = world.base ∧
        ((∃ txid, answer = .ok txid) ↔
          boundedSpendInputs world.lockup world.base.clock ≠ []) := by
    intro reply hk
    obtain ⟨txid, hspend⟩ := hk.spend
    unfold performRefund
    rw [hshown]
    by_cases hb : boundedSpendInputs world.lockup world.base.clock = []
    · simp only [spendable, hb]
      exact ⟨_, _, rfl, rfl, by simp⟩
    · simp only [spendable, if_neg hb, hspend, submit,
        if_pos (boundedSpendInputs_subset world.lockup world.base.clock)]
      exact ⟨_, _, rfl, rfl, by simp [hb]⟩
  obtain ⟨_, _, hp, -⟩ := hrefund _ undisturbed_quietReply
  refine gives_issue ⟨_, _, undisturbed_quietReply, hp⟩ fun reply answer mid hk hp => ?_
  obtain ⟨told, after, ha, hrest⟩ := hrefund reply hk
  cases ha.symm.trans hp
  exact hrest

/-- Carried out in peace, a refund closes the row exactly where the script still holds an
output a spend takes. -/
theorem ensures_refundArkade {row : EvmReceiveSwapRow} {world : ReceiveLockupWorld}
    (hrow : world.base.row = row) :
    Ensures (perform worker) Undisturbed (EvmReceive.refundArkade row) world
      fun _ final => final.base.row.state = .refunded ↔
        boundedSpendInputs world.lockup world.base.clock ≠ [] := by
  have hrest : ∀ mid : ReceiveLockupWorld, mid.base.row.state = .refundingArkade →
      mid.lockup = world.lockup → mid.base.clock = world.base.clock →
      Ensures (perform worker) Undisturbed (do
        let current ← EvmReceive.issue .get
        if (← EvmReceive.ask .findLockups) = 0 then
          throw (.error ("no spendable output at the lockup for " ++ current.id ++
            " - nothing to refund"))
        let txid ← Program.ofExcept (← EvmReceive.issue .refundArkade)
        EvmReceive.transition row.id .refundingArkade .refunded [.refundArkTxid txid]
        return false) mid fun _ final => final.base.row.state = .refunded ↔
          boundedSpendInputs world.lockup world.base.clock ≠ [] := by
    intro mid hs hl hc
    refine Gives.bind (gives_issue_of_eq ⟨_, undisturbed_quietReply⟩ fun _ _ => rfl)
      fun current after ha => ?_
    rw [ha.2]
    have hread : ∀ reply, Undisturbed reply → perform worker (.read .findLockups) reply mid =
        some (.ok mid.lockup.length,
          { mid with shown := Function.update mid.shown worker mid.lockup }) := fun reply hk => by
      simp only [perform, hk.fault]
    refine (gives_ask hread).bind fun count shown hshown => ?_
    obtain ⟨rfl, rfl⟩ := hshown
    split
    next hempty =>
      have hnone : boundedSpendInputs world.lockup world.base.clock = [] := by
        rw [← hl, List.length_eq_zero_iff.mp hempty]
        rfl
      change mid.base.row.state = .refunded ↔ _
      simp [hs, hnone]
    · refine (gives_refund (Function.update_self _ _ _)).bind fun answer spent hspent => ?_
      obtain ⟨hbase, hiff⟩ := hspent
      dsimp only at hbase hiff
      rw [hl, hc] at hiff
      have hstate : spent.base.row.state = .refundingArkade := by rw [hbase, hs]
      cases answer with
      | error fault =>
        have hempty : ¬ boundedSpendInputs world.lockup world.base.clock ≠ [] := fun hb => by
          obtain ⟨txid, ht⟩ := hiff.mpr hb
          cases ht
        change spent.base.row.state = .refunded ↔ _
        simp [hstate, hempty]
      | ok txid =>
        have hsome := hiff.mp ⟨txid, rfl⟩
        refine (gives_transition hstate).bind fun _ final hf => ?_
        change final.base.row.state = .refunded ↔ _
        exact iff_of_true hf.1 hsome
  unfold EvmReceive.refundArkade
  dsimp only
  split
  · refine (gives_transition (by rw [hrow])).bind fun _ after ha => ?_
    exact hrest after ha.1 ha.2.1 ha.2.2
  next hs =>
    exact hrest world (by rw [hrow]; exact not_not.mp hs) rfl rfl

/-- A step on a row whose refund is due. -/
theorem ensures_step {world : ReceiveLockupWorld} (hd : RefundDue world) :
    Ensures (perform worker) Undisturbed (EvmReceive.step world.base.row) world
      fun _ final => final.base.row.state = .refunded ↔
        boundedSpendInputs world.lockup world.base.clock ≠ [] := by
  refine (gives_observe hd).bind fun seen mid hm => ?_
  obtain ⟨hpreimage, hfunded, hnow, hview⟩ := hm
  rw [plan_refund_due hd hpreimage hfunded hnow]
  obtain ⟨hbase, hlockup, -⟩ : mid.base = world.base ∧ mid.lockup = world.lockup ∧
    mid.held = world.held := by simpa [view] using hview
  have hrefund : Ensures (perform worker) Undisturbed
      (EvmReceive.refundArkade world.base.row) mid fun _ final =>
        final.base.row.state = .refunded ↔
          boundedSpendInputs mid.lockup mid.base.clock ≠ [] :=
    ensures_refundArkade (congrArg EvmReceiveWorld.row hbase)
  rw [hbase, hlockup] at hrefund
  exact hrefund

/-- What a crash inside the refund leaves: a row that is closed or whose refund is due. -/
structure Left (world : ReceiveLockupWorld) : Prop where
  unrevealed : world.base.row.preimage = none
  funded : lockupIsFunded world.held world.base.row.payoutSats = true
  state : world.base.row.state = .refunded ∨ (world.base.row.state = .awaitingClaim ∧
    world.base.row.refundLocktime ≤ world.base.clock) ∨
      world.base.row.state = .refundingArkade

/-- Actions of the refund. -/
def refunds : EvmReceiveOp → Prop
  | .get => True
  | .update _ target columns => (target = .refundingArkade ∧ columns = []) ∨
      (target = .refunded ∧ ∃ txid, columns = [.refundArkTxid txid])
  | .read .findLockups => True
  | .refundArkade => True
  | _ => False

/-- The refund issues nothing else. -/
theorem free_refunds (row : EvmReceiveSwapRow) :
    (only EvmReceiveOp.Ans refunds).Free (EvmReceive.refundArkade row) := by
  have hrest : (only EvmReceiveOp.Ans refunds).Free (do
      let current ← EvmReceive.issue .get
      if (← EvmReceive.ask .findLockups) = 0 then
        throw (.error ("no spendable output at the lockup for " ++ current.id ++
          " - nothing to refund"))
      let txid ← Program.ofExcept (← EvmReceive.issue .refundArkade)
      EvmReceive.transition row.id .refundingArkade .refunded [.refundArkTxid txid]
      return false) := fun _ => by
    refine ⟨trivial, fun current => ⟨trivial, fun outputs => ?_⟩⟩
    cases outputs with
    | error fault => trivial
    | ok count =>
      change (only EvmReceiveOp.Ans refunds).Obeys _ (if count = 0 then _ else _) _
      split
      · trivial
      · refine ⟨trivial, fun answer => ?_⟩
        cases answer with
        | error fault => trivial
        | ok txid =>
          refine ⟨.inr ⟨rfl, txid, rfl⟩, fun won => ?_⟩
          cases won <;> trivial
  intro note
  unfold EvmReceive.refundArkade
  dsimp only
  split
  · refine ⟨.inl ⟨rfl, rfl⟩, fun won => ?_⟩
    cases won with
    | false => trivial
    | true => exact hrest note
  · exact hrest note

/-- Wherever the refund is cut short, it leaves the row closed or its refund due. -/
theorem left_of_reaches {row : EvmReceiveSwapRow} {world crashed : ReceiveLockupWorld}
    (h : Left world)
    (hr : Reaches (perform worker) (EvmReceive.refundArkade row) world crashed) :
    Left crashed := by
  refine hr.keeps (free_refunds row) (fun op reply world answer next ha hi hp => ?_) h
  cases op with
  | get =>
    cases hp
    exact hi
  | read question =>
    cases question with
    | findLockups =>
      simp only [perform] at hp
      split at hp
      · cases hp
        exact hi
      · cases hp
        exact ⟨hi.unrevealed, hi.funded, hi.state⟩
    | _ => exact ha.elim
  | refundArkade =>
    simp only [perform, performRefund] at hp
    split at hp
    · cases hp
      exact hi
    · obtain rfl | ⟨rfl, -⟩ := submit_cases hp
      · exact ⟨hi.unrevealed, hi.funded, hi.state⟩
      · exact hi
  | update source target columns =>
    simp only [perform, performBase, EvmReceive.perform] at hp
    split at hp
    next row hu =>
      cases hp
      have hrow := updateWhere_eq evmReceiveShape hu
      obtain ⟨rfl, rfl⟩ | ⟨rfl, txid, rfl⟩ := ha
      · subst hrow
        exact ⟨hi.unrevealed, hi.funded, .inr (.inr rfl)⟩
      · subst hrow
        exact ⟨hi.unrevealed, hi.funded, .inl rfl⟩
    next =>
      cases hp
      exact hi
  | _ => exact ha.elim

/-- Time and arrivals spoil nothing, and the row is not written. -/
theorem left_of_stirs {crashed later : ReceiveLockupWorld} {moves : List LockupMove}
    (h : Left crashed) (hs : stirs stir crashed moves = some later) :
    Left later ∧ later.base.row = crashed.base.row := by
  have hkeep : ∀ move world next, Left world ∧ world.base.row = crashed.base.row →
      stir move world = some next →
      Left next ∧ next.base.row = crashed.base.row := by
    intro move world next hi hm
    obtain ⟨hi, hrow⟩ := hi
    cases move with
    | wait seconds =>
      cases hm
      refine ⟨⟨hi.unrevealed, hi.funded, ?_⟩, hrow⟩
      obtain hs | ⟨hs, hl⟩ | hs := hi.state
      · exact .inl hs
      · refine .inr (.inl ⟨hs, ?_⟩)
        push_cast
        omega
      · exact .inr (.inr hs)
    | arrive output =>
      simp only [stir] at hm
      split at hm
      · cases hm
      next hv =>
        cases hm
        refine ⟨⟨hi.unrevealed, ?_, hi.state⟩, hrow⟩
        have hf := of_decide_eq_true hi.funded
        refine decide_eq_true ?_
        unfold totalValue at hf ⊢
        rw [List.map_cons, List.sum_cons]
        dsimp only
        omega
    | depart output =>
      cases hm
      exact ⟨⟨hi.unrevealed, hi.funded, hi.state⟩, hrow⟩
  exact stirs_keeps hkeep hs ⟨h, rfl⟩

/-- An order to refund says that no preimage is known and where the row stands. -/
theorem refund_ordered {row : EvmReceivePlanRow} {seen : EvmReceiveObservation}
    (h : planEvmReceive row seen = .refundArkade) :
    row.preimage = none ∧ ((row.state = .awaitingClaim ∧ row.refundLocktime ≤ seen.nowSeconds) ∨
      row.state = .refundingArkade) := by
  unfold planEvmReceive at h
  split at h
  · cases h
  split at h
  · unfold planRevealed at h
    repeat' split at h
    all_goals cases h
  next hn =>
    rw [Option.or_eq_none_iff] at hn
    refine ⟨hn.2, ?_⟩
    unfold EvmReceivePlan.planByState at h
    split at h
    case h_5 hs =>
      split at h
      next hl => exact .inl ⟨hs, hl⟩
      · cases h
    case h_6 hs => exact .inr hs
    all_goals
      repeat' split at h
      all_goals cases h

end IntentSolver.EvmReceiveRecovery
