import IntentSolver.EvmSendLockup

/-!
# An EVM send after a crash around its claim

The claim moves the row to `claiming` with the preimage, spends the lockup and closes the
row. Wherever a crash cuts it short, a later step plans it again from the preimage on the
row or from the chain; it succeeds exactly where the script still holds an output.
-/

namespace IntentSolver.EvmSendRecovery

open ArkadeLockup EvmPort EvmSendPlan EvmSend EvmSendLockup WorkerProgram SoloRuns

/-- Replies of a step nothing goes wrong in: every read answers, the chain shows the
preimage the client's claim revealed, and the server accepts the spend. -/
structure Faultless (preimage : String) (reply : LockupReply) : Prop where
  fault : reply.fault = none
  answers : ∀ question, ∃ value, reply.base.answer question = .ok value
  revealed : ∀ floor now, reply.base.answer (.findClaimPreimage floor now) = .ok (some preimage)
  spend : ∃ txid, reply.spend = .accepted txid

/-- A reply that shows the chain's preimage and accepts the spend is faultless. -/
theorem faultless_sampleReply (preimage : String) :
    Faultless preimage (sampleReply (some preimage)) := by
  refine ⟨rfl, fun question => ?_, fun _ _ => rfl, _, rfl⟩
  cases question <;> exact ⟨_, rfl⟩

/-- What a step needs of the world. -/
def view (world : LockupWorld) : EvmSendWorld × List FundedOutput := (world.base, world.lockup)

variable {worker : ℕ} {preimage : String} {deps : EvmSendDeps}

/-- Every reply answers a read, from the world as it stands. -/
theorem read_answers {question : EvmSendQuestion} {reply : LockupReply}
    (h : question ≠ .lockupProvablySpent) (hk : Faultless preimage reply) (world : LockupWorld) :
    ∃ value mid, EvmSendLockup.perform worker (.read question) reply world =
      some (.ok value, mid) ∧ view mid = view world := by
  obtain ⟨value, hv⟩ := hk.answers question
  unfold EvmSendLockup.perform
  cases question with
  | lockupProvablySpent => exact absurd rfl h
  | arkadeLockupFunded =>
    refine ⟨lockupIsFunded world.lockup world.base.row.amountSats,
      { world with
        funding := Function.update world.funding worker ⟨world.lockup, world.base.clock⟩ },
      ?_, rfl⟩
    simp only [performRead, hk.fault]
  | findLockups =>
    refine ⟨world.lockup.length,
      { world with
        pass := Function.update world.pass worker ⟨world.lockup, [], false⟩
        arrived := Function.update world.arrived worker false }, ?_, rfl⟩
    simp only [performRead, hk.fault]
  | _ => exact ⟨value, world, by simp only [performRead, hv], rfl⟩

/-- Every question but the spend's proof is answered and changes nothing. -/
theorem watches_ask {question : EvmSendQuestion} (h : question ≠ .lockupProvablySpent) :
    Watches (EvmSendLockup.perform worker) (Faultless preimage) view (EvmSend.ask question) := by
  intro world
  have hissue : Gives (EvmSendLockup.perform worker) (Faultless preimage)
      (EvmSend.issue (.read question)) world fun answer mid =>
        (∃ value, answer = .ok value) ∧ view mid = view world := by
    have hsample := faultless_sampleReply preimage
    obtain ⟨_, _, hp, -⟩ : ∃ value mid, EvmSendLockup.perform worker (.read question) _ world =
      some (.ok value, mid) ∧ view mid = view world := read_answers h hsample world
    refine gives_issue ⟨_, _, hsample, hp⟩ fun reply answer mid hk hp => ?_
    obtain ⟨value, other, hv, ho⟩ := read_answers h hk world
    rw [hv] at hp
    cases hp
    exact ⟨⟨value, rfl⟩, ho⟩
  refine hissue.bind fun answer mid hm => ?_
  obtain ⟨⟨value, rfl⟩, ho⟩ := hm
  exact gives_ret ho

/-- The clock says what time it is. -/
theorem gives_now (world : LockupWorld) :
    Gives (EvmSendLockup.perform worker) (Faultless preimage) (EvmSend.issue .now) world
      fun now mid => now = world.base.clock ∧ mid = world := by
  refine gives_issue_of_eq ⟨_, faultless_sampleReply preimage⟩ fun reply _ => ?_
  simp [EvmSendLockup.perform, performBase, EvmSend.perform, record]

/-- The clock is answered and changes nothing. -/
theorem watches_now :
    Watches (EvmSendLockup.perform worker) (Faultless preimage) view (EvmSend.issue .now) :=
  fun world => (gives_now world).mono fun _ _ h => by rw [h.2]

/-- Asking whether the lock reverted returns and changes nothing. -/
theorem watches_lockReverted (row : EvmSendSwapRow) :
    Watches (EvmSendLockup.perform worker) (Faultless preimage) view (lockReverted row) := by
  unfold lockReverted
  split
  · exact watches_ret _
  · split
    · exact watches_ret _
    · exact watches_orElse ((watches_ask (by simp)).bind fun _ => watches_ret _) _

/-- Asking what became of the refund returns and changes nothing. -/
theorem watches_refundOutcome (row : EvmSendSwapRow) :
    Watches (EvmSendLockup.perform worker) (Faultless preimage) view (refundOutcome row) := by
  unfold EvmSend.refundOutcome
  split
  · exact watches_ret _
  · split
    · exact watches_ret _
    · exact watches_orElse (watches_ask (by simp)) _

/-- Asking whether the refund landed returns and changes nothing. -/
theorem watches_refundLanded (row : EvmSendSwapRow) :
    Watches (EvmSendLockup.perform worker) (Faultless preimage) view (refundLanded row) := by
  unfold refundLanded
  split
  · exact watches_ret _
  · exact watches_orElse (watches_ask (by simp)) _

/-- Working out where the scan starts returns and changes nothing. -/
theorem watches_claimScanFloor (row : EvmSendSwapRow) (height : ℤ) :
    Watches (EvmSendLockup.perform worker) (Faultless preimage) view
      (claimScanFloor deps row height) := by
  have hblock : Watches (EvmSendLockup.perform worker) (Faultless preimage) view
      (lockBlock row) := by
    unfold lockBlock
    split
    · exact watches_ret _
    · exact watches_ask (by simp)
  have hcreation : Watches (EvmSendLockup.perform worker) (Faultless preimage) view
      (rowCreationFloor deps row height) := by
    refine watches_now.bind fun now => ?_
    dsimp only
    split <;> exact watches_ret _
  have hfloor : Watches (EvmSendLockup.perform worker) (Faultless preimage) view
      (lockFloor deps row height) := by
    refine hblock.bind fun mined => ?_
    cases mined with
    | none => exact hcreation
    | some block => exact watches_ret _
  exact hfloor.bind fun floor => watches_ret _

/-- The claim with this preimage is due: the row is live, and the preimage is on it or a
scan of the chain will find it. -/
structure Due (preimage : String) (row : EvmSendSwapRow) : Prop where
  live : row.state ∉ TERMINAL
  known : row.preimage = some preimage ∨ (row.preimage = none ∧ row.state ∈ EVM_SEND_EXPOSED)

/-- Where a claim is due, the scan ends with its preimage. -/
theorem gives_scanPreimage {row : EvmSendSwapRow} (hd : Due preimage row) (height : ℤ)
    (world : LockupWorld) :
    Gives (EvmSendLockup.perform worker) (Faultless preimage) (scanPreimage deps row height) world
      fun found mid => found = some preimage ∧ view mid = view world := by
  unfold scanPreimage
  split
  · refine Gives.tryCatch ((watches_claimScanFloor row height world).bind fun floor mid hm =>
      (gives_now mid).bind fun now after ha => ?_)
    obtain ⟨rfl, rfl⟩ := ha
    have hread : Gives (EvmSendLockup.perform worker) (Faultless preimage)
        (EvmSend.issue (.read (.findClaimPreimage floor after.base.clock))) after fun answer mid =>
          answer = .ok (some preimage) ∧ mid = after :=
      gives_issue_of_eq ⟨_, faultless_sampleReply preimage⟩ fun reply hk => by
        simp only [EvmSendLockup.perform, performRead, hk.revealed]
    refine hread.bind fun answer mid ha => ?_
    obtain ⟨rfl, rfl⟩ := ha
    exact gives_ret ⟨rfl, hm⟩
  next hn =>
    have hp : row.preimage = some preimage := hd.known.resolve_right hn
    exact gives_ret ⟨hp, rfl⟩

/-- Where a claim is due, a step observes its preimage, at the time it is. -/
theorem gives_observe {row : EvmSendSwapRow} (hd : Due preimage row) (world : LockupWorld) :
    Gives (EvmSendLockup.perform worker) (Faultless preimage) (EvmSend.observe deps row) world
      fun seen mid => seen.preimage = some preimage ∧ seen.nowSeconds = world.base.clock ∧
        view mid = view world := by
  refine (watches_ask (by simp) world).bind fun funded w₁ h₁ =>
    (watches_ask (by simp) w₁).bind fun present w₂ h₂ =>
    (watches_ask (by simp) w₂).bind fun height w₃ h₃ =>
    (watches_ask (by simp) w₃).bind fun clock w₄ h₄ =>
    (watches_lockReverted row w₄).bind fun reverted w₅ h₅ =>
    (watches_refundOutcome row w₅).bind fun outcome w₆ h₆ =>
    (watches_refundLanded row w₆).bind fun landed w₇ h₇ =>
    (gives_scanPreimage hd height w₇).bind fun found w₈ h₈ =>
    (watches_now w₈).bind fun now w₉ h₉ =>
    (watches_provenDepth (fun _ => watches_ask (by simp)) (fun _ => watches_ask (by simp))
      present height row.minConfirmations now w₉).bind fun depth w₁₀ h₁₀ =>
    (gives_now w₁₀).bind fun now w₁₁ h₁₁ => ?_
  have hview : view w₁₀ = view world := by
    rw [h₁₀, h₉, h₈.2, h₇, h₆, h₅, h₄, h₃, h₂, h₁]
  obtain ⟨rfl, rfl⟩ := h₁₁
  exact gives_ret ⟨h₈.1, congrArg (fun shown => (shown.1.clock : ℤ)) hview, hview⟩

/-- Before the refund locktime the claim that is due is ordered. -/
theorem plan_due {row : EvmSendSwapRow} {seen : EvmSendObservation} (hd : Due preimage row)
    (hs : seen.preimage = some preimage) (hn : seen.nowSeconds < row.refundLocktime) :
    planEvmSend row.plan seen = .claimArkade preimage := by
  have hlive : row.plan.state ∉ TERMINAL := hd.live
  have hor : seen.preimage.or row.plan.preimage = some preimage := by rw [hs, Option.some_or]
  unfold planEvmSend
  rw [if_neg hlive, hor]
  exact if_neg (by simpa [EvmSendSwapRow.plan] using hn)

/-- The world a won compare-and-swap leaves. -/
def wonMove (worker : ℕ) (source target : EvmSendSwapState) (columns : List EvmSendColumn)
    (world : LockupWorld) : LockupWorld :=
  let base := { world.base with
    row := assignAll evmSendShape columns
      (evmSendShape.stamp target world.base.clock world.base.row)
    deeds := EvmSend.deedOf worker target ++ world.base.deeds }
  record worker (.update source target columns) true { world with base := base }

/-- A compare-and-swap from the stored state is won. -/
theorem perform_wonMove {source target : EvmSendSwapState} {world : LockupWorld}
    (hs : world.base.row.state = source) (columns : List EvmSendColumn) (reply : LockupReply) :
    EvmSendLockup.perform worker (.update source target columns) reply world =
      some (true, wonMove worker source target columns world) := by
  have hwon : updateWhere evmSendShape world.base.clock source target columns world.base.row =
      some (assignAll evmSendShape columns
        (evmSendShape.stamp target world.base.clock world.base.row)) := if_pos hs
  simp only [EvmSendLockup.perform, performBase, EvmSend.perform, hwon]
  rfl

/-- A compare-and-swap from the state the row is in. -/
theorem gives_transition {id : String} {source target : EvmSendSwapState}
    {columns : List EvmSendColumn} {world : LockupWorld} (hs : world.base.row.state = source) :
    Gives (EvmSendLockup.perform worker) (Faultless preimage)
      (EvmSend.transition id source target columns) world fun _ mid =>
        mid.base.row.state = target ∧ mid.lockup = world.lockup ∧
          mid.base.clock = world.base.clock := by
  refine Gives.bind (gives_issue_of_eq ⟨_, faultless_sampleReply preimage⟩
    fun reply _ => perform_wonMove hs columns reply) fun won mid h => ?_
  obtain ⟨rfl, rfl⟩ := h
  refine gives_ret ⟨?_, ?_, ?_⟩
  · unfold wonMove
    rw [(record_base _ _ _ _).1]
    exact state_assignAll evmSendShape columns _
  · exact (record_base _ _ _ _).2
  · unfold wonMove
    rw [(record_base _ _ _ _).1]

/-- The script is claimed exactly where it holds an output a spend takes. -/
theorem gives_claim (world : LockupWorld) :
    Gives (EvmSendLockup.perform worker) (Faultless preimage)
      (EvmSend.issue (.claimArkade preimage)) world fun answer mid => mid.base = world.base ∧
        ((∃ txid, answer = .ok txid) ↔
          boundedSpendInputs world.lockup world.base.clock ≠ []) := by
  have hclaim : ∀ reply, Faultless preimage reply → ∃ answer mid,
      performClaim reply world = some (answer, mid) ∧ mid.base = world.base ∧
        ((∃ txid, answer = .ok txid) ↔
          boundedSpendInputs world.lockup world.base.clock ≠ []) := by
    intro reply hk
    obtain ⟨txid, hspend⟩ := hk.spend
    unfold performClaim
    simp only [hk.fault]
    by_cases hl : world.lockup = []
    · have hb : boundedSpendInputs world.lockup world.base.clock = [] := by
        rw [hl]
        rfl
      rw [if_pos hl]
      exact ⟨_, _, rfl, rfl, by simp [hb]⟩
    · rw [if_neg hl]
      by_cases hb : boundedSpendInputs world.lockup world.base.clock = []
      · simp only [spendable, hb]
        exact ⟨_, _, rfl, rfl, by simp⟩
      · simp only [spendable, if_neg hb, hspend, submit,
          if_pos (boundedSpendInputs_subset world.lockup world.base.clock)]
        exact ⟨_, _, rfl, rfl, by simp [hb]⟩
  obtain ⟨_, _, hp, -⟩ := hclaim _ (faultless_sampleReply preimage)
  refine gives_issue ⟨_, _, faultless_sampleReply preimage, hp⟩ fun reply answer mid hk hp => ?_
  obtain ⟨told, after, ha, hrest⟩ := hclaim reply hk
  cases ha.symm.trans hp
  exact hrest

/-- Carried out in peace, a claim closes the row exactly where the script still holds an
output a spend takes. -/
theorem ensures_claimArkade {row : EvmSendSwapRow} {world : LockupWorld}
    (hrow : world.base.row = row) :
    Ensures (EvmSendLockup.perform worker) (Faultless preimage)
      (EvmSend.claimArkade row preimage) world fun _ final =>
        final.base.row.state = .claimed ↔
          boundedSpendInputs world.lockup world.base.clock ≠ [] := by
  have hget : ∀ world : LockupWorld, Gives (EvmSendLockup.perform worker) (Faultless preimage)
      (EvmSend.issue .get) world fun current mid => current = world.base.row ∧ mid = world := by
    intro world
    refine gives_issue_of_eq ⟨_, faultless_sampleReply preimage⟩ fun reply _ => ?_
    simp [EvmSendLockup.perform, performBase, EvmSend.perform, record]
  have hrest : ∀ mid : LockupWorld, mid.base.row.state = .claiming →
      mid.lockup = world.lockup → mid.base.clock = world.base.clock →
      Ensures (EvmSendLockup.perform worker) (Faultless preimage) (do
        let _ ← EvmSend.issue .get
        let arkTxid ← Program.ofExcept (← EvmSend.issue (.claimArkade preimage))
        EvmSend.transition row.id .claiming .claimed [.claimArkTxid arkTxid]
        return false) mid fun _ final => final.base.row.state = .claimed ↔
          boundedSpendInputs world.lockup world.base.clock ≠ [] := by
    intro mid hs hl hc
    refine (hget mid).bind fun _ after ha => ?_
    rw [ha.2]
    refine (gives_claim mid).bind fun answer spent hspent => ?_
    obtain ⟨hbase, hiff⟩ := hspent
    rw [hl, hc] at hiff
    cases answer with
    | error fault =>
      have hempty : ¬ boundedSpendInputs world.lockup world.base.clock ≠ [] := fun hb => by
        obtain ⟨txid, ht⟩ := hiff.mpr hb
        cases ht
      have hstate : spent.base.row.state = .claiming := by rw [hbase, hs]
      change spent.base.row.state = .claimed ↔ _
      simp [hstate, hempty]
    | ok arkTxid =>
      have hsome := hiff.mp ⟨arkTxid, rfl⟩
      have hstate : spent.base.row.state = .claiming := by rw [hbase, hs]
      refine (gives_transition hstate).bind fun _ final hf => ?_
      change final.base.row.state = .claimed ↔ _
      exact iff_of_true hf.1 hsome
  unfold EvmSend.claimArkade
  split
  next hs =>
    change Ensures _ _ (if row.state ≠ .claiming then _ else _) _ _
    rw [if_neg (not_not.mpr hs)]
    exact hrest world (by rw [hrow, hs]) rfl rfl
  next hs =>
    refine (hget world).bind fun current mid hm => ?_
    obtain ⟨rfl, rfl⟩ := hm
    rw [hrow]
    change Ensures _ _ (if row.state ≠ .claiming then _ else _) _ _
    rw [if_pos hs]
    refine (gives_transition (by rw [hrow])).bind fun _ after ha => ?_
    exact hrest after ha.1 ha.2.1 ha.2.2

/-- A step on a row whose claim is due, before the refund locktime. -/
theorem ensures_step {world : LockupWorld} (hd : Due preimage world.base.row)
    (hn : (world.base.clock : ℤ) < world.base.row.refundLocktime) :
    Ensures (EvmSendLockup.perform worker) (Faultless preimage)
      (EvmSend.step deps world.base.row) world fun _ final =>
        final.base.row.state = .claimed ↔
          boundedSpendInputs world.lockup world.base.clock ≠ [] := by
  refine (gives_observe hd world).bind fun seen mid hm => ?_
  obtain ⟨hpreimage, hnow, hview⟩ := hm
  rw [plan_due hd hpreimage (by rw [hnow]; exact hn)]
  obtain ⟨hbase, hlockup⟩ := Prod.mk.inj hview
  have hclaim : Ensures (EvmSendLockup.perform worker) (Faultless preimage)
      (EvmSend.claimArkade world.base.row preimage) mid fun _ final =>
        final.base.row.state = .claimed ↔ boundedSpendInputs mid.lockup mid.base.clock ≠ [] :=
    ensures_claimArkade (congrArg EvmSendWorld.row hbase)
  rw [hbase, hlockup] at hclaim
  exact hclaim

/-- A claim leaves the row alone. -/
theorem performClaim_base {reply : LockupReply} {world next : LockupWorld}
    {answer : Except EvmFault String} (h : performClaim reply world = some (answer, next)) :
    next.base = world.base := by
  unfold performClaim at h
  split at h
  · cases h
    rfl
  · split at h
    · cases h
      rfl
    · split at h
      · cases h
        rfl
      · obtain rfl | ⟨rfl, -⟩ := submit_cases h
        · rfl
        · rfl

/-- What a crash inside the claim leaves: the same terms, and a row that is closed or whose
claim is still due. -/
def SendLeft (preimage : String) (locktime : ℤ) (world : LockupWorld) : Prop :=
  world.base.row.refundLocktime = locktime ∧
    (world.base.row.state = .claimed ∨ Due preimage world.base.row)

/-- Actions of the claim. -/
def claims (preimage : String) : EvmSendOp → Prop
  | .get => True
  | .update _ target columns => (target = .claiming ∧ columns = [.preimage preimage]) ∨
      (target = .claimed ∧ ∃ txid, columns = [.claimArkTxid txid])
  | .claimArkade _ => True
  | _ => False

/-- The claim issues nothing else. -/
theorem free_claims (row : EvmSendSwapRow) :
    (only EvmSendOp.Ans (claims preimage)).Free (EvmSend.claimArkade row preimage) := by
  have hrest : (only EvmSendOp.Ans (claims preimage)).Free (do
      let _ ← EvmSend.issue .get
      let arkTxid ← Program.ofExcept (← EvmSend.issue (.claimArkade preimage))
      EvmSend.transition row.id .claiming .claimed [.claimArkTxid arkTxid]
      return false) := fun _ => by
    refine ⟨trivial, fun _ => ⟨trivial, fun answer => ?_⟩⟩
    cases answer with
    | error fault => trivial
    | ok arkTxid =>
      refine ⟨.inr ⟨rfl, arkTxid, rfl⟩, fun won => ?_⟩
      cases won <;> trivial
  have hmove : ∀ current : EvmSendSwapRow, (only EvmSendOp.Ans (claims preimage)).Free (do
        if current.state ≠ .claiming then
          EvmSend.transition row.id current.state .claiming [.preimage preimage]
        let _ ← EvmSend.issue .get
        let arkTxid ← Program.ofExcept (← EvmSend.issue (.claimArkade preimage))
        EvmSend.transition row.id .claiming .claimed [.claimArkTxid arkTxid]
        return false) := fun current note => by
    dsimp only
    split
    · refine ⟨.inl ⟨rfl, rfl⟩, fun won => ?_⟩
      cases won with
      | false => trivial
      | true => exact hrest note
    · exact hrest note
  intro note
  unfold EvmSend.claimArkade
  split
  · exact hmove row note
  · exact ⟨trivial, fun current => hmove current _⟩

/-- Wherever the claim is cut short, it leaves the row closed or its claim due. -/
theorem sendLeft_of_reaches {row : EvmSendSwapRow} {locktime : ℤ} {world crashed : LockupWorld}
    (h : SendLeft preimage locktime world)
    (hr : Reaches (EvmSendLockup.perform worker) (EvmSend.claimArkade row preimage) world
      crashed) : SendLeft preimage locktime crashed := by
  refine hr.keeps (free_claims row) (fun op reply world answer next ha hi hp => ?_) h
  cases op with
  | get =>
    cases hp
    exact hi
  | claimArkade preimage =>
    unfold SendLeft
    rw [performClaim_base hp]
    exact hi
  | update source target columns =>
    simp only [EvmSendLockup.perform, performBase, EvmSend.perform] at hp
    split at hp
    next row hu =>
      cases hp
      unfold SendLeft
      rw [(record_base _ _ _ _).1, updateWhere_eq evmSendShape hu]
      obtain ⟨rfl, rfl⟩ | ⟨rfl, txid, rfl⟩ := ha
      · exact ⟨hi.1, .inr ⟨by simp [assignAll, evmSendShape, assign, TERMINAL], .inl rfl⟩⟩
      · exact ⟨hi.1, .inl rfl⟩
    next =>
      cases hp
      exact hi
  | _ => exact ha.elim

/-- The environment does not write the row. -/
theorem sendLeft_of_stirs {locktime : ℤ} {crashed later : LockupWorld} {moves : List LockupMove}
    (h : SendLeft preimage locktime crashed)
    (hs : stirs EvmSendLockup.stir crashed moves = some later) :
    SendLeft preimage locktime later ∧ later.base.row = crashed.base.row := by
  have hkeep : ∀ move world next, SendLeft preimage locktime world ∧
      world.base.row = crashed.base.row → EvmSendLockup.stir move world = some next →
      SendLeft preimage locktime next ∧ next.base.row = crashed.base.row := by
    intro move world next hi hm
    cases move with
    | wait seconds =>
      cases hm
      exact hi
    | arrive output =>
      simp only [EvmSendLockup.stir] at hm
      split at hm
      · cases hm
      · cases hm
        exact hi
    | depart output =>
      cases hm
      exact hi
  exact stirs_keeps hkeep hs ⟨h, rfl⟩

/-- An order to claim makes the claim due. -/
theorem due_of_plan {row : EvmSendSwapRow} {seen : EvmSendObservation}
    (hp : planEvmSend row.plan seen = .claimArkade preimage) (hs : Scanned row seen) :
    Due preimage row := by
  have hrule := planEvmSend_presupposes row.plan seen
  rw [hp] at hrule
  obtain ⟨hlive, hor, -⟩ := hrule
  refine ⟨hlive, ?_⟩
  obtain hs | hs := hs
  · rw [hs] at hor
    exact .inl (by simpa [EvmSendSwapRow.plan] using hor)
  · exact .inr hs

end IntentSolver.EvmSendRecovery
