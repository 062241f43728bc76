import IntentSolver.EvmSendLockup

/-!
# What an EVM send pays for it can collect

The funding gate sums every output at the script; a claim takes at most sixteen of them and
none that expires soon. The two agree while everything at the script goes into one spend. In
runs where it does, and where nobody else takes what the gate has counted, every lock rests
on outputs one claim can take, and a `claimed` row has collected what was quoted.
-/

namespace IntentSolver.EvmSendCollection

open ArkadeLockup EvmPort EvmSendPlan EvmSend EvmSendLockup WorkerProgram WorkerInterleaving

/-- Everything at the script goes into one spend: sixteen outputs at most, and none that
expires soon. -/
def OneSpend (lockup : List FundedOutput) (now : ℤ) : Prop :=
  (∀ output ∈ lockup, spendableAt now output = true) ∧ lockup.length ≤ MAX_LOCKUP_SPEND_INPUTS

instance (lockup : List FundedOutput) (now : ℤ) : Decidable (OneSpend lockup now) :=
  inferInstanceAs (Decidable (_ ∧ _))

/-- The script and what the row's claims have spent of it still carry what the read counted
that a lock was ordered on: nobody else has taken any of it away. -/
def Untouched (world : LockupWorld) : Prop :=
  ∃ order ∈ world.orders,
    totalValue order.shown ≤ totalValue world.lockup + totalValue world.collected

instance (world : LockupWorld) : Decidable (Untouched world) :=
  inferInstanceAs (Decidable (∃ order ∈ world.orders,
    totalValue order.shown ≤ totalValue world.lockup + totalValue world.collected))

/-- A quoted row's funding is read, and a claim finds something, only while everything at the
script goes into one spend; and what the lock was ordered on is not claimed by others. -/
def collectible : Condition lockupMachine
  | _, .read .arkadeLockupFunded, _, world => world.base.row.state = .quoted →
      OneSpend world.lockup world.base.clock
  | _, .claimArkade _, _, world => world.lockup ≠ [] →
      OneSpend world.lockup world.base.clock ∧ Untouched world
  | _, _, _, _ => True

instance : ∀ worker op reply world, Decidable (collectible worker op reply world)
  | _, .read question, _, world => match question with
    | .arkadeLockupFunded => show Decidable (world.base.row.state = .quoted →
        OneSpend world.lockup world.base.clock) from inferInstance
    | .isLocked | .isLockedAt _ | .blockTimestampAt _ | .blockHeight | .timelockHeight
    | .transactionOutcome _ | .transactionBlock _ | .findRefund _ | .findClaimPreimage _ _
    | .approval | .allowance | .findLockups | .lockupProvablySpent => isTrue trivial
  | _, .claimArkade _, _, (world : LockupWorld) => show Decidable (world.lockup ≠ [] →
      OneSpend world.lockup world.base.clock ∧ Untouched world) from inferInstance
  | _, .get, _, _ | _, .update _ _ _, _, _ | _, .patch _, _, _ | _, .claimRefundTxid _, _, _
  | _, .findRefundable, _, _ | _, .findClosedOverLock _, _, _ | _, .now, _, _
  | _, .broadcast _, _, _ | _, .refundArkade, _, _ => isTrue trivial

/-- The values of two lists of outputs add up. -/
theorem totalValue_append (first second : List FundedOutput) :
    totalValue (first ++ second) = totalValue first + totalValue second := by
  unfold totalValue
  rw [List.map_append, List.sum_append]

/-- The read counted the amount, and one claim of what it showed, when it was taken, brings
it in. -/
structure Suffices (amount : ℤ) (read : LockupRead) : Prop where
  counted : amount ≤ totalValue read.shown
  one : amount ≤ totalValue (boundedSpendInputs read.shown read.clock)

/-- Reads that license a lock suffice, and so do the collected sats once a claim went
through. -/
structure CollectionInv (amount : ℤ) (world : LockupWorld) (notes : ℕ → LockupNote) : Prop where
  amountSats : world.base.row.amountSats = amount
  notFunded : world.base.row.state ≠ .funded
  funding : ∀ worker, (notes worker).funded = true → world.base.row.state = .quoted →
    Suffices amount (world.funding worker)
  orders : ∀ order ∈ world.orders, Suffices amount order
  collected : ∀ worker, (notes worker).collected = true → amount ≤ totalValue world.collected
  claimed : world.base.row.state = .claimed → amount ≤ totalValue world.collected

section Steps

variable {amount : ℤ} {world next : LockupWorld} {notes : ℕ → LockupNote} {worker : ℕ}

/-- Another note that says no more is as true. -/
theorem CollectionInv.update {note : LockupNote} (h : CollectionInv amount world notes)
    (hf : note.funded = true → world.base.row.state = .quoted →
      Suffices amount (world.funding worker))
    (hc : note.collected = true → amount ≤ totalValue world.collected) :
    CollectionInv amount world (Function.update notes worker note) := by
  refine ⟨h.amountSats, h.notFunded, fun other => ?_, h.orders, fun other => ?_, h.claimed⟩
  all_goals by_cases ho : other = worker
  all_goals first | rw [ho, Function.update_self] | rw [Function.update_of_ne ho]
  · exact hf
  · exact h.funding other
  · exact hc
  · exact h.collected other

/-- A worker that learns nothing new keeps its note. -/
theorem CollectionInv.keep {base : EvmSendWorld} (h : CollectionInv amount world notes)
    (hk : Kept world.base.row base.row) :
    CollectionInv amount { world with base := base } notes := by
  refine ⟨hk.amountSats.trans h.amountSats, ?_, fun other hf hq => ?_, h.orders, h.collected,
    fun hc => ?_⟩
  · rw [hk.state]
    exact h.notFunded
  · exact h.funding other hf (hk.state.symm.trans hq)
  · exact h.claimed (hk.state.symm.trans hc)

/-- A funding read keeps the invariant when one spend takes the lockup. -/
theorem keeps_funding (h : CollectionInv amount world notes)
    (hc : world.base.row.state = .quoted → OneSpend world.lockup world.base.clock) :
    CollectionInv amount
      { world with funding :=
        Function.update world.funding worker ⟨world.lockup, world.base.clock⟩ }
      (Function.update notes worker { notes worker with
        funded := lockupIsFunded world.lockup world.base.row.amountSats }) := by
  refine ⟨h.amountSats, h.notFunded, fun other => ?_, h.orders, fun other => ?_, h.claimed⟩
  · by_cases ho : other = worker
    · rw [ho, Function.update_self]
      dsimp only
      rw [Function.update_self]
      intro hf hq
      have hcounted : amount ≤ totalValue world.lockup := h.amountSats ▸ of_decide_eq_true hf
      have hall := boundedSpendInputs_eq_self_iff.mpr (hc hq)
      exact ⟨hcounted, by rw [hall]; exact hcounted⟩
    · dsimp only
      rw [Function.update_of_ne ho, Function.update_of_ne ho]
      exact h.funding other
  · by_cases ho : other = worker
    · rw [ho, Function.update_self]
      exact h.collected worker
    · rw [Function.update_of_ne ho]
      exact h.collected other

/-- A claim keeps the invariant when one spend takes the untouched lockup. -/
theorem keeps_claim {inputs : List FundedOutput} {note : LockupNote}
    (h : CollectionInv amount world notes)
    (hi : boundedSpendInputs world.lockup world.base.clock = inputs) (hn : inputs ≠ [])
    (hc : world.lockup ≠ [] → OneSpend world.lockup world.base.clock ∧ Untouched world)
    (hf : note.funded = (notes worker).funded) :
    CollectionInv amount
      { world with
        lockup := world.lockup.filter (· ∉ inputs)
        collected := inputs ++ world.collected }
      (Function.update notes worker note) := by
  have hsum : amount ≤ totalValue (inputs ++ world.collected) := by
    have hsome : world.lockup ≠ [] := by
      intro he
      rw [he] at hi
      exact hn hi.symm
    obtain ⟨hone, order, ho, hkept⟩ := hc hsome
    have hcounted := (h.orders order ho).counted
    -- The claim takes all there is, and that with the earlier ones is what was counted.
    have hall := boundedSpendInputs_eq_self_iff.mpr hone
    rw [totalValue_append, ← hi, hall]
    omega
  refine ⟨h.amountSats, h.notFunded, fun other => ?_, h.orders, fun _ _ => hsum, fun _ => hsum⟩
  by_cases ho : other = worker
  · rw [ho, Function.update_self, hf]
    exact h.funding worker
  · rw [Function.update_of_ne ho]
    exact h.funding other

/-- A licensed transition keeps the invariant. -/
theorem keeps_move {source target : EvmSendSwapState} {columns : List EvmSendColumn}
    {base : EvmSendWorld} (h : CollectionInv amount world notes)
    (hm : (notes worker).may (.update source target columns))
    (hs : world.base.row.state = source) (ht : base.row.state = target)
    (ha : base.row.amountSats = world.base.row.amountSats) :
    CollectionInv amount
      (record worker (.update source target columns) true { world with base := base }) notes := by
  obtain ⟨hlock, hclaim, hquoted, hfunded, -⟩ := hm
  have hrest : CollectionInv amount { world with base := base } notes := by
    refine ⟨ha.trans h.amountSats, ?_, fun other _ hq => ?_, h.orders, h.collected, fun hc => ?_⟩
    · rw [ht]
      exact hfunded
    · exact absurd (ht.symm.trans hq) hquoted
    · exact h.collected worker (hclaim (ht.symm.trans hc))
  simp only [record]
  split
  next hl =>
    -- The order rests on a read that was taken while the row was still `quoted`.
    have hread : Suffices amount (world.funding worker) := by
      obtain hsource | ⟨hsource, hf⟩ := hlock hl
      · exact absurd (hs.trans hsource) h.notFunded
      · exact h.funding worker hf (hs.trans hsource)
    refine ⟨hrest.amountSats, hrest.notFunded, hrest.funding, fun order ho => ?_,
      hrest.collected, hrest.claimed⟩
    obtain rfl | ho := List.mem_cons.mp ho
    · exact hread
    · exact h.orders order ho
  · exact hrest

/-- A patch keeps the invariant. -/
theorem keeps_patch (worker : ℕ) (columns : List EvmSendColumn) {base : EvmSendWorld}
    (h : CollectionInv amount world notes) (hs : base.row.state = world.base.row.state)
    (ha : base.row.amountSats = world.base.row.amountSats) :
    CollectionInv amount (record worker (.patch columns) () { world with base := base }) notes := by
  have hrest : CollectionInv amount { world with base := base } notes :=
    ⟨ha.trans h.amountSats, hs ▸ h.notFunded, fun other hf hq => h.funding other hf (hs ▸ hq),
      h.orders, h.collected, fun hc => h.claimed (hs ▸ hc)⟩
  simp only [record]
  split
  · exact ⟨hrest.amountSats, hrest.notFunded, hrest.funding, hrest.orders, hrest.collected,
      hrest.claimed⟩
  · exact hrest

/-- Every licensed action on a collectible script keeps the invariant. -/
theorem keeps_effect {op : EvmSendOp} {reply : LockupReply} {answer : op.Ans}
    (h : CollectionInv amount world notes) (hm : (notes worker).may op)
    (hc : collectible worker op reply world) (he : Effect worker world op answer next) :
    CollectionInv amount next
      (Function.update notes worker ((notes worker).learn op answer)) := by
  cases he with
  | nothing hl _ hk =>
    rw [hl, Function.update_eq_self]
    exact h.keep hk
  | funding => exact keeps_funding h hc
  | outputs =>
    have hrest : CollectionInv amount
        { world with
          pass := Function.update world.pass worker ⟨world.lockup, [], false⟩
          arrived := Function.update world.arrived worker false } notes :=
      ⟨h.amountSats, h.notFunded, h.funding, h.orders, h.collected, h.claimed⟩
    exact hrest.update (h.funding worker) (h.collected worker)
  | proof spent _ =>
    have hrest : CollectionInv amount
        (world.editPass worker fun pass => { pass with provablySpent := spent }) notes :=
      ⟨h.amountSats, h.notFunded, h.funding, h.orders, h.collected, h.claimed⟩
    exact hrest.update (h.funding worker) (h.collected worker)
  | @claim _ answer _ hi hn =>
    refine keeps_claim h hi hn hc ?_
    cases answer <;> rfl
  | @refund answer inputs _ _ =>
    have hrest : CollectionInv amount
        ({ world with lockup := world.lockup.filter (· ∉ inputs) }.editPass worker
          fun pass => { pass with returned := inputs }) notes :=
      ⟨h.amountSats, h.notFunded, h.funding, h.orders, h.collected, h.claimed⟩
    cases answer with
    | error fault => exact hrest.update (h.funding worker) (h.collected worker)
    | ok txid => exact hrest.update (h.funding worker) (h.collected worker)
  | move _ hs ht ha _ =>
    have hmoved := keeps_move h hm hs ht ha
    exact hmoved.update (hmoved.funding worker) (hmoved.collected worker)
  | @patch columns _ _ hs ha _ =>
    have hpatched := keeps_patch worker columns h hs ha
    exact hpatched.update (hpatched.funding worker) (hpatched.collected worker)

end Steps

/-- Every schedule on a collectible script keeps the invariant. -/
def collectionProtocol (amount : ℤ) : Protocol lockupMachine collectible where
  discipline := lockupDiscipline
  inv := CollectionInv amount
  forget world notes worker h := h.update (by simp [lockupDiscipline]) (by simp [lockupDiscipline])
  act world notes worker op reply answer next h hm hc hp := keeps_effect h hm hc (perform_effect hp)
  stir world notes move next h hs := by
    cases move with
    | wait seconds =>
      cases hs
      exact h.keep (Kept.refl _)
    | arrive output =>
      simp only [lockupMachine, stir] at hs
      split at hs
      · cases hs
      · cases hs
        exact ⟨h.amountSats, h.notFunded, h.funding, h.orders, h.collected, h.claimed⟩
    | depart output =>
      cases hs
      exact ⟨h.amountSats, h.notFunded, h.funding, h.orders, h.collected, h.claimed⟩
  jobs := obeys_jobs

/-- From a quoted row, in every run on collectible scripts: whatever a lock was ordered on, one
claim of it at that moment brings in the quoted sats; and a row that is `claimed` has
collected them. -/
theorem evm_send_collects_what_it_pays {row : EvmSendSwapRow} {lockup : List FundedOutput}
    {clock : ℕ} {events : List (Event lockupMachine)} {final : Config lockupMachine}
    (hq : row.state = .quoted) (hr : run (boot (opened row lockup clock)) events = some final)
    (hp : Permitted collectible (boot (opened row lockup clock)) events) :
    (∀ order ∈ final.world.orders,
      row.amountSats ≤ totalValue (boundedSpendInputs order.shown order.clock)) ∧
    (final.world.base.row.state = .claimed →
      row.amountSats ≤ totalValue final.world.collected) := by
  have hstart : CollectionInv row.amountSats (opened row lockup clock)
      fun _ => lockupDiscipline.fresh := by
    refine ⟨rfl, ?_, by simp [lockupDiscipline], by simp [opened], by simp [lockupDiscipline],
      fun hc => ?_⟩
    · simp [opened, hq]
    · simp [opened, hq] at hc
  obtain ⟨notes, hinv⟩ := (collectionProtocol row.amountSats).inv_of_run hstart hp hr
  exact ⟨fun order ho => (hinv.orders order ho).one, hinv.claimed⟩

/-- One tick locks the ERC20, the next claims with the preimage the client revealed. -/
def sampleRun : List (Event lockupMachine) :=
  .start 0 (.tick ⟨false, 12⟩ 1) :: List.append (List.replicate 18 (.act 0 (sampleReply none)))
    (.start 0 (.tick ⟨false, 12⟩ 1) ::
      List.replicate 16 (.act 0 (sampleReply (some "preimage"))))

/-- A little more than the quoted sats in two outputs, none of which expires soon. -/
def overpaid : List FundedOutput := [⟨"a", 0, 600, [], none⟩, ⟨"b", 0, 440, [], some 9000⟩]

/-- The claim takes both outputs, and the quoted sats come in. -/
theorem evm_send_collects_what_it_pays_sample :
    ∃ final, run (boot (opened sampleRow overpaid 100)) sampleRun = some final ∧
      final.world.orders ≠ [] ∧ final.world.base.row.state = .claimed ∧
      (∀ order ∈ final.world.orders,
        1000 ≤ totalValue (boundedSpendInputs order.shown order.clock)) ∧
      1000 ≤ totalValue final.world.collected := by
  obtain ⟨final, hr⟩ : ∃ final, run (boot (opened sampleRow overpaid 100)) sampleRun =
      some final := Option.isSome_iff_exists.mp (by decide +kernel)
  have hp : Permitted collectible (boot (opened sampleRow overpaid 100)) sampleRun := by
    decide +kernel
  have hs : (run (boot (opened sampleRow overpaid 100)) sampleRun).map (fun final =>
      (final.world.base.row.state, final.world.orders.length)) = some (.claimed, 1) := by
    decide +kernel
  rw [hr] at hs
  obtain ⟨hstate, hlength⟩ := Prod.mk.inj (Option.some.inj hs)
  obtain ⟨horders, hclaimed⟩ := evm_send_collects_what_it_pays rfl hr hp
  refine ⟨final, hr, fun hn => ?_, hstate, horders, hclaimed hstate⟩
  rw [hn] at hlength
  cases hlength

/-- The quoted sats in two outputs, one of which expires in a moment. -/
def expiring : List FundedOutput := [⟨"a", 0, 600, [], none⟩, ⟨"b", 0, 400, [], some 300⟩]

/-- The gate counts an output no claim will take: the ERC20 is locked for a thousand sats
and the row is closed as `claimed` over six hundred. -/
theorem expiring_lockup_is_paid_for :
    ∃ final, run (boot (opened sampleRow expiring 100)) sampleRun = some final ∧
      sampleRow.state = .quoted ∧ sampleRow.amountSats = 1000 ∧
      (∃ order ∈ final.world.orders,
        totalValue (boundedSpendInputs order.shown order.clock) = 600) ∧
      final.world.base.row.state = .claimed ∧ totalValue final.world.collected = 600 := by
  obtain ⟨final, hr⟩ : ∃ final, run (boot (opened sampleRow expiring 100)) sampleRun =
      some final := Option.isSome_iff_exists.mp (by decide +kernel)
  have hs : (run (boot (opened sampleRow expiring 100)) sampleRun).map (fun final =>
      (final.world.base.row.state, totalValue final.world.collected,
        final.world.orders.map fun order =>
          totalValue (boundedSpendInputs order.shown order.clock))) =
        some (.claimed, 600, [600]) := by decide +kernel
  rw [hr] at hs
  simp only [Option.map_some, Option.some.injEq, Prod.mk.injEq] at hs
  obtain ⟨hstate, hcollected, horders⟩ := hs
  have hmem : (600 : ℤ) ∈ final.world.orders.map fun order =>
      totalValue (boundedSpendInputs order.shown order.clock) := by simp [horders]
  obtain ⟨order, hm, hv⟩ := List.mem_map.mp hmem
  exact ⟨final, hr, rfl, rfl, ⟨order, hm, hv⟩, hstate, hcollected⟩

end IntentSolver.EvmSendCollection
