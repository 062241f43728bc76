import IntentSolver.RebalanceInvariant

/-!
# Rebalancing is safe and stays in its budget

Over every run of the service, with jobs in any order, any answers and any crashes: a transfer
is submitted once at most, one is undecided at most, what ended stays as it ended, and inputs
that are a transfer's own are pinned whenever the process serves. With a clock that does not go
back, what refills debit stays within every day's limit.
-/

namespace IntentSolver.RebalanceSafety

open EvmClaimAnswers KeyedRows RebalanceInvariant RebalanceLicence RebalanceService
  RebalanceTransfers RefillPolicy RollingBudget SerialService

/-- Empty tables and no process. -/
def found (clock : ℤ) : RebalanceWorld where
  rows := []
  lastAttempt := 0
  policy := disabledRebalancePolicy
  stopped := false
  holds := fun _ => false
  terminalPins := []
  pins := fun _ => 0
  readings := fun _ => none
  clock := clock
  history := {
    policies := [disabledRebalancePolicy]
    submissions := []
    charges := []
    births := []
    attempts := [] }

variable {deps : RebalanceDeps} {steady : Bool}

/-- Where every run starts. -/
def start (deps : RebalanceDeps) (steady : Bool) (clock : ℤ) :
    Config (rebalanceService deps steady) :=
  ⟨found clock, .down⟩

/-- The policy that is off is a valid one. -/
theorem valid_disabled : disabledRebalancePolicy.Valid where
  amounts := by decide
  feeBps := by decide
  positive := nofun
  targets := fun _ hm => absurd hm List.not_mem_nil

/-- The invariant holds of the database a process finds. -/
theorem inv_found (clock : ℤ) : Inv steady (found clock) Note.booting where
  sound := {
    nodup := List.nodup_nil
    critical := Nat.zero_le 1
    active := Nat.zero_le 2
    shape := fun _ hm => absurd hm List.not_mem_nil
    once := List.nodup_nil
    submitted := fun _ hm => absurd hm List.not_mem_nil
    pinned := fun _ hm => absurd hm List.not_mem_nil }
  pins := ⟨fun _ => le_refl _, nofun⟩
  budget := {
    force := List.mem_cons_self
    valid := List.forall_mem_singleton.mpr valid_disabled
    born := fun _ hm => absurd hm List.not_mem_nil
    charges := List.Perm.refl _
    limits := fun _ hm => absurd hm List.not_mem_nil
    past := fun _ _ hm => absurd hm List.not_mem_nil
    kept := fun _ => .nil
    last := fun _ hm => absurd hm List.not_mem_nil
    spaced := fun _ => List.Pairwise.nil
    attempters := fun _ hm => absurd hm List.not_mem_nil }
  facts := fun _ hk => hk.elim

/-- Every moment of every run meets the invariant. -/
theorem inv_of_run {clock : ℤ} {events : List (Event (rebalanceService deps steady))}
    {final : Config (rebalanceService deps steady)}
    (h : run (start deps steady clock) events = some final) :
    ∃ note, (rules deps steady).Holds final note := by
  have hstart : (rules deps steady).Holds (start deps steady clock) Note.booting :=
    ⟨inv_found clock, trivial⟩
  exact Rules.holds_run hstart h

/-! ## What ended stays -/

/-- Rows that are terminal stay as they are. -/
def TerminalKept (rows later : List RebalanceTransfer) : Prop :=
  ∀ row ∈ rows, row.state.isTerminal = true →
    Stored later row.id fun kept => kept.state = row.state

/-- Every table keeps its own terminal rows. -/
theorem TerminalKept.refl (rows : List RebalanceTransfer) : TerminalKept rows rows :=
  fun _ hm _ => stored_of_mem hm rfl

/-- Terminal rows are kept over two stretches when over each. -/
theorem TerminalKept.trans {rows mid later : List RebalanceTransfer} (h : TerminalKept rows mid)
    (h' : TerminalKept mid later) : TerminalKept rows later := by
  intro row hm ht
  obtain ⟨kept, hk, hid, hs⟩ := h row hm ht
  obtain ⟨last, hl, hlid, hls⟩ := h' kept hk (by rw [hs]; exact ht)
  exact ⟨last, hl, hlid.trans hid, hls.trans hs⟩

/-- The guard of the UPDATE keeps what is terminal, whatever is written. -/
theorem terminalKept_saved {row : RebalanceTransfer} {rows : List RebalanceTransfer} :
    TerminalKept rows (saved row rows) := by
  intro stored hm ht
  refine At.update (stored_of_mem hm rfl) fun other ho hk hpass _ hs => ?_
  rw [← hs] at ht ⊢
  exact ((savable_guard hpass).1 ht).symm

/-- No action touches a terminal row. -/
theorem terminalKept_perform {op : RebalanceOp} {reply : RebalanceReply}
    {world next : RebalanceWorld} {answer : op.Ans}
    (hp : RebalanceTransfers.perform op reply world = some (answer, next)) :
    TerminalKept world.rows next.rows := by
  have hrefl := TerminalKept.refl world.rows
  cases op with
  | create row =>
    unfold RebalanceTransfers.perform at hp
    dsimp only at hp
    split at hp
    · cases hp
      exact hrefl
    · cases hp
      exact hrefl
    · cases hp
      exact fun stored hm _ => stored_of_mem (List.mem_cons_of_mem _ hm) rfl
  | save row =>
    unfold RebalanceTransfers.perform at hp
    dsimp only at hp
    split at hp
    · cases hp
      exact hrefl
    · cases hp
      exact hrefl
    · cases hp
      exact terminalKept_saved
  | _ =>
    unfold RebalanceTransfers.perform at hp
    dsimp only at hp
    repeat' split at hp
    all_goals
      cases hp
      exact hrefl

/-- No step of the service touches a terminal row. -/
theorem terminalKept_step {config next : Config (rebalanceService deps steady)}
    {event : Event (rebalanceService deps steady)} (hs : step config event = some next) :
    TerminalKept config.world.rows next.world.rows := by
  have hrefl := TerminalKept.refl config.world.rows
  obtain ⟨world, activity⟩ := config
  cases event with
  | boot boot =>
    cases hs
    exact hrefl
  | stir move =>
    obtain ⟨moved, hw, rfl⟩ := Option.map_eq_some_iff.mp hs
    cases move with
    | stop =>
      cases hw
      exact hrefl
    | wait seconds =>
      change RebalanceTransfers.stir steady (.wait seconds) world = some moved at hw
      unfold RebalanceTransfers.stir at hw
      dsimp only at hw
      split_ifs at hw
      cases hw
      exact hrefl
  | start job =>
    unfold step at hs
    dsimp only at hs
    split at hs <;> cases hs <;> exact hrefl
  | act reply =>
    unfold step at hs
    dsimp only at hs
    split at hs
    · obtain ⟨⟨answer, moved⟩, hw, rfl⟩ := Option.map_eq_some_iff.mp hs
      exact terminalKept_perform hw
    · obtain ⟨⟨answer, moved⟩, hw, rfl⟩ := Option.map_eq_some_iff.mp hs
      exact terminalKept_perform hw
    · cases hs

/-- No run of the service touches a terminal row. -/
theorem terminalKept_run {config final : Config (rebalanceService deps steady)}
    {events : List (Event (rebalanceService deps steady))}
    (h : run config events = some final) : TerminalKept config.world.rows final.world.rows := by
  induction events generalizing config with
  | nil =>
    cases h
    exact TerminalKept.refl _
  | cons event rest ih =>
    obtain ⟨mid, hs, hr⟩ := Option.bind_eq_some_iff.mp h
    exact (terminalKept_step hs).trans (ih hr)

/-! ## The debits of refills -/

/-- A refill that was charged in the day that ends then. -/
def refilledBy (until_ : ℤ) (row : RebalanceTransfer) : Bool :=
  match row.chargedAt with
  | none => false
  | some time => decide (row.terms.origin = .automatic ∧
      until_ - ROLLING_SECONDS < time ∧ time ≤ until_)

/-- What refills debited in the day that ends then. -/
def automaticDebits (until_ : ℤ) (rows : List RebalanceTransfer) : ℤ :=
  ((rows.filter (refilledBy until_)).map fun row => row.terms.debitSats).sum

/-! ## A refill, from an empty store -/

/-- A deployment that names every policy alike. -/
def sampleDeps : RebalanceDeps where
  revision := fun _ => "v1"
  maintains := false
  parseUrl := fun _ => .error "Invalid URL"

/-- One pool, refilled to 1000 sats when it holds fewer than 500. -/
def samplePolicy : Json :=
  .object [
    ("enabled", .bool true), ("reserveSats", .number 0), ("maxDebitSats", .number 2000),
    ("dailyDebitSats", .number 3000), ("maxFeeSats", .number 100), ("maxFeeBps", .number 500),
    ("minTransferSats", .number 100), ("cooldownSeconds", .number 300),
    ("targets", .object [("lnd", .object [
      ("minimumSats", .number 500), ("targetSats", .number 1000)])])]

/-- The pool holds 200 sats, and every payment is taken. -/
def sampleReply : RebalanceReply where
  fault := none
  answer
    | .pools => .ok [⟨"lnd", [.lightning]⟩]
    | .prepare _ kind netSats _ => .ok ⟨kind, "invoice", netSats, netSats, 0, none⟩
    | .receipt _ _ _ => .ok .pending
    | .maintain => .ok ()
    | .overlapCheckpoint => .ok none
    | .quote deposit _ _ => .ok ⟨deposit.amountSats, 0, [⟨"coin", 0, 2000⟩], 2000⟩
    | .inputsAbsent _ => .ok []
    | .reconcile _ => .ok ⟨.unknown, none⟩
    | .savePolicy _ => .ok ()
    | .randomUUID => .ok "t1"
  balance := 200
  submitted := .ok (String.ofList (List.replicate 64 'a'))

/-- A process starts over empty tables, and its first tick refills the pool. -/
def sampleEvents : List (Event (rebalanceService sampleDeps true)) :=
  .boot (some samplePolicy) :: List.replicate 3 (.act sampleReply) ++
    .start .tick :: List.replicate 46 (.act sampleReply)

/-- It submits one refill of 800 sats. -/
theorem run_sample : ∃ final, run (start sampleDeps true 1000) sampleEvents = some final ∧
    final.world.history.submissions = ["t1"] ∧ automaticDebits 1000 final.world.rows = 800 := by
  have hdone : (run (start sampleDeps true 1000) sampleEvents).map
      (fun final => (final.world.history.submissions, automaticDebits 1000 final.world.rows)) =
        some (["t1"], 800) := by
    decide +kernel
  obtain ⟨final, hr, hd⟩ := Option.map_eq_some_iff.mp hdone
  exact ⟨final, hr, congrArg Prod.fst hd, congrArg Prod.snd hd⟩

/-! ## Safety -/

/-- What holds of the transfers at a moment. -/
structure TransfersSafe (config : Config (rebalanceService deps steady)) : Prop where
  identity : (config.world.rows.map RebalanceTransfer.id).Nodup
  /-- The source is told to pay a transfer once at most. -/
  once : config.world.history.submissions.Nodup
  /-- What it was told to pay is open, completed or refunded, never quoted or cancelled. -/
  submitted : ∀ id ∈ config.world.history.submissions,
    Stored config.world.rows id RebalanceTransfer.Started
  undecided : critical config.world.rows ≤ 1
  opened : active config.world.rows ≤ 2
  /-- While the process serves, inputs that are a transfer's own are pinned. -/
  pinned : ∀ code, config.activity = .serving code →
    ∀ row ∈ config.world.rows, row.NeedsPin → 0 < config.world.pins row.id

/-- For any jobs in any order, any answers and failures of the store, the pools and the source,
and crashes with restarts at any action: every transfer is submitted once at most, and never if
it is cancelled; one is undecided and two are open at most; a transfer that ended, failed or was
cancelled stays so for ever; and every transfer that is open, or ended with its inputs not yet
seen gone, has a pin on them in the process that serves. -/
theorem transfers_submitted_once {clock : ℤ}
    {events : List (Event (rebalanceService deps steady))}
    {final : Config (rebalanceService deps steady)}
    (h : run (start deps steady clock) events = some final) :
    TransfersSafe final ∧ ∀ later last, run final later = some last →
      TerminalKept final.world.rows last.world.rows := by
  obtain ⟨note, hinv, hlicensed⟩ := inv_of_run h
  refine ⟨⟨hinv.sound.nodup, hinv.sound.once, hinv.sound.submitted, hinv.sound.critical,
    hinv.sound.active, fun code hcode row hm hn => ?_⟩, fun _ _ => terminalKept_run⟩
  rw [hcode] at hlicensed
  have hcount := hinv.pins.count row.id
  obtain hheld | hcarry := hinv.pins.needed hlicensed.1 row hm hn
  · unfold heldPins at hcount
    rw [hheld] at hcount
    simp only [if_true] at hcount
    omega
  · unfold carried at hcount
    rw [if_pos hcarry] at hcount
    omega

/-- The answers while a second transfer overrides the first: a fresh checkpoint saw its debit. -/
def overrideReply : RebalanceReply :=
  { sampleReply with
    answer := fun
      | .overlapCheckpoint => .ok (some ⟨1000, 1000, some "1", [],
          some ⟨some 2, [⟨"t1", 1000, true, 800⟩], none, []⟩⟩)
      | .randomUUID => .ok "t2"
      | .quote deposit _ _ => .ok ⟨deposit.amountSats, 0, [⟨"second", 0, 2000⟩], 2000⟩
      | question => sampleReply.answer question
    submitted := .ok (String.ofList (List.replicate 64 'b')) }

/-- After the refill a manual transfer overrides it; the process dies right after the payment was
submitted, and another one starts and ticks. -/
def overrideEvents : List (Event (rebalanceService sampleDeps true)) :=
  sampleEvents ++ .start (.quote ⟨"lnd", 300, "second", none, none, some ["t1"]⟩) ::
    List.replicate 13 (.act overrideReply) ++ .start (.submit "t2" (some ["t1"])) ::
    List.replicate 14 (.act overrideReply) ++ .boot (some samplePolicy) ::
    List.replicate 7 (.act overrideReply) ++ .start .tick :: List.replicate 14 (.act overrideReply)

/-- Both transfers are open after the crash; the second was not submitted again, waits to be
reconciled, and its inputs are pinned. -/
theorem transfers_submitted_once_sample :
    ∃ final, run (start sampleDeps true 1000) overrideEvents = some final ∧
      final.world.history.submissions = ["t2", "t1"] ∧
      final.world.rows.map RebalanceTransfer.state = [.needsReconciliation, .pending] ∧
      TransfersSafe final := by
  have hdone : (run (start sampleDeps true 1000) overrideEvents).map
      (fun final => (final.world.history.submissions,
        final.world.rows.map RebalanceTransfer.state)) =
        some (["t2", "t1"], [.needsReconciliation, .pending]) := by
    decide +kernel
  obtain ⟨final, hr, hd⟩ := Option.map_eq_some_iff.mp hdone
  obtain ⟨hsubmissions, hstates⟩ := Prod.mk.inj hd
  exact ⟨final, hr, hsubmissions, hstates, (transfers_submitted_once hr).1⟩

/-! ## The budget -/

/-- The debits of refills, by the keys of their rows. -/
theorem automaticDebits_eq_keySum {until_ : ℤ} {rows : List RebalanceTransfer} :
    automaticDebits until_ rows =
      keySum until_ ((rows.flatMap rowKey).filter fun key => key.2.2) := by
  unfold automaticDebits
  induction rows with
  | nil => rfl
  | cons row rows ih =>
    rw [List.flatMap_cons, List.filter_append, keySum_append, ← ih]
    have hkey : keySum until_ ((rowKey row).filter fun key => key.2.2) =
        if refilledBy until_ row = true then row.terms.debitSats else 0 := by
      unfold rowKey refilledBy keySum
      cases row.chargedAt with
      | none => rfl
      | some time =>
        by_cases ho : row.terms.origin = .automatic
        · by_cases hw : until_ - ROLLING_SECONDS < time ∧ time ≤ until_
          · simp [ho, hw]
          · simp [ho, hw]
        · simp [ho]
    rw [hkey, List.filter_cons]
    split_ifs
    · rw [List.map_cons, List.sum_cons]
    · rw [zero_add]

/-- They are the limited charges. -/
theorem limited_eq_keySum {until_ : ℤ} {charges : List Charge} :
    limited ROLLING_SECONDS until_ charges =
      keySum until_ ((charges.map chargeKey).filter fun key => key.2.2) := by
  unfold limited
  rw [charged_eq_keySum, List.filter_map]
  rfl

/-- What holds of the money at a moment. -/
structure BudgetKept (world : RebalanceWorld) : Prop where
  /-- Every policy that was in force had passed its checks. -/
  valid : ∀ policy ∈ world.history.policies, policy.Valid
  /-- No day's refills debit more than the largest daily limit that was in force. -/
  day : ∀ budget, 0 ≤ budget →
    (∀ policy ∈ world.history.policies, policy.dailyDebitSats ≤ budget) →
    ∀ until_, automaticDebits until_ world.rows ≤ budget
  /-- Each refill was quoted within the limits of a policy in force, and takes its pool no
  further than the target, from the balance it was last read to have. -/
  refills : ∀ row ∈ world.rows, row.terms.origin = .automatic →
    ∃ birth ∈ world.history.births, birth.terms = row.terms ∧
      birth.policy ∈ world.history.policies ∧ Birth.Fits birth
  /-- Attempts are as far apart as the policy in force asks. -/
  spaced : Spaced world.history.attempts ∧
    ∀ attempt ∈ world.history.attempts, attempt.policy ∈ world.history.policies

/-- With a clock that never goes back, for any mix of jobs, any quotes and any crashes: the
debits of automatic transfers in every rolling day sum to no more than the daily limit; each is
within the limits on debit, fee and size of the policy it was quoted under and brings no pool
above its target; and automatic attempts are a cooldown apart. -/
theorem automatic_debits_bounded {clock : ℤ}
    {events : List (Event (rebalanceService deps true))}
    {final : Config (rebalanceService deps true)}
    (h : run (start deps true clock) events = some final) : BudgetKept final.world := by
  obtain ⟨note, hinv, -⟩ := inv_of_run h
  have hb := hinv.budget
  refine ⟨hb.valid, fun budget hbudget hpolicies until_ => ?_, hb.born, hb.spaced rfl,
    hb.attempters⟩
  have hlimits : ∀ charge ∈ final.world.history.charges, ∀ limit,
      charge.limit = some limit → limit ≤ budget := by
    intro charge hm limit hl
    obtain ⟨policy, hp, rfl⟩ := hb.limits charge hm limit hl
    exact hpolicies policy hp
  calc automaticDebits until_ final.world.rows
      = keySum until_ ((final.world.rows.flatMap rowKey).filter fun key => key.2.2) :=
        automaticDebits_eq_keySum
    _ = keySum until_ ((final.world.history.charges.map chargeKey).filter fun key => key.2.2) :=
        keySum_perm (hb.charges.symm.filter _)
    _ = limited ROLLING_SECONDS until_ final.world.history.charges := limited_eq_keySum.symm
    _ ≤ budget := (hb.kept rfl).limited_le hbudget hlimits

/-- The sample's refill stays within every bound. -/
theorem automatic_debits_bounded_sample :
    ∃ final, run (start sampleDeps true 1000) sampleEvents = some final ∧
      automaticDebits 1000 final.world.rows = 800 ∧ BudgetKept final.world := by
  obtain ⟨final, hr, -, hd⟩ := run_sample
  exact ⟨final, hr, hd, automatic_debits_bounded hr⟩

end IntentSolver.RebalanceSafety
