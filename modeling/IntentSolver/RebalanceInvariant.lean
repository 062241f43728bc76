import IntentSolver.RebalanceJobs

/-!
# What holds of the rebalancing service at every moment

The table, the pins, and what was done about money each have an invariant, and every fact a job
knows is true. Each action that is licensed keeps all of it, whatever the outside answers.
-/

namespace IntentSolver.RebalanceInvariant

open KeyedRows RebalanceLicence RebalanceService RebalanceTransfers RefillPolicy
  RollingBudget

/-! ## The invariant -/

/-- What holds of each row. -/
structure Shape (row : RebalanceTransfer) : Prop where
  charged : row.chargedAt.isSome = true ↔ row.Started
  unclear : row.state.isEnded = false → row.sourceInputsClearedAt = none
  debit : 0 ≤ row.terms.debitSats

/-- The row of this identity is of this kind. -/
abbrev Stored (rows : List RebalanceTransfer) (id : String) (kind : RebalanceTransfer → Prop) :
    Prop :=
  At RebalanceTransfer.id rows id kind

/-- The table: one row is undecided at most, two are open at most, and what was submitted
left. -/
structure Sound (rows : List RebalanceTransfer) (submissions : List String)
    (terminalPins : List RebalanceTransfer) : Prop where
  nodup : (rows.map RebalanceTransfer.id).Nodup
  critical : critical rows ≤ 1
  active : active rows ≤ 2
  shape : ∀ row ∈ rows, Shape row
  once : submissions.Nodup
  submitted : ∀ id ∈ submissions, Stored rows id RebalanceTransfer.Started
  pinned : ∀ pin ∈ terminalPins,
    Stored rows pin.id fun row => row.state.isEnded = true ∧ row.terms = pin.terms

/-- Pins of a reservation in hand. -/
def carried (carry : Option String) (id : String) : ℕ := if carry = some id then 1 else 0

/-- Pins of a hold. -/
def heldPins (holds : String → Bool) (id : String) : ℕ := if holds id then 1 else 0

/-- The pins: every hold and every reservation is one, and once the process serves, every
transfer whose inputs are its own has one. -/
structure Pins (rows : List RebalanceTransfer) (holds : String → Bool) (pins : String → ℕ)
    (awake : Bool) (carry : Option String) : Prop where
  count : ∀ id, heldPins holds id + carried carry id ≤ pins id
  needed : awake = true → ∀ row ∈ rows, row.NeedsPin →
    holds row.id = true ∨ carry = some row.id

/-- A refill that was born within the limits and the target of the policy then in force. -/
structure Birth.Fits (birth : Birth) : Prop where
  limits : WithinLimits birth.policy birth.terms
  target : ∃ balance, birth.reading = some balance ∧
    WithinTarget birth.policy birth.terms balance

/-- Attempts that came after each other had cooled down. -/
def Spaced (attempts : List Attempt) : Prop :=
  attempts.Pairwise fun later earlier =>
    earlier.time ≤ 0 ∨ later.policy.cooldownSeconds ≤ later.time - earlier.time

/-- What a charge says of its row. -/
def chargeKey (charge : Charge) : ℤ × ℤ × Bool := (charge.amount, charge.time, charge.limit.isSome)

/-- What a row says of its charge. -/
def rowKey (row : RebalanceTransfer) : List (ℤ × ℤ × Bool) :=
  row.chargedAt.toList.map fun time =>
    (row.terms.debitSats, time, decide (row.terms.origin = .automatic))

/-- The money: charges are those of the rows, and every refill, every charge and every attempt
kept to the policy in force. -/
structure Budget (steady : Bool) (rows : List RebalanceTransfer) (history : RebalanceHistory)
    (policy : RebalancePolicy) (lastAttempt clock : ℤ) : Prop where
  force : policy ∈ history.policies
  valid : ∀ policy ∈ history.policies, policy.Valid
  born : ∀ row ∈ rows, row.terms.origin = .automatic →
    ∃ birth ∈ history.births, birth.terms = row.terms ∧ birth.policy ∈ history.policies ∧
      Birth.Fits birth
  charges : (history.charges.map chargeKey).Perm (rows.flatMap rowKey)
  limits : ∀ charge ∈ history.charges, ∀ limit, charge.limit = some limit →
    ∃ policy ∈ history.policies, policy.dailyDebitSats = limit
  past : steady = true → ∀ charge ∈ history.charges, charge.time ≤ clock
  kept : steady = true → Kept ROLLING_SECONDS history.charges
  last : ∀ attempt ∈ history.attempts, attempt.time ≤ lastAttempt
  spaced : steady = true → Spaced history.attempts
  attempters : ∀ attempt ∈ history.attempts, attempt.policy ∈ history.policies

/-- A fact is true. -/
def Fact.Holds (steady : Bool) (world : RebalanceWorld) : Fact → Prop
  | .known terms => Stored world.rows terms.id fun row => row.terms = terms
  | .quoted row => row ∈ world.rows ∧ row.state = .quoted
  | .ended id => Stored world.rows id fun row => row.state.isEnded = true
  | .unclear id clearedAt =>
    Stored world.rows id RebalanceTransfer.NeedsPin ∧ clearedAt = none
  | .cleared id =>
    Stored world.rows id fun row => row.Started ∧ row.sourceInputsClearedAt ≠ none
  | .started state => state.isActive = true ∨ state.isEnded = true
  | .unsubmitted id =>
    Stored world.rows id RebalanceTransfer.Started ∧ id ∉ world.history.submissions
  | .room => active world.rows ≤ 1
  | .policy policy => world.policy = policy ∧ policy ∈ world.history.policies
  | .time time => steady = true →
    time ≤ world.clock ∧ ∀ charge ∈ world.history.charges, charge.time ≤ time
  | .order earlier later => steady = true → earlier ≤ later
  | .rolled total time => charged ROLLING_SECONDS time world.history.charges = total
  | .reading poolId balance => world.readings poolId = some balance
  | .attempted time => ∀ attempt ∈ world.history.attempts, attempt.time ≤ time
  | .held id => world.holds id = true
  | .actives ids => ∀ row ∈ world.rows, row.state.isActive = true → row.id ∈ ids
  | .protecteds ids => ∀ row ∈ world.rows, row.state.isEnded = true →
    row.sourceInputsClearedAt = none → row.id ∈ ids

/-- What holds of the world and of the notes of the job that runs. -/
structure Inv (steady : Bool) (world : RebalanceWorld) (note : Note) : Prop where
  sound : Sound world.rows world.history.submissions world.terminalPins
  pins : Pins world.rows world.holds world.pins note.awake note.carry
  budget : Budget steady world.rows world.history world.policy world.lastAttempt world.clock
  facts : ∀ fact, note.knows fact → Fact.Holds steady world fact

variable {steady : Bool} {world next : RebalanceWorld} {note : Note}

/-- Where the tables, the clock, the policy and the history are as they were, a fact stays
true. -/
theorem Fact.Holds.frame {fact : Fact} (h : Fact.Holds steady world fact)
    (hrows : next.rows = world.rows) (hhistory : next.history = world.history)
    (hpolicy : next.policy = world.policy) (hclock : next.clock = world.clock)
    (hreading : ∀ poolId balance, fact = .reading poolId balance →
      next.readings poolId = world.readings poolId)
    (hheld : ∀ id, fact = .held id → world.holds id = true → next.holds id = true) :
    Fact.Holds steady next fact := by
  cases fact with
  | reading poolId balance => exact (hreading _ _ rfl).trans h
  | held id => exact hheld _ rfl h
  | _ =>
    unfold Fact.Holds at h ⊢
    rw [hrows, hhistory, hpolicy, hclock]
    exact h

/-- Facts that were known before and facts that are new. -/
theorem facts_revise {keeps adds : Fact → Prop}
    (hold : ∀ fact, note.knows fact → keeps fact → Fact.Holds steady next fact)
    (hnew : ∀ fact, adds fact → Fact.Holds steady next fact) :
    ∀ fact, (note.revise keeps adds).knows fact → Fact.Holds steady next fact := by
  rintro fact (⟨hk, hkept⟩ | hadd)
  · exact hold fact hk hkept
  · exact hnew fact hadd

/-- In a world that is as it was, only what is new needs proof. -/
theorem Inv.teach {adds : Fact → Prop} (h : Inv steady world note)
    (hnew : ∀ fact, adds fact → Fact.Holds steady world fact) :
    Inv steady world (note.revise (fun _ => True) adds) :=
  ⟨h.sound, h.pins, h.budget, facts_revise (fun fact hk _ => h.facts fact hk) hnew⟩

/-! ## What the queries say -/

/-- A row with a known identity is the one that is known. -/
theorem Sound.elim {rows : List RebalanceTransfer} {submissions : List String}
    {terminalPins : List RebalanceTransfer} {kind : RebalanceTransfer → Prop}
    {row : RebalanceTransfer} {id : String} (h : Sound rows submissions terminalPins)
    (hs : Stored rows id kind) (hr : row ∈ rows) (hid : row.id = id) : kind row :=
  hs.elim h.nodup hr hid

/-- A row that is not open and has not ended was not charged. -/
theorem Shape.uncharged {row : RebalanceTransfer} (h : Shape row) (hs : ¬row.Started) :
    row.chargedAt = none := by
  cases hc : row.chargedAt with
  | none => rfl
  | some time => exact absurd (h.charged.mp (by rw [hc]; rfl)) hs

/-- A quoted transfer has not left. -/
theorem not_started_of_quoted {row : RebalanceTransfer} (h : row.state = .quoted) :
    ¬row.Started := by
  unfold RebalanceTransfer.Started
  rw [h]
  decide

/-- A cancelled transfer has not left. -/
theorem not_started_of_cancelled {row : RebalanceTransfer} (h : row.state = .cancelled) :
    ¬row.Started := by
  unfold RebalanceTransfer.Started
  rw [h]
  decide

/-- An active transfer still owns its inputs. -/
theorem needsPin_of_active {row : RebalanceTransfer} (h : Shape row)
    (ha : row.state.isActive = true) : row.NeedsPin := by
  refine ⟨.inl ha, h.unclear ?_⟩
  cases hs : row.state <;> simp_all [RebalanceState.isActive, RebalanceState.isEnded]

/-- The sum of what fell in a window, out of the keys of charges. -/
def keySum (now : ℤ) (keys : List (ℤ × ℤ × Bool)) : ℤ :=
  ((keys.filter fun key =>
    decide (now - ROLLING_SECONDS < key.2.1 ∧ key.2.1 ≤ now)).map Prod.fst).sum

/-- The order of the charges does not matter to their sum. -/
theorem keySum_perm {now : ℤ} {keys others : List (ℤ × ℤ × Bool)} (h : keys.Perm others) :
    keySum now keys = keySum now others :=
  ((h.filter _).map _).sum_eq

/-- The charges of two lists add up. -/
theorem keySum_append {now : ℤ} {keys others : List (ℤ × ℤ × Bool)} :
    keySum now (keys ++ others) = keySum now keys + keySum now others := by
  unfold keySum
  rw [List.filter_append, List.map_append, List.sum_append]

/-- What was charged in a window, by the keys. -/
theorem charged_eq_keySum {now : ℤ} {charges : List Charge} :
    charged ROLLING_SECONDS now charges = keySum now (charges.map chargeKey) := by
  unfold charged keySum
  rw [List.filter_map, List.map_map]
  rfl

/-- The rolling debit of the store, by the keys. -/
theorem rolling_eq_keySum {now : ℤ} {rows : List RebalanceTransfer}
    (h : ∀ row ∈ rows, Shape row) :
    ((rows.filter (inRollingDebit now)).map fun row => row.terms.debitSats).sum =
      keySum now (rows.flatMap rowKey) := by
  induction rows with
  | nil => rfl
  | cons row rows ih =>
    have hrest := ih fun other hm => h other (List.mem_cons_of_mem _ hm)
    rw [List.flatMap_cons, keySum_append, ← hrest]
    have hrow := h row List.mem_cons_self
    have hkey : keySum now (rowKey row) =
        if inRollingDebit now row = true then row.terms.debitSats else 0 := by
      unfold rowKey inRollingDebit keySum
      cases hc : row.chargedAt with
      | none => rfl
      | some time =>
        have hstarted := hrow.charged.mp (by rw [hc]; rfl)
        have hfailed : row.state ≠ .failed ∧ row.state ≠ .cancelled := by
          unfold RebalanceTransfer.Started at hstarted
          constructor
          · intro hs
            rw [hs] at hstarted
            revert hstarted
            decide
          · intro hs
            rw [hs] at hstarted
            revert hstarted
            decide
        by_cases hw : now - ROLLING_SECONDS < time ∧ time ≤ now
        · simp [hw, hfailed]
        · simp [hw, hfailed]
    rw [hkey, List.filter_cons]
    split_ifs
    · rw [List.map_cons, List.sum_cons]
    · rw [zero_add]

/-- No attempt is later than what the store calls the last. -/
theorem le_foldl_latest {rows : List RebalanceTransfer} {least : ℤ} :
    least ≤ rows.foldl (fun most row => max most (row.chargedAt.getD 0)) least := by
  induction rows generalizing least with
  | nil => exact le_refl _
  | cons row rows ih => exact le_trans (le_max_left _ _) ih

/-- A row of the table is stored under its identity. -/
theorem stored_of_mem {rows : List RebalanceTransfer} {row : RebalanceTransfer}
    {kind : RebalanceTransfer → Prop} (hm : row ∈ rows) (hk : kind row) :
    Stored rows row.id kind :=
  ⟨row, hm, rfl, hk⟩

/-- Whatever the store says is true. -/
theorem holds_taught {query : StoreRead} {answer : query.Answer} (h : Inv steady world note)
    (ha : query.result world.rows world.lastAttempt = .ok answer) {fact : Fact}
    (ht : Taught query answer fact) : Fact.Holds steady world fact := by
  cases ht with
  | getKnown =>
    have hm := List.mem_of_find?_eq_some (Except.ok.inj ha)
    exact stored_of_mem hm rfl
  | getQuoted hs => exact ⟨List.mem_of_find?_eq_some (Except.ok.inj ha), hs⟩
  | activeKnown hm =>
    rw [← Except.ok.inj ha] at hm
    exact stored_of_mem (List.mem_filter.mp hm).1 rfl
  | @activeUnclear _ row hm =>
    rw [← Except.ok.inj ha] at hm
    obtain ⟨hrow, hactive⟩ := List.mem_filter.mp hm
    have hneeds := needsPin_of_active (h.sound.shape row hrow) hactive
    exact ⟨stored_of_mem hrow hneeds, hneeds.2⟩
  | activeStarted hm =>
    rw [← Except.ok.inj ha] at hm
    exact .inl (List.mem_filter.mp hm).2
  | activeRoom hl =>
    rw [← Except.ok.inj ha, ← List.countP_eq_length_filter] at hl
    exact hl
  | actives =>
    rw [← Except.ok.inj ha]
    exact fun row hm hs => List.mem_map_of_mem (List.mem_filter.mpr ⟨hm, hs⟩)
  | protectedKnown hm =>
    rw [← Except.ok.inj ha] at hm
    exact stored_of_mem (List.mem_filter.mp hm).1 rfl
  | protectedEnded hm =>
    rw [← Except.ok.inj ha] at hm
    obtain ⟨hrow, hended⟩ := List.mem_filter.mp hm
    rw [Bool.and_eq_true, Bool.and_eq_true] at hended
    exact stored_of_mem hrow hended.1.2
  | protecteds =>
    rw [← Except.ok.inj ha]
    intro row hm hs hc
    have hcharged := (h.sound.shape row hm).charged.mpr (.inr hs)
    refine List.mem_map_of_mem (List.mem_filter.mpr ⟨hm, ?_⟩)
    rw [hcharged, hs, hc]
    rfl
  | rolled =>
    unfold StoreRead.result at ha
    dsimp only at ha
    split_ifs at ha
    rw [← Except.ok.inj ha]
    change charged _ _ _ = _
    rw [charged_eq_keySum, rolling_eq_keySum h.sound.shape]
    exact keySum_perm h.budget.charges
  | attempted =>
    unfold StoreRead.result at ha
    dsimp only at ha
    split_ifs at ha
    rw [← Except.ok.inj ha]
    exact fun attempt hm => le_trans (h.budget.last attempt hm) le_foldl_latest

/-! ## Writing a row -/

section Save

variable {rows : List RebalanceTransfer} {row stored : RebalanceTransfer}

/-- A save that goes through replaces a stored row by a savable successor of its own. -/
theorem save_ok (h : RebalanceStore.save row rows = .ok stored) :
    stored ∈ rows ∧ stored.id = row.id ∧ savable row stored = true ∧
      critical (saved row rows) ≤ 1 := by
  unfold RebalanceStore.save at h
  obtain ⟨_, -, h⟩ := Fallible.bind_ok h
  split at h
  · cases h
  · rename_i found hf
    split_ifs at h with hc
    cases h
    have hpass := List.find?_some hf
    rw [Bool.and_eq_true, decide_eq_true_iff] at hpass
    exact ⟨List.mem_of_find?_eq_some hf, hpass.1, hpass.2, Nat.not_lt.mp hc⟩

/-- The guard of the UPDATE: a state that is terminal stays, and a charge that was made stays. -/
theorem savable_guard (h : savable row stored = true) :
    (stored.state.isTerminal = true → stored.state = row.state) ∧
      (stored.chargedAt ≠ none → stored.chargedAt = row.chargedAt) := by
  obtain ⟨-, -, hstate, hcharge⟩ := of_decide_eq_true h
  constructor
  · intro ht
    rw [ht] at hstate
    exact hstate.resolve_left nofun
  · intro hne
    exact (hcharge.resolve_left hne).1

/-- An ended transfer is terminal and no longer active. -/
theorem terminal_of_ended {state : RebalanceState} (h : state.isEnded = true) :
    state.isTerminal = true ∧ state.isActive = false := by
  cases state <;> first | exact ⟨rfl, rfl⟩ | cases h

/-- How a licensed write moves its row. -/
inductive Move (note : Note) (row stored : RebalanceTransfer) : Prop where
  | cancel (hs : stored.state = .quoted) (hr : row.state = .cancelled)
      (hc : row.chargedAt = stored.chargedAt)
      (hclear : row.sourceInputsClearedAt = stored.sourceInputsClearedAt)
  | charge (hs : stored.state = .quoted) (hr : row.state = .submitting)
      (hclear : row.sourceInputsClearedAt = stored.sourceInputsClearedAt)
      (hroom : note.knows .room) (hcarry : note.carry = some row.id) (time : ℤ)
      (hc : row.chargedAt = some time) (ht : note.knows (.time time))
      (hday : row.terms.origin = .automatic → WithinDay note row.terms time)
  | follow (hs : stored.NeedsPin) (hr : row.NeedsPin) (hc : row.chargedAt = stored.chargedAt)
      (he : stored.state.isEnded = true → row.state = stored.state)
  | clear (hs : stored.state.isEnded = true) (hr : row.state = stored.state)
      (hc : row.chargedAt = stored.chargedAt) (hclear : row.sourceInputsClearedAt ≠ none)

/-- A row that was charged before, or is not, is not charged now. -/
theorem chargeOf_same {policy : RebalancePolicy} (h : row.chargedAt = stored.chargedAt) :
    chargeOf policy stored row = [] := by
  unfold chargeOf
  rw [h]
  cases stored.chargedAt <;> rfl

/-- A row that is charged now. -/
theorem chargeOf_new {policy : RebalancePolicy} {time : ℤ} (hs : stored.chargedAt = none)
    (hc : row.chargedAt = some time) : chargeOf policy stored row =
      [⟨row.terms.debitSats, time,
        if row.terms.origin = .automatic then some policy.dailyDebitSats else none⟩] := by
  unfold chargeOf
  rw [hs, hc]

/-- A licensed write keeps the terms and moves its row in one of four ways. -/
theorem move_of_maySave (h : Inv steady world note) (hk : note.knows (.known row.terms))
    (hm : MaySave note row) (hstored : stored ∈ world.rows) (hid : stored.id = row.id)
    (hpass : savable row stored = true) : row.terms = stored.terms ∧ Move note row stored := by
  have hterms : stored.terms = row.terms := h.sound.elim (h.facts _ hk) hstored hid
  obtain ⟨hterminal, hcharge⟩ := savable_guard hpass
  have hshape := h.sound.shape stored hstored
  -- The row of a quote that is known is the one stored.
  have hquote : ∀ old, note.knows (.quoted old) → row.terms = old.terms →
      stored = old ∧ stored.state = .quoted := by
    intro old hq ht
    obtain ⟨hold, hs⟩ := h.facts _ hq
    have heq : old = stored := eq_of_key h.sound.nodup hstored hold
      (congrArg TransferTerms.id (ht.symm.trans hterms.symm))
    exact ⟨heq.symm, heq ▸ hs⟩
  have hsame : stored.Started → row.chargedAt = stored.chargedAt := by
    intro hs
    have hsome := hshape.charged.mpr hs
    exact (hcharge (Option.isSome_iff_ne_none.mp hsome)).symm
  refine ⟨hterms.symm, ?_⟩
  cases hm with
  | cancel old hq hold hclear hs hc =>
    obtain ⟨rfl, hquoted⟩ := hquote old hq hold
    exact .cancel hquoted hs hc hclear
  | charge old hq hold hclear hroom hcarry hs time hc ht hday =>
    obtain ⟨rfl, hquoted⟩ := hquote old hq hold
    exact .charge hquoted hs hclear hroom hcarry time hc ht hday
  | follow hu hs =>
    obtain ⟨hunclear, hnone⟩ := h.facts _ hu
    have hneeds : stored.NeedsPin := h.sound.elim hunclear hstored hid
    refine .follow hneeds ⟨?_, hnone⟩ (hsame hneeds.1)
      fun he => (hterminal (terminal_of_ended he).1).symm
    obtain hs | hs := hs
    · exact hs
    · exact h.facts _ hs
  | clear he hclear =>
    have hended : stored.state.isEnded = true := h.sound.elim (h.facts _ he) hstored hid
    exact .clear hended (hterminal (terminal_of_ended hended).1).symm (hsame (.inr hended)) hclear

section Moved

variable (h : Move note row stored) (hshape : Shape stored) (hterms : row.terms = stored.terms)

include h

/-- A transfer that left stays one that left. -/
theorem Move.started (hs : stored.Started) : row.Started := by
  cases h with
  | cancel hq hr hc hclear => exact absurd hs (not_started_of_quoted hq)
  | charge hq hr => exact .inl (by rw [hr]; rfl)
  | follow hn hr => exact hr.1
  | clear he hr => exact .inr (by rw [hr]; exact he)

/-- A transfer that ended stays as it ended. -/
theorem Move.ended (he : stored.state.isEnded = true) : row.state = stored.state := by
  cases h with
  | cancel hq hr =>
    rw [hq] at he
    cases he
  | charge hq hr =>
    rw [hq] at he
    cases he
  | follow hn hr hc hsame => exact hsame he
  | clear hs hr => exact hr

/-- Only a quote that is charged becomes open. -/
theorem Move.active (ha : row.state.isActive = true) :
    stored.state.isActive = true ∨ (stored.state = .quoted ∧ note.knows .room) := by
  cases h with
  | cancel hq hr =>
    rw [hr] at ha
    cases ha
  | charge hq hr hclear hroom => exact .inr ⟨hq, hroom⟩
  | follow hn hr hc he =>
    obtain hs | hs := hn.1
    · exact .inl hs
    · have hstill := terminal_of_ended hs
      rw [he hs, hstill.2] at ha
      cases ha
  | clear hs hr =>
    rw [hr, (terminal_of_ended hs).2] at ha
    cases ha

include hshape hterms

/-- A row that moves keeps the shape of its state. -/
theorem Move.shape : Shape row := by
  have hdebit : 0 ≤ row.terms.debitSats := by
    rw [hterms]
    exact hshape.debit
  cases h with
  | cancel hq hr hc hclear =>
    have hnot := not_started_of_quoted hq
    refine ⟨?_, fun _ => ?_, hdebit⟩
    · rw [hc, hshape.uncharged hnot]
      exact ⟨nofun, fun hs => absurd hs (not_started_of_cancelled hr)⟩
    · rw [hclear]
      exact hshape.unclear (by rw [hq]; rfl)
  | charge hq hr hclear hroom hcarry time hc =>
    refine ⟨?_, fun _ => ?_, hdebit⟩
    · rw [hc]
      exact ⟨fun _ => .inl (by rw [hr]; rfl), fun _ => rfl⟩
    · rw [hclear]
      exact hshape.unclear (by rw [hq]; rfl)
  | follow hn hr hc he =>
    refine ⟨?_, fun _ => hr.2, hdebit⟩
    rw [hc]
    exact ⟨fun _ => hr.1, fun _ => hshape.charged.mpr hn.1⟩
  | clear hs hr hc hclear =>
    refine ⟨?_, fun hnot => ?_, hdebit⟩
    · rw [hc]
      exact ⟨fun _ => .inr (by rw [hr]; exact hs), fun _ => hshape.charged.mpr (.inr hs)⟩
    · rw [hr, hs] at hnot
      cases hnot

end Moved

section Written

variable (h : Inv steady world note) (hmove : Move note row stored)
  (hterms : row.terms = stored.terms) (hm : stored ∈ world.rows) (hid : stored.id = row.id)
  (hpass : savable row stored = true)

include h hm hid hpass

/-- The table with one row taken out and another put in. -/
theorem saved_perm : ∃ rest, world.rows.Perm (stored :: rest) ∧
    (saved row world.rows).Perm (row :: rest) :=
  update_perm h.sound.nodup hm hid hpass

omit hpass in
/-- The row that is written is the one that was stored. -/
theorem eq_stored {other : RebalanceTransfer} (ho : other ∈ world.rows)
    (hk : other.id = row.id) : other = stored :=
  eq_of_key h.sound.nodup hm ho (hk.trans hid.symm)

omit hpass in
/-- What is known of a row outlives the write, where the write keeps it. -/
theorem stored_saved {id : String} {kind : RebalanceTransfer → Prop}
    (hs : Stored world.rows id kind) (hrow : kind stored → row.id = id → kind row) :
    Stored (saved row world.rows) id kind := by
  refine At.update hs fun other ho hk _ hrid hkind => ?_
  have heq := eq_stored h hm hid ho hk
  rw [heq] at hkind
  exact hrow hkind hrid

include hmove

/-- A write opens one more transfer only where there is room for it. -/
theorem active_saved : active (saved row world.rows) ≤ 2 := by
  obtain ⟨rest, hbefore, hafter⟩ := saved_perm h hm hid hpass
  have hcount := h.sound.active
  unfold active at hcount ⊢
  rw [hbefore.countP_eq, List.countP_cons] at hcount
  rw [hafter.countP_eq, List.countP_cons]
  by_cases ha : row.state.isActive = true
  · obtain hs | ⟨hq, hroom⟩ := hmove.active ha
    · rw [if_pos hs] at hcount
      rw [if_pos ha]
      exact hcount
    · have hone := h.facts _ hroom
      change active world.rows ≤ 1 at hone
      unfold active at hone
      rw [hbefore.countP_eq, List.countP_cons] at hone
      rw [if_pos ha]
      omega
  · rw [if_neg ha]
    omega

include hterms

/-- The tables are sound after a licensed write. -/
theorem sound_saved (hcritical : critical (saved row world.rows) ≤ 1) :
    Sound (saved row world.rows) world.history.submissions world.terminalPins where
  nodup := by
    unfold saved
    rw [map_key_update]
    exact h.sound.nodup
  critical := hcritical
  active := active_saved h hmove hm hid hpass
  shape := by
    intro other ho
    obtain ⟨rfl, -⟩ | ⟨ho, -⟩ := mem_update ho
    · exact hmove.shape (h.sound.shape _ hm) hterms
    · exact h.sound.shape _ ho
  once := h.sound.once
  submitted := fun id hs =>
    stored_saved h hm hid (h.sound.submitted id hs) fun hs _ => hmove.started hs
  pinned := by
    intro pin hp
    refine stored_saved h hm hid (h.sound.pinned pin hp) fun hk _ => ⟨?_, ?_⟩
    · rw [hmove.ended hk.1]
      exact hk.1
    · rw [hterms]
      exact hk.2

omit h in
/-- What needs a pin after the write had one before, or the note carries it. -/
theorem pins_saved (hawake : note.awake = true → ∀ row ∈ world.rows, row.NeedsPin →
    world.holds row.id = true ∨ note.carry = some row.id) :
    note.awake = true → ∀ other ∈ saved row world.rows, other.NeedsPin →
      world.holds other.id = true ∨ note.carry = some other.id := by
  intro ha other ho hn
  obtain ⟨rfl, -⟩ | ⟨ho, -⟩ := mem_update ho
  · cases hmove with
    | cancel hq hr => exact absurd hn.1 (not_started_of_cancelled hr)
    | charge hq hr hclear hroom hcarry => exact .inr hcarry
    | follow hs hr =>
      rw [← hid]
      exact hawake ha stored hm hs
    | clear hs hr hc hclear => exact absurd hn.2 hclear
  · exact hawake ha other ho hn

/-- Facts that outlive the write are still true. -/
theorem holds_outlives {fact : Fact} (hk : note.knows fact) (ho : outlives note row fact) :
    Fact.Holds steady { world with
      rows := saved row world.rows
      history := { world.history with
        charges := chargeOf world.policy stored row ++ world.history.charges } } fact := by
  have htrue := h.facts fact hk
  have hkeep : ∀ {id : String} {kind : RebalanceTransfer → Prop}, Stored world.rows id kind →
      (kind stored → row.id = id → kind row) → Stored (saved row world.rows) id kind :=
    stored_saved h hm hid
  cases fact with
  | known terms => exact hkeep htrue fun hs _ => hterms.trans hs
  | ended id =>
    refine hkeep htrue fun hs _ => ?_
    rw [hmove.ended hs]
    exact hs
  | unclear id clearedAt =>
    refine ⟨hkeep htrue.1 fun hs hrid => ?_, htrue.2⟩
    have hu := (ho.resolve_left fun hne => hne hrid.symm)
    exact ⟨hmove.started hs.1, (h.facts _ hu).2⟩
  | cleared id =>
    refine hkeep htrue fun hs _ => ⟨hmove.started hs.1, ?_⟩
    cases hmove with
    | cancel hq hr hc hclear =>
      rw [hclear]
      exact hs.2
    | charge hq hr hclear =>
      rw [hclear]
      exact hs.2
    | follow hn hr => exact absurd hn.2 hs.2
    | clear he hr hc hclear => exact hclear
  | unsubmitted id => exact ⟨hkeep htrue.1 fun hs _ => hmove.started hs, htrue.2⟩
  | actives ids =>
    intro other hother ha
    obtain ⟨rfl, -⟩ | ⟨hother, -⟩ := mem_update hother
    · obtain hs | ⟨hq, hroom⟩ := hmove.active ha
      · rw [← hid]
        exact htrue stored hm hs
      · cases hmove with
        | cancel hq hr =>
          rw [hr] at ha
          cases ha
        | charge hq hr => exact absurd hr ho
        | follow hn hr =>
          exact absurd hn.1 (not_started_of_quoted hq)
        | clear he hr =>
          rw [hq] at he
          cases he
    · exact htrue other hother ha
  | quoted other => exact ho.elim
  | room => exact ho.elim
  | time time => exact ho.elim
  | rolled total time => exact ho.elim
  | protecteds ids => exact ho.elim
  | started state => exact htrue
  | policy policy => exact htrue
  | order earlier later => exact htrue
  | reading poolId balance => exact htrue
  | attempted time => exact htrue
  | held id => exact htrue

/-- What the write teaches is true. -/
theorem holds_wrote {fact : Fact} (hw : Wrote note row fact) :
    Fact.Holds steady { world with
      rows := saved row world.rows
      history := { world.history with
        charges := chargeOf world.policy stored row ++ world.history.charges } } fact := by
  have hnew := fun {kind : RebalanceTransfer → Prop} (hk : kind row) =>
    (At.updated hm hid hpass hk : Stored (saved row world.rows) row.id kind)
  have hquote : ∀ old, note.knows (.quoted old) → row.terms = old.terms →
      old = stored ∧ stored.state = .quoted := by
    intro old hq ht
    obtain ⟨hold, hs⟩ := h.facts _ hq
    have heq := eq_stored h hm hid hold (congrArg TransferTerms.id ht.symm)
    exact ⟨heq, heq ▸ hs⟩
  cases hw with
  | unclear hq ht hc hs =>
    obtain ⟨rfl, hquoted⟩ := hquote _ hq ht
    have hnone : row.sourceInputsClearedAt = none := by
      rw [hc]
      exact (h.sound.shape _ hm).unclear (by rw [hquoted]; rfl)
    exact ⟨hnew ⟨.inl (by rw [hs]; rfl), hnone⟩, hnone⟩
  | ended he => exact hnew he
  | cleared hc =>
    refine hnew ⟨?_, hc⟩
    cases hmove with
    | cancel hq hr hcharged hclear =>
      rw [hclear] at hc
      exact absurd ((h.sound.shape _ hm).unclear (by rw [hq]; rfl)) hc
    | charge hq hr => exact .inl (by rw [hr]; rfl)
    | follow hn hr => exact hr.1
    | clear he hr => exact .inr (by rw [hr]; exact he)
  | unsubmitted hq ht hs =>
    obtain ⟨rfl, hquoted⟩ := hquote _ hq ht
    refine ⟨hnew (.inl (by rw [hs]; rfl)), fun hsubmitted => ?_⟩
    have hstarted := h.sound.elim (h.sound.submitted _ hsubmitted) hm hid
    exact not_started_of_quoted hquoted hstarted

/-- The money still adds up, and a charge that was made fits the day. -/
theorem budget_saved : Budget steady (saved row world.rows) { world.history with
    charges := chargeOf world.policy stored row ++ world.history.charges }
    world.policy world.lastAttempt world.clock := by
  obtain ⟨rest, hbefore, hafter⟩ := saved_perm h hm hid hpass
  have hb := h.budget
  have hborn : ∀ other ∈ saved row world.rows, other.terms.origin = .automatic →
      ∃ birth ∈ world.history.births, birth.terms = other.terms ∧
        birth.policy ∈ world.history.policies ∧ Birth.Fits birth := by
    intro other ho
    obtain ⟨rfl, -⟩ | ⟨ho, -⟩ := mem_update ho
    · rw [hterms]
      exact hb.born stored hm
    · exact hb.born other ho
  have hkeys := hb.charges.trans (hbefore.flatMap_right rowKey)
  rw [List.flatMap_cons] at hkeys
  by_cases hsame : row.chargedAt = stored.chargedAt
  · -- Nothing is charged: the keys are the same.
    have hkey : rowKey row = rowKey stored := by
      unfold rowKey
      rw [hsame, hterms]
    refine ⟨hb.force, hb.valid, hborn, ?_, ?_, ?_, ?_, hb.last, hb.spaced, hb.attempters⟩
    · dsimp only
      rw [chargeOf_same hsame, List.nil_append]
      refine hkeys.trans ?_
      rw [← hkey, ← List.flatMap_cons]
      exact (hafter.flatMap_right rowKey).symm
    · rw [chargeOf_same hsame]
      exact hb.limits
    · rw [chargeOf_same hsame]
      exact hb.past
    · rw [chargeOf_same hsame]
      exact hb.kept
  · cases hmove with
    | cancel hq hr hc => exact absurd hc hsame
    | follow hn hr hc => exact absurd hc hsame
    | clear hs hr hc => exact absurd hc hsame
    | charge hq hr hclear hroom hcarry time hc ht hday =>
      have hnone := (h.sound.shape stored hm).uncharged (not_started_of_quoted hq)
      have htime := h.facts _ ht
      have hamount : 0 ≤ row.terms.debitSats := by
        rw [hterms]
        exact (h.sound.shape stored hm).debit
      dsimp only
      rw [chargeOf_new hnone hc]
      refine ⟨hb.force, hb.valid, hborn, ?_, ?_, ?_, ?_, hb.last, hb.spaced, hb.attempters⟩
      · have hstored : rowKey stored = [] := by
          unfold rowKey
          rw [hnone]
          rfl
        rw [hstored, List.nil_append] at hkeys
        have hnew : rowKey row =
            [(row.terms.debitSats, time, decide (row.terms.origin = .automatic))] := by
          unfold rowKey
          rw [hc]
          rfl
        refine List.Perm.trans ?_ (hafter.flatMap_right rowKey).symm
        rw [List.flatMap_cons, hnew]
        have hlimit : chargeKey ⟨row.terms.debitSats, time,
            if row.terms.origin = .automatic then some world.policy.dailyDebitSats else none⟩ =
            (row.terms.debitSats, time, decide (row.terms.origin = .automatic)) := by
          unfold chargeKey
          split_ifs with ho <;> simp [ho]
        rw [List.singleton_append, List.map_cons, hlimit, List.singleton_append]
        exact hkeys.cons _
      · intro charge hcharge limit hl
        obtain rfl | hcharge := List.mem_cons.mp hcharge
        · dsimp only at hl
          split_ifs at hl with hauto
          cases hl
          obtain ⟨policy, total, now, hp, -⟩ := hday hauto
          obtain ⟨rfl, hforce⟩ := h.facts _ hp
          exact ⟨_, hforce, rfl⟩
        · exact hb.limits charge hcharge limit hl
      · intro hsteady charge hcharge
        obtain rfl | hcharge := List.mem_cons.mp hcharge
        · exact (htime hsteady).1
        · exact hb.past hsteady charge hcharge
      · intro hsteady
        refine .cons hamount (htime hsteady).2 (fun limit hl => ?_) (hb.kept hsteady)
        dsimp only at hl
        split_ifs at hl with hauto
        cases hl
        obtain ⟨policy, total, now, hp, hrolled, hnow, horder, hfit⟩ := hday hauto
        obtain ⟨rfl, -⟩ := h.facts _ hp
        have htotal : charged ROLLING_SECONDS now world.history.charges = total :=
          h.facts _ hrolled
        have hmore : charged ROLLING_SECONDS time world.history.charges ≤ total := by
          rw [← htotal]
          exact charged_antitone (h.facts _ horder hsteady) (hb.kept hsteady).nonneg
            (h.facts _ hnow hsteady).2
        change row.terms.debitSats + charged ROLLING_SECONDS time world.history.charges ≤
          world.policy.dailyDebitSats
        omega

end Written

/-- A licensed write keeps the invariant. -/
theorem inv_save (h : Inv steady world note) (hk : note.knows (.known row.terms))
    (hm : MaySave note row) (hs : RebalanceStore.save row world.rows = .ok stored) :
    Inv steady { world with
      rows := saved row world.rows
      history := { world.history with
        charges := chargeOf world.policy stored row ++ world.history.charges } }
      (note.revise (outlives note row) (Wrote note row)) := by
  obtain ⟨hmem, hid, hpass, hcritical⟩ := save_ok hs
  obtain ⟨hterms, hmove⟩ := move_of_maySave h hk hm hmem hid hpass
  have hneeded := pins_saved hmove hterms hmem hid hpass h.pins.needed
  constructor
  · exact sound_saved h hmove hterms hmem hid hpass hcritical
  · exact ⟨h.pins.count, hneeded⟩
  · exact budget_saved h hmove hterms hmem hid hpass
  · exact facts_revise (fun _ => holds_outlives h hmove hterms hmem hid hpass)
      fun _ => holds_wrote h hmove hterms hmem hid hpass

end Save

/-! ## A new quote -/

/-- Every number the store took is one it can keep. -/
theorem params_ok {row : RebalanceTransfer} (h : params row = .ok ()) :
    ∀ number ∈ storedNumbers row, 0 ≤ number.1 := by
  unfold params at h
  split at h
  · cases h
  · rename_i hnone
    intro number hm
    have hok := List.find?_eq_none.mp hnone number hm
    rw [Bool.not_eq_true, Bool.not_eq_false'] at hok
    exact (isNonnegative_iff.mp hok).1

/-- A row that can be created has a fresh id and a debit that is not negative. -/
theorem create_ok {row : RebalanceTransfer} {rows : List RebalanceTransfer}
    (h : RebalanceStore.create row rows = .ok ()) :
    0 ≤ row.terms.debitSats ∧ ∀ stored ∈ rows, stored.id ≠ row.id := by
  unfold RebalanceStore.create at h
  obtain ⟨_, hparams, h⟩ := Fallible.bind_ok h
  split_ifs at h with hid hkey
  refine ⟨params_ok hparams (row.terms.debitSats, "debitSats") ?_, fun stored hm heq => hid ?_⟩
  · unfold storedNumbers
    simp
  · exact List.any_eq_true.mpr ⟨stored, hm, decide_eq_true heq⟩

/-- A new quote keeps the invariant. -/
theorem inv_create {row : RebalanceTransfer} (h : Inv steady world note)
    (hm : MayCreate note row) (hs : RebalanceStore.create row world.rows = .ok ()) :
    Inv steady { world with
      rows := row :: world.rows
      history := { world.history with
        births := ⟨row.terms, world.policy, world.readings row.terms.poolId⟩ ::
          world.history.births } } note := by
  obtain ⟨hdebit, hfresh⟩ := create_ok hs
  have hnot := not_started_of_quoted hm.quoted
  have hinactive : row.state.isActive = false := by
    rw [hm.quoted]
    rfl
  have hactive : active (row :: world.rows) = active world.rows := by
    unfold active
    rw [List.countP_cons, hinactive]
    rfl
  constructor
  · refine ⟨?_, ?_, ?_, ?_, h.sound.once, fun id hid => (h.sound.submitted id hid).cons,
      fun pin hp => (h.sound.pinned pin hp).cons⟩
    · rw [List.map_cons, List.nodup_cons]
      refine ⟨fun hmem => ?_, h.sound.nodup⟩
      obtain ⟨stored, hstored, heq⟩ := List.mem_map.mp hmem
      exact hfresh stored hstored heq
    · have hcritical := h.sound.critical
      unfold critical at hcritical ⊢
      rw [List.countP_cons, hm.quoted]
      exact hcritical
    · rw [hactive]
      exact h.sound.active
    · intro other ho
      obtain rfl | ho := List.mem_cons.mp ho
      · refine ⟨?_, fun _ => hm.unclear, hdebit⟩
        rw [hm.uncharged]
        exact ⟨nofun, fun hstarted => absurd hstarted hnot⟩
      · exact h.sound.shape other ho
  · refine ⟨h.pins.count, fun ha other ho hn => ?_⟩
    obtain rfl | ho := List.mem_cons.mp ho
    · exact absurd hn.1 hnot
    · exact h.pins.needed ha other ho hn
  · have hb := h.budget
    refine ⟨hb.force, hb.valid, fun other ho hauto => ?_, ?_, hb.limits, hb.past, hb.kept, hb.last,
      hb.spaced, hb.attempters⟩
    · obtain rfl | ho := List.mem_cons.mp ho
      · obtain ⟨policy, hp, hlimits⟩ := hm.limits hauto
        obtain ⟨chosen, balance, hc, hr, htarget⟩ := hm.target hauto
        obtain ⟨rfl, hforce⟩ := h.facts _ hp
        obtain ⟨rfl, -⟩ := h.facts _ hc
        exact ⟨_, List.mem_cons_self, rfl, hforce, hlimits, balance, h.facts _ hr, htarget⟩
      · obtain ⟨birth, hbirth, hrest⟩ := hb.born other ho hauto
        exact ⟨birth, List.mem_cons_of_mem _ hbirth, hrest⟩
    · have hkey : rowKey row = [] := by
        unfold rowKey
        rw [hm.uncharged]
        rfl
      rw [List.flatMap_cons, hkey]
      exact hb.charges
  · intro fact hk
    have htrue := h.facts fact hk
    cases fact with
    | known terms => exact At.cons htrue
    | quoted other => exact ⟨List.mem_cons_of_mem _ htrue.1, htrue.2⟩
    | ended id => exact At.cons htrue
    | unclear id clearedAt => exact ⟨htrue.1.cons, htrue.2⟩
    | cleared id => exact At.cons htrue
    | unsubmitted id => exact ⟨htrue.1.cons, htrue.2⟩
    | room =>
      change active (row :: world.rows) ≤ 1
      rw [hactive]
      exact htrue
    | actives ids =>
      intro other ho ha
      obtain rfl | ho := List.mem_cons.mp ho
      · rw [hinactive] at ha
        cases ha
      · exact htrue other ho ha
    | protecteds ids =>
      intro other ho he hc
      obtain rfl | ho := List.mem_cons.mp ho
      · exact absurd (.inr he) hnot
      · exact htrue other ho he hc
    | started state => exact htrue
    | policy policy => exact htrue
    | time time => exact htrue
    | order earlier later => exact htrue
    | rolled total time => exact htrue
    | reading poolId balance => exact htrue
    | attempted time => exact htrue
    | held id => exact htrue

/-! ## The memory of the process -/

/-- A reading of the clock. -/
theorem inv_now (h : Inv steady world note) :
    Inv steady world (note.revise (fun _ => True) (Timed note world.clock)) := by
  apply h.teach
  intro fact ht
  cases ht with
  | time => exact fun hs => ⟨le_refl _, h.budget.past hs⟩
  | order hk => exact fun hs => (h.facts _ hk hs).1

/-- The memory of pins tells which transfers ended. -/
theorem inv_terminalPins (h : Inv steady world note) :
    Inv steady world (note.revise (fun _ => True) (Pinned world.terminalPins)) := by
  apply h.teach
  intro fact hp
  cases hp with
  | known hm =>
    obtain ⟨stored, hs, hid, hk⟩ := h.sound.pinned _ hm
    exact ⟨stored, hs, hid, hk.2⟩
  | ended hm => exact (h.sound.pinned _ hm).mono fun _ hk => hk.1

/-- A pool's balance is read, or cannot be. -/
theorem inv_readBalance {poolId : String} {reading : Option ℤ} {adds : Fact → Prop}
    (h : Inv steady world note)
    (hadds : ∀ fact, adds fact → ∃ balance, fact = .reading poolId balance ∧
      reading = some balance) :
    Inv steady { world with readings := put world.readings poolId reading }
      (note.revise (fun fact => ∀ balance, fact ≠ .reading poolId balance) adds) := by
  refine ⟨h.sound, h.pins, h.budget, facts_revise (fun fact hk hkeep => ?_) fun fact ha => ?_⟩
  · refine (h.facts fact hk).frame rfl rfl rfl rfl (fun other balance heq => ?_)
      fun _ _ hheld => hheld
    have hne : other ≠ poolId := by
      rintro rfl
      exact hkeep balance heq
    exact Function.update_of_ne hne _ _
  · obtain ⟨balance, rfl, rfl⟩ := hadds fact ha
    exact Function.update_self _ _ _

/-- A policy that passed the checks is put in force. -/
theorem inv_setPolicy {policy : RebalancePolicy} (h : Inv steady world note)
    (hv : policy.Valid) :
    Inv steady { world with
      policy := policy
      history := { world.history with policies := policy :: world.history.policies } }
      (note.revise (fun fact => ∀ old, fact ≠ .policy old) (· = .policy policy)) := by
  have hb := h.budget
  refine ⟨h.sound, h.pins, ⟨List.mem_cons_self, ?_, ?_, hb.charges, ?_, hb.past, hb.kept,
    hb.last, hb.spaced,
    fun attempt hm => List.mem_cons_of_mem _ (hb.attempters attempt hm)⟩,
    facts_revise (fun fact hk hkeep => ?_) fun fact ha => ?_⟩
  · exact List.forall_mem_cons.mpr ⟨hv, hb.valid⟩
  · intro row hm hauto
    obtain ⟨birth, hbirth, ht, hp, hfits⟩ := hb.born row hm hauto
    exact ⟨birth, hbirth, ht, List.mem_cons_of_mem _ hp, hfits⟩
  · intro charge hm limit hl
    obtain ⟨old, hold, heq⟩ := hb.limits charge hm limit hl
    exact ⟨old, List.mem_cons_of_mem _ hold, heq⟩
  · have htrue := h.facts fact hk
    cases fact with
    | policy old => exact absurd rfl (hkeep old)
    | _ => exact htrue
  · rw [ha]
    exact ⟨rfl, List.mem_cons_self⟩

/-- An attempt that had cooled down is recorded. -/
theorem inv_recordAttempt {time : ℤ} (h : Inv steady world note) (hm : MayAttempt note time) :
    Inv steady { world with
      lastAttempt := max world.lastAttempt time
      history := { world.history with
        attempts := ⟨time, world.policy⟩ :: world.history.attempts } }
      (note.revise (fun fact => ∀ time, fact ≠ .attempted time) fun _ => False) := by
  obtain ⟨policy, latest, now, hp, hlatest, horder, hcool⟩ := hm
  obtain ⟨rfl, hforce⟩ := h.facts _ hp
  have hb := h.budget
  refine ⟨h.sound, h.pins, ⟨hb.force, hb.valid, hb.born, hb.charges, hb.limits, hb.past,
    hb.kept, ?_, ?_,
    List.forall_mem_cons.mpr ⟨hforce, hb.attempters⟩⟩,
    facts_revise (fun fact hk hkeep => ?_) fun _ hf => hf.elim⟩
  · intro attempt ha
    obtain rfl | ha := List.mem_cons.mp ha
    · exact le_max_right _ _
    · exact le_trans (hb.last attempt ha) (le_max_left _ _)
  · intro hsteady
    refine List.pairwise_cons.mpr ⟨fun earlier he => ?_, hb.spaced hsteady⟩
    have hbefore : earlier.time ≤ latest := h.facts _ hlatest earlier he
    have hlater : now ≤ time := h.facts _ horder hsteady
    dsimp only
    omega
  · have htrue := h.facts fact hk
    cases fact with
    | attempted other => exact absurd rfl (hkeep other)
    | _ => exact htrue

/-- A transfer that was marked is submitted, once. -/
theorem inv_submit {row : RebalanceTransfer} (h : Inv steady world note)
    (hm : note.knows (.unsubmitted row.id)) :
    Inv steady { world with
      history := { world.history with submissions := row.id :: world.history.submissions } }
      (note.revise (fun fact => ∀ id, fact ≠ .unsubmitted id) fun _ => False) := by
  obtain ⟨hstarted, hnew⟩ := h.facts _ hm
  have hs := h.sound
  have hb := h.budget
  refine ⟨⟨hs.nodup, hs.critical, hs.active, hs.shape, List.nodup_cons.mpr ⟨hnew, hs.once⟩,
    List.forall_mem_cons.mpr ⟨hstarted, hs.submitted⟩, hs.pinned⟩, h.pins,
    ⟨hb.force, hb.valid, hb.born, hb.charges, hb.limits, hb.past, hb.kept, hb.last, hb.spaced,
      hb.attempters⟩, facts_revise (fun fact hk hkeep => ?_) fun _ hf => hf.elim⟩
  have htrue := h.facts fact hk
  cases fact with
  | unsubmitted id => exact absurd rfl (hkeep id)
  | _ => exact htrue

/-! ## Pins -/

/-- Facts in a world whose tables and history are as they were, and whose holds are kept. -/
theorem facts_memory (h : Inv steady world note) {keeps adds : Fact → Prop}
    (hrows : next.rows = world.rows) (hhistory : next.history = world.history)
    (hpolicy : next.policy = world.policy) (hclock : next.clock = world.clock)
    (hreadings : next.readings = world.readings)
    (hheld : ∀ id, keeps (.held id) → world.holds id = true → next.holds id = true)
    (hnew : ∀ fact, adds fact → ∃ id, fact = .held id ∧ next.holds id = true) :
    ∀ fact, (note.revise keeps adds).knows fact → Fact.Holds steady next fact := by
  refine facts_revise (fun fact hk hkeep => ?_) fun fact ha => ?_
  · refine (h.facts fact hk).frame hrows hhistory hpolicy hclock (fun _ _ _ => by rw [hreadings])
      fun id heq => ?_
    rw [heq] at hkeep
    exact hheld id hkeep
  · obtain ⟨id, rfl, hholds⟩ := hnew fact ha
    exact hholds

/-- Setting one hold changes the pins of that transfer only. -/
theorem heldPins_put {holds : String → Bool} {id other : String} {held : Bool} :
    heldPins (put holds id held) other =
      if other = id then (if held then 1 else 0) else heldPins holds other := by
  unfold heldPins
  by_cases hid : other = id
  · rw [hid, put, Function.update_self, if_pos rfl]
  · rw [put, Function.update_of_ne hid, if_neg hid]

/-- Setting one key changes the value of that key only. -/
theorem put_apply {α : Type} {f : String → α} {id other : String} {value : α} :
    put f id value other = if other = id then value else f other := by
  by_cases hid : other = id
  · rw [hid, put, Function.update_self, if_pos rfl]
  · rw [put, Function.update_of_ne hid, if_neg hid]

/-- A reservation is one more pin. -/
theorem inv_reserve {row : RebalanceTransfer} (h : Inv steady world note)
    (hc : note.carry = none) :
    Inv steady { world with pins := put world.pins row.id (world.pins row.id + 1) }
      { note with carry := some row.id } := by
  refine ⟨h.sound, ⟨fun id => ?_, fun ha other ho hn => ?_⟩, h.budget, fun fact hk => ?_⟩
  · have hcount := h.pins.count id
    rw [hc] at hcount
    unfold carried at hcount ⊢
    dsimp only
    rw [put_apply]
    by_cases hid : id = row.id
    · rw [if_pos hid, if_pos (congrArg some hid.symm), ← hid]
      omega
    · rw [if_neg hid, if_neg fun heq => hid (Option.some.inj heq).symm]
      omega
  · have hneeded := h.pins.needed ha other ho hn
    rw [hc] at hneeded
    exact .inl (hneeded.resolve_right nofun)
  · exact (h.facts fact hk).frame rfl rfl rfl rfl (fun _ _ _ => rfl) fun _ _ hheld => hheld

/-- The reservation in hand becomes a hold. -/
theorem inv_keep {id : String} (h : Inv steady world note) (hc : note.carry = some id) :
    Inv steady { world with holds := put world.holds id true }
      { note.revise (fun _ => True) (· = .held id) with carry := none } := by
  refine ⟨h.sound, ⟨fun other => ?_, fun ha other ho hn => ?_⟩, h.budget,
    facts_memory h rfl rfl rfl rfl rfl (fun other _ hheld => ?_) fun fact hf => ?_⟩
  · have hcount := h.pins.count other
    rw [hc] at hcount
    unfold carried at hcount ⊢
    dsimp only
    rw [heldPins_put]
    by_cases hid : other = id
    · rw [if_pos (congrArg some hid.symm)] at hcount
      rw [if_pos hid]
      simp only [reduceCtorEq, if_false, if_true]
      omega
    · rw [if_neg hid]
      simp only [reduceCtorEq, if_false]
      omega
  · dsimp only
    rw [put_apply]
    obtain hheld | hcarry := h.pins.needed ha other ho hn
    · left
      split_ifs
      · rfl
      · exact hheld
    · rw [hc] at hcarry
      exact .inl (if_pos (Option.some.inj hcarry).symm)
  · dsimp only
    rw [put_apply]
    split_ifs
    · rfl
    · exact hheld
  · exact ⟨id, hf, Function.update_self _ _ _⟩

/-- The reservation for a quote that was not marked is given back. -/
theorem inv_letGo {id : String} (h : Inv steady world note) (hc : note.carry = some id)
    (hq : ∃ old, note.knows (.quoted old) ∧ old.id = id) :
    Inv steady { world with pins := put world.pins id (world.pins id - 1) }
      { note with carry := none } := by
  refine ⟨h.sound, ⟨fun other => ?_, fun ha other ho hn => ?_⟩, h.budget, fun fact hk => ?_⟩
  · have hcount := h.pins.count other
    rw [hc] at hcount
    unfold carried at hcount ⊢
    dsimp only
    rw [put_apply]
    by_cases hid : other = id
    · rw [if_pos (congrArg some hid.symm), hid] at hcount
      rw [if_pos hid, hid]
      simp only [reduceCtorEq, if_false]
      omega
    · rw [if_neg fun heq => hid (Option.some.inj heq).symm] at hcount
      rw [if_neg hid]
      simp only [reduceCtorEq, if_false]
      exact hcount
  · obtain hheld | hcarry := h.pins.needed ha other ho hn
    · exact .inl hheld
    · obtain ⟨old, hold, hid⟩ := hq
      obtain ⟨hmem, hs⟩ := h.facts _ hold
      rw [hc] at hcarry
      have heq := eq_of_key h.sound.nodup hmem ho ((Option.some.inj hcarry).symm.trans hid.symm)
      rw [heq] at hn
      exact absurd hn.1 (not_started_of_quoted hs)
  · exact (h.facts fact hk).frame rfl rfl rfl rfl (fun _ _ _ => rfl) fun _ _ hheld => hheld

/-- The pins of a payment that left take the place of what was held before. -/
theorem inv_holdPending {row : RebalanceTransfer} (h : Inv steady world note) :
    Inv steady { world with
      pins := put world.pins row.id
        (world.pins row.id + 1 - if world.holds row.id then 1 else 0)
      holds := put world.holds row.id true }
      (note.revise (fun _ => True) (· = .held row.id)) := by
  refine ⟨h.sound, ⟨fun other => ?_, fun ha other ho hn => ?_⟩, h.budget,
    facts_memory h rfl rfl rfl rfl rfl (fun other _ hheld => ?_) fun fact hf => ?_⟩
  · have hcount := h.pins.count other
    dsimp only
    rw [heldPins_put, put_apply]
    by_cases hid : other = row.id
    · rw [if_pos hid, if_pos hid, ← hid]
      unfold heldPins at hcount
      change 1 + carried note.carry other ≤ _
      split_ifs at hcount ⊢ <;> omega
    · rw [if_neg hid, if_neg hid]
      exact hcount
  · dsimp only
    rw [put_apply]
    refine (h.pins.needed ha other ho hn).imp_left fun hheld => ?_
    split_ifs
    · rfl
    · exact hheld
  · dsimp only
    rw [put_apply]
    split_ifs
    · rfl
    · exact hheld
  · exact ⟨row.id, hf, Function.update_self _ _ _⟩

/-- The hold of a transfer whose inputs are gone is released. -/
theorem inv_release {id : String} (h : Inv steady world note) (hc : note.knows (.cleared id)) :
    Inv steady { world with
      pins := put world.pins id (world.pins id - if world.holds id then 1 else 0)
      holds := put world.holds id false }
      (note.revise (· ≠ .held id) fun _ => False) := by
  have hcleared := h.facts _ hc
  refine ⟨h.sound, ⟨fun other => ?_, fun ha other ho hn => ?_⟩, h.budget,
    facts_memory h rfl rfl rfl rfl rfl (fun other hne hheld => ?_) fun _ hf => hf.elim⟩
  · have hcount := h.pins.count other
    dsimp only
    rw [heldPins_put, put_apply]
    by_cases hid : other = id
    · rw [if_pos hid, if_pos hid, ← hid]
      unfold heldPins at hcount
      change 0 + carried note.carry other ≤ _
      split_ifs at hcount ⊢ <;> omega
    · rw [if_neg hid, if_neg hid]
      exact hcount
  · dsimp only
    rw [put_apply]
    by_cases hid : other.id = id
    · have hgone := h.sound.elim hcleared ho hid
      exact absurd hn.2 hgone.2
    · rw [if_neg hid]
      exact h.pins.needed ha other ho hn
  · dsimp only
    rw [put_apply, if_neg]
    · exact hheld
    · rintro rfl
      exact hne rfl

/-- A transfer that ended is among those whose pins are to be cleared. -/
theorem inv_terminals {pins : List RebalanceTransfer} (h : Inv steady world note)
    (hp : ∀ pin ∈ pins, Stored world.rows pin.id
      fun row => row.state.isEnded = true ∧ row.terms = pin.terms) :
    Inv steady { world with terminalPins := pins } note := by
  have hs := h.sound
  refine ⟨⟨hs.nodup, hs.critical, hs.active, hs.shape, hs.once, hs.submitted, hp⟩, h.pins,
    h.budget, fun fact hk => ?_⟩
  exact (h.facts fact hk).frame rfl rfl rfl rfl (fun _ _ _ => rfl) fun _ _ hheld => hheld

/-- The invariant survives the terminal pin of an ended row. -/
theorem inv_setTerminalPin {row : RebalanceTransfer} (h : Inv steady world note)
    (hk : note.knows (.known row.terms)) (he : note.knows (.ended row.id)) :
    Inv steady { world with
      terminalPins := if world.terminalPins.any fun pinned => decide (pinned.id = row.id) then
          world.terminalPins.map fun pinned => if pinned.id = row.id then row else pinned
        else world.terminalPins ++ [row] } note := by
  have hrow : Stored world.rows row.id
      fun stored => stored.state.isEnded = true ∧ stored.terms = row.terms := by
    obtain ⟨stored, hm, hid, hended⟩ := h.facts _ he
    exact ⟨stored, hm, hid, hended, h.sound.elim (h.facts _ hk) hm hid⟩
  refine inv_terminals h fun pin hp => ?_
  split_ifs at hp
  · obtain ⟨old, hold, rfl⟩ := List.mem_map.mp hp
    split_ifs
    · exact hrow
    · exact h.sound.pinned old hold
  · obtain hp | hp := List.mem_append.mp hp
    · exact h.sound.pinned pin hp
    · rw [List.mem_singleton.mp hp]
      exact hrow

/-! ## Every action -/

/-- Every licensed action keeps the invariant, whatever the outside answers. -/
theorem inv_act {op : RebalanceOp} {reply : RebalanceReply} {answer : op.Ans}
    (h : Inv steady world note) (hm : May note op)
    (hp : perform op reply world = some (answer, next)) :
    Inv steady next (learn note op answer) := by
  cases op with
  | ask question =>
    cases hp
    exact h
  | read query =>
    unfold perform at hp
    dsimp only at hp
    cases hf : reply.fault with
    | some fault =>
      rw [hf] at hp
      cases hp
      exact h
    | none =>
      rw [hf] at hp
      obtain ⟨ha, hw⟩ := Prod.mk.inj (Option.some.inj hp)
      cases hw
      cases answer with
      | error fault => exact h
      | ok answer => exact h.teach fun fact ht => holds_taught h ha ht
  | create row =>
    unfold perform at hp
    dsimp only at hp
    cases hf : reply.fault with
    | some fault =>
      rw [hf] at hp
      cases hp
      exact h
    | none =>
      cases hs : RebalanceStore.create row world.rows with
      | error fault =>
        rw [hf, hs] at hp
        cases hp
        exact h
      | ok value =>
        rw [hf, hs] at hp
        cases hp
        exact inv_create h hm hs
  | save row =>
    unfold perform at hp
    dsimp only at hp
    cases hf : reply.fault with
    | some fault =>
      rw [hf] at hp
      cases hp
      exact h
    | none =>
      cases hs : RebalanceStore.save row world.rows with
      | error fault =>
        rw [hf, hs] at hp
        cases hp
        exact h
      | ok stored =>
        rw [hf, hs] at hp
        cases hp
        exact inv_save h hm.1 hm.2 hs
  | recordAttempt time =>
    unfold perform at hp
    dsimp only at hp
    cases hf : reply.fault with
    | some fault =>
      rw [hf] at hp
      cases hp
      exact h
    | none =>
      rw [hf] at hp
      split_ifs at hp
      · cases hp
        exact h
      · cases hp
        exact inv_recordAttempt h hm
  | readBalance poolId =>
    unfold perform at hp
    dsimp only at hp
    cases hf : reply.fault with
    | some fault =>
      rw [hf] at hp
      cases hp
      exact inv_readBalance h fun _ hn => hn.elim
    | none =>
      rw [hf] at hp
      cases hp
      exact inv_readBalance h fun fact ha => ⟨_, ha, rfl⟩
  | now =>
    cases hp
    exact inv_now h
  | policy =>
    cases hp
    refine h.teach fun fact hf => ?_
    rw [hf]
    exact ⟨rfl, h.budget.force⟩
  | setPolicy policy =>
    cases hp
    exact inv_setPolicy h hm
  | stopped =>
    cases hp
    exact h
  | holdsHas id =>
    cases hp
    exact h
  | reserve row policy restoring =>
    unfold perform at hp
    dsimp only at hp
    cases hf : reply.fault with
    | some fault =>
      rw [hf] at hp
      cases hp
      exact h
    | none =>
      rw [hf] at hp
      cases hp
      exact inv_reserve h hm
  | keep id =>
    cases hp
    exact inv_keep h hm
  | letGo id =>
    cases hp
    exact inv_letGo h hm.1 hm.2
  | holdPending row =>
    unfold perform at hp
    dsimp only at hp
    cases hf : reply.fault with
    | some fault =>
      rw [hf] at hp
      cases hp
      exact h
    | none =>
      rw [hf] at hp
      cases hp
      exact inv_holdPending h
  | release id =>
    cases hp
    exact inv_release h hm
  | submit row =>
    cases hp
    exact inv_submit h hm
  | terminalPins =>
    cases hp
    exact inv_terminalPins h
  | setTerminalPin row =>
    cases hp
    exact inv_setTerminalPin h hm.1 hm.2
  | deleteTerminalPin id =>
    cases hp
    exact inv_terminals h fun pin hpin => h.sound.pinned pin (List.mem_filter.mp hpin).1

/-! ## The service -/

/-- What happens on its own keeps it, the clock of a steady service included. -/
theorem inv_stir {move : RebalanceMove} (h : Inv steady world note)
    (hs : stir steady move world = some next) : Inv steady next note := by
  cases move with
  | stop =>
    cases hs
    exact ⟨h.sound, h.pins, h.budget, fun fact hk =>
      (h.facts fact hk).frame rfl rfl rfl rfl (fun _ _ _ => rfl) fun _ _ hheld => hheld⟩
  | wait seconds =>
    unfold stir at hs
    dsimp only at hs
    split_ifs at hs with hback
    cases hs
    have hforward : steady = true → 0 ≤ seconds := fun ht => by
      by_contra hlt
      exact hback ⟨ht, Int.not_le.mp hlt⟩
    have hb := h.budget
    refine ⟨h.sound, h.pins, ⟨hb.force, hb.valid, hb.born, hb.charges, hb.limits,
      fun ht charge hm => ?_, hb.kept, hb.last, hb.spaced, hb.attempters⟩, fun fact hk => ?_⟩
    · have hpast := hb.past ht charge hm
      have hlater := hforward ht
      dsimp only
      omega
    · have htrue := h.facts fact hk
      cases fact with
      | time time =>
        intro ht
        obtain ⟨hle, hcharges⟩ := htrue ht
        have hlater := hforward ht
        exact ⟨by dsimp only; omega, hcharges⟩
      | _ => exact htrue

/-- What a dead process leaves. -/
theorem inv_wipe (h : Inv steady world note) : Inv steady (wipe world) Note.booting := by
  have hs := h.sound
  exact ⟨⟨hs.nodup, hs.critical, hs.active, hs.shape, hs.once, hs.submitted,
    fun _ hp => absurd hp List.not_mem_nil⟩, ⟨fun _ => le_refl _, nofun⟩, h.budget,
    fun _ hk => hk.elim⟩

/-- With nothing owed a process is ready for its next job. -/
theorem inv_settle (h : Inv steady world note) (hs : Settled note) :
    Inv steady world Note.fresh := by
  obtain ⟨hcarry, hawake⟩ := hs
  refine ⟨h.sound, ⟨fun id => ?_, fun _ row hm hn => ?_⟩, h.budget, fun _ hk => hk.elim⟩
  · have hcount := h.pins.count id
    rw [hcarry] at hcount
    exact hcount
  · left
    obtain hawake | ⟨actives, protecteds, hactives, hprotecteds, hheld⟩ := hawake
    · have hneeded := h.pins.needed hawake row hm hn
      rw [hcarry] at hneeded
      exact hneeded.resolve_right nofun
    · have hmem : row.id ∈ actives ++ protecteds := by
        obtain ha | he := hn.1
        · exact List.mem_append_left _ (h.facts _ hactives row hm ha)
        · exact List.mem_append_right _ (h.facts _ hprotecteds row hm he hn.2)
      exact h.facts _ (hheld _ hmem)

/-- A process that serves goes on serving, whatever it is told. -/
theorem awake_learn {op : RebalanceOp} {answer : op.Ans} (h : note.awake = true) :
    (learn note op answer).awake = true := by
  cases op <;> first | exact h | (cases answer <;> exact h)

/-- The rules of the service. -/
def rules (deps : RebalanceDeps) (steady : Bool) :
    SerialService.Rules (rebalanceService deps steady) where
  discipline := licence
  bootNote := Note.booting
  inv := Inv steady
  rest := Settled
  awake := fun note => note.awake = true
  settle := fun _ _ => inv_settle
  boots := fun _ _ => inv_wipe
  act := fun _ _ _ _ _ _ h hm hp => inv_act h hm hp
  stir := fun _ _ _ _ => inv_stir
  awake_fresh := rfl
  awake_learn := fun _ _ _ => awake_learn
  jobs := RebalanceJobs.ends_program
  restarts := RebalanceJobs.ends_create

end IntentSolver.RebalanceInvariant
