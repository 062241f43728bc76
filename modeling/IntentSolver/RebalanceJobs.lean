import IntentSolver.RebalanceLicence

/-!
# The jobs of the rebalancing service keep to their licences

One walk for each part of the service. Code that only asks forgets nothing; a transfer is
written as it was read, further along; and however a job ends, no reservation is left in hand.
-/

namespace IntentSolver.RebalanceJobs

open Admission EvmClaimAnswers RebalanceLicence RebalanceService RebalanceTransfers RefillPolicy
  WorkerProgram

variable {note : Note}

/-! ## Single actions -/

section Single

variable {α : Type} {post : α → Note → Prop} {raise : String → Note → Prop}

/-- An answer of the outside teaches nothing. -/
theorem ends_ask_bind {question : RebalanceQuestion} {rest : question.Answer → Rebalancing α}
    (he : ∀ fault, raise fault note)
    (hr : ∀ answer, licence.Ends note (rest answer) post raise) :
    licence.Ends note ((ask question).bind rest) post raise := by
  constructor
  · trivial
  · intro answer
    cases answer with
    | ok answer => exact hr answer
    | error fault => exact he fault

/-- A query of the store teaches what it says. -/
theorem ends_read_bind {query : StoreRead} {rest : query.Answer → Rebalancing α}
    (he : ∀ fault, raise fault note)
    (hr : ∀ answer after, Extends note after →
      (∀ fact, Taught query answer fact → after.knows fact) →
        licence.Ends after (rest answer) post raise) :
    licence.Ends note ((read query).bind rest) post raise := by
  constructor
  · trivial
  · intro answer
    cases answer with
    | ok answer => exact hr answer _ extends_revise fun _ h => .inr h
    | error fault => exact he fault

/-- A reading of the clock comes no earlier than those before it. -/
theorem ends_now_bind {rest : ℤ → Rebalancing α}
    (hr : ∀ now after, Extends note after → after.knows (.time now) →
      (∀ earlier, note.knows (.time earlier) → after.knows (.order earlier now)) →
      licence.Ends after (rest now) post raise) :
    licence.Ends note ((issue .now).bind rest) post raise :=
  Discipline.ends_issue_bind.mpr ⟨trivial, fun _ =>
    hr _ _ extends_revise (.inr .time) fun _ hk => .inr (.order hk)⟩

/-- The policy in force. -/
theorem ends_policy_bind {rest : RebalancePolicy → Rebalancing α}
    (hr : ∀ policy after, Extends note after → after.knows (.policy policy) →
      licence.Ends after (rest policy) post raise) :
    licence.Ends note ((issue .policy).bind rest) post raise :=
  Discipline.ends_issue_bind.mpr ⟨trivial, fun _ => hr _ _ extends_revise (.inr rfl)⟩

/-- Pins for a payment that left. -/
theorem ends_holdPending_bind {row : RebalanceTransfer} {rest : Unit → Rebalancing α}
    (he : ∀ fault, raise fault note)
    (hr : licence.Ends (note.revise (fun _ => True) (· = .held row.id)) (rest ()) post raise) :
    licence.Ends note (((issue (.holdPending row)).bind orThrow).bind rest) post raise := by
  constructor
  · trivial
  · intro answer
    cases answer with
    | ok answer => exact hr
    | error fault => exact he fault

end Single

/-! ## Admission -/

/-- The pools are asked for, and their identities compared. -/
theorem asks_pools : Discipline.Gives Asks (fun _ => True) pools := by
  unfold pools
  refine (asks_ask _).bind fun found _ => ?_
  split_ifs
  · trivial
  · trivial

/-- A transfer is admitted only while one is open at most. -/
theorem ends_checkAdmission {origin : Origin} {overridePendingIds : Option (List String)} :
    licence.Ends note (checkAdmission origin overridePendingIds)
      (fun _ after => Extends note after ∧ after.knows .room)
      fun _ after => Extends note after := by
  unfold checkAdmission
  have hrefl := Extends.refl note
  by_cases hone : (overridePendingIds.any fun ids => !namesOne ids) = true
  · rw [if_pos hone]
    exact hrefl
  rw [if_neg hone]
  refine ends_ask_bind (fun _ => hrefl) fun checkpoint => ?_
  by_cases hdeferred : attributionDeferred checkpoint = true ∧
      (origin ≠ .manual ∨ overridePendingIds = none)
  · rw [if_pos hdeferred]
    exact hrefl
  rw [if_neg hdeferred]
  refine ends_read_bind (fun _ => hrefl) fun (rows : List RebalanceTransfer) mid hmore
    htaught => ?_
  cases rows with
  | nil =>
    cases overridePendingIds with
    | none => exact ⟨hmore, htaught _ (.activeRoom (Nat.zero_le 1))⟩
    | some ids => exact hmore
  | cons prior others =>
    cases overridePendingIds with
    | none => exact hmore
    | some ids =>
      by_cases hmanual : origin ≠ .manual
      · dsimp only
        rw [if_pos hmanual]
        exact hmore
      dsimp only
      rw [if_neg hmanual]
      refine Discipline.ends_issue_bind.mpr ⟨trivial, fun (held : Bool) => ?_⟩
      by_cases hover : overridable prior others held ids = true
      · rw [if_pos hover]
        have hnone : others = [] := by
          unfold overridable at hover
          simp only [Bool.and_eq_true, decide_eq_true_eq] at hover
          exact hover.1.1.1.1
        have hroom : mid.knows .room := by
          apply htaught
          rw [hnone]
          exact .activeRoom (Nat.le_refl 1)
        refine ends_now_bind fun now last hlast _ _ => ?_
        cases checkpoint with
        | none => exact hmore.trans hlast
        | some seen =>
          dsimp only
          split_ifs with hfresh
          · exact hmore.trans hlast
          · exact ⟨hmore.trans hlast, hlast.knows _ hroom⟩
      · rw [if_neg hover]
        exact hmore

/-! ## Quotes -/

/-- A destination's quote is a question and checks of its answer. -/
theorem asks_prepare {poolId : String} {kind : DepositKind} {amountSats feeAllowance : ℤ} :
    Discipline.Gives Asks (fun _ => True) (prepare poolId kind amountSats feeAllowance) := by
  unfold prepare
  refine (asks_ask _).bind fun deposit _ => ?_
  split_ifs <;> trivial

/-- However often the fees are estimated, only questions are asked. -/
theorem asks_estimate {policy : RebalancePolicy} {poolId : String} {kind : DepositKind}
    {amountSats : ℤ} {origin : Origin} {total : ℤ} {more : ℕ} {feeAllowance : ℤ} :
    Discipline.Gives Asks (fun _ => True)
      (estimate policy poolId kind amountSats origin total more feeAllowance) := by
  induction more generalizing feeAllowance with
  | zero =>
    unfold estimate
    refine asks_prepare.bind fun deposit _ => (asks_ask _).bind fun source _ => ?_
    dsimp only
    split_ifs <;> trivial
  | succ more ih =>
    unfold estimate
    refine asks_prepare.bind fun deposit _ => (asks_ask _).bind fun source _ => ?_
    dsimp only
    split_ifs
    · trivial
    · trivial
    · trivial
    · exact ih

/-- An automatic debit that passes is within the limits of the policy. -/
theorem asks_checkDebit {policy : RebalancePolicy} {amountSats debitSats : ℤ} :
    Discipline.Gives Asks (fun _ => checkRebalanceFees policy amountSats debitSats = .ok () ∧
      debitSats ≤ policy.maxDebitSats) (checkDebit policy amountSats debitSats) := by
  unfold checkDebit
  refine asks_orThrow.bind fun (_ : Unit) hfees => ?_
  split_ifs with hmax
  · trivial
  · refine (Discipline.gives_issue trivial).bind fun now _ => ?_
    refine (asks_read _).bind fun rolling _ => ?_
    split_ifs
    · trivial
    · exact ⟨hfees, Int.not_lt.mp hmax⟩

variable {deps : RebalanceDeps}

/-- What is known of a quote that was not stored yet. -/
structure Quoted (policy : RebalancePolicy) (params : QuoteParams) (origin : Origin)
    (row : RebalanceTransfer) : Prop where
  state : row.state = .quoted
  uncharged : row.chargedAt = none
  unclear : row.sourceInputsClearedAt = none
  asked : row.terms.origin = origin ∧ row.terms.poolId = params.poolId ∧
    row.terms.netSats = params.amountSats
  limits : origin = .automatic → row.terms.debitSats ≤ policy.maxDebitSats ∧
    row.terms.feeSats = row.terms.debitSats - row.terms.netSats ∧
    row.terms.feeSats ≤ policy.maxFeeSats ∧
    row.terms.feeSats * 10000 ≤ row.terms.netSats * policy.maxFeeBps

/-- The quote of one kind is made out of answers, uncharged, and a refill's is within the policy. -/
theorem asks_quoteKind {policy : RebalancePolicy} {params : QuoteParams} {origin : Origin}
    {allowance : Option ℤ} {kind : DepositKind} :
    Discipline.Gives Asks (Quoted policy params origin)
      (quoteKind deps policy params origin allowance kind) := by
  unfold quoteKind
  refine asks_estimate.bind ?_
  rintro ⟨deposit, source⟩ -
  have hdebit : Discipline.Gives Asks (fun _ => origin = .automatic →
      checkRebalanceFees policy params.amountSats source.debitSats = .ok () ∧
        source.debitSats ≤ policy.maxDebitSats)
      (if origin = .automatic then checkDebit policy params.amountSats source.debitSats
        else .ret ()) := by
    split_ifs with hauto
    · exact asks_checkDebit.mono fun _ h _ => h
    · exact fun h => absurd h hauto
  refine hdebit.bind fun _ hlimits => ?_
  split_ifs with hfee
  · trivial
  · refine (Discipline.gives_issue trivial).bind fun now _ => ?_
    dsimp only
    split_ifs with hexpired
    · trivial
    · refine (asks_ask _).bind fun id _ => ?_
      have hfee := Decidable.not_not.mp hfee
      refine ⟨rfl, rfl, rfl, ⟨rfl, rfl, rfl⟩, fun hauto => ?_⟩
      obtain ⟨hok, hmax⟩ := hlimits hauto
      have hbounds := checkRebalanceFees_ok hok
      dsimp only
      rw [hfee]
      exact ⟨hmax, rfl, hbounds.2⟩

/-- So are the quotes of all kinds. -/
theorem asks_quoteKinds {policy : RebalancePolicy} {params : QuoteParams} {origin : Origin}
    {allowance : Option ℤ} {kinds : List DepositKind} :
    Discipline.Gives Asks (fun result => ∀ row ∈ result.1, Quoted policy params origin row)
      (quoteKinds deps policy params origin allowance kinds) := by
  induction kinds with
  | nil => exact fun _ hm => absurd hm List.not_mem_nil
  | cons kind kinds ih =>
    unfold quoteKinds
    split_ifs
    · exact ih
    · refine asks_quoteKind.attempt.bind fun outcome hkind => ih.bind ?_
      rintro ⟨quotes, failures⟩ hrest
      cases outcome with
      | ok quote =>
        intro row hm
        obtain rfl | hm := List.mem_cons.mp hm
        · exact hkind _ rfl
        · exact hrest row hm
      | error fault => exact hrest

/-- What a job must know before it quotes a refill: the balance its pool was read to have, and
that the amount takes it no further than its target. -/
def KnowsTarget (note : Note) (params : QuoteParams) : Prop :=
  ∃ policy balance target, note.knows (.policy policy) ∧
    note.knows (.reading params.poolId balance) ∧ (params.poolId, target) ∈ policy.targets ∧
    balance + params.amountSats ≤ target.targetSats

/-- What is known of the target stays known. -/
theorem KnowsTarget.extend {after : Note} {params : QuoteParams} (h : KnowsTarget note params)
    (he : Extends note after) : KnowsTarget after params := by
  obtain ⟨policy, balance, target, hp, hr, ht, hle⟩ := h
  exact ⟨policy, balance, target, he.knows _ hp, he.knows _ hr, ht, hle⟩

/-- A fresh quote is stored where the admission asked before it let the transfer in. -/
theorem ends_freshQuote {params : QuoteParams} {origin : Origin} {allowance : Option ℤ}
    (h : origin = .automatic → KnowsTarget note params) :
    licence.Ends note (freshQuote deps params origin allowance)
      (fun _ after => Extends note after) fun _ after => Extends note after := by
  unfold freshQuote
  refine ends_checkAdmission.bind fun _ mid hmid => ?_
  refine ends_policy_bind fun policy known hmore hpolicy => ?_
  have hknown := hmid.1.trans hmore
  split_ifs with hoff
  · exact hknown
  · refine ((ends_of_gives asks_pools).mono (fun _ _ h => h.2)
      fun _ _ h => hknown.trans h).bind fun found after hafter => ?_
    have hfound := hknown.trans hafter
    split
    · exact hfound
    · rename_i pool hpool
      refine ((ends_of_gives asks_quoteKinds).mono (fun _ _ h => h)
        fun _ _ h => hfound.trans h).bind ?_
      rintro ⟨quotes, failures⟩ last ⟨hquotes, hlast⟩
      have hall := hfound.trans hlast
      dsimp only
      split
      · exact hall
      · rename_i selected hselected
        have hm := (List.mem_insertionSort Cheaper).mp (List.mem_of_mem_head? hselected)
        have hquoted := hquotes selected hm
        have hp := hlast.knows _ (hafter.knows _ hpolicy)
        constructor
        · refine ⟨hquoted.state, hquoted.uncharged, hquoted.unclear, fun hauto => ?_,
            fun hauto => ?_⟩
          · have ha := hquoted.asked.1.symm.trans hauto
            obtain ⟨hdebit, hfee, hsats, hbps⟩ := hquoted.limits ha
            have hleast : policy.minTransferSats ≤ selected.terms.netSats := by
              rw [hquoted.asked.2.2]
              by_contra hlt
              exact hoff ⟨ha, .inl (Int.not_le.mp hlt)⟩
            exact ⟨policy, hp, hdebit, hfee, hsats, hbps, hleast⟩
          · have ha := hquoted.asked.1.symm.trans hauto
            obtain ⟨chosen, balance, target, hc, hr, ht, hle⟩ := (h ha).extend hall
            rw [← hquoted.asked.2.1] at hr ht
            rw [← hquoted.asked.2.2] at hle
            exact ⟨chosen, balance, hc, hr, target, ht, hle⟩
        · intro answer
          cases answer with
          | ok answer => exact hall
          | error fault => exact hall

/-- Whether it is fresh or was stored before, making a quote forgets nothing. -/
theorem ends_makeQuote {params : QuoteParams} {origin : Origin}
    (h : origin = .automatic → KnowsTarget note params) :
    licence.Ends note (makeQuote deps params origin)
      (fun _ after => Extends note after) fun _ after => Extends note after := by
  have hrefl := Extends.refl note
  unfold makeQuote
  refine Discipline.ends_issue_bind.mpr ⟨trivial, fun (stopped : Bool) => ?_⟩
  by_cases hstopped : stopped = true
  · rw [if_pos hstopped]
    exact hrefl
  rw [if_neg hstopped]
  by_cases hamount : isPositiveSats params.amountSats = false
  · rw [if_pos hamount]
    exact hrefl
  rw [if_neg hamount]
  dsimp only
  generalize receivingAllowance params origin = allowance
  by_cases hallowance : (allowance.any fun allowed => !isNonnegative allowed) = true
  · rw [if_pos hallowance]
    exact hrefl
  rw [if_neg hallowance]
  by_cases hkey : JsNumber.trim params.requestKey.toList = [] ∨ 128 < textLength params.requestKey
  · rw [if_pos hkey]
    exact hrefl
  rw [if_neg hkey]
  refine ends_read_bind (fun _ => hrefl) fun (stored : Option RebalanceTransfer) mid hmore _ => ?_
  cases stored with
  | some existing =>
    dsimp only
    split_ifs
    · exact hmore
    · exact hmore
  | none =>
    exact (ends_freshQuote fun ha => (h ha).extend hmore).mono (fun _ _ h => hmore.trans h)
      fun _ _ h => hmore.trans h

/-! ## Sending -/

/-- Awake, with no reservation in hand. -/
def Ready (note : Note) : Prop := note.awake = true ∧ note.carry = none

/-- A job that is ready has nothing in hand. -/
theorem Ready.settled (h : Ready note) : Settled note := ⟨h.2, .inl h.1⟩

/-- What is known of transfers that are open, and what is in hand, is as it was. -/
structure Tracks (note after : Note) : Prop where
  awake : after.awake = note.awake
  carry : after.carry = note.carry
  known : ∀ terms, note.knows (.known terms) → after.knows (.known terms)
  unclear : ∀ id clearedAt, note.knows (.unclear id clearedAt) → after.knows (.unclear id clearedAt)
  started : ∀ state, note.knows (.started state) → after.knows (.started state)

/-- Nothing changed, nothing lost. -/
theorem Tracks.refl (note : Note) : Tracks note note :=
  ⟨rfl, rfl, fun _ h => h, fun _ _ h => h, fun _ h => h⟩

/-- Notes that only grew still track what they did. -/
theorem tracks_of_extends {after : Note} (h : Extends note after) : Tracks note after :=
  ⟨h.awake, h.carry, fun _ => h.knows _, fun _ _ => h.knows _, fun _ => h.knows _⟩

/-- One stretch after another. -/
theorem Tracks.trans {mid after : Note} (h : Tracks note mid) (h' : Tracks mid after) :
    Tracks note after :=
  ⟨h'.awake.trans h.awake, h'.carry.trans h.carry, fun _ hk => h'.known _ (h.known _ hk),
    fun _ _ hk => h'.unclear _ _ (h.unclear _ _ hk), fun _ hk => h'.started _ (h.started _ hk)⟩

/-- What is ready stays so. -/
theorem Tracks.ready {after : Note} (h : Tracks note after) (hr : Ready note) : Ready after :=
  ⟨h.awake.trans hr.1, h.carry.trans hr.2⟩

/-- A transfer that may be written further along: it left, and its inputs are its own. -/
structure Follows (note : Note) (row : RebalanceTransfer) : Prop where
  known : note.knows (.known row.terms)
  unclear : note.knows (.unclear row.id row.sourceInputsClearedAt)
  started : row.Started ∨ note.knows (.started row.state)

/-- A transfer that may be followed may be followed later. -/
theorem Follows.track {after : Note} {row : RebalanceTransfer} (h : Follows note row)
    (ht : Tracks note after) : Follows after row :=
  ⟨ht.known _ h.known, ht.unclear _ _ h.unclear, h.started.imp_right (ht.started _)⟩

/-- The same transfer, further along. -/
theorem Follows.move {row : RebalanceTransfer} (h : Follows note row) (moved : RebalanceTransfer)
    (ht : moved.terms = row.terms) (hs : moved.Started ∨ moved.state = row.state)
    (hc : moved.sourceInputsClearedAt = row.sourceInputsClearedAt) : Follows note moved := by
  constructor
  · rw [ht]
    exact h.known
  · unfold RebalanceTransfer.id
    rw [ht, hc]
    exact h.unclear
  · obtain hs | hs := hs
    · exact .inl hs
    · unfold RebalanceTransfer.Started
      rw [hs]
      exact h.started

/-- The write of such a transfer loses track of none. -/
theorem tracks_wrote {row : RebalanceTransfer} (h : Follows note row) :
    Tracks note (note.revise (outlives note row) (Wrote note row)) :=
  ⟨rfl, rfl, fun _ hk => .inl ⟨hk, trivial⟩, fun _ _ hk => .inl ⟨hk, .inr h.unclear⟩,
    fun _ hk => .inl ⟨hk, trivial⟩⟩

section Write

variable {row : RebalanceTransfer}

/-- A row that is followed may be written. -/
theorem ends_saveRow (h : Follows note row) :
    licence.Ends note (saveRow row) (fun _ after => Tracks note after)
      fun _ after => Tracks note after := by
  constructor
  · exact ⟨h.known, .follow h.unclear h.started⟩
  · intro answer
    cases answer with
    | ok answer => exact tracks_wrote h
    | error fault => exact Tracks.refl note

/-- So may its mark that nobody knows whether the payment left. -/
theorem ends_markUnknown {fault : String} (h : Follows note row) :
    licence.Ends note (markUnknown row fault) (fun _ after => Tracks note after)
      fun _ after => Tracks note after := by
  unfold markUnknown
  refine ends_now_bind fun now mid hmid _ _ => ?_
  have hlater := tracks_of_extends hmid
  have hmoved := (h.track hlater).move { row with
    state := .needsReconciliation
    error := some fault
    updatedAt := now } rfl (.inl (.inl rfl)) rfl
  exact ((ends_saveRow hmoved).mono (fun _ _ ht => hlater.trans ht)
    fun _ _ ht => hlater.trans ht).bind fun _ _ ht => ht

/-- An unknown outcome is noted down from where the steps before it left. -/
theorem ends_unknown {mid : Note} {moved : RebalanceTransfer} {fault : String}
    (ht : Tracks note mid) (h : Follows mid moved) :
    licence.Ends mid (markUnknown moved fault) (fun _ after => Tracks note after)
      fun _ after => Tracks note after :=
  (ends_markUnknown h).mono (fun _ _ hl => ht.trans hl) fun _ _ hl => ht.trans hl

/-- The write of a row, and then the pins of its payment. -/
theorem ends_paid {pinned : RebalanceTransfer} (h : Follows note row) :
    licence.Ends note ((saveRow row).bind fun _ => (issue (.holdPending pinned)).bind orThrow)
      (fun _ after => Tracks note after) fun _ after => Tracks note after := by
  refine (ends_saveRow h).bind fun _ after ht => Discipline.ends_issue_bind.mpr
    ⟨trivial, fun (answer : Except String Unit) => ?_⟩
  cases answer with
  | ok answer => exact ht.trans (tracks_of_extends extends_revise)
  | error fault => exact ht

/-- A payment is submitted once it is known that it was not; whatever comes back is written down. -/
theorem ends_submitPayment (h : Follows note row) (hs : note.knows (.unsubmitted row.id)) :
    licence.Ends note (submitPayment row) (fun _ after => Tracks note after)
      fun _ after => Tracks note after := by
  unfold submitPayment
  refine Discipline.ends_issue_bind.mpr ⟨hs, fun (answer : Except String String) => ?_⟩
  have hleft : Tracks note (licence.learn note (.submit row) answer) :=
    ⟨rfl, rfl, fun _ hk => .inl ⟨hk, nofun⟩, fun _ _ hk => .inl ⟨hk, nofun⟩,
      fun _ hk => .inl ⟨hk, nofun⟩⟩
  have hfollows := h.track hleft
  cases answer with
  | error fault => exact ends_unknown hleft hfollows
  | ok txid =>
    dsimp only
    split_ifs with hvalid
    · exact ends_unknown hleft hfollows
    · refine ends_now_bind fun now mid hmid _ _ => ?_
      have hlater := tracks_of_extends hmid
      have hpaid := (hfollows.track hlater).move { row with
        fundingTxid := some txid
        state := .pending
        updatedAt := now } rfl (.inl (.inl rfl)) rfl
      refine (ends_paid hpaid).attempt.bind fun outcome after hend => ?_
      have hafter : Tracks mid after := by
        cases outcome with
        | ok value => exact hend.1 _ rfl
        | error fault => exact hend.2 _ rfl
      cases outcome with
      | ok value => exact hleft.trans (hlater.trans hafter)
      | error fault => exact ends_unknown (hleft.trans (hlater.trans hafter)) (hpaid.track hafter)

end Write

/-- What the day still allows was looked up. -/
theorem ends_checkBudget {policy : RebalancePolicy} {terms : TransferTerms} :
    licence.Ends note (checkBudget policy terms)
      (fun _ after => Extends note after ∧ ∃ total now, after.knows (.rolled total now) ∧
        after.knows (.time now) ∧ terms.debitSats + total ≤ policy.dailyDebitSats)
      fun _ after => Extends note after := by
  have hrefl := Extends.refl note
  unfold checkBudget
  refine ((ends_of_gives asks_orThrow).mono (fun _ _ h => h.2)
    fun _ _ h => h).bind fun _ mid hmid => ?_
  refine ends_now_bind fun now timed htimed htime _ => ?_
  have hboth := hmid.trans htimed
  refine ends_read_bind (fun _ => hboth) fun (rolling : ℤ) last hlast htaught => ?_
  split_ifs with hover
  · exact hboth.trans hlast
  · exact ⟨hboth.trans hlast, rolling, now, htaught _ .rolled, hlast.knows _ htime,
      Int.not_lt.mp hover⟩

variable {row : RebalanceTransfer} {policy : RebalancePolicy}

/-- A quote that was marked for submission, its reservation kept, may be submitted and followed. -/
theorem marked_kept {old : RebalanceTransfer} (marked : RebalanceTransfer)
    (hq : note.knows (.quoted old)) (hk : note.knows (.known marked.terms))
    (ht : marked.terms = old.terms)
    (hc : marked.sourceInputsClearedAt = old.sourceInputsClearedAt)
    (hs : marked.state = .submitting) :
    Follows (learn (learn note (.save marked) (.ok ())) (.keep marked.id) ()) marked ∧
      (learn (learn note (.save marked) (.ok ())) (.keep marked.id) ()).knows
        (.unsubmitted marked.id) := by
  have hkept : ∀ fact, (learn note (.save marked) (.ok ())).knows fact →
      (learn (learn note (.save marked) (.ok ())) (.keep marked.id) ()).knows fact :=
    fun _ h => .inl ⟨h, trivial⟩
  refine ⟨⟨hkept _ (.inl ⟨hk, trivial⟩), hkept _ (.inr (.unclear hq ht hc hs)), .inl (.inl ?_)⟩,
    hkept _ (.inr (.unsubmitted hq ht hs))⟩
  rw [hs]
  rfl

/-- A quote is marked with a reservation in hand; whatever fails, none is left there. -/
theorem ends_charge (hr : Ready note) (hq : note.knows (.quoted row))
    (hk : note.knows (.known row.terms)) (hroom : note.knows .room)
    (hday : row.terms.origin = .automatic → ∃ total now, note.knows (.policy policy) ∧
      note.knows (.rolled total now) ∧ note.knows (.time now) ∧
      row.terms.debitSats + total ≤ policy.dailyDebitSats) :
    licence.Ends note (charge row policy) (fun _ after => Ready after)
      fun _ after => Ready after := by
  unfold charge
  have hreserve : licence.Ends note ((issue (.reserve row policy false)).bind orThrow)
      (fun _ after => after = { note with carry := some row.id }) fun _ after => Ready after := by
    constructor
    · exact hr.2
    · intro answer
      cases answer with
      | ok answer => rfl
      | error fault => exact hr
  refine hreserve.bind ?_
  · rintro _ carrying rfl
    refine ends_now_bind fun chargedAt timed htimed htime horder => ?_
    refine ends_now_bind fun updatedAt mid hmid _ _ => ?_
    have hboth := htimed.trans hmid
    have hcarry : mid.carry = some row.id := hboth.carry
    refine Discipline.ends_issue_bind.mpr ⟨⟨hboth.knows _ hk, ?_⟩, fun answer => ?_⟩
    · refine .charge row (hboth.knows _ hq) rfl rfl (hboth.knows _ hroom) hcarry rfl chargedAt
        rfl (hmid.knows _ htime) fun hauto => ?_
      obtain ⟨total, now, hp, hrolled, hnow, hfit⟩ := hday hauto
      exact ⟨policy, total, now, hboth.knows _ hp, hboth.knows _ hrolled, hboth.knows _ hnow,
        hmid.knows _ (horder _ hnow), hfit⟩
    · have hempty : ∀ {after : Note}, after.awake = mid.awake → after.carry = none →
          Ready after := fun ha hc => ⟨ha.trans (hboth.awake.trans hr.1), hc⟩
      cases answer with
      | error fault =>
        constructor
        · exact ⟨hcarry, row, hboth.knows _ hq, rfl⟩
        · exact fun _ => hempty rfl rfl
      | ok answer =>
        obtain ⟨hfollows, hunsubmitted⟩ := marked_kept { row with
          state := .submitting
          chargedAt := some chargedAt
          updatedAt := updatedAt } (hboth.knows _ hq) (hboth.knows _ hk) rfl rfl rfl
        refine Discipline.ends_issue_bind.mpr ⟨hcarry, fun _ => ?_⟩
        exact (ends_submitPayment hfollows hunsubmitted).mono
          (fun _ _ ht => ht.ready (hempty rfl rfl)) fun _ _ ht => ht.ready (hempty rfl rfl)

/-- A job that sends a quote. -/
theorem ends_send {id : String} {overridePendingIds : Option (List String)} (hr : Ready note) :
    licence.Ends note (send deps id overridePendingIds) (fun _ after => Ready after)
      fun _ after => Ready after := by
  unfold send
  refine ends_read_bind (fun _ => hr) fun (stored : Option RebalanceTransfer) mid hmid htaught => ?_
  have hready := (tracks_of_extends hmid).ready hr
  cases stored with
  | none => exact hready
  | some row =>
    by_cases hstate : row.state ≠ .quoted
    · dsimp only
      rw [if_pos hstate]
      exact hready
    dsimp only
    rw [if_neg hstate]
    refine Discipline.ends_issue_bind.mpr ⟨trivial, fun (stopped : Bool) => ?_⟩
    refine ends_now_bind fun now timed htimed _ _ => ?_
    refine ends_policy_bind fun policy known hknown hpolicy => ?_
    have hall := htimed.trans hknown
    have hawake := (tracks_of_extends hall).ready hready
    by_cases hstopped : stopped = true
    · rw [if_pos hstopped]
      exact hawake
    rw [if_neg hstopped]
    by_cases hexpired : row.terms.expiresAt ≤ now
    · rw [if_pos hexpired]
      exact hawake
    rw [if_neg hexpired]
    by_cases hrevised : row.terms.origin ≠ .manual ∧
        row.terms.policyRevision ≠ deps.revision policy
    · rw [if_pos hrevised]
      exact hawake
    rw [if_neg hrevised]
    by_cases hchanged : row.terms.overridePendingIds.getD [] ≠ overridePendingIds.getD []
    · rw [if_pos hchanged]
      exact hawake
    rw [if_neg hchanged]
    refine (ends_checkAdmission.mono (fun _ _ h => h)
      fun _ _ h => (tracks_of_extends h).ready hawake).bind fun _ admitted hadmitted => ?_
    have hadmit := (tracks_of_extends hadmitted.1).ready hawake
    have hbudget : licence.Ends admitted
        (if row.terms.origin ≠ .manual then checkBudget policy row.terms else .ret ())
        (fun _ after => Extends admitted after ∧ (row.terms.origin = .automatic →
          ∃ total now, after.knows (.rolled total now) ∧ after.knows (.time now) ∧
            row.terms.debitSats + total ≤ policy.dailyDebitSats))
        fun _ after => Ready after := by
      by_cases hmanual : row.terms.origin ≠ .manual
      · rw [if_pos hmanual]
        exact ends_checkBudget.mono (fun _ _ h => ⟨h.1, fun _ => h.2⟩)
          fun _ _ h => (tracks_of_extends h).ready hadmit
      · rw [if_neg hmanual]
        refine ⟨Extends.refl _, fun hauto => absurd ?_ hmanual⟩
        rw [hauto]
        exact nofun
    refine hbudget.bind fun _ last hlast => ?_
    have hkept := hall.trans (hadmitted.1.trans hlast.1)
    refine ends_charge ((tracks_of_extends hlast.1).ready hadmit)
      (hkept.knows _ (htaught _ (.getQuoted (Decidable.not_not.mp hstate))))
      (hkept.knows _ (htaught _ .getKnown)) (hlast.1.knows _ hadmitted.2) fun hauto => ?_
    obtain ⟨total, rolledAt, hrolled, htime, hfit⟩ := hlast.2 hauto
    exact ⟨total, rolledAt, (hadmitted.1.trans hlast.1).knows _ hpolicy, hrolled, htime, hfit⟩

/-- Only a quote that was never sent is cancelled. -/
theorem ends_cancel {id : String} (hr : Ready note) :
    licence.Ends note (cancel id) (fun _ after => Ready after) fun _ after => Ready after := by
  unfold cancel
  refine ends_read_bind (fun _ => hr) fun (stored : Option RebalanceTransfer) mid hmid htaught => ?_
  have hready := (tracks_of_extends hmid).ready hr
  cases stored with
  | none => exact hready
  | some row =>
    dsimp only
    split_ifs with hstate
    · exact hready
    · refine ends_now_bind fun now timed htimed _ _ => ?_
      have hlast := (tracks_of_extends htimed).ready hready
      have hquoted := htimed.knows _ (htaught _ (.getQuoted (Decidable.not_not.mp hstate)))
      constructor
      · exact ⟨htimed.knows _ (htaught _ .getKnown), .cancel row hquoted rfl rfl rfl rfl⟩
      · intro answer
        cases answer with
        | ok answer => exact hlast
        | error fault => exact hlast

/-- Only a policy that passed the checks is put in force. -/
theorem ends_setPolicy {value : Option Json} (hr : Ready note) :
    licence.Ends note (setPolicy deps value) (fun _ after => Ready after)
      fun _ after => Ready after := by
  unfold setPolicy
  refine ((ends_of_gives asks_orThrow).mono (fun _ _ h => h)
    fun _ _ h => (tracks_of_extends h).ready hr).bind fun next mid hmid => ?_
  have hready := (tracks_of_extends hmid.2).ready hr
  refine ends_ask_bind (fun _ => hready) fun _ => ?_
  exact ⟨validateRebalancePolicy_valid deps.parseUrl hmid.1, fun _ => hready⟩

/-! ## Following -/

/-- Transfers that ended and whose terms are those stored. -/
def Ended (note : Note) (rows : List RebalanceTransfer) : Prop :=
  ∀ row ∈ rows, note.knows (.known row.terms) ∧ note.knows (.ended row.id)

/-- Pins are cleared only of transfers that ended. -/
theorem ends_clearPins {absent : List String} {rows : List RebalanceTransfer} (hr : Ready note)
    (h : Ended note rows) :
    licence.Ends note (clearPins absent rows) (fun _ after => Ready after)
      fun _ after => Ready after := by
  induction rows generalizing note with
  | nil => exact hr
  | cons row rows ih =>
    have hrow := h row List.mem_cons_self
    have hrest : Ended note rows := fun other hm => h other (List.mem_cons_of_mem _ hm)
    unfold clearPins
    refine Discipline.ends_issue_bind.mpr ⟨trivial, fun (held : Bool) => ?_⟩
    by_cases hheld : held = false
    · rw [if_pos hheld]
      exact hr
    rw [if_neg hheld]
    by_cases habsent : row.id ∉ absent
    · rw [if_pos habsent]
      exact ih hr hrest
    rw [if_neg habsent]
    refine ends_now_bind fun now mid hmid _ _ => ?_
    have hready := (tracks_of_extends hmid).ready hr
    have hended : Ended mid rows := fun other hm =>
      ⟨hmid.knows _ (hrest other hm).1, hmid.knows _ (hrest other hm).2⟩
    have hknown := hmid.knows _ hrow.1
    have hover := hmid.knows _ hrow.2
    refine Discipline.ends_issue_bind.mpr ⟨⟨hknown, hover⟩, fun _ => ?_⟩
    refine Discipline.ends_issue_bind.mpr ⟨⟨hknown, .clear hover nofun⟩, fun answer => ?_⟩
    cases answer with
    | error fault => exact ih hready hended
    | ok answer =>
      refine Discipline.ends_issue_bind.mpr ⟨.inr (.cleared nofun), fun _ => ?_⟩
      refine Discipline.ends_issue_bind.mpr ⟨trivial, fun _ => ?_⟩
      exact ih hready fun other hm =>
        ⟨.inl ⟨.inl ⟨(hended other hm).1, trivial⟩, nofun⟩,
          .inl ⟨.inl ⟨(hended other hm).2, trivial⟩, nofun⟩⟩

/-- The pins that are looked at are those of transfers that ended. -/
theorem ends_clearTerminalPins (hr : Ready note) :
    licence.Ends note clearTerminalPins (fun _ after => Ready after)
      fun _ after => Ready after := by
  unfold clearTerminalPins
  refine Discipline.ends_issue_bind.mpr ⟨trivial, fun (pinned : List RebalanceTransfer) => ?_⟩
  have hready : Ready (licence.learn note .terminalPins pinned) := hr
  by_cases hnone : pinned = []
  · rw [if_pos hnone]
    exact hready
  rw [if_neg hnone]
  refine Discipline.ends_issue_bind.mpr ⟨trivial, fun (absent : Except String (List String)) => ?_⟩
  cases absent with
  | error fault => exact hready
  | ok absent =>
    exact ends_clearPins hready fun row hm => ⟨.inr (.known hm), .inr (.ended hm)⟩

section Follow

variable {row : RebalanceTransfer} {receiptError : Option String}

/-- A transfer whose end was written may be pinned as one that ended. -/
theorem ends_setTerminalPin (h : Follows note row) (he : row.state.isEnded = true) :
    licence.Ends (note.revise (outlives note row) (Wrote note row))
      (issue (.setTerminalPin row)) (fun _ after => Tracks note after)
      fun _ after => Tracks note after :=
  ⟨⟨.inl ⟨h.known, trivial⟩, .inr (.ended he)⟩, fun _ => tracks_wrote h⟩

/-- The destination leaves a transfer that may still be followed. -/
theorem ends_followReceipt {found : List RebalancePool} {poolError : Option String}
    (h : Follows note row) :
    licence.Ends note (followReceipt found poolError row)
      (fun followed after => Tracks note after ∧
        ∀ moved fault, followed = .pending moved fault → Follows after moved)
      fun _ after => Tracks note after := by
  have hsame : ∀ {fault : Option String} moved other,
      Followed.pending row fault = .pending moved other → Follows note moved := by
    rintro fault moved other ⟨⟩
    exact h
  unfold followReceipt
  cases found.find? fun pool => decide (pool.id = row.terms.poolId) with
  | none => exact ⟨Tracks.refl note, hsame⟩
  | some pool =>
    refine Discipline.ends_issue_bind.mpr
      ⟨trivial, fun (answer : Except String RebalanceReceipt) => ?_⟩
    cases answer with
    | error fault => exact ⟨Tracks.refl note, hsame⟩
    | ok receipt =>
      cases receipt with
      | pending => exact ⟨Tracks.refl note, hsame⟩
      | failed reason => exact ⟨Tracks.refl note, hsame⟩
      | credited creditedSats =>
        by_cases hcovers : covers row creditedSats = false
        · dsimp only
          rw [if_pos hcovers]
          exact ⟨Tracks.refl note, hsame⟩
        · dsimp only
          rw [if_neg hcovers]
          refine ends_now_bind fun now mid hmid _ _ => ?_
          have hlater := tracks_of_extends hmid
          have hdone := (h.track hlater).move { row with
            state := .completed
            creditedSats := creditedSats
            error := none
            updatedAt := now } rfl (.inl (.inr rfl)) rfl
          refine Discipline.ends_issue_bind.mpr
            ⟨⟨hdone.known, .follow hdone.unclear hdone.started⟩, fun answer => ?_⟩
          cases answer with
          | error fault =>
            refine ⟨hlater, ?_⟩
            rintro moved other ⟨⟩
            exact hdone
          | ok answer =>
            have hset := (ends_setTerminalPin hdone rfl).mono (fun _ _ ht => hlater.trans ht)
              fun _ _ ht => hlater.trans ht
            refine hset.bind fun _ after ht => ⟨ht, fun moved other hm => ?_⟩
            cases hm

/-- A source that cannot be asked leaves its fault on the row. -/
theorem ends_noteSourceError {fault : String} (h : Follows note row) :
    licence.Ends note (noteSourceError row receiptError fault)
      (fun _ after => Tracks note after) fun _ after => Tracks note after := by
  unfold noteSourceError
  refine ends_now_bind fun now mid hmid _ _ => ?_
  have hlater := tracks_of_extends hmid
  have hmoved := (h.track hlater).move { row with
    error := some (bothErrors receiptError fault)
    updatedAt := now } rfl (.inr rfl) rfl
  exact (ends_saveRow hmoved).mono (fun _ _ ht => hlater.trans ht)
    fun _ _ ht => hlater.trans ht

/-- A fault after some steps is noted down from where they left. -/
theorem ends_fault {mid : Note} {moved : RebalanceTransfer} {fault : String}
    (ht : Tracks note mid) (h : Follows mid moved) :
    licence.Ends mid (noteSourceError moved receiptError fault)
      (fun _ after => Tracks note after) fun _ after => Tracks note after :=
  (ends_noteSourceError h).mono (fun _ _ hl => ht.trans hl) fun _ _ hl => ht.trans hl

/-- A payment the source knows of is written with its txid and held. -/
theorem ends_foundPayment {txid : String} (h : Follows note row) :
    licence.Ends note (foundPayment row receiptError txid) (fun _ after => Tracks note after)
      fun _ after => Tracks note after := by
  unfold foundPayment
  by_cases hvalid : isTxid txid = false
  · rw [if_pos hvalid]
    exact ends_noteSourceError h
  rw [if_neg hvalid]
  dsimp only
  refine ends_now_bind fun now mid hmid _ _ => ?_
  have hlater := tracks_of_extends hmid
  have hfound := (h.track hlater).move { row with
    fundingTxid := some txid
    state := .pending
    error := if (truthy receiptError).isSome then row.error else none } rfl (.inl (.inl rfl)) rfl
  have hsaved := hfound.move { row with
    fundingTxid := some txid
    state := .pending
    error := if (truthy receiptError).isSome then row.error else none
    updatedAt := now } rfl (.inl (.inl rfl)) rfl
  refine (ends_paid hsaved).attempt.bind fun outcome after hend => ?_
  cases outcome with
  | ok value => exact hlater.trans (hend.1 _ rfl)
  | error fault =>
    have hafter := hend.2 _ rfl
    exact ends_fault (hlater.trans hafter) (hfound.track hafter)

/-- A payment the source gave back closes its row as refunded. -/
theorem ends_foundRefund (h : Follows note row) :
    licence.Ends note (foundRefund row receiptError) (fun _ after => Tracks note after)
      fun _ after => Tracks note after := by
  unfold foundRefund
  refine ends_now_bind fun now mid hmid _ _ => ?_
  have hlater := tracks_of_extends hmid
  have hback := (h.track hlater).move { row with
    state := .refunded
    updatedAt := now } rfl (.inl (.inr rfl)) rfl
  refine Discipline.ends_issue_bind.mpr
    ⟨⟨hback.known, .follow hback.unclear hback.started⟩, fun answer => ?_⟩
  cases answer with
  | error fault => exact ends_fault hlater hback
  | ok answer =>
    exact (ends_setTerminalPin hback rfl).mono (fun _ _ ht => hlater.trans ht)
      fun _ _ ht => hlater.trans ht

/-- A source that knows nothing new leaves the row alone, or only touches it. -/
theorem ends_foundNothing (h : Follows note row) :
    licence.Ends note (foundNothing row receiptError) (fun _ after => Tracks note after)
      fun _ after => Tracks note after := by
  unfold foundNothing
  by_cases hnone : (truthy row.error).isNone = true
  · rw [if_pos hnone]
    exact Tracks.refl note
  rw [if_neg hnone]
  refine ends_now_bind fun now mid hmid _ _ => ?_
  have hlater := tracks_of_extends hmid
  have hmoved := (h.track hlater).move { row with updatedAt := now } rfl (.inr rfl) rfl
  refine Discipline.ends_issue_bind.mpr
    ⟨⟨hmoved.known, .follow hmoved.unclear hmoved.started⟩, fun answer => ?_⟩
  cases answer with
  | error fault => exact ends_fault hlater (h.track hlater)
  | ok answer => exact hlater.trans (tracks_wrote hmoved)

/-- The source moves a transfer further along, or leaves it where it is. -/
theorem ends_reconcileRow (h : Follows note row) :
    licence.Ends note (reconcileRow row receiptError) (fun _ after => Tracks note after)
      fun _ after => Tracks note after := by
  unfold reconcileRow
  refine Discipline.ends_issue_bind.mpr ⟨trivial, fun (answer : Except String SourceReport) => ?_⟩
  cases answer with
  | error fault => exact ends_noteSourceError h
  | ok observed =>
    dsimp only
    split
    · exact ends_foundPayment h
    · exact ends_foundRefund h
    · exact ends_foundNothing h

/-- Writing down a fault of the destination follows the row as it was. -/
theorem follows_noteReceipt (h : Follows note row) :
    Follows note (noteReceipt row receiptError) := by
  unfold noteReceipt
  split
  · exact h.move _ rfl (.inr rfl) rfl
  · exact h

end Follow

/-- The open transfers are followed one after the other. -/
theorem ends_followRows {found : List RebalancePool} {poolError : Option String}
    {rows : List RebalanceTransfer} (h : ∀ row ∈ rows, Follows note row) :
    licence.Ends note (followRows found poolError rows) (fun _ after => Tracks note after)
      fun _ after => Tracks note after := by
  induction rows generalizing note with
  | nil => exact Tracks.refl note
  | cons row rows ih =>
    have hrest : ∀ {after : Note}, Tracks note after → licence.Ends after
        (followRows found poolError rows) (fun _ last => Tracks note last)
        fun _ last => Tracks note last := fun ht =>
      (ih fun other hm => (h other (List.mem_cons_of_mem _ hm)).track ht).mono
        (fun _ _ hl => ht.trans hl) fun _ _ hl => ht.trans hl
    unfold followRows
    refine (ends_followReceipt (h row List.mem_cons_self)).bind fun followed mid hmid => ?_
    cases followed with
    | credited => exact hrest hmid.1
    | pending moved receiptError =>
      refine ((ends_reconcileRow (follows_noteReceipt (hmid.2 _ _ rfl))).mono
        (fun _ _ ht => hmid.1.trans ht) fun _ _ ht => hmid.1.trans ht).bind fun _ after ht => ?_
      exact hrest ht

/-! ## Refilling -/

/-- A pool that may be refilled by so much and no more. -/
structure RefillUpTo (note : Note) (poolId : String) (bound : ℤ) : Prop where
  nonneg : 0 ≤ bound
  target : ∃ policy balance target, note.knows (.policy policy) ∧
    note.knows (.reading poolId balance) ∧ (poolId, target) ∈ policy.targets ∧
    balance + bound ≤ target.targetSats

/-- What a pool may be refilled by stays known. -/
theorem RefillUpTo.extend {after : Note} {poolId : String} {bound : ℤ}
    (h : RefillUpTo note poolId bound) (he : Extends note after) :
    RefillUpTo after poolId bound := by
  obtain ⟨policy, balance, target, hp, hr, ht, hle⟩ := h.target
  exact ⟨h.nonneg, policy, balance, target, he.knows _ hp, he.knows _ hr, ht, hle⟩

/-- Halving never asks for more. -/
theorem ends_seekQuote {poolId : String} {leastSats bound amount : ℤ} {attempts : ℕ}
    (h : RefillUpTo note poolId bound) (ha : amount ≤ bound) :
    licence.Ends note (seekQuote deps poolId leastSats attempts amount)
      (fun _ after => Extends note after) fun _ after => Extends note after := by
  induction attempts generalizing note amount with
  | zero => exact Extends.refl note
  | succ attempts ih =>
    unfold seekQuote
    by_cases hleast : amount < leastSats
    · rw [if_pos hleast]
      exact Extends.refl note
    rw [if_neg hleast]
    refine ends_ask_bind (fun _ => Extends.refl note) fun requestKey => ?_
    have hknows : KnowsTarget note (QuoteParams.mk poolId amount requestKey none none none) := by
      obtain ⟨policy, balance, target, hp, hr, ht, hle⟩ := h.target
      exact ⟨policy, balance, target, hp, hr, ht, by dsimp only; omega⟩
    refine (ends_makeQuote fun _ => hknows).attempt.bind fun outcome mid hend => ?_
    cases outcome with
    | ok quoted => exact hend.1 _ rfl
    | error fault =>
      have hmid := hend.2 _ rfl
      dsimp only
      split_ifs with hlast
      · exact hmid
      · have hhalf : max leastSats (amount / 2) ≤ bound := by
          have hbound := h.nonneg
          omega
        exact (ih (h.extend hmid) hhalf).mono (fun _ _ he => hmid.trans he)
          fun _ _ he => hmid.trans he

/-- A refill is quoted for no more than the choice allowed. -/
theorem ends_quoteRefill {policy : RebalancePolicy} {choice : RefillChoice}
    (h : RefillUpTo note choice.poolId choice.netSats) :
    licence.Ends note (quoteRefill deps policy choice)
      (fun _ after => Extends note after) fun _ after => Extends note after := by
  unfold quoteRefill
  refine ends_now_bind fun now timed htimed _ _ => ?_
  refine ends_read_bind (fun _ => htimed) fun (rolling : ℤ) mid hmid _ => ?_
  have hboth := htimed.trans hmid
  dsimp only
  split_ifs with hleast
  · exact hboth
  · refine ((ends_seekQuote (h.extend hboth) (Int.min_le_left _ _)).mono
      (fun _ _ he => hboth.trans he) fun _ _ he => hboth.trans he).bind fun quoted last hlast => ?_
    cases quoted with
    | none => exact hlast
    | some quoted => exact hlast

/-- A refill is quoted and then sent. -/
theorem ends_refill {policy : RebalancePolicy} {choice : RefillChoice} (hr : Ready note)
    (h : RefillUpTo note choice.poolId choice.netSats) :
    licence.Ends note (refill deps policy choice) (fun _ after => Ready after)
      fun _ after => Ready after := by
  unfold refill
  refine (ends_quoteRefill h).attempt.bind fun outcome mid hend => ?_
  cases outcome with
  | error fault => exact (tracks_of_extends (hend.2 _ rfl)).ready hr
  | ok quoted =>
    have hready := (tracks_of_extends (hend.1 _ rfl)).ready hr
    refine (ends_send hready).attempt.bind fun sent after hsent => ?_
    cases sent with
    | ok row => exact hsent.1 _ rfl
    | error fault =>
      refine Discipline.ends_issue_bind.mpr ⟨trivial, fun answer => ?_⟩
      have hasked : Asks (.read (.get quoted.id)) := trivial
      exact (tracks_of_extends (learn_of_asks hasked)).ready (hsent.2 _ rfl)

/-- Every balance that was read is the last one its pool was read to have. -/
theorem ends_readBalances {policy : RebalancePolicy} {found : List RebalancePool}
    {balances : String → Option ℤ} (hr : Ready note) (hp : note.knows (.policy policy))
    (h : ∀ poolId balance, balances poolId = some balance → note.knows (.reading poolId balance)) :
    licence.Ends note (readBalances balances found)
      (fun balances after => Ready after ∧ after.knows (.policy policy) ∧
        ∀ poolId balance, balances poolId = some balance →
          after.knows (.reading poolId balance))
      fun _ after => Ready after := by
  induction found generalizing note balances with
  | nil => exact ⟨hr, hp, h⟩
  | cons pool rest ih =>
    unfold readBalances
    refine Discipline.ends_issue_bind.mpr ⟨trivial, fun answer => ?_⟩
    cases answer with
    | ok read =>
      refine ih hr (.inl ⟨hp, nofun⟩) fun poolId balance hb => ?_
      by_cases hid : poolId = pool.id
      · rw [hid] at hb ⊢
        rw [put, Function.update_self] at hb
        cases hb
        exact .inr rfl
      · rw [put, Function.update_of_ne hid] at hb
        refine .inl ⟨h poolId balance hb, fun other heq => ?_⟩
        cases heq
        exact hid rfl
    | error fault =>
      refine ih hr (.inl ⟨hp, nofun⟩) fun poolId balance hb => ?_
      by_cases hid : poolId = pool.id
      · rw [hid, put, Function.update_self] at hb
        cases hb
      · rw [put, Function.update_of_ne hid] at hb
        refine .inl ⟨h poolId balance hb, fun other heq => ?_⟩
        cases heq
        exact hid rfl

/-- The choice is made from the balances that were read under the policy in force. -/
theorem ends_refillBelow {policy : RebalancePolicy} {found : List RebalancePool}
    (hr : Ready note) (hp : note.knows (.policy policy)) :
    licence.Ends note (refillBelow deps policy found) (fun _ after => Ready after)
      fun _ after => Ready after := by
  unfold refillBelow
  have hblank : ∀ poolId balance, (fun _ => none : String → Option ℤ) poolId = some balance →
      note.knows (.reading poolId balance) := by
    intro poolId balance hb
    cases hb
  refine (ends_readBalances hr hp hblank).bind ?_
  rintro balances mid ⟨hready, hpolicy, hreadings⟩
  refine ends_now_bind fun now timed htimed htime _ => ?_
  have hawake := (tracks_of_extends htimed).ready hready
  refine ends_read_bind (fun _ => hawake) fun (latest : ℤ) known hknown htaught => ?_
  have hboth := htimed.trans hknown
  cases hchoice : selectRebalanceTarget policy balances (fun _ => none) now latest with
  | none => exact (tracks_of_extends hknown).ready hawake
  | some choice =>
    obtain ⟨-, -, hcool, target, balance, ht, hb, hlow, hle, hpos⟩ :=
      selectRebalanceTarget_some hchoice
    refine ends_now_bind fun attemptAt last hlast _ horder => ?_
    have hall := hboth.trans hlast
    have hready := (tracks_of_extends hall).ready hready
    have hattempt : licence.Ends last ((issue (.recordAttempt attemptAt)).bind orThrow)
        (fun _ after => Ready after ∧ RefillUpTo after choice.poolId choice.netSats)
        fun _ after => Ready after := by
      constructor
      · exact ⟨policy, latest, now, hall.knows _ hpolicy, hlast.knows _ (htaught _ .attempted),
          horder _ (hknown.knows _ htime), hcool⟩
      · intro answer
        cases answer with
        | error fault => exact hready
        | ok answer =>
          exact ⟨hready, Int.le_of_lt hpos, policy, balance, target,
            .inl ⟨hall.knows _ hpolicy, nofun⟩,
            .inl ⟨hall.knows _ (hreadings _ _ hb), nofun⟩, ht, hle⟩
    exact hattempt.bind fun _ after ha => ends_refill ha.1 ha.2

/-- Whether there is anything to do is only asked. -/
theorem asks_nothingToDo {policy : RebalancePolicy} :
    Discipline.Gives Asks (fun _ => True) (nothingToDo deps policy) := by
  unfold nothingToDo
  split_ifs
  · trivial
  · exact (asks_read _).bind fun rows _ => trivial

/-- Maintenance is the backend's own affair. -/
theorem asks_maintained : Discipline.Gives Asks (fun _ => True) (maintained deps) := by
  unfold maintained
  split_ifs
  · exact (Discipline.gives_issue trivial).bind fun _ _ => trivial
  · trivial

/-- A refill starts only where nothing is open. -/
theorem ends_tickRefill {found : List RebalancePool} {poolError : Option String}
    (hr : Ready note) :
    licence.Ends note (tickRefill deps found poolError) (fun _ after => Ready after)
      fun _ after => Ready after := by
  unfold tickRefill
  refine ends_policy_bind fun policy known hknown hpolicy => ?_
  have hready := (tracks_of_extends hknown).ready hr
  refine ((ends_of_gives asks_maintained).mono (fun _ _ h => h.2)
    fun _ _ h => (tracks_of_extends h).ready hready).bind fun goesOn mid hmid => ?_
  have hmaintained := (tracks_of_extends hmid).ready hready
  split_ifs with hstops
  · exact hmaintained
  · refine ends_read_bind (fun _ => hmaintained) fun (rows : List RebalanceTransfer) last hlast
      _ => ?_
    have hlater := (tracks_of_extends hlast).ready hmaintained
    split_ifs with hactive
    · exact hlater
    · exact ends_refillBelow hlater (hlast.knows _ (hmid.knows _ hpolicy))

/-- A tick follows what is open, and then may refill. -/
theorem ends_tick (hr : Ready note) :
    licence.Ends note (tick deps) (fun _ after => Ready after) fun _ after => Ready after := by
  unfold tick
  refine Discipline.ends_issue_bind.mpr ⟨trivial, fun (stopped : Bool) => ?_⟩
  by_cases hstopped : stopped = true
  · rw [if_pos hstopped]
    exact hr
  rw [if_neg hstopped]
  refine (ends_clearTerminalPins hr).bind fun _ first hfirst => ?_
  refine ends_policy_bind fun policy known hknown _ => ?_
  have hready := (tracks_of_extends hknown).ready hfirst
  refine ((ends_of_gives asks_nothingToDo).mono (fun _ _ h => h.2)
    fun _ _ h => (tracks_of_extends h).ready hready).bind fun idle mid hmid => ?_
  have hidle := (tracks_of_extends hmid).ready hready
  by_cases hstop : idle = true
  · rw [if_pos hstop]
    exact hidle
  rw [if_neg hstop]
  refine ((ends_of_gives asks_pools.attempt).mono (fun _ _ h => h.2)
    fun _ _ h => (tracks_of_extends h).ready hidle).bind fun outcome pooled hpooled => ?_
  have hpools := (tracks_of_extends hpooled).ready hidle
  refine ends_read_bind (fun _ => hpools) fun (rows : List RebalanceTransfer) listed hlisted
    htaught => ?_
  have hlist := (tracks_of_extends hlisted).ready hpools
  dsimp only
  refine ((ends_followRows fun row hm => ⟨htaught _ (.activeKnown hm),
    htaught _ (.activeUnclear hm), .inr (htaught _ (.activeStarted hm))⟩).mono
      (fun _ _ h => h.ready hlist) fun _ _ h => h.ready hlist).bind fun _ _ hfollowed => ?_
  exact (ends_clearTerminalPins hfollowed).bind fun _ _ hlast => ends_tickRefill hlast

/-- However a job ends, nothing is owed. -/
theorem ends_program (job : RebalanceJob) :
    licence.Ends Note.fresh (program deps job) (fun _ => Settled) fun _ => Settled := by
  have hr : Ready Note.fresh := ⟨rfl, rfl⟩
  cases job with
  | quote params =>
    have hquote : licence.Ends Note.fresh (makeQuote deps params .manual)
        (fun _ after => Extends Note.fresh after) fun _ after => Extends Note.fresh after :=
      ends_makeQuote nofun
    exact (hquote.mono (fun _ _ h => ((tracks_of_extends h).ready hr).settled)
      fun _ _ h => ((tracks_of_extends h).ready hr).settled).bind fun _ _ h => h
  | submit id overridePendingIds =>
    exact ((ends_send hr).mono (fun _ _ h => h.settled) fun _ _ h => h.settled).bind
      fun _ _ h => h
  | cancel id =>
    exact ((ends_cancel hr).mono (fun _ _ h => h.settled) fun _ _ h => h.settled).bind
      fun _ _ h => h
  | setPolicy value =>
    exact (ends_setPolicy hr).mono (fun _ _ h => h.settled) fun _ _ h => h.settled
  | tick => exact (ends_tick hr).mono (fun _ _ h => h.settled) fun _ _ h => h.settled

/-! ## Starting over -/

/-- What a start keeps of its notes. -/
structure Restores (note after : Note) : Prop extends Tracks note after where
  held : ∀ id, note.knows (.held id) → after.knows (.held id)
  actives : ∀ ids, note.knows (.actives ids) → after.knows (.actives ids)

/-- One stretch of a start after another. -/
theorem Restores.trans {mid after : Note} (h : Restores note mid) (h' : Restores mid after) :
    Restores note after :=
  ⟨h.toTracks.trans h'.toTracks, fun _ hk => h'.held _ (h.held _ hk),
    fun _ hk => h'.actives _ (h.actives _ hk)⟩

/-- Notes that only grew have lost no hold. -/
theorem restores_of_extends {after : Note} (h : Extends note after) : Restores note after :=
  ⟨tracks_of_extends h, fun _ => h.knows _, fun _ => h.knows _⟩

/-- Each open transfer is held again, one that may have been sent as one to reconcile. -/
theorem ends_restoreRow {policy : RebalancePolicy} {row : RebalanceTransfer}
    (hc : note.carry = none) (h : Follows note row) :
    licence.Ends note (restoreRow policy row)
      (fun _ after => Restores note after ∧ after.knows (.held row.id)) fun _ _ => True := by
  unfold restoreRow
  dsimp only
  have hsave : licence.Ends note
      (if row.state = .submitting then saveRow (if row.state = .submitting then { row with
          state := .needsReconciliation
          error := some "Process stopped during submission; reconcile before any new spend." }
        else row) else .ret ())
      (fun _ after => Restores note after) fun _ _ => True := by
    by_cases hs : row.state = .submitting
    · rw [if_pos hs, if_pos hs]
      have hmoved := h.move { row with
        state := .needsReconciliation
        error := some "Process stopped during submission; reconcile before any new spend." }
        rfl (.inl (.inl rfl)) rfl
      refine ⟨⟨hmoved.known, .follow hmoved.unclear hmoved.started⟩, fun answer => ?_⟩
      cases answer with
      | error fault => trivial
      | ok answer =>
        exact ⟨tracks_wrote hmoved, fun _ hk => .inl ⟨hk, trivial⟩,
          fun _ hk => .inl ⟨hk, nofun⟩⟩
    · rw [if_neg hs]
      exact restores_of_extends (Extends.refl note)
  refine hsave.bind fun _ mid hmid => ?_
  have hid : (if row.state = .submitting then { row with
      state := .needsReconciliation
      error := some "Process stopped during submission; reconcile before any new spend." }
    else row).id = row.id := by
    split_ifs <;> rfl
  rw [← hid]
  generalize (if row.state = .submitting then { row with
      state := .needsReconciliation
      error := some "Process stopped during submission; reconcile before any new spend." }
    else row) = restored
  by_cases hpaid : (truthy restored.fundingTxid).isSome = true
  · rw [if_pos hpaid]
    refine ⟨trivial, fun answer => ?_⟩
    cases answer with
    | error fault => trivial
    | ok answer => exact ⟨hmid.trans (restores_of_extends extends_revise), .inr rfl⟩
  · rw [if_neg hpaid]
    refine ⟨hmid.carry.trans hc, fun answer => ?_⟩
    cases answer with
    | error fault => trivial
    | ok answer =>
      refine ⟨rfl, fun _ => ⟨hmid.trans ?_, .inr rfl⟩⟩
      exact ⟨⟨rfl, (hmid.carry.trans hc).symm, fun _ hk => .inl ⟨hk, trivial⟩,
        fun _ _ hk => .inl ⟨hk, trivial⟩, fun _ hk => .inl ⟨hk, trivial⟩⟩,
        fun _ hk => .inl ⟨hk, trivial⟩, fun _ hk => .inl ⟨hk, trivial⟩⟩

/-- A start holds the inputs of every transfer that is open. -/
theorem ends_restoreRows {policy : RebalancePolicy} {rows : List RebalanceTransfer}
    (hc : note.carry = none) (h : ∀ row ∈ rows, Follows note row) :
    licence.Ends note (restoreRows policy rows)
      (fun _ after => Restores note after ∧ ∀ row ∈ rows, after.knows (.held row.id))
      fun _ _ => True := by
  induction rows generalizing note with
  | nil =>
    exact ⟨restores_of_extends (Extends.refl note), fun _ hm => absurd hm List.not_mem_nil⟩
  | cons row rows ih =>
    unfold restoreRows
    refine (ends_restoreRow hc (h row List.mem_cons_self)).bind fun _ mid hmid => ?_
    refine (ih (hmid.1.carry.trans hc) fun other hm =>
      (h other (List.mem_cons_of_mem _ hm)).track hmid.1.toTracks).mono ?_ fun _ _ ht => ht
    intro _ after hafter
    refine ⟨hmid.1.trans hafter.1, fun other hm => ?_⟩
    obtain rfl | hm := List.mem_cons.mp hm
    · exact hafter.1.held _ hmid.2
    · exact hafter.2 other hm

/-- So is each that ended with its inputs still there. -/
theorem ends_restorePins {rows : List RebalanceTransfer} (h : Ended note rows) :
    licence.Ends note (restorePins rows)
      (fun _ after => Extends note after ∧ ∀ row ∈ rows, after.knows (.held row.id))
      fun _ _ => True := by
  induction rows generalizing note with
  | nil => exact ⟨Extends.refl note, fun _ hm => absurd hm List.not_mem_nil⟩
  | cons row rows ih =>
    have hrow := h row List.mem_cons_self
    have hmore : Extends note (note.revise (fun _ => True) (· = .held row.id)) := extends_revise
    unfold restorePins
    refine ends_holdPending_bind (fun _ => trivial) ?_
    refine Discipline.ends_issue_bind.mpr
      ⟨⟨hmore.knows _ hrow.1, hmore.knows _ hrow.2⟩, fun _ => ?_⟩
    refine (ih fun other hm => ?_).mono ?_ fun _ _ ht => ht
    · have hother := h other (List.mem_cons_of_mem _ hm)
      exact ⟨hmore.knows _ hother.1, hmore.knows _ hother.2⟩
    · intro _ after hafter
      refine ⟨hmore.trans hafter.1, fun other hm => ?_⟩
      obtain rfl | hm := List.mem_cons.mp hm
      · exact hafter.1.knows _ (.inr rfl)
      · exact hafter.2 other hm

/-- A process that serves holds every pin that is needed. -/
theorem ends_create (configured : Option Json) :
    licence.Ends Note.booting (create deps configured) (fun _ => Settled) fun _ _ => True := by
  unfold create
  refine ((ends_of_gives asks_orThrow).mono (fun _ _ h => h)
    fun _ _ _ => trivial).bind fun policy first hfirst => ?_
  refine Discipline.ends_issue_bind.mpr
    ⟨validateRebalancePolicy_valid deps.parseUrl hfirst.1, fun _ => ?_⟩
  have hcarry : (licence.learn first (.setPolicy policy) ()).carry = none := hfirst.2.carry
  refine ends_read_bind (fun _ => trivial) fun (rows : List RebalanceTransfer) listed hlisted
    htaught => ?_
  refine (ends_restoreRows (hlisted.carry.trans hcarry) fun row hm =>
    ⟨htaught _ (.activeKnown hm), htaught _ (.activeUnclear hm),
      .inr (htaught _ (.activeStarted hm))⟩).bind fun _ restored hrestored => ?_
  refine ends_read_bind (fun _ => trivial) fun (pinned : List RebalanceTransfer) known hknown
    htold => ?_
  refine (ends_restorePins fun row hm =>
    ⟨htold _ (.protectedKnown hm), htold _ (.protectedEnded hm)⟩).mono ?_ fun _ _ ht => ht
  intro _ last hlast
  have hcarried : last.carry = none := by
    rw [hlast.1.carry, hknown.carry, hrestored.1.carry, hlisted.carry, hcarry]
  refine ⟨hcarried, .inr ⟨_, _, hlast.1.knows _ (hknown.knows _
    (hrestored.1.actives _ (htaught _ .actives))), hlast.1.knows _ (htold _ .protecteds), ?_⟩⟩
  intro id hm
  obtain hm | hm := List.mem_append.mp hm
  · obtain ⟨row, hrow, rfl⟩ := List.mem_map.mp hm
    exact hlast.1.knows _ (hknown.knows _ (hrestored.2 row hrow))
  · obtain ⟨row, hrow, rfl⟩ := List.mem_map.mp hm
    exact hlast.2 row hrow

end IntentSolver.RebalanceJobs
