import IntentSolver.CoupledWorkers
import IntentSolver.LightningReceiveLease

/-!
# A coupled self-payment never pays both sides

The receive leg pays the client against the client's own send lockup, and the
send leg collects that lockup with the preimage the client reveals. Neither
store can see the other's writes in time, so safety rests on facts that never
turn back: a receive row that took an HTLC keeps its deadline, one refused
without a fund lease is never leased again, and a lease under which something
was submitted stays. As long as no worker takes the lease in coupled mode on a
row that took an HTLC, a submitted payout therefore finds its send row where it
can still be collected.
-/

namespace IntentSolver.CoupledSelfPayment

open SwapStore SwapTimelocks ArkadeLockup WorkerProgram WorkerInterleaving LightningPort
open LightningSendStore LightningReceiveStore CoupledQuote CoupledPair CoupledWorkers
open LightningSend (SendOp)
open LightningSendWorld (SendWorld SendReply SendMove SendJob)
open LightningReceive (ReceiveOp)
open LightningReceiveFunding (ReceiveWorld ReceiveReply ReceiveMove ReceiveJob HeldOutput)
open LightningReceiveLease (LeaseNote leaseDiscipline Funding claimFundLease_row row_of_perform
  row_of_stir edge_ne_quoted)

/-! ## The receive row -/

/-- No coupled payout can follow: the row was refused without a lease, or it
took a real HTLC. -/
def Dead (row : ReceiveSwapRow) : Prop :=
  (row.state = .refused ∧ row.fundStartedAt = none) ∨ row.htlcExpiresAt ≠ none

/-- What one action or move can do to the receive row. -/
structure Evolves (before after : ReceiveSwapRow) : Prop where
  quote : after.toReceiveQuoteRecord = before.toReceiveQuoteRecord
  /-- Only a quoted row is told whether it took an HTLC. -/
  htlc : before.state ≠ .quoted → after.htlcExpiresAt = before.htlcExpiresAt
  opened : before.state ≠ .quoted → after.state ≠ .quoted
  unarmed : after.state = .quoted → after.htlcExpiresAt = before.htlcExpiresAt
  refused : before.state = .refused → after.state = .refused ∧
    (before.fundStartedAt = none → after.fundStartedAt = none)

/-- A row that has not changed has evolved. -/
theorem Evolves.refl (row : ReceiveSwapRow) : Evolves row row :=
  ⟨rfl, fun _ => rfl, fun h => h, fun _ => rfl, fun h => ⟨h, fun hf => hf⟩⟩

/-- A dead row stays dead. -/
theorem Dead.evolves {before after : ReceiveSwapRow} (h : Dead before) (he : Evolves before after)
    (hu : before.state = .quoted → before.htlcExpiresAt = none) : Dead after := by
  rcases h with ⟨hr, hf⟩ | hh
  · obtain ⟨hs, hl⟩ := he.refused hr
    exact .inl ⟨hs, hl hf⟩
  · have hq : before.state ≠ .quoted := fun hq => hh (hu hq)
    rw [← he.htlc hq] at hh
    exact .inr hh

/-- No column carries part of the quote. -/
theorem quote_assign (column : ReceiveColumn) (row : ReceiveSwapRow) :
    (receiveShape.assign column row).toReceiveQuoteRecord = row.toReceiveQuoteRecord := by
  cases column <;> rfl

/-- Only its own column writes the HTLC deadline. -/
theorem htlc_assign {column : ReceiveColumn} (h : marksHtlc column = false) (row : ReceiveSwapRow) :
    (receiveShape.assign column row).htlcExpiresAt = row.htlcExpiresAt := by
  cases column <;> first | rfl | cases h

variable {receive next : ReceiveWorld} {op : ReceiveOp}

/-- What a licensed action of a receive worker does to its row. -/
theorem evolves_of_perform {leases : ℕ → LeaseNote} {mode : ModeNote} {worker : ℕ}
    {reply : ReceiveReply} {answer : op.Ans} (hf : Funding receive leases)
    (hl : LightningReceiveLease.may (leases worker) op) (hm : modeMay mode op)
    (hp : LightningReceiveFunding.perform worker op reply receive = some (answer, next)) :
    Evolves receive.row next.row := by
  rcases row_of_perform hp with he | ⟨source, target, columns, rfl, hu⟩ | ⟨columns, rfl, he⟩ |
    ⟨source, rfl, hw⟩ | ⟨rfl, he⟩
  · rw [he]
    exact Evolves.refl _
  · obtain ⟨hs, -, ht⟩ := updateWhere_state receiveShape hu
    have hedge : next.row.state ≠ .quoted := by
      have hne := edge_ne_quoted hl.1
      rw [← ht] at hne
      exact hne
    refine ⟨?_, fun hq => ?_, fun _ => hedge, fun hq => absurd hq hedge, fun hr => ?_⟩
    · exact updateWhere_frame receiveShape ReceiveSwapRow.toReceiveQuoteRecord (fun _ _ _ => rfl)
        (fun column _ => quote_assign column) hu
    · have hc : source ≠ .quoted := fun hc => hq (hs.trans hc)
      exact updateWhere_frame receiveShape ReceiveSwapRow.htlcExpiresAt (fun _ _ _ => rfl)
        (fun column hmem => htlc_assign (hm hc column hmem)) hu
    · obtain rfl : source = .refused := hs.symm.trans hr
      exact absurd hl.1 (by simp [LnReceiveMachine])
  · have hs : next.row.state = receive.row.state := by
      rw [he]
      exact state_patchRow receiveShape receive.clock columns receive.row
    have hh : next.row.htlcExpiresAt = receive.row.htlcExpiresAt := by
      rw [he]
      exact patchRow_frame receiveShape ReceiveSwapRow.htlcExpiresAt (fun _ _ => rfl)
        (fun column hmem => htlc_assign (hm column hmem)) receive.row
    have hlease : next.row.fundStartedAt = receive.row.fundStartedAt := by
      rw [he]
      exact congrArg (fun t => t.2.1) (LightningReceiveLease.terms_patchRow hl receive.row)
    refine ⟨?_, fun _ => hh, fun hq => ?_, fun _ => hh, fun hr => ⟨hs.trans hr, fun hn => ?_⟩⟩
    · rw [he]
      exact patchRow_frame receiveShape ReceiveSwapRow.toReceiveQuoteRecord (fun _ _ => rfl)
        (fun column _ => quote_assign column) receive.row
    · rw [hs]
      exact hq
    · rw [hlease]
      exact hn
  · cases hl
    obtain ⟨hs, -, he⟩ := claimFundLease_row hw hf.dated
    rw [he]
    refine ⟨rfl, fun _ => rfl, fun hq => hq, fun _ => rfl, fun hr => ?_⟩
    exact absurd (hs.symm.trans hr) (by decide)
  · rw [he]
    exact ⟨rfl, fun _ => rfl, fun hq => hq, fun _ => rfl, fun hr => ⟨hr, fun _ => rfl⟩⟩

/-- What a move of the environment does to the receive row. -/
theorem evolves_of_stir {move : ReceiveMove}
    (hs : LightningReceiveFunding.stir move receive = some next) :
    Evolves receive.row next.row := by
  rcases row_of_stir hs with he | ⟨target, hin, hedge, he⟩
  · rw [he]
    exact Evolves.refl _
  · have hne := edge_ne_quoted hedge
    rw [he]
    refine ⟨rfl, fun _ => rfl, fun _ => hne, fun _ => rfl, fun hr => ?_⟩
    rw [hr] at hin
    simp at hin

/-! ## The send row -/

/-- What a quote fixes about the send row for good. -/
def fixed (row : SendSwapRow) : QuoteRecord × ℤ := (row.toQuoteRecord, row.createdAt)

/-- No column of a write is fixed by the quote. -/
theorem fixed_assign (column : SendColumn) (row : SendSwapRow) :
    fixed (sendShape.assign column row) = fixed row := by
  cases column <;> rfl

/-- What one action can do to the send row: nothing the quote fixed, and its
state only by a won UPDATE. -/
theorem send_of_perform {send after : SendWorld} {op : SendOp} {worker : ℕ} {reply : SendReply}
    {answer : op.Ans}
    (hp : LightningSendWorld.perform worker op reply send = some (answer, after)) :
    fixed after.row = fixed send.row ∧ (after.row.state = send.row.state ∨
      ∃ source target columns, op = .update source target columns ∧
        send.row.state = source ∧ after.row.state = target) := by
  have hsame : after.row = send.row → fixed after.row = fixed send.row ∧
      (after.row.state = send.row.state ∨ ∃ source target columns,
        op = .update source target columns ∧ send.row.state = source ∧
        after.row.state = target) := by
    intro he
    rw [he]
    exact ⟨rfl, .inl rfl⟩
  cases op with
  | update source target columns =>
    simp only [LightningSendWorld.perform] at hp
    split at hp
    · next row hu =>
      cases hp
      obtain ⟨hs, -, ht⟩ := updateWhere_state sendShape hu
      have hf : fixed row = fixed send.row :=
        updateWhere_frame sendShape fixed (fun _ _ _ => rfl)
          (fun column _ => fixed_assign column) hu
      have hrow : ((send.write worker row).commit worker source target).row = row := by
        unfold SendWorld.commit
        split
        · rfl
        · split <;> rfl
      rw [hrow]
      exact ⟨hf, .inr ⟨source, target, columns, rfl, hs, ht⟩⟩
    · cases hp
      exact hsame rfl
  | patch columns =>
    simp only [LightningSendWorld.perform] at hp
    split at hp
    · cases hp
      exact hsame rfl
    · cases hp
      refine ⟨?_, .inl ?_⟩
      · exact patchRow_frame sendShape fixed (fun _ _ => rfl) (fun column _ => fixed_assign column)
          send.row
      · exact state_patchRow sendShape send.clock columns send.row
  | backfillExternal =>
    cases hp
    change fixed (backfillExternal send.row) = _ ∧ ((backfillExternal send.row).state = _ ∨ _)
    unfold backfillExternal
    split
    · exact ⟨rfl, .inl rfl⟩
    · exact ⟨rfl, .inl rfl⟩
  | backfillPushed =>
    cases hp
    change fixed (backfillPushed send.row) = _ ∧ ((backfillPushed send.row).state = _ ∨ _)
    unfold backfillPushed
    split
    · exact ⟨rfl, .inl rfl⟩
    · exact ⟨rfl, .inl rfl⟩
  | read question =>
    cases hp
    refine hsame ?_
    cases question <;> simp only [SendWorld.see] <;> split <;> rfl
  | refund outputs =>
    simp only [LightningSendWorld.perform] at hp
    split at hp
    · cases hp
      exact hsame rfl
    · cases hp
      exact hsame (by split <;> rfl)
  | claim outputs =>
    simp only [LightningSendWorld.perform] at hp
    split at hp
    · cases hp
      exact hsame rfl
    · cases hp
      exact hsame (by split <;> rfl)
  | getSendHtlcState =>
    simp only [LightningSendWorld.perform] at hp
    split at hp
    · split at hp <;> cases hp <;> exact hsame rfl
    · cases hp
  | finalizePendingClaim =>
    simp only [LightningSendWorld.perform] at hp
    split at hp <;> cases hp <;> exact hsame rfl
  | findClaimPreimage outpoint =>
    simp only [LightningSendWorld.perform] at hp
    split at hp <;> cases hp <;> exact hsame rfl
  | claimUnrolled lockup record =>
    simp only [LightningSendWorld.perform] at hp
    split at hp <;> cases hp <;> exact hsame rfl
  | getPayment paymentId =>
    simp only [LightningSendWorld.perform] at hp
    split at hp <;> cases hp
    exact hsame rfl
  | payResult =>
    simp only [LightningSendWorld.perform] at hp
    split at hp <;> cases hp
    exact hsame rfl
  | get => cases hp; exact hsame rfl
  | findRefundable now => cases hp; exact hsame rfl
  | now => cases hp; exact hsame rfl
  | boundedInputs outputs => cases hp; exact hsame rfl
  | payInvoice params => cases hp; exact hsame rfl

/-- No edge leads back from beyond `funded`. -/
theorem beyond_edge {source target : SendSwapState} (hs : beyond source = true)
    (h : target ∈ (LnSendMachine source).edges) : beyond target = true := by
  cases source <;> simp [beyond, LnSendMachine] at hs h ⊢ <;>
    rcases h with rfl | rfl | rfl <;> decide

/-- Only a quoted row is funded. -/
theorem edge_funded {source : SendSwapState} (h : .funded ∈ (LnSendMachine source).edges) :
    source = .quoted := by
  cases source <;> simp [LnSendMachine] at h ⊢

/-! ## The invariant -/

/-- The notes and licences of the workers of a pair. -/
def pairDiscipline (config : PairConfig) : Discipline (pairMachine config).Ans :=
  (sendDiscipline config).sum (leaseDiscipline.prod modeDiscipline)

/-- What a worker of either corridor has learnt. -/
abbrev PairNote : Type := SendNote × LeaseNote × ModeNote

variable {config : PairConfig} {world : PairWorld}

/-- What one worker's notes promise about the pair. -/
structure Knows (world : PairWorld) (worker : ℕ) (note : PairNote) : Prop where
  /-- The terms of the send quote never change. -/
  read : ∀ row, note.1.row = some row →
    ∃ side, world.send = some side ∧ fixed row = fixed side.world.row
  looked : ∀ look, note.1.looked = some look → look ∈ world.looks
  gone : note.1.gone = true → world.receive.row.state = .refused
  dead : note.1.dead = true → Dead world.receive.row
  past : note.1.past = true →
    ∃ side, world.send = some side ∧ beyond side.world.row.state = true
  /-- Nor do those of the receive quote. -/
  quote : ∀ row, note.2.2.row = some row →
    row.toReceiveQuoteRecord = world.receive.row.toReceiveQuoteRecord
  mode : ∀ mode, note.2.2.mode = some mode → world.mode worker = mode
  /-- A send row that was found funded had been looked at in full. -/
  found : ∀ coupled, note.2.2.mode = some (some coupled) →
    world.send ≠ none ∧ (coupled.state = .funded →
      coupled.amountSats ∈ world.looks ∨ Dead world.receive.row)
  /-- The lease was won on an armed row, in coupled mode on one without an HTLC. -/
  holder : note.2.2.claimed = true → world.receive.row.state ≠ .quoted ∧
    ∀ coupled, note.2.2.mode = some (some coupled) → world.receive.row.htlcExpiresAt = none

/-- What every step of the pair keeps. -/
structure Grows (world next : PairWorld) : Prop where
  receive : Evolves world.receive.row next.receive.row
  dead : Dead world.receive.row → Dead next.receive.row
  looks : ∀ look ∈ world.looks, look ∈ next.looks
  send : ∀ side, world.send = some side → ∃ after, next.send = some after ∧
    after.reads = side.reads ∧ fixed after.world.row = fixed side.world.row ∧
    (beyond side.world.row.state = true → beyond after.world.row.state = true)

/-- A worker's notes survive what others do, and what they say of its mode. -/
theorem Knows.grow {next : PairWorld} {worker : ℕ} {note : PairNote} (h : Knows world worker note)
    (hg : Grows world next) (hm : ∀ mode, note.2.2.mode = some mode → next.mode worker = mode) :
    Knows next worker note where
  read row hr := by
    obtain ⟨side, hs, hf⟩ := h.read row hr
    obtain ⟨after, ha, -, hfixed, -⟩ := hg.send side hs
    exact ⟨after, ha, hf.trans hfixed.symm⟩
  looked look hl := hg.looks look (h.looked look hl)
  gone hn := (hg.receive.refused (h.gone hn)).1
  dead hn := hg.dead (h.dead hn)
  past hn := by
    obtain ⟨side, hs, hb⟩ := h.past hn
    obtain ⟨after, ha, -, -, hbeyond⟩ := hg.send side hs
    exact ⟨after, ha, hbeyond hb⟩
  quote row hr := (h.quote row hr).trans hg.receive.quote.symm
  mode := hm
  found coupled hn := by
    obtain ⟨hs, hf⟩ := h.found coupled hn
    obtain ⟨side, hside⟩ := Option.ne_none_iff_exists'.mp hs
    obtain ⟨after, ha, -⟩ := hg.send side hside
    refine ⟨by simp [ha], fun hfunded => ?_⟩
    rcases hf hfunded with hlook | hdead
    · exact .inl (hg.looks _ hlook)
    · exact .inr (hg.dead hdead)
  holder hn := by
    obtain ⟨hq, hh⟩ := h.holder hn
    refine ⟨hg.receive.opened hq, fun coupled hmode => ?_⟩
    rw [hg.receive.htlc hq]
    exact hh coupled hmode

/-- A worker that starts over knows nothing. -/
theorem knows_fresh (world : PairWorld) (worker : ℕ) :
    Knows world worker (pairDiscipline config).fresh where
  read row hr := by cases hr
  looked look hl := by cases hl
  gone hn := by cases hn
  dead hn := by cases hn
  past hn := by cases hn
  quote row hr := by cases hr
  mode mode hn := by cases hn
  found coupled hn := by cases hn
  holder hn := by cases hn

/-- What holds of both rows, the history and all workers' notes. -/
structure Joint (config : PairConfig) (world : PairWorld) (notes : ℕ → PairNote) : Prop where
  funding : Funding world.receive fun worker => (notes worker).2.1
  knows : ∀ worker, Knows world worker (notes worker)
  unarmed : world.receive.row.state = .quoted → world.receive.row.htlcExpiresAt = none
  /-- The send row is the one its coupled quote inserted. -/
  coupled : ∀ side, world.send = some side →
    Coupled config.quote world.receive.row.toReceiveQuoteRecord side.reads
      side.world.row.toQuoteRecord ∧ side.reads.quotedAt ≤ side.world.row.createdAt
  /-- A funded send row was looked at in full. -/
  funded : ∀ side, world.send = some side → side.world.row.state = .funded →
    side.world.row.amountSats ∈ world.looks ∨ Dead world.receive.row
  /-- The send row leaves `funded` for anything else only beside a dead receive row. -/
  left : ∀ target ∈ world.left, target = .claiming ∨ Dead world.receive.row
  paid : world.payouts ≠ [] → world.receive.submitted ≠ [] ∧
    world.receive.row.htlcExpiresAt = none ∧ world.send ≠ none
  covered : ∀ payout ∈ world.payouts, ∃ look ∈ payout.looks, payout.sats ≤ look

variable {notes : ℕ → PairNote}

/-- A submitted payout keeps its receive row alive. -/
theorem Joint.alive (h : Joint config world notes) (hp : world.payouts ≠ []) :
    ¬ Dead world.receive.row := by
  obtain ⟨hs, hh, -⟩ := h.paid hp
  rintro (⟨-, hf⟩ | hn)
  · exact h.funding.leased hs hf
  · exact hn hh

/-- Every send row of the pair passes the key and ladder checks of its workers. -/
theorem Joint.sound (h : Joint config world notes) {side : SendSide} (hs : world.send = some side) :
    sound config side.world.row = true := by
  obtain ⟨hc, ht⟩ := h.coupled side hs
  obtain ⟨deadline, -, hq, -, hcovers, -⟩ := hc.deadline
  have hlater : refundWithoutReceiverDelayCovers side.world.row.refundWithoutReceiverDelay deadline
      side.world.row.createdAt = true := by
    rw [UnilateralLadder.covers_iff] at hcovers ⊢
    omega
  simp [CoupledWorkers.sound, hc.receiverPubkey, hq, hlater]

/-! ## Actions of send workers -/

/-- Replacing one worker's notes, when everybody else's survive. -/
theorem knows_update {next : PairWorld} {worker : ℕ} {note : PairNote}
    (h : ∀ other, other ≠ worker → Knows next other (notes other)) (hw : Knows next worker note)
    (other : ℕ) : Knows next other (Function.update notes worker note other) := by
  by_cases ho : other = worker
  · subst ho
    rw [Function.update_self]
    exact hw
  · rw [Function.update_of_ne ho]
    exact h other ho

/-- The lease notes of all workers when one worker's notes are replaced. -/
theorem leases_update (worker : ℕ) (note : PairNote) :
    (fun other => (Function.update notes worker note other).2.1) =
      Function.update (fun other => (notes other).2.1) worker note.2.1 := by
  funext other
  by_cases ho : other = worker
  · subst ho
    rw [Function.update_self, Function.update_self]
  · rw [Function.update_of_ne ho, Function.update_of_ne ho]

/-- New notes of a send worker beside its old ones. -/
theorem Knows.learnSend {worker : ℕ} {note : PairNote} (h : Knows world worker note)
    {send : SendNote}
    (hread : ∀ row, send.row = some row →
      ∃ side, world.send = some side ∧ fixed row = fixed side.world.row)
    (hlooked : ∀ look, send.looked = some look → look ∈ world.looks)
    (hgone : send.gone = true → world.receive.row.state = .refused)
    (hdead : send.dead = true → Dead world.receive.row)
    (hpast : send.past = true →
      ∃ side, world.send = some side ∧ beyond side.world.row.state = true) :
    Knows world worker (send, note.2) :=
  ⟨hread, hlooked, hgone, hdead, hpast, h.quote, h.mode, h.found, h.holder⟩

section Send

variable {side : SendSide} {after : SendWorld} {op : SendOp} {answer : op.Ans} {worker : ℕ}
  {reply : SendReply}

/-- A send worker acts on the send row there is, on answers the pair can give. -/
theorem performSend_cases {next : PairWorld}
    (hp : performSend world config worker op reply = some (answer, next)) :
    ∃ side after, world.send = some side ∧ credible config side.world.row reply op = true ∧
      LightningSendWorld.perform worker op (crossSend world.receive.row reply op) side.world =
        some (answer, after) ∧ next = world.afterSend side op answer after := by
  unfold performSend at hp
  split at hp
  · cases hp
  · next side hs =>
    split at hp
    · next hc =>
      obtain ⟨⟨_, after⟩, hw, he⟩ := Option.map_eq_some_iff.mp hp
      cases he
      exact ⟨side, after, hs, hc, hw, rfl⟩
    · cases hp

/-- Looks are only added. -/
theorem mem_sendLook {look : ℤ} (h : look ∈ world.looks) :
    look ∈ sendLook op answer world.looks := by
  unfold sendLook
  split
  · exact List.mem_cons_of_mem _ h
  · exact h

/-- What a licensed action of a send worker keeps. -/
theorem grows_afterSend (hs : world.send = some side) (hm : sendMay (notes worker).1 op)
    (hp : LightningSendWorld.perform worker op (crossSend world.receive.row reply op) side.world =
      some (answer, after)) : Grows world (world.afterSend side op answer after) where
  receive := Evolves.refl _
  dead hd := hd
  looks look hl := mem_sendLook hl
  send other ho := by
    cases hs.symm.trans ho
    obtain ⟨hf, hstate⟩ := send_of_perform hp
    refine ⟨_, rfl, rfl, hf, fun hb => ?_⟩
    rcases hstate with he | ⟨source, target, columns, rfl, hsource, htarget⟩
    · change beyond after.row.state = true
      rw [he]
      exact hb
    · change beyond after.row.state = true
      rw [htarget]
      rw [hsource] at hb
      exact beyond_edge hb hm.1

/-- A send row that left `funded` went to `claiming`, or its worker had seen a
dead receive row. -/
theorem Joint.leaves (h : Joint config world notes) (hs : world.send = some side)
    (hm : sendMay (notes worker).1 op)
    (hp : LightningSendWorld.perform worker op (crossSend world.receive.row reply op) side.world =
      some (answer, after)) (hb : side.world.row.state = .funded)
    (ha : after.row.state ≠ .funded) :
    after.row.state = .claiming ∨ Dead world.receive.row := by
  rcases (send_of_perform hp).2 with he | ⟨source, target, columns, rfl, hsource, htarget⟩
  · exact absurd (he.trans hb) ha
  · obtain rfl : source = .funded := hsource.symm.trans hb
    rcases hm.2 with hfree | ⟨hclaiming, -⟩
    · rcases Bool.or_eq_true_iff.mp hfree with hdead | hpast
      · exact .inr ((h.knows worker).dead hdead)
      · obtain ⟨other, ho, hbeyond⟩ := (h.knows worker).past hpast
        cases hs.symm.trans ho
        rw [hb] at hbeyond
        cases hbeyond
    · exact .inl (htarget.trans (hclaiming rfl))

/-- A send row that is funded was looked at in full, or nothing can follow. -/
theorem Joint.adopts (h : Joint config world notes) (hs : world.send = some side)
    (hm : sendMay (notes worker).1 op)
    (hp : LightningSendWorld.perform worker op (crossSend world.receive.row reply op) side.world =
      some (answer, after)) (ha : after.row.state = .funded) :
    after.row.amountSats ∈ world.looks ∨ Dead world.receive.row := by
  obtain ⟨hf, hstate⟩ := send_of_perform hp
  have hamount : after.row.amountSats = side.world.row.amountSats :=
    congrArg (fun f => f.1.amountSats) hf
  rw [hamount]
  rcases hstate with he | ⟨source, target, columns, rfl, hsource, htarget⟩
  · exact h.funded side hs (he.symm.trans ha)
  · obtain rfl : target = .funded := htarget.symm.trans ha
    obtain rfl := edge_funded hm.1
    rcases hm.2 with hfree | ⟨-, hadopt⟩
    · rcases Bool.or_eq_true_iff.mp hfree with hdead | hpast
      · exact .inr ((h.knows worker).dead hdead)
      · obtain ⟨other, ho, hbeyond⟩ := (h.knows worker).past hpast
        cases hs.symm.trans ho
        rw [hsource] at hbeyond
        cases hbeyond
    · obtain ⟨row, hr, hlooked⟩ := hadopt rfl
      obtain ⟨other, ho, hread⟩ := (h.knows worker).read row hr
      cases hs.symm.trans ho
      have hrow : row.amountSats = side.world.row.amountSats :=
        congrArg (fun f => f.1.amountSats) hread
      rw [← hrow]
      exact .inl ((h.knows worker).looked _ hlooked)

/-- What a live receive row answers. -/
theorem liveReceive_cases {row : ReceiveSwapRow} {live : Option ReceiveSwapRow}
    (h : liveReceive row = live) :
    (live = none ∧ row.state = .refused) ∨ live = some row := by
  unfold liveReceive at h
  split at h
  · next hr => exact .inl ⟨h.symm, hr⟩
  · exact .inr h.symm

/-- An answer of the receive store, if there is one, is its row at that moment. -/
theorem map_const_ok {reply : Except Fault (Option ReceiveSwapRow)}
    {value answer : Option ReceiveSwapRow} (h : (reply.map fun _ => value) = .ok answer) :
    value = answer := by
  cases reply with
  | error fault => cases h
  | ok _ => exact Except.ok.inj h

/-- What the acting send worker learns holds of the pair. -/
theorem Joint.teachSend (h : Joint config world notes) (hs : world.send = some side)
    (hc : credible config side.world.row reply op = true)
    (hp : LightningSendWorld.perform worker op (crossSend world.receive.row reply op) side.world =
      some (answer, after))
    (hk : Knows (world.afterSend side op answer after) worker (notes worker)) :
    Knows (world.afterSend side op answer after) worker
      (sendLearn config (notes worker).1 op answer, (notes worker).2) := by
  cases op with
  | get =>
    cases hp
    have hrow : ∀ row, some side.world.row = some row → ∃ other,
        (world.afterSend side .get side.world.row (side.world.look worker)).send = some other ∧
          fixed row = fixed other.world.row := by
      rintro _ ⟨⟩
      exact ⟨_, rfl, rfl⟩
    refine hk.learnSend hrow hk.looked hk.gone (fun hd => ?_) fun hb => ?_
    · have hsound := h.sound hs
      simp only [sendLearn, hsound] at hd
      exact hk.dead (by simpa using hd)
    · rcases Bool.or_eq_true_iff.mp hb with hb | hb
      · exact hk.past hb
      · exact ⟨_, rfl, hb⟩
  | read question =>
    cases question with
    | findLockups =>
      rcases answer with fault | outputs
      · exact hk
      · refine hk.learnSend hk.read ?_ hk.gone hk.dead hk.past
        rintro _ ⟨⟩
        exact List.mem_cons_self
    | liveReceive =>
      have ha : (reply.receive.map fun _ => liveReceive world.receive.row) = answer :=
        congrArg Prod.fst (Option.some.inj hp)
      rcases answer with fault | _ | receive
      · exact hk
      · refine hk.learnSend hk.read hk.looked (fun _ => ?_) hk.dead hk.past
        rcases liveReceive_cases (map_const_ok ha) with ⟨-, hr⟩ | hlive
        · exact hr
        · cases hlive
      · refine hk.learnSend hk.read hk.looked hk.gone (fun hd => ?_) hk.past
        rcases liveReceive_cases (map_const_ok ha) with ⟨hlive, -⟩ | hlive
        · cases hlive
        · cases hlive
          rcases Bool.or_eq_true_iff.mp hd with hd | hd
          · exact hk.dead hd
          · exact .inr (Option.isSome_iff_ne_none.mp hd)
    | receive =>
      have ha : (reply.receive.map fun _ => some world.receive.row) = answer :=
        congrArg Prod.fst (Option.some.inj hp)
      rcases answer with fault | receive
      · exact hk
      · refine hk.learnSend hk.read hk.looked hk.gone (fun hd => ?_) hk.past
        obtain rfl := map_const_ok ha
        rcases Bool.or_eq_true_iff.mp hd with hd | hd
        · rcases Bool.or_eq_true_iff.mp hd with hd | hd
          · exact hk.dead hd
          · simp only [Option.any_some, unleased, Bool.and_eq_true, decide_eq_true_eq,
              Option.isNone_iff_eq_none] at hd
            exact .inl hd
        · -- A live row was missed, so the row is refused, and it carries our invoice.
          exfalso
          simp only [Option.any_some, Bool.and_eq_true, Bool.not_eq_true'] at hd
          obtain ⟨hgone, hmiss⟩ := hd
          cases hrow : (notes worker).1.row with
          | none => simp [hrow] at hmiss
          | some row =>
            obtain ⟨other, ho, hread⟩ := (h.knows worker).read row hrow
            cases hs.symm.trans ho
            have hinvoice : row.invoice = side.world.row.invoice :=
              congrArg (fun f => f.1.invoice) hread
            have hown : ownRefusal row world.receive.row = true := by
              refine decide_eq_true ⟨?_, (h.knows worker).gone hgone⟩
              rw [hinvoice]
              exact (h.coupled side hs).1.invoice
            simp [hrow, hown] at hmiss
    | coupledPreimage outpoints =>
      have ha : reply.preimage = answer := congrArg Prod.fst (Option.some.inj hp)
      rcases answer with fault | _ | preimage
      · exact hk
      · exact hk
      · refine hk.learnSend hk.read hk.looked hk.gone (fun hd => ?_) hk.past
        rcases Bool.or_eq_true_iff.mp hd with hd | hd
        · exact hk.dead hd
        · exfalso
          have hmatch : config.preimageMatchesHash preimage side.world.row.paymentHash = true := by
            simpa [credible, ha] using hc
          cases hrow : (notes worker).1.row with
          | none => simp [hrow] at hd
          | some row =>
            obtain ⟨other, ho, hread⟩ := (h.knows worker).read row hrow
            cases hs.symm.trans ho
            have hhash : row.paymentHash = side.world.row.paymentHash :=
              congrArg (fun f => f.1.paymentHash) hread
            simp [hrow, hhash, hmatch] at hd
    | _ => exact hk
  | _ => exact hk

/-- Every licensed action of a send worker keeps the invariant. -/
theorem Joint.actSend (h : Joint config world notes) {next : PairWorld}
    (hm : sendMay (notes worker).1 op)
    (hp : performSend world config worker op reply = some (answer, next)) :
    Joint config next (Function.update notes worker
      (sendLearn config (notes worker).1 op answer, (notes worker).2)) := by
  obtain ⟨side, after, hs, hc, hw, rfl⟩ := performSend_cases hp
  have hg := grows_afterSend hs hm hw
  have hfixed : fixed after.row = fixed side.world.row := (send_of_perform hw).1
  refine ⟨?_, ?_, h.unarmed, ?_, ?_, ?_, ?_, h.covered⟩
  · rw [leases_update, Function.update_eq_self]
    exact h.funding
  · refine knows_update (fun other _ => (h.knows other).grow hg (h.knows other).mode) ?_
    exact h.teachSend hs hc hw ((h.knows worker).grow hg (h.knows worker).mode)
  · rintro _ ⟨⟩
    have hquote : after.row.toQuoteRecord = side.world.row.toQuoteRecord := congrArg Prod.fst hfixed
    have hcreated : after.row.createdAt = side.world.row.createdAt := congrArg Prod.snd hfixed
    dsimp only
    rw [hquote, hcreated]
    exact h.coupled side hs
  · rintro _ ⟨⟩ hfunded
    rcases h.adopts hs hm hw hfunded with hlook | hdead
    · exact .inl (mem_sendLook hlook)
    · exact .inr hdead
  · intro target ht
    change target ∈ (if side.world.row.state = .funded ∧ after.row.state ≠ .funded then
      after.row.state :: world.left else world.left) at ht
    split at ht
    · next hleft =>
      rcases List.mem_cons.mp ht with rfl | ht
      · exact h.leaves hs hm hw hleft.1 hleft.2
      · exact h.left target ht
    · exact h.left target ht
  · intro hpaid
    obtain ⟨hsub, hh, -⟩ := h.paid hpaid
    exact ⟨hsub, hh, by simp [PairWorld.afterSend]⟩

end Send

/-! ## Actions of receive workers -/

section Receive

variable {after : ReceiveWorld} {op : ReceiveOp} {answer : op.Ans} {worker : ℕ}
  {reply : ReceiveReply}

/-- A worker in coupled mode takes the fund lease only on a row that took no HTLC; an attempt
the lease's own guard turns away takes nothing. -/
def oneMode (world : PairWorld) (worker : ℕ) : ReceiveOp → Bool
  | .claimFundLease source =>
    (claimFundLease world.receive.clock source world.receive.row).isNone ||
      (world.mode worker).isNone || world.receive.row.htlcExpiresAt.isNone
  | _ => true

/-- What a licensed action of a receive worker keeps. -/
theorem Joint.grows_afterReceive (h : Joint config world notes)
    (hl : LightningReceiveLease.may (notes worker).2.1 op) (hm : modeMay (notes worker).2.2 op)
    (hp : LightningReceiveFunding.perform worker op (crossReceive world.send reply op)
      world.receive = some (answer, after)) :
    Grows world (world.afterReceive worker op answer after) where
  receive := evolves_of_perform h.funding hl hm hp
  dead hd := hd.evolves (evolves_of_perform h.funding hl hm hp) h.unarmed
  looks look hlook := by
    change look ∈ receiveLook op answer world.looks
    unfold receiveLook
    split
    · exact List.mem_cons_of_mem _ hlook
    · exact hlook
  send side hs := ⟨side, hs, rfl, rfl, fun hb => hb⟩

/-- A submission is only ever added. -/
theorem submitted_of_perform {receive : ReceiveWorld}
    (hp : LightningReceiveFunding.perform worker op reply receive = some (answer, after)) :
    after.submitted = receive.submitted ∨ ∃ ours, after.submitted = ours :: receive.submitted := by
  cases op with
  | fund address payoutSats stamped =>
    simp only [LightningReceiveFunding.perform, LightningReceiveFunding.performFund] at hp
    split at hp
    · split at hp
      · cases hp
        exact .inr ⟨_, rfl⟩
      · cases hp
    · split at hp
      · cases hp
        exact .inr ⟨_, rfl⟩
      · cases hp
    · cases hp
      exact .inl rfl
    · cases hp
      exact .inl rfl
  | update source target columns =>
    simp only [LightningReceiveFunding.perform] at hp
    split at hp <;> cases hp <;> exact .inl rfl
  | claimFundLease source =>
    simp only [LightningReceiveFunding.perform] at hp
    split at hp <;> cases hp <;> exact .inl rfl
  | findLockupOutpoints =>
    simp only [LightningReceiveFunding.perform] at hp
    split at hp
    · cases hp
      exact .inl rfl
    · split at hp <;> cases hp
      exact .inl rfl
  | get => cases hp; exact .inl rfl
  | patch columns => cases hp; exact .inl rfl
  | releaseFundLease => cases hp; exact .inl rfl
  | now => cases hp; exact .inl rfl
  | read question => cases hp; exact .inl rfl

/-- What a live send row answers is the row as it stands. -/
theorem liveSend_some {row coupled : SendSwapRow} (h : liveSend row = some coupled) :
    coupled = row := by
  unfold liveSend at h
  split at h
  · exact (Option.some.inj h).symm
  · cases h

/-- Notes without a mode promise nothing about it. -/
theorem Knows.dropMode {note : PairNote} (h : Knows world worker note) (lease : LeaseNote) :
    Knows world worker (note.1, lease, { note.2.2 with mode := none, claimed := false }) :=
  ⟨h.read, h.looked, h.gone, h.dead, h.past, h.quote, fun _ hn => (by cases hn),
    fun _ hn => (by cases hn), fun hn => (by cases hn)⟩

/-- New notes of a receive worker beside its old ones. -/
theorem Knows.learnMode {note : PairNote} (h : Knows world worker note) {lease : LeaseNote}
    {mode : ModeNote}
    (hquote : ∀ row, mode.row = some row →
      row.toReceiveQuoteRecord = world.receive.row.toReceiveQuoteRecord)
    (hmode : ∀ found, mode.mode = some found → world.mode worker = found)
    (hfound : ∀ coupled, mode.mode = some (some coupled) → world.send ≠ none ∧
      (coupled.state = .funded → coupled.amountSats ∈ world.looks ∨ Dead world.receive.row))
    (hholder : mode.claimed = true → world.receive.row.state ≠ .quoted ∧
      ∀ coupled, mode.mode = some (some coupled) → world.receive.row.htlcExpiresAt = none) :
    Knows world worker (note.1, lease, mode) :=
  ⟨h.read, h.looked, h.gone, h.dead, h.past, hquote, hmode, hfound, hholder⟩

/-- What the acting receive worker learns holds of the pair. -/
theorem Joint.teachReceive (h : Joint config world notes)
    (hl : LightningReceiveLease.may (notes worker).2.1 op) (hc : oneMode world worker op = true)
    (hp : LightningReceiveFunding.perform worker op (crossReceive world.send reply op)
      world.receive = some (answer, after))
    (hg : Grows world (world.afterReceive worker op answer after)) :
    Knows (world.afterReceive worker op answer after) worker ((notes worker).1,
      LightningReceiveLease.learn (notes worker).2.1 op answer,
      modeLearn (notes worker).2.2 op answer) := by
  have hk := h.knows worker
  have hnow : (world.afterReceive worker op answer after).mode worker =
      receiveMode op answer (world.mode worker) := Function.update_self _ _ _
  -- Actions that say nothing about the mode.
  have hplain : receiveMode op answer (world.mode worker) = world.mode worker →
      modeLearn (notes worker).2.2 op answer = (notes worker).2.2 →
      Knows (world.afterReceive worker op answer after) worker ((notes worker).1,
        LightningReceiveLease.learn (notes worker).2.1 op answer,
        modeLearn (notes worker).2.2 op answer) := by
    intro hmode hlearn
    have hgrown := hk.grow hg fun mode hm => (hnow.trans hmode).trans (hk.mode mode hm)
    rw [hlearn]
    exact hgrown.learnMode hgrown.quote hgrown.mode hgrown.found hgrown.holder
  have hbase := (hk.dropMode (notes worker).2.1).grow hg fun _ hm => (by cases hm)
  cases op with
  | get =>
    cases hp
    refine hbase.learnMode ?_ (fun _ hn => (by cases hn)) (fun _ hn => (by cases hn))
      fun hn => (by cases hn)
    rintro _ ⟨⟩
    rfl
  | claimFundLease source =>
    have hgrown := hk.grow hg fun mode hm => hnow.trans (hk.mode mode hm)
    refine hgrown.learnMode hgrown.quote hgrown.mode hgrown.found fun hwon => ?_
    cases hl
    simp only [LightningReceiveFunding.perform] at hp
    split at hp
    · next row hw =>
      cases hp
      obtain ⟨hs, -, he⟩ := claimFundLease_row hw h.funding.dated
      change row.state ≠ .quoted ∧ ∀ coupled, (notes worker).2.2.mode = some (some coupled) →
        row.htlcExpiresAt = none
      rw [he]
      refine ⟨by simp [hs], fun coupled hmode => ?_⟩
      have hfound := hk.mode _ hmode
      simpa [oneMode, hfound, hw] using hc
    · cases hp
      cases hwon
  | read question =>
    cases question with
    | getHoldState =>
      refine hbase.learnMode hbase.quote ?_ (fun _ hn => (by cases hn)) fun hn => (by cases hn)
      rintro _ ⟨⟩
      exact hnow
    | coupledSend =>
      rcases answer with fault | found
      · refine hbase.learnMode hbase.quote ?_ (fun _ hn => (by cases hn)) fun hn => (by cases hn)
        rintro _ ⟨⟩
        exact hnow
      · refine hbase.learnMode hbase.quote ?_ ?_ fun hn => (by cases hn)
        · rintro _ ⟨⟩
          exact hnow
        · rintro coupled ⟨⟩
          have ha : (reply.coupledSend.map fun _ =>
              world.send.bind fun side => liveSend side.world.row) = .ok (some coupled) :=
            congrArg Prod.fst (Option.some.inj hp)
          cases hr : reply.coupledSend with
          | error fault =>
            rw [hr] at ha
            cases ha
          | ok asked =>
            rw [hr] at ha
            obtain ⟨side, hs, hlive⟩ := Option.bind_eq_some_iff.mp (Except.ok.inj ha)
            obtain rfl := liveSend_some hlive
            have hsend : world.send ≠ none := by simp [hs]
            have hafter : world.receive = after := congrArg Prod.snd (Option.some.inj hp)
            refine ⟨hsend, fun hfunded => ?_⟩
            subst hafter
            exact h.funded side hs hfunded
    | _ => exact hplain rfl rfl
  | _ => exact hplain rfl rfl

/-- A payout submitted in coupled mode: its row took no HTLC, and some look at the
send lockup had shown enough for it. -/
theorem Joint.pays (h : Joint config world notes) {address : String} {payoutSats : ℤ}
    {stamped : Bool} {coupled : SendSwapRow}
    (hl : LightningReceiveLease.may (notes worker).2.1 (.fund address payoutSats stamped))
    (hm : modeMay (notes worker).2.2 (.fund address payoutSats stamped))
    (hmode : world.mode worker = some coupled) :
    world.send ≠ none ∧ world.receive.row.state ≠ .quoted ∧
      world.receive.row.htlcExpiresAt = none ∧ ∃ look ∈ world.looks, payoutSats ≤ look := by
  have hk := h.knows worker
  obtain ⟨hclaimed, ⟨mode, hnote, hready⟩, row, hr, rfl⟩ := hm
  obtain rfl : some coupled = mode := hmode.symm.trans (hk.mode mode hnote)
  obtain ⟨hfunded, other, ho, hcovers⟩ := hready coupled rfl
  cases hr.symm.trans ho
  obtain ⟨hq, hh⟩ := hk.holder hclaimed
  have hhtlc := hh coupled hnote
  obtain ⟨hsend, hfound⟩ := hk.found coupled hnote
  refine ⟨hsend, hq, hhtlc, ?_⟩
  rcases hfound hfunded with hlook | hdead
  · exact ⟨_, hlook, hcovers⟩
  · -- The holder's lease is on the row, so the row is not dead.
    have hlease := ((h.funding.knows worker).lease hl.1).1
    rcases hdead with ⟨-, hnone⟩ | hn
    · exact absurd hnone hlease
    · exact absurd hhtlc hn

/-- Payouts already made stay on a live row. -/
theorem Joint.paid_grow (h : Joint config world notes) (hp : world.payouts ≠ [])
    (he : Evolves world.receive.row after.row)
    (hs : after.submitted = world.receive.submitted ∨
      ∃ ours, after.submitted = ours :: world.receive.submitted) :
    after.submitted ≠ [] ∧ after.row.htlcExpiresAt = none ∧ world.send ≠ none := by
  obtain ⟨hsub, hh, hsend⟩ := h.paid hp
  have hq := h.funding.opened (h.funding.leased hsub)
  refine ⟨?_, (he.htlc hq).trans hh, hsend⟩
  rcases hs with hsame | ⟨ours, hcons⟩
  · rw [hsame]
    exact hsub
  · rw [hcons]
    exact List.cons_ne_nil _ _

/-- When an action adds a payout in coupled mode. -/
theorem coupledPayouts_cases (mode : Option SendSwapRow) (before after : List HeldOutput)
    (looks : List ℤ) (op : ReceiveOp) (payouts : List CoupledPayout) :
    coupledPayouts mode before after looks op payouts = payouts ∨
      ∃ address sats stamped coupled, op = .fund address sats stamped ∧ mode = some coupled ∧
        after.length ≠ before.length ∧
        coupledPayouts mode before after looks op payouts = ⟨sats, looks⟩ :: payouts := by
  unfold coupledPayouts
  split
  · next address sats stamped =>
    split
    · next hc =>
      obtain ⟨coupled, hm⟩ := Option.isSome_iff_exists.mp hc.1
      exact .inr ⟨address, sats, stamped, coupled, rfl, hm, hc.2, rfl⟩
    · exact .inl rfl
  · exact .inl rfl

/-- Every licensed action of a receive worker keeps the invariant, as long as the
lease is taken in one mode. -/
theorem Joint.actReceive (h : Joint config world notes) {next : PairWorld}
    (hl : LightningReceiveLease.may (notes worker).2.1 op) (hm : modeMay (notes worker).2.2 op)
    (hc : oneMode world worker op = true)
    (hp : performReceive world worker op reply = some (answer, next)) :
    Joint config next (Function.update notes worker ((notes worker).1,
      LightningReceiveLease.learn (notes worker).2.1 op answer,
      modeLearn (notes worker).2.2 op answer)) := by
  obtain ⟨⟨_, after⟩, hw, he⟩ := Option.map_eq_some_iff.mp hp
  cases he
  have hg := h.grows_afterReceive hl hm hw
  have hev : Evolves world.receive.row after.row := hg.receive
  have hsub := submitted_of_perform hw
  refine ⟨?_, ?_, ?_, ?_, ?_, ?_, ?_, ?_⟩
  · rw [leases_update]
    exact h.funding.act hl hw
  · refine knows_update (fun other ho => (h.knows other).grow hg fun mode hmode => ?_) ?_
    · change Function.update world.mode worker _ other = mode
      rw [Function.update_of_ne ho]
      exact (h.knows other).mode mode hmode
    · exact h.teachReceive hl hc hw hg
  · intro hq
    have hb : world.receive.row.state = .quoted := by
      by_contra hn
      exact hev.opened hn hq
    exact (hev.unarmed hq).trans (h.unarmed hb)
  · intro side hs
    change Coupled config.quote after.row.toReceiveQuoteRecord _ _ ∧ _
    rw [hev.quote]
    exact h.coupled side hs
  · intro side hs hfunded
    rcases h.funded side hs hfunded with hlook | hdead
    · exact .inl (hg.looks _ hlook)
    · exact .inr (hg.dead hdead)
  · intro target ht
    exact (h.left target ht).imp_right hg.dead
  · intro hpaid
    rcases coupledPayouts_cases (world.mode worker) world.receive.submitted after.submitted
      world.looks op world.payouts with hsame | ⟨address, sats, stamped, coupled, rfl, hmode, hn, -⟩
    · exact h.paid_grow (fun hnil => hpaid (hsame.trans hnil)) hev hsub
    · obtain ⟨hsend, hq, hhtlc, -⟩ := h.pays hl hm hmode
      refine ⟨fun hnil => ?_, (hev.htlc hq).trans hhtlc, hsend⟩
      rcases hsub with hsame | ⟨ours, hcons⟩
      · exact hn (congrArg List.length hsame)
      · exact List.cons_ne_nil _ _ (hcons.symm.trans hnil)
  · intro payout hmem
    change payout ∈ coupledPayouts _ _ _ _ _ _ at hmem
    rcases coupledPayouts_cases (world.mode worker) world.receive.submitted after.submitted
        world.looks op world.payouts with
      hsame | ⟨address, sats, stamped, coupled, rfl, hmode, -, hadd⟩
    · rw [hsame] at hmem
      exact h.covered payout hmem
    · rw [hadd] at hmem
      rcases List.mem_cons.mp hmem with rfl | hmem
      · exact (h.pays hl hm hmode).2.2.2
      · exact h.covered payout hmem

end Receive

/-! ## Moves of the environment -/

/-- The send row and what its quote had read. -/
def sendRow (world : PairWorld) : Option (SendQuoteReads × SendSwapRow) :=
  world.send.map fun side => (side.reads, side.world.row)

/-- What has been seen and done. -/
def history (world : PairWorld) :
    (ℕ → Option SendSwapRow) × List ℤ × List SendSwapState × List CoupledPayout :=
  (world.mode, world.looks, world.left, world.payouts)

/-- The send row of one world is the send row of the other. -/
theorem sendRow_some {next : PairWorld} (h : sendRow next = sendRow world) {side : SendSide}
    (hs : next.send = some side) :
    ∃ before, world.send = some before ∧ before.reads = side.reads ∧
      before.world.row = side.world.row := by
  unfold sendRow at h
  rw [hs, Option.map_some] at h
  obtain ⟨before, hb, he⟩ := Option.map_eq_some_iff.mp h.symm
  exact ⟨before, hb, congrArg Prod.fst he, congrArg Prod.snd he⟩

/-- A move that leaves the send row and the history alone. -/
theorem Joint.move (h : Joint config world notes) {next : PairWorld}
    (hf : Funding next.receive fun worker => (notes worker).2.1)
    (he : Evolves world.receive.row next.receive.row)
    (hsub : next.receive.submitted = world.receive.submitted)
    (hsend : sendRow next = sendRow world) (hh : history next = history world) :
    Joint config next notes := by
  simp only [history, Prod.mk.injEq] at hh
  obtain ⟨hmode, hlooks, hleft, hpayouts⟩ := hh
  have hg : Grows world next := by
    refine ⟨he, fun hd => hd.evolves he h.unarmed, fun look hl => hlooks ▸ hl, fun side hs => ?_⟩
    obtain ⟨after, ha, hr, hrow⟩ := sendRow_some hsend.symm hs
    exact ⟨after, ha, hr, by rw [hrow], fun hb => by rw [hrow]; exact hb⟩
  refine ⟨hf, fun worker => ?_, fun hq => ?_, fun side hs => ?_, fun side hs hfunded => ?_,
    ?_, ?_, ?_⟩
  · exact (h.knows worker).grow hg fun mode hm => by rw [hmode]; exact (h.knows worker).mode mode hm
  · have hb : world.receive.row.state = .quoted := by
      by_contra hn
      exact he.opened hn hq
    exact (he.unarmed hq).trans (h.unarmed hb)
  · obtain ⟨before, hb, hr, hrow⟩ := sendRow_some hsend hs
    rw [← hr, ← hrow, he.quote]
    exact h.coupled before hb
  · obtain ⟨before, hb, -, hrow⟩ := sendRow_some hsend hs
    rw [← hrow] at hfunded ⊢
    rw [hlooks]
    exact (h.funded before hb hfunded).imp_right hg.dead
  · intro target ht
    rw [hleft] at ht
    exact (h.left target ht).imp_right hg.dead
  · intro hpaid
    rw [hpayouts] at hpaid
    obtain ⟨hs, hhtlc, hn⟩ := h.paid_grow hpaid he (.inl hsub)
    obtain ⟨side, hside⟩ := Option.ne_none_iff_exists'.mp hn
    obtain ⟨after, ha, -⟩ := sendRow_some hsend.symm hside
    exact ⟨hs, hhtlc, by simp [ha]⟩
  · rw [hpayouts]
    exact h.covered

/-- No move submits a payout. -/
theorem submitted_of_stir {receive after : ReceiveWorld} {move : ReceiveMove}
    (hs : LightningReceiveFunding.stir move receive = some after) :
    after.submitted = receive.submitted := by
  obtain ⟨seconds, rfl⟩ | ⟨output, -, rfl⟩ | ⟨target, -, -, rfl⟩ :=
    LightningReceiveFunding.stir_cases hs
  · rfl
  · rfl
  · rfl

/-- The invariant survives what happens around the receive row. -/
theorem Joint.stirReceive (h : Joint config world notes) {move : ReceiveMove} {next : PairWorld}
    (hs : CoupledPair.stirReceive world move = some next) : Joint config next notes := by
  obtain ⟨after, ha, rfl⟩ := Option.map_eq_some_iff.mp hs
  exact h.move (h.funding.stir ha) (evolves_of_stir ha) (submitted_of_stir ha) rfl rfl

/-- The invariant survives what happens around the send row. -/
theorem Joint.stirSend (h : Joint config world notes) {move : SendMove} {next : PairWorld}
    (hs : CoupledPair.stirSend world move = some next) : Joint config next notes := by
  unfold CoupledPair.stirSend at hs
  split at hs
  · cases hs
  · next side hside =>
    obtain ⟨after, ha, rfl⟩ := Option.map_eq_some_iff.mp hs
    have hrow : after.row = side.world.row := by
      obtain ⟨seconds, rfl⟩ | ⟨-, rfl⟩ | ⟨-, rfl⟩ := LightningSendWorld.stir_cases ha
      · rfl
      · rfl
      · rfl
    refine h.move h.funding (Evolves.refl _) rfl ?_ rfl
    simp [sendRow, hside, hrow]

/-- The send quote couples its row. -/
theorem Joint.insertSend (h : Joint config world notes) {reads : SendQuoteReads} {next : PairWorld}
    (hs : CoupledPair.insertSend world config reads = some next) : Joint config next notes := by
  unfold CoupledPair.insertSend at hs
  split at hs
  · next hc =>
    obtain ⟨hnone, -, hclock⟩ := hc
    split at hs
    · next record hrecord =>
      cases hs
      have hempty : world.send = none := by simpa using hnone
      have hcoupled := coupledSendQuote_ok hrecord
      have hg : Grows world { world with
          send := some ⟨reads, LightningSendWorld.quoted record world.receive.clock⟩ } := by
        refine ⟨Evolves.refl _, fun hd => hd, fun _ hl => hl, fun side hside => ?_⟩
        rw [hempty] at hside
        cases hside
      refine ⟨h.funding, fun worker => (h.knows worker).grow hg (h.knows worker).mode, h.unarmed,
        ?_, ?_, h.left, fun hp => ⟨(h.paid hp).1, (h.paid hp).2.1, by simp⟩, h.covered⟩
      · rintro _ ⟨⟩
        exact ⟨hcoupled, hclock⟩
      · rintro _ ⟨⟩ hfunded
        cases hfunded
    · cases hs
  · cases hs

/-- The invariant survives what happens around the pair. -/
theorem Joint.stir (h : Joint config world notes) {move : PairMove} {next : PairWorld}
    (hs : CoupledPair.stir config move world = some next) : Joint config next notes := by
  cases move with
  | wait seconds =>
    cases hs
    have hw : LightningReceiveFunding.stir (.wait seconds) world.receive =
        some { world.receive with clock := world.receive.clock + seconds } := rfl
    refine h.move (h.funding.stir hw) (Evolves.refl _) rfl ?_ rfl
    simp [sendRow, SendSide.wait, Function.comp_def]
  | quoteSend reads => exact h.insertSend hs
  | settle => exact h.stirSend hs
  | die => exact h.stirSend hs
  | land output => exact h.stirReceive hs
  | deposit output => exact h.stirReceive hs
  | later target => exact h.stirReceive hs

/-! ## The pair -/

/-- No worker takes the fund lease in coupled mode on a row that took an HTLC. -/
def takesOneMode (config : PairConfig) : Condition (pairMachine config) := fun worker op _ world =>
  match op with
  | .inl _ => True
  | .inr op => oneMode world worker op = true

/-- A worker that starts over forgets its notes. -/
theorem Joint.forget (h : Joint config world notes) (worker : ℕ) :
    Joint config world (Function.update notes worker (pairDiscipline config).fresh) := by
  refine ⟨?_, ?_, h.unarmed, h.coupled, h.funded, h.left, h.paid, h.covered⟩
  · have hl : (fun other => (Function.update notes worker
        (({}, leaseDiscipline.fresh, {}) : PairNote) other).2.1) =
        Function.update (fun other => (notes other).2.1) worker leaseDiscipline.fresh :=
      leases_update worker _
    have hf : Funding world.receive
        (Function.update (fun other => (notes other).2.1) worker leaseDiscipline.fresh) :=
      h.funding.relearn (LightningReceiveLease.knows_fresh _) fun hl => by cases hl
    exact hl ▸ hf
  · exact knows_update (fun other _ => h.knows other) (knows_fresh world worker)

/-- The code of both corridors obeys. -/
theorem obeys_pairJob (job : PairJob) :
    (pairDiscipline config).Obeys (pairDiscipline config).fresh (job.program config)
      fun _ _ => True := by
  cases job with
  | send job => exact (obeys_send_job job).left _
  | receive job =>
    have hl : leaseDiscipline.Obeys leaseDiscipline.fresh
        (LightningReceive.tick job.deps job.polls job.rounds) fun _ _ => True :=
      LightningReceiveLease.obeys_tick job.deps job.polls job.rounds
    have hm : modeDiscipline.Obeys modeDiscipline.fresh
        (LightningReceive.tick job.deps job.polls job.rounds) fun _ _ => True :=
      obeys_mode_tick job.deps job.polls job.rounds
    exact ((hl.prod hm).right (sendDiscipline config).fresh).mono fun _ _ _ => trivial

/-- Every run whose leases are taken in one mode. -/
def pairProtocol (config : PairConfig) : Protocol (pairMachine config) (takesOneMode config) where
  discipline := pairDiscipline config
  inv := Joint config
  forget _ _ worker h := h.forget worker
  act world notes worker op reply answer next h hm hc hp := by
    cases op with
    | inl op => exact h.actSend hm hp
    | inr op => exact h.actReceive hm.1 hm.2 hc hp
  stir _ _ _ _ h hs := h.stir hs
  jobs := obeys_pairJob

/-- A pair starts with a quoted receive row. -/
theorem joint_quoted (quote : ReceiveQuoteRecord) (clock : ℕ) (held : List HeldOutput) :
    Joint config (quoted quote clock held) fun _ => (pairDiscipline config).fresh where
  funding := LightningReceiveLease.funding_quoted quote clock held
  knows worker := knows_fresh _ worker
  unarmed _ := rfl
  coupled side hs := by cases hs
  funded side hs := by cases hs
  left target ht := by cases ht
  paid hp := absurd rfl hp
  covered payout hm := by cases hm

/-- Whatever the workers of both corridors do, in whatever order, wherever they crash
and whatever their ports answer: in a run that takes no fund lease in coupled mode on a
row that took an HTLC, a payout submitted in coupled mode has a send row that left
`funded` for nothing but `claiming`, a look at its lockup that showed the payout before
it went out, and a quoted refund deadline, the one its script was written from, a claim
window after the receive row's. -/
theorem coupled_payout_is_collectable (config : PairConfig) (quote : ReceiveQuoteRecord)
    (clock : ℕ) (held : List HeldOutput) (events : List (Event (pairMachine config)))
    (final : Config (pairMachine config))
    (hp : Permitted (takesOneMode config)
      (boot (M := pairMachine config) (quoted quote clock held)) events)
    (hr : run (boot (M := pairMachine config) (quoted quote clock held)) events = some final) :
    let world : PairWorld := final.world
    ∀ payout ∈ world.payouts,
      (∀ target ∈ world.left, target = .claiming) ∧
      (∃ look ∈ payout.looks, payout.sats ≤ look) ∧
      ∃ side deadline unit, world.send = some side ∧
        side.world.row.quotedRefundDeadline = some deadline ∧
        LightningReceiveTerms.absoluteLocktimeIn deadline unit side.reads.written =
          .ok side.world.row.refundLocktime ∧
        absoluteLocktimeSeconds world.receive.row.refundLocktime side.reads.compared +
          MIN_CLAIM_WINDOW ≤ deadline := by
  intro world payout hm
  obtain ⟨notes, h⟩ := (pairProtocol config).inv_of_run (joint_quoted quote clock held) hp hr
  have hj : Joint config world notes := h
  have hpaid : world.payouts ≠ [] := List.ne_nil_of_mem hm
  obtain ⟨side, hs⟩ := Option.ne_none_iff_exists'.mp (hj.paid hpaid).2.2
  obtain ⟨deadline, unit, hq, hw, -, hl⟩ := (hj.coupled side hs).1.deadline
  refine ⟨fun target ht => ?_, hj.covered payout hm, side, deadline, unit, hs, hq, hl, hw⟩
  rcases hj.left target ht with hc | hd
  · exact hc
  · exact absurd hd (hj.alive hpaid)

/-! ## Runs on a sample pair -/

/-- A deployment on a ladder of seconds, without a chain tip. -/
def sampleConfig : PairConfig where
  wallet := LightningSendWorld.sampleWallet
  preimageMatchesHash := fun _ _ => true
  quote := ⟨"provider", "bc", 1000, 1000000, ⟨2048, 2048, 4096⟩, ⟨.seconds, by
    rw [UnilateralLadder.wellFormed_seconds_iff]
    decide⟩, 900, 432, true, false⟩

/-- The solver minted an invoice over fifty thousand sats and owes 49000. -/
def sampleReceive : ReceiveQuoteRecord :=
  ⟨"r1", "hash", 50000, 49000, "lnbc500u", none, none, 2000003600, none, 2000007200, 4096,
    "receive script", "ark1lockup"⟩

/-- The client asks the send corridor to pay that invoice. -/
def sampleReads : SendQuoteReads where
  id := "s1"
  rawInvoice := "lnbc500u"
  paymentHash := "hash"
  expiresAt := 2000003600
  amountSats := 50000
  network := "bc"
  minFinalCltvBlocks := 0
  worstRouteHintCltvBlocks := 0
  bestRouteHintCltvBlocks := 0
  quotedAt := 2000000000
  raised := ⟨2000000000, 0⟩
  compared := ⟨2000000000, 0⟩
  written := ⟨2000000000, 0⟩
  lockupSats := 50500
  refundPkScript := "refund"
  clientRefundPubkey := "client"
  pkScript := "send script"

/-- The send row that quote inserts: its deadline is the receive row's and a claim window. -/
def sampleRecord : QuoteRecord :=
  ⟨"s1", "lnbc500u".toLower, "hash", 50500, 2000003600, some 2000012600, 2000012600, "provider",
    12800, "send script", some "refund", some "client", none⟩

/-- The sample receive row is quoted a coupled send row. -/
theorem sampleReads_quote :
    coupledSendQuote sampleConfig.quote (insertQuote sampleReceive 2000000000) sampleReads =
      .ok sampleRecord := by
  have he : exactCoupledInvoice (insertQuote sampleReceive 2000000000) sampleReads = true :=
    decide_eq_true rfl
  have ha : acceptanceInput sampleConfig.quote (insertQuote sampleReceive 2000000000) sampleReads =
      ⟨2000003600, 50000, "bc", "bc", 1000, 1000000, ⟨0, 0, 0, 0, true⟩, 2048, 900,
        2000000000⟩ := by
    unfold acceptanceInput
    rw [he]
    rfl
  have hd : quotedDeadline sampleConfig.quote (insertQuote sampleReceive 2000000000) sampleReads =
      .ok 2000012600 := by
    unfold quotedDeadline
    rw [ha, he]
    rfl
  have hg : couplingGates sampleConfig.quote (insertQuote sampleReceive 2000000000) sampleReads
      2000012600 = .ok () := by
    have hi : ¬ sampleReads.rawInvoice.toLower ≠
        (insertQuote sampleReceive 2000000000).invoice.toLower := not_not.mpr rfl
    unfold couplingGates
    rw [if_neg hi]
    rfl
  unfold coupledSendQuote
  rw [hd]
  change (couplingGates _ _ _ 2000012600).bind _ = _
  rw [hg]
  rfl

/-- The pair right after the send quote. -/
def samplePair : PairWorld :=
  { quoted sampleReceive 2000000000 [] with
    send := some ⟨sampleReads, LightningSendWorld.quoted sampleRecord 2000000000⟩ }

/-- An event of the sample deployment. -/
abbrev SampleEvent : Type := Event (pairMachine sampleConfig)

/-- The send quote in front of a run. -/
def sampleRun (events : List SampleEvent) : List SampleEvent :=
  .stir (PairMove.quoteSend sampleReads) :: events

/-- Nothing has happened yet. -/
def sampleStart : Config (pairMachine sampleConfig) :=
  boot (M := pairMachine sampleConfig) (quoted sampleReceive 2000000000 [])

/-- The send row has been quoted. -/
def sampleQuoted : Config (pairMachine sampleConfig) :=
  boot (M := pairMachine sampleConfig) samplePair

/-- The send quote inserts its row. -/
theorem step_sampleQuote :
    step sampleStart (.stir (PairMove.quoteSend sampleReads)) = some sampleQuoted := by
  have hi : CoupledPair.insertSend (quoted sampleReceive 2000000000 []) sampleConfig
      sampleReads = some samplePair := by
    have hq : coupledSendQuote sampleConfig.quote (insertQuote
        (quoted sampleReceive 2000000000 []).receive.row.toReceiveQuoteRecord
        (quoted sampleReceive 2000000000 []).receive.row.createdAt) sampleReads =
        .ok sampleRecord := sampleReads_quote
    unfold CoupledPair.insertSend
    rw [if_pos (by decide), hq]
    rfl
  change (CoupledPair.insertSend (quoted sampleReceive 2000000000 []) sampleConfig
    sampleReads).map _ = _
  rw [hi]
  rfl

/-- The run goes on from there. -/
theorem run_sampleRun (events : List SampleEvent) :
    run sampleStart (sampleRun events) = run sampleQuoted events := by
  unfold sampleRun
  rw [run, step_sampleQuote]
  rfl

/-- Worker 0 ticks the send row. -/
def sampleSendTick : SampleEvent := .start 0 (PairJob.send (.tick LightningSendWorld.sampleDeps 1))

/-- Worker 1, which can couple and cancel, ticks the receive row. -/
def sampleReceiveTick : SampleEvent :=
  .start 1 (PairJob.receive ⟨⟨true, false, true, true, fun _ => false⟩, 1, 1⟩)

def sampleSend (reply : SendReply) : SampleEvent := .act 0 ({ send := reply } : PairReply)

def sampleReceives (reply : ReceiveReply) : SampleEvent := .act 1 ({ receive := reply } : PairReply)

/-- The client's lockup, as the indexer shows it. -/
def sampleLockup : List FundedOutput := [⟨"l1", 0, 50500, [], none⟩]

/-- The send row is adopted. -/
def sampleAdoption : List SampleEvent :=
  [sampleSendTick, sampleSend {}, sampleSend { lockups := .ok sampleLockup }, sampleSend {},
    sampleSend {}, sampleSend {}]

/-- The receive worker polls the hold like this, finds the send row funded and pays out. -/
def samplePayout (hold : HoldState) : List SampleEvent :=
  [sampleReceiveTick, sampleReceives {}, sampleReceives {},
    sampleReceives { holdState := .ok hold }, sampleReceives {}, sampleReceives {},
    sampleReceives {}, sampleReceives {}, sampleReceives { fund := .submitted "f1" 0 }]

/-- The receive row is armed against the send lockup, pays out, and the send worker
collects with the preimage the client revealed. -/
def sampleCoupled : List SampleEvent :=
  sampleAdoption ++
    [sampleReceiveTick, sampleReceives {}, sampleReceives {}, sampleReceives {},
      sampleReceives {}, sampleReceives { coupledLockups := .ok sampleLockup },
      sampleReceives {}, sampleReceives {}] ++
    samplePayout ⟨.cancelled, none⟩ ++
    [sampleSendTick, sampleSend {}, sampleSend {}, sampleSend {},
      sampleSend { outpoints := .ok [⟨"f1", 0, 49000, true, false⟩] },
      sampleSend { preimage := .ok (some "preimage") }, sampleSend {}]

/-- A real HTLC arms the receive row and is gone at the next poll: the payout goes out
against the send row, which is then refused for that HTLC, and its lockup refunded. -/
def sampleCrossed : List SampleEvent :=
  sampleAdoption ++
    [sampleReceiveTick, sampleReceives {},
      sampleReceives { holdState := .ok ⟨.armed, some 2000020000⟩ }, sampleReceives {}] ++
    samplePayout ⟨.cancelled, none⟩ ++
    [sampleSendTick, sampleSend {}, sampleSend {}, sampleSend {}, sampleSend {},
      .start 0 (PairJob.send .refundSweep), sampleSend {}, sampleSend {},
      sampleSend { lockups := .ok sampleLockup }, sampleSend { txid := .ok "refund" }]

/-- What a sample run has done: where the send row went, what was paid, whether the
client got its lockup back, and where the receive row stands. -/
def outcome (world : PairWorld) : List SendSwapState × List ℤ × Option Bool × ReceiveSwapState :=
  (world.left, world.payouts.map CoupledPayout.sats,
    world.send.map fun side => side.world.refundPushed, world.receive.row.state)

instance (worker : ℕ) (op : (pairMachine sampleConfig).Op)
    (reply : (pairMachine sampleConfig).Reply) (world : (pairMachine sampleConfig).World) :
    Decidable (takesOneMode sampleConfig worker op reply world) :=
  match op with
  | .inl _ => isTrue trivial
  | .inr op => inferInstanceAs (Decidable (oneMode world worker op = true))

/-- The coupled run pays out once and collects. -/
theorem coupled_payout_is_collectable_sample :
    ∃ final : Config (pairMachine sampleConfig),
      run sampleStart (sampleRun sampleCoupled) = some final ∧
      outcome final.world = ([.claiming], [49000], some false, .armed) ∧
      ∀ payout ∈ PairWorld.payouts final.world,
        ∀ target ∈ PairWorld.left final.world, target = .claiming := by
  obtain ⟨final, hr⟩ := Option.isSome_iff_exists.mp
    (show (run sampleQuoted sampleCoupled).isSome = true by decide +kernel)
  have hrun := (run_sampleRun sampleCoupled).trans hr
  have hp : Permitted (takesOneMode sampleConfig) sampleStart (sampleRun sampleCoupled) := by
    refine ⟨trivial, fun next hn => ?_⟩
    cases step_sampleQuote.symm.trans hn
    decide +kernel
  have ho : (run sampleQuoted sampleCoupled).map (fun final => outcome final.world) =
      some ([.claiming], [49000], some false, .armed) := by decide +kernel
  rw [hr] at ho
  refine ⟨final, hrun, Option.some.inj ho, fun payout hm => ?_⟩
  exact (coupled_payout_is_collectable sampleConfig sampleReceive 2000000000 [] _ final hp hrun
    payout hm).1

/-- The receive row's payout is out and nothing refunds it, and the client has its
lockup back as well. -/
theorem coupled_payout_and_refund :
    ∃ final : Config (pairMachine sampleConfig),
      run sampleStart (sampleRun sampleCrossed) = some final ∧
      outcome final.world = ([.refused], [49000], some true, .armed) := by
  obtain ⟨final, hr⟩ := Option.isSome_iff_exists.mp
    (show (run sampleQuoted sampleCrossed).isSome = true by decide +kernel)
  have ho : (run sampleQuoted sampleCrossed).map (fun final => outcome final.world) =
      some ([.refused], [49000], some true, .armed) := by decide +kernel
  rw [hr] at ho
  exact ⟨final, (run_sampleRun sampleCrossed).trans hr, Option.some.inj ho⟩

end IntentSolver.CoupledSelfPayment
