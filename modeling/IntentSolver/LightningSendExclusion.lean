import IntentSolver.LightningPayDiscipline

/-!
# Paying and refunding a Lightning send exclude each other

A worker that refuses an exposed row stands on its proof that nothing is
committed: its own `funded -> paying`, or the silence of a probe by hash once
the grace since the `pay_attempted_at` it had read is over. The proof is worth
what that column is worth, and it says nothing of later calls. The condition is
on the schedule and the column: which calls the column covers when the silence
is judged, what is submitted between a proof and the refusal it licenses, and
what is refused between a read and the call it licenses.
-/

namespace IntentSolver.LightningSendExclusion

open SwapStore ArkadeLockup LockupCollection WorkerProgram WorkerInterleaving LightningPort
open LightningSendStore LightningSend LightningSendWorld LightningPayDiscipline

/-- The part of the world that paying and refunding meet in. -/
structure PayView where
  clock : ℕ
  state : SendSwapState
  fate : PaymentFate
  payCalled : Bool
  calls : List ℕ
  moved : Bool
  attemptedAt : ℕ → Option ℤ
  probedAt : ℕ → Option ℕ
  paidSince : ℕ → Bool
  refusedSince : ℕ → Bool
  refundPushed : Bool

/-- What the exclusion reads of a world. -/
def view (world : SendWorld) : PayView :=
  ⟨world.clock, world.row.state, world.fate, world.payCalled, world.calls, world.moved,
    world.attemptedAt, world.probedAt, world.paidSince, world.refusedSince, world.refundPushed⟩

/-! ## What an action does to the view -/

/-- The view after this worker has read a row with this `pay_attempted_at`. -/
def lookAt (worker : ℕ) (v : PayView) (attemptedAt : Option ℤ) : PayView :=
  { v with
    attemptedAt := Function.update v.attemptedAt worker attemptedAt
    probedAt := Function.update v.probedAt worker none
    refusedSince := if v.state = .paying then Function.update v.refusedSince worker false
      else v.refusedSince }

/-- The view after this worker has read the clock. -/
def judgeAt (worker : ℕ) (v : PayView) : PayView :=
  { v with probedAt := Function.update v.probedAt worker none }

/-- The view after a probe that answered this worker nothing. -/
def proveAt (worker : ℕ) (v : PayView) : PayView :=
  { v with
    probedAt := Function.update v.probedAt worker (some v.clock)
    paidSince := Function.update v.paidSince worker false }

/-- The view after a won transition. -/
def moveTo (worker : ℕ) (v : PayView) (source target : SendSwapState) : PayView :=
  { v with
    state := target
    moved := v.moved || decide (source = .funded ∧ target = .paying)
    paidSince := if source = .funded ∧ target = .paying then
      Function.update v.paidSince worker false else v.paidSince
    refusedSince := if source = .funded ∧ target = .paying then
        Function.update v.refusedSince worker false
      else if target = .refused then fun _ => true
      else v.refusedSince }

/-- The view after a call of `payInvoice`. -/
def payAt (v : PayView) (submits : Bool) : PayView :=
  { v with
    payCalled := true
    calls := if submits then v.clock :: v.calls else v.calls
    paidSince := if submits then fun _ => true else v.paidSince
    fate := if submits && decide (v.fate = .idle) then .inFlight else v.fate }

/-! ## What holds in every run -/

/-- What one worker's notes promise. -/
structure Knows (v : PayView) (worker : ℕ) (note : PayNote) : Prop where
  moved : note.moved = true → v.moved = true
  read : ∀ attemptedAt, note.attempted = some attemptedAt → v.attemptedAt worker = attemptedAt
  probed : note.probed = true → (v.probedAt worker).isSome = true
  dead : note.dead = true → v.fate = .dead
  refused : note.refused = true → v.state = .refused
  /-- A refusal it does not know of landed after it last saw the row `paying`. -/
  since : note.moved = true → v.state = .refused → v.refusedSince worker = true

/-- What holds in every run, whatever the schedule. -/
structure Exclusion (v : PayView) (notes : ℕ → PayNote) : Prop where
  knows : ∀ worker, Knows v worker (notes worker)
  called : v.payCalled = true → v.moved = true
  counted : v.calls ≠ [] → v.payCalled = true
  left : v.moved = true → v.state ≠ .quoted ∧ v.state ≠ .funded
  paying : v.state = .paying → v.moved = true
  flying : v.fate = .inFlight ∨ v.fate = .settled → v.calls ≠ []
  pushed : v.refundPushed = true → v.fate = .dead ∨ v.state = .refused

variable {v : PayView} {notes : ℕ → PayNote} {worker : ℕ} {note : PayNote}

/-- A worker that knows nothing is not mistaken. -/
theorem knows_fresh (v : PayView) (worker : ℕ) : Knows v worker payDiscipline.fresh :=
  ⟨nofun, nofun, nofun, nofun, nofun, nofun⟩

/-- One worker learns something true. -/
theorem Exclusion.relearn (h : Exclusion v notes) (hk : Knows v worker note) :
    Exclusion v (Function.update notes worker note) := by
  have hall : ∀ other, Knows v other (Function.update notes worker note other) :=
    (Function.forall_update_iff notes fun other note => Knows v other note).mpr
      ⟨hk, fun other _ => h.knows other⟩
  exact ⟨hall, h.called, h.counted, h.left, h.paying, h.flying, h.pushed⟩

/-- Before `funded -> paying` nobody has called anything. -/
theorem Exclusion.uncalled (h : Exclusion v notes) (hs : v.state = .quoted ∨ v.state = .funded) :
    v.calls = [] := by
  by_contra hc
  have hl := h.left (h.called (h.counted hc))
  exact hs.elim hl.1 hl.2

/-- Learning a final failure that is one. -/
theorem Knows.learnPayment (hk : Knows v worker note) {answer : Except Fault PaymentResult}
    (hf : ∀ result, answer = .ok result → result.status = .failed → v.fate = .dead) :
    Knows v worker (learnPayment note answer) := by
  cases answer with
  | error fault => exact hk
  | ok result =>
    refine ⟨hk.moved, hk.read, hk.probed, fun hd => ?_, hk.refused, hk.since⟩
    rcases Bool.or_eq_true_iff.mp hd with hd | hd
    · exact hk.dead hd
    · exact hf result rfl (of_decide_eq_true hd)

/-- No edge leads back to `quoted`, and only `quoted` leads to `funded`. -/
theorem edge_forward {source target : SendSwapState}
    (h : target ∈ (LnSendMachine source).edges) :
    target ≠ .quoted ∧ (target = .funded → source = .quoted) ∧
      (target = .paying → source = .funded) ∧ source ≠ .refused := by
  cases source <;> cases target <;> simp [LnSendMachine] at h ⊢

/-- A refusal reaches everybody. -/
theorem moveTo_refused (worker : ℕ) (v : PayView) (source : SendSwapState) (other : ℕ) :
    (moveTo worker v source .refused).refusedSince other = true := by
  unfold moveTo
  dsimp only
  rw [if_neg (fun hc => by cases hc.2), if_pos rfl]

/-- What a worker knows after a transition it knows enough of. -/
theorem Knows.moveTo {other : ℕ} {learned : PayNote} {source target : SendSwapState}
    (hk : Knows v other note)
    (hm : learned.moved = true → (moveTo worker v source target).moved = true)
    (ha : learned.attempted = note.attempted) (hp : learned.probed = note.probed)
    (hd : learned.dead = note.dead) (hr : learned.refused = true → target = .refused) :
    Knows (LightningSendExclusion.moveTo worker v source target) other learned := by
  refine ⟨hm, fun attemptedAt hl => hk.read attemptedAt (ha ▸ hl), fun hl => hk.probed (hp ▸ hl),
    fun hl => hk.dead (hd ▸ hl), hr, fun _ ht => ?_⟩
  have htarget : target = .refused := ht
  rw [htarget]
  exact moveTo_refused worker v source other

/-- A won transition. -/
theorem Exclusion.update (h : Exclusion v notes) {source target : SendSwapState}
    {columns : List SendColumn} (hm : may (notes worker) (.update source target columns))
    (hs : v.state = source) :
    Exclusion (moveTo worker v source target)
      (Function.update notes worker
        (learn (notes worker) (.update source target columns) true)) := by
  obtain ⟨hq, hfund, hpay, hr⟩ := edge_forward hm.1
  have hopen : ∀ other, (notes other).refused = true → target = .refused := fun other hn =>
    absurd (hs.symm.trans ((h.knows other).refused hn)) hr
  refine ⟨fun other => ?_, fun hc => ?_, h.counted, fun hmv => ?_, fun hp => ?_, h.flying,
    fun hp => ?_⟩
  · have hk := h.knows other
    by_cases ho : other = worker
    · subst ho
      rw [Function.update_self]
      refine hk.moveTo (fun hn => ?_) rfl rfl rfl fun hn => ?_
      · simp only [learn, Bool.true_and, Bool.or_eq_true] at hn
        simp only [LightningSendExclusion.moveTo, Bool.or_eq_true]
        exact hn.imp_left hk.moved
      · simp only [learn, Bool.true_and, Bool.or_eq_true, decide_eq_true_eq] at hn
        exact hn.elim (hopen other) id
    · rw [Function.update_of_ne ho]
      refine hk.moveTo (fun hn => ?_) rfl rfl rfl (hopen other)
      simp only [LightningSendExclusion.moveTo, Bool.or_eq_true]
      exact .inl (hk.moved hn)
  · simp only [moveTo, Bool.or_eq_true]
    exact .inl (h.called hc)
  · refine ⟨hq, fun hf => ?_⟩
    have hsq : source = .quoted := hfund hf
    simp only [moveTo, Bool.or_eq_true, decide_eq_true_eq] at hmv
    rcases hmv with hmv | ⟨hsf, -⟩
    · exact (h.left hmv).1 (hs.trans hsq)
    · rw [hsq] at hsf
      cases hsf
  · have hp' : target = .paying := hp
    simp only [moveTo, Bool.or_eq_true, decide_eq_true_eq]
    exact .inr ⟨hpay hp', hp'⟩
  · rcases h.pushed hp with hd | hd
    · exact .inl hd
    · exact absurd (hs.symm.trans hd) hr

/-- A refund by a worker that may give the lockup back. -/
theorem Exclusion.refund (h : Exclusion v notes) (hm : MayRefund (notes worker)) :
    Exclusion { v with refundPushed := true } notes := by
  have hk := h.knows worker
  refine ⟨fun other => ?_, h.called, h.counted, h.left, h.paying, h.flying,
    fun _ => hm.imp hk.dead hk.refused⟩
  obtain ⟨hmoved, hread, hprobed, hdead, hrefused, hsince⟩ := h.knows other
  exact ⟨hmoved, hread, hprobed, hdead, hrefused, hsince⟩

/-- A pay call by a worker that knows the row was moved. -/
theorem Exclusion.pay (h : Exclusion v notes) (hm : (notes worker).moved = true) (submits : Bool) :
    Exclusion (payAt v submits) notes := by
  have hmoved : v.moved = true := (h.knows worker).moved hm
  have hdead : v.fate = .dead → (payAt v submits).fate = .dead := by
    intro hf
    simp [payAt, hf]
  refine ⟨fun other => ?_, fun _ => hmoved, fun _ => rfl, h.left, h.paying, fun hf => ?_,
    fun hp => (h.pushed hp).imp_left hdead⟩
  · have hk := h.knows other
    exact ⟨hk.moved, hk.read, hk.probed, fun hn => hdead (hk.dead hn), hk.refused, hk.since⟩
  · cases submits with
    | false => exact h.flying hf
    | true => exact List.cons_ne_nil _ _

/-- A worker reads the row. -/
theorem Exclusion.look (h : Exclusion v notes) (row : SendSwapRow) (hs : row.state = v.state) :
    Exclusion (lookAt worker v row.payAttemptedAt)
      (Function.update notes worker (learn (notes worker) .get row)) := by
  refine ⟨fun other => ?_, h.called, h.counted, h.left, h.paying, h.flying, h.pushed⟩
  have hk := h.knows other
  -- Nobody reads a refused row as `paying`.
  have hsince : v.state = .refused →
      (lookAt worker v row.payAttemptedAt).refusedSince = v.refusedSince := by
    intro hr
    simp [lookAt, hr]
  by_cases ho : other = worker
  · subst ho
    rw [Function.update_self]
    refine ⟨fun hn => ?_, fun attemptedAt hn => ?_, nofun, hk.dead, hk.refused, fun hn hr => ?_⟩
    · rcases Bool.or_eq_true_iff.mp hn with hn | hn
      · exact hk.moved hn
      · exact h.paying (hs ▸ of_decide_eq_true hn)
    · obtain rfl : row.payAttemptedAt = attemptedAt := Option.some.inj hn
      exact Function.update_self other _ _
    · rw [hsince hr]
      rcases Bool.or_eq_true_iff.mp hn with hn | hn
      · exact hk.since hn hr
      · exact absurd ((hs.symm.trans (of_decide_eq_true hn)).symm.trans hr) (by decide)
  · rw [Function.update_of_ne ho]
    refine ⟨hk.moved, fun attemptedAt hn => ?_, fun hn => ?_, hk.dead, hk.refused, fun hn hr => ?_⟩
    · exact (Function.update_of_ne ho _ _).trans (hk.read attemptedAt hn)
    · exact (congrArg Option.isSome (Function.update_of_ne ho _ _)).trans (hk.probed hn)
    · rw [hsince hr]
      exact hk.since hn hr

/-- A worker's own pending probe changes, and what it knows of it. -/
theorem Exclusion.pending (h : Exclusion v notes) {probedAt : Option ℕ} {paidSince : ℕ → Bool}
    (hn : (notes worker).moved = note.moved ∧ (notes worker).attempted = note.attempted ∧
      (notes worker).dead = note.dead ∧ (notes worker).refused = note.refused)
    (hp : note.probed = true → probedAt.isSome = true) :
    Exclusion
      { v with
        probedAt := Function.update v.probedAt worker probedAt
        paidSince := paidSince } (Function.update notes worker note) := by
  obtain ⟨hmoved, hattempted, hdead, hrefused⟩ := hn
  refine ⟨fun other => ?_, h.called, h.counted, h.left, h.paying, h.flying, h.pushed⟩
  have hk := h.knows other
  by_cases ho : other = worker
  · subst ho
    rw [Function.update_self]

    refine ⟨fun hl => hk.moved (hmoved.trans hl), fun attemptedAt hl =>
      hk.read attemptedAt (hattempted.trans hl), fun hl => ?_, fun hl => hk.dead (hdead.trans hl),
      fun hl => hk.refused (hrefused.trans hl), fun hl => hk.since (hmoved.trans hl)⟩
    exact (congrArg Option.isSome (Function.update_self other _ _)).trans (hp hl)
  · rw [Function.update_of_ne ho]
    refine ⟨hk.moved, hk.read, fun hl => ?_, hk.dead, hk.refused, hk.since⟩
    exact (congrArg Option.isSome (Function.update_of_ne ho _ _)).trans (hk.probed hl)

variable {world next : SendWorld} {op : SendOp} {reply : SendReply} {answer : op.Ans}

/-- A write changes the state it leaves the row in, and nothing else here. -/
theorem view_write (row : SendSwapRow) :
    view (world.write worker row) = { view world with state := row.state } := rfl

/-- A patch is invisible. -/
theorem view_patch (columns : List SendColumn) (now : ℤ) :
    view (world.write worker (patchRow sendShape now columns world.row)) = view world := by
  have hs : (patchRow sendShape now columns world.row).state = world.row.state :=
    state_patchRow sendShape now columns world.row
  rw [view_write, hs]
  rfl

/-- The backfill of the retired sentinel moves no row. -/
theorem state_backfillExternal (row : SendSwapRow) : (backfillExternal row).state = row.state := by
  unfold backfillExternal
  split <;> rfl

/-- The backfill of the outcome moves no row. -/
theorem state_backfillPushed (row : SendSwapRow) : (backfillPushed row).state = row.state := by
  unfold backfillPushed
  split <;> rfl

/-- What a worker is shown changes nothing of the view. -/
theorem view_see (reply : SendReply) (question : SendQuestion) :
    view (world.see worker reply question) = view world := by
  cases question <;> try rfl
  · unfold SendWorld.see
    cases reply.lockups <;> rfl
  · unfold SendWorld.see
    cases reply.provablySpent <;> rfl

/-- A won transition moves the view. -/
theorem view_commit {row : SendSwapRow} (source target : SendSwapState)
    (hs : row.state = target) :
    view ((world.write worker row).commit worker source target) =
      moveTo worker (view world) source target := by
  unfold SendWorld.commit moveTo
  split
  · next hc =>
    rw [decide_eq_true hc, Bool.or_true, ← hs]
    rfl
  · next hc =>
    rw [decide_eq_false hc, Bool.or_false, ← hs]
    split <;> rfl

/-- What a won or lost transition does. -/
theorem update_cases {source target : SendSwapState} {columns : List SendColumn} {won : Bool}
    (hp : perform worker (.update source target columns) reply world = some (won, next)) :
    (won = true ∧ world.row.state = source ∧ view next = moveTo worker (view world) source target) ∨
      (won = false ∧ next = world) := by
  obtain ⟨row, hu, rfl, rfl⟩ | hlost := perform_update hp
  · obtain ⟨hs, -, ht⟩ := updateWhere_state sendShape hu
    exact .inl ⟨rfl, hs, view_commit source target ht⟩
  · exact .inr hlost

/-- What a patch does. -/
theorem patch_cases {columns : List SendColumn} {written : Except Fault Unit}
    (hp : perform worker (.patch columns) reply world = some (written, next)) :
    view next = view world := by
  obtain rfl | rfl := perform_patch hp
  · rfl
  · exact view_patch columns _

/-- What a refund does: the solver's refund may be on the wire whatever it answers. -/
theorem refund_cases {outputs : List FundedOutput} {answer : Except Fault String}
    (hp : perform worker (.refund outputs) reply world = some (answer, next)) :
    view next = view world ∨ view next = { view world with refundPushed := true } := by
  simp only [perform] at hp
  split at hp
  · cases hp
    exact .inr rfl
  · cases hp
    split
    · exact .inr rfl
    · exact .inl rfl

/-- What a claim does: nothing that paying or refunding looks at. -/
theorem claim_cases {outputs : List FundedOutput} {answer : Except Fault String}
    (hp : perform worker (.claim outputs) reply world = some (answer, next)) :
    view next = view world := by
  simp only [perform] at hp
  split at hp
  · cases hp
    rfl
  · cases hp
    split
    · rfl
    · rfl

/-- What a probe by hash answers. -/
theorem probe_cases {answer : Except Fault (Option SendHtlcState)}
    (hp : perform worker .getSendHtlcState reply world = some (answer, next)) :
    (answer = .ok none ∧
      (∀ called ∈ world.calls, (world.clock : ℤ) < called + NO_RECORD_GRACE_SECONDS) ∧
      view next = proveAt worker (view world)) ∨
    (answer ≠ .ok none ∧ view next = view world ∧
      ∀ htlc, answer = .ok (some htlc) → htlc.status = .returned → world.fate = .dead) := by
  simp only [perform] at hp
  split at hp
  · next ha =>
    rcases hr : reply.htlc with fault | _ | htlc
    · rw [hr] at hp
      cases hp
      exact .inr ⟨by simp, rfl, by simp⟩
    · rw [hr] at hp ha
      cases hp
      refine .inl ⟨rfl, fun called hc => ?_, rfl⟩
      have hall := List.all_eq_true.mp ha called hc
      exact of_decide_eq_true hall
    · rw [hr] at hp ha
      cases hp
      refine .inr ⟨by simp, rfl, ?_⟩
      rintro _ ⟨⟩ hret
      simpa [probeable, hret] using ha
  · cases hp

/-- A probe answers what the backend's reply says. -/
theorem probe_silent (hp : perform worker .getSendHtlcState reply world = some (.ok none, next)) :
    reply.htlc = .ok none := by
  simp only [perform] at hp
  split at hp
  · rcases hr : reply.htlc with fault | _ | htlc
    · rw [hr] at hp
      cases hp
    · rfl
    · rw [hr] at hp
      cases hp
  · cases hp

/-- Every licensed action keeps the invariant with the notes it teaches. -/
theorem Exclusion.act (h : Exclusion (view world) notes) (hm : may (notes worker) op)
    (hp : perform worker op reply world = some (answer, next)) :
    Exclusion (view next) (Function.update notes worker (learn (notes worker) op answer)) := by
  have hk := h.knows worker
  -- Actions that teach nothing and show nothing.
  have hquiet : view next = view world → learn (notes worker) op answer = notes worker →
      Exclusion (view next) (Function.update notes worker (learn (notes worker) op answer)) := by
    intro hv hl
    rw [hv, hl]
    exact h.relearn hk
  cases op with
  | get =>
    cases hp
    exact h.look world.row rfl
  | update source target columns =>
    rcases update_cases hp with ⟨rfl, hs, hv⟩ | ⟨rfl, rfl⟩
    · rw [hv]
      exact h.update hm hs
    · exact hquiet rfl (by simp [learn])
  | patch columns => exact hquiet (patch_cases hp) rfl
  | findRefundable now =>
    cases hp
    refine h.relearn ⟨hk.moved, hk.read, hk.probed, hk.dead, fun hn => ?_, hk.since⟩
    rcases Bool.or_eq_true_iff.mp hn with hn | hn
    · exact hk.refused hn
    · split at hn
      · next hs =>
        simp only [LightningSendStore.findRefundable, Bool.and_eq_true, decide_eq_true_eq] at hs
        exact hs.1.1.1
      · cases hn
  | backfillExternal =>
    cases hp
    refine hquiet ?_ rfl
    rw [view_write, state_backfillExternal]
    rfl
  | backfillPushed =>
    cases hp
    refine hquiet ?_ rfl
    rw [view_write, state_backfillPushed]
    rfl
  | now =>
    cases hp
    exact h.pending ⟨rfl, rfl, rfl, rfl⟩ fun hn => absurd hn Bool.false_ne_true
  | boundedInputs outputs => cases hp; exact hquiet rfl rfl
  | read question =>
    cases hp
    exact hquiet (view_see reply question) rfl
  | refund outputs =>
    rcases refund_cases hp with hv | hv
    · exact hquiet hv rfl
    · rw [hv]
      have hr := h.refund hm
      exact hr.relearn (hr.knows worker)
  | claim outputs => exact hquiet (claim_cases hp) rfl
  | finalizePendingClaim =>
    simp only [perform] at hp
    split at hp <;> cases hp <;> exact hquiet rfl rfl
  | findClaimPreimage outpoint =>
    simp only [perform] at hp
    split at hp <;> cases hp <;> exact hquiet rfl rfl
  | claimUnrolled lockup record =>
    simp only [perform] at hp
    split at hp <;> cases hp <;> exact hquiet rfl rfl
  | getSendHtlcState =>
    rcases probe_cases hp with ⟨rfl, hcalls, hv⟩ | ⟨hne, hv, hdead⟩
    · rw [hv]
      exact h.pending ⟨rfl, rfl, rfl, rfl⟩ fun _ => rfl
    · rw [hv]
      refine h.relearn ?_
      rcases answer with fault | _ | htlc
      · exact hk
      · exact absurd rfl hne
      · refine ⟨hk.moved, hk.read, hk.probed, fun hn => ?_, hk.refused, hk.since⟩
        rcases Bool.or_eq_true_iff.mp hn with hn | hn
        · exact hk.dead hn
        · exact hdead htlc rfl (of_decide_eq_true hn)
  | getPayment paymentId =>
    simp only [perform] at hp
    split at hp
    · next hpoll =>
      cases hp
      refine h.relearn (hk.learnPayment fun result hr hf => ?_)
      have hd : world.fate = .dead := by simpa [pollable, hr, hf] using hpoll
      exact hd
    · cases hp
  | payInvoice params =>
    cases hp
    have hr := h.pay hm reply.submits
    exact hr.relearn (hr.knows worker)
  | payResult =>
    simp only [perform] at hp
    split at hp
    · next hpay =>
      cases hp
      refine h.relearn (hk.learnPayment fun result hr hf => ?_)
      have hboth : world.submitted worker = true ∧ world.fate = .dead := by
        simpa [payable, hr, hf] using hpay
      exact hboth.2
    · cases hp

/-- Time and the fate of the payment. -/
theorem Exclusion.stir (h : Exclusion (view world) notes) {move : SendMove}
    (hs : stir move world = some next) : Exclusion (view next) notes := by
  -- What a worker knows is of the payment's fate only when it is dead.
  have hknows : ((view world).fate = .dead → (view next).fate = .dead) →
      (view next).state = (view world).state → (view next).moved = (view world).moved →
      (view next).attemptedAt = (view world).attemptedAt →
      (view next).probedAt = (view world).probedAt →
      (view next).refusedSince = (view world).refusedSince →
      ∀ worker, Knows (view next) worker (notes worker) := by
    intro hd hst hmv ha hp hr worker
    have hk := h.knows worker
    exact ⟨hmv ▸ hk.moved, ha ▸ hk.read, hp ▸ hk.probed, fun hn => hd (hk.dead hn),
      hst ▸ hk.refused, hst ▸ hr ▸ hk.since⟩
  obtain ⟨seconds, rfl⟩ | ⟨hf, rfl⟩ | ⟨-, rfl⟩ := stir_cases hs
  · exact ⟨hknows id rfl rfl rfl rfl rfl, h.called, h.counted, h.left, h.paying, h.flying,
      h.pushed⟩
  · have hlive : (view world).fate ≠ .dead := fun hd => by cases hd.symm.trans hf
    exact ⟨hknows (fun hd => absurd hd hlive) rfl rfl rfl rfl rfl, h.called, h.counted, h.left,
      h.paying, fun _ => h.flying (.inl hf), fun hp => .inr ((h.pushed hp).resolve_left hlive)⟩
  · exact ⟨hknows (fun _ => rfl) rfl rfl rfl rfl rfl, h.called, h.counted, h.left, h.paying,
      fun hf => (by rcases hf with hf | hf <;> cases hf), fun _ => .inl rfl⟩

/-- The world of a fresh quote. -/
theorem exclusion_quoted (quote : QuoteRecord) (clock : ℕ) :
    Exclusion (view (quoted quote clock)) fun _ => payDiscipline.fresh where
  knows worker := knows_fresh _ worker
  called hc := by cases hc
  counted hc := absurd rfl hc
  left hl := by cases hl
  paying hp := by cases hp
  flying hf := by rcases hf with hf | hf <;> cases hf
  pushed hp := by cases hp

/-- A worker that starts over knows nothing. -/
theorem Exclusion.forget (h : Exclusion v notes) (worker : ℕ) :
    Exclusion v (Function.update notes worker payDiscipline.fresh) :=
  h.relearn (knows_fresh v worker)

/-- What the unconditional invariant needs of a run: nothing. -/
def exclusionProtocol (wallet : WalletCaps) : Protocol (sendMachine wallet) anything where
  discipline := payDiscipline
  inv world notes := Exclusion (view world) notes
  forget _ _ worker h := h.forget worker
  act _ _ _ _ _ _ _ h hm _ hp := h.act hm hp
  stir _ _ _ _ h hs := h.stir hs
  jobs := obeys_job wallet

/-! ## Runs in which the column covers the calls -/

/-- Every call so far was made by the `pay_attempted_at` this worker last read. -/
def columnCovers (worker : ℕ) (v : PayView) : Bool :=
  v.calls.all fun called =>
    (v.attemptedAt worker).any fun attemptedAt => decide ((called : ℤ) ≤ attemptedAt)

/-- The condition on schedule and column. Where a probe answers nothing and the grace of
the row its worker read is over, that row's `pay_attempted_at` covers every call so far; no
grace runs out between a probe and the clock that judges it; nothing is submitted between a
worker's proof and its refusal of a payment that may still succeed; and no refusal lands
between a worker's last sight of the row `paying`, or its own move there, and its
`payInvoice`. -/
def soundlyTimed (worker : ℕ) (reply : SendReply) (v : PayView) : SendOp → Bool
  | .getSendHtlcState =>
    match reply.htlc with
    | .ok none => !graceOver (v.attemptedAt worker) v.clock || columnCovers worker v
    | _ => true
  | .now => (v.probedAt worker).all fun probed =>
    !graceOver (v.attemptedAt worker) v.clock || graceOver (v.attemptedAt worker) probed
  | .update source .refused _ =>
    decide (v.state ≠ source) || decide (v.fate = .dead) || !v.paidSince worker
  | .payInvoice _ => !v.refusedSince worker
  | _ => true

/-- Every step of the run meets the condition. -/
def timely (wallet : WalletCaps) : Condition (sendMachine wallet) := fun worker op reply world =>
  soundlyTimed worker reply (view world) op = true

instance (wallet : WalletCaps) (worker : ℕ) (op : (sendMachine wallet).Op)
    (reply : (sendMachine wallet).Reply) (world : (sendMachine wallet).World) :
    Decidable (timely wallet worker op reply world) :=
  inferInstanceAs (Decidable (soundlyTimed worker reply (view world) op = true))

/-- What a proof is worth in such a run. -/
structure Standing (v : PayView) (notes : ℕ → PayNote) : Prop where
  /-- A judged proof: nothing was submitted before it. -/
  unpaid : ∀ worker, (notes worker).unpaid = true → v.paidSince worker = false → v.calls = []
  /-- A silence to be judged: nothing was submitted before it if the grace was over then. -/
  probed : ∀ worker, (notes worker).probed = true → ∀ probed ∈ v.probedAt worker,
    graceOver (v.attemptedAt worker) probed = true → v.paidSince worker = false → v.calls = []
  /-- A refused row was never paid for, or its payment is dead. -/
  stands : v.state = .refused → v.calls = [] ∨ v.fate = .dead

/-- A call the column covers is as old as the grace says, and then the probe shows it. -/
theorem uncalled_of_silence (ho : graceOver (v.attemptedAt worker) v.clock = true)
    (hc : columnCovers worker v = true)
    (hs : ∀ called ∈ v.calls, (v.clock : ℤ) < called + NO_RECORD_GRACE_SECONDS) :
    v.calls = [] := by
  by_contra hn
  obtain ⟨called, hmem⟩ := List.exists_mem_of_ne_nil _ hn
  have hyoung := hs called hmem
  have hcovered := List.all_eq_true.mp hc called hmem
  cases ha : v.attemptedAt worker with
  | none =>
    rw [ha] at hcovered
    cases hcovered
  | some attemptedAt =>
    rw [ha] at hcovered ho
    have hbefore : (called : ℤ) ≤ attemptedAt := of_decide_eq_true hcovered
    have hgrace : NO_RECORD_GRACE_SECONDS ≤ (v.clock : ℤ) - attemptedAt := of_decide_eq_true ho
    omega

/-- Learning nothing about proofs. -/
theorem Standing.relearn (h : Standing v notes) (hu : note.unpaid = true →
    (notes worker).unpaid = true) (hp : note.probed = true → (notes worker).probed = true) :
    Standing v (Function.update notes worker note) := by
  refine ⟨fun other hn => ?_, fun other hn => ?_, h.stands⟩
  · by_cases ho : other = worker
    · subst ho
      rw [Function.update_self] at hn
      exact h.unpaid other (hu hn)
    · rw [Function.update_of_ne ho] at hn
      exact h.unpaid other hn
  · by_cases ho : other = worker
    · subst ho
      rw [Function.update_self] at hn
      exact h.probed other (hp hn)
    · rw [Function.update_of_ne ho] at hn
      exact h.probed other hn

/-- While nothing was submitted every proof is worth its word. -/
theorem standing_of_uncalled (hc : v.calls = []) : Standing v notes :=
  ⟨fun _ _ _ => hc, fun _ _ _ _ _ _ => hc, fun _ => .inl hc⟩

/-- A worker reads the row: no silence of its own waits any longer. -/
theorem Standing.look (h : Standing v notes) (row : SendSwapRow) :
    Standing (lookAt worker v row.payAttemptedAt)
      (Function.update notes worker (learn (notes worker) .get row)) := by
  refine ⟨fun other hn => ?_, fun other hn probed hm ho => ?_, h.stands⟩
  · by_cases he : other = worker
    · subst he
      rw [Function.update_self] at hn
      exact h.unpaid other hn
    · rw [Function.update_of_ne he] at hn
      exact h.unpaid other hn
  · by_cases he : other = worker
    · subst he
      rw [Function.update_self] at hn
      cases hn
    · rw [Function.update_of_ne he] at hn
      simp only [lookAt, Function.update_of_ne he] at hm ho
      exact h.probed other hn probed hm ho

/-- A worker reads the clock: a silence it judges then is one it could have judged at once. -/
theorem Standing.judge (hx : Exclusion v notes) (h : Standing v notes)
    (ht : soundlyTimed worker reply v .now = true) :
    Standing (judgeAt worker v)
      (Function.update notes worker ((notes worker).judge v.clock)) := by
  refine ⟨fun other hn hp => ?_, fun other hn probed hm ho => ?_, h.stands⟩
  · by_cases he : other = worker
    · subst he
      rw [Function.update_self] at hn
      simp only [PayNote.judge, Bool.or_eq_true, Bool.and_eq_true] at hn
      obtain hn | ⟨hn, hover⟩ := hn
      · exact h.unpaid other hn hp
      · have hk := hx.knows other
        obtain ⟨probed, hprobed⟩ := Option.isSome_iff_exists.mp (hk.probed hn)
        obtain ⟨attemptedAt, hattempted, hover⟩ := Option.any_eq_true _ _ |>.mp hover
        rw [← hk.read attemptedAt hattempted] at hover
        simp only [soundlyTimed, hprobed, hover, Bool.not_true, Bool.false_or] at ht
        exact h.probed other hn probed hprobed ht hp
    · rw [Function.update_of_ne he] at hn
      exact h.unpaid other hn hp
  · by_cases he : other = worker
    · subst he
      rw [Function.update_self] at hn
      cases hn
    · rw [Function.update_of_ne he] at hn
      simp only [judgeAt, Function.update_of_ne he] at hm
      exact h.probed other hn probed hm ho

/-- A probe answers nothing: with the grace over and the column covering every call there
was none. -/
theorem Standing.prove (hx : Exclusion v notes) (h : Standing v notes)
    (ht : graceOver (v.attemptedAt worker) v.clock = true → columnCovers worker v = true)
    (hs : ∀ called ∈ v.calls, (v.clock : ℤ) < called + NO_RECORD_GRACE_SECONDS) :
    Standing (proveAt worker v)
      (Function.update notes worker (learn (notes worker) .getSendHtlcState (.ok none))) := by
  have hnone : graceOver (v.attemptedAt worker) v.clock = true → v.calls = [] :=
    fun ho => uncalled_of_silence ho (ht ho) hs
  refine ⟨fun other hn hp => ?_, fun other hn probed hm ho hp => ?_, h.stands⟩
  · by_cases he : other = worker
    · subst he
      rw [Function.update_self] at hn
      have hattempted := (hx.knows other).read none (of_decide_eq_true hn)
      exact hnone (by rw [hattempted]; rfl)
    · rw [Function.update_of_ne he] at hn
      simp only [proveAt, Function.update_of_ne he] at hp
      exact h.unpaid other hn hp
  · by_cases he : other = worker
    · subst he
      simp only [proveAt, Function.update_self, Option.mem_some_iff] at hm
      subst hm
      exact hnone ho
    · rw [Function.update_of_ne he] at hn
      simp only [proveAt, Function.update_of_ne he] at hm hp
      exact h.probed other hn probed hm ho hp

/-- A refusal that meets the condition stands. -/
theorem Standing.refuses (hx : Exclusion v notes) (h : Standing v notes) {source : SendSwapState}
    {columns : List SendColumn} (hm : may (notes worker) (.update source .refused columns))
    (ht : soundlyTimed worker reply v (.update source .refused columns) = true)
    (hs : v.state = source) : v.calls = [] ∨ v.fate = .dead := by
  simp only [soundlyTimed, Bool.or_eq_true, decide_eq_true_eq, Bool.not_eq_true'] at ht
  obtain (hn | hd) | hp := ht
  · exact absurd hs hn
  · exact .inr hd
  · rcases hm.2 rfl with hq | hf | hu | hd
    · exact .inl (hx.uncalled (.inl (hs.trans hq)))
    · exact .inl (hx.uncalled (.inr (hs.trans hf)))
    · exact .inl (h.unpaid worker hu hp)
    · exact .inr ((hx.knows worker).dead hd)

/-- A won transition. -/
theorem Standing.update (hx : Exclusion v notes) (h : Standing v notes)
    {source target : SendSwapState} {columns : List SendColumn}
    (hm : may (notes worker) (.update source target columns))
    (ht : soundlyTimed worker reply v (.update source target columns) = true)
    (hs : v.state = source) :
    Standing (moveTo worker v source target)
      (Function.update notes worker
        (learn (notes worker) (.update source target columns) true)) := by
  by_cases hc : source = .funded ∧ target = .paying
  · exact standing_of_uncalled (hx.uncalled (.inr (hs.trans hc.1)))
  · have hkept : Standing (moveTo worker v source target) notes := by
      refine ⟨fun other hn hp => ?_, fun other hn probed hl ho hp => ?_, fun hr => ?_⟩
      · simp only [moveTo, if_neg hc] at hp
        exact h.unpaid other hn hp
      · simp only [moveTo, if_neg hc] at hp
        exact h.probed other hn probed hl ho hp
      · have htarget : target = .refused := hr
        subst htarget
        have hstands := h.refuses hx hm ht hs
        exact hstands
    refine hkept.relearn (fun hn => ?_) id
    simpa [learn, hc] using hn

/-- A pay call by a worker no refusal has overtaken. -/
theorem Standing.pay (hx : Exclusion v notes) (h : Standing v notes)
    (hm : (notes worker).moved = true) (ht : v.refusedSince worker = false) (submits : Bool) :
    Standing (payAt v submits) notes := by
  cases submits with
  | false =>
    refine ⟨h.unpaid, h.probed, fun hr => ?_⟩
    simpa [payAt] using h.stands hr
  | true =>
    refine ⟨nofun, nofun, fun hr => ?_⟩
    have hsince := (hx.knows worker).since hm hr
    rw [ht] at hsince
    cases hsince

/-- Under the condition every licensed action leaves proofs and refusals standing. -/
theorem Standing.act (hx : Exclusion (view world) notes) (h : Standing (view world) notes)
    (hm : may (notes worker) op) (ht : soundlyTimed worker reply (view world) op = true)
    (hp : perform worker op reply world = some (answer, next)) :
    Standing (view next) (Function.update notes worker (learn (notes worker) op answer)) := by
  -- Actions whose view is the old one and which teach nothing of proofs.
  have hquiet : view next = view world →
      ((learn (notes worker) op answer).unpaid = true → (notes worker).unpaid = true) →
      ((learn (notes worker) op answer).probed = true → (notes worker).probed = true) →
      Standing (view next) (Function.update notes worker (learn (notes worker) op answer)) := by
    intro hv hu hpr
    rw [hv]
    exact h.relearn hu hpr
  cases op with
  | get =>
    cases hp
    exact h.look world.row
  | update source target columns =>
    rcases update_cases hp with ⟨rfl, hs, hv⟩ | ⟨rfl, rfl⟩
    · rw [hv]
      exact h.update hx hm ht hs
    · exact hquiet rfl (by simp [learn]) id
  | patch columns => exact hquiet (patch_cases hp) id id
  | findRefundable now => cases hp; exact hquiet rfl id id
  | backfillExternal =>
    cases hp
    refine hquiet ?_ id id
    rw [view_write, state_backfillExternal]
    rfl
  | backfillPushed =>
    cases hp
    refine hquiet ?_ id id
    rw [view_write, state_backfillPushed]
    rfl
  | now =>
    cases hp
    exact h.judge hx ht
  | boundedInputs outputs => cases hp; exact hquiet rfl id id
  | read question =>
    cases hp
    exact hquiet (view_see reply question) id id
  | refund outputs =>
    rcases refund_cases hp with hv | hv
    · exact hquiet hv id id
    · rw [hv]
      have hpushed : Standing { view world with refundPushed := true } notes :=
        ⟨h.unpaid, h.probed, h.stands⟩
      exact hpushed.relearn id id
  | claim outputs => exact hquiet (claim_cases hp) id id
  | finalizePendingClaim =>
    simp only [perform] at hp
    split at hp <;> cases hp <;> exact hquiet rfl id id
  | findClaimPreimage outpoint =>
    simp only [perform] at hp
    split at hp <;> cases hp <;> exact hquiet rfl id id
  | claimUnrolled lockup record =>
    simp only [perform] at hp
    split at hp <;> cases hp <;> exact hquiet rfl id id
  | getSendHtlcState =>
    rcases probe_cases hp with ⟨rfl, hcalls, hv⟩ | ⟨hne, hv, -⟩
    · rw [hv]
      refine h.prove hx (fun ho => ?_) hcalls
      have hsilent := probe_silent hp
      simpa [soundlyTimed, hsilent, ho] using ht
    · rcases answer with fault | _ | htlc
      · exact hquiet hv id id
      · exact absurd rfl hne
      · exact hquiet hv id id
  | getPayment paymentId =>
    simp only [perform] at hp
    split at hp <;> cases hp
    refine hquiet rfl ?_ ?_ <;> cases reply.payment <;> exact id
  | payInvoice params =>
    cases hp
    have hunrefused : (view world).refusedSince worker = false := by
      simpa [soundlyTimed] using ht
    have hpaid := h.pay hx hm hunrefused reply.submits
    exact hpaid.relearn id id
  | payResult =>
    simp only [perform] at hp
    split at hp <;> cases hp
    refine hquiet rfl ?_ ?_ <;> cases reply.payment <;> exact id

/-- Time and fate leave proofs and refusals standing. -/
theorem Standing.stir (hx : Exclusion (view world) notes) (h : Standing (view world) notes)
    {move : SendMove} (hs : stir move world = some next) : Standing (view next) notes := by
  obtain ⟨seconds, rfl⟩ | ⟨hf, rfl⟩ | ⟨-, rfl⟩ := stir_cases hs
  · exact ⟨h.unpaid, h.probed, h.stands⟩
  · refine ⟨h.unpaid, h.probed, fun hr => ?_⟩
    rcases h.stands hr with hc | hd
    · exact absurd hc (hx.flying (.inl hf))
    · cases hf.symm.trans hd
  · exact ⟨h.unpaid, h.probed, fun _ => .inr rfl⟩

/-- A worker that starts over holds no proof. -/
theorem Standing.forget (h : Standing v notes) (worker : ℕ) :
    Standing v (Function.update notes worker payDiscipline.fresh) :=
  h.relearn nofun nofun

/-- In a timely run every proof and every refusal stands. -/
def standingProtocol (wallet : WalletCaps) : Protocol (sendMachine wallet) (timely wallet) where
  discipline := payDiscipline
  inv world notes := Exclusion (view world) notes ∧ Standing (view world) notes
  forget _ _ worker h := ⟨h.1.forget worker, h.2.forget worker⟩
  act _ _ _ _ _ _ _ h hm ht hp := ⟨h.1.act hm hp, h.2.act h.1 hm ht hp⟩
  stir _ _ _ _ h hs := ⟨h.1.stir hs, h.2.stir h.1 hs⟩
  jobs := obeys_job wallet

/-- A refund and a settled payment would need a refusal that does not stand. -/
theorem Exclusion.excludes (hx : Exclusion v notes) (h : Standing v notes) :
    ¬(v.fate = .settled ∧ v.refundPushed = true) := by
  rintro ⟨hf, hp⟩
  have hnd : v.fate ≠ .dead := by
    rw [hf]
    decide
  rcases hx.pushed hp with hd | hr
  · exact hnd hd
  · rcases h.stands hr with hc | hd
    · exact hx.flying (.inr hf) hc
    · exact hnd hd

/-- In every run `payInvoice` is called only for a row some worker moved
`funded -> paying`; in every timely run no payment settles beside a refund the
solver pushed. -/
theorem pay_excludes_refund (wallet : WalletCaps) (quote : QuoteRecord) (clock : ℕ)
    (events : List (Event (sendMachine wallet))) (final : Config (sendMachine wallet))
    (hr : run (boot (quoted quote clock)) events = some final) :
    (final.world.payCalled = true → final.world.moved = true) ∧
      (Permitted (timely wallet) (boot (quoted quote clock)) events →
        ¬(final.world.fate = .settled ∧ final.world.refundPushed = true)) := by
  have hq := exclusion_quoted quote clock
  constructor
  · obtain ⟨notes, hf⟩ := (exclusionProtocol wallet).inv_of_run hq
      (permitted_anything _ events) hr
    exact hf.called
  · intro ht
    have hs : Standing (view (quoted quote clock)) fun _ => payDiscipline.fresh :=
      standing_of_uncalled rfl
    obtain ⟨notes, hf⟩ := (standingProtocol wallet).inv_of_run ⟨hq, hs⟩ ht hr
    exact hf.1.excludes hf.2

/-! ## A schedule that pays and refunds -/

/-- The indexer shows the lockup the quote asked for. -/
def sampleLockup : SendReply := { lockups := .ok [⟨"l1", 0, 50500, [], none⟩] }

/-- Two steps of one tick: the row is funded and moved to `paying`. -/
def sampleCommit : List SampleEvent :=
  [sampleTick 2, sampleAct {}, sampleAct sampleLockup, sampleAct {}, sampleAct {}, sampleAct {},
    sampleAct {}, sampleAct {}, sampleAct sampleLockup, sampleAct {}, sampleAct {}, sampleAct {}]

/-- A tick of the `paying` row up to its pay call: the probe finds nothing. -/
def sampleResubmit (submits : Bool) : List SampleEvent :=
  [sampleTick 1, sampleAct {}, sampleAct {}, sampleAct {}, sampleAct {}, sampleAct sampleLockup,
    sampleAct {}, sampleAct { submits }]

/-- The pay call says it submitted nothing: refuse, and push the refund. -/
def sampleRefund : List SampleEvent :=
  [sampleAct { payment := .error (.paymentNotStarted "no liquidity") }, sampleAct {},
    sampleAct sampleLockup, sampleAct { txid := .ok "refund1" }, sampleAct {}, sampleAct {}]

/-- The worker dies before its first pay call. A minute later it submits and
dies again; four seconds later the probe still misses that call, the next
call submits nothing, and the row is refused and refunded. -/
def doublePayment : List SampleEvent :=
  sampleCommit ++ [sampleStir (.wait 61)] ++ sampleResubmit true ++
    [sampleStir (.wait 4)] ++ sampleResubmit false ++ sampleRefund ++ [sampleStir .settle]

/-- The same without the lost call: the refund is the only leg. -/
def refundOnly : List SampleEvent :=
  sampleCommit ++ [sampleStir (.wait 61)] ++ sampleResubmit false ++ sampleRefund

/-- Pay and refund do not exclude each other: a submission that crashed leaves
`pay_attempted_at` old, so the next worker takes the probe's silence for proof. -/
theorem pays_and_refunds :
    ((run (boot (quoted sampleQuote 2000000000)) doublePayment).map fun final =>
      (final.world.row.state, final.world.fate, final.world.refundPushed)) =
      some (.refused, .settled, true) := by
  decide +kernel

/-- A timely run that refuses and refunds. -/
theorem pay_excludes_refund_sample :
    ∃ final, run (boot (quoted sampleQuote 2000000000)) refundOnly = some final ∧
      final.world.refundPushed = true ∧
      Permitted (timely sampleWallet) (boot (quoted sampleQuote 2000000000)) refundOnly ∧
      (final.world.payCalled = true → final.world.moved = true) ∧
      ¬(final.world.fate = .settled ∧ final.world.refundPushed = true) := by
  obtain ⟨final, hr⟩ : ∃ final, run (boot (quoted sampleQuote 2000000000)) refundOnly =
      some final := Option.isSome_iff_exists.mp (by decide +kernel)
  have hpushed : ((run (boot (quoted sampleQuote 2000000000)) refundOnly).map fun final =>
      final.world.refundPushed) = some true := by decide +kernel
  have ht : Permitted (timely sampleWallet) (boot (quoted sampleQuote 2000000000)) refundOnly := by
    decide +kernel
  have h := pay_excludes_refund sampleWallet sampleQuote 2000000000 refundOnly final hr
  rw [hr] at hpushed
  exact ⟨final, hr, Option.some.inj hpushed, ht, h.1, h.2 ht⟩

end IntentSolver.LightningSendExclusion
