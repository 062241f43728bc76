import IntentSolver.AdmissionAccounting
import IntentSolver.CorridorPolicy
import Mathlib.Tactic.Linarith

/-!
# The house exposure cap

Every corridor's quote claims headroom, prepares its terms, inserts its row and gives the
claim back, in this order and on every path. The committed total is summed over the live
rows when the query runs and held against the cap later, together with the claims of that
moment: a quote that lands and releases in between is in neither. A row may also be worth
more than its claim. In runs without either, the live rows and the claims that no row has
superseded stay under the cap at every moment. A row and the claim it supersedes stand side
by side until the release; where every check leaves room for that as well, so do the live
rows and all claims.
-/

namespace IntentSolver.HouseExposure

open Admission AdmissionAccounting CorridorPolicy WorkerProgram WorkerInterleaving

/-! ## The quotes -/

/-- Insert the row; a hash that is taken refuses the quote. -/
def insertRow (handle amountSats : ℕ) : Prog Bool := do
  match ← issue (.insertQuote handle amountSats) with
  | .ok _ => return true
  | .error .uniqueConstraint => return false
  | .error error => throw error

/-- Prepare the quote and insert it; the amount may depend on what was prepared. -/
def landQuote (handle : ℕ) (amountFor : ℕ → Option ℕ) : Prog Bool := do
  match ← Program.ofExcept (← issue .prepare) with
  | none => return false
  | some payable =>
    match amountFor payable with
    | none => return false
    | some amountSats => insertRow handle amountSats

/-- `finally`: the reservation is released whether the body returns or throws. -/
def releasingAfter (handle : ℕ) (body : Prog Bool) : Prog Bool := do
  let outcome ← Program.tryCatch (do return Except.ok (← body)) fun error => return .error error
  issue (.release handle)
  Program.ofExcept outcome

/-- Claim headroom, land the row, release. True when the quote was accepted. -/
def quoteWith (claim : Prog (Option ℕ)) (amountFor : ℕ → Option ℕ) : Prog Bool := do
  match ← claim with
  | none => return false
  | some handle => releasingAfter handle (landQuote handle amountFor)

/-- Lightning send: the lockup is claimed and inserted. -/
def lightningSendQuote (capSats : ℤ) (lockupSats : ℕ) (float : Option FloatRequirement) :
    Prog Bool :=
  quoteWith (admitRequest { giveSats := lockupSats, capSats := capSats, float := float })
    fun _ => some lockupSats

/-- Lightning receive: the give is claimed, and what the minted invoice asks for is
inserted; unless the payout was fixed, the two have to agree. -/
def lightningReceiveQuote (capSats : ℤ) (giveSats : ℕ) (exactOut : Bool) : Prog Bool :=
  quoteWith (admitRequest { giveSats := giveSats, capSats := capSats })
    fun payable => if !exactOut && decide (payable ≠ giveSats) then none else some payable

/-- On-chain send: the give is claimed and inserted. -/
def onchainSendQuote (capSats : ℤ) (giveSats : ℕ) (float : Option FloatRequirement) : Prog Bool :=
  quoteWith (admitRequest { giveSats := giveSats, capSats := capSats, float := float })
    fun _ => some giveSats

/-- EVM send: the amount is claimed and inserted. -/
def evmSendQuote (capSats : ℤ) (amountSats : ℕ) : Prog Bool :=
  quoteWith (reserve amountSats capSats) fun _ => some amountSats

/-- EVM receive: the payout is claimed, the gross amount is inserted. -/
def evmReceiveQuote (capSats : ℤ) (grossSats : ℕ) (fee : Fee) : Prog Bool :=
  if payoutSatsFor grossSats fee ≤ 0 then return false
  else quoteWith (reserve (payoutSatsFor grossSats fee) capSats) fun _ => some grossSats

/-- A quote on one of the corridors. -/
inductive QuoteJob where
  | lightningSend (lockupSats : ℕ) (float : Option FloatRequirement)
  | lightningReceive (giveSats : ℕ) (exactOut : Bool)
  | onchainSend (giveSats : ℕ) (float : Option FloatRequirement)
  | evmSend (amountSats : ℕ)
  | evmReceive (grossSats : ℕ) (fee : Fee)

/-- The quote's code. -/
def QuoteJob.quote (capSats : ℤ) : QuoteJob → Prog Bool
  | .lightningSend lockupSats float => lightningSendQuote capSats lockupSats float
  | .lightningReceive giveSats exactOut => lightningReceiveQuote capSats giveSats exactOut
  | .onchainSend giveSats float => onchainSendQuote capSats giveSats float
  | .evmSend amountSats => evmSendQuote capSats amountSats
  | .evmReceive grossSats fee => evmReceiveQuote capSats grossSats fee

/-- The quote as a job. -/
def QuoteJob.program (capSats : ℤ) (job : QuoteJob) : Prog Unit := do
  let _ ← job.quote capSats

/-- `SUM(amount_sats)` over the live rows. -/
def committed (rows : List ℕ) : ℤ := rows.sum

/-- The corridors' callbacks: the house total is a query over the live rows, which may
fail, and a refusal is only written down. -/
def houseCallbacks : Callbacks where
  committedSats reply rows := reply.sats.map fun _ => committed rows
  onRefused _ _ := .ok ()

/-- Concurrent quotes of one process under one cap. -/
def quoteMachine (capSats : ℤ) : Machine := processMachine houseCallbacks (QuoteJob.program capSats)

/-! ## What is exposed -/

/-- What a reservation claims while the row that supersedes it is live beside it. -/
def supersededBy (reservation : Issued) : ℤ :=
  if reservation.landed && !reservation.released then reservation.size.exposure else 0

/-- Claims counted twice: their rows have landed and they are not released yet. -/
def superseded (issued : List Issued) : ℤ := (issued.map supersededBy).sum

/-- The live rows and every claim no row has superseded. -/
def exposed (world : AdmissionWorld) : ℤ :=
  committed world.rows + (world.control.reserved - superseded world.issued)

/-- The live rows and every claim at this weight, less those a row has superseded. At weight
one it is what is exposed; at weight two it covers each claim and the row to come. -/
def weighed (weight : ℤ) (world : AdmissionWorld) : ℤ :=
  committed world.rows + (weight * world.control.reserved - superseded world.issued)

/-- A row is worth no more than its claim, and no claim is released whose row landed since
the total now being checked was read. -/
def landsCovered (world : AdmissionWorld) : AdmissionOp → Bool
  | .insertQuote handle amountSats =>
    match world.issued[handle]? with
    | some reservation => decide ((amountSats : ℤ) ≤ reservation.size.exposure)
    | none => true
  | .release handle =>
    match world.issued[handle]? with
    | some reservation => !(world.reading && reservation.recent)
    | none => true
  | _ => true

/-- A check that passes leaves room, beside the total it read, for all claims at this weight,
its own included. -/
def leavesRoom (capSats weight : ℤ) (world : AdmissionWorld) : AdmissionOp → Bool
  | .claimExposure sats _ total =>
    decide (capSats < total + world.control.reserved + sats) ||
      decide (total + weight * (world.control.reserved + sats) ≤ capSats)
  | _ => true

/-- Every step of the run is covered, with room at this weight. -/
def covered (capSats weight : ℤ) : Condition (quoteMachine capSats) :=
  fun _ op _ world => landsCovered world op = true ∧ leavesRoom capSats weight world op = true

instance (capSats weight : ℤ) (worker : ℕ) (op : (quoteMachine capSats).Op)
    (reply : (quoteMachine capSats).Reply) (world : (quoteMachine capSats).World) :
    Decidable (covered capSats weight worker op reply world) :=
  inferInstanceAs (Decidable (landsCovered world op = true ∧
    leavesRoom capSats weight world op = true))

/-! ## What a quote may do -/

/-- Where a quote stands. -/
inductive QuoteNote where
  | outside
  /-- Its job is running. -/
  | inside
  /-- Its job has read this total and not used it yet. -/
  | read (total : ℤ)
  /-- It holds a reservation and has inserted nothing. -/
  | holds (handle : ℕ)
  /-- It has tried to insert its row. -/
  | landed (handle : ℕ)

/-- Check a total that was read, insert once under an own reservation, release an own one. -/
def mayQuote (capSats : ℤ) : QuoteNote → AdmissionOp → Prop
  | note, .committedSats => note = .inside
  | note, .claimExposure sats cap total => note = .read total ∧ cap = capSats ∧ 0 < sats
  | _, .undoExposure sats => 0 < sats
  | note, .insertQuote handle _ => note = .holds handle
  | note, .release handle => note = .holds handle ∨ note = .landed handle
  | _, .restore _ _ => False
  | _, _ => True

/-- Where the quote stands after an answer. -/
def learnQuote : QuoteNote → (op : AdmissionOp) → op.Ans → QuoteNote
  | _, .enter, _ => .inside
  | _, .settle _, some handle => .holds handle
  | _, .settle _, none => .outside
  | _, .committedSats, .ok total => .read total
  | _, .claimExposure _ _ _, _ => .inside
  | _, .insertQuote handle _, _ => .landed handle
  | _, .release _, _ => .outside
  | note, _, _ => note

/-- What a quote may do under the house cap, given its standing. -/
def quoteDiscipline (capSats : ℤ) : Discipline AdmissionOp.Ans where
  Note := QuoteNote
  fresh := .outside
  may := mayQuote capSats
  learn := learnQuote

/-- What a reservation claims whose row landed since the total was read. -/
def recentBy (reservation : Issued) : ℤ :=
  if reservation.recent then supersededBy reservation else 0

/-- Claims whose rows landed since the total was read. -/
def recentlySuperseded (issued : List Issued) : ℤ := (issued.map recentBy).sum

/-- The exposure part of a closure is not negative. -/
def Positive (undo : List Undo) : Prop := ∀ one ∈ undo, 0 ≤ (givenBack one).1

/-- What a quote's standing says of the world. -/
def Stands (world : AdmissionWorld) (worker : ℕ) : QuoteNote → Prop
  | .outside => True
  | .inside => world.turn = some worker
  | .read total => world.turn = some worker ∧ world.reading = true ∧
    committed world.rows - recentlySuperseded world.issued ≤ total
  | .holds handle => ∃ reservation, world.issued[handle]? = some reservation ∧
    reservation.worker = worker ∧ reservation.released = false ∧ reservation.landed = false
  | .landed handle => ∃ reservation, world.issued[handle]? = some reservation ∧
    reservation.worker = worker

/-- The cap holds at this weight, no closure gives headroom away, and every quote stands where
it notes. -/
structure CapInv (capSats weight : ℤ) (world : AdmissionWorld) (notes : ℕ → QuoteNote) :
    Prop where
  weighs : 1 ≤ weight
  cap : weighed weight world ≤ capSats
  frame : Positive world.undo
  claims : ∀ reservation ∈ world.issued, Positive reservation.undo
  stands : ∀ worker, Stands world worker (notes worker)

/-! ## Sums -/

/-- A new reservation supersedes no older one. -/
theorem superseded_append (issued : List Issued) (worker : ℕ) (size : Size) (undo : List Undo) :
    superseded (issued ++ [issuedTo worker size undo]) = superseded issued := by
  simp [superseded, supersededBy, issuedTo]

/-- Ageing the reservations supersedes none of them. -/
theorem superseded_older (issued : List Issued) :
    superseded (issued.map Issued.older) = superseded issued := by
  unfold superseded
  rw [List.map_map]
  rfl

/-- As the total is read, no row has landed since. -/
theorem recentlySuperseded_older (issued : List Issued) :
    recentlySuperseded (issued.map Issued.older) = 0 := by
  unfold recentlySuperseded
  rw [List.map_map]
  have hzero : recentBy ∘ Issued.older = fun _ => 0 := by
    funext reservation
    simp [recentBy, Issued.older]
  rw [hzero]
  simp

/-- A list of non-negative undo entries claims a non-negative exposure. -/
theorem claimed_positive {undo : List Undo} (h : Positive undo) : 0 ≤ (claimed undo).1 := by
  induction undo with
  | nil => exact le_refl 0
  | cons one rest ih =>
    have hone := h one List.mem_cons_self
    have hrest := ih fun other hm => h other (List.mem_cons_of_mem _ hm)
    have hsum : (claimed (one :: rest)).1 = (givenBack one).1 + (claimed rest).1 := by
      simp [claimed]
    omega

/-- What landed since the total was read is part of what has landed. -/
theorem recentlySuperseded_le {issued : List Issued}
    (h : ∀ reservation ∈ issued, 0 ≤ supersededBy reservation) :
    recentlySuperseded issued ≤ superseded issued := by
  induction issued with
  | nil => exact le_refl 0
  | cons reservation rest ih =>
    have hone := h reservation List.mem_cons_self
    have hrest := ih fun other hm => h other (List.mem_cons_of_mem _ hm)
    have hpart : recentBy reservation ≤ supersededBy reservation := by
      unfold recentBy
      split <;> omega
    simp only [recentlySuperseded, superseded, List.map_cons, List.sum_cons] at hrest ⊢
    omega

/-- One more landed row adds its amount to what is committed. -/
theorem committed_cons (amountSats : ℕ) (rows : List ℕ) :
    committed (amountSats :: rows) = amountSats + committed rows := by
  simp [committed]

/-- Dropping a landed row never raises what is committed. -/
theorem committed_eraseIdx (rows : List ℕ) (index : ℕ) :
    committed (rows.eraseIdx index) ≤ committed rows := by
  unfold committed
  induction rows generalizing index with
  | nil => simp
  | cons head rest ih =>
    cases index with
    | zero => simp
    | succ index =>
      have hrest := ih index
      simp only [List.eraseIdx_cons_succ, List.sum_cons, Nat.cast_add] at hrest ⊢
      omega

/-! ## What one action does -/

section Steps

variable {capSats weight : ℤ} {world next : AdmissionWorld} {notes : ℕ → QuoteNote}
  {worker other : ℕ} {note : QuoteNote}

/-- One quote moves, the others stand where they stood. -/
theorem CapInv.step (h : CapInv capSats weight world notes) (hcap : weighed weight next ≤ capSats)
    (hf : Positive next.undo) (hc : ∀ reservation ∈ next.issued, Positive reservation.undo)
    (ho : ∀ other, other ≠ worker → Stands world other (notes other) →
      Stands next other (notes other))
    (hs : Stands next worker note) :
    CapInv capSats weight next (Function.update notes worker note) := by
  refine ⟨h.weighs, hcap, hf, hc, fun other => ?_⟩
  by_cases he : other = worker
  · rw [he, Function.update_self]
    exact hs
  · rw [Function.update_of_ne he]
    exact ho other he (h.stands other)

/-- Nothing a quote relies on changed. -/
theorem Stands.keep (h : Stands world other note) (ht : next.turn = world.turn)
    (hr : next.reading = world.reading)
    (hl : world.reading = true → committed next.rows - recentlySuperseded next.issued ≤
      committed world.rows - recentlySuperseded world.issued)
    (hi : ∀ (handle : ℕ) (reservation : Issued), world.issued[handle]? = some reservation →
      reservation.worker = other → next.issued[handle]? = some reservation) :
    Stands next other note := by
  cases note with
  | outside => trivial
  | inside => exact ht.trans h
  | read total => exact ⟨ht.trans h.1, hr.trans h.2.1, (hl h.2.1).trans h.2.2⟩
  | holds handle =>
    obtain ⟨reservation, hg, hw, hrest⟩ := h
    exact ⟨reservation, hi handle reservation hg hw, hw, hrest⟩
  | landed handle =>
    obtain ⟨reservation, hg, hw⟩ := h
    exact ⟨reservation, hi handle reservation hg hw, hw⟩

/-- While another quote's job runs, a quote relies on its reservation alone. -/
theorem Stands.away (h : Stands world other note) (ht : world.turn = some worker)
    (hne : other ≠ worker)
    (hi : ∀ (handle : ℕ) (reservation : Issued), world.issued[handle]? = some reservation →
      reservation.worker = other → ∃ after, next.issued[handle]? = some after ∧
        after.worker = other ∧ after.released = reservation.released ∧
        after.landed = reservation.landed) :
    Stands next other note := by
  have hturn : world.turn ≠ some other := by
    rw [ht]
    exact fun he => hne (Option.some.inj he).symm
  cases note with
  | outside => trivial
  | inside => exact absurd h hturn
  | read total => exact absurd h.1 hturn
  | holds handle =>
    obtain ⟨reservation, hg, hw, hrel, hland⟩ := h
    obtain ⟨after, ha, hworker, hreleased, hlanded⟩ := hi handle reservation hg hw
    exact ⟨after, ha, hworker, hreleased.trans hrel, hlanded.trans hland⟩
  | landed handle =>
    obtain ⟨reservation, hg, hw⟩ := h
    obtain ⟨after, ha, hworker, -⟩ := hi handle reservation hg hw
    exact ⟨after, ha, hworker⟩

/-- A look at the world moves the quote alone. -/
theorem CapInv.look (h : CapInv capSats weight world notes) (hs : Stands world worker note) :
    CapInv capSats weight world (Function.update notes worker note) :=
  h.step h.cap h.frame h.claims (fun _ _ ho => ho) hs

/-- A job is started while no other runs. -/
theorem CapInv.enter (h : CapInv capSats weight world notes) (ht : world.turn = none) (worker : ℕ) :
    CapInv capSats weight { world with turn := some worker, undo := [] }
      (Function.update notes worker .inside) := by
  refine h.step h.cap (fun one hm => by cases hm) h.claims (fun other _ ho => ?_) rfl
  cases hn : notes other with
  | outside => trivial
  | inside =>
    rw [hn] at ho
    exact absurd (ht.symm.trans ho) (by simp)
  | read total =>
    rw [hn] at ho
    exact absurd (ht.symm.trans ho.1) (by simp)
  | holds handle =>
    rw [hn] at ho
    exact ho
  | landed handle =>
    rw [hn] at ho
    exact ho

/-- A job ends without a reservation. -/
theorem CapInv.leave (h : CapInv capSats weight world notes) (ht : world.turn = some worker) :
    CapInv capSats weight { world with turn := none, undo := [] }
      (Function.update notes worker .outside) := by
  refine h.step h.cap (fun one hm => by cases hm) h.claims (fun other hne ho => ?_) trivial
  exact ho.away ht hne fun handle reservation hg hw => ⟨reservation, hg, hw, rfl, rfl⟩

/-- A job ends with a reservation, which is the last of the list. -/
theorem CapInv.issue (h : CapInv capSats weight world notes) (ht : world.turn = some worker)
    (size : Size) :
    CapInv capSats weight { world with
        turn := none
        undo := []
        issued := world.issued ++ [issuedTo worker size world.undo] }
      (Function.update notes worker (.holds world.issued.length)) := by
  refine h.step ?_ (fun one hm => by cases hm) ?_ (fun other hne ho => ?_) ?_
  · unfold weighed
    dsimp only
    rw [superseded_append]
    exact h.cap
  · intro reservation hm
    obtain hm | hm := List.mem_append.mp hm
    · exact h.claims reservation hm
    · obtain rfl := List.mem_singleton.mp hm
      exact h.frame
  · refine ho.away ht hne fun handle reservation hg hw => ⟨reservation, ?_, hw, rfl, rfl⟩
    obtain ⟨hlt, -⟩ := List.getElem?_eq_some_iff.mp hg
    dsimp only
    rw [List.getElem?_append_left hlt, hg]
  · exact ⟨issuedTo worker size world.undo, by simp, rfl, rfl, rfl⟩

/-- The committed total is read. -/
theorem CapInv.total (h : CapInv capSats weight world notes) (ht : world.turn = some worker)
    (hn : notes worker = .inside) (reply : AdmissionReply) :
    CapInv capSats weight { world with
        issued := world.issued.map Issued.older
        reading := (houseCallbacks.committedSats reply world.rows).isOk }
      (Function.update notes worker (learnQuote (notes worker) .committedSats
        (houseCallbacks.committedSats reply world.rows))) := by
  refine h.step ?_ h.frame ?_ (fun other hne ho => ?_) ?_
  · unfold weighed
    dsimp only
    rw [superseded_older]
    exact h.cap
  · intro reservation hm
    obtain ⟨older, ho, rfl⟩ := List.mem_map.mp hm
    exact h.claims older ho
  · refine ho.away ht hne fun handle reservation hg hw => ⟨reservation.older, ?_, hw, rfl, rfl⟩
    dsimp only
    rw [List.getElem?_map, hg]
    rfl
  · cases ha : reply.sats with
    | ok value =>
      have hanswer : houseCallbacks.committedSats reply world.rows =
          .ok (committed world.rows) := by
        simp [houseCallbacks, ha, Except.map]
      rw [hanswer]
      refine ⟨ht, rfl, ?_⟩
      dsimp only
      rw [recentlySuperseded_older, Int.sub_zero]
    | error error =>
      have hanswer : houseCallbacks.committedSats reply world.rows = .error error := by
        simp [houseCallbacks, ha, Except.map]
      rw [hanswer, hn]
      exact ht

/-- A check of the total that was read leaves room for what it lets through. -/
theorem CapInv.check (h : CapInv capSats weight world notes)
    (hpos : ∀ reservation ∈ world.issued, 0 ≤ supersededBy reservation) {sats total : ℤ}
    (hs : 0 < sats) (hn : notes worker = .read total)
    (hroom : leavesRoom capSats weight world (.claimExposure sats capSats total) = true)
    {control : AdmissionControl}
    (hclaim : world.control.claimExposure sats capSats total = some control) :
    CapInv capSats weight
      { world with control := control, undo := [.exposure sats], reading := false }
      (Function.update notes worker .inside) := by
  have hread := h.stands worker
  rw [hn] at hread
  obtain ⟨ht, -, htotal⟩ := hread
  have hrecent := recentlySuperseded_le hpos
  refine h.step ?_ ?_ h.claims (fun other hne ho => ?_) ht
  · unfold AdmissionControl.claimExposure at hclaim
    split at hclaim
    · cases hclaim
    next hpass =>
      cases hclaim
      simp only [leavesRoom, decide_eq_false hpass, Bool.false_or, decide_eq_true_eq] at hroom
      simp only [weighed]
      omega
  · intro one hm
    obtain rfl := List.mem_singleton.mp hm
    exact hs.le
  · exact ho.away ht hne fun handle reservation hg hw => ⟨reservation, hg, hw, rfl, rfl⟩

/-- A check that lets nothing through ends the reading. -/
theorem CapInv.full (h : CapInv capSats weight world notes) {total : ℤ}
    (hn : notes worker = .read total) :
    CapInv capSats weight { world with reading := false }
      (Function.update notes worker .inside) := by
  have hread := h.stands worker
  rw [hn] at hread
  refine h.step h.cap h.frame h.claims (fun other hne ho => ?_) hread.1
  exact ho.away hread.1 hne fun handle reservation hg hw => ⟨reservation, hg, hw, rfl, rfl⟩

/-- The running job changes its closures and lowers the exposure counter at most. -/
theorem CapInv.lower (h : CapInv capSats weight world notes) {control : AdmissionControl}
    {undo : List Undo} (hc : control.reserved ≤ world.control.reserved) (hu : Positive undo) :
    CapInv capSats weight { world with control := control, undo := undo }
      (Function.update notes worker (notes worker)) := by
  have hcap := h.cap
  have hless := mul_le_mul_of_nonneg_left hc (show 0 ≤ weight by linarith [h.weighs])
  refine h.step ?_ hu h.claims
    (fun other _ ho => ho.keep rfl rfl (fun _ => le_rfl) fun _ _ hg _ => hg)
    ((h.stands worker).keep rfl rfl (fun _ => le_rfl) fun _ _ hg _ => hg)
  simp only [weighed] at hcap ⊢
  omega

/-- A change at one quote's reservation is none at another's. -/
theorem getElem?_set_other {issued : List Issued} {handle place : ℕ}
    {reservation mine after : Issued} (hm : issued[place]? = some mine) (hw : mine.worker = worker)
    (hne : other ≠ worker) (hg : issued[handle]? = some reservation)
    (ho : reservation.worker = other) : (issued.set place after)[handle]? = some reservation := by
  have hplace : place ≠ handle := by
    rintro rfl
    rw [hm] at hg
    cases hg
    exact hne (ho.symm.trans hw)
  rw [List.getElem?_set_ne hplace, hg]

/-- Overwriting a reservation with its own undo list keeps every list non-negative. -/
theorem positive_set {issued : List Issued} {handle : ℕ} {reservation after : Issued}
    (h : ∀ reservation ∈ issued, Positive reservation.undo)
    (hg : issued[handle]? = some reservation) (hu : after.undo = reservation.undo) :
    ∀ reservation ∈ issued.set handle after, Positive reservation.undo := by
  intro one hm
  obtain hm | rfl := List.mem_or_eq_of_mem_set hm
  · exact h one hm
  · rw [hu]
    exact h reservation (List.mem_of_getElem? hg)

/-- A row that lands under its claim replaces it. -/
theorem CapInv.land (h : CapInv capSats weight world notes) {handle amountSats : ℕ}
    (hn : notes worker = .holds handle)
    (hc : landsCovered world (.insertQuote handle amountSats) = true)
    (hp : landAt handle amountSats world = some next) :
    CapInv capSats weight next (Function.update notes worker (.landed handle)) := by
  have hmine := h.stands worker
  rw [hn] at hmine
  obtain ⟨reservation, hg, hw, hrel, hland⟩ := hmine
  have hamount : (amountSats : ℤ) ≤ reservation.size.exposure := by
    simpa [landsCovered, hg] using hc
  unfold landAt at hp
  rw [hg] at hp
  cases hp
  have hbefore : supersededBy reservation = 0 := by simp [supersededBy, hland]
  have hafter : supersededBy { reservation with landed := true, recent := true } =
      reservation.size.exposure := by simp [supersededBy, hrel]
  have hrecentBefore : recentBy reservation = 0 := by simp [recentBy, hbefore]
  have hrecentAfter : recentBy { reservation with landed := true, recent := true } =
      reservation.size.exposure := by simp [recentBy, hafter]
  refine h.step ?_ h.frame (positive_set h.claims hg rfl) (fun other hne ho => ?_) ?_
  · have hcap := h.cap
    simp only [weighed, committed_cons, superseded, sum_map_set supersededBy hg, hbefore,
      hafter] at hcap ⊢
    omega
  · refine ho.keep rfl rfl (fun _ => ?_) fun place one hone hworker =>
      getElem?_set_other hg hw hne hone hworker
    simp only [committed_cons, recentlySuperseded, sum_map_set recentBy hg, hrecentBefore,
      hrecentAfter]
    omega
  · obtain ⟨hlt, -⟩ := List.getElem?_eq_some_iff.mp hg
    exact ⟨_, List.getElem?_set_self hlt, hw⟩

/-- A release gives back a claim whose row has landed, or one that never will. -/
theorem CapInv.release (h : CapInv capSats weight world notes) {handle : ℕ} {reservation : Issued}
    (hg : world.issued[handle]? = some reservation) (hw : reservation.worker = worker)
    (hb : reservation.released = false → claimed reservation.undo = sized reservation.size)
    (hc : landsCovered world (.release handle) = true) (hp : releaseAt handle world = some next) :
    CapInv capSats weight next (Function.update notes worker .outside) := by
  unfold releaseAt at hp
  rw [hg] at hp
  dsimp only at hp
  split at hp
  next =>
    cases hp
    exact h.look trivial
  next hlive =>
    cases hp
    have hrel : reservation.released = false := by simpa using hlive
    have hsize : (claimed reservation.undo).1 = reservation.size.exposure :=
      congrArg Prod.fst (hb hrel)
    have hpos := claimed_positive (h.claims reservation (List.mem_of_getElem? hg))
    have hcount : (undoAll reservation.undo world.control).reserved =
        world.control.reserved - reservation.size.exposure := by
      rw [← hsize]
      exact congrArg Prod.fst (counted_undoAll reservation.undo world.control)
    have hbefore : supersededBy reservation ≤ reservation.size.exposure := by
      unfold supersededBy
      split <;> omega
    have hafter : supersededBy { reservation with released := true } = 0 := by
      simp [supersededBy]
    have hrecentAfter : recentBy { reservation with released := true } = 0 := by
      simp [recentBy, hafter]
    refine h.step ?_ h.frame (positive_set h.claims hg rfl) (fun other hne ho => ?_) trivial
    · have hcap := h.cap
      have hweighs := le_mul_of_one_le_left (show 0 ≤ reservation.size.exposure by omega) h.weighs
      simp only [weighed, superseded, sum_map_set supersededBy hg, hafter, hcount, mul_sub]
        at hcap ⊢
      omega
    · refine ho.keep rfl rfl (fun hreading => ?_) fun place one hone hworker =>
        getElem?_set_other hg hw hne hone hworker
      have hrecent : reservation.recent = false := by
        simpa [landsCovered, hg, hreading] using hc
      have hrecentBefore : recentBy reservation = 0 := by simp [recentBy, hrecent]
      simp only [recentlySuperseded, sum_map_set recentBy hg, hrecentBefore, hrecentAfter]
      omega

/-- A row that stops being live makes room. -/
theorem CapInv.retire (h : CapInv capSats weight world notes) (index : ℕ) :
    CapInv capSats weight { world with rows := world.rows.eraseIdx index } notes := by
  have hless := committed_eraseIdx world.rows index
  refine ⟨h.weighs, ?_, h.frame, h.claims, fun worker => ?_⟩
  · have hcap := h.cap
    simp only [weighed] at hcap ⊢
    omega
  · refine (h.stands worker).keep rfl rfl (fun _ => ?_) fun _ _ hg _ => hg
    dsimp only
    omega

end Steps

/-- The closures after they were called. -/
theorem positive_called {undo : List Undo} (h : Positive undo) :
    Positive (undo.map Undo.called) := by
  intro one hm
  obtain ⟨before, hb, rfl⟩ := List.mem_map.mp hm
  have hpos := h before hb
  cases before with
  | held poolId sats released => simp [Undo.called, givenBack]
  | _ => exact hpos

/-- A non-negative entry keeps an undo list non-negative. -/
theorem positive_append {undo : List Undo} (h : Positive undo) {one : Undo}
    (ho : 0 ≤ (givenBack one).1) : Positive (undo ++ [one]) := by
  intro other hm
  obtain hm | hm := List.mem_append.mp hm
  · exact h other hm
  · obtain rfl := List.mem_singleton.mp hm
    exact ho

/-- Every covered action of a quote keeps the cap. -/
theorem CapInv.perform {capSats weight : ℤ} {world next : AdmissionWorld} {notes : ℕ → QuoteNote}
    {jobs : ℕ → JobNote} {worker : ℕ} {op : AdmissionOp} {reply : AdmissionReply} {answer : op.Ans}
    (h : CapInv capSats weight world notes) (hb : AdmissionAccounting.Inv world jobs)
    (hj : mayBook (jobs worker) op) (hm : mayQuote capSats (notes worker) op)
    (hc : landsCovered world op = true) (hroom : leavesRoom capSats weight world op = true)
    (hp : Admission.perform houseCallbacks worker op reply world = some (answer, next)) :
    CapInv capSats weight next
      (Function.update notes worker (learnQuote (notes worker) op answer)) := by
  have hsame : CapInv capSats weight world (Function.update notes worker (notes worker)) :=
    h.look (h.stands worker)
  have hpos : ∀ reservation ∈ world.issued, 0 ≤ supersededBy reservation := by
    intro reservation hr
    unfold supersededBy
    split
    next hl =>
      have hrel : reservation.released = false := by simp_all
      have hsize := congrArg Prod.fst (hb.backed reservation hr hrel)
      have hundo := claimed_positive (h.claims reservation hr)
      simp only [sized] at hsize
      omega
    next => exact le_refl 0
  cases op with
  | enter =>
    simp only [Admission.perform] at hp
    split at hp
    next ht =>
      cases hp
      exact h.enter ht worker
    next => cases hp
  | settle size =>
    have hout : jobs worker ≠ .outside := by
      intro hout
      have hsettles : settles (jobs worker) size := hj
      rw [hout] at hsettles
      cases size <;> exact hsettles
    have ht := hb.turn worker hout
    cases size with
    | none =>
      cases hp
      exact h.leave ht
    | some size =>
      cases hp
      exact h.issue ht size
  | committedSats =>
    have hn : notes worker = .inside := hm
    have ht := h.stands worker
    rw [hn] at ht
    cases hp
    exact h.total ht hn reply
  | claimExposure sats cap total =>
    obtain ⟨hn, rfl, hs⟩ := hm
    simp only [Admission.perform] at hp
    split at hp
    next control hcontrol =>
      cases hp
      exact h.check hpos hs hn hroom hcontrol
    next =>
      cases hp
      exact h.full hn
  | claimFloat required availableSats owedSats =>
    simp only [Admission.perform] at hp
    split at hp
    next control hcontrol =>
      cases hp
      have hreserved : control.reserved = world.control.reserved := by
        have hcount := congrArg Prod.fst (counted_claimFloat hcontrol)
        simpa [counted, givenBack] using hcount
      exact h.lower hreserved.le (positive_append h.frame (le_refl 0))
    next =>
      cases hp
      exact hsame
  | restoreInventory poolId sats nested =>
    simp only [Admission.perform] at hp
    split at hp
    next control hcontrol =>
      cases hp
      have hreserved : control.reserved = world.control.reserved := by
        have hcount := congrArg Prod.fst (counted_restoreInventory hcontrol)
        simpa [counted, givenBack] using hcount
      refine h.lower hreserved.le (positive_append h.frame ?_)
      rw [givenBack_hold]
      exact le_refl 0
    next =>
      cases hp
      exact hsame
  | undoExposure sats =>
    cases hp
    have hs : 0 < sats := hm
    refine h.lower ?_ h.frame
    simp only [Undo.call]
    omega
  | undoAll =>
    cases hp
    refine h.lower ?_ (positive_called h.frame)
    have hcount : (undoAll world.undo world.control).reserved =
        world.control.reserved - (claimed world.undo).1 :=
      congrArg Prod.fst (counted_undoAll world.undo world.control)
    have hundo := claimed_positive h.frame
    omega
  | release handle =>
    obtain ⟨after, hr, hp⟩ := Option.map_eq_some_iff.mp hp
    cases hp
    have hmine := h.stands worker
    obtain ⟨reservation, hg, hw⟩ : ∃ reservation, world.issued[handle]? = some reservation ∧
        reservation.worker = worker := by
      obtain hn | hn := hm
      · rw [hn] at hmine
        obtain ⟨reservation, hg, hw, -⟩ := hmine
        exact ⟨reservation, hg, hw⟩
      · rw [hn] at hmine
        exact hmine
    exact h.release hg hw (hb.backed reservation (List.mem_of_getElem? hg)) hc hr
  | insertQuote handle amountSats =>
    have hn : notes worker = .holds handle := hm
    simp only [Admission.perform] at hp
    split at hp
    next =>
      obtain ⟨after, hr, hp⟩ := Option.map_eq_some_iff.mp hp
      cases hp
      exact h.land hn hc hr
    next =>
      cases hp
      have hmine := h.stands worker
      rw [hn] at hmine
      obtain ⟨reservation, hg, hw, -⟩ := hmine
      exact h.look ⟨reservation, hg, hw⟩
  | restore poolId sats => exact absurd hm id
  | onRefused ceiling =>
    cases hp
    exact hsame
  | inventoryFor =>
    cases hp
    exact hsame
  | owedSats =>
    cases hp
    exact hsame
  | inventoryGeneration =>
    cases hp
    exact hsame
  | outstandingInventorySats poolId =>
    cases hp
    exact hsame
  | prepare =>
    cases hp
    exact hsame

/-! ## The quotes keep to it -/

/-- Where a quote stands once its claim was answered. -/
def answered : Option ℕ → QuoteNote
  | some handle => .holds handle
  | none => .outside

section Code

variable {capSats : ℤ}

/-- A job that obeys the cap inside the queue obeys it when queued. -/
theorem obeys_serialise {job : Prog (Option Size)}
    (h : (quoteDiscipline capSats).Obeys .inside job fun _ _ => True) :
    (quoteDiscipline capSats).Obeys .outside (serialise job) fun result note =>
      note = answered result := by
  refine Discipline.obeys_issue_bind.mpr ⟨trivial, fun _ => ?_⟩
  refine (h.tryCatch fun error note => ?_).bind fun size note _ => ⟨trivial, fun answer => ?_⟩
  · exact ⟨trivial, fun _ => trivial⟩
  · cases answer <;> rfl

/-- A job that goes on with the total it reads. -/
theorem obeys_total {rest : ℤ → Prog (Option Size)}
    (hr : ∀ total, (quoteDiscipline capSats).Obeys (.read total) (rest total) fun _ _ => True) :
    (quoteDiscipline capSats).Obeys .inside ((issue .committedSats).bind fun answer =>
      (Program.ofExcept answer).bind rest) fun _ _ => True := by
  refine Discipline.obeys_issue_bind.mpr ⟨rfl, fun answer => ?_⟩
  cases answer with
  | error error => trivial
  | ok total => exact hr total

/-- Every call of `reserve` with the house cap obeys it. -/
theorem obeys_reserve (sats : ℤ) :
    (quoteDiscipline capSats).Obeys .outside (Admission.reserve sats capSats) fun result note =>
      note = answered result := by
  refine obeys_serialise ?_
  unfold reserveJob
  split
  · trivial
  next hs =>
    have hpos : 0 < sats := not_not.mp hs
    refine obeys_total fun total => Discipline.obeys_issue_bind.mpr ⟨⟨rfl, rfl, hpos⟩, ?_⟩
    intro won
    cases won <;> trivial

/-- Everything behind the exposure claim leaves the quote inside its job. -/
theorem idle_takeCeilings (request : AdmissionRequest) (hs : 0 < request.giveSats)
    (generation : ℕ) (guardedInventory : Option InventoryRequirement) :
    (quoteDiscipline capSats).Idle (takeCeilings request generation guardedInventory) := by
  have hsilent : ∀ op : AdmissionOp,
      (∀ note, mayQuote capSats note op ∧ ∀ answer, learnQuote note op answer = note) →
      (quoteDiscipline capSats).Idle (issue op) := fun op ho => Discipline.idle_issue ho
  have howed : (quoteDiscipline capSats).Idle (do
      Program.ofExcept (← issue .owedSats) : Prog ℤ) :=
    (hsilent .owedSats fun _ => ⟨trivial, fun _ => rfl⟩).bind Discipline.idle_ofExcept
  have htold : ∀ {α : Type} (value : α), (quoteDiscipline capSats).Idle (do
      Program.ofExcept (← issue (.onRefused .float))
      return value : Prog α) := fun value =>
    (hsilent (.onRefused .float) fun _ => ⟨trivial, fun _ => rfl⟩).bind fun outcome =>
      (Discipline.idle_ofExcept outcome).bind fun _ => trivial
  have hrefuse : (quoteDiscipline capSats).Idle refuseFloat :=
    (hsilent .undoAll fun _ => ⟨trivial, fun _ => rfl⟩).bind fun _ => htold none
  have hfloat : ∀ size float, (quoteDiscipline capSats).Idle (takeFloat size float) := by
    intro size float
    unfold takeFloat
    split
    · trivial
    · split
      · exact hrefuse
      · refine howed.bind fun owed =>
          (hsilent (.claimFloat _ _ owed) fun _ => ⟨trivial, fun _ => rfl⟩).bind fun won => ?_
        cases won with
        | true => trivial
        | false => exact hrefuse
  unfold takeCeilings
  split
  · exact hfloat _ _
  next inventory =>
    have hhold : (quoteDiscipline capSats).Idle
        (holdInventory request.giveSats generation inventory) := by
      refine howed.bind fun owed => ?_
      split
      · trivial
      · refine (hsilent .inventoryGeneration fun _ => ⟨trivial, fun _ => rfl⟩).bind fun now =>
          (hsilent (.outstandingInventorySats _) fun _ => ⟨trivial, fun _ => rfl⟩).bind
            fun held => ?_
        split
        · exact (hsilent (.undoExposure _) fun _ => ⟨hs, fun _ => rfl⟩).bind fun _ => htold false
        · exact (hsilent (.restoreInventory _ _ _) fun _ => ⟨trivial, fun _ => rfl⟩).bind
            fun outcome => (Discipline.idle_ofExcept outcome).bind fun _ => trivial
    refine hhold.bind fun held => ?_
    cases held with
    | true => exact hfloat _ _
    | false => trivial

/-- Every admission under the house cap obeys it. -/
theorem obeys_admitRequest {request : AdmissionRequest} (hc : request.capSats = capSats) :
    (quoteDiscipline capSats).Obeys .outside (Admission.admitRequest request) fun result note =>
      note = answered result := by
  subst hc
  have hinventory : (quoteDiscipline request.capSats).Idle (inventoryOf request) := by
    unfold inventoryOf
    split
    · trivial
    · exact Discipline.Idle.bind (Discipline.idle_issue fun _ => ⟨trivial, fun _ => rfl⟩)
        Discipline.idle_ofExcept
  unfold Admission.admitRequest
  split
  · trivial
  next hs =>
    refine Discipline.obeys_issue_bind.mpr ⟨trivial, fun generation => ?_⟩
    refine hinventory.quiet.obeys_bind fun guardedInventory => ?_
    have hpos : 0 < request.giveSats := not_not.mp hs
    refine obeys_serialise (obeys_total fun total => ?_)
    refine Discipline.obeys_issue_bind.mpr ⟨⟨rfl, rfl, hpos⟩, fun won => ?_⟩
    cases won with
    | true =>
      have hidle : (quoteDiscipline request.capSats).Idle
          (takeCeilings request generation guardedInventory) :=
        idle_takeCeilings request hpos generation guardedInventory
      refine (hidle.quiet.free .inside).tryCatch fun error note => ?_
      exact ⟨trivial, fun _ => trivial⟩
    | false =>
      refine Discipline.obeys_issue_bind.mpr ⟨trivial, fun outcome => ?_⟩
      cases outcome <;> trivial

/-- The quote still has its reservation to release. -/
def Holding (handle : ℕ) (note : QuoteNote) : Prop := note = .holds handle ∨ note = .landed handle

/-- Inserting a row for a held reservation leaves it held or landed. -/
theorem ends_insertRow (handle amountSats : ℕ) :
    (quoteDiscipline capSats).Ends (.holds handle) (insertRow handle amountSats)
      (fun _ note => Holding handle note) fun _ note => Holding handle note := by
  refine Discipline.ends_issue_bind.mpr ⟨rfl, fun inserted => ?_⟩
  match inserted with
  | .ok _ => exact .inr rfl
  | .error .uniqueConstraint => exact .inr rfl
  | .error (.error message) => exact .inr rfl
  | .error (.rangeError message) => exact .inr rfl

/-- Landing a quote leaves its reservation held or landed, whether or not it throws. -/
theorem ends_landQuote (handle : ℕ) (amountFor : ℕ → Option ℕ) :
    (quoteDiscipline capSats).Ends (.holds handle) (landQuote handle amountFor)
      (fun _ note => Holding handle note) fun _ note => Holding handle note := by
  refine Discipline.ends_issue_bind.mpr ⟨trivial, fun prepared => ?_⟩
  match prepared with
  | .error error => exact .inl rfl
  | .ok none => exact .inl rfl
  | .ok (some payable) =>
    have hrest : (quoteDiscipline capSats).Ends (.holds handle) (match amountFor payable with
        | none => return false
        | some amountSats => insertRow handle amountSats : Prog Bool)
        (fun _ note => Holding handle note) fun _ note => Holding handle note := by
      split
      · exact .inl rfl
      · exact ends_insertRow handle _
    exact hrest

/-- A quote releases the reservation it was given, whatever happened in between. -/
theorem obeys_quoteWith {claim : Prog (Option ℕ)} {amountFor : ℕ → Option ℕ}
    (h : (quoteDiscipline capSats).Obeys .outside claim fun result note =>
      note = answered result) :
    (quoteDiscipline capSats).Obeys .outside (quoteWith claim amountFor) fun _ _ => True := by
  refine h.bind fun result note hn => ?_
  subst hn
  match result with
  | none => trivial
  | some handle =>
    have hbody : (quoteDiscipline capSats).Ends (.holds handle)
        (Program.tryCatch (do return Except.ok (← landQuote handle amountFor))
          fun error => return .error error)
        (fun _ note => Holding handle note) fun _ _ => True :=
      Discipline.Ends.tryCatch
        (Discipline.Ends.bind (ends_landQuote handle amountFor) fun _ note hn => hn)
        fun error note hn => hn
    refine hbody.obeys.bind fun outcome note hn => ?_
    refine Discipline.obeys_issue_bind.mpr ⟨hn, fun _ => ?_⟩
    exact Discipline.obeys_ofExcept fun _ _ => trivial

end Code

/-- A whole quote obeys the cap. -/
theorem obeys_quote (capSats : ℤ) (job : QuoteJob) :
    (quoteDiscipline capSats).Obeys .outside (job.quote capSats) fun _ _ => True := by
  cases job with
  | lightningSend lockupSats float => exact obeys_quoteWith (obeys_admitRequest rfl)
  | lightningReceive giveSats exactOut => exact obeys_quoteWith (obeys_admitRequest rfl)
  | onchainSend giveSats float => exact obeys_quoteWith (obeys_admitRequest rfl)
  | evmSend amountSats => exact obeys_quoteWith (obeys_reserve _)
  | evmReceive grossSats fee =>
    unfold QuoteJob.quote evmReceiveQuote
    dsimp only
    split
    · trivial
    · exact obeys_quoteWith (obeys_reserve _)

/-- A quote keeps the books its claim keeps. -/
theorem books_quoteWith {claim : Prog (Option ℕ)} {amountFor : ℕ → Option ℕ}
    (h : bookDiscipline.Obeys .outside claim fun _ note => note = .outside) :
    bookDiscipline.Obeys .outside (quoteWith claim amountFor) fun _ _ => True := by
  refine h.bind fun result note _ => ?_
  match result with
  | none => trivial
  | some handle =>
    have hinsert : ∀ amountSats, bookDiscipline.Idle (insertRow handle amountSats) := by
      intro amountSats
      refine Discipline.Idle.bind (Discipline.idle_issue fun _ => ⟨trivial, fun _ => rfl⟩)
        fun inserted => ?_
      split <;> trivial
    have hland : bookDiscipline.Idle (landQuote handle amountFor) := by
      refine Discipline.Idle.bind (Discipline.idle_issue fun _ => ⟨trivial, fun _ => rfl⟩)
        fun prepared => (Discipline.idle_ofExcept prepared).bind fun payable => ?_
      split
      · trivial
      · split
        · trivial
        · exact hinsert _
    have hquote : bookDiscipline.Idle (releasingAfter handle (landQuote handle amountFor)) :=
      Discipline.Idle.bind (Discipline.Idle.tryCatch (hland.bind fun _ => trivial) fun _ => trivial)
        fun outcome => Discipline.Idle.bind
          (Discipline.idle_issue fun _ => ⟨trivial, fun _ => rfl⟩)
          fun _ => Discipline.idle_ofExcept outcome
    exact hquote.quiet.free note

/-- A whole quote keeps the books. -/
theorem books_quote (capSats : ℤ) (job : QuoteJob) :
    bookDiscipline.Obeys .outside (job.quote capSats) fun _ _ => True := by
  cases job with
  | lightningSend lockupSats float =>
    exact books_quoteWith (AdmissionAccounting.obeys_admitRequest _)
  | lightningReceive giveSats exactOut =>
    exact books_quoteWith (AdmissionAccounting.obeys_admitRequest _)
  | onchainSend giveSats float => exact books_quoteWith (AdmissionAccounting.obeys_admitRequest _)
  | evmSend amountSats => exact books_quoteWith (AdmissionAccounting.obeys_reserve _ _)
  | evmReceive grossSats fee =>
    unfold QuoteJob.quote evmReceiveQuote
    dsimp only
    split
    · trivial
    · exact books_quoteWith (AdmissionAccounting.obeys_reserve _ _)

/-! ## The cap holds -/

/-- The corridors' `onRefused` always comes back. -/
theorem house_returns (reply : AdmissionReply) (op : AdmissionOp) :
    floatRefusalReturns houseCallbacks reply op = true := by
  cases op with
  | onRefused ceiling => cases ceiling <;> rfl
  | _ => rfl

/-- What the running job has claimed is not negative. -/
def Spare (world : AdmissionWorld) : Prop := 0 ≤ (ahead world).1

/-- Outside a job a caller leaves the counters as far ahead as they were. -/
theorem ahead_outside {world next : AdmissionWorld} {jobs : ℕ → JobNote} {worker : ℕ}
    {op : AdmissionOp} {reply : AdmissionReply} {answer : op.Ans}
    (hb : AdmissionAccounting.Inv world jobs) (hj : mayBook (jobs worker) op)
    (hq : ∀ poolId sats, op ≠ .restore poolId sats) (hs : ∀ size, op ≠ .settle size)
    (hout : learnBook (jobs worker) op answer = .outside)
    (hp : Admission.perform houseCallbacks worker op reply world = some (answer, next)) :
    ahead next = ahead world := by
  cases op with
  | settle size => exact absurd rfl (hs size)
  | restore poolId sats => exact absurd rfl (hq poolId sats)
  | enter => cases hout
  | undoExposure sats => cases hout
  | undoAll => cases hout
  | claimExposure sats cap total =>
    have hn : jobs worker = .claims [] := hj
    rw [hn] at hout
    cases answer <;> cases hout
  | claimFloat required available owed =>
    obtain ⟨undo, hn⟩ := hj
    rw [hn] at hout
    cases answer <;> cases hout
  | restoreInventory poolId sats nested =>
    obtain ⟨undo, hn⟩ := hj
    rw [hn] at hout
    cases answer <;> cases hout
  | release handle =>
    obtain ⟨after, hr, hp⟩ := Option.map_eq_some_iff.mp hp
    cases hp
    obtain ⟨-, -, ha, -⟩ := ahead_releaseAt hb.backed hr
    exact ha
  | insertQuote handle amountSats =>
    simp only [Admission.perform] at hp
    split at hp
    · obtain ⟨after, hr, hp⟩ := Option.map_eq_some_iff.mp hp
      cases hp
      obtain ⟨-, -, ha, -⟩ := ahead_landAt hb.backed hr
      exact ha
    · cases hp
      rfl
  | committedSats =>
    cases hp
    simp only [ahead, owed_older]
  | inventoryFor =>
    cases hp
    rfl
  | owedSats =>
    cases hp
    rfl
  | onRefused ceiling =>
    cases hp
    rfl
  | inventoryGeneration =>
    cases hp
    rfl
  | outstandingInventorySats poolId =>
    cases hp
    rfl
  | prepare =>
    cases hp
    rfl

/-- No action leaves the counter behind the reservations. -/
theorem spare_next {world next : AdmissionWorld} {jobs : ℕ → JobNote} {worker : ℕ}
    {op : AdmissionOp} {reply : AdmissionReply} {answer : op.Ans} (hs : Spare world)
    (hu : Positive next.undo) (hb : AdmissionAccounting.Inv world jobs)
    (hnext : AdmissionAccounting.Inv next
      (Function.update jobs worker (learnBook (jobs worker) op answer)))
    (hj : mayBook (jobs worker) op) (hq : ∀ poolId sats, op ≠ .restore poolId sats)
    (hp : Admission.perform houseCallbacks worker op reply world = some (answer, next)) :
    Spare next := by
  by_cases hout : learnBook (jobs worker) op answer = .outside
  · by_cases hset : ∃ size, op = .settle size
    · obtain ⟨size, rfl⟩ := hset
      have hturn : next.turn = none := by
        cases size <;> cases hp <;> rfl
      have hzero := congrArg Prod.fst (hnext.idle hturn)
      exact hzero.ge
    · have hsame := ahead_outside hb hj hq (fun size he => hset ⟨size, he⟩) hout hp
      unfold Spare
      rw [hsame]
      exact hs
  · have hlive : (Function.update jobs worker (learnBook (jobs worker) op answer) worker) ≠
        .outside := by rwa [Function.update_self]
    have hahead := hnext.busy worker hlive
    unfold Spare
    rw [hahead, Function.update_self]
    cases hn : learnBook (jobs worker) op answer with
    | claims undo =>
      have hframe := hnext.frame worker undo (by rw [Function.update_self, hn])
      rw [hframe] at hu
      exact claimed_positive hu
    | _ => exact le_rfl

/-- What rows have superseded is part of what is outstanding. -/
theorem superseded_le_reserved {world : AdmissionWorld} (hs : Spare world)
    (hpos : ∀ reservation ∈ world.issued, 0 ≤ (owedBy reservation).1) :
    superseded world.issued ≤ world.control.reserved := by
  have howed : superseded world.issued ≤ (owed world.issued).1 := by
    generalize world.issued = issued at hpos
    induction issued with
    | nil => exact le_refl 0
    | cons reservation rest ih =>
      have hone := hpos reservation List.mem_cons_self
      have hrest := ih fun other hm => hpos other (List.mem_cons_of_mem _ hm)
      have hpart : supersededBy reservation ≤ (owedBy reservation).1 := by
        unfold supersededBy
        split
        next hl =>
          have hrel : reservation.released = false := by simp_all
          simp [owedBy, hrel, sized]
        · exact hone
      simp only [superseded, owed, List.map_cons, List.sum_cons, Prod.fst_add] at hrest ⊢
      omega
  have hahead : (ahead world).1 = world.control.reserved - (owed world.issued).1 := rfl
  unfold Spare at hs
  omega

/-- The books and the cap, side by side. -/
structure HouseInv (capSats weight : ℤ) (world : AdmissionWorld)
    (notes : ℕ → JobNote × QuoteNote) : Prop where
  books : AdmissionAccounting.Inv world fun worker => (notes worker).1
  cap : CapInv capSats weight world fun worker => (notes worker).2
  spare : Spare world

/-- The joint invariant from its two halves, for one worker's new note. -/
theorem HouseInv.update {capSats weight : ℤ} {world : AdmissionWorld}
    {notes : ℕ → JobNote × QuoteNote} {worker : ℕ} {note : JobNote × QuoteNote}
    (hb : AdmissionAccounting.Inv world
      (Function.update (fun other => (notes other).1) worker note.1))
    (hq : CapInv capSats weight world
      (Function.update (fun other => (notes other).2) worker note.2))
    (hs : Spare world) : HouseInv capSats weight world (Function.update notes worker note) := by
  refine ⟨?_, ?_, hs⟩
  · have hfst : (fun other => (Function.update notes worker note other).1) =
        Function.update (fun other => (notes other).1) worker note.1 :=
      Function.comp_update Prod.fst notes worker note
    rw [hfst]
    exact hb
  · have hsnd : (fun other => (Function.update notes worker note other).2) =
        Function.update (fun other => (notes other).2) worker note.2 :=
      Function.comp_update Prod.snd notes worker note
    rw [hsnd]
    exact hq

/-- What is claimed and not released is not negative. -/
theorem HouseInv.owed_nonneg {capSats weight : ℤ} {world : AdmissionWorld}
    {notes : ℕ → JobNote × QuoteNote} (h : HouseInv capSats weight world notes) :
    ∀ reservation ∈ world.issued, 0 ≤ (owedBy reservation).1 := by
  intro reservation hm
  unfold owedBy
  split
  · exact le_rfl
  next hl =>
    have hrel : reservation.released = false := by simpa using hl
    rw [← h.books.backed reservation hm hrel]
    exact claimed_positive (h.cap.claims reservation hm)

/-- The books, the cap and what is spare, kept by every action of a quote. -/
def capProtocol (capSats weight : ℤ) :
    Protocol (quoteMachine capSats) (covered capSats weight) where
  discipline := bookDiscipline.prod (quoteDiscipline capSats)
  inv := HouseInv capSats weight
  forget _ _ worker h := HouseInv.update (h.books.forget worker) (h.cap.look trivial) h.spare
  act _ _ _ op reply _ _ h hm hc hp := by
    have hbooks := h.books.perform hm.1 (house_returns reply op) hp
    have hcap := h.cap.perform h.books hm.1 hm.2 hc.1 hc.2 hp
    have hrestores : ∀ poolId sats, op ≠ .restore poolId sats := by
      rintro poolId sats rfl
      exact hm.2
    exact HouseInv.update hbooks hcap
      (spare_next h.spare hcap.frame h.books hbooks hm.1 hrestores hp)
  stir _ _ move _ h hs := by
    cases move with
    | retire index =>
      cases hs
      obtain ⟨hb, hq, hspare⟩ := h
      exact ⟨⟨hb.sound, hb.turn, hb.frame, hb.busy, hb.idle, hb.backed⟩, hq.retire index, hspare⟩
  jobs job := by
    have hboth := (books_quote capSats job).prod (obeys_quote capSats job)
    exact hboth.bind fun _ _ _ => trivial

/-- Before the first quote everything within the cap is in order. -/
theorem house_start {capSats weight : ℤ} (hw : 1 ≤ weight) {rows : List ℕ}
    (hcap : committed rows ≤ capSats) :
    HouseInv capSats weight { rows := rows } fun _ => (.outside, .outside) := by
  have hnone : ∀ {α : Type} {P : α → Prop}, ∀ one ∈ ([] : List α), P one :=
    fun one hm => absurd hm List.not_mem_nil
  refine ⟨inv_fresh rows, ⟨hw, ?_, hnone, hnone, fun _ => trivial⟩, ?_⟩
  · simpa [weighed, superseded] using hcap
  · simp [Spare, ahead, counted, owed]

/-- At weight one a check leaves room whenever it passes: in every run in which rows are worth
no more than their claims, and no claim is released whose row landed since another quote's
total was read, the live rows and the claims no row has superseded stay within the cap. -/
theorem exposed_within_cap (capSats : ℤ) (rows : List ℕ) (hcap : committed rows ≤ capSats)
    (events : List (Event (quoteMachine capSats))) (final : Config (quoteMachine capSats))
    (hr : run (boot (M := quoteMachine capSats) { rows := rows }) events = some final)
    (hp : Permitted (covered capSats 1) (boot { rows := rows }) events) :
    exposed final.world ≤ capSats := by
  obtain ⟨notes, h⟩ := (capProtocol capSats 1).inv_of_run (house_start le_rfl hcap) hp hr
  have hexposed := h.cap.cap
  unfold weighed at hexposed
  rwa [one_mul] at hexposed

/-- One process, any quotes on any corridors, any interleaving of their awaits: the live rows
and all outstanding claims stay within the cap at every moment, as long as rows are worth no
more than their claims, no claim is released whose row landed since another quote's total was
read, and every check that passes leaves room for each outstanding claim and its row at once.
The claims are those of the reservations returned and not released whenever no job is
running. -/
theorem house_cap_holds (capSats : ℤ) (rows : List ℕ) (hcap : committed rows ≤ capSats)
    (events : List (Event (quoteMachine capSats))) (final : Config (quoteMachine capSats))
    (hr : run (boot (M := quoteMachine capSats) { rows := rows }) events = some final)
    (hp : Permitted (covered capSats 2) (boot { rows := rows }) events) :
    committed final.world.rows + final.world.control.reserved ≤ capSats ∧
      (final.world.turn = none → final.world.control.reserved =
        outstanding final.world.issued fun size => size.exposure) := by
  obtain ⟨notes, h⟩ := (capProtocol capSats 2).inv_of_run (house_start one_le_two hcap) hp hr
  refine ⟨?_, fun ht => (h.books.exact ht).1⟩
  have hdouble := h.cap.cap
  have hless := superseded_le_reserved h.spare h.owed_nonneg
  unfold weighed at hdouble
  omega

/-- The quote goes on and its row lands. -/
def goesOn : AdmissionReply := { prepared := .ok (some 60) }

/-- Under a cap of 300, two quotes of 60 sats claim one after the other and land in turn; a
third of 190 sats comes when both have released. -/
def quotesInTurn : List (Event (quoteMachine 300)) :=
  .start 0 (.lightningSend 60 none) :: List.append (List.replicate 6 (.act 0 goesOn))
    (.start 1 (.onchainSend 60 none) :: List.append (List.replicate 6 (.act 1 goesOn))
      (List.append (List.replicate 3 (.act 0 goesOn)) (List.append
        (List.replicate 3 (.act 1 goesOn))
        (.start 2 (.evmSend 190) :: List.replicate 4 (.act 2 goesOn)))))

/-- Two rows and no claim are left; the third quote finds the cap taken. -/
theorem house_cap_holds_sample :
    ∃ final, run (boot (M := quoteMachine 300) {}) quotesInTurn = some final ∧
      final.world.rows = [60, 60] ∧
      committed final.world.rows + final.world.control.reserved ≤ 300 := by
  obtain ⟨final, hr⟩ : ∃ final, run (boot (M := quoteMachine 300) {}) quotesInTurn = some final :=
    Option.isSome_iff_exists.mp (by decide +kernel)
  have hend : ((run (boot (M := quoteMachine 300) {}) quotesInTurn).map fun final =>
      final.world.rows) = some [60, 60] := by decide +kernel
  have hp : Permitted (covered 300 2) (boot {}) quotesInTurn := by decide +kernel
  rw [hr] at hend
  have h := house_cap_holds 300 [] (by decide) quotesInTurn final hr hp
  exact ⟨final, hr, Option.some.inj hend, h.1⟩

/-- A quote reads the total, another one lands and releases, the first one checks. -/
def landsInBetween : List (Event (quoteMachine 100)) :=
  .start 0 (.lightningSend 60 none) :: List.append (List.replicate 6 (.act 0 goesOn))
    (.start 1 (.lightningSend 60 none) :: List.append (List.replicate 4 (.act 1 goesOn))
      (List.append (List.replicate 3 (.act 0 goesOn)) (List.replicate 5 (.act 1 goesOn))))

/-- Two quotes of 60 sats end up live under a cap of 100, with no claim counted twice. -/
theorem house_cap_is_passed :
    ¬∀ (capSats : ℤ) (rows : List ℕ), committed rows ≤ capSats →
      ∀ (events : List (Event (quoteMachine capSats))) (final : Config (quoteMachine capSats)),
        run (boot (M := quoteMachine capSats) { rows := rows }) events = some final →
        superseded final.world.issued = 0 →
        committed final.world.rows + final.world.control.reserved ≤ capSats := by
  intro h
  obtain ⟨final, hr⟩ : ∃ final, run (boot (M := quoteMachine 100) {}) landsInBetween =
      some final := Option.isSome_iff_exists.mp (by decide +kernel)
  have hend : ((run (boot (M := quoteMachine 100) {}) landsInBetween).map fun final =>
      (superseded final.world.issued, final.world.rows, final.world.control.reserved)) =
      some (0, [60, 60], 0) := by decide +kernel
  rw [hr] at hend
  obtain ⟨hnone, hrest⟩ := Prod.mk.inj (Option.some.inj hend)
  obtain ⟨hrows, hreserved⟩ := Prod.mk.inj hrest
  have hwithin := h 100 [] (by decide) landsInBetween final hr hnone
  rw [hrows, hreserved] at hwithin
  exact absurd hwithin (by decide)

-- The other way past the cap: 900 sats are claimed and a row of 1000 is inserted.
example :
    ((run (boot (M := quoteMachine 950) {})
      (.start 0 (.evmReceive 1000 ⟨1000, 0⟩) :: List.replicate 7 (.act 0 goesOn))).map
      fun final => (final.world.rows, final.world.control.reserved)) = some ([1000], 0) := by
  decide +kernel

end IntentSolver.HouseExposure
