import IntentSolver.LockupCollection
import Mathlib.Logic.Function.Basic

/-!
# What a claiming step may count as collected

A worker knows an output collected when a claim it made took it, when an L1
claim of it confirmed, or when its spend reveals the preimage. The shared
claiming steps never count more than that: the steps recorded as confirmed are
known collected, and an empty leftover means every adopted output is.
-/

namespace IntentSolver.CollectedLockup

open SwapStore ArkadeLockup LockupCollection WorkerProgram

variable {Op : Type} {Ans : Op → Type} {D : Discipline Ans} {port : ClaimPort Ans}
  {known : D.Note → Outpoint → Prop} {note : D.Note}

/-- The recorded steps call confirmed only what the notes know collected. -/
def Recorded (known : D.Note → Outpoint → Prop) (note : D.Note) (steps : UnrolledSteps) : Prop :=
  ∀ key record, stepOf steps key = some (.confirmed record) → known note key

/-- What the corridor's port promises about its answers. -/
structure CollectingPort (D : Discipline Ans) (port : ClaimPort Ans)
    (known : D.Note → Outpoint → Prop) : Prop where
  /-- Nothing a worker is told makes it forget. -/
  keeps : ∀ outpoint note op answer, known note outpoint → known (D.learn note op answer) outpoint
  findLockupOutpoints : ∀ read ∈ port.findLockupOutpoints, D.Free read
  claimUnrolled : ∀ claim ∈ port.claimUnrolled, ∀ key record note,
    D.Obeys note (claim key record) fun answer after =>
      ∀ record, answer.2 = .ok (.confirmed record) → known after key
  findClaimPreimage : ∀ find ∈ port.findClaimPreimage, ∀ outpoint note,
    D.Obeys note (find outpoint) fun preimage after => preimage.isSome = true → known after outpoint
  patchUnrolled : ∀ steps note, Recorded known note steps →
    D.Obeys note (port.patchUnrolled steps) fun _ _ => True
  patchClaimTxid : ∀ txid, D.Free (port.patchClaimTxid txid)
  fail : ∀ reason, D.Free (port.fail reason)

variable (hp : CollectingPort D port known)

include hp

/-- What is known stays known through a program. -/
theorem keeps_known {α : Type} {program : Program Ans Fault α} {post : α → D.Note → Prop}
    (h : D.Obeys note program post) {outpoints : List Outpoint}
    (hn : ∀ outpoint ∈ outpoints, known note outpoint) :
    D.Obeys note program fun value after =>
      post value after ∧ ∀ outpoint ∈ outpoints, known after outpoint :=
  h.persist (fun before op answer hk outpoint ho => hp.keeps outpoint before op answer
    (hk outpoint ho)) hn

/-- Recorded steps stay recorded through a program. -/
theorem keeps_recorded {α : Type} {program : Program Ans Fault α} {post : α → D.Note → Prop}
    (h : D.Obeys note program post) {steps : UnrolledSteps} (hn : Recorded known note steps) :
    D.Obeys note program fun value after => post value after ∧ Recorded known after steps :=
  h.persist (fun before op answer hk key record hs => hp.keeps key before op answer
    (hk key record hs)) hn

omit hp in
/-- Writing one step of a recorded map. -/
theorem Recorded.set {steps : UnrolledSteps} (h : Recorded known note steps) {key : Outpoint}
    {step : UnrolledSpendStep} (hs : ∀ record, step = .confirmed record → known note key) :
    Recorded known note (setStep key step steps) := by
  intro other record ho
  rw [stepOf_setStep] at ho
  split at ho
  · next heq =>
    rw [heq]
    exact hs record (Option.some.inj ho)
  · exact h other record ho

/-- Keeping one step saves only what the notes know collected. -/
theorem obeys_keep {steps : UnrolledSteps} {key : Outpoint} {step : UnrolledSpendStep}
    (h : Recorded known note steps) (hs : ∀ record, step = .confirmed record → known note key) :
    D.Obeys note (keep port steps key step) fun kept after => Recorded known after kept.1 := by
  unfold keep
  split
  · exact h
  · have hset := h.set hs
    have hw := keeps_recorded hp (hp.patchUnrolled _ note hset) hset
    exact hw.bind fun _ _ ha => ha.2

/-- Keeping the saved steps saves only what the notes know collected. -/
theorem obeys_keepSaved {key : Outpoint} (saved : List String) {steps : UnrolledSteps}
    (h : Recorded known note steps) :
    D.Obeys note (keepSaved port key saved steps) fun kept after =>
      Recorded known after kept.1 := by
  induction saved generalizing note steps with
  | nil => exact h
  | cons record saved ih =>
    have hk : D.Obeys note (keep port steps key (.pending record)) fun kept after =>
        Recorded known after kept.1 := obeys_keep hp h (by simp)
    apply hk.bind
    rintro ⟨steps, written⟩ after hr
    cases written with
    | error fault => exact hr
    | ok _ => exact ih hr

/-- Advancing one unrolled claim calls confirmed only what it was told is. -/
theorem obeys_advanceOne {claimUnrolled} (hc : claimUnrolled ∈ port.claimUnrolled) (key : Outpoint)
    {steps : UnrolledSteps} (h : Recorded known note steps) :
    D.Obeys note (advanceOne port claimUnrolled key steps) fun turn after =>
      Recorded known after turn.1 := by
  have hclaim := keeps_recorded hp
    (hp.claimUnrolled _ hc key (recordOf (stepOf steps key)) note) h
  apply hclaim.bind
  rintro ⟨saved, outcome⟩ told ⟨hconfirmed, hr⟩
  -- A confirmed outcome is known before the saved records are written.
  by_cases hk : ∃ record, outcome = .ok (.confirmed record)
  · obtain ⟨record, rfl⟩ := hk
    have hkey : ∀ outpoint ∈ [key], known told outpoint := by
      intro outpoint ho
      rw [List.mem_singleton.mp ho]
      exact hconfirmed record rfl
    apply (keeps_known hp (obeys_keepSaved hp saved hr) hkey).bind
    rintro ⟨steps, written⟩ after ⟨hr, hkey⟩
    cases written with
    | error fault => exact hr
    | ok _ => exact obeys_keep hp hr fun _ _ => hkey key (List.mem_singleton.mpr rfl)
  · apply (obeys_keepSaved hp saved hr).bind
    rintro ⟨steps, written⟩ after hr
    cases written with
    | error fault => exact hr
    | ok _ =>
      rcases outcome with thrown | step
      · exact hr
      · have hn : ∀ record, step = .confirmed record → known after key := by
          rintro record rfl
          exact absurd ⟨record, rfl⟩ hk
        cases step with
        | waiting => exact hr
        | spent => exact obeys_keep hp hr hn
        | closed reason => exact obeys_keep hp hr hn
        | pending record => exact obeys_keep hp hr hn
        | confirmed record => exact obeys_keep hp hr hn

/-- Advancing every unrolled claim calls confirmed only what it was told is. -/
theorem obeys_advanceEach {claimUnrolled} (hc : claimUnrolled ∈ port.claimUnrolled)
    (keys : List Outpoint) {steps : UnrolledSteps} (h : Recorded known note steps)
    (error : Option Fault) :
    D.Obeys note (advanceEach port claimUnrolled keys steps error) fun pass after =>
      Recorded known after pass.1 := by
  induction keys generalizing note steps error with
  | nil => exact h
  | cons key keys ih =>
    unfold advanceEach
    split
    · exact ih h error
    · apply (obeys_advanceOne hp hc key h).bind
      rintro ⟨steps, outcome⟩ after hr
      cases outcome with
      | ok _ => exact ih hr error
      | error thrown => exact ih hr _

/-- Whatever a pass reports confirmed is known collected. -/
theorem obeys_advanceUnrolledClaims {unrolledClaim : Option UnrolledSteps}
    (h : Recorded known note (unrolledClaim.getD [])) :
    D.Obeys note (advanceUnrolledClaims port unrolledClaim) fun claims after =>
      ∀ pass ∈ claims, ∀ outpoint ∈ pass.confirmed, known after outpoint := by
  unfold advanceUnrolledClaims
  split
  · next find claim hf hc =>
    have hread := keeps_recorded hp (hp.findLockupOutpoints _ hf note) h
    apply hread.bind
    rintro outpoints told ⟨-, hr⟩
    dsimp only
    split
    · simp
    · apply (obeys_advanceEach hp hc _ hr none).bind
      rintro ⟨steps, error⟩ after hs pass hpass outpoint ho
      cases hpass
      have hm := (List.mem_filter.mp ho).2
      split at hm
      · next record hstep => exact hs outpoint record hstep
      · cases hm
  · simp

/-- Every spend counted as ours reveals the preimage. -/
theorem obeys_revealedAmong {find} (hf : find ∈ port.findClaimPreimage)
    (outpoints : List Outpoint) :
    D.Obeys note (revealedAmong find outpoints) fun ours after =>
      ∀ outpoint ∈ ours, known after outpoint := by
  induction outpoints generalizing note with
  | nil =>
    intro outpoint ho
    cases ho
  | cons outpoint rest ih =>
    apply (hp.findClaimPreimage _ hf outpoint note).bind
    intro preimage told hfound
    cases hs : preimage.isSome with
    | false =>
      apply ih.bind
      intro ours after hours
      simpa [hs] using hours
    | true =>
      have hfirst : ∀ other ∈ [outpoint], known told other := by
        intro other ho
        rw [List.mem_singleton.mp ho]
        exact hfound hs
      apply (keeps_known hp ih hfirst).bind
      rintro ours after ⟨hours, hfirst⟩ other ho
      simp only [if_true] at ho
      rcases List.mem_cons.mp ho with rfl | ho
      · exact hfirst other (List.mem_singleton.mpr rfl)
      · exact hours other ho

omit hp in
/-- Nothing uncollected means everything adopted is among the evidence. -/
theorem collected_of_uncollected_nil {adopted : List AdoptedOutput} {evidence : CollectionEvidence}
    (h : uncollected adopted evidence = []) {output : AdoptedOutput} (ho : output ∈ adopted) :
    output.outpoint ∈ evidence.claimedOffchain ∨ output.outpoint ∈ evidence.claimedOnL1 ∨
      output.outpoint ∈ evidence.spentByUs := by
  have hn := List.filter_eq_nil_iff.mp h output ho
  by_cases hc : output.outpoint ∈ evidence.claimedOffchain
  · exact .inl hc
  · rw [if_neg hc] at hn
    right
    split at hn
    · exact absurd rfl hn
    · split at hn
      · left
        simpa using hn
      · split at hn
        · right
          simpa using hn
        · exact absurd rfl hn

/-- With nothing left over, every adopted output is known collected. -/
theorem obeys_lockupLeftover (hfind : port.findClaimPreimage.isSome = true)
    (hread : port.findLockupOutpoints.isSome = true) {adopted : Option (List AdoptedOutput)}
    {claimedNow : List Outpoint} {claims : Option UnrolledClaims}
    (hnow : ∀ outpoint ∈ claimedNow, known note outpoint)
    (hclaims : ∀ pass ∈ claims, ∀ outpoint ∈ pass.confirmed, known note outpoint) :
    D.Obeys note (lockupLeftover port adopted claimedNow claims) fun leftover after =>
      leftover = [] → ∀ output ∈ adopted.getD [], known after output.outpoint := by
  obtain ⟨find, hf⟩ := Option.isSome_iff_exists.mp hfind
  obtain ⟨read, hr⟩ := Option.isSome_iff_exists.mp hread
  cases adopted with
  | none =>
    intro _ output ho
    cases ho
  | some adopted =>
    unfold lockupLeftover
    rw [hr]
    have hconfirmed : ∀ outpoint ∈ confirmedOf claims, known note outpoint := by
      cases claims with
      | none =>
        intro outpoint ho
        cases ho
      | some pass => exact hclaims pass rfl
    have hknown : ∀ outpoint ∈ claimedNow ++ confirmedOf claims, known note outpoint := by
      intro outpoint ho
      rcases List.mem_append.mp ho with ho | ho
      · exact hnow outpoint ho
      · exact hconfirmed outpoint ho
    apply (keeps_known hp (hp.findLockupOutpoints _ hr note) hknown).bind
    rintro outpoints told ⟨-, hknown⟩
    have hspent : D.Obeys told (spentByUs port outpoints claimedNow) fun ours after =>
        ∀ outpoint ∈ ours, known after outpoint := by
      unfold spentByUs
      rw [hf]
      exact obeys_revealedAmong hp hf _
    apply (keeps_known hp hspent hknown).bind
    rintro ours after ⟨hours, hknown⟩ hnone output ho
    have hempty := List.map_eq_nil_iff.mp hnone
    rcases collected_of_uncollected_nil hempty ho with hc | hc | hc
    · exact hknown _ (List.mem_append_left _ hc)
    · exact hknown _ (List.mem_append_right _ hc)
    · exact hours _ hc

/-- The pass closes the row only when the corridor may. -/
theorem obeys_settleUnrolledClaims {claims : UnrolledClaims} (recourse : String)
    (h : claims.settled = true → D.Obeys note port.finish fun _ _ => True) :
    D.Obeys note (settleUnrolledClaims port claims recourse) fun _ _ => True := by
  unfold settleUnrolledClaims
  split
  · split
    · trivial
    · trivial
  · next hs =>
    split
    · exact h (by simpa using hs)
    · exact (hp.fail _ note).bind fun _ _ _ => trivial

/-- Parking what is left over closes nothing. -/
theorem free_awaitLeftover (id : String) (claimTxid : Option String) (leftover : List Outpoint)
    (pastDeadline : Bool) (recourse : String) :
    D.Free (awaitLeftover port id claimTxid leftover pastDeadline recourse) := by
  have hpark : D.Free (parkLeftover port id leftover pastDeadline recourse) := by
    unfold parkLeftover
    split
    · exact Discipline.free_throw _
    · exact (hp.fail _).bind fun _ => Discipline.free_ret _
  cases claimTxid with
  | none => exact hpark
  | some txid => exact (hp.patchClaimTxid txid).bind fun _ => hpark

omit hp

/-! ## The ledger of one lockup -/

/-- One accepted claim: what it was offered and what it spent. -/
structure AcceptedClaim where
  offered : List FundedOutput
  taken : List FundedOutput

/-- A claim of which everything is spent was submitted for this outpoint. -/
def submittedIn (claims : List (List Outpoint)) (spent : List Outpoint) (outpoint : Outpoint) :
    Bool :=
  claims.any fun claim => decide (outpoint ∈ claim) && claim.all fun other => decide (other ∈ spent)

/-- An adopted output is collected, or was claimed in what is spent now. -/
def coveredBy (collected : List Outpoint) (claims : List (List Outpoint)) (spent : List Outpoint)
    (adopted : List AdoptedOutput) : Bool :=
  adopted.all fun output =>
    decide (output.outpoint ∈ collected) || submittedIn claims spent output.outpoint

/-- What a spent claim was submitted for is spent with it. -/
theorem mem_of_submittedIn {claims : List (List Outpoint)} {spent : List Outpoint}
    {outpoint : Outpoint} (h : submittedIn claims spent outpoint = true) : outpoint ∈ spent := by
  obtain ⟨claim, -, hc⟩ := List.any_eq_true.mp h
  obtain ⟨hm, hall⟩ := Bool.and_eq_true_iff.mp hc
  exact of_decide_eq_true (List.all_eq_true.mp hall outpoint (of_decide_eq_true hm))

/-- So with those claims spent, everything adopted is collected. -/
theorem mem_of_coveredBy {collected spent : List Outpoint} {claims : List (List Outpoint)}
    {adopted : List AdoptedOutput} (h : coveredBy collected claims spent adopted = true) :
    ∀ output ∈ adopted, output.outpoint ∈ spent ++ collected := by
  intro output ho
  have hone := List.all_eq_true.mp h output ho
  rcases Bool.or_eq_true_iff.mp hone with hc | hs
  · exact List.mem_append_right _ (of_decide_eq_true hc)
  · exact List.mem_append_left _ (mem_of_submittedIn hs)

/-- What a worker has learnt about the lockup it collects. -/
structure CollectNote where
  /-- The adopted outputs of every row it read outside `quoted`. -/
  reads : List (Option (List AdoptedOutput))
  /-- Outputs it knows collected. -/
  collected : List Outpoint
  /-- What its last accepted claim was offered. -/
  offered : Option (List FundedOutput)
  /-- A pending claim of the row it read was finalized. -/
  finalized : Bool

/-- The notes of a worker that has asked nothing. -/
def CollectNote.fresh : CollectNote := ⟨[], [], none, false⟩

/-- The notes license closing the row: everything adopted is known collected. -/
def CollectNote.Closes (note : CollectNote) : Prop :=
  ∃ adopted ∈ note.reads, ∀ output ∈ adopted.getD [],
    output.outpoint ∈ note.collected ∨ note.finalized = true

/-- Outputs these steps record as confirmed. -/
def confirmedKeys (steps : UnrolledSteps) : List Outpoint :=
  (steps.map Prod.fst).filter fun key => match stepOf steps key with
    | some (.confirmed _) => true
    | _ => false

/-- A confirmed step is among the confirmed keys, and only such. -/
theorem mem_confirmedKeys {steps : UnrolledSteps} {key : Outpoint} :
    key ∈ confirmedKeys steps ↔ ∃ record, stepOf steps key = some (.confirmed record) := by
  unfold confirmedKeys
  rw [List.mem_filter]
  constructor
  · rintro ⟨-, hm⟩
    split at hm
    · next record hs => exact ⟨record, hs⟩
    · cases hm
  · rintro ⟨record, hs⟩
    have hs' := hs
    unfold stepOf at hs'
    obtain ⟨entry, hf, -⟩ := Option.map_eq_some_iff.mp hs'
    have hkey : entry.1 = key := by simpa using List.find?_some hf
    refine ⟨List.mem_map.mpr ⟨entry, List.mem_of_find?_eq_some hf, hkey⟩, ?_⟩
    rw [hs]

/-- The worker reads the row. -/
def CollectNote.read (note : CollectNote) (quoted : Bool) (adopted : Option (List AdoptedOutput))
    (steps : UnrolledSteps) : CollectNote :=
  { note with
    reads := if quoted then note.reads else adopted :: note.reads
    collected := confirmedKeys steps ++ note.collected }

/-- The worker is told an output is collected. -/
def CollectNote.found (note : CollectNote) (outpoint : Outpoint) : CollectNote :=
  { note with collected := outpoint :: note.collected }

/-- The worker's claim of these outputs was accepted. -/
def CollectNote.claim (note : CollectNote) (outputs : List FundedOutput) : CollectNote :=
  { note with offered := some outputs }

/-- The worker recomputes what a claim of these outputs takes. -/
def CollectNote.select (note : CollectNote) (outputs inputs : List FundedOutput) : CollectNote :=
  if note.offered = some outputs then
    { note with collected := inputs.map FundedOutput.outpoint ++ note.collected }
  else note

/-- A pending claim of the row was finalized. -/
def CollectNote.finalize (note : CollectNote) : CollectNote :=
  if note.reads = [] then note else { note with finalized := true }

/-- One set of notes says everything another did. -/
structure Extends (before after : CollectNote) : Prop where
  reads : before.reads ⊆ after.reads
  collected : before.collected ⊆ after.collected
  finalized : before.finalized = true → after.finalized = true

/-- Notes extend themselves. -/
theorem Extends.refl (note : CollectNote) : Extends note note :=
  ⟨fun _ h => h, fun _ h => h, id⟩

/-- Extensions of notes chain. -/
theorem Extends.trans {before between after : CollectNote} (h : Extends before between)
    (h' : Extends between after) : Extends before after :=
  ⟨fun _ hr => h'.reads (h.reads hr), fun _ hc => h'.collected (h.collected hc),
    fun hf => h'.finalized (h.finalized hf)⟩

/-- A selection of inputs only adds to the notes. -/
theorem extends_select (note : CollectNote) (outputs inputs : List FundedOutput) :
    Extends note (note.select outputs inputs) := by
  unfold CollectNote.select
  split
  · exact ⟨fun _ h => h, fun _ h => List.mem_append_right _ h, id⟩
  · exact .refl note

/-- A finalized claim only adds to the notes. -/
theorem extends_finalize (note : CollectNote) : Extends note note.finalize := by
  unfold CollectNote.finalize
  split
  · exact .refl note
  · exact ⟨fun _ h => h, fun _ h => h, fun _ => rfl⟩

/-- A found spend only adds to the notes. -/
theorem extends_found (note : CollectNote) (outpoint : Outpoint) :
    Extends note (note.found outpoint) :=
  ⟨fun _ h => h, fun _ h => List.mem_cons_of_mem _ h, id⟩

/-- A read of the row only adds to the notes. -/
theorem extends_read (note : CollectNote) (quoted : Bool) (adopted : Option (List AdoptedOutput))
    (steps : UnrolledSteps) : Extends note (note.read quoted adopted steps) := by
  refine ⟨fun read hm => ?_, fun _ h => List.mem_append_right _ h, id⟩
  unfold CollectNote.read
  cases quoted with
  | true => exact hm
  | false => exact List.mem_cons_of_mem _ hm

/-- Notes that say more license closing all the more. -/
theorem Extends.closes {before after : CollectNote} (h : Extends before after)
    (hc : before.Closes) : after.Closes := by
  obtain ⟨adopted, hm, hall⟩ := hc
  exact ⟨adopted, h.reads hm, fun output ho => (hall output ho).imp (fun hk => h.collected hk)
    h.finalized⟩

/-- The part of a world that collecting a lockup is judged by. -/
structure CollectView where
  /-- The row is `quoted`. -/
  quoted : Bool
  /-- The row is `claimed`. -/
  claimed : Bool
  /-- Outputs adopted at funding. -/
  adopted : Option (List AdoptedOutput)
  /-- Recorded steps of the L1 claims. -/
  steps : UnrolledSteps
  /-- Outputs the solver has collected. -/
  collected : List Outpoint
  /-- A worker's last accepted claim. -/
  lastClaim : ℕ → Option AcceptedClaim

/-- What one worker's notes promise. -/
structure Knows (v : CollectView) (worker : ℕ) (note : CollectNote) : Prop where
  reads : ∀ adopted ∈ note.reads, v.quoted = false ∧ v.adopted = adopted
  collected : ∀ outpoint ∈ note.collected, outpoint ∈ v.collected
  offered : ∀ outputs, note.offered = some outputs → ∃ taken,
    v.lastClaim worker = some ⟨outputs, taken⟩ ∧
      ∀ output ∈ taken, output.outpoint ∈ v.collected
  finalized : note.finalized = true → note.reads ≠ [] ∧
    ∀ output ∈ v.adopted.getD [], output.outpoint ∈ v.collected

/-- What holds of a lockup in every run whose claims are counted soundly. -/
structure Collecting (v : CollectView) (notes : ℕ → CollectNote) : Prop where
  knows : ∀ worker, Knows v worker (notes worker)
  recorded : ∀ outpoint ∈ confirmedKeys v.steps, outpoint ∈ v.collected
  closed : v.claimed = true → ∀ output ∈ v.adopted.getD [], output.outpoint ∈ v.collected

section Ledger

variable {v : CollectView} {notes : ℕ → CollectNote} {worker : ℕ} {tally : CollectNote}

/-- A worker that has done nothing promises nothing. -/
theorem knows_fresh (v : CollectView) (worker : ℕ) : Knows v worker .fresh where
  reads _ h := by cases h
  collected _ h := by cases h
  offered _ h := by cases h
  finalized h := by cases h

/-- Notes that license closing know everything adopted collected. -/
theorem Knows.closes (h : Knows v worker tally) (hc : tally.Closes) :
    v.quoted = false ∧ ∀ output ∈ v.adopted.getD [], output.outpoint ∈ v.collected := by
  obtain ⟨adopted, hm, hall⟩ := hc
  obtain ⟨hq, ha⟩ := h.reads adopted hm
  refine ⟨hq, fun output ho => ?_⟩
  rw [ha] at ho
  rcases hall output ho with hk | hf
  · exact h.collected _ hk
  · have hfinal := (h.finalized hf).2
    rw [ha] at hfinal
    exact hfinal output ho

/-- A worker may note the row it has just read. -/
theorem Knows.read (h : Knows v worker tally)
    (hr : ∀ outpoint ∈ confirmedKeys v.steps, outpoint ∈ v.collected) :
    Knows v worker (tally.read v.quoted v.adopted v.steps) := by
  have hcollected : ∀ outpoint ∈ confirmedKeys v.steps ++ tally.collected,
      outpoint ∈ v.collected := by
    intro outpoint ho
    rcases List.mem_append.mp ho with ho | ho
    · exact hr outpoint ho
    · exact h.collected outpoint ho
  unfold CollectNote.read
  cases hq : v.quoted with
  | true => exact ⟨h.reads, hcollected, h.offered, h.finalized⟩
  | false =>
    refine ⟨fun adopted hm => ?_, hcollected, h.offered, fun hf => ?_⟩
    · rcases List.mem_cons.mp hm with rfl | hm
      · exact ⟨hq, rfl⟩
      · exact h.reads adopted hm
    · exact ⟨List.cons_ne_nil _ _, (h.finalized hf).2⟩

/-- A worker may note a spend it has just been shown. -/
theorem Knows.found (h : Knows v worker tally) {outpoint : Outpoint}
    (hc : outpoint ∈ v.collected) : Knows v worker (tally.found outpoint) := by
  refine ⟨h.reads, fun other ho => ?_, h.offered, h.finalized⟩
  rcases List.mem_cons.mp ho with rfl | ho
  · exact hc
  · exact h.collected other ho

/-- The selection counts when it is within what the claim took. -/
theorem Knows.select (h : Knows v worker tally) {outputs inputs : List FundedOutput}
    (hs : ∀ taken, v.lastClaim worker = some ⟨outputs, taken⟩ → inputs ⊆ taken) :
    Knows v worker (tally.select outputs inputs) := by
  unfold CollectNote.select
  split
  · next ho =>
    obtain ⟨taken, hl, hc⟩ := h.offered outputs ho
    refine ⟨h.reads, fun outpoint hm => ?_, h.offered, h.finalized⟩
    rcases List.mem_append.mp hm with hm | hm
    · obtain ⟨output, hi, rfl⟩ := List.mem_map.mp hm
      exact hc output (hs taken hl hi)
    · exact h.collected outpoint hm
  · exact h

/-- A worker may note the adopted outputs collected once its claim is final. -/
theorem Knows.finalize (h : Knows v worker tally)
    (hf : ∀ output ∈ v.adopted.getD [], output.outpoint ∈ v.collected) :
    Knows v worker tally.finalize := by
  unfold CollectNote.finalize
  split
  · exact h
  · next hn => exact ⟨h.reads, h.collected, h.offered, fun _ => ⟨hn, hf⟩⟩

/-- One worker learns something true. -/
theorem Collecting.learn (h : Collecting v notes) (hk : Knows v worker tally) :
    Collecting v (Function.update notes worker tally) := by
  refine ⟨fun other => ?_, h.recorded, h.closed⟩
  by_cases ho : other = worker
  · subst ho
    simpa only [Function.update_self] using hk
  · simpa only [Function.update_of_ne ho] using h.knows other

/-- More outputs are collected. -/
theorem Collecting.collect (h : Collecting v notes) (more : List Outpoint) :
    Collecting { v with collected := more ++ v.collected } notes := by
  have hmore : ∀ outpoint, outpoint ∈ v.collected → outpoint ∈ more ++ v.collected :=
    fun outpoint ho => List.mem_append_right more ho
  refine ⟨fun other => ?_, fun outpoint ho => hmore _ (h.recorded outpoint ho),
    fun hc output ho => hmore _ (h.closed hc output ho)⟩
  have hk := h.knows other
  refine ⟨hk.reads, fun outpoint ho => hmore _ (hk.collected outpoint ho), fun outputs ho => ?_,
    fun hf => ⟨(hk.finalized hf).1, fun output ho => hmore _ ((hk.finalized hf).2 output ho)⟩⟩
  obtain ⟨taken, hl, hc⟩ := hk.offered outputs ho
  exact ⟨taken, hl, fun output hm => hmore _ (hc output hm)⟩

/-- One more output is collected, and the worker is told. -/
theorem Collecting.found (h : Collecting v notes) (outpoint : Outpoint) :
    Collecting { v with collected := outpoint :: v.collected }
      (Function.update notes worker ((notes worker).found outpoint)) := by
  have hc := h.collect [outpoint]
  exact hc.learn ((hc.knows worker).found List.mem_cons_self)

/-- A finalized claim whose spends cover what was adopted. -/
theorem Collecting.finalize (h : Collecting v notes) {spent : List Outpoint}
    (hall : ∀ output ∈ v.adopted.getD [], output.outpoint ∈ spent ++ v.collected) :
    Collecting { v with collected := spent ++ v.collected }
      (Function.update notes worker (notes worker).finalize) := by
  have hc := h.collect spent
  exact hc.learn ((hc.knows worker).finalize hall)

/-- Everything a closed row adopted is collected. -/
theorem Collecting.of_claimed (h : Collecting v notes) (hc : v.claimed = true)
    {adopted : List AdoptedOutput} (ha : v.adopted = some adopted) :
    ∀ output ∈ adopted, output.outpoint ∈ v.collected := by
  intro output ho
  have hall := h.closed hc output
  rw [ha] at hall
  exact hall ho

/-- The view after a claim of these outputs that took those. -/
def CollectView.claim (v : CollectView) (worker : ℕ) (offered taken : List FundedOutput) :
    CollectView :=
  { v with
    collected := taken.map FundedOutput.outpoint ++ v.collected
    lastClaim := Function.update v.lastClaim worker (some ⟨offered, taken⟩) }

/-- A claim the server accepted: the worker may remember what it offered, or
nothing when the answer was an error. -/
theorem Collecting.claim (h : Collecting v notes) (outputs taken : List FundedOutput)
    {offered : Option (List FundedOutput)} (ho : ∀ other, offered = some other → other = outputs) :
    Collecting (v.claim worker outputs taken)
      (Function.update notes worker { notes worker with offered := offered }) := by
  have hc := h.collect (taken.map FundedOutput.outpoint)
  refine ⟨fun other => ?_, hc.recorded, hc.closed⟩
  have hk := hc.knows other
  by_cases hw : other = worker
  · subst hw
    rw [Function.update_self]
    refine ⟨hk.reads, hk.collected, fun shown hs => ?_, hk.finalized⟩
    rw [ho shown hs]
    refine ⟨taken, Function.update_self .., fun output hm => ?_⟩
    exact List.mem_append_left _ (List.mem_map.mpr ⟨output, hm, rfl⟩)
  · rw [Function.update_of_ne hw]
    refine ⟨hk.reads, hk.collected, fun shown hs => ?_, hk.finalized⟩
    obtain ⟨took, hl, hall⟩ := hk.offered shown hs
    refine ⟨took, ?_, hall⟩
    rw [← hl]
    exact Function.update_of_ne hw ..

/-- A worker forgets what it offered. -/
theorem Knows.forgetOffer (h : Knows v worker tally) :
    Knows v worker { tally with offered := none } := by
  refine ⟨h.reads, h.collected, fun outputs ho => ?_, h.finalized⟩
  cases ho

/-- The row moves. It leaves `quoted` for good, keeps what it adopted from then
on, and becomes `claimed` only by a worker whose notes license it. -/
theorem Collecting.move (h : Collecting v notes) {quoted claimed : Bool}
    {adopted : Option (List AdoptedOutput)}
    (hstay : v.quoted = false → quoted = false ∧ adopted = v.adopted)
    (hclose : claimed = true → (notes worker).Closes) :
    Collecting { v with quoted := quoted, claimed := claimed, adopted := adopted } notes := by
  refine ⟨fun other => ?_, h.recorded, fun hc output ho => ?_⟩
  · have hk := h.knows other
    refine ⟨fun read hm => ?_, hk.collected, hk.offered, fun hf => ?_⟩
    · obtain ⟨hq, ha⟩ := hk.reads read hm
      obtain ⟨hq', ha'⟩ := hstay hq
      exact ⟨hq', ha'.trans ha⟩
    · obtain ⟨hne, hall⟩ := hk.finalized hf
      obtain ⟨read, hm⟩ := List.exists_mem_of_ne_nil _ hne
      have ha := (hstay (hk.reads read hm).1).2
      refine ⟨hne, fun output ho => hall output ?_⟩
      have ho : output ∈ adopted.getD [] := ho
      rwa [ha] at ho
  · obtain ⟨hq, hall⟩ := (h.knows worker).closes (hclose hc)
    have ha := (hstay hq).2
    have ho : output ∈ adopted.getD [] := ho
    rw [ha] at ho
    exact hall output ho

/-- The recorded steps are rewritten; what they call confirmed is collected. -/
theorem Collecting.record (h : Collecting v notes) {steps : UnrolledSteps}
    (hs : ∀ outpoint ∈ confirmedKeys steps, outpoint ∈ v.collected) :
    Collecting { v with steps := steps } notes := by
  refine ⟨fun other => ?_, hs, h.closed⟩
  have hk := h.knows other
  exact ⟨hk.reads, hk.collected, hk.offered, hk.finalized⟩

end Ledger

end IntentSolver.CollectedLockup
