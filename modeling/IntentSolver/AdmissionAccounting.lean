import IntentSolver.Admission
import Mathlib.Algebra.Group.Prod
import Mathlib.Algebra.Group.Pi.Lemmas
import Mathlib.Algebra.BigOperators.Group.List.Basic
import Mathlib.Tactic.Abel

/-!
# Admission accounting

The counters are compared with the sizes of the reservations that were returned and not
yet released. The running job is the only other party: its own undo closures are exactly
what the counters carry on top. A job that undoes them and then throws undoes them again
in its catch-all, which happens when the caller's `onRefused` throws on a float refusal;
in every other run the books balance whenever no job is running.
-/

namespace IntentSolver.AdmissionAccounting

open Admission WorkerProgram WorkerInterleaving

/-! ## Totals -/

/-- Exposure, float, and inventory by pool. -/
abbrev Totals : Type := ℤ × ℤ × (String → ℤ)

/-- What the counters read. -/
def counted (control : AdmissionControl) : Totals :=
  (control.reserved, control.reservedFloat, control.inventory)

/-- What a reservation of this size claims. -/
def sized (size : Size) : Totals := (size.exposure, size.float, size.inventory)

/-- What a closure gives back when it is called. -/
def givenBack : Undo → Totals
  | .exposure sats => (sats, 0, 0)
  | .float required => (0, required, 0)
  | .pool poolId sats => (0, 0, Pi.single poolId sats)
  | .held poolId sats released => if released then 0 else (0, 0, Pi.single poolId sats)

/-- What a list of closures gives back. -/
def claimed (undo : List Undo) : Totals := (undo.map givenBack).sum

/-- What a returned reservation still claims. -/
def owedBy (reservation : Issued) : Totals :=
  if reservation.released then 0 else sized reservation.size

/-- What all returned reservations still claim. -/
def owed (issued : List Issued) : Totals := (issued.map owedBy).sum

/-- One more entry on the undo list claims what it gives back. -/
theorem claimed_append (undo : List Undo) (one : Undo) :
    claimed (undo ++ [one]) = claimed undo + givenBack one := by
  simp [claimed]

/-- One more reservation adds what it is owed. -/
theorem owed_append (issued : List Issued) (reservation : Issued) :
    owed (issued ++ [reservation]) = owed issued + owedBy reservation := by
  simp [owed]

/-- Replacing one reservation moves a sum over them by the difference. -/
theorem sum_map_set {G : Type} [AddCommGroup G] (value : Issued → G) {issued : List Issued}
    {handle : ℕ} {reservation next : Issued} (h : issued[handle]? = some reservation) :
    ((issued.set handle next).map value).sum =
      (issued.map value).sum - value reservation + value next := by
  induction issued generalizing handle with
  | nil => simp at h
  | cons head rest ih =>
    cases handle with
    | zero =>
      obtain rfl : head = reservation := by simpa using h
      simp only [List.set_cons_zero, List.map_cons, List.sum_cons]
      abel
    | succ handle =>
      have hrest := ih (by simpa using h)
      simp only [List.set_cons_succ, List.map_cons, List.sum_cons, hrest]
      abel

/-- Overwriting a reservation trades what it was owed for what the new one is. -/
theorem owed_set {issued : List Issued} {handle : ℕ} {reservation next : Issued}
    (h : issued[handle]? = some reservation) :
    owed (issued.set handle next) = owed issued - owedBy reservation + owedBy next :=
  sum_map_set owedBy h

/-- Releasing inventory lowers the pool's counter by exactly the amount. -/
theorem counted_releaseInventory (control : AdmissionControl) (poolId : String) (sats : ℤ) :
    counted (control.releaseInventory poolId sats) =
      counted control - (0, 0, Pi.single poolId sats) := by
  have hpool : Function.update control.inventory poolId (control.inventory poolId - sats) =
      control.inventory - Pi.single poolId sats := by
    funext other
    by_cases ho : other = poolId
    · subst ho
      simp
    · simp [ho]
  simp [counted, AdmissionControl.releaseInventory, AdmissionControl.outstandingInventorySats,
    hpool]

/-- A call of a closure gives back what it claims to. -/
theorem counted_call (control : AdmissionControl) (undo : Undo) :
    counted (undo.call control) = counted control - givenBack undo := by
  cases undo with
  | exposure sats => simp [counted, Undo.call, givenBack]
  | float required => simp [counted, Undo.call, givenBack]
  | pool poolId sats => exact counted_releaseInventory control poolId sats
  | held poolId sats released =>
    cases released with
    | true => simp [Undo.call, givenBack]
    | false => exact counted_releaseInventory control poolId sats

/-- Undoing a list lowers the counters by what the list claims. -/
theorem counted_undoAll (undo : List Undo) (control : AdmissionControl) :
    counted (undoAll undo control) = counted control - claimed undo := by
  induction undo generalizing control with
  | nil => simp [undoAll, claimed]
  | cons one rest ih =>
    have hrest := ih (one.call control)
    simp only [undoAll, List.foldl_cons, claimed, List.map_cons, List.sum_cons] at hrest ⊢
    rw [hrest, counted_call]
    abel

/-- A granted exposure claim is counted as its undo entry gives it back. -/
theorem counted_claimExposure {control next : AdmissionControl} {sats capSats committed : ℤ}
    (h : control.claimExposure sats capSats committed = some next) :
    counted next = counted control + givenBack (.exposure sats) := by
  unfold AdmissionControl.claimExposure at h
  split at h <;> cases h
  simp [counted, givenBack]

/-- A granted float claim is counted as its undo entry gives it back. -/
theorem counted_claimFloat {control next : AdmissionControl} {required availableSats owed : ℤ}
    (h : control.claimFloat required availableSats owed = some next) :
    counted next = counted control + givenBack (.float required) := by
  unfold AdmissionControl.claimFloat at h
  split at h <;> cases h
  simp [counted, givenBack]

/-- Restoring inventory counts what its undo entry gives back. -/
theorem counted_restoreInventory {control next : AdmissionControl} {poolId : String}
    {requiredSats : ℤ} (h : control.restoreInventory poolId requiredSats = .ok next) :
    counted next = counted control + givenBack (.pool poolId requiredSats) := by
  unfold AdmissionControl.restoreInventory at h
  split at h
  · cases h
  split at h
  · cases h
  cases h
  have hpool : Function.update control.inventory poolId
      (control.inventory poolId + requiredSats) =
      control.inventory + Pi.single poolId requiredSats := by
    funext other
    by_cases ho : other = poolId
    · subst ho
      simp
    · simp [ho]
  simp [counted, givenBack, AdmissionControl.outstandingInventorySats, hpool]

/-- A hold returned by itself claims its own size. -/
theorem claimed_pool (poolId : String) (sats : ℤ) :
    claimed [.pool poolId sats] = sized { pool := some (poolId, sats) } := by
  have hpool : Pi.single poolId sats = Size.inventory { pool := some (poolId, sats) } := by
    funext other
    by_cases ho : other = poolId
    · subst ho
      simp [Size.inventory]
    · have hne : poolId ≠ other := fun he => ho he.symm
      simp [Size.inventory, ho, hne]
  simp [claimed, givenBack, sized, hpool]

/-- An exposure alone claims what a reservation of that size holds. -/
theorem claimed_exposure (sats : ℤ) : claimed [.exposure sats] = sized { exposure := sats } := by
  have hpool : Size.inventory { exposure := sats } = 0 := rfl
  simp [claimed, givenBack, sized, hpool]

/-- An exposure with a held pool claims what the reservation of both holds. -/
theorem claimed_hold (sats : ℤ) (poolId : String) (held : ℤ) :
    claimed [.exposure sats, .held poolId held false] =
      sized { exposure := sats, pool := some (poolId, held) } := by
  have hpool : claimed [.held poolId held false] = sized { pool := some (poolId, held) } :=
    claimed_pool poolId held
  have hsum : claimed [.exposure sats, .held poolId held false] =
      claimed [.exposure sats] + claimed [.held poolId held false] :=
    claimed_append [.exposure sats] (.held poolId held false) |>.trans (by simp [claimed])
  rw [hsum, hpool, claimed_exposure]
  have hnone : Size.inventory { exposure := sats } = 0 := rfl
  simp only [sized, hnone, Prod.mk_add_mk, add_zero, zero_add]
  rfl

/-- A hold claims the same whichever closure carries it. -/
theorem givenBack_hold (poolId : String) (sats : ℤ) (nested : Bool) :
    givenBack (if nested then .held poolId sats false else .pool poolId sats) =
      givenBack (.pool poolId sats) := by
  cases nested <;> rfl

/-! ## The books -/

/-- How far the counters run ahead of the returned reservations. -/
def ahead (world : AdmissionWorld) : Totals := counted world.control - owed world.issued

/-- What the running job has claimed and not undone. -/
inductive JobNote where
  /-- No job of this caller is running. -/
  | outside
  | claims (undo : List Undo)
  /-- Everything was undone. -/
  | undone
  /-- The caller's `onRefused` threw after everything was undone. -/
  | broken

/-- The closures the counters still carry for the job. -/
def JobNote.live : JobNote → List Undo
  | .claims undo => undo
  | _ => []

/-- A job may end like this: with a reservation for what it has claimed, or with nothing. -/
def settles : JobNote → Option Size → Prop
  | .claims undo, some size => claimed undo = sized size
  | .claims undo, none => undo = []
  | .undone, none => True
  | _, _ => False

/-- Claim once, undo once, and settle for what is left. -/
def mayBook : JobNote → AdmissionOp → Prop
  | note, .enter => note = .outside
  | note, .settle size => settles note size
  | note, .claimExposure _ _ _ => note = .claims []
  | note, .claimFloat _ _ _ => ∃ undo, note = .claims undo
  | note, .restoreInventory _ _ _ => ∃ undo, note = .claims undo
  | note, .undoExposure sats => note = .claims [.exposure sats]
  | note, .undoAll => note = .broken ∨ ∃ undo, note = .claims undo
  | _, _ => True

/-- What the job has claimed after an answer. -/
def learnBook : JobNote → (op : AdmissionOp) → op.Ans → JobNote
  | _, .enter, _ => .claims []
  | _, .settle _, _ => .outside
  | _, .claimExposure sats _ _, true => .claims [.exposure sats]
  | note, .claimFloat required _ _, true => .claims (note.live ++ [.float required])
  | note, .restoreInventory poolId sats nested, .ok _ =>
    .claims (note.live ++ [if nested then .held poolId sats false else .pool poolId sats])
  | _, .undoExposure _, _ => .undone
  | _, .undoAll, _ => .undone
  | .undone, .onRefused .float, .error _ => .broken
  | note, _, _ => note

/-- What a job may do to the counters, given what it has claimed. -/
def bookDiscipline : Discipline AdmissionOp.Ans where
  Note := JobNote
  fresh := .outside
  may := mayBook
  learn := learnBook

/-- The counters are ahead of the reservations by what the running job has claimed. -/
structure Inv (world : AdmissionWorld) (notes : ℕ → JobNote) : Prop where
  sound : ∀ worker, notes worker ≠ .broken
  turn : ∀ worker, notes worker ≠ .outside → world.turn = some worker
  frame : ∀ worker undo, notes worker = .claims undo → world.undo = undo
  busy : ∀ worker, notes worker ≠ .outside → ahead world = claimed (notes worker).live
  idle : world.turn = none → ahead world = 0
  backed : ∀ reservation ∈ world.issued, reservation.released = false →
    claimed reservation.undo = sized reservation.size

namespace Inv

variable {world next : AdmissionWorld} {notes : ℕ → JobNote} {worker : ℕ}

/-- While one caller's job runs, no other caller's does. -/
theorem alone (h : Inv world notes) (hw : notes worker ≠ .outside) {other : ℕ}
    (ho : other ≠ worker) : notes other = .outside := by
  by_contra hn
  have hturn := (h.turn worker hw).symm.trans (h.turn other hn)
  exact ho (Option.some.inj hturn).symm

/-- The books stay right when a worker's standing is forgotten. -/
theorem forget (h : Inv world notes) (worker : ℕ) :
    Inv world (Function.update notes worker .outside) := by
  have hnotes : ∀ other, Function.update notes worker JobNote.outside other ≠ .outside →
      Function.update notes worker JobNote.outside other = notes other := by
    intro other hn
    have ho : other ≠ worker := fun he => hn (by rw [he, Function.update_self])
    rw [Function.update_of_ne ho]
  refine ⟨fun other hb => ?_, fun other hn => ?_, fun other undo hc => ?_, fun other hn => ?_,
    h.idle, h.backed⟩
  · have hsame := hnotes other (by rw [hb]; simp)
    exact h.sound other (hsame.symm.trans hb)
  · have hsame := hnotes other hn
    rw [hsame] at hn
    exact h.turn other hn
  · have hsame := hnotes other (by rw [hc]; simp)
    exact h.frame other undo (hsame.symm.trans hc)
  · have hsame := hnotes other hn
    rw [hsame] at hn ⊢
    exact h.busy other hn

/-- The running job takes a step. -/
theorem work (h : Inv world notes) (hw : notes worker ≠ .outside) {note : JobNote}
    (hb : note ≠ .broken) (ht : next.turn = world.turn)
    (hf : ∀ undo, note = .claims undo → next.undo = undo) (ha : ahead next = claimed note.live)
    (hi : ∀ reservation ∈ next.issued, reservation.released = false →
      claimed reservation.undo = sized reservation.size) :
    Inv next (Function.update notes worker note) := by
  have hturn := h.turn worker hw
  have hother : ∀ other, other ≠ worker → Function.update notes worker note other = .outside :=
    fun other hne => by rw [Function.update_of_ne hne, h.alone hw hne]
  refine ⟨fun other hbad => ?_, fun other hn => ?_, fun other undo hc => ?_, fun other hn => ?_,
    fun hnone => ?_, hi⟩
  · by_cases he : other = worker
    · rw [he, Function.update_self] at hbad
      exact hb hbad
    · rw [hother other he] at hbad
      cases hbad
  · by_cases he : other = worker
    · rw [he, ht, hturn]
    · exact absurd (hother other he) hn
  · by_cases he : other = worker
    · rw [he, Function.update_self] at hc
      exact hf undo hc
    · rw [hother other he] at hc
      cases hc
  · by_cases he : other = worker
    · rw [he, Function.update_self]
      exact ha
    · exact absurd (hother other he) hn
  · rw [ht, hturn] at hnone
    cases hnone

/-- A step that leaves the queue alone and moves counters and reservations together. -/
theorem shift (h : Inv world notes) (worker : ℕ) (ht : next.turn = world.turn)
    (hu : next.undo = world.undo) (ha : ahead next = ahead world)
    (hi : ∀ reservation ∈ next.issued, reservation.released = false →
      claimed reservation.undo = sized reservation.size) :
    Inv next (Function.update notes worker (notes worker)) := by
  rw [Function.update_eq_self]
  refine ⟨h.sound, fun other hn => ?_, fun other undo hc => ?_, fun other hn => ?_, fun hn => ?_,
    hi⟩
  · rw [ht, h.turn other hn]
  · rw [hu, h.frame other undo hc]
  · rw [ha, h.busy other hn]
  · rw [ha, h.idle (ht.symm.trans hn)]

/-- The queue starts a job. -/
theorem enter (h : Inv world notes) (ht : world.turn = none) (worker : ℕ) :
    Inv { world with turn := some worker, undo := [] }
      (Function.update notes worker (.claims [])) := by
  have hother : ∀ other, notes other = .outside := by
    intro other
    by_contra hn
    rw [h.turn other hn] at ht
    cases ht
  have hidle : ahead world = 0 := h.idle ht
  refine ⟨fun other hb => ?_, fun other hn => ?_, fun other undo hc => ?_, fun other hn => ?_,
    fun hnone => absurd hnone (by simp), h.backed⟩
  · by_cases he : other = worker
    · rw [he, Function.update_self] at hb
      cases hb
    · rw [Function.update_of_ne he, hother] at hb
      cases hb
  · by_cases he : other = worker
    · rw [he]
    · rw [Function.update_of_ne he] at hn
      exact absurd (hother other) hn
  · by_cases he : other = worker
    · rw [he, Function.update_self] at hc
      cases hc
      rfl
    · rw [Function.update_of_ne he, hother] at hc
      cases hc
  · by_cases he : other = worker
    · rw [he, Function.update_self]
      exact hidle
    · rw [Function.update_of_ne he] at hn
      exact absurd (hother other) hn

/-- The running job ends. -/
theorem leave (h : Inv world notes) (hw : notes worker ≠ .outside) (ha : ahead next = 0)
    (hi : ∀ reservation ∈ next.issued, reservation.released = false →
      claimed reservation.undo = sized reservation.size) :
    Inv next (Function.update notes worker .outside) := by
  have hother : ∀ other, Function.update notes worker JobNote.outside other = .outside := by
    intro other
    by_cases he : other = worker
    · rw [he, Function.update_self]
    · rw [Function.update_of_ne he, h.alone hw he]
  refine ⟨fun other hb => ?_, fun other ho => absurd (hother other) ho, fun other undo hc => ?_,
    fun other ho => absurd (hother other) ho, fun _ => ha, hi⟩
  · rw [hother] at hb
    cases hb
  · rw [hother] at hc
    cases hc

end Inv

/-! ## What one action does -/

/-- Replacing a reservation by one that claims as much and is as well backed. -/
theorem backed_set {issued : List Issued} {handle : ℕ} {next : Issued}
    (h : ∀ reservation ∈ issued, reservation.released = false →
      claimed reservation.undo = sized reservation.size)
    (hn : next.released = false → claimed next.undo = sized next.size) :
    ∀ reservation ∈ issued.set handle next, reservation.released = false →
      claimed reservation.undo = sized reservation.size := by
  intro reservation hm hr
  obtain hm | rfl := List.mem_or_eq_of_mem_set hm
  · exact h reservation hm hr
  · exact hn hr

/-- A release gives back what the reservation claimed. -/
theorem ahead_releaseAt {world next : AdmissionWorld} {handle : ℕ}
    (h : ∀ reservation ∈ world.issued, reservation.released = false →
      claimed reservation.undo = sized reservation.size)
    (hr : releaseAt handle world = some next) :
    next.turn = world.turn ∧ next.undo = world.undo ∧ ahead next = ahead world ∧
      ∀ reservation ∈ next.issued, reservation.released = false →
        claimed reservation.undo = sized reservation.size := by
  unfold releaseAt at hr
  split at hr
  next reservation hg =>
    split at hr
    next => cases hr; exact ⟨rfl, rfl, rfl, h⟩
    next hlive =>
      cases hr
      have hfree : reservation.released = false := by simpa using hlive
      have hback := h reservation (List.mem_of_getElem? hg) hfree
      refine ⟨rfl, rfl, ?_, backed_set h (by simp)⟩
      simp only [ahead, counted_undoAll, owed_set hg, owedBy, hfree, hback]
      simp
  next => cases hr

/-- Landing a row leaves the claims as they are. -/
theorem ahead_landAt {world next : AdmissionWorld} {handle amountSats : ℕ}
    (h : ∀ reservation ∈ world.issued, reservation.released = false →
      claimed reservation.undo = sized reservation.size)
    (hr : landAt handle amountSats world = some next) :
    next.turn = world.turn ∧ next.undo = world.undo ∧ ahead next = ahead world ∧
      ∀ reservation ∈ next.issued, reservation.released = false →
        claimed reservation.undo = sized reservation.size := by
  unfold landAt at hr
  split at hr
  next reservation hg =>
    cases hr
    refine ⟨rfl, rfl, ?_, backed_set h fun hf => h reservation (List.mem_of_getElem? hg) hf⟩
    simp [ahead, owed_set hg, owedBy]
  next => cases hr

/-- Ageing the reservations changes nobody's share of the counters. -/
theorem owed_older (issued : List Issued) : owed (issued.map Issued.older) = owed issued := by
  unfold owed
  rw [List.map_map]
  rfl

/-- The undo lists stay backed when a backed reservation joins. -/
theorem backed_append {issued : List Issued} {next : Issued}
    (h : ∀ reservation ∈ issued, reservation.released = false →
      claimed reservation.undo = sized reservation.size)
    (hn : claimed next.undo = sized next.size) :
    ∀ reservation ∈ issued ++ [next], reservation.released = false →
      claimed reservation.undo = sized reservation.size := by
  intro reservation hm hr
  obtain hm | hm := List.mem_append.mp hm
  · exact h reservation hm hr
  · obtain rfl := List.mem_singleton.mp hm
    exact hn

/-- A job settles for what it has claimed. -/
theorem Inv.settle {world next : AdmissionWorld} {notes : ℕ → JobNote} {worker : ℕ}
    {callbacks : Callbacks} {reply : AdmissionReply} {size : Option Size} {answer : Option ℕ}
    (h : Inv world notes) (hm : settles (notes worker) size)
    (hp : perform callbacks worker (.settle size) reply world = some (answer, next)) :
    Inv next (Function.update notes worker .outside) := by
  cases hn : notes worker with
  | broken => exact absurd hn (h.sound worker)
  | outside => cases size <;> simp [hn, settles] at hm
  | undone =>
    have hbusy := h.busy worker (by simp [hn])
    cases size with
    | none =>
      cases hp
      have hzero : ahead world = 0 := by simpa [hn, JobNote.live, claimed] using hbusy
      exact h.leave (by simp [hn]) hzero h.backed
    | some size => simp [hn, settles] at hm
  | claims undo =>
    have hbusy := h.busy worker (by simp [hn])
    rw [hn] at hm hbusy
    cases size with
    | none =>
      cases hp
      have hempty : undo = [] := hm
      have hzero : ahead world = 0 := by simpa [JobNote.live, hempty, claimed] using hbusy
      exact h.leave (by simp [hn]) hzero h.backed
    | some size =>
      cases hp
      have hsize : claimed undo = sized size := hm
      have hframe := h.frame worker undo hn
      refine h.leave (by simp [hn]) ?_ (backed_append h.backed (by rw [issuedTo, hframe, hsize]))
      have hnew : owedBy (issuedTo worker size world.undo) = claimed undo := by
        rw [hsize]
        rfl
      unfold ahead at hbusy ⊢
      dsimp only [JobNote.live] at hbusy ⊢
      rw [owed_append, hnew, ← hbusy]
      abel

/-- The caller's `onRefused` comes back when it is told of a float refusal. -/
def floatRefusalReturns (callbacks : Callbacks) (reply : AdmissionReply) : AdmissionOp → Bool
  | .onRefused .float => (callbacks.onRefused reply .float).isOk
  | _ => true

/-- Every action but one of a broken job keeps the books. -/
theorem Inv.perform {world next : AdmissionWorld} {notes : ℕ → JobNote} {worker : ℕ}
    {callbacks : Callbacks} {op : AdmissionOp} {reply : AdmissionReply} {answer : op.Ans}
    (h : Inv world notes) (hm : mayBook (notes worker) op)
    (hc : floatRefusalReturns callbacks reply op = true)
    (hp : Admission.perform callbacks worker op reply world = some (answer, next)) :
    Inv next (Function.update notes worker (learnBook (notes worker) op answer)) := by
  have hsame : Inv world (Function.update notes worker (notes worker)) :=
    h.shift worker rfl rfl rfl h.backed
  cases op with
  | enter =>
    simp only [Admission.perform] at hp
    split at hp
    next ht =>
      cases hp
      exact h.enter ht worker
    next => cases hp
  | settle size => exact h.settle hm hp
  | claimExposure sats capSats committed =>
    have hn : notes worker = .claims [] := hm
    have hbusy := h.busy worker (by simp [hn])
    simp only [Admission.perform] at hp
    split at hp
    next control hcontrol =>
      cases hp
      rw [hn] at hbusy ⊢
      refine h.work (by simp [hn]) (by simp [learnBook]) rfl (fun undo hu => ?_) ?_ h.backed
      · cases hu
        rfl
      · have hcount := counted_claimExposure hcontrol
        simp only [ahead, learnBook, JobNote.live, claimed, List.map_nil, List.sum_nil] at hbusy ⊢
        rw [hcount, add_sub_right_comm, hbusy]
        simp
    next =>
      cases hp
      rw [hn] at hsame ⊢
      exact ⟨hsame.sound, hsame.turn, hsame.frame, hsame.busy, hsame.idle, hsame.backed⟩
  | claimFloat required availableSats owedSats =>
    obtain ⟨undo, hn⟩ := hm
    have hbusy := h.busy worker (by simp [hn])
    have hframe := h.frame worker undo hn
    simp only [Admission.perform] at hp
    split at hp
    next control hcontrol =>
      cases hp
      rw [hn] at hbusy ⊢
      refine h.work (by simp [hn]) (by simp [learnBook]) rfl (fun after hu => ?_) ?_ h.backed
      · cases hu
        rw [hframe]
        rfl
      · have hcount := counted_claimFloat hcontrol
        simp only [ahead, learnBook, JobNote.live, claimed_append] at hbusy ⊢
        rw [hcount, add_sub_right_comm, hbusy]
    next =>
      cases hp
      rw [hn] at hsame ⊢
      exact hsame
  | restoreInventory poolId sats nested =>
    obtain ⟨undo, hn⟩ := hm
    have hbusy := h.busy worker (by simp [hn])
    have hframe := h.frame worker undo hn
    simp only [Admission.perform] at hp
    split at hp
    next control hcontrol =>
      cases hp
      rw [hn] at hbusy ⊢
      refine h.work (by simp [hn]) (by simp [learnBook]) rfl (fun after hu => ?_) ?_ h.backed
      · cases hu
        rw [hframe]
        rfl
      · have hcount := counted_restoreInventory hcontrol
        simp only [ahead, learnBook, JobNote.live, claimed_append, givenBack_hold] at hbusy ⊢
        rw [hcount, add_sub_right_comm, hbusy]
    next =>
      cases hp
      rw [hn] at hsame ⊢
      exact hsame
  | undoExposure sats =>
    have hn : notes worker = .claims [.exposure sats] := hm
    have hbusy := h.busy worker (by simp [hn])
    cases hp
    rw [hn] at hbusy ⊢
    refine h.work (by simp [hn]) (by simp [learnBook]) rfl (by simp [learnBook]) ?_ h.backed
    simp only [ahead, learnBook, JobNote.live, counted_call] at hbusy ⊢
    rw [sub_right_comm, hbusy]
    simp [claimed]
  | undoAll =>
    obtain ⟨undo, hn⟩ := hm.resolve_left (h.sound worker)
    have hbusy := h.busy worker (by simp [hn])
    have hframe := h.frame worker undo hn
    cases hp
    rw [hn] at hbusy ⊢
    refine h.work (by simp [hn]) (by simp [learnBook]) rfl (by simp [learnBook]) ?_ h.backed
    simp only [ahead, learnBook, JobNote.live, counted_undoAll, hframe] at hbusy ⊢
    rw [sub_right_comm, hbusy]
    simp [claimed]
  | onRefused ceiling =>
    cases hp
    have hlearn : learnBook (notes worker) (.onRefused ceiling)
        (callbacks.onRefused reply ceiling) = notes worker := by
      cases ceiling with
      | exposure => cases hn : notes worker <;> rfl
      | float =>
        cases ha : callbacks.onRefused reply .float with
        | ok value => cases hn : notes worker <;> rfl
        | error error => simp [floatRefusalReturns, ha, Except.isOk, Except.toBool] at hc
    rw [hlearn]
    exact hsame
  | restore poolId sats =>
    simp only [Admission.perform] at hp
    split at hp
    next control hcontrol =>
      cases hp
      have hsize := claimed_pool poolId sats
      refine h.shift worker rfl rfl ?_ (backed_append h.backed hsize)
      have hnew : owedBy (issuedTo worker { pool := some (poolId, sats) } [.pool poolId sats]) =
          givenBack (.pool poolId sats) := by
        rw [owedBy, issuedTo, if_neg Bool.false_ne_true, ← hsize]
        simp [claimed]
      simp only [ahead, counted_restoreInventory hcontrol, owed_append, hnew]
      abel
    next =>
      cases hp
      exact hsame
  | release handle =>
    obtain ⟨after, hr, hp⟩ := Option.map_eq_some_iff.mp hp
    cases hp
    obtain ⟨ht, hu, ha, hi⟩ := ahead_releaseAt h.backed hr
    exact h.shift worker ht hu ha hi
  | insertQuote handle amountSats =>
    simp only [Admission.perform] at hp
    split at hp
    · obtain ⟨after, hr, hp⟩ := Option.map_eq_some_iff.mp hp
      cases hp
      obtain ⟨ht, hu, ha, hi⟩ := ahead_landAt h.backed hr
      exact h.shift worker ht hu ha hi
    · cases hp
      exact hsame
  | committedSats =>
    cases hp
    refine h.shift worker rfl rfl ?_ ?_
    · simp only [ahead, owed_older]
    · intro reservation hr hfree
      obtain ⟨older, hm, rfl⟩ := List.mem_map.mp hr
      exact h.backed older hm hfree
  | inventoryFor =>
    cases hp
    exact hsame
  | owedSats =>
    cases hp
    exact hsame
  | inventoryGeneration =>
    cases hp
    exact hsame
  | outstandingInventorySats poolId =>
    cases hp
    exact hsame
  | prepare =>
    cases hp
    exact hsame

/-! ## The code keeps the books -/

/-- A callback that teaches nothing, with its error thrown. -/
theorem idle_committedSats : bookDiscipline.Idle (do
    Program.ofExcept (← issue .committedSats) : Prog ℤ) :=
  Discipline.Idle.bind (Discipline.idle_issue fun _ => ⟨trivial, fun _ => rfl⟩)
    Discipline.idle_ofExcept

/-- Asking the corridors what they owe touches no counter. -/
theorem idle_owedSats : bookDiscipline.Idle (do
    Program.ofExcept (← issue .owedSats) : Prog ℤ) :=
  Discipline.Idle.bind (Discipline.idle_issue fun _ => ⟨trivial, fun _ => rfl⟩)
    Discipline.idle_ofExcept

/-- A job that settles for what it has claimed, also after an error, is a call. -/
theorem obeys_serialise {job : Prog (Option Size)}
    (h : bookDiscipline.Ends (.claims []) job (fun size note => settles note size)
      fun _ note => settles note none) :
    bookDiscipline.Obeys .outside (serialise job) fun _ note => note = .outside := by
  refine Discipline.obeys_issue_bind.mpr ⟨rfl, fun _ => ?_⟩
  have hcaught : bookDiscipline.Ends (.claims []) (job.tryCatch fun error => do
      let _ ← issue (.settle none)
      throw error) (fun size note => settles note size) fun _ _ => True :=
    h.tryCatch fun error note hn => ⟨hn, fun _ => trivial⟩
  exact hcaught.obeys.bind fun size note hs => ⟨hs, fun _ => rfl⟩

/-- The exposure job ends settled: with a reservation on the books or nothing claimed. -/
theorem ends_reserveJob (sats capSats : ℤ) :
    bookDiscipline.Ends (.claims []) (reserveJob sats capSats) (fun size note => settles note size)
      fun _ note => settles note none := by
  unfold reserveJob
  split
  · exact rfl
  · refine idle_committedSats.ends_bind (fun _ => rfl) fun committed => ?_
    refine ⟨rfl, fun won => ?_⟩
    cases won with
    | true => exact claimed_exposure sats
    | false => exact rfl

/-- The inventory job ends settled, as the exposure job does. -/
theorem ends_reserveInventoryJob (poolId : String) (requiredSats available : ℤ) :
    bookDiscipline.Ends (.claims []) (reserveInventoryJob poolId requiredSats available)
      (fun size note => settles note size) fun _ note => settles note none := by
  refine idle_owedSats.ends_bind (fun _ => rfl) fun obligations => ?_
  split
  · exact rfl
  · refine Discipline.ends_issue_bind.mpr ⟨trivial, fun held => ?_⟩
    split
    · exact rfl
    · refine Discipline.ends_issue_bind.mpr ⟨⟨[], rfl⟩, fun outcome => ?_⟩
      cases outcome with
      | ok value => exact claimed_pool poolId requiredSats
      | error error => exact rfl

/-- The errors behind the exposure claim: something is claimed, or all was undone and the
caller's `onRefused` threw. -/
def Undoable (note : JobNote) : Prop := note = .broken ∨ ∃ undo, note = .claims undo

/-- The caller hears of a refusal after everything was undone. -/
theorem ends_refused {α : Type} {post : α → JobNote → Prop} (value : α) (h : post value .undone) :
    bookDiscipline.Ends .undone (do
      Program.ofExcept (← issue (.onRefused .float))
      return value : Prog α) post fun _ after => Undoable after := by
  refine Discipline.ends_issue_bind.mpr ⟨trivial, fun outcome => ?_⟩
  cases outcome with
  | ok _ => exact h
  | error error => exact .inl rfl

/-- A float refusal throws after undoing everything claimed so far. -/
theorem ends_refuseFloat (undo : List Undo) :
    bookDiscipline.Ends (.claims undo) refuseFloat (fun size note => settles note size)
      fun _ note => Undoable note := by
  refine Discipline.ends_issue_bind.mpr ⟨.inr ⟨undo, rfl⟩, fun _ => ?_⟩
  exact ends_refused none trivial

/-- The float ceiling adds its claim to what was claimed before. -/
theorem ends_takeFloat {undo : List Undo} {size : Size} (hs : claimed undo = sized size)
    (hf : size.float = 0) (float : Option FloatRequirement) :
    bookDiscipline.Ends (.claims undo) (takeFloat size float) (fun size note => settles note size)
      fun _ note => Undoable note := by
  unfold takeFloat
  split
  · exact hs
  next float =>
    split
    · exact ends_refuseFloat undo
    · refine idle_owedSats.ends_bind (fun _ => .inr ⟨undo, rfl⟩) fun owed => ?_
      refine ⟨⟨undo, rfl⟩, fun won => ?_⟩
      cases won with
      | true =>
        have hadd : claimed (undo ++ [Undo.float float.requiredSats]) =
            sized { size with float := float.requiredSats } := by
          rw [claimed_append, hs]
          simp only [sized, givenBack, hf, Prod.mk_add_mk, add_zero, zero_add]
          rfl
        exact hadd
      | false => exact ends_refuseFloat undo

/-- The inventory ceiling adds its hold to the exposure, or undoes the exposure. -/
theorem ends_holdInventory (giveSats : ℤ) (generation : ℕ) (inventory : InventoryRequirement) :
    bookDiscipline.Ends (.claims [.exposure giveSats])
      (holdInventory giveSats generation inventory)
      (fun held note => note = if held then .claims [.exposure giveSats,
        .held inventory.poolId inventory.requiredSats false] else .undone)
      fun _ note => Undoable note := by
  refine idle_owedSats.ends_bind (fun _ => .inr ⟨_, rfl⟩) fun owed => ?_
  split
  · exact .inr ⟨_, rfl⟩
  · refine Discipline.ends_issue_bind.mpr ⟨trivial, fun now => ?_⟩
    refine Discipline.ends_issue_bind.mpr ⟨trivial, fun held => ?_⟩
    split
    · refine Discipline.ends_issue_bind.mpr ⟨rfl, fun _ => ?_⟩
      exact ends_refused false rfl
    · refine Discipline.ends_issue_bind.mpr ⟨⟨_, rfl⟩, fun outcome => ?_⟩
      cases outcome with
      | ok value => rfl
      | error error => exact .inr ⟨_, rfl⟩

/-- From a claimed exposure, the remaining ceilings end settled or leave an undoable claim. -/
theorem ends_takeCeilings (request : AdmissionRequest) (generation : ℕ)
    (guardedInventory : Option InventoryRequirement) :
    bookDiscipline.Ends (.claims [.exposure request.giveSats])
      (takeCeilings request generation guardedInventory) (fun size note => settles note size)
      fun _ note => Undoable note := by
  unfold takeCeilings
  split
  · exact ends_takeFloat (claimed_exposure _) rfl _
  next inventory =>
    refine Discipline.Ends.bind (ends_holdInventory _ _ inventory) fun held note hn => ?_
    subst hn
    cases held with
    | true => exact ends_takeFloat (claimed_hold _ _ _) rfl _
    | false => trivial

/-- The whole admission job ends settled on every path, thrown refusals included. -/
theorem ends_admitJob (request : AdmissionRequest) (generation : ℕ)
    (guardedInventory : Option InventoryRequirement) :
    bookDiscipline.Ends (.claims []) (admitJob request generation guardedInventory)
      (fun size note => settles note size) fun _ note => settles note none := by
  refine idle_committedSats.ends_bind (fun _ => rfl) fun committed => ?_
  refine ⟨rfl, fun won => ?_⟩
  cases won with
  | true =>
    refine Discipline.Ends.tryCatch (ends_takeCeilings request generation guardedInventory)
      fun error note hn => ?_
    exact ⟨hn, fun _ => trivial⟩
  | false =>
    refine ⟨trivial, fun outcome => ?_⟩
    cases outcome with
    | ok value => exact rfl
    | error error => exact rfl

/-- Every call of `reserve` keeps the books. -/
theorem obeys_reserve (sats capSats : ℤ) :
    bookDiscipline.Obeys .outside (Admission.reserve sats capSats) fun _ note => note = .outside :=
  obeys_serialise (ends_reserveJob sats capSats)

/-- Every call of `admitRequest` keeps the books. -/
theorem obeys_admitRequest (request : AdmissionRequest) :
    bookDiscipline.Obeys .outside (Admission.admitRequest request)
      fun _ note => note = .outside := by
  have hinventory : bookDiscipline.Idle (inventoryOf request) := by
    unfold inventoryOf
    split
    · trivial
    · exact Discipline.Idle.bind (Discipline.idle_issue fun _ => ⟨trivial, fun _ => rfl⟩)
        Discipline.idle_ofExcept
  unfold Admission.admitRequest
  split
  · trivial
  · refine ⟨trivial, fun generation => hinventory.quiet.obeys_bind fun guardedInventory => ?_⟩
    exact obeys_serialise (ends_admitJob request generation guardedInventory)

/-- Every call of the class keeps the books. -/
theorem obeys_call (call : AdmissionCall) :
    bookDiscipline.Obeys .outside call.program fun _ _ => True := by
  cases call with
  | reserve sats capSats => exact (obeys_reserve sats capSats).bind fun _ _ _ => trivial
  | admitRequest request => exact (obeys_admitRequest request).bind fun _ _ _ => trivial
  | reserveInventory poolId requiredSats available =>
    exact (obeys_serialise (ends_reserveInventoryJob poolId requiredSats available)).bind
      fun _ _ _ => trivial
  | restoreInventory poolId requiredSats =>
    refine ⟨trivial, fun outcome => ?_⟩
    cases outcome <;> trivial
  | release handle => exact ⟨trivial, fun _ => trivial⟩

/-! ## The books balance -/

/-- Every float refusal of the run returns from its caller's `onRefused`. -/
def refusalsReturn (callbacks : Callbacks) {Job : Type} (program : Job → Prog Unit) :
    Condition (processMachine callbacks program) :=
  fun _ op reply _ => floatRefusalReturns callbacks reply op = true

instance (callbacks : Callbacks) {Job : Type} (program : Job → Prog Unit) (worker : ℕ)
    (op : (processMachine callbacks program).Op) (reply : (processMachine callbacks program).Reply)
    (world : (processMachine callbacks program).World) :
    Decidable (refusalsReturn callbacks program worker op reply world) :=
  inferInstanceAs (Decidable (floatRefusalReturns callbacks reply op = true))

/-- Jobs that keep the books keep them in any interleaving. -/
def bookProtocol (callbacks : Callbacks) {Job : Type} {program : Job → Prog Unit}
    (hj : ∀ job, bookDiscipline.Obeys .outside (program job) fun _ _ => True) :
    Protocol (processMachine callbacks program) (refusalsReturn callbacks program) where
  discipline := bookDiscipline
  inv := Inv
  forget _ _ worker h := h.forget worker
  act _ _ _ _ _ _ _ h hm hc hp := h.perform hm hc hp
  stir _ _ move _ h hs := by
    cases move with
    | retire index =>
      cases hs
      exact ⟨h.sound, h.turn, h.frame, h.busy, h.idle, h.backed⟩
  jobs := hj

/-- A process that has just started has nothing on its books. -/
theorem inv_fresh (rows : List ℕ) : Inv { rows := rows } fun _ => .outside where
  sound _ h := by cases h
  turn _ h := absurd rfl h
  frame _ _ h := by cases h
  busy _ h := absurd rfl h
  idle _ := rfl
  backed reservation h := by cases h

/-- One counter of the totals is the sum of its part of the sizes. -/
theorem outstanding_eq (part : Totals →+ ℤ) (issued : List Issued) :
    outstanding issued (fun size => part (sized size)) = part (owed issued) := by
  induction issued with
  | nil => exact (map_zero part).symm
  | cons reservation rest ih =>
    have hsum : owed (reservation :: rest) = owedBy reservation + owed rest := by simp [owed]
    rw [hsum, map_add, ← ih]
    cases hr : reservation.released with
    | true => simp [outstanding, owedBy, hr]
    | false => simp [outstanding, owedBy, hr]

/-- Every counter is the sum of the sizes of the reservations returned and not released. -/
def Exact (world : AdmissionWorld) : Prop :=
  world.control.reserved = outstanding world.issued (fun size => size.exposure) ∧
    world.control.reservedFloat = outstanding world.issued (fun size => size.float) ∧
    ∀ poolId, world.control.outstandingInventorySats poolId =
      outstanding world.issued (fun size => size.inventory poolId)

/-- Balanced books are exact counters. -/
theorem Inv.exact {world : AdmissionWorld} {notes : ℕ → JobNote} (h : Inv world notes)
    (ht : world.turn = none) : Exact world := by
  have hbalance : counted world.control = owed world.issued := sub_eq_zero.mp (h.idle ht)
  refine ⟨?_, ?_, fun poolId => ?_⟩
  · have hpart := outstanding_eq (AddMonoidHom.fst ℤ (ℤ × (String → ℤ))) world.issued
    rw [← hbalance] at hpart
    exact hpart.symm
  · have hpart := outstanding_eq ((AddMonoidHom.fst ℤ (String → ℤ)).comp
      (AddMonoidHom.snd ℤ (ℤ × (String → ℤ)))) world.issued
    rw [← hbalance] at hpart
    exact hpart.symm
  · have hpart := outstanding_eq ((Pi.evalAddMonoidHom (fun _ : String => ℤ) poolId).comp
      ((AddMonoidHom.snd ℤ (String → ℤ)).comp (AddMonoidHom.snd ℤ (ℤ × (String → ℤ)))))
      world.issued
    rw [← hbalance] at hpart
    exact hpart.symm

/-- In every run the counters are exactly what the outstanding reservations are owed. -/
theorem exact_of_run {callbacks : Callbacks}
    {events : List (Event (processMachine callbacks AdmissionCall.program))}
    {final : Config (processMachine callbacks AdmissionCall.program)}
    (hr : run (boot (M := processMachine callbacks AdmissionCall.program) {}) events = some final)
    (hp : Permitted (refusalsReturn callbacks AdmissionCall.program) (boot {}) events)
    (ht : final.world.turn = none) : Exact final.world := by
  obtain ⟨notes, hi⟩ := (bookProtocol callbacks obeys_call).inv_of_run (inv_fresh []) hp hr
  exact hi.exact ht

/-- Any interleaving of calls, whatever their callbacks answer, throw or never answer, as
long as `onRefused` returns from every float refusal: whenever no job is running, the
counters are the sums of the reservations returned and not released, and a stretch of the
run that returned none and released none (every call in it came back empty-handed or
threw) has left all of them as they were. -/
theorem admission_accounting_exact (callbacks : Callbacks)
    (events : List (Event (processMachine callbacks AdmissionCall.program)))
    (final : Config (processMachine callbacks AdmissionCall.program))
    (hr : run (boot (M := processMachine callbacks AdmissionCall.program) {}) events = some final)
    (hp : Permitted (refusalsReturn callbacks AdmissionCall.program) (boot {}) events)
    (ht : final.world.turn = none) :
    Exact final.world ∧
      ∀ first rest mid, events = first ++ rest →
        run (boot (M := processMachine callbacks AdmissionCall.program) {}) first = some mid →
        mid.world.turn = none →
        (∀ part, outstanding mid.world.issued part = outstanding final.world.issued part) →
        mid.world.control.reserved = final.world.control.reserved ∧
          mid.world.control.reservedFloat = final.world.control.reservedFloat ∧
          mid.world.control.inventory = final.world.control.inventory := by
  have hfinal := exact_of_run hr hp ht
  refine ⟨hfinal, ?_⟩
  rintro first rest mid rfl hmid hturn hsame
  obtain ⟨hexposure, hfloat, hpool⟩ := exact_of_run hmid (hp.append hmid).1 hturn
  refine ⟨?_, ?_, funext fun poolId => ?_⟩
  · rw [hexposure, hfinal.1, hsame]
  · rw [hfloat, hfinal.2.1, hsame]
  · have hmine := hpool poolId
    rw [hsame, ← hfinal.2.2 poolId] at hmine
    exact hmine

/-- A quote under all three ceilings. -/
def sampleRequest : AdmissionRequest :=
  { giveSats := 100, capSats := 1000, float := some ⟨60, some 500⟩,
    inventory := some { requiredSats := 40, available := some 300, poolId := "arkade" } }

/-- Two calls interleave, and the first reservation is released twice. -/
def sampleCalls : List (Event (processMachine anyCallbacks AdmissionCall.program)) :=
  .start 0 (.admitRequest sampleRequest) :: .start 1 (.reserve 200 1000) ::
    List.append (List.replicate 11 (.act 0 {})) (List.append (List.replicate 4 (.act 1 {}))
      [.start 2 (.release 0), .act 2 {}, .start 3 (.release 0), .act 3 {}])

/-- What is left is the second reservation. -/
theorem admission_accounting_exact_sample :
    ∃ final, run (boot (M := processMachine anyCallbacks AdmissionCall.program) {}) sampleCalls =
        some final ∧
      final.world.control.reserved = 200 ∧ Exact final.world := by
  obtain ⟨final, hr⟩ : ∃ final, run (boot
      (M := processMachine anyCallbacks AdmissionCall.program) {}) sampleCalls = some final :=
    Option.isSome_iff_exists.mp (by decide +kernel)
  have hend : ((run (boot (M := processMachine anyCallbacks AdmissionCall.program) {})
      sampleCalls).map fun final => (final.world.turn, final.world.control.reserved)) =
      some (none, 200) := by decide +kernel
  have hp : Permitted (refusalsReturn anyCallbacks AdmissionCall.program) (boot {})
      sampleCalls := by decide +kernel
  rw [hr] at hend
  obtain ⟨ht, hreserved⟩ := Prod.mk.inj (Option.some.inj hend)
  exact ⟨final, hr, hreserved, (admission_accounting_exact _ _ final hr hp ht).1⟩

/-- A quote whose wallet has not been read yet. -/
def unreadRequest : AdmissionRequest :=
  { giveSats := 100, capSats := 1000, float := some ⟨60, none⟩ }

/-- The refusal is told to an `onRefused` that throws. -/
def throwingRefusal : List (Event (processMachine anyCallbacks AdmissionCall.program)) :=
  .start 0 (.admitRequest unreadRequest) ::
    List.replicate 9 (.act 0 { refused := .error (.error "listener failed") })

/-- The exposure is undone twice: a counter below zero, and no reservation anywhere. -/
theorem throwing_refusal_undoes_twice :
    ¬∀ (callbacks : Callbacks)
      (events : List (Event (processMachine callbacks AdmissionCall.program)))
      (final : Config (processMachine callbacks AdmissionCall.program)),
      run (boot (M := processMachine callbacks AdmissionCall.program) {}) events = some final →
      final.world.turn = none → Exact final.world := by
  intro h
  obtain ⟨final, hr⟩ : ∃ final, run (boot
      (M := processMachine anyCallbacks AdmissionCall.program) {}) throwingRefusal = some final :=
    Option.isSome_iff_exists.mp (by decide +kernel)
  have hend : ((run (boot (M := processMachine anyCallbacks AdmissionCall.program) {})
      throwingRefusal).map fun final => ((final.world.turn, final.world.control.reserved),
        outstanding final.world.issued fun size => size.exposure)) =
      some ((none, -100), 0) := by decide +kernel
  rw [hr] at hend
  obtain ⟨hcontrol, hnone⟩ := Prod.mk.inj (Option.some.inj hend)
  obtain ⟨ht, hreserved⟩ := Prod.mk.inj hcontrol
  have hexact := (h anyCallbacks throwingRefusal final hr ht).1
  rw [hreserved, hnone] at hexact
  cases hexact

end IntentSolver.AdmissionAccounting
