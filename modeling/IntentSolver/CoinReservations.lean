import IntentSolver.ArkadeLockup
import Mathlib.Algebra.Order.BigOperators.Group.List
import Mathlib.Algebra.Order.Ring.Nat
import Mathlib.Data.List.Count
import Mathlib.Logic.Function.Basic

/-!
# Outpoints claimed by work in flight

The spenders of one float share a ledger of pins, kept in memory. A pin is counted, not just
set: two holders may have the same coin, and each gives back its own. A release remembers
whether it ran, so calling it again does nothing. A coin is pinned exactly while some
reservation that includes it has not been released.
-/

namespace IntentSolver.CoinReservations

open ArkadeLockup

/-- The outpoint key convention. -/
def outpointKey (outpoint : Outpoint) : String := outpoint.txid ++ ":" ++ toString outpoint.vout

/-- Decimal digits are no colons. -/
theorem colon_not_mem_repr (number : ℕ) : ':' ∉ (Nat.repr number).toList := by
  intro hm
  rw [Nat.toList_repr] at hm
  have hdigit := Nat.isDigit_of_mem_toDigits (by decide) (by decide) hm
  revert hdigit
  decide

/-- What stands before and after the last colon of a text. -/
theorem append_colon_injective {first second rest more : List Char} (hr : ':' ∉ rest)
    (hm : ':' ∉ more) (h : first ++ ':' :: rest = second ++ ':' :: more) :
    first = second ∧ rest = more := by
  have hreverse := congrArg List.reverse h
  simp only [List.reverse_append, List.reverse_cons, List.append_assoc,
    List.singleton_append] at hreverse
  obtain ⟨back, hb, hf⟩ | ⟨back, hb, hf⟩ := List.append_eq_append_iff.mp hreverse
  · cases back with
    | nil =>
      simp only [List.append_nil, List.nil_append, List.cons.injEq, true_and] at hb hf
      exact ⟨List.reverse_injective hf, (List.reverse_injective hb).symm⟩
    | cons char back =>
      rw [List.cons_append, List.cons.injEq] at hf
      refine absurd ?_ hm
      rw [← List.mem_reverse, hb, ← hf.1]
      simp
  · cases back with
    | nil =>
      simp only [List.append_nil, List.nil_append, List.cons.injEq, true_and] at hb hf
      exact ⟨(List.reverse_injective hf).symm, List.reverse_injective hb⟩
    | cons char back =>
      rw [List.cons_append, List.cons.injEq] at hf
      refine absurd ?_ hr
      rw [← List.mem_reverse, hb, ← hf.1]
      simp

/-- One key stands for one outpoint. -/
theorem outpointKey_injective : Function.Injective outpointKey := by
  intro first second h
  have hlist := congrArg String.toList h
  unfold outpointKey at hlist
  simp only [String.toList_append, Nat.toString_eq_repr, List.append_assoc] at hlist
  have hcolon : ":".toList = [':'] := by decide
  rw [hcolon, List.singleton_append] at hlist
  obtain ⟨htxid, hvout⟩ :=
    append_colon_injective (colon_not_mem_repr _) (colon_not_mem_repr _) hlist
  rw [Nat.toList_repr, Nat.toList_repr] at hvout
  have hnumber := congrArg (Nat.ofDigitChars 10 · 0) hvout
  simp only [Nat.ofDigitChars_ten_toDigits] at hnumber
  obtain ⟨txid, vout⟩ := first
  obtain ⟨other, number⟩ := second
  exact congrArg₂ Outpoint.mk (String.toList_injective htxid) hnumber

/-- What one release closes over. -/
structure Reservation where
  keys : List String
  released : Bool

/-- The counts by key, and every reservation made. -/
structure ReservationLedger where
  /-- None for a key the map does not have. -/
  counts : String → Option ℕ
  reservations : List Reservation

/-- Nothing is pinned. -/
def createReservationLedger : ReservationLedger := ⟨fun _ => none, []⟩

/-- One more pin on a key. -/
def pinKey (counts : String → Option ℕ) (key : String) : String → Option ℕ :=
  Function.update counts key (some ((counts key).getD 0 + 1))

/-- One pin less on a key, which goes when it was the last. -/
def unpinKey (counts : String → Option ℕ) (key : String) : String → Option ℕ :=
  let next : ℤ := ((counts key).getD 1 : ℤ) - 1
  if next ≤ 0 then Function.update counts key none
  else Function.update counts key (some next.toNat)

namespace ReservationLedger

/-- Whether a key is pinned: `reserved().has(key)`. -/
def reserved (ledger : ReservationLedger) (key : String) : Bool := (ledger.counts key).isSome

/-- Pin outpoints; the reservation is told by its place. -/
def reserve (ledger : ReservationLedger) (outpoints : List Outpoint) : ReservationLedger :=
  let keys := outpoints.map outpointKey
  ⟨keys.foldl pinKey ledger.counts, ledger.reservations ++ [⟨keys, false⟩]⟩

/-- Give a reservation back, unless it was given back before. -/
def release (ledger : ReservationLedger) (handle : ℕ) : ReservationLedger :=
  match ledger.reservations[handle]? with
  | none => ledger
  | some reservation =>
    if reservation.released then ledger
    else ⟨reservation.keys.foldl unpinKey ledger.counts,
      ledger.reservations.set handle { reservation with released := true }⟩

end ReservationLedger

/-! ## The counts -/

/-- How many pins are on a key. -/
def pins (counts : String → Option ℕ) (key : String) : ℕ := (counts key).getD 0

/-- No key is kept with no pin on it. -/
def Tidy (counts : String → Option ℕ) : Prop := ∀ key, counts key ≠ some 0

/-- A key is present in tidy counts exactly when something pins it. -/
theorem isSome_iff_pins {counts : String → Option ℕ} (h : Tidy counts) (key : String) :
    (counts key).isSome = true ↔ 0 < pins counts key := by
  unfold pins
  have hk := h key
  cases hc : counts key with
  | none => simp
  | some number =>
    rw [hc] at hk
    have hne : number ≠ 0 := fun hz => hk (by rw [hz])
    simp only [Option.isSome_some, Option.getD_some, true_iff]
    omega

/-- Pinning a key leaves the counts tidy. -/
theorem tidy_pinKey {counts : String → Option ℕ} (h : Tidy counts) (key : String) :
    Tidy (pinKey counts key) := by
  intro other
  unfold pinKey
  by_cases ho : other = key
  · rw [ho, Function.update_self]
    intro hz
    have hsucc := Option.some.inj hz
    omega
  · rw [Function.update_of_ne ho]
    exact h other

/-- Pinning a key adds one to that key's count. -/
theorem pins_pinKey (counts : String → Option ℕ) (key other : String) :
    pins (pinKey counts key) other = pins counts other + [key].count other := by
  unfold pins pinKey
  by_cases ho : other = key
  · rw [ho, Function.update_self, List.count_singleton_self]
    rfl
  · rw [Function.update_of_ne ho, List.count_singleton, if_neg (by simpa using Ne.symm ho)]
    rfl

/-- Unpinning a key leaves the counts tidy. -/
theorem tidy_unpinKey {counts : String → Option ℕ} (h : Tidy counts) (key : String) :
    Tidy (unpinKey counts key) := by
  intro other
  unfold unpinKey
  by_cases ho : other = key
  · rw [ho]
    split
    · rw [Function.update_self]
      exact fun h => nomatch h
    next hpos =>
      rw [Function.update_self]
      intro hz
      have hzero := Option.some.inj hz
      omega
  · split
    · rw [Function.update_of_ne ho]
      exact h other
    · rw [Function.update_of_ne ho]
      exact h other

/-- Unpinning a key takes one from that key's count. -/
theorem pins_unpinKey (counts : String → Option ℕ) (key other : String) :
    pins (unpinKey counts key) other = pins counts other - [key].count other := by
  unfold pins unpinKey
  by_cases ho : other = key
  · rw [ho, List.count_singleton_self]
    cases hc : counts key with
    | none =>
      simp only [Option.getD_none]
      rw [if_pos (by decide), Function.update_self]
      rfl
    | some number =>
      simp only [Option.getD_some]
      split
      next hle =>
        rw [Function.update_self, Option.getD_none]
        omega
      next hgt =>
        rw [Function.update_self, Option.getD_some]
        omega
  · have hcount : [key].count other = 0 := by
      rw [List.count_singleton, if_neg (by simpa using Ne.symm ho)]
    rw [hcount, Nat.sub_zero]
    split
    · rw [Function.update_of_ne ho]
    · rw [Function.update_of_ne ho]

/-- Pinning a list of keys leaves the counts tidy. -/
theorem tidy_foldl_pinKey (keys : List String) {counts : String → Option ℕ} (h : Tidy counts) :
    Tidy (keys.foldl pinKey counts) := by
  induction keys generalizing counts with
  | nil => exact h
  | cons key rest ih => exact ih (tidy_pinKey h key)

/-- Unpinning a list of keys leaves the counts tidy. -/
theorem tidy_foldl_unpinKey (keys : List String) {counts : String → Option ℕ} (h : Tidy counts) :
    Tidy (keys.foldl unpinKey counts) := by
  induction keys generalizing counts with
  | nil => exact h
  | cons key rest ih => exact ih (tidy_unpinKey h key)

/-- The count of a key over a list splits at its head. -/
theorem count_cons_eq (key other : String) (rest : List String) :
    (key :: rest).count other = [key].count other + rest.count other := by
  have happend : key :: rest = [key] ++ rest := rfl
  rw [happend, List.count_append]

/-- A reservation adds a pin for each time it has the key. -/
theorem pins_foldl_pinKey (keys : List String) (counts : String → Option ℕ) (other : String) :
    pins (keys.foldl pinKey counts) other = pins counts other + keys.count other := by
  induction keys generalizing counts with
  | nil => rfl
  | cons key rest ih =>
    have hcount := count_cons_eq key other rest
    rw [List.foldl_cons, ih, pins_pinKey]
    omega

/-- A release takes as many back. -/
theorem pins_foldl_unpinKey (keys : List String) (counts : String → Option ℕ) (other : String) :
    pins (keys.foldl unpinKey counts) other = pins counts other - keys.count other := by
  induction keys generalizing counts with
  | nil => rfl
  | cons key rest ih =>
    have hcount := count_cons_eq key other rest
    rw [List.foldl_cons, ih, pins_unpinKey]
    omega

/-! ## What the ledger holds -/

/-- The pins one reservation still has on a key. -/
def Reservation.holds (key : String) (reservation : Reservation) : ℕ :=
  if reservation.released then 0 else reservation.keys.count key

/-- The pins all reservations still have on a key. -/
def held (ledger : ReservationLedger) (key : String) : ℕ :=
  (ledger.reservations.map (Reservation.holds key)).sum

/-- The counts are exactly what the reservations still hold. -/
structure Balanced (ledger : ReservationLedger) : Prop where
  tidy : Tidy ledger.counts
  counted : ∀ key, pins ledger.counts key = held ledger key

/-- A new ledger is balanced. -/
theorem balanced_create : Balanced createReservationLedger := by
  constructor
  · intro key h
    cases h
  · intro key
    rfl

/-- Reserving keeps the ledger balanced. -/
theorem Balanced.reserve {ledger : ReservationLedger} (h : Balanced ledger)
    (outpoints : List Outpoint) : Balanced (ledger.reserve outpoints) := by
  constructor
  · exact tidy_foldl_pinKey _ h.tidy
  · intro key
    unfold ReservationLedger.reserve held
    rw [pins_foldl_pinKey, h.counted, List.map_append, List.sum_append]
    rfl

/-- Releasing one of a list of reservations takes its own pins off their sum. -/
theorem sum_holds_set {reservations : List Reservation} {handle : ℕ} {reservation : Reservation}
    (hg : reservations[handle]? = some reservation) (key : String) :
    ((reservations.set handle { reservation with released := true }).map
      (Reservation.holds key)).sum + reservation.holds key =
      (reservations.map (Reservation.holds key)).sum := by
  induction reservations generalizing handle with
  | nil => simp at hg
  | cons head rest ih =>
    cases handle with
    | zero =>
      obtain rfl : head = reservation := by simpa using hg
      rw [List.set_cons_zero, List.map_cons, List.map_cons, List.sum_cons, List.sum_cons]
      have hzero : Reservation.holds key { head with released := true } = 0 := rfl
      omega
    | succ handle =>
      have hrest := ih (by simpa using hg)
      rw [List.set_cons_succ, List.map_cons, List.map_cons, List.sum_cons, List.sum_cons]
      omega

/-- Releasing keeps the ledger balanced. -/
theorem Balanced.release {ledger : ReservationLedger} (h : Balanced ledger) (handle : ℕ) :
    Balanced (ledger.release handle) := by
  unfold ReservationLedger.release
  cases hg : ledger.reservations[handle]? with
  | none => exact h
  | some reservation =>
    dsimp only
    split
    · exact h
    next hfree =>
      constructor
      · exact tidy_foldl_unpinKey _ h.tidy
      · intro key
        have hsum := sum_holds_set hg key
        have hown : reservation.holds key = reservation.keys.count key := if_neg hfree
        rw [pins_foldl_unpinKey, h.counted]
        unfold held
        dsimp only
        omega

/-- A key is pinned exactly while some reservation that has it is not released. -/
theorem Balanced.reserved_iff {ledger : ReservationLedger} (h : Balanced ledger) (key : String) :
    ledger.reserved key = true ↔
      ∃ reservation ∈ ledger.reservations, reservation.released = false ∧
        key ∈ reservation.keys := by
  unfold ReservationLedger.reserved
  rw [isSome_iff_pins h.tidy, h.counted]
  unfold held
  constructor
  · intro hpos
    obtain ⟨number, hm, hn⟩ : ∃ number ∈ ledger.reservations.map (Reservation.holds key),
        0 < number := by
      by_contra hnone
      push Not at hnone
      have hzero : (ledger.reservations.map (Reservation.holds key)).sum = 0 :=
        List.sum_eq_zero fun number hm => Nat.le_zero.mp (hnone number hm)
      omega
    obtain ⟨reservation, hr, rfl⟩ := List.mem_map.mp hm
    unfold Reservation.holds at hn
    split at hn
    · omega
    next hfree =>
      exact ⟨reservation, hr, Bool.eq_false_iff.mpr hfree, List.count_pos_iff.mp hn⟩
  · intro hex
    obtain ⟨reservation, hr, hfree, hk⟩ := hex
    have hown : reservation.holds key = reservation.keys.count key :=
      if_neg (Bool.eq_false_iff.mp hfree)
    have hone := List.count_pos_iff.mpr hk
    have hle : reservation.holds key ≤ (ledger.reservations.map (Reservation.holds key)).sum :=
      List.single_le_sum (fun _ _ => Nat.zero_le _) _ (List.mem_map_of_mem hr)
    omega

/-- A second release of one reservation changes nothing. -/
theorem release_release (ledger : ReservationLedger) (handle : ℕ) :
    (ledger.release handle).release handle = ledger.release handle := by
  unfold ReservationLedger.release
  cases hg : ledger.reservations[handle]? with
  | none => simp [hg]
  | some reservation =>
    dsimp only
    by_cases hfree : reservation.released = true
    · rw [if_pos hfree]
      simp [hg, hfree]
    · rw [if_neg hfree]
      obtain ⟨hlt, -⟩ := List.getElem?_eq_some_iff.mp hg
      simp [List.getElem?_set_self hlt]

/-! ## Any holders in any order -/

/-- What a holder may do. -/
inductive LedgerCall where
  | reserve (outpoints : List Outpoint)
  | release (handle : ℕ)

/-- One call of a holder. -/
def LedgerCall.apply (ledger : ReservationLedger) : LedgerCall → ReservationLedger
  | reserve outpoints => ledger.reserve outpoints
  | release handle => ledger.release handle

/-- Whatever the holders do, and in whatever order, the ledger stays balanced. -/
theorem balanced_calls (calls : List LedgerCall) {ledger : ReservationLedger}
    (h : Balanced ledger) : Balanced (calls.foldl LedgerCall.apply ledger) := by
  induction calls generalizing ledger with
  | nil => exact h
  | cons call rest ih =>
    cases call with
    | reserve outpoints => exact ih (h.reserve outpoints)
    | release handle => exact ih (h.release handle)

end IntentSolver.CoinReservations
