import Mathlib.Algebra.BigOperators.Group.List.Basic
import Mathlib.Algebra.Order.BigOperators.Group.List
import Mathlib.Algebra.Ring.Int.Defs
import Mathlib.Algebra.Order.Ring.Int

/-!
# A budget over a rolling window

Charges are made in the order of time, and some of them are limited: a limited one is made only
when it fits, together with everything charged in the window that ends with it, into the budget
in force. Nothing is checked afterwards, and no budget looks ahead. Still the limited charges
of every window fit: the last of them saw all the others.
-/

namespace IntentSolver.RollingBudget

/-- One charge. -/
structure Charge where
  amount : ℤ
  time : ℤ
  /-- The budget it had to fit, if it is a limited one. -/
  limit : Option ℤ

/-- The charge falls in the window of this width that ends then. -/
def Charge.InWindow (charge : Charge) (width until_ : ℤ) : Prop :=
  until_ - width < charge.time ∧ charge.time ≤ until_

instance (charge : Charge) (width until_ : ℤ) : Decidable (charge.InWindow width until_) :=
  inferInstanceAs (Decidable (_ ∧ _))

/-- Everything charged in a window. -/
def charged (width until_ : ℤ) (charges : List Charge) : ℤ :=
  ((charges.filter fun charge => decide (charge.InWindow width until_)).map Charge.amount).sum

/-- What of it was limited. -/
def limited (width until_ : ℤ) (charges : List Charge) : ℤ :=
  charged width until_ (charges.filter fun charge => charge.limit.isSome)

/-- Every charge came after those before it, latest first, and each limited one fitted. -/
inductive Kept (width : ℤ) : List Charge → Prop where
  | nil : Kept width []
  | cons {charge charges} (hamount : 0 ≤ charge.amount)
      (hlater : ∀ earlier ∈ charges, earlier.time ≤ charge.time)
      (hfits : ∀ limit, charge.limit = some limit →
        charge.amount + charged width charge.time charges ≤ limit)
      (hkept : Kept width charges) : Kept width (charge :: charges)

/-- The charge in front counts when it falls in the window. -/
theorem charged_cons (width until_ : ℤ) (charge : Charge) (charges : List Charge) :
    charged width until_ (charge :: charges) =
      (if charge.InWindow width until_ then charge.amount else 0) +
        charged width until_ charges := by
  unfold charged
  by_cases hw : charge.InWindow width until_
  · simp only [List.filter_cons, hw, decide_true, if_true, List.map_cons, List.sum_cons]
  · simp only [List.filter_cons, hw, decide_false, Bool.false_eq_true, if_false, zero_add]

/-- No charge of a kept list is negative. -/
theorem Kept.nonneg {width : ℤ} {charges : List Charge} (h : Kept width charges) :
    ∀ charge ∈ charges, 0 ≤ charge.amount := by
  induction h with
  | nil => exact fun _ hm => nomatch hm
  | cons hamount hlater hfits hkept ih =>
    intro charge hm
    obtain rfl | hm := List.mem_cons.mp hm
    · exact hamount
    · exact ih charge hm

/-- A window that ends later, and after everything, holds no more. -/
theorem charged_antitone {width earlier later : ℤ} {charges : List Charge}
    (hwindow : earlier ≤ later) (hnonneg : ∀ charge ∈ charges, 0 ≤ charge.amount)
    (htime : ∀ charge ∈ charges, charge.time ≤ earlier) :
    charged width later charges ≤ charged width earlier charges := by
  induction charges with
  | nil => exact le_refl _
  | cons charge charges ih =>
    have hrest := ih (fun other hm => hnonneg other (List.mem_cons_of_mem _ hm))
      fun other hm => htime other (List.mem_cons_of_mem _ hm)
    have hamount := hnonneg charge List.mem_cons_self
    have hcharge := htime charge List.mem_cons_self
    rw [charged_cons, charged_cons]
    by_cases hw : charge.InWindow width later
    · have hw' : charge.InWindow width earlier := ⟨by have := hw.1; omega, hcharge⟩
      rw [if_pos hw, if_pos hw']
      omega
    · rw [if_neg hw]
      split_ifs <;> omega

/-- What is limited is part of what is charged. -/
theorem limited_le_charged {width until_ : ℤ} {charges : List Charge}
    (hnonneg : ∀ charge ∈ charges, 0 ≤ charge.amount) :
    limited width until_ charges ≤ charged width until_ charges := by
  unfold limited
  induction charges with
  | nil => exact le_refl _
  | cons charge charges ih =>
    have hrest := ih fun other hm => hnonneg other (List.mem_cons_of_mem _ hm)
    have hamount := hnonneg charge List.mem_cons_self
    rw [charged_cons]
    by_cases hl : charge.limit.isSome = true
    · rw [List.filter_cons, if_pos hl, charged_cons]
      omega
    · rw [List.filter_cons, if_neg hl]
      split_ifs <;> omega

/-- In every window the limited charges fit the largest budget any of them had to fit. -/
theorem Kept.limited_le {width until_ budget : ℤ} {charges : List Charge}
    (h : Kept width charges) (hbudget : 0 ≤ budget)
    (hlimits : ∀ charge ∈ charges, ∀ limit, charge.limit = some limit → limit ≤ budget) :
    limited width until_ charges ≤ budget := by
  induction h with
  | nil => exact hbudget
  | @cons charge charges hamount hlater hfits hkept ih =>
    have hrest := ih fun other hm => hlimits other (List.mem_cons_of_mem _ hm)
    unfold limited at hrest ⊢
    by_cases hl : charge.limit.isSome = true
    · rw [List.filter_cons, if_pos hl, charged_cons]
      by_cases hw : charge.InWindow width until_
      · -- The latest limited charge of the window saw all the others.
        obtain ⟨limit, hlimit⟩ := Option.isSome_iff_exists.mp hl
        have hpart : limited width until_ charges ≤ charged width until_ charges :=
          limited_le_charged hkept.nonneg
        have hseen : charged width until_ charges ≤ charged width charge.time charges :=
          charged_antitone hw.2 hkept.nonneg hlater
        have hfit := hfits limit hlimit
        have hmost := hlimits charge List.mem_cons_self limit hlimit
        unfold limited at hpart
        rw [if_pos hw]
        omega
      · rw [if_neg hw]
        omega
    · rw [List.filter_cons, if_neg hl]
      exact hrest

end IntentSolver.RollingBudget
