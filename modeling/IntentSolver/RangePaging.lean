import Mathlib.Data.Int.Notation
import Mathlib.Order.Lattice

/-!
# Paging through a range

A closed range of whole numbers is read a page at a time: each page starts where the one
before it ended, is at most a span long, and the last is clipped at the end of the range.
A reader that stops early has read the first pages only.
-/

namespace IntentSolver.RangePaging

/-- A closed range of numbers. -/
structure Page where
  first : ℤ
  last : ℤ
  deriving DecidableEq

/-- The number lies on the page. -/
def Page.Holds (page : Page) (number : ℤ) : Prop := page.first ≤ number ∧ number ≤ page.last

/-- These are the first pages of the range from `start` to `tip`, in order. -/
def FirstPages (span tip : ℤ) : ℤ → List Page → Prop
  | _, [] => True
  | start, page :: rest =>
    start ≤ tip ∧ page = ⟨start, min (start + span - 1) tip⟩ ∧
      FirstPages span tip (start + span) rest

/-- These are all of its pages: nothing is left after the last. -/
def AllPages (span tip : ℤ) : ℤ → List Page → Prop
  | start, [] => tip < start
  | start, page :: rest =>
    start ≤ tip ∧ page = ⟨start, min (start + span - 1) tip⟩ ∧
      AllPages span tip (start + span) rest

variable {span tip start : ℤ} {pages : List Page}

/-- All pages are in particular the first ones. -/
theorem AllPages.first (h : AllPages span tip start pages) : FirstPages span tip start pages := by
  induction pages generalizing start with
  | nil => trivial
  | cons page rest ih => exact ⟨h.1, h.2.1, ih h.2.2⟩

end IntentSolver.RangePaging
