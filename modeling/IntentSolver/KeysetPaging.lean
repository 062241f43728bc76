import Mathlib.Data.List.Chain
import Mathlib.Data.List.Sort
import Mathlib.Order.Basic

/-!
# Walking a changing table by key

A page is the first rows past a key, in the order of their keys, and the key of its last row
is where the next page goes on. Rows come and go and change between two reads. The walk
returns keys in rising order, so none twice, and cannot step over a row that stays.
-/

namespace IntentSolver.KeysetPaging

variable {Row K : Type} [LinearOrder K] (key : Row → K) (fits : Row → Bool)

/-- The rows past a key, in order, one more than a page holds. -/
def fetch (limit : ℕ) (table : List Row) (after : Option K) : List Row :=
  ((table.filter fun row => fits row && after.all fun bound => decide (bound < key row)).mergeSort
    fun first second => decide (key first ≤ key second)).take (limit + 1)

/-- The page, and the key to go on from when there is more. -/
def cut (limit : ℕ) (rows : List Row) : List Row × Option K :=
  (rows.take limit, if limit < rows.length then (rows.take limit).getLast?.map key else none)

/-- One read. -/
def readPage (limit : ℕ) (table : List Row) (after : Option K) : List Row × Option K :=
  cut key limit (fetch key fits limit table after)

section Page

variable {key fits} {limit : ℕ} {table : List Row} {after : Option K}

/-- Rows past the key, in order. -/
def ordered (key : Row → K) (fits : Row → Bool) (table : List Row) (after : Option K) : List Row :=
  (table.filter fun row => fits row && after.all fun bound => decide (bound < key row)).mergeSort
    fun first second => decide (key first ≤ key second)

/-- A row is listed when it is stored, fits and comes after the bound. -/
theorem mem_ordered {row : Row} : row ∈ ordered key fits table after ↔
    row ∈ table ∧ fits row = true ∧ ∀ bound ∈ after, bound < key row := by
  unfold ordered
  rw [List.mem_mergeSort, List.mem_filter, Bool.and_eq_true]
  cases after with
  | none => simp
  | some bound => simp

/-- The keys of the rows rise. -/
theorem pairwise_ordered (hd : (table.map key).Nodup) :
    (ordered key fits table after).Pairwise fun first second => key first < key second := by
  have hle : (ordered key fits table after).Pairwise
      fun first second => key first ≤ key second := by
    have hsorted := @List.pairwise_mergeSort Row
      (fun first second => decide (key first ≤ key second))
      (fun a b c hab hbc => by
        simp only [decide_eq_true_eq] at hab hbc ⊢
        exact le_trans hab hbc)
      (fun a b => by
        simp only [Bool.or_eq_true, decide_eq_true_eq]
        exact le_total _ _)
      (table.filter fun row => fits row && after.all fun bound => decide (bound < key row))
    exact hsorted.imp fun h => by simpa using h
  have hne : (ordered key fits table after).Pairwise
      fun first second => key first ≠ key second := by
    have hperm := List.mergeSort_perm
      (table.filter fun row => fits row && after.all fun bound => decide (bound < key row))
      fun first second => decide (key first ≤ key second)
    have hnodup : ((ordered key fits table after).map key).Nodup :=
      (hperm.map key).nodup_iff.mpr (hd.sublist (List.filter_sublist.map key))
    exact List.pairwise_map.mp hnodup
  exact hle.imp₂ (fun _ _ h hn => lt_of_le_of_ne h hn) hne

/-- A page is the beginning of the rows past the key. -/
theorem readPage_fst : (readPage key fits limit table after).1 =
    (ordered key fits table after).take limit := by
  change ((ordered key fits table after).take (limit + 1)).take limit = _
  rw [List.take_take, min_eq_left (Nat.le_succ limit)]

/-- A row of a page. -/
theorem mem_readPage {row : Row} (h : row ∈ (readPage key fits limit table after).1) :
    row ∈ table ∧ fits row = true ∧ ∀ bound ∈ after, bound < key row := by
  rw [readPage_fst] at h
  exact mem_ordered.mp (List.mem_of_mem_take h)

/-- With no key to go on from, every row past the last key is in the page. -/
theorem readPage_last (hl : 0 < limit) (h : (readPage key fits limit table after).2 = none) :
    (readPage key fits limit table after).1 = ordered key fits table after := by
  rw [readPage_fst]
  change (if limit < ((ordered key fits table after).take (limit + 1)).length then
    (((ordered key fits table after).take (limit + 1)).take limit).getLast?.map key else none) =
      none at h
  refine List.take_of_length_le ?_
  by_contra hlong
  push Not at hlong
  rw [if_pos (by rw [List.length_take]; omega), Option.map_eq_none_iff, List.getLast?_eq_none_iff,
    List.take_take, List.take_eq_nil_iff] at h
  obtain hz | hn := h
  · omega
  · rw [hn] at hlong
    exact absurd hlong (by simp)

/-- With a key to go on from, the page is full, its keys do not pass that key, and it has
every row up to it. -/
theorem readPage_more (hd : (table.map key).Nodup) {bound : K}
    (h : (readPage key fits limit table after).2 = some bound) :
    (readPage key fits limit table after).1.length = limit ∧
    (∃ row ∈ (readPage key fits limit table after).1, key row = bound) ∧
    (∀ row ∈ (readPage key fits limit table after).1, key row ≤ bound) ∧
    ∀ row ∈ ordered key fits table after, key row ≤ bound →
      row ∈ (readPage key fits limit table after).1 := by
  have hrise := @pairwise_ordered Row K _ key fits table after hd
  rw [readPage_fst]
  change (if limit < ((ordered key fits table after).take (limit + 1)).length then
    (((ordered key fits table after).take (limit + 1)).take limit).getLast?.map key else none) =
      some bound at h
  generalize ordered key fits table after = rows at h hrise
  split at h
  · rename_i hlong
    rw [List.length_take] at hlong
    rw [List.take_take, min_eq_left (Nat.le_succ limit)] at h
    obtain ⟨last, hlast, hb⟩ := Option.map_eq_some_iff.mp h
    obtain ⟨init, hinit⟩ := List.getLast?_eq_some_iff.mp hlast
    have hsplit : rows = (init ++ [last]) ++ rows.drop limit := by
      rw [← hinit, List.take_append_drop]
    rw [hsplit] at hrise
    obtain ⟨hpage, -, hrest⟩ := List.pairwise_append.mp hrise
    refine ⟨by rw [List.length_take]; omega, ⟨last, ?_, hb⟩, fun row hm => ?_, fun row hm hle => ?_⟩
    · rw [hinit]
      exact List.mem_append_right _ (List.mem_singleton_self _)
    · rw [hinit] at hm
      obtain hm | hm := List.mem_append.mp hm
      · have hlt := (List.pairwise_append.mp hpage).2.2 row hm last (List.mem_singleton_self _)
        exact hb ▸ le_of_lt hlt
      · rw [List.mem_singleton.mp hm, hb]
    · rw [hsplit] at hm
      rw [hinit]
      obtain hm | hm := List.mem_append.mp hm
      · exact hm
      · have hlt := hrest last (List.mem_append_right _ (List.mem_singleton_self _)) row hm
        rw [hb] at hlt
        exact absurd hle (not_le.mpr hlt)
  · cases h

/-- A page's keys rise. -/
theorem pairwise_readPage (hd : (table.map key).Nodup) :
    (readPage key fits limit table after).1.Pairwise
      fun first second => key first < key second := by
  rw [readPage_fst]
  exact (pairwise_ordered hd).sublist (List.take_sublist _ _)

end Page

/-! ## Walks -/

/-- Read after read, each going on from where the last one ended, over the tables as they are
at each read. What remains at the end is the cursor to go on from, if there is more. -/
inductive Walk {Table C Row E : Type} (read : Table → Option C → Except E (List Row × Option C)) :
    Option C → List Table → List (List Row) → Option C → Prop where
  | last {cursor : Option C} {table : Table} {rows : List Row} {next : Option C}
    (h : read table cursor = .ok (rows, next)) : Walk read cursor [table] [rows] next
  | more {cursor : Option C} {table : Table} {rows : List Row} {next : C} {tables : List Table}
    {pages : List (List Row)} {final : Option C} (h : read table cursor = .ok (rows, some next))
    (rest : Walk read (some next) tables pages final) :
    Walk read cursor (table :: tables) (rows :: pages) final

/-- A walk over what the tables hold. -/
theorem Walk.map {Table Held C Row E : Type} {rows : Table → Held}
    {read : Held → Option C → Except E (List Row × Option C)} {cursor final : Option C}
    {tables : List Table} {pages : List (List Row)}
    (h : Walk (fun table => read (rows table)) cursor tables pages final) :
    Walk read cursor (tables.map rows) pages final := by
  induction h with
  | last hr => exact .last hr
  | more hr _ ih => exact .more hr ih

/-- A walk over what the tables hold is one over the tables. -/
theorem Walk.of_map {Table Held C Row E : Type} {rows : Table → Held}
    {read : Held → Option C → Except E (List Row × Option C)} {cursor final : Option C}
    {tables : List Table} {pages : List (List Row)}
    (h : Walk read cursor (tables.map rows) pages final) :
    Walk (fun table => read (rows table)) cursor tables pages final := by
  induction tables generalizing cursor pages with
  | nil => cases h
  | cons table rest ih =>
    rw [List.map_cons] at h
    generalize hr : rest.map rows = held at h ih
    cases h with
    | last hread =>
      cases List.map_eq_nil_iff.mp hr
      exact .last hread
    | more hread hrest => exact .more hread (ih hrest)

section Walks

variable {key fits} {limit : ℕ} {E : Type} {after : Option K} {tables : List (List Row)}
  {pages : List (List Row)} {final : Option K}

/-- Reads of pages that cannot fail. -/
abbrev Pages (key : Row → K) (fits : Row → Bool) (limit : ℕ) (E : Type) (table : List Row)
    (after : Option K) : Except E (List Row × Option K) :=
  .ok (readPage key fits limit table after)

/-- What a read answers. -/
theorem pages_ok {table rows : List Row} {next : Option K}
    (h : Pages key fits limit E table after = .ok (rows, next)) :
    rows = (readPage key fits limit table after).1 ∧
      next = (readPage key fits limit table after).2 := by
  obtain ⟨hr, hn⟩ := Prod.mk.inj (Except.ok.inj h)
  exact ⟨hr.symm, hn.symm⟩

/-- The keys of all rows a walk returns rise, from past where it began. -/
theorem Walk.rises (h : Walk (Pages key fits limit E) after tables pages final)
    (hd : ∀ table ∈ tables, (table.map key).Nodup) :
    pages.flatten.Pairwise (fun first second => key first < key second) ∧
      ∀ row ∈ pages.flatten, ∀ bound ∈ after, bound < key row := by
  induction h with
  | @last cursor table rows next hr =>
    obtain ⟨rfl, rfl⟩ := pages_ok hr
    rw [List.flatten_cons, List.flatten_nil, List.append_nil]
    exact ⟨pairwise_readPage (hd table (List.mem_singleton_self _)),
      fun row hm => (mem_readPage hm).2.2⟩
  | @more cursor table rows next tables pages final hr rest ih =>
    obtain ⟨rfl, hnext⟩ := pages_ok hr
    have hdt := hd table (List.mem_cons_self ..)
    obtain ⟨hrise, hpast⟩ := ih fun other hm => hd other (List.mem_cons_of_mem _ hm)
    obtain ⟨-, ⟨top, htop, hkey⟩, hle, -⟩ := readPage_more hdt hnext.symm
    rw [List.flatten_cons, List.pairwise_append]
    refine ⟨⟨pairwise_readPage hdt, hrise, fun row hm other ho => ?_⟩, fun row hm bound hb => ?_⟩
    · exact lt_of_le_of_lt (hle row hm) (hpast other ho next rfl)
    · obtain hm | hm := List.mem_append.mp hm
      · exact (mem_readPage hm).2.2 bound hb
      · have hlow := (mem_readPage htop).2.2 bound hb
        rw [hkey] at hlow
        exact hlow.trans (hpast row hm next rfl)

/-- A row that is there and fits at every read is returned by a walk to the end. -/
theorem Walk.covers (h : Walk (Pages key fits limit E) after tables pages final)
    (hf : final = none) (hl : 0 < limit) (hd : ∀ table ∈ tables, (table.map key).Nodup) {place : K}
    (hp : ∀ bound ∈ after, bound < place)
    (hs : ∀ table ∈ tables, ∃ row ∈ table, fits row = true ∧ key row = place) :
    ∃ row ∈ pages.flatten, key row = place := by
  induction h with
  | @last cursor table rows next hr =>
    obtain ⟨rfl, rfl⟩ := pages_ok hr
    obtain ⟨row, hm, hfit, rfl⟩ := hs table (List.mem_singleton_self _)
    refine ⟨row, ?_, rfl⟩
    rw [List.flatten_cons, List.flatten_nil, List.append_nil, readPage_last hl hf]
    exact mem_ordered.mpr ⟨hm, hfit, hp⟩
  | @more cursor table rows next tables pages final hr rest ih =>
    obtain ⟨rfl, hnext⟩ := pages_ok hr
    have hdt := hd table (List.mem_cons_self ..)
    obtain ⟨row, hm, hfit, hkey⟩ := hs table (List.mem_cons_self ..)
    obtain hle | hgt := le_or_gt place next
    · obtain ⟨-, -, -, hall⟩ := readPage_more hdt hnext.symm
      refine ⟨row, List.mem_append_left _ ?_, hkey⟩
      refine hall row (mem_ordered.mpr ⟨hm, hfit, ?_⟩) (hkey ▸ hle)
      rw [hkey]
      exact hp
    · have hpast : ∀ bound ∈ some next, bound < place := by
        intro bound hb
        cases hb
        exact hgt
      obtain ⟨found, hfound, hk⟩ := ih hf (fun other hm => hd other (List.mem_cons_of_mem _ hm))
        hpast fun other hm => hs other (List.mem_cons_of_mem _ hm)
      exact ⟨found, List.mem_append_right _ hfound, hk⟩

/-- Every row that is returned was there and fitted at one of the reads. -/
theorem Walk.sound (h : Walk (Pages key fits limit E) after tables pages final) :
    ∀ row ∈ pages.flatten, ∃ table ∈ tables, row ∈ table ∧ fits row = true := by
  induction h with
  | @last cursor table rows next hr =>
    obtain ⟨rfl, rfl⟩ := pages_ok hr
    intro row hm
    rw [List.flatten_cons, List.flatten_nil, List.append_nil] at hm
    obtain ⟨ht, hfit, -⟩ := mem_readPage hm
    exact ⟨table, List.mem_singleton_self _, ht, hfit⟩
  | @more cursor table rows next tables pages final hr rest ih =>
    obtain ⟨rfl, -⟩ := pages_ok hr
    intro row hm
    obtain hm | hm := List.mem_append.mp hm
    · obtain ⟨ht, hfit, -⟩ := mem_readPage hm
      exact ⟨table, List.mem_cons_self .., ht, hfit⟩
    · obtain ⟨other, ho, hrow⟩ := ih row hm
      exact ⟨other, List.mem_cons_of_mem _ ho, hrow⟩

/-- As long as there is more, every page is full. -/
theorem Walk.full (h : Walk (Pages key fits limit E) after tables pages final)
    (hf : final.isSome = true) (hd : ∀ table ∈ tables, (table.map key).Nodup) :
    pages.flatten.length = tables.length * limit := by
  induction h with
  | @last cursor table rows next hr =>
    obtain ⟨rfl, rfl⟩ := pages_ok hr
    obtain ⟨bound, hb⟩ := Option.isSome_iff_exists.mp hf
    have hlen := (readPage_more (hd table (List.mem_singleton_self _)) hb).1
    simp [hlen]
  | @more cursor table rows next tables pages final hr rest ih =>
    obtain ⟨rfl, hnext⟩ := pages_ok hr
    have hlen := (readPage_more (hd table (List.mem_cons_self ..)) hnext.symm).1
    have hrest := ih hf fun other hm => hd other (List.mem_cons_of_mem _ hm)
    rw [List.flatten_cons, List.length_append, hrest, hlen, List.length_cons,
      Nat.succ_mul, Nat.add_comm]

/-- A walk goes on until there is no more, or as far as there are tables. -/
theorem exists_walk (key : Row → K) (fits : Row → Bool) (limit : ℕ) (E : Type) (after : Option K)
    {tables : List (List Row)} (hn : tables ≠ []) :
    ∃ reads pages final,
      Walk (Pages key fits limit E) after (tables.take (reads + 1)) pages final ∧
        (final = none ∨ tables.length ≤ reads + 1) := by
  induction tables generalizing after with
  | nil => exact absurd rfl hn
  | cons table rest ih =>
    cases hnext : (readPage key fits limit table after).2 with
    | none =>
      refine ⟨0, [(readPage key fits limit table after).1], none, .last ?_, .inl rfl⟩
      rw [← hnext]
    | some next =>
      have hread : Pages key fits limit E table after =
          .ok ((readPage key fits limit table after).1, some next) := by
        rw [← hnext]
      cases rest with
      | nil => exact ⟨0, [(readPage key fits limit table after).1], some next, .last hread, .inr
          (le_refl _)⟩
      | cons other more =>
        obtain ⟨reads, pages, final, hw, hend⟩ := ih (some next) (List.cons_ne_nil _ _)
        refine ⟨reads + 1, _ :: pages, final, .more hread hw, ?_⟩
        obtain hend | hend := hend
        · exact .inl hend
        · exact .inr (by rw [List.length_cons]; omega)

/-- Where every row any read can see was there at the first, a walk that has more to read has
made no more reads than there were rows. -/
theorem Walk.bounded (h : Walk (Pages key fits limit E) after tables pages final)
    (hf : final.isSome = true) (hl : 0 < limit) (hd : ∀ table ∈ tables, (table.map key).Nodup)
    {first : List Row} (hs : ∀ table ∈ tables, ∀ row ∈ table, ∃ old ∈ first, key old = key row) :
    tables.length ≤ first.length := by
  have hrise := (h.rises hd).1
  have hnodup : (pages.flatten.map key).Nodup :=
    List.pairwise_map.mpr (hrise.imp fun hlt => hlt.ne)
  have hsub : pages.flatten.map key ⊆ first.map key := by
    intro place hm
    obtain ⟨row, hr, rfl⟩ := List.mem_map.mp hm
    obtain ⟨table, ht, hrow, -⟩ := h.sound row hr
    obtain ⟨old, ho, hk⟩ := hs table ht row hrow
    rw [← hk]
    exact List.mem_map_of_mem ho
  have hlen := (List.subperm_of_subset hnodup hsub).length_le
  rw [List.length_map, List.length_map, h.full hf hd] at hlen
  exact le_trans (Nat.le_mul_of_pos_right _ hl) hlen

end Walks

/-! ## Cursors in another form -/

section Forms

variable {Table C D R E : Type} {read : Table → Option C → Except E (List R × Option C)}
  {shown : Table → Option D → Except E (List R × Option D)} {form : C → D} {Good : C → Prop}

/-- One read over the other form is the read itself, and leads to a cursor that has a form. -/
def Agrees (read : Table → Option C → Except E (List R × Option C))
    (shown : Table → Option D → Except E (List R × Option D)) (form : C → D) (Good : C → Prop) :
    Prop :=
  ∀ table cursor, (∀ mark ∈ cursor, Good mark) → ∃ rows next, read table cursor = .ok (rows, next) ∧
    shown table (cursor.map form) = .ok (rows, next.map form) ∧ ∀ mark ∈ next, Good mark

/-- A walk is one over the other form. -/
theorem Walk.told {cursor final : Option C} {tables : List Table} {pages : List (List R)}
    (h : Walk read cursor tables pages final) (ha : Agrees read shown form Good)
    (hg : ∀ mark ∈ cursor, Good mark) :
    Walk shown (cursor.map form) tables pages (final.map form) := by
  induction h with
  | @last cursor table rows next hr =>
    obtain ⟨rows', next', hr', ht, -⟩ := ha table cursor hg
    rw [hr] at hr'
    obtain ⟨rfl, rfl⟩ := Prod.mk.inj (Except.ok.inj hr')
    exact .last ht
  | @more cursor table rows next tables pages final hr rest ih =>
    obtain ⟨rows', next', hr', ht, hnext⟩ := ha table cursor hg
    rw [hr] at hr'
    obtain ⟨rfl, rfl⟩ := Prod.mk.inj (Except.ok.inj hr')
    exact .more ht (ih hnext)

/-- A walk over the other form is one. -/
theorem Walk.of_told {place placeFinal : Option D} {tables : List Table} {pages : List (List R)}
    (h : Walk shown place tables pages placeFinal) (ha : Agrees read shown form Good)
    {cursor : Option C} (hc : place = cursor.map form) (hg : ∀ mark ∈ cursor, Good mark) :
    ∃ final, placeFinal = final.map form ∧ Walk read cursor tables pages final := by
  induction h generalizing cursor with
  | @last place table rows next ht =>
    obtain ⟨rows', next', hr, ht', -⟩ := ha table cursor hg
    rw [hc, ht'] at ht
    obtain ⟨rfl, rfl⟩ := Prod.mk.inj (Except.ok.inj ht)
    exact ⟨next', rfl, .last hr⟩
  | @more place table rows next tables pages final ht rest ih =>
    obtain ⟨rows', next', hr, ht', hnext⟩ := ha table cursor hg
    rw [hc, ht'] at ht
    obtain ⟨rfl, hn⟩ := Prod.mk.inj (Except.ok.inj ht)
    obtain ⟨final', hf, hw⟩ := ih hn.symm hnext
    obtain ⟨mark, rfl, -⟩ := Option.map_eq_some_iff.mp hn
    exact ⟨final', hf, .more hr hw⟩

end Forms

end IntentSolver.KeysetPaging
