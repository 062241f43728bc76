import IntentSolver.JsNumber
import IntentSolver.KeysetPaging
import Mathlib.Data.Prod.Lex

/-!
# Paging through a table of swaps

A cursor is a creation time and a row number, written with a dot between them. The list for
the operator goes from the newest row down and the sweep for recovery from the oldest up, and
both read one row more than they return. Swaps are quoted and move on between two reads.
-/

namespace IntentSolver.SwapPages

open JsNumber KeysetPaging

def DEFAULT_PAGE_LIMIT : ℕ := 50

def MAX_PAGE_LIMIT : ℕ := 500

/-- Where a page ended. -/
structure Cursor where
  createdAt : ℤ
  rowid : ℤ
  deriving DecidableEq

/-- A page request the caller got wrong. -/
inductive PageRequestError where
  | malformedCursor (raw : String)
  | limit (value : ℚ)
  deriving DecidableEq

/-- A cursor as the text a page hands out. -/
def encodeCursor (cursor : Cursor) : String :=
  toString cursor.createdAt ++ "." ++ toString cursor.rowid

/-- The text of a cursor, read back. -/
def decodeCursor (raw : Option String) : Except PageRequestError (Option Cursor) :=
  match raw with
  | none => .ok none
  | some raw =>
    if raw = "" then .ok none
    else
      match raw.toList.splitOn '.' with
      | [created, row] =>
        match (toNumber (String.ofList created)).integer,
          (toNumber (String.ofList row)).integer with
        | some createdAt, some rowid => .ok (some ⟨createdAt, rowid⟩)
        | _, _ => .error (.malformedCursor raw)
      | _ => .error (.malformedCursor raw)

/-- A caller-supplied limit, bounded. -/
def clampLimit (limit : Option ℚ) : Except PageRequestError ℕ :=
  match limit with
  | none => .ok DEFAULT_PAGE_LIMIT
  | some limit =>
    if limit.den ≠ 1 ∨ limit ≤ 0 then .error (.limit limit)
    else .ok (min limit.num.toNat MAX_PAGE_LIMIT)

/-- A row as the driver returns it. Seconds and row numbers are safe integers. -/
structure RawRow where
  created_at : ℤ
  /-- The source's `_rowid`. -/
  rowid : ℤ
  state : String
  created_safe : |created_at| ≤ MAX_SAFE_INTEGER
  rowid_safe : |rowid| ≤ MAX_SAFE_INTEGER

/-- The rows of a table, each with a number of its own. -/
structure Table where
  rows : List RawRow
  distinct : (rows.map RawRow.rowid).Nodup

/-- What the page of a caller asks for. -/
structure PageOptions where
  /-- Empty means every state. -/
  states : List String
  limit : Option ℚ
  cursor : Option String

/-- A page and the cursor that follows it. -/
abbrev Page : Type := List RawRow × Option String

/-- Split an over-fetched result into the page and the cursor that follows it. -/
def takePage (raw : List RawRow) (limit : ℕ) : Page :=
  let page := raw.take limit
  (page, if limit < raw.length then
    page.getLast?.map fun last => encodeCursor ⟨last.created_at, last.rowid⟩ else none)

/-- The rows of a query: those that meet its clauses, in its order, up to its limit. -/
def query (table : Table) (clauses : RawRow → Bool) (order : RawRow → RawRow → Bool)
    (limit : ℕ) : List RawRow :=
  ((table.rows.filter clauses).mergeSort order).take limit

/-- Newest first. -/
def page (options : PageOptions) (table : Table) : Except PageRequestError Page := do
  let limit ← clampLimit options.limit
  let cursor ← decodeCursor options.cursor
  let states (row : RawRow) : Bool := options.states.isEmpty || options.states.contains row.state
  let past (row : RawRow) : Bool := cursor.all fun cursor =>
    decide (row.created_at < cursor.createdAt) ||
      (decide (row.created_at = cursor.createdAt) && decide (row.rowid < cursor.rowid))
  -- `ORDER BY created_at DESC, rowid DESC LIMIT ?`
  let order (first second : RawRow) : Bool := decide (second.created_at < first.created_at) ||
    (decide (second.created_at = first.created_at) && decide (second.rowid ≤ first.rowid))
  return takePage (query table (fun row => states row && past row) order (limit + 1)) limit

/-- Oldest first, of the states the store recovers. -/
def pageRecoverable (live : List String) (limit : Option ℚ) (cursor : Option String)
    (table : Table) : Except PageRequestError Page := do
  let limit ← clampLimit limit
  let cursor ← decodeCursor cursor
  let states (row : RawRow) : Bool := live.contains row.state
  -- `(created_at, rowid) > (?, ?)`
  let past (row : RawRow) : Bool := cursor.all fun cursor =>
    decide (cursor.createdAt < row.created_at) ||
      (decide (cursor.createdAt = row.created_at) && decide (cursor.rowid < row.rowid))
  -- `ORDER BY created_at ASC, rowid ASC LIMIT ?`
  let order (first second : RawRow) : Bool := decide (first.created_at < second.created_at) ||
    (decide (first.created_at = second.created_at) && decide (first.rowid ≤ second.rowid))
  return takePage (query table (fun row => states row && past row) order (limit + 1)) limit

/-! ## Cursors -/

/-- A cursor of safe integers. -/
def Cursor.Safe (cursor : Cursor) : Prop :=
  |cursor.createdAt| ≤ MAX_SAFE_INTEGER ∧ |cursor.rowid| ≤ MAX_SAFE_INTEGER

/-- No dot in an integer that is written out. -/
theorem dot_not_mem_toString (value : ℤ) : '.' ∉ (toString value).toList := by
  intro hm
  obtain he | hd := mem_toString hm
  · exact absurd he (by decide)
  · exact absurd hd (by decide)

/-- What is written as a cursor is read as it. -/
theorem decodeCursor_encodeCursor {cursor : Cursor} (h : cursor.Safe) :
    decodeCursor (some (encodeCursor cursor)) = .ok (some cursor) := by
  have hchars : (encodeCursor cursor).toList =
      (toString cursor.createdAt).toList ++ '.' :: (toString cursor.rowid).toList := by
    unfold encodeCursor
    rw [String.toList_append, String.toList_append, List.append_assoc]
    rfl
  have hsplit : (encodeCursor cursor).toList.splitOn '.' =
      [(toString cursor.createdAt).toList, (toString cursor.rowid).toList] := by
    rw [hchars, List.splitOn_append_cons_self_of_not_mem (dot_not_mem_toString _),
      List.splitOn_eq_singleton (dot_not_mem_toString _)]
  have hne : encodeCursor cursor ≠ "" := by
    intro he
    rw [he] at hchars
    exact absurd hchars.symm (by simp)
  unfold decodeCursor
  dsimp only
  rw [if_neg hne, hsplit]
  dsimp only
  rw [String.ofList_toList, String.ofList_toList, toNumber_toString h.1, toNumber_toString h.2,
    integer_int, integer_int]

/-- A row's cursor is safe. -/
def RawRow.cursor (row : RawRow) : Cursor := ⟨row.created_at, row.rowid⟩

/-- The cursor of a stored row holds safe integers. -/
theorem RawRow.cursor_safe (row : RawRow) : row.cursor.Safe := ⟨row.created_safe, row.rowid_safe⟩

/-- The cursor a page is followed by is read as the place of a row. -/
theorem decodeCursor_takePage {raw : List RawRow} {limit : ℕ} {text : String}
    (h : (takePage raw limit).2 = some text) :
    ∃ row ∈ (takePage raw limit).1, text = encodeCursor row.cursor ∧
      decodeCursor (some text) = .ok (some row.cursor) := by
  unfold takePage at h
  dsimp only at h
  split at h
  · obtain ⟨row, hl, rfl⟩ := Option.map_eq_some_iff.mp h
    exact ⟨row, List.mem_of_getLast? hl, rfl, decodeCursor_encodeCursor row.cursor_safe⟩
  · cases h

/-! ## Places in the order -/

/-- Oldest first: by creation time, then by row number. -/
abbrev Place : Type := ℤ ×ₗ ℤ

/-- Where a cursor stands: the time of the quote, then the row's number. -/
def Cursor.place (cursor : Cursor) : Place := toLex (cursor.createdAt, cursor.rowid)

/-- The cursor of a place. -/
def placed (place : Place) : Cursor := ⟨(ofLex place).1, (ofLex place).2⟩

/-- One place after another, as the queries compare. -/
theorem place_lt (first second : Cursor) : decide (first.place < second.place) =
    (decide (first.createdAt < second.createdAt) ||
      (decide (first.createdAt = second.createdAt) && decide (first.rowid < second.rowid))) := by
  rw [Bool.eq_iff_iff, Bool.or_eq_true, Bool.and_eq_true]
  simp only [decide_eq_true_eq]
  exact Prod.Lex.toLex_lt_toLex

/-- Places compare by the time of the quote and then by the row's number. -/
theorem place_le (first second : Cursor) : decide (first.place ≤ second.place) =
    (decide (first.createdAt < second.createdAt) ||
      (decide (first.createdAt = second.createdAt) && decide (first.rowid ≤ second.rowid))) := by
  rw [Bool.eq_iff_iff, Bool.or_eq_true, Bool.and_eq_true]
  simp only [decide_eq_true_eq]
  exact Prod.Lex.toLex_le_toLex

/-! ## The two lists -/

/-- A list that is walked. -/
inductive Listing where
  /-- Newest first, in some states or in all. -/
  | page (states : List String)
  /-- Oldest first, in the states the store recovers. -/
  | recoverable (live : List String)

/-- One read of it. -/
def Listing.read (limit : ℚ) : Listing → Table → Option String → Except PageRequestError Page
  | .page states, table, cursor => SwapPages.page ⟨states, some limit, cursor⟩ table
  | .recoverable live, table, cursor => pageRecoverable live (some limit) cursor table

/-- The rows it is over. -/
def Listing.fits : Listing → RawRow → Bool
  | .page states, row => states.isEmpty || states.contains row.state
  | .recoverable live, row => live.contains row.state

/-- A cursor that was read. -/
theorem decodeCursor_map {K : Type} {form : K → Cursor} {cursor : Option K}
    (h : ∀ place ∈ cursor, (form place).Safe) :
    decodeCursor (cursor.map (encodeCursor ∘ form)) = .ok (cursor.map form) := by
  cases cursor with
  | none => rfl
  | some place => exact decodeCursor_encodeCursor (h place rfl)

/-- A limit in range is taken as it is. -/
theorem clampLimit_nat {limit : ℕ} (h1 : 1 ≤ limit) (h2 : limit ≤ MAX_PAGE_LIMIT) :
    clampLimit (some (limit : ℚ)) = .ok limit := by
  have hpos : ¬ ((limit : ℚ).den ≠ 1 ∨ (limit : ℚ) ≤ 0) := by
    push Not
    exact ⟨Rat.den_natCast limit, by exact_mod_cast h1⟩
  unfold clampLimit
  dsimp only
  rw [if_neg hpos, Rat.num_natCast, Int.toNat_natCast, min_eq_left h2]

/-- What follows a page is the place of its last row. -/
theorem takePage_fetch {K : Type} [LinearOrder K] (key : RawRow → K) (fits : RawRow → Bool)
    {form : K → Cursor} (hf : ∀ row, form (key row) = row.cursor) (limit : ℕ)
    (table : List RawRow) (after : Option K) :
    takePage (fetch key fits limit table after) limit =
      ((readPage key fits limit table after).1,
        (readPage key fits limit table after).2.map (encodeCursor ∘ form)) := by
  unfold takePage readPage cut
  dsimp only
  congr 1
  split
  · rw [Option.map_map]
    congr 1
    funext row
    exact congrArg encodeCursor (hf row).symm
  · rfl

/-- The cursor that follows a page is safe. -/
theorem readPage_safe {K : Type} [LinearOrder K] (key : RawRow → K) (fits : RawRow → Bool)
    {form : K → Cursor} (hf : ∀ row, form (key row) = row.cursor) {limit : ℕ}
    {table : List RawRow} {after : Option K} :
    ∀ place ∈ (readPage key fits limit table after).2, (form place).Safe := by
  intro place hp
  change (if limit < (fetch key fits limit table after).length then
    ((fetch key fits limit table after).take limit).getLast?.map key else none) = some place at hp
  split at hp
  · obtain ⟨row, -, rfl⟩ := Option.map_eq_some_iff.mp hp
    rw [hf]
    exact row.cursor_safe
  · cases hp

/-- Newest first is the order of the places turned round. -/
def newest (row : RawRow) : Placeᵒᵈ := OrderDual.toDual row.cursor.place

/-- The cursor of a place in that order. -/
def placedDown (place : Placeᵒᵈ) : Cursor := placed (OrderDual.ofDual place)

/-- The order of the recoverable rows. -/
def oldest (row : RawRow) : Place := row.cursor.place

/-- The list of the operator follows the places down. -/
theorem agrees_page (states : List String) {limit : ℕ} (h1 : 1 ≤ limit)
    (h2 : limit ≤ MAX_PAGE_LIMIT) :
    Agrees (fun table : Table =>
        Pages newest (Listing.page states).fits limit PageRequestError table.rows)
      ((Listing.page states).read limit) (encodeCursor ∘ placedDown)
      fun place => (placedDown place).Safe := by
  intro table cursor hg
  refine ⟨_, _, rfl, ?_, readPage_safe newest _ fun row => rfl⟩
  have htake := @takePage_fetch _ _ newest (Listing.page states).fits placedDown
    (fun row => rfl) limit table.rows cursor
  refine Eq.trans ?_ (congrArg Except.ok htake)
  unfold Listing.read page
  dsimp only
  rw [clampLimit_nat h1 h2, decodeCursor_map hg]
  change Except.ok _ = Except.ok _
  congr 2
  unfold query fetch
  congr 2
  · refine List.filter_congr fun row _ => ?_
    cases cursor with
    | none => rfl
    | some place => exact congrArg _ (place_lt row.cursor (placedDown place)).symm
  · funext first second
    exact (place_le second.cursor first.cursor).symm

/-- The sweep follows them up. -/
theorem agrees_recoverable (live : List String) {limit : ℕ} (h1 : 1 ≤ limit)
    (h2 : limit ≤ MAX_PAGE_LIMIT) :
    Agrees (fun table : Table =>
        Pages oldest (Listing.recoverable live).fits limit PageRequestError table.rows)
      ((Listing.recoverable live).read limit) (encodeCursor ∘ placed)
      fun place => (placed place).Safe := by
  intro table cursor hg
  refine ⟨_, _, rfl, ?_, readPage_safe oldest _ fun row => rfl⟩
  have htake := @takePage_fetch _ _ oldest (Listing.recoverable live).fits placed
    (fun row => rfl) limit table.rows cursor
  refine Eq.trans ?_ (congrArg Except.ok htake)
  unfold Listing.read pageRecoverable
  dsimp only
  rw [clampLimit_nat h1 h2, decodeCursor_map hg]
  change Except.ok _ = Except.ok _
  congr 2
  unfold query fetch
  congr 2
  · refine List.filter_congr fun row _ => ?_
    cases cursor with
    | none => rfl
    | some place => exact congrArg _ (place_lt (placed place) row.cursor).symm
  · funext first second
    exact (place_le first.cursor second.cursor).symm

/-! ## A table between two reads -/

/-- Swaps are quoted and move on, and no row goes or is numbered anew. -/
def Later (before after : Table) : Prop :=
  ∀ row ∈ before.rows, ∃ kept ∈ after.rows, kept.rowid = row.rowid ∧
    kept.created_at = row.created_at

/-- Changes of the table over two stretches of time make one over both. -/
theorem later_trans {first second third : Table} (h : Later first second)
    (ht : Later second third) : Later first third := by
  intro row hm
  obtain ⟨kept, hk, hr, hc⟩ := h row hm
  obtain ⟨last, hl, hr', hc'⟩ := ht kept hk
  exact ⟨last, hl, hr'.trans hr, hc'.trans hc⟩

/-- One row of each number. -/
theorem Table.eq_of_rowid {table : Table} {first second : RawRow} (hf : first ∈ table.rows)
    (hs : second ∈ table.rows) (h : first.rowid = second.rowid) : first = second :=
  List.inj_on_of_nodup_map table.distinct hf hs h

/-- A row keeps its creation time over all the reads. -/
theorem created_of_rowid {tables : List Table} (h : tables.IsChain Later) {first second : RawRow}
    {table other : Table} (ht : table ∈ tables) (ho : other ∈ tables) (hf : first ∈ table.rows)
    (hs : second ∈ other.rows) (hr : first.rowid = second.rowid) :
    first.created_at = second.created_at := by
  have htrans : IsTrans Table Later := ⟨fun _ _ _ => later_trans⟩
  have hpair : tables.Pairwise Later := List.isChain_iff_pairwise.mp h
  let same (before after : Table) : Prop := ∀ first ∈ before.rows, ∀ second ∈ after.rows,
    first.rowid = second.rowid → first.created_at = second.created_at
  have hsymm : Std.Symm same := ⟨fun _ _ hab first hf second hs he =>
    (hab second hs first hf he.symm).symm⟩
  have hself : ∀ table ∈ tables, same table table := fun table _ first hf second hs he => by
    rw [table.eq_of_rowid hf hs he]
  have hsame : tables.Pairwise same := hpair.imp fun hl first hf second hs he => by
    obtain ⟨kept, hk, hkr, hkc⟩ := hl first hf
    rw [← hkc, Table.eq_of_rowid hk hs (hkr.trans he)]
  exact hsame.forall_of_forall hself ht ho first hf second hs hr

/-- The rows of a table have places of their own. -/
theorem nodup_keys {K : Type} {key : RawRow → K} {form : K → Cursor}
    (hk : ∀ row, form (key row) = row.cursor) (table : Table) :
    (table.rows.map key).Nodup := by
  have hrowid : table.rows.map RawRow.rowid =
      (table.rows.map key).map fun place => (form place).rowid := by
    rw [List.map_map]
    refine List.map_congr_left fun row _ => ?_
    rw [Function.comp_apply, hk]
    rfl
  have hdistinct := table.distinct
  rw [hrowid] at hdistinct
  exact hdistinct.of_map _

/-- A list is read page by page in the order of some keys, and a cursor stands for a key. -/
structure Follows {K : Type} [LinearOrder K] (key : RawRow → K) (fits : RawRow → Bool)
    (form : K → Cursor) (limit : ℕ)
    (read : Table → Option String → Except PageRequestError Page) : Prop where
  cursor_key : ∀ row, form (key row) = row.cursor
  key_congr : ∀ first second : RawRow, first.cursor = second.cursor → key first = key second
  agrees : Agrees (fun table : Table => Pages key fits limit PageRequestError table.rows) read
    (encodeCursor ∘ form) fun place => (form place).Safe

section Walks

variable {K : Type} [LinearOrder K] {key : RawRow → K} {fits : RawRow → Bool} {form : K → Cursor}
  {limit : ℕ} {read : Table → Option String → Except PageRequestError Page}
  {tables : List Table} {pages : List (List RawRow)} {final : Option String}

/-- A walk over text cursors, from the first page, is one over places. -/
theorem walk_places (ho : Follows key fits form limit read)
    (h : Walk read none tables pages final) :
    ∃ last, final = last.map (encodeCursor ∘ form) ∧
      Walk (Pages key fits limit PageRequestError) none (tables.map Table.rows) pages last ∧
      ∀ rows ∈ tables.map Table.rows, (rows.map key).Nodup := by
  obtain ⟨last, hl, hw⟩ := h.of_told ho.agrees (Option.map_none _).symm (by simp)
  refine ⟨last, hl, hw.map, fun rows hm => ?_⟩
  obtain ⟨table, -, rfl⟩ := List.mem_map.mp hm
  exact nodup_keys ho.cursor_key table

/-- No row is returned twice. -/
theorem walk_nodup (ho : Follows key fits form limit read) (hc : tables.IsChain Later)
    (h : Walk read none tables pages final) :
    (pages.flatten.map RawRow.rowid).Nodup := by
  obtain ⟨last, -, hw, hd⟩ := walk_places ho h
  have hrise := (hw.rises hd).1
  refine List.pairwise_map.mpr (hrise.imp_of_mem fun {first second} hf hs hlt he => ?_)
  obtain ⟨_, hm, hrow, -⟩ := hw.sound first hf
  obtain ⟨table, ht, rfl⟩ := List.mem_map.mp hm
  obtain ⟨_, hm, hrow', -⟩ := hw.sound second hs
  obtain ⟨other, hother, rfl⟩ := List.mem_map.mp hm
  have hcreated := created_of_rowid hc ht hother hrow hrow' he
  have hcursor : first.cursor = second.cursor := by
    unfold RawRow.cursor
    rw [hcreated, he]
  exact absurd (ho.key_congr first second hcursor) hlt.ne

/-- A row that is there and fits at every read of a walk to the end is returned. -/
theorem walk_mem (ho : Follows key fits form limit read) (hc : tables.IsChain Later)
    (hl : 0 < limit) (h : Walk read none tables pages none) {rowid : ℤ}
    (hs : ∀ table ∈ tables, ∃ row ∈ table.rows, row.rowid = rowid ∧ fits row = true) :
    rowid ∈ pages.flatten.map RawRow.rowid := by
  obtain ⟨last, hf, hw, hd⟩ := walk_places ho h
  have hnone : last = none := Option.map_eq_none_iff.mp hf.symm
  obtain ⟨table, ht⟩ : ∃ table, table ∈ tables := by
    cases h with
    | last _ => exact ⟨_, List.mem_singleton_self _⟩
    | more _ _ => exact ⟨_, List.mem_cons_self ..⟩
  obtain ⟨row, hm, hr, -⟩ := hs table ht
  have hstays : ∀ rows ∈ tables.map Table.rows,
      ∃ there ∈ rows, fits there = true ∧ key there = key row := by
    intro rows hrows
    obtain ⟨other, hother, rfl⟩ := List.mem_map.mp hrows
    obtain ⟨there, hthere, hr', hfit⟩ := hs other hother
    have hcreated := created_of_rowid hc hother ht hthere hm (hr'.trans hr.symm)
    refine ⟨there, hthere, hfit, ho.key_congr _ _ ?_⟩
    unfold RawRow.cursor
    rw [hcreated, hr', hr]
  obtain ⟨found, hfound, hplace⟩ := hw.covers hnone hl hd (by simp) hstays
  have hcursor : found.cursor = row.cursor := by
    rw [← ho.cursor_key, hplace, ho.cursor_key]
  have hrowid : found.rowid = row.rowid := congrArg Cursor.rowid hcursor
  rw [← hr, ← hrowid]
  exact List.mem_map_of_mem hfound

/-- Where no rows are added, a walk ends after at most one read more than there are rows. -/
theorem walk_ends (ho : Follows key fits form limit read) {first : Table} {rest : List Table}
    (hc : (first :: rest).IsChain Later) (hl : 0 < limit)
    (hs : ∀ table ∈ rest, ∀ row ∈ table.rows, row.rowid ∈ first.rows.map RawRow.rowid)
    (hlong : first.rows.length ≤ rest.length) :
    ∃ reads pages, Walk read none ((first :: rest).take (reads + 1)) pages none := by
  obtain ⟨reads, pages, last, hw, hend⟩ := exists_walk key fits limit PageRequestError none
    (List.cons_ne_nil first.rows (rest.map Table.rows))
  rw [← List.map_cons, ← List.map_take] at hw
  have hplaces := hw.of_map
  have htold := hplaces.told ho.agrees (by simp)
  cases last with
  | none => exact ⟨reads, pages, htold⟩
  | some place =>
    exfalso
    obtain hn | hlen := hend
    · cases hn
    · have hall : (first :: rest).take (reads + 1) = first :: rest :=
        List.take_of_length_le (by simpa using hlen)
      rw [hall] at hw
      have hold : ∀ rows ∈ (first :: rest).map Table.rows, ∀ row ∈ rows,
          ∃ old ∈ first.rows, key old = key row := by
        intro rows hm row hrow
        obtain ⟨table, ht, rfl⟩ := List.mem_map.mp hm
        have hrowid : row.rowid ∈ first.rows.map RawRow.rowid := by
          obtain rfl | ht := List.mem_cons.mp ht
          · exact List.mem_map_of_mem hrow
          · exact hs table ht row hrow
        obtain ⟨old, hold, hr⟩ := List.mem_map.mp hrowid
        have hcreated := created_of_rowid hc (List.mem_cons_self ..) ht hold hrow hr
        refine ⟨old, hold, ho.key_congr _ _ ?_⟩
        unfold RawRow.cursor
        rw [hcreated, hr]
      have hbound := hw.bounded rfl hl (fun rows hm => by
        obtain ⟨table, -, rfl⟩ := List.mem_map.mp hm
        exact nodup_keys ho.cursor_key table) hold
      rw [List.length_map, List.length_cons] at hbound
      omega

end Walks

/-- The newest-first list is read in the falling order of its places. -/
theorem follows_page (states : List String) {limit : ℕ} (h1 : 1 ≤ limit)
    (h2 : limit ≤ MAX_PAGE_LIMIT) :
    Follows newest (Listing.page states).fits placedDown limit ((Listing.page states).read limit) :=
  ⟨fun _ => rfl, fun _ _ h => congrArg (OrderDual.toDual ∘ Cursor.place) h,
    agrees_page states h1 h2⟩

/-- The list of recoverable rows is read in the rising order of its places. -/
theorem follows_recoverable (live : List String) {limit : ℕ} (h1 : 1 ≤ limit)
    (h2 : limit ≤ MAX_PAGE_LIMIT) :
    Follows oldest (Listing.recoverable live).fits placed limit
      ((Listing.recoverable live).read limit) :=
  ⟨fun _ => rfl, fun _ _ h => congrArg Cursor.place h, agrees_recoverable live h1 h2⟩

/-- What holds of every walk over a list. -/
structure WalksWell (read : Table → Option String → Except PageRequestError Page)
    (fits : RawRow → Bool) : Prop where
  /-- No row is returned twice. -/
  nodup : ∀ tables pages final, tables.IsChain Later → Walk read none tables pages final →
    (pages.flatten.map RawRow.rowid).Nodup
  /-- A row that is there and fits throughout is returned once. -/
  once : ∀ tables pages rowid, tables.IsChain Later → Walk read none tables pages none →
    (∀ table ∈ tables, ∃ row ∈ table.rows, row.rowid = rowid ∧ fits row = true) →
    (pages.flatten.map RawRow.rowid).count rowid = 1
  /-- With no rows added the walk ends. -/
  ends : ∀ (first : Table) (rest : List Table), (first :: rest).IsChain Later →
    (∀ table ∈ rest, ∀ row ∈ table.rows, row.rowid ∈ first.rows.map RawRow.rowid) →
    first.rows.length ≤ rest.length →
    ∃ reads pages, Walk read none ((first :: rest).take (reads + 1)) pages none

/-- Every list read in the order of its keys is walked well. -/
theorem Follows.walksWell {K : Type} [LinearOrder K] {key : RawRow → K} {fits : RawRow → Bool}
    {form : K → Cursor} {limit : ℕ} {read : Table → Option String → Except PageRequestError Page}
    (ho : Follows key fits form limit read) (hl : 0 < limit) : WalksWell read fits where
  nodup _ _ _ hc h := walk_nodup ho hc h
  once _ _ _ hc h hs :=
    List.count_eq_one_of_mem (walk_nodup ho hc h) (walk_mem ho hc hl h hs)
  ends _ _ hc hs hlong := walk_ends ho hc hl hs hlong

/-- Both lists, in every state filter and at every limit, are walked without missing or
repeating a row, and every cursor a page is followed by reads back as what it was written
from. -/
theorem paging_misses_and_repeats_nothing (listing : Listing) (limit : ℕ) (h1 : 1 ≤ limit)
    (h2 : limit ≤ MAX_PAGE_LIMIT) :
    WalksWell (listing.read limit) listing.fits ∧
    ∀ raw text, (takePage raw limit).2 = some text →
      ∃ row ∈ (takePage raw limit).1, text = encodeCursor row.cursor ∧
        decodeCursor (some text) = .ok (some row.cursor) := by
  refine ⟨?_, fun raw text h => decodeCursor_takePage h⟩
  cases listing with
  | page states => exact (follows_page states h1 h2).walksWell h1
  | recoverable live => exact (follows_recoverable live h1 h2).walksWell h1

/-- Swaps quoted in one second. -/
def sampleRow (rowid : Fin 9) (state : String) : RawRow where
  created_at := 1700000000
  rowid := rowid.val + 1
  state := state
  created_safe := by decide
  rowid_safe := by
    have hlt := rowid.isLt
    unfold MAX_SAFE_INTEGER
    rw [abs_le]
    omega

/-- Three swaps, two of them funded. -/
def sampleFirst : Table := ⟨[sampleRow 0 "funded", sampleRow 1 "quoted", sampleRow 2 "funded"],
  by decide⟩

/-- One was claimed, one funded, and a fourth quoted in the same second. -/
def sampleSecond : Table := ⟨[sampleRow 0 "claimed", sampleRow 1 "funded", sampleRow 2 "funded",
  sampleRow 3 "quoted"], by decide⟩

/-- The second was claimed and the fourth funded. -/
def sampleThird : Table := ⟨[sampleRow 0 "claimed", sampleRow 1 "claimed", sampleRow 2 "funded",
  sampleRow 3 "funded"], by decide⟩

/-- A read of one row whose fitting rows stand in order already. -/
theorem recoverable_sorted {live : List String} {table : Table} {cursor : Option Cursor}
    {fitting : List RawRow} (hc : ∀ place ∈ cursor, place.Safe)
    (hf : (table.rows.filter fun row => live.contains row.state && cursor.all fun cursor =>
      decide (cursor.createdAt < row.created_at) ||
        (decide (cursor.createdAt = row.created_at) &&
          decide (cursor.rowid < row.rowid))) = fitting)
    (hs : fitting.Pairwise fun first second => (decide (first.created_at < second.created_at) ||
      (decide (first.created_at = second.created_at) &&
        decide (first.rowid ≤ second.rowid))) = true) :
    (Listing.recoverable live).read (1 : ℕ) table (cursor.map encodeCursor) =
      .ok (takePage (fitting.take 2) 1) := by
  have hcursor : decodeCursor (cursor.map encodeCursor) = .ok cursor := by
    cases cursor with
    | none => rfl
    | some place => exact decodeCursor_encodeCursor (hc place rfl)
  unfold Listing.read pageRecoverable
  dsimp only
  rw [clampLimit_nat (le_refl 1) (by decide), hcursor]
  change Except.ok (takePage (query _ _ _ 2) 1) = _
  unfold query
  rw [hf, List.mergeSort_of_pairwise hs]

/-- The sweep walks four pages of one row while the table changes under it. -/
theorem walk_sample : Walk ((Listing.recoverable ["funded"]).read (1 : ℕ)) none
    [sampleFirst, sampleSecond, sampleThird, sampleThird]
    [[sampleRow 0 "funded"], [sampleRow 1 "funded"], [sampleRow 2 "funded"],
      [sampleRow 3 "funded"]] none := by
  have hsafe : ∀ rowid : Fin 9, ∀ place ∈ some (sampleRow rowid "").cursor, place.Safe := by
    rintro rowid _ ⟨⟩
    exact (sampleRow rowid "").cursor_safe
  refine .more (@recoverable_sorted _ _ none _ nofun rfl (by decide)) ?_
  refine .more (recoverable_sorted (hsafe 0) rfl (by decide)) ?_
  refine .more (recoverable_sorted (hsafe 1) rfl (by decide)) ?_
  exact .last (recoverable_sorted (hsafe 2) rfl (by decide))

/-- Rows were funded, claimed and quoted during the walk: none comes twice, and the one that was
funded throughout comes once. -/
theorem paging_misses_and_repeats_nothing_sample :
    ∃ pages, Walk ((Listing.recoverable ["funded"]).read (1 : ℕ)) none
        [sampleFirst, sampleSecond, sampleThird, sampleThird] pages none ∧
      (pages.flatten.map RawRow.rowid).Nodup ∧ (pages.flatten.map RawRow.rowid).count 3 = 1 := by
  have hwell := (paging_misses_and_repeats_nothing (.recoverable ["funded"]) 1 (le_refl 1)
    (by decide)).1
  have hchain : [sampleFirst, sampleSecond, sampleThird, sampleThird].IsChain Later := by
    refine .cons_cons ?_ (.cons_cons ?_ (.cons_cons ?_ (.singleton _)))
    · simp [Later, sampleFirst, sampleSecond, sampleRow]
    · simp [Later, sampleSecond, sampleThird, sampleRow]
    · exact fun row hm => ⟨row, hm, rfl, rfl⟩
  refine ⟨_, walk_sample, hwell.nodup _ _ none hchain walk_sample,
    hwell.once _ _ 3 hchain walk_sample ?_⟩
  simp [sampleFirst, sampleSecond, sampleThird, sampleRow, Listing.fits]

end IntentSolver.SwapPages
