import IntentSolver.ProgramTraces
import Mathlib.Algebra.Order.Ring.Rat
import Mathlib.Data.List.Forall2
import Mathlib.Data.List.GetD

/-!
# Reading a list of the indexer page by page

The next page is the one the server reports, and a server that does not advance or serves
too many pages is refused: a caller that decides what to spend must not be handed part of a
script's outputs for all of them. A page with no rows, or with no word of further pages, ends
the list.
-/

namespace IntentSolver.IndexerPaging

open WorkerProgram ProgramTraces

/-- What a page says of its place. A field is none where the answer has no number for it. -/
structure PageResponse where
  current : Option ℚ
  next : Option ℚ
  total : Option ℚ
  deriving DecidableEq

/-- Why the reading is given up. -/
inductive IndexerPagingError where
  | tooManyPages
  | notAdvanced (pageIndex : ℤ) (page : PageResponse)
  deriving DecidableEq

/-- Most pages one list may have. -/
def MAX_PAGES : ℕ := 1000

/-- Most txids one request may carry. -/
def VIRTUAL_TX_PAGE_SIZE : ℕ := 100

/-- The server reports the last page. -/
def PageResponse.isLast (page : PageResponse) : Bool :=
  match page.current, page.total with
  | some current, some total => decide (total ≤ current)
  | _, _ => false

/-- The page the server reports to come next, when it is a whole number past this one. -/
def PageResponse.advance (page : PageResponse) (pageIndex : ℤ) : Option ℤ :=
  match page.next with
  | some next => if next.den = 1 ∧ pageIndex < next.num then some next.num else none
  | none => none

/-- Nothing is asked for after such a page. -/
def ends {Row : Type} (rows : List Row) (page : Option PageResponse) : Bool :=
  rows.isEmpty || page.all PageResponse.isLast

section Loop

variable {Op : Type} {Ans : Op → Type} {Err Row β σ : Type}

/-- Where pages come from: the request for each, how its answer reads, and how the reader's
own refusals are thrown. -/
structure PageSource {Op : Type} (Ans : Op → Type) (Err Row : Type) where
  request : ℤ → Op
  read : (pageIndex : ℤ) → Ans (request pageIndex) → Except Err (List Row × Option PageResponse)
  refuse : IndexerPagingError → Err

namespace PageSource

variable (source : PageSource Ans Err Row)

/-- What is done with a page: go on, or leave the loop with a result. -/
def step (visit : σ → List Row → σ ⊕ β) (more : ℤ → σ → Program Ans Err (σ ⊕ β))
    (pageIndex : ℤ) (state : σ) (rows : List Row) (page : Option PageResponse) (further : ℕ) :
    Program Ans Err (σ ⊕ β) :=
  match visit state rows with
  | .inr result => .ret (.inr result)
  | .inl state =>
    if ends rows page then .ret (.inl state)
    else if further = 0 then .throw (source.refuse .tooManyPages)
    else match page with
      | none => .ret (.inl state)
      | some page =>
        match page.advance pageIndex with
        | none => .throw (source.refuse (.notAdvanced pageIndex page))
        | some next => more next state

/-- Page after page, with so many further requests allowed. -/
def pagesFrom (visit : σ → List Row → σ ⊕ β) : ℕ → ℤ → σ → Program Ans Err (σ ⊕ β)
  | 0, pageIndex, state => .call (source.request pageIndex) fun answer =>
    (Program.ofExcept (source.read pageIndex answer)).bind fun served =>
      source.step visit (fun _ state => .ret (.inl state)) pageIndex state served.1 served.2 0
  | further + 1, pageIndex, state => .call (source.request pageIndex) fun answer =>
    (Program.ofExcept (source.read pageIndex answer)).bind fun served =>
      source.step visit (pagesFrom visit further) pageIndex state served.1 served.2 (further + 1)

/-- The loop over all pages of one list. -/
def pages (visit : σ → List Row → σ ⊕ β) (state : σ) : Program Ans Err (σ ⊕ β) :=
  source.pagesFrom visit (MAX_PAGES - 1) 0 state

/-- All pages of one list, in the order they are served. -/
def batches : Program Ans Err (List (List Row)) :=
  (source.pages (fun seen rows => (.inl (seen ++ [rows]) : List (List Row) ⊕ Empty)) []).bind
    fun out => .ret (out.elim id Empty.elim)

end PageSource

end Loop

/-! ## What the indexer is asked -/

/-- An output of a script, as the indexer reports it. -/
structure VirtualCoin where
  txid : String
  vout : ℕ
  value : ℤ
  /-- Assets with their amounts. -/
  assets : List (String × ℤ)
  /-- `isVtxoSpent`. -/
  isSpent : Bool
  isSwept : Bool
  deriving DecidableEq

/-- A page as it is served. -/
structure Served (Row : Type) where
  rows : List Row
  page : Option PageResponse

/-- A request to the indexer. -/
inductive IndexerOp where
  /-- Outputs of a script. -/
  | getVtxos (script : String) (pageIndex : ℤ)
  /-- Transactions by txid. -/
  | getVirtualTxs (txids : List String) (pageIndex : ℤ)
  deriving DecidableEq

/-- Why a read fails: the request itself, or the reader's refusal. -/
inductive IndexerFault where
  | failed (message : String)
  | paging (error : IndexerPagingError)
  deriving DecidableEq

/-- What each request answers. -/
abbrev IndexerOp.Ans : IndexerOp → Type
  | .getVtxos _ _ => Except IndexerFault (Served VirtualCoin)
  | .getVirtualTxs _ _ => Except IndexerFault (Served String)

/-- A program of indexer requests. -/
abbrev Reading (α : Type) : Type := Program IndexerOp.Ans IndexerFault α

/-- The outputs of a script. -/
def vtxoSource (script : String) : PageSource IndexerOp.Ans IndexerFault VirtualCoin where
  request := IndexerOp.getVtxos script
  read _ answer := answer.map fun served => (served.rows, served.page)
  refuse := .paging

/-- Some transactions. -/
def virtualTxSource (txids : List String) : PageSource IndexerOp.Ans IndexerFault String where
  request := IndexerOp.getVirtualTxs txids
  read _ answer := answer.map fun served => (served.rows, served.page)
  refuse := .paging

/-- All outputs of a script, batch by batch. -/
def vtxoPages (script : String) : Reading (List (List VirtualCoin)) := (vtxoSource script).batches

/-- The txids in chunks a request may carry. -/
def chunks : ℕ → List String → List (List String)
  | 0, _ => []
  | _ + 1, [] => []
  | fuel + 1, txids =>
    txids.take VIRTUAL_TX_PAGE_SIZE :: chunks fuel (txids.drop VIRTUAL_TX_PAGE_SIZE)

/-- The chunks one after another. -/
def chunkPages : List (List String) → Reading (List (List String))
  | [] => .ret []
  | chunk :: rest =>
    (virtualTxSource chunk).batches.bind fun first =>
      (chunkPages rest).bind fun later => .ret (first ++ later)

/-- All the transactions, batch by batch. A list of a length has no more chunks than that. -/
def virtualTxPages (txids : List String) : Reading (List (List String)) :=
  chunkPages (chunks txids.length txids)

/-- What a script's history says of its money. -/
inductive LockupSpendEvidence where
  | unknown
  | unspent
  | spent
  deriving DecidableEq

/-- What the loop over a script's outputs does with a page. -/
def spentSoFar (seen : Bool) (rows : List VirtualCoin) : Bool ⊕ LockupSpendEvidence :=
  if rows.all VirtualCoin.isSpent then .inl (seen || !rows.isEmpty)
  else .inr LockupSpendEvidence.unspent

/-- Whether all outputs of a script are spent: the first unspent one decides, and `spent` takes
every page. -/
def lockupSpendEvidence (script : String) : Reading LockupSpendEvidence :=
  ((vtxoSource script).pages spentSoFar false).bind fun
    | .inl seen => .ret (if seen then .spent else .unknown)
    | .inr evidence => .ret evidence

/-! ## Any server -/

section Loop

variable {Op : Type} {Ans : Op → Type} {Err Row β σ : Type} {source : PageSource Ans Err Row}
  {visit : σ → List Row → σ ⊕ β}

/-- The request was for a page, and this is what its answer read as. -/
def Serves (source : PageSource Ans Err Row) (step : (op : Op) × Ans op)
    (served : List Row × Option PageResponse) : Prop :=
  ∃ pageIndex answer, step = ⟨source.request pageIndex, answer⟩ ∧
    source.read pageIndex answer = .ok served

/-- Batch after batch, until one ends the loop with a result. -/
def visitAll (visit : σ → List Row → σ ⊕ β) : σ → List (List Row) → σ ⊕ β
  | state, [] => .inl state
  | state, rows :: rest =>
    match visit state rows with
    | .inl next => visitAll visit next rest
    | .inr result => .inr result

/-- A complete reading: each request was answered with a page, and the last page ends the
list. -/
structure Whole (source : PageSource Ans Err Row) (trace : Trace Ans)
    (served : List (List Row × Option PageResponse)) : Prop where
  serves : List.Forall₂ (Serves source) trace served
  last : ∃ pages page, served = pages ++ [page] ∧ ends page.1 page.2 = true

/-- With no further request allowed nothing follows a page. -/
theorem step_zero {more other : ℤ → σ → Program Ans Err (σ ⊕ β)} {pageIndex : ℤ} {state : σ}
    {rows : List Row} {page : Option PageResponse} :
    source.step visit more pageIndex state rows page 0 =
      source.step visit other pageIndex state rows page 0 := by
  unfold PageSource.step
  cases visit state rows with
  | inr result => rfl
  | inl next => rfl

/-- One iteration: a request, its answer, and what is done with it. -/
theorem pagesFrom_eq (further : ℕ) (pageIndex : ℤ) (state : σ) :
    source.pagesFrom visit further pageIndex state =
      .call (source.request pageIndex) fun answer =>
        (Program.ofExcept (source.read pageIndex answer)).bind fun served =>
          source.step visit (source.pagesFrom visit (further - 1)) pageIndex state served.1
            served.2 further := by
  cases further with
  | zero =>
    have hstep : ∀ answer, ((Program.ofExcept (source.read pageIndex answer)).bind fun served =>
        source.step visit (fun _ state => .ret (.inl state)) pageIndex state served.1 served.2 0) =
        (Program.ofExcept (source.read pageIndex answer)).bind fun served =>
          source.step visit (source.pagesFrom visit 0) pageIndex state served.1 served.2 0 := by
      intro answer
      cases source.read pageIndex answer with
      | error error => rfl
      | ok served => exact step_zero
    exact congrArg (Program.call (source.request pageIndex)) (funext hstep)
  | succ further => rfl

/-- After a page the loop is over, or there was another page to come and a request left. -/
theorem yields_step {more : ℤ → σ → Program Ans Err (σ ⊕ β)} {pageIndex : ℤ} {state : σ}
    {rows : List Row} {page : Option PageResponse} {further : ℕ} {trace : Trace Ans}
    {out : Except Err (σ ⊕ β)}
    (h : Yields (source.step visit more pageIndex state rows page further) trace out) :
    (trace = [] ∧ ∃ error, out = .error error) ∨
    (trace = [] ∧ ∃ result, visit state rows = .inr result ∧ out = .ok (.inr result)) ∨
    (trace = [] ∧ ∃ final, visit state rows = .inl final ∧ ends rows page = true ∧
      out = .ok (.inl final)) ∨
    ∃ next later, further ≠ 0 ∧ visit state rows = .inl later ∧
      Yields (more next later) trace out := by
  unfold PageSource.step at h
  cases hv : visit state rows with
  | inr result =>
    rw [hv] at h
    exact .inr (.inl ⟨h.1, result, rfl, h.2⟩)
  | inl later =>
    rw [hv] at h
    dsimp only at h
    by_cases he : ends rows page = true
    · rw [if_pos he] at h
      exact .inr (.inr (.inl ⟨h.1, later, rfl, he, h.2⟩))
    · rw [if_neg he] at h
      by_cases hf : further = 0
      · rw [if_pos hf] at h
        exact .inl ⟨h.1, _, h.2⟩
      · rw [if_neg hf] at h
        cases page with
        | none =>
          -- no word of further pages ends the list, so this branch is never reached
          exact absurd (by simp [ends]) he
        | some page =>
          dsimp only at h
          cases ha : page.advance pageIndex with
          | none =>
            rw [ha] at h
            exact .inl ⟨h.1, _, h.2⟩
          | some next =>
            rw [ha] at h
            exact .inr (.inr (.inr ⟨next, later, hf, rfl, h⟩))

/-- The loop makes at least one request and no more than it may, all of them its own. If it
goes through without a result it has read all pages, one after another, up to one that ends
the list, and a result comes from one of its pages. -/
theorem yields_pagesFrom (further : ℕ) {pageIndex : ℤ} {state : σ} {trace : Trace Ans}
    {out : Except Err (σ ⊕ β)}
    (h : Yields (source.pagesFrom visit further pageIndex state) trace out) :
    (trace ≠ [] ∧ trace.length ≤ further + 1 ∧
      ∀ step ∈ trace, ∃ pageIndex, step.1 = source.request pageIndex) ∧
    (∀ final, out = .ok (.inl final) → ∃ served, Whole source trace served ∧
      visitAll visit state (served.map Prod.fst) = .inl final) ∧
    ∀ result, out = .ok (.inr result) → ∃ state rows, visit state rows = .inr result := by
  induction further generalizing pageIndex state trace with
  | zero =>
    rw [pagesFrom_eq] at h
    obtain ⟨answer, later, ht, hl⟩ := h
    obtain ⟨error, -, hn, ho⟩ | ⟨served, hread, hstep⟩ := yields_ofExcept_bind.mp hl
    · rw [ht, hn, ho]
      exact ⟨⟨by simp, le_refl _, by simp⟩, fun final hf => (by cases hf), fun result hf =>
        (by cases hf)⟩
    · obtain ⟨hn, error, ho⟩ | ⟨hn, result, hv, ho⟩ | ⟨hn, value, hv, he, ho⟩ | ⟨-, -, hz, -⟩ :=
        yields_step hstep
      · rw [ht, hn, ho]
        exact ⟨⟨by simp, le_refl _, by simp⟩, fun final hf => (by cases hf), fun result hf =>
          (by cases hf)⟩
      · rw [ht, hn, ho]
        refine ⟨⟨by simp, le_refl _, by simp⟩, fun final hf => (by cases hf), fun value hf => ?_⟩
        cases hf
        exact ⟨state, served.1, hv⟩
      · rw [ht, hn, ho]
        refine ⟨⟨by simp, le_refl _, by simp⟩, fun final hf => ?_, fun result hf => (by cases hf)⟩
        cases hf
        have hserves : Serves source ⟨source.request pageIndex, answer⟩ served :=
          ⟨pageIndex, answer, rfl, hread⟩
        refine ⟨[served], ⟨.cons hserves .nil, [], served, rfl, he⟩, ?_⟩
        simp [visitAll, hv]
      · exact absurd rfl hz
  | succ further ih =>
    rw [pagesFrom_eq] at h
    obtain ⟨answer, later, ht, hl⟩ := h
    obtain ⟨error, -, hn, ho⟩ | ⟨served, hread, hstep⟩ := yields_ofExcept_bind.mp hl
    · rw [ht, hn, ho]
      exact ⟨⟨by simp, by simp, by simp⟩, fun final hf => (by cases hf), fun result hf =>
        (by cases hf)⟩
    · have hserves : Serves source ⟨source.request pageIndex, answer⟩ served :=
        ⟨pageIndex, answer, rfl, hread⟩
      obtain ⟨hn, error, ho⟩ | ⟨hn, result, hv, ho⟩ | ⟨hn, value, hv, he, ho⟩ |
        ⟨next, state', -, hv, hy⟩ := yields_step hstep
      · rw [ht, hn, ho]
        exact ⟨⟨by simp, by simp, by simp⟩, fun final hf => (by cases hf), fun result hf =>
          (by cases hf)⟩
      · rw [ht, hn, ho]
        refine ⟨⟨by simp, by simp, by simp⟩, fun final hf => (by cases hf), fun value hf => ?_⟩
        cases hf
        exact ⟨state, served.1, hv⟩
      · rw [ht, hn, ho]
        refine ⟨⟨by simp, by simp, by simp⟩, fun final hf => ?_, fun result hf => (by cases hf)⟩
        cases hf
        refine ⟨[served], ⟨.cons hserves .nil, [], served, rfl, he⟩, ?_⟩
        simp [visitAll, hv]
      · rw [Nat.add_sub_cancel] at hy
        obtain ⟨⟨-, hlen, hown⟩, hwhole, hleft⟩ := ih hy
        rw [ht]
        refine ⟨⟨by simp, ?_, ?_⟩, fun final hf => ?_, hleft⟩
        · rw [List.length_cons]
          omega
        · intro step hm
          obtain rfl | hm := List.mem_cons.mp hm
          · exact ⟨pageIndex, rfl⟩
          · exact hown step hm
        · obtain ⟨rest, ⟨hall, pages, page, hlast, he⟩, hvisit⟩ := hwhole final hf
          refine ⟨served :: rest, ⟨.cons hserves hall, served :: pages, page, ?_, he⟩, ?_⟩
          · rw [hlast, List.cons_append]
          · simp only [List.map_cons, visitAll, hv]
            exact hvisit

/-- Collecting goes through every batch and adds each. -/
theorem visitAll_collect (seen served : List (List Row)) :
    visitAll (fun seen rows => (.inl (seen ++ [rows]) : List (List Row) ⊕ Empty)) seen served =
      .inl (seen ++ served) := by
  induction served generalizing seen with
  | nil => rw [visitAll, List.append_nil]
  | cons rows rest ih =>
    have hnext := ih (seen ++ [rows])
    rw [List.append_assoc] at hnext
    exact hnext

/-- What is returned as the whole list is a complete reading. -/
theorem yields_batches {trace : Trace Ans} {out : Except Err (List (List Row))}
    (h : Yields source.batches trace out) :
    (trace ≠ [] ∧ trace.length ≤ MAX_PAGES ∧
      ∀ step ∈ trace, ∃ pageIndex, step.1 = source.request pageIndex) ∧
    ∀ batches, out = .ok batches →
      ∃ served, Whole source trace served ∧ batches = served.map Prod.fst := by
  obtain ⟨error, ho, hy⟩ | ⟨value, first, second, ht, hy, ⟨hn, ho⟩⟩ := yields_bind.mp h
  · refine ⟨(yields_pagesFrom _ hy).1, fun batches hb => ?_⟩
    rw [ho] at hb
    cases hb
  · rw [hn, List.append_nil] at ht
    rw [ht]
    obtain ⟨hbound, hwhole, -⟩ := yields_pagesFrom _ hy
    refine ⟨hbound, fun batches hb => ?_⟩
    cases value with
    | inr impossible => exact impossible.elim
    | inl final =>
      obtain ⟨served, hserved, hvisit⟩ := hwhole final rfl
      rw [visitAll_collect] at hvisit
      rw [ho] at hb
      cases hb
      cases hvisit
      exact ⟨served, hserved, by simp⟩

/-- A reading is idle where its requests are. -/
theorem idle_pagesFrom {D : Discipline Ans}
    (h : ∀ pageIndex note, D.may note (source.request pageIndex) ∧
      ∀ answer, D.learn note (source.request pageIndex) answer = note)
    (further : ℕ) (pageIndex : ℤ) (state : σ) :
    D.Idle (source.pagesFrom visit further pageIndex state) := by
  have hstep : ∀ (further : ℕ) (more : ℤ → σ → Program Ans Err (σ ⊕ β)),
      (∀ next later, further ≠ 0 → D.Idle (more next later)) →
      ∀ pageIndex state rows page,
        D.Idle (source.step visit more pageIndex state rows page further) := by
    intro further more hmore pageIndex state rows page
    unfold PageSource.step
    split
    · trivial
    · split_ifs with _ hf
      · trivial
      · trivial
      · split
        · trivial
        · split
          · trivial
          · exact hmore _ _ hf
  induction further generalizing pageIndex state with
  | zero =>
    rw [pagesFrom_eq]
    refine ⟨h pageIndex, fun answer => (Discipline.idle_ofExcept _).bind fun served => ?_⟩
    exact hstep 0 _ (fun _ _ hne => absurd rfl hne) _ _ _ _
  | succ further ih =>
    rw [pagesFrom_eq]
    refine ⟨h pageIndex, fun answer => (Discipline.idle_ofExcept _).bind fun served => ?_⟩
    exact hstep (further + 1) _ (fun next later _ => ih next later) _ _ _ _

/-- Reading the pages teaches nothing when no page does. -/
theorem idle_batches {D : Discipline Ans}
    (h : ∀ pageIndex note, D.may note (source.request pageIndex) ∧
      ∀ answer, D.learn note (source.request pageIndex) answer = note) :
    D.Idle source.batches :=
  (idle_pagesFrom h _ _ _).bind fun _ => trivial

/-! ## A server that numbers its pages -/

/-- The pages are numbered from one and a request for page nought is taken for the first. Of
its own page the server reports the number and how many there are, and of a page that is not
the last the number that comes next. -/
def Numbered (source : PageSource Ans Err Row) (answers : (op : Op) → Ans op)
    (pages : List (List Row)) : Prop :=
  ∀ pageIndex : ℤ, 0 ≤ pageIndex → pageIndex ≤ max pages.length 1 →
    ∃ page, source.read pageIndex (answers (source.request pageIndex)) =
        .ok (pages.getD (max pageIndex 1 - 1).toNat [], some page) ∧
      page.current = some ((max pageIndex 1 : ℤ) : ℚ) ∧ page.total = some (pages.length : ℚ) ∧
      (max pageIndex 1 < pages.length → page.next = some ((max pageIndex 1 + 1 : ℤ) : ℚ))

/-- The pages the reader asks for: it stops at the first that has no rows. -/
def heard : List (List Row) → List (List Row)
  | [] => [[]]
  | [page] => [page]
  | page :: next :: rest => if page.isEmpty then [page] else page :: heard (next :: rest)

/-- How the loop ends when these are the pages still to come. -/
def reads (source : PageSource Ans Err Row) (visit : σ → List Row → σ ⊕ β) (further : ℕ)
    (state : σ) (rest : List (List Row)) : Except Err (σ ⊕ β) :=
  (visitAll visit state ((heard rest).take (further + 1))).elim
    (fun final => if (heard rest).length ≤ further + 1 then .ok (.inl final)
      else .error (source.refuse .tooManyPages))
    fun result => .ok (.inr result)

/-- The last page that is read, or one that leaves the loop. -/
theorem reads_single (further : ℕ) (state : σ) (rest : List (List Row)) {page : List Row}
    (h : heard rest = [page]) : reads source visit further state rest =
      .ok (visit state page) := by
  unfold reads
  rw [h, List.take_of_length_le (by simp)]
  unfold visitAll
  cases visit state page with
  | inl next => simp [visitAll]
  | inr result => rfl

/-- A page before the last that is read. -/
theorem reads_cons (further : ℕ) (state : σ) (rest later : List (List Row)) {page : List Row}
    (h : heard rest = page :: heard later) : reads source visit (further + 1) state rest =
      (visit state page).elim (fun next => reads source visit further next later)
        fun result => .ok (.inr result) := by
  unfold reads
  rw [h, List.take_succ_cons]
  cases hv : visit state page with
  | inl next => simp [visitAll, hv]
  | inr result => simp [visitAll, hv]

/-- More than one page is read. -/
theorem heard_length_pos (rest : List (List Row)) : 0 < (heard rest).length := by
  unfold heard
  split
  · simp
  · simp
  · split <;> simp

/-- A page too many. -/
theorem reads_too_many (state : σ) (rest later : List (List Row)) {page : List Row}
    (h : heard rest = page :: heard later) : reads source visit 0 state rest =
      (visit state page).elim (fun _ => .error (source.refuse .tooManyPages))
        fun result => .ok (.inr result) := by
  have hpos := heard_length_pos later
  unfold reads
  rw [h, List.take_succ_cons]
  cases hv : visit state page with
  | inl next =>
    have hlong : heard later ≠ [] := List.length_pos_iff.mp hpos
    simp [visitAll, hv, hlong]
  | inr result => simp [visitAll, hv]

/-- A whole number past this page is gone to. -/
theorem advance_int {page : PageResponse} {pageIndex next : ℤ}
    (hn : page.next = some (next : ℚ)) (hp : pageIndex < next) :
    page.advance pageIndex = some next := by
  unfold PageResponse.advance
  rw [hn]
  exact if_pos ⟨Rat.den_intCast next, hp⟩

/-- The page the reader stops at. -/
theorem heard_stops {pages : List (List Row)} {number : ℕ}
    (h : pages.getD number [] = [] ∨ pages.length ≤ number + 1) :
    heard (pages.drop number) = [pages.getD number []] := by
  cases hd : pages.drop number with
  | nil =>
    have hlen : pages.length ≤ number := List.drop_eq_nil_iff.mp hd
    rw [heard, List.getD_eq_default _ _ hlen]
  | cons page rest =>
    have hget : pages.getD number [] = page := by
      rw [List.getD_eq_getElem?_getD, ← List.head?_drop, hd]
      rfl
    rw [hget] at h ⊢
    cases rest with
    | nil => rfl
    | cons next rest =>
      have hlen := congrArg List.length hd
      rw [List.length_drop, List.length_cons, List.length_cons] at hlen
      have hempty : page = [] := by
        obtain he | hl := h
        · exact he
        · omega
      rw [heard, hempty]
      rfl

/-- A page it goes on from. -/
theorem heard_goes {pages : List (List Row)} {number : ℕ} (he : pages.getD number [] ≠ [])
    (hl : number + 1 < pages.length) :
    heard (pages.drop number) = pages.getD number [] :: heard (pages.drop (number + 1)) := by
  have hget : pages.getD number [] = pages[number] := List.getD_eq_getElem _ _ (by omega)
  rw [hget] at he ⊢
  rw [List.drop_eq_getElem_cons (by omega), List.drop_eq_getElem_cons hl, heard,
    if_neg (by rwa [List.isEmpty_iff])]

/-- The page the reader is at, and what is done after it. -/
theorem step_numbered {more : ℤ → σ → Program Ans Err (σ ⊕ β)} {pageIndex : ℤ} {number : ℕ}
    {pages : List (List Row)} {page : PageResponse} {further : ℕ} {state : σ}
    (hnum : max pageIndex 1 = number + 1) (hc : page.current = some ((max pageIndex 1 : ℤ) : ℚ))
    (ht : page.total = some (pages.length : ℚ))
    (hnext : max pageIndex 1 < pages.length →
      page.next = some ((max pageIndex 1 + 1 : ℤ) : ℚ)) :
    source.step visit more pageIndex state (pages.getD number []) (some page) further =
      (visit state (pages.getD number [])).elim
        (fun later => if pages.getD number [] = [] ∨ pages.length ≤ number + 1
          then .ret (.inl later)
          else if further = 0 then .throw (source.refuse .tooManyPages)
          else more (number + 2) later)
        fun result => .ret (.inr result) := by
  have hlast : page.isLast = decide (pages.length ≤ number + 1) := by
    unfold PageResponse.isLast
    rw [hc, ht, hnum, decide_eq_decide]
    push_cast
    norm_cast
  have hends : ends (pages.getD number []) (some page) =
      decide (pages.getD number [] = [] ∨ pages.length ≤ number + 1) := by
    unfold ends
    rw [Option.all_some, hlast, Bool.decide_or]
    congr 1
    rw [Bool.eq_iff_iff, List.isEmpty_iff, decide_eq_true_eq]
  unfold PageSource.step
  cases visit state (pages.getD number []) with
  | inr result => rfl
  | inl later =>
    dsimp only [Sum.elim_inl]
    by_cases he : pages.getD number [] = [] ∨ pages.length ≤ number + 1
    · rw [if_pos (by rw [hends]; exact decide_eq_true he), if_pos he]
    · rw [if_neg (by rw [hends]; simp only [decide_eq_true_eq]; exact he), if_neg he]
      by_cases hf : further = 0
      · rw [if_pos hf, if_pos hf]
      · rw [if_neg hf, if_neg hf]
        push Not at he
        have hahead : page.advance pageIndex = some ((number : ℤ) + 2) := by
          refine advance_int ?_ (by omega)
          rw [hnext (by omega), hnum, show (number : ℤ) + 1 + 1 = number + 2 by omega]
        rw [hahead]

/-- One iteration over numbered pages. -/
theorem played_iteration {answers : (op : Op) → Ans op} {pages : List (List Row)}
    (h : Numbered source answers pages) (further : ℕ) {pageIndex : ℤ} {number : ℕ}
    (hnum : max pageIndex 1 = number + 1) (hpos : 0 ≤ pageIndex)
    (hlt : number < max pages.length 1) (state : σ) :
    (played answers (source.pagesFrom visit further pageIndex state)).2 =
      (visit state (pages.getD number [])).elim
        (fun later => if pages.getD number [] = [] ∨ pages.length ≤ number + 1
          then .ok (.inl later)
          else if further = 0 then .error (source.refuse .tooManyPages)
          else (played answers (source.pagesFrom visit (further - 1) (number + 2) later)).2)
        fun result => .ok (.inr result) := by
  obtain ⟨page, hread, hc, ht, hnext⟩ := h pageIndex hpos (by omega)
  rw [show (max pageIndex 1 - 1).toNat = number by omega] at hread
  have hcall : (played answers (source.pagesFrom visit further pageIndex state)).2 =
      (played answers (source.step visit (source.pagesFrom visit (further - 1)) pageIndex state
        (pages.getD number []) (some page) further)).2 := by
    rw [pagesFrom_eq, played]
    dsimp only
    rw [hread]
    rfl
  rw [hcall, step_numbered hnum hc ht hnext]
  cases visit state (pages.getD number []) with
  | inr result => rfl
  | inl later =>
    dsimp only [Sum.elim_inl]
    split_ifs
    · rfl
    · rfl
    · rfl

/-- A run over numbered pages. The number of the page that is asked for is one more than the
pages already read. -/
theorem played_pagesFrom {answers : (op : Op) → Ans op} {pages : List (List Row)}
    (h : Numbered source answers pages) (further : ℕ) {pageIndex : ℤ} {number : ℕ}
    (hnum : max pageIndex 1 = number + 1) (hpos : 0 ≤ pageIndex)
    (hlt : number < max pages.length 1) (state : σ) :
    (played answers (source.pagesFrom visit further pageIndex state)).2 =
      reads source visit further state (pages.drop number) := by
  induction further generalizing pageIndex number state with
  | zero =>
    rw [played_iteration h 0 hnum hpos hlt]
    by_cases hs : pages.getD number [] = [] ∨ pages.length ≤ number + 1
    · rw [reads_single _ _ _ (heard_stops hs)]
      cases visit state (pages.getD number []) with
      | inl later => exact if_pos hs
      | inr result => rfl
    · have hgo := hs
      push Not at hgo
      rw [reads_too_many _ _ _ (heard_goes hgo.1 hgo.2)]
      cases visit state (pages.getD number []) with
      | inl later => exact if_neg hs
      | inr result => rfl
  | succ further ih =>
    rw [played_iteration h _ hnum hpos hlt]
    by_cases hs : pages.getD number [] = [] ∨ pages.length ≤ number + 1
    · rw [reads_single _ _ _ (heard_stops hs)]
      cases visit state (pages.getD number []) with
      | inl later => exact if_pos hs
      | inr result => rfl
    · have hgo := hs
      push Not at hgo
      rw [reads_cons _ _ _ _ (heard_goes hgo.1 hgo.2)]
      cases visit state (pages.getD number []) with
      | inl later =>
        dsimp only [Sum.elim_inl]
        rw [if_neg hs, if_neg (Nat.succ_ne_zero further), Nat.add_sub_cancel]
        exact ih (by push_cast; omega) (by omega) (by omega) later
      | inr result => rfl

/-- The loop over all numbered pages. -/
theorem played_pages {answers : (op : Op) → Ans op} {pages : List (List Row)}
    (h : Numbered source answers pages) (state : σ) :
    (played answers (source.pages visit state)).2 =
      reads source visit (MAX_PAGES - 1) state pages := by
  have hrun := @played_pagesFrom Op Ans Err Row β σ source visit answers pages h (MAX_PAGES - 1)
    0 0 rfl (le_refl 0) (by omega) state
  rw [List.drop_zero] at hrun
  exact hrun

/-- Where every page before the last has rows, all pages are read. -/
theorem heard_filled {pages : List (List Row)} (h : ∀ page ∈ pages.dropLast, page ≠ [])
    (hn : pages ≠ []) : heard pages = pages := by
  induction pages with
  | nil => exact absurd rfl hn
  | cons page rest ih =>
    cases rest with
    | nil => rfl
    | cons next rest =>
      rw [List.dropLast_cons_cons] at h
      have hpage : page ≠ [] := h page (List.mem_cons_self ..)
      rw [heard, if_neg (by rwa [List.isEmpty_iff]),
        ih (fun other hm => h other (List.mem_cons_of_mem _ hm)) (List.cons_ne_nil _ _)]

/-- What is returned of numbered pages. -/
theorem played_batches {answers : (op : Op) → Ans op} {pages : List (List Row)}
    (h : Numbered source answers pages) :
    (played answers source.batches).2 =
      if (heard pages).length ≤ MAX_PAGES then .ok (heard pages)
      else .error (source.refuse .tooManyPages) := by
  have hrun : (played answers (source.pages (fun seen rows =>
      (.inl (seen ++ [rows]) : List (List Row) ⊕ Empty)) [])).2 = _ := played_pages h []
  unfold reads at hrun
  rw [visitAll_collect, List.nil_append, Sum.elim_inl] at hrun
  have hmax : MAX_PAGES - 1 + 1 = MAX_PAGES := rfl
  rw [hmax] at hrun
  unfold PageSource.batches
  rw [played_bind, hrun]
  by_cases hl : (heard pages).length ≤ MAX_PAGES
  · rw [if_pos hl, if_pos hl, List.take_of_length_le hl]
    rfl
  · rw [if_neg hl, if_neg hl]
    rfl

end Loop

/-! ## Transactions in chunks -/

/-- The chunks are the txids, each once and in their order. -/
theorem chunks_flatten (fuel : ℕ) (txids : List String) (h : txids.length ≤ fuel) :
    (chunks fuel txids).flatten = txids := by
  induction fuel generalizing txids with
  | zero =>
    rw [List.length_eq_zero_iff.mp (by omega : txids.length = 0)]
    rfl
  | succ fuel ih =>
    cases txids with
    | nil => rfl
    | cons txid rest =>
      have hlen : ((txid :: rest).drop VIRTUAL_TX_PAGE_SIZE).length ≤ fuel := by
        rw [List.length_drop, VIRTUAL_TX_PAGE_SIZE]
        rw [List.length_cons] at h ⊢
        omega
      have hchunks : chunks (fuel + 1) (txid :: rest) =
          (txid :: rest).take VIRTUAL_TX_PAGE_SIZE ::
            chunks fuel ((txid :: rest).drop VIRTUAL_TX_PAGE_SIZE) := rfl
      rw [hchunks, List.flatten_cons, ih _ hlen, List.take_append_drop]

/-- No chunk is longer than a request may carry. -/
theorem chunks_length (fuel : ℕ) (txids : List String) :
    ∀ chunk ∈ chunks fuel txids, chunk.length ≤ VIRTUAL_TX_PAGE_SIZE := by
  induction fuel generalizing txids with
  | zero =>
    intro chunk hm
    cases hm
  | succ fuel ih =>
    cases txids with
    | nil =>
      intro chunk hm
      cases hm
    | cons txid rest =>
      intro chunk hm
      obtain rfl | hm := List.mem_cons.mp hm
      · rw [List.length_take]
        omega
      · exact ih _ chunk hm

/-- The requests made for a chunk. -/
structure Asked (chunk : List String) (trace : Trace IndexerOp.Ans) : Prop where
  some : trace ≠ []
  bounded : trace.length ≤ MAX_PAGES
  own : ∀ step ∈ trace, ∃ pageIndex, step.1 = IndexerOp.getVirtualTxs chunk pageIndex

/-- The transactions are asked for chunk by chunk, each chunk in requests of its own. What is
returned as all of them is a complete reading of every chunk. -/
theorem yields_chunkPages (rest : List (List String)) {trace : Trace IndexerOp.Ans}
    {out : Except IndexerFault (List (List String))} (h : Yields (chunkPages rest) trace out) :
    ∃ asked : List (List String × Trace IndexerOp.Ans),
      trace = (asked.map Prod.snd).flatten ∧ asked.map Prod.fst <+: rest ∧
      (∀ one ∈ asked, Asked one.1 one.2) ∧
      ∀ batches, out = .ok batches → asked.map Prod.fst = rest ∧
        ∃ served, List.Forall₂ (fun one pages => Whole (virtualTxSource one.1) one.2 pages)
          asked served ∧ batches = served.flatten.map Prod.fst := by
  induction rest generalizing trace out with
  | nil =>
    obtain ⟨ht, ho⟩ := h
    refine ⟨[], ht, List.prefix_rfl, by simp, fun batches hb => ⟨rfl, [], .nil, ?_⟩⟩
    rw [ho] at hb
    cases hb
    rfl
  | cons chunk rest ih =>
    obtain ⟨error, ho, hy⟩ | ⟨first, begun, later, ht, hy, hl⟩ := yields_bind.mp h
    · obtain ⟨⟨hs, hb, hown⟩, -⟩ := yields_batches hy
      refine ⟨[(chunk, trace)], by simp, ?_, ?_, fun batches hb => ?_⟩
      · exact ⟨rest, rfl⟩
      · intro one hm
        rw [List.mem_singleton.mp hm]
        exact ⟨hs, hb, hown⟩
      · rw [ho] at hb
        cases hb
    · obtain ⟨⟨hs, hb, hown⟩, hwhole⟩ := yields_batches hy
      obtain ⟨served, hserved, hfirst⟩ := hwhole first rfl
      have hone : Asked chunk begun := ⟨hs, hb, hown⟩
      obtain ⟨error, ho, hr⟩ | ⟨value, second, last, hsec, hr, ⟨hn, hend⟩⟩ := yields_bind.mp hl
      · obtain ⟨asked, hta, hpre, hall, -⟩ := ih hr
        refine ⟨(chunk, begun) :: asked, ?_, ?_, ?_, fun batches hb => ?_⟩
        · rw [ht, hta]
          rfl
        · exact List.cons_prefix_cons.mpr ⟨rfl, hpre⟩
        · intro one hm
          obtain rfl | hm := List.mem_cons.mp hm
          · exact hone
          · exact hall one hm
        · rw [ho] at hb
          cases hb
      · obtain ⟨asked, hta, hpre, hall, hdone⟩ := ih hr
        obtain ⟨hchunks, pages, hpages, hvalue⟩ := hdone value rfl
        refine ⟨(chunk, begun) :: asked, ?_, ?_, ?_, fun batches hb => ⟨?_, served :: pages, ?_⟩⟩
        · rw [ht, hsec, hta, hn, List.append_nil]
          rfl
        · exact List.cons_prefix_cons.mpr ⟨rfl, hpre⟩
        · intro one hm
          obtain rfl | hm := List.mem_cons.mp hm
          · exact hone
          · exact hall one hm
        · rw [List.map_cons, hchunks]
        · refine ⟨.cons hserved hpages, ?_⟩
          rw [hend] at hb
          cases hb
          rw [hfirst, hvalue, List.flatten_cons, List.map_append]

/-! ## What is made of a script's history -/

/-- It goes through pages of spent outputs only. -/
theorem visitAll_spentSoFar {seen final : Bool} {batches : List (List VirtualCoin)}
    (h : visitAll spentSoFar seen batches = .inl final) :
    ∀ rows ∈ batches, ∀ coin ∈ rows, coin.isSpent = true := by
  induction batches generalizing seen with
  | nil =>
    intro rows hm
    cases hm
  | cons page rest ih =>
    by_cases hall : page.all VirtualCoin.isSpent = true
    · have hvisit : spentSoFar seen page = .inl (seen || !page.isEmpty) := if_pos hall
      rw [visitAll, hvisit] at h
      intro rows hm
      obtain rfl | hm := List.mem_cons.mp hm
      · exact List.all_eq_true.mp hall
      · exact ih h rows hm
    · have hvisit : spentSoFar seen page = .inr LockupSpendEvidence.unspent := if_neg hall
      rw [visitAll, hvisit] at h
      cases h

/-- A lockup is called spent on a complete reading in which every output is spent. -/
theorem yields_lockupSpendEvidence_spent {script : String} {trace : Trace IndexerOp.Ans}
    (h : Yields (lockupSpendEvidence script) trace (.ok .spent)) :
    ∃ served, Whole (vtxoSource script) trace served ∧
      ∀ page ∈ served, ∀ coin ∈ page.1, coin.isSpent = true := by
  obtain ⟨value, first, second, ht, hy, hr⟩ := yields_bind_ok h
  obtain ⟨-, hwhole, hleft⟩ := yields_pagesFrom _ hy
  cases value with
  | inr evidence =>
    obtain ⟨hn, ho⟩ := hr
    cases ho
    obtain ⟨seen, rows, hv⟩ := hleft _ rfl
    unfold spentSoFar at hv
    split at hv <;> cases hv
  | inl seen =>
    obtain ⟨hn, -⟩ := hr
    rw [ht, hn, List.append_nil]
    obtain ⟨served, hserved, hvisit⟩ := hwhole seen rfl
    refine ⟨served, hserved, fun page hp => ?_⟩
    exact visitAll_spentSoFar hvisit page.1 (List.mem_map_of_mem hp)

/-! ## What a reader gets -/

/-- What is read of the pages is all their rows exactly when no rows come after a page
without. -/
theorem heard_flatten_iff {Row : Type} (pages : List (List Row)) :
    (heard pages).flatten = pages.flatten ↔
      pages.Pairwise fun earlier later => earlier = [] → later = [] := by
  induction pages with
  | nil => simp [heard]
  | cons page rest ih =>
    cases rest with
    | nil => simp [heard]
    | cons next rest =>
      rw [List.pairwise_cons, heard]
      by_cases he : page = []
      · rw [if_pos (by rw [he]; rfl), he]
        constructor
        · intro h
          have hnone : ∀ later ∈ next :: rest, later = [] :=
            List.flatten_eq_nil_iff.mp h.symm
          refine ⟨fun later hm _ => hnone later hm, ?_⟩
          rw [List.pairwise_iff_getElem]
          exact fun i j hi hj _ _ => hnone _ (List.getElem_mem hj)
        · intro h
          have hnone : ∀ later ∈ next :: rest, later = [] := fun later hm => h.1 later hm rfl
          exact (List.flatten_eq_nil_iff.mpr hnone).symm
      · rw [if_neg (by rwa [List.isEmpty_iff]), List.flatten_cons, List.flatten_cons,
          List.append_cancel_left_eq, ih]
        constructor
        · exact fun h => ⟨fun later _ hn => absurd hn he, h⟩
        · exact fun h => h.2

/-- A server that answers from these pages. -/
def servedPage {Row : Type} (pages : List (List Row)) (pageIndex : ℤ) : Served Row where
  rows := pages.getD (max pageIndex 1 - 1).toNat []
  page := some
    { current := some ((max pageIndex 1 : ℤ) : ℚ)
      next := some (if max pageIndex 1 < pages.length then ((max pageIndex 1 + 1 : ℤ) : ℚ)
        else pages.length)
      total := some pages.length }

/-- An indexer with these outputs and transactions. -/
def indexerOf (outputs : String → List (List VirtualCoin))
    (txs : List String → List (List String)) : (op : IndexerOp) → op.Ans
  | .getVtxos script pageIndex => .ok (servedPage (outputs script) pageIndex)
  | .getVirtualTxs txids pageIndex => .ok (servedPage (txs txids) pageIndex)

/-- It numbers its pages. -/
theorem numbered_indexerOf (outputs : String → List (List VirtualCoin))
    (txs : List String → List (List String)) (script : String) :
    Numbered (vtxoSource script) (indexerOf outputs txs) (outputs script) := by
  intro pageIndex _ _
  refine ⟨_, rfl, rfl, rfl, fun h => ?_⟩
  exact congrArg some (if_pos h)

/-- A reader gets the pages up to the first without rows. That is every row exactly once
where no rows come after such a page, and a refusal where too many pages have rows. Whatever
a server answers, the requests are bounded, and what is returned was read to a page that ends
the list; and transactions are asked for in chunks a request may carry, each txid in one. -/
theorem indexer_reads_whole_or_refuses (answers : (op : IndexerOp) → op.Ans) (script : String)
    (pages : List (List VirtualCoin)) (txids : List String)
    (h : Numbered (vtxoSource script) answers pages) :
    ((played answers (vtxoPages script)).2 =
        if (heard pages).length ≤ MAX_PAGES then .ok (heard pages)
        else .error (.paging .tooManyPages)) ∧
    ((heard pages).flatten = pages.flatten ↔
      pages.Pairwise fun earlier later => earlier = [] → later = []) ∧
    ((∀ page ∈ pages.dropLast, page ≠ []) → MAX_PAGES < pages.length →
      (played answers (vtxoPages script)).2 = .error (.paging .tooManyPages)) ∧
    (∀ trace out, Yields (vtxoPages script) trace out → trace.length ≤ MAX_PAGES ∧
      ∀ batches, out = .ok batches →
        ∃ served, Whole (vtxoSource script) trace served ∧ batches = served.map Prod.fst) ∧
    (chunks txids.length txids).flatten = txids ∧
    (∀ chunk ∈ chunks txids.length txids, chunk.length ≤ VIRTUAL_TX_PAGE_SIZE) ∧
    ∀ trace out, Yields (virtualTxPages txids) trace out →
      ∃ asked : List (List String × Trace IndexerOp.Ans),
        trace = (asked.map Prod.snd).flatten ∧
        asked.map Prod.fst <+: chunks txids.length txids ∧
        (∀ one ∈ asked, Asked one.1 one.2) ∧
        ∀ batches, out = .ok batches → asked.map Prod.fst = chunks txids.length txids ∧
          ∃ served, List.Forall₂ (fun one pages => Whole (virtualTxSource one.1) one.2 pages)
            asked served ∧ batches = served.flatten.map Prod.fst := by
  refine ⟨played_batches h, heard_flatten_iff pages, fun hf hl => ?_, fun trace out hy => ?_,
    chunks_flatten _ _ (le_refl _), chunks_length _ _, fun trace out hy => ?_⟩
  · have hpages : pages ≠ [] := by
      intro hn
      rw [hn] at hl
      exact absurd hl (by decide)
    rw [vtxoPages, played_batches h, heard_filled hf hpages, if_neg (by omega)]
    rfl
  · obtain ⟨⟨-, hbound, -⟩, hwhole⟩ := yields_batches hy
    exact ⟨hbound, hwhole⟩
  · exact yields_chunkPages _ hy

/-- An output worth a thousand sats. -/
def sampleCoin (vout : ℕ) : VirtualCoin where
  txid := "aa"
  vout := vout
  value := 1000
  assets := []
  isSpent := false
  isSwept := false

/-- Three pages, the second without rows. -/
def holedPages : List (List VirtualCoin) := [[sampleCoin 0], [], [sampleCoin 1]]

/-- Two pages are read whole, in their order. -/
theorem indexer_reads_whole_or_refuses_sample :
    Numbered (vtxoSource "5120") (indexerOf (fun _ => [[sampleCoin 0], [sampleCoin 1]]) fun _ => [])
      [[sampleCoin 0], [sampleCoin 1]] ∧
    (played (indexerOf (fun _ => [[sampleCoin 0], [sampleCoin 1]]) fun _ => [])
      (vtxoPages "5120")).2 = .ok [[sampleCoin 0], [sampleCoin 1]] := by
  have hnumbered := numbered_indexerOf (fun _ => [[sampleCoin 0], [sampleCoin 1]]) (fun _ => [])
    "5120"
  have hread := (indexer_reads_whole_or_refuses _ "5120" _ ["bb"] hnumbered).1
  exact ⟨hnumbered, hread⟩

/-- The row after a page without rows is left out, and nothing is thrown. -/
theorem empty_page_ends_reading :
    Numbered (vtxoSource "5120") (indexerOf (fun _ => holedPages) fun _ => []) holedPages ∧
    (played (indexerOf (fun _ => holedPages) fun _ => []) (vtxoPages "5120")).2 =
      .ok [[sampleCoin 0], []] ∧
    ([[sampleCoin 0], []] : List (List VirtualCoin)).flatten ≠ holedPages.flatten := by
  have hnumbered := numbered_indexerOf (fun _ => holedPages) (fun _ => []) "5120"
  refine ⟨hnumbered, played_batches hnumbered, by decide⟩

end IntentSolver.IndexerPaging
