import IntentSolver.EvmPort
import IntentSolver.ProgramTraces
import IntentSolver.RangePaging
import Mathlib.Data.List.Basic

/-!
# The log scan

`scanLogs` reads the logs of a swap from a floor up to the tip, a page at a time, and
hands them one by one to whoever looks for something in them. Only the tip ends the loop,
never an empty page; the first log that yields something ends the scan, and so does an
error. The scan is written over any port that answers the two reads.
-/

namespace IntentSolver.EvmLogScan

open EvmPort WorkerProgram ProgramTraces RangePaging

/-- How many blocks one log request may span. -/
structure LogScanRange where
  span : ℤ
  /-- The backend refuses a smaller one. -/
  positive : 1 ≤ span

/-- The backend's own check of its configuration. -/
def logScanRange (value : ℤ) : Except EvmFault LogScanRange :=
  if h : 1 ≤ value then .ok ⟨value, h⟩
  else .error (.error ("logScanRange must be a positive integer, got " ++ toString value))

variable {Op : Type} {Ans : Op → Type} {Log T : Type}

/-- The two reads of the scan. -/
structure LogPort {Op : Type} (Ans : Op → Type) (Log : Type) where
  /-- `eth_blockNumber`. -/
  blockNumber : Program Ans EvmFault ℤ
  /-- `eth_getLogs` for one page; none where the answer is not an array. -/
  getLogs : Page → Program Ans EvmFault (Option (List Log))

variable (port : LogPort Ans Log) (range : LogScanRange)
  (take : Log → Program Ans EvmFault (Option T))

/-- Hand the logs over one by one until one of them yields something. -/
def takeEach : List Log → Program Ans EvmFault (Option T)
  | [] => return none
  | log :: rest => do
    match ← take log with
    | some found => return some found
    | none => takeEach rest

/-- The pages from `start` to the tip. -/
def scanPages (tip start : ℤ) : Program Ans EvmFault (Option T) :=
  if start ≤ tip then do
    match ← port.getLogs ⟨start, min (start + range.span - 1) tip⟩ with
    | none => throw (EvmFault.error "eth_getLogs: expected an array")
    | some logs =>
      match ← takeEach take logs with
      | some found => return some found
      | none => scanPages tip (start + range.span)
  else return none
termination_by (tip + 1 - start).toNat
decreasing_by
  have hp := range.positive
  omega

/-- Every log of the swap from `fromBlock` to the tip. -/
def scanLogs (fromBlock : ℤ) : Program Ans EvmFault (Option T) := do
  scanPages port range take (← port.blockNumber) fromBlock

/-! ## One page -/

section Page

variable {take} {trace : Trace Ans} {out : Except EvmFault (Option T)}

/-- One log and the ones after it: the look through the page ends there, or goes on. -/
theorem yields_takeEach_cons_iff {log : Log} {rest : List Log} :
    Yields (takeEach take (log :: rest)) trace out ↔
      (Yields (take log) trace out ∧ out ≠ .ok none) ∨
      ∃ first later, trace = first ++ later ∧ Yields (take log) first (.ok none) ∧
        Yields (takeEach take rest) later out := by
  constructor
  · intro h
    obtain ⟨error, ho, hv⟩ | ⟨value, first, second, ht, hv, hr⟩ := yields_bind.mp h
    · exact .inl ⟨by rw [ho]; exact hv, by rw [ho]; simp⟩
    · cases value with
      | some found =>
        obtain ⟨hn, ho⟩ := yields_ret.mp hr
        refine .inl ⟨?_, by rw [ho]; simp⟩
        rw [ht, hn, List.append_nil, ho]
        exact hv
      | none => exact .inr ⟨first, second, ht, hv, hr⟩
  · intro h
    refine yields_bind.mpr ?_
    obtain ⟨hv, hn⟩ | ⟨first, later, ht, hv, hr⟩ := h
    · cases out with
      | error error => exact .inl ⟨error, rfl, hv⟩
      | ok found =>
        cases found with
        | none => exact absurd rfl hn
        | some found =>
          exact .inr ⟨some found, trace, [], (List.append_nil trace).symm, hv, rfl, rfl⟩
    · exact .inr ⟨none, first, later, ht, hv, hr⟩

/-- Logs that yield nothing are followed by the logs after them. -/
theorem yields_takeEach_append {before after : List Log} {first later : Trace Ans}
    (hb : Yields (takeEach take before) first (.ok none))
    (ha : Yields (takeEach take after) later out) :
    Yields (takeEach take (before ++ after)) (first ++ later) out := by
  induction before generalizing first with
  | nil =>
    rw [(yields_ret.mp hb).1]
    exact ha
  | cons log rest ih =>
    obtain ⟨-, hn⟩ | ⟨look, others, ht, hv, hr⟩ := yields_takeEach_cons_iff.mp hb
    · exact absurd rfl hn
    · refine yields_takeEach_cons_iff.mpr (.inr ⟨look, others ++ later, ?_, hv, ih hr⟩)
      rw [ht, List.append_assoc]

/-- Logs among which the look ends are not followed by others. -/
theorem yields_takeEach_left {before : List Log} (hb : Yields (takeEach take before) trace out)
    (hn : out ≠ .ok none) (after : List Log) :
    Yields (takeEach take (before ++ after)) trace out := by
  induction before generalizing trace with
  | nil => exact absurd (yields_ret.mp hb).2 hn
  | cons log rest ih =>
    obtain ⟨hv, -⟩ | ⟨look, others, ht, hv, hr⟩ := yields_takeEach_cons_iff.mp hb
    · exact yields_takeEach_cons_iff.mpr (.inl ⟨hv, hn⟩)
    · exact yields_takeEach_cons_iff.mpr (.inr ⟨look, others, ht, hv, ih hr⟩)

end Page

/-! ## A scan whose verifier is one action -/

/-- The actions of a scan, the verifier's look at a log being one of them. -/
inductive ScanOp (Log : Type) where
  | blockNumber
  | getLogs (page : Page)
  | verify (log : Log)

/-- What each answers. -/
abbrev ScanAnswer (Log T : Type) : ScanOp Log → Type
  | .blockNumber => Except EvmFault ℤ
  | .getLogs _ => Except EvmFault (Option (List Log))
  | .verify _ => Except EvmFault (Option T)

/-- Offer a log to the verifier. -/
def verify (log : Log) : Program (ScanAnswer Log T) EvmFault (Option T) :=
  (Program.issue (ScanOp.verify log)).bind Program.ofExcept

/-- The pages a run asked for, in order. -/
def asked (trace : Trace (ScanAnswer Log T)) : List Page :=
  trace.filterMap fun step =>
    match step.1 with
    | .getLogs page => some page
    | _ => none

/-- The run offered the log to the verifier. -/
def Offered (trace : Trace (ScanAnswer Log T)) (log : Log) : Prop :=
  ∃ answer, ⟨.verify log, answer⟩ ∈ trace

/-- The run ended because some log yielded what was looked for. -/
def Found (trace : Trace (ScanAnswer Log T)) (out : Except EvmFault (Option T)) : Prop :=
  ∃ log found, ⟨.verify log, .ok (some found)⟩ ∈ trace ∧ out = .ok (some found)

variable {trace : Trace (ScanAnswer Log T)} {out : Except EvmFault (Option T)}

/-- A verifier's look at a log is one action with its answer as the outcome. -/
theorem yields_verify {log : Log} (h : Yields (verify log) trace out) :
    trace = [⟨.verify log, out⟩] := by
  obtain ⟨answer, later, ht, hl⟩ := h
  obtain ⟨hn, ho⟩ := yields_ofExcept.mp hl
  rw [ht, hn, ho]

/-- One log and the ones after it: the scan of the page ends there, or goes on. -/
theorem yields_takeEach_cons {log : Log} {rest : List Log}
    (h : Yields (takeEach verify (log :: rest)) trace out) :
    (trace = [⟨.verify log, out⟩] ∧ out ≠ .ok none) ∨
    ∃ later, trace = ⟨.verify log, .ok none⟩ :: later ∧
      Yields (takeEach verify rest) later out := by
  obtain ⟨hv, hn⟩ | ⟨first, later, ht, hv, hr⟩ := yields_takeEach_cons_iff.mp h
  · exact .inl ⟨yields_verify hv, hn⟩
  · refine .inr ⟨later, ?_, hr⟩
    rw [ht, yields_verify hv]
    rfl

/-- Handing logs over asks for no page; it offers every log unless one of them yields
something or throws. -/
theorem yields_takeEach {logs : List Log} (h : Yields (takeEach verify logs) trace out) :
    asked trace = [] ∧ (out = .ok none → ∀ log ∈ logs, Offered trace log) ∧
      (∀ found, out = .ok (some found) → Found trace out) := by
  induction logs generalizing trace with
  | nil =>
    obtain ⟨ht, ho⟩ := yields_ret.mp h
    rw [ht, ho]
    exact ⟨rfl, fun _ log hm => absurd hm (List.not_mem_nil), fun found hf => by cases hf⟩
  | cons log rest ih =>
    obtain ⟨ht, hn⟩ | ⟨later, ht, hl⟩ := yields_takeEach_cons h
    · rw [ht]
      refine ⟨rfl, fun ho => absurd ho hn, fun found ho => ⟨log, found, ?_, ho⟩⟩
      rw [ho]
      exact List.mem_singleton_self _
    · obtain ⟨ha, hall, hf⟩ := ih hl
      rw [ht]
      refine ⟨ha, fun ho other hm => ?_, fun found ho => ?_⟩
      · obtain rfl | hr := List.mem_cons.mp hm
        · exact ⟨_, List.mem_cons_self⟩
        · obtain ⟨answer, hw⟩ := hall ho other hr
          exact ⟨answer, List.mem_cons_of_mem _ hw⟩
      · obtain ⟨other, value, hw, hv⟩ := hf found ho
        exact ⟨other, value, List.mem_cons_of_mem _ hw, hv⟩

/-- What a scan from `start` to the tip has done when it ends. -/
structure Scanned (range : LogScanRange) (tip start : ℤ) (trace : Trace (ScanAnswer Log T))
    (out : Except EvmFault (Option T)) : Prop where
  /-- It asked for pages of the range, in order. -/
  first : FirstPages range.span tip start (asked trace)
  /-- A scan that found nothing asked for all of them. -/
  all : out = .ok none → AllPages range.span tip start (asked trace)
  /-- It then read every page and offered every log it was shown. -/
  offered : out = .ok none → ∀ page ∈ asked trace,
    ∃ logs, ⟨.getLogs page, .ok (some logs)⟩ ∈ trace ∧ ∀ log ∈ logs, Offered trace log
  /-- What it found, some log has yielded. -/
  found : ∀ found, out = .ok (some found) → Found trace out

/-- The pages of two traces follow each other. -/
theorem asked_append (first second : Trace (ScanAnswer Log T)) :
    asked (first ++ second) = asked first ++ asked second := List.filterMap_append

/-- A read of a page asks for that page. -/
theorem asked_getLogs (page : Page) (answer : ScanAnswer Log T (.getLogs page))
    (later : Trace (ScanAnswer Log T)) : asked (⟨.getLogs page, answer⟩ :: later) =
      page :: asked later := rfl

/-- A page whose logs were all offered, and the scan of the pages after it. -/
theorem Scanned.page {range : LogScanRange} {tip start : ℤ} (hs : start ≤ tip)
    {logs : List Log} {page after : Trace (ScanAnswer Log T)}
    (ht : trace = ⟨.getLogs ⟨start, min (start + range.span - 1) tip⟩, .ok (some logs)⟩ ::
      (page ++ after))
    (hp : Yields (takeEach verify logs) page (.ok none))
    (ha : Scanned range tip (start + range.span) after out) :
    Scanned range tip start trace out := by
  obtain ⟨hno, hall, -⟩ := yields_takeEach hp
  have hk : asked trace = ⟨start, min (start + range.span - 1) tip⟩ :: asked after := by
    rw [ht, asked_getLogs, asked_append, hno, List.nil_append]
  have hw : ∀ step, step ∈ after → step ∈ trace := by
    intro step hm
    rw [ht]
    exact List.mem_cons_of_mem _ (List.mem_append_right _ hm)
  constructor
  · rw [hk]
    exact ⟨hs, rfl, ha.first⟩
  · intro ho
    rw [hk]
    exact ⟨hs, rfl, ha.all ho⟩
  · intro ho other hm
    rw [hk] at hm
    obtain rfl | hm := List.mem_cons.mp hm
    · refine ⟨logs, by rw [ht]; exact List.mem_cons_self, fun log hl => ?_⟩
      obtain ⟨answer, hv⟩ := hall rfl log hl
      refine ⟨answer, ?_⟩
      rw [ht]
      exact List.mem_cons_of_mem _ (List.mem_append_left _ hv)
    · obtain ⟨shown, hg, hl⟩ := ha.offered ho other hm
      refine ⟨shown, hw _ hg, fun log hm => ?_⟩
      obtain ⟨answer, hv⟩ := hl log hm
      exact ⟨answer, hw _ hv⟩
  · intro found ho
    obtain ⟨log, value, hm, hv⟩ := ha.found found ho
    exact ⟨log, value, hw _ hm, hv⟩

end IntentSolver.EvmLogScan
