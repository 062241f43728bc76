import IntentSolver.OnchainRefundVersions

/-!
# No confirmed refund is read as a foreign spend

A tick in `refunding_onchain` asks about every tracked version of its refund
and then reads the spend of the HTLC; a spend that is no claim, after every
version was called unknown, writes the row off. The chain is watched here: whose
transaction each spend was, and what a worker's node called unknown before.
While every version is tracked, and no transaction turns up as the spend that the
node has just called unknown, the one a row is written off for is not the
solver's.
-/

namespace IntentSolver.OnchainForeignSpends

open SwapStore WorkerProgram WorkerInterleaving
open OnchainSendStore OnchainSend OnchainSendWorld OnchainRefundVersions

/-- A refunding row written off for a foreign spend. -/
structure Verdict where
  /-- The transaction whose spend was read. -/
  spender : Option String
  /-- The solver's refunds broadcast by then. -/
  refunds : List String

/-- The world of one row, and what its nodes have said. -/
structure WatchedWorld where
  base : OnchainWorld
  /-- What each worker's node has called unknown since the worker read its row. -/
  unknown : ℕ → List String := fun _ => []
  /-- The transaction behind the spend each worker read last. -/
  spender : ℕ → Option String := fun _ => none
  /-- Every verdict. -/
  foreign : List Verdict := []

/-- An answer, with the transaction behind the spend it may show. -/
structure WatchedReply where
  base : OnchainReply := {}
  spender : String := ""

/-- What is noted of an action and its answer. -/
def observe (worker : ℕ) (spender : String) (world : WatchedWorld) :
    (op : OnchainOp) → op.Ans → WatchedWorld
  | .get, _ => { world with unknown := Function.update world.unknown worker [] }
  | .takeSlot _ _, true => { world with unknown := Function.update world.unknown worker [] }
  | .transactionOutcome txid, .ok .unknown =>
    { world with
      unknown := Function.update world.unknown worker (txid :: world.unknown worker) }
  | .findSpendWitness _ _, .ok (some _) =>
    { world with spender := Function.update world.spender worker (some spender) }
  | .update source _ columns _, true =>
    if writesOff source columns then
      { world with foreign := ⟨world.spender worker, world.base.refunds⟩ :: world.foreign }
    else world
  | _, _ => world

attribute [local simp] observe

/-- Workers on one row whose nodes are watched. -/
def watchedMachine (wallet : WalletCaps) (paymentHashFromPreimage : String → String) : Machine where
  Op := OnchainOp
  Ans := OnchainOp.Ans
  Err := Fault
  World := WatchedWorld
  Reply := WatchedReply
  Move := OnchainMove
  Job := OnchainJob paymentHashFromPreimage
  perform worker op reply world := (OnchainSendWorld.perform worker op reply.base world.base).map
    fun result =>
      (result.1, observe worker reply.spender { world with base := result.2 } op result.1)
  stir move world := (OnchainSendWorld.stir move world.base).map fun base =>
    { world with base := base }
  program := OnchainJob.program wallet

/-- The watched world right after the quote was inserted. -/
def watched (quote : OnchainQuoteRecord) (clock : ℕ) : WatchedWorld :=
  { base := quoted quote clock }

/-! ## The conditions -/

section Conditions

variable (wallet : WalletCaps) (hash : String → String) (process : ℕ)

/-- The actions run in one process, and a reclaim takes the slot with a row
that tracks every version broadcast so far. -/
def freshReclaims : Condition (watchedMachine wallet hash) := fun _ op _ world =>
  reclaimsFresh process world.base op = true

/-- The spend a tick reads is not of a transaction its node has just called unknown. -/
def agrees (worker : ℕ) (reply : WatchedReply) (world : WatchedWorld) : OnchainOp → Bool
  | .findSpendWitness _ _ => !world.base.slots process ||
    match reply.base.witness with
    | .ok (some _) => decide (reply.spender ∉ world.unknown worker)
    | _ => true
  | _ => true

/-- No refund confirms between a tick's reading of its outcome and of the spend. -/
def answersAgree : Condition (watchedMachine wallet hash) := fun worker op reply world =>
  agrees process worker reply world op = true

instance (worker : ℕ) (op : (watchedMachine wallet hash).Op)
    (reply : (watchedMachine wallet hash).Reply) (world : (watchedMachine wallet hash).World) :
    Decidable (freshReclaims wallet hash process worker op reply world) :=
  inferInstanceAs (Decidable (_ = true))

instance (worker : ℕ) (op : (watchedMachine wallet hash).Op)
    (reply : (watchedMachine wallet hash).Reply) (world : (watchedMachine wallet hash).World) :
    Decidable (answersAgree wallet hash process worker op reply world) :=
  inferInstanceAs (Decidable (_ = true))

end Conditions

/-! ## The invariant -/

/-- What a worker's notes say of its node: what was called unknown, and that a cleared spend
is of no version the worker knows. -/
structure Seen (note : VersionNote) (unknown : List String) (spender : Option String) : Prop where
  asked : note.unknown ⊆ unknown
  cleared : note.holds.isSome = true → note.cleared = true → ∃ txids txid,
    note.covers = some txids ∧ spender = some txid ∧ txid ∉ txids

/-- Every version is tracked, and no verdict is about one that was broadcast. -/
structure Watched (process : ℕ) (world : WatchedWorld) (notes : ℕ → VersionNote) : Prop where
  guarded : Guarded process world.base notes
  seen : ∀ worker, Seen (notes worker) (world.unknown worker) (world.spender worker)
  foreign : ∀ verdict ∈ world.foreign, ∀ txid ∈ verdict.refunds, verdict.spender ≠ some txid

section Step

variable {process worker : ℕ} {world : WatchedWorld} {base : OnchainWorld}
  {notes : ℕ → VersionNote} {reply : WatchedReply} {op : OnchainOp} {answer : op.Ans}

/-- Watching changes nothing of the world itself. -/
theorem observe_base (worker : ℕ) (spender : String) (world : WatchedWorld) (op : OnchainOp)
    (answer : op.Ans) :
    (observe worker spender world op answer).base = world.base := by
  unfold observe
  split
  case h_5 => split <;> rfl
  all_goals rfl

/-- What other workers have seen is not touched. -/
theorem observe_other (spender : String) (world : WatchedWorld) (op : OnchainOp)
    (answer : op.Ans) {other : ℕ} (ho : other ≠ worker) :
    (observe worker spender world op answer).unknown other = world.unknown other ∧
      (observe worker spender world op answer).spender other = world.spender other := by
  unfold observe
  split
  case h_5 => split <;> exact ⟨rfl, rfl⟩
  case h_4 => exact ⟨rfl, Function.update_of_ne ho _ _⟩
  case h_6 => exact ⟨rfl, rfl⟩
  all_goals exact ⟨Function.update_of_ne ho _ _, rfl⟩

/-- The answer to a reading of the spend is the reply's. -/
theorem perform_witness {txid : String} {vout : ℕ} {witness : List String}
    (hp : OnchainSendWorld.perform worker (.findSpendWitness txid vout) reply.base world.base =
      some (.ok (some witness), base)) : reply.base.witness = .ok (some witness) := by
  simp only [OnchainSendWorld.perform] at hp
  split at hp
  next read hw =>
    cases hp
    exact hw
  · cases hp

/-- A spend that is cleared under the slot is of no version the worker knows: each was called
unknown, and the spend is of none that was. -/
theorem seen_witness {txid : String} {vout : ℕ} {witness : List String}
    (h : Watched process world notes)
    (hc : agrees process worker reply world (.findSpendWitness txid vout) = true)
    (hw : reply.base.witness = .ok (some witness)) :
    Seen { notes worker with cleared := (notes worker).allUnknown } (world.unknown worker)
      (some reply.spender) := by
  refine ⟨(h.seen worker).asked, fun hh hcleared => ?_⟩
  dsimp only at hh hcleared
  obtain ⟨held, hheld⟩ := Option.isSome_iff_exists.mp hh
  have hslot := (h.guarded.held worker held hheld).2
  unfold VersionNote.allUnknown at hcleared
  split at hcleared
  next txids hcovers =>
    refine ⟨txids, reply.spender, hcovers, rfl, fun hm => ?_⟩
    have hunknown : reply.spender ∈ (notes worker).unknown :=
      of_decide_eq_true (List.all_eq_true.mp hcleared _ hm)
    simp only [agrees, hslot, hw, Bool.not_true, Bool.false_or, decide_eq_true_eq] at hc
    exact hc ((h.seen worker).asked hunknown)
  · cases hcleared

/-- What a worker has seen after its own action. -/
theorem seen_act (h : Watched process world notes)
    (hc : agrees process worker reply world op = true)
    (hp : OnchainSendWorld.perform worker op reply.base world.base = some (answer, base)) :
    Seen (learn (notes worker) op answer)
      ((observe worker reply.spender { world with base := base } op answer).unknown worker)
      ((observe worker reply.spender { world with base := base } op answer).spender worker) := by
  have hseen := h.seen worker
  cases op with
  | get =>
    refine ⟨?_, fun _ hcleared => by cases hcleared⟩
    exact List.nil_subset _
  | takeSlot taken read =>
    cases answer with
    | false => exact hseen
    | true =>
      refine ⟨?_, fun _ hcleared => by cases hcleared⟩
      exact List.nil_subset _
  | transactionOutcome txid =>
    obtain fault | outcome := answer
    · exact hseen
    · cases outcome with
      | confirmed => exact hseen
      | mempool => exact hseen
      | unknown =>
        refine ⟨?_, hseen.cleared⟩
        simp only [observe, Function.update_self, learn]
        exact List.cons_subset_cons _ hseen.asked
  | findSpendWitness txid vout =>
    obtain fault | witness := answer
    · exact hseen
    · cases witness with
      | none => exact hseen
      | some witness =>
        simp only [observe, Function.update_self, learn]
        exact seen_witness h hc (perform_witness hp)
  | update source target columns unrecorded =>
    have hl : learn (notes worker) (.update source target columns unrecorded) answer =
        notes worker := rfl
    rw [hl]
    cases answer with
    | false => exact hseen
    | true =>
      simp only [observe]
      split <;> exact hseen
  | patch columns =>
    have hl : (learn (notes worker) (.patch columns) answer).unknown = (notes worker).unknown ∧
        (learn (notes worker) (.patch columns) answer).holds = (notes worker).holds ∧
        (learn (notes worker) (.patch columns) answer).cleared = (notes worker).cleared ∧
        (learn (notes worker) (.patch columns) answer).covers = (notes worker).covers := by
      cases columns with
      | nil => exact ⟨rfl, rfl, rfl, rfl⟩
      | cons column columns =>
        cases column <;> cases answer <;> exact ⟨rfl, rfl, rfl, rfl⟩
    obtain ⟨hunknown, hholds, hcleared, hcovers⟩ := hl
    refine ⟨?_, fun hh hcl => ?_⟩
    · rw [hunknown]
      exact hseen.asked
    · rw [hholds] at hh
      rw [hcleared] at hcl
      rw [hcovers]
      exact hseen.cleared hh hcl
  | broadcastRefund txid => exact ⟨hseen.asked, fun _ hcleared => by cases hcleared⟩
  | freeSlot freed => exact ⟨hseen.asked, fun hh => by cases hh⟩
  | _ => exact hseen

/-- A verdict is given with the slot held, so no refund broadcast so far is unknown to the
worker that gives it. -/
theorem foreign_act (h : Watched process world notes) (hm : may (notes worker) op)
    (hp : OnchainSendWorld.perform worker op reply.base world.base = some (answer, base)) :
    ∀ verdict ∈ (observe worker reply.spender { world with base := base } op answer).foreign,
      ∀ txid ∈ verdict.refunds, verdict.spender ≠ some txid := by
  cases op with
  | update source target columns unrecorded =>
    cases answer with
    | false => exact h.foreign
    | true =>
      simp only [observe]
      split
      next hw =>
        intro verdict hv
        obtain rfl | hv := List.mem_cons.mp hv
        · obtain ⟨hholds, hcleared⟩ := hm.2.2 hw
          obtain ⟨txids, spender, hcovers, hspender, hout⟩ :=
            (h.seen worker).cleared hholds hcleared
          have hrefunds : base.refunds = world.base.refunds := perform_refunds rfl hp
          intro txid ht he
          have hsame : spender = txid := Option.some.inj (hspender.symm.trans he)
          have hknown := h.guarded.covers worker txids hholds hcovers (hrefunds ▸ ht)
          rw [hsame] at hout
          exact hout hknown
        · exact h.foreign verdict hv
      · exact h.foreign
  | takeSlot taken read => cases answer <;> exact h.foreign
  | transactionOutcome txid =>
    obtain fault | ⟨_ | _ | _⟩ := answer <;> exact h.foreign
  | findSpendWitness txid vout => obtain fault | ⟨_ | _⟩ := answer <;> exact h.foreign
  | _ => exact h.foreign

/-- Every licensed action keeps every version tracked and every verdict right. -/
theorem Watched.act (h : Watched process world notes) (hm : may (notes worker) op)
    (hf : reclaimsFresh process world.base op = true)
    (hc : agrees process worker reply world op = true)
    (hp : OnchainSendWorld.perform worker op reply.base world.base = some (answer, base)) :
    Watched process (observe worker reply.spender { world with base := base } op answer)
      (Function.update notes worker (learn (notes worker) op answer)) := by
  refine ⟨?_, fun other => ?_, foreign_act h hm hp⟩
  · rw [observe_base]
    exact h.guarded.act hm hf hp
  · by_cases ho : other = worker
    · rw [ho, Function.update_self]
      exact seen_act h hc hp
    · obtain ⟨hunknown, hspender⟩ :=
        observe_other reply.spender { world with base := base } op answer ho
      rw [Function.update_of_ne ho, hunknown, hspender]
      exact h.seen other

end Step

/-- Versions stay tracked in every run whose reclaims are fresh. -/
def versionProtocol (wallet : WalletCaps) (hash : String → String) (process : ℕ) :
    Protocol (watchedMachine wallet hash) (freshReclaims wallet hash process) where
  discipline := versionDiscipline
  inv world notes := Guarded process world.base notes
  forget _ _ _ h := h.forget
  act world notes worker op reply answer next h hm hc hp := by
    obtain ⟨⟨told, base⟩, hb, hn⟩ := Option.map_eq_some_iff.mp hp
    cases hn
    have hbase := observe_base worker (WatchedReply.spender reply)
      { (world : WatchedWorld) with base := base } op told
    dsimp only
    rw [hbase]
    exact h.act hm hc hb
  stir _ _ _ _ h hs := by
    cases hs
    exact ⟨h.tracked, h.held, h.unique, h.covers, h.written⟩
  jobs job := obeys_job wallet job _

/-- Verdicts are right in every such run in which a node's answers agree. -/
def verdictProtocol (wallet : WalletCaps) (hash : String → String) (process : ℕ) :
    Protocol (watchedMachine wallet hash) fun worker op reply world =>
      freshReclaims wallet hash process worker op reply world ∧
        answersAgree wallet hash process worker op reply world where
  discipline := versionDiscipline
  inv := Watched process
  forget world notes worker h := by
    refine ⟨h.guarded.forget, fun other => ?_, h.foreign⟩
    by_cases ho : other = worker
    · rw [ho, Function.update_self]
      exact ⟨List.nil_subset _, fun hh => by cases hh⟩
    · rw [Function.update_of_ne ho]
      exact h.seen other
  act world notes worker op reply answer next h hm hc hp := by
    obtain ⟨⟨told, base⟩, hb, hn⟩ := Option.map_eq_some_iff.mp hp
    cases hn
    exact h.act hm hc.1 hc.2 hb
  stir world notes move next h hs := by
    cases hs
    have hg := h.guarded
    exact ⟨⟨hg.tracked, hg.held, hg.unique, hg.covers, hg.written⟩, h.seen, h.foreign⟩
  jobs job := obeys_job wallet job _

/-- In one process, in every run in which each reclaim takes the slot with a
row that tracks what is out, every refund ever broadcast is tracked by the row
until the row records a confirmed one; and where, besides, the spend a tick reads is never
of a transaction its node has just called unknown, no refunding row is written off as
spent by somebody else for a refund the solver had broadcast. -/
theorem broadcast_versions_stay_tracked (wallet : WalletCaps) (hash : String → String)
    (process : ℕ) (quote : OnchainQuoteRecord) (clock : ℕ)
    (events : List (Event (watchedMachine wallet hash)))
    (final : Config (watchedMachine wallet hash))
    (hr : run (boot (watched quote clock)) events = some final)
    (hp : Permitted (freshReclaims wallet hash process) (boot (watched quote clock)) events) :
    (final.world.base.row.state ≠ .refunded →
      ∀ txid ∈ final.world.base.refunds, txid ∈ trackedRefundTxids final.world.base.row) ∧
    (Permitted (answersAgree wallet hash process) (boot (watched quote clock)) events →
      ∀ verdict ∈ final.world.foreign, ∀ txid ∈ verdict.refunds,
        verdict.spender ≠ some txid) := by
  have hstart : Guarded process (quoted quote clock) fun _ => versionDiscipline.fresh :=
    ⟨nofun, nofun, nofun, nofun, nofun⟩
  constructor
  · have hinv : (versionProtocol wallet hash process).inv (watched quote clock)
        fun _ => versionDiscipline.fresh := hstart
    obtain ⟨notes, h⟩ := (versionProtocol wallet hash process).inv_of_run hinv hp hr
    exact fun hs txid ht => h.tracked hs ht
  · intro ha
    have hwatched : Watched process (watched quote clock) fun _ => versionDiscipline.fresh :=
      ⟨hstart, fun _ => ⟨List.nil_subset _, nofun⟩, nofun⟩
    obtain ⟨notes, h⟩ := (verdictProtocol wallet hash process).inv_of_run hwatched (hp.and ha) hr
    exact h.foreign

/-! ## Samples -/

/-- An event whose nodes are watched; a spend it shows is of this transaction. -/
def watching (spender : String) : SampleEvent → Event (watchedMachine sampleWallet sampleHash)
  | .start worker job => .start worker job
  | .act worker reply => .act worker (⟨reply, spender⟩ : WatchedReply)
  | .crash worker => .crash worker
  | .stir move => .stir move

/-- The row's HTLC has matured unclaimed. -/
def maturedRun : List SampleEvent := sampleAdopt ++ sampleSign ++ samplePublish ++ sampleMature

/-- Worker 1 starts the operator's reclaim and reads the row. -/
def sampleReclaim : List SampleEvent :=
  .start 1 (OnchainJob.reclaimOnchainHtlc (sampleDeps 0)) :: sampleActs 1 2

/-- Past its reads the reclaim pushes a version of its own. -/
def sampleReclaimPush (txid : String) : List SampleEvent :=
  sampleActs 1 3 ++ [sampleAct 1 { refundTxid := .ok txid }] ++ sampleActs 1 4

/-- A tick's node knows no version of the refund, and shows a spend that is no claim. -/
def sampleVerdict : List SampleEvent :=
  sampleTick 0 0 1 :: sampleActs 0 3 ++ [sampleAct 0 { witness := .ok (some ["signature"]) }] ++
    sampleActs 0 2

/-- The reclaim reads its row; a tick broadcasts `r1` and frees the slot; the
reclaim then takes it and writes its list without `r1`. -/
def sampleLost : List SampleEvent :=
  maturedRun ++ sampleReclaim ++ sampleRefund "r1" ++ sampleReclaimPush "r2"

/-- `r1` is out and no longer tracked; once it confirms, the row is written off for it. And a
version that is tracked is read as a foreign spend when it confirms between a tick's two
reads. -/
theorem drops_a_broadcast_version :
    ((run (boot (watched sampleQuote 2000000000)) (sampleLost.map (watching ""))).map fun final =>
        (final.world.base.row.state, final.world.base.refunds,
          trackedRefundTxids final.world.base.row)) =
      some (.refundingOnchain, ["r2", "r1"], ["r2"]) ∧
    ((run (boot (watched sampleQuote 2000000000))
      (sampleLost.map (watching "") ++ sampleVerdict.map (watching "r1"))).map fun final =>
        (final.world.base.row.state, final.world.foreign.map fun verdict =>
          (verdict.spender, verdict.refunds))) =
      some (.stuck, [(some "r1", ["r2", "r1"])]) ∧
    ((run (boot (watched sampleQuote 2000000000))
      ((maturedRun ++ sampleRefund "r1").map (watching "") ++
        sampleVerdict.map (watching "r1"))).map fun final =>
        (final.world.base.row.state, trackedRefundTxids final.world.base.row,
          final.world.foreign.map fun verdict => (verdict.spender, verdict.refunds))) =
      some (.stuck, ["r1"], [(some "r1", ["r1"])]) := by
  refine ⟨?_, ?_, ?_⟩
  all_goals decide +kernel

/-- A reclaim with no tick in between, and then a tick that finds the HTLC spent by somebody
else. -/
def sampleTracked : List (Event (watchedMachine sampleWallet sampleHash)) :=
  (maturedRun ++ sampleReclaim ++ sampleReclaimPush "r2").map (watching "") ++
    sampleVerdict.map (watching "other")

/-- The reclaim's version is tracked, and the row is written off for another transaction. -/
theorem broadcast_versions_stay_tracked_sample :
    ∃ final, run (boot (watched sampleQuote 2000000000)) sampleTracked = some final ∧
      final.world.base.refunds = ["r2"] ∧ final.world.foreign ≠ [] ∧
      (final.world.base.row.state ≠ .refunded →
        ∀ txid ∈ final.world.base.refunds, txid ∈ trackedRefundTxids final.world.base.row) ∧
      ∀ verdict ∈ final.world.foreign, ∀ txid ∈ verdict.refunds,
        verdict.spender ≠ some txid := by
  obtain ⟨final, hr⟩ : ∃ final, run (boot (watched sampleQuote 2000000000)) sampleTracked =
      some final := Option.isSome_iff_exists.mp (by decide +kernel)
  have hout : (run (boot (watched sampleQuote 2000000000)) sampleTracked).map (fun final =>
      (final.world.base.refunds, final.world.foreign.length)) = some (["r2"], 1) := by
    decide +kernel
  have hp : Permitted (freshReclaims sampleWallet sampleHash 0)
      (boot (watched sampleQuote 2000000000)) sampleTracked := by decide +kernel
  have ha : Permitted (answersAgree sampleWallet sampleHash 0)
      (boot (watched sampleQuote 2000000000)) sampleTracked := by decide +kernel
  rw [hr] at hout
  obtain ⟨hrefunds, hlength⟩ := Prod.mk.inj (Option.some.inj hout)
  obtain ⟨htracked, hforeign⟩ :=
    broadcast_versions_stay_tracked sampleWallet sampleHash 0 sampleQuote 2000000000 _ final hr hp
  refine ⟨final, hr, hrefunds, fun hn => ?_, htracked, hforeign ha⟩
  rw [hn] at hlength
  cases hlength

end IntentSolver.OnchainForeignSpends
