import IntentSolver.LightningSendWorld
import IntentSolver.ProgramTraces
import Mathlib.Order.Bounds.Basic
import Mathlib.Algebra.Order.Group.Int
import Mathlib.Algebra.Order.BigOperators.Group.List

/-!
# The deadline a payment is given

A provider that pays must still collect the lockup afterwards, so the payment must be over
before the outputs it will collect expire. The deadline looks at the latest-expiring outputs
that cover the funding, whatever their number and whatever they carry. What a claim takes is
chosen otherwise: no assets where the rest covers, none that expires soon, and sixteen at most.
-/

namespace IntentSolver.PayDeadline

open ArkadeLockup LightningSend LightningSendStore WorkerProgram ProgramTraces

/-! ## Lists of amounts -/

/-- One more of a falling list adds no more than its head. -/
theorem sum_take_succ_le {head : ℤ} {rest : List ℤ} (h : (head :: rest).Pairwise (· ≥ ·))
    (hn : 0 ≤ head) (count : ℕ) :
    (rest.take (count + 1)).sum ≤ head + (rest.take count).sum := by
  rw [List.take_add_one, List.sum_append]
  cases hnext : rest[count]? with
  | none =>
    simp only [Option.toList_none, List.sum_nil]
    omega
  | some next =>
    have hle : next ≤ head := List.rel_of_pairwise_cons h (List.mem_of_getElem? hnext)
    simp only [Option.toList_some, List.sum_singleton]
    omega

/-- The first of a falling list are worth at least as much as any as many of it. -/
theorem sum_le_sum_take {chosen all : List ℤ} (hs : chosen.Sublist all)
    (hfall : all.Pairwise (· ≥ ·)) (hn : ∀ amount ∈ all, 0 ≤ amount) {count : ℕ}
    (hl : chosen.length ≤ count) : chosen.sum ≤ (all.take count).sum := by
  induction hs generalizing count with
  | slnil => exact le_of_eq (by rw [List.take_nil])
  | cons head hs ih =>
    cases count with
    | zero =>
      rw [List.length_eq_zero_iff.mp (Nat.le_zero.mp hl)]
      exact le_refl _
    | succ count =>
      have hmore := ih (List.Pairwise.of_cons hfall)
        (fun amount hm => hn amount (List.mem_cons_of_mem _ hm)) hl
      have hstep := sum_take_succ_le hfall (hn head List.mem_cons_self) count
      rw [List.take_succ_cons, List.sum_cons]
      omega
  | cons_cons head hs ih =>
    cases count with
    | zero =>
      rw [List.length_cons] at hl
      omega
    | succ count =>
      have hmore := ih (List.Pairwise.of_cons hfall)
        (fun amount hm => hn amount (List.mem_cons_of_mem _ hm)) (Nat.le_of_succ_le_succ hl)
      rw [List.take_succ_cons, List.sum_cons, List.sum_cons]
      omega

/-! ## Worth of outputs -/

/-- No output is worth less than nothing. -/
def Worth (outputs : List FundedOutput) : Prop := ∀ output ∈ outputs, 0 ≤ output.value

/-- What is worth nothing less than nothing stays so without some of it. -/
theorem Worth.of_subset {part all : List FundedOutput} (h : Worth all) (hs : part ⊆ all) :
    Worth part := fun output ho => h output (hs ho)

/-- Outputs are worth something in all. -/
theorem Worth.totalValue_nonneg {outputs : List FundedOutput} (h : Worth outputs) :
    0 ≤ totalValue outputs := by
  refine List.sum_nonneg fun value hv => ?_
  obtain ⟨output, ho, rfl⟩ := List.mem_map.mp hv
  exact h output ho

/-- Some of the outputs are worth no more than all of them. -/
theorem Worth.totalValue_le {part all : List FundedOutput} (h : Worth all)
    (hs : part.Subperm all) : totalValue part ≤ totalValue all := by
  obtain ⟨same, hperm, hsub⟩ := hs
  have hsame : totalValue same = totalValue part := (hperm.map FundedOutput.value).sum_eq
  have hle : (same.map FundedOutput.value).sum ≤ (all.map FundedOutput.value).sum := by
    refine (hsub.map FundedOutput.value).sum_le_sum fun value hv => ?_
    obtain ⟨output, ho, rfl⟩ := List.mem_map.mp hv
    exact h output ho
  exact hsame ▸ hle

/-- A spend takes spendable outputs in the order they were offered. -/
theorem boundedSpendInputs_sublist (funded : List FundedOutput) (now : ℤ) :
    (boundedSpendInputs funded now).Sublist (funded.filter (spendableAt now)) := by
  unfold boundedSpendInputs
  dsimp only
  split
  · exact List.Sublist.refl _
  · have hsub := (List.filter_sublist (l := (funded.filter (spendableAt now)).zipIdx)
      (p := fun entry => decide (entry.2 ∈ largest (funded.filter (spendableAt now))))).map Prod.fst
    rwa [List.zipIdx_map_fst] at hsub

/-- Of the spendable outputs a spend takes the most valuable ones. -/
theorem Worth.boundedSpendInputs_greatest {funded chosen : List FundedOutput} {now : ℤ}
    (h : Worth funded) (hs : chosen.Subperm (funded.filter (spendableAt now)))
    (hl : chosen.length ≤ MAX_LOCKUP_SPEND_INPUTS) :
    totalValue chosen ≤ totalValue (boundedSpendInputs funded now) := by
  have hworth : Worth (funded.filter (spendableAt now)) :=
    h.of_subset List.filter_sublist.subset
  unfold boundedSpendInputs
  dsimp only
  split
  · exact hworth.totalValue_le hs
  · set usable := funded.filter (spendableAt now)
    let sorted := usable.zipIdx.insertionSort fun a b => b.1.value ≤ a.1.value
    let amounts := sorted.map fun entry => entry.1.value
    have hsorted : sorted.Perm usable.zipIdx := List.perm_insertionSort _ _
    have hall : amounts.Perm (usable.map FundedOutput.value) := by
      have hmap := hsorted.map fun entry => entry.1.value
      have hfst : (usable.zipIdx.map fun entry => entry.1.value) =
          usable.map FundedOutput.value := by
        conv_rhs => rw [← List.zipIdx_map_fst 0 usable, List.map_map]
        rfl
      rwa [hfst] at hmap
    -- What is taken is worth the first sixteen of the sorted amounts.
    have htaken : totalValue ((usable.zipIdx.filter fun entry =>
        decide (entry.2 ∈ largest usable)).map Prod.fst) =
          (amounts.take MAX_LOCKUP_SPEND_INPUTS).sum := by
      have hparts := ((largest_perm usable).map FundedOutput.value).sum_eq
      have hsplit : ((amounts.take MAX_LOCKUP_SPEND_INPUTS).sum +
          (amounts.drop MAX_LOCKUP_SPEND_INPUTS).sum) = (usable.map FundedOutput.value).sum := by
        rw [List.sum_take_add_sum_drop]
        exact hall.sum_eq
      have hbeyond : ((beyondLargest usable).map FundedOutput.value).sum =
          (amounts.drop MAX_LOCKUP_SPEND_INPUTS).sum := by
        unfold beyondLargest
        rw [List.map_map, List.map_drop]
        rfl
      rw [List.map_append, List.sum_append] at hparts
      unfold totalValue
      omega
    have hfall : amounts.Pairwise (· ≥ ·) := by
      have hpair := List.pairwise_insertionSort
        (fun a b : FundedOutput × ℕ => b.1.value ≤ a.1.value) usable.zipIdx
      exact List.pairwise_map.mpr hpair
    have hnonneg : ∀ amount ∈ amounts, 0 ≤ amount := by
      intro amount hm
      obtain ⟨output, ho, rfl⟩ := List.mem_map.mp (hall.mem_iff.mp hm)
      exact hworth output ho
    obtain ⟨same, hperm, hsub⟩ := hs
    obtain ⟨sorted', hperm', hsub'⟩ :=
      (hsub.map FundedOutput.value).subperm.trans hall.symm.subperm
    have hsame := hperm'.trans (hperm.map FundedOutput.value)
    have hlength : sorted'.length ≤ MAX_LOCKUP_SPEND_INPUTS := by
      rw [hsame.length_eq, List.length_map]
      exact hl
    have hle := sum_le_sum_take hsub' hfall hnonneg hlength
    rw [htaken]
    unfold totalValue
    rw [← hsame.sum_eq]
    exact hle

/-! ## What the deadline is -/

/-- The output does not expire before this. -/
def outlives (time : ℤ) (output : FundedOutput) : Bool :=
  match output.expiresAt with
  | none => true
  | some expiresAt => decide (time ≤ expiresAt)

/-- What outlives a moment outlives the moments before. -/
theorem outlives_anti {early late : ℤ} (hle : early ≤ late) {output : FundedOutput}
    (h : outlives late output = true) : outlives early output = true := by
  unfold outlives at h ⊢
  cases he : output.expiresAt with
  | none => rfl
  | some expiresAt =>
    simp only [he, decide_eq_true_eq] at h ⊢
    omega

/-- What expires no earlier outlives whatever the other does. -/
theorem outlives_of_expiresLater {first second : FundedOutput} {time : ℤ}
    (h : expiresLater first second = true) (ho : outlives time second = true) :
    outlives time first = true := by
  unfold expiresLater at h
  unfold outlives at ho ⊢
  cases hf : first.expiresAt with
  | none => rfl
  | some expiresAt =>
    cases hs : second.expiresAt with
    | none => simp [hf, hs] at h
    | some other =>
      simp only [hf, hs, decide_eq_true_eq] at h ho ⊢
      omega

/-- The order by expiry compares any two outputs. -/
theorem expiresLater_total (first second : FundedOutput) :
    expiresLater first second = true ∨ expiresLater second first = true := by
  unfold expiresLater
  cases first.expiresAt with
  | none => exact .inl rfl
  | some expiresAt =>
    cases second.expiresAt with
    | none => exact .inr rfl
    | some other =>
      simp only [decide_eq_true_eq]
      omega

/-- The order by expiry is transitive. -/
theorem expiresLater_trans {first second third : FundedOutput}
    (h : expiresLater first second = true) (h' : expiresLater second third = true) :
    expiresLater first third = true := by
  unfold expiresLater at h h' ⊢
  cases hf : first.expiresAt with
  | none => rfl
  | some expiresAt =>
    cases hs : second.expiresAt with
    | none => simp [hf, hs] at h
    | some other =>
      cases ht : third.expiresAt with
      | none => simp [hs, ht] at h'
      | some last =>
        simp only [hf, hs, ht, decide_eq_true_eq] at h h' ⊢
        omega

/-- The outputs in the order the loop takes them. -/
theorem pairwise_latest (outputs : List FundedOutput) :
    (outputs.insertionSort fun a b => expiresLater a b = true).Pairwise
      fun a b => expiresLater a b = true := by
  have : Std.Total fun a b : FundedOutput => expiresLater a b = true := ⟨expiresLater_total⟩
  have : IsTrans FundedOutput fun a b => expiresLater a b = true :=
    ⟨fun _ _ _ => expiresLater_trans⟩
  exact List.pairwise_insertionSort _ outputs

/-- One output more. -/
theorem totalValue_cons (output : FundedOutput) (rest : List FundedOutput) :
    totalValue (output :: rest) = output.value + totalValue rest := List.sum_cons

/-- The deadline lowered to the output's expiry, when it has one. -/
def capped (deadline : ℤ) (output : FundedOutput) : ℤ :=
  (output.expiresAt.map (min deadline)).getD deadline

/-- A lowered deadline is no later than it was. -/
theorem capped_le (deadline : ℤ) (output : FundedOutput) : capped deadline output ≤ deadline := by
  unfold capped
  cases output.expiresAt with
  | none => exact le_refl _
  | some expiresAt => exact min_le_left _ _

/-- A moment is within the lowered deadline exactly when it is within the deadline and the
output outlives it. -/
theorem le_capped_iff {time deadline : ℤ} {output : FundedOutput} :
    time ≤ capped deadline output ↔ time ≤ deadline ∧ outlives time output = true := by
  unfold capped outlives
  cases output.expiresAt with
  | none => simp
  | some expiresAt => simp

/-- One turn of the loop. -/
theorem coveredDeadline_cons (funded deadline covered : ℤ) (output : FundedOutput)
    (rest : List FundedOutput) :
    coveredDeadline funded (output :: rest) deadline covered =
      if funded ≤ covered then deadline
      else coveredDeadline funded rest (capped deadline output) (covered + output.value) := by
  rw [coveredDeadline, capped]
  cases output.expiresAt with
  | none => rfl
  | some expiresAt => rfl

/-- The loop only ever lowers the deadline. -/
theorem coveredDeadline_le (funded : ℤ) (outputs : List FundedOutput) (deadline covered : ℤ) :
    coveredDeadline funded outputs deadline covered ≤ deadline := by
  induction outputs generalizing deadline covered with
  | nil => exact le_refl _
  | cons output rest ih =>
    rw [coveredDeadline_cons]
    split
    · exact le_refl _
    · exact (ih _ _).trans (capped_le deadline output)

/-- What outlives the loop's deadline covers the funding. -/
theorem coveredDeadline_covers {funded : ℤ} {outputs : List FundedOutput} (h : Worth outputs)
    {deadline covered : ℤ} (hc : funded ≤ covered + totalValue outputs) :
    funded ≤ covered +
      totalValue (outputs.filter (outlives (coveredDeadline funded outputs deadline covered))) := by
  induction outputs generalizing deadline covered with
  | nil => exact hc
  | cons output rest ih =>
    rw [coveredDeadline_cons]
    split
    next hd =>
      have hsub := (List.filter_sublist (p := outlives deadline) (l := output :: rest)).subset
      have hn := (h.of_subset hsub).totalValue_nonneg
      omega
    next hd =>
      have hrest : Worth rest := h.of_subset (List.subset_cons_self _ _)
      have hout := (le_capped_iff.mp
        (coveredDeadline_le funded rest (capped deadline output) (covered + output.value))).2
      rw [List.filter_cons_of_pos hout, totalValue_cons, ← add_assoc]
      rw [totalValue_cons, ← add_assoc] at hc
      exact ih hrest hc

/-- No later moment has the funding covered by what outlives it. -/
theorem le_coveredDeadline {funded : ℤ} {outputs : List FundedOutput}
    (hp : outputs.Pairwise fun a b => expiresLater a b = true) {deadline covered time : ℤ}
    (ht : time ≤ deadline) (hc : funded ≤ covered + totalValue (outputs.filter (outlives time))) :
    time ≤ coveredDeadline funded outputs deadline covered := by
  induction outputs generalizing deadline covered with
  | nil => exact ht
  | cons output rest ih =>
    rw [coveredDeadline_cons]
    split
    · exact ht
    next hd =>
      -- Something outlives the moment, so the first output does.
      have hout : outlives time output = true := by
        by_contra hno
        have hnone : (output :: rest).filter (outlives time) = [] := by
          refine List.filter_eq_nil_iff.mpr fun other ho hother => ?_
          obtain rfl | ho := List.mem_cons.mp ho
          · exact hno hother
          · exact hno (outlives_of_expiresLater (List.rel_of_pairwise_cons hp ho) hother)
        have hzero : totalValue [] = 0 := rfl
        rw [hnone] at hc
        omega
      rw [List.filter_cons_of_pos hout, totalValue_cons, ← add_assoc] at hc
      exact ih (List.Pairwise.of_cons hp) (le_capped_iff.mpr ⟨ht, hout⟩) hc

/-- The deadline of funding held by these outputs. -/
def fundingDeadline (funded : ℤ) (outputs : List FundedOutput) (refundDeadline : ℤ) : ℤ :=
  coveredDeadline funded (outputs.insertionSort fun a b => expiresLater a b = true)
    refundDeadline 0

/-- It is the latest moment up to the refund deadline which outputs worth the funding outlive. -/
theorem fundingDeadline_greatest {funded : ℤ} {outputs : List FundedOutput} (h : Worth outputs)
    (hf : funded ≤ totalValue outputs) (refundDeadline : ℤ) :
    IsGreatest
      {time | time ≤ refundDeadline ∧ funded ≤ totalValue (outputs.filter (outlives time))}
      (fundingDeadline funded outputs refundDeadline) := by
  have hperm : (outputs.insertionSort fun a b => expiresLater a b = true).Perm outputs :=
    List.perm_insertionSort _ _
  have htotal : ∀ time, totalValue
      ((outputs.insertionSort fun a b => expiresLater a b = true).filter (outlives time)) =
        totalValue (outputs.filter (outlives time)) := by
    intro time
    exact ((hperm.filter (outlives time)).map FundedOutput.value).sum_eq
  constructor
  · refine ⟨coveredDeadline_le _ _ _ _, ?_⟩
    have hall : totalValue (outputs.insertionSort fun a b => expiresLater a b = true) =
        totalValue outputs := (hperm.map FundedOutput.value).sum_eq
    have hfunded : funded ≤
        0 + totalValue (outputs.insertionSort fun a b => expiresLater a b = true) := by
      rw [hall, Int.zero_add]
      exact hf
    have hcovers := @coveredDeadline_covers funded _ (h.of_subset hperm.subset) refundDeadline 0
      hfunded
    rw [htotal, Int.zero_add] at hcovers
    exact hcovers
  · intro time ht
    refine le_coveredDeadline (pairwise_latest outputs) ht.1 ?_
    rw [htotal, Int.zero_add]
    exact ht.2

/-- Further outputs never make the deadline earlier. -/
theorem fundingDeadline_mono {funded : ℤ} {outputs more : List FundedOutput}
    (hs : outputs.Subperm more) (h : Worth more) (hf : funded ≤ totalValue outputs)
    (refundDeadline : ℤ) :
    fundingDeadline funded outputs refundDeadline ≤ fundingDeadline funded more refundDeadline := by
  have hfew := fundingDeadline_greatest (h.of_subset hs.subset) hf refundDeadline
  have hmany := fundingDeadline_greatest h (hf.trans (h.totalValue_le hs)) refundDeadline
  refine hmany.2 ⟨hfew.1.1, hfew.1.2.trans ?_⟩
  exact (h.of_subset List.filter_sublist.subset).totalValue_le (hs.filter _)

/-! ## Runs -/

/-- A complete run of `payDeadline` that sees these outputs, by a clock that is no later than
this, and gives this deadline. -/
def Gives (deps : SendDeps) (row : SendSwapRow) (refundDeadline : ℤ)
    (outputs : List FundedOutput) (now deadline : ℤ) : Prop :=
  ∃ trace : Trace SendOp.Ans, Yields (payDeadline deps row refundDeadline) trace (.ok deadline) ∧
    ⟨.read .findLockups, .ok outputs⟩ ∈ trace ∧
    ∀ moment : ℤ, ⟨.now, moment⟩ ∈ trace → moment ≤ now

/-- A run answers the clock, or what the outputs it saw give. -/
theorem gives_cases {deps : SendDeps} {row : SendSwapRow} {refundDeadline now deadline : ℤ}
    {outputs : List FundedOutput} (h : Gives deps row refundDeadline outputs now deadline) :
    ((outputs = [] ∨ totalValue outputs < row.lockupValue.getD (totalValue outputs)) ∧
      deadline ≤ now) ∨
    ((outputs ≠ [] ∧ row.lockupValue.getD (totalValue outputs) ≤ totalValue outputs) ∧
      deadline = if deps.regtest then refundDeadline
        else fundingDeadline (row.lockupValue.getD (totalValue outputs)) outputs
          refundDeadline) := by
  obtain ⟨trace, hy, hread, hclock⟩ := h
  obtain ⟨seen, first, second, ht, hask, hy⟩ := yields_bind_ok hy
  have hfirst : first = [⟨.read .findLockups, .ok seen⟩] := by
    obtain ⟨answer, rest, hf, hr⟩ := hask
    obtain ⟨hn, ho⟩ := yields_ofExcept.mp hr
    rw [hf, hn, ho]
  rw [hfirst, List.singleton_append] at ht
  dsimp only at hy
  split at hy
  next hrefused =>
    obtain ⟨moment, hs, ho⟩ := yields_issue.mp hy
    cases ho
    rw [hs] at ht
    rw [ht] at hread hclock
    obtain hm | hm := List.mem_cons.mp hread
    · cases hm
      exact .inl ⟨by simpa using hrefused, hclock deadline (by simp)⟩
    · cases List.mem_singleton.mp hm
  next hheld =>
    have hs : second = [] ∧ deadline = if deps.regtest then refundDeadline
        else fundingDeadline (row.lockupValue.getD (totalValue seen)) seen refundDeadline := by
      cases hreg : deps.regtest with
      | true =>
        rw [hreg] at hy
        obtain ⟨hn, ho⟩ := yields_ret.mp hy
        cases ho
        exact ⟨hn, rfl⟩
      | false =>
        rw [hreg] at hy
        obtain ⟨hn, ho⟩ := yields_ret.mp hy
        cases ho
        exact ⟨hn, rfl⟩
    rw [hs.1] at ht
    rw [ht] at hread
    cases List.mem_singleton.mp hread
    exact .inr ⟨by simpa using hheld, hs.2⟩

/-- Off regtest, funding that is held gets its deadline. -/
theorem gives_funding {deps : SendDeps} (hnet : deps.regtest = false) {row : SendSwapRow}
    {funded : ℤ} (hrow : row.lockupValue = some funded) {outputs : List FundedOutput}
    (hne : outputs ≠ []) (hf : funded ≤ totalValue outputs) (refundDeadline now : ℤ) :
    Gives deps row refundDeadline outputs now
      (fundingDeadline funded outputs refundDeadline) := by
  have hheld : ¬ (outputs.isEmpty ∨ totalValue outputs < row.lockupValue.getD
      (totalValue outputs)) := by
    rw [hrow, Option.getD_some]
    simp [hne, hf]
  refine ⟨[⟨.read .findLockups, .ok outputs⟩], ⟨.ok outputs, [], rfl, ?_⟩, by simp, by simp⟩
  change Yields (if outputs.isEmpty ∨ totalValue outputs < row.lockupValue.getD
    (totalValue outputs) then _ else _) _ _
  rw [if_neg hheld, if_neg (by rw [hnet]; exact Bool.false_ne_true), hrow]
  exact ⟨rfl, rfl⟩

/-! ## What a claim collects -/

/-- A row adopted at funding: clean outputs worth exactly the amount, no more of them than one
spend takes. -/
structure Adopted (row : SendSwapRow) (adopted : List FundedOutput) : Prop where
  clean : ∀ output ∈ adopted, output.assets = []
  exact : totalValue adopted = row.amountSats
  few : adopted.length ≤ MAX_LOCKUP_SPEND_INPUTS
  recorded : row.lockupValue = some row.amountSats

/-- Two steps that end with `false` do not end with `true`. -/
theorem not_yields_true (first second : Prog Unit) {trace : Trace SendOp.Ans} :
    ¬ Yields (first.bind fun _ => second.bind fun _ => .ret false) trace (.ok true) := by
  intro h
  obtain ⟨done, before, after, ht, hfirst, hrest⟩ := yields_bind_ok h
  obtain ⟨done', before', after', ht', hsecond, hlast⟩ := yields_bind_ok hrest
  cases hlast.2

/-- A row that `whenQuoted` moves on is adopted with the clean outputs it saw. -/
theorem adopted_of_adoptQuoted {row : SendSwapRow} {lockups : List FundedOutput}
    {timedOut expired : Bool} {trace : Trace SendOp.Ans}
    (h : Yields (adoptQuoted row lockups timedOut expired) trace (.ok true)) :
    Adopted { row with lockupValue := some (totalValue (satsOutputs lockups)) }
      (satsOutputs lockups) := by
  have hclean : ∀ output ∈ satsOutputs lockups, output.assets = [] := by
    intro output ho
    exact List.isEmpty_iff.mp (List.mem_filter.mp ho).2
  have hrefuse : ∀ value reason, ¬ Yields (refuseQuoted value reason) trace (.ok true) :=
    fun value reason => not_yields_true _ _
  have hexpire : ∀ locked held, ¬ Yields (expireQuoted row locked held expired) trace
      (.ok true) := fun locked held => not_yields_true _ _
  unfold adoptQuoted at h
  dsimp only at h
  split at h
  · exact absurd h (hrefuse _ _)
  · split at h
    · exact absurd h (hrefuse _ _)
    next hfew =>
      split at h
      · exact absurd h (hrefuse _ _)
      · split at h
        next hexact =>
          refine ⟨hclean, hexact.1, ?_, by rw [hexact.1]⟩
          by_contra hmany
          exact hfew ⟨hexact.1, not_le.mp hmany⟩
        · split at h
          · exact absurd h (hexpire _ _)
          · cases h.2

/-- The batch the output sits in has not ended. -/
def unexpired (now : ℤ) (output : FundedOutput) : Bool :=
  match output.expiresAt with
  | none => true
  | some expiresAt => decide (now < expiresAt)

/-- What the lockup holds later: all that has not expired by then, and whatever was added. -/
structure HeldLater (outputs later : List FundedOutput) (now : ℤ) : Prop where
  keeps : (outputs.filter (unexpired now)).Subperm later
  worth : Worth later

/-- Whatever is added to the lockup, one claim well before the deadline collects the amount. -/
def Collectible (deps : SendDeps) (row : SendSwapRow) (refundDeadline : ℤ)
    (outputs : List FundedOutput) (now : ℤ) : Prop :=
  ∀ deadline, Gives deps row refundDeadline outputs now deadline → now < deadline →
    ∀ moment later, now ≤ moment → moment < deadline - LOCKUP_SPEND_EXPIRY_MARGIN →
      HeldLater outputs later moment →
      row.amountSats ≤
        totalValue (boundedSpendInputs (claimOutputs later row.amountSats) moment)

/-- Whenever outputs worth the amount outlive a moment, sixteen clean ones among them are. -/
def FewClean (amountSats : ℤ) (outputs : List FundedOutput) (refundDeadline now : ℤ) : Prop :=
  ∀ time ≤ refundDeadline, now + LOCKUP_SPEND_EXPIRY_MARGIN < time →
    amountSats ≤ totalValue (outputs.filter (outlives time)) →
      ∃ chosen : List FundedOutput,
        chosen.Sublist ((satsOutputs outputs).filter (outlives time)) ∧
        chosen.length ≤ MAX_LOCKUP_SPEND_INPUTS ∧ amountSats ≤ totalValue chosen

/-- What outlives the margin after a moment is spendable at it. -/
theorem spendableAt_eq_outlives (now : ℤ) (output : FundedOutput) :
    spendableAt now output = outlives (now + LOCKUP_SPEND_EXPIRY_MARGIN + 1) output := by
  unfold spendableAt outlives
  cases output.expiresAt with
  | none => rfl
  | some expiresAt =>
    refine decide_eq_decide.mpr ?_
    omega

/-- What is spendable has not expired. -/
theorem unexpired_of_spendableAt {now : ℤ} {output : FundedOutput}
    (h : spendableAt now output = true) : unexpired now output = true := by
  unfold spendableAt LOCKUP_SPEND_EXPIRY_MARGIN at h
  unfold unexpired
  cases he : output.expiresAt with
  | none => rfl
  | some expiresAt =>
    simp only [he, decide_eq_true_eq] at h ⊢
    omega

/-- Spendable clean outputs that cover the amount are what a claim is worth at least. -/
theorem le_claim_of_clean {amountSats now : ℤ} {later chosen : List FundedOutput}
    (hworth : Worth later) (hs : chosen.Subperm ((satsOutputs later).filter (spendableAt now)))
    (hl : chosen.length ≤ MAX_LOCKUP_SPEND_INPUTS) (ha : amountSats ≤ totalValue chosen) :
    amountSats ≤ totalValue (boundedSpendInputs (claimOutputs later amountSats) now) := by
  have hclean : Worth (satsOutputs later) := hworth.of_subset List.filter_sublist.subset
  have hall := hclean.totalValue_le (hs.trans List.filter_sublist.subperm)
  unfold claimOutputs
  rw [if_pos (ha.trans hall)]
  exact ha.trans (hclean.boundedSpendInputs_greatest hs hl)

/-- With a clean output of the amount that expires at once, a claim takes clean outputs only,
and only those that were there. -/
theorem claim_beside_trap {amountSats now : ℤ} {outputs : List FundedOutput} (hw : Worth outputs)
    (hn : 0 ≤ amountSats) :
    ∃ later, HeldLater outputs later now ∧
      (boundedSpendInputs (claimOutputs later amountSats) now).Sublist
        ((satsOutputs outputs).filter (spendableAt now)) := by
  let trap : FundedOutput := ⟨"", 0, amountSats, [], some (now + 1)⟩
  let here := outputs.filter (unexpired now)
  have hhere : Worth here := hw.of_subset List.filter_sublist.subset
  refine ⟨here ++ [trap], ⟨(List.sublist_append_left _ _).subperm, ?_⟩, ?_⟩
  · intro output ho
    obtain ho | ho := List.mem_append.mp ho
    · exact hhere output ho
    · rw [List.mem_singleton.mp ho]
      exact hn
  · have hclean : satsOutputs (here ++ [trap]) = satsOutputs here ++ [trap] := by
      unfold satsOutputs
      rw [List.filter_append]
      rfl
    have hcovers : amountSats ≤ totalValue (satsOutputs (here ++ [trap])) := by
      have hrest : 0 ≤ totalValue (satsOutputs here) :=
        (hhere.of_subset List.filter_sublist.subset).totalValue_nonneg
      have htrap : totalValue (satsOutputs here ++ [trap]) =
          totalValue (satsOutputs here) + amountSats := by
        unfold totalValue
        rw [List.map_append, List.sum_append]
        simp [trap]
      rw [hclean, htrap]
      omega
    have hspent : (satsOutputs here ++ [trap]).filter (spendableAt now) =
        (satsOutputs here).filter (spendableAt now) := by
      have htrap : spendableAt now trap = false := by
        unfold spendableAt LOCKUP_SPEND_EXPIRY_MARGIN
        simp only [trap, decide_eq_false_iff_not]
        omega
      rw [List.filter_append, List.filter_cons_of_neg (by rw [htrap]; exact Bool.false_ne_true),
        List.filter_nil, List.append_nil]
    unfold claimOutputs
    rw [if_pos hcovers, hclean]
    refine (boundedSpendInputs_sublist _ _).trans ?_
    rw [hspent]
    exact ((List.filter_sublist (l := outputs)).filter _).filter _

section Funded

variable {deps : SendDeps} {row : SendSwapRow} {adopted outputs : List FundedOutput}

/-- Adopted outputs that are still there hold the funding. -/
theorem Adopted.held (hrow : Adopted row adopted) (hkeeps : adopted.Subperm outputs)
    (hworth : Worth outputs) : row.amountSats ≤ totalValue outputs :=
  hrow.exact ▸ hworth.totalValue_le hkeeps

/-- Outputs that hold the funding are given the deadline of the funding. -/
theorem Adopted.deadline_eq (hrow : Adopted row adopted) (hkeeps : adopted.Subperm outputs)
    (hworth : Worth outputs) (hnet : deps.regtest = false) (hne : outputs ≠ [])
    {refundDeadline now deadline : ℤ}
    (h : Gives deps row refundDeadline outputs now deadline) :
    deadline = fundingDeadline row.amountSats outputs refundDeadline := by
  have hheld := hrow.held hkeeps hworth
  obtain ⟨hnone | hshort, -⟩ | ⟨-, hd⟩ := gives_cases h
  · exact absurd hnone hne
  · rw [hrow.recorded, Option.getD_some] at hshort
    omega
  · rw [hnet, hrow.recorded] at hd
    exact hd

/-- A deadline ahead of the clock is given to outputs. -/
theorem ne_nil_of_gives {refundDeadline now deadline : ℤ}
    (h : Gives deps row refundDeadline outputs now deadline) (ha : now < deadline) :
    outputs ≠ [] := by
  obtain ⟨-, hle⟩ | ⟨⟨hne, -⟩, -⟩ := gives_cases h
  · omega
  · exact hne

/-- Clean outputs that outlive the deadline are what every claim before it can take. -/
theorem Adopted.collectible_of_fewClean (hrow : Adopted row adopted)
    (hkeeps : adopted.Subperm outputs) (hworth : Worth outputs) (hnet : deps.regtest = false)
    {refundDeadline now : ℤ} (h : FewClean row.amountSats outputs refundDeadline now) :
    Collectible deps row refundDeadline outputs now := by
  intro deadline hgives hahead moment later hnow hmoment hlater
  have hd := hrow.deadline_eq hkeeps hworth hnet (ne_nil_of_gives hgives hahead) hgives
  have hgreatest := fundingDeadline_greatest hworth (hrow.held hkeeps hworth) refundDeadline
  rw [← hd] at hgreatest
  obtain ⟨chosen, hc, hl, hv⟩ := h deadline hgreatest.1.1 (by omega) hgreatest.1.2
  refine le_claim_of_clean hlater.worth ?_ hl hv
  -- What outlives the deadline is spendable now, so it is still there.
  have hspendable : ∀ output ∈ chosen, spendableAt moment output = true := by
    intro output ho
    rw [spendableAt_eq_outlives]
    exact outlives_anti (by omega) (List.mem_filter.mp (hc.subset ho)).2
  have hstill : chosen.Sublist (satsOutputs (outputs.filter (unexpired moment))) := by
    have hsub := (hc.trans List.filter_sublist).filter (unexpired moment)
    rw [List.filter_eq_self.mpr fun output ho => unexpired_of_spendableAt (hspendable output ho)]
      at hsub
    unfold satsOutputs at hsub ⊢
    rwa [List.filter_comm] at hsub
  have hsub := hstill.filter (spendableAt moment)
  rw [List.filter_eq_self.mpr hspendable] at hsub
  exact hsub.subperm.trans ((hlater.keeps.filter _).filter _)

/-- Where a claim always collects the amount, it does so beside the worst that can be added. -/
theorem Adopted.fewClean_of_collectible (hrow : Adopted row adopted)
    (hkeeps : adopted.Subperm outputs) (hworth : Worth outputs) (hnet : deps.regtest = false)
    {refundDeadline now : ℤ} (h : Collectible deps row refundDeadline outputs now) :
    FewClean row.amountSats outputs refundDeadline now := by
  intro time htime hnow hcovered
  have hheld := hrow.held hkeeps hworth
  have hpositive : 0 ≤ row.amountSats :=
    hrow.exact ▸ (hworth.of_subset hkeeps.subset).totalValue_nonneg
  by_cases hne : outputs = []
  · refine ⟨[], List.nil_sublist _, Nat.zero_le _, ?_⟩
    rw [hne] at hheld
    exact hheld
  · have hgreatest := fundingDeadline_greatest hworth hheld refundDeadline
    have hlast : time ≤ fundingDeadline row.amountSats outputs refundDeadline :=
      hgreatest.2 ⟨htime, hcovered⟩
    have hmargin : (0 : ℤ) ≤ LOCKUP_SPEND_EXPIRY_MARGIN := by decide
    -- The last moment at which what outlives `time` is what can be spent.
    let moment := time - LOCKUP_SPEND_EXPIRY_MARGIN - 1
    obtain ⟨later, hlater, hsub⟩ :=
      @claim_beside_trap row.amountSats moment outputs hworth hpositive
    have hclaim := h _ (gives_funding hnet hrow.recorded hne hheld refundDeadline now) (by omega)
      moment later (by omega) (by omega) hlater
    have hsame : spendableAt moment = outlives time := by
      funext output
      rw [spendableAt_eq_outlives]
      congr 1
      omega
    rw [hsame] at hsub
    exact ⟨_, hsub, boundedSpendInputs_length _ _, hclaim⟩

end Funded

/-- Off regtest the deadline of a funded row is no later than the refund deadline, and whatever
is added to the lockup never makes it earlier. One claim collects the amount until five minutes
before it, whatever else is added later, exactly when sixteen clean outputs always cover the
amount as the outputs counted for the deadline do. -/
theorem deadline_collectible_iff {deps : SendDeps} (hnet : deps.regtest = false)
    {row : SendSwapRow} {adopted outputs : List FundedOutput} (hrow : Adopted row adopted)
    (hkeeps : adopted.Subperm outputs) (hworth : Worth outputs) (refundDeadline now : ℤ) :
    (∀ deadline, Gives deps row refundDeadline outputs now deadline → now < deadline →
      deadline ≤ refundDeadline ∧
      ∀ more clock next, outputs.Subperm more → Worth more →
        Gives deps row refundDeadline more clock next → deadline ≤ next) ∧
    (Collectible deps row refundDeadline outputs now ↔
      FewClean row.amountSats outputs refundDeadline now) := by
  refine ⟨fun deadline hgives hahead => ?_, hrow.fewClean_of_collectible hkeeps hworth hnet,
    hrow.collectible_of_fewClean hkeeps hworth hnet⟩
  have hne := ne_nil_of_gives hgives hahead
  have hd := hrow.deadline_eq hkeeps hworth hnet hne hgives
  have hheld := hrow.held hkeeps hworth
  constructor
  · rw [hd]
    exact (fundingDeadline_greatest hworth hheld refundDeadline).1.1
  · intro more clock next hmore hworth' hgives'
    have hne' : more ≠ [] := by
      rintro rfl
      exact hne (List.subperm_nil.mp hmore)
    rw [hd, hrow.deadline_eq (hkeeps.trans hmore) hworth' hnet hne' hgives']
    exact fundingDeadline_mono hmore hworth' hheld refundDeadline

/-- Seventeen small outputs that expire late, beside the funding. -/
def sampleSpray : List FundedOutput :=
  (List.range 17).map fun vout => ⟨"spray", vout, 3000, [], some 2000090000⟩

/-- A clean funding of the sample amount that expires after two hours. -/
def sampleAdopted : List FundedOutput := [⟨"fund", 0, 50500, [], some 2000007200⟩]

/-- The sample row after its funding was adopted. -/
def sampleFunded : SendSwapRow :=
  { insertQuote LightningSendWorld.sampleQuote 2000000000 with
    state := .funded
    lockupValue := some 50500 }

/-- No sixteen of the sprayed outputs are worth the amount. -/
theorem sampleSpray_short {chosen : List FundedOutput} (h : chosen ⊆ sampleSpray)
    (hl : chosen.length ≤ MAX_LOCKUP_SPEND_INPUTS) : totalValue chosen ≤ 48000 := by
  have hvalue : ∀ value ∈ chosen.map FundedOutput.value, value ≤ 3000 := by
    intro value hv
    obtain ⟨output, ho, rfl⟩ := List.mem_map.mp hv
    obtain ⟨vout, -, rfl⟩ := List.mem_map.mp (h ho)
    exact le_refl _
  have hle := List.sum_le_card_nsmul _ 3000 hvalue
  rw [List.length_map, nsmul_eq_mul] at hle
  unfold MAX_LOCKUP_SPEND_INPUTS at hl
  unfold totalValue
  omega

/-- With small outputs sprayed at the lockup a payment may be given until the refund deadline,
although its claim then takes less than the amount. -/
theorem deadline_collectible_sample :
    ¬ Collectible LightningSendWorld.sampleDeps sampleFunded 2000086400
      (sampleAdopted ++ sampleSpray) 2000000000 := by
  have hrow : Adopted sampleFunded sampleAdopted := ⟨by simp [sampleAdopted], rfl, by decide, rfl⟩
  have hworth : Worth (sampleAdopted ++ sampleSpray) := by
    unfold Worth
    decide
  intro h
  have hfew := (deadline_collectible_iff rfl hrow (List.sublist_append_left _ _).subperm hworth
    2000086400 2000000000).2.mp h
  obtain ⟨chosen, hc, hl, hv⟩ := hfew 2000086400 (le_refl _) (by decide) (by decide +kernel)
  have hlate : (satsOutputs (sampleAdopted ++ sampleSpray)).filter (outlives 2000086400) =
      sampleSpray := by decide +kernel
  have hshort := sampleSpray_short (hlate ▸ hc.subset) hl
  have hamount : sampleFunded.amountSats = 50500 := rfl
  omega

end IntentSolver.PayDeadline
