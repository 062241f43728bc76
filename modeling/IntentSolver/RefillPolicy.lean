import IntentSolver.Admission
import IntentSolver.EvmClaimAnswers
import IntentSolver.Fallible
import IntentSolver.JsNumber
import Mathlib.Data.List.Sort

/-!
# What the operator allows a rebalance to do

Automatic refills move float from Arkade to the backend's pools under one policy: how much a
transfer and a day may debit, what the fees may be, how far apart attempts are, and for each
pool the balance that triggers a refill and the one it refills to. A policy is read from
untrusted JSON and checked whole before it is in force.
-/

namespace IntentSolver.RefillPolicy

open Admission EvmClaimAnswers Fallible

/-- One pool's refill: triggered below the minimum, up to the target. -/
structure RefillTarget where
  minimumSats : ℤ
  targetSats : ℤ
  deriving DecidableEq

/-- The solver a refill may be bought from. -/
structure Counterparty where
  solverPubkey : String
  relays : List String
  deriving DecidableEq

/-- The policy in force. -/
structure RebalancePolicy where
  enabled : Bool
  reserveSats : ℤ
  maxDebitSats : ℤ
  dailyDebitSats : ℤ
  maxFeeSats : ℤ
  maxFeeBps : ℤ
  minTransferSats : ℤ
  cooldownSeconds : ℤ
  targets : List (String × RefillTarget)
  counterparty : Option Counterparty
  deriving DecidableEq

/-- What a service starts from when nothing was configured. -/
def disabledRebalancePolicy : RebalancePolicy where
  enabled := false
  reserveSats := 0
  maxDebitSats := 0
  dailyDebitSats := 0
  maxFeeSats := 0
  maxFeeBps := 0
  minTransferSats := 0
  cooldownSeconds := 300
  targets := []
  counterparty := none

/-! ## Reading a policy -/

/-- A whole number that JavaScript keeps exactly and that is not negative. -/
def isNonnegative (value : ℤ) : Bool := isSafeInteger value && decide (0 ≤ value)

/-- Such a number is a safe integer from zero on. -/
theorem isNonnegative_iff {value : ℤ} :
    isNonnegative value = true ↔ 0 ≤ value ∧ value ≤ MAX_SAFE_INTEGER := by
  unfold isNonnegative isSafeInteger MAX_SAFE_INTEGER
  rw [Bool.and_eq_true, decide_eq_true_iff, decide_eq_true_iff]
  omega

/-- The refusal of a number. -/
def integerFault (name : String) : String := name ++ " must be a nonnegative safe integer"

/-- A nonnegative safe integer. -/
def integer (value : Option Json) (name : String) : Except String ℤ :=
  match value with
  | some (.number number) =>
    if number.den = 1 ∧ isNonnegative number.num = true then .ok number.num
    else .error (integerFault name)
  | _ => .error (integerFault name)

/-- The fields of an object. -/
def object (value : Option Json) (name : String) : Except String (List (String × Json)) :=
  match value with
  | some (.object fields) => .ok fields
  | _ => .error (name ++ " must be an object")

/-- One entry of `targets`. -/
def refillTarget (entry : String × Json) : Except String (String × RefillTarget) := do
  if JsNumber.trim entry.1.toList = [] then
    .error "target pool identity must not be empty"
  else
    let fields ← object (some entry.2) ("targets." ++ entry.1)
    let minimumSats ← integer (fields.lookup "minimumSats")
      ("targets." ++ entry.1 ++ ".minimumSats")
    let targetSats ← integer (fields.lookup "targetSats")
      ("targets." ++ entry.1 ++ ".targetSats")
    if targetSats ≤ minimumSats then
      .error ("targets." ++ entry.1 ++ ": minimum must be below target")
    else .ok (entry.1, ⟨minimumSats, targetSats⟩)

/-- The parts of a URL that are looked at. -/
structure RelayUrl where
  protocol : String
  hostname : String
  username : String
  password : String
  hash : String

variable (parseUrl : String → Except String RelayUrl)

/-- One relay of the counterparty. -/
def relayUrl : Json → Except String String
  | .text relay => do
    let url ← parseUrl relay
    if (url.protocol ≠ "wss:" ∧ url.protocol ≠ "ws:") ∨ url.hostname = "" ∨ url.username ≠ "" ∨
        url.password ≠ "" ∨ url.hash ≠ "" then
      .error "relay must be a websocket URL without credentials or fragment"
    else .ok relay
  | _ => .error "relay must be a URL"

/-- So many hex digits and nothing else, in either case. -/
def isHex (length : ℕ) (text : String) : Bool :=
  decide (text.toList.length = length) &&
    text.toList.all fun char => (HexText.hexDigit char).isSome

/-- The counterparty, where there is one. -/
def counterpartyOf (value : Option Json) : Except String (Option Counterparty) :=
  match value with
  | none => .ok none
  | some value => do
    let fields ← object (some value) "counterparty"
    match fields.lookup "solverPubkey" with
    | some (.text solverPubkey) =>
      if isHex 64 solverPubkey then
        match fields.lookup "relays" with
        | some (.array (relay :: relays)) => do
          let relays ← (relay :: relays).mapM (relayUrl parseUrl)
          return some ⟨solverPubkey, relays⟩
        | _ => .error "counterparty requires relay URLs"
      else .error "counterparty solverPubkey must be a 64-character hex key"
    | _ => .error "counterparty solverPubkey must be a 64-character hex key"

/-- A policy, checked whole. -/
def validateRebalancePolicy (value : Option Json) : Except String RebalancePolicy := do
  let input ← object value "policy"
  match input.lookup "enabled" with
  | some (.bool enabled) => do
    let reserveSats ← integer (input.lookup "reserveSats") "reserveSats"
    let maxDebitSats ← integer (input.lookup "maxDebitSats") "maxDebitSats"
    let dailyDebitSats ← integer (input.lookup "dailyDebitSats") "dailyDebitSats"
    let maxFeeSats ← integer (input.lookup "maxFeeSats") "maxFeeSats"
    let maxFeeBps ← integer (input.lookup "maxFeeBps") "maxFeeBps"
    let minTransferSats ← integer (input.lookup "minTransferSats") "minTransferSats"
    let cooldownSeconds ← integer (input.lookup "cooldownSeconds") "cooldownSeconds"
    let entries ← object (input.lookup "targets") "targets"
    let targets ← entries.mapM refillTarget
    if 10000 < maxFeeBps then .error "maxFeeBps must not exceed 10000"
    else if enabled = true ∧ (maxDebitSats = 0 ∨ dailyDebitSats = 0 ∨ minTransferSats = 0) then
      .error "enabled policy requires positive debit limits and minimum transfer size"
    else
      let counterparty ← counterpartyOf parseUrl (input.lookup "counterparty")
      return {
        enabled, reserveSats, maxDebitSats, dailyDebitSats, maxFeeSats, maxFeeBps,
        minTransferSats, cooldownSeconds, targets, counterparty }
  | _ => .error "enabled must be a boolean"

/-- What every policy in force meets. -/
structure RebalancePolicy.Valid (policy : RebalancePolicy) : Prop where
  amounts : ∀ amount ∈ [policy.reserveSats, policy.maxDebitSats, policy.dailyDebitSats,
    policy.maxFeeSats, policy.maxFeeBps, policy.minTransferSats, policy.cooldownSeconds],
    0 ≤ amount ∧ amount ≤ MAX_SAFE_INTEGER
  feeBps : policy.maxFeeBps ≤ 10000
  /-- An enabled policy limits its debits and asks for more than nothing. -/
  positive : policy.enabled = true →
    0 < policy.maxDebitSats ∧ 0 < policy.dailyDebitSats ∧ 0 < policy.minTransferSats
  targets : ∀ entry ∈ policy.targets,
    0 ≤ entry.2.minimumSats ∧ entry.2.minimumSats < entry.2.targetSats

/-- An integer that is read is a safe one from zero on. -/
theorem integer_ok {value : Option Json} {name : String} {amount : ℤ}
    (h : integer value name = .ok amount) : 0 ≤ amount ∧ amount ≤ MAX_SAFE_INTEGER := by
  unfold integer at h
  split at h
  · split_ifs at h with hv
    cases h
    exact isNonnegative_iff.mp hv.2
  · cases h

/-- A target that is read lies above its minimum. -/
theorem refillTarget_ok {entry : String × Json} {target : String × RefillTarget}
    (h : refillTarget entry = .ok target) :
    0 ≤ target.2.minimumSats ∧ target.2.minimumSats < target.2.targetSats := by
  unfold refillTarget at h
  split_ifs at h with he
  obtain ⟨fields, -, h⟩ := bind_ok h
  obtain ⟨minimumSats, hm, h⟩ := bind_ok h
  obtain ⟨targetSats, ht, h⟩ := bind_ok h
  split_ifs at h with hlt
  cases h
  exact ⟨(integer_ok hm).1, by dsimp only; omega⟩

/-- What one entry of a list guarantees, a list read entry by entry guarantees of all. -/
theorem mapM_ok {α β : Type} {read : α → Except String β} {good : β → Prop}
    (hread : ∀ item value, read item = .ok value → good value) {items : List α}
    {values : List β} (h : items.mapM read = .ok values) : ∀ value ∈ values, good value := by
  induction items generalizing values with
  | nil =>
    cases h
    exact fun _ hm => absurd hm List.not_mem_nil
  | cons item items ih =>
    rw [List.mapM_cons] at h
    obtain ⟨head, hh, h⟩ := bind_ok h
    obtain ⟨tail, ht, h⟩ := bind_ok h
    cases h
    intro value hm
    obtain rfl | hm := List.mem_cons.mp hm
    · exact hread _ _ hh
    · exact ih ht value hm

/-- A policy that is accepted is valid. -/
theorem validateRebalancePolicy_valid {value : Option Json} {policy : RebalancePolicy}
    (h : validateRebalancePolicy parseUrl value = .ok policy) : policy.Valid := by
  unfold validateRebalancePolicy at h
  obtain ⟨input, -, h⟩ := bind_ok h
  split at h
  · obtain ⟨reserveSats, h1, h⟩ := bind_ok h
    obtain ⟨maxDebitSats, h2, h⟩ := bind_ok h
    obtain ⟨dailyDebitSats, h3, h⟩ := bind_ok h
    obtain ⟨maxFeeSats, h4, h⟩ := bind_ok h
    obtain ⟨maxFeeBps, h5, h⟩ := bind_ok h
    obtain ⟨minTransferSats, h6, h⟩ := bind_ok h
    obtain ⟨cooldownSeconds, h7, h⟩ := bind_ok h
    obtain ⟨entries, -, h⟩ := bind_ok h
    obtain ⟨targets, h8, h⟩ := bind_ok h
    split_ifs at h with hb hp
    obtain ⟨counterparty, -, h⟩ := bind_ok h
    cases h
    have hdebit := integer_ok h2
    have hdaily := integer_ok h3
    have hleast := integer_ok h6
    constructor
    · simp only [List.forall_mem_cons]
      exact ⟨integer_ok h1, hdebit, hdaily, integer_ok h4, integer_ok h5, hleast,
        integer_ok h7, fun _ hm => absurd hm List.not_mem_nil⟩
    · exact Int.not_lt.mp hb
    · intro he
      dsimp only at he ⊢
      rw [not_and] at hp
      have hzero := hp he
      omega
    · exact mapM_ok (fun _ _ => refillTarget_ok) h8
  · cases h

/-! ## Choosing what to refill -/

/-- A refill that is due. -/
structure Candidate where
  poolId : String
  netSats : ℤ
  balance : ℤ
  minimum : ℤ
  deriving DecidableEq

/-- A refill to be made. -/
structure RefillChoice where
  poolId : String
  netSats : ℤ
  deriving DecidableEq

/-- The refill of one pool, if its balance was read and asks for one. -/
def candidateOf (policy : RebalancePolicy) (balances pending : String → Option ℤ)
    (entry : String × RefillTarget) : Option Candidate :=
  match balances entry.1 with
  | none => none
  | some balance =>
    let credit := (pending entry.1).getD 0
    if entry.2.minimumSats ≤ 0 ∨ isSafeInteger balance = false ∨ balance < 0 ∨
        entry.2.minimumSats ≤ balance ∨ isSafeInteger credit = false ∨ credit < 0 then none
    else
      let net := entry.2.targetSats - balance - credit
      if net < policy.minTransferSats ∨ net ≤ 0 then none
      else some ⟨entry.1, net, balance, entry.2.minimumSats⟩

/-- The part of its trigger that a pool still holds is no larger; ties go by identity. -/
def Candidate.Before (a b : Candidate) : Prop :=
  a.balance * b.minimum < b.balance * a.minimum ∨
    (a.balance * b.minimum = b.balance * a.minimum ∧ a.poolId ≤ b.poolId)

instance (a b : Candidate) : Decidable (a.Before b) := inferInstanceAs (Decidable (_ ∨ _))

/-- The refills that are due. -/
def candidates (policy : RebalancePolicy) (balances pending : String → Option ℤ) :
    List Candidate :=
  policy.targets.filterMap (candidateOf policy balances pending)

/-- The refill to make now. -/
def selectRebalanceTarget (policy : RebalancePolicy) (balances pending : String → Option ℤ)
    (now lastAttempt : ℤ) : Option RefillChoice :=
  if policy.enabled = false ∨ isSafeInteger now = false ∨ isSafeInteger lastAttempt = false ∨
      now < lastAttempt then none
  else if 0 < lastAttempt ∧ now - lastAttempt < policy.cooldownSeconds then none
  else
    ((candidates policy balances pending).insertionSort Candidate.Before).head?.map
      fun selected => ⟨selected.poolId, selected.netSats⟩

/-- A pool is a candidate when it is short of its minimum by a transfer that is worth making. -/
theorem candidateOf_some {policy : RebalancePolicy} {balances pending : String → Option ℤ}
    {entry : String × RefillTarget} {candidate : Candidate}
    (h : candidateOf policy balances pending entry = some candidate) :
    candidate.poolId = entry.1 ∧ candidate.minimum = entry.2.minimumSats ∧
      balances entry.1 = some candidate.balance ∧ 0 ≤ candidate.balance ∧
      candidate.balance < candidate.minimum ∧ 0 ≤ (pending entry.1).getD 0 ∧
      candidate.netSats = entry.2.targetSats - candidate.balance - (pending entry.1).getD 0 ∧
      policy.minTransferSats ≤ candidate.netSats ∧ 0 < candidate.netSats := by
  unfold candidateOf at h
  split at h
  · cases h
  · rename_i balance hb
    dsimp only at h
    split_ifs at h with hc hn
    cases h
    dsimp only
    exact ⟨rfl, rfl, hb, by omega, by omega, by omega, rfl, by omega, by omega⟩

/-- A pool that is chosen was read below its trigger, is brought to its target at most, and is
chosen only when the last attempt has cooled down. -/
theorem selectRebalanceTarget_some {policy : RebalancePolicy}
    {balances pending : String → Option ℤ} {now lastAttempt : ℤ} {choice : RefillChoice}
    (h : selectRebalanceTarget policy balances pending now lastAttempt = some choice) :
    policy.enabled = true ∧ lastAttempt ≤ now ∧
      (lastAttempt ≤ 0 ∨ policy.cooldownSeconds ≤ now - lastAttempt) ∧
      ∃ target balance, (choice.poolId, target) ∈ policy.targets ∧
        balances choice.poolId = some balance ∧ balance < target.minimumSats ∧
        balance + choice.netSats ≤ target.targetSats ∧ 0 < choice.netSats := by
  unfold selectRebalanceTarget at h
  split_ifs at h with hoff hcool
  obtain ⟨candidate, hc, rfl⟩ := Option.map_eq_some_iff.mp h
  have hm := (List.mem_insertionSort Candidate.Before).mp (List.mem_of_mem_head? hc)
  obtain ⟨entry, he, hf⟩ := List.mem_filterMap.mp hm
  obtain ⟨hpool, hmin, hbalance, h0, hlow, hcredit, hnet, hleast, hpos⟩ := candidateOf_some hf
  have henabled : policy.enabled = true := by
    cases hpe : policy.enabled with
    | true => rfl
    | false => exact absurd (.inl hpe) hoff
  have hclock : lastAttempt ≤ now := by
    by_contra hlt
    exact hoff (.inr (.inr (.inr (Int.not_le.mp hlt))))
  dsimp only
  rw [hpool]
  exact ⟨henabled, hclock, by omega, entry.2, candidate.balance, he, hbalance, by omega,
    by omega, hpos⟩

/-! ## Fees -/

/-- What a transfer pays beyond what arrives, against the policy's two limits. -/
def checkRebalanceFees (policy : RebalancePolicy) (netSats debitSats : ℤ) : Except String Unit :=
  if isNonnegative netSats = false then .error (integerFault "netSats")
  else if isNonnegative debitSats = false then .error (integerFault "debitSats")
  else if isNonnegative policy.maxFeeSats = false then .error (integerFault "maxFeeSats")
  else if isNonnegative policy.maxFeeBps = false then .error (integerFault "maxFeeBps")
  else if netSats = 0 ∨ debitSats < netSats then
    .error "source debit must cover positive net credit"
  else if policy.maxFeeSats < debitSats - netSats ∨
      netSats * policy.maxFeeBps < (debitSats - netSats) * 10000 then
    .error "rebalance fees exceed policy limits"
  else .ok ()

/-- Fees that pass are within both limits. -/
theorem checkRebalanceFees_ok {policy : RebalancePolicy} {netSats debitSats : ℤ}
    (h : checkRebalanceFees policy netSats debitSats = .ok ()) :
    netSats ≤ debitSats ∧ debitSats - netSats ≤ policy.maxFeeSats ∧
      (debitSats - netSats) * 10000 ≤ netSats * policy.maxFeeBps := by
  unfold checkRebalanceFees at h
  split_ifs at h with h1 h2 h3 h4 h5 h6
  omega

end IntentSolver.RefillPolicy
