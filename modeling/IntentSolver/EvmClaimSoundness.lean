import IntentSolver.EvmClaimAnswers
import IntentSolver.EvmClaimHistory

/-!
# What a proven claim rests on

Nothing here is assumed about the node: it may lie, or show another chain from one answer to
the next. If the verifier hands out a preimage all the same, the answers it got agree with
each other about a transaction that executed the claim of this lock and of no other, and
the block it stands in was the same before and after. A trace is walked frame by frame
under a budget, so an answer of any size costs no more than the budget.
-/

namespace IntentSolver.EvmClaimSoundness

open BigEndian EvmPort Fallible ProgramTraces WorkerProgram
open EvmClaimEvidence hiding Field verifyEvmClaimEvidence
open EvmClaimAnswers
open EvmClaimHistory (sampleCalls sampleClaimTopic sampleContract sampleDigests sampleLock
  samplePreimage samplePreimageHash)

/-! ## The words of a claim -/

/-- Bytes that pass the check have the expected length. -/
theorem assertLength_ok {label : String} {bytes : Bytes} {expected : ℕ}
    (h : assertLength label bytes expected = .ok ()) : bytes.length = expected := by
  unfold assertLength at h
  split at h
  · cases h
  next hl => exact not_not.mp hl

/-- A word read as 32 bytes is itself and has that length. -/
theorem bytes32Word_ok {word result : Bytes} {label : String}
    (h : bytes32Word word label = .ok result) : result = word ∧ word.length = 32 := by
  obtain ⟨_, hl, hr⟩ := bind_ok h
  cases hr
  exact ⟨rfl, assertLength_ok hl⟩

/-- A number's word has 32 bytes and tells the number. -/
theorem uintWord_ok {number : ℤ} {label : String} {word : Bytes}
    (h : uintWord number label = .ok word) :
    0 ≤ number ∧ word.length = 32 ∧ value word = number.toNat := by
  unfold uintWord at h
  split at h
  · cases h
  next hneg =>
  split at h
  · cases h
  next hlarge =>
  cases h
  have hlt : number.toNat < 256 ^ 32 := by
    have he : (256 : ℕ) ^ 32 = 2 ^ 256 := by norm_num
    rw [he]
    zify
    omega
  exact ⟨by omega, length_padded (length_minimalBytes_le hlt), by
    rw [value_padded, value_minimalBytes]⟩

/-- An address's word has 32 bytes and tells the address. -/
theorem addressWord_ok {address word : Bytes} {label : String}
    (h : addressWord address label = .ok word) :
    address.length = 20 ∧ word.length = 32 ∧ value word = value address := by
  obtain ⟨_, hl, hr⟩ := bind_ok h
  cases hr
  have hlength := assertLength_ok hl
  exact ⟨hlength, length_padded (by omega), value_padded 32 address⟩

/-- One word stands for one number. -/
theorem uintWord_injective {first second : ℤ} {label other : String} {word : Bytes}
    (h1 : uintWord first label = .ok word) (h2 : uintWord second other = .ok word) :
    first = second := by
  have hf := uintWord_ok h1
  have hs := uintWord_ok h2
  omega

/-- One word stands for one address. -/
theorem addressWord_injective {first second : Bytes} {label other : String} {word : Bytes}
    (h1 : addressWord first label = .ok word) (h2 : addressWord second other = .ok word) :
    first = second := by
  have hf := addressWord_ok h1
  have hs := addressWord_ok h2
  exact eq_of_value_eq (by omega) (by omega)

variable {digests : Digests} {contract : Bytes} {lock : Erc20SwapLock}

/-- The words of a claim by the claim address itself. -/
theorem encodeClaim_ok {preimage call : Bytes}
    (h : encodeClaim digests preimage lock = .ok call) :
    ∃ amount token refund timelock, preimage.length = 32 ∧
      uintWord lock.amount "amount" = .ok amount ∧
      addressWord lock.tokenAddress "tokenAddress" = .ok token ∧
      addressWord lock.refundAddress "refundAddress" = .ok refund ∧
      uintWord lock.timelock "timelock" = .ok timelock ∧
      call = selectorFor digests CLAIM_SIGNATURE ++
        (preimage ++ amount ++ token ++ refund ++ timelock) := by
  obtain ⟨word, hp, h⟩ := bind_ok h
  obtain ⟨amount, ha, h⟩ := bind_ok h
  obtain ⟨token, ht, h⟩ := bind_ok h
  obtain ⟨refund, hr, h⟩ := bind_ok h
  obtain ⟨timelock, hl, h⟩ := bind_ok h
  obtain ⟨hw, h32⟩ := bytes32Word_ok hp
  cases h
  rw [hw]
  exact ⟨amount, token, refund, timelock, h32, ha, ht, hr, hl, rfl⟩

/-- The words of a claim by anybody. -/
theorem encodeClaimFor_ok {preimage call : Bytes}
    (h : encodeClaimFor digests preimage lock = .ok call) :
    ∃ amount token claim refund timelock,
      uintWord lock.amount "amount" = .ok amount ∧
      addressWord lock.tokenAddress "tokenAddress" = .ok token ∧
      addressWord lock.claimAddress "claimAddress" = .ok claim ∧
      addressWord lock.refundAddress "refundAddress" = .ok refund ∧
      uintWord lock.timelock "timelock" = .ok timelock ∧
      call = selectorFor digests CLAIM_FOR_SIGNATURE ++
        (preimage ++ amount ++ token ++ claim ++ refund ++ timelock) := by
  obtain ⟨amount, ha, h⟩ := bind_ok h
  obtain ⟨token, ht, h⟩ := bind_ok h
  obtain ⟨claim, hc, h⟩ := bind_ok h
  obtain ⟨refund, hr, h⟩ := bind_ok h
  obtain ⟨timelock, hl, h⟩ := bind_ok h
  cases h
  exact ⟨amount, token, claim, refund, timelock, ha, ht, hc, hr, hl, rfl⟩

/-- What a claim pays, to whom, and until when. -/
structure SameClaim (first second : Erc20SwapLock) : Prop where
  amount : first.amount = second.amount
  tokenAddress : first.tokenAddress = second.tokenAddress
  claimAddress : first.claimAddress = second.claimAddress
  refundAddress : first.refundAddress = second.refundAddress
  timelock : first.timelock = second.timelock

/-- The two kinds of claim differ in length. -/
theorem encodeClaim_ne_encodeClaimFor {other : Erc20SwapLock} {preimage second call : Bytes}
    (h1 : encodeClaim digests preimage lock = .ok call)
    (h2 : encodeClaimFor digests second other = .ok call) (h32 : second.length = 32) : False := by
  obtain ⟨amount, token, refund, timelock, hp, ha, ht, hr, hl, hc⟩ := encodeClaim_ok h1
  obtain ⟨amount', token', claim', refund', timelock', ha', ht', hc', hr', hl', hd⟩ :=
    encodeClaimFor_ok h2
  have hlen := congrArg List.length (hc.symm.trans hd)
  have h4 : (selectorFor digests CLAIM_SIGNATURE).length ≤ 4 := List.length_take_le _ _
  have e1 := (uintWord_ok ha).2.1
  have e2 := (addressWord_ok ht).2.1
  have e3 := (addressWord_ok hr).2.1
  have e4 := (uintWord_ok hl).2.1
  have f1 := (uintWord_ok ha').2.1
  have f2 := (addressWord_ok ht').2.1
  have f3 := (addressWord_ok hc').2.1
  have f4 := (addressWord_ok hr').2.1
  have f5 := (uintWord_ok hl').2.1
  simp only [List.length_append] at hlen
  omega

/-- A claim by the claim address is the claim of one lock only, up to that address. -/
theorem encodeClaim_injective {other : Erc20SwapLock} {preimage second call : Bytes}
    (h1 : encodeClaim digests preimage lock = .ok call)
    (h2 : encodeClaim digests second other = .ok call) :
    preimage = second ∧ lock.amount = other.amount ∧ lock.tokenAddress = other.tokenAddress ∧
      lock.refundAddress = other.refundAddress ∧ lock.timelock = other.timelock := by
  obtain ⟨amount, token, refund, timelock, hp, ha, ht, hr, hl, hc⟩ := encodeClaim_ok h1
  obtain ⟨amount', token', refund', timelock', hp', ha', ht', hr', hl', hd⟩ := encodeClaim_ok h2
  have hcall := List.append_cancel_left (hc.symm.trans hd)
  have e4 : timelock.length = timelock'.length := by
    rw [(uintWord_ok hl).2.1, (uintWord_ok hl').2.1]
  obtain ⟨hcall, htime⟩ := List.append_inj' hcall e4
  have e3 : refund.length = refund'.length := by
    rw [(addressWord_ok hr).2.1, (addressWord_ok hr').2.1]
  obtain ⟨hcall, hrefund⟩ := List.append_inj' hcall e3
  have e2 : token.length = token'.length := by
    rw [(addressWord_ok ht).2.1, (addressWord_ok ht').2.1]
  obtain ⟨hcall, htoken⟩ := List.append_inj' hcall e2
  have e1 : amount.length = amount'.length := by
    rw [(uintWord_ok ha).2.1, (uintWord_ok ha').2.1]
  obtain ⟨hpreimage, hamount⟩ := List.append_inj' hcall e1
  rw [← hamount] at ha'
  rw [← htoken] at ht'
  rw [← hrefund] at hr'
  rw [← htime] at hl'
  exact ⟨hpreimage, uintWord_injective ha ha', addressWord_injective ht ht',
    addressWord_injective hr hr', uintWord_injective hl hl'⟩

/-- A claim by anybody is the claim of one lock only. -/
theorem encodeClaimFor_injective {other : Erc20SwapLock} {preimage second call : Bytes}
    (h1 : encodeClaimFor digests preimage lock = .ok call)
    (h2 : encodeClaimFor digests second other = .ok call) :
    preimage = second ∧ SameClaim lock other := by
  obtain ⟨amount, token, claim, refund, timelock, ha, ht, hm, hr, hl, hc⟩ := encodeClaimFor_ok h1
  obtain ⟨amount', token', claim', refund', timelock', ha', ht', hm', hr', hl', hd⟩ :=
    encodeClaimFor_ok h2
  have hcall := List.append_cancel_left (hc.symm.trans hd)
  have e5 : timelock.length = timelock'.length := by
    rw [(uintWord_ok hl).2.1, (uintWord_ok hl').2.1]
  obtain ⟨hcall, htime⟩ := List.append_inj' hcall e5
  have e4 : refund.length = refund'.length := by
    rw [(addressWord_ok hr).2.1, (addressWord_ok hr').2.1]
  obtain ⟨hcall, hrefund⟩ := List.append_inj' hcall e4
  have e3 : claim.length = claim'.length := by
    rw [(addressWord_ok hm).2.1, (addressWord_ok hm').2.1]
  obtain ⟨hcall, hclaim⟩ := List.append_inj' hcall e3
  have e2 : token.length = token'.length := by
    rw [(addressWord_ok ht).2.1, (addressWord_ok ht').2.1]
  obtain ⟨hcall, htoken⟩ := List.append_inj' hcall e2
  have e1 : amount.length = amount'.length := by
    rw [(uintWord_ok ha).2.1, (uintWord_ok ha').2.1]
  obtain ⟨hpreimage, hamount⟩ := List.append_inj' hcall e1
  rw [← hamount] at ha'
  rw [← htoken] at ht'
  rw [← hclaim] at hm'
  rw [← hrefund] at hr'
  rw [← htime] at hl'
  exact ⟨hpreimage, uintWord_injective ha ha', addressWord_injective ht ht',
    addressWord_injective hm hm', addressWord_injective hr hr', uintWord_injective hl hl'⟩

/-- What both claims of a preimage are. -/
theorem claimCalls_ok {preimage : Bytes} {calls : ClaimCalls}
    (h : claimCalls digests lock preimage = .ok calls) :
    calls.preimage = preimage ∧ preimage.length = 32 ∧
      encodeClaim digests preimage lock = .ok calls.claimSelf ∧
      encodeClaimFor digests preimage lock = .ok calls.claimFor := by
  obtain ⟨claimSelf, hs, h⟩ := bind_ok h
  obtain ⟨claimFor, hf, h⟩ := bind_ok h
  cases h
  obtain ⟨amount, token, refund, timelock, h32, -⟩ := encodeClaim_ok hs
  exact ⟨rfl, h32, hs, hf⟩

/-- One input stands for one call. -/
theorem calldata_injective {input : Option Calldata} {first second : Bytes}
    (h1 : input = some (.bytes first)) (h2 : input = some (.bytes second)) : first = second := by
  rw [h1] at h2
  injection h2 with h2
  injection h2

/-- A call that is an exact claim of two locks is one claim. -/
theorem exactClaim_injective {other : Erc20SwapLock} {preimage second : Bytes}
    {calls others : ClaimCalls} {caller callee : Option Bytes} {input : Option Calldata}
    (h1 : claimCalls digests lock preimage = .ok calls)
    (h2 : claimCalls digests other second = .ok others)
    (e1 : ExactClaim contract lock calls caller callee input)
    (e2 : ExactClaim contract other others caller callee input) :
    preimage = second ∧ SameClaim lock other := by
  obtain ⟨-, h32, hself, hfor⟩ := claimCalls_ok h1
  obtain ⟨-, h32', hself', hfor'⟩ := claimCalls_ok h2
  obtain ⟨-, hi | ⟨hi, hc⟩⟩ := e1
  · obtain ⟨-, hi' | ⟨hi', -⟩⟩ := e2
    · rw [← calldata_injective hi hi'] at hfor'
      exact encodeClaimFor_injective hfor hfor'
    · rw [← calldata_injective hi hi'] at hself'
      exact (encodeClaim_ne_encodeClaimFor hself' hfor h32).elim
  · obtain ⟨-, hi' | ⟨hi', hc'⟩⟩ := e2
    · rw [← calldata_injective hi hi'] at hfor'
      exact (encodeClaim_ne_encodeClaimFor hself hfor' h32').elim
    · rw [← calldata_injective hi hi'] at hself'
      obtain ⟨hp, ha, ht, hr, hl⟩ := encodeClaim_injective hself hself'
      exact ⟨hp, ha, ht, Option.some.inj (hc.symm.trans hc'), hr, hl⟩

/-! ## The walk over a trace -/

section Walk

mutual

/-- The frames that took effect: neither they nor any frame above them failed. -/
def live : TraceFrame → List TraceFrame
  | .frame kind caller callee input error logs calls =>
    if error = .absent then .frame kind caller callee input error logs calls :: liveCalls calls
    else []

/-- Those among the frames called, where any are given. -/
def liveCalls : Optional (List TraceFrame) → List TraceFrame
  | .given frames => liveEach frames
  | .absent => []
  | .malformed => []

/-- Those among some frames. -/
def liveEach : List TraceFrame → List TraceFrame
  | [] => []
  | frame :: rest => live frame ++ liveEach rest

end

variable (digests contract lock)

/-- A frame that is a call with an exact claim of the lock. -/
structure IsClaim (calls : ClaimCalls) (frame : TraceFrame) : Prop where
  kind : frame.kind = some .call
  exact : ExactClaim contract lock calls frame.caller frame.callee frame.input

instance (calls : ClaimCalls) (frame : TraceFrame) :
    Decidable (IsClaim contract lock calls frame) :=
  decidable_of_iff (frame.kind = some .call ∧
      ExactClaim contract lock calls frame.caller frame.callee frame.input)
    ⟨fun h => ⟨h.1, h.2⟩, fun h => ⟨h.1, h.2⟩⟩

/-- What a frame hands on to the frames it called, where the walk gets that far. -/
def descent (calls : ClaimCalls) (seen : Visited) (frame : TraceFrame) :
    Option (Visited × List TraceFrame) :=
  match frame.calls, frame.error with
  | .given frames, .absent =>
    if MAX_TRACE_NODES < seen.nodes + 1 ∨ wellFormed frame = false then none
    else match countClaim digests contract lock calls frame seen.found with
      | .ok found => some (⟨seen.nodes + 1, found⟩, frames)
      | .error _ => none
  | _, _ => none

/-- The frames entered from one frame after another, until one of them throws. -/
def enteredEach (visit : Visited → TraceFrame → Except EvmFault Visited)
    (entered : Visited → TraceFrame → List TraceFrame) : Visited → List TraceFrame → List TraceFrame
  | _, [] => []
  | seen, frame :: rest =>
    match visit seen frame with
    | .ok next => entered seen frame ++ enteredEach visit entered next rest
    | .error _ => entered seen frame

/-- Every frame the walk enters, the one it throws on included. -/
def entered (calls : ClaimCalls) : ℕ → Visited → TraceFrame → List TraceFrame
  | 0, _, frame => [frame]
  | levels + 1, seen, frame =>
    match descent digests contract lock calls seen frame with
    | some (next, frames) =>
      frame :: enteredEach (visit digests contract lock calls levels) (entered calls levels)
        next frames
    | none => [frame]

variable {digests contract lock} {calls : ClaimCalls}

/-- A frame that is counted is an exact claim; any other leaves the count. -/
theorem countClaim_ok {frame : TraceFrame} {found after : ℕ}
    (h : countClaim digests contract lock calls frame found = .ok after) :
    (IsClaim contract lock calls frame ∧ after = found + 1 ∧
      ∃ logs, frame.logs = .given logs ∧ reveals digests contract lock calls logs = true) ∨
    (¬ IsClaim contract lock calls frame ∧ after = found) := by
  unfold countClaim at h
  split at h
  next hc =>
    left
    split at h
    next logs hl =>
      split at h
      next hr =>
        cases h
        exact ⟨⟨hc.1, hc.2⟩, rfl, logs, hl, hr⟩
      · cases h
    · cases h
  next hc =>
    cases h
    exact .inr ⟨fun hi => hc ⟨hi.kind, hi.exact⟩, rfl⟩

/-- What a frame's visit comes to where it does not throw: it failed, or it is counted and
the frames it called are visited in turn. -/
theorem visit_ok {levels : ℕ} {seen after : Visited} {frame : TraceFrame}
    (h : visit digests contract lock calls (levels + 1) seen frame = .ok after) :
    seen.nodes + 1 ≤ MAX_TRACE_NODES ∧
    ((frame.error = .text ∧ descent digests contract lock calls seen frame = none ∧
        after = ⟨seen.nodes + 1, seen.found⟩) ∨
      (frame.error = .absent ∧ ∃ found,
        countClaim digests contract lock calls frame seen.found = .ok found ∧
        ((frame.calls = .absent ∧ descent digests contract lock calls seen frame = none ∧
            after = ⟨seen.nodes + 1, found⟩) ∨
          ∃ frames, frame.calls = .given frames ∧
            descent digests contract lock calls seen frame =
              some (⟨seen.nodes + 1, found⟩, frames) ∧
            frames.foldlM (visit digests contract lock calls levels)
              ⟨seen.nodes + 1, found⟩ = .ok after))) := by
  unfold visit at h
  split at h
  · cases h
  next hnodes =>
  refine ⟨not_lt.mp hnodes, ?_⟩
  unfold descent
  cases hc : frame.calls with
  | malformed =>
    rw [hc] at h
    cases h
  | absent =>
    rw [hc] at h
    cases he : frame.error with
    | malformed =>
      rw [he] at h
      cases h
    | text =>
      rw [he] at h
      cases h
      exact .inl ⟨rfl, rfl, rfl⟩
    | absent =>
      rw [he] at h
      dsimp only at h
      split at h
      next hw =>
        obtain ⟨found, hf, h⟩ := bind_ok h
        cases h
        exact .inr ⟨rfl, found, hf, .inl ⟨rfl, rfl, rfl⟩⟩
      · cases h
  | given frames =>
    rw [hc] at h
    cases he : frame.error with
    | malformed =>
      rw [he] at h
      cases h
    | text =>
      rw [he] at h
      cases h
      exact .inl ⟨rfl, rfl, rfl⟩
    | absent =>
      rw [he] at h
      dsimp only at h
      split at h
      next hw =>
        obtain ⟨found, hf, h⟩ := bind_ok h
        refine .inr ⟨rfl, found, hf, .inr ⟨frames, rfl, ?_, h⟩⟩
        dsimp only
        rw [if_neg (by rw [hw]; simp [hnodes]), hf]
      · cases h

variable (contract lock) in
/-- How many of some frames are claims of the lock. -/
def claims (calls : ClaimCalls) (frames : List TraceFrame) : ℕ :=
  frames.countP fun frame => decide (IsClaim contract lock calls frame)

/-- The frame in front counts once when it claims the lock. -/
theorem claims_cons (frame : TraceFrame) (frames : List TraceFrame) :
    claims contract lock calls (frame :: frames) =
      claims contract lock calls frames + if IsClaim contract lock calls frame then 1 else 0 := by
  unfold claims
  rw [List.countP_cons]
  simp only [decide_eq_true_eq]

/-- The claims of two traces add up. -/
theorem claims_append (frames more : List TraceFrame) :
    claims contract lock calls (frames ++ more) =
      claims contract lock calls frames + claims contract lock calls more := by
  unfold claims
  exact List.countP_append

/-- Frames visited in turn add up, if each visit adds the claims of its own frame. -/
theorem found_each {visitOne : Visited → TraceFrame → Except EvmFault Visited}
    (hv : ∀ seen after frame, visitOne seen frame = .ok after →
      after.found = seen.found + claims contract lock calls (live frame))
    {frames : List TraceFrame} {seen after : Visited}
    (h : frames.foldlM visitOne seen = .ok after) :
    after.found = seen.found + claims contract lock calls (liveEach frames) := by
  induction frames generalizing seen with
  | nil =>
    cases h
    rfl
  | cons frame rest ih =>
    rw [List.foldlM_cons] at h
    obtain ⟨next, hn, h⟩ := bind_ok h
    have hfirst := hv seen next frame hn
    have hrest := ih h
    unfold liveEach
    rw [claims_append]
    omega

/-- A walk that does not throw counts the claims among the frames that took effect. -/
theorem found_visit {levels : ℕ} {seen after : Visited} {frame : TraceFrame}
    (h : visit digests contract lock calls levels seen frame = .ok after) :
    after.found = seen.found + claims contract lock calls (live frame) := by
  induction levels generalizing seen after frame with
  | zero =>
    unfold visit at h
    split at h
    · cases h
    · cases h
  | succ levels ih =>
    obtain ⟨-, ⟨he, -, ha⟩ | ⟨he, found, hf, hcalls⟩⟩ := visit_ok h
    · obtain ⟨kind, caller, callee, input, error, logs, below⟩ := frame
      have hlive : live (.frame kind caller callee input error logs below) = [] := by
        unfold live
        rw [if_neg (by rw [show error = .text from he]; decide)]
      rw [hlive, ha]
      rfl
    · have hbelow : after.found = found + claims contract lock calls (liveCalls frame.calls) := by
        obtain ⟨hc, -, ha⟩ | ⟨frames, hc, -, hr⟩ := hcalls
        · rw [hc, ha]
          rfl
        · rw [hc]
          exact found_each (fun _ _ _ => ih) hr
      have hown : found = seen.found + if IsClaim contract lock calls frame then 1 else 0 := by
        obtain ⟨hi, ha, -⟩ | ⟨hi, ha⟩ := countClaim_ok hf
        · rw [if_pos hi, ha]
        · rw [if_neg hi, ha]
          rfl
      have hlive : live frame = frame :: liveCalls frame.calls := by
        obtain ⟨kind, caller, callee, input, error, logs, below⟩ := frame
        rw [live, if_pos (show error = .absent from he)]
        rfl
      rw [hlive, claims_cons]
      omega

/-- The frames entered from one on stay within the budget, if each visit does. -/
theorem entered_each {visitOne : Visited → TraceFrame → Except EvmFault Visited}
    {enteredOne : Visited → TraceFrame → List TraceFrame}
    (hv : ∀ seen frame, seen.nodes ≤ MAX_TRACE_NODES →
      seen.nodes + (enteredOne seen frame).length ≤ MAX_TRACE_NODES + 1 ∧
      ∀ after, visitOne seen frame = .ok after →
        seen.nodes + (enteredOne seen frame).length = after.nodes ∧
          after.nodes ≤ MAX_TRACE_NODES)
    (frames : List TraceFrame) {seen : Visited} (hs : seen.nodes ≤ MAX_TRACE_NODES) :
    seen.nodes + (enteredEach visitOne enteredOne seen frames).length ≤ MAX_TRACE_NODES + 1 ∧
      ∀ after, frames.foldlM visitOne seen = .ok after →
        seen.nodes + (enteredEach visitOne enteredOne seen frames).length = after.nodes ∧
          after.nodes ≤ MAX_TRACE_NODES := by
  induction frames generalizing seen with
  | nil =>
    refine ⟨Nat.le_succ_of_le hs, fun after h => ?_⟩
    cases h
    exact ⟨rfl, hs⟩
  | cons frame rest ih =>
    obtain ⟨hbound, hok⟩ := hv seen frame hs
    unfold enteredEach
    rw [List.foldlM_cons]
    cases hone : visitOne seen frame with
    | error fault =>
      exact ⟨hbound, fun after h => by cases h⟩
    | ok next =>
      obtain ⟨hcount, hnext⟩ := hok next hone
      obtain ⟨hrest, hlast⟩ := ih hnext
      dsimp only
      rw [List.length_append, ok_bind]
      refine ⟨by omega, fun after h => ?_⟩
      obtain ⟨htotal, hend⟩ := hlast after h
      exact ⟨by omega, hend⟩

/-- The walk never enters more than one frame beyond its budget. -/
theorem entered_visit (levels : ℕ) (seen : Visited) (frame : TraceFrame)
    (hs : seen.nodes ≤ MAX_TRACE_NODES) :
    seen.nodes + (entered digests contract lock calls levels seen frame).length ≤
        MAX_TRACE_NODES + 1 ∧
      ∀ after, visit digests contract lock calls levels seen frame = .ok after →
        seen.nodes + (entered digests contract lock calls levels seen frame).length =
          after.nodes ∧ after.nodes ≤ MAX_TRACE_NODES := by
  induction levels generalizing seen frame with
  | zero =>
    refine ⟨Nat.succ_le_succ hs, fun after h => ?_⟩
    unfold visit at h
    split at h
    · cases h
    · cases h
  | succ levels ih =>
    unfold entered
    cases hd : descent digests contract lock calls seen frame with
    | none =>
      refine ⟨Nat.succ_le_succ hs, fun after h => ?_⟩
      obtain ⟨hroom, ⟨-, -, ha⟩ | ⟨-, found, -, ⟨-, -, ha⟩ | ⟨frames, -, hs', -⟩⟩⟩ := visit_ok h
      · rw [ha]
        exact ⟨rfl, hroom⟩
      · rw [ha]
        exact ⟨rfl, hroom⟩
      · rw [hd] at hs'
        cases hs'
    | some below =>
      obtain ⟨next, frames⟩ := below
      have hnext : next.nodes = seen.nodes + 1 ∧ seen.nodes + 1 ≤ MAX_TRACE_NODES := by
        unfold descent at hd
        split at hd
        next =>
          split at hd
          · cases hd
          next hroom =>
            split at hd
            · cases hd
              exact ⟨rfl, not_lt.mp fun hn => hroom (.inl hn)⟩
            · cases hd
        · cases hd
      obtain ⟨hbound, hok⟩ := entered_each ih frames (hnext.1 ▸ hnext.2)
      dsimp only
      rw [List.length_cons]
      refine ⟨by omega, fun after h => ?_⟩
      obtain ⟨-, ⟨-, hn, -⟩ | ⟨-, found, -, ⟨-, hn, -⟩ | ⟨called, -, hs', hr⟩⟩⟩ := visit_ok h
      · cases hd.symm.trans hn
      · cases hd.symm.trans hn
      · cases hd.symm.trans hs'
        obtain ⟨htotal, hend⟩ := hok after hr
        exact ⟨by omega, hend⟩

end Walk

/-! ## The answers behind a preimage -/

section Answers

variable {α : Type} {trace : Trace EvidenceOp.Ans} {policy : EvmClaimFinalityPolicy}

/-- A request that does not throw is one step. -/
theorem ask_ok {op : EvidenceOp} {answer : op.Answer}
    (h : Yields (ask op) trace (.ok answer)) : trace = [⟨op, .ok answer⟩] := by
  obtain ⟨told, later, ht, hy⟩ := yields_issue_bind.mp h
  obtain ⟨hl, ha⟩ := yields_ofExcept.mp hy
  rw [ht, hl, ← ha]

/-- A request and what follows it, where neither throws. -/
theorem ask_bind_ok {op : EvidenceOp} {rest : op.Answer → Prog α} {result : α}
    (h : Yields ((ask op).bind rest) trace (.ok result)) :
    ∃ answer later, trace = ⟨op, .ok answer⟩ :: later ∧
      Yields (rest answer) later (.ok result) := by
  obtain ⟨answer, first, later, hs, ha, hr⟩ := yields_bind_ok h
  rw [ask_ok ha] at hs
  exact ⟨answer, later, hs, hr⟩

/-- The answers of one verification, in the order they were asked for. -/
structure Answers where
  receipt : ReceiptRecord
  transaction : TransactionRecord
  /-- The trace is asked for only where the transaction itself is no exact claim. -/
  callTrace : Option TraceFrame
  header : HeaderRecord
  tip : Option ℤ
  current : HeaderRecord

/-- What was asked with the answers it got. -/
def Answers.steps (answers : Answers) (place : Candidate) : Trace EvidenceOp.Ans :=
  ⟨.getTransactionReceipt place.txHash, .ok answers.receipt⟩ ::
    ⟨.getTransactionByHash place.txHash, .ok answers.transaction⟩ ::
      List.append
        (answers.callTrace.toList.map fun frame => ⟨.traceTransaction place.txHash, .ok frame⟩)
        [⟨.getBlockByNumber place.blockNumber, .ok answers.header⟩,
          ⟨.blockNumber, .ok answers.tip⟩,
          ⟨.getBlockByNumber place.blockNumber, .ok answers.current⟩]

/-- The Claim event of a place, as an entry of a receipt has to show it. -/
def claimLog (digests : Digests) (contract : Bytes) (lock : Erc20SwapLock) (place : Candidate) :
    LogRecord where
  address := some contract
  topics := some [some (claimEventTopic digests), some lock.preimageHash]
  data := some place.preimage
  removed := false
  transactionHash := some place.txHash
  blockHash := some place.blockHash
  blockNumber := some place.blockNumber
  logIndex := some place.logIndex

/-- The transaction executed the claim: its own call is the claim, or exactly one frame
that took effect is, in a trace whose root is the transaction's call. -/
def Executed (contract : Bytes) (lock : Erc20SwapLock) (calls : ClaimCalls) (answers : Answers) :
    Prop :=
  (answers.callTrace = none ∧ ExactClaim contract lock calls answers.transaction.caller
      answers.transaction.callee answers.transaction.input) ∨
    ∃ root, answers.callTrace = some root ∧ root.kind = some .call ∧
      root.caller = answers.transaction.caller ∧ root.callee = answers.transaction.callee ∧
      root.input = answers.transaction.input ∧ claims contract lock calls (live root) = 1

/-- Answers that agree about a claim of the lock at this place. -/
structure Agreed (digests : Digests) (contract : Bytes) (lock : Erc20SwapLock)
    (policy : EvmClaimFinalityPolicy) (place : Candidate) (answers : Answers) : Prop where
  succeeded : answers.receipt.status = some 1
  hashes : answers.receipt.transactionHash = some place.txHash ∧
    answers.transaction.hash = some place.txHash
  blocks : answers.receipt.blockHash = some place.blockHash ∧
    answers.transaction.blockHash = some place.blockHash
  numbers : answers.receipt.blockNumber = some place.blockNumber ∧
    answers.transaction.blockNumber = some place.blockNumber
  sender : ∃ sender, answers.receipt.caller = some sender ∧
    answers.transaction.caller = some sender
  target : ∃ target, answers.receipt.callee = some target ∧
    answers.transaction.callee = some target
  event : ∃ logs, answers.receipt.logs = some logs ∧ claimLog digests contract lock place ∈ logs
  claim : ∃ calls, claimCalls digests lock place.preimage = .ok calls ∧
    Executed contract lock calls answers
  before : answers.header.hash = some place.blockHash ∧
    answers.header.number = some place.blockNumber
  after : answers.current.hash = some place.blockHash ∧
    answers.current.number = some place.blockNumber
  deep : ∃ height, answers.tip = some height ∧
    max 1 policy.minConfirmations ≤ (height : ℚ) - place.blockNumber + 1
  old : ∃ timestamp : ℤ, answers.header.timestamp = some timestamp ∧
    policy.minAgeSeconds ≤ policy.nowSeconds - timestamp

/-- A log that reveals a preimage is a Claim event of the lock with it. -/
theorem eventPreimage_ok {log : LogRecord} {preimage : Bytes}
    (h : eventPreimage digests contract lock log = some preimage) :
    log.removed = false ∧ log.address = some contract ∧
      log.topics = some [some (claimEventTopic digests), some lock.preimageHash] ∧
      log.data = some preimage ∧ digests.sha256 preimage = lock.preimageHash := by
  unfold eventPreimage at h
  split at h
  · cases h
  next hr =>
  unfold claimPreimage at h
  split at h
  next ha =>
    obtain ⟨hd, hs⟩ := Option.filter_eq_some_iff.mp h
    exact ⟨Bool.eq_false_iff.mpr hr, ha.1, ha.2, hd, of_decide_eq_true hs⟩
  · cases h

/-- The receipt's entry for a candidate is the whole event. -/
theorem sameLog_eq {place : Candidate} {entry : LogRecord}
    (h : SameLog digests contract lock place entry) :
    entry = claimLog digests contract lock place := by
  obtain ⟨he, ht, hb, hn, hi⟩ := h
  obtain ⟨hr, ha, htopics, hd, -⟩ := eventPreimage_ok he
  obtain ⟨address, topics, data, removed, txHash, blockHash, blockNumber, logIndex⟩ := entry
  dsimp only at hr ha htopics hd ht hb hn hi
  rw [hr, ha, htopics, hd, ht, hb, hn, hi]
  rfl

/-- The logs are read from a successful receipt of the candidate's own transaction. -/
theorem receiptLogs_ok {place : Candidate} {receipt : ReceiptRecord} {logs : List LogRecord}
    (h : receiptLogs digests contract lock place receipt = some logs) :
    (receipt.status = some 1 ∧ receipt.transactionHash = some place.txHash ∧
      receipt.blockHash = some place.blockHash ∧
      receipt.blockNumber = some place.blockNumber) ∧
    receipt.logs = some logs ∧ claimLog digests contract lock place ∈ logs := by
  unfold receiptLogs at h
  split at h
  next hp =>
    obtain ⟨hl, ha⟩ := Option.filter_eq_some_iff.mp h
    obtain ⟨entry, hm, he⟩ := List.any_eq_true.mp ha
    rw [sameLog_eq (of_decide_eq_true he)] at hm
    exact ⟨hp, hl, hm⟩
  · cases h

/-- The route comes from a transaction and a receipt that agree with the candidate. -/
theorem routeOf_ok {place : Candidate} {receipt : ReceiptRecord}
    {transaction : TransactionRecord} {route : Route}
    (h : routeOf place receipt transaction = some route) :
    transaction.callee = some route.transactionTo ∧ transaction.caller = some route.sender ∧
      transaction.hash = some place.txHash ∧ receipt.callee = some route.transactionTo ∧
      transaction.blockHash = some place.blockHash ∧
      transaction.blockNumber = some place.blockNumber ∧
      receipt.caller = some route.sender := by
  unfold routeOf at h
  obtain ⟨target, ht, h⟩ := Option.bind_eq_some_iff.mp h
  split at h
  next hp =>
    obtain ⟨sender, hs, h⟩ := Option.bind_eq_some_iff.mp h
    split at h
    next hr =>
      cases h
      exact ⟨ht, hs, hp.1, hp.2.1, hp.2.2.1, hp.2.2.2, hr⟩
    · cases h
  · cases h

/-- A trace is accepted only where its root is the transaction's call and one live frame of
it is a claim. -/
theorem judgeTrace_ok {calls : ClaimCalls} {route : Route} {input : Calldata}
    {logs : List LogRecord} {root : TraceFrame}
    (h : judgeTrace digests contract lock calls route input logs root = .ok true) :
    root.kind = some .call ∧ root.caller = some route.sender ∧
      root.callee = some route.transactionTo ∧ root.input = some input ∧
      claims contract lock calls (live root) = 1 := by
  unfold judgeTrace at h
  split at h
  · cases h
  next hroot =>
  split at h
  · cases h
  obtain ⟨seen, hv, h⟩ := bind_ok h
  split at h
  · cases h
  have hone : seen.found = 1 := of_decide_eq_true (Except.ok.inj h)
  have hfound := found_visit hv
  push Not at hroot
  obtain ⟨-, hk, hc, he, -, hi⟩ := hroot
  refine ⟨hk, hc, he, hi, ?_⟩
  rw [hone] at hfound
  change 1 = 0 + claims contract lock calls (live root) at hfound
  omega

/-- Where the claim counts as executed, the trace was asked for only if it was needed. -/
theorem claimExecuted_ok {calls : ClaimCalls} {place : Candidate} {route : Route}
    {input : Option Calldata} {logs : List LogRecord}
    (h : Yields (claimExecuted digests contract lock calls place.txHash route input logs) trace
      (.ok true)) :
    (trace = [] ∧
      ExactClaim contract lock calls (some route.sender) (some route.transactionTo) input) ∨
    ∃ root, trace = [⟨.traceTransaction place.txHash, .ok root⟩] ∧ root.kind = some .call ∧
      root.caller = some route.sender ∧ root.callee = some route.transactionTo ∧
      root.input = input ∧ claims contract lock calls (live root) = 1 := by
  unfold claimExecuted at h
  split at h
  next he => exact .inl ⟨(yields_ret.mp h).1, he⟩
  right
  unfold nestedClaimExecuted at h
  split at h
  · cases (yields_throw.mp h).2
  split at h
  · cases (yields_ret.mp h).2
  obtain ⟨root, first, later, hs, hroot, hj⟩ := yields_bind_ok h
  obtain ⟨hl, ho⟩ := yields_ofExcept.mp hj
  have hfirst : first = [⟨.traceTransaction place.txHash, .ok root⟩] := by
    obtain ⟨value, hv, hy⟩ | ⟨fault, asked, handled, -, -, hy⟩ := yields_tryCatch hroot
    · cases hv
      exact ask_ok hy
    · cases (yields_throw.mp hy).2
  obtain ⟨hk, hc, he, hi, hone⟩ := judgeTrace_ok ho.symm
  refine ⟨root, ?_, hk, hc, he, hi, hone⟩
  rw [hs, hl, hfirst, List.append_nil]

/-- The last three answers: the block, the tip and the block again. -/
theorem finalPreimage_answers {place : Candidate} {preimage : Bytes}
    (h : Yields (finalPreimage policy place) trace (.ok (some preimage))) :
    ∃ header tip current,
      trace = [⟨.getBlockByNumber place.blockNumber, .ok header⟩, ⟨.blockNumber, .ok tip⟩,
        ⟨.getBlockByNumber place.blockNumber, .ok current⟩] ∧
      OldEnough policy place header ∧ DeepEnough policy place tip ∧
      current.hash = some place.blockHash ∧ current.number = some place.blockNumber ∧
      preimage = place.preimage := by
  obtain ⟨header, later, ht, h⟩ := ask_bind_ok h
  split at h
  next ho =>
    obtain ⟨tip, last, hl, h⟩ := ask_bind_ok h
    split at h
    next hd =>
      obtain ⟨current, rest, hr, h⟩ := ask_bind_ok h
      split at h
      next hc =>
        obtain ⟨hn, hp⟩ := yields_ret.mp h
        cases hp
        exact ⟨header, tip, current, by rw [ht, hl, hr, hn], ho, hd, hc.1, hc.2, rfl⟩
      · cases (yields_ret.mp h).2
    · cases (yields_ret.mp h).2
  · cases (yields_ret.mp h).2

/-- A depth that passes is deep enough for the policy's own number. -/
theorem deepEnough_ok {place : Candidate} {tip : Option ℤ} (hp : ValidPolicy policy)
    (h : DeepEnough policy place tip) :
    ∃ height, tip = some height ∧
      max 1 policy.minConfirmations ≤ (height : ℚ) - place.blockNumber + 1 := by
  obtain ⟨height, ht, -, hd⟩ := h
  refine ⟨height, ht, ?_⟩
  have hwhole : policy.minConfirmations = (policy.minConfirmations.num : ℚ) :=
    (Rat.den_eq_one_iff _).mp hp.1.1.1 |>.symm
  have hfloor : ⌊max 1 policy.minConfirmations⌋ = max 1 policy.minConfirmations.num := by
    rw [hwhole]
    have hm : max (1 : ℚ) (policy.minConfirmations.num : ℚ) =
        ((max 1 policy.minConfirmations.num : ℤ) : ℚ) := by
      push_cast
      rfl
    rw [hm, Int.floor_intCast]
    simp
  rw [hfloor] at hd
  rw [hwhole]
  exact_mod_cast hd

/-- A preimage the verifier hands out is that of the candidate, and the answers it got agree
about the claim. -/
theorem verify_ok {log : LogRecord} {preimage : Bytes}
    (h : Yields (EvmClaimEvidence.verifyEvmClaimEvidence digests contract lock policy log) trace
      (.ok (some preimage))) :
    ∃ place answers, candidateOf digests contract lock log = some place ∧
      place.preimage = preimage ∧ digests.sha256 preimage = lock.preimageHash ∧
      trace = Answers.steps answers place ∧
      Agreed digests contract lock policy place answers := by
  unfold EvmClaimEvidence.verifyEvmClaimEvidence at h
  split at h
  · cases (yields_throw.mp h).2
  split at h
  · cases (yields_throw.mp h).2
  next hpolicy =>
  split at h
  · cases (yields_ret.mp h).2
  next place hplace =>
  have hsha : digests.sha256 place.preimage = lock.preimageHash := by
    obtain ⟨shown, hs, hrest⟩ := Option.bind_eq_some_iff.mp hplace
    obtain ⟨txHash, -, hrest⟩ := Option.bind_eq_some_iff.mp hrest
    obtain ⟨blockHash, -, hrest⟩ := Option.bind_eq_some_iff.mp hrest
    obtain ⟨blockNumber, -, hrest⟩ := Option.bind_eq_some_iff.mp hrest
    obtain ⟨logIndex, -, hrest⟩ := Option.bind_eq_some_iff.mp hrest
    cases hrest
    exact (eventPreimage_ok hs).2.2.2.2
  obtain ⟨receipt, later, ht, h⟩ := ask_bind_ok h
  split at h
  · cases (yields_ret.mp h).2
  next logs hlogs =>
  obtain ⟨transaction, rest, hl, h⟩ := ask_bind_ok h
  split at h
  · cases (yields_ret.mp h).2
  next route hroute =>
  obtain ⟨⟨hstatus, hhash, hblock, hnumber⟩, hreceipt, hevent⟩ := receiptLogs_ok hlogs
  obtain ⟨hto, hfrom, hhash', hto', hblock', hnumber', hfrom'⟩ := routeOf_ok hroute
  obtain ⟨fault, -, -, hn⟩ | ⟨calls, hcalls, h⟩ := yields_ofExcept_bind.mp h
  · cases hn
  obtain ⟨executed, asked, last, hr, hexecuted, h⟩ := yields_bind_ok h
  cases executed with
  | false => cases (yields_ret.mp h).2
  | true =>
  obtain ⟨header, tip, current, hlast, hold, hdeep, hcurrent, hcurrent', hpre⟩ :=
    finalPreimage_answers h
  obtain ⟨hheader, hheader', timestamp, hstamp, -, hage⟩ := hold
  obtain ⟨callTrace, hasked, hclaim⟩ : ∃ callTrace : Option TraceFrame,
      asked = callTrace.toList.map (fun frame => ⟨.traceTransaction place.txHash, .ok frame⟩) ∧
      Executed contract lock calls ⟨receipt, transaction, callTrace, header, tip, current⟩ := by
    obtain ⟨hnone, he⟩ | ⟨root, hone, hk, hc, he, hi, hcount⟩ := claimExecuted_ok hexecuted
    · exact ⟨none, hnone, .inl ⟨rfl, by rw [hfrom, hto]; exact he⟩⟩
    · exact ⟨some root, hone, .inr ⟨root, rfl, hk, hc.trans hfrom.symm, he.trans hto.symm, hi,
        hcount⟩⟩
  refine ⟨place, ⟨receipt, transaction, callTrace, header, tip, current⟩, hplace, hpre.symm,
    hpre ▸ hsha, ?_, ?_⟩
  · rw [ht, hl, hr, hlast, hasked]
    rfl
  · exact
      { succeeded := hstatus
        hashes := ⟨hhash, hhash'⟩
        blocks := ⟨hblock, hblock'⟩
        numbers := ⟨hnumber, hnumber'⟩
        sender := ⟨route.sender, hfrom', hfrom⟩
        target := ⟨route.transactionTo, hto', hto⟩
        event := ⟨logs, hreceipt, hevent⟩
        claim := ⟨calls, hcalls, hclaim⟩
        before := ⟨hheader, hheader'⟩
        after := ⟨hcurrent, hcurrent'⟩
        deep := deepEnough_ok (not_not.mp hpolicy) hdeep
        old := ⟨timestamp, hstamp, hage⟩ }

end Answers

/-! ## Soundness -/

/-- Whatever a node answers, and whatever the candidate is: a preimage that is handed out has
32 bytes and hashes to the lock's hash, and the answers agree about the claim it stands
for, which can be the claim of no other lock. And a trace of any size is given up after one
frame more than the budget. -/
theorem claim_evidence_is_sound (digests : Digests) (contract : Bytes) (lock : Erc20SwapLock)
    (policy : EvmClaimFinalityPolicy) :
    (∀ (candidate : Json) (trace : Trace EvidenceOp.Raw) (preimage : Bytes),
      Yields (verifyEvmClaimEvidence digests contract lock policy candidate) trace
        (.ok (some preimage)) →
      preimage.length = 32 ∧ digests.sha256 preimage = lock.preimageHash ∧
        ∃ place answers, candidateOf digests contract lock (readLog candidate) = some place ∧
          place.preimage = preimage ∧
          trace.map (readStep readAnswer) = Answers.steps answers place ∧
          Agreed digests contract lock policy place answers) ∧
    (∀ (other : Erc20SwapLock) (preimage second : Bytes) (calls others : ClaimCalls)
      (caller callee : Option Bytes) (input : Option Calldata),
      claimCalls digests lock preimage = .ok calls → claimCalls digests other second = .ok others →
      ExactClaim contract lock calls caller callee input →
      ExactClaim contract other others caller callee input →
      preimage = second ∧ SameClaim lock other) ∧
    ∀ (calls : ClaimCalls) (root : Json),
      (entered digests contract lock calls (MAX_TRACE_DEPTH + 1) ⟨0, 0⟩
        (readTrace root)).length ≤ 257 := by
  refine ⟨fun candidate trace preimage h => ?_, fun other preimage second calls others caller
    callee input h1 h2 e1 e2 => exactClaim_injective h1 h2 e1 e2, fun calls root => ?_⟩
  · obtain ⟨place, answers, hplace, hpre, hsha, htrace, hagreed⟩ := verify_ok (yields_reading _ h)
    obtain ⟨calls, hcalls, -⟩ := hagreed.claim
    have hlength := (claimCalls_ok hcalls).2.1
    rw [hpre] at hlength
    exact ⟨hlength, hsha, place, answers, hplace, hpre, htrace, hagreed⟩
  · have hbound : 0 + (entered digests contract lock calls (MAX_TRACE_DEPTH + 1) ⟨0, 0⟩
        (readTrace root)).length ≤ 256 + 1 :=
      (entered_visit (MAX_TRACE_DEPTH + 1) ⟨0, 0⟩ (readTrace root) (Nat.zero_le _)).1
    omega

/-! ### A claim shown in full -/

/-- Where the sampled claim stands. -/
def samplePlace : Candidate :=
  ⟨samplePreimage, List.replicate 32 9, List.replicate 32 0, 100, 0⟩

/-- Who sent its transaction. -/
def sampleSender : Bytes := List.replicate 20 5

/-- The event of the sampled claim, as a node writes it. -/
def sampleLogJson : Json := .object [
  ("address", .text (hex sampleContract)),
  ("topics", .array [.text (hex sampleClaimTopic), .text (hex samplePreimageHash)]),
  ("data", .text (hex samplePreimage)),
  ("transactionHash", .text (hex samplePlace.txHash)),
  ("blockHash", .text (hex samplePlace.blockHash)),
  ("blockNumber", .text "0x64"),
  ("logIndex", .text "0x0"),
  ("removed", .bool false)]

def sampleReceiptJson : Json := .object [
  ("status", .text "0x1"),
  ("transactionHash", .text (hex samplePlace.txHash)),
  ("blockHash", .text (hex samplePlace.blockHash)),
  ("blockNumber", .text "0x64"),
  ("from", .text (hex sampleSender)),
  ("to", .text (hex sampleContract)),
  ("logs", .array [sampleLogJson])]

def sampleTransactionJson : Json := .object [
  ("hash", .text (hex samplePlace.txHash)),
  ("blockHash", .text (hex samplePlace.blockHash)),
  ("blockNumber", .text "0x64"),
  ("from", .text (hex sampleSender)),
  ("to", .text (hex sampleContract)),
  ("input", .text (hex sampleCalls.claimFor))]

def sampleHeaderJson : Json := .object [
  ("hash", .text (hex samplePlace.blockHash)),
  ("number", .text "0x64"),
  ("timestamp", .text "0x4b0")]

/-- What the node answers. -/
def sampleReplies : (op : EvidenceOp) → EvidenceOp.Raw op
  | .blockNumber => .ok (.text "0x65")
  | .getLogs _ => .ok (.array [sampleLogJson])
  | .getTransactionReceipt _ => .ok sampleReceiptJson
  | .getTransactionByHash _ => .ok sampleTransactionJson
  | .traceTransaction _ => .error (.error "the method debug_traceTransaction does not exist")
  | .getBlockByNumber _ => .ok sampleHeaderJson

/-- What that reads as. -/
def sampleTold : (op : EvidenceOp) → op.Ans
  | .blockNumber => .ok (some 101)
  | .getLogs _ => .ok (some [claimLog sampleDigests sampleContract sampleLock samplePlace])
  | .getTransactionReceipt _ => .ok
      { status := some 1
        transactionHash := some samplePlace.txHash
        blockHash := some samplePlace.blockHash
        blockNumber := some 100
        logs := some [claimLog sampleDigests sampleContract sampleLock samplePlace]
        caller := some sampleSender
        callee := some sampleContract }
  | .getTransactionByHash _ => .ok
      { hash := some samplePlace.txHash
        blockHash := some samplePlace.blockHash
        blockNumber := some 100
        caller := some sampleSender
        callee := some sampleContract
        input := some (.bytes sampleCalls.claimFor) }
  | .traceTransaction _ => .error (.error "the method debug_traceTransaction does not exist")
  | .getBlockByNumber _ => .ok ⟨some samplePlace.blockHash, some 100, some 1200⟩

/-- The sample block number reads as a hundred. -/
theorem quantity_sample : quantity (some (.text "0x64")) = some 100 := by decide +kernel

/-- The sample log reads as the claim event of the sample lock. -/
theorem readLog_sample :
    readLog sampleLogJson = claimLog sampleDigests sampleContract sampleLock samplePlace := by
  have hindex : quantity (some (.text "0x0")) = some 0 := by decide +kernel
  have hcontract : sampleContract.length = 20 := rfl
  have htopic : sampleClaimTopic.length = 32 := rfl
  have hhash : samplePreimageHash.length = 32 := rfl
  have hpreimage : samplePreimage.length = 32 := rfl
  have htx : samplePlace.txHash.length = 32 := rfl
  have hblock : samplePlace.blockHash.length = 32 := rfl
  unfold readLog sampleLogJson
  simp [Json.field, List.lookup_cons, items, fixedHex_hex hcontract, fixedHex_hex htopic,
    fixedHex_hex hhash, fixedHex_hex hpreimage, fixedHex_hex htx, fixedHex_hex hblock,
    quantity_sample, hindex, claimLog]
  exact ⟨⟨rfl, rfl⟩, rfl, rfl, rfl⟩

/-- The sample replies read as the sample answers. -/
theorem read_sample : (fun op => readAnswer op (sampleReplies op)) = sampleTold := by
  have hcontract : sampleContract.length = 20 := rfl
  have hsender : sampleSender.length = 20 := rfl
  have htx : samplePlace.txHash.length = 32 := rfl
  have hblock : samplePlace.blockHash.length = 32 := rfl
  funext op
  cases op with
  | blockNumber =>
    have htip : quantity (some (.text "0x65")) = some 101 := by decide +kernel
    exact congrArg Except.ok htip
  | getLogs page => exact congrArg (fun log => Except.ok (some [log])) readLog_sample
  | getTransactionReceipt hash =>
    have hstatus : quantity (some (.text "0x1")) = some 1 := by decide +kernel
    change Except.ok (readReceipt sampleReceiptJson) = _
    unfold readReceipt sampleReceiptJson
    simp [Json.field, List.lookup_cons, items, fixedHex_hex hcontract, fixedHex_hex hsender,
      fixedHex_hex htx, fixedHex_hex hblock, quantity_sample, hstatus, readLog_sample, sampleTold]
  | getTransactionByHash hash =>
    change Except.ok (readTransaction sampleTransactionJson) = _
    unfold readTransaction sampleTransactionJson
    simp [Json.field, List.lookup_cons, fixedHex_hex hcontract, fixedHex_hex hsender,
      fixedHex_hex htx, fixedHex_hex hblock, quantity_sample, calldata_hex, sampleTold]
  | traceTransaction hash => rfl
  | getBlockByNumber number =>
    have hstamp : quantity (some (.text "0x4b0")) = some 1200 := by decide +kernel
    change Except.ok (readHeader sampleHeaderJson) = _
    unfold readHeader sampleHeaderJson
    simp [Json.field, List.lookup_cons, fixedHex_hex hblock, quantity_sample, hstamp,
      sampleTold]

/-- Two confirmations and a minute of age, a hundred seconds after the block. -/
def samplePolicy : EvmClaimFinalityPolicy := ⟨2, 60, 1300⟩

/-- The node shows the claim. -/
theorem verify_sample :
    (played sampleReplies (verifyEvmClaimEvidence sampleDigests sampleContract sampleLock
      samplePolicy sampleLogJson)).2 = .ok (some samplePreimage) := by
  unfold verifyEvmClaimEvidence
  rw [played_reading, read_sample, readLog_sample]
  have hsome : (played sampleTold (EvmClaimEvidence.verifyEvmClaimEvidence sampleDigests
      sampleContract sampleLock samplePolicy
      (claimLog sampleDigests sampleContract sampleLock samplePlace))).2.toOption =
      some (some samplePreimage) := by decide +kernel
  cases hout : (played sampleTold (EvmClaimEvidence.verifyEvmClaimEvidence sampleDigests
      sampleContract sampleLock samplePolicy
      (claimLog sampleDigests sampleContract sampleLock samplePlace))).2 with
  | ok found =>
    rw [hout] at hsome
    exact congrArg _ (Option.some.inj hsome)
  | error fault =>
    rw [hout] at hsome
    cases hsome

/-- The sample log is accepted, and its preimage hashes to the lock's hash. -/
theorem claim_evidence_is_sound_sample :
    ∃ trace, Yields (verifyEvmClaimEvidence sampleDigests sampleContract sampleLock samplePolicy
        sampleLogJson) trace (.ok (some samplePreimage)) ∧
      sampleDigests.sha256 samplePreimage = sampleLock.preimageHash := by
  have hrun := yields_played sampleReplies (verifyEvmClaimEvidence sampleDigests sampleContract
    sampleLock samplePolicy sampleLogJson)
  rw [verify_sample] at hrun
  exact ⟨_, hrun, ((claim_evidence_is_sound sampleDigests sampleContract sampleLock
    samplePolicy).1 sampleLogJson _ samplePreimage hrun).2.1⟩

end IntentSolver.EvmClaimSoundness
