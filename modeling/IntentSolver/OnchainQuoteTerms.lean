import IntentSolver.OnchainTerms
import IntentSolver.UnilateralLadder

/-!
# Deadlines of an onchain send quote

The client's claim of the L1 HTLC, the solver's answer on the Arkade lockup, the
client's Arkade refund and the client's solo rung have to open in this order. The
quote derives them from the requested confirmation depth and the deployment's
ladder; the funding gate later checks what is left of them. The clock is read once
for the acceptance and again, after the admission, for the ladder.
-/

namespace IntentSolver.OnchainQuoteTerms

open SwapStore SwapTimelocks UnilateralLadder OnchainTerms

/-- A number as the wire may carry it. -/
inductive WireNumber where
  | finite (value : ℚ)
  | infinite (negative : Bool)
  | nan

/-- Policy default for the confirmation depth. -/
def DEFAULT_MIN_CONFIRMATIONS : ℤ := 1

/-- Floor under the confirmation depth. -/
def MIN_MIN_CONFIRMATIONS : ℤ := 1

/-- Ceiling on the confirmation depth. -/
def MAX_MIN_CONFIRMATIONS : ℤ := 6

/-- Margin by which the refund deadlines are ordered. -/
def ONCHAIN_ORDER_MARGIN_SECONDS : ℤ := 2 * HOUR

/-- Bring a requested depth inside the policy range; a fraction truncates. -/
def clampMinConfirmations : Option WireNumber → ℤ
  | some (.finite requested) => max MIN_MIN_CONFIRMATIONS
      (min (requested.num.tdiv requested.den) MAX_MIN_CONFIRMATIONS)
  | _ => DEFAULT_MIN_CONFIRMATIONS

/-- The HTLC's own deadline. -/
def htlcLocktimeFor (minConfirmations now : ℤ) : ℤ :=
  now + minConfirmations * ONCHAIN_SECONDS_PER_BLOCK + 2 * ONCHAIN_CLAIM_MARGIN_SECONDS

/-- When the client's Arkade refund may open: the latest of three bounds. -/
def onchainRefundLocktimeFor (htlcLocktime unilateralClaimDelay now : ℤ) : ℤ :=
  let chainBound := htlcLocktime + 2 * ONCHAIN_ORDER_MARGIN_SECONDS
  let serverIndependentBound :=
    now + rawDelaySeconds unilateralClaimDelay + ONCHAIN_ORDER_MARGIN_SECONDS
  max (max chainBound serverIndependentBound) (arkadeClaimDeadline htlcLocktime)

/-- What the quote-time gate looks at. -/
structure OnchainSendAcceptanceParams where
  amountSats : ℤ
  /-- Smallest servable amount. -/
  minSats : ℤ
  /-- Largest servable amount. -/
  maxSats : ℤ
  unilateralClaimDelay : ℤ
  now : ℤ
  minConfirmations : Option WireNumber := none

/-- The deadlines an accepted quote carries. -/
structure OnchainSendAcceptance where
  refundLocktime : ℤ
  htlcLocktime : ℤ
  minConfirmations : ℤ
  lockupDeadline : ℤ

/-- The quote-time gate: a servable amount, and the deadlines the quote carries. -/
def evaluateOnchainSendAcceptance (params : OnchainSendAcceptanceParams) :
    Except String OnchainSendAcceptance :=
  if params.amountSats < params.minSats ∨ params.maxSats < params.amountSats then
    .error "amount_out_of_range"
  else
    let minConfirmations := clampMinConfirmations params.minConfirmations
    let htlcLocktime := htlcLocktimeFor minConfirmations params.now
    .ok ⟨onchainRefundLocktimeFor htlcLocktime params.unilateralClaimDelay params.now, htlcLocktime,
      minConfirmations, params.now + DEFAULT_ONCHAIN_LOCKUP_TIMEOUT⟩

/-- The part of `quote` that fixes deadlines: the acceptance on the deployment's claim
delay, then the ladder stretched to the claim deadline, on a clock read later. An
inner error is the refusal, an outer one the ladder's throw. -/
def quoteTerms (delays : UnilateralDelays) (amountSats minSats maxSats : ℤ)
    (minConfirmations : Option WireNumber) (acceptedAt ladderAt : ℤ) :
    Except Fault (Except String (OnchainSendAcceptance × UnilateralDelays)) :=
  match evaluateOnchainSendAcceptance
      ⟨amountSats, minSats, maxSats, delays.unilateralClaimDelay, acceptedAt, minConfirmations⟩ with
  | .error reason => .ok (.error reason)
  | .ok acceptance =>
    match unilateralLadderFor delays (arkadeClaimDeadline acceptance.htlcLocktime) ladderAt with
    | .error fault => .error fault
    | .ok ladder => .ok (.ok (acceptance, ladder))

/-- Every request ends up in the policy range. -/
theorem clampMinConfirmations_range (requested : Option WireNumber) :
    MIN_MIN_CONFIRMATIONS ≤ clampMinConfirmations requested ∧
      clampMinConfirmations requested ≤ MAX_MIN_CONFIRMATIONS := by
  unfold clampMinConfirmations MIN_MIN_CONFIRMATIONS MAX_MIN_CONFIRMATIONS
  split
  · omega
  · decide

/-- The refund opens after the claim deadline and after the unilateral claim. -/
theorem onchainRefundLocktimeFor_bounds (htlcLocktime delay now : ℤ) :
    arkadeClaimDeadline htlcLocktime ≤ onchainRefundLocktimeFor htlcLocktime delay now ∧
      now + rawDelaySeconds delay + ONCHAIN_ORDER_MARGIN_SECONDS ≤
        onchainRefundLocktimeFor htlcLocktime delay now := by
  unfold onchainRefundLocktimeFor
  dsimp only
  omega

/-- What an accepted quote carries. -/
theorem quoteTerms_ok {delays ladder : UnilateralDelays} {amountSats minSats maxSats : ℤ}
    {requested : Option WireNumber} {acceptedAt ladderAt : ℤ} {acceptance : OnchainSendAcceptance}
    (h : quoteTerms delays amountSats minSats maxSats requested acceptedAt ladderAt =
      .ok (.ok (acceptance, ladder))) :
    acceptance.minConfirmations = clampMinConfirmations requested ∧
    acceptance.refundLocktime = onchainRefundLocktimeFor acceptance.htlcLocktime
      delays.unilateralClaimDelay acceptedAt ∧
    unilateralLadderFor delays (arkadeClaimDeadline acceptance.htlcLocktime) ladderAt =
      .ok ladder := by
  unfold quoteTerms at h
  split at h
  · cases h
  next accepted ha =>
  split at h
  · cases h
  next stretched hl =>
  cases h
  refine ⟨?_, ?_, hl⟩
  all_goals
    unfold evaluateOnchainSendAcceptance at ha
    split at ha
    · cases ha
    · cases ha
      rfl

/-- The funding gate leaves the client its confirmations and its claim margin. -/
theorem evaluateOnchainSendFunding_ok {params : OnchainFunding}
    (h : evaluateOnchainSendFunding params = .ok ()) :
    params.minConfirmations * ONCHAIN_SECONDS_PER_BLOCK + ONCHAIN_CLAIM_MARGIN_SECONDS <
      params.htlcLocktime - params.now := by
  unfold evaluateOnchainSendFunding at h
  dsimp only at h
  split at h
  · cases h
  split at h
  · cases h
  · omega

/-- The deadlines of a quote chain up, whatever depth was asked for and whichever unit
the deployment runs on: the accepted depth is one the policy allows, the refund waits for
the claim deadline and for the unilateral claim, the solo rung covers the claim deadline, a
funded HTLC leaves the client its confirmations and claim margin, and the last claim that
can reach the chain leaves the solver its answer window before the refund and before the
solo rung of any lockup confirmed since the ladder was sized. -/
theorem onchain_deadlines_chain_up (delays ladder : UnilateralDelays) (unit : TimelockUnit)
    (amountSats minSats maxSats : ℤ) (requested : Option WireNumber) (acceptedAt ladderAt : ℤ)
    (acceptance : OnchainSendAcceptance) (hd : delays.WellFormed unit)
    (hq : quoteTerms delays amountSats minSats maxSats requested acceptedAt ladderAt =
      .ok (.ok (acceptance, ladder))) :
    (MIN_MIN_CONFIRMATIONS ≤ acceptance.minConfirmations ∧
      acceptance.minConfirmations ≤ MAX_MIN_CONFIRMATIONS) ∧
    arkadeClaimDeadline acceptance.htlcLocktime ≤ acceptance.refundLocktime ∧
    acceptedAt + rawDelaySeconds delays.unilateralClaimDelay + ONCHAIN_ORDER_MARGIN_SECONDS ≤
      acceptance.refundLocktime ∧
    refundWithoutReceiverDelayCovers ladder.unilateralRefundWithoutReceiverDelay
      (arkadeClaimDeadline acceptance.htlcLocktime) ladderAt = true ∧
    (∀ fundedAt, evaluateOnchainSendFunding ⟨acceptance.refundLocktime, acceptance.htlcLocktime,
        acceptance.minConfirmations, fundedAt⟩ = .ok () →
      acceptance.minConfirmations * ONCHAIN_SECONDS_PER_BLOCK + ONCHAIN_CLAIM_MARGIN_SECONDS ≤
        acceptance.htlcLocktime - fundedAt) ∧
    ∀ claimedAt ≤ latestClaimArrival acceptance.htlcLocktime,
      claimedAt + ARKADE_CLAIM_WINDOW_SECONDS ≤ acceptance.refundLocktime ∧
      ∀ confirmedAt ≥ ladderAt, claimedAt + ARKADE_CLAIM_WINDOW_SECONDS ≤
        confirmedAt + rawDelaySeconds ladder.unilateralRefundWithoutReceiverDelay := by
  obtain ⟨hdepth, hr, hl⟩ := quoteTerms_ok hq
  have hrange := clampMinConfirmations_range requested
  rw [← hdepth] at hrange
  obtain ⟨hclaim, hserver⟩ := onchainRefundLocktimeFor_bounds acceptance.htlcLocktime
    delays.unilateralClaimDelay acceptedAt
  rw [← hr] at hclaim hserver
  have hc : refundWithoutReceiverDelayCovers ladder.unilateralRefundWithoutReceiverDelay
      (arkadeClaimDeadline acceptance.htlcLocktime) ladderAt = true := by
    obtain ⟨stretched, hs, hok⟩ | ⟨⟨fault, hf⟩, -⟩ := unilateralLadderFor_cases delays unit hd
      (arkadeClaimDeadline acceptance.htlcLocktime) ladderAt
    · cases hl.symm.trans hs
      exact hok.covers
    · cases hl.symm.trans hf
  have hsolo := covers_iff.mp hc
  unfold arkadeClaimDeadline at hclaim hsolo
  refine ⟨hrange, hclaim, hserver, hc, fun fundedAt hf => ?_, fun claimedAt hm => ⟨?_, ?_⟩⟩
  · have hw := evaluateOnchainSendFunding_ok hf
    dsimp only at hw
    omega
  · omega
  · intro confirmedAt hconf
    omega

/-- A block deployment, a fractional depth and an admission that took ten seconds. -/
theorem onchain_deadlines_chain_up_sample :
    let acceptance : OnchainSendAcceptance := ⟨1700026400, 1700012000, 2, 1700000900⟩
    (UnilateralDelays.mk 20 20 28).WellFormed .blocks ∧
    quoteTerms ⟨20, 20, 28⟩ 50000 1000 1000000 (some (.finite (5 / 2))) 1700000000 1700000010 =
      .ok (.ok (acceptance, ⟨20, 20, 38⟩)) ∧
    refundWithoutReceiverDelayCovers 38 (arkadeClaimDeadline acceptance.htlcLocktime) 1700000010 =
      true := by
  intro acceptance
  have hd : (UnilateralDelays.mk 20 20 28).WellFormed .blocks := by
    rw [wellFormed_blocks_iff]
    decide
  have hc : clampMinConfirmations (some (.finite (5 / 2))) = 2 := by decide +kernel
  have ha : evaluateOnchainSendAcceptance
      ⟨50000, 1000, 1000000, 20, 1700000000, some (.finite (5 / 2))⟩ = .ok acceptance := by
    simp only [evaluateOnchainSendAcceptance, hc]
    rfl
  have hq : quoteTerms ⟨20, 20, 28⟩ 50000 1000 1000000 (some (.finite (5 / 2))) 1700000000
      1700000010 = .ok (.ok (acceptance, ⟨20, 20, 38⟩)) := by
    simp only [quoteTerms, ha]
    rfl
  exact ⟨hd, hq, (onchain_deadlines_chain_up _ _ .blocks _ _ _ _ _ _ acceptance hd hq).2.2.2.1⟩

end IntentSolver.OnchainQuoteTerms
