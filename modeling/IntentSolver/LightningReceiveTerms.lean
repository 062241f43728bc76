import IntentSolver.SwapTimelocks

/-!
# Terms of a Lightning receive: the CLTV an invoice asks and the gate it meets

The final CLTV of a hold invoice is chosen when it is minted, and the deadline it
buys is judged when the payer's HTLC has armed. Chooser and gate read the same
lower bounds on the time to that deadline. The refund deadline between them is
written once, in the unit of the script, and read back as seconds against the
chain of the later moment.
-/

namespace IntentSolver.LightningReceiveTerms

open SwapStore SwapTimelocks

/-- Block interval assumed when a backend reports the deadline as a height. -/
def HTLC_SECONDS_PER_BLOCK : ℤ := 150

/-- Cap on how long one swap may park provider capital. -/
def MAX_REFUND_HORIZON : ℤ := 2 * HOUR

/-- Every lower bound the time to the HTLC deadline must clear. -/
def minHtlcWindowFor (unilateralRefundWithoutReceiverDelay : ℤ) (acceptUnilateralGap : Bool) : ℤ :=
  max (max MIN_SETTLE_WINDOW (MAX_REFUND_HORIZON + SETTLE_SAFETY_MARGIN))
    (if acceptUnilateralGap then 0
      else rawDelaySeconds unilateralRefundWithoutReceiverDelay + UNILATERAL_RECOURSE_MARGIN)

/-- The final CLTV delta an invoice must carry, rounded up. -/
def minFinalCltvBlocksFor (unilateralRefundWithoutReceiverDelay : ℤ) (acceptUnilateralGap : Bool) :
    ℤ :=
  -(-minHtlcWindowFor unilateralRefundWithoutReceiverDelay acceptUnilateralGap /
    HTLC_SECONDS_PER_BLOCK)

/-- Express a unix-seconds deadline as a locktime in the given unit, rounding up. -/
def absoluteLocktimeIn (deadlineSeconds : ℤ) (unit : TimelockUnit) (moment : ChainMoment) :
    Except Fault ℤ :=
  match unit with
  | .seconds => .ok deadlineSeconds
  | .blocks =>
    let height := moment.tipHeight + -(-(deadlineSeconds - moment.now) / NOMINAL_BLOCK_SECONDS)
    if LOCKTIME_THRESHOLD ≤ height then
      .error (.error ("refund height " ++ toString height ++
        " is at or above LOCKTIME_THRESHOLD (" ++ toString LOCKTIME_THRESHOLD ++
        ") and would read as unix seconds"))
    else .ok height

/-- An invoice minted to the chosen delta clears every bound of the window. -/
theorem minFinalCltvBlocksFor_clears (solo : ℤ) (gap : Bool) :
    minHtlcWindowFor solo gap ≤ minFinalCltvBlocksFor solo gap * HTLC_SECONDS_PER_BLOCK := by
  unfold minFinalCltvBlocksFor HTLC_SECONDS_PER_BLOCK
  omega

/-- The three bounds the window is made of. -/
theorem minHtlcWindowFor_bounds (solo : ℤ) (gap : Bool) :
    MIN_SETTLE_WINDOW ≤ minHtlcWindowFor solo gap ∧
      MAX_REFUND_HORIZON + SETTLE_SAFETY_MARGIN ≤ minHtlcWindowFor solo gap ∧
      (gap = false →
        rawDelaySeconds solo + UNILATERAL_RECOURSE_MARGIN ≤ minHtlcWindowFor solo gap) := by
  unfold minHtlcWindowFor
  refine ⟨by omega, by omega, fun hg => ?_⟩
  rw [if_neg (by simp [hg])]
  exact Int.le_max_right _ _

/-- The gate answers fund exactly when every one of its bounds holds. -/
theorem evaluateReceiveFunding_ok_iff {input : ReceiveFundingInput} :
    evaluateReceiveFunding input = .ok (.ok ()) ↔
      input.now < input.invoiceExpiresAt ∧ LOCKTIME_THRESHOLD ≤ input.refundLocktime ∧
      ∃ htlcExpiresAt, input.htlcExpiresAt = some htlcExpiresAt ∧
        MIN_SETTLE_WINDOW ≤ htlcExpiresAt - input.now ∧
        input.refundLocktime + SETTLE_SAFETY_MARGIN ≤ htlcExpiresAt ∧
        (input.acceptUnilateralGap = false → input.now +
          rawDelaySeconds input.unilateralRefundWithoutReceiverDelay +
          UNILATERAL_RECOURSE_MARGIN ≤ htlcExpiresAt) := by
  unfold evaluateReceiveFunding
  split
  · simp only [Except.ok.injEq, reduceCtorEq, false_iff]
    omega
  next hi =>
  split
  next hn => simp [hn]
  next htlcExpiresAt hs =>
  rw [hs]
  simp only [Option.some.injEq, exists_eq_left']
  split
  · simp only [Except.ok.injEq, reduceCtorEq, false_iff]
    omega
  next hw =>
  obtain ⟨ht, fault, he⟩ | ⟨ht, ho⟩ :=
    assertAbsoluteLocktime_cases input.refundLocktime "refundLocktime"
  · rw [he]
    simp only [reduceCtorEq, false_iff]
    omega
  rw [ho]
  dsimp only
  split
  · simp only [Except.ok.injEq, reduceCtorEq, false_iff]
    omega
  next hm =>
  cases hg : input.acceptUnilateralGap with
  | true =>
    simp only [Bool.not_true, Bool.false_and, Bool.false_eq_true, if_false, true_iff]
    exact ⟨by omega, ht, by omega, by omega, by simp⟩
  | false =>
    simp only [Bool.not_false, Bool.true_and, decide_eq_true_eq, true_implies]
    split
    · simp only [Except.ok.injEq, reduceCtorEq, false_iff]
      omega
    · simp only [true_iff]
      omega

/-- With the invoice live and the settle window wide enough, a deadline that does not
read as unix seconds makes the gate throw. -/
theorem evaluateReceiveFunding_throws {input : ReceiveFundingInput} {htlcExpiresAt : ℤ}
    (hi : input.now < input.invoiceExpiresAt) (he : input.htlcExpiresAt = some htlcExpiresAt)
    (hw : MIN_SETTLE_WINDOW ≤ htlcExpiresAt - input.now)
    (hl : input.refundLocktime < LOCKTIME_THRESHOLD) :
    ∃ fault, evaluateReceiveFunding input = .error fault := by
  obtain ⟨-, fault, ha⟩ | ⟨ht, -⟩ :=
    assertAbsoluteLocktime_cases input.refundLocktime "refundLocktime"
  · refine ⟨fault, ?_⟩
    unfold evaluateReceiveFunding
    rw [if_neg (by omega), he]
    dsimp only
    rw [if_neg (by omega), ha]
  · omega

/-- Read back at a later moment, a deadline written at quote time lies at most the
refund horizon ahead. -/
theorem absoluteLocktimeSeconds_within {quotedAt later : ChainMoment} {unit : TimelockUnit}
    {locktime : ℤ} (ht : quotedAt.now ≤ later.now) (hh : quotedAt.tipHeight ≤ later.tipHeight)
    (hl : absoluteLocktimeIn (quotedAt.now + MAX_REFUND_HORIZON) unit quotedAt = .ok locktime)
    (hu : absoluteLocktimeUnit locktime = unit) :
    absoluteLocktimeSeconds locktime later ≤ later.now + MAX_REFUND_HORIZON := by
  unfold absoluteLocktimeSeconds
  cases unit with
  | seconds =>
    cases hl
    rw [if_pos hu]
    omega
  | blocks =>
    rw [if_neg (by simp [hu])]
    unfold absoluteLocktimeIn at hl
    dsimp only at hl
    split at hl
    · cases hl
    · cases hl
      simp only [MAX_REFUND_HORIZON, NOMINAL_BLOCK_SECONDS, HOUR, MINUTE]
      omega

/-- An HTLC armed with the delta the invoice asked for passes the gate at any later
moment of the chain, in either unit, as long as the refund deadline still reads as unix
seconds there; where it no longer does, the gate throws. And whenever the gate says
fund, the refund and the solo recourse both open before the HTLC deadline. -/
theorem receive_chooser_meets_gate (solo : ℤ) (gap : Bool) (unit : TimelockUnit)
    (quotedAt later : ChainMoment) (invoiceExpiresAt htlcExpiresAt locktime : ℤ)
    (ht : quotedAt.now ≤ later.now) (hh : quotedAt.tipHeight ≤ later.tipHeight)
    (hi : later.now < invoiceExpiresAt)
    (hl : absoluteLocktimeIn (quotedAt.now + MAX_REFUND_HORIZON) unit quotedAt = .ok locktime)
    (hu : absoluteLocktimeUnit locktime = unit)
    (he : minFinalCltvBlocksFor solo gap * HTLC_SECONDS_PER_BLOCK ≤ htlcExpiresAt - later.now) :
    let refundDeadline := absoluteLocktimeSeconds locktime later
    let decision := evaluateReceiveFunding
      ⟨invoiceExpiresAt, some htlcExpiresAt, refundDeadline, solo, gap, later.now⟩
    (LOCKTIME_THRESHOLD ≤ refundDeadline → decision = .ok (.ok ())) ∧
      (refundDeadline < LOCKTIME_THRESHOLD → ∃ fault, decision = .error fault) ∧
      ∀ (input : ReceiveFundingInput) (deadline : ℤ), input.htlcExpiresAt = some deadline →
        evaluateReceiveFunding input = .ok (.ok ()) →
        input.refundLocktime + SETTLE_SAFETY_MARGIN ≤ deadline ∧
          (input.acceptUnilateralGap = false → input.now +
            rawDelaySeconds input.unilateralRefundWithoutReceiverDelay +
            UNILATERAL_RECOURSE_MARGIN ≤ deadline) := by
  intro refundDeadline decision
  have hw := minFinalCltvBlocksFor_clears solo gap
  obtain ⟨hsettle, hrefund, hsolo⟩ := minHtlcWindowFor_bounds solo gap
  have hd : refundDeadline ≤ later.now + MAX_REFUND_HORIZON :=
    absoluteLocktimeSeconds_within ht hh hl hu
  refine ⟨fun hs => ?_, fun hs => ?_, fun input deadline hexp hok => ?_⟩
  · rw [evaluateReceiveFunding_ok_iff]
    refine ⟨hi, hs, htlcExpiresAt, rfl, ?_, ?_, fun hg => ?_⟩
    · dsimp only
      omega
    · dsimp only
      omega
    · have := hsolo hg
      dsimp only
      omega
  · have hwindow : MIN_SETTLE_WINDOW ≤ htlcExpiresAt - later.now := by omega
    exact evaluateReceiveFunding_throws hi rfl hwindow hs
  · obtain ⟨-, -, deadline', hexp', -, hm, hg⟩ := evaluateReceiveFunding_ok_iff.mp hok
    cases hexp.symm.trans hexp'
    exact ⟨hm, hg⟩

/-- A block ladder of twenty blocks, quoted at height 100 and judged twenty minutes and
two blocks later. -/
theorem receive_chooser_meets_gate_sample :
    absoluteLocktimeIn (1700000000 + MAX_REFUND_HORIZON) .blocks ⟨1700000000, 100⟩ = .ok 112 ∧
    evaluateReceiveFunding ⟨1700001800, some (1700001200 + 18600),
      absoluteLocktimeSeconds 112 ⟨1700001200, 102⟩, 28, false, 1700001200⟩ = .ok (.ok ()) := by
  have hl : absoluteLocktimeIn (1700000000 + MAX_REFUND_HORIZON) .blocks ⟨1700000000, 100⟩ =
      .ok 112 := rfl
  exact ⟨hl, (receive_chooser_meets_gate 28 false .blocks ⟨1700000000, 100⟩ ⟨1700001200, 102⟩
    1700001800 (1700001200 + 18600) 112 (by decide) (by decide) (by decide) hl (by decide)
    (by decide)).1 (by decide)⟩

/-- Two million blocks past the refund height the projected deadline is no longer a unix
timestamp, and an HTLC armed exactly as asked is answered with a throw. -/
theorem receive_gate_throws_at_a_far_tip :
    ¬ ∀ (solo : ℤ) (gap : Bool) (unit : TimelockUnit) (quotedAt later : ChainMoment)
      (invoiceExpiresAt htlcExpiresAt locktime : ℤ),
      quotedAt.now ≤ later.now → quotedAt.tipHeight ≤ later.tipHeight →
      later.now < invoiceExpiresAt →
      absoluteLocktimeIn (quotedAt.now + MAX_REFUND_HORIZON) unit quotedAt = .ok locktime →
      minFinalCltvBlocksFor solo gap * HTLC_SECONDS_PER_BLOCK ≤ htlcExpiresAt - later.now →
      evaluateReceiveFunding ⟨invoiceExpiresAt, some htlcExpiresAt,
        absoluteLocktimeSeconds locktime later, solo, gap, later.now⟩ = .ok (.ok ()) := by
  intro h
  have hok := h 28 false .blocks ⟨1700000000, 100⟩ ⟨1700000600, 2000200⟩ 1700001800
    (1700000600 + 18600) 112 (by decide) (by decide) (by decide) rfl (by decide)
  obtain ⟨-, hs, -⟩ := evaluateReceiveFunding_ok_iff.mp hok
  exact absurd hs (by decide)

end IntentSolver.LightningReceiveTerms
