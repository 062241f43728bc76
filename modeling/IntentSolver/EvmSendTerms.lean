import IntentSolver.EvmBlockTime
import IntentSolver.UnilateralLadder

/-!
# The deadlines of an EVM send quote

The client locks sats until `refundLocktime`, the solver locks tokens until `evmTimeout`.
The solver locks second and its own refund comes first, with a margin to collect in. The
Arkade deadline is chosen first, from the claim delay of the deployment's ladder, and the
EVM deadline falls out one margin earlier; the row stores the height it converts to. The
clock, the delays and the margin are whole numbers, as the clock floors and
`loadEvmChainConfig` admits them, and are added exactly; the window is divided by the
cadence as doubles are.
-/

namespace IntentSolver.EvmSendTerms

open SwapStore SwapTimelocks UnilateralLadder EvmBlockTime ChainPace
  Fallible JsNumber

/-- Time between seeing a claim and having our Arkade claim settled; also the least
margin a configuration may name. -/
def EVM_ORDER_MARGIN_SECONDS : ℤ := 2 * HOUR

/-- The least time a client is given to claim. -/
def EVM_MIN_CLAIM_WINDOW_SECONDS : ℤ := 30 * MINUTE

/-- Why the solver refused to lock. -/
inductive EvmSendLockRefusal where
  | evmTimeoutInPast
  | claimWindowTooShort
  | recourseAfterRefundDeadline
  | deadlinesCannotBeOrdered
  deriving DecidableEq

/-- What the lock gate is asked. -/
structure EvmSendLockParams where
  /-- When the solver's EVM refund opens, unix seconds. -/
  evmTimeout : ℤ
  /-- When the client's Arkade refund opens, unix seconds. -/
  refundLocktime : ℤ
  nowSeconds : ℤ
  orderMarginSeconds : Option ℤ
  minClaimWindowSeconds : Option ℤ

/-- Decide whether this pair of deadlines is safe to lock against. -/
def evaluateEvmSendLock (params : EvmSendLockParams) :
    Except Fault (Except EvmSendLockRefusal Unit) := do
  let orderMarginSeconds := params.orderMarginSeconds.getD EVM_ORDER_MARGIN_SECONDS
  let minClaimWindowSeconds := params.minClaimWindowSeconds.getD EVM_MIN_CLAIM_WINDOW_SECONDS
  assertAbsoluteLocktime params.refundLocktime "refundLocktime"
  assertAbsoluteLocktime params.evmTimeout "evmTimeout"
  let earliestSafe := params.nowSeconds + minClaimWindowSeconds
  let latestSafe := params.refundLocktime - orderMarginSeconds
  if params.evmTimeout ≤ params.nowSeconds then .ok (.error .evmTimeoutInPast)
  else if latestSafe < earliestSafe then .ok (.error .deadlinesCannotBeOrdered)
  else if params.evmTimeout < earliestSafe then .ok (.error .claimWindowTooShort)
  else if latestSafe < params.evmTimeout then .ok (.error .recourseAfterRefundDeadline)
  else .ok (.ok ())

/-- Why a quote was refused at the acceptance gate. -/
inductive EvmSendAcceptanceRefusal where
  | amountOutOfRange
  | lock (reason : EvmSendLockRefusal)
  deriving DecidableEq

/-- What the acceptance gate is asked. -/
structure EvmSendAcceptanceParams where
  /-- What the client locks. -/
  amountSats : ℤ
  minSats : ℤ
  maxSats : ℤ
  /-- The raw claim delay of the deployment's ladder. -/
  unilateralClaimDelay : ℤ
  nowSeconds : ℤ
  orderMarginSeconds : Option ℤ
  minClaimWindowSeconds : Option ℤ

/-- The two deadlines of an accepted quote. -/
structure EvmSendAcceptance where
  refundLocktime : ℤ
  evmTimeout : ℤ
  deriving DecidableEq

/-- The quote-time gate; what it derives is checked again by the lock gate. -/
def evaluateEvmSendAcceptance (params : EvmSendAcceptanceParams) :
    Except Fault (Except EvmSendAcceptanceRefusal EvmSendAcceptance) := do
  if params.amountSats < params.minSats ∨ params.maxSats < params.amountSats then
    return .error .amountOutOfRange
  let orderMargin := params.orderMarginSeconds.getD EVM_ORDER_MARGIN_SECONDS
  let minClaimWindow := params.minClaimWindowSeconds.getD EVM_MIN_CLAIM_WINDOW_SECONDS
  let refundLocktime :=
    params.nowSeconds + max params.unilateralClaimDelay minClaimWindow + orderMargin
  let evmTimeout := refundLocktime - orderMargin
  let decision ← evaluateEvmSendLock
    ⟨evmTimeout, refundLocktime, params.nowSeconds, some orderMargin, some minClaimWindow⟩
  match decision with
  | .ok _ => return .ok ⟨refundLocktime, evmTimeout⟩
  | .error reason => return .error (.lock reason)

/-- What the deadline part of a quote reads. -/
structure EvmSendQuoteInput where
  amountSats : ℤ
  minSats : ℤ
  maxSats : ℤ
  /-- The deployment's ladder. -/
  delays : UnilateralDelays
  /-- The clock, read once. -/
  nowSeconds : ℤ
  /-- The configured margin, when one is wired. -/
  orderMarginSeconds : Option ℤ
  /-- The height the contract's timelock is compared with. -/
  timelockHeight : ℤ
  /-- The cadence of that height. -/
  timelockCadence : EvmBlockCadence

/-- The margin the quote is sized with. -/
def EvmSendQuoteInput.orderMargin (input : EvmSendQuoteInput) : ℤ :=
  input.orderMarginSeconds.getD EVM_ORDER_MARGIN_SECONDS

/-- What the quote writes into the row and the script. -/
structure EvmSendQuoteTerms where
  /-- The EVM deadline in seconds, before its conversion. -/
  evmTimeoutSeconds : ℤ
  /-- The height the row stores and the contract keys the lock by. -/
  evmTimeout : ℤ
  refundLocktime : ℤ
  claimDelay : ℤ
  refundDelay : ℤ
  refundWithoutReceiverDelay : ℤ

/-- The deadline part of `quote`: the acceptance, the height it converts to, and the
ladder as the deployment has it. -/
def quoteTerms (text : ℚ → String) (input : EvmSendQuoteInput) :
    Except Fault (Except EvmSendAcceptanceRefusal EvmSendQuoteTerms) := do
  let acceptance ← evaluateEvmSendAcceptance
    ⟨input.amountSats, input.minSats, input.maxSats, input.delays.unilateralClaimDelay,
      input.nowSeconds, input.orderMarginSeconds, none⟩
  match acceptance with
  | .error reason => return .error reason
  | .ok accepted =>
    let blocks ← blocksForDuration text (accepted.evmTimeout - input.nowSeconds : ℤ)
      input.timelockCadence
    return .ok
      { evmTimeoutSeconds := accepted.evmTimeout
        evmTimeout := input.timelockHeight + blocks
        refundLocktime := accepted.refundLocktime
        claimDelay := input.delays.unilateralClaimDelay
        refundDelay := input.delays.unilateralRefundDelay
        refundWithoutReceiverDelay := input.delays.unilateralRefundWithoutReceiverDelay }

/-! ## What an accepted quote says -/

/-- The seconds a quote leaves the client to claim: the raw claim delay, whatever its
unit, or the least window. -/
def claimWindow (input : EvmSendQuoteInput) : ℤ :=
  max input.delays.unilateralClaimDelay EVM_MIN_CLAIM_WINDOW_SECONDS

/-- Where the gate accepts, the deadlines are the window and the margin after now. -/
theorem evaluateEvmSendAcceptance_ok {params : EvmSendAcceptanceParams}
    {acceptance : EvmSendAcceptance}
    (h : evaluateEvmSendAcceptance params = .ok (.ok acceptance)) :
    acceptance.evmTimeout = params.nowSeconds + max params.unilateralClaimDelay
        (params.minClaimWindowSeconds.getD EVM_MIN_CLAIM_WINDOW_SECONDS) ∧
      acceptance.refundLocktime = acceptance.evmTimeout +
        params.orderMarginSeconds.getD EVM_ORDER_MARGIN_SECONDS := by
  unfold evaluateEvmSendAcceptance at h
  split at h
  · cases h
  · obtain ⟨decision, -, hm⟩ := bind_ok h
    cases decision with
    | error reason => cases hm
    | ok u =>
      cases hm
      constructor <;> dsimp only <;> ring

/-- The numbers of an accepted quote. -/
theorem quoteTerms_ok {text : ℚ → String} {input : EvmSendQuoteInput} {terms : EvmSendQuoteTerms}
    (h : quoteTerms text input = .ok (.ok terms)) :
    terms.evmTimeoutSeconds = input.nowSeconds + claimWindow input ∧
      terms.refundLocktime = terms.evmTimeoutSeconds + input.orderMargin ∧
      terms.claimDelay = input.delays.unilateralClaimDelay ∧
      terms.refundWithoutReceiverDelay = input.delays.unilateralRefundWithoutReceiverDelay ∧
      0 < input.timelockCadence.slowestSecondsPerBlock ∧
      ∃ quotient : ℚ, toDouble (claimWindow input / input.timelockCadence.slowestSecondsPerBlock) =
          .finite quotient ∧
        terms.evmTimeout = input.timelockHeight + max 1 ⌊quotient⌋ := by
  obtain ⟨acceptance, ha, hm⟩ := bind_ok h
  cases acceptance with
  | error reason => cases hm
  | ok accepted =>
    obtain ⟨blocks, hb, hr⟩ := bind_ok hm
    cases hr
    obtain ⟨he, hl⟩ := evaluateEvmSendAcceptance_ok ha
    obtain ⟨-, hs, quotient, hq, hk⟩ := blocksForDuration_ok hb
    have hw : accepted.evmTimeout - input.nowSeconds = claimWindow input := by
      rw [he]
      unfold claimWindow
      dsimp only [Option.getD_none]
      ring
    rw [hw] at hq
    have ht : accepted.evmTimeout = input.nowSeconds + claimWindow input := by omega
    exact ⟨ht, hl, rfl, rfl, hs, quotient, hq, by rw [hk]⟩

/-- The lock gate passes what the acceptance gate derives. -/
theorem evaluateEvmSendLock_derived {evmTimeout nowSeconds margin window : ℤ}
    (hm : 0 ≤ margin) (hw : 0 < window) (ht : nowSeconds + window ≤ evmTimeout)
    (hs : LOCKTIME_THRESHOLD ≤ evmTimeout) :
    evaluateEvmSendLock
      ⟨evmTimeout, evmTimeout + margin, nowSeconds, some margin, some window⟩ = .ok (.ok ()) := by
  obtain ⟨hl, -⟩ | ⟨-, ho⟩ := assertAbsoluteLocktime_cases (evmTimeout + margin) "refundLocktime"
  · omega
  obtain ⟨hl, -⟩ | ⟨-, he⟩ := assertAbsoluteLocktime_cases evmTimeout "evmTimeout"
  · omega
  unfold evaluateEvmSendLock
  dsimp only [Option.getD_some]
  rw [ho, ok_bind, he, ok_bind, if_neg (by omega), if_neg (by omega), if_neg (by omega),
    if_neg (by omega)]

/-- Every amount within the limits is accepted, whatever the ladder, while the blocks of the
window are no overflow. -/
theorem quoteTerms_accepts {text : ℚ → String} {input : EvmSendQuoteInput}
    (ha : input.minSats ≤ input.amountSats ∧ input.amountSats ≤ input.maxSats)
    (hn : LOCKTIME_THRESHOLD ≤ input.nowSeconds) (hm : 0 ≤ input.orderMargin)
    (hc : assertCadence text input.timelockCadence = .ok ()) {quotient : ℚ}
    (hq : toDouble (claimWindow input / input.timelockCadence.slowestSecondsPerBlock) =
      .finite quotient) : ∃ terms, quoteTerms text input = .ok (.ok terms) := by
  have hw : 0 < claimWindow input := by
    simp only [claimWindow, EVM_MIN_CLAIM_WINDOW_SECONDS, MINUTE]
    omega
  have hr : ¬ (input.amountSats < input.minSats ∨ input.maxSats < input.amountSats) := by omega
  have hd : evaluateEvmSendAcceptance ⟨input.amountSats, input.minSats, input.maxSats,
      input.delays.unilateralClaimDelay, input.nowSeconds, input.orderMarginSeconds, none⟩ =
      .ok (.ok ⟨input.nowSeconds + claimWindow input + input.orderMargin,
        input.nowSeconds + claimWindow input⟩) := by
    have hg : evaluateEvmSendLock ⟨input.nowSeconds + claimWindow input,
        input.nowSeconds + claimWindow input + input.orderMargin, input.nowSeconds,
        some input.orderMargin, some EVM_MIN_CLAIM_WINDOW_SECONDS⟩ = .ok (.ok ()) :=
      evaluateEvmSendLock_derived hm (by decide) (by unfold claimWindow; omega) (by omega)
    have he : input.nowSeconds + claimWindow input + input.orderMargin - input.orderMargin =
      input.nowSeconds + claimWindow input := by ring
    rw [← he] at hg
    simp only [claimWindow, EvmSendQuoteInput.orderMargin] at hg he ⊢
    simp only [evaluateEvmSendAcceptance, if_neg hr, Option.getD_none]
    rw [he] at hg ⊢
    rw [hg]
    rfl
  have hs : input.nowSeconds + claimWindow input - input.nowSeconds = claimWindow input := by ring
  have hb := blocksForDuration_finite hc (show (0 : ℚ) < claimWindow input by exact_mod_cast hw) hq
  unfold quoteTerms
  rw [hd, ok_bind]
  dsimp only
  rw [hs, hb, ok_bind]
  exact ⟨_, rfl⟩

/-! ## The solver's recourse -/

/-- What the deadlines of a quote owe the solver. -/
structure LeavesRecourse (input : EvmSendQuoteInput) (terms : EvmSendQuoteTerms) : Prop where
  /-- Our EVM refund opens a margin before the client's Arkade refund. -/
  ordered : terms.evmTimeoutSeconds + input.orderMargin ≤ terms.refundLocktime
  /-- The stored height is reached in time, however slow the chain is within its cadence. -/
  height_in_time : ∀ arrival,
    NoSlower arrival input.timelockCadence.slowestSecondsPerBlock input.nowSeconds
      input.timelockHeight → arrival terms.evmTimeout ≤ terms.evmTimeoutSeconds
  /-- A claim that has to go through the claim leaf still fits before the refund. -/
  claim_covered :
    input.nowSeconds + rawDelaySeconds terms.claimDelay + input.orderMargin ≤ terms.refundLocktime
  /-- The client's solo rung does not open before the refund deadline. -/
  solo_covers : refundWithoutReceiverDelayCovers terms.refundWithoutReceiverDelay
    terms.refundLocktime input.nowSeconds = true

/-- The blocks the claim window converts to, at their slowest, take no longer than the window.
One block fits it then, and the quotient was not rounded up to a block too many. -/
def BlocksFit (input : EvmSendQuoteInput) : Prop :=
  ∀ quotient, toDouble (claimWindow input / input.timelockCadence.slowestSecondsPerBlock) =
      .finite quotient →
    (max 1 ⌊quotient⌋ : ℤ) * input.timelockCadence.slowestSecondsPerBlock ≤ claimWindow input

/-- Each part of the recourse, as a condition on the ladder, the cadence and the margin. -/
theorem leavesRecourse_iff {text : ℚ → String} {input : EvmSendQuoteInput}
    {terms : EvmSendQuoteTerms} (h : quoteTerms text input = .ok (.ok terms)) :
    LeavesRecourse input terms ↔ BlocksFit input ∧
      rawDelaySeconds input.delays.unilateralClaimDelay ≤ claimWindow input ∧
      claimWindow input + input.orderMargin ≤
        rawDelaySeconds input.delays.unilateralRefundWithoutReceiverDelay := by
  obtain ⟨ht, hr, hc, hd, hs, quotient, hk, he⟩ := quoteTerms_ok h
  have hi := blocks_in_time (claimWindow input) input.nowSeconds input.timelockHeight hs
    (show 0 ≤ max 1 ⌊quotient⌋ by omega)
  have hfit : BlocksFit input ↔
      (max 1 ⌊quotient⌋ : ℤ) * input.timelockCadence.slowestSecondsPerBlock ≤
        claimWindow input := by
    refine ⟨fun hf => hf quotient hk, fun hl other ho => ?_⟩
    rw [hk] at ho
    cases ho
    exact hl
  have hq : (terms.evmTimeoutSeconds : ℚ) = input.nowSeconds + claimWindow input := by
    rw [ht]
    push_cast
    ring
  constructor
  · intro hl
    have hh := hl.height_in_time
    have hcl := hl.claim_covered
    have hsc := covers_iff.mp hl.solo_covers
    rw [he, hq] at hh
    rw [hc] at hcl
    rw [hd] at hsc
    exact ⟨hfit.mpr (hi.mp hh), by omega, by omega⟩
  · rintro ⟨hh, hcl, hsc⟩
    have hm := hi.mpr (hfit.mp hh)
    rw [← he, ← hq] at hm
    refine ⟨by omega, hm, ?_, covers_iff.mpr ?_⟩
    · rw [hc]
      omega
    · rw [hd]
      omega

/-- A derived ladder stacks its solo rung eight units above the claim: blocks below the
threshold, or seconds from it on. -/
theorem deriveUnilateralDelays_rungs {serverExitDelay : ℤ} {ladder : UnilateralDelays}
    (h : deriveUnilateralDelays serverExitDelay = .ok ladder) :
    (0 < ladder.unilateralClaimDelay ∧ ladder.unilateralClaimDelay ≤ 503 ∧
      ladder.unilateralRefundWithoutReceiverDelay = ladder.unilateralClaimDelay + 8) ∨
    (512 ≤ ladder.unilateralClaimDelay ∧
      ladder.unilateralRefundWithoutReceiverDelay = ladder.unilateralClaimDelay + 4096) := by
  unfold deriveUnilateralDelays at h
  split at h
  · cases h
  next hp =>
  split at h
  next hu =>
    split at h
    · cases h
    next hm =>
      cases h
      simp only [MAX_BIP68_BLOCKS, SEQUENCE_GRANULARITY_SECONDS, SOLO_REFUND_HEADROOM_BLOCKS] at *
      exact .inl ⟨by omega, by omega, trivial⟩
  next hu =>
    split at h
    · cases h
    · cases h
      have hs : 512 ≤ serverExitDelay := by
        rw [unit_blocks_iff] at hu
        omega
      have hc := ceilToGranularity_bounds serverExitDelay
      simp only [SOLO_REFUND_HEADROOM_SECONDS, SEQUENCE_GRANULARITY_SECONDS]
      exact .inr ⟨by omega, by ring⟩

/-- No derived ladder leaves the recourse once the margin is two hours. A block ladder
short enough for its claim to fit the window has a solo rung far below the refund
deadline, and the headroom of a seconds ladder is shorter than the margin. -/
theorem not_leavesRecourse {text : ℚ → String} {input : EvmSendQuoteInput}
    {terms : EvmSendQuoteTerms} {serverExitDelay : ℤ}
    (hd : deriveUnilateralDelays serverExitDelay = .ok input.delays)
    (h : quoteTerms text input = .ok (.ok terms))
    (hm : EVM_ORDER_MARGIN_SECONDS ≤ input.orderMargin) : ¬ LeavesRecourse input terms := by
  rw [leavesRecourse_iff h]
  simp only [claimWindow, rawDelaySeconds_eq, EVM_ORDER_MARGIN_SECONDS,
    EVM_MIN_CLAIM_WINDOW_SECONDS, HOUR, MINUTE] at hm ⊢
  obtain ⟨h0, h1, h2⟩ | ⟨h1, h2⟩ := deriveUnilateralDelays_rungs hd
  · rw [h2]
    omega
  · rw [h2]
    omega

/-- The deadlines of an accepted quote leave the solver its recourse exactly when the
blocks it converts the claim window to fit the window at their slowest, the claim delay read
in its own unit fits it too, and the solo rung outlasts the window and the margin. With a
derived ladder and a margin the configuration accepts, the last two exclude each other. -/
theorem evm_send_quote_recourse {text : ℚ → String} {input : EvmSendQuoteInput}
    {terms : EvmSendQuoteTerms} {serverExitDelay : ℤ}
    (hd : deriveUnilateralDelays serverExitDelay = .ok input.delays)
    (h : quoteTerms text input = .ok (.ok terms)) :
    (LeavesRecourse input terms ↔ BlocksFit input ∧
      rawDelaySeconds input.delays.unilateralClaimDelay ≤ claimWindow input ∧
      claimWindow input + input.orderMargin ≤
        rawDelaySeconds input.delays.unilateralRefundWithoutReceiverDelay) ∧
    (EVM_ORDER_MARGIN_SECONDS ≤ input.orderMargin → ¬ LeavesRecourse input terms) :=
  ⟨leavesRecourse_iff h, not_leavesRecourse hd h⟩

/-- A quote on a deployment with this ladder, at the default margin. -/
def sampleQuote (delays : UnilateralDelays) : EvmSendQuoteInput :=
  { amountSats := 100000, minSats := 1000, maxSats := 1000000, delays := delays,
    nowSeconds := 1700000000, orderMarginSeconds := none, timelockHeight := 20000000,
    timelockCadence := ⟨12, 12⟩ }

/-- The sample quote is accepted on every ladder whose window converts. -/
theorem sampleQuote_accepted (text : ℚ → String) {delays : UnilateralDelays} {quotient : ℚ}
    (hq : toDouble (claimWindow (sampleQuote delays) / 12) = .finite quotient) :
    ∃ terms, quoteTerms text (sampleQuote delays) = .ok (.ok terms) :=
  quoteTerms_accepts ⟨by simp [sampleQuote], by simp [sampleQuote]⟩
    (show LOCKTIME_THRESHOLD ≤ 1700000000 by decide)
    (show 0 ≤ EVM_ORDER_MARGIN_SECONDS by decide)
    (assertCadence_ok_iff.mpr (by norm_num [sampleQuote])) hq

/-- The window of a day's ladder, as the double nearest to its blocks. -/
theorem day_in_seconds_converts :
    toDouble (claimWindow (sampleQuote ⟨86528, 86528, 90624⟩) / 12) =
      .finite (7928211844016811 / 1099511627776) := by decide +kernel

/-- The least window in blocks. -/
theorem least_window_converts :
    toDouble (claimWindow (sampleQuote ⟨144, 144, 152⟩) / 12) = .finite 150 := by
  decide +kernel

/-- One ladder of a day in seconds and one of a day in blocks: both quotes are accepted,
and both fall short. On the first the client alone may spend the lockup before the refund
deadline; on the second the solver's claim leaf opens long after it. -/
theorem evm_send_quotes_without_recourse :
    (deriveUnilateralDelays 86400 = .ok ⟨86528, 86528, 90624⟩ ∧
      ∃ terms, quoteTerms toString (sampleQuote ⟨86528, 86528, 90624⟩) = .ok (.ok terms) ∧
        refundWithoutReceiverDelayCovers terms.refundWithoutReceiverDelay terms.refundLocktime
          1700000000 = false ∧ ¬ LeavesRecourse (sampleQuote ⟨86528, 86528, 90624⟩) terms) ∧
    (deriveUnilateralDelays 144 = .ok ⟨144, 144, 152⟩ ∧
      ∃ terms, quoteTerms toString (sampleQuote ⟨144, 144, 152⟩) = .ok (.ok terms) ∧
        terms.refundLocktime < 1700000000 + rawDelaySeconds terms.claimDelay ∧
        ¬ LeavesRecourse (sampleQuote ⟨144, 144, 152⟩) terms) := by
  have hs : deriveUnilateralDelays 86400 = .ok ⟨86528, 86528, 90624⟩ := by rfl
  have hb : deriveUnilateralDelays 144 = .ok ⟨144, 144, 152⟩ := by rfl
  constructor
  · obtain ⟨terms, ht⟩ := sampleQuote_accepted toString day_in_seconds_converts
    obtain ⟨he, hr, -, hd, -⟩ := quoteTerms_ok ht
    refine ⟨hs, terms, ht, ?_, not_leavesRecourse hs ht le_rfl⟩
    rw [hd, hr, he]
    decide
  · obtain ⟨terms, ht⟩ := sampleQuote_accepted toString least_window_converts
    obtain ⟨he, hr, hc, -⟩ := quoteTerms_ok ht
    refine ⟨hb, terms, ht, ?_, not_leavesRecourse hb ht le_rfl⟩
    rw [hc, hr, he]
    decide

/-- The theorem at the ladder of a day in blocks. -/
theorem evm_send_quote_recourse_sample :
    ∃ terms, quoteTerms toString (sampleQuote ⟨144, 144, 152⟩) = .ok (.ok terms) ∧
      ¬ LeavesRecourse (sampleQuote ⟨144, 144, 152⟩) terms := by
  obtain ⟨terms, ht⟩ := sampleQuote_accepted toString least_window_converts
  have hd : deriveUnilateralDelays 144 = .ok (sampleQuote ⟨144, 144, 152⟩).delays := by rfl
  exact ⟨terms, ht, (evm_send_quote_recourse hd ht).2 le_rfl⟩

end IntentSolver.EvmSendTerms
