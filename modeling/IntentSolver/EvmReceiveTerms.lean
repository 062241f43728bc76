import IntentSolver.EvmSendTerms
import IntentSolver.EvmReceivePlan

/-!
# The deadline of an EVM receive quote

The client locks tokens until a height of its own choice, the solver funds an Arkade
lockup it takes back at `refundLocktime`; that deadline comes a margin before the
client's. The height is read on the fastest cadence, which may be a fraction of a second,
and the gate behind it takes whole numbers only. All of it is arithmetic on doubles: a
deadline can round to a whole number that the exact one is not, and lie a trifle after it.
-/

namespace IntentSolver.EvmReceiveTerms

open SwapStore SwapTimelocks EvmBlockTime ChainPace Fallible EvmReceivePlan JsNumber
open EvmSendTerms (EVM_ORDER_MARGIN_SECONDS EVM_MIN_CLAIM_WINDOW_SECONDS)

/-- The furthest-out client deadline the deployment serves. -/
def EVM_MAX_CLIENT_TIMEOUT_SECONDS : ℤ := 24 * HOUR

/-- No `Date` is further from the epoch. -/
def MAX_DATE_SECONDS : ℤ := 8640000000000

/-- Why the solver refused to fund. -/
inductive EvmReceiveFundRefusal where
  | evmLockExpired
  | evmTimeoutTooFarOut
  | clientClaimWindowTooShort
  | recourseAfterEvmTimeout
  | deadlinesCannotBeOrdered
  deriving DecidableEq

variable (text : ℚ → String)

/-- The locktime assertion on any number: only a whole one gets to the unit question. -/
def assertAbsoluteLocktime (locktime : Number) (label : String) : Except Fault Unit :=
  match locktime.integer with
  | none => .error (.error (label ++ " must be an integer, got " ++ locktime.print text))
  | some whole => SwapTimelocks.assertAbsoluteLocktime whole label

/-- What the funding gate is asked. -/
structure EvmReceiveFundParams where
  /-- When the client's EVM refund opens, converted from a height. -/
  evmTimeout : Number
  /-- When the solver's Arkade refund opens. -/
  refundLocktime : Number
  nowSeconds : ℤ
  orderMarginSeconds : Option ℤ
  minClaimWindowSeconds : Option ℤ

/-- Decide whether this pair of deadlines is safe to fund against. -/
def evaluateEvmReceiveFund (params : EvmReceiveFundParams) :
    Except Fault (Except EvmReceiveFundRefusal Unit) := do
  let nowSeconds : Number := .finite params.nowSeconds
  let orderMarginSeconds : Number :=
    .finite (params.orderMarginSeconds.getD EVM_ORDER_MARGIN_SECONDS : ℤ)
  let minClaimWindowSeconds : Number :=
    .finite (params.minClaimWindowSeconds.getD EVM_MIN_CLAIM_WINDOW_SECONDS : ℤ)
  assertAbsoluteLocktime text params.refundLocktime "refundLocktime"
  assertAbsoluteLocktime text params.evmTimeout "evmTimeout"
  let earliestSafe := nowSeconds.add minClaimWindowSeconds
  let latestSafe := params.evmTimeout.sub orderMarginSeconds
  if params.evmTimeout.atMost (nowSeconds.add orderMarginSeconds) then
    .ok (.error .evmLockExpired)
  else if (nowSeconds.add (.finite EVM_MAX_CLIENT_TIMEOUT_SECONDS)).less params.evmTimeout then
    .ok (.error .evmTimeoutTooFarOut)
  else if latestSafe.less earliestSafe then .ok (.error .deadlinesCannotBeOrdered)
  else if params.refundLocktime.less earliestSafe then .ok (.error .clientClaimWindowTooShort)
  else if latestSafe.less params.refundLocktime then .ok (.error .recourseAfterEvmTimeout)
  else .ok (.ok ())

/-- The latest safe deadline to commit to, or none. -/
def arkadeRefundLocktimeFor (evmTimeout : Number) (nowSeconds : ℤ)
    (orderMarginSeconds minClaimWindowSeconds : Option ℤ) : Except Fault (Option Number) := do
  let latestSafe := evmTimeout.sub (.finite (orderMarginSeconds.getD EVM_ORDER_MARGIN_SECONDS : ℤ))
  let decision ← evaluateEvmReceiveFund text
    ⟨evmTimeout, latestSafe, nowSeconds, orderMarginSeconds, minClaimWindowSeconds⟩
  match decision with
  | .ok _ => return some latestSafe
  | .error _ => return none

/-- What the deadline part of a quote reads. -/
structure EvmReceiveQuoteInput where
  /-- The client's timeout height. -/
  evmTimeout : ℤ
  /-- The height the contract's timelock is compared with. -/
  timelockHeight : ℤ
  /-- The clock, read once: the whole seconds of a date. -/
  nowSeconds : ℤ
  nowSeconds_date : |nowSeconds| ≤ MAX_DATE_SECONDS := by decide
  /-- The configured margin, when one is wired. -/
  orderMarginSeconds : Option ℤ
  /-- The cadence of the timelock's height. -/
  timelockCadence : EvmBlockCadence

/-- The deadline part of `quote`: the deadline to commit to, or the rule that bit, which
a second look at the client's own deadline names. -/
def quoteDeadline (input : EvmReceiveQuoteInput) :
    Except Fault (Except EvmReceiveFundRefusal Number) := do
  let evmTimeoutSeconds ← deadlineSecondsForBlock text input.evmTimeout input.timelockHeight
    input.nowSeconds input.timelockCadence
  let refundLocktime ← arkadeRefundLocktimeFor text evmTimeoutSeconds input.nowSeconds
    input.orderMarginSeconds none
  match refundLocktime with
  | some deadline => return .ok deadline
  | none =>
    let decision ← evaluateEvmReceiveFund text
      ⟨evmTimeoutSeconds, evmTimeoutSeconds, input.nowSeconds, input.orderMarginSeconds, none⟩
    match decision with
    | .ok _ => return .error .deadlinesCannotBeOrdered
    | .error reason => return .error reason

/-- The margin the quote is sized with. -/
def EvmReceiveQuoteInput.orderMargin (input : EvmReceiveQuoteInput) : ℤ :=
  input.orderMarginSeconds.getD EVM_ORDER_MARGIN_SECONDS

/-- The client's timeout on the fastest cadence, without rounding. -/
def EvmReceiveQuoteInput.exact (input : EvmReceiveQuoteInput) : ℚ :=
  input.nowSeconds + (input.evmTimeout - input.timelockHeight : ℤ) *
    input.timelockCadence.fastestSecondsPerBlock

/-- The client's timeout as the gate sees it, each operation rounded to a double. -/
def EvmReceiveQuoteInput.converted (input : EvmReceiveQuoteInput) : Number :=
  (Number.finite input.nowSeconds).add
    ((toDouble (input.evmTimeout - input.timelockHeight : ℤ)).mul
      (.finite input.timelockCadence.fastestSecondsPerBlock))

/-- The latest deadline the margin leaves. -/
def EvmReceiveQuoteInput.latestSafe (input : EvmReceiveQuoteInput) : Number :=
  input.converted.sub (.finite input.orderMargin)

/-- What the gate is asked about one locktime of this quote. -/
def EvmReceiveQuoteInput.asks (input : EvmReceiveQuoteInput) (locktime : Number) :
    EvmReceiveFundParams :=
  ⟨input.converted, locktime, input.nowSeconds, input.orderMarginSeconds, none⟩

/-! ## The gate in numbers -/

variable {text}

/-- A number that reads as unix seconds. -/
def UnixSeconds (number : Number) : Prop :=
  ∃ whole : ℤ, number = .finite whole ∧ LOCKTIME_THRESHOLD ≤ whole

/-- The assertion passes exactly on unix seconds. -/
theorem assertAbsoluteLocktime_cases (text : ℚ → String) (locktime : Number) (label : String) :
    (UnixSeconds locktime ∧ assertAbsoluteLocktime text locktime label = .ok ()) ∨
    (¬ UnixSeconds locktime ∧
      ∃ fault, assertAbsoluteLocktime text locktime label = .error fault) := by
  unfold assertAbsoluteLocktime
  cases hi : locktime.integer with
  | none =>
    refine .inr ⟨?_, _, rfl⟩
    rintro ⟨whole, rfl, -⟩
    rw [integer_int] at hi
    cases hi
  | some whole =>
    have hw := integer_eq_some hi
    obtain ⟨hl, hf⟩ | ⟨ht, ho⟩ := SwapTimelocks.assertAbsoluteLocktime_cases whole label
    · refine .inr ⟨?_, hf⟩
      rintro ⟨other, he, ht⟩
      rw [he, integer_int] at hi
      cases hi
      omega
    · exact .inl ⟨⟨whole, hw, ht⟩, ho⟩

/-- The pair of deadlines lies in every window the gate knows. -/
def InWindow (params : EvmReceiveFundParams) : Prop :=
  let nowSeconds : Number := .finite params.nowSeconds
  let orderMarginSeconds : Number :=
    .finite (params.orderMarginSeconds.getD EVM_ORDER_MARGIN_SECONDS : ℤ)
  let earliestSafe := nowSeconds.add
    (.finite (params.minClaimWindowSeconds.getD EVM_MIN_CLAIM_WINDOW_SECONDS : ℤ))
  let latestSafe := params.evmTimeout.sub orderMarginSeconds
  ¬ params.evmTimeout.atMost (nowSeconds.add orderMarginSeconds) ∧
    ¬ (nowSeconds.add (.finite EVM_MAX_CLIENT_TIMEOUT_SECONDS)).less params.evmTimeout ∧
    ¬ latestSafe.less earliestSafe ∧ ¬ params.refundLocktime.less earliestSafe ∧
    ¬ latestSafe.less params.refundLocktime

/-- The gate throws on a deadline that does not read as unix seconds. -/
theorem evaluateEvmReceiveFund_throws (text : ℚ → String) {params : EvmReceiveFundParams}
    (h : ¬ (UnixSeconds params.refundLocktime ∧ UnixSeconds params.evmTimeout)) :
    ∃ fault, evaluateEvmReceiveFund text params = .error fault := by
  unfold evaluateEvmReceiveFund
  obtain ⟨hr, ho⟩ | ⟨-, fault, hf⟩ :=
    assertAbsoluteLocktime_cases text params.refundLocktime "refundLocktime"
  · obtain ⟨he, -⟩ | ⟨-, fault, hf⟩ :=
      assertAbsoluteLocktime_cases text params.evmTimeout "evmTimeout"
    · exact absurd ⟨hr, he⟩ h
    · dsimp only
      rw [ho, ok_bind, hf]
      exact ⟨fault, rfl⟩
  · dsimp only
    rw [hf]
    exact ⟨fault, rfl⟩

/-- On two deadlines in unix seconds the gate decides, and passes exactly what lies in its
windows. -/
theorem evaluateEvmReceiveFund_decides (text : ℚ → String) {params : EvmReceiveFundParams}
    (hr : UnixSeconds params.refundLocktime) (he : UnixSeconds params.evmTimeout) :
    ∃ decision, evaluateEvmReceiveFund text params = .ok decision ∧
      (decision = .ok () ↔ InWindow params) := by
  obtain ⟨-, hro⟩ | ⟨hn, -⟩ :=
    assertAbsoluteLocktime_cases text params.refundLocktime "refundLocktime"
  swap
  · exact absurd hr hn
  obtain ⟨-, heo⟩ | ⟨hn, -⟩ := assertAbsoluteLocktime_cases text params.evmTimeout "evmTimeout"
  swap
  · exact absurd he hn
  unfold evaluateEvmReceiveFund InWindow
  dsimp only
  rw [hro, ok_bind, heo, ok_bind]
  split
  next hx => exact ⟨_, rfl, by simp [hx]⟩
  next hx =>
  split
  next hf => exact ⟨_, rfl, by simp [hf]⟩
  next hf =>
  split
  next hu => exact ⟨_, rfl, by simp [hu]⟩
  next hu =>
  split
  next hs => exact ⟨_, rfl, by simp [hs]⟩
  next hs =>
  split
  next hl => exact ⟨_, rfl, by simp [hl]⟩
  next hl => exact ⟨_, rfl, fun _ => ⟨hx, hf, hu, hs, hl⟩, fun _ => rfl⟩

section Window

variable {input : EvmReceiveQuoteInput} {whole locktime : ℤ}

/-- A whole timeout in the numbers of the window: past the margin, at most a day out, and the
locktime between the two bounds. -/
structure Fits (input : EvmReceiveQuoteInput) (whole locktime : ℤ) : Prop where
  past_margin : input.nowSeconds + input.orderMargin < whole
  near : whole ≤ input.nowSeconds + EVM_MAX_CLIENT_TIMEOUT_SECONDS
  earliest : input.nowSeconds + EVM_MIN_CLAIM_WINDOW_SECONDS ≤ locktime
  latest : locktime ≤ whole - input.orderMargin

/-- The clock and a day more are integers of 53 bits. -/
theorem clock_bounds (input : EvmReceiveQuoteInput) :
    -8640000000000 ≤ input.nowSeconds ∧ input.nowSeconds ≤ 8640000000000 :=
  abs_le.mp input.nowSeconds_date

/-- What is added to the clock within a day is added exactly. -/
theorem add_clock (input : EvmReceiveQuoteInput) {seconds : ℤ} (hl : 0 ≤ seconds)
    (hu : seconds ≤ EVM_MAX_CLIENT_TIMEOUT_SECONDS) :
    (Number.finite input.nowSeconds).add (.finite seconds) =
      .finite (input.nowSeconds + seconds : ℤ) := by
  obtain ⟨hlow, hhigh⟩ := clock_bounds input
  have hday : EVM_MAX_CLIENT_TIMEOUT_SECONDS = 86400 := rfl
  refine add_int ?_
  rw [abs_lt]
  omega

/-- Between the margin and a day out, the margin is taken off exactly. -/
theorem sub_margin (hm : 0 ≤ input.orderMargin)
    (hp : input.nowSeconds + input.orderMargin < whole)
    (hn : whole ≤ input.nowSeconds + EVM_MAX_CLIENT_TIMEOUT_SECONDS) :
    (Number.finite whole).sub (.finite input.orderMargin) =
      .finite (whole - input.orderMargin : ℤ) := by
  obtain ⟨hlow, hhigh⟩ := clock_bounds input
  have hday : EVM_MAX_CLIENT_TIMEOUT_SECONDS = 86400 := rfl
  refine sub_int ?_
  rw [abs_lt]
  omega

/-- A timeout the gate does not call expired is past the margin, rounded or not: a sum too
large for 53 bits is not rounded back below a timeout a day out. -/
theorem past_margin_of_not_atMost (hm : 0 ≤ input.orderMargin)
    (hn : whole ≤ input.nowSeconds + EVM_MAX_CLIENT_TIMEOUT_SECONDS)
    (h : ¬ (Number.finite whole).atMost
      ((Number.finite input.nowSeconds).add (.finite input.orderMargin))) :
    input.nowSeconds + input.orderMargin < whole := by
  obtain ⟨hlow, hhigh⟩ := clock_bounds input
  have hday : EVM_MAX_CLIENT_TIMEOUT_SECONDS = 86400 := rfl
  by_contra hle
  refine h ?_
  by_cases hs : |input.nowSeconds + input.orderMargin| < 2 ^ 53
  · rw [add_int hs, atMost_finite]
    exact_mod_cast not_lt.mp hle
  · have hbig : (2 : ℚ) ^ 53 ≤ (input.nowSeconds : ℚ) + input.orderMargin := by
      have hint : 2 ^ 53 ≤ input.nowSeconds + input.orderMargin := by
        rw [abs_lt] at hs
        omega
      exact_mod_cast hint
    have hsum : (Number.finite (input.nowSeconds : ℚ)).add (.finite input.orderMargin) =
      toDouble (input.nowSeconds + input.orderMargin) := rfl
    rw [hsum]
    obtain hd | ⟨rounded, hd, hr⟩ := toDouble_past hbig
    · rw [hd]
      rfl
    · rw [hd, atMost_finite]
      have hwhole : (whole : ℚ) ≤ 2 ^ 53 := by
        exact_mod_cast (show whole ≤ 2 ^ 53 by omega)
      linarith

/-- The window of the gate on a whole timeout, in exact numbers. -/
theorem inWindow_iff (hm : 0 ≤ input.orderMargin) (hc : input.converted = .finite whole) :
    InWindow (input.asks (.finite locktime)) ↔ Fits input whole locktime := by
  have hday := add_clock input (show 0 ≤ EVM_MAX_CLIENT_TIMEOUT_SECONDS by decide) le_rfl
  have hwindow := add_clock input (show 0 ≤ EVM_MIN_CLAIM_WINDOW_SECONDS by decide) (by decide)
  change (¬ input.converted.atMost
      ((Number.finite input.nowSeconds).add (.finite input.orderMargin)) ∧
    ¬ ((Number.finite input.nowSeconds).add (.finite EVM_MAX_CLIENT_TIMEOUT_SECONDS)).less
      input.converted ∧
    ¬ (input.converted.sub (.finite input.orderMargin)).less
      ((Number.finite input.nowSeconds).add (.finite EVM_MIN_CLAIM_WINDOW_SECONDS)) ∧
    ¬ (Number.finite locktime).less
      ((Number.finite input.nowSeconds).add (.finite EVM_MIN_CLAIM_WINDOW_SECONDS)) ∧
    ¬ (input.converted.sub (.finite input.orderMargin)).less (.finite locktime)) ↔ _
  rw [hday, hwindow, hc, less_finite, less_finite]
  constructor
  · rintro ⟨hp, hn, -, he, hl⟩
    have hnear : whole ≤ input.nowSeconds + EVM_MAX_CLIENT_TIMEOUT_SECONDS := by
      exact_mod_cast not_lt.mp hn
    have hpast := past_margin_of_not_atMost hm hnear hp
    rw [sub_margin hm hpast hnear, less_finite] at hl
    exact ⟨hpast, hnear, by exact_mod_cast not_lt.mp he, by exact_mod_cast not_lt.mp hl⟩
  · intro h
    have hday86400 : EVM_MAX_CLIENT_TIMEOUT_SECONDS = 86400 := rfl
    obtain ⟨hlow, hhigh⟩ := clock_bounds input
    have hsum : |input.nowSeconds + input.orderMargin| < 2 ^ 53 := by
      have hp := h.past_margin
      have hn := h.near
      rw [abs_lt]
      omega
    rw [sub_margin hm h.past_margin h.near, add_int hsum, atMost_finite, less_finite, less_finite]
    have hp := h.past_margin
    have hn := h.near
    have he := h.earliest
    have hl := h.latest
    refine ⟨not_le.mpr ?_, not_lt.mpr ?_, not_lt.mpr ?_, not_lt.mpr ?_, not_lt.mpr ?_⟩
    · exact_mod_cast hp
    · exact_mod_cast hn
    · exact_mod_cast (show input.nowSeconds + EVM_MIN_CLAIM_WINDOW_SECONDS ≤
        whole - input.orderMargin by omega)
    · exact_mod_cast he
    · exact_mod_cast hl

end Window

/-! ## The deadline of a quote -/

variable (text)

/-- A locktime the gate would fund against, for the client's converted timeout. -/
def Passes (input : EvmReceiveQuoteInput) (locktime : ℤ) : Prop :=
  evaluateEvmReceiveFund text (input.asks (.finite locktime)) = .ok (.ok ())

/-- What the deadline part of a quote owes: it answers, with the largest locktime the
gate would pass whenever there is one, and the answer is in time. -/
structure ExactDeadline (input : EvmReceiveQuoteInput) : Prop where
  /-- It never throws. -/
  answers : ∃ answer, quoteDeadline text input = .ok answer
  /-- It answers a deadline exactly when some whole locktime passes. -/
  returns_iff : (∃ deadline, quoteDeadline text input = .ok (.ok deadline)) ↔
    ∃ locktime, Passes text input locktime
  /-- The answer is the largest locktime that passes. -/
  largest : ∀ deadline, quoteDeadline text input = .ok (.ok deadline) →
    ∃ locktime : ℤ, deadline = .finite locktime ∧ Passes text input locktime ∧
      ∀ other, Passes text input other → other ≤ locktime
  /-- A margin after it, the client's timeout height is not reached yet on a chain that
  is no faster than its cadence. -/
  in_time : ∀ locktime : ℤ, quoteDeadline text input = .ok (.ok (.finite locktime)) → ∀ arrival,
    NoFaster arrival input.timelockCadence.fastestSecondsPerBlock input.nowSeconds
      input.timelockHeight → (locktime : ℚ) + input.orderMargin ≤ arrival input.evmTimeout
  /-- Where only the spacing of the blocks is known, the height is reached less than one
  block sooner than that: the block under way may be about to arrive. -/
  nearly_in_time : ∀ locktime : ℤ, quoteDeadline text input = .ok (.ok (.finite locktime)) →
    ∀ arrival, Spaced arrival input.timelockCadence.fastestSecondsPerBlock →
    input.nowSeconds < arrival (input.timelockHeight + 1) →
    (locktime : ℚ) + input.orderMargin <
      arrival input.evmTimeout + input.timelockCadence.fastestSecondsPerBlock
  /-- While the funding window is open, the landing blocks are left. -/
  landing_blocks : ∀ height, evmReceiveFundWindowClosed height input.evmTimeout = false →
    60 ≤ input.evmTimeout - height

variable {text} {input : EvmReceiveQuoteInput}

/-- The converted timeout is a whole number of unix seconds, as is the one a margin before;
and where the gate's windows are open around it, rounding has not put it after the exact
one. -/
structure Convertible (input : EvmReceiveQuoteInput) : Prop where
  timeout : UnixSeconds input.converted
  latest : UnixSeconds input.latestSafe
  not_late : ∀ whole : ℤ, input.converted = .finite whole →
    input.nowSeconds + EVM_MIN_CLAIM_WINDOW_SECONDS + input.orderMargin ≤ whole →
    whole ≤ input.nowSeconds + EVM_MAX_CLIENT_TIMEOUT_SECONDS → (whole : ℚ) ≤ input.exact

/-- On a latest deadline that does not read as unix seconds the quote throws. -/
theorem quoteDeadline_throws (hc : assertCadence text input.timelockCadence = .ok ())
    (hn : ¬ (UnixSeconds input.latestSafe ∧ UnixSeconds input.converted)) :
    ∃ fault, quoteDeadline text input = .error fault := by
  obtain ⟨fault, hf⟩ : ∃ fault,
      evaluateEvmReceiveFund text (input.asks input.latestSafe) = .error fault :=
    evaluateEvmReceiveFund_throws text hn
  unfold quoteDeadline arkadeRefundLocktimeFor
  rw [deadlineSecondsForBlock_eq _ _ _ hc, ok_bind]
  change ∃ fault, (evaluateEvmReceiveFund text (input.asks input.latestSafe) >>= _) >>= _ = _
  rw [hf]
  exact ⟨fault, rfl⟩

/-- Otherwise it answers that deadline where it lies in the gate's windows, and the name
of a rule where it does not. -/
theorem quoteDeadline_answers (hc : assertCadence text input.timelockCadence = .ok ())
    (hl : UnixSeconds input.latestSafe) (ht : UnixSeconds input.converted) :
    (InWindow (input.asks input.latestSafe) ∧
      quoteDeadline text input = .ok (.ok input.latestSafe)) ∨
    (¬ InWindow (input.asks input.latestSafe) ∧
      ∃ reason, quoteDeadline text input = .ok (.error reason)) := by
  obtain ⟨decision, hd, hi⟩ : ∃ decision,
      evaluateEvmReceiveFund text (input.asks input.latestSafe) = .ok decision ∧
        (decision = .ok () ↔ InWindow (input.asks input.latestSafe)) :=
    evaluateEvmReceiveFund_decides text hl ht
  unfold quoteDeadline arkadeRefundLocktimeFor
  rw [deadlineSecondsForBlock_eq _ _ _ hc, ok_bind]
  change (_ ∧ ((evaluateEvmReceiveFund text (input.asks input.latestSafe) >>= _) >>= _) = _) ∨
    _ ∧ ∃ reason, ((evaluateEvmReceiveFund text (input.asks input.latestSafe) >>= _) >>= _) = _
  rw [hd, ok_bind]
  cases decision with
  | ok u => exact .inl ⟨hi.mp rfl, rfl⟩
  | error reason =>
    refine .inr ⟨fun h => ?_, ?_⟩
    · have hr := hi.mpr h
      cases hr
    · obtain ⟨second, hs, -⟩ : ∃ second,
          evaluateEvmReceiveFund text (input.asks input.converted) = .ok second ∧
            (second = .ok () ↔ InWindow (input.asks input.converted)) :=
        evaluateEvmReceiveFund_decides text ht ht
      change ∃ reason, (evaluateEvmReceiveFund text (input.asks input.converted) >>= _) = _
      rw [hs, ok_bind]
      cases second with
      | ok u => exact ⟨_, rfl⟩
      | error other => exact ⟨_, rfl⟩

/-- What a locktime that passes is, on a whole timeout. -/
theorem passes_iff {whole locktime : ℤ} (hm : 0 ≤ input.orderMargin)
    (hw : input.converted = .finite whole) :
    Passes text input locktime ↔
      LOCKTIME_THRESHOLD ≤ locktime ∧ LOCKTIME_THRESHOLD ≤ whole ∧
        Fits input whole locktime := by
  have hunix : ∀ value : ℤ, UnixSeconds (.finite value) ↔ LOCKTIME_THRESHOLD ≤ value := by
    intro value
    refine ⟨?_, fun h => ⟨value, rfl, h⟩⟩
    rintro ⟨other, he, h⟩
    have hv : (value : ℚ) = other := Number.finite.inj he
    have hint : value = other := by exact_mod_cast hv
    omega
  have hconverted : UnixSeconds input.converted ↔ LOCKTIME_THRESHOLD ≤ whole := by
    rw [hw]
    exact hunix whole
  unfold Passes
  by_cases hr : UnixSeconds (.finite locktime) ∧ UnixSeconds input.converted
  · obtain ⟨decision, hd, hi⟩ : ∃ decision,
        evaluateEvmReceiveFund text (input.asks (.finite locktime)) = .ok decision ∧
          (decision = .ok () ↔ InWindow (input.asks (.finite locktime))) :=
      evaluateEvmReceiveFund_decides text hr.1 hr.2
    rw [hd, Except.ok.injEq, hi, inWindow_iff hm hw]
    exact ⟨fun h => ⟨(hunix _).mp hr.1, hconverted.mp hr.2, h⟩, fun h => h.2.2⟩
  · obtain ⟨fault, hf⟩ : ∃ fault,
        evaluateEvmReceiveFund text (input.asks (.finite locktime)) = .error fault :=
      evaluateEvmReceiveFund_throws text hr
    rw [hf]
    simp only [reduceCtorEq, false_iff]
    rintro ⟨hl, ht, -⟩
    exact hr ⟨(hunix _).mpr hl, hconverted.mpr ht⟩

/-- A deadline in the window leaves at least one block to the client's timeout, where
rounding has not put it late. -/
theorem blocks_left {whole locktime : ℤ}
    (hc : assertCadence text input.timelockCadence = .ok ()) (hm : 0 ≤ input.orderMargin)
    (hf : Fits input whole locktime) (he : (whole : ℚ) ≤ input.exact) :
    ∃ k : ℕ, input.evmTimeout = input.timelockHeight + (k + 1 : ℕ) := by
  have hfast := (assertCadence_ok_iff.mp hc).1
  have hp : (input.nowSeconds : ℚ) + input.orderMargin < whole := by
    exact_mod_cast hf.past_margin
  have hq : (0 : ℚ) ≤ input.orderMargin := by exact_mod_cast hm
  have hspan : 0 < ((input.evmTimeout - input.timelockHeight : ℤ) : ℚ) *
      input.timelockCadence.fastestSecondsPerBlock := by
    unfold EvmReceiveQuoteInput.exact at he
    linarith
  have hr : 0 < input.evmTimeout - input.timelockHeight := by
    exact_mod_cast pos_of_mul_pos_left hspan hfast.le
  exact ⟨(input.evmTimeout - input.timelockHeight - 1).toNat, by omega⟩

/-- The exact timeout in blocks after the current height. -/
theorem exact_blocks {k : ℕ} (hk : input.evmTimeout = input.timelockHeight + (k + 1 : ℕ)) :
    input.exact = input.nowSeconds +
      (k + 1 : ℕ) * input.timelockCadence.fastestSecondsPerBlock := by
  have he : input.evmTimeout - input.timelockHeight = (k + 1 : ℕ) := by omega
  unfold EvmReceiveQuoteInput.exact
  rw [he]
  push_cast
  ring

/-- An open funding window leaves the landing blocks. -/
theorem landing_blocks_left {height evmTimeout : ℤ}
    (h : evmReceiveFundWindowClosed height evmTimeout = false) : 60 ≤ evmTimeout - height := by
  have hn : ¬ evmTimeout ≤ height + 60 := of_decide_eq_false h
  omega

/-- An answered deadline is exact. -/
theorem exactDeadline_answered {whole locktime : ℤ}
    (hc : assertCadence text input.timelockCadence = .ok ()) (hm : 0 ≤ input.orderMargin)
    (hw : input.converted = .finite whole) (hl : locktime = whole - input.orderMargin)
    (hp : Passes text input locktime) (he : (whole : ℚ) ≤ input.exact)
    (ha : quoteDeadline text input = .ok (.ok (.finite locktime))) :
    ExactDeadline text input := by
  have hfits := ((passes_iff hm hw).mp hp).2.2
  obtain ⟨k, hk⟩ := blocks_left hc hm hfits he
  have hb := exact_blocks hk
  have hsum : (locktime : ℚ) + input.orderMargin = whole := by
    rw [hl]
    push_cast
    ring
  have hd : ∀ deadline, quoteDeadline text input = .ok (.ok deadline) →
      deadline = .finite locktime := by
    intro deadline hd
    rw [ha] at hd
    cases hd
    rfl
  have hsame : ∀ other : ℤ, quoteDeadline text input = .ok (.ok (.finite other)) →
      other = locktime := by
    intro other ho
    have hq : (other : ℚ) = locktime := Number.finite.inj (hd _ ho)
    exact_mod_cast hq
  constructor
  · exact ⟨_, ha⟩
  · exact ⟨fun _ => ⟨locktime, hp⟩, fun _ => ⟨_, ha⟩⟩
  · intro deadline h
    refine ⟨locktime, hd deadline h, hp, fun other ho => ?_⟩
    have hother := ((passes_iff hm hw).mp ho).2.2.latest
    omega
  · intro other h arrival hf
    rw [hsame other h, hsum, hk]
    have hreach := hf.reaches k
    linarith
  · intro other h arrival hs hn
    have hr := hs.reaches (input.timelockHeight + 1) k
    have hadd : input.timelockHeight + 1 + (k : ℤ) = input.timelockHeight + (k + 1 : ℕ) := by
      push_cast
      ring
    rw [hadd, ← hk] at hr
    rw [hsame other h, hsum]
    push_cast at hb
    linarith
  · exact fun height => landing_blocks_left

/-- A refusal is exact where nothing lies in the windows. -/
theorem exactDeadline_refused {reason : EvmReceiveFundRefusal}
    (hn : ∀ locktime, ¬ Passes text input locktime)
    (ha : quoteDeadline text input = .ok (.error reason)) : ExactDeadline text input := by
  have hd : ∀ deadline, quoteDeadline text input ≠ .ok (.ok deadline) := by
    intro deadline h
    rw [ha] at h
    cases h
  constructor
  · exact ⟨_, ha⟩
  · constructor
    · rintro ⟨deadline, h⟩
      exact absurd h (hd deadline)
    · rintro ⟨other, ho⟩
      exact absurd ho (hn other)
  · exact fun deadline h => absurd h (hd deadline)
  · exact fun locktime h => absurd h (hd _)
  · exact fun locktime h => absurd h (hd _)
  · exact fun height => landing_blocks_left

/-- On a timeout and a latest deadline in unix seconds the quote answers the latest deadline
where it fits the windows, and otherwise nothing fits. -/
theorem quoteDeadline_cases {whole : ℤ} (hc : assertCadence text input.timelockCadence = .ok ())
    (hm : 0 ≤ input.orderMargin) (hl : UnixSeconds input.latestSafe)
    (hw : input.converted = .finite whole) (ht : LOCKTIME_THRESHOLD ≤ whole) :
    (Passes text input (whole - input.orderMargin) ∧
      input.nowSeconds + EVM_MIN_CLAIM_WINDOW_SECONDS + input.orderMargin ≤ whole ∧
      whole ≤ input.nowSeconds + EVM_MAX_CLIENT_TIMEOUT_SECONDS ∧
      quoteDeadline text input = .ok (.ok (.finite (whole - input.orderMargin : ℤ)))) ∨
    (¬ (input.nowSeconds + EVM_MIN_CLAIM_WINDOW_SECONDS + input.orderMargin ≤ whole ∧
        whole ≤ input.nowSeconds + EVM_MAX_CLIENT_TIMEOUT_SECONDS) ∧
      (∀ locktime, ¬ Passes text input locktime) ∧
      ∃ reason, quoteDeadline text input = .ok (.error reason)) := by
  have hwindow : 0 < EVM_MIN_CLAIM_WINDOW_SECONDS := by decide
  obtain ⟨latest, hlatest, hthreshold⟩ := hl
  have hanswers := quoteDeadline_answers hc ⟨latest, hlatest, hthreshold⟩ ⟨whole, hw, ht⟩
  rw [hlatest, inWindow_iff hm hw] at hanswers
  by_cases hopen : input.nowSeconds + EVM_MIN_CLAIM_WINDOW_SECONDS + input.orderMargin ≤ whole ∧
      whole ≤ input.nowSeconds + EVM_MAX_CLIENT_TIMEOUT_SECONDS
  · -- Inside the windows the margin comes off exactly.
    have hlater : input.nowSeconds + input.orderMargin < whole := by omega
    have hsub := sub_margin hm hlater hopen.2
    have hsame : latest = whole - input.orderMargin := by
      unfold EvmReceiveQuoteInput.latestSafe at hlatest
      rw [hw, hsub] at hlatest
      have hq : ((whole - input.orderMargin : ℤ) : ℚ) = latest := Number.finite.inj hlatest
      exact_mod_cast hq.symm
    have hfits : Fits input whole latest := ⟨by omega, hopen.2, by omega, by omega⟩
    obtain ⟨-, ha⟩ | ⟨hn, -⟩ := hanswers
    · rw [hsame] at hfits ha hthreshold
      exact .inl ⟨(passes_iff hm hw).mpr ⟨hthreshold, ht, hfits⟩, hopen.1, hopen.2, ha⟩
    · exact absurd hfits hn
  · have hnone : ∀ locktime, ¬ Fits input whole locktime := by
      intro locktime hf
      have hlow := hf.earliest
      have hhigh := hf.latest
      exact hopen ⟨by omega, hf.near⟩
    obtain ⟨hf, -⟩ | ⟨-, ha⟩ := hanswers
    · exact absurd hf (hnone latest)
    · exact .inr ⟨hopen, fun locktime hp => hnone _ ((passes_iff hm hw).mp hp).2.2, ha⟩

/-- The deadline part of a quote answers exactly, and in time, precisely when the client's
timeout converts to a whole number of unix seconds, a margin before as well, that rounding
has not put after the exact one inside the gate's windows; on a timeout that does not convert
to unix seconds it throws. -/
theorem evm_receive_deadline_exact {text : ℚ → String} {input : EvmReceiveQuoteInput}
    (hc : assertCadence text input.timelockCadence = .ok ()) (hm : 0 ≤ input.orderMargin) :
    (ExactDeadline text input ↔ Convertible input) ∧
      (¬ (UnixSeconds input.latestSafe ∧ UnixSeconds input.converted) →
        ∃ fault, quoteDeadline text input = .error fault) := by
  refine ⟨⟨fun h => ?_, fun h => ?_⟩, quoteDeadline_throws hc⟩
  · have hunix : UnixSeconds input.latestSafe ∧ UnixSeconds input.converted := by
      by_contra hn
      obtain ⟨fault, hf⟩ := quoteDeadline_throws hc hn
      obtain ⟨answer, ha⟩ := h.answers
      rw [hf] at ha
      cases ha
    refine ⟨hunix.2, hunix.1, fun whole hw hlow hhigh => ?_⟩
    obtain ⟨other, ho, ht⟩ := hunix.2
    have hq : (whole : ℚ) = other := Number.finite.inj (hw.symm.trans ho)
    have hsame : whole = other := by exact_mod_cast hq
    rw [← hsame] at ht
    obtain ⟨-, -, -, ha⟩ | ⟨hn, -⟩ := quoteDeadline_cases hc hm hunix.1 hw ht
    · -- The chain of exactly that cadence reaches the height at the exact moment.
      have hfast := (assertCadence_ok_iff.mp hc).1
      have hin := h.in_time _ ha _ (noFaster_steady hfast.le input.nowSeconds input.timelockHeight)
      unfold steady at hin
      unfold EvmReceiveQuoteInput.exact
      push_cast at hin ⊢
      linarith
    · exact absurd ⟨hlow, hhigh⟩ hn
  · obtain ⟨whole, hw, ht⟩ := h.timeout
    obtain ⟨hp, hlow, hhigh, ha⟩ | ⟨-, hn, reason, ha⟩ := quoteDeadline_cases hc hm h.latest hw ht
    · exact exactDeadline_answered hc hm hw rfl hp (h.not_late whole hw hlow hhigh) ha
    · exact exactDeadline_refused hn ha

/-- A client timeout this many blocks out on a chain of this cadence. -/
def sampleTimeout (blocks : ℤ) (fastest : ℚ) : EvmReceiveQuoteInput :=
  { evmTimeout := 300000000 + blocks, timelockHeight := 300000000, nowSeconds := 1700000000,
    orderMarginSeconds := none, timelockCadence := ⟨fastest, 1⟩ }

/-- The double nearest to a tenth, which lies above it. -/
def tenth : ℚ := 3602879701896397 / 36028797018963968

/-- Four hours of quarter-second blocks convert; and so does a span of tenth-second blocks
that is whole only once it is rounded. -/
theorem evm_receive_deadline_exact_sample :
    ExactDeadline toString (sampleTimeout 57600 (1 / 4)) ∧
      ExactDeadline toString (sampleTimeout 144010 tenth) ∧
      (sampleTimeout 144010 tenth).exact ≠ 1700014401 := by
  have hconvertible : ∀ blocks fastest (whole : ℤ),
      (sampleTimeout blocks fastest).converted = .finite whole →
      (sampleTimeout blocks fastest).latestSafe = .finite (whole - 7200 : ℤ) →
      LOCKTIME_THRESHOLD + 7200 ≤ whole → (whole : ℚ) ≤ (sampleTimeout blocks fastest).exact →
      Convertible (sampleTimeout blocks fastest) := by
    intro blocks fastest whole hw hl ht he
    refine ⟨⟨whole, hw, by omega⟩, ⟨whole - 7200, hl, by omega⟩, fun other ho _ _ => ?_⟩
    rw [hw] at ho
    rw [← Number.finite.inj ho]
    exact he
  have hquarter : Convertible (sampleTimeout 57600 (1 / 4)) :=
    hconvertible _ _ 1700014400 (by decide +kernel) (by decide +kernel) (by decide)
      (by decide +kernel)
  have htenth : Convertible (sampleTimeout 144010 tenth) :=
    hconvertible _ _ 1700014401 (by decide +kernel) (by decide +kernel) (by decide)
      (by decide +kernel)
  have hcadence : ∀ blocks fastest, 0 < fastest → fastest ≤ 1 →
      assertCadence toString (sampleTimeout blocks fastest).timelockCadence = .ok () :=
    fun blocks fastest hp hle => assertCadence_ok_iff.mpr ⟨hp, one_pos, hle⟩
  have hm : ∀ blocks fastest, 0 ≤ (sampleTimeout blocks fastest).orderMargin := by
    intro blocks fastest
    show 0 ≤ EVM_ORDER_MARGIN_SECONDS
    decide
  refine ⟨?_, ?_, by decide +kernel⟩
  · exact (evm_receive_deadline_exact (hcadence _ _ (by norm_num) (by norm_num)) (hm _ _)).1.mpr
      hquarter
  · exact (evm_receive_deadline_exact (hcadence _ _ (by norm_num [tenth]) (by norm_num [tenth]))
      (hm _ _)).1.mpr htenth

/-- One quarter-second block more and the quote throws. -/
theorem evm_receive_quote_throws :
    assertCadence toString (sampleTimeout 57601 (1 / 4)).timelockCadence = .ok () ∧
      (∃ fault, quoteDeadline toString (sampleTimeout 57601 (1 / 4)) = .error fault) ∧
      ¬ ExactDeadline toString (sampleTimeout 57601 (1 / 4)) := by
  have hc : assertCadence toString (sampleTimeout 57601 (1 / 4)).timelockCadence = .ok () :=
    assertCadence_ok_iff.mpr (by norm_num [sampleTimeout])
  have hn : ¬ (UnixSeconds (sampleTimeout 57601 (1 / 4)).latestSafe ∧
      UnixSeconds (sampleTimeout 57601 (1 / 4)).converted) := by
    rintro ⟨-, whole, hw, -⟩
    have hq : (sampleTimeout 57601 (1 / 4)).converted = .finite (6800057601 / 4) := by
      decide +kernel
    rw [hq] at hw
    have hden := congrArg Rat.den (Number.finite.inj hw)
    rw [Rat.den_intCast] at hden
    exact absurd hden (by decide +kernel)
  obtain ⟨fault, hf⟩ := quoteDeadline_throws hc hn
  refine ⟨hc, ⟨fault, hf⟩, fun h => ?_⟩
  obtain ⟨answer, ha⟩ := h.answers
  rw [hf] at ha
  cases ha

end IntentSolver.EvmReceiveTerms
