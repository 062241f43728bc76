import IntentSolver.SwapStore

/-!
# Timelock arithmetic and the gates asked before money moves

A BIP68 delay and a BIP65 locktime carry their unit in their own magnitude.
Every gate reasons in unix seconds: a block delay is converted at the nominal
block interval and a height is projected from the chain tip. The gates here are
the ones the corridors ask right before they pay or fund; all numbers are whole
seconds, blocks or sats.
-/

namespace IntentSolver.SwapTimelocks

open SwapStore

/-- Seconds in a minute. -/
def MINUTE : ℤ := 60

/-- Seconds in an hour. -/
def HOUR : ℤ := 60 * MINUTE

/-- BIP65: from here on a locktime is a unix timestamp rather than a height. -/
def LOCKTIME_THRESHOLD : ℤ := 500000000

/-- BIP68 encodes relative time in units of this many seconds. -/
def SEQUENCE_GRANULARITY_SECONDS : ℤ := 512

/-- What one block is worth when a block delay meets a wall clock. -/
def NOMINAL_BLOCK_SECONDS : ℤ := 600

/-- Which clock a timelock counts on. -/
inductive TimelockUnit where
  | seconds
  | blocks
  deriving DecidableEq

/-- A BIP68 delay with the unit its raw value implies. -/
structure RelativeDelay where
  /-- Seconds or blocks. -/
  unit : TimelockUnit
  /-- The raw value. -/
  value : ℤ

/-- Read a raw delay's unit off its magnitude. -/
def relativeDelayFrom (raw : ℤ) : RelativeDelay :=
  ⟨if SEQUENCE_GRANULARITY_SECONDS ≤ raw then .seconds else .blocks, raw⟩

/-- A relative delay as seconds, for deadline reasoning only. -/
def relativeDelaySeconds (delay : RelativeDelay) : ℤ :=
  if delay.unit = .seconds then delay.value else delay.value * NOMINAL_BLOCK_SECONDS

/-- A raw delay as seconds. -/
def rawDelaySeconds (raw : ℤ) : ℤ := relativeDelaySeconds (relativeDelayFrom raw)

/-- Which unit a stored absolute locktime is in. -/
def absoluteLocktimeUnit (locktime : ℤ) : TimelockUnit :=
  if LOCKTIME_THRESHOLD ≤ locktime then .seconds else .blocks

/-- The clock and the chain tip, read at one moment. -/
structure ChainMoment where
  /-- Unix seconds. -/
  now : ℤ
  /-- Height of the chain tip. -/
  tipHeight : ℤ

/-- A stored locktime as a unix-seconds deadline; a height is projected. -/
def absoluteLocktimeSeconds (locktime : ℤ) (moment : ChainMoment) : ℤ :=
  if absoluteLocktimeUnit locktime = .seconds then locktime
  else moment.now + (locktime - moment.tipHeight) * NOMINAL_BLOCK_SECONDS

/-- Has the locktime opened, asked in its own unit. -/
def absoluteLocktimeReached (locktime : ℤ) (moment : ChainMoment) : Bool :=
  if absoluteLocktimeUnit locktime = .seconds then decide (locktime ≤ moment.now)
  else decide (locktime ≤ moment.tipHeight)

/-- Reject a locktime a verifier would not read as unix seconds. -/
def assertAbsoluteLocktime (locktime : ℤ) (label : String) : Except Fault Unit :=
  if locktime ≤ 0 then
    .error (.error (label ++ " must be positive, got " ++ toString locktime))
  else if absoluteLocktimeUnit locktime = .seconds then .ok ()
  else .error (.error (label ++ " " ++ toString locktime ++ " is below LOCKTIME_THRESHOLD (" ++
    toString LOCKTIME_THRESHOLD ++ ") and would be interpreted as a block height"))

/-- The locktime assertion passes exactly on what reads as unix seconds. -/
theorem assertAbsoluteLocktime_cases (locktime : ℤ) (label : String) :
    (locktime < LOCKTIME_THRESHOLD ∧
      ∃ fault, assertAbsoluteLocktime locktime label = .error fault) ∨
    (LOCKTIME_THRESHOLD ≤ locktime ∧ assertAbsoluteLocktime locktime label = .ok ()) := by
  unfold assertAbsoluteLocktime absoluteLocktimeUnit
  by_cases hp : locktime ≤ 0
  · rw [if_pos hp]
    exact .inl ⟨by unfold LOCKTIME_THRESHOLD; omega, _, rfl⟩
  · by_cases ht : LOCKTIME_THRESHOLD ≤ locktime
    · simp [hp, ht]
    · rw [if_neg hp, if_neg ht]
      exact .inl ⟨by omega, _, rfl⟩

/-! ## Lightning send -/

/-- Time that must be left on the invoice before it is paid. -/
def MIN_INVOICE_WINDOW : ℤ := 2 * MINUTE

/-- Time that must remain before the client's refund path opens. -/
def MIN_CLAIM_WINDOW : ℤ := 90 * MINUTE

/-- Default funding window of a quote. -/
def DEFAULT_LOCKUP_TIMEOUT : ℤ := 15 * MINUTE

/-- When a quote stops being fundable. -/
def lockupDeadlineFor (quotedAt invoiceExpiresAt lockupTimeout : ℤ) : ℤ :=
  min (quotedAt + lockupTimeout) (invoiceExpiresAt - MIN_INVOICE_WINDOW)

/-- Block interval used to turn a CLTV delta into wall-clock time. -/
def SECONDS_PER_BLOCK : ℤ := 10 * MINUTE

/-- Margin on top of the worst-case HTLC lifetime. -/
def REFUND_SAFETY_MARGIN : ℤ := 2 * HOUR

/-- The CLTV numbers of one payment, in blocks. -/
structure HtlcCltv where
  /-- Final CLTV delta the payee requires. -/
  minFinalCltvBlocks : ℤ
  /-- Worst route hint's total. -/
  worstRouteHintCltvBlocks : ℤ
  /-- Best route hint's total. -/
  bestRouteHintCltvBlocks : ℤ
  /-- What the route may add on top. -/
  routeCltvBudgetBlocks : ℤ
  /-- Whether the rail caps the route it picks. -/
  enforcesRouteCltv : Bool

/-- The hint reading this rail is bound by. -/
def hintCltvBlocks (cltv : HtlcCltv) : ℤ :=
  if cltv.enforcesRouteCltv then cltv.bestRouteHintCltvBlocks else cltv.worstRouteHintCltvBlocks

/-- Longest the outbound HTLC may stay live. -/
def worstCaseHtlcBlocks (cltv : HtlcCltv) : ℤ :=
  cltv.minFinalCltvBlocks + hintCltvBlocks cltv + cltv.routeCltvBudgetBlocks

/-- The CLTV ceiling this payment may be made with right now. -/
def payableCltvBlocks (cltv : HtlcCltv) (refundLocktime now : ℤ) : ℤ :=
  min (worstCaseHtlcBlocks cltv) ((refundLocktime - now - REFUND_SAFETY_MARGIN) / SECONDS_PER_BLOCK)

/-- Can the deadline still contain an HTLC that nothing will cap. -/
def deadlineContainsHtlc (cltv : HtlcCltv) (refundLocktime now : ℤ) : Bool :=
  decide (worstCaseHtlcBlocks cltv ≤ payableCltvBlocks cltv refundLocktime now)

/-- Does a stored solo delay still protect the refund quoted with it. -/
def refundWithoutReceiverDelayCovers (delay refundLocktime quotedAt : ℤ) : Bool :=
  decide (refundLocktime - quotedAt ≤ rawDelaySeconds delay)

/-- Inputs of the pay-time gate. -/
structure SendPaymentInput where
  /-- Absolute invoice expiry. -/
  invoiceExpiresAt : ℤ
  /-- When the client's refund path opens. -/
  refundLocktime : ℤ
  /-- Sats locked up at the swap address. -/
  lockedSats : ℤ
  /-- Sats the swap requires. -/
  expectedSats : ℤ
  /-- CLTV numbers of the row's invoice on the live rail. -/
  cltv : HtlcCltv
  /-- The clock. -/
  now : ℤ

/-- Decide whether to pay right now; the refusal is its wire reason. -/
def evaluateSendPayment (input : SendPaymentInput) : Except String Unit :=
  if input.expectedSats ≤ 0 ∨ input.lockedSats < input.expectedSats then
    .error "lockup_insufficient"
  else if input.invoiceExpiresAt ≤ input.now then .error "invoice_expired"
  else if input.invoiceExpiresAt - input.now < MIN_INVOICE_WINDOW then
    .error "invoice_expires_too_soon"
  else if input.refundLocktime - input.now < MIN_CLAIM_WINDOW then .error "claim_window_too_short"
  else if payableCltvBlocks input.cltv input.refundLocktime input.now ≤
      input.cltv.minFinalCltvBlocks + hintCltvBlocks input.cltv then
    .error "cltv_budget_too_short"
  else if !input.cltv.enforcesRouteCltv &&
      !deadlineContainsHtlc input.cltv input.refundLocktime input.now then
    .error "uncapped_route_deadline_too_short"
  else .ok ()

/-- Floor of the routing fee cap, in sats. -/
def MIN_ROUTING_FEE_CAP_SATS : ℤ := 25

/-- Routing fee cap of an unestimated payment: half a percent, rounded up. -/
def maxRoutingFeeSats (amountSats : ℤ) : ℤ := max MIN_ROUTING_FEE_CAP_SATS (-(-amountSats / 200))

/-! ## Lightning receive -/

/-- Settle window required between funding and the HTLC deadline. -/
def MIN_SETTLE_WINDOW : ℤ := 90 * MINUTE

/-- Gap kept between the refund path opening and the HTLC deadline. -/
def SETTLE_SAFETY_MARGIN : ℤ := 15 * MINUTE

/-- Gap kept between the solver's solo recourse and the HTLC deadline. -/
def UNILATERAL_RECOURSE_MARGIN : ℤ := 30 * MINUTE

/-- Inputs of the funding gate. -/
structure ReceiveFundingInput where
  /-- Expiry of the invoice handed out. -/
  invoiceExpiresAt : ℤ
  /-- The HTLC deadline, none while nothing is armed. -/
  htlcExpiresAt : Option ℤ
  /-- The refund deadline the script commits to. -/
  refundLocktime : ℤ
  /-- Delay of the leaf the solver can spend alone. -/
  unilateralRefundWithoutReceiverDelay : ℤ
  /-- Whether the operator accepted the unilateral gap. -/
  acceptUnilateralGap : Bool
  /-- The clock. -/
  now : ℤ

/-- Decide whether the Arkade side may be funded right now. The outer error
is the assertion on the locktime's unit; the inner one is a refusal. -/
def evaluateReceiveFunding (input : ReceiveFundingInput) : Except Fault (Except String Unit) :=
  if input.invoiceExpiresAt ≤ input.now then .ok (.error "invoice_expired")
  else match input.htlcExpiresAt with
    | none => .ok (.error "htlc_not_armed")
    | some htlcExpiresAt =>
      if htlcExpiresAt - input.now < MIN_SETTLE_WINDOW then .ok (.error "settle_window_too_short")
      else match assertAbsoluteLocktime input.refundLocktime "refundLocktime" with
        | .error fault => .error fault
        | .ok _ =>
          if htlcExpiresAt - SETTLE_SAFETY_MARGIN < input.refundLocktime then
            .ok (.error "refund_deadline_too_late")
          else if !input.acceptUnilateralGap && decide (htlcExpiresAt < input.now +
              rawDelaySeconds input.unilateralRefundWithoutReceiverDelay +
              UNILATERAL_RECOURSE_MARGIN) then
            .ok (.error "unilateral_recourse_after_htlc")
          else .ok (.ok ())

end IntentSolver.SwapTimelocks
