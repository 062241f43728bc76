import IntentSolver.SwapTimelocks

/-!
# Terms of a Lightning send: the quote's deadlines and the payment they allow

A quote fixes when the client's refund opens from the CLTV numbers of the
invoice and of the rail that would pay it; the payment is judged later, against
the clock of that moment and the rail that is live then. The two gates share the
worst-case HTLC length, so what the quote promises is what the payment finds.
-/

namespace IntentSolver.LightningSendTerms

open SwapTimelocks

/-- Extra CLTV budget of a rail that enforces the ceiling. -/
def ROUTE_CLTV_BUDGET_BLOCKS : ℤ := 432

/-- Longest funding window an operator may configure. -/
def MAX_LOCKUP_TIMEOUT : ℤ := REFUND_SAFETY_MARGIN

/-- The most CLTV an invoice may dictate to a rail that cannot cap its route. -/
def MAX_CLIENT_CLTV_BLOCKS : ℤ := 288

/-- When the client's refund path may open, given the invoice they supplied. -/
def refundLocktimeFor (cltv : HtlcCltv) (unilateralClaimDelay now lockupTimeout : ℤ) : ℤ :=
  -- A capped route absorbs the funding window in its ceiling; an uncapped one cannot.
  let fundingWindow := if cltv.enforcesRouteCltv then 0 else lockupTimeout
  let htlcBound :=
    now + worstCaseHtlcBlocks cltv * SECONDS_PER_BLOCK + fundingWindow + REFUND_SAFETY_MARGIN
  let unilateralBound := now + rawDelaySeconds unilateralClaimDelay + REFUND_SAFETY_MARGIN
  max htlcBound unilateralBound

/-- Why a send was refused at quote time. -/
inductive SendAcceptanceRefusal where
  | invoiceExpired
  | invoiceExpiresTooSoon
  | wrongNetwork
  | amountOutOfRange
  | zeroAmountInvoice
  | cltvTooLarge
  deriving DecidableEq

/-- What the quote-time gate looks at. -/
structure SendAcceptanceInput where
  /-- Absolute invoice expiry. -/
  invoiceExpiresAt : ℤ
  /-- Amount the invoice asks for, in sats. -/
  invoiceAmountSats : ℤ
  /-- Prefix carried by the invoice. -/
  invoiceNetwork : String
  /-- Prefix this provider serves. -/
  providerNetwork : String
  /-- Smallest servable amount. -/
  minSats : ℤ
  /-- Largest servable amount. -/
  maxSats : ℤ
  /-- CLTV numbers of the invoice on the quoting rail. -/
  cltv : HtlcCltv
  /-- The script's unilateral claim delay, raw. -/
  unilateralClaimDelay : ℤ
  /-- Funding window the quote grants. -/
  lockupTimeout : ℤ := DEFAULT_LOCKUP_TIMEOUT
  /-- The clock. -/
  now : ℤ

/-- The deadlines an accepted quote carries. -/
structure SendQuoteTerms where
  refundLocktime : ℤ
  lockupDeadline : ℤ
  deriving DecidableEq

/-- The numbers behind a `cltv_too_large`, for the operator's log. -/
def cltvTooLargeDetail (cltv : HtlcCltv) : String :=
  "final delta " ++ toString cltv.minFinalCltvBlocks ++ " + worst route hint " ++
    toString cltv.worstRouteHintCltvBlocks ++ " = " ++
    toString (cltv.minFinalCltvBlocks + cltv.worstRouteHintCltvBlocks) ++ " > " ++
    toString MAX_CLIENT_CLTV_BLOCKS ++
    " (worst-hint rule: backend cannot cap route CLTV; best hint " ++
    toString cltv.bestRouteHintCltvBlocks ++ ")"

/-- Decide whether to quote a send at all. An error is the refusal with its detail. -/
def evaluateSendAcceptance (input : SendAcceptanceInput) :
    Except (SendAcceptanceRefusal × Option String) SendQuoteTerms :=
  if input.invoiceNetwork ≠ input.providerNetwork then .error (.wrongNetwork, none)
  else if input.invoiceAmountSats ≤ 0 then .error (.zeroAmountInvoice, none)
  else if input.invoiceAmountSats < input.minSats ∨ input.maxSats < input.invoiceAmountSats then
    .error (.amountOutOfRange, none)
  else if input.invoiceExpiresAt ≤ input.now then .error (.invoiceExpired, none)
  else
    let lockupDeadline := lockupDeadlineFor input.now input.invoiceExpiresAt input.lockupTimeout
    if lockupDeadline ≤ input.now then .error (.invoiceExpiresTooSoon, none)
    else if input.cltv.enforcesRouteCltv = false ∧ MAX_CLIENT_CLTV_BLOCKS <
        input.cltv.minFinalCltvBlocks + input.cltv.worstRouteHintCltvBlocks then
      .error (.cltvTooLarge, some (cltvTooLargeDetail input.cltv))
    else .ok ⟨refundLocktimeFor input.cltv input.unilateralClaimDelay input.now input.lockupTimeout,
      lockupDeadline⟩

/-- What an accepted quote has passed, and the terms it carries. -/
theorem evaluateSendAcceptance_ok {input : SendAcceptanceInput} {terms : SendQuoteTerms}
    (h : evaluateSendAcceptance input = .ok terms) :
    0 < input.invoiceAmountSats ∧
    terms.refundLocktime =
      refundLocktimeFor input.cltv input.unilateralClaimDelay input.now input.lockupTimeout ∧
    terms.lockupDeadline =
      lockupDeadlineFor input.now input.invoiceExpiresAt input.lockupTimeout := by
  unfold evaluateSendAcceptance at h
  split at h
  · cases h
  split at h
  · cases h
  next ha =>
  split at h
  · cases h
  split at h
  · cases h
  dsimp only at h
  split at h
  · cases h
  split at h
  · cases h
  · cases h
    exact ⟨by omega, rfl, rfl⟩

/-- The pay-time gate says pay exactly when every one of its bounds holds. -/
theorem evaluateSendPayment_ok_iff {input : SendPaymentInput} :
    evaluateSendPayment input = .ok () ↔
      0 < input.expectedSats ∧ input.expectedSats ≤ input.lockedSats ∧
      input.now < input.invoiceExpiresAt ∧
      MIN_INVOICE_WINDOW ≤ input.invoiceExpiresAt - input.now ∧
      MIN_CLAIM_WINDOW ≤ input.refundLocktime - input.now ∧
      input.cltv.minFinalCltvBlocks + hintCltvBlocks input.cltv <
        payableCltvBlocks input.cltv input.refundLocktime input.now ∧
      (input.cltv.enforcesRouteCltv = false →
        worstCaseHtlcBlocks input.cltv ≤
          payableCltvBlocks input.cltv input.refundLocktime input.now) := by
  unfold evaluateSendPayment
  split
  · simp only [reduceCtorEq, false_iff]
    omega
  split
  · simp only [reduceCtorEq, false_iff]
    omega
  split
  · simp only [reduceCtorEq, false_iff]
    omega
  split
  · simp only [reduceCtorEq, false_iff]
    omega
  split
  · simp only [reduceCtorEq, false_iff]
    omega
  next hl he hi hc hb =>
  have hd : deadlineContainsHtlc input.cltv input.refundLocktime input.now = true ↔
      worstCaseHtlcBlocks input.cltv ≤
        payableCltvBlocks input.cltv input.refundLocktime input.now := by
    simp [deadlineContainsHtlc]
  split
  next hr =>
    rw [Bool.and_eq_true, Bool.not_eq_true', Bool.not_eq_true'] at hr
    have hn : ¬ worstCaseHtlcBlocks input.cltv ≤
        payableCltvBlocks input.cltv input.refundLocktime input.now := by
      rw [← hd, hr.2]
      simp
    simp only [reduceCtorEq, false_iff]
    exact fun h => hn (h.2.2.2.2.2.2 hr.1)
  next hr =>
    refine ⟨fun _ => ⟨by omega, by omega, by omega, by omega, by omega, by omega, fun hu => ?_⟩,
      fun _ => rfl⟩
    rw [← hd]
    simpa [hu] using hr

/-! ## The HTLC ends before the refund opens -/

/-- Longest the HTLC of this payment may live: the ceiling on a rail that enforces
it, the worst case on one that does not. -/
def outboundHtlcBlocks (payment : SendPaymentInput) : ℤ :=
  if payment.cltv.enforcesRouteCltv then
    payableCltvBlocks payment.cltv payment.refundLocktime payment.now
  else worstCaseHtlcBlocks payment.cltv

/-- The ceiling leaves the refund margin after the last block it allows. -/
theorem payableCltvBlocks_fits (cltv : HtlcCltv) (refundLocktime now : ℤ) :
    now + SECONDS_PER_BLOCK * payableCltvBlocks cltv refundLocktime now + REFUND_SAFETY_MARGIN ≤
      refundLocktime := by
  have hm := Int.min_le_right (worstCaseHtlcBlocks cltv)
    ((refundLocktime - now - REFUND_SAFETY_MARGIN) / SECONDS_PER_BLOCK)
  unfold payableCltvBlocks
  simp only [SECONDS_PER_BLOCK, REFUND_SAFETY_MARGIN, HOUR, MINUTE] at hm ⊢
  omega

/-- The ceiling never exceeds the worst case. -/
theorem payableCltvBlocks_le_worst (cltv : HtlcCltv) (refundLocktime now : ℤ) :
    payableCltvBlocks cltv refundLocktime now ≤ worstCaseHtlcBlocks cltv :=
  Int.min_le_left _ _

/-- A payment the gate allows never outlives the margin before the refund. -/
theorem outboundHtlcBlocks_between {payment : SendPaymentInput}
    (h : evaluateSendPayment payment = .ok ()) :
    payment.now + SECONDS_PER_BLOCK * outboundHtlcBlocks payment + REFUND_SAFETY_MARGIN ≤
        payment.refundLocktime ∧
      payment.cltv.minFinalCltvBlocks + hintCltvBlocks payment.cltv <
        outboundHtlcBlocks payment := by
  obtain ⟨-, -, -, -, -, hb, hu⟩ := evaluateSendPayment_ok_iff.mp h
  have hf := payableCltvBlocks_fits payment.cltv payment.refundLocktime payment.now
  have hw := payableCltvBlocks_le_worst payment.cltv payment.refundLocktime payment.now
  unfold outboundHtlcBlocks
  cases he : payment.cltv.enforcesRouteCltv with
  | true =>
    rw [if_pos rfl]
    exact ⟨hf, hb⟩
  | false =>
    -- Nothing caps this route, so the gate asked for the whole worst case.
    have heq := Int.le_antisymm hw (hu he)
    rw [heq] at hf hb
    rw [if_neg (by simp)]
    exact ⟨hf, hb⟩

/-- The refund never opens before the unilateral claim could be enforced. -/
theorem refundLocktimeFor_unilateral (cltv : HtlcCltv) (delay now lockupTimeout : ℤ) :
    now + rawDelaySeconds delay + REFUND_SAFETY_MARGIN ≤
      refundLocktimeFor cltv delay now lockupTimeout :=
  Int.le_max_right _ _

/-- The refund never opens before the worst HTLC of the quoting rail has ended. -/
theorem refundLocktimeFor_htlc (cltv : HtlcCltv) (delay now lockupTimeout : ℤ) :
    now + worstCaseHtlcBlocks cltv * SECONDS_PER_BLOCK +
        (if cltv.enforcesRouteCltv then 0 else lockupTimeout) + REFUND_SAFETY_MARGIN ≤
      refundLocktimeFor cltv delay now lockupTimeout :=
  Int.le_max_left _ _

/-- Whatever rail quoted, whatever rail pays, at whatever time and against whatever
deadline: a payment the gate allows carries an HTLC that ends a refund margin before
that deadline, is long enough for the payee and leaves a claim window; and the quoted
refund itself leaves the solver its unilateral claim. -/
theorem paid_htlc_ends_before_refund (quote : SendAcceptanceInput) (terms : SendQuoteTerms)
    (payment : SendPaymentInput) (ha : evaluateSendAcceptance quote = .ok terms)
    (hp : evaluateSendPayment payment = .ok ()) :
    payment.now + SECONDS_PER_BLOCK * outboundHtlcBlocks payment + REFUND_SAFETY_MARGIN ≤
        payment.refundLocktime ∧
      payment.cltv.minFinalCltvBlocks + hintCltvBlocks payment.cltv <
        outboundHtlcBlocks payment ∧
      MIN_CLAIM_WINDOW ≤ payment.refundLocktime - payment.now ∧
      quote.now + rawDelaySeconds quote.unilateralClaimDelay + REFUND_SAFETY_MARGIN ≤
        terms.refundLocktime := by
  obtain ⟨hf, hb⟩ := outboundHtlcBlocks_between hp
  obtain ⟨-, -, -, -, hw, -, -⟩ := evaluateSendPayment_ok_iff.mp hp
  obtain ⟨-, hr, -⟩ := evaluateSendAcceptance_ok ha
  refine ⟨hf, hb, hw, ?_⟩
  rw [hr]
  exact refundLocktimeFor_unilateral _ _ _ _

/-- The CLTV numbers a decoded invoice carries; hint totals are sums of hop deltas. -/
structure InvoiceCltv where
  minFinalCltvBlocks : ℕ
  worstRouteHintCltvBlocks : ℕ
  bestRouteHintCltvBlocks : ℕ
  best_le_worst : bestRouteHintCltvBlocks ≤ worstRouteHintCltvBlocks

/-- What a backend says about the routes it picks. -/
structure SendRail where
  routeCltvBudgetBlocks : ℤ
  enforcesRouteCltv : Bool

/-- The invoice's numbers on this rail. -/
def InvoiceCltv.on (invoice : InvoiceCltv) (rail : SendRail) : HtlcCltv :=
  ⟨invoice.minFinalCltvBlocks, invoice.worstRouteHintCltvBlocks, invoice.bestRouteHintCltvBlocks,
    rail.routeCltvBudgetBlocks, rail.enforcesRouteCltv⟩

/-- What an invoice dictates is never negative, whichever hint the rail is bound by. -/
theorem InvoiceCltv.demand_nonneg (invoice : InvoiceCltv) (rail : SendRail) :
    0 ≤ (invoice.on rail).minFinalCltvBlocks + hintCltvBlocks (invoice.on rail) := by
  unfold hintCltvBlocks InvoiceCltv.on
  dsimp only
  split <;> omega

/-- The worst case is the invoice's demand plus the rail's budget. -/
theorem InvoiceCltv.worst_on (invoice : InvoiceCltv) (rail : SendRail) :
    worstCaseHtlcBlocks (invoice.on rail) =
      (invoice.on rail).minFinalCltvBlocks + hintCltvBlocks (invoice.on rail) +
        rail.routeCltvBudgetBlocks := rfl

/-- A quote quoted on one rail and paid over an uncapped one ten minutes later. -/
theorem paid_htlc_ends_before_refund_sample :
    let invoice : InvoiceCltv := ⟨80, 144, 40, by decide⟩
    let quote : SendAcceptanceInput :=
      { invoiceExpiresAt := 1700003600, invoiceAmountSats := 50000, invoiceNetwork := "bc",
        providerNetwork := "bc", minSats := 1000, maxSats := 1000000,
        cltv := invoice.on ⟨432, true⟩, unilateralClaimDelay := 2048000, now := 1700000000 }
    let payment : SendPaymentInput :=
      ⟨1700003600, 1702055200, 50100, 50100, invoice.on ⟨2016, false⟩, 1700000600⟩
    evaluateSendAcceptance quote = .ok ⟨1702055200, 1700000900⟩ ∧
    evaluateSendPayment payment = .ok () ∧
    payment.now + SECONDS_PER_BLOCK * outboundHtlcBlocks payment + REFUND_SAFETY_MARGIN ≤
      payment.refundLocktime := by
  intro invoice quote payment
  have ha : evaluateSendAcceptance quote = .ok ⟨1702055200, 1700000900⟩ := by
    simp +decide [evaluateSendAcceptance, quote, invoice]
  have hp : evaluateSendPayment payment = .ok () := evaluateSendPayment_ok_iff.mpr (by decide)
  exact ⟨ha, hp, (paid_htlc_ends_before_refund quote _ payment ha hp).1⟩

/-! ## A prompt client is never refused -/

/-- Inside the funding window the deadline still affords more than the payee demands,
and on an uncapped rail the whole worst case. -/
theorem payable_within_window (invoice : InvoiceCltv) (rail : SendRail)
    (delay : ℤ) {quotedAt lockupTimeout now : ℤ}
    (hb : ROUTE_CLTV_BUDGET_BLOCKS ≤ rail.routeCltvBudgetBlocks)
    (hw : lockupTimeout ≤ MAX_LOCKUP_TIMEOUT) (hn : now ≤ quotedAt + lockupTimeout) :
    let cltv := invoice.on rail
    let refundLocktime := refundLocktimeFor cltv delay quotedAt lockupTimeout
    MIN_CLAIM_WINDOW ≤ refundLocktime - now ∧
      cltv.minFinalCltvBlocks + hintCltvBlocks cltv < payableCltvBlocks cltv refundLocktime now ∧
      (cltv.enforcesRouteCltv = false →
        worstCaseHtlcBlocks cltv ≤ payableCltvBlocks cltv refundLocktime now) := by
  intro cltv refundLocktime
  have hd := invoice.demand_nonneg rail
  have hc := invoice.worst_on rail
  have hr := refundLocktimeFor_htlc cltv delay quotedAt lockupTimeout
  change _ ≤ refundLocktime at hr
  change 0 ≤ cltv.minFinalCltvBlocks + hintCltvBlocks cltv at hd
  change worstCaseHtlcBlocks cltv = cltv.minFinalCltvBlocks + hintCltvBlocks cltv + _ at hc
  unfold payableCltvBlocks
  generalize refundLocktime = deadline at hr ⊢
  generalize hintCltvBlocks cltv = hint at hd hc ⊢
  generalize worstCaseHtlcBlocks cltv = worst at hc hr ⊢
  simp only [ROUTE_CLTV_BUDGET_BLOCKS, MAX_LOCKUP_TIMEOUT, REFUND_SAFETY_MARGIN, SECONDS_PER_BLOCK,
    MIN_CLAIM_WINDOW, HOUR, MINUTE] at *
  refine ⟨?_, ?_, fun hu => ?_⟩
  · split at hr <;> omega
  · split at hr <;> omega
  · rw [if_neg (by simp [hu])] at hr
    omega

/-- Every quote is payable to the end of its window: on the rail that quoted it, with
the same invoice and the lockup in full, the payment gate says pay at every moment up
to the lockup deadline. -/
theorem quoted_send_is_payable (invoice : InvoiceCltv) (rail : SendRail)
    (quote : SendAcceptanceInput) (terms : SendQuoteTerms) (expectedSats lockedSats now : ℤ)
    (hb : ROUTE_CLTV_BUDGET_BLOCKS ≤ rail.routeCltvBudgetBlocks)
    (hw : quote.lockupTimeout ≤ MAX_LOCKUP_TIMEOUT) (hc : quote.cltv = invoice.on rail)
    (ha : evaluateSendAcceptance quote = .ok terms)
    (he : quote.invoiceAmountSats ≤ expectedSats) (hl : expectedSats ≤ lockedSats)
    (hn : now ≤ terms.lockupDeadline) :
    evaluateSendPayment ⟨quote.invoiceExpiresAt, terms.refundLocktime, lockedSats, expectedSats,
      invoice.on rail, now⟩ = .ok () := by
  obtain ⟨hpos, hr, hd⟩ := evaluateSendAcceptance_ok ha
  have hq : now ≤ quote.now + quote.lockupTimeout :=
    Int.le_trans (hd ▸ hn) (Int.min_le_left _ _)
  have hi : now ≤ quote.invoiceExpiresAt - MIN_INVOICE_WINDOW :=
    Int.le_trans (hd ▸ hn) (Int.min_le_right _ _)
  obtain ⟨hclaim, hbudget, hroute⟩ :=
    payable_within_window invoice rail quote.unilateralClaimDelay hb hw hq
  rw [evaluateSendPayment_ok_iff]
  dsimp only
  rw [hr, hc]
  simp only [MIN_INVOICE_WINDOW, MINUTE] at hi ⊢
  exact ⟨by omega, hl, by omega, by omega, hclaim, hbudget, hroute⟩

/-- An uncapped rail, a two-hour window and a client that funds in its last second. -/
theorem quoted_send_is_payable_sample :
    let invoice : InvoiceCltv := ⟨80, 144, 40, by decide⟩
    let quote : SendAcceptanceInput :=
      { invoiceExpiresAt := 1700086400, invoiceAmountSats := 50000, invoiceNetwork := "bc",
        providerNetwork := "bc", minSats := 1000, maxSats := 1000000,
        cltv := invoice.on ⟨2016, false⟩, unilateralClaimDelay := 20, lockupTimeout := 7200,
        now := 1700000000 }
    evaluateSendAcceptance quote = .ok ⟨1701358400, 1700007200⟩ ∧
    evaluateSendPayment ⟨1700086400, 1701358400, 50100, 50100, invoice.on ⟨2016, false⟩,
      1700007200⟩ = .ok () := by
  intro invoice quote
  have ha : evaluateSendAcceptance quote = .ok ⟨1701358400, 1700007200⟩ := by
    simp +decide [evaluateSendAcceptance, quote, invoice]
  have hp := quoted_send_is_payable invoice ⟨2016, false⟩ quote _ 50100 50100 1700007200
    (by decide) (by decide) rfl ha (by decide) (by decide) (by decide)
  exact ⟨ha, hp⟩

end IntentSolver.LightningSendTerms
