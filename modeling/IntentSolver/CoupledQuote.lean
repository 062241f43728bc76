import IntentSolver.LightningReceiveStore
import IntentSolver.LightningReceiveTerms
import IntentSolver.LightningSendStore
import IntentSolver.LightningSendTerms
import IntentSolver.UnilateralLadder

/-!
# The quote of a coupled send

A client that asks the send corridor to pay an invoice the receive corridor has
minted is refreshing its own funds: the two rows share one payment hash and no
Lightning payment will ever be made. The quote couples the rows, and only here
are the two refund deadlines ordered, since neither corridor can ask the other
later. This is the part of the send quote that runs when the receive store
answers a live row. Everything it reads is an argument; the address checks, the
peers' stores and the admission of the row are left out.
-/

namespace IntentSolver.CoupledQuote

open SwapStore SwapTimelocks LightningSendTerms UnilateralLadder
open LightningReceiveTerms (absoluteLocktimeIn)
open LightningSendStore (QuoteRecord)
open LightningReceiveStore (ReceiveSwapRow ReceiveQuoteRecord)

/-- `Ds` must land at least a full claim window after `Dr`. -/
def evaluateCouplingDeadlines (sendRefundLocktime receiveRefundLocktime : ℤ) : Except String Unit :=
  if MIN_CLAIM_WINDOW ≤ sendRefundLocktime - receiveRefundLocktime then .ok ()
  else .error "coupled_deadline_unsafe"

/-- The part of the send corridor's configuration its quote reads. -/
structure SendQuoteDeps where
  providerPubkey : String
  invoicePrefix : String
  minSats : ℤ
  maxSats : ℤ
  /-- The deployment's ladder, as it was derived when the process started. -/
  delays : UnilateralDelays
  delays_wellFormed : ∃ unit, delays.WellFormed unit
  lockupTimeout : ℤ
  routeCltvBudgetBlocks : ℤ
  enforcesRouteCltv : Bool
  /-- A chain tip provider is wired. -/
  chainTip : Bool

/-- What one quote was asked and what it read, in the order it read it. -/
structure SendQuoteReads where
  id : String
  rawInvoice : String
  /-- The decoded invoice: its hash, expiry, amount, network and CLTV numbers. -/
  paymentHash : String
  expiresAt : ℤ
  amountSats : ℤ
  network : String
  minFinalCltvBlocks : ℤ
  worstRouteHintCltvBlocks : ℤ
  bestRouteHintCltvBlocks : ℤ
  quotedAt : ℤ
  /-- When the deadline was raised over the receive row's. -/
  raised : ChainMoment
  /-- When the two deadlines were compared. -/
  compared : ChainMoment
  /-- When the deadline was turned into the script's locktime. -/
  written : ChainMoment
  /-- What the client must lock up: the invoice and the corridor's cut. -/
  lockupSats : ℤ
  refundPkScript : String
  clientRefundPubkey : String
  pkScript : String

/-- How a quote ends without a row. -/
inductive QuoteFailure where
  /-- The answer to the client, with the detail some refusals carry. -/
  | refused (reason : String) (detail : Option String)
  | threw (fault : Fault)

/-- Wire reason of a quote-time refusal. -/
def reasonName : SendAcceptanceRefusal → String
  | .invoiceExpired => "invoice_expired"
  | .invoiceExpiresTooSoon => "invoice_expires_too_soon"
  | .wrongNetwork => "wrong_network"
  | .amountOutOfRange => "amount_out_of_range"
  | .zeroAmountInvoice => "zero_amount_invoice"
  | .cltvTooLarge => "cltv_too_large"

variable (deps : SendQuoteDeps)

/-- `refundDeadlineSeconds` on the reads of one moment. -/
def deadlineSeconds (refundLocktime : ℤ) (moment : ChainMoment) : Except QuoteFailure ℤ :=
  if absoluteLocktimeUnit refundLocktime = .seconds then .ok refundLocktime
  else if deps.chainTip then .ok (absoluteLocktimeSeconds refundLocktime moment)
  else .error (.threw (.error ("refund locktime " ++ toString refundLocktime ++
    " is a block height, but no chainTip provider is wired — a block-typed deployment needs one " ++
    "to size the remaining claim window")))

/-- A unix-seconds deadline as the locktime this deployment writes. -/
def absoluteLocktimeFor (deadline ladderDelay : ℤ) (moment : ChainMoment) :
    Except QuoteFailure ℤ :=
  if (relativeDelayFrom ladderDelay).unit = .seconds then .ok deadline
  else if deps.chainTip then
    match absoluteLocktimeIn deadline .blocks moment with
    | .ok locktime => .ok locktime
    | .error fault => .error (.threw fault)
  else .error (.threw (.error ("this deployment has block-typed timelocks, so a refund deadline " ++
    "must be written as a height — but no chainTip provider is wired")))

variable (coupled : ReceiveSwapRow) (reads : SendQuoteReads)

/-- The invoice is the very one the receive corridor minted. -/
def exactCoupledInvoice : Bool :=
  decide (reads.rawInvoice.toLower = coupled.invoice.toLower)

/-- What the quote-time gate is asked: an invoice of ours has no route. -/
def acceptanceInput : SendAcceptanceInput where
  invoiceExpiresAt := reads.expiresAt
  invoiceAmountSats := reads.amountSats
  invoiceNetwork := reads.network
  providerNetwork := deps.invoicePrefix
  minSats := deps.minSats
  maxSats := deps.maxSats
  cltv := if exactCoupledInvoice coupled reads then ⟨0, 0, 0, 0, true⟩
    else ⟨reads.minFinalCltvBlocks, reads.worstRouteHintCltvBlocks, reads.bestRouteHintCltvBlocks,
      deps.routeCltvBudgetBlocks, deps.enforcesRouteCltv⟩
  unilateralClaimDelay := deps.delays.unilateralClaimDelay
  lockupTimeout := deps.lockupTimeout
  now := reads.quotedAt

/-- The accepted deadline, raised a claim window over the receive row's. -/
def quotedDeadline : Except QuoteFailure ℤ :=
  match evaluateSendAcceptance (acceptanceInput deps coupled reads) with
  | .error (reason, detail) => .error (.refused (reasonName reason) detail)
  | .ok terms =>
    if exactCoupledInvoice coupled reads then do
      let receiveDeadline ← deadlineSeconds deps coupled.refundLocktime reads.raised
      return max terms.refundLocktime (receiveDeadline + MIN_CLAIM_WINDOW)
    else return terms.refundLocktime

/-- The gates only a live receive row meets. -/
def couplingGates (deadline : ℤ) : Except QuoteFailure Unit := do
  if coupled.state ≠ .quoted then throw (.refused "duplicate_swap" none)
  if reads.rawInvoice.toLower ≠ coupled.invoice.toLower then
    throw (.refused "coupled_invoice_mismatch" none)
  let receiveDeadline ← deadlineSeconds deps coupled.refundLocktime reads.compared
  match evaluateCouplingDeadlines deadline receiveDeadline with
  | .ok _ => return ()
  | .error reason => throw (.refused reason none)

/-- The ladder of this quote. -/
def quoteLadder (deadline : ℤ) : Except QuoteFailure UnilateralDelays :=
  match unilateralLadderFor deps.delays deadline reads.quotedAt with
  | .ok ladder => .ok ladder
  | .error fault => .error (.refused "cltv_too_large" (some fault.message))

/-- The row of an accepted quote. -/
def quoteRecord (deadline : ℤ) (ladder : UnilateralDelays) (refundLocktime : ℤ) : QuoteRecord where
  id := reads.id
  invoice := reads.rawInvoice.toLower
  paymentHash := reads.paymentHash
  amountSats := reads.lockupSats
  invoiceExpiresAt := reads.expiresAt
  quotedRefundDeadline := some deadline
  refundLocktime := refundLocktime
  receiverPubkey := deps.providerPubkey
  refundWithoutReceiverDelay := ladder.unilateralRefundWithoutReceiverDelay
  pkScript := reads.pkScript
  refundPkScript := some reads.refundPkScript
  clientRefundPubkey := some reads.clientRefundPubkey
  quotedRoutingFeeSats := none

/-- The send quote when the receive store answers a live row. -/
def coupledSendQuote : Except QuoteFailure QuoteRecord := do
  let deadline ← quotedDeadline deps coupled reads
  couplingGates deps coupled reads deadline
  let ladder ← quoteLadder deps reads deadline
  let refundLocktime ← absoluteLocktimeFor deps deadline ladder.unilateralClaimDelay reads.written
  return quoteRecord deps reads deadline ladder refundLocktime

/-! ## What an accepted quote has fixed -/

variable {deps coupled reads}

/-- Only the capital letters are moved. -/
theorem charToLower_eq {c : Char} (h : ¬ (c.val ≥ 'A'.val ∧ c.val ≤ 'Z'.val)) :
    c.toLower = c :=
  dif_neg h

/-- A capital letter's code grows by the distance of `a` from `A`. -/
theorem charToLower_val {c : Char} (h : c.val ≥ 'A'.val ∧ c.val ≤ 'Z'.val) :
    c.toLower.val = c.val + ('a'.val - 'A'.val) := by
  have hc : c.toLower = ⟨c.val + ('a'.val - 'A'.val), _⟩ := dif_pos h
  rw [hc]

/-- Lowering a lowered character changes nothing. -/
theorem charToLower_idem (c : Char) : c.toLower.toLower = c.toLower := by
  by_cases h : c.val ≥ 'A'.val ∧ c.val ≤ 'Z'.val
  · have hn : ¬ (c.toLower.val ≥ 'A'.val ∧ c.toLower.val ≤ 'Z'.val) := by
      rintro ⟨-, hz⟩
      rw [charToLower_val h] at hz
      simp only [ge_iff_le, UInt32.le_iff_toNat_le, UInt32.toNat_add] at h hz
      simp at h hz
      omega
    exact charToLower_eq hn
  · rw [charToLower_eq h, charToLower_eq h]

/-- Lowering a lowered invoice changes nothing. -/
theorem toLower_toLower (s : String) : s.toLower.toLower = s.toLower := by
  have hc : Char.toLower ∘ Char.toLower = Char.toLower := funext charToLower_idem
  unfold String.toLower
  rw [String.map_map, hc]

/-- A resolved deadline is the locktime as seconds of that moment. -/
theorem deadlineSeconds_ok {refundLocktime deadline : ℤ} {moment : ChainMoment}
    (h : deadlineSeconds deps refundLocktime moment = .ok deadline) :
    deadline = absoluteLocktimeSeconds refundLocktime moment := by
  unfold deadlineSeconds at h
  split at h
  · next hu =>
    cases h
    rw [absoluteLocktimeSeconds, if_pos hu]
  · split at h
    · cases h
      rfl
    · cases h

/-- Passed gates: the invoice is ours, and the deadline leaves a claim window. -/
theorem couplingGates_ok {deadline : ℤ} (h : couplingGates deps coupled reads deadline = .ok ()) :
    reads.rawInvoice.toLower = coupled.invoice.toLower ∧
      absoluteLocktimeSeconds coupled.refundLocktime reads.compared + MIN_CLAIM_WINDOW ≤
        deadline := by
  unfold couplingGates at h
  by_cases hs : coupled.state = .quoted
  · by_cases hi : reads.rawInvoice.toLower = coupled.invoice.toLower
    · cases hd : deadlineSeconds deps coupled.refundLocktime reads.compared with
      | error failure => simp [hs, hi, hd, bind, Except.bind] at h
      | ok receiveDeadline =>
        rw [← deadlineSeconds_ok hd]
        refine ⟨hi, ?_⟩
        by_contra hn
        have hw : ¬ MIN_CLAIM_WINDOW ≤ deadline - receiveDeadline := by omega
        simp [hs, hi, hd, hw, bind, Except.bind, evaluateCouplingDeadlines] at h
    · simp [hs, hi, bind, Except.bind] at h
  · simp [hs, bind, Except.bind] at h

/-- A quote's ladder covers its own deadline. -/
theorem quoteLadder_covers {deadline : ℤ} {ladder : UnilateralDelays}
    (h : quoteLadder deps reads deadline = .ok ladder) :
    refundWithoutReceiverDelayCovers ladder.unilateralRefundWithoutReceiverDelay deadline
      reads.quotedAt = true := by
  obtain ⟨unit, hw⟩ := deps.delays_wellFormed
  unfold quoteLadder at h
  obtain ⟨stretched, hl, hs⟩ | ⟨⟨fault, hl⟩, -⟩ :=
    unilateralLadderFor_cases deps.delays unit hw deadline reads.quotedAt
  · rw [hl] at h
    cases h
    exact hs.covers
  · rw [hl] at h
    cases h

/-- The script carries the deadline, in seconds or as the height it rounds up to. -/
theorem absoluteLocktimeFor_ok {deadline ladderDelay locktime : ℤ} {moment : ChainMoment}
    (h : absoluteLocktimeFor deps deadline ladderDelay moment = .ok locktime) :
    ∃ unit, absoluteLocktimeIn deadline unit moment = .ok locktime := by
  unfold absoluteLocktimeFor at h
  split at h
  · cases h
    exact ⟨.seconds, rfl⟩
  · split at h
    · split at h
      · next hl =>
        cases h
        exact ⟨.blocks, hl⟩
      · cases h
    · cases h

/-- What a coupled row relies on for as long as it lives. -/
structure Coupled (deps : SendQuoteDeps) (receive : ReceiveQuoteRecord) (reads : SendQuoteReads)
    (record : QuoteRecord) : Prop where
  receiverPubkey : record.receiverPubkey = deps.providerPubkey
  invoice : receive.invoice.toLower = record.invoice.toLower
  /-- The quoted refund opens a claim window after the receive row's, no earlier than
  the client's solo refund may, and is the locktime its script carries. -/
  deadline : ∃ deadline unit, record.quotedRefundDeadline = some deadline ∧
    absoluteLocktimeSeconds receive.refundLocktime reads.compared + MIN_CLAIM_WINDOW ≤ deadline ∧
    refundWithoutReceiverDelayCovers record.refundWithoutReceiverDelay deadline
      reads.quotedAt = true ∧
    absoluteLocktimeIn deadline unit reads.written = .ok record.refundLocktime

/-- Every accepted coupled quote has fixed all of it. -/
theorem coupledSendQuote_ok {record : QuoteRecord}
    (h : coupledSendQuote deps coupled reads = .ok record) :
    Coupled deps coupled.toReceiveQuoteRecord reads record := by
  unfold coupledSendQuote at h
  cases hd : quotedDeadline deps coupled reads with
  | error failure => simp [hd, bind, Except.bind] at h
  | ok deadline =>
    cases hg : couplingGates deps coupled reads deadline with
    | error failure => simp [hd, hg, bind, Except.bind] at h
    | ok passed =>
      cases hl : quoteLadder deps reads deadline with
      | error failure => simp [hd, hg, hl, bind, Except.bind] at h
      | ok ladder =>
        cases ha : absoluteLocktimeFor deps deadline ladder.unilateralClaimDelay reads.written with
        | error failure => simp [hd, hg, hl, ha, bind, Except.bind] at h
        | ok locktime =>
          simp only [hd, hg, hl, ha, bind, Except.bind, pure, Except.pure] at h
          cases h
          obtain ⟨hi, hw⟩ := couplingGates_ok hg
          obtain ⟨unit, hu⟩ := absoluteLocktimeFor_ok ha
          refine ⟨rfl, ?_, deadline, unit, rfl, hw, quoteLadder_covers hl, hu⟩
          rw [quoteRecord, toLower_toLower, hi]

end IntentSolver.CoupledQuote
