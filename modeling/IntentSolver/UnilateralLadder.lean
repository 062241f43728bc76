import IntentSolver.SwapTimelocks

/-!
# The unilateral ladder of one quote

Three leaves of a swap script open on relative delays: the receiver's claim,
the refund both parties sign and the refund the funder signs alone. A delay
below 512 counts blocks and from there on seconds, so a ladder is one unit only
while every rung stays on one side of that threshold. A quote stretches the
deployment's ladder until the solo rung outlasts the refund horizon, re-clocking
a block ladder into seconds once the horizon no longer fits it.
-/

namespace IntentSolver.UnilateralLadder

open SwapStore SwapTimelocks

/-- True when the value is a whole number of BIP68 units. -/
def isEncodableRelativeDelay (seconds : ℤ) : Bool :=
  decide (0 < seconds) && decide (seconds % SEQUENCE_GRANULARITY_SECONDS = 0)

/-- True when the value is an encodable BIP68 delay in either unit. -/
def isEncodableDelay (raw : ℤ) : Bool :=
  if (relativeDelayFrom raw).unit = .blocks then decide (0 < raw) else isEncodableRelativeDelay raw

/-- The three unilateral delays of a script. -/
structure UnilateralDelays where
  /-- Receiver alone, holding the preimage. -/
  unilateralClaimDelay : ℤ
  /-- Client and receiver together. -/
  unilateralRefundDelay : ℤ
  /-- Client alone. -/
  unilateralRefundWithoutReceiverDelay : ℤ
  deriving DecidableEq

/-- How long after the claim the solo refund opens. -/
def SOLO_REFUND_HEADROOM_SECONDS : ℤ := 8 * SEQUENCE_GRANULARITY_SECONDS

/-- The same headroom on a block ladder. -/
def SOLO_REFUND_HEADROOM_BLOCKS : ℤ := 8

/-- The longest relative timelock BIP68 can encode. -/
def MAX_BIP68_SECONDS : ℤ := 0xffff * SEQUENCE_GRANULARITY_SECONDS

/-- The largest block-typed base delay, leaving room for the headroom. -/
def MAX_BIP68_BLOCKS : ℤ := SEQUENCE_GRANULARITY_SECONDS - SOLO_REFUND_HEADROOM_BLOCKS - 1

/-- Round up to the next whole BIP68 unit. -/
def ceilToGranularity (seconds : ℤ) : ℤ :=
  -(-seconds / SEQUENCE_GRANULARITY_SECONDS) * SEQUENCE_GRANULARITY_SECONDS

/-- One rung of a block ladder, re-clocked into seconds. -/
def secondsForBlockRung (blocks : ℤ) : ℤ := ceilToGranularity (blocks * NOMINAL_BLOCK_SECONDS)

/-- Derive the ladder from the Arkade server's own minimum exit delay. -/
def deriveUnilateralDelays (serverExitDelay : ℤ) : Except Fault UnilateralDelays :=
  if serverExitDelay ≤ 0 then
    .error (.error ("server exit delay must be a positive number, got " ++
      toString serverExitDelay))
  else if (relativeDelayFrom serverExitDelay).unit = .blocks then
    if MAX_BIP68_BLOCKS < serverExitDelay then
      .error (.error ("server exit delay " ++ toString serverExitDelay ++ " blocks exceeds " ++
        toString MAX_BIP68_BLOCKS ++ ": stacking " ++ toString SOLO_REFUND_HEADROOM_BLOCKS ++
        " blocks of solo-refund headroom on top would reach " ++
        toString SEQUENCE_GRANULARITY_SECONDS ++
        ", where a relative timelock stops meaning blocks and starts meaning seconds"))
    else .ok ⟨serverExitDelay, serverExitDelay, serverExitDelay + SOLO_REFUND_HEADROOM_BLOCKS⟩
  else if MAX_BIP68_SECONDS < serverExitDelay then
    .error (.error ("server exit delay " ++ toString serverExitDelay ++
      "s exceeds what BIP68 can encode"))
  else
    let base := ceilToGranularity serverExitDelay
    .ok ⟨base, base, base + SOLO_REFUND_HEADROOM_SECONDS⟩

/-- The rungs in the order the source lists them. -/
def UnilateralDelays.rungs (ladder : UnilateralDelays) : List ℤ :=
  [ladder.unilateralClaimDelay, ladder.unilateralRefundDelay,
    ladder.unilateralRefundWithoutReceiverDelay]

/-- Every rung reads back in this unit. -/
def UnilateralDelays.clocked (ladder : UnilateralDelays) (unit : TimelockUnit) : Bool :=
  ladder.rungs.all fun rung => decide ((relativeDelayFrom rung).unit = unit)

/-- What `JSON.stringify` prints of a ladder. -/
def UnilateralDelays.json (ladder : UnilateralDelays) : String :=
  "\x7b\"unilateralClaimDelay\":" ++ toString ladder.unilateralClaimDelay ++
    ",\"unilateralRefundDelay\":" ++ toString ladder.unilateralRefundDelay ++
    ",\"unilateralRefundWithoutReceiverDelay\":" ++
    toString ladder.unilateralRefundWithoutReceiverDelay ++ "\x7d"

/-- Refuse a ladder whose solo rung no seconds delay can carry. -/
def assertEncodableSolo (ladder : UnilateralDelays) : Except Fault UnilateralDelays :=
  let solo := ladder.unilateralRefundWithoutReceiverDelay
  if !isEncodableDelay solo || decide (MAX_BIP68_SECONDS < solo) then
    .error (.error ("refund horizon requires an unencodable seconds relative delay: " ++
      toString solo))
  else .ok ladder

/-- Size the ladder for one quote, so that the solo rung cannot open before the
quoted refund horizon. -/
def unilateralLadderFor (base : UnilateralDelays) (refundLocktime quotedAt : ℤ) :
    Except Fault UnilateralDelays :=
  let horizon := max 0 (refundLocktime - quotedAt)
  let solo := base.unilateralRefundWithoutReceiverDelay
  if base.clocked .seconds then
    assertEncodableSolo
      { base with unilateralRefundWithoutReceiverDelay := max solo (ceilToGranularity horizon) }
  else if base.clocked .blocks then
    let requiredBlocks := -(-horizon / NOMINAL_BLOCK_SECONDS)
    if max solo requiredBlocks < SEQUENCE_GRANULARITY_SECONDS then
      .ok { base with unilateralRefundWithoutReceiverDelay := max solo requiredBlocks }
    else
      assertEncodableSolo
        ⟨secondsForBlockRung base.unilateralClaimDelay,
          secondsForBlockRung base.unilateralRefundDelay,
          max (secondsForBlockRung solo) (ceilToGranularity horizon)⟩
  else .error (.error ("unilateral ladder base mixes units: " ++ base.json))

/-! ## Rounding to the granularity -/

/-- Rounding up stays within one unit of what it rounds. -/
theorem ceilToGranularity_bounds (seconds : ℤ) :
    seconds ≤ ceilToGranularity seconds ∧ ceilToGranularity seconds < seconds + 512 ∧
      ceilToGranularity seconds % 512 = 0 := by
  unfold ceilToGranularity SEQUENCE_GRANULARITY_SECONDS
  omega

/-- A re-clocked rung opens no earlier than its blocks and within one unit of them. -/
theorem secondsForBlockRung_bounds (blocks : ℤ) :
    blocks * 600 ≤ secondsForBlockRung blocks ∧ secondsForBlockRung blocks < blocks * 600 + 512 ∧
      secondsForBlockRung blocks % 512 = 0 :=
  ceilToGranularity_bounds (blocks * NOMINAL_BLOCK_SECONDS)

/-- Re-clocking keeps the order of two rungs, because a block outweighs a unit. -/
theorem secondsForBlockRung_strict {low high : ℤ} (h : low < high) :
    secondsForBlockRung low < secondsForBlockRung high := by
  have hl := secondsForBlockRung_bounds low
  have hh := secondsForBlockRung_bounds high
  omega

/-- More blocks take no fewer seconds. -/
theorem secondsForBlockRung_mono {low high : ℤ} (h : low ≤ high) :
    secondsForBlockRung low ≤ secondsForBlockRung high := by
  have hl := secondsForBlockRung_bounds low
  have hh := secondsForBlockRung_bounds high
  omega

/-! ## Reading a rung back -/

/-- A delay is in seconds exactly from 512 on. -/
theorem unit_seconds_iff {raw : ℤ} : (relativeDelayFrom raw).unit = .seconds ↔ 512 ≤ raw := by
  unfold relativeDelayFrom SEQUENCE_GRANULARITY_SECONDS
  by_cases h : (512 : ℤ) ≤ raw <;> simp [h]

/-- A delay is in blocks exactly below 512. -/
theorem unit_blocks_iff {raw : ℤ} : (relativeDelayFrom raw).unit = .blocks ↔ raw < 512 := by
  unfold relativeDelayFrom SEQUENCE_GRANULARITY_SECONDS
  by_cases h : (512 : ℤ) ≤ raw
  · simp [h]
  · simp [h]
    omega

/-- A raw delay below the threshold is worth its blocks, from there on its seconds. -/
theorem rawDelaySeconds_eq (raw : ℤ) :
    rawDelaySeconds raw = if 512 ≤ raw then raw else raw * 600 := by
  unfold rawDelaySeconds relativeDelaySeconds
  simp only [unit_seconds_iff]
  rfl

/-- A delay is encodable when it is positive and, in seconds, whole in steps of 512. -/
theorem isEncodableDelay_iff {raw : ℤ} :
    isEncodableDelay raw = true ↔ 0 < raw ∧ (512 ≤ raw → raw % 512 = 0) := by
  unfold isEncodableDelay isEncodableRelativeDelay SEQUENCE_GRANULARITY_SECONDS
  simp only [unit_blocks_iff]
  split
  · simp only [decide_eq_true_eq]
    omega
  · simp only [Bool.and_eq_true, decide_eq_true_eq]
    omega

/-- A ladder runs in seconds when all three of its rungs do. -/
theorem clocked_seconds_iff {ladder : UnilateralDelays} :
    ladder.clocked .seconds = true ↔ 512 ≤ ladder.unilateralClaimDelay ∧
      512 ≤ ladder.unilateralRefundDelay ∧ 512 ≤ ladder.unilateralRefundWithoutReceiverDelay := by
  simp [UnilateralDelays.clocked, UnilateralDelays.rungs, unit_seconds_iff]

/-- A ladder runs in blocks when all three of its rungs do. -/
theorem clocked_blocks_iff {ladder : UnilateralDelays} :
    ladder.clocked .blocks = true ↔ ladder.unilateralClaimDelay < 512 ∧
      ladder.unilateralRefundDelay < 512 ∧ ladder.unilateralRefundWithoutReceiverDelay < 512 := by
  simp [UnilateralDelays.clocked, UnilateralDelays.rungs, unit_blocks_iff]

/-! ## Well-formed ladders -/

/-- Every rung is an encodable delay of one unit and the solo rung opens last. -/
structure UnilateralDelays.WellFormed (ladder : UnilateralDelays) (unit : TimelockUnit) : Prop where
  encodable : ∀ rung ∈ ladder.rungs, isEncodableDelay rung = true
  clocked : ladder.clocked unit = true
  claim_le_refund : ladder.unilateralClaimDelay ≤ ladder.unilateralRefundDelay
  refund_lt_solo : ladder.unilateralRefundDelay < ladder.unilateralRefundWithoutReceiverDelay

/-- A ladder is encodable when all three of its rungs are. -/
theorem encodable_rungs {ladder : UnilateralDelays} :
    (∀ rung ∈ ladder.rungs, isEncodableDelay rung = true) ↔
      isEncodableDelay ladder.unilateralClaimDelay = true ∧
      isEncodableDelay ladder.unilateralRefundDelay = true ∧
      isEncodableDelay ladder.unilateralRefundWithoutReceiverDelay = true := by
  simp [UnilateralDelays.rungs]

/-- A seconds ladder in numbers. -/
theorem wellFormed_seconds_iff {ladder : UnilateralDelays} :
    ladder.WellFormed .seconds ↔
      512 ≤ ladder.unilateralClaimDelay ∧ ladder.unilateralClaimDelay % 512 = 0 ∧
      ladder.unilateralRefundDelay % 512 = 0 ∧
      ladder.unilateralRefundWithoutReceiverDelay % 512 = 0 ∧
      ladder.unilateralClaimDelay ≤ ladder.unilateralRefundDelay ∧
      ladder.unilateralRefundDelay < ladder.unilateralRefundWithoutReceiverDelay := by
  constructor
  · rintro ⟨he, hc, hcr, hrs⟩
    rw [encodable_rungs] at he
    simp only [isEncodableDelay_iff] at he
    rw [clocked_seconds_iff] at hc
    omega
  · rintro ⟨hc, hcm, hrm, hsm, hcr, hrs⟩
    refine ⟨?_, clocked_seconds_iff.mpr ⟨by omega, by omega, by omega⟩, hcr, hrs⟩
    rw [encodable_rungs]
    simp only [isEncodableDelay_iff]
    omega

/-- A block ladder in numbers. -/
theorem wellFormed_blocks_iff {ladder : UnilateralDelays} :
    ladder.WellFormed .blocks ↔
      0 < ladder.unilateralClaimDelay ∧
      ladder.unilateralClaimDelay ≤ ladder.unilateralRefundDelay ∧
      ladder.unilateralRefundDelay < ladder.unilateralRefundWithoutReceiverDelay ∧
      ladder.unilateralRefundWithoutReceiverDelay < 512 := by
  constructor
  · rintro ⟨he, hc, hcr, hrs⟩
    rw [encodable_rungs] at he
    simp only [isEncodableDelay_iff] at he
    rw [clocked_blocks_iff] at hc
    omega
  · rintro ⟨hc, hcr, hrs, hs⟩
    refine ⟨?_, clocked_blocks_iff.mpr ⟨by omega, by omega, hs⟩, hcr, hrs⟩
    rw [encodable_rungs]
    simp only [isEncodableDelay_iff]
    omega

/-- Whatever exit delay the server asks for, the derived ladder is well formed in
the unit that delay is in. -/
theorem deriveUnilateralDelays_wellFormed {serverExitDelay : ℤ} {ladder : UnilateralDelays}
    (h : deriveUnilateralDelays serverExitDelay = .ok ladder) :
    ladder.WellFormed (relativeDelayFrom serverExitDelay).unit := by
  unfold deriveUnilateralDelays at h
  split at h
  · cases h
  next hp =>
  split at h
  next hu =>
    split at h
    · cases h
    · cases h
      rw [hu, wellFormed_blocks_iff]
      simp only [MAX_BIP68_BLOCKS, SEQUENCE_GRANULARITY_SECONDS, SOLO_REFUND_HEADROOM_BLOCKS] at *
      omega
  next hu =>
    split at h
    · cases h
    · cases h
      have hs : 512 ≤ serverExitDelay := by
        rw [unit_blocks_iff] at hu
        omega
      have hc := ceilToGranularity_bounds serverExitDelay
      rw [unit_seconds_iff.mpr hs, wellFormed_seconds_iff]
      simp only [SOLO_REFUND_HEADROOM_SECONDS, SEQUENCE_GRANULARITY_SECONDS]
      omega

/-! ## Stretching a ladder -/

/-- The longest delay a unit can write. -/
def longest : TimelockUnit → ℤ
  | .seconds => MAX_BIP68_SECONDS
  | .blocks => SEQUENCE_GRANULARITY_SECONDS - 1

/-- The solo rung a horizon needs, on the seconds clock. -/
def neededSolo (base : UnilateralDelays) (refundLocktime quotedAt : ℤ) : ℤ :=
  ceilToGranularity (max (rawDelaySeconds base.unilateralRefundWithoutReceiverDelay)
    (refundLocktime - quotedAt))

/-- What a quote may rely on when its ladder was stretched from the deployment's. -/
structure Stretched (base ladder : UnilateralDelays) (refundLocktime quotedAt : ℤ) : Prop where
  wellFormed : ∃ unit, ladder.WellFormed unit
  /-- No rung is longer than BIP68 can write in its unit. -/
  within : ∀ rung ∈ ladder.rungs, rung ≤ longest (relativeDelayFrom rung).unit
  claim_no_earlier :
    rawDelaySeconds base.unilateralClaimDelay ≤ rawDelaySeconds ladder.unilateralClaimDelay
  refund_no_earlier :
    rawDelaySeconds base.unilateralRefundDelay ≤ rawDelaySeconds ladder.unilateralRefundDelay
  solo_no_earlier : rawDelaySeconds base.unilateralRefundWithoutReceiverDelay ≤
    rawDelaySeconds ladder.unilateralRefundWithoutReceiverDelay
  covers : refundWithoutReceiverDelayCovers ladder.unilateralRefundWithoutReceiverDelay
    refundLocktime quotedAt = true
  claim_growth : rawDelaySeconds ladder.unilateralClaimDelay <
    rawDelaySeconds base.unilateralClaimDelay + SEQUENCE_GRANULARITY_SECONDS
  refund_growth : rawDelaySeconds ladder.unilateralRefundDelay <
    rawDelaySeconds base.unilateralRefundDelay + SEQUENCE_GRANULARITY_SECONDS

/-- The refund margin over the base claim delay survives the stretch. -/
theorem Stretched.claim_before_refund {base ladder : UnilateralDelays}
    {refundLocktime quotedAt : ℤ} (h : Stretched base ladder refundLocktime quotedAt)
    (hm : quotedAt + rawDelaySeconds base.unilateralClaimDelay + REFUND_SAFETY_MARGIN ≤
      refundLocktime) :
    quotedAt + rawDelaySeconds ladder.unilateralClaimDelay < refundLocktime := by
  have hg := h.claim_growth
  simp only [SEQUENCE_GRANULARITY_SECONDS, REFUND_SAFETY_MARGIN, HOUR, MINUTE] at hg hm
  omega

/-- A seconds solo rung is refused exactly when BIP68 cannot carry it. -/
theorem assertEncodableSolo_eq {ladder : UnilateralDelays} (hw : ladder.WellFormed .seconds) :
    (ladder.unilateralRefundWithoutReceiverDelay ≤ MAX_BIP68_SECONDS ∧
      assertEncodableSolo ladder = .ok ladder) ∨
    (MAX_BIP68_SECONDS < ladder.unilateralRefundWithoutReceiverDelay ∧
      ∃ fault, assertEncodableSolo ladder = .error fault) := by
  have he : isEncodableDelay ladder.unilateralRefundWithoutReceiverDelay = true :=
    (encodable_rungs.mp hw.encodable).2.2
  unfold assertEncodableSolo
  by_cases hm : MAX_BIP68_SECONDS < ladder.unilateralRefundWithoutReceiverDelay
  · rw [if_pos (by simp [hm])]
    exact .inr ⟨hm, _, rfl⟩
  · rw [if_neg (by simp [he, hm])]
    exact .inl ⟨by omega, rfl⟩

/-- The refund delay covers a quote when it lasts from then to the refund locktime. -/
theorem covers_iff {delay refundLocktime quotedAt : ℤ} :
    refundWithoutReceiverDelayCovers delay refundLocktime quotedAt = true ↔
      refundLocktime - quotedAt ≤ rawDelaySeconds delay := by
  simp [refundWithoutReceiverDelayCovers]

/-- Rungs below the solo rung are no longer than it is. -/
theorem within_of_solo {ladder : UnilateralDelays} {unit : TimelockUnit}
    (hw : ladder.WellFormed unit)
    (hm : ladder.unilateralRefundWithoutReceiverDelay ≤ MAX_BIP68_SECONDS) :
    ∀ rung ∈ ladder.rungs, rung ≤ longest (relativeDelayFrom rung).unit := by
  have hcr := hw.claim_le_refund
  have hrs := hw.refund_lt_solo
  intro rung hr
  have hle : rung ≤ MAX_BIP68_SECONDS := by
    simp only [UnilateralDelays.rungs, List.mem_cons, List.not_mem_nil, or_false] at hr
    omega
  cases hu : (relativeDelayFrom rung).unit with
  | seconds => exact hle
  | blocks =>
    have hb := unit_blocks_iff.mp hu
    simp only [longest, SEQUENCE_GRANULARITY_SECONDS]
    omega

/-- A seconds ladder only raises its solo rung. -/
theorem stretched_seconds {base : UnilateralDelays} (hb : base.WellFormed .seconds)
    (refundLocktime quotedAt : ℤ) :
    let ladder : UnilateralDelays :=
      { base with
        unilateralRefundWithoutReceiverDelay := max base.unilateralRefundWithoutReceiverDelay
          (ceilToGranularity (max 0 (refundLocktime - quotedAt))) }
    ladder.WellFormed .seconds ∧
      (ladder.unilateralRefundWithoutReceiverDelay ≤ MAX_BIP68_SECONDS →
        Stretched base ladder refundLocktime quotedAt) ∧
      ladder.unilateralRefundWithoutReceiverDelay = neededSolo base refundLocktime quotedAt := by
  intro ladder
  have hw := wellFormed_seconds_iff.mp hb
  have hc := ceilToGranularity_bounds (max 0 (refundLocktime - quotedAt))
  have hn := ceilToGranularity_bounds (max (rawDelaySeconds
    base.unilateralRefundWithoutReceiverDelay) (refundLocktime - quotedAt))
  have hl : ladder.WellFormed .seconds := by
    rw [wellFormed_seconds_iff]
    dsimp only [ladder]
    omega
  simp only [rawDelaySeconds_eq] at hn
  refine ⟨hl, fun hm => ⟨⟨_, hl⟩, within_of_solo hl hm, Int.le_refl _, Int.le_refl _, ?_,
    covers_iff.mpr ?_, ?_, ?_⟩, ?_⟩
  all_goals
    simp only [ladder, neededSolo, rawDelaySeconds_eq, SEQUENCE_GRANULARITY_SECONDS]
    omega

/-- A block ladder that the horizon still fits only raises its solo rung. -/
theorem stretched_blocks {base : UnilateralDelays} (hb : base.WellFormed .blocks)
    {refundLocktime quotedAt required : ℤ}
    (hr : required = -(-max 0 (refundLocktime - quotedAt) / NOMINAL_BLOCK_SECONDS))
    (hf : max base.unilateralRefundWithoutReceiverDelay required < SEQUENCE_GRANULARITY_SECONDS) :
    let ladder : UnilateralDelays :=
      { base with
        unilateralRefundWithoutReceiverDelay :=
          max base.unilateralRefundWithoutReceiverDelay required }
    Stretched base ladder refundLocktime quotedAt := by
  intro ladder
  have hw := wellFormed_blocks_iff.mp hb
  simp only [NOMINAL_BLOCK_SECONDS] at hr
  simp only [SEQUENCE_GRANULARITY_SECONDS] at hf
  have hl : ladder.WellFormed .blocks := by
    rw [wellFormed_blocks_iff]
    dsimp only [ladder]
    omega
  have hm : ladder.unilateralRefundWithoutReceiverDelay ≤ MAX_BIP68_SECONDS := by
    simp only [ladder, MAX_BIP68_SECONDS, SEQUENCE_GRANULARITY_SECONDS]
    omega
  refine ⟨⟨_, hl⟩, within_of_solo hl hm, Int.le_refl _, Int.le_refl _, ?_, covers_iff.mpr ?_, ?_,
    ?_⟩
  all_goals
    simp only [ladder, rawDelaySeconds_eq, SEQUENCE_GRANULARITY_SECONDS]
    omega

/-- A block ladder the horizon has outgrown is re-clocked rung by rung. -/
theorem stretched_reclocked {base : UnilateralDelays} (hb : base.WellFormed .blocks)
    (refundLocktime quotedAt : ℤ) :
    let ladder : UnilateralDelays :=
      ⟨secondsForBlockRung base.unilateralClaimDelay,
        secondsForBlockRung base.unilateralRefundDelay,
        max (secondsForBlockRung base.unilateralRefundWithoutReceiverDelay)
          (ceilToGranularity (max 0 (refundLocktime - quotedAt)))⟩
    ladder.WellFormed .seconds ∧
      (ladder.unilateralRefundWithoutReceiverDelay ≤ MAX_BIP68_SECONDS →
        Stretched base ladder refundLocktime quotedAt) ∧
      ladder.unilateralRefundWithoutReceiverDelay = neededSolo base refundLocktime quotedAt := by
  intro ladder
  have hw := wellFormed_blocks_iff.mp hb
  have hc := secondsForBlockRung_bounds base.unilateralClaimDelay
  have hr := secondsForBlockRung_bounds base.unilateralRefundDelay
  have hs := secondsForBlockRung_bounds base.unilateralRefundWithoutReceiverDelay
  have hh := ceilToGranularity_bounds (max 0 (refundLocktime - quotedAt))
  have hcr := secondsForBlockRung_mono hb.claim_le_refund
  have hrs := secondsForBlockRung_strict hb.refund_lt_solo
  have hn := ceilToGranularity_bounds (max (rawDelaySeconds
    base.unilateralRefundWithoutReceiverDelay) (refundLocktime - quotedAt))
  have hl : ladder.WellFormed .seconds := by
    rw [wellFormed_seconds_iff]
    dsimp only [ladder]
    omega
  simp only [rawDelaySeconds_eq] at hn
  refine ⟨hl, fun hm => ⟨⟨_, hl⟩, within_of_solo hl hm, ?_, ?_, ?_, covers_iff.mpr ?_, ?_, ?_⟩,
    ?_⟩
  all_goals
    simp only [ladder, neededSolo, rawDelaySeconds_eq, SEQUENCE_GRANULARITY_SECONDS]
    omega

/-- Each branch either stretches the ladder or refuses a solo rung past BIP68's reach. -/
theorem unilateralLadderFor_cases (base : UnilateralDelays) (unit : TimelockUnit)
    (hb : base.WellFormed unit) (refundLocktime quotedAt : ℤ) :
    (∃ ladder, unilateralLadderFor base refundLocktime quotedAt = .ok ladder ∧
      Stretched base ladder refundLocktime quotedAt) ∨
    ((∃ fault, unilateralLadderFor base refundLocktime quotedAt = .error fault) ∧
      MAX_BIP68_SECONDS < neededSolo base refundLocktime quotedAt) := by
  unfold unilateralLadderFor
  dsimp only
  cases unit with
  | seconds =>
    obtain ⟨hl, hs, hn⟩ := stretched_seconds hb refundLocktime quotedAt
    rw [if_pos hb.clocked, ← hn]
    obtain ⟨hm, ho⟩ | ⟨hm, hf⟩ := assertEncodableSolo_eq hl
    · exact .inl ⟨_, ho, hs hm⟩
    · exact .inr ⟨hf, hm⟩
  | blocks =>
    have hu : ¬ base.clocked .seconds = true := by
      have hw := wellFormed_blocks_iff.mp hb
      rw [clocked_seconds_iff]
      omega
    rw [if_neg hu, if_pos hb.clocked]
    split
    next hf => exact .inl ⟨_, rfl, stretched_blocks hb rfl hf⟩
    next =>
      obtain ⟨hl, hs, hn⟩ := stretched_reclocked hb refundLocktime quotedAt
      rw [← hn]
      obtain ⟨hm, ho⟩ | ⟨hm, hf⟩ := assertEncodableSolo_eq hl
      · exact .inl ⟨_, ho, hs hm⟩
      · exact .inr ⟨hf, hm⟩

/-- Stretching a well-formed ladder either refuses, and only because BIP68 cannot
carry the solo rung the horizon needs, or gives a well-formed ladder of one unit
that BIP68 can carry, which covers the horizon, opens no rung early and leaves the
refund margin standing. -/
theorem unilateralLadderFor_stretches (base : UnilateralDelays) (unit : TimelockUnit)
    (hb : base.WellFormed unit) (refundLocktime quotedAt : ℤ) :
    (∃ ladder, unilateralLadderFor base refundLocktime quotedAt = .ok ladder ∧
      Stretched base ladder refundLocktime quotedAt ∧
      (quotedAt + rawDelaySeconds base.unilateralClaimDelay + REFUND_SAFETY_MARGIN ≤
          refundLocktime →
        quotedAt + rawDelaySeconds ladder.unilateralClaimDelay < refundLocktime)) ∨
    ((∃ fault, unilateralLadderFor base refundLocktime quotedAt = .error fault) ∧
      MAX_BIP68_SECONDS < neededSolo base refundLocktime quotedAt) := by
  obtain ⟨ladder, hl, hs⟩ | hf := unilateralLadderFor_cases base unit hb refundLocktime quotedAt
  · exact .inl ⟨ladder, hl, hs, hs.claim_before_refund⟩
  · exact .inr hf

/-- A block ladder with a two-week horizon: re-clocked, and the claim still opens first. -/
theorem unilateralLadderFor_stretches_sample :
    (UnilateralDelays.mk 20 20 28).WellFormed .blocks ∧
    ∃ ladder, unilateralLadderFor ⟨20, 20, 28⟩ 1701216800 1700000000 = .ok ladder ∧
      Stretched ⟨20, 20, 28⟩ ladder 1701216800 1700000000 ∧
      1700000000 + rawDelaySeconds ladder.unilateralClaimDelay < 1701216800 := by
  have hb : (UnilateralDelays.mk 20 20 28).WellFormed .blocks := by
    rw [wellFormed_blocks_iff]
    decide
  obtain ⟨ladder, hl, hs, hc⟩ | ⟨-, hm⟩ :=
    unilateralLadderFor_stretches ⟨20, 20, 28⟩ .blocks hb 1701216800 1700000000
  · exact ⟨hb, ladder, hl, hs, hc (by decide)⟩
  · exact absurd hm (by decide)

/-! ## Ladders near the limits -/

/-- How much later than the claim the solo refund opens. -/
def headroom : TimelockUnit → ℤ
  | .seconds => SOLO_REFUND_HEADROOM_SECONDS
  | .blocks => SOLO_REFUND_HEADROOM_BLOCKS

/-- Every rung can be written and read back in the unit of the server's delay and is no
shorter, and the solo rung has its headroom. -/
structure UnilateralDelays.Carries (ladder : UnilateralDelays) (serverExitDelay : ℤ) : Prop where
  encodable : ∀ rung ∈ ladder.rungs, isEncodableDelay rung = true
  within : ∀ rung ∈ ladder.rungs, rung ≤ longest (relativeDelayFrom serverExitDelay).unit
  clocked : ∀ rung ∈ ladder.rungs,
    (relativeDelayFrom rung).unit = (relativeDelayFrom serverExitDelay).unit
  no_shorter : ∀ rung ∈ ladder.rungs, serverExitDelay ≤ rung
  headroom : ladder.unilateralRefundWithoutReceiverDelay =
    ladder.unilateralClaimDelay + headroom (relativeDelayFrom serverExitDelay).unit

/-- What an accepted delay is turned into, unit by unit. -/
theorem deriveUnilateralDelays_cases {serverExitDelay : ℤ} {ladder : UnilateralDelays}
    (h : deriveUnilateralDelays serverExitDelay = .ok ladder) :
    (serverExitDelay < 512 ∧ serverExitDelay ≤ MAX_BIP68_BLOCKS ∧
      ladder = ⟨serverExitDelay, serverExitDelay,
        serverExitDelay + SOLO_REFUND_HEADROOM_BLOCKS⟩) ∨
    (512 ≤ serverExitDelay ∧ serverExitDelay ≤ MAX_BIP68_SECONDS ∧
      ladder = ⟨ceilToGranularity serverExitDelay, ceilToGranularity serverExitDelay,
        ceilToGranularity serverExitDelay + SOLO_REFUND_HEADROOM_SECONDS⟩) := by
  unfold deriveUnilateralDelays at h
  split at h
  · cases h
  split at h
  next hu =>
    split at h
    · cases h
    next hm => exact .inl ⟨unit_blocks_iff.mp hu, Int.not_lt.mp hm, (Except.ok.inj h).symm⟩
  next hu =>
    split at h
    · cases h
    next hm =>
      rw [unit_blocks_iff, Int.not_lt] at hu
      exact .inr ⟨hu, Int.not_lt.mp hm, (Except.ok.inj h).symm⟩

/-- The base is checked against the limit and the headroom stacked on top of it, so an
accepted delay gets a ladder BIP68 can carry exactly when it leaves the solo rung its
headroom below the limit of the seconds. -/
theorem derived_ladder_carries_iff {serverExitDelay : ℤ} {ladder : UnilateralDelays}
    (h : deriveUnilateralDelays serverExitDelay = .ok ladder) :
    ladder.Carries serverExitDelay ↔
      serverExitDelay ≤ MAX_BIP68_SECONDS - SOLO_REFUND_HEADROOM_SECONDS := by
  have hwell := deriveUnilateralDelays_wellFormed h
  have hclocked : ∀ rung ∈ ladder.rungs,
      (relativeDelayFrom rung).unit = (relativeDelayFrom serverExitDelay).unit := fun rung hr =>
    of_decide_eq_true (List.all_eq_true.mp hwell.clocked rung hr)
  obtain ⟨hu, hm, rfl⟩ | ⟨hu, hm, rfl⟩ := deriveUnilateralDelays_cases h
  · have hunit := unit_blocks_iff.mpr hu
    simp only [MAX_BIP68_BLOCKS, MAX_BIP68_SECONDS, SOLO_REFUND_HEADROOM_SECONDS,
      SOLO_REFUND_HEADROOM_BLOCKS, SEQUENCE_GRANULARITY_SECONDS] at hm ⊢
    constructor
    · intro _
      omega
    · intro _
      refine ⟨hwell.encodable, fun rung hr => ?_, hclocked, fun rung hr => ?_, ?_⟩
      · rw [hunit]
        simp only [UnilateralDelays.rungs, List.mem_cons, List.not_mem_nil, or_false] at hr
        simp only [longest, SEQUENCE_GRANULARITY_SECONDS]
        omega
      · simp only [UnilateralDelays.rungs, List.mem_cons, List.not_mem_nil, or_false] at hr
        omega
      · rw [hunit]
        rfl
  · have hunit := unit_seconds_iff.mpr hu
    have hceil := ceilToGranularity_bounds serverExitDelay
    constructor
    · intro hc
      have htop := hc.within _ (List.mem_cons_of_mem _ (List.mem_cons_of_mem _
        (List.mem_singleton.mpr rfl)))
      rw [hunit] at htop
      simp only [longest] at htop
      omega
    · intro hroom
      refine ⟨hwell.encodable, fun rung hr => ?_, hclocked, fun rung hr => ?_, ?_⟩
      · rw [hunit]
        simp only [UnilateralDelays.rungs, List.mem_cons, List.not_mem_nil, or_false] at hr
        simp only [longest, MAX_BIP68_SECONDS, SOLO_REFUND_HEADROOM_SECONDS,
          SEQUENCE_GRANULARITY_SECONDS] at hr hroom ⊢
        omega
      · simp only [UnilateralDelays.rungs, List.mem_cons, List.not_mem_nil, or_false,
          SOLO_REFUND_HEADROOM_SECONDS, SEQUENCE_GRANULARITY_SECONDS] at hr
        omega
      · rw [hunit]
        rfl

/-- Regtest's twenty blocks are carried. -/
theorem derived_ladder_carries_sample :
    deriveUnilateralDelays 20 = .ok ⟨20, 20, 28⟩ ∧
      (UnilateralDelays.mk 20 20 28).Carries 20 := by
  have h : deriveUnilateralDelays 20 = .ok ⟨20, 20, 28⟩ := rfl
  exact ⟨h, (derived_ladder_carries_iff h).mpr (by decide)⟩

/-- The largest delay that is accepted gets a solo rung BIP68 cannot carry. -/
theorem largest_delay_is_not_carried :
    ¬∀ (serverExitDelay : ℤ) (ladder : UnilateralDelays),
      deriveUnilateralDelays serverExitDelay = .ok ladder → ladder.Carries serverExitDelay := by
  intro hall
  have h : deriveUnilateralDelays 33553920 = .ok ⟨33553920, 33553920, 33558016⟩ := rfl
  have htop := (hall _ _ h).within 33558016 (by decide)
  exact absurd htop (by decide)

end IntentSolver.UnilateralLadder
