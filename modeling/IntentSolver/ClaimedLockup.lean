import IntentSolver.LightningSendCollection
import IntentSolver.OnchainSendCollection

/-!
# A `claimed` row has been collected

Both send corridors at once. A row that reaches `claimed` has collected every
output it adopted, whatever the indexer answered and however the clock moved,
as long as a pending claim that is finalized covers everything adopted and the
set recomputed after a claim holds nothing the claim left out. The code counts
both without looking, so each can close a row over an output nobody collected.
-/

namespace IntentSolver.ClaimedLockup

open SwapStore ArkadeLockup LockupCollection WorkerProgram WorkerInterleaving

/-- In every run of either corridor that counts its claims soundly, a `claimed`
row has collected everything it adopted. -/
theorem claimed_rows_are_collected (clock : ℕ)
    (lightning : LightningSend.WalletCaps) (sendQuote : LightningSendStore.QuoteRecord)
    (onchain : OnchainSend.WalletCaps) (hash : String → String)
    (onchainQuote : OnchainSendStore.OnchainQuoteRecord) :
    (∀ (events : List (Event (LightningSendWorld.sendMachine lightning)))
      (final : Config (LightningSendWorld.sendMachine lightning)),
      lightning.findLockupOutpoints = true → lightning.findClaimPreimage = true →
      run (boot (LightningSendWorld.quoted sendQuote clock)) events = some final →
      Permitted (LightningSendCollection.soundCounts lightning)
        (boot (LightningSendWorld.quoted sendQuote clock)) events →
      final.world.row.state = .claimed →
      ∀ adopted, final.world.row.lockupOutpoints = some adopted →
        ∀ output ∈ adopted, output.outpoint ∈ final.world.collected) ∧
    (∀ (events : List (Event (OnchainSendWorld.onchainMachine onchain hash)))
      (final : Config (OnchainSendWorld.onchainMachine onchain hash)),
      onchain.findLockupOutpoints = true → onchain.findClaimPreimage = true →
      run (boot (OnchainSendWorld.quoted onchainQuote clock)) events = some final →
      Permitted (OnchainSendCollection.soundCounts onchain hash)
        (boot (OnchainSendWorld.quoted onchainQuote clock)) events →
      final.world.row.state = .claimed →
      ∀ adopted, final.world.row.lockupOutpoints = some adopted →
        ∀ output ∈ adopted, output.outpoint ∈ final.world.collected) := by
  constructor
  · intro events final hw hf hr hp hc
    exact LightningSendCollection.claimed_collected hw hf hr hp hc
  · intro events final hw hf hr hp hc
    exact OnchainSendCollection.claimed_collected hw hf hr hp hc

section Lightning

open LightningSendStore LightningSendWorld

/-- One lockup, a payment that succeeds at once, and a claim the server takes. -/
def collectingReply : SendReply :=
  { lockups := .ok [⟨"l1", 0, 50500, [], none⟩]
    payment := .ok ⟨"p1", .succeeded, none, none, some "preimage", none⟩
    txid := .ok "claim" }

/-- One tick takes the row from its quote to `claimed`. -/
def lightningRun : List SampleEvent :=
  sampleTick 6 :: List.replicate 28 (sampleAct collectingReply)

end Lightning

section Onchain

open OnchainSendStore OnchainSendWorld

/-- The lockup in two outputs, one of them expiring a while after the claim deadline. -/
def firstOutput : FundedOutput := ⟨"l1", 0, 30000, [], none⟩

/-- The output that expires. -/
def expiringOutput : FundedOutput := ⟨"l1", 1, 20500, [], some 2000025300⟩

/-- The indexer shows both outputs. -/
def bothOutputs : OnchainReply := { lockups := .ok [firstOutput, expiringOutput] }

/-- Both outputs are adopted, the HTLC is funded, and the client's claim of it
reveals the preimage. -/
def revealedRun : List SampleEvent :=
  sampleTick 0 0 1 :: sampleActs 0 2 ++ [sampleAct 0 bothOutputs] ++ sampleActs 0 3 ++
    sampleTick 0 0 1 :: sampleActs 0 3 ++ [sampleAct 0 bothOutputs] ++ sampleActs 0 4 ++
    [sampleAct 0 bothOutputs] ++ sampleActs 0 1 ++
    [sampleAct 0 { funding := .ok sampleFunding }] ++ samplePublish ++
    sampleTick 0 0 1 ::
      List.replicate 5 (sampleAct 0 { witness := .ok (some ["signature", "preimage"]) })

/-- The claim takes both outputs in time. -/
def collectedRun : List SampleEvent :=
  revealedRun ++ sampleTick 0 0 1 :: sampleActs 0 2 ++ [sampleAct 0 bothOutputs] ++
    sampleActs 0 1 ++ [sampleAct 0 { txid := .ok "claim" }] ++ sampleActs 0 4

/-- The claim is made shortly before the second output expires, so it takes the
first one only; the server accepts it and the answer is lost. The next tick
sees the lockup spent and finalizes that claim. -/
def leftBehindRun : List SampleEvent :=
  revealedRun ++ [sampleWait 25100, sampleTick 0 0 1] ++ sampleActs 0 2 ++
    [sampleAct 0 bothOutputs] ++ sampleActs 0 1 ++
    [sampleAct 0 { txid := .error (.error "timeout"), landed := true }] ++ sampleActs 0 2 ++
    sampleTick 0 0 1 :: sampleActs 0 4 ++
    [sampleAct 0 { spendEvidence := .ok .spent },
      sampleAct 0 { finalized := .ok (some ("claim", [firstOutput.outpoint])) }] ++ sampleActs 0 2

/-- The row is closed as `claimed` over an adopted output nobody collected. -/
theorem claimed_over_an_uncollected_output :
    ((run (boot (quoted sampleQuote 2000000000)) leftBehindRun).map fun final =>
      (final.world.row.state,
        (final.world.row.lockupOutpoints.getD []).map fun output =>
          (output.outpoint == expiringOutput.outpoint,
            decide (output.outpoint ∈ final.world.collected)))) =
      some (.claimed, [(false, true), (true, false)]) := by
  decide +kernel

end Onchain

/-- One collected row of each corridor. -/
theorem claimed_rows_are_collected_sample :
    (∃ final, run (boot (LightningSendWorld.quoted LightningSendWorld.sampleQuote 2000000000))
        lightningRun = some final ∧ final.world.row.state = .claimed ∧
      ∀ adopted, final.world.row.lockupOutpoints = some adopted →
        ∀ output ∈ adopted, output.outpoint ∈ final.world.collected) ∧
    (∃ final, run (boot (OnchainSendWorld.quoted OnchainSendWorld.sampleQuote 2000000000))
        collectedRun = some final ∧ final.world.row.state = .claimed ∧
      ∀ adopted, final.world.row.lockupOutpoints = some adopted →
        ∀ output ∈ adopted, output.outpoint ∈ final.world.collected) := by
  have hboth := claimed_rows_are_collected 2000000000 LightningSendWorld.sampleWallet
    LightningSendWorld.sampleQuote OnchainSendWorld.sampleWallet OnchainSendWorld.sampleHash
    OnchainSendWorld.sampleQuote
  constructor
  · obtain ⟨final, hr⟩ : ∃ final, run (boot (LightningSendWorld.quoted
        LightningSendWorld.sampleQuote 2000000000)) lightningRun = some final :=
      Option.isSome_iff_exists.mp (by decide +kernel)
    have hs : ((run (boot (LightningSendWorld.quoted LightningSendWorld.sampleQuote 2000000000))
        lightningRun).map fun final => final.world.row.state) = some .claimed := by
      decide +kernel
    have hp : Permitted (LightningSendCollection.soundCounts LightningSendWorld.sampleWallet)
        (boot (LightningSendWorld.quoted LightningSendWorld.sampleQuote 2000000000))
        lightningRun := by decide +kernel
    rw [hr] at hs
    have hclaimed := Option.some.inj hs
    exact ⟨final, hr, hclaimed, hboth.1 _ final rfl rfl hr hp hclaimed⟩
  · obtain ⟨final, hr⟩ : ∃ final, run (boot (OnchainSendWorld.quoted
        OnchainSendWorld.sampleQuote 2000000000)) collectedRun = some final :=
      Option.isSome_iff_exists.mp (by decide +kernel)
    have hs : ((run (boot (OnchainSendWorld.quoted OnchainSendWorld.sampleQuote 2000000000))
        collectedRun).map fun final => final.world.row.state) = some .claimed := by
      decide +kernel
    have hp : Permitted (OnchainSendCollection.soundCounts OnchainSendWorld.sampleWallet
        OnchainSendWorld.sampleHash)
        (boot (OnchainSendWorld.quoted OnchainSendWorld.sampleQuote 2000000000))
        collectedRun := by decide +kernel
    rw [hr] at hs
    have hclaimed := Option.some.inj hs
    exact ⟨final, hr, hclaimed, hboth.2 _ final rfl rfl hr hp hclaimed⟩

end IntentSolver.ClaimedLockup
