import IntentSolver.WorkerProgram
import IntentSolver.WorkerSum
import IntentSolver.WorkerInterleaving
import IntentSolver.SwapStore
import IntentSolver.SwapTimelocks
import IntentSolver.ChainClock
import IntentSolver.ArkadeLockup
import IntentSolver.LockupCollection
import IntentSolver.LightningPort
import IntentSolver.LightningSendStore
import IntentSolver.LightningReceiveStore
import IntentSolver.LightningSend
import IntentSolver.LightningSendWorld
import IntentSolver.LightningReceive
import IntentSolver.LightningReceiveFunding
import IntentSolver.LightningReceiveLease
import IntentSolver.LightningPayDiscipline
import IntentSolver.LightningSendExclusion
import IntentSolver.LightningSendSteps
import IntentSolver.LightningSendRefunds
import IntentSolver.CollectedLockup
import IntentSolver.LightningSendCollection
import IntentSolver.OnchainTerms
import IntentSolver.OnchainSend
import IntentSolver.OnchainSendWorld
import IntentSolver.OnchainSendSteps
import IntentSolver.OnchainSendStore
import IntentSolver.OnchainFundingDiscipline
import IntentSolver.OnchainFunding
import IntentSolver.OnchainFundingMemory
import IntentSolver.OnchainRefundVersions
import IntentSolver.OnchainForeignSpends
import IntentSolver.OnchainSendCollection
import IntentSolver.ClaimedLockup
import IntentSolver.UnilateralLadder
import IntentSolver.LightningSendTerms
import IntentSolver.LightningReceiveTerms
import IntentSolver.OnchainQuoteTerms
import IntentSolver.EvmSendPlan
import IntentSolver.EvmPort
import IntentSolver.SerialService
import IntentSolver.RollingBudget
import IntentSolver.RefillPolicy
import IntentSolver.RebalanceSafety
import IntentSolver.RebalanceInvariant
import IntentSolver.RebalanceJobs
import IntentSolver.RebalanceLicence
import IntentSolver.RebalanceService
import IntentSolver.RebalanceTransfers
import IntentSolver.KeyedRows
import IntentSolver.SingleCommit
import IntentSolver.EvmSend
import IntentSolver.EvmSendCommit
import IntentSolver.EvmReceivePlan
import IntentSolver.EvmReceive
import IntentSolver.EvmReceiveCommit
import IntentSolver.EvmCommitOnce
import IntentSolver.EvmReceiveClaims
import IntentSolver.Admission
import IntentSolver.AdmissionAccounting
import IntentSolver.HouseExposure
import IntentSolver.CoupledQuote
import IntentSolver.CoupledPair
import IntentSolver.CoupledWorkers
import IntentSolver.CoupledSelfPayment
import IntentSolver.Fallible
import IntentSolver.ChainPace
import IntentSolver.EvmBlockTime
import IntentSolver.EvmSendTerms
import IntentSolver.EvmReceiveTerms
import IntentSolver.ProgramTraces
import IntentSolver.RangePaging
import IntentSolver.EvmLogScan
import IntentSolver.EvmClaimScan
import IntentSolver.EvmReceiveRuns
import IntentSolver.BigEndian
import IntentSolver.EvmRlp
import IntentSolver.HexText
import IntentSolver.EvmTransaction
import IntentSolver.EvmClaimEvidence
import IntentSolver.EvmClaimHistory
import IntentSolver.EvmClaimAnswers
import IntentSolver.EvmClaimSoundness
import IntentSolver.SoloRuns
import IntentSolver.EvmSendLockup
import IntentSolver.EvmSendCollection
import IntentSolver.EvmSendReturns
import IntentSolver.EvmSendRecovery
import IntentSolver.EvmReceiveRecovery
import IntentSolver.EvmArkadeRecovery
import IntentSolver.EvmFees
import IntentSolver.PriceFeed
import IntentSolver.CorridorPolicy
import IntentSolver.EvmQuoteAmounts
import IntentSolver.MonotoneSearch
import IntentSolver.AssetQuotes
import IntentSolver.AssetRfqFills
import IntentSolver.EventLoop
import IntentSolver.CoinReservations
import IntentSolver.LockupFunding
import IntentSolver.VtxoPool
import IntentSolver.VtxoPoolPlans
import IntentSolver.VtxoPoolReshaping
import IntentSolver.RenewalSplit
import IntentSolver.RenewalOutputs
import IntentSolver.IndexerPaging
import IntentSolver.EvmNonces
import IntentSolver.JsNumber
import IntentSolver.KeysetPaging
import IntentSolver.SwapPages
import IntentSolver.JsonPointer
import IntentSolver.PricePointer
import IntentSolver.PayDeadline
import IntentSolver.OfferTerms
import IntentSolver.OfferFills
import IntentSolver.OfferFulfill
import IntentSolver.OfferSettle
import IntentSolver.FillRows
import IntentSolver.FloatSpenders
