import StateChronicle.Verified.Addressing
import StateChronicle.Verified.Amounts
import StateChronicle.Verified.AuthorityAggregation
import StateChronicle.Verified.BatchReplay
import StateChronicle.Verified.CanonicalOrder
import StateChronicle.Verified.Checkpoints
import StateChronicle.Verified.ClaimAtomicity
import StateChronicle.Verified.CompactTree
import StateChronicle.Verified.Consumption
import StateChronicle.Verified.CustomTransitions
import StateChronicle.Verified.Denominations
import StateChronicle.Verified.DurableProtocol
import StateChronicle.Verified.Expiry
import StateChronicle.Verified.ForkFreedom
import StateChronicle.Verified.IdempotentReplay
import StateChronicle.Verified.IngressPaths
import StateChronicle.Verified.IntentDigest
import StateChronicle.Verified.KeyLifecycle
import StateChronicle.Verified.KeyWindows
import StateChronicle.Verified.KeyedCharging
import StateChronicle.Verified.ManifestSoundness
import StateChronicle.Verified.OneTrade
import StateChronicle.Verified.OperationNamespaces
import StateChronicle.Verified.OutboxWorker
import StateChronicle.Verified.OwnerConsent
import StateChronicle.Verified.Persistable
import StateChronicle.Verified.PortableCodec
import StateChronicle.Verified.PortableProofs
import StateChronicle.Verified.PortableTransitions
import StateChronicle.Verified.ProjectionRebuild
import StateChronicle.Verified.Reservations
import StateChronicle.Verified.ResumableRebuild
import StateChronicle.Verified.RetryDelays
import StateChronicle.Verified.Sales
import StateChronicle.Verified.SettlementCompleteness
import StateChronicle.Verified.SettlementOrder
import StateChronicle.Verified.SettlementPayment
import StateChronicle.Verified.StateRootChain
import StateChronicle.Verified.SufficientChecks
import StateChronicle.Verified.TerminalStates
import StateChronicle.Verified.TokenBuckets
import StateChronicle.Verified.TradeCompleteness
import StateChronicle.Verified.TradeHistories
import StateChronicle.Verified.ValueLegMatching
