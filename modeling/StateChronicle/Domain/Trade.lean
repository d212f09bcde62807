import StateChronicle.Domain.Proof

/-!
# Trades as the read side sees them

The record of a trade gathers its settled sides, one per tenant, and its declared value legs; a trade
proof carries the summary of a record with the state proofs of the settled assets.
-/

namespace StateChronicle.Domain

open Foundation

def tradeProofSchema : String := "statechronicle.proof.trade.v0"

inductive TradeStatus where
  | open
  | settled
  | cancelled
deriving DecidableEq, Repr

structure TradeSide where
  tenant : TenantId
  settleAssets : List ResourceId
  fromOwner : String
  toOwner : String
  settleCommit : CommitRef
  settleCommitsByAsset : SortedMap ResourceId CommitRef
  settleEventIds : List EventId
deriving DecidableEq

structure TradeValueLeg where
  resource : ResourceId
  amount : String
  toSubject : SubjectId
  pairEventIds : List EventId
  tenant : TenantId
  commit : CommitRef
deriving DecidableEq

structure TradeEventRef where
  eventId : EventId
  tenantId : TenantId
  operation : Operation
deriving DecidableEq

structure TradeRecord where
  tradeId : String
  status : TradeStatus
  sides : List TradeSide
  valueLegs : List TradeValueLeg
  events : List TradeEventRef
deriving DecidableEq

def TradeRecord.new (tradeId : String) : TradeRecord := ⟨tradeId, .open, [], [], []⟩

structure TradeEvent where
  event : Event
  tenantId : TenantId
deriving DecidableEq

structure TradeHistory where
  tradeId : String
  status : TradeStatus
  events : List TradeEvent
  commits : List (TenantId × CommitRef)
deriving DecidableEq

structure TradeSummary where
  tradeId : String
  status : TradeStatus
  sides : List TradeSide
  valueLegs : List TradeValueLeg
deriving DecidableEq

structure TradeProofLeg where
  tenant : TenantId
  commit : CommitRef
  stateProofs : List ResourceStateProof
deriving DecidableEq

structure TradeProof where
  schema : String
  tradeId : String
  summary : TradeSummary
  legs : List TradeProofLeg
deriving DecidableEq

end StateChronicle.Domain
