import StateChronicle.Domain.Commit
import StateChronicle.Foundation.Traced

/-!
# The ledger

The write side of a deployment: one transaction owns every durable effect of a mutation and is closed by a
commit or a rollback.  A recorded ledger notes the calls made to it.
-/

namespace StateChronicle.Commit

open StateChronicle.Core Domain Foundation

structure OutboxRecord where
  deliveryKey : String
  tenant : TenantId
  commitId : CommitId
  payloadDigest : ContentDigest
  payload : List UInt8
deriving DecidableEq, Repr

inductive IdempotencyClaim where
  | newReservation (attemptId : String)
  | committed (commitId : CommitId)
  | inProgress (attemptId : String) (leaseExpiresAtUnix : Int)
  | conflictDifferentPayload
deriving DecidableEq, Repr

inductive LedgerStoreError where
  | conflict (message : String)
  | idempotency (message : String)
  | unavailable (message : String)
  | closed
  | invariant (message : String)
deriving DecidableEq, Repr

def LedgerStoreError.toString : LedgerStoreError → String
  | .conflict message => s!"ledger transaction conflict: {message}"
  | .idempotency message => s!"ledger idempotency error: {message}"
  | .unavailable message => s!"ledger store unavailable: {message}"
  | .closed => "ledger transaction is closed"
  | .invariant message => s!"ledger invariant violation: {message}"

/-- A ledger over a world `W` whose open transactions are held as values of `T`. -/
structure LedgerStore (W T : Type) where
  begin : TenantId → W → Except LedgerStoreError T × W
  claimIdempotency : T → TenantId → Intent → ContentDigest → W → Except LedgerStoreError IdempotencyClaim × W
  appendEvents : T → List Event → W → Except LedgerStoreError Unit × W
  appendCommit : T → Signed Domain.Commit → W → Except LedgerStoreError Unit × W
  upsertProjection : T → StateProjection → W → Except LedgerStoreError Unit × W
  enqueueOutbox : T → OutboxRecord → W → Except LedgerStoreError Unit × W
  finalizeIdempotency : T → TenantId → IntentId → String → CommitId → W → Except LedgerStoreError Unit × W
  commit : T → W → Except LedgerStoreError Unit × W
  rollback : T → W → Except LedgerStoreError Unit × W

/-! ## Recorded ledgers -/

inductive LedgerCall where
  | begin (tenant : TenantId)
  | claimIdempotency (tenant : TenantId) (intent : Intent) (payloadDigest : ContentDigest)
  | appendEvents (events : List Event)
  | appendCommit (commit : Signed Domain.Commit)
  | upsertProjection (projection : StateProjection)
  | enqueueOutbox (record : OutboxRecord)
  | finalizeIdempotency (tenant : TenantId) (intentId : IntentId) (attemptId : String) (commitId : CommitId)
  | commit
  | rollback
deriving DecidableEq

/-- The calls made to a ledger, each with whether it succeeded. -/
abbrev LedgerTrace : Type := List (LedgerCall × Bool)

namespace LedgerStore

open Traced

variable {W T : Type}

/-- The same ledger, with its calls noted. -/
def recorded (ledger : LedgerStore W T) : LedgerStore (Traced LedgerCall W) T where
  begin tenant := recording (.begin tenant) (ledger.begin tenant)
  claimIdempotency transaction tenant intent payloadDigest :=
    recording (.claimIdempotency tenant intent payloadDigest)
      (ledger.claimIdempotency transaction tenant intent payloadDigest)
  appendEvents transaction events := recording (.appendEvents events) (ledger.appendEvents transaction events)
  appendCommit transaction commit := recording (.appendCommit commit) (ledger.appendCommit transaction commit)
  upsertProjection transaction projection :=
    recording (.upsertProjection projection) (ledger.upsertProjection transaction projection)
  enqueueOutbox transaction record := recording (.enqueueOutbox record) (ledger.enqueueOutbox transaction record)
  finalizeIdempotency transaction tenant intentId attemptId commitId :=
    recording (.finalizeIdempotency tenant intentId attemptId commitId)
      (ledger.finalizeIdempotency transaction tenant intentId attemptId commitId)
  commit transaction := recording .commit (ledger.commit transaction)
  rollback transaction := recording .rollback (ledger.rollback transaction)

end LedgerStore

end StateChronicle.Commit
