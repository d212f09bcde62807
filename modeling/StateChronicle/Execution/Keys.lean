import StateChronicle.Domain.Commit

/-!
# Signing keys

A registered key is bound to a tenant, an actor, a list of operations and a window of time, and is retired or
revoked in the end.  The in-process registry keeps the records by key id.
-/

namespace StateChronicle.Execution

open Domain Foundation

inductive KeyStatus where
  | active
  | retired
  | revoked
deriving DecidableEq, Repr

structure KeyRecord where
  keyId : String
  tenant : TenantId
  subject : Option SubjectId
  operations : List Operation
  validFrom : Timestamp
  validUntil : Option Timestamp
  status : KeyStatus
deriving DecidableEq, Repr

namespace KeyRecord

variable (record : KeyRecord)

def inWindow (time : Timestamp) : Prop :=
  record.validFrom ≤ time ∧ ∀ ending ∈ record.validUntil, time < ending

instance (record : KeyRecord) (time : Timestamp) : Decidable (record.inWindow time) := instDecidableAnd

def permits (tenant : TenantId) (subject : SubjectId) (operation : Operation) (time : Timestamp) : Prop :=
  record.tenant = tenant ∧ record.subject = some subject ∧ record.status = .active ∧ record.inWindow time ∧
    operation ∈ record.operations

instance (record : KeyRecord) (tenant : TenantId) (subject : SubjectId) (operation : Operation) (time : Timestamp) :
    Decidable (record.permits tenant subject operation time) :=
  instDecidableAnd

end KeyRecord

inductive KeyRegistryError where
  | notFound
  | notTrusted
  | unavailable (message : String)
deriving DecidableEq, Repr

def KeyRegistryError.toString : KeyRegistryError → String
  | .notFound => "key not found"
  | .notTrusted => "key is not trusted for this context"
  | .unavailable message => s!"key registry unavailable: {message}"

structure MemoryKeyRegistry where
  records : SortedMap String KeyRecord
  poisoned : Bool := false

namespace MemoryKeyRegistry

def empty : MemoryKeyRegistry := ⟨.empty, false⟩

def lockPoisoned : KeyRegistryError := .unavailable "registry lock poisoned"

variable (registry : MemoryKeyRegistry)

def register (record : KeyRecord) : Except KeyRegistryError MemoryKeyRegistry := do
  rejectIf (record.tenant.name = "" ∨ (record.subject.isSome ∧ record.operations = []) ∨
      (record.validUntil.any fun ending => ending ≤ record.validFrom) ∨ record.status = .revoked)
    .notTrusted
  rejectIf (registry.poisoned) lockPoisoned
  rejectIf ((registry.records.get? record.keyId).isSome) .notTrusted
  return { registry with records := registry.records.insert record.keyId record }

variable (keyId : String)

def get : Except KeyRegistryError (Option KeyRecord) := do
  rejectIf (registry.poisoned) lockPoisoned
  return registry.records.get? keyId

/-- Revocation is terminal: a revoked key keeps its status. -/
def setStatus (status : KeyStatus) : Except KeyRegistryError MemoryKeyRegistry := do
  rejectIf (registry.poisoned) lockPoisoned
  let record ← okOr (registry.records.get? keyId) .notFound
  rejectIf (record.status = .revoked ∧ status ≠ .revoked) .notTrusted
  return { registry with records := registry.records.insert keyId { record with status } }

def retire : Except KeyRegistryError MemoryKeyRegistry :=
  registry.setStatus keyId .retired

def revoke : Except KeyRegistryError MemoryKeyRegistry :=
  registry.setStatus keyId .revoked

def resolveIntentKey (tenant : TenantId) (subject : SubjectId) (keyId : String) (operation : Operation)
    (time : Timestamp) : Except KeyRegistryError KeyRecord := do
  let found ← registry.get keyId
  let record ← okOr found .notFound
  rejectIf (¬ record.permits tenant subject operation time) .notTrusted
  return record

def resolveCommitKey (tenant : TenantId) (keyId : String) (time : Timestamp) : Except KeyRegistryError KeyRecord := do
  let found ← registry.get keyId
  let record ← okOr found .notFound
  rejectIf (¬ (record.tenant = tenant ∧ record.inWindow time ∧ record.status ≠ .revoked)) .notTrusted
  return record

theorem resolveIntentKey_eq_ok {registry : MemoryKeyRegistry} {tenant : TenantId} {subject : SubjectId}
    {keyId : String} {operation : Operation} {time : Timestamp} {record : KeyRecord} :
    registry.resolveIntentKey tenant subject keyId operation time = .ok record ↔
      registry.get keyId = .ok (some record) ∧ record.permits tenant subject operation time := by
  simp only [resolveIntentKey, Except.bind_eq_ok, okOr_eq_ok, rejectIf_eq_ok, not_not, Except.pure_eq_ok, exists_const]
  constructor
  · rintro ⟨found, got, _, rfl, permitted, rfl⟩
    exact ⟨got, permitted⟩
  · rintro ⟨got, permitted⟩
    exact ⟨_, got, record, rfl, permitted, rfl⟩

end MemoryKeyRegistry

structure KeyRegistry (W : Type) where
  resolveIntentKey : TenantId → SubjectId → String → Operation → Timestamp → W → Except KeyRegistryError KeyRecord × W

def MemoryKeyRegistry.port {W : Type} (registry : MemoryKeyRegistry) : KeyRegistry W where
  resolveIntentKey tenant subject keyId operation time w :=
    (registry.resolveIntentKey tenant subject keyId operation time, w)

end StateChronicle.Execution
