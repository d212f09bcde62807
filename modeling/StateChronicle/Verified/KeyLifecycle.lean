import StateChronicle.Execution.Keys

/-!
# The life of a signing key

A registered key keeps its tenant, its actor, its operations and its window.  Its status follows the calls that name
the key, and no calls give back the trust that a retirement or a revocation has taken.
-/

namespace StateChronicle.Verified

open Domain Execution Foundation

/-- A call that may change the registry. -/
inductive KeyCall where
  | register (record : KeyRecord)
  | retire (keyId : String)
  | revoke (keyId : String)

namespace KeyCall

def apply (registry : MemoryKeyRegistry) : KeyCall → Except KeyRegistryError MemoryKeyRegistry
  | register record => registry.register record
  | retire keyId => registry.retire keyId
  | revoke keyId => registry.revoke keyId

/-- A call that fails leaves the registry as it was. -/
def after (registry : MemoryKeyRegistry) (call : KeyCall) : MemoryKeyRegistry :=
  (apply registry call).toOption.getD registry

def serve (registry : MemoryKeyRegistry) (calls : List KeyCall) : MemoryKeyRegistry := calls.foldl after registry

/-- The status a key gets from one it had, by whether it was retired and whether it was revoked meanwhile. -/
def Becomes (before after : KeyStatus) (retired revoked : Prop) : Prop :=
  (after = .active ↔ before = .active ∧ ¬ retired ∧ ¬ revoked) ∧ (after = .revoked ↔ before = .revoked ∨ revoked)

variable {registry : MemoryKeyRegistry} {keyId : String} {record : KeyRecord}

/-- The registry is usable and has the record of the key. -/
def Knows (registry : MemoryKeyRegistry) (keyId : String) (record : KeyRecord) : Prop :=
  registry.poisoned = false ∧ registry.records.get? keyId = some record

section Known

variable (knows : Knows registry keyId record)

include knows

theorem knows_setStatus (named : String) (next : KeyStatus) :
    Knows ((registry.setStatus named next).toOption.getD registry) keyId { record with
      status := if named = keyId ∧ (record.status = .revoked → next = .revoked) then next else record.status } := by
  cases set : registry.setStatus named next with
  | ok registry' =>
    simp only [MemoryKeyRegistry.setStatus, Except.bind_eq_ok, rejectIf_eq_ok, okOr_eq_ok, Except.pure_eq_ok] at set
    obtain ⟨-, -, found, stored, -, final, rfl⟩ := set
    refine ⟨knows.1, ?_⟩
    simp only [Except.toOption, Option.getD_some, SortedMap.get?_insert]
    by_cases same : keyId = named
    · subst same
      obtain rfl : found = record := Option.some.inj (stored.symm.trans knows.2)
      rw [if_pos rfl, if_pos ⟨rfl, fun revoked => not_not.mp fun other => final ⟨revoked, other⟩⟩]
    · rw [if_neg same, if_neg fun both => same both.1.symm, knows.2]
  | error =>
    -- a usable registry refuses to set the status of a key it knows only once the key is revoked
    rw [if_neg]
    · exact knows
    · rintro ⟨rfl, final⟩
      have accepted : ¬ (record.status = .revoked ∧ next ≠ .revoked) := fun both => both.2 (final both.1)
      simp [MemoryKeyRegistry.setStatus, rejectIf, knows.1, knows.2, accepted, pure, Except.pure, bind, Except.bind]
        at set

theorem knows_after (call : KeyCall) : ∃ status, Knows (after registry call) keyId { record with status } ∧
    Becomes record.status status (retire keyId = call) (revoke keyId = call) := by
  cases call with
  | register other =>
    refine ⟨record.status, ?_, by simp [Becomes]⟩
    rw [after, apply]
    cases registered : registry.register other with
    | error => exact knows
    | ok registry' =>
      simp only [MemoryKeyRegistry.register, Except.bind_eq_ok, rejectIf_eq_ok, Except.pure_eq_ok] at registered
      obtain ⟨-, -, -, -, -, unknown, rfl⟩ := registered
      have apart : keyId ≠ other.keyId := fun same => unknown (by rw [← same, knows.2]; rfl)
      exact ⟨knows.1, ((SortedMap.get?_insert _ _ _ _).trans (if_neg apart)).trans knows.2⟩
  | retire named => exact ⟨_, knows_setStatus knows named .retired, by grind [Becomes]⟩
  | revoke named => exact ⟨_, knows_setStatus knows named .revoked, by grind [Becomes]⟩

theorem knows_serve (calls : List KeyCall) : ∃ status, Knows (serve registry calls) keyId { record with status } ∧
    Becomes record.status status (retire keyId ∈ calls) (revoke keyId ∈ calls) := by
  induction calls generalizing registry record with
  | nil => exact ⟨record.status, knows, by simp [Becomes]⟩
  | cons call rest ih =>
    obtain ⟨middle, known, becomes⟩ := knows_after knows call
    obtain ⟨status, known', becomes'⟩ := ih known
    exact ⟨status, known', by grind [Becomes]⟩

variable {tenant : TenantId} {time : Timestamp} {resolved : KeyRecord}

theorem get_of_knows : registry.get keyId = .ok (some record) := by
  rw [MemoryKeyRegistry.get, knows.1, knows.2]
  rfl

theorem resolveIntentKey_iff {subject : SubjectId} {operation : Operation} :
    registry.resolveIntentKey tenant subject keyId operation time = .ok resolved ↔
      record = resolved ∧ record.permits tenant subject operation time := by
  rw [MemoryKeyRegistry.resolveIntentKey_eq_ok, get_of_knows knows, Except.ok.injEq, Option.some.injEq]
  exact and_congr_right fun same => by rw [same]

theorem resolveCommitKey_iff : registry.resolveCommitKey tenant keyId time = .ok resolved ↔
    (record.tenant = tenant ∧ record.inWindow time ∧ record.status ≠ .revoked) ∧ record = resolved := by
  simp only [MemoryKeyRegistry.resolveCommitKey, Except.bind_eq_ok, rejectIf_eq_ok, okOr_eq_ok, Except.pure_eq_ok,
    get_of_knows knows, Except.ok.injEq, exists_eq_left', exists_const, not_not, Option.some.injEq]

end Known

/-- Whatever calls are made, in whatever order: a registered key authenticates intents exactly as before until it is
retired or revoked, and vouches for commits exactly as before until it is revoked. -/
theorem key_trust_after_calls (knows : Knows registry keyId record) (calls : List KeyCall) (tenant : TenantId)
    (time : Timestamp) :
    (∀ subject operation resolved,
      (serve registry calls).resolveIntentKey tenant subject keyId operation time = .ok resolved ↔
        registry.resolveIntentKey tenant subject keyId operation time = .ok resolved ∧
          retire keyId ∉ calls ∧ revoke keyId ∉ calls) ∧
      ((∃ resolved, (serve registry calls).resolveCommitKey tenant keyId time = .ok resolved) ↔
        (∃ resolved, registry.resolveCommitKey tenant keyId time = .ok resolved) ∧ revoke keyId ∉ calls) := by
  obtain ⟨status, later, active, revoked⟩ := knows_serve knows calls
  constructor
  · intro subject operation resolved
    rw [resolveIntentKey_iff later, resolveIntentKey_iff knows]
    simp only [KeyRecord.permits, KeyRecord.inWindow]
    constructor
    · rintro ⟨rfl, own, actor, stays, rest⟩
      obtain ⟨was, kept⟩ := active.mp stays
      exact ⟨⟨by rw [stays, ← was], own, actor, was, rest⟩, kept⟩
    · rintro ⟨⟨rfl, own, actor, was, rest⟩, kept⟩
      have stays := active.mpr ⟨was, kept⟩
      exact ⟨by rw [stays, ← was], own, actor, stays, rest⟩
  · simp only [resolveCommitKey_iff later, resolveCommitKey_iff knows, exists_and_left, exists_eq', and_true, ne_eq,
      revoked, not_or, KeyRecord.inWindow, and_assoc]

def shopKey : KeyRecord := ⟨"key_1", ⟨"acme"⟩, some ⟨"alice"⟩, [⟨"asset.transfer"⟩], 0, none, .active⟩

def shopRegistry : MemoryKeyRegistry := ⟨SortedMap.empty.insert "key_1" shopKey, false⟩

theorem retired_shopKey :
    (∃ resolved, shopRegistry.resolveIntentKey ⟨"acme"⟩ ⟨"alice"⟩ "key_1" ⟨"asset.transfer"⟩ 5 = .ok resolved) ∧
      (∀ resolved, (serve shopRegistry [retire "key_1"]).resolveIntentKey ⟨"acme"⟩ ⟨"alice"⟩ "key_1"
        ⟨"asset.transfer"⟩ 5 ≠ .ok resolved) ∧
      ∃ resolved, (serve shopRegistry [retire "key_1"]).resolveCommitKey ⟨"acme"⟩ "key_1" 5 = .ok resolved := by
  have knows : Knows shopRegistry "key_1" shopKey := ⟨rfl, by decide⟩
  have trust := key_trust_after_calls knows [retire "key_1"] ⟨"acme"⟩ 5
  refine ⟨⟨shopKey, (resolveIntentKey_iff knows).mpr (by decide)⟩, fun resolved found => ?_,
    trust.2.mpr ⟨⟨shopKey, ?_⟩, ?_⟩⟩
  · exact ((trust.1 _ _ _).mp found).2.1 (List.mem_singleton_self _)
  · exact (resolveCommitKey_iff knows).mpr (by decide)
  · simp

end KeyCall

end StateChronicle.Verified
