import StateChronicle.Accumulator.Evaluation
import StateChronicle.Commit.StateTable
import StateChronicle.Domain.BcsCodes
import StateChronicle.Foundation.LittleEndian
import StateChronicle.Profiles.Transition
import StateChronicle.Proofs.Verify

/-!
# Addresses of states

A state key is the hash of a composite whose fields carry a tag and their length, so different places have different
composites.  Commits, profiles and proofs each derive the key in their own way and arrive at the same one.
-/

namespace StateChronicle.Verified

open StateChronicle.Core Accumulator Commit Domain Foundation Proofs

/-! ## Composites -/

def slotPreimage (slot : StateSlot) : List UInt8 :=
  match slot.subject with
  | some subject => subjectHeldPreimage slot.tenant.name slot.resource.name subject.name
  | none => resourcePreimage slot.tenant.name slot.resource.name

/-- The names of a slot have lengths that a machine can hold. -/
structure Addressable (slot : StateSlot) : Prop where
  tenant : slot.tenant.name.utf8ByteSize < 2 ^ 64
  resource : slot.resource.name.utf8ByteSize < 2 ^ 64
  subject : ∀ subject ∈ slot.subject, subject.name.utf8ByteSize < 2 ^ 64

theorem key_eq_hash_slotPreimage (sha256 : List UInt8 → Hash) (slot : StateSlot) :
    slot.key sha256 = ⟨sha256 (slotPreimage slot)⟩ := by
  unfold StateSlot.key slotPreimage
  cases slot.subject with
  | none => rfl
  | some subject => rfl

section

variable {text text' : String} (short : text.utf8ByteSize < 2 ^ 64) (short' : text'.utf8ByteSize < 2 ^ 64)

include short short'

theorem u64LenPrefix_inj (same : u64LenPrefix text = u64LenPrefix text') : text.utf8ByteSize = text'.utf8ByteSize := by
  rw [u64LenPrefix, u64LenPrefix, ← LittleEndian.encode_eq_map, ← LittleEndian.encode_eq_map] at same
  have values := congrArg LittleEndian.value same
  rwa [LittleEndian.value_encode short, LittleEndian.value_encode short'] at values

theorem taggedField_append_inj {tag tag' : UInt8} {rest rest' : List UInt8}
    (same : taggedField tag text ++ rest = taggedField tag' text' ++ rest') : text = text' ∧ rest = rest' := by
  simp only [taggedField, List.append_assoc, List.cons_append] at same
  obtain ⟨lengths, others⟩ := List.append_inj (List.cons.inj same).2 (by simp [u64LenPrefix])
  have sizes := u64LenPrefix_inj short short' lengths
  obtain ⟨names, rests⟩ := List.append_inj others (by rw [length_utf8, length_utf8, sizes])
  exact ⟨Bcs.utf8_injective names, rests⟩

end

def subjectField : Option SubjectId → List UInt8
  | some subject => taggedField keySubjectTag subject.name
  | none => []

theorem slotPreimage_eq (slot : StateSlot) :
    slotPreimage slot = taggedField keyDomainTag slot.tenant.name ++
      (taggedField keyResourceTag slot.resource.name ++ subjectField slot.subject) := by
  unfold slotPreimage
  cases slot.subject with
  | none => simp [resourcePreimage, subjectField]
  | some subject => simp [subjectHeldPreimage, resourcePreimage, subjectField]

theorem subjectField_inj {subject subject' : Option SubjectId}
    (short : ∀ held ∈ subject, held.name.utf8ByteSize < 2 ^ 64)
    (short' : ∀ held ∈ subject', held.name.utf8ByteSize < 2 ^ 64)
    (same : subjectField subject = subjectField subject') : subject = subject' := by
  cases subject with
  | none =>
    cases subject' with
    | none => rfl
    | some held' => cases same
  | some held =>
    cases subject' with
    | none => cases same
    | some held' =>
      have fields : taggedField keySubjectTag held.name ++ [] = taggedField keySubjectTag held'.name ++ [] := by
        rw [List.append_nil, List.append_nil]
        exact same
      have names := (taggedField_append_inj (short held rfl) (short' held' rfl) fields).1
      exact congrArg (fun name => some (SubjectId.mk name)) names

theorem slotPreimage_inj {slot slot' : StateSlot} (addressable : Addressable slot)
    (addressable' : Addressable slot') (same : slotPreimage slot = slotPreimage slot') : slot = slot' := by
  rw [slotPreimage_eq, slotPreimage_eq] at same
  obtain ⟨tenants, rest⟩ := taggedField_append_inj addressable.tenant addressable'.tenant same
  obtain ⟨resources, subjects⟩ := taggedField_append_inj addressable.resource addressable'.resource rest
  have held := subjectField_inj addressable.subject addressable'.subject subjects
  obtain ⟨⟨tenant⟩, ⟨resource⟩, subject⟩ := slot
  obtain ⟨⟨tenant'⟩, ⟨resource'⟩, subject'⟩ := slot'
  cases tenants
  cases resources
  cases held
  rfl

section Derivations

variable (sha256 : List UInt8 → Hash) (event : Event)

theorem stateKeyFor_eq_key_writtenSlot :
    Commit.stateKeyFor sha256 event event.after.state.stateType = .ok ((writtenSlot event).key sha256) := by
  unfold writtenSlot StateSlot.key Commit.stateKeyFor eventSubject
  cases event.after.state <;> rfl

theorem profile_stateKeyFor_eq_key_writtenSlot :
    Profiles.Transition.stateKeyFor sha256 event.after.state.stateType event.tenantId event.after.state.subject
      event.resourceId = .ok ((writtenSlot event).key sha256) := by
  unfold writtenSlot StateSlot.key Profiles.Transition.stateKeyFor
  cases event.after.state <;> rfl

variable {sha256 event}

/-- The proof of a state refuses an empty subject; the others do not look. -/
theorem deriveStateKey_eq_key_writtenSlot {proof : ResourceStateProof} (tenant : proof.tenantId = event.tenantId)
    (resource : proof.resourceId = event.resourceId) (claimed : proof.claimedState = event.after.state)
    (named : ∀ subject, event.after.state.subject = some subject → subject.name ≠ "") :
    deriveStateKey sha256 proof = .ok ((writtenSlot event).key sha256) := by
  unfold deriveStateKey StateSlot.key writtenSlot
  rw [claimed, tenant, resource]
  cases held : event.after.state.subject with
  | none => rfl
  | some subject => exact if_neg (named subject held)

end Derivations

/-- Keys of different addressable slots differ where the hash does not collide on them, and the key of an event's
after-state is the same however it is derived. -/
theorem addresses_agree (sha256 : List UInt8 → Hash) :
    (∀ slot slot' : StateSlot, Addressable slot → Addressable slot' →
      CollisionFree sha256 [slotPreimage slot, slotPreimage slot'] → slot.key sha256 = slot'.key sha256 →
        slot = slot') ∧
    ∀ event : Event, (∀ subject, event.after.state.subject = some subject → subject.name ≠ "") →
      ∃ key, Commit.stateKeyFor sha256 event event.after.state.stateType = .ok key ∧
        inferStateKey sha256 event = .ok key ∧
        Profiles.Transition.stateKeyFor sha256 event.after.state.stateType event.tenantId event.after.state.subject
          event.resourceId = .ok key ∧
        ∀ proof : ResourceStateProof, proof.tenantId = event.tenantId → proof.resourceId = event.resourceId →
          proof.claimedState = event.after.state → deriveStateKey sha256 proof = .ok key := by
  refine ⟨fun slot slot' addressable addressable' collisionFree same => ?_, fun event named => ?_⟩
  · rw [key_eq_hash_slotPreimage, key_eq_hash_slotPreimage, StateKey.mk.injEq] at same
    exact slotPreimage_inj addressable addressable' (collisionFree _ (by simp) _ (by simp) same)
  · exact ⟨_, stateKeyFor_eq_key_writtenSlot sha256 event, inferStateKey_eq_key_writtenSlot sha256 event,
      profile_stateKeyFor_eq_key_writtenSlot sha256 event, fun proof tenant resource claimed =>
        deriveStateKey_eq_key_writtenSlot tenant resource claimed named⟩

def creditedAccount (version : U64) (balance : Amount) : StateCommitment :=
  ⟨version, ⟨.replicate 32 0⟩, .fungibleBalance ⟨⟨"alice"⟩, balance, "gold"⟩⟩

def creditEvent : Event :=
  .new ⟨"acme"⟩ ⟨"evt_1"⟩ ⟨"int_1"⟩ ⟨"balance.credit"⟩ ⟨"gold"⟩ ⟨"alice"⟩ (creditedAccount 1 .zero)
    (creditedAccount 2 (.ofNat 5)) none ⟨"service:executor"⟩ 0

def goldSlot : StateSlot := ⟨⟨"acme"⟩, ⟨"gold"⟩, none⟩

theorem goldStrings_collisionFree :
    CollisionFree Sha256.sha256 [slotPreimage goldSlot, slotPreimage (writtenSlot creditEvent)] := by
  refine collisionFree_of_nodup ?_
  simp only [List.map_cons, List.map_nil, Hash.number, Sha256.number_sha256]
  decide +kernel

theorem gold_addressed :
    goldSlot.key Sha256.sha256 ≠ (writtenSlot creditEvent).key Sha256.sha256 ∧
      ∃ key, Commit.stateKeyFor Sha256.sha256 creditEvent .fungibleBalance = .ok key ∧
        inferStateKey Sha256.sha256 creditEvent = .ok key := by
  have agree := addresses_agree Sha256.sha256
  constructor
  · intro same
    have slots := agree.1 goldSlot (writtenSlot creditEvent) ⟨by decide, by decide, by decide⟩
      ⟨by decide, by decide, by decide⟩ goldStrings_collisionFree same
    exact absurd slots (by decide)
  · obtain ⟨key, typed, inferred, -⟩ := agree.2 creditEvent (by decide)
    exact ⟨key, typed, inferred⟩

end StateChronicle.Verified
