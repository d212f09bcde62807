import StateChronicle.Verified.UniqueAssets

/-!
# The consent of the owner

The paid rules ask for the owner's consent when somebody else acts on an asset.  They read who acts from the inputs,
which the acting subject writes; the actor of the intent is not consulted.
-/

namespace StateChronicle.Verified

open Commit Domain Execution Profiles
open UniqueAsset (consentOperations OwnerAsked)
open PaidUniqueAsset (ownerConsents)

variable {W : Type}

/-- The recorded owner of the asset an intent is for, if there is one, has the property. -/
def OwnerIs (table : StateTable) (intent : Intent) (holds : SubjectId → Prop) : Prop :=
  ∀ projection asset, table.read ⟨intent.tenantId, intent.resourceId, none⟩ = some projection →
    projection.state = .uniqueAsset asset → holds asset.owner

/-- The acting subject owns the asset it deletes, and owns the asset it hands over or has the owner's consent. -/
structure ActsWithConsent (table : StateTable) (intent : Intent) : Prop where
  deletes : intent.operation = PaidUniqueAsset.op.assetHardDelete →
    OwnerIs table intent fun owner => intent.actor = owner
  hands : intent.operation ∈ consentOperations →
    OwnerIs table intent fun owner => intent.actor ≠ owner → ownerConsents intent.inputs

/-- The inputs name the acting subject as the actor; where the asset is handed over they may also name it as the
owner the asset is taken from, or carry the consent. -/
structure NamesActor (intent : Intent) : Prop where
  deletes : intent.operation = PaidUniqueAsset.op.assetHardDelete →
    intent.inputs.get? "actor" = some (.string intent.actor.name)
  hands : intent.operation ∈ consentOperations →
    intent.inputs.get? "actor" = some (.string intent.actor.name) ∨
      intent.inputs.get? "from_owner" = some (.string intent.actor.name) ∨ ownerConsents intent.inputs

section Inputs

variable {inputs : Inputs} {owner : String} {actor : SubjectId}

theorem eq_owner_iff {key : String} (named : inputs.get? key = some (.string owner)) :
    actor = ⟨owner⟩ ↔ inputs.get? key = some (.string actor.name) := by
  rw [named]
  constructor
  · rintro rfl
    rfl
  · intro same
    exact (subject_eq_of_text same).symm

theorem asked_iff {current : Option StateProjection} (asked : OwnerAsked current inputs owner) :
    (actor ≠ ⟨owner⟩ → ownerConsents inputs) ↔
      inputs.get? "actor" = some (.string actor.name) ∨
        inputs.get? "from_owner" = some (.string actor.name) ∨ ownerConsents inputs := by
  rw [← eq_owner_iff asked.fromOwner]
  constructor
  · intro consents
    by_cases owns : actor = ⟨owner⟩
    · exact .inr (.inl owns)
    · exact .inr (.inr (consents owns))
  · rintro (acting | owns | consents) other
    · rcases asked.consent actor.name acting with same | consents
      · exact absurd (SubjectId.name_injective same) other
      · exact consents
    · exact absurd owns other
    · exact consents

theorem ownerIs_iff {table : StateTable} {intent : Intent} {projection : StateProjection}
    {asset : UniqueAssetState} (stored : table.read ⟨intent.tenantId, intent.resourceId, none⟩ = some projection)
    (payload : projection.state = .uniqueAsset asset) {holds : SubjectId → Prop} :
    OwnerIs table intent holds ↔ holds asset.owner := by
  constructor
  · intro always
    exact always projection asset stored payload
  · intro here other same read isAsset
    obtain rfl := Option.some.inj (stored.symm.trans read)
    obtain rfl := ResourceState.uniqueAsset.inj (payload.symm.trans isAsset)
    exact here

end Inputs

section Paid

variable {self : Executor W} {intent : Intent} {coordinated : Bool} (acceptance : self.Acceptance intent coordinated)
  (paid : self.profiles.uniqueAsset = paidUniqueAssetRules) (typed : acceptance.stateType = .uniqueAsset)

include paid typed in
theorem paid_check : PaidUniqueAsset.check intent.operation acceptance.current intent.inputs = .ok () := by
  have checked := checked_by_slot acceptance typed
  rwa [paid] at checked

include typed in
theorem asset_of_recorded {projection : StateProjection} {owner : String}
    (present : acceptance.current = some projection) (recorded : stateStr projection "owner" = .ok owner) :
    ∃ asset, projection.state = .uniqueAsset asset ∧ asset.owner = ⟨owner⟩ := by
  have kind := ((admitted_of_checkLoaded acceptance.admitted).typed projection present).2
  rw [typed] at kind
  cases payload : projection.state <;> rw [payload] at kind <;> cases kind
  exact ⟨_, rfl, UniqueAsset.owner_of_stateStr payload recorded⟩

section Owner

variable {table : StateTable} (current : acceptance.current = table.read ⟨intent.tenantId, intent.resourceId, none⟩)

include paid typed current

theorem ownerIs_of_delete_iff (deletes : intent.operation = PaidUniqueAsset.op.assetHardDelete) :
    OwnerIs table intent (fun owner => intent.actor = owner) ↔
      intent.inputs.get? "actor" = some (.string intent.actor.name) := by
  have checked := paid_check acceptance paid typed
  rw [deletes] at checked
  obtain ⟨projection, owner, present, recorded, named, -⟩ := UniqueAsset.consent_of_hardDelete checked
  obtain ⟨asset, payload, owned⟩ := asset_of_recorded acceptance typed present recorded
  rw [ownerIs_iff (current.symm.trans present) payload, owned, eq_owner_iff named]

theorem ownerIs_of_hands_iff (asks : intent.operation ∈ consentOperations) :
    OwnerIs table intent (fun owner => intent.actor ≠ owner → ownerConsents intent.inputs) ↔
      intent.inputs.get? "actor" = some (.string intent.actor.name) ∨
        intent.inputs.get? "from_owner" = some (.string intent.actor.name) ∨ ownerConsents intent.inputs := by
  obtain ⟨owner, asked⟩ := UniqueAsset.ownerAsked_of_paid (paid_check acceptance paid typed) asks
  obtain ⟨projection, present, recorded⟩ := asked.recorded
  obtain ⟨asset, payload, owned⟩ := asset_of_recorded acceptance typed present recorded
  rw [ownerIs_iff (current.symm.trans present) payload, owned, asked_iff asked]

end Owner

end Paid

/-- Under the paid rules, an accepted intent acts with the owner's consent exactly when its inputs name the subject
that acts. -/
theorem acts_with_consent_iff {step : RunStep W} (accepted : step.Accepted)
    (paid : step.executor.profiles.uniqueAsset = paidUniqueAssetRules)
    (typed : step.intent.stateType = some .uniqueAsset) (fresh : step.events ≠ []) :
    ActsWithConsent step.table step.intent ↔ NamesActor step.intent := by
  rcases accepted.cases with replayed | ⟨acceptance, -⟩
  · exact absurd replayed fresh
  have isAsset : acceptance.stateType = .uniqueAsset := Option.some.inj (acceptance.typed.symm.trans typed)
  have current := acceptance.current_of_unheld accepted.standard accepted.nativeDomains accepted.served
    (by rw [isAsset]; rfl)
  constructor
  · intro acts
    exact ⟨fun deletes => (ownerIs_of_delete_iff acceptance paid isAsset current deletes).mp (acts.deletes deletes),
      fun asks => (ownerIs_of_hands_iff acceptance paid isAsset current asks).mp (acts.hands asks)⟩
  · intro names
    exact ⟨fun deletes => (ownerIs_of_delete_iff acceptance paid isAsset current deletes).mpr (names.deletes deletes),
      fun asks => (ownerIs_of_hands_iff acceptance paid isAsset current asks).mpr (names.hands asks)⟩

open Harness

def paidProfiles : ProfileRegistry := .withUniqueAsset paidUniqueAssetRules

theorem paidProfiles_nativeDomains : paidProfiles.NativeDomains := by
  simp [ProfileRegistry.NativeDomains, paidProfiles, ProfileRegistry.withUniqueAsset, ProfileRegistry.baseline]

def swordDeleted (actor : String) : RunStep Memory :=
  stepOf paidProfiles
    (tableOf [⟨tenant, sword, 1, .uniqueAsset ⟨⟨"alice"⟩, UniqueAsset.status.active, none⟩⟩]) .fresh
    (authorized (intentIn tenant "int_delete" "asset.hard_delete" actor sword .uniqueAsset 1
      [("actor", .string "alice"), ("authorized_by_owner", .bool true)]))

theorem alice_deletes_with_consent : ActsWithConsent (swordDeleted "alice").table (swordDeleted "alice").intent := by
  have fresh : (swordDeleted "alice").events ≠ [] := by decide +kernel
  have accepted := stepOf_accepted ProfileRegistry.standard_withUniqueAsset_paid paidProfiles_nativeDomains fresh
  exact (acts_with_consent_iff accepted rfl rfl fresh).mpr ⟨fun _ => rfl, fun _ => .inl rfl⟩

/-- Mallory deletes Alice's sword. -/
theorem mallory_deletes :
    (swordDeleted "mallory").Accepted ∧
      ((swordDeleted "mallory").result.read ⟨tenant, sword, none⟩).map (·.state) =
        some (.uniqueAsset ⟨⟨"alice"⟩, UniqueAsset.status.tombstoned, none⟩) ∧
      ¬ ActsWithConsent (swordDeleted "mallory").table (swordDeleted "mallory").intent := by
  refine And.imp (stepOf_accepted ProfileRegistry.standard_withUniqueAsset_paid paidProfiles_nativeDomains)
    (fun deleted => ⟨deleted, fun acts => ?_⟩) (by decide +kernel)
  have owner := acts.deletes rfl _ _ rfl rfl
  exact absurd owner (by decide)

end StateChronicle.Verified
