import StateChronicle.Foundation.KeyedList
import StateChronicle.Profiles.Registry

/-!
# Registered domains

Every registered custom rule set is in order on its own, and any two of them differ in their schema or share no
operation.  Neither depends on the order of registration, and so resolution does not.
-/

namespace StateChronicle.Profiles

open Domain Foundation

/-- What registration asks of a rule set on its own. -/
structure Registrable (rules : ProfileRules) : Prop where
  accepted : rules.validateRegistration = .ok ()
  identity : ProfileRegistry.validProfileId rules.profileId = .ok ⟨rules.profileId⟩
  typed : rules.stateType = .custom
  versioned : rules.schemaVersion ≠ 0
  listed : rules.allowedOperations ≠ []
  named : ∀ operation ∈ rules.allowedOperations, ∃ valid, Operation.new operation.name = .ok valid
  unreserved : ∀ operation ∈ rules.allowedOperations, operation.stateTypeHint = none

/-- What registration asks of two rule sets. -/
structure Compatible (one other : ProfileRules) : Prop where
  schemas : one.profileId = other.profileId → one.schemaVersion ≠ other.schemaVersion
  operations : one.profileId ≠ other.profileId →
    ∀ operation ∈ one.allowedOperations, operation ∉ other.allowedOperations

theorem Compatible.symm {one other : ProfileRules} (compatible : Compatible one other) : Compatible other one :=
  ⟨fun same => (compatible.schemas same.symm).symm,
    fun differ operation listed listed' => compatible.operations (Ne.symm differ) operation listed' listed⟩

namespace ProfileRegistry

variable {custom : List ProfileRules} {registry : ProfileRegistry}

theorem validProfileId_eq_ok {name : String} {id : ProfileId} (valid : validProfileId name = .ok id) : id = ⟨name⟩ := by
  rw [validProfileId, Except.mapError_eq_ok] at valid
  rw [name_of_new valid]

theorem checkCustom_iff {earlier : List ProfileRules} {rules : ProfileRules} :
    checkCustom earlier rules = .ok () ↔ Registrable rules ∧ ∀ other ∈ earlier,
      validProfileId other.profileId = .ok ⟨other.profileId⟩ ∧ Compatible other rules := by
  simp only [checkCustom, Except.bind_eq_ok, rejectIf_eq_ok, Except.forM_eq_ok, Except.mapError_eq_ok, not_or, not_not,
    Option.not_isSome_iff_eq_none]
  constructor
  · rintro ⟨_, accepted, id, valid, _, ⟨typed, versioned, listed⟩, _, named, others⟩
    obtain rfl := validProfileId_eq_ok valid
    refine ⟨⟨accepted, valid, typed, versioned, listed, fun operation member => ?_, fun operation member => ?_⟩, ?_⟩
    · obtain ⟨made, new, -⟩ := named operation member
      exact ⟨made, new⟩
    · obtain ⟨-, -, unreserved⟩ := named operation member
      exact unreserved
    · intro other member
      obtain ⟨otherId, valid', _, distinct, disjoint⟩ := others other member
      obtain rfl := validProfileId_eq_ok valid'
      refine ⟨valid', fun same version => distinct ⟨congrArg ProfileId.mk same, version⟩,
        fun differ operation here there => ?_⟩
      refine disjoint ⟨fun same => differ (ProfileId.mk.inj same), ?_⟩
      exact List.any_eq_true.mpr ⟨operation, here, decide_eq_true there⟩
  · rintro ⟨registrable, compatible⟩
    refine ⟨(), registrable.accepted, _, registrable.identity, (),
      ⟨registrable.typed, registrable.versioned, registrable.listed⟩, (), fun operation member => ?_,
      fun other member => ?_⟩
    · obtain ⟨valid, new⟩ := registrable.named operation member
      exact ⟨valid, new, registrable.unreserved operation member⟩
    · obtain ⟨valid, apart⟩ := compatible other member
      refine ⟨_, valid, (), ?_, ?_⟩
      · rintro ⟨same, version⟩
        exact apart.schemas (ProfileId.mk.inj same) version
      · rintro ⟨differ, shared⟩
        obtain ⟨operation, here, there⟩ := List.any_eq_true.mp shared
        exact apart.operations (fun same => differ (congrArg ProfileId.mk same)) operation here
          (of_decide_eq_true there)

/-- Registration in full. -/
theorem withCustom_iff :
    withCustom custom = .ok registry ↔
      registry = { baseline with custom } ∧ (∀ rules ∈ custom, Registrable rules) ∧ custom.Pairwise Compatible := by
  have each : (∀ entry ∈ custom.zipIdx, checkCustom (custom.take entry.2) entry.1 = .ok ()) ↔
      (∀ rules ∈ custom, Registrable rules) ∧ custom.Pairwise Compatible := by
    constructor
    · intro checked
      have at' (position : Nat) (inside : position < custom.length) :=
        checkCustom_iff.mp (checked (custom[position], position)
          (by rw [List.mem_zipIdx_iff_getElem?, List.getElem?_eq_getElem inside]))
      refine ⟨fun rules member => ?_, List.pairwise_iff_getElem.mpr fun i j hi hj before => ?_⟩
      · obtain ⟨position, inside, rfl⟩ := List.getElem_of_mem member
        exact (at' position inside).1
      · exact ((at' j hj).2 _ (List.mem_take_iff_getElem.mpr ⟨i, by omega, rfl⟩)).2
    · rintro ⟨registrable, compatible⟩ ⟨rules, position⟩ member
      obtain ⟨inside, rfl⟩ : ∃ inside : position < custom.length, custom[position] = rules :=
        List.getElem?_eq_some_iff.mp (List.mem_zipIdx_iff_getElem?.mp member)
      refine checkCustom_iff.mpr ⟨registrable _ (List.getElem_mem inside), fun other earlier => ?_⟩
      obtain ⟨i, before, rfl⟩ := List.mem_take_iff_getElem.mp earlier
      exact ⟨(registrable _ (List.getElem_mem _)).identity,
        List.pairwise_iff_getElem.mp compatible i position (by omega) inside (by omega)⟩
  simp only [withCustom, Except.bind_eq_ok, Except.forM_eq_ok, Except.pure_eq_ok, each, exists_const]
  rw [and_comm, eq_comm]

/-! ## Resolution -/

/-- What a domain is resolved by. -/
def registration (rules : ProfileRules) : String × U32 := (rules.profileId, rules.schemaVersion)

theorem nodup_registration (compatible : custom.Pairwise Compatible) : (custom.map registration).Nodup := by
  rw [List.Nodup, List.pairwise_map]
  exact compatible.imp fun apart same => apart.schemas (Prod.mk.inj same).1 (Prod.mk.inj same).2

/-- Among rule sets in order, a domain and schema are looked up by their names. -/
theorem findCustom_eq (registrable : ∀ rules ∈ custom, Registrable rules) (id : ProfileId) (schema : U32) :
    findCustom id schema custom =
      okOr (custom.find? fun rules => registration rules = (id.name, schema))
        (.invalidInput "unregistered domain/schema") := by
  induction custom with
  | nil => rfl
  | cons first rest ih =>
    obtain ⟨own, others⟩ := List.forall_mem_cons.mp registrable
    have same : ((⟨first.profileId⟩ : ProfileId) = id ∧ first.schemaVersion = schema) ↔
        registration first = (id.name, schema) := by
      obtain ⟨name⟩ := id
      rw [registration, Prod.mk.injEq, ProfileId.mk.injEq]
    rw [findCustom, own.identity, List.find?_cons]
    change (if _ then pure first else findCustom id schema rest) = _
    by_cases found : registration first = (id.name, schema)
    · rw [if_pos (same.mpr found), decide_eq_true found]
      rfl
    · rw [if_neg (mt same.mp found), decide_eq_false found, ih others]

theorem withCustom_perm {rearranged : List ProfileRules} (composed : withCustom custom = .ok registry)
    (perm : custom.Perm rearranged) :
    ∃ registry', withCustom rearranged = .ok registry' ∧
      ∀ stateType inputs, registry'.resolve stateType inputs = registry.resolve stateType inputs := by
  obtain ⟨rfl, registrable, compatible⟩ := withCustom_iff.mp composed
  have registrable' : ∀ rules ∈ rearranged, Registrable rules :=
    fun rules member => registrable rules (perm.mem_iff.mpr member)
  refine ⟨_, withCustom_iff.mpr ⟨rfl, registrable', perm.pairwise compatible Compatible.symm⟩,
    fun stateType inputs => ?_⟩
  have found (id : ProfileId) (schema : U32) : findCustom id schema rearranged = findCustom id schema custom := by
    rw [findCustom_eq registrable, findCustom_eq registrable', find?_key_perm perm (nodup_registration compatible)]
  by_cases custom' : stateType = .custom
  · subst custom'
    simp only [resolve, ne_eq, not_true_eq_false, if_false, found]
  · rw [resolve, resolve, if_pos custom', if_pos custom']
    cases stateType <;> rfl

theorem findCustom_of_mem (composed : withCustom custom = .ok registry) {rules : ProfileRules}
    (member : rules ∈ custom) : findCustom ⟨rules.profileId⟩ rules.schemaVersion registry.custom = .ok rules := by
  obtain ⟨rfl, registrable, compatible⟩ := withCustom_iff.mp composed
  change findCustom _ _ custom = _
  rw [findCustom_eq registrable, okOr_eq_ok]
  exact (find?_key_eq_some (nodup_registration compatible)).mpr ⟨member, rfl⟩

end ProfileRegistry

end StateChronicle.Profiles
