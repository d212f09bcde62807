import StateChronicle.Profiles.Registration

/-!
# Namespaces of custom domains

Registration keeps custom domains apart from each other, in whatever order they come.  From the baseline it keeps them
apart by the reserved prefixes, and the `trade` operations have none.
-/

namespace StateChronicle.Verified

open Domain Foundation Profiles

/-- The operations of accepted domains: none is one of the baseline's, each belongs to one domain, and a domain and
schema resolve to one rule set, in whatever order the slice comes. -/
structure NamespacesApart (custom : List ProfileRules) (registry : ProfileRegistry) : Prop where
  baseline : ∀ rules ∈ custom, ∀ stateType builtin, Builtin stateType builtin →
    ∀ operation ∈ rules.allowedOperations, operation ∉ builtin.allowedOperations
  domains : ∀ rules ∈ custom, ∀ other ∈ custom, ∀ operation ∈ rules.allowedOperations,
    operation ∈ other.allowedOperations → rules.profileId = other.profileId
  single : ∀ domain schema,
    (custom.filter fun rules => rules.profileId = domain ∧ rules.schemaVersion = schema).length ≤ 1
  orderFree : ∀ rearranged, custom.Perm rearranged → ∃ registry',
    ProfileRegistry.withCustom rearranged = .ok registry' ∧
      ∀ stateType inputs, registry'.resolve stateType inputs = registry.resolve stateType inputs

theorem domain_of_shared {custom : List ProfileRules} (compatible : custom.Pairwise Compatible)
    {rules other : ProfileRules} (member : rules ∈ custom) (member' : other ∈ custom) {operation : Operation}
    (listed : operation ∈ rules.allowedOperations) (listed' : operation ∈ other.allowedOperations) :
    rules.profileId = other.profileId := by
  by_contra differ
  have apart : Compatible rules other ∨ rules = other := by
    obtain ⟨i, hi, rfl⟩ := List.getElem_of_mem member
    obtain ⟨j, hj, rfl⟩ := List.getElem_of_mem member'
    have pairwise := List.pairwise_iff_getElem.mp compatible
    rcases lt_trichotomy i j with before | rfl | after
    · exact .inl (pairwise i j hi hj before)
    · exact .inr rfl
    · exact .inl (pairwise j i hj hi after).symm
  rcases apart with compatible | rfl
  · exact compatible.operations differ operation listed listed'
  · exact differ rfl

/-- The namespaces of an accepted slice are apart exactly when it lists none of the trade operations. -/
theorem namespaces_apart_iff {custom : List ProfileRules} {registry : ProfileRegistry}
    (composed : ProfileRegistry.withCustom custom = .ok registry) :
    NamespacesApart custom registry ↔
      ∀ rules ∈ custom, ∀ operation ∈ rules.allowedOperations, operation ∉ tradeOperations := by
  obtain ⟨-, registrable, compatible⟩ := ProfileRegistry.withCustom_iff.mp composed
  constructor
  · intro apart rules member operation listed trade
    have baseline : tradeOperations ⊆ uniqueAssetRules.allowedOperations := by decide
    exact apart.baseline rules member _ _ .uniqueAsset operation listed (baseline trade)
  · intro untraded
    refine ⟨fun rules member stateType builtin served operation listed listed' => ?_,
      fun rules member other member' operation listed listed' =>
        domain_of_shared compatible member member' listed listed', fun domain schema => ?_,
      fun rearranged perm => ProfileRegistry.withCustom_perm composed perm⟩
    · -- a reserved name is refused, and what is left of the baseline are the operations of trades
      rcases served.hinted listed' with reserved | trade
      · rw [(registrable rules member).unreserved operation listed] at reserved
        cases reserved
      · exact untraded rules member operation listed trade
    · -- two rule sets of one domain and schema are not compatible
      have pairwise := compatible.sublist
        (List.filter_sublist (p := fun rules => rules.profileId = domain ∧ rules.schemaVersion = schema))
      rcases two : custom.filter fun rules => rules.profileId = domain ∧ rules.schemaVersion = schema with
        _ | ⟨one, _ | ⟨other, rest⟩⟩
      · rw [two]
        exact Nat.zero_le _
      · rw [two]
        exact le_refl _
      · rw [two] at pairwise
        have matches' : ∀ rules ∈ one :: other :: rest, rules.profileId = domain ∧ rules.schemaVersion = schema := by
          intro rules member
          rw [← two] at member
          simpa using List.of_mem_filter member
        obtain ⟨name, version⟩ := matches' one (by simp)
        obtain ⟨name', version'⟩ := matches' other (by simp)
        have apart := List.rel_of_pairwise_cons pairwise List.mem_cons_self
        exact absurd (version.trans version'.symm) (apart.schemas (name.trans name'.symm))

/-- A domain that accepts whatever names one of its operations. -/
def domainOf (name : String) (operations : List Operation) : ProfileRules where
  stateType := .custom
  profileId := name
  allowedOperations := operations
  check operation _ _ := rejectIf (operation ∉ operations) (.unknownOperation operation.name)
  schemaVersion := 1

theorem two_domains_apart :
    ∃ registry, ProfileRegistry.withCustom
        [domainOf "test.counter" [⟨"counter.set"⟩], domainOf "test.ledger" [⟨"ledger.post"⟩]] = .ok registry ∧
      NamespacesApart [domainOf "test.counter" [⟨"counter.set"⟩], domainOf "test.ledger" [⟨"ledger.post"⟩]]
        registry := by
  have composed : ProfileRegistry.withCustom
      [domainOf "test.counter" [⟨"counter.set"⟩], domainOf "test.ledger" [⟨"ledger.post"⟩]] = .ok _ := rfl
  refine ⟨_, composed, (namespaces_apart_iff composed).mpr ?_⟩
  simp only [List.forall_mem_cons, List.not_mem_nil, false_implies, implies_true, and_true]
  decide

/-- A custom domain registers the operation that locks an asset for a trade. -/
theorem trade_lock_registered :
    ∃ registry, ProfileRegistry.withCustom [domainOf "test.broker" [UniqueAsset.op.tradeLock]] = .ok registry ∧
      UniqueAsset.op.tradeLock ∈ uniqueAssetRules.allowedOperations ∧
      ¬ NamespacesApart [domainOf "test.broker" [UniqueAsset.op.tradeLock]] registry := by
  have shared : UniqueAsset.op.tradeLock ∈ uniqueAssetRules.allowedOperations := by decide
  refine ⟨_, rfl, shared, fun apart => ?_⟩
  exact apart.baseline _ List.mem_cons_self _ _ .uniqueAsset UniqueAsset.op.tradeLock List.mem_cons_self shared

end StateChronicle.Verified
