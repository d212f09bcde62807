import StateChronicle.Commit.Persist
import StateChronicle.Verified.HolderSlots

/-!
# What is executed can be persisted

The executor and the durable route agree on the shape of an event with two exceptions.  The executor takes any intent
id, the durable route only one with the prefix of intent ids.  And the executor trusts a custom domain that brings an
execution policy of its own with the unborn states and the companions, which the durable route checks.
-/

namespace StateChronicle.Verified

open Commit Domain Execution Foundation Profiles

variable {W : Type}

/-- The hash stored with a state is its canonical digest. -/
def CanonicalHashes (codec : Codec) (table : StateTable) : Prop :=
  ∀ slot projection, table.read slot = some projection → codec.digestState projection.state = .ok projection.stateHash

/-- The events entered with the state type of their intent. -/
def entriesOf (stateType : StateType) (events : List Event) : List CommittedEvent :=
  events.map fun event => ⟨event, stateType⟩

/-- The checks of the durable route on the events of an intent and on the projections computed from them. -/
structure Persistable (codec : Codec) (intent : Intent) (commitId : CommitId) (stateType : StateType)
    (events : List Event) : Prop where
  committed : validateCommittedEvents codec (entriesOf stateType events) = .ok ()
  bound : ∀ event ∈ events, validateEventBinding intent intent.tenantId event = .ok ()
  projected : validateProjectionBindings commitId (entriesOf stateType events)
    (projectionsFor commitId (entriesOf stateType events)) = .ok ()

/-! ## Custom domains -/

/-- The state carries the domain and the schema version of the rule set. -/
def InDomain (rules : ProfileRules) (custom : CustomState) : Prop :=
  custom.domain = ⟨rules.profileId⟩ ∧ custom.schemaVersion = rules.schemaVersion

theorem inDomain_of_checkCustomIdentity {rules : ProfileRules} {message : String} {custom : CustomState} {u : Unit}
    (checked : checkCustomIdentity rules message custom = .ok u) :
    InDomain rules custom ∧ ProfileId.new rules.profileId = .ok ⟨rules.profileId⟩ := by
  simp only [checkCustomIdentity, Except.bind_eq_ok, Except.mapError_eq_ok, rejectIf_eq_ok, not_or, not_not] at checked
  obtain ⟨identity, made, domain, version⟩ := checked
  obtain rfl : identity = ⟨rules.profileId⟩ := congrArg ProfileId.mk (name_of_new made).symm
  exact ⟨⟨domain, version⟩, made⟩

theorem exists_custom {state : ResourceState} (typed : state.stateType = .custom) :
    ∃ custom, state = .custom custom := by
  cases state <;> cases typed
  exact ⟨_, rfl⟩

/-- Both states of a transition carry the domain of the rule set. -/
def StaysInDomain (rules : ProfileRules) (before : Except ProfileError ResourceState) (after : ResourceState) : Prop :=
  ∃ began ended, before = .ok (.custom began) ∧ after = .custom ended ∧ InDomain rules began ∧ InDomain rules ended

/-- What the durable route asks of the execution policy of a custom domain: the intent and its companion stay in the
domain, also from an unborn state, and the companion is on the resource of the intent. -/
structure KeepsDomain (table : StateTable) (rules : ProfileRules) (intent : Intent) : Prop where
  primary : ∀ after, rules.apply (table.read (currentSlot table rules.executionPolicy intent)) intent.operation
      intent.inputs = .ok after →
    StaysInDomain rules (Executor.beforeState rules.executionPolicy
      (table.read (currentSlot table rules.executionPolicy intent)) after) after
  companion : ∀ target source after, rules.executionPolicy.companionTarget intent = .ok (some target) →
    table.read (currentSlot table rules.executionPolicy intent) = some source →
    rules.executionPolicy.applyCompanion intent source
      (table.read ⟨intent.tenantId, target.resource, target.subject⟩) = .ok after →
    target.resource = intent.resourceId ∧ StaysInDomain rules (Executor.beforeState rules.executionPolicy
      (table.read ⟨intent.tenantId, target.resource, target.subject⟩) after) after

theorem validateCustomTransition_of_native {before after : ResourceState} (native : after.stateType ≠ .custom) :
    validateCustomTransition before after = .ok () := by
  cases after <;> first | rfl | exact absurd rfl native

section Events

variable {self : Executor W} {table : StateTable} {intent : Intent} {coordinated : Bool}

/-- An emitted event is coherent when its before-state has the type and the domain of its after-state. -/
theorem coherent_of_emits {policy : ExecutionPolicy} {resource : ResourceId} {current : Option StateProjection}
    {after : ResourceState} {event : Event} {stateType : StateType}
    (emitted : self.Emits policy intent resource current after event)
    (canonical : ∀ projection, current = some projection →
      self.codec.digestState projection.state = .ok projection.stateHash)
    (typed : after.stateType = stateType)
    (succeeds : ∀ before, Executor.beforeState policy current after = .ok before →
      before.stateType = stateType ∧ validateCustomTransition before after = .ok ()) :
    CommittedEvent.Coherent self.codec ⟨event, stateType⟩ := by
  obtain ⟨-, version, digest, state⟩ := Executor.commitments_eq_ok emitted.committed
  obtain ⟨before, beforeDigest⟩ := emitted.before_state canonical
  obtain ⟨beforeTyped, domain⟩ := succeeds _ before
  rw [Executor.digestState_eq_ok, ← state] at digest
  rw [← state] at domain typed
  exact ⟨emitted.schema, version, beforeTyped, typed, domain, beforeDigest, digest⟩

/-- What is asked of an emitted event apart from its ids. -/
def Committable (codec : Codec) (intent : Intent) (stateType : StateType) (event : Event) : Prop :=
  CommittedEvent.Coherent codec ⟨event, stateType⟩ ∧ validateEventBinding intent intent.tenantId event = .ok ()

section Emitted

variable {policy : ExecutionPolicy} {resource : ResourceId} {current : Option StateProjection} {after : ResourceState}
  {event : Event} (emitted : self.Emits policy intent resource current after event)
  (canonical : ∀ projection, current = some projection →
    self.codec.digestState projection.state = .ok projection.stateHash)

include emitted canonical

/-- An event between states of a built-in type is committable on the resource of its intent. -/
theorem committable_of_native (own : resource = intent.resourceId) (typed : intent.stateType = some after.stateType)
    (native : after.stateType ≠ .custom) (began : ∀ before, Executor.beforeState policy current after = .ok before →
      before.stateType = after.stateType) : Committable self.codec intent after.stateType event := by
  refine ⟨coherent_of_emits emitted canonical rfl fun before same =>
    ⟨began before same, validateCustomTransition_of_native native⟩, Except.bind_eq_ok.mpr ⟨(), ?_, ?_⟩⟩
  · simp [rejectIf_eq_ok, emitted.tenantId, emitted.intentId, emitted.actor, emitted.operation, emitted.resourceId, own,
      emitted.after_state, typed]
  · rw [emitted.after_state]
    cases after <;> first | rfl | exact absurd rfl native

/-- An event of a custom domain is committable exactly when it stays in the domain, on the resource of its intent. -/
theorem committable_custom_iff {rules : ProfileRules} (typed : intent.stateType = some .custom)
    (resolved : self.profiles.resolve .custom intent.inputs = .ok rules)
    (valid : ProfileId.new rules.profileId = .ok ⟨rules.profileId⟩) (versioned : rules.schemaVersion ≠ 0) :
    Committable self.codec intent .custom event ↔
      resource = intent.resourceId ∧ StaysInDomain rules (Executor.beforeState policy current after) after := by
  obtain ⟨named, version⟩ := ProfileRegistry.identity_of_resolve resolved
  constructor
  · rintro ⟨coherent, bound⟩
    obtain ⟨before, -⟩ := emitted.before_state canonical
    obtain ⟨began, started⟩ : ∃ began, event.before.state = .custom began := exists_custom coherent.before
    obtain ⟨ended, stopped⟩ : ∃ ended, event.after.state = .custom ended := exists_custom coherent.after
    have domain : validateCustomTransition event.before.state event.after.state = .ok () := coherent.domain
    simp only [started, stopped, validateCustomTransition, Except.bind_eq_ok, rejectIf_eq_ok, not_or, not_not] at domain
    obtain ⟨-, -, -, sameDomain, sameVersion⟩ := domain
    simp only [validateEventBinding, stopped, Except.bind_eq_ok, rejectIf_eq_ok, not_or, not_not, named,
      Option.bind_some, Value.asStr, okOr_eq_ok, Option.some.injEq, Except.mapError_eq_ok, version,
      Fin.val_inj] at bound
    obtain ⟨-, ⟨-, -, -, -, own, -⟩, _, rfl, _, new, -, endDomain, endVersion⟩ := bound
    obtain rfl := Except.ok.inj (valid.symm.trans new)
    refine ⟨emitted.resourceId.symm.trans own, began, ended, started ▸ before, emitted.after_state.symm.trans stopped,
      ⟨sameDomain.trans endDomain, sameVersion.trans endVersion.symm⟩, endDomain, endVersion.symm⟩
  · rintro ⟨own, began, ended, before, rfl, started, stopped⟩
    refine ⟨coherent_of_emits emitted canonical rfl fun state same => ?_, Except.bind_eq_ok.mpr ⟨(), ?_, ?_⟩⟩
    · obtain rfl := Except.ok.inj (same.symm.trans before)
      simp only [validateCustomTransition, Except.bind_eq_ok, Except.mapError_eq_ok, rejectIf_eq_ok, not_or, not_not,
        started.1, started.2, stopped.1, stopped.2]
      exact ⟨rfl, _, valid, versioned, trivial, trivial⟩
    · simp [rejectIf_eq_ok, emitted.tenantId, emitted.intentId, emitted.actor, emitted.operation, emitted.resourceId,
        own, emitted.after_state, typed, ResourceState.stateType]
    · rw [emitted.after_state]
      refine Except.bind_eq_ok.mpr ⟨rules.profileId, by rw [named]; rfl,
        Except.bind_eq_ok.mpr ⟨_, Except.mapError_eq_ok.mpr valid, rejectIf_eq_ok.mpr ?_⟩⟩
      rw [typed, version, stopped.1, stopped.2]
      simp

end Emitted

variable (served : self.ports.Serves table) (canonical : CanonicalHashes self.codec table)
  (acceptance : self.Acceptance intent coordinated)

include served

/-- The policy a domain has unless it defines its own stays in the domain. -/
theorem keepsDomain_of_native (custom : acceptance.stateType = .custom)
    (native : acceptance.rules.executionPolicy = nativeExecution) : KeepsDomain table acceptance.rules intent := by
  obtain ⟨-, applied, typed, checked⟩ := transition_eq_ok.mp acceptance.reduced
  obtain ⟨ended, payload⟩ := exists_custom (typed.trans custom)
  rw [payload] at checked applied
  have stopped := (inDomain_of_checkCustomIdentity checked).1
  have admitted := admitted_of_checkLoaded acceptance.admitted
  have current := acceptance.current_eq served
  refine ⟨fun after same => ?_, fun target source after targeted => ?_⟩
  · rw [← current] at same ⊢
    obtain rfl := Except.ok.inj (applied.symm.trans same)
    cases present : acceptance.current with
    | none => exact ⟨{ ended with payload := [] }, ended, by rw [native]; rfl, rfl, stopped, stopped⟩
    | some projection =>
      obtain ⟨began, recorded⟩ := exists_custom ((admitted.typed projection present).2.trans custom)
      have loaded := admitted.domain
      simp only [checkCustomDomain, if_pos custom, Except.bind_eq_ok, present, checkCustomCurrent, recorded] at loaded
      obtain ⟨_, -, _, -, loaded⟩ := loaded
      exact ⟨began, ended, congrArg Except.ok recorded, rfl, (inDomain_of_checkCustomIdentity loaded).1, stopped⟩
  · rw [native] at targeted
    cases targeted

include canonical

theorem committable_of_builtin (builtin : Builtin acceptance.stateType acceptance.rules)
    (native : acceptance.stateType ≠ .custom) {event : Event} (member : event ∈ acceptance.events) :
    Committable self.codec intent acceptance.stateType event := by
  have typed := acceptance.after_stateType
  have extended := acceptance.extended
  have emitted := acceptance.emitted
  rw [builtin.executionPolicy_eq] at extended emitted
  rcases List.mem_cons.mp member with rfl | companion
  · have loaded := acceptance.current_eq served
    rw [← typed]
    refine committable_of_native emitted (fun projection present => canonical _ _ (loaded.symm.trans present)) rfl
      (typed ▸ acceptance.typed) (typed ▸ native) fun before began => ?_
    rw [typed]
    cases present : acceptance.current with
    | some projection =>
      rw [present] at began
      rw [← Except.ok.inj began]
      exact ((admitted_of_checkLoaded acceptance.admitted).typed projection present).2
    | none =>
      rw [present] at began
      exact Resource.stateType_of_emptyStateFor began
  · rcases Executor.extends_cases served extended with ⟨-, none⟩ |
      ⟨credit, one, holder, source, after, transfers, -, present, applied, emitted⟩
    · rw [none] at companion
      cases companion
    rw [one, List.mem_singleton] at companion
    subst companion
    -- The credit of a transfer: both of its states are holdings of the transferred kind.
    obtain ⟨kind, isTransfer, hint⟩ := HoldingKind.exists_transfer transfers
    have held := builtin.eq_of_stateTypeHint (builtin.mem_allowedOperations acceptance.checked) hint
    have sourceTyped := ((admitted_of_checkLoaded acceptance.admitted).typed source present).2.trans held.symm
    rw [isTransfer] at applied
    obtain ⟨afterTyped, destinationTyped⟩ := (kind.credit_of_transferAfterState sourceTyped applied).typed
    have same : after.stateType = acceptance.stateType := afterTyped.trans held
    rw [← same]
    refine committable_of_native emitted (canonical _) rfl (same ▸ acceptance.typed) (same ▸ native)
      fun before began => ?_
    cases recorded : table.read ⟨intent.tenantId, intent.resourceId, some holder⟩ with
    | some projection =>
      rw [recorded] at began
      rw [← Except.ok.inj began, destinationTyped projection recorded, afterTyped]
    | none =>
      rw [recorded] at began
      rw [same]
      exact Resource.stateType_of_emptyStateFor began

/-- The events of a custom domain are committable exactly when its policy keeps them in the domain. -/
theorem committable_iff_keepsDomain (versioned : acceptance.rules.schemaVersion ≠ 0)
    (custom : acceptance.stateType = .custom) :
    (∀ event ∈ acceptance.events, Committable self.codec intent .custom event) ↔
      KeepsDomain table acceptance.rules intent := by
  have current := acceptance.current_eq served
  obtain ⟨-, applied, typed, checked⟩ := transition_eq_ok.mp acceptance.reduced
  obtain ⟨ended, payload⟩ := exists_custom (typed.trans custom)
  rw [payload] at checked
  have valid := (inDomain_of_checkCustomIdentity checked).2
  have primary := committable_custom_iff acceptance.emitted (fun projection present =>
    canonical _ _ (current.symm.trans present)) (custom ▸ acceptance.typed) (custom ▸ acceptance.resolved) valid
    versioned
  have extended := acceptance.extended
  rw [Executor.Acceptance.events, List.forall_mem_cons, primary]
  rw [current] at applied extended ⊢
  generalize acceptance.companions = companions at extended
  constructor
  · rintro ⟨⟨-, stays⟩, others⟩
    refine ⟨fun after same => Except.ok.inj (applied.symm.trans same) ▸ stays, fun target source after targeted present
      credited => ?_⟩
    cases extended with
    | alone untargeted => cases untargeted.symm.trans targeted
    | companion targeted' loaded present' credited' emitted =>
      obtain ⟨_, _, loaded⟩ := loaded
      cases targeted'.symm.trans targeted
      cases present'.symm.trans present
      obtain rfl := Executor.load_of_serves served loaded
      cases credited'.symm.trans credited
      exact (committable_custom_iff emitted (canonical _) (custom ▸ acceptance.typed) (custom ▸ acceptance.resolved)
        valid versioned).mp (others _ List.mem_cons_self)
  · intro keeps
    refine ⟨⟨rfl, keeps.primary _ applied⟩, fun event member => ?_⟩
    cases extended with
    | alone => cases member
    | companion targeted loaded present credited emitted =>
      obtain ⟨_, _, loaded⟩ := loaded
      obtain rfl := Executor.load_of_serves served loaded
      rw [List.mem_singleton.mp member]
      exact (committable_custom_iff emitted (canonical _) (custom ▸ acceptance.typed) (custom ▸ acceptance.resolved)
        valid versioned).mpr (keeps.companion _ _ _ targeted present credited)

end Events

/-- The events of a validated intent that was executed for the first time can be persisted exactly when its id is a
valid intent id and, for an intent of a custom domain, the domain's execution policy stays in the domain. -/
theorem persistable_iff {self : Executor W} {table : StateTable} {intent : Intent}
    {signature : Option SignatureBlock} {validated : ValidatedIntent} {stateType : StateType} {events : List Event}
    {w w' : W} (standard : self.profiles.Standard) (versioned : self.profiles.Versioned)
    (served : self.ports.Serves table) (canonical : CanonicalHashes self.codec table)
    (accepted : ValidatedIntent.tryFromIntent self.codec.intentBytes intent signature = .ok validated)
    (typed : intent.stateType = some stateType)
    (executed : self.execute validated w = .ok events w') (fresh : events ≠ [])
    (ids : ∀ event ∈ events, ∃ id, EventId.new event.eventId.name = .ok id)
    (distinct : (events.map Event.eventId).Nodup) (commitId : CommitId) :
    Persistable self.codec intent commitId stateType events ↔
      (∃ id, IntentId.new intent.intentId.name = .ok id) ∧
        ∀ rules, stateType = .custom → self.profiles.resolve stateType intent.inputs = .ok rules →
          KeepsDomain table rules intent := by
  obtain ⟨rfl, -⟩ := ValidatedIntent.tryFromIntent_eq_ok accepted
  obtain ⟨acceptance, rfl⟩ := Executor.acceptance_of_fresh executed fresh
  obtain rfl := Option.some.inj (acceptance.typed.symm.trans typed)
  have committable : (∀ event ∈ acceptance.events, Committable self.codec intent acceptance.stateType event) ↔
      ∀ rules, acceptance.stateType = .custom →
        self.profiles.resolve acceptance.stateType intent.inputs = .ok rules →
          KeepsDomain table rules intent := by
    rcases ProfileRegistry.resolve_cases acceptance.resolved with ⟨native, slot⟩ | ⟨custom, registered⟩
    · exact iff_of_true (fun event => committable_of_builtin served canonical acceptance (standard.builtin slot) native)
        fun _ custom => absurd custom native
    · have committable := committable_iff_keepsDomain served canonical acceptance (versioned _ registered) custom
      rw [← custom] at committable
      rw [committable]
      constructor
      · intro keeps rules _ resolved
        exact Except.ok.inj (acceptance.resolved.symm.trans resolved) ▸ keeps
      · exact fun keeps => keeps _ custom acceptance.resolved
  rw [← committable]
  constructor
  · intro persistable
    have checked (event : Event) (member : event ∈ acceptance.events) := validateCommittedEvent_eq_ok.mp
      ((validateCommittedEvents_eq_ok.mp persistable.committed).1 ⟨event, _⟩ (List.mem_map_of_mem member))
    refine ⟨?_, fun event member => ⟨(checked event member).2.2, persistable.bound event member⟩⟩
    obtain ⟨-, valid, -⟩ := checked acceptance.event List.mem_cons_self
    rwa [acceptance.emitted.intentId] at valid
  · rintro ⟨valid, committable⟩
    refine ⟨validateCommittedEvents_eq_ok.mpr ⟨fun entry member => ?_, ?_⟩,
      fun event member => (committable event member).2, validateProjectionBindings_projectionsFor.mpr
        fun entry member => ?_⟩
    · obtain ⟨event, listed, rfl⟩ := List.mem_map.mp member
      refine validateCommittedEvent_eq_ok.mpr ⟨ids event listed, ?_, (committable event listed).1⟩
      rwa [(acceptance.stamped listed).2.1]
    · rw [entriesOf, List.map_map]
      exact distinct
    · obtain ⟨event, listed, rfl⟩ := List.mem_map.mp member
      exact (committable event listed).1.after

open Harness

def savings : StateTable :=
  tableOf [⟨tenant, gold, 1, goldBalance "alice" 100⟩, ⟨tenant, gold, 7, goldBalance "bob" 50⟩]

def fiveGold (id : String) : ValidatedIntent :=
  intent id "balance.transfer" "alice" gold .fungibleBalance 1 [("amount", "5"), ("to_subject", "bob")]

def fiveGoldEvents (id : String) : List Event := emitted ((executor .baseline savings).execute (fiveGold id) .fresh)

/-- A transfer between two holders can be persisted. -/
theorem five_gold_persistable :
    (fiveGoldEvents "int_five").length = 2 ∧
      Persistable codec (fiveGold "int_five").intent commitId .fungibleBalance (fiveGoldEvents "int_five") := by
  obtain ⟨two, ids, distinct, valid⟩ : (fiveGoldEvents "int_five").length = 2 ∧
      (∀ event ∈ fiveGoldEvents "int_five", EventId.new event.eventId.name = .ok event.eventId) ∧
      ((fiveGoldEvents "int_five").map Event.eventId).Nodup ∧ IntentId.new "int_five" = .ok ⟨"int_five"⟩ := by
    decide +kernel
  have fresh : fiveGoldEvents "int_five" ≠ [] := by
    intro none
    rw [none] at two
    cases two
  obtain ⟨memory, returns⟩ := ok_of_emitted_ne_nil fresh
  refine ⟨two, (persistable_iff ProfileRegistry.standard_baseline ProfileRegistry.versioned_baseline
    (executor_serves _ _) (fun _ _ => digestState_tableOf) rfl rfl returns fresh
    (fun event member => ⟨_, ids event member⟩) distinct commitId).mpr ⟨⟨_, valid⟩, nofun⟩⟩

/-- The same transfer under an id without the prefix is executed but cannot be persisted. -/
theorem five_gold_unpersistable :
    ValidatedIntent.tryFromIntent codec.intentBytes (fiveGold "five").intent none = .ok (fiveGold "five") ∧
      (fiveGoldEvents "five").length = 2 ∧
      (∀ event ∈ fiveGoldEvents "five", EventId.new event.eventId.name = .ok event.eventId) ∧
      ((fiveGoldEvents "five").map Event.eventId).Nodup ∧
      validateCommittedEvents codec (entriesOf .fungibleBalance (fiveGoldEvents "five")) =
        .error (.invalidEvent
          "invalid intent id: invalid intent id: `five` must start with `int_` and be ≤ 128 chars") := by
  decide +kernel

end StateChronicle.Verified
