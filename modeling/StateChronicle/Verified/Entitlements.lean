import StateChronicle.Verified.BlindOverwrite

/-!
# Entitlements

An entitlement belongs to a subject.  The checks look at the state of the acting subject, while a grant and a
transfer write the slot of the subject their inputs name and leave the slot they have looked at alone.
-/

namespace StateChronicle.Verified

open Commit StateChronicle.Core Domain Execution Foundation Profiles

variable {W : Type}

/-- An entitlement in one of the given statuses. -/
structure EntitlementIn (statuses : List Status) (state : ResourceState) : Prop where
  kind : state.stateType = .entitlement
  status : ∃ status ∈ statuses, state.status = some status

/-- The statuses in which an entitlement has ended. -/
def endedStatuses : List Status := [Entitlement.status.expired, Entitlement.status.revoked]

/-- The statuses an entitlement can be handed over in. -/
def liveStatuses : List Status := [Entitlement.status.granted, Entitlement.status.active]

/-! ## Ended entitlements -/

/-- The intent opens a holding of the resource for the subject, or hands an entitlement over to it. -/
def Bestows (intent : Intent) (tenant : TenantId) (resource : ResourceId) (subject : SubjectId) : Prop :=
  intent.tenantId = tenant ∧ intent.resourceId = resource ∧
    (intent.operation ∈ Transition.creations ∧ Transition.namedSubject intent.inputs "subject" = some subject ∨
      intent.operation = Entitlement.op.entitlementTransfer ∧
        Transition.namedSubject intent.inputs "to_subject" = some subject)

theorem endedStatuses_terminal : endedStatuses ⊆ Resource.terminalStatuses := by
  decide

/-- Grants, transfers and the other creations belong to types that are held by subjects. -/
theorem hint_of_creations : ∀ operation ∈ Entitlement.op.entitlementTransfer :: Transition.creations,
    ∃ stateType, operation.stateTypeHint = some stateType ∧ stateType.subjectHeld = true := by
  decide

section Acceptances

variable {self : Executor W} {table : StateTable} {intent : Intent} {coordinated : Bool}
  {tenant : TenantId} {resource : ResourceId} {subject : SubjectId} {projection : StateProjection}

/-- An entitlement has no amount a credit could add to. -/
theorem not_credited {source : StateProjection} {operation : Operation} {inputs : Inputs}
    {after : ResourceState} (kind : projection.state.stateType = .entitlement) :
    Transition.transferAfterState source (some projection) operation inputs ≠ .ok after := by
  intro applied
  have amountless (field : String) (amount : Amount) :
      Transition.existingAmount (some projection) field ≠ .ok amount := by
    rw [Transition.existingAmount, stateAmount, Ne, okOr_eq_ok]
    cases payload : projection.state <;> rw [payload] at kind <;> cases kind
    exact Option.some_ne_none amount ∘ Eq.symm
  unfold Transition.transferAfterState at applied
  split_ifs at applied
  all_goals
    obtain ⟨_, -, _, -, _, -, existing, read, -⟩ := Transition.creditedState_eq_ok.mp applied
    exact amountless _ _ read

variable (acceptance : self.Acceptance intent coordinated) (standard : self.profiles.Standard)

include standard

theorem not_ended_of_acceptance (present : acceptance.current = some projection) :
    ¬ EntitlementIn endedStatuses projection.state := by
  rintro ⟨kind, status, ended, recorded⟩
  have native : projection.state.stateType ≠ .custom := by simp [kind]
  exact acceptance.status_ne_terminal standard present native (endedStatuses_terminal ended) recorded

/-- An operation with the name of a state type acts on a state of that type. -/
theorem stateType_of_hint {hinted : StateType} (hint : intent.operation.stateTypeHint = some hinted) :
    Builtin acceptance.stateType acceptance.rules ∧ acceptance.stateType = hinted := by
  have builtin := acceptance.builtin_of_reserved standard (by rw [hint]; rfl)
  exact ⟨builtin, (builtin.eq_of_stateTypeHint (builtin.mem_allowedOperations acceptance.checked) hint).symm⟩

theorem builtin_of_creations
    (bestowed : intent.operation ∈ Entitlement.op.entitlementTransfer :: Transition.creations) :
    Builtin acceptance.stateType acceptance.rules ∧ acceptance.stateType.subjectHeld = true := by
  obtain ⟨stateType, hint, held⟩ := hint_of_creations _ bestowed
  obtain ⟨builtin, typed⟩ := stateType_of_hint acceptance standard hint
  exact ⟨builtin, typed ▸ held⟩

theorem writtenSlot_of_bestows (bestows : Bestows intent tenant resource subject) :
    writtenSlot acceptance.event = ⟨tenant, resource, some subject⟩ := by
  obtain ⟨rfl, rfl, ⟨creates, named⟩ | ⟨transfers, named⟩⟩ := bestows
  · obtain ⟨builtin, held⟩ := builtin_of_creations acceptance standard (List.mem_cons_of_mem _ creates)
    rw [writtenSlot_of_acceptance acceptance builtin, targetSlot, if_pos held, Transition.writtenSubject,
      if_pos creates, named]
  · obtain ⟨builtin, held⟩ := builtin_of_creations acceptance standard (transfers ▸ List.mem_cons_self)
    rw [writtenSlot_of_acceptance acceptance builtin, targetSlot, if_pos held, Transition.writtenSubject,
      if_neg (by rw [transfers]; decide), if_pos transfers, named]

/-- The slot of a holder is written by who bestows on the holder, and by the holder on the state kept there. -/
theorem writer_cases (served : self.ports.Serves table) (keyed : table.HoldersKeyed)
    (written : writtenSlot acceptance.event = ⟨tenant, resource, some subject⟩) :
    Builtin acceptance.stateType acceptance.rules ∧
      (Bestows intent tenant resource subject ∨
        intent.tenantId = tenant ∧ intent.resourceId = resource ∧ intent.actor = subject ∧
          Transition.KeepsHolder intent.operation ∧
          acceptance.current = table.read ⟨tenant, resource, some subject⟩) := by
  have held : acceptance.stateType.subjectHeld = true := by
    rw [writtenSlot, acceptance.emitted.after_state] at written
    rw [← acceptance.after_stateType, ← ResourceState.subject_isSome_iff, (StateSlot.mk.inj written).2.2]
    rfl
  have native : acceptance.stateType ≠ .custom := by
    intro custom
    rw [custom] at held
    cases held
  have builtin := acceptance.builtin standard fun custom =>
    native (Option.some.inj (acceptance.typed.symm.trans custom))
  refine ⟨builtin, ?_⟩
  rw [writtenSlot_of_acceptance acceptance builtin, targetSlot, if_pos held] at written
  obtain ⟨rfl, rfl, named⟩ := StateSlot.mk.inj written
  unfold Transition.writtenSubject at named
  split_ifs at named with creates transfers
  · exact .inl ⟨rfl, rfl, .inl ⟨creates, named⟩⟩
  · exact .inl ⟨rfl, rfl, .inr ⟨transfers, named⟩⟩
  · -- Any other operation writes back to the slot it has looked at, which is its actor's.
    have current := acceptance.current_eq served
    rw [builtin.executionPolicy_eq, currentSlot_of_holdersKeyed keyed held] at current
    obtain ⟨loaded, present, holder⟩ := Option.bind_eq_some_iff.mp named
    have own : loaded.state.subject = some intent.actor := (keyed _ loaded rfl (current.symm.trans present)).2.2
    obtain rfl : intent.actor = subject := Option.some.inj (own.symm.trans holder)
    exact .inr ⟨rfl, rfl, rfl, ⟨creates, transfers⟩, current⟩

section Ended

variable (nativeDomains : self.profiles.NativeDomains) (served : self.ports.Serves table) (keyed : table.HoldersKeyed)
  (stored : table.read ⟨tenant, resource, some subject⟩ = some projection)
  (ended : EntitlementIn endedStatuses projection.state)

include served stored ended

include keyed in
theorem bestows_of_writtenSlot (written : writtenSlot acceptance.event = ⟨tenant, resource, some subject⟩) :
    Bestows intent tenant resource subject := by
  rcases writer_cases acceptance standard served keyed written with ⟨-, bestows | ⟨-, -, -, -, current⟩⟩
  · exact bestows
  · exact absurd ended (not_ended_of_acceptance acceptance standard (current.trans stored))

include nativeDomains in
theorem writtenSlot_ne_of_companion {event : Event} (companion : event ∈ acceptance.companions) :
    writtenSlot event ≠ ⟨tenant, resource, some subject⟩ := by
  intro written
  obtain ⟨holder, source, after, -, named, -, applied, emitted⟩ :=
    acceptance.credits_of_companion standard nativeDomains served companion
  rw [writtenSlot_of_credit named applied emitted] at written
  rw [written, stored] at applied
  exact not_credited ended.kind applied

include keyed nativeDomains in
/-- The slot of an ended entitlement is written by the intents that bestow on its subject, and by no other. -/
theorem written_ended_iff :
    (∃ event ∈ acceptance.events, writtenSlot event = ⟨tenant, resource, some subject⟩) ↔
      Bestows intent tenant resource subject := by
  constructor
  · rintro ⟨event, member, written⟩
    rcases List.mem_cons.mp member with rfl | companion
    · exact bestows_of_writtenSlot acceptance standard served keyed stored ended written
    · exact absurd written
        (writtenSlot_ne_of_companion acceptance standard nativeDomains served stored ended companion)
  · intro bestows
    exact ⟨acceptance.event, List.mem_cons_self, writtenSlot_of_bestows acceptance standard bestows⟩

end Ended

end Acceptances

section Steps

variable {step : RunStep W} {tenant : TenantId} {resource : ResourceId} {subject : SubjectId}
  {projection : StateProjection}

theorem spares_ended_iff (accepted : step.Accepted) (keyed : step.table.HoldersKeyed)
    (stored : step.table.read ⟨tenant, resource, some subject⟩ = some projection)
    (ended : EntitlementIn endedStatuses projection.state) :
    (∀ event ∈ step.events, writtenSlot event ≠ ⟨tenant, resource, some subject⟩) ↔
      (step.events ≠ [] → ¬ Bestows step.intent tenant resource subject) := by
  rcases accepted.cases with replayed | ⟨acceptance, emitted⟩
  · simp [replayed]
  · have fresh : step.events ≠ [] := emitted ▸ List.cons_ne_nil _ _
    rw [← written_ended_iff acceptance accepted.standard accepted.nativeDomains accepted.served keyed stored ended,
      emitted]
    simp [fresh]

end Steps

/-- After an entitlement has expired or been revoked, a run leaves its slot alone exactly when none of its intents
bestows on that subject again. -/
theorem revocation_final_iff {start table : StateTable} {steps : List (RunStep W)}
    (run : Executed start steps table) (keyed : start.HoldersKeyed) {tenant : TenantId} {resource : ResourceId}
    {subject : SubjectId} {projection : StateProjection}
    (stored : start.read ⟨tenant, resource, some subject⟩ = some projection)
    (ended : EntitlementIn endedStatuses projection.state) :
    (∀ step ∈ steps, ∀ event ∈ step.events, writtenSlot event ≠ ⟨tenant, resource, some subject⟩) ↔
      ∀ step ∈ steps, step.events ≠ [] → ¬ Bestows step.intent tenant resource subject := by
  let held (table : StateTable) : Prop := table.read ⟨tenant, resource, some subject⟩ = some projection
  have first : held start := stored
  exact run.forall_iff first
    (fun step member here => spares_ended_iff (run.before member).1 (run.holdersKeyed_at keyed member) here ended)
    fun step member here spared => (StateTable.read_writeAll_of_forall_ne _ _ spared).trans here

/-! ## Transfers -/

instance (statuses : List Status) (state : ResourceState) : Decidable (EntitlementIn statuses state) :=
  decidable_of_iff (state.stateType = .entitlement ∧ ∃ status ∈ statuses, state.status = some status)
    ⟨fun holds => ⟨holds.1, holds.2⟩, fun holds => ⟨holds.kind, holds.status⟩⟩

/-- The subjects that hold a live entitlement of the resource, by their slots. -/
def liveHolders (tenant : TenantId) (resource : ResourceId) (table : StateTable) : Finset StateSlot :=
  table.keys.filter fun slot => slot.tenant = tenant ∧ slot.resource = resource ∧ slot.subject.isSome ∧
    (table.read slot).any fun projection => EntitlementIn liveStatuses projection.state

/-- The entitlement has left its holder, and no more subjects hold it than before. -/
structure Moves (tenant : TenantId) (resource : ResourceId) (holder : SubjectId) (before after : StateTable) :
    Prop where
  released : ∀ projection, after.read ⟨tenant, resource, some holder⟩ = some projection →
    ¬ EntitlementIn liveStatuses projection.state
  uncopied : (liveHolders tenant resource after).card ≤ (liveHolders tenant resource before).card

/-- The subject whose entitlement the executor looks at. -/
def currentHolder (table : StateTable) (intent : Intent) : SubjectId :=
  (currentSlot table (Resource.resourceExecution .entitlement) intent).subject.getD intent.actor

theorem currentSlot_eq_currentHolder (table : StateTable) (intent : Intent) :
    currentSlot table (Resource.resourceExecution .entitlement) intent =
      ⟨intent.tenantId, intent.resourceId, some (currentHolder table intent)⟩ := by
  unfold currentHolder currentSlot
  split <;> rfl

section Transfers

variable {self : Executor W} {intent : Intent} {coordinated : Bool} (acceptance : self.Acceptance intent coordinated)
  (standard : self.profiles.Standard) (transfers : intent.operation = Entitlement.op.entitlementTransfer)

include standard transfers

theorem entitlement_of_transfer : acceptance.stateType = .entitlement ∧ acceptance.rules = entitlementRules := by
  have hint : intent.operation.stateTypeHint = some .entitlement := by
    rw [transfers]
    decide
  obtain ⟨builtin, typed⟩ := stateType_of_hint acceptance standard hint
  exact ⟨typed, builtin.eq_entitlementRules typed⟩

theorem live_of_transfer :
    ∃ projection, acceptance.current = some projection ∧ EntitlementIn liveStatuses projection.state := by
  obtain ⟨typed, rules⟩ := entitlement_of_transfer acceptance standard transfers
  have checked := acceptance.checked
  rw [rules, transfers] at checked
  replace checked : Entitlement.checkTransfer acceptance.current intent.inputs = .ok () := checked
  simp only [Entitlement.checkTransfer, Except.bind_eq_ok] at checked
  obtain ⟨projection, allowed, -⟩ := checked
  have present := current_of_requireFrom allowed
  have kind := (admitted_of_checkLoaded acceptance.admitted).typed projection present
  exact ⟨projection, present, kind.2.trans typed, status_of_requireFrom allowed⟩

end Transfers

/-- A transfer of an entitlement never moves it: the holder keeps it, whoever else it goes to. -/
theorem transfer_never_moves {step : RunStep W} (accepted : step.Accepted) (fresh : step.events ≠ [])
    (transfers : step.intent.operation = Entitlement.op.entitlementTransfer)
    (other : step.intent.inputs.get? "to_subject" ≠
      some (.string (currentHolder step.table step.intent).name)) :
    ¬ Moves step.intent.tenantId step.intent.resourceId (currentHolder step.table step.intent)
      step.table step.result := by
  rcases accepted.cases with replayed | ⟨acceptance, emitted⟩
  · exact absurd replayed fresh
  intro moves
  obtain ⟨typed, -⟩ := entitlement_of_transfer acceptance accepted.standard transfers
  obtain ⟨projection, present, live⟩ := live_of_transfer acceptance accepted.standard transfers
  have builtin := acceptance.builtin_of_reserved accepted.standard (by rw [transfers]; rfl)
  have stored := (acceptance.current_eq accepted.served).symm.trans present
  rw [builtin.executionPolicy_eq, typed, currentSlot_eq_currentHolder] at stored
  -- The one event goes to the subject the inputs name.
  have alone : step.events = [acceptance.event] := by
    rw [← emitted, Executor.Acceptance.events,
      acceptance.companions_of_other builtin (by rw [transfers]; decide)]
  have elsewhere : writtenSlot acceptance.event ≠
      ⟨step.intent.tenantId, step.intent.resourceId, some (currentHolder step.table step.intent)⟩ := by
    intro same
    have held : StateType.subjectHeld .entitlement = true := rfl
    rw [writtenSlot_of_acceptance acceptance builtin, typed, targetSlot, if_pos held, Transition.writtenSubject,
      if_neg (by rw [transfers]; decide), if_pos transfers] at same
    exact other (Transition.namedSubject_eq_some.mp (StateSlot.mk.inj same).2.2)
  refine moves.released projection ?_ live
  rw [RunStep.result, StateTable.read_writeAll_of_forall_ne, stored]
  rw [alone]
  simpa using elsewhere

open Harness

def seasonPass : ResourceId := ⟨"entitlement:season_pass"⟩

def passOf (holder : String) : StateSlot := ⟨tenant, seasonPass, some ⟨holder⟩⟩

def grantPass (id : String) : ValidatedIntent :=
  intent id "entitlement.grant" "admin" seasonPass .entitlement 0 [("subject", "alice")]

def revokePass : ValidatedIntent := intent "int_revoke" "entitlement.revoke" "alice" seasonPass .entitlement 1 []

def passRevoked : List (RunStep Memory) := runOf .baseline ∅ .fresh [grantPass "int_grant", revokePass]

def passRegranted : RunStep Memory :=
  stepOf .baseline (tableAfter ∅ passRevoked) ((passRevoked.map (·.world')).getLastD .fresh) (grantPass "int_again")

theorem revoked_pass_granted_again :
    Executed ∅ (passRevoked ++ [passRegranted]) passRegranted.result ∧
      (passRegranted.table.read (passOf "alice")).map (·.state) =
        some (.entitlement ⟨⟨"alice"⟩, Entitlement.status.revoked, false⟩) ∧
      passRegranted.events.map writtenSlot = [passOf "alice"] ∧
      (passRegranted.result.read (passOf "alice")).map (·.state) =
        some (.entitlement ⟨⟨"alice"⟩, Entitlement.status.granted, false⟩) := by
  refine And.imp_left (fun fresh => ?_) (by decide +kernel :
    (∀ step ∈ passRevoked ++ [passRegranted], step.events ≠ []) ∧ _)
  have run := executed_baseline fun step member => fresh step (List.mem_append_left _ member)
  exact run.step (stepOf_baseline_accepted (fresh passRegranted (by simp)))

def passIn (status : Status) (transferable : Bool) : Stored :=
  ⟨tenant, seasonPass, 2, .entitlement ⟨⟨"alice"⟩, status, transferable⟩⟩

def bobGranted : List (RunStep Memory) :=
  runOf .baseline (tableOf [passIn Entitlement.status.revoked false]) .fresh
    [intent "int_bob" "entitlement.grant" "admin" seasonPass .entitlement 0 [("subject", "bob")]]

theorem revoked_pass_spared :
    bobGranted.map (·.events.map writtenSlot) = [[passOf "bob"]] ∧
      ∀ step ∈ bobGranted, ∀ event ∈ step.events, writtenSlot event ≠ passOf "alice" := by
  have evaluated : (∀ step ∈ bobGranted, step.events ≠ []) ∧
      bobGranted.map (·.events.map writtenSlot) = [[passOf "bob"]] ∧
      (tableOf [passIn Entitlement.status.revoked false]).read (passOf "alice") =
        some (passIn Entitlement.status.revoked false).projection ∧
      ∀ step ∈ bobGranted, Transition.namedSubject step.intent.inputs "subject" = some ⟨"bob"⟩ ∧
        Transition.namedSubject step.intent.inputs "to_subject" = none := by decide +kernel
  obtain ⟨fresh, granted, revoked, named⟩ := evaluated
  refine ⟨granted, (revocation_final_iff (executed_baseline fresh) (holdersKeyed_tableOf _) revoked
    ⟨rfl, _, by decide, rfl⟩).mpr ?_⟩
  rintro step member - ⟨-, -, ⟨-, names⟩ | ⟨-, names⟩⟩
  · rw [(named step member).1] at names
    exact absurd (Option.some.inj names) (by decide)
  · rw [(named step member).2] at names
    cases names

def passTransferred : RunStep Memory :=
  stepOf .baseline (tableOf [passIn Entitlement.status.active true]) .fresh
    (intent "int_transfer" "entitlement.transfer" "alice" seasonPass .entitlement 2 [("to_subject", "bob")])

theorem passTransferred_evaluated :
    passTransferred.events ≠ [] ∧ currentHolder passTransferred.table passTransferred.intent = ⟨"alice"⟩ ∧
      liveHolders tenant seasonPass passTransferred.table = {passOf "alice"} ∧
      liveHolders tenant seasonPass passTransferred.result = {passOf "alice", passOf "bob"} := by
  decide +kernel

theorem passTransferred_accepted : passTransferred.Accepted := stepOf_baseline_accepted passTransferred_evaluated.1

theorem pass_never_moves :
    ¬ Moves tenant seasonPass ⟨"alice"⟩ passTransferred.table passTransferred.result := by
  obtain ⟨fresh, holder, -, -⟩ := passTransferred_evaluated
  have named : passTransferred.intent.inputs.get? "to_subject" = some (.string "bob") := rfl
  have moves := transfer_never_moves passTransferred_accepted fresh rfl
  rw [holder, named] at moves
  exact moves (by decide)

/-- The transfer leaves the pass with Alice and with Bob. -/
theorem transferred_pass_copied :
    passTransferred.Accepted ∧ passTransferred.events ≠ [] ∧
      currentHolder passTransferred.table passTransferred.intent = ⟨"alice"⟩ ∧
      liveHolders tenant seasonPass passTransferred.table = {passOf "alice"} ∧
      liveHolders tenant seasonPass passTransferred.result = {passOf "alice", passOf "bob"} :=
  ⟨passTransferred_accepted, passTransferred_evaluated⟩

end StateChronicle.Verified
