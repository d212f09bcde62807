import StateChronicle.Execution.Harness

/-!
# States that are left alone

Once the status of a unique asset, a listing or an escrow is terminal, the access gate turns every intent for it away,
whatever rule set serves it, and no other intent writes there.
-/

namespace StateChronicle.Verified

open Commit Domain Execution Profiles

variable {W : Type}

/-- The statuses in which an asset, a listing or an escrow has come to its end. -/
def finalStatuses : List Status :=
  [UniqueAsset.status.burned, UniqueAsset.status.redeemed, UniqueAsset.status.tombstoned,
    Marketplace.listingStatus.sold, Marketplace.listingStatus.cancelled, Marketplace.listingStatus.expired,
    Marketplace.escrowStatus.released, Marketplace.escrowStatus.refunded]

/-- A unique asset, a listing or an escrow in a final status. -/
structure Finished (state : ResourceState) : Prop where
  kind : state.stateType = .uniqueAsset ∨ state.stateType = .listing ∨ state.stateType = .escrow
  final : ∃ status ∈ finalStatuses, state.status = some status

theorem finalStatuses_terminal : finalStatuses ⊆ Resource.terminalStatuses := by
  decide

section Steps

variable {step : RunStep W} {tenant : TenantId} {resource : ResourceId} {projection : StateProjection}

theorem not_finished_of_acceptance {executor : Executor W} {intent : Intent} {coordinated : Bool}
    (acceptance : executor.Acceptance intent coordinated) (standard : executor.profiles.Standard)
    (present : acceptance.current = some projection) : ¬ Finished projection.state := by
  rintro ⟨kind, status, final, recorded⟩
  have native : projection.state.stateType ≠ .custom := by
    rcases kind with asset | listing | escrow
    · simp [asset]
    · simp [listing]
    · simp [escrow]
  exact acceptance.status_ne_terminal standard present native (finalStatuses_terminal final) recorded

variable (accepted : step.Accepted) (stored : step.table.read ⟨tenant, resource, none⟩ = some projection)
  (finished : Finished projection.state)

include accepted stored finished

theorem not_addressed_of_finished (fresh : step.events ≠ []) : ¬ Addresses step.intent tenant resource := by
  rcases accepted.resource_cases tenant resource with ⟨replayed | elsewhere, -⟩ | ⟨acceptance, -, -, current, -⟩
  · exact absurd replayed fresh
  · exact elsewhere
  · exact absurd finished (not_finished_of_acceptance acceptance accepted.standard (current.trans stored))

theorem read_of_finished : step.result.read ⟨tenant, resource, none⟩ = some projection := by
  rcases accepted.resource_cases tenant resource with ⟨-, kept⟩ | ⟨acceptance, -, -, current, -⟩
  · exact kept.trans stored
  · exact absurd finished (not_finished_of_acceptance acceptance accepted.standard (current.trans stored))

end Steps

/-- From the moment a unique asset, a listing or an escrow has a terminal status, no intent for it is accepted
and its state and version stay as they are. -/
theorem terminal_status_absorbing {start table : StateTable} {steps : List (RunStep W)}
    (run : Executed start steps table) {tenant : TenantId} {resource : ResourceId} {projection : StateProjection}
    (stored : start.read ⟨tenant, resource, none⟩ = some projection) (finished : Finished projection.state) :
    (∀ step ∈ steps, step.events ≠ [] → ¬ Addresses step.intent tenant resource) ∧
      table.read ⟨tenant, resource, none⟩ = some projection := by
  let held (table : StateTable) : Prop := table.read ⟨tenant, resource, none⟩ = some projection
  have keeps : ∀ step ∈ steps, step.Accepted → held step.table → held step.result :=
    fun _ _ accepted stored => read_of_finished accepted stored finished
  have first : held start := stored
  refine ⟨fun step member fresh => ?_, run.invariant first keeps⟩
  have here : held step.table := run.invariant_at first keeps member
  exact not_addressed_of_finished (run.before member).1 here finished fresh

open Harness

def buckler : ResourceId := ⟨"asset:buckler"⟩

def burnedSword : Stored := ⟨tenant, sword, 2, .uniqueAsset ⟨⟨"alice"⟩, UniqueAsset.status.burned, none⟩⟩

def bucklerMinted : List (RunStep Memory) :=
  runOf .baseline (tableOf [burnedSword]) .fresh
    [intent "int_buckler" "asset.mint" "alice" buckler .uniqueAsset 0 [("to_owner", "alice")]]

theorem burned_sword_stays :
    (∀ step ∈ bucklerMinted, step.events ≠ [] → ¬ Addresses step.intent tenant sword) ∧
      (tableAfter (tableOf [burnedSword]) bucklerMinted).read ⟨tenant, sword, none⟩ = some burnedSword.projection :=
  terminal_status_absorbing (executed_baseline (by decide +kernel)) (by decide +kernel)
    ⟨.inl rfl, _, by decide, rfl⟩

end StateChronicle.Verified
