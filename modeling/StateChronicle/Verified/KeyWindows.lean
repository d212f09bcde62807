import StateChronicle.Execution.Harness
import StateChronicle.Execution.Player

/-!
# Keys and the clock

The routes for players ask the registry whether the signing key is valid at the time the intent says it was created.
Nothing relates that time to the clock of the executor but the player's word.
-/

namespace StateChronicle.Verified

open Domain Execution Foundation Profiles

variable {W : Type} (registry : MemoryKeyRegistry) (validated : ValidatedIntent) (record : KeyRecord)

/-- The intent is accepted with events on one of the routes for players that look up the signing key. -/
inductive PlayerAccepted (executor : Executor W) (registry : MemoryKeyRegistry) : ValidatedIntent → Prop
  | player {validated : ValidatedIntent} {principal : AuthenticatedPrincipal} {authorizer : Authorizer W}
      {w w' : W} {events : List Event}
      (returns : executor.executePlayerWithKeyRegistry validated principal authorizer registry.port w = .ok events w')
      (fresh : events ≠ []) : PlayerAccepted executor registry validated
  | durable {validated : ValidatedIntent} {principal : AuthenticatedPrincipal} {authorizer : Authorizer W}
      {sink : DurableMutationSink W} {w w' : W} {events : List Event}
      (returns : executor.executePlayerDurableWithKeyRegistry validated principal authorizer registry.port sink w =
        .ok events w')
      (fresh : events ≠ []) : PlayerAccepted executor registry validated
  | batch {items : List PlayerBatchItem} {item : PlayerBatchItem} {authorizer : Authorizer W}
      {sink : DurableBatchSink W} {w w' : W} {events : List Event}
      (returns : executor.executePlayerBatchDurableWithKeyRegistry items authorizer registry.port sink w =
        .ok events w')
      (listed : item ∈ items) : PlayerAccepted executor registry item.validated

def SigningRecord : Prop :=
  ∃ signature, validated.signature = some signature ∧ registry.get signature.keyId = .ok (some record)

/-- The signing key permits the intent at a time. -/
def PermittedAt (time : Timestamp) : Prop :=
  ∃ record, SigningRecord registry validated record ∧
    record.permits validated.intent.tenantId validated.intent.actor validated.intent.operation time

/-- The creation of the intent and the time lie on the same side of either end of the key's window. -/
def SameSides (created time : Timestamp) : Prop :=
  (record.validFrom ≤ created → record.validFrom ≤ time) ∧
    ∀ ending ∈ record.validUntil, created < ending → time < ending

section Routes

variable {executor : Executor W} {registry : MemoryKeyRegistry} {validated : ValidatedIntent}
  {principal : AuthenticatedPrincipal} {authorizer : Authorizer W} {w w' : W}

theorem subject_of_authorizePrincipal {u : Unit}
    (returns : authorizePrincipal validated principal authorizer w = .ok u w') :
    principal.subject = validated.intent.actor := by
  simp only [authorizePrincipal, EStateM.bind_eq_ok, liftM_eq_liftExcept, liftExcept_eq_ok, rejectIf_eq_ok, not_or,
    not_not] at returns
  obtain ⟨-, -, ⟨⟨-, bound⟩, -⟩, -⟩ := returns
  exact bound

theorem permittedAt_of_resolveKey {signature : SignatureBlock} {record : KeyRecord}
    (signed : requireSignature validated = .ok signature)
    (resolved : resolveKey validated principal registry.port signature w = .ok record w')
    (bound : principal.subject = validated.intent.actor) :
    PermittedAt registry validated validated.intent.createdAt := by
  have answered : registry.resolveIntentKey validated.intent.tenantId principal.subject signature.keyId
      validated.intent.operation validated.intent.createdAt = .ok record :=
    (Prod.mk.inj (request_eq_ok.mp resolved)).1
  rw [MemoryKeyRegistry.resolveIntentKey_eq_ok, bound] at answered
  exact ⟨record, ⟨signature, okOr_eq_ok.mp signed, answered.1⟩, answered.2⟩

theorem subject_of_executePlayer {events : List Event}
    (returns : executor.executePlayer validated principal authorizer w = .ok events w') :
    principal.subject = validated.intent.actor := by
  simp only [Executor.executePlayer, Executor.executeAuthenticated, Executor.executeAuthenticatedInner,
    EStateM.bind_eq_ok] at returns
  obtain ⟨_, _, -, _, _, authorized, -⟩ := returns
  exact subject_of_authorizePrincipal authorized

theorem subject_of_executePlayerDurable {sink : DurableMutationSink W} {events : List Event}
    (returns : executor.executePlayerDurable validated principal authorizer sink w = .ok events w') :
    principal.subject = validated.intent.actor := by
  simp only [Executor.executePlayerDurable, Executor.executeAuthenticatedInner, EStateM.bind_eq_ok] at returns
  obtain ⟨_, _, -, _, _, ⟨_, _, authorized, -⟩, -⟩ := returns
  exact subject_of_authorizePrincipal authorized

/-- Every item of an admitted batch has been checked.  By induction over the items. -/
theorem permittedAt_of_admitItems {items : List PlayerBatchItem} {item : PlayerBatchItem}
    {intents : List ValidatedIntent} (returns : Executor.admitItems authorizer registry.port items w = .ok intents w')
    (listed : item ∈ items) : PermittedAt registry item.validated item.validated.intent.createdAt := by
  induction items generalizing w w' intents with
  | nil => cases listed
  | cons first rest ih =>
    simp only [Executor.admitItems, Executor.admitItem, EStateM.bind_eq_ok, liftM_eq_liftExcept,
      liftExcept_eq_ok] at returns
    obtain ⟨_, _, ⟨signature, _, ⟨signed, rfl⟩, _, _, authorized, record, _, resolved, -⟩, others, _, admitted, -⟩ :=
      returns
    rcases List.mem_cons.mp listed with rfl | later
    · exact permittedAt_of_resolveKey signed resolved (subject_of_authorizePrincipal authorized)
    · exact ih admitted later

/-- On every route the key permits the intent at its creation. -/
theorem permittedAt_creation (accepted : PlayerAccepted executor registry validated) :
    PermittedAt registry validated validated.intent.createdAt := by
  cases accepted with
  | player returns =>
    simp only [Executor.executePlayerWithKeyRegistry, EStateM.bind_eq_ok, liftM_eq_liftExcept,
      liftExcept_eq_ok] at returns
    obtain ⟨signature, _, ⟨signed, rfl⟩, record, _, resolved, ran⟩ := returns
    exact permittedAt_of_resolveKey signed resolved (subject_of_executePlayer ran)
  | durable returns =>
    simp only [Executor.executePlayerDurableWithKeyRegistry, EStateM.bind_eq_ok, liftM_eq_liftExcept,
      liftExcept_eq_ok] at returns
    obtain ⟨signature, _, ⟨signed, rfl⟩, record, _, resolved, ran⟩ := returns
    exact permittedAt_of_resolveKey signed resolved (subject_of_executePlayerDurable ran)
  | batch returns listed =>
    simp only [Executor.executePlayerBatchDurableWithKeyRegistry, EStateM.bind_eq_ok] at returns
    obtain ⟨intents, _, admitted, -⟩ := returns
    exact permittedAt_of_admitItems admitted listed

end Routes

theorem signingRecord_unique {registry : MemoryKeyRegistry} {validated : ValidatedIntent} {first second : KeyRecord}
    (one : SigningRecord registry validated first) (other : SigningRecord registry validated second) :
    first = second := by
  obtain ⟨signature, signed, found⟩ := one
  obtain ⟨same, alsoSigned, alsoFound⟩ := other
  obtain rfl := Option.some.inj (signed.symm.trans alsoSigned)
  exact Option.some.inj (Except.ok.inj (found.symm.trans alsoFound))

/-- When a player's intent is accepted, its key permits it at whatever time the clock shows exactly when no end of
the key's window lies between that time and the creation of the intent. -/
theorem permitted_now_iff {executor : Executor W} {registry : MemoryKeyRegistry} {validated : ValidatedIntent}
    (accepted : PlayerAccepted executor registry validated) (w : W) :
    PermittedAt registry validated (executor.now w).1 ↔
      ∀ record, SigningRecord registry validated record →
        SameSides record validated.intent.createdAt (executor.now w).1 := by
  obtain ⟨record, signing, tenant, subject, active, window, allowed⟩ := permittedAt_creation accepted
  constructor
  · rintro ⟨same, alsoSigning, -, -, -, inside, -⟩ other otherSigning
    obtain rfl := signingRecord_unique alsoSigning otherSigning
    exact ⟨fun _ => inside.1, fun ending ends _ => inside.2 ending ends⟩
  · intro sides
    obtain ⟨begins, ends⟩ := sides record signing
    exact ⟨record, signing, tenant, subject, active,
      ⟨begins window.1, fun ending limit => ends ending limit (window.2 ending limit)⟩, allowed⟩

open Harness

def aliceKey (seconds : Int) : KeyRecord :=
  ⟨"key_alice", tenant, some ⟨"alice"⟩, [UniqueAsset.op.assetMint], fixedNow - 100, some (fixedNow + seconds), .active⟩

def aliceKeys (seconds : Int) : MemoryKeyRegistry := ⟨.ofList [("key_alice", aliceKey seconds)], false⟩

def alicePrincipal : AuthenticatedPrincipal := ⟨⟨"alice"⟩, "session_alice", tenant⟩

def allowAll : Authorizer Memory := ⟨fun _ memory => (.ok (), memory)⟩

def signedMint : ValidatedIntent :=
  let minted := intent "int_mint" "asset.mint" "alice" sword .uniqueAsset 0 [("to_owner", "alice")]
  ⟨{ minted.intent with createdAt := fixedNow - 20 }, some ⟨.ed25519, "key_alice", []⟩⟩

theorem signingRecord_signedMint {seconds : Int} {record : KeyRecord}
    (signing : SigningRecord (aliceKeys seconds) signedMint record) : record = aliceKey seconds := by
  obtain ⟨signature, signed, found⟩ := signing
  obtain rfl := Option.some.inj signed
  exact (Option.some.inj (Except.ok.inj found)).symm

/-- With a key that lasts, the mint is permitted when it is executed. -/
theorem mint_permitted_now : PermittedAt (aliceKeys 10) signedMint fixedNow := by
  have fresh : emitted ((executor .baseline ∅).executePlayerWithKeyRegistry signedMint alicePrincipal allowAll
      (aliceKeys 10).port .fresh) ≠ [] := by decide +kernel
  obtain ⟨memory, returns⟩ := ok_of_emitted_ne_nil fresh
  refine (permitted_now_iff (.player returns fresh) .fresh).mpr fun record signing => ?_
  rw [signingRecord_signedMint signing]
  exact ⟨fun _ => by decide, fun ending ends _ => by cases ends; decide⟩

/-- With a key that ended ten seconds ago, the mint is executed all the same. -/
theorem mint_with_expired_key :
    PlayerAccepted (executor .baseline ∅) (aliceKeys (-10)) signedMint ∧
      ((executor .baseline ∅).now .fresh).1 = fixedNow ∧ ¬ PermittedAt (aliceKeys (-10)) signedMint fixedNow := by
  have fresh : emitted ((executor .baseline ∅).executePlayerWithKeyRegistry signedMint alicePrincipal allowAll
      (aliceKeys (-10)).port .fresh) ≠ [] := by decide +kernel
  obtain ⟨memory, returns⟩ := ok_of_emitted_ne_nil fresh
  refine ⟨.player returns fresh, rfl, ?_⟩
  rintro ⟨record, signing, permitted⟩
  rw [signingRecord_signedMint signing] at permitted
  exact absurd permitted (by decide)

end StateChronicle.Verified
