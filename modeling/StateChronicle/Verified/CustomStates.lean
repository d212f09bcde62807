import StateChronicle.Profiles.Custom

/-!
# States of custom domains

What a typed profile returns, it accepts again: the payload of the next state is within the bound and decodes to
the state the reducer computed.
-/

namespace StateChronicle.Verified

open StateChronicle.Core Domain Foundation Profiles

/-- What is serialized is parsed back. -/
def RoundTrips {T : Type} (form : BcsForm T) : Prop :=
  ∀ value, form.failure value = none → form.fromBytes (form.chunks value).flatten = .ok value

/-- The states a profile leads to, from none and from one another. -/
inductive Reachable (typed : TypedProfile) : ResourceState → Prop
  | genesis {operation : Operation} {inputs : Inputs} {after : ResourceState}
      (applied : typed.apply none operation inputs = .ok after) : Reachable typed after
  | step {current : StateProjection} {operation : Operation} {inputs : Inputs} {after : ResourceState}
      (earlier : Reachable typed current.state) (applied : typed.apply (some current) operation inputs = .ok after) :
      Reachable typed after

/-- The payload of a state that decodes is within the bounds of the profile and of an intent. -/
theorem payload_le_of_decodeState {typed : TypedProfile} {state : ResourceState} {decoded : typed.profile.State}
    (returns : typed.decodeState state = .ok decoded) :
    ∃ custom, state = .custom custom ∧ custom.payload.length ≤ min typed.profile.maxPayloadBytes maxIntentBytes := by
  obtain ⟨payload, domain, rfl, -, encoded, -⟩ := TypedProfile.decodeState_eq_ok.mp returns
  exact ⟨_, rfl, (TypedProfile.encode_eq_ok.mp encoded).2.2.2.2⟩

theorem decodeState_of_apply {typed : TypedProfile} (roundTrips : RoundTrips typed.stateForm)
    {current : Option StateProjection} {operation : Operation} {inputs : Inputs} {after : ResourceState}
    (applied : typed.apply current operation inputs = .ok after) :
    ∃ state command next, typed.arguments operation current inputs = .ok (state, command) ∧
      typed.profile.apply state command = .ok next ∧ typed.decodeState after = .ok next := by
  obtain ⟨state, command, next, payload, domain, read, -, reduced, valid, encoded, named, rfl⟩ :=
    TypedProfile.apply_eq_ok.mp applied
  obtain ⟨-, -, complete, rfl, -⟩ := TypedProfile.encode_eq_ok.mp encoded
  exact ⟨state, command, next, read, reduced, TypedProfile.decodeState_eq_ok.mpr
    ⟨_, domain, rfl, named, encoded, roundTrips next complete, valid⟩⟩

/-- Every transition of a profile whose states round-trip returns the reducer's next state, and so every reachable
state decodes and is within the payload bound. -/
theorem custom_states_decodable (typed : TypedProfile) (roundTrips : RoundTrips typed.stateForm) :
    (∀ current operation inputs after, typed.apply current operation inputs = .ok after →
      ∃ state command next, typed.arguments operation current inputs = .ok (state, command) ∧
        typed.profile.apply state command = .ok next ∧ typed.decodeState after = .ok next) ∧
      ∀ state, Reachable typed state → ∃ custom decoded, state = .custom custom ∧
        typed.decodeState state = .ok decoded ∧
        custom.payload.length ≤ min typed.profile.maxPayloadBytes maxIntentBytes := by
  refine ⟨fun current operation inputs after => decodeState_of_apply roundTrips, fun state reachable => ?_⟩
  -- the last transition decides, whatever it started from
  have decodes : ∃ decoded, typed.decodeState state = .ok decoded := by
    cases reachable with
    | genesis applied | step _ applied =>
      obtain ⟨_, _, next, -, -, decoded⟩ := decodeState_of_apply roundTrips applied
      exact ⟨next, decoded⟩
  obtain ⟨decoded, returns⟩ := decodes
  obtain ⟨custom, rfl, bounded⟩ := payload_le_of_decodeState returns
  exact ⟨custom, decoded, rfl, returns, bounded⟩

def byteForm : BcsForm UInt8 where
  chunks byte := [[byte]]
  failure _ := none
  fromBytes
    | [byte] => .ok byte
    | [] => .error "unexpected end of input"
    | _ => .error "remaining input"

theorem byteForm_roundTrips : RoundTrips byteForm := fun _ _ => rfl

def counter : TypedProfile where
  profile :=
    { State := UInt8
      Command := UInt8
      domainId := "test.counter"
      schemaVersion := 1
      maxPayloadBytes := 1
      operation _ := "counter.set"
      validate _ _ := .ok ()
      apply _ command := .ok command
      validateState state := rejectIf (100 < state) "counter limit" }
  operations := [⟨"counter.set"⟩]
  authorityRequired := false
  stateForm := byteForm
  commandForm := byteForm
  writerError message := message
  byteArrayError _ := "invalid byte array"

def settingTo (value : Fin (2 ^ 64)) : Inputs :=
  .ofList [("profile", .string "test.counter"), ("schema_version", .number (.posInt 1)),
    ("command", .array [.number (.posInt value)])]

theorem counter_set_decodes :
    ∃ after custom decoded, counter.apply none ⟨"counter.set"⟩ (settingTo 7) = .ok after ∧ after = .custom custom ∧
      counter.decodeState after = .ok decoded ∧ custom.payload.length ≤ min 1 maxIntentBytes := by
  have applied : counter.apply none ⟨"counter.set"⟩ (settingTo 7) = .ok (.custom ⟨⟨"test.counter"⟩, 1, [7]⟩) := by
    decide +kernel
  obtain ⟨custom, decoded, same, decodes, bounded⟩ :=
    (custom_states_decodable counter byteForm_roundTrips).2 _ (.genesis applied)
  exact ⟨_, custom, decoded, applied, same, decodes, bounded⟩

end StateChronicle.Verified
