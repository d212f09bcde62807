import StateChronicle.Verified.HolderSlots

/-!
# Meters

What remains of a meter never exceeds its maximum, whoever uses it and in whatever order.
-/

namespace StateChronicle.Verified

open Commit StateChronicle.Core Domain Execution Profiles

variable {W : Type}

/-- A meter has at most its maximum left. -/
def MeterBounded : ResourceState → Prop
  | .meteredResource meter => meter.remaining.value ≤ meter.maximum.value
  | _ => True

theorem meterBounded_of_stateType {state : ResourceState} (other : state.stateType ≠ .meteredResource) :
    MeterBounded state := by
  cases state with
  | meteredResource meter => exact absurd rfl other
  | _ => trivial

section

variable {operation : Operation} {inputs : Inputs} {after : ResourceState}

theorem meterBounded_of_effect {current : Option StateProjection} (effect : Meter.Effect current operation inputs after)
    (before : ∀ projection, current = some projection → MeterBounded projection.state) : MeterBounded after := by
  have bounded {subject : SubjectId} {remaining maximum : Amount}
      (was : current.map (·.state) = some (.meteredResource ⟨subject, remaining, maximum⟩)) :
      remaining.value ≤ maximum.value := by
    obtain ⟨projection, present, payload⟩ := Option.map_eq_some_iff.mp was
    have holds := before projection present
    rwa [payload] at holds
  cases effect with
  | opened creates unborn named given checked => exact checked
  | @consumed subject remaining maximum amount next consumes was rest =>
    have here : remaining.value ≤ maximum.value := bounded was
    have taken := amount.value_nonneg
    rw [MeterBounded, Amount.value_checkedSub rest]
    linarith
  | refilled refills was => exact le_rfl
  | @capped subject remaining maximum cap caps was => exact remaining.value_min_le_right cap
  | @emptied subject remaining maximum empties was =>
    rw [MeterBounded, Amount.value_zero]
    exact maximum.value_nonneg

theorem meterBounded_of_credit {source : StateProjection} {destination : Option StateProjection}
    (applied : Transition.transferAfterState source destination operation inputs = .ok after) : MeterBounded after := by
  unfold Transition.transferAfterState at applied
  split_ifs at applied
  all_goals
    obtain ⟨_, -, _, -, _, -, _, -, _, -, rfl⟩ := Transition.creditedState_eq_ok.mp applied
    trivial

end

section Acceptances

variable {self : Executor W} {table : StateTable} {intent : Intent} {coordinated : Bool}
  (acceptance : self.Acceptance intent coordinated) (standard : self.profiles.Standard)
  (nativeDomains : self.profiles.NativeDomains) (served : self.ports.Serves table)

include standard served

theorem meterBounded_after (bounded : table.All MeterBounded) : MeterBounded acceptance.after := by
  by_cases metered : acceptance.stateType = .meteredResource
  · have native : intent.stateType ≠ some .custom := by
      rw [acceptance.typed, metered]
      decide
    have builtin := acceptance.builtin standard native
    refine meterBounded_of_effect (meterEffect_of_acceptance acceptance builtin metered) fun projection present => ?_
    rw [acceptance.current_eq served] at present
    exact bounded _ projection present
  · exact meterBounded_of_stateType (acceptance.after_stateType ▸ metered)

include nativeDomains

theorem meterBounded_of_event (bounded : table.All MeterBounded) {event : Event}
    (member : event ∈ acceptance.events) : MeterBounded event.after.state := by
  rcases List.mem_cons.mp member with rfl | companion
  · rw [acceptance.emitted.after_state]
    exact meterBounded_after acceptance standard served bounded
  · -- A credit is a stack or a balance.
    obtain ⟨holder, source, after, -, -, -, applied, emitted⟩ :=
      acceptance.credits_of_companion standard nativeDomains served companion
    rw [emitted.after_state]
    exact meterBounded_of_credit applied

end Acceptances

theorem metersBounded_of_accepted {step : RunStep W} (accepted : step.Accepted)
    (bounded : step.table.All MeterBounded) :
    step.result.All MeterBounded := by
  refine bounded.writeAll step.commitId fun event member => ?_
  rcases accepted.cases with replayed | ⟨acceptance, emitted⟩
  · rw [replayed] at member
    cases member
  · rw [← emitted] at member
    exact meterBounded_of_event acceptance accepted.standard accepted.nativeDomains accepted.served bounded member

/-- Every meter a run leaves, and every meter one of its intents meets, has at most its maximum left. -/
theorem meters_stay_bounded {start table : StateTable} {steps : List (RunStep W)}
    (run : Executed start steps table) (bounded : start.All MeterBounded) :
    table.All MeterBounded ∧ ∀ step ∈ steps, step.table.All MeterBounded :=
  ⟨run.invariant bounded fun _ _ accepted here => metersBounded_of_accepted accepted here,
    fun _ member => run.invariant_at bounded (fun _ _ accepted here => metersBounded_of_accepted accepted here) member⟩

open Harness

def calls : ResourceId := ⟨"meter:calls"⟩

def meterIntent (id operation : String) (version : U64) (inputs : List (String × String)) : ValidatedIntent :=
  intent id operation "alice" calls .meteredResource version inputs

def openCalls : ValidatedIntent :=
  meterIntent "int_open" "meter.create" 0 [("subject", "alice"), ("remaining", "10"), ("maximum", "20")]

def callsRun : List (RunStep Memory) :=
  runOf .baseline ∅ .fresh
    [openCalls, meterIntent "int_consume" "meter.consume" 1 [("amount", "2")],
      meterIntent "int_lower" "meter.set_maximum" 2 [("maximum", "5")],
      meterIntent "int_refill" "meter.refill" 3 []]

theorem calls_stay_bounded :
    (∀ step ∈ callsRun, step.events ≠ []) ∧ (tableAfter ∅ callsRun).All MeterBounded := by
  have fresh : ∀ step ∈ callsRun, step.events ≠ [] := by decide +kernel
  have run := executed_baseline fresh
  refine ⟨fresh, (meters_stay_bounded run fun slot projection found => ?_).1⟩
  simp [StateTable.read] at found

end StateChronicle.Verified
