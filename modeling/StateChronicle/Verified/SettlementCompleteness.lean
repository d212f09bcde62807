import StateChronicle.Execution.Harness
import StateChronicle.Profiles.BatchShape

/-!
# Complete settlements

Without a declared bundle the validator counts the settle events against the intents; with one it counts them against
the declared size, and an intent that is already claimed adds no event.
-/

namespace StateChronicle.Verified

open Commit Domain Execution Foundation Profiles
open Atomicity

variable {W : Type} {intents : List ValidatedIntent} {events : List Event}

/-- The settle events match the supplied settle intents one to one. -/
def SettlesEach (intents : List ValidatedIntent) (events : List Event) : Prop :=
  ∃ settling, settling.Perm (settleEvents events) ∧ List.Forall₂ SettlesIntent (Executor.settleIntents intents) settling

/-- Every bundle size a settle intent declares is the number of settle intents. -/
def BundlesWhole (intents : List ValidatedIntent) : Prop :=
  ∀ intent ∈ Executor.settleIntents intents, ∀ size ∈ declaredBundleSize intent,
    size.val = (Executor.settleIntents intents).length

instance decidableBundlesWhole (intents : List ValidatedIntent) : Decidable (BundlesWhole intents) :=
  decidable_of_iff (∀ intent ∈ Executor.settleIntents intents, (declaredBundleSize intent).all
    fun size => size.val = (Executor.settleIntents intents).length) <| by
    simp [BundlesWhole, Option.all_eq_true]

section Contributions

variable {self : Executor W} {validated : ValidatedIntent} {output : List Event}
  (contributed : self.Contributes true validated output)

include contributed

theorem stamped_of_contributes {event : Event} (member : event ∈ output) :
    event.tenantId = validated.intent.tenantId ∧ event.intentId = validated.intent.intentId ∧
      event.operation = validated.intent.operation := by
  rcases contributed with rfl | ⟨acceptance, rfl⟩
  · cases member
  · exact acceptance.stamped member

theorem settleEvents_of_other (other : validated.intent.operation ≠ UniqueAsset.op.tradeSettle) :
    settleEvents output = [] := by
  rw [settleEvents, List.filter_eq_nil_iff]
  intro event member settles
  exact other ((stamped_of_contributes contributed member).2.2.symm.trans (of_decide_eq_true settles))

/-- A settle intent contributes its settlement and nothing else, unless it is replayed. -/
theorem output_of_settle (consistent : validateBatchConsistency events = .ok ()) (part : output.Sublist events)
    (settles : validated.intent.operation = UniqueAsset.op.tradeSettle) :
    output = [] ∨ ∃ event, output = [event] ∧ SettlesIntent validated.intent event := by
  cases output with
  | nil => exact .inl rfl
  | cons event rest =>
    obtain ⟨tenant, id, operation⟩ := stamped_of_contributes contributed List.mem_cons_self
    have single := settlement_unique consistent (part.subset List.mem_cons_self) (operation.trans settles)
    have own : eventsOf (event :: rest) event.intentId = event :: rest :=
      List.filter_eq_self.mpr fun other member => decide_eq_true <|
        (stamped_of_contributes contributed member).2.1.trans id.symm
    have few := (part.filter fun other => decide (other.intentId = event.intentId)).length_le.trans single
    change (eventsOf (event :: rest) event.intentId).length ≤ 1 at few
    rw [own] at few
    obtain rfl : rest = [] := List.length_eq_zero_iff.mp (Nat.le_zero.mp (Nat.le_of_succ_le_succ few))
    exact .inr ⟨event, rfl, operation.trans settles, tenant, id⟩

end Contributions

/-- The settle events are the settlements of some of the settle intents, in order. -/
theorem settled_of_assembled {self : Executor W} (consistent : validateBatchConsistency events = .ok ())
    (assembled : Assembled (self.Contributes true) intents events) :
    ∃ settled, settled.Sublist (Executor.settleIntents intents) ∧
      List.Forall₂ SettlesIntent settled (settleEvents events) := by
  obtain ⟨outputs, aligned, whole⟩ := assembled
  -- Each output is part of the batch, which is what the validator has seen.
  have parts : ∀ output ∈ outputs, output.Sublist events :=
    fun output there => whole ▸ List.sublist_flatten_of_mem there
  rw [whole]
  clear whole
  induction aligned with
  | nil => exact ⟨[], List.Sublist.slnil, .nil⟩
  | @cons validated output intents outputs first _ ih =>
    obtain ⟨settled, inside, settles⟩ :=
      ih fun output there => parts output (List.mem_cons_of_mem _ there)
    have split : settleEvents (output :: outputs).flatten =
        settleEvents output ++ settleEvents outputs.flatten := by
      rw [List.flatten_cons, settleEvents, List.filter_append]
      rfl
    rw [split]
    by_cases own : validated.intent.operation = UniqueAsset.op.tradeSettle
    · have listed : Executor.settleIntents (validated :: intents) =
          validated.intent :: Executor.settleIntents intents := by
        simp [Executor.settleIntents, own]
      rw [listed]
      rcases output_of_settle first consistent (parts output List.mem_cons_self) own with
        rfl | ⟨event, rfl, settlement⟩
      · exact ⟨settled, inside.cons _, settles⟩
      · have kept : settleEvents [event] = [event] := by simp [settleEvents, settlement.1]
        rw [kept]
        exact ⟨validated.intent :: settled, inside.cons_cons _, .cons settlement settles⟩
    · have unlisted : Executor.settleIntents (validated :: intents) = Executor.settleIntents intents := by
        simp [Executor.settleIntents, own]
      rw [settleEvents_of_other first own, unlisted]
      exact ⟨settled, inside, settles⟩

/-! ## Counting -/

/-- The settlements match the intents as soon as there are as many. -/
theorem settlesEach_iff_length {self : Executor W} (consistent : validateBatchConsistency events = .ok ())
    (assembled : Assembled (self.Contributes true) intents events) :
    SettlesEach intents events ↔ (settleEvents events).length = (Executor.settleIntents intents).length := by
  constructor
  · rintro ⟨settling, rearranged, aligned⟩
    rw [← rearranged.length_eq, aligned.length_eq]
  · intro enough
    obtain ⟨settled, inside, aligned⟩ := settled_of_assembled consistent assembled
    obtain rfl := inside.eq_of_length (aligned.length_eq.trans enough)
    exact ⟨_, .refl _, aligned⟩

theorem bundlesWhole_iff_length
    (counted : checkSettleCount (Executor.settleIntents intents) (settleEvents events).length events = .ok ()) :
    BundlesWhole intents ↔ (settleEvents events).length = (Executor.settleIntents intents).length := by
  rcases counted_of_checkSettleCount counted with ⟨enough, undeclared⟩ | ⟨nonempty, declared⟩
  · refine iff_of_true ?_ enough
    intro intent supplied size sized
    rw [undeclared intent supplied] at sized
    cases sized
  · constructor
    · intro whole
      obtain ⟨intent, supplied⟩ := List.exists_mem_of_ne_nil _ nonempty
      obtain ⟨size, sized, count⟩ := declared intent supplied
      exact count.symm.trans (whole intent supplied size sized)
    · intro enough intent supplied size sized
      obtain ⟨size', sized', count⟩ := declared intent supplied
      obtain rfl := Option.some.inj (sized.symm.trans sized')
      exact count.trans enough

/-- A settle call, durable or not, that succeeds settles every settle intent exactly when no intent
declares a bundle size other than the number of settle intents. -/
theorem settle_complete_iff {self : Executor W} {intents : List ValidatedIntent}
    {sink : Option (DurableBatchSink W)} {w w' : W} {events : List Event}
    (returns : self.executeSettleInner intents sink w = .ok events w') :
    SettlesEach intents events ↔ BundlesWhole intents := by
  cases intents with
  | nil => cases returns
  | cons first rest =>
    obtain ⟨w₁, w₂, -, ran, valid⟩ := transactional_eq_ok (.blind _) returns
    simp only [Executor.validateSettle, Except.bind_eq_ok, Except.mapError_eq_ok] at valid
    obtain ⟨⟨⟩, consistent, settled⟩ := valid
    obtain ⟨pairs, accepted⟩ := settleAccepted_of_validateSettleBatch settled
    rw [bundlesWhole_iff_length accepted.counted]
    exact settlesEach_iff_length consistent (Executor.runBatch_contributes ran)

open Harness

def shield : ResourceId := ⟨"asset:shield"⟩

def settleOf (id : String) (asset : ResourceId) (size : U64) : ValidatedIntent :=
  authorized <| intentIn tenant id "trade.settle" "alice" asset .uniqueAsset 3
    (("bundle_size", .number (.posInt size)) ::
      textInputs [("from_owner", "alice"), ("to_owner", "bob"), ("trade_id", "trd_armoury")])

def armoury (size : U64) : List ValidatedIntent := [settleOf "int_sword" sword size, settleOf "int_shield" shield size]

def armouryTable : StateTable :=
  tableOf [⟨tenant, sword, 3, tradeHeld "alice" "trd_armoury"⟩, ⟨tenant, shield, 3, tradeHeld "alice" "trd_armoury"⟩]

def settleArmoury (claimed : List ValidatedIntent) (size : U64) : List Event :=
  emitted ((executor .baseline armouryTable).executeSettle (armoury size) (.holding claimed))

theorem fresh_bundle_settled :
    (settleArmoury [] 2).map (·.resourceId) = [sword, shield] ∧
      SettlesEach (armoury 2) (settleArmoury [] 2) := by
  have both : (settleArmoury [] 2).map (·.resourceId) = [sword, shield] := by decide +kernel
  have fresh : settleArmoury [] 2 ≠ [] := by
    intro none
    rw [none] at both
    cases both
  obtain ⟨memory, returns⟩ := ok_of_emitted_ne_nil fresh
  exact ⟨both, (settle_complete_iff returns).mpr (by decide +kernel)⟩

/-- With the sword's intent claimed, a bundle of one settles the shield alone. -/
theorem claimed_bundle_unsettled :
    (settleArmoury [settleOf "int_sword" sword 1] 1).map (·.resourceId) = [shield] ∧
      ¬ SettlesEach (armoury 1) (settleArmoury [settleOf "int_sword" sword 1] 1) := by
  refine ⟨by decide +kernel, ?_⟩
  rintro ⟨settling, rearranged, aligned⟩
  have same := aligned.length_eq.trans rearranged.length_eq
  revert same
  decide +kernel

end StateChronicle.Verified
