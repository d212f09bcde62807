import StateChronicle.Execution.Harness
import StateChronicle.Profiles.BatchOrder

/-!
# Settlements in any order

The verdict on a settlement is one on what was settled and what was declared.  The order in which the events were
emitted and in which the settle intents are listed is not part of it.
-/

namespace StateChronicle.Verified

open Commit Domain Execution Foundation Profiles Profiles.Atomicity

/-- The validators of a settlement, one after the other. -/
def validateSettlement (events : List Event) (settleIntents : List Intent) : Except ProfileError Unit := do
  validateBatchConsistency events
  validateSettleBatch events settleIntents

theorem validateSettlement_perm {events events' : List Event} {settleIntents settleIntents' : List Intent}
    (perm : events.Perm events') (permIntents : settleIntents.Perm settleIntents')
    (accepted : validateSettlement events settleIntents = .ok ()) :
    validateSettlement events' settleIntents' = .ok () := by
  obtain ⟨⟨⟩, consistent, settled⟩ := Except.bind_eq_ok.mp accepted
  exact Except.bind_eq_ok.mpr ⟨(), validateBatchConsistency_perm perm consistent,
    validateSettleBatch_perm perm permIntents consistent settled⟩

/-- A settlement is accepted in every order of its events and of its settle intents, or in none. -/
theorem settlement_order_independent {events events' : List Event} {settleIntents settleIntents' : List Intent}
    (perm : events.Perm events') (permIntents : settleIntents.Perm settleIntents') :
    validateSettlement events settleIntents = .ok () ↔ validateSettlement events' settleIntents' = .ok () :=
  ⟨validateSettlement_perm perm permIntents, validateSettlement_perm perm.symm permIntents.symm⟩

open Harness

def saleTable : StateTable :=
  tableOf [⟨tenant, sword, 3, tradeHeld "alice" "trd_sword"⟩, ⟨tenant, gold, 1, goldBalance "bob" 100⟩,
    ⟨tenant, gold, 4, goldBalance "alice" 1⟩]

def saleIntents : List ValidatedIntent :=
  [settleSword "int_settle"
      [("value_resource", "currency:gold"), ("value_amount", "30"), ("value_to_subject", "alice")],
    intent "int_pay" "balance.transfer" "bob" gold .fungibleBalance 1 [("amount", "30"), ("to_subject", "alice")]]

def saleEvents : List Event := emitted ((executor .baseline saleTable).executeSettle saleIntents .fresh)

/-- The sale is accepted as it was executed, and so it is backwards: the credit before the debit before the settle. -/
theorem sale_accepted_backwards :
    (saleEvents.reverse.map (·.intentId.name)) = ["int_pay", "int_pay", "int_settle"] ∧
      validateSettlement saleEvents.reverse ((saleIntents.take 1).map (·.intent)) = .ok () := by
  obtain ⟨order, accepted⟩ : (saleEvents.reverse.map (·.intentId.name)) = ["int_pay", "int_pay", "int_settle"] ∧
      validateSettlement saleEvents ((saleIntents.take 1).map (·.intent)) = .ok () := by
    decide +kernel
  exact ⟨order, (settlement_order_independent saleEvents.reverse_perm.symm (.refl _)).mp accepted⟩

end StateChronicle.Verified
