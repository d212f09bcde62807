import StateChronicle.Execution.Acceptance

/-!
# The authority step

The members of the authority set answer one after the other; what becomes of an intent depends only on their
answers and, through the freshness of the aggregate, on the first of them.
-/

namespace StateChronicle.Execution

open StateChronicle.Core Domain Foundation Profiles

variable {W : Type} {events : List Event} {rules : ProfileRules}

/-- What a member answers. -/
abbrev Answer : Type := Except TrustGrantError TrustGrantOutcome

namespace Answer

def allowed : Answer → Option TrustGrantOutcome
  | .ok outcome => if outcome.result = .allow then some outcome else none
  | .error _ => none

def isDenied : Answer → Bool
  | .ok outcome => outcome.result ≠ .allow
  | .error .denied => true
  | .error _ => false

def isStale : Answer → Bool
  | .error .stale => true
  | _ => false

def isUnavailable : Answer → Bool
  | .error (.unavailable _) => true
  | _ => false

theorem isSome_allowed_iff (answer : Answer) :
    (allowed answer).isSome ↔ isDenied answer = false ∧ isStale answer = false ∧ isUnavailable answer = false := by
  rcases answer with (_ | message | _) | outcome
  · simp [allowed, isDenied]
  · simp [allowed, isUnavailable]
  · simp [allowed, isStale]
  · by_cases allows : outcome.result = .allow <;> simp [allowed, isDenied, isStale, isUnavailable, allows]

end Answer

namespace AuthorityTally

def ofAnswers (answers : List Answer) : AuthorityTally := answers.foldl record empty

/-- What a tally has collected once it has recorded the answers. -/
structure Collects (tally : AuthorityTally) (answers : List Answer) : Prop where
  outcomes : tally.outcomes = answers.filterMap Answer.allowed
  denied : tally.denied = answers.any Answer.isDenied
  stale : tally.stale = answers.any Answer.isStale
  unavailable : tally.unavailable.isSome = answers.any Answer.isUnavailable

theorem Collects.record {tally : AuthorityTally} {answers : List Answer} (collects : tally.Collects answers)
    (answer : Answer) : (tally.record answer).Collects (answers ++ [answer]) := by
  obtain ⟨outcomes, denied, stale, unavailable⟩ := collects
  rcases answer with failure | outcome
  · cases failure <;> constructor <;>
      simp [AuthorityTally.record, Answer.allowed, Answer.isDenied, Answer.isStale, Answer.isUnavailable, *]
  · by_cases allows : outcome.result = .allow <;> constructor <;>
      simp [AuthorityTally.record, Answer.allowed, Answer.isDenied, Answer.isStale, Answer.isUnavailable, *]

theorem collects_ofAnswers (answers : List Answer) : (ofAnswers answers).Collects answers := by
  induction answers using List.reverseRecOn with
  | nil => exact ⟨rfl, rfl, rfl, rfl⟩
  | append_singleton earlier answer ih =>
    rw [ofAnswers, List.foldl_append]
    exact ih.record answer

theorem passes_requireAll_iff (answers : List Answer) :
    (ofAnswers answers).passes .requireAll ↔ ∀ answer ∈ answers, (Answer.allowed answer).isSome := by
  obtain ⟨-, denied, stale, unavailable⟩ := collects_ofAnswers answers
  simp only [passes, denied, stale, ← Option.not_isSome, unavailable, Answer.isSome_allowed_iff, Bool.and_eq_true,
    Bool.not_eq_true', List.any_eq_false, Bool.not_eq_true]
  constructor
  · rintro ⟨⟨granted, fresh⟩, reached⟩ answer member
    exact ⟨granted answer member, fresh answer member, reached answer member⟩
  · intro each
    exact ⟨⟨fun answer member => (each answer member).1, fun answer member => (each answer member).2.1⟩,
      fun answer member => (each answer member).2.2⟩

theorem passes_anyOf_iff (answers : List Answer) :
    (ofAnswers answers).passes .anyOf ↔ ∃ answer ∈ answers, (Answer.allowed answer).isSome := by
  rw [passes, (collects_ofAnswers answers).outcomes]
  simp only [Bool.not_eq_true', List.isEmpty_eq_false_iff, ne_eq, List.filterMap_eq_nil_iff, not_forall,
    exists_prop, Option.ne_none_iff_isSome]

/-- Some member has allowed what a non-empty set lets pass. -/
theorem outcomes_ne_nil_of_passes {policy : AggregationPolicy} {answers : List Answer} (asked : answers ≠ [])
    (passed : (ofAnswers answers).passes policy) : (ofAnswers answers).outcomes ≠ [] := by
  have somebody : ∃ answer ∈ answers, (Answer.allowed answer).isSome := by
    cases policy with
    | requireAll =>
      obtain ⟨answer, member⟩ := List.exists_mem_of_ne_nil answers asked
      exact ⟨answer, member, (passes_requireAll_iff answers).mp passed answer member⟩
    | anyOf => exact (passes_anyOf_iff answers).mp passed
  obtain ⟨answer, member, allows⟩ := somebody
  rw [(collects_ofAnswers answers).outcomes, ne_eq, List.filterMap_eq_nil_iff]
  intro none
  rw [none answer member] at allows
  cases allows

section Order

variable {answers answers' : List Answer} (perm : answers.Perm answers')

include perm

theorem outcomes_perm : (ofAnswers answers).outcomes.Perm (ofAnswers answers').outcomes := by
  rw [(collects_ofAnswers answers).outcomes, (collects_ofAnswers answers').outcomes]
  exact perm.filterMap _

theorem passes_perm (policy : AggregationPolicy) :
    (ofAnswers answers).passes policy ↔ (ofAnswers answers').passes policy := by
  cases policy with
  | requireAll =>
    simp only [passes_requireAll_iff, perm.mem_iff]
  | anyOf =>
    simp only [passes_anyOf_iff, perm.mem_iff]

/-- The message of an unavailable member may be another one, the variant of the error is not. -/
theorem failure_perm : (ofAnswers answers).failure.ctorIdx = (ofAnswers answers').failure.ctorIdx := by
  have stale : (ofAnswers answers).stale = (ofAnswers answers').stale := by
    rw [(collects_ofAnswers answers).stale, (collects_ofAnswers answers').stale, perm.any_eq]
  have unavailable : (ofAnswers answers).unavailable.isSome = (ofAnswers answers').unavailable.isSome := by
    rw [(collects_ofAnswers answers).unavailable, (collects_ofAnswers answers').unavailable, perm.any_eq]
  rw [failure, failure, stale]
  cases first : (ofAnswers answers).unavailable with
  | some message =>
    rw [first] at unavailable
    obtain ⟨message', second⟩ := Option.isSome_iff_exists.mp unavailable.symm
    rw [second]
    rfl
  | none =>
    rw [first] at unavailable
    rw [Option.isSome_none, eq_comm, Option.isSome_eq_false_iff, Option.isNone_iff_eq_none] at unavailable
    rw [unavailable]

end Order

end AuthorityTally

/-! ## The aggregate -/

theorem insertionSort_order_perm {digests digests' : List ContentDigest} (perm : digests.Perm digests') :
    digests.insertionSort ContentDigest.order = digests'.insertionSort ContentDigest.order := by
  have total : Std.Total ContentDigest.order := ⟨fun a b => List.le_total a.bytes.toList b.bytes.toList⟩
  have transitive : IsTrans ContentDigest ContentDigest.order := ⟨fun _ _ _ => List.le_trans⟩
  have sorted := List.pairwise_insertionSort ContentDigest.order
  refine List.Perm.eq_of_pairwise (fun a b _ _ below above => ?_) (sorted digests) (sorted digests') ?_
  · exact congrArg ContentDigest.mk (Vector.toList_inj.mp (List.le_antisymm below above))
  · exact (List.perm_insertionSort _ _).trans (perm.trans (List.perm_insertionSort _ _).symm)

theorem Codec.aggregateEvaluationDigest_perm (codec : Codec) (policy : AggregationPolicy)
    {digests digests' : List ContentDigest} (perm : digests.Perm digests') :
    codec.aggregateEvaluationDigest policy digests = codec.aggregateEvaluationDigest policy digests' := by
  rw [aggregateEvaluationDigest, aggregateEvaluationDigest, insertionSort_order_perm perm.dedup]

theorem min?_perm {instants instants' : List Timestamp} (perm : instants.Perm instants') :
    instants.min? = instants'.min? := by
  cases oldest : instants'.min? with
  | none =>
    rw [List.min?_eq_none_iff] at oldest ⊢
    rw [oldest] at perm
    exact perm.eq_nil
  | some instant =>
    rw [List.min?_eq_some_iff] at oldest ⊢
    simpa only [perm.mem_iff] using oldest

def boundProof (codec : Codec) (policy : AggregationPolicy) (outcomes : List TrustGrantOutcome)
    (evaluatedAt : Timestamp) : AuthorityProof where
  kind := trustgrantEvaluationKind
  evaluationDigest := codec.aggregateEvaluationDigest policy (outcomes.map (·.evaluationDigest))
  result := .allow
  evaluatedAt

/-- The answers of the members, each asked in the world the earlier ones left. -/
def memberAnswers (intent : Intent) : List (TrustGrantPort W) → W → List Answer × W
  | [], w => ([], w)
  | trustgrant :: rest, w =>
    let answered := trustgrant.evaluate intent.tenantId intent.actor intent.operation.name intent.resourceId w
    let others := memberAnswers intent rest answered.2
    (answered.1 :: others.1, others.2)

namespace Executor

variable {self : Executor W} {policy : AggregationPolicy} {intent : Intent} {w : W} {authority : Option AuthorityProof}

theorem evaluateMembers_eq (members : List (TrustGrantPort W)) (tally : AuthorityTally) (w : W) :
    evaluateMembers intent members tally w =
      .ok ((memberAnswers intent members w).1.foldl AuthorityTally.record tally)
        (memberAnswers intent members w).2 := by
  induction members generalizing tally w with
  | nil => rfl
  | cons trustgrant rest ih => exact ih _ _

/-- The end of the step: the first member answers for the freshness of the aggregate. -/
def vouched (primary : TrustGrantPort W) (proof : AuthorityProof) : Run W AuthorityProof := do
  request (primary.checkRevocationFreshness proof) mapTrustgrantError
  return proof

/-- What is done with a tally. -/
def settled (self : Executor W) (policy : AggregationPolicy) (primary : TrustGrantPort W) (tally : AuthorityTally) :
    Run W AuthorityProof := do
  rejectIf (¬ tally.passes policy) tally.failure
  let evaluatedAt ← self.evaluatedAt tally.outcomes
  vouched primary (boundProof self.codec policy tally.outcomes evaluatedAt)

section Aggregate

variable {primary : TrustGrantPort W} {others : List (TrustGrantPort W)} {answers : List Answer} {w' : W}
  (set : self.ports.trustgrant = primary :: others)
  (answered : memberAnswers intent (primary :: others) w = (answers, w'))

include set answered

theorem aggregateAuthority_eq :
    self.aggregateAuthority policy intent w = self.settled policy primary (AuthorityTally.ofAnswers answers) w' := by
  have freshness (proof : AuthorityProof) : self.checkFreshness proof =
      request (primary.checkRevocationFreshness proof) mapTrustgrantError := by
    rw [checkFreshness, set]
  have tallied : evaluateMembers intent (primary :: others) .empty w =
      .ok (AuthorityTally.ofAnswers answers) w' := by
    rw [evaluateMembers_eq, answered]
    rfl
  simp only [aggregateAuthority, freshness]
  rw [set]
  refine (EStateM.bind_apply_of_ok (rfl : _ = EStateM.Result.ok () w)).trans ?_
  exact EStateM.bind_apply_of_ok tallied

theorem aggregateAuthority_of_not_passes (refused : ¬ (AuthorityTally.ofAnswers answers).passes policy) :
    self.aggregateAuthority policy intent w = .error (AuthorityTally.ofAnswers answers).failure w' := by
  rw [aggregateAuthority_eq set answered, settled, rejectIf, if_pos refused]
  exact EStateM.bind_apply_of_error rfl

/-- A set that passes is bound to its oldest evaluation and checked for freshness by its first member. -/
theorem aggregateAuthority_of_passes (passed : (AuthorityTally.ofAnswers answers).passes policy) :
    ∃ instant, ((AuthorityTally.ofAnswers answers).outcomes.map (·.evaluatedAt)).min? = some instant ∧
      self.aggregateAuthority policy intent w =
        vouched primary (boundProof self.codec policy (AuthorityTally.ofAnswers answers).outcomes instant) w' := by
  have asked : answers ≠ [] := by
    rintro rfl
    cases (Prod.ext_iff.mp answered).1
  have allowed : (AuthorityTally.ofAnswers answers).outcomes.map (·.evaluatedAt) ≠ [] := fun none =>
    AuthorityTally.outcomes_ne_nil_of_passes asked passed (List.map_eq_nil_iff.mp none)
  obtain ⟨instant, oldest⟩ := Option.isSome_iff_exists.mp (List.isSome_min?_of_ne_nil allowed)
  refine ⟨instant, oldest, ?_⟩
  have dated : self.evaluatedAt (AuthorityTally.ofAnswers answers).outcomes w' = .ok instant w' := by
    rw [evaluatedAt, oldest]
    rfl
  rw [aggregateAuthority_eq set answered, settled, rejectIf, if_neg (not_not.mpr passed)]
  refine (EStateM.bind_apply_of_ok (rfl : _ = EStateM.Result.ok () w')).trans ?_
  exact EStateM.bind_apply_of_ok dated

end Aggregate

/-! ## The authority of the events -/

theorem authority_of_emit {resource : ResourceId} {commitments : StateCommitment × StateCommitment} {event : Event}
    {w' : W} (returns : self.emit intent resource commitments authority w = .ok event w') :
    event.authority = authority := by
  simp only [emit, EStateM.bind_eq_ok, EStateM.pure_apply, EStateM.Result.ok.injEq] at returns
  obtain ⟨_, _, -, _, _, -, rfl, -⟩ := returns
  rfl

theorem authority_of_emitCompanions {policy : ExecutionPolicy} {current : Option StateProjection}
    {target : Option StateAddress} {w' : W}
    (returns : self.emitCompanions policy intent current authority target w = .ok events w') :
    ∀ event ∈ events, event.authority = authority := by
  cases target with
  | none =>
    simp only [emitCompanions, EStateM.pure_apply, EStateM.Result.ok.injEq] at returns
    obtain ⟨rfl, -⟩ := returns
    exact fun event member => absurd member List.not_mem_nil
  | some target =>
    simp only [emitCompanions, emitCompanion, EStateM.bind_eq_ok, EStateM.pure_apply,
      EStateM.Result.ok.injEq] at returns
    obtain ⟨event, _, ⟨_, _, -, _, _, -, _, _, -, _, _, -, emitted⟩, rfl, -⟩ := returns
    intro event' member
    rw [List.mem_singleton.mp member]
    exact authority_of_emit emitted

/-- The events of an accepted intent carry what its authority step returned. -/
theorem authority_of_executeFresh {validated : ValidatedIntent} {bytes : List UInt8} {coordinated : Bool} {w' : W}
    (returns : self.executeFresh validated bytes coordinated w = .ok events w') :
    ∃ rules authority w₁ w₂, self.evaluateAuthority rules validated.intent w₁ = .ok authority w₂ ∧
      ∀ event ∈ events, event.authority = authority := by
  obtain ⟨passage, rfl⟩ := executeFresh_eq_ok.mp returns
  refine ⟨passage.rules, passage.authority, _, _, passage.authorised, fun event member => ?_⟩
  rcases List.mem_cons.mp member with rfl | companion
  · exact authority_of_emit passage.emitted
  · exact authority_of_emitCompanions passage.extended event companion

theorem evaluateAuthority_of_some (presented : intent.authority.isSome) : self.evaluateAuthority rules intent =
      some <$> self.aggregateAuthority (rules.authorityPolicy intent.operation) intent := by
  obtain ⟨proof, present⟩ := Option.isSome_iff_exists.mp presented
  rw [evaluateAuthority, present]

theorem isSome_of_evaluateAuthority {w' : W} (returns : self.evaluateAuthority rules intent w = .ok authority w') :
    authority.isSome = intent.authority.isSome := by
  cases presented : intent.authority with
  | some proof =>
    rw [evaluateAuthority_of_some (by rw [presented]; rfl), map_eq_pure_bind, EStateM.bind_eq_ok] at returns
    obtain ⟨bound, _, -, same⟩ := returns
    rw [EStateM.pure_apply, EStateM.Result.ok.injEq] at same
    rw [← same.1]
    rfl
  | none =>
    rw [evaluateAuthority, presented, EStateM.bind_eq_ok] at returns
    obtain ⟨_, _, -, same⟩ := returns
    rw [EStateM.pure_apply, EStateM.Result.ok.injEq] at same
    rw [← same.1]

end Executor

end StateChronicle.Execution
