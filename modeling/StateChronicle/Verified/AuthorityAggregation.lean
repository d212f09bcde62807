import StateChronicle.Execution.Authority
import StateChronicle.Execution.Harness

/-!
# Authority aggregation

An intent that presents an authority proof is put before every member of the authority set.  It passes only with the
consent its policy asks for; the order of the members after the first is of no consequence.
-/

namespace StateChronicle.Verified

open StateChronicle.Core Domain Execution Foundation Profiles

variable {W : Type}

/-- Two outcomes of the authority step that bind the same proof, or fail with the same kind of error. -/
inductive SameVerdict {α : Type} : EStateM.Result ExecutorError W α → EStateM.Result ExecutorError W α → Prop
  | bound {proof : α} {w w' : W} : SameVerdict (.ok proof w) (.ok proof w')
  | failed {error error' : ExecutorError} {w w' : W} (kind : error.ctorIdx = error'.ctorIdx) :
      SameVerdict (.error error w) (.error error' w')

def withAuthorities (self : Executor W) (members : List (TrustGrantPort W)) : Executor W :=
  { self with ports := { self.ports with trustgrant := members } }

/-- Every member answers an intent in one way, whatever was asked before. -/
def Answering (intent : Intent) (answer : TrustGrantPort W → Answer) (members : List (TrustGrantPort W)) : Prop :=
  ∀ member ∈ members, ∀ w,
    (member.evaluate intent.tenantId intent.actor intent.operation.name intent.resourceId w).1 = answer member

/-- The member judges the freshness of a proof by the proof. -/
def JudgesByProof (member : TrustGrantPort W) : Prop :=
  ∀ proof w w', (member.checkRevocationFreshness proof w).1 = (member.checkRevocationFreshness proof w').1

section Passing

variable {self : Executor W} {rules : ProfileRules} {intent : Intent} {authority : Option AuthorityProof} {w w' : W}

theorem authority_of_executeInner {validated : ValidatedIntent} {coordinated persist : Bool} {events : List Event}
    (returns : self.executeInner validated coordinated persist w = .ok events w') {event : Event}
    (member : event ∈ events) :
    ∃ rules authority w₁ w₂, self.evaluateAuthority rules validated.intent w₁ = .ok authority w₂ ∧
      event.authority = authority := by
  simp only [Executor.executeInner, EStateM.bind_eq_ok] at returns
  obtain ⟨bytes, w₁, -, existing, w₂, -, run⟩ := returns
  cases existing with
  | some existing =>
    simp only [Executor.executeUnlessClaimed, EStateM.bind_eq_ok, EStateM.pure_apply, EStateM.Result.ok.injEq] at run
    obtain ⟨-, _, -, rfl, -⟩ := run
    cases member
  | none =>
    simp only [Executor.executeUnlessClaimed, EStateM.bind_eq_ok, EStateM.pure_apply, EStateM.Result.ok.injEq] at run
    obtain ⟨emitted, _, fresh, -, _, -, rfl, -⟩ := run
    obtain ⟨rules, authority, w₃, w₄, evaluated, carried⟩ := Executor.authority_of_executeFresh fresh
    exact ⟨rules, authority, w₃, w₄, evaluated, carried event member⟩

/-- An intent with a proof passes only a set that is not empty and whose answers pass. -/
theorem passes_of_evaluateAuthority (presented : intent.authority.isSome)
    (passed : self.evaluateAuthority rules intent w = .ok authority w') :
    self.ports.trustgrant ≠ [] ∧
      (AuthorityTally.ofAnswers (memberAnswers intent self.ports.trustgrant w).1).passes
        (rules.authorityPolicy intent.operation) := by
  rw [Executor.evaluateAuthority_of_some presented, map_eq_pure_bind, EStateM.bind_eq_ok] at passed
  obtain ⟨proof, _, aggregated, -⟩ := passed
  cases set : self.ports.trustgrant with
  | nil =>
    simp only [Executor.aggregateAuthority, EStateM.bind_eq_ok, liftM_eq_liftExcept, liftExcept_eq_ok,
      rejectIf_eq_ok, set] at aggregated
    obtain ⟨-, _, ⟨nonempty, -⟩, -⟩ := aggregated
    exact absurd rfl nonempty
  | cons primary others =>
    refine ⟨List.cons_ne_nil _ _, ?_⟩
    by_contra refused
    rw [Executor.aggregateAuthority_of_not_passes set rfl refused] at aggregated
    cases aggregated

end Passing

section Order

variable {intent : Intent} {answer : TrustGrantPort W → Answer}

theorem memberAnswers_of_answering {members : List (TrustGrantPort W)} (answering : Answering intent answer members)
    (w : W) : (memberAnswers intent members w).1 = members.map answer := by
  induction members generalizing w with
  | nil => rfl
  | cons member rest ih =>
    rw [memberAnswers, List.map_cons, answering member List.mem_cons_self,
      ih fun other listed => answering other (List.mem_cons_of_mem _ listed)]

theorem SameVerdict.bind {α β : Type} {x y : Run W α} {f : α → Run W β} {w w' : W} (same : SameVerdict (x w) (y w'))
    (next : ∀ a w w', SameVerdict (f a w) (f a w')) : SameVerdict ((x >>= f) w) ((y >>= f) w') := by
  generalize first : x w = left at same
  generalize second : y w' = right at same
  cases same with
  | bound =>
    rw [EStateM.bind_apply_of_ok first, EStateM.bind_apply_of_ok second]
    exact next _ _ _
  | failed kind =>
    rw [EStateM.bind_apply_of_error first, EStateM.bind_apply_of_error second]
    exact .failed kind

theorem sameVerdict_liftExcept {α : Type} (x : Except ExecutorError α) (w w' : W) :
    SameVerdict ((liftM x : Run W α) w) ((liftM x : Run W α) w') := by
  cases x with
  | ok => exact .bound
  | error => exact .failed rfl

/-- One proof is judged alike in two worlds. -/
theorem sameVerdict_vouched {primary : TrustGrantPort W} (judges : JudgesByProof primary) (proof : AuthorityProof)
    (w w' : W) : SameVerdict (Executor.vouched primary proof w) (Executor.vouched primary proof w') := by
  refine SameVerdict.bind ?_ fun _ _ _ => .bound
  have alike := judges proof w w'
  rw [request, request]
  generalize primary.checkRevocationFreshness proof w = left at alike ⊢
  generalize primary.checkRevocationFreshness proof w' = right at alike ⊢
  obtain ⟨verdict, _⟩ := left
  obtain ⟨verdict', _⟩ := right
  obtain rfl : verdict = verdict' := alike
  cases verdict with
  | ok => exact .bound
  | error error => exact .failed rfl

/-- Answers that differ in their order are settled alike. -/
theorem sameVerdict_aggregateAuthority (left right : Executor W) (codec : left.codec = right.codec)
    {primary : TrustGrantPort W} {others others' : List (TrustGrantPort W)}
    (set : left.ports.trustgrant = primary :: others) (set' : right.ports.trustgrant = primary :: others')
    (judges : JudgesByProof primary) {answers answers' : List Answer} {w w' w₁ w₁' : W}
    (answered : memberAnswers intent (primary :: others) w = (answers, w₁))
    (answered' : memberAnswers intent (primary :: others') w' = (answers', w₁')) (perm : answers.Perm answers')
    (policy : AggregationPolicy) :
    SameVerdict (left.aggregateAuthority policy intent w) (right.aggregateAuthority policy intent w') := by
  by_cases passed : (AuthorityTally.ofAnswers answers).passes policy
  · obtain ⟨instant, oldest, settled⟩ := Executor.aggregateAuthority_of_passes set answered passed
    obtain ⟨instant', oldest', settled'⟩ := Executor.aggregateAuthority_of_passes set' answered'
      ((AuthorityTally.passes_perm perm policy).mp passed)
    have outcomes := AuthorityTally.outcomes_perm perm
    obtain rfl : instant = instant' := by
      rw [min?_perm (outcomes.map _), oldest'] at oldest
      exact (Option.some.inj oldest).symm
    rw [settled, settled', boundProof, boundProof, codec,
      Codec.aggregateEvaluationDigest_perm _ policy (outcomes.map _)]
    exact sameVerdict_vouched judges _ _ _
  · rw [Executor.aggregateAuthority_of_not_passes set answered passed,
      Executor.aggregateAuthority_of_not_passes set' answered'
        fun passed' => passed ((AuthorityTally.passes_perm perm policy).mpr passed')]
    exact .failed (AuthorityTally.failure_perm perm)

end Order

/-- Accepted events carry a proof exactly when their intent did; an intent with a proof passes only if the members
allow it as its policy asks, all of a set that is not empty or one of them; and the members after the first can be
reordered without changing the verdict, the bound proof included. -/
theorem authority_aggregation (self : Executor W) :
    (∀ (validated : ValidatedIntent) (coordinated persist : Bool) (w w' : W) (events : List Event),
      self.executeInner validated coordinated persist w = .ok events w' →
        ∀ event ∈ events, event.authority.isSome = validated.intent.authority.isSome) ∧
    (∀ (rules : ProfileRules) (intent : Intent) (w w' : W) (authority : Option AuthorityProof),
      intent.authority.isSome → self.evaluateAuthority rules intent w = .ok authority w' →
        (rules.authorityPolicy intent.operation = .requireAll → self.ports.trustgrant ≠ [] ∧
          ∀ answer ∈ (memberAnswers intent self.ports.trustgrant w).1, (Answer.allowed answer).isSome) ∧
        (rules.authorityPolicy intent.operation = .anyOf →
          ∃ answer ∈ (memberAnswers intent self.ports.trustgrant w).1, (Answer.allowed answer).isSome)) ∧
    ∀ (rules : ProfileRules) (intent : Intent) (primary : TrustGrantPort W)
      (others reordered : List (TrustGrantPort W)) (answer : TrustGrantPort W → Answer),
      others.Perm reordered → Answering intent answer (primary :: others) → JudgesByProof primary →
        ∀ w w', SameVerdict ((withAuthorities self (primary :: others)).evaluateAuthority rules intent w)
          ((withAuthorities self (primary :: reordered)).evaluateAuthority rules intent w') := by
  refine ⟨fun validated coordinated persist w w' events returns event member => ?_,
    fun rules intent w w' authority presented passed => ?_,
    fun rules intent primary others reordered answer perm answering judges w w' => ?_⟩
  · obtain ⟨rules, authority, w₁, w₂, evaluated, carried⟩ := authority_of_executeInner returns member
    rw [carried]
    exact Executor.isSome_of_evaluateAuthority evaluated
  · obtain ⟨nonempty, passes⟩ := passes_of_evaluateAuthority presented passed
    refine ⟨fun policy => ⟨nonempty, ?_⟩, fun policy => ?_⟩
    · rw [policy] at passes
      exact (AuthorityTally.passes_requireAll_iff _).mp passes
    · rw [policy] at passes
      exact (AuthorityTally.passes_anyOf_iff _).mp passes
  · cases presented : intent.authority with
    | none =>
      -- Without a proof no member is asked.
      rw [Executor.evaluateAuthority, Executor.evaluateAuthority, presented]
      exact SameVerdict.bind (sameVerdict_liftExcept _ _ _) fun _ _ _ => .bound
    | some proof =>
      have some : intent.authority.isSome := by
        rw [presented]
        rfl
      rw [Executor.evaluateAuthority_of_some some, Executor.evaluateAuthority_of_some some, map_eq_pure_bind,
        map_eq_pure_bind]
      have answering' : Answering intent answer (primary :: reordered) := fun member listed =>
        answering member ((perm.cons primary).mem_iff.mpr listed)
      refine SameVerdict.bind ?_ fun _ _ _ => .bound
      exact sameVerdict_aggregateAuthority (withAuthorities self (primary :: others))
        (withAuthorities self (primary :: reordered)) rfl rfl rfl judges
        (Prod.ext (memberAnswers_of_answering answering w) rfl)
        (Prod.ext (memberAnswers_of_answering answering' w') rfl) ((perm.cons primary).map answer) _

open Harness

def allowedAt (instant : Timestamp) : TrustGrantPort Memory where
  evaluate _ _ _ _ memory :=
    (.ok ⟨hashBytes Sha256.sha256 (Accumulator.utf8 (toString instant)), .allow, instant⟩, memory)
  checkRevocationFreshness _ memory := (.ok (), memory)

def threeAuthorities (second third : Timestamp) : Executor Memory :=
  withAuthorities (executor .baseline ∅) [allowTrustGrant, allowedAt second, allowedAt third]

def provenMint : Intent :=
  (authorized (Harness.intent "int_mint" "balance.mint" "alice" gold .fungibleBalance 1 [("amount", "5")])).intent

def boundAt : EStateM.Result ExecutorError Memory (Option AuthorityProof) → Option Timestamp
  | .ok authority _ => authority.map (·.evaluatedAt)
  | .error _ _ => none

/-- Two members that have evaluated one after the other can be asked in either order. -/
theorem authorities_reordered :
    boundAt ((threeAuthorities 1784140000 1784150000).evaluateAuthority fungibleBalanceRules provenMint .fresh) =
        some 1784140000 ∧
      SameVerdict
        ((threeAuthorities 1784140000 1784150000).evaluateAuthority fungibleBalanceRules provenMint .fresh)
        ((threeAuthorities 1784150000 1784140000).evaluateAuthority fungibleBalanceRules provenMint .fresh) := by
  refine ⟨by decide +kernel, ?_⟩
  refine (authority_aggregation (executor .baseline ∅)).2.2 fungibleBalanceRules provenMint allowTrustGrant
    [allowedAt 1784140000, allowedAt 1784150000] [allowedAt 1784150000, allowedAt 1784140000]
    (fun member => (member.evaluate tenant provenMint.actor provenMint.operation.name provenMint.resourceId .fresh).1)
    (.swap _ _ _) ?_ (fun _ _ _ => rfl) .fresh .fresh
  intro member listed w
  simp only [List.mem_cons, List.not_mem_nil, or_false] at listed
  rcases listed with rfl | rfl | rfl <;> rfl

end StateChronicle.Verified
