import SecFusion.Policy.Engine

/-!
# Denials override

What the engine decides, read off the rules that match a request: a denial comes before
what cannot be told, which comes before a permit (`evaluate_authorization_eq`).  A permit
requires what every matched rule requires, also of the rules that authorize nothing
(`evaluate_of_permitted`).

The order of the rules plays no part in this, and a rule that does not permit can only
take a permit away or add to what it requires.
-/

namespace SecFusion.Policy

open Foundations

/-! ## What a permit requires -/

def StaticPolicyEngine.matched (engine : StaticPolicyEngine) (request : PolicyRequest) :
    List RuntimePolicyRule :=
  engine.rules.filter (·.isMatch request)

/-- Some matched rule permits, and none denies or cannot tell. -/
def StaticPolicyEngine.Permits (engine : StaticPolicyEngine) (request : PolicyRequest) : Prop :=
  (∃ rule ∈ engine.matched request, rule.authorization = some .permit) ∧
    ∀ rule ∈ engine.matched request, rule.authorization ≠ some .deny ∧
      rule.authorization ≠ some .indeterminate

variable {authorization : Authorization} {rule : RuntimePolicyRule}

section Engine

variable {engine : StaticPolicyEngine} {request : PolicyRequest}

/-- Denials come first, then what cannot be told, and a permit is needed. -/
theorem combineDenyOverrides_permit_iff {decisions : List PolicyDecision} {revision : String}
    (nonblank : ¬ isBlank revision) :
    (combineDenyOverrides decisions revision nonblank).authorization = .permit ↔
      withAuthorization decisions .deny = [] ∧ withAuthorization decisions .indeterminate = [] ∧
        withAuthorization decisions .permit ≠ [] := by
  unfold combineDenyOverrides
  dsimp only
  by_cases denied : withAuthorization decisions .deny = []
  · by_cases unclear : withAuthorization decisions .indeterminate = []
    · by_cases permitted : withAuthorization decisions .permit = []
      · simp [denied, unclear, permitted, determinedBy]
      · simp [denied, unclear, permitted, determinedBy]
    · simp [denied, unclear, determinedBy]
  · simp [denied, determinedBy]

/-- The decisions of the matched rules with an authorization are those rules. -/
theorem withAuthorization_ruleDecisions_eq_nil {rules : List RuntimePolicyRule} :
    withAuthorization (rules.filterMap engine.ruleDecision?) authorization = [] ↔
      ∀ rule ∈ rules, rule.authorization ≠ some authorization := by
  rw [withAuthorization, List.filter_eq_nil_iff]
  constructor
  · intro none rule member same
    obtain ⟨decision, decided⟩ : ∃ decision, engine.ruleDecision? rule = some decision :=
      ⟨_, congrArg (Option.map _) same⟩
    obtain ⟨given, found, rfl⟩ := Option.map_eq_some_iff.1 decided
    refine none _ (List.mem_filterMap.2 ⟨rule, member, decided⟩) (decide_eq_true ?_)
    exact Option.mem_unique found same
  · intro none decision listed holds
    obtain ⟨rule, member, decided⟩ := List.mem_filterMap.1 listed
    obtain ⟨given, same, rfl⟩ := Option.map_eq_some_iff.1 decided
    exact none rule member (same.trans (congrArg some (of_decide_eq_true holds)))

theorem evaluate_authorization : (engine.evaluate request).authorization =
    (combineDenyOverrides ((engine.matched request).filterMap engine.ruleDecision?)
      engine.policyRevision engine.revision_nonblank).authorization := by
  unfold StaticPolicyEngine.evaluate
  dsimp only
  split <;> rfl

theorem evaluate_permit_iff :
    (engine.evaluate request).authorization = .permit ↔ engine.Permits request := by
  rw [evaluate_authorization, combineDenyOverrides_permit_iff, ne_eq,
    withAuthorization_ruleDecisions_eq_nil, withAuthorization_ruleDecisions_eq_nil,
    withAuthorization_ruleDecisions_eq_nil, StaticPolicyEngine.Permits]
  push Not
  constructor
  · rintro ⟨noDeny, noIndeterminate, permits⟩
    exact ⟨permits, fun rule member => ⟨noDeny rule member, noIndeterminate rule member⟩⟩
  · rintro ⟨permits, others⟩
    exact ⟨fun rule member => (others rule member).1, fun rule member => (others rule member).2,
      permits⟩

/-- **A permit requires what the matched rules require**, those without an authorization too. -/
theorem evaluate_of_permitted (permitted : (engine.evaluate request).authorization = .permit) :
    (engine.evaluate request).constraints = (engine.matched request).flatMap (·.constraints) ∧
      (engine.evaluate request).obligations =
        (engine.matched request).flatMap (·.obligations) := by
  rw [evaluate_authorization] at permitted
  unfold StaticPolicyEngine.matched at permitted
  unfold StaticPolicyEngine.evaluate
  dsimp only
  rw [if_pos permitted]
  exact ⟨rfl, rfl⟩

theorem StaticPolicyEngine.mem_matched :
    rule ∈ engine.matched request ↔ rule ∈ engine.rules ∧ rule.isMatch request = true :=
  List.mem_filter

/-- Some matched rule has the authorization. -/
def StaticPolicyEngine.Authorizes (engine : StaticPolicyEngine) (request : PolicyRequest)
    (authorization : Authorization) : Prop :=
  ∃ rule ∈ engine.matched request, rule.authorization = some authorization

instance (engine : StaticPolicyEngine) (request : PolicyRequest) (authorization : Authorization) :
    Decidable (engine.Authorizes request authorization) :=
  inferInstanceAs (Decidable (∃ rule ∈ engine.matched request, _))

theorem withAuthorization_ne_nil :
    withAuthorization ((engine.matched request).filterMap engine.ruleDecision?) authorization ≠ [] ↔
      engine.Authorizes request authorization := by
  rw [ne_eq, withAuthorization_ruleDecisions_eq_nil]
  unfold StaticPolicyEngine.Authorizes
  push Not
  rfl

/-- **The order of precedence**: denial, what cannot be told, permit, and then denial. -/
theorem evaluate_authorization_eq : (engine.evaluate request).authorization =
    if engine.Authorizes request .deny then .deny
    else if engine.Authorizes request .indeterminate then .indeterminate
    else if engine.Authorizes request .permit then .permit
    else .deny := by
  rw [evaluate_authorization]
  unfold combineDenyOverrides
  dsimp only
  simp only [withAuthorization_ne_nil]
  split_ifs <;> rfl

/-- The ids of the policies that determine a decision: of the matched rules with its
authorization. -/
theorem determining_ruleDecisions (rules : List RuntimePolicyRule)
    (authorization : Authorization) :
    (withAuthorization (rules.filterMap engine.ruleDecision?) authorization).flatMap
        (·.determiningPolicyIds) =
      (rules.filter fun rule => rule.authorization = some authorization).map (·.policyId) := by
  induction rules with
  | nil => rfl
  | cons rule rest ih =>
      unfold withAuthorization at ih ⊢
      cases given : rule.authorization with
      | none =>
          have undecided : engine.ruleDecision? rule = none := by
            unfold StaticPolicyEngine.ruleDecision?
            rw [given]
            rfl
          rw [List.filterMap_cons_none undecided, ih, List.filter_cons_of_neg (by simp [given])]
      | some other =>
          obtain ⟨decision, decided⟩ : ∃ decision, engine.ruleDecision? rule = some decision :=
            ⟨_, congrArg (Option.map _) given⟩
          have made : decision.authorization = other ∧
              decision.determiningPolicyIds = [rule.policyId] := by
            obtain ⟨found, same, rfl⟩ := Option.map_eq_some_iff.1 decided
            rw [given] at same
            exact ⟨(Option.some.inj same).symm, rfl⟩
          rw [List.filterMap_cons_some decided]
          by_cases same : other = authorization
          · rw [List.filter_cons_of_pos (by simp [made.1, same]), List.flatMap_cons, ih, made.2,
              List.filter_cons_of_pos (by simp [given, same])]
            rfl
          · rw [List.filter_cons_of_neg (by simp [made.1, same]), ih,
              List.filter_cons_of_neg (by simp [given, same])]

theorem combineDenyOverrides_determining (decisions : List PolicyDecision) (revision : String)
    (nonblank : ¬ isBlank revision) :
    (combineDenyOverrides decisions revision nonblank).determiningPolicyIds =
      sortedSet ((withAuthorization decisions
        (combineDenyOverrides decisions revision nonblank).authorization).flatMap
          (·.determiningPolicyIds)) := by
  unfold combineDenyOverrides
  dsimp only
  split_ifs with denies indeterminate permits
  · rfl
  · rfl
  · rfl
  · show sortedSet [] = sortedSet ((withAuthorization decisions .deny).flatMap _)
    rw [not_not.1 denies]
    rfl

theorem evaluate_determining : (engine.evaluate request).determiningPolicyIds =
    sortedSet (((engine.matched request).filter fun rule =>
      rule.authorization = some (engine.evaluate request).authorization).map (·.policyId)) := by
  have combined : (engine.evaluate request).determiningPolicyIds =
      (combineDenyOverrides ((engine.matched request).filterMap engine.ruleDecision?)
        engine.policyRevision engine.revision_nonblank).determiningPolicyIds := by
    unfold StaticPolicyEngine.evaluate
    dsimp only
    split <;> rfl
  rw [combined, combineDenyOverrides_determining, ← evaluate_authorization,
    determining_ruleDecisions]

/-- A decision that is no permit requires nothing. -/
theorem evaluate_of_not_permitted
    (refused : (engine.evaluate request).authorization ≠ .permit) :
    (engine.evaluate request).constraints = [] ∧ (engine.evaluate request).obligations = [] := by
  rw [evaluate_authorization] at refused
  have combined : (combineDenyOverrides ((engine.matched request).filterMap engine.ruleDecision?)
      engine.policyRevision engine.revision_nonblank).constraints = [] ∧
      (combineDenyOverrides ((engine.matched request).filterMap engine.ruleDecision?)
        engine.policyRevision engine.revision_nonblank).obligations = [] := by
    unfold combineDenyOverrides at refused ⊢
    dsimp only at refused ⊢
    split_ifs at refused ⊢ with denies indeterminate permits
    · exact ⟨rfl, rfl⟩
    · exact ⟨rfl, rfl⟩
    · exact absurd rfl refused
    · exact ⟨rfl, rfl⟩
  unfold StaticPolicyEngine.matched at refused combined
  unfold StaticPolicyEngine.evaluate
  dsimp only
  rw [if_neg refused]
  exact combined

end Engine

/-! ## The rules as a whole -/

/-- The two decisions authorize the same for the same policies, and require the same. -/
structure SameVerdict (first second : PolicyDecision) : Prop where
  authorization : first.authorization = second.authorization
  determining : first.determiningPolicyIds = second.determiningPolicyIds
  constraints : first.constraints.Perm second.constraints
  obligations : first.obligations.Perm second.obligations

/-- What the first decision requires, the second requires too. -/
structure RequiresKinds (first second : PolicyDecision) : Prop where
  constraints : ∀ item ∈ first.constraints, ∃ other ∈ second.constraints, other.kind = item.kind
  obligations : ∀ item ∈ first.obligations, ∃ other ∈ second.obligations, other.kind = item.kind

section Rules

variable {engine other : StaticPolicyEngine} {request : PolicyRequest}

/-- The order of the rules decides nothing. -/
theorem sameVerdict_of_perm (perm : other.rules.Perm engine.rules) :
    SameVerdict (other.evaluate request) (engine.evaluate request) := by
  have matched : (other.matched request).Perm (engine.matched request) := perm.filter _
  have authorizes : ∀ authorization, other.Authorizes request authorization ↔
      engine.Authorizes request authorization := by
    intro authorization
    unfold StaticPolicyEngine.Authorizes
    simp only [matched.mem_iff]
  have authorization : (other.evaluate request).authorization =
      (engine.evaluate request).authorization := by
    simp only [evaluate_authorization_eq, authorizes]
  have determining : (other.evaluate request).determiningPolicyIds =
      (engine.evaluate request).determiningPolicyIds := by
    rw [evaluate_determining, evaluate_determining, authorization]
    exact sortedSet_eq_of_mem_iff fun id => ((matched.filter _).map _).mem_iff
  refine ⟨authorization, determining, ?_, ?_⟩
  all_goals by_cases permitted : (engine.evaluate request).authorization = .permit
  · rw [(evaluate_of_permitted permitted).1,
      (evaluate_of_permitted (authorization.trans permitted)).1]
    exact matched.flatMap_right _
  · rw [(evaluate_of_not_permitted permitted).1,
      (evaluate_of_not_permitted fun same => permitted (authorization.symm.trans same)).1]
  · rw [(evaluate_of_permitted permitted).2,
      (evaluate_of_permitted (authorization.trans permitted)).2]
    exact matched.flatMap_right _
  · rw [(evaluate_of_not_permitted permitted).2,
      (evaluate_of_not_permitted fun same => permitted (authorization.symm.trans same)).2]

/-- The rules that matched still match when a rule is added. -/
theorem matched_of_added (added : other.rules.Perm (rule :: engine.rules)) {old : RuntimePolicyRule}
    (member : old ∈ engine.matched request) :
    old ∈ other.matched request := by
  obtain ⟨listed, isMatch⟩ := StaticPolicyEngine.mem_matched.1 member
  exact StaticPolicyEngine.mem_matched.2
    ⟨added.mem_iff.2 (List.mem_cons_of_mem _ listed), isMatch⟩

/-- **A rule that does not permit gives no permit**, and takes no requirement away. -/
theorem requires_of_added (added : other.rules.Perm (rule :: engine.rules))
    (withholds : rule.authorization ≠ some .permit)
    (permitted : (other.evaluate request).authorization = .permit) :
    (engine.evaluate request).authorization = .permit ∧
      RequiresKinds (engine.evaluate request) (other.evaluate request) := by
  obtain ⟨⟨granting, granted, permits⟩, others⟩ := evaluate_permit_iff.1 permitted
  have before : (engine.evaluate request).authorization = .permit := by
    refine evaluate_permit_iff.2 ⟨⟨granting, ?_, permits⟩, fun old member => ?_⟩
    · obtain ⟨listed, isMatch⟩ := StaticPolicyEngine.mem_matched.1 granted
      refine StaticPolicyEngine.mem_matched.2 ⟨?_, isMatch⟩
      rcases List.mem_cons.1 (added.mem_iff.1 listed) with rfl | old
      · exact absurd permits withholds
      · exact old
    · exact others old (matched_of_added added member)
  obtain ⟨constraints, obligations⟩ := evaluate_of_permitted before
  obtain ⟨newConstraints, newObligations⟩ := evaluate_of_permitted permitted
  refine ⟨before, ⟨fun item listed => ⟨item, ?_, rfl⟩, fun item listed => ⟨item, ?_, rfl⟩⟩⟩
  · rw [constraints] at listed
    obtain ⟨old, member, inside⟩ := List.mem_flatMap.1 listed
    rw [newConstraints]
    exact List.mem_flatMap.2 ⟨old, matched_of_added added member, inside⟩
  · rw [obligations] at listed
    obtain ⟨old, member, inside⟩ := List.mem_flatMap.1 listed
    rw [newObligations]
    exact List.mem_flatMap.2 ⟨old, matched_of_added added member, inside⟩

end Rules

/-- **Denials override.**  A request is permitted exactly when some matched rule permits it
and none denies it or cannot tell; the order of the rules changes neither the
authorization, nor the policies that determine it, nor what is required; and a rule that
does not permit, wherever it is added, makes no permit, and leaves a permit that stands
with all the kinds that it required. -/
theorem denials_override (engine : StaticPolicyEngine) (request : PolicyRequest) :
    ((engine.evaluate request).authorization = .permit ↔ engine.Permits request) ∧
      (∀ other : StaticPolicyEngine, other.rules.Perm engine.rules →
        SameVerdict (other.evaluate request) (engine.evaluate request)) ∧
      ∀ (other : StaticPolicyEngine) (rule : RuntimePolicyRule),
        other.rules.Perm (rule :: engine.rules) → rule.authorization ≠ some .permit →
          (other.evaluate request).authorization = .permit →
            (engine.evaluate request).authorization = .permit ∧
              RequiresKinds (engine.evaluate request) (other.evaluate request) := by
  refine ⟨evaluate_permit_iff, fun other perm => sameVerdict_of_perm perm, ?_⟩
  intro other rule added withholds permitted
  exact requires_of_added added withholds permitted

end SecFusion.Policy
