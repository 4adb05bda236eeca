import SecFusion.Foundations.Glob
import SecFusion.Foundations.Json

/-!
# The policy engine

The model of `packages/runtime/policy`: requests and decisions, the combination of
decisions by which a denial overrides a permit, and the engine that evaluates a
fixed list of rules.

A decision names the policies that matched and those that determined it; what a
permit requires is in its constraints and obligations, which are those of every
matched rule.
-/

namespace SecFusion.Policy

open Foundations

/-! ## Contracts -/

inductive PolicyDecisionPoint where
  | taskAdmission
  | taskDelegation
  | capabilityVisibility
  | capabilityInvocation
  | credentialIssuance
  | networkEgress
  | sandboxSelection
  | sideEffectCommit
  | observationPromotion
  | statePatchCommit
  | childExecution
  | watchResume
  deriving DecidableEq

inductive Authorization where
  | permit
  | deny
  | indeterminate
  deriving DecidableEq

/-- The value of the enumeration member. -/
def Authorization.value : Authorization → String
  | .permit => "permit"
  | .deny => "deny"
  | .indeterminate => "indeterminate"

structure PolicyObligation where
  kind : String
  parameters : JsonObject := []
  kind_nonblank : ¬ isBlank kind

/-- What the validator of `PolicyRequest` asks of its context. -/
def contextComplete (point : PolicyDecisionPoint) (context : JsonObject) : Bool :=
  if point = .taskAdmission then (JsonObject.get? context "intent_ref").isSome
  else (JsonObject.get? context "task_contract_id").isSome &&
    (JsonObject.get? context "task_run_id").isSome

structure PolicyRequest where
  decisionPoint : PolicyDecisionPoint
  (principal action resource : String)
  context : JsonObject
  named : isBlank principal = false ∧ isBlank action = false ∧
    isBlank resource = false
  complete : contextComplete decisionPoint context = true

structure PolicyDecision where
  authorization : Authorization
  (constraints obligations : List PolicyObligation := [])
  (advice matchedPolicyIds determiningPolicyIds : List String := [])
  policyRevision : String
  expiresAt : Option ℤ := none
  revision_nonblank : ¬ isBlank policyRevision

/-! ## Combining decisions -/

section Combine

variable (decisions : List PolicyDecision) (policyRevision : String)
  (nonblank : ¬ isBlank policyRevision)

def withAuthorization (authorization : Authorization) : List PolicyDecision :=
  decisions.filter fun decision => decision.authorization = authorization

/-- The combined decision when the given ones, of one authorization other than
`permit`, determine it. -/
def determinedBy (authorization : Authorization) (determining : List PolicyDecision) :
    PolicyDecision where
  authorization := authorization
  advice := decisions.flatMap (·.advice)
  matchedPolicyIds := sortedSet (decisions.flatMap (·.matchedPolicyIds))
  determiningPolicyIds := sortedSet (determining.flatMap (·.determiningPolicyIds))
  policyRevision := policyRevision
  revision_nonblank := nonblank

/-- `combine_deny_overrides`. -/
def combineDenyOverrides : PolicyDecision :=
  let denies := withAuthorization decisions .deny
  let indeterminate := withAuthorization decisions .indeterminate
  let permits := withAuthorization decisions .permit
  if denies ≠ [] then determinedBy decisions policyRevision nonblank .deny denies
  else if indeterminate ≠ [] then
    determinedBy decisions policyRevision nonblank .indeterminate indeterminate
  else if permits ≠ [] then
    { determinedBy decisions policyRevision nonblank .permit permits with
      constraints := permits.flatMap (·.constraints)
      obligations := permits.flatMap (·.obligations) }
  else
    { determinedBy decisions policyRevision nonblank .deny [] with advice := ["implicit_deny"] }

end Combine

/-! ## The engine -/

structure RuntimePolicyRule where
  (policyId policyRevision : String)
  decisionPoints : List PolicyDecisionPoint
  (principalPatterns actionPatterns resourcePatterns : List String := ["*"])
  authorization : Option Authorization := none
  (constraints obligations : List PolicyObligation := [])
  advice : List String := []

/-- `_matches_any`. -/
def matchesAny (value : String) (patterns : List String) : Bool :=
  patterns.any (fnmatchcase value)

/-- `RuntimePolicyRule.matches`. -/
def RuntimePolicyRule.isMatch (rule : RuntimePolicyRule) (request : PolicyRequest) : Bool :=
  decide (request.decisionPoint ∈ rule.decisionPoints) &&
    matchesAny request.principal rule.principalPatterns &&
    matchesAny request.action rule.actionPatterns &&
    matchesAny request.resource rule.resourcePatterns

/-- `StaticPolicyEngine`, with what its constructor establishes. -/
structure StaticPolicyEngine where
  policyRevision : String
  rules : List RuntimePolicyRule
  revision_nonblank : ¬ isBlank policyRevision
  rules_revision : ∀ rule ∈ rules, rule.policyRevision = policyRevision

/-- The decision of one matched rule, if the rule authorizes anything. -/
def StaticPolicyEngine.ruleDecision? (engine : StaticPolicyEngine) (rule : RuntimePolicyRule) :
    Option PolicyDecision :=
  rule.authorization.map fun authorization =>
    { authorization
      matchedPolicyIds := [rule.policyId]
      determiningPolicyIds := [rule.policyId]
      policyRevision := engine.policyRevision
      revision_nonblank := engine.revision_nonblank }

/-- `StaticPolicyEngine.evaluate`. -/
def StaticPolicyEngine.evaluate (engine : StaticPolicyEngine) (request : PolicyRequest) :
    PolicyDecision :=
  let matched := engine.rules.filter (·.isMatch request)
  let combined := combineDenyOverrides (matched.filterMap engine.ruleDecision?)
    engine.policyRevision engine.revision_nonblank
  let named : PolicyDecision :=
    { combined with matchedPolicyIds := sortedSet (matched.map (·.policyId)) }
  if named.authorization = .permit then
    { named with
      constraints := matched.flatMap (·.constraints)
      obligations := matched.flatMap (·.obligations)
      advice := matched.flatMap (·.advice) }
  else named

/-- `StaticPolicyEngine.decision_ref`; `digest` is the head of the hash of the two
dumps. -/
def StaticPolicyEngine.decisionRef (engine : StaticPolicyEngine)
    (digest : PolicyRequest → PolicyDecision → String) (request : PolicyRequest)
    (decision : PolicyDecision) : String :=
  "policy-decision:" ++ engine.policyRevision ++ ":" ++ digest request decision

end SecFusion.Policy
