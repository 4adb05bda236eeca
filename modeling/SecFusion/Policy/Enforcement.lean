import SecFusion.Capability.Broker
import SecFusion.Investigation.WakeAdmission
import SecFusion.Policy.DenyOverrides
import SecFusion.Sandbox.Broker

/-!
# Policy enforcement

Three places put a request to the engine and go on if its decision is a permit whose
requirements are met: the invocation of a capability, the creation of a sandbox, and the
resumption of a watch.  A permit of the engine requires what all matched rules require, in
its constraints and in its obligations (`evaluate_of_permitted`).

The first two look at both.  The third calls `obligations_satisfied`, which looks at the
obligations alone, so a wake goes on with a constraint of a matched rule unmet.
-/

namespace SecFusion.Policy

open Foundations
open Investigation (AdmissionRequest RuntimeWatchWakeAdmission resumeRequest wakeDenial?)

/-! ## The enforcement points -/

inductive EnforcementCall where
  | invoke (broker : Capability.CapabilityBroker) (call : Capability.InvokeCall)
  | create (broker : Sandbox.SandboxBroker) (store : Sandbox.SandboxStore)
      (task : TaskRuntime.TaskContract) (envelope : Execution.ExecutionEnvelope)
      (request : Sandbox.SandboxCreateRequest) (grants : Sandbox.SandboxGrants)
  | admitWake (admission : RuntimeWatchWakeAdmission)
      (request : AdmissionRequest)

namespace EnforcementCall

def engine : EnforcementCall → StaticPolicyEngine
  | .invoke broker _ => broker.policy
  | .create broker .. => broker.policy
  | .admitWake admission _ => admission.policy

/-- The kinds that the point takes to be fulfilled. -/
def fulfilled : EnforcementCall → List String
  | .invoke _ call => call.grants.fulfilledObligationKinds
  | .create _ _ _ _ _ grants => grants.fulfilledObligationKinds
  | .admitWake admission _ => admission.fulfilledObligationKinds

/-- **The call goes on past its policy check**, which was about the request. -/
def Proceeds : EnforcementCall → PolicyRequest → Prop
  | .invoke broker call, request =>
      ∃ authorized, Capability.authorizeInvocation broker call = .ok authorized ∧
        authorized.policyRequest = request
  | .create broker store task envelope createRequest grants, request =>
      ∃ plan, Sandbox.planCreate broker store task envelope createRequest grants = .ok plan ∧
        Sandbox.selectionRequest task envelope plan.profile = request
  | .admitWake admission wake, request =>
      wakeDenial? admission wake = none ∧ resumeRequest wake = request

end EnforcementCall

/-- The decision on the request is a permit, and all that the matched rules require is
fulfilled. -/
structure Enforced (engine : StaticPolicyEngine) (request : PolicyRequest)
    (fulfilled : List String) : Prop where
  permitted : (engine.evaluate request).authorization = .permit
  constraints : ∀ rule ∈ engine.rules, rule.isMatch request = true →
    ∀ item ∈ rule.constraints, item.kind ∈ fulfilled
  obligations : ∀ rule ∈ engine.rules, rule.isMatch request = true →
    ∀ item ∈ rule.obligations, item.kind ∈ fulfilled

/-- A wake that the rules permit, with all obligations fulfilled, has the constraints of the
matched rules fulfilled as well.  The other points ask for nothing. -/
def ConstraintsMet : EnforcementCall → Prop
  | .invoke .. | .create .. => True
  | .admitWake admission wake =>
      admission.policy.policyRevision = wake.contract.policyRevision →
      admission.policy.Permits (resumeRequest wake) →
      (∀ rule ∈ admission.policy.matched (resumeRequest wake),
        ∀ item ∈ rule.obligations, item.kind ∈ admission.fulfilledObligationKinds) →
      ∀ rule ∈ admission.policy.matched (resumeRequest wake),
        ∀ item ∈ rule.constraints, item.kind ∈ admission.fulfilledObligationKinds

/-! ## What each point checks -/

section Points

variable {engine : StaticPolicyEngine} {request : PolicyRequest} {fulfilled : List String}

/-- A check of both lists of the decision is a check of the rules. -/
theorem enforced_of_required (permitted : (engine.evaluate request).authorization = .permit)
    (required : ∀ item ∈ (engine.evaluate request).constraints ++
      (engine.evaluate request).obligations, item.kind ∈ fulfilled) :
    Enforced engine request fulfilled := by
  obtain ⟨constraints, obligations⟩ := evaluate_of_permitted permitted
  rw [constraints, obligations] at required
  refine ⟨permitted, fun rule member isMatch item listed => ?_,
    fun rule member isMatch item listed => ?_⟩
  · refine required item (mem_append_left _ (mem_flatMap.2 ⟨rule, ?_, listed⟩))
    exact StaticPolicyEngine.mem_matched.2 ⟨member, isMatch⟩
  · refine required item (mem_append_right _ (mem_flatMap.2 ⟨rule, ?_, listed⟩))
    exact StaticPolicyEngine.mem_matched.2 ⟨member, isMatch⟩

theorem enforced_of_authorizeInvocation {broker : Capability.CapabilityBroker}
    {call : Capability.InvokeCall} {authorized : Capability.Authorized}
    (proceeds : Capability.authorizeInvocation broker call = .ok authorized) :
    Enforced broker.policy authorized.policyRequest call.grants.fulfilledObligationKinds := by
  unfold Capability.authorizeInvocation at proceeds
  obtain ⟨_, -, proceeds⟩ := bind_eq_ok.1 proceeds
  obtain ⟨_, -, proceeds⟩ := bind_eq_ok.1 proceeds
  obtain ⟨-, proceeds⟩ := require_bind_eq_ok.1 proceeds
  obtain ⟨⟨_, _⟩, -, proceeds⟩ := bind_eq_ok.1 proceeds
  obtain ⟨_, -, proceeds⟩ := bind_eq_ok.1 proceeds
  obtain ⟨_, checked, ok⟩ := bind_eq_ok.1 proceeds
  cases pure_eq_ok.1 ok
  unfold Capability.checkGrants at checked
  obtain ⟨permitted, granted⟩ := require_bind_eq_ok.1 checked
  refine enforced_of_required permitted fun item listed => ?_
  exact require_eq_ok.1 granted _ (mem_map.2 ⟨item, listed, rfl⟩)

theorem enforced_of_planCreate {broker : Sandbox.SandboxBroker} {store : Sandbox.SandboxStore}
    {task : TaskRuntime.TaskContract} {envelope : Execution.ExecutionEnvelope}
    {createRequest : Sandbox.SandboxCreateRequest} {grants : Sandbox.SandboxGrants}
    {plan : Sandbox.CreatePlan}
    (proceeds : Sandbox.planCreate broker store task envelope createRequest grants = .ok plan) :
    Enforced broker.policy (Sandbox.selectionRequest task envelope plan.profile)
      grants.fulfilledObligationKinds := by
  unfold Sandbox.planCreate at proceeds
  obtain ⟨profile, -, proceeds⟩ := bind_eq_ok.1 proceeds
  obtain ⟨_, checked, ok⟩ := bind_eq_ok.1 proceeds
  cases pure_eq_ok.1 ok
  unfold Sandbox.enforcePolicyDecision at checked
  obtain ⟨permitted, nothingMissing⟩ := require_bind_eq_ok.1 checked
  refine enforced_of_required permitted fun item listed => ?_
  by_contra missing
  have inRequired : item.kind ∈ (Sandbox.requiredKinds (broker.policy.evaluate
      (Sandbox.selectionRequest task envelope profile))).filter
        (· ∉ grants.fulfilledObligationKinds) :=
    mem_filter.2 ⟨mem_map.2 ⟨item, listed, rfl⟩, by simpa using missing⟩
  have inMissing := mem_sortedSet.2 inRequired
  rw [require_eq_ok.1 nothingMissing] at inMissing
  exact absurd inMissing not_mem_nil

/-- What a wake checks is all but the constraints. -/
theorem wakeDenial?_eq_none {admission : RuntimeWatchWakeAdmission}
    {wake : AdmissionRequest} :
    wakeDenial? admission wake = none ↔
      admission.policy.policyRevision = wake.contract.policyRevision ∧
      admission.policy.Permits (resumeRequest wake) ∧
      ∀ rule ∈ admission.policy.matched (resumeRequest wake),
        ∀ item ∈ rule.obligations, item.kind ∈ admission.fulfilledObligationKinds := by
  unfold wakeDenial? Investigation.obligationsSatisfied
  by_cases current : admission.policy.policyRevision = wake.contract.policyRevision
  · rw [if_neg (not_not.2 current)]
    dsimp only
    by_cases permitted : (admission.policy.evaluate
        (resumeRequest wake)).authorization = .permit
    · obtain ⟨-, obligations⟩ := evaluate_of_permitted permitted
      rw [obligations, permitted, ← evaluate_permit_iff]
      simp only [current, permitted, true_and]
      simp
    · have refused : ¬ admission.policy.Permits (resumeRequest wake) :=
        fun permits => permitted (evaluate_permit_iff.2 permits)
      cases decided : (admission.policy.evaluate
          (resumeRequest wake)).authorization with
      | permit => exact absurd decided permitted
      | deny => simp [refused]
      | indeterminate => simp [refused]
  · rw [if_pos current]
    simp [current]

end Points

/-- **Uniform enforcement**: whatever goes on past its policy check has a permit, and all that
the matched rules require, exactly when it is not a wake with an unmet constraint. -/
theorem enforced_iff_constraintsMet (call : EnforcementCall) :
    (∀ request, call.Proceeds request → Enforced call.engine request call.fulfilled) ↔
      ConstraintsMet call := by
  cases call with
  | invoke broker call =>
      refine iff_of_true ?_ trivial
      rintro _ ⟨authorized, proceeds, rfl⟩
      exact enforced_of_authorizeInvocation proceeds
  | create broker store task envelope createRequest grants =>
      refine iff_of_true ?_ trivial
      rintro _ ⟨plan, proceeds, rfl⟩
      exact enforced_of_planCreate proceeds
  | admitWake admission wake =>
      constructor
      · intro enforced current permits fulfilled rule member item listed
        have passes := wakeDenial?_eq_none.2 ⟨current, permits, fulfilled⟩
        obtain ⟨inRules, isMatch⟩ := StaticPolicyEngine.mem_matched.1 member
        exact (enforced _ ⟨passes, rfl⟩).constraints rule inRules isMatch item listed
      · rintro met _ ⟨passes, rfl⟩
        obtain ⟨current, permits, fulfilled⟩ := wakeDenial?_eq_none.1 passes
        refine ⟨evaluate_permit_iff.2 permits, fun rule member isMatch => ?_,
          fun rule member isMatch => ?_⟩
        · exact met current permits fulfilled rule
            (StaticPolicyEngine.mem_matched.2 ⟨member, isMatch⟩)
        · exact fulfilled rule (StaticPolicyEngine.mem_matched.2 ⟨member, isMatch⟩)

/-- Watches may be resumed; while a case is under review this needs its release. -/
def reviewPolicy : StaticPolicyEngine where
  policyRevision := "policy-1"
  rules := [
    { policyId := "allow-watch", policyRevision := "policy-1", decisionPoints := [.watchResume]
      authorization := some .permit },
    { policyId := "review", policyRevision := "policy-1", decisionPoints := [.watchResume]
      constraints := [{ kind := "case_released", kind_nonblank := by decide }] }]
  revision_nonblank := by decide
  rules_revision := by decide

def reviewedWake : AdmissionRequest where
  contract := TaskRuntime.investigationContract
  templateRunId := "run-1"
  templateExecutionEnvelopeRef := "execution:run-1"
  previousContext := TaskRuntime.parentManifest
  caseId := "case-1"
  triggerRef := "world-change:2"
  runId := "run-2"
  worldRevision := 2

/-- **The wake goes on without the release.** -/
theorem wake_ignores_constraint :
    ¬ ∀ (call : EnforcementCall) (request : PolicyRequest), call.Proceeds request →
      Enforced call.engine request call.fulfilled := by
  intro enforced
  have proceeds : (EnforcementCall.admitWake { policy := reviewPolicy, digest := fun _ _ => "digest" }
      reviewedWake).Proceeds (Investigation.resumeRequest reviewedWake) :=
    ⟨by decide +kernel, rfl⟩
  have unmet := (enforced _ _ proceeds).constraints
  revert unmet
  decide +kernel

end SecFusion.Policy
