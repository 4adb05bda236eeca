import SecFusion.Budget.Ledger
import SecFusion.Capability.Contracts
import SecFusion.Execution.Envelope
import SecFusion.Policy.Engine

/-!
# The capability broker

The model of `CapabilityBroker.invoke` over the budget ledger and the audit rows of
invocations.

The executor is outside of the transaction: an execution is not taken back when the rows
are.  So an invocation answers the calls that the executor received beside what became of
the transaction; what the executor does is an argument.
-/

namespace SecFusion.Capability

open Foundations Execution Policy TaskRuntime

/-! ## Storage -/

/-- `status` of an audit row: `running`, or the value of its result's status. -/
inductive InvocationStatus where
  | running
  | finished (status : CapabilityResultStatus)

/-- One row of `capability_invocations`. -/
structure CapabilityInvocationModel where
  (invocationId taskRunId : String)
  caseId : Option String
  (requestId capabilityId : String)
  contractRevision : ℕ
  bindingId : String
  bindingRevision : ℕ
  toolImplId : String
  implementationRevision : ℕ
  requestJson : CapabilityRequest
  planJson : InvocationPlan
  policyDecisionRef : String
  policyDecisionJson : PolicyDecision
  argumentsDigest : String
  resultJson : Option CapabilityResult := none
  observationJson : Option EphemeralObservation := none
  status : InvocationStatus := .running
  startedAt : ℤ
  finishedAt : Option ℤ := none
  (failureCode failureDetail : Option String := none)

/-- The tables that an invocation reads and writes. -/
structure CapabilityStore where
  ledger : Budget.Ledger
  invocations : Table CapabilityInvocationModel String (·.invocationId)

/-- The audit row of a request of a run. -/
def CapabilityStore.invocationOf? (store : CapabilityStore) (taskRunId requestId : String) :
    Option CapabilityInvocationModel :=
  store.invocations.rows.find? fun row => row.taskRunId = taskRunId ∧ row.requestId = requestId

/-! ## What a call is given -/

structure NativeExecutionResult where
  status : CapabilityResultStatus
  (canonicalOutputRef rawArtifactRef effectReceiptRef : Option String := none)
  observationClass : String := "ephemeral"
  (provenance latency cost : JsonObject := [])
  consumedBudget : Dict String ℚ := .empty
  (failureCode failureDetail : Option String := none)
  extractedCandidates : List JsonValue := []
  observationTtlSeconds : ℕ := 900
  ttl_pos : observationTtlSeconds ≠ 0 := by decide

structure InvocationGrants where
  fulfilledObligationKinds : List String := []
  (credentialGrantRef networkGrantRef sandboxInstanceRef : Option String := none)

/-- What `executor.execute` does. -/
inductive ExecutorOutcome where
  | returned (native : NativeExecutionResult)
  /-- It raises an `Exception` of the named class. -/
  | raised (name : String)
  /-- It raises what is not an `Exception`, such as a cancellation. -/
  | aborted (name : String)

/-- The readings of the clock in one call. -/
structure InvokeClock where
  (checkedAt startedAt observedAt finishedAt : ℤ)

/-- The arguments of `invoke`, with the behaviour of the executor and the clock. -/
structure InvokeCall where
  task : TaskContract
  envelope : ExecutionEnvelope
  request : CapabilityRequest
  executor : ExecutorOutcome
  estimatedBudget : Dict String ℚ
  grants : InvocationGrants := {}
  healthyRefs : Option (List String) := none
  availableExecutionClasses : Option (List ExecutionClass) := none
  actionTimeoutSeconds : ℚ := 30
  clock : InvokeClock

/-- `CapabilityInvocationOutcome` -/
structure CapabilityInvocationOutcome where
  invocation : CapabilityInvocation
  plan : InvocationPlan
  policyDecision : PolicyDecision
  result : CapabilityResult
  observation : Option EphemeralObservation := none
  replay : Bool := false

structure ExecutorCall where
  (taskRunId requestId toolImplId : String)
  nativeArguments : JsonObject
  timeoutSeconds : ℚ

/-- `CapabilityBroker` -/
structure CapabilityBroker where
  registry : CapabilityRegistry
  policy : StaticPolicyEngine
  /-- `canonical_arguments_digest` -/
  argumentsDigest : JsonObject → String
  /-- The head of the hash of a request and its decision. -/
  digest : PolicyRequest → PolicyDecision → String

/-- `_stable_id`: a name-based UUID, which is taken to determine its name. -/
def stableId (value : String) : String := "secfusion:" ++ value

variable (broker : CapabilityBroker)

/-! ## Authorization -/

/-- What an invocation has settled when its policy check is passed. -/
structure Authorized where
  contract : CapabilityContract
  binding : CapabilityBinding
  implementation : ToolImplementation
  policyRequest : PolicyRequest
  decision : PolicyDecision

def checkEnvelope (call : InvokeCall) : Except Raised Unit := do
  let envelope := call.envelope
  let request := call.request
  require (envelope.taskRunId = request.taskRunId)
    (.capabilityDenied "execution_envelope_task_run_mismatch")
  require (envelope.taskContractId = request.taskContractId)
    (.capabilityDenied "execution_envelope_task_contract_mismatch")
  require (envelope.caseId = request.caseId)
    (.capabilityDenied "execution_envelope_case_mismatch")
  require (envelope.policyRevision = broker.policy.policyRevision)
    (.capabilityDenied "execution_envelope_policy_revision_mismatch")
  require (request.capabilityId ∈ envelope.capabilityScope)
    (.capabilityDenied "capability_outside_execution_envelope_scope")
  require (call.clock.checkedAt < envelope.deadlineAt)
    (.capabilityDenied "execution_deadline_reached")

def invocationContext (call : InvokeCall) : JsonObject :=
  [("arguments_digest", .string (broker.argumentsDigest call.request.canonicalArguments)),
    ("budget_ref", .string call.envelope.budgetRef),
    ("capability_id", .string call.request.capabilityId),
    ("evidence_purpose", (call.request.evidencePurpose.map JsonValue.string).getD .null),
    ("intended_effect", .string call.request.intendedEffect.value),
    ("task_contract_id", .string call.request.taskContractId),
    ("task_run_id", .string call.request.taskRunId)]

def invocationRequest (call : InvokeCall) : Except Raised PolicyRequest :=
  if named : isBlank call.request.principal = false ∧
      isBlank call.request.action = false ∧ isBlank call.request.resource = false then
    .ok {
      decisionPoint := .capabilityInvocation
      principal := call.request.principal
      action := call.request.action
      resource := call.request.resource
      context := invocationContext broker call
      named
      complete := rfl }
  else .error (.valueError "PolicyRequest principal/action/resource cannot be empty")

/-- The check of a decision against the grants of the call. -/
def checkGrants (decision : PolicyDecision) (grants : InvocationGrants) : Except Raised Unit := do
  require (decision.authorization = .permit)
    (.capabilityDenied ("policy_" ++ decision.authorization.value))
  let requiredGrants := (decision.constraints ++ decision.obligations).map (·.kind)
  let missing := sortedSet (requiredGrants.filter (· ∉ grants.fulfilledObligationKinds))
  require (∀ kind ∈ requiredGrants, kind ∈ grants.fulfilledObligationKinds)
    (.capabilityDenied ("policy_obligation_unsatisfied:" ++ intercalate "," missing))

/-- `invoke` on a new request, up to the end of its policy check. -/
def authorizeInvocation (call : InvokeCall) : Except Raised Authorized := do
  checkEnvelope broker call
  let contract ← broker.registry.contract call.request.capabilityId call.request.contractRevision
  let requestErrors := validateCapabilityRequest call.task contract call.request
  require (requestErrors = []) (.capabilityDenied
    (intercalate "," (requestErrors.insertionSort (· ≤ ·))))
  let (binding, implementation) ← broker.registry.resolveBinding contract call.healthyRefs
    call.availableExecutionClasses
  let policyRequest ← invocationRequest broker call
  let decision := broker.policy.evaluate policyRequest
  checkGrants decision call.grants
  return { contract, binding, implementation, policyRequest, decision }

/-! ## Execution -/

def reservationGroup (request : CapabilityRequest) : String :=
  "capability:" ++ request.taskRunId ++ ":" ++ request.requestId

def invocationPlan (call : InvokeCall) (authorized : Authorized) : InvocationPlan where
  invocationPlanId := stableId ("invocation-plan:" ++ call.request.taskRunId ++ ":" ++
    call.request.requestId ++ ":" ++ authorized.binding.bindingId)
  capabilityRequestRef := "capability-request:" ++ call.request.requestId
  bindingId := authorized.binding.bindingId
  bindingRevision := authorized.binding.bindingRevision
  resolvedResource := call.request.resource
  resolvedEffect := authorized.contract.effectSemantics
  canonicalArgumentsDigest := broker.argumentsDigest call.request.canonicalArguments
  nativeArgumentsRef := "native-args:" ++ call.request.requestId ++ ":" ++
    ((broker.argumentsDigest call.request.canonicalArguments).take 24).toString
  executionClass := authorized.binding.executionClass
  credentialRequirement := authorized.binding.credentialProfile
  networkRequirement := authorized.binding.networkProfile
  sandboxRequirement := authorized.binding.sandboxProfile
  deadlineAt := call.envelope.deadlineAt
  budgetReservationRef := "budget-reservation:" ++ reservationGroup call.request

def newInvocation (call : InvokeCall) (authorized : Authorized) : CapabilityInvocation where
  invocationId := stableId ("capability-invocation:" ++ call.request.taskRunId ++ ":" ++
    call.request.requestId)
  invocationPlanId := (invocationPlan broker call authorized).invocationPlanId
  policyDecisionRef :=
    broker.policy.decisionRef broker.digest authorized.policyRequest authorized.decision
  credentialGrantRef := call.grants.credentialGrantRef
  networkGrantRef := call.grants.networkGrantRef
  sandboxInstanceRef := call.grants.sandboxInstanceRef
  startedAt := call.clock.startedAt

/-- The audit row that is flushed before the execution. -/
def newAudit (call : InvokeCall) (authorized : Authorized) : CapabilityInvocationModel where
  invocationId := (newInvocation broker call authorized).invocationId
  taskRunId := call.request.taskRunId
  caseId := call.request.caseId
  requestId := call.request.requestId
  capabilityId := authorized.contract.capabilityId
  contractRevision := authorized.contract.contractRevision
  bindingId := authorized.binding.bindingId
  bindingRevision := authorized.binding.bindingRevision
  toolImplId := authorized.implementation.toolImplId
  implementationRevision := authorized.implementation.implementationRevision
  requestJson := call.request
  planJson := invocationPlan broker call authorized
  policyDecisionRef := (newInvocation broker call authorized).policyDecisionRef
  policyDecisionJson := authorized.decision
  argumentsDigest := broker.argumentsDigest call.request.canonicalArguments
  startedAt := call.clock.startedAt

/-- `_map_native_arguments`. -/
def mapNativeArguments (canonical : JsonObject) (mapping : Dict String String) : JsonObject :=
  canonical.foldl (fun result field =>
    JsonObject.set result (mapping.getD field.1 field.1) field.2) []

def executorCall (call : InvokeCall) (authorized : Authorized) : ExecutorCall where
  taskRunId := call.request.taskRunId
  requestId := call.request.requestId
  toolImplId := authorized.implementation.toolImplId
  nativeArguments := mapNativeArguments call.request.canonicalArguments
    authorized.binding.canonicalToNativeArgs
  timeoutSeconds := boundedTimeoutSeconds call.envelope call.clock.startedAt
    call.actionTimeoutSeconds

/-! ## Settlement -/

def failedResult (invocationId exceptionName : String) : CapabilityResult where
  invocationId
  status := .failed
  observationClass := "none"
  failureCode := some "executor_exception"
  failureDetail := some exceptionName

/-- The result that a native one is turned into. -/
def resultOf (invocationId : String) (native : NativeExecutionResult) : CapabilityResult where
  invocationId
  status := native.status
  canonicalOutputRef := native.canonicalOutputRef
  rawArtifactRef := native.rawArtifactRef
  effectReceiptRef := native.effectReceiptRef
  observationClass := native.observationClass
  provenance := native.provenance
  latency := native.latency
  cost := native.cost
  failureCode := native.failureCode
  failureDetail := native.failureDetail

/-- `result.raw_artifact_ref or result.canonical_output_ref` -/
def rawResultRef? (result : CapabilityResult) : Option String :=
  match result.rawArtifactRef with
  | some ref => if ref = "" then result.canonicalOutputRef else some ref
  | none => result.canonicalOutputRef

/-- The texts of an observation, with the names under which they are refused. -/
def observationTexts (call : InvokeCall) (implementation : ToolImplementation) (rawRef : String) :
    List (String × String) :=
  [(stableId ("ephemeral-observation:" ++ call.request.taskRunId ++ ":" ++
      call.request.requestId), "observation_id"),
    (call.request.requestId, "request_id"), (call.request.capabilityId, "capability_id"),
    ("tool:" ++ implementation.toolImplId ++ "@" ++ toString implementation.implementationRevision,
      "source"),
    (rawRef, "raw_result_ref"), ("untrusted_tool_output", "trust_label")]

/-- `_ephemeral_observation`. -/
def ephemeralObservation (call : InvokeCall) (implementation : ToolImplementation)
    (result : CapabilityResult) (native : NativeExecutionResult) :
    Except Raised (Option EphemeralObservation) :=
  if result.status ≠ .succeeded ∧ result.status ≠ .partially then .ok none
  else
    match rawResultRef? result with
    | none => .ok none
    | some rawRef =>
        let texts := observationTexts call implementation rawRef
        if named : ∀ text ∈ texts.map Prod.fst, ¬ isBlank text then
          .ok (some {
            observationId := stableId ("ephemeral-observation:" ++ call.request.taskRunId ++ ":" ++
              call.request.requestId)
            requestId := call.request.requestId
            capabilityId := call.request.capabilityId
            source := "tool:" ++ implementation.toolImplId ++ "@" ++
              toString implementation.implementationRevision
            provenance := JsonObject.update
              [("implementation_kind", .string implementation.implementationKind.value),
                ("server_identity",
                  (implementation.serverIdentity.map JsonValue.string).getD .null)]
              native.provenance
            observedAt := call.clock.observedAt
            rawResultRef := rawRef
            extractedCandidates := native.extractedCandidates
            trustLabel := "untrusted_tool_output"
            ttlSeconds := native.observationTtlSeconds
            ttl_pos := native.ttl_pos
            named })
        else
          let label := ((texts.find? fun text => isBlank text.1).map Prod.snd).getD ""
          .error (.valueError ("EphemeralObservation " ++ label ++ " cannot be empty"))

/-- `_finish_audit`. -/
def finishAudit (result : CapabilityResult) (observation : Option EphemeralObservation)
    (finishedAt : ℤ) (audit : CapabilityInvocationModel) : CapabilityInvocationModel :=
  { audit with
    resultJson := some result
    observationJson := observation
    status := .finished result.status
    finishedAt := some finishedAt
    failureCode := result.failureCode
    failureDetail := result.failureDetail }

theorem finishAudit_id (result : CapabilityResult) (observation : Option EphemeralObservation)
    (finishedAt : ℤ) (audit : CapabilityInvocationModel) :
    (finishAudit result observation finishedAt audit).invocationId = audit.invocationId := rfl

/-- What `invoke` does after the execution: it commits the budget, and finishes the audit row. -/
def settleInvocation (store : CapabilityStore) (call : InvokeCall) (authorized : Authorized) :
    Except Raised (CapabilityInvocationOutcome × CapabilityStore) := do
  let invocation := newInvocation broker call authorized
  let plan := invocationPlan broker call authorized
  let finish (ledger : Budget.Ledger) (result : CapabilityResult)
      (observation : Option EphemeralObservation) : CapabilityStore :=
    { ledger
      invocations := store.invocations.update invocation.invocationId
        (finishAudit result observation call.clock.finishedAt)
        (finishAudit_id result observation call.clock.finishedAt) }
  match call.executor with
  | .aborted name => .error (.baseException name)
  | .raised name => do
      let (_, ledger) ← Budget.commit store.ledger call.envelope.budgetRef
        (reservationGroup call.request) call.estimatedBudget false
      let failed := failedResult invocation.invocationId name
      return ({ invocation, plan, policyDecision := authorized.decision, result := failed },
        finish ledger failed none)
  | .returned native => do
      let (_, ledger) ← Budget.commit store.ledger call.envelope.budgetRef
        (reservationGroup call.request) native.consumedBudget false
      let result := resultOf invocation.invocationId native
      let observation ← ephemeralObservation call authorized.implementation result native
      return ({ invocation, plan, policyDecision := authorized.decision, result, observation },
        finish ledger result observation)

/-! ## The call -/

/-- `_replay_outcome`. -/
def replayOutcome (model : CapabilityInvocationModel) :
    Except Raised CapabilityInvocationOutcome := do
  let result ← fetch (if model.finishedAt.isSome then model.resultJson else none)
    (.runtimeError "capability invocation is already running and cannot be replayed yet")
  return {
    invocation := {
      invocationId := model.invocationId
      invocationPlanId := model.planJson.invocationPlanId
      policyDecisionRef := model.policyDecisionRef
      startedAt := model.startedAt }
    plan := model.planJson
    policyDecision := model.policyDecisionJson
    result
    observation := model.observationJson
    replay := true }

/-- What an authorized invocation stores before the execution. -/
def beginInvocation (store : CapabilityStore) (call : InvokeCall) (authorized : Authorized) :
    Except Raised CapabilityStore := do
  let (_, ledger) ← Budget.reserve store.ledger call.envelope.budgetRef
    (reservationGroup call.request) call.estimatedBudget none
  let invocations ← fetch (store.invocations.insert? (newAudit broker call authorized))
    (.integrityError "capability_invocations_pkey")
  return { ledger, invocations }

/-- `CapabilityBroker.invoke`. -/
def invoke (store : CapabilityStore) (call : InvokeCall) :
    List ExecutorCall × Except Raised (CapabilityInvocationOutcome × CapabilityStore) :=
  match store.invocationOf? call.request.taskRunId call.request.requestId with
  | some existing => ([], do
      let outcome ← replayOutcome existing
      return (outcome, store))
  | none =>
      match authorizeInvocation broker call with
      | .error raised => ([], .error raised)
      | .ok authorized =>
          match beginInvocation broker store call authorized with
          | .error raised => ([], .error raised)
          | .ok begun =>
              ([executorCall call authorized], settleInvocation broker begun call authorized)

end SecFusion.Capability
