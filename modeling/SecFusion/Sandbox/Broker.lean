import SecFusion.Execution.Envelope
import SecFusion.Policy.Engine
import SecFusion.Sandbox.Contracts
import SecFusion.TaskRuntime.Contracts

/-!
# The sandbox broker

The model of `SandboxBroker`: its four operations over the stored envelopes, the instances
and the audit rows of executions.

A backend is outside of the transaction: what it was asked to do stays done when the rows
are rolled back.  So each operation answers two things, the calls it made to a backend and
what became of its transaction; how the backend behaves is an argument.
-/

namespace SecFusion.Sandbox

open Foundations Execution Policy

/-! ## Storage -/

/-- `SandboxStatus` -/
inductive SandboxStatus where
  | active
  | destroyed
  | failed
  deriving DecidableEq

/-- One row of `sandbox_instances`. -/
structure SandboxInstanceModel where
  (instanceId executionId taskRunId requestId profileId profileRevision backend : String)
  backendHandleRef : Option String
  requestJson : SandboxCreateRequest
  leaseJson : SandboxLeaseSpec
  policyDecisionRef : String
  policyDecisionJson : PolicyDecision
  status : SandboxStatus
  createdAt : ℤ
  destroyedAt : Option ℤ := none
  failureCode : Option String := none

/-- One row of `sandbox_executions`. -/
structure SandboxExecutionModel where
  (sandboxExecutionId instanceId operationId : String)
  requestJson : SandboxExecRequest
  resultJson : Option SandboxExecResult := none
  status : String
  timeoutSeconds : ℚ
  startedAt : ℤ
  finishedAt : Option ℤ := none
  failureCode : Option String := none

/-- The tables that the broker reads and writes. -/
structure SandboxStore where
  runs : ExecutionRuns
  instances : Table SandboxInstanceModel String (·.instanceId)
  executions : Table SandboxExecutionModel String (·.sandboxExecutionId)

/-- The store before any call. -/
def SandboxStore.empty : SandboxStore := ⟨.empty, .empty, .empty⟩

/-- `SandboxInstance` -/
structure SandboxInstance where
  (instanceId executionId taskRunId profileId profileRevision backend backendHandleRef : String)
  status : SandboxStatus
  createdAt : ℤ

/-- `_stable_id`: a name-based UUID, which is taken to determine its name. -/
def stableId (value : String) : String := "secfusion:" ++ value

/-- `_instance_view`. -/
def instanceView (model : SandboxInstanceModel) : Except Raised SandboxInstance := do
  let handle ← fetch model.backendHandleRef
    (.sandboxUnavailable (model.failureCode.getD "sandbox_instance_unavailable"))
  return {
    instanceId := model.instanceId
    executionId := model.executionId
    taskRunId := model.taskRunId
    profileId := model.profileId
    profileRevision := model.profileRevision
    backend := model.backend
    backendHandleRef := handle
    status := model.status
    createdAt := model.createdAt }

/-- The audit row of an operation of an instance. -/
def SandboxStore.executionOf? (store : SandboxStore) (instanceId operationId : String) :
    Option SandboxExecutionModel :=
  store.executions.rows.find? fun row => row.instanceId = instanceId ∧ row.operationId = operationId

/-! ## Backends -/

inductive BackendCall where
  | create (lease : SandboxLeaseSpec)
  | exec (instanceId handle : String) (request : SandboxExecRequest) (timeoutSeconds : ℚ)
      (startedAt : ℤ)
  | export (handle : String) (relativePaths : List String)
  | destroy (handle : String)
  deriving DecidableEq

/-- The calls that an operation made, and what became of its transaction. -/
abbrev Brokered (α : Type) := List BackendCall × Except Raised α

/-- `SandboxBroker`, with what its constructor makes of its arguments. -/
structure SandboxBroker where
  policy : StaticPolicyEngine
  /-- The names of the configured backends. -/
  backends : List String
  profiles : Dict IsolationClass SandboxProfile := defaultSandboxProfiles
  available : List String
  /-- The head of the hash of a request and its decision. -/
  digest : PolicyRequest → PolicyDecision → String

variable (broker : SandboxBroker)

/-! ## Creation -/

theorem isBlank_append {head : String} (visible : isBlank head = false) (rest : String) :
    isBlank (head ++ rest) = false := by
  unfold isBlank at visible ⊢
  rw [toList_append, List.all_append, visible, Bool.false_and]

/-- The request that a creation puts to the policy. -/
def selectionRequest (task : TaskRuntime.TaskContract) (envelope : ExecutionEnvelope)
    (profile : SandboxProfile) : PolicyRequest where
  decisionPoint := .sandboxSelection
  principal := task.principal
  action := "sandbox.create"
  resource := "sandbox-profile:" ++ profile.profileId
  context := [("execution_id", .string envelope.executionId),
    ("sandbox_profile", .string profile.ref), ("task_contract_id", .string task.taskContractId),
    ("task_run_id", .string envelope.taskRunId)]
  named := ⟨by simpa using task.principal_nonblank, by decide, isBlank_append (by decide) _⟩
  complete := rfl

def requiredKinds (decision : PolicyDecision) : List String :=
  (decision.constraints ++ decision.obligations).map (·.kind)

/-- `_enforce_policy_decision`. -/
def enforcePolicyDecision (decision : PolicyDecision) (fulfilledObligationKinds : List String) :
    Except Raised Unit := do
  require (decision.authorization = .permit)
    (.sandboxUnavailable ("sandbox_policy_" ++ decision.authorization.value))
  let missing := sortedSet
    ((requiredKinds decision).filter (· ∉ fulfilledObligationKinds))
  require (missing = []) (.sandboxUnavailable
    ("sandbox_policy_obligation_unsatisfied:" ++ intercalate "," missing))

/-- What a creation has settled before it calls a backend. -/
structure CreatePlan where
  profile : SandboxProfile
  decision : PolicyDecision
  decisionRef : String
  lease : SandboxLeaseSpec

/-- The checks of `create` up to the one of the selected profile. -/
def selectedProfile (store : SandboxStore) (envelope : ExecutionEnvelope)
    (request : SandboxCreateRequest) (grants : SandboxGrants) : Except Raised SandboxProfile := do
  let persistedEnvelope ← getExecution store.runs envelope.executionId
  require (persistedEnvelope = envelope)
    (.sandboxUnavailable "sandbox_execution_envelope_mismatch")
  let selection := selectSandboxProfile request.minimumIsolation broker.available broker.profiles
  let profile ← fetch (if selection.available then selection.profile else none)
    (.sandboxUnavailable (selection.reason.getD "sandbox_unavailable"))
  require (envelope.sandboxProfileRevision = profile.ref)
    (.sandboxUnavailable "sandbox_profile_revision_mismatch")
  require (profile.backend ∈ broker.backends)
    (.sandboxUnavailable "sandbox_backend_adapter_unavailable")
  require (∀ scope ∈ request.credentialScope, scope ∈ envelope.identityScope)
    (.sandboxUnavailable "sandbox_credential_scope_exceeds_execution_identity")
  validateRequestAgainstProfile request profile grants
  return profile

/-- `create` on a new request, up to the call of the backend. -/
def planCreate (store : SandboxStore) (task : TaskRuntime.TaskContract)
    (envelope : ExecutionEnvelope) (request : SandboxCreateRequest) (grants : SandboxGrants) :
    Except Raised CreatePlan := do
  let profile ← selectedProfile broker store envelope request grants
  let policyRequest := selectionRequest task envelope profile
  let decision := broker.policy.evaluate policyRequest
  enforcePolicyDecision decision grants.fulfilledObligationKinds
  return {
    profile, decision
    decisionRef := broker.policy.decisionRef broker.digest policyRequest decision
    lease := {
      executionId := envelope.executionId
      taskRunId := envelope.taskRunId
      profile
      workspaceArtifactRefs := request.workspaceArtifactRefs
      readonlyArtifactRefs := request.readonlyArtifactRefs
      writablePaths := request.requestedWritablePaths
      networkDestinations := request.networkDestinations
      networkGrantRef := grants.networkGrantRef
      credentialScope := request.credentialScope
      credentialGrantRef := grants.credentialGrantRef } }

def newInstance (envelope : ExecutionEnvelope) (request : SandboxCreateRequest)
    (plan : CreatePlan) (handle : String) (now : ℤ) : SandboxInstanceModel where
  instanceId := stableId ("sandbox-instance:" ++ envelope.executionId ++ ":" ++ request.requestId)
  executionId := envelope.executionId
  taskRunId := envelope.taskRunId
  requestId := request.requestId
  profileId := plan.profile.profileId
  profileRevision := plan.profile.revision
  backend := plan.profile.backend
  backendHandleRef := some handle
  requestJson := request
  leaseJson := plan.lease
  policyDecisionRef := plan.decisionRef
  policyDecisionJson := plan.decision
  status := .active
  createdAt := now

/-- `SandboxBroker.create`; `answer` is what the backend makes of the lease. -/
def create (store : SandboxStore) (task : TaskRuntime.TaskContract) (envelope : ExecutionEnvelope)
    (request : SandboxCreateRequest) (grants : SandboxGrants) (answer : Except Raised String)
    (now : ℤ) : Brokered (SandboxInstance × SandboxStore) :=
  match store.instances.rows.find? fun row =>
      row.executionId = envelope.executionId ∧ row.requestId = request.requestId with
  | some existing => ([], do
      require (existing.status = .active ∧ existing.backendHandleRef.isSome)
        (.sandboxUnavailable (existing.failureCode.getD "sandbox_instance_unavailable"))
      let view ← instanceView existing
      return (view, store))
  | none =>
      match planCreate broker store task envelope request grants with
      | .error raised => ([], .error raised)
      | .ok plan => ([.create plan.lease], do
          let handle ← answer
          let model := newInstance envelope request plan handle now
          let instances ← fetch (store.instances.insert? model)
            (.integrityError "sandbox_instances_pkey")
          let view ← instanceView model
          return (view, { store with instances }))

/-! ## Execution -/

/-- `_finish_exec_audit`. -/
def finishExecAudit (result : SandboxExecResult) (model : SandboxExecutionModel) :
    SandboxExecutionModel :=
  { model with
    resultJson := some result
    status := result.status
    finishedAt := some result.finishedAt
    failureCode := result.failureCode }

theorem finishExecAudit_id (result : SandboxExecResult) (model : SandboxExecutionModel) :
    (finishExecAudit result model).sandboxExecutionId = model.sandboxExecutionId := rfl

/-- The audit row that `exec` flushes before it calls a backend. -/
def newExecution (instanceId : String) (request : SandboxExecRequest) (timeout : ℚ)
    (startedAt : ℤ) : SandboxExecutionModel where
  sandboxExecutionId := stableId ("sandbox-exec:" ++ instanceId ++ ":" ++ request.operationId)
  instanceId := instanceId
  operationId := request.operationId
  requestJson := request
  status := "running"
  timeoutSeconds := timeout
  startedAt := startedAt

/-- The timeout of an execution: that of the caller's envelope, within the wall timeout of
the profile. -/
def execTimeout (envelope : ExecutionEnvelope) (profile : SandboxProfile)
    (request : SandboxExecRequest) (now : ℤ) : ℚ :=
  let timeout := boundedTimeoutSeconds envelope now request.requestedTimeoutSeconds
  match profile.wallTimeoutSeconds with
  | some wall => min timeout wall
  | none => timeout

/-- The instance that `exec` finds, which it takes to be that of the envelope. -/
def execInstance (store : SandboxStore) (envelope : ExecutionEnvelope) (instanceId : String) :
    Except Raised (SandboxInstanceModel × String) := do
  let model ← fetch (store.instances.get? instanceId)
    (.lookupError ("sandbox instance not found: " ++ instanceId))
  require (model.executionId = envelope.executionId)
    (.valueError "sandbox instance escapes ExecutionEnvelope")
  let handle ← fetch (if model.status = .active then model.backendHandleRef else none)
    (.sandboxUnavailable "sandbox_instance_not_active")
  return (model, handle)

/-- `exec` on an operation that has an audit row. -/
def execReplay (store : SandboxStore) (existing : SandboxExecutionModel) :
    Except Raised (SandboxExecResult × SandboxStore) := do
  let result ← fetch (if existing.finishedAt.isSome then existing.resultJson else none)
    (.runtimeError "sandbox operation is already running")
  return ({ result with replay := true }, store)

/-- What an execution answers when no time is left. -/
def expiredResult (audit : SandboxExecutionModel) (finishedAt : ℤ) : SandboxExecResult where
  sandboxExecutionId := audit.sandboxExecutionId
  operationId := audit.operationId
  status := "timed_out"
  timeoutSeconds := 0
  startedAt := audit.startedAt
  finishedAt := finishedAt
  failureCode := some "execution_deadline_reached"

def completedResult (audit : SandboxExecutionModel) (native : SandboxBackendExecResult)
    (finishedAt : ℤ) : SandboxExecResult where
  sandboxExecutionId := audit.sandboxExecutionId
  operationId := audit.operationId
  status := native.status
  exitCode := native.exitCode
  stdoutArtifactRef := native.stdoutArtifactRef
  stderrArtifactRef := native.stderrArtifactRef
  timeoutSeconds := audit.timeoutSeconds
  startedAt := audit.startedAt
  finishedAt := finishedAt
  failureCode := native.failureCode

/-- The readings of the clock in one call of `exec`. -/
structure ExecClock where
  /-- From which the timeout is computed. -/
  (now startedAt finishedAt : ℤ)

/-- `exec` on a new operation of an instance, with its audit row. -/
def execNew (store : SandboxStore) (model : SandboxInstanceModel) (handle : String)
    (request : SandboxExecRequest) (audit : SandboxExecutionModel)
    (answer : Except Raised SandboxBackendExecResult) (finishedAt : ℤ) :
    Brokered (SandboxExecResult × SandboxStore) :=
  match store.executions.insert? audit with
  | none => ([], .error (.integrityError "sandbox_executions_pkey"))
  | some executions =>
      let finish (result : SandboxExecResult) : SandboxStore :=
        { store with
          executions := executions.update audit.sandboxExecutionId (finishExecAudit result)
            (finishExecAudit_id result) }
      if audit.timeoutSeconds ≤ 0 then
        let result := expiredResult audit finishedAt
        ([], .ok (result, finish result))
      else if model.backend ∉ broker.backends then
        ([], .error (.sandboxUnavailable "sandbox_backend_adapter_unavailable"))
      else
        ([.exec model.instanceId handle request audit.timeoutSeconds audit.startedAt], do
          let native ← answer
          let result := completedResult audit native finishedAt
          validateBackendArtifactRefs result
          return (result, finish result))

/-- `SandboxBroker.exec`; `answer` is what the backend makes of the request. -/
def exec (store : SandboxStore) (envelope : ExecutionEnvelope) (instanceId : String)
    (request : SandboxExecRequest) (answer : Except Raised SandboxBackendExecResult)
    (clock : ExecClock) : Brokered (SandboxExecResult × SandboxStore) :=
  match execInstance store envelope instanceId with
  | .error raised => ([], .error raised)
  | .ok (model, handle) =>
      match store.executionOf? instanceId request.operationId with
      | some existing => ([], execReplay store existing)
      | none =>
          let timeout := execTimeout envelope model.leaseJson.profile request clock.now
          execNew broker store model handle request
            (newExecution instanceId request timeout clock.startedAt) answer clock.finishedAt

/-! ## Export and destruction -/

/-- The checks of `export`, which answer the handle. -/
def exportHandle (store : SandboxStore) (instanceId : String) (relativePaths : List String) :
    Except Raised String := do
  let model ← fetch (store.instances.get? instanceId)
    (.lookupError ("sandbox instance not found: " ++ instanceId))
  let handle ← fetch (if model.status = .active then model.backendHandleRef else none)
    (.sandboxUnavailable "sandbox_instance_not_active")
  require (model.leaseJson.profile.artifactExportPolicy = "explicit")
    (.sandboxUnavailable "sandbox_artifact_export_disabled")
  relativePaths.forM validateRelativeExportPath
  require (model.backend ∈ broker.backends)
    (.sandboxUnavailable "sandbox_backend_adapter_unavailable")
  return handle

/-- `SandboxBroker.export`. -/
def exportArtifacts (store : SandboxStore) (instanceId : String) (relativePaths : List String)
    (answer : Except Raised (List String)) : Brokered (List String × SandboxStore) :=
  match exportHandle broker store instanceId relativePaths with
  | .error raised => ([], .error raised)
  | .ok handle => ([.export handle relativePaths], do
      let refs ← answer
      require (∀ ref ∈ refs, isArtifactRef ref = true)
        (.runtimeError "sandbox backend returned non-ArtifactRef export")
      return (refs, store))

def SandboxInstanceModel.asDestroyed (now : ℤ) (model : SandboxInstanceModel) :
    SandboxInstanceModel :=
  { model with status := .destroyed, destroyedAt := some now }

theorem SandboxInstanceModel.asDestroyed_id (now : ℤ) (model : SandboxInstanceModel) :
    (model.asDestroyed now).instanceId = model.instanceId := rfl

/-- `SandboxBroker.destroy`. -/
def destroy (store : SandboxStore) (instanceId : String) (answer : Except Raised Unit) (now : ℤ) :
    Brokered (Unit × SandboxStore) :=
  let destroyed : SandboxStore :=
    { store with
      instances := store.instances.update instanceId (SandboxInstanceModel.asDestroyed now)
        (SandboxInstanceModel.asDestroyed_id now) }
  match store.instances.get? instanceId with
  | none => ([], .error (.lookupError ("sandbox instance not found: " ++ instanceId)))
  | some model =>
      if model.status = .destroyed then ([], .ok ((), store))
      else
        match model.backendHandleRef with
        | none => ([], .ok ((), destroyed))
        | some handle =>
            if model.backend ∉ broker.backends then
              ([], .error (.sandboxUnavailable "sandbox_backend_adapter_unavailable"))
            else
              ([.destroy handle], do
                answer
                return ((), destroyed))

end SecFusion.Sandbox
