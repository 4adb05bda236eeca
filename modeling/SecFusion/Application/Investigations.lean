import SecFusion.Application.DecisionRuns

/-!
# The commands of an investigation

The model of `apps/application/commands/start_investigation.py`,
`investigation_lifecycle.py` and `apps/application/queries/ownership.py`, with the
validation at the end of a task admission.  An investigation is started with its case, a
first need and a controller (a run of `InvestigationRole`); a follow-up adds a need and a
controller to a case that has none at work; a cancellation ends the case and every run
of it.

The owner of a case is read off its runs (`investigationOwner`): the principal of its
latest controller.  A follow-up compares no principals.

What the queries of the knowledge tables answer that are not about evidence are
functions here (`KnowledgeReads`).
-/

namespace SecFusion.Application

open Foundations Intelligence Execution TaskRuntime Investigation Reasoning

/-! ## The owner of a case -/

/-- The runs that bear the identifier of a case. -/
def runsOfCase (tasks : TaskStore) (caseId : String) : List TaskRunModel :=
  tasks.runs.select fun run => run.caseId = some caseId

/-- `TaskRunModel.role_id == "InvestigationRole"`. -/
def isController (run : TaskRunModel) : Bool := run.roleId = "InvestigationRole"

/-- `created_at.desc(), run_id.desc()`. -/
def CreatedLater (first second : TaskRunModel) : Prop :=
  second.createdAt < first.createdAt ∨
    (first.createdAt = second.createdAt ∧ second.runId ≤ first.runId)

instance createdLaterDecidable (first second : TaskRunModel) :
    Decidable (CreatedLater first second) :=
  inferInstanceAs (Decidable (_ ∨ _))

/-- The order of `investigation_owner`: the controllers stand first. -/
def OwnsBefore (first second : TaskRunModel) : Prop :=
  (isController first = true ∧ isController second = false) ∨
    (isController first = isController second ∧ CreatedLater first second)

instance ownsBeforeDecidable (first second : TaskRunModel) : Decidable (OwnsBefore first second) :=
  inferInstanceAs (Decidable (_ ∨ _))

def contractRow? (tasks : TaskStore) (run : TaskRunModel) : Option TaskContractVersionModel :=
  tasks.contracts.get? run.taskContractVersionId

def principalOf? (tasks : TaskStore) (run : TaskRunModel) : Option String :=
  (contractRow? tasks run).map (·.contractJson.principal)

/-- `investigation_owner`. -/
def investigationOwner (tasks : TaskStore) (caseId : String) : Option String :=
  ((((runsOfCase tasks caseId).filter fun run => (principalOf? tasks run).isSome).insertionSort
    OwnsBefore).head?).bind (principalOf? tasks)

/-- The contract is a user's, or made for one. -/
def isPrivate (contract : TaskContract) : Bool :=
  isUserOwned contract || contract.onBehalfOf.any fun user => (afterHead? "user:" user).isSome

/-- `public_system_case`. -/
def publicSystemCase (tasks : TaskStore) (caseId : String) : Bool :=
  (investigationOwner tasks caseId).any (fun owner => (afterHead? "system:" owner).isSome) &&
    !(runsOfCase tasks caseId).any fun run =>
      (contractRow? tasks run).any fun row => isPrivate row.contractJson

def investigationNotFound : Raised :=
  .applicationError .resourceNotFound "investigation not found"

/-- `InvestigationQueries.require_access`. -/
def requireAccess (tasks : TaskStore) (caseId principal : String) : Except Raised Unit :=
  require (investigationOwner tasks caseId = some principal ∨ publicSystemCase tasks caseId = true)
    investigationNotFound

/-- The run of some that was created last. -/
def latestOf (runs : List TaskRunModel) : Option TaskRunModel :=
  (runs.insertionSort CreatedLater).head?

def profileOfRun? (executions : ExecutionStore) (run : TaskRunModel) : Option String :=
  (executions.runs.rows.find? fun envelope => envelope.taskRunId = run.runId).map fun envelope =>
    envelope.envelopeJson.executionProfile.value

/-- `InvestigationView`, as far as the commands read it. -/
structure InvestigationView where
  caseId : String
  targetObjectIds : List String
  executionProfile : Option String

/-- The execution profile of a view: of the latest run, or, when that is the run of a
decision, of the latest controller with an execution. -/
def viewProfile (store : ProductStore) (caseId : String) : Option String :=
  let runs := (runsOfCase store.tasks caseId).filter fun run =>
    (principalOf? store.tasks run).isSome
  let controllers := (runsOfCase store.tasks caseId).filter fun run =>
    isController run && (profileOfRun? store.executions run).isSome
  (latestOf runs).bind fun run =>
    if run.roleId = "DecisionRole" then
      ((latestOf controllers).bind (profileOfRun? store.executions)).or
        (profileOfRun? store.executions run)
    else profileOfRun? store.executions run

/-- `InvestigationQueries.get`. -/
def getInvestigation (store : ProductStore) (caseId principal : String) :
    Except Raised InvestigationView := do
  let row ← fetch (store.cases.cases.get? caseId) investigationNotFound
  requireAccess store.tasks caseId principal
  return { caseId, targetObjectIds := row.targetObjectIds
           executionProfile := viewProfile store caseId }

/-! ## Admission -/

/-- What the commands that launch runs are configured with. -/
structure LaunchSettings extends ProductSettings where
  tokenReservation : ℕ := 32768
  maxAttempts : ℕ := 3

/-- `_validate_compiled_contract`.  The commands ask for revision 1, on behalf of nobody. -/
def validateCompiledContract (request : TaskAdmissionRequest) (contract : TaskContract) :
    Except Raised Unit := do
  require (contract.contractRevision = 1)
    (.valueError "TaskContract compiler changed requested contract revision")
  require (contract.principal = request.principal ∧ contract.onBehalfOf = none)
    (.valueError "TaskContract compiler changed admission principal")
  require (contract.policyRevision = request.policyRevision)
    (.valueError "TaskContract compiler changed admission policy revision")
  require (contract.taskKind = request.intent.candidateTaskKind)
    (.valueError "TaskContract compiler changed admitted task kind")

/-- `TaskContractService.admit`: `admitTask` is the compiler and the authorizer. -/
def admitContract (settings : ProductSettings) (request : TaskAdmissionRequest) :
    Except Raised TaskContract := do
  let contract ← settings.admitTask request
  validateCompiledContract request contract
  return contract

theorem admitContract_ok {settings : ProductSettings} {request : TaskAdmissionRequest}
    {contract : TaskContract} (admitted : admitContract settings request = .ok contract) :
    contract.principal = request.principal := by
  unfold admitContract validateCompiledContract at admitted
  obtain ⟨compiled, -, admitted⟩ := bind_eq_ok.1 admitted
  obtain ⟨_, valid, admitted⟩ := bind_eq_ok.1 admitted
  simp only [require_bind_eq_ok] at valid
  cases admitted
  exact valid.2.1.1

/-! ## Launching a run -/

/-- `Decimal(count)`. -/
def decimalCount (count : ℕ) : Budget.Decimal := { digits := count }

theorem decimalCount_nonneg (count : ℕ) : 0 ≤ (decimalCount count).toRat := by
  unfold Budget.Decimal.toRat decimalCount
  simp

def countLimits (counts : Dict String ℕ)
    (named : ∀ entry ∈ counts.entries, isBlank entry.1 = false) : Budget.BudgetLimits where
  quantities := counts.mapEntries fun _ count => decimalCount count
  resource_nonblank := by
    intro entry member
    obtain ⟨⟨resource, count⟩, counted, rfl⟩ := mem_map.1 member
    exact named _ counted
  quantity_nonneg := by
    intro entry member
    obtain ⟨⟨resource, count⟩, -, rfl⟩ := mem_map.1 member
    exact decimalCount_nonneg count

/-- The counts of a controller's budget. -/
def launchCounts (settings : LaunchSettings) (agentTurns toolCalls : ℕ) : Dict String ℕ where
  entries :=
    [("agent_turns", agentTurns), ("tool_calls", toolCalls),
      ("model_tokens", agentTurns * settings.tokenReservation * settings.maxAttempts),
      ("retries", agentTurns * (settings.maxAttempts - 1))]
  nodup := by simp

theorem launchCounts_named (settings : LaunchSettings) (agentTurns toolCalls : ℕ) :
    ∀ entry ∈ (launchCounts settings agentTurns toolCalls).entries,
      isBlank entry.1 = false := by
  intro entry member
  have named : ∀ name ∈ ["agent_turns", "tool_calls", "model_tokens", "retries"],
      isBlank name = false := by decide
  exact named entry.1 (mem_map_of_mem (f := Prod.fst) member)

/-- The arguments of `InvestigationTaskLauncher.launch`. -/
structure LaunchRequest where
  caseId : String
  taskKind : TaskKind
  requiredNeedIds : List String
  (principal triggerRef surface requestId : String)
  traceId : Option String
  allowWait : Bool
  (timeoutSeconds agentTurns toolCalls : ℕ)

/-- What a transaction of a command draws: also the identifiers of what it creates. -/
structure CommandDraw extends Drawn where
  (caseId needId runId sessionId turnId : String)

/-- What a transaction reads of the knowledge: the tables that evidence is checked
against, `get_vulnerability_by_cve`, and `_investigation_capability_scope`. -/
structure KnowledgeReads where
  knowledge : KnowledgeStore
  vulnerability? : String → Option String
  capabilityScope : List String → List String

/-- `_execution_profile`. -/
def executionProfileOf : TaskKind → ExecutionProfile
  | .verifyVersionFix => .verify
  | .watchIncident => .watch
  | .lookup | .retrieve | .resolveConflict | .investigateRelation | .investigateIncident
  | .researchInsight | .assessNormativeApplicability | .observeLiveAsset | .enrichment =>
      .investigate

def launchAdmission (settings : LaunchSettings) (row : InvestigationCaseModel)
    (request : LaunchRequest) : TaskAdmissionRequest where
  intent :=
    { triggerRef := request.triggerRef, candidateTaskKind := request.taskKind
      candidateTargets := request.caseId :: row.targetObjectIds
      requestedActions := ["investigate_case"] }
  principal := request.principal
  policyRevision := settings.policyRevision
  bindingContext := [("allow_wait", .bool request.allowWait), ("case_id", .string request.caseId),
    ("required_need_ids", textItems request.requiredNeedIds),
    ("target_object_ids", textItems row.targetObjectIds)]

/-- `state.last_world_revision or case.initial_knowledge_revision or 0`. -/
def launchRevision (state : InvestigationState) (row : InvestigationCaseModel) : ℕ :=
  ((state.lastWorldRevision.filter (· ≠ 0)).or row.initialKnowledgeRevision).getD 0

def launchManifest (settings : LaunchSettings) (row : InvestigationCaseModel)
    (state : InvestigationState) (contract : TaskContract) (scope : List String)
    (request : LaunchRequest) (runId : String) : ContextManifest where
  contextId := "context:" ++ runId
  contextRevision := 1
  revision_pos := Nat.one_pos
  taskContractRef := taskContractRef contract
  roleRef := "InvestigationRole@1"
  caseRef := some request.caseId
  knowledgeRevision := some (launchRevision state row)
  investigationStateRef := some (stateRef request.caseId state.caseRevision)
  objectRefs := row.targetObjectIds
  policyContextRef := "policy-context:" ++ settings.policyRevision
  capabilityEnvelopeRef :=
    if scope = [] then "capability:investigation:local-v1"
    else "capability:investigation:external-v3"
  budgetRef := "budget:" ++ runId

/-- A field that is left out when its text is missing or empty. -/
def givenField (name : String) : Option String → JsonObject
  | some text => if text = "" then [] else [(name, .string text)]
  | none => []

def launchTrace (request : LaunchRequest) : JsonObject :=
  givenField "request_id" (some request.requestId) ++ [("surface", .string request.surface)] ++
    givenField "trace_id" request.traceId ++ [("trigger_ref", .string request.triggerRef)]

def launchEnvelope (contract : TaskContract) (scope : List String) (request : LaunchRequest)
    (runId policyRevision : String) (now : ℤ) : Except Raised ExecutionEnvelope :=
  let networkPolicy := if scope = [] then "local-only" else "registered-public-sources-only"
  let texts := ["execution:" ++ runId, contract.taskContractId, runId, "InvestigationRole@1",
    "budget:" ++ runId, policyRevision, networkPolicy, "internal-state-only",
    "process_restricted@1"]
  if named : ∀ text ∈ texts, isBlank text = false then
    .ok {
      executionId := "execution:" ++ runId
      taskContractId := contract.taskContractId
      taskRunId := runId
      caseId := some request.caseId
      roleRevision := "InvestigationRole@1"
      contextManifestRevision := 1
      executionProfile := executionProfileOf request.taskKind
      capabilityScope := scope
      deadlineAt := now + request.timeoutSeconds * 1000000
      budgetRef := "budget:" ++ runId
      policyRevision
      identityScope := ["public"]
      networkPolicy
      sideEffectPolicy := "internal-state-only"
      sandboxProfileRevision := "process_restricted@1"
      traceContext := launchTrace request
      manifest_pos := Nat.one_ne_zero
      named }
  else .error (blankEnvelopeText texts)

def launchRegistration (settings : LaunchSettings) (row : InvestigationCaseModel)
    (state : InvestigationState) (contract : TaskContract) (scope : List String)
    (request : LaunchRequest) (drawn : CommandDraw) : RegisterRun where
  run :=
    { contract
      manifest := launchManifest settings row state contract scope request drawn.runId
      role := canonicalInvestigationRole, executionEnvelopeRef := "execution:" ++ drawn.runId
      streamName := settings.streamName, caseId := some request.caseId
      producer := request.surface }
  runId := drawn.runId
  limits := countLimits (launchCounts settings request.agentTurns request.toolCalls)
    (launchCounts_named settings request.agentTurns request.toolCalls)
  envelope := launchEnvelope contract scope request drawn.runId settings.policyRevision drawn.now

def launchedTransition (settings : LaunchSettings) (request : LaunchRequest) (runId : String) :
    TransitionTaskRun where
  runId := runId
  target := .queued
  payloadRef := "queue:" ++ request.surface
  idempotencyKey := "queued:" ++ request.surface ++ ":" ++ runId
  streamName := settings.streamName
  producer := request.surface

/-- `InvestigationTaskLauncher.launch`. -/
def launch (store : ProductStore) (settings : LaunchSettings) (reads : KnowledgeReads)
    (request : LaunchRequest) (drawn : CommandDraw) : Except Raised ProductStore := do
  let row ← fetch (store.cases.cases.get? request.caseId) investigationNotFound
  let (state, cases) ← getState store.cases request.caseId drawn.now
  require (request.requiredNeedIds ≠ [])
    (.valueError "investigation requires at least one EvidenceNeed")
  let contract ← admitContract settings.toProductSettings (launchAdmission settings row request)
  let scope := reads.capabilityScope row.targetObjectIds
  let registered ← registerRun { store with cases }
    (launchRegistration settings row state contract scope request drawn) drawn.toDrawn
  moveRun registered (launchedTransition settings request drawn.runId) (drawn.taskEventIds 1)
    drawn.now

/-! ## Starting -/

/-- `_INVESTIGATION_KINDS`. -/
def investigationKinds : List TaskKind :=
  [.verifyVersionFix, .resolveConflict, .investigateRelation, .investigateIncident,
    .watchIncident, .assessNormativeApplicability, .observeLiveAsset]

structure StartInvestigationCommand where
  (principal requestId : String)
  (traceId idempotencyKey cveId objectId : Option String := none)
  objectIds : List String := []
  (goal evidenceQuestion : String)
  purpose : String := "interactive_investigation"
  taskKind : TaskKind := .investigateRelation
  requiredSourceRoles : List String := []
  priority : ℤ := 50
  allowWait : Bool := true
  timeoutSeconds : ℕ := 300
  agentTurns : ℕ := 8
  toolCalls : ℕ := 12

/-- `bool(text)`. -/
def given : Option String → Bool
  | some text => decide (text ≠ "")
  | none => false

/-- A `ValidationError`, which is a `ValueError`, about a field of a command. -/
def invalidField (command field : String) : Raised :=
  .valueError ("1 validation error for " ++ command ++ ": " ++ field)

/-- The bounds that the two commands put on a launch. -/
def validateBounds (command : String) (priority : ℤ) (timeoutSeconds agentTurns toolCalls : ℕ) :
    Except Raised Unit := do
  require (0 ≤ priority ∧ priority ≤ 100) (invalidField command "priority")
  require (30 ≤ timeoutSeconds ∧ timeoutSeconds ≤ 3600) (invalidField command "timeout_seconds")
  require (1 ≤ agentTurns ∧ agentTurns ≤ 64) (invalidField command "agent_turns")
  require (toolCalls ≤ 128) (invalidField command "tool_calls")

/-- How many of the three ways to name a target the command uses. -/
def StartInvestigationCommand.targetCount (command : StartInvestigationCommand) : ℕ :=
  (given command.cveId).toNat + (given command.objectId).toNat +
    (decide (command.objectIds ≠ [])).toNat

/-- The fields of `StartInvestigationCommand`, and `validate_target`. -/
def StartInvestigationCommand.validate (command : StartInvestigationCommand) :
    Except Raised Unit := do
  let name := "StartInvestigationCommand"
  require (command.objectIds.length ≤ 4) (invalidField name "object_ids")
  require (command.goal ≠ "") (invalidField name "goal")
  require (command.evidenceQuestion ≠ "") (invalidField name "evidence_question")
  validateBounds name command.priority command.timeoutSeconds command.agentTurns command.toolCalls
  require (command.targetCount = 1)
    (.valueError "exactly one of cve_id, object_id or object_ids is required")
  require command.objectIds.Nodup (.valueError "object_ids must be unique")
  require (command.taskKind ∈ investigationKinds)
    (.valueError "task_kind is not an InvestigationRole task")

/-- `_resolve_targets`. -/
def resolveTargets (reads : KnowledgeReads) (command : StartInvestigationCommand) :
    Except Raised (List String) :=
  if command.objectIds ≠ [] then do
    require (∀ objectId ∈ command.objectIds, objectId ∈ reads.knowledge.objects)
      (.applicationError .resourceNotFound "one or more intelligence objects were not found")
    return command.objectIds
  else
    match command.objectId with
    | some objectId => do
        require (objectId ∈ reads.knowledge.objects)
          (.applicationError .resourceNotFound "intelligence object not found")
        return [objectId]
    | none => do
        let objectId ← fetch (command.cveId.bind reads.vulnerability?)
          (.applicationError .resourceNotFound "vulnerability not found")
        return [objectId]

/-- The need that a case is opened with. -/
def firstNeed (command : StartInvestigationCommand) (objectIds : List String)
    (drawn : CommandDraw) : OpenEvidenceNeed where
  caseId := drawn.caseId
  baseCaseRevision := 0
  needId := drawn.needId
  propositionOrQuestion := command.evidenceQuestion
  purpose := command.purpose
  targetObjects := objectIds
  evidenceContract := { requiredSourceRoles := command.requiredSourceRoles }
  priority := command.priority
  writer := "product-application"
  reasonCode := "product_investigation_started"

/-- The launch of the first controller. -/
def startLaunch (command : StartInvestigationCommand) (needId : String) (drawn : CommandDraw) :
    LaunchRequest where
  caseId := drawn.caseId
  taskKind := command.taskKind
  requiredNeedIds := [needId]
  principal := command.principal
  triggerRef := "product-request:" ++ command.requestId
  surface := "product-api"
  requestId := command.requestId
  traceId := command.traceId
  allowWait := command.allowWait
  timeoutSeconds := command.timeoutSeconds
  agentTurns := command.agentTurns
  toolCalls := command.toolCalls

/-- The case, its first need and its first controller. -/
def openInvestigation (store : ProductStore) (settings : LaunchSettings) (reads : KnowledgeReads)
    (command : StartInvestigationCommand) (drawn : CommandDraw) : Except Raised ProductStore := do
  let objectIds ← resolveTargets reads command
  let (_, created) ← createCase store.cases drawn.caseId ("product:" ++ command.taskKind.value)
    objectIds command.goal (some (currentKnowledgeRevision reads.knowledge)) drawn.now
  let (opened, cases) ← openEvidenceNeed created reads.knowledge
    (firstNeed command objectIds drawn) drawn.caseEventIds drawn.now
  let launched ← launch { store with cases } settings reads
    (startLaunch command opened.need.needId drawn) drawn
  let (_, activated) ← activateCase launched.cases drawn.caseId
  return { launched with cases := activated }

/-- The case that a record which was completed before answers with. -/
def replayedCase (store : ProductStore) (record : Option ProductCommandRecordModel)
    (principal : String) : Except Raised InvestigationView := do
  let caseId ← fetch (record.bind (·.responseRef)) (.baseException "AssertionError")
  getInvestigation store caseId principal

/-- `StartInvestigationUseCase.execute`, up to its commit.  What it answers after it is a
view of the case. -/
def startInvestigation (store : ProductStore) (settings : LaunchSettings) (reads : KnowledgeReads)
    (command : StartInvestigationCommand) (digest : String) (drawn : CommandDraw) :
    Except Raised (String × ProductStore) := do
  let ((record, replay), commands) ← claimCommand store.commands command.principal
    "start_investigation" command.idempotencyKey digest drawn.now
  if replay then do
    let view ← replayedCase store record command.principal
    return (view.caseId, store)
  else do
    let opened ← openInvestigation { store with commands } settings reads command drawn
    return (drawn.caseId, { opened with
      commands := completeCommand opened.commands record drawn.caseId })

/-! ## Following up -/

structure ContinueInvestigationCommand where
  (principal requestId caseId : String)
  traceId : Option String := none
  question : String
  purpose : String := "interactive_investigation_followup"
  taskKind : TaskKind := .investigateRelation
  requiredSourceRoles : List String := []
  priority : ℤ := 50
  allowWait : Bool := true
  timeoutSeconds : ℕ := 300
  agentTurns : ℕ := 8
  toolCalls : ℕ := 12

/-- The fields of `ContinueInvestigationCommand`, and `validate_kind`. -/
def ContinueInvestigationCommand.validate (command : ContinueInvestigationCommand) :
    Except Raised Unit := do
  let name := "ContinueInvestigationCommand"
  require (command.question ≠ "") (invalidField name "question")
  validateBounds name command.priority command.timeoutSeconds command.agentTurns command.toolCalls
  require (command.taskKind ∈ investigationKinds)
    (.valueError "task_kind is not an InvestigationRole task")

/-- The lifecycles in which a case takes a follow-up. -/
def takesFollowup : CaseStatus → Bool
  | .active | .waiting | .opened | .running => true
  | .created | .resolved | .closed | .cancelled => false

def isActiveEpisode (run : TaskRunModel) : Bool :=
  isController run && decide (run.status ∈
    [.submitted, .queued, .running, .waitingInput, .waitingDependency])

def followupNeed (command : ContinueInvestigationCommand) (row : InvestigationCaseModel)
    (state : InvestigationState) (drawn : CommandDraw) : OpenEvidenceNeed where
  caseId := command.caseId
  baseCaseRevision := state.caseRevision
  needId := drawn.needId
  propositionOrQuestion := command.question
  purpose := command.purpose
  targetObjects := row.targetObjectIds
  evidenceContract := { requiredSourceRoles := command.requiredSourceRoles }
  priority := command.priority
  writer := "product-application"
  reasonCode := "product_investigation_followup"

/-- The launch of a further controller. -/
def followupLaunch (command : ContinueInvestigationCommand) (needId : String) : LaunchRequest where
  caseId := command.caseId
  taskKind := command.taskKind
  requiredNeedIds := [needId]
  principal := command.principal
  triggerRef := "product-request:" ++ command.requestId
  surface := "product-api-followup"
  requestId := command.requestId
  traceId := command.traceId
  allowWait := command.allowWait
  timeoutSeconds := command.timeoutSeconds
  agentTurns := command.agentTurns
  toolCalls := command.toolCalls

/-- `ContinueInvestigationUseCase.execute`, up to its commit. -/
def continueInvestigation (store : ProductStore) (settings : LaunchSettings)
    (reads : KnowledgeReads) (command : ContinueInvestigationCommand) (drawn : CommandDraw) :
    Except Raised ProductStore := do
  let row ← fetch (store.cases.cases.get? command.caseId) investigationNotFound
  require (takesFollowup row.status = true)
    (.applicationError .lifecycleConflict "investigation is not open for follow-up")
  require (∀ run ∈ runsOfCase store.tasks command.caseId, isActiveEpisode run = false)
    (.applicationError .lifecycleConflict "investigation already has an active runtime episode")
  let (state, read) ← getState store.cases command.caseId drawn.now
  let (opened, cases) ← openEvidenceNeed read reads.knowledge (followupNeed command row state drawn)
    drawn.caseEventIds drawn.now
  let launched ← launch { store with cases } settings reads
    (followupLaunch command opened.need.needId) drawn
  let (_, activated) ← activateCase launched.cases command.caseId
  return { launched with cases := activated }

/-! ## Cancelling -/

structure CancelInvestigationCommand where
  (principal requestId caseId : String)
  reason : String := "product_cancelled"
  idempotencyKey : Option String := none
  expectedRevision : Option ℕ := none

def controllerOf? (tasks : TaskStore) (caseId : String) : Option TaskRunModel :=
  latestOf ((runsOfCase tasks caseId).filter isController)

/-- The runs of a case that have not ended, `order_by(created_at.desc())`. -/
def liveRuns (tasks : TaskStore) (caseId : String) : List TaskRunModel :=
  ((runsOfCase tasks caseId).filter fun run => run.status.isTerminal = false).insertionSort
    fun first second => second.createdAt ≤ first.createdAt

def cancelTransition (settings : ProductSettings) (command : CancelInvestigationCommand)
    (runId : String) : TransitionTaskRun where
  runId := runId
  target := .cancelled
  payloadRef := "product-cancel:" ++ command.requestId
  idempotencyKey := "product-cancel:" ++ command.requestId ++ ":" ++ runId
  streamName := settings.streamName
  producer := "product-application"
  stopReason := some command.reason

/-- What the command requires of the contract of a run. -/
def checkCancellable (tasks : TaskStore) (run : TaskRunModel) : Except Raised Unit := do
  let contract ← getTaskContractForRun tasks run.runId
  require (contract.cancellationSemantics = .cancellable)
    (.applicationError .lifecycleConflict "task contract does not permit direct cancellation")

/-- The loop over the runs, which are cancelled one after the other. -/
def cancelRuns (store : ProductStore) (settings : ProductSettings)
    (command : CancelInvestigationCommand) (drawn : CommandDraw) :
    ℕ → List TaskRunModel → Except Raised ProductStore
  | _, [] => .ok store
  | index, run :: rest => do
      let moved ← moveRun store (cancelTransition settings command run.runId)
        (drawn.taskEventIds index) drawn.now
      cancelRuns moved settings command drawn (index + 1) rest

def cancelLiveRuns (store : ProductStore) (settings : ProductSettings)
    (command : CancelInvestigationCommand) (drawn : CommandDraw) : Except Raised ProductStore := do
  let runs := liveRuns store.tasks command.caseId
  runs.forM (checkCancellable store.tasks)
  let moved ← cancelRuns store settings command drawn 0 runs
  let (_, cases) ← cancelCase moved.cases command.caseId
  return { moved with cases }

/-- `CancelInvestigationUseCase.execute`, up to its commit. -/
def cancelInvestigation (store : ProductStore) (settings : ProductSettings)
    (command : CancelInvestigationCommand) (digest : String) (drawn : CommandDraw) :
    Except Raised (String × ProductStore) := do
  let ((record, replay), commands) ← claimCommand store.commands command.principal
    "cancel_investigation" command.idempotencyKey digest drawn.now
  if replay then do
    let view ← replayedCase store record command.principal
    return (view.caseId, store)
  else do
    let row ← fetch (store.cases.cases.get? command.caseId) investigationNotFound
    let controller ← fetch (controllerOf? store.tasks command.caseId)
      (.applicationError .lifecycleConflict "investigation has no controller TaskRun")
    let contract ← getTaskContractForRun store.tasks controller.runId
    require (contract.principal = command.principal)
      (.applicationError .permissionDenied "investigation belongs to another principal")
    require (∀ revision ∈ command.expectedRevision, row.currentRevision = revision)
      (.applicationError .revisionConflict "investigation revision changed")
    if row.status = .cancelled then
      return (command.caseId, { store with
        commands := completeCommand commands record command.caseId })
    else do
      require (row.status ≠ .resolved ∧ row.status ≠ .closed)
        (.applicationError .lifecycleConflict "terminal investigation cannot be cancelled")
      let cancelled ← cancelLiveRuns { store with commands } settings command drawn
      return (command.caseId, { cancelled with
        commands := completeCommand cancelled.commands record command.caseId })

end SecFusion.Application
