import SecFusion.Application.CommandIdempotency
import SecFusion.Application.QuestionSessions
import SecFusion.Budget.Ledger
import SecFusion.Execution.Lifecycle
import SecFusion.Investigation.Continuation
import SecFusion.Investigation.Watch
import SecFusion.Reasoning.Decision

/-!
# The runtime of decisions

The model of `apps/decision_runtime.py`, and the tables that the commands of the product
write.  A task run that a command opens is registered with its budget account and its
execution (`registerRun`); a run of the decision role is then started at once
(`startRun`), and finished together with its execution.

A proposal is committed to the case by the gates of the case itself.  A call that raises
leaves in its session what it has written before, so the calls after which a caller goes
on (`commitProposal`) answer the store beside what they raise.
-/

namespace SecFusion.Application

open Foundations Intelligence Execution TaskRuntime Investigation Reasoning

/-! ## The store -/

/-- The tables that the commands of the product write. -/
structure ProductStore where
  cases : CaseStore
  tasks : TaskStore
  executions : ExecutionStore
  ledger : Budget.Ledger
  decisions : DecisionResults
  sessions : SessionStore
  commands : CommandRecords

def ProductStore.empty : ProductStore :=
  ⟨.empty, .empty, .empty, .empty, .empty, .empty, .empty⟩

/-- `TaskIntent`, as far as the commands fill it in. -/
structure TaskIntent where
  triggerRef : String
  rawRequest : String := ""
  candidateTaskKind : TaskKind
  (candidateTargets requestedActions : List String)

structure TaskAdmissionRequest where
  intent : TaskIntent
  (principal policyRevision : String)
  bindingContext : JsonObject

/-- What the commands are configured with.  The admission service compiles a contract
for a request or refuses it; its answer may be any. -/
structure ProductSettings where
  (streamName policyRevision : String)
  timeout : ℤ
  limits : Budget.BudgetLimits
  admitTask : TaskAdmissionRequest → Except Raised TaskContract
  sha256 : JsonObject → String

/-- What a transaction of a command draws and reads: the identifiers of the events it
appends, and the clock. -/
structure Drawn where
  taskEventIds : ℕ → String
  caseEventIds : EventIds
  now : ℤ

/-! ## Opening a run -/

structure RegisterRun where
  run : CreateTaskRun
  runId : String
  limits : Budget.BudgetLimits
  envelope : Except Raised ExecutionEnvelope

/-- The run, its budget account and its execution. -/
def registerRun (store : ProductStore) (request : RegisterRun) (drawn : Drawn) :
    Except Raised ProductStore := do
  let (_, tasks) ← createTaskRun store.tasks { request.run with runId := some request.runId } ""
    (drawn.taskEventIds 0) drawn.now
  let (_, ledger) ← Budget.createAccount store.ledger ("budget:" ++ request.runId)
    request.limits (some request.runId) none
  let envelope ← request.envelope
  let (_, executions) ← store.executions.create envelope
  return { store with tasks, ledger, executions }

/-- `transition_task_run`, in the store of the product. -/
def moveRun (store : ProductStore) (request : TransitionTaskRun) (eventId : String) (now : ℤ) :
    Except Raised ProductStore := do
  let (_, tasks) ← transitionTaskRun store.tasks request eventId now
  return { store with tasks }

/-- How a run of the decision role is started: the payload of its queue, the head of its
keys, and who does it. -/
structure Surface where
  (queue head producer : String)

def queuedTransition (surface : Surface) (runId streamName : String) : TransitionTaskRun where
  runId := runId
  target := .queued
  payloadRef := surface.queue
  idempotencyKey := surface.head ++ "-queued:" ++ runId
  streamName := streamName
  producer := surface.producer

def runningTransition (surface : Surface) (runId streamName : String) : TransitionTaskRun where
  runId := runId
  target := .running
  payloadRef := "role:DecisionRole@1"
  idempotencyKey := surface.head ++ "-running:" ++ runId
  streamName := streamName
  producer := surface.producer

/-- A registered run of the decision role is queued and started, with its execution. -/
def startRun (store : ProductStore) (surface : Surface) (runId streamName : String)
    (drawn : Drawn) : Except Raised ProductStore := do
  let queued ← moveRun store (queuedTransition surface runId streamName) (drawn.taskEventIds 1)
    drawn.now
  let running ← moveRun queued (runningTransition surface runId streamName)
    (drawn.taskEventIds 2) drawn.now
  let executions ← running.executions.start ("execution:" ++ runId) drawn.now
  return { running with executions }

/-- `canonical_roles()["DecisionRole"]`. -/
def canonicalDecisionRole : RoleProfile := ⟨"DecisionRole", "1", [.lookup, .retrieve]⟩

/-- The envelope of a run of the decision role, which only reads. -/
def decisionEnvelope (contract : TaskContract) (runId : String) (caseId : Option String)
    (profile : ExecutionProfile) (policyRevision : String) (deadlineAt : ℤ)
    (traceContext : JsonObject) : Except Raised ExecutionEnvelope :=
  let texts := ["execution:" ++ runId, contract.taskContractId, runId, "DecisionRole@1",
    "budget:" ++ runId, policyRevision, "local-only", "read-only", "none@1"]
  if named : ∀ text ∈ texts, isBlank text = false then
    .ok {
      executionId := "execution:" ++ runId
      taskContractId := contract.taskContractId
      taskRunId := runId
      caseId
      roleRevision := "DecisionRole@1"
      contextManifestRevision := 1
      executionProfile := profile
      deadlineAt
      budgetRef := "budget:" ++ runId
      policyRevision
      identityScope := ["public"]
      networkPolicy := "local-only"
      sideEffectPolicy := "read-only"
      sandboxProfileRevision := "none@1"
      traceContext
      manifest_pos := Nat.one_ne_zero
      named }
  else .error (blankEnvelopeText texts)

/-! ## The runs of decisions about a case -/

/-- What a decision about a case is opened with. -/
structure OpenDecision where
  state : InvestigationState
  (principal requestId surface runId predecessorRunId : String)

/-- How the run of a decision about a case is started. -/
def caseSurface (surface : String) : Surface := ⟨"queue:" ++ surface, surface, surface⟩

def decisionAdmission (settings : ProductSettings) (request : OpenDecision) :
    TaskAdmissionRequest where
  intent :=
    { triggerRef := request.surface ++ ":" ++ request.requestId, rawRequest := request.state.goal
      candidateTaskKind := .lookup, candidateTargets := request.state.targets
      requestedActions := ["answer_question"] }
  principal := request.principal
  policyRevision := settings.policyRevision
  bindingContext := [("question", .string request.state.goal),
    ("target_object_ids", textItems request.state.targets)]

def decisionManifest (settings : ProductSettings) (request : OpenDecision)
    (contract : TaskContract) : ContextManifest where
  contextId := "context:" ++ request.runId
  contextRevision := 1
  revision_pos := Nat.one_pos
  taskContractRef := taskContractRef contract
  roleRef := "DecisionRole@1"
  caseRef := some request.state.caseId
  knowledgeRevision := request.state.lastWorldRevision
  investigationStateRef := some (stateRef request.state.caseId request.state.caseRevision)
  evidenceRefs := sortedSet ((evidenceOf (stateItems request.state)).filter fun ref =>
    (afterHead? "evidence:" ref).isSome)
  objectRefs := request.state.targets
  policyContextRef := "policy-context:" ++ settings.policyRevision
  capabilityEnvelopeRef := "capability:case-decision:local-read-v1"
  budgetRef := "budget:" ++ request.runId

def decisionRegistration (settings : ProductSettings) (request : OpenDecision)
    (contract : TaskContract) (now : ℤ) : RegisterRun where
  run :=
    { contract, manifest := decisionManifest settings request contract
      role := canonicalDecisionRole, executionEnvelopeRef := "execution:" ++ request.runId
      streamName := settings.streamName, caseId := some request.state.caseId
      producer := request.surface }
  runId := request.runId
  limits := settings.limits
  envelope := decisionEnvelope contract request.runId (some request.state.caseId) .direct
    settings.policyRevision (now + settings.timeout)
    [("predecessor_run_id", .string request.predecessorRunId),
      ("request_id", .string request.requestId), ("surface", .string request.surface)]

/-- `open_case_decision_execution`. -/
def openCaseDecisionExecution (store : ProductStore) (settings : ProductSettings)
    (request : OpenDecision) (drawn : Drawn) : Except Raised ProductStore := do
  let contract ← settings.admitTask (decisionAdmission settings request)
  let registered ← registerRun store (decisionRegistration settings request contract drawn.now)
    drawn
  startRun registered (caseSurface request.surface) request.runId settings.streamName drawn

/-- What a decision's run is finished with. -/
structure FinishDecision where
  (runId executionId resultRef stopReason : String)
  failed : Bool
  surface : String

/-- The transition that finishes a decision's run. -/
def finishTransition (settings : ProductSettings) (request : FinishDecision) :
    TransitionTaskRun :=
  let status : TaskRunStatus := if request.failed then .failed else .completed
  { runId := request.runId
    target := status
    payloadRef := request.resultRef
    idempotencyKey := request.surface ++ "-" ++ status.value ++ ":" ++ request.runId
    streamName := settings.streamName
    producer := request.surface
    resultRef := if request.failed then none else some request.resultRef
    stopReason := some request.stopReason }

/-- `finish_case_decision_execution`. -/
def finishCaseDecisionExecution (store : ProductStore) (settings : ProductSettings)
    (request : FinishDecision) (drawn : Drawn) : Except Raised ProductStore := do
  let executions ← store.executions.finish request.executionId
    (if request.failed then .failed else .completed) request.stopReason drawn.now
  moveRun { store with executions } (finishTransition settings request) (drawn.taskEventIds 0)
    drawn.now

/-! ## Committing a proposal -/

/-- What the planner of decisions answers. -/
inductive Proposal where
  | draft (draft : DecisionDraft)
  | continuation (request : ContinuationRequest)

theorem isBlank_append {head text : String} (given : isBlank head = false) :
    isBlank (head ++ text) = false := by
  unfold isBlank at given ⊢
  rw [toList_append, List.all_append, given, Bool.false_and]

/-- The commit of a result that has been decided on. -/
def decisionCommit {settings : ProductSettings} {state : InvestigationState}
    {draft : DecisionDraft} {sources : List CitationSource} (result : DecisionResult)
    (decided : DecisionService.decide settings.sha256 state draft sources = .ok result) :
    DecisionCommit where
  decisionId := result.decisionId
  caseId := result.caseId
  baseCaseRevision := result.caseRevision
  decision := result.dump
  decision_nonblank := by
    rw [(decide_ok decided).2.2.1]
    exact isBlank_append (by decide)
  case_nonblank := (decide_ok decided).2.2.2.1 ▸ draft.case_named
  same_decision := rfl
  same_case := rfl
  same_revision := by
    show decide ((result.caseRevision : ℤ) = result.caseRevision) = true
    simp

/-- A decision, and what committing it to the case has answered. -/
structure DecisionOutcome where
  decision : DecisionResult
  committed : DecisionCommitResult

/-- `DecisionRuntime.finalize`, with the store it leaves. -/
def finalizeDraft (store : ProductStore) (settings : ProductSettings) (state : InvestigationState)
    (draft : DecisionDraft) (sources : List CitationSource) (drawn : Drawn) :
    Except Raised DecisionOutcome × ProductStore :=
  match decided : DecisionService.decide settings.sha256 state draft sources with
  | .error raised => (.error raised, store)
  | .ok result =>
      match commitDecision store.cases (decisionCommit result decided) drawn.caseEventIds
        drawn.now with
      | .error raised => (.error raised, store)
      | .ok (committed, cases) =>
          match DecisionResultStore.persist settings.sha256 store.decisions result drawn.now with
          -- the decision has been committed to the case in this session
          | .error raised => (.error raised, { store with cases })
          | .ok (_, decisions) =>
              (.ok ⟨result, committed⟩, { store with cases, decisions })

/-- `DecisionService.request_continuation`. -/
def requestContinuation (state : InvestigationState) (request : ContinuationRequest) :
    Except Raised Unit := do
  requireStateIdentity state request.caseId request.baseCaseRevision
  require (request.targetObjects ⊆ state.targets)
    (.valueError "ContinuationRequest target_objects escape M4 state")

/-- `DecisionRuntime.commit_proposal` for a request, with the store it leaves. -/
def commitContinuation (store : ProductStore) (settings : ProductSettings)
    (knowledge : KnowledgeStore) (state : InvestigationState) (request : ContinuationRequest)
    (drawn : Drawn) : Except Raised EvidenceNeedOpenResult × ProductStore :=
  match requestContinuation state request with
  | .error raised => (.error raised, store)
  | .ok () =>
      let (accepted, cases) := acceptContinuation settings.sha256 store.cases knowledge request
        drawn.caseEventIds drawn.now
      (accepted, { store with cases })

end SecFusion.Application
