import SecFusion.Investigation.Revisions
import SecFusion.TaskRuntime.Context
import SecFusion.TaskRuntime.Delegation

/-!
# Watch episodes

The model of `packages/investigation/runtime/watch.py` and of the transactions of
`packages/investigation/runtime/role.py` that begin and end an episode: the role
makes sure that its run is running, loads a frame, refreshes the context of the
run from it, and, when the planner wants to wait for the world, parks the case and
completes the run.  A change of the knowledge base wakes a parked case and derives
a fresh run from the last one, if the admission port permits it.

The planner, the perceptions and the patches between the load and the park are
other transactions; nothing of a frame is read again when the case is parked.
-/

namespace SecFusion.Investigation

open Foundations Intelligence TaskRuntime

/-! ## The desired state of a task -/

/-- `InvestigationTaskDesiredState`, as far as the frame and the result read it. -/
structure InvestigationTaskDesiredState where
  caseId : String
  requiredNeedIds : List String
  case_nonblank : isBlank caseId = false
  needs_nonempty : requiredNeedIds ≠ []
  needs_unique : requiredNeedIds.Nodup

/-- The error of `InvestigationTaskDesiredState.model_validate`. -/
def desiredStateError (field : String) : Raised :=
  .valueError ("1 validation error for InvestigationTaskDesiredState: " ++ field)

/-- The texts of a JSON array, when it has nothing else. -/
def textItems? : List JsonValue → Option (List String)
  | [] => some []
  | .string text :: rest => (textItems? rest).map (text :: ·)
  | .null :: _ | .bool _ :: _ | .int _ :: _ | .real _ :: _ | .array _ :: _ | .object _ :: _ => none

def textField? (object : JsonObject) (name : String) : Option String :=
  match field? object name with
  | some (.string text) => some text
  | some .null | some (.bool _) | some (.int _) | some (.real _) | some (.array _)
  | some (.object _) | none => none

def textsField? (object : JsonObject) (name : String) : Option (List String) :=
  match field? object name with
  | some (.array items) => textItems? items
  | some .null | some (.bool _) | some (.int _) | some (.real _) | some (.string _)
  | some (.object _) | none => none

/-- `InvestigationTaskDesiredState.model_validate(contract.desired_state)`. -/
def desiredStateOf (contract : TaskContract) : Except Raised InvestigationTaskDesiredState := do
  let caseId ← fetch (textField? contract.desiredState "case_id") (desiredStateError "case_id")
  let requiredNeedIds ← fetch (textsField? contract.desiredState "required_need_ids")
    (desiredStateError "required_need_ids")
  if nonempty : requiredNeedIds = [] then .error (desiredStateError "required_need_ids")
  else if nonblank : isBlank caseId = false then
    if unique : requiredNeedIds.Nodup then
      return ⟨caseId, requiredNeedIds, nonblank, nonempty, unique⟩
    else .error (.valueError "required_need_ids must be unique")
  else .error (.valueError "Investigation task requires case_id")

/-! ## The frame of an episode -/

structure InvestigationFrame where
  taskRunId : String
  taskContract : TaskContract
  state : InvestigationState
  selectedNeed : Option EvidenceNeedModel
  iteration : ℕ
  lastPercept : Option Percept := none
  recentPercepts : List Percept := []

/-- The order of `list_evidence_needs`: by priority, the highest first, then by
identifier. -/
def MoreUrgent (first second : EvidenceNeedModel) : Prop :=
  second.priority < first.priority ∨
    (first.priority = second.priority ∧ first.needId ≤ second.needId)

instance moreUrgentDecidable (first second : EvidenceNeedModel) :
    Decidable (MoreUrgent first second) :=
  inferInstanceAs (Decidable (_ ∨ (_ ∧ _)))

/-- `InvestigationStateService.list_evidence_needs`. -/
def listEvidenceNeeds (cases : CaseStore) (caseId : String) (statuses : List EvidenceNeedStatus) :
    Except Raised (List EvidenceNeedModel) :=
  (((cases.needsOf caseId).filter fun need => need.status ∈ statuses).insertionSort
    MoreUrgent).mapM needView

/-- `InvestigationStateService.get_evidence_need`. -/
def getEvidenceNeed (cases : CaseStore) (needId : String) : Except Raised EvidenceNeedModel := do
  let need ← fetch (cases.needs.get? needId) (.lookupError ("EvidenceNeed not found: " ++ needId))
  needView need

/-- `_load_frame`. -/
def loadFrame (cases : CaseStore) (tasks : TaskStore) (runId : String) (iteration : ℕ)
    (lastPercept : Option Percept) (recentPercepts : List Percept) (now : ℤ) :
    Except Raised (InvestigationFrame × CaseStore) := do
  let contract ← getTaskContractForRun tasks runId
  let desired ← desiredStateOf contract
  let (state, loaded) ← getState cases desired.caseId now
  let needs ← listEvidenceNeeds loaded desired.caseId [.open, .blocked]
  let selectedNeed := needs.find? fun need =>
    need.needId ∈ desired.requiredNeedIds ∧ need.status = .open
  return ({ taskRunId := runId, taskContract := contract, state, selectedNeed, iteration,
            lastPercept, recentPercepts }, loaded)

/-! ## Refreshing the context -/

/-- The text by which a manifest names the state of a case. -/
def stateRef (caseId : String) (caseRevision : ℕ) : String :=
  "case:" ++ caseId ++ "@" ++ toString caseRevision

/-- `_refresh_context_for_frame`. -/
def refreshContextForFrame (tasks : TaskStore) (knowledge : KnowledgeStore) (runId : String)
    (frame : InvestigationFrame) (streamName eventId : String) (now : ℤ) :
    Except Raised TaskStore := do
  let manifest ← getTaskContext tasks runId
  let worldRevision := currentKnowledgeRevision knowledge
  let frameRef := stateRef frame.state.caseId frame.state.caseRevision
  let discovered := (frame.lastPercept.map (·.evidenceHandles)).getD []
  if manifest.knowledgeRevision = some worldRevision ∧
      manifest.investigationStateRef = some frameRef ∧ discovered ⊆ manifest.evidenceRefs then
    return tasks
  else do
    let refreshed ← refreshContext manifest
      { contextRevision := manifest.contextRevision + 1, knowledgeRevision := some worldRevision,
        investigationStateRef := some frameRef, addEvidenceRefs := discovered,
        revision_advanced := Nat.succ_le_succ manifest.revision_pos }
    let (_, next) ← updateTaskContext tasks runId refreshed streamName "InvestigationRole" eventId
      now
    return next

/-! ## Beginning an episode -/

/-- The transition to `QUEUED` or `RUNNING` by which `_ensure_running` brings a run
on its way. -/
def advanceRun (tasks : TaskStore) (runId : String) (target : TaskRunStatus)
    (payloadRef idempotencyKey streamName eventId : String) (now : ℤ) :
    Except Raised TaskStore := do
  let (_, next) ← transitionTaskRun tasks
    { runId, target, payloadRef, idempotencyKey, streamName, producer := "InvestigationRole" }
    eventId now
  return next

/-- The first part of `_ensure_running`: a run that waits is queued again. -/
def resumeWaiting (tasks : TaskStore) (run : TaskRunModel) (streamName eventId : String)
    (now : ℤ) : Except Raised TaskStore :=
  if run.status = .waitingDependency ∨ run.status = .waitingInput then
    advanceRun tasks run.runId .queued "queue:investigation-resume"
      ("investigation-resume:" ++ run.runId ++ ":" ++ run.status.value) streamName eventId now
  else .ok tasks

/-- The second part: a submitted run is queued. -/
def queueSubmitted (tasks : TaskStore) (run : TaskRunModel) (streamName eventId : String)
    (now : ℤ) : Except Raised TaskStore :=
  if run.status = .submitted then
    advanceRun tasks run.runId .queued "queue:investigation"
      ("investigation-queued:" ++ run.runId) streamName eventId now
  else .ok tasks

/-- The last part: a queued run is started, and any other must be running. -/
def startQueued (tasks : TaskStore) (run : TaskRunModel) (streamName eventId : String)
    (now : ℤ) : Except Raised TaskStore :=
  if run.status = .queued then
    advanceRun tasks run.runId .running "role:InvestigationRole"
      ("investigation-started:" ++ run.runId ++ ":" ++ toString run.baseContextRevision)
      streamName eventId now
  else do
    require (run.status = .running)
      (.valueError ("InvestigationRole cannot run status=" ++ run.status.value))
    return tasks

/-- `_ensure_running`; `eventIds` are the identifiers that its transitions draw. -/
def ensureRunning (tasks : TaskStore) (runId streamName : String) (eventIds : ℕ → String)
    (now : ℤ) : Except Raised TaskStore := do
  let run ← getRun tasks runId
  let contract ← getTaskContractForRun tasks runId
  let desired ← desiredStateOf contract
  require (run.roleId = "InvestigationRole") (.valueError ("TaskRun role mismatch: " ++ run.roleId))
  require (run.caseId = some desired.caseId)
    (.valueError "TaskRun case_id does not match TaskContract desired state")
  let resumed ← resumeWaiting tasks run streamName (eventIds 0) now
  let run ← getRun resumed runId
  let queued ← queueSubmitted resumed run streamName (eventIds 1) now
  let run ← getRun queued runId
  startQueued queued run streamName (eventIds 2) now

/-! ## Waiting and parking -/

/-- `InvestigationTaskResult`. -/
structure InvestigationTaskResult where
  (taskRunId caseId : String)
  finalCaseRevision : ℕ
  (resolvedNeedIds blockedNeedIds openNeedIds : List String)
  iterations : ℕ
  stopReason : String

def needIdsWith (status : EvidenceNeedStatus) (needs : List EvidenceNeedModel) : List String :=
  (needs.filter fun need => need.status = status).map (·.needId)

/-- `_result`. -/
def taskResult (cases : CaseStore) (frame : InvestigationFrame) (runId : String) (iteration : ℕ)
    (reason : String) : Except Raised InvestigationTaskResult := do
  let desired ← desiredStateOf frame.taskContract
  let needs ← desired.requiredNeedIds.mapM (getEvidenceNeed cases)
  return { taskRunId := runId, caseId := desired.caseId,
           finalCaseRevision := frame.state.caseRevision,
           resolvedNeedIds := needIdsWith .resolved needs,
           blockedNeedIds := needIdsWith .blocked needs, openNeedIds := needIdsWith .open needs,
           iterations := iteration, stopReason := reason }

/-- `_result_ref`; `digest` is the head of the hash of the result's dump. -/
def resultRef (digest : InvestigationTaskResult → String) (result : InvestigationTaskResult) :
    String :=
  "investigation-result:" ++ result.taskRunId ++ ":" ++ digest result

/-- What the two ways to wait are given besides the frame. -/
structure WaitCall where
  (runId reason : String)
  iteration : ℕ
  digest : InvestigationTaskResult → String
  (streamName eventId : String)
  now : ℤ

/-- The stop reason of a parked episode, by which its run is known as a template. -/
def waitingForWorldUpdate : String := "waiting_for_world_update"

def parkTransition (call : WaitCall) (frame : InvestigationFrame)
    (result : InvestigationTaskResult) : TransitionTaskRun where
  runId := call.runId
  target := .completed
  payloadRef := resultRef call.digest result
  idempotencyKey := "watch-parked:" ++ call.runId ++ ":" ++ toString frame.state.caseRevision
  streamName := call.streamName
  producer := "InvestigationRole"
  resultRef := some (resultRef call.digest result)
  stopReason := some call.reason

/-- `_park_watch_episode`. -/
def parkWatchEpisode (cases : CaseStore) (tasks : TaskStore) (frame : InvestigationFrame)
    (call : WaitCall) : Except Raised (CaseStore × TaskStore) := do
  let result ← taskResult cases frame call.runId call.iteration call.reason
  let (_, activated) ← activateCase cases frame.state.caseId
  let (_, waiting) ← waitCase activated frame.state.caseId
  let (_, completed) ← transitionTaskRun tasks (parkTransition call frame result) call.eventId
    call.now
  return (waiting, completed)

/-- The test of `_wait`: the episode is parked. -/
def Parks (frame : InvestigationFrame) (reason : String) : Prop :=
  frame.taskContract.taskKind = .watchIncident ∧ reason = waitingForWorldUpdate

instance parksDecidable (frame : InvestigationFrame) (reason : String) :
    Decidable (Parks frame reason) :=
  inferInstanceAs (Decidable (_ ∧ _))

/-- The transition of the other branch of `_wait`. -/
def waitTransition (call : WaitCall) (frame : InvestigationFrame) : TransitionTaskRun where
  runId := call.runId
  target := .waitingDependency
  payloadRef := "investigation-wait:" ++ call.reason
  idempotencyKey := "investigation-wait:" ++ call.runId ++ ":" ++
    toString frame.state.caseRevision ++ ":" ++ call.reason
  streamName := call.streamName
  producer := "InvestigationRole"
  stopReason := some call.reason

/-- `_wait`. -/
def waitEpisode (cases : CaseStore) (tasks : TaskStore) (frame : InvestigationFrame)
    (call : WaitCall) : Except Raised (CaseStore × TaskStore) :=
  if Parks frame call.reason then parkWatchEpisode cases tasks frame call
  else do
    let _ ← taskResult cases frame call.runId call.iteration call.reason
    let (_, next) ← transitionTaskRun tasks (waitTransition call frame) call.eventId call.now
    return (cases, next)

/-! ## Waking -/

inductive WatchWakeDisposition where
  | queued
  | replay
  | notActivated
  | noWatchTemplate
  | templateNotTerminal
  | templateNotWaiting
  | policyDenied
  | policyObligationUnsatisfied
  | policyIndeterminate

structure WatchWakeResult where
  (caseId triggerRef : String)
  disposition : WatchWakeDisposition
  (runId policyDecisionRef policyAuthorization : Option String := none)

structure WatchWakeAdmission where
  allowed : Bool
  denialReason : Option WatchWakeDisposition := none
  (policyDecisionRef policyAuthorization budgetRef executionEnvelopeRef : Option String := none)
  capabilityEnvelopeRef : Option String := none

/-- The arguments of the wake, with the `admit` of the `WatchWakeAdmissionPort`. -/
structure AdmissionRequest where
  contract : TaskContract
  (templateRunId templateExecutionEnvelopeRef : String)
  previousContext : ContextManifest
  (caseId triggerRef runId : String)
  worldRevision : ℕ

/-- What a wake is given besides the impact.  The port decides by the policy, the
budget and the execution of the template; its answer may be any. -/
structure WakeCall where
  triggerRef : String
  admitWake : AdmissionRequest → Except Raised WatchWakeAdmission
  streamName : String
  /-- The identifiers of the two events of the run of a case. -/
  eventIds : String → ℕ → String
  now : ℤ

/-- `_watch_wake_run_id`. -/
def watchWakeRunId (caseId triggerRef : String) : String :=
  stableId ("watch-wake:" ++ caseId ++ ":" ++ triggerRef)

/-- The contract of the run, found by its version, is one of a watch. -/
def isWatchRun (tasks : TaskStore) (run : TaskRunModel) : Bool :=
  (tasks.contracts.get? run.taskContractVersionId).any fun contract =>
    contract.contractJson.taskKind = .watchIncident

/-- The order of the query for the template: the run created last first. -/
def CreatedLater (first second : TaskRunModel) : Prop :=
  second.createdAt < first.createdAt ∨
    (first.createdAt = second.createdAt ∧ second.runId ≤ first.runId)

instance createdLaterDecidable (first second : TaskRunModel) :
    Decidable (CreatedLater first second) :=
  inferInstanceAs (Decidable (_ ∨ (_ ∧ _)))

def watchRunsOf (tasks : TaskStore) (caseId : String) : List TaskRunModel :=
  tasks.runs.select fun run => run.caseId = some caseId && isWatchRun tasks run

/-- The last watch run of a case, from which the next one is derived. -/
def watchTemplate? (tasks : TaskStore) (caseId : String) : Option TaskRunModel :=
  ((watchRunsOf tasks caseId).insertionSort CreatedLater).head?

def wakeManifest (previous : ContextManifest) (impact : WorldChangeImpact) (runId : String)
    (caseRevision : ℕ) (capabilityEnvelopeRef budgetRef : String) : ContextManifest where
  contextId := "context:watch-wake:" ++ runId
  contextRevision := 1
  revision_pos := Nat.one_pos
  parentContextId := some previous.contextId
  taskContractRef := previous.taskContractRef
  roleRef := previous.roleRef
  caseRef := previous.caseRef
  knowledgeRevision := some impact.worldRevision
  investigationStateRef := some (stateRef impact.caseId caseRevision)
  evidenceRefs := previous.evidenceRefs
  objectRefs := previous.objectRefs
  relationRefs := previous.relationRefs
  trajectoryCheckpointRef := previous.trajectoryCheckpointRef
  policyContextRef := previous.policyContextRef
  capabilityEnvelopeRef := capabilityEnvelopeRef
  budgetRef := budgetRef

/-- The end of `spawn_for_world_change`: the admitted run is created and queued. -/
def queueWake (cases : CaseStore) (tasks : TaskStore) (impact : WorldChangeImpact)
    (call : WakeCall) (contract : TaskContract) (previous : ContextManifest)
    (admission : WatchWakeAdmission) : Except Raised (WatchWakeResult × CaseStore × TaskStore) := do
  let missing := Raised.runtimeError "WATCH admission permitted without execution-control refs"
  let budgetRef ← fetch admission.budgetRef missing
  let executionEnvelopeRef ← fetch admission.executionEnvelopeRef missing
  let capabilityEnvelopeRef ← fetch admission.capabilityEnvelopeRef missing
  let runId := watchWakeRunId impact.caseId call.triggerRef
  let (state, loaded) ← getState cases impact.caseId call.now
  let (_, created) ← createTaskRun tasks
    { contract
      manifest := wakeManifest previous impact runId state.caseRevision capabilityEnvelopeRef
        budgetRef
      role := canonicalInvestigationRole, executionEnvelopeRef, streamName := call.streamName
      caseId := some impact.caseId, runId := some runId, producer := "watch-wake-runtime" }
    "" (call.eventIds impact.caseId 0) call.now
  let (_, queued) ← transitionTaskRun created
    { runId, target := .queued, payloadRef := "watch-wake:" ++ call.triggerRef
      idempotencyKey := "watch-wake-queued:" ++ call.triggerRef, streamName := call.streamName
      producer := "watch-wake-runtime" }
    (call.eventIds impact.caseId 1) call.now
  return ({ caseId := impact.caseId, triggerRef := call.triggerRef, disposition := .queued
            runId := some runId, policyDecisionRef := admission.policyDecisionRef
            policyAuthorization := admission.policyAuthorization }, loaded, queued)

/-- The request by which the port is asked for a run of the case. -/
def admissionRequest (contract : TaskContract) (previous : ContextManifest)
    (template : TaskRunModel) (caseId triggerRef : String) (worldRevision : ℕ) :
    AdmissionRequest where
  contract := contract
  templateRunId := template.runId
  templateExecutionEnvelopeRef := template.executionEnvelopeRef
  previousContext := previous
  caseId := caseId
  triggerRef := triggerRef
  runId := watchWakeRunId caseId triggerRef
  worldRevision := worldRevision

/-- The middle of `spawn_for_world_change`: a run is derived from the template, if
it has been parked and the port admits it. -/
def deriveWake (cases : CaseStore) (tasks : TaskStore) (impact : WorldChangeImpact)
    (call : WakeCall) (template : TaskRunModel) :
    Except Raised (WatchWakeResult × CaseStore × TaskStore) := do
  let declined (disposition : WatchWakeDisposition) : WatchWakeResult :=
    { caseId := impact.caseId, triggerRef := call.triggerRef, disposition
      runId := some template.runId }
  if template.status.isTerminal = false then return (declined .templateNotTerminal, cases, tasks)
  if template.stopReason ≠ some waitingForWorldUpdate then
    return (declined .templateNotWaiting, cases, tasks)
  let missing := Raised.runtimeError "WATCH template references missing contract/context version"
  let contractModel ← fetch (tasks.contracts.get? template.taskContractVersionId) missing
  let contextModel ← fetch (tasks.contexts.get? template.contextManifestVersionId) missing
  let admission ← call.admitWake (admissionRequest contractModel.contractJson
    contextModel.manifestJson template impact.caseId call.triggerRef impact.worldRevision)
  if admission.allowed = false then
    return ({ caseId := impact.caseId, triggerRef := call.triggerRef
              disposition := admission.denialReason.getD .policyDenied
              runId := some (watchWakeRunId impact.caseId call.triggerRef)
              policyDecisionRef := admission.policyDecisionRef
              policyAuthorization := admission.policyAuthorization }, cases, tasks)
  queueWake cases tasks impact call contractModel.contractJson contextModel.manifestJson admission

/-- `WatchWakeService.spawn_for_world_change`. -/
def spawnForWorldChange (cases : CaseStore) (tasks : TaskStore) (impact : WorldChangeImpact)
    (call : WakeCall) : Except Raised (WatchWakeResult × CaseStore × TaskStore) := do
  let declined (disposition : WatchWakeDisposition) : WatchWakeResult :=
    { caseId := impact.caseId, triggerRef := call.triggerRef, disposition }
  if impact.caseActivated = false then return (declined .notActivated, cases, tasks)
  let row ← getCase cases impact.caseId
  if row.status ≠ .active then return (declined .notActivated, cases, tasks)
  let runId := watchWakeRunId impact.caseId call.triggerRef
  match tasks.runs.get? runId with
  | some _ => return ({ declined .replay with runId := some runId }, cases, tasks)
  | none =>
      match watchTemplate? tasks impact.caseId with
      | none => return (declined .noWatchTemplate, cases, tasks)
      | some template => deriveWake cases tasks impact call template

/-- The loop of the worker over the impacts of a change. -/
def spawnWakes (call : WakeCall) : CaseStore → TaskStore → List WorldChangeImpact →
    Except Raised (CaseStore × TaskStore)
  | cases, tasks, [] => .ok (cases, tasks)
  | cases, tasks, impact :: rest => do
      let (_, nextCases, nextTasks) ← spawnForWorldChange cases tasks impact call
      spawnWakes call nextCases nextTasks rest

/-- What the worker is given: the notice, and the settings it reads. -/
structure WorldChangeCall where
  knowledge : KnowledgeStore
  change : KnowledgeChangeNotice
  eventIds : EventIds
  backgroundLlmEnabled : Bool
  admitWake : AdmissionRequest → Except Raised WatchWakeAdmission
  streamName : String
  wakeEventIds : String → ℕ → String
  now : ℤ

/-- The wake that the worker asks for. -/
def WorldChangeCall.wake (call : WorldChangeCall) : WakeCall where
  triggerRef := "knowledge-revision:" ++ toString call.change.revision
  admitWake := call.admitWake
  streamName := call.streamName
  eventIds := call.wakeEventIds
  now := call.now

/-- The transaction of the worker, from the world change on: the change is processed
and, unless the background models are paused, a wake is tried for each impact. -/
def handleKnowledgeChanged (cases : CaseStore) (tasks : TaskStore) (call : WorldChangeCall) :
    Except Raised (List WorldChangeImpact × CaseStore × TaskStore) := do
  let (impacts, changed) ← processChange cases call.knowledge call.change call.eventIds call.now
  if call.backgroundLlmEnabled then do
    let (nextCases, nextTasks) ← spawnWakes call.wake changed tasks impacts
    return (impacts, nextCases, nextTasks)
  else return (impacts, changed, tasks)

end SecFusion.Investigation
