import SecFusion.TaskRuntime.Contracts
import SecFusion.Foundations.Table

/-!
# The task store

The model of `packages/task_runtime/storage`: versioned contracts and context
manifests, task runs, their event logs and the delivery row of each event.

A run's status is a column of its row, and every write of it is followed, in the
same transaction, by `append_task_event`.  The append is idempotent in the
caller's key: a run that already has an event of that key gets no second one,
whatever happened to the row.

Identifiers that the code draws with `uuid4` and the instants it reads from the
clock are arguments here.  A content hash is compared by comparing what was
hashed.  The denormalised columns of the contract and manifest tables, which are
written and never read, are left out.
-/

namespace SecFusion.TaskRuntime

open Foundations

/-! ## Tables -/

/-- One row of `task_contract_versions`. -/
structure TaskContractVersionModel where
  (taskContractVersionId taskContractId : String)
  contractRevision : ℕ
  contractJson : TaskContract

/-- One row of `context_manifest_versions`. -/
structure ContextManifestVersionModel where
  (contextManifestVersionId contextId : String)
  contextRevision : ℕ
  taskContractVersionId : String
  manifestJson : ContextManifest

/-- One row of `task_runs`. -/
structure TaskRunModel where
  (runId taskContractVersionId taskContractId : String)
  taskContractRevision : ℕ
  (contextManifestVersionId contextId : String)
  contextRevision : ℕ
  (caseId parentRunId : Option String)
  (roleId roleVersion : String)
  status : TaskRunStatus
  baseContextRevision : ℕ
  executionEnvelopeRef : String
  (resultRef stopReason : Option String := none)
  (createdAt updatedAt : ℤ)
  finishedAt : Option ℤ := none

/-- One row of `task_events`, and the `TaskEvent` it is viewed as. -/
structure TaskEventModel where
  (eventId taskRunId : String)
  parentRunId : Option String
  seq : ℕ
  eventType : TaskEventType
  producer : String
  baseContextRevision : ℕ
  (payloadRef idempotencyKey : String)
  emittedAt : ℤ
  deriving DecidableEq

inductive DeliveryStatus where
  | pending
  | delivered
  deriving DecidableEq

/-- One row of `task_event_deliveries`. -/
structure TaskEventDeliveryModel where
  (eventId streamName : String)
  status : DeliveryStatus
  attempts : ℕ
  availableAt : ℤ
  deriving DecidableEq

structure TaskStore where
  contracts : Table TaskContractVersionModel String (·.taskContractVersionId)
  contexts : Table ContextManifestVersionModel String (·.contextManifestVersionId)
  runs : Table TaskRunModel String (·.runId)
  events : Table TaskEventModel String (·.eventId)
  deliveries : Table TaskEventDeliveryModel String (·.eventId)

/-- The store before any call. -/
def TaskStore.empty : TaskStore := ⟨.empty, .empty, .empty, .empty, .empty⟩

/-- `TaskRun`, the view of a run that the calls answer. -/
structure TaskRun where
  (runId taskContractId : String)
  (caseId parentRunId : Option String)
  (roleId roleVersion contextManifestRef : String)
  status : TaskRunStatus
  baseContextRevision : ℕ
  executionEnvelopeRef : String
  (resultRef stopReason : Option String)

/-- `PersistResult`. -/
structure PersistResult where
  ref : String
  replay : Bool

/-- `TaskEventAppendResult`. -/
structure TaskEventAppendResult where
  event : TaskEventModel
  replay : Bool

/-! ## References -/

/-- The text that names one revision. -/
def versionedRef (identity : String) (revision : ℕ) : String :=
  identity ++ String.singleton '@' ++ toString revision

def taskContractRef (contract : TaskContract) : String :=
  versionedRef contract.taskContractId contract.contractRevision

def contextManifestRef (manifest : ContextManifest) : String :=
  versionedRef manifest.contextId manifest.contextRevision

/-- `_split_ref`.  The references that reach it are built by `versionedRef`, so
their digits are ASCII digits. -/
def splitRef (ref : String) : Except Raised (String × ℕ) :=
  match Text.rpartition '@' ref with
  | none => .error (.valueError ("invalid versioned reference: " ++ ref))
  | some (identity, revisionText) =>
      match Text.parseNat revisionText with
      | none => .error (.valueError ("invalid versioned reference: " ++ ref))
      | some revision =>
          if identity = "" then .error (.valueError ("invalid versioned reference: " ++ ref))
          else .ok (identity, revision)

/-- `_stable_id`: a name-based UUID, which is taken to determine its name. -/
def stableId (value : String) : String := "secfusion:" ++ value

/-- A reference splits into what it was built from. -/
theorem splitRef_versionedRef {identity : String} {revision : ℕ} {parts : String × ℕ}
    (ok : splitRef (versionedRef identity revision) = .ok parts) :
    parts = (identity, revision) := by
  have split : Text.rpartition '@' (versionedRef identity revision) =
      some (identity, toString revision) :=
    Text.rpartition_append (Text.not_mem_toString (by decide) revision)
  rw [splitRef, split] at ok
  simp only [Text.parseNat_toString] at ok
  split at ok
  · cases ok
  · simpa using ok.symm

/-! ## Contracts and manifests -/

def TaskStore.contractVersion? (store : TaskStore) (identity : String) (revision : ℕ) :
    Option TaskContractVersionModel :=
  store.contracts.rows.find? fun row =>
    row.taskContractId = identity ∧ row.contractRevision = revision

/-- The manifest row of one identity and revision. -/
def TaskStore.contextVersion? (store : TaskStore) (identity : String) (revision : ℕ) :
    Option ContextManifestVersionModel :=
  store.contexts.rows.find? fun row => row.contextId = identity ∧ row.contextRevision = revision

/-- `_contract_from_ref`. -/
def contractFromRef (store : TaskStore) (ref : String) : Except Raised TaskContractVersionModel := do
  let (taskId, revision) ← splitRef ref
  fetch (store.contractVersion? taskId revision) (.lookupError ("task contract not found: " ++ ref))

/-- `_context_from_ref`. -/
def contextFromRef (store : TaskStore) (ref : String) :
    Except Raised ContextManifestVersionModel := do
  let (contextId, revision) ← splitRef ref
  fetch (store.contextVersion? contextId revision)
    (.lookupError ("context manifest not found: " ++ ref))

def persistTaskContract (store : TaskStore) (contract : TaskContract) :
    Except Raised (PersistResult × TaskStore) :=
  let ref := taskContractRef contract
  match store.contractVersion? contract.taskContractId contract.contractRevision with
  | some existing => do
      require (existing.contractJson = contract)
        (.valueError "task contract revision is immutable")
      return ({ ref, replay := true }, store)
  | none => do
      let row : TaskContractVersionModel :=
        { taskContractVersionId := stableId ("task-contract:" ++ ref)
          taskContractId := contract.taskContractId
          contractRevision := contract.contractRevision
          contractJson := contract }
      let contracts ← fetch (store.contracts.insert? row)
        (.integrityError "task_contract_versions.task_contract_version_id")
      return ({ ref, replay := false }, { store with contracts })

def persistContextManifest (store : TaskStore) (manifest : ContextManifest) :
    Except Raised (PersistResult × TaskStore) := do
  let contract ← contractFromRef store manifest.taskContractRef
  let ref := contextManifestRef manifest
  match store.contextVersion? manifest.contextId manifest.contextRevision with
  | some existing => do
      require (existing.manifestJson = manifest)
        (.valueError "context manifest revision is immutable")
      return ({ ref, replay := true }, store)
  | none => do
      let row : ContextManifestVersionModel :=
        { contextManifestVersionId := stableId ("context-manifest:" ++ ref)
          contextId := manifest.contextId
          contextRevision := manifest.contextRevision
          taskContractVersionId := contract.taskContractVersionId
          manifestJson := manifest }
      let contexts ← fetch (store.contexts.insert? row)
        (.integrityError "context_manifest_versions.context_manifest_version_id")
      return ({ ref, replay := false }, { store with contexts })

/-! ## Events -/

/-- The events of one run, in the order in which they were appended. -/
def TaskStore.eventsOf (store : TaskStore) (runId : String) : List TaskEventModel :=
  store.events.select fun event => event.taskRunId = runId

/-- The event of one run that carries an idempotency key. -/
def TaskStore.eventWithKey? (store : TaskStore) (runId idempotencyKey : String) :
    Option TaskEventModel :=
  (store.eventsOf runId).find? fun event => event.idempotencyKey = idempotencyKey

/-- `max(seq)` over the events of one run, and zero when it has none. -/
def TaskStore.lastSeq (store : TaskStore) (runId : String) : ℕ :=
  ((store.eventsOf runId).map (·.seq)).foldl max 0

/-- What a caller asks `append_task_event` to record. -/
structure EventRequest where
  taskRunId : String
  eventType : TaskEventType
  producer : String
  baseContextRevision : ℕ
  (payloadRef idempotencyKey streamName : String)

/-- `_task_event_view`: the row, when it passes the validator of `TaskEvent`. -/
def taskEventView (event : TaskEventModel) : Except Raised TaskEventModel := do
  require (1 ≤ event.seq) (.valueError "TaskEvent seq")
  require (1 ≤ event.baseContextRevision) (.valueError "TaskEvent base_context_revision")
  require (isBlank event.producer = false) (.valueError "TaskEvent producer cannot be empty")
  require (isBlank event.payloadRef = false)
    (.valueError "TaskEvent payload_ref cannot be empty")
  require (isBlank event.idempotencyKey = false)
    (.valueError "TaskEvent idempotency_key cannot be empty")
  return event

/-- The row `append_task_event` adds. -/
def newEvent (run : TaskRunModel) (request : EventRequest) (seq : ℕ) (eventId : String) (now : ℤ) :
    TaskEventModel where
  eventId := eventId
  taskRunId := request.taskRunId
  parentRunId := run.parentRunId
  seq := seq
  eventType := request.eventType
  producer := request.producer
  baseContextRevision := request.baseContextRevision
  payloadRef := request.payloadRef
  idempotencyKey := request.idempotencyKey
  emittedAt := now

/-- The delivery row `append_task_event` adds beside it. -/
def newDelivery (request : EventRequest) (eventId : String) (now : ℤ) : TaskEventDeliveryModel where
  eventId := eventId
  streamName := request.streamName
  status := .pending
  attempts := 0
  availableAt := now

def appendTaskEvent (store : TaskStore) (request : EventRequest) (eventId : String) (now : ℤ) :
    Except Raised (TaskEventAppendResult × TaskStore) := do
  let run ← fetch (store.runs.get? request.taskRunId)
    (.lookupError ("task run not found: " ++ request.taskRunId))
  match store.eventWithKey? request.taskRunId request.idempotencyKey with
  | some existing => do
      let event ← taskEventView existing
      return ({ event, replay := true }, store)
  | none => do
      let added := newEvent run request (store.lastSeq request.taskRunId + 1) eventId now
      let events ← fetch (store.events.insert? added) (.integrityError "task_events.event_id")
      let deliveries ← fetch (store.deliveries.insert? (newDelivery request eventId now))
        (.integrityError "task_event_deliveries.event_id")
      let event ← taskEventView added
      return ({ event, replay := false }, { store with events, deliveries })

/-- `get_task_event`. -/
def getTaskEvent (store : TaskStore) (eventId : String) : Except Raised TaskEventModel := do
  let model ← fetch (store.events.get? eventId) (.lookupError ("task event not found: " ++ eventId))
  taskEventView model

/-! ## Runs -/

/-- `_task_run_view`. -/
def taskRunView (model : TaskRunModel) : TaskRun where
  runId := model.runId
  taskContractId := model.taskContractId
  caseId := model.caseId
  parentRunId := model.parentRunId
  roleId := model.roleId
  roleVersion := model.roleVersion
  contextManifestRef := versionedRef model.contextId model.contextRevision
  status := model.status
  baseContextRevision := model.baseContextRevision
  executionEnvelopeRef := model.executionEnvelopeRef
  resultRef := model.resultRef
  stopReason := model.stopReason

/-- The row of a run, or the error every operation raises without one. -/
def getRun (store : TaskStore) (runId : String) : Except Raised TaskRunModel :=
  fetch (store.runs.get? runId) (.lookupError ("task run not found: " ++ runId))

/-- `get_task_contract_for_run`. -/
def getTaskContractForRun (store : TaskStore) (runId : String) : Except Raised TaskContract := do
  let run ← getRun store runId
  let contract ← fetch (store.contracts.get? run.taskContractVersionId)
    (.runtimeError "task run references missing task contract version")
  return contract.contractJson

/-- `get_task_context`. -/
def getTaskContext (store : TaskStore) (runId : String) : Except Raised ContextManifest := do
  let run ← getRun store runId
  let context ← fetch (store.contexts.get? run.contextManifestVersionId)
    (.runtimeError "task run references missing context manifest version")
  return context.manifestJson

def TaskStore.updateRun (store : TaskStore) (runId : String) (rewrite : TaskRunModel → TaskRunModel)
    (keeps : ∀ run, (rewrite run).runId = run.runId) : TaskStore :=
  { store with runs := store.runs.update runId rewrite keeps }

/-- The arguments of `create_task_run`. -/
structure CreateTaskRun where
  contract : TaskContract
  manifest : ContextManifest
  role : RoleProfile
  (executionEnvelopeRef streamName : String)
  (caseId parentRunId runId : Option String := none)
  producer : String := "task-runtime"

/-- `run_id or str(uuid4())`. -/
def resolveRunId (runId : Option String) (uuid : String) : String :=
  match runId with
  | some given => if given = "" then uuid else given
  | none => uuid

/-- What `create_task_run` requires of a parent run, when it is given one. -/
def checkParent (store : TaskStore) (contract : TaskContract) : Option String → Except Raised Unit
  | none => .ok ()
  | some parentRunId => do
      let parent ← fetch (store.runs.get? parentRunId)
        (.lookupError ("parent task run not found: " ++ parentRunId))
      require (parent.status = .running)
        (.valueError "child task can only be created from a running parent")
      let parentContract ← fetch (store.contracts.get? parent.taskContractVersionId)
        (.runtimeError "parent task run references missing task contract version")
      match validateChildContract parentContract.contractJson contract with
      | some reason => .error (.valueError reason)
      | none => .ok ()

/-- The row `create_task_run` adds. -/
def newTaskRun (request : CreateTaskRun) (runId contractVersionId contextVersionId : String)
    (now : ℤ) : TaskRunModel where
  runId := runId
  taskContractVersionId := contractVersionId
  taskContractId := request.contract.taskContractId
  taskContractRevision := request.contract.contractRevision
  contextManifestVersionId := contextVersionId
  contextId := request.manifest.contextId
  contextRevision := request.manifest.contextRevision
  caseId := request.caseId
  parentRunId := request.parentRunId
  roleId := request.role.roleId
  roleVersion := request.role.version
  status := .submitted
  baseContextRevision := request.manifest.contextRevision
  executionEnvelopeRef := request.executionEnvelopeRef
  createdAt := now
  updatedAt := now

/-- The event that records the creation of a run. -/
def createdEvent (request : CreateTaskRun) (runId : String) : EventRequest where
  taskRunId := runId
  eventType := .taskCreated
  producer := request.producer
  baseContextRevision := request.manifest.contextRevision
  payloadRef := "task-run:" ++ runId
  idempotencyKey := "task-created:" ++ runId
  streamName := request.streamName

def createTaskRun (store : TaskStore) (request : CreateTaskRun) (uuid eventId : String) (now : ℤ) :
    Except Raised (TaskRun × TaskStore) := do
  require (request.role.accepts request.contract.taskKind = true)
    (.valueError ("role " ++ request.role.roleId ++ " does not accept task kind " ++
      request.contract.taskKind.value))
  require (request.manifest.taskContractRef = taskContractRef request.contract)
    (.valueError "ContextManifest task_contract_ref does not match TaskContract")
  require (request.manifest.roleRef = request.role.ref)
    (.valueError "ContextManifest role_ref does not match RoleProfile")
  checkParent store request.contract request.parentRunId
  let (_, store) ← persistTaskContract store request.contract
  let (_, store) ← persistContextManifest store request.manifest
  let contractModel ← contractFromRef store (taskContractRef request.contract)
  let contextModel ← contextFromRef store (contextManifestRef request.manifest)
  let runId := resolveRunId request.runId uuid
  require (store.runs.get? runId = none) (.valueError ("task run already exists: " ++ runId))
  let model := newTaskRun request runId contractModel.taskContractVersionId
    contextModel.contextManifestVersionId now
  let runs ← fetch (store.runs.insert? model) (.integrityError "task_runs.run_id")
  let (_, store) ← appendTaskEvent { store with runs } (createdEvent request runId) eventId now
  return (taskRunView model, store)

/-- The row of a run after a claim. -/
def TaskRunModel.withClaim (run : TaskRunModel) (now : ℤ) : TaskRunModel :=
  { run with status := .running, updatedAt := now }

theorem TaskRunModel.withClaim_runId (run : TaskRunModel) (now : ℤ) :
    (run.withClaim now).runId = run.runId := rfl

def claimedEvent (model : TaskRunModel) (producer streamName : String) : EventRequest where
  taskRunId := model.runId
  eventType := .taskStarted
  producer := producer
  baseContextRevision := model.contextRevision
  payloadRef := "role-claim:" ++ model.roleId ++ "@" ++ model.roleVersion
  idempotencyKey := "role-claim:" ++ model.runId ++ ":" ++ toString model.contextRevision
  streamName := streamName

/-- `claim_queued_task_run`: `none` when the run is not queued. -/
def claimQueuedTaskRun (store : TaskStore) (runId streamName producer eventId : String) (now : ℤ) :
    Except Raised (Option TaskRun × TaskStore) := do
  let model ← getRun store runId
  if model.status ≠ .queued then return (none, store)
  else do
    let started := store.updateRun runId (fun run => run.withClaim now)
      (fun run => run.withClaim_runId now)
    let (_, next) ← appendTaskEvent started (claimedEvent model producer streamName) eventId now
    return (some (taskRunView (model.withClaim now)), next)

/-- The event that records a new context. -/
def contextUpdatedEvent (runId : String) (manifest : ContextManifest)
    (producer streamName : String) : EventRequest where
  taskRunId := runId
  eventType := .contextUpdated
  producer := producer
  baseContextRevision := manifest.contextRevision
  payloadRef := "context:" ++ contextManifestRef manifest
  idempotencyKey := "context-updated:" ++ contextManifestRef manifest
  streamName := streamName

/-- The row of a run after it has moved to another context. -/
def TaskRunModel.withContext (run : TaskRunModel) (manifest : ContextManifest)
    (contextVersionId : String) (now : ℤ) : TaskRunModel :=
  { run with
    contextManifestVersionId := contextVersionId
    contextId := manifest.contextId
    contextRevision := manifest.contextRevision
    baseContextRevision := manifest.contextRevision
    updatedAt := now }

theorem TaskRunModel.withContext_runId (run : TaskRunModel) (manifest : ContextManifest)
    (contextVersionId : String) (now : ℤ) :
    (run.withContext manifest contextVersionId now).runId = run.runId := rfl

/-- The error every operation on a terminal run raises. -/
def terminalError (status : TaskRunStatus) : Raised :=
  .valueError ("terminal task run is immutable: " ++ status.value)

/-- How the context of a run may change: the same context at a later revision, or
another that names the current one as its parent. -/
def checkLineage (model : TaskRunModel) (manifest : ContextManifest) : Except Raised Unit :=
  if manifest.contextId = model.contextId then
    require (model.contextRevision < manifest.contextRevision)
      (.valueError "updated context revision must advance monotonically")
  else
    require (manifest.parentContextId = some model.contextId)
      (.valueError "forked context must name the current context as parent_context_id")

def updateTaskContext (store : TaskStore) (runId : String) (manifest : ContextManifest)
    (streamName producer eventId : String) (now : ℤ) : Except Raised (TaskRun × TaskStore) := do
  let model ← getRun store runId
  require (model.status.isTerminal = false) (terminalError model.status)
  require (manifest.taskContractRef = versionedRef model.taskContractId model.taskContractRevision)
    (.valueError "updated context must reference the same task contract revision")
  require (manifest.roleRef = model.roleId ++ "@" ++ model.roleVersion)
    (.valueError "updated context must preserve the TaskRun role revision")
  checkLineage model manifest
  let (_, store) ← persistContextManifest store manifest
  let contextModel ← contextFromRef store (contextManifestRef manifest)
  let moved := store.updateRun runId
    (fun run => run.withContext manifest contextModel.contextManifestVersionId now)
    (fun run => run.withContext_runId manifest contextModel.contextManifestVersionId now)
  let (_, next) ← appendTaskEvent moved (contextUpdatedEvent runId manifest producer streamName)
    eventId now
  return (taskRunView (model.withContext manifest contextModel.contextManifestVersionId now), next)

/-- The arguments of `transition_task_run`. -/
structure TransitionTaskRun where
  runId : String
  target : TaskRunStatus
  (payloadRef idempotencyKey streamName : String)
  producer : String := "task-runtime"
  (resultRef stopReason : Option String := none)

/-- The row of a run after a transition. -/
def TaskRunModel.withTransition (run : TaskRunModel) (request : TransitionTaskRun) (now : ℤ) :
    TaskRunModel :=
  { run with
    status := request.target
    updatedAt := now
    resultRef := request.resultRef
    stopReason := request.stopReason
    finishedAt := if request.target.isTerminal then some now else run.finishedAt }

theorem TaskRunModel.withTransition_runId (run : TaskRunModel) (request : TransitionTaskRun)
    (now : ℤ) : (run.withTransition request now).runId = run.runId := rfl

def transitionEvent (model : TaskRunModel) (request : TransitionTaskRun) : EventRequest where
  taskRunId := request.runId
  eventType := eventForTransition request.target
  producer := request.producer
  baseContextRevision := model.contextRevision
  payloadRef := request.payloadRef
  idempotencyKey := request.idempotencyKey
  streamName := request.streamName

def transitionTaskRun (store : TaskStore) (request : TransitionTaskRun) (eventId : String)
    (now : ℤ) : Except Raised (TaskRun × TaskStore) := do
  require (∀ reason ∈ request.stopReason, reason.length ≤ 128)
    (.valueError "task stop_reason exceeds storage contract (128 characters)")
  let model ← getRun store request.runId
  require (model.status.isTerminal = false) (terminalError model.status)
  require (canTransitionTaskRun model.status request.target = true)
    (.valueError ("invalid task run transition: " ++ model.status.value ++ "->" ++
      request.target.value))
  let moved := store.updateRun request.runId (fun run => run.withTransition request now)
    (fun run => run.withTransition_runId request now)
  let (_, next) ← appendTaskEvent moved (transitionEvent model request) eventId now
  return (taskRunView (model.withTransition request now), next)

end SecFusion.TaskRuntime
