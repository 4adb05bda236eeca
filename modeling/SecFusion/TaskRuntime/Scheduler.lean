import SecFusion.TaskRuntime.Handoff

/-!
# Waking a waiting parent, and the task service

A run that waits for another names it in its stop reason.  The consumer of the
event stream hands every event to `DependencyWakeScheduler.process_event`, which
queues the parent of the run that emitted it when the parent waits for exactly
that run; the wake is an ordinary transition whose idempotency key is derived
from the event.

`taskService` gathers the calls that write the store.  A database transaction
that makes several calls is a run of them; when it is rolled back, the store it
leaves is the one it met.
-/

namespace SecFusion.TaskRuntime

open Foundations

/-- `DEPENDENCY_WAKE_EVENT_TYPES`. -/
def isDependencyWakeEvent : TaskEventType → Bool
  | .enrichmentStateChanged | .taskCompleted | .taskBlocked | .taskFailed | .taskCanceled => true
  | .taskCreated | .taskStarted | .taskPatched | .contextUpdated | .evidenceFound
  | .knowledgeChanged | .investigationStateChanged | .needInput | .needContext | .budgetWarning
  | .artifactProduced | .progress => false

inductive DependencyWakeDisposition where
  | queued
  | replay
  | irrelevantEvent
  | noParent
  | parentNotWaiting
  | differentDependency

/-- `DependencyWakeResult`. -/
structure DependencyWakeResult where
  (sourceEventId childRunId : String)
  parentRunId : Option String
  disposition : DependencyWakeDisposition

/-- `DependencyWakeScheduler._result`. -/
def wakeResult (event : TaskEventModel) (disposition : DependencyWakeDisposition) :
    DependencyWakeResult where
  sourceEventId := event.eventId
  childRunId := event.taskRunId
  parentRunId := event.parentRunId
  disposition := disposition

def wakeKeyHead : String := "dependency-wake:"

/-- `_wake_idempotency_key`. -/
def wakeIdempotencyKey (parentRunId sourceEventId : String) : String :=
  wakeKeyHead ++ (parentRunId ++ ":" ++ sourceEventId)

def wakeTransition (parentRunId : String) (event : TaskEventModel) (streamName : String) :
    TransitionTaskRun where
  runId := parentRunId
  target := .queued
  payloadRef := "dependency-wake:" ++ event.taskRunId ++ ":" ++ event.eventType.value
  idempotencyKey := wakeIdempotencyKey parentRunId event.eventId
  streamName := streamName
  producer := "task-runtime-scheduler"
  stopReason := none

/-- `DependencyWakeScheduler.process_event`. -/
def processEvent (store : TaskStore) (event : TaskEventModel) (streamName eventId : String)
    (now : ℤ) : Except Raised (DependencyWakeResult × TaskStore) :=
  if isDependencyWakeEvent event.eventType = false then
    .ok (wakeResult event .irrelevantEvent, store)
  else
    match event.parentRunId with
    | none => .ok (wakeResult event .noParent, store)
    | some parentRunId =>
        match store.eventWithKey? parentRunId (wakeIdempotencyKey parentRunId event.eventId) with
        | some _ => .ok (wakeResult event .replay, store)
        | none =>
            match store.runs.get? event.taskRunId with
            | none => .ok (wakeResult event .noParent, store)
            | some child =>
                if child.parentRunId ≠ some parentRunId then
                  .ok (wakeResult event .noParent, store)
                else
                  match store.runs.get? parentRunId with
                  | none => .ok (wakeResult event .noParent, store)
                  | some parent =>
                      if parent.status ≠ .waitingDependency then
                        .ok (wakeResult event .parentNotWaiting, store)
                      else if dependencyRunId parent.stopReason ≠ some event.taskRunId then
                        .ok (wakeResult event .differentDependency, store)
                      else do
                        let (_, next) ← transitionTaskRun store
                          (wakeTransition parent.runId event streamName) eventId now
                        return (wakeResult event .queued, next)

/-- The transaction of the stream consumer: load the event, process it. -/
def consumeEvent (store : TaskStore) (sourceEventId streamName eventId : String) (now : ℤ) :
    Except Raised (DependencyWakeResult × TaskStore) := do
  let event ← getTaskEvent store sourceEventId
  processEvent store event streamName eventId now

/-! ## The service -/

/-- One call of the task runtime.  `uuid` and `eventId` are the identifiers the
call draws, `now` the instant it reads. -/
inductive TaskOp where
  | create (request : CreateTaskRun) (uuid eventId : String) (now : ℤ)
  | createChild (request : CreateChildTaskRun) (uuid eventId : String) (now : ℤ)
  | claim (runId streamName producer eventId : String) (now : ℤ)
  | updateContext (runId : String) (manifest : ContextManifest)
      (streamName producer eventId : String) (now : ℤ)
  | transition (request : TransitionTaskRun) (eventId : String) (now : ℤ)
  | append (request : EventRequest) (eventId : String) (now : ℤ)
  | consume (sourceEventId streamName eventId : String) (now : ℤ)

inductive TaskAnswer where
  | run (view : TaskRun)
  | claimed (view : Option TaskRun)
  | appended (result : TaskEventAppendResult)
  | woken (result : DependencyWakeResult)

/-- Every call of the task runtime, as one transaction over the store. -/
def taskService : TaskOp → TaskStore → Except Raised (TaskAnswer × TaskStore)
  | .create request uuid eventId now, store => do
      let (view, next) ← createTaskRun store request uuid eventId now
      return (.run view, next)
  | .createChild request uuid eventId now, store => do
      let (view, next) ← createChildTaskRun store request uuid eventId now
      return (.run view, next)
  | .claim runId streamName producer eventId now, store => do
      let (view, next) ← claimQueuedTaskRun store runId streamName producer eventId now
      return (.claimed view, next)
  | .updateContext runId manifest streamName producer eventId now, store => do
      let (view, next) ← updateTaskContext store runId manifest streamName producer eventId now
      return (.run view, next)
  | .transition request eventId now, store => do
      let (view, next) ← transitionTaskRun store request eventId now
      return (.run view, next)
  | .append request eventId now, store => do
      let (result, next) ← appendTaskEvent store request eventId now
      return (.appended result, next)
  | .consume sourceEventId streamName eventId now, store => do
      let (result, next) ← consumeEvent store sourceEventId streamName eventId now
      return (.woken result, next)

/-- The call that an answer of the service comes from. -/
inductive TaskCalled (store next : TaskStore) : TaskOp → TaskAnswer → Prop
  | create {request uuid eventId now view}
      (called : createTaskRun store request uuid eventId now = .ok (view, next)) :
      TaskCalled store next (.create request uuid eventId now) (.run view)
  | createChild {request uuid eventId now view}
      (called : createChildTaskRun store request uuid eventId now = .ok (view, next)) :
      TaskCalled store next (.createChild request uuid eventId now) (.run view)
  | claim {runId streamName producer eventId now view}
      (called : claimQueuedTaskRun store runId streamName producer eventId now =
        .ok (view, next)) :
      TaskCalled store next (.claim runId streamName producer eventId now) (.claimed view)
  | updateContext {runId manifest streamName producer eventId now view}
      (called : updateTaskContext store runId manifest streamName producer eventId now =
        .ok (view, next)) :
      TaskCalled store next (.updateContext runId manifest streamName producer eventId now)
        (.run view)
  | transition {request eventId now view}
      (called : transitionTaskRun store request eventId now = .ok (view, next)) :
      TaskCalled store next (.transition request eventId now) (.run view)
  | append {request eventId now result}
      (called : appendTaskEvent store request eventId now = .ok (result, next)) :
      TaskCalled store next (.append request eventId now) (.appended result)
  | consume {sourceEventId streamName eventId now result}
      (called : consumeEvent store sourceEventId streamName eventId now = .ok (result, next)) :
      TaskCalled store next (.consume sourceEventId streamName eventId now) (.woken result)

theorem taskService_called {op : TaskOp} {answer : TaskAnswer} {store next : TaskStore}
    (ok : taskService op store = .ok (answer, next)) : TaskCalled store next op answer := by
  cases op
  all_goals
    obtain ⟨⟨result, last⟩, called, ok⟩ := bind_eq_ok.1 ok
    cases ok
    constructor
    exact called

end SecFusion.TaskRuntime
