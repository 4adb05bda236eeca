import SecFusion.Execution.Lifecycle
import SecFusion.TaskRuntime.Dispatch

/-!
# Recovering queued and running roles

The model of `packages/runtime/execution/recovery.py`.  A queued role whose dispatch
was lost is given another one: `recover_queued_role_tasks` appends a progress event
that the scheduler takes for a dispatch.  A queued run that cannot start any more, and
a running one whose deadline has passed, are closed together with their execution.

A retry is due when the last dispatch of a run was requested, and delivered, at least
`stale_seconds` ago.  Its idempotency key does not name that instant but the *window*
in which it lies: the seconds since the epoch, divided by `stale_seconds`.

Instants are counted in microseconds from the epoch.  `timestamp()` is the exact
quotient here; the rounding of the float it answers is not modelled.
-/

namespace SecFusion.TaskRuntime

open Foundations Execution

/-! ## Windows -/

/-- `timedelta(seconds=stale_seconds)`. -/
def staleFor (staleSeconds : ℤ) : ℤ := staleSeconds * 1000000

/-- `int(instant.timestamp()) // stale_seconds`: `int` truncates towards zero, and the
division rounds down. -/
def retryWindow (staleSeconds instant : ℤ) : ℤ := (instant.tdiv 1000000).fdiv staleSeconds

/-- The head of the payload and of the key of every retry. -/
def retryHead : String := "role-dispatch-recovery:"

def retryKey (runId : String) (staleSeconds instant : ℤ) : String :=
  retryHead ++ (runId ++ ":" ++ toString (retryWindow staleSeconds instant))

def isRetryKey (key : String) : Bool := (afterHead? retryHead key).isSome

/-! ## State -/

/-- `DISPATCHED_ROLES`. -/
def dispatchedRoles : List String := ["EnrichmentRole", "InvestigationRole"]

/-- `EXECUTING_ROLES`. -/
def executingRoles : List String := "DecisionRole" :: dispatchedRoles

/-- The tables a recovery reads: task runs with their streams, and executions. -/
structure RecoveryState where
  dispatch : DispatchState
  executions : ExecutionStore
  /-- The column `delivered_at` of the deliveries, which only the recovery reads. -/
  deliveredAt : Dict String ℤ

namespace RecoveryState

def initial : RecoveryState := ⟨DispatchState.initial, ExecutionStore.empty, .empty⟩

abbrev tasks (state : RecoveryState) : TaskStore := state.dispatch.tasks

/-- The state with another task store. -/
def withTasks (state : RecoveryState) (tasks : TaskStore) : RecoveryState :=
  { state with dispatch := { state.dispatch with tasks } }

end RecoveryState

/-- What one call of a recovery reads beside the tables, and what it draws. -/
structure RecoveryTick where
  instant : ℤ
  limit : ℤ := 100
  streamName : String := "secfusion:task-events"
  /-- The runs whose rows another transaction has locked (`skip_locked`). -/
  locked : List String := []
  /-- The executions whose stored envelope does not validate. -/
  unreadable : List String := []
  /-- The identifier drawn for the event of a run. -/
  eventIds : String → String

/-- The runs a recovery has given another dispatch, and those it has closed. -/
structure RecoveryReport where
  (retried closed : List String := [])

/-! ## Selection -/

/-- The order in which stale runs are selected. -/
def UpdatedBefore (first second : TaskRunModel) : Prop :=
  first.updatedAt < second.updatedAt ∨
    (first.updatedAt = second.updatedAt ∧ first.runId ≤ second.runId)

instance updatedBeforeDecidable (first second : TaskRunModel) :
    Decidable (UpdatedBefore first second) :=
  inferInstanceAs (Decidable (_ ∨ _))

/-- The runs of a status and of some roles that have not been written since the
threshold, as far as the limit goes. -/
def staleRuns (store : TaskStore) (status : TaskRunStatus) (roles : List String) (threshold : ℤ)
    (tick : RecoveryTick) : List TaskRunModel :=
  ((store.runs.select fun run => run.status = status ∧ run.roleId ∈ roles ∧
      run.updatedAt ≤ threshold ∧ run.runId ∉ tick.locked).insertionSort UpdatedBefore).take
    tick.limit.toNat

/-- The envelope of an execution, when it is stored and validates. -/
def RecoveryState.envelope? (state : RecoveryState) (tick : RecoveryTick) (executionId : String) :
    Option ExecutionEnvelope :=
  if executionId ∈ tick.unreadable then none
  else (state.executions.runs.get? executionId).map (·.envelopeJson)

/-! ## Closing a run -/

/-- Why a recovery closes a run. -/
inductive RecoveryClosing where
  | executionUnavailable
  | deadlineBeforeStart
  | deadlineExceeded

namespace RecoveryClosing

def target : RecoveryClosing → TaskRunStatus
  | .executionUnavailable => .blocked
  | .deadlineBeforeStart | .deadlineExceeded => .timedOut

def executionStatus : RecoveryClosing → ExecutionStatus
  | .executionUnavailable => .blocked
  | .deadlineBeforeStart | .deadlineExceeded => .timedOut

def payloadRef : RecoveryClosing → String
  | .executionUnavailable => "role-recovery:execution-envelope-unavailable"
  | .deadlineBeforeStart => "role-recovery:deadline-before-start"
  | .deadlineExceeded => "execution-recovery:deadline-exceeded"

def keyHead : RecoveryClosing → String
  | .executionUnavailable => "role-recovery:invalid-execution:"
  | .deadlineBeforeStart => "role-recovery:deadline:"
  | .deadlineExceeded => "execution-recovery:deadline:"

def producer : RecoveryClosing → String
  | .executionUnavailable | .deadlineBeforeStart => "task-runtime-recovery"
  | .deadlineExceeded => "execution-runtime-recovery"

def stopReason : RecoveryClosing → String
  | .executionUnavailable => "execution_envelope_unavailable"
  | .deadlineBeforeStart => "deadline_reached_before_start"
  | .deadlineExceeded => "deadline_exceeded_without_terminal_result"

def request (closing : RecoveryClosing) (tick : RecoveryTick) (runId : String) :
    TransitionTaskRun where
  runId := runId
  target := closing.target
  payloadRef := closing.payloadRef
  idempotencyKey := closing.keyHead ++ runId
  streamName := tick.streamName
  producer := closing.producer
  stopReason := some closing.stopReason

end RecoveryClosing

/-- A run is closed: its transition, and the end of its execution if that has not
ended. -/
def closeRun (closing : RecoveryClosing) (tick : RecoveryTick) (state : RecoveryState)
    (run : TaskRunModel) : Except Raised RecoveryState := do
  let (_, tasks) ← transitionTaskRun state.tasks (closing.request tick run.runId)
    (tick.eventIds run.runId) tick.instant
  match state.executions.progress.get? run.executionEnvelopeRef with
  | none => return state.withTasks tasks
  | some execution =>
      if execution.status = .created ∨ execution.status = .running then do
        let executions ← state.executions.finish execution.executionId closing.executionStatus
          closing.stopReason tick.instant
        return { state.withTasks tasks with executions }
      else return state.withTasks tasks

/-! ## Queued roles -/

/-- The events that dispatch a run: those that queue it, and the retries. -/
def isDispatchEvent (event : TaskEventModel) : Bool :=
  event.eventType = .taskPatched ∨ (afterHead? retryHead event.payloadRef).isSome

/-- The order in which the last dispatch is looked for. -/
def EmittedAfter (first second : TaskEventModel) : Prop :=
  second.emittedAt < first.emittedAt ∨
    (second.emittedAt = first.emittedAt ∧ second.seq ≤ first.seq)

instance emittedAfterDecidable (first second : TaskEventModel) :
    Decidable (EmittedAfter first second) :=
  inferInstanceAs (Decidable (_ ∨ _))

/-- `last_dispatch_event`. -/
def lastDispatchEvent? (store : TaskStore) (runId : String) : Option TaskEventModel :=
  (((store.eventsOf runId).filter isDispatchEvent).insertionSort EmittedAfter).head?

/-- The run waits for its last dispatch: the delivery is pending, or the event was
requested or delivered after the threshold. -/
def RecoveryState.AwaitsDispatch (state : RecoveryState) (threshold : ℤ) (runId : String) : Prop :=
  ∃ event ∈ lastDispatchEvent? state.tasks runId,
    (∃ delivery ∈ state.tasks.deliveries.get? event.eventId, delivery.status = .pending) ∨
      threshold < event.emittedAt ∨
      ∃ _delivery ∈ state.tasks.deliveries.get? event.eventId,
        ∃ deliveredAt ∈ state.deliveredAt.get? event.eventId, threshold < deliveredAt

instance awaitsDispatchDecidable (state : RecoveryState) (threshold : ℤ) (runId : String) :
    Decidable (state.AwaitsDispatch threshold runId) :=
  inferInstanceAs (Decidable (∃ event ∈ lastDispatchEvent? state.tasks runId, _ ∨ _ ∨ _))

def retryEvent (staleSeconds : ℤ) (tick : RecoveryTick) (run : TaskRunModel) : EventRequest where
  taskRunId := run.runId
  eventType := .progress
  producer := "task-runtime-recovery"
  baseContextRevision := run.contextRevision
  payloadRef := retryHead ++ run.runId
  idempotencyKey := retryKey run.runId staleSeconds tick.instant
  streamName := tick.streamName

/-- One round of the loop over queued runs. -/
def recoverRun (staleSeconds : ℤ) (tick : RecoveryTick) (reached : RecoveryState × RecoveryReport)
    (run : TaskRunModel) : Except Raised (RecoveryState × RecoveryReport) := do
  let (state, report) := reached
  match (state.envelope? tick run.executionEnvelopeRef).filter (·.taskRunId = run.runId) with
  | none => do
      let next ← closeRun .executionUnavailable tick state run
      return (next, { report with closed := report.closed ++ [run.runId] })
  | some envelope =>
      if envelope.deadlineAt ≤ tick.instant then do
        let next ← closeRun .deadlineBeforeStart tick state run
        return (next, { report with closed := report.closed ++ [run.runId] })
      else if state.AwaitsDispatch (tick.instant - staleFor staleSeconds) run.runId then
        return (state, report)
      else do
        -- The answer says whether the event is a replay; it is not looked at.
        let (_, tasks) ← appendTaskEvent state.tasks (retryEvent staleSeconds tick run)
          (tick.eventIds run.runId) tick.instant
        return (state.withTasks tasks, { report with retried := report.retried ++ [run.runId] })

/-- `recover_queued_role_tasks`. -/
def recoverQueuedRoleTasks (staleSeconds : ℤ) (state : RecoveryState) (tick : RecoveryTick) :
    Except Raised (RecoveryReport × RecoveryState) := do
  require (1 ≤ staleSeconds ∧ 1 ≤ tick.limit)
    (.valueError "role recovery bounds must be positive")
  let threshold := tick.instant - staleFor staleSeconds
  let (next, report) ← (staleRuns state.tasks .queued dispatchedRoles threshold tick).foldlM
    (recoverRun staleSeconds tick) (state, {})
  return (report, next)

/-! ## Running roles -/

/-- One round of the loop over running runs. -/
def expireRun (tick : RecoveryTick) (reached : RecoveryState × RecoveryReport)
    (run : TaskRunModel) : Except Raised (RecoveryState × RecoveryReport) := do
  let (state, report) := reached
  match state.executions.progress.get? run.executionEnvelopeRef,
      state.envelope? tick run.executionEnvelopeRef with
  | some execution, some envelope =>
      if (execution.status = .created ∨ execution.status = .running) ∧
          envelope.taskRunId = run.runId ∧ envelope.deadlineAt ≤ tick.instant then do
        let next ← closeRun .deadlineExceeded tick state run
        return (next, { report with closed := report.closed ++ [run.runId] })
      else return reached
  | _, _ => return reached

/-- `expire_stale_running_tasks`. -/
def expireStaleRunningTasks (staleSeconds : ℤ) (state : RecoveryState) (tick : RecoveryTick) :
    Except Raised (RecoveryReport × RecoveryState) := do
  require (1 ≤ staleSeconds ∧ 1 ≤ tick.limit)
    (.valueError "execution recovery bounds must be positive")
  let threshold := tick.instant - staleFor staleSeconds
  let (next, report) ← (staleRuns state.tasks .running executingRoles threshold tick).foldlM
    (expireRun tick) (state, {})
  return (report, next)

/-! ## The system -/

/-- The instants at which deliveries were marked, after a tick of the dispatcher. -/
def markDelivered (before after : TaskStore) (instant : ℤ) (times : Dict String ℤ) :
    Dict String ℤ :=
  let marked := after.deliveries.select fun row => row.status = .delivered ∧
    ∃ old ∈ before.deliveries.get? row.eventId, old.status = .pending
  marked.foldl (fun times row => times.set row.eventId instant) times

/-- A call of the task runtime, a tick of the dispatcher, a call of
`ExecutionRunService`, or a recovery. -/
inductive RecoveryOp where
  | call (op : TaskOp)
  | deliver (tick : DispatchTick)
  | createExecution (envelope : ExecutionEnvelope)
  | startExecution (executionId : String) (now : ℤ)
  | finishExecution (executionId : String) (status : ExecutionStatus) (stopReason : String)
      (now : ℤ)
  | recover (tick : RecoveryTick)
  | expire (staleSeconds : ℤ) (tick : RecoveryTick)

/-- The recoveries of queued roles all use one `stale_seconds`. -/
def recoverySystem (staleSeconds : ℤ) :
    RecoveryOp → RecoveryState → Except Raised (RecoveryReport × RecoveryState)
  | .call op, state => do
      let (_, tasks) ← taskService op state.tasks
      return ({}, state.withTasks tasks)
  | .deliver tick, state =>
      let dispatch := dispatchPendingTaskEvents state.dispatch tick
      let times := markDelivered state.tasks dispatch.tasks tick.instant state.deliveredAt
      .ok ({}, { state with dispatch, deliveredAt := times })
  | .createExecution envelope, state => do
      let (_, executions) ← state.executions.create envelope
      return ({}, { state with executions })
  | .startExecution executionId now, state => do
      let executions ← state.executions.start executionId now
      return ({}, { state with executions })
  | .finishExecution executionId status stopReason now, state => do
      let executions ← state.executions.finish executionId status stopReason now
      return ({}, { state with executions })
  | .recover tick, state => recoverQueuedRoleTasks staleSeconds state tick
  | .expire stale tick, state => expireStaleRunningTasks stale state tick

def recoveryStateAfter (staleSeconds : ℤ) (ops : List RecoveryOp) : RecoveryState :=
  run (recoverySystem staleSeconds) RecoveryState.initial ops

/-- The instants of the recoveries of queued roles, in their order. -/
def recoveryInstants (ops : List RecoveryOp) : List ℤ :=
  ops.filterMap fun op => match op with
    | .recover tick => some tick.instant
    | .call .. | .deliver .. | .createExecution .. | .startExecution .. | .finishExecution ..
    | .expire .. => none

end SecFusion.TaskRuntime
