import SecFusion.TaskRuntime.Claims

/-!
# Lost wake-ups

A parent that waits for a child is woken by the child's terminal event.  The
parties are the callers of the task service, the parent's role, which reads the
status of a child it has delegated to, the consumer that processes events, and
the consumer's acknowledgement of a message; each step is one transaction.
`WakeState` adds to the store what the parties know.

The role learns that its child is not finished in one transaction and commits
`waiting_dependency` in a later one.  In between, the child may finish and its
event be processed, when the parent is not waiting yet: nothing will wake it
then, and recovery looks at queued and running runs only.  `wake_lost` is that
interleaving.  A wait that is committed before the child's terminal event is
processed is never lost; this is what `WaitsInTime` asks for, and
`no_lost_wake` proves.

The event of a terminal transition has to exist to wake anybody, and the key of
a wake has to be the scheduler's own, so `WaitsInTime` also asks of callers that
a terminal transition brings a new key and that nobody else uses a wake key.
-/

namespace SecFusion.TaskRuntime

open Foundations

/-! ## The system -/

/-- The store, how far the consumer of its events has come, and what the roles
have read. -/
structure WakeState where
  store : TaskStore
  /-- The events whose processing has been committed. -/
  processed : List String
  /-- The events whose messages have been acknowledged. -/
  acknowledged : List String
  /-- The parents and children of which the parent's role has read that the child
  is not finished. -/
  unfinished : List (String × String)

def WakeState.initial : WakeState := ⟨TaskStore.empty, [], [], []⟩

/-- A transaction of the task service, the answer of `delegate_enrichment` to the
role of the parent, or the acknowledgement of a message. -/
inductive WakeOp where
  | call (op : TaskOp)
  | delegationReturns (parentRunId childRunId : String)
  | acknowledge (eventId : String)

def processedBy : TaskOp → List String
  | .consume sourceEventId _ _ _ => [sourceEventId]
  | .create .. | .createChild .. | .claim .. | .updateContext .. | .transition .. | .append .. => []

/-- The steps of the system.  A message is acknowledged after its event has been
processed. -/
def wakeSystem : WakeOp → WakeState → Except Raised (Unit × WakeState)
  | .call op, state => do
      let (_, store) ← taskService op state.store
      return ((), { state with store, processed := processedBy op ++ state.processed })
  | .delegationReturns parentRunId childRunId, state => do
      let child ← getRun state.store childRunId
      if child.status.isTerminal then return ((), state)
      return ((), { state with unfinished := (parentRunId, childRunId) :: state.unfinished })
  | .acknowledge eventId, state =>
      if eventId ∈ state.processed then
        .ok ((), { state with acknowledged := eventId :: state.acknowledged })
      else .ok ((), state)

/-- The events that a terminal status is recorded by. -/
def isTerminalEvent : TaskEventType → Bool
  | .taskBlocked | .taskCompleted | .taskFailed | .taskCanceled => true
  | .taskCreated | .taskStarted | .taskPatched | .contextUpdated | .evidenceFound
  | .knowledgeChanged | .enrichmentStateChanged | .investigationStateChanged | .needInput
  | .needContext | .budgetWarning | .artifactProduced | .progress => false

theorem isTerminalEvent_eventForTransition {status : TaskRunStatus}
    (terminal : status.isTerminal = true) :
    isTerminalEvent (eventForTransition status) = true := by
  cases status <;> first | rfl | cases terminal

theorem isDependencyWakeEvent_of_terminal {eventType : TaskEventType}
    (terminal : isTerminalEvent eventType = true) : isDependencyWakeEvent eventType = true := by
  cases eventType <;> first | rfl | cases terminal

/-- The parent waits for the child, which is one of its own. -/
structure WaitsFor (store : TaskStore) (parentRunId childRunId : String) (child : TaskRunModel) :
    Prop where
  parent : ∃ parent, store.runs.get? parentRunId = some parent ∧
    parent.status = .waitingDependency ∧ dependencyRunId parent.stopReason = some childRunId
  childFound : store.runs.get? childRunId = some child
  related : child.parentRunId = some parentRunId

/-- The child has a terminal event that has not been processed. -/
def WakePending (state : WakeState) (childRunId : String) : Prop :=
  ∃ event ∈ state.store.eventsOf childRunId, isTerminalEvent event.eventType = true ∧
    event.eventId ∉ state.processed

/-- The key is one of those the scheduler makes. -/
def isWakeKey (key : String) : Bool := (afterHead? wakeKeyHead key).isSome

/-- **When a wait is in time**: the run it names has no terminal event that has
been processed.  A terminal transition brings a new key, and only the scheduler
uses wake keys. -/
def WaitsInTime (state : WakeState) : WakeOp → Prop
  | .call (.transition request _ _) =>
      isWakeKey request.idempotencyKey = false ∧
      (request.target.isTerminal = true →
        KeyUnused state.store request.runId request.idempotencyKey) ∧
      (request.target = .waitingDependency →
        ∀ childRunId ∈ dependencyRunId request.stopReason,
          ∀ event ∈ state.store.eventsOf childRunId,
            isTerminalEvent event.eventType = true → event.eventId ∉ state.processed)
  | .call (.append request _ _) => isWakeKey request.idempotencyKey = false
  | .call (.create ..) | .call (.createChild ..) | .call (.claim ..) | .call (.updateContext ..)
  | .call (.consume ..) | .delegationReturns .. | .acknowledge _ => True

/-- How a role comes to wait for a child: it has read that the child is not
finished. -/
def WaitsWhenTold (state : WakeState) : WakeOp → Prop
  | .call (.transition request _ _) => request.target = .waitingDependency →
      ∀ childRunId ∈ dependencyRunId request.stopReason,
        (request.runId, childRunId) ∈ state.unfinished
  | .call (.create ..) | .call (.createChild ..) | .call (.claim ..) | .call (.updateContext ..)
  | .call (.append ..) | .call (.consume ..) | .delegationReturns .. | .acknowledge _ => True

/-! ## Keys -/

theorem isWakeKey_wake (parentRunId source : String) :
    isWakeKey (wakeIdempotencyKey parentRunId source) = true := by
  rw [isWakeKey, wakeIdempotencyKey, Text.afterHead?_append]
  rfl

variable {parentRunId eventId runId producer streamName childRunId sourceEventId : String}
  {state : WakeState} {next store : TaskStore} {request : EventRequest} {now : ℤ}
  {event source : TaskEventModel} {view : TaskRun} {child : TaskRunModel}

theorem wakeIdempotencyKey_injective {first second : String}
    (same : wakeIdempotencyKey parentRunId first = wakeIdempotencyKey parentRunId second) :
    first = second := by
  unfold wakeIdempotencyKey at same
  rw [← toList_inj] at same ⊢
  simpa using same

theorem isWakeKey_of_start {key : String} {c : Char} {rest : List Char} (different : 'd' ≠ c)
    (starts : key.toList = c :: rest) : isWakeKey key = false := by
  have head : wakeKeyHead.toList = 'd' :: "ependency-wake:".toList := by decide
  rw [isWakeKey, Text.afterHead?_of_ne head starts different]
  rfl

theorem isWakeKey_claimed (run : TaskRunModel) (producer streamName : String) :
    isWakeKey (claimedEvent run producer streamName).idempotencyKey = false := by
  have starts : (claimedEvent run producer streamName).idempotencyKey.toList =
      'r' :: ("ole-claim:" ++ run.runId ++ ":" ++ toString run.contextRevision).toList := by
    simp [claimedEvent]
  exact isWakeKey_of_start (by decide) starts

theorem isWakeKey_contextUpdated (runId : String) (manifest : ContextManifest)
    (producer streamName : String) :
    isWakeKey (contextUpdatedEvent runId manifest producer streamName).idempotencyKey = false := by
  have starts : (contextUpdatedEvent runId manifest producer streamName).idempotencyKey.toList =
      'c' :: ("ontext-updated:" ++ contextManifestRef manifest).toList := by
    simp [contextUpdatedEvent]
  exact isWakeKey_of_start (by decide) starts

theorem isWakeKey_created (request : CreateTaskRun) (runId : String) :
    isWakeKey (createdEvent request runId).idempotencyKey = false := by
  have starts : (createdEvent request runId).idempotencyKey.toList =
      't' :: ("ask-created:" ++ runId).toList := by
    simp [createdEvent]
  exact isWakeKey_of_start (by decide) starts

/-! ## The invariant -/

/-- **What the system keeps** when every wait is in time. -/
structure WakeKept (state : WakeState) : Prop where
  log : LogKept state.store
  /-- What has been processed is in the log. -/
  known : ∀ id ∈ state.processed, ∃ event ∈ state.store.events.rows, event.eventId = id
  /-- A wake key is left by the processing of the event it is made of. -/
  wakes : ∀ event ∈ state.store.events.rows, ∀ source,
    event.idempotencyKey = wakeIdempotencyKey event.taskRunId source → source ∈ state.processed
  /-- The log of a terminal run says so. -/
  terminal : ∀ runId run, state.store.runs.get? runId = some run → run.status.isTerminal = true →
    ∃ event ∈ state.store.eventsOf runId, isTerminalEvent event.eventType = true
  pending : ∀ parentRunId childRunId child, WaitsFor state.store parentRunId childRunId child →
    child.status.isTerminal = true → WakePending state childRunId

theorem WakeKept.initial : WakeKept WakeState.initial where
  log := LogKept.empty
  known id listed := by cases listed
  wakes event listed := by cases listed
  terminal runId run found := by
    simp [WakeState.initial, TaskStore.empty] at found
  pending parentRunId childRunId child waits := by
    have found := waits.childFound
    simp [WakeState.initial, TaskStore.empty] at found

/-- The run was there with the same status, reason and parent. -/
def Stayed (store : TaskStore) (runId : String) (after : TaskRunModel) : Prop :=
  ∃ before, store.runs.get? runId = some before ∧ before.status = after.status ∧
    before.stopReason = after.stopReason ∧ before.parentRunId = after.parentRunId

/-- What a step has to do to keep the invariant: `next` is the store it leaves,
`processed` what has been processed after it. -/
structure Advances (state : WakeState) (next : TaskStore) (processed : List String) : Prop where
  log : LogKept next
  events : ∀ event ∈ state.store.events.rows, event ∈ next.events.rows
  known : ∀ id ∈ processed, ∃ event ∈ state.store.events.rows, event.eventId = id
  grew : ∀ id ∈ state.processed, id ∈ processed
  wakes : ∀ event ∈ next.events.rows, event ∈ state.store.events.rows ∨
    ∀ source, event.idempotencyKey = wakeIdempotencyKey event.taskRunId source → source ∈ processed
  /-- A run that has ended has a terminal event of its own, and a new one if it has
  just ended. -/
  ends : ∀ runId after, next.runs.get? runId = some after → after.status.isTerminal = true →
    Stayed state.store runId after ∨ ∃ event ∈ next.eventsOf runId,
      isTerminalEvent event.eventType = true ∧ event.eventId ∉ processed
  /-- A run that has just begun to wait waits for one whose terminal events have
  not been processed. -/
  waits : ∀ runId after, next.runs.get? runId = some after → after.status = .waitingDependency →
    Stayed state.store runId after ∨ ∀ childRunId ∈ dependencyRunId after.stopReason,
      ∀ event ∈ state.store.eventsOf childRunId, isTerminalEvent event.eventType = true →
        event.eventId ∉ state.processed
  /-- No event that somebody still waits for has been processed by the step. -/
  unprocessed : ∀ parentRunId childRunId child, WaitsFor next parentRunId childRunId child →
    ∀ event ∈ state.store.eventsOf childRunId, isTerminalEvent event.eventType = true →
      event.eventId ∉ state.processed → event.eventId ∉ processed

theorem WakeKept.advances {processed : List String} (kept : WakeKept state)
    (step : Advances state next processed) :
    WakeKept { state with store := next, processed } := by
  have logged : ∀ runId, ∀ event ∈ state.store.eventsOf runId, event ∈ next.eventsOf runId := by
    intro runId event member
    obtain ⟨listed, ofRun⟩ := mem_eventsOf.1 member
    exact mem_eventsOf.2 ⟨step.events event listed, ofRun⟩
  constructor
  case log => exact step.log
  case known =>
    intro id listed
    obtain ⟨event, member, same⟩ := step.known id listed
    exact ⟨event, step.events event member, same⟩
  case wakes =>
    intro event member source key
    rcases step.wakes event member with old | new
    · exact step.grew source (kept.wakes event old source key)
    · exact new source key
  case terminal =>
    intro runId after found ended
    rcases step.ends runId after found ended with ⟨before, beforeFound, status, -⟩ | new
    · obtain ⟨event, member, terminal⟩ :=
        kept.terminal runId before beforeFound (by rw [status]; exact ended)
      exact ⟨event, logged runId event member, terminal⟩
    · obtain ⟨event, member, terminal, -⟩ := new
      exact ⟨event, member, terminal⟩
  case pending =>
    intro parentRunId childRunId child waiting ended
    rcases step.ends childRunId child waiting.childFound ended with stayed | new
    · obtain ⟨before, beforeFound, status, -, parent⟩ := stayed
      have wasEnded : before.status.isTerminal = true := by rw [status]; exact ended
      -- the child had ended before: the event was pending, or the wait has just begun
      have pending : WakePending state childRunId := by
        obtain ⟨waiter, waiterFound, waits, dependency⟩ := waiting.parent
        rcases step.waits parentRunId waiter waiterFound waits with old | inTime
        · obtain ⟨earlier, earlierFound, sameStatus, sameReason, -⟩ := old
          refine kept.pending parentRunId childRunId before ⟨⟨earlier, earlierFound, ?_, ?_⟩,
            beforeFound, parent.trans waiting.related⟩ wasEnded
          · exact sameStatus.trans waits
          · rw [sameReason]
            exact dependency
        · obtain ⟨event, member, terminal⟩ := kept.terminal childRunId before beforeFound wasEnded
          exact ⟨event, member, terminal, inTime childRunId dependency event member terminal⟩
      obtain ⟨event, member, terminal, fresh⟩ := pending
      exact ⟨event, logged childRunId event member, terminal,
        step.unprocessed parentRunId childRunId child waiting event member terminal fresh⟩
    · exact new

/-! ## The calls -/

theorem Logs.mem_events_before (logs : Logs store request eventId now next)
    (member : event ∈ next.events.rows) : event ∈ store.events.rows ∨
      (event.taskRunId = request.taskRunId ∧ event.idempotencyKey = request.idempotencyKey) := by
  rcases logs.events with ⟨-, rfl⟩ | ⟨added, adds, rows, -⟩
  · exact .inl member
  · rw [rows, mem_append, mem_singleton] at member
    obtain ⟨run, -, made⟩ := adds.run
    rcases member with old | rfl
    · exact .inl old
    · exact .inr ⟨by rw [made]; rfl, by rw [made]; rfl⟩

/-- A call that processes nothing and logs no wake key. -/
theorem Advances.of_call {moved : TaskStore} (kept : WakeKept state)
    (effect : Effect state.store next) (logs : Logs moved request eventId now next)
    (sameLog : moved.events = state.store.events)
    (ordinary : isWakeKey request.idempotencyKey = false)
    (ends : ∀ runId after, next.runs.get? runId = some after → after.status.isTerminal = true →
      Stayed state.store runId after ∨ ∃ event ∈ next.eventsOf runId,
        isTerminalEvent event.eventType = true ∧ event.eventId ∉ state.processed)
    (waits : ∀ runId after, next.runs.get? runId = some after →
      after.status = .waitingDependency →
        Stayed state.store runId after ∨ ∀ childRunId ∈ dependencyRunId after.stopReason,
          ∀ event ∈ state.store.eventsOf childRunId, isTerminalEvent event.eventType = true →
            event.eventId ∉ state.processed) :
    Advances state next state.processed where
  log := kept.log.effect effect
  events event member := effect.mem_events member
  known := kept.known
  grew id listed := listed
  wakes event member := by
    rcases logs.mem_events_before member with old | ⟨-, key⟩
    · rw [sameLog] at old
      exact .inl old
    · refine .inr fun source wake => ?_
      rw [key] at wake
      rw [wake, isWakeKey_wake] at ordinary
      cases ordinary
  ends := ends
  waits := waits
  unprocessed _ _ _ _ _ _ _ fresh := fresh

theorem stayed_of_found {after : TaskRunModel} (found : store.runs.get? runId = some after) :
    Stayed store runId after :=
  ⟨after, found, rfl, rfl, rfl⟩

theorem Advances.of_append {state : WakeState} {next : TaskStore} {request : EventRequest}
    {eventId : String} {now : ℤ} (kept : WakeKept state)
    (logs : Logs state.store request eventId now next)
    (ordinary : isWakeKey request.idempotencyKey = false) :
    Advances state next state.processed := by
  have stayed : ∀ runId after, next.runs.get? runId = some after →
      Stayed state.store runId after := by
    intro runId after found
    rw [logs.runs] at found
    exact stayed_of_found found
  exact .of_call kept (.logged logs) logs rfl ordinary
    (fun runId after found _ => .inl (stayed runId after found))
    (fun runId after found _ => .inl (stayed runId after found))

theorem Advances.of_create {request : CreateTaskRun} {uuid : String} (kept : WakeKept state)
    (ok : createTaskRun state.store request uuid eventId now = .ok (view, next)) :
    Advances state next state.processed := by
  have effect := Effect.of_create ok
  obtain ⟨grown, runs, contractRow, contextVersionId, grows, -, -, -, fresh, inserted, logs⟩ :=
    createTaskRun_ok ok
  have rows : ∀ runId after, next.runs.get? runId = some after →
      after.status = .submitted ∨ Stayed state.store runId after := by
    intro runId after found
    rw [logs.runs] at found
    have lookup := (get?_insert? inserted runId).symm.trans found
    rw [grows.runs] at lookup
    split at lookup
    · cases lookup
      exact .inl rfl
    · exact .inr (stayed_of_found lookup)
  refine .of_call kept effect logs grows.events (isWakeKey_created request _) ?_ ?_
  · intro runId after found ended
    rcases rows runId after found with submitted | stayed
    · rw [submitted] at ended
      cases ended
    · exact .inl stayed
  · intro runId after found waiting
    rcases rows runId after found with submitted | stayed
    · rw [submitted] at waiting
      cases waiting
    · exact .inl stayed

theorem Advances.of_claim {run : TaskRunModel} (kept : WakeKept state)
    (effect : Effect state.store next)
    (logs : Logs (state.store.updateRun runId (fun run => run.withClaim now)
      fun run => run.withClaim_runId now) (claimedEvent run producer streamName) eventId now next) :
    Advances state next state.processed := by
  refine .of_call kept effect logs rfl (isWakeKey_claimed run producer streamName) ?_ ?_
  · intro other after found ended
    rcases row_of_rewrite (.refl _) logs found with ⟨-, before, -, rfl⟩ | stayed
    · cases ended
    · exact .inl (stayed_of_found stayed)
  · intro other after found waiting
    rcases row_of_rewrite (.refl _) logs found with ⟨-, before, -, rfl⟩ | stayed
    · cases waiting
    · exact .inl (stayed_of_found stayed)

theorem Advances.of_context {grown : TaskStore} {contextVersionId : String}
    {manifest : ContextManifest} (kept : WakeKept state) (effect : Effect state.store next)
    (grows : Grows state.store grown)
    (logs : Logs (grown.updateRun runId (fun run => run.withContext manifest contextVersionId now)
      fun run => run.withContext_runId manifest contextVersionId now)
      (contextUpdatedEvent runId manifest producer streamName) eventId now next) :
    Advances state next state.processed := by
  have stayed : ∀ other after, next.runs.get? other = some after →
      Stayed state.store other after := by
    intro other after found
    rcases row_of_rewrite grows logs found with ⟨-, before, beforeFound, rfl⟩ | same
    · exact ⟨before, beforeFound, rfl, rfl, rfl⟩
    · exact stayed_of_found same
  exact .of_call kept effect logs grows.events (isWakeKey_contextUpdated _ _ _ _)
    (fun other after found _ => .inl (stayed other after found))
    (fun other after found _ => .inl (stayed other after found))

/-- **A transition**: a run that ends leaves a new terminal event, and one that
begins to wait does so in time. -/
theorem Advances.of_transition {request : TransitionTaskRun} (kept : WakeKept state)
    (inTime : WaitsInTime state (.call (.transition request eventId now)))
    (ok : transitionTaskRun state.store request eventId now = .ok (view, next)) :
    Advances state next state.processed := by
  have effect := Effect.of_transition ok
  obtain ⟨run, runFound, -, -, logs⟩ := transitionTaskRun_ok ok
  obtain ⟨ordinary, newKey, waitsInTime⟩ := inTime
  refine .of_call kept effect logs rfl ordinary ?_ ?_
  · intro runId after found ended
    rcases row_of_rewrite (.refl _) logs found with ⟨rfl, before, -, rfl⟩ | stayed
    · refine .inr ?_
      rcases logs.events with ⟨⟨used, member, same⟩, -⟩ | ⟨event, adds, rows, -⟩
      · exact absurd same (newKey ended used member)
      · obtain ⟨_, -, made⟩ := adds.run
        refine ⟨event, ?_, ?_, ?_⟩
        · refine mem_eventsOf.2 ⟨?_, by rw [made]; rfl⟩
          rw [rows]
          exact mem_append_right _ (mem_singleton_self _)
        · rw [made]
          exact isTerminalEvent_eventForTransition ended
        · -- its identifier is new to the table, and what has been processed is in the table
          intro processed
          obtain ⟨prior, member, same⟩ := kept.known _ processed
          refine adds.freshId prior member (same.trans ?_)
          rw [made]
          rfl
    · exact .inl (stayed_of_found stayed)
  · intro runId after found waiting
    rcases row_of_rewrite (.refl _) logs found with ⟨rfl, before, -, rfl⟩ | stayed
    · exact .inr (waitsInTime waiting)
    · exact .inl (stayed_of_found stayed)

/-! ## Processing an event -/

/-- The parent that a logged event carries is the parent of its run. -/
theorem LogKept.parentRunId_eq (kept : LogKept store) {run : TaskRunModel}
    (member : event ∈ store.eventsOf runId) (found : store.runs.get? runId = some run) :
    event.parentRunId = run.parentRunId := by
  obtain ⟨listed, rfl⟩ := mem_eventsOf.1 member
  obtain ⟨owner, ownerFound, parent⟩ := kept.ofRun event listed
  obtain rfl := mem_unique ownerFound found
  exact parent

/-- An unprocessed terminal event of a run that its parent waits for is due. -/
theorem WakeKept.wakeDue (kept : WakeKept state)
    (waits : WaitsFor state.store parentRunId childRunId child)
    (member : event ∈ state.store.eventsOf childRunId)
    (terminal : isTerminalEvent event.eventType = true) (fresh : event.eventId ∉ state.processed) :
    WakeDue state.store event parentRunId := by
  have ofChild : event.taskRunId = childRunId := (mem_eventsOf.1 member).2
  constructor
  case wakes => exact isDependencyWakeEvent_of_terminal terminal
  case parent =>
    rw [kept.log.parentRunId_eq member waits.childFound]
    exact waits.related
  case unwoken =>
    rw [TaskStore.eventWithKey?, find?_eq_none]
    intro wake wakeMember sameKey
    obtain ⟨listed, ofParent⟩ := mem_eventsOf.1 wakeMember
    refine fresh (kept.wakes wake listed event.eventId ?_)
    rw [ofParent]
    simpa using sameKey
  case child =>
    rw [ofChild]
    exact ⟨child, waits.childFound, waits.related⟩
  case waiting =>
    rw [ofChild]
    exact waits.parent

/-- The event of an identifier is the one the table finds. -/
theorem eq_of_eventId (found : store.events.get? sourceEventId = some source)
    (member : event ∈ store.eventsOf runId) (same : event.eventId = sourceEventId) :
    event = source := by
  obtain ⟨sourceMember, sourceId⟩ := get?_eq_some.1 found
  exact eq_of_key (mem_eventsOf.1 member).1 sourceMember (same.trans sourceId.symm)

/-- Consuming an event that wakes nobody. -/
theorem Advances.of_idle (kept : WakeKept state)
    (found : state.store.events.get? sourceEventId = some source)
    (idle : ∀ parentRunId, ¬ WakeDue state.store source parentRunId) :
    Advances state state.store (sourceEventId :: state.processed) where
  log := kept.log
  events _ member := member
  known id listed := by
    rcases mem_cons.1 listed with rfl | old
    · exact ⟨source, get?_eq_some.1 found⟩
    · exact kept.known id old
  grew _ listed := mem_cons_of_mem _ listed
  wakes _ member := .inl member
  ends _ _ rowFound _ := .inl (stayed_of_found rowFound)
  waits _ _ rowFound _ := .inl (stayed_of_found rowFound)
  unprocessed parentRunId childRunId child waits event member terminal fresh listed := by
    rcases mem_cons.1 listed with same | old
    · have due := kept.wakeDue waits member terminal fresh
      obtain rfl := eq_of_eventId found member same
      exact idle parentRunId due
    · exact fresh old

/-- Consuming an event that wakes a parent: the parent no longer waits. -/
theorem Advances.of_wake {woken : String} (kept : WakeKept state)
    (found : state.store.events.get? sourceEventId = some source)
    (due : WakeDue state.store source woken)
    (moved : transitionTaskRun state.store (wakeTransition woken source streamName) eventId now =
      .ok (view, next)) : Advances state next (sourceEventId :: state.processed) := by
  have effect := Effect.of_transition moved
  obtain ⟨run, runFound, -, -, logs⟩ := transitionTaskRun_ok moved
  have sourceId : source.eventId = sourceEventId := key_of_get? found
  have rows : ∀ runId after, next.runs.get? runId = some after →
      (runId = woken ∧ after.status = .queued) ∨ Stayed state.store runId after := by
    intro runId after rowFound
    rcases row_of_rewrite (.refl _) logs rowFound with ⟨same, before, -, rfl⟩ | stayed
    · exact .inl ⟨same.symm, rfl⟩
    · exact .inr (stayed_of_found stayed)
  constructor
  case log => exact kept.log.effect effect
  case events => exact fun event member => effect.mem_events member
  case known =>
    intro id listed
    rcases mem_cons.1 listed with rfl | old
    · exact ⟨source, get?_eq_some.1 found⟩
    · exact kept.known id old
  case grew => exact fun id listed => mem_cons_of_mem _ listed
  case wakes =>
    intro event member
    rcases logs.mem_events_before member with old | ⟨ofRun, key⟩
    · exact .inl old
    · refine .inr fun other otherKey => ?_
      have named : event.taskRunId = woken := ofRun
      have made : event.idempotencyKey = wakeIdempotencyKey woken source.eventId := key
      rw [named, made] at otherKey
      rw [← wakeIdempotencyKey_injective otherKey, sourceId]
      exact mem_cons_self
  case ends =>
    intro runId after rowFound ended
    rcases rows runId after rowFound with ⟨-, queued⟩ | stayed
    · rw [queued] at ended
      cases ended
    · exact .inl stayed
  case waits =>
    intro runId after rowFound waiting
    rcases rows runId after rowFound with ⟨-, queued⟩ | stayed
    · rw [queued] at waiting
      cases waiting
    · exact .inl stayed
  case unprocessed =>
    intro parentRunId childRunId child waits event member terminal fresh listed
    rcases mem_cons.1 listed with same | old
    · obtain rfl := eq_of_eventId found member same
      -- the parent of the event is the run that was woken, so it is not waiting
      have parent : event.parentRunId = some parentRunId := by
        obtain ⟨listed, ofChild⟩ := mem_eventsOf.1 member
        obtain ⟨owner, ownerFound, ownerParent⟩ := kept.log.ofRun event listed
        obtain ⟨later, laterFound, sameRun⟩ := effect.sameRun ownerFound
        rw [ofChild, waits.childFound] at laterFound
        cases laterFound
        rw [ownerParent, ← sameRun.parent]
        exact waits.related
      obtain rfl := mem_unique parent due.parent
      obtain ⟨waiter, waiterFound, waiting, -⟩ := waits.parent
      have lookup : next.runs.get? parentRunId =
          (state.store.runs.get? parentRunId).map
            (fun run => run.withTransition (wakeTransition parentRunId event streamName) now) := by
        rw [logs.runs, get?_updateRun]
        exact if_pos rfl
      rw [waiterFound] at lookup
      obtain ⟨before, -, rewritten⟩ := map_eq_some_iff.1 lookup.symm
      rw [← rewritten] at waiting
      cases waiting
    · exact fresh old

/-! ## Every run -/

theorem WakeKept.call {state : WakeState} {op : TaskOp} {answer : TaskAnswer} {next : TaskStore}
    (kept : WakeKept state) (inTime : WaitsInTime state (.call op))
    (ok : taskService op state.store = .ok (answer, next)) :
    WakeKept { state with store := next, processed := processedBy op ++ state.processed } := by
  have effect := effect_of_ok ok
  cases taskService_called ok with
  | create called =>
      exact kept.advances (.of_create kept called)
  | createChild called =>
      obtain ⟨manifest, created⟩ := createChildTaskRun_ok called
      exact kept.advances (.of_create kept created)
  | claim called =>
      obtain ⟨run, found, ⟨-, -, rfl⟩ | ⟨queued, -, logs⟩⟩ := claimQueuedTaskRun_ok called
      · exact kept
      · exact kept.advances (.of_claim kept effect logs)
  | updateContext called =>
      obtain ⟨run, grown, contextVersionId, -, -, grows, logs⟩ := updateTaskContext_ok called
      exact kept.advances (.of_context kept effect grows logs)
  | transition called =>
      exact kept.advances (.of_transition kept inTime called)
  | append called =>
      exact kept.advances (.of_append kept (appendTaskEvent_ok called) inTime)
  | consume called =>
      obtain ⟨source, found, processed⟩ := consumeEvent_ok called
      rcases processEvent_ok processed with ⟨idle, -, rfl⟩ | ⟨woken, view, due, -, moved⟩
      · exact kept.advances (.of_idle kept found idle)
      · exact kept.advances (.of_wake kept found due moved)

theorem WakeKept.step {next : WakeState} {op : WakeOp} {answer : Unit} (kept : WakeKept state)
    (inTime : WaitsInTime state op) (ok : wakeSystem op state = .ok (answer, next)) :
    WakeKept next := by
  cases op with
  | call op =>
      obtain ⟨⟨reply, store⟩, called, ok⟩ := bind_eq_ok.1 ok
      cases ok
      exact kept.call inTime called
  | delegationReturns parentRunId childRunId =>
      obtain ⟨child, -, ok⟩ := bind_eq_ok.1 ok
      split at ok <;> cases ok
      · exact kept
      · exact { kept with }
  | acknowledge eventId =>
      simp only [wakeSystem] at ok
      split at ok <;> cases ok
      · exact { kept with }
      · exact kept

/-- The state after a sequence of steps. -/
def wakeStateAfter (ops : List WakeOp) : WakeState := run wakeSystem WakeState.initial ops

/-- **No wake-up is lost** when every wait is in time: in every reachable state, a
parent that waits for a child of its own has a child that has not ended, or a
terminal event of it that has not been processed and acknowledged. -/
theorem no_lost_wake (ops : List WakeOp)
    (inTime : Along wakeSystem WaitsInTime WakeState.initial ops)
    (parentRunId childRunId : String) (child : TaskRunModel)
    (waits : WaitsFor (wakeStateAfter ops).store parentRunId childRunId child) :
    child.status.isTerminal = false ∨
      ∃ event ∈ (wakeStateAfter ops).store.eventsOf childRunId,
        isTerminalEvent event.eventType = true ∧
        ¬ (event.eventId ∈ (wakeStateAfter ops).processed ∧
          event.eventId ∈ (wakeStateAfter ops).acknowledged) := by
  have kept : WakeKept (wakeStateAfter ops) :=
    run_invariant_along (fun _ _ _ _ kept inTime answered => WakeKept.step kept inTime answered)
      WakeKept.initial ops inTime
  cases ended : child.status.isTerminal with
  | false => exact .inl rfl
  | true =>
      obtain ⟨event, member, terminal, fresh⟩ := kept.pending parentRunId childRunId child waits ended
      exact .inr ⟨event, member, terminal, fun both => fresh both.1⟩

/-! ## Two interleavings -/

instance waitsInTimeDecidable (state : WakeState) :
    (op : WakeOp) → Decidable (WaitsInTime state op)
  | .call (.transition request _ _) =>
      inferInstanceAs (Decidable (isWakeKey request.idempotencyKey = false ∧
        (request.target.isTerminal = true → ∀ event ∈ state.store.eventsOf request.runId,
          event.idempotencyKey ≠ request.idempotencyKey) ∧
        (request.target = .waitingDependency → ∀ childRunId ∈ dependencyRunId request.stopReason,
          ∀ event ∈ state.store.eventsOf childRunId, isTerminalEvent event.eventType = true →
            event.eventId ∉ state.processed)))
  | .call (.append request _ _) =>
      inferInstanceAs (Decidable (isWakeKey request.idempotencyKey = false))
  | .call (.create ..) | .call (.createChild ..) | .call (.claim ..) | .call (.updateContext ..)
  | .call (.consume ..) | .delegationReturns .. | .acknowledge _ => inferInstanceAs (Decidable True)

instance waitsWhenToldDecidable (state : WakeState) :
    (op : WakeOp) → Decidable (WaitsWhenTold state op)
  | .call (.transition request _ _) =>
      inferInstanceAs (Decidable (request.target = .waitingDependency →
        ∀ childRunId ∈ dependencyRunId request.stopReason,
          (request.runId, childRunId) ∈ state.unfinished))
  | .call (.create ..) | .call (.createChild ..) | .call (.claim ..) | .call (.updateContext ..)
  | .call (.append ..) | .call (.consume ..) | .delegationReturns .. | .acknowledge _ =>
      inferInstanceAs (Decidable True)

/-- `parent` has delegated to `child`, and its role has read that `child` is not
finished. -/
def delegationAnswered : List WakeOp :=
  delegatedRun.map .call ++ [.delegationReturns "parent" "child"]

/-- The parent commits its wait first, and then the child completes. -/
def waitFirst : List WakeOp :=
  delegationAnswered ++ [.call parentWaits, .call childCompletes]

/-- The child completes, its event is processed and acknowledged, and then the
parent commits its wait. -/
def waitLast : List WakeOp :=
  delegationAnswered ++ [.call childCompletes, .call completionConsumed, .acknowledge "event-8",
    .call parentWaits]

/-- In a store given by evaluation, the parent waits for the child. -/
theorem waitsFor_of_rows
    (waiting : (store.runs.get? parentRunId).map
      (fun run => (run.status, dependencyRunId run.stopReason)) =
        some (.waitingDependency, some childRunId))
    (found : store.runs.get? childRunId = some child)
    (related : child.parentRunId = some parentRunId) :
    WaitsFor store parentRunId childRunId child := by
  obtain ⟨parent, parentFound, both⟩ := map_eq_some_iff.1 waiting
  obtain ⟨status, dependency⟩ := Prod.mk.inj both
  exact ⟨⟨parent, parentFound, status, dependency⟩, found, related⟩

theorem no_lost_wake_waitFirst :
    ∃ event ∈ (wakeStateAfter waitFirst).store.eventsOf "child",
      isTerminalEvent event.eventType = true ∧
      ¬ (event.eventId ∈ (wakeStateAfter waitFirst).processed ∧
        event.eventId ∈ (wakeStateAfter waitFirst).acknowledged) := by
  have waiting : ((wakeStateAfter waitFirst).store.runs.get? "parent").map
      (fun run => (run.status, dependencyRunId run.stopReason)) =
        some (.waitingDependency, some "child") := by decide +kernel
  have completed : ((wakeStateAfter waitFirst).store.runs.get? "child").map
      (fun run => (run.status, run.parentRunId)) = some (.completed, some "parent") := by
    decide +kernel
  obtain ⟨child, found, both⟩ := map_eq_some_iff.1 completed
  obtain ⟨status, related⟩ := Prod.mk.inj both
  rcases no_lost_wake waitFirst (by decide +kernel) "parent" "child" child
    (waitsFor_of_rows waiting found related) with live | pending
  · rw [status] at live
    cases live
  · exact pending

/-- The child finishes between the two transactions of its parent's role: the
parent waits for good. -/
theorem wake_lost :
    ¬ ∀ ops : List WakeOp, Along wakeSystem WaitsWhenTold WakeState.initial ops →
      ∀ parentRunId childRunId child,
        WaitsFor (wakeStateAfter ops).store parentRunId childRunId child →
          child.status.isTerminal = false ∨
            ∃ event ∈ (wakeStateAfter ops).store.eventsOf childRunId,
              isTerminalEvent event.eventType = true ∧
              ¬ (event.eventId ∈ (wakeStateAfter ops).processed ∧
                event.eventId ∈ (wakeStateAfter ops).acknowledged) := by
  intro neverLost
  have waiting : ((wakeStateAfter waitLast).store.runs.get? "parent").map
      (fun run => (run.status, dependencyRunId run.stopReason)) =
        some (.waitingDependency, some "child") := by decide +kernel
  have completed : ((wakeStateAfter waitLast).store.runs.get? "child").map
      (fun run => (run.status, run.parentRunId)) = some (.completed, some "parent") := by
    decide +kernel
  have consumed : ∀ event ∈ (wakeStateAfter waitLast).store.eventsOf "child",
      isTerminalEvent event.eventType = true →
        event.eventId ∈ (wakeStateAfter waitLast).processed ∧
          event.eventId ∈ (wakeStateAfter waitLast).acknowledged := by decide +kernel
  obtain ⟨child, found, both⟩ := map_eq_some_iff.1 completed
  obtain ⟨status, related⟩ := Prod.mk.inj both
  rcases neverLost waitLast (by decide +kernel) "parent" "child" child
    (waitsFor_of_rows waiting found related) with live | ⟨event, member, terminal, pending⟩
  · rw [status] at live
    cases live
  · exact pending (consumed event member terminal)

end SecFusion.TaskRuntime
