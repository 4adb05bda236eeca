import SecFusion.TaskRuntime.Lifecycle

/-!
# Status and event log

A run's status is a column of its row, and its log records how it got there.
`replayStatus` folds the log back into a status; this module asks when the fold
is the column.

A call changes the row first and appends its event after, and the append is
idempotent in a key the caller chooses.  The two therefore agree as long as every
call that changes a status brings a key the run has not used (`BringsNewKey`).
`claim_queued_task_run` does not always: its key is made of the run and its
context revision, and a run that waits, is woken and is claimed again under the
same context claims twice with one key.  `claim_leaves_no_event` is such a run.

The fold cannot tell a run that failed from one that timed out, the two being
recorded by one type of event.
-/

namespace SecFusion.TaskRuntime

open Foundations

/-! ## The fold -/

def recordedStatus : TaskEventType → Option TaskRunStatus
  | .taskCreated => some .submitted
  | .taskPatched => some .queued
  | .taskStarted => some .running
  | .needInput => some .waitingInput
  | .needContext => some .waitingDependency
  | .taskBlocked => some .blocked
  | .taskCompleted => some .completed
  | .taskFailed => some .failed
  | .taskCanceled => some .cancelled
  | .contextUpdated | .evidenceFound | .knowledgeChanged | .enrichmentStateChanged
  | .investigationStateChanged | .budgetWarning | .artifactProduced | .progress => none

/-- Replay a log, in the order of its numbers: the last recorded status. -/
def replayStatus (events : List TaskEventModel) : Option TaskRunStatus :=
  events.foldl (fun status event => (recordedStatus event.eventType).or status) none

@[simp] theorem replayStatus_append (events : List TaskEventModel) (event : TaskEventModel) :
    replayStatus (events ++ [event]) =
      (recordedStatus event.eventType).or (replayStatus events) := by
  simp [replayStatus]

/-- The event of a transition records its target, unless the target is `timed_out`. -/
theorem recordedStatus_eventForTransition {current target : TaskRunStatus}
    (allowed : canTransitionTaskRun current target = true) (known : target ≠ .timedOut) :
    recordedStatus (eventForTransition target) = some target := by
  cases target with
  | submitted => cases current <;> simp [canTransitionTaskRun, taskRunTransitions] at allowed
  | timedOut => exact absurd rfl known
  | queued | running | waitingInput | waitingDependency | blocked | completed | failed
  | cancelled => rfl

/-! ## What one call records -/

def KeyUnused (store : TaskStore) (runId key : String) : Prop :=
  ∀ event ∈ store.eventsOf runId, event.idempotencyKey ≠ key

/-- A call that changes a status brings a key the run has not used, and no other
call records a status. -/
def BringsNewKey (store : TaskStore) : TaskOp → Prop
  | .claim runId _ _ _ _ => ∀ run ∈ store.runs.get? runId, run.status = .queued →
      KeyUnused store runId ("role-claim:" ++ run.runId ++ ":" ++ toString run.contextRevision)
  | .transition request _ _ =>
      KeyUnused store request.runId request.idempotencyKey ∧ request.target ≠ .timedOut
  | .append request _ _ => recordedStatus request.eventType = none
  | .create .. | .createChild .. | .updateContext .. | .consume .. => True

/-- How a call shows in the log of every run. -/
structure Records (store next : TaskStore) : Prop where
  /-- A status that changes is recorded by a new event of the type of the transition. -/
  changed : ∀ runId before after, store.runs.get? runId = some before →
    next.runs.get? runId = some after → after.status ≠ before.status →
      after.status ≠ .timedOut ∧ ∃ event, event.eventType = eventForTransition after.status ∧
        next.eventsOf runId = store.eventsOf runId ++ [event]
  /-- A status that stays is replayed as before. -/
  unchanged : ∀ runId before after, store.runs.get? runId = some before →
    next.runs.get? runId = some after → after.status = before.status →
      replayStatus (next.eventsOf runId) = replayStatus (store.eventsOf runId)
  /-- A new run is recorded as submitted. -/
  created : ∀ runId after, store.runs.get? runId = none → next.runs.get? runId = some after →
    replayStatus (next.eventsOf runId) = some .submitted

theorem Records.refl (store : TaskStore) : Records store store where
  changed runId before after found later different := by
    rw [found] at later
    cases later
    exact absurd rfl different
  unchanged _ _ _ _ _ _ := rfl
  created runId after absent found := by
    rw [absent] at found
    cases found

variable {store next : TaskStore} {request : EventRequest} {eventId runId : String} {now : ℤ}
  {rewrite : TaskRunModel → TaskRunModel} {view : TaskRun}

/-- A log that gets an event of another run, or none, stays. -/
theorem Logs.eventsOf_of_ne (logs : Logs store request eventId now next)
    (other : request.taskRunId ≠ runId) : next.eventsOf runId = store.eventsOf runId := by
  rcases logs.events with ⟨-, rfl⟩ | ⟨event, adds, rows, -⟩
  · rfl
  · obtain ⟨run, -, rfl⟩ := adds.run
    rw [eventsOf_append rows, if_neg]
    exact other

/-- A request that records no status leaves the replay of every log. -/
theorem Logs.replay_of_none (logs : Logs store request eventId now next)
    (none : recordedStatus request.eventType = none) (runId : String) :
    replayStatus (next.eventsOf runId) = replayStatus (store.eventsOf runId) := by
  rcases logs.events with ⟨-, rfl⟩ | ⟨event, adds, rows, -⟩
  · rfl
  · obtain ⟨run, -, rfl⟩ := adds.run
    rw [eventsOf_append rows]
    split
    · rw [replayStatus_append]
      simp [newEvent, none]
    · rfl

/-- A request with an unused key adds its event. -/
theorem Logs.eventsOf_of_unused (logs : Logs store request eventId now next)
    (unused : KeyUnused store request.taskRunId request.idempotencyKey) :
    ∃ event, event.eventType = request.eventType ∧
      next.eventsOf request.taskRunId = store.eventsOf request.taskRunId ++ [event] := by
  rcases logs.events with ⟨⟨event, member, same⟩, -⟩ | ⟨event, adds, rows, -⟩
  · exact absurd same (unused event member)
  · obtain ⟨run, -, same⟩ := adds.run
    refine ⟨event, by rw [same]; rfl, ?_⟩
    rw [eventsOf_append rows, if_pos]
    rw [same]
    rfl

/-- A request that records no status, after rows whose status stays. -/
theorem Records.of_none {moved : TaskStore}
    (sameLog : ∀ runId, moved.eventsOf runId = store.eventsOf runId)
    (sameStatus : ∀ runId, (moved.runs.get? runId).map (·.status) =
      (store.runs.get? runId).map (·.status)) (none : recordedStatus request.eventType = none)
    (logs : Logs moved request eventId now next) : Records store next := by
  have status : ∀ runId, (next.runs.get? runId).map (·.status) =
      (store.runs.get? runId).map (·.status) := by
    intro runId
    rw [logs.runs]
    exact sameStatus runId
  constructor
  case changed =>
    intro runId before after found later different
    have same := status runId
    rw [found, later] at same
    exact absurd (Option.some.inj same) different
  case unchanged =>
    intro runId before after _ _ _
    rw [logs.replay_of_none none, sameLog]
  case created =>
    intro runId after absent later
    have same := status runId
    rw [absent, later] at same
    cases same

theorem Records.of_rewrite_none {grown : TaskStore} {keeps : ∀ run, (rewrite run).runId = run.runId}
    (grows : Grows store grown) (stays : ∀ run, (rewrite run).status = run.status)
    (none : recordedStatus request.eventType = none)
    (logs : Logs (grown.updateRun runId rewrite keeps) request eventId now next) :
    Records store next := by
  refine .of_none (fun other => ?_) (fun other => ?_) none logs
  · rw [eventsOf_updateRun, TaskStore.eventsOf, grows.events]
    rfl
  · rw [get?_updateRun, grows.runs]
    split
    · have status : (fun run : TaskRunModel => run.status) ∘ rewrite = fun run => run.status :=
        funext stays
      rw [Option.map_map, status]
    · rfl

/-- A rewritten status whose event is new is recorded. -/
theorem Records.of_unused {old : TaskRunModel} {keeps : ∀ run, (rewrite run).runId = run.runId}
    (found : store.runs.get? runId = some old) (ofRun : request.taskRunId = runId)
    (moves : (rewrite old).status ≠ old.status) (known : (rewrite old).status ≠ .timedOut)
    (typed : request.eventType = eventForTransition (rewrite old).status)
    (unused : KeyUnused store runId request.idempotencyKey)
    (logs : Logs (store.updateRun runId rewrite keeps) request eventId now next) :
    Records store next := by
  have lookup : ∀ other, next.runs.get? other =
      if runId = other then (store.runs.get? other).map rewrite else store.runs.get? other := by
    intro other
    rw [logs.runs, get?_updateRun]
  constructor
  case changed =>
    intro other before after beforeFound afterFound different
    by_cases same : runId = other
    · subst same
      obtain rfl := mem_unique beforeFound found
      rw [lookup, if_pos rfl, found] at afterFound
      cases afterFound
      obtain ⟨event, eventType, appended⟩ := logs.eventsOf_of_unused (by rw [ofRun]; exact unused)
      refine ⟨known, event, eventType.trans typed, ?_⟩
      rw [ofRun] at appended
      exact appended
    · rw [lookup, if_neg same, beforeFound] at afterFound
      cases afterFound
      exact absurd rfl different
  case unchanged =>
    intro other before after beforeFound afterFound stays
    by_cases same : runId = other
    · subst same
      obtain rfl := mem_unique beforeFound found
      rw [lookup, if_pos rfl, found] at afterFound
      cases afterFound
      exact absurd stays moves
    · rw [logs.eventsOf_of_ne (by rw [ofRun]; exact same)]
      rfl
  case created =>
    intro other after absent afterFound
    rw [lookup, absent] at afterFound
    simp at afterFound

theorem Records.of_transition {request : TransitionTaskRun}
    (unused : KeyUnused store request.runId request.idempotencyKey)
    (known : request.target ≠ .timedOut)
    (ok : transitionTaskRun store request eventId now = .ok (view, next)) :
    Records store next := by
  obtain ⟨run, found, -, allowed, logs⟩ := transitionTaskRun_ok ok
  exact .of_unused found rfl (canTransitionTaskRun_ne allowed).symm known rfl unused logs

/-- A new run starts a log of its own. -/
theorem Records.of_create (kept : LogKept store) {request : CreateTaskRun} {uuid : String}
    (ok : createTaskRun store request uuid eventId now = .ok (view, next)) :
    Records store next := by
  obtain ⟨grown, runs, contractRow, contextVersionId, grows, -, -, -, fresh, inserted, logs⟩ :=
    createTaskRun_ok ok
  have lookup : ∀ other, next.runs.get? other = if resolveRunId request.runId uuid = other then
      some (newTaskRun request (resolveRunId request.runId uuid)
        contractRow.taskContractVersionId contextVersionId now) else store.runs.get? other := by
    intro other
    rw [logs.runs, ← grows.runs]
    exact get?_insert? inserted other
  have sameLog : ∀ other, ({ grown with runs } : TaskStore).eventsOf other = store.eventsOf other := by
    intro other
    rw [TaskStore.eventsOf, grows.events]
    rfl
  have old : ∀ other before after, store.runs.get? other = some before →
      next.runs.get? other = some after →
        after = before ∧ next.eventsOf other = store.eventsOf other := by
    intro other before after beforeFound afterFound
    have different : resolveRunId request.runId uuid ≠ other := by
      rintro rfl
      rw [fresh] at beforeFound
      cases beforeFound
    rw [lookup, if_neg different, beforeFound] at afterFound
    cases afterFound
    exact ⟨rfl, (logs.eventsOf_of_ne different).trans (sameLog other)⟩
  constructor
  case changed =>
    intro other before after beforeFound afterFound different
    obtain ⟨rfl, -⟩ := old other before after beforeFound afterFound
    exact absurd rfl different
  case unchanged =>
    intro other before after beforeFound afterFound _
    rw [(old other before after beforeFound afterFound).2]
  case created =>
    intro other after absent afterFound
    have same : resolveRunId request.runId uuid = other := by
      by_contra different
      rw [lookup, if_neg different, absent] at afterFound
      cases afterFound
    subst same
    have noEvents : store.eventsOf (resolveRunId request.runId uuid) = [] := by
      rw [eq_nil_iff_forall_not_mem]
      intro event member
      obtain ⟨listed, ofRun⟩ := mem_eventsOf.1 member
      obtain ⟨run, found, -⟩ := kept.ofRun event listed
      rw [ofRun, fresh] at found
      cases found
    obtain ⟨event, eventType, appended⟩ := logs.eventsOf_of_unused (by
      intro event member
      have listed : event ∈ store.eventsOf (resolveRunId request.runId uuid) :=
        (sameLog _) ▸ member
      rw [noEvents] at listed
      cases listed)
    have started : next.eventsOf (resolveRunId request.runId uuid) = [event] := by
      refine appended.trans ?_
      rw [sameLog]
      simp [createdEvent, noEvents]
    rw [started]
    simp [replayStatus, eventType, createdEvent, recordedStatus]

theorem records_of_ok {op : TaskOp} {answer : TaskAnswer} (kept : LogKept store)
    (brings : BringsNewKey store op) (ok : taskService op store = .ok (answer, next)) :
    Records store next := by
  cases taskService_called ok with
  | create called =>
      exact .of_create kept called
  | createChild called =>
      obtain ⟨manifest, created⟩ := createChildTaskRun_ok called
      exact .of_create kept created
  | @claim runId streamName producer _ _ _ called =>
      obtain ⟨run, found, ⟨-, -, rfl⟩ | ⟨queued, -, logs⟩⟩ := claimQueuedTaskRun_ok called
      · exact Records.refl _
      · have moves : TaskRunStatus.running ≠ run.status := by
          rw [queued]
          decide
        have known : TaskRunStatus.running ≠ .timedOut := by decide
        have unused : KeyUnused store runId (claimedEvent run producer streamName).idempotencyKey :=
          brings run found queued
        exact .of_unused found (get?_eq_some.1 found).2 moves known rfl unused logs
  | updateContext called =>
      obtain ⟨run, grown, contextVersionId, found, -, grows, logs⟩ := updateTaskContext_ok called
      refine .of_rewrite_none grows ?_ rfl logs
      intro run
      rfl
  | transition called =>
      exact .of_transition brings.1 brings.2 called
  | append called =>
      exact .of_none (fun _ => rfl) (fun _ => rfl) brings (appendTaskEvent_ok called)
  | consume called =>
      obtain ⟨event, -, processed⟩ := consumeEvent_ok called
      rcases processEvent_ok processed with ⟨-, -, rfl⟩ | ⟨parent, view, due, -, moved⟩
      · exact Records.refl _
      · refine .of_transition ?_ ?_ moved
        · show KeyUnused store parent (wakeIdempotencyKey parent event.eventId)
          intro other member
          simpa using find?_eq_none.1 due.unwoken other member
        · show TaskRunStatus.queued ≠ .timedOut
          decide

/-! ## Runs of calls -/

/-- Every run's log replays to its status. -/
def Replays (store : TaskStore) : Prop :=
  ∀ runId row, store.runs.get? runId = some row →
    replayStatus (store.eventsOf runId) = some row.status

theorem Replays.empty : Replays TaskStore.empty := by
  intro runId row found
  simp [TaskStore.empty] at found

theorem Replays.step (replays : Replays store) (effect : Effect store next)
    (records : Records store next) : Replays next := by
  intro runId after found
  cases present : store.runs.get? runId with
  | none =>
      rw [records.created runId after present found]
      rcases effect.row_before found with ⟨before, existing⟩ | ⟨-, submitted⟩
      · rw [present] at existing
        cases existing
      · rw [submitted]
  | some before =>
      by_cases stays : after.status = before.status
      · rw [records.unchanged runId before after present found stays, replays runId before present,
          stays]
      · obtain ⟨known, event, eventType, appended⟩ :=
          records.changed runId before after present found stays
        have allowed : canTransitionTaskRun before.status after.status = true := by
          obtain ⟨later, laterFound, rfl | change⟩ := effect.row present
          · rw [found] at laterFound
            cases laterFound
            exact absurd rfl stays
          · obtain rfl := mem_unique found laterFound
            exact change.status.resolve_left stays
        rw [appended, replayStatus_append, eventType,
          recordedStatus_eventForTransition allowed known]
        rfl

theorem logKept_and_replays (ops : List TaskOp)
    (guarded : Along taskService BringsNewKey TaskStore.empty ops) :
    LogKept (storeAfter ops) ∧ Replays (storeAfter ops) := by
  have preserved : ∀ (store : TaskStore) (op : TaskOp) (answer : TaskAnswer) (next : TaskStore),
      LogKept store ∧ Replays store → BringsNewKey store op →
        taskService op store = .ok (answer, next) → LogKept next ∧ Replays next := by
    rintro store op answer next ⟨kept, replays⟩ brings ok
    have effect := effect_of_ok ok
    exact ⟨kept.effect effect, replays.step effect (records_of_ok kept brings ok)⟩
  exact run_invariant_along preserved ⟨LogKept.empty, Replays.empty⟩ ops guarded

/-- **The status of a run is the fold of its log.**  Along every run whose calls
bring new keys, replaying the events of a run in the order of their numbers gives
its status, and every step that changes a status appends an event of the type of
the transition. -/
theorem status_eq_replay (ops : List TaskOp)
    (guarded : Along taskService BringsNewKey TaskStore.empty ops) :
    (∀ runId row, (storeAfter ops).runs.get? runId = some row →
        replayStatus ((storeAfter ops).eventsOf runId) = some row.status) ∧
      ∀ before op after, ops = before ++ op :: after → ∀ runId old new,
        (storeAfter before).runs.get? runId = some old →
        (storeAfter (before ++ [op])).runs.get? runId = some new → new.status ≠ old.status →
          ∃ event, event.eventType = eventForTransition new.status ∧
            (storeAfter (before ++ [op])).eventsOf runId =
              (storeAfter before).eventsOf runId ++ [event] := by
  refine ⟨(logKept_and_replays ops guarded).2, ?_⟩
  rintro before op after rfl runId old new oldFound newFound changed
  obtain ⟨earlier, brings⟩ := guarded.at_step
  have kept := (logKept_and_replays before earlier).1
  have step : storeAfter (before ++ [op]) = transact taskService (storeAfter before) op := by
    rw [storeAfter, run_append]
    rfl
  rw [step] at newFound ⊢
  cases outcome : taskService op (storeAfter before) with
  | error raised =>
      rw [transact_of_error outcome, oldFound] at newFound
      cases newFound
      exact absurd rfl changed
  | ok result =>
      obtain ⟨answer, next⟩ := result
      rw [transact_of_ok outcome] at newFound ⊢
      exact ((records_of_ok kept brings outcome).changed runId old new oldFound newFound changed).2

/-! ## An investigation that delegates an enrichment

Two runs, `parent` and `child`, with the requests the two roles make. -/

def investigationContract : TaskContract where
  taskContractId := "investigation"
  contractRevision := 1
  principal := "analyst"
  taskKind := .investigateIncident
  desiredState := [("case_id", .string "case-1")]
  effectCeiling := .internalState
  delegationCeiling :=
    { allowed := true, maxDepth := 1, allowedTaskKinds := [.enrichment],
      childEffectCeiling := .internalState }
  completionPredicate := [("needs", .string "resolved")]
  policyRevision := "policy-1"

def enrichmentContract : TaskContract where
  taskContractId := "enrichment"
  contractRevision := 1
  principal := "analyst"
  taskKind := .enrichment
  desiredState := [("cve_id", .string "CVE-2024-0001")]
  effectCeiling := .internalState
  completionPredicate := [("dimensions", .string "complete")]
  policyRevision := "policy-1"

def investigationRole : RoleProfile :=
  ⟨"InvestigationRole", "1", [.investigateIncident]⟩

def enrichmentRole : RoleProfile := ⟨"EnrichmentRole", "1", [.enrichment]⟩

def parentManifest : ContextManifest where
  contextId := "context:parent"
  contextRevision := 1
  taskContractRef := "investigation@1"
  roleRef := "InvestigationRole@1"
  policyContextRef := "policy-1"
  capabilityEnvelopeRef := "capability:parent"
  budgetRef := "budget:parent"

def enrichmentSpec : ChildContextSpec where
  contextId := "context:child"
  policyContextRef := "policy-1"
  capabilityEnvelopeRef := "capability:child"
  budgetRef := "budget:child"

/-- `child` and `parent` have been created, queued and claimed. -/
def delegatedRun : List TaskOp :=
  [ .create { contract := investigationContract, manifest := parentManifest,
              role := investigationRole, executionEnvelopeRef := "execution:parent",
              streamName := "task-events", runId := some "parent" } "uuid-1" "event-1" 1,
    .transition { runId := "parent", target := .queued, payloadRef := "queue:investigation",
                  idempotencyKey := "investigation-queued:parent",
                  streamName := "task-events" } "event-2" 2,
    .claim "parent" "task-events" "task-runtime-executor" "event-3" 3,
    .createChild { parentRunId := "parent", childContract := enrichmentContract,
                   childRole := enrichmentRole, contextSpec := enrichmentSpec,
                   executionEnvelopeRef := "execution:child", streamName := "task-events",
                   runId := some "child" } "uuid-2" "event-4" 4,
    .transition { runId := "child", target := .queued,
                  payloadRef := "queue:delegated-enrichment",
                  idempotencyKey := "queue:delegated-enrichment:child",
                  streamName := "task-events" } "event-5" 5,
    .claim "child" "task-events" "task-runtime-executor" "event-6" 6 ]

/-- `parent` waits for `child`. -/
def parentWaits : TaskOp :=
  .transition { runId := "parent", target := .waitingDependency,
                payloadRef := "investigation-wait:task_dependency:child",
                idempotencyKey := "investigation-wait:parent:1:task_dependency:child",
                streamName := "task-events", producer := "InvestigationRole",
                stopReason := some "task_dependency:child" } "event-7" 7

/-- `child` completes. -/
def childCompletes : TaskOp :=
  .transition { runId := "child", target := .completed, payloadRef := "enrichment-result:child",
                idempotencyKey := "enrichment-terminal:child:completed",
                streamName := "task-events", producer := "EnrichmentRole" } "event-8" 8

def completionConsumed : TaskOp := .consume "event-8" "task-events" "event-9" 9

/-- `parent` is claimed again, its context being the one of the first claim. -/
def parentClaimedAgain : TaskOp :=
  .claim "parent" "task-events" "task-runtime-executor" "event-10" 10

instance bringsNewKeyDecidable (store : TaskStore) : (op : TaskOp) → Decidable (BringsNewKey store op)
  | .claim runId _ _ _ _ =>
      inferInstanceAs (Decidable (∀ run ∈ store.runs.get? runId, run.status = .queued →
        ∀ event ∈ store.eventsOf runId, event.idempotencyKey ≠
          "role-claim:" ++ run.runId ++ ":" ++ toString run.contextRevision))
  | .transition request _ _ =>
      inferInstanceAs (Decidable ((∀ event ∈ store.eventsOf request.runId,
        event.idempotencyKey ≠ request.idempotencyKey) ∧ request.target ≠ .timedOut))
  | .append request _ _ => inferInstanceAs (Decidable (recordedStatus request.eventType = none))
  | .create .. | .createChild .. | .updateContext .. | .consume .. =>
      inferInstanceAs (Decidable True)

theorem status_eq_replay_woken :
    replayStatus ((storeAfter (delegatedRun ++ [parentWaits, childCompletes,
      completionConsumed])).eventsOf "parent") = some .queued := by
  have queued : ((storeAfter (delegatedRun ++ [parentWaits, childCompletes,
      completionConsumed])).runs.get? "parent").map (·.status) = some .queued := by decide +kernel
  obtain ⟨row, found, status⟩ := map_eq_some_iff.1 queued
  have replayed := (status_eq_replay (delegatedRun ++ [parentWaits, childCompletes,
    completionConsumed]) (by decide +kernel)).1 "parent" row found
  rw [replayed, status]

/-- The calls of a run's life: creation, claim, wait, wake, context update and
transition, to a status that the log can tell from the others. -/
def TaskOp.isLifecycle : TaskOp → Bool
  | .transition request _ _ => request.target ≠ .timedOut
  | .append .. => false
  | .create .. | .createChild .. | .claim .. | .updateContext .. | .consume .. => true

/-- A run that waits, is woken and is claimed again under the same context is
running without an event that says so. -/
theorem claim_leaves_no_event :
    ¬ ∀ ops : List TaskOp, (∀ op ∈ ops, op.isLifecycle = true) →
      ∀ runId row, (storeAfter ops).runs.get? runId = some row →
        replayStatus ((storeAfter ops).eventsOf runId) = some row.status := by
  intro replays
  have running : ((storeAfter (delegatedRun ++ [parentWaits, childCompletes, completionConsumed,
      parentClaimedAgain])).runs.get? "parent").map (·.status) = some .running := by
    decide +kernel
  have queued : replayStatus ((storeAfter (delegatedRun ++ [parentWaits, childCompletes,
      completionConsumed, parentClaimedAgain])).eventsOf "parent") = some .queued := by
    decide +kernel
  obtain ⟨row, found, status⟩ := map_eq_some_iff.1 running
  have replayed := replays (delegatedRun ++ [parentWaits, childCompletes, completionConsumed,
    parentClaimedAgain]) (by decide +kernel) "parent" row found
  rw [queued, status] at replayed
  cases replayed

end SecFusion.TaskRuntime
