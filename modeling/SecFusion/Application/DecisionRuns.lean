import SecFusion.Application.Finalization
import SecFusion.TaskRuntime.Admitted

/-!
# The runs of decisions

What opening a run of the decision role leaves (`OpensRun`), and when it can be finished
(`finishCaseDecisionExecution_of_running`).  The identifier of the run is made from that
of the run it follows, so two episodes never share one.
-/

namespace SecFusion.Application

open Foundations Execution TaskRuntime Investigation

/-! ## Identifiers -/

variable {first second runId : String} {run : TaskRunModel}

theorem append_right_ne (different : first ≠ second) (tail : String) :
    first ++ tail ≠ second ++ tail := by
  intro same
  have lists := congrArg String.toList same
  rw [toList_append, toList_append] at lists
  exact different (toList_inj.1 (List.append_cancel_right lists))

theorem append_left_inj {head : String} (same : head ++ first = head ++ second) :
    first = second := by
  have lists := congrArg String.toList same
  rw [toList_append, toList_append] at lists
  exact toList_inj.1 (List.append_cancel_left lists)

theorem decisionRunId_injective (same : decisionRunId first = decisionRunId second) :
    first = second :=
  append_left_inj (append_left_inj same)

/-! ## Moving a run -/

section Moving

variable {store next : ProductStore} {request : TransitionTaskRun} {eventId : String} {now : ℤ}

theorem moveRun_ok (ok : moveRun store request eventId now = .ok next) :
    ∃ view, transitionTaskRun store.tasks request eventId now = .ok (view, next.tasks) ∧
      next = { store with tasks := next.tasks } := by
  unfold moveRun at ok
  obtain ⟨⟨view, tasks⟩, moved, ok⟩ := bind_eq_ok.1 ok
  cases ok
  exact ⟨view, moved, rfl⟩

/-- The log of the run that is moved has one event more, of the key of the move. -/
theorem mem_eventsOf_of_move {view : TaskRun} {tasks later : TaskStore}
    (ok : transitionTaskRun tasks request eventId now = .ok (view, later))
    {event : TaskEventModel} (member : event ∈ later.eventsOf runId) :
    event ∈ tasks.eventsOf runId ∨ event.idempotencyKey = request.idempotencyKey := by
  obtain ⟨run, -, -, -, logs⟩ := transitionTaskRun_ok ok
  rcases logs.mem_eventsOf member with old | ⟨-, new⟩
  · rw [eventsOf_updateRun] at old
    exact .inl old
  · exact .inr new

end Moving

/-! ## Opening a run -/

variable {store next : ProductStore} {settings : ProductSettings} {drawn : Drawn}

/-- The keys of the events by which a run is opened. -/
def openingKeys (surface runId : String) : List String :=
  ["task-created:" ++ runId, surface ++ "-queued:" ++ runId, surface ++ "-running:" ++ runId]

/-- **A run of the decision role has been opened**, with its execution; nothing else has
been written, but for its budget account. -/
structure OpensRun (store next : ProductStore) (surface runId caseId : String) : Prop where
  same : next.cases = store.cases ∧ next.decisions = store.decisions ∧
    next.sessions = store.sessions
  effects : ReflTransGen Effect store.tasks next.tasks
  absent : store.tasks.runs.get? runId = none
  row : ∃ run, next.tasks.runs.get? runId = some run ∧ run.status = .running ∧
    run.executionEnvelopeRef = "execution:" ++ runId ∧ run.contextRevision = 1 ∧
    run.caseId = some caseId
  log : ∀ event ∈ next.tasks.eventsOf runId, event ∈ store.tasks.eventsOf runId ∨
    event.idempotencyKey ∈ openingKeys surface runId
  apart : ∀ other, runId ≠ other → Apart other store.tasks next.tasks
  executions : ∀ other, next.executions.status? other =
    if "execution:" ++ runId = other then some .running else store.executions.status? other

/-- What `registerRun` leaves. -/
theorem registerRun_ok {request : RegisterRun} (given : request.runId ≠ "")
    (ok : registerRun store request drawn = .ok next) :
    next.cases = store.cases ∧ next.decisions = store.decisions ∧
      next.sessions = store.sessions ∧ Effect store.tasks next.tasks ∧
      store.tasks.runs.get? request.runId = none ∧
      (∃ run, next.tasks.runs.get? request.runId = some run ∧ run.status = .submitted ∧
        run.executionEnvelopeRef = request.run.executionEnvelopeRef ∧
        run.contextRevision = request.run.manifest.contextRevision ∧
        run.caseId = request.run.caseId) ∧
      (∀ event ∈ next.tasks.eventsOf request.runId, event ∈ store.tasks.eventsOf request.runId ∨
        event.idempotencyKey = "task-created:" ++ request.runId) ∧
      (∀ other, request.runId ≠ other → Apart other store.tasks next.tasks) ∧
      ∃ envelope, request.envelope = .ok envelope ∧
        ∀ other, next.executions.status? other = if envelope.executionId = other then
          some ((store.executions.status? other).getD .created)
          else store.executions.status? other := by
  unfold registerRun at ok
  obtain ⟨⟨view, tasks⟩, created, ok⟩ := bind_eq_ok.1 ok
  obtain ⟨⟨account, ledger⟩, -, ok⟩ := bind_eq_ok.1 ok
  obtain ⟨envelope, admitted, ok⟩ := bind_eq_ok.1 ok
  obtain ⟨⟨stored, executions⟩, registered, ok⟩ := bind_eq_ok.1 ok
  cases ok
  have named : resolveRunId (some request.runId) "" = request.runId := if_neg given
  obtain ⟨grown, runs, contractRow, contextVersionId, grows, -, -, -, absent, inserted, logs⟩ :=
    createTaskRun_ok created
  dsimp only at absent inserted logs
  rw [named] at absent inserted logs
  refine ⟨rfl, rfl, rfl, .of_create created, absent, ?_, ?_, ?_, envelope, admitted,
    fun other => ExecutionStore.create_ok registered other⟩
  · refine ⟨newTaskRun { request.run with runId := some request.runId } request.runId
      contractRow.taskContractVersionId contextVersionId drawn.now, ?_, rfl, rfl, rfl, rfl⟩
    rw [logs.runs, get?_insert? inserted]
    exact if_pos rfl
  · intro event member
    rcases logs.mem_eventsOf member with old | ⟨-, new⟩
    · left
      rw [← grows.apart.log]
      exact old
    · exact .inr new
  · intro other different
    exact .of_create created (by rw [named]; exact different)

/-- What `startRun` leaves of a run that has been submitted. -/
theorem startRun_ok {surface : Surface} {streamName : String}
    (ok : startRun store surface runId streamName drawn = .ok next)
    (found : store.tasks.runs.get? runId = some run) :
    next.cases = store.cases ∧ next.decisions = store.decisions ∧
      next.sessions = store.sessions ∧ ReflTransGen Effect store.tasks next.tasks ∧
      (∃ later, next.tasks.runs.get? runId = some later ∧ later.status = .running ∧
        later.executionEnvelopeRef = run.executionEnvelopeRef ∧
        later.contextRevision = run.contextRevision ∧ later.caseId = run.caseId) ∧
      (∀ event ∈ next.tasks.eventsOf runId, event ∈ store.tasks.eventsOf runId ∨
        event.idempotencyKey = surface.head ++ "-queued:" ++ runId ∨
        event.idempotencyKey = surface.head ++ "-running:" ++ runId) ∧
      (∀ other, runId ≠ other → Apart other store.tasks next.tasks) ∧
      ∀ other, next.executions.status? other =
        if "execution:" ++ runId = other then some .running
        else store.executions.status? other := by
  unfold startRun at ok
  obtain ⟨queued, first, ok⟩ := bind_eq_ok.1 ok
  obtain ⟨running, second, ok⟩ := bind_eq_ok.1 ok
  obtain ⟨executions, started, ok⟩ := bind_eq_ok.1 ok
  cases ok
  obtain ⟨_, firstMoved, firstSame⟩ := moveRun_ok first
  obtain ⟨_, secondMoved, secondSame⟩ := moveRun_ok second
  have queuedRow := get?_transitionTaskRun firstMoved found
  have runningRow := get?_transitionTaskRun secondMoved queuedRow
  rw [firstSame] at secondSame
  refine ⟨by rw [secondSame], by rw [secondSame], by rw [secondSame],
    .tail (.single (.of_transition firstMoved)) (.of_transition secondMoved),
    ⟨_, runningRow, rfl, rfl, rfl, rfl⟩, ?_, ?_, ?_⟩
  · intro event member
    rcases mem_eventsOf_of_move secondMoved member with old | new
    · rcases mem_eventsOf_of_move firstMoved old with older | new
      · exact .inl older
      · exact .inr (.inl new)
    · exact .inr (.inr new)
  · intro other different
    exact (Apart.of_transition firstMoved different).trans (.of_transition secondMoved different)
  · intro other
    rw [ExecutionStore.start_ok started other, secondSame]

/-- **`open_case_decision_execution`** opens the run it is asked for. -/
theorem openCaseDecisionExecution_ok {request : OpenDecision} (given : request.runId ≠ "")
    (ok : openCaseDecisionExecution store settings request drawn = .ok next) :
    OpensRun store next request.surface request.runId request.state.caseId := by
  unfold openCaseDecisionExecution at ok
  obtain ⟨contract, -, ok⟩ := bind_eq_ok.1 ok
  obtain ⟨registered, registers, ok⟩ := bind_eq_ok.1 ok
  obtain ⟨cases, decisions, sessions, effect, absent, ⟨run, found, -, reference, revision, ofCase⟩,
    log, apart, envelope, admitted, created⟩ := registerRun_ok given registers
  obtain ⟨sameCases, sameDecisions, sameSessions, effects, ⟨later, laterFound, running, kept, same,
    stays⟩, moves, others, executions⟩ := startRun_ok ok found
  refine ⟨⟨sameCases.trans cases, sameDecisions.trans decisions, sameSessions.trans sessions⟩,
    .head effect effects, absent, ⟨later, laterFound, running, kept.trans reference,
      same.trans revision, stays.trans ofCase⟩, ?_, ?_, ?_⟩
  · intro event member
    rcases moves event member with old | queued | started
    · rcases log event old with older | created
      · exact .inl older
      · exact .inr (by rw [openingKeys, created]; exact mem_cons_self)
    · refine .inr ?_
      rw [openingKeys, queued]
      exact mem_cons_of_mem _ mem_cons_self
    · refine .inr ?_
      rw [openingKeys, started]
      exact mem_cons_of_mem _ (mem_cons_of_mem _ (mem_singleton_self _))
  · intro other different
    exact (apart other different).trans (others other different)
  · intro other
    have named : envelope.executionId = "execution:" ++ request.runId := by
      replace admitted : decisionEnvelope contract request.runId _ _ _ _ _ = .ok envelope := admitted
      unfold decisionEnvelope at admitted
      dsimp only at admitted
      split at admitted
      · cases admitted
        rfl
      · cases admitted
    rw [executions other, created other, named]
    split <;> rfl

/-! ## Finishing a run -/

/-- **A run has been finished** with its execution, and nothing else has been written. -/
structure FinishesRun (store next : ProductStore) (request : FinishDecision) (run : TaskRunModel) :
    Prop where
  same : next.cases = store.cases ∧ next.decisions = store.decisions ∧
    next.sessions = store.sessions
  effect : Effect store.tasks next.tasks
  row : ∃ later, next.tasks.runs.get? request.runId = some later ∧ later.status = .completed ∧
    later.resultRef = some request.resultRef ∧ later.caseId = run.caseId ∧
    later.executionEnvelopeRef = run.executionEnvelopeRef
  apart : ∀ other, request.runId ≠ other → Apart other store.tasks next.tasks
  executions : ∀ other, next.executions.status? other =
    if request.executionId = other then some .completed else store.executions.status? other

variable (store settings drawn) in
/-- **A running decision can be completed**, if the key of its completion is not used. -/
theorem finishCaseDecisionExecution_of_running (kept : LogKept store.tasks)
    (request : FinishDecision) (completes : request.failed = false)
    (found : store.tasks.runs.get? request.runId = some run) (running : run.status = .running)
    (revision : 1 ≤ run.contextRevision)
    (executing : store.executions.status? request.executionId = some .running)
    (fits : request.stopReason.length ≤ 128) (result : isBlank request.resultRef = false)
    (surface : isBlank request.surface = false)
    (unused : ∀ event ∈ store.tasks.eventsOf request.runId,
      event.idempotencyKey ≠ request.surface ++ "-completed:" ++ request.runId)
    (fresh : ∀ event ∈ store.tasks.events.rows, event.eventId ≠ drawn.taskEventIds 0) :
    ∃ next, finishCaseDecisionExecution store settings request drawn = .ok next ∧
      FinishesRun store next request run := by
  obtain ⟨executions, finished⟩ : ∃ executions, store.executions.finish request.executionId
      .completed request.stopReason drawn.now = .ok executions :=
    ExecutionStore.finish_of_running executing rfl fits
  have target : (finishTransition settings request).target = .completed := by
    simp [finishTransition, completes]
  have key : (finishTransition settings request).idempotencyKey =
      request.surface ++ "-completed:" ++ request.runId := by
    simp [finishTransition, completes, TaskRunStatus.value, String.append_assoc]
  have reference : (finishTransition settings request).resultRef = some request.resultRef := by
    simp [finishTransition, completes]
  obtain ⟨view, tasks, moved⟩ : ∃ view tasks, transitionTaskRun store.tasks
      (finishTransition settings request) (drawn.taskEventIds 0) drawn.now = .ok (view, tasks) := by
    refine transitionTaskRun_of_allowed kept found (by rw [running]; rfl) ?_ ?_ ?_ ?_ fresh _
    · rw [running, target]
      rfl
    · intro reason given
      obtain rfl : request.stopReason = reason := Option.some.inj given
      exact fits
    · refine ⟨revision, surface, result, ?_⟩
      show isBlank (finishTransition settings request).idempotencyKey = false
      rw [key]
      exact isBlank_append (isBlank_append surface)
    · rw [key]
      exact unused
  have row := get?_transitionTaskRun moved found
  have called : finishCaseDecisionExecution store settings request drawn =
      .ok { store with executions, tasks } := by
    unfold finishCaseDecisionExecution moveRun
    rw [completes]
    simp only [Bool.false_eq_true, if_false]
    rw [finished, ok_bind, moved]
    rfl
  refine ⟨_, called, ⟨rfl, rfl, rfl⟩, .of_transition moved, ⟨_, row, target, reference, rfl, rfl⟩,
    fun other different => .of_transition moved different, fun other => ?_⟩
  exact ExecutionStore.finish_ok finished other

end SecFusion.Application
