import SecFusion.TaskRuntime.Lifecycle
import SecFusion.TaskRuntime.Naming

/-!
# Transitions that are not refused

When a transition of a run succeeds, and what it leaves: the rewritten row and at most
one event more in the log of the run.
-/

namespace SecFusion.TaskRuntime

open Foundations

variable {store next : TaskStore} {runId eventId : String} {now : ℤ}

/-! ## Appending -/

/-- What the validator of an event asks of the request for it. -/
structure EventRequest.Valid (request : EventRequest) : Prop where
  revision : 1 ≤ request.baseContextRevision
  producer : isBlank request.producer = false
  payload : isBlank request.payloadRef = false
  key : isBlank request.idempotencyKey = false

variable {request : TransitionTaskRun} {run : TaskRunModel}

/-- **An event is appended** to the log of a run that has none of its key. -/
theorem appendTaskEvent_of_fresh (kept : LogKept store) {request : EventRequest}
    (found : store.runs.get? request.taskRunId = some run) (valid : request.Valid)
    (unused : ∀ event ∈ store.eventsOf request.taskRunId,
      event.idempotencyKey ≠ request.idempotencyKey)
    (fresh : ∀ event ∈ store.events.rows, event.eventId ≠ eventId) (now : ℤ) :
    ∃ result next, appendTaskEvent store request eventId now = .ok (result, next) := by
  have unusedKey : store.eventWithKey? request.taskRunId request.idempotencyKey = none := by
    rw [TaskStore.eventWithKey?, find?_eq_none]
    intro event member same
    exact unused event member (of_decide_eq_true same)
  obtain ⟨events, inserted⟩ : ∃ events, store.events.insert?
      (newEvent run request (store.lastSeq request.taskRunId + 1) eventId now) = some events :=
    Table.insert?_of_absent (Table.get?_eq_none.2 fresh)
  obtain ⟨deliveries, delivered⟩ : ∃ deliveries,
      store.deliveries.insert? (newDelivery request eventId now) = some deliveries := by
    refine Table.insert?_of_absent (Table.get?_eq_none.2 fun other member => ?_)
    have listed : other.eventId ∈ store.events.rows.map (·.eventId) := by
      rw [← kept.delivered]
      exact mem_map_of_mem member
    obtain ⟨event, eventMember, same⟩ := mem_map.1 listed
    exact fun drawn => fresh event eventMember (same.trans drawn)
  have viewed : ∀ seq, 1 ≤ seq → taskEventView (newEvent run request seq eventId now) =
      .ok (newEvent run request seq eventId now) := by
    intro seq positive
    unfold taskEventView newEvent
    rw [require_of positive, require_of valid.revision, require_of valid.producer,
      require_of valid.payload, require_of valid.key]
    rfl
  unfold appendTaskEvent
  rw [found, unusedKey]
  simp only [fetch, ok_bind]
  rw [inserted, delivered]
  simp only [ok_bind]
  rw [viewed _ (Nat.le_add_left 1 _)]
  exact ⟨_, _, rfl⟩

/-- A log has at most the requested event more. -/
theorem Logs.mem_eventsOf {request : EventRequest} (logs : Logs store request eventId now next)
    {event : TaskEventModel} (member : event ∈ next.eventsOf runId) :
    event ∈ store.eventsOf runId ∨
      (request.taskRunId = runId ∧ event.idempotencyKey = request.idempotencyKey) := by
  rcases logs.events with ⟨-, rfl⟩ | ⟨added, adds, rows, -⟩
  · exact .inl member
  · obtain ⟨run, -, rfl⟩ := adds.run
    rw [eventsOf_append rows] at member
    split at member
    next same =>
      rcases mem_append.1 member with old | new
      · exact .inl old
      · rw [mem_singleton.1 new]
        exact .inr ⟨same, rfl⟩
    next => exact .inl member

/-! ## Transitions -/

/-- **A transition succeeds** from a status that allows it, under a key that the log of
the run does not know. -/
theorem transitionTaskRun_of_allowed (kept : LogKept store)
    (found : store.runs.get? request.runId = some run) (live : run.status.isTerminal = false)
    (allowed : canTransitionTaskRun run.status request.target = true)
    (fits : ∀ reason ∈ request.stopReason, reason.length ≤ 128)
    (valid : (transitionEvent run request).Valid)
    (unused : ∀ event ∈ store.eventsOf request.runId,
      event.idempotencyKey ≠ request.idempotencyKey)
    (fresh : ∀ event ∈ store.events.rows, event.eventId ≠ eventId) (now : ℤ) :
    ∃ view next, transitionTaskRun store request eventId now = .ok (view, next) := by
  have movedKept : LogKept (store.updateRun request.runId (fun run => run.withTransition request now)
      fun run => run.withTransition_runId request now) := by
    refine kept.of_runs rfl rfl fun other row otherFound => ?_
    rw [get?_updateRun, otherFound]
    split
    · exact ⟨row.withTransition request now, rfl, rfl⟩
    · exact ⟨row, rfl, rfl⟩
  have moved : (store.updateRun request.runId (fun run => run.withTransition request now)
      fun run => run.withTransition_runId request now).runs.get? request.runId =
      some (run.withTransition request now) := by
    rw [get?_updateRun, if_pos rfl, found]
    rfl
  obtain ⟨result, next, appended⟩ := appendTaskEvent_of_fresh
    movedKept moved valid unused fresh now
  unfold transitionTaskRun getRun
  rw [require_of fits, found]
  simp only [fetch, ok_bind]
  rw [require_of live, ok_bind, require_of allowed, ok_bind, appended]
  exact ⟨_, _, rfl⟩

/-- The row of a run after a transition. -/
theorem get?_transitionTaskRun {view : TaskRun}
    (ok : transitionTaskRun store request eventId now = .ok (view, next))
    (found : store.runs.get? request.runId = some run) :
    next.runs.get? request.runId = some (run.withTransition request now) := by
  obtain ⟨_, -, -, -, logs⟩ := transitionTaskRun_ok ok
  rw [logs.runs, get?_updateRun, if_pos rfl, found]
  rfl

/-! ## The case of a run -/

/-- **A run stays with its case.** -/
theorem Effect.caseId (effect : Effect store next) (found : store.runs.get? runId = some run) :
    ∃ later, next.runs.get? runId = some later ∧ later.caseId = run.caseId := by
  obtain ⟨later, laterFound, rfl | change⟩ := effect.row found
  · exact ⟨later, laterFound, rfl⟩
  · refine ⟨later, laterFound, ?_⟩
    cases change <;> rfl

end SecFusion.TaskRuntime
