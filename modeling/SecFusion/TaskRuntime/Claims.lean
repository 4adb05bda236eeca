import SecFusion.TaskRuntime.Replay

/-!
# One claim, one wake

Any number of executors may try to claim a queued run, and any event may be
delivered any number of times, late and out of order: a schedule is a list of
transactions, and nothing is assumed about it.

A claim succeeds on a queued run only and leaves it running, so between two
successful claims the run enters `queued` again.  A wake happens only to the run
that waits for the run whose event is processed, and leaves in its log an event
whose key is made of the two; the log keeps it, so the event wakes nobody twice.
-/

namespace SecFusion.TaskRuntime

open Foundations

/-! ## Events stay -/

variable {store next : TaskStore} {eventId runId sourceEventId : String} {now : ℤ}
  {event : TaskEventModel} {op first second : TaskOp}

theorem Logs.mem_events {request : EventRequest} (logs : Logs store request eventId now next)
    (member : event ∈ store.events.rows) : event ∈ next.events.rows := by
  rcases logs.events with ⟨-, rfl⟩ | ⟨added, -, rows, -⟩
  · exact member
  · rw [rows]
    exact mem_append_left _ member

theorem Effect.mem_events (effect : Effect store next) (member : event ∈ store.events.rows) :
    event ∈ next.events.rows := by
  cases effect with
  | idle => exact member
  | logged logs => exact logs.mem_events member
  | created grows _ _ _ _ _ logs =>
      refine logs.mem_events ?_
      rw [grows.events]
      exact member
  | rewritten grows _ _ _ _ logs =>
      refine logs.mem_events ?_
      rw [TaskStore.updateRun, grows.events]
      exact member

theorem run_mem_events (member : event ∈ store.events.rows) (ops : List TaskOp) :
    event ∈ (run taskService store ops).events.rows :=
  run_invariant (fun _ _ _ _ present ok => (effect_of_ok ok).mem_events present)
    member ops

/-! ## Claims -/

def Queued (store : TaskStore) (runId : String) : Prop :=
  ∃ run, store.runs.get? runId = some run ∧ run.status = .queued

/-- The call is a claim of the run that returns it. -/
def ClaimSucceeds (store : TaskStore) (op : TaskOp) (runId : String) : Prop :=
  ∃ streamName producer eventId now view next,
    op = .claim runId streamName producer eventId now ∧
      taskService op store = .ok (.claimed (some view), next)

theorem ClaimSucceeds.queued (succeeds : ClaimSucceeds store op runId) : Queued store runId := by
  obtain ⟨streamName, producer, eventId, now, view, next, rfl, ok⟩ := succeeds
  obtain ⟨⟨claimed, result⟩, called, ok⟩ := bind_eq_ok.1 ok
  cases ok
  obtain ⟨run, found, ⟨-, none, -⟩ | ⟨queued, -, -⟩⟩ := claimQueuedTaskRun_ok called
  · cases none
  · exact ⟨run, found, queued⟩

theorem ClaimSucceeds.running (succeeds : ClaimSucceeds store op runId) :
    ¬ Queued (transact taskService store op) runId := by
  obtain ⟨streamName, producer, eventId, now, view, next, rfl, ok⟩ := succeeds
  rw [transact_of_ok ok]
  obtain ⟨⟨claimed, result⟩, called, ok⟩ := bind_eq_ok.1 ok
  cases ok
  obtain ⟨run, found, ⟨-, none, -⟩ | ⟨-, -, logs⟩⟩ := claimQueuedTaskRun_ok called
  · cases none
  · rintro ⟨after, afterFound, queued⟩
    rw [logs.runs, get?_updateRun, if_pos rfl, found] at afterFound
    cases afterFound
    cases queued

/-- Between two successful claims of a run it enters `queued`. -/
theorem queued_between_claims {middle : List TaskOp} (claimed : ClaimSucceeds store first runId)
    (again : ClaimSucceeds (run taskService store (first :: middle)) second runId) :
    ∃ early op late, middle = early ++ op :: late ∧
      ¬ Queued (run taskService store (first :: early)) runId ∧
      Queued (run taskService store (first :: (early ++ [op]))) runId := by
  have ends : Queued (run taskService (transact taskService store first) middle) runId :=
    again.queued
  exact exists_step_of_run (fun later => Queued later runId) claimed.running ends

/-! ## Wakes -/

/-- The delivery of an event that queues a run. -/
def Wakes (store : TaskStore) (op : TaskOp) (sourceEventId : String) : Prop :=
  ∃ streamName eventId now result next, op = .consume sourceEventId streamName eventId now ∧
    result.disposition = .queued ∧ taskService op store = .ok (.woken result, next)

/-- The wake leaves its key in the log of the run it wakes. -/
theorem Wakes.due (wakes : Wakes store op sourceEventId) :
    ∃ event parentRunId, store.events.get? sourceEventId = some event ∧
      WakeDue store event parentRunId ∧
      ∃ wake ∈ (transact taskService store op).events.rows, wake.taskRunId = parentRunId ∧
        wake.idempotencyKey = wakeIdempotencyKey parentRunId event.eventId := by
  obtain ⟨streamName, eventId, now, result, next, rfl, queued, ok⟩ := wakes
  rw [transact_of_ok ok]
  obtain ⟨⟨woken, after⟩, called, ok⟩ := bind_eq_ok.1 ok
  cases ok
  obtain ⟨event, found, processed⟩ := consumeEvent_ok called
  rcases processEvent_ok processed with ⟨-, other, -⟩ | ⟨parentRunId, view, due, -, moved⟩
  · exact absurd queued other
  · refine ⟨event, parentRunId, found, due, ?_⟩
    obtain ⟨run, runFound, -, -, logs⟩ := transitionTaskRun_ok moved
    rcases logs.events with ⟨⟨used, member, same⟩, -⟩ | ⟨wake, adds, rows, -⟩
    · have unused := find?_eq_none.1 due.unwoken used member
      exact absurd same (of_decide_eq_false (Bool.eq_false_iff.2 unused))
    · obtain ⟨_, -, made⟩ := adds.run
      refine ⟨wake, ?_, by rw [made]; rfl, by rw [made]; rfl⟩
      rw [rows]
      exact mem_append_right _ (mem_singleton_self _)

/-- An event that has woken a run wakes nobody again. -/
theorem not_wakes_again (middle : List TaskOp) (wakes : Wakes store first sourceEventId) :
    ¬ Wakes (run taskService store (first :: middle)) second sourceEventId := by
  intro again
  obtain ⟨event, parentRunId, found, due, wake, member, ofParent, key⟩ := wakes.due
  obtain ⟨event', parentRunId', found', due', -⟩ := again.due
  have eventMember := run_mem_events (mem_of_get? found) (first :: middle)
  have sameEvent : event' = event := by
    have located : (run taskService store (first :: middle)).events.get? sourceEventId =
        some event := get?_eq_some.2 ⟨eventMember, key_of_get? found⟩
    exact mem_unique found' located
  subst sameEvent
  have sameParent : parentRunId' = parentRunId := mem_unique due'.parent due.parent
  subst sameParent
  have wakeMember : wake ∈ (run taskService store (first :: middle)).eventsOf parentRunId' :=
    mem_eventsOf.2 ⟨run_mem_events member middle, ofParent⟩
  have unused := find?_eq_none.1 due'.unwoken wake wakeMember
  simp [key] at unused

/-- Consuming an event queues a run only if the run waits for exactly the run
that emitted the event. -/
theorem waited_of_consume {streamName : String} {answer : TaskAnswer}
    (ok : taskService (.consume sourceEventId streamName eventId now) store =
      .ok (answer, next)) (before : ¬ Queued store runId) (after : Queued next runId) :
    ∃ event run, store.events.get? sourceEventId = some event ∧
      isDependencyWakeEvent event.eventType = true ∧ event.parentRunId = some runId ∧
      store.runs.get? runId = some run ∧ run.status = .waitingDependency ∧
      dependencyRunId run.stopReason = some event.taskRunId := by
  obtain ⟨⟨woken, result⟩, called, ok⟩ := bind_eq_ok.1 ok
  cases ok
  obtain ⟨event, found, processed⟩ := consumeEvent_ok called
  rcases processEvent_ok processed with ⟨-, -, rfl⟩ | ⟨parentRunId, view, due, -, moved⟩
  · exact absurd after before
  · obtain ⟨run, runFound, -, -, logs⟩ := transitionTaskRun_ok moved
    have same : parentRunId = runId := by
      by_contra different
      obtain ⟨row, rowFound, queued⟩ := after
      have elsewhere : (wakeTransition parentRunId event streamName).runId ≠ runId := different
      rw [logs.runs, get?_updateRun, if_neg elsewhere] at rowFound
      exact before ⟨row, rowFound, queued⟩
    subst same
    obtain ⟨waiting, waitingFound, status, dependency⟩ := due.waiting
    exact ⟨event, waiting, found, due.wakes, due.parent, waitingFound, status, dependency⟩

/-- **One claim per epoch, one wake per event**, in every reachable store and
under every schedule: between two claims that return a run, the run enters
`queued`; the consumption of an event queues a run only if the run waits for
exactly the run that emitted it; and of any two consumptions of one event at most
one queues a run. -/
theorem claim_and_wake_once (ops : List TaskOp) :
    (∀ runId first middle second, ClaimSucceeds (storeAfter ops) first runId →
        ClaimSucceeds (storeAfter (ops ++ first :: middle)) second runId →
          ∃ early op late, middle = early ++ op :: late ∧
            ¬ Queued (storeAfter (ops ++ first :: early)) runId ∧
            Queued (storeAfter (ops ++ first :: (early ++ [op]))) runId) ∧
      (∀ sourceEventId streamName eventId now answer next,
        taskService (.consume sourceEventId streamName eventId now) (storeAfter ops) =
            .ok (answer, next) →
          ∀ runId, ¬ Queued (storeAfter ops) runId → Queued next runId →
            ∃ event run, (storeAfter ops).events.get? sourceEventId = some event ∧
              isDependencyWakeEvent event.eventType = true ∧ event.parentRunId = some runId ∧
              (storeAfter ops).runs.get? runId = some run ∧
              run.status = .waitingDependency ∧
              dependencyRunId run.stopReason = some event.taskRunId) ∧
      ∀ sourceEventId first middle second, Wakes (storeAfter ops) first sourceEventId →
        ¬ Wakes (storeAfter (ops ++ first :: middle)) second sourceEventId := by
  have split : ∀ more, storeAfter (ops ++ more) = run taskService (storeAfter ops) more :=
    fun more => run_append _ ops more
  refine ⟨?_, ?_, ?_⟩
  · intro runId first middle second claimed again
    rw [split] at again
    obtain ⟨early, op, late, parts, before, after⟩ := queued_between_claims claimed again
    exact ⟨early, op, late, parts, by rw [split]; exact before, by rw [split]; exact after⟩
  · intro sourceEventId streamName eventId now answer next answered runId before after
    exact waited_of_consume answered before after
  · intro sourceEventId first middle second wakes
    rw [split]
    exact not_wakes_again middle wakes

end SecFusion.TaskRuntime
