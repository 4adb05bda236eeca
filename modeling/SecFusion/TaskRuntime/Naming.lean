import SecFusion.TaskRuntime.Effects

/-!
# Runs that a call does not name

A call writes the run it names, and the scheduler the run that waits for the one whose
event it consumes.  Every other run keeps its row and its log (`apart_of_unnamed`).
-/

namespace SecFusion.TaskRuntime

open Foundations

/-- **The row and the log of a run** are as they were. -/
structure Apart (runId : String) (store next : TaskStore) : Prop where
  row : next.runs.get? runId = store.runs.get? runId
  log : next.eventsOf runId = store.eventsOf runId

variable {runId : String} {store next : TaskStore} {eventId : String} {now : ℤ}

theorem Apart.refl (runId : String) (store : TaskStore) : Apart runId store store := ⟨rfl, rfl⟩

theorem Apart.trans {middle : TaskStore} (left : Apart runId store middle)
    (right : Apart runId middle next) : Apart runId store next :=
  ⟨right.row.trans left.row, right.log.trans left.log⟩

theorem Logs.apart {request : EventRequest} (logs : Logs store request eventId now next)
    (other : request.taskRunId ≠ runId) : Apart runId store next where
  row := by rw [logs.runs]
  log := by
    rcases logs.events with ⟨-, rfl⟩ | ⟨event, adds, rows, -⟩
    · rfl
    · obtain ⟨run, -, rfl⟩ := adds.run
      rw [eventsOf_append rows, if_neg]
      exact other

theorem Grows.apart (grows : Grows store next) : Apart runId store next where
  row := by rw [grows.runs]
  log := by
    unfold TaskStore.eventsOf
    rw [grows.events]

theorem Apart.of_rewrite {changed : String} {rewrite : TaskRunModel → TaskRunModel}
    {keeps : ∀ run, (rewrite run).runId = run.runId} (other : changed ≠ runId) :
    Apart runId store (store.updateRun changed rewrite keeps) where
  row := by rw [get?_updateRun, if_neg other]
  log := eventsOf_updateRun store changed rewrite keeps runId

/-- A run under another name is created. -/
theorem Apart.of_create {request : CreateTaskRun} {uuid : String} {view : TaskRun}
    (ok : createTaskRun store request uuid eventId now = .ok (view, next))
    (other : resolveRunId request.runId uuid ≠ runId) : Apart runId store next := by
  obtain ⟨grown, runs, contractRow, contextVersionId, grows, -, -, -, -, inserted, logs⟩ :=
    createTaskRun_ok ok
  have added : Apart runId grown { grown with runs } := by
    refine ⟨?_, rfl⟩
    rw [get?_insert? inserted, if_neg]
    exact other
  exact grows.apart.trans (added.trans (logs.apart other))

theorem Apart.of_transition {request : TransitionTaskRun} {view : TaskRun}
    (ok : transitionTaskRun store request eventId now = .ok (view, next))
    (other : request.runId ≠ runId) : Apart runId store next := by
  obtain ⟨run, -, -, -, logs⟩ := transitionTaskRun_ok ok
  exact (Apart.of_rewrite other).trans (logs.apart other)

def TaskOp.named : TaskOp → List String
  | .create request uuid _ _ => [resolveRunId request.runId uuid]
  | .createChild request uuid _ _ => [resolveRunId request.runId uuid]
  | .claim runId _ _ _ _ => [runId]
  | .updateContext runId _ _ _ _ _ => [runId]
  | .transition request _ _ => [request.runId]
  | .append request _ _ => [request.taskRunId]
  | .consume _ _ _ _ => []

/-- The run waits for no other. -/
def Awake (store : TaskStore) (runId : String) : Prop :=
  ∀ run, store.runs.get? runId = some run → run.status ≠ .waitingDependency

/-- **A run that a call does not name** is left alone, unless it waits for another. -/
theorem apart_of_unnamed {op : TaskOp} {answer : TaskAnswer}
    (ok : taskService op store = .ok (answer, next)) (unnamed : runId ∉ op.named)
    (awake : Awake store runId) : Apart runId store next := by
  cases taskService_called ok with
  | create called =>
      exact .of_create called fun same => unnamed (mem_singleton.2 same.symm)
  | createChild called =>
      obtain ⟨manifest, created⟩ := createChildTaskRun_ok called
      exact .of_create created fun same => unnamed (mem_singleton.2 same.symm)
  | @claim claimed _ _ _ _ _ called =>
      have other : claimed ≠ runId := fun same => unnamed (mem_singleton.2 same.symm)
      obtain ⟨run, found, ⟨-, -, rfl⟩ | ⟨queued, -, logs⟩⟩ := claimQueuedTaskRun_ok called
      · exact .refl _ _
      · have ofRun : run.runId = claimed := key_of_get? found
        refine (Apart.of_rewrite other).trans (logs.apart ?_)
        rw [← ofRun] at other
        exact other
  | @updateContext changed _ _ _ _ _ _ called =>
      have other : changed ≠ runId := fun same => unnamed (mem_singleton.2 same.symm)
      obtain ⟨run, grown, contextVersionId, found, live, grows, logs⟩ := updateTaskContext_ok called
      exact grows.apart.trans ((Apart.of_rewrite other).trans (logs.apart other))
  | transition called =>
      exact .of_transition called fun same => unnamed (mem_singleton.2 same.symm)
  | append called =>
      exact (appendTaskEvent_ok called).apart fun same =>
        unnamed (mem_singleton.2 same.symm)
  | consume called =>
      obtain ⟨event, -, processed⟩ := consumeEvent_ok called
      rcases processEvent_ok processed with ⟨-, -, rfl⟩ | ⟨parent, view, due, -, moved⟩
      · exact .refl _ _
      · -- the scheduler wakes a run that waits
        refine .of_transition moved fun same => ?_
        obtain ⟨run, found, waiting, -⟩ := due.waiting
        replace same : parent = runId := same
        exact awake run (same ▸ found) waiting

end SecFusion.TaskRuntime
