import SecFusion.Foundations.Latest
import SecFusion.TaskRuntime.Effects

/-!
# The life of a task run

What the row of a run and its event log satisfy in every reachable store, under
every interleaving of the calls.

The log of a run is numbered from one without a gap, no key occurs in it twice,
and every event has its delivery row (`LogKept`).  A row moves along the
transition table, and a terminal row is never written again.

`append_task_event` computes the next number from the largest one; what makes
this the length of the log is the invariant itself, so the numbering is carried
through the run and not read off one call.
-/

namespace SecFusion.TaskRuntime

open Foundations

/-! ## The log -/

/-- What the event log satisfies, whatever the run. -/
structure LogKept (store : TaskStore) : Prop where
  /-- The events of a run are numbered from one, in the order of the log. -/
  seqs : ∀ runId, (store.eventsOf runId).map (·.seq) =
    range' 1 (store.eventsOf runId).length
  keys : ∀ runId, ((store.eventsOf runId).map (·.idempotencyKey)).Nodup
  /-- Events and delivery rows are in step. -/
  delivered : store.deliveries.rows.map (·.eventId) = store.events.rows.map (·.eventId)
  /-- An event belongs to a run (a foreign key), whose parent it records. -/
  ofRun : ∀ event ∈ store.events.rows, ∃ run, store.runs.get? event.taskRunId = some run ∧
    event.parentRunId = run.parentRunId

theorem LogKept.empty : LogKept TaskStore.empty where
  seqs _ := rfl
  keys _ := nodup_nil
  delivered := rfl
  ofRun := nofun

variable {store next : TaskStore} {runId : String} {before : TaskRunModel}

/-- The largest number in a log is its length. -/
theorem LogKept.lastSeq (kept : LogKept store) (runId : String) :
    store.lastSeq runId = (store.eventsOf runId).length := by
  rw [TaskStore.lastSeq, kept.seqs, foldl_max_range']

/-- Runs may be added and rewritten without touching the log. -/
theorem LogKept.of_runs (kept : LogKept store) (events : next.events = store.events)
    (deliveries : next.deliveries = store.deliveries)
    (runs : ∀ runId run, store.runs.get? runId = some run →
      ∃ later, next.runs.get? runId = some later ∧ later.parentRunId = run.parentRunId) :
    LogKept next := by
  have logs : ∀ runId, next.eventsOf runId = store.eventsOf runId := by
    intro runId
    rw [TaskStore.eventsOf, events]
    rfl
  refine ⟨fun runId => ?_, fun runId => ?_, ?_, fun event member => ?_⟩
  · rw [logs]
    exact kept.seqs runId
  · rw [logs]
    exact kept.keys runId
  · rw [events, deliveries]
    exact kept.delivered
  · rw [events] at member
    obtain ⟨run, found, parent⟩ := kept.ofRun event member
    obtain ⟨later, laterFound, same⟩ := runs _ run found
    exact ⟨later, laterFound, parent.trans same.symm⟩

/-- **Appending keeps the log**: the new event takes the next number and a key
that was not used. -/
theorem LogKept.logs {request : EventRequest} {eventId : String} {now : ℤ} (kept : LogKept store)
    (logs : Logs store request eventId now next) :
    LogKept next := by
  rcases logs.events with ⟨-, rfl⟩ | ⟨event, adds, rows, deliveries⟩
  · exact kept
  obtain ⟨run, runFound, event_eq⟩ := adds.run
  have ofRequest : event.taskRunId = request.taskRunId := by rw [event_eq]; rfl
  have split := eventsOf_append rows
  constructor
  case seqs =>
    intro runId
    rw [split]
    split_ifs with same
    · have number : event.seq = (store.eventsOf runId).length + 1 := by
        rw [event_eq, ← same, ofRequest, ← kept.lastSeq]
        rfl
      rw [map_append, kept.seqs, List.length_append, List.length_singleton,
        List.range'_1_concat, map_singleton, number, add_comm 1]
    · exact kept.seqs runId
  case keys =>
    intro runId
    rw [split]
    split_ifs with same
    · rw [map_append, map_singleton, nodup_append]
      refine ⟨kept.keys runId, nodup_singleton _, ?_⟩
      intro key listed other singleton
      obtain ⟨prior, member, rfl⟩ := mem_map.1 listed
      rw [mem_singleton.1 singleton, event_eq]
      rw [← same, ofRequest] at member
      exact adds.unused prior member
    · exact kept.keys runId
  case delivered =>
    rw [rows, deliveries, map_append, map_append, kept.delivered, event_eq]
    rfl
  case ofRun =>
    intro other member
    rw [logs.runs]
    rw [rows, mem_append, mem_singleton] at member
    rcases member with old | rfl
    · exact kept.ofRun other old
    · exact ⟨run, by rw [ofRequest]; exact runFound, by rw [event_eq]; rfl⟩

/-! ## Rows -/

/-- What becomes of the row of a run in one call. -/
theorem Effect.row (effect : Effect store next) (found : store.runs.get? runId = some before) :
    ∃ after, next.runs.get? runId = some after ∧ (after = before ∨ RunChange before after) := by
  cases effect with
  | idle => exact ⟨before, found, .inl rfl⟩
  | logged logs =>
      rw [logs.runs]
      exact ⟨before, found, .inl rfl⟩
  | created grows _ _ _ _ inserted logs =>
      rw [logs.runs]
      rw [← grows.runs] at found
      exact ⟨before, get?_of_insert? inserted found, .inl rfl⟩
  | @rewritten grown _ changed eventId now old rewrite keeps request grows oldFound change _ _ logs =>
      have lookup : next.runs.get? runId =
          if changed = runId then (store.runs.get? runId).map rewrite else store.runs.get? runId := by
        rw [logs.runs, TaskStore.updateRun, get?_update, grows.runs]
      by_cases same : changed = runId
      · subst same
        obtain rfl := mem_unique found oldFound
        rw [if_pos rfl, found] at lookup
        exact ⟨rewrite before, lookup, .inr change⟩
      · rw [if_neg same, found] at lookup
        exact ⟨before, lookup, .inl rfl⟩

/-- A run that a call leaves behind was there before it or is new and submitted. -/
theorem Effect.row_before (effect : Effect store next) {after : TaskRunModel}
    (found : next.runs.get? runId = some after) :
    (∃ before, store.runs.get? runId = some before) ∨
      (store.runs.get? runId = none ∧ after.status = .submitted) := by
  cases present : store.runs.get? runId with
  | some before => exact .inl ⟨before, rfl⟩
  | none =>
      refine .inr ⟨rfl, ?_⟩
      cases effect with
      | idle =>
          rw [present] at found
          cases found
      | logged logs =>
          rw [logs.runs, present] at found
          cases found
      | created grows _ _ _ _ inserted logs =>
          rw [logs.runs] at found
          have lookup := (get?_insert? inserted runId).symm.trans found
          rw [grows.runs, present] at lookup
          split at lookup
          · cases lookup
            rfl
          · cases lookup
      | rewritten grows oldFound _ _ _ logs =>
          rw [logs.runs, TaskStore.updateRun, get?_update, grows.runs, present] at found
          simp at found

theorem SameRun.refl (run : TaskRunModel) : SameRun run run := ⟨rfl, rfl, rfl⟩

theorem Effect.sameRun (effect : Effect store next) (found : store.runs.get? runId = some before) :
    ∃ after, next.runs.get? runId = some after ∧ SameRun before after := by
  obtain ⟨after, later, rfl | change⟩ := effect.row found
  · exact ⟨after, later, SameRun.refl _⟩
  · exact ⟨after, later, change.same⟩

theorem LogKept.effect (kept : LogKept store) (effect : Effect store next) : LogKept next := by
  cases effect with
  | idle => exact kept
  | logged logs => exact kept.logs logs
  | created grows _ _ _ _ inserted logs =>
      refine LogKept.logs ?_ logs
      refine kept.of_runs grows.events grows.deliveries ?_
      intro runId run found
      rw [← grows.runs] at found
      exact ⟨run, get?_of_insert? inserted found, rfl⟩
  | @rewritten grown _ changed eventId now old rewrite keeps request grows oldFound change _ _ logs =>
      refine LogKept.logs ?_ logs
      refine kept.of_runs grows.events grows.deliveries ?_
      intro runId run found
      simp only [TaskStore.updateRun, get?_update, grows.runs, found, map_some]
      by_cases same : changed = runId
      · subst same
        obtain rfl := mem_unique found oldFound
        exact ⟨rewrite run, if_pos rfl, change.same.parent⟩
      · exact ⟨run, if_neg same, rfl⟩

/-! ## Runs of calls -/

/-- The store after a sequence of calls, each a transaction. -/
def storeAfter (ops : List TaskOp) : TaskStore := run taskService TaskStore.empty ops

theorem logKept_storeAfter (ops : List TaskOp) : LogKept (storeAfter ops) :=
  run_invariant (fun _ _ _ _ kept ok => LogKept.effect kept (effect_of_ok ok))
    LogKept.empty ops

/-- Every event has exactly one delivery row. -/
theorem LogKept.delivery (kept : LogKept store) {event : TaskEventModel}
    (member : event ∈ store.events.rows) :
    ∃! delivery, delivery ∈ store.deliveries.rows ∧ delivery.eventId = event.eventId := by
  have listed : event.eventId ∈ store.deliveries.rows.map (·.eventId) := by
    rw [kept.delivered]
    exact mem_map_of_mem member
  obtain ⟨delivery, found, same⟩ := mem_map.1 listed
  refine ⟨delivery, ⟨found, same⟩, ?_⟩
  rintro other ⟨otherFound, otherSame⟩
  exact eq_of_key otherFound found (otherSame.trans same.symm)

/-- One transaction leaves a terminal row as it is. -/
theorem transact_terminal {row : TaskRunModel} (found : store.runs.get? runId = some row)
    (terminal : row.status.isTerminal = true) (op : TaskOp) :
    (transact taskService store op).runs.get? runId = some row := by
  refine transact_induction (motive := fun next : TaskStore => next.runs.get? runId = some row) found ?_
  intro answer next ok
  obtain ⟨after, later, rfl | change⟩ := (effect_of_ok ok).row found
  · exact later
  · rw [change.live] at terminal
    cases terminal

theorem run_terminal {row : TaskRunModel} (found : store.runs.get? runId = some row)
    (terminal : row.status.isTerminal = true) (ops : List TaskOp) :
    (run taskService store ops).runs.get? runId = some row := by
  induction ops generalizing store with
  | nil => exact found
  | cons op rest ih => exact ih (transact_terminal found terminal op)

/-- One transaction moves a status along the transition table or not at all. -/
theorem transact_status (found : store.runs.get? runId = some before) (op : TaskOp) :
    ∃ after, (transact taskService store op).runs.get? runId = some after ∧
      (after.status = before.status ∨
        canTransitionTaskRun before.status after.status = true) := by
  refine transact_induction
    (motive := fun next : TaskStore => ∃ after, next.runs.get? runId = some after ∧
      (after.status = before.status ∨ canTransitionTaskRun before.status after.status = true))
    ⟨before, found, .inl rfl⟩ ?_
  intro answer next ok
  obtain ⟨after, later, rfl | change⟩ := (effect_of_ok ok).row found
  · exact ⟨after, later, .inl rfl⟩
  · exact ⟨after, later, change.status⟩

/-- **The life of every task run.**  In every reachable store the events of each
run are numbered exactly from one to their number, with distinct keys and one
delivery row each; the next transaction, whatever it is, moves the status of a
run along the transition table or leaves it; and the row of a terminal run is
the same after every further sequence of transactions. -/
theorem task_store_lifecycle (ops : List TaskOp) :
    (∀ runId, ((storeAfter ops).eventsOf runId).map (·.seq) =
        List.range' 1 ((storeAfter ops).eventsOf runId).length) ∧
      (∀ runId, (((storeAfter ops).eventsOf runId).map (·.idempotencyKey)).Nodup) ∧
      (∀ event ∈ (storeAfter ops).events.rows, ∃! delivery,
        delivery ∈ (storeAfter ops).deliveries.rows ∧ delivery.eventId = event.eventId) ∧
      (∀ op runId before, (storeAfter ops).runs.get? runId = some before →
        ∃ after, (storeAfter (ops ++ [op])).runs.get? runId = some after ∧
          (after.status = before.status ∨
            canTransitionTaskRun before.status after.status = true)) ∧
      (∀ later runId row, (storeAfter ops).runs.get? runId = some row →
        row.status.isTerminal = true →
          (storeAfter (ops ++ later)).runs.get? runId = some row) := by
  have kept := logKept_storeAfter ops
  refine ⟨kept.seqs, kept.keys, fun event member => kept.delivery member, ?_, ?_⟩
  · intro op runId before found
    rw [storeAfter, run_append]
    exact transact_status found op
  · intro later runId row found terminal
    rw [storeAfter, run_append]
    exact run_terminal found terminal later

end SecFusion.TaskRuntime
