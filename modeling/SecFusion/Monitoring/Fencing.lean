import SecFusion.Monitoring.Steps

/-!
# Fencing

A run may have several workers, one for each time it was started.  Each start raises
the run's attempt counter, so a worker is the run's latest one when no other holds the
run after it.

A report does not carry the attempt it belongs to, and the run's status is all that it
checks.  The reports of one run are fenced as long as a report that finds its run
running is the report of the run's current attempt; a worker that comes back after its
run was recovered and started again closes the attempt of another.
-/

namespace SecFusion.Monitoring

open Foundations Sources AcquisitionRunModel

/-! ## The latest worker -/

/-- The worker that a transaction reports for. -/
def CollectionOp.reporter : CollectionOp → Option ℕ
  | .complete worker _ _ | .fail worker _ _ => some worker
  | .schedule .. | .start .. | .recover .. | .dispatch .. => none

/-- Another worker has started the run after this one. -/
def Superseded (before : Collection) (worker : ℕ) : Prop :=
  ∃ held later other, before.workers[worker]? = some held ∧ worker < later ∧
    before.workers[later]? = some other ∧ other.context.runId = held.context.runId

variable {before next : Collection} {worker : ℕ} {op : CollectionOp} {row : AcquisitionRunModel}
  {held : Worker} {answer : Unit}

theorem superseded_iff : Superseded before worker ↔
    ∃ held ∈ before.workers[worker]?, ∃ other ∈ before.workers.drop (worker + 1),
      other.context.runId = held.context.runId := by
  constructor
  · rintro ⟨held, later, other, holds, after, otherHolds, ofRun⟩
    refine ⟨held, holds, other, List.mem_iff_getElem?.2 ⟨later - (worker + 1), ?_⟩, ofRun⟩
    rw [List.getElem?_drop, Nat.add_sub_cancel' after]
    exact otherHolds
  · rintro ⟨held, holds, other, member, ofRun⟩
    obtain ⟨index, otherHolds⟩ := List.mem_iff_getElem?.1 member
    rw [List.getElem?_drop] at otherHolds
    exact ⟨held, worker + 1 + index, other, holds, by omega, otherHolds, ofRun⟩

instance (before : Collection) (worker : ℕ) : Decidable (Superseded before worker) :=
  decidable_of_iff' _ superseded_iff

/-- The report of a worker is the report of the attempt that its run is in, if the run
is running. -/
def CurrentReports (before : Collection) (op : CollectionOp) : Prop :=
  ∀ worker ∈ op.reporter, ∀ held ∈ before.workers[worker]?,
    ∀ run ∈ before.store.runs.get? held.context.runId,
      run.status = .running → held.attempt = run.attempt

instance (before : Collection) (op : CollectionOp) : Decidable (CurrentReports before op) :=
  inferInstanceAs (Decidable (∀ worker ∈ op.reporter, ∀ held ∈ before.workers[worker]?,
    ∀ run ∈ before.store.runs.get? held.context.runId,
      run.status = .running → held.attempt = run.attempt))

/-- Workers of one run have rising attempts, up to the run's own. -/
structure Numbered (before : Collection) : Prop where
  rising : before.workers.Pairwise fun earlier later =>
    earlier.context.runId = later.context.runId → earlier.attempt < later.attempt
  bounded : ∀ held ∈ before.workers, ∃ run, before.store.runs.get? held.context.runId = some run ∧
    held.attempt ≤ run.attempt

/-- No step takes an attempt back. -/
theorem RunStep.attempt_le {old : AcquisitionRunModel} {row : Option AcquisitionRunModel}
    (step : RunStep before next op (some old) row) :
    ∃ new, row = some new ∧ old.attempt ≤ new.attempt := by
  cases step with
  | kept => exact ⟨old, rfl, le_rfl⟩
  | started => exact ⟨_, rfl, Nat.le_succ _⟩
  | refused | completed | failed | requeued => exact ⟨_, rfl, le_rfl⟩

theorem numbered_step (numbered : Numbered before) (step : Step before next op) :
    Numbered next := by
  have kept : ∀ held ∈ before.workers, ∃ run,
      next.store.runs.get? held.context.runId = some run ∧ held.attempt ≤ run.attempt := by
    intro held member
    obtain ⟨run, found, bound⟩ := numbered.bounded held member
    have moved := step.runs held.context.runId
    rw [found] at moved
    obtain ⟨new, newFound, later⟩ := moved.attempt_le
    exact ⟨new, newFound, bound.trans later⟩
  rcases step.workers with same | ⟨run, context, now, rfl, starts, added⟩
  · constructor
    · rw [same]
      exact numbered.rising
    · rw [same]
      exact kept
  · constructor
    case rising =>
      rw [added, pairwise_append]
      refine ⟨numbered.rising, List.pairwise_singleton _ _, fun held member other single ofRun => ?_⟩
      obtain rfl := mem_singleton.1 single
      obtain ⟨old, found, bound⟩ := numbered.bounded held member
      have named : held.context.runId = run.runId := ofRun.trans starts.runId
      rw [named, starts.found] at found
      obtain rfl := Option.some.inj found
      exact Nat.lt_succ_of_le bound
    case bounded =>
      rw [added]
      intro held member
      rcases mem_append.1 member with earlier | single
      · exact kept held earlier
      · obtain rfl := mem_singleton.1 single
        refine ⟨startedRun now run, ?_, le_rfl⟩
        rw [starts.runId, starts.runs, if_pos rfl]

theorem numbered_run (start : MonitoringStore) (ops : List CollectionOp) :
    Numbered (run collection { store := start } ops) := by
  refine run_invariant (fun before op answer next numbered ok =>
    numbered_step numbered (step_of_ok ok)) ?_ ops
  exact ⟨List.Pairwise.nil, forall_mem_nil _⟩

/-- A superseded worker's attempt is not the run's. -/
theorem Numbered.attempt_ne (numbered : Numbered before) {run : AcquisitionRunModel}
    (superseded : Superseded before worker) (holds : before.workers[worker]? = some held)
    (found : before.store.runs.get? held.context.runId = some run) :
    held.attempt ≠ run.attempt := by
  obtain ⟨held', later, other, holds', after, otherHolds, ofRun⟩ := superseded
  obtain rfl := mem_unique holds' holds
  obtain ⟨inBounds, here⟩ := List.getElem?_eq_some_iff.1 holds
  obtain ⟨laterInBounds, there⟩ := List.getElem?_eq_some_iff.1 otherHolds
  have rising := List.pairwise_iff_getElem.1 numbered.rising worker later inBounds laterInBounds
    after (by rw [here, there]; exact ofRun.symm)
  rw [here, there] at rising
  obtain ⟨run', found', bound⟩ := numbered.bounded other (mem_of_getElem? otherHolds)
  rw [ofRun, found] at found'
  obtain rfl := Option.some.inj found'
  exact (rising.trans_le bound).ne

/-! ## Reports -/

/-- A report changes nothing, or it finds its run running. -/
theorem report_ok (reports : op.reporter = some worker)
    (ok : collection op before = .ok (answer, next)) :
    next = before ∨ ∃ held run, before.workers[worker]? = some held ∧
      before.store.runs.get? held.context.runId = some run ∧ run.status = .running := by
  cases op with
  | schedule | start | recover | dispatch => cases reports
  | complete reporter result now =>
      cases reports
      obtain ⟨held, holds, ok⟩ := fetch_bind_eq_ok.1 ok
      obtain ⟨store, called, ok⟩ := bind_eq_ok.1 ok
      cases ok
      rcases completeCollectionRun_ok called with ⟨-, -, -, rfl⟩ |
        ⟨run, state, due, ofRun, -, reports⟩
      · exact .inl rfl
      · exact .inr ⟨held, run, holds, ofRun ▸ reports.found, reports.running⟩
  | fail reporter exc now =>
      cases reports
      obtain ⟨held, holds, ok⟩ := fetch_bind_eq_ok.1 ok
      obtain ⟨store, called, ok⟩ := bind_eq_ok.1 ok
      cases ok
      rcases failAcquisitionRun_ok called with ⟨-, -, -, rfl⟩ | ⟨run, state, ofRun, reports⟩
      · exact .inl rfl
      · exact .inr ⟨held, run, holds, ofRun ▸ reports.found, reports.running⟩

/-- What is recorded for a closed run, by the transaction that closes it. -/
inductive Recorded (before next : Collection) (row : AcquisitionRunModel) : CollectionOp → Prop
  /-- Its latest worker completes it: status, cursor and source cursor are the reported ones. -/
  | completion {worker : ℕ} {held : Worker} {result : CollectionResult} {now : ℤ}
      (holds : before.workers[worker]? = some held) (ofRun : held.context.runId = row.runId)
      (latest : ¬ Superseded before worker)
      (status : row.status = if result.acceptedCount = 0 then .noChange else .success)
      (cursorOut : row.cursorOut = result.nextCursor)
      (cursor : ∃ state, next.store.states.get? row.sourceId = some state ∧
        state.cursor = result.nextCursor) : Recorded before next row (.complete worker result now)
  /-- Its latest worker reports a failure, which leaves both cursors alone. -/
  | failure {worker : ℕ} {held : Worker} {exc : SourceException} {now : ℤ}
      (holds : before.workers[worker]? = some held) (ofRun : held.context.runId = row.runId)
      (latest : ¬ Superseded before worker) (status : row.status = (held.failure exc).status)
      (cursorOut : ∃ old, before.store.runs.get? row.runId = some old ∧
        row.cursorOut = old.cursorOut)
      (cursor : (next.store.states.get? row.sourceId).map (·.cursor) =
        (before.store.states.get? row.sourceId).map (·.cursor)) :
      Recorded before next row (.fail worker exc now)
  /-- The worker that would start it finds its source disabled. -/
  | refusal {now : ℤ} (status : row.status = .internalError)
      (disabled : ∃ source, before.store.sources.get? row.sourceId = some source ∧
        source.enabled = false)
      (states : ∀ sourceId, next.store.states.get? sourceId = before.store.states.get? sourceId) :
      Recorded before next row (.start row.runId now)

theorem recorded_of_step (numbered : Numbered before) (current : CurrentReports before op)
    (ok : collection op before = .ok (answer, next))
    (found : next.store.runs.get? row.runId = some row) (closed : row.Closed)
    (changed : before.store.runs.get? row.runId ≠ some row) : Recorded before next row op := by
  have latest : ∀ {worker : ℕ} {held : Worker} {run : AcquisitionRunModel},
      op.reporter = some worker → before.workers[worker]? = some held →
      before.store.runs.get? held.context.runId = some run → run.status = .running →
      ¬ Superseded before worker := by
    intro worker held run reports holds runFound running superseded
    exact numbered.attempt_ne superseded holds runFound
      (current worker reports held holds run runFound running)
  have step := step_of_ok ok
  have moved := step.runs row.runId
  rw [found] at moved
  generalize located : before.store.runs.get? row.runId = old at moved changed
  cases moved with
  | kept => exact absurd rfl changed
  | scheduled | requeued => exact absurd closed (active_of_queued rfl).not_closed
  | started => exact absurd closed (active_of_running rfl).not_closed
  | refused refuses =>
      refine .refusal rfl refuses.source fun sourceId => ?_
      rw [refuses.states]
  | completed completes =>
      have runFound := completes.ofRun ▸ completes.found
      have completed := (completes.states _).trans (if_pos rfl)
      exact .completion completes.holds completes.ofRun
        (latest rfl completes.holds runFound completes.running) rfl rfl ⟨_, completed, rfl⟩
  | failed fails =>
      have runFound := fails.ofRun ▸ fails.found
      refine .failure fails.holds fails.ofRun (latest rfl fails.holds runFound fails.running) rfl
        ⟨_, fails.found, rfl⟩ ?_
      have failed := (fails.states _).trans (if_pos rfl)
      exact (congrArg (Option.map (·.cursor)) failed).trans
        (congrArg (Option.map (·.cursor)) fails.stateFound).symm

/-! ## Runs of collection -/

theorem RunStep.closed {after : Option AcquisitionRunModel}
    (step : RunStep before next op (some row) after) (closed : row.Closed) : after = some row := by
  have idle : ¬ row.Active := fun active => active.not_closed closed
  cases step with
  | kept => rfl
  | started starts => exact absurd (active_of_queued starts.queued) idle
  | refused refuses => exact absurd (active_of_queued refuses.queued) idle
  | completed completes => exact absurd (active_of_running completes.running) idle
  | failed fails => exact absurd (active_of_running fails.running) idle
  | requeued member => exact absurd (stale_of_mem member).2.active idle

/-- The run is closed, and nobody has started it after this worker. -/
structure ClosedBy (row : AcquisitionRunModel) (worker : ℕ) (held : Worker)
    (sys : Collection) : Prop where
  found : sys.store.runs.get? row.runId = some row
  holds : sys.workers[worker]? = some held
  latest : ¬ Superseded sys worker

theorem ClosedBy.step (closedBy : ClosedBy row worker held before) (closed : row.Closed)
    (ofRun : held.context.runId = row.runId) (step : Step before next op) :
    ClosedBy row worker held next := by
  have found : next.store.runs.get? row.runId = some row := by
    have moved := step.runs row.runId
    rw [closedBy.found] at moved
    exact moved.closed closed
  rcases step.workers with same | ⟨run, context, now, rfl, starts, added⟩
  · refine ⟨found, same ▸ closedBy.holds, ?_⟩
    unfold Superseded
    rw [same]
    exact closedBy.latest
  have inBounds := (List.getElem?_eq_some_iff.1 closedBy.holds).1
  have holds : next.workers[worker]? = some held := by
    rw [added, getElem?_append_left inBounds]
    exact closedBy.holds
  refine ⟨found, holds, ?_⟩
  rintro ⟨held', later, other, holds', after, otherHolds, sameRun⟩
  obtain rfl := mem_unique holds' holds
  rw [added] at otherHolds
  by_cases earlier : later < before.workers.length
  · rw [getElem?_append_left earlier] at otherHolds
    exact closedBy.latest ⟨_, later, other, closedBy.holds, after, otherHolds, sameRun⟩
  · -- the worker that was added holds a run that was queued
    have single := mem_of_getElem? (List.getElem?_append_right (not_lt.1 earlier) ▸ otherHolds)
    obtain rfl := mem_singleton.1 single
    have named : run.runId = row.runId := starts.runId.symm.trans (sameRun.trans ofRun)
    have same := closedBy.found
    rw [← named, starts.found] at same
    obtain rfl := Option.some.inj same
    exact absurd closed (active_of_queued starts.queued).not_closed

/-- **Acquisition runs are fenced**: a superseded worker changes nothing, and what is
recorded for a closed run is what its latest worker has reported. -/
structure Fenced (start : MonitoringStore) (ops : List CollectionOp) : Prop where
  superseded : ∀ early op late worker, ops = early ++ op :: late → op.reporter = some worker →
    Superseded (run collection { store := start } early) worker →
      transact collection (run collection { store := start } early) op =
        run collection { store := start } early
  recorded : ∀ row, (run collection { store := start } ops).store.runs.get? row.runId = some row →
    row.Closed → start.runs.get? row.runId = some row ∨
      ∃ early op late, ops = early ++ op :: late ∧
        Recorded (run collection { store := start } early)
          (run collection { store := start } (early ++ [op])) row op ∧
        ∀ worker ∈ op.reporter, ¬ Superseded (run collection { store := start } ops) worker

/-- The worker that a record names is still the latest after any further steps. -/
theorem Recorded.latest_after (recorded : Recorded before next row op) (closed : row.Closed)
    (found : next.store.runs.get? row.runId = some row) (workers : next.workers = before.workers)
    (late : List CollectionOp) :
    ∀ worker ∈ op.reporter, ¬ Superseded (run collection next late) worker := by
  have stays : ∀ {worker : ℕ} {held : Worker}, before.workers[worker]? = some held →
      held.context.runId = row.runId → ¬ Superseded before worker →
      ¬ Superseded (run collection next late) worker := by
    intro worker held holds ofRun latest
    have begins : ClosedBy row worker held next := by
      refine ⟨found, workers ▸ holds, ?_⟩
      unfold Superseded
      rw [workers]
      exact latest
    exact (run_invariant (fun _ _ _ _ closedBy ok =>
      closedBy.step closed ofRun (step_of_ok ok)) begins late).latest
  intro worker reports
  cases recorded with
  | completion holds ofRun latest =>
      cases reports
      exact stays holds ofRun latest
  | failure holds ofRun latest =>
      cases reports
      exact stays holds ofRun latest
  | refusal => cases reports

theorem Step.workers_of_reporter (step : Step before next op) (reports : op.reporter = some worker)
    :
    next.workers = before.workers := by
  rcases step.workers with same | ⟨run, context, now, rfl, -⟩
  · exact same
  · cases reports

/-- **Runs are fenced while every report that finds its run running is the report of the
run's current attempt.** -/
theorem fenced_of_currentReports (start : MonitoringStore) (ops : List CollectionOp)
    (current : Along collection CurrentReports { store := start } ops) : Fenced start ops := by
  constructor
  case superseded =>
    rintro early op late worker rfl reports superseded
    have here := current.at_step.2
    have numbered := numbered_run start early
    generalize run collection { store := start } early = before at superseded here numbered ⊢
    refine @transact_induction _ _ _ _ collection (· = before) before op rfl
      fun answer next answered => ?_
    rcases report_ok reports answered with same | ⟨held, run, holds, found, running⟩
    · exact same
    · exact absurd (here worker reports held holds run found running)
        (numbered.attempt_ne superseded holds found)
  case recorded =>
    intro row found closed
    by_cases before : start.runs.get? row.runId = some row
    · exact .inl before
    · obtain ⟨early, op, late, rfl, unrecorded, begins⟩ :=
        exists_step_of_run (fun (sys : Collection) => sys.store.runs.get? row.runId = some row)
          before found
      have here := current.at_step.2
      have numbered := numbered_run start early
      refine .inr ⟨early, op, late, rfl, ?_⟩
      rw [run_append] at begins ⊢
      rw [run_append]
      generalize run collection { store := start } early = middle at *
      cases outcome : collection op middle with
      | error raised =>
          rw [run_cons, run_nil, transact_of_error outcome] at begins
          exact absurd begins unrecorded
      | ok result =>
          obtain ⟨answer, next⟩ := result
          rw [run_cons, run_nil, transact_of_ok outcome] at begins ⊢
          rw [run_cons, transact_of_ok outcome]
          have recorded := recorded_of_step numbered here outcome begins closed unrecorded
          refine ⟨recorded, fun worker reports => ?_⟩
          have workers := (step_of_ok outcome).workers_of_reporter reports
          exact recorded.latest_after closed begins workers late worker reports

/-! ## A late worker -/

/-- A store with one source, which is due. -/
def feedStore : MonitoringStore := .ofSource { sourceId := "feed" } { nextDueAt := some 0 }

/-- The run of the feed is queued and started. -/
def firstAttempt : List CollectionOp :=
  [.schedule 0 100 none fun _ => ⟨"run", "requested"⟩, .start "run" 1000000]

/-- A report that the feed has moved to a page. -/
def pageReached (page : ℤ) : CollectionResult where
  nextCursor := [("page", .int page)]
  acceptedCount := 1
  changed := true

/-- After a quarter of an hour the run is recovered and started again. -/
def secondAttempt : List CollectionOp :=
  firstAttempt ++ [.recover 902000000 900 100 none fun _ => "again", .start "run" 903000000]

theorem fenced_of_currentReports_feed :
    Fenced feedStore (secondAttempt ++ [.complete 1 (pageReached 1) 904000000]) :=
  fenced_of_currentReports feedStore _ (by decide +kernel)

/-- The first worker comes back and closes the attempt of the second. -/
theorem late_worker_closes_run :
    ¬ Fenced feedStore (secondAttempt ++ [.complete 0 (pageReached 1) 904000000]) := by
  intro fenced
  have superseded : Superseded (run collection { store := feedStore } secondAttempt) 0 := by
    decide +kernel
  have unchanged := fenced.superseded secondAttempt _ [] 0 rfl rfl superseded
  have status := congrArg (fun sys => (sys.store.runs.get? "run").map (·.status)) unchanged
  exact absurd status (by decide +kernel)

end SecFusion.Monitoring
