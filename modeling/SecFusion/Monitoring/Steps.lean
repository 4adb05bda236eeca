import SecFusion.Monitoring.Collection

/-!
# The steps of collection

For every transaction of collection, what it does to one run and to one source state.
A run moves along `queued → running → closed`, and back from `running` to `queued`
when it is recovered; the state of a source is written with the run that is started or
closed, and by the scheduler.
-/

namespace SecFusion.Monitoring

open Foundations Sources

/-! ## Starting, completing and failing -/

/-- A start of a queued run of an enabled source. -/
structure Starts (store : MonitoringStore) (run : AcquisitionRunModel) (now : ℤ)
    (context : AcquisitionContext) (next : MonitoringStore) : Prop where
  found : store.runs.get? run.runId = some run
  queued : run.status = .queued
  source : ∃ source, store.sources.get? run.sourceId = some source ∧ source.enabled = true
  runId : context.runId = run.runId
  cursor : context.state.cursor = run.cursorIn
  sources : next.sources = store.sources
  runs : ∀ runId, next.runs.get? runId =
    if run.runId = runId then some (startedRun now run) else store.runs.get? runId
  states : ∀ sourceId, next.states.get? sourceId =
    if run.sourceId = sourceId then
      (store.states.get? sourceId).map (attemptedState now)
    else store.states.get? sourceId

/-- A start of a queued run whose source is disabled. -/
structure Refuses (store : MonitoringStore) (run : AcquisitionRunModel) (now : ℤ)
    (next : MonitoringStore) : Prop where
  found : store.runs.get? run.runId = some run
  queued : run.status = .queued
  source : ∃ source, store.sources.get? run.sourceId = some source ∧ source.enabled = false
  sources : next.sources = store.sources
  states : next.states = store.states
  runs : ∀ runId, next.runs.get? runId =
    if run.runId = runId then some (refusedRun now run) else store.runs.get? runId

variable {store : MonitoringStore} {run : AcquisitionRunModel} {id runId : String}
  {next before : Collection} {now : ℤ} {answer : Option AcquisitionContext}
  {result : CollectionResult} {op : CollectionOp} {limit worker : ℕ}
  {sourceIds : Option (List String)} {held : Worker} {row : Option AcquisitionRunModel}

/-- The runs after the row of one run was rewritten. -/
theorem get?_update_runs {rewrite : AcquisitionRunModel → AcquisitionRunModel}
    (keeps : ∀ row, (rewrite row).runId = row.runId) (found : store.runs.get? id = some run)
    (runId : String) : (store.runs.update id rewrite keeps).get? runId =
      if run.runId = runId then some (rewrite run) else store.runs.get? runId := by
  have named := key_of_get? found
  subst named
  rw [get?_update]
  split
  next same => rw [← same, found, map_some]
  next => rfl

theorem startAcquisitionRun_ok {next : MonitoringStore}
    (ok : startAcquisitionRun store runId now = .ok (answer, next)) :
    (answer = none ∧ next = store) ∨
      (∃ run, run.runId = runId ∧ answer = none ∧ Refuses store run now next) ∨
      ∃ run context, run.runId = runId ∧ answer = some context ∧
        Starts store run now context next := by
  unfold startAcquisitionRun at ok
  obtain ⟨run, found, ok⟩ := fetch_bind_eq_ok.1 ok
  have named := key_of_get? found
  split at ok
  · cases ok
    exact .inl ⟨rfl, rfl⟩
  obtain ⟨queued, ok⟩ := require_bind_eq_ok.1 ok
  obtain ⟨source, sourceFound, ok⟩ := fetch_bind_eq_ok.1 ok
  obtain ⟨state, stateFound, ok⟩ := fetch_bind_eq_ok.1 ok
  split at ok
  next disabled =>
    cases ok
    refine .inr (.inl ⟨run, named, rfl, ?_⟩)
    exact ⟨named ▸ found, queued, ⟨source, sourceFound, disabled⟩, rfl, rfl,
      get?_update_runs (refusedRun_runId now) found⟩
  next enabled =>
    cases ok
    refine .inr (.inr ⟨run, _, named, rfl, ?_⟩)
    exact ⟨named ▸ found, queued, ⟨source, sourceFound, by simpa using enabled⟩, named.symm, rfl,
      rfl, get?_update_runs (startedRun_runId now) found, get?_update _ _ _ (attemptedState_sourceId now)⟩

/-- A report that finds its run running: what it makes of the run and of the state of
its source. -/
structure Reports (store : MonitoringStore) (run : AcquisitionRunModel) (state : SourceStateModel)
    (run' : AcquisitionRunModel) (state' : SourceStateModel) (next : MonitoringStore) : Prop where
  found : store.runs.get? run.runId = some run
  running : run.status = .running
  stateFound : store.states.get? run.sourceId = some state
  sources : next.sources = store.sources
  runs : ∀ runId, next.runs.get? runId =
    if run.runId = runId then some run' else store.runs.get? runId
  states : ∀ sourceId, next.states.get? sourceId =
    if run.sourceId = sourceId then some state' else store.states.get? sourceId

/-- The state of the run's source after it was rewritten. -/
theorem get?_update_states {state : SourceStateModel}
    {rewrite : SourceStateModel → SourceStateModel}
    (keeps : ∀ row, (rewrite row).sourceId = row.sourceId)
    (found : store.states.get? id = some state) (sourceId : String) :
    (store.states.update id rewrite keeps).get? sourceId =
      if id = sourceId then some (rewrite state) else store.states.get? sourceId := by
  rw [get?_update]
  split
  next same => rw [← same, found, map_some]
  next => rfl

theorem lockedRunAndState_ok {locked : AcquisitionRunModel × SourceStateModel}
    (ok : lockedRunAndState store runId = .ok locked) :
    store.runs.get? runId = some locked.1 ∧
      store.states.get? locked.1.sourceId = some locked.2 := by
  obtain ⟨run, found, ok⟩ := fetch_bind_eq_ok.1 ok
  obtain ⟨state, stateFound, ok⟩ := fetch_bind_eq_ok.1 ok
  cases ok
  exact ⟨found, stateFound⟩

theorem completeCollectionRun_ok {next : MonitoringStore}
    (ok : completeCollectionRun store runId result now = .ok next) :
    (∃ run, store.runs.get? runId = some run ∧ run.Closed ∧ next = store) ∨
      ∃ run state due, run.runId = runId ∧
        dueAfterCompletion (store.sources.get? run.sourceId) result now state.nextDueAt = .ok due ∧
        Reports store run state (completedRun result now run)
          (completedState result now due state) next := by
  obtain ⟨⟨run, state⟩, locked, ok⟩ := bind_eq_ok.1 ok
  obtain ⟨found, stateFound⟩ := lockedRunAndState_ok locked
  dsimp only at found stateFound ok
  split at ok
  next closed =>
    cases ok
    exact .inl ⟨run, found, closed, rfl⟩
  obtain ⟨running, ok⟩ := require_bind_eq_ok.1 ok
  obtain ⟨due, planned, ok⟩ := bind_eq_ok.1 ok
  cases ok
  have named := key_of_get? found
  exact .inr ⟨run, state, due, named, planned, named ▸ found, running, stateFound, rfl,
    get?_update_runs (completedRun_runId result now) found,
    get?_update_states (completedState_sourceId result now due) stateFound⟩

theorem failAcquisitionRun_ok {next : MonitoringStore} {failure : AcquisitionFailure}
    (ok : failAcquisitionRun store runId failure now = .ok next) :
    (∃ run, store.runs.get? runId = some run ∧ run.Closed ∧ next = store) ∨
      ∃ run state, run.runId = runId ∧
        Reports store run state (failedRun failure now run)
          (failedState (now + span failure.backoffSeconds) state) next := by
  obtain ⟨⟨run, state⟩, locked, ok⟩ := bind_eq_ok.1 ok
  obtain ⟨found, stateFound⟩ := lockedRunAndState_ok locked
  dsimp only at found stateFound ok
  split at ok
  next closed =>
    cases ok
    exact .inl ⟨run, found, closed, rfl⟩
  obtain ⟨running, ok⟩ := require_bind_eq_ok.1 ok
  obtain ⟨backoff, moved, ok⟩ := bind_eq_ok.1 ok
  obtain rfl := plusSeconds_ok moved
  cases ok
  have named := key_of_get? found
  exact .inr ⟨run, state, named, named ▸ found, running, stateFound, rfl,
    get?_update_runs (failedRun_runId failure now) found,
    get?_update_states (failedState_sourceId _) stateFound⟩

/-! ## One run -/

/-- A completion that finds the run of its worker running. -/
structure Completes (before next : Collection) (worker : ℕ) (held : Worker)
    (result : CollectionResult) (now : ℤ) (run : AcquisitionRunModel) (state : SourceStateModel)
    (due : Option ℤ) : Prop extends
    Reports before.store run state (completedRun result now run)
      (completedState result now due state) next.store where
  holds : before.workers[worker]? = some held
  ofRun : held.context.runId = run.runId
  planned : dueAfterCompletion (before.store.sources.get? run.sourceId) result now
    state.nextDueAt = .ok due

/-- A failure that finds the run of its worker running. -/
structure Fails (before next : Collection) (worker : ℕ) (held : Worker) (exc : SourceException)
    (now : ℤ) (run : AcquisitionRunModel) (state : SourceStateModel) : Prop extends
    Reports before.store run state (failedRun (held.failure exc) now run)
      (failedState (now + span (held.failure exc).backoffSeconds) state) next.store where
  holds : before.workers[worker]? = some held
  ofRun : held.context.runId = run.runId

/-- **What a transaction does to a run.** -/
inductive RunStep (before next : Collection) :
    CollectionOp → Option AcquisitionRunModel → Option AcquisitionRunModel → Prop
  | kept {op : CollectionOp} {row : Option AcquisitionRunModel} : RunStep before next op row row
  | scheduled {now : ℤ} {limit : ℕ} {sourceIds : Option (List String)} {draw : String → Draw}
      {row : SourceModel × SourceStateModel} (selected : Selected before.store now sourceIds row) :
      RunStep before next (.schedule now limit sourceIds draw) none
        (some (scheduledRun (draw row.1.sourceId).runId now row.2))
  | started {now : ℤ} {run : AcquisitionRunModel} {context : AcquisitionContext}
      (starts : Starts before.store run now context next.store) :
      RunStep before next (.start run.runId now) (some run) (some (startedRun now run))
  | refused {now : ℤ} {run : AcquisitionRunModel}
      (refuses : Refuses before.store run now next.store) :
      RunStep before next (.start run.runId now) (some run) (some (refusedRun now run))
  | completed {worker : ℕ} {held : Worker} {result : CollectionResult} {now : ℤ}
      {run : AcquisitionRunModel} {state : SourceStateModel} {due : Option ℤ}
      (completes : Completes before next worker held result now run state due) :
      RunStep before next (.complete worker result now) (some run)
        (some (completedRun result now run))
  | failed {worker : ℕ} {held : Worker} {exc : SourceException} {now : ℤ}
      {run : AcquisitionRunModel} {state : SourceStateModel}
      (fails : Fails before next worker held exc now run state) :
      RunStep before next (.fail worker exc now) (some run)
        (some (failedRun (held.failure exc) now run))
  | requeued {now timeoutSeconds : ℤ} {limit : ℕ} {runIds : Option (List String)}
      {draw : String → String} {run : AcquisitionRunModel}
      (member : run ∈ staleRuns before.store (now + span (-timeoutSeconds)) limit runIds) :
      RunStep before next (.recover now timeoutSeconds limit runIds draw) (some run)
        (some (requeuedRun run))

/-! ## One source state -/

/-- **What a transaction does to the state of a source.** -/
inductive StateStep (before next : Collection) :
    CollectionOp → Option SourceStateModel → Option SourceStateModel → Prop
  | kept {op : CollectionOp} {row : Option SourceStateModel} : StateStep before next op row row
  | planned {now : ℤ} {limit : ℕ} {sourceIds : Option (List String)} {draw : String → Draw}
      {row : SourceModel × SourceStateModel} (selected : Selected before.store now sourceIds row)
      {seconds : ℤ} (positive : 0 < seconds) :
      StateStep before next (.schedule now limit sourceIds draw) (some row.2)
        (some (plannedState (some (now + span seconds)) row.2))
  | attempted {runId : String} {now : ℤ} {state : SourceStateModel} :
      StateStep before next (.start runId now) (some state) (some (attemptedState now state))
  | completed {worker : ℕ} {held : Worker} {result : CollectionResult} {now : ℤ}
      {run : AcquisitionRunModel} {state : SourceStateModel} {due : Option ℤ}
      (completes : Completes before next worker held result now run state due) :
      StateStep before next (.complete worker result now) (some state)
        (some (completedState result now due state))
  | failed {worker : ℕ} {held : Worker} {exc : SourceException} {now : ℤ}
      {run : AcquisitionRunModel} {state : SourceStateModel}
      (fails : Fails before next worker held exc now run state) :
      StateStep before next (.fail worker exc now) (some state)
        (some (failedState (now + span (held.failure exc).backoffSeconds) state))

/-- The workers after a transaction: a start may add one, which holds the run it has
started. -/
def WorkerStep (before next : Collection) (op : CollectionOp) : Prop :=
  next.workers = before.workers ∨ ∃ run context now, op = .start run.runId now ∧
    Starts before.store run now context next.store ∧
    next.workers = before.workers ++ [⟨context, run.attempt + 1⟩]

/-- A transaction of collection, seen from each table. -/
structure Step (before next : Collection) (op : CollectionOp) : Prop where
  sources : next.store.sources = before.store.sources
  runs : ∀ runId, RunStep before next op (before.store.runs.get? runId) (next.store.runs.get? runId)
  states : ∀ sourceId, StateStep before next op (before.store.states.get? sourceId)
    (next.store.states.get? sourceId)
  workers : WorkerStep before next op

theorem Step.of_kept (sources : next.store.sources = before.store.sources)
    (runs : next.store.runs = before.store.runs) (states : next.store.states = before.store.states)
    (workers : next.workers = before.workers) : Step before next op := by
  refine ⟨sources, fun runId => ?_, fun sourceId => ?_, .inl workers⟩
  · rw [runs]
    exact .kept
  · rw [states]
    exact .kept

theorem step_schedule {draw : String → Draw}
    (queues : QueuesAll now draw (dueSources before.store now limit sourceIds) before.store store) :
    Step before { before with store } (.schedule now limit sourceIds draw) := by
  refine ⟨queues.sources, fun runId => ?_, fun sourceId => ?_, .inl rfl⟩
  · rcases queues.runs runId with same | ⟨absent, row, member, rfl, made⟩
    · rw [show ({ before with store } : Collection).store.runs.get? runId =
        before.store.runs.get? runId from same]
      exact .kept
    · rw [absent, show ({ before with store } : Collection).store.runs.get? _ = _ from made]
      exact .scheduled (selected_of_mem member)
  · rcases queues.states sourceId with same | ⟨row, member, rfl, seconds, positive, put⟩
    · rw [show ({ before with store } : Collection).store.states.get? sourceId =
        before.store.states.get? sourceId from same]
      exact .kept
    · have selected := selected_of_mem member
      rw [selected.state] at put
      rw [selected.state, show ({ before with store } : Collection).store.states.get? _ = _ from put]
      exact .planned selected positive

theorem step_recover {timeoutSeconds : ℤ} {runIds : Option (List String)} {draw : String → String}
    (requeues : RequeuesAll (staleRuns before.store (now + span (-timeoutSeconds)) limit runIds)
      before.store store) :
    Step before { before with store } (.recover now timeoutSeconds limit runIds draw) := by
  refine ⟨requeues.sources, fun runId => ?_, fun sourceId => ?_, .inl rfl⟩
  · rcases requeues.runs runId with same | ⟨run, member, rfl, put⟩
    · rw [show ({ before with store } : Collection).store.runs.get? runId =
        before.store.runs.get? runId from same]
      exact .kept
    · have found := get?_of_mem (stale_of_mem member).1
      rw [found] at put
      rw [found, show ({ before with store } : Collection).store.runs.get? _ = _ from put]
      exact .requeued member
  · rw [show ({ before with store } : Collection).store.states = before.store.states from
      requeues.states]
    exact .kept

/-- A row after one row of its table was rewritten. -/
theorem rewritten_or_kept {κ ρ : Type} [DecidableEq κ] {table next : κ → Option ρ} {key : κ}
    {old new : ρ} (found : table key = some old)
    (rewritten : ∀ k, next k = if key = k then some new else table k) (k : κ) :
    (table k = some old ∧ next k = some new) ∨ next k = table k := by
  rw [rewritten]
  by_cases same : key = k
  · subst same
    exact .inl ⟨found, if_pos rfl⟩
  · exact .inr (if_neg same)

theorem step_start (ok : startAcquisitionRun before.store runId now = .ok (answer, store)) :
    Step before { store, workers := before.workers ++ answer.toList.map (newWorker store) }
      (.start runId now) := by
  rcases startAcquisitionRun_ok ok with ⟨rfl, rfl⟩ | ⟨run, rfl, rfl, refuses⟩ |
    ⟨run, context, rfl, rfl, starts⟩
  · exact Step.of_kept rfl rfl rfl (append_nil _)
  · refine ⟨refuses.sources, fun id => ?_, fun id => ?_, .inl (append_nil _)⟩
    · rcases rewritten_or_kept refuses.found refuses.runs id with ⟨old, new⟩ | same
      · rw [old, show store.runs.get? id = _ from new]
        exact .refused refuses
      · rw [show store.runs.get? id = _ from same]
        exact .kept
    · rw [show store.states = _ from refuses.states]
      exact .kept
  · refine ⟨starts.sources, fun id => ?_, fun id => ?_, .inr ⟨run, context, now, rfl, starts, ?_⟩⟩
    · rcases rewritten_or_kept starts.found starts.runs id with ⟨old, new⟩ | same
      · rw [old, show store.runs.get? id = _ from new]
        exact .started starts
      · rw [show store.runs.get? id = _ from same]
        exact .kept
    · rw [show store.states.get? id = _ from starts.states id]
      split
      · cases before.store.states.get? id with
        | none => exact .kept
        | some state => exact .attempted
      · exact .kept
    · have counted : newWorker store context = ⟨context, run.attempt + 1⟩ := by
        unfold newWorker
        rw [starts.runId, starts.runs, if_pos rfl]
        rfl
      rw [Option.toList_some, map_cons, map_nil, counted]

theorem step_complete (holds : before.workers[worker]? = some held)
    (ok : completeCollectionRun before.store held.context.runId result now = .ok store) :
    Step before { before with store } (.complete worker result now) := by
  rcases completeCollectionRun_ok ok with ⟨run, -, -, rfl⟩ |
    ⟨run, state, due, ofRun, planned, reports⟩
  · exact Step.of_kept rfl rfl rfl rfl
  have completes : Completes before { before with store } worker held result now run state due :=
    ⟨reports, holds, ofRun.symm, planned⟩
  refine ⟨reports.sources, fun id => ?_, fun id => ?_, .inl rfl⟩
  · rcases rewritten_or_kept reports.found reports.runs id with ⟨old, new⟩ | same
    · rw [old, show store.runs.get? id = _ from new]
      exact .completed completes
    · rw [show store.runs.get? id = _ from same]
      exact .kept
  · rcases rewritten_or_kept reports.stateFound reports.states id with ⟨old, new⟩ | same
    · rw [old, show store.states.get? id = _ from new]
      exact .completed completes
    · rw [show store.states.get? id = _ from same]
      exact .kept

theorem step_fail {exc : SourceException} (holds : before.workers[worker]? = some held)
    (ok : failAcquisitionRun before.store held.context.runId (held.failure exc) now =
      .ok store) : Step before { before with store } (.fail worker exc now) := by
  rcases failAcquisitionRun_ok ok with ⟨run, -, -, rfl⟩ | ⟨run, state, ofRun, reports⟩
  · exact Step.of_kept rfl rfl rfl rfl
  have fails : Fails before { before with store } worker held exc now run state :=
    ⟨reports, holds, ofRun.symm⟩
  refine ⟨reports.sources, fun id => ?_, fun id => ?_, .inl rfl⟩
  · rcases rewritten_or_kept reports.found reports.runs id with ⟨old, new⟩ | same
    · rw [old, show store.runs.get? id = _ from new]
      exact .failed fails
    · rw [show store.runs.get? id = _ from same]
      exact .kept
  · rcases rewritten_or_kept reports.stateFound reports.states id with ⟨old, new⟩ | same
    · rw [old, show store.states.get? id = _ from new]
      exact .failed fails
    · rw [show store.states.get? id = _ from same]
      exact .kept

/-- **Every transaction that answers is a step.** -/
theorem step_of_ok {answer : Unit} (ok : collection op before = .ok (answer, next)) :
    Step before next op := by
  cases op with
  | schedule now limit sourceIds draw =>
      obtain ⟨⟨runIds, store⟩, called, ok⟩ := bind_eq_ok.1 ok
      cases ok
      obtain ⟨_, queued, called⟩ := bind_eq_ok.1 called
      cases called
      exact step_schedule (queueAll_ok queued)
  | start runId now =>
      obtain ⟨⟨context, store⟩, called, ok⟩ := bind_eq_ok.1 ok
      cases ok
      exact step_start called
  | complete worker result now =>
      obtain ⟨held, holds, ok⟩ := fetch_bind_eq_ok.1 ok
      obtain ⟨store, called, ok⟩ := bind_eq_ok.1 ok
      cases ok
      exact step_complete holds called
  | fail worker exc now =>
      obtain ⟨held, holds, ok⟩ := fetch_bind_eq_ok.1 ok
      obtain ⟨store, called, ok⟩ := bind_eq_ok.1 ok
      cases ok
      exact step_fail holds called
  | recover now timeoutSeconds limit runIds draw =>
      obtain ⟨⟨recovered, store⟩, called, ok⟩ := bind_eq_ok.1 ok
      cases ok
      obtain ⟨threshold, moved, called⟩ := bind_eq_ok.1 called
      obtain rfl := plusSeconds_ok moved
      obtain ⟨_, requeued, called⟩ := bind_eq_ok.1 called
      cases called
      exact step_recover (requeueAll_ok requeued)
  | dispatch now limit eventIds publisher =>
      cases ok
      exact Step.of_kept rfl rfl rfl rfl

/-! ## Active runs -/

/-- The rows of a run before and after a step. -/
structure SameOrigin (old new : AcquisitionRunModel) : Prop where
  runId : new.runId = old.runId
  sourceId : new.sourceId = old.sourceId
  cursorIn : new.cursorIn = old.cursorIn

/-- A run stays, with its source and the cursor it was created with. -/
theorem RunStep.origin {old : AcquisitionRunModel} (step : RunStep before next op (some old) row) :
    ∃ new, row = some new ∧ SameOrigin old new := by
  cases step with
  | kept | started | refused | completed | failed | requeued => exact ⟨_, rfl, rfl, rfl, rfl⟩

theorem refusedRun_closed (now : ℤ) (run : AcquisitionRunModel) : (refusedRun now run).Closed :=
  show AcquisitionStatus.internalError ∈ terminalStatuses by decide

theorem completedRun_closed (result : CollectionResult) (now : ℤ) (run : AcquisitionRunModel) :
    (completedRun result now run).Closed := by
  show (if result.acceptedCount = 0 then AcquisitionStatus.noChange else .success) ∈
    terminalStatuses
  split <;> decide

theorem failedRun_closed (failure : AcquisitionFailure) (now : ℤ) (run : AcquisitionRunModel) :
    (failedRun failure now run).Closed := failure.closes

/-- An active run was active before, or the scheduler has just queued it. -/
theorem RunStep.active {new : AcquisitionRunModel} (step : RunStep before next op row (some new))
    (active : new.Active) :
    (∃ old, row = some old ∧ old.Active ∧ SameOrigin old new) ∨
      ∃ now limit sourceIds draw selected, op = .schedule now limit sourceIds draw ∧ row = none ∧
        Selected before.store now sourceIds selected ∧
        new = scheduledRun (draw selected.1.sourceId).runId now selected.2 := by
  cases step with
  | kept => exact .inl ⟨new, rfl, active, rfl, rfl, rfl⟩
  | scheduled selected => exact .inr ⟨_, _, _, _, _, rfl, rfl, selected, rfl⟩
  | started starts =>
      exact .inl ⟨_, rfl, AcquisitionRunModel.active_of_queued starts.queued, rfl, rfl, rfl⟩
  | requeued member => exact .inl ⟨_, rfl, (stale_of_mem member).2.active, rfl, rfl, rfl⟩
  | refused => exact absurd (refusedRun_closed _ _) active.not_closed
  | completed => exact absurd (completedRun_closed _ _ _) active.not_closed
  | failed => exact absurd (failedRun_closed _ _ _) active.not_closed

/-- Among the counted runs, each source has at most one that is queued or running. -/
def SingleActive (store : MonitoringStore) (counted : String → Prop) : Prop :=
  ∀ left right leftRun rightRun, counted left → counted right →
    store.runs.get? left = some leftRun → store.runs.get? right = some rightRun →
    leftRun.Active → rightRun.Active → leftRun.sourceId = rightRun.sourceId → left = right

/-- The scheduler queues no second run: it looks for active runs of any kind. -/
theorem Selected.no_active {row : SourceModel × SourceStateModel}
    (selected : Selected store now sourceIds row) (found : store.runs.get? runId = some run)
    (active : run.Active) : run.sourceId ≠ row.1.sourceId := fun same =>
  selected.due.2.2.2.1 ⟨run, mem_of_get? found, same, active⟩

theorem SingleActive.step {counted : String → Prop} (single : SingleActive before.store counted)
    (step : Step before next op) :
    SingleActive next.store counted := by
  intro left right leftRun rightRun leftCounted rightCounted leftFound rightFound leftActive
    rightActive sameSource
  have leftStep := step.runs left
  have rightStep := step.runs right
  rw [leftFound] at leftStep
  rw [rightFound] at rightStep
  rcases leftStep.active leftActive with ⟨leftOld, leftWas, leftOldActive, leftOrigin⟩ |
    ⟨now, limit, sourceIds, draw, row, rfl, -, selected, rfl⟩
  · rcases rightStep.active rightActive with ⟨rightOld, rightWas, rightOldActive, rightOrigin⟩ |
      ⟨now, limit, sourceIds, draw, row, rfl, -, selected, rfl⟩
    · refine single left right _ _ leftCounted rightCounted leftWas rightWas leftOldActive
        rightOldActive ?_
      rw [← leftOrigin.sourceId, ← rightOrigin.sourceId, sameSource]
    · refine absurd ?_ (selected.no_active leftWas leftOldActive)
      rw [← leftOrigin.sourceId, sameSource]
      exact selected.sameSource
  · rcases rightStep.active rightActive with ⟨rightOld, rightWas, rightOldActive, rightOrigin⟩ |
      ⟨now', limit', sourceIds', draw', row', same, -, selected', rfl⟩
    · refine absurd ?_ (selected.no_active rightWas rightOldActive)
      rw [← rightOrigin.sourceId, ← sameSource]
      exact selected.sameSource
    · cases same
      have ofSource : row.1.sourceId = row'.1.sourceId := by
        rw [← selected.sameSource, ← selected'.sameSource]
        exact sameSource
      have leftNamed := key_of_get? leftFound
      have rightNamed := key_of_get? rightFound
      rw [← leftNamed, ← rightNamed, selected.eq selected' ofSource]

/-- The cursor of a source changes with the completion of one of its runs only. -/
theorem StateStep.cursor {old : SourceStateModel} {row : Option SourceStateModel}
    (step : StateStep before next op (some old) row) :
    ∃ new, row = some new ∧ (new.cursor = old.cursor ∨ ∃ worker held result now run due,
      op = .complete worker result now ∧ Completes before next worker held result now run old due ∧
      new = completedState result now due old) := by
  cases step with
  | kept | planned | attempted | failed => exact ⟨_, rfl, .inl rfl⟩
  | completed completes => exact ⟨_, rfl, .inr ⟨_, _, _, _, _, _, rfl, completes, rfl⟩⟩

end SecFusion.Monitoring
