import SecFusion.Monitoring.System

/-!
# Source cursors

A run carries the cursor that its source had when the run was queued, and hands it to
its worker; a completion writes the worker's next cursor over whatever the source has
by then.  That this is the cursor the run was queued with rests on two facts: a source
has one collection under way at a time, and the runs of queries, which carry an empty
cursor, are never collections.

Recovery does not look at what a run was created for.  The cursors are sound in every
run of the system in which it requeues no run of a query, and a query that crashes is
enough to lose them.
-/

namespace SecFusion.Monitoring

open Foundations Sources AcquisitionRunModel

/-! ## The invariant -/

/-- Recovery requeues no run that a query has created. -/
def RecoversCollections (before : MonitoringSystem) : MonitoringOp → Prop
  | .collect (.recover now timeoutSeconds limit runIds _) =>
      ∀ run ∈ staleRuns before.base.store (now + span (-timeoutSeconds)) limit runIds,
        run.runId ∉ before.queries
  | .collect (.schedule ..) | .collect (.start ..) | .collect (.complete ..)
  | .collect (.fail ..) | .collect (.dispatch ..) | .beginQuery .. | .answerQuery ..
  | .failQuery .. | .synchronize .. => True

instance (before : MonitoringSystem) (op : MonitoringOp) :
    Decidable (RecoversCollections before op) :=
  match op with
  | .collect (.recover now timeoutSeconds limit runIds _) =>
      inferInstanceAs (Decidable (∀ run ∈ staleRuns before.base.store
        (now + span (-timeoutSeconds)) limit runIds, run.runId ∉ before.queries))
  | .collect (.schedule ..) | .collect (.start ..) | .collect (.complete ..)
  | .collect (.fail ..) | .collect (.dispatch ..) | .beginQuery .. | .answerQuery ..
  | .failQuery .. | .synchronize .. => inferInstanceAs (Decidable True)

/-- Queries and collections keep apart, and a collection under way has the cursor of its
source. -/
structure CursorsHeld (sys : MonitoringSystem) : Prop where
  queries : ∀ runId ∈ sys.queries, ∃ run, sys.base.store.runs.get? runId = some run ∧
    run.status ≠ .queued
  workers : ∀ held ∈ sys.base.workers, held.context.runId ∉ sys.queries ∧
    ∃ run, sys.base.store.runs.get? held.context.runId = some run ∧
      held.context.state.cursor = run.cursorIn
  current : ∀ runId ∉ sys.queries, ∀ run, sys.base.store.runs.get? runId = some run → run.Active →
    ∃ state, sys.base.store.states.get? run.sourceId = some state ∧ state.cursor = run.cursorIn
  single : SingleActive sys.base.store (· ∉ sys.queries)

theorem cursorsHeld_empty : CursorsHeld .empty where
  queries := forall_mem_nil _
  workers := forall_mem_nil _
  current _ _ _ found := nomatch found
  single _ _ _ _ _ _ found := nomatch found

variable {before next : MonitoringSystem}

variable {base : Collection} {state : SourceStateModel} {op : CollectionOp}
  {store : MonitoringStore} {answer : Unit} {sourceId : String} {ops : List MonitoringOp}

/-- The run that a worker completes is a collection, and started from the cursor that its
source has. -/
theorem CursorsHeld.completes (held : CursorsHeld before) {worker : ℕ} {holder : Worker}
    {result : CollectionResult} {now : ℤ} {run : AcquisitionRunModel} {due : Option ℤ}
    (completes : Completes before.base base worker holder result now run state due) :
    run.runId ∉ before.queries ∧ run.cursorIn = state.cursor ∧
      holder.context.state.cursor = state.cursor := by
  obtain ⟨collects, own, ownFound, given⟩ :=
    held.workers holder (mem_of_getElem? completes.holds)
  rw [completes.ofRun] at collects ownFound
  obtain rfl := mem_unique ownFound completes.found
  obtain ⟨there, found, cursor⟩ :=
    held.current _ collects _ completes.found (active_of_running completes.running)
  obtain rfl := mem_unique found completes.stateFound
  exact ⟨collects, cursor.symm, given.trans cursor.symm⟩

/-! ## Collection keeps it -/

/-- A collection that is under way and stays under way keeps up with its source. -/
theorem CursorsHeld.current_step (held : CursorsHeld before) (step : Step before.base base op)
    {runId : String} (collects : runId ∉ before.queries) {run : AcquisitionRunModel}
    (found : base.store.runs.get? runId = some run) (active : run.Active) :
    ∃ state, base.store.states.get? run.sourceId = some state ∧ state.cursor = run.cursorIn := by
  have moved := step.runs runId
  rw [found] at moved
  rcases moved.active active with ⟨old, was, oldActive, origin⟩ |
    ⟨now, limit, sourceIds, draw, row, rfl, -, selected, rfl⟩
  · obtain ⟨state, stateFound, cursor⟩ := held.current runId collects old was oldActive
    have stateStep := step.states old.sourceId
    rw [stateFound] at stateStep
    obtain ⟨new, newFound, same | ⟨worker, holder, result, now, other, due, rfl, completes,
        -⟩⟩ :=
      stateStep.cursor
    · rw [origin.sourceId, origin.cursorIn]
      exact ⟨new, newFound, same.trans cursor⟩
    · -- the source has one collection, so it is this one that is completed
      have collected := (held.completes completes).1
      have ofState := key_of_get? completes.stateFound
      have ofOld := key_of_get? stateFound
      have same := held.single runId _ old _ collects collected was completes.found oldActive
        (active_of_running completes.running) (ofOld.symm.trans ofState)
      have closed := (completes.runs runId).trans (if_pos same.symm)
      obtain rfl := mem_unique found closed
      exact absurd (completedRun_closed _ _ _) active.not_closed
  · have stateStep := step.states row.1.sourceId
    rw [selected.state] at stateStep
    obtain ⟨new, newFound, same | ⟨_, _, _, _, _, _, other, -⟩⟩ := stateStep.cursor
    · refine ⟨new, ?_, same⟩
      show base.store.states.get? row.2.sourceId = some new
      rw [selected.sameSource]
      exact newFound
    · cases other

theorem CursorsHeld.collect (held : CursorsHeld before)
    (collections : RecoversCollections before (.collect op)) (step : Step before.base base op) :
    CursorsHeld { before with base } := by
  constructor
  case queries =>
    intro runId member
    obtain ⟨run, found, unqueued⟩ := held.queries runId member
    have moved := step.runs runId
    rw [found] at moved
    have named := key_of_get? found
    show ∃ run, base.store.runs.get? runId = some run ∧ run.status ≠ .queued
    generalize base.store.runs.get? runId = row at moved
    cases moved with
    | kept => exact ⟨run, rfl, unqueued⟩
    | started starts => exact absurd starts.queued unqueued
    | refused refuses => exact absurd refuses.queued unqueued
    | completed =>
        exact ⟨_, rfl, fun queued =>
          (active_of_queued queued).not_closed (completedRun_closed _ _ _)⟩
    | failed =>
        exact ⟨_, rfl, fun queued =>
          (active_of_queued queued).not_closed (failedRun_closed _ _ _)⟩
    | requeued stale => exact absurd (named ▸ member) (collections run stale)
  case workers =>
    have kept : ∀ holder ∈ before.base.workers, holder.context.runId ∉ before.queries ∧
        ∃ run, base.store.runs.get? holder.context.runId = some run ∧
          holder.context.state.cursor = run.cursorIn := by
      intro holder member
      obtain ⟨collects, run, found, given⟩ := held.workers holder member
      have moved := step.runs holder.context.runId
      rw [found] at moved
      obtain ⟨new, newFound, origin⟩ := moved.origin
      exact ⟨collects, new, newFound, given.trans origin.cursorIn.symm⟩
    rcases step.workers with same | ⟨run, context, now, rfl, starts, added⟩
    · intro holder member
      exact kept holder (same ▸ member)
    · intro holder member
      rcases mem_append.1 (added ▸ member) with earlier | single
      · exact kept holder earlier
      · obtain rfl := mem_singleton.1 single
        dsimp only
        rw [starts.runId]
        refine ⟨fun query => ?_, _, (starts.runs _).trans (if_pos rfl), starts.cursor⟩
        obtain ⟨other, found, unqueued⟩ := held.queries _ query
        obtain rfl := mem_unique found starts.found
        exact unqueued starts.queued
  case current =>
    intro runId collects run found active
    exact held.current_step step collects found active
  case single => exact held.single.step step

/-! ## Queries and synchronisation keep it -/

/-- A transaction that leaves the source states, the workers and the runs of collections. -/
theorem CursorsHeld.of_query (held : CursorsHeld before)
    (states : next.base.store.states = before.base.store.states)
    (workers : next.base.workers = before.base.workers)
    (outside : ∀ runId ∉ next.queries,
      runId ∉ before.queries ∧
        next.base.store.runs.get? runId = before.base.store.runs.get? runId)
    (fresh : ∀ runId ∈ next.queries, runId ∈ before.queries ∨
      before.base.store.runs.get? runId = none)
    (queries : ∀ runId ∈ next.queries, ∃ run, next.base.store.runs.get? runId = some run ∧
      run.status ≠ .queued) : CursorsHeld next := by
  refine ⟨queries, ?_, ?_, ?_⟩
  · rw [workers]
    intro holder member
    obtain ⟨collects, run, found, given⟩ := held.workers holder member
    have apart : holder.context.runId ∉ next.queries := by
      intro query
      rcases fresh _ query with was | absent
      · exact collects was
      · rw [absent] at found
        cases found
    exact ⟨apart, run, (outside _ apart).2.trans found, given⟩
  · intro runId collects run found active
    obtain ⟨was, same⟩ := outside runId collects
    rw [states]
    exact held.current runId was run (same ▸ found) active
  · intro left right leftRun rightRun leftCollects rightCollects leftFound rightFound
    obtain ⟨leftWas, leftSame⟩ := outside left leftCollects
    obtain ⟨rightWas, rightSame⟩ := outside right rightCollects
    exact held.single left right leftRun rightRun leftWas rightWas (leftSame ▸ leftFound)
      (rightSame ▸ rightFound)

theorem CursorsHeld.begins (held : CursorsHeld before) {run : AcquisitionRunModel}
    (running : run.status = .running) (begins : Begins before.base.store run store) :
    CursorsHeld { before.withStore store with queries := before.queries ++ [run.runId] } := by
  refine held.of_query begins.states rfl (fun runId absent => ?_) (fun runId member => ?_) ?_
  · rw [mem_append, not_or, mem_singleton] at absent
    exact ⟨absent.1, (begins.runs runId).trans (if_neg fun same => absent.2 same.symm)⟩
  · rcases mem_append.1 member with was | single
    · exact .inl was
    · obtain rfl := mem_singleton.1 single
      exact .inr begins.fresh
  · intro runId member
    by_cases same : run.runId = runId
    · refine ⟨run, (begins.runs runId).trans (if_pos same), ?_⟩
      rw [running]
      decide
    · have was := (mem_append.1 member).resolve_right fun single =>
        same (mem_singleton.1 single).symm
      obtain ⟨old, found, unqueued⟩ := held.queries runId was
      exact ⟨old, ((begins.runs runId).trans (if_neg same)).trans found, unqueued⟩

theorem CursorsHeld.closes (held : CursorsHeld before) {run run' : AcquisitionRunModel}
    (member : run.runId ∈ before.queries) (unqueued : run'.status ≠ .queued)
    (closes : Closes before.base.store run run' store) :
    CursorsHeld (before.withStore store) := by
  refine held.of_query closes.states rfl (fun runId absent => ⟨absent, ?_⟩) (fun _ was => .inl was)
    fun runId query => ?_
  · refine (closes.runs runId).trans (if_neg fun same => ?_)
    exact absent (same ▸ member)
  · by_cases same : run.runId = runId
    · exact ⟨run', (closes.runs runId).trans (if_pos same), unqueued⟩
    · obtain ⟨old, found, oldUnqueued⟩ := held.queries runId query
      exact ⟨old, ((closes.runs runId).trans (if_neg same)).trans found, oldUnqueued⟩

theorem CursorsHeld.synchronizes (held : CursorsHeld before)
    (syncs : Synchronizes before.base.store store) : CursorsHeld (before.withStore store) := by
  have runs : (before.withStore store).base.store.runs = before.base.store.runs := syncs.runs
  refine ⟨?_, ?_, ?_, ?_⟩
  · rw [runs]
    exact held.queries
  · rw [runs]
    exact held.workers
  · rw [runs]
    intro runId collects run found active
    obtain ⟨state, stateFound, cursor⟩ := held.current runId collects run found active
    obtain ⟨due, planned⟩ := syncs.states _ state stateFound
    exact ⟨plannedState due state, planned, cursor⟩
  · unfold SingleActive
    rw [runs]
    exact held.single

theorem cursorsHeld_of_ok {op : MonitoringOp} (held : CursorsHeld before)
    (collections : RecoversCollections before op)
    (ok : monitoring op before = .ok (answer, next)) : CursorsHeld next := by
  cases op with
  | collect op =>
      obtain ⟨⟨_, base⟩, called, ok⟩ := bind_eq_ok.1 ok
      cases ok
      exact held.collect collections (step_of_ok called)
  | beginQuery runId sourceId trigger parentRunId spec now =>
      obtain ⟨store, called, ok⟩ := bind_eq_ok.1 ok
      cases ok
      exact held.begins rfl (beginQuery_ok called)
  | answerQuery runId results now =>
      obtain ⟨member, ok⟩ := require_bind_eq_ok.1 ok
      obtain ⟨store, called, ok⟩ := bind_eq_ok.1 ok
      cases ok
      obtain ⟨run, rfl, closes⟩ := answerQuery_ok called
      refine held.closes member ?_ closes
      unfold answeredQueryRun
      dsimp only
      split <;> decide
  | failQuery runId errorName errorText now =>
      obtain ⟨member, ok⟩ := require_bind_eq_ok.1 ok
      obtain ⟨store, called, ok⟩ := bind_eq_ok.1 ok
      cases ok
      obtain ⟨run, rfl, closes⟩ := failQuery_ok called
      exact held.closes member (show AcquisitionStatus.failed ≠ .queued by decide) closes
  | synchronize definitions now =>
      obtain ⟨⟨sourceIds, store⟩, called, ok⟩ := bind_eq_ok.1 ok
      cases ok
      exact held.synchronizes (synchronizeMonitoringSources_ok called)

/-! ## Runs of the system -/

/-- The next cursors of completions come after the cursors that the workers were given. -/
def Advances (order : JsonObject → JsonObject → Prop) (before : MonitoringSystem)
    (op : MonitoringOp) : Prop :=
  ∀ worker result now, op = .collect (.complete worker result now) →
    ∀ held ∈ before.base.workers[worker]?, order held.context.state.cursor result.nextCursor

/-- **Source cursor integrity**, of every run of the system. -/
structure CursorIntegrity (ops : List MonitoringOp) : Prop where
  /-- A cursor is replaced by the completion of a run that started from it. -/
  replaced : ∀ early op late sourceId state state', ops = early ++ op :: late →
    (run monitoring .empty early).base.store.states.get? sourceId = some state →
    (run monitoring .empty (early ++ [op])).base.store.states.get? sourceId = some state' →
    state'.cursor ≠ state.cursor → ∃ worker held result now row,
      op = .collect (.complete worker result now) ∧
        (run monitoring .empty early).base.workers[worker]? = some held ∧
        (run monitoring .empty early).base.store.runs.get? held.context.runId = some row ∧
        row.sourceId = sourceId ∧ row.cursorIn = state.cursor ∧ state'.cursor = result.nextCursor
  /-- No worker is given the run of a query. -/
  executed : ∀ held ∈ (run monitoring .empty ops).base.workers,
    held.context.runId ∉ (run monitoring .empty ops).queries
  /-- A cursor never moves back, in any order in which the collectors move forward. -/
  forward : ∀ order : JsonObject → JsonObject → Prop, (∀ cursor, order cursor cursor) →
    (∀ first second third, order first second → order second third → order first third) →
    Along monitoring (Advances order) .empty ops →
    ∀ early late sourceId state state', ops = early ++ late →
      (run monitoring .empty early).base.store.states.get? sourceId = some state →
      (run monitoring .empty ops).base.store.states.get? sourceId = some state' →
      order state.cursor state'.cursor

/-- The cursor of a source after one transaction. -/
theorem cursor_of_ok {op : MonitoringOp} (ok : monitoring op before = .ok (answer, next))
    (found : before.base.store.states.get? sourceId = some state) :
    ∃ state', next.base.store.states.get? sourceId = some state' ∧
      (state'.cursor = state.cursor ∨ ∃ worker held result now run due,
        op = .collect (.complete worker result now) ∧
        Completes before.base next.base worker held result now run state due ∧
        state'.cursor = result.nextCursor) := by
  cases op with
  | collect op =>
      obtain ⟨⟨_, base⟩, called, ok⟩ := bind_eq_ok.1 ok
      cases ok
      have step := (step_of_ok called).states sourceId
      rw [found] at step
      obtain ⟨new, newFound, same | ⟨_, _, _, _, _, _, rfl, completes, rfl⟩⟩ := step.cursor
      · exact ⟨new, newFound, .inl same⟩
      · exact ⟨_, newFound, .inr ⟨_, _, _, _, _, _, rfl, completes, rfl⟩⟩
  | beginQuery runId sourceId trigger parentRunId spec now =>
      obtain ⟨store, called, ok⟩ := bind_eq_ok.1 ok
      cases ok
      have states := (beginQuery_ok called).states
      exact ⟨state, by rwa [show (MonitoringSystem.withStore before store).base.store.states = _
        from states], .inl rfl⟩
  | answerQuery runId results now =>
      obtain ⟨-, ok⟩ := require_bind_eq_ok.1 ok
      obtain ⟨store, called, ok⟩ := bind_eq_ok.1 ok
      cases ok
      obtain ⟨run, -, closes⟩ := answerQuery_ok called
      exact ⟨state, by rwa [show (MonitoringSystem.withStore before store).base.store.states = _
        from closes.states], .inl rfl⟩
  | failQuery runId errorName errorText now =>
      obtain ⟨-, ok⟩ := require_bind_eq_ok.1 ok
      obtain ⟨store, called, ok⟩ := bind_eq_ok.1 ok
      cases ok
      obtain ⟨run, -, closes⟩ := failQuery_ok called
      exact ⟨state, by rwa [show (MonitoringSystem.withStore before store).base.store.states = _
        from closes.states], .inl rfl⟩
  | synchronize definitions now =>
      obtain ⟨⟨sourceIds, store⟩, called, ok⟩ := bind_eq_ok.1 ok
      cases ok
      obtain ⟨due, planned⟩ := (synchronizeMonitoringSources_ok called).states _ state found
      exact ⟨plannedState due state, planned, .inl rfl⟩

theorem cursorsHeld_run (collections : Along monitoring RecoversCollections .empty ops) :
    CursorsHeld (run monitoring .empty ops) :=
  run_invariant_along (fun _ _ _ _ held here ok => cursorsHeld_of_ok held here ok)
    cursorsHeld_empty ops collections

/-- The cursor after one transaction is the one before it, or the next cursor of a
completion that was given the one before. -/
theorem CursorsHeld.cursor_step (held : CursorsHeld before) (op : MonitoringOp)
    (found : before.base.store.states.get? sourceId = some state) :
    ∃ state', (transact monitoring before op).base.store.states.get? sourceId = some state' ∧
      (state'.cursor = state.cursor ∨ ∃ worker holder result now row,
        op = .collect (.complete worker result now) ∧
        before.base.workers[worker]? = some holder ∧
        holder.context.state.cursor = state.cursor ∧
        before.base.store.runs.get? holder.context.runId = some row ∧ row.sourceId = sourceId ∧
        row.cursorIn = state.cursor ∧ state'.cursor = result.nextCursor) := by
  cases outcome : monitoring op before with
  | error raised =>
      rw [transact_of_error outcome]
      exact ⟨state, found, .inl rfl⟩
  | ok answered =>
      obtain ⟨answer, after⟩ := answered
      rw [transact_of_ok outcome]
      obtain ⟨state', found', same | ⟨worker, holder, result, now, row, due, rfl, completes, moved⟩⟩ :=
        cursor_of_ok outcome found
      · exact ⟨state', found', .inl same⟩
      · obtain ⟨-, cursorIn, given⟩ := held.completes completes
        have ofState := key_of_get? completes.stateFound
        have ofSource := key_of_get? found
        have rowFound : before.base.store.runs.get? holder.context.runId = some row := by
          rw [completes.ofRun]
          exact completes.found
        exact ⟨state', found', .inr ⟨worker, holder, result, now, row, rfl, completes.holds, given,
          rowFound, ofState.symm.trans ofSource, cursorIn, moved⟩⟩

/-- Along a run the cursor of a source moves forward. -/
theorem CursorsHeld.forward {order : JsonObject → JsonObject → Prop}
    (refl : ∀ cursor, order cursor cursor)
    (trans : ∀ first second third, order first second → order second third → order first third)
    (held : CursorsHeld before) (collections : Along monitoring RecoversCollections before ops)
    (advances : Along monitoring (Advances order) before ops)
    (found : before.base.store.states.get? sourceId = some state) :
    ∃ state', (run monitoring before ops).base.store.states.get? sourceId = some state' ∧
      order state.cursor state'.cursor := by
  induction ops generalizing before state with
  | nil => exact ⟨state, found, refl _⟩
  | cons op rest ih =>
      have kept : CursorsHeld (transact monitoring before op) :=
        transact_induction held fun _ _ ok => cursorsHeld_of_ok held collections.1 ok
      obtain ⟨middle, middleFound, step⟩ := held.cursor_step op found
      obtain ⟨last, lastFound, later⟩ := ih kept collections.2 advances.2 middleFound
      refine ⟨last, lastFound, ?_⟩
      rcases step with same | ⟨worker, holder, result, now, row, rfl, holds, given, -, -, -, moved⟩
      · rwa [same] at later
      · rw [moved] at later
        have here := advances.1 worker result now rfl holder holds
        rw [given] at here
        exact trans _ _ _ here later

/-- **Cursors are sound in every run in which recovery requeues no run of a query.** -/
theorem cursorIntegrity_of_recoversCollections (ops : List MonitoringOp)
    (collections : Along monitoring RecoversCollections .empty ops) : CursorIntegrity ops := by
  constructor
  case replaced =>
    rintro early op late sourceId state state' rfl found found' changed
    have held := cursorsHeld_run collections.at_step.1
    rw [run_append] at found'
    obtain ⟨other, otherFound, same | ⟨worker, holder, result, now, row, rfl, holds, -, rowFound,
      ofSource, cursorIn, next⟩⟩ := held.cursor_step op found
    · obtain rfl := mem_unique otherFound found'
      exact absurd same changed
    · obtain rfl := mem_unique otherFound found'
      exact ⟨worker, holder, result, now, row, rfl, holds, rowFound, ofSource, cursorIn, next⟩
  case executed =>
    intro holder member
    exact ((cursorsHeld_run collections).workers holder member).1
  case forward =>
    rintro order refl trans advances early late sourceId state state' rfl found found'
    rw [run_append] at found'
    obtain ⟨last, lastFound, moved⟩ := (cursorsHeld_run collections.of_append.1).forward refl trans
      collections.of_append.2 advances.of_append.2 found
    obtain rfl := mem_unique lastFound found'
    exact moved

/-! ## A query that crashes -/

/-- The feed is registered, collected to its fifth page, and queried; the query does not
return, and its run is recovered and collected like any other. -/
def crashedQuery : List MonitoringOp :=
  [.synchronize [{ sourceId := "feed" }] 0,
    .collect (.schedule 0 100 none fun _ => ⟨"collection", "first"⟩),
    .collect (.start "collection" 1000000),
    .collect (.complete 0 { nextCursor := [("page", .int 5)], acceptedCount := 1, changed := true }
      2000000),
    .beginQuery "query" "feed" .onDemand none {} 3000000,
    .collect (.recover 904000000 900 100 none fun _ => "second"),
    .collect (.start "query" 905000000)]

theorem cursorIntegrity_of_recoversCollections_feed : CursorIntegrity (crashedQuery.take 5) :=
  cursorIntegrity_of_recoversCollections _ (by decide +kernel)

/-- The worker that was given the query's run, and with it no cursor, reports the first page. -/
def firstPageAgain : List MonitoringOp :=
  crashedQuery ++ [.collect (.complete 1
    { nextCursor := [("page", .int 1)], acceptedCount := 1, changed := true } 906000000)]

/-- The run of the query is executed as a collection, and moves the feed back. -/
theorem crashed_query_collected : ¬ CursorIntegrity firstPageAgain ∧
    (run monitoring .empty crashedQuery).base.store.states.rows.map (·.cursor) =
      [[("page", .int 5)]] ∧
    (run monitoring .empty firstPageAgain).base.store.states.rows.map (·.cursor) =
      [[("page", .int 1)]] := by
  refine ⟨fun integrity => ?_, by decide +kernel, by decide +kernel⟩
  exact absurd integrity.executed (by decide +kernel)

end SecFusion.Monitoring
