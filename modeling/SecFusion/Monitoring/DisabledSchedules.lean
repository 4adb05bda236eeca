import SecFusion.Monitoring.System

/-!
# Disabled schedules

That a source is not to be scheduled is written in its schedule policy and acted upon by
the synchronisation of the registry, which takes its due time away.  The scheduler only
looks at the due time.

A failure always leaves a due time, and a completion may, and neither looks at the
policy: a source stays unscheduled as long as no report on a run of it plans one.
-/

namespace SecFusion.Monitoring

open Foundations Sources

/-! ## Reports that plan nothing -/

/-- The completion of a run of this source leaves the due time alone: neither the rate
limits nor a pending backfill plan the next run. -/
def PlansNothing (source : SourceModel) (result : CollectionResult) (now : ℤ) : Prop :=
  adaptiveRateLimitDueAt source.rateLimitPolicy (result.rateLimitState.getD []) now = .ok none ∧
    (result.nextCursor.get? "backfill_pending" = some (.bool true) →
      backfillCatchupSeconds source.schedulePolicy = none)

instance (source : SourceModel) (result : CollectionResult) (now : ℤ) :
    Decidable (PlansNothing source result now) := inferInstanceAs (Decidable (_ ∧ (_ → _)))

variable {source : SourceModel} {now : ℤ} {store other : MonitoringStore}
  {sourceIds : Option (List String)} {base : Collection}

theorem PlansNothing.due {result : CollectionResult} (plansNothing : PlansNothing source result now)
    (current : Option ℤ) :
    dueAfterCompletion (some source) result now current = .ok current := by
  obtain ⟨adaptive, backfill⟩ := plansNothing
  unfold dueAfterCompletion
  dsimp only
  rw [adaptive, ok_bind]
  split
  · rfl
  next pending => rw [backfill (not_not.1 pending)]; rfl

/-- The source whose run the report of a worker would close. -/
def reportedSource (before : Collection) (worker : ℕ) : Option SourceModel := do
  let held ← before.workers[worker]?
  let run ← before.store.runs.get? held.context.runId
  if run.status = .running then before.store.sources.get? run.sourceId else none

/-- A report on a run of a source with a disabled schedule plans no next run. -/
def LeavesUnplanned (before : MonitoringSystem) : MonitoringOp → Prop
  | .collect (.complete worker result now) =>
      ∀ source ∈ reportedSource before.base worker,
        scheduleEnabled source.schedulePolicy = false → PlansNothing source result now
  | .collect (.fail worker _ _) =>
      ∀ source ∈ reportedSource before.base worker, scheduleEnabled source.schedulePolicy = true
  | .collect (.schedule ..) | .collect (.start ..) | .collect (.recover ..)
  | .collect (.dispatch ..) | .beginQuery .. | .answerQuery .. | .failQuery ..
  | .synchronize .. => True

instance (before : MonitoringSystem) (op : MonitoringOp) : Decidable (LeavesUnplanned before op) :=
  match op with
  | .collect (.complete worker result now) =>
      inferInstanceAs (Decidable (∀ source ∈ reportedSource before.base worker,
        scheduleEnabled source.schedulePolicy = false → PlansNothing source result now))
  | .collect (.fail worker _ _) =>
      inferInstanceAs (Decidable (∀ source ∈ reportedSource before.base worker,
        scheduleEnabled source.schedulePolicy = true))
  | .collect (.schedule ..) | .collect (.start ..) | .collect (.recover ..)
  | .collect (.dispatch ..) | .beginQuery .. | .answerQuery .. | .failQuery ..
  | .synchronize .. => inferInstanceAs (Decidable True)

theorem reportedSource_of_reports {before : Collection} {worker : ℕ} {held : Worker}
    {run run' : AcquisitionRunModel} {state state' : SourceStateModel} {next : MonitoringStore}
    (reports : Reports before.store run state run' state' next)
    (holds : before.workers[worker]? = some held) (ofRun : held.context.runId = run.runId) :
    reportedSource before worker = before.store.sources.get? run.sourceId := by
  unfold reportedSource
  rw [holds, Option.bind_eq_bind, Option.bind_some, ofRun, reports.found, Option.bind_eq_bind,
    Option.bind_some, if_pos reports.running]

/-! ## The invariant -/

/-- A source with a disabled schedule is not due. -/
def Undue (store : MonitoringStore) : Prop :=
  ∀ sourceId source state, store.sources.get? sourceId = some source →
    scheduleEnabled source.schedulePolicy = false → store.states.get? sourceId = some state →
    state.nextDueAt = none

variable {before next : MonitoringSystem}

theorem Undue.not_selected (undue : Undue store) {row : SourceModel × SourceStateModel}
    (selected : Selected store now sourceIds row) :
    scheduleEnabled row.1.schedulePolicy = true := by
  by_contra off
  have unplanned := undue _ row.1 row.2 selected.source (Bool.eq_false_of_not_eq_true off)
    selected.state
  have due := selected.due.2.1
  rw [unplanned] at due
  cases due

theorem Undue.collect (undue : Undue before.base.store) {op : CollectionOp}
    (unplanned : LeavesUnplanned before (.collect op)) (step : Step before.base base op) :
    Undue base.store := by
  intro sourceId source state sourceFound off stateFound
  rw [step.sources] at sourceFound
  have moved := step.states sourceId
  rw [stateFound] at moved
  generalize located : before.base.store.states.get? sourceId = row at moved
  cases moved with
  | kept => exact undue sourceId source state sourceFound off located
  | planned selected =>
      have ofSource := key_of_get? located
      have same := selected.sameSource.symm.trans ofSource
      have sourceSame := selected.source
      rw [same, sourceFound] at sourceSame
      obtain rfl := Option.some.inj sourceSame
      exact absurd (undue.not_selected selected) (by simp [off])
  | @attempted _ _ old => exact undue sourceId source old sourceFound off located
  | completed completes =>
      have ofSource := (key_of_get? completes.stateFound).symm.trans
        (key_of_get? located)
      have reported := reportedSource_of_reports completes.toReports completes.holds completes.ofRun
      rw [ofSource, sourceFound] at reported
      have nothing := unplanned source reported off
      have planned := completes.planned
      rw [ofSource, sourceFound, nothing.due] at planned
      have was := undue sourceId source _ sourceFound off located
      exact (Except.ok.inj planned).symm.trans was
  | failed fails =>
      have ofSource := (key_of_get? fails.stateFound).symm.trans
        (key_of_get? located)
      have reported := reportedSource_of_reports fails.toReports fails.holds fails.ofRun
      rw [ofSource, sourceFound] at reported
      have on := unplanned source reported
      rw [off] at on
      cases on

theorem Undue.of_eq (undue : Undue store) (sources : other.sources = store.sources)
    (states : other.states = store.states) :
    Undue other := by
  unfold Undue
  rw [sources, states]
  exact undue

theorem Undue.synchronizes (undue : Undue store) (syncs : Synchronizes store other) :
    Undue other := by
  intro sourceId source state sourceFound off stateFound
  rcases syncs.sources sourceId source sourceFound with configured | ⟨same, old, oldFound, policy⟩
  · exact configured off state stateFound
  · exact undue sourceId old state oldFound (policy ▸ off) (same ▸ stateFound)

theorem undue_of_ok {op : MonitoringOp} {answer : Unit} (undue : Undue before.base.store)
    (unplanned : LeavesUnplanned before op)
    (ok : monitoring op before = .ok (answer, next)) : Undue next.base.store := by
  cases op with
  | collect op =>
      obtain ⟨⟨_, base⟩, called, ok⟩ := bind_eq_ok.1 ok
      cases ok
      exact undue.collect unplanned (step_of_ok called)
  | beginQuery runId sourceId trigger parentRunId spec now =>
      obtain ⟨store, called, ok⟩ := bind_eq_ok.1 ok
      cases ok
      have begins := beginQuery_ok called
      exact undue.of_eq begins.sources begins.states
  | answerQuery runId results now =>
      obtain ⟨-, ok⟩ := require_bind_eq_ok.1 ok
      obtain ⟨store, called, ok⟩ := bind_eq_ok.1 ok
      cases ok
      obtain ⟨run, -, closes⟩ := answerQuery_ok called
      exact undue.of_eq closes.sources closes.states
  | failQuery runId errorName errorText now =>
      obtain ⟨-, ok⟩ := require_bind_eq_ok.1 ok
      obtain ⟨store, called, ok⟩ := bind_eq_ok.1 ok
      cases ok
      obtain ⟨run, -, closes⟩ := failQuery_ok called
      exact undue.of_eq closes.sources closes.states
  | synchronize definitions now =>
      obtain ⟨⟨sourceIds, store⟩, called, ok⟩ := bind_eq_ok.1 ok
      cases ok
      exact undue.synchronizes (synchronizeMonitoringSources_ok called)

/-! ## Runs of the system -/

/-- **Disabled schedules stay disabled**: in no state is a source with a disabled schedule
due, and no call of the scheduler queues a run of it. -/
structure SchedulesStayDisabled (ops : List MonitoringOp) : Prop where
  undue : Undue (run monitoring .empty ops).base.store
  unscheduled : ∀ early op late sourceId source, ops = early ++ .collect op :: late →
    (run monitoring .empty early).base.store.sources.get? sourceId = some source →
    scheduleEnabled source.schedulePolicy = false →
    ∀ now limit sourceIds draw, op = .schedule now limit sourceIds draw → ∀ runId row,
      (run monitoring .empty (early ++ [.collect op])).base.store.runs.get? runId = some row →
      row.sourceId = sourceId →
      (run monitoring .empty early).base.store.runs.get? runId = some row

theorem undue_run {ops : List MonitoringOp}
    (unplanned : Along monitoring LeavesUnplanned .empty ops) :
    Undue (run monitoring .empty ops).base.store := by
  refine @run_invariant_along _ _ _ _ _ _ (fun sys => Undue sys.base.store)
    (fun _ _ _ _ undue here ok => undue_of_ok undue here ok) _ ?_ ops unplanned
  intro _ _ _ found
  cases found

/-- The scheduler queues no run of a source with a disabled schedule that is not due. -/
theorem Undue.unscheduled (undue : Undue before.base.store) {limit : ℕ} {draw : String → Draw}
    (step : Step before.base base (.schedule now limit sourceIds draw)) {row : AcquisitionRunModel}
    (sourceFound : before.base.store.sources.get? row.sourceId = some source)
    (off : scheduleEnabled source.schedulePolicy = false) {runId : String}
    (found : base.store.runs.get? runId = some row) :
    before.base.store.runs.get? runId = some row := by
  have moved := step.runs runId
  rw [found] at moved
  generalize before.base.store.runs.get? runId = old at moved
  cases moved with
  | kept => rfl
  | scheduled selected =>
      have here : before.base.store.sources.get? _ = some source := sourceFound
      rw [show (scheduledRun _ now _).sourceId = _ from selected.sameSource, selected.source] at here
      obtain rfl := Option.some.inj here
      exact absurd (undue.not_selected selected) (by simp [off])

/-- **A source with a disabled schedule gets no scheduled run as long as the reports on its
runs plan none.** -/
theorem schedulesStayDisabled_of_leavesUnplanned (ops : List MonitoringOp)
    (unplanned : Along monitoring LeavesUnplanned .empty ops) : SchedulesStayDisabled ops := by
  refine ⟨undue_run unplanned, ?_⟩
  rintro early op late sourceId source rfl sourceFound off now limit sourceIds draw rfl runId row
    found rfl
  have undue := undue_run unplanned.at_step.1
  rw [run_append, run_cons, run_nil] at found
  generalize run monitoring .empty early = before at *
  cases outcome : monitoring (.collect (.schedule now limit sourceIds draw)) before with
  | error raised =>
      rw [transact_of_error outcome] at found
      exact found
  | ok answered =>
      obtain ⟨answer, after⟩ := answered
      rw [transact_of_ok outcome] at found
      obtain ⟨⟨_, base⟩, called, answered⟩ := bind_eq_ok.1 outcome
      cases answered
      exact undue.unscheduled (step_of_ok called) sourceFound off found

/-! ## A query that fails as a collection -/

/-- A source that is registered with its schedule disabled. -/
def onDemandOnly : RegisteredDefinition :=
  { sourceId := "feed", schedulePolicy := [("enabled", .bool false)] }

/-- It is queried, and the query crashes and is recovered as a collection. -/
def queriedOnDemand : List MonitoringOp :=
  [.synchronize [onDemandOnly] 0, .beginQuery "query" "feed" .onDemand none {} 1000000,
    .collect (.recover 902000000 900 100 none fun _ => "again"),
    .collect (.start "query" 903000000)]

theorem schedulesStayDisabled_of_leavesUnplanned_feed : SchedulesStayDisabled
    (queriedOnDemand ++ [.collect (.schedule 904000000 100 none fun _ => ⟨"run", "requested"⟩)]) :=
  schedulesStayDisabled_of_leavesUnplanned _ (by decide +kernel)

/-- The failure plans the next run, and the scheduler queues it when the backoff is over. -/
theorem failed_query_schedules_source : ¬ SchedulesStayDisabled
    (queriedOnDemand ++ [.collect (.fail 0 (.sourceFetchFailed "reset") 904000000),
      .collect (.schedule 1204000000 100 none fun _ => ⟨"run", "requested"⟩)]) := by
  intro disabled
  have queued := disabled.unscheduled
    (queriedOnDemand ++ [.collect (.fail 0 (.sourceFetchFailed "reset") 904000000)]) _ [] "feed"
    (configuredRow onDemandOnly) rfl (by decide +kernel) (by decide +kernel) _ _ _ _ rfl "run"
    (scheduledRun "run" 1204000000 { sourceId := "feed" }) (by decide +kernel) rfl
  exact absurd queued (by decide +kernel)

end SecFusion.Monitoring
