import SecFusion.Monitoring.Fencing

/-!
# Scheduling

The scheduler queues a run of a source that has none under way, whose due time has come
and whose backoff is over, and plans the next one.  A failure moves the due time to the
end of its backoff at the earliest.  Until the next run is queued nothing else writes
the due time: the reports that could are reports on a run of the source, and there is
none.
-/

namespace SecFusion.Monitoring

open Foundations Sources AcquisitionRunModel

/-! ## Before the next run -/

/-- The source has no run under way, and is not due before `bound`. -/
structure NotDueBefore (bound : ℤ) (sourceId : String) (store : MonitoringStore) : Prop where
  idle : ∀ runId run, store.runs.get? runId = some run → run.sourceId = sourceId → ¬ run.Active
  planned : ∃ state due, store.states.get? sourceId = some state ∧ state.nextDueAt = some due ∧
    bound ≤ due

variable {before next : Collection} {bound : ℤ} {sourceId : String}

variable {now : ℤ} {op : CollectionOp} {middle : List CollectionOp} {start : Collection}

/-- The scheduler does not take a source before it is due. -/
theorem NotDueBefore.le_of_selected {store : MonitoringStore}
    (notDue : NotDueBefore bound sourceId store) {sourceIds : Option (List String)}
    {row : SourceModel × SourceStateModel} (selected : Selected store now sourceIds row)
    (ofSource : row.1.sourceId = sourceId) : bound ≤ now := by
  obtain ⟨state, due, stateFound, planned, later⟩ := notDue.planned
  subst ofSource
  obtain rfl := mem_unique selected.state stateFound
  have come := selected.due.2.1
  rw [planned, Option.any_some, decide_eq_true_eq] at come
  exact later.trans come

/-- A step leaves the source undue, unless it is a tick at the bound or later. -/
theorem NotDueBefore.step (notDue : NotDueBefore bound sourceId before.store)
    (step : Step before next op) : NotDueBefore bound sourceId next.store ∨
      ∃ now limit sourceIds draw, op = .schedule now limit sourceIds draw ∧ bound ≤ now := by
  by_cases tick : ∃ now limit sourceIds draw, op = .schedule now limit sourceIds draw ∧ bound ≤ now
  · exact .inr tick
  refine .inl ⟨fun runId run found ofSource active => ?_, ?_⟩
  · have moved := step.runs runId
    rw [found] at moved
    rcases moved.active active with ⟨old, was, oldActive, origin⟩ |
      ⟨now, limit, sourceIds, draw, row, rfl, -, selected, rfl⟩
    · exact notDue.idle runId old was (origin.sourceId.symm.trans ofSource) oldActive
    · have ofRow : row.1.sourceId = sourceId := selected.sameSource.symm.trans ofSource
      exact tick ⟨now, limit, sourceIds, draw, rfl, notDue.le_of_selected selected ofRow⟩
  · obtain ⟨state, due, stateFound, planned, later⟩ := notDue.planned
    have ofState := key_of_get? stateFound
    have moved := step.states sourceId
    rw [stateFound] at moved
    generalize next.store.states.get? sourceId = row at moved
    -- a report would be on a run that is under way
    have busy : ∀ {run run' : AcquisitionRunModel} {state' : SourceStateModel},
        Reports before.store run state run' state' next.store → False := by
      intro run run' state' reports
      have ofRun := key_of_get? reports.stateFound
      exact notDue.idle _ run reports.found (ofRun.symm.trans ofState)
        (active_of_running reports.running)
    cases moved with
    | kept => exact ⟨state, due, rfl, planned, later⟩
    | planned selected =>
        have ofRow := selected.sameSource.symm.trans ofState
        exact absurd ⟨_, _, _, _, rfl, notDue.le_of_selected selected ofRow⟩ tick
    | attempted => exact ⟨_, due, rfl, planned, later⟩
    | completed completes => exact (busy completes.toReports).elim
    | failed fails => exact (busy fails.toReports).elim

/-- A failure leaves its source undue until the backoff is over, and as long as it was undue
before. -/
theorem notDueBefore_of_fails (single : SingleActive before.store fun _ => True) {worker : ℕ}
    {held : Worker} {exc : SourceException} {run : AcquisitionRunModel} {state : SourceStateModel}
    (step : Step before next (.fail worker exc now))
    (fails : Fails before next worker held exc now run state) :
    NotDueBefore
      (dueAfterFailure state.nextDueAt (now + span (held.failure exc).backoffSeconds))
      run.sourceId next.store := by
  constructor
  case idle =>
    intro runId other found ofSource active
    have moved := step.runs runId
    rw [found] at moved
    rcases moved.active active with ⟨old, was, oldActive, origin⟩ | ⟨_, _, _, _, _, other, -⟩
    · have same := single runId run.runId old run trivial trivial was fails.found oldActive
        (active_of_running fails.running) (origin.sourceId.symm.trans ofSource)
      have closed := (fails.runs runId).trans (if_pos same.symm)
      obtain rfl := mem_unique found closed
      exact active.not_closed (failedRun_closed _ _ _)
    · cases other
  case planned => exact ⟨_, _, (fails.states _).trans (if_pos rfl), rfl, le_rfl⟩

/-! ## Ticks -/

/-- The instant of a tick of the scheduler. -/
def CollectionOp.tick : CollectionOp → Option ℤ
  | .schedule now _ _ _ => some now
  | .start .. | .complete .. | .fail .. | .recover .. | .dispatch .. => none

/-- The scheduler ticks at instants that do not decrease. -/
def TicksInOrder (ops : List CollectionOp) : Prop :=
  (ops.filterMap CollectionOp.tick).Pairwise (· ≤ ·)

instance (ops : List CollectionOp) : Decidable (TicksInOrder ops) :=
  inferInstanceAs (Decidable ((ops.filterMap CollectionOp.tick).Pairwise (· ≤ ·)))

theorem TicksInOrder.of_append {first second : List CollectionOp}
    (ordered : TicksInOrder (first ++ second)) : TicksInOrder first ∧ TicksInOrder second := by
  unfold TicksInOrder at ordered
  rw [filterMap_append, pairwise_append] at ordered
  exact ⟨ordered.1, ordered.2.1⟩

/-- A later tick is not at an earlier instant. -/
theorem TicksInOrder.le {later : CollectionOp} {earlierAt laterAt : ℤ}
    (ordered : TicksInOrder (op :: middle ++ [later])) (first : op.tick = some earlierAt)
    (second : later.tick = some laterAt) : earlierAt ≤ laterAt := by
  unfold TicksInOrder at ordered
  rw [filterMap_append, List.filterMap_cons_some first, cons_append,
    pairwise_cons] at ordered
  refine ordered.1 laterAt (mem_append_right _ ?_)
  rw [List.filterMap_cons_some second]
  exact mem_cons_self

/-- The call of the scheduler queues a run of the source. -/
def QueuesRun (before : Collection) (op : CollectionOp) (sourceId : String) : Prop :=
  ∃ runId row, before.store.runs.get? runId = none ∧
    (transact collection before op).store.runs.get? runId = some row ∧ row.sourceId = sourceId

theorem NotDueBefore.le_of_queuesRun (notDue : NotDueBefore bound sourceId before.store)
    (queues : QueuesRun before op sourceId) :
    ∃ now, op.tick = some now ∧ bound ≤ now := by
  obtain ⟨runId, row, absent, found, ofSource⟩ := queues
  cases outcome : collection op before with
  | error raised =>
      rw [transact_of_error outcome, absent] at found
      cases found
  | ok answered =>
      obtain ⟨answer, next⟩ := answered
      rw [transact_of_ok outcome] at found
      have moved := (step_of_ok outcome).runs runId
      rw [absent, found] at moved
      cases moved with
      | scheduled selected =>
          have ofRow := selected.sameSource.symm.trans ofSource
          exact ⟨_, rfl, notDue.le_of_selected selected ofRow⟩

/-- The scheduler queues no run of the source before the bound, however long it takes. -/
theorem NotDueBefore.le_of_run (notDue : NotDueBefore bound sourceId before.store)
    (ordered : TicksInOrder (middle ++ [op])) (tick : op.tick = some now)
    (queues : QueuesRun (run collection before middle) op sourceId) :
    bound ≤ now := by
  induction middle generalizing before with
  | nil =>
      obtain ⟨now', tick', reached⟩ := notDue.le_of_queuesRun queues
      obtain rfl := mem_unique tick tick'
      exact reached
  | cons first rest ih =>
      have later : TicksInOrder (rest ++ [op]) := (@TicksInOrder.of_append [first] (rest ++ [op]) ordered).2
      cases outcome : collection first before with
      | error raised =>
          rw [run_cons, transact_of_error outcome] at queues
          exact ih notDue later queues
      | ok answered =>
          obtain ⟨answer, next⟩ := answered
          rw [run_cons, transact_of_ok outcome] at queues
          rcases notDue.step (step_of_ok outcome) with still | ⟨at', limit, ids, draw, rfl, reached⟩
          · exact ih still later queues
          · exact reached.trans (ordered.le rfl tick)

/-! ## Runs of collection -/

/-- **Scheduling is safe**, over a run of collection. -/
structure SchedulingSafe (start : Collection) (ops : List CollectionOp) : Prop where
  single : ∀ left ∈ (run collection start ops).store.runs.rows,
    ∀ right ∈ (run collection start ops).store.runs.rows,
      left.trigger = .scheduled → right.trigger = .scheduled → left.Active → right.Active →
      left.sourceId = right.sourceId → left = right
  closed : ∀ early late row, ops = early ++ late →
    row ∈ (run collection start early).store.runs.rows → row.Closed →
    row ∈ (run collection start ops).store.runs.rows
  /-- No run is queued before the backoff of a failure is over, and none before the source was
  due. -/
  backoff : ∀ early worker exc failedAt middle tick tickAt late held row state,
    ops = early ++ .fail worker exc failedAt :: (middle ++ tick :: late) →
    (run collection start early).workers[worker]? = some held →
    (run collection start early).store.runs.get? held.context.runId = some row →
    row.status = .running →
    (transact collection (run collection start early) (.fail worker exc failedAt)).store.runs.get?
      held.context.runId ≠ some row →
    (run collection start early).store.states.get? row.sourceId = some state →
    tick.tick = some tickAt →
    QueuesRun (run collection start (early ++ .fail worker exc failedAt :: middle)) tick
      row.sourceId →
    failedAt + span (held.failure exc).backoffSeconds ≤ tickAt ∧
      ∀ due ∈ state.nextDueAt, due ≤ tickAt

theorem singleActive_run (single : SingleActive start.store fun _ => True) (ops : List CollectionOp)
    :
    SingleActive (run collection start ops).store fun _ => True :=
  @run_invariant _ _ _ _ _ (fun (sys : Collection) => SingleActive sys.store fun _ => True)
    (fun _ _ _ _ single ok => single.step (step_of_ok ok)) _ single ops

theorem closed_run {row : AcquisitionRunModel} (found : start.store.runs.get? row.runId = some row)
    (closed : row.Closed) (ops : List CollectionOp) :
    (run collection start ops).store.runs.get? row.runId = some row := by
  refine @run_invariant _ _ _ _ _ (fun (sys : Collection) => sys.store.runs.get? row.runId = some row)
    (fun _ _ _ _ found ok => ?_) _ found ops
  have moved := (step_of_ok ok).runs row.runId
  rw [found] at moved
  exact moved.closed closed

/-- **The scheduler is safe from every state in which each source has at most one run under
way**, in every order of ticks, starts, reports, recoveries and deliveries. -/
theorem schedulingSafe {start : Collection} (single : SingleActive start.store fun _ => True)
    {ops : List CollectionOp} (ordered : TicksInOrder ops) : SchedulingSafe start ops := by
  constructor
  case single =>
    intro left leftMember right rightMember _ _ leftActive rightActive sameSource
    have leftFound := Table.get?_of_mem leftMember
    have rightFound := Table.get?_of_mem rightMember
    refine Table.eq_of_key leftMember rightMember ?_
    exact singleActive_run single ops _ _ left right trivial trivial leftFound rightFound leftActive
      rightActive sameSource
  case closed =>
    rintro early late row rfl member closed
    rw [run_append]
    exact (Table.get?_eq_some.1 (closed_run (Table.get?_of_mem member) closed late)).1
  case backoff =>
    rintro early worker exc failedAt middle tick tickAt late held row state rfl holds found running
      closes stateFound ticks queues
    have begins := singleActive_run single early
    rw [run_append, run_cons] at queues
    have rest : TicksInOrder (middle ++ [tick]) := by
      have after : TicksInOrder (middle ++ tick :: late) :=
        (@TicksInOrder.of_append [_] _ ordered.of_append.2).2
      rw [List.append_cons] at after
      exact after.of_append.1
    generalize run collection start early = before at *
    cases outcome : collection (.fail worker exc failedAt) before with
    | error raised =>
        rw [transact_of_error outcome] at closes
        exact absurd found closes
    | ok answered =>
        obtain ⟨answer, next⟩ := answered
        rw [transact_of_ok outcome] at closes queues
        have step := step_of_ok outcome
        have moved := step.runs held.context.runId
        rw [found] at moved
        generalize next.store.runs.get? held.context.runId = after at moved closes
        cases moved with
        | kept => exact absurd rfl closes
        | failed fails =>
            obtain rfl := mem_unique fails.holds holds
            obtain rfl := mem_unique fails.stateFound stateFound
            have notDue := notDueBefore_of_fails begins step fails
            exact dueAfterFailure_le.1 (notDue.le_of_run rest ticks queues)

/-- The feed is collected, fails, and is due again after a quarter of an hour. -/
theorem schedulingSafe_feed : SchedulingSafe { store := feedStore }
    (firstAttempt ++ [.fail 0 (.sourceFetchFailed "reset") 2000000,
      .schedule 900000000 100 none fun _ => ⟨"next", "next-requested"⟩]) := by
  refine schedulingSafe ?_ (by decide)
  intro _ _ _ _ _ _ found
  cases found

end SecFusion.Monitoring
