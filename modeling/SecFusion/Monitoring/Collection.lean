import SecFusion.Monitoring.RunService

/-!
# Collection

The scheduler, the workers, recovery and the outbox dispatcher over one store.  A
worker is what a successful start gives out: it keeps its context, which names the run
and carries the cursor, and reports once it has collected.  Several workers may hold
contexts of one run, since recovery puts a running run back into the queue.

What a call can do is said once, for one run (`RunStep`) and for one source state
(`StateStep`); every invariant below is a case analysis on these.
-/

namespace SecFusion.Monitoring

open Foundations Sources

/-- An execution of a run.  Its `attempt` is the run's counter at the start, which the
context does not carry. -/
structure Worker where
  context : AcquisitionContext
  attempt : ℕ

/-- The store, and the workers in the order in which they started. -/
structure Collection where
  store : MonitoringStore
  workers : List Worker := []

inductive CollectionOp where
  | schedule (now : ℤ) (limit : ℕ) (sourceIds : Option (List String)) (draw : String → Draw)
  | start (runId : String) (now : ℤ)
  | complete (worker : ℕ) (result : CollectionResult) (now : ℤ)
  /-- The worker reports the exception its collection has raised. -/
  | fail (worker : ℕ) (exc : SourceException) (now : ℤ)
  | recover (now timeoutSeconds : ℤ) (limit : ℕ) (runIds : Option (List String))
      (draw : String → String)
  | dispatch (now : ℤ) (limit : ℕ) (eventIds : Option (List String))
      (publisher : String → JsonObject → Except String Unit)

def Worker.failure (worker : Worker) (exc : SourceException) : AcquisitionFailure :=
  classifySourceFailure exc worker.context.state.consecutiveFailures

/-- The worker that a start adds. -/
def newWorker (store : MonitoringStore) (context : AcquisitionContext) : Worker :=
  { context, attempt := ((store.runs.get? context.runId).map (·.attempt)).getD 0 }

def collection (op : CollectionOp) (before : Collection) : Except Raised (Unit × Collection) :=
  match op with
  | .schedule now limit sourceIds draw => do
      let (_, store) ← scheduleDueSources before.store now limit sourceIds draw
      return ((), { before with store })
  | .start runId now => do
      let (context, store) ← startAcquisitionRun before.store runId now
      let started := context.toList.map (newWorker store)
      return ((), { store, workers := before.workers ++ started })
  | .complete worker result now => do
      let held ← fetch before.workers[worker]? (.lookupError "no such worker")
      let store ← completeCollectionRun before.store held.context.runId result now
      return ((), { before with store })
  | .fail worker exc now => do
      let held ← fetch before.workers[worker]? (.lookupError "no such worker")
      let store ← failAcquisitionRun before.store held.context.runId (held.failure exc) now
      return ((), { before with store })
  | .recover now timeoutSeconds limit runIds draw => do
      let (_, store) ← recoverStaleAcquisitionRuns before.store now timeoutSeconds limit runIds draw
      return ((), { before with store })
  | .dispatch now limit eventIds publisher =>
      let (_, store) := dispatchPendingEvents before.store now limit eventIds publisher
      return ((), { before with store })

/-! ## What the scheduler queues -/

variable {store next : MonitoringStore} {row : SourceModel × SourceStateModel} {now threshold : ℤ}
  {limit : ℕ} {sourceIds runIds : Option (List String)} {draw : String → Draw}
  {run : AcquisitionRunModel}

theorem mem_sourcesWithState :
    row ∈ sourcesWithState store ↔
      row.1 ∈ store.sources.rows ∧ store.states.get? row.1.sourceId = some row.2 := by
  obtain ⟨source, state⟩ := row
  unfold sourcesWithState
  rw [mem_filterMap]
  constructor
  · rintro ⟨other, member, joined⟩
    obtain ⟨found, located, same⟩ := map_eq_some_iff.1 joined
    cases same
    exact ⟨member, located⟩
  · rintro ⟨member, located⟩
    exact ⟨source, member, by rw [located]; rfl⟩

structure Selected (store : MonitoringStore) (now : ℤ) (sourceIds : Option (List String))
    (row : SourceModel × SourceStateModel) : Prop where
  source : store.sources.get? row.1.sourceId = some row.1
  state : store.states.get? row.1.sourceId = some row.2
  sameSource : row.2.sourceId = row.1.sourceId
  due : Due store now sourceIds row

theorem selected_of_mem (member : row ∈ dueSources store now limit sourceIds) :
    Selected store now sourceIds row := by
  have sorted := mem_of_mem_take member
  rw [mem_insertionSort, mem_filter, mem_sourcesWithState] at sorted
  obtain ⟨⟨source, state⟩, due⟩ := sorted
  exact ⟨get?_of_mem source, state, key_of_get? state, of_decide_eq_true due⟩

/-- Two selected rows of one source are the same row. -/
theorem Selected.eq {left right : SourceModel × SourceStateModel}
    (first : Selected store now sourceIds left) (second : Selected store now sourceIds right)
    (same : left.1.sourceId = right.1.sourceId) :
    left = right := by
  have sources := first.source
  have states := first.state
  rw [same, second.source] at sources
  rw [same, second.state] at states
  exact (Prod.ext (Option.some.inj sources) (Option.some.inj states)).symm

theorem scheduleIntervalSeconds_pos {policy : JsonObject} {interval : ℤ}
    (ok : scheduleIntervalSeconds policy = .ok interval) : 0 < interval := by
  obtain ⟨-, ok⟩ := require_bind_eq_ok.1 ok
  obtain ⟨_, -, ok⟩ := fetch_bind_eq_ok.1 ok
  obtain ⟨positive, ok⟩ := require_bind_eq_ok.1 ok
  cases ok
  exact positive

/-- What one round of the scheduler writes. -/
structure Queues (now : ℤ) (draw : String → Draw) (row : SourceModel × SourceStateModel)
    (store next : MonitoringStore) : Prop where
  sources : next.sources = store.sources
  fresh : store.runs.get? (draw row.1.sourceId).runId = none
  runs : ∀ runId, next.runs.get? runId = if (draw row.1.sourceId).runId = runId then
    some (scheduledRun runId now row.2) else store.runs.get? runId
  states : ∃ seconds, 0 < seconds ∧ ∀ sourceId, next.states.get? sourceId =
    if row.1.sourceId = sourceId then
      (store.states.get? sourceId).map (plannedState (some (now + span seconds)))
    else store.states.get? sourceId

theorem queueRun_ok (ok : queueRun now draw store row = .ok next) :
    Queues now draw row store next := by
  unfold queueRun at ok
  obtain ⟨seconds, interval, ok⟩ := bind_eq_ok.1 ok
  obtain ⟨runs, inserted, ok⟩ := fetch_bind_eq_ok.1 ok
  obtain ⟨events, -, ok⟩ := fetch_bind_eq_ok.1 ok
  obtain ⟨due, moved, ok⟩ := bind_eq_ok.1 ok
  cases ok
  have fresh := (insert?_eq_some inserted).2
  refine ⟨rfl, fresh, fun runId => ?_, seconds, scheduleIntervalSeconds_pos interval, ?_⟩
  · rw [get?_insert? inserted]
    by_cases same : (draw row.1.sourceId).runId = runId
    · rw [if_pos (show (scheduledRun (draw row.1.sourceId).runId now row.2).runId = runId from same),
        if_pos same, same]
    · rw [if_neg (show ¬ (scheduledRun (draw row.1.sourceId).runId now row.2).runId = runId from
        same), if_neg same]
  · intro sourceId
    obtain rfl := plusSeconds_ok moved
    exact get?_update _ _ _ (plannedState_sourceId _) _

/-- What the rounds of one schedule write together. -/
structure QueuesAll (now : ℤ) (draw : String → Draw) (rows : List (SourceModel × SourceStateModel))
    (store next : MonitoringStore) : Prop where
  sources : next.sources = store.sources
  runs : ∀ runId, next.runs.get? runId = store.runs.get? runId ∨
    (store.runs.get? runId = none ∧ ∃ row ∈ rows, (draw row.1.sourceId).runId = runId ∧
      next.runs.get? runId = some (scheduledRun runId now row.2))
  states : ∀ sourceId, next.states.get? sourceId = store.states.get? sourceId ∨
    ∃ row ∈ rows, row.1.sourceId = sourceId ∧ ∃ seconds, 0 < seconds ∧
      next.states.get? sourceId = (store.states.get? sourceId).map (plannedState (some (now + span seconds)))

theorem queueAll_ok {rows : List (SourceModel × SourceStateModel)}
    (ok : rows.foldlM (queueRun now draw) store = .ok next) :
    QueuesAll now draw rows store next := by
  induction rows generalizing store with
  | nil =>
      cases ok
      exact ⟨rfl, fun _ => .inl rfl, fun _ => .inl rfl⟩
  | cons row rest ih =>
      rw [foldlM_cons, bind_eq_ok] at ok
      obtain ⟨middle, here, later⟩ := ok
      have first := queueRun_ok here
      have others := ih later
      refine ⟨others.sources.trans first.sources, fun runId => ?_, fun sourceId => ?_⟩
      · rcases others.runs runId with same | ⟨absent, other, member, named, made⟩
        · rw [same, first.runs]
          by_cases named : (draw row.1.sourceId).runId = runId
          · rw [if_pos named]
            exact .inr ⟨named ▸ first.fresh, row, mem_cons_self, named, rfl⟩
          · exact .inl (if_neg named)
        · refine .inr ⟨?_, other, mem_cons_of_mem _ member, named, made⟩
          rw [first.runs] at absent
          by_cases used : (draw row.1.sourceId).runId = runId
          · rw [if_pos used] at absent
            cases absent
          · rwa [if_neg used] at absent
      · obtain ⟨seconds, positive, states⟩ := first.states
        rcases others.states sourceId with same | ⟨other, member, ofSource, seconds', positive', put⟩
        · rw [same, states]
          by_cases ofSource : row.1.sourceId = sourceId
          · exact .inr ⟨row, mem_cons_self, ofSource, seconds, positive, if_pos ofSource⟩
          · exact .inl (if_neg ofSource)
        · refine .inr ⟨other, mem_cons_of_mem _ member, ofSource, seconds', positive', ?_⟩
          rw [put, states]
          split
          · rw [Option.map_map]
            rfl
          · rfl

/-! ## What recovery puts back -/

/-- What the rounds of one recovery write together. -/
structure RequeuesAll (runs : List AcquisitionRunModel) (store next : MonitoringStore) : Prop where
  sources : next.sources = store.sources
  states : next.states = store.states
  runs : ∀ runId, next.runs.get? runId = store.runs.get? runId ∨
    ∃ run ∈ runs, run.runId = runId ∧
      next.runs.get? runId = (store.runs.get? runId).map requeuedRun

theorem requeueAll_ok {draw : String → String} {runs : List AcquisitionRunModel}
    (ok : runs.foldlM (requeueRun now draw) store = .ok next) :
    RequeuesAll runs store next := by
  induction runs generalizing store with
  | nil =>
      cases ok
      exact ⟨rfl, rfl, fun _ => .inl rfl⟩
  | cons run rest ih =>
      rw [foldlM_cons, bind_eq_ok] at ok
      obtain ⟨middle, here, later⟩ := ok
      obtain ⟨events, -, here⟩ := fetch_bind_eq_ok.1 here
      cases here
      have others := ih later
      refine ⟨others.sources, others.states, fun runId => ?_⟩
      rcases others.runs runId with same | ⟨other, member, named, put⟩
      · rw [same, get?_update]
        by_cases named : run.runId = runId
        · exact .inr ⟨run, mem_cons_self, named, if_pos named⟩
        · exact .inl (if_neg named)
      · refine .inr ⟨other, mem_cons_of_mem _ member, named, ?_⟩
        rw [put, get?_update]
        split
        · rw [Option.map_map]
          rfl
        · rfl

theorem stale_of_mem (member : run ∈ staleRuns store threshold limit runIds) :
    run ∈ store.runs.rows ∧ Stale store threshold runIds run := by
  have sorted := mem_of_mem_take member
  rw [mem_insertionSort, mem_select] at sorted
  exact ⟨sorted.1, of_decide_eq_true sorted.2⟩

theorem Stale.active (stale : Stale store threshold runIds run) : run.Active := by
  rcases stale.2.1 with ⟨running, -⟩ | ⟨queued, -⟩
  · exact AcquisitionRunModel.active_of_running running
  · exact AcquisitionRunModel.active_of_queued queued

end SecFusion.Monitoring
