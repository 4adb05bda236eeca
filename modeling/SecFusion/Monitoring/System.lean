import SecFusion.Monitoring.Steps

/-!
# The monitoring system

Collection together with the two other writers of its tables: on-demand queries, which
create and close runs of their own, and the synchronisation of the registry, which owns
the sources and reconciles their states.

The queries that have created a run are remembered by the run's identifier.  A query
that crashes never closes its run, and nothing here depends on its closing it once.
-/

namespace SecFusion.Monitoring

open Foundations Sources

structure MonitoringSystem where
  base : Collection
  /-- The runs that queries have created. -/
  queries : List String := []

/-- The system before any call. -/
def MonitoringSystem.empty : MonitoringSystem where
  base := { store := .empty }

inductive MonitoringOp where
  | collect (op : CollectionOp)
  | beginQuery (runId sourceId : String) (trigger : AcquisitionTrigger)
      (parentRunId : Option String) (spec : QuerySpec) (now : ℤ)
  | answerQuery (runId : String) (results : ℕ) (now : ℤ)
  /-- The adapter of a query has raised. -/
  | failQuery (runId errorName errorText : String) (now : ℤ)
  | synchronize (definitions : List RegisteredDefinition) (now : ℤ)

def MonitoringSystem.withStore (before : MonitoringSystem) (store : MonitoringStore) : MonitoringSystem :=
  { before with base := { before.base with store } }

def monitoring (op : MonitoringOp) (before : MonitoringSystem) : Except Raised (Unit × MonitoringSystem) :=
  match op with
  | .collect op => do
      let (_, base) ← collection op before.base
      return ((), { before with base })
  | .beginQuery runId sourceId trigger parentRunId spec now => do
      let store ← beginQuery before.base.store runId sourceId trigger parentRunId spec now
      return ((), { before.withStore store with queries := before.queries ++ [runId] })
  | .answerQuery runId results now => do
      require (runId ∈ before.queries) (.lookupError "no such query")
      let store ← answerQuery before.base.store runId results now
      return ((), before.withStore store)
  | .failQuery runId errorName errorText now => do
      require (runId ∈ before.queries) (.lookupError "no such query")
      let store ← failQuery before.base.store runId errorName errorText now
      return ((), before.withStore store)
  | .synchronize definitions now => do
      let (_, store) ← synchronizeMonitoringSources before.base.store definitions now
      return ((), before.withStore store)

/-! ## Queries -/

/-- What the first transaction of a query writes. -/
structure Begins (store : MonitoringStore) (run : AcquisitionRunModel) (next : MonitoringStore) :
    Prop where
  fresh : store.runs.get? run.runId = none
  sources : next.sources = store.sources
  states : next.states = store.states
  runs : ∀ runId, next.runs.get? runId =
    if run.runId = runId then some run else store.runs.get? runId

variable {store next : MonitoringStore} {runId sourceId : String} {now : ℤ}
  {sourceIds : List String} {definitions : List RegisteredDefinition}

theorem beginQuery_ok {trigger : AcquisitionTrigger} {parentRunId : Option String}
    {spec : QuerySpec}
    (ok : beginQuery store runId sourceId trigger parentRunId spec now = .ok next) :
    Begins store (queryRun runId sourceId trigger parentRunId spec now) next := by
  obtain ⟨_, -, ok⟩ := fetch_bind_eq_ok.1 ok
  obtain ⟨runs, inserted, ok⟩ := fetch_bind_eq_ok.1 ok
  cases ok
  exact ⟨(insert?_eq_some inserted).2, rfl, rfl, get?_insert? inserted⟩

/-- What the last transaction of a query writes. -/
structure Closes (store : MonitoringStore) (run run' : AcquisitionRunModel)
    (next : MonitoringStore) : Prop where
  found : store.runs.get? run.runId = some run
  sources : next.sources = store.sources
  states : next.states = store.states
  runs : ∀ runId, next.runs.get? runId =
    if run.runId = runId then some run' else store.runs.get? runId

theorem answerQuery_ok {results : ℕ} (ok : answerQuery store runId results now = .ok next) :
    ∃ run, run.runId = runId ∧ Closes store run (answeredQueryRun results now run) next := by
  obtain ⟨run, found, ok⟩ := fetch_bind_eq_ok.1 ok
  cases ok
  have named := key_of_get? found
  exact ⟨run, named, named ▸ found, rfl, rfl,
    get?_update_runs (answeredQueryRun_runId results now) found⟩

theorem failQuery_ok {errorName errorText : String}
    (ok : failQuery store runId errorName errorText now = .ok next) :
    ∃ run, run.runId = runId ∧ Closes store run (failedQueryRun errorName errorText now run) next := by
  obtain ⟨run, found, ok⟩ := fetch_bind_eq_ok.1 ok
  cases ok
  have named := key_of_get? found
  exact ⟨run, named, named ▸ found, rfl, rfl,
    get?_update_runs (failedQueryRun_runId errorName errorText now) found⟩

/-! ## Synchronisation -/

/-- What `ensure_source_states` writes for the sources it is given. -/
structure Ensures (store : MonitoringStore) (sourceIds : List String) (next : MonitoringStore) :
    Prop where
  sources : next.sources = store.sources
  runs : next.runs = store.runs
  others : ∀ sourceId ∉ sourceIds, next.states.get? sourceId = store.states.get? sourceId
  /-- A state that exists keeps everything but its due time. -/
  states : ∀ sourceId state, store.states.get? sourceId = some state →
    ∃ due, next.states.get? sourceId = some (plannedState due state)
  disabled : ∀ sourceId ∈ sourceIds, ∀ source, store.sources.get? sourceId = some source →
    scheduleEnabled source.schedulePolicy = false →
      ∀ state, next.states.get? sourceId = some state → state.nextDueAt = none

/-- One round writes the state of its source, and nothing else. -/
theorem ensures_of_put {store : MonitoringStore} {source : SourceModel} {state : SourceStateModel}
    (sourceFound : store.sources.get? state.sourceId = some source)
    (kept : ∀ old, store.states.get? state.sourceId = some old → ∃ due, state = plannedState due old)
    (disabled : scheduleEnabled source.schedulePolicy = false → state.nextDueAt = none) :
    Ensures store [state.sourceId] { store with states := store.states.put state } := by
  refine ⟨rfl, rfl, fun sourceId other => ?_, fun sourceId old found => ?_, ?_⟩
  · have different : state.sourceId ≠ sourceId := fun same => other (by simp [same])
    exact (get?_put _ _ _).trans (if_neg different)
  · by_cases same : state.sourceId = sourceId
    · subst same
      obtain ⟨due, rfl⟩ := kept old found
      exact ⟨due, (get?_put _ _ _).trans (if_pos rfl)⟩
    · exact ⟨old.nextDueAt, ((get?_put _ _ _).trans (if_neg same)).trans found⟩
  · intro sourceId member other otherFound off written writtenFound
    obtain rfl := mem_singleton.1 member
    obtain rfl := mem_unique otherFound sourceFound
    have put := (get?_put store.states state state.sourceId).trans (if_pos rfl)
    obtain rfl := mem_unique put writtenFound
    exact disabled off

theorem ensureSourceState_ok (ok : ensureSourceState now store sourceId = .ok next) :
    Ensures store [sourceId] next := by
  obtain ⟨source, sourceFound, ok⟩ := fetch_bind_eq_ok.1 ok
  cases located : store.states.get? sourceId with
  | none =>
      rw [located] at ok
      cases ok
      refine @ensures_of_put store source { sourceId, nextDueAt := _ } sourceFound
        (fun old found => ?_) fun off => if_neg (by simp [off])
      exact absurd (located.symm.trans found) nofun
  | some state =>
      rw [located] at ok
      have named := key_of_get? located
      subst named
      dsimp only at ok
      have same : ∀ old, store.states.get? state.sourceId = some old → old = state :=
        fun old found => mem_unique found located
      split at ok
      next off =>
        cases ok
        exact @ensures_of_put store source (plannedState none state) sourceFound
          (fun old found => ⟨none, by rw [same old found]⟩) fun _ => rfl
      next on =>
        split at ok
        · cases ok
          exact @ensures_of_put store source (plannedState (some now) state) sourceFound
            (fun old found => ⟨some now, by rw [same old found]⟩) fun off => absurd off on
        · cases ok
          refine ⟨rfl, rfl, fun _ _ => rfl, fun _ old found => ⟨old.nextDueAt, found⟩, ?_⟩
          intro id member other otherFound off
          obtain rfl := mem_singleton.1 member
          obtain rfl := mem_unique otherFound sourceFound
          exact absurd off on

theorem ensureSourceStates_ok (ok : ensureSourceStates store sourceIds now = .ok next) :
    Ensures store sourceIds next := by
  unfold ensureSourceStates at ok
  induction sourceIds generalizing store with
  | nil =>
      cases ok
      exact ⟨rfl, rfl, fun _ _ => rfl, fun _ old found => ⟨old.nextDueAt, found⟩,
        forall_mem_nil _⟩
  | cons first rest ih =>
      rw [foldlM_cons, bind_eq_ok] at ok
      obtain ⟨middle, here, later⟩ := ok
      have round := ensureSourceState_ok here
      have others := ih later
      refine ⟨others.sources.trans round.sources, others.runs.trans round.runs,
        fun sourceId absent => ?_, fun sourceId old found => ?_, ?_⟩
      · rw [mem_cons, not_or] at absent
        rw [others.others sourceId absent.2]
        exact round.others sourceId (by simpa using absent.1)
      · obtain ⟨due, put⟩ := round.states sourceId old found
        obtain ⟨due', put'⟩ := others.states sourceId _ put
        exact ⟨due', put'⟩
      · intro sourceId member source sourceFound off state stateFound
        by_cases again : sourceId ∈ rest
        · exact others.disabled sourceId again source (round.sources ▸ sourceFound) off state
            stateFound
        · rw [others.others sourceId again] at stateFound
          have head := (mem_cons.1 member).resolve_right again
          exact round.disabled sourceId (by simp [head]) source sourceFound off state stateFound

/-- What a synchronisation of the registry writes. -/
structure Synchronizes (store next : MonitoringStore) : Prop where
  runs : next.runs = store.runs
  states : ∀ sourceId state, store.states.get? sourceId = some state →
    ∃ due, next.states.get? sourceId = some (plannedState due state)
  /-- A source either has been configured, and its state follows its schedule policy, or is
  as before up to its being enabled. -/
  sources : ∀ sourceId source, next.sources.get? sourceId = some source →
    (scheduleEnabled source.schedulePolicy = false →
      ∀ state, next.states.get? sourceId = some state → state.nextDueAt = none) ∨
    (next.states.get? sourceId = store.states.get? sourceId ∧ ∃ old,
      store.sources.get? sourceId = some old ∧ source.schedulePolicy = old.schedulePolicy)

theorem retireUnconfigured_schedulePolicy (configured : List String) (row : SourceModel) :
    (retireUnconfigured configured row).schedulePolicy = row.schedulePolicy := by
  unfold retireUnconfigured
  split <;> rfl

/-- Storing the configured definitions leaves the other rows alone. -/
theorem get?_foldl_put (absent : sourceId ∉ definitions.map (·.sourceId))
    (table : Table SourceModel String (·.sourceId)) :
    (definitions.foldl (fun table definition => table.put (configuredRow definition))
      table).get? sourceId = table.get? sourceId := by
  induction definitions generalizing table with
  | nil => rfl
  | cons definition rest ih =>
      rw [map_cons, mem_cons, not_or] at absent
      rw [foldl_cons, ih absent.2, get?_put]
      exact if_neg fun same => absent.1 same.symm

theorem synchronizeMonitoringSources_ok
    (ok : synchronizeMonitoringSources store definitions now = .ok (sourceIds, next)) :
    Synchronizes store next := by
  obtain ⟨ensured, called, ok⟩ := bind_eq_ok.1 ok
  cases ok
  have ensures := ensureSourceStates_ok called
  refine ⟨ensures.runs, ensures.states, fun sourceId source sourceFound => ?_⟩
  rw [ensures.sources] at sourceFound
  by_cases configured : sourceId ∈ definitions.map (·.sourceId)
  · have listed : sourceId ∈ sortedSet (definitions.map (·.sourceId)) := by
      simpa [sortedSet] using configured
    exact .inl (ensures.disabled sourceId listed source sourceFound)
  · have unlisted : sourceId ∉ sortedSet (definitions.map (·.sourceId)) := by
      simpa [sortedSet] using configured
    refine .inr ⟨ensures.others sourceId unlisted, ?_⟩
    dsimp only [syncSourceDefinitions] at sourceFound
    rw [get?_modify, get?_foldl_put configured] at sourceFound
    obtain ⟨old, found, rfl⟩ := map_eq_some_iff.1 sourceFound
    exact ⟨old, found, retireUnconfigured_schedulePolicy _ old⟩

end SecFusion.Monitoring
