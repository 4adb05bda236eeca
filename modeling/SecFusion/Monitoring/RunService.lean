import SecFusion.Monitoring.Storage

/-!
# Acquisition runs

The calls of `packages/monitoring/run_service.py`, of the collection scheduler, of the
outbox dispatcher and of `AcquisitionService.query`, each as one transaction.

A run is queued by the scheduler with the cursor of its source, started by a worker
that takes the cursor from the run, and closed by that worker's report.  Recovery puts
a run that has been running for too long back into the queue, whoever is executing it.
A query creates its run already running and closes it itself.
-/

namespace SecFusion.Monitoring

open Foundations Sources

/-! ## Policies -/

/-- `int(value)` of a JSON number or text that is not a boolean. -/
def intOf : JsonValue → Option ℤ
  | .int value => some value
  | .real value => some (value.num.tdiv value.den)
  | .string text => Text.parseInt text
  | .null | .bool _ | .array _ | .object _ => none

/-- `_nonnegative_int`. -/
def nonnegativeInt (value : Option JsonValue) : Option ℤ :=
  (value.bind intOf).filter (0 ≤ ·)

/-- `_positive_int`. -/
def positiveInt (value : Option JsonValue) : Option ℤ :=
  (nonnegativeInt value).filter (0 < ·)

/-- `value or default`, where zero counts as absent. -/
def orElse (value : Option ℤ) (default : ℤ) : ℤ := (value.filter (· ≠ 0)).getD default

/-- `isinstance(value, (int, float, str))`, where a boolean does not count as a number. -/
def numberOrText : JsonValue → Bool
  | .int _ | .real _ | .string _ => true
  | .null | .bool _ | .array _ | .object _ => false

/-- `_schedule_interval_seconds`. -/
def scheduleIntervalSeconds (policy : JsonObject) : Except Raised ℤ := do
  let value := (policy.get? "interval_seconds").getD (.int 900)
  require (numberOrText value) (.valueError "schedule_policy.interval_seconds must be numeric")
  let interval ← fetch (intOf value) (.valueError "invalid literal for int()")
  require (0 < interval) (.valueError "schedule_policy.interval_seconds must be positive")
  return interval

/-- `_backfill_catchup_seconds`. -/
def backfillCatchupSeconds (policy : JsonObject) : Option ℤ :=
  ((policy.get? "catchup_interval_seconds").bind intOf).filter (0 < ·)

/-- `ceil(total / parts)`. -/
def ceilDiv (total parts : ℤ) : ℤ := (total + parts - 1) / parts

/-- `_adaptive_rate_limit_due_at`. -/
def adaptiveRateLimitDueAt (policy rateState : JsonObject) (instant : ℤ) :
    Except Raised (Option ℤ) :=
  if policy.get? "adaptive_schedule" ≠ some (.bool true) then .ok none
  else
    match nonnegativeInt (rateState.get? "remaining"), nonnegativeInt (rateState.get? "reset_epoch"),
      positiveInt (rateState.get? "requests_made") with
    | some remaining, some resetEpoch, some requestCost =>
        let reserve := orElse (nonnegativeInt (policy.get? "reserve_requests")) 0
        let minInterval := orElse (positiveInt (policy.get? "min_interval_seconds")) 60
        let resetSafety := orElse (nonnegativeInt (policy.get? "reset_safety_seconds")) 5
        let secondsToReset := max 0 (resetEpoch - timestamp instant)
        let available := max 0 (remaining - reserve)
        if available < requestCost then
          (plusSeconds instant (max minInterval (secondsToReset + resetSafety))).map some
        else
          let runsBeforeReset := max 1 (available / requestCost)
          let spread := if secondsToReset = 0 then minInterval
            else ceilDiv secondsToReset runsBeforeReset
          (plusSeconds instant (max minInterval spread)).map some
    | _, _, _ => .ok none

/-! ## Scheduling -/

/-- The source has a queued or running run. -/
def activeRun (store : MonitoringStore) (sourceId : String) : Prop :=
  ∃ run ∈ store.runs.rows, run.sourceId = sourceId ∧ run.Active

instance (store : MonitoringStore) (sourceId : String) : Decidable (activeRun store sourceId) :=
  inferInstanceAs (Decidable (∃ run ∈ store.runs.rows, run.sourceId = sourceId ∧ run.Active))

/-- The condition of the scheduler's query on a source and its state. -/
def Due (store : MonitoringStore) (now : ℤ) (sourceIds : Option (List String))
    (row : SourceModel × SourceStateModel) : Prop :=
  row.1.enabled = true ∧ row.2.nextDueAt.any (· ≤ now) = true ∧
    row.2.backoffUntil.all (· ≤ now) = true ∧ ¬ activeRun store row.1.sourceId ∧
    sourceIds.all (row.1.sourceId ∈ ·) = true

instance (store : MonitoringStore) (now : ℤ) (sourceIds : Option (List String))
    (row : SourceModel × SourceStateModel) : Decidable (Due store now sourceIds row) :=
  inferInstanceAs (Decidable (_ ∧ _ ∧ _ ∧ _ ∧ _))

/-- The order of the scheduler's query. -/
def earlierDue (left right : SourceModel × SourceStateModel) : Prop :=
  left.2.nextDueAt.getD 0 < right.2.nextDueAt.getD 0 ∨
    (left.2.nextDueAt.getD 0 = right.2.nextDueAt.getD 0 ∧ left.1.sourceId ≤ right.1.sourceId)

instance : DecidableRel earlierDue := fun _ _ => inferInstanceAs (Decidable (_ ∨ (_ ∧ _)))

def sourcesWithState (store : MonitoringStore) : List (SourceModel × SourceStateModel) :=
  store.sources.rows.filterMap fun source =>
    (store.states.get? source.sourceId).map fun state => (source, state)

/-- The rows that the scheduler's query returns. -/
def dueSources (store : MonitoringStore) (now : ℤ) (limit : ℕ) (sourceIds : Option (List String)) :
    List (SourceModel × SourceStateModel) :=
  (((sourcesWithState store).filter fun row => Due store now sourceIds row).insertionSort
    earlierDue).take limit

/-- The identifiers that `uuid4` draws for one source: of the run and of its event. -/
structure Draw where
  (runId eventId : String)

def scheduledRun (runId : String) (now : ℤ) (state : SourceStateModel) : AcquisitionRunModel where
  runId
  sourceId := state.sourceId
  trigger := .scheduled
  status := .queued
  cursorIn := state.cursor
  attempt := 0
  createdAt := now

/-- The event that asks a worker to execute a run. -/
def collectionRequested (eventId runId : String) (now : ℤ) : OutboxEventModel where
  eventId
  topic := "collection.requested"
  aggregateId := runId
  payload := [("run_id", .string runId)]
  availableAt := now

/-- The state of a source whose next run is planned. -/
def plannedState (due : Option ℤ) (state : SourceStateModel) : SourceStateModel :=
  { state with nextDueAt := due }

theorem plannedState_sourceId (due : Option ℤ) (state : SourceStateModel) :
    (plannedState due state).sourceId = state.sourceId := rfl

/-- One round of `schedule_due_sources`. -/
def queueRun (now : ℤ) (draw : String → Draw) (store : MonitoringStore)
    (row : SourceModel × SourceStateModel) : Except Raised MonitoringStore := do
  let intervalSeconds ← scheduleIntervalSeconds row.1.schedulePolicy
  let drawn := draw row.1.sourceId
  let runs ← fetch (store.runs.insert? (scheduledRun drawn.runId now row.2))
    (.integrityError "acquisition_runs_pkey")
  let events ← fetch (store.events.insert? (collectionRequested drawn.eventId drawn.runId now))
    (.integrityError "outbox_events_pkey")
  let due ← plusSeconds now intervalSeconds
  let states := store.states.update row.1.sourceId (plannedState (some due))
    (plannedState_sourceId (some due))
  return { store with runs, events, states }

/-- `schedule_due_sources`. -/
def scheduleDueSources (store : MonitoringStore) (now : ℤ) (limit : ℕ)
    (sourceIds : Option (List String)) (draw : String → Draw) :
    Except Raised (List String × MonitoringStore) := do
  let rows := dueSources store now limit sourceIds
  let next ← rows.foldlM (queueRun now draw) store
  return (rows.map fun row => (draw row.1.sourceId).runId, next)

/-! ## Starting -/

/-- `AcquisitionContext`, what a worker is given. -/
structure AcquisitionContext where
  runId : String
  trigger : AcquisitionTrigger
  source : RegisteredDefinition
  state : SourceState

/-- The run of a source that was disabled in the meantime. -/
def refusedRun (now : ℤ) (run : AcquisitionRunModel) : AcquisitionRunModel :=
  { run with
    status := .internalError, finishedAt := some now, errorCode := some "source_disabled",
    errorDetail := some "source was disabled before the queued run started" }

theorem refusedRun_runId (now : ℤ) (run : AcquisitionRunModel) :
    (refusedRun now run).runId = run.runId := rfl

def startedRun (now : ℤ) (run : AcquisitionRunModel) : AcquisitionRunModel :=
  { run with
    status := .running, startedAt := some now, attempt := run.attempt + 1, errorCode := none,
    errorDetail := none }

theorem startedRun_runId (now : ℤ) (run : AcquisitionRunModel) :
    (startedRun now run).runId = run.runId := rfl

/-- The state of a source whose run is started. -/
def attemptedState (now : ℤ) (state : SourceStateModel) : SourceStateModel :=
  { state with lastAttemptAt := some now }

theorem attemptedState_sourceId (now : ℤ) (state : SourceStateModel) :
    (attemptedState now state).sourceId = state.sourceId := rfl

/-- `start_acquisition_run`. -/
def startAcquisitionRun (store : MonitoringStore) (runId : String) (now : ℤ) :
    Except Raised (Option AcquisitionContext × MonitoringStore) := do
  let run ← fetch (store.runs.get? runId) (.lookupError ("unknown acquisition run: " ++ runId))
  if run.Closed ∨ run.status = .running then return (none, store)
  require (run.status = .queued) (.runtimeError
    ("acquisition run " ++ runId ++ " has invalid status '" ++ run.status.value ++ "'"))
  let incomplete := Raised.runtimeError ("source runtime state is incomplete for " ++ run.sourceId)
  let source ← fetch (store.sources.get? run.sourceId) incomplete
  let state ← fetch (store.states.get? run.sourceId) incomplete
  if source.enabled = false then
    let runs := store.runs.update runId (refusedRun now) (refusedRun_runId now)
    return (none, { store with runs })
  let states := store.states.update run.sourceId (attemptedState now) (attemptedState_sourceId now)
  let runs := store.runs.update runId (startedRun now) (startedRun_runId now)
  let stateContract := sourceStateFromModel (attemptedState now state)
  let context : AcquisitionContext :=
    { runId, trigger := run.trigger, source := sourceDefinitionFromModel source,
      state := { stateContract with cursor := run.cursorIn } }
  return (some context, { store with runs, states })

/-! ## Completing -/

/-- The arguments of `complete_collection_run`. -/
structure CollectionResult where
  nextCursor : JsonObject
  rateLimitState : Option JsonObject := none
  acceptedCount : ℕ
  changed : Bool

/-- `_locked_run_and_state`. -/
def lockedRunAndState (store : MonitoringStore) (runId : String) :
    Except Raised (AcquisitionRunModel × SourceStateModel) := do
  let run ← fetch (store.runs.get? runId) (.lookupError ("unknown acquisition run: " ++ runId))
  let state ← fetch (store.states.get? run.sourceId)
    (.runtimeError ("source state missing for " ++ run.sourceId))
  return (run, state)

/-- The run as a completion closes it. -/
def completedRun (result : CollectionResult) (now : ℤ) (run : AcquisitionRunModel) :
    AcquisitionRunModel :=
  { run with
    status := if result.acceptedCount = 0 then .noChange else .success
    cursorOut := result.nextCursor, finishedAt := some now }

theorem completedRun_runId (result : CollectionResult) (now : ℤ) (run : AcquisitionRunModel) :
    (completedRun result now run).runId = run.runId := rfl

/-- The source state as a completion leaves it, with the due time that it has found. -/
def completedState (result : CollectionResult) (now : ℤ) (due : Option ℤ)
    (state : SourceStateModel) : SourceStateModel :=
  { state with
    cursor := result.nextCursor, lastSuccessAt := some now
    lastChangeAt := if result.changed then some now else state.lastChangeAt
    nextDueAt := due, consecutiveFailures := 0, backoffUntil := none
    rateLimitState := result.rateLimitState.getD state.rateLimitState }

theorem completedState_sourceId (result : CollectionResult) (now : ℤ) (due : Option ℤ)
    (state : SourceStateModel) : (completedState result now due state).sourceId = state.sourceId :=
  rfl

/-- The due time that a completion leaves, from the one it finds.  It stays when the source
has no row. -/
def dueAfterCompletion (source : Option SourceModel) (result : CollectionResult) (now : ℤ)
    (current : Option ℤ) : Except Raised (Option ℤ) := do
  let some source := source | return current
  let adaptive ← adaptiveRateLimitDueAt source.rateLimitPolicy (result.rateLimitState.getD []) now
  if result.nextCursor.get? "backfill_pending" ≠ some (.bool true) then
    return adaptive.orElse fun _ => current
  match backfillCatchupSeconds source.schedulePolicy with
  | none => return adaptive.orElse fun _ => current
  | some catchupSeconds =>
      let catchup ← plusSeconds now catchupSeconds
      match adaptive, current with
      | some adapted, _ => return some (max adapted catchup)
      | none, none => return some catchup
      | none, some due => return some (if catchup < due then catchup else due)

/-- `complete_collection_run`. -/
def completeCollectionRun (store : MonitoringStore) (runId : String) (result : CollectionResult)
    (now : ℤ) : Except Raised MonitoringStore := do
  let (run, state) ← lockedRunAndState store runId
  if run.Closed then return store
  require (run.status = .running) (.runtimeError
    ("cannot complete acquisition run in status '" ++ run.status.value ++ "'"))
  let due ← dueAfterCompletion (store.sources.get? run.sourceId) result now state.nextDueAt
  let runs := store.runs.update runId (completedRun result now) (completedRun_runId result now)
  let states := store.states.update run.sourceId (completedState result now due)
    (completedState_sourceId result now due)
  return { store with runs, states }

/-! ## Failing -/

/-- `AcquisitionFailure`.  Each that the code builds closes its run. -/
structure AcquisitionFailure where
  status : AcquisitionStatus
  (errorCode errorDetail : String)
  backoffSeconds : ℤ
  closes : status ∈ terminalStatuses

/-- The exceptions that a collection may raise, as `classify_source_failure` tells them
apart. -/
inductive SourceException where
  | artifactStoreUnavailable (text : String)
  | sourceRateLimited (text : String) (retryAfterSeconds : Option ℚ)
  | sourceAuthFailed (text : String)
  | sourceAccessBlocked (text : String)
  | sourceSchemaChanged (text : String)
  | sourceFetchFailed (text : String)
  /-- Any other exception, with its class name, its text and its `repr`. -/
  | other (name text repr : String)

/-- `classify_source_failure`. -/
def classifySourceFailure (exc : SourceException) (consecutiveFailures : ℤ) : AcquisitionFailure :=
  match exc with
  | .artifactStoreUnavailable text =>
      ⟨.dependencyUnavailable, "artifact_store_unavailable", text, 60, by decide⟩
  | .sourceRateLimited text retryAfter =>
      let backoff := match retryAfter with
        | none => 15 * 60
        | some seconds => max (15 * 60) (max 0 seconds).floor
      ⟨.rateLimited, "source_rate_limited", text, backoff, by decide⟩
  | .sourceAuthFailed text => ⟨.authFailed, "source_auth_failed", text, 6 * 60 * 60, by decide⟩
  | .sourceAccessBlocked text =>
      ⟨.providerBlocked, "source_access_blocked", text, 24 * 60 * 60, by decide⟩
  | .sourceSchemaChanged text =>
      ⟨.schemaChanged, "source_schema_changed", text, 6 * 60 * 60, by decide⟩
  | .sourceFetchFailed text =>
      let exponent := (min (max consecutiveFailures 0) 4).toNat
      ⟨.fetchFailed, "source_fetch_failed", text, min (5 * 60 * 2 ^ exponent) (60 * 60), by decide⟩
  | .other name text repr =>
      ⟨.internalError, name, if text = "" then repr else text, 15 * 60, by decide⟩

def failedRun (failure : AcquisitionFailure) (now : ℤ) (run : AcquisitionRunModel) :
    AcquisitionRunModel :=
  { run with
    status := failure.status, finishedAt := some now, errorCode := some failure.errorCode
    errorDetail := some (failure.errorDetail.take 4000).toString }

theorem failedRun_runId (failure : AcquisitionFailure) (now : ℤ) (run : AcquisitionRunModel) :
    (failedRun failure now run).runId = run.runId := rfl

/-- The due time after a failure: the backoff is a lower bound on it, and what was planned
stays planned if it is later. -/
def dueAfterFailure (planned : Option ℤ) (backoffUntil : ℤ) : ℤ :=
  match planned with
  | some due => max due backoffUntil
  | none => backoffUntil

theorem dueAfterFailure_le {planned : Option ℤ} {backoffUntil instant : ℤ} :
    dueAfterFailure planned backoffUntil ≤ instant ↔
      backoffUntil ≤ instant ∧ ∀ due ∈ planned, due ≤ instant := by
  cases planned with
  | none => simp [dueAfterFailure]
  | some due =>
      simp only [dueAfterFailure, max_le_iff, mem_def, some.injEq, forall_eq']
      exact and_comm

/-- The source state as a failure leaves it. -/
def failedState (backoffUntil : ℤ) (state : SourceStateModel) : SourceStateModel :=
  { state with
    consecutiveFailures := state.consecutiveFailures + 1, backoffUntil := some backoffUntil
    nextDueAt := some (dueAfterFailure state.nextDueAt backoffUntil) }

theorem failedState_sourceId (backoffUntil : ℤ) (state : SourceStateModel) :
    (failedState backoffUntil state).sourceId = state.sourceId := rfl

/-- `fail_acquisition_run`. -/
def failAcquisitionRun (store : MonitoringStore) (runId : String) (failure : AcquisitionFailure)
    (now : ℤ) : Except Raised MonitoringStore := do
  let (run, _) ← lockedRunAndState store runId
  if run.Closed then return store
  require (run.status = .running) (.runtimeError
    ("cannot fail acquisition run in status '" ++ run.status.value ++ "'"))
  let backoffUntil ← plusSeconds now failure.backoffSeconds
  let runs := store.runs.update runId (failedRun failure now) (failedRun_runId failure now)
  let states := store.states.update run.sourceId (failedState backoffUntil)
    (failedState_sourceId backoffUntil)
  return { store with runs, states }

/-! ## Recovery -/

/-- The outbox still has a delivery of the run before it, or had one recently. -/
def recentOrPendingDelivery (store : MonitoringStore) (threshold : ℤ) (runId : String) : Prop :=
  ∃ event ∈ store.events.rows, event.aggregateId = runId ∧ event.topic = "collection.requested" ∧
    (event.status = .pending ∨ threshold < event.availableAt ∨
      event.deliveredAt.any (threshold < ·) = true)

instance (store : MonitoringStore) (threshold : ℤ) (runId : String) :
    Decidable (recentOrPendingDelivery store threshold runId) :=
  inferInstanceAs (Decidable (∃ event ∈ store.events.rows, _ ∧ _ ∧ (_ ∨ _ ∨ _)))

/-- The condition of the recovery's query. -/
def Stale (store : MonitoringStore) (threshold : ℤ) (runIds : Option (List String))
    (run : AcquisitionRunModel) : Prop :=
  run.querySpec.get? "execution_driver" ≠ some (.string "operator") ∧
    ((run.status = .running ∧ run.startedAt.any (· ≤ threshold) = true) ∨
      (run.status = .queued ∧ run.trigger = .scheduled ∧ run.createdAt ≤ threshold ∧
        ¬ recentOrPendingDelivery store threshold run.runId)) ∧
    runIds.all (run.runId ∈ ·) = true

instance (store : MonitoringStore) (threshold : ℤ) (runIds : Option (List String))
    (run : AcquisitionRunModel) : Decidable (Stale store threshold runIds run) :=
  inferInstanceAs (Decidable (_ ∧ (_ ∨ _) ∧ _))

/-- The rows that the recovery's query returns. -/
def staleRuns (store : MonitoringStore) (threshold : ℤ) (limit : ℕ)
    (runIds : Option (List String)) : List AcquisitionRunModel :=
  ((store.runs.select fun run => Stale store threshold runIds run).insertionSort
    fun left right =>
      left.startedAt.getD left.createdAt ≤ right.startedAt.getD right.createdAt).take limit

/-- The run as recovery puts it back into the queue. -/
def requeuedRun (run : AcquisitionRunModel) : AcquisitionRunModel :=
  { run with status := .queued, startedAt := none }

theorem requeuedRun_runId (run : AcquisitionRunModel) : (requeuedRun run).runId = run.runId := rfl

/-- One round of `recover_stale_acquisition_runs`. -/
def requeueRun (now : ℤ) (draw : String → String) (store : MonitoringStore)
    (run : AcquisitionRunModel) : Except Raised MonitoringStore := do
  let runs := store.runs.update run.runId requeuedRun requeuedRun_runId
  let events ← fetch (store.events.insert? (collectionRequested (draw run.runId) run.runId now))
    (.integrityError "outbox_events_pkey")
  return { store with runs, events }

/-- `recover_stale_acquisition_runs`. -/
def recoverStaleAcquisitionRuns (store : MonitoringStore) (now timeoutSeconds : ℤ) (limit : ℕ)
    (runIds : Option (List String)) (draw : String → String) :
    Except Raised (List String × MonitoringStore) := do
  let threshold ← plusSeconds now (-timeoutSeconds)
  let runs := staleRuns store threshold limit runIds
  let next ← runs.foldlM (requeueRun now draw) store
  return (runs.map (·.runId), next)

/-! ## Delivery -/

def publishedEvent (publisher : String → JsonObject → Except String Unit) (now : ℤ)
    (event : OutboxEventModel) : OutboxEventModel :=
  match publisher event.topic event.payload with
  | .error text =>
      { event with attempts := event.attempts + 1, lastError := some (text.take 4000).toString }
  | .ok () =>
      { event with
        status := .delivered, deliveredAt := some now, attempts := event.attempts + 1
        lastError := none }

theorem publishedEvent_eventId (publisher : String → JsonObject → Except String Unit) (now : ℤ)
    (event : OutboxEventModel) : (publishedEvent publisher now event).eventId = event.eventId := by
  unfold publishedEvent
  split <;> rfl

/-- The rows that the dispatcher's query returns. -/
def pendingEvents (store : MonitoringStore) (now : ℤ) (limit : ℕ) (eventIds : Option (List String)) :
    List OutboxEventModel :=
  ((store.events.select fun event => event.status = .pending ∧ event.availableAt ≤ now ∧
    eventIds.all (event.eventId ∈ ·) = true).insertionSort fun left right =>
      left.availableAt < right.availableAt ∨
        (left.availableAt = right.availableAt ∧ left.eventId ≤ right.eventId)).take limit

/-- `dispatch_pending_events`. -/
def dispatchPendingEvents (store : MonitoringStore) (now : ℤ) (limit : ℕ)
    (eventIds : Option (List String)) (publisher : String → JsonObject → Except String Unit) :
    ℕ × MonitoringStore :=
  let events := pendingEvents store now limit eventIds
  let published := events.map (publishedEvent publisher now)
  (published.countP (·.status = .delivered), { store with events := store.events.write published })

/-! ## Queries -/

/-- `QuerySpec` -/
structure QuerySpec where
  filters : JsonObject := []

/-- `spec.model_dump(mode="json")` -/
def QuerySpec.dump (spec : QuerySpec) : JsonObject := [("filters", .object spec.filters)]

/-- The run that a query creates. -/
def queryRun (runId sourceId : String) (trigger : AcquisitionTrigger) (parentRunId : Option String)
    (spec : QuerySpec) (now : ℤ) : AcquisitionRunModel where
  runId
  sourceId
  trigger
  parentRunId
  querySpec := spec.dump
  status := .running
  cursorIn := []
  cursorOut := []
  attempt := 1
  createdAt := now
  startedAt := some now

/-- The first transaction of `AcquisitionService.query`. -/
def beginQuery (store : MonitoringStore) (runId sourceId : String) (trigger : AcquisitionTrigger)
    (parentRunId : Option String) (spec : QuerySpec) (now : ℤ) :
    Except Raised MonitoringStore := do
  let _ ← fetch (store.sources.get? sourceId) (.integrityError "acquisition_runs_source_id_fkey")
  let runs ← fetch (store.runs.insert? (queryRun runId sourceId trigger parentRunId spec now))
    (.integrityError "acquisition_runs_pkey")
  return { store with runs }

/-- The run of a query whose adapter has raised. -/
def failedQueryRun (errorName errorText : String) (now : ℤ) (run : AcquisitionRunModel) :
    AcquisitionRunModel :=
  { run with
    status := .failed, finishedAt := some now, errorCode := some errorName
    errorDetail := some (errorText.take 4000).toString }

theorem failedQueryRun_runId (errorName errorText : String) (now : ℤ) (run : AcquisitionRunModel) :
    (failedQueryRun errorName errorText now run).runId = run.runId := rfl

def answeredQueryRun (results : ℕ) (now : ℤ) (run : AcquisitionRunModel) : AcquisitionRunModel :=
  { run with
    status := if results = 0 then .noChange else .success, finishedAt := some now
    cursorOut := [("result_count", .int results)] }

theorem answeredQueryRun_runId (results : ℕ) (now : ℤ) (run : AcquisitionRunModel) :
    (answeredQueryRun results now run).runId = run.runId := rfl

/-- The last transaction of `AcquisitionService.query`, after an exception of the adapter. -/
def failQuery (store : MonitoringStore) (runId errorName errorText : String) (now : ℤ) :
    Except Raised MonitoringStore := do
  let _ ← fetch (store.runs.get? runId) (.runtimeError "on-demand acquisition run disappeared")
  let runs := store.runs.update runId (failedQueryRun errorName errorText now)
    (failedQueryRun_runId errorName errorText now)
  return { store with runs }

/-- The last transaction of `AcquisitionService.query`, with the adapter's results. -/
def answerQuery (store : MonitoringStore) (runId : String) (results : ℕ) (now : ℤ) :
    Except Raised MonitoringStore := do
  let _ ← fetch (store.runs.get? runId) (.runtimeError "on-demand acquisition run disappeared")
  let runs := store.runs.update runId (answeredQueryRun results now)
    (answeredQueryRun_runId results now)
  return { store with runs }

end SecFusion.Monitoring
