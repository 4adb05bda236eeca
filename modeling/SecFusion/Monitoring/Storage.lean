import SecFusion.Foundations.Table
import SecFusion.Foundations.Text
import SecFusion.Raised
import SecFusion.Sources.Contracts

/-!
# The monitoring store

The model of `packages/monitoring/storage` with the two tables it shares with
others: the sources, whose definitions the registry owns, and the outbox.  A source
has one state row, which holds its cursor and the instant at which it is next due,
and any number of acquisition runs.

Instants are microseconds since the epoch.  The clock is read by the callers, and
what `uuid4` draws is an argument.
-/

namespace SecFusion.Monitoring

open Foundations Sources

/-! ## Instants -/

/-- `datetime.min` and `datetime.max`. -/
def minInstant : ℤ := -62135596800000000

def maxInstant : ℤ := 253402300799999999

/-- `timedelta(seconds=seconds)`. -/
def span (seconds : ℤ) : ℤ := seconds * 1000000

/-- `instant + timedelta(seconds=seconds)`. -/
def plusSeconds (instant seconds : ℤ) : Except Raised ℤ :=
  if minInstant ≤ instant + span seconds ∧ instant + span seconds ≤ maxInstant then
    .ok (instant + span seconds)
  else .error (.overflowError "date value out of range")

theorem plusSeconds_ok {instant seconds moved : ℤ}
    (ok : plusSeconds instant seconds = .ok moved) : moved = instant + span seconds := by
  unfold plusSeconds at ok
  split at ok
  · exact (Except.ok.inj ok).symm
  · cases ok

/-- `int(instant.timestamp())`. -/
def timestamp (instant : ℤ) : ℤ := instant.tdiv 1000000

/-! ## Rows -/

/-- The part of a configured `SourceDefinition` that monitoring reads. -/
structure RegisteredDefinition extends SourceDefinition where
  (rateLimitPolicy schedulePolicy : JsonObject := [])
  deriving DecidableEq

/-- One row of `sources`. -/
structure SourceModel extends RegisteredDefinition where
  managedBy : String := "config"
  enabled : Bool := true
  deriving DecidableEq

/-- `SourceState`. -/
structure SourceState where
  cursor : JsonObject := []
  (lastAttemptAt lastSuccessAt lastChangeAt nextDueAt : Option ℤ := none)
  consecutiveFailures : ℤ := 0
  backoffUntil : Option ℤ := none
  rateLimitState : JsonObject := []

/-- One row of `source_state`. -/
structure SourceStateModel extends SourceState where
  sourceId : String

/-- The values of the column `status`. -/
inductive AcquisitionStatus where
  | queued
  | running
  | success
  | noChange
  | rateLimited
  | authFailed
  | providerBlocked
  | schemaChanged
  | fetchFailed
  | internalError
  | dependencyUnavailable
  /-- What `AcquisitionService.query` writes after an exception. -/
  | failed
  deriving DecidableEq

def AcquisitionStatus.value : AcquisitionStatus → String
  | .queued => "queued"
  | .running => "running"
  | .success => "success"
  | .noChange => "no_change"
  | .rateLimited => "rate_limited"
  | .authFailed => "auth_failed"
  | .providerBlocked => "provider_blocked"
  | .schemaChanged => "schema_changed"
  | .fetchFailed => "fetch_failed"
  | .internalError => "internal_error"
  | .dependencyUnavailable => "dependency_unavailable"
  | .failed => "failed"

/-- `TERMINAL_STATUSES`. -/
def terminalStatuses : List AcquisitionStatus :=
  [.success, .noChange, .rateLimited, .authFailed, .providerBlocked, .schemaChanged, .fetchFailed,
    .internalError, .dependencyUnavailable]

/-- `ACTIVE_RUN_STATUSES`. -/
def activeRunStatuses : List AcquisitionStatus := [.queued, .running]

/-- One row of `acquisition_runs`. -/
structure AcquisitionRunModel where
  (runId sourceId : String)
  trigger : AcquisitionTrigger
  parentRunId : Option String := none
  querySpec : JsonObject := []
  status : AcquisitionStatus
  (cursorIn cursorOut : JsonObject := [])
  attempt : ℕ := 1
  createdAt : ℤ
  (startedAt finishedAt : Option ℤ := none)
  (errorCode errorDetail : Option String := none)
  deriving DecidableEq

abbrev AcquisitionRunModel.Closed (run : AcquisitionRunModel) : Prop :=
  run.status ∈ terminalStatuses

/-- The run is queued or running. -/
abbrev AcquisitionRunModel.Active (run : AcquisitionRunModel) : Prop :=
  run.status ∈ activeRunStatuses

namespace AcquisitionRunModel

variable {run : AcquisitionRunModel}

theorem active_of_queued (queued : run.status = .queued) : run.Active :=
  mem_pair.2 (.inl queued)

theorem active_of_running (running : run.status = .running) : run.Active :=
  mem_pair.2 (.inr running)

theorem Active.not_closed (active : run.Active) : ¬ run.Closed := by
  unfold Closed
  rcases mem_pair.1 active with queued | running
  · rw [queued]
    decide
  · rw [running]
    decide

end AcquisitionRunModel

inductive DeliveryStatus where
  | pending
  | delivered
  deriving DecidableEq

/-- One row of `outbox_events`. -/
structure OutboxEventModel where
  (eventId topic aggregateId : String)
  payload : JsonObject
  status : DeliveryStatus := .pending
  attempts : ℕ := 0
  availableAt : ℤ
  deliveredAt : Option ℤ := none
  lastError : Option String := none

structure MonitoringStore where
  sources : Table SourceModel String (·.sourceId)
  states : Table SourceStateModel String (·.sourceId)
  runs : Table AcquisitionRunModel String (·.runId)
  events : Table OutboxEventModel String (·.eventId)

/-- The store before any call. -/
def MonitoringStore.empty : MonitoringStore := ⟨.empty, .empty, .empty, .empty⟩

def MonitoringStore.ofSource (source : SourceModel) (state : SourceState) : MonitoringStore where
  sources := ⟨[source], nodup_singleton _⟩
  states := ⟨[{ state with sourceId := source.sourceId }], nodup_singleton _⟩
  runs := .empty
  events := .empty

/-- `source_definition_from_model`. -/
def sourceDefinitionFromModel (model : SourceModel) : RegisteredDefinition :=
  model.toRegisteredDefinition

/-- `source_state_from_model`. -/
def sourceStateFromModel (model : SourceStateModel) : SourceState := model.toSourceState

/-! ## Registration -/

/-- Whether the schedule policy of a source leaves its scheduling on. -/
def scheduleEnabled (policy : JsonObject) : Bool :=
  (policy.get? "enabled").getD (.bool true) ≠ .bool false

def configuredRow (definition : RegisteredDefinition) : SourceModel :=
  { definition with managedBy := "config", enabled := true }

/-- A row of the configured registry that is no longer in it. -/
def retireUnconfigured (configured : List String) (row : SourceModel) : SourceModel :=
  if row.managedBy = "config" ∧ row.sourceId ∉ configured then { row with enabled := false }
  else row

/-- `sync_source_definitions`. -/
def syncSourceDefinitions (store : MonitoringStore) (definitions : List RegisteredDefinition) :
    List String × MonitoringStore :=
  let configured := definitions.map (·.sourceId)
  let sources := definitions.foldl (fun table definition => table.put (configuredRow definition))
    store.sources
  let retired := sources.modify (retireUnconfigured configured) (by
    intro row
    unfold retireUnconfigured
    split <;> rfl)
  (sortedSet configured, { store with sources := retired })

/-- One round of `ensure_source_states`. -/
def ensureSourceState (now : ℤ) (store : MonitoringStore) (sourceId : String) :
    Except Raised MonitoringStore := do
  let source ← fetch (store.sources.get? sourceId)
    (.valueError ("source definition missing for " ++ sourceId))
  match store.states.get? sourceId with
  | none =>
      let due := if scheduleEnabled source.schedulePolicy then some now else none
      return { store with states := store.states.put { sourceId, nextDueAt := due } }
  | some state =>
      if scheduleEnabled source.schedulePolicy = false then
        return { store with states := store.states.put { state with nextDueAt := none } }
      else if state.nextDueAt = none then
        return { store with states := store.states.put { state with nextDueAt := some now } }
      else return store

/-- `ensure_source_states`. -/
def ensureSourceStates (store : MonitoringStore) (sourceIds : List String) (now : ℤ) :
    Except Raised MonitoringStore :=
  sourceIds.foldlM (ensureSourceState now) store

/-- `synchronize_monitoring_sources`. -/
def synchronizeMonitoringSources (store : MonitoringStore)
    (definitions : List RegisteredDefinition) (now : ℤ) :
    Except Raised (List String × MonitoringStore) := do
  let (sourceIds, synced) := syncSourceDefinitions store definitions
  let ensured ← ensureSourceStates synced sourceIds now
  return (sourceIds, ensured)

end SecFusion.Monitoring
