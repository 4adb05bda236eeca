import SecFusion.Execution.Envelope

/-!
# The life of an execution run

The columns of `execution_runs` that say how far an execution has come, beside the
envelope that is never rewritten, and the calls of `ExecutionRunService` that write
them: a created execution is started, and one that is not finished is finished once.
-/

namespace SecFusion.Execution

open Foundations

inductive ExecutionStatus where
  | created
  | running
  | completed
  | failed
  | cancelled
  | timedOut
  | blocked
  deriving DecidableEq

def ExecutionStatus.value : ExecutionStatus → String
  | .created => "created"
  | .running => "running"
  | .completed => "completed"
  | .failed => "failed"
  | .cancelled => "cancelled"
  | .timedOut => "timed_out"
  | .blocked => "blocked"

/-- The statuses that `finish` gives an execution. -/
def ExecutionStatus.isFinal : ExecutionStatus → Bool
  | .created | .running => false
  | .completed | .failed | .cancelled | .timedOut | .blocked => true

/-- The columns of one row of `execution_runs` that are written after its envelope. -/
structure ExecutionProgress where
  executionId : String
  status : ExecutionStatus
  stopReason : Option String := none
  (startedAt finishedAt : Option ℤ := none)

/-- `execution_runs`: the envelopes, and how far each has come. -/
structure ExecutionStore where
  runs : ExecutionRuns
  progress : Table ExecutionProgress String (·.executionId)

def ExecutionStore.empty : ExecutionStore := ⟨.empty, .empty⟩

variable {store next : ExecutionStore} {executionId stopReason : String} {status : ExecutionStatus}
  {now : ℤ}

namespace ExecutionStore

/-- `ExecutionRunService.create`. -/
def create (store : ExecutionStore) (envelope : ExecutionEnvelope) :
    Except Raised (ExecutionEnvelope × ExecutionStore) := do
  let (answer, runs) ← createExecution store.runs envelope
  match store.progress.get? envelope.executionId with
  | some _ => return (answer, { store with runs })
  | none => do
      let progress ← fetch
        (store.progress.insert? { executionId := envelope.executionId, status := .created })
        (.integrityError "execution_runs_pkey")
      return (answer, { runs, progress })

/-- `_lock`. -/
def lock (store : ExecutionStore) (executionId : String) : Except Raised ExecutionProgress :=
  fetch (store.progress.get? executionId)
    (.lookupError ("execution run not found: " ++ executionId))

/-- The row after `start`. -/
def started (now : ℤ) (row : ExecutionProgress) : ExecutionProgress :=
  { row with status := .running, startedAt := some now }

theorem started_executionId (now : ℤ) (row : ExecutionProgress) :
    (started now row).executionId = row.executionId := rfl

/-- `ExecutionRunService.start`. -/
def start (store : ExecutionStore) (executionId : String) (now : ℤ) :
    Except Raised ExecutionStore := do
  let row ← store.lock executionId
  if row.status = .running then return store
  else do
    require (row.status = .created)
      (.valueError ("cannot start execution status=" ++ row.status.value))
    return { store with
      progress := store.progress.update executionId (started now) (started_executionId now) }

/-- The row after `finish`. -/
def finished (status : ExecutionStatus) (stopReason : String) (now : ℤ)
    (row : ExecutionProgress) : ExecutionProgress :=
  { row with status, stopReason := some stopReason, finishedAt := some now }

theorem finished_executionId (status : ExecutionStatus) (stopReason : String) (now : ℤ)
    (row : ExecutionProgress) : (finished status stopReason now row).executionId =
      row.executionId := rfl

/-- `ExecutionRunService.finish`. -/
def finish (store : ExecutionStore) (executionId : String) (status : ExecutionStatus)
    (stopReason : String) (now : ℤ) : Except Raised ExecutionStore := do
  require (status.isFinal = true) (.valueError "invalid terminal execution status")
  require (stopReason.length ≤ 128)
    (.valueError "execution stop_reason exceeds storage contract (128 characters)")
  let row ← store.lock executionId
  if row.status = status ∧ row.finishedAt ≠ none then return store
  else do
    require (row.status = .created ∨ row.status = .running)
      (.valueError ("execution already terminal: " ++ row.status.value))
    return { store with
      progress := store.progress.update executionId (finished status stopReason now)
        (finished_executionId status stopReason now) }

/-! ## What the calls do -/

/-- The status of an execution, if it is stored. -/
def status? (store : ExecutionStore) (executionId : String) : Option ExecutionStatus :=
  (store.progress.get? executionId).map (·.status)

theorem status?_eq_some : store.status? executionId = some status ↔
      ∃ row, store.progress.get? executionId = some row ∧ row.status = status :=
  map_eq_some_iff

/-- **A new execution is created**, and the others stay as they are. -/
theorem create_ok {envelope answer : ExecutionEnvelope}
    (created : store.create envelope = .ok (answer, next)) (other : String) :
    next.status? other =
      if envelope.executionId = other then some ((store.status? other).getD .created)
      else store.status? other := by
  unfold create at created
  obtain ⟨⟨stored, runs⟩, -, created⟩ := bind_eq_ok.1 created
  dsimp only at created
  cases present : store.progress.get? envelope.executionId with
  | some row =>
      rw [present] at created
      cases created
      split
      next same =>
        rw [← same, status?, status?, present]
        rfl
      next => rfl
  | none =>
      rw [present] at created
      obtain ⟨progress, inserted, created⟩ := fetch_bind_eq_ok.1 created
      cases created
      rw [status?, status?, get?_insert? inserted]
      split
      next same =>
        rw [← same, present]
        rfl
      next => rfl

/-- **An execution is started**: it is running, and the others stay as they are. -/
theorem start_ok (ok : store.start executionId now = .ok next) (other : String) :
    next.status? other = if executionId = other then some .running else store.status? other := by
  unfold start lock at ok
  obtain ⟨row, found, ok⟩ := fetch_bind_eq_ok.1 ok
  split at ok
  next running =>
    cases ok
    split
    next same => exact status?_eq_some.2 ⟨row, same ▸ found, running⟩
    next => rfl
  next =>
    obtain ⟨-, ok⟩ := require_bind_eq_ok.1 ok
    cases ok
    rw [status?, get?_update]
    split
    next same =>
      rw [← same, found]
      rfl
    next => rfl

/-- **An execution is finished**: it has the status it was given, and the others stay
as they are. -/
theorem finish_ok (ok : store.finish executionId status stopReason now = .ok next)
    (other : String) :
    next.status? other = if executionId = other then some status else store.status? other := by
  unfold finish lock at ok
  simp only [require_bind_eq_ok] at ok
  obtain ⟨-, -, ok⟩ := ok
  obtain ⟨row, found, ok⟩ := fetch_bind_eq_ok.1 ok
  split at ok
  next already =>
    cases ok
    split
    next same => exact status?_eq_some.2 ⟨row, same ▸ found, already.1⟩
    next => rfl
  next =>
    obtain ⟨-, ok⟩ := require_bind_eq_ok.1 ok
    cases ok
    rw [status?, get?_update]
    split
    next same =>
      rw [← same, found]
      rfl
    next => rfl

/-- An execution that is running can be finished, for a reason that fits its column. -/
theorem finish_of_running (running : store.status? executionId = some .running)
    (final : status.isFinal = true) (fits : stopReason.length ≤ 128) :
    ∃ next, store.finish executionId status stopReason now = .ok next := by
  obtain ⟨row, found, isRunning⟩ := status?_eq_some.1 running
  unfold finish lock
  rw [require_of final, require_of fits, found]
  have open' : row.status = .created ∨ row.status = .running := .inr isRunning
  simp only [ok_bind, fetch]
  split
  next => exact ⟨_, rfl⟩
  next =>
    rw [require_of open']
    exact ⟨_, rfl⟩

end ExecutionStore

end SecFusion.Execution
