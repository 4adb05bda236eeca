import SecFusion.TaskRuntime.Recovery

/-!
# No retry is swallowed

Every run that `recover_queued_role_tasks` reports as retried should have a new
dispatch event, and the retries of one run should be `stale_seconds` apart.

A retry is due when the events that dispatched the run before are stale, so two
retries of a run are `stale_seconds` apart as soon as each of them has left its event.
It leaves one unless an earlier retry lies in the same window (`retryWindow`).  Instants that
are `stale_seconds` apart lie in different windows, with one exception: the seconds are
truncated towards zero, so that the second before the epoch and the second after it are one
(`retryWindow_eq_iff`).

The invariant is about the log alone: an event under the key of a retry is the event of
a retry, and names the window of its own instant (`RetriesLogged`).
-/

namespace SecFusion.TaskRuntime

open Foundations Execution

/-! ## Windows -/

/-- The instants are `stale_seconds` apart and lie in one window: the earlier in the
last second before the epoch, the later in the first window after it. -/
def SharesWindow (staleSeconds first second : ℤ) : Prop :=
  (-1000000 < first ∧ first < 0) ∧ first + staleFor staleSeconds ≤ second ∧
    second < staleFor staleSeconds

instance sharesWindowDecidable (staleSeconds first second : ℤ) :
    Decidable (SharesWindow staleSeconds first second) :=
  inferInstanceAs (Decidable (_ ∧ _ ∧ _))

/-- The whole seconds of an instant before the epoch. -/
theorem tdiv_of_neg {instant : ℤ} (before : instant < 0) :
    instant.tdiv 1000000 = -(-instant / 1000000) := by
  have mirrored := Int.neg_tdiv instant 1000000
  rw [Int.tdiv_eq_ediv_of_nonneg (by omega)] at mirrored
  omega

variable {staleSeconds first second now : ℤ} {runId key eventId : String} {c : Char}
  {rest : List Char} {event : TaskEventModel} {store next : TaskStore} {view : TaskRun}
  {tick : RecoveryTick} {state : RecoveryState} {report reached : RecoveryReport}
  {instants : List ℤ} {ops : List RecoveryOp}

theorem retryWindow_eq_ediv (positive : 1 ≤ staleSeconds) (instant : ℤ) :
    retryWindow staleSeconds instant = instant.tdiv 1000000 / staleSeconds :=
  Int.fdiv_eq_ediv_of_nonneg _ (by omega)

/-- Seconds that are `stale_seconds` apart lie in different windows. -/
theorem ediv_lt_of_add_le (positive : 1 ≤ staleSeconds) (stale : first + staleSeconds ≤ second) :
    first / staleSeconds < second / staleSeconds := by
  have next : (first + staleSeconds) / staleSeconds = first / staleSeconds + 1 := by
    rw [Int.add_ediv_of_dvd_right (dvd_refl staleSeconds), Int.ediv_self (by omega)]
  have ordered := Int.ediv_le_ediv (show 0 < staleSeconds by omega) stale
  omega

/-- **When two windows are one**: instants that are `stale_seconds` apart share a window
exactly around the epoch. -/
theorem retryWindow_eq_iff (positive : 1 ≤ staleSeconds)
    (stale : first + staleFor staleSeconds ≤ second) :
    retryWindow staleSeconds first = retryWindow staleSeconds second ↔
      SharesWindow staleSeconds first second := by
  rw [retryWindow_eq_ediv positive, retryWindow_eq_ediv positive]
  unfold SharesWindow
  unfold staleFor at stale ⊢
  rcases lt_or_ge first 0 with before | after
  · rcases lt_or_ge second 0 with still | passed
    · have apart : first.tdiv 1000000 + staleSeconds ≤ second.tdiv 1000000 := by
        rw [tdiv_of_neg before, tdiv_of_neg still]
        omega
      have differ := ediv_lt_of_add_le positive apart
      constructor
      · intro same
        omega
      · rintro ⟨⟨near, -⟩, -, -⟩
        omega
    · rw [tdiv_of_neg before, Int.tdiv_eq_ediv_of_nonneg passed]
      have later : 0 ≤ second / 1000000 / staleSeconds :=
        Int.ediv_nonneg (by omega) (by omega)
      rcases lt_or_ge (-1000000) first with near | far
      · -- The second of `first` is zero, as if it came after the epoch.
        have zero : -(-first / 1000000) = 0 := by omega
        rw [zero, Int.zero_ediv]
        have inWindow : second / 1000000 / staleSeconds < 1 ↔ second < staleSeconds * 1000000 := by
          rw [Int.ediv_lt_iff_lt_mul (by omega), Int.ediv_lt_iff_lt_mul (by omega), one_mul]
        constructor
        · intro same
          exact ⟨⟨near, before⟩, stale, inWindow.1 (by omega)⟩
        · rintro ⟨-, -, inside⟩
          have below := inWindow.2 inside
          omega
      · have negative : -(-first / 1000000) / staleSeconds < 0 :=
          Int.ediv_neg_of_neg_of_pos (by omega) (by omega)
        constructor
        · intro same
          omega
        · rintro ⟨⟨near, -⟩, -, -⟩
          omega
  · have passed : 0 ≤ second := by omega
    have apart : first.tdiv 1000000 + staleSeconds ≤ second.tdiv 1000000 := by
      rw [Int.tdiv_eq_ediv_of_nonneg after, Int.tdiv_eq_ediv_of_nonneg passed]
      omega
    have differ := ediv_lt_of_add_le positive apart
    constructor
    · intro same
      omega
    · rintro ⟨⟨-, before⟩, -, -⟩
      omega

/-! ## Keys -/

theorem isRetryKey_retryKey (runId : String) (staleSeconds instant : ℤ) :
    isRetryKey (retryKey runId staleSeconds instant) = true := by
  rw [isRetryKey, retryKey, Text.afterHead?_append]
  rfl

/-- Two retries of one run have one key only in one window. -/
theorem retryWindow_of_retryKey
    (same : retryKey runId staleSeconds first = retryKey runId staleSeconds second) :
    retryWindow staleSeconds first = retryWindow staleSeconds second := by
  unfold retryKey at same
  have texts : (retryWindow staleSeconds first).repr = (retryWindow staleSeconds second).repr := by
    rw [← toList_inj] at same ⊢
    simpa [Int.toString_eq_repr] using same
  exact Int.repr_inj.1 texts

/-- A key that does not begin with `r`. -/
theorem isRetryKey_of_start (different : 'r' ≠ c) (starts : key.toList = c :: rest) :
    isRetryKey key = false := by
  have head : retryHead.toList = 'r' :: "ole-dispatch-recovery:".toList := by decide
  rw [isRetryKey, Text.afterHead?_of_ne head starts different]
  rfl

/-- A key that begins with `role-` and not with `role-d`. -/
theorem isRetryKey_role (different : 'd' ≠ c) (starts : key.toList = "role-".toList ++ c :: rest) :
    isRetryKey key = false := by
  have whole : key = "role-" ++ ofList (c :: rest) := by
    apply toList_inj.1
    rw [toList_append, starts]
    exact congrArg _ String.toList_ofList.symm
  have headWhole : retryHead = "role-" ++ "dispatch-recovery:" := by decide
  have head : "dispatch-recovery:".toList = 'd' :: "ispatch-recovery:".toList := by decide
  rw [isRetryKey, headWhole, whole, Text.afterHead?_append_append,
    Text.afterHead?_of_ne head toList_ofList different]
  rfl

theorem isRetryKey_created (request : CreateTaskRun) (runId : String) :
    isRetryKey (createdEvent request runId).idempotencyKey = false := by
  have starts : (createdEvent request runId).idempotencyKey.toList =
      't' :: ("ask-created:" ++ runId).toList := by
    simp [createdEvent]
  exact isRetryKey_of_start (by decide) starts

theorem isRetryKey_claimed (run : TaskRunModel) (producer streamName : String) :
    isRetryKey (claimedEvent run producer streamName).idempotencyKey = false := by
  have starts : (claimedEvent run producer streamName).idempotencyKey.toList = "role-".toList ++
      'c' :: ("laim:" ++ run.runId ++ ":" ++ toString run.contextRevision).toList := by
    simp [claimedEvent]
  exact isRetryKey_role (by decide) starts

theorem isRetryKey_contextUpdated (runId : String) (manifest : ContextManifest)
    (producer streamName : String) :
    isRetryKey (contextUpdatedEvent runId manifest producer streamName).idempotencyKey = false := by
  have starts : (contextUpdatedEvent runId manifest producer streamName).idempotencyKey.toList =
      'c' :: ("ontext-updated:" ++ contextManifestRef manifest).toList := by
    simp [contextUpdatedEvent]
  exact isRetryKey_of_start (by decide) starts

theorem isRetryKey_wake (parentRunId source : String) :
    isRetryKey (wakeIdempotencyKey parentRunId source) = false := by
  have starts : (wakeIdempotencyKey parentRunId source).toList =
      'd' :: ("ependency-wake:" ++ parentRunId ++ ":" ++ source).toList := by
    simp [wakeIdempotencyKey, wakeKeyHead]
  exact isRetryKey_of_start (by decide) starts

theorem isRetryKey_closing (closing : RecoveryClosing) (tick : RecoveryTick) (runId : String) :
    isRetryKey (closing.request tick runId).idempotencyKey = false := by
  show isRetryKey (closing.keyHead ++ runId) = false
  cases closing with
  | executionUnavailable =>
      have starts : ("role-recovery:invalid-execution:" ++ runId).toList =
          "role-".toList ++ 'r' :: ("ecovery:invalid-execution:" ++ runId).toList := by simp
      exact isRetryKey_role (by decide) starts
  | deadlineBeforeStart =>
      have starts : ("role-recovery:deadline:" ++ runId).toList =
          "role-".toList ++ 'r' :: ("ecovery:deadline:" ++ runId).toList := by simp
      exact isRetryKey_role (by decide) starts
  | deadlineExceeded =>
      have starts : ("execution-recovery:deadline:" ++ runId).toList =
          'e' :: ("xecution-recovery:deadline:" ++ runId).toList := by simp
      exact isRetryKey_of_start (by decide) starts

/-! ## Appending -/

/-- Events have been appended to the log, each of them an allowed one. -/
def Appends (allowed : TaskEventModel → Prop) (store next : TaskStore) : Prop :=
  ∃ added, next.events.rows = store.events.rows ++ added ∧ ∀ event ∈ added, allowed event

namespace Appends

variable {allowed : TaskEventModel → Prop}

theorem of_same (same : next.events = store.events) : Appends allowed store next :=
  ⟨[], by rw [same, append_nil], forall_mem_nil _⟩

theorem refl (store : TaskStore) : Appends allowed store store := of_same rfl

theorem trans {last : TaskStore} (first : Appends allowed store next)
    (second : Appends allowed next last) : Appends allowed store last := by
  obtain ⟨added, rows, each⟩ := first
  obtain ⟨more, moreRows, eachMore⟩ := second
  refine ⟨added ++ more, by rw [moreRows, rows, append_assoc], fun event member => ?_⟩
  rcases mem_append.1 member with early | late
  · exact each event early
  · exact eachMore event late

theorem imp {wider : TaskEventModel → Prop} (appends : Appends allowed store next)
    (widens : ∀ event, allowed event → wider event) : Appends wider store next := by
  obtain ⟨added, rows, each⟩ := appends
  exact ⟨added, rows, fun event member => widens event (each event member)⟩

theorem mem (appends : Appends allowed store next) (member : event ∈ store.events.rows) :
    event ∈ next.events.rows := by
  obtain ⟨added, rows, -⟩ := appends
  rw [rows]
  exact mem_append_left added member

theorem of_mem (appends : Appends allowed store next) (member : event ∈ next.events.rows) :
    event ∈ store.events.rows ∨ allowed event := by
  obtain ⟨added, rows, each⟩ := appends
  rw [rows] at member
  rcases mem_append.1 member with old | new
  · exact .inl old
  · exact .inr (each event new)

theorem of_logs {moved : TaskStore} {request : EventRequest}
    (logs : Logs moved request eventId now next) (sameLog : moved.events = store.events)
    (allows : ∀ run seq, allowed (newEvent run request seq eventId now)) :
    Appends allowed store next := by
  rcases logs.events with ⟨-, rfl⟩ | ⟨event, adds, rows, -⟩
  · exact of_same sameLog
  · obtain ⟨run, -, rfl⟩ := adds.run
    refine ⟨[_], by rw [rows, sameLog], fun event member => ?_⟩
    obtain rfl := mem_singleton.1 member
    exact allows run _

end Appends

/-! ## The calls -/

/-- The caller of a transition or of an append does not log under the key of a retry. -/
def LeavesRetryKeys : RecoveryOp → Prop
  | .call (.transition request _ _) => isRetryKey request.idempotencyKey = false
  | .call (.append request _ _) => isRetryKey request.idempotencyKey = false
  | .call (.create ..) | .call (.createChild ..) | .call (.claim ..) | .call (.updateContext ..)
  | .call (.consume ..) | .deliver _ | .createExecution _ | .startExecution .. | .finishExecution ..
  | .recover _ | .expire .. => True

instance leavesRetryKeysDecidable : (op : RecoveryOp) → Decidable (LeavesRetryKeys op)
  | .call (.transition ..) | .call (.append ..) => inferInstanceAs (Decidable (_ = false))
  | .call (.create ..) | .call (.createChild ..) | .call (.claim ..) | .call (.updateContext ..)
  | .call (.consume ..) | .deliver _ | .createExecution _ | .startExecution .. | .finishExecution ..
  | .recover _ | .expire .. => inferInstanceAs (Decidable True)

/-- The event is not logged under the key of a retry. -/
def Ordinary (event : TaskEventModel) : Prop := isRetryKey event.idempotencyKey = false

theorem appends_of_create {request : CreateTaskRun} {uuid : String}
    (ok : createTaskRun store request uuid eventId now = .ok (view, next)) :
    Appends Ordinary store next := by
  obtain ⟨grown, runs, contractRow, contextVersionId, grows, -, -, -, -, -, logs⟩ :=
    createTaskRun_ok ok
  exact .of_logs logs grows.events fun _ _ => isRetryKey_created request _

theorem appends_of_transition {request : TransitionTaskRun}
    (ordinary : isRetryKey request.idempotencyKey = false)
    (ok : transitionTaskRun store request eventId now = .ok (view, next)) :
    Appends Ordinary store next := by
  obtain ⟨run, -, -, -, logs⟩ := transitionTaskRun_ok ok
  exact .of_logs logs rfl fun _ _ => ordinary

/-- No call of the task runtime logs under the key of a retry by itself. -/
theorem appends_of_ok {op : TaskOp} {answer : TaskAnswer} (leaves : LeavesRetryKeys (.call op))
    (ok : taskService op store = .ok (answer, next)) :
    Appends Ordinary store next := by
  cases taskService_called ok with
  | create called =>
      exact appends_of_create called
  | createChild called =>
      obtain ⟨manifest, created⟩ := createChildTaskRun_ok called
      exact appends_of_create created
  | @claim _ streamName producer _ _ _ called =>
      obtain ⟨run, found, ⟨-, -, rfl⟩ | ⟨queued, -, logs⟩⟩ := claimQueuedTaskRun_ok called
      · exact .refl _
      · exact .of_logs logs rfl fun _ _ => isRetryKey_claimed run producer streamName
  | @updateContext runId manifest streamName producer _ _ _ called =>
      obtain ⟨run, grown, contextVersionId, -, -, grows, logs⟩ := updateTaskContext_ok called
      exact .of_logs logs grows.events fun _ _ =>
        isRetryKey_contextUpdated runId manifest producer streamName
  | transition called =>
      exact appends_of_transition leaves called
  | append called =>
      exact .of_logs (appendTaskEvent_ok called) rfl fun _ _ => leaves
  | consume called =>
      obtain ⟨event, -, processed⟩ := consumeEvent_ok called
      rcases processEvent_ok processed with ⟨-, -, rfl⟩ | ⟨parent, view, -, -, moved⟩
      · exact .refl _
      · refine appends_of_transition ?_ moved
        exact isRetryKey_wake parent event.eventId

theorem closeRun_ok {closing : RecoveryClosing} {next : RecoveryState} {run : TaskRunModel}
    (ok : closeRun closing tick state run = .ok next) :
    Appends Ordinary state.tasks next.tasks := by
  unfold closeRun at ok
  obtain ⟨⟨view, tasks⟩, moved, ok⟩ := bind_eq_ok.1 ok
  have appends := appends_of_transition (isRetryKey_closing closing tick run.runId) moved
  dsimp only at ok
  split at ok
  next =>
    cases ok
    exact appends
  next execution found =>
    split at ok
    next =>
      obtain ⟨executions, -, ok⟩ := bind_eq_ok.1 ok
      cases ok
      exact appends
    next =>
      cases ok
      exact appends

theorem expireStaleRunningTasks_ok {stale : ℤ} {next : RecoveryState}
    (ok : expireStaleRunningTasks stale state tick = .ok (report, next)) :
    report.retried = [] ∧ Appends Ordinary state.tasks next.tasks := by
  unfold expireStaleRunningTasks at ok
  obtain ⟨-, ok⟩ := require_bind_eq_ok.1 ok
  obtain ⟨⟨last, lastReport⟩, looped, ok⟩ := bind_eq_ok.1 ok
  cases ok
  refine foldlM_invariant (fun reached : RecoveryState × RecoveryReport =>
    reached.2.retried = [] ∧ Appends Ordinary state.tasks reached.1.tasks) ?_ ⟨rfl, .refl _⟩ looped
  rintro run - ⟨reached, reachedReport⟩ ⟨after, afterReport⟩ ⟨none', appends⟩ round
  unfold expireRun at round
  dsimp only at round
  split at round
  next execution envelope _ _ =>
    split at round
    next =>
      obtain ⟨closed, closes, round⟩ := bind_eq_ok.1 round
      cases round
      exact ⟨none', appends.trans (closeRun_ok closes)⟩
    next =>
      cases round
      exact ⟨none', appends⟩
  next =>
    cases round
    exact ⟨none', appends⟩

/-! ## One retry -/

instance emittedAfterTotal : Std.Total EmittedAfter where
  total first second := by
    unfold EmittedAfter
    omega

instance emittedAfterTrans : IsTrans TaskEventModel EmittedAfter where
  trans first second third left right := by
    unfold EmittedAfter at *
    omega

/-- When a run does not wait for its last dispatch, all its dispatches are stale. -/
theorem stale_of_not_awaits {threshold : ℤ} (due : ¬ state.AwaitsDispatch threshold runId)
    (member : event ∈ state.tasks.eventsOf runId) (dispatches : isDispatchEvent event = true) :
    event.emittedAt ≤ threshold := by
  have listed : event ∈ (state.tasks.eventsOf runId).filter isDispatchEvent :=
    mem_filter.2 ⟨member, dispatches⟩
  cases last : lastDispatchEvent? state.tasks runId with
  | none =>
      have sorted := (mem_insertionSort EmittedAfter).2 listed
      rw [List.head?_eq_none_iff.1 last] at sorted
      exact absurd sorted not_mem_nil
  | some latest =>
      have follows : EmittedAfter latest event := (of_head?_insertionSort last).2 event listed
      have notLater : ¬ threshold < latest.emittedAt := by
        intro recent
        exact due ⟨latest, last, .inr (.inl recent)⟩
      unfold EmittedAfter at follows
      omega

/-- The event is that of a retry, and its key names the window of its instant. -/
structure IsRetry (staleSeconds : ℤ) (event : TaskEventModel) : Prop where
  key : event.idempotencyKey = retryKey event.taskRunId staleSeconds event.emittedAt
  dispatches : isDispatchEvent event = true

theorem isRetry_newEvent (staleSeconds : ℤ) (tick : RecoveryTick) (run owner : TaskRunModel)
    (seq : ℕ) (eventId : String) :
    IsRetry staleSeconds (newEvent owner (retryEvent staleSeconds tick run) seq eventId
      tick.instant) where
  key := rfl
  dispatches := by simp [isDispatchEvent, newEvent, retryEvent]

/-- **What is logged under the keys of retries** are the events of retries, at these
instants. -/
def RetriesLogged (staleSeconds : ℤ) (instants : List ℤ) (store : TaskStore) : Prop :=
  ∀ event ∈ store.events.rows, isRetryKey event.idempotencyKey = true →
    IsRetry staleSeconds event ∧ event.emittedAt ∈ instants

theorem RetriesLogged.appends {later : List ℤ} (logged : RetriesLogged staleSeconds instants store)
    (appends : Appends (fun event => Ordinary event ∨
      (IsRetry staleSeconds event ∧ event.emittedAt ∈ later)) store next) :
    RetriesLogged staleSeconds (instants ++ later) next := by
  intro event member retryKeyed
  rcases appends.of_mem member with old | ordinary | ⟨retry, listed⟩
  · obtain ⟨retry, listed⟩ := logged event old retryKeyed
    exact ⟨retry, mem_append_left later listed⟩
  · rw [Ordinary, retryKeyed] at ordinary
    cases ordinary
  · exact ⟨retry, mem_append_right instants listed⟩

/-- The run has an event that dispatches it at the instant and was not there before. -/
def NewDispatch (before after : RecoveryState) (instant : ℤ) (runId : String) : Prop :=
  ∃ event ∈ after.tasks.eventsOf runId, isDispatchEvent event = true ∧
    event.emittedAt = instant ∧ ∀ other ∈ before.tasks.events.rows, other.eventId ≠ event.eventId

instance newDispatchDecidable (before after : RecoveryState) (instant : ℤ) (runId : String) :
    Decidable (NewDispatch before after instant runId) :=
  inferInstanceAs (Decidable (∃ event ∈ after.tasks.eventsOf runId, _ ∧ _ ∧ _))

/-- **A due retry appends its event**, when no earlier retry shares its window. -/
theorem newDispatch_of_logs {next : RecoveryState} {run : TaskRunModel}
    (positive : 1 ≤ staleSeconds) (logged : RetriesLogged staleSeconds instants state.tasks)
    (apart : ∀ earlier ∈ instants, ¬ SharesWindow staleSeconds earlier tick.instant)
    (due : ¬ state.AwaitsDispatch (tick.instant - staleFor staleSeconds) run.runId)
    (logs : Logs state.tasks (retryEvent staleSeconds tick run) (tick.eventIds run.runId)
      tick.instant next.tasks) : NewDispatch state next tick.instant run.runId := by
  rcases logs.events with ⟨⟨used, member, sameKey⟩, -⟩ | ⟨event, adds, rows, -⟩
  · -- The key is used: by a stale retry of the run, whose window is another one.
    have key : used.idempotencyKey = retryKey run.runId staleSeconds tick.instant := sameKey
    obtain ⟨stored, ofRun⟩ := mem_eventsOf.1 member
    have ofRun : used.taskRunId = run.runId := ofRun
    obtain ⟨retry, earlier⟩ := logged used stored (by rw [key]; exact isRetryKey_retryKey ..)
    have stale := stale_of_not_awaits due member retry.dispatches
    have keys : retryKey run.runId staleSeconds used.emittedAt =
        retryKey run.runId staleSeconds tick.instant := by
      rw [← key, retry.key, ofRun]
    have shares := (retryWindow_eq_iff positive (by omega)).1 (retryWindow_of_retryKey keys)
    exact absurd shares (apart _ earlier)
  · obtain ⟨owner, -, made⟩ := adds.run
    refine ⟨event, mem_eventsOf.2 ⟨?_, by rw [made]; rfl⟩, ?_, by rw [made]; rfl, ?_⟩
    · rw [rows]
      exact mem_append_right _ mem_cons_self
    · rw [made]
      exact (isRetry_newEvent staleSeconds tick run owner _ _).dispatches
    · intro other stored
      have named : event.eventId = tick.eventIds run.runId := by rw [made]; rfl
      rw [named]
      exact adds.freshId other stored

/-! ## One tick -/

/-- **What a round can have done**: the run is closed, or waits, or is retried. -/
theorem recoverRun_ok {next : RecoveryState} {run : TaskRunModel}
    (ok : recoverRun staleSeconds tick (state, report) run = .ok (next, reached)) :
    (reached.retried = report.retried ∧ Appends Ordinary state.tasks next.tasks) ∨
      (reached.retried = report.retried ++ [run.runId] ∧
        ¬ state.AwaitsDispatch (tick.instant - staleFor staleSeconds) run.runId ∧
        Logs state.tasks (retryEvent staleSeconds tick run) (tick.eventIds run.runId) tick.instant
          next.tasks) := by
  unfold recoverRun at ok
  dsimp only at ok
  split at ok
  next =>
    obtain ⟨closed, closes, ok⟩ := bind_eq_ok.1 ok
    cases ok
    exact .inl ⟨rfl, closeRun_ok closes⟩
  next envelope _ =>
    split at ok
    next =>
      obtain ⟨closed, closes, ok⟩ := bind_eq_ok.1 ok
      cases ok
      exact .inl ⟨rfl, closeRun_ok closes⟩
    next =>
      split at ok
      next =>
        cases ok
        exact .inl ⟨rfl, .refl _⟩
      next due =>
        obtain ⟨⟨result, tasks⟩, appended, ok⟩ := bind_eq_ok.1 ok
        cases ok
        exact .inr ⟨rfl, due, appendTaskEvent_ok appended⟩

def TickEvent (staleSeconds instant : ℤ) (event : TaskEventModel) : Prop :=
  Ordinary event ∨ (IsRetry staleSeconds event ∧ event.emittedAt ∈ [instant])

theorem appends_of_round {next : RecoveryState} {run : TaskRunModel}
    (ok : recoverRun staleSeconds tick (state, report) run = .ok (next, reached)) :
    Appends (TickEvent staleSeconds tick.instant) state.tasks next.tasks := by
  rcases recoverRun_ok ok with ⟨-, appends⟩ | ⟨-, -, logs⟩
  · exact appends.imp fun event ordinary => .inl ordinary
  · refine .of_logs logs rfl fun owner seq => .inr ⟨?_, mem_singleton.2 rfl⟩
    exact isRetry_newEvent staleSeconds tick run owner seq _

theorem recoverQueuedRoleTasks_ok {next : RecoveryState}
    (ok : recoverQueuedRoleTasks staleSeconds state tick = .ok (report, next)) :
    1 ≤ staleSeconds ∧ ∃ runs : List TaskRunModel,
      runs.foldlM (recoverRun staleSeconds tick) (state, {}) = .ok (next, report) := by
  unfold recoverQueuedRoleTasks at ok
  obtain ⟨bounds, ok⟩ := require_bind_eq_ok.1 ok
  obtain ⟨⟨last, lastReport⟩, looped, ok⟩ := bind_eq_ok.1 ok
  cases ok
  exact ⟨bounds.1, _, looped⟩

theorem appends_of_recover {next : RecoveryState}
    (ok : recoverQueuedRoleTasks staleSeconds state tick = .ok (report, next)) :
    Appends (TickEvent staleSeconds tick.instant) state.tasks next.tasks := by
  obtain ⟨-, runs, looped⟩ := recoverQueuedRoleTasks_ok ok
  refine foldlM_invariant (fun reached : RecoveryState × RecoveryReport =>
    Appends (TickEvent staleSeconds tick.instant) state.tasks reached.1.tasks) ?_ (.refl _) looped
  rintro run - ⟨before, beforeReport⟩ ⟨after, afterReport⟩ appends round
  exact appends.trans (appends_of_round round)

/-- All dispatches that a run has are stale at the instant. -/
def DispatchesStale (staleSeconds : ℤ) (state : RecoveryState) (instant : ℤ) (runId : String) :
    Prop :=
  ∀ event ∈ state.tasks.eventsOf runId, isDispatchEvent event = true →
    event.emittedAt + staleFor staleSeconds ≤ instant

/-- **The runs a tick reports** had stale dispatches only, and have a new one. -/
theorem retried_of_recover {next : RecoveryState}
    (logged : RetriesLogged staleSeconds instants state.tasks)
    (apart : ∀ earlier ∈ instants, ¬ SharesWindow staleSeconds earlier tick.instant)
    (ok : recoverQueuedRoleTasks staleSeconds state tick = .ok (report, next)) :
    ∀ runId ∈ report.retried, DispatchesStale staleSeconds state tick.instant runId ∧
      NewDispatch state next tick.instant runId := by
  obtain ⟨positive, runs, looped⟩ := recoverQueuedRoleTasks_ok ok
  have apartNow : ∀ earlier ∈ instants ++ [tick.instant],
      ¬ SharesWindow staleSeconds earlier tick.instant := by
    intro earlier listed
    rcases mem_append.1 listed with old | now
    · exact apart earlier old
    · obtain rfl := mem_singleton.1 now
      rintro ⟨-, stale, -⟩
      unfold staleFor at stale
      omega
  -- What the rounds before have appended is neither forgotten nor taken for stale.
  refine (foldlM_invariant (fun reached : RecoveryState × RecoveryReport =>
    Appends (TickEvent staleSeconds tick.instant) state.tasks reached.1.tasks ∧
      ∀ runId ∈ reached.2.retried, DispatchesStale staleSeconds state tick.instant runId ∧
        NewDispatch state reached.1 tick.instant runId) ?_
    ⟨.refl _, forall_mem_nil _⟩ looped).2
  rintro run - ⟨before, beforeReport⟩ ⟨after, afterReport⟩ ⟨appends, reported⟩ round
  have step := appends_of_round round
  have earlier : ∀ runId ∈ beforeReport.retried,
      DispatchesStale staleSeconds state tick.instant runId ∧
        NewDispatch state after tick.instant runId := by
    intro runId member
    obtain ⟨stale, event, inLog, dispatches, now, fresh⟩ := reported runId member
    obtain ⟨stored, ofRun⟩ := mem_eventsOf.1 inLog
    exact ⟨stale, event, mem_eventsOf.2 ⟨step.mem stored, ofRun⟩, dispatches, now, fresh⟩
  refine ⟨appends.trans step, ?_⟩
  rcases recoverRun_ok round with ⟨same, -⟩ | ⟨grown, due, logs⟩
  · rw [same]
    exact earlier
  · intro runId member
    rw [grown, mem_append, mem_singleton] at member
    rcases member with old | rfl
    · exact earlier runId old
    · have loggedNow := logged.appends appends
      obtain ⟨event, inLog, dispatches, now, fresh⟩ :=
        newDispatch_of_logs positive loggedNow apartNow due logs
      refine ⟨fun event inLog dispatches => ?_, event, inLog, dispatches, now, ?_⟩
      · obtain ⟨stored, ofRun⟩ := mem_eventsOf.1 inLog
        have still := mem_eventsOf.2 ⟨appends.mem stored, ofRun⟩
        have stale := stale_of_not_awaits due still dispatches
        omega
      · exact fun other stored => fresh other (appends.mem stored)

/-! ## Runs of the system -/

/-- **A step** appends ordinary events and those of its own retries. -/
theorem appends_of_step {next : RecoveryState} {op : RecoveryOp} (leaves : LeavesRetryKeys op)
    (ok : recoverySystem staleSeconds op state = .ok (report, next)) :
    Appends (fun event => Ordinary event ∨
      (IsRetry staleSeconds event ∧ event.emittedAt ∈ recoveryInstants [op]))
      state.tasks next.tasks := by
  cases op with
  | call op =>
      obtain ⟨⟨view, tasks⟩, called, ok⟩ := bind_eq_ok.1 ok
      cases ok
      exact (appends_of_ok leaves called).imp fun event ordinary => .inl ordinary
  | deliver tick =>
      cases ok
      exact .of_same (sameEvents_tick state.dispatch tick).events
  | createExecution envelope =>
      obtain ⟨⟨stored, executions⟩, -, ok⟩ := bind_eq_ok.1 ok
      cases ok
      exact .refl _
  | startExecution executionId now =>
      obtain ⟨executions, -, ok⟩ := bind_eq_ok.1 ok
      cases ok
      exact .refl _
  | finishExecution executionId status stopReason now =>
      obtain ⟨executions, -, ok⟩ := bind_eq_ok.1 ok
      cases ok
      exact .refl _
  | recover tick => exact appends_of_recover ok
  | expire stale tick =>
      exact (expireStaleRunningTasks_ok ok).2.imp fun event ordinary => .inl ordinary

theorem recoveryInstants_append (first second : List RecoveryOp) :
    recoveryInstants (first ++ second) = recoveryInstants first ++ recoveryInstants second :=
  filterMap_append

/-- No event is forgotten. -/
theorem mem_events_run (leaves : ∀ op ∈ ops, LeavesRetryKeys op)
    (stored : event ∈ state.tasks.events.rows) :
    event ∈ (run (recoverySystem staleSeconds) state ops).tasks.events.rows :=
  run_invariant_along
    (fun (_ : RecoveryState) _ _ _ stored here ok => (appends_of_step here ok).mem stored)
    stored ops (.of_forall leaves)

/-- **What a run logs under the keys of retries** comes from its own recoveries, or was
there before. -/
theorem retriesLogged_run (leaves : ∀ op ∈ ops, LeavesRetryKeys op)
    (logged : RetriesLogged staleSeconds instants state.tasks) :
    RetriesLogged staleSeconds (instants ++ recoveryInstants ops)
      (run (recoverySystem staleSeconds) state ops).tasks := by
  induction ops generalizing instants state with
  | nil =>
      rw [recoveryInstants, List.filterMap_nil, append_nil]
      exact logged
  | cons op rest ih =>
      have here := leaves op mem_cons_self
      have step : RetriesLogged staleSeconds (instants ++ recoveryInstants [op])
          (transact (recoverySystem staleSeconds) state op).tasks := by
        refine transact_induction (motive := fun next : RecoveryState =>
          RetriesLogged staleSeconds (instants ++ recoveryInstants [op]) next.tasks) ?_ ?_
        · intro event stored retryKeyed
          obtain ⟨retry, listed⟩ := logged event stored retryKeyed
          exact ⟨retry, mem_append_left _ listed⟩
        · intro report next ok
          exact logged.appends (appends_of_step here ok)
      have later := ih (fun other member => leaves other (mem_cons_of_mem _ member)) step
      rw [append_assoc, ← recoveryInstants_append] at later
      exact later

/-- **Retries are never swallowed**: every run that a recovery reports as retried has a
new dispatch, and the retries of one run are `stale_seconds` apart. -/
def NeverSwallowed (staleSeconds : ℤ) (ops : List RecoveryOp) : Prop :=
  ∀ before tick after report next, ops = before ++ .recover tick :: after →
    recoverQueuedRoleTasks staleSeconds (recoveryStateAfter staleSeconds before) tick =
      .ok (report, next) →
    ∀ runId ∈ report.retried,
      NewDispatch (recoveryStateAfter staleSeconds before) next tick.instant runId ∧
      ∀ early earlier between earlierReport reached,
        before = early ++ .recover earlier :: between →
        recoverQueuedRoleTasks staleSeconds (recoveryStateAfter staleSeconds early) earlier =
          .ok (earlierReport, reached) →
        runId ∈ earlierReport.retried →
          earlier.instant + staleFor staleSeconds ≤ tick.instant

/-- **Retries are not swallowed away from the epoch**, whatever the calls, deliveries
and other recoveries between them.  The instants need not be ordered. -/
theorem retries_not_swallowed (staleSeconds : ℤ) (ops : List RecoveryOp)
    (leaves : ∀ op ∈ ops, LeavesRetryKeys op)
    (apart : (recoveryInstants ops).Pairwise fun earlier later =>
      ¬ SharesWindow staleSeconds earlier later) : NeverSwallowed staleSeconds ops := by
  have begins : RetriesLogged staleSeconds [] RecoveryState.initial.tasks := forall_mem_nil _
  have loggedAfter : ∀ before after, ops = before ++ after →
      RetriesLogged staleSeconds (recoveryInstants before)
        (recoveryStateAfter staleSeconds before).tasks := by
    rintro before after rfl
    exact retriesLogged_run (fun op member => leaves op (mem_append_left _ member)) begins
  have apartAt : ∀ before tick after, ops = before ++ .recover tick :: after →
      ∀ earlier ∈ recoveryInstants before, ¬ SharesWindow staleSeconds earlier tick.instant := by
    rintro before tick after rfl earlier listed
    rw [recoveryInstants_append, pairwise_append] at apart
    exact apart.2.2 earlier listed tick.instant mem_cons_self
  intro before tick after report next split answered runId member
  obtain ⟨stale, fresh⟩ := retried_of_recover (loggedAfter before _ split)
    (apartAt before tick after split) answered runId member
  refine ⟨fresh, ?_⟩
  rintro early earlier between earlierReport reached rfl earlierAnswered earlierMember
  have earlierSplit : ops = early ++ .recover earlier :: (between ++ .recover tick :: after) := by
    rw [split, append_assoc]
    rfl
  obtain ⟨-, event, inLog, dispatches, emitted, -⟩ :=
    retried_of_recover (loggedAfter early _ earlierSplit) (apartAt early earlier _ earlierSplit)
      earlierAnswered runId earlierMember
  obtain ⟨stored, ofRun⟩ := mem_eventsOf.1 inLog
  -- The event of the earlier retry is in the log that the later tick reads.
  have still : event ∈ (recoveryStateAfter staleSeconds
      (early ++ .recover earlier :: between)).tasks.eventsOf runId := by
    have committed : transact (recoverySystem staleSeconds) (recoveryStateAfter staleSeconds early)
        (.recover earlier) = reached := transact_of_ok earlierAnswered
    have leavesBetween : ∀ op ∈ between, LeavesRetryKeys op := by
      intro op member
      exact leaves op (by rw [split]; simp [member])
    rw [recoveryStateAfter, run_append, run_cons, ← recoveryStateAfter, committed]
    exact mem_eventsOf.2 ⟨mem_events_run leavesBetween stored, ofRun⟩
  rw [← emitted]
  exact stale event still dispatches

/-! ## Around the epoch -/

/-- The envelope of the run `parent`, which has an hour after the epoch. -/
def parentEnvelope : ExecutionEnvelope where
  executionId := "execution:parent"
  taskContractId := "investigation"
  taskRunId := "parent"
  roleRevision := "InvestigationRole@1"
  contextManifestRevision := 1
  executionProfile := .investigate
  deadlineAt := 3600000000
  budgetRef := "budget:parent"
  policyRevision := "policy-1"
  networkPolicy := "proxied"
  sideEffectPolicy := "internal-state"
  sandboxProfileRevision := "process_restricted@1"
  manifest_pos := Nat.one_ne_zero
  named := by decide

/-- A tick of the dispatcher in which every `xadd` succeeds. -/
def delivering (instant : ℤ) : RecoveryOp := .deliver { instant, limit := 100, outcome _ := .added }

/-- The run `parent` is created and queued, and its dispatch is delivered. -/
def dispatchLost (instant : ℤ) : List RecoveryOp :=
  [ .call (.create { contract := investigationContract, manifest := parentManifest,
                     role := investigationRole, executionEnvelopeRef := "execution:parent",
                     streamName := "task-events", runId := some "parent" } "uuid-1" "event-1"
      instant),
    .call (.transition { runId := "parent", target := .queued, payloadRef := "queue:investigation",
                         idempotencyKey := "investigation-queued:parent",
                         streamName := "task-events" } "event-2" instant),
    .createExecution parentEnvelope, delivering instant ]

def recoveryAt (instant : ℤ) (eventId : String) : RecoveryTick where
  instant := instant
  eventIds _ := eventId

/-- The run is retried after five minutes, the retry is delivered at once. -/
def retriedOnce (start instant : ℤ) : List RecoveryOp :=
  dispatchLost start ++ [.recover (recoveryAt instant "event-3"), delivering instant]

/-- A retry after five minutes, and another after five more. -/
theorem retries_not_swallowed_twice :
    (∃ answer ∈ (recoverQueuedRoleTasks 300 (recoveryStateAfter 300 (retriedOnce 0 300000000))
        (recoveryAt 600000000 "event-4")).toOption, answer.1.retried = ["parent"]) ∧
      NeverSwallowed 300
        (retriedOnce 0 300000000 ++ [.recover (recoveryAt 600000000 "event-4")]) :=
  ⟨by decide +kernel, retries_not_swallowed 300 _ (by decide) (by decide)⟩

/-- **A retry is swallowed**: half a second before the epoch the run is retried, and
again five minutes later, under the key that the first retry has used. -/
theorem retry_swallowed : ¬ ∀ (staleSeconds : ℤ) (ops : List RecoveryOp), 1 ≤ staleSeconds →
    (∀ op ∈ ops, LeavesRetryKeys op) → (recoveryInstants ops).Pairwise (· ≤ ·) →
      NeverSwallowed staleSeconds ops := by
  intro never
  have swallowed : ∃ answer ∈ (recoverQueuedRoleTasks 300
      (recoveryStateAfter 300 (retriedOnce (-1000000000) (-500000)))
      (recoveryAt 299500000 "event-4")).toOption, "parent" ∈ answer.1.retried ∧
        ¬ NewDispatch (recoveryStateAfter 300 (retriedOnce (-1000000000) (-500000))) answer.2
          299500000 "parent" := by decide +kernel
  obtain ⟨⟨report, next⟩, answered, reported, nothing⟩ := swallowed
  have promised := never 300
    (retriedOnce (-1000000000) (-500000) ++ [.recover (recoveryAt 299500000 "event-4")])
    (by decide) (by decide) (by decide) _ _ [] report next rfl (toOption_eq_some.1 answered)
  exact nothing (promised "parent" reported).1

end SecFusion.TaskRuntime
