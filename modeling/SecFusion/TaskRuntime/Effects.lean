import SecFusion.TaskRuntime.Scheduler

/-!
# What the task calls do to the store

One lemma per call says everything a successful call can have done; `Effect`
gathers them.  Contracts and manifests are only ever added (`Grows`); the row of
one run is created or rewritten (`RunChange`), and then one event is requested of
its log, which gets it unless it has an event of that key already (`Logs`).

The invariants of the other modules are read off `Effect` and never look into
the calls.
-/

namespace SecFusion.TaskRuntime

open Foundations

/-! ## Appending an event -/

/-- **What `append_task_event` does**: nothing, when the run has an event of the
requested key; otherwise one event and its delivery row are added. -/
inductive Logs (store : TaskStore) (request : EventRequest) (eventId : String) (now : ℤ) :
    TaskStore → Prop
  | replay {existing : TaskEventModel}
      (used : store.eventWithKey? request.taskRunId request.idempotencyKey = some existing) :
      Logs store request eventId now store
  | fresh {run : TaskRunModel} {events : Table TaskEventModel String (·.eventId)}
      {deliveries : Table TaskEventDeliveryModel String (·.eventId)}
      (found : store.runs.get? request.taskRunId = some run)
      (unused : store.eventWithKey? request.taskRunId request.idempotencyKey = none)
      (inserted : store.events.insert?
        (newEvent run request (store.lastSeq request.taskRunId + 1) eventId now) = some events)
      (delivered : store.deliveries.insert? (newDelivery request eventId now) = some deliveries) :
      Logs store request eventId now { store with events, deliveries }

variable {event : TaskEventModel} {view : TaskRun} {store next : TaskStore} {request : EventRequest}
  {eventId runId uuid streamName producer : String} {now : ℤ} {result : DependencyWakeResult}
  {old new : TaskRunModel} {contract : TaskContract} {manifest : ContextManifest}

theorem taskEventView_ok {view : TaskEventModel} (viewed : taskEventView event = .ok view) :
    view = event := by
  unfold taskEventView at viewed
  simp only [require_bind_eq_ok, pure_eq_ok] at viewed
  exact viewed.2.2.2.2.2.symm

theorem appendTaskEvent_ok {result : TaskEventAppendResult}
    (ok : appendTaskEvent store request eventId now = .ok (result, next)) :
    Logs store request eventId now next := by
  unfold appendTaskEvent at ok
  obtain ⟨run, found, ok⟩ := fetch_bind_eq_ok.1 ok
  cases used : store.eventWithKey? request.taskRunId request.idempotencyKey with
  | some existing =>
      rw [used] at ok
      obtain ⟨event, -, ok⟩ := bind_eq_ok.1 ok
      cases ok
      exact .replay used
  | none =>
      rw [used] at ok
      simp only [fetch_bind_eq_ok] at ok
      obtain ⟨events, inserted, deliveries, delivered, ok⟩ := ok
      obtain ⟨event, -, ok⟩ := bind_eq_ok.1 ok
      cases ok
      exact .fresh found used inserted delivered

namespace Logs

theorem runs (logs : Logs store request eventId now next) : next.runs = store.runs := by
  cases logs <;> rfl

theorem contracts (logs : Logs store request eventId now next) :
    next.contracts = store.contracts := by
  cases logs <;> rfl

theorem contexts (logs : Logs store request eventId now next) : next.contexts = store.contexts := by
  cases logs <;> rfl

/-- The event that a request adds to a log. -/
structure Adds (store : TaskStore) (request : EventRequest) (eventId : String) (now : ℤ)
    (event : TaskEventModel) : Prop where
  run : ∃ run, store.runs.get? request.taskRunId = some run ∧
    event = newEvent run request (store.lastSeq request.taskRunId + 1) eventId now
  unused : ∀ other ∈ store.eventsOf request.taskRunId,
    other.idempotencyKey ≠ request.idempotencyKey
  freshId : ∀ other ∈ store.events.rows, other.eventId ≠ eventId

/-- The log is as it was, the key being used, or one event longer. -/
theorem events (logs : Logs store request eventId now next) :
    ((∃ event ∈ store.eventsOf request.taskRunId, event.idempotencyKey = request.idempotencyKey) ∧
        next = store) ∨
      ∃ event, Adds store request eventId now event ∧
        next.events.rows = store.events.rows ++ [event] ∧
        next.deliveries.rows = store.deliveries.rows ++ [newDelivery request eventId now] := by
  cases logs with
  | replay used =>
      refine .inl ⟨⟨_, mem_of_find?_eq_some used, ?_⟩, rfl⟩
      simpa using find?_some used
  | @fresh run events deliveries found unused inserted delivered =>
      obtain ⟨rows, freshId⟩ := insert?_eq_some inserted
      refine .inr ⟨_, ⟨⟨run, found, rfl⟩, fun other member => ?_, ?_⟩, rows,
        (insert?_eq_some delivered).1⟩
      · simpa using find?_eq_none.1 unused other member
      · exact Table.get?_eq_none.1 freshId

end Logs

/-- The log of one run after one event has been appended to the table. -/
theorem eventsOf_append (rows : next.events.rows = store.events.rows ++ [event]) (runId : String) :
    next.eventsOf runId =
      if event.taskRunId = runId then store.eventsOf runId ++ [event] else store.eventsOf runId := by
  unfold TaskStore.eventsOf select
  rw [rows, filter_append]
  split
  next same => simp [same]
  next different => simp [different]

theorem mem_eventsOf :
    event ∈ store.eventsOf runId ↔ event ∈ store.events.rows ∧ event.taskRunId = runId := by
  simp [TaskStore.eventsOf]

/-! ## Runs -/

/-- What a call may do to the row of a run. -/
inductive RunChange (old : TaskRunModel) : TaskRunModel → Prop
  | claim (queued : old.status = .queued) (now : ℤ) :
      RunChange old (old.withClaim now)
  | context (live : old.status.isTerminal = false) (manifest : ContextManifest)
      (contextVersionId : String) (now : ℤ) :
      RunChange old (old.withContext manifest contextVersionId now)
  | transition (live : old.status.isTerminal = false) (request : TransitionTaskRun)
      (allowed : canTransitionTaskRun old.status request.target = true) (now : ℤ) :
      RunChange old (old.withTransition request now)

/-- What no call changes about a run. -/
structure SameRun (old new : TaskRunModel) : Prop where
  runId : new.runId = old.runId
  contract : new.taskContractVersionId = old.taskContractVersionId
  parent : new.parentRunId = old.parentRunId

theorem RunChange.same (change : RunChange old new) : SameRun old new := by
  cases change <;> exact ⟨rfl, rfl, rfl⟩

theorem RunChange.live (change : RunChange old new) :
    old.status.isTerminal = false := by
  cases change with
  | claim queued => rw [queued]; rfl
  | context live => exact live
  | transition live => exact live

/-- A status changes along the transition table or not at all. -/
theorem RunChange.status (change : RunChange old new) :
    new.status = old.status ∨ canTransitionTaskRun old.status new.status = true := by
  cases change with
  | claim queued =>
      have allowed : canTransitionTaskRun .queued .running = true := by decide
      exact .inr (queued ▸ allowed)
  | context => exact .inl rfl
  | transition live request allowed => exact .inr allowed

/-- Only contracts and manifests have been added. -/
structure Grows (store grown : TaskStore) : Prop where
  runs : grown.runs = store.runs
  events : grown.events = store.events
  deliveries : grown.deliveries = store.deliveries
  contracts : ∀ id row, store.contracts.get? id = some row → grown.contracts.get? id = some row
  contexts : ∀ id row, store.contexts.get? id = some row → grown.contexts.get? id = some row

theorem Grows.refl (store : TaskStore) : Grows store store :=
  ⟨rfl, rfl, rfl, fun _ _ found => found, fun _ _ found => found⟩

theorem Grows.trans {first second third : TaskStore} (left : Grows first second)
    (right : Grows second third) : Grows first third where
  runs := right.runs.trans left.runs
  events := right.events.trans left.events
  deliveries := right.deliveries.trans left.deliveries
  contracts id row found := right.contracts id row (left.contracts id row found)
  contexts id row found := right.contexts id row (left.contexts id row found)

/-- The log does not see the rows of the runs. -/
theorem eventsOf_updateRun (store : TaskStore) (runId : String)
    (rewrite : TaskRunModel → TaskRunModel) (keeps : ∀ run, (rewrite run).runId = run.runId)
    (other : String) : (store.updateRun runId rewrite keeps).eventsOf other = store.eventsOf other :=
  rfl

theorem get?_updateRun (store : TaskStore) (runId : String)
    (rewrite : TaskRunModel → TaskRunModel) (keeps : ∀ run, (rewrite run).runId = run.runId)
    (other : String) : (store.updateRun runId rewrite keeps).runs.get? other =
      if runId = other then (store.runs.get? other).map rewrite else store.runs.get? other :=
  get?_update store.runs runId rewrite keeps other

/-- A row after a rewrite is the rewritten one or one that was there. -/
theorem row_of_rewrite {grown : TaskStore} {changed : String}
    {rewrite : TaskRunModel → TaskRunModel} {keeps : ∀ run, (rewrite run).runId = run.runId}
    (grows : Grows store grown)
    (logs : Logs (grown.updateRun changed rewrite keeps) request eventId now next)
    {after : TaskRunModel} (found : next.runs.get? runId = some after) :
    (changed = runId ∧ ∃ before, store.runs.get? runId = some before ∧ after = rewrite before) ∨
      store.runs.get? runId = some after := by
  rw [logs.runs, get?_updateRun, grows.runs] at found
  split at found
  next same =>
    obtain ⟨before, beforeFound, rewritten⟩ := map_eq_some_iff.1 found
    exact .inl ⟨same, before, beforeFound, rewritten.symm⟩
  next => exact .inr found

theorem get?_of_insert? {ρ : Type} {key : ρ → String} {table next : Table ρ String key} {row : ρ}
    (inserted : table.insert? row = some next) {id : String} {old : ρ}
    (found : table.get? id = some old) : next.get? id = some old := by
  rw [get?_insert? inserted]
  split
  next same =>
    rw [← same, (insert?_eq_some inserted).2] at found
    cases found
  next => exact found

/-- After a contract has been persisted, its revision is that contract. -/
theorem persistTaskContract_ok {result : PersistResult}
    (ok : persistTaskContract store contract = .ok (result, next)) :
    Grows store next ∧ ∃ row, next.contractVersion? contract.taskContractId
      contract.contractRevision = some row ∧ row.contractJson = contract := by
  unfold persistTaskContract at ok
  dsimp only at ok
  cases existing : store.contractVersion? contract.taskContractId contract.contractRevision with
  | some row =>
      rw [existing] at ok
      simp only [require_bind_eq_ok, pure_eq_ok, mk.injEq] at ok
      obtain ⟨same, -, rfl⟩ := ok
      exact ⟨Grows.refl store, row, existing, same⟩
  | none =>
      rw [existing] at ok
      simp only [fetch_bind_eq_ok, pure_eq_ok, mk.injEq] at ok
      obtain ⟨contracts, inserted, -, rfl⟩ := ok
      refine ⟨⟨rfl, rfl, rfl, fun id row found => get?_of_insert? inserted found,
        fun _ _ found => found⟩, ?_⟩
      rw [TaskStore.contractVersion?] at existing ⊢
      rw [(insert?_eq_some inserted).1, List.find?_append, existing]
      simp

theorem persistContextManifest_ok {result : PersistResult}
    (ok : persistContextManifest store manifest = .ok (result, next)) :
    Grows store next ∧ next.contracts = store.contracts := by
  unfold persistContextManifest at ok
  obtain ⟨contract, -, ok⟩ := bind_eq_ok.1 ok
  cases existing : store.contextVersion? manifest.contextId manifest.contextRevision with
  | some row =>
      rw [existing] at ok
      simp only [require_bind_eq_ok, pure_eq_ok, mk.injEq] at ok
      obtain ⟨-, -, rfl⟩ := ok
      exact ⟨Grows.refl store, rfl⟩
  | none =>
      rw [existing] at ok
      simp only [fetch_bind_eq_ok, pure_eq_ok, mk.injEq] at ok
      obtain ⟨contexts, inserted, -, rfl⟩ := ok
      exact ⟨⟨rfl, rfl, rfl, fun _ _ found => found,
        fun id row found => get?_of_insert? inserted found⟩, rfl⟩

/-- What makes a run a child: its parent runs, and the contract of the parent
accepts that of the child. -/
def Delegated (store : TaskStore) (contract : TaskContract) (parentRunId : String) : Prop :=
  ∃ parent parentContract, store.runs.get? parentRunId = some parent ∧ parent.status = .running ∧
    store.contracts.get? parent.taskContractVersionId = some parentContract ∧
    Conforms parentContract.contractJson contract

theorem checkParent_ok {parentRunId : String} {answer : Unit}
    (checked : checkParent store contract (some parentRunId) = .ok answer) :
    Delegated store contract parentRunId := by
  unfold checkParent at checked
  simp only [fetch_bind_eq_ok, require_bind_eq_ok] at checked
  obtain ⟨parent, found, running, parentContract, contractFound, checked⟩ := checked
  refine ⟨parent, parentContract, found, running, contractFound, ?_⟩
  split at checked
  · cases checked
  next accepted => exact conforms_of_validateChildContract accepted

/-- **A successful `create_task_run`** adds contract and manifest, a submitted run
under a new identity, and the event of its creation. -/
theorem createTaskRun_ok {request : CreateTaskRun}
    (ok : createTaskRun store request uuid eventId now = .ok (view, next)) :
    ∃ grown runs contractRow contextVersionId, Grows store grown ∧
      grown.contracts.get? contractRow.taskContractVersionId = some contractRow ∧
      contractRow.contractJson = request.contract ∧
      (∀ parent ∈ request.parentRunId, Delegated store request.contract parent) ∧
      store.runs.get? (resolveRunId request.runId uuid) = none ∧
      grown.runs.insert? (newTaskRun request (resolveRunId request.runId uuid)
        contractRow.taskContractVersionId contextVersionId now) = some runs ∧
      Logs { grown with runs } (createdEvent request (resolveRunId request.runId uuid)) eventId now
        next := by
  unfold createTaskRun at ok
  simp only [require_bind_eq_ok] at ok
  obtain ⟨-, -, -, ok⟩ := ok
  obtain ⟨_, parents, ok⟩ := bind_eq_ok.1 ok
  obtain ⟨⟨_, first⟩, persisted, ok⟩ := bind_eq_ok.1 ok
  obtain ⟨⟨_, grown⟩, manifested, ok⟩ := bind_eq_ok.1 ok
  obtain ⟨contractRow, contractFound, ok⟩ := bind_eq_ok.1 ok
  obtain ⟨contextRow, -, ok⟩ := bind_eq_ok.1 ok
  simp only [require_bind_eq_ok, fetch_bind_eq_ok] at ok
  obtain ⟨fresh, runs, inserted, ok⟩ := ok
  obtain ⟨⟨_, last⟩, appended, ok⟩ := bind_eq_ok.1 ok
  cases ok
  obtain ⟨firstGrows, row, rowFound, rowContract⟩ := persistTaskContract_ok persisted
  obtain ⟨secondGrows, sameContracts⟩ := persistContextManifest_ok manifested
  have grows := firstGrows.trans secondGrows
  have same : contractRow = row := by
    obtain ⟨parts, split, located⟩ := bind_eq_ok.1 contractFound
    have key : parts = (request.contract.taskContractId, request.contract.contractRevision) :=
      splitRef_versionedRef split
    subst key
    rw [fetch_eq_ok, TaskStore.contractVersion?, sameContracts] at located
    exact mem_unique located rowFound
  subst same
  have member : contractRow ∈ grown.contracts.rows := by
    rw [sameContracts]
    exact mem_of_find?_eq_some rowFound
  refine ⟨grown, runs, contractRow, contextRow.contextManifestVersionId, grows,
    get?_of_mem member, rowContract, ?_, ?_, inserted, appendTaskEvent_ok appended⟩
  · intro parent named
    rw [mem_def.1 named] at parents
    exact checkParent_ok parents
  · rw [← grows.runs]
    exact fresh

theorem claimQueuedTaskRun_ok {view : Option TaskRun}
    (ok : claimQueuedTaskRun store runId streamName producer eventId now =
      .ok (view, next)) :
    ∃ run, store.runs.get? runId = some run ∧
      ((run.status ≠ .queued ∧ view = none ∧ next = store) ∨
        (run.status = .queued ∧ view.isSome ∧
          Logs (store.updateRun runId (fun run => run.withClaim now)
              fun run => run.withClaim_runId now)
            (claimedEvent run producer streamName) eventId now next)) := by
  unfold claimQueuedTaskRun getRun at ok
  obtain ⟨run, found, ok⟩ := fetch_bind_eq_ok.1 ok
  refine ⟨run, found, ?_⟩
  split at ok
  next other =>
    cases ok
    exact .inl ⟨other, rfl, rfl⟩
  next queued =>
    obtain ⟨⟨_, last⟩, appended, ok⟩ := bind_eq_ok.1 ok
    cases ok
    exact .inr ⟨not_not.1 queued, rfl, appendTaskEvent_ok appended⟩

theorem updateTaskContext_ok
    (ok : updateTaskContext store runId manifest streamName producer eventId now =
      .ok (view, next)) :
    ∃ run grown contextVersionId, store.runs.get? runId = some run ∧
      run.status.isTerminal = false ∧ Grows store grown ∧
      Logs (grown.updateRun runId (fun run => run.withContext manifest contextVersionId now)
          fun run => run.withContext_runId manifest contextVersionId now)
        (contextUpdatedEvent runId manifest producer streamName) eventId now next := by
  unfold updateTaskContext getRun at ok
  simp only [fetch_bind_eq_ok, require_bind_eq_ok] at ok
  obtain ⟨run, found, live, -, -, ok⟩ := ok
  obtain ⟨_, -, ok⟩ := bind_eq_ok.1 ok
  obtain ⟨⟨_, grown⟩, manifested, ok⟩ := bind_eq_ok.1 ok
  obtain ⟨contextRow, -, ok⟩ := bind_eq_ok.1 ok
  obtain ⟨⟨_, last⟩, appended, ok⟩ := bind_eq_ok.1 ok
  cases ok
  exact ⟨run, grown, contextRow.contextManifestVersionId, found, live,
    (persistContextManifest_ok manifested).1, appendTaskEvent_ok appended⟩

theorem transitionTaskRun_ok {request : TransitionTaskRun}
    (ok : transitionTaskRun store request eventId now = .ok (view, next)) :
    ∃ run, store.runs.get? request.runId = some run ∧ run.status.isTerminal = false ∧
      canTransitionTaskRun run.status request.target = true ∧
      Logs (store.updateRun request.runId (fun run => run.withTransition request now)
          fun run => run.withTransition_runId request now)
        (transitionEvent run request) eventId now next := by
  unfold transitionTaskRun getRun at ok
  simp only [fetch_bind_eq_ok, require_bind_eq_ok] at ok
  obtain ⟨-, run, found, live, allowed, ok⟩ := ok
  obtain ⟨⟨_, last⟩, appended, ok⟩ := bind_eq_ok.1 ok
  cases ok
  exact ⟨run, found, live, allowed, appendTaskEvent_ok appended⟩

theorem createChildTaskRun_ok {request : CreateChildTaskRun}
    (ok : createChildTaskRun store request uuid eventId now = .ok (view, next)) :
    ∃ manifest, createTaskRun store (request.toCreate manifest) uuid eventId now =
      .ok (view, next) := by
  unfold createChildTaskRun at ok
  simp only [fetch_bind_eq_ok, require_bind_eq_ok] at ok
  obtain ⟨parent, -, -, ok⟩ := ok
  obtain ⟨parentContract, -, ok⟩ := bind_eq_ok.1 ok
  obtain ⟨_, -, ok⟩ := bind_eq_ok.1 ok
  obtain ⟨depth, -, ok⟩ := bind_eq_ok.1 ok
  obtain ⟨-, ok⟩ := require_bind_eq_ok.1 ok
  obtain ⟨parentManifest, -, ok⟩ := bind_eq_ok.1 ok
  obtain ⟨manifest, -, ok⟩ := bind_eq_ok.1 ok
  exact ⟨manifest, ok⟩

/-! ## Waking -/

/-- An event is due to wake a run: the run is the parent of the one that emitted
it, waits for exactly that one, and has not been woken by the event. -/
structure WakeDue (store : TaskStore) (event : TaskEventModel) (parentRunId : String) : Prop where
  wakes : isDependencyWakeEvent event.eventType = true
  parent : event.parentRunId = some parentRunId
  unwoken : store.eventWithKey? parentRunId (wakeIdempotencyKey parentRunId event.eventId) = none
  child : ∃ child, store.runs.get? event.taskRunId = some child ∧
    child.parentRunId = some parentRunId
  waiting : ∃ run, store.runs.get? parentRunId = some run ∧ run.status = .waitingDependency ∧
    dependencyRunId run.stopReason = some event.taskRunId

/-- **A successful `process_event`** makes the wake transition exactly when a
wake is due, and changes nothing otherwise. -/
theorem processEvent_ok
    (ok : processEvent store event streamName eventId now = .ok (result, next)) :
    ((∀ parentRunId, ¬ WakeDue store event parentRunId) ∧ result.disposition ≠ .queued ∧
        next = store) ∨
      ∃ parentRunId view, WakeDue store event parentRunId ∧ result = wakeResult event .queued ∧
        transitionTaskRun store (wakeTransition parentRunId event streamName) eventId now =
          .ok (view, next) := by
  unfold processEvent at ok
  split at ok
  next irrelevant =>
    cases ok
    refine .inl ⟨fun _ due => ?_, by simp [wakeResult], rfl⟩
    simp [due.wakes] at irrelevant
  next wakes =>
  cases parentEq : event.parentRunId with
  | none =>
      rw [parentEq] at ok
      cases ok
      refine .inl ⟨fun _ due => ?_, by simp [wakeResult], rfl⟩
      simp [due.parent] at parentEq
  | some parentRunId =>
      rw [parentEq] at ok
      dsimp only at ok
      have only : ∀ other, WakeDue store event other → other = parentRunId := by
        intro other due
        exact mem_unique due.parent parentEq
      cases unwoken : store.eventWithKey? parentRunId
          (wakeIdempotencyKey parentRunId event.eventId) with
      | some prior =>
          rw [unwoken] at ok
          cases ok
          refine .inl ⟨fun other due => ?_, by simp [wakeResult], rfl⟩
          obtain rfl := only other due
          simp [due.unwoken] at unwoken
      | none =>
          rw [unwoken] at ok
          dsimp only at ok
          cases childFound : store.runs.get? event.taskRunId with
          | none =>
              rw [childFound] at ok
              cases ok
              refine .inl ⟨fun other due => ?_, by simp [wakeResult], rfl⟩
              obtain ⟨child, found, -⟩ := due.child
              simp [found] at childFound
          | some child =>
              rw [childFound] at ok
              dsimp only at ok
              split at ok
              next stranger =>
                cases ok
                refine .inl ⟨fun other due => ?_, by simp [wakeResult], rfl⟩
                obtain rfl := only other due
                obtain ⟨child', found, parent⟩ := due.child
                obtain rfl := mem_unique found childFound
                exact stranger parent
              next related =>
              cases parentFound : store.runs.get? parentRunId with
              | none =>
                  rw [parentFound] at ok
                  cases ok
                  refine .inl ⟨fun other due => ?_, by simp [wakeResult], rfl⟩
                  obtain rfl := only other due
                  obtain ⟨run, found, -⟩ := due.waiting
                  simp [found] at parentFound
              | some run =>
                  rw [parentFound] at ok
                  dsimp only at ok
                  have here : ∀ other, WakeDue store event other → run.status = .waitingDependency ∧
                      dependencyRunId run.stopReason = some event.taskRunId := by
                    intro other due
                    obtain rfl := only other due
                    obtain ⟨run', found, waits⟩ := due.waiting
                    obtain rfl := mem_unique found parentFound
                    exact waits
                  split at ok
                  next notWaiting =>
                    cases ok
                    exact .inl ⟨fun other due => notWaiting (here other due).1,
                      by simp [wakeResult], rfl⟩
                  next waiting =>
                  split at ok
                  next different =>
                    cases ok
                    exact .inl ⟨fun other due => different (here other due).2,
                      by simp [wakeResult], rfl⟩
                  next same =>
                    obtain ⟨⟨view, last⟩, moved, ok⟩ := bind_eq_ok.1 ok
                    cases ok
                    have runId : run.runId = parentRunId := key_of_get? parentFound
                    rw [runId] at moved
                    exact .inr ⟨parentRunId, view,
                      ⟨by simpa using wakes, parentEq, unwoken,
                        ⟨child, childFound, not_not.1 related⟩,
                        ⟨run, parentFound, not_not.1 waiting, not_not.1 same⟩⟩, rfl, moved⟩

theorem consumeEvent_ok {sourceEventId : String}
    (ok : consumeEvent store sourceEventId streamName eventId now = .ok (result, next)) :
    ∃ event, store.events.get? sourceEventId = some event ∧
      processEvent store event streamName eventId now = .ok (result, next) := by
  unfold consumeEvent getTaskEvent at ok
  obtain ⟨event, viewed, ok⟩ := bind_eq_ok.1 ok
  obtain ⟨model, found, viewed⟩ := fetch_bind_eq_ok.1 viewed
  obtain rfl := taskEventView_ok viewed
  exact ⟨event, found, ok⟩

/-! ## Every call -/

/-- **What a successful call can have done.** -/
inductive Effect (store : TaskStore) : TaskStore → Prop
  | idle : Effect store store
  | logged {request : EventRequest} {eventId : String} {now : ℤ} {next : TaskStore}
      (logs : Logs store request eventId now next) : Effect store next
  | created {request : CreateTaskRun} {grown next : TaskStore}
      {runs : Table TaskRunModel String (·.runId)} {contractRow : TaskContractVersionModel}
      {runId contextVersionId eventId : String} {now : ℤ} (grows : Grows store grown)
      (contract : grown.contracts.get? contractRow.taskContractVersionId = some contractRow)
      (sameContract : contractRow.contractJson = request.contract)
      (delegated : ∀ parent ∈ request.parentRunId, Delegated store request.contract parent)
      (fresh : store.runs.get? runId = none)
      (inserted : grown.runs.insert? (newTaskRun request runId
        contractRow.taskContractVersionId contextVersionId now) = some runs)
      (logs : Logs { grown with runs } (createdEvent request runId) eventId now next) :
      Effect store next
  | rewritten {grown next : TaskStore} {runId eventId : String} {now : ℤ} {old : TaskRunModel}
      {rewrite : TaskRunModel → TaskRunModel} {keeps : ∀ run, (rewrite run).runId = run.runId}
      {request : EventRequest} (grows : Grows store grown)
      (found : store.runs.get? runId = some old) (change : RunChange old (rewrite old))
      (ofRun : request.taskRunId = runId)
      (typed : (rewrite old).status ≠ old.status →
        request.eventType = eventForTransition (rewrite old).status)
      (logs : Logs (grown.updateRun runId rewrite keeps) request eventId now next) :
      Effect store next

theorem Effect.of_create {request : CreateTaskRun}
    (ok : createTaskRun store request uuid eventId now = .ok (view, next)) :
    Effect store next := by
  obtain ⟨grown, runs, contractRow, contextVersionId, grows, contract, sameContract, delegated,
    fresh, inserted, logs⟩ := createTaskRun_ok ok
  exact .created grows contract sameContract delegated fresh inserted logs

theorem Effect.of_transition {request : TransitionTaskRun}
    (ok : transitionTaskRun store request eventId now = .ok (view, next)) :
    Effect store next := by
  obtain ⟨run, found, live, allowed, logs⟩ := transitionTaskRun_ok ok
  exact .rewritten (.refl store) found (.transition live request allowed now) rfl
    (fun _ => rfl) logs

theorem effect_of_ok {op : TaskOp} {answer : TaskAnswer}
    (ok : taskService op store = .ok (answer, next)) : Effect store next := by
  cases taskService_called ok with
  | create called =>
      exact .of_create called
  | createChild called =>
      obtain ⟨manifest, created⟩ := createChildTaskRun_ok called
      exact .of_create created
  | @claim _ _ _ _ now _ called =>
      obtain ⟨run, found, ⟨-, -, rfl⟩ | ⟨queued, -, logs⟩⟩ := claimQueuedTaskRun_ok called
      · exact .idle
      · exact .rewritten (.refl store) found (.claim queued now)
          (get?_eq_some.1 found).2 (fun _ => rfl) logs
  | @updateContext _ manifest _ _ _ now _ called =>
      obtain ⟨run, grown, contextVersionId, found, live, grows, logs⟩ := updateTaskContext_ok called
      exact .rewritten grows found (.context live manifest contextVersionId now) rfl
        (fun changed => absurd rfl changed) logs
  | transition called =>
      exact .of_transition called
  | append called =>
      exact .logged (appendTaskEvent_ok called)
  | consume called =>
      obtain ⟨event, -, processed⟩ := consumeEvent_ok called
      rcases processEvent_ok processed with ⟨-, -, rfl⟩ | ⟨parent, view, -, -, moved⟩
      · exact .idle
      · exact .of_transition moved

end SecFusion.TaskRuntime
