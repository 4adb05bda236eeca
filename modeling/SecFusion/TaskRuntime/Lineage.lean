import SecFusion.TaskRuntime.Wake

/-!
# The lineage of contexts

`update_task_context` moves a run to another revision of its context, or forks it
to another context.  Within one context the revision has to advance; a fork only
has to name the current context as its parent, and a manifest that is stored
already is accepted again when it is the same.  A run may therefore fork back to
a context it has left, at a revision it had there, and from there go to wherever
that context once led.

The event of an update is requested under the reference of the new manifest, so
coming back to a revision that was updated to before logs nothing.

`ForksForward` is the check that the fork branch leaves out: a fork to a context
the run has been in names a later revision of it than any the run has had.  Along
it the revision of the current context is the largest one the run has had of it
(`LineageKept.latest`), which turns the check of the other branch into one on the
whole past.
-/

namespace SecFusion.TaskRuntime

open Foundations

/-! ## Forking -/

/-- `fork_context`. -/
def forkContext (manifest : ContextManifest) (newContextId : String) : ContextManifest :=
  { manifest with
    contextId := newContextId
    contextRevision := 1
    parentContextId := some manifest.contextId
    cacheHint := none
    revision_pos := Nat.one_pos }

/-! ## The contexts a run has had -/

/-- A run has been in a revision of a context. -/
structure HeldContext where
  (runId contextId : String)
  contextRevision : ℕ

def TaskRunModel.held (run : TaskRunModel) : HeldContext :=
  ⟨run.runId, run.contextId, run.contextRevision⟩

/-- The task store, with the contexts its runs have had. -/
structure LineageState where
  tasks : TaskStore
  held : List HeldContext

def LineageState.initial : LineageState := ⟨TaskStore.empty, []⟩

def lineageSystem (op : TaskOp) (state : LineageState) :
    Except Raised (TaskAnswer × LineageState) := do
  let (answer, tasks) ← taskService op state.tasks
  return (answer, ⟨tasks, state.held ++ tasks.runs.rows.map (·.held)⟩)

/-- The keys that updates log under. -/
def contextKeyHead : String := "context-updated:"

def isContextKey (key : String) : Bool := (afterHead? contextKeyHead key).isSome

/-- A fork to a context that the run has been in names a later revision of it than
any the run has had; and no other call logs under the key of an update. -/
def ForksForward (state : LineageState) : TaskOp → Prop
  | .updateContext runId manifest _ _ _ _ =>
      ∀ run ∈ state.tasks.runs.get? runId, manifest.contextId ≠ run.contextId →
        ∀ held ∈ state.held, held.runId = runId → held.contextId = manifest.contextId →
          held.contextRevision < manifest.contextRevision
  | .transition request _ _ => isContextKey request.idempotencyKey = false
  | .append request _ _ => isContextKey request.idempotencyKey = false
  | .create .. | .createChild .. | .claim .. | .consume .. => True

instance forksForwardDecidable (state : LineageState) :
    (op : TaskOp) → Decidable (ForksForward state op)
  | .updateContext runId manifest _ _ _ _ =>
      inferInstanceAs (Decidable (∀ run ∈ state.tasks.runs.get? runId, _ →
        ∀ held ∈ state.held, held.runId = runId → held.contextId = manifest.contextId → _))
  | .transition .. | .append .. => inferInstanceAs (Decidable (_ = false))
  | .create .. | .createChild .. | .claim .. | .consume .. => inferInstanceAs (Decidable True)

/-! ## Keys -/

/-- A reference names its identity and its revision. -/
theorem versionedRef_inj {first second : String} {left right : ℕ}
    (same : versionedRef first left = versionedRef second right) :
    first = second ∧ left = right := by
  have split : ∀ (identity : String) (revision : ℕ),
      Text.rpartition '@' (versionedRef identity revision) =
        some (identity, toString revision) := fun identity revision =>
    Text.rpartition_append (Text.not_mem_toString (by decide) revision)
  have parts : (first, toString left) = (second, toString right) := by
    apply Option.some.inj
    rw [← split, ← split, same]
  have numbers : some left = some right := by
    rw [← Text.parseNat_toString, ← Text.parseNat_toString, (Prod.mk.inj parts).2]
  exact ⟨(Prod.mk.inj parts).1, Option.some.inj numbers⟩

theorem isContextKey_contextUpdated (runId : String) (manifest : ContextManifest)
    (producer streamName : String) :
    isContextKey (contextUpdatedEvent runId manifest producer streamName).idempotencyKey = true := by
  show (afterHead? contextKeyHead (contextKeyHead ++ _)).isSome = true
  rw [Text.afterHead?_append]
  rfl

variable {manifest : ContextManifest} {runId producer streamName eventId : String}
  {store next : TaskStore} {now : ℤ} {view : TaskRun} {state : LineageState} {op : TaskOp}
  {answer : TaskAnswer}

/-- Two updates log under one key only if they name one revision of one context. -/
theorem contextUpdated_key_inj {contextId : String} {revision : ℕ}
    (same : contextKeyHead ++ versionedRef contextId revision =
      (contextUpdatedEvent runId manifest producer streamName).idempotencyKey) :
    contextId = manifest.contextId ∧ revision = manifest.contextRevision := by
  have rests : some (versionedRef contextId revision) =
      some (versionedRef manifest.contextId manifest.contextRevision) := by
    rw [← Text.afterHead?_append contextKeyHead, ← Text.afterHead?_append contextKeyHead, same]
    rfl
  exact versionedRef_inj (Option.some.inj rests)

theorem isContextKey_of_start {key : String} {c : Char} {rest : List Char} (different : 'c' ≠ c)
    (starts : key.toList = c :: rest) : isContextKey key = false := by
  have head : contextKeyHead.toList = 'c' :: "ontext-updated:".toList := by decide
  rw [isContextKey, Text.afterHead?_of_ne head starts different]
  rfl

theorem isContextKey_created (request : CreateTaskRun) (runId : String) :
    isContextKey (createdEvent request runId).idempotencyKey = false := by
  have starts : (createdEvent request runId).idempotencyKey.toList =
      't' :: ("ask-created:" ++ runId).toList := by
    simp [createdEvent]
  exact isContextKey_of_start (by decide) starts

theorem isContextKey_claimed (run : TaskRunModel) (producer streamName : String) :
    isContextKey (claimedEvent run producer streamName).idempotencyKey = false := by
  have starts : (claimedEvent run producer streamName).idempotencyKey.toList =
      'r' :: ("ole-claim:" ++ run.runId ++ ":" ++ toString run.contextRevision).toList := by
    simp [claimedEvent]
  exact isContextKey_of_start (by decide) starts

theorem isContextKey_wake (parentRunId source : String) :
    isContextKey (wakeIdempotencyKey parentRunId source) = false := by
  have starts : (wakeIdempotencyKey parentRunId source).toList =
      'd' :: ("ependency-wake:" ++ parentRunId ++ ":" ++ source).toList := by
    simp [wakeIdempotencyKey, wakeKeyHead]
  exact isContextKey_of_start (by decide) starts

/-! ## The calls -/

/-- A call that leaves every context where it is, and logs under no key of an
update. -/
structure KeepsContexts (store next : TaskStore) : Prop where
  rows : ∀ runId run, next.runs.get? runId = some run →
    store.runs.get? runId = none ∨
      ∃ before, store.runs.get? runId = some before ∧ run.held = before.held
  events : ∀ event ∈ next.events.rows,
    event ∈ store.events.rows ∨ isContextKey event.idempotencyKey = false

theorem KeepsContexts.of_rewrite {grown : TaskStore} {changed : String}
    {rewrite : TaskRunModel → TaskRunModel} {keeps : ∀ run, (rewrite run).runId = run.runId}
    {request : EventRequest} (grows : Grows store grown)
    (logs : Logs (grown.updateRun changed rewrite keeps) request eventId now next)
    (sameContext : ∀ run, (rewrite run).held = run.held)
    (ordinary : isContextKey request.idempotencyKey = false) : KeepsContexts store next where
  rows runId run found := by
    rcases row_of_rewrite grows logs found with ⟨-, before, beforeFound, rfl⟩ | same
    · exact .inr ⟨before, beforeFound, sameContext before⟩
    · exact .inr ⟨run, same, rfl⟩
  events event member := by
    rcases logs.mem_events_before member with old | ⟨-, key⟩
    · exact .inl (grows.events ▸ old)
    · exact .inr (by rw [key]; exact ordinary)

theorem KeepsContexts.of_create {request : CreateTaskRun} {uuid : String}
    (ok : createTaskRun store request uuid eventId now = .ok (view, next)) :
    KeepsContexts store next := by
  obtain ⟨grown, runs, contractRow, contextVersionId, grows, -, -, -, fresh, inserted, logs⟩ :=
    createTaskRun_ok ok
  constructor
  case rows =>
    intro runId run found
    rw [logs.runs] at found
    have lookup := (get?_insert? inserted runId).symm.trans found
    rw [grows.runs] at lookup
    split at lookup
    next same =>
      refine .inl ?_
      rw [← same]
      exact fresh
    next => exact .inr ⟨run, lookup, rfl⟩
  case events =>
    intro event member
    rcases logs.mem_events_before member with old | ⟨-, key⟩
    · exact .inl (grows.events ▸ old)
    · exact .inr (by rw [key]; exact isContextKey_created request _)

theorem KeepsContexts.of_transition {request : TransitionTaskRun}
    (ordinary : isContextKey request.idempotencyKey = false)
    (ok : transitionTaskRun store request eventId now = .ok (view, next)) :
    KeepsContexts store next := by
  obtain ⟨run, -, -, -, logs⟩ := transitionTaskRun_ok ok
  exact .of_rewrite (.refl store) logs (fun _ => rfl) ordinary

theorem KeepsContexts.refl (store : TaskStore) : KeepsContexts store store where
  rows _ run found := .inr ⟨run, found, rfl⟩
  events _ member := .inl member

/-- Every call but an update keeps the contexts. -/
theorem keepsContexts_of_ok (forward : ForksForward state op)
    (ok : taskService op state.tasks = .ok (answer, next)) :
    KeepsContexts state.tasks next ∨
      ∃ runId manifest streamName producer eventId now view,
        op = .updateContext runId manifest streamName producer eventId now ∧
          updateTaskContext state.tasks runId manifest streamName producer eventId now =
            .ok (view, next) := by
  cases taskService_called ok with
  | create called =>
      exact .inl (.of_create called)
  | createChild called =>
      obtain ⟨manifest, created⟩ := createChildTaskRun_ok called
      exact .inl (.of_create created)
  | @claim _ streamName producer _ _ _ called =>
      obtain ⟨run, found, ⟨-, -, rfl⟩ | ⟨queued, -, logs⟩⟩ := claimQueuedTaskRun_ok called
      · exact .inl (.refl _)
      · exact .inl (.of_rewrite (.refl _) logs (fun _ => rfl)
          (isContextKey_claimed run producer streamName))
  | @updateContext runId manifest streamName producer eventId now view called =>
      exact .inr ⟨runId, manifest, streamName, producer, eventId, now, view, rfl, called⟩
  | transition called =>
      exact .inl (.of_transition forward called)
  | append called =>
      have logs := appendTaskEvent_ok called
      refine .inl ⟨fun runId run found => .inr ⟨run, logs.runs ▸ found, rfl⟩, ?_⟩
      intro event member
      rcases logs.mem_events_before member with old | ⟨-, key⟩
      · exact .inl old
      · exact .inr (by rw [key]; exact forward)
  | consume called =>
      obtain ⟨event, -, processed⟩ := consumeEvent_ok called
      rcases processEvent_ok processed with ⟨-, -, rfl⟩ | ⟨parent, view, -, -, moved⟩
      · exact .inl (.refl _)
      · refine .inl (.of_transition ?_ moved)
        exact isContextKey_wake parent event.eventId

/-- An accepted update passed the check of the lineage. -/
theorem updateTaskContext_lineage
    (ok : updateTaskContext store runId manifest streamName producer eventId now =
      .ok (view, next)) {run : TaskRunModel} (found : store.runs.get? runId = some run)
    (same : manifest.contextId = run.contextId) :
    run.contextRevision < manifest.contextRevision := by
  unfold updateTaskContext getRun at ok
  simp only [fetch_bind_eq_ok, require_bind_eq_ok] at ok
  obtain ⟨model, modelFound, -, -, -, ok⟩ := ok
  obtain ⟨_, checked, -⟩ := bind_eq_ok.1 ok
  obtain rfl := mem_unique modelFound found
  rw [checkLineage, if_pos same] at checked
  exact require_eq_ok.1 checked

/-! ## The invariant -/

/-- **What the lineage of every run satisfies** when forks go forward. -/
structure LineageKept (state : LineageState) : Prop where
  present : ∀ held ∈ state.held, ∃ run, state.tasks.runs.get? held.runId = some run
  current : ∀ runId run, state.tasks.runs.get? runId = some run → run.held ∈ state.held
  /-- The revision of the current context is the latest one the run has had of it. -/
  latest : ∀ runId run, state.tasks.runs.get? runId = some run → ∀ held ∈ state.held,
    held.runId = runId → held.contextId = run.contextId → held.contextRevision ≤ run.contextRevision
  /-- What is logged under the key of an update is a context the run has had. -/
  logged : ∀ event ∈ state.tasks.events.rows, isContextKey event.idempotencyKey = true →
    ∃ held ∈ state.held, held.runId = event.taskRunId ∧
      event.idempotencyKey = contextKeyHead ++ versionedRef held.contextId held.contextRevision

theorem LineageKept.initial : LineageKept LineageState.initial where
  present := forall_mem_nil _
  current _ _ found := absurd found (by simp [LineageState.initial, TaskStore.empty])
  latest _ _ _ _ member := absurd member not_mem_nil
  logged := forall_mem_nil _

/-- **An accepted update goes forward**: it names a later revision of its context
than any the run has had. -/
theorem LineageKept.forward (kept : LineageKept state)
    (forward : ForksForward state (.updateContext runId manifest streamName producer eventId now))
    (ok : updateTaskContext state.tasks runId manifest streamName producer eventId now =
      .ok (view, next)) {held : HeldContext} (member : held ∈ state.held)
    (ofRun : held.runId = runId) (ofContext : held.contextId = manifest.contextId) :
    held.contextRevision < manifest.contextRevision := by
  obtain ⟨run, -, -, found, -⟩ := updateTaskContext_ok ok
  by_cases same : manifest.contextId = run.contextId
  · have below := kept.latest runId run found held member ofRun (ofContext.trans same)
    exact lt_of_le_of_lt below (updateTaskContext_lineage ok found same)
  · exact forward run found same held member ofRun ofContext

/-- **An accepted update is logged**: no event has used its key. -/
theorem LineageKept.logs (kept : LineageKept state)
    (forward : ForksForward state (.updateContext runId manifest streamName producer eventId now))
    (ok : updateTaskContext state.tasks runId manifest streamName producer eventId now =
      .ok (view, next)) :
    ∃ event, next.events.rows = state.tasks.events.rows ++ [event] ∧ event.taskRunId = runId ∧
      event.eventType = .contextUpdated ∧
      event.idempotencyKey = contextKeyHead ++ contextManifestRef manifest := by
  obtain ⟨run, grown, contextVersionId, -, -, grows, logs⟩ := updateTaskContext_ok ok
  rcases logs.events with ⟨⟨event, member, key⟩, -⟩ | ⟨event, adds, rows, -⟩
  · -- the key would be one of a context the run has had, and the update goes past those
    exfalso
    obtain ⟨listed, ofRun⟩ := mem_eventsOf.1 member
    have listed : event ∈ state.tasks.events.rows := grows.events ▸ listed
    have isKey : isContextKey event.idempotencyKey = true := by
      rw [key]
      exact isContextKey_contextUpdated runId manifest producer streamName
    obtain ⟨held, heldMember, heldRun, heldKey⟩ := kept.logged event listed isKey
    obtain ⟨sameContext, sameRevision⟩ := contextUpdated_key_inj (heldKey.symm.trans key)
    have below := kept.forward forward ok heldMember (heldRun.trans ofRun) sameContext
    exact absurd sameRevision below.ne
  · obtain ⟨owner, -, made⟩ := adds.run
    refine ⟨event, rows.trans ?_, ?_, ?_, ?_⟩
    · rw [TaskStore.updateRun, grows.events]
    · rw [made]; rfl
    · rw [made]; rfl
    · rw [made]; rfl

theorem LineageKept.step {next : LineageState} (kept : LineageKept state)
    (forward : ForksForward state op) (ok : lineageSystem op state = .ok (answer, next)) :
    LineageKept next := by
  obtain ⟨⟨_, tasks⟩, called, ok⟩ := bind_eq_ok.1 ok
  cases ok
  have effect := effect_of_ok called
  have earlier : ∀ held ∈ state.held ++ tasks.runs.rows.map (·.held), held ∈ state.held ∨
      ∃ run, tasks.runs.get? held.runId = some run ∧ run.held = held := by
    intro held member
    rcases mem_append.1 member with old | new
    · exact .inl old
    · obtain ⟨run, listed, rfl⟩ := mem_map.1 new
      exact .inr ⟨run, get?_of_mem listed, rfl⟩
  have listed : ∀ runId run, tasks.runs.get? runId = some run →
      run.held ∈ state.held ++ tasks.runs.rows.map (·.held) := by
    intro runId run found
    exact mem_append_right _ (mem_map_of_mem (mem_of_get? found))
  constructor
  case present =>
    intro held member
    rcases earlier held member with old | ⟨run, found, -⟩
    · obtain ⟨run, found⟩ := kept.present held old
      obtain ⟨after, later, -⟩ := effect.row found
      exact ⟨after, later⟩
    · exact ⟨run, found⟩
  case current => exact listed
  case latest =>
    intro runId run found held member ofRun ofContext
    rcases earlier held member with old | ⟨other, otherFound, rfl⟩
    · rcases keepsContexts_of_ok forward called with keeps | ⟨changed, manifest, streamName, producer,
        eventId, now, view, rfl, updated⟩
      · rcases keeps.rows runId run found with absent | ⟨before, beforeFound, same⟩
        · -- the run is new, and what it has had is of runs that were there
          obtain ⟨prior, priorFound⟩ := kept.present held old
          rw [ofRun, absent] at priorFound
          cases priorFound
        · obtain ⟨-, sameContext, sameRevision⟩ := HeldContext.mk.inj same
          rw [sameRevision]
          exact kept.latest runId before beforeFound held old ofRun (ofContext.trans sameContext)
      · obtain ⟨-, grown, contextVersionId, -, -, grows, logs⟩ := updateTaskContext_ok updated
        rcases row_of_rewrite grows logs found with ⟨rfl, before, -, rfl⟩ | same
        · exact (kept.forward forward updated old ofRun ofContext).le
        · exact kept.latest runId run same held old ofRun ofContext
    · have sameRun : other.runId = runId := ofRun
      rw [show other.held.runId = other.runId from rfl, sameRun, found] at otherFound
      cases otherFound
      exact le_rfl
  case logged =>
    intro event member isKey
    have carried : event ∈ state.tasks.events.rows →
        ∃ held ∈ state.held ++ tasks.runs.rows.map (·.held), held.runId = event.taskRunId ∧
          event.idempotencyKey = contextKeyHead ++ versionedRef held.contextId held.contextRevision := by
      intro old
      obtain ⟨held, heldMember, ofRun, key⟩ := kept.logged event old isKey
      exact ⟨held, mem_append_left _ heldMember, ofRun, key⟩
    rcases keepsContexts_of_ok forward called with keeps | ⟨changed, manifest, streamName, producer,
      eventId, now, view, rfl, updated⟩
    · rcases keeps.events event member with old | ordinary
      · exact carried old
      · rw [ordinary] at isKey
        cases isKey
    · obtain ⟨added, rows, ofRun, -, key⟩ := kept.logs forward updated
      rw [rows, mem_append, mem_singleton] at member
      rcases member with old | rfl
      · exact carried old
      · obtain ⟨before, grown, contextVersionId, found, -, grows, logs⟩ := updateTaskContext_ok updated
        have moved : tasks.runs.get? changed =
            some (before.withContext manifest contextVersionId now) := by
          rw [logs.runs, get?_updateRun, if_pos rfl, grows.runs, found]
          rfl
        refine ⟨_, listed changed _ moved, ?_, key⟩
        show before.runId = _
        rw [ofRun]
        exact key_of_get? found

/-! ## Whole runs -/

theorem tasks_run (state : LineageState) (ops : List TaskOp) :
    (run lineageSystem state ops).tasks = run taskService state.tasks ops := by
  induction ops generalizing state with
  | nil => rfl
  | cons op rest ih =>
      rw [run_cons, run_cons, ih]
      congr 1
      cases called : taskService op state.tasks with
      | error raised =>
          rw [transact_of_error called]
          have failed : lineageSystem op state = .error raised := by rw [lineageSystem, called]; rfl
          rw [transact_of_error failed]
      | ok result =>
          obtain ⟨answer, tasks⟩ := result
          rw [transact_of_ok called]
          have succeeded : lineageSystem op state =
              .ok (answer, ⟨tasks, state.held ++ tasks.runs.rows.map (·.held)⟩) := by
            rw [lineageSystem, called]
            rfl
          rw [transact_of_ok succeeded]

/-- What a run has had stays recorded. -/
theorem held_run {held : HeldContext} (member : held ∈ state.held) (ops : List TaskOp) :
    held ∈ (run lineageSystem state ops).held := by
  have preserved : ∀ (before : LineageState) op answer next, held ∈ before.held →
      lineageSystem op before = .ok (answer, next) → held ∈ next.held := by
    intro before op answer next present ok
    obtain ⟨⟨_, tasks⟩, -, ok⟩ := bind_eq_ok.1 ok
    cases ok
    exact mem_append_left _ present
  exact run_invariant preserved member ops

def lineageAfter (ops : List TaskOp) : LineageState := run lineageSystem LineageState.initial ops

/-- What an accepted update has to do: the run comes to a revision of a context that
it has not had before, and gets an event of its own for it. -/
structure KeepsLineage (before : List TaskOp) (runId : String) (manifest : ContextManifest)
    (next : TaskStore) : Prop where
  moved : ∃ run, next.runs.get? runId = some run ∧ run.contextId = manifest.contextId ∧
    run.contextRevision = manifest.contextRevision
  unvisited : ∀ early, early <+: before → ∀ run, (storeAfter early).runs.get? runId = some run →
    (run.contextId, run.contextRevision) ≠ (manifest.contextId, manifest.contextRevision)
  logged : ∃ event, next.eventsOf runId = (storeAfter before).eventsOf runId ++ [event] ∧
    event.eventType = .contextUpdated ∧
    event.idempotencyKey = contextKeyHead ++ contextManifestRef manifest

/-- The lineage of contexts is acyclic along a run. -/
def LineageAcyclic (ops : List TaskOp) : Prop :=
  ∀ before after runId manifest streamName producer eventId now view next,
    ops = before ++ .updateContext runId manifest streamName producer eventId now :: after →
      updateTaskContext (storeAfter before) runId manifest streamName producer eventId now =
          .ok (view, next) →
        KeepsLineage before runId manifest next

/-- **Context lineage.**  In every run of calls whose forks go forward, each accepted
update takes its run to a revision of a context that it has never had before, and
appends its own event. -/
theorem lineageAcyclic_of_forksForward (ops : List TaskOp)
    (forward : Along lineageSystem ForksForward LineageState.initial ops) : LineageAcyclic ops := by
  intro before after runId manifest streamName producer eventId now view next split updated
  rw [split] at forward
  obtain ⟨earlier, here⟩ := forward.at_step
  have kept : LineageKept (lineageAfter before) :=
    run_invariant_along (fun _ _ _ _ kept forward answered => kept.step forward answered)
      LineageKept.initial before earlier
  have tasks : (lineageAfter before).tasks = storeAfter before := tasks_run _ before
  rw [← tasks] at updated
  constructor
  case moved =>
    obtain ⟨run, grown, contextVersionId, found, -, grows, logs⟩ := updateTaskContext_ok updated
    refine ⟨run.withContext manifest contextVersionId now, ?_, rfl, rfl⟩
    rw [logs.runs, get?_updateRun, if_pos rfl, grows.runs, found]
    rfl
  case unvisited =>
    rintro early ⟨rest, rfl⟩ run found same
    obtain ⟨sameContext, sameRevision⟩ := Prod.mk.inj same
    have keptEarly : LineageKept (lineageAfter early) :=
      run_invariant_along (fun _ _ _ _ kept forward answered => kept.step forward answered)
        LineageKept.initial early earlier.of_append.1
    have tasksEarly : (lineageAfter early).tasks = storeAfter early := tasks_run _ early
    rw [← tasksEarly] at found
    have member : run.held ∈ (lineageAfter (early ++ rest)).held := by
      rw [lineageAfter, run_append]
      exact held_run (keptEarly.current runId run found) rest
    have ofRun : run.held.runId = runId := (Table.get?_eq_some.1 found).2
    exact absurd sameRevision (kept.forward here updated member ofRun sameContext).ne
  case logged =>
    obtain ⟨event, rows, ofRun, type, key⟩ := kept.logs here updated
    refine ⟨event, ?_, type, key⟩
    rw [← tasks, eventsOf_append rows, if_pos ofRun]

/-! ## A fork that is come back to -/

/-- The run `parent` is created in its context. -/
def parentCreated : TaskOp :=
  .create { contract := investigationContract, manifest := parentManifest,
            role := investigationRole, executionEnvelopeRef := "execution:parent",
            streamName := "task-events", runId := some "parent" } "uuid-1" "event-1" 1

/-- The context of `parent`, entered again from its fork at another revision. -/
def returnedManifest (revision : ℕ) (positive : 1 ≤ revision) : ContextManifest :=
  { parentManifest with
    contextRevision := revision
    parentContextId := some "context:fork"
    revision_pos := positive }

/-- The run `parent` moves to a context. -/
def parentMoves (manifest : ContextManifest) (eventId : String) (now : ℤ) : TaskOp :=
  .updateContext "parent" manifest "task-events" "task-runtime" eventId now

/-- The run forks its context and comes back to a later revision of it. -/
def forkedAndReturned : List TaskOp :=
  [ parentCreated, parentMoves (forkContext parentManifest "context:fork") "event-2" 2,
    parentMoves (returnedManifest 2 Nat.two_pos) "event-3" 3 ]

theorem lineageAcyclic_forkedAndReturned : LineageAcyclic forkedAndReturned :=
  lineageAcyclic_of_forksForward forkedAndReturned (by decide +kernel)

/-- **A run returns to its fork**: it forks, comes back to a later revision of its
context, and forks to the same revision of the same context again. -/
theorem update_returns_to_fork : ¬ ∀ ops, LineageAcyclic ops := by
  intro acyclic
  let fork := forkContext parentManifest "context:fork"
  have accepted : (updateTaskContext (storeAfter forkedAndReturned) "parent" fork "task-events"
      "task-runtime" "event-4" 4).toOption.isSome = true := by
    decide +kernel
  obtain ⟨⟨view, next⟩, updated⟩ := isSome_iff_exists.1 accepted
  have kept := acyclic (forkedAndReturned ++ [parentMoves fork "event-4" 4]) forkedAndReturned []
    "parent" fork "task-events" "task-runtime" "event-4" 4 view next rfl
    (toOption_eq_some.1 updated)
  have forked : ((storeAfter (forkedAndReturned.take 2)).runs.get? "parent").map
      (fun run => (run.contextId, run.contextRevision)) =
        some (fork.contextId, fork.contextRevision) := by
    decide +kernel
  obtain ⟨run, found, same⟩ := map_eq_some_iff.1 forked
  exact kept.unvisited (forkedAndReturned.take 2) (List.take_prefix 2 _) run found same

end SecFusion.TaskRuntime
