import SecFusion.Investigation.Parking

/-!
# What wakes a watched case

A case that has been parked is watched: a change of the world that affects it makes
it active again, and the worker derives a new run of its watch in the same
transaction.  The two are not tied to each other.  When the worker declines the
wake, because the background models are paused, the port denies it or the last run
was not parked, the case stays active with no run that would park it, and later
changes do not try again, for they only wake cases that wait
(`wake_declined_strands_case`).

`Wakeable` is what the watch promises of a case, and `KeepsWatch` says of a step
that it does not leave a case without it.  As long as all steps do so every watched
case can be woken, and a change whose wake is declined leaves a case that cannot
(`watched_case_wakeable`).

The wakes of one change are tried one case after another.  What the wake of a case
reads of the task store is not changed by those of the others (`SameWatch`), since
each creates a run of its own case only.
-/

namespace SecFusion.Investigation

open Foundations Intelligence TaskRuntime

variable {ended : String → Prop} {tasks next : TaskStore}

/-- Calls that end fewer runs. -/
theorem Calls.mono {wider : String → Prop} (calls : Calls ended tasks next)
    (within : ∀ runId, ended runId → wider runId) : Calls wider tasks next := by
  refine Relation.ReflTransGen.mono (fun before after call => ?_) tasks next calls
  obtain ⟨op, answer, ok, ends⟩ := call
  exact ⟨op, answer, ok, fun runId named => within runId (ends runId named)⟩

/-! ## The runs of a watch -/

/-- A run of a watch of the case has not ended. -/
def LiveWatch (tasks : TaskStore) (caseId : String) : Prop :=
  ∃ run ∈ watchRunsOf tasks caseId, run.status.isTerminal = false

instance liveWatchDecidable (tasks : TaskStore) (caseId : String) :
    Decidable (LiveWatch tasks caseId) :=
  inferInstanceAs (Decidable (∃ run ∈ watchRunsOf tasks caseId, run.status.isTerminal = false))

variable {caseId other triggerRef runId : String} {run : TaskRunModel} {contract : TaskContract}
  {cases nextCases loaded store : CaseStore} {impact : WorldChangeImpact} {call : WorldChangeCall}
  {impacts : List WorldChangeImpact} {state after : WatchState} {role : Role} {tasks : TaskStore}
  {now : ℤ} {held : HeldFrame} {op : WatchOp} {answer : CaseAnswer} {caseIds : List String}

theorem mem_watchRunsOf :
    run ∈ watchRunsOf tasks caseId ↔ tasks.runs.get? run.runId = some run ∧
      run.caseId = some caseId ∧ isWatchRun tasks run = true := by
  rw [watchRunsOf, mem_select, Bool.and_eq_true, decide_eq_true_eq]
  exact and_congr_left fun _ => ⟨get?_of_mem, fun found => mem_of_get? found⟩

theorem isWatchRun_eq_true :
    isWatchRun tasks run = true ↔ ∃ contract,
      tasks.contracts.get? run.taskContractVersionId = some contract ∧
      contract.contractJson.taskKind = .watchIncident := by
  rw [isWatchRun, Option.any_eq_true]
  simp only [decide_eq_true_eq]

/-- A run of a watch that the calls do not end goes on. -/
theorem LiveWatch.of_run (calls : Calls ended tasks next) (listed : run ∈ watchRunsOf tasks caseId)
    (live : run.status.isTerminal = false) (other : ¬ ended run.runId) : LiveWatch next caseId := by
  obtain ⟨found, ofCase, watches⟩ := mem_watchRunsOf.1 listed
  obtain ⟨contract, contractFound, kind⟩ := isWatchRun_eq_true.1 watches
  obtain ⟨later, laterFound, sameCase, sameContract⟩ := calls.kept found
  obtain ⟨again, againFound, stillLive⟩ := calls.live found live other
  obtain rfl := mem_unique laterFound againFound
  have key : later.runId = run.runId := key_of_get? laterFound
  refine ⟨later, mem_watchRunsOf.2 ⟨key ▸ laterFound, sameCase.trans ofCase, ?_⟩, stillLive⟩
  refine isWatchRun_eq_true.2 ⟨contract, ?_, kind⟩
  rw [sameContract]
  exact calls.contracts contractFound

theorem LiveWatch.calls (live : LiveWatch tasks caseId) (calls : Calls (fun _ => False) tasks next) :
    LiveWatch next caseId := by
  obtain ⟨run, listed, goesOn⟩ := live
  exact .of_run calls listed goesOn id

/-- Every run has the version of its contract stored. -/
def ContractsStored (tasks : TaskStore) : Prop :=
  ∀ runId run, tasks.runs.get? runId = some run →
    ∃ contract, tasks.contracts.get? run.taskContractVersionId = some contract

theorem ContractsStored.empty : ContractsStored TaskStore.empty := by
  intro runId run found
  simp [TaskStore.empty] at found

theorem ContractsStored.effect (stored : ContractsStored tasks) (effect : Effect tasks next) :
    ContractsStored next := by
  intro runId run found
  have kept : ∀ {old : TaskRunModel}, tasks.runs.get? runId = some old →
      old.taskContractVersionId = run.taskContractVersionId →
        ∃ contract, next.contracts.get? run.taskContractVersionId = some contract := by
    intro old oldFound same
    obtain ⟨contract, contractFound⟩ := stored runId old oldFound
    exact ⟨contract, same ▸ effect.contracts contractFound⟩
  cases effect with
  | idle => exact kept found rfl
  | logged logs => exact kept (logs.runs ▸ found) rfl
  | created grows contract _ _ _ inserted logs =>
      rw [logs.runs, get?_insert? inserted, grows.runs] at found
      split at found
      next =>
        cases found
        exact ⟨_, logs.contracts ▸ contract⟩
      next => exact kept found rfl
  | rewritten grows oldFound change _ _ logs =>
      rcases row_of_rewrite grows logs found with ⟨rfl, before, beforeFound, rfl⟩ | same
      · obtain rfl := mem_unique oldFound beforeFound
        exact kept oldFound change.same.contract.symm
      · exact kept same rfl

theorem ContractsStored.calls (stored : ContractsStored tasks) (calls : Calls ended tasks next) :
    ContractsStored next := by
  induction calls with
  | refl => exact stored
  | tail _ call ih =>
      obtain ⟨op, answer, ok, -⟩ := call
      exact ih.effect (effect_of_ok ok)

/-! ## The wakes of other cases -/

/-- What the wake of a case reads of the task store is as before. -/
structure SameWatch (caseId triggerRef : String) (tasks next : TaskStore) : Prop where
  runs : watchRunsOf next caseId = watchRunsOf tasks caseId
  wake : next.runs.get? (watchWakeRunId caseId triggerRef) =
    tasks.runs.get? (watchWakeRunId caseId triggerRef)
  contracts : ∀ id row, tasks.contracts.get? id = some row → next.contracts.get? id = some row
  contexts : ∀ id row, tasks.contexts.get? id = some row → next.contexts.get? id = some row

theorem SameWatch.refl (caseId triggerRef : String) (tasks : TaskStore) :
    SameWatch caseId triggerRef tasks tasks :=
  ⟨rfl, rfl, fun _ _ found => found, fun _ _ found => found⟩

theorem watchWakeRunId_injective
    (same : watchWakeRunId caseId triggerRef = watchWakeRunId other triggerRef) :
    caseId = other := by
  have lists := congrArg String.toList same
  exact toList_inj.1 (by simpa [watchWakeRunId, stableId] using lists)

theorem watchWakeRunId_ne_empty (caseId triggerRef : String) :
    watchWakeRunId caseId triggerRef ≠ "" := by
  intro empty
  have lists := congrArg String.toList empty
  simp [watchWakeRunId, stableId] at lists

/-- What the queueing of a run adds: the run, and nothing that another case sees. -/
structure Queued (tasks next : TaskStore) (caseId runId : String) (contract : TaskContract) :
    Prop where
  run : ∃ run row, next.runs.get? runId = some run ∧ run.caseId = some caseId ∧
    run.status = .queued ∧ next.contracts.get? run.taskContractVersionId = some row ∧
    row.contractJson = contract
  others : ∀ other, other ≠ runId → next.runs.get? other = tasks.runs.get? other
  unseen : ∀ condition : TaskRunModel → Bool, (∀ run, run.caseId = some caseId → condition run = false) →
    next.runs.select condition = tasks.runs.select condition
  contracts : ∀ id row, tasks.contracts.get? id = some row → next.contracts.get? id = some row
  contexts : ∀ id row, tasks.contexts.get? id = some row → next.contexts.get? id = some row

theorem Queues.queued (queues : Queues tasks next caseId runId contract) (named : runId ≠ "") :
    Queued tasks next caseId runId contract := by
  obtain ⟨request, created, view, eventId, now, rfl, ofCase, asked, creates, move, moved, moveId,
    sameRun, target, moves⟩ := queues
  obtain ⟨grown, runs, contractRow, contextVersionId, grows, contract, sameContract, -, -,
    inserted, logs⟩ := createTaskRun_ok creates
  obtain ⟨_, -, -, -, moveLogs⟩ := transitionTaskRun_ok moves
  have resolved : resolveRunId request.runId "" = runId := by
    rw [asked, resolveRunId, if_neg named]
  rw [resolved] at inserted
  generalize added : newTaskRun request runId contractRow.taskContractVersionId contextVersionId now = run
    at inserted
  have key : run.runId = runId := added ▸ rfl
  have here : run.caseId = some caseId := added ▸ ofCase
  have looks : ∀ other, created.runs.get? other =
      if runId = other then some run else tasks.runs.get? other := by
    intro other
    rw [logs.runs, get?_insert? inserted, grows.runs, key]
  have moved : ∀ other, next.runs.get? other =
      if runId = other then (created.runs.get? other).map (·.withTransition move now)
      else created.runs.get? other := by
    intro other
    rw [moveLogs.runs, get?_updateRun, sameRun]
  have sameContracts : next.contracts = grown.contracts := moveLogs.contracts.trans logs.contracts
  have sameContexts : next.contexts = grown.contexts := moveLogs.contexts.trans logs.contexts
  constructor
  case run =>
    refine ⟨run.withTransition move now, contractRow, ?_, here, target, ?_, sameContract⟩
    · rw [moved, if_pos rfl, looks, if_pos rfl]
      rfl
    · rw [sameContracts, ← contract, ← added]
      rfl
  case others =>
    intro other different
    rw [moved, if_neg different.symm, looks, if_neg different.symm]
  case unseen =>
    intro condition unseen
    have moving : next.runs.select condition = created.runs.select condition := by
      rw [moveLogs.runs]
      refine Table.select_update (·.withTransition_runId move now) fun row member same => ?_
      have found := get?_of_mem member
      rw [same, sameRun, looks, if_pos rfl] at found
      cases found
      exact ⟨unseen _ here, unseen _ here⟩
    rw [moving, logs.runs, Table.select_insert? inserted (unseen _ here), grows.runs]
  case contracts =>
    intro id row found
    rw [sameContracts]
    exact grows.contracts id row found
  case contexts =>
    intro id row found
    rw [sameContexts]
    exact grows.contexts id row found

/-- A queued run of a watch is a live run of its case. -/
theorem Queued.live (queued : Queued tasks next caseId runId contract)
    (kind : contract.taskKind = .watchIncident) : LiveWatch next caseId := by
  obtain ⟨run, row, found, ofCase, status, rowFound, same⟩ := queued.run
  have key : run.runId = runId := key_of_get? found
  refine ⟨run, mem_watchRunsOf.2 ⟨key ▸ found, ofCase, ?_⟩, by rw [status]; rfl⟩
  exact isWatchRun_eq_true.2 ⟨row, rowFound, same ▸ kind⟩

/-- The wake of one case is not seen by that of another. -/
theorem Queued.sameWatch
    (queued : Queued tasks next other (watchWakeRunId other triggerRef) contract)
    (stored : ContractsStored tasks) (different : caseId ≠ other) :
    SameWatch caseId triggerRef tasks next := by
  refine ⟨?_, ?_, queued.contracts, queued.contexts⟩
  · have unseen : ∀ run : TaskRunModel, run.caseId = some other →
        (decide (run.caseId = some caseId) && isWatchRun next run) = false := by
      intro run ofOther
      rw [ofOther, decide_eq_false fun same => different (Option.some.inj same).symm, Bool.false_and]
    rw [watchRunsOf, watchRunsOf, queued.unseen _ unseen]
    refine filter_congr fun run member => ?_
    obtain ⟨contract, found⟩ := stored run.runId run (get?_of_mem member)
    rw [isWatchRun, isWatchRun, found, queued.contracts _ _ found]
  · exact queued.others _ fun same => different (watchWakeRunId_injective same)

/-! ## Admitted wakes -/

/-- **The wake of a case is not declined**: its run is new, the last run of its watch
was parked, and the port does not deny the run that is derived from it. -/
def WakeAdmitted (tasks : TaskStore) (caseId : String) (call : WakeCall) (worldRevision : ℕ) :
    Prop :=
  tasks.runs.get? (watchWakeRunId caseId call.triggerRef) = none ∧
    ∃ template ∈ watchTemplate? tasks caseId, template.stopReason = some waitingForWorldUpdate ∧
      ∃ contract ∈ tasks.contracts.get? template.taskContractVersionId,
        ∃ context ∈ tasks.contexts.get? template.contextManifestVersionId,
          ∀ admission ∈ (call.admitWake (admissionRequest contract.contractJson context.manifestJson
            template caseId call.triggerRef worldRevision)).toOption, admission.allowed = true

instance wakeAdmittedDecidable (tasks : TaskStore) (caseId : String) (call : WakeCall)
    (worldRevision : ℕ) : Decidable (WakeAdmitted tasks caseId call worldRevision) :=
  inferInstanceAs (Decidable (_ ∧ ∃ template ∈ watchTemplate? tasks caseId, _ ∧
    ∃ contract ∈ tasks.contracts.get? template.taskContractVersionId,
      ∃ context ∈ tasks.contexts.get? template.contextManifestVersionId,
        ∀ admission ∈ (call.admitWake (admissionRequest contract.contractJson context.manifestJson
          template caseId call.triggerRef worldRevision)).toOption, admission.allowed = true))

theorem mem_watchRunsOf_of_template {template : TaskRunModel}
    (derived : watchTemplate? tasks caseId = some template) :
    template ∈ watchRunsOf tasks caseId := by
  have listed := List.mem_of_mem_head? derived
  exact (perm_insertionSort _ _).mem_iff.1 listed

theorem spawnForWorldChange_live {call : WakeCall} {result : WatchWakeResult}
    (activated : impact.caseActivated = true)
    (active : ∃ row, cases.cases.get? impact.caseId = some row ∧ row.status = .active)
    (idle : ¬ LiveWatch tasks impact.caseId)
    (admitted : WakeAdmitted tasks impact.caseId call impact.worldRevision)
    (ok : spawnForWorldChange cases tasks impact call = .ok (result, nextCases, next)) :
    LiveWatch next impact.caseId := by
  obtain ⟨row, found, status⟩ := active
  obtain ⟨fresh, template, derived, parked, contract, contractFound, context, contextFound,
    permits⟩ := admitted
  have listed := mem_watchRunsOf_of_template derived
  have terminal : template.status.isTerminal = true := by
    by_contra live
    exact idle ⟨template, listed, Bool.eq_false_iff.2 live⟩
  unfold spawnForWorldChange at ok
  dsimp only at ok
  rw [if_neg (by simp [activated])] at ok
  obtain ⟨again, foundAgain, ok⟩ := bind_eq_ok.1 ok
  obtain rfl : row = again := by
    unfold getCase at foundAgain
    exact Option.some.inj (found.symm.trans (fetch_eq_ok.1 foundAgain))
  rw [if_neg (not_not.2 status), fresh, mem_def.1 derived] at ok
  dsimp only at ok
  unfold deriveWake at ok
  dsimp only at ok
  rw [if_neg (by simp [terminal]), if_neg (not_not.2 parked)] at ok
  simp only [fetch_bind_eq_ok, mem_def.1 contractFound, mem_def.1 contextFound,
    some.injEq] at ok
  obtain ⟨_, rfl, _, rfl, ok⟩ := ok
  obtain ⟨admission, admits, ok⟩ := bind_eq_ok.1 ok
  have allowed : admission.allowed = true := permits admission (toOption_eq_some.2 admits)
  rw [if_neg (by simp [allowed])] at ok
  obtain ⟨-, queues⟩ := queueWake_ok ok
  obtain ⟨stored, storedFound, kind⟩ := isWatchRun_eq_true.1 (mem_watchRunsOf.1 listed).2.2
  obtain rfl := mem_unique contractFound storedFound
  exact (queues.queued (watchWakeRunId_ne_empty _ _)).live kind

/-! ## The wakes of a change -/

theorem Wakes.sameWatch (wakes : Wakes tasks other triggerRef next) (stored : ContractsStored tasks)
    (different : caseId ≠ other) :
    SameWatch caseId triggerRef tasks next := by
  cases wakes with
  | declined => exact .refl _ _ _
  | queued _ _ queues =>
      exact (queues.queued (watchWakeRunId_ne_empty _ _)).sameWatch stored different

theorem SameWatch.live_iff (same : SameWatch caseId triggerRef tasks next) :
    LiveWatch next caseId ↔ LiveWatch tasks caseId := by
  unfold LiveWatch
  rw [same.runs]

/-- The wake is admitted after those of other cases if it was before. -/
theorem SameWatch.admitted {call : WakeCall} {worldRevision : ℕ}
    (same : SameWatch caseId call.triggerRef tasks next)
    (admitted : WakeAdmitted tasks caseId call worldRevision) :
    WakeAdmitted next caseId call worldRevision := by
  obtain ⟨fresh, template, derived, parked, contract, contractFound, context, contextFound,
    permits⟩ := admitted
  refine ⟨same.wake.trans fresh, template, ?_, parked, contract,
    same.contracts _ _ contractFound, context, same.contexts _ _ contextFound, permits⟩
  unfold watchTemplate? at derived ⊢
  rw [same.runs]
  exact derived

/-- **The loop wakes every case that can be woken.** -/
theorem spawnWakes_live {call : WakeCall} (stored : ContractsStored tasks)
    (unique : (impacts.map (·.caseId)).Nodup) (member : impact ∈ impacts)
    (activated : impact.caseActivated = true)
    (active : ∃ row, cases.cases.get? impact.caseId = some row ∧ row.status = .active)
    (idle : ¬ LiveWatch tasks impact.caseId)
    (admitted : WakeAdmitted tasks impact.caseId call impact.worldRevision)
    (ok : spawnWakes call cases tasks impacts = .ok (nextCases, next)) :
    LiveWatch next impact.caseId := by
  induction impacts generalizing cases tasks with
  | nil => exact absurd member not_mem_nil
  | cons first rest ih =>
      obtain ⟨absent, unique⟩ := nodup_cons.1 unique
      obtain ⟨⟨result, middleCases, middle⟩, spawned, loop⟩ := bind_eq_ok.1 ok
      obtain ⟨read, wakes⟩ := spawnForWorldChange_ok spawned
      rcases mem_cons.1 member with rfl | later
      · obtain ⟨-, goesOn⟩ := spawnWakes_ok loop
        exact (spawnForWorldChange_live activated active idle admitted spawned).calls goesOn
      · have different : impact.caseId ≠ first.caseId := by
          intro same
          simp only [← same] at absent
          exact absent (mem_map_of_mem later)
        have same := wakes.sameWatch stored different
        have calls : Calls (fun _ => False) tasks middle := wakes.calls
        rw [← read.rows] at active
        exact ih (stored.calls calls) unique later active (same.live_iff.not.2 idle)
          (same.admitted admitted) loop

/-! ## Watched cases -/

/-- The case waits or is settled. -/
def Rests (cases : CaseStore) (caseId : String) : Prop :=
  ∃ row ∈ cases.cases.get? caseId, row.status = .waiting ∨ row.status.isSettled = true

instance restsDecidable (cases : CaseStore) (caseId : String) : Decidable (Rests cases caseId) :=
  inferInstanceAs (Decidable (∃ row ∈ cases.cases.get? caseId, _))

/-- **The case can be woken, or need not be**: it waits or is settled, or a run of its
watch goes on. -/
def Wakeable (state : WatchState) (caseId : String) : Prop :=
  Rests state.cases caseId ∨ LiveWatch state.tasks caseId

instance wakeableDecidable (state : WatchState) (caseId : String) :
    Decidable (Wakeable state caseId) :=
  inferInstanceAs (Decidable (_ ∨ _))

/-- A watched case that waits, with no run of its watch. -/
def Sleeps (state : WatchState) (caseId : String) : Prop :=
  caseId ∈ state.watched ∧ (∃ row ∈ state.cases.cases.get? caseId, row.status = .waiting) ∧
    ¬ LiveWatch state.tasks caseId

instance sleepsDecidable (state : WatchState) (caseId : String) :
    Decidable (Sleeps state caseId) :=
  inferInstanceAs (Decidable (_ ∧ (∃ row ∈ state.cases.cases.get? caseId, _) ∧ _))

/-- **The step leaves no watched case without a watch**: the wakes of a change are
tried and not declined, the last run of the watch of a case is not ended while the
case is worked on, and nobody else rouses a case that has none. -/
def KeepsWatch (state : WatchState) : WatchOp → Prop
  | .worldChange call =>
      ∀ affected ∈ (relevantCaseIds state.cases call.knowledge call.change call.now).toOption,
        ∀ caseId ∈ affected.1, Sleeps state caseId → call.backgroundLlmEnabled = true ∧
          WakeAdmitted state.tasks caseId call.wake call.change.revision
  | .tasks op => ∀ runId ∈ endedRun op, ∀ caseId ∈ state.watched, Rests state.cases caseId ∨
      ∃ run ∈ watchRunsOf state.tasks caseId, run.status.isTerminal = false ∧ run.runId ≠ runId
  | .cases op _ => ∀ caseId ∈ op.rouses state.cases, ¬ Sleeps state caseId
  | .start .. | .load .. | .refresh .. | .wait .. => True

instance keepsWatchDecidable (state : WatchState) : (op : WatchOp) → Decidable (KeepsWatch state op)
  | .worldChange call => inferInstanceAs (Decidable (∀ affected ∈ (relevantCaseIds state.cases
      call.knowledge call.change call.now).toOption, ∀ caseId ∈ affected.1, _ → _))
  | .tasks op => inferInstanceAs (Decidable (∀ runId ∈ endedRun op, ∀ caseId ∈ state.watched,
      _ ∨ ∃ run ∈ watchRunsOf state.tasks caseId, _))
  | .cases op _ => inferInstanceAs (Decidable (∀ caseId ∈ op.rouses state.cases, _))
  | .start .. | .load .. | .refresh .. | .wait .. => inferInstanceAs (Decidable True)

/-- What holds of the roles and the runs in every schedule. -/
structure WatchKept (state : WatchState) : Prop where
  stored : ContractsStored state.tasks
  bound : ∀ runId role, state.roles runId = some role → ∃ caseId, BoundTo state.tasks runId caseId
  holds : ∀ runId held, heldFrame? state.roles runId = some held →
    BoundTo state.tasks runId held.frame.state.caseId

theorem WatchKept.initial : WatchKept WatchState.initial where
  stored := ContractsStored.empty
  bound _ _ found := by simp [WatchState.initial] at found
  holds _ _ found := by simp [WatchState.initial, heldFrame?] at found

/-- A step that starts no role and loads no frame. -/
theorem WatchKept.of_calls (kept : WatchKept state) (calls : Calls ended state.tasks after.tasks)
    (roles : ∀ runId role, after.roles runId = some role → state.roles runId = some role)
    (frames : ∀ runId held, heldFrame? after.roles runId = some held →
      heldFrame? state.roles runId = some held) : WatchKept after where
  stored := kept.stored.calls calls
  bound runId role found := by
    obtain ⟨caseId, bound⟩ := kept.bound runId role (roles runId role found)
    exact ⟨caseId, bound.calls calls⟩
  holds runId held found := (kept.holds runId held (frames runId held found)).calls calls

theorem role_of_ended {roles : String → Option Role}
    (found : update roles runId none other = some role) : roles other = some role := by
  rw [Function.update_apply] at found
  split at found
  next => cases found
  next => exact found

theorem WatchKept.start (kept : WatchKept state) (calls : Calls ended state.tasks tasks)
    (bound : BoundTo state.tasks runId caseId) :
    WatchKept { state with tasks, roles := update state.roles runId (some {}) } where
  stored := kept.stored.calls calls
  bound other role found := by
    dsimp only at found
    rw [Function.update_apply] at found
    split at found
    next same => exact ⟨caseId, same ▸ bound.calls calls⟩
    next =>
      obtain ⟨caseId, bound⟩ := kept.bound other role found
      exact ⟨caseId, bound.calls calls⟩
  holds other held found :=
    (kept.holds other held (heldFrame?_of_update rfl found)).calls calls

/-- A role loads the state of the case that its run is bound to. -/
theorem BoundTo.load {iteration : ℕ} {lastPercept : Option Percept} {recentPercepts : List Percept}
    {frame : InvestigationFrame} (bound : BoundTo tasks runId caseId)
    (ok : loadFrame cases tasks runId iteration lastPercept recentPercepts now =
      .ok (frame, loaded)) : BoundTo tasks runId frame.state.caseId := by
  obtain ⟨contract, desired, read, named, -, projected⟩ := loadFrame_ok ok
  obtain ⟨run, row, found, rowFound, rfl⟩ := contractForRun_ok read
  obtain ⟨again, contract, wanted, foundAgain, contractFound, wants, rfl, ofCase⟩ := bound
  obtain rfl := mem_unique found foundAgain
  obtain rfl := mem_unique rowFound contractFound
  obtain rfl : desired = wanted := Except.ok.inj (named.symm.trans wants)
  rw [caseId_of_getState projected]
  exact ⟨run, row, desired, found, rowFound, named, rfl, ofCase⟩

theorem WatchKept.load (kept : WatchKept state) (started : state.roles runId = some role)
    (bound : BoundTo state.tasks runId held.frame.state.caseId) :
    WatchKept { state with
      cases := loaded, roles := update state.roles runId (some { held := some held }) } where
  stored := kept.stored
  bound other later found := by
    dsimp only at found
    rw [Function.update_apply] at found
    split at found
    next same => exact kept.bound other role (same ▸ started)
    next => exact kept.bound other later found
  holds other later found := by
    rw [heldFrame?_update] at found
    split at found
    next same =>
      cases found
      exact same ▸ bound
    next => exact kept.holds other later found

theorem WatchKept.step (kept : WatchKept state) (ok : watchSystem op state = .ok ((), after)) :
    WatchKept after := by
  have quiet : ∀ {next : WatchState}, Calls (fun _ => True) state.tasks next.tasks →
      next.roles = state.roles → WatchKept next := by
    intro next calls roles
    refine kept.of_calls calls (fun runId role found => ?_) fun runId held found => ?_
    · rw [← roles]
      exact found
    · rw [← roles]
      exact found
  cases op with
  | cases op ordinary =>
      obtain ⟨⟨answer, cases⟩, -, ok⟩ := bind_eq_ok.1 ok
      cases ok
      exact quiet .refl rfl
  | tasks op =>
      obtain ⟨⟨answer, tasks⟩, called, ok⟩ := bind_eq_ok.1 ok
      cases ok
      exact quiet (Calls.of_ok called fun _ _ => trivial) rfl
  | start runId streamName eventIds now =>
      obtain ⟨tasks, starts, ok⟩ := bind_eq_ok.1 ok
      cases ok
      obtain ⟨calls, caseId, bound⟩ := @ensureRunning_ok (fun _ => True) _ _ _ _ _ _ starts
      exact kept.start calls bound
  | load runId iteration lastPercept recentPercepts now =>
      obtain rfl | ⟨role, frame, loaded, started, loads, rfl⟩ := load_ok ok
      · exact kept
      · obtain ⟨caseId, bound⟩ := kept.bound runId role started
        exact kept.load started (bound.load loads)
  | refresh runId knowledge streamName eventId now =>
      obtain ⟨tasks, calls, rfl⟩ := refresh_ok ok
      exact quiet calls rfl
  | wait call =>
      obtain ⟨-, rfl⟩ | ⟨held, cases, tasks, -, waits, rfl⟩ := wait_ok ok
      · exact kept
      · have calls : Calls (fun _ => True) state.tasks tasks := by
          rcases waitEpisode_ok waits with ⟨-, calls, -⟩ | ⟨-, -, calls⟩
          · exact calls.mono fun _ _ => trivial
          · exact calls.mono fun _ _ => trivial
        have ends : WatchKept { state with
            cases, tasks, roles := update state.roles call.runId none } :=
          kept.of_calls calls (fun _ _ found => role_of_ended found)
            fun _ _ found => heldFrame?_of_update rfl found
        unfold WatchState.waited
        dsimp only
        split
        · exact ⟨ends.stored, ends.bound, ends.holds⟩
        · exact ends
  | worldChange call =>
      obtain ⟨⟨impacts, cases, tasks⟩, handled, ok⟩ := bind_eq_ok.1 ok
      cases ok
      obtain ⟨_, -, -, calls⟩ := handleKnowledgeChanged_ok handled
      exact quiet calls rfl

/-! ## What a step leaves of a watch -/

/-- A settled case stays settled through every ordinary call. -/
theorem settled_of_ok {after : CaseStore} {op : CaseOp} (ordinary : op.isWorldChange = false)
    (ok : caseService op store = .ok (answer, after)) {row : InvestigationCaseModel}
    (found : store.cases.get? caseId = some row) (settled : row.status.isSettled = true) :
    Rests after caseId := by
  by_cases waits : ∃ waitId now, op = .move waitId .wait now
  · obtain ⟨waitId, now, rfl⟩ := waits
    obtain ⟨⟨view, last⟩, called, ok⟩ := bind_eq_ok.1 ok
    cases ok
    obtain ⟨-, ⟨waited, waitedFound, unsettled, -⟩, others⟩ := waitCase_rows called
    have different : caseId ≠ waitId := by
      rintro rfl
      obtain rfl := mem_unique found waitedFound
      rw [settled] at unsettled
      cases unsettled
    exact ⟨row, (others caseId different).trans found, .inr settled⟩
  · have other : ∀ waitId now, op ≠ .move waitId .wait now :=
      fun waitId now same => waits ⟨waitId, now, same⟩
    obtain ⟨later, laterFound, follows⟩ :=
      (touches_of_ok ordinary other ok).kept caseId row found
    exact ⟨later, laterFound, .inr (follows.settled settled)⟩

theorem Wakeable.of_cases {op : CaseOp} (wakeable : Wakeable state caseId)
    (watched : caseId ∈ state.watched) (ordinary : op.isWorldChange = false)
    (calm : ∀ other ∈ op.rouses state.cases, ¬ Sleeps state other)
    (ok : caseService op state.cases = .ok (answer, cases)) :
    Rests cases caseId ∨ LiveWatch state.tasks caseId := by
  by_cases live : LiveWatch state.tasks caseId
  · exact .inr live
  obtain ⟨row, found, waiting | settled⟩ := wakeable.resolve_right live
  · refine .inl (waitsOn_of_ok ordinary ok found waiting fun roused => ?_)
    exact calm caseId roused ⟨watched, ⟨row, found, waiting⟩, live⟩
  · exact .inl (settled_of_ok ordinary ok found settled)

theorem Wakeable.of_tasks {op : TaskOp} {answer : TaskAnswer} (wakeable : Wakeable state caseId)
    (others : ∀ runId ∈ endedRun op, Rests state.cases caseId ∨
      ∃ run ∈ watchRunsOf state.tasks caseId, run.status.isTerminal = false ∧ run.runId ≠ runId)
    (ok : taskService op state.tasks = .ok (answer, tasks)) :
    Rests state.cases caseId ∨ LiveWatch tasks caseId := by
  by_cases rests : Rests state.cases caseId
  · exact .inl rests
  have calls : Calls (· ∈ endedRun op) state.tasks tasks := .of_ok ok fun _ named => named
  obtain ⟨run, listed, live⟩ := wakeable.resolve_left rests
  by_cases ends : run.runId ∈ endedRun op
  · obtain ⟨other, otherListed, otherLive, different⟩ := (others run.runId ends).resolve_left rests
    refine .inr (.of_run calls otherListed otherLive fun named => different ?_)
    exact mem_unique named ends
  · exact .inr (.of_run calls listed live ends)

theorem worldRevision_of_applyCases {knowledge : KnowledgeStore} {change : KnowledgeChangeNotice}
    {eventIds : EventIds} {after : CaseStore}
    (ok : applyCases knowledge change eventIds now store caseIds = .ok (impacts, after)) :
    ∀ impact ∈ impacts, impact.worldRevision = change.revision := by
  refine applyCases_induction (motive := fun _ _ impacts _ =>
    ∀ impact ∈ impacts, impact.worldRevision = change.revision) (fun _ => forall_mem_nil _)
    (fun _ later => later) ?_ ok
  exact fun applied later => forall_mem_cons.2 ⟨(impact_of_applyCase applied).2, later⟩

/-- A sleeping case that the change affects is woken by the loop over the impacts. -/
theorem live_of_worldChange {changed : CaseStore} (stored : ContractsStored state.tasks)
    (rows : ChangedRows caseIds state.cases.cases changed.cases impacts) (unique : caseIds.Nodup)
    (revisions : ∀ impact ∈ impacts, impact.worldRevision = call.change.revision)
    (sleeps : Sleeps state caseId) (affected : caseId ∈ caseIds)
    (admitted : WakeAdmitted state.tasks caseId call.wake call.change.revision)
    (ok : spawnWakes call.wake changed state.tasks impacts = .ok (cases, tasks)) :
    LiveWatch tasks caseId := by
  obtain ⟨-, ⟨row, found, waiting⟩, idle⟩ := sleeps
  obtain ⟨impact, member, rfl, activated, active⟩ :=
    rows.activated unique caseId affected row found waiting
  rw [← revisions impact member] at admitted
  exact spawnWakes_live stored (rows.listed.nodup unique) member activated active idle admitted
    ok

theorem spawns_of_enabled (enabled : call.backgroundLlmEnabled = true)
    (ok : handleKnowledgeChanged cases tasks call = .ok (impacts, nextCases, next)) :
    ∃ changed, processChange cases call.knowledge call.change call.eventIds call.now =
        .ok (impacts, changed) ∧
      spawnWakes call.wake changed tasks impacts = .ok (nextCases, next) := by
  obtain ⟨⟨found, changed⟩, processes, ok⟩ := bind_eq_ok.1 ok
  dsimp only at ok
  rw [if_pos enabled] at ok
  obtain ⟨⟨lastCases, lastTasks⟩, spawns, ok⟩ := bind_eq_ok.1 ok
  cases ok
  exact ⟨changed, processes, spawns⟩

/-- The worker's transaction, for a case whose wake it does not decline. -/
theorem Wakeable.of_change (kept : WatchKept state) (wakeable : Wakeable state caseId)
    (watched : caseId ∈ state.watched) (keeps : KeepsWatch state (.worldChange call))
    (ok : handleKnowledgeChanged state.cases state.tasks call = .ok (impacts, cases, tasks)) :
    Rests cases caseId ∨ LiveWatch tasks caseId := by
  obtain ⟨changed, processes, read, calls⟩ :=
    @handleKnowledgeChanged_ok (fun _ => False) _ _ _ _ _ _ ok
  by_cases live : LiveWatch state.tasks caseId
  · exact .inr (live.calls calls)
  obtain ⟨row, found, waiting | settled⟩ := wakeable.resolve_right live
  case inr =>
    obtain ⟨_, _, -, -, rows⟩ := processChange_rows processes
    obtain ⟨later, laterFound, follows⟩ := rows.touches.kept caseId row found
    exact .inl ⟨later, by rw [read.rows]; exact laterFound, .inr (follows.settled settled)⟩
  obtain ⟨caseIds, loaded, relevant, unique, rows⟩ := processChange_rows processes
  by_cases affected : caseId ∈ caseIds
  · have sleeps : Sleeps state caseId := ⟨watched, ⟨row, found, waiting⟩, live⟩
    obtain ⟨enabled, admitted⟩ :=
      keeps (caseIds, loaded) (toOption_eq_some.2 relevant) caseId affected sleeps
    obtain ⟨again, sameProcess, spawns⟩ := spawns_of_enabled enabled ok
    obtain rfl : changed = again :=
      congrArg Prod.snd (Except.ok.inj (processes.symm.trans sameProcess))
    obtain ⟨_, -, applied⟩ := bind_eq_ok.1 processes
    exact .inr (live_of_worldChange kept.stored rows unique (worldRevision_of_applyCases applied)
      sleeps affected admitted spawns)
  · -- the change does not affect the case, which waits on
    refine .inl ⟨row, ?_, .inl waiting⟩
    rw [read.rows, rows.touches.others caseId affected]
    exact found

theorem watched_waited (state : WatchState) (held : HeldFrame) (call : WaitCall)
    (cases : CaseStore) (tasks : TaskStore) :
    (state.waited held call cases tasks).tasks = tasks ∧
      (state.waited held call cases tasks).watched =
        if Parks held.frame call.reason then held.frame.state.caseId :: state.watched
        else state.watched := by
  unfold WatchState.waited
  dsimp only
  split <;> exact ⟨rfl, rfl⟩

/-- An episode that waits leaves its own case waiting, or goes on. -/
theorem Wakeable.of_wait {call : WaitCall} (kept : WatchKept state)
    (wakeable : caseId ∈ state.watched → Wakeable state caseId)
    (holds : heldFrame? state.roles call.runId = some held)
    (watched : caseId ∈ (state.waited held call cases tasks).watched)
    (ok : waitEpisode state.cases state.tasks held.frame call = .ok (cases, tasks)) :
    Rests cases caseId ∨ LiveWatch tasks caseId := by
  rw [(watched_waited state held call cases tasks).2] at watched
  rcases waitEpisode_ok ok with
    ⟨parks, calls, activated, before, after, activates, waits⟩ | ⟨other, rfl, calls⟩
  · rw [if_pos parks] at watched
    obtain ⟨⟨row, found, waiting⟩, -, others⟩ := waitCase_rows waits
    by_cases same : caseId = held.frame.state.caseId
    · exact .inl ⟨row, by rw [same]; exact found, .inl waiting⟩
    · -- the run that has ended is one of the parked case
      rcases wakeable ((mem_cons.1 watched).resolve_left same) with ⟨row, found, rests⟩ | live
      · refine .inl ⟨row, ?_, rests⟩
        rw [others caseId same, (Touches.of_activate activates).others caseId same]
        exact found
      · obtain ⟨run, listed, goesOn⟩ := live
        refine .inr (.of_run calls listed goesOn fun ends => same ?_)
        obtain ⟨found, ofCase, -⟩ := mem_watchRunsOf.1 listed
        obtain ⟨bound, _, _, boundFound, -, -, -, ofFrame⟩ := kept.holds call.runId held holds
        rw [ends] at found
        obtain rfl := mem_unique found boundFound
        exact mem_unique ofCase ofFrame
  · rw [if_neg other] at watched
    exact (wakeable watched).imp id fun live => live.calls calls

/-- **Watched cases stay wakeable** through every step that keeps their watch. -/
theorem Wakeable.step (kept : WatchKept state)
    (wakeable : ∀ caseId ∈ state.watched, Wakeable state caseId) (keeps : KeepsWatch state op)
    (ok : watchSystem op state = .ok ((), after)) :
    ∀ caseId ∈ after.watched, Wakeable after caseId := by
  intro caseId watched
  cases op with
  | cases op ordinary =>
      obtain ⟨⟨answer, cases⟩, called, ok⟩ := bind_eq_ok.1 ok
      cases ok
      exact (wakeable caseId watched).of_cases watched ordinary keeps called
  | tasks op =>
      obtain ⟨⟨answer, tasks⟩, called, ok⟩ := bind_eq_ok.1 ok
      cases ok
      exact (wakeable caseId watched).of_tasks (fun runId ends => keeps runId ends caseId watched)
        called
  | start runId streamName eventIds now =>
      obtain ⟨tasks, starts, ok⟩ := bind_eq_ok.1 ok
      cases ok
      obtain ⟨calls, -⟩ := ensureRunning_ok starts
      exact (wakeable caseId watched).imp id fun live => live.calls calls
  | load runId iteration lastPercept recentPercepts now =>
      obtain rfl | ⟨_, frame, loaded, -, loads, rfl⟩ := load_ok ok
      · exact wakeable caseId watched
      · obtain ⟨contract, desired, -, -, -, read⟩ := loadFrame_ok loads
        refine (wakeable caseId watched).imp (fun rests => ?_) id
        obtain ⟨row, found, rests⟩ := rests
        exact ⟨row, by rw [cases_of_getState read]; exact found, rests⟩
  | refresh runId knowledge streamName eventId now =>
      obtain ⟨tasks, calls, rfl⟩ := refresh_ok ok
      exact (wakeable caseId watched).imp id fun live => live.calls calls
  | wait call =>
      obtain ⟨-, rfl⟩ | ⟨held, cases, tasks, holds, waits, rfl⟩ := wait_ok ok
      · exact wakeable caseId watched
      · unfold Wakeable
        rw [(cases_waited state held call cases tasks).1,
          (watched_waited state held call cases tasks).1]
        exact Wakeable.of_wait kept (wakeable caseId) holds watched waits
  | worldChange call =>
      obtain ⟨⟨impacts, cases, tasks⟩, handled, ok⟩ := bind_eq_ok.1 ok
      cases ok
      exact (wakeable caseId watched).of_change kept watched keeps handled

/-- **A watched case can always be woken** in a schedule whose steps keep its watch. -/
theorem watched_case_wakeable (ops : List WatchOp)
    (keeps : Along watchSystem KeepsWatch WatchState.initial ops) :
    ∀ caseId ∈ (watchStateAfter ops).watched, Wakeable (watchStateAfter ops) caseId := by
  have step : ∀ (state : WatchState) (op : WatchOp) (answer : Unit) (next : WatchState),
      (WatchKept state ∧ ∀ caseId ∈ state.watched, Wakeable state caseId) → KeepsWatch state op →
        watchSystem op state = .ok (answer, next) →
          WatchKept next ∧ ∀ caseId ∈ next.watched, Wakeable next caseId := by
    rintro state op ⟨⟩ next ⟨kept, wakeable⟩ keeps answered
    exact ⟨kept.step answered, Wakeable.step kept wakeable keeps answered⟩
  have initially : ∀ caseId ∈ WatchState.initial.watched, Wakeable WatchState.initial caseId :=
    forall_mem_nil _
  exact (run_invariant_along step ⟨WatchKept.initial, initially⟩ ops keeps).2

/-! ## A change that finds the models paused -/

/-- The change of the package, after the park: its wake is admitted. -/
theorem watched_case_wakeable_admitted :
    Wakeable (watchStateAfter (watchStarted ++ frameLoaded ++ [caseParks] ++
      [packageChanges 2 (by decide) true])) "case-1" :=
  watched_case_wakeable _ (by decide +kernel) "case-1" (by decide +kernel)

/-- **A case is stranded**: the change is processed while the background models are
paused, so the case is active and no run of its watch is left to park it again. -/
theorem wake_declined_strands_case :
    ¬ ∀ ops, ∀ caseId ∈ (watchStateAfter ops).watched, Wakeable (watchStateAfter ops) caseId := by
  intro always
  have wakeable := always (watchStarted ++ frameLoaded ++ [caseParks] ++
    [packageChanges 2 (by decide) false]) "case-1" (by decide +kernel)
  revert wakeable
  decide +kernel

end SecFusion.Investigation
