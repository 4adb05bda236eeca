import SecFusion.Investigation.CaseRows
import SecFusion.Investigation.Watch

/-!
# The system of episodes and world changes

The case store and the task store, the frames that running roles hold in memory,
and every transaction that may come between the load of a frame and the park it
leads to: the steps of a role, the worker's transaction for a change of the
knowledge base, and all the other calls on the two stores.  A schedule is a list of
such steps, so a statement about every list is one about every interleaving.

Whatever a step does to the task store is a sequence of calls of the task runtime
(`Calls`), which says which runs it may end.
-/

namespace SecFusion.Investigation

open Foundations Intelligence TaskRuntime

/-! ## The state -/

/-- A frame in the memory of a role, and how many impacts had been reported when it
was loaded. -/
structure HeldFrame where
  frame : InvestigationFrame
  seen : ℕ

/-- A role that is running an episode. -/
structure Role where
  held : Option HeldFrame := none

/-- A processed change, as it affected one case: the impact that was reported, and
the revision at which the change left the case. -/
structure ProcessedChange where
  impact : WorldChangeImpact
  caseRevision : ℕ

/-- The park that made a case wait: the revision its frame was built on, and how many
impacts had been reported when the frame was loaded and when the case was parked. -/
structure Parked where
  (caseRevision seen since : ℕ)
  deriving DecidableEq

/-- The stores, the roles, and what has happened so far. -/
structure WatchState where
  cases : CaseStore
  tasks : TaskStore
  roles : String → Option Role
  processed : List ProcessedChange
  parked : String → Option Parked
  watched : List String

def WatchState.initial : WatchState :=
  ⟨CaseStore.empty, TaskStore.empty, fun _ => none, [], fun _ => none, []⟩

/-- The frame that the role of a run holds. -/
def heldFrame? (roles : String → Option Role) (runId : String) : Option HeldFrame :=
  (roles runId).bind (·.held)

/-! ## The steps -/

/-- One transaction, with what it draws and reads. -/
inductive WatchOp where
  | cases (op : CaseOp) (ordinary : op.isWorldChange = false)
  | tasks (op : TaskOp)
  | start (runId streamName : String) (eventIds : ℕ → String) (now : ℤ)
  | load (runId : String) (iteration : ℕ) (lastPercept : Option Percept)
      (recentPercepts : List Percept) (now : ℤ)
  | refresh (runId : String) (knowledge : KnowledgeStore) (streamName eventId : String) (now : ℤ)
  | wait (call : WaitCall)
  | worldChange (call : WorldChangeCall)

/-- A case that `CaseService.wait` makes wait has not been parked: whoever called it
does not watch the case. -/
def parkedAfter (state : WatchState) : CaseOp → String → Option Parked
  | .move caseId .wait _ =>
      if (state.cases.cases.get? caseId).map (·.status) = some .waiting then state.parked
      else update state.parked caseId none
  | .move _ .activate _ | .move _ .resolve _ | .move _ .cancel _ | .move _ (.close _) _
  | .create .. | .getState .. | .rebuild .. | .openNeed .. | .reopenNeed .. | .applyPatch ..
  | .commitDecision .. | .recordPerception .. | .processChange .. => state.parked

/-- The impact of a change, with the revision at which it left the case. -/
def processedChange (cases : CaseStore) (impact : WorldChangeImpact) : ProcessedChange where
  impact := impact
  caseRevision := ((cases.cases.get? impact.caseId).map (·.currentRevision)).getD 0

/-- The state after the role of a frame has waited. -/
def WatchState.waited (state : WatchState) (held : HeldFrame) (call : WaitCall)
    (cases : CaseStore) (tasks : TaskStore) : WatchState :=
  let ended := { state with cases, tasks, roles := update state.roles call.runId none }
  if Parks held.frame call.reason then
    { ended with
      parked := update state.parked held.frame.state.caseId
        (some ⟨held.frame.state.caseRevision, held.seen, state.processed.length⟩)
      watched := held.frame.state.caseId :: state.watched }
  else ended

/-- Every step, as one transaction.  A role that has not been started, or that holds
no frame, has nothing to do. -/
def watchSystem : WatchOp → WatchState → Except Raised (Unit × WatchState)
  | .cases op _, state => do
      let (_, cases) ← caseService op state.cases
      return ((), { state with cases, parked := parkedAfter state op })
  | .tasks op, state => do
      let (_, tasks) ← taskService op state.tasks
      return ((), { state with tasks })
  | .start runId streamName eventIds now, state => do
      let tasks ← ensureRunning state.tasks runId streamName eventIds now
      return ((), { state with tasks, roles := update state.roles runId (some {}) })
  | .load runId iteration lastPercept recentPercepts now, state =>
      match state.roles runId with
      | none => .ok ((), state)
      | some _ => do
          let (frame, cases) ← loadFrame state.cases state.tasks runId iteration lastPercept
            recentPercepts now
          return ((), { state with
            cases
            roles := update state.roles runId
              (some { held := some ⟨frame, state.processed.length⟩ }) })
  | .refresh runId knowledge streamName eventId now, state =>
      match heldFrame? state.roles runId with
      | none => .ok ((), state)
      | some held => do
          let tasks ← refreshContextForFrame state.tasks knowledge runId held.frame streamName
            eventId now
          return ((), { state with tasks })
  | .wait call, state =>
      match heldFrame? state.roles call.runId with
      | none => .ok ((), state)
      | some held => do
          let (cases, tasks) ← waitEpisode state.cases state.tasks held.frame call
          return ((), state.waited held call cases tasks)
  | .worldChange call, state => do
      let (impacts, cases, tasks) ← handleKnowledgeChanged state.cases state.tasks call
      return ((), { state with
        cases, tasks
        processed := state.processed ++ impacts.map (processedChange cases) })

def watchStateAfter (ops : List WatchOp) : WatchState := run watchSystem WatchState.initial ops

/-! ## What a step does to the task store -/

def endedRun : TaskOp → Option String
  | .transition request _ _ => if request.target.isTerminal then some request.runId else none
  | .create .. | .createChild .. | .claim .. | .updateContext .. | .append .. | .consume .. => none

/-- **Calls of the task runtime**, one after another, that end no other runs than the
given ones. -/
def Calls (ended : String → Prop) : TaskStore → TaskStore → Prop :=
  ReflTransGen fun before after =>
    ∃ op answer, taskService op before = .ok (answer, after) ∧ ∀ runId ∈ endedRun op, ended runId

variable {ended : String → Prop} {tasks next : TaskStore}

variable {op : TaskOp} {answer : TaskAnswer} {eventId runId streamName : String} {now : ℤ}
  {run : TaskRunModel} {knowledge : KnowledgeStore} {frame : InvestigationFrame}
  {cases nextCases : CaseStore} {iteration : ℕ} {lastPercept : Option Percept}
  {recentPercepts : List Percept} {state after : WatchState} {call : WakeCall}
  {impact : WorldChangeImpact} {result : WatchWakeResult} {impacts : List WorldChangeImpact}

theorem Calls.of_ok (ok : taskService op tasks = .ok (answer, next))
    (ends : ∀ runId ∈ endedRun op, ended runId) : Calls ended tasks next :=
  .single ⟨op, answer, ok, ends⟩

theorem Calls.of_transition {request : TransitionTaskRun} {view : TaskRun}
    (ok : transitionTaskRun tasks request eventId now = .ok (view, next))
    (ends : request.target.isTerminal = true → ended request.runId) : Calls ended tasks next := by
  have called : taskService (.transition request eventId now) tasks = .ok (.run view, next) := by
    simp [taskService, ok]
  refine .of_ok called fun runId named => ?_
  simp only [endedRun, mem_def, Option.ite_none_right_eq_some] at named
  obtain ⟨terminal, same⟩ := named
  exact Option.some.inj same ▸ ends terminal

/-- A run whose row a call rewrites. -/
theorem run_of_rewrite {grown : TaskStore} {changed : String}
    {rewrite : TaskRunModel → TaskRunModel} {keeps : ∀ run, (rewrite run).runId = run.runId}
    {request : EventRequest} (grows : Grows tasks grown)
    (logs : Logs (grown.updateRun changed rewrite keeps) request eventId now next)
    (found : tasks.runs.get? runId = some run) :
    next.runs.get? runId = some (if changed = runId then rewrite run else run) := by
  rw [logs.runs, get?_updateRun, grows.runs, found]
  split <;> rfl

/-- **A run goes on** through every call that does not end it. -/
theorem live_of_ok (ok : taskService op tasks = .ok (answer, next))
    (found : tasks.runs.get? runId = some run) (live : run.status.isTerminal = false)
    (other : endedRun op ≠ some runId) :
    ∃ later, next.runs.get? runId = some later ∧ later.status.isTerminal = false := by
  have created : ∀ {request : CreateTaskRun} {uuid eventId : String} {now : ℤ} {view : TaskRun},
      createTaskRun tasks request uuid eventId now = .ok (view, next) →
        next.runs.get? runId = some run := by
    intro request uuid eventId now view called
    obtain ⟨grown, runs, contractRow, contextVersionId, grows, -, -, -, -, inserted, logs⟩ :=
      createTaskRun_ok called
    rw [logs.runs]
    refine get?_of_insert? inserted ?_
    rw [grows.runs, found]
  have moved : ∀ {request : TransitionTaskRun} {eventId : String} {now : ℤ} {view : TaskRun},
      transitionTaskRun tasks request eventId now = .ok (view, next) →
        (request.target.isTerminal = true → request.runId ≠ runId) →
          ∃ later, next.runs.get? runId = some later ∧ later.status.isTerminal = false := by
    intro request eventId now view called apart
    obtain ⟨_, -, -, -, logs⟩ := transitionTaskRun_ok called
    refine ⟨_, run_of_rewrite (Grows.refl tasks) logs found, ?_⟩
    split
    next same => exact Bool.eq_false_iff.2 fun terminal => apart terminal same
    next => exact live
  cases op with
  | create request uuid eventId now =>
      obtain ⟨⟨view, result⟩, called, ok⟩ := bind_eq_ok.1 ok
      cases ok
      exact ⟨run, created called, live⟩
  | createChild request uuid eventId now =>
      obtain ⟨⟨view, result⟩, called, ok⟩ := bind_eq_ok.1 ok
      cases ok
      obtain ⟨manifest, called⟩ := createChildTaskRun_ok called
      exact ⟨run, created called, live⟩
  | claim claimed streamName producer eventId now =>
      obtain ⟨⟨view, result⟩, called, ok⟩ := bind_eq_ok.1 ok
      cases ok
      obtain ⟨_, -, ⟨-, -, rfl⟩ | ⟨-, -, logs⟩⟩ := claimQueuedTaskRun_ok called
      · exact ⟨run, found, live⟩
      · refine ⟨_, run_of_rewrite (Grows.refl tasks) logs found, ?_⟩
        split
        next => rfl
        next => exact live
  | updateContext changed manifest streamName producer eventId now =>
      obtain ⟨⟨view, result⟩, called, ok⟩ := bind_eq_ok.1 ok
      cases ok
      obtain ⟨_, grown, contextVersionId, -, -, grows, logs⟩ := updateTaskContext_ok called
      refine ⟨_, run_of_rewrite grows logs found, ?_⟩
      split <;> exact live
  | transition request eventId now =>
      obtain ⟨⟨view, result⟩, called, ok⟩ := bind_eq_ok.1 ok
      cases ok
      refine moved called fun terminal same => other ?_
      simp [endedRun, terminal, same]
  | append request eventId now =>
      obtain ⟨⟨view, result⟩, called, ok⟩ := bind_eq_ok.1 ok
      cases ok
      exact ⟨run, by rw [(appendTaskEvent_ok called).runs, found], live⟩
  | consume sourceEventId streamName eventId now =>
      obtain ⟨⟨view, result⟩, called, ok⟩ := bind_eq_ok.1 ok
      cases ok
      obtain ⟨event, -, processed⟩ := consumeEvent_ok called
      rcases processEvent_ok processed with ⟨-, -, rfl⟩ | ⟨parent, view, -, -, wakes⟩
      · exact ⟨run, found, live⟩
      · exact moved wakes nofun

theorem RunChange.caseId {old new : TaskRunModel} (change : RunChange old new) :
    new.caseId = old.caseId := by
  cases change <;> rfl

/-- What no call changes: a run keeps its case and its contract, and a contract
stays. -/
theorem Calls.kept (calls : Calls ended tasks next) (found : tasks.runs.get? runId = some run) :
    ∃ later, next.runs.get? runId = some later ∧ later.caseId = run.caseId ∧
      later.taskContractVersionId = run.taskContractVersionId := by
  induction calls with
  | refl => exact ⟨run, found, rfl, rfl⟩
  | tail _ call ih =>
      obtain ⟨middle, middleFound, sameCase, sameContract⟩ := ih
      obtain ⟨op, answer, ok, -⟩ := call
      obtain ⟨later, laterFound, rfl | change⟩ := (effect_of_ok ok).row middleFound
      · exact ⟨later, laterFound, sameCase, sameContract⟩
      · exact ⟨later, laterFound, (RunChange.caseId change).trans sameCase,
          change.same.contract.trans sameContract⟩

theorem Calls.contracts (calls : Calls ended tasks next) {id : String}
    {row : TaskContractVersionModel} (found : tasks.contracts.get? id = some row) :
    next.contracts.get? id = some row := by
  induction calls with
  | refl => exact found
  | tail _ call ih =>
      obtain ⟨op, answer, ok, -⟩ := call
      exact (effect_of_ok ok).contracts ih

theorem Calls.live (calls : Calls ended tasks next) (found : tasks.runs.get? runId = some run)
    (live : run.status.isTerminal = false) (other : ¬ ended runId) :
    ∃ later, next.runs.get? runId = some later ∧ later.status.isTerminal = false := by
  induction calls with
  | refl => exact ⟨run, found, live⟩
  | tail _ call ih =>
      obtain ⟨middle, middleFound, middleLive⟩ := ih
      obtain ⟨op, answer, ok, ends⟩ := call
      exact live_of_ok ok middleFound middleLive fun named => other (ends runId named)

/-! ## The steps of a role -/

/-- The run is bound to the case that its contract names. -/
def BoundTo (tasks : TaskStore) (runId caseId : String) : Prop :=
  ∃ run contract desired, tasks.runs.get? runId = some run ∧
    tasks.contracts.get? run.taskContractVersionId = some contract ∧
    desiredStateOf contract.contractJson = .ok desired ∧ desired.caseId = caseId ∧
    run.caseId = some caseId

theorem BoundTo.calls {caseId : String} (bound : BoundTo tasks runId caseId)
    (calls : Calls ended tasks next) : BoundTo next runId caseId := by
  obtain ⟨run, contract, desired, found, contractFound, named, same, ofCase⟩ := bound
  obtain ⟨later, laterFound, sameCase, sameContract⟩ := calls.kept found
  refine ⟨later, contract, desired, laterFound, ?_, named, same, sameCase.trans ofCase⟩
  rw [sameContract]
  exact calls.contracts contractFound

variable {contract : TaskContract}

theorem contractForRun_ok
    (ok : getTaskContractForRun tasks runId = .ok contract) :
    ∃ run row, tasks.runs.get? runId = some run ∧
      tasks.contracts.get? run.taskContractVersionId = some row ∧ row.contractJson = contract := by
  unfold getTaskContractForRun getRun at ok
  simp only [fetch_bind_eq_ok, pure_eq_ok] at ok
  obtain ⟨run, found, row, rowFound, same⟩ := ok
  exact ⟨run, row, found, rowFound, same⟩

theorem advanceRun_ok {payloadRef idempotencyKey : String} {target : TaskRunStatus}
    (goesOn : target.isTerminal = false)
    (ok : advanceRun tasks runId target payloadRef idempotencyKey streamName eventId now =
      .ok next) : Calls ended tasks next := by
  obtain ⟨⟨view, last⟩, moved, ok⟩ := bind_eq_ok.1 ok
  cases ok
  refine .of_transition moved fun terminal => ?_
  exact absurd terminal (by simp [goesOn])

theorem ensureRunning_ok {eventIds : ℕ → String}
    (ok : ensureRunning tasks runId streamName eventIds now = .ok next) :
    Calls ended tasks next ∧ ∃ caseId, BoundTo tasks runId caseId := by
  unfold ensureRunning getRun at ok
  obtain ⟨run, found, ok⟩ := fetch_bind_eq_ok.1 ok
  obtain ⟨contract, read, ok⟩ := bind_eq_ok.1 ok
  obtain ⟨desired, named, ok⟩ := bind_eq_ok.1 ok
  simp only [require_bind_eq_ok] at ok
  obtain ⟨-, ofCase, ok⟩ := ok
  obtain ⟨resumed, resumes, ok⟩ := bind_eq_ok.1 ok
  obtain ⟨second, -, ok⟩ := fetch_bind_eq_ok.1 ok
  obtain ⟨queued, queues, ok⟩ := bind_eq_ok.1 ok
  obtain ⟨third, -, ok⟩ := fetch_bind_eq_ok.1 ok
  have first : Calls ended tasks resumed := by
    unfold resumeWaiting at resumes
    split at resumes
    next => exact advanceRun_ok rfl resumes
    next =>
      cases resumes
      exact .refl
  have middle : Calls ended resumed queued := by
    unfold queueSubmitted at queues
    split at queues
    next => exact advanceRun_ok rfl queues
    next =>
      cases queues
      exact .refl
  have last : Calls ended queued next := by
    unfold startQueued at ok
    split at ok
    next => exact advanceRun_ok rfl ok
    next =>
      obtain ⟨-, ok⟩ := require_bind_eq_ok.1 ok
      cases ok
      exact .refl
  refine ⟨(first.trans middle).trans last, desired.caseId, ?_⟩
  obtain ⟨again, row, foundAgain, rowFound, rfl⟩ := contractForRun_ok read
  obtain rfl := mem_unique found foundAgain
  exact ⟨run, row, desired, found, rowFound, named, rfl, ofCase⟩

theorem refreshContextForFrame_ok
    (ok : refreshContextForFrame tasks knowledge runId frame streamName eventId now =
      .ok next) : Calls ended tasks next := by
  unfold refreshContextForFrame at ok
  obtain ⟨manifest, -, ok⟩ := bind_eq_ok.1 ok
  dsimp only at ok
  split at ok
  next =>
    cases ok
    exact .refl
  next =>
    obtain ⟨refreshed, -, ok⟩ := bind_eq_ok.1 ok
    obtain ⟨⟨view, last⟩, updated, ok⟩ := bind_eq_ok.1 ok
    cases ok
    have called : taskService (.updateContext runId refreshed streamName "InvestigationRole" eventId
        now) tasks = .ok (.run view, last) := by
      simp [taskService, updated]
    exact .of_ok called nofun

/-- The state that a frame is built on is the projection of the case. -/
theorem loadFrame_ok {loaded : CaseStore}
    (ok : loadFrame cases tasks runId iteration lastPercept recentPercepts now =
      .ok (frame, loaded)) :
    ∃ contract desired, getTaskContractForRun tasks runId = .ok contract ∧
      desiredStateOf contract = .ok desired ∧ frame.taskContract = contract ∧
      getState cases desired.caseId now = .ok (frame.state, loaded) := by
  unfold loadFrame at ok
  obtain ⟨contract, read, ok⟩ := bind_eq_ok.1 ok
  obtain ⟨desired, named, ok⟩ := bind_eq_ok.1 ok
  obtain ⟨⟨state, last⟩, projected, ok⟩ := bind_eq_ok.1 ok
  obtain ⟨needs, -, ok⟩ := bind_eq_ok.1 ok
  cases ok
  exact ⟨contract, desired, read, named, rfl, projected⟩

theorem caseId_of_getState {store next : CaseStore} {caseId : String} {state : InvestigationState}
    (ok : getState store caseId now = .ok (state, next)) :
    state.caseId = caseId := by
  obtain ⟨row, found, ⟨present, -⟩ | ⟨-, rfl, -⟩⟩ := getState_ok ok
  · exact (get?_eq_some.1 present).2
  · exact (get?_eq_some.1 found).2

/-- **An episode that waits**: it is parked, and then its case waits and its run has
ended, or its run waits. -/
theorem waitEpisode_ok {call : WaitCall}
    (ok : waitEpisode cases tasks frame call = .ok (nextCases, next)) :
    (Parks frame call.reason ∧ Calls (· = call.runId) tasks next ∧ ∃ activated before after,
        activateCase cases frame.state.caseId = .ok (before, activated) ∧
        waitCase activated frame.state.caseId = .ok (after, nextCases)) ∨
      (¬ Parks frame call.reason ∧ nextCases = cases ∧ Calls (fun _ => False) tasks next) := by
  unfold waitEpisode at ok
  split at ok
  next parks =>
    unfold parkWatchEpisode at ok
    obtain ⟨result, -, ok⟩ := bind_eq_ok.1 ok
    obtain ⟨⟨before, activated⟩, activates, ok⟩ := bind_eq_ok.1 ok
    obtain ⟨⟨after, waiting⟩, waits, ok⟩ := bind_eq_ok.1 ok
    obtain ⟨⟨view, completed⟩, completes, ok⟩ := bind_eq_ok.1 ok
    cases ok
    exact .inl ⟨parks, .of_transition completes fun _ => rfl, activated, before, after, activates,
      waits⟩
  next other =>
    obtain ⟨result, -, ok⟩ := bind_eq_ok.1 ok
    obtain ⟨⟨view, waiting⟩, waits, ok⟩ := bind_eq_ok.1 ok
    cases ok
    exact .inr ⟨other, rfl, .of_transition waits nofun⟩

/-! ## The wakes of the worker -/

/-- A run of the contract has been created for the case, and queued. -/
def Queues (tasks next : TaskStore) (caseId runId : String) (contract : TaskContract) : Prop :=
  ∃ request created view eventId now, request.contract = contract ∧
    request.caseId = some caseId ∧ request.runId = some runId ∧
    createTaskRun tasks request "" eventId now = .ok (view, created) ∧
    ∃ move view eventId, move.runId = runId ∧ move.target = .queued ∧
      transitionTaskRun created move eventId now = .ok (view, next)

theorem Queues.calls {caseId : String}
    (queues : Queues tasks next caseId runId contract) : Calls ended tasks next := by
  obtain ⟨request, created, view, eventId, now, -, -, -, creates, move, moved, moveId, -, target,
    moves⟩ := queues
  have called : taskService (.create request "" eventId now) tasks = .ok (.run view, created) := by
    simp [taskService, creates]
  have first : Calls ended tasks created := .of_ok called nofun
  refine first.trans (Calls.of_transition moves fun terminal => ?_)
  rw [target] at terminal
  cases terminal

/-- What the wake of an impact does besides reading the case: nothing, or it queues a
run that is derived from the template. -/
inductive Wakes (tasks : TaskStore) (caseId triggerRef : String) : TaskStore → Prop
  | declined : Wakes tasks caseId triggerRef tasks
  | queued {next : TaskStore} {template : TaskRunModel} {contract : TaskContractVersionModel}
      (derived : watchTemplate? tasks caseId = some template)
      (found : tasks.contracts.get? template.taskContractVersionId = some contract)
      (queues : Queues tasks next caseId (watchWakeRunId caseId triggerRef)
        contract.contractJson) : Wakes tasks caseId triggerRef next

theorem Wakes.calls {caseId triggerRef : String} (wakes : Wakes tasks caseId triggerRef next) :
    Calls ended tasks next := by
  cases wakes with
  | declined => exact .refl
  | queued _ _ queues => exact queues.calls

/-- The case store is only read, which may write a projection. -/
structure OnlyRead (cases nextCases : CaseStore) : Prop where
  rows : nextCases.cases = cases.cases
  changes : Changes false cases nextCases

theorem OnlyRead.refl (cases : CaseStore) : OnlyRead cases cases :=
  ⟨rfl, .refl⟩

theorem OnlyRead.trans {first second third : CaseStore} (left : OnlyRead first second)
    (right : OnlyRead second third) : OnlyRead first third :=
  ⟨right.rows.trans left.rows, left.changes.trans right.changes⟩

theorem queueWake_ok {previous : ContextManifest}
    {admission : WatchWakeAdmission}
    (ok : queueWake cases tasks impact call contract previous admission =
      .ok (result, nextCases, next)) :
    OnlyRead cases nextCases ∧
      Queues tasks next impact.caseId (watchWakeRunId impact.caseId call.triggerRef) contract := by
  unfold queueWake at ok
  simp only [fetch_bind_eq_ok] at ok
  obtain ⟨budgetRef, -, executionEnvelopeRef, -, capabilityEnvelopeRef, -, ok⟩ := ok
  obtain ⟨⟨state, loaded⟩, read, ok⟩ := bind_eq_ok.1 ok
  obtain ⟨⟨view, created⟩, creates, ok⟩ := bind_eq_ok.1 ok
  obtain ⟨⟨moved, queued⟩, moves, ok⟩ := bind_eq_ok.1 ok
  cases ok
  exact ⟨⟨cases_of_getState read, .of_getState read⟩, _, created, view, _, call.now, rfl, rfl, rfl,
    creates, _, moved, _, rfl, rfl, moves⟩

theorem deriveWake_ok {template : TaskRunModel}
    (derived : watchTemplate? tasks impact.caseId = some template)
    (ok : deriveWake cases tasks impact call template = .ok (result, nextCases, next)) :
    OnlyRead cases nextCases ∧ Wakes tasks impact.caseId call.triggerRef next := by
  unfold deriveWake at ok
  dsimp only at ok
  split at ok
  next =>
    cases ok
    exact ⟨.refl cases, .declined⟩
  next =>
  split at ok
  next =>
    cases ok
    exact ⟨.refl cases, .declined⟩
  next =>
    simp only [fetch_bind_eq_ok] at ok
    obtain ⟨contract, found, context, -, ok⟩ := ok
    obtain ⟨admission, -, ok⟩ := bind_eq_ok.1 ok
    split at ok
    next =>
      cases ok
      exact ⟨.refl cases, .declined⟩
    next =>
      obtain ⟨read, queues⟩ := queueWake_ok ok
      exact ⟨read, .queued derived found queues⟩

theorem spawnForWorldChange_ok
    (ok : spawnForWorldChange cases tasks impact call = .ok (result, nextCases, next)) :
    OnlyRead cases nextCases ∧ Wakes tasks impact.caseId call.triggerRef next := by
  unfold spawnForWorldChange at ok
  dsimp only at ok
  split at ok
  next =>
    cases ok
    exact ⟨.refl cases, .declined⟩
  next =>
    obtain ⟨row, -, ok⟩ := bind_eq_ok.1 ok
    split at ok
    next =>
      cases ok
      exact ⟨.refl cases, .declined⟩
    next =>
    split at ok
    next =>
      cases ok
      exact ⟨.refl cases, .declined⟩
    next =>
    split at ok
    next =>
      cases ok
      exact ⟨.refl cases, .declined⟩
    next template derived => exact deriveWake_ok derived ok

theorem spawnWakes_ok (ok : spawnWakes call cases tasks impacts = .ok (nextCases, next)) :
    OnlyRead cases nextCases ∧ Calls ended tasks next := by
  induction impacts generalizing cases tasks with
  | nil =>
      cases ok
      exact ⟨.refl _, .refl⟩
  | cons impact rest ih =>
      obtain ⟨⟨result, middleCases, middle⟩, spawned, ok⟩ := bind_eq_ok.1 ok
      obtain ⟨read, wakes⟩ := spawnForWorldChange_ok spawned
      obtain ⟨readOn, calls⟩ := ih ok
      exact ⟨read.trans readOn, wakes.calls.trans calls⟩

/-- **The transaction of the worker** processes the change and then only reads the
case store. -/
theorem handleKnowledgeChanged_ok {call : WorldChangeCall}
    (ok : handleKnowledgeChanged cases tasks call = .ok (impacts, nextCases, next)) :
    ∃ changed, processChange cases call.knowledge call.change call.eventIds call.now =
        .ok (impacts, changed) ∧ OnlyRead changed nextCases ∧ Calls ended tasks next := by
  unfold handleKnowledgeChanged at ok
  obtain ⟨⟨found, changed⟩, processed, ok⟩ := bind_eq_ok.1 ok
  dsimp only at ok
  split at ok
  next =>
    obtain ⟨⟨lastCases, lastTasks⟩, spawned, ok⟩ := bind_eq_ok.1 ok
    cases ok
    obtain ⟨read, calls⟩ := spawnWakes_ok spawned
    exact ⟨changed, processed, read, calls⟩
  next =>
    cases ok
    exact ⟨_, processed, .refl _, .refl⟩

/-! ## What a role's step does to the state -/

theorem load_ok
    (ok : watchSystem (.load runId iteration lastPercept recentPercepts now) state =
      .ok ((), after)) :
    after = state ∨ ∃ role frame loaded, state.roles runId = some role ∧
      loadFrame state.cases state.tasks runId iteration lastPercept recentPercepts now =
        .ok (frame, loaded) ∧
      after = { state with
        cases := loaded
        roles := update state.roles runId
          (some { held := some ⟨frame, state.processed.length⟩ }) } := by
  simp only [watchSystem] at ok
  split at ok
  next =>
    cases ok
    exact .inl rfl
  next role started =>
    obtain ⟨⟨frame, loaded⟩, loads, ok⟩ := bind_eq_ok.1 ok
    cases ok
    exact .inr ⟨role, frame, loaded, started, loads, rfl⟩

theorem refresh_ok
    (ok : watchSystem (.refresh runId knowledge streamName eventId now) state =
      .ok ((), after)) :
    ∃ tasks, Calls ended state.tasks tasks ∧ after = { state with tasks } := by
  simp only [watchSystem] at ok
  split at ok
  next =>
    cases ok
    exact ⟨state.tasks, .refl, rfl⟩
  next =>
    obtain ⟨tasks, refreshes, ok⟩ := bind_eq_ok.1 ok
    cases ok
    exact ⟨tasks, refreshContextForFrame_ok refreshes, rfl⟩

theorem wait_ok {call : WaitCall} (ok : watchSystem (.wait call) state = .ok ((), after)) :
    (heldFrame? state.roles call.runId = none ∧ after = state) ∨ ∃ held cases tasks, heldFrame? state.roles call.runId = some held ∧
      waitEpisode state.cases state.tasks held.frame call = .ok (cases, tasks) ∧
      after = state.waited held call cases tasks := by
  simp only [watchSystem] at ok
  split at ok
  next idle =>
    cases ok
    exact .inl ⟨idle, rfl⟩
  next held holds =>
    obtain ⟨⟨cases, tasks⟩, waits, ok⟩ := bind_eq_ok.1 ok
    cases ok
    exact .inr ⟨held, cases, tasks, holds, waits, rfl⟩

end SecFusion.Investigation
