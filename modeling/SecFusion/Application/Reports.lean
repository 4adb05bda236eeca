import SecFusion.Application.Settling

/-!
# Reports of finished episodes

The finalizations of finished episodes beside everything else that writes: calls on
cases, on task runs and on executions, and the turns that questions append.  A delivery
of a finished run is an attempt, known by its own name; its transactions are steps of
their own, it can be lost between them, and a run can be delivered again.

A run whose decision fails is terminal, and no later delivery opens it again, so what
makes the second transaction raise costs the episode its report.  The case may have
moved since the first transaction (`a_need_in_between_costs_the_report`), the turn of
the chat may be bound to the decision of an earlier episode, or the case may be resolved
already.  Where none of this happens (`Orderly`), every episode gets its report, and a
case is resolved only with nothing left open (`finished_episodes_get_reports`).
-/

namespace SecFusion.Application

open Foundations Intelligence Execution TaskRuntime Investigation Reasoning

/-! ## The system -/

/-- A delivery of a finished run: it waits for the planner, or it has raised. -/
inductive Attempt where
  | deciding (episode : Episode)
  | raised (episode : Episode) (error : Raised)

/-- The store, the deliveries in progress, and the revisions at which a finalization has
resolved a case. -/
structure FinalizeState where
  store : ProductStore
  attempts : String → Option Attempt
  resolutions : List (String × ℕ)

def FinalizeState.initial : FinalizeState := ⟨.empty, fun _ => none, []⟩

/-- One call of `ExecutionRunService`. -/
inductive ExecutionOp where
  | create (envelope : ExecutionEnvelope)
  | start (executionId : String) (now : ℤ)
  | finish (executionId : String) (status : ExecutionStatus) (stopReason : String) (now : ℤ)

def ExecutionOp.named : ExecutionOp → String
  | .create envelope => envelope.executionId
  | .start executionId _ => executionId
  | .finish executionId _ _ _ => executionId

def executionService : ExecutionOp → ExecutionStore → Except Raised ExecutionStore
  | .create envelope, store => do
      let (_, next) ← store.create envelope
      return next
  | .start executionId now, store => store.start executionId now
  | .finish executionId status stopReason now, store =>
      store.finish executionId status stopReason now

/-- What may happen next. -/
inductive FinalizeOp where
  | cases (op : CaseOp)
  | tasks (op : TaskOp)
  | executions (op : ExecutionOp)
  | turn (request : AppendTurn) (turnId : String) (now : ℤ)
  /-- The first transaction of a delivery. -/
  | opens (attempt parentRunId : String) (cited : String → Option CitedEvidence) (drawn : Drawn)
  /-- The planner has answered: the second transaction. -/
  | settles (attempt : String) (proposal : Proposal) (knowledge : KnowledgeStore) (drawn : Drawn)
  /-- The planner has raised, or the time for its answer is over. -/
  | raises (attempt : String) (error : Raised)
  /-- The third transaction, of a delivery that has raised. -/
  | fails (attempt : String) (drawn : Drawn)
  | crashes (attempt : String)

/-- The state with a delivery in its next stage, or over. -/
def FinalizeState.turnTo (state : FinalizeState) (attempt : String) (stage : Option Attempt) :
    FinalizeState :=
  { state with attempts := update state.attempts attempt stage }

/-- The case and the revision that a second transaction has resolved. -/
def resolutionOf : SettledFinalization → List (String × ℕ)
  | .returned _ => []
  | .decided _ true => []
  | .decided outcome false =>
      [(outcome.committed.event.caseId, outcome.committed.event.caseRevision)]

/-- The state after the second transaction of a delivery: one that raises is rolled
back. -/
def FinalizeState.settle (state : FinalizeState) (settings : ProductSettings) (attempt : String)
    (episode : Episode) (proposal : Proposal) (knowledge : KnowledgeStore) (drawn : Drawn) :
    FinalizeState :=
  match settleFinalization state.store settings knowledge episode proposal drawn with
  | .error error => state.turnTo attempt (some (.raised episode error))
  | .ok (settled, store) =>
      { state.turnTo attempt none with
        store, resolutions := state.resolutions ++ resolutionOf settled }

def finalizeSystem (settings : ProductSettings) :
    FinalizeOp → FinalizeState → Except Raised (Unit × FinalizeState)
  | .cases op, state => do
      let (_, cases) ← caseService op state.store.cases
      return ((), { state with store := { state.store with cases } })
  | .tasks op, state => do
      let (_, tasks) ← taskService op state.store.tasks
      return ((), { state with store := { state.store with tasks } })
  | .executions op, state => do
      let executions ← executionService op state.store.executions
      return ((), { state with store := { state.store with executions } })
  | .turn request turnId now, state => do
      let (_, sessions) ← state.store.sessions.appendTurn request turnId now
      return ((), { state with store := { state.store with sessions } })
  | .opens attempt parentRunId cited drawn, state => do
      let (opened, store) ← openFinalization state.store settings parentRunId cited drawn
      match opened with
      | .returned _ => return ((), { state with store })
      | .deciding episode =>
          return ((), { state.turnTo attempt (some (.deciding episode)) with store })
  | .settles attempt proposal knowledge drawn, state =>
      match state.attempts attempt with
      | some (.deciding episode) =>
          .ok ((), state.settle settings attempt episode proposal knowledge drawn)
      | some (.raised _ _) | none => .ok ((), state)
  | .raises attempt error, state =>
      match state.attempts attempt with
      | some (.deciding episode) => .ok ((), state.turnTo attempt (some (.raised episode error)))
      | some (.raised _ _) | none => .ok ((), state)
  | .fails attempt drawn, state =>
      match state.attempts attempt with
      | some (.raised episode error) => do
          let store ← failFinalization state.store settings episode error drawn
          return ((), { state.turnTo attempt none with store })
      | some (.deciding _) | none => .ok ((), state)
  | .crashes attempt, state => .ok ((), state.turnTo attempt none)

/-- The state after a sequence of steps, each a transaction. -/
def finalizeStateAfter (settings : ProductSettings) (ops : List FinalizeOp) : FinalizeState :=
  run (finalizeSystem settings) FinalizeState.initial ops

/-! ## Statements -/

/-- **The run of a decision has its report**: it is completed, and its result is a
decision that is committed to its case and stored. -/
structure Reported (store : ProductStore) (run : TaskRunModel) : Prop where
  completed : run.status = .completed
  decision : ∃ decisionId row event, run.resultRef = some decisionId ∧
    store.decisions.get? decisionId = some row ∧ event ∈ store.cases.events.rows ∧
    event.eventType = .decisionChanged ∧ event.patchId = some decisionId ∧
    run.caseId = some event.caseId

/-- The run of the decision has not ended. -/
def InProgress (store : ProductStore) (episode : Episode) : Prop :=
  ∃ run, store.tasks.runs.get? (decisionRunId episode.parentRunId) = some run ∧
    run.status.isTerminal = false

/-- **The condition on a step.**  What others do leaves the runs and executions of
decisions alone; the planner answers; and where a delivery settles an episode whose
decision is in progress, its proposal settles it, and what is drawn is new. -/
def Orderly (settings : ProductSettings) (state : FinalizeState) : FinalizeOp → Prop
  | .tasks op => ∀ parentRunId, decisionRunId parentRunId ∉ op.named
  | .executions op => ∀ parentRunId, op.named ≠ "execution:" ++ decisionRunId parentRunId
  | .settles attempt proposal _ drawn => ∀ episode,
      state.attempts attempt = some (.deciding episode) →
        ∃ tried, triedProposal episode proposal = .ok tried ∧
          (InProgress state.store episode → Settles settings state.store episode drawn tried ∧
            ∀ event ∈ state.store.tasks.events.rows, event.eventId ≠ drawn.taskEventIds 0)
  | .raises _ _ => False
  | .cases _ | .turn .. | .opens .. | .fails .. | .crashes _ => True

/-! ## What is kept -/

/-- The run of a decision goes on: it can be completed with its execution. -/
structure Deciding (store : ProductStore) (runId : String) (run : TaskRunModel) : Prop where
  running : run.status = .running
  revision : 1 ≤ run.contextRevision
  executing : store.executions.status? ("execution:" ++ runId) = some .running
  unused : ∀ event ∈ store.tasks.eventsOf runId,
    event.idempotencyKey ≠ finalizeSurface ++ "-completed:" ++ runId

/-- The run of the decision about the case of a run. -/
structure DecidesFor (store : ProductStore) (parentRunId : String) (run : TaskRunModel) : Prop where
  envelope : run.executionEnvelopeRef = "execution:" ++ decisionRunId parentRunId
  ofParent : ∃ parent, store.tasks.runs.get? parentRunId = some parent ∧ run.caseId = parent.caseId
  stage : Deciding store (decisionRunId parentRunId) run ∨ Reported store run

/-- What a delivery that waits for the planner holds. -/
structure Attending (store : ProductStore) (episode : Episode) : Prop where
  execution : episode.executionId = "execution:" ++ decisionRunId episode.parentRunId
  run : ∃ run, store.tasks.runs.get? (decisionRunId episode.parentRunId) = some run ∧
    run.caseId = some episode.state.caseId
  read : ReadFrom store.cases episode.state
  whole : episode.incomplete = false →
    episode.state.unknowns = [] ∧ episode.state.evidenceNeedIds = []

/-- **What holds in every state.** -/
structure ReportsKept (state : FinalizeState) : Prop where
  gaps : GapsKept state.store.cases
  log : LogKept state.store.tasks
  runs : ∀ parentRunId run, state.store.tasks.runs.get? (decisionRunId parentRunId) = some run →
    DecidesFor state.store parentRunId run
  attempts : ∀ attempt stage, state.attempts attempt = some stage →
    ∃ episode, stage = .deciding episode ∧ Attending state.store episode
  resolved : ∀ resolution ∈ state.resolutions,
    NothingLeftOpen state.store.cases resolution.1 resolution.2

theorem ReportsKept.initial : ReportsKept FinalizeState.initial where
  gaps := GapsKept.empty
  log := LogKept.empty
  runs parentRunId run found := by
    replace found : TaskStore.empty.runs.get? (decisionRunId parentRunId) = some run := found
    simp [TaskStore.empty] at found
  attempts attempt stage found := by cases found
  resolved resolution member := by cases member

/-! ## What a step may do -/

section Steps

variable {store next : ProductStore} {recording : Bool}

theorem effects_caseId {tasks later : TaskStore} (effects : ReflTransGen Effect tasks later)
    {runId : String} {run : TaskRunModel} (found : tasks.runs.get? runId = some run) :
    ∃ after, later.runs.get? runId = some after ∧ after.caseId = run.caseId := by
  induction effects with
  | refl => exact ⟨run, found, rfl⟩
  | tail _ effect ih =>
      obtain ⟨between, betweenFound, same⟩ := ih
      obtain ⟨after, afterFound, again⟩ := effect.caseId betweenFound
      exact ⟨after, afterFound, again.trans same⟩

theorem logKept_effects {tasks later : TaskStore} (kept : LogKept tasks)
    (effects : ReflTransGen Effect tasks later) : LogKept later := by
  induction effects with
  | refl => exact kept
  | tail _ effect ih => exact ih.effect effect

/-- **What every step does to the store**: the cases and the runs are changed as their
services change them, and no decision is taken away. -/
structure Steps (recording : Bool) (store next : ProductStore) : Prop where
  changes : Changes recording store.cases next.cases
  effects : ReflTransGen Effect store.tasks next.tasks
  decisions : ∀ id row, store.decisions.get? id = some row → next.decisions.get? id = some row

/-- The run of a decision and its execution are left alone. -/
structure Untouched (store next : ProductStore) (runId : String) : Prop where
  apart : Apart runId store.tasks next.tasks
  execution : next.executions.status? ("execution:" ++ runId) =
    store.executions.status? ("execution:" ++ runId)

theorem Reported.steps {run : TaskRunModel} (reported : Reported store run)
    (steps : Steps recording store next) : Reported next run := by
  obtain ⟨completed, decisionId, row, event, result, stored, logged, rest⟩ := reported
  exact ⟨completed, decisionId, row, event, result, steps.decisions decisionId row stored,
    steps.changes.events_subset logged, rest⟩

theorem DecidesFor.steps {parentRunId : String} {run : TaskRunModel}
    (decides : DecidesFor store parentRunId run) (steps : Steps recording store next)
    (untouched : Untouched store next (decisionRunId parentRunId)) :
    DecidesFor next parentRunId run where
  envelope := decides.envelope
  ofParent := by
    obtain ⟨parent, found, same⟩ := decides.ofParent
    obtain ⟨later, laterFound, kept⟩ := effects_caseId steps.effects found
    exact ⟨later, laterFound, same.trans kept.symm⟩
  stage := by
    rcases decides.stage with ⟨running, revision, executing, unused⟩ | reported
    · left
      refine ⟨running, revision, untouched.execution.trans executing, ?_⟩
      rw [untouched.apart.log]
      exact unused
    · exact .inr (reported.steps steps)

variable {episode : Episode}

theorem Attending.steps (attending : Attending store episode)
    (steps : Steps recording store next) : Attending next episode where
  execution := attending.execution
  run := by
    obtain ⟨run, found, ofCase⟩ := attending.run
    obtain ⟨later, laterFound, same⟩ := effects_caseId steps.effects found
    exact ⟨later, laterFound, same.trans ofCase⟩
  read := attending.read.extends (.of_changes steps.changes)
  whole := attending.whole

/-- **What a step keeps**, once it is known what it does to the runs of decisions, to
the deliveries and to the resolutions. -/
theorem ReportsKept.steps {state after : FinalizeState} (kept : ReportsKept state)
    (steps : Steps recording state.store after.store)
    (runs : ∀ parentRunId, Untouched state.store after.store (decisionRunId parentRunId) ∨
      ∀ run, after.store.tasks.runs.get? (decisionRunId parentRunId) = some run →
        DecidesFor after.store parentRunId run)
    (attempts : ∀ attempt stage, after.attempts attempt = some stage →
      state.attempts attempt = some stage ∨
        ∃ episode, stage = .deciding episode ∧ Attending after.store episode)
    (resolved : ∀ resolution ∈ after.resolutions, resolution ∈ state.resolutions ∨
      NothingLeftOpen after.store.cases resolution.1 resolution.2) : ReportsKept after where
  gaps := kept.gaps.changes steps.changes
  log := logKept_effects kept.log steps.effects
  runs parentRunId run found := by
    rcases runs parentRunId with untouched | decides
    · rw [untouched.apart.row] at found
      exact (kept.runs parentRunId run found).steps steps untouched
    · exact decides run found
  attempts attempt stage found := by
    rcases attempts attempt stage found with old | new
    · obtain ⟨episode, rfl, attending⟩ := kept.attempts attempt stage old
      exact ⟨episode, rfl, attending.steps steps⟩
    · exact new
  resolved resolution member := by
    rcases resolved resolution member with old | new
    · exact (kept.resolved resolution old).extends (.of_changes steps.changes)
    · exact new

end Steps

/-! ## The first transaction -/

section Opening

variable {store next : ProductStore} {settings : ProductSettings} {drawn : Drawn}

/-- **What a first transaction leaves** that goes on to the planner: the state has been
read from the case of the parent, and the run of the decision is there, or it has been
opened. -/
structure OpensEpisode (store next : ProductStore) (parentRunId : String) (episode : Episode) :
    Prop where
  ofParent : episode.parentRunId = parentRunId
  parent : ∃ parent, store.tasks.runs.get? parentRunId = some parent ∧
    parent.caseId = some episode.state.caseId
  changes : Changes false store.cases next.cases
  read : ReadFrom next.cases episode.state
  whole : episode.incomplete = false →
    episode.state.unknowns = [] ∧ episode.state.evidenceNeedIds = []
  run : (∃ run, store.tasks.runs.get? (decisionRunId parentRunId) = some run ∧
      episode.executionId = run.executionEnvelopeRef ∧ next = { store with cases := next.cases }) ∨
    (episode.executionId = "execution:" ++ decisionRunId parentRunId ∧
      OpensRun { store with cases := next.cases } next finalizeSurface (decisionRunId parentRunId)
        episode.state.caseId)

theorem openDecisionRun_ok {request : OpenDecision} {executionId : String}
    (given : request.runId ≠ "")
    (ok : openDecisionRun store settings request drawn = .ok (executionId, next)) :
    (∃ run, store.tasks.runs.get? request.runId = some run ∧
        executionId = run.executionEnvelopeRef ∧ next = store) ∨
      (executionId = "execution:" ++ request.runId ∧
        OpensRun store next request.surface request.runId request.state.caseId) := by
  unfold openDecisionRun at ok
  cases present : store.tasks.runs.get? request.runId with
  | some previous =>
      rw [present] at ok
      cases ok
      exact .inl ⟨previous, rfl, rfl, rfl⟩
  | none =>
      rw [present] at ok
      obtain ⟨opened, opens, ok⟩ := bind_eq_ok.1 ok
      cases ok
      exact .inr ⟨rfl, openCaseDecisionExecution_ok given opens⟩

theorem decisionRunId_ne_empty (parentRunId : String) : decisionRunId parentRunId ≠ "" :=
  append_ne_empty (by decide)

theorem openEpisode_ok {cited : String → Option CitedEvidence} {parent : TaskRunModel}
    {contract : TaskContract} {caseId : String} {opened : OpenedFinalization}
    (kept : GapsKept store.cases) (found : store.tasks.runs.get? parent.runId = some parent)
    (ofCase : parent.caseId = some caseId)
    (ok : openEpisode store settings cited parent contract caseId drawn =
      .ok (opened, next)) :
    (∃ resultRef cases, opened = .returned resultRef ∧ next = { store with cases } ∧
        Changes false store.cases cases) ∨
      ∃ episode, opened = .deciding episode ∧ OpensEpisode store next parent.runId episode := by
  unfold openEpisode at ok
  obtain ⟨⟨state, cases⟩, read, ok⟩ := bind_eq_ok.1 ok
  obtain ⟨row, -, named, -, readFrom, changes, -, -⟩ := kept.getState read
  dsimp only at ok
  split at ok
  next resultRef ended =>
    cases ok
    exact .inl ⟨resultRef, cases, rfl, rfl, changes⟩
  next =>
    obtain ⟨⟨executionId, last⟩, opens, ok⟩ := bind_eq_ok.1 ok
    obtain ⟨envelope, -, ok⟩ := bind_eq_ok.1 ok
    obtain ⟨parentEnvelope, -, ok⟩ := bind_eq_ok.1 ok
    cases ok
    refine .inr ⟨_, rfl, ?_⟩
    have whole : decide (parent.status = .blocked ∨ state.unknowns ≠ [] ∨
        state.evidenceNeedIds ≠ []) = false →
          state.unknowns = [] ∧ state.evidenceNeedIds = [] := by
      intro closed
      have nothing := of_decide_eq_false closed
      push Not at nothing
      exact nothing.2
    have later : ReadFrom cases state := readFrom.extends (.of_changes changes)
    have parentCase : parent.caseId = some state.caseId := by rw [ofCase, named]
    rcases openDecisionRun_ok (decisionRunId_ne_empty parent.runId) opens with
      ⟨run, runFound, rfl, rfl⟩ | ⟨rfl, opensRun⟩
    · exact ⟨rfl, ⟨parent, found, parentCase⟩, changes, later, whole,
        .inl ⟨run, runFound, rfl, rfl⟩⟩
    · have sameCases : last.cases = cases := opensRun.same.1
      refine ⟨rfl, ⟨parent, found, parentCase⟩, ?_, ?_, whole, .inr ⟨rfl, ?_⟩⟩
      · rw [sameCases]
        exact changes
      · rw [sameCases]
        exact later
      · rw [sameCases]
        exact opensRun

/-- **A first transaction** returns, or it goes on to the planner. -/
theorem openFinalization_ok {parentRunId : String} {cited : String → Option CitedEvidence}
    {opened : OpenedFinalization} (kept : GapsKept store.cases)
    (ok : openFinalization store settings parentRunId cited drawn = .ok (opened, next)) :
    (∃ resultRef cases, opened = .returned resultRef ∧ next = { store with cases } ∧
        Changes false store.cases cases) ∨
      ∃ episode, opened = .deciding episode ∧ OpensEpisode store next parentRunId episode := by
  have idle : ∀ resultRef, (.ok (OpenedFinalization.returned resultRef, store) :
      Except Raised (OpenedFinalization × ProductStore)) = .ok (opened, next) →
      ∃ resultRef cases, opened = .returned resultRef ∧ next = { store with cases } ∧
        Changes false store.cases cases := by
    intro resultRef same
    cases same
    exact ⟨resultRef, store.cases, rfl, rfl, .refl⟩
  unfold openFinalization getRun at ok
  obtain ⟨parent, found, ok⟩ := fetch_bind_eq_ok.1 ok
  obtain rfl : parent.runId = parentRunId := key_of_get? found
  split at ok
  next => exact .inl (idle none ok)
  next caseId ofCase =>
    split at ok
    next => exact .inl (idle none ok)
    next =>
      obtain ⟨contract, -, ok⟩ := bind_eq_ok.1 ok
      split at ok
      next => exact openEpisode_ok kept found ofCase ok
      next => exact .inl (idle none ok)

end Opening

/-! ## Each step -/

variable {settings : ProductSettings} {state after : FinalizeState}

theorem Untouched.of_same {store next : ProductStore} (tasks : next.tasks = store.tasks)
    (executions : next.executions = store.executions) (runId : String) :
    Untouched store next runId :=
  ⟨by rw [tasks]; exact .refl _ _, by rw [executions]⟩

/-- A run of a decision does not wait for another. -/
theorem ReportsKept.awake (kept : ReportsKept state) (parentRunId : String) :
    Awake state.store.tasks (decisionRunId parentRunId) := by
  intro run found
  rcases (kept.runs parentRunId run found).stage with deciding | reported
  · rw [deciding.running]
    decide
  · rw [reported.completed]
    decide

theorem executionService_ok {op : ExecutionOp} {store next : ExecutionStore}
    (ok : executionService op store = .ok next) {executionId : String}
    (other : op.named ≠ executionId) : next.status? executionId = store.status? executionId := by
  cases op with
  | create envelope =>
      obtain ⟨⟨stored, last⟩, created, ok⟩ := bind_eq_ok.1 ok
      cases ok
      rw [ExecutionStore.create_ok created, if_neg]
      exact other
  | start started now =>
      rw [ExecutionStore.start_ok ok, if_neg]
      exact other
  | finish finished status stopReason now =>
      rw [ExecutionStore.finish_ok ok, if_neg]
      exact other

/-- **The state after a first transaction.** -/
theorem ReportsKept.opens {attempt parentRunId : String} {next : ProductStore} (kept : ReportsKept state)
    (opens : OpensEpisode state.store next parentRunId episode) :
    ReportsKept { state.turnTo attempt (some (.deciding episode)) with store := next } := by
  obtain ⟨rfl, ⟨parent, parentFound, parentCase⟩, changes, read, whole, opened⟩ := opens
  have turned : ∀ other stage, update state.attempts attempt (some (.deciding episode)) other
      = some stage → state.attempts other = some stage ∨ stage = .deciding episode := by
    intro other stage found
    by_cases same : other = attempt
    · subst same
      rw [update_self] at found
      exact .inr (Option.some.inj found).symm
    · rw [update_of_ne same] at found
      exact .inl found
  rcases opened with ⟨run, found, execution, left⟩ | ⟨execution, opensRun⟩
  · -- a delivery that finds the run of an earlier one
    obtain ⟨envelope, ⟨other, otherFound, ofCase⟩, -⟩ := kept.runs _ run found
    obtain rfl := mem_unique otherFound parentFound
    have tasks : next.tasks = state.store.tasks := by rw [left]
    have executions : next.executions = state.store.executions := by rw [left]
    have decisions : next.decisions = state.store.decisions := by rw [left]
    have steps : Steps false state.store next :=
      ⟨changes, by rw [tasks], fun _ _ stored => by rw [decisions]; exact stored⟩
    refine kept.steps steps (fun parentRunId => .inl (.of_same tasks executions _))
      (fun name stage present => ?_) fun resolution member => .inl member
    rcases turned name stage present with old | rfl
    · exact .inl old
    · refine .inr ⟨episode, rfl, execution.trans envelope, ⟨run, ?_, ofCase.trans parentCase⟩, read,
        whole⟩
      rw [tasks]
      exact found
  · obtain ⟨⟨-, decisions, -⟩, effects, absent, ⟨run, found, running, reference, revision, ofCase⟩,
      log, apart, executions⟩ := opensRun
    -- a run that was not there has no events
    have noEvents : state.store.tasks.eventsOf (decisionRunId episode.parentRunId) = [] := by
      rw [eq_nil_iff_forall_not_mem]
      intro event member
      obtain ⟨listed, ofRun⟩ := TaskRuntime.mem_eventsOf.1 member
      obtain ⟨owner, ownerFound, -⟩ := kept.log.ofRun event listed
      rw [ofRun] at ownerFound
      exact absurd (ownerFound.symm.trans absent) (by simp)
    have deciding : Deciding next (decisionRunId episode.parentRunId) run := by
      refine ⟨running, le_of_eq revision.symm, by rw [executions, if_pos rfl], ?_⟩
      intro event member
      rcases log event member with old | opening
      · rw [noEvents] at old
        cases old
      · intro same
        rw [same] at opening
        simp only [openingKeys, mem_cons, not_mem_nil, or_false] at opening
        rcases opening with created | queued | started
        · exact append_right_ne (by decide) _ created
        · exact append_right_ne (by decide) _ queued
        · exact append_right_ne (by decide) _ started
    have steps : Steps false state.store next :=
      ⟨changes, effects, fun _ _ stored => by rw [decisions]; exact stored⟩
    refine kept.steps steps (fun parentRunId => ?_) (fun name stage present => ?_)
      fun resolution member => .inl member
    · by_cases same : parentRunId = episode.parentRunId
      · subst same
        refine .inr fun other otherFound => ?_
        obtain rfl := mem_unique otherFound found
        obtain ⟨later, laterFound, stays⟩ := effects_caseId effects parentFound
        exact ⟨reference, ⟨later, laterFound, by rw [stays, parentCase, ofCase]⟩, .inl deciding⟩
      · have different : decisionRunId episode.parentRunId ≠ decisionRunId parentRunId :=
          fun equal => same (decisionRunId_injective equal).symm
        refine .inl ⟨apart _ different, ?_⟩
        rw [executions, if_neg]
        exact fun equal => different (append_left_inj equal)
    · rcases turned name stage present with old | rfl
      · exact .inl old
      · exact .inr ⟨episode, rfl, execution, ⟨run, found, ofCase⟩, read, whole⟩

/-- A delivery that is over leaves the others. -/
theorem attempts_of_over {attempt other : String} {stage : Attempt}
    (found : (state.turnTo attempt none).attempts other = some stage) :
    state.attempts other = some stage := by
  replace found : update state.attempts attempt none other = some stage := found
  by_cases same : other = attempt
  · subst same
    rw [update_self] at found
    cases found
  · rw [update_of_ne same] at found
    exact found

/-- **The state after a second transaction**: the run of the decision has its report. -/
theorem ReportsKept.settles {attempt : String} {proposal : Proposal}
    {knowledge : KnowledgeStore} {drawn : Drawn} (kept : ReportsKept state)
    (present : state.attempts attempt = some (.deciding episode))
    (orderly : Orderly settings state (.settles attempt proposal knowledge drawn)) :
    ReportsKept (state.settle settings attempt episode proposal knowledge drawn) ∧
      ∃ run, (state.settle settings attempt episode proposal knowledge drawn).store.tasks.runs.get?
          (decisionRunId episode.parentRunId) = some run ∧
        Reported (state.settle settings attempt episode proposal knowledge drawn).store run := by
  obtain ⟨tried, made, settles⟩ := orderly episode present
  obtain ⟨other, same, execution, ⟨run, found, ofCase⟩, read, whole⟩ :=
    kept.attempts attempt _ present
  obtain rfl : episode = other := by injection same
  obtain ⟨envelope, ofParent, deciding | reported⟩ := kept.runs _ run found
  · have progress : InProgress state.store episode :=
      ⟨run, found, by rw [deciding.running]; rfl⟩
    obtain ⟨settles, fresh⟩ := settles progress
    obtain ⟨outcome, incomplete, next, called, changes, logged, type, named, complete, stored, keeps,
      effect, ⟨last, lastFound, completed, result, stays, reference⟩, apart, executions⟩ :=
      settleEpisode_of_settles knowledge kept.gaps kept.log read found deciding.running
        deciding.revision (execution ▸ deciding.executing) deciding.unused fresh settles
    have ok : settleFinalization state.store settings knowledge episode proposal drawn =
        .ok (.decided outcome incomplete, next) := by
      unfold settleFinalization getRun
      rw [made, ok_bind, found]
      simp only [fetch, ok_bind]
      rw [deciding.running]
      exact called
    have settled : state.settle settings attempt episode proposal knowledge drawn =
        { state.turnTo attempt none with
          store := next
          resolutions := state.resolutions ++ resolutionOf (.decided outcome incomplete) } := by
      unfold FinalizeState.settle
      rw [ok]
    have listed := mem_caseEventsOf.1 logged
    have reported : Reported next last := by
      obtain ⟨row, rowFound⟩ := stored
      refine ⟨completed, _, row, outcome.committed.event, result, rowFound, listed.1, type, named, ?_⟩
      rw [stays, ofCase, listed.2]
    have steps : Steps false state.store next := ⟨changes, .single effect, keeps⟩
    rw [settled]
    refine ⟨kept.steps steps (fun parentRunId => ?_)
      (fun name stage found => .inl (attempts_of_over found)) (fun resolution member => ?_),
      last, lastFound, reported⟩
    · by_cases same : parentRunId = episode.parentRunId
      · subst same
        refine .inr fun other otherFound => ?_
        obtain rfl := mem_unique otherFound lastFound
        obtain ⟨parent, parentFound, parentCase⟩ := ofParent
        obtain ⟨later, laterFound, unchanged⟩ := effect.caseId parentFound
        exact ⟨reference.trans envelope, ⟨later, laterFound, by rw [stays, parentCase, unchanged]⟩,
          .inr reported⟩
      · have different : decisionRunId episode.parentRunId ≠ decisionRunId parentRunId :=
          fun equal => same (decisionRunId_injective equal).symm
        refine .inl ⟨apart _ different, ?_⟩
        rw [executions, if_neg]
        rw [execution]
        exact fun equal => different (append_left_inj equal)
    · rcases mem_append.1 member with old | new
      · exact .inl old
      · cases incomplete with
        | true => cases new
        | false =>
            obtain rfl := mem_singleton.1 new
            obtain ⟨closed, base⟩ := complete rfl
            obtain ⟨known, met⟩ := whole closed
            have nothing := (read.nothingLeftOpen known met).extends (.of_changes changes)
            rw [← base, ← listed.2] at nothing
            exact .inr (nothing.decided (kept.gaps.changes changes).log
              (mem_caseEventsOf.2 ⟨listed.1, rfl⟩) type)
  · have ok : settleFinalization state.store settings knowledge episode proposal drawn =
        .ok (.returned run.resultRef, state.store) := by
      unfold settleFinalization getRun
      rw [made, ok_bind, found]
      simp only [fetch, ok_bind]
      rw [reported.completed]
      rfl
    have settled : state.settle settings attempt episode proposal knowledge drawn =
        { state.turnTo attempt none with
          store := state.store, resolutions := state.resolutions ++ [] } := by
      unfold FinalizeState.settle
      rw [ok]
      rfl
    rw [settled]
    have steps : Steps false state.store state.store := ⟨.refl, .refl, fun _ _ stored => stored⟩
    refine ⟨kept.steps steps (fun parentRunId => .inl (.of_same rfl rfl _))
      (fun name stage found => .inl (attempts_of_over found)) (fun resolution member => .inl ?_),
      run, found, reported⟩
    rw [append_nil] at member
    exact member

/-- **Every orderly step** keeps what holds. -/
theorem ReportsKept.step {op : FinalizeOp} {answer : Unit} (kept : ReportsKept state)
    (orderly : Orderly settings state op)
    (ok : finalizeSystem settings op state = .ok (answer, after)) : ReportsKept after := by
  cases op with
  | cases op =>
      obtain ⟨⟨result, cases⟩, called, ok⟩ := bind_eq_ok.1 ok
      cases ok
      have steps : Steps op.records state.store { state.store with cases } :=
        ⟨changes_of_ok kept.gaps.logged called, .refl, fun _ _ stored => stored⟩
      exact kept.steps steps (fun parentRunId => .inl ⟨.refl _ _, rfl⟩)
        (fun name stage found => .inl found) fun resolution member => .inl member
  | tasks op =>
      obtain ⟨⟨result, tasks⟩, called, ok⟩ := bind_eq_ok.1 ok
      cases ok
      have steps : Steps false state.store { state.store with tasks } :=
        ⟨.refl, .single (effect_of_ok called), fun _ _ stored => stored⟩
      exact kept.steps steps
        (fun parentRunId => .inl
          ⟨apart_of_unnamed called (orderly parentRunId) (kept.awake parentRunId), rfl⟩)
        (fun name stage found => .inl found) fun resolution member => .inl member
  | executions op =>
      obtain ⟨executions, called, ok⟩ := bind_eq_ok.1 ok
      cases ok
      have steps : Steps false state.store { state.store with executions } :=
        ⟨.refl, .refl, fun _ _ stored => stored⟩
      exact kept.steps steps
        (fun parentRunId => .inl ⟨.refl _ _, executionService_ok called (orderly parentRunId)⟩)
        (fun name stage found => .inl found) fun resolution member => .inl member
  | turn request turnId now =>
      obtain ⟨⟨turn, sessions⟩, called, ok⟩ := bind_eq_ok.1 ok
      cases ok
      have steps : Steps false state.store { state.store with sessions } :=
        ⟨.refl, .refl, fun _ _ stored => stored⟩
      exact kept.steps steps (fun parentRunId => .inl ⟨.refl _ _, rfl⟩)
        (fun name stage found => .inl found) fun resolution member => .inl member
  | opens attempt parentRunId cited drawn =>
      obtain ⟨⟨opened, next⟩, called, ok⟩ := bind_eq_ok.1 ok
      rcases openFinalization_ok kept.gaps called with
        ⟨resultRef, cases, rfl, rfl, changes⟩ | ⟨episode, rfl, opens⟩
      · cases ok
        have steps : Steps false state.store { state.store with cases } :=
          ⟨changes, .refl, fun _ _ stored => stored⟩
        exact kept.steps steps (fun parentRunId => .inl ⟨.refl _ _, rfl⟩)
          (fun name stage found => .inl found) fun resolution member => .inl member
      · cases ok
        exact kept.opens opens
  | settles attempt proposal knowledge drawn =>
      unfold finalizeSystem at ok
      dsimp only at ok
      cases present : state.attempts attempt with
      | none =>
          rw [present] at ok
          cases ok
          exact kept
      | some stage =>
          obtain ⟨episode, rfl, -⟩ := kept.attempts attempt stage present
          rw [present] at ok
          cases ok
          exact (kept.settles present orderly).1
  | raises attempt error => cases orderly
  | fails attempt drawn =>
      unfold finalizeSystem at ok
      dsimp only at ok
      cases present : state.attempts attempt with
      | none =>
          rw [present] at ok
          cases ok
          exact kept
      | some stage =>
          -- no delivery has raised
          obtain ⟨episode, rfl, -⟩ := kept.attempts attempt stage present
          rw [present] at ok
          cases ok
          exact kept
  | crashes attempt =>
      cases ok
      have steps : Steps false state.store state.store := ⟨.refl, .refl, fun _ _ stored => stored⟩
      exact kept.steps steps (fun parentRunId => .inl ⟨.refl _ _, rfl⟩)
        (fun name stage found => .inl (attempts_of_over found)) fun resolution member => .inl member

theorem reportsKept_finalizeStateAfter (settings : ProductSettings) (ops : List FinalizeOp)
    (orderly : Along (finalizeSystem settings) (Orderly settings) FinalizeState.initial ops) :
    ReportsKept (finalizeStateAfter settings ops) :=
  run_invariant_along (fun _ _ _ _ kept orderly ok => kept.step orderly ok)
    ReportsKept.initial ops orderly

/-! ## Every finished episode -/

/-- **Every finished episode gets its report**, in every run whose steps are orderly: a
run of a decision that has ended has its report, the run of a decision that the planner
has answered ends at once, and a case is resolved only at a revision at which nothing is
left open. -/
theorem finished_episodes_get_reports (settings : ProductSettings) (ops : List FinalizeOp)
    (orderly : Along (finalizeSystem settings) (Orderly settings) FinalizeState.initial ops) :
    (∀ parentRunId run,
      (finalizeStateAfter settings ops).store.tasks.runs.get? (decisionRunId parentRunId) =
        some run → run.status.isTerminal = true →
          Reported (finalizeStateAfter settings ops).store run) ∧
    (∀ attempt episode proposal knowledge drawn,
      (finalizeStateAfter settings ops).attempts attempt = some (.deciding episode) →
      Orderly settings (finalizeStateAfter settings ops)
        (.settles attempt proposal knowledge drawn) →
      ∃ run, (finalizeStateAfter settings
            (ops ++ [.settles attempt proposal knowledge drawn])).store.tasks.runs.get?
              (decisionRunId episode.parentRunId) = some run ∧
          Reported (finalizeStateAfter settings
            (ops ++ [.settles attempt proposal knowledge drawn])).store run) ∧
    ∀ resolution ∈ (finalizeStateAfter settings ops).resolutions, ∃ read,
      getStateAtRevision (finalizeStateAfter settings ops).store.cases resolution.1 resolution.2 =
        .ok read ∧ read.unknowns = [] ∧ read.evidenceNeedIds = [] := by
  have kept := reportsKept_finalizeStateAfter settings ops orderly
  refine ⟨?_, ?_, ?_⟩
  · intro parentRunId run found ended
    rcases (kept.runs parentRunId run found).stage with deciding | reported
    · rw [deciding.running] at ended
      cases ended
    · exact reported
  · intro attempt episode proposal knowledge drawn present settles
    have answered : finalizeSystem settings (.settles attempt proposal knowledge drawn)
        (finalizeStateAfter settings ops) = .ok ((), (finalizeStateAfter settings ops).settle
          settings attempt episode proposal knowledge drawn) := by
      unfold finalizeSystem
      dsimp only
      rw [present]
    have step : finalizeStateAfter settings (ops ++ [.settles attempt proposal knowledge drawn]) =
        (finalizeStateAfter settings ops).settle settings attempt episode proposal knowledge
          drawn := by
      rw [← transact_of_ok answered]
      unfold finalizeStateAfter
      rw [run_append, run_cons, run_nil]
    rw [step]
    exact (kept.settles present settles).2
  · intro resolution member
    obtain ⟨⟨row, found, reached⟩, unknowns, needs⟩ := kept.resolved resolution member
    obtain ⟨read, answered, sameUnknowns, sameNeeds⟩ :=
      getStateAtRevision_until kept.gaps.log found reached
    exact ⟨read, answered, sameUnknowns.trans unknowns, sameNeeds.trans needs⟩

/-! ## An episode that is answered, and one whose case has moved -/

/-- A text that does not begin as the runs of decisions do names none. -/
theorem decisionRunId_ne {text : String}
    (other : afterHead? "secfusion:case-decision:" text = none) (parentRunId : String) :
    text ≠ decisionRunId parentRunId := by
  rintro rfl
  have begins : decisionRunId parentRunId = "secfusion:case-decision:" ++ parentRunId := by
    unfold decisionRunId stableId
    rw [← String.append_assoc]
    rfl
  rw [begins, Text.afterHead?_append] at other
  cases other

theorem parent_apart (parentRunId : String) : decisionRunId parentRunId ∉ ["parent"] :=
  fun member => decisionRunId_ne (by decide) parentRunId (mem_singleton.1 member).symm

theorem parentExecution_apart (parentRunId : String) :
    "execution:parent" ≠ "execution:" ++ decisionRunId parentRunId := by
  intro same
  have spelt : "execution:" ++ "parent" = "execution:" ++ decisionRunId parentRunId := same
  exact decisionRunId_ne (by decide) parentRunId (append_left_inj spelt)

def userContract : TaskContract :=
  { investigationContract with principal := "user:analyst", principal_nonblank := by decide }

def lookupContract : TaskContract :=
  { userContract with taskContractId := "lookup", taskKind := .lookup }

def reportSettings : ProductSettings where
  streamName := "task-events"
  policyRevision := "policy-1"
  timeout := 10
  limits := ⟨.empty, by decide, by decide⟩
  admitTask := fun _ => .ok lookupContract
  sha256 := fun _ => ""

def episodeEnvelope : ExecutionEnvelope where
  executionId := "execution:parent"
  taskContractId := "investigation"
  taskRunId := "parent"
  roleRevision := "InvestigationRole@1"
  contextManifestRevision := 1
  executionProfile := .investigate
  deadlineAt := 100
  budgetRef := "budget:parent"
  policyRevision := "policy-1"
  networkPolicy := "local-only"
  sideEffectPolicy := "read-only"
  sandboxProfileRevision := "none@1"
  manifest_pos := Nat.one_ne_zero
  named := by decide

def drawnAt (now : ℤ) : Drawn :=
  ⟨fun number => toString now ++ ":" ++ toString number, watchEventIds, now⟩

/-- An episode about a case has completed, and a delivery waits for the planner. -/
def episodeFinished : List FinalizeOp :=
  [ .cases (.create "case-1" "signature" ["widget"] "goal" none 0),
    .executions (.create episodeEnvelope),
    .tasks (.create
      { contract := userContract, manifest := parentManifest, role := investigationRole
        executionEnvelopeRef := "execution:parent", streamName := "task-events"
        caseId := some "case-1", runId := some "parent" } "uuid-1" "event-1" 1),
    .tasks (.transition
      { runId := "parent", target := .queued, payloadRef := "queue:investigation"
        idempotencyKey := "investigation-queued:parent", streamName := "task-events" }
      "event-2" 2),
    .tasks (.claim "parent" "task-events" "task-runtime-executor" "event-3" 3),
    .tasks (.transition
      { runId := "parent", target := .completed, payloadRef := "investigation-result:parent"
        idempotencyKey := "investigation-completed:parent", streamName := "task-events" }
      "event-4" 4),
    .opens "delivery" "parent" (fun _ => none) (drawnAt 5) ]

theorem plainDraft_named : isBlank "case-1" = false := by decide

/-- A draft about the case as the delivery has read it. -/
def plainDraft : DecisionDraft where
  caseId := "case-1"
  caseRevision := 0
  stopReason := "answered"
  modelPromptRevision := "decision-v1"
  case_named := plainDraft_named
  stop_given := by decide
  stop_fits := by decide
  prompt_given := by decide

def plainAnswer : FinalizeOp :=
  .settles "delivery" (.draft plainDraft) packageKnowledge (drawnAt 7)

/-- The episode of a delivery that waits for the planner. -/
def Attempt.deciding? : Attempt → Option Episode
  | .deciding episode => some episode
  | .raised _ _ => none

theorem read_plain
    (present : (finalizeStateAfter reportSettings episodeFinished).attempts "delivery" =
      some (.deciding episode)) :
    episode.state.caseId = "case-1" ∧ episode.state.caseRevision = 0 ∧
      episode.incomplete = false ∧ episode.requestId = none := by
  have read : (((finalizeStateAfter reportSettings episodeFinished).attempts "delivery").bind
      Attempt.deciding?).map (fun episode => (episode.state.caseId, episode.state.caseRevision,
        episode.incomplete, episode.requestId)) = some ("case-1", 0, false, none) := by
    decide +kernel
  rw [present] at read
  replace read := Option.some.inj read
  simp only [mk.injEq] at read
  exact read

theorem triedProposal_plain
    (present : (finalizeStateAfter reportSettings episodeFinished).attempts "delivery" =
      some (.deciding episode)) :
    triedProposal episode (.draft plainDraft) = .ok (.draft plainDraft) := by
  obtain ⟨-, -, whole, -⟩ := read_plain present
  unfold triedProposal
  rw [whole, if_neg]
  exact fun both => Bool.false_ne_true both.1

theorem watchEventIds_injective (caseId : String) : Injective (watchEventIds caseId) := by
  intro first second same
  have numbers : first.repr = second.repr := append_left_inj same
  have digits := congrArg (fun text => Nat.ofDigitChars 10 text.toList 0) numbers
  simpa using digits

/-- Nothing stands in the way of the draft. -/
theorem settles_plain
    (present : (finalizeStateAfter reportSettings episodeFinished).attempts "delivery" =
      some (.deciding episode)) :
    Settles reportSettings (finalizeStateAfter reportSettings episodeFinished).store episode
        (drawnAt 7) (.draft plainDraft) ∧
      ∀ event ∈ (finalizeStateAfter reportSettings episodeFinished).store.tasks.events.rows,
        event.eventId ≠ (drawnAt 7).taskEventIds 0 := by
  obtain ⟨named, revision, whole, unasked⟩ := read_plain present
  refine ⟨?_, by decide +kernel⟩
  have cited : ∀ paragraph ∈ plainDraft.narrative, paragraph.evidenceRefs = [] := by decide
  obtain ⟨result, decided⟩ : ∃ result, DecisionService.decide reportSettings.sha256 episode.state
      plainDraft episode.sources = .ok result :=
    decide_inconclusive named.symm revision.symm rfl cited rfl
  have opened : ((finalizeStateAfter reportSettings episodeFinished).store.cases.cases.get?
      "case-1").map (fun row => (row.caseId, row.status, row.currentRevision)) =
        some ("case-1", .created, 0) := by decide +kernel
  have unlogged : (finalizeStateAfter reportSettings episodeFinished).store.cases.events.rows =
      [] := by decide +kernel
  have undecided : ∀ id, (finalizeStateAfter reportSettings episodeFinished).store.decisions.get?
      id = none := by
    intro id
    rw [Table.get?_eq_none]
    have rows : (finalizeStateAfter reportSettings episodeFinished).store.decisions.rows = [] := by
      decide +kernel
    rw [rows]
    exact forall_mem_nil _
  obtain ⟨row, found, facts⟩ := map_eq_some_iff.1 opened
  simp only [mk.injEq] at facts
  obtain ⟨ofCase, status, current⟩ := facts
  have ready : Ready reportSettings (finalizeStateAfter reportSettings episodeFinished).store row
      (drawnAt 7) := by
    refine ⟨by rw [ofCase]; exact found, by rw [status]; rfl,
      ⟨fun _ _ event member => ?_, watchEventIds_injective _⟩,
      fun draft _ _ => ⟨undecided _, fun event member => ?_⟩⟩
    · rw [unlogged] at member
      cases member
    · rw [eventsOf, select, unlogged] at member
      cases member
  refine .accepted decided (.current ready (ofCase.trans named.symm) (current.trans revision.symm))
    ?_ ?_
  · intro requestId given
    rw [unasked] at given
    cases given
  · obtain ⟨-, -, -, -, -, unknowns, -⟩ := decide_ok decided
    rw [whole, unknowns, status]
    unfold Parks
    decide

/-- The planner answers while nothing else is written. -/
theorem finished_episodes_get_reports_answered :
    ∃ run, (finalizeStateAfter reportSettings (episodeFinished ++ [plainAnswer])).store.tasks.runs.get?
        (decisionRunId "parent") = some run ∧
      Reported (finalizeStateAfter reportSettings (episodeFinished ++ [plainAnswer])).store run := by
  have settles : Orderly reportSettings (finalizeStateAfter reportSettings episodeFinished)
      plainAnswer := by
    intro episode present
    exact ⟨_, triedProposal_plain present, fun _ => settles_plain present⟩
  have orderly : Along (finalizeSystem reportSettings) (Orderly reportSettings)
      FinalizeState.initial (episodeFinished ++ [plainAnswer]) :=
    ⟨trivial, parentExecution_apart, parent_apart, parent_apart, parent_apart, parent_apart,
      trivial, settles, trivial⟩
  have ended : ((finalizeStateAfter reportSettings (episodeFinished ++
      [plainAnswer])).store.tasks.runs.get? (decisionRunId "parent")).map (·.status) =
        some .completed := by decide +kernel
  obtain ⟨run, found, completed⟩ := map_eq_some_iff.1 ended
  refine ⟨run, found, (finished_episodes_get_reports reportSettings _ orderly).1 "parent" run
    found ?_⟩
  rw [completed]
  rfl

/-- What others do while an episode is finalized: any writes to cases but cancellation
and close, and none to the runs of decisions.  The planner answers. -/
def Undisturbed : FinalizeOp → Prop
  | .cases (.move _ .cancel _) | .cases (.move _ (.close _) _) | .raises _ _ => False
  | .tasks op => ∀ parentRunId, decisionRunId parentRunId ∉ op.named
  | .executions op => ∀ parentRunId, op.named ≠ "execution:" ++ decisionRunId parentRunId
  | .cases _ | .turn .. | .opens .. | .settles .. | .fails .. | .crashes _ => True

def needOpened : FinalizeOp :=
  .cases (.openNeed packageKnowledge
    { caseId := "case-1", baseCaseRevision := 0, needId := "need-1", purpose := "watch"
      propositionOrQuestion := "is it still maintained", targetObjects := ["widget"] }
    watchEventIds 6)

/-- **A need in between costs the report**: the draft is about a revision that is no
longer the case's, the second transaction raises, and the run of the decision fails. -/
theorem a_need_in_between_costs_the_report :
    ¬ ∀ (settings : ProductSettings) (ops : List FinalizeOp), (∀ op ∈ ops, Undisturbed op) →
      ∀ parentRunId run,
        (finalizeStateAfter settings ops).store.tasks.runs.get? (decisionRunId parentRunId) =
          some run → run.status ≠ .failed := by
  intro reported
  have failed : ((finalizeStateAfter reportSettings (episodeFinished ++ [needOpened, plainAnswer,
      .fails "delivery" (drawnAt 8)])).store.tasks.runs.get? (decisionRunId "parent")).map
        (·.status) = some .failed := by decide +kernel
  obtain ⟨run, found, status⟩ := map_eq_some_iff.1 failed
  refine reported reportSettings _ ?_ "parent" run found status
  unfold episodeFinished
  simp only [cons_append, nil_append, forall_mem_cons]
  exact ⟨trivial, parentExecution_apart, parent_apart, parent_apart, parent_apart, parent_apart,
    trivial, trivial, trivial, trivial, forall_mem_nil _⟩

end SecFusion.Application
