import SecFusion.Application.Questions
import SecFusion.Foundations.Footprint

/-!
# What a command touches

Each command of a principal works on one case.  It leaves the other cases as they are,
with their events, needs and runs (`TouchesCase`, `TouchesRuns`); a run that it creates
bears that case and the principal (`TouchesRuns.new`); and a turn that it appends stands
in a session of the principal (`appendTurn_ok`).

`Touches` puts the tables of the cases and runs together.  It composes, so what a command
touches is what its calls touch, and none of this asks whose the case is.
-/

namespace SecFusion.Application

open Foundations Intelligence Execution TaskRuntime Investigation Reasoning

/-! ## Cases -/

/-- **Nothing of the case has been written.** -/
structure SparesCase (caseId : String) (cases next : CaseStore) : Prop where
  row : next.cases.get? caseId = cases.cases.get? caseId
  events : SameRows (fun event => event.caseId = caseId) cases.events next.events
  needs : SameRows (fun need => need.caseId = caseId) cases.needs next.needs

theorem SparesCase.refl (caseId : String) (cases : CaseStore) : SparesCase caseId cases cases :=
  ⟨rfl, .refl _, .refl _⟩

variable {cases : CaseStore} {request : ContinuationRequest} {result : QuestionResultView}
  {view : InvestigationView} {old new run : TaskRunModel} {tasks : TaskStore} {now : ℤ}
  {settings : QuestionSettings} {reads : KnowledgeReads} {command : CancelInvestigationCommand}
  {sessions : SessionStore} {opened : OpenedQuestion} {sessionId : String}
  {caseId active : Option String} {record : Option ProductCommandRecordModel}
  {session : QuestionSessionContext} {pending : PendingQuestion}

theorem SparesCase.trans {caseId : String} {middle next : CaseStore}
    (first : SparesCase caseId cases middle) (second : SparesCase caseId middle next) :
    SparesCase caseId cases next :=
  ⟨second.row.trans first.row, first.events.trans second.events, first.needs.trans second.needs⟩

/-- Every case but the given one is spared, and none is lost. -/
structure TouchesCase (caseId : Option String) (cases next : CaseStore) : Prop where
  spared : ∀ other, caseId ≠ some other → SparesCase other cases next
  stays : ∀ other row, cases.cases.get? other = some row →
    ∃ later, next.cases.get? other = some later

namespace TouchesCase

variable {middle next : CaseStore}

theorem refl (caseId : Option String) (cases : CaseStore) : TouchesCase caseId cases cases :=
  ⟨fun _ _ => .refl _ _, fun _ row found => ⟨row, found⟩⟩

theorem trans (first : TouchesCase caseId cases middle) (second : TouchesCase caseId middle next) :
    TouchesCase caseId cases next where
  spared other different := (first.spared other different).trans (second.spared other different)
  stays other row found := by
    obtain ⟨later, laterFound⟩ := first.stays other row found
    exact second.stays other later laterFound

/-- Reading the state of a case writes no more than its projection. -/
theorem of_getState {read : String} {state : InvestigationState}
    (ok : getState cases read now = .ok (state, next)) : TouchesCase caseId cases next := by
  obtain ⟨row, -, ⟨-, rfl⟩ | ⟨-, -, rfl⟩⟩ := getState_ok ok
  · exact .refl caseId _
  · exact ⟨fun _ _ => ⟨rfl, .refl _, .refl _⟩, fun _ row found => ⟨row, found⟩⟩

theorem of_openNeed {knowledge : KnowledgeStore} {request : OpenEvidenceNeed}
    {eventIds : EventIds} {result : EvidenceNeedOpenResult}
    (ok : openEvidenceNeed cases knowledge request eventIds now = .ok (result, next)) :
    TouchesCase (some request.caseId) cases next := by
  obtain ⟨row, -, ⟨-, -, -, read⟩ | ⟨-, -, -, logged, needs, appended, inserted, rebuilt, -⟩⟩ :=
    openEvidenceNeed_course ok
  · exact .of_getState read
  · obtain ⟨-, logs, sameNeeds, -⟩ := appendEvent_ok appended
    obtain ⟨current, -, -, rfl⟩ := rebuildState_ok rebuilt
    rw [sameNeeds] at inserted
    constructor
    · intro other different
      have apart : request.caseId ≠ other := fun same => different (congrArg some same)
      refine ⟨?_, .of_append logs.events ?_, .of_insert? inserted apart⟩
      · exact (logs.cases other).trans (if_neg apart)
      · rw [logs.ofCase]
        exact apart
    · intro other before found
      have later := logs.cases other
      rw [found] at later
      split at later
      · exact ⟨_, later⟩
      · exact ⟨_, later⟩

theorem of_transition {moved : String} {allowed : List CaseStatus} {target : CaseStatus}
    {view : InvestigationCaseModel}
    (ok : transitionCase cases moved allowed target = .ok (view, next)) :
    TouchesCase (some moved) cases next := by
  obtain ⟨row, -, ⟨-, rfl⟩ | ⟨-, -, rfl⟩⟩ := transitionCase_ok ok
  · exact .refl _ _
  · have rows := get?_update cases.cases moved (·.withStatus target)
      (·.withStatus_caseId target)
    constructor
    · intro other different
      refine ⟨(rows other).trans (if_neg fun same => different (congrArg some same)), .refl _,
        .refl _⟩
    · intro other before found
      have later := rows other
      rw [found] at later
      split at later
      · exact ⟨_, later⟩
      · exact ⟨_, later⟩

theorem of_create {created taskSignature goal : String} {targets : List String}
    {knowledgeRevision : Option ℕ} {view : InvestigationCaseModel}
    (ok : createCase cases created taskSignature targets goal knowledgeRevision now =
      .ok (view, next)) :
    TouchesCase (some created) cases next ∧ cases.cases.get? created = none ∧
      ∃ row, next.cases.get? created = some row := by
  unfold createCase at ok
  obtain ⟨table, inserted, ok⟩ := fetch_bind_eq_ok.1 ok
  cases ok
  have rows := get?_insert? inserted
  have absent := (insert?_eq_some inserted).2
  refine ⟨⟨?_, ?_⟩, absent, _, (rows created).trans (if_pos rfl)⟩
  · intro other different
    exact ⟨(rows other).trans (if_neg fun same => different (congrArg some same)), .refl _,
      .refl _⟩
  · intro other row found
    refine ⟨row, (rows other).trans ?_⟩
    rw [if_neg, found]
    rintro rfl
    exact absurd (absent.symm.trans found) (by simp)

end TouchesCase

/-! ## Runs -/

/-- What no move of a run changes: its case, its role and its contract. -/
structure SameDuty (old new : TaskRunModel) : Prop where
  caseId : new.caseId = old.caseId
  role : new.roleId = old.roleId
  contract : new.taskContractVersionId = old.taskContractVersionId

theorem SameDuty.refl (run : TaskRunModel) : SameDuty run run := ⟨rfl, rfl, rfl⟩

theorem SameDuty.trans {middle : TaskRunModel} (first : SameDuty old middle)
    (second : SameDuty middle new) : SameDuty old new :=
  ⟨second.caseId.trans first.caseId, second.role.trans first.role,
    second.contract.trans first.contract⟩

def ContractsGrow (tasks next : TaskStore) : Prop :=
  ∀ id row, tasks.contracts.get? id = some row → next.contracts.get? id = some row

/-- The principal of a run stays with it. -/
theorem SameDuty.principal {next : TaskStore} {principal : String} (same : SameDuty old new)
    (grow : ContractsGrow tasks next) (borne : principalOf? tasks old = some principal) :
    principalOf? next new = some principal := by
  obtain ⟨row, found, rfl⟩ := map_eq_some_iff.1 borne
  unfold principalOf? contractRow?
  rw [same.contract, grow _ row found]
  rfl

/-- **The runs of the other cases are spared**, and a run that is new bears the case and
the principal. -/
structure TouchesRuns (caseId : Option String) (principal : String) (tasks next : TaskStore) :
    Prop where
  contracts : ContractsGrow tasks next
  stays : ∀ runId run, tasks.runs.get? runId = some run →
    ∃ later, next.runs.get? runId = some later ∧ SameDuty run later
  new : ∀ runId run, next.runs.get? runId = some run →
    (∃ before, tasks.runs.get? runId = some before ∧ SameDuty before run) ∨
      (tasks.runs.get? runId = none ∧ run.caseId = caseId ∧
        principalOf? next run = some principal)
  spared : ∀ other, caseId ≠ some other →
    SameRows (fun run => run.caseId = some other) tasks.runs next.runs

namespace TouchesRuns

variable {principal : String} {middle next : TaskStore} {eventId : String}

theorem refl (caseId : Option String) (principal : String) (tasks : TaskStore) :
    TouchesRuns caseId principal tasks tasks where
  contracts _ _ found := found
  stays _ run found := ⟨run, found, .refl run⟩
  new _ run found := .inl ⟨run, found, .refl run⟩
  spared _ _ := .refl _

theorem trans (first : TouchesRuns caseId principal tasks middle)
    (second : TouchesRuns caseId principal middle next) :
    TouchesRuns caseId principal tasks next where
  contracts id row found := second.contracts id row (first.contracts id row found)
  stays runId run found := by
    obtain ⟨between, betweenFound, same⟩ := first.stays runId run found
    obtain ⟨later, laterFound, more⟩ := second.stays runId between betweenFound
    exact ⟨later, laterFound, same.trans more⟩
  new runId run found := by
    rcases second.new runId run found with ⟨between, betweenFound, more⟩ | ⟨absent, ofCase, borne⟩
    · rcases first.new runId between betweenFound with ⟨before, beforeFound, same⟩ | fresh
      · exact .inl ⟨before, beforeFound, same.trans more⟩
      · obtain ⟨absent, ofCase, borne⟩ := fresh
        exact .inr ⟨absent, more.caseId.trans ofCase, more.principal second.contracts borne⟩
    · refine .inr ⟨?_, ofCase, borne⟩
      cases present : tasks.runs.get? runId with
      | none => rfl
      | some run =>
          obtain ⟨later, laterFound, -⟩ := first.stays runId run present
          rw [absent] at laterFound
          cases laterFound
  spared other different := (first.spared other different).trans (second.spared other different)

/-- A run is moved that is of the case, or of none. -/
theorem of_transition {request : TransitionTaskRun} {view : TaskRun}
    (ok : transitionTaskRun tasks request eventId now = .ok (view, next))
    (found : tasks.runs.get? request.runId = some run)
    (ofCase : ∀ other, run.caseId = some other → caseId = some other) :
    TouchesRuns caseId principal tasks next := by
  obtain ⟨_, -, -, -, logs⟩ := transitionTaskRun_ok ok
  have rows : ∀ runId, next.runs.get? runId = if request.runId = runId then
      (tasks.runs.get? runId).map (·.withTransition request now) else tasks.runs.get? runId := by
    intro runId
    rw [logs.runs]
    exact get?_updateRun tasks request.runId _ _ runId
  constructor
  case contracts =>
    intro id row stored
    rw [logs.contracts]
    exact stored
  case stays =>
    intro runId old oldFound
    have later := rows runId
    rw [oldFound] at later
    split at later
    · exact ⟨_, later, rfl, rfl, rfl⟩
    · exact ⟨_, later, .refl old⟩
  case new =>
    intro runId new newFound
    left
    have later := rows runId
    rw [newFound] at later
    split at later
    · obtain ⟨old, oldFound, rfl⟩ := map_eq_some_iff.1 later.symm
      exact ⟨old, oldFound, rfl, rfl, rfl⟩
    · exact ⟨new, later.symm, .refl new⟩
  case spared =>
    intro other different
    refine .of_get? fun runId => ?_
    rw [rows runId]
    split
    next same =>
      subst same
      right
      rw [found]
      rintro row (later | before)
      · obtain rfl := Option.some.inj later
        exact fun same => different (ofCase other same)
      · obtain rfl := Option.some.inj before
        exact fun same => different (ofCase other same)
    next => exact .inl rfl

theorem of_create {request : CreateTaskRun} {uuid : String} {view : TaskRun}
    (ok : createTaskRun tasks request uuid eventId now = .ok (view, next)) :
    TouchesRuns request.caseId request.contract.principal tasks next ∧
      ∃ run, next.runs.get? (resolveRunId request.runId uuid) = some run ∧
        run.caseId = request.caseId ∧ run.roleId = request.role.roleId := by
  obtain ⟨grown, runs, contractRow, contextVersionId, grows, stored, sameContract, -, absent,
    inserted, logs⟩ := createTaskRun_ok ok
  have rows : ∀ runId, next.runs.get? runId = if resolveRunId request.runId uuid = runId then
      some (newTaskRun request (resolveRunId request.runId uuid) contractRow.taskContractVersionId
        contextVersionId now) else tasks.runs.get? runId := by
    intro runId
    rw [logs.runs, ← grows.runs]
    exact get?_insert? inserted runId
  refine ⟨⟨?_, ?_, ?_, ?_⟩, _, (rows _).trans (if_pos rfl), rfl, rfl⟩
  · intro id row found
    rw [logs.contracts]
    exact grows.contracts id row found
  · intro runId run found
    refine ⟨run, (rows runId).trans ?_, .refl run⟩
    rw [if_neg, found]
    rintro rfl
    rw [absent] at found
    cases found
  · intro runId run found
    rw [rows runId] at found
    split at found
    next same =>
      subst same
      obtain rfl := Option.some.inj found
      refine .inr ⟨absent, rfl, ?_⟩
      unfold principalOf? contractRow?
      rw [logs.contracts]
      show Option.map _ (grown.contracts.get? contractRow.taskContractVersionId) = _
      rw [stored, map_some, sameContract]
    next => exact .inl ⟨run, found, .refl run⟩
  · intro other different
    have added : SameRows (fun run => run.caseId = some other) grown.runs runs :=
      .of_insert? inserted different
    rw [grows.runs] at added
    rw [logs.runs]
    exact added

end TouchesRuns

/-! ## Commands about a case -/

/-- **What a command of the principal about the case touches** of the tables of cases and
runs. -/
structure Touches (caseId : Option String) (principal : String) (store next : ProductStore) :
    Prop where
  cases : TouchesCase caseId store.cases next.cases
  runs : TouchesRuns caseId principal store.tasks next.tasks
  sessions : next.sessions = store.sessions

namespace Touches

variable {principal : String} {store middle next : ProductStore}

theorem refl (caseId : Option String) (principal : String) (store : ProductStore) :
    Touches caseId principal store store := ⟨.refl _ _, .refl _ _ _, rfl⟩

theorem trans (first : Touches caseId principal store middle)
    (second : Touches caseId principal middle next) : Touches caseId principal store next :=
  ⟨first.cases.trans second.cases, first.runs.trans second.runs,
    second.sessions.trans first.sessions⟩

/-- Only the tables of cases have been written. -/
theorem of_cases (touches : TouchesCase caseId store.cases cases) :
    Touches caseId principal store { store with cases } := ⟨touches, .refl _ _ _, rfl⟩

/-- None of the tables that are looked at has been written. -/
theorem of_same (cases : next.cases = store.cases) (tasks : next.tasks = store.tasks)
    (sessions : next.sessions = store.sessions) : Touches caseId principal store next := by
  refine ⟨?_, ?_, sessions⟩
  · rw [cases]
    exact .refl _ _
  · rw [tasks]
    exact .refl _ _ _

theorem of_register {request : RegisterRun} {drawn : Drawn}
    (ok : registerRun store request drawn = .ok next) :
    Touches request.run.caseId request.run.contract.principal store next ∧
      ∃ run, next.tasks.runs.get? request.runId = some run ∧ run.caseId = request.run.caseId ∧
        run.roleId = request.run.role.roleId := by
  unfold registerRun at ok
  obtain ⟨⟨view, tasks⟩, created, ok⟩ := bind_eq_ok.1 ok
  obtain ⟨⟨account, ledger⟩, -, ok⟩ := bind_eq_ok.1 ok
  obtain ⟨envelope, -, ok⟩ := bind_eq_ok.1 ok
  obtain ⟨⟨stored, executions⟩, -, ok⟩ := bind_eq_ok.1 ok
  cases ok
  have named : resolveRunId (some request.runId) "" = request.runId := by
    unfold resolveRunId
    dsimp only
    split
    next same => exact same.symm
    next => rfl
  obtain ⟨touches, run, found, ofCase, role⟩ := TouchesRuns.of_create created
  rw [named] at found
  exact ⟨⟨.refl _ _, touches, rfl⟩, run, found, ofCase, role⟩

theorem of_move {request : TransitionTaskRun} {eventId : String}
    (ok : moveRun store request eventId now = .ok next)
    (found : store.tasks.runs.get? request.runId = some run)
    (ofCase : ∀ other, run.caseId = some other → caseId = some other) :
    Touches caseId principal store next ∧
      ∃ later, next.tasks.runs.get? request.runId = some later ∧ SameDuty run later := by
  obtain ⟨view, moved, same⟩ := moveRun_ok ok
  have touches : TouchesRuns caseId principal store.tasks next.tasks :=
    .of_transition moved found ofCase
  obtain ⟨later, laterFound, duty⟩ := touches.stays request.runId run found
  refine ⟨⟨?_, touches, ?_⟩, later, laterFound, duty⟩
  · rw [same]
    exact .refl _ _
  · rw [same]

end Touches

variable {store next : ProductStore} {drawn : CommandDraw}

def HasController (tasks : TaskStore) (caseId : String) : Prop :=
  ∃ runId run, tasks.runs.get? runId = some run ∧ run.caseId = some caseId ∧
    isController run = true

theorem HasController.touched {caseId : String} {touched : Option String} {principal : String}
    {later : TaskStore} (has : HasController tasks caseId)
    (touches : TouchesRuns touched principal tasks later) : HasController later caseId := by
  obtain ⟨runId, run, found, ofCase, controls⟩ := has
  obtain ⟨after, afterFound, same⟩ := touches.stays runId run found
  refine ⟨runId, after, afterFound, same.caseId.trans ofCase, ?_⟩
  unfold isController at controls ⊢
  rw [same.role]
  exact controls

/-- **A launch** gives the case a controller of the principal. -/
theorem launch_touches {settings : LaunchSettings} {request : LaunchRequest}
    (ok : launch store settings reads request drawn = .ok next) :
    Touches (some request.caseId) request.principal store next ∧
      HasController next.tasks request.caseId := by
  unfold launch at ok
  obtain ⟨row, -, ok⟩ := fetch_bind_eq_ok.1 ok
  obtain ⟨⟨state, cases⟩, read, ok⟩ := bind_eq_ok.1 ok
  obtain ⟨-, ok⟩ := require_bind_eq_ok.1 ok
  obtain ⟨contract, admitted, ok⟩ := bind_eq_ok.1 ok
  obtain ⟨registered, registers, moved⟩ := bind_eq_ok.1 ok
  have principal : contract.principal = request.principal := admitContract_ok admitted
  obtain ⟨touches, run, found, ofCase, role⟩ := Touches.of_register registers
  obtain ⟨moves, later, laterFound, duty⟩ : Touches (some request.caseId) request.principal
      registered next ∧ _ := Touches.of_move moved found fun _ same => ofCase.symm.trans same
  have opens : Touches (some request.caseId) request.principal { store with cases } registered := by
    rw [← principal]
    exact touches
  refine ⟨(Touches.of_cases (.of_getState read)).trans (opens.trans moves), drawn.runId, later,
    laterFound, duty.caseId.trans ofCase, ?_⟩
  have named : later.roleId = "InvestigationRole" := duty.role.trans role
  exact decide_eq_true named

/-- **An investigation that is opened** is about a case that was not there. -/
theorem openInvestigation_touches {settings : LaunchSettings} {command : StartInvestigationCommand}
    (ok : openInvestigation store settings reads command drawn = .ok next) :
    Touches (some drawn.caseId) command.principal store next ∧
      store.cases.cases.get? drawn.caseId = none ∧ HasController next.tasks drawn.caseId ∧
      ∃ row, next.cases.cases.get? drawn.caseId = some row := by
  unfold openInvestigation at ok
  obtain ⟨objectIds, -, ok⟩ := bind_eq_ok.1 ok
  obtain ⟨⟨row, created⟩, creates, ok⟩ := bind_eq_ok.1 ok
  obtain ⟨⟨opened, cases⟩, opens, ok⟩ := bind_eq_ok.1 ok
  obtain ⟨launched, launches, ok⟩ := bind_eq_ok.1 ok
  obtain ⟨⟨view, activated⟩, activates, ok⟩ := bind_eq_ok.1 ok
  cases ok
  obtain ⟨touches, absent, stored, found⟩ := TouchesCase.of_create creates
  obtain ⟨launchTouches, controller⟩ := launch_touches launches
  have first : Touches (some drawn.caseId) command.principal store { store with cases } :=
    .of_cases (touches.trans (.of_openNeed opens))
  have last : Touches (some drawn.caseId) command.principal launched
      { launched with cases := activated } := .of_cases (.of_transition activates)
  obtain ⟨needed, neededFound⟩ := (TouchesCase.of_openNeed opens).stays _ stored found
  have rest := (launchTouches.trans last).cases
  exact ⟨first.trans (launchTouches.trans last), absent, controller,
    rest.stays drawn.caseId needed neededFound⟩

/-- **A follow-up** is about the case it names, whoever asks for it. -/
theorem continueInvestigation_touches {settings : LaunchSettings}
    {command : ContinueInvestigationCommand}
    (ok : continueInvestigation store settings reads command drawn = .ok next) :
    Touches (some command.caseId) command.principal store next := by
  unfold continueInvestigation at ok
  obtain ⟨row, -, ok⟩ := fetch_bind_eq_ok.1 ok
  simp only [require_bind_eq_ok] at ok
  obtain ⟨-, -, ok⟩ := ok
  obtain ⟨⟨state, read⟩, reading, ok⟩ := bind_eq_ok.1 ok
  obtain ⟨⟨opened, cases⟩, opens, ok⟩ := bind_eq_ok.1 ok
  obtain ⟨launched, launches, ok⟩ := bind_eq_ok.1 ok
  obtain ⟨⟨view, activated⟩, activates, ok⟩ := bind_eq_ok.1 ok
  cases ok
  have first : Touches (some command.caseId) command.principal store { store with cases } :=
    .of_cases ((TouchesCase.of_getState reading).trans (.of_openNeed opens))
  have last : Touches (some command.caseId) command.principal launched
      { launched with cases := activated } := .of_cases (.of_transition activates)
  exact first.trans ((launch_touches launches).1.trans last)

/-- The runs that a cancellation moves are runs of its case. -/
theorem cancelRuns_touches {settings : ProductSettings} {principal : String}
    {runs : List TaskRunModel} {index : ℕ} {store : ProductStore}
    (known : ∀ run ∈ runs, ∃ row, store.tasks.runs.get? run.runId = some row ∧
      row.caseId = some command.caseId)
    (ok : cancelRuns store settings command drawn index runs = .ok next) :
    Touches (some command.caseId) principal store next := by
  induction runs generalizing store index with
  | nil =>
      cases ok
      exact .refl _ _ _
  | cons run rest ih =>
      unfold cancelRuns at ok
      obtain ⟨moved, moves, ok⟩ := bind_eq_ok.1 ok
      obtain ⟨row, found, ofCase⟩ := known run mem_cons_self
      have touches : Touches (some command.caseId) principal store moved :=
        (Touches.of_move moves found fun _ same => ofCase.symm.trans same).1
      refine touches.trans (ih ?_ ok)
      intro other member
      obtain ⟨before, beforeFound, ofCase⟩ := known other (mem_cons_of_mem _ member)
      obtain ⟨later, laterFound, duty⟩ := touches.runs.stays _ _ beforeFound
      exact ⟨later, laterFound, duty.caseId.trans ofCase⟩

theorem mem_runsOfCase {caseId : String} :
    run ∈ runsOfCase tasks caseId ↔ run ∈ tasks.runs.rows ∧ run.caseId = some caseId := by
  unfold runsOfCase
  rw [mem_select, decide_eq_true_eq]

theorem cancelLiveRuns_touches {settings : ProductSettings} (principal : String)
    (ok : cancelLiveRuns store settings command drawn = .ok next) :
    Touches (some command.caseId) principal store next := by
  unfold cancelLiveRuns at ok
  obtain ⟨-, -, ok⟩ := bind_eq_ok.1 ok
  obtain ⟨moved, moves, ok⟩ := bind_eq_ok.1 ok
  obtain ⟨⟨view, cases⟩, cancels, ok⟩ := bind_eq_ok.1 ok
  cases ok
  have touches : Touches (some command.caseId) principal store moved := by
    refine cancelRuns_touches (fun run member => ?_) moves
    have live := (mem_insertionSort _).1 member
    obtain ⟨stored, ofCase⟩ := mem_runsOfCase.1 (mem_filter.1 live).1
    exact ⟨run, get?_of_mem stored, ofCase⟩
  exact touches.trans (.of_cases (.of_transition cancels))

/-! ## Questions -/

/-- **At most one turn is appended**, in a session of the principal, and if it names a
case, it names the given one. -/
structure AppendsTurn (caseId : Option String) (principal : String)
    (sessions next : SessionStore) : Prop where
  stays : ∀ sessionId session, sessions.sessions.get? sessionId = some session →
    ∃ later, next.sessions.get? sessionId = some later ∧ later.principal = session.principal
  turns : next.turns.rows = sessions.turns.rows ∨
    ∃ turn session, next.turns.rows = sessions.turns.rows ++ [turn] ∧
      next.sessions.get? turn.sessionId = some session ∧ session.principal = principal ∧
      ∀ reference ∈ turn.investigationRef, ∃ named, caseId = some named ∧
        reference = "case:" ++ named

theorem AppendsTurn.refl (caseId : Option String) (principal : String) (sessions : SessionStore) :
    AppendsTurn caseId principal sessions sessions :=
  ⟨fun _ session found => ⟨session, found, rfl⟩, .inl rfl⟩

theorem openSession_ok {opened : SessionStore} {principal : String}
    (ok : sessions.openSession sessionId principal now = .ok opened) :
    opened.turns = sessions.turns ∧
      (∃ session, opened.sessions.get? sessionId = some session ∧
        session.principal = principal) ∧
      ∀ other session, sessions.sessions.get? other = some session →
        opened.sessions.get? other = some session := by
  unfold SessionStore.openSession at ok
  cases present : sessions.sessions.get? sessionId with
  | some model =>
      rw [present] at ok
      obtain ⟨mine, ok⟩ := require_bind_eq_ok.1 ok
      cases ok
      exact ⟨rfl, ⟨model, present, mine⟩, fun _ _ found => found⟩
  | none =>
      rw [present] at ok
      obtain ⟨table, inserted, ok⟩ := fetch_bind_eq_ok.1 ok
      cases ok
      have rows := get?_insert? inserted
      refine ⟨rfl, ⟨_, (rows sessionId).trans (if_pos rfl), rfl⟩, fun other session found => ?_⟩
      refine (rows other).trans ?_
      rw [if_neg, found]
      rintro rfl
      rw [present] at found
      cases found

theorem appendTurn_ok {next : SessionStore} {request : AppendTurn} {turnId : String}
    {turn : QuestionSessionTurnModel}
    (named : ∀ reference ∈ request.investigationRef, ∃ named, caseId = some named ∧
      reference = "case:" ++ named)
    (ok : sessions.appendTurn request turnId now = .ok (turn, next)) :
    AppendsTurn caseId request.principal sessions next := by
  unfold SessionStore.appendTurn at ok
  obtain ⟨-, ok⟩ := require_bind_eq_ok.1 ok
  obtain ⟨opened, opens, ok⟩ := bind_eq_ok.1 ok
  obtain ⟨sameTurns, ⟨session, found, mine⟩, stays⟩ := openSession_ok opens
  cases present : opened.turnOfRequest? request.sessionId request.requestId with
  | some existing =>
      rw [present] at ok
      cases ok
      refine ⟨fun other before beforeFound => ⟨before, stays other before beforeFound, rfl⟩,
        .inl ?_⟩
      rw [sameTurns]
  | none =>
      rw [present] at ok
      obtain ⟨turns, inserted, ok⟩ := fetch_bind_eq_ok.1 ok
      cases ok
      have rows := get?_update opened.sessions request.sessionId (SessionStore.touched now)
        (SessionStore.touched_sessionId now)
      constructor
      · intro other before beforeFound
        have later := rows other
        rw [stays other before beforeFound] at later
        split at later
        · exact ⟨_, later, rfl⟩
        · exact ⟨before, later, rfl⟩
      · right
        have later := rows request.sessionId
        rw [if_pos rfl, found] at later
        rw [← sameTurns]
        exact ⟨_, _, (insert?_eq_some inserted).1, later, mine, named⟩

/-- **What a transaction of a question leaves.** -/
structure Asks (caseId : Option String) (principal : String) (store next : ProductStore) :
    Prop where
  cases : TouchesCase caseId store.cases next.cases
  runs : TouchesRuns caseId principal store.tasks next.tasks
  sessions : AppendsTurn caseId principal store.sessions next.sessions

theorem Asks.of_touches {principal : String} (touches : Touches caseId principal store next) :
    Asks caseId principal store next := by
  refine ⟨touches.cases, touches.runs, ?_⟩
  rw [touches.sessions]
  exact .refl _ _ _

variable {middle : ProductStore}

/-- What is touched before the turn is appended. -/
theorem Touches.asks {principal : String}
    (touches : Touches caseId principal store middle) (asks : Asks caseId principal middle next) :
    Asks caseId principal store next := by
  refine ⟨touches.cases.trans asks.cases, touches.runs.trans asks.runs, ?_⟩
  rw [← touches.sessions]
  exact asks.sessions

theorem getInvestigation_ok {caseId principal : String}
    (ok : getInvestigation store caseId principal = .ok view) : view.caseId = caseId := by
  unfold getInvestigation at ok
  obtain ⟨row, -, ok⟩ := fetch_bind_eq_ok.1 ok
  obtain ⟨-, -, ok⟩ := bind_eq_ok.1 ok
  cases ok
  rfl

theorem recordAccepted_asks {asked : RoutedQuestion} {revision : Option ℕ}
    {contextId : Option String}
    (ok : recordAccepted store settings asked record sessionId view revision contextId drawn =
      .ok (result, next)) :
    Asks (some view.caseId) asked.command.principal store next := by
  unfold recordAccepted at ok
  obtain ⟨⟨turn, sessions⟩, appended, ok⟩ := bind_eq_ok.1 ok
  cases ok
  refine ⟨.refl _ _, .refl _ _ _, appendTurn_ok ?_ appended⟩
  intro reference member
  exact ⟨view.caseId, rfl, (Option.mem_some.1 member).symm⟩

/-- **A follow-up of a question** is about the case it is given. -/
theorem acceptFollowup_asks {asked : RoutedQuestion} {caseId : String}
    (ok : acceptFollowup store settings reads asked record sessionId caseId drawn =
      .ok (result, next)) :
    Asks (some caseId) asked.command.principal store next := by
  unfold acceptFollowup continueFromQuestion at ok
  obtain ⟨⟨view, continued⟩, continues, ok⟩ := bind_eq_ok.1 ok
  obtain ⟨-, -, continues⟩ := bind_eq_ok.1 continues
  obtain ⟨after, touches, continues⟩ := bind_eq_ok.1 continues
  obtain ⟨viewed, seen, continues⟩ := bind_eq_ok.1 continues
  cases continues
  have asks := recordAccepted_asks ok
  rw [getInvestigation_ok seen] at asks
  exact (continueInvestigation_touches touches).asks asks

/-- The case that a question starts: it was not there, and it has a controller. -/
structure StartsCase (caseId : String) (store next : ProductStore) : Prop where
  absent : store.cases.cases.get? caseId = none
  controller : HasController next.tasks caseId
  present : ∃ row, next.cases.cases.get? caseId = some row

theorem StartsCase.asked {caseId principal : String}
    (starts : StartsCase caseId store middle)
    (asks : Asks (some caseId) principal middle next) : StartsCase caseId store next := by
  obtain ⟨row, found⟩ := starts.present
  exact ⟨starts.absent, starts.controller.touched asks.runs, asks.cases.stays caseId row found⟩

theorem startFromQuestion_ok {settings : LaunchSettings} {asked : RoutedQuestion}
    {escalation : Escalation}
    (ok : startFromQuestion store settings reads asked escalation drawn = .ok (view, next)) :
    view.caseId = drawn.caseId ∧
      Touches (some drawn.caseId) asked.command.principal store next ∧
      StartsCase drawn.caseId store next := by
  unfold startFromQuestion at ok
  obtain ⟨-, -, ok⟩ := bind_eq_ok.1 ok
  obtain ⟨opened, opens, ok⟩ := bind_eq_ok.1 ok
  obtain ⟨viewed, seen, ok⟩ := bind_eq_ok.1 ok
  cases ok
  obtain ⟨touches, absent, controller, present⟩ := openInvestigation_touches opens
  exact ⟨getInvestigation_ok seen, touches, absent, controller, present⟩

theorem acceptNew_asks {asked : RoutedQuestion}
    (ok : acceptNew store settings reads asked record sessionId drawn =
      .ok (result, next)) :
    Asks (some drawn.caseId) asked.command.principal store next ∧
      StartsCase drawn.caseId store next := by
  unfold acceptNew at ok
  obtain ⟨⟨view, opened⟩, opens, ok⟩ := bind_eq_ok.1 ok
  obtain ⟨named, touches, starts⟩ := startFromQuestion_ok opens
  have asks := recordAccepted_asks ok
  rw [named] at asks
  exact ⟨touches.asks asks, starts.asked asks⟩

/-! ## The first transaction of a question -/

/-- The run that a question waits with: it bears the case of the context. -/
def RunOfQuestion (tasks : TaskStore) (pending : PendingQuestion) : Prop :=
  ∃ run, tasks.runs.get? pending.runId = some run ∧ run.caseId = pending.context.caseRef

/-- **How a question opens** about a case, or about none. -/
structure Opens (caseId : Option String) (principal : String) (store next : ProductStore)
    (opened : OpenedQuestion) : Prop where
  asks : Asks caseId principal store next
  pending : ∀ pending, opened = .asking pending → pending.asked.command.principal = principal ∧
    pending.context.caseRef = caseId ∧ RunOfQuestion next.tasks pending

theorem Touches.opens {principal : String}
    (touches : Touches caseId principal store middle)
    (opens : Opens caseId principal middle next opened) :
    Opens caseId principal store next opened :=
  ⟨touches.asks opens.asks, opens.pending⟩

theorem Opens.of_accepted {principal : String} (asks : Asks caseId principal store next) :
    Opens caseId principal store next (.accepted result) := by
  refine ⟨asks, fun pending same => ?_⟩
  cases same

/-- The synchronous run bears the case that the question reads. -/
theorem openAsking_opens {asked : RoutedQuestion} {context : QuestionContext} {methodology : Bool}
    (ok : openAsking store settings asked record session context methodology drawn =
      .ok (opened, next)) :
    Opens context.caseRef asked.command.principal store next opened := by
  unfold openAsking openSyncRuntime startRun at ok
  obtain ⟨started, starts, ok⟩ := bind_eq_ok.1 ok
  cases ok
  obtain ⟨contract, admitted, starts⟩ := bind_eq_ok.1 starts
  obtain ⟨registered, registers, starts⟩ := bind_eq_ok.1 starts
  obtain ⟨queued, queues, starts⟩ := bind_eq_ok.1 starts
  obtain ⟨running, runs, starts⟩ := bind_eq_ok.1 starts
  obtain ⟨executions, -, starts⟩ := bind_eq_ok.1 starts
  cases starts
  have principal : contract.principal = asked.command.principal := admitContract_ok admitted
  obtain ⟨touches, run, found, ofCase, -⟩ := Touches.of_register registers
  obtain ⟨first, later, laterFound, duty⟩ : Touches context.caseRef asked.command.principal
      registered queued ∧ _ := Touches.of_move queues found fun _ same => ofCase.symm.trans same
  obtain ⟨second, last, lastFound, more⟩ : Touches context.caseRef asked.command.principal
      queued running ∧ _ :=
    Touches.of_move runs laterFound fun _ same => (duty.caseId.trans ofCase).symm.trans same
  have opens : Touches context.caseRef asked.command.principal store registered := by
    rw [← principal]
    exact touches
  have all := opens.trans (first.trans second)
  refine ⟨.of_touches ⟨all.cases, all.runs, all.sessions⟩, fun pending same => ?_⟩
  cases same
  exact ⟨rfl, rfl, last, lastFound, (duty.trans more).caseId.trans ofCase⟩

/-- A question about a case is followed up, or goes on with the state of the case. -/
theorem openCaseRead_opens {reads : QuestionReads} {asked : RoutedQuestion} {caseId : String}
    {revision : ℕ}
    {rest : InvestigationState → ProductStore → Except Raised (OpenedQuestion × ProductStore)}
    (goesOn : ∀ state middle, rest state middle = .ok (opened, next) →
      Opens (some caseId) asked.command.principal middle next opened)
    (ok : openCaseRead store settings reads asked record session caseId revision drawn rest =
      .ok (opened, next)) :
    Opens (some caseId) asked.command.principal store next opened := by
  unfold openCaseRead at ok
  obtain ⟨⟨state, cases⟩, read, ok⟩ := bind_eq_ok.1 ok
  have reading : Touches (some caseId) asked.command.principal store { store with cases } :=
    .of_cases (.of_getState read)
  dsimp only at ok
  split at ok
  · obtain ⟨⟨result, last⟩, accepted, ok⟩ := bind_eq_ok.1 ok
    cases ok
    exact reading.opens (.of_accepted (acceptFollowup_asks accepted))
  · exact reading.opens (goesOn state _ ok)

/-- Binding a target changes neither the principal nor the kind. -/
theorem bindSessionTarget_ok {asked bound : RoutedQuestion}
    (ok : bindSessionTarget asked session = .ok bound) :
    bound.command.principal = asked.command.principal := by
  unfold bindSessionTarget at ok
  split at ok
  · cases ok
    rfl
  · split at ok
    · cases ok
      rfl
    · split at ok
      · cases ok
        rfl
      · obtain ⟨-, ok⟩ := require_bind_eq_ok.1 ok
        cases ok
        rfl

theorem openBound_opens {reads : QuestionReads} {asked : RoutedQuestion} {caseRead : Option String}
    (ok : openBound store settings reads asked record session active caseRead drawn =
      .ok (opened, next)) :
    Opens caseRead asked.command.principal store next opened := by
  unfold openBound at ok
  obtain ⟨bound, binds, ok⟩ := bind_eq_ok.1 ok
  obtain ⟨-, ok⟩ := require_bind_eq_ok.1 ok
  rw [← bindSessionTarget_ok binds]
  cases caseRead with
  | none =>
      obtain ⟨found, -, ok⟩ := bind_eq_ok.1 ok
      exact openAsking_opens ok
  | some caseId =>
      refine openCaseRead_opens (fun state middle called => ?_) ok
      obtain ⟨found, -, called⟩ := bind_eq_ok.1 called
      exact openAsking_opens called

/-- **A question of a direct kind** is about the active case of its session, or about none. -/
theorem openDirect_opens {reads : QuestionReads} {asked : RoutedQuestion}
    (ok : openDirect store settings reads asked record session active drawn =
      .ok (opened, next)) :
    ∃ caseId, (∀ named ∈ caseId, active = some named) ∧
      Opens caseId asked.command.principal store next opened := by
  unfold openDirect at ok
  have plain : ∀ named ∈ (none : Option String), active = some named := by simp
  split at ok
  · split at ok
    next caseId =>
      refine ⟨some caseId, fun named same => same, ?_⟩
      split at ok
      · exact openCaseRead_opens (fun state middle called => openBound_opens called) ok
      · exact openBound_opens ok
    next => exact ⟨none, plain, openBound_opens ok⟩
  · exact ⟨none, plain, openBound_opens ok⟩

theorem releaseMentioned_ok {reads : QuestionReads} {asked released : RoutedQuestion}
    {caseId : String} (principal : String)
    (ok : releaseMentioned store reads asked caseId now = .ok (released, next)) :
    released.command.principal = asked.command.principal ∧
      Touches (some caseId) principal store next := by
  unfold releaseMentioned at ok
  split at ok
  · cases ok
    exact ⟨rfl, .refl _ _ _⟩
  · split at ok
    · cases ok
      exact ⟨rfl, .refl _ _ _⟩
    · obtain ⟨⟨state, cases⟩, read, ok⟩ := bind_eq_ok.1 ok
      cases ok
      refine ⟨?_, .of_cases (.of_getState read)⟩
      split <;> rfl

/-- Where the case of a question comes from: there is none, it is the active case of the
session, or the question has started it. -/
def CaseOfQuestion (active caseId : Option String) (store next : ProductStore) : Prop :=
  ∀ named ∈ caseId, active = some named ∨ StartsCase named store next

theorem openInvestigating_opens {reads : QuestionReads} {asked : RoutedQuestion}
    (ok : openInvestigating store settings reads asked record session active drawn =
      .ok (opened, next)) :
    ∃ caseId, CaseOfQuestion active caseId store next ∧
      Opens caseId asked.command.principal store next opened := by
  unfold openInvestigating at ok
  cases active with
  | some caseId =>
      obtain ⟨⟨released, read⟩, releases, ok⟩ := bind_eq_ok.1 ok
      obtain ⟨-, ok⟩ := require_bind_eq_ok.1 ok
      obtain ⟨⟨result, last⟩, accepted, ok⟩ := bind_eq_ok.1 ok
      cases ok
      obtain ⟨same, touches⟩ := releaseMentioned_ok asked.command.principal releases
      have asks := acceptFollowup_asks accepted
      rw [same] at asks
      exact ⟨some caseId, fun named member => .inl member, touches.opens (.of_accepted asks)⟩
  | none =>
      obtain ⟨bound, binds, ok⟩ := bind_eq_ok.1 ok
      obtain ⟨⟨result, last⟩, accepted, ok⟩ := bind_eq_ok.1 ok
      cases ok
      obtain ⟨asks, starts⟩ := acceptNew_asks accepted
      rw [bindSessionTarget_ok binds] at asks
      refine ⟨some drawn.caseId, fun named member => .inr ?_, .of_accepted asks⟩
      obtain rfl := Option.some.inj member
      exact starts

/-- The case is named by a turn in a session of the principal. -/
def NamedFor (sessions : SessionStore) (principal caseId : String) : Prop :=
  ∃ turn ∈ sessions.turns.rows, turn.investigationRef = some ("case:" ++ caseId) ∧
    ∃ session, sessions.sessions.get? turn.sessionId = some session ∧
      session.principal = principal

theorem latestInvestigationTurn_ok {sessionId : Option String} {principal : String}
    {latest : Option QuestionSessionTurnModel}
    (ok : sessions.latestInvestigationTurn sessionId principal = .ok latest) :
    ∀ turn ∈ latest, turn ∈ sessions.turns.rows ∧
      ∃ session, sessions.sessions.get? turn.sessionId = some session ∧
        session.principal = principal := by
  unfold SessionStore.latestInvestigationTurn at ok
  cases sessionId with
  | none =>
      cases ok
      simp
  | some sessionId =>
      obtain ⟨model, found, ok⟩ := fetch_bind_eq_ok.1 ok
      obtain ⟨mine, ok⟩ := require_bind_eq_ok.1 ok
      cases ok
      intro turn member
      have ordered := mem_of_find?_eq_some member
      have inSession := mem_select.1 ((mem_insertionSort _).1 ordered)
      have named : turn.sessionId = sessionId := of_decide_eq_true inSession.2
      rw [named]
      exact ⟨inSession.1, model, found, mine⟩

/-- The active case of a question is named in a session of its principal. -/
theorem activeSessionCase_ok {reference : Option String}
    (ok : activeSessionCase cases reference = .ok active) :
    ∀ caseId ∈ active, reference = some ("case:" ++ caseId) := by
  unfold activeSessionCase at ok
  cases reference with
  | none =>
      cases ok
      simp
  | some reference =>
      obtain ⟨caseId, named, ok⟩ := fetch_bind_eq_ok.1 ok
      obtain ⟨row, -, ok⟩ := fetch_bind_eq_ok.1 ok
      cases ok
      intro other member
      split at member
      · obtain rfl := Option.some.inj member
        rw [Text.afterHead?_eq_some named]
      · cases member

/-- **The first transaction of a question** is about a case that a session of its principal
names, about a case that it starts, or about none. -/
theorem openClaimed_opens {reads : QuestionReads} {command : AskQuestionCommand}
    (ok : openClaimed store settings reads command record drawn = .ok (opened, next)) :
    ∃ caseId, (∀ named ∈ caseId, NamedFor store.sessions command.principal named ∨
        StartsCase named store next) ∧
      Opens caseId command.principal store next opened := by
  unfold openClaimed at ok
  obtain ⟨session, -, ok⟩ := bind_eq_ok.1 ok
  obtain ⟨latest, latestFound, ok⟩ := bind_eq_ok.1 ok
  obtain ⟨active, activeFound, ok⟩ := bind_eq_ok.1 ok
  have ofSession : ∀ named ∈ active, NamedFor store.sessions command.principal named := by
    intro named member
    obtain ⟨turn, found, reference⟩ :=
      bind_eq_some_iff.1 (activeSessionCase_ok activeFound named member)
    obtain ⟨stored, mine⟩ := latestInvestigationTurn_ok latestFound turn found
    exact ⟨turn, stored, reference, mine⟩
  have routed : (routeQuestion reads command session).command.principal = command.principal := by
    unfold routeQuestion
    dsimp only
    split <;> rfl
  rw [← routed] at ofSession ⊢
  split at ok
  · obtain ⟨caseId, isActive, opens⟩ := openDirect_opens ok
    exact ⟨caseId, fun named member => .inl (ofSession named (isActive named member)), opens⟩
  · obtain ⟨caseId, origin, opens⟩ := openInvestigating_opens ok
    refine ⟨caseId, fun named member => ?_, opens⟩
    rcases origin named member with isActive | starts
    · exact .inl (ofSession named isActive)
    · exact .inr starts

/-! ## The second transaction of a question -/

/-- The end of a run touches the case that the run bears, if it bears one. -/
theorem endQuestion_touches {runId : String} {ending : EndQuestion} {position : ℕ}
    (principal : String) (found : store.tasks.runs.get? runId = some run)
    (ofCase : ∀ other, run.caseId = some other → caseId = some other)
    (ok : endQuestion store settings runId ending position drawn = .ok next) :
    Touches caseId principal store next := by
  unfold endQuestion at ok
  obtain ⟨executions, -, moved⟩ := bind_eq_ok.1 ok
  have finished : Touches caseId principal store { store with executions } :=
    .of_same rfl rfl rfl
  exact finished.trans (Touches.of_move moved found ofCase).1

theorem completeQuestion_asks {decision : DecisionResult}
    (running : RunOfQuestion store.tasks pending)
    (ok : completeQuestion store settings pending decision drawn = .ok (result, next)) :
    Asks pending.context.caseRef pending.asked.command.principal store next := by
  unfold completeQuestion at ok
  obtain ⟨⟨row, decisions⟩, -, ok⟩ := bind_eq_ok.1 ok
  obtain ⟨ended, ends, ok⟩ := bind_eq_ok.1 ok
  obtain ⟨⟨turn, sessions⟩, appended, ok⟩ := bind_eq_ok.1 ok
  cases ok
  obtain ⟨run, found, ofCase⟩ := running
  have stored : Touches pending.context.caseRef pending.asked.command.principal store
      { store with decisions } := .of_same rfl rfl rfl
  have touches := stored.trans (endQuestion_touches pending.asked.command.principal found
    (fun _ same => ofCase.symm.trans same) ends)
  refine touches.asks ⟨.refl _ _, .refl _ _ _, appendTurn_ok ?_ appended⟩
  intro reference member
  cases member

theorem failQuestion_asks {raised : Raised} (running : RunOfQuestion store.tasks pending)
    (ok : failQuestion store settings pending raised drawn = .ok next) :
    Asks pending.context.caseRef pending.asked.command.principal store next := by
  unfold failQuestion at ok
  obtain ⟨ended, ends, ok⟩ := bind_eq_ok.1 ok
  cases ok
  obtain ⟨run, found, ofCase⟩ := running
  have touches := endQuestion_touches pending.asked.command.principal found
    (fun _ same => ofCase.symm.trans same) ends
  exact .of_touches (touches.trans (.of_same rfl rfl rfl))

/-- **An escalation** is about the case of the question, or about one that it starts. -/
theorem escalate_ok
    (ok : escalate store settings reads pending request drawn = .ok (view, next)) :
    Touches (some view.caseId) pending.asked.command.principal store next ∧
      (pending.context.caseRef = some view.caseId ∨
        pending.context.caseRef = none ∧ StartsCase view.caseId store next) := by
  unfold escalate at ok
  split at ok
  next caseId same =>
    unfold continueFromQuestion at ok
    obtain ⟨-, -, ok⟩ := bind_eq_ok.1 ok
    obtain ⟨continued, continues, ok⟩ := bind_eq_ok.1 ok
    obtain ⟨viewed, seen, ok⟩ := bind_eq_ok.1 ok
    cases ok
    rw [getInvestigation_ok seen]
    exact ⟨continueInvestigation_touches continues, .inl same⟩
  next absent =>
    obtain ⟨named, touches, starts⟩ := startFromQuestion_ok ok
    rw [named]
    exact ⟨touches, .inr ⟨absent, starts⟩⟩

theorem escalateQuestion_asks (running : RunOfQuestion store.tasks pending)
    (ok : escalateQuestion store settings reads pending request drawn = .ok (result, next)) :
    ∃ caseId, (pending.context.caseRef = some caseId ∨ StartsCase caseId store next) ∧
      Asks (some caseId) pending.asked.command.principal store next := by
  unfold escalateQuestion at ok
  obtain ⟨⟨view, escalated⟩, escalates, ok⟩ := bind_eq_ok.1 ok
  obtain ⟨ended, ends, ok⟩ := bind_eq_ok.1 ok
  obtain ⟨touches, origin⟩ := escalate_ok escalates
  obtain ⟨run, found, ofCase⟩ := running
  obtain ⟨later, laterFound, duty⟩ := touches.runs.stays _ _ found
  have ending : Touches (some view.caseId) pending.asked.command.principal escalated ended := by
    refine endQuestion_touches _ laterFound (fun other same => ?_) ends
    have named : pending.context.caseRef = some other :=
      (duty.caseId.trans ofCase).symm.trans same
    rcases origin with reads | ⟨absent, -⟩
    · exact reads.symm.trans named
    · rw [absent] at named
      cases named
  have records := recordAccepted_asks ok
  refine ⟨view.caseId, ?_, touches.asks (ending.asks records)⟩
  rcases origin with reads | ⟨-, starts⟩
  · exact .inl reads
  · exact .inr (starts.asked (ending.asks records))

/-- **The second transaction of a question** is about the case of its context, or about one
that it starts. -/
theorem settleQuestion_asks {planned : Except Raised Proposal} {answer : QuestionAnswer}
    (running : RunOfQuestion store.tasks pending)
    (ok : settleQuestion store settings reads pending planned drawn = .ok (answer, next)) :
    ∃ caseId, (∀ named ∈ caseId, pending.context.caseRef = some named ∨
        StartsCase named store next) ∧
      Asks caseId pending.asked.command.principal store next := by
  have ofContext : ∀ named ∈ pending.context.caseRef, pending.context.caseRef = some named ∨
      StartsCase named store next := fun named member => .inl member
  unfold settleQuestion at ok
  split at ok
  · cases ok
  · obtain ⟨failed, fails, ok⟩ := bind_eq_ok.1 ok
    cases ok
    exact ⟨_, ofContext, failQuestion_asks running fails⟩
  · obtain ⟨⟨result, last⟩, completes, ok⟩ := bind_eq_ok.1 ok
    cases ok
    exact ⟨_, ofContext, completeQuestion_asks running completes⟩
  · split at ok
    · obtain ⟨blocked, blocks, ok⟩ := bind_eq_ok.1 ok
      cases ok
      obtain ⟨run, found, ofCase⟩ := running
      exact ⟨_, ofContext, .of_touches (endQuestion_touches _ found
        (fun _ same => ofCase.symm.trans same) blocks)⟩
    · obtain ⟨⟨result, last⟩, escalates, ok⟩ := bind_eq_ok.1 ok
      cases ok
      obtain ⟨caseId, origin, asks⟩ := escalateQuestion_asks running escalates
      refine ⟨some caseId, fun named member => ?_, asks⟩
      obtain rfl := Option.some.inj member
      exact origin

end SecFusion.Application
