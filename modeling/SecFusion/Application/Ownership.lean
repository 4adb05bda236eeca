import SecFusion.Application.Footprints

/-!
# The owner of a case is stable

The product as a system: commands of any principals, each transaction of which is one
step, with the moves of runs and cases between them (`ProductOp`).

A follow-up compares no principals, so nothing in it keeps a principal away from the case
of another.  What does is a chain: a question reads a case off a turn of a session, the
session is the principal's own, and a turn names only cases whose runs all bear the
principal of its session.  `Ownership` is this chain, with the questions that wait for
the planner; `Acts.ownership` is the step, and `case_ownership_is_stable` what follows for
every run.
-/

namespace SecFusion.Application

open Foundations Intelligence Execution TaskRuntime Investigation Reasoning

/-! ## The system -/

/-- What is stored, and the questions that wait for the planner. -/
structure ProductState where
  store : ProductStore
  asking : List PendingQuestion

def ProductState.initial : ProductState := ⟨.empty, []⟩

def ProductState.pendingAt? (state : ProductState) (position : ℕ) : Option PendingQuestion :=
  state.asking[position]?

/-- One transaction of a command, with what it reads and draws, or what happens to a run
or a case between the commands. -/
inductive ProductOp where
  | start (command : StartInvestigationCommand) (digest : String) (reads : KnowledgeReads)
      (drawn : CommandDraw)
  | ask (command : AskQuestionCommand) (digest : String) (reads : QuestionReads)
      (drawn : CommandDraw)
  | settle (position : ℕ) (planned : Except Raised Proposal) (reads : KnowledgeReads)
      (drawn : CommandDraw)
  | cancel (command : CancelInvestigationCommand) (digest : String) (drawn : CommandDraw)
  | moveRun (request : TransitionTaskRun) (eventId : String) (now : ℤ)
  | waitCase (caseId : String)

/-- The questions that wait after a first transaction. -/
def OpenedQuestion.waiting (asking : List PendingQuestion) : OpenedQuestion → List PendingQuestion
  | .asking pending => asking ++ [pending]
  | .replayed _ | .accepted _ => asking

def productService (settings : QuestionSettings) (op : ProductOp) (state : ProductState) :
    Except Raised (Unit × ProductState) :=
  match op with
  | .start command digest reads drawn => do
      command.validate
      let (_, store) ← startInvestigation state.store settings.toLaunchSettings reads command
        digest drawn
      return ((), { state with store })
  | .ask command digest reads drawn => do
      let (opened, store) ← openQuestion state.store settings reads command digest drawn
      return ((), { store, asking := opened.waiting state.asking })
  | .settle position planned reads drawn => do
      let pending ← fetch (state.pendingAt? position) (.lookupError "no question waits")
      let (_, store) ← settleQuestion state.store settings reads pending planned drawn
      return ((), { store, asking := state.asking.eraseIdx position })
  | .cancel command digest drawn => do
      let (_, store) ← cancelInvestigation state.store settings.toProductSettings command digest
        drawn
      return ((), { state with store })
  | .moveRun request eventId now => do
      let store ← moveRun state.store request eventId now
      return ((), { state with store })
  | .waitCase caseId => do
      let (_, cases) ← waitCase state.store.cases caseId
      return ((), { state with store := { state.store with cases } })

/-- The state after some transactions. -/
def productStateAfter (settings : QuestionSettings) (ops : List ProductOp) : ProductState :=
  run (productService settings) ProductState.initial ops

/-- The principal whose command a transaction belongs to. -/
def actor? (state : ProductState) : ProductOp → Option String
  | .start command _ _ _ => some command.principal
  | .ask command _ _ _ => some command.principal
  | .settle position _ _ _ => (state.pendingAt? position).map (·.asked.command.principal)
  | .cancel command _ _ => some command.principal
  | .moveRun _ _ _ | .waitCase _ => none

/-! ## Owning a case -/

/-- **The case is the principal's**: it has a controller, and every run of it bears the
principal. -/
structure OwnedBy (tasks : TaskStore) (caseId principal : String) : Prop where
  controller : HasController tasks caseId
  runs : ∀ runId run, tasks.runs.get? runId = some run → run.caseId = some caseId →
    principalOf? tasks run = some principal

variable {principal caseId owner digest answer : String} {reads : KnowledgeReads} {op : ProductOp}
  {row : InvestigationCaseModel}

section Owning

variable {tasks next : TaskStore}

theorem OwnedBy.unique {first second : String} (left : OwnedBy tasks caseId first)
    (right : OwnedBy tasks caseId second) : first = second := by
  obtain ⟨runId, run, found, ofCase, -⟩ := left.controller
  exact Option.some.inj ((left.runs runId run found ofCase).symm.trans
    (right.runs runId run found ofCase))

/-- **The owner that the queries read** is the principal of the runs. -/
theorem OwnedBy.investigationOwner (owned : OwnedBy tasks caseId owner) :
    investigationOwner tasks caseId = some owner := by
  obtain ⟨runId, run, found, ofCase, -⟩ := owned.controller
  have bears : ∀ run ∈ runsOfCase tasks caseId, principalOf? tasks run = some owner := by
    intro run member
    obtain ⟨stored, ofCase⟩ := mem_runsOfCase.1 member
    exact owned.runs run.runId run (get?_of_mem stored) ofCase
  unfold Application.investigationOwner
  generalize ordered : ((runsOfCase tasks caseId).filter fun run =>
    (principalOf? tasks run).isSome).insertionSort OwnsBefore = runs
  have members : ∀ run, run ∈ runs ↔ run ∈ runsOfCase tasks caseId ∧
      (principalOf? tasks run).isSome := by
    intro run
    rw [← ordered, mem_insertionSort, mem_filter]
  cases runs with
  | nil =>
      have inCase := mem_runsOfCase.2 ⟨mem_of_get? found, ofCase⟩
      have listed := (members run).2 ⟨inCase, by rw [bears run inCase]; rfl⟩
      cases listed
  | cons latest rest =>
      exact bears latest ((members latest).1 mem_cons_self).1

/-- A case stays its owner's, unless another principal works on it. -/
theorem OwnedBy.touched {touched : Option String} (owned : OwnedBy tasks caseId owner)
    (touches : TouchesRuns touched principal tasks next)
    (same : touched = some caseId → principal = owner) : OwnedBy next caseId owner where
  controller := owned.controller.touched touches
  runs := by
    intro runId run found ofCase
    rcases touches.new runId run found with ⟨before, beforeFound, duty⟩ | ⟨-, named, borne⟩
    · exact duty.principal touches.contracts
        (owned.runs runId before beforeFound (duty.caseId.symm.trans ofCase))
    · rw [borne, same (named.symm.trans ofCase)]

end Owning

/-! ## The chain -/

/-- **Every case is owned**, and what leads a principal to a case leads to its own: the
turns of its sessions, and its questions that wait. -/
structure Ownership (store : ProductStore) (asking : List PendingQuestion) : Prop where
  owned : ∀ caseId row, store.cases.cases.get? caseId = some row →
    ∃ principal, OwnedBy store.tasks caseId principal
  known : ∀ runId run, store.tasks.runs.get? runId = some run → ∀ caseId,
    run.caseId = some caseId → ∃ row, store.cases.cases.get? caseId = some row
  turns : ∀ turn ∈ store.sessions.turns.rows,
    ∃ session, store.sessions.sessions.get? turn.sessionId = some session ∧
      ∀ reference ∈ turn.investigationRef, ∃ caseId, reference = "case:" ++ caseId ∧
        OwnedBy store.tasks caseId session.principal
  asking : ∀ pending ∈ asking, RunOfQuestion store.tasks pending ∧
    ∀ caseId, pending.context.caseRef = some caseId →
      OwnedBy store.tasks caseId pending.asked.command.principal

theorem Ownership.initial : Ownership ProductState.initial.store ProductState.initial.asking where
  owned caseId row found := by cases found
  known runId run found := by cases found
  turns turn member := by cases member
  asking pending member := by cases member

/-- **What a command of the principal does**: it works on a case that the principal owns,
on a case that it starts, or on none. -/
def Acts (principal : String) (store next : ProductStore) : Prop :=
  ∃ caseId, (∀ named ∈ caseId, OwnedBy store.tasks named principal ∨
      StartsCase named store next) ∧
    Asks caseId principal store next

section Acting

variable {store next : ProductStore} {asking : List PendingQuestion}

theorem Acts.refl (principal : String) (store : ProductStore) : Acts principal store store := by
  refine ⟨none, fun named member => ?_, .refl _ _, .refl _ _ _, .refl _ _ _⟩
  cases member

section

variable (kept : Ownership store asking)

include kept

/-- A case with an owner is stored. -/
theorem Ownership.stored (owned : OwnedBy store.tasks caseId owner)
    :
    ∃ row, store.cases.cases.get? caseId = some row := by
  obtain ⟨runId, run, found, ofCase, -⟩ := owned.controller
  exact kept.known runId run found caseId ofCase

/-- A case that a command starts had no owner. -/
theorem Ownership.unowned (starts : StartsCase caseId store next) :
    ¬ OwnedBy store.tasks caseId owner := by
  intro owned
  obtain ⟨row, found⟩ := kept.stored owned
  rw [starts.absent] at found
  cases found

/-- The principal owns the case that a command of it works on, before or after. -/
theorem Ownership.owner_of_origin
    (origin : OwnedBy store.tasks caseId principal ∨ StartsCase caseId store next)
    (owned : OwnedBy store.tasks caseId owner) : principal = owner := by
  rcases origin with mine | starts
  · exact mine.unique owned
  · exact absurd owned (kept.unowned starts)

/-- A case that the principal starts is its own. -/
theorem Ownership.born (starts : StartsCase caseId store next)
    (asks : Asks (some caseId) principal store next) : OwnedBy next.tasks caseId principal where
  controller := starts.controller
  runs := by
    intro runId run found ofCase
    rcases asks.runs.new runId run found with ⟨before, beforeFound, duty⟩ | ⟨-, -, borne⟩
    · obtain ⟨row, stored⟩ := kept.known runId before beforeFound caseId
        (duty.caseId.symm.trans ofCase)
      rw [starts.absent] at stored
      cases stored
    · exact borne

/-- The case that a command of the principal is about is the principal's after it. -/
theorem Ownership.mine
    (origin : OwnedBy store.tasks caseId principal ∨ StartsCase caseId store next)
    (asks : Asks (some caseId) principal store next) : OwnedBy next.tasks caseId principal := by
  rcases origin with owned | starts
  · exact owned.touched asks.runs fun _ => rfl
  · exact kept.born starts asks

/-- **No command takes a case away** from its owner. -/
theorem Acts.stays (acts : Acts principal store next)
    (owned : OwnedBy store.tasks caseId owner) :
    OwnedBy next.tasks caseId owner := by
  obtain ⟨touched, origin, asks⟩ := acts
  exact owned.touched asks.runs fun same => kept.owner_of_origin (origin caseId same) owned

/-- **The chain is kept** by every command. -/
theorem Acts.ownership (acts : Acts principal store next) :
    Ownership next asking := by
  have stays : ∀ caseId owner, OwnedBy store.tasks caseId owner → OwnedBy next.tasks caseId owner :=
    fun _ _ owned => acts.stays kept owned
  obtain ⟨touched, origin, asks⟩ := acts
  have mine : ∀ caseId, touched = some caseId → OwnedBy next.tasks caseId principal := by
    rintro caseId rfl
    exact kept.mine (origin caseId rfl) asks
  constructor
  case owned =>
    intro caseId row found
    by_cases same : touched = some caseId
    · exact ⟨principal, mine caseId same⟩
    · rw [(asks.cases.spared caseId same).row] at found
      obtain ⟨owner, owned⟩ := kept.owned caseId row found
      exact ⟨owner, stays caseId owner owned⟩
  case known =>
    intro runId run found caseId ofCase
    rcases asks.runs.new runId run found with ⟨before, beforeFound, duty⟩ | ⟨-, named, -⟩
    · obtain ⟨row, stored⟩ := kept.known runId before beforeFound caseId
        (duty.caseId.symm.trans ofCase)
      exact asks.cases.stays caseId row stored
    · rcases origin caseId (named.symm.trans ofCase) with owned | starts
      · obtain ⟨row, stored⟩ := kept.stored owned
        exact asks.cases.stays caseId row stored
      · exact starts.present
  case turns =>
    have old : ∀ turn ∈ store.sessions.turns.rows,
        ∃ session, next.sessions.sessions.get? turn.sessionId = some session ∧
          ∀ reference ∈ turn.investigationRef, ∃ caseId, reference = "case:" ++ caseId ∧
            OwnedBy next.tasks caseId session.principal := by
      intro turn member
      obtain ⟨session, found, references⟩ := kept.turns turn member
      obtain ⟨later, laterFound, same⟩ := asks.sessions.stays _ session found
      refine ⟨later, laterFound, fun reference named => ?_⟩
      obtain ⟨caseId, text, owned⟩ := references reference named
      rw [same]
      exact ⟨caseId, text, stays caseId _ owned⟩
    rcases asks.sessions.turns with rows | ⟨added, session, rows, found, ofPrincipal, names⟩
    · rw [rows]
      exact old
    · intro turn member
      rw [rows] at member
      rcases mem_append.1 member with before | new
      · exact old turn before
      · obtain rfl := mem_singleton.1 new
        refine ⟨session, found, fun reference named => ?_⟩
        obtain ⟨caseId, same, text⟩ := names reference named
        rw [ofPrincipal]
        exact ⟨caseId, text, mine caseId same⟩
  case asking =>
    intro pending member
    obtain ⟨⟨run, found, ofCase⟩, owned⟩ := kept.asking pending member
    obtain ⟨later, laterFound, duty⟩ := asks.runs.stays _ run found
    exact ⟨⟨later, laterFound, duty.caseId.trans ofCase⟩,
      fun caseId reads => stays caseId _ (owned caseId reads)⟩

/-- **What another principal owns is spared**: its cases, with their runs. -/
theorem Acts.spares_case (acts : Acts principal store next)
    (owned : OwnedBy store.tasks caseId owner) (other : owner ≠ principal) :
    SparesCase caseId store.cases next.cases ∧
      SameRows (fun run => run.caseId = some caseId) store.tasks.runs next.tasks.runs := by
  obtain ⟨touched, origin, asks⟩ := acts
  have different : touched ≠ some caseId := fun same =>
    other (kept.owner_of_origin (origin caseId same) owned).symm
  exact ⟨asks.cases.spared caseId different, asks.runs.spared caseId different⟩

end

/-- So are its sessions. -/
theorem Acts.spares_session (acts : Acts principal store next) {sessionId : String}
    {session : QuestionSessionModel}
    (found : store.sessions.sessions.get? sessionId = some session)
    (other : session.principal ≠ principal) :
    SameRows (fun turn => turn.sessionId = sessionId) store.sessions.turns next.sessions.turns := by
  obtain ⟨touched, -, asks⟩ := acts
  rcases asks.sessions.turns with rows | ⟨added, mine, rows, mineFound, ofPrincipal, -⟩
  · intro turn _
    rw [rows]
  · refine .of_append rows fun same => ?_
    obtain ⟨later, laterFound, kept⟩ := asks.sessions.stays sessionId session found
    rw [same, laterFound] at mineFound
    obtain rfl := Option.some.inj mineFound
    exact other (kept.symm.trans ofPrincipal)

end Acting

/-! ## The commands -/

section Commands

variable {store next : ProductStore} {asking : List PendingQuestion} {drawn : CommandDraw}

/-- A case that a session of the principal names is the principal's. -/
theorem Ownership.ofNamed (kept : Ownership store asking)
    (named : NamedFor store.sessions principal caseId) : OwnedBy store.tasks caseId principal := by
  obtain ⟨turn, member, reference, session, found, mine⟩ := named
  obtain ⟨stored, storedFound, references⟩ := kept.turns turn member
  obtain rfl := mem_unique storedFound found
  obtain ⟨other, text, owned⟩ := references _ reference
  rw [append_left_inj text, ← mine]
  exact owned

theorem startInvestigation_acts {settings : LaunchSettings} {command : StartInvestigationCommand}
    (ok : startInvestigation store settings reads command digest drawn =
      .ok (answer, next)) :
    Acts command.principal store next := by
  unfold startInvestigation at ok
  obtain ⟨⟨⟨record, replay⟩, commands⟩, -, ok⟩ := bind_eq_ok.1 ok
  dsimp only at ok
  split at ok
  · obtain ⟨view, -, ok⟩ := bind_eq_ok.1 ok
    cases ok
    exact .refl _ _
  · obtain ⟨opened, opens, ok⟩ := bind_eq_ok.1 ok
    cases ok
    obtain ⟨touches, absent, controller, present⟩ := openInvestigation_touches opens
    refine ⟨some drawn.caseId, fun named member => ?_, .of_touches ?_⟩
    · obtain rfl := Option.some.inj member
      exact .inr ⟨absent, controller, present⟩
    · exact ⟨touches.cases, touches.runs, touches.sessions⟩

variable {settings : QuestionSettings}

/-- **A question that waits** is about a case of its principal, or about none. -/
theorem openQuestion_acts (kept : Ownership store asking)
    {reads : QuestionReads} {command : AskQuestionCommand} {opened : OpenedQuestion}
    (ok : openQuestion store settings reads command digest drawn = .ok (opened, next)) :
    Acts command.principal store next ∧
      ∀ pending, opened = .asking pending → RunOfQuestion next.tasks pending ∧
        ∀ caseId, pending.context.caseRef = some caseId →
          OwnedBy next.tasks caseId pending.asked.command.principal := by
  unfold openQuestion at ok
  obtain ⟨⟨⟨record, replay⟩, commands⟩, -, ok⟩ := bind_eq_ok.1 ok
  dsimp only at ok
  split at ok
  · obtain ⟨payload, -, ok⟩ := bind_eq_ok.1 ok
    cases ok
    refine ⟨.refl _ _, fun pending same => ?_⟩
    cases same
  · obtain ⟨caseId, named, opens⟩ := openClaimed_opens ok
    have asks : Asks caseId command.principal store next :=
      ⟨opens.asks.cases, opens.asks.runs, opens.asks.sessions⟩
    have origin : ∀ named ∈ caseId, OwnedBy store.tasks named command.principal ∨
        StartsCase named store next := by
      intro other member
      rcases named other member with ofSession | starts
      · exact .inl (kept.ofNamed ofSession)
      · exact .inr ⟨starts.absent, starts.controller, starts.present⟩
    refine ⟨⟨caseId, origin, asks⟩, fun pending same => ?_⟩
    obtain ⟨principal, sameCase, running⟩ := opens.pending pending same
    refine ⟨running, fun reads about => ?_⟩
    obtain rfl := sameCase.symm.trans about
    rw [principal]
    exact kept.mine (origin reads rfl) asks

theorem settleQuestion_acts (kept : Ownership store asking)
    {pending : PendingQuestion} {planned : Except Raised Proposal} {answer : QuestionAnswer}
    (waits : pending ∈ asking)
    (ok : settleQuestion store settings reads pending planned drawn = .ok (answer, next)) :
    Acts pending.asked.command.principal store next := by
  obtain ⟨running, owned⟩ := kept.asking pending waits
  obtain ⟨caseId, origin, asks⟩ := settleQuestion_asks running ok
  refine ⟨caseId, fun named member => ?_, asks⟩
  rcases origin named member with reads | starts
  · exact .inl (owned named reads)
  · exact .inr starts

theorem getTaskContractForRun_ok {tasks : TaskStore} {run : TaskRunModel} {contract : TaskContract}
    (stored : run ∈ tasks.runs.rows)
    (ok : getTaskContractForRun tasks run.runId = .ok contract) :
    principalOf? tasks run = some contract.principal := by
  unfold getTaskContractForRun getRun at ok
  obtain ⟨row, found, ok⟩ := fetch_bind_eq_ok.1 ok
  obtain ⟨version, versionFound, ok⟩ := fetch_bind_eq_ok.1 ok
  cases ok
  rw [get?_of_mem stored] at found
  obtain rfl := Option.some.inj found
  exact map_eq_some_iff.2 ⟨version, versionFound, rfl⟩

/-- **A cancellation** is of a case of the principal: its controller bears it. -/
theorem cancelInvestigation_acts (kept : Ownership store asking) {settings : ProductSettings}
    {command : CancelInvestigationCommand}
    (ok : cancelInvestigation store settings command digest drawn = .ok (answer, next)) :
    Acts command.principal store next := by
  unfold cancelInvestigation at ok
  obtain ⟨⟨⟨record, replay⟩, commands⟩, -, ok⟩ := bind_eq_ok.1 ok
  dsimp only at ok
  split at ok
  · obtain ⟨view, -, ok⟩ := bind_eq_ok.1 ok
    cases ok
    exact .refl _ _
  · obtain ⟨row, found, ok⟩ := fetch_bind_eq_ok.1 ok
    obtain ⟨controller, controls, ok⟩ := fetch_bind_eq_ok.1 ok
    obtain ⟨contract, borne, ok⟩ := bind_eq_ok.1 ok
    obtain ⟨same, ok⟩ := require_bind_eq_ok.1 ok
    obtain ⟨-, ok⟩ := require_bind_eq_ok.1 ok
    have mine : OwnedBy store.tasks command.caseId command.principal := by
      have latest := (mem_insertionSort _).1 (List.mem_of_head? controls)
      obtain ⟨stored, ofCase⟩ := mem_runsOfCase.1 (mem_filter.1 latest).1
      have principal := getTaskContractForRun_ok stored borne
      obtain ⟨owner, owned⟩ := kept.owned command.caseId row found
      have bears := owned.runs _ controller (get?_of_mem stored) ofCase
      rw [principal] at bears
      rw [← same, Option.some.inj bears]
      exact owned
    split at ok
    · cases ok
      exact ⟨some command.caseId, fun named member => .inl (Option.some.inj member ▸ mine),
        .of_touches (.of_same rfl rfl rfl)⟩
    · obtain ⟨-, ok⟩ := require_bind_eq_ok.1 ok
      obtain ⟨cancelled, cancels, ok⟩ := bind_eq_ok.1 ok
      cases ok
      have touches := cancelLiveRuns_touches command.principal cancels
      refine ⟨some command.caseId, fun named member => ?_, .of_touches ?_⟩
      · obtain rfl := Option.some.inj member
        exact .inl mine
      · exact ⟨touches.cases, touches.runs, touches.sessions⟩

/-- What moves a run works on the case of the run, for its owner. -/
theorem moveRun_acts (kept : Ownership store asking) {request : TransitionTaskRun}
    {eventId : String} {now : ℤ} (ok : moveRun store request eventId now = .ok next) :
    ∃ principal, Acts principal store next := by
  obtain ⟨view, moved, -⟩ := moveRun_ok ok
  obtain ⟨run, found, -⟩ := transitionTaskRun_ok moved
  cases ofCase : run.caseId with
  | none =>
      have touches : Touches none "" store next :=
        (Touches.of_move ok found fun other same => ofCase.symm.trans same).1
      refine ⟨"", none, fun named member => ?_, .of_touches touches⟩
      cases member
  | some caseId =>
      obtain ⟨row, stored⟩ := kept.known _ run found caseId ofCase
      obtain ⟨owner, owned⟩ := kept.owned caseId row stored
      have touches : Touches (some caseId) owner store next :=
        (Touches.of_move ok found fun other same => ofCase.symm.trans same).1
      refine ⟨owner, some caseId, fun named member => ?_, .of_touches touches⟩
      obtain rfl := Option.some.inj member
      exact .inl owned

theorem waitCase_acts (kept : Ownership store asking) {view : InvestigationCaseModel}
    {cases : CaseStore} (ok : waitCase store.cases caseId = .ok (view, cases)) :
    ∃ principal, Acts principal store { store with cases } := by
  obtain ⟨row, found, -⟩ := transitionCase_ok ok
  obtain ⟨owner, owned⟩ := kept.owned caseId row found
  have touches : Touches (some caseId) owner store { store with cases } :=
    .of_cases (.of_transition ok)
  refine ⟨owner, some caseId, fun named member => ?_, .of_touches touches⟩
  obtain rfl := Option.some.inj member
  exact .inl owned

end Commands

/-! ## Steps -/

/-- **A transaction is of one principal**, and keeps the chain.  What belongs to no command
starts no case. -/
structure ActsFor (state : ProductState) (op : ProductOp) (next : ProductState)
    (principal : String) : Prop where
  acts : Acts principal state.store next.store
  kept : Ownership next.store next.asking
  actor : actor? state op = some principal ∨ actor? state op = none ∧
    ∀ caseId row, next.store.cases.cases.get? caseId = some row →
      ∃ before, state.store.cases.cases.get? caseId = some before

theorem productService_acts {state next : ProductState}
    {answer : Unit} (kept : Ownership state.store state.asking)
    (ok : productService settings op state = .ok (answer, next)) :
    ∃ principal, ActsFor state op next principal := by
  unfold productService at ok
  cases op with
  | start command digest reads drawn =>
      obtain ⟨-, -, ok⟩ := bind_eq_ok.1 ok
      obtain ⟨⟨caseId, store⟩, starts, ok⟩ := bind_eq_ok.1 ok
      cases ok
      have acts := startInvestigation_acts starts
      exact ⟨_, acts, acts.ownership kept, .inl rfl⟩
  | ask command digest reads drawn =>
      obtain ⟨⟨opened, store⟩, opens, ok⟩ := bind_eq_ok.1 ok
      cases ok
      obtain ⟨acts, waits⟩ := openQuestion_acts kept opens
      have chain := acts.ownership kept
      refine ⟨_, acts, ?_, .inl rfl⟩
      cases opened with
      | replayed payload => exact chain
      | accepted result => exact chain
      | asking pending =>
          refine { chain with asking := fun other member => ?_ }
          rcases mem_append.1 member with before | new
          · exact chain.asking other before
          · obtain rfl := mem_singleton.1 new
            exact waits other rfl
  | settle position planned reads drawn =>
      obtain ⟨pending, found, ok⟩ := fetch_bind_eq_ok.1 ok
      obtain ⟨⟨result, store⟩, settles, ok⟩ := bind_eq_ok.1 ok
      cases ok
      have acts := settleQuestion_acts kept (mem_of_getElem? found) settles
      have chain := acts.ownership kept
      refine ⟨_, acts, ?_, .inl ?_⟩
      · refine { chain with asking := fun other member => ?_ }
        exact chain.asking other (mem_of_mem_eraseIdx member)
      · exact map_eq_some_iff.2 ⟨pending, found, rfl⟩
  | cancel command digest drawn =>
      obtain ⟨⟨caseId, store⟩, cancels, ok⟩ := bind_eq_ok.1 ok
      cases ok
      have acts := cancelInvestigation_acts kept cancels
      exact ⟨_, acts, acts.ownership kept, .inl rfl⟩
  | moveRun request eventId now =>
      obtain ⟨store, moved, ok⟩ := bind_eq_ok.1 ok
      cases ok
      obtain ⟨principal, acts⟩ := moveRun_acts kept moved
      refine ⟨principal, acts, acts.ownership kept, .inr ⟨rfl, fun caseId row found => ?_⟩⟩
      obtain ⟨view, -, same⟩ := moveRun_ok moved
      refine ⟨row, ?_⟩
      rw [← found, same]
  | waitCase caseId =>
      obtain ⟨⟨view, cases⟩, waits, ok⟩ := bind_eq_ok.1 ok
      cases ok
      obtain ⟨principal, acts⟩ := waitCase_acts kept waits
      refine ⟨principal, acts, acts.ownership kept, .inr ⟨rfl, fun other row found => ?_⟩⟩
      obtain ⟨before, beforeFound, -⟩ := transitionCase_ok waits
      by_cases same : some caseId = some other
      · obtain rfl := Option.some.inj same
        exact ⟨before, beforeFound⟩
      · rw [((TouchesCase.of_transition waits).spared other same).row] at found
        exact ⟨row, found⟩

section Runs

variable (settings : QuestionSettings) (ops : List ProductOp)

/-- The chain holds in every state that is reached. -/
theorem ownership_of_run :
    Ownership (productStateAfter settings ops).store (productStateAfter settings ops).asking := by
  have preserved : ∀ state op answer next, Ownership state.store state.asking →
      productService settings op state = .ok (answer, next) →
      Ownership next.store next.asking := by
    intro state op answer next kept ok
    obtain ⟨principal, acts⟩ := productService_acts kept ok
    exact acts.kept
  exact run_invariant preserved Ownership.initial ops

/-- A case that is owned stays its owner's, whatever follows. -/
theorem OwnedBy.of_run (later : List ProductOp)
    (owned : OwnedBy (productStateAfter settings ops).store.tasks caseId owner) :
    OwnedBy (productStateAfter settings (ops ++ later)).store.tasks caseId owner := by
  have preserved : ∀ state op answer next,
      Ownership state.store state.asking ∧ OwnedBy state.store.tasks caseId owner →
      productService settings op state = .ok (answer, next) →
      Ownership next.store next.asking ∧ OwnedBy next.store.tasks caseId owner := by
    rintro state op answer next ⟨kept, owned⟩ ok
    obtain ⟨principal, acts⟩ := productService_acts kept ok
    exact ⟨acts.kept, acts.acts.stays kept owned⟩
  have start : Ownership (productStateAfter settings ops).store
      (productStateAfter settings ops).asking ∧ _ := ⟨ownership_of_run settings ops, owned⟩
  unfold productStateAfter
  rw [run_append]
  exact (run_invariant preserved start later).2

/-- **The principal started the case**: the case was there after a step of the run, and
not before it, and the step is a command of the principal. -/
def StartedBy (caseId principal : String) : Prop :=
  ∃ before op after, ops = before ++ op :: after ∧
    (productStateAfter settings before).store.cases.cases.get? caseId = none ∧
    (∃ row, (productStateAfter settings (before ++ [op])).store.cases.cases.get? caseId =
      some row) ∧
    actor? (productStateAfter settings before) op = some principal

theorem productStateAfter_append_singleton (before : List ProductOp) (op : ProductOp) :
    productStateAfter settings (before ++ [op]) =
      transact (productService settings) (productStateAfter settings before) op := by
  unfold productStateAfter
  rw [run_append, run_cons, run_nil]

/-- A step with which a case is there is a command, and the case is its principal's. -/
theorem owned_of_started {before : List ProductOp}
    (absent : (productStateAfter settings before).store.cases.cases.get? caseId = none)
    (present : (productStateAfter settings (before ++ [op])).store.cases.cases.get? caseId =
      some row) :
    ∃ principal, actor? (productStateAfter settings before) op = some principal ∧
      OwnedBy (productStateAfter settings (before ++ [op])).store.tasks caseId principal := by
  rw [productStateAfter_append_singleton] at present ⊢
  cases outcome : productService settings op (productStateAfter settings before) with
  | error raised =>
      rw [transact_of_error outcome, absent] at present
      cases present
  | ok result =>
      obtain ⟨answer, next⟩ := result
      rw [transact_of_ok outcome] at present ⊢
      have kept := ownership_of_run settings before
      obtain ⟨principal, ⟨touched, origin, asks⟩, -, actor⟩ := productService_acts kept outcome
      refine ⟨principal, ?_, ?_⟩
      · rcases actor with mine | ⟨-, old⟩
        · exact mine
        · obtain ⟨stored, found⟩ := old caseId row present
          rw [absent] at found
          cases found
      · have about : touched = some caseId := by
          by_contra different
          rw [(asks.cases.spared caseId different).row, absent] at present
          cases present
        subst about
        exact kept.mine (origin caseId rfl) asks

theorem StartedBy.ownedBy (started : StartedBy settings ops caseId principal) :
    OwnedBy (productStateAfter settings ops).store.tasks caseId principal := by
  obtain ⟨before, op, after, rfl, absent, ⟨row, present⟩, actor⟩ := started
  obtain ⟨other, same, owned⟩ := owned_of_started settings absent present
  rw [actor] at same
  obtain rfl := Option.some.inj same
  have later := owned.of_run settings (before ++ [op]) after
  rwa [append_assoc, singleton_append] at later

theorem exists_startedBy
    (found : (productStateAfter settings ops).store.cases.cases.get? caseId = some row) :
    ∃ principal, StartedBy settings ops caseId principal := by
  have begins : ¬ ∃ row, ProductState.initial.store.cases.cases.get? caseId = some row := by
    rintro ⟨row, found⟩
    cases found
  obtain ⟨before, op, after, split, absent, row, present⟩ := exists_step_of_run
    (fun state : ProductState => ∃ row, state.store.cases.cases.get? caseId = some row) begins
    ⟨row, found⟩
  have missing : (productStateAfter settings before).store.cases.cases.get? caseId = none :=
    Option.eq_none_iff_forall_ne_some.2 fun row found => absent ⟨row, found⟩
  obtain ⟨principal, actor, -⟩ := owned_of_started settings missing present
  exact ⟨principal, before, op, after, split, missing, ⟨row, present⟩, actor⟩

end Runs

/-! ## Stability -/

/-- **Nothing of the owner has been written**: no event, need or run of a case that it owns,
and no turn of a session of it. -/
structure SparesOwner (owner : String) (store next : ProductStore) : Prop where
  cases : ∀ caseId, investigationOwner store.tasks caseId = some owner →
    SparesCase caseId store.cases next.cases
  runs : ∀ caseId, investigationOwner store.tasks caseId = some owner →
    SameRows (fun run => run.caseId = some caseId) store.tasks.runs next.tasks.runs
  turns : ∀ sessionId session, store.sessions.sessions.get? sessionId = some session →
    session.principal = owner →
    SameRows (fun turn => turn.sessionId = sessionId) store.sessions.turns next.sessions.turns

theorem SparesOwner.refl (owner : String) (store : ProductStore) : SparesOwner owner store store :=
  ⟨fun _ _ => .refl _ _, fun _ _ => .refl _, fun _ _ _ _ => .refl _⟩

/-- Who the queries say owns a case owns it. -/
theorem Ownership.ownedBy {store : ProductStore} {asking : List PendingQuestion}
    (kept : Ownership store asking) (read : investigationOwner store.tasks caseId = some owner) :
    OwnedBy store.tasks caseId owner := by
  obtain ⟨run, latest, -⟩ := bind_eq_some_iff.1 read
  have ordered := (mem_insertionSort _).1 (List.mem_of_head? latest)
  obtain ⟨stored, ofCase⟩ := mem_runsOfCase.1 (mem_filter.1 ordered).1
  obtain ⟨row, found⟩ := kept.known _ run (get?_of_mem stored) caseId ofCase
  obtain ⟨principal, owned⟩ := kept.owned caseId row found
  obtain rfl := mem_unique owned.investigationOwner read
  exact owned

theorem sparesOwner_of_transact (settings : QuestionSettings) (ops : List ProductOp)
    (actor : actor? (productStateAfter settings ops) op = some principal)
    (other : owner ≠ principal) :
    SparesOwner owner (productStateAfter settings ops).store
      (productStateAfter settings (ops ++ [op])).store := by
  rw [productStateAfter_append_singleton]
  have kept := ownership_of_run settings ops
  refine transact_induction
    (motive := fun next : ProductState =>
      SparesOwner owner (productStateAfter settings ops).store next.store)
    (.refl _ _) fun answer next ok => ?_
  obtain ⟨mine, acts, -, same⟩ := productService_acts kept ok
  obtain rfl : mine = principal := by
    rcases same with same | ⟨absent, -⟩
    · exact mem_unique same actor
    · rw [absent] at actor
      cases actor
  refine ⟨fun caseId read => ?_, fun caseId read => ?_, fun sessionId session found same => ?_⟩
  · exact (acts.spares_case kept (kept.ownedBy read) other).1
  · exact (acts.spares_case kept (kept.ownedBy read) other).2
  · exact acts.spares_session found (same.trans_ne other)

/-- **The ownership of a case is stable.**  In every state that a run reaches, a case has
been started by a command of some principal, and whoever has started it owns it; and
whatever a command of another principal does, it adds no event, need or run to a case of
the owner, and no turn to a session of it. -/
theorem case_ownership_is_stable (settings : QuestionSettings) (ops : List ProductOp) :
    (∀ caseId row, (productStateAfter settings ops).store.cases.cases.get? caseId = some row →
      ∃ principal, StartedBy settings ops caseId principal) ∧
    (∀ caseId principal, StartedBy settings ops caseId principal →
      investigationOwner (productStateAfter settings ops).store.tasks caseId = some principal) ∧
    ∀ op principal owner, actor? (productStateAfter settings ops) op = some principal →
      owner ≠ principal → SparesOwner owner (productStateAfter settings ops).store
        (productStateAfter settings (ops ++ [op])).store := by
  refine ⟨fun caseId row found => ?_, fun caseId principal started => ?_, ?_⟩
  · exact exists_startedBy settings ops found
  · exact (started.ownedBy settings ops).investigationOwner
  · intro op principal owner actor other
    exact sparesOwner_of_transact settings ops actor other

end SecFusion.Application
