import SecFusion.Application.Investigations

/-!
# Asking a question

The model of `apps/application/commands/ask_question.py` and of the reading half of
`apps/application/question_sessions.py`.

A question is answered in two transactions.  The first (`openQuestion`) finds the session
of the question and the case its last investigation is about; it starts an investigation
or follows one up, and is done, or it opens a synchronous run of `DecisionRole` and
commits.  The planner is then asked outside of any transaction.  What it proposes is
checked in memory (`reason`), and the second transaction (`settleQuestion`) records the
decision, blocks the run, escalates to an investigation, or fails the run when the
reasoning has raised.

Which route a question takes (`infer_question_route`), what the retrieval finds and what
the planner proposes may be anything.  The reads of the retrieval write rows of their own,
which none of this depends on.
-/

namespace SecFusion.Application

open Foundations Intelligence Execution TaskRuntime Investigation Reasoning

/-! ## Reading a session -/

/-- `QuestionSessionContext`; the last of the turns is its `latest_turn`. -/
structure QuestionSessionContext where
  (sessionId principal : String)
  turns : List QuestionSessionTurnModel

def QuestionSessionContext.latestTurn (context : QuestionSessionContext) :
    Option QuestionSessionTurnModel := context.turns.getLast?

namespace SessionStore

/-- The turns of a session, `order_by(turn_index.desc())`. -/
def latestTurnsFirst (store : SessionStore) (sessionId : String) :
    List QuestionSessionTurnModel :=
  (store.turnsOf sessionId).insertionSort fun first second =>
    second.turnIndex ≤ first.turnIndex

def sessionNotFound : Raised :=
  .applicationError .resourceNotFound "question session not found"

/-- `QuestionSessionStore.resolve`; `drawn` is the identifier of a new session, and the
history is limited to four turns. -/
def resolve (store : SessionStore) (sessionId : Option String) (principal drawn : String) :
    Except Raised QuestionSessionContext :=
  match sessionId with
  | none => .ok ⟨drawn, principal, []⟩
  | some sessionId => do
      let model ← fetch (store.sessions.get? sessionId) sessionNotFound
      requirePrincipal model principal
      return ⟨model.sessionId, model.principal,
        ((store.latestTurnsFirst sessionId).take 4).reverse⟩

/-- `QuestionSessionStore.latest_investigation_turn`. -/
def latestInvestigationTurn (store : SessionStore) (sessionId : Option String)
    (principal : String) : Except Raised (Option QuestionSessionTurnModel) :=
  match sessionId with
  | none => .ok none
  | some sessionId => do
      let model ← fetch (store.sessions.get? sessionId) sessionNotFound
      requirePrincipal model principal
      return (store.latestTurnsFirst sessionId).find? fun turn => turn.investigationRef.isSome

end SessionStore

/-- `_active_session_investigation_case_id`. -/
def activeSessionCase (cases : CaseStore) (investigationRef : Option String) :
    Except Raised (Option String) :=
  match investigationRef with
  | none => .ok none
  | some reference => do
      let caseId ← fetch (afterHead? "case:" reference)
        (.applicationError .lifecycleConflict
          "question session has an invalid investigation reference")
      let row ← fetch (cases.cases.get? caseId) investigationNotFound
      return if takesFollowup row.status then some caseId else none

/-! ## The command -/

structure AskQuestionCommand where
  (principal requestId : String)
  (traceId idempotencyKey sessionId : Option String := none)
  question : String
  (cveId objectId : Option String := none)
  taskKind : Option TaskKind := none
  requiredSourceRoles : List String := []
  priority : ℤ := 50
  interactiveTimeoutSeconds : ℕ := 5
  allowWait : Bool := true
  investigationTimeoutSeconds : ℕ := 300
  agentTurns : ℕ := 8
  toolCalls : ℕ := 12

/-- What the retrieval has found for a question. -/
structure Retrieved where
  targets : List String := []
  (confirmed tentative : List InvestigationStateItem := [])
  sources : List CitationSource := []
  (objectRefs relationRefs evidenceRefs invocationRefs : List String := [])
  queryIntent : Option JsonObject := none
  queryIntentModelRef : Option String := none

/-- What a question reads besides the tables of the store: the route of a command (with
whether the session has a target), and what is retrieved for it, about the state of a
case if there is one. -/
structure QuestionReads extends KnowledgeReads where
  inferRoute : AskQuestionCommand → Bool → TaskKind × Option String
  isMethodologyQuestion : String → Bool
  /-- The revision of the knowledge, when it is read again for the context. -/
  laterRevision : ℕ
  cited : String → Option CitedEvidence
  retrieve : AskQuestionCommand → QuestionSessionContext → Option InvestigationState →
    Except Raised Retrieved

/-- A view of a result, as a command record stores it. -/
structure QuestionResultView where
  (requestId sessionId : String)
  turnIndex : ℕ
  (mode executionProfile : String)
  decision : Option DecisionResult := none
  investigation : Option InvestigationView := none

/-- What the command is configured with. -/
structure QuestionSettings extends LaunchSettings where
  hasProvider : Bool := true
  dumpResult : QuestionResultView → JsonObject

/-- A command whose route is known. -/
structure RoutedQuestion where
  command : AskQuestionCommand
  kind : TaskKind
  (autoRoute explicitTarget : Bool)

/-- The session names a target: one object, or an investigation. -/
def hasSessionTarget (context : QuestionSessionContext) : Bool :=
  context.latestTurn.any fun turn =>
    decide (turn.targetObjectIds.length = 1) ||
      turn.investigationRef.any fun reference => decide (reference ≠ "")

/-- The route of a command: the kind it names, or the one that is inferred. -/
def routeQuestion (reads : QuestionReads) (command : AskQuestionCommand)
    (context : QuestionSessionContext) : RoutedQuestion :=
  let explicitTarget := command.cveId.isSome || command.objectId.isSome
  match command.taskKind with
  | some kind => ⟨command, kind, false, explicitTarget⟩
  | none =>
      let (kind, cveId) := reads.inferRoute command (hasSessionTarget context)
      ⟨{ command with taskKind := some kind, cveId }, kind, true, explicitTarget⟩

/-- The kinds that are answered at once. -/
def isDirectKind : TaskKind → Bool
  | .lookup | .retrieve => true
  | .verifyVersionFix | .resolveConflict | .investigateRelation | .investigateIncident
  | .watchIncident | .researchInsight | .assessNormativeApplicability | .observeLiveAsset
  | .enrichment => false

/-- `_stable_unique`. -/
def stableUnique (texts : List String) : List String :=
  firstOccurrences (texts.filter (· ≠ ""))

/-- `_bind_session_target`. -/
def bindSessionTarget (asked : RoutedQuestion) (context : QuestionSessionContext) :
    Except Raised RoutedQuestion :=
  if asked.command.cveId.isSome || asked.command.objectId.isSome then .ok asked
  else
    match context.latestTurn with
    | none => .ok asked
    | some latest =>
        match stableUnique latest.targetObjectIds with
        | [target] =>
            .ok { asked with command := { asked.command with objectId := some target } }
        | _ => do
            require (asked.kind = .retrieve)
              (.applicationError .lifecycleConflict
                "question follow-up requires exactly one carried target")
            return asked

/-! ## Investigations -/

/-- What the planner asks for, where it is not the command's own. -/
structure Escalation where
  (question purpose : String)
  requiredSourceRoles : List String
  priority : ℤ
  target : Option String := none
  targets : List String := []

/-- The kind of the investigation that a question starts. -/
def investigationKind (kind : TaskKind) : TaskKind :=
  if isDirectKind kind then .investigateRelation else kind

def startCommand (asked : RoutedQuestion) (escalation : Escalation) : StartInvestigationCommand where
  principal := asked.command.principal
  requestId := asked.command.requestId
  traceId := asked.command.traceId
  cveId :=
    if escalation.target.isSome ∨ escalation.targets ≠ [] then none else asked.command.cveId
  objectId :=
    if escalation.targets ≠ [] then none
    else if given escalation.target then escalation.target else asked.command.objectId
  objectIds := escalation.targets
  goal := asked.command.question
  evidenceQuestion := escalation.question
  purpose := escalation.purpose
  taskKind := investigationKind asked.kind
  requiredSourceRoles := escalation.requiredSourceRoles
  priority := escalation.priority
  allowWait := asked.command.allowWait
  timeoutSeconds := asked.command.investigationTimeoutSeconds
  agentTurns := asked.command.agentTurns
  toolCalls := asked.command.toolCalls

/-- The command by which a question follows an investigation up. -/
def continueCommand (asked : RoutedQuestion) (escalation : Escalation) (caseId : String) :
    ContinueInvestigationCommand where
  principal := asked.command.principal
  requestId := asked.command.requestId
  traceId := asked.command.traceId
  caseId := caseId
  question := if escalation.question = "" then asked.command.question else escalation.question
  purpose := escalation.purpose
  taskKind := investigationKind asked.kind
  requiredSourceRoles := escalation.requiredSourceRoles
  priority := escalation.priority
  allowWait := asked.command.allowWait
  timeoutSeconds := asked.command.investigationTimeoutSeconds
  agentTurns := asked.command.agentTurns
  toolCalls := asked.command.toolCalls

/-- What a question that escalates by itself asks for. -/
def ownEscalation (asked : RoutedQuestion) (purpose : String) : Escalation where
  question := asked.command.question
  purpose := purpose
  requiredSourceRoles := asked.command.requiredSourceRoles
  priority := asked.command.priority

/-- `_start_investigation`. -/
def startFromQuestion (store : ProductStore) (settings : LaunchSettings) (reads : KnowledgeReads)
    (asked : RoutedQuestion) (escalation : Escalation) (drawn : CommandDraw) :
    Except Raised (InvestigationView × ProductStore) := do
  let command := startCommand asked escalation
  command.validate
  let opened ← openInvestigation store settings reads command drawn
  let view ← getInvestigation opened drawn.caseId command.principal
  return (view, opened)

/-- `_continue_investigation`. -/
def continueFromQuestion (store : ProductStore) (settings : LaunchSettings)
    (reads : KnowledgeReads) (asked : RoutedQuestion) (escalation : Escalation) (caseId : String)
    (drawn : CommandDraw) : Except Raised (InvestigationView × ProductStore) := do
  let command := continueCommand asked escalation caseId
  command.validate
  let continued ← continueInvestigation store settings reads command drawn
  let view ← getInvestigation continued caseId command.principal
  return (view, continued)

/-- The turn of a question about a case. -/
def investigationTurn (asked : RoutedQuestion) (sessionId : String) (view : InvestigationView)
    (knowledgeRevision : Option ℕ) (contextId : Option String) : AppendTurn where
  sessionId := sessionId
  principal := asked.command.principal
  requestId := asked.command.requestId
  question := asked.command.question
  taskKind := asked.kind.value
  targetObjectIds := view.targetObjectIds
  knowledgeRevision := knowledgeRevision
  contextId := contextId
  decisionRef := none
  investigationRef := some ("case:" ++ view.caseId)

/-- The result of a question that an investigation has taken over. -/
def acceptedResult (asked : RoutedQuestion) (sessionId : String) (turnIndex : ℕ)
    (view : InvestigationView) : QuestionResultView where
  requestId := asked.command.requestId
  sessionId := sessionId
  turnIndex := turnIndex
  mode := "accepted"
  executionProfile :=
    if given view.executionProfile then view.executionProfile.getD "" else "INVESTIGATE"
  investigation := some view

/-- The turn of the question is appended, and its command completed. -/
def recordAccepted (store : ProductStore) (settings : QuestionSettings) (asked : RoutedQuestion)
    (record : Option ProductCommandRecordModel) (sessionId : String) (view : InvestigationView)
    (knowledgeRevision : Option ℕ) (contextId : Option String) (drawn : CommandDraw) :
    Except Raised (QuestionResultView × ProductStore) := do
  let (turn, sessions) ← store.sessions.appendTurn
    (investigationTurn asked sessionId view knowledgeRevision contextId) drawn.turnId drawn.now
  let result := acceptedResult asked sessionId turn.turnIndex view
  return (result, { store with
    sessions
    commands := completeCommand store.commands record (turnRef sessionId turn.turnIndex)
      (some (settings.dumpResult result)) })

/-- `_accept_active_case_followup`. -/
def acceptFollowup (store : ProductStore) (settings : QuestionSettings) (reads : KnowledgeReads)
    (asked : RoutedQuestion) (record : Option ProductCommandRecordModel) (sessionId caseId : String)
    (drawn : CommandDraw) : Except Raised (QuestionResultView × ProductStore) := do
  let (view, continued) ← continueFromQuestion store settings.toLaunchSettings reads asked
    (ownEscalation asked "interactive_investigation_followup") caseId drawn
  recordAccepted continued settings asked record sessionId view
    (some (currentKnowledgeRevision reads.knowledge)) none drawn

/-- The question starts an investigation by itself. -/
def acceptNew (store : ProductStore) (settings : QuestionSettings) (reads : KnowledgeReads)
    (asked : RoutedQuestion) (record : Option ProductCommandRecordModel) (sessionId : String)
    (drawn : CommandDraw) : Except Raised (QuestionResultView × ProductStore) := do
  let (view, opened) ← startFromQuestion store settings.toLaunchSettings reads asked
    (ownEscalation asked "answer_question") drawn
  recordAccepted opened settings asked record sessionId view
    (some (currentKnowledgeRevision reads.knowledge)) none drawn

/-! ## The context of a question -/

/-- `_canonical_evidence_ref`. -/
def canonicalEvidenceRef (ref : String) : String :=
  if (afterHead? "evidence:" ref).isSome then ref else "evidence:" ++ ref

def projectItem (item : InvestigationStateItem) : InvestigationStateItem :=
  { item with evidenceRefs := item.evidenceRefs.map canonicalEvidenceRef }

/-- `_question_state_projection`. -/
def questionStateProjection (state : InvestigationState) (goal : String) : InvestigationState :=
  { state with
    goal
    confirmed := state.confirmed.map projectItem
    tentative := state.tentative.map projectItem
    conflicts := state.conflicts.map projectItem
    unknowns := state.unknowns.map projectItem
    hypotheses := state.hypotheses.map projectItem }

/-- `_QuestionContext`. -/
structure QuestionContext where
  state : InvestigationState
  sources : List CitationSource
  (caseRef investigationStateRef : Option String := none)
  (objectRefs relationRefs evidenceRefs invocationRefs : List String)
  queryIntent : Option JsonObject
  queryIntentModelRef : Option String

/-- The end of `_load_context`: a question that is not about a case. -/
def plainContext (asked : RoutedQuestion) (revision : ℕ) (found : Retrieved) (now : ℤ) :
    QuestionContext where
  state :=
    { caseId := "question:" ++ asked.command.requestId, caseRevision := 0
      goal := asked.command.question, targets := stableUnique found.targets
      confirmed := found.confirmed, tentative := found.tentative, conflicts := [], unknowns := []
      hypotheses := [], evidenceNeedIds := [], currentDecision := none
      lastWorldRevision := some revision, lastPerceptionAt := none, updatedAt := now }
  sources := found.sources
  objectRefs := stableUnique found.objectRefs
  relationRefs := stableUnique found.relationRefs
  evidenceRefs := stableUnique found.evidenceRefs
  invocationRefs := stableUnique found.invocationRefs
  queryIntent := found.queryIntent
  queryIntentModelRef := found.queryIntentModelRef

/-- The relations that the items of a state are about. -/
def relationTargets (state : InvestigationState) : List String :=
  (stateItems state).filterMap fun item =>
    item.targetRef.filter fun target => (afterHead? "relation:" target).isSome

/-- The end of `_load_active_case_context`. -/
def caseContext (cited : String → Option CitedEvidence) (asked : RoutedQuestion)
    (caseId : String) (state : InvestigationState) (found : Retrieved) : QuestionContext where
  state :=
    let projected := questionStateProjection state asked.command.question
    { projected with tentative := projected.tentative ++ found.tentative }
  sources := decisionCitationSources cited (questionStateProjection state state.goal) ++
    found.sources
  caseRef := some caseId
  investigationStateRef := some (stateRef caseId state.caseRevision)
  objectRefs := stableUnique (state.targets.map fun target => "object:" ++ target)
  relationRefs := stableUnique (relationTargets state)
  evidenceRefs := stableUnique
    (stableUnique ((evidenceOf (stateItems state)).map canonicalEvidenceRef) ++ found.evidenceRefs)
  invocationRefs := stableUnique found.invocationRefs
  queryIntent := found.queryIntent
  queryIntentModelRef := found.queryIntentModelRef

/-! ## The first transaction -/

/-- The run of a question that the planner is asked about. -/
structure PendingQuestion where
  asked : RoutedQuestion
  record : Option ProductCommandRecordModel
  sessionId : String
  context : QuestionContext
  runId : String
  methodology : Bool

/-- `DIRECT` or `RETRIEVE`. -/
def questionProfile (kind : TaskKind) : ExecutionProfile :=
  if kind = .lookup then .direct else .retrieve

def questionSurface : Surface := ⟨"queue:product-question", "question", "product-question"⟩

def questionAdmission (settings : QuestionSettings) (asked : RoutedQuestion)
    (context : QuestionContext) (sessionId : String) : TaskAdmissionRequest where
  intent :=
    { triggerRef := "product-request:" ++ asked.command.requestId
      rawRequest := asked.command.question, candidateTaskKind := asked.kind
      candidateTargets := context.state.targets, requestedActions := ["answer_question"] }
  principal := asked.command.principal
  policyRevision := settings.policyRevision
  bindingContext := [("product_session_id", .string sessionId),
    ("question", .string asked.command.question),
    ("target_object_ids", textItems context.state.targets)]

def questionManifest (settings : QuestionSettings) (context : QuestionContext)
    (session : QuestionSessionContext) (contract : TaskContract) (runId : String) :
    ContextManifest where
  contextId := "context:" ++ runId
  contextRevision := 1
  revision_pos := Nat.one_pos
  parentContextId := session.latestTurn.bind (·.contextId)
  taskContractRef := taskContractRef contract
  roleRef := "DecisionRole@1"
  caseRef := context.caseRef
  knowledgeRevision := context.state.lastWorldRevision
  investigationStateRef := context.investigationStateRef
  objectRefs := context.objectRefs
  relationRefs := context.relationRefs
  evidenceRefs := context.evidenceRefs
  retrievalInvocationRefs := context.invocationRefs
  queryIntent := context.queryIntent
  queryIntentModelRef := context.queryIntentModelRef
  policyContextRef := "policy-context:" ++ settings.policyRevision
  capabilityEnvelopeRef :=
    if context.caseRef.isSome then "capability:question:case-read-v1"
    else "capability:question:local-read-v1"
  budgetRef := "budget:" ++ runId

/-- The counts of the budget of a synchronous run. -/
def questionCounts (settings : QuestionSettings) (timeoutSeconds : ℕ) : Dict String ℕ where
  entries :=
    [("wall_seconds", timeoutSeconds), ("agent_turns", 1), ("tool_calls", 0),
      ("model_tokens", settings.tokenReservation * settings.maxAttempts),
      ("retries", settings.maxAttempts - 1)]
  nodup := by simp

theorem questionCounts_named (settings : QuestionSettings) (timeoutSeconds : ℕ) :
    ∀ entry ∈ (questionCounts settings timeoutSeconds).entries,
      isBlank entry.1 = false := by
  intro entry member
  have named : ∀ name ∈ ["wall_seconds", "agent_turns", "tool_calls", "model_tokens", "retries"],
      isBlank name = false := by decide
  exact named entry.1 (mem_map_of_mem (f := Prod.fst) member)

def questionRegistration (settings : QuestionSettings) (asked : RoutedQuestion)
    (context : QuestionContext) (session : QuestionSessionContext) (contract : TaskContract)
    (runId : String) (now : ℤ) : RegisterRun where
  run :=
    { contract, manifest := questionManifest settings context session contract runId
      role := canonicalDecisionRole, executionEnvelopeRef := "execution:" ++ runId
      streamName := settings.streamName, caseId := context.caseRef
      producer := "product-question" }
  runId := runId
  limits := countLimits (questionCounts settings asked.command.interactiveTimeoutSeconds)
    (questionCounts_named settings asked.command.interactiveTimeoutSeconds)
  -- the envelope names no case, even when the run bears one
  envelope := decisionEnvelope contract runId none (questionProfile asked.kind)
    settings.policyRevision (now + asked.command.interactiveTimeoutSeconds * 1000000)
    [("product_session_id", .string session.sessionId),
      ("request_id", .string asked.command.requestId), ("surface", .string "product-api"),
      ("trace_id", textOrNull asked.command.traceId)]

/-- `_open_sync_runtime`. -/
def openSyncRuntime (store : ProductStore) (settings : QuestionSettings) (asked : RoutedQuestion)
    (context : QuestionContext) (session : QuestionSessionContext) (drawn : CommandDraw) :
    Except Raised ProductStore := do
  let contract ← admitContract settings.toProductSettings
    (questionAdmission settings asked context session.sessionId)
  let registered ← registerRun store
    (questionRegistration settings asked context session contract drawn.runId drawn.now)
    drawn.toDrawn
  startRun registered questionSurface drawn.runId settings.streamName drawn.toDrawn

/-- How the first transaction ends. -/
inductive OpenedQuestion where
  | replayed (payload : JsonObject)
  | accepted (result : QuestionResultView)
  | asking (pending : PendingQuestion)

/-- The general question about a methodology, which is answered without evidence. -/
def isMethodology (reads : QuestionReads) (asked : RoutedQuestion)
    (session : QuestionSessionContext) (active : Option String) : Bool :=
  asked.autoRoute && decide (asked.kind = .retrieve) && !asked.explicitTarget && active.isNone &&
    !(session.latestTurn.any fun turn => decide (turn.targetObjectIds ≠ [])) &&
    reads.isMethodologyQuestion asked.command.question

/-- The run is opened, and the planner is asked. -/
def openAsking (store : ProductStore) (settings : QuestionSettings) (asked : RoutedQuestion)
    (record : Option ProductCommandRecordModel) (session : QuestionSessionContext)
    (context : QuestionContext) (methodology : Bool) (drawn : CommandDraw) :
    Except Raised (OpenedQuestion × ProductStore) := do
  let opened ← openSyncRuntime store settings asked context session drawn
  return (.asking { asked, record, sessionId := session.sessionId, context, runId := drawn.runId
                    methodology }, opened)

/-- An answer about the case, unless the case has to be brought up to date first. -/
def openCaseRead (store : ProductStore) (settings : QuestionSettings) (reads : QuestionReads)
    (asked : RoutedQuestion) (record : Option ProductCommandRecordModel)
    (session : QuestionSessionContext) (caseId : String) (revision : ℕ) (drawn : CommandDraw)
    (rest : InvestigationState → ProductStore → Except Raised (OpenedQuestion × ProductStore)) :
    Except Raised (OpenedQuestion × ProductStore) := do
  let (state, cases) ← getState store.cases caseId drawn.now
  let read := { store with cases }
  if asked.kind = .retrieve ∧ state.lastWorldRevision ≠ some revision then do
    let (result, next) ← acceptFollowup read settings reads.toKnowledgeReads asked record
      session.sessionId caseId drawn
    return (.accepted result, next)
  else rest state read

/-- What is retrieved for a question about a case: nothing for a lookup. -/
def retrieveForCase (reads : QuestionReads) (asked : RoutedQuestion)
    (session : QuestionSessionContext) (state : InvestigationState) : Except Raised Retrieved :=
  if asked.kind = .retrieve then reads.retrieve asked.command session (some state) else .ok {}

/-- A question of a kind that is answered at once, once its target is bound. -/
def openBound (store : ProductStore) (settings : QuestionSettings) (reads : QuestionReads)
    (asked : RoutedQuestion) (record : Option ProductCommandRecordModel)
    (session : QuestionSessionContext) (active caseRead : Option String) (drawn : CommandDraw) :
    Except Raised (OpenedQuestion × ProductStore) := do
  let bound ← bindSessionTarget asked session
  require (settings.hasProvider = true)
    (.applicationError .dependencyUnavailable "model provider is not configured")
  let methodology := isMethodology reads bound session active
  match caseRead with
  | none => do
      let found ← reads.retrieve bound.command session none
      openAsking store settings bound record session
        (plainContext bound (currentKnowledgeRevision reads.knowledge) found drawn.now) methodology
        drawn
  | some caseId =>
      -- `_load_active_case_context` raises for a stale case, and its caller follows up
      openCaseRead store settings reads bound record session caseId reads.laterRevision drawn
        fun state read => do
          let found ← retrieveForCase reads bound session state
          openAsking read settings bound record session
            (caseContext reads.cited bound caseId state found) methodology drawn

/-- A question of a kind that is answered at once. -/
def openDirect (store : ProductStore) (settings : QuestionSettings) (reads : QuestionReads)
    (asked : RoutedQuestion) (record : Option ProductCommandRecordModel)
    (session : QuestionSessionContext) (active : Option String) (drawn : CommandDraw) :
    Except Raised (OpenedQuestion × ProductStore) :=
  if asked.command.cveId = none ∧ asked.command.objectId = none then
    match active with
    | some caseId =>
        if asked.kind = .retrieve then
          openCaseRead store settings reads asked record session caseId
            (currentKnowledgeRevision reads.knowledge) drawn fun _ read =>
              openBound read settings reads asked record session active active drawn
        else openBound store settings reads asked record session active active drawn
    | none => openBound store settings reads asked record session active none drawn
  else openBound store settings reads asked record session active none drawn

/-- A vulnerability that the question mentions, and that the case is about, is no target
of its own. -/
def releaseMentioned (store : ProductStore) (reads : QuestionReads) (asked : RoutedQuestion)
    (caseId : String) (now : ℤ) : Except Raised (RoutedQuestion × ProductStore) :=
  match asked.command.cveId with
  | none => .ok (asked, store)
  | some cveId =>
      if asked.explicitTarget then .ok (asked, store)
      else do
        let (state, cases) ← getState store.cases caseId now
        let mentioned := (reads.vulnerability? cveId).any fun objectId =>
          decide (objectId ∈ state.targets)
        return (if mentioned then { asked with command := { asked.command with cveId := none } }
          else asked, { store with cases })

/-- A question of a kind that takes an investigation. -/
def openInvestigating (store : ProductStore) (settings : QuestionSettings) (reads : QuestionReads)
    (asked : RoutedQuestion) (record : Option ProductCommandRecordModel)
    (session : QuestionSessionContext) (active : Option String) (drawn : CommandDraw) :
    Except Raised (OpenedQuestion × ProductStore) :=
  match active with
  | some caseId => do
      let (released, read) ← releaseMentioned store reads asked caseId drawn.now
      require (released.command.cveId = none ∧ released.command.objectId = none)
        (.applicationError .lifecycleConflict
          "active investigation follow-up cannot rebind the session target")
      let (result, next) ← acceptFollowup read settings reads.toKnowledgeReads released record
        session.sessionId caseId drawn
      return (.accepted result, next)
  | none => do
      let bound ← bindSessionTarget asked session
      let (result, next) ← acceptNew store settings reads.toKnowledgeReads bound record
        session.sessionId drawn
      return (.accepted result, next)

/-- The first transaction, after the claim of the command. -/
def openClaimed (store : ProductStore) (settings : QuestionSettings) (reads : QuestionReads)
    (command : AskQuestionCommand) (record : Option ProductCommandRecordModel)
    (drawn : CommandDraw) : Except Raised (OpenedQuestion × ProductStore) := do
  let session ← store.sessions.resolve command.sessionId command.principal drawn.sessionId
  let asked := routeQuestion reads command session
  let latest ← store.sessions.latestInvestigationTurn command.sessionId command.principal
  let active ← activeSessionCase store.cases (latest.bind (·.investigationRef))
  if isDirectKind asked.kind then
    openDirect store settings reads asked record session active drawn
  else openInvestigating store settings reads asked record session active drawn

/-- The first transaction of `AskQuestionUseCase.execute`. -/
def openQuestion (store : ProductStore) (settings : QuestionSettings) (reads : QuestionReads)
    (command : AskQuestionCommand) (digest : String) (drawn : CommandDraw) :
    Except Raised (OpenedQuestion × ProductStore) := do
  let ((record, replay), commands) ← claimCommand store.commands command.principal
    "ask_question" command.idempotencyKey digest drawn.now
  if replay then do
    let payload ← fetch (record.bind (·.responsePayload)) (.baseException "AssertionError")
    return (.replayed payload, store)
  else openClaimed { store with commands } settings reads command record drawn

/-! ## Reasoning -/

def validationFailedTextChinese : String :=
  "目前还不能可靠回答这个问题。检索到的材料未能形成通过证据校验的结论。" ++
  "因此这次生成的描述不会作为事实呈现。可以补充原始通报或可信分析后继续提问。"

def validationFailedText : String :=
  "The retrieved material did not yield a conclusion that passed " ++
  "evidence validation. The generated description will not be presented " ++
  "as fact. Add an original notice or credible analysis and ask again."

/-- `unbound_target_message`. -/
def unboundTargetMessage (chinese ambiguous : Bool) : String :=
  match chinese, ambiguous with
  | true, true => "找到了多个可能相关的对象，现有证据无法确定你指的是哪一个。" ++
      "请补充事件名称、来源链接或 CVE 编号。"
  | true, false => "当前证据不足以确认这个问题，也没有找到可继续调查的对象。" ++
      "请提供更具体的事件名称、来源链接或 CVE 编号。"
  | false, true => "Several related objects were found, but the evidence does not identify " ++
      "which one to investigate. Please specify an event, source link, or CVE ID."
  | false, false => "The available evidence does not identify an investigation target for this " ++
      "question. Please provide a specific event name, source link, or CVE ID."

theorem validationFailedTextChinese_bounds : 1 ≤ validationFailedTextChinese.length ∧
    validationFailedTextChinese.length ≤ 2400 := by decide +kernel

theorem validationFailedText_bounds :
    1 ≤ validationFailedText.length ∧ validationFailedText.length ≤ 2400 := by decide +kernel

theorem unboundTargetMessage_bounds (chinese ambiguous : Bool) :
    1 ≤ (unboundTargetMessage chinese ambiguous).length ∧
      (unboundTargetMessage chinese ambiguous).length ≤ 2400 := by
  revert chinese ambiguous
  decide +kernel

def asksInChinese (question : String) : Bool := question.toList.any isChinese

def validationFailedParagraph (question : String) : DecisionReportParagraph :=
  if asksInChinese question then
    { text := validationFailedTextChinese, text_bounds := validationFailedTextChinese_bounds }
  else { text := validationFailedText, text_bounds := validationFailedText_bounds }

/-- The draft that stands in for one which the evidence gate has rejected. -/
def validationFailedDraft (state : InvestigationState) (question : String) :
    Except Raised DecisionDraft :=
  if named : isBlank state.caseId = false then
    .ok {
      caseId := state.caseId
      caseRevision := state.caseRevision
      unknowns := [question]
      answerPayload := [("status", .string "evidence_validation_failed")]
      reportParagraphs := [validationFailedParagraph question]
      stopReason := "evidence_validation_failed"
      modelPromptRevision := "decision-validation-fallback-v1"
      case_named := named
      stop_given := by decide
      stop_fits := by decide
      prompt_given := by decide }
  else .error (.valueError "DecisionDraft case_id cannot be empty")

/-- The draft that stands in for a continuation about nothing. -/
def unboundDraft (state : InvestigationState) (question : String) : Except Raised DecisionDraft :=
  let chinese := asksInChinese question
  let ambiguous := decide (state.targets ≠ [])
  if named : isBlank state.caseId = false then
    .ok {
      caseId := state.caseId
      caseRevision := state.caseRevision
      unknowns := [unboundTargetMessage chinese ambiguous]
      answerPayload := [("status", .string "insufficient_evidence")]
      reportParagraphs :=
        [{ text := unboundTargetMessage chinese ambiguous
           text_bounds := unboundTargetMessage_bounds chinese ambiguous }]
      stopReason := "no_bound_investigation_target"
      modelPromptRevision := "decision-model-v4"
      case_named := named
      stop_given := by decide
      stop_fits := by decide
      prompt_given := by decide }
  else .error (.valueError "DecisionDraft case_id cannot be empty")

/-- What the reasoning leaves: a decision, or a request to go on. -/
inductive Reasoned where
  | decided (decision : DecisionResult)
  | escalating (request : ContinuationRequest)

/-- An answer about a methodology recommends, and cites nothing. -/
def OnlyGuides (draft : DecisionDraft) : Prop :=
  draft.reportParagraphs ≠ [] ∧
    ∀ conclusion ∈ draft.conclusions,
      conclusion.type = .recommendation ∧ conclusion.evidenceRefs = []

instance onlyGuidesDecidable (draft : DecisionDraft) : Decidable (OnlyGuides draft) :=
  inferInstanceAs (Decidable (_ ∧ _))

def gateDraft (settings : QuestionSettings) (pending : PendingQuestion) (draft : DecisionDraft) :
    Except Raised DecisionResult := do
  require (pending.methodology = true → OnlyGuides draft)
    (.valueError "general methodology answer must contain only uncited guidance")
  DecisionService.decide settings.sha256 pending.context.state draft pending.context.sources

/-- The decision on a draft; one that the gate rejects is answered with a fallback. -/
def reasonDraft (settings : QuestionSettings) (pending : PendingQuestion) (draft : DecisionDraft) :
    Except Raised Reasoned :=
  match gateDraft settings pending draft with
  | .ok decision => .ok (.decided decision)
  | .error raised =>
      if isValueError raised then do
        let fallback ← validationFailedDraft pending.context.state pending.asked.command.question
        let decision ← DecisionService.decide settings.sha256 pending.context.state fallback
          pending.context.sources
        return .decided decision
      else .error raised

/-- A continuation about nothing is about the only target of the state. -/
def withOnlyTarget (state : InvestigationState) (request : ContinuationRequest) :
    ContinuationRequest :=
  if request.targetObjects = [] then
    match state.targets with
    | [target] =>
        { request with targetObjects := [target], targets_distinct := nodup_singleton target }
    | _ => request
  else request

def reasonContinuation (settings : QuestionSettings) (pending : PendingQuestion)
    (proposed : ContinuationRequest) : Except Raised Reasoned := do
  requestContinuation pending.context.state proposed
  let request := withOnlyTarget pending.context.state proposed
  if request.targetObjects = [] ∧ pending.asked.command.cveId = none ∧
      pending.asked.command.objectId = none then do
    let draft ← unboundDraft pending.context.state pending.asked.command.question
    let decision ← DecisionService.decide settings.sha256 pending.context.state draft
      pending.context.sources
    return .decided decision
  else return .escalating request

/-- The phase between the two transactions; `planned` is what the planner answers. -/
def reason (settings : QuestionSettings) (pending : PendingQuestion)
    (planned : Except Raised Proposal) : Except Raised Reasoned := do
  let proposal ← planned
  match proposal with
  | .draft draft => reasonDraft settings pending draft
  | .continuation request => reasonContinuation settings pending request

/-! ## The second transaction -/

/-- The end of the execution and of the run of a question. -/
structure EndQuestion where
  execution : ExecutionStatus
  run : TaskRunStatus
  (payloadRef key : String)
  resultRef : Option String := none
  stopReason : String

def endTransition (settings : QuestionSettings) (runId : String) (ending : EndQuestion) :
    TransitionTaskRun where
  runId := runId
  target := ending.run
  payloadRef := ending.payloadRef
  idempotencyKey := ending.key ++ ":" ++ runId
  streamName := settings.streamName
  producer := "product-question"
  resultRef := ending.resultRef
  stopReason := some ending.stopReason

/-- The execution is finished, and the run with it; `position` counts the events that the
transaction has drawn before. -/
def endQuestion (store : ProductStore) (settings : QuestionSettings) (runId : String)
    (ending : EndQuestion) (position : ℕ) (drawn : CommandDraw) : Except Raised ProductStore := do
  let executions ← store.executions.finish ("execution:" ++ runId) ending.execution
    ending.stopReason drawn.now
  moveRun { store with executions } (endTransition settings runId ending)
    (drawn.taskEventIds position) drawn.now

/-- The stop reason of a run whose reasoning has raised. -/
def failureReason : Raised → String
  | .timeoutError _ => "question_deadline_exceeded"
  | .modelResponseError (some 402) => "question_model_payment_required"
  | .applicationError .decisionValidationFailed _ => "question_decision_rejected"
  | .modelResponseError _ | .applicationError _ _ | .lookupError _ | .valueError _
  | .amountRejected _ _ | .runtimeError _ | .overflowError _ | .integrityError _
  | .budgetExceeded _ _ _ | .stateRevisionConflict _ | .statePatchRejected _
  | .evidenceNeedResolutionRejected _ | .capabilityDenied _ | .sandboxUnavailable _
  | .sourceSchemaChanged _ | .baseException _ => "question_reasoning_failed"

/-- What is raised after the failure has been committed. -/
def afterFailure : Raised → Raised
  | .timeoutError _ => .applicationError .deadlineExceeded
      "question reasoning exceeded the interactive time limit"
  | other => other

def failedRecord (responseRef : String) (record : ProductCommandRecordModel) :
    ProductCommandRecordModel :=
  { record with status := .failed, responseRef := some responseRef }

theorem failedRecord_identity (responseRef : String) (record : ProductCommandRecordModel) :
    (failedRecord responseRef record).identity = record.identity := rfl

def failCommand (records : CommandRecords) (record : Option ProductCommandRecordModel)
    (responseRef : String) : CommandRecords :=
  match record with
  | none => records
  | some claimed =>
      records.update claimed.identity (failedRecord responseRef)
        (failedRecord_identity responseRef)

def failedEnding (runId : String) (raised : Raised) : EndQuestion where
  execution := .failed
  run := .failed
  payloadRef := "task-run:" ++ runId
  key := "question-failed"
  stopReason := failureReason raised

/-- The transaction of `except Exception`. -/
def failQuestion (store : ProductStore) (settings : QuestionSettings) (pending : PendingQuestion)
    (raised : Raised) (drawn : CommandDraw) : Except Raised ProductStore := do
  let ended ← endQuestion store settings pending.runId (failedEnding pending.runId raised) 0 drawn
  return { ended with
    commands := failCommand ended.commands pending.record ("task-run:" ++ pending.runId) }

def completedEnding (decision : DecisionResult) : EndQuestion where
  execution := .completed
  run := .completed
  payloadRef := decision.decisionId
  key := "question-completed"
  resultRef := some decision.decisionId
  stopReason := decision.stopReason

def decidedTurn (pending : PendingQuestion) (decision : DecisionResult) : AppendTurn where
  sessionId := pending.sessionId
  principal := pending.asked.command.principal
  requestId := pending.asked.command.requestId
  question := pending.asked.command.question
  taskKind := pending.asked.kind.value
  targetObjectIds := pending.context.state.targets
  knowledgeRevision := pending.context.state.lastWorldRevision
  contextId := some ("context:" ++ pending.runId)
  decisionRef := some decision.decisionId
  investigationRef := none

def decidedResult (pending : PendingQuestion) (decision : DecisionResult) (turnIndex : ℕ) :
    QuestionResultView where
  requestId := pending.asked.command.requestId
  sessionId := pending.sessionId
  turnIndex := turnIndex
  mode := "completed"
  executionProfile := (questionProfile pending.asked.kind).value
  decision := some decision

/-- The transaction of a question that has been decided. -/
def completeQuestion (store : ProductStore) (settings : QuestionSettings)
    (pending : PendingQuestion) (decision : DecisionResult) (drawn : CommandDraw) :
    Except Raised (QuestionResultView × ProductStore) := do
  let (_, decisions) ← DecisionResultStore.persist settings.sha256 store.decisions decision
    drawn.now
  let ended ← endQuestion { store with decisions } settings pending.runId
    (completedEnding decision) 0 drawn
  let (turn, sessions) ← ended.sessions.appendTurn (decidedTurn pending decision) drawn.turnId
    drawn.now
  let result := decidedResult pending decision turn.turnIndex
  return (result, { ended with
    sessions
    commands := completeCommand ended.commands pending.record
      (turnRef pending.sessionId turn.turnIndex) (some (settings.dumpResult result)) })

/-- `_continuation_investigation_target`. -/
def continuationTarget (command : AskQuestionCommand) (targets : List String) : Option String :=
  if command.cveId.isSome || command.objectId.isSome then none
  else
    match stableUnique targets with
    | [target] => some target
    | _ => none

/-- A continuation about nothing, which blocks the run. -/
def LacksTarget (pending : PendingQuestion) (request : ContinuationRequest) : Prop :=
  pending.asked.command.cveId = none ∧ pending.asked.command.objectId = none ∧
    continuationTarget pending.asked.command request.targetObjects = none ∧
    request.targetObjects = []

instance lacksTargetDecidable (pending : PendingQuestion) (request : ContinuationRequest) :
    Decidable (LacksTarget pending request) :=
  inferInstanceAs (Decidable (_ ∧ _))

def blockedEnding (runId : String) : EndQuestion where
  execution := .blocked
  run := .blocked
  payloadRef := "task-run:" ++ runId
  key := "question-blocked"
  stopReason := "continuation_requires_bound_target"

/-- The answer of the question is retrieved and not confirmed: it is to be verified. -/
def verifiesRetrieved (pending : PendingQuestion) : Bool :=
  pending.context.caseRef.isNone && decide (pending.asked.kind = .retrieve) &&
    decide (pending.context.state.tentative ≠ []) && decide (pending.context.state.confirmed = [])

def proposedEscalation (pending : PendingQuestion) (request : ContinuationRequest) : Escalation :=
  let target := continuationTarget pending.asked.command request.targetObjects
  let targets := if 1 < request.targetObjects.length then request.targetObjects else []
  if verifiesRetrieved pending then
    { question := pending.asked.command.question, purpose := "verify_retrieved_answer"
      requiredSourceRoles := pending.asked.command.requiredSourceRoles
      priority := request.priority, target, targets }
  else
    { question := request.propositionOrQuestion, purpose := request.purpose
      requiredSourceRoles := request.evidenceContract.requiredSourceRoles
      priority := request.priority, target, targets }

/-- The investigation that takes the question over. -/
def escalate (store : ProductStore) (settings : QuestionSettings) (reads : KnowledgeReads)
    (pending : PendingQuestion) (request : ContinuationRequest) (drawn : CommandDraw) :
    Except Raised (InvestigationView × ProductStore) :=
  match pending.context.caseRef with
  | some caseId => continueFromQuestion store settings.toLaunchSettings reads pending.asked
      (proposedEscalation pending request) caseId drawn
  | none => startFromQuestion store settings.toLaunchSettings reads pending.asked
      (proposedEscalation pending request) drawn

def escalatedEnding (caseId : String) : EndQuestion where
  execution := .completed
  run := .completed
  payloadRef := "case:" ++ caseId
  key := "question-escalated"
  resultRef := some ("case:" ++ caseId)
  stopReason := "escalated_to_investigation"

def escalateQuestion (store : ProductStore) (settings : QuestionSettings) (reads : KnowledgeReads)
    (pending : PendingQuestion) (request : ContinuationRequest) (drawn : CommandDraw) :
    Except Raised (QuestionResultView × ProductStore) := do
  let (view, escalated) ← escalate store settings reads pending request drawn
  -- the launch of a controller draws two events
  let ended ← endQuestion escalated settings pending.runId (escalatedEnding view.caseId) 2 drawn
  recordAccepted ended settings pending.asked pending.record pending.sessionId view
    pending.context.state.lastWorldRevision (some ("context:" ++ pending.runId)) drawn

abbrev QuestionAnswer := Except Raised QuestionResultView

/-- The transaction after the reasoning of `AskQuestionUseCase.execute`, with what the
command answers once it is committed.  An exception outside `Exception` reaches no
handler. -/
def settleQuestion (store : ProductStore) (settings : QuestionSettings) (reads : KnowledgeReads)
    (pending : PendingQuestion) (planned : Except Raised Proposal) (drawn : CommandDraw) :
    Except Raised (QuestionAnswer × ProductStore) :=
  match reason settings pending planned with
  | .error (.baseException name) => .error (.baseException name)
  | .error raised => do
      let failed ← failQuestion store settings pending raised drawn
      return (.error (afterFailure raised), failed)
  | .ok (.decided decision) => do
      let (result, next) ← completeQuestion store settings pending decision drawn
      return (.ok result, next)
  | .ok (.escalating request) =>
      if LacksTarget pending request then do
        let blocked ← endQuestion store settings pending.runId (blockedEnding pending.runId) 0 drawn
        return (.error (.applicationError .lifecycleConflict
          "question continuation requires a bound target before investigation escalation"), blocked)
      else do
        let (result, next) ← escalateQuestion store settings reads pending request drawn
        return (.ok result, next)

end SecFusion.Application
