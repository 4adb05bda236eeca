import SecFusion.Application.DecisionRuntime

/-!
# Finalizing an investigation

The model of `apps/application/commands/finalize_investigation.py`.  A finished episode
of an investigation is followed by a decision about its case.  The first transaction
reads the case and opens the run of the decision (`openFinalization`); the planner then
answers outside of any transaction; the second commits what it proposes, or a report of
what is missing, and finishes the run (`settleFinalization`).  Whatever is raised after
the first transaction makes a third fail the run (`failFinalization`).
-/

namespace SecFusion.Application

open Foundations Intelligence Execution TaskRuntime Investigation Reasoning

/-! ## Exceptions -/

/-- `except ValueError` catches the exception. -/
def isValueError : Raised → Bool
  | .valueError _ | .amountRejected _ _ | .statePatchRejected _
  | .evidenceNeedResolutionRejected _ => true
  | .lookupError _ | .runtimeError _ | .overflowError _ | .integrityError _
  | .budgetExceeded _ _ _ | .stateRevisionConflict _ | .capabilityDenied _
  | .sandboxUnavailable _ | .sourceSchemaChanged _ | .timeoutError _ | .modelResponseError _
  | .applicationError _ _ | .baseException _ => false

/-- The name of the class of an `ApplicationError`. -/
def applicationClassName : ApplicationErrorCode → String
  | .resourceNotFound => "ResourceNotFoundError"
  | .revisionConflict => "RevisionConflictError"
  | .lifecycleConflict => "LifecycleConflictError"
  | .permissionDenied => "PermissionDeniedError"
  | .dependencyUnavailable => "DependencyUnavailableError"
  | .deadlineExceeded => "DeadlineExceededError"
  | .decisionValidationFailed => "DecisionValidationError"
  | .idempotencyConflict => "IdempotencyConflictError"

/-- `type(exc).__name__`. -/
def className : Raised → String
  | .valueError _ | .amountRejected _ _ => "ValueError"
  | .statePatchRejected _ => "StatePatchRejected"
  | .evidenceNeedResolutionRejected _ => "EvidenceNeedResolutionRejected"
  | .lookupError _ => "LookupError"
  | .runtimeError _ => "RuntimeError"
  | .overflowError _ => "OverflowError"
  | .integrityError _ => "IntegrityError"
  | .budgetExceeded _ _ _ => "BudgetExceeded"
  | .stateRevisionConflict _ => "StateRevisionConflict"
  | .capabilityDenied _ => "CapabilityDenied"
  | .sandboxUnavailable _ => "SandboxUnavailable"
  | .sourceSchemaChanged _ => "SourceSchemaChanged"
  | .timeoutError _ => "TimeoutError"
  | .modelResponseError _ => "ModelProviderResponseError"
  | .applicationError code _ => applicationClassName code
  | .baseException name => name

/-! ## The reports that stand in for the planner -/

/-- A character of the main block of Chinese characters. -/
def isChinese (c : Char) : Bool := '\u4e00' ≤ c ∧ c ≤ '\u9fff'

/-- The goal of a case is written in Chinese. -/
def inChinese (state : InvestigationState) : Bool := state.goal.toList.any isChinese

def insufficientTextChinese : String :=
  "目前还不能可靠回答这个问题。现有材料尚未形成足以支持结论的已核验证据。" ++
  "继续描述具体事件经过、攻击入口或应对措施会超出证据范围。" ++
  "补充原始通报或可信的分析材料后可沿用这段会话继续调查。"

def insufficientText : String :=
  "The available material does not yet support a reliable answer. " ++
  "No verified evidence has been established for the requested conclusion, " ++
  "so describing specific events, entry points, or responses would go beyond " ++
  "the evidence. Add an original incident notice or a credible analysis " ++
  "to continue this investigation."

theorem insufficientText_bounds : 1 ≤ insufficientText.length ∧ insufficientText.length ≤ 2400 := by
  decide +kernel

theorem insufficientTextChinese_bounds :
    1 ≤ insufficientTextChinese.length ∧ insufficientTextChinese.length ≤ 2400 := by
  decide +kernel

def insufficientParagraph (state : InvestigationState) : DecisionReportParagraph :=
  if inChinese state then
    { text := insufficientTextChinese, text_bounds := insufficientTextChinese_bounds }
  else { text := insufficientText, text_bounds := insufficientText_bounds }

/-- `_insufficient_evidence_report`. -/
def insufficientEvidenceReport (state : InvestigationState) : Except Raised DecisionDraft :=
  if named : isBlank state.caseId = false then
    .ok {
      caseId := state.caseId
      caseRevision := state.caseRevision
      unknowns := [state.goal]
      answerPayload := [("status", .string "insufficient_evidence")]
      reportParagraphs := [insufficientParagraph state]
      stopReason := "evidence_insufficient"
      modelPromptRevision := "decision-insufficient-v1"
      case_named := named
      stop_given := by decide
      stop_fits := by decide
      prompt_given := by decide }
  else .error (.valueError "DecisionDraft case_id cannot be empty")

/-- `list(dict.fromkeys(texts))`. -/
def firstOccurrences (texts : List String) : List String := texts.reverse.dedup.reverse

/-- `text.rstrip(characters)`. -/
def stripRight (characters : List Char) (text : String) : String :=
  ofList (text.toList.rdropWhile (· ∈ characters))

/-- `text[:length]`. -/
def takeText (length : ℕ) (text : String) : String := ofList (text.toList.take length)

/-- The conclusion that a confirmed item is turned into. -/
def factConclusion (item : InvestigationStateItem) : Except Raised DecisionConclusion :=
  if stated : isBlank item.proposition = false then
    if cited : item.evidenceRefs ≠ [] then
      .ok { statement := item.proposition, type := .fact, evidenceRefs := item.evidenceRefs
            statement_nonblank := stated, fact_cites := fun _ => cited
            inference_cites := fun _ => .inl cited }
    else .error (.valueError "fact conclusion requires evidence_refs")
  else .error (.valueError "DecisionConclusion statement cannot be empty")

/-- The three confirmed items that were updated last. -/
def latestConfirmed (state : InvestigationState) : List InvestigationStateItem :=
  (state.confirmed.insertionSort fun first second =>
    second.updatedRevision ≤ first.updatedRevision).take 3

/-- What a partial report says is unknown. -/
def partialUnknowns (state : InvestigationState) (gap : String) : List String :=
  match firstOccurrences (state.unknowns.map (·.proposition) ++ if gap = "" then [] else [gap]) with
  | [] => [state.goal]
  | unknown :: rest => unknown :: rest

def knownTextChinese (confirmed : List InvestigationStateItem) : String :=
  "现有证据能够确认以下事实: " ++
  intercalate "；" (confirmed.map fun item => stripRight ['。', '；'] item.proposition) ++ "。"

def knownText (confirmed : List InvestigationStateItem) : String :=
  "The available evidence confirms the following: " ++
  intercalate "; " (confirmed.map fun item => stripRight ['.', ' ', ';'] item.proposition) ++
  "."

def boundaryTextChinese (unknowns : List String) : String :=
  "这次调查尚未完整回答你的问题。以下内容仍需核实：" ++
  intercalate "；" (unknowns.map (stripRight ['。', '；', '？'])) ++
  "。下面仅说明已有证据支持的部分，不能据此认定其他风险或冲突不存在。"

def boundaryText (unknowns : List String) : String :=
  "This investigation has not yet fully answered your question. " ++
  "The following remains unverified: " ++ intercalate "; " unknowns ++ ". " ++
  "The available findings below do not establish the absence of other risks or conflicts."

/-- The beginning of a text that is not empty fits a paragraph. -/
theorem takeText_bounds {text : String} (c : Char) {rest : List Char}
    (begins : text.toList = c :: rest) :
    1 ≤ (takeText 2399 text).length ∧ (takeText 2399 text).length ≤ 2400 := by
  unfold takeText
  rw [String.length_ofList, List.length_take, begins, List.length_cons]
  omega

/-- A paragraph that says `text`, cut to what a paragraph may hold. -/
def cutParagraph (text : String) (evidenceRefs : List String) (given : text ≠ "") :
    DecisionReportParagraph where
  text := takeText 2399 text
  evidenceRefs := evidenceRefs
  text_bounds := by
    cases begins : text.toList with
    | nil => exact absurd (toList_inj.1 begins) given
    | cons c rest => exact takeText_bounds c begins

theorem append_ne_empty {head tail : String} (given : head ≠ "") : head ++ tail ≠ "" := by
  intro empty
  have lists := congrArg String.toList empty
  rw [toList_append, String.toList_empty, append_eq_nil_iff] at lists
  exact given (toList_inj.1 (lists.1.trans String.toList_empty.symm))

theorem knownTextChinese_ne (confirmed : List InvestigationStateItem) :
    knownTextChinese confirmed ≠ "" :=
  append_ne_empty (append_ne_empty (by decide))

theorem knownText_ne (confirmed : List InvestigationStateItem) : knownText confirmed ≠ "" :=
  append_ne_empty (append_ne_empty (by decide))

theorem boundaryTextChinese_ne (unknowns : List String) : boundaryTextChinese unknowns ≠ "" :=
  append_ne_empty (append_ne_empty (by decide))

theorem boundaryText_ne (unknowns : List String) : boundaryText unknowns ≠ "" :=
  append_ne_empty (append_ne_empty (append_ne_empty (append_ne_empty (by decide))))

/-- The paragraphs of a partial report: what is missing, and what is known. -/
def partialParagraphs (state : InvestigationState) (unknowns : List String) :
    List DecisionReportParagraph :=
  let confirmed := latestConfirmed state
  let evidenceRefs := firstOccurrences (confirmed.flatMap (·.evidenceRefs))
  if inChinese state then
    [ cutParagraph (boundaryTextChinese unknowns) [] (boundaryTextChinese_ne unknowns),
      cutParagraph (knownTextChinese confirmed) evidenceRefs (knownTextChinese_ne confirmed) ]
  else
    [ cutParagraph (boundaryText unknowns) [] (boundaryText_ne unknowns),
      cutParagraph (knownText confirmed) evidenceRefs (knownText_ne confirmed) ]

/-- `_partial_evidence_report`. -/
def partialEvidenceReport (state : InvestigationState) (gap : String) :
    Except Raised DecisionDraft := do
  let conclusions ← (latestConfirmed state).mapM factConclusion
  let unknowns := partialUnknowns state gap
  if named : isBlank state.caseId = false then
    return {
      caseId := state.caseId
      caseRevision := state.caseRevision
      conclusions
      unknowns
      answerPayload := [("status", .string "partial_evidence")]
      reportParagraphs := partialParagraphs state unknowns
      stopReason := "partial_evidence"
      modelPromptRevision := "decision-partial-fallback-v2"
      case_named := named
      stop_given := by decide
      stop_fits := by decide
      prompt_given := by decide }
  else .error (.valueError "DecisionDraft case_id cannot be empty")

/-! ## The first transaction -/

/-- The evidence that a citation names: the joined rows of a link and its observation. -/
structure CitedEvidence where
  (sourceId externalObjectId : String)
  externalRevision : Option String
  locator : JsonObject

/-- The source of a citation, as a text. -/
def CitedEvidence.sourceRef (evidence : CitedEvidence) : String :=
  let source := "source:" ++ evidence.sourceId ++ ":" ++ evidence.externalObjectId
  match evidence.externalRevision with
  | some revision => if revision = "" then source else source ++ "@" ++ revision
  | none => source

/-- `decision_citation_sources`; `cited` looks a link up by its identifier. -/
def decisionCitationSources (cited : String → Option CitedEvidence) (state : InvestigationState) :
    List CitationSource :=
  (sortedSet (evidenceOf (stateItems state))).filterMap fun ref =>
    (cited (Text.removeHead "evidence:" ref)).map fun evidence =>
      { evidenceRef := ref, sourceRef := some evidence.sourceRef, locator := evidence.locator }

/-- The run of the decision after an episode. -/
def decisionRunId (parentRunId : String) : String := stableId ("case-decision:" ++ parentRunId)

def finalizeSurface : String := "product-investigation-finalize"

/-- What the first transaction leaves in the memory of the command. -/
structure Episode where
  (parentRunId principal : String)
  state : InvestigationState
  incomplete : Bool
  sources : List CitationSource
  executionId : String
  requestId : Option String

/-- How the first transaction ends. -/
inductive OpenedFinalization where
  | returned (resultRef : Option String)
  | deciding (episode : Episode)

def isUserOwned (contract : TaskContract) : Bool :=
  (afterHead? "user:" contract.principal).isSome

/-- The run of the decision, opened if it is not there, with its execution. -/
def openDecisionRun (store : ProductStore) (settings : ProductSettings) (request : OpenDecision)
    (drawn : Drawn) : Except Raised (String × ProductStore) :=
  match store.tasks.runs.get? request.runId with
  | some previous => .ok (previous.executionEnvelopeRef, store)
  | none => do
      let opened ← openCaseDecisionExecution store settings request drawn
      return ("execution:" ++ request.runId, opened)

/-- The result of the run of the decision, if it has ended. -/
def endedDecision? (store : ProductStore) (parentRunId : String) : Option (Option String) :=
  match store.tasks.runs.get? (decisionRunId parentRunId) with
  | some previous => if previous.status.isTerminal then some previous.resultRef else none
  | none => none

def episodeDecision (state : InvestigationState) (principal parentRunId : String) :
    OpenDecision where
  state := state
  principal := principal
  requestId := parentRunId
  surface := finalizeSurface
  runId := decisionRunId parentRunId
  predecessorRunId := parentRunId

/-- The rest of the first transaction, for the case of a run that a user owns. -/
def openEpisode (store : ProductStore) (settings : ProductSettings)
    (cited : String → Option CitedEvidence) (parent : TaskRunModel) (contract : TaskContract)
    (caseId : String) (drawn : Drawn) : Except Raised (OpenedFinalization × ProductStore) := do
  let (state, cases) ← getState store.cases caseId drawn.now
  let store := { store with cases }
  match endedDecision? store parent.runId with
  | some resultRef => return (.returned resultRef, store)
  | none => do
      let (executionId, opened) ← openDecisionRun store settings
        (episodeDecision state contract.principal parent.runId) drawn
      let _ ← getExecution opened.executions.runs executionId
      let parentEnvelope ← getExecution opened.executions.runs parent.executionEnvelopeRef
      return (.deciding {
        parentRunId := parent.runId
        principal := contract.principal
        state
        incomplete := decide (parent.status = .blocked ∨ state.unknowns ≠ [] ∨
          state.evidenceNeedIds ≠ [])
        sources := decisionCitationSources cited state
        executionId
        requestId := textField? parentEnvelope.traceContext "request_id" }, opened)

/-- The first transaction of `_execute_exclusively`. -/
def openFinalization (store : ProductStore) (settings : ProductSettings) (parentRunId : String)
    (cited : String → Option CitedEvidence) (drawn : Drawn) :
    Except Raised (OpenedFinalization × ProductStore) := do
  let parent ← getRun store.tasks parentRunId
  match parent.caseId with
  | none => return (.returned none, store)
  | some caseId =>
      if parent.status ≠ .completed ∧ parent.status ≠ .blocked then return (.returned none, store)
      else do
        let contract ← getTaskContractForRun store.tasks parentRunId
        if isUserOwned contract then
          openEpisode store settings cited parent contract caseId drawn
        else return (.returned none, store)

/-! ## The second transaction -/

/-- What is put before the case: the planner is not asked about a case of which nothing
is confirmed, and something is missing. -/
def triedProposal (episode : Episode) (proposal : Proposal) : Except Raised Proposal :=
  if episode.incomplete = true ∧ episode.state.confirmed = [] then do
    let report ← insufficientEvidenceReport episode.state
    return .draft report
  else .ok proposal

/-- How far the inner `try` has come: what it has answered, the state that the variable
`state` holds, and the session. -/
structure Tried where
  answer : Except Raised DecisionOutcome
  state : InvestigationState
  incomplete : Bool
  store : ProductStore

/-- The partial report about the state after a need has been opened. -/
def tryPartialReport (store : ProductStore) (settings : ProductSettings) (episode : Episode)
    (gap : String) (drawn : Drawn) : Tried :=
  match getState store.cases episode.state.caseId drawn.now with
  | .error raised => ⟨.error raised, episode.state, episode.incomplete, store⟩
  | .ok (state, cases) =>
      let loaded := { store with cases }
      match partialEvidenceReport state gap with
      | .error raised => ⟨.error raised, state, episode.incomplete, loaded⟩
      | .ok report =>
          let (answer, last) := finalizeDraft loaded settings state report episode.sources drawn
          ⟨answer, state, true, last⟩

/-- The inner `try`. -/
def tryProposal (store : ProductStore) (settings : ProductSettings) (knowledge : KnowledgeStore)
    (episode : Episode) (drawn : Drawn) : Proposal → Tried
  | .draft draft =>
      let (answer, next) := finalizeDraft store settings episode.state draft episode.sources drawn
      ⟨answer, episode.state, episode.incomplete, next⟩
  | .continuation request =>
      match commitContinuation store settings knowledge episode.state request drawn with
      | (.error raised, next) => ⟨.error raised, episode.state, episode.incomplete, next⟩
      | (.ok _, next) =>
          tryPartialReport next settings episode request.propositionOrQuestion drawn

/-- `except ValueError`: the case gets a report of what is missing instead. -/
def reportRejected (settings : ProductSettings) (episode : Episode) (drawn : Drawn)
    (tried : Tried) : Except Raised (DecisionOutcome × Bool × ProductStore) :=
  match tried.answer with
  | .ok outcome => .ok (outcome, tried.incomplete, tried.store)
  | .error raised =>
      if isValueError raised then do
        let report ← insufficientEvidenceReport tried.state
        let (answer, next) := finalizeDraft tried.store settings tried.state report
          episode.sources drawn
        let outcome ← answer
        return (outcome, true, next)
      else .error raised

/-- The turn of the chat is bound to the decision, if a request has started the episode. -/
def bindTurn (store : ProductStore) (episode : Episode) (decisionId : String) :
    Except Raised ProductStore :=
  match episode.requestId with
  | none => .ok store
  | some requestId => do
      let (_, sessions) ← store.sessions.bindInvestigationDecision episode.principal requestId
        episode.state.caseId decisionId
      return { store with sessions }

/-- The case waits on, or it is resolved. -/
def settleCase (store : ProductStore) (caseId : String) : (incomplete : Bool) →
    Except Raised ProductStore
  | true => do
      let (_, cases) ← waitCase store.cases caseId
      return { store with cases }
  | false => do
      let (_, cases) ← resolveCase store.cases caseId
      return { store with cases }

def finishDecision (episode : Episode) (outcome : DecisionOutcome) : FinishDecision where
  runId := decisionRunId episode.parentRunId
  executionId := episode.executionId
  resultRef := outcome.decision.decisionId
  stopReason := outcome.decision.stopReason
  failed := false
  surface := finalizeSurface

/-- What the second transaction answers: the result of a run that has ended before, or
the decision, and whether the episode has left something open. -/
inductive SettledFinalization where
  | returned (resultRef : Option String)
  | decided (outcome : DecisionOutcome) (incomplete : Bool)

/-- The second transaction, when the run of the decision has not ended. -/
def settleEpisode (store : ProductStore) (settings : ProductSettings) (knowledge : KnowledgeStore)
    (episode : Episode) (proposal : Proposal) (drawn : Drawn) :
    Except Raised (SettledFinalization × ProductStore) := do
  let (outcome, gaps, committed) ← reportRejected settings episode drawn
    (tryProposal store settings knowledge episode drawn proposal)
  let incomplete := gaps || decide (outcome.decision.unknowns ≠ [])
  let bound ← bindTurn committed episode outcome.decision.decisionId
  let settled ← settleCase bound episode.state.caseId incomplete
  let finished ← finishCaseDecisionExecution settled settings (finishDecision episode outcome) drawn
  return (.decided outcome incomplete, finished)

/-- The second transaction of `_execute_exclusively`, once the planner has answered. -/
def settleFinalization (store : ProductStore) (settings : ProductSettings)
    (knowledge : KnowledgeStore) (episode : Episode) (proposal : Proposal) (drawn : Drawn) :
    Except Raised (SettledFinalization × ProductStore) := do
  let tried ← triedProposal episode proposal
  let current ← getRun store.tasks (decisionRunId episode.parentRunId)
  if current.status.isTerminal then return (.returned current.resultRef, store)
  else settleEpisode store settings knowledge episode tried drawn

/-! ## The third transaction -/

def failedDecision (episode : Episode) (raised : Raised) : FinishDecision where
  runId := decisionRunId episode.parentRunId
  executionId := episode.executionId
  resultRef := "decision-error:" ++ className raised
  stopReason := "decision_runtime_error:" ++ className raised
  failed := true
  surface := finalizeSurface

/-- The transaction of the outer `except Exception`. -/
def failFinalization (store : ProductStore) (settings : ProductSettings) (episode : Episode)
    (raised : Raised) (drawn : Drawn) : Except Raised ProductStore := do
  let current ← getRun store.tasks (decisionRunId episode.parentRunId)
  if current.status.isTerminal then return store
  else finishCaseDecisionExecution store settings (failedDecision episode raised) drawn

end SecFusion.Application
