import SecFusion.Raised
import SecFusion.Foundations.Table

/-!
# Question sessions

The model of `apps/application/question_sessions.py`: the tables of sessions and turns,
the turn that a question appends to its session, and the decision that the end of an
investigation pins to the turn that started it.
-/

namespace SecFusion.Application

open Foundations

/-! ## Rows -/

structure QuestionSessionModel where
  (sessionId principal : String)
  stateCarryPolicy : String := "targets_and_outcomes_v1"
  (createdAt updatedAt : ℤ)

/-- One row of `question_session_turns`, and the `QuestionSessionTurn` it is viewed as. -/
structure QuestionSessionTurnModel where
  (turnId sessionId : String)
  turnIndex : ℕ
  (requestId question taskKind : String)
  targetObjectIds : List String
  knowledgeRevision : Option ℕ
  (contextId decisionRef investigationRef : Option String)
  createdAt : ℤ

structure SessionStore where
  sessions : Table QuestionSessionModel String (·.sessionId)
  turns : Table QuestionSessionTurnModel String (·.turnId)

def SessionStore.empty : SessionStore := ⟨.empty, .empty⟩

/-! ## Appending a turn -/

/-- The arguments of `append_turn`. -/
structure AppendTurn where
  (sessionId principal requestId question taskKind : String)
  targetObjectIds : List String
  knowledgeRevision : Option ℕ
  (contextId decisionRef investigationRef : Option String)

namespace SessionStore

/-- `_require_principal`. -/
def requirePrincipal (model : QuestionSessionModel) (principal : String) : Except Raised Unit :=
  require (model.principal = principal)
    (.applicationError .permissionDenied "question session belongs to another principal")

/-- The first part of `append_turn`: the session is there and the principal's, or it is
opened. -/
def openSession (store : SessionStore) (sessionId principal : String) (now : ℤ) :
    Except Raised SessionStore :=
  match store.sessions.get? sessionId with
  | some model => do
      requirePrincipal model principal
      return store
  | none => do
      let sessions ← fetch
        (store.sessions.insert? { sessionId, principal, createdAt := now, updatedAt := now })
        (.integrityError "question_sessions_pkey")
      return { store with sessions }

def turnsOf (store : SessionStore) (sessionId : String) : List QuestionSessionTurnModel :=
  store.turns.select fun turn => turn.sessionId = sessionId

def turnOfRequest? (store : SessionStore) (sessionId requestId : String) :
    Option QuestionSessionTurnModel :=
  (store.turnsOf sessionId).find? fun turn => turn.requestId = requestId

/-- `max(turn_index)` of a session, nought when it has no turn. -/
def latestIndex (store : SessionStore) (sessionId : String) : ℕ :=
  ((store.turnsOf sessionId).map (·.turnIndex)).foldl max 0

/-- The session after a turn has been appended. -/
def touched (now : ℤ) (model : QuestionSessionModel) : QuestionSessionModel :=
  { model with updatedAt := now }

theorem touched_sessionId (now : ℤ) (model : QuestionSessionModel) :
    (touched now model).sessionId = model.sessionId := rfl

def newTurn (request : AppendTurn) (turnId : String) (latest : ℕ) (now : ℤ) :
    QuestionSessionTurnModel where
  turnId := turnId
  sessionId := request.sessionId
  turnIndex := latest + 1
  requestId := request.requestId
  question := request.question
  taskKind := request.taskKind
  targetObjectIds := request.targetObjectIds.reverse.dedup.reverse
  knowledgeRevision := request.knowledgeRevision
  contextId := request.contextId
  decisionRef := request.decisionRef
  investigationRef := request.investigationRef
  createdAt := now

/-- `QuestionSessionStore.append_turn`; `turnId` is the identifier it draws. -/
def appendTurn (store : SessionStore) (request : AppendTurn) (turnId : String) (now : ℤ) :
    Except Raised (QuestionSessionTurnModel × SessionStore) := do
  require (request.decisionRef.isNone ≠ request.investigationRef.isNone)
    (.valueError "question session turn requires exactly one outcome ref")
  let opened ← store.openSession request.sessionId request.principal now
  match opened.turnOfRequest? request.sessionId request.requestId with
  | some existing => return (existing, opened)
  | none => do
      let turn := newTurn request turnId (opened.latestIndex request.sessionId) now
      let turns ← fetch (opened.turns.insert? turn) (.integrityError "question_session_turns_pkey")
      return (turn, { sessions := opened.sessions.update request.sessionId (touched now)
                        (touched_sessionId now), turns })

/-! ## Binding a decision -/

/-- The turn of a principal that a request made and that started the case. -/
def investigationTurn? (store : SessionStore) (principal requestId caseId : String) :
    Option QuestionSessionTurnModel :=
  store.turns.rows.find? fun turn =>
    (store.sessions.get? turn.sessionId).map (·.principal) = some principal ∧
      turn.requestId = requestId ∧ turn.investigationRef = some ("case:" ++ caseId)

def bound (decisionId : String) (turn : QuestionSessionTurnModel) : QuestionSessionTurnModel :=
  { turn with decisionRef := some decisionId }

theorem bound_turnId (decisionId : String) (turn : QuestionSessionTurnModel) :
    (bound decisionId turn).turnId = turn.turnId := rfl

/-- `QuestionSessionStore.bind_investigation_decision`. -/
def bindInvestigationDecision (store : SessionStore)
    (principal requestId caseId decisionId : String) : Except Raised (Bool × SessionStore) :=
  match store.investigationTurn? principal requestId caseId with
  | none => .ok (false, store)
  | some turn => do
      require (∀ other ∈ turn.decisionRef, other = decisionId)
        (.valueError "investigation turn already bound to another decision")
      return (true, { store with
        turns := store.turns.update turn.turnId (bound decisionId) (bound_turnId decisionId) })

/-- The turn that started the case is bound to no other decision. -/
def Bindable (store : SessionStore) (principal requestId caseId decisionId : String) : Prop :=
  ∀ turn ∈ store.investigationTurn? principal requestId caseId, ∀ other ∈ turn.decisionRef,
    other = decisionId

/-- **A decision can be bound** when the turn is bound to no other. -/
theorem bind_of_bindable {store : SessionStore} {principal requestId caseId decisionId : String}
    (bindable : store.Bindable principal requestId caseId decisionId) :
    ∃ answer next, store.bindInvestigationDecision principal requestId caseId decisionId =
      .ok (answer, next) := by
  unfold bindInvestigationDecision
  cases present : store.investigationTurn? principal requestId caseId with
  | none => exact ⟨_, _, rfl⟩
  | some turn =>
      dsimp only
      rw [require_of (bindable turn present)]
      exact ⟨_, _, rfl⟩

end SessionStore

end SecFusion.Application
