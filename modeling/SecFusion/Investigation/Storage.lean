import SecFusion.Investigation.Contracts
import SecFusion.Foundations.Dict
import SecFusion.Foundations.Table

/-!
# The tables of an investigation

The rows of `packages/investigation/storage/models.py` that the state of a case
is made of, the store that holds them, and the queries of the state service with
their orderings.

`append_event` is the only writer of the log: it allocates the next revision of
the case and moves the case to it.  The session keeps the row of a case as an
object that is changed in place; here the row is read back from the store.
-/

namespace SecFusion.Investigation

open Foundations

/-! ## Rows -/

structure InvestigationCaseModel where
  (caseId taskSignature : String)
  targetObjectIds : List String
  goal : String
  initialKnowledgeRevision : Option ℕ
  status : CaseStatus
  currentRevision : ℕ
  createdAt : ℤ
  closedAt : Option ℤ := none

/-- One row of `case_state_events`, and the `CaseStateEvent` it is viewed as. -/
structure CaseStateEventModel where
  (eventId caseId : String)
  (caseRevision baseCaseRevision : ℕ)
  eventType : CaseStateEventType
  patchId : Option String
  operationIndex : Option ℕ
  (proposition targetRef : Option String)
  evidenceRefs : List String
  (writer reasonCode : String)
  payload : EventPayload
  createdAt : ℤ
  deriving DecidableEq

structure EvidenceNeedModel where
  (needId caseId : String)
  derivedFromEnrichmentRequirement : Option String
  (propositionOrQuestion purpose : String)
  targetObjects : List String
  evidenceContract : EvidenceNeedContract
  (preferredSourceRoles rejectedEvidencePatterns : List String)
  (freshnessRequirement completionPredicate : JsonObject)
  priority : ℤ
  status : EvidenceNeedStatus
  resolutionEvidenceRefs : List String
  (openedRevision updatedRevision : ℕ)
  (openedAt updatedAt : ℤ)

/-- One row of `perception_events`. -/
structure PerceptionEventModel where
  (perceptionEventId caseId taskRunId requestId : String)
  needId : Option String
  (requestJson planJson : JsonObject)
  perceptRef : String
  (evidenceRefs observationRefs : List String)
  cost : JsonObject
  worldRevision : ℕ
  status : String
  failureClass : Option String
  (startedAt finishedAt : ℤ)

/-- One row of `investigation_state_current`, and the `InvestigationState` it is
viewed as. -/
abbrev InvestigationStateCurrentModel := InvestigationState

/-! ## The store -/

structure CaseStore where
  cases : Table InvestigationCaseModel String (·.caseId)
  events : Table CaseStateEventModel String (·.eventId)
  needs : Table EvidenceNeedModel String (·.needId)
  perceptions : Table PerceptionEventModel String (·.perceptionEventId)
  currents : Table InvestigationStateCurrentModel String (·.caseId)

namespace CaseStore

def empty : CaseStore := ⟨.empty, .empty, .empty, .empty, .empty⟩

def eventsOf (store : CaseStore) (caseId : String) : List CaseStateEventModel :=
  store.events.select fun event => event.caseId = caseId

/-- The log of a case, `order_by(case_revision)`. -/
def orderedEvents (store : CaseStore) (caseId : String) : List CaseStateEventModel :=
  (store.eventsOf caseId).insertionSort fun first second =>
    first.caseRevision ≤ second.caseRevision

def needsOf (store : CaseStore) (caseId : String) : List EvidenceNeedModel :=
  store.needs.select fun need => need.caseId = caseId

def perceptionsOf (store : CaseStore) (caseId : String) : List PerceptionEventModel :=
  store.perceptions.select fun perception => perception.caseId = caseId

def updateCase (store : CaseStore) (caseId : String)
    (rewrite : InvestigationCaseModel → InvestigationCaseModel)
    (keeps : ∀ row, (rewrite row).caseId = row.caseId) : CaseStore :=
  { store with cases := store.cases.update caseId rewrite keeps }

def updateNeed (store : CaseStore) (needId : String)
    (rewrite : EvidenceNeedModel → EvidenceNeedModel)
    (keeps : ∀ row, (rewrite row).needId = row.needId) : CaseStore :=
  { store with needs := store.needs.update needId rewrite keeps }

end CaseStore

export CaseStore (eventsOf needsOf updateCase)

/-! ## Reading and locking a case -/

/-- `session.get(InvestigationCaseModel, case_id)`, refused when it is missing. -/
def getCase (store : CaseStore) (caseId : String) : Except Raised InvestigationCaseModel :=
  fetch (store.cases.get? caseId) (.lookupError ("investigation case not found: " ++ caseId))

/-- `_lock_case`. -/
def lockCase (store : CaseStore) (caseId : String) : Except Raised InvestigationCaseModel := do
  let row ← getCase store caseId
  require (row.status.isImmutable = false)
    (.statePatchRejected ("case state is immutable in lifecycle=" ++ row.status.value))
  return row

/-- `_require_revision`. -/
def requireRevision (row : InvestigationCaseModel) (baseRevision : ℤ) : Except Raised Unit :=
  require ((row.currentRevision : ℤ) = baseRevision)
    (.stateRevisionConflict ("stale case revision: base=" ++ toString baseRevision ++
      ", current=" ++ toString row.currentRevision))

/-! ## Appending an event -/

def newEvent (row : InvestigationCaseModel) (request : CaseEventRequest) (eventId : String)
    (now : ℤ) : CaseStateEventModel where
  eventId := eventId
  caseId := row.caseId
  caseRevision := row.currentRevision + 1
  baseCaseRevision := row.currentRevision
  eventType := request.eventType
  patchId := request.patchId
  operationIndex := request.operationIndex
  proposition := request.proposition
  targetRef := request.targetRef
  evidenceRefs := request.evidenceRefs
  writer := request.writer
  reasonCode := request.reasonCode
  payload := request.payload
  createdAt := now

/-- Two rows that the constraint on `(case_id, patch_id, operation_index)` keeps
apart.  A `NULL` column is equal to nothing. -/
def SamePatchOperation (first second : CaseStateEventModel) : Prop :=
  first.caseId = second.caseId ∧ first.patchId = second.patchId ∧ first.patchId ≠ none ∧
    first.operationIndex = second.operationIndex ∧ first.operationIndex ≠ none

instance samePatchOperationDecidable (first second : CaseStateEventModel) :
    Decidable (SamePatchOperation first second) :=
  inferInstanceAs (Decidable (_ ∧ _ ∧ _ ∧ _ ∧ _))

/-- Insert an event under the constraints of its table. -/
def insertEvent (store : CaseStore) (event : CaseStateEventModel) : Except Raised CaseStore := do
  require (∀ other ∈ store.events.rows,
      ¬ (other.caseId = event.caseId ∧ other.caseRevision = event.caseRevision))
    (.integrityError "uq_case_state_revision")
  require (∀ other ∈ store.events.rows, ¬ SamePatchOperation other event)
    (.integrityError "uq_case_state_patch_operation")
  let events ← fetch (store.events.insert? event) (.integrityError "case_state_events_pkey")
  return { store with events }

def InvestigationCaseModel.withEvent (row : InvestigationCaseModel) : InvestigationCaseModel :=
  { row with currentRevision := row.currentRevision + 1, status := row.status.afterEvent }

theorem InvestigationCaseModel.withEvent_caseId (row : InvestigationCaseModel) :
    row.withEvent.caseId = row.caseId := rfl

/-- What the calls draw: the identifier of the event of a case at a revision. -/
abbrev EventIds := String → ℕ → String

/-- `_append_event`. -/
def appendEvent (store : CaseStore) (caseId : String) (request : CaseEventRequest)
    (eventIds : EventIds) (now : ℤ) : Except Raised (CaseStateEventModel × CaseStore) := do
  let row ← getCase store caseId
  let event := newEvent row request (eventIds caseId (row.currentRevision + 1)) now
  let logged ← insertEvent store event
  return (event, logged.updateCase caseId (·.withEvent) (·.withEvent_caseId))

/-! ## Cases -/

/-- `CaseService.create`. -/
def createCase (store : CaseStore) (caseId taskSignature : String) (targetObjectIds : List String)
    (goal : String) (initialKnowledgeRevision : Option ℕ) (now : ℤ) :
    Except Raised (InvestigationCaseModel × CaseStore) := do
  let row : InvestigationCaseModel :=
    { caseId, taskSignature, targetObjectIds, goal, initialKnowledgeRevision, status := .created,
      currentRevision := 0, createdAt := now }
  let cases ← fetch (store.cases.insert? row) (.integrityError "investigation_cases_pkey")
  return (row, { store with cases })

def InvestigationCaseModel.withStatus (row : InvestigationCaseModel) (status : CaseStatus) :
    InvestigationCaseModel := { row with status }

theorem InvestigationCaseModel.withStatus_caseId (row : InvestigationCaseModel)
    (status : CaseStatus) : (row.withStatus status).caseId = row.caseId := rfl

/-- `CaseService._transition`. -/
def transitionCase (store : CaseStore) (caseId : String) (allowed : List CaseStatus)
    (target : CaseStatus) : Except Raised (InvestigationCaseModel × CaseStore) := do
  let row ← getCase store caseId
  if row.status.normalized = target then return (row, store)
  require (row.status.normalized ∈ allowed)
    (.valueError ("invalid investigation case transition: " ++ row.status.normalized.value ++
      "->" ++ target.value))
  return (row.withStatus target,
    store.updateCase caseId (·.withStatus target) (·.withStatus_caseId target))

/-- `CaseService.activate`. -/
def activateCase (store : CaseStore) (caseId : String) :=
  transitionCase store caseId [.created, .waiting] .active

/-- `CaseService.wait`. -/
def waitCase (store : CaseStore) (caseId : String) :=
  transitionCase store caseId [.active] .waiting

/-- `CaseService.resolve`. -/
def resolveCase (store : CaseStore) (caseId : String) :=
  transitionCase store caseId [.active, .waiting] .resolved

/-- `CaseService.cancel`. -/
def cancelCase (store : CaseStore) (caseId : String) :=
  transitionCase store caseId [.created, .active, .waiting] .cancelled

def InvestigationCaseModel.withClosed (row : InvestigationCaseModel) (now : ℤ) :
    InvestigationCaseModel := { row with status := .closed, closedAt := some now }

theorem InvestigationCaseModel.withClosed_caseId (row : InvestigationCaseModel) (now : ℤ) :
    (row.withClosed now).caseId = row.caseId := rfl

/-- `CaseService.close`; `runningTrajectory` is the answer of the query for a
running trajectory of the case. -/
def closeCase (store : CaseStore) (caseId : String) (runningTrajectory : Bool) (now : ℤ) :
    Except Raised (InvestigationCaseModel × CaseStore) := do
  let row ← getCase store caseId
  if row.status = .closed then return (row, store)
  require (row.status ≠ .cancelled)
    (.valueError "cannot close a cancelled investigation case")
  require (runningTrajectory = false)
    (.valueError "cannot close an investigation case with a running trajectory")
  return (row.withClosed now, store.updateCase caseId (·.withClosed now) (·.withClosed_caseId now))

end SecFusion.Investigation
