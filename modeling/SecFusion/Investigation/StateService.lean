import SecFusion.Intelligence.Validation
import SecFusion.Investigation.Storage

/-!
# The state of a case

The model of `packages/investigation/state/service.py`.  The log of a case is the
record; its state is read in two ways.  `getStateAtRevision` folds the log and
nothing else.  `rebuildCurrent` writes a projection: it folds the log for the
items and the decision, and asks the tables of needs and perceptions for the
rest.

A call draws the identifiers of the events it appends (`EventIds`) and reads the
clock once.
-/

namespace SecFusion.Investigation

open Foundations Intelligence

/-! ## Replaying a log -/

/-- What an item is filed under. -/
abbrev ItemKey := String × Option String

abbrev Buckets := Bucket → Dict ItemKey InvestigationStateItem

def noItems : Buckets := fun _ => .empty

/-- The buckets of which a key is in at most one. -/
def Bucket.isExclusive : Bucket → Bool
  | .confirmed | .tentative | .conflicts | .unknowns => true
  | .hypotheses => false

/-- The item an event makes of its proposition. -/
def replayItem (event : CaseStateEventModel) (proposition : String) : InvestigationStateItem where
  proposition := proposition
  targetRef := event.targetRef
  evidenceRefs := event.evidenceRefs
  writer := event.writer
  reasonCode := event.reasonCode
  reasoningRelation := event.payload.reasoningRelation
  updatedRevision := event.caseRevision

/-- Take a key out of all four exclusive buckets. -/
def popExclusive (buckets : Buckets) (key : ItemKey) : Buckets := fun bucket =>
  if bucket.isExclusive then (buckets bucket).pop key else buckets bucket

/-- `_replay_event`. -/
def replayEvent (buckets : Buckets) (event : CaseStateEventModel) : Buckets :=
  match event.proposition with
  | none => buckets
  | some proposition =>
      let key := (proposition, event.targetRef)
      match additions event.eventType with
      | some bucket =>
          let cleared := if bucket.isExclusive then popExclusive buckets key else buckets
          update cleared bucket ((cleared bucket).set key (replayItem event proposition))
      | none =>
          match removals event.eventType with
          | some bucket => update buckets bucket ((buckets bucket).pop key)
          | none => buckets

/-- The buckets a log leaves. -/
def replayLog (events : List CaseStateEventModel) : Buckets := events.foldl replayEvent noItems

/-- The decision a log leaves. -/
def replayDecision (events : List CaseStateEventModel) : Option JsonObject :=
  events.foldl (fun decision event =>
    if event.eventType = .decisionChanged then event.payload.decision else decision) none

/-- What `get_state_at_revision` keeps beside buckets and decision. -/
structure Coordinates where
  openNeedIds : List String
  lastWorldRevision : Option ℕ
  lastPerceptionAt : Option ℤ

/-- One round of its loop. -/
def replayCoordinates (coordinates : Coordinates) (event : CaseStateEventModel) : Coordinates :=
  match event.eventType with
  | .evidenceNeedOpened =>
      match event.payload.needId with
      | some needId =>
          if needId ∈ coordinates.openNeedIds then coordinates
          else { coordinates with openNeedIds := coordinates.openNeedIds ++ [needId] }
      | none => coordinates
  | .evidenceNeedResolved =>
      match event.payload.needId with
      | some needId =>
          { coordinates with openNeedIds := coordinates.openNeedIds.filter (· ≠ needId) }
      | none => coordinates
  | .perceptionRecorded =>
      { coordinates with
        lastWorldRevision := event.payload.worldRevision.or coordinates.lastWorldRevision
        lastPerceptionAt := event.payload.perceivedAt.or coordinates.lastPerceptionAt }
  | .factConfirmed | .factRetracted | .tentativeAdded | .tentativeRemoved | .conflictOpened
  | .conflictResolved | .unknownOpened | .unknownResolved | .hypothesisAdded
  | .hypothesisRejected | .evidenceAttached | .decisionChanged => coordinates

def getStateAtRevision (store : CaseStore) (caseId : String) (caseRevision : ℤ) :
    Except Raised InvestigationState := do
  let row ← getCase store caseId
  require (0 ≤ caseRevision ∧ caseRevision ≤ row.currentRevision)
    (.valueError ("historical case revision outside durable range: requested=" ++
      toString caseRevision ++ ", current=" ++ toString row.currentRevision))
  let events := (store.orderedEvents caseId).filter fun event =>
    (event.caseRevision : ℤ) ≤ caseRevision
  require (0 < caseRevision → events.getLast?.map (fun event => (event.caseRevision : ℤ)) =
      some caseRevision)
    (.runtimeError ("case event history is incomplete at revision " ++ toString caseRevision))
  let buckets := replayLog events
  let coordinates := events.foldl replayCoordinates ⟨[], row.initialKnowledgeRevision, none⟩
  return {
    caseId := row.caseId
    caseRevision := caseRevision.toNat
    goal := row.goal
    targets := row.targetObjectIds
    confirmed := (buckets .confirmed).values
    tentative := (buckets .tentative).values
    conflicts := (buckets .conflicts).values
    unknowns := (buckets .unknowns).values
    hypotheses := (buckets .hypotheses).values
    evidenceNeedIds := coordinates.openNeedIds
    currentDecision := replayDecision events
    lastWorldRevision := coordinates.lastWorldRevision
    lastPerceptionAt := coordinates.lastPerceptionAt
    updatedAt := (events.getLast?.map (·.createdAt)).getD row.createdAt }

/-! ## The projection -/

/-- The needs that are still to be met, `order_by(priority.desc(), need_id)`. -/
def openNeedIds (store : CaseStore) (caseId : String) : List String :=
  (((store.needsOf caseId).filter fun need =>
    need.status = .open ∨ need.status = .blocked).insertionSort fun first second =>
      second.priority < first.priority ∨
        (first.priority = second.priority ∧ first.needId ≤ second.needId)).map (·.needId)

/-- The later of two perceptions stands first: `order_by(finished_at.desc(),
perception_event_id.desc())`. -/
def FinishedLater (first second : PerceptionEventModel) : Prop :=
  second.finishedAt < first.finishedAt ∨
    (first.finishedAt = second.finishedAt ∧ second.perceptionEventId ≤ first.perceptionEventId)

instance finishedLaterDecidable (first second : PerceptionEventModel) :
    Decidable (FinishedLater first second) :=
  inferInstanceAs (Decidable (_ ∨ _))

def latestPerception (store : CaseStore) (caseId : String) : Option PerceptionEventModel :=
  ((store.perceptionsOf caseId).insertionSort FinishedLater).head?

/-- The values of a rebuilt projection. -/
def projectedState (store : CaseStore) (row : InvestigationCaseModel) (now : ℤ) :
    InvestigationStateCurrentModel :=
  let events := store.orderedEvents row.caseId
  let buckets := replayLog events
  let latest := latestPerception store row.caseId
  { caseId := row.caseId
    caseRevision := row.currentRevision
    goal := row.goal
    targets := row.targetObjectIds
    confirmed := (buckets .confirmed).values
    tentative := (buckets .tentative).values
    conflicts := (buckets .conflicts).values
    unknowns := (buckets .unknowns).values
    hypotheses := (buckets .hypotheses).values
    evidenceNeedIds := openNeedIds store row.caseId
    currentDecision := replayDecision events
    lastWorldRevision :=
      match latest with
      | some perception => some perception.worldRevision
      | none => row.initialKnowledgeRevision
    lastPerceptionAt := latest.map (·.finishedAt)
    updatedAt := now }

def writeCurrent (store : CaseStore) (row : InvestigationCaseModel) (now : ℤ) :
    InvestigationStateCurrentModel × CaseStore :=
  let current := projectedState store row now
  (current, { store with currents := store.currents.put current })

/-- `_rebuild_current`. -/
def rebuildCurrent (store : CaseStore) (row : InvestigationCaseModel) (force : Bool) (now : ℤ) :
    InvestigationStateCurrentModel × CaseStore :=
  match store.currents.get? row.caseId with
  | some current =>
      if current.caseRevision = row.currentRevision ∧ force = false then (current, store)
      else writeCurrent store row now
  | none => writeCurrent store row now

def getState (store : CaseStore) (caseId : String) (now : ℤ) :
    Except Raised (InvestigationState × CaseStore) := do
  let row ← getCase store caseId
  match store.currents.get? caseId with
  | some current => return (current, store)
  | none => return rebuildCurrent store row false now

/-- `InvestigationStateService.rebuild`, and the end of every call that writes. -/
def rebuildState (store : CaseStore) (caseId : String) (now : ℤ) :
    Except Raised (InvestigationState × CaseStore) := do
  let row ← getCase store caseId
  return rebuildCurrent store row true now

/-! ## Needs -/

/-- `_need_view`: a row that the contract of a need refuses cannot be viewed. -/
def needView (need : EvidenceNeedModel) : Except Raised EvidenceNeedModel := do
  require (1 ≤ need.purpose.length ∧ need.purpose.length ≤ 256)
    (.valueError "1 validation error for EvidenceNeed: purpose")
  require (0 ≤ need.priority ∧ need.priority ≤ 100)
    (.valueError "1 validation error for EvidenceNeed: priority")
  return need

structure EvidenceNeedOpenResult where
  need : EvidenceNeedModel
  state : InvestigationState
  event : CaseStateEventModel
  replay : Bool := false

/-- The arguments of `open_evidence_need`. -/
structure OpenEvidenceNeed where
  caseId : String
  baseCaseRevision : ℤ
  (needId propositionOrQuestion purpose : String)
  targetObjects : List String
  evidenceContract : EvidenceNeedContract := {}
  derivedFromEnrichmentRequirement : Option String := none
  (preferredSourceRoles rejectedEvidencePatterns : List String := [])
  (freshnessRequirement completionPredicate : JsonObject := [])
  priority : ℤ := 50
  writer : String := "state-runtime"
  reasonCode : String := "evidence_gap"

def needOpenedEvent (request : OpenEvidenceNeed) : CaseEventRequest where
  eventType := .evidenceNeedOpened
  proposition := some request.propositionOrQuestion
  writer := request.writer
  reasonCode := request.reasonCode
  payload := { needId := some request.needId }

def newNeed (request : OpenEvidenceNeed) (revision : ℕ) (now : ℤ) : EvidenceNeedModel where
  needId := request.needId
  caseId := request.caseId
  derivedFromEnrichmentRequirement := request.derivedFromEnrichmentRequirement
  propositionOrQuestion := request.propositionOrQuestion
  purpose := request.purpose
  targetObjects := request.targetObjects
  evidenceContract := request.evidenceContract
  preferredSourceRoles := request.preferredSourceRoles
  rejectedEvidencePatterns := request.rejectedEvidencePatterns
  freshnessRequirement := request.freshnessRequirement
  completionPredicate :=
    if request.completionPredicate = [] then [("type", .string "state_accepted")]
    else request.completionPredicate
  priority := request.priority
  status := .open
  resolutionEvidenceRefs := []
  openedRevision := revision
  updatedRevision := revision
  openedAt := now
  updatedAt := now

/-- The answer to a need that is there already. -/
def replayOpenedNeed (store : CaseStore) (request : OpenEvidenceNeed)
    (existing : EvidenceNeedModel) (now : ℤ) :
    Except Raised (EvidenceNeedOpenResult × CaseStore) := do
  let event ← fetch ((store.eventsOf request.caseId).find? fun event =>
      event.eventType = .evidenceNeedOpened ∧ event.payload.needId = some request.needId)
    (.runtimeError "evidence need exists without open event")
  let need ← needView existing
  let (state, next) ← getState store request.caseId now
  return ({ need, state, event, replay := true }, next)

def openEvidenceNeed (store : CaseStore) (knowledge : KnowledgeStore) (request : OpenEvidenceNeed)
    (eventIds : EventIds) (now : ℤ) : Except Raised (EvidenceNeedOpenResult × CaseStore) := do
  let row ← lockCase store request.caseId
  match store.needs.get? request.needId with
  | some existing => replayOpenedNeed store request existing now
  | none =>
      requireRevision row request.baseCaseRevision
      require (isBlank request.propositionOrQuestion = false ∧
          isBlank request.purpose = false)
        (.valueError "EvidenceNeed proposition/purpose cannot be empty")
      require (request.purpose.length ≤ 256)
        (.valueError "EvidenceNeed purpose exceeds storage contract (256 characters)")
      require (validateObjectRefs knowledge request.targetObjects = [])
        (.statePatchRejected ("target object not found: " ++
          (validateObjectRefs knowledge request.targetObjects).headD ""))
      let (event, logged) ← appendEvent store request.caseId (needOpenedEvent request) eventIds now
      let need := newNeed request event.caseRevision now
      let needs ← fetch (logged.needs.insert? need) (.integrityError "evidence_needs_pkey")
      let (state, next) ← rebuildState { logged with needs } request.caseId now
      let view ← needView need
      return ({ need := view, state, event }, next)

/-- The arguments of `reopen_evidence_need`. -/
structure ReopenEvidenceNeed where
  needId : String
  baseCaseRevision : ℤ
  reopenKey : String
  writer : String := "state-runtime"
  reasonCode : String := "world_change_reopened"

def needReopenedEvent (need : EvidenceNeedModel) (request : ReopenEvidenceNeed) :
    CaseEventRequest where
  eventType := .evidenceNeedOpened
  proposition := some need.propositionOrQuestion
  writer := request.writer
  reasonCode := request.reasonCode
  payload := { needId := some need.needId, reopened := some true }
  patchId := some request.reopenKey
  operationIndex := some 0

def EvidenceNeedModel.withOpen (need : EvidenceNeedModel) (revision : ℕ) (now : ℤ) :
    EvidenceNeedModel :=
  { need with
    status := .open, resolutionEvidenceRefs := [], updatedRevision := revision, updatedAt := now }

theorem EvidenceNeedModel.withOpen_needId (need : EvidenceNeedModel) (revision : ℕ) (now : ℤ) :
    (need.withOpen revision now).needId = need.needId := rfl

/-- The event of a case that a call with this key and index has left, if its type
is the given one. -/
def eventOfCall? (store : CaseStore) (caseId patchId : String) (eventType : CaseStateEventType) :
    Option CaseStateEventModel :=
  (store.eventsOf caseId).find? fun event =>
    event.patchId = some patchId ∧ event.operationIndex = some 0 ∧ event.eventType = eventType

def lastOpening? (store : CaseStore) (caseId : String) : Option CaseStateEventModel :=
  (((store.eventsOf caseId).filter fun event =>
    event.eventType = .evidenceNeedOpened).insertionSort fun first second =>
      second.caseRevision ≤ first.caseRevision).head?

def reopenEvidenceNeed (store : CaseStore) (request : ReopenEvidenceNeed) (eventIds : EventIds)
    (now : ℤ) : Except Raised (EvidenceNeedOpenResult × CaseStore) := do
  let need ← fetch (store.needs.get? request.needId)
    (.lookupError ("EvidenceNeed not found: " ++ request.needId))
  let row ← lockCase store need.caseId
  match eventOfCall? store need.caseId request.reopenKey .evidenceNeedOpened with
  | some event => do
      let view ← needView need
      let (state, next) ← getState store need.caseId now
      return ({ need := view, state, event, replay := true }, next)
  | none =>
      if need.status = .open then do
        let event ← fetch (lastOpening? store need.caseId)
          (.runtimeError "open EvidenceNeed exists without open event")
        let view ← needView need
        let (state, next) ← getState store need.caseId now
        return ({ need := view, state, event, replay := true }, next)
      else do
        requireRevision row request.baseCaseRevision
        let (event, logged) ← appendEvent store need.caseId (needReopenedEvent need request)
          eventIds now
        let opened := logged.updateNeed need.needId (·.withOpen event.caseRevision now)
          (·.withOpen_needId event.caseRevision now)
        let (state, next) ← rebuildState opened need.caseId now
        let view ← needView (need.withOpen event.caseRevision now)
        return ({ need := view, state, event }, next)

/-! ## Patches -/

/-- The text of a predicate type in an error: `str` of the JSON values that are
no collections and no fractions. -/
def predicateText : Option JsonValue → String
  | some (.string text) => text
  | some (.int number) => toString number
  | some (.bool true) => "True"
  | some (.bool false) => "False"
  | some .null | none => "None"
  | some (.real _) | some (.array _) | some (.object _) => "..."

/-- `_validate_need_resolution`. -/
def validateNeedResolution (knowledge : KnowledgeStore) (need : EvidenceNeedModel)
    (operation : StatePatchOperation) : Except Raised Unit := do
  let contract := need.evidenceContract
  require (operation.proposedState ∈ contract.acceptedStates)
    (.evidenceNeedResolutionRejected
      "proposed state does not satisfy EvidenceNeed completion contract")
  require (field? need.completionPredicate "type" = some (.string "state_accepted"))
    (.evidenceNeedResolutionRejected ("unsupported EvidenceNeed completion predicate: " ++
      predicateText (field? need.completionPredicate "type")))
  require (contract.requireEvidence = true → operation.evidenceRefs ≠ [])
    (.evidenceNeedResolutionRejected "EvidenceNeed resolution requires evidence")
  if operation.evidenceRefs = [] then return ()
  let support := evidenceSupportSummary knowledge operation.evidenceRefs
  require (∀ role ∈ contract.requiredSourceRoles, role ∈ support.sourceRoles)
    (.evidenceNeedResolutionRejected ("required source role missing: " ++
      (contract.requiredSourceRoles.filter (· ∉ support.sourceRoles)).headD ""))
  require (contract.minIndependentSources ≤ support.independentSourceKeys.length)
    (.evidenceNeedResolutionRejected ("independent source requirement unsatisfied: " ++
      toString support.independentSourceKeys.length ++ "/" ++
      toString contract.minIndependentSources))

/-- `_validate_evidence_refs`. -/
def validateEvidenceRefs (knowledge : KnowledgeStore) (evidenceRefs : List String) :
    Except Raised Unit :=
  let support := evidenceSupportSummary knowledge evidenceRefs
  match sortedSet (evidenceRefs.filter (· ∉ support.evidenceRefs)) with
  | [] => .ok ()
  | missing :: _ => .error (.statePatchRejected ("unknown EvidenceRef: " ++ missing))

/-- The evidence for a confirmed or disputed object is evidence of that object. -/
def validateSupport (knowledge : KnowledgeStore) (operation : StatePatchOperation) :
    Except Raised Unit :=
  match operation.targetRef.bind (afterHead? "object:") with
  | none => .ok ()
  | some objectId =>
      require ((operation.proposedState = .confirmed ∨ operation.proposedState = .conflict) →
          operation.disposition = .set →
            objectId ∈ (evidenceSupportSummary knowledge operation.evidenceRefs).supportedObjectIds)
        (.statePatchRejected "EvidenceRef does not support StatePatch target object")

def isInferred (relation : Option ReasoningRelation) : Bool :=
  match relation with
  | some relation => relation.semantics = .inferred
  | none => false

/-- The part of `_validate_patch` about the need an operation resolves. -/
def validateResolvedNeed (store : CaseStore) (knowledge : KnowledgeStore) (caseId : String)
    (operation : StatePatchOperation) : Except Raised Unit :=
  match operation.resolvesNeedId with
  | none => .ok ()
  | some needId => do
      let need ← fetch ((store.needs.get? needId).filter (·.caseId = caseId))
        (.statePatchRejected "resolves_need_id does not belong to this case")
      require (need.status = .open)
        (.statePatchRejected "only an open EvidenceNeed can be resolved")
      validateNeedResolution knowledge need operation

/-- One round of `_validate_patch`. -/
def validateOperation (store : CaseStore) (knowledge : KnowledgeStore) (caseId : String)
    (operation : StatePatchOperation) : Except Raised Unit := do
  require (∀ targetRef ∈ operation.targetRef, validateTargetRef knowledge targetRef = true)
    (.statePatchRejected ("invalid or missing target_ref: " ++ operation.targetRef.getD ""))
  validateEvidenceRefs knowledge operation.evidenceRefs
  validateSupport knowledge operation
  require (¬ (isInferred operation.reasoningRelation = true ∧
      operation.proposedState = .confirmed ∧ operation.disposition = .set))
    (.statePatchRejected "inferred reasoning relation cannot write confirmed state")
  validateResolvedNeed store knowledge caseId operation

/-- `_validate_patch`. -/
def validatePatch (store : CaseStore) (knowledge : KnowledgeStore) (patch : StatePatch) :
    Except Raised Unit :=
  patch.operations.forM (validateOperation store knowledge patch.caseId)

def operationEvent (patch : StatePatch) (reasonCode : String) (index : ℕ)
    (operation : StatePatchOperation) : CaseEventRequest where
  eventType := eventTypeFor operation
  proposition := some operation.proposition
  targetRef := operation.targetRef
  evidenceRefs := operation.evidenceRefs
  writer := patch.producer
  reasonCode := reasonCode
  payload :=
    { proposedState := some operation.proposedState, disposition := some operation.disposition,
      reasoningRelation := operation.reasoningRelation, resolvesNeedId := operation.resolvesNeedId,
      modelPromptRevision := patch.modelPromptRevision }
  patchId := some patch.patchId
  operationIndex := some index

def EvidenceNeedModel.withResolved (need : EvidenceNeedModel) (evidenceRefs : List String)
    (now : ℤ) : EvidenceNeedModel :=
  { need with status := .resolved, resolutionEvidenceRefs := evidenceRefs, updatedAt := now }

theorem EvidenceNeedModel.withResolved_needId (need : EvidenceNeedModel)
    (evidenceRefs : List String) (now : ℤ) :
    (need.withResolved evidenceRefs now).needId = need.needId := rfl

def EvidenceNeedModel.withRevision (need : EvidenceNeedModel) (revision : ℕ) : EvidenceNeedModel :=
  { need with updatedRevision := revision }

theorem EvidenceNeedModel.withRevision_needId (need : EvidenceNeedModel) (revision : ℕ) :
    (need.withRevision revision).needId = need.needId := rfl

def needResolvedEvent (need : EvidenceNeedModel) (operation : StatePatchOperation)
    (writer : String) : CaseEventRequest where
  eventType := .evidenceNeedResolved
  proposition := some need.propositionOrQuestion
  targetRef := operation.targetRef
  evidenceRefs := operation.evidenceRefs
  writer := writer
  reasonCode := "evidence_need_completion_predicate_satisfied"
  payload := { needId := some need.needId }

/-- `_resolve_need_from_operation`. -/
def resolveNeedFromOperation (store : CaseStore) (caseId : String)
    (operation : StatePatchOperation) (writer : String) (eventIds : EventIds) (now : ℤ) :
    Except Raised (Option CaseStateEventModel × CaseStore) :=
  match operation.resolvesNeedId with
  | none => .ok (none, store)
  | some needId => do
      let need ← fetch (store.needs.get? needId)
        (.runtimeError "validated EvidenceNeed disappeared")
      let marked := store.updateNeed needId (·.withResolved operation.evidenceRefs now)
        (·.withResolved_needId operation.evidenceRefs now)
      let (event, logged) ← appendEvent marked caseId (needResolvedEvent need operation writer)
        eventIds now
      return (some event, logged.updateNeed needId (·.withRevision event.caseRevision)
        (·.withRevision_needId event.caseRevision))

/-- The loop of `apply_patch`, from the given index on. -/
def applyOperations (patch : StatePatch) (reasonCode : String) (eventIds : EventIds) (now : ℤ) :
    CaseStore → ℕ → List StatePatchOperation →
      Except Raised (List CaseStateEventModel × CaseStore)
  | store, _, [] => .ok ([], store)
  | store, index, operation :: rest => do
      let (event, logged) ← appendEvent store patch.caseId
        (operationEvent patch reasonCode index operation) eventIds now
      let (resolved, settled) ← resolveNeedFromOperation logged patch.caseId operation
        patch.producer eventIds now
      let (events, last) ← applyOperations patch reasonCode eventIds now settled (index + 1) rest
      return (event :: (resolved.toList ++ events), last)

structure StatePatchApplyResult where
  state : InvestigationState
  events : List CaseStateEventModel
  replay : Bool := false

/-- The events of a patch, `order_by(operation_index, case_revision)`. -/
def patchEvents (store : CaseStore) (caseId patchId : String) : List CaseStateEventModel :=
  ((store.eventsOf caseId).filter fun event => event.patchId = some patchId).insertionSort
    fun first second =>
      first.operationIndex.getD 0 < second.operationIndex.getD 0 ∨
        (first.operationIndex.getD 0 = second.operationIndex.getD 0 ∧
          first.caseRevision ≤ second.caseRevision)

def applyPatch (store : CaseStore) (knowledge : KnowledgeStore) (patch : StatePatch)
    (reasonCode : String) (eventIds : EventIds) (now : ℤ) :
    Except Raised (StatePatchApplyResult × CaseStore) := do
  let row ← lockCase store patch.caseId
  match patchEvents store patch.caseId patch.patchId with
  | first :: rest => do
      let (state, next) ← getState store patch.caseId now
      return ({ state, events := first :: rest, replay := true }, next)
  | [] => do
      requireRevision row patch.baseCaseRevision
      validatePatch store knowledge patch
      let (events, applied) ← applyOperations patch reasonCode eventIds now store 0
        patch.operations
      let (state, next) ← rebuildState applied patch.caseId now
      return ({ state, events }, next)

/-! ## Decisions -/

structure DecisionCommitResult where
  state : InvestigationState
  event : CaseStateEventModel
  replay : Bool := false

def decisionEvent (commit : DecisionCommit) : CaseEventRequest where
  eventType := .decisionChanged
  writer := commit.producer
  reasonCode := "decision_accepted"
  payload := { decision := some commit.decision }
  patchId := some commit.decisionId
  operationIndex := some 0

def commitDecision (store : CaseStore) (commit : DecisionCommit) (eventIds : EventIds) (now : ℤ) :
    Except Raised (DecisionCommitResult × CaseStore) := do
  let row ← lockCase store commit.caseId
  match eventOfCall? store commit.caseId commit.decisionId .decisionChanged with
  | some event => do
      let (state, next) ← getState store commit.caseId now
      return ({ state, event, replay := true }, next)
  | none => do
      requireRevision row commit.baseCaseRevision
      let (event, logged) ← appendEvent store commit.caseId (decisionEvent commit) eventIds now
      let (state, next) ← rebuildState logged commit.caseId now
      return ({ state, event }, next)

/-! ## Perceptions -/

def perceptionEvent (perceptionEventId : String) (worldRevision : ℕ) (perceivedAt : ℤ) :
    CaseEventRequest where
  eventType := .perceptionRecorded
  writer := "perception-runtime"
  reasonCode := "perception_coordinate_advanced"
  payload :=
    { perceptionEventId := some perceptionEventId, worldRevision := some worldRevision,
      perceivedAt := some perceivedAt }
  patchId := some ("perception:" ++ perceptionEventId)
  operationIndex := some 0

/-- Append the event of a perception unless it is there, and then it has to be the
same. -/
def logPerception (store : CaseStore) (caseId perceptionEventId : String) (worldRevision : ℕ)
    (perceivedAt : ℤ) (eventIds : EventIds) (now : ℤ) : Except Raised CaseStore :=
  match eventOfCall? store caseId ("perception:" ++ perceptionEventId) .perceptionRecorded with
  | none => do
      let (_, logged) ← appendEvent store caseId
        (perceptionEvent perceptionEventId worldRevision perceivedAt) eventIds now
      return logged
  | some existing => do
      require (existing.payload.perceptionEventId = some perceptionEventId ∧
          existing.payload.worldRevision = some worldRevision ∧
          existing.payload.perceivedAt = some perceivedAt)
        (.valueError "perception state replay identity changed payload")
      return store

def markPerception (store : CaseStore) (caseId perceptionEventId : String) (worldRevision : ℕ)
    (perceivedAt : ℤ) (eventIds : EventIds) (now : ℤ) :
    Except Raised (InvestigationState × CaseStore) := do
  let _ ← lockCase store caseId
  let logged ← logPerception store caseId perceptionEventId worldRevision perceivedAt eventIds now
  rebuildState logged caseId now

end SecFusion.Investigation
