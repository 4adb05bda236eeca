import SecFusion.Investigation.StateService
import SecFusion.TaskRuntime.Storage

/-!
# Perceptions and world changes

The two services that write the log of a case besides the state service itself:
`PerceptionAuditService.record`, which stores a perception and advances the
coordinates of its case, and `WorldChangeService`, which retracts what a change
of the knowledge base has made stale and opens it again.

`caseService` gathers the calls on the store, each one transaction that holds the
row of the case it writes.
-/

namespace SecFusion.Investigation

open Foundations Intelligence

/-! ## Perceptions -/

/-- `PerceptionRequest`: what the audit reads of it, and its JSON dump. -/
structure PerceptionRequest where
  requestId : String
  (caseId needId : Option String := none)
  dump : JsonObject := []

/-- `PhysicalPerceptionPlan`, likewise. -/
structure PhysicalPerceptionPlan where
  requestId : String
  dump : JsonObject := []

/-- `Percept`, likewise. -/
structure Percept where
  (perceptId requestId : String)
  (evidenceHandles observationHandles : List String := [])
  cost : JsonObject := []

/-- The arguments of `PerceptionAuditService.record`; `run` is the row of the task
run that the session finds. -/
structure RecordPerception where
  taskRunId : String
  run : Option TaskRuntime.TaskRunModel
  request : PerceptionRequest
  plan : PhysicalPerceptionPlan
  percept : Percept
  (startedAt finishedAt : ℤ)
  status : String := "completed"
  failureClass : Option String := none

structure PerceptionEventRecord where
  (perceptionEventId caseId taskRunId requestId : String)
  worldRevision : ℕ
  perceptRef : String
  replay : Bool := false

/-- `_event_record`. -/
def perceptionRecord (perception : PerceptionEventModel) (replay : Bool) :
    PerceptionEventRecord where
  perceptionEventId := perception.perceptionEventId
  caseId := perception.caseId
  taskRunId := perception.taskRunId
  requestId := perception.requestId
  worldRevision := perception.worldRevision
  perceptRef := perception.perceptRef
  replay := replay

def newPerception (call : RecordPerception) (caseId perceptionEventId : String)
    (worldRevision : ℕ) : PerceptionEventModel where
  perceptionEventId := perceptionEventId
  caseId := caseId
  taskRunId := call.taskRunId
  requestId := call.request.requestId
  needId := call.request.needId
  requestJson := call.request.dump
  planJson := call.plan.dump
  perceptRef := "percept:" ++ call.percept.perceptId
  evidenceRefs := sortedSet call.percept.evidenceHandles
  observationRefs := sortedSet call.percept.observationHandles
  cost := call.percept.cost
  worldRevision := worldRevision
  status := call.status
  failureClass := call.failureClass
  startedAt := call.startedAt
  finishedAt := call.finishedAt

def recordedPerception? (store : CaseStore) (taskRunId requestId : String) :
    Option PerceptionEventModel :=
  store.perceptions.rows.find? fun perception =>
    perception.taskRunId = taskRunId ∧ perception.requestId = requestId

/-- The checks of `record`, and the case of the run. -/
def checkPerception (store : CaseStore) (call : RecordPerception) : Except Raised String := do
  require (call.request.requestId = call.plan.requestId ∧
      call.request.requestId = call.percept.requestId)
    (.valueError "Perception request/plan/percept identities must match")
  let run ← fetch call.run (.lookupError ("task run not found: " ++ call.taskRunId))
  let caseId ← fetch run.caseId (.valueError "PerceptionEvent requires a Case-bound TaskRun")
  require (call.request.caseId = none ∨ call.request.caseId = some caseId)
    (.valueError "PerceptionRequest case_id escapes TaskRun Case")
  let _ ← fetch (store.cases.get? caseId)
    (.runtimeError "TaskRun references missing Investigation Case")
  require (∀ needId ∈ call.request.needId,
      (store.needs.get? needId).map (·.caseId) = some caseId)
    (.valueError "PerceptionRequest need_id does not belong to TaskRun Case")
  return caseId

/-- `PerceptionAuditService.record`. -/
def recordPerception (store : CaseStore) (knowledge : KnowledgeStore) (call : RecordPerception)
    (perceptionEventId : String) (eventIds : EventIds) (now : ℤ) :
    Except Raised (PerceptionEventRecord × CaseStore) := do
  let caseId ← checkPerception store call
  match recordedPerception? store call.taskRunId call.request.requestId with
  | some existing => do
      require (existing.requestJson = call.request.dump ∧ existing.planJson = call.plan.dump ∧
          existing.perceptRef = "percept:" ++ call.percept.perceptId)
        (.valueError "PerceptionEvent replay identity changed payload")
      let (_, next) ← markPerception store existing.caseId existing.perceptionEventId
        existing.worldRevision existing.finishedAt eventIds now
      return (perceptionRecord existing true, next)
  | none => do
      let perception := newPerception call caseId perceptionEventId
        (currentKnowledgeRevision knowledge)
      let perceptions ← fetch (store.perceptions.insert? perception)
        (.integrityError "perception_events_pkey")
      let (_, next) ← markPerception { store with perceptions } caseId perceptionEventId
        perception.worldRevision perception.finishedAt eventIds now
      return (perceptionRecord perception false, next)

/-! ## World changes -/

/-- `KnowledgeChangeNotice`. -/
structure KnowledgeChangeNotice where
  revision : ℕ
  (objectIds claimIds relationIds : List String := [])
  causeObservationId : Option String := none
  revision_pos : 1 ≤ revision := by decide

structure WorldChangeImpact where
  caseId : String
  worldRevision : ℕ
  caseActivated : Bool := false
  (affectedPropositions openedOrReopenedNeedIds : List String := [])

def dependencyChanged (change : KnowledgeChangeNotice) (dependency : EvidenceDependency) : Bool :=
  match dependency.targetKind with
  | .claim => dependency.targetId ∈ change.claimIds
  | .relation => dependency.targetId ∈ change.relationIds
  | .object => dependency.targetId ∈ change.objectIds
  | .other _ => false

/-- `_evidence_refs_touch_change`. -/
def evidenceRefsTouchChange (knowledge : KnowledgeStore) (evidenceRefs : List String)
    (change : KnowledgeChangeNotice) : Bool :=
  (evidenceDependencies knowledge (sortedSet evidenceRefs)).any (dependencyChanged change)

/-- `_target_ref_object_id`. -/
def targetRefObjectId (targetRef : Option String) : Option String :=
  match targetRef.bind (Text.partition ':') with
  | none => none
  | some (kind, identity) => if kind = "object" ∧ identity ≠ "" then some identity else none

/-- Something among `names` has changed. -/
def anyChanged (change : KnowledgeChangeNotice) (names : List String) : Bool :=
  names.any (· ∈ change.objectIds)

/-- The test of `_stale_confirmed_items` for one item. -/
def isStaleItem (knowledge : KnowledgeStore) (change : KnowledgeChangeNotice)
    (item : InvestigationStateItem) : Bool :=
  anyChanged change (targetRefObjectId item.targetRef).toList ||
    evidenceRefsTouchChange knowledge item.evidenceRefs change

/-- `_stale_confirmed_items`. -/
def staleConfirmedItems (knowledge : KnowledgeStore) (items : List InvestigationStateItem)
    (change : KnowledgeChangeNotice) : List InvestigationStateItem :=
  items.filter (isStaleItem knowledge change)

/-- The test of `_stale_need_ids` for one need. -/
def isStaleNeed (knowledge : KnowledgeStore) (change : KnowledgeChangeNotice)
    (need : EvidenceNeedModel) : Bool :=
  anyChanged change need.targetObjects ||
    evidenceRefsTouchChange knowledge need.resolutionEvidenceRefs change

/-- `_stale_need_ids`. -/
def staleNeedIds (knowledge : KnowledgeStore) (needs : List EvidenceNeedModel)
    (change : KnowledgeChangeNotice) : List String :=
  (needs.filter (isStaleNeed knowledge change)).map (·.needId)

/-- `_state_evidence_refs`. -/
def stateEvidenceRefs (items : List InvestigationStateItem) : List String :=
  sortedSet (items.flatMap (·.evidenceRefs))

/-- The test of `relevant_case_ids` for one case, which reads its state. -/
def isRelevantCase (store : CaseStore) (knowledge : KnowledgeStore)
    (change : KnowledgeChangeNotice) (row : InvestigationCaseModel) (now : ℤ) :
    Except Raised (Bool × CaseStore) := do
  if row.status.isImmutable then return (false, store)
  if anyChanged change row.targetObjectIds then return (true, store)
  let (state, next) ← getState store row.caseId now
  let needs := next.needsOf row.caseId
  return (evidenceRefsTouchChange knowledge (stateEvidenceRefs state.confirmed) change ||
    needs.any (fun need => anyChanged change need.targetObjects) ||
    evidenceRefsTouchChange knowledge (needs.flatMap (·.resolutionEvidenceRefs)) change, next)

/-- The loop of `relevant_case_ids`. -/
def relevantCases (knowledge : KnowledgeStore) (change : KnowledgeChangeNotice) (now : ℤ) :
    CaseStore → List InvestigationCaseModel → Except Raised (List String × CaseStore)
  | store, [] => .ok ([], store)
  | store, row :: rest => do
      let (relevant, next) ← isRelevantCase store knowledge change row now
      let (ids, last) ← relevantCases knowledge change now next rest
      return (if relevant then row.caseId :: ids else ids, last)

def relevantCaseIds (store : CaseStore) (knowledge : KnowledgeStore)
    (change : KnowledgeChangeNotice) (now : ℤ) : Except Raised (List String × CaseStore) := do
  let (ids, next) ← relevantCases knowledge change now store store.cases.rows
  return (sortedSet ids, next)

def retractedEvent (change : KnowledgeChangeNotice) (item : InvestigationStateItem) :
    CaseEventRequest where
  eventType := .factRetracted
  proposition := some item.proposition
  targetRef := item.targetRef
  evidenceRefs := item.evidenceRefs
  writer := "world-change-runtime"
  reasonCode := "world_change_stale"
  payload :=
    { worldRevision := some change.revision, causeObservationId := change.causeObservationId,
      staleSupport := some true }

def revalidateEvent (change : KnowledgeChangeNotice) (item : InvestigationStateItem) :
    CaseEventRequest where
  eventType := .unknownOpened
  proposition := some item.proposition
  targetRef := item.targetRef
  writer := "world-change-runtime"
  reasonCode := "world_change_stale"
  payload :=
    { worldRevision := some change.revision, causeObservationId := change.causeObservationId,
      revalidateRequired := some true }

/-- The loop of `_apply_case` over the stale items. -/
def retractItems (caseId : String) (change : KnowledgeChangeNotice) (eventIds : EventIds)
    (now : ℤ) : CaseStore → List InvestigationStateItem → Except Raised CaseStore
  | store, [] => .ok store
  | store, item :: rest => do
      let (_, retracted) ← appendEvent store caseId (retractedEvent change item) eventIds now
      let (_, opened) ← appendEvent retracted caseId (revalidateEvent change item) eventIds now
      retractItems caseId change eventIds now opened rest

def needStaleEvent (change : KnowledgeChangeNotice) (need : EvidenceNeedModel) :
    CaseEventRequest where
  eventType := .evidenceNeedOpened
  proposition := some need.propositionOrQuestion
  targetRef :=
    match need.targetObjects with
    | [objectId] => some ("object:" ++ objectId)
    | _ => none
  writer := "world-change-runtime"
  reasonCode := "world_change_reopen"
  payload :=
    { needId := some need.needId, reopened := some true, worldRevision := some change.revision,
      causeObservationId := change.causeObservationId }

def EvidenceNeedModel.withReopened (need : EvidenceNeedModel) (now : ℤ) : EvidenceNeedModel :=
  { need with status := .open, resolutionEvidenceRefs := [], updatedAt := now }

theorem EvidenceNeedModel.withReopened_needId (need : EvidenceNeedModel) (now : ℤ) :
    (need.withReopened now).needId = need.needId := rfl

/-- The loop of `_apply_case` over the resolved needs, given those that are
stale. -/
def reopenNeeds (caseId : String) (change : KnowledgeChangeNotice) (eventIds : EventIds)
    (now : ℤ) : CaseStore → List EvidenceNeedModel → Except Raised CaseStore
  | store, [] => .ok store
  | store, need :: rest => do
      let marked := store.updateNeed need.needId (·.withReopened now) (·.withReopened_needId now)
      let (event, logged) ← appendEvent marked caseId (needStaleEvent change need) eventIds now
      let reopened := logged.updateNeed need.needId (·.withRevision event.caseRevision)
        (·.withRevision_needId event.caseRevision)
      reopenNeeds caseId change eventIds now reopened rest

/-- Rebuild the projection if something has changed. -/
def rebuildIf (mutated : Bool) (store : CaseStore) (caseId : String) (now : ℤ) :
    Except Raised CaseStore :=
  if mutated then do
    let (_, next) ← rebuildState store caseId now
    return next
  else .ok store

/-- The end of `_apply_case`: a waiting case that no event has activated is
activated now.  The answer says whether the case was woken. -/
def wakeCase (store : CaseStore) (caseId : String) (priorStatus : CaseStatus) :
    Except Raised (Bool × CaseStore) := do
  let row ← getCase store caseId
  if priorStatus = .waiting then
    if row.status = .active then return (true, store)
    let (_, next) ← activateCase store caseId
    return (true, next)
  else return (false, store)

/-- `WorldChangeService._apply_case`. -/
def applyCase (store : CaseStore) (knowledge : KnowledgeStore) (caseId : String)
    (change : KnowledgeChangeNotice) (eventIds : EventIds) (now : ℤ) :
    Except Raised (WorldChangeImpact × CaseStore) := do
  let row ← lockCase store caseId
  let (state, loaded) ← getState store caseId now
  let staleItems := staleConfirmedItems knowledge state.confirmed change
  let resolvedNeeds := (loaded.needsOf caseId).filter fun need => need.status = .resolved
  let staleNeeds := resolvedNeeds.filter fun need =>
    need.needId ∈ staleNeedIds knowledge resolvedNeeds change
  let retracted ← retractItems caseId change eventIds now loaded staleItems
  let reopened ← reopenNeeds caseId change eventIds now retracted staleNeeds
  let mutated : Bool := staleItems ≠ [] ∨ staleNeeds ≠ []
  let rebuilt ← rebuildIf mutated reopened caseId now
  let (caseActivated, next) ← wakeCase rebuilt caseId row.status
  return ({ caseId, worldRevision := change.revision, caseActivated,
            affectedPropositions := (staleItems.map (·.proposition)).insertionSort (· ≤ ·)
            openedOrReopenedNeedIds := (staleNeeds.map (·.needId)).insertionSort (· ≤ ·) }, next)

/-- The loop of `process` over the relevant cases. -/
def applyCases (knowledge : KnowledgeStore) (change : KnowledgeChangeNotice) (eventIds : EventIds)
    (now : ℤ) : CaseStore → List String → Except Raised (List WorldChangeImpact × CaseStore)
  | store, [] => .ok ([], store)
  | store, caseId :: rest =>
      match store.cases.get? caseId with
      | none => applyCases knowledge change eventIds now store rest
      | some row =>
          if row.status.isImmutable then applyCases knowledge change eventIds now store rest
          else do
            let (impact, next) ← applyCase store knowledge caseId change eventIds now
            let (impacts, last) ← applyCases knowledge change eventIds now next rest
            return (impact :: impacts, last)

section Loop

variable {knowledge : KnowledgeStore} {change : KnowledgeChangeNotice} {eventIds : EventIds}
  {now : ℤ} {store next : CaseStore}

/-- An impact names the case and the revision of the change. -/
theorem impact_of_applyCase {caseId : String} {impact : WorldChangeImpact}
    (ok : applyCase store knowledge caseId change eventIds now = .ok (impact, next)) :
    impact.caseId = caseId ∧ impact.worldRevision = change.revision := by
  unfold applyCase at ok
  obtain ⟨row, -, ok⟩ := bind_eq_ok.1 ok
  obtain ⟨⟨state, loaded⟩, -, ok⟩ := bind_eq_ok.1 ok
  obtain ⟨retracted, -, ok⟩ := bind_eq_ok.1 ok
  obtain ⟨reopened, -, ok⟩ := bind_eq_ok.1 ok
  obtain ⟨rebuilt, -, ok⟩ := bind_eq_ok.1 ok
  obtain ⟨⟨woken, last⟩, -, ok⟩ := bind_eq_ok.1 ok
  cases ok
  exact ⟨rfl, rfl⟩

/-- **The rule of the loop**: a case is skipped when it is gone or its state is immutable, and
else the change is applied to it. -/
theorem applyCases_induction
    {motive : CaseStore → List String → List WorldChangeImpact → CaseStore → Prop}
    (done : ∀ store, motive store [] [] store)
    (skip : ∀ {store caseId rest impacts next},
      (∀ row, store.cases.get? caseId = some row → row.status.isImmutable = true) →
      motive store rest impacts next → motive store (caseId :: rest) impacts next)
    (apply : ∀ {store caseId rest impact middle impacts next},
      applyCase store knowledge caseId change eventIds now = .ok (impact, middle) →
      motive middle rest impacts next → motive store (caseId :: rest) (impact :: impacts) next)
    {caseIds : List String} {impacts : List WorldChangeImpact}
    (ok : applyCases knowledge change eventIds now store caseIds = .ok (impacts, next)) :
    motive store caseIds impacts next := by
  induction caseIds generalizing store impacts with
  | nil =>
      cases ok
      exact done _
  | cons caseId rest ih =>
      unfold applyCases at ok
      split at ok
      next absent =>
        refine skip (fun row found => ?_) (ih ok)
        rw [absent] at found
        cases found
      next row present =>
        split at ok
        next immutable =>
          exact skip (fun other found => mem_unique present found ▸ immutable) (ih ok)
        next =>
          obtain ⟨⟨impact, middle⟩, applied, ok⟩ := bind_eq_ok.1 ok
          obtain ⟨⟨later, last⟩, loop, ok⟩ := bind_eq_ok.1 ok
          cases ok
          exact apply applied (ih loop)

end Loop

/-- `WorldChangeService.process`. -/
def processChange (store : CaseStore) (knowledge : KnowledgeStore)
    (change : KnowledgeChangeNotice) (eventIds : EventIds) (now : ℤ) :
    Except Raised (List WorldChangeImpact × CaseStore) := do
  let (caseIds, loaded) ← relevantCaseIds store knowledge change now
  applyCases knowledge change eventIds now loaded caseIds

/-! ## The service -/

/-- A call of `CaseService` on one case. -/
inductive CaseMove where
  | activate
  | wait
  | resolve
  | cancel
  | close (runningTrajectory : Bool)

/-- One call on the store, with what it draws and reads. -/
inductive CaseOp where
  | create (caseId taskSignature : String) (targetObjectIds : List String) (goal : String)
      (initialKnowledgeRevision : Option ℕ) (now : ℤ)
  | move (caseId : String) (move : CaseMove) (now : ℤ)
  | getState (caseId : String) (now : ℤ)
  | rebuild (caseId : String) (now : ℤ)
  | openNeed (knowledge : KnowledgeStore) (request : OpenEvidenceNeed) (eventIds : EventIds)
      (now : ℤ)
  | reopenNeed (request : ReopenEvidenceNeed) (eventIds : EventIds) (now : ℤ)
  | applyPatch (knowledge : KnowledgeStore) (patch : StatePatch) (reasonCode : String)
      (eventIds : EventIds) (now : ℤ)
  | commitDecision (commit : DecisionCommit) (eventIds : EventIds) (now : ℤ)
  | recordPerception (knowledge : KnowledgeStore) (call : RecordPerception)
      (perceptionEventId : String) (eventIds : EventIds) (now : ℤ)
  | processChange (knowledge : KnowledgeStore) (change : KnowledgeChangeNotice)
      (eventIds : EventIds) (now : ℤ)

inductive CaseAnswer where
  | row (row : InvestigationCaseModel)
  | state (state : InvestigationState)
  | need (result : EvidenceNeedOpenResult)
  | patched (result : StatePatchApplyResult)
  | decided (result : DecisionCommitResult)
  | perceived (record : PerceptionEventRecord)
  | processed (impacts : List WorldChangeImpact)

/-- The lifecycle calls of `CaseService`. -/
def moveCase (store : CaseStore) (caseId : String) (now : ℤ) :
    CaseMove → Except Raised (InvestigationCaseModel × CaseStore)
  | .activate => activateCase store caseId
  | .wait => waitCase store caseId
  | .resolve => resolveCase store caseId
  | .cancel => cancelCase store caseId
  | .close runningTrajectory => closeCase store caseId runningTrajectory now

/-- Every call, as one transaction over the store. -/
def caseService : CaseOp → CaseStore → Except Raised (CaseAnswer × CaseStore)
  | .create caseId taskSignature targetObjectIds goal initialKnowledgeRevision now, store => do
      let (row, next) ← createCase store caseId taskSignature targetObjectIds goal
        initialKnowledgeRevision now
      return (.row row, next)
  | .move caseId move now, store => do
      let (row, next) ← moveCase store caseId now move
      return (.row row, next)
  | .getState caseId now, store => do
      let (state, next) ← getState store caseId now
      return (.state state, next)
  | .rebuild caseId now, store => do
      let (state, next) ← rebuildState store caseId now
      return (.state state, next)
  | .openNeed knowledge request eventIds now, store => do
      let (result, next) ← openEvidenceNeed store knowledge request eventIds now
      return (.need result, next)
  | .reopenNeed request eventIds now, store => do
      let (result, next) ← reopenEvidenceNeed store request eventIds now
      return (.need result, next)
  | .applyPatch knowledge patch reasonCode eventIds now, store => do
      let (result, next) ← applyPatch store knowledge patch reasonCode eventIds now
      return (.patched result, next)
  | .commitDecision commit eventIds now, store => do
      let (result, next) ← commitDecision store commit eventIds now
      return (.decided result, next)
  | .recordPerception knowledge call perceptionEventId eventIds now, store => do
      let (record, next) ← recordPerception store knowledge call perceptionEventId eventIds now
      return (.perceived record, next)
  | .processChange knowledge change eventIds now, store => do
      let (impacts, next) ← processChange store knowledge change eventIds now
      return (.processed impacts, next)

/-- The call that an answer of the service comes from. -/
inductive CaseCalled (store next : CaseStore) : CaseOp → CaseAnswer → Prop
  | create {caseId taskSignature targetObjectIds goal initialKnowledgeRevision now row}
      (called : createCase store caseId taskSignature targetObjectIds goal
        initialKnowledgeRevision now = .ok (row, next)) :
      CaseCalled store next (.create caseId taskSignature targetObjectIds goal
        initialKnowledgeRevision now) (.row row)
  | move {caseId move now row} (called : moveCase store caseId now move = .ok (row, next)) :
      CaseCalled store next (.move caseId move now) (.row row)
  | getState {caseId now state} (called : getState store caseId now = .ok (state, next)) :
      CaseCalled store next (.getState caseId now) (.state state)
  | rebuild {caseId now state} (called : rebuildState store caseId now = .ok (state, next)) :
      CaseCalled store next (.rebuild caseId now) (.state state)
  | openNeed {knowledge request eventIds now result}
      (called : openEvidenceNeed store knowledge request eventIds now = .ok (result, next)) :
      CaseCalled store next (.openNeed knowledge request eventIds now) (.need result)
  | reopenNeed {request eventIds now result}
      (called : reopenEvidenceNeed store request eventIds now = .ok (result, next)) :
      CaseCalled store next (.reopenNeed request eventIds now) (.need result)
  | applyPatch {knowledge patch reasonCode eventIds now result}
      (called : applyPatch store knowledge patch reasonCode eventIds now = .ok (result, next)) :
      CaseCalled store next (.applyPatch knowledge patch reasonCode eventIds now) (.patched result)
  | commitDecision {commit eventIds now result}
      (called : commitDecision store commit eventIds now = .ok (result, next)) :
      CaseCalled store next (.commitDecision commit eventIds now) (.decided result)
  | recordPerception {knowledge call perceptionEventId eventIds now record}
      (called : recordPerception store knowledge call perceptionEventId eventIds now =
        .ok (record, next)) :
      CaseCalled store next (.recordPerception knowledge call perceptionEventId eventIds now)
        (.perceived record)
  | processChange {knowledge change eventIds now impacts}
      (called : processChange store knowledge change eventIds now = .ok (impacts, next)) :
      CaseCalled store next (.processChange knowledge change eventIds now) (.processed impacts)

theorem caseService_called {op : CaseOp} {answer : CaseAnswer} {store next : CaseStore}
    (ok : caseService op store = .ok (answer, next)) : CaseCalled store next op answer := by
  cases op
  all_goals
    obtain ⟨⟨result, last⟩, called, ok⟩ := bind_eq_ok.1 ok
    cases ok
    constructor
    exact called

end SecFusion.Investigation
