import SecFusion.Investigation.WorldChange

/-!
# What the calls do to a case

Every write of a case goes through `append_event`, alone or together with one row
of the tables of needs and perceptions: `Write` is one such write.  A call makes
a sequence of writes on one case and then rebuilds the projection of that case;
`Change` is such a unit, or a new case, or a lifecycle move.  A successful call is
a sequence of units (`changes_of_ok`), and the invariants of the other modules are
proved for one write and one unit.
-/

namespace SecFusion.Investigation

open Foundations Intelligence

/-! ## One write -/

/-- The event has been appended to the log of the case, whose row has moved to
its revision. -/
structure Appended (store next : CaseStore) (caseId : String) (event : CaseStateEventModel) :
    Prop where
  row : ∃ row, store.cases.get? caseId = some row ∧ event.caseRevision = row.currentRevision + 1 ∧
    event.baseCaseRevision = row.currentRevision
  ofCase : event.caseId = caseId
  cases : ∀ other, next.cases.get? other =
    if caseId = other then (store.cases.get? other).map (·.withEvent) else store.cases.get? other
  events : next.events.rows = store.events.rows ++ [event]
  currents : next.currents = store.currents

variable {store next : CaseStore} {event : CaseStateEventModel} {caseId id reasonCode : String}
  {request : CaseEventRequest} {eventIds : EventIds} {now : ℤ} {need old : EvidenceNeedModel}
  {state : InvestigationState} {row view : InvestigationCaseModel} {knowledge : KnowledgeStore}
  {result : EvidenceNeedOpenResult} {operation : StatePatchOperation} {answer : Unit}
  {patch : StatePatch} {index : ℕ} {call : RecordPerception} {allowed : List CaseStatus}
  {target : CaseStatus} {impacts : List WorldChangeImpact} {ids : List String}

theorem insertEvent_ok (inserted : insertEvent store event = .ok next) :
    ∃ events, next = { store with events } ∧ events.rows = store.events.rows ++ [event] := by
  unfold insertEvent at inserted
  simp only [require_bind_eq_ok, fetch_bind_eq_ok, pure_eq_ok] at inserted
  obtain ⟨-, -, events, added, rfl⟩ := inserted
  exact ⟨events, rfl, (insert?_eq_some added).1⟩

/-- **A successful `append_event`** appends the requested event and nothing else. -/
theorem appendEvent_ok
    (ok : appendEvent store caseId request eventIds now = .ok (event, next)) :
    (∃ row, store.cases.get? caseId = some row ∧
        event = newEvent row request (eventIds caseId (row.currentRevision + 1)) now) ∧
      Appended store next caseId event ∧ next.needs = store.needs ∧
      next.perceptions = store.perceptions := by
  unfold appendEvent getCase at ok
  simp only [fetch_bind_eq_ok] at ok
  obtain ⟨row, found, ok⟩ := ok
  obtain ⟨logged, inserted, ok⟩ := bind_eq_ok.1 ok
  cases ok
  obtain ⟨events, rfl, rows⟩ := insertEvent_ok inserted
  have ofCase : row.caseId = caseId := key_of_get? found
  refine ⟨⟨row, found, rfl⟩, ?_, rfl, rfl⟩
  constructor
  case row => exact ⟨row, found, rfl, rfl⟩
  case ofCase => exact ofCase
  case cases =>
    intro other
    exact get?_update store.cases caseId (·.withEvent) (·.withEvent_caseId) other
  case events => exact rows
  case currents => rfl

/-- What no accepted event of a log lacks: a confirmed or disputed item has
evidence, and a confirmed one is not inferred. -/
structure Admissible (event : CaseStateEventModel) : Prop where
  evidence : event.eventType = .factConfirmed ∨ event.eventType = .conflictOpened →
    event.evidenceRefs ≠ []
  deterministic : event.eventType = .factConfirmed →
    isInferred event.payload.reasoningRelation = false

/-- The events that speak of a need or of a perception. -/
def CaseStateEventType.isCoordinate : CaseStateEventType → Bool
  | .evidenceNeedOpened | .evidenceNeedResolved | .perceptionRecorded => true
  | .factConfirmed | .factRetracted | .tentativeAdded | .tentativeRemoved | .conflictOpened
  | .conflictResolved | .unknownOpened | .unknownResolved | .hypothesisAdded
  | .hypothesisRejected | .evidenceAttached | .decisionChanged => false

/-- The status a need has after an event of this type. -/
def needStatusAfter : CaseStateEventType → Option EvidenceNeedStatus
  | .evidenceNeedOpened => some .open
  | .evidenceNeedResolved => some .resolved
  | .factConfirmed | .factRetracted | .tentativeAdded | .tentativeRemoved | .conflictOpened
  | .conflictResolved | .unknownOpened | .unknownResolved | .hypothesisAdded
  | .hypothesisRejected | .evidenceAttached | .decisionChanged | .perceptionRecorded => none

/-- **One write of a case**; a perception is written only by a call that records
one. -/
inductive Write (recording : Bool) (caseId : String) (store next : CaseStore) : Prop
  /-- An item or a decision. -/
  | item {event : CaseStateEventModel} (appended : Appended store next caseId event)
      (plain : event.eventType.isCoordinate = false) (admissible : Admissible event)
      (needs : next.needs = store.needs) (perceptions : next.perceptions = store.perceptions)
  /-- A need that is opened, reopened or resolved. -/
  | need {event : CaseStateEventModel} (need : EvidenceNeedModel)
      (appended : Appended store next caseId event)
      (named : event.payload.needId = some need.needId)
      (status : needStatusAfter event.eventType = some need.status)
      (ofCase : need.caseId = caseId)
      (before : ∀ old, store.needs.get? need.needId = some old → old.caseId = caseId)
      (needs : ∀ id, next.needs.get? id =
        if need.needId = id then some need else store.needs.get? id)
      (perceptions : next.perceptions = store.perceptions)
  | perception {event : CaseStateEventModel} (perception : PerceptionEventModel)
      (records : recording = true) (appended : Appended store next caseId event)
      (type : event.eventType = .perceptionRecorded)
      (world : event.payload.worldRevision = some perception.worldRevision)
      (perceived : event.payload.perceivedAt = some perception.finishedAt)
      (named : event.payload.perceptionEventId = some perception.perceptionEventId)
      (key : event.patchId = some ("perception:" ++ perception.perceptionEventId))
      (index : event.operationIndex = some 0)
      (ofCase : perception.caseId = caseId) (needs : next.needs = store.needs)
      (perceptions : store.perceptions.insert? perception = some next.perceptions)

variable {recording : Bool}

theorem Write.appended (write : Write recording caseId store next) :
    ∃ event, Appended store next caseId event ∧ Admissible event := by
  cases write with
  | item appended _ admissible => exact ⟨_, appended, admissible⟩
  | @need event need appended _ status =>
      refine ⟨event, appended, fun types => ?_, fun type => ?_⟩
      · rcases types with type | type <;> rw [type] at status <;> cases status
      · rw [type] at status
        cases status
  | perception _ _ appended type =>
      refine ⟨_, appended, fun types => ?_, fun other => ?_⟩
      · rcases types with other | other <;> rw [type] at other <;> cases other
      · rw [type] at other
        cases other

/-- Writes of one case, one after another. -/
def Writes (recording : Bool) (caseId : String) : CaseStore → CaseStore → Prop :=
  ReflTransGen (Write recording caseId)

/-- A need that is stored keeps its case. -/
theorem Write.needCase (write : Write recording caseId store next)
    (found : store.needs.get? id = some need) :
    ∃ later, next.needs.get? id = some later ∧ later.caseId = need.caseId := by
  cases write with
  | item _ _ _ needs =>
      rw [needs]
      exact ⟨need, found, rfl⟩
  | @need event changed appended named status ofCase before needs perceptions =>
      rw [needs]
      by_cases same : changed.needId = id
      · subst same
        exact ⟨changed, if_pos rfl, ofCase.trans (before need found).symm⟩
      · exact ⟨need, by rw [if_neg same, found], rfl⟩
  | perception _ _ _ _ _ _ _ _ _ _ needs =>
      rw [needs]
      exact ⟨need, found, rfl⟩

theorem Writes.needCase (writes : Writes recording caseId store next)
    (found : store.needs.get? id = some need) :
    ∃ later, next.needs.get? id = some later ∧ later.caseId = need.caseId := by
  induction writes with
  | refl => exact ⟨need, found, rfl⟩
  | tail _ write ih =>
      obtain ⟨middle, middleFound, same⟩ := ih
      obtain ⟨later, laterFound, sameAgain⟩ := write.needCase middleFound
      exact ⟨later, laterFound, sameAgain.trans same⟩

/-! ## One unit -/

/-- The row of a case after a lifecycle move. -/
structure SameCase (old new : InvestigationCaseModel) : Prop where
  caseId : new.caseId = old.caseId
  revision : new.currentRevision = old.currentRevision
  goal : new.goal = old.goal
  targets : new.targetObjectIds = old.targetObjectIds
  initial : new.initialKnowledgeRevision = old.initialKnowledgeRevision

/-- **One unit of change.** -/
inductive Change (recording : Bool) (store : CaseStore) : CaseStore → Prop
  | created {row : InvestigationCaseModel} {cases : Table InvestigationCaseModel String (·.caseId)}
      (new : row.currentRevision = 0) (inserted : store.cases.insert? row = some cases) :
      Change recording store { store with cases }
  | moved (caseId : String) (rewrite : InvestigationCaseModel → InvestigationCaseModel)
      (keeps : ∀ row, (rewrite row).caseId = row.caseId)
      (same : ∀ row, SameCase row (rewrite row)) :
      Change recording store (store.updateCase caseId rewrite keeps)
  | written {caseId : String} {middle : CaseStore} {row : InvestigationCaseModel}
      (writes : Writes recording caseId store middle) (found : middle.cases.get? caseId = some row)
      (now : ℤ) : Change recording store (writeCurrent middle row now).2

/-- Units, one after another. -/
def Changes (recording : Bool) : CaseStore → CaseStore → Prop :=
  ReflTransGen (Change recording)

theorem Changes.of_change (change : Change recording store next) :
    Changes recording store next := .single change

/-! ## The projection -/

theorem rebuildState_ok (ok : rebuildState store caseId now = .ok (state, next)) :
    ∃ row, store.cases.get? caseId = some row ∧ state = projectedState store row now ∧
      next = (writeCurrent store row now).2 := by
  unfold rebuildState getCase at ok
  simp only [fetch_bind_eq_ok, pure_eq_ok] at ok
  obtain ⟨row, found, rebuilt⟩ := ok
  have written : rebuildCurrent store row true now = writeCurrent store row now := by
    unfold rebuildCurrent
    cases store.currents.get? row.caseId with
    | none => rfl
    | some current => simp
  rw [written] at rebuilt
  exact ⟨row, found, (congrArg Prod.fst rebuilt).symm, (congrArg Prod.snd rebuilt).symm⟩

/-- Rebuilding after writes is one unit. -/
theorem Change.of_rebuild {middle : CaseStore} (writes : Writes recording caseId store middle)
    (ok : rebuildState middle caseId now = .ok (state, next)) :
    Change recording store next := by
  obtain ⟨row, found, -, rfl⟩ := rebuildState_ok ok
  exact .written writes found now

/-- `get_state` returns the projection, after writing it if there was none. -/
theorem getState_ok (ok : getState store caseId now = .ok (state, next)) :
    ∃ row, store.cases.get? caseId = some row ∧
      ((store.currents.get? caseId = some state ∧ next = store) ∨
        (store.currents.get? caseId = none ∧ state = projectedState store row now ∧
          next = (writeCurrent store row now).2)) := by
  unfold getState getCase at ok
  simp only [fetch_bind_eq_ok] at ok
  obtain ⟨row, found, ok⟩ := ok
  refine ⟨row, found, ?_⟩
  cases present : store.currents.get? caseId with
  | some current =>
      rw [present] at ok
      cases ok
      exact .inl ⟨rfl, rfl⟩
  | none =>
      rw [present] at ok
      have rebuilt : rebuildCurrent store row false now = writeCurrent store row now := by
        have same : row.caseId = caseId := key_of_get? found
        rw [rebuildCurrent, same, present]
      simp only [rebuilt, pure_eq_ok] at ok
      exact .inr ⟨rfl, (congrArg Prod.fst ok).symm, (congrArg Prod.snd ok).symm⟩

theorem Changes.of_getState (ok : getState store caseId now = .ok (state, next)) :
    Changes recording store next := by
  obtain ⟨row, found, ⟨-, rfl⟩ | ⟨-, -, rfl⟩⟩ := getState_ok ok
  · exact .refl
  · exact .of_change (.written .refl found now)

/-! ## The courses of the calls -/

theorem lockCase_ok (locked : lockCase store caseId = .ok row) :
    store.cases.get? caseId = some row ∧ row.status.isImmutable = false := by
  unfold lockCase getCase at locked
  simp only [fetch_bind_eq_ok, require_bind_eq_ok, pure_eq_ok] at locked
  obtain ⟨_, found, mutable, rfl⟩ := locked
  exact ⟨found, mutable⟩

theorem lockCase_of (found : store.cases.get? caseId = some row)
    (mutable : row.status.isImmutable = false) :
    lockCase store caseId = .ok row := by
  unfold lockCase getCase
  simp only [fetch_bind_eq_ok, require_bind_eq_ok, pure_eq_ok]
  exact ⟨row, found, mutable, rfl⟩

/-- `open_evidence_need` finds the need, or logs that it is opened and stores it. -/
theorem openEvidenceNeed_course {request : OpenEvidenceNeed}
    (ok : openEvidenceNeed store knowledge request eventIds now = .ok (result, next)) :
    ∃ row, lockCase store request.caseId = .ok row ∧
      ((result.replay = true ∧ (∃ need, store.needs.get? request.needId = some need) ∧
          (store.eventsOf request.caseId).find? (fun event =>
            event.eventType = .evidenceNeedOpened ∧
              event.payload.needId = some request.needId) = some result.event ∧
          getState store request.caseId now = .ok (result.state, next)) ∨
        (result.replay = false ∧ store.needs.get? request.needId = none ∧
          (row.currentRevision : ℤ) = request.baseCaseRevision ∧
          ∃ logged needs, appendEvent store request.caseId (needOpenedEvent request) eventIds now =
              .ok (result.event, logged) ∧
            logged.needs.insert? (newNeed request result.event.caseRevision now) = some needs ∧
            rebuildState { logged with needs } request.caseId now = .ok (result.state, next) ∧
            needView (newNeed request result.event.caseRevision now) = .ok result.need)) := by
  unfold openEvidenceNeed at ok
  obtain ⟨row, locked, ok⟩ := bind_eq_ok.1 ok
  refine ⟨row, locked, ?_⟩
  split at ok
  next need found =>
    obtain ⟨event, opening, ok⟩ := fetch_bind_eq_ok.1 ok
    obtain ⟨view, -, ok⟩ := bind_eq_ok.1 ok
    obtain ⟨⟨state, last⟩, read, ok⟩ := bind_eq_ok.1 ok
    cases ok
    exact .inl ⟨rfl, ⟨need, found⟩, opening, read⟩
  next absent =>
    simp only [requireRevision, require_bind_eq_ok] at ok
    obtain ⟨revision, -, -, -, ok⟩ := ok
    obtain ⟨⟨event, logged⟩, appended, ok⟩ := bind_eq_ok.1 ok
    obtain ⟨needs, inserted, ok⟩ := fetch_bind_eq_ok.1 ok
    obtain ⟨⟨state, last⟩, rebuilt, ok⟩ := bind_eq_ok.1 ok
    obtain ⟨view, viewed, ok⟩ := bind_eq_ok.1 ok
    cases ok
    exact .inr ⟨rfl, absent, revision, logged, needs, appended, inserted, rebuilt, viewed⟩

/-- `reopen_evidence_need` finds its event, finds the need open, or logs that it is opened. -/
theorem reopenEvidenceNeed_course {request : ReopenEvidenceNeed}
    (ok : reopenEvidenceNeed store request eventIds now = .ok (result, next)) :
    ∃ need row, store.needs.get? request.needId = some need ∧
      lockCase store need.caseId = .ok row ∧
      ((result.replay = true ∧ getState store need.caseId now = .ok (result.state, next) ∧
          (eventOfCall? store need.caseId request.reopenKey .evidenceNeedOpened =
              some result.event ∨
            eventOfCall? store need.caseId request.reopenKey .evidenceNeedOpened = none ∧
              need.status = .open ∧ lastOpening? store need.caseId = some result.event)) ∨
        (result.replay = false ∧
          eventOfCall? store need.caseId request.reopenKey .evidenceNeedOpened = none ∧
          need.status ≠ .open ∧ (row.currentRevision : ℤ) = request.baseCaseRevision ∧
          ∃ logged, appendEvent store need.caseId (needReopenedEvent need request) eventIds now =
              .ok (result.event, logged) ∧
            rebuildState (logged.updateNeed need.needId
              (·.withOpen result.event.caseRevision now)
              (·.withOpen_needId result.event.caseRevision now)) need.caseId now =
              .ok (result.state, next))) := by
  unfold reopenEvidenceNeed at ok
  obtain ⟨need, found, ok⟩ := fetch_bind_eq_ok.1 ok
  obtain ⟨row, locked, ok⟩ := bind_eq_ok.1 ok
  refine ⟨need, row, found, locked, ?_⟩
  split at ok
  next event known =>
    obtain ⟨view, -, ok⟩ := bind_eq_ok.1 ok
    obtain ⟨⟨state, last⟩, read, ok⟩ := bind_eq_ok.1 ok
    cases ok
    exact .inl ⟨rfl, read, .inl known⟩
  next unused =>
  split at ok
  next opened =>
    obtain ⟨event, latest, ok⟩ := fetch_bind_eq_ok.1 ok
    obtain ⟨view, -, ok⟩ := bind_eq_ok.1 ok
    obtain ⟨⟨state, last⟩, read, ok⟩ := bind_eq_ok.1 ok
    cases ok
    exact .inl ⟨rfl, read, .inr ⟨unused, opened, latest⟩⟩
  next closed =>
    simp only [requireRevision, require_bind_eq_ok] at ok
    obtain ⟨revision, ok⟩ := ok
    obtain ⟨⟨event, logged⟩, appended, ok⟩ := bind_eq_ok.1 ok
    obtain ⟨⟨state, last⟩, rebuilt, ok⟩ := bind_eq_ok.1 ok
    obtain ⟨view, -, ok⟩ := bind_eq_ok.1 ok
    cases ok
    exact .inr ⟨rfl, unused, closed, revision, logged, appended, rebuilt⟩

/-- `apply_patch` finds events of the patch, or applies its operations after validating them. -/
theorem applyPatch_course {result : StatePatchApplyResult}
    (ok : applyPatch store knowledge patch reasonCode eventIds now = .ok (result, next)) :
    ∃ row, lockCase store patch.caseId = .ok row ∧
      ((result.replay = true ∧ patchEvents store patch.caseId patch.patchId ≠ [] ∧
          getState store patch.caseId now = .ok (result.state, next)) ∨
        (result.replay = false ∧ patchEvents store patch.caseId patch.patchId = [] ∧
          (row.currentRevision : ℤ) = patch.baseCaseRevision ∧
          (∀ operation ∈ patch.operations,
            validateOperation store knowledge patch.caseId operation = .ok ()) ∧
          ∃ middle, applyOperations patch reasonCode eventIds now store 0 patch.operations =
              .ok (result.events, middle) ∧
            rebuildState middle patch.caseId now = .ok (result.state, next))) := by
  unfold applyPatch at ok
  obtain ⟨row, locked, ok⟩ := bind_eq_ok.1 ok
  refine ⟨row, locked, ?_⟩
  split at ok
  next first rest known =>
    obtain ⟨⟨state, last⟩, read, ok⟩ := bind_eq_ok.1 ok
    cases ok
    exact .inl ⟨rfl, by simp [known], read⟩
  next fresh =>
    simp only [requireRevision, require_bind_eq_ok] at ok
    obtain ⟨revision, ok⟩ := ok
    obtain ⟨_, checked, ok⟩ := bind_eq_ok.1 ok
    obtain ⟨⟨events, middle⟩, loop, ok⟩ := bind_eq_ok.1 ok
    obtain ⟨⟨state, last⟩, rebuilt, ok⟩ := bind_eq_ok.1 ok
    cases ok
    exact .inr ⟨rfl, fresh, revision, forM_eq_ok.1 checked, middle, loop, rebuilt⟩

/-- `commit_decision` finds the event of the decision, or logs it. -/
theorem commitDecision_course {commit : DecisionCommit} {result : DecisionCommitResult}
    (ok : commitDecision store commit eventIds now = .ok (result, next)) :
    ∃ row, lockCase store commit.caseId = .ok row ∧
      ((result.replay = true ∧
          eventOfCall? store commit.caseId commit.decisionId .decisionChanged =
            some result.event ∧
          getState store commit.caseId now = .ok (result.state, next)) ∨
        (result.replay = false ∧
          eventOfCall? store commit.caseId commit.decisionId .decisionChanged = none ∧
          (row.currentRevision : ℤ) = commit.baseCaseRevision ∧
          ∃ logged, appendEvent store commit.caseId (decisionEvent commit) eventIds now =
              .ok (result.event, logged) ∧
            rebuildState logged commit.caseId now = .ok (result.state, next))) := by
  unfold commitDecision at ok
  obtain ⟨row, locked, ok⟩ := bind_eq_ok.1 ok
  refine ⟨row, locked, ?_⟩
  split at ok
  next event known =>
    obtain ⟨⟨state, last⟩, read, ok⟩ := bind_eq_ok.1 ok
    cases ok
    exact .inl ⟨rfl, known, read⟩
  next fresh =>
    simp only [requireRevision, require_bind_eq_ok] at ok
    obtain ⟨revision, ok⟩ := ok
    obtain ⟨⟨event, logged⟩, appended, ok⟩ := bind_eq_ok.1 ok
    obtain ⟨⟨state, last⟩, rebuilt, ok⟩ := bind_eq_ok.1 ok
    cases ok
    exact .inr ⟨rfl, fresh, revision, logged, appended, rebuilt⟩

/-- The event of a perception is logged, or there already. -/
theorem markPerception_course {perceptionEventId : String} {worldRevision : ℕ} {perceivedAt : ℤ}
    (ok : markPerception store caseId perceptionEventId worldRevision perceivedAt eventIds now =
      .ok (state, next)) :
    ∃ middle, rebuildState middle caseId now = .ok (state, next) ∧
      ((∃ event, appendEvent store caseId (perceptionEvent perceptionEventId worldRevision
            perceivedAt) eventIds now = .ok (event, middle) ∧
          eventOfCall? store caseId ("perception:" ++ perceptionEventId) .perceptionRecorded =
            none) ∨
        (middle = store ∧ ∃ event, eventOfCall? store caseId
          ("perception:" ++ perceptionEventId) .perceptionRecorded = some event)) := by
  unfold markPerception at ok
  obtain ⟨row, -, ok⟩ := bind_eq_ok.1 ok
  obtain ⟨middle, logs, rebuilt⟩ := bind_eq_ok.1 ok
  refine ⟨middle, rebuilt, ?_⟩
  unfold logPerception at logs
  split at logs
  next fresh =>
    obtain ⟨⟨event, last⟩, appended, logs⟩ := bind_eq_ok.1 logs
    cases logs
    exact .inl ⟨event, appended, fresh⟩
  next event known =>
    obtain ⟨-, logs⟩ := require_bind_eq_ok.1 logs
    cases logs
    exact .inr ⟨rfl, event, known⟩

/-! ## The writes of the calls -/

/-- An event that is no coordinate is a write of its own. -/
theorem Write.of_append {store next : CaseStore} {caseId : String} {request : CaseEventRequest}
    {eventIds : EventIds} {now : ℤ} {event : CaseStateEventModel}
    (plain : request.eventType.isCoordinate = false)
    (evidence : request.eventType = .factConfirmed ∨ request.eventType = .conflictOpened →
      request.evidenceRefs ≠ [])
    (deterministic : request.eventType = .factConfirmed →
      isInferred request.payload.reasoningRelation = false)
    (ok : appendEvent store caseId request eventIds now = .ok (event, next)) :
    Write recording caseId store next := by
  obtain ⟨⟨row, -, rfl⟩, appended, needs, perceptions⟩ := appendEvent_ok ok
  exact .item appended plain ⟨evidence, deterministic⟩ needs perceptions

/-- A need that is opened: its row is inserted after its event, and the log does not see it. -/
theorem Write.of_opened {request : OpenEvidenceNeed} {logged : CaseStore}
    {needs : Table EvidenceNeedModel String (·.needId)}
    (absent : store.needs.get? request.needId = none)
    (ok : appendEvent store request.caseId (needOpenedEvent request) eventIds now =
      .ok (event, logged))
    (inserted : logged.needs.insert? (newNeed request event.caseRevision now) = some needs) :
    Write recording request.caseId store { logged with needs } := by
  obtain ⟨⟨_, -, made⟩, appended, sameNeeds, samePerceptions⟩ := appendEvent_ok ok
  have logs : Appended store { logged with needs } request.caseId event :=
    ⟨appended.row, appended.ofCase, appended.cases, appended.events, appended.currents⟩
  refine .need (newNeed request event.caseRevision now) logs (by rw [made]; rfl)
    (by rw [made]; rfl) rfl ?_ ?_ samePerceptions
  · intro old found
    rw [show store.needs.get? request.needId = some old from found] at absent
    cases absent
  · intro id
    rw [← sameNeeds]
    exact get?_insert? inserted id

variable (recording) in
theorem openEvidenceNeed_ok {request : OpenEvidenceNeed}
    (ok : openEvidenceNeed store knowledge request eventIds now = .ok (result, next)) :
    ∃ row, store.cases.get? request.caseId = some row ∧
      ((result.replay = true ∧ (∃ need, store.needs.get? request.needId = some need) ∧
          Changes recording store next) ∨
        (result.replay = false ∧ store.needs.get? request.needId = none ∧
          (row.currentRevision : ℤ) = request.baseCaseRevision ∧
          ∃ middle state, Write recording request.caseId store middle ∧
            rebuildState middle request.caseId now = .ok (state, next))) := by
  obtain ⟨row, locked, course⟩ := openEvidenceNeed_course ok
  refine ⟨row, (lockCase_ok locked).1, ?_⟩
  rcases course with ⟨replay, found, -, read⟩ |
    ⟨fresh, absent, revision, logged, needs, appended, inserted, rebuilt, -⟩
  · exact .inl ⟨replay, found, .of_getState read⟩
  · exact .inr ⟨fresh, absent, revision, _, _, .of_opened absent appended inserted, rebuilt⟩

theorem get?_updateNeed (store : CaseStore) (needId : String)
    (rewrite : EvidenceNeedModel → EvidenceNeedModel)
    (keeps : ∀ row, (rewrite row).needId = row.needId) (id : String) :
    (store.updateNeed needId rewrite keeps).needs.get? id =
      if needId = id then (store.needs.get? id).map rewrite else store.needs.get? id :=
  get?_update store.needs needId rewrite keeps id

/-- A need and its event, the row being rewritten before and after the event. -/
theorem Write.of_need (new : EvidenceNeedModel) {marked : CaseStore}
    (found : store.needs.get? old.needId = some old) (ofCase : old.caseId = caseId)
    (sameId : new.needId = old.needId) (sameCase : new.caseId = old.caseId)
    (appended : ∃ logged, appendEvent marked caseId request eventIds now = .ok (event, logged) ∧
      next.cases = logged.cases ∧ next.events = logged.events ∧
      next.perceptions = logged.perceptions ∧ next.currents = logged.currents)
    (beforeNeeds : marked.cases = store.cases ∧ marked.events = store.events ∧
      marked.perceptions = store.perceptions ∧ marked.currents = store.currents)
    (needs : ∀ id, next.needs.get? id =
      if old.needId = id then some new else store.needs.get? id)
    (named : request.payload.needId = some old.needId)
    (status : needStatusAfter request.eventType = some new.status) :
    Write recording caseId store next := by
  obtain ⟨sameCases, sameEvents, samePerceptions, sameCurrents⟩ := beforeNeeds
  obtain ⟨logged, ok, nextCases, nextEvents, nextPerceptions, nextCurrents⟩ := appended
  obtain ⟨⟨_, -, made⟩, logs, -, loggedPerceptions⟩ := appendEvent_ok ok
  have grown : Appended store next caseId event := by
    refine ⟨?_, logs.ofCase, fun other => ?_, ?_, ?_⟩
    · rw [← sameCases]
      exact logs.row
    · rw [nextCases, logs.cases, sameCases]
    · rw [nextEvents, logs.events, sameEvents]
    · rw [nextCurrents, logs.currents, sameCurrents]
  refine .need new grown ?_ ?_ (sameCase.trans ofCase) ?_ ?_ ?_
  · rw [made, sameId]
    exact named
  · rw [made]
    exact status
  · intro other otherFound
    rw [sameId, found] at otherFound
    cases otherFound
    exact ofCase
  · rw [sameId]
    exact needs
  · rw [nextPerceptions, loggedPerceptions, samePerceptions]

variable (recording) in
theorem reopenEvidenceNeed_ok {request : ReopenEvidenceNeed}
    (ok : reopenEvidenceNeed store request eventIds now = .ok (result, next)) :
    ∃ need row, store.needs.get? request.needId = some need ∧
      store.cases.get? need.caseId = some row ∧
      ((result.replay = true ∧
          ((eventOfCall? store need.caseId request.reopenKey .evidenceNeedOpened).isSome ∨
            need.status = .open) ∧ Changes recording store next) ∨
        (result.replay = false ∧ (row.currentRevision : ℤ) = request.baseCaseRevision ∧
          ∃ middle state, Write recording need.caseId store middle ∧
            rebuildState middle need.caseId now = .ok (state, next))) := by
  obtain ⟨need, row, found, locked, course⟩ := reopenEvidenceNeed_course ok
  refine ⟨need, row, found, (lockCase_ok locked).1, ?_⟩
  rcases course with ⟨replay, read, known⟩ | ⟨fresh, -, -, revision, logged, appended, rebuilt⟩
  · refine .inl ⟨replay, known.imp (fun known => ?_) (·.2.1), .of_getState read⟩
    simp [known]
  · refine .inr ⟨fresh, revision, _, _, ?_, rebuilt⟩
    rw [← key_of_get? found] at found
    refine Write.of_need (need.withOpen result.event.caseRevision now) found rfl rfl rfl
      ⟨logged, appended, rfl, rfl, rfl, rfl⟩ ⟨rfl, rfl, rfl, rfl⟩ ?_ rfl rfl
    intro id
    rw [get?_updateNeed, (appendEvent_ok appended).2.2.1]
    split
    next same =>
      subst same
      rw [found]
      rfl
    next => rfl

/-- A need that is rewritten, logged and rewritten again. -/
theorem get?_updateNeed_twice {logged : CaseStore}
    {first second : EvidenceNeedModel → EvidenceNeedModel}
    {keepsFirst : ∀ row, (first row).needId = row.needId}
    {keepsSecond : ∀ row, (second row).needId = row.needId}
    (found : store.needs.get? old.needId = some old)
    (same : logged.needs = (store.updateNeed old.needId first keepsFirst).needs) (id : String) :
    (logged.updateNeed old.needId second keepsSecond).needs.get? id =
      if old.needId = id then some (second (first old)) else store.needs.get? id := by
  rw [get?_updateNeed, same, get?_updateNeed]
  split
  next equal =>
    subst equal
    rw [found]
    rfl
  next => rfl

theorem resolveNeedFromOperation_ok {writer : String} {resolved : Option CaseStateEventModel}
    (known : ∀ id ∈ operation.resolvesNeedId, ∃ need, store.needs.get? id = some need ∧
      need.caseId = caseId)
    (ok : resolveNeedFromOperation store caseId operation writer eventIds now =
      .ok (resolved, next)) : Writes recording caseId store next := by
  unfold resolveNeedFromOperation at ok
  split at ok
  next =>
    cases ok
    exact .refl
  next needId named =>
    obtain ⟨need, found, ok⟩ := fetch_bind_eq_ok.1 ok
    obtain ⟨⟨event, logged⟩, appended, ok⟩ := bind_eq_ok.1 ok
    cases ok
    obtain ⟨other, otherFound, ofCase⟩ := known needId named
    obtain rfl := mem_unique otherFound found
    obtain rfl : other.needId = needId := key_of_get? found
    refine .single ?_
    refine Write.of_need ((other.withResolved operation.evidenceRefs now).withRevision
      event.caseRevision) found ofCase rfl rfl ⟨logged, appended, rfl, rfl, rfl, rfl⟩
      ⟨rfl, rfl, rfl, rfl⟩ ?_ rfl rfl
    exact get?_updateNeed_twice found (appendEvent_ok appended).2.2.1

/-- What `_validate_patch` establishes of an operation. -/
structure Validated (store : CaseStore) (caseId : String) (operation : StatePatchOperation) :
    Prop where
  deterministic : operation.proposedState = .confirmed → operation.disposition = .set →
    isInferred operation.reasoningRelation = false
  need : ∀ id ∈ operation.resolvesNeedId, ∃ need, store.needs.get? id = some need ∧
    need.caseId = caseId

theorem validateResolvedNeed_ok
    (checked : validateResolvedNeed store knowledge caseId operation = .ok answer) :
    ∀ id ∈ operation.resolvesNeedId, ∃ need, store.needs.get? id = some need ∧
      need.caseId = caseId ∧ need.status = .open := by
  intro id named
  unfold validateResolvedNeed at checked
  rw [mem_def.1 named] at checked
  simp only [fetch_bind_eq_ok, require_bind_eq_ok] at checked
  obtain ⟨need, found, status, -⟩ := checked
  rw [Option.filter_eq_some_iff] at found
  exact ⟨need, found.1, of_decide_eq_true found.2, status⟩

theorem validateOperation_ok
    (checked : validateOperation store knowledge caseId operation = .ok answer) :
    Validated store caseId operation := by
  unfold validateOperation at checked
  obtain ⟨-, checked⟩ := require_bind_eq_ok.1 checked
  obtain ⟨_, -, checked⟩ := bind_eq_ok.1 checked
  obtain ⟨_, -, checked⟩ := bind_eq_ok.1 checked
  obtain ⟨inferred, checked⟩ := require_bind_eq_ok.1 checked
  constructor
  case deterministic =>
    intro state set
    by_contra other
    exact inferred ⟨by simpa using other, state, set⟩
  case need =>
    intro id named
    obtain ⟨need, found, ofCase, -⟩ := validateResolvedNeed_ok checked id named
    exact ⟨need, found, ofCase⟩

/-- What an operation proposes, read off the type of its event. -/
theorem eventTypeFor_eq {operation : StatePatchOperation} :
    (eventTypeFor operation = .factConfirmed ↔
        operation.proposedState = .confirmed ∧ operation.disposition = .set) ∧
      (eventTypeFor operation = .conflictOpened ↔
        operation.proposedState = .conflict ∧ operation.disposition = .set) ∧
      (eventTypeFor operation).isCoordinate = false := by
  unfold eventTypeFor
  cases operation.proposedState <;> cases operation.disposition <;>
    simp [CaseStateEventType.isCoordinate]

theorem Write.of_operation
    (deterministic : operation.proposedState = .confirmed → operation.disposition = .set →
      isInferred operation.reasoningRelation = false)
    (ok : appendEvent store patch.caseId (operationEvent patch reasonCode index operation)
      eventIds now = .ok (event, next)) : Write recording patch.caseId store next := by
  obtain ⟨confirms, disputes, plain⟩ := @eventTypeFor_eq operation
  refine .of_append plain ?_ ?_ ok
  · rintro (confirmed | disputed)
    · obtain ⟨state, set⟩ := confirms.1 confirmed
      exact operation.evidence_required (.inl state) set
    · obtain ⟨state, set⟩ := disputes.1 disputed
      exact operation.evidence_required (.inr state) set
  · intro confirmed
    obtain ⟨state, set⟩ := confirms.1 confirmed
    exact deterministic state set

theorem Validated.writes (validated : Validated store caseId operation)
    (writes : Writes recording caseId store next) : Validated next caseId operation where
  deterministic := validated.deterministic
  need id named := by
    obtain ⟨need, found, ofCase⟩ := validated.need id named
    obtain ⟨later, laterFound, same⟩ := writes.needCase found
    exact ⟨later, laterFound, same.trans ofCase⟩

theorem applyOperations_ok {operations : List StatePatchOperation}
    {events : List CaseStateEventModel}
    (validated : ∀ operation ∈ operations, Validated store patch.caseId operation)
    (ok : applyOperations patch reasonCode eventIds now store index operations =
      .ok (events, next)) : Writes recording patch.caseId store next := by
  induction operations generalizing store index events with
  | nil =>
      cases ok
      exact .refl
  | cons operation rest ih =>
      obtain ⟨⟨event, logged⟩, appended, ok⟩ := bind_eq_ok.1 ok
      obtain ⟨⟨resolved, settled⟩, settles, ok⟩ := bind_eq_ok.1 ok
      obtain ⟨⟨later, last⟩, applied, ok⟩ := bind_eq_ok.1 ok
      cases ok
      have here := validated operation mem_cons_self
      have first : Writes recording patch.caseId store logged :=
        .single (.of_operation here.deterministic appended)
      have second : Writes recording patch.caseId logged settled :=
        resolveNeedFromOperation_ok (here.writes first).need settles
      have both : Writes recording patch.caseId store settled := first.trans second
      refine both.trans (ih (fun other member => ?_) applied)
      exact (validated other (mem_cons_of_mem _ member)).writes both

variable (recording) in
theorem applyPatch_ok {result : StatePatchApplyResult}
    (ok : applyPatch store knowledge patch reasonCode eventIds now = .ok (result, next)) :
    ∃ row, store.cases.get? patch.caseId = some row ∧
      ((result.replay = true ∧ patchEvents store patch.caseId patch.patchId ≠ [] ∧
          Changes recording store next) ∨
        (result.replay = false ∧ patchEvents store patch.caseId patch.patchId = [] ∧
          row.currentRevision = patch.baseCaseRevision ∧
          ∃ first middle state, Write recording patch.caseId store first ∧
            Writes recording patch.caseId first middle ∧
            rebuildState middle patch.caseId now = .ok (state, next))) := by
  obtain ⟨row, locked, course⟩ := applyPatch_course ok
  refine ⟨row, (lockCase_ok locked).1, ?_⟩
  rcases course with ⟨replay, known, read⟩ |
    ⟨applied, fresh, revision, checked, final, loop, rebuilt⟩
  · exact .inl ⟨replay, known, .of_getState read⟩
  · have validated : ∀ operation ∈ patch.operations, Validated store patch.caseId operation :=
      fun operation member => validateOperation_ok (checked operation member)
    refine .inr ⟨applied, fresh, by exact_mod_cast revision, ?_⟩
    generalize result.events = events at loop
    -- a patch has an operation, so there is a first write
    cases operations : patch.operations with
    | nil => exact absurd operations patch.operations_nonempty
    | cons operation rest =>
        rw [operations] at loop validated
        obtain ⟨⟨event, logged⟩, appended, loop⟩ := bind_eq_ok.1 loop
        obtain ⟨⟨resolved, settled⟩, settles, loop⟩ := bind_eq_ok.1 loop
        obtain ⟨⟨later, done⟩, rounds, loop⟩ := bind_eq_ok.1 loop
        cases loop
        have here := validated operation mem_cons_self
        have first : Write recording patch.caseId store logged :=
          .of_operation here.deterministic appended
        have one : Writes recording patch.caseId store logged := .single first
        have second : Writes recording patch.caseId logged settled :=
          resolveNeedFromOperation_ok (here.writes one).need settles
        refine ⟨logged, _, _, first, second.trans (applyOperations_ok ?_ rounds), rebuilt⟩
        intro other member
        exact (validated other (mem_cons_of_mem _ member)).writes (one.trans second)

variable (recording) in
theorem commitDecision_ok {commit : DecisionCommit} {result : DecisionCommitResult}
    (ok : commitDecision store commit eventIds now = .ok (result, next)) :
    ∃ row, store.cases.get? commit.caseId = some row ∧
      ((result.replay = true ∧
          (eventOfCall? store commit.caseId commit.decisionId .decisionChanged).isSome ∧
          Changes recording store next) ∨
        (result.replay = false ∧
          eventOfCall? store commit.caseId commit.decisionId .decisionChanged = none ∧
          row.currentRevision = commit.baseCaseRevision ∧
          ∃ middle state, Write recording commit.caseId store middle ∧
            rebuildState middle commit.caseId now = .ok (state, next))) := by
  obtain ⟨row, locked, course⟩ := commitDecision_course ok
  refine ⟨row, (lockCase_ok locked).1, ?_⟩
  rcases course with ⟨replay, known, read⟩ | ⟨applied, fresh, revision, logged, appended, rebuilt⟩
  · exact .inl ⟨replay, by simp [known], .of_getState read⟩
  · refine .inr ⟨applied, fresh, by exact_mod_cast revision, logged, _, ?_, rebuilt⟩
    refine .of_append rfl ?_ ?_ appended
    · rintro (other | other) <;> cases other
    · intro other
      cases other

/-! ## Perceptions -/

/-- The event is the one by which the perception has been recorded. -/
structure Marks (event : CaseStateEventModel) (perception : PerceptionEventModel) : Prop where
  type : event.eventType = .perceptionRecorded
  ofCase : event.caseId = perception.caseId
  key : event.patchId = some ("perception:" ++ perception.perceptionEventId)
  index : event.operationIndex = some 0
  world : event.payload.worldRevision = some perception.worldRevision
  perceived : event.payload.perceivedAt = some perception.finishedAt

/-- The perceptions and the events that record them are the same. -/
structure PerceptionsLogged (store : CaseStore) : Prop where
  logged : ∀ perception ∈ store.perceptions.rows, ∃ event ∈ store.events.rows,
    Marks event perception
  stored : ∀ event ∈ store.events.rows, event.eventType = .perceptionRecorded →
    ∃ perception ∈ store.perceptions.rows, Marks event perception

theorem PerceptionsLogged.empty : PerceptionsLogged CaseStore.empty where
  logged perception member := by cases member
  stored event member := by cases member

section

variable (kept : PerceptionsLogged store)

include kept

/-- A write that is no perception. -/
theorem PerceptionsLogged.of_other
    (appended : Appended store next caseId event) (other : event.eventType ≠ .perceptionRecorded)
    (perceptions : next.perceptions = store.perceptions) : PerceptionsLogged next := by
  refine ⟨fun perception member => ?_, fun mark member type => ?_⟩
  · rw [perceptions] at member
    obtain ⟨mark, marked, marks⟩ := kept.logged perception member
    rw [appended.events]
    exact ⟨mark, mem_append_left _ marked, marks⟩
  · rw [appended.events, mem_append, mem_singleton] at member
    rw [perceptions]
    rcases member with old | rfl
    · exact kept.stored mark old type
    · exact absurd type other

theorem PerceptionsLogged.write
    (write : Write recording caseId store next) :
    PerceptionsLogged next := by
  cases write with
  | item appended plain _ _ perceptions =>
      refine kept.of_other appended (fun type => ?_) perceptions
      rw [type] at plain
      cases plain
  | need _ appended _ status _ _ _ perceptions =>
      refine kept.of_other appended (fun type => ?_) perceptions
      rw [type] at status
      cases status
  | @perception event perception _ appended type world perceived named key index ofCase _ inserted =>
      have marks : Marks event perception :=
        ⟨type, appended.ofCase.trans ofCase.symm, key, index, world, perceived⟩
      have rows := (insert?_eq_some inserted).1
      refine ⟨fun other member => ?_, fun mark member marked => ?_⟩
      · rw [appended.events]
        rw [rows, mem_append, mem_singleton] at member
        rcases member with earlier | rfl
        · obtain ⟨mark, listed, old⟩ := kept.logged other earlier
          exact ⟨mark, mem_append_left _ listed, old⟩
        · exact ⟨event, mem_append_right _ (mem_singleton_self event), marks⟩
      · rw [rows]
        rw [appended.events, mem_append, mem_singleton] at member
        rcases member with earlier | rfl
        · obtain ⟨other, listed, old⟩ := kept.stored mark earlier marked
          exact ⟨other, mem_append_left _ listed, old⟩
        · exact ⟨perception, mem_append_right _ (mem_singleton_self perception), marks⟩

theorem PerceptionsLogged.writes
    (writes : Writes recording caseId store next) :
    PerceptionsLogged next := by
  induction writes with
  | refl => exact kept
  | tail _ write ih => exact ih.write write

theorem PerceptionsLogged.change
    (change : Change recording store next) : PerceptionsLogged next := by
  cases change with
  | created => exact { kept with }
  | moved => exact { kept with }
  | written writes => exact { kept.writes writes with }

theorem PerceptionsLogged.changes
    (changes : Changes recording store next) : PerceptionsLogged next := by
  induction changes with
  | refl => exact kept
  | tail _ change ih => exact ih.change change

/-- A perception that is in the table is marked again without a write. -/
theorem markPerception_again {perception : PerceptionEventModel}
    (member : perception ∈ store.perceptions.rows)
    (ok : markPerception store perception.caseId perception.perceptionEventId
      perception.worldRevision perception.finishedAt eventIds now = .ok (state, next)) :
    Changes recording store next := by
  obtain ⟨middle, rebuilt, ⟨-, -, absent⟩ | ⟨rfl, -⟩⟩ := markPerception_course ok
  · obtain ⟨event, listed, marks⟩ := kept.logged perception member
    have present : (eventOfCall? store perception.caseId
        ("perception:" ++ perception.perceptionEventId) .perceptionRecorded).isSome = true := by
      rw [eventOfCall?, find?_isSome]
      refine ⟨event, ?_, by simp [marks.key, marks.index, marks.type]⟩
      simp [eventsOf, listed, marks.ofCase]
    rw [absent] at present
    cases present
  · exact .of_change (.of_rebuild .refl rebuilt)

end

/-- The case and the identity of a call that records a new perception. -/
structure RecordsNew (store : CaseStore) (call : RecordPerception) (caseId : String) : Prop where
  fresh : recordedPerception? store call.taskRunId call.request.requestId = none
  ofRun : call.run.bind (·.caseId) = some caseId

theorem checkPerception_ok (checked : checkPerception store call = .ok caseId) :
    call.run.bind (·.caseId) = some caseId := by
  unfold checkPerception at checked
  simp only [require_bind_eq_ok, fetch_bind_eq_ok, pure_eq_ok] at checked
  obtain ⟨-, run, runFound, found, ofRun, -, row, -, -, rfl⟩ := checked
  rw [runFound]
  exact ofRun

theorem recordPerception_ok {perceptionEventId : String} {record : PerceptionEventRecord}
    (kept : PerceptionsLogged store)
    (ok : recordPerception store knowledge call perceptionEventId eventIds now =
      .ok (record, next)) :
    Changes recording store next ∨ ∃ caseId middle state,
      RecordsNew store call caseId ∧ Write true caseId store middle ∧
      rebuildState middle caseId now = .ok (state, next) ∧
      store.perceptions.insert? (newPerception call caseId perceptionEventId
        (currentKnowledgeRevision knowledge)) = some middle.perceptions := by
  unfold recordPerception at ok
  obtain ⟨caseId, checked, ok⟩ := bind_eq_ok.1 ok
  split at ok
  next existing recorded =>
    obtain ⟨-, ok⟩ := require_bind_eq_ok.1 ok
    obtain ⟨⟨state, last⟩, marked, ok⟩ := bind_eq_ok.1 ok
    cases ok
    exact .inl (markPerception_again kept (mem_of_find?_eq_some recorded) marked)
  next fresh =>
    obtain ⟨perceptions, inserted, ok⟩ := fetch_bind_eq_ok.1 ok
    obtain ⟨⟨state, last⟩, marked, ok⟩ := bind_eq_ok.1 ok
    cases ok
    obtain ⟨middle, rebuilt, course⟩ := markPerception_course marked
    have write : Write true caseId store middle ∧ middle.perceptions = perceptions := by
      rcases course with ⟨event, appended, -⟩ | ⟨-, existing, found⟩
      · obtain ⟨⟨_, -, made⟩, logs, needs, samePerceptions⟩ := appendEvent_ok appended
        refine ⟨?_, samePerceptions⟩
        have grown : Appended store middle caseId event :=
          ⟨logs.row, logs.ofCase, logs.cases, logs.events, logs.currents⟩
        refine .perception (newPerception call caseId perceptionEventId
          (currentKnowledgeRevision knowledge)) rfl grown ?_ ?_ ?_ ?_ ?_ ?_ rfl needs ?_
        · rw [made]; rfl
        · rw [made]; rfl
        · rw [made]; rfl
        · rw [made]; rfl
        · rw [made]; rfl
        · rw [made]; rfl
        · rw [samePerceptions]
          exact inserted
      · -- the event of another perception of this identifier, which the table would hold
        have listed := mem_of_find?_eq_some found
        have holds := find?_some found
        simp only [decide_eq_true_eq] at holds
        obtain ⟨key, -, type⟩ := holds
        obtain ⟨member, -⟩ := mem_select.1 listed
        obtain ⟨prior, stored, marks⟩ := kept.stored existing member type
        have sameId : prior.perceptionEventId = perceptionEventId := by
          have texts := mem_unique marks.key key
          rw [← toList_inj] at texts ⊢
          simpa using texts
        have absent := Table.get?_eq_none.1 (insert?_eq_some inserted).2 prior stored
        exact absurd sameId absent
    obtain ⟨write, same⟩ := write
    refine .inr ⟨caseId, middle, state, ⟨fresh, checkPerception_ok checked⟩, write, rebuilt, ?_⟩
    rw [same]
    exact inserted

/-! ## World changes -/

variable {change : KnowledgeChangeNotice}

theorem retractItems_ok {items : List InvestigationStateItem}
    (ok : retractItems caseId change eventIds now store items = .ok next) :
    Writes recording caseId store next := by
  induction items generalizing store with
  | nil =>
      cases ok
      exact .refl
  | cons item rest ih =>
      obtain ⟨⟨_, retracted⟩, retracts, ok⟩ := bind_eq_ok.1 ok
      obtain ⟨⟨_, opened⟩, opens, ok⟩ := bind_eq_ok.1 ok
      have first : Write recording caseId store retracted := by
        refine .of_append rfl ?_ ?_ retracts
        · rintro (type | type) <;> cases type
        · intro type
          cases type
      have second : Write recording caseId retracted opened := by
        refine .of_append rfl ?_ ?_ opens
        · rintro (type | type) <;> cases type
        · intro type
          cases type
      exact ((Relation.ReflTransGen.single first).tail second).trans (ih ok)

theorem reopenNeeds_ok {needs : List EvidenceNeedModel}
    (known : ∀ need ∈ needs, ∃ row, store.needs.get? need.needId = some row ∧ row.caseId = caseId)
    (ok : reopenNeeds caseId change eventIds now store needs = .ok next) :
    Writes recording caseId store next := by
  induction needs generalizing store with
  | nil =>
      cases ok
      exact .refl
  | cons need rest ih =>
      obtain ⟨⟨event, logged⟩, appended, ok⟩ := bind_eq_ok.1 ok
      obtain ⟨row, found, ofCase⟩ := known need mem_cons_self
      have sameId : row.needId = need.needId := key_of_get? found
      rw [← sameId] at found appended ok
      have write : Write recording caseId store (logged.updateNeed row.needId
          (·.withRevision event.caseRevision) (·.withRevision_needId event.caseRevision)) := by
        refine Write.of_need ((row.withReopened now).withRevision event.caseRevision) found ofCase
          rfl rfl ⟨logged, appended, rfl, rfl, rfl, rfl⟩ ⟨rfl, rfl, rfl, rfl⟩ ?_ ?_ rfl
        · exact get?_updateNeed_twice found (appendEvent_ok appended).2.2.1
        · rw [sameId]
          rfl
      refine (Relation.ReflTransGen.single write).trans (ih ?_ ok)
      intro other member
      obtain ⟨otherRow, otherFound, otherCase⟩ := known other (mem_cons_of_mem _ member)
      obtain ⟨later, laterFound, same⟩ := write.needCase otherFound
      exact ⟨later, laterFound, same.trans otherCase⟩

theorem transitionCase_ok (ok : transitionCase store caseId allowed target = .ok (view, next))
    :
    ∃ row, store.cases.get? caseId = some row ∧
      ((row.status.normalized = target ∧ next = store) ∨
        (row.status.normalized ∈ allowed ∧ row.status.normalized ≠ target ∧
          next = store.updateCase caseId (·.withStatus target) (·.withStatus_caseId target))) := by
  unfold transitionCase getCase at ok
  obtain ⟨row, found, ok⟩ := fetch_bind_eq_ok.1 ok
  refine ⟨row, found, ?_⟩
  split at ok
  next same =>
    cases ok
    exact .inl ⟨same, rfl⟩
  next different =>
    obtain ⟨permitted, ok⟩ := require_bind_eq_ok.1 ok
    cases ok
    exact .inr ⟨permitted, different, rfl⟩

theorem Changes.of_transition
    (ok : transitionCase store caseId allowed target = .ok (view, next)) :
    Changes recording store next := by
  obtain ⟨row, -, ⟨-, rfl⟩ | ⟨-, -, rfl⟩⟩ := transitionCase_ok ok
  · exact .refl
  · exact .of_change (.moved caseId _ _ fun row => ⟨rfl, rfl, rfl, rfl, rfl⟩)

theorem wakeCase_ok {priorStatus : CaseStatus} {woken : Bool}
    (ok : wakeCase store caseId priorStatus = .ok (woken, next)) :
    ∃ row, store.cases.get? caseId = some row ∧
      ((woken = decide (priorStatus = .waiting) ∧ next = store ∧
          (priorStatus = .waiting → row.status = .active)) ∨
        (woken = true ∧ priorStatus = .waiting ∧ row.status ≠ .active ∧
          ∃ view, activateCase store caseId = .ok (view, next))) := by
  unfold wakeCase getCase at ok
  obtain ⟨row, found, ok⟩ := fetch_bind_eq_ok.1 ok
  refine ⟨row, found, ?_⟩
  split at ok
  next waiting =>
    split at ok
    next active =>
      cases ok
      exact .inl ⟨by simp [waiting], rfl, fun _ => active⟩
    next inactive =>
      obtain ⟨⟨view, last⟩, activated, ok⟩ := bind_eq_ok.1 ok
      cases ok
      exact .inr ⟨rfl, waiting, inactive, view, activated⟩
  next other =>
    cases ok
    exact .inl ⟨by simp [other], rfl, fun waiting => absurd waiting other⟩

/-- The parts of a successful `_apply_case`: the state it reads, the writes of
what is stale, the rebuilt projection and the wake. -/
theorem applyCase_ok {store next : CaseStore} {knowledge : KnowledgeStore} {caseId : String} {eventIds : EventIds} {now : ℤ} {impact : WorldChangeImpact}
    (ok : applyCase store knowledge caseId change eventIds now = .ok (impact, next)) :
    ∃ row state loaded reopened rebuilt, store.cases.get? caseId = some row ∧
      row.status.isImmutable = false ∧
      getState store caseId now = .ok (state, loaded) ∧ Writes recording caseId loaded reopened ∧
      ((rebuilt = loaded ∧ staleConfirmedItems knowledge state.confirmed change = []) ∨
        ∃ view, rebuildState reopened caseId now = .ok (view, rebuilt)) ∧
      wakeCase rebuilt caseId row.status = .ok (impact.caseActivated, next) := by
  unfold applyCase at ok
  obtain ⟨row, locked, ok⟩ := bind_eq_ok.1 ok
  obtain ⟨⟨state, loaded⟩, read, ok⟩ := bind_eq_ok.1 ok
  obtain ⟨retracted, retracts, ok⟩ := bind_eq_ok.1 ok
  obtain ⟨reopened, reopens, ok⟩ := bind_eq_ok.1 ok
  obtain ⟨rebuilt, rebuilds, ok⟩ := bind_eq_ok.1 ok
  obtain ⟨⟨woken, last⟩, wakes, ok⟩ := bind_eq_ok.1 ok
  cases ok
  obtain ⟨found, mutable⟩ := lockCase_ok locked
  have first : Writes recording caseId loaded retracted := retractItems_ok retracts
  have second : Writes recording caseId retracted reopened := by
    refine reopenNeeds_ok (fun need member => ?_) reopens
    have ofCase := (mem_filter.1 (mem_filter.1 member).1).1
    obtain ⟨listed, same⟩ := mem_select.1 ofCase
    obtain ⟨later, laterFound, sameCase⟩ := first.needCase (get?_of_mem listed)
    exact ⟨later, laterFound, sameCase.trans (of_decide_eq_true same)⟩
  refine ⟨row, state, loaded, reopened, rebuilt, found, mutable, read, first.trans second, ?_, wakes⟩
  unfold rebuildIf at rebuilds
  split at rebuilds
  next =>
    obtain ⟨⟨view, last⟩, rebuilds, done⟩ := bind_eq_ok.1 rebuilds
    cases done
    exact .inr ⟨view, rebuilds⟩
  next unchanged =>
    cases rebuilds
    simp only [decide_eq_true_eq, not_or, not_not] at unchanged
    obtain ⟨noItems, noNeeds⟩ := unchanged
    rw [noItems] at retracts
    rw [noNeeds] at reopens
    cases retracts
    cases reopens
    exact .inl ⟨rfl, noItems⟩

theorem Changes.of_applyCase {impact : WorldChangeImpact}
    (ok : applyCase store knowledge caseId change eventIds now = .ok (impact, next)) :
    Changes recording store next := by
  obtain ⟨row, state, loaded, reopened, rebuilt, -, -, read, writes, rebuilds, wakes⟩ :=
    applyCase_ok ok
  have loads : Changes recording store loaded := .of_getState read
  have settles : Changes recording loaded rebuilt := by
    rcases rebuilds with ⟨rfl, -⟩ | ⟨view, rebuilds⟩
    · exact .refl
    · exact .of_change (.of_rebuild writes rebuilds)
  have moves : Changes recording rebuilt next := by
    obtain ⟨_, -, ⟨-, rfl, -⟩ | ⟨-, -, -, view, activated⟩⟩ := wakeCase_ok wakes
    · exact .refl
    · exact .of_transition activated
  exact (loads.trans settles).trans moves

theorem Changes.of_applyCases {caseIds : List String}
    (ok : applyCases knowledge change eventIds now store caseIds = .ok (impacts, next)) :
    Changes recording store next := by
  refine applyCases_induction (motive := fun store _ _ next => Changes recording store next)
    ?_ (fun _ later => later) ?_ ok
  · exact fun _ => .refl
  · exact fun applied later => (Changes.of_applyCase applied).trans later

theorem Changes.of_isRelevantCase {relevant : Bool}
    (ok : isRelevantCase store knowledge change row now = .ok (relevant, next)) :
    Changes recording store next := by
  unfold isRelevantCase at ok
  split at ok
  next =>
    cases ok
    exact .refl
  next =>
  split at ok
  next =>
    cases ok
    exact .refl
  next =>
    obtain ⟨⟨state, loaded⟩, read, ok⟩ := bind_eq_ok.1 ok
    cases ok
    exact .of_getState read

theorem Changes.of_relevantCases
    {rows : List InvestigationCaseModel}
    (ok : relevantCases knowledge change now store rows = .ok (ids, next)) :
    Changes recording store next := by
  induction rows generalizing store ids with
  | nil =>
      cases ok
      exact .refl
  | cons row rest ih =>
      obtain ⟨⟨relevant, middle⟩, tested, ok⟩ := bind_eq_ok.1 ok
      obtain ⟨⟨later, last⟩, loop, ok⟩ := bind_eq_ok.1 ok
      cases ok
      exact (Changes.of_isRelevantCase tested).trans (ih loop)

theorem Changes.of_relevantCaseIds
    (ok : relevantCaseIds store knowledge change now = .ok (ids, next)) :
    Changes recording store next := by
  obtain ⟨⟨found, last⟩, loop, ok⟩ := bind_eq_ok.1 ok
  cases ok
  exact .of_relevantCases loop

theorem Changes.of_processChange
    (ok : processChange store knowledge change eventIds now = .ok (impacts, next)) :
    Changes recording store next := by
  obtain ⟨⟨ids, loaded⟩, found, ok⟩ := bind_eq_ok.1 ok
  exact (Changes.of_relevantCaseIds found).trans (Changes.of_applyCases ok)

/-! ## Every call -/

theorem Changes.of_move {move : CaseMove}
    (ok : moveCase store caseId now move = .ok (view, next)) :
    Changes recording store next := by
  cases move with
  | activate => exact .of_transition ok
  | wait => exact .of_transition ok
  | resolve => exact .of_transition ok
  | cancel => exact .of_transition ok
  | close runningTrajectory =>
      simp only [moveCase, closeCase, getCase] at ok
      obtain ⟨row, -, ok⟩ := fetch_bind_eq_ok.1 ok
      split at ok
      next =>
        cases ok
        exact .refl
      next =>
        obtain ⟨-, ok⟩ := require_bind_eq_ok.1 ok
        obtain ⟨-, ok⟩ := require_bind_eq_ok.1 ok
        cases ok
        exact .of_change (.moved caseId _ _ fun row => ⟨rfl, rfl, rfl, rfl, rfl⟩)

def CaseOp.records : CaseOp → Bool
  | .recordPerception .. => true
  | .create .. | .move .. | .getState .. | .rebuild .. | .openNeed .. | .reopenNeed ..
  | .applyPatch .. | .commitDecision .. | .processChange .. => false

/-- **A successful call is a sequence of units.** -/
theorem changes_of_ok {op : CaseOp} {answer : CaseAnswer} (kept : PerceptionsLogged store)
    (ok : caseService op store = .ok (answer, next)) :
    Changes op.records store next := by
  cases caseService_called ok with
  | create called =>
      obtain ⟨cases, inserted, called⟩ := fetch_bind_eq_ok.1 called
      cases called
      exact .of_change (.created rfl inserted)
  | move called =>
      exact .of_move called
  | getState called =>
      exact .of_getState called
  | rebuild called =>
      exact .of_change (.of_rebuild .refl called)
  | openNeed called =>
      obtain ⟨row, -, ⟨-, -, changes⟩ | ⟨-, -, -, middle, state, write, rebuilt⟩⟩ :=
        openEvidenceNeed_ok _ called
      · exact changes
      · exact .of_change (.of_rebuild (.single write) rebuilt)
  | reopenNeed called =>
      obtain ⟨need, row, -, -, ⟨-, -, changes⟩ | ⟨-, -, middle, state, write, rebuilt⟩⟩ :=
        reopenEvidenceNeed_ok _ called
      · exact changes
      · exact .of_change (.of_rebuild (.single write) rebuilt)
  | applyPatch called =>
      obtain ⟨row, -, ⟨-, -, changes⟩ | ⟨-, -, -, first, middle, state, write, writes, rebuilt⟩⟩ :=
        applyPatch_ok _ called
      · exact changes
      · exact .of_change (.of_rebuild ((Relation.ReflTransGen.single write).trans writes) rebuilt)
  | commitDecision called =>
      obtain ⟨row, -, ⟨-, -, changes⟩ | ⟨-, -, -, middle, state, write, rebuilt⟩⟩ :=
        commitDecision_ok _ called
      · exact changes
      · exact .of_change (.of_rebuild (.single write) rebuilt)
  | recordPerception called =>
      rcases recordPerception_ok kept called with changes | ⟨caseId, middle, state, -, write, rebuilt, -⟩
      · exact changes
      · exact .of_change (.of_rebuild (.single write) rebuilt)
  | processChange called =>
      exact .of_processChange called

/-- The store after a sequence of calls, each a transaction. -/
def caseStoreAfter (ops : List CaseOp) : CaseStore := run caseService CaseStore.empty ops

/-- What every unit preserves holds after every sequence of calls. -/
theorem caseStoreAfter_invariant {invariant : CaseStore → Prop}
    (start : invariant CaseStore.empty)
    (preserved : ∀ store next, invariant store → ∀ recording, Change recording store next →
      invariant next)
    (ops : List CaseOp) : invariant (caseStoreAfter ops) := by
  have step : ∀ (store : CaseStore) (op : CaseOp) (answer : CaseAnswer) (next : CaseStore),
      PerceptionsLogged store ∧ invariant store → caseService op store = .ok (answer, next) →
        PerceptionsLogged next ∧ invariant next := by
    rintro store op answer next ⟨logged, kept⟩ ok
    have changes := changes_of_ok logged ok
    refine ⟨logged.changes changes, ?_⟩
    clear ok
    induction changes with
    | refl => exact kept
    | tail _ change ih => exact preserved _ _ ih _ change
  exact (run_invariant step ⟨PerceptionsLogged.empty, start⟩ ops).2

theorem perceptionsLogged_caseStoreAfter (ops : List CaseOp) :
    PerceptionsLogged (caseStoreAfter ops) :=
  caseStoreAfter_invariant PerceptionsLogged.empty (fun _ _ kept _ change => kept.change change) ops

end SecFusion.Investigation
