import SecFusion.Investigation.Continuation
import SecFusion.Investigation.Gaps

/-!
# Calls that are not refused

When the calls by which a finished episode writes to its case succeed, and what they
leave: the commit of a decision, the need of a continuation, and the move of the case.
A call that finds the case at the revision it names appends one event (`Enters`); one
that repeats an earlier call finds the event of that call.
-/

namespace SecFusion.Investigation

open Foundations Intelligence TaskRuntime

variable {store next : CaseStore} {caseId : String} {row : InvestigationCaseModel}
variable {eventIds : EventIds} {now : ℤ}

/-! ## Reading -/

theorem getState_of_found (found : store.cases.get? caseId = some row) (now : ℤ) :
    ∃ state next, getState store caseId now = .ok (state, next) := by
  unfold getState getCase
  rw [found]
  simp only [fetch, ok_bind]
  cases store.currents.get? caseId with
  | some current => exact ⟨_, _, rfl⟩
  | none => exact ⟨_, _, rfl⟩

theorem lockCase_of_found (found : store.cases.get? caseId = some row)
    (live : row.status.isImmutable = false) : lockCase store caseId = .ok row := by
  unfold lockCase getCase
  rw [found]
  simp only [fetch, ok_bind, require_of live]
  rfl

/-! ## Appending -/

/-- **An event has entered the log of a case**, whose row has moved to its revision. -/
structure Enters (store next : CaseStore) (row : InvestigationCaseModel)
    (event : CaseStateEventModel) : Prop where
  ofCase : event.caseId = row.caseId
  revision : event.caseRevision = row.currentRevision + 1
  base : event.baseCaseRevision = row.currentRevision
  cases : next.cases.get? row.caseId = some row.withEvent
  events : next.events.rows = store.events.rows ++ [event]

variable {event : CaseStateEventModel} {logged : CaseStore} {commit : DecisionCommit}

theorem Enters.eventsOf (enters : Enters store next row event) :
    next.eventsOf row.caseId = store.eventsOf row.caseId ++ [event] := by
  unfold CaseStore.eventsOf select
  rw [enters.events, filter_append]
  simp [enters.ofCase]

/-- The identifiers that a call draws for a case are new. -/
structure FreshEvents (store : CaseStore) (row : InvestigationCaseModel) (eventIds : EventIds) :
    Prop where
  unused : ∀ revision > row.currentRevision, ∀ event ∈ store.events.rows,
    event.eventId ≠ eventIds row.caseId revision
  distinct : Injective (eventIds row.caseId)

/-- What is drawn next is new after an event, too. -/
theorem FreshEvents.enters (fresh : FreshEvents store row eventIds)
    (enters : Enters store next row event)
    (drawn : event.eventId = eventIds row.caseId (row.currentRevision + 1)) :
    FreshEvents next row.withEvent eventIds where
  unused := by
    intro revision later other member
    replace later : row.currentRevision + 1 < revision := later
    rw [enters.events, mem_append, mem_singleton] at member
    rcases member with old | rfl
    · exact fresh.unused revision (by omega) other old
    · rw [drawn]
      intro same
      have equal := fresh.distinct same
      omega
  distinct := fresh.distinct

/-- The log is not touched by what a call writes beside it. -/
theorem FreshEvents.of_same (fresh : FreshEvents store row eventIds)
    (events : next.events = store.events) : FreshEvents next row eventIds :=
  ⟨by rw [events]; exact fresh.unused, fresh.distinct⟩

theorem insertEvent_of_fresh
    (revision : ∀ other ∈ store.events.rows,
      ¬ (other.caseId = event.caseId ∧ other.caseRevision = event.caseRevision))
    (patch : ∀ other ∈ store.events.rows, ¬ SamePatchOperation other event)
    (identifier : ∀ other ∈ store.events.rows, other.eventId ≠ event.eventId) :
    ∃ logged, insertEvent store event = .ok logged := by
  have absent : store.events.get? event.eventId = none := Table.get?_eq_none.2 identifier
  obtain ⟨events, inserted⟩ := Table.insert?_of_absent absent
  unfold insertEvent
  rw [require_of revision, ok_bind, require_of patch, ok_bind, inserted]
  exact ⟨_, rfl⟩

/-- **An event can be appended** under a new identifier, if no other of the case has its
key. -/
theorem appendEvent_of_fresh (kept : CaseLogKept store) (found : store.cases.get? caseId = some row)
    (fresh : FreshEvents store row eventIds) (request : CaseEventRequest)
    (unpatched : ∀ event ∈ store.eventsOf caseId, event.patchId = request.patchId →
      event.patchId = none) (now : ℤ) :
    ∃ event logged, appendEvent store caseId request eventIds now = .ok (event, logged) := by
  have ofCase : row.caseId = caseId := key_of_get? found
  subst ofCase
  obtain ⟨logged, inserted⟩ : ∃ logged, insertEvent store
      (newEvent row request (eventIds row.caseId (row.currentRevision + 1)) now) = .ok logged := by
    refine insertEvent_of_fresh ?_ ?_ (fresh.unused _ (Nat.lt_succ_self _))
    · rintro other member ⟨ofCase, revision⟩
      have numbered : other.caseRevision ∈ (store.eventsOf row.caseId).map (·.caseRevision) :=
        mem_map_of_mem (mem_caseEventsOf.2 ⟨member, ofCase⟩)
      replace revision : other.caseRevision = row.currentRevision + 1 := revision
      rw [kept.revisions row.caseId row found, mem_range'_1] at numbered
      omega
    · rintro other member ⟨ofCase, patch, given, -, -⟩
      exact given (unpatched other (mem_caseEventsOf.2 ⟨member, ofCase⟩) patch)
  unfold appendEvent getCase
  rw [found]
  simp only [fetch, ok_bind]
  rw [inserted]
  exact ⟨_, _, rfl⟩

theorem enters_of_append {request : CaseEventRequest}
    (found : store.cases.get? row.caseId = some row)
    (ok : appendEvent store row.caseId request eventIds now = .ok (event, logged)) :
    Enters store logged row event ∧
      event = newEvent row request (eventIds row.caseId (row.currentRevision + 1)) now := by
  obtain ⟨⟨other, otherFound, made⟩, appended, -, -⟩ := appendEvent_ok ok
  obtain rfl := mem_unique otherFound found
  refine ⟨⟨appended.ofCase, by rw [made]; rfl, by rw [made]; rfl, ?_, appended.events⟩, made⟩
  rw [appended.cases, if_pos rfl, found]
  rfl

/-- Neither rows nor log see the projection that is written afterwards. -/
theorem Enters.of_same (enters : Enters store logged row event) (cases : next.cases = logged.cases)
    (events : next.events = logged.events) : Enters store next row event :=
  ⟨enters.ofCase, enters.revision, enters.base, by rw [cases, enters.cases],
    by rw [events, enters.events]⟩

theorem rebuildState_of_found (found : store.cases.get? caseId = some row) (now : ℤ) :
    ∃ state next, rebuildState store caseId now = .ok (state, next) := by
  unfold rebuildState getCase
  rw [found]
  exact ⟨_, _, rfl⟩

/-! ## Decisions -/

/-- **A decision is committed** when the case is at the revision it was made for, and
nothing of the case bears its identity. -/
theorem commitDecision_of_current (kept : CaseLogKept store)
    (found : store.cases.get? commit.caseId = some row) (live : row.status.isImmutable = false)
    (current : row.currentRevision = commit.baseCaseRevision)
    (fresh : FreshEvents store row eventIds)
    (untold : ∀ event ∈ store.eventsOf commit.caseId, event.patchId ≠ some commit.decisionId)
    (now : ℤ) :
    ∃ result next, commitDecision store commit eventIds now = .ok (result, next) ∧
      Enters store next row result.event ∧ result.event.eventType = .decisionChanged ∧
      result.event.patchId = some commit.decisionId := by
  have ofCase : row.caseId = commit.caseId := key_of_get? found
  have unknown : eventOfCall? store commit.caseId commit.decisionId .decisionChanged = none := by
    rw [eventOfCall?, find?_eq_none]
    intro event member told
    exact untold event member (of_decide_eq_true told).1
  have revision : ((row.currentRevision : ℤ) = commit.baseCaseRevision) := by exact_mod_cast current
  obtain ⟨event, logged, appended⟩ := appendEvent_of_fresh kept found fresh
    (decisionEvent commit) (fun event member same => absurd same (untold event member)) now
  obtain ⟨⟨other, otherFound, made⟩, effects, -, -⟩ := appendEvent_ok appended
  have present : logged.cases.get? commit.caseId = some row.withEvent := by
    rw [effects.cases, if_pos rfl, found]
    rfl
  obtain ⟨state, next, rebuilt⟩ := rebuildState_of_found present now
  have called : commitDecision store commit eventIds now = .ok ({ state, event }, next) := by
    unfold commitDecision requireRevision
    rw [lockCase_of_found found live, ok_bind, unknown]
    dsimp only
    rw [require_of revision, ok_bind, appended, ok_bind]
    dsimp only
    rw [rebuilt]
    rfl
  obtain ⟨_, -, -, rfl⟩ := rebuildState_ok rebuilt
  rw [← ofCase] at appended found
  obtain ⟨enters, -⟩ := enters_of_append found appended
  exact ⟨_, _, called, enters.of_same rfl rfl, by rw [made]; rfl, by rw [made]; rfl⟩

/-- **A decision that has been committed** is answered with its event. -/
theorem commitDecision_of_told (found : store.cases.get? commit.caseId = some row)
    (live : row.status.isImmutable = false)
    (told : eventOfCall? store commit.caseId commit.decisionId .decisionChanged = some event)
    (eventIds : EventIds) (now : ℤ) :
    ∃ result next, commitDecision store commit eventIds now = .ok (result, next) ∧
      result.event = event ∧ next.cases = store.cases ∧ next.events = store.events := by
  obtain ⟨state, next, read⟩ := getState_of_found found now
  have called : commitDecision store commit eventIds now =
      .ok ({ state, event, replay := true }, next) := by
    unfold commitDecision
    rw [lockCase_of_found found live, ok_bind, told]
    dsimp only
    rw [read]
    rfl
  obtain ⟨_, -, ⟨-, rfl⟩ | ⟨-, -, rfl⟩⟩ := getState_ok read
  · exact ⟨_, _, called, rfl, rfl, rfl⟩
  · exact ⟨_, _, called, rfl, rfl, rfl⟩

variable {recording : Bool}

theorem Changes.of_commitDecision {result : DecisionCommitResult}
    (ok : commitDecision store commit eventIds now = .ok (result, next)) :
    Changes recording store next := by
  obtain ⟨row, -, ⟨-, -, changes⟩ | ⟨-, -, -, middle, state, write, rebuilt⟩⟩ :=
    commitDecision_ok _ ok
  · exact changes
  · exact .of_change (.of_rebuild (.single write) rebuilt)

/-! ## Needs -/

theorem Changes.of_openNeed {knowledge : KnowledgeStore} {request : OpenEvidenceNeed}
    {result : EvidenceNeedOpenResult}
    (ok : openEvidenceNeed store knowledge request eventIds now = .ok (result, next)) :
    Changes recording store next := by
  obtain ⟨row, -, ⟨-, -, changes⟩ | ⟨-, -, -, middle, state, write, rebuilt⟩⟩ :=
    openEvidenceNeed_ok _ ok
  · exact changes
  · exact .of_change (.of_rebuild (.single write) rebuilt)

theorem needView_of_bounds {need : EvidenceNeedModel}
    (purpose : 1 ≤ need.purpose.length ∧ need.purpose.length ≤ 256)
    (priority : 0 ≤ need.priority ∧ need.priority ≤ 100) : needView need = .ok need := by
  unfold needView
  rw [require_of purpose, require_of priority]
  rfl

/-- **A need is opened, or its objects are refused**, when the case is at the revision
that the request names. -/
theorem openEvidenceNeed_of_current (kept : CaseLogKept store) (knowledge : KnowledgeStore)
    (request : OpenEvidenceNeed) (found : store.cases.get? request.caseId = some row)
    (live : row.status.isImmutable = false)
    (current : (row.currentRevision : ℤ) = request.baseCaseRevision)
    (fresh : FreshEvents store row eventIds) (absent : store.needs.get? request.needId = none)
    (given : isBlank request.propositionOrQuestion = false ∧
      isBlank request.purpose = false)
    (purpose : 1 ≤ request.purpose.length ∧ request.purpose.length ≤ 256)
    (priority : 0 ≤ request.priority ∧ request.priority ≤ 100) (now : ℤ) :
    (∃ message, openEvidenceNeed store knowledge request eventIds now =
        .error (.statePatchRejected message)) ∨
      ∃ result next, openEvidenceNeed store knowledge request eventIds now = .ok (result, next) ∧
        Enters store next row result.event ∧ result.event.patchId = none ∧
        result.event.eventId = eventIds row.caseId (row.currentRevision + 1) := by
  have ofCase : row.caseId = request.caseId := key_of_get? found
  unfold openEvidenceNeed requireRevision
  rw [lockCase_of_found found live, ok_bind, absent]
  dsimp only
  rw [require_of current, ok_bind, require_of given, ok_bind, require_of purpose.2, ok_bind]
  by_cases known : validateObjectRefs knowledge request.targetObjects = []
  · right
    obtain ⟨event, logged, appended⟩ := appendEvent_of_fresh kept found fresh
      (needOpenedEvent request) (fun event member same => same) now
    obtain ⟨⟨other, otherFound, made⟩, effects, sameNeeds, -⟩ := appendEvent_ok appended
    have present : logged.cases.get? request.caseId = some row.withEvent := by
      rw [effects.cases, if_pos rfl, found]
      rfl
    rw [← sameNeeds] at absent
    obtain ⟨needs, inserted⟩ : ∃ needs,
        logged.needs.insert? (newNeed request event.caseRevision now) = some needs :=
      Table.insert?_of_absent absent
    have stored : ({ logged with needs } : CaseStore).cases.get? request.caseId =
        some row.withEvent := present
    obtain ⟨state, next, rebuilt⟩ := rebuildState_of_found stored now
    have viewed : needView (newNeed request event.caseRevision now) =
        .ok (newNeed request event.caseRevision now) := needView_of_bounds purpose priority
    rw [require_of known, ok_bind, appended, ok_bind]
    dsimp only
    rw [inserted]
    simp only [fetch, ok_bind]
    rw [rebuilt, ok_bind]
    dsimp only
    rw [viewed, ok_bind]
    obtain ⟨_, -, -, rfl⟩ := rebuildState_ok rebuilt
    rw [← ofCase] at appended found
    obtain ⟨enters, made⟩ := enters_of_append found appended
    exact ⟨_, _, rfl, enters.of_same rfl rfl, by rw [made]; rfl, by rw [made]; rfl⟩
  · left
    rw [require, if_neg known]
    exact ⟨_, rfl⟩

/-- The need has been opened in the case before. -/
def OpenedBefore (store : CaseStore) (caseId needId : String) : Prop :=
  ∃ need, store.needs.get? needId = some need ∧ needView need = .ok need ∧
    ∃ event ∈ store.eventsOf caseId, event.eventType = .evidenceNeedOpened ∧
      event.payload.needId = some needId

/-- **A need that has been opened** is answered as it is. -/
theorem openEvidenceNeed_of_opened (knowledge : KnowledgeStore) (request : OpenEvidenceNeed)
    (found : store.cases.get? request.caseId = some row) (live : row.status.isImmutable = false)
    (opened : OpenedBefore store request.caseId request.needId) (eventIds : EventIds) (now : ℤ) :
    ∃ result next, openEvidenceNeed store knowledge request eventIds now = .ok (result, next) ∧
      next.cases = store.cases ∧ next.events = store.events := by
  obtain ⟨need, needFound, viewed, event, member, type, named⟩ := opened
  obtain ⟨state, next, read⟩ := getState_of_found found now
  unfold openEvidenceNeed replayOpenedNeed
  rw [lockCase_of_found found live, ok_bind, needFound]
  dsimp only
  cases logged : (store.eventsOf request.caseId).find? fun event =>
      event.eventType = .evidenceNeedOpened ∧ event.payload.needId = some request.needId with
  | none =>
      have unlogged := find?_eq_none.1 logged event member
      simp [type, named] at unlogged
  | some first =>
      simp only [fetch, ok_bind]
      rw [viewed, ok_bind, read]
      obtain ⟨_, -, ⟨-, rfl⟩ | ⟨-, -, rfl⟩⟩ := getState_ok read
      · exact ⟨_, _, rfl, rfl, rfl⟩
      · exact ⟨_, _, rfl, rfl, rfl⟩

/-! ## The lifecycle -/

/-- **A case moves** where its status allows it, or it is there already. -/
theorem transitionCase_of_allowed {allowed : List CaseStatus} {target : CaseStatus}
    (found : store.cases.get? caseId = some row)
    (permitted : row.status.normalized = target ∨ row.status.normalized ∈ allowed) :
    ∃ view next, transitionCase store caseId allowed target = .ok (view, next) := by
  unfold transitionCase getCase
  rw [found]
  simp only [fetch, ok_bind]
  split
  next => exact ⟨_, _, rfl⟩
  next different =>
    rw [require_of (permitted.resolve_left different)]
    exact ⟨_, _, rfl⟩

end SecFusion.Investigation
