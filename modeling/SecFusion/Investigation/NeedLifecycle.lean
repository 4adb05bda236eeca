import SecFusion.Foundations.Latest
import SecFusion.Investigation.CaseRows
import SecFusion.Investigation.Projection
import SecFusion.Investigation.Relevance

/-!
# Openings and resolutions of a need

A need is opened, resolved by an operation of a patch, and reopened by two services.
Its events in the log of its case are its marks (`needMarks`), and its row carries the
status of the last of them.

A unit of change marks some needs of one case, all in the same way (`Turned`).  What is
then left to see is that it marks none of them twice, and that each of them was in the
other status before (`NeedLifecycle.turned`).  A patch is where this may fail: all its
operations are validated before the first of them resolves a need.
-/

namespace SecFusion.Investigation

open Foundations Intelligence

/-! ## Marks -/

/-- What an event does to a need: it opens the need, or it resolves it. -/
def needMark (needId : String) (event : CaseStateEventModel) : Option Bool :=
  if event.payload.needId = some needId then
    match event.eventType with
    | .evidenceNeedOpened => some true
    | .evidenceNeedResolved => some false
    | .factConfirmed | .factRetracted | .tentativeAdded | .tentativeRemoved | .conflictOpened
    | .conflictResolved | .unknownOpened | .unknownResolved | .hypothesisAdded
    | .hypothesisRejected | .evidenceAttached | .decisionChanged | .perceptionRecorded => none
  else none

/-- The openings (`true`) and resolutions (`false`) of a need among some events. -/
def needMarks (events : List CaseStateEventModel) (needId : String) : List Bool :=
  events.filterMap (needMark needId)

/-- Openings and resolutions take turns, and the first mark is an opening. -/
def Alternates (marks : List Bool) : Prop := List.IsChain (· ≠ ·) (false :: marks)

instance alternatesDecidable (marks : List Bool) : Decidable (Alternates marks) :=
  inferInstanceAs (Decidable (List.IsChain _ _))

/-- **The lifecycle of the needs** of a store. -/
structure NeedLifecycle (store : CaseStore) : Prop where
  alternates : ∀ caseId needId, Alternates (needMarks (store.eventsOf caseId) needId)
  opened : ∀ caseId needId, (needMarks (store.eventsOf caseId) needId).getLast? = some true ↔
    OpenNeed store caseId needId

theorem NeedLifecycle.empty : NeedLifecycle CaseStore.empty where
  alternates caseId needId := List.isChain_singleton _
  opened caseId needId := by
    constructor
    · intro last
      cases last
    · rintro ⟨need, found, -⟩
      cases found

theorem needMarks_append (first second : List CaseStateEventModel) (needId : String) :
    needMarks (first ++ second) needId = needMarks first needId ++ needMarks second needId :=
  filterMap_append

variable {event first second : CaseStateEventModel} {store next : CaseStore}
  {caseId perceptionEventId reasonCode reopenKey : String} {request : CaseEventRequest}
  {eventIds : EventIds} {now : ℤ} {needIds caseIds : List String} {state : InvestigationState}
  {knowledge : KnowledgeStore} {result : EvidenceNeedOpenResult} {operation : StatePatchOperation}
  {answer : CaseAnswer} {patch : StatePatch} {impacts : List WorldChangeImpact} {op : CaseOp}

/-- An event that is neither an opening nor a resolution marks nothing. -/
theorem needMark_of_plain (plain : needStatusAfter event.eventType = none) (needId : String) :
    needMark needId event = none := by
  unfold needMark
  split
  · cases type : event.eventType <;> rw [type] at plain <;> first | rfl | cases plain
  · rfl

/-! ## What a unit marks -/

/-- The constraint on `(case_id, patch_id, operation_index)` holds. -/
def OperationsApart (store : CaseStore) : Prop :=
  ∀ first ∈ store.events.rows, ∀ second ∈ store.events.rows,
    SamePatchOperation first second → first = second

theorem SamePatchOperation.symm (same : SamePatchOperation first second) :
    SamePatchOperation second first := by
  obtain ⟨ofCase, key, keyed, index, indexed⟩ := same
  exact ⟨ofCase.symm, key.symm, key ▸ keyed, index.symm, index ▸ indexed⟩

theorem OperationsApart.of_same (apart : OperationsApart store)
    (events : next.events = store.events) : OperationsApart next := by
  unfold OperationsApart
  rw [events]
  exact apart

theorem OperationsApart.of_append (apart : OperationsApart store)
    (ok : appendEvent store caseId request eventIds now = .ok (event, next)) :
    OperationsApart next := by
  unfold appendEvent at ok
  obtain ⟨row, -, ok⟩ := bind_eq_ok.1 ok
  obtain ⟨logged, inserted, ok⟩ := bind_eq_ok.1 ok
  cases ok
  obtain ⟨-, inserted⟩ := require_bind_eq_ok.1 inserted
  obtain ⟨fresh, inserted⟩ := require_bind_eq_ok.1 inserted
  obtain ⟨events, added, inserted⟩ := fetch_bind_eq_ok.1 inserted
  cases inserted
  intro first firstMember second secondMember same
  have rows := (insert?_eq_some added).1
  have firstMember : first ∈ events.rows := firstMember
  have secondMember : second ∈ events.rows := secondMember
  rw [rows, mem_append, mem_singleton] at firstMember secondMember
  rcases firstMember with old | rfl <;> rcases secondMember with other | rfl
  · exact apart first old second other same
  · exact absurd same (fresh first old)
  · exact absurd same.symm (fresh second other)
  · rfl

def IsResolved (cases : CaseTable) (caseId : String) : Prop :=
  ∃ row, cases.get? caseId = some row ∧ row.status = .resolved

theorem CaseStatus.afterEvent_eq_resolved (status : CaseStatus) :
    status.afterEvent = .resolved ↔ status = .resolved := by
  cases status <;> decide

theorem Appended.resolved (appended : Appended store next caseId event) (other : String) :
    IsResolved next.cases other ↔ IsResolved store.cases other := by
  unfold IsResolved
  rw [appended.cases]
  split
  · cases store.cases.get? other with
    | none => simp
    | some row =>
        simp only [map_some, some.injEq, exists_eq_left']
        exact row.status.afterEvent_eq_resolved
  · rfl

/-- A move to and from other statuses resolves nothing. -/
theorem resolved_of_transition {allowed : List CaseStatus} {target : CaseStatus}
    {view : InvestigationCaseModel} (ends : target ≠ .resolved) (begins : .resolved ∉ allowed)
    (ok : transitionCase store caseId allowed target = .ok (view, next)) (other : String) :
    IsResolved next.cases other ↔ IsResolved store.cases other := by
  obtain ⟨row, found, ⟨-, rfl⟩ | ⟨permitted, -, rfl⟩⟩ := transitionCase_ok ok
  · rfl
  unfold IsResolved
  rw [updateCase, get?_update]
  split
  next same =>
    subst same
    rw [found, map_some]
    simp only [some.injEq, exists_eq_left', InvestigationCaseModel.withStatus]
    refine iff_of_false ends fun resolved => ?_
    rw [resolved] at permitted
    exact begins permitted
  next => rfl

/-- **What a unit does beside the lifecycle of the cases**: it marks some needs of one case,
all of them as opened or all of them as resolved, each as often as it is named.  No case is
resolved by it, and none is taken out of it. -/
structure Turned (store next : CaseStore) (caseId : String) (needIds : List String)
    (opening : Bool) : Prop where
  marks : ∀ other needId, needMarks (next.eventsOf other) needId =
    needMarks (store.eventsOf other) needId ++
      if caseId = other then List.replicate (needIds.count needId) opening else []
  needs : ∀ other needId, OpenNeed next other needId ↔
    if caseId = other ∧ needId ∈ needIds then opening = true else OpenNeed store other needId
  apart : OperationsApart store → OperationsApart next
  resolved : ∀ other, IsResolved next.cases other ↔ IsResolved store.cases other

variable {middle : CaseStore} {opening : Bool}

theorem Turned.of_same (events : next.events = store.events) (needs : next.needs = store.needs)
    (resolved : ∀ other, IsResolved next.cases other ↔ IsResolved store.cases other)
    (caseId : String) (opening : Bool) : Turned store next caseId [] opening where
  marks other needId := by
    rw [eventsOf, events]
    simp [eventsOf]
  needs other needId := by
    simp [OpenNeed, needs]
  apart apart := apart.of_same events
  resolved := resolved

theorem Turned.trans {first second : List String} (left : Turned store middle caseId first opening)
    (right : Turned middle next caseId second opening) :
    Turned store next caseId (first ++ second) opening := by
  constructor
  case marks =>
    intro other needId
    rw [right.marks, left.marks]
    split
    · rw [append_assoc, List.replicate_append_replicate, List.count_append]
    · simp
  case needs =>
    intro other needId
    rw [right.needs, left.needs]
    by_cases same : caseId = other <;> by_cases early : needId ∈ first <;>
      by_cases late : needId ∈ second <;> simp [same, early, late]
  case apart =>
    intro apart
    exact right.apart (left.apart apart)
  case resolved =>
    intro other
    rw [right.resolved, left.resolved]

/-- An event of another kind marks no need. -/
theorem Turned.of_plain (appended : Appended store next caseId event)
    (plain : needStatusAfter event.eventType = none) (needs : next.needs = store.needs)
    (apart : OperationsApart store → OperationsApart next) :
    Turned store next caseId [] opening where
  marks other needId := by
    rw [appended.eventsOf]
    split
    · simp [needMarks, needMark_of_plain plain needId]
    · simp
  needs other needId := by
    simp [OpenNeed, needs]
  apart := apart
  resolved := appended.resolved

theorem Turned.of_need (need : EvidenceNeedModel) (appended : Appended store next caseId event)
    (named : event.payload.needId = some need.needId)
    (type : event.eventType = if opening then .evidenceNeedOpened else .evidenceNeedResolved)
    (ofCase : need.caseId = caseId) (status : need.status = .open ↔ opening = true)
    (before : ∀ old, store.needs.get? need.needId = some old → old.caseId = caseId)
    (needs : ∀ id, next.needs.get? id =
      if need.needId = id then some need else store.needs.get? id)
    (apart : OperationsApart store → OperationsApart next) :
    Turned store next caseId [need.needId] opening := by
  refine ⟨?marks, ?needs, apart, appended.resolved⟩
  case marks =>
    intro other needId
    have mark : needMark needId event = if need.needId = needId then some opening else none := by
      unfold needMark
      rw [named, type]
      cases opening <;> simp
    rw [appended.eventsOf]
    by_cases sameCase : caseId = other
    · rw [if_pos sameCase, if_pos sameCase, needMarks_append]
      congr 1
      by_cases same : need.needId = needId <;> simp [needMarks, mark, same]
    · simp [sameCase]
  case needs =>
    intro other needId
    unfold OpenNeed
    simp only [needs, mem_singleton]
    by_cases same : need.needId = needId
    · subst same
      by_cases sameCase : caseId = other
      · simp [sameCase, ofCase, status]
      · -- a need of this name is of no other case, before or after
        have earlier : ∀ old, store.needs.get? need.needId = some old → old.caseId ≠ other := by
          intro old found
          rw [before old found]
          exact sameCase
        have foreign : need.caseId ≠ other := ofCase ▸ sameCase
        simp only [sameCase, false_and, if_false, if_true, some.injEq]
        constructor
        · rintro ⟨_, rfl, ofOther, -⟩
          exact absurd ofOther foreign
        · rintro ⟨old, found, ofOther, -⟩
          exact absurd ofOther (earlier old found)
    · have other : ¬ needId = need.needId := fun equal => same equal.symm
      simp [same, other]

/-- The last of some marks that have been added. -/
theorem getLast?_append_replicate (marks : List Bool) (count : ℕ) (mark : Bool) :
    (marks ++ List.replicate count mark).getLast? =
      if count = 0 then marks.getLast? else some mark := by
  cases count with
  | zero => simp
  | succ count => simp [List.getLast?_append, List.getLast?_replicate]

/-- Equal marks may follow if there are none of them, or one that was due. -/
theorem alternates_append_replicate {marks : List Bool} (kept : Alternates marks)
    (count : ℕ) {mark : Bool} (due : marks.getLast? = some true ↔ mark = false) :
    Alternates (marks ++ List.replicate count mark) ↔ count ≤ 1 := by
  unfold Alternates at kept ⊢
  have last : (false :: marks).getLast? = some (!mark) := by
    cases ends : marks.getLast? with
    | none =>
        rw [List.getLast?_eq_none_iff] at ends
        subst ends
        cases mark <;> simp_all
    | some final =>
        rw [List.getLast?_cons, ends]
        rw [ends] at due
        cases mark <;> cases final <;> simp_all
  rw [← cons_append, List.isChain_append, last]
  match count with
  | 0 => simp [kept]
  | 1 => simp [kept]
  | more + 2 => simp [List.replicate_succ]

/-- **Needs that are marked at most once** keep their lifecycle, if each of them was in the
other status before. -/
theorem NeedLifecycle.turned (kept : NeedLifecycle store)
    (turned : Turned store next caseId needIds opening) (once : needIds.Nodup)
    (due : ∀ needId ∈ needIds, OpenNeed store caseId needId ↔ opening = false) :
    NeedLifecycle next := by
  constructor
  case alternates =>
    intro other needId
    rw [turned.marks]
    by_cases marked : caseId = other ∧ needId ∈ needIds
    · obtain ⟨rfl, member⟩ := marked
      rw [if_pos rfl]
      exact (alternates_append_replicate (kept.alternates caseId needId) _
        ((kept.opened caseId needId).trans (due needId member))).2
          (List.nodup_iff_count_le_one.1 once needId)
    · have nothing : (if caseId = other then List.replicate (needIds.count needId) opening
          else []) = [] := by
        split
        next same =>
          rw [count_eq_zero_of_not_mem fun member => marked ⟨same, member⟩]
          rfl
        next => rfl
      rw [nothing, append_nil]
      exact kept.alternates other needId
  case opened =>
    intro other needId
    rw [turned.marks, turned.needs]
    by_cases sameCase : caseId = other
    · subst sameCase
      rw [if_pos rfl, getLast?_append_replicate]
      by_cases member : needId ∈ needIds
      · have positive : needIds.count needId ≠ 0 := by
          rw [Ne, List.count_eq_zero]
          exact fun absent => absent member
        simp [positive, member]
      · simp [member, count_eq_zero_of_not_mem member, kept.opened]
    · simp [sameCase, kept.opened]

/-- **Needs whose marks still take turns** have been marked at most once. -/
theorem NeedLifecycle.nodup (kept : NeedLifecycle store)
    (turned : Turned store next caseId needIds opening)
    (due : ∀ needId ∈ needIds, OpenNeed store caseId needId ↔ opening = false)
    (after : ∀ needId, Alternates (needMarks (next.eventsOf caseId) needId)) :
    needIds.Nodup := by
  rw [List.nodup_iff_count_le_one]
  intro needId
  by_cases member : needId ∈ needIds
  · have marks := after needId
    rw [turned.marks, if_pos rfl] at marks
    exact (alternates_append_replicate (kept.alternates caseId needId) _
      ((kept.opened caseId needId).trans (due needId member))).1 marks
  · rw [count_eq_zero_of_not_mem member]
    exact Nat.zero_le 1

/-- The lifecycle is a matter of the log and of the needs. -/
theorem NeedLifecycle.of_same (kept : NeedLifecycle store) (events : next.events = store.events)
    (needs : next.needs = store.needs) : NeedLifecycle next where
  alternates caseId needId := by
    rw [eventsOf, events]
    exact kept.alternates caseId needId
  opened caseId needId := by
    rw [eventsOf, events, OpenNeed, needs]
    exact kept.opened caseId needId

theorem NeedLifecycle.unmarked (kept : NeedLifecycle store)
    (turned : Turned store next caseId [] opening) : NeedLifecycle next :=
  kept.turned turned nodup_nil (forall_mem_nil _)

/-! ## What the calls mark -/

theorem Turned.of_append (plain : needStatusAfter request.eventType = none)
    (ok : appendEvent store caseId request eventIds now = .ok (event, next)) :
    Turned store next caseId [] opening := by
  obtain ⟨⟨row, -, rfl⟩, appended, needs, -⟩ := appendEvent_ok ok
  exact .of_plain appended plain needs (·.of_append ok)

/-- A need and its event, the row being rewritten before and after the event. -/
theorem Turned.of_request {old : EvidenceNeedModel} (new : EvidenceNeedModel) (marked : CaseStore)
    {logged : CaseStore} (found : store.needs.get? old.needId = some old)
    (ofCase : old.caseId = caseId) (sameId : new.needId = old.needId)
    (sameCase : new.caseId = old.caseId) (status : new.status = .open ↔ opening = true)
    (sameCases : marked.cases = store.cases) (sameEvents : marked.events = store.events)
    (sameCurrents : marked.currents = store.currents)
    (ok : appendEvent marked caseId request eventIds now = .ok (event, logged))
    (nextCases : next.cases = logged.cases) (nextEvents : next.events = logged.events)
    (nextCurrents : next.currents = logged.currents)
    (named : request.payload.needId = some old.needId)
    (type : request.eventType = if opening then .evidenceNeedOpened else .evidenceNeedResolved)
    (needs : ∀ id, next.needs.get? id =
      if old.needId = id then some new else store.needs.get? id) :
    Turned store next caseId [old.needId] opening := by
  obtain ⟨⟨_, -, made⟩, logs, -, -⟩ := appendEvent_ok ok
  have grown : Appended store next caseId event := by
    refine ⟨?_, logs.ofCase, fun other => ?_, ?_, ?_⟩
    · rw [← sameCases]
      exact logs.row
    · rw [nextCases, logs.cases, sameCases]
    · rw [nextEvents, logs.events, sameEvents]
    · rw [nextCurrents, logs.currents, sameCurrents]
  rw [← sameId]
  refine .of_need new grown ?_ ?_ (sameCase.trans ofCase) status ?_ ?_ ?_
  · rw [made, sameId]
    exact named
  · rw [made]
    exact type
  · intro other otherFound
    rw [sameId, found] at otherFound
    cases otherFound
    exact ofCase
  · rw [sameId]
    exact needs
  · intro apart
    exact ((apart.of_same sameEvents).of_append ok).of_same nextEvents

theorem Turned.of_getState (ok : getState store caseId now = .ok (state, next))
    (other : String) :
    Turned store next other [] opening := by
  obtain ⟨row, -, ⟨-, rfl⟩ | ⟨-, -, rfl⟩⟩ := getState_ok ok
  · exact .of_same rfl rfl (fun _ => .rfl) _ _
  · have events : (writeCurrent store row now).2.events = store.events := rfl
    exact .of_same events rfl (fun _ => .rfl) _ _

theorem Turned.of_rebuild (ok : rebuildState store caseId now = .ok (state, next))
    (other : String) :
    Turned store next other [] opening := by
  obtain ⟨row, -, -, rfl⟩ := rebuildState_ok ok
  have events : (writeCurrent store row now).2.events = store.events := rfl
  exact .of_same events rfl (fun _ => .rfl) _ _

/-- **`open_evidence_need`** marks a need that is new, or none. -/
theorem openEvidenceNeed_turned {request : OpenEvidenceNeed}
    (ok : openEvidenceNeed store knowledge request eventIds now = .ok (result, next)) :
    (Turned store next request.caseId [] true ∨
      Turned store next request.caseId [request.needId] true ∧
        store.needs.get? request.needId = none) ∧
    result.event.eventType = .evidenceNeedOpened ∧
      result.event.payload.needId = some request.needId := by
  obtain ⟨row, -, ⟨-, -, opening, read⟩ |
    ⟨-, absent, -, logged, needs, appended, inserted, rebuilt, -⟩⟩ := openEvidenceNeed_course ok
  · have named := find?_some opening
    simp only [decide_eq_true_eq] at named
    exact ⟨.inl (.of_getState read _), named.1, named.2⟩
  · obtain ⟨⟨_, -, made⟩, logs, sameNeeds, -⟩ := appendEvent_ok appended
    have grown : Appended store { logged with needs } request.caseId result.event :=
      ⟨logs.row, logs.ofCase, logs.cases, logs.events, logs.currents⟩
    have turned : Turned store { logged with needs } request.caseId [request.needId] true := by
      refine Turned.of_need (newNeed request result.event.caseRevision now) grown
        (by rw [made]; rfl) (by rw [made]; rfl) rfl (by simp [newNeed]) ?_ ?_
        fun apart => (apart.of_append appended).of_same rfl
      · intro old found
        rw [show store.needs.get? request.needId = some old from found] at absent
        cases absent
      · intro id
        rw [← sameNeeds]
        exact get?_insert? inserted id
    refine ⟨.inr ⟨?_, absent⟩, by rw [made]; rfl, by rw [made]; rfl⟩
    have done := turned.trans (.of_rebuild rebuilt request.caseId)
    rwa [append_nil] at done

/-- **`reopen_evidence_need`** marks the need unless it is open or the key is used. -/
theorem reopenEvidenceNeed_turned {request : ReopenEvidenceNeed}
    (ok : reopenEvidenceNeed store request eventIds now = .ok (result, next)) :
    ∃ need, store.needs.get? request.needId = some need ∧
      result.event.eventType = .evidenceNeedOpened ∧
      (Turned store next need.caseId [] true ∧
          (eventOfCall? store need.caseId request.reopenKey .evidenceNeedOpened =
              some result.event ∨
            eventOfCall? store need.caseId request.reopenKey .evidenceNeedOpened = none ∧
              need.status = .open ∧ lastOpening? store need.caseId = some result.event) ∨
        Turned store next need.caseId [request.needId] true ∧
          eventOfCall? store need.caseId request.reopenKey .evidenceNeedOpened = none ∧
          need.status ≠ .open ∧ result.event.payload.needId = some request.needId) := by
  obtain ⟨need, row, found, -, course⟩ := reopenEvidenceNeed_course ok
  refine ⟨need, found, ?_⟩
  rcases course with ⟨-, read, known⟩ | ⟨-, unused, closed, -, logged, appended, rebuilt⟩
  · refine ⟨?_, .inl ⟨.of_getState read _, known⟩⟩
    rcases known with existing | ⟨-, -, latest⟩
    · have named := find?_some existing
      simp only [decide_eq_true_eq] at named
      exact named.2.2
    · have listed := List.mem_of_mem_head? (mem_def.2 latest)
      rw [mem_insertionSort, mem_filter] at listed
      exact of_decide_eq_true listed.2
  · have sameId : need.needId = request.needId := key_of_get? found
    obtain ⟨⟨_, -, made⟩, -, sameNeeds, -⟩ := appendEvent_ok appended
    rw [← sameId] at found
    have turned : Turned store (logged.updateNeed need.needId
        (·.withOpen result.event.caseRevision now)
        (·.withOpen_needId result.event.caseRevision now)) need.caseId [need.needId] true := by
      refine Turned.of_request (need.withOpen result.event.caseRevision now) store found rfl rfl
        rfl (by simp [EvidenceNeedModel.withOpen]) rfl rfl rfl appended rfl rfl rfl rfl rfl ?_
      intro id
      rw [get?_updateNeed, sameNeeds]
      split
      next same =>
        subst same
        rw [found]
        rfl
      next => rfl
    refine ⟨by rw [made]; rfl, .inr ⟨?_, unused, closed, by rw [made, ← sameId]; rfl⟩⟩
    have done := turned.trans (.of_rebuild rebuilt need.caseId)
    rwa [append_nil, sameId] at done

theorem commitDecision_turned {commit : DecisionCommit} {result : DecisionCommitResult}
    (ok : commitDecision store commit eventIds now = .ok (result, next)) :
    Turned store next commit.caseId [] opening := by
  obtain ⟨row, -, ⟨-, -, read⟩ | ⟨-, -, -, logged, appended, rebuilt⟩⟩ := commitDecision_course ok
  · exact .of_getState read _
  · have logs : Turned store logged commit.caseId [] opening := .of_append rfl appended
    exact logs.trans (.of_rebuild rebuilt _)

theorem markPerception_turned {worldRevision : ℕ} {perceivedAt : ℤ}
    (ok : markPerception store caseId perceptionEventId worldRevision perceivedAt eventIds
      now = .ok (state, next)) : Turned store next caseId [] opening := by
  obtain ⟨middle, rebuilt, ⟨event, appended, -⟩ | ⟨rfl, -⟩⟩ := markPerception_course ok
  · have logs : Turned store middle caseId [] opening := .of_append rfl appended
    exact logs.trans (.of_rebuild rebuilt _)
  · exact .of_rebuild rebuilt _

theorem recordPerception_turned {call : RecordPerception} {record : PerceptionEventRecord}
    (ok : recordPerception store knowledge call perceptionEventId eventIds now =
      .ok (record, next)) : ∃ caseId, Turned store next caseId [] opening := by
  unfold recordPerception at ok
  obtain ⟨caseId, -, ok⟩ := bind_eq_ok.1 ok
  split at ok
  next existing _ =>
    obtain ⟨-, ok⟩ := require_bind_eq_ok.1 ok
    obtain ⟨⟨state, last⟩, marked, ok⟩ := bind_eq_ok.1 ok
    cases ok
    exact ⟨existing.caseId, markPerception_turned marked⟩
  next =>
    obtain ⟨perceptions, -, ok⟩ := fetch_bind_eq_ok.1 ok
    obtain ⟨⟨state, last⟩, marked, ok⟩ := bind_eq_ok.1 ok
    cases ok
    have stored : Turned store { store with perceptions } caseId [] opening := by
      have events : ({ store with perceptions } : CaseStore).events = store.events := rfl
      exact .of_same events rfl (fun _ => .rfl) _ _
    exact ⟨caseId, stored.trans (markPerception_turned marked)⟩

/-! ## Patches -/

/-- The needs that the operations of a patch resolve, one after another. -/
def resolvedNeedIds (operations : List StatePatchOperation) : List String :=
  operations.filterMap (·.resolvesNeedId)

theorem validateOperation_open {answer : Unit}
    (checked : validateOperation store knowledge caseId operation = .ok answer) :
    ∀ needId ∈ operation.resolvesNeedId, OpenNeed store caseId needId := by
  unfold validateOperation at checked
  obtain ⟨-, checked⟩ := require_bind_eq_ok.1 checked
  obtain ⟨_, -, checked⟩ := bind_eq_ok.1 checked
  obtain ⟨_, -, checked⟩ := bind_eq_ok.1 checked
  obtain ⟨-, checked⟩ := require_bind_eq_ok.1 checked
  exact validateResolvedNeed_ok checked

theorem resolveNeedFromOperation_turned {writer : String} {resolved : Option CaseStateEventModel}
    (known : ∀ needId ∈ operation.resolvesNeedId, ∃ need, store.needs.get? needId = some need ∧
      need.caseId = caseId)
    (ok : resolveNeedFromOperation store caseId operation writer eventIds now =
      .ok (resolved, next)) :
    Turned store next caseId operation.resolvesNeedId.toList false := by
  unfold resolveNeedFromOperation at ok
  split at ok
  next unnamed =>
    cases ok
    rw [unnamed]
    exact .of_same rfl rfl (fun _ => .rfl) _ _
  next needId named =>
    obtain ⟨need, found, ok⟩ := fetch_bind_eq_ok.1 ok
    obtain ⟨⟨event, logged⟩, appended, ok⟩ := bind_eq_ok.1 ok
    cases ok
    obtain ⟨other, otherFound, ofCase⟩ := known needId named
    obtain rfl := mem_unique otherFound found
    obtain rfl : other.needId = needId := key_of_get? found
    rw [named]
    refine Turned.of_request ((other.withResolved operation.evidenceRefs now).withRevision
      event.caseRevision) (store.updateNeed other.needId (·.withResolved operation.evidenceRefs now)
      (·.withResolved_needId operation.evidenceRefs now)) found ofCase rfl rfl
      (by simp [EvidenceNeedModel.withResolved, EvidenceNeedModel.withRevision]) rfl rfl rfl
      appended rfl rfl rfl rfl rfl ?_
    exact get?_updateNeed_twice found (appendEvent_ok appended).2.2.1

/-- **The loop of `apply_patch`** resolves the needs of its operations, each as often as
it is named. -/
theorem applyOperations_turned {operations : List StatePatchOperation} {index : ℕ}
    {events : List CaseStateEventModel}
    (validated : ∀ operation ∈ operations, Validated store patch.caseId operation)
    (ok : applyOperations patch reasonCode eventIds now store index operations =
      .ok (events, next)) :
    Turned store next patch.caseId (resolvedNeedIds operations) false := by
  induction operations generalizing store index events with
  | nil =>
      cases ok
      exact .of_same rfl rfl (fun _ => .rfl) _ _
  | cons operation rest ih =>
      obtain ⟨⟨event, logged⟩, appended, ok⟩ := bind_eq_ok.1 ok
      obtain ⟨⟨resolved, settled⟩, settles, ok⟩ := bind_eq_ok.1 ok
      obtain ⟨⟨later, last⟩, applied, ok⟩ := bind_eq_ok.1 ok
      cases ok
      have here := validated operation mem_cons_self
      have first : Writes false patch.caseId store logged :=
        .single (.of_operation here.deterministic appended)
      have second : Writes false patch.caseId logged settled :=
        resolveNeedFromOperation_ok (here.writes first).need settles
      have plain : needStatusAfter (eventTypeFor operation) = none := by
        unfold eventTypeFor
        cases operation.proposedState <;> cases operation.disposition <;> rfl
      have logs : Turned store logged patch.caseId [] false := .of_append plain appended
      have resolves := resolveNeedFromOperation_turned (here.writes first).need settles
      have goesOn := ih (fun other member =>
        (validated other (mem_cons_of_mem _ member)).writes (first.trans second)) applied
      have named : resolvedNeedIds (operation :: rest) =
          [] ++ operation.resolvesNeedId.toList ++ resolvedNeedIds rest := by
        cases named : operation.resolvesNeedId <;> simp [resolvedNeedIds, named]
      rw [named]
      exact (logs.trans resolves).trans goesOn

/-- **`apply_patch`** resolves what the operations of a new patch name, and all of it was
open when they were validated. -/
theorem applyPatch_turned {result : StatePatchApplyResult}
    (ok : applyPatch store knowledge patch reasonCode eventIds now = .ok (result, next)) :
    (patchEvents store patch.caseId patch.patchId ≠ [] ∧
        Turned store next patch.caseId [] false) ∨
      patchEvents store patch.caseId patch.patchId = [] ∧
        Turned store next patch.caseId (resolvedNeedIds patch.operations) false ∧
        ∀ needId ∈ resolvedNeedIds patch.operations, OpenNeed store patch.caseId needId := by
  obtain ⟨row, -, ⟨-, known, read⟩ | ⟨-, fresh, -, validated, middle, loop, rebuilt⟩⟩ :=
    applyPatch_course ok
  · exact .inl ⟨known, .of_getState read _⟩
  · have resolves := applyOperations_turned
      (fun operation member => validateOperation_ok (validated operation member)) loop
    have done := resolves.trans (.of_rebuild rebuilt patch.caseId)
    rw [append_nil] at done
    refine .inr ⟨fresh, done, fun needId member => ?_⟩
    obtain ⟨operation, listed, named⟩ := mem_filterMap.1 member
    exact validateOperation_open (validated operation listed) needId named

/-! ## World changes -/

section WorldChanges

variable {change : KnowledgeChangeNotice}

theorem resolved_of_wakeCase {prior : CaseStatus} {woken : Bool}
    (ok : wakeCase store caseId prior = .ok (woken, next)) (other : String) :
    IsResolved next.cases other ↔ IsResolved store.cases other := by
  obtain ⟨row, -, ⟨-, rfl, -⟩ | ⟨-, -, -, view, activated⟩⟩ := wakeCase_ok ok
  · rfl
  · exact resolved_of_transition (by decide) (by decide) activated other

theorem retractItems_turned {items : List InvestigationStateItem}
    (ok : retractItems caseId change eventIds now store items = .ok next) :
    Turned store next caseId [] opening := by
  induction items generalizing store with
  | nil =>
      cases ok
      exact .of_same rfl rfl (fun _ => .rfl) _ _
  | cons item rest ih =>
      obtain ⟨⟨_, retracted⟩, retracts, ok⟩ := bind_eq_ok.1 ok
      obtain ⟨⟨_, opened⟩, opens, ok⟩ := bind_eq_ok.1 ok
      have first : Turned store retracted caseId [] opening := .of_append rfl retracts
      have second : Turned retracted opened caseId [] opening := .of_append rfl opens
      exact (first.trans second).trans (ih ok)

theorem reopenNeeds_turned {needs : List EvidenceNeedModel}
    (known : ∀ need ∈ needs, ∃ row, store.needs.get? need.needId = some row ∧ row.caseId = caseId)
    (ok : reopenNeeds caseId change eventIds now store needs = .ok next) :
    Turned store next caseId (needs.map (·.needId)) true := by
  induction needs generalizing store with
  | nil =>
      cases ok
      exact .of_same rfl rfl (fun _ => .rfl) _ _
  | cons need rest ih =>
      obtain ⟨⟨event, logged⟩, appended, ok⟩ := bind_eq_ok.1 ok
      obtain ⟨row, found, ofCase⟩ := known need mem_cons_self
      have sameId : row.needId = need.needId := key_of_get? found
      rw [← sameId] at found appended ok
      have turned : Turned store (logged.updateNeed row.needId (·.withRevision event.caseRevision)
          (·.withRevision_needId event.caseRevision)) caseId [row.needId] true := by
        refine Turned.of_request ((row.withReopened now).withRevision event.caseRevision)
          (store.updateNeed row.needId (·.withReopened now) (·.withReopened_needId now)) found ofCase
          rfl rfl (by simp [EvidenceNeedModel.withReopened, EvidenceNeedModel.withRevision])
          rfl rfl rfl appended rfl rfl rfl ?_ rfl ?_
        · rw [sameId]
          rfl
        · exact get?_updateNeed_twice found (appendEvent_ok appended).2.2.1
      have later := ih (fun other member => ?_) ok
      · have both := turned.trans later
        rwa [sameId] at both
      · obtain ⟨stored, storedFound, sameCase⟩ := known other (mem_cons_of_mem _ member)
        rw [get?_updateNeed_twice found (appendEvent_ok appended).2.2.1]
        split
        next => exact ⟨_, rfl, ofCase⟩
        next => exact ⟨stored, storedFound, sameCase⟩

/-- **`_apply_case`** reopens needs that are resolved, each once. -/
theorem applyCase_turned {impact : WorldChangeImpact}
    (ok : applyCase store knowledge caseId change eventIds now = .ok (impact, next)) :
    ∃ needIds, Turned store next caseId needIds true ∧ needIds.Nodup ∧
      ∀ needId ∈ needIds, ¬ OpenNeed store caseId needId := by
  obtain ⟨row, items, retracted, reopened, rebuilt, found, -, retracts, reopens, rebuilds, wakes,
    -⟩ := applyCase_stages ok
  have ofRow := key_of_get? found
  rw [← ofRow] at found
  have stored : ∀ need ∈ staleNeedsOf store knowledge change caseId, need ∈ store.needs.rows ∧
      need.caseId = caseId ∧ need.status = .resolved := by
    intro need member
    obtain ⟨ofCase, resolved⟩ := mem_filter.1 (mem_of_mem_filter member)
    obtain ⟨listed, named⟩ := mem_select.1 ofCase
    exact ⟨listed, of_decide_eq_true named, of_decide_eq_true resolved⟩
  have loaded := Loaded.loadState found now
  have loads : Turned store (loadState store row now) caseId [] true :=
    .of_same loaded.events loaded.needs (fun _ => by rw [loaded.cases]) _ _
  have retraction : Turned (loadState store row now) retracted caseId [] true :=
    retractItems_turned retracts
  have reopening : Turned retracted reopened caseId
      ((staleNeedsOf store knowledge change caseId).map (·.needId)) true := by
    refine reopenNeeds_turned (fun need member => ?_) reopens
    rw [retractItems_needs retracts, loaded.needs]
    obtain ⟨listed, named, -⟩ := stored need member
    exact ⟨need, get?_of_mem listed, named⟩
  have rebuilding : Turned reopened rebuilt caseId [] true := by
    unfold rebuildIf at rebuilds
    split at rebuilds
    · obtain ⟨⟨state, last⟩, rebuilds, done⟩ := bind_eq_ok.1 rebuilds
      cases done
      exact .of_rebuild rebuilds _
    · cases rebuilds
      exact .of_same rfl rfl (fun _ => .rfl) _ _
  have waking : Turned rebuilt next caseId [] true :=
    .of_same (wakeCase_tables wakes).1 (wakeCase_tables wakes).2 (resolved_of_wakeCase wakes) _ _
  refine ⟨_, (((loads.trans retraction).trans reopening).trans rebuilding).trans waking, ?_, ?_⟩
  · simp only [nil_append, append_nil]
    have sublist : (staleNeedsOf store knowledge change caseId).Sublist store.needs.rows :=
      (filter_sublist.trans filter_sublist).trans filter_sublist
    exact List.Nodup.sublist (sublist.map _) store.needs.nodup
  · simp only [nil_append, append_nil, mem_map]
    rintro _ ⟨need, member, rfl⟩ ⟨other, otherFound, -, opened⟩
    obtain ⟨listed, -, resolved⟩ := stored need member
    rw [get?_of_mem listed] at otherFound
    cases otherFound
    rw [resolved] at opened
    cases opened

theorem NeedLifecycle.applyCases (kept : NeedLifecycle store) (apart : OperationsApart store)
    (ok : applyCases knowledge change eventIds now store caseIds = .ok (impacts, next)) :
    NeedLifecycle next ∧ OperationsApart next := by
  induction caseIds generalizing store impacts with
  | nil =>
      cases ok
      exact ⟨kept, apart⟩
  | cons caseId rest ih =>
      unfold Investigation.applyCases at ok
      split at ok
      next => exact ih kept apart ok
      next row _ =>
        split at ok
        next => exact ih kept apart ok
        next =>
          obtain ⟨⟨impact, middle⟩, applied, ok⟩ := bind_eq_ok.1 ok
          obtain ⟨⟨later, last⟩, loop, ok⟩ := bind_eq_ok.1 ok
          cases ok
          obtain ⟨needIds, turned, once, closed⟩ := applyCase_turned applied
          have due : ∀ needId ∈ needIds, OpenNeed store caseId needId ↔ true = false :=
            fun needId member => by simp [closed needId member]
          exact ih (kept.turned turned once due) (turned.apart apart) loop

end WorldChanges

/-! ## Every call -/

/-- A patch that is new resolves no need twice. -/
def CaseOp.ResolvesOnce (store : CaseStore) : CaseOp → Prop
  | .applyPatch _ patch _ _ _ => patchEvents store patch.caseId patch.patchId = [] →
      (resolvedNeedIds patch.operations).Nodup
  | .create .. | .move .. | .getState .. | .rebuild .. | .openNeed .. | .reopenNeed ..
  | .commitDecision .. | .recordPerception .. | .processChange .. => True

theorem move_tables {move : CaseMove} {row : InvestigationCaseModel}
    (ok : moveCase store caseId now move = .ok (row, next)) :
    next.events = store.events ∧ next.needs = store.needs := by
  have transition : ∀ {allowed target}, transitionCase store caseId allowed target =
      .ok (row, next) → next.events = store.events ∧ next.needs = store.needs := by
    intro allowed target ok
    obtain ⟨_, -, ⟨-, rfl⟩ | ⟨-, -, rfl⟩⟩ := transitionCase_ok ok
    · exact ⟨rfl, rfl⟩
    · exact ⟨rfl, rfl⟩
  cases move with
  | activate => exact transition ok
  | wait => exact transition ok
  | resolve => exact transition ok
  | cancel => exact transition ok
  | close runningTrajectory =>
      simp only [moveCase, closeCase, getCase] at ok
      obtain ⟨old, -, ok⟩ := fetch_bind_eq_ok.1 ok
      split at ok
      next =>
        cases ok
        exact ⟨rfl, rfl⟩
      next =>
        obtain ⟨-, ok⟩ := require_bind_eq_ok.1 ok
        obtain ⟨-, ok⟩ := require_bind_eq_ok.1 ok
        cases ok
        exact ⟨rfl, rfl⟩

/-- The call moves a case in its lifecycle, and does nothing else. -/
def CaseOp.isMove : CaseOp → Bool
  | .move .. => true
  | .create .. | .getState .. | .rebuild .. | .openNeed .. | .reopenNeed .. | .applyPatch ..
  | .commitDecision .. | .recordPerception .. | .processChange .. => false

/-- **Every call keeps the lifecycle**, a patch if it resolves no need twice. -/
theorem NeedLifecycle.step (kept : NeedLifecycle store) (apart : OperationsApart store)
    (once : op.ResolvesOnce store) (ok : caseService op store = .ok (answer, next)) :
    NeedLifecycle next ∧ OperationsApart next := by
  have unmarked : ∀ {middle caseId}, Turned store middle caseId [] true →
      NeedLifecycle middle ∧ OperationsApart middle :=
    fun turned => ⟨kept.unmarked turned, turned.apart apart⟩
  -- a need that is not open may be opened
  have opens : ∀ {middle caseId needId}, Turned store middle caseId [needId] true →
      ¬ OpenNeed store caseId needId → NeedLifecycle middle ∧ OperationsApart middle := by
    intro middle caseId needId turned closed
    refine ⟨kept.turned turned (nodup_singleton _) fun other member => ?_,
      turned.apart apart⟩
    rw [mem_singleton.1 member]
    simp [closed]
  cases caseService_called ok with
  | create called =>
      obtain ⟨cases, inserted, called⟩ := fetch_bind_eq_ok.1 called
      cases called
      have events : ({ store with cases } : CaseStore).events = store.events := rfl
      exact ⟨kept.of_same events rfl, apart.of_same events⟩
  | move called =>
      obtain ⟨events, needs⟩ := move_tables called
      exact ⟨kept.of_same events needs, apart.of_same events⟩
  | @getState caseId _ _ called =>
      exact unmarked (.of_getState called caseId)
  | @rebuild caseId _ _ called =>
      exact unmarked (.of_rebuild called caseId)
  | openNeed called =>
      obtain ⟨turned | ⟨turned, absent⟩, -⟩ := openEvidenceNeed_turned called
      · exact unmarked turned
      · refine opens turned ?_
        rintro ⟨need, found, -⟩
        rw [absent] at found
        cases found
  | reopenNeed called =>
      obtain ⟨need, found, -, ⟨turned, -⟩ | ⟨turned, -, closed, -⟩⟩ :=
        reopenEvidenceNeed_turned called
      · exact unmarked turned
      · refine opens turned ?_
        rintro ⟨other, otherFound, -, opened⟩
        rw [found] at otherFound
        cases otherFound
        exact closed opened
  | applyPatch called =>
      rcases applyPatch_turned called with ⟨-, turned⟩ | ⟨fresh, turned, opened⟩
      · exact ⟨kept.unmarked turned, turned.apart apart⟩
      · refine ⟨kept.turned turned (once fresh) fun needId member => ?_, turned.apart apart⟩
        simp [opened needId member]
  | commitDecision called =>
      exact unmarked (commitDecision_turned called)
  | recordPerception called =>
      obtain ⟨caseId, turned⟩ := recordPerception_turned called
      exact unmarked turned
  | @processChange knowledge change _ now _ called =>
      obtain ⟨⟨ids, loaded⟩, selected, called⟩ := bind_eq_ok.1 called
      obtain ⟨_, _, selects, loads, -⟩ := relevantCaseIds_eq store knowledge change now
      rw [selected] at selects
      cases selects
      obtain ⟨loadedKept, loadedApart⟩ :=
        unmarked (.of_same loads.events loads.needs (fun _ => by rw [loads.cases]) "" true)
      exact loadedKept.applyCases loadedApart called

theorem resolved_of_applyCases {change : KnowledgeChangeNotice}
    (ok : applyCases knowledge change eventIds now store caseIds = .ok (impacts, next))
    (other : String) : IsResolved next.cases other ↔ IsResolved store.cases other := by
  refine applyCases_induction (motive := fun store _ _ next =>
    IsResolved next.cases other ↔ IsResolved store.cases other) (fun _ => .rfl)
    (fun _ later => later) ?_ ok
  intro _ _ _ _ _ _ _ applied later
  obtain ⟨needIds, turned, -⟩ := applyCase_turned applied
  rw [later, turned.resolved]

/-- **Only a move resolves a case**, and only a move takes it out of `RESOLVED`. -/
theorem resolved_of_ok (unmoved : op.isMove = false)
    (ok : caseService op store = .ok (answer, next)) (other : String) :
    IsResolved next.cases other ↔ IsResolved store.cases other := by
  cases caseService_called ok with
  | create called =>
      obtain ⟨cases, inserted, called⟩ := fetch_bind_eq_ok.1 called
      cases called
      show IsResolved cases other ↔ _
      unfold IsResolved
      rw [get?_insert? inserted]
      split
      next same =>
        -- a case is created, and was not there
        obtain ⟨-, absent⟩ := insert?_eq_some inserted
        have missing : store.cases.get? other = none := by
          rw [← same]
          exact absent
        simp [missing]
      next => rfl
  | move => cases unmoved
  | getState called =>
      rw [cases_of_getState called]
  | rebuild called =>
      rw [cases_of_rebuild called]
  | openNeed called =>
      obtain ⟨turned | ⟨turned, -⟩, -⟩ := openEvidenceNeed_turned called
      · exact turned.resolved other
      · exact turned.resolved other
  | reopenNeed called =>
      obtain ⟨need, -, -, ⟨turned, -⟩ | ⟨turned, -⟩⟩ := reopenEvidenceNeed_turned called
      · exact turned.resolved other
      · exact turned.resolved other
  | applyPatch called =>
      rcases applyPatch_turned called with ⟨-, turned⟩ | ⟨-, turned, -⟩
      · exact turned.resolved other
      · exact turned.resolved other
  | @commitDecision commit _ _ _ called =>
      have turned : Turned store next commit.caseId [] true := commitDecision_turned called
      exact turned.resolved other
  | recordPerception called =>
      obtain ⟨caseId, turned⟩ : ∃ caseId, Turned store next caseId [] true :=
        recordPerception_turned called
      exact turned.resolved other
  | @processChange knowledge change _ now _ called =>
      obtain ⟨⟨ids, loaded⟩, selected, called⟩ := bind_eq_ok.1 called
      obtain ⟨_, _, selects, loads, -⟩ := relevantCaseIds_eq store knowledge change now
      rw [selected] at selects
      cases selects
      rw [resolved_of_applyCases called, loads.cases]

/-- What every guarded run keeps. -/
theorem needLifecycle_caseStoreAfter (ops : List CaseOp)
    (once : Along caseService (fun store op => op.ResolvesOnce store) CaseStore.empty ops) :
    NeedLifecycle (caseStoreAfter ops) ∧ OperationsApart (caseStoreAfter ops) := by
  have preserved : ∀ (store : CaseStore) (op : CaseOp) (answer : CaseAnswer) (next : CaseStore),
      NeedLifecycle store ∧ OperationsApart store → op.ResolvesOnce store →
        caseService op store = .ok (answer, next) →
          NeedLifecycle next ∧ OperationsApart next :=
    fun _ _ _ _ kept once ok => kept.1.step kept.2 once ok
  exact run_invariant_along preserved ⟨.empty, fun first member => absurd member not_mem_nil⟩
    ops once

/-! ## The answers -/

def CaseStateEventModel.Opens (event : CaseStateEventModel) (needId : String) : Prop :=
  event.eventType = .evidenceNeedOpened ∧ event.payload.needId = some needId

/-- The event has been left by a reopening with this key. -/
def CaseStateEventModel.OpensUnder (event : CaseStateEventModel) (reopenKey : String) : Prop :=
  event.patchId = some reopenKey ∧ event.operationIndex = some 0 ∧
    event.eventType = .evidenceNeedOpened

/-- **A reopening finds an opening of its own need**: its key has reopened no other need of
the case, and if the need is open and the key is new, then the need has been opened last in
the case. -/
structure FindsOwnOpening (store : CaseStore) (need : EvidenceNeedModel) (reopenKey : String) :
    Prop where
  key : ∀ event ∈ store.eventsOf need.caseId, event.OpensUnder reopenKey →
    event.payload.needId = some need.needId
  last : need.status = .open →
    (∀ event ∈ store.eventsOf need.caseId, ¬ event.OpensUnder reopenKey) →
    ∀ event ∈ store.eventsOf need.caseId, event.eventType = .evidenceNeedOpened →
      (∀ other ∈ store.eventsOf need.caseId, other.eventType = .evidenceNeedOpened →
        other.caseRevision ≤ event.caseRevision) →
      event.payload.needId = some need.needId

theorem OperationsApart.eventOfCall_eq (apart : OperationsApart store)
    (member : event ∈ store.eventsOf caseId) (under : event.OpensUnder reopenKey) :
    eventOfCall? store caseId reopenKey .evidenceNeedOpened = some event := by
  cases found : eventOfCall? store caseId reopenKey .evidenceNeedOpened with
  | none =>
      have absent := find?_eq_none.1 found event member
      simp [under.1, under.2.1, under.2.2] at absent
  | some other =>
      have named := find?_some found
      simp only [decide_eq_true_eq] at named
      obtain ⟨listed, ofCase⟩ := mem_caseEventsOf.1 member
      obtain ⟨otherListed, otherCase⟩ := mem_caseEventsOf.1 (mem_of_find?_eq_some found)
      obtain ⟨otherKey, otherIndex, -⟩ := named
      obtain ⟨key, index, -⟩ := under
      rw [apart other otherListed event listed
        ⟨otherCase.trans ofCase.symm, otherKey.trans key.symm, by simp [otherKey],
          otherIndex.trans index.symm, by simp [otherIndex]⟩]

theorem eventOfCall?_eq_none :
    eventOfCall? store caseId reopenKey .evidenceNeedOpened = none ↔
      ∀ event ∈ store.eventsOf caseId, ¬ event.OpensUnder reopenKey := by
  simp [eventOfCall?, CaseStateEventModel.OpensUnder]

theorem OpensUnder_of_eventOfCall
    (found : eventOfCall? store caseId reopenKey .evidenceNeedOpened = some event) :
    event ∈ store.eventsOf caseId ∧ event.OpensUnder reopenKey := by
  have named := find?_some found
  simp only [decide_eq_true_eq] at named
  exact ⟨mem_of_find?_eq_some found, named⟩

/-- A case has no two events of one revision. -/
theorem CaseLogKept.eq_of_revision (kept : CaseLogKept store) (left : first ∈ store.eventsOf caseId)
    (right : second ∈ store.eventsOf caseId) (same : first.caseRevision = second.caseRevision) :
    first = second := by
  obtain ⟨listed, ofCase⟩ := mem_caseEventsOf.1 left
  obtain ⟨row, found⟩ := kept.ofCase first listed
  rw [ofCase] at found
  have distinct : ((store.eventsOf caseId).map (·.caseRevision)).Nodup := by
    rw [kept.revisions caseId row found]
    exact List.nodup_range'
  exact inj_on_of_nodup_map distinct left right same

/-- The last opening is the one of the greatest revision. -/
theorem lastOpening?_eq_some (kept : CaseLogKept store) :
    lastOpening? store caseId = some event ↔ event ∈ store.eventsOf caseId ∧
      event.eventType = .evidenceNeedOpened ∧
      ∀ other ∈ store.eventsOf caseId, other.eventType = .evidenceNeedOpened →
        other.caseRevision ≤ event.caseRevision := by
  have total : Std.Total fun first second : CaseStateEventModel =>
      second.caseRevision ≤ first.caseRevision :=
    ⟨fun first second => le_total second.caseRevision first.caseRevision⟩
  have transitive : IsTrans CaseStateEventModel fun first second =>
      second.caseRevision ≤ first.caseRevision := ⟨fun _ _ _ left right => right.trans left⟩
  by_cases listed : event ∈ store.eventsOf caseId
  · rw [lastOpening?, head?_insertionSort_eq_some]
    · simp only [mem_filter, decide_eq_true_eq, and_imp, and_assoc]
    · intro other member below above
      exact kept.eq_of_revision (mem_of_mem_filter member) listed (le_antisymm below above)
  · constructor
    · intro latest
      have member := List.mem_of_mem_head? (mem_def.2 latest)
      rw [mem_insertionSort] at member
      exact absurd (mem_of_mem_filter member) listed
    · rintro ⟨member, -⟩
      exact absurd member listed

/-- **A reopening names the need exactly when it finds an opening of the need.** -/
theorem reopenEvidenceNeed_opens_iff (kept : CaseLogKept store) (apart : OperationsApart store)
    {request : ReopenEvidenceNeed} {need : EvidenceNeedModel}
    (found : store.needs.get? request.needId = some need)
    (ok : reopenEvidenceNeed store request eventIds now = .ok (result, next)) :
    result.event.Opens request.needId ↔ FindsOwnOpening store need request.reopenKey := by
  obtain ⟨other, otherFound, type, answers⟩ := reopenEvidenceNeed_turned ok
  obtain rfl := mem_unique found otherFound
  have sameId : need.needId = request.needId := key_of_get? found
  have names : result.event.Opens request.needId ↔
      result.event.payload.needId = some need.needId := by
    rw [sameId]
    exact ⟨And.right, fun named => ⟨type, named⟩⟩
  rw [names]
  rcases answers with ⟨-, used | ⟨unused, opened, latest⟩⟩ | ⟨-, unused, closed, named⟩
  · obtain ⟨listed, under⟩ := OpensUnder_of_eventOfCall used
    constructor
    · intro named
      refine ⟨fun event member eventUnder => ?_, fun _ unused => absurd under (unused _ listed)⟩
      have same := apart.eventOfCall_eq member eventUnder
      rw [used] at same
      cases same
      exact named
    · intro finds
      exact finds.key _ listed under
  · have unusedKey := eventOfCall?_eq_none.1 unused
    obtain ⟨listed, opening, greatest⟩ := (lastOpening?_eq_some kept).1 latest
    constructor
    · intro named
      refine ⟨fun event member under => absurd under (unusedKey event member), ?_⟩
      intro _ _ event member eventOpens eventGreatest
      have same := (lastOpening?_eq_some kept).2 ⟨member, eventOpens, eventGreatest⟩
      rw [latest] at same
      cases same
      exact named
    · intro finds
      exact finds.last opened unusedKey _ listed opening greatest
  · have unusedKey := eventOfCall?_eq_none.1 unused
    refine iff_of_true (by rw [sameId]; exact named) ⟨?_, fun opened => absurd opened closed⟩
    exact fun event member under => absurd under (unusedKey event member)

/-! ## The lifecycle of every run -/

/-- The events of every need take turns in the log of its case, and the need is open exactly
when the last of them is an opening. -/
structure NeedsTakeTurns (store : CaseStore) : Prop where
  alternates : ∀ caseId needId, Alternates (needMarks (store.orderedEvents caseId) needId)
  status : ∀ need ∈ store.needs.rows, need.status = .open ↔
    (needMarks (store.orderedEvents need.caseId) need.needId).getLast? = some true

/-- A case that is not there has no events either. -/
theorem CaseLogKept.orderedEvents_eq (kept : CaseLogKept store) (caseId : String) :
    store.orderedEvents caseId = store.eventsOf caseId := by
  cases found : store.cases.get? caseId with
  | some row => exact kept.orderedEvents found
  | none =>
      have nothing : store.eventsOf caseId = [] := by
        rw [eq_nil_iff_forall_not_mem]
        intro event member
        obtain ⟨listed, ofCase⟩ := mem_caseEventsOf.1 member
        obtain ⟨row, present⟩ := kept.ofCase event listed
        rw [ofCase, found] at present
        cases present
      rw [CaseStore.orderedEvents, nothing]
      rfl

theorem NeedLifecycle.takesTurns (kept : NeedLifecycle store) (log : CaseLogKept store) :
    NeedsTakeTurns store := by
  constructor
  case alternates =>
    intro caseId needId
    rw [log.orderedEvents_eq]
    exact kept.alternates caseId needId
  case status =>
    intro need member
    rw [log.orderedEvents_eq, kept.opened]
    constructor
    · intro opened
      exact ⟨need, get?_of_mem member, rfl, opened⟩
    · rintro ⟨other, found, -, opened⟩
      rw [get?_of_mem member] at found
      cases found
      exact opened

/-- **The needs of every case take turns** as long as no new patch resolves a need twice, and
a new patch that is applied leaves them so exactly when it does not.  `open_evidence_need`
then always answers with an opening of the need it is asked for, and `reopen_evidence_need`
exactly when it finds one. -/
theorem needs_take_turns (ops : List CaseOp)
    (once : Along caseService (fun store op => op.ResolvesOnce store) CaseStore.empty ops) :
    NeedsTakeTurns (caseStoreAfter ops) ∧
    (∀ knowledge request eventIds now result next,
      openEvidenceNeed (caseStoreAfter ops) knowledge request eventIds now = .ok (result, next) →
        result.event.Opens request.needId) ∧
    (∀ request need eventIds now result next,
      (caseStoreAfter ops).needs.get? request.needId = some need →
      reopenEvidenceNeed (caseStoreAfter ops) request eventIds now = .ok (result, next) →
        (result.event.Opens request.needId ↔
          FindsOwnOpening (caseStoreAfter ops) need request.reopenKey)) ∧
    (∀ knowledge patch reasonCode eventIds now result next,
      patchEvents (caseStoreAfter ops) patch.caseId patch.patchId = [] →
      applyPatch (caseStoreAfter ops) knowledge patch reasonCode eventIds now =
        .ok (result, next) →
        (NeedsTakeTurns next ↔ (resolvedNeedIds patch.operations).Nodup)) := by
  have log := caseLogKept_caseStoreAfter ops
  obtain ⟨kept, apart⟩ := needLifecycle_caseStoreAfter ops once
  refine ⟨kept.takesTurns log, ?_, ?_, ?_⟩
  · intro knowledge request eventIds now result next answered
    exact (openEvidenceNeed_turned answered).2
  · intro request need eventIds now result next found answered
    exact reopenEvidenceNeed_opens_iff log apart found answered
  · intro knowledge patch reasonCode eventIds now result next fresh answered
    have changes : Changes false (caseStoreAfter ops) next := by
      obtain ⟨row, -, ⟨-, -, changes⟩ | ⟨-, -, -, first, middle, state, write, writes, rebuilt⟩⟩ :=
        applyPatch_ok false answered
      · exact changes
      · exact .of_change (.of_rebuild ((Relation.ReflTransGen.single write).trans writes) rebuilt)
    have laterLog : CaseLogKept next := by
      clear answered
      induction changes with
      | refl => exact log
      | tail _ change ih => exact ih.change change
    rcases applyPatch_turned answered with ⟨replayed, -⟩ | ⟨-, turned, opened⟩
    · exact absurd fresh replayed
    have due : ∀ needId ∈ resolvedNeedIds patch.operations,
        OpenNeed (caseStoreAfter ops) patch.caseId needId ↔ false = false :=
      fun needId member => by simp [opened needId member]
    constructor
    · intro after
      refine kept.nodup turned due fun needId => ?_
      rw [← laterLog.orderedEvents_eq]
      exact after.alternates patch.caseId needId
    · intro distinct
      exact (kept.turned turned distinct due).takesTurns laterLog

/-! ## A need resolved twice -/

/-- A case and two needs, which no evidence is required for. -/
def twoNeeds : List CaseOp :=
  let need (revision : ℤ) (needId : String) : CaseOp := .openNeed .empty
    { caseId := "case-1", baseCaseRevision := revision, needId, propositionOrQuestion := "where",
      purpose := "scope", targetObjects := [], evidenceContract := { requireEvidence := false } }
    (fun _ revision => "event-" ++ toString revision) 1
  [.create "case-1" "signature" [] "goal" none 0, need 0 "need-1", need 1 "need-2"]

/-- Nothing is known of the proposition, which settles the need. -/
def unknownOf (proposition : String) (nonblank : isBlank proposition = false)
    (needId : Option String) : StatePatchOperation where
  proposition := proposition
  proposedState := .unknown
  resolvesNeedId := needId
  proposition_nonblank := nonblank
  evidence_required := by rintro (state | state) <;> cases state

/-- Two operations, each of which may settle a need. -/
def settlingPatch (first second : Option String) : CaseOp :=
  .applyPatch .empty
    { packagePatch with
      baseCaseRevision := 2
      operations :=
        [unknownOf "the host" (Eq.refl false) first, unknownOf "the user" (Eq.refl false) second]
      operations_nonempty := cons_ne_nil _ _ }
    "reasoned" (fun _ revision => "event-" ++ toString revision) 2

/-- Two needs that two operations resolve. -/
theorem needs_take_turns_twoNeeds :
    (caseStoreAfter (twoNeeds ++ [settlingPatch "need-1" "need-2"])).events.rows.length = 6 ∧
      NeedsTakeTurns (caseStoreAfter (twoNeeds ++ [settlingPatch "need-1" "need-2"])) := by
  refine ⟨by decide +kernel, (needs_take_turns _ ?_).1⟩
  refine ⟨trivial, trivial, trivial, fun _ => ?_, trivial⟩
  decide

/-- **A need may be resolved twice**: both operations of a patch name it, and it is open when
they are validated. -/
theorem needs_do_not_take_turns :
    ¬ ∀ ops, NeedsTakeTurns (caseStoreAfter ops) ∧
      (∀ knowledge request eventIds now result next,
        openEvidenceNeed (caseStoreAfter ops) knowledge request eventIds now = .ok (result, next) →
          result.event.Opens request.needId) ∧
      (∀ request eventIds now result next,
        reopenEvidenceNeed (caseStoreAfter ops) request eventIds now = .ok (result, next) →
          result.event.Opens request.needId) := by
  intro claimed
  have turns := (claimed (twoNeeds ++ [settlingPatch "need-1" "need-1"])).1.alternates "case-1"
    "need-1"
  have marks : ¬ Alternates (needMarks ((caseStoreAfter
      (twoNeeds ++ [settlingPatch "need-1" "need-1"])).orderedEvents "case-1") "need-1") := by
    decide +kernel
  exact marks turns

/-- The reopening of an open need is answered with the opening of another. -/
example : ((reopenEvidenceNeed (caseStoreAfter twoNeeds)
    { needId := "need-1", baseCaseRevision := 2, reopenKey := "change-1" }
    (fun _ revision => "event-" ++ toString revision) 3).toOption.map
      fun answer => answer.1.event.payload.needId) = some (some "need-2") := by
  decide +kernel

end SecFusion.Investigation
