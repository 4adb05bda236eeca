import SecFusion.Investigation.NeedResolution

/-!
# The identifiers of a log

`apply_patch`, `commit_decision` and `reopen_evidence_need` share one column of
identifiers with the perceptions.  What a call appends under its identifier are its
`requests`; `underKey` are those the log has.

A unit of change never writes under an identifier that has been used (`Records.fresh`), so
what stands under one identifier was appended by one call, and the log tells which calls
have been applied (`history_caseStoreAfter`).
-/

namespace SecFusion.Investigation

open Foundations Intelligence

/-! ## The requests of a log -/

/-- What `_append_event` was asked to append. -/
def CaseStateEventModel.request (event : CaseStateEventModel) : CaseEventRequest where
  eventType := event.eventType
  proposition := event.proposition
  targetRef := event.targetRef
  evidenceRefs := event.evidenceRefs
  writer := event.writer
  reasonCode := event.reasonCode
  payload := event.payload
  patchId := event.patchId
  operationIndex := event.operationIndex

@[simp] theorem request_newEvent (row : InvestigationCaseModel) (request : CaseEventRequest)
    (eventId : String) (now : ℤ) : (newEvent row request eventId now).request = request := rfl

/-- What the log of a case has under an identifier. -/
def underKey (store : CaseStore) (caseId key : String) : List CaseEventRequest :=
  ((store.eventsOf caseId).map (·.request)).filter (·.patchId = some key)

variable {store next : CaseStore} {need : EvidenceNeedModel}
  {other reasonCode perceptionEventId : String} {state : InvestigationState} {patch : StatePatch}
  {knowledge : KnowledgeStore} {result : EvidenceNeedOpenResult} {impacts : List WorldChangeImpact}
  {op : CaseOp} {answer : CaseAnswer} {ops : List CaseOp}

theorem mem_underKey {caseId key : String} {request : CaseEventRequest} :
    request ∈ underKey store caseId key ↔
      ∃ event ∈ store.eventsOf caseId, event.patchId = some key ∧ event.request = request := by
  simp only [underKey, mem_filter, mem_map, decide_eq_true_eq]
  constructor
  · rintro ⟨⟨event, member, rfl⟩, keyed⟩
    exact ⟨event, member, keyed, rfl⟩
  · rintro ⟨event, member, keyed, rfl⟩
    exact ⟨⟨event, member, rfl⟩, keyed⟩

/-- A need keeps what it was opened for. -/
structure SameNeed (need later : EvidenceNeedModel) : Prop where
  needId : later.needId = need.needId
  caseId : later.caseId = need.caseId
  proposition : later.propositionOrQuestion = need.propositionOrQuestion
  purpose : later.purpose = need.purpose
  priority : later.priority = need.priority

theorem SameNeed.refl (need : EvidenceNeedModel) : SameNeed need need := ⟨rfl, rfl, rfl, rfl, rfl⟩

theorem SameNeed.trans {first second third : EvidenceNeedModel} (left : SameNeed first second)
    (right : SameNeed second third) : SameNeed first third where
  needId := right.needId.trans left.needId
  caseId := right.caseId.trans left.caseId
  proposition := right.proposition.trans left.proposition
  purpose := right.purpose.trans left.purpose
  priority := right.priority.trans left.priority

theorem SameNeed.view {later : EvidenceNeedModel} (same : SameNeed need later)
    (viewed : needView need = .ok need) : needView later = .ok later := by
  unfold needView at viewed ⊢
  rw [same.purpose, same.priority]
  simp only [require_bind_eq_ok, pure_eq_ok, and_true] at viewed ⊢
  exact viewed

/-- Every need can be viewed, and its case has logged an opening. -/
def NeedsShown (store : CaseStore) : Prop :=
  ∀ id need, store.needs.get? id = some need → needView need = .ok need ∧
    ∃ event ∈ store.eventsOf need.caseId, event.eventType = .evidenceNeedOpened

/-- **What a unit appends**: these requests to the log of one case, each under an
identifier and an index that the log did not have. -/
structure Records (store next : CaseStore) (caseId : String) (requests : List CaseEventRequest) :
    Prop where
  log : ∀ other key, underKey next other key = underKey store other key ++
    if caseId = other then requests.filter (·.patchId = some key) else []
  fresh : ∀ request ∈ requests, ∀ key ∈ request.patchId, request.operationIndex ≠ none →
    ∀ old ∈ underKey store caseId key, old.operationIndex ≠ request.operationIndex
  needs : ∀ id need, store.needs.get? id = some need →
    ∃ later, next.needs.get? id = some later ∧ SameNeed need later
  shown : NeedsShown store → NeedsShown next

namespace Records

variable {middle : CaseStore} {caseId : String} {requests first second : List CaseEventRequest}

theorem of_same (events : next.events = store.events) (needs : next.needs = store.needs)
    (caseId : String) : Records store next caseId [] where
  log other key := by simp [underKey, eventsOf, events]
  fresh request member := by cases member
  needs id need found := ⟨need, by rw [needs, found], .refl need⟩
  shown shown id need found := by
    rw [needs] at found
    rw [eventsOf, events]
    exact shown id need found

theorem trans (left : Records store middle caseId first)
    (right : Records middle next caseId second) : Records store next caseId (first ++ second) where
  log other key := by
    rw [right.log, left.log, append_assoc]
    split
    next => rw [filter_append]
    next => rfl
  fresh request member key keyed indexed old listed := by
    rcases mem_append.1 member with early | late
    · exact left.fresh request early key keyed indexed old listed
    · refine right.fresh request late key keyed indexed old ?_
      rw [left.log]
      exact mem_append_left _ listed
  needs id need found := by
    obtain ⟨later, laterFound, same⟩ := left.needs id need found
    obtain ⟨last, lastFound, sameLast⟩ := right.needs id later laterFound
    exact ⟨last, lastFound, same.trans sameLast⟩
  shown shown := right.shown (left.shown shown)

/-- What has no identifier stands under none. -/
theorem unkeyed (records : Records store next caseId requests)
    (plain : ∀ request ∈ requests, request.patchId = none) (other : String) :
    Records store next other [] where
  log third key := by
    have none : requests.filter (·.patchId = some key) = [] := by
      rw [filter_eq_nil_iff]
      intro request member
      simp [plain request member]
    rw [records.log, none]
    simp
  fresh request member := by cases member
  needs := records.needs
  shown := records.shown

theorem idle (left : Records store middle caseId []) (right : Records middle next other requests) :
    Records store next other requests :=
  (left.unkeyed (by simp) other).trans right

theorem settle (left : Records store middle caseId requests) (right : Records middle next other []) :
    Records store next caseId requests := by
  have both := left.trans (right.unkeyed (by simp) caseId)
  rwa [append_nil] at both

theorem of_append {request : CaseEventRequest} {eventIds : EventIds} {now : ℤ}
    {event : CaseStateEventModel}
    (ok : appendEvent store caseId request eventIds now = .ok (event, next)) :
    Records store next caseId [request] := by
  obtain ⟨⟨row, found, made⟩, appended, needs, -⟩ := appendEvent_ok ok
  have asked : event.request = request := by rw [made, request_newEvent]
  constructor
  case log =>
    intro other key
    rw [underKey, appended.eventsOf]
    split
    next => rw [map_append, filter_append, map_singleton, asked, underKey]
    next => rw [append_nil, underKey]
  case fresh =>
    intro asks member key keyed indexed old listed
    obtain rfl := mem_singleton.1 member
    obtain ⟨other, otherMember, otherKeyed, rfl⟩ := mem_underKey.1 listed
    unfold appendEvent at ok
    obtain ⟨_, found, ok⟩ := bind_eq_ok.1 ok
    obtain ⟨logged, inserted, ok⟩ := bind_eq_ok.1 ok
    cases ok
    obtain ⟨-, inserted⟩ := require_bind_eq_ok.1 inserted
    obtain ⟨unused, -⟩ := require_bind_eq_ok.1 inserted
    obtain ⟨stored, ofCase⟩ := mem_caseEventsOf.1 otherMember
    intro same
    have sameIndex : other.operationIndex = asks.operationIndex := same
    refine unused other stored ⟨ofCase.trans appended.ofCase.symm, otherKeyed.trans keyed.symm, ?_,
      sameIndex, ?_⟩
    · rw [otherKeyed]
      exact some_ne_none key
    · rw [sameIndex]
      exact indexed
  case needs =>
    intro id need found
    exact ⟨need, by rw [needs, found], .refl need⟩
  case shown =>
    intro shown id need found
    rw [needs] at found
    obtain ⟨viewed, opening, member, type⟩ := shown id need found
    refine ⟨viewed, opening, ?_, type⟩
    rw [appended.eventsOf]
    split
    · exact mem_append_left _ member
    · exact member

theorem of_updateNeed {needId : String} {rewrite : EvidenceNeedModel → EvidenceNeedModel}
    {keeps : ∀ row, (rewrite row).needId = row.needId} (same : ∀ row, SameNeed row (rewrite row))
    (caseId : String) : Records store (store.updateNeed needId rewrite keeps) caseId [] where
  log other key := by simp [underKey, eventsOf, CaseStore.updateNeed]
  fresh request member := by cases member
  needs id need found := by
    rw [get?_updateNeed, found]
    split
    · exact ⟨_, rfl, same need⟩
    · exact ⟨_, rfl, .refl need⟩
  shown shown id need found := by
    rw [get?_updateNeed] at found
    split at found
    next =>
      obtain ⟨old, oldFound, rfl⟩ := map_eq_some_iff.1 found
      obtain ⟨viewed, opened⟩ := shown id old oldFound
      refine ⟨(same old).view viewed, ?_⟩
      rw [(same old).caseId]
      exact opened
    next => exact shown id need found

end Records

theorem sameNeed_withOpen (need : EvidenceNeedModel) (revision : ℕ) (now : ℤ) :
    SameNeed need (need.withOpen revision now) := ⟨rfl, rfl, rfl, rfl, rfl⟩

theorem sameNeed_withResolved (need : EvidenceNeedModel) (refs : List String) (now : ℤ) :
    SameNeed need (need.withResolved refs now) := ⟨rfl, rfl, rfl, rfl, rfl⟩

theorem sameNeed_withReopened (need : EvidenceNeedModel) (now : ℤ) :
    SameNeed need (need.withReopened now) := ⟨rfl, rfl, rfl, rfl, rfl⟩

theorem sameNeed_withRevision (need : EvidenceNeedModel) (revision : ℕ) :
    SameNeed need (need.withRevision revision) := ⟨rfl, rfl, rfl, rfl, rfl⟩

/-! ## What the calls append -/

section Calls

variable {caseId : String} {eventIds : EventIds} {now : ℤ}

theorem Records.of_write (row : InvestigationCaseModel) (other : String) :
    Records store (writeCurrent store row now).2 other [] := by
  have events : (writeCurrent store row now).2.events = store.events := rfl
  exact .of_same events rfl other

theorem Records.of_getState (ok : getState store caseId now = .ok (state, next))
    (other : String) :
    Records store next other [] := by
  obtain ⟨row, -, ⟨-, rfl⟩ | ⟨-, -, rfl⟩⟩ := getState_ok ok
  · exact .of_same rfl rfl other
  · exact .of_write row other

theorem Records.of_rebuild (ok : rebuildState store caseId now = .ok (state, next))
    (other : String) :
    Records store next other [] := by
  obtain ⟨row, -, -, rfl⟩ := rebuildState_ok ok
  exact .of_write row other

/-- What a patch appends under its identifier. -/
def patchRequests (patch : StatePatch) (reasonCode : String) (index : ℕ)
    (operations : List StatePatchOperation) : List CaseEventRequest :=
  (operations.zipIdx index).map fun operation =>
    operationEvent patch reasonCode operation.2 operation.1

theorem Records.of_resolution {operation : StatePatchOperation} {writer : String}
    {resolved : Option CaseStateEventModel}
    (ok : resolveNeedFromOperation store caseId operation writer eventIds now =
      .ok (resolved, next)) : Records store next caseId [] := by
  unfold resolveNeedFromOperation at ok
  split at ok
  next =>
    cases ok
    exact .of_same rfl rfl caseId
  next needId _ =>
    obtain ⟨need, -, ok⟩ := fetch_bind_eq_ok.1 ok
    obtain ⟨⟨event, logged⟩, appended, ok⟩ := bind_eq_ok.1 ok
    cases ok
    have marks : Records store (store.updateNeed needId (·.withResolved operation.evidenceRefs now)
        (·.withResolved_needId operation.evidenceRefs now)) caseId [] :=
      .of_updateNeed (fun need => sameNeed_withResolved need _ now) caseId
    have logs := (Records.of_append appended).unkeyed
      (fun request member => by rw [mem_singleton.1 member]; rfl) caseId
    have numbers : Records logged (logged.updateNeed needId (·.withRevision event.caseRevision)
        (·.withRevision_needId event.caseRevision)) caseId [] :=
      .of_updateNeed (fun need => sameNeed_withRevision need _) caseId
    exact (marks.trans logs).trans numbers

theorem Records.of_operations {operations : List StatePatchOperation} {index : ℕ}
    {events : List CaseStateEventModel}
    (ok : applyOperations patch reasonCode eventIds now store index operations =
      .ok (events, next)) :
    Records store next patch.caseId (patchRequests patch reasonCode index operations) := by
  induction operations generalizing store index events with
  | nil =>
      cases ok
      exact .of_same rfl rfl _
  | cons operation rest ih =>
      obtain ⟨⟨event, logged⟩, appended, ok⟩ := bind_eq_ok.1 ok
      obtain ⟨⟨resolved, settled⟩, settles, ok⟩ := bind_eq_ok.1 ok
      obtain ⟨⟨later, last⟩, applied, ok⟩ := bind_eq_ok.1 ok
      cases ok
      exact ((Records.of_append appended).settle (.of_resolution settles)).trans (ih applied)

theorem applyPatch_records {result : StatePatchApplyResult}
    (ok : applyPatch store knowledge patch reasonCode eventIds now = .ok (result, next)) :
    Records store next patch.caseId
      (if result.replay = true then [] else patchRequests patch reasonCode 0 patch.operations) := by
  obtain ⟨row, -, ⟨replay, -, read⟩ | ⟨applied, -, -, -, middle, loop, rebuilt⟩⟩ :=
    applyPatch_course ok
  · rw [if_pos replay]
    exact .of_getState read _
  · rw [applied, if_neg Bool.false_ne_true]
    exact (Records.of_operations loop).settle (.of_rebuild rebuilt patch.caseId)

theorem commitDecision_records {commit : DecisionCommit} {result : DecisionCommitResult}
    (ok : commitDecision store commit eventIds now = .ok (result, next)) :
    Records store next commit.caseId
      (if result.replay = true then [] else [decisionEvent commit]) := by
  obtain ⟨row, -, ⟨replay, -, read⟩ | ⟨applied, -, -, logged, appended, rebuilt⟩⟩ :=
    commitDecision_course ok
  · rw [if_pos replay]
    exact .of_getState read _
  · rw [applied, if_neg Bool.false_ne_true]
    exact (Records.of_append appended).settle (.of_rebuild rebuilt commit.caseId)

theorem reopenEvidenceNeed_records {request : ReopenEvidenceNeed}
    (found : store.needs.get? request.needId = some need)
    (ok : reopenEvidenceNeed store request eventIds now = .ok (result, next)) :
    Records store next need.caseId
      (if result.replay = true then [] else [needReopenedEvent need request]) := by
  obtain ⟨other, row, otherFound, -, course⟩ := reopenEvidenceNeed_course ok
  rw [found] at otherFound
  cases otherFound
  rcases course with ⟨replay, read, -⟩ | ⟨applied, -, -, -, logged, appended, rebuilt⟩
  · rw [if_pos replay]
    exact .of_getState read _
  · rw [applied, if_neg Bool.false_ne_true]
    have opens : Records logged (logged.updateNeed need.needId
        (·.withOpen result.event.caseRevision now)
        (·.withOpen_needId result.event.caseRevision now)) need.caseId [] :=
      .of_updateNeed (fun need => sameNeed_withOpen need _ now) _
    exact ((Records.of_append appended).settle opens).settle (.of_rebuild rebuilt need.caseId)

/-- A need that can be viewed is stored, when its case has logged an opening. -/
theorem Records.of_insertNeed {needs : Table EvidenceNeedModel String (·.needId)}
    (inserted : store.needs.insert? need = some needs) (viewed : needView need = .ok need)
    (opened : ∃ event ∈ store.eventsOf need.caseId, event.eventType = .evidenceNeedOpened)
    (caseId : String) : Records store { store with needs } caseId [] where
  log other key := by simp [underKey, eventsOf]
  fresh request member := by cases member
  needs id old found := by
    refine ⟨old, (get?_insert? inserted id).trans ?_, .refl old⟩
    rw [if_neg, found]
    rintro rfl
    rw [(insert?_eq_some inserted).2] at found
    cases found
  shown shown id other found := by
    have found : needs.get? id = some other := found
    rw [get?_insert? inserted] at found
    split at found
    next =>
      cases found
      exact ⟨viewed, opened⟩
    next => exact shown id other found

theorem openEvidenceNeed_records {request : OpenEvidenceNeed}
    (ok : openEvidenceNeed store knowledge request eventIds now = .ok (result, next))
    (other : String) : Records store next other [] := by
  obtain ⟨row, -, ⟨-, -, -, read⟩ |
    ⟨-, -, -, logged, needs, appended, inserted, rebuilt, viewed⟩⟩ := openEvidenceNeed_course ok
  · exact .of_getState read _
  · obtain ⟨⟨_, -, made⟩, logs, -, -⟩ := appendEvent_ok appended
    have viewed : needView (newNeed request result.event.caseRevision now) =
        .ok (newNeed request result.event.caseRevision now) := by
      unfold needView at viewed ⊢
      simp only [require_bind_eq_ok, pure_eq_ok, and_true] at viewed ⊢
      exact ⟨viewed.1, viewed.2.1⟩
    have opened : ∃ opening ∈ logged.eventsOf request.caseId,
        opening.eventType = .evidenceNeedOpened := by
      refine ⟨result.event, ?_, by rw [made]; rfl⟩
      rw [logs.eventsOf, if_pos rfl]
      exact mem_append_right _ (mem_singleton_self _)
    have appends := (Records.of_append appended).unkeyed
      (fun request member => by rw [mem_singleton.1 member]; rfl) other
    have stores : Records logged { logged with needs } other [] :=
      .of_insertNeed inserted viewed opened other
    exact (appends.trans stores).trans (.of_rebuild rebuilt _)

theorem markPerception_records {worldRevision : ℕ} {perceivedAt : ℤ}
    (ok : markPerception store caseId perceptionEventId worldRevision perceivedAt eventIds
      now = .ok (state, next)) :
    Records store next caseId [] ∨ Records store next caseId
      [perceptionEvent perceptionEventId worldRevision perceivedAt] := by
  obtain ⟨middle, rebuilt, ⟨event, appended, -⟩ | ⟨rfl, -⟩⟩ := markPerception_course ok
  · exact .inr ((Records.of_append appended).settle (.of_rebuild rebuilt caseId))
  · exact .inl (.of_rebuild rebuilt _)

theorem recordPerception_records {call : RecordPerception} {record : PerceptionEventRecord}
    (ok : recordPerception store knowledge call perceptionEventId eventIds now =
      .ok (record, next)) :
    ∃ caseId, Records store next caseId [] ∨ ∃ identity worldRevision perceivedAt,
      Records store next caseId [perceptionEvent identity worldRevision perceivedAt] := by
  unfold recordPerception at ok
  obtain ⟨caseId, -, ok⟩ := bind_eq_ok.1 ok
  split at ok
  next existing _ =>
    obtain ⟨-, ok⟩ := require_bind_eq_ok.1 ok
    obtain ⟨⟨state, last⟩, marked, ok⟩ := bind_eq_ok.1 ok
    cases ok
    refine ⟨existing.caseId, (markPerception_records marked).imp id fun records => ?_⟩
    exact ⟨_, _, _, records⟩
  next =>
    obtain ⟨perceptions, -, ok⟩ := fetch_bind_eq_ok.1 ok
    obtain ⟨⟨state, last⟩, marked, ok⟩ := bind_eq_ok.1 ok
    cases ok
    have stored : Records store { store with perceptions } caseId [] := by
      have events : ({ store with perceptions } : CaseStore).events = store.events := rfl
      exact .of_same events rfl caseId
    refine ⟨caseId, (markPerception_records marked).imp stored.idle fun records => ?_⟩
    exact ⟨_, _, _, stored.idle records⟩

/-! ## World changes -/

variable {change : KnowledgeChangeNotice}

theorem retractItems_records {items : List InvestigationStateItem}
    (ok : retractItems caseId change eventIds now store items = .ok next) :
    Records store next caseId [] := by
  induction items generalizing store with
  | nil =>
      cases ok
      exact .of_same rfl rfl caseId
  | cons item rest ih =>
      obtain ⟨⟨_, retracted⟩, retracts, ok⟩ := bind_eq_ok.1 ok
      obtain ⟨⟨_, opened⟩, opens, ok⟩ := bind_eq_ok.1 ok
      have first := (Records.of_append retracts).unkeyed
        (fun request member => by rw [mem_singleton.1 member]; rfl) caseId
      have second := (Records.of_append opens).unkeyed
        (fun request member => by rw [mem_singleton.1 member]; rfl) caseId
      exact (first.trans second).trans (ih ok)

theorem reopenNeeds_records {needs : List EvidenceNeedModel}
    (ok : reopenNeeds caseId change eventIds now store needs = .ok next) :
    Records store next caseId [] := by
  induction needs generalizing store with
  | nil =>
      cases ok
      exact .of_same rfl rfl caseId
  | cons need rest ih =>
      obtain ⟨⟨event, logged⟩, appended, ok⟩ := bind_eq_ok.1 ok
      have marks : Records store (store.updateNeed need.needId (·.withReopened now)
          (·.withReopened_needId now)) caseId [] :=
        .of_updateNeed (fun need => sameNeed_withReopened need now) caseId
      have logs := (Records.of_append appended).unkeyed
        (fun request member => by rw [mem_singleton.1 member]; rfl) caseId
      have numbers : Records logged (logged.updateNeed need.needId
          (·.withRevision event.caseRevision) (·.withRevision_needId event.caseRevision)) caseId
          [] := .of_updateNeed (fun need => sameNeed_withRevision need _) caseId
      exact ((marks.trans logs).trans numbers).trans (ih ok)

theorem applyCase_records {impact : WorldChangeImpact}
    (ok : applyCase store knowledge caseId change eventIds now = .ok (impact, next)) :
    Records store next caseId [] := by
  obtain ⟨row, items, retracted, reopened, rebuilt, found, -, retracts, reopens, rebuilds, wakes,
    -⟩ := applyCase_stages ok
  have ofRow := key_of_get? found
  rw [← ofRow] at found
  have loaded := Loaded.loadState found now
  have loads : Records store (loadState store row now) caseId [] :=
    .of_same loaded.events loaded.needs caseId
  have rebuilding : Records reopened rebuilt caseId [] := by
    unfold rebuildIf at rebuilds
    split at rebuilds
    · obtain ⟨⟨state, last⟩, rebuilds, done⟩ := bind_eq_ok.1 rebuilds
      cases done
      exact .of_rebuild rebuilds caseId
    · cases rebuilds
      exact .of_same rfl rfl caseId
  have waking : Records rebuilt next caseId [] :=
    .of_same (wakeCase_tables wakes).1 (wakeCase_tables wakes).2 caseId
  exact (((loads.trans (retractItems_records retracts)).trans (reopenNeeds_records reopens)).trans
    rebuilding).trans waking

theorem applyCases_records {caseIds : List String}
    (ok : applyCases knowledge change eventIds now store caseIds = .ok (impacts, next))
    (other : String) : Records store next other [] := by
  refine applyCases_induction (motive := fun store _ _ next => Records store next other [])
    ?_ (fun _ later => later) ?_ ok
  · exact fun _ => .of_same rfl rfl other
  · exact fun applied later => (applyCase_records applied).idle later

theorem processChange_records
    (ok : processChange store knowledge change eventIds now = .ok (impacts, next))
    (other : String) : Records store next other [] := by
  obtain ⟨⟨ids, loaded⟩, selected, called⟩ := bind_eq_ok.1 ok
  obtain ⟨_, _, selects, loads, -⟩ := relevantCaseIds_eq store knowledge change now
  rw [selected] at selects
  cases selects
  have loading : Records store loaded other [] := .of_same loads.events loads.needs other
  exact loading.trans (applyCases_records called other)

end Calls

/-! ## Every call -/

/-- A call of one of the three operations, by the case and the identifier it is made
under and by what it appends when it is applied. -/
structure IdentifiedCall where
  (caseId key : String)
  requests : List CaseEventRequest

/-- The operation that a call asks for. -/
def CaseOp.identified? (store : CaseStore) : CaseOp → Option IdentifiedCall
  | .applyPatch _ patch reasonCode _ _ =>
      some ⟨patch.caseId, patch.patchId, patchRequests patch reasonCode 0 patch.operations⟩
  | .commitDecision commit _ _ => some ⟨commit.caseId, commit.decisionId, [decisionEvent commit]⟩
  | .reopenNeed request _ _ => (store.needs.get? request.needId).map fun need =>
      ⟨need.caseId, request.reopenKey, [needReopenedEvent need request]⟩
  | .create .. | .move .. | .getState .. | .rebuild .. | .openNeed .. | .recordPerception ..
  | .processChange .. => none

/-- The requests of a call stand under its identifier, and one of them at index 0. -/
structure IdentifiedCall.WellKeyed (call : IdentifiedCall) : Prop where
  keyed : ∀ request ∈ call.requests, request.patchId = some call.key
  first : ∃ request ∈ call.requests, request.operationIndex = some 0

variable {call : IdentifiedCall}

theorem wellKeyed_of_identified (identified : op.identified? store = some call) :
    call.WellKeyed := by
  cases op with
  | applyPatch knowledge patch reasonCode eventIds now =>
      cases identified
      constructor
      · intro request member
        obtain ⟨operation, -, rfl⟩ := mem_map.1 member
        rfl
      · obtain ⟨first, rest, operations⟩ := List.exists_cons_of_ne_nil patch.operations_nonempty
        refine ⟨operationEvent patch reasonCode 0 first, ?_, rfl⟩
        simp [patchRequests, operations]
  | commitDecision commit eventIds now =>
      cases identified
      exact ⟨by simp [decisionEvent], _, mem_singleton_self _, rfl⟩
  | reopenNeed request eventIds now =>
      obtain ⟨need, -, rfl⟩ := map_eq_some_iff.1 identified
      exact ⟨by simp [needReopenedEvent], _, mem_singleton_self _, rfl⟩
  | create | move | getState | rebuild | openNeed | recordPerception | processChange =>
      cases identified

/-- **What a successful call appends**: an identified call its requests, unless it answers
as a repetition; a perception its mark; and any other call nothing under an identifier. -/
inductive Appends (store next : CaseStore) (op : CaseOp) (answer : CaseAnswer) : Prop
  | nothing (plain : answer.replay = true ∨ op.identified? store = none)
      (records : ∀ caseId, Records store next caseId [])
  | perception {caseId identity : String} {worldRevision : ℕ} {perceivedAt : ℤ}
      (unidentified : op.identified? store = none)
      (records : Records store next caseId [perceptionEvent identity worldRevision perceivedAt])
  | call {call : IdentifiedCall} (identified : op.identified? store = some call)
      (applied : answer.replay = false) (records : Records store next call.caseId call.requests)

theorem appends_of_records (identified : op.identified? store = some call)
    (records : Records store next call.caseId
      (if answer.replay = true then [] else call.requests)) : Appends store next op answer := by
  cases replay : answer.replay with
  | true =>
      rw [replay, if_pos rfl] at records
      exact .nothing (.inl replay) fun other => records.unkeyed (by simp) other
  | false =>
      rw [replay, if_neg Bool.false_ne_true] at records
      exact .call identified replay records

theorem appends_of_ok (ok : caseService op store = .ok (answer, next)) :
    Appends store next op answer := by
  cases caseService_called ok with
  | create called =>
      obtain ⟨cases, inserted, called⟩ := fetch_bind_eq_ok.1 called
      cases called
      have events : ({ store with cases } : CaseStore).events = store.events := rfl
      exact .nothing (.inr rfl) fun other => .of_same events rfl other
  | move called =>
      obtain ⟨events, needs⟩ := move_tables called
      exact .nothing (.inr rfl) fun other => .of_same events needs other
  | getState called =>
      exact .nothing (.inr rfl) (.of_getState called)
  | rebuild called =>
      exact .nothing (.inr rfl) (.of_rebuild called)
  | openNeed called =>
      exact .nothing (.inr rfl) (openEvidenceNeed_records called)
  | @reopenNeed request eventIds now _ called =>
      obtain ⟨need, row, found, -⟩ := reopenEvidenceNeed_ok false called
      have identified : (CaseOp.reopenNeed request eventIds now).identified? store =
          some ⟨need.caseId, request.reopenKey, [needReopenedEvent need request]⟩ := by
        simp only [CaseOp.identified?, found, map_some]
      exact appends_of_records identified (reopenEvidenceNeed_records found called)
  | applyPatch called =>
      exact appends_of_records rfl (applyPatch_records called)
  | commitDecision called =>
      exact appends_of_records rfl (commitDecision_records called)
  | recordPerception called =>
      obtain ⟨caseId, records | ⟨identity, worldRevision, perceivedAt, records⟩⟩ :=
        recordPerception_records called
      · exact .nothing (.inr rfl) fun other => records.unkeyed (by simp) other
      · exact .perception rfl records
  | processChange called =>
      exact .nothing (.inr rfl) (processChange_records called)

/-! ## Histories -/

/-- Whatever stands under an identifier, something stands there at index 0. -/
def FirstsKept (store : CaseStore) : Prop :=
  ∀ caseId key, underKey store caseId key ≠ [] →
    ∃ request ∈ underKey store caseId key, request.operationIndex = some 0

/-- **An identifier is used once**: what is appended under it is all that stands there. -/
theorem Records.underKey_eq (records : Records store next call.caseId call.requests)
    (keyed : call.WellKeyed) (firsts : FirstsKept store) :
    underKey store call.caseId call.key = [] ∧ ∀ caseId key, underKey next caseId key =
      if call.caseId = caseId ∧ call.key = key then call.requests
      else underKey store caseId key := by
  have unused : underKey store call.caseId call.key = [] := by
    by_contra used
    obtain ⟨old, listed, oldFirst⟩ := firsts _ _ used
    obtain ⟨request, member, first⟩ := keyed.first
    have indexed : request.operationIndex ≠ none := by
      rw [first]
      exact some_ne_none 0
    exact records.fresh request member call.key (keyed.keyed request member) indexed old listed
      (oldFirst.trans first.symm)
  refine ⟨unused, fun caseId key => ?_⟩
  rw [records.log]
  by_cases sameCase : call.caseId = caseId
  · subst sameCase
    by_cases sameKey : call.key = key
    · subst sameKey
      rw [if_pos rfl, if_pos ⟨rfl, rfl⟩, unused, nil_append, filter_eq_self]
      intro request member
      exact decide_eq_true (keyed.keyed request member)
    · rw [if_pos rfl, if_neg fun both => sameKey both.2]
      have none : call.requests.filter (·.patchId = some key) = [] := by
        rw [filter_eq_nil_iff]
        intro request member
        simp [keyed.keyed request member, sameKey]
      rw [none, append_nil]
  · rw [if_neg sameCase, if_neg fun both => sameCase both.1, append_nil]

/-- The operation has been applied: one of the calls asked for it, and was answered, and
not as a repetition. -/
def AppliedBefore (ops : List CaseOp) (call : IdentifiedCall) : Prop :=
  ∃ before op after answer next, ops = before ++ op :: after ∧
    op.identified? (caseStoreAfter before) = some call ∧
    caseService op (caseStoreAfter before) = .ok (answer, next) ∧ answer.replay = false

theorem AppliedBefore.wellKeyed (applied : AppliedBefore ops call) : call.WellKeyed := by
  obtain ⟨before, op, after, answer, next, -, identified, -⟩ := applied
  exact wellKeyed_of_identified identified

theorem caseStoreAfter_append (ops : List CaseOp) (op : CaseOp) :
    caseStoreAfter (ops ++ [op]) = transact caseService (caseStoreAfter ops) op := by
  rw [caseStoreAfter, run_append, run_cons, run_nil]
  rfl

theorem appliedBefore_append :
    AppliedBefore (ops ++ [op]) call ↔ AppliedBefore ops call ∨
      op.identified? (caseStoreAfter ops) = some call ∧ ∃ answer next,
        caseService op (caseStoreAfter ops) = .ok (answer, next) ∧ answer.replay = false := by
  constructor
  · rintro ⟨before, other, after, answer, next, split, identified, ok, fresh⟩
    rcases List.eq_nil_or_concat after with rfl | ⟨rest, last, rfl⟩
    · obtain ⟨rfl, same⟩ := append_inj' split rfl
      cases same
      exact .inr ⟨identified, answer, next, ok, fresh⟩
    · have split : ops ++ [op] = (before ++ other :: rest) ++ [last] := by
        rw [split]
        simp
      obtain ⟨rfl, -⟩ := append_inj' split rfl
      exact .inl ⟨before, other, rest, answer, next, rfl, identified, ok, fresh⟩
  · rintro (⟨before, other, after, answer, next, rfl, rest⟩ | ⟨identified, answer, next, rest⟩)
    · exact ⟨before, other, after ++ [op], answer, next, by simp, rest⟩
    · exact ⟨ops, op, [], answer, next, rfl, identified, rest⟩

/-- **The log against the history.**  What stands under an identifier was appended by a
perception or by an applied call, and what was applied stands there. -/
structure History (ops : List CaseOp) : Prop where
  shown : NeedsShown (caseStoreAfter ops)
  origin : ∀ caseId key, underKey (caseStoreAfter ops) caseId key = [] ∨
    (∃ identity worldRevision perceivedAt, underKey (caseStoreAfter ops) caseId key =
      [perceptionEvent identity worldRevision perceivedAt]) ∨
    AppliedBefore ops ⟨caseId, key, underKey (caseStoreAfter ops) caseId key⟩
  applied : ∀ call, AppliedBefore ops call →
    underKey (caseStoreAfter ops) call.caseId call.key = call.requests

theorem History.firsts (history : History ops) :
    FirstsKept (caseStoreAfter ops) := by
  intro caseId key used
  rcases history.origin caseId key with unused | ⟨identity, worldRevision, perceivedAt, mark⟩ |
    applied
  · exact absurd unused used
  · rw [mark]
    exact ⟨_, mem_singleton_self _, rfl⟩
  · exact applied.wellKeyed.first

theorem history_caseStoreAfter (ops : List CaseOp) : History ops := by
  induction ops using List.reverseRecOn with
  | nil =>
      refine ⟨fun id need found => ?_, fun caseId key => .inl rfl, ?_⟩
      · cases found
      · rintro call ⟨before, op, after, _, _, split, -⟩
        simp at split
  | append_singleton ops op ih =>
      have kept : ∀ {call}, AppliedBefore ops call → AppliedBefore (ops ++ [op]) call :=
        fun applied => appliedBefore_append.2 (.inl applied)
      cases outcome : caseService op (caseStoreAfter ops) with
      | error raised =>
          have same : caseStoreAfter (ops ++ [op]) = caseStoreAfter ops := by
            rw [caseStoreAfter_append, transact_of_error outcome]
          refine ⟨by rw [same]; exact ih.shown, fun caseId key => ?_, fun call applied => ?_⟩
          · rw [same]
            exact (ih.origin caseId key).imp_right (Or.imp_right kept)
          · rw [same]
            rcases appliedBefore_append.1 applied with earlier | ⟨-, _, _, answered, -⟩
            · exact ih.applied call earlier
            · rw [outcome] at answered
              cases answered
      | ok result =>
          obtain ⟨answer, next⟩ := result
          have grown : caseStoreAfter (ops ++ [op]) = next := by
            rw [caseStoreAfter_append, transact_of_ok outcome]
          have appends := appends_of_ok outcome
          -- nothing new has been applied, unless the call is one of the three operations
          have others (plain : answer.replay = true ∨ op.identified? (caseStoreAfter ops) = none)
              (call : IdentifiedCall) (applied : AppliedBefore (ops ++ [op]) call) :
              AppliedBefore ops call := by
            rcases appliedBefore_append.1 applied with earlier |
              ⟨identified, _, _, answered, fresh⟩
            · exact earlier
            · rw [outcome] at answered
              cases answered
              rcases plain with replayed | unidentified
              · rw [fresh] at replayed
                cases replayed
              · rw [unidentified] at identified
                cases identified
          cases appends with
          | nothing plain records =>
              have same (caseId key : String) : underKey (caseStoreAfter (ops ++ [op])) caseId key =
                  underKey (caseStoreAfter ops) caseId key := by
                rw [grown, (records caseId).log]
                simp
              refine ⟨by rw [grown]; exact (records "").shown ih.shown, fun caseId key => ?_,
                fun call applied => ?_⟩
              · rw [same]
                exact (ih.origin caseId key).imp_right (Or.imp_right kept)
              · rw [same]
                exact ih.applied call (others plain call applied)
          | @perception caseId identity worldRevision perceivedAt unidentified records =>
              have keyed : (IdentifiedCall.mk caseId ("perception:" ++ identity)
                  [perceptionEvent identity worldRevision perceivedAt]).WellKeyed :=
                ⟨by simp [perceptionEvent], _, mem_singleton_self _, rfl⟩
              obtain ⟨unused, under⟩ := records.underKey_eq keyed ih.firsts
              refine ⟨by rw [grown]; exact records.shown ih.shown, fun other key => ?_,
                fun call applied => ?_⟩
              · rw [grown, under]
                split
                next => exact .inr (.inl ⟨identity, worldRevision, perceivedAt, rfl⟩)
                next => exact (ih.origin other key).imp_right (Or.imp_right kept)
              · have earlier := others (.inr unidentified) call applied
                rw [grown, under, ih.applied call earlier, ite_eq_right_iff]
                rintro ⟨sameCase, sameKey⟩
                have before := ih.applied call earlier
                rw [← sameCase, ← sameKey, unused] at before
                obtain ⟨request, member, -⟩ := earlier.wellKeyed.first
                rw [← before] at member
                cases member
          | @call call identified applied records =>
              have keyed := wellKeyed_of_identified identified
              obtain ⟨unused, under⟩ := records.underKey_eq keyed ih.firsts
              have now : AppliedBefore (ops ++ [op]) call :=
                appliedBefore_append.2 (.inr ⟨identified, answer, next, outcome, applied⟩)
              refine ⟨by rw [grown]; exact records.shown ih.shown, fun other key => ?_,
                fun third thirdApplied => ?_⟩
              · rw [grown, under]
                split
                next here =>
                  obtain ⟨rfl, rfl⟩ := here
                  exact .inr (.inr now)
                next => exact (ih.origin other key).imp_right (Or.imp_right kept)
              · rw [grown, under]
                rcases appliedBefore_append.1 thirdApplied with earlier | ⟨same, -⟩
                · have before := ih.applied third earlier
                  rw [if_neg, before]
                  rintro ⟨sameCase, sameKey⟩
                  rw [← sameCase, ← sameKey, unused] at before
                  obtain ⟨request, member, -⟩ := earlier.wellKeyed.first
                  rw [← before] at member
                  cases member
                · rw [identified] at same
                  cases same
                  rw [if_pos ⟨rfl, rfl⟩]

end SecFusion.Investigation
