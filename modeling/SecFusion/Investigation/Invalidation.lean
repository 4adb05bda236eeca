import SecFusion.Investigation.Identifiers

/-!
# The invalidation of a case

`_apply_case` retracts the confirmed items that a change makes stale, opens each
again as an unknown, and reopens the resolved needs that have become stale.  All of
this goes through the log, so what it does to the items of the case is what the new
events do when they are replayed: a key that is retracted ends in `unknowns`, and
every other key stays where it was.

`invalidation_exact` states this for every case that `process` answers for, that
`process` leaves the other cases as they are, and that the same notice, processed
again, appends nothing.
-/

namespace SecFusion.Investigation

open Foundations Intelligence

variable {store next : CaseStore} {knowledge : KnowledgeStore} {change : KnowledgeChangeNotice}
  {caseId : String} {eventIds : EventIds} {now : ℤ}

/-! ## The events of a change -/

/-- The event that `_append_event` files for a request. -/
def FiledFor (request : CaseEventRequest) (event : CaseStateEventModel) : Prop :=
  ∃ row eventId createdAt, event = newEvent row request eventId createdAt

namespace FiledFor

variable {request : CaseEventRequest} {event : CaseStateEventModel}

theorem eventType (filed : FiledFor request event) : event.eventType = request.eventType := by
  obtain ⟨_, _, _, rfl⟩ := filed
  rfl

theorem proposition (filed : FiledFor request event) :
    event.proposition = request.proposition := by
  obtain ⟨_, _, _, rfl⟩ := filed
  rfl

theorem targetRef (filed : FiledFor request event) : event.targetRef = request.targetRef := by
  obtain ⟨_, _, _, rfl⟩ := filed
  rfl

theorem payload (filed : FiledFor request event) : event.payload = request.payload := by
  obtain ⟨_, _, _, rfl⟩ := filed
  rfl

end FiledFor

/-- The two events of a stale item. -/
def retractionRequests (change : KnowledgeChangeNotice) (item : InvestigationStateItem) :
    List CaseEventRequest :=
  [retractedEvent change item, revalidateEvent change item]

/-- What `_apply_case` appends for stale items and stale needs. -/
def invalidationRequests (change : KnowledgeChangeNotice) (items : List InvestigationStateItem)
    (needs : List EvidenceNeedModel) : List CaseEventRequest :=
  items.flatMap (retractionRequests change) ++ needs.map (needStaleEvent change)

/-- The log of a case has been continued for the requests. -/
def Continues (caseId : String) (requests : List CaseEventRequest) (store next : CaseStore) : Prop :=
  ∃ events, Forall₂ FiledFor requests events ∧
    next.eventsOf caseId = store.eventsOf caseId ++ events

theorem Continues.of_events (same : next.events = store.events) :
    Continues caseId [] store next := by
  refine ⟨[], .nil, ?_⟩
  rw [eventsOf, same, append_nil]
  rfl

variable {first second third middle : CaseStore} {items : List InvestigationStateItem}
  {needs : List EvidenceNeedModel} {item : InvestigationStateItem} {need : EvidenceNeedModel}
  {events : List CaseStateEventModel} {caseIds : List String} {impacts : List WorldChangeImpact}
  {row : InvestigationCaseModel}

theorem Continues.trans {left right : List CaseEventRequest}
    (begun : Continues caseId left first second) (goes : Continues caseId right second third) :
    Continues caseId (left ++ right) first third := by
  obtain ⟨earlier, filedEarlier, secondLog⟩ := begun
  obtain ⟨later, filedLater, thirdLog⟩ := goes
  refine ⟨earlier ++ later, List.rel_append filedEarlier filedLater, ?_⟩
  rw [thirdLog, secondLog, append_assoc]

theorem Continues.of_append {request : CaseEventRequest} {event : CaseStateEventModel}
    (ok : appendEvent store caseId request eventIds now = .ok (event, next)) :
    Continues caseId [request] store next := by
  obtain ⟨⟨row, -, isEvent⟩, appended, -⟩ := appendEvent_ok ok
  refine ⟨[event], .cons ⟨row, _, now, isEvent⟩ .nil, ?_⟩
  rw [appended.eventsOf, if_pos rfl]

theorem retractItems_continues
    (ok : retractItems caseId change eventIds now store items = .ok next) :
    Continues caseId (items.flatMap (retractionRequests change)) store next := by
  induction items generalizing store with
  | nil =>
      cases ok
      exact .of_events rfl
  | cons item rest ih =>
      obtain ⟨⟨_, retracted⟩, retracts, ok⟩ := bind_eq_ok.1 ok
      obtain ⟨⟨_, opened⟩, opens, ok⟩ := bind_eq_ok.1 ok
      have pair : Continues caseId (retractionRequests change item) store opened :=
        (Continues.of_append retracts).trans (.of_append opens)
      exact pair.trans (ih ok)

theorem reopenNeeds_continues
    (ok : reopenNeeds caseId change eventIds now store needs = .ok next) :
    Continues caseId (needs.map (needStaleEvent change)) store next := by
  induction needs generalizing store with
  | nil =>
      cases ok
      exact .of_events rfl
  | cons need rest ih =>
      obtain ⟨⟨event, logged⟩, appends, ok⟩ := bind_eq_ok.1 ok
      have marks : Continues caseId [] store (store.updateNeed need.needId (·.withReopened now)
          (·.withReopened_needId now)) := .of_events rfl
      have settles : Continues caseId [] logged (logged.updateNeed need.needId
          (·.withRevision event.caseRevision) (·.withRevision_needId event.caseRevision)) :=
        .of_events rfl
      exact ((marks.trans (.of_append appends)).trans settles).trans (ih ok)

theorem rebuildIf_events {mutated : Bool}
    (ok : rebuildIf mutated store caseId now = .ok next) :
    next.events = store.events ∧ next.needs = store.needs := by
  unfold rebuildIf at ok
  split at ok
  · obtain ⟨⟨state, last⟩, rebuilds, done⟩ := bind_eq_ok.1 ok
    cases done
    obtain ⟨row, -, -, rfl⟩ := rebuildState_ok rebuilds
    exact ⟨rfl, rfl⟩
  · cases ok
    exact ⟨rfl, rfl⟩

/-! ## Replaying the events -/

/-- The key that an item is filed under. -/
def InvestigationStateItem.key (item : InvestigationStateItem) : ItemKey :=
  (item.proposition, item.targetRef)

/-- The event asks for a revalidation because of the change. -/
structure Revalidates (change : KnowledgeChangeNotice) (event : CaseStateEventModel) : Prop where
  type : event.eventType = .unknownOpened
  required : event.payload.revalidateRequired = some true
  world : event.payload.worldRevision = some change.revision

/-- **The pair of events of a stale item** moves its key to the unknowns. -/
theorem get?_retraction {retracted revalidated : CaseStateEventModel}
    (retracts : FiledFor (retractedEvent change item) retracted)
    (opens : FiledFor (revalidateEvent change item) revalidated) (buckets : Buckets)
    (bucket : Bucket) (key : ItemKey) :
    (replayEvent (replayEvent buckets retracted) revalidated bucket).get? key =
      if item.key = key then
        if bucket = .unknowns then some (replayItem revalidated item.proposition)
        else if bucket.isExclusive then none else (buckets bucket).get? key
      else (buckets bucket).get? key := by
  have openedKey : (item.proposition, revalidated.targetRef) = item.key := by
    rw [opens.targetRef]
    rfl
  have retractedKey : (item.proposition, retracted.targetRef) = item.key := by
    rw [retracts.targetRef]
    rfl
  rw [get?_replayEvent_of_addition opens.proposition (by rw [opens.eventType]; rfl),
    get?_replayEvent_of_removal retracts.proposition (by rw [retracts.eventType]; rfl)
      (by rw [retracts.eventType]; rfl), openedKey, retractedKey]
  by_cases hit : item.key = key
  · rw [if_pos hit, if_pos hit]
    cases bucket <;> simp [Bucket.isExclusive]
  · rw [if_neg hit, if_neg hit, if_neg fun same => hit same.1]

/-- A need that is opened again is no item. -/
theorem replayEvent_of_need {event : CaseStateEventModel}
    (filed : FiledFor (needStaleEvent change need) event) (buckets : Buckets) :
    replayEvent buckets event = buckets := by
  cases replayed_replayEvent buckets event with
  | unchanged same => exact same
  | added _ addition =>
      rw [filed.eventType] at addition
      cases addition
  | removed _ _ removal =>
      rw [filed.eventType] at removal
      cases removal

theorem foldl_needs (filed : Forall₂ FiledFor (needs.map (needStaleEvent change)) events)
    (buckets : Buckets) :
    events.foldl replayEvent buckets = buckets := by
  induction needs generalizing events with
  | nil =>
      cases filed
      rfl
  | cons need rest ih =>
      cases filed with
      | cons first later => rw [foldl_cons, replayEvent_of_need first, ih later]

/-- **What the buckets are** after the events of some stale items. -/
structure Moved (change : KnowledgeChangeNotice) (keys : List ItemKey)
    (events : List CaseStateEventModel) (before after : Buckets) : Prop where
  kept : ∀ bucket key, key ∉ keys ∨ bucket.isExclusive = false →
    (after bucket).get? key = (before bucket).get? key
  cleared : ∀ bucket, bucket.isExclusive = true → bucket ≠ .unknowns → ∀ key ∈ keys,
    (after bucket).get? key = none
  opened : ∀ key ∈ keys, ∃ event ∈ events, Revalidates change event ∧
    (after .unknowns).get? key = some (replayItem event key.1)

theorem moved_of_filed
    (filed : Forall₂ FiledFor (invalidationRequests change items needs) events)
    (buckets : Buckets) :
    Moved change (items.map (·.key)) events buckets (events.foldl replayEvent buckets) := by
  induction items generalizing events buckets with
  | nil =>
      have onlyNeeds : Forall₂ FiledFor (needs.map (needStaleEvent change)) events := filed
      rw [foldl_needs onlyNeeds buckets]
      exact ⟨fun _ _ _ => rfl, fun _ _ _ _ member => (not_mem_nil member).elim,
        forall_mem_nil _⟩
  | cons item rest ih =>
      cases filed with
      | @cons _ retracted _ _ retracts filed =>
          cases filed with
          | @cons _ revalidated _ events opens filed =>
              have pair := get?_retraction retracts opens buckets
              have later := ih filed (replayEvent (replayEvent buckets retracted) revalidated)
              refine ⟨fun bucket key outside => ?_, fun bucket exclusive notUnknown key member => ?_,
                fun key member => ?_⟩
              · have outsideRest : key ∉ rest.map (·.key) ∨ bucket.isExclusive = false :=
                  outside.imp_left fun absent listed => absent (mem_cons_of_mem _ listed)
                refine (later.kept bucket key outsideRest).trans ((pair bucket key).trans ?_)
                by_cases hit : item.key = key
                · have free : bucket.isExclusive = false :=
                    outside.resolve_left fun absent => absent (hit ▸ mem_cons_self)
                  have known : bucket ≠ .unknowns := by
                    rintro rfl
                    cases free
                  rw [if_pos hit, if_neg known, free]
                  rfl
                · rw [if_neg hit]
              · by_cases inRest : key ∈ rest.map (·.key)
                · exact later.cleared bucket exclusive notUnknown key inRest
                · have hit : item.key = key := ((mem_cons.1 member).resolve_right inRest).symm
                  refine (later.kept bucket key (.inl inRest)).trans ((pair bucket key).trans ?_)
                  rw [if_pos hit, if_neg notUnknown, if_pos exclusive]
              · by_cases inRest : key ∈ rest.map (·.key)
                · obtain ⟨event, listed, revalidates, found⟩ := later.opened key inRest
                  exact ⟨event, mem_cons_of_mem _ (mem_cons_of_mem _ listed),
                    revalidates, found⟩
                · have hit : item.key = key := ((mem_cons.1 member).resolve_right inRest).symm
                  refine ⟨revalidated, mem_cons_of_mem _ mem_cons_self, ?_, ?_⟩
                  · exact ⟨opens.eventType, by rw [opens.payload]; rfl, by rw [opens.payload]; rfl⟩
                  · refine (later.kept .unknowns key (.inl inRest)).trans
                      ((pair .unknowns key).trans ?_)
                    rw [if_pos hit, if_pos rfl, ← hit]
                    rfl

/-! ## The needs -/

def EvidenceNeedModel.Invalidated (need : EvidenceNeedModel) (knowledge : KnowledgeStore)
    (change : KnowledgeChangeNotice) : Prop :=
  need.status = .resolved ∧ isStaleNeed knowledge change need = true

instance decidableInvalidated (need : EvidenceNeedModel) (knowledge : KnowledgeStore)
    (change : KnowledgeChangeNotice) : Decidable (need.Invalidated knowledge change) :=
  inferInstanceAs (Decidable (_ ∧ _))

def EvidenceNeedModel.reopenedAt (need : EvidenceNeedModel) (now : ℤ) (revision : ℕ) :
    EvidenceNeedModel :=
  (need.withReopened now).withRevision revision

open EvidenceNeedModel (reopenedAt withReopened withRevision)

theorem mem_staleNeedsOf :
    need ∈ staleNeedsOf store knowledge change caseId ↔
      need ∈ store.needsOf caseId ∧ need.Invalidated knowledge change := by
  unfold staleNeedsOf resolvedNeedsOf staleNeedIds EvidenceNeedModel.Invalidated
  simp only [mem_filter, decide_eq_true_eq, mem_map]
  constructor
  · rintro ⟨⟨member, resolved⟩, other, ⟨⟨otherMember, -⟩, stale⟩, sameId⟩
    have same : other = need :=
      eq_of_key (mem_select.1 otherMember).1 (mem_select.1 member).1 sameId
    exact ⟨member, resolved, same ▸ stale⟩
  · rintro ⟨member, resolved, stale⟩
    exact ⟨⟨member, resolved⟩, need, ⟨⟨member, resolved⟩, stale⟩, rfl⟩

/-- **The loop over the needs** reopens those it is given, and rewrites no other. -/
theorem reopenNeeds_rows (ok : reopenNeeds caseId change eventIds now store needs = .ok next)
    :
    ∃ revision : String → ℕ, next.needs.rows = store.needs.rows.map fun need =>
      if need.needId ∈ needs.map (·.needId) then need.reopenedAt now (revision need.needId)
      else need := by
  induction needs generalizing store with
  | nil =>
      cases ok
      exact ⟨fun _ => 0, by simp⟩
  | cons need rest ih =>
      obtain ⟨⟨event, logged⟩, appends, ok⟩ := bind_eq_ok.1 ok
      obtain ⟨revision, later⟩ := ih ok
      refine ⟨fun id => if id ∈ rest.map (·.needId) then revision id else event.caseRevision, ?_⟩
      have marked : logged.needs.rows = store.needs.rows.map fun other =>
          if other.needId = need.needId then other.withReopened now else other := by
        rw [(appendEvent_ok appends).2.2.1]
        rfl
      refine later.trans ?_
      dsimp only [CaseStore.updateNeed]
      rw [Table.rows_update, marked, map_map, map_map]
      refine map_congr_left fun other _ => ?_
      simp only [Function.comp, map_cons, mem_cons]
      by_cases first : other.needId = need.needId
      · by_cases again : need.needId ∈ rest.map (·.needId)
        · simp only [first, withReopened, withRevision,
            reopenedAt, if_pos again, if_true, true_or]
        · simp only [first, withReopened, withRevision,
            reopenedAt, if_neg again, if_true, true_or]
      · by_cases again : other.needId ∈ rest.map (·.needId)
        · simp only [first, again, if_true, if_false, or_true]
        · simp only [first, again, if_false, or_false]

/-- What the loop leaves of the needs of the case. -/
theorem needsOf_of_reopened {start : CaseStore} (sameNeeds : start.needs = store.needs)
    (ok : reopenNeeds caseId change eventIds now start
      (staleNeedsOf store knowledge change caseId) = .ok next) :
    ∃ revision : String → ℕ, next.needsOf caseId = (store.needsOf caseId).map fun need =>
      if need.Invalidated knowledge change then need.reopenedAt now (revision need.needId)
      else need := by
  obtain ⟨revision, rows⟩ := reopenNeeds_rows ok
  refine ⟨revision, ?_⟩
  have filtered : next.needsOf caseId = (store.needsOf caseId).map fun need =>
      if need.needId ∈ (staleNeedsOf store knowledge change caseId).map (·.needId) then
        need.reopenedAt now (revision need.needId) else need := by
    unfold needsOf select
    rw [rows, List.filter_map, sameNeeds]
    refine congrArg _ (filter_congr fun need _ => ?_)
    dsimp only [Function.comp]
    split <;> rfl
  refine filtered.trans (map_congr_left fun need member => ?_)
  have listed : need.needId ∈ (staleNeedsOf store knowledge change caseId).map (·.needId) ↔
      need.Invalidated knowledge change := by
    rw [mem_map]
    constructor
    · rintro ⟨other, stale, sameId⟩
      obtain ⟨otherMember, invalidated⟩ := mem_staleNeedsOf.1 stale
      have same : other = need :=
        eq_of_key (mem_select.1 otherMember).1 (mem_select.1 member).1 sameId
      exact same ▸ invalidated
    · exact fun invalidated => ⟨need, mem_staleNeedsOf.2 ⟨member, invalidated⟩, rfl⟩
  simp only [listed]

/-! ## One case -/

/-- **What `_apply_case` has done to a case**: its log has been continued for what
was stale, and its stale needs have been reopened. -/
structure Processed (knowledge : KnowledgeStore) (change : KnowledgeChangeNotice) (now : ℤ)
    (caseId : String) (store next : CaseStore) : Prop where
  log : ∃ row, store.cases.get? caseId = some row ∧ Continues caseId
    (invalidationRequests change
      (staleConfirmedItems knowledge (stateOf store row now).confirmed change)
      (staleNeedsOf store knowledge change caseId)) store next
  row : ∃ row, next.cases.get? caseId = some row
  needs : ∃ revision : String → ℕ, next.needsOf caseId = (store.needsOf caseId).map fun need =>
    if need.Invalidated knowledge change then need.reopenedAt now (revision need.needId) else need

theorem wakeCase_row {prior : CaseStatus} {woken : Bool}
    (ok : wakeCase store caseId prior = .ok (woken, next)) :
    ∃ row, next.cases.get? caseId = some row := by
  obtain ⟨row, found, ⟨-, rfl, -⟩ | ⟨-, -, -, view, activated⟩⟩ := wakeCase_ok ok
  · exact ⟨row, found⟩
  · obtain ⟨_, -, ⟨-, rfl⟩ | ⟨-, -, rfl⟩⟩ := transitionCase_ok activated
    · exact ⟨row, found⟩
    · refine ⟨row.withStatus .active, ?_⟩
      rw [updateCase, get?_update, if_pos rfl, found]
      rfl

theorem applyCase_processed {impact : WorldChangeImpact}
    (ok : applyCase store knowledge caseId change eventIds now = .ok (impact, next)) :
    impact.caseId = caseId ∧ Processed knowledge change now caseId store next := by
  obtain ⟨row, items, retracted, reopened, rebuilt, found, rfl, retracts, reopens, rebuilds, wakes,
    isImpact⟩ := applyCase_stages ok
  have ofCase := key_of_get? found
  have loads := Loaded.loadState (ofCase ▸ found) now
  obtain ⟨rebuiltEvents, rebuiltNeeds⟩ := rebuildIf_events rebuilds
  obtain ⟨wokenEvents, wokenNeeds⟩ := wakeCase_tables wakes
  refine ⟨by rw [isImpact], ⟨row, found, ?_⟩, wakeCase_row wakes, ?_⟩
  · have read : Continues caseId [] store (loadState store row now) := .of_events loads.events
    have ends : Continues caseId [] reopened next := .of_events (wokenEvents.trans rebuiltEvents)
    have whole := (read.trans (retractItems_continues retracts)).trans
      ((reopenNeeds_continues reopens).trans ends)
    rwa [append_nil, nil_append] at whole
  · have sameNeeds : retracted.needs = store.needs :=
      (retractItems_needs retracts).trans loads.needs
    obtain ⟨revision, reopenedNeeds⟩ := needsOf_of_reopened sameNeeds reopens
    refine ⟨revision, ?_⟩
    rw [← reopenedNeeds, needsOf, wokenNeeds, rebuiltNeeds]
    rfl

/-- What is read of the case is what it was. -/
structure Unmoved (now : ℤ) (caseId : String) (store next : CaseStore) : Prop where
  row : next.cases.get? caseId = store.cases.get? caseId
  state : ∀ row, store.cases.get? caseId = some row → stateOf next row now = stateOf store row now
  events : next.eventsOf caseId = store.eventsOf caseId
  needs : next.needsOf caseId = store.needsOf caseId

namespace Unmoved

theorem refl (now : ℤ) (caseId : String) (store : CaseStore) : Unmoved now caseId store store :=
  ⟨rfl, fun _ _ => rfl, rfl, rfl⟩

theorem trans (left : Unmoved now caseId first second) (right : Unmoved now caseId second third) :
    Unmoved now caseId first third where
  row := right.row.trans left.row
  state row found := (right.state row (left.row.trans found)).trans (left.state row found)
  events := right.events.trans left.events
  needs := right.needs.trans left.needs

theorem of_apart {other : String} (apart : Apart other store next) (different : caseId ≠ other) :
    Unmoved now caseId store next where
  row := apart.cases caseId different
  state row found := by
    obtain rfl := key_of_get? found
    exact apart.stateOf different now
  events := apart.events caseId different
  needs := apart.needs caseId different

theorem of_loaded (loads : Loaded now store next) : Unmoved now caseId store next where
  row := by rw [loads.cases]
  state row found := by
    obtain rfl := key_of_get? found
    exact loads.states row found
  events := by
    rw [eventsOf, loads.events]
    rfl
  needs := by
    rw [needsOf, loads.needs]
    rfl

end Unmoved

/-- Nothing has happened to the case before it is processed. -/
theorem Processed.of_unmoved (before : Unmoved now caseId store middle)
    (processed : Processed knowledge change now caseId middle next) :
    Processed knowledge change now caseId store next := by
  obtain ⟨⟨row, found, events, filed, log⟩, later, revision, needs⟩ := processed
  have stored : store.cases.get? caseId = some row := before.row.symm.trans found
  have stale : staleNeedsOf middle knowledge change caseId =
      staleNeedsOf store knowledge change caseId := by
    unfold staleNeedsOf resolvedNeedsOf
    rw [before.needs]
  rw [before.state row stored, stale] at filed
  refine ⟨⟨row, stored, events, filed, ?_⟩, later, revision, ?_⟩
  · rw [log, before.events]
  · rw [needs, before.needs]

/-- Nothing happens to the case after it has been processed. -/
theorem Processed.unmoved (processed : Processed knowledge change now caseId store middle)
    (after : Unmoved now caseId middle next) :
    Processed knowledge change now caseId store next := by
  obtain ⟨⟨row, found, events, filed, log⟩, ⟨later, present⟩, revision, needs⟩ := processed
  exact ⟨⟨row, found, events, filed, after.events.trans log⟩, ⟨later, after.row.trans present⟩,
    revision, after.needs.trans needs⟩

/-! ## All cases -/

/-- **What the loop over the cases has done.** -/
structure AllProcessed (knowledge : KnowledgeStore) (change : KnowledgeChangeNotice) (now : ℤ)
    (caseIds : List String) (impacts : List WorldChangeImpact) (store next : CaseStore) :
    Prop where
  listed : ∀ impact ∈ impacts, impact.caseId ∈ caseIds
  processed : ∀ impact ∈ impacts, Processed knowledge change now impact.caseId store next
  unmoved : ∀ other, other ∉ impacts.map (·.caseId) → Unmoved now other store next
  answered : ∀ caseId ∈ caseIds, ∀ row, store.cases.get? caseId = some row →
    row.status.isImmutable = false → caseId ∈ impacts.map (·.caseId)

theorem AllProcessed.skip (all : AllProcessed knowledge change now caseIds impacts store next)
    (settled : ∀ row, store.cases.get? caseId = some row → row.status.isImmutable = true) :
    AllProcessed knowledge change now (caseId :: caseIds) impacts store next where
  listed impact member := mem_cons_of_mem _ (all.listed impact member)
  processed := all.processed
  unmoved := all.unmoved
  answered other member row found isOpen := by
    rcases mem_cons.1 member with rfl | member
    · rw [settled row found] at isOpen
      cases isOpen
    · exact all.answered other member row found isOpen

theorem applyCases_processed (distinct : caseIds.Nodup)
    (answered : applyCases knowledge change eventIds now store caseIds = .ok (impacts, next)) :
    AllProcessed knowledge change now caseIds impacts store next := by
  induction caseIds generalizing store impacts with
  | nil =>
      cases answered
      exact ⟨forall_mem_nil _, forall_mem_nil _, fun other _ => .refl now other _,
        forall_mem_nil _⟩
  | cons caseId rest ih =>
      obtain ⟨fresh, distinctRest⟩ := nodup_cons.1 distinct
      unfold applyCases at answered
      cases found : store.cases.get? caseId with
      | none =>
          rw [found] at answered
          refine (ih distinctRest answered).skip fun row present => ?_
          rw [found] at present
          cases present
      | some row =>
          rw [found] at answered
          dsimp only at answered
          cases isOpen : row.status.isImmutable with
          | true =>
              rw [if_pos isOpen] at answered
              refine (ih distinctRest answered).skip fun other present => ?_
              obtain rfl := mem_unique found present
              exact isOpen
          | false =>
              rw [isOpen] at answered
              obtain ⟨⟨impact, middle⟩, applied, answered⟩ := bind_eq_ok.1 answered
              obtain ⟨⟨impacts, last⟩, loop, done⟩ := bind_eq_ok.1 answered
              cases done
              obtain ⟨named, here⟩ := applyCase_processed applied
              have apart := Apart.applyCase applied
              have later := ih distinctRest loop
              have different : ∀ other ∈ rest, other ≠ caseId := by
                rintro other member rfl
                exact fresh member
              have notLater : caseId ∉ impacts.map (·.caseId) := by
                intro member
                obtain ⟨other, listed, same⟩ := mem_map.1 member
                exact different other.caseId (later.listed other listed) same
              constructor
              case listed =>
                intro other member
                rcases mem_cons.1 member with rfl | member
                · rw [named]
                  exact mem_cons_self
                · exact mem_cons_of_mem _ (later.listed other member)
              case processed =>
                intro other member
                rcases mem_cons.1 member with rfl | member
                · rw [named]
                  exact here.unmoved (later.unmoved caseId notLater)
                · exact (later.processed other member).of_unmoved
                    (.of_apart apart (different other.caseId (later.listed other member)))
              case unmoved =>
                intro other absent
                rw [map_cons, mem_cons, not_or, named] at absent
                exact (Unmoved.of_apart apart absent.1).trans (later.unmoved other absent.2)
              case answered =>
                intro other member row present isOpen
                rw [map_cons, named]
                rcases mem_cons.1 member with rfl | member
                · exact mem_cons_self
                · rw [← apart.cases other (different other member)] at present
                  exact mem_cons_of_mem _ (later.answered other member row present isOpen)

/-- **`process` and its selection.**  An open case that is left alone has not been
touched by the change. -/
theorem processChange_processed
    (ok : processChange store knowledge change eventIds now = .ok (impacts, next)) :
    (∀ impact ∈ impacts, Processed knowledge change now impact.caseId store next) ∧
      (∀ other, other ∉ impacts.map (·.caseId) → Unmoved now other store next) ∧
      ∀ row ∈ store.cases.rows, row.status.isImmutable = false →
        row.caseId ∉ impacts.map (·.caseId) →
          Touched store knowledge change now row = false := by
  obtain ⟨ids, loaded, selects, loads, isIds⟩ := relevantCaseIds_eq store knowledge change now
  unfold processChange at ok
  rw [selects, ok_bind] at ok
  have distinct : ids.Nodup := by
    rw [isIds]
    exact (perm_insertionSort _ _).nodup_iff.2 (nodup_dedup _)
  have all := applyCases_processed distinct ok
  refine ⟨fun impact member => (all.processed impact member).of_unmoved (.of_loaded loads),
    fun other absent => (Unmoved.of_loaded loads).trans (all.unmoved other absent),
    fun row member isOpen absent => ?_⟩
  rw [← Bool.not_eq_true]
  intro touched
  have selected : row.caseId ∈ ids := by
    rw [isIds, mem_sortedSet]
    exact mem_map_of_mem (mem_filter.2 ⟨member, by simp [isOpen, touched]⟩)
  have found : loaded.cases.get? row.caseId = some row := by
    rw [loads.cases]
    exact get?_of_mem member
  exact absent (all.answered row.caseId selected row found isOpen)

/-! ## Nothing stale -/

theorem wakeCase_of_found (found : store.cases.get? caseId = some row) :
    ∃ woken next, wakeCase store caseId row.status = .ok (woken, next) := by
  unfold wakeCase
  rw [show getCase store caseId = .ok row by rw [getCase, found]; rfl, ok_bind]
  by_cases waiting : row.status = .waiting
  · have activates : activateCase store caseId = .ok (row.withStatus .active,
        store.updateCase caseId (·.withStatus .active) (·.withStatus_caseId .active)) := by
      unfold activateCase transitionCase
      rw [show getCase store caseId = .ok row by rw [getCase, found]; rfl, ok_bind, waiting]
      rfl
    rw [if_pos waiting, waiting, activates]
    exact ⟨true, _, rfl⟩
  · rw [if_neg waiting]
    exact ⟨false, store, rfl⟩

/-- A case with nothing stale is answered for. -/
theorem applyCase_quiet (found : store.cases.get? caseId = some row)
    (isOpen : row.status.isImmutable = false)
    (nothing : NothingStale store knowledge change now row) (eventIds : EventIds) :
    ∃ impact next, applyCase store knowledge caseId change eventIds now = .ok (impact, next) := by
  obtain rfl := key_of_get? found
  have loads := Loaded.loadState found now
  have needs : (loadState store row now).needsOf row.caseId = store.needsOf row.caseId := by
    rw [needsOf, loads.needs]
    rfl
  have quiet : staleNeedIds knowledge
      ((store.needsOf row.caseId).filter fun need => need.status = .resolved) change = [] :=
    nothing.needs
  have none : ((store.needsOf row.caseId).filter fun need => need.status = .resolved).filter
      (fun need => need.needId ∈ ([] : List String)) = [] := by
    simp
  have loadedRow : (loadState store row now).cases.get? row.caseId = some row := by
    rw [loads.cases, found]
  obtain ⟨woken, next, wakes⟩ := wakeCase_of_found loadedRow
  unfold applyCase
  rw [lockCase_of found isOpen, ok_bind, getState_eq found, ok_bind]
  dsimp only
  rw [nothing.items, needs, quiet, none]
  dsimp only [retractItems, reopenNeeds]
  have same : rebuildIf false (loadState store row now) row.caseId now =
      .ok (loadState store row now) := rfl
  simp only [ok_bind, ne_eq, not_true_eq_false, or_self, decide_false, same, wakes]
  exact ⟨_, next, rfl⟩

/-- **A pass over cases with nothing stale** appends nothing. -/
theorem applyCases_quiet (distinct : caseIds.Nodup)
    (nothing : ∀ caseId ∈ caseIds, ∀ row, store.cases.get? caseId = some row →
      row.status.isImmutable = false → NothingStale store knowledge change now row)
    (eventIds : EventIds) :
    ∃ impacts next, applyCases knowledge change eventIds now store caseIds = .ok (impacts, next) ∧
      next.events = store.events ∧ next.needs = store.needs := by
  induction caseIds generalizing store with
  | nil => exact ⟨[], store, rfl, rfl, rfl⟩
  | cons caseId rest ih =>
      obtain ⟨fresh, distinctRest⟩ := nodup_cons.1 distinct
      have later := fun caseId member => nothing caseId (mem_cons_of_mem _ member)
      unfold applyCases
      cases found : store.cases.get? caseId with
      | none => exact ih distinctRest later
      | some row =>
          dsimp only
          cases isOpen : row.status.isImmutable with
          | true =>
              rw [if_pos rfl]
              exact ih distinctRest later
          | false =>
              rw [if_neg Bool.false_ne_true]
              have here := nothing caseId mem_cons_self row found isOpen
              obtain ⟨impact, middle, applied⟩ := applyCase_quiet found isOpen here eventIds
              obtain ⟨events, needs, -⟩ := applyCase_of_nothingStale found here applied
              have apart := Apart.applyCase applied
              have onward : ∀ other ∈ rest, ∀ row, middle.cases.get? other = some row →
                  row.status.isImmutable = false → NothingStale middle knowledge change now row := by
                intro other member row found isOpen
                have different : other ≠ caseId := by
                  rintro rfl
                  exact fresh member
                rw [apart.cases other different] at found
                obtain rfl := key_of_get? found
                exact apart.nothingStale different (later row.caseId member row found isOpen)
              obtain ⟨impacts, last, loop, sameEvents, sameNeeds⟩ := ih distinctRest onward
              rw [applied, ok_bind]
              dsimp only
              rw [loop, ok_bind]
              exact ⟨_, last, rfl, sameEvents.trans events, sameNeeds.trans needs⟩

/-! ## States and logs -/

/-- The stored states show the items of the logs. -/
def ItemsShown (store : CaseStore) : Prop :=
  ∀ caseId current, store.currents.get? caseId = some current → ∀ bucket,
    current.itemsIn bucket = (replayLog (store.orderedEvents caseId) bucket).values

theorem itemsShown_caseStoreAfter (ops : List CaseOp) : ItemsShown (caseStoreAfter ops) := by
  refine caseStoreAfter_invariant ?_ ?_ ops
  · intro caseId current found
    simp [CaseStore.empty] at found
  · intro store next kept recording change
    cases change with
    | created => exact kept
    | moved => exact kept
    | @written caseId middle row writes found now =>
        have ofCase := key_of_get? found
        intro other current shown bucket
        have lookup : (writeCurrent middle row now).2.currents.get? other =
            if row.caseId = other then some (projectedState middle row now)
            else middle.currents.get? other := get?_put _ _ _
        rw [lookup] at shown
        split at shown
        next same =>
          cases shown
          subst same
          exact itemsIn_projectedState middle row now bucket
        next different =>
          have sameLog : (writeCurrent middle row now).2.orderedEvents other =
              store.orderedEvents other := by
            unfold CaseStore.orderedEvents
            rw [← (writes.frame.2.1 other (ofCase ▸ different)).1]
            rfl
          rw [writes.frame.1] at shown
          rw [sameLog]
          exact kept other current shown bucket

theorem ItemsShown.stateOf (shown : ItemsShown store) (row : InvestigationCaseModel) (now : ℤ)
    (bucket : Bucket) : (stateOf store row now).itemsIn bucket =
      (replayLog (store.orderedEvents row.caseId) bucket).values := by
  unfold Investigation.stateOf
  cases cached : store.currents.get? row.caseId with
  | some current => exact shown row.caseId current cached bucket
  | none => exact itemsIn_projectedState store row now bucket

/-- What is listed in a state is what is filed in the log. -/
theorem mem_itemsIn (shown : ItemsShown store) (log : CaseLogKept store)
    (found : store.cases.get? caseId = some row) (now : ℤ) {bucket : Bucket} :
    item ∈ (stateOf store row now).itemsIn bucket ↔
      (replayLog (store.eventsOf caseId) bucket).get? item.key = some item := by
  have ofCase := key_of_get? found
  rw [shown.stateOf, ofCase, log.orderedEvents found, Dict.mem_values]
  constructor
  · rintro ⟨key, filed⟩
    have keyed : item.key = key := key_of_item filed
    rw [keyed]
    exact filed
  · exact fun filed => ⟨item.key, filed⟩

/-- An item that is to be revalidated because of the change. -/
def RevalidationRequired (change : KnowledgeChangeNotice) (caseId : String) (store : CaseStore)
    (item : InvestigationStateItem) : Prop :=
  ∃ event ∈ store.eventsOf caseId, Revalidates change event ∧
    item = replayItem event item.proposition

/-- **The exact invalidation of a case**, from one store and state to another: what
depends on the change has been retracted, is unknown and is to be revalidated, or
has been reopened, and all else is as it was. -/
structure ExactlyInvalidated (knowledge : KnowledgeStore) (change : KnowledgeChangeNotice)
    (now : ℤ) (caseId : String) (store next : CaseStore) (before after : InvestigationState) :
    Prop where
  confirmed : ∀ item, item ∈ after.confirmed ↔
    item ∈ before.confirmed ∧ isStaleItem knowledge change item = false
  retracted : ∀ item ∈ before.confirmed, isStaleItem knowledge change item = true →
    ∃ opened ∈ after.unknowns, opened.key = item.key ∧
      RevalidationRequired change caseId next opened
  unknowns : ∀ item, (∀ stale ∈ before.confirmed, isStaleItem knowledge change stale = true →
      stale.key ≠ item.key) → (item ∈ after.unknowns ↔ item ∈ before.unknowns)
  others : ∀ bucket, bucket ≠ .confirmed → bucket ≠ .unknowns → ∀ item,
    item ∈ after.itemsIn bucket ↔ item ∈ before.itemsIn bucket
  resolved : ∀ need ∈ next.needsOf caseId, need.status = .resolved →
    isStaleNeed knowledge change need = false
  needs : ∃ revision : String → ℕ, next.needsOf caseId = (store.needsOf caseId).map fun need =>
    if need.Invalidated knowledge change then need.reopenedAt now (revision need.needId) else need

theorem Processed.exactlyInvalidated (processed : Processed knowledge change now caseId store next)
    (shown : ItemsShown store) (log : CaseLogKept store) (shownNext : ItemsShown next)
    (logNext : CaseLogKept next) {later : InvestigationCaseModel}
    (found : store.cases.get? caseId = some row) (present : next.cases.get? caseId = some later)
    (laterNow : ℤ) :
    ExactlyInvalidated knowledge change now caseId store next (stateOf store row now)
      (stateOf next later laterNow) := by
  obtain ⟨⟨_, sameRow, events, filed, continued⟩, -, revision, needs⟩ := processed
  obtain rfl := mem_unique found sameRow
  have before : ∀ bucket {item}, item ∈ (stateOf store row now).itemsIn bucket ↔
      (replayLog (store.eventsOf caseId) bucket).get? item.key = some item :=
    fun _ _ => mem_itemsIn shown log found now
  have after : ∀ bucket {item}, item ∈ (stateOf next later laterNow).itemsIn bucket ↔
      (replayLog (next.eventsOf caseId) bucket).get? item.key = some item :=
    fun _ _ => mem_itemsIn shownNext logNext present laterNow
  have exclusive := exclusive_replayLog (store.eventsOf caseId)
  have moved := moved_of_filed filed (replayLog (store.eventsOf caseId))
  rw [show events.foldl replayEvent (replayLog (store.eventsOf caseId)) =
      replayLog (next.eventsOf caseId) by rw [continued, replayLog, replayLog, foldl_append]]
    at moved
  generalize isKeys : (staleConfirmedItems knowledge (stateOf store row now).confirmed change).map
    (·.key) = keys at moved
  have staleKey : ∀ {key}, key ∈ keys ↔ ∃ stale ∈ (stateOf store row now).confirmed,
      isStaleItem knowledge change stale = true ∧ stale.key = key := by
    intro key
    rw [← isKeys, staleConfirmedItems]
    simp only [mem_map, mem_filter, and_assoc]
  constructor
  case confirmed =>
    intro item
    rw [show item ∈ (stateOf next later laterNow).confirmed ↔ _ from after .confirmed]
    by_cases inKeys : item.key ∈ keys
    · rw [moved.cleared .confirmed rfl (by decide) item.key inKeys]
      constructor
      · intro absent
        cases absent
      · rintro ⟨member, fresh⟩
        -- a key is confirmed for one item only
        obtain ⟨stale, staleMember, isStale, sameKey⟩ := staleKey.1 inKeys
        have filedItem := (before .confirmed).1 member
        have filedStale := (before .confirmed).1 staleMember
        rw [sameKey, filedItem] at filedStale
        obtain rfl := Option.some.inj filedStale
        rw [fresh] at isStale
        cases isStale
    · rw [moved.kept .confirmed item.key (.inl inKeys), ← before .confirmed]
      refine ⟨fun member => ⟨member, ?_⟩, And.left⟩
      rw [← Bool.not_eq_true]
      exact fun isStale => inKeys (staleKey.2 ⟨item, member, isStale, rfl⟩)
  case retracted =>
    intro item member isStale
    obtain ⟨event, listed, revalidates, filed⟩ :=
      moved.opened item.key (staleKey.2 ⟨item, member, isStale, rfl⟩)
    have keyed : (replayItem event item.key.1).key = item.key := key_of_item filed
    refine ⟨replayItem event item.key.1, (after .unknowns).2 (keyed.symm ▸ filed), keyed, event, ?_,
      revalidates, rfl⟩
    rw [continued]
    exact mem_append_right _ listed
  case unknowns =>
    intro item other
    have outside : item.key ∉ keys := by
      intro inKeys
      obtain ⟨stale, member, isStale, sameKey⟩ := staleKey.1 inKeys
      exact other stale member isStale sameKey
    rw [show item ∈ (stateOf next later laterNow).unknowns ↔ _ from after .unknowns,
      moved.kept .unknowns item.key (.inl outside), ← before .unknowns]
    rfl
  case others =>
    intro bucket notConfirmed notUnknown item
    rw [after bucket, before bucket]
    by_cases shared : item.key ∈ keys ∧ bucket.isExclusive = true
    · obtain ⟨inKeys, isExclusive⟩ := shared
      rw [moved.cleared bucket isExclusive notUnknown item.key inKeys]
      constructor
      · intro absent
        cases absent
      · intro filed
        -- the key is confirmed, and so is in no other exclusive bucket
        obtain ⟨stale, member, -, sameKey⟩ := staleKey.1 inKeys
        have filedStale := (before .confirmed).1 member
        rw [sameKey] at filedStale
        refine absurd (exclusive item.key bucket .confirmed isExclusive rfl ?_ ?_) notConfirmed
        · rw [filed]
          exact some_ne_none _
        · rw [filedStale]
          exact some_ne_none _
    · rw [not_and_or, Bool.not_eq_true] at shared
      rw [moved.kept bucket item.key shared]
  case resolved =>
    intro need member resolved
    rw [needs] at member
    obtain ⟨old, -, rfl⟩ := mem_map.1 member
    by_cases invalidated : old.Invalidated knowledge change
    · rw [if_pos invalidated] at resolved
      cases resolved
    · rw [if_neg invalidated] at resolved ⊢
      rw [← Bool.not_eq_true]
      exact fun stale => invalidated ⟨resolved, stale⟩
  case needs => exact ⟨revision, needs⟩

/-! ## Processing again -/

theorem Loaded.nothingStale {loaded : CaseStore} (loads : Loaded now store loaded)
    (found : store.cases.get? row.caseId = some row)
    (nothing : NothingStale store knowledge change now row) :
    NothingStale loaded knowledge change now row := by
  refine ⟨?_, ?_⟩
  · rw [loads.states row found]
    exact nothing.items
  · unfold resolvedNeedsOf needsOf
    rw [loads.needs]
    exact nothing.needs

theorem ExactlyInvalidated.nothingStale {before : InvestigationState} {laterNow : ℤ}
    (exact : ExactlyInvalidated knowledge change now row.caseId store next before
      (stateOf next row laterNow)) : NothingStale next knowledge change laterNow row := by
  refine ⟨?_, ?_⟩
  · refine filter_eq_nil_iff.2 fun item member => ?_
    rw [((exact.confirmed item).1 member).2]
    exact Bool.false_ne_true
  · refine map_eq_nil_iff.2 (filter_eq_nil_iff.2 fun need member => ?_)
    obtain ⟨listed, resolved⟩ := mem_filter.1 member
    rw [exact.resolved need listed (of_decide_eq_true resolved)]
    exact Bool.false_ne_true

/-- What the selection asks of a case that has not moved. -/
theorem Unmoved.touched (unmoved : Unmoved now row.caseId store next) (shown : ItemsShown store)
    (shownNext : ItemsShown next) (laterNow : ℤ) :
    Touched next knowledge change laterNow row = Touched store knowledge change now row := by
  have confirmed : (stateOf next row laterNow).confirmed = (stateOf store row now).confirmed := by
    refine (shownNext.stateOf row laterNow .confirmed).trans
      (Eq.trans ?_ (shown.stateOf row now .confirmed).symm)
    rw [CaseStore.orderedEvents, unmoved.events]
    rfl
  unfold Touched
  rw [confirmed, unmoved.needs]

/-- **The second pass** finds only cases with nothing stale. -/
theorem processChange_again
    (ok : processChange store knowledge change eventIds now = .ok (impacts, next))
    (shown : ItemsShown store) (log : CaseLogKept store) (shownNext : ItemsShown next)
    (logNext : CaseLogKept next) (laterIds : EventIds) (laterNow : ℤ) :
    ∃ again last, processChange next knowledge change laterIds laterNow = .ok (again, last) ∧
      last.events = next.events ∧ last.needs = next.needs := by
  obtain ⟨processed, unmoved, untouched⟩ := processChange_processed ok
  obtain ⟨ids, loaded, selects, loads, isIds⟩ := relevantCaseIds_eq next knowledge change laterNow
  have distinct : ids.Nodup := by
    rw [isIds]
    exact (perm_insertionSort _ _).nodup_iff.2 (nodup_dedup _)
  have nothing : ∀ caseId ∈ ids, ∀ row, loaded.cases.get? caseId = some row →
      row.status.isImmutable = false → NothingStale loaded knowledge change laterNow row := by
    intro caseId member row found isOpen
    rw [loads.cases] at found
    obtain ⟨stored, rfl⟩ := get?_eq_some.1 found
    refine loads.nothingStale found ?_
    by_cases isImpact : row.caseId ∈ impacts.map (·.caseId)
    · obtain ⟨impact, listed, sameId⟩ := mem_map.1 isImpact
      have here := processed impact listed
      rw [sameId] at here
      obtain ⟨earlier, earlierFound, -⟩ := here.log
      exact (here.exactlyInvalidated shown log shownNext logNext earlierFound found
        laterNow).nothingStale
    · -- a case that was left alone is left alone again
      have same := unmoved row.caseId isImpact
      have before : store.cases.get? row.caseId = some row := same.row.symm.trans found
      have leftOut := untouched row (mem_of_get? before) isOpen isImpact
      rw [isIds, mem_sortedSet] at member
      obtain ⟨other, selected, sameId⟩ := mem_map.1 member
      obtain ⟨otherStored, touched⟩ := mem_filter.1 selected
      obtain rfl := eq_of_key otherStored stored sameId
      rw [same.touched shown shownNext laterNow, leftOut, Bool.and_false] at touched
      cases touched
  obtain ⟨again, last, loop, events, needs⟩ := applyCases_quiet distinct nothing laterIds
  refine ⟨again, last, ?_, events.trans loads.events, needs.trans loads.needs⟩
  unfold processChange
  rw [selects, ok_bind]
  exact loop

/-- **Invalidation is exact and idempotent.**  Whenever `process` answers for a
notice, each case it has processed has lost what depends on the change, and nothing
else; each other case is as it was; and the same notice, processed again, is
answered without a new event. -/
theorem invalidation_exact (ops : List CaseOp) {knowledge : KnowledgeStore}
    {change : KnowledgeChangeNotice} {eventIds : EventIds} {now : ℤ}
    {impacts : List WorldChangeImpact} {next : CaseStore}
    (answered : processChange (caseStoreAfter ops) knowledge change eventIds now =
      .ok (impacts, next)) :
    (∀ impact ∈ impacts, ∃ before loaded after last,
        getState (caseStoreAfter ops) impact.caseId now = .ok (before, loaded) ∧
        getState next impact.caseId now = .ok (after, last) ∧
        ExactlyInvalidated knowledge change now impact.caseId (caseStoreAfter ops) next before
          after) ∧
      (∀ caseId, caseId ∉ impacts.map (·.caseId) →
        Unmoved now caseId (caseStoreAfter ops) next) ∧
      ∀ laterIds laterNow, ∃ again last,
        processChange next knowledge change laterIds laterNow = .ok (again, last) ∧
          last.events = next.events := by
  have reached : caseStoreAfter (ops ++ [.processChange knowledge change eventIds now]) = next := by
    rw [caseStoreAfter_append]
    have called : caseService (.processChange knowledge change eventIds now) (caseStoreAfter ops) =
        .ok (.processed impacts, next) := by
      show (processChange (caseStoreAfter ops) knowledge change eventIds now >>= _) = _
      rw [answered]
      rfl
    exact transact_of_ok called
  have shownNext := itemsShown_caseStoreAfter (ops ++ [.processChange knowledge change eventIds now])
  have logNext := caseLogKept_caseStoreAfter (ops ++ [.processChange knowledge change eventIds now])
  rw [reached] at shownNext logNext
  have shown := itemsShown_caseStoreAfter ops
  have log := caseLogKept_caseStoreAfter ops
  obtain ⟨processed, unmoved, -⟩ := processChange_processed answered
  refine ⟨fun impact member => ?_, unmoved, fun laterIds laterNow => ?_⟩
  · have here := processed impact member
    obtain ⟨row, found, -⟩ := here.log
    obtain ⟨later, present⟩ := here.row
    exact ⟨_, _, _, _, getState_eq found now, getState_eq present now,
      here.exactlyInvalidated shown log shownNext logNext found present now⟩
  · obtain ⟨again, last, answers, events, -⟩ :=
      processChange_again answered shown log shownNext logNext laterIds laterNow
    exact ⟨again, last, answers, events⟩

/-- A case about the package confirms something of it. -/
def packageCase : List CaseOp :=
  [ .create "case-1" "signature" ["widget"] "goal" none 0,
    .applyPatch packageKnowledge packagePatch "reasoned"
      (fun _ revision => "event-" ++ toString revision) 1 ]

theorem invalidation_exact_package : ∃ impacts next,
    processChange (caseStoreAfter packageCase) packageKnowledge packageChange
        (fun _ revision => "stale-" ++ toString revision) 2 = .ok (impacts, next) ∧
      impacts.map (·.affectedPropositions) = [["the package is maintained"]] ∧
      ∀ impact ∈ impacts, ∃ before loaded after last,
        getState (caseStoreAfter packageCase) impact.caseId 2 = .ok (before, loaded) ∧
        getState next impact.caseId 2 = .ok (after, last) ∧
        ExactlyInvalidated packageKnowledge packageChange 2 impact.caseId
          (caseStoreAfter packageCase) next before after := by
  have computed : (processChange (caseStoreAfter packageCase) packageKnowledge packageChange
      (fun _ revision => "stale-" ++ toString revision) 2).toOption.map
        (fun answer => answer.1.map (·.affectedPropositions)) =
      some [["the package is maintained"]] := by
    decide +kernel
  obtain ⟨⟨impacts, next⟩, answered, propositions⟩ := map_eq_some_iff.1 computed
  have answered := toOption_eq_some.1 answered
  exact ⟨impacts, next, answered, propositions, (invalidation_exact packageCase answered).1⟩

end SecFusion.Investigation
