import SecFusion.Investigation.Effects

/-!
# The relevance of a change

`process` does not look at every case in full: `relevant_case_ids` first selects
the cases that a change may concern.  A case that is not selected should have
nothing to invalidate.  The selection asks for the targets of the case, the
evidence of its confirmed items, and the targets and evidence of its needs; the
exact test for a confirmed item also asks for the target of the item, and nothing
keeps such a target among those of the case.

`prefilter_complete` says when the selection is complete, and that `process` then
invalidates what it would if it applied the change to every case.
-/

namespace SecFusion.Investigation

open Foundations Intelligence

/-! ## Reading the state of a case -/

/-- The state that `get_state` answers for a case. -/
def stateOf (store : CaseStore) (row : InvestigationCaseModel) (now : ℤ) : InvestigationState :=
  (store.currents.get? row.caseId).getD (projectedState store row now)

/-- The store that `get_state` leaves. -/
def loadState (store : CaseStore) (row : InvestigationCaseModel) (now : ℤ) : CaseStore :=
  match store.currents.get? row.caseId with
  | some _ => store
  | none => (writeCurrent store row now).2

variable {caseId needId : String} {row : InvestigationCaseModel}
  {first second third next left right leftNext rightNext : CaseStore} {few : List String}
  {rewrite : EvidenceNeedModel → EvidenceNeedModel} {request : CaseEventRequest}
  {items : List InvestigationStateItem} {needs : List EvidenceNeedModel} {eventIds : EventIds}
  {impact : WorldChangeImpact} {prior : CaseStatus} {woken mutated : Bool}

theorem getState_eq {store : CaseStore} (found : store.cases.get? caseId = some row) (now : ℤ) :
    getState store caseId now = .ok (stateOf store row now, loadState store row now) := by
  obtain rfl := key_of_get? found
  unfold getState getCase stateOf loadState rebuildCurrent
  rw [found]
  show (match store.currents.get? row.caseId with | some current => _ | none => _) = _
  cases cached : store.currents.get? row.caseId with
  | some current => rfl
  | none =>
      simp only
      rfl

/-- Only the cached states have changed, and what they say is what they would have
said. -/
structure Loaded (now : ℤ) (store loaded : CaseStore) : Prop where
  cases : loaded.cases = store.cases
  events : loaded.events = store.events
  needs : loaded.needs = store.needs
  perceptions : loaded.perceptions = store.perceptions
  states : ∀ row, store.cases.get? row.caseId = some row →
    stateOf loaded row now = stateOf store row now

theorem Loaded.refl (now : ℤ) (store : CaseStore) : Loaded now store store :=
  ⟨rfl, rfl, rfl, rfl, fun _ _ => rfl⟩

theorem Loaded.trans {now : ℤ} (left : Loaded now first second) (right : Loaded now second third) :
    Loaded now first third where
  cases := right.cases.trans left.cases
  events := right.events.trans left.events
  needs := right.needs.trans left.needs
  perceptions := right.perceptions.trans left.perceptions
  states row found := (right.states row (by rw [left.cases, found])).trans (left.states row found)

theorem Loaded.loadState {store : CaseStore} (found : store.cases.get? row.caseId = some row)
    (now : ℤ) :
    Loaded now store (loadState store row now) := by
  unfold Investigation.loadState
  cases cached : store.currents.get? row.caseId with
  | some current => exact Loaded.refl now store
  | none =>
      refine ⟨rfl, rfl, rfl, rfl, fun other otherFound => ?_⟩
      show ((store.currents.put (projectedState store row now)).get? other.caseId).getD _ = _
      rw [get?_put]
      split
      next same =>
        have sameId : row.caseId = other.caseId := same
        obtain rfl : row = other := by
          rw [sameId, otherFound] at found
          exact (Option.some.inj found).symm
        rw [stateOf, cached]
        rfl
      next => rfl

/-! ## The selection -/

section Selection

variable (store : CaseStore) (knowledge : KnowledgeStore) (change : KnowledgeChangeNotice) (now : ℤ)

/-- What the selection asks of a case: its own targets, the evidence of its
confirmed items, the targets of its needs and the evidence of their resolution. -/
def Touched (row : InvestigationCaseModel) : Bool :=
  anyChanged change row.targetObjectIds ||
    evidenceRefsTouchChange knowledge (stateEvidenceRefs (stateOf store row now).confirmed) change ||
    (store.needsOf row.caseId).any (fun need => anyChanged change need.targetObjects) ||
    evidenceRefsTouchChange knowledge
      ((store.needsOf row.caseId).flatMap (·.resolutionEvidenceRefs)) change

/-- A confirmed item of the case is about an object that has changed. -/
def ItemTargetChanged (row : InvestigationCaseModel) : Bool :=
  (stateOf store row now).confirmed.any fun item =>
    anyChanged change (targetRefObjectId item.targetRef).toList

def resolvedNeedsOf (caseId : String) : List EvidenceNeedModel :=
  (store.needsOf caseId).filter fun need => need.status = .resolved

end Selection

variable {store : CaseStore} {knowledge : KnowledgeStore} {change : KnowledgeChangeNotice} {now : ℤ}

theorem Loaded.touched {loaded : CaseStore} (loads : Loaded now store loaded)
    (found : store.cases.get? row.caseId = some row) :
    Touched loaded knowledge change now row = Touched store knowledge change now row := by
  unfold Touched needsOf
  rw [loads.states row found, loads.needs]

theorem isRelevantCase_eq (knowledge : KnowledgeStore) (change : KnowledgeChangeNotice) (now : ℤ)
    (found : store.cases.get? row.caseId = some row) :
    ∃ loaded, isRelevantCase store knowledge change row now =
        .ok (!row.status.isImmutable && Touched store knowledge change now row, loaded) ∧
      Loaded now store loaded := by
  unfold isRelevantCase
  cases row.status.isImmutable with
  | true => exact ⟨store, rfl, .refl now store⟩
  | false =>
      cases hit : anyChanged change row.targetObjectIds with
      | true =>
          refine ⟨store, ?_, .refl now store⟩
          simp only [Touched, hit]
          rfl
      | false =>
          have loads := Loaded.loadState found now
          refine ⟨loadState store row now, ?_, loads⟩
          simp only [getState_eq found, ok_bind, Touched, hit, needsOf, loads.needs,
            Bool.false_eq_true, if_false, Bool.not_false, Bool.true_and, Bool.false_or]
          rfl

/-- **The selection always answers**, with the open cases that are touched. -/
theorem relevantCases_eq (knowledge : KnowledgeStore) (change : KnowledgeChangeNotice) (now : ℤ)
    (rows : List InvestigationCaseModel)
    (found : ∀ row ∈ rows, store.cases.get? row.caseId = some row) :
    ∃ loaded, relevantCases knowledge change now store rows =
        .ok ((rows.filter fun row => !row.status.isImmutable &&
          Touched store knowledge change now row).map (·.caseId), loaded) ∧
      Loaded now store loaded := by
  induction rows generalizing store with
  | nil => exact ⟨store, rfl, .refl now store⟩
  | cons row rest ih =>
      have here := found row mem_cons_self
      obtain ⟨middle, tested, first⟩ := isRelevantCase_eq knowledge change now here
      have stays : ∀ other ∈ rest, middle.cases.get? other.caseId = some other := by
        intro other member
        rw [first.cases]
        exact found other (mem_cons_of_mem _ member)
      obtain ⟨loaded, loop, later⟩ := ih stays
      refine ⟨loaded, ?_, first.trans later⟩
      have same : (rest.filter fun row => !row.status.isImmutable &&
            Touched middle knowledge change now row) =
          rest.filter fun row => !row.status.isImmutable && Touched store knowledge change now row := by
        refine filter_congr fun other member => ?_
        rw [first.touched (found other (mem_cons_of_mem _ member))]
      unfold relevantCases
      rw [tested, ok_bind]
      dsimp only
      rw [loop, ok_bind, same, filter_cons]
      cases !row.status.isImmutable && Touched store knowledge change now row with
      | true => rfl
      | false => rfl

theorem relevantCaseIds_eq (store : CaseStore) (knowledge : KnowledgeStore)
    (change : KnowledgeChangeNotice) (now : ℤ) :
    ∃ ids loaded, relevantCaseIds store knowledge change now = .ok (ids, loaded) ∧
      Loaded now store loaded ∧ ids = sortedSet ((store.cases.rows.filter fun row =>
        !row.status.isImmutable && Touched store knowledge change now row).map (·.caseId)) := by
  obtain ⟨loaded, loop, loads⟩ := relevantCases_eq knowledge change now store.cases.rows
    fun row member => get?_of_mem member
  exact ⟨_, loaded, by rw [relevantCaseIds, loop, ok_bind]; rfl, loads, rfl⟩

/-! ## What the selection leaves out -/

theorem evidenceRefsTouchChange_iff {evidenceRefs : List String} :
    evidenceRefsTouchChange knowledge evidenceRefs change = true ↔
      ∃ link ∈ knowledge.evidenceLinks.rows,
        (∃ ref ∈ evidenceRefs, evidenceLinkId ref = link.evidenceLinkId) ∧
          dependencyChanged change ⟨"", link.targetKind, link.targetId⟩ = true := by
  unfold evidenceRefsTouchChange evidenceDependencies
  rw [any_eq_true]
  constructor
  · rintro ⟨dependency, member, changed⟩
    obtain ⟨link, listed, named⟩ := mem_filterMap.1 member
    obtain ⟨ref, located, rfl⟩ := map_eq_some_iff.1 named
    refine ⟨link, listed, ⟨ref, ?_, by simpa using find?_some located⟩, changed⟩
    simpa using mem_of_find?_eq_some located
  · rintro ⟨link, listed, ⟨ref, member, names⟩, changed⟩
    cases located : (sortedSet evidenceRefs).find? (fun ref =>
        evidenceLinkId ref = link.evidenceLinkId) with
    | none =>
        have absent := find?_eq_none.1 located ref (mem_sortedSet.2 member)
        simp [names] at absent
    | some other =>
        refine ⟨⟨other, link.targetKind, link.targetId⟩, ?_, changed⟩
        exact mem_filterMap.2 ⟨link, listed, by rw [located]; rfl⟩

theorem evidenceRefsTouchChange_mono {many : List String} (subset : ∀ ref ∈ few, ref ∈ many)
    (touched : evidenceRefsTouchChange knowledge few change = true) :
    evidenceRefsTouchChange knowledge many change = true := by
  obtain ⟨link, listed, ⟨ref, member, names⟩, changed⟩ := evidenceRefsTouchChange_iff.1 touched
  exact evidenceRefsTouchChange_iff.2 ⟨link, listed, ⟨ref, subset ref member, names⟩, changed⟩

/-- A stale need is seen by the selection. -/
theorem touched_of_staleNeed {need : EvidenceNeedModel} (member : need ∈ store.needsOf row.caseId)
    (stale : isStaleNeed knowledge change need = true) :
    Touched store knowledge change now row = true := by
  unfold isStaleNeed at stale
  rcases Bool.or_eq_true_iff.1 stale with target | evidence
  · have any : (store.needsOf row.caseId).any (fun need => anyChanged change need.targetObjects) =
        true := any_eq_true.2 ⟨need, member, target⟩
    simp only [Touched, any, Bool.or_true, Bool.true_or]
  · have all : evidenceRefsTouchChange knowledge
        ((store.needsOf row.caseId).flatMap (·.resolutionEvidenceRefs)) change = true := by
      refine evidenceRefsTouchChange_mono (fun ref named => ?_) evidence
      exact mem_flatMap.2 ⟨need, member, named⟩
    simp only [Touched, all, Bool.or_true]

/-- A confirmed item with stale evidence is seen by the selection. -/
theorem touched_of_staleEvidence {item : InvestigationStateItem}
    (member : item ∈ (stateOf store row now).confirmed)
    (stale : evidenceRefsTouchChange knowledge item.evidenceRefs change = true) :
    Touched store knowledge change now row = true := by
  have all : evidenceRefsTouchChange knowledge
      (stateEvidenceRefs (stateOf store row now).confirmed) change = true := by
    refine evidenceRefsTouchChange_mono (fun ref named => ?_) stale
    exact mem_sortedSet.2 (mem_flatMap.2 ⟨item, member, named⟩)
  simp only [Touched, all, Bool.or_true, Bool.true_or]

/-- The case has nothing that the change makes stale. -/
structure NothingStale (store : CaseStore) (knowledge : KnowledgeStore)
    (change : KnowledgeChangeNotice) (now : ℤ) (row : InvestigationCaseModel) : Prop where
  items : staleConfirmedItems knowledge (stateOf store row now).confirmed change = []
  needs : staleNeedIds knowledge (resolvedNeedsOf store row.caseId) change = []

/-- **What the selection misses** is the target of a confirmed item, and nothing
else. -/
theorem nothingStale_iff (untouched : Touched store knowledge change now row = false) :
    NothingStale store knowledge change now row ↔
      ItemTargetChanged store change now row = false := by
  have needs : staleNeedIds knowledge (resolvedNeedsOf store row.caseId) change = [] := by
    unfold staleNeedIds
    rw [map_eq_nil_iff, filter_eq_nil_iff]
    intro need member stale
    have listed := mem_of_mem_filter member
    rw [touched_of_staleNeed listed stale] at untouched
    cases untouched
  have evidence : ∀ item ∈ (stateOf store row now).confirmed,
      evidenceRefsTouchChange knowledge item.evidenceRefs change = false := by
    intro item member
    cases touches : evidenceRefsTouchChange knowledge item.evidenceRefs change with
    | false => rfl
    | true =>
        rw [touched_of_staleEvidence member touches] at untouched
        cases untouched
  have items : staleConfirmedItems knowledge (stateOf store row now).confirmed change = [] ↔
      ItemTargetChanged store change now row = false := by
    unfold staleConfirmedItems ItemTargetChanged
    rw [filter_eq_nil_iff, List.any_eq_false]
    refine forall₂_congr fun item member => ?_
    simp only [isStaleItem, evidence item member, Bool.or_false]
  exact ⟨fun nothing => items.1 nothing.items, fun unchanged => ⟨items.2 unchanged, needs⟩⟩

/-! ## One case at a time -/

/-- Nothing outside the case has changed. -/
structure Apart (caseId : String) (store next : CaseStore) : Prop where
  cases : ∀ other, other ≠ caseId → next.cases.get? other = store.cases.get? other
  currents : ∀ other, other ≠ caseId → next.currents.get? other = store.currents.get? other
  events : ∀ other, other ≠ caseId → next.eventsOf other = store.eventsOf other
  needs : ∀ other, other ≠ caseId → next.needsOf other = store.needsOf other
  perceptions : next.perceptions = store.perceptions

namespace Apart

theorem refl (caseId : String) (store : CaseStore) : Apart caseId store store :=
  ⟨fun _ _ => rfl, fun _ _ => rfl, fun _ _ => rfl, fun _ _ => rfl, rfl⟩

theorem trans (left : Apart caseId first second) (right : Apart caseId second third) :
    Apart caseId first third where
  cases other apart := (right.cases other apart).trans (left.cases other apart)
  currents other apart := (right.currents other apart).trans (left.currents other apart)
  events other apart := (right.events other apart).trans (left.events other apart)
  needs other apart := (right.needs other apart).trans (left.needs other apart)
  perceptions := right.perceptions.trans left.perceptions

/-- What is read of another case is what it was. -/
theorem stateOf (apart : Apart caseId store next) (other : row.caseId ≠ caseId) (now : ℤ) :
    Investigation.stateOf next row now = Investigation.stateOf store row now := by
  have projected : projectedState next row now = projectedState store row now := by
    simp only [projectedState, CaseStore.orderedEvents, openNeedIds, latestPerception,
      CaseStore.perceptionsOf, apart.events row.caseId other, apart.needs row.caseId other,
      apart.perceptions]
  rw [Investigation.stateOf, apart.currents row.caseId other, projected]
  rfl

theorem nothingStale (apart : Apart caseId store next) (other : row.caseId ≠ caseId)
    (nothing : NothingStale store knowledge change now row) :
    NothingStale next knowledge change now row := by
  refine ⟨?_, ?_⟩
  · rw [apart.stateOf other]
    exact nothing.items
  · rw [resolvedNeedsOf, apart.needs row.caseId other]
    exact nothing.needs

theorem updateCase {rewrite : InvestigationCaseModel → InvestigationCaseModel}
    {keeps : ∀ row, (rewrite row).caseId = row.caseId} :
    Apart caseId store (store.updateCase caseId rewrite keeps) := by
  refine ⟨fun other apart => ?_, fun _ _ => rfl, fun _ _ => rfl, fun _ _ => rfl, rfl⟩
  exact (get?_update _ _ _ keeps _).trans (if_neg fun same => apart same.symm)

theorem appendEvent {event : CaseStateEventModel}
    (ok : appendEvent store caseId request eventIds now = .ok (event, next)) :
    Apart caseId store next := by
  obtain ⟨-, appended, needs, perceptions⟩ := appendEvent_ok ok
  refine ⟨fun other apart => ?_, fun other _ => by rw [appended.currents], fun other apart => ?_,
    fun other _ => by rw [needsOf, needs]; rfl, perceptions⟩
  · rw [appended.cases, if_neg fun same => apart same.symm]
  · unfold eventsOf select
    rw [appended.events, filter_append, List.filter_singleton]
    have notOther : decide (event.caseId = other) = false := by
      refine decide_eq_false fun same => apart ?_
      rw [← same, appended.ofCase]
    rw [notOther]
    exact append_nil _

variable {keeps : ∀ row, (rewrite row).needId = row.needId}

theorem updateNeed
    (sameCase : ∀ row, (rewrite row).caseId = row.caseId)
    (ofCase : ∀ row ∈ store.needs.rows, row.needId = needId → row.caseId = caseId) :
    Apart caseId store (store.updateNeed needId rewrite keeps) := by
  refine ⟨fun _ _ => rfl, fun _ _ => rfl, fun _ _ => rfl, fun other apart => ?_, rfl⟩
  refine Table.select_update keeps fun row member named => ?_
  have different : ¬ row.caseId = other := fun same => apart (same.symm.trans (ofCase row member named))
  exact ⟨decide_eq_false different, decide_eq_false (by rw [sameCase]; exact different)⟩

theorem writeCurrent :
    Apart row.caseId store (Investigation.writeCurrent store row now).2 := by
  refine ⟨fun _ _ => rfl, fun other apart => ?_, fun _ _ => rfl, fun _ _ => rfl, rfl⟩
  exact (get?_put _ _ _).trans (if_neg fun same => apart same.symm)

theorem loadState :
    Apart row.caseId store (Investigation.loadState store row now) := by
  unfold Investigation.loadState
  split
  · exact .refl _ _
  · exact .writeCurrent

theorem rebuildState {state : InvestigationState}
    (ok : rebuildState store caseId now = .ok (state, next)) : Apart caseId store next := by
  obtain ⟨row, found, -, rfl⟩ := rebuildState_ok ok
  obtain rfl := key_of_get? found
  exact .writeCurrent

theorem retractItems (ok : retractItems caseId change eventIds now store items = .ok next) :
    Apart caseId store next := by
  induction items generalizing store with
  | nil =>
      cases ok
      exact .refl _ _
  | cons item rest ih =>
      obtain ⟨⟨_, retracted⟩, retracts, ok⟩ := bind_eq_ok.1 ok
      obtain ⟨⟨_, opened⟩, opens, ok⟩ := bind_eq_ok.1 ok
      exact ((Apart.appendEvent retracts).trans (.appendEvent opens)).trans (ih ok)

end Apart

/-- The needs are stored, and belong to the case. -/
def OfCase (store : CaseStore) (caseId : String) (needs : List EvidenceNeedModel) : Prop :=
  ∀ need ∈ needs, ∀ row ∈ store.needs.rows, row.needId = need.needId → row.caseId = caseId

theorem OfCase.updateNeed (ofCase : OfCase store caseId needs)
    (sameCase : ∀ row, (rewrite row).caseId = row.caseId) :
    OfCase (store.updateNeed needId rewrite keeps) caseId needs := by
  intro need listed row member named
  obtain ⟨old, oldMember, rfl⟩ := mem_map.1 member
  by_cases hit : old.needId = needId
  · rw [if_pos hit] at named ⊢
    rw [sameCase]
    exact ofCase need listed old oldMember ((keeps old).symm.trans named)
  · rw [if_neg hit] at named ⊢
    exact ofCase need listed old oldMember named

theorem OfCase.of_eq (ofCase : OfCase store caseId needs) (same : next.needs = store.needs) :
    OfCase next caseId needs := by
  unfold OfCase
  rw [same]
  exact ofCase

theorem Apart.reopenNeeds (ofCase : OfCase store caseId needs)
    (ok : reopenNeeds caseId change eventIds now store needs = .ok next) :
    Apart caseId store next := by
  induction needs generalizing store with
  | nil =>
      cases ok
      exact .refl _ _
  | cons need rest ih =>
      obtain ⟨⟨event, logged⟩, appended, ok⟩ := bind_eq_ok.1 ok
      have marks : Apart caseId store (store.updateNeed need.needId (·.withReopened now)
          (·.withReopened_needId now)) :=
        .updateNeed (fun _ => rfl) (ofCase need mem_cons_self)
      have sameNeeds := (appendEvent_ok appended).2.2.1
      have marked : OfCase (store.updateNeed need.needId (·.withReopened now)
          (·.withReopened_needId now)) caseId (need :: rest) := ofCase.updateNeed fun _ => rfl
      have laterLogged := marked.of_eq sameNeeds
      have settles : Apart caseId logged (logged.updateNeed need.needId
          (·.withRevision event.caseRevision) (·.withRevision_needId event.caseRevision)) :=
        .updateNeed (fun _ => rfl) (laterLogged need mem_cons_self)
      have remaining : OfCase (logged.updateNeed need.needId
          (·.withRevision event.caseRevision) (·.withRevision_needId event.caseRevision)) caseId rest :=
        OfCase.updateNeed (fun other member => laterLogged other (mem_cons_of_mem _ member))
          fun _ => rfl
      exact ((marks.trans (.appendEvent appended)).trans settles).trans (ih remaining ok)

/-- The resolved needs of a case that the change makes stale. -/
def staleNeedsOf (store : CaseStore) (knowledge : KnowledgeStore) (change : KnowledgeChangeNotice)
    (caseId : String) : List EvidenceNeedModel :=
  (resolvedNeedsOf store caseId).filter fun need =>
    need.needId ∈ staleNeedIds knowledge (resolvedNeedsOf store caseId) change

/-- The impact has retracted or reopened something. -/
def WorldChangeImpact.invalidates (impact : WorldChangeImpact) : Bool :=
  impact.affectedPropositions ≠ [] ∨ impact.openedOrReopenedNeedIds ≠ []

/-- **The stages of `_apply_case`**, in terms of the store it meets. -/
theorem applyCase_stages
    (ok : applyCase store knowledge caseId change eventIds now = .ok (impact, next)) :
    ∃ row items retracted reopened rebuilt, store.cases.get? caseId = some row ∧
      items = staleConfirmedItems knowledge (stateOf store row now).confirmed change ∧
      retractItems caseId change eventIds now (loadState store row now) items = .ok retracted ∧
      reopenNeeds caseId change eventIds now retracted
        (staleNeedsOf store knowledge change caseId) = .ok reopened ∧
      rebuildIf (items ≠ [] ∨ staleNeedsOf store knowledge change caseId ≠ []) reopened caseId now =
        .ok rebuilt ∧
      wakeCase rebuilt caseId row.status = .ok (impact.caseActivated, next) ∧
      impact =
        { caseId, worldRevision := change.revision, caseActivated := impact.caseActivated
          affectedPropositions := (items.map (·.proposition)).insertionSort (· ≤ ·)
          openedOrReopenedNeedIds := ((staleNeedsOf store knowledge change caseId).map
            (·.needId)).insertionSort (· ≤ ·) } := by
  unfold applyCase at ok
  obtain ⟨row, locked, ok⟩ := bind_eq_ok.1 ok
  obtain ⟨found, -⟩ := lockCase_ok locked
  rw [getState_eq found, ok_bind] at ok
  dsimp only at ok
  obtain rfl := key_of_get? found
  have needs : (loadState store row now).needsOf row.caseId = store.needsOf row.caseId := by
    rw [needsOf, (Loaded.loadState found now).needs]
    rfl
  rw [needs] at ok
  obtain ⟨retracted, retracts, ok⟩ := bind_eq_ok.1 ok
  obtain ⟨reopened, reopens, ok⟩ := bind_eq_ok.1 ok
  obtain ⟨rebuilt, rebuilds, ok⟩ := bind_eq_ok.1 ok
  obtain ⟨⟨woken, last⟩, wakes, ok⟩ := bind_eq_ok.1 ok
  cases ok
  exact ⟨row, _, retracted, reopened, rebuilt, found, rfl, retracts, reopens, rebuilds, wakes, rfl⟩

theorem ofCase_staleNeedsOf (store : CaseStore) (knowledge : KnowledgeStore)
    (change : KnowledgeChangeNotice) (caseId : String) :
    OfCase store caseId (staleNeedsOf store knowledge change caseId) := by
  intro need member row listed same
  obtain ⟨stored, ofCase⟩ :=
    mem_select.1 (mem_of_mem_filter (mem_of_mem_filter member))
  rw [eq_of_key listed stored same]
  exact of_decide_eq_true ofCase

theorem retractItems_needs
    (ok : retractItems caseId change eventIds now store items = .ok next) :
    next.needs = store.needs := by
  induction items generalizing store with
  | nil =>
      cases ok
      rfl
  | cons item rest ih =>
      obtain ⟨⟨_, retracted⟩, retracts, ok⟩ := bind_eq_ok.1 ok
      obtain ⟨⟨_, opened⟩, opens, ok⟩ := bind_eq_ok.1 ok
      rw [ih ok, (appendEvent_ok opens).2.2.1, (appendEvent_ok retracts).2.2.1]

theorem wakeCase_tables (ok : wakeCase store caseId prior = .ok (woken, next)) :
    next.events = store.events ∧ next.needs = store.needs := by
  obtain ⟨row, -, ⟨-, rfl, -⟩ | ⟨-, -, -, view, activated⟩⟩ := wakeCase_ok ok
  · exact ⟨rfl, rfl⟩
  · obtain ⟨_, -, ⟨-, rfl⟩ | ⟨-, -, rfl⟩⟩ := transitionCase_ok activated
    · exact ⟨rfl, rfl⟩
    · exact ⟨rfl, rfl⟩

theorem Apart.wakeCase (ok : wakeCase store caseId prior = .ok (woken, next)) :
    Apart caseId store next := by
  obtain ⟨row, -, ⟨-, rfl, -⟩ | ⟨-, -, -, view, activated⟩⟩ := wakeCase_ok ok
  · exact .refl _ _
  · obtain ⟨_, -, ⟨-, rfl⟩ | ⟨-, -, rfl⟩⟩ := transitionCase_ok activated
    · exact .refl _ _
    · exact .updateCase

theorem Apart.rebuildIf (ok : rebuildIf mutated store caseId now = .ok next) :
    Apart caseId store next := by
  unfold Investigation.rebuildIf at ok
  split at ok
  · obtain ⟨⟨state, last⟩, rebuilds, done⟩ := bind_eq_ok.1 ok
    cases done
    exact .rebuildState rebuilds
  · cases ok
    exact .refl _ _

/-- `_apply_case` leaves every other case as it is. -/
theorem Apart.applyCase
    (ok : applyCase store knowledge caseId change eventIds now = .ok (impact, next)) :
    Apart caseId store next := by
  obtain ⟨row, items, retracted, reopened, rebuilt, found, -, retracts, reopens, rebuilds, wakes, -⟩ :=
    applyCase_stages ok
  obtain rfl := key_of_get? found
  have loads : Apart row.caseId store (Investigation.loadState store row now) := .loadState
  have needs : retracted.needs = store.needs := by
    rw [retractItems_needs retracts, (Loaded.loadState found now).needs]
  have reopening : Apart row.caseId retracted reopened :=
    .reopenNeeds ((ofCase_staleNeedsOf store knowledge change row.caseId).of_eq needs) reopens
  exact (((loads.trans (.retractItems retracts)).trans reopening).trans (.rebuildIf rebuilds)).trans
    (.wakeCase wakes)

/-- A case with nothing stale loses nothing. -/
theorem applyCase_of_nothingStale (found : store.cases.get? caseId = some row)
    (nothing : NothingStale store knowledge change now row)
    (ok : applyCase store knowledge caseId change eventIds now = .ok (impact, next)) :
    next.events = store.events ∧ next.needs = store.needs ∧ impact.invalidates = false := by
  obtain ⟨_, items, retracted, reopened, rebuilt, sameRow, isItems, retracts, reopens, rebuilds,
    wakes, isImpact⟩ := applyCase_stages ok
  obtain rfl := mem_unique found sameRow
  obtain rfl := key_of_get? found
  have noNeeds : staleNeedsOf store knowledge change row.caseId = [] := by
    rw [staleNeedsOf, nothing.needs, filter_eq_nil_iff]
    intro need _ listed
    simp at listed
  rw [nothing.items] at isItems
  subst isItems
  rw [noNeeds] at reopens rebuilds isImpact
  cases retracts
  cases reopens
  cases rebuilds
  have loads := Loaded.loadState found now
  obtain ⟨events, needs⟩ := wakeCase_tables wakes
  refine ⟨events.trans loads.events, needs.trans loads.needs, ?_⟩
  rw [isImpact]
  rfl

/-! ## Two stores in step -/

/-- What `_apply_case` reads of the case, apart from its state, is the same. -/
structure Same (caseId : String) (left right : CaseStore) : Prop where
  row : left.cases.get? caseId = right.cases.get? caseId
  events : left.events.rows = right.events.rows
  needs : left.needs.rows = right.needs.rows

namespace Same

theorem appendEvent {first second : CaseStateEventModel} (same : Same caseId left right)
    (onLeft : appendEvent left caseId request eventIds now = .ok (first, leftNext))
    (onRight : appendEvent right caseId request eventIds now = .ok (second, rightNext)) :
    first = second ∧ Same caseId leftNext rightNext := by
  obtain ⟨⟨row, found, isFirst⟩, leftAppended, leftNeeds, -⟩ := appendEvent_ok onLeft
  obtain ⟨⟨other, otherFound, isSecond⟩, rightAppended, rightNeeds, -⟩ := appendEvent_ok onRight
  obtain rfl : row = other := Option.some.inj (found.symm.trans (same.row.trans otherFound))
  obtain rfl : first = second := isFirst.trans isSecond.symm
  refine ⟨rfl, ?_, ?_, ?_⟩
  · rw [leftAppended.cases, rightAppended.cases, if_pos rfl, if_pos rfl, same.row]
  · rw [leftAppended.events, rightAppended.events, same.events]
  · rw [leftNeeds, rightNeeds, same.needs]

theorem updateNeed (same : Same caseId left right) :
    Same caseId (left.updateNeed needId rewrite keeps) (right.updateNeed needId rewrite keeps) := by
  refine ⟨same.row, same.events, ?_⟩
  show left.needs.rows.map _ = right.needs.rows.map _
  rw [same.needs]

theorem retractItems (same : Same caseId left right)
    (onLeft : retractItems caseId change eventIds now left items = .ok leftNext)
    (onRight : retractItems caseId change eventIds now right items = .ok rightNext) :
    Same caseId leftNext rightNext := by
  induction items generalizing left right with
  | nil =>
      cases onLeft
      cases onRight
      exact same
  | cons item rest ih =>
      obtain ⟨⟨_, _⟩, leftRetracts, onLeft⟩ := bind_eq_ok.1 onLeft
      obtain ⟨⟨_, _⟩, leftOpens, onLeft⟩ := bind_eq_ok.1 onLeft
      obtain ⟨⟨_, _⟩, rightRetracts, onRight⟩ := bind_eq_ok.1 onRight
      obtain ⟨⟨_, _⟩, rightOpens, onRight⟩ := bind_eq_ok.1 onRight
      have retracted := (same.appendEvent leftRetracts rightRetracts).2
      exact ih (retracted.appendEvent leftOpens rightOpens).2 onLeft onRight

theorem reopenNeeds (same : Same caseId left right)
    (onLeft : reopenNeeds caseId change eventIds now left needs = .ok leftNext)
    (onRight : reopenNeeds caseId change eventIds now right needs = .ok rightNext) :
    Same caseId leftNext rightNext := by
  induction needs generalizing left right with
  | nil =>
      cases onLeft
      cases onRight
      exact same
  | cons need rest ih =>
      obtain ⟨⟨first, _⟩, leftAppends, onLeft⟩ := bind_eq_ok.1 onLeft
      obtain ⟨⟨second, _⟩, rightAppends, onRight⟩ := bind_eq_ok.1 onRight
      obtain ⟨rfl, appended⟩ := same.updateNeed.appendEvent leftAppends rightAppends
      exact ih appended.updateNeed onLeft onRight

theorem rebuildIf (same : Same caseId left right)
    (onLeft : rebuildIf mutated left caseId now = .ok leftNext)
    (onRight : rebuildIf mutated right caseId now = .ok rightNext) :
    Same caseId leftNext rightNext := by
  unfold Investigation.rebuildIf at onLeft onRight
  cases mutated with
  | true =>
      obtain ⟨⟨_, _⟩, leftRebuilds, done⟩ := bind_eq_ok.1 onLeft
      cases done
      obtain ⟨⟨_, _⟩, rightRebuilds, done⟩ := bind_eq_ok.1 onRight
      cases done
      obtain ⟨_, -, -, rfl⟩ := rebuildState_ok leftRebuilds
      obtain ⟨_, -, -, rfl⟩ := rebuildState_ok rightRebuilds
      exact ⟨same.row, same.events, same.needs⟩
  | false =>
      cases onLeft
      cases onRight
      exact same

/-- Two stores that wake a case in step answer alike. -/
theorem wakeCase {first second : Bool} (same : Same caseId left right)
    (onLeft : wakeCase left caseId prior = .ok (first, leftNext))
    (onRight : wakeCase right caseId prior = .ok (second, rightNext)) :
    first = second ∧ leftNext.events.rows = rightNext.events.rows ∧
      leftNext.needs.rows = rightNext.needs.rows := by
  obtain ⟨leftEvents, leftNeeds⟩ := wakeCase_tables onLeft
  obtain ⟨rightEvents, rightNeeds⟩ := wakeCase_tables onRight
  rw [leftEvents, leftNeeds, rightEvents, rightNeeds]
  refine ⟨?_, same.events, same.needs⟩
  obtain ⟨_, -, ⟨isFirst, -, -⟩ | ⟨isFirst, waits, -⟩⟩ := wakeCase_ok onLeft
  · obtain ⟨_, -, ⟨isSecond, -, -⟩ | ⟨isSecond, waits, -⟩⟩ := wakeCase_ok onRight
    · rw [isFirst, isSecond]
    · rw [isFirst, isSecond, waits, decide_eq_true rfl]
  · obtain ⟨_, -, ⟨isSecond, -, -⟩ | ⟨isSecond, -⟩⟩ := wakeCase_ok onRight
    · rw [isFirst, isSecond, waits, decide_eq_true rfl]
    · rw [isFirst, isSecond]

/-- **`_apply_case` in step** on two stores that agree on the case. -/
theorem applyCase {first second : WorldChangeImpact} (same : Same caseId left right)
    (states : ∀ row, left.cases.get? caseId = some row → stateOf left row now = stateOf right row now)
    (onLeft : applyCase left knowledge caseId change eventIds now = .ok (first, leftNext))
    (onRight : applyCase right knowledge caseId change eventIds now = .ok (second, rightNext)) :
    first = second ∧ leftNext.events.rows = rightNext.events.rows ∧
      leftNext.needs.rows = rightNext.needs.rows := by
  obtain ⟨row, items, _, _, _, found, isItems, leftRetracts, leftReopens, leftRebuilds, leftWakes,
    isFirst⟩ := applyCase_stages onLeft
  obtain ⟨other, others, _, _, _, otherFound, areOthers, rightRetracts, rightReopens, rightRebuilds,
    rightWakes, isSecond⟩ := applyCase_stages onRight
  obtain rfl : row = other := Option.some.inj (found.symm.trans (same.row.trans otherFound))
  obtain rfl : items = others := by rw [isItems, areOthers, states row found]
  have needs : staleNeedsOf left knowledge change caseId =
      staleNeedsOf right knowledge change caseId := by
    have resolved : resolvedNeedsOf left caseId = resolvedNeedsOf right caseId := by
      unfold resolvedNeedsOf needsOf select
      rw [same.needs]
    rw [staleNeedsOf, resolved]
    rfl
  rw [needs] at leftReopens leftRebuilds isFirst
  obtain rfl := key_of_get? found
  have loadedLeft := Loaded.loadState found now
  have loadedRight := Loaded.loadState otherFound now
  have loaded : Same row.caseId (loadState left row now) (loadState right row now) := by
    refine ⟨?_, ?_, ?_⟩
    · rw [loadedLeft.cases, loadedRight.cases, same.row]
    · rw [loadedLeft.events, loadedRight.events, same.events]
    · rw [loadedLeft.needs, loadedRight.needs, same.needs]
  have retracted := loaded.retractItems leftRetracts rightRetracts
  have reopened := retracted.reopenNeeds leftReopens rightReopens
  have rebuilt := reopened.rebuildIf leftRebuilds rightRebuilds
  obtain ⟨activated, events, stored⟩ := rebuilt.wakeCase leftWakes rightWakes
  refine ⟨?_, events, stored⟩
  rw [isFirst, isSecond, activated]

end Same

/-! ## All cases -/

/-- The stores agree on the cases that are still to be looked at. -/
structure Alike (now : ℤ) (caseIds : List String) (left right : CaseStore) : Prop where
  rows : ∀ caseId ∈ caseIds, left.cases.get? caseId = right.cases.get? caseId
  states : ∀ caseId ∈ caseIds, ∀ row, left.cases.get? caseId = some row →
    stateOf left row now = stateOf right row now
  events : left.events.rows = right.events.rows
  needs : left.needs.rows = right.needs.rows

/-- What is looked at next changes nothing of what comes later. -/
theorem Alike.later {rest : List String} (alike : Alike now (caseId :: rest) left right)
    (fresh : caseId ∉ rest) (leftApart : Apart caseId left leftNext)
    (rightApart : Apart caseId right rightNext)
    (events : leftNext.events.rows = rightNext.events.rows)
    (needs : leftNext.needs.rows = rightNext.needs.rows) : Alike now rest leftNext rightNext := by
  have different : ∀ other ∈ rest, other ≠ caseId := by
    rintro other member rfl
    exact fresh member
  refine ⟨fun other member => ?_, fun other member row found => ?_, events, needs⟩
  · rw [leftApart.cases other (different other member),
      rightApart.cases other (different other member)]
    exact alike.rows other (mem_cons_of_mem _ member)
  · have apart := different other member
    rw [leftApart.cases other apart] at found
    obtain rfl := key_of_get? found
    rw [leftApart.stateOf apart, rightApart.stateOf apart]
    exact alike.states row.caseId (mem_cons_of_mem _ member) row found

/-- **Leaving out cases with nothing stale** changes neither the log, nor the
needs, nor the impacts that invalidate something. -/
theorem applyCases_filter (kept : String → Bool) {caseIds : List String}
    {all some : List WorldChangeImpact} (distinct : caseIds.Nodup)
    (alike : Alike now caseIds left right)
    (nothing : ∀ caseId ∈ caseIds, kept caseId = false → ∀ row,
      left.cases.get? caseId = .some row → row.status.isImmutable = false →
        NothingStale left knowledge change now row)
    (onLeft : applyCases knowledge change eventIds now left caseIds = .ok (all, leftNext))
    (onRight : applyCases knowledge change eventIds now right (caseIds.filter kept) =
      .ok (some, rightNext)) :
    all.filter (·.invalidates) = some.filter (·.invalidates) ∧
      leftNext.events.rows = rightNext.events.rows ∧ leftNext.needs.rows = rightNext.needs.rows := by
  induction caseIds generalizing left right all some with
  | nil =>
      cases onLeft
      cases onRight
      exact ⟨rfl, alike.events, alike.needs⟩
  | cons caseId rest ih =>
      obtain ⟨fresh, distinctRest⟩ := nodup_cons.1 distinct
      have onward : ∀ leftMiddle, Apart caseId left leftMiddle →
          ∀ other ∈ rest, kept other = false → ∀ row,
            leftMiddle.cases.get? other = .some row → row.status.isImmutable = false →
              NothingStale leftMiddle knowledge change now row := by
        intro leftMiddle apart other member dropped row found isOpen
        have different : other ≠ caseId := by
          rintro rfl
          exact fresh member
        rw [apart.cases other different] at found
        obtain rfl := key_of_get? found
        exact apart.nothingStale different
          (nothing row.caseId (mem_cons_of_mem _ member) dropped row found isOpen)
      have skipped := alike.later fresh (.refl _ _) (.refl _ _) alike.events alike.needs
      have rowAlike := alike.rows caseId mem_cons_self
      cases keeps : kept caseId with
      | true =>
          rw [List.filter_cons_of_pos keeps] at onRight
          unfold applyCases at onLeft onRight
          cases found : left.cases.get? caseId with
          | none =>
              rw [← rowAlike] at onRight
              rw [found] at onLeft onRight
              exact ih distinctRest skipped (onward left (.refl _ _)) onLeft onRight
          | some row =>
              rw [← rowAlike] at onRight
              rw [found] at onLeft onRight
              dsimp only at onLeft onRight
              cases isOpen : row.status.isImmutable with
              | true =>
                  rw [if_pos isOpen] at onLeft onRight
                  exact ih distinctRest skipped (onward left (.refl _ _)) onLeft onRight
              | false =>
                  rw [isOpen] at onLeft onRight
                  obtain ⟨⟨first, leftMiddle⟩, leftApplied, onLeft⟩ := bind_eq_ok.1 onLeft
                  obtain ⟨⟨laterAll, _⟩, leftLoop, done⟩ := bind_eq_ok.1 onLeft
                  cases done
                  obtain ⟨⟨second, rightMiddle⟩, rightApplied, onRight⟩ := bind_eq_ok.1 onRight
                  obtain ⟨⟨laterSome, _⟩, rightLoop, done⟩ := bind_eq_ok.1 onRight
                  cases done
                  have same : Same caseId left right := ⟨rowAlike, alike.events, alike.needs⟩
                  obtain ⟨rfl, events, needs⟩ := same.applyCase
                    (alike.states caseId mem_cons_self) leftApplied rightApplied
                  have leftApart := Apart.applyCase leftApplied
                  obtain ⟨impacts, rest⟩ := ih distinctRest
                    (alike.later fresh leftApart (.applyCase rightApplied) events needs)
                    (onward leftMiddle leftApart) leftLoop rightLoop
                  refine ⟨?_, rest⟩
                  rw [filter_cons, filter_cons, impacts]
      | false =>
          rw [filter_cons_of_neg (by rw [keeps]; decide)] at onRight
          unfold applyCases at onLeft
          cases found : left.cases.get? caseId with
          | none =>
              rw [found] at onLeft
              exact ih distinctRest skipped (onward left (.refl _ _)) onLeft onRight
          | some row =>
              rw [found] at onLeft
              dsimp only at onLeft
              cases isOpen : row.status.isImmutable with
              | true =>
                  rw [if_pos isOpen] at onLeft
                  exact ih distinctRest skipped (onward left (.refl _ _)) onLeft onRight
              | false =>
                  rw [isOpen] at onLeft
                  obtain ⟨⟨first, leftMiddle⟩, leftApplied, onLeft⟩ := bind_eq_ok.1 onLeft
                  obtain ⟨⟨laterAll, _⟩, leftLoop, done⟩ := bind_eq_ok.1 onLeft
                  cases done
                  obtain ⟨events, needs, quiet⟩ := applyCase_of_nothingStale found
                    (nothing caseId mem_cons_self keeps row found isOpen) leftApplied
                  have leftApart := Apart.applyCase leftApplied
                  have later := alike.later fresh leftApart (.refl _ _)
                    ((congrArg _ events).trans alike.events) ((congrArg _ needs).trans alike.needs)
                  obtain ⟨impacts, rest⟩ := ih distinctRest later (onward leftMiddle leftApart)
                    leftLoop onRight
                  refine ⟨?_, rest⟩
                  rw [filter_cons_of_neg (by rw [quiet]; decide), impacts]

theorem sortedSet_eq_filter {all : List String} (kept : String → Bool)
    (members : ∀ text, text ∈ few ↔ text ∈ all ∧ kept text = true) :
    sortedSet few = (sortedSet all).filter kept := by
  have sorted : ∀ texts : List String, (sortedSet texts).Pairwise (· ≤ ·) :=
    fun texts => pairwise_insertionSort _ _
  have distinct : ∀ texts : List String, (sortedSet texts).Nodup :=
    fun texts => (perm_insertionSort _ _).nodup_iff.2 (nodup_dedup texts)
  refine List.Perm.eq_of_pairwise' (sorted few) ((sorted all).filter _) ?_
  refine (perm_ext_iff_of_nodup (distinct few) ((distinct all).filter _)).2 fun text => ?_
  rw [mem_sortedSet, mem_filter, mem_sortedSet, members]

/-- Every case of the store, whether the change concerns it or not. -/
def processAll (store : CaseStore) (knowledge : KnowledgeStore) (change : KnowledgeChangeNotice)
    (eventIds : EventIds) (now : ℤ) : Except Raised (List WorldChangeImpact × CaseStore) :=
  applyCases knowledge change eventIds now store
    (sortedSet (store.cases.rows.map (·.caseId)))

/-- **The selection is complete**: it answers, and an open case that it leaves out
has nothing stale. -/
def PrefilterComplete (store : CaseStore) (knowledge : KnowledgeStore)
    (change : KnowledgeChangeNotice) (now : ℤ) : Prop :=
  ∃ ids loaded, relevantCaseIds store knowledge change now = .ok (ids, loaded) ∧
    ∀ row ∈ store.cases.rows, row.status.isImmutable = false → row.caseId ∉ ids →
      NothingStale store knowledge change now row

/-- `process` retracts, opens and reopens what it would if it went through all
cases. -/
def InvalidatesAll (store : CaseStore) (knowledge : KnowledgeStore)
    (change : KnowledgeChangeNotice) (eventIds : EventIds) (now : ℤ) : Prop :=
  ∀ impacts next all allNext, processChange store knowledge change eventIds now = .ok (impacts, next) →
    processAll store knowledge change eventIds now = .ok (all, allNext) →
      all.filter (·.invalidates) = impacts.filter (·.invalidates) ∧
        allNext.events.rows = next.events.rows ∧ allNext.needs.rows = next.needs.rows

theorem invalidatesAll_of_complete (complete : PrefilterComplete store knowledge change now) :
    InvalidatesAll store knowledge change eventIds now := by
  intro impacts next all allNext processed whole
  obtain ⟨ids, loaded, selects, nothing⟩ := complete
  obtain ⟨_, _, selected, loads, isIds⟩ := relevantCaseIds_eq store knowledge change now
  rw [selects] at selected
  obtain ⟨rfl, rfl⟩ := Prod.mk.inj (Except.ok.inj selected)
  unfold processChange at processed
  rw [selects, ok_bind] at processed
  let kept : String → Bool := fun caseId => decide (caseId ∈ ids)
  have split : ids = (sortedSet (store.cases.rows.map (·.caseId))).filter kept := by
    rw [isIds]
    refine sortedSet_eq_filter _ fun caseId => ?_
    simp only [kept, decide_eq_true_eq]
    rw [isIds, mem_sortedSet]
    refine (and_iff_right_of_imp fun member => ?_).symm
    obtain ⟨row, listed, rfl⟩ := mem_map.1 member
    exact mem_map_of_mem (mem_of_mem_filter listed)
  have distinct : (sortedSet (store.cases.rows.map (·.caseId))).Nodup :=
    (perm_insertionSort _ _).nodup_iff.2 (nodup_dedup _)
  have alike : Alike now (sortedSet (store.cases.rows.map (·.caseId))) store loaded := by
    refine ⟨fun caseId _ => by rw [loads.cases], fun caseId _ row found => ?_, by rw [loads.events],
      by rw [loads.needs]⟩
    obtain rfl := key_of_get? found
    exact (loads.states row found).symm
  rw [split] at processed
  refine applyCases_filter kept distinct alike ?_ whole processed
  intro caseId _ dropped row found isOpen
  obtain ⟨member, rfl⟩ := get?_eq_some.1 found
  exact nothing row member isOpen (of_decide_eq_false dropped)

/-- **The relevance of a change.**  The selection is complete, and `process`
invalidates what it would if it applied the change to every case, exactly if each
open case with a confirmed item about a changed object is also touched through its
own targets, the evidence of its confirmed items, or the targets or evidence of
its needs. -/
theorem prefilter_complete (store : CaseStore) (knowledge : KnowledgeStore)
    (change : KnowledgeChangeNotice) (eventIds : EventIds) (now : ℤ) :
    (PrefilterComplete store knowledge change now ∧
        InvalidatesAll store knowledge change eventIds now) ↔
      ∀ row ∈ store.cases.rows, row.status.isImmutable = false →
        ItemTargetChanged store change now row = true →
          Touched store knowledge change now row = true := by
  obtain ⟨ids, loaded, selects, loads, isIds⟩ := relevantCaseIds_eq store knowledge change now
  have selected : ∀ row ∈ store.cases.rows, row.status.isImmutable = false →
      (row.caseId ∈ ids ↔ Touched store knowledge change now row = true) := by
    intro row member isOpen
    rw [isIds, Text.mem_sortedSet, mem_map]
    constructor
    · rintro ⟨other, listed, sameId⟩
      obtain ⟨otherMember, touched⟩ := mem_filter.1 listed
      obtain rfl := Table.eq_of_key otherMember member sameId
      simpa [isOpen] using touched
    · intro touched
      exact ⟨row, mem_filter.2 ⟨member, by simp [isOpen, touched]⟩, rfl⟩
  constructor
  · rintro ⟨⟨_, _, answered, nothing⟩, -⟩ row member isOpen changed
    rw [selects] at answered
    obtain ⟨rfl, rfl⟩ := Prod.mk.inj (Except.ok.inj answered)
    by_contra untouched
    have leftOut : row.caseId ∉ ids := fun listed => untouched ((selected row member isOpen).1 listed)
    have unchanged := (nothingStale_iff (Bool.not_eq_true _ ▸ untouched)).1
      (nothing row member isOpen leftOut)
    rw [unchanged] at changed
    cases changed
  · intro covered
    have complete : PrefilterComplete store knowledge change now := by
      refine ⟨ids, loaded, selects, fun row member isOpen leftOut => ?_⟩
      have untouched : Touched store knowledge change now row = false := by
        rw [← Bool.not_eq_true]
        exact fun touched => leftOut ((selected row member isOpen).2 touched)
      refine (nothingStale_iff untouched).2 ?_
      rw [← Bool.not_eq_true]
      intro changed
      rw [covered row member isOpen changed] at untouched
      cases untouched
    exact ⟨complete, invalidatesAll_of_complete complete⟩

/-! ## An item about something else -/

/-- A package, and one claim about it with its evidence. -/
def packageKnowledge : KnowledgeStore where
  objects := ["widget"]
  incidents := []
  claims := ⟨[⟨"claim-1", "widget"⟩], by decide⟩
  relations := .empty
  evidenceLinks := ⟨[⟨"link-1", "observation-1", .claim, "claim-1"⟩], by decide⟩
  observations := ⟨[⟨"observation-1", "vendor"⟩], by decide⟩
  sources := ⟨[⟨"vendor", "vendor", none, none⟩], by decide⟩
  revisions := [1]

/-- The package is said to be maintained. -/
def packagePatch : StatePatch where
  patchId := "patch-1"
  caseId := "case-1"
  baseCaseRevision := 0
  producer := "analyst"
  operations := [{
    proposition := "the package is maintained", targetRef := some "object:widget"
    proposedState := .confirmed, evidenceRefs := ["evidence:link-1"] }]

/-- A case without targets confirms something of the package. -/
def packageOps : List CaseOp :=
  [ .create "case-1" "signature" [] "goal" none 0,
    .applyPatch packageKnowledge packagePatch "reasoned"
      (fun _ revision => "event-" ++ toString revision) 1 ]

/-- Another claim about the package. -/
def packageChange : KnowledgeChangeNotice where
  revision := 2
  objectIds := ["widget"]
  claimIds := ["claim-2"]

/-- **A stale item is overlooked**: the change is about the package, and the case
is not selected. -/
theorem prefilter_overlooks :
    ¬ ∀ store knowledge change eventIds now, PrefilterComplete store knowledge change now ∧
      InvalidatesAll store knowledge change eventIds now := by
  intro complete
  obtain ⟨⟨ids, loaded, selects, nothing⟩, -⟩ := complete (caseStoreAfter packageOps)
    packageKnowledge packageChange (fun _ revision => "stale-" ++ toString revision) 2
  have selected : (relevantCaseIds (caseStoreAfter packageOps) packageKnowledge packageChange
      2).toOption.map (·.1) = some [] := by
    decide +kernel
  rw [selects] at selected
  obtain rfl : ids = [] := Option.some.inj selected
  have stale : ∀ row ∈ (caseStoreAfter packageOps).cases.rows, row.status.isImmutable = false ∧
      staleConfirmedItems packageKnowledge (stateOf (caseStoreAfter packageOps) row 2).confirmed
        packageChange ≠ [] := by
    decide +kernel
  have stored : (caseStoreAfter packageOps).cases.rows ≠ [] := by
    decide +kernel
  obtain ⟨row, member⟩ := exists_mem_of_ne_nil _ stored
  obtain ⟨isOpen, hasStale⟩ := stale row member
  exact hasStale (nothing row member isOpen not_mem_nil).items

end SecFusion.Investigation
