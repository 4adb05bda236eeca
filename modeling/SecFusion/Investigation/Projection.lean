import SecFusion.Investigation.Revisions

/-!
# The projection and the log

A case is read in two ways: `get_state` returns the projection, written from the
log, the table of needs and the table of perceptions; `get_state_at_revision`
folds the log and asks no table.

Items and decision come from the same fold.  The open needs of the table are
those the log has left open (`CoordinatesKept`).  The coordinates of the last
perception are chosen differently: the projection takes the perception that
finished last, the log the one that was recorded last.  The two readings agree as
long as each perception that is recorded finishes after those of its case that
have been recorded before.
-/

namespace SecFusion.Investigation

open Foundations Intelligence

variable {recording : Bool}

/-! ## The fold over a log -/

/-- What the loop of `get_state_at_revision` keeps beside the items. -/
def loggedCoordinates (store : CaseStore) (caseId : String) (initial : Option ℕ) : Coordinates :=
  (store.eventsOf caseId).foldl replayCoordinates ⟨[], initial, none⟩

/-- What `get_state_at_revision` answers at the current revision. -/
def replayedState (store : CaseStore) (row : InvestigationCaseModel) : InvestigationState :=
  let events := store.eventsOf row.caseId
  let buckets := replayLog events
  let coordinates := loggedCoordinates store row.caseId row.initialKnowledgeRevision
  { caseId := row.caseId
    caseRevision := row.currentRevision
    goal := row.goal
    targets := row.targetObjectIds
    confirmed := (buckets .confirmed).values
    tentative := (buckets .tentative).values
    conflicts := (buckets .conflicts).values
    unknowns := (buckets .unknowns).values
    hypotheses := (buckets .hypotheses).values
    evidenceNeedIds := coordinates.openNeedIds
    currentDecision := replayDecision events
    lastWorldRevision := coordinates.lastWorldRevision
    lastPerceptionAt := coordinates.lastPerceptionAt
    updatedAt := (events.getLast?.map (·.createdAt)).getD row.createdAt }

variable {store next : CaseStore} {caseId other : String} {row later : InvestigationCaseModel}
  {event : CaseStateEventModel} {perception : PerceptionEventModel}

/-- The whole log is there at the current revision. -/
theorem getStateAtRevision_current (kept : CaseLogKept store)
    (found : store.cases.get? caseId = some row) :
    getStateAtRevision store caseId row.currentRevision = .ok (replayedState store row) := by
  have ofCase : row.caseId = caseId := key_of_get? found
  have revisions := kept.revisions caseId row found
  have whole : (store.orderedEvents caseId).filter
      (fun event => (event.caseRevision : ℤ) ≤ row.currentRevision) = store.eventsOf caseId := by
    rw [kept.orderedEvents found, filter_eq_self]
    intro event member
    have numbered : event.caseRevision ∈ (store.eventsOf caseId).map (·.caseRevision) :=
      mem_map_of_mem member
    rw [revisions, mem_range'_1] at numbered
    simp only [Nat.cast_le, decide_eq_true_eq]
    omega
  have last : 0 < row.currentRevision →
      (store.eventsOf caseId).getLast?.map (·.caseRevision) = some row.currentRevision := by
    intro positive
    rw [← List.getLast?_map, revisions, List.getLast?_range']
    simp only [Nat.ne_of_gt positive, if_false]
    congr 1
    omega
  have complete : 0 < (row.currentRevision : ℤ) →
      (store.eventsOf caseId).getLast?.map (fun event => (event.caseRevision : ℤ)) =
        some (row.currentRevision : ℤ) := by
    intro positive
    have cast := congrArg (Option.map (Nat.cast : ℕ → ℤ)) (last (by exact_mod_cast positive))
    simpa [Option.map_map, Function.comp_def] using cast
  have range : 0 ≤ (row.currentRevision : ℤ) ∧
      (row.currentRevision : ℤ) ≤ row.currentRevision := ⟨Int.natCast_nonneg _, le_refl _⟩
  rw [getStateAtRevision, getCase, found]
  simp only [fetch, ok_bind, whole, require_of range, require_of complete]
  simp only [replayedState, loggedCoordinates, ofCase, Int.toNat_natCast]
  rfl

/-- **Two readings of a case agree**; the needs are compared as a set. -/
structure Agree (state replayed : InvestigationState) : Prop where
  confirmed : state.confirmed = replayed.confirmed
  tentative : state.tentative = replayed.tentative
  conflicts : state.conflicts = replayed.conflicts
  unknowns : state.unknowns = replayed.unknowns
  hypotheses : state.hypotheses = replayed.hypotheses
  needs : ∀ needId, needId ∈ state.evidenceNeedIds ↔ needId ∈ replayed.evidenceNeedIds
  decision : state.currentDecision = replayed.currentDecision
  world : state.lastWorldRevision = replayed.lastWorldRevision
  perceived : state.lastPerceptionAt = replayed.lastPerceptionAt

/-- The log and the first coordinate of a case are all the replay reads. -/
theorem Agree.frame {state : InvestigationState} (agree : Agree state (replayedState store row))
    (ofCase : later.caseId = row.caseId)
    (initial : later.initialKnowledgeRevision = row.initialKnowledgeRevision)
    (events : next.eventsOf row.caseId = store.eventsOf row.caseId) :
    Agree state (replayedState next later) := by
  obtain ⟨confirmed, tentative, conflicts, unknowns, hypotheses, needs, decision, world,
    perceived⟩ := agree
  simp only [replayedState, loggedCoordinates] at *
  constructor <;> simp only [ofCase, initial, events] <;> assumption

/-! ## Needs and coordinates -/

/-- The need is open in the table. -/
def OpenNeed (store : CaseStore) (caseId needId : String) : Prop :=
  ∃ need, store.needs.get? needId = some need ∧ need.caseId = caseId ∧ need.status = .open

/-- **The tables against the fold.** -/
structure CoordinatesKept (store : CaseStore) : Prop where
  /-- A need belongs to a case (a foreign key), and is open or resolved. -/
  needs : ∀ id need, store.needs.get? id = some need →
    (∃ row, store.cases.get? need.caseId = some row) ∧
      (need.status = .open ∨ need.status = .resolved)
  /-- So does a perception. -/
  perceptions : ∀ perception ∈ store.perceptions.rows,
    ∃ row, store.cases.get? perception.caseId = some row
  opened : ∀ caseId row, store.cases.get? caseId = some row → ∀ needId,
    needId ∈ (loggedCoordinates store caseId row.initialKnowledgeRevision).openNeedIds ↔
      OpenNeed store caseId needId
  world : ∀ caseId row, store.cases.get? caseId = some row →
    (loggedCoordinates store caseId row.initialKnowledgeRevision).lastWorldRevision =
      ((store.perceptionsOf caseId).getLast?.map (·.worldRevision)).or
        row.initialKnowledgeRevision
  perceived : ∀ caseId row, store.cases.get? caseId = some row →
    (loggedCoordinates store caseId row.initialKnowledgeRevision).lastPerceptionAt =
      (store.perceptionsOf caseId).getLast?.map (·.finishedAt)

theorem CoordinatesKept.empty : CoordinatesKept CaseStore.empty where
  needs id need found := by simp [CaseStore.empty] at found
  perceptions perception member := by cases member
  opened caseId row found := by simp [CaseStore.empty] at found
  world caseId row found := by simp [CaseStore.empty] at found
  perceived caseId row found := by simp [CaseStore.empty] at found

theorem Appended.loggedCoordinates (appended : Appended store next caseId event) (other : String)
    (initial : Option ℕ) :
    loggedCoordinates next other initial =
      if caseId = other then replayCoordinates (loggedCoordinates store other initial) event
      else loggedCoordinates store other initial := by
  unfold Investigation.loggedCoordinates
  rw [appended.eventsOf]
  split
  next => rw [foldl_append, foldl_cons, foldl_nil]
  next => rfl

/-- The row a write leaves has the first coordinate of the row it found. -/
theorem Appended.before (appended : Appended store next caseId event)
    (found : next.cases.get? other = some later) :
    ∃ row, store.cases.get? other = some row ∧ later.caseId = row.caseId ∧
      later.initialKnowledgeRevision = row.initialKnowledgeRevision ∧
      (caseId ≠ other → later = row) := by
  rw [appended.cases] at found
  split at found
  next same =>
    obtain ⟨row, rowFound, rfl⟩ := map_eq_some_iff.1 found
    exact ⟨row, rowFound, rfl, rfl, fun different => absurd same different⟩
  next => exact ⟨later, found, rfl, rfl, fun _ => rfl⟩

/-- A row that was there is still there. -/
theorem Appended.after (appended : Appended store next caseId event)
    (found : store.cases.get? other = some row) :
    ∃ later, next.cases.get? other = some later := by
  rw [appended.cases, found]
  split
  · exact ⟨row.withEvent, rfl⟩
  · exact ⟨row, rfl⟩

theorem replayCoordinates_of_plain {coordinates : Coordinates}
    (plain : event.eventType.isCoordinate = false) :
    replayCoordinates coordinates event = coordinates := by
  unfold replayCoordinates
  split <;> first | rfl | simp_all [CaseStateEventType.isCoordinate]

/-- The event of a need changes the open needs by this need only, and leaves the
last perception alone. -/
theorem replayCoordinates_of_need {need : EvidenceNeedModel} (coordinates : Coordinates)
    (named : event.payload.needId = some need.needId)
    (status : needStatusAfter event.eventType = some need.status) :
    (∀ id, id ∈ (replayCoordinates coordinates event).openNeedIds ↔
        if need.needId = id then need.status = .open else id ∈ coordinates.openNeedIds) ∧
      (replayCoordinates coordinates event).lastWorldRevision = coordinates.lastWorldRevision ∧
      (replayCoordinates coordinates event).lastPerceptionAt = coordinates.lastPerceptionAt := by
  cases type : event.eventType <;> rw [type] at status <;> cases statusIs : need.status <;>
    rw [statusIs] at status <;> cases status
  · simp only [replayCoordinates, type, named]
    refine ⟨fun id => ?_, ?_, ?_⟩
    · split <;> split <;> simp_all [eq_comm]
    · split <;> rfl
    · split <;> rfl
  · simp only [replayCoordinates, type, named, and_self, and_true]
    intro id
    by_cases same : need.needId = id
    · simp [same]
    · rw [if_neg same, mem_filter]
      simp [Ne.symm same]

theorem perceptionsOf_insert
    (inserted : store.perceptions.insert? perception = some next.perceptions) (caseId : String) :
    next.perceptionsOf caseId =
      if perception.caseId = caseId then store.perceptionsOf caseId ++ [perception]
      else store.perceptionsOf caseId := by
  unfold CaseStore.perceptionsOf select
  rw [(insert?_eq_some inserted).1, filter_append]
  split
  next same => simp [same]
  next different => simp [different]

/-- What a write does to the rows the tables refer to. -/
theorem CoordinatesKept.foreign (kept : CoordinatesKept store)
    (appended : Appended store next caseId event) :
    (∀ id need, store.needs.get? id = some need →
        (∃ row, next.cases.get? need.caseId = some row) ∧
          (need.status = .open ∨ need.status = .resolved)) ∧
      ∀ perception ∈ store.perceptions.rows,
        ∃ row, next.cases.get? perception.caseId = some row := by
  constructor
  · intro id need found
    obtain ⟨⟨row, rowFound⟩, status⟩ := kept.needs id need found
    exact ⟨appended.after rowFound, status⟩
  · intro perception member
    obtain ⟨row, rowFound⟩ := kept.perceptions perception member
    exact appended.after rowFound

theorem CoordinatesKept.of_item (kept : CoordinatesKept store)
    (appended : Appended store next caseId event) (plain : event.eventType.isCoordinate = false)
    (needs : next.needs = store.needs) (perceptions : next.perceptions = store.perceptions) :
    CoordinatesKept next := by
  have samePerceptions : ∀ other, next.perceptionsOf other = store.perceptionsOf other := by
    intro other
    rw [CaseStore.perceptionsOf, perceptions]
    rfl
  have sameFold : ∀ other initial,
      loggedCoordinates next other initial = loggedCoordinates store other initial := by
    intro other initial
    rw [appended.loggedCoordinates, replayCoordinates_of_plain plain, ite_self]
  constructor
  case needs =>
    rw [needs]
    exact (kept.foreign appended).1
  case perceptions =>
    rw [perceptions]
    exact (kept.foreign appended).2
  case opened =>
    intro other later found needId
    obtain ⟨row, rowFound, -, initial, -⟩ := appended.before found
    rw [sameFold, initial, kept.opened other row rowFound, OpenNeed, OpenNeed, needs]
  case world =>
    intro other later found
    obtain ⟨row, rowFound, -, initial, -⟩ := appended.before found
    rw [sameFold, samePerceptions, initial, kept.world other row rowFound]
  case perceived =>
    intro other later found
    obtain ⟨row, rowFound, -, initial, -⟩ := appended.before found
    rw [sameFold, samePerceptions, initial, kept.perceived other row rowFound]

theorem needStatusAfter_open_or_resolved {type : CaseStateEventType}
    {status : EvidenceNeedStatus} (after : needStatusAfter type = some status) :
    status = .open ∨ status = .resolved := by
  cases type <;> cases after
  · exact .inl rfl
  · exact .inr rfl

section

variable (kept : CoordinatesKept store)

include kept

theorem CoordinatesKept.of_need {changed : EvidenceNeedModel}
    (appended : Appended store next caseId event)
    (named : event.payload.needId = some changed.needId)
    (status : needStatusAfter event.eventType = some changed.status)
    (ofCase : changed.caseId = caseId)
    (before : ∀ old, store.needs.get? changed.needId = some old → old.caseId = caseId)
    (needs : ∀ id, next.needs.get? id =
      if changed.needId = id then some changed else store.needs.get? id)
    (perceptions : next.perceptions = store.perceptions) : CoordinatesKept next := by
  have samePerceptions : ∀ other, next.perceptionsOf other = store.perceptionsOf other := by
    intro other
    rw [CaseStore.perceptionsOf, perceptions]
    rfl
  have folded := fun coordinates => replayCoordinates_of_need coordinates named status
  constructor
  case needs =>
    intro id need found
    rw [needs] at found
    split at found
    next =>
      cases found
      obtain ⟨row, rowFound, -⟩ := appended.row
      exact ⟨appended.after (ofCase ▸ rowFound), needStatusAfter_open_or_resolved status⟩
    next => exact (kept.foreign appended).1 id need found
  case perceptions =>
    rw [perceptions]
    exact (kept.foreign appended).2
  case opened =>
    intro other later found needId
    obtain ⟨row, rowFound, -, initial, -⟩ := appended.before found
    have old := kept.opened other row rowFound needId
    rw [appended.loggedCoordinates, initial, OpenNeed, needs]
    by_cases same : caseId = other
    · rw [if_pos same, (folded _).1]
      by_cases this : changed.needId = needId
      · rw [if_pos this, if_pos this]
        constructor
        · intro isOpen
          exact ⟨changed, rfl, ofCase.trans same, isOpen⟩
        · rintro ⟨need, written, -, isOpen⟩
          cases written
          exact isOpen
      · rw [if_neg this, if_neg this]
        exact old
    · rw [if_neg same, old]
      by_cases this : changed.needId = needId
      · -- the need is another case's, before and after
        rw [if_pos this]
        constructor
        · rintro ⟨need, needFound, needCase, -⟩
          rw [← this] at needFound
          exact absurd ((before need needFound).symm.trans needCase) same
        · rintro ⟨need, written, needCase, -⟩
          cases written
          exact absurd (ofCase.symm.trans needCase) same
      · rw [if_neg this]
        rfl
  case world =>
    intro other later found
    obtain ⟨row, rowFound, -, initial, -⟩ := appended.before found
    rw [appended.loggedCoordinates, samePerceptions, initial, ← kept.world other row rowFound]
    split
    · exact (folded _).2.1
    · rfl
  case perceived =>
    intro other later found
    obtain ⟨row, rowFound, -, initial, -⟩ := appended.before found
    rw [appended.loggedCoordinates, samePerceptions, initial, ← kept.perceived other row rowFound]
    split
    · exact (folded _).2.2
    · rfl

theorem CoordinatesKept.of_perception
    (appended : Appended store next caseId event) (type : event.eventType = .perceptionRecorded)
    (world : event.payload.worldRevision = some perception.worldRevision)
    (perceived : event.payload.perceivedAt = some perception.finishedAt)
    (ofCase : perception.caseId = caseId) (needs : next.needs = store.needs)
    (inserted : store.perceptions.insert? perception = some next.perceptions) :
    CoordinatesKept next := by
  have replayed : ∀ coordinates, replayCoordinates coordinates event =
      { coordinates with lastWorldRevision := some perception.worldRevision
                         lastPerceptionAt := some perception.finishedAt } := by
    intro coordinates
    simp only [replayCoordinates, type, world, perceived, some_or]
  constructor
  case needs =>
    rw [needs]
    exact (kept.foreign appended).1
  case perceptions =>
    intro other member
    rw [(insert?_eq_some inserted).1, mem_append, mem_singleton] at member
    rcases member with old | rfl
    · exact (kept.foreign appended).2 other old
    · obtain ⟨row, rowFound, -⟩ := appended.row
      exact appended.after (ofCase ▸ rowFound)
  case opened =>
    intro other later found needId
    obtain ⟨row, rowFound, -, initial, -⟩ := appended.before found
    rw [appended.loggedCoordinates, initial, OpenNeed, needs, replayed]
    have old := kept.opened other row rowFound needId
    split <;> exact old
  case world =>
    intro other later found
    obtain ⟨row, rowFound, -, initial, -⟩ := appended.before found
    rw [appended.loggedCoordinates, initial, perceptionsOf_insert inserted, ofCase, replayed]
    split
    · simp
    · exact kept.world other row rowFound
  case perceived =>
    intro other later found
    obtain ⟨row, rowFound, -, initial, -⟩ := appended.before found
    rw [appended.loggedCoordinates, initial, perceptionsOf_insert inserted, ofCase, replayed]
    split
    · simp
    · exact kept.perceived other row rowFound

theorem CoordinatesKept.write
    (write : Write recording caseId store next) :
    CoordinatesKept next := by
  cases write with
  | item appended plain _ needs perceptions => exact kept.of_item appended plain needs perceptions
  | need _ appended named status ofCase before needs perceptions =>
      exact kept.of_need appended named status ofCase before needs perceptions
  | perception _ _ appended type world perceived _ _ _ ofCase needs inserted =>
      exact kept.of_perception appended type world perceived ofCase needs inserted

theorem CoordinatesKept.writes
    (writes : Writes recording caseId store next) :
    CoordinatesKept next := by
  induction writes with
  | refl => exact kept
  | tail _ write ih => exact ih.write write

/-- Nothing refers to a case that does not exist. -/
theorem CoordinatesKept.absent (log : CaseLogKept store)
    (absent : store.cases.get? caseId = none) :
    (∀ initial, loggedCoordinates store caseId initial = ⟨[], initial, none⟩) ∧
      (∀ needId, ¬ OpenNeed store caseId needId) ∧ store.perceptionsOf caseId = [] := by
  refine ⟨fun initial => ?_, ?_, ?_⟩
  · have noEvents : store.eventsOf caseId = [] := by
      rw [eq_nil_iff_forall_not_mem]
      intro event member
      obtain ⟨listed, ofCase⟩ := mem_caseEventsOf.1 member
      obtain ⟨earlier, earlierFound⟩ := log.ofCase event listed
      rw [ofCase, absent] at earlierFound
      cases earlierFound
    rw [loggedCoordinates, noEvents]
    rfl
  · rintro needId ⟨need, needFound, ofCase, -⟩
    obtain ⟨⟨earlier, earlierFound⟩, -⟩ := kept.needs needId need needFound
    rw [ofCase, absent] at earlierFound
    cases earlierFound
  · rw [eq_nil_iff_forall_not_mem]
    intro perception member
    obtain ⟨listed, ofCase⟩ := mem_select.1 member
    obtain ⟨earlier, earlierFound⟩ := kept.perceptions perception listed
    rw [of_decide_eq_true ofCase, absent] at earlierFound
    cases earlierFound

theorem CoordinatesKept.created {cases : Table InvestigationCaseModel String (·.caseId)} (log : CaseLogKept store)
    (inserted : store.cases.insert? row = some cases) :
    CoordinatesKept { store with cases } := by
  have lookup := get?_insert? inserted
  obtain ⟨fold, noNeeds, noPerceptions⟩ := kept.absent log (insert?_eq_some inserted).2
  have present : ∀ {caseId}, (∃ old, store.cases.get? caseId = some old) →
      ∃ later, cases.get? caseId = some later := by
    rintro caseId ⟨old, found⟩
    rw [lookup, found]
    split
    · exact ⟨row, rfl⟩
    · exact ⟨old, rfl⟩
  constructor
  case needs =>
    intro id need found
    obtain ⟨row, status⟩ := kept.needs id need found
    exact ⟨present row, status⟩
  case perceptions =>
    intro perception member
    exact present (kept.perceptions perception member)
  case opened =>
    intro caseId later found needId
    rw [lookup] at found
    split at found
    next same =>
      subst same
      show needId ∈ (loggedCoordinates store row.caseId _).openNeedIds ↔
        OpenNeed store row.caseId needId
      rw [fold]
      exact iff_of_false not_mem_nil (noNeeds needId)
    next => exact kept.opened caseId later found needId
  case world =>
    intro caseId later found
    rw [lookup] at found
    split at found
    next same =>
      subst same
      show (loggedCoordinates store row.caseId _).lastWorldRevision =
        ((store.perceptionsOf row.caseId).getLast?.map _).or _
      rw [fold, noPerceptions]
      rfl
    next => exact kept.world caseId later found
  case perceived =>
    intro caseId later found
    rw [lookup] at found
    split at found
    next same =>
      subst same
      show (loggedCoordinates store row.caseId _).lastPerceptionAt =
        (store.perceptionsOf row.caseId).getLast?.map _
      rw [fold, noPerceptions]
      rfl
    next => exact kept.perceived caseId later found

end

/-- The rows before and after a lifecycle move. -/
theorem exists_before_updateCase {rewrite : InvestigationCaseModel → InvestigationCaseModel}
    {keeps : ∀ row, (rewrite row).caseId = row.caseId} (same : ∀ row, SameCase row (rewrite row))
    (found : (store.updateCase caseId rewrite keeps).cases.get? other = some later) :
    ∃ row, store.cases.get? other = some row ∧ SameCase row later := by
  rw [updateCase, get?_update] at found
  split at found
  next =>
    obtain ⟨row, rowFound, rfl⟩ := map_eq_some_iff.1 found
    exact ⟨row, rowFound, same row⟩
  next => exact ⟨later, found, rfl, rfl, rfl, rfl, rfl⟩

theorem CoordinatesKept.moved (caseId : String)
    (rewrite : InvestigationCaseModel → InvestigationCaseModel)
    (keeps : ∀ row, (rewrite row).caseId = row.caseId) (same : ∀ row, SameCase row (rewrite row))
    (kept : CoordinatesKept store) : CoordinatesKept (store.updateCase caseId rewrite keeps) := by
  have present : ∀ {other}, (∃ old, store.cases.get? other = some old) →
      ∃ later, (store.updateCase caseId rewrite keeps).cases.get? other = some later := by
    rintro other ⟨old, found⟩
    rw [updateCase, get?_update, found]
    split
    · exact ⟨rewrite old, rfl⟩
    · exact ⟨old, rfl⟩
  constructor
  case needs =>
    intro id need found
    obtain ⟨row, status⟩ := kept.needs id need found
    exact ⟨present row, status⟩
  case perceptions =>
    intro perception member
    exact present (kept.perceptions perception member)
  case opened =>
    intro other later found needId
    obtain ⟨row, rowFound, same⟩ := exists_before_updateCase same found
    rw [same.initial]
    exact kept.opened other row rowFound needId
  case world =>
    intro other later found
    obtain ⟨row, rowFound, same⟩ := exists_before_updateCase same found
    rw [same.initial]
    exact kept.world other row rowFound
  case perceived =>
    intro other later found
    obtain ⟨row, rowFound, same⟩ := exists_before_updateCase same found
    rw [same.initial]
    exact kept.perceived other row rowFound

/-! ## The last perception -/

/-- The first perception finished before the second; of two that finished together
the second has the larger identifier, or has seen the same world. -/
def Precedes (first second : PerceptionEventModel) : Prop :=
  first.finishedAt < second.finishedAt ∨
    (first.finishedAt = second.finishedAt ∧
      (first.perceptionEventId ≤ second.perceptionEventId ∨
        first.worldRevision = second.worldRevision))

/-- The perceptions of each case have been recorded in the order in which they
finished. -/
def RecordedInOrder (store : CaseStore) : Prop :=
  ∀ caseId, (store.perceptionsOf caseId).Pairwise Precedes

instance finishedLaterTotal : Std.Total FinishedLater where
  total first second := by
    rcases lt_trichotomy first.finishedAt second.finishedAt with less | equal | more
    · exact .inr (.inl less)
    · rcases le_total first.perceptionEventId second.perceptionEventId with below | above
      · exact .inr (.inr ⟨equal.symm, below⟩)
      · exact .inl (.inr ⟨equal, above⟩)
    · exact .inl (.inl more)

instance finishedLaterTrans : IsTrans PerceptionEventModel FinishedLater where
  trans first second third := by
    rintro (later | ⟨same, above⟩) (more | ⟨equal, beyond⟩)
    · exact .inl (more.trans later)
    · exact .inl (by rw [← equal]; exact later)
    · exact .inl (by rw [same]; exact more)
    · exact .inr ⟨same.trans equal, beyond.trans above⟩

/-- In order, the perception that finished last has the coordinates of the one
recorded last. -/
theorem latestPerception_of_inOrder (ordered : RecordedInOrder store) (caseId : String) :
    (latestPerception store caseId).map (·.worldRevision) =
        (store.perceptionsOf caseId).getLast?.map (·.worldRevision) ∧
      (latestPerception store caseId).map (·.finishedAt) =
        (store.perceptionsOf caseId).getLast?.map (·.finishedAt) := by
  have inOrder := ordered caseId
  have unique : ∀ first ∈ store.perceptionsOf caseId, ∀ second ∈ store.perceptionsOf caseId,
      first.perceptionEventId = second.perceptionEventId → first = second := by
    intro first firstMember second secondMember same
    exact store.perceptions.eq_of_key (mem_select.1 firstMember).1
      (mem_select.1 secondMember).1 same
  unfold latestPerception
  rcases List.eq_nil_or_concat (store.perceptionsOf caseId) with empty | ⟨earlier, last, split⟩
  · rw [empty]
    exact ⟨rfl, rfl⟩
  · rw [List.concat_eq_append] at split
    rw [split] at inOrder unique ⊢
    have sorted := pairwise_insertionSort FinishedLater (earlier ++ [last])
    cases sortedIs : (earlier ++ [last]).insertionSort FinishedLater with
    | nil =>
        have := List.length_insertionSort FinishedLater (earlier ++ [last])
        simp [sortedIs] at this
    | cons head rest =>
        rw [sortedIs] at sorted
        have member : head ∈ earlier ++ [last] := by
          rw [← mem_insertionSort FinishedLater, sortedIs]
          exact mem_cons_self
        have lastMember : last ∈ earlier ++ [last] :=
          mem_append_right _ (mem_singleton_self last)
        have listed : last ∈ head :: rest := by
          rw [← sortedIs, mem_insertionSort]
          exact lastMember
        rw [List.head?_cons, List.getLast?_concat, map_some, map_some,
          map_some, map_some, some.injEq, some.injEq]
        rcases mem_cons.1 listed with rfl | behind
        · exact ⟨rfl, rfl⟩
        rcases mem_append.1 member with before | same
        · have later : FinishedLater head last := List.rel_of_pairwise_cons sorted behind
          have precedes : Precedes head last :=
            (pairwise_append.1 inOrder).2.2 head before last (mem_singleton_self last)
          rcases precedes with less | ⟨equal, below | sameWorld⟩
          · rcases later with more | ⟨equal, -⟩
            · exact absurd more (lt_asymm less)
            · exact absurd equal (ne_of_lt less)
          · rcases later with more | ⟨-, above⟩
            · exact absurd equal.symm (ne_of_lt more)
            · rw [unique head member last lastMember (le_antisymm below above)]
              exact ⟨rfl, rfl⟩
          · exact ⟨sameWorld, equal⟩
        · rw [mem_singleton.1 same]
          exact ⟨rfl, rfl⟩

/-! ## The stored projections -/

theorem mem_openNeedIds (kept : CoordinatesKept store) {needId : String} :
    needId ∈ openNeedIds store caseId ↔ OpenNeed store caseId needId := by
  unfold openNeedIds OpenNeed
  simp only [mem_map, mem_insertionSort, mem_filter, decide_eq_true_eq]
  constructor
  · rintro ⟨need, ⟨listed, status⟩, rfl⟩
    obtain ⟨member, ofCase⟩ := mem_select.1 listed
    have found := get?_of_mem member
    refine ⟨need, found, of_decide_eq_true ofCase, ?_⟩
    rcases status with isOpen | blocked
    · exact isOpen
    · -- no call blocks a need
      rcases (kept.needs _ _ found).2 with other | other <;> rw [blocked] at other <;> cases other
  · rintro ⟨need, found, ofCase, isOpen⟩
    obtain ⟨member, named⟩ := get?_eq_some.1 found
    exact ⟨need, ⟨mem_select.2 ⟨member, decide_eq_true ofCase⟩, .inl isOpen⟩, named⟩

/-- A projection that is written now agrees with the log. -/
theorem agree_projectedState (log : CaseLogKept store) (kept : CoordinatesKept store)
    (ordered : RecordedInOrder store) (found : store.cases.get? caseId = some row) (now : ℤ) :
    Agree (projectedState store row now) (replayedState store row) := by
  have ofCase : row.caseId = caseId := key_of_get? found
  subst ofCase
  obtain ⟨world, perceived⟩ := latestPerception_of_inOrder ordered row.caseId
  unfold projectedState replayedState
  rw [log.orderedEvents found]
  constructor
  case confirmed | tentative | conflicts | unknowns | hypotheses | decision => rfl
  case needs =>
    intro needId
    exact (mem_openNeedIds kept).trans (kept.opened row.caseId row found needId).symm
  case world =>
    refine Eq.trans ?_ (kept.world row.caseId row found).symm
    rw [← world]
    dsimp only
    cases latestPerception store row.caseId <;> rfl
  case perceived => exact perceived.trans (kept.perceived row.caseId row found).symm

/-- Writes leave the projections, and the rows and logs of other cases. -/
theorem Writes.frame (writes : Writes recording caseId store next) :
    next.currents = store.currents ∧
      (∀ other, caseId ≠ other → next.eventsOf other = store.eventsOf other ∧
        next.cases.get? other = store.cases.get? other) ∧
      ∀ other row, store.cases.get? other = some row → ∃ later, next.cases.get? other = some later := by
  induction writes with
  | refl => exact ⟨rfl, fun other _ => ⟨rfl, rfl⟩, fun other row found => ⟨row, found⟩⟩
  | tail _ write ih =>
      obtain ⟨event, appended, -⟩ := write.appended
      obtain ⟨currents, others, present⟩ := ih
      refine ⟨appended.currents.trans currents, fun other different => ?_, fun other row found => ?_⟩
      · obtain ⟨events, rows⟩ := others other different
        rw [appended.eventsOf, appended.cases, if_neg different, if_neg different]
        exact ⟨events, rows⟩
      · obtain ⟨later, laterFound⟩ := present other row found
        exact appended.after laterFound

/-- **The projections of a store.** -/
structure ProjectionKept (store : CaseStore) : Prop where
  log : CaseLogKept store
  logged : PerceptionsLogged store
  coordinates : CoordinatesKept store
  ordered : RecordedInOrder store
  /-- A projection belongs to a case (a foreign key). -/
  ofCase : ∀ caseId current, store.currents.get? caseId = some current →
    ∃ row, store.cases.get? caseId = some row
  shown : ∀ caseId row current, store.cases.get? caseId = some row →
    store.currents.get? caseId = some current → Agree current (replayedState store row)

theorem ProjectionKept.empty : ProjectionKept CaseStore.empty where
  log := CaseLogKept.empty
  logged := PerceptionsLogged.empty
  coordinates := CoordinatesKept.empty
  ordered _ := List.Pairwise.nil
  ofCase caseId current found := by simp [CaseStore.empty] at found
  shown caseId row current found := by simp [CaseStore.empty] at found

/-- Rebuilding after writes shows what the log says. -/
theorem ProjectionKept.rebuilt {middle : CaseStore} (kept : ProjectionKept store)
    (writes : Writes recording caseId store middle) (ordered : RecordedInOrder middle)
    (found : middle.cases.get? caseId = some row) (now : ℤ) :
    ProjectionKept (writeCurrent middle row now).2 := by
  have ofCase : row.caseId = caseId := key_of_get? found
  have log := kept.log.writes writes
  have coordinates := kept.coordinates.writes writes
  obtain ⟨currents, others, present⟩ := writes.frame
  have lookup : ∀ other, (writeCurrent middle row now).2.currents.get? other =
      if caseId = other then some (projectedState middle row now)
      else store.currents.get? other := by
    intro other
    rw [writeCurrent, get?_put, currents, ← ofCase]
    rfl
  constructor
  case log => exact { log with }
  case logged => exact { kept.logged.writes writes with }
  case coordinates => exact { coordinates with }
  case ordered => exact ordered
  case ofCase =>
    intro other current shown
    rw [lookup] at shown
    split at shown
    next same => exact ⟨row, same ▸ found⟩
    next =>
      obtain ⟨earlier, earlierFound⟩ := kept.ofCase other current shown
      exact present other earlier earlierFound
  case shown =>
    intro other later current laterFound shown
    replace laterFound : middle.cases.get? other = some later := laterFound
    rw [lookup] at shown
    show Agree current (replayedState middle later)
    split at shown
    next same =>
      cases shown
      subst same
      obtain rfl := mem_unique laterFound found
      exact agree_projectedState log coordinates ordered laterFound now
    next different =>
      obtain ⟨events, rows⟩ := others other different
      rw [rows] at laterFound
      have named : later.caseId = other := key_of_get? laterFound
      exact (kept.shown other later current laterFound shown).frame rfl rfl (named ▸ events)

/-- A call that records nothing leaves the perceptions. -/
theorem Writes.perceptions (writes : Writes false caseId store next) :
    next.perceptions = store.perceptions := by
  induction writes with
  | refl => rfl
  | tail _ write ih =>
      cases write with
      | item _ _ _ _ perceptions => exact perceptions.trans ih
      | need _ _ _ _ _ _ _ perceptions => exact perceptions.trans ih
      | perception _ records => cases records

theorem ProjectionKept.change (kept : ProjectionKept store) (change : Change false store next) :
    ProjectionKept next := by
  have log := kept.log.change change
  have logged := kept.logged.change change
  cases change with
  | @created row cases new inserted =>
      refine ⟨log, logged, kept.coordinates.created kept.log inserted, kept.ordered, ?_, ?_⟩
      · intro caseId current shown
        obtain ⟨earlier, found⟩ := kept.ofCase caseId current shown
        rw [get?_insert? inserted, found]
        split
        · exact ⟨row, rfl⟩
        · exact ⟨earlier, rfl⟩
      · intro caseId later current found shown
        rw [get?_insert? inserted] at found
        split at found
        next same =>
          -- a new case has no projection
          obtain ⟨earlier, earlierFound⟩ := kept.ofCase caseId current shown
          rw [← same, (insert?_eq_some inserted).2] at earlierFound
          cases earlierFound
        next => exact kept.shown caseId later current found shown
  | moved caseId rewrite keeps same =>
      refine ⟨log, logged, kept.coordinates.moved caseId rewrite keeps same, kept.ordered, ?_, ?_⟩
      · intro other current shown
        obtain ⟨earlier, found⟩ := kept.ofCase other current shown
        rw [updateCase, get?_update, found]
        split
        · exact ⟨rewrite earlier, rfl⟩
        · exact ⟨earlier, rfl⟩
      · intro other later current found shown
        obtain ⟨row, rowFound, same⟩ := exists_before_updateCase same found
        exact (kept.shown other row current rowFound shown).frame same.caseId same.initial rfl
  | @written caseId middle row writes found now =>
      refine kept.rebuilt writes (fun other => ?_) found now
      rw [CaseStore.perceptionsOf, writes.perceptions]
      exact kept.ordered other

theorem ProjectionKept.changes (kept : ProjectionKept store) (changes : Changes false store next) :
    ProjectionKept next := by
  induction changes with
  | refl => exact kept
  | tail _ change ih => exact ih.change change

/-! ## Recording in order -/

/-- **The condition on a call**: a perception that is not recorded yet finishes
after the perceptions of its case that are. -/
def InOrder (store : CaseStore) : CaseOp → Prop
  | .recordPerception knowledge call perceptionEventId _ _ =>
      recordedPerception? store call.taskRunId call.request.requestId = none →
        ∀ caseId ∈ call.run.bind (·.caseId), ∀ prior ∈ store.perceptionsOf caseId,
          Precedes prior (newPerception call caseId perceptionEventId
            (currentKnowledgeRevision knowledge))
  | .create .. | .move .. | .getState .. | .rebuild .. | .openNeed .. | .reopenNeed ..
  | .applyPatch .. | .commitDecision .. | .processChange .. => True

theorem ProjectionKept.step {op : CaseOp} {answer : CaseAnswer} (kept : ProjectionKept store)
    (inOrder : InOrder store op) (ok : caseService op store = .ok (answer, next)) :
    ProjectionKept next := by
  cases records : op.records with
  | false =>
      have changes := changes_of_ok kept.logged ok
      rw [records] at changes
      exact kept.changes changes
  | true =>
      cases op with
      | recordPerception knowledge call perceptionEventId eventIds now =>
          obtain ⟨⟨result, last⟩, called, ok⟩ := bind_eq_ok.1 ok
          cases ok
          rcases recordPerception_ok kept.logged called with
            changes | ⟨caseId, middle, state, new, write, rebuilt, inserted⟩
          · exact kept.changes changes
          · obtain ⟨row, found, -, rfl⟩ := rebuildState_ok rebuilt
            refine kept.rebuilt (.single write) (fun other => ?_) found now
            rw [perceptionsOf_insert inserted]
            split
            next same =>
              replace same : caseId = other := same
              subst same
              rw [pairwise_append]
              refine ⟨kept.ordered caseId, List.pairwise_singleton _ _, ?_⟩
              intro prior priorMember last lastMember
              rw [mem_singleton.1 lastMember]
              exact inOrder new.fresh caseId new.ofRun prior priorMember
            next => exact kept.ordered other
      | create | move | getState | rebuild | openNeed | reopenNeed | applyPatch | commitDecision
      | processChange => cases records

/-- **The projection refines the log.**  After every sequence of calls in which
each new perception finishes after those of its case, `get_state` and
`get_state_at_revision` at the current revision both answer for every case, and
their answers agree. -/
theorem projection_agrees (ops : List CaseOp)
    (inOrder : Along caseService InOrder CaseStore.empty ops) (caseId : String)
    (row : InvestigationCaseModel) (found : (caseStoreAfter ops).cases.get? caseId = some row)
    (now : ℤ) :
    ∃ state next replayed, getState (caseStoreAfter ops) caseId now = .ok (state, next) ∧
      getStateAtRevision (caseStoreAfter ops) caseId row.currentRevision = .ok replayed ∧
      Agree state replayed := by
  have kept : ProjectionKept (caseStoreAfter ops) :=
    run_invariant_along (fun _ _ _ _ kept inOrder answered => kept.step inOrder answered)
      ProjectionKept.empty ops inOrder
  have replayed := getStateAtRevision_current kept.log found
  have read : ∃ state next, getState (caseStoreAfter ops) caseId now = .ok (state, next) ∧
      Agree state (replayedState (caseStoreAfter ops) row) := by
    cases present : (caseStoreAfter ops).currents.get? caseId with
    | some current =>
        refine ⟨current, caseStoreAfter ops, ?_, kept.shown caseId row current found present⟩
        rw [getState, getCase, found, present]
        rfl
    | none =>
        have ofCase : row.caseId = caseId := Table.key_of_get? found
        refine ⟨projectedState (caseStoreAfter ops) row now,
          (writeCurrent (caseStoreAfter ops) row now).2, ?_,
          agree_projectedState kept.log kept.coordinates kept.ordered found now⟩
        rw [getState, getCase, found, present]
        simp only [fetch, ok_bind, rebuildCurrent, ofCase, present]
        rfl
  obtain ⟨state, next, answered, agree⟩ := read
  exact ⟨state, next, _, answered, replayed, agree⟩

/-- The task run of an investigation of `case-1`. -/
def investigationRun : TaskRuntime.TaskRunModel where
  runId := "run-1"
  taskContractVersionId := "contract-version-1"
  taskContractId := "contract-1"
  taskContractRevision := 1
  contextManifestVersionId := "context-version-1"
  contextId := "context-1"
  contextRevision := 1
  caseId := some "case-1"
  parentRunId := none
  roleId := "investigation"
  roleVersion := "1"
  status := .running
  baseContextRevision := 1
  executionEnvelopeRef := "execution:run-1"
  createdAt := 0
  updatedAt := 0

/-- One perception of `case-1`. -/
def perceptionAt (name : String) (finishedAt : ℤ) : CaseOp :=
  .recordPerception .empty
    { taskRunId := "run-1", run := some investigationRun, request := { requestId := name },
      plan := { requestId := name }, percept := { perceptId := name, requestId := name },
      startedAt := 0, finishedAt }
    name (fun _ revision => name ++ ":" ++ toString revision) 10

def twoPerceptions (first second : ℤ) : List CaseOp :=
  [ .create "case-1" "signature" [] "goal" none 0, perceptionAt "percept-1" first,
    perceptionAt "percept-2" second ]

/-- Both perceptions are recorded, and the readings agree on the second. -/
theorem projection_agrees_twice :
    ∃ row, (caseStoreAfter (twoPerceptions 3 5)).cases.get? "case-1" = some row ∧
      row.currentRevision = 2 ∧
      ∃ state next replayed,
        getState (caseStoreAfter (twoPerceptions 3 5)) "case-1" 20 = .ok (state, next) ∧
        getStateAtRevision (caseStoreAfter (twoPerceptions 3 5)) "case-1" row.currentRevision =
          .ok replayed ∧ Agree state replayed := by
  have inOrder : Along caseService InOrder CaseStore.empty (twoPerceptions 3 5) := by
    refine ⟨trivial, ?_, ?_, trivial⟩
    · rintro - caseId - prior member
      have none : (transact caseService CaseStore.empty
          (.create "case-1" "signature" [] "goal" none 0)).perceptionsOf caseId = [] := rfl
      rw [none] at member
      cases member
    · rintro - caseId - prior member
      have finished : ∀ perception ∈ (caseStoreAfter
          [ .create "case-1" "signature" [] "goal" none 0,
            perceptionAt "percept-1" 3 ]).perceptions.rows, perception.finishedAt = 3 := by
        decide +kernel
      have first : prior.finishedAt = 3 := finished prior (Table.mem_select.1 member).1
      refine .inl ?_
      rw [first]
      show (3 : ℤ) < 5
      decide
  have stored : ((caseStoreAfter (twoPerceptions 3 5)).cases.get? "case-1").map
      (·.currentRevision) = some 2 := by
    decide +kernel
  obtain ⟨row, found, revision⟩ := map_eq_some_iff.1 stored
  exact ⟨row, found, revision, projection_agrees (twoPerceptions 3 5) inOrder "case-1" row found 20⟩

/-- The last perception of the two readings, when both answer. -/
def lastPerceptions (store : CaseStore) (caseId : String) (now : ℤ) :
    Except Raised (Option ℤ × Option ℤ) := do
  let row ← getCase store caseId
  let (state, _) ← getState store caseId now
  let replayed ← getStateAtRevision store caseId row.currentRevision
  return (state.lastPerceptionAt, replayed.lastPerceptionAt)

/-- **The readings differ**: a perception that finished at 3 is recorded after one
that finished at 5, and the log shows the first where the projection shows the
second. -/
theorem projection_disagrees :
    ¬ ∀ ops caseId row, (caseStoreAfter ops).cases.get? caseId = some row → ∀ now,
      ∃ state next replayed, getState (caseStoreAfter ops) caseId now = .ok (state, next) ∧
        getStateAtRevision (caseStoreAfter ops) caseId row.currentRevision = .ok replayed ∧
        Agree state replayed := by
  intro agrees
  have readings : (lastPerceptions (caseStoreAfter (twoPerceptions 5 3)) "case-1" 20).toOption =
      some (some 5, some 3) := by
    decide +kernel
  rw [toOption_eq_some] at readings
  obtain ⟨row, found, readings⟩ := fetch_bind_eq_ok.1 readings
  obtain ⟨state, next, replayed, answered, rebuilt, agree⟩ :=
    agrees (twoPerceptions 5 3) "case-1" row found 20
  rw [answered, rebuilt] at readings
  have shown : state.lastPerceptionAt = some 5 ∧ replayed.lastPerceptionAt = some 3 := by
    simpa [pure, Except.pure] using readings
  have same := agree.perceived
  rw [shown.1, shown.2] at same
  cases same

end SecFusion.Investigation
