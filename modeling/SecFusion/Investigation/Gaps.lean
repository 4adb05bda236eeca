import SecFusion.Investigation.Parking
import SecFusion.Investigation.Projection

/-!
# What a case has left open

The unknowns of a case and its open needs, as `get_state` reads them from the
projection and as `get_state_at_revision` folds them from the log.  Unlike the
coordinates of the last perception, these two parts agree whatever has been recorded,
and in whatever order (`GapsKept`).

A log only grows, so what has been read of a case at one revision is what the log says
at that revision for good (`ReadFrom`).
-/

namespace SecFusion.Investigation

open Foundations Intelligence TaskRuntime

variable {recording : Bool}

/-! ## The log up to a revision -/

/-- The events of a case up to a revision. -/
def loggedUntil (store : CaseStore) (caseId : String) (revision : ℕ) : List CaseStateEventModel :=
  (store.eventsOf caseId).filter fun event => event.caseRevision ≤ revision

/-- The unknowns that some events leave. -/
def unknownsOf (events : List CaseStateEventModel) : List InvestigationStateItem :=
  (replayLog events .unknowns).values

/-- The needs that some events leave open. -/
def needsLeftOpen (events : List CaseStateEventModel) : List String :=
  (events.foldl replayCoordinates ⟨[], none, none⟩).openNeedIds

/-- The needs do not depend on the other coordinates. -/
theorem openNeedIds_foldl (events : List CaseStateEventModel) {first second : Coordinates}
    (same : first.openNeedIds = second.openNeedIds) :
    (events.foldl replayCoordinates first).openNeedIds =
      (events.foldl replayCoordinates second).openNeedIds := by
  induction events generalizing first second with
  | nil => exact same
  | cons event rest ih =>
      refine ih ?_
      unfold replayCoordinates
      cases event.eventType <;> cases event.payload.needId <;> simp only [same]
      split <;> simp [same]

variable {store : CaseStore} {caseId written : String} {row : InvestigationCaseModel} {revision : ℕ}
  {event : CaseStateEventModel} {state : InvestigationState}

/-- The whole log is there at the current revision. -/
theorem CaseLogKept.until_current (kept : CaseLogKept store)
    (found : store.cases.get? caseId = some row) :
    loggedUntil store caseId row.currentRevision = store.eventsOf caseId := by
  unfold loggedUntil
  rw [filter_eq_self]
  intro event member
  have numbered : event.caseRevision ∈ (store.eventsOf caseId).map (·.caseRevision) :=
    mem_map_of_mem member
  rw [kept.revisions caseId row found, mem_range'_1] at numbered
  simp only [decide_eq_true_eq]
  omega

/-- The log is numbered from one to every revision it has reached. -/
theorem CaseLogKept.until_revisions (kept : CaseLogKept store)
    (found : store.cases.get? caseId = some row) (reached : revision ≤ row.currentRevision) :
    (loggedUntil store caseId revision).map (·.caseRevision) = range' 1 revision := by
  have mapped : (loggedUntil store caseId revision).map (·.caseRevision) =
      ((store.eventsOf caseId).map (·.caseRevision)).filter (· ≤ revision) := by
    rw [List.filter_map]
    rfl
  have split : range' 1 row.currentRevision =
      range' 1 revision ++ range' (1 + revision) (row.currentRevision - revision) := by
    rw [List.range'_append_1, Nat.add_sub_cancel' reached]
  rw [mapped, kept.revisions caseId row found, split, filter_append,
    filter_eq_self.2, filter_eq_nil_iff.2, append_nil]
  · intro number member
    rw [mem_range'_1] at member
    simp only [decide_eq_true_eq]
    omega
  · intro number member
    rw [mem_range'_1] at member
    simp only [decide_eq_true_eq]
    omega

/-- One more revision is one more event. -/
theorem CaseLogKept.until_succ (kept : CaseLogKept store)
    (found : store.cases.get? caseId = some row) (reached : revision + 1 ≤ row.currentRevision)
    (member : event ∈ store.eventsOf caseId) (numbered : event.caseRevision = revision + 1) :
    loggedUntil store caseId (revision + 1) = loggedUntil store caseId revision ++ [event] := by
  have whole := kept.until_revisions found reached
  have shorter : (loggedUntil store caseId (revision + 1)).filter
      (fun other => other.caseRevision ≤ revision) = loggedUntil store caseId revision := by
    unfold loggedUntil
    rw [List.filter_filter]
    refine filter_congr fun other _ => ?_
    rw [← Bool.decide_and, decide_eq_decide]
    omega
  have listed : event ∈ loggedUntil store caseId (revision + 1) :=
    mem_filter.2 ⟨member, decide_eq_true (le_of_eq numbered)⟩
  rcases List.eq_nil_or_concat (loggedUntil store caseId (revision + 1)) with
    nothing | ⟨before, last, split⟩
  · rw [nothing] at listed
    cases listed
  · rw [List.concat_eq_append] at split
    rw [split, map_append, List.range'_1_concat] at whole
    obtain ⟨earlier, ends⟩ := append_inj' whole rfl
    have lastRevision : last.caseRevision = revision + 1 := by
      have same : last.caseRevision = 1 + revision := by simpa using ends
      omega
    have below : ∀ other ∈ before, other.caseRevision ≤ revision := by
      intro other inside
      have mapped : other.caseRevision ∈ before.map (·.caseRevision) := mem_map_of_mem inside
      rw [earlier, mem_range'_1] at mapped
      omega
    have first : loggedUntil store caseId revision = before := by
      rw [← shorter, split, filter_append, filter_eq_self.2, filter_eq_nil_iff.2,
        append_nil]
      · intro other inside
        rw [mem_singleton.1 inside]
        simp [lastRevision]
      · intro other inside
        exact decide_eq_true (below other inside)
    have same : event = last := by
      rw [split, mem_append, mem_singleton] at listed
      refine listed.resolve_left fun inside => ?_
      have bound := below event inside
      omega
    rw [split, first, same]

/-- **A case is read at a revision** it has reached, and what is left open there is what
the events up to it leave open. -/
theorem getStateAtRevision_until (kept : CaseLogKept store)
    (found : store.cases.get? caseId = some row) (reached : revision ≤ row.currentRevision) :
    ∃ state, getStateAtRevision store caseId revision = .ok state ∧
      state.unknowns = unknownsOf (loggedUntil store caseId revision) ∧
      state.evidenceNeedIds = needsLeftOpen (loggedUntil store caseId revision) := by
  have range : 0 ≤ (revision : ℤ) ∧ (revision : ℤ) ≤ row.currentRevision :=
    ⟨Int.natCast_nonneg _, by exact_mod_cast reached⟩
  have events : (store.orderedEvents caseId).filter
      (fun event => (event.caseRevision : ℤ) ≤ revision) = loggedUntil store caseId revision := by
    rw [kept.orderedEvents found]
    simp only [Nat.cast_le]
    rfl
  have complete : 0 < (revision : ℤ) → (loggedUntil store caseId revision).getLast?.map
      (fun event => (event.caseRevision : ℤ)) = some (revision : ℤ) := by
    intro positive
    have last : (loggedUntil store caseId revision).getLast?.map (·.caseRevision) =
        some revision := by
      rw [← List.getLast?_map, kept.until_revisions found reached, List.getLast?_range']
      have positive : revision ≠ 0 := by omega
      simp only [positive, if_false]
      congr 1
      omega
    have cast := congrArg (Option.map (Nat.cast : ℕ → ℤ)) last
    simpa [Option.map_map, Function.comp_def] using cast
  rw [getStateAtRevision, getCase, found]
  simp only [fetch, ok_bind, events, require_of range, require_of complete]
  exact ⟨_, rfl, rfl, openNeedIds_foldl _ rfl⟩

/-! ## A log goes on -/

/-- **The log of a case goes on** from where it was. -/
structure Extends (caseId : String) (store next : CaseStore) : Prop where
  row : ∀ row, store.cases.get? caseId = some row → ∃ later,
    next.cases.get? caseId = some later ∧ row.currentRevision ≤ later.currentRevision ∧
      later.targetObjectIds = row.targetObjectIds
  log : ∀ row, store.cases.get? caseId = some row → ∀ revision ≤ row.currentRevision,
    loggedUntil next caseId revision = loggedUntil store caseId revision

variable {next : CaseStore}

theorem Extends.refl (caseId : String) (store : CaseStore) : Extends caseId store store :=
  ⟨fun row found => ⟨row, found, le_refl _, rfl⟩, fun _ _ _ _ => rfl⟩

theorem Extends.trans {middle : CaseStore} (left : Extends caseId store middle)
    (right : Extends caseId middle next) : Extends caseId store next := by
  constructor
  case row =>
    intro row found
    obtain ⟨between, betweenFound, bound, targets⟩ := left.row row found
    obtain ⟨later, laterFound, further, same⟩ := right.row between betweenFound
    exact ⟨later, laterFound, bound.trans further, same.trans targets⟩
  case log =>
    intro row found revision reached
    obtain ⟨between, betweenFound, bound, -⟩ := left.row row found
    rw [right.log between betweenFound revision (reached.trans bound),
      left.log row found revision reached]

theorem Extends.of_appended (appended : Appended store next written event) :
    Extends caseId store next := by
  obtain ⟨before, beforeFound, numbered, -⟩ := appended.row
  constructor
  case row =>
    intro row found
    rw [appended.cases, found]
    split
    · exact ⟨row.withEvent, rfl, Nat.le_succ _, rfl⟩
    · exact ⟨row, rfl, le_refl _, rfl⟩
  case log =>
    intro row found revision reached
    unfold loggedUntil
    rw [appended.eventsOf]
    split
    next same =>
      subst same
      obtain rfl := mem_unique found beforeFound
      have later : ¬ event.caseRevision ≤ revision := by omega
      rw [filter_append, List.filter_singleton]
      simp [later]
    next => rfl

theorem Extends.of_writes (writes : Writes recording written store next) :
    Extends caseId store next := by
  induction writes with
  | refl => exact .refl _ _
  | tail _ write ih =>
      obtain ⟨event, appended, -⟩ := write.appended
      exact ih.trans (.of_appended appended)

theorem Extends.of_change (change : Change recording store next) : Extends caseId store next := by
  cases change with
  | created new inserted =>
      exact ⟨fun row found => ⟨row, get?_of_insert? inserted found, le_refl _, rfl⟩,
        fun _ _ _ _ => rfl⟩
  | moved moved rewrite keeps same =>
      refine ⟨fun row found => ?_, fun _ _ _ _ => rfl⟩
      rw [updateCase, get?_update, found]
      split
      · exact ⟨rewrite row, rfl, le_of_eq (same row).revision.symm, (same row).targets⟩
      · exact ⟨row, rfl, le_refl _, rfl⟩
  | written writes =>
      have log : Extends caseId store _ := .of_writes writes
      exact ⟨log.row, log.log⟩

theorem Extends.of_changes (changes : Changes recording store next) :
    Extends caseId store next := by
  induction changes with
  | refl => exact .refl _ _
  | tail _ change ih => exact ih.trans (.of_change change)

/-- No event is ever taken from a log. -/
theorem Changes.events_subset (changes : Changes recording store next) :
    store.events.rows ⊆ next.events.rows := by
  have writes : ∀ {caseId : String} {first second : CaseStore},
      Writes recording caseId first second → first.events.rows ⊆ second.events.rows := by
    intro caseId first second writes
    induction writes with
    | refl => exact fun event member => member
    | tail _ write ih =>
        obtain ⟨event, appended, -⟩ := write.appended
        intro other member
        rw [appended.events]
        exact mem_append_left _ (ih member)
  induction changes with
  | refl => exact fun event member => member
  | tail _ change ih =>
      intro event member
      cases change with
      | created new inserted => exact ih member
      | moved moved rewrite keeps same => exact ih member
      | written written => exact writes written (ih member)

/-! ## What has been read -/

/-- **The state has been read from the case**, at the revision it carries. -/
structure ReadFrom (store : CaseStore) (state : InvestigationState) : Prop where
  row : ∃ row, store.cases.get? state.caseId = some row ∧
    state.caseRevision ≤ row.currentRevision ∧ row.targetObjectIds = state.targets
  unknowns : state.unknowns = unknownsOf (loggedUntil store state.caseId state.caseRevision)
  needs : ∀ needId, needId ∈ state.evidenceNeedIds ↔
    needId ∈ needsLeftOpen (loggedUntil store state.caseId state.caseRevision)

theorem ReadFrom.extends (read : ReadFrom store state) (goesOn : Extends state.caseId store next) :
    ReadFrom next state := by
  obtain ⟨row, found, reached, targets⟩ := read.row
  have same := goesOn.log row found state.caseRevision reached
  obtain ⟨later, laterFound, further, kept⟩ := goesOn.row row found
  exact ⟨⟨later, laterFound, reached.trans further, kept.trans targets⟩,
    by rw [same, read.unknowns], by rw [same]; exact read.needs⟩

/-- Nothing is left open in a case at a revision it has reached. -/
structure NothingLeftOpen (store : CaseStore) (caseId : String) (revision : ℕ) : Prop where
  row : ∃ row, store.cases.get? caseId = some row ∧ revision ≤ row.currentRevision
  unknowns : unknownsOf (loggedUntil store caseId revision) = []
  needs : needsLeftOpen (loggedUntil store caseId revision) = []

theorem NothingLeftOpen.extends (nothing : NothingLeftOpen store caseId revision)
    (goesOn : Extends caseId store next) : NothingLeftOpen next caseId revision := by
  obtain ⟨row, found, reached⟩ := nothing.row
  have same := goesOn.log row found revision reached
  obtain ⟨later, laterFound, further, -⟩ := goesOn.row row found
  exact ⟨⟨later, laterFound, reached.trans further⟩, by rw [same, nothing.unknowns],
    by rw [same, nothing.needs]⟩

theorem ReadFrom.nothingLeftOpen (read : ReadFrom store state) (known : state.unknowns = [])
    (met : state.evidenceNeedIds = []) :
    NothingLeftOpen store state.caseId state.caseRevision := by
  obtain ⟨row, found, reached, -⟩ := read.row
  refine ⟨⟨row, found, reached⟩, by rw [← read.unknowns, known], ?_⟩
  rw [eq_nil_iff_forall_not_mem]
  intro needId member
  have listed := (read.needs needId).2 member
  rw [met] at listed
  cases listed

/-- **A decision leaves nothing open** where nothing was. -/
theorem NothingLeftOpen.decided (kept : CaseLogKept store)
    (nothing : NothingLeftOpen store caseId event.baseCaseRevision)
    (member : event ∈ store.eventsOf caseId) (type : event.eventType = .decisionChanged) :
    NothingLeftOpen store caseId event.caseRevision := by
  obtain ⟨row, found, reached⟩ := nothing.row
  have numbered : event.caseRevision = event.baseCaseRevision + 1 :=
    (kept.bases event (mem_caseEventsOf.1 member).1).symm
  have bound : event.baseCaseRevision + 1 ≤ row.currentRevision := by
    have listed : event.caseRevision ∈ (store.eventsOf caseId).map (·.caseRevision) :=
      mem_map_of_mem member
    rw [kept.revisions caseId row found, mem_range'_1] at listed
    omega
  have events := kept.until_succ found bound member numbered
  rw [numbered]
  refine ⟨⟨row, found, bound⟩, ?_, ?_⟩
  · rw [events, ← nothing.unknowns, unknownsOf, unknownsOf, replayLog, foldl_append]
    show (replayEvent (replayLog _) event .unknowns).values = _
    unfold replayEvent
    rw [type]
    cases event.proposition <;> rfl
  · rw [events, ← nothing.needs, needsLeftOpen, needsLeftOpen, foldl_append]
    show (replayCoordinates _ event).openNeedIds = _
    unfold replayCoordinates
    rw [type]

def OpensNothing (event : CaseStateEventModel) : Prop :=
  event.eventType ≠ .unknownOpened ∧ event.eventType ≠ .evidenceNeedOpened

/-- A bucket from which an item is taken has no other items. -/
theorem values_pop_of_nil {bucket : Dict ItemKey InvestigationStateItem}
    (empty : bucket.values = []) (key : ItemKey) : (bucket.pop key).values = [] := by
  have none : bucket.entries = [] := by
    simpa [Dict.values] using empty
  simp [Dict.values, Dict.pop, none]

theorem unknowns_of_replay {buckets : Buckets} (empty : (buckets .unknowns).values = [])
    (closed : event.eventType ≠ .unknownOpened) :
    (replayEvent buckets event .unknowns).values = [] := by
  unfold replayEvent
  cases event.proposition with
  | none => exact empty
  | some proposition =>
      dsimp only
      cases type : event.eventType <;>
        simp_all [additions, removals, Bucket.isExclusive, popExclusive, update,
          values_pop_of_nil]

theorem needs_of_replay {coordinates : Coordinates} (empty : coordinates.openNeedIds = [])
    (closed : event.eventType ≠ .evidenceNeedOpened) :
    (replayCoordinates coordinates event).openNeedIds = [] := by
  unfold replayCoordinates
  cases type : event.eventType <;> cases named : event.payload.needId <;> simp_all

/-- **Nothing is left open** as long as nothing is opened. -/
theorem NothingLeftOpen.until_current (kept : CaseLogKept store)
    (found : store.cases.get? caseId = some row) (nothing : NothingLeftOpen store caseId revision)
    (quiet : ∀ event ∈ store.eventsOf caseId, revision < event.caseRevision → OpensNothing event) :
    NothingLeftOpen store caseId row.currentRevision := by
  obtain ⟨other, otherFound, reached⟩ := nothing.row
  obtain rfl := mem_unique otherFound found
  have further : ∀ later, revision ≤ later → later ≤ other.currentRevision →
      NothingLeftOpen store caseId later := by
    intro later least
    induction later, least using Nat.le_induction with
    | base => exact fun _ => nothing
    | succ later least ih =>
        intro bound
        obtain ⟨-, unknowns, needs⟩ := ih (Nat.le_of_succ_le bound)
        -- the log is numbered, so there is an event of the next revision
        have numbered : later + 1 ∈ (store.eventsOf caseId).map (·.caseRevision) := by
          rw [kept.revisions caseId other found, mem_range'_1]
          omega
        obtain ⟨event, member, same⟩ := mem_map.1 numbered
        obtain ⟨known, met⟩ := quiet event member (by omega)
        have events := kept.until_succ found bound member same
        refine ⟨⟨other, found, bound⟩, ?_, ?_⟩
        · rw [events, unknownsOf, replayLog, foldl_append]
          exact unknowns_of_replay unknowns known
        · rw [events, needsLeftOpen, foldl_append]
          exact needs_of_replay needs met
  exact further other.currentRevision reached le_rfl

/-! ## The projections -/

/-- The projection shows what is left open, by the log. -/
structure Shows (store : CaseStore) (row : InvestigationCaseModel) (state : InvestigationState) :
    Prop where
  targets : state.targets = row.targetObjectIds
  unknowns : state.unknowns = unknownsOf (store.eventsOf row.caseId)
  needs : ∀ needId, needId ∈ state.evidenceNeedIds ↔
    needId ∈ needsLeftOpen (store.eventsOf row.caseId)

theorem Shows.frame {later : InvestigationCaseModel} (shows : Shows store row state)
    (ofCase : later.caseId = row.caseId) (targets : later.targetObjectIds = row.targetObjectIds)
    (events : next.eventsOf row.caseId = store.eventsOf row.caseId) : Shows next later state := by
  obtain ⟨same, unknowns, needs⟩ := shows
  rw [← events, ← ofCase] at unknowns needs
  exact ⟨same.trans targets.symm, unknowns, needs⟩

/-- **The projections of a store**, as far as what is left open goes. -/
structure GapsKept (store : CaseStore) : Prop where
  log : CaseLogKept store
  logged : PerceptionsLogged store
  coordinates : CoordinatesKept store
  current : CurrentsAt store
  shown : ∀ caseId row current, store.cases.get? caseId = some row →
    store.currents.get? caseId = some current → Shows store row current

theorem GapsKept.empty : GapsKept CaseStore.empty where
  log := CaseLogKept.empty
  logged := PerceptionsLogged.empty
  coordinates := CoordinatesKept.empty
  current := CurrentsAt.empty
  shown caseId row current found := by simp [CaseStore.empty] at found

/-- A projection that is written now shows what the log leaves open. -/
theorem shows_projectedState (log : CaseLogKept store) (kept : CoordinatesKept store)
    (found : store.cases.get? caseId = some row) (now : ℤ) :
    Shows store row (projectedState store row now) := by
  have ofCase : row.caseId = caseId := key_of_get? found
  subst ofCase
  refine ⟨rfl, ?_, fun needId => ?_⟩
  · unfold projectedState
    rw [log.orderedEvents found]
    rfl
  · have same : (loggedCoordinates store row.caseId row.initialKnowledgeRevision).openNeedIds =
        needsLeftOpen (store.eventsOf row.caseId) := openNeedIds_foldl _ rfl
    rw [← same]
    exact (mem_openNeedIds kept).trans (kept.opened row.caseId row found needId).symm

theorem GapsKept.change (kept : GapsKept store) (change : Change recording store next) :
    GapsKept next := by
  have log := kept.log.change change
  have logged := kept.logged.change change
  have current := kept.current.change change
  cases change with
  | @created row cases new inserted =>
      refine ⟨log, logged, kept.coordinates.created kept.log inserted, current, ?_⟩
      intro caseId later shown found present
      rw [get?_insert? inserted] at found
      split at found
      next same =>
        -- a new case has no projection
        obtain ⟨earlier, earlierFound, -⟩ := kept.current caseId shown present
        rw [← same, (insert?_eq_some inserted).2] at earlierFound
        cases earlierFound
      next => exact (kept.shown caseId later shown found present).frame rfl rfl rfl
  | moved moved rewrite keeps same =>
      refine ⟨log, logged, kept.coordinates.moved moved rewrite keeps same, current, ?_⟩
      intro caseId later shown found present
      obtain ⟨row, rowFound, same⟩ := exists_before_updateCase same found
      exact (kept.shown caseId row shown rowFound present).frame same.caseId same.targets rfl
  | @written written middle row writes found now =>
      have coordinates := kept.coordinates.writes writes
      refine ⟨log, logged, { coordinates with }, current, ?_⟩
      have ofCase : row.caseId = written := key_of_get? found
      obtain ⟨currents, others, -⟩ := writes.frame
      intro caseId later shown laterFound present
      replace laterFound : middle.cases.get? caseId = some later := laterFound
      change (middle.currents.put (projectedState middle row now)).get? caseId = some shown
        at present
      rw [get?_put, currents] at present
      split at present
      next same =>
        cases present
        obtain rfl : written = caseId := ofCase.symm.trans same
        obtain rfl := mem_unique laterFound found
        exact (shows_projectedState (kept.log.writes writes) coordinates laterFound now).frame
          rfl rfl rfl
      next different =>
        have apart : written ≠ caseId := fun same => different (ofCase.trans same)
        obtain ⟨events, rows⟩ := others caseId apart
        rw [rows] at laterFound
        have named : later.caseId = caseId := key_of_get? laterFound
        exact (kept.shown caseId later shown laterFound present).frame rfl rfl (named ▸ events)

theorem GapsKept.changes (kept : GapsKept store) (changes : Changes recording store next) :
    GapsKept next := by
  induction changes with
  | refl => exact kept
  | tail _ change ih => exact ih.change change

/-- **A state that is read now** has been read from its case. -/
theorem GapsKept.getState (kept : GapsKept store) {now : ℤ}
    (ok : getState store caseId now = .ok (state, next)) :
    ∃ row, store.cases.get? caseId = some row ∧ state.caseId = caseId ∧
      state.caseRevision = row.currentRevision ∧ ReadFrom store state ∧
      Changes false store next ∧ next.cases = store.cases ∧ next.events = store.events := by
  have changes : Changes false store next := .of_getState ok
  have revision := kept.current.getState ok
  obtain ⟨row, found, stored⟩ := getState_ok ok
  obtain ⟨other, otherFound, revision⟩ := revision
  obtain rfl := mem_unique otherFound found
  have ofRow : other.caseId = caseId := key_of_get? found
  have shows : Shows store other state ∧ state.caseId = caseId ∧ next.cases = store.cases ∧
      next.events = store.events := by
    rcases stored with ⟨present, rfl⟩ | ⟨-, rfl, rfl⟩
    · exact ⟨kept.shown caseId other state found present, key_of_get? present, rfl,
        rfl⟩
    · exact ⟨shows_projectedState kept.log kept.coordinates found now, ofRow, rfl, rfl⟩
  obtain ⟨⟨targets, unknowns, needs⟩, named, cases, events⟩ := shows
  have whole : loggedUntil store state.caseId state.caseRevision = store.eventsOf other.caseId := by
    rw [named, revision, kept.log.until_current found, ofRow]
  refine ⟨other, found, named, revision, ⟨⟨other, ?_, le_of_eq revision, targets.symm⟩, ?_, ?_⟩,
    changes, cases, events⟩
  · rw [named]
    exact found
  · rw [whole]
    exact unknowns
  · rw [whole]
    exact needs

end SecFusion.Investigation
