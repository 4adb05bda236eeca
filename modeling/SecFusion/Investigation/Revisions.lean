import SecFusion.Investigation.Effects

/-!
# Revisions of a case

The log of a case is numbered from one to its current revision, whatever the
interleaving of the writers: every write allocates the next number and moves the
case to it (`CaseLogKept`).

A writer names the revision it has read.  A call that is not a repetition of an
earlier one is refused unless this is the current revision, and a commit moves
the case past it for good, so among the writers that hold one revision exactly
one commits.
-/

namespace SecFusion.Investigation

open Foundations Intelligence

variable {recording : Bool}

/-! ## The numbering -/

/-- What the log satisfies, whatever the case. -/
structure CaseLogKept (store : CaseStore) : Prop where
  revisions : ∀ caseId row, store.cases.get? caseId = some row →
    (store.eventsOf caseId).map (·.caseRevision) = range' 1 row.currentRevision
  bases : ∀ event ∈ store.events.rows, event.baseCaseRevision + 1 = event.caseRevision
  /-- An event belongs to a case (a foreign key). -/
  ofCase : ∀ event ∈ store.events.rows, ∃ row, store.cases.get? event.caseId = some row

theorem CaseLogKept.empty : CaseLogKept CaseStore.empty where
  revisions caseId row found := by
    simp [CaseStore.empty] at found
  bases event member := by cases member
  ofCase event member := by cases member

variable {store next : CaseStore} {caseId other : String} {event : CaseStateEventModel}
  {row : InvestigationCaseModel} {revision base : ℤ} {op : CaseOp}

theorem Appended.eventsOf (appended : Appended store next caseId event) (other : String) :
    next.eventsOf other =
      if caseId = other then store.eventsOf other ++ [event] else store.eventsOf other := by
  unfold CaseStore.eventsOf select
  rw [appended.events, filter_append]
  split
  next same => simp [appended.ofCase, same]
  next different => simp [appended.ofCase, different]

theorem mem_caseEventsOf :
    event ∈ store.eventsOf caseId ↔ event ∈ store.events.rows ∧ event.caseId = caseId := by
  simp [eventsOf]

/-- A new event takes the next number. -/
theorem CaseLogKept.appended (kept : CaseLogKept store)
    (appended : Appended store next caseId event) : CaseLogKept next := by
  obtain ⟨row, found, revision, base⟩ := appended.row
  constructor
  case revisions =>
    intro other later laterFound
    rw [appended.cases] at laterFound
    rw [appended.eventsOf]
    by_cases same : caseId = other
    · subst same
      rw [if_pos rfl, found] at laterFound
      cases laterFound
      rw [if_pos rfl, map_append, kept.revisions caseId row found, map_singleton,
        revision]
      show _ = range' 1 (row.currentRevision + 1)
      rw [List.range'_1_concat, add_comm 1]
    · rw [if_neg same] at laterFound ⊢
      exact kept.revisions other later laterFound
  case bases =>
    intro other member
    rw [appended.events, mem_append, mem_singleton] at member
    rcases member with old | rfl
    · exact kept.bases other old
    · rw [base, revision]
  case ofCase =>
    intro other member
    rw [appended.events, mem_append, mem_singleton] at member
    have present : ∃ earlier, store.cases.get? other.caseId = some earlier := by
      rcases member with old | rfl
      · exact kept.ofCase other old
      · rw [appended.ofCase]
        exact ⟨row, found⟩
    obtain ⟨earlier, earlierFound⟩ := present
    rw [appended.cases, earlierFound]
    split
    · exact ⟨earlier.withEvent, rfl⟩
    · exact ⟨earlier, rfl⟩

theorem CaseLogKept.writes (kept : CaseLogKept store) (writes : Writes recording caseId store next) :
    CaseLogKept next := by
  induction writes with
  | refl => exact kept
  | tail _ write ih =>
      obtain ⟨event, appended, -⟩ := write.appended
      exact ih.appended appended

/-- Rows may be rewritten and added without touching the log. -/
theorem CaseLogKept.change (kept : CaseLogKept store) (change : Change recording store next) :
    CaseLogKept next := by
  cases change with
  | @created row cases new inserted =>
      constructor
      case revisions =>
        intro caseId later found
        rw [get?_insert? inserted] at found
        split at found
        next same =>
          cases found
          have noEvents : store.eventsOf caseId = [] := by
            rw [eq_nil_iff_forall_not_mem]
            intro event member
            obtain ⟨listed, ofCase⟩ := mem_caseEventsOf.1 member
            obtain ⟨earlier, earlierFound⟩ := kept.ofCase event listed
            rw [ofCase, ← same, (insert?_eq_some inserted).2] at earlierFound
            cases earlierFound
          show (store.eventsOf caseId).map _ = _
          rw [noEvents, new]
          rfl
        next => exact kept.revisions caseId later found
      case bases => exact kept.bases
      case ofCase =>
        intro event member
        obtain ⟨earlier, found⟩ := kept.ofCase event member
        rw [get?_insert? inserted, found]
        split
        · exact ⟨row, rfl⟩
        · exact ⟨earlier, rfl⟩
  | moved caseId rewrite keeps same =>
      have lookup : ∀ other, (store.updateCase caseId rewrite keeps).cases.get? other =
          if caseId = other then (store.cases.get? other).map rewrite
          else store.cases.get? other :=
        get?_update store.cases caseId rewrite keeps
      constructor
      case revisions =>
        intro other later found
        rw [lookup] at found
        split at found
        next =>
          obtain ⟨earlier, earlierFound, rfl⟩ := map_eq_some_iff.1 found
          rw [(same earlier).revision]
          exact kept.revisions other earlier earlierFound
        next => exact kept.revisions other later found
      case bases => exact kept.bases
      case ofCase =>
        intro event member
        obtain ⟨earlier, found⟩ := kept.ofCase event member
        rw [lookup, found]
        split
        · exact ⟨rewrite earlier, rfl⟩
        · exact ⟨earlier, rfl⟩
  | written writes => exact { kept.writes writes with }

theorem caseLogKept_caseStoreAfter (ops : List CaseOp) : CaseLogKept (caseStoreAfter ops) :=
  caseStoreAfter_invariant CaseLogKept.empty (fun _ _ kept _ change => kept.change change) ops

/-- The query's ordering is the order of the log. -/
theorem CaseLogKept.orderedEvents (kept : CaseLogKept store)
    (found : store.cases.get? caseId = some row) :
    store.orderedEvents caseId = store.eventsOf caseId := by
  refine List.Pairwise.insertionSort_eq ?_
  have increasing : ((store.eventsOf caseId).map (·.caseRevision)).Pairwise (· ≤ ·) := by
    rw [kept.revisions caseId row found]
    exact (List.pairwise_lt_range' (s := 1) (n := row.currentRevision)).imp le_of_lt
  exact pairwise_map.1 increasing

/-! ## Revisions only grow -/

def ReachedRevision (store : CaseStore) (caseId : String) (revision : ℤ) : Prop :=
  ∃ row, store.cases.get? caseId = some row ∧ revision ≤ row.currentRevision

theorem ReachedRevision.appended (reached : ReachedRevision store other revision)
    (appended : Appended store next caseId event) : ReachedRevision next other revision := by
  obtain ⟨row, found, bound⟩ := reached
  rw [ReachedRevision, appended.cases, found]
  split
  · refine ⟨row.withEvent, rfl, bound.trans ?_⟩
    simp [InvestigationCaseModel.withEvent]
  · exact ⟨row, rfl, bound⟩

theorem ReachedRevision.writes (reached : ReachedRevision store other revision)
    (writes : Writes recording caseId store next) :
    ReachedRevision next other revision := by
  induction writes with
  | refl => exact reached
  | tail _ write ih =>
      obtain ⟨event, appended, -⟩ := write.appended
      exact ih.appended appended

theorem ReachedRevision.change (reached : ReachedRevision store caseId revision)
    (change : Change recording store next) :
    ReachedRevision next caseId revision := by
  cases change with
  | created _ inserted =>
      obtain ⟨row, found, bound⟩ := reached
      refine ⟨row, ?_, bound⟩
      rw [get?_insert? inserted]
      split
      next same =>
        rw [← same, (insert?_eq_some inserted).2] at found
        cases found
      next => exact found
  | moved other rewrite keeps same =>
      obtain ⟨row, found, bound⟩ := reached
      rw [ReachedRevision, updateCase, get?_update, found]
      split
      · refine ⟨rewrite row, rfl, ?_⟩
        rw [(same row).revision]
        exact bound
      · exact ⟨row, rfl, bound⟩
  | written writes =>
      obtain ⟨row, found, bound⟩ := reached.writes writes
      exact ⟨row, found, bound⟩

theorem ReachedRevision.changes (reached : ReachedRevision store caseId revision)
    (changes : Changes recording store next) :
    ReachedRevision next caseId revision := by
  induction changes with
  | refl => exact reached
  | tail _ change ih => exact ih.change change

theorem ReachedRevision.run (logged : PerceptionsLogged store)
    (reached : ReachedRevision store caseId revision) (ops : List CaseOp) :
    ReachedRevision (run caseService store ops) caseId revision := by
  have step : ∀ (store : CaseStore) (op : CaseOp) (answer : CaseAnswer) (next : CaseStore),
      PerceptionsLogged store ∧ ReachedRevision store caseId revision →
        caseService op store = .ok (answer, next) →
          PerceptionsLogged next ∧ ReachedRevision next caseId revision := by
    rintro store op answer next ⟨logged, reached⟩ ok
    have changes := changes_of_ok logged ok
    exact ⟨logged.changes changes, reached.changes changes⟩
  exact (run_invariant step ⟨logged, reached⟩ ops).2

/-! ## Writers -/

/-- The call is a writer of the case that holds the revision `base`. -/
def Writer (store : CaseStore) (op : CaseOp) (caseId : String) (base : ℤ) : Prop :=
  match op with
  | .applyPatch _ patch _ _ _ => patch.caseId = caseId ∧ (patch.baseCaseRevision : ℤ) = base
  | .commitDecision commit _ _ => commit.caseId = caseId ∧ (commit.baseCaseRevision : ℤ) = base
  | .openNeed _ request _ _ => request.caseId = caseId ∧ request.baseCaseRevision = base
  | .reopenNeed request _ _ => request.baseCaseRevision = base ∧
      ∃ need, store.needs.get? request.needId = some need ∧ need.caseId = caseId
  | .create .. | .move .. | .getState .. | .rebuild .. | .recordPerception .. | .processChange .. =>
      False

/-- The call repeats one that the log or the table of needs knows. -/
def IsReplay (store : CaseStore) : CaseOp → Prop
  | .applyPatch _ patch _ _ _ => patchEvents store patch.caseId patch.patchId ≠ []
  | .commitDecision commit _ _ =>
      (eventOfCall? store commit.caseId commit.decisionId .decisionChanged).isSome
  | .openNeed _ request _ _ => ∃ need, store.needs.get? request.needId = some need
  | .reopenNeed request _ _ => ∃ need, store.needs.get? request.needId = some need ∧
      ((eventOfCall? store need.caseId request.reopenKey .evidenceNeedOpened).isSome ∨
        need.status = .open)
  | .create .. | .move .. | .getState .. | .rebuild .. | .recordPerception .. | .processChange .. =>
      False

/-- The answer is that of a repeated call. -/
def CaseAnswer.replay : CaseAnswer → Bool
  | .patched result => result.replay
  | .decided result => result.replay
  | .need result => result.replay
  | .row _ | .state _ | .perceived _ | .processed _ => false

/-- The writer commits: the call answers, and not as a repetition. -/
def Commits (store : CaseStore) (op : CaseOp) (caseId : String) (base : ℤ) : Prop :=
  Writer store op caseId base ∧ ∃ answer next, caseService op store = .ok (answer, next) ∧
    answer.replay = false

/-- The case has moved past the revision. -/
theorem reached_of_write {first middle : CaseStore} {state : InvestigationState} {now : ℤ}
    (found : store.cases.get? caseId = some row) (write : Write recording caseId store first)
    (writes : Writes recording caseId first middle)
    (rebuilt : rebuildState middle caseId now = .ok (state, next)) :
    ReachedRevision next caseId (row.currentRevision + 1) := by
  obtain ⟨event, appended, -⟩ := write.appended
  have here : ReachedRevision first caseId (row.currentRevision + 1) := by
    rw [ReachedRevision, appended.cases, if_pos rfl, found]
    exact ⟨row.withEvent, rfl, le_of_eq (by simp [InvestigationCaseModel.withEvent])⟩
  obtain ⟨later, laterFound, -, rfl⟩ := rebuildState_ok rebuilt
  obtain ⟨last, lastFound, bound⟩ := here.writes writes
  exact ⟨last, lastFound, bound⟩

/-- What a writer finds, and leaves when it commits. -/
theorem writer_ok {answer : CaseAnswer} (writer : Writer store op caseId base)
    (ok : caseService op store = .ok (answer, next)) :
    (answer.replay = true ∧ IsReplay store op) ∨
      (answer.replay = false ∧ ∃ row, store.cases.get? caseId = some row ∧
        (row.currentRevision : ℤ) = base ∧ ReachedRevision next caseId (base + 1)) := by
  cases caseService_called ok with
  | applyPatch called =>
      obtain ⟨rfl, rfl⟩ := writer
      obtain ⟨row, found, ⟨replay, known, -⟩ |
        ⟨fresh, -, revision, first, middle, state, write, writes, rebuilt⟩⟩ := applyPatch_ok false called
      · exact .inl ⟨replay, known⟩
      · refine .inr ⟨fresh, row, found, by rw [revision], ?_⟩
        rw [← revision]
        exact reached_of_write found write writes rebuilt
  | commitDecision called =>
      obtain ⟨rfl, rfl⟩ := writer
      obtain ⟨row, found, ⟨replay, known, -⟩ |
        ⟨fresh, -, revision, middle, state, write, rebuilt⟩⟩ := commitDecision_ok false called
      · exact .inl ⟨replay, known⟩
      · refine .inr ⟨fresh, row, found, by rw [revision], ?_⟩
        rw [← revision]
        exact reached_of_write found write .refl rebuilt
  | openNeed called =>
      obtain ⟨rfl, rfl⟩ := writer
      obtain ⟨row, found, ⟨replay, known, -⟩ |
        ⟨fresh, -, revision, middle, state, write, rebuilt⟩⟩ := openEvidenceNeed_ok false called
      · exact .inl ⟨replay, known⟩
      · refine .inr ⟨fresh, row, found, revision, ?_⟩
        rw [← revision]
        exact reached_of_write found write .refl rebuilt
  | reopenNeed called =>
      obtain ⟨rfl, need, needFound, rfl⟩ := writer
      obtain ⟨other, row, otherFound, found, outcome⟩ := reopenEvidenceNeed_ok false called
      obtain rfl := mem_unique otherFound needFound
      rcases outcome with ⟨replay, known, -⟩ | ⟨fresh, revision, middle, state, write, rebuilt⟩
      · exact .inl ⟨replay, other, needFound, known⟩
      · refine .inr ⟨fresh, row, found, revision, ?_⟩
        rw [← revision]
        exact reached_of_write found write .refl rebuilt
  | create | move | getState | rebuild | recordPerception | processChange => exact writer.elim

/-- A stale writer that repeats nothing is refused, and nothing changes. -/
theorem rejected_of_stale (writer : Writer store op caseId base) (fresh : ¬ IsReplay store op)
    (stale : ∀ row, store.cases.get? caseId = some row → (row.currentRevision : ℤ) ≠ base) :
    (∃ raised, caseService op store = .error raised) ∧ transact caseService store op = store := by
  cases outcome : caseService op store with
  | error raised => exact ⟨⟨raised, rfl⟩, transact_of_error outcome⟩
  | ok result =>
      obtain ⟨answer, next⟩ := result
      rcases writer_ok writer outcome with ⟨-, known⟩ | ⟨-, row, found, revision, -⟩
      · exact absurd known fresh
      · exact absurd revision (stale row found)

/-- Of two writers that hold one revision, the later does not commit. -/
theorem not_commits_after {first second : CaseOp} (logged : PerceptionsLogged store)
    (commits : Commits store first caseId base) (middle : List CaseOp) :
    ¬ Commits (run caseService store (first :: middle)) second caseId base := by
  rintro ⟨laterWriter, laterAnswer, laterNext, laterAnswered, laterFresh⟩
  obtain ⟨writer, answer, next, ok, fresh⟩ := commits
  rcases writer_ok writer ok with ⟨replay, -⟩ | ⟨-, -, -, -, reached⟩
  · rw [fresh] at replay
    cases replay
  rcases writer_ok laterWriter laterAnswered with ⟨replay, -⟩ | ⟨-, row, found, revision, -⟩
  · rw [laterFresh] at replay
    cases replay
  rw [run_cons, transact_of_ok ok] at found
  have still := reached.run (logged.changes (changes_of_ok logged ok)) middle
  obtain ⟨other, otherFound, bound⟩ := still
  obtain rfl := mem_unique otherFound found
  omega

/-- **The revisions of a case.**  In every reachable store the log of a case has
the revisions one to the current one, each event naming its predecessor as base; a
writer that holds another revision, and repeats nothing, is refused and changes
nothing; and of several writers that hold the same revision, each of which would
be accepted, exactly one commits, in whatever order they run. -/
theorem case_revisions (ops : List CaseOp) :
    (∀ caseId row, (caseStoreAfter ops).cases.get? caseId = some row →
        ((caseStoreAfter ops).eventsOf caseId).map (·.caseRevision) =
          List.range' 1 row.currentRevision) ∧
      (∀ event ∈ (caseStoreAfter ops).events.rows,
        event.baseCaseRevision + 1 = event.caseRevision) ∧
      (∀ op caseId base, Writer (caseStoreAfter ops) op caseId base →
        ¬ IsReplay (caseStoreAfter ops) op →
        (∀ row, (caseStoreAfter ops).cases.get? caseId = some row →
          (row.currentRevision : ℤ) ≠ base) →
          (∃ raised, caseService op (caseStoreAfter ops) = .error raised) ∧
            transact caseService (caseStoreAfter ops) op = caseStoreAfter ops) ∧
      (∀ caseId base first middle second, Commits (caseStoreAfter ops) first caseId base →
        ¬ Commits (caseStoreAfter (ops ++ first :: middle)) second caseId base) ∧
      ∀ caseId base writers, writers ≠ [] →
        (∀ writer ∈ writers, Commits (caseStoreAfter ops) writer caseId base) →
          ∃! position, ∃ writer, writers[position]? = some writer ∧
            Commits (caseStoreAfter (ops ++ writers.take position)) writer caseId base := by
  have kept := caseLogKept_caseStoreAfter ops
  have logged := perceptionsLogged_caseStoreAfter ops
  have split : ∀ more, caseStoreAfter (ops ++ more) = run caseService (caseStoreAfter ops) more :=
    fun more => run_append _ ops more
  have later : ∀ caseId base first middle second, Commits (caseStoreAfter ops) first caseId base →
      ¬ Commits (caseStoreAfter (ops ++ first :: middle)) second caseId base := by
    intro caseId base first middle second commits
    rw [split]
    exact not_commits_after logged commits middle
  refine ⟨kept.revisions, kept.bases, fun op caseId base writer fresh stale =>
    rejected_of_stale writer fresh stale, later, ?_⟩
  intro caseId base writers nonempty acceptable
  cases writers with
  | nil => exact absurd rfl nonempty
  | cons first rest =>
      have commits := acceptable first mem_cons_self
      refine ⟨0, ⟨first, rfl, ?_⟩, ?_⟩
      · rw [List.take_zero, append_nil]
        exact commits
      · rintro position ⟨writer, -, commitsLater⟩
        cases position with
        | zero => rfl
        | succ position =>
            rw [List.take_succ_cons] at commitsLater
            exact absurd commitsLater (later caseId base first _ writer commits)

end SecFusion.Investigation
