import SecFusion.Investigation.Effects

/-!
# The rows of the cases

What the calls on the case store do to the rows of the cases, whatever they do to
the logs: which rows they write, that none is left waiting unless it was (only
`CaseService.wait` makes a case wait), and that a case that is resolved, closed or
cancelled stays so (`Touches`).

A change of the knowledge base is told apart: every relevant case that was waiting
is active afterwards, and the impact that the change reports for it says so
(`ChangedRows`).
-/

namespace SecFusion.Investigation

open Foundations Intelligence

/-! ## The rows of the cases -/

/-- The case needs no more watching. -/
def CaseStatus.isSettled : CaseStatus → Bool
  | .resolved | .closed | .cancelled => true
  | .created | .active | .waiting | .opened | .running => false

/-- The status is one that a case has after it was first activated: not the initial
one, nor one of the two older values. -/
def CaseStatus.hasBegun : CaseStatus → Bool
  | .created | .opened | .running => false
  | .active | .waiting | .resolved | .closed | .cancelled => true

abbrev CaseTable := Table InvestigationCaseModel String (·.caseId)

/-- A settled case stays settled, and one that has begun does not begin again. -/
structure Follows (old new : CaseStatus) : Prop where
  settled : old.isSettled = true → new.isSettled = true
  begun : old.hasBegun = true → new.hasBegun = true

theorem Follows.refl (status : CaseStatus) : Follows status status :=
  ⟨fun settled => settled, fun begun => begun⟩

theorem Follows.trans {first second third : CaseStatus} (left : Follows first second)
    (right : Follows second third) : Follows first third :=
  ⟨fun settled => right.settled (left.settled settled), fun begun => right.begun (left.begun begun)⟩

/-- **What a call may do to the rows of the cases**, of which it writes no others
than the named ones. -/
structure Touches (named : String → Prop) (before after : CaseTable) : Prop where
  others : ∀ caseId, ¬ named caseId → after.get? caseId = before.get? caseId
  /-- A case that is waiting has not been written. -/
  roused : ∀ caseId row, after.get? caseId = some row → row.status = .waiting →
    before.get? caseId = some row
  /-- A case stays, and goes on from where it is. -/
  kept : ∀ caseId row, before.get? caseId = some row → ∃ later, after.get? caseId = some later ∧
    Follows row.status later.status

variable {named : String → Prop}

theorem Touches.refl (table : CaseTable) : Touches named table table where
  others _ _ := rfl
  roused _ _ found _ := found
  kept _ row found := ⟨row, found, .refl row.status⟩

variable {before after : CaseTable} {caseId perceptionEventId : String}
  {row view : InvestigationCaseModel} {store next : CaseStore} {eventIds : EventIds} {now : ℤ}
  {state : InvestigationState} {move : CaseMove} {knowledge : KnowledgeStore}
  {result : EvidenceNeedOpenResult} {op : CaseOp} {answer : CaseAnswer}
  {change : KnowledgeChangeNotice} {impact : WorldChangeImpact} {rest : List String}
  {impacts : List WorldChangeImpact}

theorem Touches.of_eq (same : after = before) :
    Touches named before after := by
  subst same
  exact .refl after

theorem Touches.trans {first second third : CaseTable} (left : Touches named first second)
    (right : Touches named second third) : Touches named first third where
  others caseId unnamed := (right.others caseId unnamed).trans (left.others caseId unnamed)
  roused caseId row found waiting :=
    left.roused caseId row (right.roused caseId row found waiting) waiting
  kept caseId row found := by
    obtain ⟨middle, middleFound, follows⟩ := left.kept caseId row found
    obtain ⟨later, laterFound, followsOn⟩ := right.kept caseId middle middleFound
    exact ⟨later, laterFound, follows.trans followsOn⟩

theorem Touches.mono {wider : String → Prop} (touches : Touches named before after)
    (weaker : ∀ caseId, named caseId → wider caseId) :
    Touches wider before after where
  others caseId unnamed := touches.others caseId fun held => unnamed (weaker caseId held)
  roused := touches.roused
  kept := touches.kept

/-- One row is rewritten, and is not left waiting. -/
theorem Touches.of_update {table : CaseTable}
    {rewrite : InvestigationCaseModel → InvestigationCaseModel}
    (keeps : ∀ row, (rewrite row).caseId = row.caseId) (found : table.get? caseId = some row)
    (awake : (rewrite row).status ≠ .waiting) (follows : Follows row.status (rewrite row).status) :
    Touches (· = caseId) table (table.update caseId rewrite keeps) where
  others other different := by
    rw [get?_update, if_neg fun same => different same.symm]
  roused other changed changedFound waiting := by
    rw [get?_update] at changedFound
    split at changedFound
    next same =>
      subst same
      rw [found, map_some] at changedFound
      exact absurd waiting (Option.some.inj changedFound ▸ awake)
    next => exact changedFound
  kept other old oldFound := by
    rw [get?_update]
    split
    next same =>
      subst same
      obtain rfl := mem_unique found oldFound
      exact ⟨rewrite row, by rw [found]; rfl, follows⟩
    next => exact ⟨old, oldFound, .refl old.status⟩

theorem CaseStatus.afterEvent_ne_waiting (status : CaseStatus) : status.afterEvent ≠ .waiting := by
  cases status <;> decide

theorem CaseStatus.follows_afterEvent (status : CaseStatus) : Follows status status.afterEvent := by
  constructor <;> cases status <;> decide

theorem Touches.of_append {request : CaseEventRequest} {event : CaseStateEventModel}
    (ok : appendEvent store caseId request eventIds now = .ok (event, next)) :
    Touches (· = caseId) store.cases next.cases := by
  unfold appendEvent getCase at ok
  simp only [fetch_bind_eq_ok] at ok
  obtain ⟨row, found, ok⟩ := ok
  obtain ⟨logged, inserted, ok⟩ := bind_eq_ok.1 ok
  cases ok
  obtain ⟨events, rfl, -⟩ := insertEvent_ok inserted
  exact .of_update (·.withEvent_caseId) found row.status.afterEvent_ne_waiting
    row.status.follows_afterEvent

theorem cases_of_rebuild (ok : rebuildState store caseId now = .ok (state, next)) :
    next.cases = store.cases := by
  obtain ⟨row, -, -, rfl⟩ := rebuildState_ok ok
  rfl

theorem cases_of_getState (ok : getState store caseId now = .ok (state, next)) :
    next.cases = store.cases := by
  obtain ⟨row, -, ⟨-, rfl⟩ | ⟨-, -, rfl⟩⟩ := getState_ok ok <;> rfl

/-- A move of the lifecycle, to a status that is not `waiting`. -/
theorem Touches.of_transition {allowed : List CaseStatus} {target : CaseStatus}
    (awake : target ≠ .waiting)
    (follows : ∀ status : CaseStatus, status.normalized ∈ allowed → Follows status target)
    (ok : transitionCase store caseId allowed target = .ok (view, next)) :
    Touches (· = caseId) store.cases next.cases := by
  obtain ⟨row, found, ⟨-, rfl⟩ | ⟨permitted, -, rfl⟩⟩ := transitionCase_ok ok
  · exact .refl _
  · exact .of_update (·.withStatus_caseId target) found awake (follows row.status permitted)

theorem Touches.of_activate (ok : activateCase store caseId = .ok (view, next)) :
    Touches (· = caseId) store.cases next.cases := by
  refine .of_transition (by decide) (fun status permitted => ⟨?_, fun _ => rfl⟩) ok
  revert permitted
  cases status <;> decide

/-- A case that has begun is active after `activate`. -/
theorem active_of_activate (found : store.cases.get? caseId = some row)
    (begun : row.status.hasBegun = true) (ok : activateCase store caseId = .ok (view, next)) :
    ∃ later, next.cases.get? caseId = some later ∧ later.status = .active := by
  obtain ⟨old, oldFound, ⟨already, rfl⟩ | ⟨-, -, rfl⟩⟩ := transitionCase_ok ok
  · obtain rfl := mem_unique found oldFound
    refine ⟨row, found, ?_⟩
    revert already begun
    cases row.status <;> decide
  · refine ⟨old.withStatus .active, ?_, rfl⟩
    rw [updateCase, get?_update, if_pos rfl, oldFound]
    rfl

/-- What a lifecycle call other than `wait` makes of a case. -/
theorem Touches.of_move (other : move ≠ .wait)
    (ok : moveCase store caseId now move = .ok (view, next)) :
    Touches (· = caseId) store.cases next.cases := by
  cases move with
  | activate => exact .of_activate ok
  | wait => exact absurd rfl other
  | resolve => exact .of_transition (by decide) (fun _ _ => ⟨fun _ => rfl, fun _ => rfl⟩) ok
  | cancel => exact .of_transition (by decide) (fun _ _ => ⟨fun _ => rfl, fun _ => rfl⟩) ok
  | close runningTrajectory =>
      simp only [moveCase, closeCase, getCase] at ok
      obtain ⟨row, found, ok⟩ := fetch_bind_eq_ok.1 ok
      split at ok
      next =>
        cases ok
        exact .refl _
      next =>
        obtain ⟨-, ok⟩ := require_bind_eq_ok.1 ok
        obtain ⟨-, ok⟩ := require_bind_eq_ok.1 ok
        cases ok
        exact .of_update (·.withClosed_caseId now) found
          (by simp [InvestigationCaseModel.withClosed]) ⟨fun _ => rfl, fun _ => rfl⟩

/-- The settled statuses are those that no way back leads from: a case that is
resolved, cancelled or closed by a move ends up settled. -/
theorem settled_of_move (ends : move ≠ .wait) (other : move ≠ .activate)
    (ok : moveCase store caseId now move = .ok (view, next)) :
    ∃ row, next.cases.get? caseId = some row ∧ row.status.isSettled = true := by
  have transitions : ∀ {allowed : List CaseStatus} {target : CaseStatus},
      target.isSettled = true → (∀ status : CaseStatus, status.normalized = target →
        status.isSettled = true) →
      transitionCase store caseId allowed target = .ok (view, next) →
        ∃ row, next.cases.get? caseId = some row ∧ row.status.isSettled = true := by
    intro allowed target settled same ok
    obtain ⟨row, found, ⟨already, rfl⟩ | ⟨-, -, rfl⟩⟩ := transitionCase_ok ok
    · exact ⟨row, found, same row.status already⟩
    · refine ⟨row.withStatus target, ?_, settled⟩
      rw [updateCase, get?_update, if_pos rfl, found]
      rfl
  cases move with
  | activate => exact absurd rfl other
  | wait => exact absurd rfl ends
  | resolve =>
      refine transitions rfl (fun status => ?_) ok
      cases status <;> decide
  | cancel =>
      refine transitions rfl (fun status => ?_) ok
      cases status <;> decide
  | close runningTrajectory =>
      simp only [moveCase, closeCase, getCase] at ok
      obtain ⟨row, found, ok⟩ := fetch_bind_eq_ok.1 ok
      split at ok
      next closed =>
        cases ok
        exact ⟨_, found, by rw [closed]; rfl⟩
      next =>
        obtain ⟨-, ok⟩ := require_bind_eq_ok.1 ok
        obtain ⟨-, ok⟩ := require_bind_eq_ok.1 ok
        cases ok
        refine ⟨row.withClosed now, ?_, rfl⟩
        rw [updateCase, get?_update, if_pos rfl, found]
        rfl

/-! ## The calls on the case store -/

/-- The call is the one of the worker for a change of the knowledge base. -/
def CaseOp.isWorldChange : CaseOp → Bool
  | .processChange .. => true
  | .create .. | .move .. | .getState .. | .rebuild .. | .openNeed .. | .reopenNeed ..
  | .applyPatch .. | .commitDecision .. | .recordPerception .. => false

/-- The cases that the call may take out of `waiting` to go on with them: the one it
activates, or the one whose log it writes. -/
def CaseOp.rouses (store : CaseStore) : CaseOp → List String
  | .move caseId .activate _ => [caseId]
  | .openNeed _ request _ _ => [request.caseId]
  | .reopenNeed request _ _ => ((store.needs.get? request.needId).map (·.caseId)).toList
  | .applyPatch _ patch _ _ _ => [patch.caseId]
  | .commitDecision commit _ _ => [commit.caseId]
  | .recordPerception _ call _ _ _ =>
      (call.run.bind (·.caseId)).toList ++
        ((recordedPerception? store call.taskRunId call.request.requestId).map (·.caseId)).toList
  | .move _ .wait _ | .move _ .resolve _ | .move _ .cancel _ | .move _ (.close _) _
  | .create .. | .getState .. | .rebuild .. | .processChange .. => []

theorem Touches.of_openNeed {request : OpenEvidenceNeed}
    (ok : openEvidenceNeed store knowledge request eventIds now = .ok (result, next)) :
    Touches (· = request.caseId) store.cases next.cases := by
  obtain ⟨row, -, ⟨-, -, -, read⟩ | ⟨-, -, -, logged, needs, appended, -, rebuilt, -⟩⟩ :=
    openEvidenceNeed_course ok
  · exact .of_eq (cases_of_getState read)
  · have same := cases_of_rebuild rebuilt
    exact (Touches.of_append appended).trans (.of_eq same)

theorem Touches.of_reopenNeed {request : ReopenEvidenceNeed}
    (ok : reopenEvidenceNeed store request eventIds now = .ok (result, next)) :
    Touches (· ∈ ((store.needs.get? request.needId).map (·.caseId)).toList)
      store.cases next.cases := by
  obtain ⟨need, row, found, -, ⟨-, read, -⟩ | ⟨-, -, -, -, logged, appended, rebuilt⟩⟩ :=
    reopenEvidenceNeed_course ok
  · exact .of_eq (cases_of_getState read)
  · have same := cases_of_rebuild rebuilt
    have touches : Touches (· = need.caseId) store.cases next.cases :=
      (Touches.of_append appended).trans (.of_eq same)
    refine touches.mono fun caseId same => ?_
    rw [found, same]
    exact mem_singleton_self need.caseId

theorem Touches.of_writes {recording : Bool} (writes : Writes recording caseId store next) :
    Touches (· = caseId) store.cases next.cases := by
  induction writes with
  | refl => exact .refl _
  | @tail middle last _ write ih =>
      obtain ⟨event, appended, -⟩ := write.appended
      refine ih.trans ?_
      obtain ⟨row, found, -, -⟩ := appended.row
      constructor
      case others =>
        intro other different
        rw [appended.cases, if_neg fun same => different same.symm]
      case roused =>
        intro other changed changedFound waiting
        rw [appended.cases] at changedFound
        split at changedFound
        next same =>
          subst same
          rw [found] at changedFound
          cases changedFound
          exact absurd waiting row.status.afterEvent_ne_waiting
        next => exact changedFound
      case kept =>
        intro other old oldFound
        rw [appended.cases]
        split
        next => exact ⟨old.withEvent, by rw [oldFound]; rfl, old.status.follows_afterEvent⟩
        next => exact ⟨old, oldFound, .refl old.status⟩

theorem Touches.of_applyPatch {patch : StatePatch} {reasonCode : String}
    {result : StatePatchApplyResult}
    (ok : applyPatch store knowledge patch reasonCode eventIds now = .ok (result, next)) :
    Touches (· = patch.caseId) store.cases next.cases := by
  obtain ⟨row, -, ⟨-, -, read⟩ | ⟨-, fresh, -⟩⟩ := applyPatch_course ok
  · exact .of_eq (cases_of_getState read)
  · obtain ⟨_, -, ⟨-, existing, -⟩ | ⟨-, -, -, first, middle, state, write, writes, rebuilt⟩⟩ :=
      applyPatch_ok false ok
    · exact absurd fresh existing
    · exact (Touches.of_writes ((Relation.ReflTransGen.single write).trans writes)).trans
        (.of_eq (cases_of_rebuild rebuilt))

theorem Touches.of_commitDecision {commit : DecisionCommit} {result : DecisionCommitResult}
    (ok : commitDecision store commit eventIds now = .ok (result, next)) :
    Touches (· = commit.caseId) store.cases next.cases := by
  obtain ⟨row, -, ⟨-, -, read⟩ | ⟨-, -, -, logged, appended, rebuilt⟩⟩ := commitDecision_course ok
  · exact .of_eq (cases_of_getState read)
  · exact (Touches.of_append appended).trans (.of_eq (cases_of_rebuild rebuilt))

theorem Touches.of_markPerception {worldRevision : ℕ} {perceivedAt : ℤ}
    (ok : markPerception store caseId perceptionEventId worldRevision perceivedAt eventIds now
      = .ok (state, next)) : Touches (· = caseId) store.cases next.cases := by
  obtain ⟨middle, rebuilt, ⟨event, appended, -⟩ | ⟨rfl, -⟩⟩ := markPerception_course ok
  · exact (Touches.of_append appended).trans (.of_eq (cases_of_rebuild rebuilt))
  · exact .of_eq (cases_of_rebuild rebuilt)

theorem Touches.of_recordPerception {call : RecordPerception} {record : PerceptionEventRecord}
    (ok : recordPerception store knowledge call perceptionEventId eventIds now =
      .ok (record, next)) :
    Touches (· ∈ (call.run.bind (·.caseId)).toList ++
      ((recordedPerception? store call.taskRunId call.request.requestId).map (·.caseId)).toList)
      store.cases next.cases := by
  unfold recordPerception at ok
  obtain ⟨caseId, checked, ok⟩ := bind_eq_ok.1 ok
  split at ok
  next existing recorded =>
    obtain ⟨-, ok⟩ := require_bind_eq_ok.1 ok
    obtain ⟨⟨state, last⟩, marked, ok⟩ := bind_eq_ok.1 ok
    cases ok
    refine (Touches.of_markPerception marked).mono fun other same => ?_
    simp [recorded, same]
  next fresh =>
    obtain ⟨perceptions, -, ok⟩ := fetch_bind_eq_ok.1 ok
    obtain ⟨⟨state, last⟩, marked, ok⟩ := bind_eq_ok.1 ok
    cases ok
    refine (Touches.of_markPerception marked).mono fun other same => ?_
    simp [checkPerception_ok checked, same]

/-- A new case is not waiting, and the cases that are there stay as they are. -/
theorem Touches.of_create {taskSignature goal : String} {targetObjectIds : List String}
    {initialKnowledgeRevision : Option ℕ}
    (ok : createCase store caseId taskSignature targetObjectIds goal initialKnowledgeRevision
      now = .ok (row, next)) :
    Touches (· = caseId) store.cases next.cases ∧ store.cases.get? caseId = none := by
  unfold createCase at ok
  obtain ⟨cases, inserted, ok⟩ := fetch_bind_eq_ok.1 ok
  cases ok
  have absent : store.cases.get? caseId = none := (insert?_eq_some inserted).2
  refine ⟨?_, absent⟩
  constructor
  case others =>
    intro other different
    rw [get?_insert? inserted, if_neg fun same => different same.symm]
  case roused =>
    intro other changed found waiting
    rw [get?_insert? inserted] at found
    split at found
    next =>
      cases found
      cases waiting
    next => exact found
  case kept =>
    intro other old found
    refine ⟨old, ?_, .refl old.status⟩
    rw [get?_insert? inserted]
    split
    next same =>
      subst same
      exact absurd (absent.symm.trans found) (by simp)
    next => exact found

/-- A waiting case waits on, or is settled. -/
def WaitsOn (after : CaseTable) (caseId : String) : Prop :=
  ∃ later, after.get? caseId = some later ∧
    (later.status = .waiting ∨ later.status.isSettled = true)

theorem Touches.waitsOn (touches : Touches named before after)
    (found : before.get? caseId = some row) (waiting : row.status = .waiting)
    (unnamed : ¬ named caseId) : WaitsOn after caseId :=
  ⟨row, (touches.others caseId unnamed).trans found, .inl waiting⟩

theorem waitCase_rows (ok : waitCase store caseId = .ok (view, next)) :
    (∃ row, next.cases.get? caseId = some row ∧ row.status = .waiting) ∧
      (∃ row, store.cases.get? caseId = some row ∧ row.status.isSettled = false ∧
        (row.status = .waiting → next = store)) ∧
      ∀ other, other ≠ caseId → next.cases.get? other = store.cases.get? other := by
  obtain ⟨row, found, ⟨already, rfl⟩ | ⟨permitted, different, rfl⟩⟩ := transitionCase_ok ok
  · have waiting : row.status = .waiting := by
      cases status : row.status <;> rw [status] at already <;> first | rfl | cases already
    exact ⟨⟨row, found, waiting⟩, ⟨row, found, by rw [waiting]; rfl, fun _ => rfl⟩, fun _ _ => rfl⟩
  · refine ⟨⟨row.withStatus .waiting, ?_, rfl⟩, ⟨row, found, ?_, fun waiting => ?_⟩,
      fun other apart => ?_⟩
    · rw [updateCase, get?_update, if_pos rfl, found]
      rfl
    · revert permitted
      cases row.status <;> decide
    · rw [waiting] at different
      exact absurd rfl different
    · rw [updateCase, get?_update, if_neg fun same => apart same.symm]

/-- **What the calls other than `wait` make of the rows.** -/
theorem touches_of_ok (ordinary : op.isWorldChange = false)
    (other : ∀ caseId now, op ≠ .move caseId .wait now)
    (ok : caseService op store = .ok (answer, next)) :
    Touches (fun _ => True) store.cases next.cases := by
  cases caseService_called ok with
  | create called =>
      exact (Touches.of_create called).1.mono fun _ _ => trivial
  | @move caseId _ now _ called =>
      refine (Touches.of_move ?_ called).mono fun _ _ => trivial
      rintro rfl
      exact other caseId now rfl
  | getState called =>
      exact .of_eq (cases_of_getState called)
  | rebuild called =>
      exact .of_eq (cases_of_rebuild called)
  | openNeed called =>
      exact (Touches.of_openNeed called).mono fun _ _ => trivial
  | reopenNeed called =>
      exact (Touches.of_reopenNeed called).mono fun _ _ => trivial
  | applyPatch called =>
      exact (Touches.of_applyPatch called).mono fun _ _ => trivial
  | commitDecision called =>
      exact (Touches.of_commitDecision called).mono fun _ _ => trivial
  | recordPerception called =>
      exact (Touches.of_recordPerception called).mono fun _ _ => trivial
  | processChange => cases ordinary

/-- **A waiting case waits on** through every call that does not rouse it. -/
theorem waitsOn_of_ok (ordinary : op.isWorldChange = false)
    (ok : caseService op store = .ok (answer, next))
    (found : store.cases.get? caseId = some row) (waiting : row.status = .waiting)
    (calm : caseId ∉ op.rouses store) :
    WaitsOn next.cases caseId := by
  cases caseService_called ok with
  | create called =>
      obtain ⟨touches, absent⟩ := Touches.of_create called
      refine touches.waitsOn found waiting ?_
      rintro rfl
      exact absurd (absent.symm.trans found) (by simp)
  | @move other move _ _ called =>
      cases move with
      | activate =>
          refine (Touches.of_move (by simp) called).waitsOn found waiting fun same => ?_
          exact calm (mem_singleton.2 same)
      | wait =>
          obtain ⟨⟨later, laterFound, waits⟩, -, others⟩ := waitCase_rows called
          by_cases same : caseId = other
          · subst same
            exact ⟨later, laterFound, .inl waits⟩
          · exact ⟨row, (others caseId same).trans found, .inl waiting⟩
      | resolve | cancel | close =>
          all_goals
            by_cases same : caseId = other
            · subst same
              obtain ⟨later, laterFound, settled⟩ := settled_of_move (by simp) (by simp) called
              exact ⟨later, laterFound, .inr settled⟩
            · exact (Touches.of_move (by simp) called).waitsOn found waiting same
  | getState called =>
      exact ⟨row, by rw [cases_of_getState called, found], .inl waiting⟩
  | rebuild called =>
      exact ⟨row, by rw [cases_of_rebuild called, found], .inl waiting⟩
  | openNeed called =>
      exact (Touches.of_openNeed called).waitsOn found waiting fun same =>
        calm (mem_singleton.2 same)
  | reopenNeed called =>
      exact (Touches.of_reopenNeed called).waitsOn found waiting calm
  | applyPatch called =>
      exact (Touches.of_applyPatch called).waitsOn found waiting fun same =>
        calm (mem_singleton.2 same)
  | commitDecision called =>
      exact (Touches.of_commitDecision called).waitsOn found waiting fun same =>
        calm (mem_singleton.2 same)
  | recordPerception called =>
      exact (Touches.of_recordPerception called).waitsOn found waiting calm
  | processChange => cases ordinary

/-! ## The rows after a world change -/

/-- What is known of the case of an impact: it is not left waiting, and if it was
waiting it is active and the impact says so. -/
structure Roused (before after : CaseTable) (impact : WorldChangeImpact) : Prop where
  awake : ∃ row, after.get? impact.caseId = some row ∧ row.status ≠ .waiting
  activated : ∀ row, before.get? impact.caseId = some row → row.status = .waiting →
    impact.caseActivated = true ∧
      ∃ later, after.get? impact.caseId = some later ∧ later.status = .active

theorem applyCase_rows
    (ok : applyCase store knowledge caseId change eventIds now = .ok (impact, next)) :
    impact.caseId = caseId ∧ Touches (· = caseId) store.cases next.cases ∧
      Roused store.cases next.cases impact := by
  have ofCase := (impact_of_applyCase ok).1
  obtain ⟨row, state, loaded, reopened, rebuilt, found, -, read, writes, rebuilds, wakes⟩ :=
    @applyCase_ok false change store next knowledge caseId eventIds now impact ok
  have settles : Touches (· = caseId) store.cases rebuilt.cases := by
    refine Touches.trans (.of_eq (cases_of_getState read)) ?_
    rcases rebuilds with ⟨rfl, -⟩ | ⟨view, rebuilds⟩
    · exact .refl _
    · exact (Touches.of_writes writes).trans (.of_eq (cases_of_rebuild rebuilds))
  obtain ⟨middle, middleFound, ⟨woken, rfl, active⟩ | ⟨woken, waiting, -, view, activates⟩⟩ :=
    wakeCase_ok wakes
  · refine ⟨ofCase, settles, ⟨middle, ofCase ▸ middleFound, fun waits => ?_⟩, ?_⟩
    · have same := settles.roused caseId middle middleFound waits
      obtain rfl := mem_unique found same
      rw [active waits] at waits
      cases waits
    · intro old oldFound waits
      rw [ofCase] at oldFound ⊢
      obtain rfl := mem_unique found oldFound
      exact ⟨by rw [woken, waits]; rfl, middle, middleFound, active waits⟩
  · have moves : Touches (· = caseId) rebuilt.cases next.cases := .of_activate activates
    have begun : middle.status.hasBegun = true := by
      obtain ⟨same, sameFound, follows⟩ := settles.kept caseId row found
      obtain rfl := mem_unique middleFound sameFound
      exact follows.begun (by rw [waiting]; rfl)
    obtain ⟨later, laterFound, active⟩ := active_of_activate middleFound begun activates
    rw [← ofCase] at laterFound
    refine ⟨ofCase, settles.trans moves, ⟨later, laterFound, ?_⟩, fun old _ _ => ?_⟩
    · rw [active]
      decide
    · exact ⟨woken, later, laterFound, active⟩

/-- **The rows after the loop over the relevant cases.** -/
structure ChangedRows (caseIds : List String) (before after : CaseTable)
    (impacts : List WorldChangeImpact) : Prop where
  touches : Touches (· ∈ caseIds) before after
  listed : (impacts.map (·.caseId)).Sublist caseIds
  awake : ∀ impact ∈ impacts, ∃ row, after.get? impact.caseId = some row ∧ row.status ≠ .waiting
  /-- A relevant case that was waiting is active, and its impact says so. -/
  activated : caseIds.Nodup → ∀ caseId ∈ caseIds, ∀ row, before.get? caseId = some row →
    row.status = .waiting → ∃ impact ∈ impacts, impact.caseId = caseId ∧
      impact.caseActivated = true ∧ ∃ later, after.get? caseId = some later ∧ later.status = .active

/-- A case that the loop skips, being closed, cancelled or gone. -/
theorem ChangedRows.skip (changed : ChangedRows rest before after impacts)
    (skipped : ∀ row, before.get? caseId = some row → row.status ≠ .waiting) :
    ChangedRows (caseId :: rest) before after impacts where
  touches := changed.touches.mono fun _ member => mem_cons_of_mem _ member
  listed := changed.listed.cons caseId
  awake := changed.awake
  activated unique other member row found waiting := by
    rcases mem_cons.1 member with rfl | later
    · exact absurd waiting (skipped row found)
    · exact changed.activated (nodup_cons.1 unique).2 other later row found waiting

theorem ChangedRows.apply {middle : CaseTable} (ofCase : impact.caseId = caseId)
    (here : Touches (· = caseId) before middle) (roused : Roused before middle impact)
    (changed : ChangedRows rest middle after impacts) :
    ChangedRows (caseId :: rest) before after (impact :: impacts) where
  touches := by
    have first : Touches (· ∈ caseId :: rest) before middle :=
      here.mono fun _ same => same ▸ mem_cons_self
    exact first.trans (changed.touches.mono fun _ member => mem_cons_of_mem _ member)
  listed := by
    rw [map_cons, ofCase]
    exact changed.listed.cons_cons caseId
  awake := by
    intro other member
    rcases mem_cons.1 member with rfl | later
    · obtain ⟨row, found, awake⟩ := roused.awake
      obtain ⟨last, lastFound, -⟩ := changed.touches.kept _ row found
      refine ⟨last, lastFound, fun waiting => ?_⟩
      have same := changed.touches.roused _ last lastFound waiting
      obtain rfl := mem_unique found same
      exact awake waiting
    · exact changed.awake other later
  activated := by
    intro unique other member row found waiting
    obtain ⟨absent, unique⟩ := nodup_cons.1 unique
    by_cases same : other = caseId
    · subst same
      obtain ⟨activated, later, laterFound, active⟩ :=
        roused.activated row (ofCase ▸ found) waiting
      rw [ofCase] at laterFound
      refine ⟨impact, mem_cons_self, ofCase, activated, later, ?_, active⟩
      rw [changed.touches.others other absent, laterFound]
    · have tail : other ∈ rest := (mem_cons.1 member).resolve_left same
      obtain ⟨found, listed, rest⟩ := changed.activated unique other tail row
        ((here.others other same).trans found) waiting
      exact ⟨found, mem_cons_of_mem _ listed, rest⟩

theorem applyCases_rows {caseIds : List String}
    (ok : applyCases knowledge change eventIds now store caseIds = .ok (impacts, next)) :
    ChangedRows caseIds store.cases next.cases impacts := by
  refine applyCases_induction (motive := fun store caseIds impacts next =>
    ChangedRows caseIds store.cases next.cases impacts) ?_ ?_ ?_ ok
  · exact fun _ => ⟨.refl _, .slnil, nofun, nofun⟩
  · refine fun immutable later => later.skip fun row found waiting => ?_
    have := immutable row found
    rw [waiting] at this
    cases this
  · intro _ _ _ _ _ _ _ applied later
    obtain ⟨ofCase, touches, roused⟩ := applyCase_rows applied
    exact later.apply ofCase touches roused

theorem cases_of_relevantCases {rows : List InvestigationCaseModel} {ids : List String}
    (ok : relevantCases knowledge change now store rows = .ok (ids, next)) :
    next.cases = store.cases := by
  induction rows generalizing store ids with
  | nil =>
      cases ok
      rfl
  | cons row rest ih =>
      obtain ⟨⟨relevant, middle⟩, tested, ok⟩ := bind_eq_ok.1 ok
      obtain ⟨⟨later, last⟩, loop, ok⟩ := bind_eq_ok.1 ok
      cases ok
      rw [ih loop]
      unfold isRelevantCase at tested
      split at tested
      next =>
        cases tested
        rfl
      next =>
      split at tested
      next =>
        cases tested
        rfl
      next =>
        obtain ⟨⟨state, loaded⟩, read, tested⟩ := bind_eq_ok.1 tested
        cases tested
        exact cases_of_getState read

theorem processChange_rows
    (ok : processChange store knowledge change eventIds now = .ok (impacts, next)) :
    ∃ caseIds loaded, relevantCaseIds store knowledge change now = .ok (caseIds, loaded) ∧
      caseIds.Nodup ∧ ChangedRows caseIds store.cases next.cases impacts := by
  obtain ⟨⟨caseIds, loaded⟩, relevant, applied⟩ := bind_eq_ok.1 ok
  refine ⟨caseIds, loaded, relevant, ?_⟩
  obtain ⟨⟨found, last⟩, loop, relevant⟩ := bind_eq_ok.1 relevant
  cases relevant
  have same := cases_of_relevantCases loop
  have changed := applyCases_rows applied
  rw [same] at changed
  exact ⟨(perm_insertionSort _ _).nodup_iff.2 (nodup_dedup _), changed⟩

end SecFusion.Investigation
