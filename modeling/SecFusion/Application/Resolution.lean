import SecFusion.Application.Reports
import SecFusion.Investigation.NeedLifecycle

/-!
# Resolved cases

A case is resolved by the finalization of an episode that has read it with nothing left
open.  `RESOLVED` then says that the case has been answered, and not that it is at rest:
only a closed or cancelled case is immutable, and what a patch, a need or a change of the
knowledge base opens in a resolved case is recorded there.  Nothing takes the case out of
`RESOLVED` again but `close` (`resolved_cases`).
-/

namespace SecFusion.Application

open Foundations Intelligence Execution TaskRuntime Investigation Reasoning

/-! ## What a commit does to the cases -/

/-- **The cases have been written by commits**, and none of them has been moved. -/
structure Commits (store next : CaseStore) : Prop where
  changes : Changes false store next
  resolved : ∀ caseId, IsResolved next.cases caseId ↔ IsResolved store.cases caseId

variable {cases last : CaseStore} {caseId attempt other : String} {now : ℤ}
  {knowledge : KnowledgeStore} {eventIds : EventIds} {result : DecisionCommitResult}
  {commit : DecisionCommit} {tried : Tried} {proposal : Proposal} {outcome : DecisionOutcome}
  {incomplete : Bool} {settled : SettledFinalization} {stage : Attempt} {store next : ProductStore}
  {drawn : Drawn}

section Commits

variable {settings : ProductSettings}

theorem Commits.refl (store : CaseStore) : Commits store store := ⟨.refl, fun _ => .rfl⟩

theorem Commits.trans {first second third : CaseStore} (left : Commits first second)
    (right : Commits second third) : Commits first third where
  changes := left.changes.trans right.changes
  resolved caseId := (right.resolved caseId).trans (left.resolved caseId)

theorem Commits.of_getState {loaded : CaseStore} {state : InvestigationState}
    (read : getState cases caseId now = .ok (state, loaded)) :
    Commits cases loaded where
  changes := .of_getState read
  resolved other := by rw [cases_of_getState read]

theorem Commits.of_openNeed {request : OpenEvidenceNeed} {result : EvidenceNeedOpenResult}
    (opened : openEvidenceNeed cases knowledge request eventIds now = .ok (result, last)) :
    Commits cases last := by
  refine ⟨.of_openNeed opened, fun other => ?_⟩
  obtain ⟨turned | ⟨turned, -⟩, -⟩ := openEvidenceNeed_turned opened
  · exact turned.resolved other
  · exact turned.resolved other

theorem Commits.of_decision
    (committed : commitDecision cases commit eventIds now = .ok (result, last)) :
    Commits cases last := by
  have turned : Turned cases last commit.caseId [] true := commitDecision_turned committed
  exact ⟨.of_commitDecision committed, turned.resolved⟩

theorem Commits.finalizeDraft (store : ProductStore) (settings : ProductSettings)
    (state : InvestigationState) (draft : DecisionDraft) (sources : List CitationSource)
    (drawn : Drawn) : Commits store.cases
      (finalizeDraft store settings state draft sources drawn).2.cases := by
  unfold Application.finalizeDraft
  split
  next => exact .refl _
  next result decided =>
    split
    next => exact .refl _
    next committed cases commits =>
      split
      · exact .of_decision commits
      · exact .of_decision commits

theorem Commits.of_continuation {state : InvestigationState} {request : ContinuationRequest}
    {answer : Except Raised EvidenceNeedOpenResult}
    (answered : commitContinuation store settings knowledge state request drawn =
      (answer, next)) : Commits store.cases next.cases := by
  unfold commitContinuation at answered
  split at answered
  next =>
    cases answered
    exact .refl _
  next =>
    cases answered
    show Commits store.cases (acceptContinuation _ _ _ _ _ _).2
    unfold acceptContinuation
    cases read : getState store.cases request.caseId drawn.now with
    | error raised => exact .refl _
    | ok loaded =>
        obtain ⟨current, loaded⟩ := loaded
        have reads : Commits store.cases loaded := .of_getState read
        dsimp only
        split
        · split
          next => exact reads
          next result last opened => exact reads.trans (.of_openNeed opened)
        · exact reads

variable {episode : Episode}

/-- A partial report is never without a gap. -/
theorem tryPartialReport_commits {gap : String}
    (made : tryPartialReport store settings episode gap drawn = tried) :
    Commits store.cases tried.store.cases ∧
      ∀ outcome, tried.answer = .ok outcome → tried.incomplete = true := by
  unfold tryPartialReport at made
  split at made
  next =>
    subst made
    exact ⟨.refl _, fun outcome accepted => by cases accepted⟩
  next state cases read =>
    have reads : Commits store.cases cases := .of_getState read
    dsimp only at made
    split at made
    next =>
      subst made
      exact ⟨reads, fun outcome accepted => by cases accepted⟩
    next =>
      subst made
      exact ⟨reads.trans (.finalizeDraft { store with cases } settings state _ _ drawn), fun _ _ => rfl⟩

/-- **The inner `try`** commits, and it ends without a gap only where the episode has none
and a draft is accepted. -/
theorem tryProposal_commits
    (made : tryProposal store settings knowledge episode drawn proposal = tried) :
    Commits store.cases tried.store.cases ∧
      ∀ outcome, tried.answer = .ok outcome → tried.incomplete = false →
        episode.incomplete = false ∧ ∃ draft,
          finalizeDraft store settings episode.state draft episode.sources drawn =
            (.ok outcome, tried.store) := by
  cases proposal with
  | draft draft =>
      subst made
      refine ⟨.finalizeDraft _ _ _ _ _ _, fun outcome accepted whole => ⟨whole, draft, ?_⟩⟩
      exact Prod.ext accepted rfl
  | continuation request =>
      unfold tryProposal at made
      dsimp only at made
      split at made
      next raised last opened =>
        subst made
        exact ⟨.of_continuation opened, fun outcome accepted => by cases accepted⟩
      next result last opened =>
        obtain ⟨commits, gapped⟩ := tryPartialReport_commits made
        refine ⟨(Commits.of_continuation opened).trans commits, ?_⟩
        intro outcome accepted whole
        rw [gapped outcome accepted] at whole
        cases whole

theorem reportRejected_commits {gaps : Bool}
    (ok : reportRejected settings episode drawn tried = .ok (outcome, gaps, next)) :
    Commits tried.store.cases next.cases ∧
      (gaps = false → tried.incomplete = false ∧ tried.answer = .ok outcome ∧
        next = tried.store) := by
  unfold reportRejected at ok
  split at ok
  next accepted answer =>
    cases ok
    exact ⟨.refl _, fun whole => ⟨whole, answer, rfl⟩⟩
  next raised _ =>
    split at ok
    · obtain ⟨report, -, ok⟩ := bind_eq_ok.1 ok
      obtain ⟨accepted, -, ok⟩ := bind_eq_ok.1 ok
      cases ok
      refine ⟨.finalizeDraft _ _ _ _ _ _, fun whole => ?_⟩
      cases whole
    · cases ok

/-! ## The second transaction -/

/-- The case of an episode is left waiting, or it is resolved. -/
theorem settleCase_ok (settled : settleCase store caseId incomplete = .ok next) :
    Changes false store.cases next.cases ∧
      (∀ other, IsResolved next.cases.cases other ↔
        IsResolved store.cases.cases other ∨ incomplete = false ∧ other = caseId) ∧
      ∀ row, store.cases.cases.get? caseId = some row → ∃ later,
        next.cases.cases.get? caseId = some later ∧
        later.currentRevision = row.currentRevision := by
  have moved : ∀ {allowed target view cases},
      transitionCase store.cases caseId allowed target = .ok (view, cases) →
        ∀ row, store.cases.cases.get? caseId = some row → ∃ later,
          cases.cases.get? caseId = some later ∧ later.currentRevision = row.currentRevision := by
    intro allowed target view cases moved row found
    obtain ⟨_, -, ⟨-, rfl⟩ | ⟨-, -, rfl⟩⟩ := transitionCase_ok moved
    · exact ⟨row, found, rfl⟩
    · refine ⟨row.withStatus target, ?_, rfl⟩
      rw [updateCase, get?_update, if_pos rfl, found]
      rfl
  cases incomplete with
  | true =>
      obtain ⟨⟨view, cases⟩, waits, settled⟩ := bind_eq_ok.1 settled
      cases settled
      refine ⟨.of_transition waits, fun other => ?_, moved waits⟩
      rw [resolved_of_transition (by decide) (by decide) waits]
      simp
  | false =>
      obtain ⟨⟨view, cases⟩, resolves, settled⟩ := bind_eq_ok.1 settled
      cases settled
      refine ⟨.of_transition resolves, fun other => ?_, moved resolves⟩
      obtain ⟨row, found, ⟨already, rfl⟩ | ⟨-, -, rfl⟩⟩ := transitionCase_ok resolves
      · have resolved : IsResolved store.cases.cases caseId := by
          refine ⟨row, found, ?_⟩
          cases status : row.status <;> rw [status] at already <;> first | rfl | cases already
        constructor
        · exact .inl
        · rintro (before | ⟨-, rfl⟩)
          · exact before
          · exact resolved
      · unfold IsResolved
        dsimp only
        rw [updateCase, get?_update]
        by_cases same : caseId = other
        · subst same
          simp [found, InvestigationCaseModel.withStatus]
        · have different : ¬ other = caseId := fun equal => same equal.symm
          simp [same, different]

theorem cases_of_bindTurn {decisionId : String}
    (bound : bindTurn store episode decisionId = .ok next) : next.cases = store.cases := by
  unfold bindTurn at bound
  split at bound
  next =>
    cases bound
    rfl
  next =>
    obtain ⟨⟨turn, sessions⟩, -, bound⟩ := bind_eq_ok.1 bound
    cases bound
    rfl

theorem cases_of_finish {request : FinishDecision}
    (finished : finishCaseDecisionExecution store settings request drawn = .ok next) :
    next.cases = store.cases := by
  unfold finishCaseDecisionExecution at finished
  obtain ⟨executions, -, finished⟩ := bind_eq_ok.1 finished
  obtain ⟨view, -, same⟩ := moveRun_ok finished
  rw [same]

/-- **What the second transaction does to the cases**: it commits, and then the case of the
episode waits, or it is resolved. -/
structure SettlesCase (store next : ProductStore) (settings : ProductSettings) (drawn : Drawn)
    (episode : Episode) (outcome : DecisionOutcome) (incomplete : Bool) : Prop where
  commits : ∃ committed bound settled : ProductStore, Commits store.cases committed.cases ∧
    bound.cases = committed.cases ∧
    settleCase bound episode.state.caseId incomplete = .ok settled ∧
    next.cases = settled.cases ∧
    (incomplete = false → episode.incomplete = false ∧ ∃ draft,
      finalizeDraft store settings episode.state draft episode.sources drawn =
        (.ok outcome, committed))

theorem settleEpisode_cases
    (ok : settleEpisode store settings knowledge episode proposal drawn =
      .ok (settled, next)) :
    ∃ outcome incomplete, settled = .decided outcome incomplete ∧
      SettlesCase store next settings drawn episode outcome incomplete := by
  unfold settleEpisode at ok
  obtain ⟨⟨outcome, gaps, committed⟩, reports, ok⟩ := bind_eq_ok.1 ok
  obtain ⟨bound, binds, ok⟩ := bind_eq_ok.1 ok
  obtain ⟨parked, settles, ok⟩ := bind_eq_ok.1 ok
  obtain ⟨finished, finishes, ok⟩ := bind_eq_ok.1 ok
  cases ok
  obtain ⟨tries, accepted⟩ := tryProposal_commits
    (Eq.refl (tryProposal store settings knowledge episode drawn proposal))
  obtain ⟨commits, whole⟩ := reportRejected_commits reports
  refine ⟨outcome, _, rfl, committed, bound, parked, tries.trans commits, cases_of_bindTurn binds,
    settles, cases_of_finish finishes, fun complete => ?_⟩
  obtain ⟨closed, -⟩ := Bool.or_eq_false_iff.1 complete
  obtain ⟨sameGaps, answer, rfl⟩ := whole closed
  exact accepted outcome answer sameGaps

theorem SettlesCase.changes
    (settles : SettlesCase store next settings drawn episode outcome incomplete) :
    Changes false store.cases next.cases := by
  obtain ⟨committed, bound, settled, commits, same, parks, last, -⟩ := settles.commits
  have moves := (settleCase_ok parks).1
  rw [same] at moves
  rw [last]
  exact commits.changes.trans moves

/-- The transaction resolves the case of an episode that is complete, and no other. -/
theorem SettlesCase.resolved
    (settles : SettlesCase store next settings drawn episode outcome incomplete) (caseId : String) :
    IsResolved next.cases.cases caseId ↔
      IsResolved store.cases.cases caseId ∨ incomplete = false ∧ caseId = episode.state.caseId := by
  obtain ⟨committed, bound, settled, commits, same, parks, last, -⟩ := settles.commits
  rw [last, (settleCase_ok parks).2.1, same, commits.resolved]

/-- **A decision that is new** is appended to the log of its case, at the revision it was
made at. -/
theorem commitDecision_fresh
    (ok : commitDecision cases commit eventIds now = .ok (result, last))
    (fresh : result.replay = false) :
    ∃ later, last.cases.get? commit.caseId = some later ∧
      result.event ∈ last.eventsOf commit.caseId ∧ result.event.eventType = .decisionChanged ∧
      result.event.baseCaseRevision = commit.baseCaseRevision ∧
      result.event.caseRevision = later.currentRevision := by
  obtain ⟨row, locked, ⟨replayed, -⟩ | ⟨-, -, revision, logged, appended, rebuilds⟩⟩ :=
    commitDecision_course ok
  · cases fresh.symm.trans replayed
  · obtain ⟨found, -⟩ := lockCase_ok locked
    obtain ⟨⟨other, otherFound, made⟩, logs, -, -⟩ := appendEvent_ok appended
    obtain rfl := mem_unique found otherFound
    obtain ⟨_, -, -, rfl⟩ := rebuildState_ok rebuilds
    refine ⟨row.withEvent, ?_, ?_, by rw [made]; rfl, ?_, by rw [made]; rfl⟩
    · show logged.cases.get? commit.caseId = _
      rw [logs.cases, if_pos rfl, found]
      rfl
    · show result.event ∈ logged.eventsOf commit.caseId
      rw [logs.eventsOf, if_pos rfl]
      exact mem_append_right _ (mem_singleton_self _)
    · rw [made]
      exact_mod_cast revision

/-- **A new decision that resolves its case** leaves nothing open in it. -/
theorem SettlesCase.nothingLeftOpen
    (settles : SettlesCase store next settings drawn episode outcome false)
    (kept : GapsKept store.cases) (read : ReadFrom store.cases episode.state)
    (whole : episode.incomplete = false →
      episode.state.unknowns = [] ∧ episode.state.evidenceNeedIds = [])
    (fresh : outcome.committed.replay = false) :
    ∃ row, next.cases.cases.get? episode.state.caseId = some row ∧
      NothingLeftOpen next.cases episode.state.caseId row.currentRevision := by
  have changes := settles.changes
  obtain ⟨committed, bound, settled, commits, same, parks, last, complete⟩ := settles.commits
  obtain ⟨closed, draft, accepted⟩ := complete rfl
  obtain ⟨known, met⟩ := whole closed
  -- the decision is made at the revision of the state, which has nothing open
  obtain ⟨result, decided, cases, committing, sameCases, sameResult⟩ :
      ∃ result, ∃ decided : DecisionService.decide settings.sha256 episode.state draft
          episode.sources = .ok result, ∃ cases,
        commitDecision store.cases (decisionCommit result decided) drawn.caseEventIds drawn.now =
          .ok (outcome.committed, cases) ∧ committed.cases = cases ∧ outcome.decision = result := by
    unfold finalizeDraft at accepted
    split at accepted
    next => cases accepted
    next result decided =>
      split at accepted
      next => cases accepted
      next answer cases committing =>
        split at accepted
        · cases accepted
        · cases accepted
          exact ⟨result, decided, cases, committing, rfl, rfl⟩
  obtain ⟨sameCase, sameRevision, -, ofDraft, atDraft, -⟩ := decide_ok decided
  obtain ⟨row, found, member, type, base, revision⟩ := commitDecision_fresh committing fresh
  have ofCase : (decisionCommit result decided).caseId = episode.state.caseId :=
    ofDraft.trans sameCase
  have atRevision : (decisionCommit result decided).baseCaseRevision =
      episode.state.caseRevision := atDraft.trans sameRevision
  rw [ofCase] at found member
  rw [atRevision] at base
  obtain ⟨moves, -, further⟩ := settleCase_ok parks
  rw [same, sameCases] at moves further
  obtain ⟨later, laterFound, sameCurrent⟩ := further row found
  refine ⟨later, by rw [last]; exact laterFound, ?_⟩
  have committedKept := kept.changes commits.changes
  have before := (read.nothingLeftOpen known met).extends (.of_changes commits.changes)
  rw [sameCases] at before committedKept
  rw [← base] at before
  have after := before.decided committedKept.log member type
  rw [sameCurrent, ← revision, last]
  exact after.extends (.of_changes moves)

end Commits

/-! ## Each step -/

variable {settings : ProductSettings} {state after : FinalizeState}

def Attempt.episode : Attempt → Episode
  | .deciding episode | .raised episode _ => episode

/-- The episode has been read from its case, and is complete only if nothing is open. -/
structure ReadEpisode (store : ProductStore) (episode : Episode) : Prop where
  read : ReadFrom store.cases episode.state
  whole : episode.incomplete = false →
    episode.state.unknowns = [] ∧ episode.state.evidenceNeedIds = []

/-- **What holds in every state**: a resolved case has been read with nothing left open. -/
structure ResolvedKept (state : FinalizeState) : Prop where
  gaps : GapsKept state.store.cases
  attempts : ∀ attempt stage, state.attempts attempt = some stage →
    ReadEpisode state.store stage.episode
  resolved : ∀ caseId, IsResolved state.store.cases.cases caseId →
    ∃ revision, NothingLeftOpen state.store.cases caseId revision

theorem ResolvedKept.initial : ResolvedKept FinalizeState.initial where
  gaps := GapsKept.empty
  attempts attempt stage found := by cases found
  resolved caseId resolved := by
    obtain ⟨row, found, -⟩ := resolved
    cases found

theorem ResolvedKept.steps {recording : Bool} (kept : ResolvedKept state)
    (changes : Changes recording state.store.cases after.store.cases)
    (attempts : ∀ attempt stage, after.attempts attempt = some stage →
      (∃ before, state.attempts attempt = some before ∧ before.episode = stage.episode) ∨
        ReadEpisode after.store stage.episode)
    (resolved : ∀ caseId, IsResolved after.store.cases.cases caseId →
      IsResolved state.store.cases.cases caseId ∨
        ∃ revision, NothingLeftOpen after.store.cases caseId revision) :
    ResolvedKept after where
  gaps := kept.gaps.changes changes
  attempts attempt stage found := by
    rcases attempts attempt stage found with ⟨before, held, same⟩ | reads
    · obtain ⟨read, whole⟩ := kept.attempts attempt before held
      rw [same] at read whole
      exact ⟨read.extends (.of_changes changes), whole⟩
    · exact reads
  resolved caseId now := by
    rcases resolved caseId now with before | nothing
    · obtain ⟨revision, nothing⟩ := kept.resolved caseId before
      exact ⟨revision, nothing.extends (.of_changes changes)⟩
    · exact nothing

/-- The cases of a step that writes none of them. -/
theorem ResolvedKept.of_cases (kept : ResolvedKept state)
    (cases : after.store.cases = state.store.cases)
    (attempts : ∀ attempt stage, after.attempts attempt = some stage →
      ∃ before, state.attempts attempt = some before ∧ before.episode = stage.episode) :
    ResolvedKept after := by
  have changes : Changes false state.store.cases after.store.cases := by
    rw [cases]
    exact .refl
  refine kept.steps changes (fun attempt stage found => .inl (attempts attempt stage found))
    fun caseId resolved => .inl ?_
  rwa [cases] at resolved

/-- A delivery in its next stage is about the episode it was about. -/
theorem attempts_of_turn {before next : Attempt} (held : state.attempts attempt = some before)
    (same : before.episode = next.episode)
    (found : (state.turnTo attempt (some next)).attempts other = some stage) :
    ∃ earlier, state.attempts other = some earlier ∧ earlier.episode = stage.episode := by
  replace found : update state.attempts attempt (some next) other = some stage := found
  by_cases equal : other = attempt
  · subst equal
    rw [update_self] at found
    cases found
    exact ⟨before, held, same⟩
  · rw [update_of_ne equal] at found
    exact ⟨stage, found, rfl⟩

theorem attempts_of_end (found : (state.turnTo attempt none).attempts other = some stage) :
    ∃ earlier, state.attempts other = some earlier ∧ earlier.episode = stage.episode :=
  ⟨stage, attempts_of_over found, rfl⟩

theorem resolved_of_move {store next : CaseStore} {move : CaseMove} {view : InvestigationCaseModel}
    (other : move ≠ .resolve) (ok : moveCase store caseId now move = .ok (view, next))
    (named : String) :
    (IsResolved next.cases named → IsResolved store.cases named) ∧
      ((∀ running, move = .close running → caseId ≠ named) →
        IsResolved store.cases named → IsResolved next.cases named) := by
  have transitions : (IsResolved next.cases named ↔ IsResolved store.cases named) →
      (IsResolved next.cases named → IsResolved store.cases named) ∧
        ((∀ running, move = .close running → caseId ≠ named) →
          IsResolved store.cases named → IsResolved next.cases named) :=
    fun same => ⟨same.1, fun _ => same.2⟩
  cases move with
  | activate => exact transitions (resolved_of_transition (by decide) (by decide) ok named)
  | wait => exact transitions (resolved_of_transition (by decide) (by decide) ok named)
  | resolve => exact absurd rfl other
  | cancel => exact transitions (resolved_of_transition (by decide) (by decide) ok named)
  | close running =>
      simp only [moveCase, closeCase, getCase] at ok
      obtain ⟨row, found, ok⟩ := fetch_bind_eq_ok.1 ok
      split at ok
      next =>
        cases ok
        exact ⟨id, fun _ => id⟩
      next =>
        obtain ⟨-, ok⟩ := require_bind_eq_ok.1 ok
        obtain ⟨-, ok⟩ := require_bind_eq_ok.1 ok
        cases ok
        unfold IsResolved
        rw [updateCase, get?_update]
        split
        next same =>
          refine ⟨?_, fun apart => absurd same (apart running rfl)⟩
          rw [← same, found]
          rintro ⟨later, laterFound, resolved⟩
          cases laterFound
          cases resolved
        next => exact ⟨id, fun _ => id⟩

theorem cases_of_openFinalization {parentRunId : String} {cited : String → Option CitedEvidence}
    {opened : OpenedFinalization}
    (ok : openFinalization store settings parentRunId cited drawn = .ok (opened, next)) :
    next.cases.cases = store.cases.cases := by
  have idle : ∀ resultRef, (.ok (OpenedFinalization.returned resultRef, store) :
      Except Raised (OpenedFinalization × ProductStore)) = .ok (opened, next) →
      next.cases.cases = store.cases.cases := by
    intro resultRef same
    cases same
    rfl
  unfold openFinalization at ok
  obtain ⟨parent, -, ok⟩ := bind_eq_ok.1 ok
  split at ok
  next => exact idle none ok
  next caseId _ =>
    split at ok
    next => exact idle none ok
    next =>
      obtain ⟨contract, -, ok⟩ := bind_eq_ok.1 ok
      split at ok
      next =>
        unfold openEpisode at ok
        obtain ⟨⟨read, cases⟩, reads, ok⟩ := bind_eq_ok.1 ok
        have same := cases_of_getState reads
        dsimp only at ok
        split at ok
        next =>
          cases ok
          exact same
        next =>
          obtain ⟨⟨executionId, last⟩, opens, ok⟩ := bind_eq_ok.1 ok
          obtain ⟨envelope, -, ok⟩ := bind_eq_ok.1 ok
          obtain ⟨parentEnvelope, -, ok⟩ := bind_eq_ok.1 ok
          cases ok
          rcases openDecisionRun_ok (decisionRunId_ne_empty _) opens with
            ⟨run, -, -, rfl⟩ | ⟨-, opensRun⟩
          · exact same
          · rw [opensRun.same.1]
            exact same
      next => exact idle none ok

/-- Cases are resolved by finalizations only. -/
def FinalizeOp.ByFinalization : FinalizeOp → Prop
  | .cases (.move _ move _) => move ≠ .resolve
  | .cases _ | .tasks _ | .executions _ | .turn .. | .opens .. | .settles .. | .raises ..
  | .fails .. | .crashes _ => True

/-- **The cases after a call on them.** -/
theorem resolved_of_call {op : CaseOp} {answer : CaseAnswer} {store next : CaseStore}
    (byFinalization : (FinalizeOp.cases op).ByFinalization)
    (ok : caseService op store = .ok (answer, next)) (caseId : String) :
    (IsResolved next.cases caseId → IsResolved store.cases caseId) ∧
      ((∀ running now, op ≠ .move caseId (.close running) now) →
        IsResolved store.cases caseId → IsResolved next.cases caseId) := by
  cases moves : op.isMove with
  | false =>
      have same := resolved_of_ok moves ok caseId
      exact ⟨same.1, fun _ => same.2⟩
  | true =>
      cases op with
      | move moved move now =>
          obtain ⟨⟨row, last⟩, called, ok⟩ := bind_eq_ok.1 ok
          cases ok
          obtain ⟨back, stays⟩ := resolved_of_move byFinalization called caseId
          refine ⟨back, fun unclosed => stays ?_⟩
          rintro running rfl rfl
          exact unclosed running now rfl
      | _ => cases moves

theorem settleFinalization_cases
    (ok : settleFinalization store settings knowledge episode proposal drawn =
      .ok (settled, next)) :
    (∃ resultRef, settled = .returned resultRef ∧ next = store) ∨
      ∃ outcome incomplete, settled = .decided outcome incomplete ∧
        SettlesCase store next settings drawn episode outcome incomplete := by
  unfold settleFinalization at ok
  obtain ⟨tried, -, ok⟩ := bind_eq_ok.1 ok
  obtain ⟨current, -, ok⟩ := bind_eq_ok.1 ok
  split at ok
  next =>
    cases ok
    exact .inl ⟨_, rfl, rfl⟩
  next => exact .inr (settleEpisode_cases ok)

/-- **The state after a second transaction.** -/
theorem ResolvedKept.settle (kept : ResolvedKept state)
    (present : state.attempts attempt = some (.deciding episode)) :
    ResolvedKept (state.settle settings attempt episode proposal knowledge drawn) ∧
      ∀ caseId, IsResolved state.store.cases.cases caseId → IsResolved
        (state.settle settings attempt episode proposal knowledge drawn).store.cases.cases
          caseId := by
  obtain ⟨read, whole⟩ := kept.attempts attempt _ present
  unfold FinalizeState.settle
  cases answered : settleFinalization state.store settings knowledge episode proposal drawn with
  | error raised =>
      have same : (Attempt.deciding episode).episode = (Attempt.raised episode raised).episode := rfl
      exact ⟨kept.of_cases rfl fun name stage found => attempts_of_turn present same found,
        fun caseId resolved => resolved⟩
  | ok result =>
      obtain ⟨settled, next⟩ := result
      rcases settleFinalization_cases answered with
        ⟨resultRef, rfl, rfl⟩ | ⟨outcome, incomplete, rfl, settles⟩
      · exact ⟨kept.of_cases rfl fun name stage found => attempts_of_end found,
          fun caseId resolved => resolved⟩
      · refine ⟨kept.steps settles.changes (fun name stage found => .inl (attempts_of_end found))
          fun caseId resolved => ?_, fun caseId resolved => (settles.resolved caseId).2
            (.inl resolved)⟩
        rcases (settles.resolved caseId).1 resolved with before | ⟨complete, rfl⟩
        · exact .inl before
        · obtain ⟨_, _, _, -, -, -, -, accepted⟩ := settles.commits
          obtain ⟨known, met⟩ := whole (accepted complete).1
          exact .inr ⟨_, (read.nothingLeftOpen known met).extends (.of_changes settles.changes)⟩

/-- **Every step** keeps what holds, and a resolved case stays resolved unless it is
closed. -/
theorem ResolvedKept.step {op : FinalizeOp} {answer : Unit} (kept : ResolvedKept state)
    (byFinalization : op.ByFinalization)
    (ok : finalizeSystem settings op state = .ok (answer, after)) :
    ResolvedKept after ∧ ∀ caseId,
      (∀ running now, op ≠ .cases (.move caseId (.close running) now)) →
      IsResolved state.store.cases.cases caseId → IsResolved after.store.cases.cases caseId := by
  have idle : ∀ {last : FinalizeState}, last.store.cases = state.store.cases →
      (∀ attempt stage, last.attempts attempt = some stage →
        ∃ before, state.attempts attempt = some before ∧ before.episode = stage.episode) →
      ResolvedKept last ∧ ∀ caseId,
        (∀ running now, op ≠ .cases (.move caseId (.close running) now)) →
        IsResolved state.store.cases.cases caseId → IsResolved last.store.cases.cases caseId := by
    intro last cases attempts
    refine ⟨kept.of_cases cases attempts, fun caseId _ resolved => ?_⟩
    rwa [cases]
  have same : ∀ attempt stage, state.attempts attempt = some stage →
      ∃ before, state.attempts attempt = some before ∧ before.episode = stage.episode :=
    fun attempt stage found => ⟨stage, found, rfl⟩
  cases op with
  | cases op =>
      obtain ⟨⟨result, cases⟩, called, ok⟩ := bind_eq_ok.1 ok
      cases ok
      have changes : Changes op.records state.store.cases cases :=
        changes_of_ok kept.gaps.logged called
      have calls := resolved_of_call byFinalization called
      refine ⟨kept.steps changes (fun attempt stage found => .inl (same attempt stage found))
        fun caseId resolved => .inl ((calls caseId).1 resolved), fun caseId unclosed => ?_⟩
      refine (calls caseId).2 fun running now equal => unclosed running now ?_
      rw [equal]
  | tasks op =>
      obtain ⟨⟨result, tasks⟩, -, ok⟩ := bind_eq_ok.1 ok
      cases ok
      exact idle rfl same
  | executions op =>
      obtain ⟨executions, -, ok⟩ := bind_eq_ok.1 ok
      cases ok
      exact idle rfl same
  | turn request turnId now =>
      obtain ⟨⟨turn, sessions⟩, -, ok⟩ := bind_eq_ok.1 ok
      cases ok
      exact idle rfl same
  | opens attempt parentRunId cited drawn =>
      obtain ⟨⟨opened, next⟩, called, ok⟩ := bind_eq_ok.1 ok
      have cases := cases_of_openFinalization called
      have stays : ∀ caseId, IsResolved state.store.cases.cases caseId →
          IsResolved next.cases.cases caseId := by
        intro caseId resolved
        rwa [cases]
      have back : ∀ caseId, IsResolved next.cases.cases caseId →
          IsResolved state.store.cases.cases caseId := by
        intro caseId resolved
        rwa [cases] at resolved
      rcases openFinalization_ok kept.gaps called with
        ⟨resultRef, loaded, rfl, rfl, changes⟩ | ⟨episode, rfl, opens⟩
      · cases ok
        exact ⟨kept.steps changes (fun attempt stage found => .inl (same attempt stage found))
          fun caseId resolved => .inl (back caseId resolved), fun caseId _ => stays caseId⟩
      · cases ok
        refine ⟨kept.steps opens.changes (fun name stage found => ?_)
          fun caseId resolved => .inl (back caseId resolved), fun caseId _ => stays caseId⟩
        replace found : update state.attempts attempt (some (.deciding episode)) name =
          some stage := found
        by_cases equal : name = attempt
        · subst equal
          rw [update_self] at found
          cases found
          exact .inr ⟨opens.read, opens.whole⟩
        · rw [update_of_ne equal] at found
          exact .inl (same name stage found)
  | settles attempt proposal knowledge drawn =>
      unfold finalizeSystem at ok
      dsimp only at ok
      split at ok
      next episode present =>
        cases ok
        obtain ⟨settled, stays⟩ := kept.settle present
        exact ⟨settled, fun caseId _ => stays caseId⟩
      all_goals
        cases ok
        exact idle rfl same
  | raises attempt error =>
      unfold finalizeSystem at ok
      dsimp only at ok
      split at ok
      next episode present =>
        cases ok
        have same : (Attempt.deciding episode).episode = (Attempt.raised episode error).episode :=
          rfl
        exact idle rfl fun name stage found => attempts_of_turn present same found
      all_goals
        cases ok
        exact idle rfl same
  | fails attempt drawn =>
      unfold finalizeSystem at ok
      dsimp only at ok
      split at ok
      next episode error present =>
        obtain ⟨store, failed, ok⟩ := bind_eq_ok.1 ok
        cases ok
        have cases : store.cases = state.store.cases := by
          unfold failFinalization at failed
          obtain ⟨current, -, failed⟩ := bind_eq_ok.1 failed
          split at failed
          · cases failed
            rfl
          · exact cases_of_finish failed
        exact idle cases fun name stage found => attempts_of_end found
      all_goals
        cases ok
        exact idle rfl same
  | crashes attempt =>
      cases ok
      exact idle rfl fun name stage found => attempts_of_end found

theorem resolvedKept_finalizeStateAfter (settings : ProductSettings) (ops : List FinalizeOp)
    (byFinalization : ∀ op ∈ ops, op.ByFinalization) :
    ResolvedKept (finalizeStateAfter settings ops) :=
  run_invariant_along (fun _ _ _ _ kept byFinalization ok =>
    (kept.step byFinalization ok).1) ResolvedKept.initial ops (.of_forall byFinalization)

/-! ## Every run -/

/-- The case is read at the revision, and nothing is open in it. -/
def ReadsAnswered (cases : CaseStore) (caseId : String) (revision : ℕ) : Prop :=
  ∃ read, getStateAtRevision cases caseId revision = .ok read ∧ read.unknowns = [] ∧
    read.evidenceNeedIds = []

theorem readsAnswered_of_nothing (kept : CaseLogKept cases) {revision : ℕ}
    (nothing : NothingLeftOpen cases caseId revision) :
    ReadsAnswered cases caseId revision := by
  obtain ⟨⟨row, found, reached⟩, unknowns, needs⟩ := nothing
  obtain ⟨read, ok, sameUnknowns, sameNeeds⟩ := getStateAtRevision_until kept found reached
  exact ⟨read, ok, sameUnknowns.trans unknowns, sameNeeds.trans needs⟩

/-- A need that is opened after the answer. -/
def needOpenedLater : FinalizeOp :=
  .cases (.openNeed packageKnowledge
    { caseId := "case-1", baseCaseRevision := 1, needId := "need-1", purpose := "watch"
      propositionOrQuestion := "is it still maintained", targetObjects := ["widget"] }
    watchEventIds 8)

end SecFusion.Application
