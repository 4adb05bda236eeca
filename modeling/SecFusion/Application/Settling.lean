import SecFusion.Application.DecisionRuns
import SecFusion.Investigation.Admitted

/-!
# Settling an episode

When the second transaction of a finalization commits.  The report that it writes names
the revision of the case that the first transaction has read, so the case must not have
moved since, unless the same decision, or the same need, is there already
(`Committable`); the turn of the chat must not be bound to another decision, and the
case must still take the move that follows (`Parks`).

`Settles` puts this together, one clause for each way in which the planner's answer is
taken, and `settleEpisode_of_settles` is the commit of the transaction.
-/

namespace SecFusion.Application

open Foundations Intelligence Execution TaskRuntime Investigation Reasoning

/-! ## What is rejected -/

section Rejecting

variable {α β : Type}

/-- Whatever is raised is a `ValueError`. -/
def Rejects (answered : Except Raised α) : Prop :=
  ∀ raised, answered = .error raised → isValueError raised = true

theorem Rejects.ok (value : α) : Rejects (.ok value : Except Raised α) := by
  intro raised same
  cases same

theorem Rejects.require {condition : Prop} [Decidable condition] (text : String) :
    Rejects (require condition (.valueError text)) := by
  intro raised same
  unfold Foundations.require at same
  split at same
  · cases same
  · cases same
    rfl

theorem Rejects.bind {first : Except Raised α} {rest : α → Except Raised β}
    (here : Rejects first) (later : ∀ value, Rejects (rest value)) : Rejects (first >>= rest) := by
  intro raised same
  cases answered : first with
  | error other =>
      rw [answered] at same
      cases same
      exact here _ answered
  | ok value =>
      rw [answered] at same
      exact later value raised same

theorem Rejects.forM {items : List α} {check : α → Except Raised Unit}
    (each : ∀ item, Rejects (check item)) : Rejects (items.forM check) := by
  induction items with
  | nil => exact .ok ()
  | cons item rest ih => exact (each item).bind fun _ => ih

theorem Rejects.mapM {items : List α} {convert : α → Except Raised β}
    (each : ∀ item, Rejects (convert item)) : Rejects (items.mapM convert) := by
  induction items with
  | nil => exact .ok []
  | cons item rest ih =>
      rw [List.mapM_cons]
      exact (each item).bind fun _ => ih.bind fun _ => .ok _

end Rejecting

theorem rejects_bindReference (sources : List CitationSource) (index : ℕ) (ref : String) :
    Rejects (bindReference sources index ref) := by
  unfold bindReference
  refine Rejects.bind ?_ fun _ => .ok _
  intro raised same
  cases present : sourceOf? sources ref <;> rw [present] at same <;> cases same
  rfl

theorem rejects_bindCitations (sources : List CitationSource) (index : ℕ)
    (refs : List (List String)) : Rejects (bindCitations sources index refs) := by
  induction refs generalizing index with
  | nil => exact .ok []
  | cons here rest ih =>
      exact (Rejects.mapM fun ref => rejects_bindReference sources index ref).bind fun _ =>
        (ih (index + 1)).bind fun _ => .ok _

/-- A draft is refused by a `ValueError`. -/
theorem rejects_decide (sha256 : JsonObject → String) (state : InvestigationState)
    (draft : DecisionDraft) (sources : List CitationSource) :
    Rejects (DecisionService.decide sha256 state draft sources) := by
  unfold DecisionService.decide requireStateIdentity
  refine Rejects.bind ((Rejects.require _).bind fun _ => .require _) fun _ => ?_
  refine Rejects.bind (Rejects.forM fun conclusion => ?_) fun _ => ?_
  · unfold checkConclusion
    exact (Rejects.require _).bind fun _ => (Rejects.require _).bind fun _ => .require _
  · refine (Rejects.require _).bind fun _ => (Rejects.require _).bind fun _ => ?_
    exact (rejects_bindCitations sources 0 _).bind fun _ => .ok _

theorem rejects_requestContinuation (state : InvestigationState) (request : ContinuationRequest) :
    Rejects (requestContinuation state request) := by
  unfold requestContinuation requireStateIdentity
  exact ((Rejects.require _).bind fun _ => .require _).bind fun _ => .require _

theorem rejects_partialEvidenceReport (state : InvestigationState) (gap : String) :
    Rejects (partialEvidenceReport state gap) := by
  unfold partialEvidenceReport
  refine Rejects.bind (Rejects.mapM fun item => ?_) fun _ => ?_
  · unfold factConclusion
    intro raised same
    split at same
    · split at same
      · cases same
      · cases same
        rfl
    · cases same
      rfl
  · dsimp only
    intro raised same
    split at same
    · cases same
    · cases same
      rfl

/-! ## Committing a report -/

variable {store next : ProductStore} {settings : ProductSettings} {drawn : Drawn}
variable {state : InvestigationState} {row : InvestigationCaseModel}

/-- Nothing bears the identity of a draft about the case at the revision or a later one. -/
def Untold (settings : ProductSettings) (store : ProductStore) (caseId : String)
    (revision : ℕ) : Prop :=
  ∀ draft : DecisionDraft, draft.caseId = caseId → revision ≤ draft.caseRevision →
    store.decisions.get? (decisionIdOf settings.sha256 draft) = none ∧
      ∀ event ∈ store.cases.eventsOf caseId,
        event.patchId ≠ some (decisionIdOf settings.sha256 draft)

/-- The case takes a new decision: it is not closed or cancelled, and what is drawn and
hashed is new. -/
structure Ready (settings : ProductSettings) (store : ProductStore) (row : InvestigationCaseModel)
    (drawn : Drawn) : Prop where
  found : store.cases.cases.get? row.caseId = some row
  live : row.status.isImmutable = false
  fresh : FreshEvents store.cases row drawn.caseEventIds
  untold : Untold settings store row.caseId row.currentRevision

/-- **A result can be committed**, and the status of its case is then `after`: the case
is at the revision of the state, or the decision has been committed at it before. -/
inductive Committable (settings : ProductSettings) (store : ProductStore)
    (state : InvestigationState) (drawn : Drawn) (result : DecisionResult) : CaseStatus → Prop
  | current {row : InvestigationCaseModel} (ready : Ready settings store row drawn)
      (ofCase : row.caseId = state.caseId) (current : row.currentRevision = state.caseRevision) :
      Committable settings store state drawn result row.status.afterEvent
  | told {row : InvestigationCaseModel} {event : CaseStateEventModel}
      (found : store.cases.cases.get? state.caseId = some row)
      (live : row.status.isImmutable = false)
      (told : eventOfCall? store.cases state.caseId result.decisionId .decisionChanged = some event)
      (base : event.baseCaseRevision = state.caseRevision)
      (storable : Storable settings.sha256 store.decisions result) :
      Committable settings store state drawn result row.status

/-- **A result has been committed** to the case of the state, and stored. -/
structure Finalized (store next : ProductStore) (state : InvestigationState)
    (after : CaseStatus) (outcome : DecisionOutcome) : Prop where
  same : next.tasks = store.tasks ∧ next.executions = store.executions ∧
    next.sessions = store.sessions
  changes : Changes false store.cases next.cases
  logged : outcome.committed.event ∈ next.cases.eventsOf state.caseId
  type : outcome.committed.event.eventType = .decisionChanged
  named : outcome.committed.event.patchId = some outcome.decision.decisionId
  identity : isBlank outcome.decision.decisionId = false
  base : outcome.committed.event.baseCaseRevision = state.caseRevision
  stored : ∃ row, next.decisions.get? outcome.decision.decisionId = some row
  keeps : ∀ id row, store.decisions.get? id = some row → next.decisions.get? id = some row
  row : ∃ row, next.cases.cases.get? state.caseId = some row ∧ row.status = after

variable {cases middle : CaseStore} {caseId : String} {event : CaseStateEventModel}
  {draft : DecisionDraft} {sources : List CitationSource} {result : DecisionResult}
  {after : CaseStatus} {raised : Raised} {episode : Episode} {request : ContinuationRequest}
  {proposal : Proposal}

/-- The event of a decision that has been found is the case's, and bears its identity. -/
theorem eventOfCall?_eq_some {patchId : String} {eventType : CaseStateEventType}
    (told : eventOfCall? cases caseId patchId eventType = some event) :
    event ∈ cases.eventsOf caseId ∧ event.patchId = some patchId ∧ event.eventType = eventType := by
  unfold eventOfCall? at told
  have holds := find?_some told
  rw [decide_eq_true_eq] at holds
  exact ⟨mem_of_find?_eq_some told, holds.1, holds.2.2⟩

theorem commitDecision_of_committable (kept : CaseLogKept store.cases)
    (decided : DecisionService.decide settings.sha256 state draft sources = .ok result)
    (committable : Committable settings store state drawn result after) :
    Storable settings.sha256 store.decisions result ∧
      ∃ committed cases, commitDecision store.cases (decisionCommit result decided)
          drawn.caseEventIds drawn.now = .ok (committed, cases) ∧
        committed.event ∈ cases.eventsOf state.caseId ∧
        committed.event.eventType = .decisionChanged ∧
        committed.event.patchId = some result.decisionId ∧
        committed.event.baseCaseRevision = state.caseRevision ∧
        ∃ row, cases.cases.get? state.caseId = some row ∧ row.status = after := by
  obtain ⟨draftCase, draftRevision, identity, sameCase, sameRevision, -, -⟩ := decide_ok decided
  have ofCase : (decisionCommit result decided).caseId = state.caseId := sameCase.trans draftCase
  have revision : (decisionCommit result decided).baseCaseRevision = state.caseRevision :=
    sameRevision.trans draftRevision
  cases committable with
  | @current row ready sameRow current =>
      obtain ⟨absent, unpatched⟩ := ready.untold draft (draftCase.trans sameRow.symm)
        (le_of_eq (current.trans draftRevision.symm))
      rw [← identity] at absent unpatched
      rw [sameRow.trans ofCase.symm] at unpatched
      have found := ready.found
      rw [sameRow.trans ofCase.symm] at found
      obtain ⟨committed, cases, called, enters, type, named⟩ := commitDecision_of_current kept found
        ready.live (current.trans revision.symm) ready.fresh unpatched drawn.now
      refine ⟨?_, committed, cases, called, ?_, type, named, enters.base.trans current,
        ⟨row.withEvent, ?_, rfl⟩⟩
      · intro existing stored
        rw [absent] at stored
        cases stored
      · rw [← sameRow, enters.eventsOf]
        exact mem_append_right _ (mem_singleton_self _)
      · rw [← sameRow]
        exact enters.cases
  | @told row event found live told base storable =>
      obtain ⟨member, named, type⟩ := eventOfCall?_eq_some told
      rw [← ofCase] at found told
      obtain ⟨committed, cases, called, same, sameCases, sameEvents⟩ :=
        commitDecision_of_told found live told drawn.caseEventIds drawn.now
      rw [ofCase] at found
      refine ⟨storable, committed, cases, called, ?_, by rw [same, type], by rw [same, named],
        by rw [same, base], ⟨row, by rw [sameCases, found], rfl⟩⟩
      rw [same, eventsOf, sameEvents]
      exact member

/-- **A committable draft is finalized.** -/
theorem finalizeDraft_of_committable (kept : CaseLogKept store.cases)
    (decided : DecisionService.decide settings.sha256 state draft sources = .ok result)
    (committable : Committable settings store state drawn result after) :
    ∃ outcome next, finalizeDraft store settings state draft sources drawn = (.ok outcome, next) ∧
      outcome.decision = result ∧ Finalized store next state after outcome := by
  obtain ⟨storable, committed, cases, called, logged, type, named, base, moved⟩ :=
    commitDecision_of_committable kept decided committable
  obtain ⟨stored, decisions, persisted⟩ := persist_of_storable storable drawn.now
  obtain ⟨present, -, keeps⟩ := persist_ok persisted
  have ok : finalizeDraft store settings state draft sources drawn =
      (.ok ⟨result, committed⟩, { store with cases, decisions }) := by
    unfold finalizeDraft
    split
    next raised refused =>
      rw [decided] at refused
      cases refused
    next other accepted =>
      obtain rfl : result = other := Except.ok.inj (decided.symm.trans accepted)
      rw [called]
      dsimp only
      rw [persisted]
  have identity : isBlank result.decisionId = false := by
    rw [(decide_ok decided).2.2.1]
    exact isBlank_append (by decide)
  exact ⟨_, _, ok, rfl, ⟨rfl, rfl, rfl⟩, Changes.of_commitDecision called, logged, type, named,
    identity, base, ⟨_, present⟩, keeps, moved⟩

/-- A draft that is refused leaves the store, and raises a `ValueError`. -/
theorem finalizeDraft_of_refused
    (refused : DecisionService.decide settings.sha256 state draft sources = .error raised) :
    finalizeDraft store settings state draft sources drawn = (.error raised, store) := by
  unfold finalizeDraft
  split
  next other again =>
    rw [Except.error.inj (refused.symm.trans again)]
  next result accepted =>
    rw [refused] at accepted
    cases accepted

/-! ## The report of what is missing -/

theorem insufficientEvidenceReport_of_named (named : isBlank state.caseId = false) :
    ∃ report, insufficientEvidenceReport state = .ok report ∧ report.caseId = state.caseId ∧
      report.caseRevision = state.caseRevision ∧ report.conclusions = [] ∧
      report.narrative = [insufficientParagraph state] ∧ report.reportLayout = none := by
  unfold insufficientEvidenceReport
  rw [dif_pos named]
  exact ⟨_, rfl, rfl, rfl, rfl, rfl, rfl⟩

/-- **The report of what is missing** is always accepted for the state it is about. -/
theorem decide_insufficient (named : isBlank state.caseId = false)
    (sha256 : JsonObject → String) (sources : List CitationSource) :
    ∃ report result, insufficientEvidenceReport state = .ok report ∧
      DecisionService.decide sha256 state report sources = .ok result := by
  obtain ⟨report, made, ofCase, revision, inconclusive, narrative, plain⟩ :=
    insufficientEvidenceReport_of_named named
  have uncited : ∀ paragraph ∈ report.narrative, paragraph.evidenceRefs = [] := by
    intro paragraph member
    rw [narrative, mem_singleton] at member
    rw [member]
    unfold insufficientParagraph
    split <;> rfl
  obtain ⟨result, decided⟩ := decide_inconclusive ofCase revision inconclusive uncited plain
  exact ⟨report, result, made, decided⟩

/-! ## What the session has come to -/

/-- The turn of the chat is bound to no other decision. -/
def TurnFree (store : ProductStore) (episode : Episode) (decisionId : String) : Prop :=
  ∀ requestId ∈ episode.requestId,
    store.sessions.Bindable episode.principal requestId episode.state.caseId decisionId

/-- The turn of the chat is bound to no decision. -/
def TurnUnbound (store : ProductStore) (episode : Episode) : Prop :=
  ∀ requestId ∈ episode.requestId,
    ∀ turn ∈ store.sessions.investigationTurn? episode.principal requestId episode.state.caseId,
      turn.decisionRef = none

theorem TurnUnbound.free (unbound : TurnUnbound store episode) (decisionId : String) :
    TurnFree store episode decisionId := by
  intro requestId given turn present other bound
  rw [unbound requestId given turn present] at bound
  cases bound

/-- The status of a case allows the move after a decision, or it has been made. -/
def Parks (status : CaseStatus) (incomplete : Bool) : Prop :=
  status.normalized ∈ if incomplete then [CaseStatus.waiting, .active]
    else [CaseStatus.resolved, .active, .waiting]

/-- **The inner `try` has come to a decision** about the case of the episode, from the
given store: it is committed and stored, its turn is free and its case can be moved. -/
structure Decided (store next : ProductStore) (episode : Episode) (outcome : DecisionOutcome)
    (gaps : Bool) : Prop where
  same : next.tasks = store.tasks ∧ next.executions = store.executions ∧
    next.sessions = store.sessions
  changes : Changes false store.cases next.cases
  logged : outcome.committed.event ∈ next.cases.eventsOf episode.state.caseId
  type : outcome.committed.event.eventType = .decisionChanged
  named : outcome.committed.event.patchId = some outcome.decision.decisionId
  identity : isBlank outcome.decision.decisionId = false
  complete : gaps = false → episode.incomplete = false ∧
    outcome.committed.event.baseCaseRevision = episode.state.caseRevision
  stored : ∃ row, next.decisions.get? outcome.decision.decisionId = some row
  keeps : ∀ id row, store.decisions.get? id = some row → next.decisions.get? id = some row
  free : TurnFree store episode outcome.decision.decisionId
  parks : ∃ row, next.cases.cases.get? episode.state.caseId = some row ∧
    Parks row.status (gaps || decide (outcome.decision.unknowns ≠ []))

/-- A result that has been committed to the case of the episode, after writes to that
case alone. -/
theorem Finalized.decided {outcome : DecisionOutcome} {gaps : Bool}
    (finalized : Finalized { store with cases := middle } next state after outcome)
    (changes : Changes false store.cases middle) (ofCase : state.caseId = episode.state.caseId)
    (complete : gaps = false → episode.incomplete = false ∧
      state.caseRevision = episode.state.caseRevision)
    (free : TurnFree store episode outcome.decision.decisionId)
    (parks : Parks after (gaps || decide (outcome.decision.unknowns ≠ []))) :
    Decided store next episode outcome gaps := by
  obtain ⟨same, more, logged, type, named, identity, base, stored, keeps, row, found, status⟩ :=
    finalized
  rw [ofCase] at logged found
  refine ⟨same, changes.trans more, logged, type, named, identity, fun closed => ?_, stored, keeps,
    free, row, found, by rw [status]; exact parks⟩
  obtain ⟨whole, revision⟩ := complete closed
  exact ⟨whole, base.trans revision⟩

/-! ## The ways to a decision -/

/-- **The report of what is missing can be committed** for the episode, about the state. -/
def Reports (settings : ProductSettings) (store : ProductStore) (episode : Episode)
    (state : InvestigationState) (drawn : Drawn) : Prop :=
  isBlank state.caseId = false ∧
    ∀ report result, insufficientEvidenceReport state = .ok report →
      DecisionService.decide settings.sha256 state report episode.sources = .ok result →
        TurnFree store episode result.decisionId ∧ ∃ after,
          Committable settings store state drawn result after ∧ Parks after true

/-- **The condition under which a proposal settles its episode.** -/
inductive Settles (settings : ProductSettings) (store : ProductStore) (episode : Episode)
    (drawn : Drawn) : Proposal → Prop
  | accepted {draft : DecisionDraft} {result : DecisionResult} {after : CaseStatus}
      (decided : DecisionService.decide settings.sha256 episode.state draft episode.sources =
        .ok result)
      (committable : Committable settings store episode.state drawn result after)
      (free : TurnFree store episode result.decisionId)
      (parks : Parks after (episode.incomplete || decide (result.unknowns ≠ []))) :
      Settles settings store episode drawn (.draft draft)
  /-- A draft that is refused: the report of what is missing takes its place. -/
  | refused {draft : DecisionDraft} {raised : Raised}
      (refuses : DecisionService.decide settings.sha256 episode.state draft episode.sources =
        .error raised)
      (reports : Reports settings store episode episode.state drawn) :
      Settles settings store episode drawn (.draft draft)
  /-- A request that does not fit the state: so does it here. -/
  | unsuited {request : ContinuationRequest} {raised : Raised}
      (refuses : requestContinuation episode.state request = .error raised)
      (reports : Reports settings store episode episode.state drawn) :
      Settles settings store episode drawn (.continuation request)
  /-- A request that fits: its need is opened at the revision that has been read, or has
  been opened before; a partial report follows. -/
  | continued {request : ContinuationRequest} {row : InvestigationCaseModel}
      (suited : requestContinuation episode.state request = .ok ())
      (ready : Ready settings store row drawn) (ofCase : row.caseId = episode.state.caseId)
      (need : (store.cases.needs.get? (continuationNeedId settings.sha256 request) = none ∧
          row.currentRevision = episode.state.caseRevision) ∨
        OpenedBefore store.cases row.caseId (continuationNeedId settings.sha256 request))
      (unbound : TurnUnbound store episode) (parks : Parks row.status.afterEvent true) :
      Settles settings store episode drawn (.continuation request)

/-- The report of what is missing, in place of what has been rejected. -/
theorem reportRejected_of_reports (incomplete : Bool) (kept : CaseLogKept middle)
    (changes : Changes false store.cases middle) (ofCase : state.caseId = episode.state.caseId)
    (reports : Reports settings { store with cases := middle } episode state drawn)
    (value : isValueError raised = true) :
    ∃ outcome next, reportRejected settings episode drawn
        ⟨.error raised, state, incomplete, { store with cases := middle }⟩ =
          .ok (outcome, true, next) ∧
      Decided store next episode outcome true := by
  obtain ⟨named, committable⟩ := reports
  obtain ⟨report, result, made, decided⟩ := decide_insufficient named settings.sha256
    episode.sources
  obtain ⟨free, after, committable, parks⟩ := committable report result made decided
  obtain ⟨outcome, next, called, rfl, finalized⟩ := finalizeDraft_of_committable kept decided
    committable
  refine ⟨outcome, next, ?_, finalized.decided changes ofCase (by simp) free ?_⟩
  · unfold reportRejected
    dsimp only
    rw [if_pos value, made, ok_bind, called]
    rfl
  · rw [Bool.true_or]
    exact parks

/-! ## Continuing -/

/-- Neither rows nor log see the projection that is written. -/
theorem Ready.of_same (ready : Ready settings store row drawn)
    (cases : middle.cases = store.cases.cases) (events : middle.events = store.cases.events) :
    Ready settings { store with cases := middle } row drawn where
  found := by
    rw [cases]
    exact ready.found
  live := ready.live
  fresh := ready.fresh.of_same events
  untold := by
    intro draft ofCase later
    obtain ⟨absent, unpatched⟩ := ready.untold draft ofCase later
    refine ⟨absent, fun event member => unpatched event ?_⟩
    rw [eventsOf, events] at member
    exact member

/-- The case stays ready after the event of a need. -/
theorem Ready.enters (ready : Ready settings store row drawn)
    (enters : Enters store.cases middle row event) (unpatched : event.patchId = none)
    (identifier : event.eventId = drawn.caseEventIds row.caseId (row.currentRevision + 1)) :
    Ready settings { store with cases := middle } row.withEvent drawn where
  found := enters.cases
  live := by
    have live := ready.live
    show row.status.afterEvent.isImmutable = false
    revert live
    cases row.status <;> exact fun live => live
  fresh := ready.fresh.enters enters identifier
  untold := by
    intro draft ofCase later
    replace ofCase : draft.caseId = row.caseId := ofCase
    replace later : row.currentRevision + 1 ≤ draft.caseRevision := later
    obtain ⟨absent, old⟩ := ready.untold draft ofCase (by omega)
    refine ⟨absent, fun other member => ?_⟩
    replace member : other ∈ middle.eventsOf row.caseId := member
    rw [enters.eventsOf, mem_append, mem_singleton] at member
    rcases member with before | rfl
    · exact old other before
    · rw [unpatched]
      exact nofun

theorem CaseStatus.afterEvent_afterEvent (status : CaseStatus) :
    status.afterEvent.afterEvent = status.afterEvent := by
  cases status <;> rfl

/-- A ready case takes the report of what is missing about its present state. -/
theorem reports_of_ready (ready : Ready settings store row drawn)
    (ofCase : row.caseId = state.caseId) (current : row.currentRevision = state.caseRevision)
    (named : isBlank state.caseId = false) (unbound : TurnUnbound store episode)
    (parks : Parks row.status.afterEvent true) : Reports settings store episode state drawn :=
  ⟨named, fun _ _ _ _ => ⟨unbound.free _, _, .current ready ofCase current, parks⟩⟩

/-- **The report after a need has been opened**, about the state of the case then: the
partial report, or the report of what is missing. -/
theorem partialReport_of_ready (gap : String) (kept : GapsKept middle)
    (changes : Changes false store.cases middle)
    (ready : Ready settings { store with cases := middle } row drawn)
    (ofCase : row.caseId = episode.state.caseId) (named : isBlank episode.state.caseId = false)
    (unbound : TurnUnbound store episode) (parks : Parks row.status.afterEvent true) :
    ∃ outcome next, reportRejected settings episode drawn
        (tryPartialReport { store with cases := middle } settings episode gap drawn) =
          .ok (outcome, true, next) ∧
      Decided store next episode outcome true := by
  have found : middle.cases.get? episode.state.caseId = some row := by
    rw [← ofCase]
    exact ready.found
  obtain ⟨state, loaded, read⟩ := getState_of_found found drawn.now
  obtain ⟨other, otherFound, sameCase, current, -, more, sameCases, sameEvents⟩ :=
    kept.getState read
  obtain rfl := mem_unique otherFound found
  have reread : Ready settings { store with cases := loaded } other drawn :=
    ready.of_same sameCases sameEvents
  have log : CaseLogKept loaded := (kept.changes more).log
  have sofar : Changes false store.cases loaded := changes.trans more
  have reports : Reports settings { store with cases := loaded } episode state drawn :=
    reports_of_ready reread (ofCase.trans sameCase.symm) current.symm (sameCase ▸ named) unbound
      parks
  unfold tryPartialReport
  dsimp only
  rw [read]
  dsimp only
  cases report : partialEvidenceReport state gap with
  | error raised =>
      exact reportRejected_of_reports _ log sofar sameCase reports
        (rejects_partialEvidenceReport state gap raised report)
  | ok draft =>
      dsimp only
      cases decided : DecisionService.decide settings.sha256 state draft episode.sources with
      | error raised =>
          rw [finalizeDraft_of_refused decided]
          exact reportRejected_of_reports _ log sofar sameCase reports
            (rejects_decide settings.sha256 state draft episode.sources raised decided)
      | ok result =>
          obtain ⟨outcome, next, called, rfl, finalized⟩ := finalizeDraft_of_committable log decided
            (.current reread (ofCase.trans sameCase.symm) current.symm)
          rw [called]
          refine ⟨outcome, next, rfl, finalized.decided sofar sameCase (by simp) (unbound.free _) ?_⟩
          rw [Bool.true_or]
          exact parks

/-- What a request that fits the state says. -/
theorem requestContinuation_ok (suited : requestContinuation state request = .ok ()) :
    request.caseId = state.caseId ∧ request.baseCaseRevision = state.caseRevision ∧
      request.targetObjects ⊆ state.targets := by
  unfold requestContinuation requireStateIdentity at suited
  obtain ⟨_, identified, suited⟩ := bind_eq_ok.1 suited
  simp only [require_bind_eq_ok, require_eq_ok] at identified suited
  exact ⟨identified.1, identified.2, suited⟩

theorem commitContinuation_of_refused (knowledge : KnowledgeStore)
    (refuses : requestContinuation state request = .error raised) :
    commitContinuation store settings knowledge state request drawn = (.error raised, store) := by
  unfold commitContinuation
  rw [refuses]

theorem isBlank_length {text : String} (given : isBlank text = false) : 1 ≤ text.length := by
  unfold isBlank at given
  rw [← String.length_toList]
  cases letters : text.toList with
  | nil =>
      rw [letters] at given
      cases given
  | cons c rest => exact Nat.le_add_left 1 _

/-- **A request is accepted, or its objects are refused**, and the case stays ready. -/
theorem commitContinuation_of_ready (knowledge : KnowledgeStore) (kept : GapsKept store.cases)
    (read : ReadFrom store.cases state) (suited : requestContinuation state request = .ok ())
    (ready : Ready settings store row drawn) (ofCase : row.caseId = state.caseId)
    (need : (store.cases.needs.get? (continuationNeedId settings.sha256 request) = none ∧
        row.currentRevision = state.caseRevision) ∨
      OpenedBefore store.cases row.caseId (continuationNeedId settings.sha256 request)) :
    ∃ middle later, Changes false store.cases middle ∧
      Ready settings { store with cases := middle } later drawn ∧ later.caseId = row.caseId ∧
      later.status.afterEvent = row.status.afterEvent ∧
      ((∃ result, commitContinuation store settings knowledge state request drawn =
          (.ok result, { store with cases := middle })) ∨
        ∃ raised, isValueError raised = true ∧
          commitContinuation store settings knowledge state request drawn =
            (.error raised, { store with cases := middle }) ∧
          later.currentRevision = state.caseRevision) := by
  obtain ⟨sameCase, base, targets⟩ := requestContinuation_ok suited
  have ofRequest : row.caseId = request.caseId := ofCase.trans sameCase.symm
  have found : store.cases.cases.get? request.caseId = some row := by
    rw [← ofRequest]
    exact ready.found
  obtain ⟨view, loaded, loads⟩ := getState_of_found found drawn.now
  obtain ⟨other, otherFound, viewCase, -, viewRead, changes, sameCases, sameEvents⟩ :=
    kept.getState loads
  obtain rfl := mem_unique otherFound found
  -- the objects of a case do not change
  have within : request.targetObjects ⊆ view.targets := by
    obtain ⟨first, firstFound, -, firstTargets⟩ := read.row
    obtain ⟨second, secondFound, -, secondTargets⟩ := viewRead.row
    rw [← sameCase, found] at firstFound
    rw [viewCase, found] at secondFound
    rw [← secondTargets, ← Option.some.inj secondFound, Option.some.inj firstFound, firstTargets]
    exact targets
  have reloaded : Ready settings { store with cases := loaded } other drawn :=
    ready.of_same sameCases sameEvents
  have loadedFound : loaded.cases.get? request.caseId = some other := by
    rw [sameCases, found]
  have refuses : ∀ raised, openEvidenceNeed loaded knowledge
        (continuationNeed settings.sha256 request) drawn.caseEventIds drawn.now = .error raised →
      commitContinuation store settings knowledge state request drawn =
        (.error raised, { store with cases := loaded }) := by
    intro raised refused
    unfold commitContinuation acceptContinuation
    rw [suited]
    dsimp only
    rw [loads]
    dsimp only
    rw [if_pos within, refused]
  have accepts : ∀ result next, openEvidenceNeed loaded knowledge
        (continuationNeed settings.sha256 request) drawn.caseEventIds drawn.now =
          .ok (result, next) →
      commitContinuation store settings knowledge state request drawn =
        (.ok result, { store with cases := next }) := by
    intro result next ok
    unfold commitContinuation acceptContinuation
    rw [suited]
    dsimp only
    rw [loads]
    dsimp only
    rw [if_pos within, ok]
  have sameNeeds : loaded.needs = store.cases.needs := by
    obtain ⟨_, -, ⟨-, rfl⟩ | ⟨-, -, rfl⟩⟩ := getState_ok loads <;> rfl
  rcases need with ⟨absent, current⟩ | opened
  · have revision : (other.currentRevision : ℤ) = request.baseCaseRevision := by
      rw [current, base]
    have question : isBlank request.propositionOrQuestion = false :=
      request.given _ (by simp)
    have purpose : isBlank request.purpose = false := request.given _ (by simp)
    have bounds : 1 ≤ request.purpose.length ∧ request.purpose.length ≤ 256 :=
      ⟨isBlank_length purpose, request.purpose_fits.trans (by decide)⟩
    rcases openEvidenceNeed_of_current (kept.changes changes).log knowledge
        (continuationNeed settings.sha256 request) loadedFound ready.live revision reloaded.fresh
        (by rw [sameNeeds]; exact absent) ⟨question, purpose⟩ bounds request.priority_bounds
        drawn.now with
      ⟨message, refused⟩ | ⟨result, next, ok, enters, unpatched, identifier⟩
    · rw [refuses _ refused]
      exact ⟨loaded, other, changes, reloaded, rfl, rfl, .inr ⟨_, rfl, rfl, current⟩⟩
    · rw [accepts _ _ ok]
      exact ⟨next, other.withEvent, changes.trans (Changes.of_openNeed ok),
        reloaded.enters enters unpatched identifier, rfl,
        CaseStatus.afterEvent_afterEvent other.status, .inl ⟨_, rfl⟩⟩
  · have again : OpenedBefore loaded request.caseId
        (continuationNeedId settings.sha256 request) := by
      obtain ⟨existing, existingFound, viewed, event, member, type, named⟩ := opened
      refine ⟨existing, by rw [sameNeeds]; exact existingFound, viewed, event, ?_, type, named⟩
      rw [← ofRequest, eventsOf, sameEvents]
      exact member
    obtain ⟨result, next, ok, nextCases, nextEvents⟩ := openEvidenceNeed_of_opened
      knowledge (continuationNeed settings.sha256 request) loadedFound ready.live again
      drawn.caseEventIds drawn.now
    rw [accepts _ _ ok]
    exact ⟨next, other, changes.trans (Changes.of_openNeed ok),
      reloaded.of_same nextCases nextEvents, rfl, rfl, .inl ⟨_, rfl⟩⟩

/-- **A proposal that settles its episode** comes to a decision. -/
theorem reportRejected_of_settles (knowledge : KnowledgeStore) (kept : GapsKept store.cases)
    (read : ReadFrom store.cases episode.state)
    (settles : Settles settings store episode drawn proposal) :
    ∃ outcome gaps next, reportRejected settings episode drawn
        (tryProposal store settings knowledge episode drawn proposal) =
          .ok (outcome, gaps, next) ∧
      Decided store next episode outcome gaps := by
  cases settles with
  | @accepted draft result after decided committable free parks =>
      obtain ⟨outcome, next, called, rfl, finalized⟩ :=
        finalizeDraft_of_committable kept.log decided committable
      refine ⟨outcome, episode.incomplete, next, ?_,
        finalized.decided .refl rfl (fun whole => ⟨whole, rfl⟩) free parks⟩
      unfold tryProposal
      dsimp only
      rw [called]
      rfl
  | @refused draft raised refuses reports =>
      obtain ⟨outcome, next, called, decided⟩ := reportRejected_of_reports
        episode.incomplete kept.log .refl rfl reports
        (rejects_decide settings.sha256 _ draft _ raised refuses)
      refine ⟨outcome, true, next, ?_, decided⟩
      unfold tryProposal
      dsimp only
      rw [finalizeDraft_of_refused refuses]
      exact called
  | @unsuited request raised refuses reports =>
      obtain ⟨outcome, next, called, decided⟩ := reportRejected_of_reports
        episode.incomplete kept.log .refl rfl reports
        (rejects_requestContinuation _ request raised refuses)
      refine ⟨outcome, true, next, ?_, decided⟩
      unfold tryProposal
      dsimp only
      rw [commitContinuation_of_refused knowledge refuses]
      exact called
  | @continued request row suited ready ofCase need unbound parks =>
      obtain ⟨middle, later, changes, stays, sameCase, sameStatus, accepted⟩ :=
        commitContinuation_of_ready knowledge kept read suited ready ofCase need
      have named : isBlank episode.state.caseId = false := by
        rw [← (requestContinuation_ok suited).1]
        exact request.given _ (by simp)
      have inCase : later.caseId = episode.state.caseId := sameCase.trans ofCase
      rw [← sameStatus] at parks
      rcases accepted with ⟨result, called⟩ | ⟨raised, value, called, current⟩
      · obtain ⟨outcome, next, reported, decided⟩ := partialReport_of_ready
          request.propositionOrQuestion (kept.changes changes) changes stays inCase named unbound
          parks
        refine ⟨outcome, true, next, ?_, decided⟩
        unfold tryProposal
        dsimp only
        rw [called]
        exact reported
      · have reports := reports_of_ready stays inCase current named unbound parks
        obtain ⟨outcome, next, reported, decided⟩ := reportRejected_of_reports
          episode.incomplete (kept.changes changes).log changes rfl reports value
        refine ⟨outcome, true, next, ?_, decided⟩
        unfold tryProposal
        dsimp only
        rw [called]
        exact reported

/-! ## The second transaction -/

theorem bindTurn_of_free {decisionId : String} (free : TurnFree store episode decisionId) :
    ∃ sessions, bindTurn store episode decisionId = .ok { store with sessions } := by
  unfold bindTurn
  cases given : episode.requestId with
  | none => exact ⟨store.sessions, rfl⟩
  | some requestId =>
      obtain ⟨answer, sessions, bound⟩ := SessionStore.bind_of_bindable (free requestId given)
      dsimp only
      rw [bound]
      exact ⟨sessions, rfl⟩

/-- A move of a case leaves its log. -/
theorem events_of_transition {after : CaseStore} {allowed : List CaseStatus} {target : CaseStatus}
    {view : InvestigationCaseModel}
    (moved : transitionCase cases caseId allowed target = .ok (view, after)) :
    after.events = cases.events := by
  obtain ⟨_, -, ⟨-, rfl⟩ | ⟨-, -, rfl⟩⟩ := transitionCase_ok moved <;> rfl

theorem settleCase_of_parks {incomplete : Bool} (found : store.cases.cases.get? caseId = some row)
    (parks : Parks row.status incomplete) :
    ∃ cases, settleCase store caseId incomplete = .ok { store with cases } ∧
      Changes false store.cases cases ∧ cases.events = store.cases.events := by
  unfold Parks at parks
  cases incomplete with
  | true =>
      obtain ⟨view, cases, moved⟩ := transitionCase_of_allowed found (mem_cons.1 parks)
      refine ⟨cases, ?_, Changes.of_transition moved, events_of_transition moved⟩
      unfold settleCase waitCase
      rw [moved]
      rfl
  | false =>
      obtain ⟨view, cases, moved⟩ := transitionCase_of_allowed found (mem_cons.1 parks)
      refine ⟨cases, ?_, Changes.of_transition moved, events_of_transition moved⟩
      unfold settleCase resolveCase
      rw [moved]
      rfl

/-- **An episode has been settled**: its decision is committed to the case and stored, and
its run is completed. -/
structure Settled (store next : ProductStore) (episode : Episode) (run : TaskRunModel)
    (outcome : DecisionOutcome) (incomplete : Bool) : Prop where
  changes : Changes false store.cases next.cases
  logged : outcome.committed.event ∈ next.cases.eventsOf episode.state.caseId
  type : outcome.committed.event.eventType = .decisionChanged
  named : outcome.committed.event.patchId = some outcome.decision.decisionId
  complete : incomplete = false → episode.incomplete = false ∧
    outcome.committed.event.baseCaseRevision = episode.state.caseRevision
  stored : ∃ row, next.decisions.get? outcome.decision.decisionId = some row
  keeps : ∀ id row, store.decisions.get? id = some row → next.decisions.get? id = some row
  effect : Effect store.tasks next.tasks
  row : ∃ later, next.tasks.runs.get? (decisionRunId episode.parentRunId) = some later ∧
    later.status = .completed ∧ later.resultRef = some outcome.decision.decisionId ∧
    later.caseId = run.caseId ∧ later.executionEnvelopeRef = run.executionEnvelopeRef
  apart : ∀ other, decisionRunId episode.parentRunId ≠ other → Apart other store.tasks next.tasks
  executions : ∀ other, next.executions.status? other =
    if episode.executionId = other then some .completed else store.executions.status? other

/-- **The second transaction commits** when the proposal settles the episode and the run
of the decision goes on. -/
theorem settleEpisode_of_settles (knowledge : KnowledgeStore) (kept : GapsKept store.cases)
    (log : LogKept store.tasks) (read : ReadFrom store.cases episode.state) {run : TaskRunModel}
    (found : store.tasks.runs.get? (decisionRunId episode.parentRunId) = some run)
    (running : run.status = .running) (revision : 1 ≤ run.contextRevision)
    (executing : store.executions.status? episode.executionId = some .running)
    (unused : ∀ event ∈ store.tasks.eventsOf (decisionRunId episode.parentRunId),
      event.idempotencyKey ≠ finalizeSurface ++ "-completed:" ++ decisionRunId episode.parentRunId)
    (fresh : ∀ event ∈ store.tasks.events.rows, event.eventId ≠ drawn.taskEventIds 0)
    (settles : Settles settings store episode drawn proposal) :
    ∃ outcome incomplete next, settleEpisode store settings knowledge episode proposal drawn =
        .ok (.decided outcome incomplete, next) ∧
      Settled store next episode run outcome incomplete := by
  obtain ⟨outcome, gaps, committed, reported, decided⟩ :=
    reportRejected_of_settles knowledge kept read settles
  obtain ⟨⟨sameTasks, sameExecutions, sameSessions⟩, changes, logged, type, named, identity,
    complete, stored, keeps, free, row, rowFound, parks⟩ := decided
  have freeNow : TurnFree committed episode outcome.decision.decisionId := by
    intro requestId given
    rw [sameSessions]
    exact free requestId given
  obtain ⟨sessions, bound⟩ := bindTurn_of_free freeNow
  obtain ⟨cases, parked, moves, sameEvents⟩ : ∃ cases,
      settleCase { committed with sessions } episode.state.caseId
          (gaps || decide (outcome.decision.unknowns ≠ [])) =
        .ok { committed with sessions, cases } ∧
      Changes false committed.cases cases ∧ cases.events = committed.cases.events :=
    settleCase_of_parks rowFound parks
  rw [← sameTasks] at log found unused fresh
  rw [← sameExecutions] at executing
  obtain ⟨next, finished, finishes⟩ : ∃ next, finishCaseDecisionExecution
        { committed with sessions, cases } settings (finishDecision episode outcome) drawn = .ok next ∧
      FinishesRun { committed with sessions, cases } next (finishDecision episode outcome) run := by
    refine finishCaseDecisionExecution_of_running { committed with sessions, cases } settings drawn
      log (finishDecision episode outcome) rfl found running revision executing
      outcome.decision.stop_bounds identity ?_ unused fresh
    show isBlank finalizeSurface = false
    decide
  obtain ⟨⟨nextCases, nextDecisions, -⟩, effect, last, apart, executions⟩ := finishes
  refine ⟨outcome, gaps || decide (outcome.decision.unknowns ≠ []), next, ?_, ?_⟩
  · unfold settleEpisode
    rw [reported, ok_bind]
    dsimp only
    rw [bound, ok_bind, parked, ok_bind, finished]
    rfl
  · constructor
    case changes => rw [nextCases]; exact changes.trans moves
    case logged =>
      rw [nextCases, eventsOf, sameEvents]
      exact logged
    case type => exact type
    case named => exact named
    case complete => exact fun whole => complete (Bool.or_eq_false_iff.1 whole).1
    case stored => rw [nextDecisions]; exact stored
    case keeps => rw [nextDecisions]; exact keeps
    case effect => rw [← sameTasks]; exact effect
    case row => exact last
    case apart => rw [← sameTasks]; exact apart
    case executions =>
      intro other
      rw [executions other, ← sameExecutions]
      rfl

end SecFusion.Application
