import SecFusion.Investigation.Continuation
import SecFusion.Investigation.Gaps

/-!
# What an accepted continuation leaves open

The gate answers a request for missing evidence with a need whose identifier is a hash of
what is asked for.  A need that is there already is replayed as it is: if it has been
resolved in the meantime, the request is accepted and no gap is open
(`gapOpen_iff`).

The identifier says what is asked for and nothing else: the case, the words of the
question, the purpose, the targets and roles as sets, the contract and the freshness
(`continuationPayload_eq_iff`).
-/

namespace SecFusion.Investigation

open Foundations Intelligence TaskRuntime

variable {recording : Bool}

/-! ## Needs and their events -/

/-- An event that opens a need stands in the case of that need. -/
def NeedEventsHoused (store : CaseStore) : Prop :=
  ∀ caseId, ∀ event ∈ store.eventsOf caseId, event.eventType = .evidenceNeedOpened →
    ∀ needId ∈ event.payload.needId, ∃ need, store.needs.get? needId = some need ∧
      need.caseId = caseId

variable {caseId : String} {store next : CaseStore} {knowledge : KnowledgeStore}
  {request : ContinuationRequest} {eventIds : EventIds} {now : ℤ} {result : EvidenceNeedOpenResult}
  {state : InvestigationState} {sha256 : JsonObject → String} {first second : List String}

theorem NeedEventsHoused.write (housed : NeedEventsHoused store)
    (write : Write recording caseId store next) :
    NeedEventsHoused next := by
  intro other event member type needId named
  obtain ⟨new, appended, _⟩ := write.appended
  rw [appended.eventsOf] at member
  have earlier : event ∈ store.eventsOf other → ∃ need, next.needs.get? needId = some need ∧
      need.caseId = other := by
    intro stored
    obtain ⟨need, found, ofCase⟩ := housed other event stored type needId named
    obtain ⟨later, laterFound, same⟩ := write.needCase found
    exact ⟨later, laterFound, same.trans ofCase⟩
  split at member
  next same =>
    rcases mem_append.1 member with stored | last
    · exact earlier stored
    · have event_eq : event = new := mem_singleton.1 last
      subst event_eq
      subst same
      cases write with
      | item logged plain _ _ _ =>
        have one := List.append_cancel_left (logged.events.symm.trans appended.events)
        rw [List.cons.inj one |>.1, type] at plain
        cases plain
      | need need logged opens _ ofCase _ needs _ =>
        have one := List.append_cancel_left (logged.events.symm.trans appended.events)
        rw [List.cons.inj one |>.1, named] at opens
        refine ⟨need, ?_, ofCase⟩
        rw [needs, if_pos (Option.some.inj opens).symm]
      | perception _ _ logged recorded _ _ _ _ _ _ _ _ =>
        have one := List.append_cancel_left (logged.events.symm.trans appended.events)
        rw [List.cons.inj one |>.1, type] at recorded
        cases recorded
  next => exact earlier member

theorem NeedEventsHoused.writes (housed : NeedEventsHoused store)
    (writes : Writes recording caseId store next) :
    NeedEventsHoused next := by
  induction writes with
  | refl => exact housed
  | tail _ write ih => exact ih.write write

theorem NeedEventsHoused.change (housed : NeedEventsHoused store)
    (change : Change recording store next) : NeedEventsHoused next := by
  cases change with
  | created new inserted => exact housed
  | moved caseId rewrite keeps same => exact housed
  | written writes found now => exact fun caseId => housed.writes writes caseId

theorem gapsKept_caseStoreAfter (ops : List CaseOp) : GapsKept (caseStoreAfter ops) :=
  caseStoreAfter_invariant GapsKept.empty (fun _ _ kept _ change => kept.change change) ops

theorem needEventsHoused_caseStoreAfter (ops : List CaseOp) :
    NeedEventsHoused (caseStoreAfter ops) :=
  caseStoreAfter_invariant (fun _ _ member => absurd member not_mem_nil)
    (fun _ _ housed _ change => housed.change change) ops

/-! ## Opening and replaying -/

/-- A state that is read lists the open needs of its case. -/
theorem mem_evidenceNeedIds_of_getState (kept : GapsKept store)
    (ok : getState store caseId now = .ok (state, next)) (needId : String) :
    needId ∈ state.evidenceNeedIds ↔ OpenNeed store caseId needId := by
  obtain ⟨row, found, named, revision, read, _⟩ := kept.getState ok
  have whole : loggedUntil store state.caseId state.caseRevision = store.eventsOf caseId := by
    rw [named, revision, kept.log.until_current found]
  rw [read.needs, whole, ← kept.coordinates.opened caseId row found]
  exact Eq.to_iff (congrArg (needId ∈ ·) (openNeedIds_foldl _ rfl))

/-- Reading a state writes no need and no event. -/
theorem needs_of_getState (ok : getState store caseId now = .ok (state, next)) :
    next.needs = store.needs ∧ next.events = store.events := by
  obtain ⟨row, -, ⟨-, rfl⟩ | ⟨-, -, rfl⟩⟩ := getState_ok ok <;> exact ⟨rfl, rfl⟩

/-- The need of a request is in its case, open, and listed in the state that the gate
answers with. -/
structure GapOpen (needId caseId : String) (next : CaseStore) (state : InvestigationState) :
    Prop where
  isOpen : OpenNeed next caseId needId
  listed : needId ∈ state.evidenceNeedIds

/-- The need of a request has not been settled. -/
def Unsettled (store : CaseStore) (needId : String) : Prop :=
  ∀ need ∈ store.needs.get? needId, need.status = .open

/-- What the gate has done when it accepts a request. -/
theorem acceptContinuation_ok
    (accepted : acceptContinuation sha256 store knowledge request eventIds now =
      (.ok result, next)) :
    ∃ state loaded, getState store request.caseId now = .ok (state, loaded) ∧
      openEvidenceNeed loaded knowledge (continuationNeed sha256 request) eventIds now =
        .ok (result, next) := by
  unfold acceptContinuation at accepted
  cases read : getState store request.caseId now with
  | error raised =>
    rw [read] at accepted
    cases accepted
  | ok answer =>
    obtain ⟨state, loaded⟩ := answer
    rw [read] at accepted
    dsimp only at accepted
    split at accepted
    · cases opened : openEvidenceNeed loaded knowledge (continuationNeed sha256 request) eventIds
          now with
      | error raised =>
        rw [opened] at accepted
        cases accepted
      | ok answer =>
        rw [opened] at accepted
        cases accepted
        exact ⟨state, loaded, rfl, opened⟩
    · cases accepted

/-- A replayed need is in its case, and the gap is open when the need is. -/
theorem gapOpen_of_replay {needId : String} (kept : GapsKept store)
    (housed : NeedEventsHoused store)
    (logged : ∃ event ∈ store.eventsOf caseId, event.eventType = .evidenceNeedOpened ∧
      event.payload.needId = some needId) (read : getState store caseId now = .ok (state, next)) :
    (∃ need, next.needs.get? needId = some need ∧ need.caseId = caseId) ∧
      (GapOpen needId caseId next state ↔ Unsettled store needId) := by
  obtain ⟨event, stored, type, named⟩ := logged
  obtain ⟨need, found, ofCase⟩ := housed _ event stored type _ named
  have sameNeeds := (needs_of_getState read).1
  have listed := mem_evidenceNeedIds_of_getState kept read needId
  refine ⟨⟨need, by rw [sameNeeds, found], ofCase⟩, ?_⟩
  constructor
  · rintro ⟨⟨other, otherFound, -, status⟩, -⟩ settled settledFound
    rw [sameNeeds, mem_def.1 settledFound] at otherFound
    rw [Option.some.inj otherFound, status]
  · intro unsettled
    have status := unsettled need found
    exact ⟨⟨need, by rw [sameNeeds, found], ofCase, status⟩,
      listed.2 ⟨need, found, ofCase, status⟩⟩

/-- A need that has just been written is open, and the rebuilt state lists it. -/
theorem gapOpen_of_opened {middle : CaseStore} {request : OpenEvidenceNeed} {revision : ℕ}
    (coordinates : CoordinatesKept middle)
    (found : middle.needs.get? request.needId = some (newNeed request revision now))
    (rebuilt : rebuildState middle request.caseId now = .ok (state, next)) :
    GapOpen request.needId request.caseId next state := by
  obtain ⟨row, rowFound, written, rfl⟩ := rebuildState_ok rebuilt
  have isOpen : OpenNeed middle request.caseId request.needId := ⟨_, found, rfl, rfl⟩
  have ofCase : row.caseId = request.caseId := key_of_get? rowFound
  refine ⟨isOpen, ?_⟩
  rw [written]
  refine (mem_openNeedIds coordinates).2 ?_
  rw [ofCase]
  exact isOpen

/-- An accepted request leaves its need in its case, and the gap open exactly when the need
had not been settled. -/
theorem gapOpen_iff (kept : GapsKept store) (housed : NeedEventsHoused store)
    (accepted : acceptContinuation sha256 store knowledge request eventIds now =
      (.ok result, next)) :
    (∃ need, next.needs.get? (continuationNeedId sha256 request) = some need ∧
        need.caseId = request.caseId) ∧
      (GapOpen (continuationNeedId sha256 request) request.caseId next result.state ↔
        Unsettled store (continuationNeedId sha256 request)) := by
  obtain ⟨state, loaded, read, opened⟩ := acceptContinuation_ok accepted
  -- the gate reads the state first, which writes neither a need nor an event
  obtain ⟨sameNeeds, sameEvents⟩ := needs_of_getState read
  have changes : Changes false store loaded := .of_getState read
  have loadedKept : GapsKept loaded := kept.changes changes
  have loadedHoused : NeedEventsHoused loaded := by
    intro caseId event stored type needId named
    rw [sameNeeds]
    refine housed caseId event ?_ type needId named
    rw [eventsOf, ← sameEvents]
    exact stored
  unfold Unsettled
  rw [← sameNeeds]
  obtain ⟨-, -, ⟨-, -, opening, again⟩ |
    ⟨-, absent, -, logged, needs, appended, inserted, rebuilt, -⟩⟩ :=
      openEvidenceNeed_course opened
  · have opens := find?_some opening
    exact gapOpen_of_replay loadedKept loadedHoused
      ⟨_, mem_of_find?_eq_some opening, of_decide_eq_true opens⟩ again
  · have write : Write false _ loaded { logged with needs } :=
      .of_opened absent appended inserted
    have gap := gapOpen_of_opened (loadedKept.coordinates.write write)
      ((get?_insert? inserted _).trans (if_pos rfl)) rebuilt
    obtain ⟨need, stored, ofCase, -⟩ := gap.isOpen
    refine ⟨⟨need, stored, ofCase⟩, iff_of_true gap fun settled settledFound => ?_⟩
    cases absent.symm.trans settledFound

/-! ## What the identifier says -/

theorem ProposedState.value_injective : Injective ProposedState.value := by
  intro first second same
  cases first <;> cases second <;> first | rfl | exact absurd same (by decide)

theorem map_string_injective : Injective (List.map JsonValue.string) :=
  map_injective_iff.2 fun _ _ same => JsonValue.string.inj same

theorem EvidenceNeedContract.dump_injective : Injective EvidenceNeedContract.dump := by
  intro first second same
  simp only [EvidenceNeedContract.dump, object.injEq, cons.injEq, Prod.mk.injEq,
    array.injEq, int.injEq, JsonValue.bool.injEq, true_and, and_true,
    Nat.cast_inj] at same
  obtain ⟨states, sources, evidence, roles⟩ := same
  have accepted : first.acceptedStates = second.acceptedStates := by
    refine map_injective_iff.2 (fun left right equal => ?_) states
    exact ProposedState.value_injective (JsonValue.string.inj equal)
  have required := map_string_injective roles
  cases first
  cases second
  simp_all

/-- Two requests ask for the same: the sets of their targets and of their roles are compared,
the words of their questions, and their purposes without the space around them. -/
structure SameGap (first second : ContinuationRequest) : Prop where
  caseId : first.caseId = second.caseId
  question : joinWords first.propositionOrQuestion = joinWords second.propositionOrQuestion
  purpose : strip first.purpose = strip second.purpose
  targets : ∀ target, target ∈ first.targetObjects ↔ target ∈ second.targetObjects
  contract : first.evidenceContract = second.evidenceContract
  roles : ∀ role, role ∈ first.preferredSourceRoles ↔ role ∈ second.preferredSourceRoles
  freshness : first.freshnessRequirement = second.freshnessRequirement

/-- Distinct texts sort alike exactly when they are the same set. -/
theorem insertionSort_eq_iff (distinct : first.Nodup) (otherDistinct : second.Nodup) :
    first.insertionSort (· ≤ ·) = second.insertionSort (· ≤ ·) ↔
      ∀ text, text ∈ first ↔ text ∈ second := by
  constructor
  · intro same text
    rw [← mem_insertionSort (· ≤ ·), same, mem_insertionSort]
  · intro same
    exact insertionSort_eq_of_perm ((perm_ext_iff_of_nodup distinct otherDistinct).2 same)
      fun a _ b _ => le_antisymm

theorem sortedSet_eq_iff :
    sortedSet first = sortedSet second ↔ ∀ text, text ∈ first ↔ text ∈ second := by
  constructor
  · intro same text
    rw [← mem_sortedSet, same, mem_sortedSet]
  · exact sortedSet_eq_of_mem_iff

/-- What is hashed of a request is what it asks for, and all of it. -/
theorem continuationPayload_eq_iff (first second : ContinuationRequest) :
    continuationPayload first = continuationPayload second ↔ SameGap first second := by
  simp only [continuationPayload, cons.injEq, Prod.mk.injEq, string.injEq,
    object.injEq, array.injEq, true_and, and_true]
  constructor
  · rintro ⟨caseId, contract, freshness, roles, question, purpose, targets⟩
    exact {
      caseId
      question
      purpose
      targets := (insertionSort_eq_iff first.targets_distinct second.targets_distinct).1
        (map_string_injective targets)
      contract := EvidenceNeedContract.dump_injective contract
      roles := sortedSet_eq_iff.1 (map_string_injective roles)
      freshness }
  · intro same
    refine ⟨same.caseId, by rw [same.contract], same.freshness, ?_, same.question, same.purpose,
      ?_⟩
    · rw [sortedSet_eq_iff.2 same.roles]
    · rw [(insertionSort_eq_iff first.targets_distinct second.targets_distinct).2 same.targets]

/-- Two requests name one need exactly when they ask for the same, as far as the hash keeps
apart what they hash. -/
theorem continuationNeedId_eq_iff {first second : ContinuationRequest}
    (apart : sha256 (continuationPayload first) = sha256 (continuationPayload second) →
      continuationPayload first = continuationPayload second) :
    continuationNeedId sha256 first = continuationNeedId sha256 second ↔ SameGap first second := by
  rw [← continuationPayload_eq_iff]
  constructor
  · intro same
    simp only [continuationNeedId, stableId, String.append_right_inj] at same
    exact apart same
  · intro same
    rw [continuationNeedId, continuationNeedId, same]

/-! ## The guarantee -/

/-- An accepted request leaves its need in its case, and leaves it open and listed exactly when
the need was not settled before; and two requests have the same need exactly when they
ask for the same. -/
theorem accepted_continuations_open_gaps (sha256 : JsonObject → String) (ops : List CaseOp)
    (knowledge : KnowledgeStore) (request : ContinuationRequest) (eventIds : EventIds)
    (now : ℤ) (result : EvidenceNeedOpenResult) (next : CaseStore)
    (accepted : acceptContinuation sha256 (caseStoreAfter ops) knowledge request eventIds now =
      (.ok result, next))
    (first second : ContinuationRequest)
    (apart : sha256 (continuationPayload first) = sha256 (continuationPayload second) →
      continuationPayload first = continuationPayload second) :
    (∃ need, next.needs.get? (continuationNeedId sha256 request) = some need ∧
      need.caseId = request.caseId) ∧
    (GapOpen (continuationNeedId sha256 request) request.caseId next result.state ↔
      Unsettled (caseStoreAfter ops) (continuationNeedId sha256 request)) ∧
    (continuationNeedId sha256 first = continuationNeedId sha256 second ↔
      SameGap first second) := by
  obtain ⟨housed, opens⟩ :=
    gapOpen_iff (gapsKept_caseStoreAfter ops) (needEventsHoused_caseStoreAfter ops) accepted
  exact ⟨housed, opens, continuationNeedId_eq_iff apart⟩

/-- A request for the scope of an incident at a revision of its case. -/
def scopeRequest (revision : ℕ) (question : String)
    (given : isBlank question = false := by decide) : ContinuationRequest where
  requestId := "continuation-1"
  caseId := "case-1"
  baseCaseRevision := revision
  propositionOrQuestion := question
  purpose := "scope"
  evidenceContract := { requireEvidence := false }
  reason := "nothing is known of the hosts"
  purpose_fits := by decide
  priority_bounds := by decide
  given := by
    intro text member
    fin_cases member <;> first | exact given | decide
  targets_distinct := by decide

/-- A digest that is enough for one need. -/
def oneDigest : JsonObject → String := fun _ => "0"

def revisionIds : EventIds := fun _ revision => "event-" ++ toString revision

/-- A case in which the gap has been opened. -/
def gapOps : List CaseOp :=
  [.create "case-1" "signature" [] "goal" none 0,
    .openNeed .empty (continuationNeed oneDigest (scopeRequest 0 "Which hosts?")) revisionIds 1]

theorem unknown_uncited : ProposedState.unknown = .confirmed ∨ ProposedState.unknown = .conflict →
    PatchDisposition.set = .set → ([] : List String) ≠ [] := by
  rintro (state | state) <;> cases state

def settlesGap : CaseOp :=
  .applyPatch .empty
    { patchId := "patch-1"
      caseId := "case-1"
      baseCaseRevision := 1
      operations := [{
        proposition := "the hosts"
        proposedState := .unknown
        resolvesNeedId := continuationNeedId oneDigest (scopeRequest 0 "Which hosts?")
        evidence_required := unknown_uncited }]
      producer := "reasoner"
      operations_nonempty := cons_ne_nil _ _ }
    "reasoned" revisionIds 2

theorem accepted_continuations_open_gaps_again :
    (∃ result next, acceptContinuation oneDigest (caseStoreAfter gapOps) .empty
        (scopeRequest 1 "Which  hosts?") revisionIds 3 = (.ok result, next) ∧
      GapOpen (continuationNeedId oneDigest (scopeRequest 1 "Which  hosts?")) "case-1" next
        result.state) ∧
    continuationNeedId oneDigest (scopeRequest 0 "Which hosts?") =
      continuationNeedId oneDigest (scopeRequest 1 "Which  hosts?") := by
  have asksTheSame : SameGap (scopeRequest 0 "Which hosts?") (scopeRequest 1 "Which  hosts?") :=
    ⟨rfl, by decide +kernel, rfl, fun _ => Iff.rfl, rfl, fun _ => Iff.rfl, rfl⟩
  obtain ⟨-, opens, named⟩ := accepted_continuations_open_gaps oneDigest gapOps .empty
    (scopeRequest 1 "Which  hosts?") revisionIds 3 _ _ rfl (scopeRequest 0 "Which hosts?")
    (scopeRequest 1 "Which  hosts?") fun _ => (continuationPayload_eq_iff _ _).2 asksTheSame
  refine ⟨⟨_, _, rfl, opens.2 ?_⟩, named.2 asksTheSame⟩
  unfold Unsettled
  decide +kernel

/-- A request whose need has been resolved is accepted, and the gap stays closed. -/
theorem resolved_gap_is_replayed :
    ∃ result next, acceptContinuation oneDigest (caseStoreAfter (gapOps ++ [settlesGap])) .empty
        (scopeRequest 3 "Which hosts?") revisionIds 3 = (.ok result, next) ∧
      ¬ GapOpen (continuationNeedId oneDigest (scopeRequest 3 "Which hosts?")) "case-1" next
        result.state := by
  refine ⟨_, _, rfl, fun gap => ?_⟩
  exact absurd gap.listed (by decide +kernel)

end SecFusion.Investigation
