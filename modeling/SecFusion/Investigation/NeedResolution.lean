import SecFusion.Investigation.Items
import SecFusion.Investigation.NeedLifecycle

/-!
# What resolves a need

An operation that names a need is validated against the contract of the need by its
proposed state alone.  What the operation then does to the state of the case depends on
its disposition too: setting files its key in the bucket of the proposed state, clearing
takes the key out.  So a need is resolved by an answer that stands in the state if and
only if no operation that names a need clears.

A key that has been filed stays until another operation displaces it
(`Filed.foldl`).
-/

namespace SecFusion.Investigation

open Foundations Intelligence

/-! ## Keys that stay -/

/-- The bucket has an item under the key, with the proposition and the target of the key. -/
def Filed (buckets : Buckets) (bucket : Bucket) (key : ItemKey) : Prop :=
  ∃ item, (buckets bucket).get? key = some item ∧ item.proposition = key.1 ∧
    item.targetRef = key.2

/-- The event takes the key out of the bucket. -/
def Displaces (event : CaseStateEventModel) (key : ItemKey) (bucket : Bucket) : Prop :=
  event.proposition = some key.1 ∧ event.targetRef = key.2 ∧
    (removals event.eventType = some bucket ∨
      ∃ other, additions event.eventType = some other ∧ other ≠ bucket ∧
        other.isExclusive = true ∧ bucket.isExclusive = true)

variable {buckets : Buckets} {bucket : Bucket} {event : CaseStateEventModel}
  {events : List CaseStateEventModel} {operation : StatePatchOperation}
  {operations before after : List StatePatchOperation} {eventIds : EventIds} {now : ℤ}
  {patch : StatePatch} {reasonCode needId : String} {knowledge : KnowledgeStore} {answer : Unit}
  {result : StatePatchApplyResult}

theorem Filed.replayEvent {key : ItemKey} (filed : Filed buckets bucket key)
    (stays : ¬ Displaces event key bucket) : Filed (replayEvent buckets event) bucket key := by
  obtain ⟨item, found, proposition, target⟩ := filed
  cases replayed_replayEvent buckets event with
  | unchanged same =>
      rw [same]
      exact ⟨item, found, proposition, target⟩
  | @added text other named addition lookup =>
      unfold Filed
      rw [lookup]
      by_cases hit : (text, event.targetRef) = key
      · subst hit
        by_cases same : bucket = other
        · exact ⟨_, by rw [if_pos rfl, if_pos same], rfl, rfl⟩
        · have apart : ¬ (other.isExclusive = true ∧ bucket.isExclusive = true) :=
            fun exclusive => stays
              ⟨named, rfl, .inr ⟨other, addition, Ne.symm same, exclusive.1, exclusive.2⟩⟩
          exact ⟨item, by rw [if_pos rfl, if_neg same, if_neg apart, found], proposition, target⟩
      · exact ⟨item, by rw [if_neg hit, found], proposition, target⟩
  | @removed text other named addition removal lookup =>
      refine ⟨item, ?_, proposition, target⟩
      rw [lookup, if_neg, found]
      rintro ⟨rfl, rfl⟩
      exact stays ⟨named, rfl, .inl removal⟩

theorem Filed.foldl {key : ItemKey} (stays : ∀ event ∈ events, ¬ Displaces event key bucket)
    (filed : Filed buckets bucket key) :
    Filed (events.foldl Investigation.replayEvent buckets) bucket key := by
  induction events generalizing buckets with
  | nil => exact filed
  | cons event rest ih =>
      rw [foldl_cons]
      exact ih (fun later member => stays later (mem_cons_of_mem _ member))
        (filed.replayEvent (stays event mem_cons_self))

/-- An event that adds files its key. -/
theorem filed_of_addition {proposition : String} (named : event.proposition = some proposition)
    (addition : additions event.eventType = some bucket) (buckets : Buckets) :
    Filed (replayEvent buckets event) bucket (proposition, event.targetRef) := by
  cases replayed_replayEvent buckets event with
  | unchanged _ idle =>
      rcases idle with unnamed | ⟨none, -⟩
      · rw [named] at unnamed
        cases unnamed
      · rw [addition] at none
        cases none
  | @added text other textNamed otherAddition lookup =>
      obtain rfl := mem_unique textNamed named
      obtain rfl := mem_unique otherAddition addition
      exact ⟨_, by rw [lookup, if_pos rfl, if_pos rfl], rfl, rfl⟩
  | removed _ none =>
      rw [addition] at none
      cases none

/-! ## The events of a patch -/

def StatePatchOperation.key (operation : StatePatchOperation) : ItemKey :=
  (operation.proposition, operation.targetRef)

/-- The operation takes the key out of the bucket: it sets it in another of the exclusive
buckets, or clears it from this one. -/
def StatePatchOperation.Moves (operation : StatePatchOperation) (key : ItemKey)
    (bucket : Bucket) : Prop :=
  operation.key = key ∧
    ((operation.disposition = .set ∧ bucketOf operation.proposedState ≠ bucket ∧
        (bucketOf operation.proposedState).isExclusive = true ∧ bucket.isExclusive = true) ∨
      (operation.disposition = .clear ∧ bucketOf operation.proposedState = bucket))

/-- The event is the one that the operation is logged as. -/
structure LoggedAs (operation : StatePatchOperation) (event : CaseStateEventModel) : Prop where
  type : event.eventType = eventTypeFor operation
  proposition : event.proposition = some operation.proposition
  target : event.targetRef = operation.targetRef

theorem removals_eventTypeFor_set (set : operation.disposition = .set) :
    removals (eventTypeFor operation) = none := by
  unfold eventTypeFor
  rw [set]
  cases operation.proposedState <;> rfl

theorem removals_eventTypeFor_clear (clear : operation.disposition = .clear) :
    additions (eventTypeFor operation) = none ∧
      removals (eventTypeFor operation) = some (bucketOf operation.proposedState) := by
  unfold eventTypeFor
  rw [clear]
  cases operation.proposedState <;> exact ⟨rfl, rfl⟩

theorem LoggedAs.moves (logged : LoggedAs operation event) {key : ItemKey}
    (displaces : Displaces event key bucket) : operation.Moves key bucket := by
  obtain ⟨named, target, effect⟩ := displaces
  rw [logged.type] at effect
  refine ⟨?_, ?_⟩
  · rw [logged.proposition] at named
    rw [logged.target] at target
    exact Prod.ext (Option.some.inj named) target
  cases disposition : operation.disposition with
  | set =>
      rcases effect with removal | ⟨other, addition, different, exclusive⟩
      · rw [removals_eventTypeFor_set disposition] at removal
        cases removal
      · rw [additions_eventTypeFor disposition] at addition
        cases addition
        exact .inl ⟨rfl, different, exclusive⟩
  | clear =>
      obtain ⟨additionNone, removalSome⟩ := removals_eventTypeFor_clear disposition
      rcases effect with removal | ⟨other, addition, -⟩
      · rw [removalSome] at removal
        exact .inr ⟨rfl, Option.some.inj removal⟩
      · rw [additionNone] at addition
        cases addition

/-- The log of some operations: the event of each, and after it at most the resolution
of the need it names. -/
inductive OperationEvents : List StatePatchOperation → List CaseStateEventModel → Prop
  | nil : OperationEvents [] []
  | cons {operation : StatePatchOperation} {rest : List StatePatchOperation}
      {event : CaseStateEventModel} {resolved : Option CaseStateEventModel}
      {events : List CaseStateEventModel} (logged : LoggedAs operation event)
      (resolution : ∀ mark ∈ resolved, mark.eventType = .evidenceNeedResolved)
      (later : OperationEvents rest events) :
      OperationEvents (operation :: rest) (event :: (resolved.toList ++ events))

/-- A resolution of a need moves no item. -/
theorem not_displaces_resolution (type : event.eventType = .evidenceNeedResolved) (key : ItemKey)
    (bucket : Bucket) :
    ¬ Displaces event key bucket := by
  rintro ⟨-, -, removal | ⟨other, addition, -⟩⟩
  · rw [type] at removal
    cases removal
  · rw [type] at addition
    cases addition

theorem OperationEvents.not_displaces (log : OperationEvents operations events) {key : ItemKey}
    (unmoved : ∀ operation ∈ operations, ¬ operation.Moves key bucket) :
    ∀ event ∈ events, ¬ Displaces event key bucket := by
  induction log with
  | nil =>
      intro event member
      cases member
  | @cons operation rest event resolved events logged resolution _ ih =>
      intro other member displaces
      rcases mem_cons.1 member with rfl | member
      · exact unmoved operation mem_cons_self (logged.moves displaces)
      · rcases mem_append.1 member with mark | member
        · exact not_displaces_resolution (resolution other (Option.mem_toList.1 mark)) key bucket
            displaces
        · exact ih (fun later inside => unmoved later (mem_cons_of_mem _ inside)) other member
            displaces

/-- **A key that an operation sets stays filed** unless a later one moves it. -/
theorem OperationEvents.filed (log : OperationEvents (before ++ operation :: after) events)
    (set : operation.disposition = .set)
    (unmoved : ∀ later ∈ after, ¬ later.Moves operation.key (bucketOf operation.proposedState))
    (buckets : Buckets) :
    Filed (events.foldl replayEvent buckets) (bucketOf operation.proposedState)
      operation.key := by
  induction before generalizing events buckets with
  | nil =>
      cases log with
      | @cons _ _ event resolved events logged resolution later =>
          rw [foldl_cons]
          refine Filed.foldl (fun other member => ?_) ?_
          · rcases mem_append.1 member with mark | member
            · exact not_displaces_resolution (resolution other (Option.mem_toList.1 mark)) _ _
            · exact later.not_displaces unmoved other member
          · have addition : additions event.eventType = some (bucketOf operation.proposedState) := by
              rw [logged.type]
              exact additions_eventTypeFor set
            have filed := filed_of_addition logged.proposition addition buckets
            rwa [logged.target] at filed
  | cons first rest ih =>
      cases log with
      | @cons _ _ event resolved events _ _ later =>
          rw [foldl_cons, foldl_append]
          exact ih later _

variable {store next : CaseStore} {caseId : String}

theorem resolveNeedFromOperation_log {writer : String} {resolved : Option CaseStateEventModel}
    (ok : resolveNeedFromOperation store caseId operation writer eventIds now =
      .ok (resolved, next)) :
    next.eventsOf caseId = store.eventsOf caseId ++ resolved.toList ∧
      ∀ mark ∈ resolved, mark.eventType = .evidenceNeedResolved := by
  unfold resolveNeedFromOperation at ok
  split at ok
  next =>
    cases ok
    exact ⟨by simp, by simp⟩
  next needId _ =>
    obtain ⟨need, -, ok⟩ := fetch_bind_eq_ok.1 ok
    obtain ⟨⟨event, logged⟩, appended, ok⟩ := bind_eq_ok.1 ok
    cases ok
    obtain ⟨⟨row, -, made⟩, appended, -, -⟩ := appendEvent_ok appended
    refine ⟨(appended.eventsOf caseId).trans (if_pos rfl), ?_⟩
    rintro mark ⟨⟩
    rw [made]
    rfl

/-- **The loop of `apply_patch`** logs its operations, one after another. -/
theorem applyOperations_log {index : ℕ}
    (ok : applyOperations patch reasonCode eventIds now store index operations =
      .ok (events, next)) :
    next.eventsOf patch.caseId = store.eventsOf patch.caseId ++ events ∧
      OperationEvents operations events := by
  induction operations generalizing store index events with
  | nil =>
      cases ok
      exact ⟨(append_nil _).symm, .nil⟩
  | cons operation rest ih =>
      obtain ⟨⟨event, logged⟩, appended, ok⟩ := bind_eq_ok.1 ok
      obtain ⟨⟨resolved, settled⟩, settles, ok⟩ := bind_eq_ok.1 ok
      obtain ⟨⟨later, last⟩, applied, ok⟩ := bind_eq_ok.1 ok
      cases ok
      obtain ⟨⟨row, -, made⟩, appended, -, -⟩ := appendEvent_ok appended
      obtain ⟨settledLog, resolution⟩ := resolveNeedFromOperation_log settles
      obtain ⟨lastLog, laterEvents⟩ := ih applied
      have eventLog : logged.eventsOf patch.caseId = store.eventsOf patch.caseId ++ [event] :=
        (appended.eventsOf _).trans (if_pos rfl)
      have loggedAs : LoggedAs operation event := by
        rw [made]
        exact ⟨rfl, rfl, rfl⟩
      refine ⟨?_, .cons loggedAs resolution laterEvents⟩
      rw [lastLog, settledLog, eventLog]
      simp

/-! ## Needs and answers -/

/-- A list of the state that is read back. -/
def InvestigationState.itemsIn (state : InvestigationState) :
    Bucket → List InvestigationStateItem
  | .confirmed => state.confirmed
  | .tentative => state.tentative
  | .conflicts => state.conflicts
  | .unknowns => state.unknowns
  | .hypotheses => state.hypotheses

theorem itemsIn_projectedState (store : CaseStore) (row : InvestigationCaseModel) (now : ℤ)
    (bucket : Bucket) : (projectedState store row now).itemsIn bucket =
      (replayLog (store.orderedEvents row.caseId) bucket).values := by
  cases bucket <;> rfl

/-- The operation asserts its answer to the need, and the answer stands in the state
unless a later operation has moved it. -/
structure Asserts (need : EvidenceNeedModel) (state : InvestigationState)
    (operation : StatePatchOperation) (after : List StatePatchOperation) : Prop where
  set : operation.disposition = .set
  accepted : operation.proposedState ∈ need.evidenceContract.acceptedStates
  stands : (∃ item ∈ state.itemsIn (bucketOf operation.proposedState),
      item.proposition = operation.proposition ∧ item.targetRef = operation.targetRef) ∨
    ∃ later ∈ after, later.Moves operation.key (bucketOf operation.proposedState)

/-- Every need that was open before the patch and is not after it has been answered by
the operations that name it, of which there is one. -/
def ResolvesByAssertion (store next : CaseStore) (patch : StatePatch)
    (state : InvestigationState) : Prop :=
  ∀ needId, OpenNeed store patch.caseId needId → ¬ OpenNeed next patch.caseId needId →
    ∃ need, store.needs.get? needId = some need ∧
      (∃ operation ∈ patch.operations, operation.resolvesNeedId = some needId) ∧
      ∀ before operation after, patch.operations = before ++ operation :: after →
        operation.resolvesNeedId = some needId → Asserts need state operation after

theorem validateResolvedNeed_accepted
    (checked : validateResolvedNeed store knowledge caseId operation = .ok answer)
    (named : operation.resolvesNeedId = some needId) :
    ∃ need, store.needs.get? needId = some need ∧
      operation.proposedState ∈ need.evidenceContract.acceptedStates := by
  unfold validateResolvedNeed at checked
  rw [named] at checked
  simp only [fetch_bind_eq_ok, require_bind_eq_ok] at checked
  obtain ⟨need, found, -, checked⟩ := checked
  unfold validateNeedResolution at checked
  obtain ⟨accepted, -⟩ := require_bind_eq_ok.1 checked
  exact ⟨need, (Option.filter_eq_some_iff.1 found).1, accepted⟩

theorem validateOperation_accepted
    (checked : validateOperation store knowledge caseId operation = .ok answer)
    (named : operation.resolvesNeedId = some needId) :
    ∃ need, store.needs.get? needId = some need ∧
      operation.proposedState ∈ need.evidenceContract.acceptedStates := by
  unfold validateOperation at checked
  obtain ⟨-, checked⟩ := require_bind_eq_ok.1 checked
  obtain ⟨_, -, checked⟩ := bind_eq_ok.1 checked
  obtain ⟨_, -, checked⟩ := bind_eq_ok.1 checked
  obtain ⟨-, checked⟩ := require_bind_eq_ok.1 checked
  exact validateResolvedNeed_accepted checked named

/-- What an operation sets is in the state that the patch answers with. -/
theorem exists_item_of_patch (log : CaseLogKept store)
    (ok : applyPatch store knowledge patch reasonCode eventIds now = .ok (result, next))
    (applied : result.replay = false) (split : patch.operations = before ++ operation :: after)
    (set : operation.disposition = .set)
    (unmoved : ∀ later ∈ after, ¬ later.Moves operation.key (bucketOf operation.proposedState)) :
    ∃ item ∈ result.state.itemsIn (bucketOf operation.proposedState),
      item.proposition = operation.proposition ∧ item.targetRef = operation.targetRef := by
  obtain ⟨-, -, ⟨replayed, -⟩ | ⟨-, -, -, validated, middle, loop, rebuilt⟩⟩ := applyPatch_course ok
  · cases applied.symm.trans replayed
  obtain ⟨appended, events⟩ := applyOperations_log loop
  have writes : Writes false patch.caseId store middle :=
    applyOperations_ok (fun other member => validateOperation_ok (validated other member)) loop
  obtain ⟨row, found, shown, -⟩ := rebuildState_ok rebuilt
  have ofCase := key_of_get? found
  rw [split] at events
  obtain ⟨item, filed, proposition, target⟩ :=
    events.filed set unmoved (replayLog (store.eventsOf patch.caseId))
  refine ⟨item, ?_, proposition, target⟩
  rw [shown, itemsIn_projectedState, ofCase, (log.writes writes).orderedEvents found, appended,
    replayLog, foldl_append]
  exact Dict.mem_values.2 ⟨_, filed⟩

/-- **A need is resolved by an answer that stands** in the state, after every history of
calls, if and only if no operation that names a need clears. -/
theorem resolvesByAssertion_iff (ops : List CaseOp) {knowledge : KnowledgeStore}
    {patch : StatePatch} {reasonCode : String} {eventIds : EventIds} {now : ℤ}
    {result : StatePatchApplyResult} {next : CaseStore}
    (answered : applyPatch (caseStoreAfter ops) knowledge patch reasonCode eventIds now =
      .ok (result, next)) (applied : result.replay = false) :
    ResolvesByAssertion (caseStoreAfter ops) next patch result.state ↔
      ∀ operation ∈ patch.operations, operation.resolvesNeedId ≠ none →
        operation.disposition = .set := by
  have log := caseLogKept_caseStoreAfter ops
  obtain ⟨-, -, ⟨replayed, -⟩ | ⟨-, fresh, -, validated, -⟩⟩ := applyPatch_course answered
  · cases applied.symm.trans replayed
  rcases applyPatch_turned answered with ⟨replayed, -⟩ | ⟨-, turned, opened⟩
  · exact absurd fresh replayed
  have resolved (needId : String) (member : needId ∈ resolvedNeedIds patch.operations) :
      ¬ OpenNeed next patch.caseId needId := by
    rw [turned.needs, if_pos ⟨rfl, member⟩]
    decide
  constructor
  · intro asserted operation member named
    obtain ⟨needId, named⟩ := Option.ne_none_iff_exists'.1 named
    have listed : needId ∈ resolvedNeedIds patch.operations :=
      mem_filterMap.2 ⟨operation, member, named⟩
    obtain ⟨need, -, -, answers⟩ := asserted needId (opened needId listed) (resolved needId listed)
    obtain ⟨before, after, split⟩ := List.append_of_mem member
    exact (answers before operation after split named).set
  · intro sets needId wasOpen closed
    have listed : needId ∈ resolvedNeedIds patch.operations := by
      by_contra unnamed
      rw [turned.needs, if_neg fun both => unnamed both.2] at closed
      exact closed wasOpen
    obtain ⟨first, firstMember, firstNamed⟩ := mem_filterMap.1 listed
    obtain ⟨need, found, -⟩ := validateOperation_accepted (validated first firstMember) firstNamed
    refine ⟨need, found, ⟨first, firstMember, firstNamed⟩, fun before operation after split named => ?_⟩
    have member : operation ∈ patch.operations := by
      rw [split]
      exact mem_append_right _ mem_cons_self
    obtain ⟨other, otherFound, accepted⟩ := validateOperation_accepted (validated _ member) named
    obtain rfl := mem_unique otherFound found
    have set := sets operation member (by simp [named])
    refine ⟨set, accepted, ?_⟩
    by_cases moved : ∃ later ∈ after, later.Moves operation.key (bucketOf operation.proposedState)
    · exact .inr moved
    · refine .inl (exists_item_of_patch log answered applied split set fun later inside moves => ?_)
      exact moved ⟨later, inside, moves⟩

/-! ## A need that is resolved by taking something back -/

/-- One operation on what is unknown of the host, which settles the first need. -/
def hostPatch (disposition : PatchDisposition) : StatePatch where
  patchId := "patch-1"
  caseId := "case-1"
  baseCaseRevision := 2
  operations := [{ unknownOf "the host" (Eq.refl false) (some "need-1") with
    disposition
    evidence_required := by rintro (state | state) <;> cases state }]
  producer := "M4"
  operations_nonempty := cons_ne_nil _ _

/-- The patch on a case with two open needs. -/
def applyHostPatch (disposition : PatchDisposition) :
    Except Raised (StatePatchApplyResult × CaseStore) :=
  applyPatch (caseStoreAfter twoNeeds) .empty (hostPatch disposition) "reasoned"
    (fun _ revision => "event-" ++ toString revision) 2

theorem resolvesByAssertion_iff_set :
    ∃ result next, applyHostPatch .set = .ok (result, next) ∧ result.replay = false ∧
      ResolvesByAssertion (caseStoreAfter twoNeeds) next (hostPatch .set) result.state := by
  have computed : (applyHostPatch .set).toOption.map (·.1.replay) = some false := by
    decide +kernel
  obtain ⟨⟨result, next⟩, answered, applied⟩ := map_eq_some_iff.1 computed
  have answered := toOption_eq_some.1 answered
  refine ⟨result, next, answered, applied,
    (resolvesByAssertion_iff twoNeeds answered applied).2 ?_⟩
  rintro operation member -
  rw [mem_singleton.1 member]

/-- **A need is resolved by clearing**: the patch takes back what is unknown of the host,
which the state did not have, and the need counts as answered. -/
theorem clearing_resolves_need :
    ∃ result next, applyHostPatch .clear = .ok (result, next) ∧ result.replay = false ∧
      (next.needs.get? "need-1").map (·.status) = some .resolved ∧ result.state.unknowns = [] ∧
      ¬ ResolvesByAssertion (caseStoreAfter twoNeeds) next (hostPatch .clear) result.state := by
  have computed : (applyHostPatch .clear).toOption.map (fun answer =>
      (answer.1.replay, (answer.2.needs.get? "need-1").map (·.status),
        answer.1.state.unknowns)) = some (false, some .resolved, []) := by
    decide +kernel
  obtain ⟨⟨result, next⟩, answered, values⟩ := map_eq_some_iff.1 computed
  obtain ⟨applied, status, unknowns⟩ : result.replay = false ∧
      (next.needs.get? "need-1").map (·.status) = some .resolved ∧ result.state.unknowns = [] := by
    simpa using values
  refine ⟨result, next, toOption_eq_some.1 answered, applied, status, unknowns, fun asserted => ?_⟩
  have before : ((caseStoreAfter twoNeeds).needs.get? "need-1").map
      (fun need => (need.caseId, need.status)) = some ("case-1", .open) := by
    decide +kernel
  obtain ⟨need, found, fields⟩ := map_eq_some_iff.1 before
  have wasOpen : OpenNeed (caseStoreAfter twoNeeds) "case-1" "need-1" :=
    ⟨need, found, congrArg Prod.fst fields, congrArg Prod.snd fields⟩
  have closed : ¬ OpenNeed next "case-1" "need-1" := by
    rintro ⟨later, laterFound, -, stillOpen⟩
    rw [laterFound] at status
    exact absurd (stillOpen.symm.trans (Option.some.inj status)) (by decide)
  obtain ⟨_, -, -, answers⟩ := asserted "need-1" wasOpen closed
  exact absurd (answers [] _ [] rfl rfl).set (by decide)

end SecFusion.Investigation
