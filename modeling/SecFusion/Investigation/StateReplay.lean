import SecFusion.Investigation.Identifiers

/-!
# Repeated calls

A call that finds its identifier in the log answers as a repetition, and compares nothing
else with what the log has; the lookup of `apply_patch` does not even ask what kind of
call an event is from, and `reopen_evidence_need` answers so for every open need.  So a
call is treated as a repetition of itself if and only if what stands under its identifier
is what it would append.
-/

namespace SecFusion.Investigation

open Foundations Intelligence

/-! ## Repetitions -/

/-- A case that has a log has a projection. -/
def LogsProjected (store : CaseStore) : Prop :=
  ∀ event ∈ store.events.rows, store.currents.get? event.caseId ≠ none

theorem logsProjected_caseStoreAfter (ops : List CaseOp) :
    LogsProjected (caseStoreAfter ops) := by
  refine caseStoreAfter_invariant ?_ ?_ ops
  · intro event member
    cases member
  · intro store next kept recording change
    cases change with
    | created => exact kept
    | moved => exact kept
    | @written caseId middle row writes found now =>
        have ofCase := key_of_get? found
        intro event member
        have lookup : (writeCurrent middle row now).2.currents.get? event.caseId =
            if row.caseId = event.caseId then some (projectedState middle row now)
            else middle.currents.get? event.caseId := get?_put _ _ _
        rw [lookup]
        split
        next => exact some_ne_none _
        next different =>
          rw [writes.frame.1]
          have member : event ∈ middle.eventsOf event.caseId := mem_caseEventsOf.2 ⟨member, rfl⟩
          rw [(writes.frame.2.1 event.caseId (ofCase ▸ different)).1] at member
          exact kept event (mem_caseEventsOf.1 member).1

/-- The case of a call may still change. -/
def MayChange (store : CaseStore) (caseId : String) : Prop :=
  ∃ row, store.cases.get? caseId = some row ∧ row.status.isImmutable = false

variable {store next : CaseStore} {op : CaseOp} {call : IdentifiedCall} {answer : CaseAnswer}
  {ops : List CaseOp}

theorem exists_lastOpening {caseId : String}
    (opened : ∃ event ∈ store.eventsOf caseId, event.eventType = .evidenceNeedOpened) :
    ∃ event, lastOpening? store caseId = some event := by
  obtain ⟨event, member, type⟩ := opened
  rw [← isSome_iff_exists, lastOpening?, List.isSome_head?]
  intro none
  have opening : event ∈ (store.eventsOf caseId).filter fun event =>
      event.eventType = .evidenceNeedOpened := mem_filter.2 ⟨member, decide_eq_true type⟩
  have listed := (mem_insertionSort fun first second : CaseStateEventModel =>
    second.caseRevision ≤ first.caseRevision).2 opening
  rw [none] at listed
  cases listed

/-- A call that finds something to repeat is answered so, and leaves the store of a read. -/
theorem caseService_of_isReplay (shown : NeedsShown store)
    (identified : op.identified? store = some call) (replayed : IsReplay store op)
    (may : MayChange store call.caseId) :
    ∃ answer row now, store.cases.get? call.caseId = some row ∧ row.caseId = call.caseId ∧
      caseService op store = .ok (answer, loadState store row now) ∧ answer.replay = true := by
  obtain ⟨row, found, mutable⟩ := may
  have ofCase := key_of_get? found
  cases op with
  | applyPatch knowledge patch reasonCode eventIds now =>
      cases identified
      obtain ⟨first, rest, existing⟩ := List.exists_cons_of_ne_nil replayed
      refine ⟨.patched { state := stateOf store row now, events := first :: rest, replay := true },
        row, now, found, ofCase, ?_, rfl⟩
      simp only [caseService, applyPatch, lockCase_of found mutable, existing, getState_eq found,
        ok_bind]
      rfl
  | commitDecision commit eventIds now =>
      cases identified
      obtain ⟨event, existing⟩ := isSome_iff_exists.1 replayed
      refine ⟨.decided { state := stateOf store row now, event, replay := true }, row, now, found,
        ofCase, ?_, rfl⟩
      simp only [caseService, commitDecision, lockCase_of found mutable, existing,
        getState_eq found, ok_bind]
      rfl
  | reopenNeed request eventIds now =>
      obtain ⟨need, needFound, rfl⟩ := map_eq_some_iff.1 identified
      obtain ⟨other, otherFound, replayed⟩ := replayed
      obtain rfl := mem_unique otherFound needFound
      obtain ⟨viewed, opened⟩ := shown _ _ needFound
      cases existing : eventOfCall? store other.caseId request.reopenKey .evidenceNeedOpened with
      | some event =>
          refine ⟨.need { need := other, state := stateOf store row now, event, replay := true },
            row, now, found, ofCase, ?_, rfl⟩
          simp only [caseService, reopenEvidenceNeed, fetch, needFound,
            lockCase_of found mutable, existing, viewed, getState_eq found, ok_bind]
          rfl
      | none =>
          rw [existing] at replayed
          have stillOpen : other.status = .open := replayed.resolve_left (by simp)
          obtain ⟨event, latest⟩ := exists_lastOpening opened
          refine ⟨.need { need := other, state := stateOf store row now, event, replay := true },
            row, now, found, ofCase, ?_, rfl⟩
          simp only [caseService, reopenEvidenceNeed, fetch, needFound,
            lockCase_of found mutable, existing, stillOpen, if_true, latest, viewed,
            getState_eq found, ok_bind]
          rfl
  | create | move | getState | rebuild | openNeed | recordPerception | processChange =>
      cases identified

section

variable (identified : op.identified? store = some call)

include identified

/-- An identified call that is answered met a case that may change. -/
theorem mayChange_of_ok
    (ok : caseService op store = .ok (answer, next)) : MayChange store call.caseId := by
  cases op with
  | applyPatch knowledge patch reasonCode eventIds now =>
      cases identified
      obtain ⟨_, called, -⟩ := bind_eq_ok.1 ok
      obtain ⟨row, locked, -⟩ := bind_eq_ok.1 called
      exact ⟨row, lockCase_ok locked⟩
  | commitDecision commit eventIds now =>
      cases identified
      obtain ⟨_, called, -⟩ := bind_eq_ok.1 ok
      obtain ⟨row, locked, -⟩ := bind_eq_ok.1 called
      exact ⟨row, lockCase_ok locked⟩
  | reopenNeed request eventIds now =>
      obtain ⟨need, needFound, rfl⟩ := map_eq_some_iff.1 identified
      obtain ⟨_, called, -⟩ := bind_eq_ok.1 ok
      obtain ⟨other, otherFound, called⟩ := fetch_bind_eq_ok.1 called
      obtain rfl := mem_unique otherFound needFound
      obtain ⟨row, locked, -⟩ := bind_eq_ok.1 called
      exact ⟨row, lockCase_ok locked⟩
  | create | move | getState | rebuild | openNeed | recordPerception | processChange =>
      cases identified

/-- A call that is answered as a repetition has found something. -/
theorem isReplay_of_ok
    (ok : caseService op store = .ok (answer, next)) (replay : answer.replay = true) :
    IsReplay store op := by
  have writer : ∃ base, Writer store op call.caseId base := by
    cases op with
    | applyPatch | commitDecision =>
        cases identified
        exact ⟨_, rfl, rfl⟩
    | reopenNeed =>
        obtain ⟨need, found, rfl⟩ := map_eq_some_iff.1 identified
        exact ⟨_, rfl, need, found, rfl⟩
    | create | move | getState | rebuild | openNeed | recordPerception | processChange =>
        cases identified
  obtain ⟨base, writer⟩ := writer
  rcases writer_ok writer ok with ⟨-, replayed⟩ | ⟨fresh, -⟩
  · exact replayed
  · rw [replay] at fresh
    cases fresh

/-- A call finds itself, where its requests stand under its identifier. -/
theorem isReplay_of_underKey
    (recorded : underKey store call.caseId call.key = call.requests) : IsReplay store op := by
  obtain ⟨asked, member, first⟩ := (wellKeyed_of_identified identified).first
  cases op with
  | applyPatch knowledge patch reasonCode eventIds now =>
      cases identified
      rw [← recorded] at member
      obtain ⟨event, listed, keyed, -⟩ := mem_underKey.1 member
      have under : event ∈ (store.eventsOf patch.caseId).filter fun event =>
          event.patchId = some patch.patchId := mem_filter.2 ⟨listed, decide_eq_true keyed⟩
      intro none
      have sorted := (mem_insertionSort fun first second : CaseStateEventModel =>
        first.operationIndex.getD 0 < second.operationIndex.getD 0 ∨
          (first.operationIndex.getD 0 = second.operationIndex.getD 0 ∧
            first.caseRevision ≤ second.caseRevision)).2 under
      rw [patchEvents] at none
      rw [none] at sorted
      cases sorted
  | commitDecision commit eventIds now =>
      cases identified
      have kind : asked.eventType = .decisionChanged := by
        rw [mem_singleton.1 member]
        rfl
      rw [← recorded] at member
      obtain ⟨event, listed, keyed, rfl⟩ := mem_underKey.1 member
      refine find?_isSome.2 ⟨event, listed, ?_⟩
      exact decide_eq_true ⟨keyed, first, kind⟩
  | reopenNeed request eventIds now =>
      obtain ⟨need, found, rfl⟩ := map_eq_some_iff.1 identified
      have kind : asked.eventType = .evidenceNeedOpened := by
        rw [mem_singleton.1 member]
        rfl
      rw [← recorded] at member
      obtain ⟨event, listed, keyed, rfl⟩ := mem_underKey.1 member
      refine ⟨need, found, .inl (find?_isSome.2 ⟨event, listed, ?_⟩)⟩
      exact decide_eq_true ⟨keyed, first, kind⟩
  | create | move | getState | rebuild | openNeed | recordPerception | processChange =>
      cases identified

/-- No call of the three operations marks a perception. -/
theorem requests_ne_perception (identity : String)
    (worldRevision : ℕ) (perceivedAt : ℤ) :
    call.requests ≠ [perceptionEvent identity worldRevision perceivedAt] := by
  have kinds : ∀ request ∈ call.requests, request.eventType ≠ .perceptionRecorded := by
    intro request member
    cases op with
    | applyPatch =>
        cases identified
        obtain ⟨operation, -, rfl⟩ := mem_map.1 member
        intro type
        have plain : (eventTypeFor operation.1).isCoordinate = false := eventTypeFor_eq.2.2
        rw [show eventTypeFor operation.1 = .perceptionRecorded from type] at plain
        cases plain
    | commitDecision =>
        cases identified
        rw [mem_singleton.1 member]
        intro type
        cases type
    | reopenNeed =>
        obtain ⟨need, -, rfl⟩ := map_eq_some_iff.1 identified
        rw [mem_singleton.1 member]
        intro type
        cases type
    | create | move | getState | rebuild | openNeed | recordPerception | processChange =>
        cases identified
  intro same
  refine kinds (perceptionEvent identity worldRevision perceivedAt) ?_ rfl
  rw [same]
  exact mem_singleton_self _

end

/-! ## Honest repetitions -/

/-- **A call is a repetition of itself**: it is answered as a repetition only if the
operation has been applied; an applied one is repeated without a trace; and a call under a
used identifier, which has not been applied, is refused. -/
structure ReplaysHonestly (ops : List CaseOp) (op : CaseOp) (call : IdentifiedCall) : Prop where
  only : ∀ answer next, caseService op (caseStoreAfter ops) = .ok (answer, next) →
    answer.replay = true → AppliedBefore ops call
  idle : AppliedBefore ops call →
    transact caseService (caseStoreAfter ops) op = caseStoreAfter ops
  rejects : underKey (caseStoreAfter ops) call.caseId call.key ≠ [] → ¬ AppliedBefore ops call →
    ∃ raised, caseService op (caseStoreAfter ops) = .error raised

/-- Where the case may change and the call finds something to repeat, that is what the
call would append. -/
def FindsItself (store : CaseStore) (op : CaseOp) (call : IdentifiedCall) : Prop :=
  MayChange store call.caseId → IsReplay store op →
    underKey store call.caseId call.key = call.requests

/-- What is recorded as the call would record it has been applied. -/
theorem appliedBefore_of_underKey (identified : op.identified? (caseStoreAfter ops) = some call)
    (recorded : underKey (caseStoreAfter ops) call.caseId call.key = call.requests) :
    AppliedBefore ops call := by
  rcases (history_caseStoreAfter ops).origin call.caseId call.key with unused |
    ⟨identity, worldRevision, perceivedAt, mark⟩ | applied
  · obtain ⟨request, member, -⟩ := (wellKeyed_of_identified identified).first
    rw [← recorded, unused] at member
    cases member
  · exact absurd (recorded.symm.trans mark) (requests_ne_perception identified _ _ _)
  · rw [recorded] at applied
    exact applied

/-- An applied call is repeated without a trace. -/
theorem transact_of_appliedBefore (identified : op.identified? (caseStoreAfter ops) = some call)
    (applied : AppliedBefore ops call) :
    transact caseService (caseStoreAfter ops) op = caseStoreAfter ops := by
  have history := history_caseStoreAfter ops
  have recorded := history.applied call applied
  cases outcome : caseService op (caseStoreAfter ops) with
  | error raised => exact transact_of_error outcome
  | ok result =>
      obtain ⟨answer, next⟩ := result
      obtain ⟨_, row, now, -, ofCase, answered, -⟩ := caseService_of_isReplay history.shown
        identified (isReplay_of_underKey identified recorded) (mayChange_of_ok identified outcome)
      rw [transact_of_ok answered]
      obtain ⟨request, member, -⟩ := (wellKeyed_of_identified identified).first
      rw [← recorded] at member
      obtain ⟨event, listed, -, -⟩ := mem_underKey.1 member
      obtain ⟨stored, ofEvent⟩ := mem_caseEventsOf.1 listed
      have projected := logsProjected_caseStoreAfter ops event stored
      rw [ofEvent, ← ofCase] at projected
      obtain ⟨current, cached⟩ := Option.ne_none_iff_exists'.1 projected
      rw [loadState, cached]

/-- **Repetitions are honest exactly where calls find themselves**, after every history
of calls: the lookups miss what is under the identifier of a call of another kind, and the
constraint of the table then refuses the call; what they find, they take for the call. -/
theorem replaysHonestly_iff (ops : List CaseOp) {op : CaseOp} {call : IdentifiedCall}
    (identified : op.identified? (caseStoreAfter ops) = some call) :
    ReplaysHonestly ops op call ↔ FindsItself (caseStoreAfter ops) op call := by
  have history := history_caseStoreAfter ops
  constructor
  · intro honest may replayed
    obtain ⟨answer, row, now, -, -, answered, replay⟩ :=
      caseService_of_isReplay history.shown identified replayed may
    exact history.applied call (honest.only answer _ answered replay)
  · intro finds
    have only : ∀ answer next, caseService op (caseStoreAfter ops) = .ok (answer, next) →
        answer.replay = true → AppliedBefore ops call := by
      intro answer next answered replay
      exact appliedBefore_of_underKey identified
        (finds (mayChange_of_ok identified answered) (isReplay_of_ok identified answered replay))
    refine ⟨only, transact_of_appliedBefore identified, fun used unapplied => ?_⟩
    cases outcome : caseService op (caseStoreAfter ops) with
    | error raised => exact ⟨raised, rfl⟩
    | ok result =>
        obtain ⟨answer, next⟩ := result
        cases appends_of_ok outcome with
        | nothing plain =>
            rcases plain with replay | unidentified
            · exact absurd (only answer next outcome replay) unapplied
            · rw [unidentified] at identified
              cases identified
        | perception unidentified =>
            rw [unidentified] at identified
            cases identified
        | @call other otherIdentified _ records =>
            obtain rfl := mem_unique otherIdentified identified
            exact absurd (records.underKey_eq (wellKeyed_of_identified identified)
              history.firsts).1 used

/-! ## An identifier that is used twice -/

/-- The host is unknown, which is recorded under `patch-1`. -/
def hostRecorded : List CaseOp :=
  twoNeeds ++ [.applyPatch .empty (hostPatch .set) "reasoned"
    (fun _ revision => "event-" ++ toString revision) 2]

/-- The same patch once more, at another time. -/
def hostAgain : CaseOp :=
  .applyPatch .empty (hostPatch .set) "reasoned" (fun _ revision => "again-" ++ toString revision) 9

/-- Another patch under the same identifier. -/
def userPatch : CaseOp :=
  .applyPatch .empty
    { hostPatch .set with
      baseCaseRevision := 4
      operations := [unknownOf "the user" (Eq.refl false) none]
      operations_nonempty := cons_ne_nil _ _ }
    "reasoned" (fun _ revision => "event-" ++ toString revision) 9

theorem replaysHonestly_iff_again : ∃ call, hostAgain.identified? (caseStoreAfter hostRecorded) =
    some call ∧ underKey (caseStoreAfter hostRecorded) call.caseId call.key ≠ [] ∧
      ReplaysHonestly hostRecorded hostAgain call := by
  refine ⟨_, rfl, by decide +kernel, (replaysHonestly_iff hostRecorded rfl).2 fun _ _ => ?_⟩
  decide +kernel

/-- **A patch is dropped**: it is answered as a repetition of another one, which was
recorded under its identifier. -/
theorem patch_dropped : ∃ call answer next,
    userPatch.identified? (caseStoreAfter hostRecorded) = some call ∧
      caseService userPatch (caseStoreAfter hostRecorded) = .ok (answer, next) ∧
      answer.replay = true ∧ ¬ AppliedBefore hostRecorded call ∧
      ¬ ReplaysHonestly hostRecorded userPatch call := by
  have computed : (caseService userPatch (caseStoreAfter hostRecorded)).toOption.map
      (·.1.replay) = some true := by
    decide +kernel
  obtain ⟨⟨answer, next⟩, answered, replay⟩ := map_eq_some_iff.1 computed
  have answered := toOption_eq_some.1 answered
  obtain ⟨call, identified, differs⟩ : ∃ call,
      userPatch.identified? (caseStoreAfter hostRecorded) = some call ∧
        underKey (caseStoreAfter hostRecorded) call.caseId call.key ≠ call.requests :=
    ⟨_, rfl, by decide +kernel⟩
  have unapplied : ¬ AppliedBefore hostRecorded call :=
    fun applied => differs ((history_caseStoreAfter hostRecorded).applied call applied)
  exact ⟨call, answer, next, identified, answered, replay, unapplied,
    fun honest => unapplied (honest.only answer next answered replay)⟩

end SecFusion.Investigation
