import SecFusion.Investigation.Effects

/-!
# The items of a case

Replaying a log files every item under its proposition and target.  An addition
takes the key out of all four exclusive buckets before it files it, and a removal
only takes it out, so no log leaves a key in two of them; what is in a bucket was
put there by the last operation on its key.

What the items of a bucket satisfy is what the events that add to it satisfy, and
those are the accepted ones (`Admissible`).
-/

namespace SecFusion.Investigation

open Foundations Intelligence

variable {recording : Bool}

/-! ## One event -/

/-- **What replaying one event does to the buckets.** -/
inductive Replayed (buckets : Buckets) (event : CaseStateEventModel) (next : Buckets) : Prop
  /-- The event is no operation on an item. -/
  | unchanged (same : next = buckets)
      (idle : event.proposition = none ∨
        (additions event.eventType = none ∧ removals event.eventType = none))
  | added {proposition : String} {bucket : Bucket} (named : event.proposition = some proposition)
      (addition : additions event.eventType = some bucket)
      (lookup : ∀ other key, (next other).get? key =
        if (proposition, event.targetRef) = key then
          if other = bucket then some (replayItem event proposition)
          else if bucket.isExclusive ∧ other.isExclusive then none
          else (buckets other).get? key
        else (buckets other).get? key)
  | removed {proposition : String} {bucket : Bucket} (named : event.proposition = some proposition)
      (addition : additions event.eventType = none)
      (removal : removals event.eventType = some bucket)
      (lookup : ∀ other key, (next other).get? key =
        if (proposition, event.targetRef) = key ∧ other = bucket then none
        else (buckets other).get? key)

theorem get?_popExclusive (buckets : Buckets) (key other : ItemKey) (bucket : Bucket) :
    (popExclusive buckets key bucket).get? other =
      if key = other ∧ bucket.isExclusive = true then none else (buckets bucket).get? other := by
  unfold popExclusive
  cases exclusive : bucket.isExclusive with
  | false => simp
  | true => simp [Dict.get?_pop]

theorem replayed_replayEvent (buckets : Buckets) (event : CaseStateEventModel) :
    Replayed buckets event (replayEvent buckets event) := by
  unfold replayEvent
  cases named : event.proposition with
  | none => exact .unchanged rfl (.inl named)
  | some proposition =>
      dsimp only
      cases addition : additions event.eventType with
      | some bucket =>
          refine .added named addition fun other key => ?_
          dsimp only
          by_cases same : other = bucket
          · subst same
            rw [update_self, Dict.get?_set]
            by_cases hit : (proposition, event.targetRef) = key
            · simp [hit]
            · rw [if_neg hit, if_neg hit]
              cases exclusive : other.isExclusive with
              | false => simp
              | true => simp [get?_popExclusive, hit]
          · rw [update_of_ne same]
            cases exclusive : bucket.isExclusive with
            | false => simp [same]
            | true => simp [get?_popExclusive, same, ite_and]
      | none =>
          cases removal : removals event.eventType with
          | none => exact .unchanged rfl (.inr ⟨addition, removal⟩)
          | some bucket =>
              refine .removed named addition removal fun other key => ?_
              dsimp only
              by_cases same : other = bucket
              · subst same
                rw [update_self, Dict.get?_pop]
                simp
              · rw [update_of_ne same]
                simp [same]

variable {event : CaseStateEventModel} {proposition : String} {bucket : Bucket} {buckets : Buckets}
  {events : List CaseStateEventModel} {key : ItemKey} {item : InvestigationStateItem}
  {eventType : CaseStateEventType}

theorem get?_replayEvent_of_addition (named : event.proposition = some proposition)
    (addition : additions event.eventType = some bucket) (buckets : Buckets) (other : Bucket)
    (key : ItemKey) :
    (replayEvent buckets event other).get? key =
      if (proposition, event.targetRef) = key then
        if other = bucket then some (replayItem event proposition)
        else if bucket.isExclusive ∧ other.isExclusive then none
        else (buckets other).get? key
      else (buckets other).get? key := by
  cases replayed_replayEvent buckets event with
  | unchanged _ idle =>
      rcases idle with unnamed | ⟨none, -⟩
      · rw [named] at unnamed
        cases unnamed
      · rw [addition] at none
        cases none
  | @added text target textNamed targetAddition lookup =>
      obtain rfl := mem_unique textNamed named
      obtain rfl := mem_unique targetAddition addition
      exact lookup other key
  | removed _ none =>
      rw [addition] at none
      cases none

theorem get?_replayEvent_of_removal (named : event.proposition = some proposition)
    (addition : additions event.eventType = none) (removal : removals event.eventType = some bucket)
    (buckets : Buckets) (other : Bucket) (key : ItemKey) :
    (replayEvent buckets event other).get? key =
      if (proposition, event.targetRef) = key ∧ other = bucket then none
      else (buckets other).get? key := by
  cases replayed_replayEvent buckets event with
  | unchanged _ idle =>
      rcases idle with unnamed | ⟨-, none⟩
      · rw [named] at unnamed
        cases unnamed
      · rw [removal] at none
        cases none
  | added _ filed =>
      rw [addition] at filed
      cases filed
  | @removed text source textNamed _ sourceRemoval lookup =>
      obtain rfl := mem_unique textNamed named
      obtain rfl := mem_unique sourceRemoval removal
      exact lookup other key

/-! ## Whole logs -/

/-- A key is in at most one of the exclusive buckets. -/
def Exclusive (buckets : Buckets) : Prop :=
  ∀ key first second, first.isExclusive = true → second.isExclusive = true →
    (buckets first).get? key ≠ none → (buckets second).get? key ≠ none → first = second

theorem Exclusive.step {next : Buckets} (exclusive : Exclusive buckets)
    (replayed : Replayed buckets event next) : Exclusive next := by
  intro key first second firstExclusive secondExclusive inFirst inSecond
  cases replayed with
  | unchanged same =>
      rw [same] at inFirst inSecond
      exact exclusive key first second firstExclusive secondExclusive inFirst inSecond
  | @added proposition bucket named addition lookup =>
      rw [lookup] at inFirst inSecond
      by_cases hit : (proposition, event.targetRef) = key
      · rw [if_pos hit] at inFirst inSecond
        cases filed : bucket.isExclusive with
        | true =>
            -- the key has been taken out of every exclusive bucket but this one
            have here : ∀ other : Bucket, other.isExclusive = true →
                (if other = bucket then some (replayItem event proposition)
                  else if bucket.isExclusive = true ∧ other.isExclusive = true then none
                  else (buckets other).get? key) ≠ none → other = bucket := by
              intro other otherExclusive present
              by_contra different
              rw [if_neg different, if_pos ⟨filed, otherExclusive⟩] at present
              exact present rfl
            exact (here first firstExclusive inFirst).trans (here second secondExclusive inSecond).symm
        | false =>
            have apart : ∀ other : Bucket, other.isExclusive = true → other ≠ bucket := by
              rintro other otherExclusive rfl
              rw [otherExclusive] at filed
              cases filed
            simp only [if_neg (apart first firstExclusive), filed] at inFirst
            simp only [if_neg (apart second secondExclusive), filed] at inSecond
            exact exclusive key first second firstExclusive secondExclusive (by simpa using inFirst)
              (by simpa using inSecond)
      · rw [if_neg hit] at inFirst inSecond
        exact exclusive key first second firstExclusive secondExclusive inFirst inSecond
  | removed _ _ _ lookup =>
      rw [lookup] at inFirst inSecond
      refine exclusive key first second firstExclusive secondExclusive ?_ ?_
      · intro absent
        rw [absent] at inFirst
        simp at inFirst
      · intro absent
        rw [absent] at inSecond
        simp at inSecond

theorem exclusive_replayLog (events : List CaseStateEventModel) : Exclusive (replayLog events) := by
  have fold : ∀ (buckets : Buckets), Exclusive buckets →
      Exclusive (events.foldl replayEvent buckets) := by
    induction events with
    | nil => exact fun _ exclusive => exclusive
    | cons event rest ih =>
        intro buckets exclusive
        exact ih _ (exclusive.step (replayed_replayEvent buckets event))
  refine fold noItems ?_
  intro key first second _ _ present
  exact absurd rfl present

theorem exists_event_of_item (found : (replayLog events bucket).get? key = some item) :
    ∃ event ∈ events, additions event.eventType = some bucket ∧
      ∃ proposition, item = replayItem event proposition := by
  have fold : ∀ (buckets : Buckets), (events.foldl replayEvent buckets bucket).get? key = some item →
      (buckets bucket).get? key = some item ∨
        ∃ event ∈ events, additions event.eventType = some bucket ∧
          ∃ proposition, item = replayItem event proposition := by
    clear found
    induction events with
    | nil => exact fun _ present => .inl present
    | cons event rest ih =>
        intro buckets present
        rcases ih (replayEvent buckets event) present with earlier | later
        · cases replayed_replayEvent buckets event with
          | unchanged same =>
              rw [same] at earlier
              exact .inl earlier
          | @added proposition target named addition lookup =>
              rw [lookup] at earlier
              split at earlier
              next =>
                split at earlier
                next same =>
                  subst same
                  exact .inr ⟨event, mem_cons_self, addition, proposition,
                    (Option.some.inj earlier).symm⟩
                next =>
                  split at earlier
                  · cases earlier
                  · exact .inl earlier
              next => exact .inl earlier
          | removed _ _ _ lookup =>
              rw [lookup] at earlier
              split at earlier
              · cases earlier
              · exact .inl earlier
        · obtain ⟨other, member, rest⟩ := later
          exact .inr ⟨other, mem_cons_of_mem _ member, rest⟩
  rcases fold noItems found with impossible | filed
  · cases impossible
  · exact filed

/-- An item is filed under its proposition and target. -/
theorem key_of_item (found : (replayLog events bucket).get? key = some item) :
    (item.proposition, item.targetRef) = key := by
  have fold : ∀ (buckets : Buckets), (∀ bucket key item, (buckets bucket).get? key = some item →
      (item.proposition, item.targetRef) = key) →
        (events.foldl replayEvent buckets bucket).get? key = some item →
          (item.proposition, item.targetRef) = key := by
    clear found
    induction events with
    | nil => exact fun _ keyed present => keyed bucket key item present
    | cons event rest ih =>
        intro buckets keyed
        refine ih (replayEvent buckets event) fun bucket key item present => ?_
        cases replayed_replayEvent buckets event with
        | unchanged same =>
            rw [same] at present
            exact keyed bucket key item present
        | added named addition lookup =>
            rw [lookup] at present
            split at present
            next hit =>
              split at present
              · exact (Option.some.inj present) ▸ hit
              · split at present
                · cases present
                · exact keyed bucket key item present
            next => exact keyed bucket key item present
        | removed _ _ _ lookup =>
            rw [lookup] at present
            split at present
            · cases present
            · exact keyed bucket key item present
  refine fold noItems ?_ found
  intro bucket key item present
  cases present

/-- The event operates on the key in one of the exclusive buckets. -/
def OperatesOn (event : CaseStateEventModel) (key : ItemKey) : Prop :=
  event.proposition = some key.1 ∧ event.targetRef = key.2 ∧
    ((∃ bucket, additions event.eventType = some bucket ∧ bucket.isExclusive = true) ∨
      ∃ bucket, removals event.eventType = some bucket ∧ bucket.isExclusive = true)

/-- An event that does not operate on a key leaves it where it is. -/
theorem get?_replayEvent_of_not (idle : ¬ OperatesOn event key)
    (exclusive : bucket.isExclusive = true) :
    (replayEvent buckets event bucket).get? key = (buckets bucket).get? key := by
  cases replayed_replayEvent buckets event with
  | unchanged same => rw [same]
  | @added proposition target named addition lookup =>
      rw [lookup]
      by_cases hit : (proposition, event.targetRef) = key
      · subst hit
        have other : target.isExclusive = false := by
          by_contra filed
          exact idle ⟨named, rfl, .inl ⟨target, addition, by simpa using filed⟩⟩
        have different : bucket ≠ target := by
          rintro rfl
          rw [exclusive] at other
          cases other
        simp [different, other]
      · rw [if_neg hit]
  | @removed proposition target named addition removal lookup =>
      rw [lookup]
      refine if_neg ?_
      rintro ⟨rfl, rfl⟩
      exact idle ⟨named, rfl, .inr ⟨bucket, removal, exclusive⟩⟩

theorem get?_foldl_of_not (idle : ∀ event ∈ events, ¬ OperatesOn event key)
    (exclusive : bucket.isExclusive = true) (buckets : Buckets) :
    (events.foldl replayEvent buckets bucket).get? key = (buckets bucket).get? key := by
  induction events generalizing buckets with
  | nil => rfl
  | cons event rest ih =>
      rw [foldl_cons, ih (fun later member => idle later (mem_cons_of_mem _ member))]
      exact get?_replayEvent_of_not (idle event mem_cons_self) exclusive

/-- The last operation on a key, if it files it, decides where it is. -/
theorem get?_replayLog_of_last (before : List CaseStateEventModel)
    {after : List CaseStateEventModel} (named : event.proposition = some proposition)
    (addition : additions event.eventType = some bucket) (exclusive : bucket.isExclusive = true)
    (last : ∀ later ∈ after, ¬ OperatesOn later (proposition, event.targetRef)) :
    (replayLog (before ++ event :: after) bucket).get? (proposition, event.targetRef) =
        some (replayItem event proposition) ∧
      ∀ other, other.isExclusive = true → other ≠ bucket →
        (replayLog (before ++ event :: after) other).get? (proposition, event.targetRef) = none := by
  have filed : ∀ other, other.isExclusive = true →
      (replayLog (before ++ event :: after) other).get? (proposition, event.targetRef) =
        (replayEvent (replayLog before) event other).get? (proposition, event.targetRef) := by
    intro other otherExclusive
    rw [replayLog, foldl_append, foldl_cons]
    exact get?_foldl_of_not last otherExclusive _
  have here : ∀ other, (replayEvent (replayLog before) event other).get?
      (proposition, event.targetRef) =
        if other = bucket then some (replayItem event proposition)
        else if bucket.isExclusive = true ∧ other.isExclusive = true then none
        else (replayLog before other).get? (proposition, event.targetRef) := by
    intro other
    rw [get?_replayEvent_of_addition named addition, if_pos rfl]
  refine ⟨?_, fun other otherExclusive different => ?_⟩
  · rw [filed bucket exclusive, here, if_pos rfl]
  · rw [filed other otherExclusive, here, if_neg different, if_pos ⟨exclusive, otherExclusive⟩]

/-! ## Reachable logs -/

/-- Every event of the log was accepted. -/
def LogAdmissible (store : CaseStore) : Prop := ∀ event ∈ store.events.rows, Admissible event

theorem LogAdmissible.writes {caseId : String} {store next : CaseStore}
    (admissible : LogAdmissible store) (writes : Writes recording caseId store next) :
    LogAdmissible next := by
  induction writes with
  | refl => exact admissible
  | tail _ write ih =>
      obtain ⟨event, appended, accepted⟩ := write.appended
      intro other member
      rw [appended.events, mem_append, mem_singleton] at member
      rcases member with old | rfl
      · exact ih other old
      · exact accepted

theorem logAdmissible_caseStoreAfter (ops : List CaseOp) : LogAdmissible (caseStoreAfter ops) := by
  refine caseStoreAfter_invariant ?_ ?_ ops
  · intro event member
    cases member
  · intro store next admissible recording change
    cases change with
    | created => exact admissible
    | moved => exact admissible
    | written writes =>
        intro event member
        exact admissible.writes writes event member

def bucketOf : ProposedState → Bucket
  | .confirmed => .confirmed
  | .tentative => .tentative
  | .conflict => .conflicts
  | .unknown => .unknowns
  | .hypothesis => .hypotheses

/-- Setting a state adds to its bucket. -/
theorem additions_eventTypeFor {operation : StatePatchOperation}
    (set : operation.disposition = .set) :
    additions (eventTypeFor operation) = some (bucketOf operation.proposedState) := by
  unfold eventTypeFor
  rw [set]
  cases operation.proposedState <;> rfl

theorem additions_eq_confirmed (addition : additions eventType = some .confirmed) :
    eventType = .factConfirmed := by
  cases eventType <;> first | rfl | cases addition

theorem additions_eq_conflicts (addition : additions eventType = some .conflicts) :
    eventType = .conflictOpened := by
  cases eventType <;> first | rfl | cases addition

/-- **The items of every reachable case.**  Replaying its log leaves a key in at
most one of the four exclusive buckets; whatever is confirmed or disputed has
evidence, and nothing confirmed is inferred; and a key that was last set in one of
the four states is in the bucket of that state, with the evidence it was set with,
and in none of the other three. -/
theorem case_items (ops : List CaseOp) (caseId : String) :
    (∀ key first second, first.isExclusive = true → second.isExclusive = true →
        key ∈ (replayLog ((caseStoreAfter ops).orderedEvents caseId) first).keys →
        key ∈ (replayLog ((caseStoreAfter ops).orderedEvents caseId) second).keys →
          first = second) ∧
      (∀ item ∈ (replayLog ((caseStoreAfter ops).orderedEvents caseId) .confirmed).values,
        item.evidenceRefs ≠ [] ∧ isInferred item.reasoningRelation = false) ∧
      (∀ item ∈ (replayLog ((caseStoreAfter ops).orderedEvents caseId) .conflicts).values,
        item.evidenceRefs ≠ []) ∧
      ∀ before event after operation,
        (caseStoreAfter ops).orderedEvents caseId = before ++ event :: after →
        event.eventType = eventTypeFor operation → event.proposition = some operation.proposition →
        event.targetRef = operation.targetRef → event.evidenceRefs = operation.evidenceRefs →
        operation.disposition = .set → operation.proposedState ≠ .hypothesis →
        (∀ later ∈ after, ¬ OperatesOn later (operation.proposition, operation.targetRef)) →
          (∃ item, (replayLog ((caseStoreAfter ops).orderedEvents caseId)
              (bucketOf operation.proposedState)).get?
                (operation.proposition, operation.targetRef) = some item ∧
              item.evidenceRefs = operation.evidenceRefs) ∧
            ∀ other, other.isExclusive = true → other ≠ bucketOf operation.proposedState →
              (operation.proposition, operation.targetRef) ∉
                (replayLog ((caseStoreAfter ops).orderedEvents caseId) other).keys := by
  have accepted : ∀ event ∈ (caseStoreAfter ops).orderedEvents caseId, Admissible event := by
    intro event member
    have listed := (mem_insertionSort _).1 member
    exact logAdmissible_caseStoreAfter ops event (Table.mem_select.1 listed).1
  refine ⟨?_, ?_, ?_, ?_⟩
  · intro key first second firstExclusive secondExclusive inFirst inSecond
    refine exclusive_replayLog ((caseStoreAfter ops).orderedEvents caseId) key first second
      firstExclusive secondExclusive ?_ ?_
    · rw [ne_eq, Dict.get?_eq_none, not_not]
      exact inFirst
    · rw [ne_eq, Dict.get?_eq_none, not_not]
      exact inSecond
  · intro item listed
    obtain ⟨key, found⟩ := Dict.mem_values.1 listed
    obtain ⟨event, member, addition, proposition, rfl⟩ := exists_event_of_item found
    have type := additions_eq_confirmed addition
    exact ⟨(accepted event member).evidence (.inl type), (accepted event member).deterministic type⟩
  · intro item listed
    obtain ⟨key, found⟩ := Dict.mem_values.1 listed
    obtain ⟨event, member, addition, proposition, rfl⟩ := exists_event_of_item found
    have type := additions_eq_conflicts addition
    exact (accepted event member).evidence (.inr type)
  · intro before event after operation log type named target evidence set known last
    have addition : additions event.eventType = some (bucketOf operation.proposedState) := by
      rw [type]
      exact additions_eventTypeFor set
    have exclusive : (bucketOf operation.proposedState).isExclusive = true := by
      cases state : operation.proposedState with
      | hypothesis => exact absurd state known
      | confirmed | tentative | conflict | unknown => rfl
    rw [← target] at last ⊢
    obtain ⟨found, others⟩ := get?_replayLog_of_last before named addition exclusive last
    rw [log]
    refine ⟨⟨_, found, evidence⟩, fun other otherExclusive different => ?_⟩
    exact Dict.get?_eq_none.1 (others other otherExclusive different)

end SecFusion.Investigation
