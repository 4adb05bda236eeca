import SecFusion.Foundations.Draining
import SecFusion.Monitoring.RunService

/-!
# Starvation in the outbox

`dispatch_pending_events` selects by availability and identifier, and an event whose
publication raises keeps both: it stands in the next selection where it stood in this one.
The dispatcher is repeated here over a broker that refuses a fixed set of events, with
nothing added to the outbox in between.  The keys of the pending events then drain in
batches (`Drains`), the refused ones being the blocked ones.
-/

namespace SecFusion.Monitoring

open Foundations

/-! ## Repeated ticks -/

/-- A broker that refuses the events of `failing`, at every tick, and takes all others. -/
structure Broker (failing : Set String) where
  /-- What becomes of the publication of an event at a tick. -/
  answer : ℕ → String → Except String Unit
  refuses_iff : ∀ tick eventId, (∃ error, answer tick eventId = .error error) ↔ eventId ∈ failing

/-- `dispatch_pending_events` with a publisher whose answer may depend on more of the event
than its topic and payload. -/
def dispatchTick (answer : String → Except String Unit) (store : MonitoringStore) (now : ℤ)
    (limit : ℕ) : MonitoringStore :=
  { store with
    events := store.events.write ((pendingEvents store now limit none).map fun event =>
      publishedEvent (fun _ _ => answer event.eventId) now event) }

/-- A publisher whose answer depends on no more is an instance. -/
theorem dispatchPendingEvents_eq_dispatchTick (store : MonitoringStore) (now : ℤ) (limit : ℕ)
    (publisher : String → JsonObject → Except String Unit) (answer : String → Except String Unit)
    (agrees : ∀ event ∈ store.events.rows,
      publisher event.topic event.payload = answer event.eventId) :
    (dispatchPendingEvents store now limit none publisher).2 =
      dispatchTick answer store now limit := by
  have same : (pendingEvents store now limit none).map (publishedEvent publisher now) =
      (pendingEvents store now limit none).map fun event =>
        publishedEvent (fun _ _ => answer event.eventId) now event := by
    refine map_congr_left fun event listed => ?_
    have member := mem_of_mem_take listed
    rw [mem_insertionSort, mem_select] at member
    simp only [publishedEvent, agrees event member.1]
  simp only [dispatchPendingEvents, dispatchTick, same]

section Repetition

variable {failing : Set String} (broker : Broker failing) (clock : ℕ → ℤ) (limit : ℕ)
  (store : MonitoringStore)

/-- The store after a number of ticks, each committed. -/
def outboxAfter : ℕ → MonitoringStore
  | 0 => store
  | tick + 1 => dispatchTick (broker.answer tick) (outboxAfter tick) (clock tick) limit

/-- The events that a tick publishes, or tries to. -/
def publishedAt (tick : ℕ) : List String :=
  (pendingEvents (outboxAfter broker clock limit store tick) (clock tick) limit none).map
    (·.eventId)

/-- **Nothing starves**: each pending event that the broker takes is delivered after some
number of ticks, and what is delivered is not published again. -/
structure NothingStarves : Prop where
  delivered : ∀ event ∈ store.events.rows, event.status = .pending → event.eventId ∉ failing →
    ∃ tick, ∃ row ∈ (outboxAfter broker clock limit store tick).events.rows,
      row.eventId = event.eventId ∧ row.status = .delivered
  once : ∀ tick later, tick ≤ later →
    ∀ row ∈ (outboxAfter broker clock limit store tick).events.rows, row.status = .delivered →
      row.eventId ∉ publishedAt broker clock limit store later

/-- Every pending event is available at every tick. -/
def AllAvailable : Prop :=
  ∀ tick, ∀ event ∈ store.events.rows, event.status = .pending → event.availableAt ≤ clock tick

end Repetition

def OutboxEventModel.selectionKey (event : OutboxEventModel) : ℤ ×ₗ String :=
  toLex (event.availableAt, event.eventId)

/-- The pending events of `failing` that are selected before an event. -/
def refusedBefore (failing : Set String) [DecidablePred (· ∈ failing)] (store : MonitoringStore)
    (event : OutboxEventModel) : List OutboxEventModel :=
  store.events.select fun other => other.status = .pending ∧ other.eventId ∈ failing ∧
    other.selectionKey < event.selectionKey

/-- Fewer refused events than fit into a batch stand before each event that the broker takes. -/
def FewRefusedBefore (failing : Set String) [DecidablePred (· ∈ failing)] (limit : ℕ)
    (store : MonitoringStore) : Prop :=
  ∀ event ∈ store.events.rows, event.status = .pending → event.eventId ∉ failing →
    (refusedBefore failing store event).length < limit

instance (failing : Set String) [DecidablePred (· ∈ failing)] (limit : ℕ)
    (store : MonitoringStore) : Decidable (FewRefusedBefore failing limit store) :=
  inferInstanceAs (Decidable (∀ event ∈ store.events.rows, _ → ¬ (_ ∈ failing) → _))

/-! ## One tick -/

def pendingKeys (store : MonitoringStore) : Finset (ℤ ×ₗ String) :=
  ((store.events.select (·.status = .pending)).map (·.selectionKey)).toFinset

variable {store : MonitoringStore}

theorem mem_pendingKeys {key : ℤ ×ₗ String} :
    key ∈ pendingKeys store ↔
      ∃ event ∈ store.events.rows, event.status = .pending ∧ event.selectionKey = key := by
  simp [pendingKeys, and_assoc]

variable {left right event : OutboxEventModel} {now : ℤ}

/-- Events of a store are told apart by their keys. -/
theorem eq_of_selectionKey (leftMember : left ∈ store.events.rows)
    (rightMember : right ∈ store.events.rows) (same : left.selectionKey = right.selectionKey) :
    left = right :=
  eq_of_key leftMember rightMember (congrArg (fun key => (ofLex key).2) same)

/-- What a tick does to a row. -/
theorem events_dispatchTick (answer : String → Except String Unit) (store : MonitoringStore)
    (now : ℤ) (limit : ℕ) :
    Forall₂ (fun old new =>
        (old ∈ pendingEvents store now limit none ∧
          new = publishedEvent (fun _ _ => answer old.eventId) now old) ∨
        (old ∉ pendingEvents store now limit none ∧ new = old))
      store.events.rows (dispatchTick answer store now limit).events.rows := by
  have members : ∀ event ∈ pendingEvents store now limit none, event ∈ store.events.rows := by
    intro event listed
    have member := mem_of_mem_take listed
    rw [mem_insertionSort, mem_select] at member
    exact member.1
  refine Table.forall₂_write members ?_
  rw [forall₂_map_right_iff, forall₂_same]
  exact fun event _ => ⟨publishedEvent_eventId _ _ _, rfl⟩

theorem publishedEvent_selectionKey (publisher : String → JsonObject → Except String Unit)
    (now : ℤ) (event : OutboxEventModel) :
    (publishedEvent publisher now event).selectionKey = event.selectionKey := by
  unfold publishedEvent
  split <;> rfl

/-- A tick keeps the keys of the events, and what is delivered. -/
theorem events_dispatchTick_keeps (answer : String → Except String Unit) (store : MonitoringStore)
    (now : ℤ) (limit : ℕ) :
    Forall₂ (fun old new => new.selectionKey = old.selectionKey ∧
        (old.status = .delivered → new.status = .delivered))
      store.events.rows (dispatchTick answer store now limit).events.rows := by
  refine forall₂_imp_mem (events_dispatchTick answer store now limit) fun old _ new moved => ?_
  rcases moved with ⟨listed, rfl⟩ | ⟨-, rfl⟩
  · refine ⟨publishedEvent_selectionKey _ _ _, fun delivered => ?_⟩
    unfold publishedEvent
    split
    next => exact delivered
    next => rfl
  · exact ⟨rfl, id⟩

/-- The order of the dispatcher's query is that of the keys. -/
theorem selectionKey_le_iff :
    left.selectionKey ≤ right.selectionKey ↔ left.availableAt < right.availableAt ∨
      (left.availableAt = right.availableAt ∧ left.eventId ≤ right.eventId) := by
  rw [OutboxEventModel.selectionKey, OutboxEventModel.selectionKey, Prod.Lex.toLex_le_toLex]

/-- What the dispatcher's query sorts. -/
def candidates (store : MonitoringStore) (now : ℤ) : List OutboxEventModel :=
  store.events.select fun event => event.status = .pending ∧ event.availableAt ≤ now

def sortedCandidates (store : MonitoringStore) (now : ℤ) : List OutboxEventModel :=
  (candidates store now).insertionSort fun left right => left.selectionKey ≤ right.selectionKey

theorem pendingEvents_eq_take (store : MonitoringStore) (now : ℤ) (limit : ℕ) :
    pendingEvents store now limit none = (sortedCandidates store now).take limit := by
  simp only [pendingEvents, sortedCandidates, candidates, selectionKey_le_iff, Option.all_none,
    and_true]

theorem mem_sortedCandidates :
    event ∈ sortedCandidates store now ↔
      event ∈ store.events.rows ∧ event.status = .pending ∧ event.availableAt ≤ now := by
  rw [sortedCandidates, mem_insertionSort, candidates, mem_select, decide_eq_true_eq]

/-- No two candidates have the same key, so their keys increase strictly. -/
theorem sortedCandidates_increasing (store : MonitoringStore) (now : ℤ) :
    ((sortedCandidates store now).map (·.selectionKey)).Pairwise (· < ·) := by
  have distinct : (sortedCandidates store now).Nodup := by
    rw [sortedCandidates, (perm_insertionSort _ _).nodup_iff]
    exact (store.events.nodup.of_map _).filter _
  have total : Std.Total fun left right : OutboxEventModel =>
      left.selectionKey ≤ right.selectionKey := ⟨fun _ _ => le_total _ _⟩
  have transitive : IsTrans OutboxEventModel fun left right =>
      left.selectionKey ≤ right.selectionKey := ⟨fun _ _ _ => le_trans⟩
  have ordered := pairwise_insertionSort (fun left right : OutboxEventModel =>
    left.selectionKey ≤ right.selectionKey) (candidates store now)
  rw [pairwise_map]
  refine (ordered.and distinct).imp_of_mem fun {left right} leftListed rightListed both => ?_
  refine lt_of_le_of_ne both.1 fun same => both.2 ?_
  exact eq_of_selectionKey (mem_sortedCandidates.1 leftListed).1
    (mem_sortedCandidates.1 rightListed).1 same

/-- The batch of a tick: the pending events with fewer than `limit` keys below theirs. -/
theorem mem_pendingEvents_iff {limit : ℕ}
    (available : ∀ event ∈ store.events.rows, event.status = .pending → event.availableAt ≤ now)
    (member : event ∈ store.events.rows) :
    event ∈ pendingEvents store now limit none ↔ event.status = .pending ∧
      ((pendingKeys store).filter (· < event.selectionKey)).card < limit := by
  set keys := (sortedCandidates store now).map (·.selectionKey) with isKeys
  have increasing : keys.Pairwise (· < ·) := sortedCandidates_increasing store now
  have keysOfPending : pendingKeys store = keys.toFinset := by
    ext key
    rw [mem_pendingKeys, mem_toFinset, isKeys, mem_map]
    constructor
    · rintro ⟨other, listed, waits, rfl⟩
      exact ⟨other, mem_sortedCandidates.2 ⟨listed, waits, available other listed waits⟩, rfl⟩
    · rintro ⟨other, listed, rfl⟩
      obtain ⟨stored, waits, -⟩ := mem_sortedCandidates.1 listed
      exact ⟨other, stored, waits, rfl⟩
  have below : ((pendingKeys store).filter (· < event.selectionKey)).card =
      (keys.filter (· < event.selectionKey)).length := by
    have filtered : keys.toFinset.filter (· < event.selectionKey) =
        (keys.filter (· < event.selectionKey)).toFinset := by
      ext key
      simp
    rw [keysOfPending, filtered, List.toFinset_card_of_nodup]
    exact (increasing.imp ne_of_lt).filter _
  have inBatch : event ∈ pendingEvents store now limit none ↔
      event.selectionKey ∈ keys.take limit := by
    rw [pendingEvents_eq_take, isKeys, ← List.map_take]
    constructor
    · exact fun listed => mem_map.2 ⟨event, listed, rfl⟩
    · intro listed
      obtain ⟨other, otherListed, same⟩ := mem_map.1 listed
      have stored := (mem_sortedCandidates.1 (mem_of_mem_take otherListed)).1
      rwa [eq_of_selectionKey stored member same] at otherListed
  have listed : event.selectionKey ∈ keys ↔ event.status = .pending := by
    rw [← mem_toFinset, ← keysOfPending, mem_pendingKeys]
    constructor
    · rintro ⟨other, stored, waits, same⟩
      rwa [← eq_of_selectionKey stored member same]
    · exact fun waits => ⟨event, member, waits, rfl⟩
  rw [inBatch, mem_take_iff_of_pairwise_lt increasing, listed, below]

/-! ## The run -/

section Run

variable {failing : Set String} {broker : Broker failing} {clock : ℕ → ℤ} {limit : ℕ}
  {store : MonitoringStore}

/-- The rows stay, with their keys, and stay delivered. -/
theorem events_outboxAfter_keeps (tick later : ℕ) :
    Forall₂ (fun old new => new.selectionKey = old.selectionKey ∧
        (old.status = .delivered → new.status = .delivered))
      (outboxAfter broker clock limit store tick).events.rows
      (outboxAfter broker clock limit store (tick + later)).events.rows := by
  induction later with
  | zero => exact forall₂_same.2 fun row _ => ⟨rfl, id⟩
  | succ later ih =>
      have moved := events_dispatchTick_keeps (broker.answer (tick + later))
        (outboxAfter broker clock limit store (tick + later)) (clock (tick + later)) limit
      refine forall₂_trans ?_ ih moved
      rintro old middle new ⟨firstKey, firstStays⟩ ⟨secondKey, secondStays⟩
      exact ⟨secondKey.trans firstKey, secondStays ∘ firstStays⟩

/-- Whatever is pending at some tick was pending from the beginning. -/
theorem available_outboxAfter (available : AllAvailable clock store) (tick : ℕ) :
    ∀ event ∈ (outboxAfter broker clock limit store tick).events.rows, event.status = .pending →
      event.availableAt ≤ clock tick := by
  intro event member waits
  have kept := @events_outboxAfter_keeps failing broker clock limit store 0 tick
  rw [Nat.zero_add] at kept
  obtain ⟨start, listed, sameKey, stays⟩ := exists_left_of_mem kept member
  have sameInstant : event.availableAt = start.availableAt :=
    congrArg (fun key => (ofLex key).1) sameKey
  have waited : start.status = .pending := by
    cases was : start.status with
    | pending => rfl
    | delivered => exact absurd (waits.symm.trans (stays was)) (by decide)
  rw [sameInstant]
  exact available tick start listed waited

/-- **The pending events drain in batches.** -/
theorem drains_outboxAfter (available : AllAvailable clock store) :
    Drains limit (fun key : ℤ ×ₗ String => (ofLex key).2 ∈ failing)
      fun tick => pendingKeys (outboxAfter broker clock limit store tick) := by
  intro tick key
  have reachable := @available_outboxAfter failing broker clock limit store available tick
  have moved := events_dispatchTick (broker.answer tick)
    (outboxAfter broker clock limit store tick) (clock tick) limit
  have next : outboxAfter broker clock limit store (tick + 1) =
      dispatchTick (broker.answer tick) (outboxAfter broker clock limit store tick) (clock tick)
        limit := rfl
  dsimp only
  rw [next]
  generalize outboxAfter broker clock limit store tick = before at reachable moved
  rw [mem_pendingKeys, mem_pendingKeys]
  constructor
  · rintro ⟨new, newMember, waits, rfl⟩
    obtain ⟨old, member, ⟨listed, rfl⟩ | ⟨unlisted, rfl⟩⟩ := exists_left_of_mem moved newMember
    · have waited := ((mem_pendingEvents_iff reachable member).1 listed).1
      rw [publishedEvent_selectionKey]
      refine ⟨⟨old, member, waited, rfl⟩, .inl ((broker.refuses_iff tick _).1 ?_)⟩
      unfold publishedEvent at waits
      split at waits
      next error refused => exact ⟨error, refused⟩
      next => cases waits
    · refine ⟨⟨new, member, waits, rfl⟩, .inr (not_lt.1 fun early => unlisted ?_)⟩
      exact (mem_pendingEvents_iff reachable member).2 ⟨waits, early⟩
  · rintro ⟨⟨old, member, waits, rfl⟩, remains⟩
    obtain ⟨new, newMember, ⟨listed, rfl⟩ | ⟨-, rfl⟩⟩ := exists_right_of_mem moved member
    · obtain ⟨-, early⟩ := (mem_pendingEvents_iff reachable member).1 listed
      rcases remains with refused | late
      · obtain ⟨error, ok⟩ := (broker.refuses_iff tick old.eventId).2 refused
        refine ⟨_, newMember, ?_, publishedEvent_selectionKey _ _ _⟩
        rw [publishedEvent, ok]
        exact waits
      · omega
    · exact ⟨new, newMember, waits, rfl⟩

/-- An event is delivered when its key is no longer that of a pending one. -/
theorem delivered_iff_not_mem_pendingKeys (member : event ∈ store.events.rows) (tick : ℕ) :
    (∃ row ∈ (outboxAfter broker clock limit store tick).events.rows,
        row.eventId = event.eventId ∧ row.status = .delivered) ↔
      event.selectionKey ∉ pendingKeys (outboxAfter broker clock limit store tick) := by
  have kept := @events_outboxAfter_keeps failing broker clock limit store 0 tick
  rw [Nat.zero_add] at kept
  obtain ⟨row, rowMember, sameKey, -⟩ := exists_right_of_mem kept member
  have sameId : row.eventId = event.eventId := congrArg (fun key => (ofLex key).2) sameKey
  rw [mem_pendingKeys]
  constructor
  · rintro ⟨done, doneMember, ofEvent, delivered⟩ ⟨other, otherMember, waits, otherKey⟩
    obtain rfl : done = row := eq_of_key doneMember rowMember (ofEvent.trans sameId.symm)
    obtain rfl : other = done :=
      eq_of_selectionKey otherMember doneMember (otherKey.trans sameKey.symm)
    rw [delivered] at waits
    cases waits
  · intro absent
    refine ⟨row, rowMember, sameId, ?_⟩
    cases status : row.status with
    | pending => exact absurd ⟨row, rowMember, status, sameKey⟩ absent
    | delivered => rfl

/-- What is delivered is not pending, so a tick leaves it alone. -/
theorem not_published_again (tick later : ℕ) (after : tick ≤ later) :
    ∀ row ∈ (outboxAfter broker clock limit store tick).events.rows, row.status = .delivered →
      row.eventId ∉ publishedAt broker clock limit store later := by
  intro row member delivered published
  obtain ⟨rounds, rfl⟩ := Nat.exists_eq_add_of_le after
  have kept := @events_outboxAfter_keeps failing broker clock limit store tick rounds
  obtain ⟨new, newMember, sameKey, stays⟩ := exists_right_of_mem kept member
  obtain ⟨listed, selected, ofRow⟩ := mem_map.1 published
  rw [pendingEvents_eq_take] at selected
  obtain ⟨stored, waits, -⟩ := mem_sortedCandidates.1 (mem_of_mem_take selected)
  have sameId : new.eventId = row.eventId := congrArg (fun key => (ofLex key).2) sameKey
  obtain rfl : listed = new := eq_of_key stored newMember (ofRow.trans sameId.symm)
  exact absurd (waits.symm.trans (stays delivered)) (by decide)

/-- One event that the broker takes is delivered when few refused ones stand before it. -/
theorem delivered_iff [DecidablePred (· ∈ failing)] (available : AllAvailable clock store)
    (member : event ∈ store.events.rows) (waits : event.status = .pending)
    (taken : event.eventId ∉ failing) :
    (∃ tick, ∃ row ∈ (outboxAfter broker clock limit store tick).events.rows,
        row.eventId = event.eventId ∧ row.status = .delivered) ↔
      (refusedBefore failing store event).length < limit := by
  have drains := @drains_outboxAfter failing broker clock limit store available
  have start : event.selectionKey ∈ pendingKeys (outboxAfter broker clock limit store 0) :=
    mem_pendingKeys.2 ⟨event, member, waits, rfl⟩
  have blockers : ((pendingKeys store).filter fun key =>
        (ofLex key).2 ∈ failing ∧ key < event.selectionKey) =
      ((refusedBefore failing store event).map (·.selectionKey)).toFinset := by
    ext key
    rw [Finset.mem_filter, mem_pendingKeys, mem_toFinset, mem_map]
    constructor
    · rintro ⟨⟨other, listed, waited, rfl⟩, refused, below⟩
      exact ⟨other, mem_select.2 ⟨listed, by simp [waited, below]; exact refused⟩, rfl⟩
    · rintro ⟨other, listed, rfl⟩
      obtain ⟨stored, holds⟩ := mem_select.1 listed
      obtain ⟨waited, refused, below⟩ := of_decide_eq_true holds
      exact ⟨⟨other, stored, waited, rfl⟩, refused, below⟩
  have distinct : ((refusedBefore failing store event).map (·.selectionKey)).Nodup := by
    refine ((store.events.nodup.of_map _).filter _).map_on fun left leftListed right rightListed => ?_
    exact eq_of_selectionKey (mem_select.1 leftListed).1 (mem_select.1 rightListed).1
  have counted := (drains.leaves_iff start taken)
  simp only [delivered_iff_not_mem_pendingKeys member]
  rw [counted, outboxAfter, blockers, List.toFinset_card_of_nodup distinct, List.length_map]

/-- **Starvation in the outbox**: nothing starves exactly when fewer refused events than fit
into a batch stand before each event that the broker takes. -/
theorem nothingStarves_iff_fewRefusedBefore [DecidablePred (· ∈ failing)]
    (available : AllAvailable clock store) :
    NothingStarves broker clock limit store ↔ FewRefusedBefore failing limit store := by
  constructor
  · intro nothing event member waits taken
    exact (delivered_iff available member waits taken).1
      (nothing.delivered event member waits taken)
  · intro few
    constructor
    case delivered =>
      intro event member waits taken
      exact (delivered_iff available member waits taken).2 (few event member waits taken)
    case once => exact not_published_again

end Run

/-! ## A topic that no worker serves -/

/-- A broker that knows no worker for the topic of one event. -/
def unsupportedTopic : Broker {eventId | eventId = "report"} where
  answer _ eventId :=
    if eventId = "report" then .error "ValueError: unsupported outbox topic: report.requested"
    else .ok ()
  refuses_iff _ eventId := by
    rw [Set.mem_ofPred_eq]
    by_cases same : eventId = "report" <;> simp [same]

/-- The event of a report, and after it the request of a collection. -/
def reportAndCollection : MonitoringStore :=
  { MonitoringStore.empty with
    events := ⟨[{ eventId := "report", topic := "report.requested", aggregateId := "weekly"
                  payload := [], availableAt := 0 },
                collectionRequested "collection" "run" 1], by decide⟩ }

instance reportFails : DecidablePred (· ∈ ({eventId | eventId = "report"} : Set String)) :=
  fun eventId => inferInstanceAs (Decidable (eventId = "report"))

theorem reportAndCollection_available : AllAvailable (fun tick => 1 + tick) reportAndCollection := by
  intro tick event member _
  have early : ∀ event ∈ reportAndCollection.events.rows, event.availableAt ≤ 1 := by decide
  have later : (1 : ℤ) ≤ 1 + tick := by omega
  exact (early event member).trans later

/-- With batches of two the collection is delivered. -/
theorem nothingStarves_reportAndCollection :
    NothingStarves unsupportedTopic (fun tick => 1 + tick) 2 reportAndCollection :=
  (nothingStarves_iff_fewRefusedBefore reportAndCollection_available).2 (by decide +kernel)

/-- With batches of one it never is. -/
theorem event_starves_behind_unsupported_topic :
    AllAvailable (fun tick => 1 + tick) reportAndCollection ∧
      ¬ NothingStarves unsupportedTopic (fun tick => 1 + tick) 1 reportAndCollection := by
  refine ⟨reportAndCollection_available, fun nothing => ?_⟩
  have listed : collectionRequested "collection" "run" 1 ∈ reportAndCollection.events.rows :=
    mem_cons_of_mem _ mem_cons_self
  have taken : (collectionRequested "collection" "run" 1).eventId ∉
      ({eventId | eventId = "report"} : Set String) := by decide
  have few := (delivered_iff reportAndCollection_available listed rfl taken).1
    (nothing.delivered _ listed rfl taken)
  exact absurd few (by decide +kernel)

end SecFusion.Monitoring
