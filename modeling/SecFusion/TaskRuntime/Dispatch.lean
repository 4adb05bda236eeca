import SecFusion.TaskRuntime.Replay

/-!
# Delivering task events

`dispatch_pending_task_events` reads the pending deliveries in the order of their
runs and numbers, adds an entry to the stream for each, and marks those that were
added.  An exception of one `xadd` is caught inside the loop, so the loop goes on
with the later events of the same run.

The stream is not part of the transaction: what a tick has added stays there when
its rows are not committed, and an `xadd` may raise after the entry was stored.
Both are choices of the environment here (`DispatchTick`).

An entry is the first delivery of its event when no entry before it is of that
event.  First deliveries are in order as long as the events on the stream are
closed under earlier events of their run (`Delivered.closed`); the ticks that
`KeepsOrder` allows are those that leave them so.
-/

namespace SecFusion.TaskRuntime

open Foundations

/-! ## The stream -/

/-- An entry of a stream; its fields are those of the event. -/
structure StreamEntry where
  streamName : String
  event : TaskEventModel

/-- What becomes of an `xadd`. -/
inductive XaddOutcome where
  | added
  /-- The entry is stored, and the call raises. -/
  | lost
  | refused
  deriving DecidableEq

/-- The task store with the streams of its events. -/
structure DispatchState where
  tasks : TaskStore
  stream : List StreamEntry

def DispatchState.initial : DispatchState := ⟨TaskStore.empty, []⟩

def DispatchState.OnStream (state : DispatchState) (eventId : String) : Prop :=
  ∃ entry ∈ state.stream, entry.event.eventId = eventId

instance onStreamDecidable (state : DispatchState) (eventId : String) :
    Decidable (state.OnStream eventId) :=
  inferInstanceAs (Decidable (∃ entry ∈ state.stream, entry.event.eventId = eventId))

/-! ## One tick -/

/-- The order in which deliveries are selected. -/
def SelectedBefore (first second : TaskEventModel) : Prop :=
  first.taskRunId < second.taskRunId ∨ (first.taskRunId = second.taskRunId ∧
    (first.seq < second.seq ∨ (first.seq = second.seq ∧ first.eventId ≤ second.eventId)))

instance selectedBeforeDecidable (first second : TaskEventModel) :
    Decidable (SelectedBefore first second) :=
  inferInstanceAs (Decidable (_ ∨ _))

/-- One row of the selection: a delivery joined with its event. -/
structure SelectedDelivery where
  delivery : TaskEventDeliveryModel
  event : TaskEventModel
  deriving DecidableEq

/-- The pending deliveries that are available, joined with their events. -/
def availableDeliveries (store : TaskStore) (instant : ℤ) : List SelectedDelivery :=
  (store.deliveries.select fun row => row.status = .pending ∧ row.availableAt ≤ instant).filterMap
    fun row => (store.events.get? row.eventId).map (⟨row, ·⟩)

def selectedDeliveries (store : TaskStore) (instant : ℤ) (limit : ℕ) : List SelectedDelivery :=
  ((availableDeliveries store instant).insertionSort fun first second =>
    SelectedBefore first.event second.event).take limit

/-- The row of a delivery whose entry was added. -/
def TaskEventDeliveryModel.withDelivery (row : TaskEventDeliveryModel) : TaskEventDeliveryModel :=
  { row with status := .delivered, attempts := row.attempts + 1 }

theorem TaskEventDeliveryModel.withDelivery_eventId (row : TaskEventDeliveryModel) :
    row.withDelivery.eventId = row.eventId := rfl

/-- The row of a delivery whose `xadd` has raised. -/
def TaskEventDeliveryModel.withFailure (row : TaskEventDeliveryModel) : TaskEventDeliveryModel :=
  { row with attempts := row.attempts + 1 }

theorem TaskEventDeliveryModel.withFailure_eventId (row : TaskEventDeliveryModel) :
    row.withFailure.eventId = row.eventId := rfl

/-- One round of the loop.  The join has found the event, so `session.get` does. -/
def deliverEvent (outcome : String → XaddOutcome) (state : DispatchState)
    (selected : SelectedDelivery) : DispatchState :=
  let eventId := selected.delivery.eventId
  let entry : StreamEntry := ⟨selected.delivery.streamName, selected.event⟩
  let failed : TaskStore :=
    { state.tasks with
      deliveries := state.tasks.deliveries.update eventId (·.withFailure) (·.withFailure_eventId) }
  match outcome eventId with
  | .added =>
      { tasks := { state.tasks with
          deliveries := state.tasks.deliveries.update eventId (·.withDelivery)
            (·.withDelivery_eventId) }
        stream := state.stream ++ [entry] }
  | .lost => { tasks := failed, stream := state.stream ++ [entry] }
  | .refused => { tasks := failed, stream := state.stream }

/-- What the environment decides about one call of `dispatch_pending_task_events`. -/
structure DispatchTick where
  instant : ℤ
  limit : ℕ
  outcome : String → XaddOutcome
  /-- The number of rounds after which the tick ends without a commit, if it does. -/
  lostAfter : Option ℕ := none

/-- The deliveries whose `xadd` a tick comes to. -/
def DispatchTick.attempted (tick : DispatchTick) (store : TaskStore) : List SelectedDelivery :=
  let selected := selectedDeliveries store tick.instant tick.limit
  match tick.lostAfter with
  | none => selected
  | some rounds => selected.take rounds

/-- `dispatch_pending_task_events`, with the end of its transaction. -/
def dispatchPendingTaskEvents (state : DispatchState) (tick : DispatchTick) : DispatchState :=
  let reached := (tick.attempted state.tasks).foldl (deliverEvent tick.outcome) state
  match tick.lostAfter with
  | none => reached
  | some _ => { state with stream := reached.stream }

/-! ## The system -/

/-- A call of the task runtime, or a tick of the dispatcher. -/
inductive DispatchOp where
  | call (op : TaskOp)
  | tick (tick : DispatchTick)

def dispatchSystem : DispatchOp → DispatchState → Except Raised (Unit × DispatchState)
  | .call op, state => do
      let (_, tasks) ← taskService op state.tasks
      return ((), { state with tasks })
  | .tick tick, state => .ok ((), dispatchPendingTaskEvents state tick)

def dispatchStateAfter (ops : List DispatchOp) : DispatchState :=
  run dispatchSystem DispatchState.initial ops

/-- The entries that deliver their event for the first time, in the order of the
stream. -/
def firstDeliveries (stream : List StreamEntry) : List StreamEntry :=
  stream.foldl (fun first entry =>
    if ∃ earlier ∈ first, earlier.event.eventId = entry.event.eventId then first
    else first ++ [entry]) []

/-- The first deliveries of the events of one run come in the order of their numbers. -/
def InOrder (stream : List StreamEntry) : Prop :=
  (firstDeliveries stream).Pairwise fun earlier later =>
    earlier.streamName = later.streamName → earlier.event.taskRunId = later.event.taskRunId →
      earlier.event.seq < later.event.seq

/-- Every event has been delivered, or its delivery is pending. -/
def DeliveredOrPending (state : DispatchState) : Prop :=
  ∀ event ∈ state.tasks.events.rows, state.OnStream event.eventId ∨
    ∃ row ∈ state.tasks.deliveries.rows, row.eventId = event.eventId ∧ row.status = .pending

/-- A tick that adds an event to its stream for the first time also adds the earlier
events of its run that are not there yet. -/
def KeepsOrder (state : DispatchState) : DispatchOp → Prop
  | .call _ => True
  | .tick tick =>
      ∀ selected ∈ tick.attempted state.tasks, tick.outcome selected.delivery.eventId ≠ .refused →
        ¬ state.OnStream selected.event.eventId →
        ∀ row ∈ state.tasks.deliveries.rows, row.streamName = selected.delivery.streamName →
          ∀ event ∈ state.tasks.events.get? row.eventId,
            event.taskRunId = selected.event.taskRunId → event.seq < selected.event.seq →
              state.OnStream event.eventId ∨
                (⟨row, event⟩ ∈ tick.attempted state.tasks ∧ tick.outcome row.eventId ≠ .refused)

instance keepsOrderDecidable (state : DispatchState) :
    (op : DispatchOp) → Decidable (KeepsOrder state op)
  | .call _ => inferInstanceAs (Decidable True)
  | .tick tick => inferInstanceAs (Decidable
      (∀ selected ∈ tick.attempted state.tasks, tick.outcome selected.delivery.eventId ≠ .refused →
        ¬ state.OnStream selected.event.eventId →
        ∀ row ∈ state.tasks.deliveries.rows, row.streamName = selected.delivery.streamName →
          ∀ event ∈ state.tasks.events.get? row.eventId,
            event.taskRunId = selected.event.taskRunId → event.seq < selected.event.seq → _ ∨ _))

/-! ## First deliveries -/

theorem firstDeliveries_append (stream : List StreamEntry) (entry : StreamEntry) :
    firstDeliveries (stream ++ [entry]) =
      if ∃ earlier ∈ firstDeliveries stream, earlier.event.eventId = entry.event.eventId
      then firstDeliveries stream else firstDeliveries stream ++ [entry] := by
  rw [firstDeliveries, foldl_append]
  rfl

variable {stream : List StreamEntry} {entry : StreamEntry} {store next : TaskStore}
  {selected : SelectedDelivery} {state : DispatchState}

theorem mem_of_firstDeliveries (member : entry ∈ firstDeliveries stream) : entry ∈ stream := by
  induction stream using List.reverseRecOn with
  | nil => exact member
  | append_singleton stream last ih =>
      rw [firstDeliveries_append] at member
      split at member
      next => exact mem_append_left _ (ih member)
      next =>
        rcases mem_append.1 member with old | new
        · exact mem_append_left _ (ih old)
        · exact mem_append_right _ new

/-- Every event on the stream has a first delivery. -/
theorem exists_firstDelivery (member : entry ∈ stream) :
    ∃ first ∈ firstDeliveries stream, first.event.eventId = entry.event.eventId := by
  induction stream using List.reverseRecOn with
  | nil => exact absurd member not_mem_nil
  | append_singleton stream last ih =>
      rw [firstDeliveries_append]
      rcases mem_append.1 member with old | new
      · obtain ⟨first, listed, same⟩ := ih old
        split
        next => exact ⟨first, listed, same⟩
        next => exact ⟨first, mem_append_left _ listed, same⟩
      · obtain rfl := mem_singleton.1 new
        split
        next seen => exact seen
        next => exact ⟨entry, mem_append_right _ mem_cons_self, rfl⟩

/-! ## Order -/

/-- The event is to be delivered on the stream. -/
def Addressed (store : TaskStore) (eventId streamName : String) : Prop :=
  ∃ row ∈ store.deliveries.rows, row.eventId = eventId ∧ row.streamName = streamName

theorem Addressed.unique {eventId first second : String} (left : Addressed store eventId first)
    (right : Addressed store eventId second) :
    first = second := by
  obtain ⟨row, member, ofEvent, rfl⟩ := left
  obtain ⟨other, otherMember, otherEvent, rfl⟩ := right
  rw [eq_of_key member otherMember (ofEvent.trans otherEvent.symm)]

/-- **The stream is in order**, and closed under earlier events of the same run. -/
structure Delivered (store : TaskStore) (stream : List StreamEntry) : Prop where
  stored : ∀ entry ∈ stream, entry.event ∈ store.events.rows ∧
    Addressed store entry.event.eventId entry.streamName
  closed : ∀ entry ∈ stream, ∀ event ∈ store.events.rows,
    Addressed store event.eventId entry.streamName → event.taskRunId = entry.event.taskRunId →
      event.seq < entry.event.seq → ∃ other ∈ stream, other.event.eventId = event.eventId
  inOrder : InOrder stream

/-- Two events of a run with one number are the same event. -/
theorem LogKept.eq_of_seq (kept : LogKept store) {first second : TaskEventModel}
    (left : first ∈ store.events.rows) (right : second ∈ store.events.rows)
    (sameRun : first.taskRunId = second.taskRunId) (sameSeq : first.seq = second.seq) :
    first = second := by
  have distinct : ((store.eventsOf second.taskRunId).map (·.seq)).Nodup := by
    rw [kept.seqs]
    exact List.nodup_range' 1 Nat.one_pos
  exact inj_on_of_nodup_map distinct (mem_eventsOf.2 ⟨left, sameRun⟩)
    (mem_eventsOf.2 ⟨right, rfl⟩) sameSeq

/-- The order is read off the events and the addresses. -/
theorem Delivered.of_same (delivered : Delivered store stream) (events : next.events = store.events)
    (addresses : ∀ eventId streamName,
      Addressed next eventId streamName ↔ Addressed store eventId streamName) :
    Delivered next stream where
  stored entry member := by
    rw [events, addresses]
    exact delivered.stored entry member
  closed entry member event listed addressed := by
    rw [events] at listed
    rw [addresses] at addressed
    exact delivered.closed entry member event listed addressed
  inOrder := delivered.inOrder

/-- **Adding an entry keeps the order**: an event that is not on the stream comes
after all that are, if those before it are there. -/
theorem Delivered.add (log : LogKept store) (delivered : Delivered store stream)
    (listed : entry.event ∈ store.events.rows)
    (addressed : Addressed store entry.event.eventId entry.streamName)
    (earlierThere : (¬ ∃ other ∈ stream, other.event.eventId = entry.event.eventId) →
      ∀ event ∈ store.events.rows, Addressed store event.eventId entry.streamName →
        event.taskRunId = entry.event.taskRunId → event.seq < entry.event.seq →
          ∃ other ∈ stream, other.event.eventId = event.eventId) :
    Delivered store (stream ++ [entry]) := by
  have entries : ∀ other ∈ stream ++ [entry], other ∈ stream ∨ other = entry := by
    intro other member
    rcases mem_append.1 member with old | new
    · exact .inl old
    · exact .inr (mem_singleton.1 new)
  have stays : ∀ {eventId : String}, (∃ other ∈ stream, other.event.eventId = eventId) →
      ∃ other ∈ stream ++ [entry], other.event.eventId = eventId := by
    rintro eventId ⟨other, member, same⟩
    exact ⟨other, mem_append_left _ member, same⟩
  constructor
  case stored =>
    intro other member
    rcases entries other member with old | rfl
    · exact delivered.stored other old
    · exact ⟨listed, addressed⟩
  case closed =>
    intro other member event eventListed eventAddressed sameRun below
    rcases entries other member with old | rfl
    · exact stays (delivered.closed other old event eventListed eventAddressed sameRun below)
    · by_cases seen : ∃ earlier ∈ stream, earlier.event.eventId = other.event.eventId
      · obtain ⟨earlier, old, same⟩ := seen
        obtain ⟨earlierListed, earlierAddressed⟩ := delivered.stored earlier old
        have sameEvent : earlier.event = other.event := eq_of_key earlierListed listed same
        rw [sameEvent] at earlierAddressed
        rw [← earlierAddressed.unique addressed] at eventAddressed
        rw [← sameEvent] at sameRun below
        exact stays (delivered.closed earlier old event eventListed eventAddressed sameRun below)
      · exact stays (earlierThere seen event eventListed eventAddressed sameRun below)
  case inOrder =>
    rw [InOrder, firstDeliveries_append]
    split
    next => exact delivered.inOrder
    next unseen =>
      rw [pairwise_append]
      refine ⟨delivered.inOrder, List.pairwise_singleton _ _, ?_⟩
      intro earlier member last isLast sameStream sameRun
      obtain rfl := mem_singleton.1 isLast
      have old := mem_of_firstDeliveries member
      rcases lt_trichotomy earlier.event.seq last.event.seq with below | equal | above
      · exact below
      · have same := log.eq_of_seq (delivered.stored earlier old).1 listed sameRun equal
        exact absurd ⟨earlier, member, congrArg (·.eventId) same⟩ unseen
      · obtain ⟨other, otherMember, same⟩ := delivered.closed earlier old last.event listed
          (sameStream ▸ addressed) sameRun.symm above
        obtain ⟨first, firstMember, sameFirst⟩ := exists_firstDelivery otherMember
        exact absurd ⟨first, firstMember, sameFirst.trans same⟩ unseen

/-! ## The rounds of a tick -/

/-- A round leaves the events, and every delivery its address. -/
structure SameEvents (store next : TaskStore) : Prop where
  runs : next.runs = store.runs
  events : next.events = store.events
  ids : next.deliveries.rows.map (·.eventId) = store.deliveries.rows.map (·.eventId)
  addresses : ∀ eventId streamName,
    Addressed next eventId streamName ↔ Addressed store eventId streamName

theorem SameEvents.refl (store : TaskStore) : SameEvents store store :=
  ⟨rfl, rfl, rfl, fun _ _ => Iff.rfl⟩

theorem SameEvents.trans {first second third : TaskStore} (left : SameEvents first second)
    (right : SameEvents second third) : SameEvents first third where
  runs := right.runs.trans left.runs
  events := right.events.trans left.events
  ids := right.ids.trans left.ids
  addresses eventId streamName :=
    (right.addresses eventId streamName).trans (left.addresses eventId streamName)

theorem SameEvents.log (same : SameEvents store next) (kept : LogKept store) : LogKept next where
  seqs runId := by
    rw [TaskStore.eventsOf, same.events]
    exact kept.seqs runId
  keys runId := by
    rw [TaskStore.eventsOf, same.events]
    exact kept.keys runId
  delivered := by rw [same.ids, same.events, kept.delivered]
  ofRun event member := by
    rw [same.events] at member
    rw [same.runs]
    exact kept.ofRun event member

/-- Rewriting one delivery leaves its address. -/
theorem sameEvents_update (store : TaskStore) (eventId : String)
    (rewrite : TaskEventDeliveryModel → TaskEventDeliveryModel)
    (keeps : ∀ row, (rewrite row).eventId = row.eventId)
    (sameStream : ∀ row, (rewrite row).streamName = row.streamName) :
    SameEvents store
      { store with deliveries := store.deliveries.update eventId rewrite keeps } := by
  let change : TaskEventDeliveryModel → TaskEventDeliveryModel := fun row =>
    if row.eventId = eventId then rewrite row else row
  have sameId : ∀ row, (change row).eventId = row.eventId := by
    intro row
    simp only [change]
    split
    · exact keeps row
    · rfl
  have sameName : ∀ row, (change row).streamName = row.streamName := by
    intro row
    simp only [change]
    split
    · exact sameStream row
    · rfl
  constructor
  case runs => rfl
  case events => rfl
  case ids =>
    show (store.deliveries.rows.map change).map (·.eventId) = _
    rw [map_map]
    exact map_congr_left fun row _ => sameId row
  case addresses =>
    intro other streamName
    constructor
    · rintro ⟨row, member, ofEvent, onStream⟩
      obtain ⟨old, listed, rfl⟩ := mem_map.1 member
      exact ⟨old, listed, (sameId old).symm.trans ofEvent, (sameName old).symm.trans onStream⟩
    · rintro ⟨row, member, ofEvent, onStream⟩
      exact ⟨change row, mem_map_of_mem member, (sameId row).trans ofEvent,
        (sameName row).trans onStream⟩

/-- What a round does, whatever becomes of its `xadd`. -/
theorem deliverEvent_same (outcome : String → XaddOutcome) (state : DispatchState)
    (selected : SelectedDelivery) :
    SameEvents state.tasks (deliverEvent outcome state selected).tasks := by
  unfold deliverEvent
  dsimp only
  cases outcome selected.delivery.eventId with
  | added => exact sameEvents_update _ _ _ _ fun _ => rfl
  | lost => exact sameEvents_update _ _ _ _ fun _ => rfl
  | refused => exact sameEvents_update _ _ _ _ fun _ => rfl

theorem deliverEvent_stream (outcome : String → XaddOutcome) (state : DispatchState)
    (selected : SelectedDelivery) :
    (deliverEvent outcome state selected).stream =
      if outcome selected.delivery.eventId = .refused then state.stream
      else state.stream ++ [⟨selected.delivery.streamName, selected.event⟩] := by
  unfold deliverEvent
  dsimp only
  cases outcome selected.delivery.eventId <;> rfl

/-- A selected delivery is of a stored event, and on its way to the stream named. -/
def SelectedDelivery.Stored (store : TaskStore) (selected : SelectedDelivery) : Prop :=
  selected.event ∈ store.events.rows ∧ selected.event.eventId = selected.delivery.eventId ∧
    Addressed store selected.event.eventId selected.delivery.streamName

/-- What the rest of a tick still has to add before a selected delivery: the earlier
events of its run, unless they are on the stream. -/
def FollowsEarlier (outcome : String → XaddOutcome) (rest : List SelectedDelivery)
    (state : DispatchState) (selected : SelectedDelivery) : Prop :=
  outcome selected.delivery.eventId ≠ .refused → ¬ state.OnStream selected.event.eventId →
    ∀ event ∈ state.tasks.events.rows,
      Addressed state.tasks event.eventId selected.delivery.streamName →
        event.taskRunId = selected.event.taskRunId → event.seq < selected.event.seq →
          state.OnStream event.eventId ∨
            ∃ other ∈ rest, other.event = event ∧ outcome other.delivery.eventId ≠ .refused

variable {outcome : String → XaddOutcome}

/-- **The rounds of a tick keep the order.** -/
theorem Delivered.rounds {rest : List SelectedDelivery}
    {state : DispatchState} (log : LogKept state.tasks)
    (delivered : Delivered state.tasks state.stream)
    (stored : ∀ selected ∈ rest, selected.Stored state.tasks)
    (sorted : rest.Pairwise fun first second => SelectedBefore first.event second.event)
    (follows : ∀ selected ∈ rest, FollowsEarlier outcome rest state selected) :
    Delivered (rest.foldl (deliverEvent outcome) state).tasks
        (rest.foldl (deliverEvent outcome) state).stream ∧
      SameEvents state.tasks (rest.foldl (deliverEvent outcome) state).tasks := by
  induction rest generalizing state with
  | nil => exact ⟨delivered, SameEvents.refl _⟩
  | cons selected rest ih =>
      have same := deliverEvent_same outcome state selected
      have stream := deliverEvent_stream outcome state selected
      obtain ⟨listed, ofDelivery, addressed⟩ := stored selected mem_cons_self
      obtain ⟨first, sorted⟩ := pairwise_cons.1 sorted
      have grows : ∀ {eventId : String}, state.OnStream eventId →
          (deliverEvent outcome state selected).OnStream eventId := by
        rintro eventId ⟨entry, member, ofEvent⟩
        refine ⟨entry, ?_, ofEvent⟩
        rw [stream]
        split
        · exact member
        · exact mem_append_left _ member
      have now : Delivered state.tasks (deliverEvent outcome state selected).stream := by
        rw [stream]
        split
        next => exact delivered
        next notRefused =>
          refine delivered.add log listed addressed fun unseen event eventListed eventAddressed
            sameRun below => ?_
          rcases follows selected mem_cons_self notRefused unseen event eventListed
            eventAddressed sameRun below with there | ⟨other, member, isEvent, -⟩
          · exact there
          · -- an earlier event of the run is selected earlier, so it is not among the rest
            exfalso
            rcases mem_cons.1 member with rfl | later
            · exact absurd below (isEvent ▸ lt_irrefl _)
            · have before := first other later
              rw [isEvent] at before
              rcases before with less | ⟨-, less | ⟨equal, -⟩⟩
              · exact absurd sameRun less.ne'
              · exact absurd below less.asymm
              · exact absurd equal below.ne'
      obtain ⟨reached, sameReached⟩ := ih (same.log log) (now.of_same same.events same.addresses)
        (fun other member => by
          obtain ⟨otherListed, otherDelivery, otherAddressed⟩ :=
            stored other (mem_cons_of_mem _ member)
          exact ⟨same.events ▸ otherListed, otherDelivery,
            (same.addresses _ _).2 otherAddressed⟩)
        sorted
        (fun other member notRefused unseen event eventListed eventAddressed sameRun below => by
          rw [same.events] at eventListed
          rw [same.addresses] at eventAddressed
          rcases follows other (mem_cons_of_mem _ member) notRefused
            (fun seen => unseen (grows seen)) event eventListed eventAddressed sameRun below with
            there | ⟨prior, priorMember, isEvent, added⟩
          · exact .inl (grows there)
          · rcases mem_cons.1 priorMember with rfl | later
            · refine .inl ⟨⟨prior.delivery.streamName, prior.event⟩, ?_, by rw [isEvent]⟩
              rw [stream, if_neg added]
              exact mem_append_right _ mem_cons_self
            · exact .inr ⟨prior, later, isEvent, added⟩)
      exact ⟨reached, same.trans sameReached⟩

/-! ## The selection -/

instance selectedBeforeTotal :
    Std.Total fun first second : SelectedDelivery => SelectedBefore first.event second.event where
  total first second := by
    rcases lt_trichotomy first.event.taskRunId second.event.taskRunId with less | run | more
    · exact .inl (.inl less)
    · rcases lt_trichotomy first.event.seq second.event.seq with less | seq | more
      · exact .inl (.inr ⟨run, .inl less⟩)
      · rcases le_total first.event.eventId second.event.eventId with below | above
        · exact .inl (.inr ⟨run, .inr ⟨seq, below⟩⟩)
        · exact .inr (.inr ⟨run.symm, .inr ⟨seq.symm, above⟩⟩)
      · exact .inr (.inr ⟨run.symm, .inl more⟩)
    · exact .inr (.inl more)

instance selectedBeforeTrans :
    IsTrans SelectedDelivery fun first second => SelectedBefore first.event second.event where
  trans first second third := by
    rintro (less | ⟨run, below⟩) (more | ⟨sameRun, above⟩)
    · exact .inl (less.trans more)
    · exact .inl (sameRun ▸ less)
    · exact .inl (by rw [run]; exact more)
    · refine .inr ⟨run.trans sameRun, ?_⟩
      rcases below with less | ⟨seq, id⟩
      · rcases above with more | ⟨sameSeq, -⟩
        · exact .inl (less.trans more)
        · exact .inl (sameSeq ▸ less)
      · rcases above with more | ⟨sameSeq, nextId⟩
        · exact .inl (by rw [seq]; exact more)
        · exact .inr ⟨seq.trans sameSeq, id.trans nextId⟩

theorem attempted_sublist (tick : DispatchTick) (store : TaskStore) :
    (tick.attempted store).Sublist ((availableDeliveries store tick.instant).insertionSort
      fun first second => SelectedBefore first.event second.event) := by
  unfold DispatchTick.attempted selectedDeliveries
  dsimp only
  split
  · exact List.take_sublist _ _
  · exact (List.take_sublist _ _).trans (List.take_sublist _ _)

theorem attempted_sorted (tick : DispatchTick) (store : TaskStore) :
    (tick.attempted store).Pairwise fun first second => SelectedBefore first.event second.event :=
  (pairwise_insertionSort _ _).sublist (attempted_sublist tick store)

/-- What is selected is a pending delivery of the store with its event. -/
theorem mem_attempted {tick : DispatchTick} (member : selected ∈ tick.attempted store) :
    selected.delivery ∈ store.deliveries.rows ∧
      store.events.get? selected.delivery.eventId = some selected.event := by
  have listed := (mem_insertionSort _).1 ((attempted_sublist tick store).subset member)
  obtain ⟨row, rowSelected, joined⟩ := mem_filterMap.1 listed
  obtain ⟨event, found, rfl⟩ := map_eq_some_iff.1 joined
  exact ⟨(mem_select.1 rowSelected).1, found⟩

theorem stored_of_attempted {tick : DispatchTick} (member : selected ∈ tick.attempted store) :
    selected.Stored store := by
  obtain ⟨listed, found⟩ := mem_attempted member
  obtain ⟨eventListed, ofDelivery⟩ := get?_eq_some.1 found
  exact ⟨eventListed, ofDelivery, selected.delivery, listed, ofDelivery.symm, rfl⟩

/-! ## Marks -/

/-- A delivery is marked only when its event is on the stream. -/
def Marked (state : DispatchState) : Prop :=
  ∀ row ∈ state.tasks.deliveries.rows, row.status = .pending ∨ state.OnStream row.eventId

theorem Marked.round (marked : Marked state)
    (ofDelivery : selected.event.eventId = selected.delivery.eventId) :
    Marked (deliverEvent outcome state selected) := by
  intro row member
  unfold deliverEvent at member ⊢
  dsimp only at member ⊢
  cases happens : outcome selected.delivery.eventId with
  | added =>
      rw [happens] at member
      obtain ⟨old, listed, rfl⟩ := mem_map.1 member
      split
      next same =>
        exact .inr ⟨_, mem_append_right _ mem_cons_self, ofDelivery.trans same.symm⟩
      next =>
        rcases marked old listed with pending | ⟨entry, there, ofEvent⟩
        · exact .inl pending
        · exact .inr ⟨entry, mem_append_left _ there, ofEvent⟩
  | lost =>
      rw [happens] at member
      obtain ⟨old, listed, rfl⟩ := mem_map.1 member
      have before := marked old listed
      split
      all_goals
        rcases before with pending | ⟨entry, there, ofEvent⟩
        · exact .inl pending
        · exact .inr ⟨entry, mem_append_left _ there, ofEvent⟩
  | refused =>
      rw [happens] at member
      obtain ⟨old, listed, rfl⟩ := mem_map.1 member
      have before := marked old listed
      split
      · exact before
      · exact before

theorem Marked.rounds {rest : List SelectedDelivery}
    {state : DispatchState} (marked : Marked state)
    (ofDelivery : ∀ selected ∈ rest, selected.event.eventId = selected.delivery.eventId) :
    Marked (rest.foldl (deliverEvent outcome) state) ∧
      ∀ entry ∈ state.stream, entry ∈ (rest.foldl (deliverEvent outcome) state).stream := by
  induction rest generalizing state with
  | nil => exact ⟨marked, fun _ member => member⟩
  | cons selected rest ih =>
      obtain ⟨reached, grows⟩ := ih (marked.round
        (ofDelivery selected mem_cons_self))
        (fun other member => ofDelivery other (mem_cons_of_mem _ member))
      refine ⟨reached, fun entry member => grows entry ?_⟩
      rw [deliverEvent_stream]
      split
      · exact member
      · exact mem_append_left _ member

/-! ## The calls -/

/-- What a call adds to the log: nothing, or one event with its pending delivery,
whose number is above those of its run. -/
theorem Effect.logs (log : LogKept store) (effect : Effect store next) :
    (next.events = store.events ∧ next.deliveries = store.deliveries) ∨
      ∃ event delivery, next.events.rows = store.events.rows ++ [event] ∧
        next.deliveries.rows = store.deliveries.rows ++ [delivery] ∧
        delivery.eventId = event.eventId ∧ delivery.status = .pending ∧
        (∀ other ∈ store.events.rows, other.eventId ≠ event.eventId) ∧
        ∀ other ∈ store.events.rows, other.taskRunId = event.taskRunId → other.seq < event.seq := by
  have added : ∀ {moved : TaskStore} {request : EventRequest} {eventId : String} {now : ℤ},
      Logs moved request eventId now next → moved.events = store.events →
        moved.deliveries = store.deliveries →
          (next.events = store.events ∧ next.deliveries = store.deliveries) ∨
            ∃ event delivery, next.events.rows = store.events.rows ++ [event] ∧
              next.deliveries.rows = store.deliveries.rows ++ [delivery] ∧
              delivery.eventId = event.eventId ∧ delivery.status = .pending ∧
              (∀ other ∈ store.events.rows, other.eventId ≠ event.eventId) ∧
              ∀ other ∈ store.events.rows, other.taskRunId = event.taskRunId →
                other.seq < event.seq := by
    intro moved request eventId now logs events deliveries
    rcases logs.events with ⟨-, rfl⟩ | ⟨event, adds, rows, deliveryRows⟩
    · exact .inl ⟨events, deliveries⟩
    · obtain ⟨owner, -, rfl⟩ := adds.run
      rw [events] at rows
      rw [deliveries] at deliveryRows
      refine .inr ⟨_, _, rows, deliveryRows, rfl, rfl, ?_, ?_⟩
      · intro other member
        exact adds.freshId other (events ▸ member)
      · intro other member sameRun
        have lastSeq : moved.lastSeq request.taskRunId = store.lastSeq request.taskRunId := by
          unfold TaskStore.lastSeq TaskStore.eventsOf
          rw [events]
        have numbered : other.seq ∈ (store.eventsOf request.taskRunId).map (·.seq) :=
          mem_map_of_mem (mem_eventsOf.2 ⟨member, sameRun⟩)
        rw [log.seqs, mem_range'_1] at numbered
        show other.seq < moved.lastSeq request.taskRunId + 1
        rw [lastSeq, log.lastSeq]
        omega
  cases effect with
  | idle => exact .inl ⟨rfl, rfl⟩
  | logged logs => exact added logs rfl rfl
  | created grows _ _ _ _ _ logs => exact added logs grows.events grows.deliveries
  | rewritten grows _ _ _ _ logs => exact added logs grows.events grows.deliveries

/-- New events come after those on the stream. -/
theorem Delivered.call {store next : TaskStore} {stream : List StreamEntry}
    (log : LogKept store) (delivered : Delivered store stream) (effect : Effect store next) :
    Delivered next stream := by
  rcases effect.logs log with ⟨events, deliveries⟩ | ⟨event, delivery, events, deliveries, ofEvent,
    -, fresh, above⟩
  · refine delivered.of_same events fun eventId streamName => ?_
    rw [Addressed, deliveries]
    rfl
  · have old : ∀ {eventId streamName : String}, Addressed next eventId streamName →
        eventId ≠ event.eventId → Addressed store eventId streamName := by
      rintro eventId streamName ⟨row, member, isRow, onStream⟩ different
      rw [deliveries, mem_append, mem_singleton] at member
      rcases member with listed | rfl
      · exact ⟨row, listed, isRow, onStream⟩
      · exact absurd (isRow.symm.trans ofEvent) different
    constructor
    case stored =>
      intro entry member
      obtain ⟨listed, row, rowListed, isRow, onStream⟩ := delivered.stored entry member
      refine ⟨?_, row, ?_, isRow, onStream⟩
      · rw [events]
        exact mem_append_left _ listed
      · rw [deliveries]
        exact mem_append_left _ rowListed
    case closed =>
      intro entry member other listed addressed sameRun below
      have entryListed := (delivered.stored entry member).1
      rw [events, mem_append, mem_singleton] at listed
      rcases listed with otherListed | rfl
      · exact delivered.closed entry member other otherListed
          (old addressed (fresh other otherListed)) sameRun below
      · exact absurd below (above entry.event entryListed sameRun.symm).asymm
    case inOrder => exact delivered.inOrder

theorem Marked.call {state : DispatchState} {next : TaskStore} (log : LogKept state.tasks)
    (marked : Marked state) (effect : Effect state.tasks next) :
    Marked { state with tasks := next } := by
  rcases effect.logs log with ⟨-, deliveries⟩ | ⟨event, delivery, -, deliveries, -, pending, -⟩
  · intro row member
    rw [deliveries] at member
    exact marked row member
  · intro row member
    rw [deliveries, mem_append, mem_singleton] at member
    rcases member with old | rfl
    · exact marked row old
    · exact .inl pending

/-! ## Whole runs -/

theorem Marked.tick (marked : Marked state) (tick : DispatchTick) :
    Marked (dispatchPendingTaskEvents state tick) := by
  obtain ⟨reached, grows⟩ := @Marked.rounds tick.outcome (tick.attempted state.tasks) state marked
    (fun selected member => (stored_of_attempted member).2.1)
  unfold dispatchPendingTaskEvents
  dsimp only
  split
  · exact reached
  · intro row member
    rcases marked row member with pending | ⟨entry, there, ofEvent⟩
    · exact .inl pending
    · exact .inr ⟨entry, grows entry there, ofEvent⟩

theorem sameEvents_tick (state : DispatchState) (tick : DispatchTick) :
    SameEvents state.tasks (dispatchPendingTaskEvents state tick).tasks := by
  have rounds : ∀ (rest : List SelectedDelivery) (state : DispatchState),
      SameEvents state.tasks (rest.foldl (deliverEvent tick.outcome) state).tasks := by
    intro rest
    induction rest with
    | nil => exact fun state => SameEvents.refl _
    | cons selected rest ih =>
        exact fun state => (deliverEvent_same tick.outcome state selected).trans (ih _)
  unfold dispatchPendingTaskEvents
  dsimp only
  split
  · exact rounds _ state
  · exact SameEvents.refl _

theorem Delivered.tick (log : LogKept state.tasks) (delivered : Delivered state.tasks state.stream)
    {tick : DispatchTick} (keeps : KeepsOrder state (.tick tick)) :
    Delivered (dispatchPendingTaskEvents state tick).tasks
      (dispatchPendingTaskEvents state tick).stream := by
  obtain ⟨reached, same⟩ := @Delivered.rounds tick.outcome _ state log delivered
    (fun selected member => stored_of_attempted member) (attempted_sorted tick state.tasks)
    (fun selected member notRefused unseen event listed ⟨row, rowListed, ofEvent, onStream⟩ sameRun
        below => by
      have found : state.tasks.events.get? row.eventId = some event := by
        rw [ofEvent]
        exact get?_of_mem listed
      exact (keeps selected member notRefused unseen row rowListed onStream event found sameRun
        below).imp_right fun ⟨attempted, added⟩ => ⟨⟨row, event⟩, attempted, rfl, added⟩)
  unfold dispatchPendingTaskEvents
  dsimp only
  split
  · exact reached
  · exact reached.of_same same.events.symm fun eventId streamName =>
      (same.addresses eventId streamName).symm

/-- Whatever becomes of the ticks, no event is lost. -/
theorem deliveredOrPending_dispatchStateAfter (ops : List DispatchOp) :
    DeliveredOrPending (dispatchStateAfter ops) := by
  have step : ∀ (state : DispatchState) (op : DispatchOp) (answer : Unit) (next : DispatchState),
      LogKept state.tasks ∧ Marked state → dispatchSystem op state = .ok (answer, next) →
        LogKept next.tasks ∧ Marked next := by
    rintro state op answer next ⟨log, marked⟩ ok
    cases op with
    | call op =>
        obtain ⟨⟨_, tasks⟩, called, ok⟩ := bind_eq_ok.1 ok
        cases ok
        have effect := effect_of_ok called
        exact ⟨log.effect effect, marked.call log effect⟩
    | tick tick =>
        cases ok
        exact ⟨(sameEvents_tick state tick).log log, marked.tick tick⟩
  have initially : Marked DispatchState.initial := forall_mem_nil _
  obtain ⟨log, marked⟩ := run_invariant step ⟨LogKept.empty, initially⟩ ops
  intro event listed
  have addressed : event.eventId ∈
      (dispatchStateAfter ops).tasks.deliveries.rows.map (·.eventId) := by
    rw [dispatchStateAfter, log.delivered]
    exact mem_map_of_mem listed
  obtain ⟨row, rowListed, same⟩ := mem_map.1 addressed
  rcases marked row rowListed with pending | there
  · exact .inr ⟨row, rowListed, same, pending⟩
  · exact .inl (same ▸ there)

/-- **Delivery of task events.**  In every run whose ticks keep the order, every event
has been delivered or is pending, and the first deliveries of the events of each run
come in the order of their numbers. -/
theorem deliveries_inOrder_of_keepsOrder (ops : List DispatchOp)
    (keeps : Along dispatchSystem KeepsOrder DispatchState.initial ops) :
    DeliveredOrPending (dispatchStateAfter ops) ∧ InOrder (dispatchStateAfter ops).stream := by
  refine ⟨deliveredOrPending_dispatchStateAfter ops, ?_⟩
  have step : ∀ (state : DispatchState) (op : DispatchOp) (answer : Unit) (next : DispatchState),
      LogKept state.tasks ∧ Delivered state.tasks state.stream → KeepsOrder state op →
        dispatchSystem op state = .ok (answer, next) →
          LogKept next.tasks ∧ Delivered next.tasks next.stream := by
    rintro state op answer next ⟨log, delivered⟩ here answered
    cases op with
    | call op =>
        obtain ⟨⟨_, tasks⟩, called, answered⟩ := bind_eq_ok.1 answered
        cases answered
        have effect := effect_of_ok called
        exact ⟨log.effect effect, delivered.call log effect⟩
    | tick tick =>
        cases answered
        exact ⟨(sameEvents_tick state tick).log log, delivered.tick log here⟩
  have initially : Delivered DispatchState.initial.tasks DispatchState.initial.stream :=
    ⟨forall_mem_nil _, forall_mem_nil _, List.Pairwise.nil⟩
  exact (run_invariant_along step ⟨LogKept.empty, initially⟩ ops keeps).2.inOrder

/-! ## An event that overtakes another -/

/-- The run `parent` is created and queued: events 1 and 2. -/
def parentQueued : List DispatchOp := (delegatedRun.take 2).map .call

/-- A tick in which the `xadd` of some events is refused. -/
def refusing (eventIds : List String) (lostAfter : Option ℕ) : DispatchOp :=
  .tick { instant := 10, limit := 100, lostAfter
          outcome := fun eventId => if eventId ∈ eventIds then .refused else .added }

/-- The later event is refused, then a tick is lost, then both are delivered. -/
theorem deliveries_inOrder_refused :
    DeliveredOrPending (dispatchStateAfter
        (parentQueued ++ [refusing ["event-2"] none, refusing [] (some 1), refusing [] none])) ∧
      InOrder (dispatchStateAfter
        (parentQueued ++ [refusing ["event-2"] none, refusing [] (some 1), refusing [] none])).stream :=
  deliveries_inOrder_of_keepsOrder _ (by decide +kernel)

/-- **An event overtakes an earlier one**: the first event of a run is refused, the
second is added in the same tick, and the first follows in the next. -/
theorem later_event_delivered_first : ¬ ∀ ops, InOrder (dispatchStateAfter ops).stream := by
  intro inOrder
  have broken := inOrder (parentQueued ++ [refusing ["event-1"] none, refusing [] none])
  revert broken
  unfold InOrder
  decide +kernel

end SecFusion.TaskRuntime
