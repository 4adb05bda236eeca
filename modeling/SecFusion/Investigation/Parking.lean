import SecFusion.Investigation.Episodes
import SecFusion.Investigation.Relevance

/-!
# What a parked case has not missed

A case that is parked waits for the world, and a change that affects it wakes it.
A change that is processed while its episode is still running wakes nothing: the
case is active, and the impact says that it was not activated.  Such a change is
seen by the episode only if the frame is loaded after it.

`_park_watch_episode` does not look at the revision of the case again, so the frame
it parks may be older than a processed change, which is then lost
(`parking_loses_change`).  If no change that affects the case is processed between
the load of the frame and the park, no change is ever lost (`parking_loses_nothing`).
-/

namespace SecFusion.Investigation

open Foundations Intelligence TaskRuntime

/-! ## The revision of a frame -/

/-- Every projection is at the revision of its case. -/
def CurrentsAt (store : CaseStore) : Prop :=
  ∀ caseId state, store.currents.get? caseId = some state →
    ∃ row, store.cases.get? caseId = some row ∧ state.caseRevision = row.currentRevision

theorem CurrentsAt.empty : CurrentsAt CaseStore.empty := by
  intro caseId state found
  simp [CaseStore.empty] at found

variable {recording : Bool}

variable {caseId other runId : String} {store cases : CaseStore} {next state : WatchState} {now : ℤ}
  {held : HeldFrame} {call : WorldChangeCall} {impacts : List WorldChangeImpact} {tasks : TaskStore}
  {op : WatchOp}

/-- Writes of a case leave the rows of the others and all projections alone. -/
theorem Writes.apart {next : CaseStore} (writes : Writes recording caseId store next)
    (different : other ≠ caseId) :
    next.cases.get? other = store.cases.get? other ∧ next.currents = store.currents := by
  induction writes with
  | refl => exact ⟨rfl, rfl⟩
  | tail _ write ih =>
      obtain ⟨event, appended, -⟩ := write.appended
      refine ⟨?_, appended.currents.trans ih.2⟩
      rw [appended.cases, if_neg fun same => different same.symm, ih.1]

theorem CurrentsAt.change {next : CaseStore} (kept : CurrentsAt store)
    (change : Change recording store next) : CurrentsAt next := by
  cases change with
  | @created row cases new inserted =>
      intro caseId state found
      obtain ⟨old, oldFound, same⟩ := kept caseId state found
      exact ⟨old, get?_of_insert? inserted oldFound, same⟩
  | moved moved rewrite keeps same =>
      intro caseId state found
      obtain ⟨old, oldFound, revision⟩ := kept caseId state found
      rw [updateCase, get?_update, oldFound]
      split
      · exact ⟨rewrite old, rfl, by rw [(same old).revision, revision]⟩
      · exact ⟨old, rfl, revision⟩
  | @written written middle row writes found now =>
      intro caseId state stored
      have ofRow : row.caseId = written := key_of_get? found
      change (middle.currents.put (projectedState middle row now)).get? caseId = some state at stored
      rw [get?_put] at stored
      split at stored
      next same =>
        cases stored
        have equal : caseId = written := same.symm.trans ofRow
        subst equal
        exact ⟨row, found, rfl⟩
      next different =>
        have apart : caseId ≠ written := fun equal => different (ofRow.trans equal.symm)
        obtain ⟨sameRow, sameCurrents⟩ := Writes.apart writes apart
        rw [sameCurrents] at stored
        obtain ⟨old, oldFound, revision⟩ := kept caseId state stored
        exact ⟨old, sameRow.trans oldFound, revision⟩

theorem CurrentsAt.changes {next : CaseStore} (kept : CurrentsAt store)
    (changes : Changes recording store next) : CurrentsAt next := by
  induction changes with
  | refl => exact kept
  | tail _ change ih => exact ih.change change

/-- The state that `get_state` answers is at the revision of the case. -/
theorem CurrentsAt.getState {next : CaseStore} (kept : CurrentsAt store)
    {state : InvestigationState} (ok : getState store caseId now = .ok (state, next)) :
    ∃ row, store.cases.get? caseId = some row ∧ state.caseRevision = row.currentRevision := by
  obtain ⟨row, found, ⟨present, -⟩ | ⟨-, rfl, -⟩⟩ := getState_ok ok
  · exact kept caseId state present
  · exact ⟨row, found, rfl⟩

/-! ## Frames and changes -/

/-- **What holds of the frames in memory**, in every schedule. -/
structure FramesKept (state : WatchState) : Prop where
  logged : PerceptionsLogged state.cases
  current : CurrentsAt state.cases
  /-- A case does not fall behind a change that it has gone through. -/
  reached : ∀ change ∈ state.processed,
    ReachedRevision state.cases change.impact.caseId change.caseRevision
  counted : ∀ runId held, heldFrame? state.roles runId = some held → held.seen ≤ state.processed.length
  /-- What had been processed when a frame was loaded is part of its revision. -/
  included : ∀ runId held, heldFrame? state.roles runId = some held → ∀ index change, index < held.seen →
    state.processed[index]? = some change → change.impact.caseId = held.frame.state.caseId →
      change.caseRevision ≤ held.frame.state.caseRevision

theorem FramesKept.initial : FramesKept WatchState.initial where
  logged := PerceptionsLogged.empty
  current := CurrentsAt.empty
  reached := forall_mem_nil _
  counted _ _ found := by simp [WatchState.initial, heldFrame?] at found
  included _ _ found := by simp [WatchState.initial, heldFrame?] at found

/-- A step that loads no frame. -/
theorem FramesKept.of_changes (kept : FramesKept state)
    (changes : Changes recording state.cases next.cases) {added : List ProcessedChange}
    (processed : next.processed = state.processed ++ added)
    (reached : ∀ change ∈ added,
      ReachedRevision next.cases change.impact.caseId change.caseRevision)
    (frames : ∀ runId held, heldFrame? next.roles runId = some held → heldFrame? state.roles runId = some held)
    :
    FramesKept next where
  logged := kept.logged.changes changes
  current := kept.current.changes changes
  reached := by
    intro change member
    rw [processed] at member
    rcases mem_append.1 member with old | new
    · exact (kept.reached change old).changes changes
    · exact reached change new
  counted runId held found := by
    have before := kept.counted runId held (frames runId held found)
    rw [processed, List.length_append]
    omega
  included runId held found index change early at_index ofCase := by
    have before := kept.counted runId held (frames runId held found)
    rw [processed, getElem?_append_left (by omega)] at at_index
    exact kept.included runId held (frames runId held found) index change early at_index ofCase

theorem heldFrame?_update (roles : String → Option Role) (runId other : String)
    (role : Option Role) : heldFrame? (update roles runId role) other =
      if other = runId then role.bind (·.held) else heldFrame? roles other := by
  unfold heldFrame?
  rw [Function.update_apply]
  split <;> rfl

/-- A role that is started or ends holds no frame. -/
theorem heldFrame?_of_update {roles : String → Option Role} {role : Option Role}
    (idle : role.bind (·.held) = none)
    (found : heldFrame? (update roles runId role) other = some held) :
    heldFrame? roles other = some held := by
  rw [heldFrame?_update, idle] at found
  split at found
  next => cases found
  next => exact found

/-- A frame that is loaded now includes everything that has been processed. -/
theorem FramesKept.load {loaded : CaseStore} {frame : InvestigationFrame} (kept : FramesKept state)
    (read : getState state.cases caseId now = .ok (frame.state, loaded)) :
    FramesKept { state with
      cases := loaded
      roles := update state.roles runId
        (some { held := some ⟨frame, state.processed.length⟩ }) } := by
  have changes : Changes false state.cases loaded := .of_getState read
  obtain ⟨row, found, revision⟩ := kept.current.getState read
  constructor
  case logged => exact kept.logged.changes changes
  case current => exact kept.current.changes changes
  case reached => exact fun change member => (kept.reached change member).changes changes
  case counted =>
    intro other held heldFound
    rw [heldFrame?_update] at heldFound
    split at heldFound
    next =>
      cases heldFound
      exact le_rfl
    next => exact kept.counted other held heldFound
  case included =>
    intro other held heldFound index change early at_index ofCase
    rw [heldFrame?_update] at heldFound
    split at heldFound
    next =>
      cases heldFound
      have ofFrame := caseId_of_getState read
      obtain ⟨again, foundAgain, bound⟩ := kept.reached change (mem_of_getElem? at_index)
      rw [ofCase, ofFrame] at foundAgain
      obtain rfl := mem_unique found foundAgain
      rw [revision]
      exact_mod_cast bound
    next => exact kept.included other held heldFound index change early at_index ofCase

/-- The worker's transaction, on the case store. -/
theorem FramesKept.worldChange (kept : FramesKept state)
    (ok : handleKnowledgeChanged state.cases state.tasks call = .ok (impacts, cases, tasks)) :
    FramesKept { state with
      cases, tasks, processed := state.processed ++ impacts.map (processedChange cases) } := by
  obtain ⟨changed, processes, read, -⟩ :=
    @handleKnowledgeChanged_ok (fun _ => False) _ _ _ _ _ _ ok
  have changes : Changes false state.cases cases :=
    (Changes.of_processChange processes).trans read.changes
  refine kept.of_changes changes rfl (fun change member => ?_) fun _ _ found => found
  obtain ⟨impact, listed, rfl⟩ := mem_map.1 member
  obtain ⟨_, _, -, -, rows⟩ := processChange_rows processes
  obtain ⟨row, found, -⟩ := rows.awake impact listed
  rw [← read.rows] at found
  exact ⟨row, found, by simp [processedChange, found]⟩

/-- The frames hold what they hold after every step, whatever the step. -/
theorem FramesKept.step (kept : FramesKept state) (ok : watchSystem op state = .ok ((), next)) :
    FramesKept next := by
  have none : ∀ {cases : CaseStore}, ∀ change ∈ ([] : List ProcessedChange),
      ReachedRevision cases change.impact.caseId change.caseRevision := forall_mem_nil _
  have quiet : ∀ {after : WatchState}, Changes false state.cases after.cases →
      after.processed = state.processed →
      (∀ runId held, heldFrame? after.roles runId = some held →
        heldFrame? state.roles runId = some held) → FramesKept after := by
    intro after changes processed frames
    exact kept.of_changes changes (by rw [processed, append_nil]) none frames
  cases op with
  | cases op ordinary =>
      obtain ⟨⟨answer, cases⟩, called, ok⟩ := bind_eq_ok.1 ok
      cases ok
      exact kept.of_changes (changes_of_ok kept.logged called) (append_nil _).symm none
        fun _ _ found => found
  | tasks op =>
      obtain ⟨⟨answer, tasks⟩, called, ok⟩ := bind_eq_ok.1 ok
      cases ok
      exact quiet .refl rfl fun _ _ found => found
  | start runId streamName eventIds now =>
      obtain ⟨tasks, -, ok⟩ := bind_eq_ok.1 ok
      cases ok
      exact quiet .refl rfl fun _ _ found => heldFrame?_of_update rfl found
  | load runId iteration lastPercept recentPercepts now =>
      obtain rfl | ⟨_, frame, loaded, -, loads, rfl⟩ := load_ok ok
      · exact kept
      · obtain ⟨contract, desired, -, -, -, read⟩ := loadFrame_ok loads
        exact kept.load read
  | refresh runId knowledge streamName eventId now =>
      obtain ⟨tasks, -, rfl⟩ := @refresh_ok (fun _ => False) _ _ _ _ _ _ _ ok
      exact quiet .refl rfl fun _ _ found => found
  | wait call =>
      obtain ⟨-, rfl⟩ | ⟨held, cases, tasks, -, waits, rfl⟩ := wait_ok ok
      · exact kept
      · have changes : Changes false state.cases cases := by
          rcases waitEpisode_ok waits with ⟨-, -, activated, before, after, activates, waits⟩ |
            ⟨-, rfl, -⟩
          · exact (Changes.of_transition activates).trans (Changes.of_transition waits)
          · exact .refl
        unfold WatchState.waited
        dsimp only
        split <;>
          exact quiet changes rfl fun _ _ found => heldFrame?_of_update rfl found
  | worldChange call =>
      obtain ⟨⟨impacts, cases, tasks⟩, handled, ok⟩ := bind_eq_ok.1 ok
      cases ok
      exact kept.worldChange handled

/-! ## No change is lost -/

/-- **A parked case has lost nothing**: if the case waits because it was parked, every
processed change that affects it was part of the revision the parked frame was built
on, or was processed after the park and woke the case. -/
def NothingLost (state : WatchState) (caseId : String) : Prop :=
  ∀ row parked, state.cases.cases.get? caseId = some row → row.status = .waiting →
    state.parked caseId = some parked →
      ∀ index change, state.processed[index]? = some change → change.impact.caseId = caseId →
        (index < parked.seen ∧ change.caseRevision ≤ parked.caseRevision) ∨
          (parked.since ≤ index ∧ change.impact.caseActivated = true)

/-- The episode that is parked has loaded its frame after the last change that affects
its case. -/
def ParksUpToDate (state : WatchState) : WatchOp → Prop
  | .wait call => ∀ held ∈ heldFrame? state.roles call.runId, Parks held.frame call.reason →
      ∀ change ∈ state.processed.drop held.seen, change.impact.caseId ≠ held.frame.state.caseId
  | .cases .. | .tasks .. | .start .. | .load .. | .refresh .. | .worldChange .. => True

/-- A step that makes no case wait and reports no impact. -/
theorem NothingLost.of_roused (kept : NothingLost state caseId)
    (roused : ∀ row, next.cases.cases.get? caseId = some row → row.status = .waiting →
      state.cases.cases.get? caseId = some row) (parked : next.parked caseId = state.parked caseId)
    (processed : next.processed = state.processed) : NothingLost next caseId := by
  intro row park found waiting parks index change at_index ofCase
  rw [parked] at parks
  rw [processed] at at_index
  exact kept row park (roused row found waiting) waiting parks index change at_index ofCase

theorem parkedAfter_of_not_wait {op : CaseOp} (other : ∀ caseId now, op ≠ .move caseId .wait now) :
    parkedAfter state op = state.parked := by
  cases op with
  | move caseId move now =>
      cases move with
      | wait => exact absurd rfl (other caseId now)
      | activate | resolve | cancel | close => rfl
  | create | getState | rebuild | openNeed | reopenNeed | applyPatch | commitDecision
  | recordPerception | processChange => rfl

/-- A call of `wait` by somebody else. -/
theorem NothingLost.waited {waitId : String} {view : InvestigationCaseModel}
    (kept : NothingLost state caseId) (ok : waitCase state.cases waitId = .ok (view, cases)) :
    NothingLost { state with cases, parked := parkedAfter state (.move waitId .wait now) }
      caseId := by
  obtain ⟨-, ⟨row, found, -, idle⟩, others⟩ := waitCase_rows ok
  by_cases waiting : row.status = .waiting
  · -- the case was waiting, so nothing has happened
    obtain rfl := idle waiting
    refine kept.of_roused (fun _ found _ => found) ?_ rfl
    simp [parkedAfter, found, waiting]
  · have parked : parkedAfter state (.move waitId .wait now) =
        update state.parked waitId none := by
      simp [parkedAfter, found, waiting]
    by_cases same : caseId = waitId
    · subst same
      intro _ park _ _ parks
      have cleared : parkedAfter state (.move caseId .wait now) caseId = none := by
        rw [parked, update_self]
      cases cleared.symm.trans parks
    · refine kept.of_roused (fun other otherFound _ => ?_)
        ((congrFun parked caseId).trans (update_of_ne same _ _)) rfl
      rw [← others caseId same]
      exact otherFound

theorem cases_waited (state : WatchState) (held : HeldFrame) (call : WaitCall) (cases : CaseStore)
    (tasks : TaskStore) : (state.waited held call cases tasks).cases = cases ∧
      (state.waited held call cases tasks).processed = state.processed := by
  unfold WatchState.waited
  dsimp only
  split <;> exact ⟨rfl, rfl⟩

theorem parked_waited (state : WatchState) (held : HeldFrame) (call : WaitCall) (cases : CaseStore)
    (tasks : TaskStore) (caseId : String) :
    (state.waited held call cases tasks).parked caseId =
      if Parks held.frame call.reason ∧ caseId = held.frame.state.caseId then
        some ⟨held.frame.state.caseRevision, held.seen, state.processed.length⟩
      else state.parked caseId := by
  unfold WatchState.waited
  by_cases parks : Parks held.frame call.reason <;> simp [parks, Function.update_apply]

/-- A park whose frame is up to date. -/
theorem NothingLost.parked {call : WaitCall} (frames : FramesKept state)
    (kept : NothingLost state caseId) (holds : heldFrame? state.roles call.runId = some held)
    (upToDate : Parks held.frame call.reason → ∀ change ∈ state.processed.drop held.seen,
      change.impact.caseId ≠ held.frame.state.caseId)
    (ok : waitEpisode state.cases state.tasks held.frame call = .ok (cases, tasks)) :
    NothingLost (state.waited held call cases tasks) caseId := by
  obtain ⟨sameCases, sameProcessed⟩ := cases_waited state held call cases tasks
  by_cases parksHere : Parks held.frame call.reason ∧ caseId = held.frame.state.caseId
  · obtain ⟨parks, same⟩ := parksHere
    intro row park found waiting parked index change at_index ofCase
    rw [parked_waited, if_pos ⟨parks, same⟩] at parked
    cases parked
    rw [sameProcessed] at at_index
    rw [same] at ofCase
    have early : index < held.seen := by
      by_contra late
      have listed : (state.processed.drop held.seen)[index - held.seen]? = some change := by
        rw [List.getElem?_drop, Nat.add_sub_cancel' (not_lt.1 late)]
        exact at_index
      exact upToDate parks change (mem_of_getElem? listed) ofCase
    exact .inl ⟨early, frames.included call.runId held holds index change early at_index ofCase⟩
  · have parked := parked_waited state held call cases tasks caseId
    rw [if_neg parksHere] at parked
    refine kept.of_roused (fun row found waiting => ?_) parked sameProcessed
    rw [sameCases] at found
    rcases waitEpisode_ok ok with ⟨parks, -, activated, before, after, activates, waits⟩ |
      ⟨-, rfl, -⟩
    · have apart : caseId ≠ held.frame.state.caseId := fun same => parksHere ⟨parks, same⟩
      obtain ⟨-, -, others⟩ := waitCase_rows waits
      rw [← (Touches.of_activate activates).others caseId apart, ← others caseId apart]
      exact found
    · exact found

/-- A change that is processed wakes every waiting case that it affects. -/
theorem NothingLost.worldChange (kept : NothingLost state caseId)
    (ok : handleKnowledgeChanged state.cases state.tasks call = .ok (impacts, cases, tasks)) :
    NothingLost { state with
      cases, tasks, processed := state.processed ++ impacts.map (processedChange cases) }
      caseId := by
  obtain ⟨changed, processes, read, -⟩ :=
    @handleKnowledgeChanged_ok (fun _ => False) _ _ _ _ _ _ ok
  obtain ⟨_, _, -, -, rows⟩ := processChange_rows processes
  intro row park found waiting parks index change at_index ofCase
  rw [read.rows] at found
  rcases lt_or_ge index state.processed.length with early | late
  · rw [getElem?_append_left early] at at_index
    exact kept row park (rows.touches.roused caseId row found waiting) waiting parks index change
      at_index ofCase
  · -- an impact of this change is on another case, for its own case does not wait
    rw [List.getElem?_append_right late] at at_index
    obtain ⟨impact, listed, rfl⟩ := mem_map.1 (mem_of_getElem? at_index)
    obtain ⟨awake, awakeFound, notWaiting⟩ := rows.awake impact listed
    rw [show impact.caseId = caseId from ofCase] at awakeFound
    obtain rfl := mem_unique found awakeFound
    exact absurd waiting notWaiting

/-- Nothing is lost by a step that parks no frame behind the changes. -/
theorem NothingLost.step (frames : FramesKept state) (kept : NothingLost state caseId)
    (upToDate : ParksUpToDate state op) (ok : watchSystem op state = .ok ((), next)) :
    NothingLost next caseId := by
  cases op with
  | cases op ordinary =>
      obtain ⟨⟨answer, cases⟩, called, ok⟩ := bind_eq_ok.1 ok
      cases ok
      by_cases waits : ∃ waitId now, op = .move waitId .wait now
      · obtain ⟨waitId, now, rfl⟩ := waits
        obtain ⟨⟨view, last⟩, called, ok⟩ := bind_eq_ok.1 called
        cases ok
        exact kept.waited called
      · have other : ∀ waitId now, op ≠ .move waitId .wait now :=
          fun waitId now same => waits ⟨waitId, now, same⟩
        have touches := touches_of_ok ordinary other called
        refine kept.of_roused (touches.roused caseId) ?_ rfl
        exact congrFun (parkedAfter_of_not_wait other) caseId
  | tasks op =>
      obtain ⟨⟨answer, tasks⟩, -, ok⟩ := bind_eq_ok.1 ok
      cases ok
      exact kept.of_roused (fun _ found _ => found) rfl rfl
  | start runId streamName eventIds now =>
      obtain ⟨tasks, -, ok⟩ := bind_eq_ok.1 ok
      cases ok
      exact kept.of_roused (fun _ found _ => found) rfl rfl
  | load runId iteration lastPercept recentPercepts now =>
      obtain rfl | ⟨_, frame, loaded, -, loads, rfl⟩ := load_ok ok
      · exact kept
      · obtain ⟨contract, desired, -, -, -, read⟩ := loadFrame_ok loads
        refine kept.of_roused (fun row found _ => ?_) rfl rfl
        rw [← cases_of_getState read]
        exact found
  | refresh runId knowledge streamName eventId now =>
      obtain ⟨tasks, -, rfl⟩ := @refresh_ok (fun _ => False) _ _ _ _ _ _ _ ok
      exact kept.of_roused (fun _ found _ => found) rfl rfl
  | wait call =>
      obtain ⟨-, rfl⟩ | ⟨held, cases, tasks, holds, waits, rfl⟩ := wait_ok ok
      · exact kept
      · exact .parked frames kept holds (upToDate held holds) waits
  | worldChange call =>
      obtain ⟨⟨impacts, cases, tasks⟩, handled, ok⟩ := bind_eq_ok.1 ok
      cases ok
      exact kept.worldChange handled

theorem nothingLost_watchStateAfter (ops : List WatchOp)
    (guarded : Along watchSystem ParksUpToDate WatchState.initial ops) (caseId : String) :
    NothingLost (watchStateAfter ops) caseId := by
  have step : ∀ (state : WatchState) (op : WatchOp) (answer : Unit) (next : WatchState),
      FramesKept state ∧ NothingLost state caseId → ParksUpToDate state op →
        watchSystem op state = .ok (answer, next) → FramesKept next ∧ NothingLost next caseId := by
    rintro state op ⟨⟩ next ⟨frames, kept⟩ upToDate ok
    exact ⟨frames.step ok, kept.step frames upToDate ok⟩
  have initially : NothingLost WatchState.initial caseId := by
    intro row parked _ _ parks
    simp [WatchState.initial] at parks
  exact (run_invariant_along step ⟨FramesKept.initial, initially⟩ ops guarded).2

/-- A frame that is parked behind a change loses it. -/
theorem lost_of_stale_park {after : WatchState} {call : WaitCall}
    (ok : watchSystem (.wait call) state = .ok ((), after))
    (stale : ¬ ParksUpToDate state (.wait call)) : ∃ caseId, ¬ NothingLost after caseId := by
  unfold ParksUpToDate at stale
  push Not at stale
  obtain ⟨held, holds, parks, change, late, ofCase⟩ := stale
  obtain ⟨idle, -⟩ | ⟨again, cases, tasks, holdsAgain, waits, rfl⟩ := wait_ok ok
  · rw [idle] at holds
    cases holds
  obtain rfl := mem_unique holds holdsAgain
  obtain ⟨sameCases, sameProcessed⟩ := cases_waited state held call cases tasks
  refine ⟨held.frame.state.caseId, fun nothing => ?_⟩
  rcases waitEpisode_ok waits with ⟨-, -, activated, before, row, -, waiting⟩ | ⟨other, -, -⟩
  swap
  · exact other parks
  obtain ⟨⟨row, found, waiting⟩, -, -⟩ := waitCase_rows waiting
  obtain ⟨index, inDrop⟩ := List.mem_iff_getElem?.1 late
  rw [List.getElem?_drop] at inDrop
  have parked := parked_waited state held call cases tasks held.frame.state.caseId
  rw [if_pos ⟨parks, rfl⟩] at parked
  have known := nothing row _ (by rw [sameCases, found]) waiting parked (held.seen + index) change
    (by rw [sameProcessed, inDrop]) ofCase
  obtain ⟨early, -⟩ | ⟨since, -⟩ := known
  · exact absurd early (not_lt.2 (Nat.le_add_right _ _))
  · have bound := (List.getElem?_eq_some_iff.1 inDrop).1
    exact absurd bound (not_lt.2 since)

/-- **A parked case loses nothing** in any schedule whose parks are up to date; and a
park that is not loses a change. -/
theorem parking_loses_nothing (ops : List WatchOp) :
    (Along watchSystem ParksUpToDate WatchState.initial ops →
      ∀ caseId, NothingLost (watchStateAfter ops) caseId) ∧
    ∀ call after, watchSystem (.wait call) (watchStateAfter ops) = .ok ((), after) →
      ¬ ParksUpToDate (watchStateAfter ops) (.wait call) → ∃ caseId, ¬ NothingLost after caseId :=
  ⟨fun guarded caseId => nothingLost_watchStateAfter ops guarded caseId,
    fun _ _ answered stale => lost_of_stale_park answered stale⟩

/-! ## An episode that is overtaken -/

instance parksUpToDateDecidable (state : WatchState) :
    (op : WatchOp) → Decidable (ParksUpToDate state op)
  | .wait call => inferInstanceAs (Decidable (∀ held ∈ heldFrame? state.roles call.runId,
      Parks held.frame call.reason → ∀ change ∈ state.processed.drop held.seen,
        change.impact.caseId ≠ held.frame.state.caseId))
  | .cases .. | .tasks .. | .start .. | .load .. | .refresh .. | .worldChange .. =>
      inferInstanceAs (Decidable True)

def watchContract : TaskContract :=
  { enrichmentContract with
    taskContractId := "watch"
    taskKind := .watchIncident
    desiredState :=
      [("case_id", .string "case-1"), ("required_need_ids", .array [.string "need-1"])]
    completionPredicate := [("needs", .string "resolved")]
    desired_nonempty := by decide
    completion_nonempty := investigationContract.completion_nonempty }

def watchManifest : ContextManifest where
  contextId := "context:watch"
  contextRevision := 1
  revision_pos := Nat.one_pos
  taskContractRef := "watch@1"
  roleRef := "InvestigationRole@1"
  policyContextRef := "policy-1"
  capabilityEnvelopeRef := "capability:watch"
  budgetRef := "budget:watch"

def watchEventIds : EventIds := fun caseId revision => caseId ++ ":" ++ toString revision

/-- The case of the package, with a confirmed fact and a need, and a watch run of it
that has been started. -/
def watchStarted : List WatchOp :=
  [ .cases (.create "case-1" "signature" ["widget"] "goal" none 0) rfl,
    .cases (.applyPatch packageKnowledge packagePatch "reasoned" watchEventIds 1) rfl,
    .cases (.openNeed packageKnowledge
      { caseId := "case-1", baseCaseRevision := 1, needId := "need-1", purpose := "watch"
        propositionOrQuestion := "is it still maintained", targetObjects := ["widget"] }
      watchEventIds 2) rfl,
    .tasks (.create
      { contract := watchContract, manifest := watchManifest, role := canonicalInvestigationRole
        executionEnvelopeRef := "execution:watch", streamName := "task-events"
        caseId := some "case-1", runId := some "run-1" } "uuid-1" "created" 3),
    .start "run-1" "task-events" (fun number => "started:" ++ toString number) 4 ]

/-- The role loads a frame and refreshes the context of its run. -/
def frameLoaded : List WatchOp :=
  [ .load "run-1" 1 none [] 5, .refresh "run-1" packageKnowledge "task-events" "refreshed" 6 ]

def wakePermitted (request : AdmissionRequest) : Except Raised WatchWakeAdmission :=
  .ok { allowed := true, budgetRef := some ("budget:" ++ request.runId)
        executionEnvelopeRef := some ("execution:" ++ request.runId)
        capabilityEnvelopeRef := some ("capability:watch:" ++ request.runId) }

def packageChanges (revision : ℕ) (positive : 1 ≤ revision) (enabled : Bool) : WatchOp :=
  .worldChange
    { knowledge := packageKnowledge
      change := { revision, objectIds := ["widget"], revision_pos := positive }
      eventIds := watchEventIds, backgroundLlmEnabled := enabled, admitWake := wakePermitted
      streamName := "task-events"
      wakeEventIds := fun caseId number =>
        caseId ++ ":" ++ toString revision ++ ":" ++ toString number
      now := 7 }

def caseParks : WatchOp :=
  .wait
    { runId := "run-1", reason := "waiting_for_world_update", iteration := 1
      digest := fun _ => "digest", streamName := "task-events", eventId := "parked", now := 8 }

/-- The frame is loaded after the change: the case is parked knowing it. -/
theorem parking_loses_nothing_orderly :
    NothingLost (watchStateAfter (watchStarted ++ [packageChanges 2 (by decide) true] ++
      frameLoaded ++ [caseParks])) "case-1" :=
  (parking_loses_nothing _).1 (by decide +kernel) "case-1"

/-- **A change is lost**: it is processed after the frame was loaded and retracts the
fact on which the frame relies, and the case is parked all the same. -/
theorem parking_loses_change : ¬ ∀ ops caseId, NothingLost (watchStateAfter ops) caseId := by
  intro nothing
  have lost := nothing (watchStarted ++ frameLoaded ++ [packageChanges 2 (by decide) true] ++
    [caseParks]) "case-1"
  revert lost
  generalize reached : watchStateAfter (watchStarted ++ frameLoaded ++
    [packageChanges 2 (by decide) true] ++ [caseParks]) = state
  have waits : (state.cases.cases.get? "case-1").map (·.status) = some .waiting := by
    subst reached
    decide +kernel
  have parked : state.parked "case-1" = some ⟨2, 0, 1⟩ := by
    subst reached
    decide +kernel
  have processed : state.processed.map (fun change =>
      (change.impact.caseId, change.caseRevision, change.impact.caseActivated)) =
        [("case-1", 4, false)] := by
    subst reached
    decide +kernel
  obtain ⟨row, found, waiting⟩ := map_eq_some_iff.1 waits
  obtain ⟨change, only, facts⟩ := List.map_eq_singleton_iff.1 processed
  intro lost
  have known := lost row _ found waiting parked 0 change (by rw [only]; rfl)
    (congrArg Prod.fst facts)
  rcases known with ⟨early, -⟩ | ⟨late, -⟩
  · exact absurd early (by decide)
  · exact absurd late (by decide)

end SecFusion.Investigation
