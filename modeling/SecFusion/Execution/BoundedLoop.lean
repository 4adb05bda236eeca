import SecFusion.Raised

/-!
# The loop guard

The model of `BoundedLoop` in `packages/runtime/execution/loop.py`, which is asked before each
iteration of an operation and told of each one that is completed.  Either may end the loop, by
different bounds, and so may its owner.
-/

namespace SecFusion.Execution

open Foundations

inductive LoopStopReason where
  | goalSatisfied
  | evidenceSufficient
  | budgetExhausted
  | deadlineReached
  | providerBlocked
  | capabilityDenied
  | policyDenied
  | externalFailure
  | noProgress
  | waitingForWorldUpdate
  | humanReviewRequired
  deriving DecidableEq

structure BoundedLoopConfig where
  maxIterations : ℕ
  deadlineAt : ℤ
  noProgressLimit : ℕ
  iterations_pos : 1 ≤ maxIterations := by decide
  limit_pos : 1 ≤ noProgressLimit := by decide

structure LoopGate where
  allowed : Bool
  iteration : ℕ
  stopReason : Option LoopStopReason := none

/-- What a `BoundedLoop` keeps beside its configuration. -/
structure BoundedLoop where
  completedIterations : ℕ := 0
  lastProgressSignature : Option String := none
  noProgressCount : ℕ := 0
  terminalReason : Option LoopStopReason := none
  deriving DecidableEq

variable (config : BoundedLoopConfig)

/-- The terminal reason that `before_iteration` finds or sets. -/
def BoundedLoop.reasonBefore (loop : BoundedLoop) (now : ℤ) (budgetAvailable : Bool) :
    Option LoopStopReason :=
  if loop.terminalReason ≠ none then loop.terminalReason
  else if config.deadlineAt ≤ now then some .deadlineReached
  else if budgetAvailable = false then some .budgetExhausted
  else if config.maxIterations ≤ loop.completedIterations then some .budgetExhausted
  else if config.noProgressLimit ≤ loop.noProgressCount then some .noProgress
  else none

/-- `before_iteration`; an instant without a time zone is none. -/
def BoundedLoop.beforeIteration (loop : BoundedLoop) (now : Option ℤ) (budgetAvailable : Bool) :
    Except Raised (LoopGate × BoundedLoop) := do
  let now ← fetch now (.valueError "BoundedLoop now must be timezone-aware")
  match loop.reasonBefore config now budgetAvailable with
  | some reason =>
      return ({ allowed := false, iteration := loop.completedIterations, stopReason := reason },
        { loop with terminalReason := reason })
  | none => return ({ allowed := true, iteration := loop.completedIterations + 1 }, loop)

/-- The counters after an iteration with the signature. -/
def BoundedLoop.counted (loop : BoundedLoop) (signature : Option String) : BoundedLoop :=
  if signature = none ∨ signature = loop.lastProgressSignature then
    { loop with
      completedIterations := loop.completedIterations + 1
      noProgressCount := loop.noProgressCount + 1 }
  else
    { loop with
      completedIterations := loop.completedIterations + 1
      lastProgressSignature := signature
      noProgressCount := 0 }

/-- `complete_iteration` -/
def BoundedLoop.completeIteration (loop : BoundedLoop) (signature : Option String) :
    Except Raised (LoopGate × BoundedLoop) := do
  require (loop.terminalReason = none)
    (.runtimeError "cannot complete iteration after loop termination")
  let counted := loop.counted signature
  let next := if config.noProgressLimit ≤ counted.noProgressCount then
    { counted with terminalReason := some .noProgress } else counted
  return ({ allowed := next.terminalReason.isNone, iteration := next.completedIterations,
            stopReason := next.terminalReason }, next)

/-- `stop` -/
def BoundedLoop.stop (loop : BoundedLoop) (reason : LoopStopReason) : LoopGate × BoundedLoop :=
  ({ allowed := false, iteration := loop.completedIterations, stopReason := reason },
    { loop with terminalReason := reason })

/-! ## Sequences of calls -/

inductive LoopCall where
  | beforeIteration (now : Option ℤ) (budgetAvailable : Bool)
  | completeIteration (signature : Option String)
  | stop (reason : LoopStopReason)

/-- A loop with the signatures of its completed iterations, the last one first. -/
structure LoopHistory where
  loop : BoundedLoop := {}
  /-- An iteration was allowed since the last one was completed. -/
  permitted : Bool := false
  signatures : List (Option String) := []

def callLoop : LoopCall → LoopHistory → Except Raised (LoopGate × LoopHistory)
  | .beforeIteration now budgetAvailable, history => do
      let (gate, loop) ← history.loop.beforeIteration config now budgetAvailable
      return (gate, { history with loop, permitted := history.permitted || gate.allowed })
  | .completeIteration signature, history => do
      let (gate, loop) ← history.loop.completeIteration config signature
      return (gate, { loop, signatures := signature :: history.signatures })
  | .stop reason, history =>
      let (gate, loop) := history.loop.stop reason
      .ok (gate, { history with loop })

/-- A completed iteration follows an allowed gate. -/
def FollowsGate (history : LoopHistory) : LoopCall → Prop
  | .completeIteration _ => history.permitted = true
  | .beforeIteration .. | .stop _ => True

instance (history : LoopHistory) : (call : LoopCall) → Decidable (FollowsGate history call)
  | .completeIteration _ => inferInstanceAs (Decidable (_ = _))
  | .beforeIteration .. | .stop _ => isTrue trivial

/-- Of each iteration, whether it brought no new signature. -/
def stale : List (Option String) → List Bool
  | [] => []
  | signature :: earlier =>
      decide (signature = none ∨ signature = earlier.findSome? id) :: stale earlier

structure LoopKept (history : LoopHistory) : Prop where
  counted : history.loop.completedIterations = history.signatures.length
  bounded : history.loop.completedIterations ≤ config.maxIterations
  room : history.permitted = true → history.loop.completedIterations < config.maxIterations
  last : history.loop.lastProgressSignature = history.signatures.findSome? id
  unchanged : history.loop.noProgressCount = ((stale history.signatures).takeWhile id).length
  goesOn : history.loop.terminalReason = none →
    history.loop.noProgressCount < config.noProgressLimit
  runs : ∀ before run after, stale history.signatures = before ++ run ++ after →
    (∀ same ∈ run, same = true) → run.length ≤ config.noProgressLimit

variable {config} {history next : LoopHistory} {call : LoopCall} {gate : LoopGate}

/-- A run of stale iterations that another one may extend is the last one. -/
theorem length_le_of_runs {first : Bool} {rest before run after : List Bool} {limit : ℕ}
    (runs : ∀ before run after, rest = before ++ run ++ after → (∀ same ∈ run, same = true) →
      run.length ≤ limit)
    (last : ((first :: rest).takeWhile id).length ≤ limit)
    (split : first :: rest = before ++ run ++ after) (unchanged : ∀ same ∈ run, same = true) :
    run.length ≤ limit := by
  cases before with
  | nil =>
      rw [split, nil_append, List.takeWhile_append_of_pos (p := id) unchanged,
        List.length_append] at last
      omega
  | cons _ before => exact runs before run after (List.cons.inj split).2 unchanged

/-- What a completed iteration does to each counter, whether or not it ends the loop. -/
theorem BoundedLoop.completeIteration_eq_ok {loop next : BoundedLoop} {signature : Option String}
    (ok : loop.completeIteration config signature = .ok (gate, next)) :
    loop.terminalReason = none ∧
      next.completedIterations = loop.completedIterations + 1 ∧
      next.lastProgressSignature = (loop.counted signature).lastProgressSignature ∧
      next.noProgressCount = (loop.counted signature).noProgressCount ∧
      (next.terminalReason = none → next.noProgressCount < config.noProgressLimit) := by
  obtain ⟨going, ok⟩ := require_bind_eq_ok.1 ok
  cases ok
  have completed : (loop.counted signature).completedIterations = loop.completedIterations + 1 := by
    unfold counted
    split_ifs <;> rfl
  split_ifs with ended
  · exact ⟨going, completed, rfl, rfl, nofun⟩
  · exact ⟨going, completed, rfl, rfl, fun _ => not_le.1 ended⟩

theorem LoopKept.completeIteration {signature : Option String} (kept : LoopKept config history)
    (permitted : history.permitted = true)
    (ok : callLoop config (.completeIteration signature) history = .ok (gate, next)) :
    LoopKept config next := by
  obtain ⟨⟨_, loop⟩, completed, ok⟩ := bind_eq_ok.1 ok
  cases ok
  obtain ⟨going, completions, last, count, goesOn⟩ := BoundedLoop.completeIteration_eq_ok completed
  have below := kept.goesOn going
  have counts : loop.lastProgressSignature = (signature :: history.signatures).findSome? id ∧
      loop.noProgressCount = ((stale (signature :: history.signatures)).takeWhile id).length ∧
      loop.noProgressCount ≤ config.noProgressLimit := by
    rw [last, count]
    unfold BoundedLoop.counted stale
    rw [← kept.last]
    split_ifs with same
    · simp only [same, decide_true, List.takeWhile_cons, id, if_true, List.length_cons]
      refine ⟨?_, by rw [kept.unchanged], below⟩
      rw [kept.last] at same ⊢
      cases signature with
      | none => rfl
      | some _ => simpa [eq_comm] using same
    · cases signature <;> simp_all
  exact { counted := by rw [completions, kept.counted]; rfl
          bounded := by rw [completions]; exact kept.room permitted
          room := nofun
          last := counts.1
          unchanged := counts.2.1
          goesOn := goesOn
          runs := fun _ _ _ => length_le_of_runs kept.runs (counts.2.1 ▸ counts.2.2) }

/-- What one call preserves. -/
theorem LoopKept.callLoop (kept : LoopKept config history) (follows : FollowsGate history call)
    (ok : callLoop config call history = .ok (gate, next)) : LoopKept config next := by
  cases call with
  | completeIteration signature => exact kept.completeIteration follows ok
  | stop reason =>
      cases ok
      exact { kept with goesOn := nofun }
  | beforeIteration now budgetAvailable =>
      obtain ⟨⟨_, loop⟩, asked, ok⟩ := bind_eq_ok.1 ok
      cases ok
      obtain ⟨now, -, asked⟩ := fetch_bind_eq_ok.1 asked
      cases reason : history.loop.reasonBefore config now budgetAvailable with
      | some reason =>
          rw [reason] at asked
          cases asked
          exact { kept with goesOn := nofun, room := by simpa using kept.room }
      | none =>
          rw [reason] at asked
          cases asked
          simp only [BoundedLoop.reasonBefore] at reason
          split_ifs at reason with ended _ _ full
          · contradiction
          · exact { kept with room := fun _ => not_le.1 full }

/-- The loop has a terminal reason, and so many completed iterations. -/
def Ended (completed : ℕ) (history : LoopHistory) : Prop :=
  history.loop.terminalReason ≠ none ∧ history.loop.completedIterations = completed

theorem Ended.callLoop {completed : ℕ} (ended : Ended completed history)
    (ok : callLoop config call history = .ok (gate, next)) :
    gate.allowed = false ∧ Ended completed next := by
  cases call with
  | completeIteration signature =>
      obtain ⟨_, completed, -⟩ := bind_eq_ok.1 ok
      exact absurd (require_bind_eq_ok.1 completed).1 ended.1
  | stop reason =>
      cases ok
      exact ⟨rfl, nofun, ended.2⟩
  | beforeIteration now budgetAvailable =>
      obtain ⟨⟨_, loop⟩, asked, ok⟩ := bind_eq_ok.1 ok
      cases ok
      obtain ⟨now, -, asked⟩ := fetch_bind_eq_ok.1 asked
      obtain ⟨reason, known⟩ := Option.ne_none_iff_exists'.1 ended.1
      have found : history.loop.reasonBefore config now budgetAvailable = some reason := by
        simp [BoundedLoop.reasonBefore, known]
      rw [found] at asked
      cases asked
      exact ⟨rfl, nofun, ended.2⟩

/-- The bounds of a loop whose iterations are each allowed before they are completed. -/
theorem callLoop_bounds {calls : List LoopCall}
    (follows : Along (callLoop config) FollowsGate {} calls) :
    let history := run (callLoop config) {} calls
    history.loop.completedIterations = history.signatures.length ∧
      history.loop.completedIterations ≤ config.maxIterations ∧
      (∀ before run after, stale history.signatures = before ++ run ++ after →
        (∀ same ∈ run, same = true) → run.length ≤ config.noProgressLimit) ∧
      (history.loop.terminalReason ≠ none → ∀ later,
        (run (callLoop config) history later).loop.completedIterations =
            history.loop.completedIterations ∧
          ∀ call gate next, callLoop config call (run (callLoop config) history later) =
            .ok (gate, next) → gate.allowed = false) := by
  intro history
  have kept : LoopKept config history :=
    run_invariant_along (fun _ _ _ _ kept follows ok => kept.callLoop follows ok)
      { counted := rfl, bounded := Nat.zero_le _, room := nofun, last := rfl, unchanged := rfl
        goesOn := fun _ => config.limit_pos
        runs := by simp +contextual [stale] } calls follows
  refine ⟨kept.counted, kept.bounded, kept.runs, fun terminal later => ?_⟩
  have ended : Ended history.loop.completedIterations (run (callLoop config) history later) :=
    run_invariant (fun _ _ _ _ ended ok => (ended.callLoop ok).2) ⟨terminal, rfl⟩ later
  exact ⟨ended.2, fun _ _ _ ok => (ended.callLoop ok).1⟩

/-- Two iterations without a signature end the loop. -/
theorem callLoop_bounds_two :
    let config : BoundedLoopConfig := { maxIterations := 5, deadlineAt := 9, noProgressLimit := 2 }
    let calls := [.beforeIteration (some 0) true, .completeIteration none,
      .beforeIteration (some 1) true, .completeIteration none, .beforeIteration (some 2) true]
    (run (callLoop config) {} calls).loop.completedIterations ≤ 5 :=
  (callLoop_bounds (by decide)).2.1

end SecFusion.Execution
