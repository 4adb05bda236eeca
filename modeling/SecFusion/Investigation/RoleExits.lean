import SecFusion.Investigation.Parking
import SecFusion.Investigation.RoleRuntime

/-!
# The exits of the role loop

Whether the required needs are resolved is tested when an iteration begins, and a need
is resolved inside one.  The two exits that are not in an iteration, the end of the
window and the no-progress limit, load the state again and finish the run as blocked;
neither asks whether it is complete by then.
-/

namespace SecFusion.Investigation

open Foundations Intelligence TaskRuntime

variable {frame : InvestigationFrame} {iteration : ℕ} {reason : String} {state next : RoleState}
  {outcome : InvestigationRoleOutcome}

namespace InvestigationRoleRuntime

variable {role : InvestigationRoleRuntime} {runId : String}

/-- The run completes because its evidence is sufficient. -/
def EndsSufficient (outcome : InvestigationRoleOutcome) : Prop :=
  outcome.runStatus = .completed ∧ outcome.result.stopReason = "evidence_sufficient"

/-- Are all needs resolved that the contract of the run requires? -/
def requiredResolved (stores : RoleStores) (runId : String) : Except Raised Bool := do
  let contract ← getTaskContractForRun stores.tasks runId
  let desired ← desiredStateOf contract
  return desired.requiredNeedIds.all fun needId =>
    (stores.cases.needs.get? needId).map (·.status) = some .resolved

/-- The exits that are not in an iteration. -/
def Left.bypasses : Left → Bool
  | .returned _ => false
  | .noProgress .. | .exhausted _ => true

/-! ## What `_finish` does -/

theorem taskResult_stopReason {cases : CaseStore} {result : InvestigationTaskResult}
    (ok : taskResult cases frame runId iteration reason = .ok result) :
    result.stopReason = reason := by
  unfold taskResult at ok
  obtain ⟨desired, -, ok⟩ := bind_eq_ok.1 ok
  obtain ⟨needs, -, ok⟩ := bind_eq_ok.1 ok
  cases ok
  rfl

/-- **`_finish`** ends the run with the status and the reason it is given. -/
theorem finish_ok {status : TaskRunStatus}
    (ok : role.finish runId frame status reason iteration state = .ok (outcome, next)) :
    outcome.runStatus = status ∧ outcome.result.stopReason = reason ∧
      (next.tasks.runs.get? runId).map (·.status) = some status := by
  unfold finish at ok
  obtain ⟨result, read, ok⟩ := bind_eq_ok.1 ok
  obtain ⟨⟨view, tasks⟩, moved, ok⟩ := bind_eq_ok.1 ok
  cases ok
  refine ⟨rfl, taskResult_stopReason read, ?_⟩
  obtain ⟨run, found, -, -, logs⟩ := transitionTaskRun_ok moved
  have row := run_of_rewrite (Grows.refl _) logs found
  rw [if_pos rfl] at row
  show (tasks.runs.get? runId).map (·.status) = some status
  rw [show tasks.runs.get? runId = _ from row]
  rfl

/-! ## The exits without the test -/

/-- The reasons of the two exits. -/
def bypassReasons : List String :=
  ["budget_exhausted", "no_progress", "evidence_contract_unmet", "state_patch_rejected",
    "delegated_enrichment_unavailable"]

theorem noProgressStopReason_mem (lastPercept : Option RolePercept) :
    noProgressStopReason lastPercept ∈ bypassReasons := by
  unfold noProgressStopReason bypassReasons
  dsimp only
  split
  · simp
  · split
    · simp
    · split <;> simp

theorem leaveLoop_blocked {last : ℤ} {left : Left} {ended final : RoleState}
    (bypasses : left.bypasses = true)
    (ok : role.leaveLoop runId last left ended = .ok (outcome, final)) :
    outcome.runStatus = .blocked ∧ outcome.result.stopReason ∈ bypassReasons ∧
      (final.tasks.runs.get? runId).map (·.status) = some .blocked := by
  cases left with
  | returned => cases bypasses
  | noProgress iteration memory =>
      obtain ⟨⟨frame, loaded⟩, -, ok⟩ := bind_eq_ok.1 ok
      obtain ⟨status, reason, row⟩ := finish_ok ok
      exact ⟨status, reason ▸ noProgressStopReason_mem memory.lastPercept, row⟩
  | exhausted memory =>
      obtain ⟨⟨frame, loaded⟩, -, ok⟩ := bind_eq_ok.1 ok
      obtain ⟨status, reason, row⟩ := finish_ok ok
      exact ⟨status, reason ▸ mem_cons_self, row⟩

/-- **The exits without the test.**  Whatever the planner, the budget and the history
of the run, and whatever others write, a run that leaves its loop at the end of its
window or at its no-progress limit ends blocked.  So it does not complete when its
required needs are resolved by then: it does what the contract asks for only where
some need is not. -/
theorem bypass_completes_iff (role : InvestigationRoleRuntime) (runId : String)
    {state ended final : RoleState} {last : ℤ} {left : Left} {outcome : InvestigationRoleOutcome}
    (leaves : role.runToExit runId state = .ok ((last, left), ended))
    (bypasses : left.bypasses = true)
    (ran : role.runLoop runId state = .ok (outcome, final)) :
    outcome.runStatus = .blocked ∧ outcome.result.stopReason ∈ bypassReasons ∧
      (final.tasks.runs.get? runId).map (·.status) = some .blocked ∧
      ((requiredResolved ended.toRoleStores runId = .ok true → EndsSufficient outcome) ↔
        requiredResolved ended.toRoleStores runId ≠ .ok true) := by
  unfold runLoop at ran
  rw [leaves, ok_bind] at ran
  obtain ⟨status, reason, row⟩ := leaveLoop_blocked bypasses ran
  refine ⟨status, reason, row, fun completes resolved => ?_, fun unresolved resolved => ?_⟩
  · have completed := (completes resolved).1
    rw [status] at completed
    cases completed
  · exact absurd resolved unresolved

/-! ## A need resolved in the last iteration -/

theorem maintained_cited : ProposedState.confirmed = .confirmed ∨ ProposedState.confirmed = .conflict →
    PatchDisposition.set = .set → ["evidence:link-1"] ≠ [] := by decide

/-- What the role finds out about the package in its one turn. -/
def maintainedPatch : StatePatch where
  patchId := "patch-2"
  caseId := "case-1"
  baseCaseRevision := 2
  producer := "analyst"
  operations := [{
    proposition := "it is still maintained", targetRef := some "object:widget"
    proposedState := .confirmed, evidenceRefs := ["evidence:link-1"]
    resolvesNeedId := some "need-1", evidence_required := maintained_cited }]

/-- A role with a budget of one turn, whose planner answers with the patch. -/
def oneTurnRole : InvestigationRoleRuntime where
  planner _ _ _ _ := .ok (.patch maintainedPatch)
  budgetLimits _ _ := some (Dict.empty.set "agent_turns" "1")
  modelRequestCount _ := 0
  now turn := 10 + turn
  caseEventIds turn caseId revision := caseId ++ ":" ++ toString revision ++ "@" ++ toString turn
  taskEventId turn := "turn:" ++ toString turn
  perceptionEventId turn := "perception:" ++ toString turn
  perceptDigest text := text
  stateDigest payload := intercalate "," payload.evidenceNeedIds
  resultDigest result := result.stopReason

/-- The stores of a started run, whose case has one open need. -/
def roleStarted : RoleState where
  cases := (watchStateAfter watchStarted).cases
  tasks := (watchStateAfter watchStarted).tasks
  knowledge := packageKnowledge
  turn := 0

theorem oneTurnRole_exit : ∃ last left ended outcome final,
    oneTurnRole.runToExit "run-1" roleStarted = .ok ((last, left), ended) ∧
      left.bypasses = true ∧ requiredResolved ended.toRoleStores "run-1" = .ok true ∧
      oneTurnRole.runLoop "run-1" roleStarted = .ok (outcome, final) ∧
      outcome.result.stopReason = "budget_exhausted" ∧
      outcome.result.resolvedNeedIds = ["need-1"] := by
  have leaves : (oneTurnRole.runToExit "run-1" roleStarted).toOption.map (fun exit =>
      (exit.1.2.bypasses, (requiredResolved exit.2.toRoleStores "run-1").toOption)) =
        some (true, some true) := by
    decide +kernel
  have ran : (oneTurnRole.runLoop "run-1" roleStarted).toOption.map (fun answer =>
      (answer.1.result.stopReason, answer.1.result.resolvedNeedIds)) =
        some ("budget_exhausted", ["need-1"]) := by
    decide +kernel
  obtain ⟨⟨⟨last, left⟩, ended⟩, exits, facts⟩ := map_eq_some_iff.1 leaves
  obtain ⟨⟨outcome, final⟩, ok, reasons⟩ := map_eq_some_iff.1 ran
  exact ⟨last, left, ended, outcome, final, toOption_eq_some.1 exits, congrArg Prod.fst facts,
    toOption_eq_some.1 (congrArg Prod.snd facts), toOption_eq_some.1 ok,
    congrArg Prod.fst reasons, congrArg Prod.snd reasons⟩

theorem bypass_completes_iff_oneTurn : ∃ last left ended outcome final,
    oneTurnRole.runToExit "run-1" roleStarted = .ok ((last, left), ended) ∧
      oneTurnRole.runLoop "run-1" roleStarted = .ok (outcome, final) ∧
      ((requiredResolved ended.toRoleStores "run-1" = .ok true → EndsSufficient outcome) ↔
        requiredResolved ended.toRoleStores "run-1" ≠ .ok true) := by
  obtain ⟨last, left, ended, outcome, final, leaves, bypasses, -, ran, -⟩ := oneTurnRole_exit
  exact ⟨last, left, ended, outcome, final, leaves, ran,
    (bypass_completes_iff oneTurnRole "run-1" leaves bypasses ran).2.2.2⟩

/-- **A finished run is blocked**: the patch of its last iteration has resolved the one
need that it requires, and its budget counts as exhausted before it is complete. -/
theorem resolved_run_blocked :
    ¬ ∀ (role : InvestigationRoleRuntime) (runId : String) (state ended final : RoleState) (last : ℤ)
      (left : Left) (outcome : InvestigationRoleOutcome),
      role.runToExit runId state = .ok ((last, left), ended) → left.bypasses = true →
      requiredResolved ended.toRoleStores runId = .ok true →
      role.runLoop runId state = .ok (outcome, final) → EndsSufficient outcome := by
  intro completes
  obtain ⟨last, left, ended, outcome, final, leaves, bypasses, resolved, ran, exhausted, -⟩ :=
    oneTurnRole_exit
  have sufficient := completes oneTurnRole "run-1" roleStarted ended final last left outcome leaves
    bypasses resolved ran
  rw [sufficient.2] at exhausted
  exact absurd exhausted (by decide)

end InvestigationRoleRuntime

end SecFusion.Investigation
