import SecFusion.Investigation.NeedResolution
import SecFusion.Investigation.Watch

/-!
# The loop of the role

The model of `InvestigationRoleRuntime` in `packages/investigation/runtime/role.py`,
from the window of iterations to the transition that ends the run.

Every transaction of the loop is one step on the two stores.  What the planner, the
perception runtime and the delegation answer, and what other parties write between two
transactions, are arguments, numbered by the turn at which they are asked, so that a
statement about all of them is one about every planner and every interleaving.
-/

namespace SecFusion.Investigation

open Foundations Intelligence TaskRuntime

/-! ## Percepts and signatures -/

/-- `Percept`, with what the loop reads of it beside the audit. -/
structure RolePercept extends Percept where
  (targetRefs candidateIds independentSourceKeys unresolved : List String := [])

/-- What `_percept_signal` hashes. -/
def perceptText (percept : RolePercept) : String :=
  intercalate "|" (percept.evidenceHandles.insertionSort (· ≤ ·) ++
    percept.independentSourceKeys.insertionSort (· ≤ ·) ++
    percept.candidateIds.insertionSort (· ≤ ·) ++ percept.unresolved.insertionSort (· ≤ ·))

/-- An item without its writer, its reason and its revision. -/
structure ProgressItem where
  proposition : String
  targetRef : Option String
  evidenceRefs : List String
  reasoningRelation : Option ReasoningRelation

def InvestigationStateItem.progress (item : InvestigationStateItem) : ProgressItem where
  proposition := item.proposition
  targetRef := item.targetRef
  evidenceRefs := item.evidenceRefs
  reasoningRelation := item.reasoningRelation

/-- What `_state_progress_signature` hashes; the dumps of a bucket are sorted, so that
their order does not count. -/
structure ProgressPayload where
  buckets : Bucket → Multiset ProgressItem
  evidenceNeedIds : List String
  currentDecision : Option JsonObject

def progressPayload (state : InvestigationState) : ProgressPayload where
  buckets bucket := (state.itemsIn bucket).map (·.progress)
  evidenceNeedIds := state.evidenceNeedIds.insertionSort (· ≤ ·)
  currentDecision := state.currentDecision

/-- `_no_progress_stop_reason`. -/
def noProgressStopReason (lastPercept : Option RolePercept) : String :=
  let unresolved := (lastPercept.map (·.unresolved)).getD []
  if unresolved.any ("resolution_deferred:").isPrefixOf then "evidence_contract_unmet"
  else if unresolved.any ("state_patch_rejected:").isPrefixOf then "state_patch_rejected"
  else if unresolved.any ("delegated_enrichment_").isPrefixOf then
    "delegated_enrichment_unavailable"
  else "no_progress"

/-- `_patch_rejection_percept`. -/
def patchRejectionPercept (patchId error : String) : RolePercept where
  perceptId := "percept:state-patch-rejected:" ++ patchId
  requestId := "state-patch:" ++ patchId
  unresolved := ["state_patch_rejected:" ++ error]

/-! ## Actions and ports -/

/-- `EnrichmentDelegationRequest`, as far as the role reads it. -/
structure EnrichmentDelegationRequest where
  (delegationId targetObjectId : String)

/-- `DelegationResult`, likewise. -/
structure DelegationResult where
  childRunId : String
  childStatus : Option TaskRunStatus := none
  childStopReason : Option String := none

/-- `InvestigationAction`. -/
inductive InvestigationAction where
  | perceive (request : PerceptionRequest)
  | delegate (request : EnrichmentDelegationRequest)
  | patch (patch : StatePatch)
  | wait (reason : String)
  | stop (reason : String)

/-- What the transactions of the loop read and write. -/
structure RoleStores where
  cases : CaseStore
  tasks : TaskStore
  knowledge : KnowledgeStore

/-- The stores, and the number of turns that have been taken. -/
structure RoleState extends RoleStores where
  turn : ℕ

structure InvestigationRoleOutcome where
  runStatus : TaskRunStatus
  result : InvestigationTaskResult

/-- `InvestigationRoleRuntime`: its settings, its ports, and what its calls draw. -/
structure InvestigationRoleRuntime where
  maxIterations : ℕ := 64
  noProgressLimit : ℕ := 2
  streamName : String := "secfusion:task-events"
  planner : ℕ → InvestigationFrame → Option RolePercept → List RolePercept →
    Except Raised InvestigationAction
  /-- `PerceptionPlanner.plan`. -/
  plan : PerceptionRequest → PhysicalPerceptionPlan := fun request => ⟨request.requestId, []⟩
  /-- `PerceptionRuntime.execute`. -/
  execute : ℕ → PerceptionRequest → PhysicalPerceptionPlan → Except Raised RolePercept :=
    fun _ request _ => .ok { perceptId := request.requestId, requestId := request.requestId }
  delegation : Option (ℕ → EnrichmentDelegationRequest → Except Raised DelegationResult) := none
  /-- `blocking_reason` of the `InvestigationExecutionBoundary`. -/
  boundary : Option (ℕ → Except Raised (Option String)) := none
  /-- The limits of a budget account, as texts. -/
  budgetLimits : ℕ → String → Option (Dict String String)
  /-- How many plans have been requested of the model for the run. -/
  modelRequestCount : ℕ → ℕ
  /-- What other parties have written since the last transaction. -/
  others : ℕ → RoleStores → RoleStores := fun _ stores => stores
  now : ℕ → ℤ
  caseEventIds : ℕ → EventIds
  (taskEventId perceptionEventId : ℕ → String)
  perceptDigest : String → String
  stateDigest : ProgressPayload → String
  resultDigest : InvestigationTaskResult → String
  bounds_positive : 1 ≤ maxIterations ∧ 1 ≤ noProgressLimit := by decide

/-- What the loop keeps in memory. -/
structure LoopMemory where
  lastPercept : Option RolePercept := none
  recentPercepts : List RolePercept := []
  seenPerceptSignals : List String := []
  noProgress : ℕ := 0

/-- What the loop keeps of a patch that has been rejected. -/
def LoopMemory.rejected (memory : LoopMemory) (patch : StatePatch) (error : String) : LoopMemory :=
  { memory with
    lastPercept := some (patchRejectionPercept patch.patchId error)
    noProgress := memory.noProgress + 1 }

/-- What it keeps when the state has made progress, and when it has not. -/
def LoopMemory.progressed (memory : LoopMemory) (moved : Bool) : LoopMemory :=
  if moved then { memory with noProgress := 0, seenPerceptSignals := [] }
  else { memory with noProgress := memory.noProgress + 1 }

namespace InvestigationRoleRuntime

variable (role : InvestigationRoleRuntime) (runId : String)

/-- The next turn, before which others may have written. -/
def pause (state : RoleState) : RoleState where
  toRoleStores := role.others state.turn state.toRoleStores
  turn := state.turn + 1

def roleEvent (run : TaskRunModel) (eventType : TaskEventType) (payloadRef idempotencyKey : String) :
    EventRequest where
  taskRunId := runId
  eventType := eventType
  producer := "InvestigationRole"
  baseContextRevision := run.baseContextRevision
  payloadRef := payloadRef
  idempotencyKey := idempotencyKey
  streamName := role.streamName

/-- The end of a transaction of the role: an event is appended to its run. -/
def appendRoleEvent (eventType : TaskEventType) (payloadRef idempotencyKey : String)
    (state : RoleState) : Except Raised RoleState := do
  let run ← getRun state.tasks runId
  let (_, tasks) ← appendTaskEvent state.tasks
    (role.roleEvent runId run eventType payloadRef idempotencyKey) (role.taskEventId state.turn)
    (role.now state.turn)
  return { state with tasks }

/-! ## Frames and ends -/

/-- `_load_frame`. -/
def loadRoleFrame (iteration : ℕ) (memory : LoopMemory) (state : RoleState) :
    Except Raised (InvestigationFrame × RoleState) := do
  let state := role.pause state
  let (frame, cases) ← loadFrame state.cases state.tasks runId iteration
    (memory.lastPercept.map (·.toPercept)) (memory.recentPercepts.map (·.toPercept))
    (role.now state.turn)
  return (frame, { state with cases })

/-- `_refresh_context_for_frame`. -/
def refreshRoleContext (frame : InvestigationFrame) (state : RoleState) :
    Except Raised RoleState := do
  let state := role.pause state
  let tasks ← refreshContextForFrame state.tasks state.knowledge runId frame role.streamName
    (role.taskEventId state.turn) (role.now state.turn)
  return { state with tasks }

/-- The transition of `_finish`. -/
def finishTransition (status : TaskRunStatus) (reason : String) (result : InvestigationTaskResult) :
    TransitionTaskRun where
  runId := runId
  target := status
  payloadRef := resultRef role.resultDigest result
  idempotencyKey := "investigation-terminal:" ++ runId ++ ":" ++ status.value ++ ":" ++ reason
  streamName := role.streamName
  producer := "InvestigationRole"
  resultRef := some (resultRef role.resultDigest result)
  stopReason := some reason

/-- `_finish`. -/
def finish (frame : InvestigationFrame) (status : TaskRunStatus) (reason : String) (iteration : ℕ)
    (state : RoleState) : Except Raised (InvestigationRoleOutcome × RoleState) := do
  let read := role.pause state
  let result ← taskResult read.cases frame runId iteration reason
  let state := role.pause read
  let (_, tasks) ← transitionTaskRun state.tasks (role.finishTransition runId status reason result)
    (role.taskEventId state.turn) (role.now state.turn)
  return (⟨status, result⟩, { state with tasks })

/-- `_wait`. -/
def waitFor (frame : InvestigationFrame) (reason : String) (iteration : ℕ) (state : RoleState) :
    Except Raised (InvestigationRoleOutcome × RoleState) := do
  let state := role.pause state
  let result ← taskResult state.cases frame runId iteration reason
  let (cases, tasks) ← waitEpisode state.cases state.tasks frame
    { runId, reason, iteration, digest := role.resultDigest, streamName := role.streamName
      eventId := role.taskEventId state.turn, now := role.now state.turn }
  return (⟨if Parks frame reason then .completed else .waitingDependency, result⟩,
    { state with cases, tasks })

/-- `_completion`. -/
def completion (frame : InvestigationFrame) (state : RoleState) :
    Except Raised (Option InvestigationRoleOutcome × RoleState) := do
  let desired ← desiredStateOf frame.taskContract
  let read := role.pause state
  let needs ← desired.requiredNeedIds.mapM (getEvidenceNeed read.cases)
  if needs.all fun need => need.status = .resolved then do
    let (outcome, next) ← role.finish runId frame .completed "evidence_sufficient" frame.iteration
      read
    return (some outcome, next)
  else if needs.any fun need => need.status = .open then return (none, read)
  else do
    let (outcome, next) ← role.finish runId frame .blocked "required_evidence_need_unavailable"
      frame.iteration read
    return (some outcome, next)

/-- `_execution_boundary`. -/
def executionBoundary (frame : InvestigationFrame) (iteration : ℕ) (state : RoleState) :
    Except Raised (Option InvestigationRoleOutcome × RoleState) :=
  match role.boundary with
  | none => .ok (none, state)
  | some blockingReason => do
      let state := role.pause state
      match ← blockingReason state.turn with
      | none => return (none, state)
      | some reason => do
          let (outcome, next) ← role.finish runId frame .blocked reason iteration state
          return (some outcome, next)

/-! ## Perceptions and delegations -/

/-- `request.model_copy(update={"case_id": …, "need_id": …})`. -/
def boundRequest (frame : InvestigationFrame) (request : PerceptionRequest) : PerceptionRequest :=
  let needId := frame.selectedNeed.map (·.needId)
  { request with
    caseId := some frame.state.caseId
    needId
    dump := request.dump.map fun (name, value) =>
      if name = "case_id" then (name, .string frame.state.caseId)
      else if name = "need_id" then (name, needId.elim .null .string)
      else (name, value) }

/-- `_execute_perception`. -/
def executePerception (frame : InvestigationFrame) (request : PerceptionRequest)
    (state : RoleState) : Except Raised (RolePercept × RoleState) := do
  require (∀ caseId ∈ request.caseId, caseId = frame.state.caseId)
    (.valueError "PerceptionRequest case_id escapes Investigation Case")
  require (∀ need ∈ frame.selectedNeed, ∀ needId ∈ request.needId, needId = need.needId)
    (.valueError "PerceptionRequest need_id escapes selected EvidenceNeed")
  let request := boundRequest frame request
  let plan := role.plan request
  let started := role.pause state
  let percept ← role.execute started.turn request plan
  let state := role.pause started
  let (_, cases) ← recordPerception state.cases state.knowledge
    { taskRunId := runId, run := state.tasks.runs.get? runId, request, plan
      percept := percept.toPercept, startedAt := role.now started.turn
      finishedAt := role.now state.turn }
    (role.perceptionEventId state.turn) (role.caseEventIds state.turn) (role.now state.turn)
  let next ← role.appendRoleEvent runId .evidenceFound ("percept:" ++ percept.perceptId)
    ("percept:" ++ runId ++ ":" ++ request.requestId) { state with cases }
  return (percept, next)

/-- The request by which the evidence of a completed child is read. -/
def postDelegationRequest (childRunId targetObjectId : String) : PerceptionRequest where
  requestId := "post-delegation:" ++ childRunId
  dump := [
    ("request_id", .string ("post-delegation:" ++ childRunId)), ("case_id", .null),
    ("need_id", .null), ("operation", .string "inspect"),
    ("target", .object [
      ("identifier", .null), ("object_id", .string targetObjectId), ("document_offset", .int 0),
      ("query_text", .null), ("query_vector", .null), ("projection_types", .array []),
      ("relation_types", .array []),
      ("evidence_targets", .array [.object [
        ("target_kind", .string "object"), ("target_id", .string targetObjectId)]]),
      ("source_ids", .array []), ("verification_intent", .null)]),
    ("desired_observation",
      .string "Read current canonical evidence after enrichment completed"),
    ("evidence_requirement", .object [
      ("required_source_roles", .array []), ("min_independent_sources", .int 0),
      ("max_candidates", .int 20)]),
    ("time_scope", .object []), ("current_context_refs", .array []), ("budget_ref", .null)]

/-- The percept of a delegation that no port can take. -/
def delegationUnavailable (request : EnrichmentDelegationRequest) : RolePercept where
  perceptId := "percept:delegation-unavailable:" ++ request.delegationId
  requestId := "delegation:" ++ request.delegationId
  targetRefs := [request.targetObjectId]
  unresolved := ["delegated_enrichment_unavailable"]

def delegationFailed (request : EnrichmentDelegationRequest) (result : DelegationResult)
    (status : TaskRunStatus) : RolePercept where
  perceptId := "percept:delegation:" ++ result.childRunId ++ ":" ++ status.value
  requestId := "delegation:" ++ request.delegationId
  targetRefs := [request.targetObjectId]
  unresolved := ("delegated_enrichment_" ++ status.value) ::
    (match result.childStopReason with
      | some reason => if reason = "" then [] else ["child_stop_reason:" ++ reason]
      | none => [])

/-- What `_delegate` returns. -/
inductive Delegated where
  | outcome (outcome : InvestigationRoleOutcome)
  | percept (percept : RolePercept)

/-- `_delegate`. -/
def delegate (frame : InvestigationFrame) (request : EnrichmentDelegationRequest) (iteration : ℕ)
    (state : RoleState) : Except Raised (Delegated × RoleState) := do
  require (request.targetObjectId ∈ frame.state.targets)
    (.valueError "delegated enrichment target escapes Investigation Case")
  match role.delegation with
  | none => return (.percept (delegationUnavailable request), state)
  | some delegateEnrichment => do
      let asked := role.pause state
      let result ← delegateEnrichment asked.turn request
      let logged ← role.appendRoleEvent runId .progress ("child-task:" ++ result.childRunId)
        ("investigation-delegated:" ++ runId ++ ":" ++ request.delegationId) (role.pause asked)
      if result.childStatus = some .completed then do
        let (percept, next) ← role.executePerception runId frame
          (postDelegationRequest result.childRunId request.targetObjectId) logged
        return (.percept percept, next)
      else
        match result.childStatus.filter (· ∈ [.blocked, .failed, .cancelled, .timedOut]) with
        | some status => return (.percept (delegationFailed request result status), logged)
        | none => do
            let reason ← taskDependencyReason result.childRunId
            let (outcome, next) ← role.waitFor runId frame reason iteration logged
            return (.outcome outcome, next)

/-- What the loop keeps of a new percept. -/
def observe (memory : LoopMemory) (percept : RolePercept) : LoopMemory :=
  let signal := role.perceptDigest (perceptText percept)
  if signal ∈ memory.seenPerceptSignals then
    { memory with lastPercept := some percept, noProgress := memory.noProgress + 1 }
  else
    let recent := memory.recentPercepts ++ [percept]
    { lastPercept := some percept, recentPercepts := recent.drop (recent.length - 4)
      seenPerceptSignals := signal :: memory.seenPerceptSignals, noProgress := 0 }

/-! ## Patches -/

/-- `_apply_patch`, in one transaction. -/
def applyRolePatch (frame : InvestigationFrame) (patch : StatePatch) (state : RoleState) :
    Except Raised (StatePatchApplyResult × RoleState) := do
  require (patch.caseId = frame.state.caseId)
    (.valueError "StatePatch case_id escapes Investigation Case")
  require (patch.baseCaseRevision = frame.state.caseRevision)
    (.valueError "Planner emitted StatePatch against stale frame revision")
  let (result, cases) ← applyPatch state.cases state.knowledge patch "state_patch_accepted"
    (role.caseEventIds state.turn) (role.now state.turn)
  let next ← role.appendRoleEvent runId .investigationStateChanged
    ("investigation-state:" ++ frame.state.caseId ++ "@" ++ toString result.state.caseRevision)
    ("investigation-state:" ++ runId ++ ":" ++ patch.patchId) { state with cases }
  return (result, next)

/-- The operations of a patch, none of which resolves a need. -/
def deferredOperation (operation : StatePatchOperation) : StatePatchOperation :=
  { operation with resolvesNeedId := none }

theorem isBlank_append {text more : String} (nonblank : isBlank text = false) :
    isBlank (text ++ more) = false := by
  unfold isBlank at nonblank ⊢
  rw [toList_append, List.all_append, nonblank, Bool.false_and]

/-- The patch that is tried when a need does not accept its resolution. -/
def deferredPatch (patch : StatePatch) : StatePatch :=
  { patch with
    patchId := patch.patchId ++ ":partial"
    operations := patch.operations.map deferredOperation
    operations_nonempty := by simpa using patch.operations_nonempty
    patch_nonblank := isBlank_append patch.patch_nonblank }

/-- The percept of a resolution that is put off. -/
def resolutionDeferred (patchId error : String) : RolePercept where
  perceptId := "percept:resolution-deferred:" ++ patchId
  requestId := "state-patch:" ++ patchId
  unresolved := ["resolution_deferred:" ++ error]

/-- `_record_deferred_resolution`. -/
def recordDeferredResolution (patchId : String) (state : RoleState) : Except Raised RoleState :=
  role.appendRoleEvent runId .progress
    "evidence-need-resolution-deferred:EvidenceNeedResolutionRejected"
    ("investigation-partial:" ++ runId ++ ":" ++ patchId) (role.pause state)

/-- The patch has moved the state of the case. -/
def hasMoved (before : String) (result : StatePatchApplyResult) : Bool :=
  role.stateDigest (progressPayload result.state) ≠ before

/-- The second try of a patch, without the resolutions that its first try was
refused for. -/
def patchDeferred (frame : InvestigationFrame) (patch : StatePatch) (error before : String)
    (memory : LoopMemory) (state : RoleState) : Except Raised (LoopMemory × RoleState) :=
  let deferred := deferredPatch patch
  match role.applyRolePatch runId frame deferred state with
  | .ok (result, patched) => do
      let next ← role.recordDeferredResolution runId deferred.patchId patched
      return ({ memory.progressed (role.hasMoved before result) with
                lastPercept := some (resolutionDeferred deferred.patchId error) }, next)
  | .error (.statePatchRejected retryError) => .ok (memory.rejected patch retryError, state)
  | .error (.evidenceNeedResolutionRejected retryError) =>
      .ok (memory.rejected patch retryError, state)
  | .error raised => .error raised

/-- The branch of the loop for a patch. -/
def patchState (frame : InvestigationFrame) (patch : StatePatch) (before : String)
    (memory : LoopMemory) (state : RoleState) : Except Raised (LoopMemory × RoleState) :=
  let tried := role.pause state
  match role.applyRolePatch runId frame patch tried with
  | .ok (result, next) =>
      let moved := role.hasMoved before result
      let kept := memory.progressed moved
      .ok ({ kept with
             lastPercept := none
             recentPercepts := if moved then [] else kept.recentPercepts }, next)
  | .error (.evidenceNeedResolutionRejected error) =>
      role.patchDeferred runId frame patch error before memory (role.pause tried)
  | .error (.statePatchRejected error) => .ok (memory.rejected patch error, tried)
  | .error raised => .error raised

/-! ## The loop -/

/-- How an iteration ends: the run has been ended, or the loop goes on. -/
inductive Turned where
  | returned (outcome : InvestigationRoleOutcome)
  | goesOn (memory : LoopMemory)

/-- `allow_wait` of the desired state. -/
def allowWait (contract : TaskContract) : Except Raised Bool :=
  match field? contract.desiredState "allow_wait" with
  | none => .ok true
  | some (.bool allowed) => .ok allowed
  | some .null | some (.int _) | some (.real _) | some (.string _) | some (.array _)
  | some (.object _) => .error (desiredStateError "allow_wait")

/-- The stop reason of a planner that stops: it does not decide that the goal is
reached. -/
def plannerStopReason (reason : String) : String :=
  if reason = "goal_satisfied" ∨ reason = "evidence_sufficient" then
    "completion_predicate_unsatisfied:" ++ reason
  else reason

/-- The part of an iteration after the planner has answered. -/
def perform (iteration : ℕ) (frame : InvestigationFrame) (memory : LoopMemory) (before : String) :
    InvestigationAction → RoleState → Except Raised (Turned × RoleState)
  | .perceive request, state => do
      let (percept, next) ← role.executePerception runId frame request state
      return (.goesOn (role.observe memory percept), next)
  | .delegate request, state => do
      let (delegated, next) ← role.delegate runId frame request iteration state
      match delegated with
      | .percept percept => return (.goesOn (role.observe memory percept), next)
      | .outcome outcome => return (.returned outcome, next)
  | .patch patch, state => do
      let (kept, next) ← role.patchState runId frame patch before memory state
      return (.goesOn kept, next)
  | .wait reason, state => do
      if ← allowWait frame.taskContract then do
        let (outcome, next) ← role.waitFor runId frame reason iteration state
        return (.returned outcome, next)
      else do
        let (outcome, next) ← role.finish runId frame .blocked "waiting_not_allowed" iteration state
        return (.returned outcome, next)
  | .stop reason, state => do
      let (outcome, next) ← role.finish runId frame .blocked (plannerStopReason reason) iteration
        state
      return (.returned outcome, next)

/-- The part of an iteration after the test for completion. -/
def act (iteration : ℕ) (frame : InvestigationFrame) (memory : LoopMemory) (state : RoleState) :
    Except Raised (Turned × RoleState) := do
  let (blocked, state) ← role.executionBoundary runId frame iteration state
  match blocked with
  | some outcome => return (.returned outcome, state)
  | none => do
      let planned := role.pause state
      let action ← role.planner planned.turn frame memory.lastPercept memory.recentPercepts
      role.perform runId iteration frame memory (role.stateDigest (progressPayload frame.state))
        action planned

/-- One iteration, up to the test of the no-progress limit. -/
def iterate (iteration : ℕ) (memory : LoopMemory) (state : RoleState) :
    Except Raised (Turned × RoleState) := do
  let (frame, loaded) ← role.loadRoleFrame runId iteration memory state
  let refreshed ← role.refreshRoleContext runId frame loaded
  let (completed, tested) ← role.completion runId frame refreshed
  match completed with
  | some outcome => return (.returned outcome, tested)
  | none => role.act runId iteration frame memory tested

/-- How the loop is left. -/
inductive Left where
  | returned (outcome : InvestigationRoleOutcome)
  | noProgress (iteration : ℕ) (memory : LoopMemory)
  | exhausted (memory : LoopMemory)

def runIterations : List ℕ → LoopMemory → RoleState → Except Raised (Left × RoleState)
  | [], memory, state => .ok (.exhausted memory, state)
  | iteration :: rest, memory, state => do
      let (turned, next) ← role.iterate runId iteration memory state
      match turned with
      | .returned outcome => return (.returned outcome, next)
      | .goesOn kept =>
          if role.noProgressLimit ≤ kept.noProgress then return (.noProgress iteration kept, next)
          else runIterations rest kept next

/-- `_iteration_window`. -/
def iterationWindow (state : RoleState) : Except Raised ((ℕ × ℤ) × RoleState) := do
  let state := role.pause state
  let manifest ← getTaskContext state.tasks runId
  let turns := ((role.budgetLimits state.turn manifest.budgetRef).map
    (·.getD "agent_turns" "8")).getD "8"
  let budgetTurns ← fetch (Text.parseInt turns)
    (.valueError ("invalid literal for int() with base 10: '" ++ turns ++ "'"))
  return ((role.modelRequestCount state.turn + 1, min (role.maxIterations : ℤ) budgetTurns), state)

/-- `range(first_iteration, last_iteration + 1)`. -/
def iterations (first : ℕ) (last : ℤ) : List ℕ :=
  (List.range (last + 1 - first).toNat).map (first + ·)

def leaveLoop (last : ℤ) : Left → RoleState → Except Raised (InvestigationRoleOutcome × RoleState)
  | .returned outcome, state => .ok (outcome, state)
  | .noProgress iteration memory, state => do
      let (frame, loaded) ← role.loadRoleFrame runId iteration memory state
      role.finish runId frame .blocked (noProgressStopReason memory.lastPercept) iteration loaded
  | .exhausted memory, state => do
      let (frame, loaded) ← role.loadRoleFrame runId last.toNat memory state
      role.finish runId frame .blocked "budget_exhausted" last.toNat loaded

/-- `_run_loop`, up to where the loop is left: the last iteration of its window, and
how it is left. -/
def runToExit (state : RoleState) : Except Raised ((ℤ × Left) × RoleState) := do
  let ((first, last), opened) ← role.iterationWindow runId state
  let (left, ended) ← role.runIterations runId (iterations first last) {} opened
  return ((last, left), ended)

/-- `_run_loop`. -/
def runLoop (state : RoleState) : Except Raised (InvestigationRoleOutcome × RoleState) := do
  let ((last, left), ended) ← role.runToExit runId state
  role.leaveLoop runId last left ended

end InvestigationRoleRuntime

end SecFusion.Investigation
