import SecFusion.TaskRuntime.Storage

/-!
# Handing a task to a child run

The model of `derive_child_context` and `create_child_task_run`: the context of
a child is a selection from the context of its parent, and the child is created
only under the parent's delegation ceiling.

Two places check the contract of the child against that of the parent,
`_validate_child_delegation` here and `validate_child_contract` inside
`create_task_run`.  Both look at the immediate parent only; the one question
about the whole chain is its length, `_delegation_depth`.
-/

namespace SecFusion.TaskRuntime

open Foundations

/-! ## Contexts -/

/-- `ChildContextSpec`, with what its validator establishes. -/
structure ChildContextSpec where
  (contextId policyContextRef capabilityEnvelopeRef budgetRef : String)
  (includeCase includeInvestigationState includeTrajectoryCheckpoint : Bool := false)
  (evidenceRefs objectRefs relationRefs enrichmentStateRefs skillSelectionRefs : List String := [])
  experiencePatternRefs : List String := []
  cacheHint : Option String := none
  context_nonblank : isBlank contextId = false := by decide
  policy_nonblank : isBlank policyContextRef = false := by decide
  capability_nonblank : isBlank capabilityEnvelopeRef = false := by decide
  budget_nonblank : isBlank budgetRef = false := by decide

/-- `_stable_refs`: without duplicates, in increasing order. -/
def stableRefs (values : List String) : List String := values.dedup.insertionSort (· ≤ ·)

/-- `_require_subset`. -/
def requireSubset (field : String) (selected available : List String) : Except Raised Unit :=
  match stableRefs (selected.filter (· ∉ available)) with
  | [] => .ok ()
  | extra :: _ =>
      .error (.valueError ("context selection expands parent " ++ field ++ ": " ++ extra))

/-- `_require_subsets`, over `_REFERENCE_FIELDS`. -/
def requireSubsets (parent : ContextManifest) (spec : ChildContextSpec) : Except Raised Unit := do
  requireSubset "enrichment_state_refs" spec.enrichmentStateRefs parent.enrichmentStateRefs
  requireSubset "evidence_refs" spec.evidenceRefs parent.evidenceRefs
  requireSubset "object_refs" spec.objectRefs parent.objectRefs
  requireSubset "relation_refs" spec.relationRefs parent.relationRefs
  requireSubset "skill_selection_refs" spec.skillSelectionRefs parent.skillSelectionRefs
  requireSubset "experience_pattern_refs" spec.experiencePatternRefs parent.experiencePatternRefs

def deriveChildContext (parent : ContextManifest) (childContract : TaskContract)
    (childRole : RoleProfile) (spec : ChildContextSpec) : Except Raised ContextManifest := do
  require (childRole.accepts childContract.taskKind = true)
    (.valueError ("role " ++ childRole.roleId ++ " does not accept task kind " ++
      childContract.taskKind.value))
  requireSubsets parent spec
  return {
    contextId := spec.contextId
    contextRevision := 1
    revision_pos := Nat.one_pos
    parentContextId := some parent.contextId
    taskContractRef := taskContractRef childContract
    roleRef := childRole.ref
    caseRef := if spec.includeCase then parent.caseRef else none
    knowledgeRevision := parent.knowledgeRevision
    investigationStateRef :=
      if spec.includeInvestigationState then parent.investigationStateRef else none
    enrichmentStateRefs := stableRefs spec.enrichmentStateRefs
    evidenceRefs := stableRefs spec.evidenceRefs
    objectRefs := stableRefs spec.objectRefs
    relationRefs := stableRefs spec.relationRefs
    trajectoryCheckpointRef :=
      if spec.includeTrajectoryCheckpoint then parent.trajectoryCheckpointRef else none
    skillSelectionRefs := stableRefs spec.skillSelectionRefs
    experiencePatternRefs := stableRefs spec.experiencePatternRefs
    policyContextRef := spec.policyContextRef
    capabilityEnvelopeRef := spec.capabilityEnvelopeRef
    budgetRef := spec.budgetRef
    cacheHint := spec.cacheHint }

/-! ## Child runs -/

/-- `_validate_child_delegation`. -/
def validateChildDelegation (parent child : TaskContract) : Except Raised Unit := do
  let ceiling := parent.delegationCeiling
  require (ceiling.allowed = true) (.valueError "parent task contract does not allow delegation")
  require (child.taskKind ∈ ceiling.allowedTaskKinds)
    (.valueError "child task kind exceeds parent delegation ceiling")
  require (effectWithinCeiling child.effectCeiling ceiling.childEffectCeiling = true)
    (.valueError "child task effect exceeds parent delegation ceiling")

/-- The loop of `_delegation_depth`, `seen` being the runs it has visited.  Each
round visits another run of the store, so one round more than there are runs is
never needed. -/
def depthLoop (store : TaskStore) (seen : List String) (depth : ℕ) (current : String) :
    ℕ → Except Raised ℕ
  | 0 => .error (.runtimeError "task parent chain contains a cycle")
  | rounds + 1 =>
      if current ∈ seen then .error (.runtimeError "task parent chain contains a cycle")
      else
        match store.runs.get? current with
        | none => .error (.lookupError
            ("task run not found while computing delegation depth: " ++ current))
        | some run =>
            match run.parentRunId with
            | none => .ok depth
            | some parent => depthLoop store (current :: seen) (depth + 1) parent rounds

/-- `_delegation_depth`. -/
def delegationDepth (store : TaskStore) (runId : String) : Except Raised ℕ :=
  depthLoop store [] 0 runId (store.runs.rows.length + 1)

/-- The arguments of `create_child_task_run`. -/
structure CreateChildTaskRun where
  parentRunId : String
  childContract : TaskContract
  childRole : RoleProfile
  contextSpec : ChildContextSpec
  (executionEnvelopeRef streamName : String)
  runId : Option String := none
  producer : String := "task-runtime"

/-- The request `create_child_task_run` passes on to `create_task_run`. -/
def CreateChildTaskRun.toCreate (request : CreateChildTaskRun) (manifest : ContextManifest) :
    CreateTaskRun where
  contract := request.childContract
  manifest := manifest
  role := request.childRole
  executionEnvelopeRef := request.executionEnvelopeRef
  streamName := request.streamName
  caseId := manifest.caseRef
  parentRunId := some request.parentRunId
  runId := request.runId
  producer := request.producer

def createChildTaskRun (store : TaskStore) (request : CreateChildTaskRun) (uuid eventId : String)
    (now : ℤ) : Except Raised (TaskRun × TaskStore) := do
  let parent ← fetch (store.runs.get? request.parentRunId)
    (.lookupError ("parent task run not found: " ++ request.parentRunId))
  require (parent.status = .running)
    (.valueError "child task can only be created from a running parent")
  let parentContract ← getTaskContractForRun store request.parentRunId
  validateChildDelegation parentContract request.childContract
  let depth ← delegationDepth store request.parentRunId
  require (depth + 1 ≤ parentContract.delegationCeiling.maxDepth)
    (.valueError "child task exceeds parent delegation depth ceiling")
  let parentManifest ← getTaskContext store request.parentRunId
  let childManifest ← deriveChildContext parentManifest request.childContract request.childRole
    request.contextSpec
  createTaskRun store (request.toCreate childManifest) uuid eventId now

end SecFusion.TaskRuntime
