import SecFusion.Raised
import SecFusion.Foundations.Json
import SecFusion.Foundations.Text

/-!
# Task contracts

The data model of `packages/task_runtime/contracts`: what a task may do, the
statuses of a task run and the transitions between them, the events of its log,
and the texts by which a waiting run names the run it waits for.

A Pydantic model whose validator refuses some values is a structure whose last
fields state what the validator establishes, so a contract that would not pass
does not exist here either.
-/

namespace SecFusion.TaskRuntime

open Foundations

/-! ## What a task may do -/

inductive TaskKind where
  | lookup
  | retrieve
  | verifyVersionFix
  | resolveConflict
  | investigateRelation
  | investigateIncident
  | watchIncident
  | researchInsight
  | assessNormativeApplicability
  | observeLiveAsset
  | enrichment
  deriving DecidableEq

/-- The value of the enumeration member. -/
def TaskKind.value : TaskKind → String
  | .lookup => "lookup"
  | .retrieve => "retrieve"
  | .verifyVersionFix => "verify_version_fix"
  | .resolveConflict => "resolve_conflict"
  | .investigateRelation => "investigate_relation"
  | .investigateIncident => "investigate_incident"
  | .watchIncident => "watch_incident"
  | .researchInsight => "research_insight"
  | .assessNormativeApplicability => "assess_normative_applicability"
  | .observeLiveAsset => "observe_live_asset"
  | .enrichment => "enrichment"

inductive EffectCeiling where
  | readOnly
  | internalState
  | externalSideEffect
  deriving DecidableEq

/-- `_EFFECT_RANK`. -/
def EffectCeiling.rank : EffectCeiling → ℕ
  | .readOnly => 0
  | .internalState => 1
  | .externalSideEffect => 2

def effectWithinCeiling (effect ceiling : EffectCeiling) : Bool := effect.rank ≤ ceiling.rank

theorem effectWithinCeiling_trans {low middle high : EffectCeiling}
    (first : effectWithinCeiling low middle = true)
    (second : effectWithinCeiling middle high = true) : effectWithinCeiling low high = true := by
  simp only [effectWithinCeiling, decide_eq_true_eq] at *
  exact first.trans second

/-- `DelegationCeiling`, with what `validate_disabled_shape` establishes. -/
structure DelegationCeiling where
  allowed : Bool := false
  maxDepth : ℕ := 0
  allowedTaskKinds : List TaskKind := []
  childEffectCeiling : EffectCeiling := .readOnly
  disabled_shape : allowed = false →
    maxDepth = 0 ∧ allowedTaskKinds = [] ∧ childEffectCeiling = .readOnly := by decide
  enabled_depth : allowed = true → 1 ≤ maxDepth := by decide
  deriving DecidableEq

instance : Inhabited DelegationCeiling := ⟨{}⟩

inductive CancellationSemantics where
  | cancellable
  | terminalOnly
  | requiresReconciliation
  deriving DecidableEq

/-- `TaskContract`, with what `validate_execution_contract` establishes. -/
structure TaskContract where
  taskContractId : String
  contractRevision : ℕ
  principal : String
  onBehalfOf : Option String := none
  taskKind : TaskKind
  targetResources : List String := []
  desiredState : JsonObject
  (evidenceContract outputContract temporalContract : JsonObject := [])
  effectCeiling : EffectCeiling
  delegationCeiling : DelegationCeiling := default
  completionPredicate : JsonObject
  cancellationSemantics : CancellationSemantics := .cancellable
  policyRevision : String
  revision_pos : 1 ≤ contractRevision := by decide
  principal_nonblank : isBlank principal ≠ true := by decide
  desired_nonempty : desiredState ≠ [] := by decide
  completion_nonempty : completionPredicate ≠ [] := by decide
  policy_nonblank : isBlank policyRevision ≠ true := by decide
  delegated_effect : delegationCeiling.allowed = true →
    effectWithinCeiling delegationCeiling.childEffectCeiling effectCeiling = true := by decide
  deriving DecidableEq

/-! ## Task runs -/

inductive TaskRunStatus where
  | submitted
  | queued
  | running
  | waitingInput
  | waitingDependency
  | blocked
  | completed
  | failed
  | cancelled
  | timedOut
  deriving DecidableEq

/-- The value of the enumeration member. -/
def TaskRunStatus.value : TaskRunStatus → String
  | .submitted => "submitted"
  | .queued => "queued"
  | .running => "running"
  | .waitingInput => "waiting_input"
  | .waitingDependency => "waiting_dependency"
  | .blocked => "blocked"
  | .completed => "completed"
  | .failed => "failed"
  | .cancelled => "cancelled"
  | .timedOut => "timed_out"

/-- `TERMINAL_TASK_RUN_STATUSES`. -/
def TaskRunStatus.isTerminal : TaskRunStatus → Bool
  | .blocked | .completed | .failed | .cancelled | .timedOut => true
  | .submitted | .queued | .running | .waitingInput | .waitingDependency => false

/-- `TASK_RUN_TRANSITIONS`. -/
def taskRunTransitions : TaskRunStatus → List TaskRunStatus
  | .submitted => [.queued, .cancelled, .blocked]
  | .queued => [.running, .cancelled, .blocked, .timedOut]
  | .running =>
      [.waitingInput, .waitingDependency, .blocked, .completed, .failed, .cancelled, .timedOut]
  | .waitingInput => [.queued, .cancelled, .blocked, .timedOut]
  | .waitingDependency => [.queued, .cancelled, .blocked, .timedOut]
  | .blocked | .completed | .failed | .cancelled | .timedOut => []

def canTransitionTaskRun (current target : TaskRunStatus) : Bool :=
  target ∈ taskRunTransitions current

/-- A transition changes the status. -/
theorem canTransitionTaskRun_ne {current target : TaskRunStatus}
    (allowed : canTransitionTaskRun current target = true) : current ≠ target := by
  rintro rfl
  revert allowed
  cases current <;> decide

/-- The part of `RoleProfile` that the task store and the handoff read. -/
structure RoleProfile where
  (roleId version : String)
  acceptsTaskKinds : List TaskKind

/-- `RoleProfile.accepts`. -/
def RoleProfile.accepts (role : RoleProfile) (taskKind : TaskKind) : Bool :=
  taskKind ∈ role.acceptsTaskKinds

/-- The text by which manifests name a role. -/
def RoleProfile.ref (role : RoleProfile) : String := role.roleId ++ "@" ++ role.version

structure ContextManifest where
  contextId : String
  contextRevision : ℕ
  parentContextId : Option String := none
  (taskContractRef roleRef : String)
  caseRef : Option String := none
  knowledgeRevision : Option ℕ := none
  investigationStateRef : Option String := none
  (enrichmentStateRefs evidenceRefs objectRefs relationRefs : List String := [])
  retrievalInvocationRefs : List String := []
  queryIntent : Option JsonObject := none
  (queryIntentModelRef trajectoryCheckpointRef : Option String := none)
  (skillSelectionRefs experiencePatternRefs : List String := [])
  (policyContextRef capabilityEnvelopeRef budgetRef : String)
  cacheHint : Option String := none
  revision_pos : 1 ≤ contextRevision := by decide
  deriving DecidableEq

/-! ## Events -/

inductive TaskEventType where
  | taskCreated
  | taskStarted
  | taskPatched
  | contextUpdated
  | evidenceFound
  | knowledgeChanged
  | enrichmentStateChanged
  | investigationStateChanged
  | taskBlocked
  | needInput
  | needContext
  | budgetWarning
  | artifactProduced
  | progress
  | taskCompleted
  | taskFailed
  | taskCanceled
  deriving DecidableEq

/-- The value of the enumeration member. -/
def TaskEventType.value : TaskEventType → String
  | .taskCreated => "TaskCreated"
  | .taskStarted => "TaskStarted"
  | .taskPatched => "TaskPatched"
  | .contextUpdated => "ContextUpdated"
  | .evidenceFound => "EvidenceFound"
  | .knowledgeChanged => "KnowledgeChanged"
  | .enrichmentStateChanged => "EnrichmentStateChanged"
  | .investigationStateChanged => "InvestigationStateChanged"
  | .taskBlocked => "TaskBlocked"
  | .needInput => "NeedInput"
  | .needContext => "NeedContext"
  | .budgetWarning => "BudgetWarning"
  | .artifactProduced => "ArtifactProduced"
  | .progress => "Progress"
  | .taskCompleted => "TaskCompleted"
  | .taskFailed => "TaskFailed"
  | .taskCanceled => "TaskCanceled"

/-- `_event_for_transition`. -/
def eventForTransition : TaskRunStatus → TaskEventType
  | .running => .taskStarted
  | .waitingInput => .needInput
  | .waitingDependency => .needContext
  | .blocked => .taskBlocked
  | .completed => .taskCompleted
  | .failed | .timedOut => .taskFailed
  | .cancelled => .taskCanceled
  | .submitted | .queued => .taskPatched

/-! ## Dependencies -/

/-- `TASK_DEPENDENCY_PREFIX`. -/
def taskDependencyHead : String := "task_dependency:"

/-- `_LEGACY_DEPENDENCY_PREFIXES`. -/
def legacyDependencyHead : String := "delegated_enrichment:"

/-- `task_dependency_reason`: the stop reason of a run that waits for another. -/
def taskDependencyReason (childRunId : String) : Except Raised String := do
  let childRunId := strip childRunId
  require (childRunId ≠ "") (.valueError "child_run_id cannot be empty")
  return taskDependencyHead ++ childRunId

/-- `dependency_run_id`: the run a stop reason names. -/
def dependencyRunId (stopReason : Option String) : Option String :=
  match stopReason with
  | none => none
  | some reason =>
      match afterHead? taskDependencyHead reason with
      | some rest => if strip rest = "" then none else some (strip rest)
      | none =>
          match afterHead? legacyDependencyHead reason with
          | some rest => if strip rest = "" then none else some (strip rest)
          | none => none

/-! ## Conformance of a child contract -/

/-- `validate_child_contract`: the reason for which the parent's ceiling refuses
the child, if it does. -/
def validateChildContract (parent child : TaskContract) : Option String :=
  let ceiling := parent.delegationCeiling
  if ceiling.allowed = false then some "delegation_not_allowed"
  else if child.taskKind ∉ ceiling.allowedTaskKinds then some "child_task_kind_not_allowed"
  else if effectWithinCeiling child.effectCeiling ceiling.childEffectCeiling = false then
    some "exceeds_parent_effect_ceiling"
  else if child.delegationCeiling.allowed = true ∧ ceiling.maxDepth ≤ 1 then
    some "exceeds_parent_delegation_ceiling"
  else if child.delegationCeiling.allowed = true then
    if ceiling.maxDepth ≤ child.delegationCeiling.maxDepth then
      some "exceeds_parent_delegation_ceiling"
    else if effectWithinCeiling child.delegationCeiling.childEffectCeiling
        ceiling.childEffectCeiling = false then
      some "exceeds_parent_effect_ceiling"
    else none
  else none

/-- What the parent's ceiling grants a child that it accepts. -/
structure Conforms (parent child : TaskContract) : Prop where
  allowed : parent.delegationCeiling.allowed = true
  kind : child.taskKind ∈ parent.delegationCeiling.allowedTaskKinds
  effect : effectWithinCeiling child.effectCeiling
    parent.delegationCeiling.childEffectCeiling = true
  delegatedEffect : child.delegationCeiling.allowed = true →
    effectWithinCeiling child.delegationCeiling.childEffectCeiling
      parent.delegationCeiling.childEffectCeiling = true
  depth : child.delegationCeiling.allowed = true →
    child.delegationCeiling.maxDepth < parent.delegationCeiling.maxDepth

theorem conforms_of_validateChildContract {parent child : TaskContract}
    (accepted : validateChildContract parent child = none) : Conforms parent child := by
  unfold validateChildContract at accepted
  dsimp only at accepted
  split at accepted
  · cases accepted
  next allowed =>
  split at accepted
  · cases accepted
  next kind =>
  split at accepted
  · cases accepted
  next effect =>
  split at accepted
  · cases accepted
  split at accepted
  · split at accepted
    · cases accepted
    next depth =>
    split at accepted
    · cases accepted
    next delegated =>
    exact ⟨by simpa using allowed, not_not.1 kind, by simpa using effect,
      fun _ => by simpa using delegated, fun _ => not_le.1 depth⟩
  next leaf =>
    exact ⟨by simpa using allowed, not_not.1 kind, by simpa using effect,
      fun granted => absurd granted leaf, fun granted => absurd granted leaf⟩

end SecFusion.TaskRuntime
