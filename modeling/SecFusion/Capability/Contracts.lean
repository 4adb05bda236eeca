import SecFusion.Foundations.Dict
import SecFusion.TaskRuntime.Contracts

/-!
# Capability contracts

The data model of `packages/runtime/capability`: what a capability is, the implementations
bound to it, the request of a caller, and what an invocation leaves behind.  Of each
contract the part is kept that the broker and the registry read.
-/

namespace SecFusion.Capability

open Foundations TaskRuntime

/-! ## What a capability is -/

inductive EffectSemantics where
  | observation
  | internalState
  | externalSideEffect
  deriving DecidableEq

/-- The value of the enumeration member. -/
def EffectSemantics.value : EffectSemantics → String
  | .observation => "observation"
  | .internalState => "internal_state"
  | .externalSideEffect => "external_side_effect"

/-- `_EFFECT_TO_CEILING`. -/
def EffectSemantics.ceiling : EffectSemantics → EffectCeiling
  | .observation => .readOnly
  | .internalState => .internalState
  | .externalSideEffect => .externalSideEffect

inductive ImplementationKind where
  | localFunction
  | retrievalOperator
  | providerApi
  | mcpTool
  | openapiOperation
  | cli
  | browser
  | computerUse
  | sandboxProgram
  | childTask

/-- The value of the enumeration member. -/
def ImplementationKind.value : ImplementationKind → String
  | .localFunction => "local_function"
  | .retrievalOperator => "retrieval_operator"
  | .providerApi => "provider_api"
  | .mcpTool => "mcp_tool"
  | .openapiOperation => "openapi_operation"
  | .cli => "cli"
  | .browser => "browser"
  | .computerUse => "computer_use"
  | .sandboxProgram => "sandbox_program"
  | .childTask => "child_task"

inductive ExecutionClass where
  | trustedLocalRead
  | proxiedProviderRead
  | restrictedProcess
  | ociContainer
  | microvm
  | fullvmBrowser
  deriving DecidableEq

structure ToolImplementation where
  toolImplId : String
  implementationRevision : ℕ
  implementationKind : ImplementationKind
  serverIdentity : Option String := none
  (healthRef nativeSchemaHash : String)

structure CapabilityContract where
  capabilityId : String
  contractRevision : ℕ
  action : String
  applicableResourceTypes : List String
  effectSemantics : EffectSemantics
  identified : (isBlank capabilityId || isBlank action) = false := by decide
  applicable : applicableResourceTypes ≠ [] := by decide

/-- `required_effect_ceiling` -/
def CapabilityContract.requiredEffectCeiling (contract : CapabilityContract) : EffectCeiling :=
  contract.effectSemantics.ceiling

structure CapabilityBinding where
  bindingId : String
  bindingRevision : ℕ
  capabilityId : String
  contractRevision : ℕ
  toolImplId : String
  implementationRevision : ℕ
  canonicalToNativeArgs : Dict String String := .empty
  executionClass : ExecutionClass
  (credentialProfile networkProfile sandboxProfile : String)
  fallbackRank : ℕ := 100
  nativeSchemaHash : String

/-! ## Requests and results -/

structure CapabilityRequest where
  (requestId taskContractId taskRunId : String)
  caseId : Option String := none
  (principal capabilityId : String)
  contractRevision : ℕ
  (action resource resourceType : String)
  canonicalArguments : JsonObject := []
  intendedEffect : EffectSemantics
  evidencePurpose : Option String := none
  executionContext : JsonObject := []

structure InvocationPlan where
  (invocationPlanId capabilityRequestRef bindingId : String)
  bindingRevision : ℕ
  resolvedResource : String
  resolvedEffect : EffectSemantics
  (canonicalArgumentsDigest nativeArgumentsRef : String)
  executionClass : ExecutionClass
  (credentialRequirement networkRequirement sandboxRequirement : String)
  deadlineAt : ℤ
  budgetReservationRef : String

structure CapabilityInvocation where
  (invocationId invocationPlanId policyDecisionRef : String)
  (credentialGrantRef networkGrantRef sandboxInstanceRef : Option String := none)
  startedAt : ℤ

inductive CapabilityResultStatus where
  | succeeded
  | partially
  | failed
  | blocked
  | timedOut
  deriving DecidableEq

structure CapabilityResult where
  invocationId : String
  status : CapabilityResultStatus
  (canonicalOutputRef rawArtifactRef effectReceiptRef : Option String := none)
  observationClass : String
  (provenance latency cost : JsonObject := [])
  (failureCode failureDetail : Option String := none)

/-- `EphemeralObservation`, with what its validator establishes. -/
structure EphemeralObservation where
  (observationId requestId capabilityId source : String)
  provenance : JsonObject := []
  observedAt : ℤ
  rawResultRef : String
  extractedCandidates : List JsonValue := []
  trustLabel : String
  ttlSeconds : ℕ
  ttl_pos : ttlSeconds ≠ 0
  named : ∀ text ∈ [observationId, requestId, capabilityId, source, rawResultRef, trustLabel],
    ¬ isBlank text

/-! ## Validation -/

/-- `capability_visible_for_task`. -/
def capabilityVisibleForTask (task : TaskContract) (capability : CapabilityContract) : Bool :=
  effectWithinCeiling capability.requiredEffectCeiling task.effectCeiling

/-- `validate_capability_request`: the reasons to refuse the request. -/
def validateCapabilityRequest (task : TaskContract) (capability : CapabilityContract)
    (request : CapabilityRequest) : List String :=
  (if request.taskContractId ≠ task.taskContractId then ["task_contract_mismatch"] else []) ++
  (if request.principal ≠ task.principal then ["principal_mismatch"] else []) ++
  (if request.capabilityId ≠ capability.capabilityId then ["capability_id_mismatch"] else []) ++
  (if request.contractRevision ≠ capability.contractRevision then ["capability_revision_mismatch"]
    else []) ++
  (if request.action ≠ capability.action then ["action_mismatch"] else []) ++
  (if request.resourceType ∉ capability.applicableResourceTypes then
    ["resource_type_not_applicable"] else []) ++
  (if request.intendedEffect ≠ capability.effectSemantics then ["intended_effect_mismatch"]
    else []) ++
  (if capabilityVisibleForTask task capability = false then ["exceeds_task_effect_ceiling"]
    else [])

/-! ## The registry -/

/-- `CapabilityRegistry`, as its constructor leaves it. -/
structure CapabilityRegistry where
  contracts : Dict (String × ℕ) CapabilityContract
  implementations : Dict (String × ℕ) ToolImplementation
  bindings : List CapabilityBinding

/-- `CapabilityRegistry.contract`. -/
def CapabilityRegistry.contract (registry : CapabilityRegistry) (capabilityId : String)
    (contractRevision : ℕ) : Except Raised CapabilityContract :=
  fetch (registry.contracts.get? (capabilityId, contractRevision)) (.lookupError
    ("capability contract not found: " ++ capabilityId ++ "@" ++ toString contractRevision))

/-- `CapabilityRegistry.implementation`. -/
def CapabilityRegistry.implementation (registry : CapabilityRegistry) (toolImplId : String)
    (implementationRevision : ℕ) : Except Raised ToolImplementation :=
  fetch (registry.implementations.get? (toolImplId, implementationRevision)) (.lookupError
    ("tool implementation not found: " ++ toolImplId ++ "@" ++ toString implementationRevision))

/-- One round of `_eligible_bindings`: the binding, if it is eligible. -/
def CapabilityRegistry.eligible? (registry : CapabilityRegistry) (contract : CapabilityContract)
    (healthyRefs : Option (List String)) (availableExecutionClasses : Option (List ExecutionClass))
    (binding : CapabilityBinding) : Except Raised (Option CapabilityBinding) :=
  if binding.capabilityId ≠ contract.capabilityId ∨
      binding.contractRevision ≠ contract.contractRevision then .ok none
  else do
    let implementation ← registry.implementation binding.toolImplId binding.implementationRevision
    if binding.nativeSchemaHash = implementation.nativeSchemaHash ∧
        healthyRefs.all (implementation.healthRef ∈ ·) = true ∧
        availableExecutionClasses.all (binding.executionClass ∈ ·) = true then
      return some binding
    else return none

/-- The order of preference among bindings. -/
def preferred (left right : CapabilityBinding) : Prop :=
  left.fallbackRank < right.fallbackRank ∨
    (left.fallbackRank = right.fallbackRank ∧ left.bindingId ≤ right.bindingId)

instance : DecidableRel preferred := fun _ _ => inferInstanceAs (Decidable (_ ∨ (_ ∧ _)))

/-- `CapabilityRegistry._eligible_bindings`. -/
def CapabilityRegistry.eligibleBindings (registry : CapabilityRegistry)
    (contract : CapabilityContract) (healthyRefs : Option (List String))
    (availableExecutionClasses : Option (List ExecutionClass)) :
    Except Raised (List CapabilityBinding) := do
  let found ← registry.bindings.mapM
    (registry.eligible? contract healthyRefs availableExecutionClasses)
  return (found.filterMap id).insertionSort preferred

/-- `CapabilityRegistry.resolve_binding`. -/
def CapabilityRegistry.resolveBinding (registry : CapabilityRegistry)
    (contract : CapabilityContract) (healthyRefs : Option (List String))
    (availableExecutionClasses : Option (List ExecutionClass)) :
    Except Raised (CapabilityBinding × ToolImplementation) := do
  let bindings ← registry.eligibleBindings contract healthyRefs availableExecutionClasses
  let binding ← fetch bindings.head?
    (.lookupError ("no healthy capability binding: " ++ contract.capabilityId))
  let implementation ← registry.implementation binding.toolImplId binding.implementationRevision
  require (binding.nativeSchemaHash = implementation.nativeSchemaHash)
    (.runtimeError "capability binding is stale after native schema change")
  return (binding, implementation)

end SecFusion.Capability
