import SecFusion.TaskRuntime.Storage
import SecFusion.Execution.Envelope
import Mathlib.Data.Prod.Lex

/-!
# Prompt assemblies

The model of `packages/task_runtime/context/materializer.py`: what a model is told about a
task run is a list of fragments, each with a class of trust, and the request that the
model receives is written from the list.

`Hashing` stands for `sha256` of the canonical text of a value and for `uuid5` in the
namespace of URLs.  The fields of an object are listed in the order of their names.
-/

namespace SecFusion.TaskRuntime

open Foundations Execution

/-! ## Fragments -/

inductive FragmentCacheClass where
  | static
  | taskStable
  | stateDynamic
  | ephemeral
  deriving DecidableEq

/-- The value of the enumeration member. -/
def FragmentCacheClass.value : FragmentCacheClass → String
  | .static => "static"
  | .taskStable => "task_stable"
  | .stateDynamic => "state_dynamic"
  | .ephemeral => "ephemeral"

/-- `_CACHE_ORDER`. -/
def FragmentCacheClass.order : FragmentCacheClass → ℕ
  | .static => 0
  | .taskStable => 1
  | .stateDynamic => 2
  | .ephemeral => 3

inductive FragmentTrustClass where
  | platformInvariant
  | runtimeControl
  | procedural
  | proceduralProvenance
  | durableState
  | evidenceReference
  | untrustedExternal
  deriving DecidableEq

/-- The value of the enumeration member. -/
def FragmentTrustClass.value : FragmentTrustClass → String
  | .platformInvariant => "platform_invariant"
  | .runtimeControl => "runtime_control"
  | .procedural => "procedural"
  | .proceduralProvenance => "procedural_provenance"
  | .durableState => "durable_state"
  | .evidenceReference => "evidence_reference"
  | .untrustedExternal => "untrusted_external"

/-- `_INSTRUCTION_TRUST`. -/
def FragmentTrustClass.isInstruction : FragmentTrustClass → Bool
  | .platformInvariant | .runtimeControl | .procedural => true
  | .proceduralProvenance | .durableState | .evidenceReference | .untrustedExternal => false

/-- `_digest`, and `uuid5(NAMESPACE_URL, …)`. -/
structure Hashing where
  digest : JsonValue → String
  uuid5 : String → String

/-- `MaterializedFragment`, with what `validate_fragment` establishes.  The identifier is
not compared with anything. -/
structure MaterializedFragment (hashing : Hashing) where
  (fragmentId kind sourceRef sourceRevision : String)
  (disclosureLevel selectionReason : Option String := none)
  trustClass : FragmentTrustClass
  cacheClass : FragmentCacheClass
  contentHash : String
  content : JsonValue
  named : ∀ text ∈ [fragmentId, kind, sourceRef, sourceRevision, contentHash],
    isBlank text = false
  hashed : contentHash = hashing.digest content
  deriving DecidableEq

/-- The names under which the validator refuses the texts of a fragment, in its order. -/
def fragmentLabels : List String :=
  ["fragment_id", "kind", "source_ref", "source_revision", "content_hash"]

/-- The error of the validator on a fragment with these texts, of which one is blank. -/
def blankFragmentText (texts : List String) : Raised :=
  let label := (((texts.zip fragmentLabels).find? fun text => isBlank text.1).map
    (·.2)).getD ""
  .valueError ("MaterializedFragment " ++ label ++ " cannot be empty")

/-- The arguments of `MaterializedFragment.build`. -/
structure FragmentSpec where
  (kind sourceRef sourceRevision : String)
  trustClass : FragmentTrustClass
  cacheClass : FragmentCacheClass
  content : JsonValue
  (disclosureLevel selectionReason : Option String := none)

section Assemblies

variable (hashing : Hashing)

/-- What the identifier of a built fragment is the hash of. -/
def FragmentSpec.identity (spec : FragmentSpec) : JsonValue :=
  .object
    [("cache_class", .string spec.cacheClass.value),
     ("content_hash", .string (hashing.digest spec.content)),
     ("disclosure_level", .ofText? spec.disclosureLevel),
     ("kind", .string spec.kind),
     ("selection_reason", .ofText? spec.selectionReason),
     ("source_ref", .string spec.sourceRef),
     ("source_revision", .string spec.sourceRevision),
     ("trust_class", .string spec.trustClass.value)]

def FragmentSpec.fragmentId (spec : FragmentSpec) : String :=
  hashing.uuid5 ("secfusion:fragment:" ++ hashing.digest (spec.identity hashing))

/-- `MaterializedFragment.build`. -/
def MaterializedFragment.build (spec : FragmentSpec) :
    Except Raised (MaterializedFragment hashing) :=
  let contentHash := hashing.digest spec.content
  if named : ∀ text ∈ [spec.fragmentId hashing, spec.kind, spec.sourceRef, spec.sourceRevision,
      contentHash], isBlank text = false then
    .ok
      { fragmentId := spec.fragmentId hashing
        kind := spec.kind
        sourceRef := spec.sourceRef
        sourceRevision := spec.sourceRevision
        disclosureLevel := spec.disclosureLevel
        selectionReason := spec.selectionReason
        trustClass := spec.trustClass
        cacheClass := spec.cacheClass
        contentHash
        content := spec.content
        named
        hashed := rfl }
  else
    .error (blankFragmentText [spec.fragmentId hashing, spec.kind, spec.sourceRef,
      spec.sourceRevision, contentHash])

/-- `_fragment_payload`. -/
def fragmentPayload {hashing : Hashing} (fragment : MaterializedFragment hashing) : JsonValue :=
  .object
    [("cache_class", .string fragment.cacheClass.value),
     ("content", fragment.content),
     ("content_hash", .string fragment.contentHash),
     ("disclosure_level", .ofText? fragment.disclosureLevel),
     ("fragment_id", .string fragment.fragmentId),
     ("kind", .string fragment.kind),
     ("selection_reason", .ofText? fragment.selectionReason),
     ("source_ref", .string fragment.sourceRef),
     ("source_revision", .string fragment.sourceRevision),
     ("trust_class", .string fragment.trustClass.value)]

def MaterializedFragment.sortKey {hashing : Hashing} (fragment : MaterializedFragment hashing) :
    ℕ ×ₗ String ×ₗ String ×ₗ String :=
  toLex (fragment.cacheClass.order,
    toLex (fragment.kind, toLex (fragment.sourceRef, fragment.fragmentId)))

/-- The order of `_ordered_fragments`. -/
def Precedes (first second : MaterializedFragment hashing) : Prop :=
  first.sortKey ≤ second.sortKey

instance precedesDecidable : DecidableRel (Precedes hashing) :=
  fun first second => inferInstanceAs (Decidable (first.sortKey ≤ second.sortKey))

instance precedesTotal : Std.Total (Precedes hashing) :=
  ⟨fun first second => le_total first.sortKey second.sortKey⟩

instance precedesTrans : IsTrans (MaterializedFragment hashing) (Precedes hashing) :=
  ⟨fun _ _ _ => le_trans⟩

/-- `_ordered_fragments`. -/
def orderedFragments (fragments : List (MaterializedFragment hashing)) :
    List (MaterializedFragment hashing) :=
  fragments.insertionSort (Precedes hashing)

/-! ## Requests -/

/-- `StructuredModelRequest`; the instruction is the canonical text of an object. -/
structure StructuredModelRequest where
  (systemInstruction data metadata : JsonObject)

def StructuredModelRequest.instructionFragments (request : StructuredModelRequest) :
    List JsonValue :=
  JsonObject.items request.systemInstruction "instruction_fragments"

def StructuredModelRequest.dataFragments (request : StructuredModelRequest) : List JsonValue :=
  JsonObject.items request.data "data_fragments"

structure PromptAssembly where
  (assemblyId executionId taskContractId taskRunId roleRevision : String)
  contextManifestRevision : ℕ
  (platformInvariantRevision executionProfileRevision policyContextRevision : String)
  (materializedSkillRefs materializedCapabilityViewRefs : List String := [])
  stateProjectionRevision : Option String := none
  (perceptRefs materializedFragmentRefs : List String := [])
  materializedRefSetDigest : String
  orderedFragmentIds : List String
  cacheHandleHints : List String := []
  assemblyHash : String
  fragments : List (MaterializedFragment hashing) := []

/-- `by_id[fragment_id]`: the last fragment under an identifier. -/
def fragmentById (fragments : List (MaterializedFragment hashing)) (fragmentId : String) :
    Except Raised (MaterializedFragment hashing) :=
  fetch (fragments.reverse.find? fun fragment => fragment.fragmentId = fragmentId)
    (.lookupError fragmentId)

def instructionNote : String :=
  "Prompt instructions do not grant permission or factual authority; " ++
  "runtime policy and state/evidence gates remain authoritative."

def PromptAssembly.requestWith (assembly : PromptAssembly hashing)
    (ordered : List (MaterializedFragment hashing)) : StructuredModelRequest where
  systemInstruction :=
    [("assembly_id", .string assembly.assemblyId),
     ("instruction_fragments", .array
       ((ordered.filter fun fragment => fragment.trustClass.isInstruction).map fragmentPayload)),
     ("note", .string instructionNote)]
  data :=
    [("assembly_id", .string assembly.assemblyId),
     ("context_manifest_revision", .int assembly.contextManifestRevision),
     ("data_fragments", .array
       ((ordered.filter fun fragment => !fragment.trustClass.isInstruction).map fragmentPayload)),
     ("percept_refs", .array (assembly.perceptRefs.map .string))]
  metadata :=
    [("assembly_hash", .string assembly.assemblyHash),
     ("materialized_ref_set_digest", .string assembly.materializedRefSetDigest),
     ("role_revision", .string assembly.roleRevision)]

/-- `to_model_request`. -/
def PromptAssembly.toModelRequest (assembly : PromptAssembly hashing) :
    Except Raised StructuredModelRequest := do
  let ordered ← assembly.orderedFragmentIds.mapM (fragmentById hashing assembly.fragments)
  return assembly.requestWith hashing ordered

/-! ## Dumps -/

def EffectCeiling.value : EffectCeiling → String
  | .readOnly => "read_only"
  | .internalState => "internal_state"
  | .externalSideEffect => "external_side_effect"

def CancellationSemantics.value : CancellationSemantics → String
  | .cancellable => "cancellable"
  | .terminalOnly => "terminal_only"
  | .requiresReconciliation => "requires_reconciliation"

def dumpTexts (texts : List String) : JsonValue := .array (texts.map .string)

/-- `ceiling.model_dump(mode="json")`. -/
def DelegationCeiling.dump (ceiling : DelegationCeiling) : JsonValue :=
  .object
    [("allowed", .bool ceiling.allowed),
     ("allowed_task_kinds", dumpTexts (ceiling.allowedTaskKinds.map (·.value))),
     ("child_effect_ceiling", .string ceiling.childEffectCeiling.value),
     ("max_depth", .int ceiling.maxDepth)]

/-- `contract.model_dump(mode="json")`. -/
def TaskContract.dump (contract : TaskContract) : JsonValue :=
  .object
    [("cancellation_semantics", .string contract.cancellationSemantics.value),
     ("completion_predicate", .object contract.completionPredicate),
     ("contract_revision", .int contract.contractRevision),
     ("delegation_ceiling", contract.delegationCeiling.dump),
     ("desired_state", .object contract.desiredState),
     ("effect_ceiling", .string contract.effectCeiling.value),
     ("evidence_contract", .object contract.evidenceContract),
     ("on_behalf_of", .ofText? contract.onBehalfOf),
     ("output_contract", .object contract.outputContract),
     ("policy_revision", .string contract.policyRevision),
     ("principal", .string contract.principal),
     ("target_resources", dumpTexts contract.targetResources),
     ("task_contract_id", .string contract.taskContractId),
     ("task_kind", .string contract.taskKind.value),
     ("temporal_contract", .object contract.temporalContract)]

/-- A role with the fields that its dump reads beyond those the task store reads. -/
structure CanonicalRole extends RoleProfile where
  (stateModel plannerProfile : String)
  (skillScope seedSkillRefs mandatoryGuardRefs capabilityPreferences : List String := [])
  defaultExecutionProfile : ExecutionProfile
  delegationRules : List JsonObject := []

/-- `canonical_roles()`. -/
def canonicalRoles : List CanonicalRole :=
  [ { roleId := "DecisionRole"
      version := "1"
      acceptsTaskKinds := [.lookup, .retrieve]
      stateModel := "M4.LightweightContext"
      plannerProfile := "decision-v1"
      skillScope := ["reasoning"]
      defaultExecutionProfile := .direct },
    { roleId := "EnrichmentRole"
      version := "1"
      acceptsTaskKinds := [.enrichment]
      stateModel := "M3.EnrichmentState"
      plannerProfile := "enrichment-v1"
      skillScope := ["enrichment"]
      defaultExecutionProfile := .investigate
      delegationRules :=
        [[("allow_investigation", .bool false), ("allow_operator_children", .bool true)]] },
    { roleId := "InvestigationRole"
      version := "1"
      acceptsTaskKinds :=
        [.verifyVersionFix, .resolveConflict, .investigateRelation, .investigateIncident,
          .watchIncident, .assessNormativeApplicability, .observeLiveAsset]
      stateModel := "M4.InvestigationState"
      plannerProfile := "investigation-v1"
      skillScope := ["investigation"]
      defaultExecutionProfile := .investigate
      delegationRules :=
        [[("allow_child_execution", .bool true), ("allow_enrichment", .bool true)]] } ]

/-- `role.model_dump(mode="json")`. -/
def CanonicalRole.dump (role : CanonicalRole) : JsonValue :=
  .object
    [("accepts_task_kinds", dumpTexts (role.acceptsTaskKinds.map (·.value))),
     ("capability_preferences", dumpTexts role.capabilityPreferences),
     ("default_execution_profile", .string role.defaultExecutionProfile.value),
     ("delegation_rules", .array (role.delegationRules.map .object)),
     ("mandatory_guard_refs", dumpTexts role.mandatoryGuardRefs),
     ("planner_profile", .string role.plannerProfile),
     ("role_id", .string role.roleId),
     ("seed_skill_refs", dumpTexts role.seedSkillRefs),
     ("skill_scope", dumpTexts role.skillScope),
     ("state_model", .string role.stateModel),
     ("version", .string role.version)]

/-! ## Materializing -/

/-- `ContextMaterializer`. -/
structure ContextMaterializer where
  platformRevision : String
  platformInvariant : JsonObject
  revision_nonblank : isBlank platformRevision = false

/-- The arguments of `materialize`. -/
structure MaterializeCall where
  taskRunId : String
  dynamicFragments : List (MaterializedFragment hashing) := []
  disclosureFragments : List (MaterializedFragment hashing) := []
  ephemeralFragments : List (MaterializedFragment hashing) := []
  (runtimeDisclosureRefs perceptRefs : List String := [])
  (executionProfileRevision stateProjectionRevision : Option String := none)

/-- What `materialize` reads of the task run. -/
structure RunFacts where
  run : TaskRun
  contract : TaskContract
  manifest : ContextManifest
  role : CanonicalRole

/-- The reads at the head of `materialize`. -/
def runFacts (tasks : TaskStore) (taskRunId : String) : Except Raised RunFacts := do
  let run := taskRunView (← getRun tasks taskRunId)
  let contract ← getTaskContractForRun tasks taskRunId
  let manifest ← getTaskContext tasks taskRunId
  let mismatch := Raised.valueError
    ("unknown or mismatched RoleProfile: " ++ run.roleId ++ "@" ++ run.roleVersion)
  let role ← fetch (canonicalRoles.find? fun role => role.roleId = run.roleId) mismatch
  require (role.version = run.roleVersion) mismatch
  return { run, contract, manifest, role }

/-- `execution_profile_revision or f"{role.default_execution_profile.value}@1"`. -/
def resolvedProfileRevision (role : CanonicalRole) : Option String → String
  | none | some "" => role.defaultExecutionProfile.value ++ "@1"
  | some revision => revision

/-- `revision.partition("@")[0]`. -/
def profileOfRevision (revision : String) : String :=
  ((Text.partition '@' revision).map (·.1)).getD revision

def executionContextContent (facts : RunFacts) (profileRevision : String) : JsonValue :=
  .object
    [("budget_ref", .string facts.manifest.budgetRef),
     ("capability_envelope_ref", .string facts.manifest.capabilityEnvelopeRef),
     ("execution_envelope_ref", .string facts.run.executionEnvelopeRef),
     ("execution_profile", .string (profileOfRevision profileRevision)),
     ("execution_profile_revision", .string profileRevision),
     ("policy_context_ref", .string facts.manifest.policyContextRef)]

def referenceScopeContent (manifest : ContextManifest) : JsonValue :=
  .object
    [("enrichment_state_refs", dumpTexts manifest.enrichmentStateRefs),
     ("evidence_refs", dumpTexts manifest.evidenceRefs),
     ("experience_pattern_refs", dumpTexts manifest.experiencePatternRefs),
     ("investigation_state_ref", .ofText? manifest.investigationStateRef),
     ("knowledge_revision", match manifest.knowledgeRevision with
       | none => .null
       | some revision => .int revision),
     ("object_refs", dumpTexts manifest.objectRefs),
     ("relation_refs", dumpTexts manifest.relationRefs),
     ("skill_selection_refs", dumpTexts manifest.skillSelectionRefs),
     ("trajectory_checkpoint_ref", .ofText? manifest.trajectoryCheckpointRef)]

def builtinSpecs (materializer : ContextMaterializer) (facts : RunFacts)
    (profileRevision : String) : List FragmentSpec :=
  [ { kind := "platform_invariant"
      sourceRef := "platform-invariant"
      sourceRevision := materializer.platformRevision
      trustClass := .platformInvariant
      cacheClass := .static
      content := .object materializer.platformInvariant },
    { kind := "role_profile"
      sourceRef := "role:" ++ facts.role.roleId
      sourceRevision := facts.role.version
      trustClass := .runtimeControl
      cacheClass := .static
      content := facts.role.dump },
    { kind := "task_contract"
      sourceRef := "task-contract:" ++ facts.contract.taskContractId
      sourceRevision := toString facts.contract.contractRevision
      trustClass := .runtimeControl
      cacheClass := .taskStable
      content := facts.contract.dump },
    { kind := "execution_context"
      sourceRef := facts.run.executionEnvelopeRef
      sourceRevision := profileRevision
      trustClass := .runtimeControl
      cacheClass := .taskStable
      content := executionContextContent facts profileRevision },
    { kind := "context_reference_scope"
      sourceRef := "context:" ++ facts.manifest.contextId
      sourceRevision := toString facts.manifest.contextRevision
      trustClass := .evidenceReference
      cacheClass := .taskStable
      content := referenceScopeContent facts.manifest } ]

/-- `_validate_fragment_classes`. -/
def validateFragmentClasses (fragments : List (MaterializedFragment hashing))
    (expected : FragmentCacheClass) : Except Raised Unit :=
  fragments.forM fun fragment =>
    require (fragment.cacheClass = expected) (.valueError
      ("fragment " ++ fragment.fragmentId ++ " must use cache_class=" ++ expected.value))

/-- `_manifest_refs`. -/
def manifestRefs (manifest : ContextManifest) : List String :=
  [manifest.policyContextRef, manifest.capabilityEnvelopeRef, manifest.budgetRef] ++
    manifest.enrichmentStateRefs ++ manifest.evidenceRefs ++ manifest.objectRefs ++
    manifest.relationRefs ++ manifest.skillSelectionRefs ++ manifest.experiencePatternRefs ++
    ([manifest.caseRef, manifest.investigationStateRef,
      manifest.trajectoryCheckpointRef].filterMap id).filter (· ≠ "")

/-- What the caller discloses stays within the manifest and the scope of the runtime. -/
def checkDisclosure (call : MaterializeCall hashing) (manifest : ContextManifest) :
    Except Raised Unit :=
  (call.dynamicFragments ++ call.disclosureFragments).forM fun fragment =>
    require (fragment.sourceRef ∈ manifestRefs manifest ++ call.runtimeDisclosureRefs)
      (.valueError ("ContextMaterializer cannot expand ContextManifest/runtime disclosure scope: "
        ++ fragment.sourceRef))

/-- What `assembly_hash` is the hash of. -/
def assemblyIdentity (materializer : ContextMaterializer) (call : MaterializeCall hashing)
    (facts : RunFacts) (profileRevision refDigest : String) (orderedIds : List String) :
    JsonValue :=
  .object
    [("context_id", .string facts.manifest.contextId),
     ("context_revision", .int facts.manifest.contextRevision),
     ("execution_profile_revision", .string profileRevision),
     ("ordered_fragment_ids", dumpTexts orderedIds),
     ("percept_refs", dumpTexts (sortedSet call.perceptRefs)),
     ("platform_invariant_revision", .string materializer.platformRevision),
     ("policy_context_revision", .string facts.manifest.policyContextRef),
     ("ref_digest", .string refDigest),
     ("state_projection_revision", .ofText? call.stateProjectionRevision),
     ("task_run_id", .string call.taskRunId)]

/-- `cache_hints`. -/
def cacheHints (manifest : ContextManifest) (fragments : List (MaterializedFragment hashing)) :
    List String :=
  let stablePrefix := (fragments.filter fun fragment =>
    fragment.cacheClass = .static ∨ fragment.cacheClass = .taskStable).map (·.fragmentId)
  (manifest.cacheHint.filter (· ≠ "")).toList ++
    if stablePrefix = [] then [] else
      ["prefix:" ++ ofList ((hashing.digest (dumpTexts stablePrefix)).toList.take 32)]

/-- The assembly of some fragments, which stand in their order. -/
def assemblyOf (materializer : ContextMaterializer) (call : MaterializeCall hashing)
    (facts : RunFacts) (fragments : List (MaterializedFragment hashing)) :
    PromptAssembly hashing :=
  let profileRevision := resolvedProfileRevision facts.role call.executionProfileRevision
  let fragmentRefs := fragments.map (·.sourceRef)
  let refDigest := hashing.digest (dumpTexts (sortedSet fragmentRefs))
  let orderedIds := fragments.map (·.fragmentId)
  let assemblyHash := hashing.digest
    (assemblyIdentity hashing materializer call facts profileRevision refDigest orderedIds)
  { assemblyId := hashing.uuid5 ("secfusion:prompt-assembly:" ++ assemblyHash)
    executionId := facts.run.executionEnvelopeRef
    taskContractId := facts.contract.taskContractId
    taskRunId := call.taskRunId
    roleRevision := facts.role.roleId ++ "@" ++ facts.role.version
    contextManifestRevision := facts.manifest.contextRevision
    platformInvariantRevision := materializer.platformRevision
    executionProfileRevision := profileRevision
    policyContextRevision := facts.manifest.policyContextRef
    materializedSkillRefs := sortedSet ((call.disclosureFragments.map (·.sourceRef)).filter
      (· ∈ facts.manifest.skillSelectionRefs))
    materializedCapabilityViewRefs := sortedSet
      (((call.disclosureFragments ++ call.dynamicFragments).map (·.sourceRef)).filter fun ref =>
        ref ∈ call.runtimeDisclosureRefs ∧ ref ∉ facts.manifest.skillSelectionRefs)
    stateProjectionRevision := call.stateProjectionRevision
    perceptRefs := sortedSet call.perceptRefs
    materializedFragmentRefs := fragmentRefs
    materializedRefSetDigest := refDigest
    orderedFragmentIds := orderedIds
    cacheHandleHints := cacheHints hashing facts.manifest fragments
    assemblyHash
    fragments }

/-- The fragments that the caller gives, in the order in which they are joined. -/
def MaterializeCall.fragments {hashing : Hashing} (call : MaterializeCall hashing) :
    List (MaterializedFragment hashing) :=
  call.disclosureFragments ++ call.dynamicFragments ++ call.ephemeralFragments

/-- The five fragments that `materialize` builds for a call. -/
def builtinFragments (materializer : ContextMaterializer) (call : MaterializeCall hashing)
    (facts : RunFacts) : Except Raised (List (MaterializedFragment hashing)) :=
  (builtinSpecs materializer facts
    (resolvedProfileRevision facts.role call.executionProfileRevision)).mapM
    (MaterializedFragment.build hashing)

/-- `materialize`. -/
def materialize (materializer : ContextMaterializer) (tasks : TaskStore)
    (call : MaterializeCall hashing) : Except Raised (PromptAssembly hashing) := do
  let facts ← runFacts tasks call.taskRunId
  let builtins ← builtinFragments hashing materializer call facts
  validateFragmentClasses hashing call.dynamicFragments .stateDynamic
  validateFragmentClasses hashing call.disclosureFragments .taskStable
  validateFragmentClasses hashing call.ephemeralFragments .ephemeral
  checkDisclosure hashing call facts.manifest
  return assemblyOf hashing materializer call facts
    (orderedFragments hashing (builtins ++ call.fragments))

end Assemblies

end SecFusion.TaskRuntime
