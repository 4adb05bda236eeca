import SecFusion.TaskRuntime.Contracts

/-!
# Context manifests

The model of `packages/task_runtime/context/service.py`.  A manifest is refreshed, or
pinned to new coordinates; two manifests are compared and merged; and a gate says whether
a result that is based on one manifest still holds against another.

What is compared and merged is what three tuples of field names list, which are
enumerations here (`AuthorityField`, `StateField`, `ReferenceField`).
-/

namespace SecFusion.TaskRuntime

open Foundations

/-! ## Refreshing -/

/-- `ContextRefresh`. -/
structure ContextRefresh where
  contextRevision : ℕ
  knowledgeRevision : Option ℕ := none
  investigationStateRef : Option String := none
  (addEvidenceRefs addObjectRefs addRelationRefs addEnrichmentStateRefs : List String := [])
  (addSkillSelectionRefs addExperiencePatternRefs : List String := [])
  cacheHint : Option String := none
  revision_advanced : 2 ≤ contextRevision

/-- `_union_refs`. -/
def unionRefs (left right : List String) : List String := sortedSet (left ++ right)

/-- The refresh moves the revision of the knowledge base of the manifest back. -/
def MovesBack (manifest : ContextManifest) (knowledgeRevision : Option ℕ) : Prop :=
  ∃ old ∈ manifest.knowledgeRevision, ∃ new ∈ knowledgeRevision, new < old

instance movesBackDecidable (manifest : ContextManifest) (knowledgeRevision : Option ℕ) :
    Decidable (MovesBack manifest knowledgeRevision) :=
  inferInstanceAs (Decidable (∃ old ∈ manifest.knowledgeRevision, _))

/-- `refresh_context`. -/
def refreshContext (manifest : ContextManifest) (refresh : ContextRefresh) :
    Except Raised ContextManifest := do
  require (manifest.contextRevision < refresh.contextRevision)
    (.valueError "refreshed context revision must advance")
  let knowledgeRevision := refresh.knowledgeRevision.or manifest.knowledgeRevision
  require (¬ MovesBack manifest knowledgeRevision)
    (.valueError "knowledge_revision cannot move backwards during refresh")
  return { manifest with
    contextRevision := refresh.contextRevision
    knowledgeRevision
    investigationStateRef := refresh.investigationStateRef.or manifest.investigationStateRef
    evidenceRefs := unionRefs manifest.evidenceRefs refresh.addEvidenceRefs
    objectRefs := unionRefs manifest.objectRefs refresh.addObjectRefs
    relationRefs := unionRefs manifest.relationRefs refresh.addRelationRefs
    enrichmentStateRefs := unionRefs manifest.enrichmentStateRefs refresh.addEnrichmentStateRefs
    skillSelectionRefs := unionRefs manifest.skillSelectionRefs refresh.addSkillSelectionRefs
    experiencePatternRefs :=
      unionRefs manifest.experiencePatternRefs refresh.addExperiencePatternRefs
    cacheHint := refresh.cacheHint
    revision_pos := le_trans (by decide) refresh.revision_advanced }

/-- `pin_context`. -/
def pinContext (manifest : ContextManifest) (contextRevision knowledgeRevision : ℕ)
    (investigationStateRef : Option String) : Except Raised ContextManifest :=
  if advanced : 2 ≤ contextRevision then
    refreshContext manifest
      { contextRevision, knowledgeRevision := some knowledgeRevision, investigationStateRef
        cacheHint := manifest.cacheHint, revision_advanced := advanced }
  else .error (.valueError "1 validation error for ContextRefresh: context_revision")

/-! ## The fields -/

/-- `_AUTHORITY_FIELDS`. -/
inductive AuthorityField where
  | taskContractRef
  | roleRef
  | caseRef
  | policyContextRef
  | capabilityEnvelopeRef
  | budgetRef
  deriving DecidableEq

/-- `_STATE_SCALAR_FIELDS`. -/
inductive StateField where
  | knowledgeRevision
  | investigationStateRef
  | trajectoryCheckpointRef
  deriving DecidableEq

/-- `_REFERENCE_FIELDS`. -/
inductive ReferenceField where
  | enrichmentStateRefs
  | evidenceRefs
  | objectRefs
  | relationRefs
  | skillSelectionRefs
  | experiencePatternRefs
  deriving DecidableEq

inductive ScalarField where
  | authority (field : AuthorityField)
  | state (field : StateField)
  deriving DecidableEq

def authorityFields : List AuthorityField :=
  [.taskContractRef, .roleRef, .caseRef, .policyContextRef, .capabilityEnvelopeRef, .budgetRef]

def stateFields : List StateField :=
  [.knowledgeRevision, .investigationStateRef, .trajectoryCheckpointRef]

def referenceFields : List ReferenceField :=
  [.enrichmentStateRefs, .evidenceRefs, .objectRefs, .relationRefs, .skillSelectionRefs,
    .experiencePatternRefs]

/-- `(*_AUTHORITY_FIELDS, *_STATE_SCALAR_FIELDS)`. -/
def scalarFields : List ScalarField :=
  authorityFields.map .authority ++ stateFields.map .state

theorem mem_scalarFields (field : ScalarField) : field ∈ scalarFields := by
  rcases field with field | field <;> cases field <;> decide

theorem mem_referenceFields (field : ReferenceField) : field ∈ referenceFields := by
  cases field <;> decide

def AuthorityField.name : AuthorityField → String
  | .taskContractRef => "task_contract_ref"
  | .roleRef => "role_ref"
  | .caseRef => "case_ref"
  | .policyContextRef => "policy_context_ref"
  | .capabilityEnvelopeRef => "capability_envelope_ref"
  | .budgetRef => "budget_ref"

def StateField.name : StateField → String
  | .knowledgeRevision => "knowledge_revision"
  | .investigationStateRef => "investigation_state_ref"
  | .trajectoryCheckpointRef => "trajectory_checkpoint_ref"

def ScalarField.name : ScalarField → String
  | .authority field => field.name
  | .state field => field.name

def ReferenceField.name : ReferenceField → String
  | .enrichmentStateRefs => "enrichment_state_refs"
  | .evidenceRefs => "evidence_refs"
  | .objectRefs => "object_refs"
  | .relationRefs => "relation_refs"
  | .skillSelectionRefs => "skill_selection_refs"
  | .experiencePatternRefs => "experience_pattern_refs"

/-- `str | int | None`. -/
inductive ScalarValue where
  | missing
  | text (text : String)
  | number (number : ℕ)
  deriving DecidableEq

def ScalarValue.ofText? (value : Option String) : ScalarValue := (value.map .text).getD .missing

def ScalarValue.ofNumber? (value : Option ℕ) : ScalarValue := (value.map .number).getD .missing

/-- `getattr(manifest, field)`. -/
def AuthorityField.of (manifest : ContextManifest) : AuthorityField → ScalarValue
  | .taskContractRef => .text manifest.taskContractRef
  | .roleRef => .text manifest.roleRef
  | .caseRef => .ofText? manifest.caseRef
  | .policyContextRef => .text manifest.policyContextRef
  | .capabilityEnvelopeRef => .text manifest.capabilityEnvelopeRef
  | .budgetRef => .text manifest.budgetRef

/-- `getattr(manifest, field)`. -/
def StateField.of (manifest : ContextManifest) : StateField → ScalarValue
  | .knowledgeRevision => .ofNumber? manifest.knowledgeRevision
  | .investigationStateRef => .ofText? manifest.investigationStateRef
  | .trajectoryCheckpointRef => .ofText? manifest.trajectoryCheckpointRef

/-- `getattr(manifest, field)`. -/
def ScalarField.of (manifest : ContextManifest) : ScalarField → ScalarValue
  | .authority field => field.of manifest
  | .state field => field.of manifest

/-- `getattr(manifest, field)`. -/
def ReferenceField.of (manifest : ContextManifest) : ReferenceField → List String
  | .enrichmentStateRefs => manifest.enrichmentStateRefs
  | .evidenceRefs => manifest.evidenceRefs
  | .objectRefs => manifest.objectRefs
  | .relationRefs => manifest.relationRefs
  | .skillSelectionRefs => manifest.skillSelectionRefs
  | .experiencePatternRefs => manifest.experiencePatternRefs

/-! ## Comparing -/

structure ContextScalarChange where
  field : ScalarField
  (before after : ScalarValue)

structure ContextDelta where
  (baseRef currentRef : String)
  scalarChanges : List ContextScalarChange := []
  addedRefs : List (ReferenceField × List String) := []
  removedRefs : List (ReferenceField × List String) := []

def ContextDelta.isEmpty (delta : ContextDelta) : Bool :=
  delta.scalarChanges.isEmpty && delta.addedRefs.isEmpty && delta.removedRefs.isEmpty

/-- `_context_ref`. -/
def contextRef (manifest : ContextManifest) : String :=
  manifest.contextId ++ "@" ++ toString manifest.contextRevision

/-- One round of the first loop of `diff_contexts`. -/
def scalarChange? (base current : ContextManifest) (field : ScalarField) :
    Option ContextScalarChange :=
  if field.of base ≠ field.of current then some ⟨field, field.of base, field.of current⟩ else none

/-- The references of a field that `after` has and `before` has not, if there are some. -/
def gainedRefs? (before after : ContextManifest) (field : ReferenceField) :
    Option (ReferenceField × List String) :=
  match sortedSet ((field.of after).filter (· ∉ field.of before)) with
  | [] => none
  | ref :: refs => some (field, ref :: refs)

/-- `diff_contexts`. -/
def diffContexts (base current : ContextManifest) : ContextDelta where
  baseRef := contextRef base
  currentRef := contextRef current
  scalarChanges := scalarFields.filterMap (scalarChange? base current)
  addedRefs := referenceFields.filterMap (gainedRefs? base current)
  removedRefs := referenceFields.filterMap (gainedRefs? current base)

/-! ## Merging -/

/-- The manifest of a merge: a copy of the left one, with the references of both. -/
def mergedManifest (left right : ContextManifest) (contextId : String) (contextRevision : ℕ)
    (positive : 1 ≤ contextRevision) : ContextManifest :=
  { left with
    contextId
    contextRevision
    parentContextId := some left.contextId
    enrichmentStateRefs := unionRefs left.enrichmentStateRefs right.enrichmentStateRefs
    evidenceRefs := unionRefs left.evidenceRefs right.evidenceRefs
    objectRefs := unionRefs left.objectRefs right.objectRefs
    relationRefs := unionRefs left.relationRefs right.relationRefs
    skillSelectionRefs := unionRefs left.skillSelectionRefs right.skillSelectionRefs
    experiencePatternRefs := unionRefs left.experiencePatternRefs right.experiencePatternRefs
    cacheHint := none
    revision_pos := positive }

/-- `merge_contexts`. -/
def mergeContexts (left right : ContextManifest) (contextId : String) (contextRevision : ℕ) :
    Except Raised ContextManifest := do
  scalarFields.forM fun field => require (field.of left = field.of right)
    (.valueError ("cannot merge contexts with different " ++ field.name))
  if positive : 1 ≤ contextRevision then
    return mergedManifest left right contextId contextRevision positive
  else .error (.valueError "context_revision must be positive")

/-! ## The gate -/

structure ContextDependencySet where
  (knowledgeRevision investigationStateRef : Bool := true)
  trajectoryCheckpointRef : Bool := false
  (evidenceRefs objectRefs relationRefs enrichmentStateRefs skillSelectionRefs : List String := [])
  experiencePatternRefs : List String := []

/-- `getattr(dependencies, field)`. -/
def StateField.dependedOn (dependencies : ContextDependencySet) : StateField → Bool
  | .knowledgeRevision => dependencies.knowledgeRevision
  | .investigationStateRef => dependencies.investigationStateRef
  | .trajectoryCheckpointRef => dependencies.trajectoryCheckpointRef

/-- `getattr(dependencies, field)`. -/
def ReferenceField.dependedOn (dependencies : ContextDependencySet) : ReferenceField → List String
  | .enrichmentStateRefs => dependencies.enrichmentStateRefs
  | .evidenceRefs => dependencies.evidenceRefs
  | .objectRefs => dependencies.objectRefs
  | .relationRefs => dependencies.relationRefs
  | .skillSelectionRefs => dependencies.skillSelectionRefs
  | .experiencePatternRefs => dependencies.experiencePatternRefs

structure ContextResultProvenance where
  basedOnContextId : String
  basedOnContextRevision : ℕ
  dependencies : ContextDependencySet := {}
  revision_pos : 1 ≤ basedOnContextRevision

inductive ContextCompatibilityStatus where
  | valid
  | rebaseRequired
  | stale
  | conflict
  deriving DecidableEq

structure ContextCompatibility where
  status : ContextCompatibilityStatus
  reasons : List String := []
  delta : ContextDelta

/-- `field in scalar_map`. -/
def ContextDelta.Changes (delta : ContextDelta) (field : ScalarField) : Prop :=
  ∃ change ∈ delta.scalarChanges, change.field = field

instance changesDecidable (delta : ContextDelta) (field : ScalarField) :
    Decidable (delta.Changes field) :=
  inferInstanceAs (Decidable (∃ change ∈ delta.scalarChanges, _))

/-- `delta.removed_refs.get(field, [])`. -/
def ContextDelta.removedOf (delta : ContextDelta) (field : ReferenceField) : List String :=
  ((delta.removedRefs.find? fun entry => entry.1 = field).map (·.2)).getD []

/-- `authority_changed`. -/
def authorityChanged (delta : ContextDelta) : List String :=
  sortedSet
    ((authorityFields.filter fun field => delta.Changes (.authority field)).map (·.name))

/-- The reason for which a change of the field makes a result stale. -/
def StateField.reason : StateField → String
  | .knowledgeRevision => "knowledge_revision_changed"
  | .investigationStateRef => "investigation_state_changed"
  | .trajectoryCheckpointRef => "trajectory_checkpoint_changed"

def staleScalars (delta : ContextDelta) (dependencies : ContextDependencySet) : List String :=
  (stateFields.filter fun field =>
    field.dependedOn dependencies && decide (delta.Changes (.state field))).map (·.reason)

/-- One round of the loop over `_REFERENCE_FIELDS`. -/
def removedReason? (delta : ContextDelta) (dependencies : ContextDependencySet)
    (field : ReferenceField) : Option String :=
  (sortedSet ((field.dependedOn dependencies).filter (· ∈ delta.removedOf field))).head?.map
    fun ref => "dependency_removed:" ++ field.name ++ ":" ++ ref

def removedReasons (delta : ContextDelta) (dependencies : ContextDependencySet) : List String :=
  referenceFields.filterMap (removedReason? delta dependencies)

/-- What the gate says of a manifest that the context has advanced to. -/
def judgeAdvance (delta : ContextDelta) (dependencies : ContextDependencySet) :
    ContextCompatibility :=
  let reasons := staleScalars delta dependencies ++ removedReasons delta dependencies
  if authorityChanged delta ≠ [] then
    ⟨.conflict, (authorityChanged delta).map ("authority_context_changed:" ++ ·), delta⟩
  else if reasons ≠ [] then ⟨.stale, reasons, delta⟩
  else if delta.isEmpty then ⟨.valid, ["revision_changed_without_semantic_delta"], delta⟩
  else ⟨.rebaseRequired, ["context_advanced_without_invalidating_dependencies"], delta⟩

/-- `ContextRevisionGate.evaluate`. -/
def evaluateRevision (base current : ContextManifest) (result : ContextResultProvenance) :
    ContextCompatibility :=
  let delta := diffContexts base current
  if result.basedOnContextId ≠ base.contextId then
    ⟨.conflict, ["result_context_id_mismatch"], delta⟩
  else if result.basedOnContextRevision ≠ base.contextRevision then
    ⟨.conflict, ["result_context_revision_mismatch"], delta⟩
  else if current.contextId ≠ base.contextId then
    ⟨.conflict, ["current_context_lineage_changed"], delta⟩
  else if current.contextRevision < base.contextRevision then
    ⟨.conflict, ["current_context_revision_regressed"], delta⟩
  else if current.contextRevision = base.contextRevision ∧ delta.isEmpty = false then
    ⟨.conflict, ["immutable_revision_content_mismatch"], delta⟩
  else if current.contextRevision = base.contextRevision then ⟨.valid, [], delta⟩
  else judgeAdvance delta result.dependencies

end SecFusion.TaskRuntime
