import SecFusion.Foundations.Grouping
import SecFusion.Foundations.Json
import SecFusion.Foundations.Text

/-!
# The state of an enrichment dimension

The model of `_evaluate_requirement` in `packages/enrichment/runtime/state.py`: from the
accepted claims, relations, identifiers and attempts of a target, the status of one dimension
and the references that support it.

The status is a statement about the rows as a set.  Rows conflict when two of one group differ
(`Foundations.disagreeing`), the group being the predicate of a claim, or the target and the
scope of a known applicability state; a relation whose state is explicitly unknown is in no
group and is no fact.  So the order of the rows does not matter, and rows that are added leave
a conflict a conflict.

A value and a scope stand for their canonical texts: `9` and `9.0` are two values.  Which terms
belong to a dimension (`requirements_for`) is left to the requirement.
-/

namespace SecFusion.Enrichment

open Foundations

/-- `EnrichmentDimension` of the vocabulary. -/
inductive EnrichmentDimension where
  | identity
  | severity
  | weakness
  | productPackage
  | versionApplicability
  | fixRemediation
  | exploitState
  | exploitLikelihood
  | advisoryReference
  | assetExposure
  | researchPaper
  | incidentContext
  deriving DecidableEq

inductive EnrichmentStatus where
  | resolved
  | conflict
  | unknown
  | missing
  deriving DecidableEq

inductive EnrichmentAttemptStatus where
  | succeeded
  | blocked
  | failed
  deriving DecidableEq

inductive EnrichmentSemanticOutcome where
  | resolved
  | unknown
  | noChange
  deriving DecidableEq

/-- The fields of the specification that the evaluation reads. -/
structure EnrichmentDimensionSpec where
  requirementId : String
  dimension : EnrichmentDimension
  canonicalTerms : List String

structure ObjectModel where
  (objectId objectType canonicalKey : String)

structure ClaimModel where
  (claimId predicate : String)
  value : JsonValue
  qualifier : JsonObject

structure RelationModel where
  (relationId sourceObjectId relationType targetObjectId : String)
  qualifier : JsonObject

structure ExternalIdentifierModel where
  externalIdentifierId : String
  deriving DecidableEq

structure EnrichmentAttemptModel where
  (attemptId requirementId operatorId : String)
  executionStatus : EnrichmentAttemptStatus
  semanticOutcome : Option EnrichmentSemanticOutcome := none

structure EnrichmentDimensionState where
  (targetObjectId targetObjectType targetObjectKey requirementId : String)
  vocabularyRevision : String := "enrichment-v1"
  dimension : EnrichmentDimension
  status : EnrichmentStatus
  (acceptedFactRefs conflictRefs missingPrerequisites attemptedOperatorRefs : List String := [])
  blockedAttemptRefs : List String := []
  worldRevision : ℕ

/-- What is known of a target: the rows `_evaluate_requirement` is given. -/
structure TargetFacts where
  claims : List ClaimModel := []
  (outgoing incoming : List RelationModel := [])
  identifiers : List ExternalIdentifierModel := []
  attempts : List EnrichmentAttemptModel := []

/-! ## The evaluation -/

/-- The test `qualifier.get("vocabulary_scope") == "canonical"`. -/
def isCanonical (qualifier : JsonObject) : Bool :=
  JsonObject.get? qualifier "vocabulary_scope" = some (.string "canonical")

/-- `_relation_matches_target`. -/
def relationMatchesTarget (relation : RelationModel) (targetObjectId : String) : Bool :=
  relation.sourceObjectId = targetObjectId ∨ relation.targetObjectId = targetObjectId

/-- The fields of a qualifier that do not narrow what a state applies to. -/
def ignored : List String :=
  ["state", "source_id", "source_semantics", "source_status", "csaf_status", "status_changes",
    "default_inferred", "justification", "vocabulary_revision", "vocabulary_scope"]

/-- `_applicability_scope_key`. -/
def applicabilityScopeKey (qualifier : JsonObject) : JsonObject :=
  qualifier.filter fun field => field.1 ∉ ignored

/-- The state of an applicability relation, where it is a text other than `"unknown"`. -/
def knownState? (relation : RelationModel) : Option String :=
  if relation.relationType = "applicability-status" then
    (JsonObject.text? relation.qualifier "state").filter (· ≠ "unknown")
  else none

/-- `_claim_conflicts`, in the order of the rows: the caller sorts the references. -/
def claimConflicts (claims : List ClaimModel) : List String :=
  (disagreeing (·.predicate) (·.value) claims).map fun claim => "claim:" ++ claim.claimId

/-- The applicability relations of a known state, each with its state. -/
def knownStates (relations : List RelationModel) : List (RelationModel × String) :=
  relations.filterMap fun relation => (knownState? relation).map fun state => (relation, state)

/-- `_relation_conflicts`, in the order of the rows. -/
def relationConflicts (relations : List RelationModel) : List String :=
  (disagreeing (fun known => (known.1.targetObjectId, applicabilityScopeKey known.1.qualifier))
    (·.2) (knownStates relations)).map fun known => "relation:" ++ known.1.relationId

/-- An applicability relation that says the state is unknown. -/
def explicitUnknown (relation : RelationModel) : Bool :=
  relation.relationType = "applicability-status" ∧
    JsonObject.get? relation.qualifier "state" = some (.string "unknown")

section Requirement

variable (requirement : EnrichmentDimensionSpec) (target : ObjectModel) (facts : TargetFacts)

def relevantClaims : List ClaimModel :=
  facts.claims.filter fun item =>
    item.predicate ∈ requirement.canonicalTerms ∧ isCanonical item.qualifier

def relevantRelations : List RelationModel :=
  (facts.outgoing ++ facts.incoming).filter fun item =>
    item.relationType ∈ requirement.canonicalTerms ∧ isCanonical item.qualifier ∧
      relationMatchesTarget item target.objectId

def concreteRelations : List RelationModel :=
  (relevantRelations requirement target facts).filter fun relation => !explicitUnknown relation

def requirementAttempts : List EnrichmentAttemptModel :=
  facts.attempts.filter fun item => item.requirementId = requirement.requirementId

/-- `fact_refs`. -/
def factRefs : List String :=
  (if requirement.dimension = .identity then
    facts.identifiers.map fun item => "identifier:" ++ item.externalIdentifierId
  else []) ++
  (relevantClaims requirement facts).map (fun item => "claim:" ++ item.claimId) ++
  (concreteRelations requirement target facts).map fun item => "relation:" ++ item.relationId

/-- `conflict_refs`. -/
def conflictRefs : List String :=
  claimConflicts (relevantClaims requirement facts) ++
    relationConflicts (relevantRelations requirement target facts)

/-- `explicit_unknown`: a relation says so, or an attempt that succeeded found nothing. -/
def declaredUnknown : Bool :=
  (relevantRelations requirement target facts).any explicitUnknown ||
    (requirementAttempts requirement facts).any fun item =>
      item.executionStatus = .succeeded ∧ item.semanticOutcome = some .unknown

def statusOf : EnrichmentStatus :=
  if conflictRefs requirement target facts ≠ [] then .conflict
  else if factRefs requirement target facts ≠ [] then .resolved
  else if declaredUnknown requirement target facts then .unknown
  else .missing

/-- `_evaluate_requirement`. -/
def evaluateRequirement (worldRevision : ℕ) : EnrichmentDimensionState where
  targetObjectId := target.objectId
  targetObjectType := target.objectType
  targetObjectKey := target.canonicalKey
  requirementId := requirement.requirementId
  dimension := requirement.dimension
  status := statusOf requirement target facts
  acceptedFactRefs := sortedSet (factRefs requirement target facts)
  conflictRefs := sortedSet (conflictRefs requirement target facts)
  missingPrerequisites :=
    if statusOf requirement target facts ≠ .missing then [] else ["canonical_fact"]
  attemptedOperatorRefs :=
    sortedSet ((requirementAttempts requirement facts).map (·.operatorId))
  blockedAttemptRefs :=
    (((requirementAttempts requirement facts).filter (·.executionStatus = .blocked)).map
      (·.attemptId)).insertionSort (· ≤ ·)
  worldRevision := worldRevision

end Requirement

/-! ## The order of the rows -/

/-- The same rows in another order. -/
structure TargetFacts.Reordered (facts others : TargetFacts) : Prop where
  claims : facts.claims.Perm others.claims
  outgoing : facts.outgoing.Perm others.outgoing
  incoming : facts.incoming.Perm others.incoming
  identifiers : facts.identifiers.Perm others.identifiers
  attempts : facts.attempts.Perm others.attempts

/-- Every claim and relation is among the others; identifiers and attempts are free. -/
structure TargetFacts.Within (facts others : TargetFacts) : Prop where
  claims : facts.claims ⊆ others.claims
  outgoing : facts.outgoing ⊆ others.outgoing
  incoming : facts.incoming ⊆ others.incoming

section Rows

variable {requirement : EnrichmentDimensionSpec} {target : ObjectModel}
  {facts others : TargetFacts}

theorem TargetFacts.Reordered.within (same : facts.Reordered others) : facts.Within others where
  claims := same.claims.subset
  outgoing := same.outgoing.subset
  incoming := same.incoming.subset

theorem TargetFacts.Reordered.symm (same : facts.Reordered others) : others.Reordered facts where
  claims := same.claims.symm
  outgoing := same.outgoing.symm
  incoming := same.incoming.symm
  identifiers := same.identifiers.symm
  attempts := same.attempts.symm

theorem relevantClaims_subset (within : facts.Within others) :
    relevantClaims requirement facts ⊆ relevantClaims requirement others :=
  List.filter_subset _ within.claims

theorem relevantRelations_subset (within : facts.Within others) :
    relevantRelations requirement target facts ⊆ relevantRelations requirement target others := by
  refine List.filter_subset _ fun relation member => ?_
  rcases List.mem_append.1 member with sent | received
  · exact List.mem_append_left _ (within.outgoing sent)
  · exact List.mem_append_right _ (within.incoming received)

/-- More rows, more conflicts. -/
theorem conflictRefs_subset (within : facts.Within others) :
    conflictRefs requirement target facts ⊆ conflictRefs requirement target others := by
  intro reference member
  rcases List.mem_append.1 member with ofClaims | ofRelations
  · refine List.mem_append_left _ (List.map_subset _ ?_ ofClaims)
    exact disagreeing_subset (relevantClaims_subset within)
  · refine List.mem_append_right _ (List.map_subset _ ?_ ofRelations)
    exact disagreeing_subset (List.filterMap_subset _ (relevantRelations_subset within))

/-- The same rows, the same facts. -/
theorem factRefs_subset (same : facts.Reordered others) :
    factRefs requirement target facts ⊆ factRefs requirement target others := by
  intro reference member
  simp only [factRefs, List.mem_append] at member ⊢
  refine member.imp (Or.imp ?_ ?_) ?_
  · split
    · exact fun identified => (List.map_subset _ same.identifiers.subset) identified
    · exact id
  · exact fun claimed => List.map_subset _ (relevantClaims_subset same.within) claimed
  · exact fun related => List.map_subset _
      (List.filter_subset _ (relevantRelations_subset same.within)) related

theorem requirementAttempts_perm (same : facts.Reordered others) :
    (requirementAttempts requirement facts).Perm (requirementAttempts requirement others) :=
  same.attempts.filter _

theorem declaredUnknown_of_reordered (same : facts.Reordered others)
    (declared : declaredUnknown requirement target facts = true) :
    declaredUnknown requirement target others = true := by
  rw [declaredUnknown, Bool.or_eq_true, List.any_eq_true, List.any_eq_true] at declared ⊢
  refine declared.imp ?_ ?_
  · rintro ⟨relation, member, unknown⟩
    exact ⟨relation, relevantRelations_subset same.within member, unknown⟩
  · rintro ⟨attempt, member, unknown⟩
    exact ⟨attempt, (requirementAttempts_perm same).subset member, unknown⟩

/-- Lists of the same elements are empty together. -/
theorem eq_nil_iff_of_subset {α : Type*} {left right : List α} (there : left ⊆ right)
    (back : right ⊆ left) : left = [] ↔ right = [] := by
  constructor
  · rintro rfl
    exact List.subset_nil.1 back
  · rintro rfl
    exact List.subset_nil.1 there

theorem statusOf_eq_of_reordered (same : facts.Reordered others) :
    statusOf requirement target facts = statusOf requirement target others := by
  have conflicts : conflictRefs requirement target facts = [] ↔
      conflictRefs requirement target others = [] :=
    eq_nil_iff_of_subset (conflictRefs_subset same.within) (conflictRefs_subset same.symm.within)
  have accepted : factRefs requirement target facts = [] ↔
      factRefs requirement target others = [] :=
    eq_nil_iff_of_subset (factRefs_subset same) (factRefs_subset same.symm)
  have declared : declaredUnknown requirement target facts =
      declaredUnknown requirement target others :=
    Bool.eq_iff_iff.2 ⟨declaredUnknown_of_reordered same, declaredUnknown_of_reordered same.symm⟩
  simp only [statusOf, ne_eq, conflicts, accepted, declared]

/-- The whole state is a function of the rows as a set. -/
theorem evaluateRequirement_eq_of_reordered (same : facts.Reordered others)
    (worldRevision : ℕ) :
    evaluateRequirement requirement target facts worldRevision =
      evaluateRequirement requirement target others worldRevision := by
  have accepted : sortedSet (factRefs requirement target facts) =
      sortedSet (factRefs requirement target others) :=
    sortedSet_eq_of_mem_iff fun _ =>
      ⟨fun member => factRefs_subset same member, fun member => factRefs_subset same.symm member⟩
  have conflicts : sortedSet (conflictRefs requirement target facts) =
      sortedSet (conflictRefs requirement target others) :=
    sortedSet_eq_of_mem_iff fun _ =>
      ⟨fun member => conflictRefs_subset same.within member,
        fun member => conflictRefs_subset same.symm.within member⟩
  have operators : sortedSet ((requirementAttempts requirement facts).map (·.operatorId)) =
      sortedSet ((requirementAttempts requirement others).map (·.operatorId)) :=
    sortedSet_eq_of_mem_iff fun _ => ((requirementAttempts_perm same).map _).mem_iff
  -- the blocked attempts are a sorted list, not a set: a permutation is what sorting forgets
  have blocked : (((requirementAttempts requirement facts).filter
        (·.executionStatus = .blocked)).map (·.attemptId)).insertionSort (· ≤ ·) =
      (((requirementAttempts requirement others).filter
        (·.executionStatus = .blocked)).map (·.attemptId)).insertionSort (· ≤ ·) :=
    insertionSort_eq_of_perm (((requirementAttempts_perm same).filter _).map _)
      fun _ _ _ _ below above => le_antisymm below above
  simp only [evaluateRequirement, statusOf_eq_of_reordered same, accepted, conflicts, operators,
    blocked]

end Rows

/-! ## What a status says -/

section Statuses

variable (requirement : EnrichmentDimensionSpec) (target : ObjectModel) (facts : TargetFacts)

/-- A canonical claim of the dimension. -/
structure ClaimOf (claim : ClaimModel) : Prop where
  listed : claim ∈ facts.claims
  term : claim.predicate ∈ requirement.canonicalTerms
  canonical : isCanonical claim.qualifier = true

/-- A canonical relation of the dimension, seen from either end. -/
structure RelationOf (relation : RelationModel) : Prop where
  listed : relation ∈ facts.outgoing ∨ relation ∈ facts.incoming
  term : relation.relationType ∈ requirement.canonicalTerms
  canonical : isCanonical relation.qualifier = true
  touches : relation.sourceObjectId = target.objectId ∨ relation.targetObjectId = target.objectId

/-- Two claims of one predicate differ in value. -/
def ClaimsDiffer : Prop :=
  ∃ first, ClaimOf requirement facts first ∧ ∃ second, ClaimOf requirement facts second ∧
    first.predicate = second.predicate ∧ first.value ≠ second.value

/-- Two known applicability states disagree for the same target and scope. -/
def StatesDisagree : Prop :=
  ∃ first, RelationOf requirement target facts first ∧
    ∃ second, RelationOf requirement target facts second ∧
      ∃ state other, knownState? first = some state ∧ knownState? second = some other ∧
        first.targetObjectId = second.targetObjectId ∧
        applicabilityScopeKey first.qualifier = applicabilityScopeKey second.qualifier ∧
        state ≠ other

/-- Something disagrees. -/
def Conflicting : Prop := ClaimsDiffer requirement facts ∨ StatesDisagree requirement target facts

/-- Some row is a fact: an identifier of the identity dimension, a claim, or a relation that does
not say its state is unknown. -/
def HasConcreteFact : Prop :=
  (requirement.dimension = .identity ∧ ∃ item, item ∈ facts.identifiers) ∨
    (∃ claim, ClaimOf requirement facts claim) ∨
    ∃ relation, RelationOf requirement target facts relation ∧ explicitUnknown relation = false

/-- A relation or a successful attempt says that the answer is not known. -/
def DeclaresUnknown : Prop :=
  (∃ relation, RelationOf requirement target facts relation ∧ explicitUnknown relation = true) ∨
    ∃ attempt ∈ facts.attempts, attempt.requirementId = requirement.requirementId ∧
      attempt.executionStatus = .succeeded ∧ attempt.semanticOutcome = some .unknown

variable {requirement target facts}

theorem mem_relevantClaims {claim : ClaimModel} :
    claim ∈ relevantClaims requirement facts ↔ ClaimOf requirement facts claim := by
  rw [relevantClaims, List.mem_filter, decide_eq_true_eq]
  exact ⟨fun ⟨listed, term, canonical⟩ => ⟨listed, term, canonical⟩,
    fun ⟨listed, term, canonical⟩ => ⟨listed, term, canonical⟩⟩

theorem mem_relevantRelations {relation : RelationModel} :
    relation ∈ relevantRelations requirement target facts ↔
      RelationOf requirement target facts relation := by
  rw [relevantRelations, List.mem_filter, List.mem_append, decide_eq_true_eq,
    relationMatchesTarget, decide_eq_true_eq]
  exact ⟨fun ⟨listed, term, canonical, touches⟩ => ⟨listed, term, canonical, touches⟩,
    fun ⟨listed, term, canonical, touches⟩ => ⟨listed, term, canonical, touches⟩⟩

theorem mem_knownStates {relations : List RelationModel} {relation : RelationModel}
    {state : String} :
    (relation, state) ∈ knownStates relations ↔
      relation ∈ relations ∧ knownState? relation = some state := by
  simp only [knownStates, List.mem_filterMap, Option.map_eq_some_iff, Prod.mk.injEq]
  constructor
  · rintro ⟨found, listed, known, isState, rfl, rfl⟩
    exact ⟨listed, isState⟩
  · rintro ⟨listed, isState⟩
    exact ⟨relation, listed, state, isState, rfl, rfl⟩

theorem claimConflicts_ne_nil_iff :
    claimConflicts (relevantClaims requirement facts) ≠ [] ↔ ClaimsDiffer requirement facts := by
  rw [claimConflicts, ne_eq, List.map_eq_nil_iff, ← ne_eq, disagreeing_ne_nil_iff]
  simp only [mem_relevantClaims, ClaimsDiffer]

theorem relationConflicts_ne_nil_iff :
    relationConflicts (relevantRelations requirement target facts) ≠ [] ↔
      StatesDisagree requirement target facts := by
  rw [relationConflicts, ne_eq, List.map_eq_nil_iff, ← ne_eq, disagreeing_ne_nil_iff]
  constructor
  · rintro ⟨⟨first, state⟩, known, ⟨second, other⟩, alsoKnown, sameKey, differ⟩
    obtain ⟨listed, isState⟩ := mem_knownStates.1 known
    obtain ⟨alsoListed, isOther⟩ := mem_knownStates.1 alsoKnown
    obtain ⟨sameTarget, sameScope⟩ := Prod.mk.inj sameKey
    exact ⟨first, mem_relevantRelations.1 listed, second, mem_relevantRelations.1 alsoListed,
      state, other, isState, isOther, sameTarget, sameScope, differ⟩
  · rintro ⟨first, listed, second, alsoListed, state, other, isState, isOther, sameTarget,
      sameScope, differ⟩
    exact ⟨(first, state), mem_knownStates.2 ⟨mem_relevantRelations.2 listed, isState⟩,
      (second, other), mem_knownStates.2 ⟨mem_relevantRelations.2 alsoListed, isOther⟩,
      Prod.ext sameTarget sameScope, differ⟩

theorem conflictRefs_ne_nil_iff :
    conflictRefs requirement target facts ≠ [] ↔ Conflicting requirement target facts := by
  rw [conflictRefs, ne_eq, List.append_eq_nil_iff, not_and_or]
  exact or_congr claimConflicts_ne_nil_iff relationConflicts_ne_nil_iff

theorem factRefs_ne_nil_iff :
    factRefs requirement target facts ≠ [] ↔ HasConcreteFact requirement target facts := by
  rw [factRefs, ne_eq, List.append_eq_nil_iff, List.append_eq_nil_iff, not_and_or, not_and_or,
    or_assoc, List.map_eq_nil_iff, List.map_eq_nil_iff]
  refine or_congr ?_ (or_congr ?_ ?_)
  · by_cases identifies : requirement.dimension = .identity
    · simp [identifies, List.eq_nil_iff_forall_not_mem]
    · simp [identifies]
  · simp [List.eq_nil_iff_forall_not_mem, mem_relevantClaims]
  · simp [List.eq_nil_iff_forall_not_mem, concreteRelations, mem_relevantRelations]

theorem declaredUnknown_iff :
    declaredUnknown requirement target facts = true ↔
      DeclaresUnknown requirement target facts := by
  simp [declaredUnknown, requirementAttempts, mem_relevantRelations, DeclaresUnknown]

theorem statusOf_eq_conflict_iff :
    statusOf requirement target facts = .conflict ↔ Conflicting requirement target facts := by
  rw [← conflictRefs_ne_nil_iff, statusOf]
  split_ifs with conflicting <;> simp [conflicting]

theorem statusOf_eq_resolved_iff :
    statusOf requirement target facts = .resolved ↔
      ¬ Conflicting requirement target facts ∧ HasConcreteFact requirement target facts := by
  rw [← conflictRefs_ne_nil_iff, ← factRefs_ne_nil_iff, statusOf]
  split_ifs with conflicting accepted <;> simp [*]

theorem statusOf_eq_unknown_iff :
    statusOf requirement target facts = .unknown ↔
      ¬ Conflicting requirement target facts ∧ ¬ HasConcreteFact requirement target facts ∧
        DeclaresUnknown requirement target facts := by
  rw [← conflictRefs_ne_nil_iff, ← factRefs_ne_nil_iff, ← declaredUnknown_iff, statusOf]
  split_ifs with conflicting accepted declared <;> simp [*]

theorem statusOf_eq_missing_iff :
    statusOf requirement target facts = .missing ↔
      ¬ Conflicting requirement target facts ∧ ¬ HasConcreteFact requirement target facts ∧
        ¬ DeclaresUnknown requirement target facts := by
  rw [← conflictRefs_ne_nil_iff, ← factRefs_ne_nil_iff, ← declaredUnknown_iff, statusOf]
  split_ifs with conflicting accepted declared <;> simp [*]

/-- The status of a dimension is what its rows say as a set: in any order the state is the same,
a conflict is two rows that disagree, a fact without a conflict resolves, an answer declared
unknown or missing is what is left, and added rows leave a conflict a conflict. -/
theorem dimension_status (requirement : EnrichmentDimensionSpec) (target : ObjectModel)
    (worldRevision : ℕ) (facts : TargetFacts) :
    (∀ others, facts.Reordered others →
      evaluateRequirement requirement target others worldRevision =
        evaluateRequirement requirement target facts worldRevision) ∧
    ((evaluateRequirement requirement target facts worldRevision).status = .conflict ↔
      ClaimsDiffer requirement facts ∨ StatesDisagree requirement target facts) ∧
    ((evaluateRequirement requirement target facts worldRevision).status = .resolved ↔
      ¬ (ClaimsDiffer requirement facts ∨ StatesDisagree requirement target facts) ∧
        HasConcreteFact requirement target facts) ∧
    ((evaluateRequirement requirement target facts worldRevision).status = .unknown ↔
      ¬ (ClaimsDiffer requirement facts ∨ StatesDisagree requirement target facts) ∧
        ¬ HasConcreteFact requirement target facts ∧
        DeclaresUnknown requirement target facts) ∧
    ((evaluateRequirement requirement target facts worldRevision).status = .missing ↔
      ¬ (ClaimsDiffer requirement facts ∨ StatesDisagree requirement target facts) ∧
        ¬ HasConcreteFact requirement target facts ∧
        ¬ DeclaresUnknown requirement target facts) ∧
    (∀ others, facts.Within others →
      (evaluateRequirement requirement target facts worldRevision).status = .conflict →
      (evaluateRequirement requirement target others worldRevision).status = .conflict) := by
  refine ⟨fun others same => (evaluateRequirement_eq_of_reordered same worldRevision).symm,
    statusOf_eq_conflict_iff, statusOf_eq_resolved_iff, statusOf_eq_unknown_iff,
    statusOf_eq_missing_iff, fun others within conflicting => ?_⟩
  -- a conflict is a reference, and the reference is still one among more rows
  show statusOf requirement target others = .conflict
  rw [statusOf_eq_conflict_iff, ← conflictRefs_ne_nil_iff]
  have conflicts := conflictRefs_ne_nil_iff.2 (statusOf_eq_conflict_iff.1 conflicting)
  obtain ⟨reference, member⟩ := List.exists_mem_of_ne_nil _ conflicts
  exact List.ne_nil_of_mem (conflictRefs_subset within member)

/-- Two scores of one vulnerability conflict in either order, and under a third. -/
theorem dimension_status_scores :
    let requirement : EnrichmentDimensionSpec :=
      ⟨"enrichment-v1:Vulnerability:severity", .severity, ["cvss_score"]⟩
    let target : ObjectModel := ⟨"o", "Vulnerability", "CVE-2026-1"⟩
    let score (claimId : String) (value : ℤ) : ClaimModel :=
      ⟨claimId, "cvss_score", .int value, [("vocabulary_scope", .string "canonical")]⟩
    evaluateRequirement requirement target { claims := [score "b" 7, score "a" 9] } 1 =
        evaluateRequirement requirement target { claims := [score "a" 9, score "b" 7] } 1 ∧
      (evaluateRequirement requirement target
        { claims := [score "c" 9, score "a" 9, score "b" 7] } 1).status = .conflict := by
  intro requirement target score
  have facts := dimension_status requirement target 1
    { claims := [score "a" 9, score "b" 7] }
  refine ⟨facts.1 _ ?_, facts.2.2.2.2.2 _ ?_ (by decide)⟩
  · exact ⟨.swap _ _ _, .refl _, .refl _, .refl _, .refl _⟩
  · exact ⟨List.subset_cons_self _ _, List.Subset.refl _, List.Subset.refl _⟩

end Statuses

end SecFusion.Enrichment
