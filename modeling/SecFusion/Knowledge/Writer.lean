import SecFusion.Knowledge.Vocabulary
import SecFusion.Foundations.Table
import SecFusion.Raised

/-!
# Writing knowledge

The model of `EvidenceBackedKnowledgeWriter.apply`: one transaction that opens a
revision, supersedes what the source has said before, and stores the claims and
relations of a candidate with their evidence.

A claim is filed under a name-based UUID of the object it is about, its
predicate, the observation it comes from and a hash of its value and qualifier.
UUID and hash are taken to determine what they are computed of, so the identifier
of a claim here is the record of these parts; the identifiers of relations, runs
and evidence links likewise.

The session flushes what is pending before every query, so a query sees the rows
the transaction has written so far.  The number of a revision is allocated by the
database and is an argument of the call.
-/

namespace SecFusion.Knowledge

open Foundations

/-! ## Candidates -/

structure ObjectCandidate where
  (objectType canonicalKey : String)
  properties : JsonObject := []
  identifiers : List (String × List String) := []
  deriving DecidableEq

structure ClaimCandidate where
  predicate : String
  value : JsonValue
  qualifier : JsonObject := []
  locator : JsonObject
  deriving DecidableEq

structure RelationCandidate where
  relationType : String
  target : ObjectCandidate
  qualifier : JsonObject := []
  locator : JsonObject
  deriving DecidableEq

structure EnrichmentCandidate where
  rootObject : Option ObjectCandidate := none
  rootIdentifiers : List (String × List String) := []
  claims : List ClaimCandidate := []
  relations : List RelationCandidate := []
  (replacePredicates replaceRelationTypes : List String := [])

/-- `EvidencePointer`. -/
structure EvidencePointer where
  observationId : String
  artifactId : Option String := none

/-- The arguments of `apply`; of the source only its identifier is read. -/
structure KnowledgeWrite where
  rootObjectId : Option String := none
  sourceId : String
  observation : EvidencePointer
  candidate : EnrichmentCandidate
  (processorName processorVersion : String)
  origin : KnowledgeOrigin := .sourceAsserted

/-! ## Identifiers -/

structure ProcessingRunId where
  (processorName processorVersion rootSeed observationId : String)
  deriving DecidableEq

structure ClaimId where
  (rootObjectId predicate observationId : String)
  value : JsonValue
  qualifier : JsonObject
  deriving DecidableEq

structure RelationId where
  (rootObjectId relationType targetObjectId observationId : String)
  qualifier : JsonObject
  deriving DecidableEq

/-- What a link is evidence of. -/
inductive EvidenceTarget where
  | claim (claimId : ClaimId)
  | relation (relationId : RelationId)
  deriving DecidableEq

/-- `canonical_cve_id`.  Letters outside ASCII have no case here. -/
def canonicalCveId (value : String) : Except Raised String := do
  let normalized := (strip value).toUpper
  require ((afterHead? "CVE-" normalized).isSome = true)
    (.valueError ("not a CVE identifier: '" ++ value ++ "'"))
  return normalized

def stableObjectId (objectType canonicalKey : String) : Except Raised String :=
  if objectType = "Vulnerability" ∧ (afterHead? "cve:" canonicalKey.toLower).isSome then do
    let cveId ← canonicalCveId (((Text.partition ':' canonicalKey).map (·.2)).getD "")
    return "secfusion:object:vulnerability:cve:" ++ cveId
  else .ok ("secfusion:object:" ++ objectType ++ ":" ++ canonicalKey)

/-! ## Rows -/

inductive ProcessingStatus where
  | running
  | success
  | failed
  deriving DecidableEq

structure ProcessingRunModel where
  runId : ProcessingRunId
  attempt : ℕ
  status : ProcessingStatus
  startedAt : ℤ
  finishedAt : Option ℤ := none
  errorCode : Option String := none

structure KnowledgeRevisionModel where
  revision : ℕ
  causeProcessingRunId : ProcessingRunId
  causeObservationId : String
  committedAt : ℤ

structure ObjectModel where
  (objectId objectType canonicalKey : String)
  properties : JsonObject
  createdRevision : ℕ
  deriving DecidableEq

structure ExternalIdentifierModel where
  (space value objectId : String)

/-- The `lifecycle` of a claim or relation. -/
inductive Lifecycle where
  | accepted
  /-- A value that only other services write. -/
  | other (value : String)
  deriving DecidableEq

structure ClaimModel where
  claimId : ClaimId
  (subjectId predicate : String)
  value : JsonValue
  qualifier : JsonObject
  origin : KnowledgeOrigin
  lifecycle : Lifecycle
  processingRunId : ProcessingRunId
  createdRevision : ℕ
  supersededRevision : Option ℕ := none
  deriving DecidableEq

structure RelationModel where
  relationId : RelationId
  (sourceObjectId relationType targetObjectId : String)
  qualifier : JsonObject
  origin : KnowledgeOrigin
  lifecycle : Lifecycle
  processingRunId : ProcessingRunId
  createdRevision : ℕ
  supersededRevision : Option ℕ := none

structure EvidenceLinkModel where
  target : EvidenceTarget
  observationId : String
  artifactId : Option String
  locator : JsonObject

/-- One row of `knowledge_changes`, whose identifier is that of its run. -/
structure KnowledgeChangeModel where
  causeProcessingRunId : ProcessingRunId
  revision : ℕ
  objectIds : List String
  claimIds : List ClaimId
  relationIds : List RelationId
  causeObservationId : String
  committedAt : ℤ

/-- The `knowledge.changed` event of the outbox. -/
structure OutboxEventModel where
  processingRunId : ProcessingRunId
  aggregateId : String
  revision : ℕ
  objectIds : List String
  claimIds : List ClaimId
  relationIds : List RelationId
  availableAt : ℤ

structure KnowledgeBase where
  processingRuns : Table ProcessingRunModel ProcessingRunId (·.runId)
  revisions : Table KnowledgeRevisionModel ℕ (·.revision)
  objects : Table ObjectModel String (·.objectId)
  identifiers : Table ExternalIdentifierModel (String × String) fun row => (row.space, row.value)
  claims : Table ClaimModel ClaimId (·.claimId)
  relations : Table RelationModel RelationId (·.relationId)
  evidenceLinks : Table EvidenceLinkModel (EvidenceTarget × String × JsonObject)
    fun row => (row.target, row.observationId, row.locator)
  changes : Table KnowledgeChangeModel ProcessingRunId (·.causeProcessingRunId)
  outbox : Table OutboxEventModel ProcessingRunId (·.processingRunId)

def KnowledgeBase.empty : KnowledgeBase :=
  ⟨.empty, .empty, .empty, .empty, .empty, .empty, .empty, .empty, .empty⟩

/-- `current_knowledge_revision`. -/
def KnowledgeBase.currentRevision (base : KnowledgeBase) : ℕ :=
  (base.revisions.rows.map (·.revision)).foldl max 0

/-- `NormalizationResult`. -/
structure NormalizationResult where
  observationId : String
  knowledgeRevision : ℕ
  committedAt : ℤ
  objectIds : List String
  claimIds : List ClaimId
  relationIds : List RelationId
  processingRunId : ProcessingRunId

/-- `_result`. -/
def resultOf (change : KnowledgeChangeModel) (observationId : String) (runId : ProcessingRunId) :
    NormalizationResult where
  observationId := observationId
  knowledgeRevision := change.revision
  committedAt := change.committedAt
  objectIds := change.objectIds
  claimIds := change.claimIds
  relationIds := change.relationIds
  processingRunId := runId

/-! ## Checks -/

/-- `_validate_candidate_vocabulary`.  The source goes through the names in the
order of a set, here they are in the order of the candidate. -/
def validateCandidateVocabulary (candidate : EnrichmentCandidate) (origin : KnowledgeOrigin) :
    Except Raised Unit := do
  let objects := candidate.rootObject.toList ++ candidate.relations.map (·.target)
  objects.forM fun object =>
    require (classifyObjectType object.objectType origin ≠ .unregistered)
      (.valueError ("unregistered canonical object_type: " ++ object.objectType))
  (candidate.claims.map (·.predicate) ++ candidate.replacePredicates).forM fun predicate =>
    require (classifyTerm .claim predicate origin ≠ .unregistered)
      (.valueError ("unregistered canonical claim predicate: " ++ predicate))
  (candidate.relations.map (·.relationType) ++ candidate.replaceRelationTypes).forM fun type =>
    require (classifyTerm .relation type origin ≠ .unregistered)
      (.valueError ("unregistered canonical relation type: " ++ type))

/-- The scope of a claim about an object of the given type. -/
def claimScope (claim : ClaimCandidate) (origin : KnowledgeOrigin) (subjectType : String) :
    VocabularyScope :=
  classifyTerm .claim claim.predicate origin
    { subjectType := some subjectType, qualifierKeys := some (claim.qualifier.map (·.1)) }

/-- The scope of a relation from an object of the given type. -/
def relationScope (relation : RelationCandidate) (origin : KnowledgeOrigin)
    (subjectType : String) : VocabularyScope :=
  classifyTerm .relation relation.relationType origin
    { subjectType := some subjectType
      targetType := some relation.target.objectType
      qualifierKeys := some (relation.qualifier.map (·.1)) }

def tupleText (names : List String) : String :=
  match names with
  | [name] => "('" ++ name ++ "',)"
  | _ => "(" ++ ", ".intercalate (names.map fun name => "'" ++ name ++ "'") ++ ")"

/-- `_validate_candidate_shapes`. -/
def validateCandidateShapes (candidate : EnrichmentCandidate) (origin : KnowledgeOrigin)
    (subjectType : String) : Except Raised Unit := do
  candidate.claims.forM fun claim =>
    require (claimScope claim origin subjectType ≠ .unregistered)
      (.valueError ("canonical claim subject type mismatch: " ++ subjectType ++ " --" ++
        claim.predicate ++ "; expected one of " ++
        tupleText (((canonicalTerm .claim claim.predicate).map (·.subjectTypes)).getD [])))
  candidate.relations.forM fun relation =>
    let term := canonicalTerm .relation relation.relationType
    require (relationScope relation origin subjectType ≠ .unregistered)
      (.valueError ("canonical relation shape mismatch: " ++ subjectType ++ " --" ++
        relation.relationType ++ "-> " ++ relation.target.objectType ++ "; expected subjects=" ++
        tupleText ((term.map (·.subjectTypes)).getD []) ++ " targets=" ++
        tupleText ((term.map (·.targetTypes)).getD []) ++ " required_qualifiers=" ++
        tupleText ((term.map (·.requiredQualifierKeys)).getD [])))

/-! ## Objects -/

def KnowledgeBase.objectOf? (base : KnowledgeBase) (objectType canonicalKey : String) :
    Option ObjectModel :=
  base.objects.rows.find? fun row => row.objectType = objectType ∧ row.canonicalKey = canonicalKey

/-- One round of `_upsert_identifiers`. -/
def upsertIdentifier (objectId : String) (base : KnowledgeBase) (identifier : String × String) :
    Except Raised KnowledgeBase :=
  match base.identifiers.get? identifier with
  | some existing => do
      require (existing.objectId = objectId)
        (.valueError ("identifier collision for " ++ identifier.1 ++ ":" ++ identifier.2 ++ ": " ++
          existing.objectId ++ " != " ++ objectId))
      return base
  | none => do
      let identifiers ← fetch (base.identifiers.insert? ⟨identifier.1, identifier.2, objectId⟩)
        (.integrityError "uq_external_identifiers_namespace_value")
      return { base with identifiers }

/-- `_upsert_identifiers`. -/
def upsertIdentifiers (base : KnowledgeBase) (objectId : String)
    (identifiers : List (String × List String)) : Except Raised KnowledgeBase :=
  (identifiers.flatMap fun group => group.2.map fun value => (group.1, value)).foldlM
    (upsertIdentifier objectId) base

/-- The row of an object whose properties have been merged. -/
def ObjectModel.withProperties (row : ObjectModel) (properties : JsonObject) : ObjectModel :=
  { row with properties := JsonObject.update row.properties properties }

theorem ObjectModel.withProperties_objectId (row : ObjectModel) (properties : JsonObject) :
    (row.withProperties properties).objectId = row.objectId := rfl

/-- `_upsert_object` before the identifiers. -/
def storeObject (base : KnowledgeBase) (candidate : ObjectCandidate) (revision : ℕ) :
    Except Raised (ObjectModel × KnowledgeBase) :=
  match base.objectOf? candidate.objectType candidate.canonicalKey with
  | none => do
      let objectId ← stableObjectId candidate.objectType candidate.canonicalKey
      let row : ObjectModel :=
        { objectId
          objectType := candidate.objectType
          canonicalKey := candidate.canonicalKey
          properties := candidate.properties
          createdRevision := revision }
      let objects ← fetch (base.objects.insert? row) (.integrityError "objects_pkey")
      return (row, { base with objects })
  | some row =>
      if candidate.properties = [] then return (row, base)
      else return (row.withProperties candidate.properties,
        { base with
          objects := base.objects.update row.objectId (·.withProperties candidate.properties)
            (·.withProperties_objectId candidate.properties) })

/-- `_upsert_object`. -/
def upsertObject (base : KnowledgeBase) (candidate : ObjectCandidate) (revision : ℕ) :
    Except Raised (ObjectModel × KnowledgeBase) := do
  let (row, stored) ← storeObject base candidate revision
  let next ← upsertIdentifiers stored row.objectId candidate.identifiers
  return (row, next)

/-! ## Superseding -/

/-- The claim is what `_supersede_source_claims` selects. -/
def ClaimModel.isCurrent (row : ClaimModel) (subjectId predicate sourceId : String) : Bool :=
  row.subjectId = subjectId ∧ row.predicate = predicate ∧ row.lifecycle = .accepted ∧
    row.supersededRevision = none ∧
    JsonObject.get? row.qualifier "source_id" = some (.string sourceId)

def ClaimModel.withSuperseded (row : ClaimModel) (revision : Option ℕ) : ClaimModel :=
  { row with supersededRevision := revision }

theorem ClaimModel.withSuperseded_claimId (row : ClaimModel) (revision : Option ℕ) :
    (row.withSuperseded revision).claimId = row.claimId := rfl

/-- `_supersede_source_claims`. -/
def supersedeSourceClaims (base : KnowledgeBase) (subjectId predicate sourceId : String)
    (revision : ℕ) : KnowledgeBase :=
  { base with
    claims := base.claims.modify
      (fun row => if row.isCurrent subjectId predicate sourceId then
        row.withSuperseded (some revision) else row)
      (fun row => by split <;> rfl) }

/-- The relation is what `_supersede_source_relations` selects. -/
def RelationModel.isCurrent (row : RelationModel) (subjectId relationType sourceId : String) :
    Bool :=
  row.sourceObjectId = subjectId ∧ row.relationType = relationType ∧ row.lifecycle = .accepted ∧
    row.supersededRevision = none ∧
    JsonObject.get? row.qualifier "source_id" = some (.string sourceId)

def RelationModel.withSuperseded (row : RelationModel) (revision : Option ℕ) : RelationModel :=
  { row with supersededRevision := revision }

theorem RelationModel.withSuperseded_relationId (row : RelationModel) (revision : Option ℕ) :
    (row.withSuperseded revision).relationId = row.relationId := rfl

/-- `_supersede_source_relations`. -/
def supersedeSourceRelations (base : KnowledgeBase) (subjectId relationType sourceId : String)
    (revision : ℕ) : KnowledgeBase :=
  { base with
    relations := base.relations.modify
      (fun row => if row.isCurrent subjectId relationType sourceId then
        row.withSuperseded (some revision) else row)
      (fun row => by split <;> rfl) }

/-! ## Claims and relations -/

/-- What the loops of `apply` know: the call, the object it is about, its run and
its revision. -/
structure WriteContext where
  write : KnowledgeWrite
  root : ObjectModel
  runId : ProcessingRunId
  revision : ℕ

def claimIdOf (write : KnowledgeWrite) (rootObjectId : String) (claim : ClaimCandidate) : ClaimId where
  rootObjectId := rootObjectId
  predicate := claim.predicate
  observationId := write.observation.observationId
  value := claim.value
  qualifier := claim.qualifier

def relationIdOf (write : KnowledgeWrite) (rootObjectId targetObjectId : String)
    (relation : RelationCandidate) : RelationId where
  rootObjectId := rootObjectId
  relationType := relation.relationType
  targetObjectId := targetObjectId
  observationId := write.observation.observationId
  qualifier := relation.qualifier

def storedQualifier (qualifier : JsonObject) (sourceId : String) (scope : VocabularyScope) :
    JsonObject :=
  JsonObject.update (JsonObject.set qualifier "source_id" (.string sourceId))
    (vocabularyMetadata scope)

def newClaim (context : WriteContext) (claim : ClaimCandidate) : ClaimModel where
  claimId := claimIdOf context.write context.root.objectId claim
  subjectId := context.root.objectId
  predicate := claim.predicate
  value := claim.value
  qualifier := storedQualifier claim.qualifier context.write.sourceId
    (claimScope claim context.write.origin context.root.objectType)
  origin := context.write.origin
  lifecycle := .accepted
  processingRunId := context.runId
  createdRevision := context.revision

def newRelation (context : WriteContext) (targetObjectId : String)
    (relation : RelationCandidate) : RelationModel where
  relationId := relationIdOf context.write context.root.objectId targetObjectId relation
  sourceObjectId := context.root.objectId
  relationType := relation.relationType
  targetObjectId := targetObjectId
  qualifier := storedQualifier relation.qualifier context.write.sourceId
    (relationScope relation context.write.origin context.root.objectType)
  origin := context.write.origin
  lifecycle := .accepted
  processingRunId := context.runId
  createdRevision := context.revision

/-- `_add_evidence_link`. -/
def addEvidenceLink (base : KnowledgeBase) (target : EvidenceTarget)
    (observation : EvidencePointer) (locator : JsonObject) : Except Raised KnowledgeBase := do
  let evidenceLinks ← fetch (base.evidenceLinks.insert?
      ⟨target, observation.observationId, observation.artifactId, locator⟩)
    (.integrityError "uq_evidence_link_target")
  return { base with evidenceLinks }

/-- One claim of the candidate, once what it replaces has been superseded. -/
def storeClaim (context : WriteContext) (base : KnowledgeBase) (claim : ClaimCandidate) :
    Except Raised KnowledgeBase :=
  let claimId := claimIdOf context.write context.root.objectId claim
  match base.claims.get? claimId with
  | none => do
      let claims ← fetch (base.claims.insert? (newClaim context claim))
        (.integrityError "claims_pkey")
      addEvidenceLink { base with claims } (.claim claimId) context.write.observation claim.locator
  | some _ => return { base with
      claims := base.claims.update claimId (·.withSuperseded none)
        (·.withSuperseded_claimId none) }

/-- One round of the loop over the claims. -/
def applyClaim (context : WriteContext) (base : KnowledgeBase) (claim : ClaimCandidate) :
    Except Raised KnowledgeBase :=
  let superseded :=
    if claim.predicate ∈ context.write.candidate.replacePredicates then base
    else supersedeSourceClaims base context.root.objectId claim.predicate context.write.sourceId
      context.revision
  storeClaim context superseded claim

/-- One relation of the candidate, once its target is stored. -/
def storeRelation (context : WriteContext) (base : KnowledgeBase) (targetObjectId : String)
    (relation : RelationCandidate) : Except Raised KnowledgeBase :=
  let relationId := relationIdOf context.write context.root.objectId targetObjectId relation
  match base.relations.get? relationId with
  | none => do
      let relations ← fetch (base.relations.insert? (newRelation context targetObjectId relation))
        (.integrityError "relations_pkey")
      addEvidenceLink { base with relations } (.relation relationId) context.write.observation
        relation.locator
  | some _ => return { base with
      relations := base.relations.update relationId (·.withSuperseded none)
        (·.withSuperseded_relationId none) }

/-- The loop over the relations, with the objects and relations it has named. -/
def applyRelations (context : WriteContext) :
    KnowledgeBase → List String → List RelationId → List RelationCandidate →
      Except Raised (List String × List RelationId × KnowledgeBase)
  | base, objectIds, relationIds, [] => .ok (objectIds, relationIds, base)
  | base, objectIds, relationIds, relation :: rest => do
      let (target, stored) ← upsertObject base relation.target context.revision
      let next ← storeRelation context stored target.objectId relation
      applyRelations context next
        (if target.objectId ∈ objectIds then objectIds else objectIds ++ [target.objectId])
        (relationIds ++ [relationIdOf context.write context.root.objectId target.objectId relation])
        rest

/-! ## The transaction -/

/-- The text the run of a call is named by. -/
def rootSeed (write : KnowledgeWrite) : Option String :=
  write.rootObjectId.or
    (write.candidate.rootObject.map fun object => object.objectType ++ ":" ++ object.canonicalKey)

def processingRunId (write : KnowledgeWrite) (seed : String) : ProcessingRunId where
  processorName := write.processorName
  processorVersion := write.processorVersion
  rootSeed := seed
  observationId := write.observation.observationId

/-- The row of a run that is attempted once more. -/
def ProcessingRunModel.withAttempt (run : ProcessingRunModel) (now : ℤ) : ProcessingRunModel :=
  { run with
    attempt := run.attempt + 1, status := .running, startedAt := now, finishedAt := none,
    errorCode := none }

theorem ProcessingRunModel.withAttempt_runId (run : ProcessingRunModel) (now : ℤ) :
    (run.withAttempt now).runId = run.runId := rfl

/-- The row of a run that has succeeded. -/
def ProcessingRunModel.withSuccess (run : ProcessingRunModel) (now : ℤ) : ProcessingRunModel :=
  { run with status := .success, finishedAt := some now }

theorem ProcessingRunModel.withSuccess_runId (run : ProcessingRunModel) (now : ℤ) :
    (run.withSuccess now).runId = run.runId := rfl

/-- The run of the call is opened, or opened again. -/
def startRun (base : KnowledgeBase) (runId : ProcessingRunId) (now : ℤ) :
    Except Raised KnowledgeBase :=
  match base.processingRuns.get? runId with
  | none => do
      let processingRuns ← fetch (base.processingRuns.insert?
          { runId, attempt := 1, status := .running, startedAt := now })
        (.integrityError "processing_runs_pkey")
      return { base with processingRuns }
  | some _ => return { base with
      processingRuns := base.processingRuns.update runId (·.withAttempt now)
        (·.withAttempt_runId now) }

/-- The revision of the call is stored under the number it was given. -/
def openRevision (base : KnowledgeBase) (write : KnowledgeWrite) (runId : ProcessingRunId)
    (revision : ℕ) (now : ℤ) : Except Raised KnowledgeBase := do
  let revisions ← fetch (base.revisions.insert?
      ⟨revision, runId, write.observation.observationId, now⟩)
    (.integrityError "knowledge_revisions_pkey")
  return { base with revisions }

/-- The object the call is about. -/
def resolveRoot (base : KnowledgeBase) (write : KnowledgeWrite) (revision : ℕ) :
    Except Raised (ObjectModel × KnowledgeBase) :=
  match write.rootObjectId with
  | none => do
      let candidate ← fetch write.candidate.rootObject
        (.valueError "candidate.root_object is required when root_object_id is absent")
      upsertObject base candidate revision
  | some rootObjectId => do
      let root ← fetch (base.objects.get? rootObjectId)
        (.lookupError ("root object not found: " ++ rootObjectId))
      return (root, base)

def supersedeReplaced (context : WriteContext) (base : KnowledgeBase) : KnowledgeBase :=
  let claims := context.write.candidate.replacePredicates.foldl (fun base predicate =>
    supersedeSourceClaims base context.root.objectId predicate context.write.sourceId
      context.revision) base
  context.write.candidate.replaceRelationTypes.foldl (fun base relationType =>
    supersedeSourceRelations base context.root.objectId relationType context.write.sourceId
      context.revision) claims

/-- The end of the transaction: the change, its event and the success of the run. -/
def recordChange (context : WriteContext) (base : KnowledgeBase) (objectIds : List String)
    (relationIds : List RelationId) (now : ℤ) : Except Raised (KnowledgeChangeModel × KnowledgeBase) :=
  let claimIds := context.write.candidate.claims.map
    (claimIdOf context.write context.root.objectId)
  let change : KnowledgeChangeModel :=
    { causeProcessingRunId := context.runId
      revision := context.revision
      objectIds, claimIds, relationIds
      causeObservationId := context.write.observation.observationId
      committedAt := now }
  let event : OutboxEventModel :=
    { processingRunId := context.runId
      aggregateId := context.root.objectId
      revision := context.revision
      objectIds, claimIds, relationIds
      availableAt := now }
  do
    let changes ← fetch (base.changes.insert? change) (.integrityError "knowledge_changes_pkey")
    let outbox ← fetch (base.outbox.insert? event) (.integrityError "outbox_events_pkey")
    return (change, { base with
      changes, outbox
      processingRuns := base.processingRuns.update context.runId (·.withSuccess now)
        (·.withSuccess_runId now) })

/-- A call whose run has not succeeded before. -/
def applyFresh (base : KnowledgeBase) (write : KnowledgeWrite) (runId : ProcessingRunId)
    (revision : ℕ) (now : ℤ) : Except Raised (NormalizationResult × KnowledgeBase) := do
  validateCandidateVocabulary write.candidate write.origin
  let started ← startRun base runId now
  let opened ← openRevision started write runId revision now
  let (root, rooted) ← resolveRoot opened write revision
  let named ← upsertIdentifiers rooted root.objectId write.candidate.rootIdentifiers
  validateCandidateShapes write.candidate write.origin root.objectType
  let context : WriteContext := ⟨write, root, runId, revision⟩
  let claimed ← write.candidate.claims.foldlM (applyClaim context) (supersedeReplaced context named)
  let (objectIds, relationIds, related) ← applyRelations context claimed [root.objectId] []
    write.candidate.relations
  let (change, next) ← recordChange context related objectIds relationIds now
  return (resultOf change write.observation.observationId runId, next)

/-- `EvidenceBackedKnowledgeWriter.apply`. -/
def apply (base : KnowledgeBase) (write : KnowledgeWrite) (revision : ℕ) (now : ℤ) :
    Except Raised (NormalizationResult × KnowledgeBase) := do
  let seed ← fetch (rootSeed write)
    (.valueError "knowledge writer requires root_object_id or candidate.root_object")
  let runId := processingRunId write seed
  if (base.processingRuns.get? runId).map (·.status) = some .success then do
    let change ← fetch (base.changes.get? runId)
      (.runtimeError "successful enrichment has no knowledge change")
    return (resultOf change write.observation.observationId runId, base)
  else applyFresh base write runId revision now

end SecFusion.Knowledge
