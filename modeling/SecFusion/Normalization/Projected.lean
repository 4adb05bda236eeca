import SecFusion.Knowledge.Writer
import SecFusion.Foundations.Dict

/-!
# Normalising an observation

The model of `ProjectedVulnerabilityCanonicalNormalizer.normalize`: one transaction that
replaces what a source says about a vulnerability by what its last observation says.

A normaliser is what the constructor of its class is given.  Its projection has the same
keys for every payload, and its relations have one of a few types; both are fields, so
that what a normaliser can produce is known from it.

Storing a relation and its target, opening the run and the revision, and recording the
change are word for word those of the knowledge writer, and are taken from there.  A claim
is filed under a hash of its value alone, so its qualifier has no part in its identifier.
-/

namespace SecFusion.Normalization

open Foundations Knowledge

/-! ## Normalisers and observations -/

structure CanonicalNormalizer where
  (processorName processorVersion : String)
  projection : JsonObject → Except Raised (Dict String JsonValue)
  locatorFor : String → JsonObject
  relationsFor : Dict String JsonValue → JsonObject → Except Raised (List RelationCandidate)
  /-- The predicates it claims. -/
  (predicates relationTypes : List String)
  projects : ∀ payload projected, projection payload = .ok projected →
    projected.keys = "cve_id" :: predicates
  relates : ∀ projected payload relations, relationsFor projected payload = .ok relations →
    ∀ relation ∈ relations, relation.relationType ∈ relationTypes

/-- What an identifier of an observation stands for: the source, the payload of the
envelope and the stored artifact. -/
structure Observation where
  sourceId : String
  payload : JsonObject
  artifactId : Option String

/-- The `enrichment.requested` event of the outbox. -/
structure EnrichmentRequestModel where
  processingRunId : ProcessingRunId
  (aggregateId objectId cveId : String)
  availableAt : ℤ

structure NormalizationStore where
  knowledge : KnowledgeBase
  requests : Table EnrichmentRequestModel ProcessingRunId (·.processingRunId)

def NormalizationStore.empty : NormalizationStore := ⟨.empty, .empty⟩

/-! ## What is written -/

/-- The identifier of the run.  It has no root. -/
def runIdOf (normalizer : CanonicalNormalizer) (observationId : String) : ProcessingRunId where
  processorName := normalizer.processorName
  processorVersion := normalizer.processorVersion
  rootSeed := ""
  observationId := observationId

/-- `cve_canonical_key`. -/
def cveCanonicalKey (cveId : String) : Except Raised String := do
  let canonical ← canonicalCveId cveId
  return "cve:" ++ canonical

/-- `vulnerability_cve_object_id`. -/
def vulnerabilityCveObjectId (cveId : String) : Except Raised String := do
  let canonical ← canonicalCveId cveId
  return "secfusion:object:vulnerability:cve:" ++ canonical

/-- The claims of a projection, null values left out. -/
def claimsOf (normalizer : CanonicalNormalizer) (projected : Dict String JsonValue) :
    List ClaimCandidate :=
  (projected.entries.filter fun entry => entry.1 ≠ "cve_id" ∧ entry.2 ≠ .null).map fun entry =>
    { predicate := entry.1, value := entry.2, locator := normalizer.locatorFor entry.1 }

/-- What the shared parts of the writer read of a call: for the claims with the origin
`source_asserted`, and for the relations with `deterministic_derived`. -/
def writeOf (normalizer : CanonicalNormalizer) (observationId : String) (observation : Observation)
    (claims : List ClaimCandidate) (origin : KnowledgeOrigin) : KnowledgeWrite where
  sourceId := observation.sourceId
  observation := ⟨observationId, observation.artifactId⟩
  candidate := { claims }
  processorName := normalizer.processorName
  processorVersion := normalizer.processorVersion
  origin := origin

/-- What the loops of a call know, with the origin of what they store. -/
def contextOf (normalizer : CanonicalNormalizer) (observationId : String)
    (observation : Observation) (claims : List ClaimCandidate) (root : ObjectModel)
    (runId : ProcessingRunId) (revision : ℕ) (origin : KnowledgeOrigin) : WriteContext where
  write := writeOf normalizer observationId observation claims origin
  root := root
  runId := runId
  revision := revision

def newVulnerability (objectId canonicalKey cveId : String) (revision : ℕ) : ObjectModel where
  objectId := objectId
  objectType := "Vulnerability"
  canonicalKey := canonicalKey
  properties := [("display_name", .string cveId.toUpper)]
  createdRevision := revision

/-- The vulnerability is there, or is added. -/
def storeVulnerability (base : KnowledgeBase) (row : ObjectModel) : Except Raised KnowledgeBase :=
  match base.objects.get? row.objectId with
  | some _ => .ok base
  | none => do
      let objects ← fetch (base.objects.insert? row) (.integrityError "objects_pkey")
      return { base with objects }

/-- The identifier of the vulnerability is there, whatever its object, or is added. -/
def nameVulnerability (base : KnowledgeBase) (objectId cveId : String) :
    Except Raised KnowledgeBase :=
  match base.identifiers.get? ("cve", cveId.toUpper) with
  | some _ => .ok base
  | none => do
      let identifiers ← fetch (base.identifiers.insert? ⟨"cve", cveId.toUpper, objectId⟩)
        (.integrityError "uq_external_identifiers_namespace_value")
      return { base with identifiers }

/-- One round of the loop over the projected predicates: what the source has said so far
is superseded. -/
def supersedePredicate (context : WriteContext) (base : KnowledgeBase) (predicate : String) :
    Except Raised KnowledgeBase := do
  require (classifyTerm .claim predicate context.write.origin
      { subjectType := some context.root.objectType } ≠ .unregistered)
    (.valueError ("unregistered canonical claim predicate: " ++ predicate))
  return supersedeSourceClaims base context.root.objectId predicate context.write.sourceId
    context.revision

/-- What the source has said with one of the relation types is superseded. -/
def supersedeTypes (context : WriteContext) (base : KnowledgeBase) (types : List String) :
    KnowledgeBase :=
  types.foldl (fun base relationType => supersedeSourceRelations base context.root.objectId
    relationType context.write.sourceId context.revision) base

/-- The loop over the relations, with the objects and relations it has named. -/
def normalizeRelations (context : WriteContext) :
    KnowledgeBase → List String → List RelationId → List RelationCandidate →
      Except Raised (List String × List RelationId × KnowledgeBase)
  | base, objectIds, relationIds, [] => .ok (objectIds, relationIds, base)
  | base, objectIds, relationIds, relation :: rest => do
      let (target, stored) ← upsertObject base relation.target context.revision
      require (relationScope relation context.write.origin context.root.objectType ≠ .unregistered)
        (.valueError ("unregistered canonical relation type: " ++ relation.relationType))
      let next ← storeRelation context stored target.objectId relation
      normalizeRelations context next
        (if target.objectId ∈ objectIds then objectIds else objectIds ++ [target.objectId])
        (relationIds ++ [relationIdOf context.write context.root.objectId target.objectId relation])
        rest

/-! ## The transaction -/

/-- The part of `normalize` that follows the identification of the vulnerability. -/
def normalizeObject (normalizer : CanonicalNormalizer) (base : KnowledgeBase)
    (observationId : String) (observation : Observation) (projected : Dict String JsonValue)
    (root : ObjectModel) (runId : ProcessingRunId) (revision : ℕ) (now : ℤ) :
    Except Raised (KnowledgeChangeModel × KnowledgeBase) := do
  let claims := claimsOf normalizer projected
  let context := contextOf normalizer observationId observation claims root runId revision
  let superseded ← (projected.keys.filter (· ≠ "cve_id")).foldlM
    (supersedePredicate (context .sourceAsserted)) base
  let claimed ← claims.foldlM (storeClaim (context .sourceAsserted)) superseded
  let relations ← normalizer.relationsFor projected observation.payload
  -- the types are those of the new relations, not all that the normaliser produces
  let types := (relations.map (·.relationType)).dedup
  let (objectIds, relationIds, related) ← normalizeRelations (context .deterministicDerived)
    (supersedeTypes (context .deterministicDerived) claimed types) [root.objectId] [] relations
  recordChange (context .sourceAsserted) related objectIds relationIds now

/-- A call whose run has not succeeded before. -/
def normalizeFresh (normalizer : CanonicalNormalizer) (store : NormalizationStore)
    (observationId : String) (observation : Observation) (revision : ℕ) (now : ℤ) :
    Except Raised (NormalizationResult × NormalizationStore) := do
  let runId := runIdOf normalizer observationId
  let started ← startRun store.knowledge runId now
  let opened ← openRevision started
    (writeOf normalizer observationId observation [] .sourceAsserted) runId revision now
  let projected ← normalizer.projection observation.payload
  let cveId ← fetch ((projected.get? "cve_id").bind (·.text?))
    (.valueError "NVD canonical normalization requires cve_id")
  let objectId ← vulnerabilityCveObjectId cveId
  let canonicalKey ← cveCanonicalKey cveId
  let root := newVulnerability objectId canonicalKey cveId revision
  let rooted ← storeVulnerability opened root
  let named ← nameVulnerability rooted objectId cveId
  let (change, knowledge) ←
    normalizeObject normalizer named observationId observation projected root runId revision now
  let requests ← fetch (store.requests.insert?
      { processingRunId := runId, aggregateId := objectId, objectId, cveId := cveId.toUpper,
        availableAt := now })
    (.integrityError "outbox_events_pkey")
  return (resultOf change observationId runId, { knowledge, requests })

/-- `ProjectedVulnerabilityCanonicalNormalizer.normalize`. -/
def normalize (normalizer : CanonicalNormalizer) (store : NormalizationStore)
    (observationId : String) (observation : Observation) (revision : ℕ) (now : ℤ) :
    Except Raised (NormalizationResult × NormalizationStore) :=
  let runId := runIdOf normalizer observationId
  if (store.knowledge.processingRuns.get? runId).map (·.status) = some .success then do
    let change ← fetch (store.knowledge.changes.get? runId)
      (.runtimeError "successful normalization has no knowledge change")
    return (resultOf change observationId runId, store)
  else normalizeFresh normalizer store observationId observation revision now

/-! ## Calls -/

/-- A call, in a transaction of its own; the number of the revision is the database's. -/
structure NormalizeOp where
  normalizer : CanonicalNormalizer
  observationId : String
  revision : ℕ
  now : ℤ

/-- The call on what the identifier of the observation stands for. -/
def normalizing (observed : String → Observation) (op : NormalizeOp) (store : NormalizationStore) :
    Except Raised (NormalizationResult × NormalizationStore) :=
  normalize op.normalizer store op.observationId (observed op.observationId) op.revision op.now

end SecFusion.Normalization
