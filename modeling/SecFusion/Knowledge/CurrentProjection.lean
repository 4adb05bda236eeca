import SecFusion.Knowledge.History
import SecFusion.Foundations.Dict

/-!
# Current projections

The model of `CurrentProjectionService`: the views of a vulnerability and of a
repository as they follow from the knowledge base, and the guarded upsert that
stores them.  Queries are ordered by the text of an identifier where the revision
does not decide; these texts are UUIDs, and only their order is read, so they are
a parameter (`IdTexts`).

A pipeline is the committed knowledge base with the transactions that are open,
the handlers of `knowledge.changed` that have read an object and not yet written
it, and the stored projections.  A transaction takes the number of its revision
when it begins and becomes visible when it commits, so revisions may become
visible in any order.
-/

namespace SecFusion.Knowledge

open Foundations

/-! ## Queries -/

/-- The texts of identifiers, by which queries are ordered. -/
structure IdTexts where
  claim : ClaimId → String
  relation : RelationId → String

/-- The accepted claims about an object that are not superseded. -/
def acceptedClaims (base : KnowledgeBase) (objectId : String) : List ClaimModel :=
  base.claims.select fun row =>
    row.subjectId = objectId ∧ row.lifecycle = .accepted ∧ row.supersededRevision = none

def RelationModel.isAccepted (row : RelationModel) : Bool :=
  row.lifecycle = .accepted ∧ row.supersededRevision = none

def relationsFrom (base : KnowledgeBase) (objectId : String) : List RelationModel :=
  base.relations.select fun row => row.sourceObjectId = objectId ∧ row.isAccepted = true

def relationsTo (base : KnowledgeBase) (objectId : String) : List RelationModel :=
  base.relations.select fun row => row.targetObjectId = objectId ∧ row.isAccepted = true

def identifiersOf (base : KnowledgeBase) (objectId : String) : List ExternalIdentifierModel :=
  base.identifiers.select fun row => row.objectId = objectId

/-- `ORDER BY created_revision, claim_id`. -/
def orderClaims (texts : IdTexts) (rows : List ClaimModel) : List ClaimModel :=
  rows.insertionSort fun first second =>
    first.createdRevision < second.createdRevision ∨
      (first.createdRevision = second.createdRevision ∧
        texts.claim first.claimId ≤ texts.claim second.claimId)

/-- `ORDER BY created_revision, relation_id`. -/
def orderRelations (texts : IdTexts) (rows : List RelationModel) : List RelationModel :=
  rows.insertionSort fun first second =>
    first.createdRevision < second.createdRevision ∨
      (first.createdRevision = second.createdRevision ∧
        texts.relation first.relationId ≤ texts.relation second.relationId)

/-- Values by their keys, in the order in which a key is first seen. -/
def groupBy {α κ : Type} [DecidableEq κ] (key : α → κ) (items : List α) : Dict κ (List α) :=
  items.foldl (fun groups item => groups.set (key item) (groups.getD (key item) [] ++ [item]))
    .empty

/-! ## The view of a vulnerability -/

structure ClaimEntry where
  claimId : ClaimId
  value : JsonValue
  qualifier : JsonObject
  origin : KnowledgeOrigin
  revision : ℕ
  deriving DecidableEq

def ClaimModel.entry (row : ClaimModel) : ClaimEntry where
  claimId := row.claimId
  value := row.value
  qualifier := row.qualifier
  origin := row.origin
  revision := row.createdRevision

structure FieldView where
  current : ClaimEntry
  conflict : Bool
  alternatives : List ClaimEntry
  deriving DecidableEq

/-- The field of one predicate: the last entry, and the others where they
disagree. -/
def fieldView (entries : List ClaimEntry) : Option FieldView :=
  entries.getLast?.map fun current =>
    let conflict : Bool := 1 < (entries.map (·.value)).dedup.length
    { current, conflict, alternatives := if conflict then entries else [] }

structure RelationView where
  relationId : RelationId
  (type targetId : String)
  (targetType targetKey : Option String)
  (targetProperties qualifier : JsonObject)
  revision : ℕ
  deriving DecidableEq

def relationView (base : KnowledgeBase) (row : RelationModel) : RelationView :=
  let target := base.objects.get? row.targetObjectId
  { relationId := row.relationId
    type := row.relationType
    targetId := row.targetObjectId
    targetType := target.map (·.objectType)
    targetKey := target.map (·.canonicalKey)
    targetProperties := (target.map (·.properties)).getD []
    qualifier := row.qualifier
    revision := row.createdRevision }

structure VulnerabilityView where
  (objectId objectType canonicalKey : String)
  properties : JsonObject
  identifiers : List (String × List String)
  fields : List (String × FieldView)
  conflictPredicates : List String
  relations : List RelationView
  deriving DecidableEq

/-- `_vulnerability_projection`. -/
def vulnerabilityProjection (texts : IdTexts) (base : KnowledgeBase) (object : ObjectModel) :
    VulnerabilityView :=
  let identifiers := (groupBy (·.space) (identifiersOf base object.objectId)).entries
  let claims := groupBy (·.predicate) (orderClaims texts (acceptedClaims base object.objectId))
  let fields := claims.entries.filterMap fun group =>
    (fieldView (group.2.map (·.entry))).map fun field => (group.1, field)
  { objectId := object.objectId
    objectType := object.objectType
    canonicalKey := object.canonicalKey
    properties := object.properties
    identifiers := identifiers.map fun group =>
      (group.1, (group.2.map (·.value)).insertionSort (· ≤ ·))
    fields
    conflictPredicates := ((fields.filter (·.2.conflict)).map (·.1)).insertionSort (· ≤ ·)
    relations := (orderRelations texts (relationsFrom base object.objectId)).map
      (relationView base) }

/-- `_primary_identifier`. -/
def primaryIdentifier (view : VulnerabilityView) (space : String) : Option String :=
  (view.identifiers.find? fun group => group.1 = space).bind (·.2.head?)

/-! ## Affected versions -/

structure AffectedEntry where
  relationId : RelationId
  targetId : String
  targetKey : Option String
  (targetProperties qualifier : JsonObject)
  revision : ℕ
  deriving DecidableEq

structure AffectedVersionsView where
  objectId : String
  identifiers : List (String × List String)
  affectedEntries : List AffectedEntry
  deriving DecidableEq

/-- `_affected_versions_projection`. -/
def affectedVersionsProjection (view : VulnerabilityView) : AffectedVersionsView where
  objectId := view.objectId
  identifiers := view.identifiers
  affectedEntries := (view.relations.filter (·.type = "affects-package")).map fun relation =>
    { relationId := relation.relationId
      targetId := relation.targetId
      targetKey := relation.targetKey
      targetProperties := relation.targetProperties
      qualifier := relation.qualifier
      revision := relation.revision }

/-! ## The fix status -/

structure FixedVersion where
  version : String
  targetKey : Option String
  sourceId : Option JsonValue
  relationId : RelationId
  deriving DecidableEq

structure FixedCommit where
  sha : String
  repo : Option JsonValue
  targetKey : Option String
  sourceId : Option JsonValue
  relationId : RelationId
  confirmed : Bool := false
  deriving DecidableEq

structure TargetStatus where
  targetKey : String
  versions : List String
  conflict : Bool
  deriving DecidableEq

structure FixStatusView where
  objectId : String
  identifiers : List (String × List String)
  known : Bool
  fixedVersions : List FixedVersion
  fixedCommits : List FixedCommit
  targets : List TargetStatus
  versionConflict : Bool
  fixRelations : List RelationView
  deriving DecidableEq

/-- The `fixed` events of a range, with whether the range is one of commits. -/
def fixedEvents (range : JsonObject) : List (Bool × Option JsonValue × String) :=
  let isGit : Bool :=
    match JsonObject.get? range "type" with
    | some (.string type) => type.toUpper = "GIT"
    | _ => false
  match JsonObject.get? range "events" with
  | some (.array events) => events.filterMap fun event =>
      match event with
      | .object fields =>
          match JsonObject.get? fields "fixed" with
          | some (.string fixed) => some (isGit, JsonObject.get? range "repo", fixed)
          | _ => none
      | _ => none
  | _ => []

def rangesOf (qualifier : JsonObject) : List JsonObject :=
  match JsonObject.get? qualifier "ranges" with
  | some (.array ranges) => ranges.filterMap fun range =>
      match range with
      | .object fields => some fields
      | _ => none
  | _ => []

/-- A text that is not empty. -/
def nonemptyText? (value : Option JsonValue) : Option String :=
  match value with
  | some (.string text) => if text = "" then none else some text
  | _ => none

def fixedVersionsOf (relation : RelationView) : List FixedVersion :=
  if relation.type = "affects-package" then
    let entry (version : String) : FixedVersion :=
      { version, targetKey := relation.targetKey
        sourceId := JsonObject.get? relation.qualifier "source_id"
        relationId := relation.relationId }
    let patched := (nonemptyText? (JsonObject.get? relation.qualifier "first_patched_version")).toList
    patched.map entry ++ (((rangesOf relation.qualifier).flatMap fixedEvents).filter (!·.1)).map
      fun event => entry event.2.2
  else []

def fixedCommitsOf (relation : RelationView) : List FixedCommit :=
  let sourceId := JsonObject.get? relation.qualifier "source_id"
  if relation.type = "affects-package" then
    (((rangesOf relation.qualifier).flatMap fixedEvents).filter (·.1)).map fun event =>
      { sha := event.2.2, repo := event.2.1, targetKey := relation.targetKey, sourceId
        relationId := relation.relationId }
  else if relation.type = "fixed-by" ∧ relation.targetType = some "Commit" then
    (nonemptyText? (JsonObject.get? relation.targetProperties "sha")).toList.map fun sha =>
      { sha, repo := JsonObject.get? relation.qualifier "repo_url"
        targetKey := relation.targetKey, sourceId
        relationId := relation.relationId, confirmed := true }
  else []

mutual

/-- `str` of a JSON value; a text inside a collection is in quotes. -/
def valueText (quoted : Bool) : JsonValue → String
  | .null => "None"
  | .bool true => "True"
  | .bool false => "False"
  | .int number => toString number
  | .real number => toString number.num ++ "/" ++ toString number.den
  | .string text => if quoted then "'" ++ text ++ "'" else text
  | .array items => "[" ++ itemsText items ++ "]"
  | .object fields => "(" ++ fieldsText fields ++ ")"

def itemsText : List JsonValue → String
  | [] => ""
  | item :: rest => valueText true item ++ ", " ++ itemsText rest

def fieldsText : List (String × JsonValue) → String
  | [] => ""
  | (name, value) :: rest => "'" ++ name ++ "': " ++ valueText true value ++ ", " ++ fieldsText rest

end

/-- `_dedupe_dicts`: one item for each fingerprint, the first or one that is
confirmed. -/
def dedupe {α κ : Type} [DecidableEq κ] (fingerprint : α → κ) (confirmed : α → Bool)
    (items : List α) : List α :=
  (items.foldl (fun unique item =>
    if unique.get? (fingerprint item) = none ∨ confirmed item then
      unique.set (fingerprint item) item
    else unique) (Dict.empty : Dict κ α)).values

/-- `str(item.get(key, ""))` of a field that every item has. -/
def optionText (value : Option JsonValue) : String := valueText false (value.getD .null)

def FixedVersion.fingerprint (item : FixedVersion) : String × String × String :=
  (item.version, item.targetKey.getD "None", optionText item.sourceId)

def FixedCommit.fingerprint (item : FixedCommit) : String × String × String :=
  (item.sha, optionText item.repo, optionText item.sourceId)

def fixRelationTypes : List String := ["fixed-by", "fixed-in-release", "contains-fix"]

/-- `_fix_status_projection`. -/
def fixStatusProjection (view : VulnerabilityView) : FixStatusView :=
  let fixedVersions := dedupe (·.fingerprint) (fun _ => false)
    (view.relations.flatMap fixedVersionsOf)
  let fixedCommits := dedupe (·.fingerprint) (·.confirmed) (view.relations.flatMap fixedCommitsOf)
  let fixRelations := view.relations.filter fun relation => decide (relation.type ∈ fixRelationTypes)
  let byTarget := groupBy (·.1) (fixedVersions.filterMap fun item =>
    item.targetKey.map fun targetKey => (targetKey, item.version))
  let targets := byTarget.sorted.map fun group =>
    let versions := sortedSet (group.2.map (·.2))
    { targetKey := group.1, versions, conflict := decide (1 < versions.length) : TargetStatus }
  { objectId := view.objectId
    identifiers := view.identifiers
    known := fixedVersions ≠ [] ∨ fixedCommits ≠ [] ∨ fixRelations ≠ []
    fixedVersions, fixedCommits, targets
    versionConflict := targets.any (·.conflict)
    fixRelations }

/-! ## The view of a repository -/

structure RepoField where
  claimId : ClaimId
  value : JsonValue
  qualifier : JsonObject
  revision : ℕ
  deriving DecidableEq

structure DevelopmentObject where
  (objectId objectType canonicalKey : String)
  properties : JsonObject
  relationId : RelationId
  revision : ℕ
  deriving DecidableEq

structure RepoSecurityView where
  (objectId canonicalKey : String)
  properties : JsonObject
  fields : List (String × RepoField)
  developmentObjectCounts : List (String × ℕ)
  developmentObjects : List DevelopmentObject
  deriving DecidableEq

def developmentObject? (base : KnowledgeBase) (row : RelationModel) : Option DevelopmentObject :=
  (base.objects.get? row.sourceObjectId).map fun source =>
    { objectId := source.objectId
      objectType := source.objectType
      canonicalKey := source.canonicalKey
      properties := source.properties
      relationId := row.relationId
      revision := row.createdRevision }

/-- `_repo_security_projection`. -/
def repoSecurityProjection (texts : IdTexts) (base : KnowledgeBase) (object : ObjectModel) :
    RepoSecurityView :=
  let claims := orderClaims texts (acceptedClaims base object.objectId)
  let inbound := (orderRelations texts (relationsTo base object.objectId)).filter
    (·.relationType = "belongs-to-repo")
  let developmentObjects := inbound.filterMap (developmentObject? base)
  { objectId := object.objectId
    canonicalKey := object.canonicalKey
    properties := object.properties
    fields := (claims.foldl (fun fields claim => fields.set claim.predicate
      { claimId := claim.claimId, value := claim.value, qualifier := claim.qualifier
        revision := claim.createdRevision }) (Dict.empty : Dict String RepoField)).entries
    developmentObjectCounts := (groupBy (·.objectType) developmentObjects).entries.map
      fun group => (group.1, group.2.length)
    developmentObjects }

/-! ## The views of an object -/

inductive ProjectionType where
  | currentVulnerabilityView
  | currentAffectedVersions
  | currentFixStatus
  | currentRepoSecurityState
  deriving DecidableEq

inductive ProjectionData where
  | vulnerability (view : VulnerabilityView)
  | affectedVersions (view : AffectedVersionsView)
  | fixStatus (view : FixStatusView)
  | repoSecurity (view : RepoSecurityView)
  deriving DecidableEq

/-- One view of an object, with the key it is looked up by. -/
structure ObjectView where
  projectionType : ProjectionType
  projectionKey : String
  data : ProjectionData

/-- The views that `rebuild_knowledge_object_views` computes. -/
def objectViews (texts : IdTexts) (base : KnowledgeBase) (objectId : String) : List ObjectView :=
  match base.objects.get? objectId with
  | none => []
  | some object =>
      if object.objectType = "Vulnerability" then
        let view := vulnerabilityProjection texts base object
        let projectionKey := (primaryIdentifier view "cve").getD object.canonicalKey
        [⟨.currentVulnerabilityView, projectionKey, .vulnerability view⟩,
          ⟨.currentAffectedVersions, projectionKey, .affectedVersions (affectedVersionsProjection view)⟩,
          ⟨.currentFixStatus, projectionKey, .fixStatus (fixStatusProjection view)⟩]
      else if object.objectType = "Repo" then
        [⟨.currentRepoSecurityState, object.canonicalKey,
          .repoSecurity (repoSecurityProjection texts base object)⟩]
      else []

/-- One row of `current_projections`; its identifier is that of type and subject. -/
structure CurrentProjectionModel where
  projectionType : ProjectionType
  (subjectId projectionKey : String)
  data : ProjectionData
  upstreamRevision : ℕ
  updatedAt : ℤ

abbrev Projections :=
  Table CurrentProjectionModel (ProjectionType × String) fun row => (row.projectionType, row.subjectId)

/-- `_upsert`, for either database: a row that is as new is kept. -/
def upsertView (subjectId : String) (upstreamRevision : ℕ) (now : ℤ) (projections : Projections)
    (view : ObjectView) : Projections :=
  let row : CurrentProjectionModel :=
    { projectionType := view.projectionType
      subjectId
      projectionKey := view.projectionKey
      data := view.data
      upstreamRevision
      updatedAt := now }
  match projections.get? (view.projectionType, subjectId) with
  | some existing =>
      if upstreamRevision ≤ existing.upstreamRevision then projections else projections.put row
  | none => projections.put row

/-! ## The pipeline -/

/-- What a handler of `knowledge.changed` has computed for one object and not yet
stored. -/
structure Reading where
  processingRunId : ProcessingRunId
  revision : ℕ
  objectId : String
  views : List ObjectView

structure Pipeline where
  base : KnowledgeBase
  /-- The last number the sequence of revisions has given out. -/
  allocated : ℕ
  /-- The revisions of the transactions that are open. -/
  pending : List ℕ
  readings : List Reading
  projections : Projections
  /-- For which objects of which events a handler has stored the views. -/
  handled : List (ProcessingRunId × String)

def Pipeline.empty : Pipeline := ⟨.empty, 0, [], [], .empty, []⟩

inductive PipelineOp where
  /-- A writer opens its transaction and is given a revision. -/
  | begin
  /-- The transaction of a revision commits; it has met the store as it is now. -/
  | commit (op : ApplyOp)
  /-- A handler of an event computes the views of one of its objects. -/
  | read (processingRunId : ProcessingRunId) (objectId : String)
  /-- A handler stores what it has computed. -/
  | store (position : ℕ) (now : ℤ)

def pipelineStep (texts : IdTexts) (op : PipelineOp) (pipeline : Pipeline) :
    Except Raised (Unit × Pipeline) :=
  match op with
  | .begin => .ok ((), { pipeline with
      allocated := pipeline.allocated + 1
      pending := pipeline.pending ++ [pipeline.allocated + 1] })
  | .commit op => do
      require (op.revision ∈ pipeline.pending) (.runtimeError "no such transaction")
      let (_, base) ← writerService op pipeline.base
      return ((), { pipeline with base, pending := pipeline.pending.erase op.revision })
  | .read processingRunId objectId => do
      let event ← fetch (pipeline.base.outbox.get? processingRunId) (.lookupError "no such event")
      require (objectId ∈ event.objectIds) (.lookupError "no such object in the event")
      return ((), { pipeline with
        readings := pipeline.readings ++ [⟨processingRunId, event.revision, objectId,
          objectViews texts pipeline.base objectId⟩] })
  | .store position now => do
      let reading ← fetch pipeline.readings[position]? (.lookupError "no such reading")
      return ((), { pipeline with
        readings := pipeline.readings.eraseIdx position
        projections := reading.views.foldl
          (upsertView reading.objectId reading.revision now) pipeline.projections
        handled := pipeline.handled ++ [(reading.processingRunId, reading.objectId)] })

/-- The pipeline after a sequence of steps from an empty store. -/
def pipelineAfter (texts : IdTexts) (ops : List PipelineOp) : Pipeline :=
  run (pipelineStep texts) Pipeline.empty ops

/-- Every object of every committed change has been handled. -/
def AllHandled (pipeline : Pipeline) : Prop :=
  ∀ event ∈ pipeline.base.outbox.rows, ∀ objectId ∈ event.objectIds,
    (event.processingRunId, objectId) ∈ pipeline.handled

def storedView (pipeline : Pipeline) (projectionType : ProjectionType) (objectId : String) :
    Option (String × ProjectionData) :=
  (pipeline.projections.get? (projectionType, objectId)).map fun row =>
    (row.projectionKey, row.data)

/-- The view of one type that follows from the committed store. -/
def computedView (texts : IdTexts) (base : KnowledgeBase) (projectionType : ProjectionType)
    (objectId : String) : Option (String × ProjectionData) :=
  ((objectViews texts base objectId).find? fun view => view.projectionType = projectionType).map
    fun view => (view.projectionKey, view.data)

/-- **Convergence**: what is stored of each object is what follows from the
committed store. -/
def Converged (texts : IdTexts) (pipeline : Pipeline) : Prop :=
  ∀ projectionType objectId,
    storedView pipeline projectionType objectId =
      computedView texts pipeline.base projectionType objectId

end SecFusion.Knowledge
