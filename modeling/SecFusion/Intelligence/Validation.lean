import SecFusion.Foundations.Dict
import SecFusion.Foundations.Table
import SecFusion.Foundations.Text

/-!
# Reading the knowledge base

The model of `packages/intelligence/retrieval/validation.py`: how an
investigation asks whether an object or an incident exists, what a list of
evidence references is evidence of, and which knowledge it depends on.  The
knowledge base is written by other services, so a call that reads it takes it as
an argument and leaves it as it is.
-/

namespace SecFusion.Intelligence

open Foundations

/-! ## Rows -/

/-- What a link is evidence of. -/
inductive TargetKind where
  | object
  | claim
  | relation
  /-- A target of another kind, which no reader here looks at. -/
  | other (kind : String)

/-- One row of `evidence_links`. -/
structure EvidenceLinkModel where
  (evidenceLinkId observationId : String)
  targetKind : TargetKind
  targetId : String

/-- One row of `observations`. -/
structure ObservationModel where
  (observationId sourceId : String)

/-- One row of `sources`. -/
structure SourceModel where
  (sourceId sourceRole : String)
  (sourceFamily upstreamSource : Option String)

/-- One row of `claims`. -/
structure ClaimModel where
  (claimId subjectId : String)

/-- One row of `relations`. -/
structure RelationModel where
  (relationId sourceObjectId targetObjectId : String)

/-- The tables the readers use.  Objects and incidents are asked for their
existence only. -/
structure KnowledgeStore where
  (objects incidents : List String)
  claims : Table ClaimModel String (·.claimId)
  relations : Table RelationModel String (·.relationId)
  evidenceLinks : Table EvidenceLinkModel String (·.evidenceLinkId)
  observations : Table ObservationModel String (·.observationId)
  sources : Table SourceModel String (·.sourceId)
  /-- The committed knowledge revisions. -/
  revisions : List ℕ

def KnowledgeStore.empty : KnowledgeStore :=
  ⟨[], [], .empty, .empty, .empty, .empty, .empty, []⟩

/-! ## Readers -/

def currentKnowledgeRevision (knowledge : KnowledgeStore) : ℕ := knowledge.revisions.foldl max 0

/-- `_evidence_link_id`. -/
def evidenceLinkId (evidenceRef : String) : String := Text.removeHead "evidence:" evidenceRef

structure EvidenceDependency where
  evidenceRef : String
  targetKind : TargetKind
  targetId : String

/-- `evidence_dependencies`: the targets of the referenced links, each under the
first reference that names the link. -/
def evidenceDependencies (knowledge : KnowledgeStore) (evidenceRefs : List String) :
    List EvidenceDependency :=
  knowledge.evidenceLinks.rows.filterMap fun link =>
    (evidenceRefs.find? fun ref => evidenceLinkId ref = link.evidenceLinkId).map fun ref =>
      ⟨ref, link.targetKind, link.targetId⟩

/-- `validate_object_refs`: the objects that do not exist. -/
def validateObjectRefs (knowledge : KnowledgeStore) (objectIds : List String) : List String :=
  objectIds.filter (· ∉ knowledge.objects)

def validateTargetRef (knowledge : KnowledgeStore) (targetRef : String) : Bool :=
  match Text.partition ':' targetRef with
  | none => false
  | some (kind, identity) =>
      if identity = "" then false
      else if kind = "object" then identity ∈ knowledge.objects
      else if kind = "incident" then identity ∈ knowledge.incidents
      else false

structure EvidenceSupportSummary where
  (evidenceRefs sourceRoles independentSourceKeys supportedObjectIds : List String := [])

/-- A column that Python takes for true: present and not empty. -/
def truthy (value : Option String) : Option String := value.filter (· ≠ "")

/-- What makes two sources independent of each other. -/
def independenceKey (source : SourceModel) : String :=
  match truthy source.upstreamSource with
  | some upstream => "upstream:" ++ upstream
  | none =>
      match truthy source.sourceFamily with
      | some family => "family:" ++ family
      | none => "source:" ++ source.sourceId

def supportedObjects (knowledge : KnowledgeStore) (link : EvidenceLinkModel) : List String :=
  match link.targetKind with
  | .object => [link.targetId]
  | .claim => ((knowledge.claims.get? link.targetId).map (·.subjectId)).toList
  | .relation =>
      match knowledge.relations.get? link.targetId with
      | some relation => [relation.sourceObjectId, relation.targetObjectId]
      | none => []
  | .other _ => []

/-- The links of the references, joined with the observation and the source of
each. -/
def supportingRows (knowledge : KnowledgeStore) (evidenceRefs : List String) :
    List (EvidenceLinkModel × SourceModel) :=
  knowledge.evidenceLinks.rows.filterMap fun link =>
    if link.evidenceLinkId ∈ evidenceRefs.map evidenceLinkId then
      match knowledge.observations.get? link.observationId with
      | none => none
      | some observation =>
          (knowledge.sources.get? observation.sourceId).map fun source => (link, source)
    else none

def evidenceSupportSummary (knowledge : KnowledgeStore) (evidenceRefs : List String) :
    EvidenceSupportSummary :=
  let rows := supportingRows knowledge evidenceRefs
  let found := rows.map (·.1.evidenceLinkId)
  { evidenceRefs := sortedSet (evidenceRefs.filter (evidenceLinkId · ∈ found))
    sourceRoles := sortedSet (rows.map (·.2.sourceRole))
    independentSourceKeys := sortedSet (rows.map (independenceKey ·.2))
    supportedObjectIds := sortedSet (rows.flatMap (supportedObjects knowledge ·.1)) }

end SecFusion.Intelligence
