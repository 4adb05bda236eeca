import SecFusion.Normalization.CVEListV5
import SecFusion.Knowledge.Supersession
import SecFusion.Foundations.Restating

/-!
# What the last observation says

After a fresh call the source is meant to say of the vulnerability what the observation
says, and nothing else.  For claims this is so: every predicate of the projection is
superseded, whether the observation has a value for it or not.  But relations are
superseded type by type for the types that the new relations have, so a type that the
observation has nothing of keeps what an earlier observation said
(`normalisation_reflects`).

A claim or a relation is filed under an identifier that tells its kind: the object, the
predicate or type, and the observation, which tells the source.
-/

namespace SecFusion.Normalization

open Foundations Knowledge Restating

/-! ## What an observation says -/

/-- What a normaliser reads of an observation. -/
structure Said where
  objectId : String
  claims : List ClaimCandidate
  relations : List RelationCandidate

/-- The object, the claims and the relations that `normalize` derives from an observation. -/
def saidBy (normalizer : CanonicalNormalizer) (observation : Observation) : Except Raised Said := do
  let projected ← normalizer.projection observation.payload
  let cveId ← fetch ((projected.get? "cve_id").bind (·.text?))
    (.valueError "NVD canonical normalization requires cve_id")
  let objectId ← vulnerabilityCveObjectId cveId
  let relations ← normalizer.relationsFor projected observation.payload
  return ⟨objectId, claimsOf normalizer projected, relations⟩

def Said.claimIds (said : Said) (observationId predicate : String) : Set ClaimId :=
  { id | ∃ claim ∈ said.claims, claim.predicate = predicate ∧
      id = ⟨said.objectId, predicate, observationId, claim.value, claim.qualifier⟩ }

/-- The relations of one type that are derived, to the objects that the knowledge base
has for their targets. -/
def Said.relationIds (said : Said) (base : KnowledgeBase) (observationId relationType : String) :
    Set RelationId :=
  { id | ∃ relation ∈ said.relations, relation.relationType = relationType ∧
      ∃ targetId, objectIdFor base relation.target.objectType relation.target.canonicalKey =
        .ok targetId ∧
      id = ⟨said.objectId, relationType, targetId, observationId, relation.qualifier⟩ }

/-- The active relations of the object, type and source. -/
def activeRelations (base : KnowledgeBase) (subjectId relationType sourceId : String) :
    Set RelationId :=
  { id | ∃ row, base.relations.get? id = some row ∧
      row.isCurrent subjectId relationType sourceId = true }

/-- **What a fresh call is meant to leave.** -/
structure Reflects (normalizer : CanonicalNormalizer) (observationId sourceId : String)
    (said : Said) (base next : KnowledgeBase) : Prop where
  claims : ∀ predicate ∈ normalizer.predicates,
    activeClaims next said.objectId predicate sourceId = said.claimIds observationId predicate
  relations : ∀ relationType ∈ normalizer.relationTypes,
    activeRelations next said.objectId relationType sourceId =
      said.relationIds next observationId relationType
  otherClaims : ∀ id row, base.claims.get? id = some row ∨ next.claims.get? id = some row →
    JsonObject.get? row.qualifier "source_id" ≠ some (.string sourceId) →
    next.claims.get? id = base.claims.get? id
  otherRelations : ∀ id row,
    base.relations.get? id = some row ∨ next.relations.get? id = some row →
    JsonObject.get? row.qualifier "source_id" ≠ some (.string sourceId) →
    next.relations.get? id = base.relations.get? id

/-- **The condition**: the observation has a relation of each type of which the source has
one so far. -/
def Covered (normalizer : CanonicalNormalizer) (sourceId : String) (said : Said)
    (base : KnowledgeBase) : Prop :=
  ∀ relationType ∈ normalizer.relationTypes,
    (activeRelations base said.objectId relationType sourceId).Nonempty →
    relationType ∈ said.relations.map (·.relationType)

/-! ## Filing -/

/-- What a claim is about, and who says it. -/
structure ClaimKind where
  (subjectId predicate sourceId : String)

/-- What a relation leaves from, and who says it. -/
structure RelationKind where
  (subjectId relationType sourceId : String)

/-- A relation of the object, type and source, active or not. -/
structure RelationIsOf (row : RelationModel) (subjectId relationType sourceId : String) :
    Prop where
  subject : row.sourceObjectId = subjectId
  relationType : row.relationType = relationType
  accepted : row.lifecycle = .accepted
  source : JsonObject.get? row.qualifier "source_id" = some (.string sourceId)

variable {row : RelationModel} {subjectId relationType sourceId predicate : String}
  {id : RelationId} {base : KnowledgeBase} {store : NormalizationStore}
  {result : NormalizationResult}

theorem isCurrent_relation_iff :
    row.isCurrent subjectId relationType sourceId = true ↔
      RelationIsOf row subjectId relationType sourceId ∧ row.supersededRevision = none := by
  simp only [RelationModel.isCurrent, decide_eq_true_eq]
  constructor
  · rintro ⟨subject, type, accepted, active, source⟩
    exact ⟨⟨subject, type, accepted, source⟩, active⟩
  · rintro ⟨⟨subject, type, accepted, source⟩, active⟩
    exact ⟨subject, type, accepted, active, source⟩

/-- The vocabulary of a qualifier does not hide its source. -/
theorem newRelation_isOf (context : WriteContext) (targetId : String)
    (relation : RelationCandidate) :
    RelationIsOf (newRelation context targetId relation) context.root.objectId
      relation.relationType context.write.sourceId := by
  refine ⟨rfl, rfl, rfl, ?_⟩
  simp only [newRelation, storedQualifier, vocabularyMetadata, JsonObject.update, foldl_cons,
    foldl_nil]
  rw [JsonObject.get?_set_of_ne _ _ (by decide), JsonObject.get?_set_of_ne _ _ (by decide),
    JsonObject.get?_set_self]

section Filing

variable (observed : String → Observation)

def claimKind (id : ClaimId) : ClaimKind :=
  ⟨id.rootObjectId, id.predicate, (observed id.observationId).sourceId⟩

def relationKind (id : RelationId) : RelationKind :=
  ⟨id.rootObjectId, id.relationType, (observed id.observationId).sourceId⟩

/-- **Filing**: a row is what its identifier tells. -/
structure Filed (base : KnowledgeBase) : Prop where
  claims : ∀ id row, base.claims.get? id = some row →
    row.IsOf id.rootObjectId id.predicate (observed id.observationId).sourceId
  relations : ∀ id row, base.relations.get? id = some row →
    RelationIsOf row id.rootObjectId id.relationType (observed id.observationId).sourceId

end Filing

/-- The statement has no end. -/
abbrev ClaimActive (row : ClaimModel) : Prop := row.supersededRevision = none

abbrev RelationActive (row : RelationModel) : Prop := row.supersededRevision = none

section Kinds

variable {observed : String → Observation} {next : KnowledgeBase}

theorem Filed.isCurrent_claim_iff (filed : Filed observed base) {id : ClaimId} {row : ClaimModel}
    (found : base.claims.get? id = some row) :
    row.isCurrent subjectId predicate sourceId = true ↔
      claimKind observed id = ⟨subjectId, predicate, sourceId⟩ ∧ ClaimActive row := by
  have isOf := filed.claims id row found
  rw [ClaimModel.isCurrent_iff]
  constructor
  · rintro ⟨⟨subject, names, -, source⟩, active⟩
    have same : (observed id.observationId).sourceId = sourceId :=
      JsonValue.string.inj (mem_unique isOf.source source)
    refine ⟨?_, active⟩
    rw [claimKind, ← isOf.subject, ← isOf.predicate, subject, names, same]
  · rintro ⟨same, active⟩
    cases same
    exact ⟨isOf, active⟩

theorem Filed.isCurrent_relation_iff (filed : Filed observed base)
    (found : base.relations.get? id = some row) :
    row.isCurrent subjectId relationType sourceId = true ↔
      relationKind observed id = ⟨subjectId, relationType, sourceId⟩ ∧ RelationActive row := by
  have isOf := filed.relations id row found
  rw [Normalization.isCurrent_relation_iff]
  constructor
  · rintro ⟨⟨subject, names, -, source⟩, active⟩
    have same : (observed id.observationId).sourceId = sourceId :=
      JsonValue.string.inj (mem_unique isOf.source source)
    refine ⟨?_, active⟩
    rw [relationKind, ← isOf.subject, ← isOf.relationType, subject, names, same]
  · rintro ⟨same, active⟩
    cases same
    exact ⟨isOf, active⟩

/-- The active claims, read from their identifiers. -/
theorem Filed.activeClaims_eq (filed : Filed observed base)
    (subjectId predicate sourceId : String) :
    activeClaims base subjectId predicate sourceId =
      activeOf (claimKind observed) ClaimActive base.claims.get?
        ⟨subjectId, predicate, sourceId⟩ := by
  ext id
  constructor
  · rintro ⟨row, found, current⟩
    obtain ⟨same, active⟩ := (filed.isCurrent_claim_iff found).1 current
    exact ⟨same, row, found, active⟩
  · rintro ⟨same, row, found, active⟩
    exact ⟨row, found, (filed.isCurrent_claim_iff found).2 ⟨same, active⟩⟩

/-- The active relations, read from their identifiers. -/
theorem Filed.activeRelations_eq (filed : Filed observed base)
    (subjectId relationType sourceId : String) :
    activeRelations base subjectId relationType sourceId =
      activeOf (relationKind observed) RelationActive base.relations.get?
        ⟨subjectId, relationType, sourceId⟩ := by
  ext id
  constructor
  · rintro ⟨row, found, current⟩
    obtain ⟨same, active⟩ := (filed.isCurrent_relation_iff found).1 current
    exact ⟨same, row, found, active⟩
  · rintro ⟨same, row, found, active⟩
    exact ⟨row, found, (filed.isCurrent_relation_iff found).2 ⟨same, active⟩⟩

theorem Filed.empty : Filed observed KnowledgeBase.empty where
  claims := by
    intro id row found
    cases found
  relations := by
    intro id row found
    cases found

/-- Filing is about the claims and relations only. -/
theorem Filed.of_eq (filed : Filed observed base) (claims : next.claims = base.claims)
    (relations : next.relations = base.relations) : Filed observed next where
  claims := by
    rw [claims]
    exact filed.claims
  relations := by
    rw [relations]
    exact filed.relations

end Kinds

/-! ## Superseding -/

section Superseding

variable {observed : String → Observation} {next : KnowledgeBase} {context : WriteContext}

def claimKinds (subjectId sourceId : String) (predicates : List String) : Set ClaimKind :=
  { kind | ∃ predicate ∈ predicates, kind = ⟨subjectId, predicate, sourceId⟩ }

def relationKinds (subjectId sourceId : String) (types : List String) : Set RelationKind :=
  { kind | ∃ relationType ∈ types, kind = ⟨subjectId, relationType, sourceId⟩ }

theorem claimKinds_cons (subjectId sourceId predicate : String) (rest : List String) :
    claimKinds subjectId sourceId (predicate :: rest) =
      {⟨subjectId, predicate, sourceId⟩} ∪ claimKinds subjectId sourceId rest := by
  ext kind
  simp [claimKinds]

theorem relationKinds_cons (subjectId sourceId relationType : String) (rest : List String) :
    relationKinds subjectId sourceId (relationType :: rest) =
      {⟨subjectId, relationType, sourceId⟩} ∪ relationKinds subjectId sourceId rest := by
  ext kind
  simp [relationKinds]

theorem supersedeSourceClaims_ends (filed : Filed observed base)
    (subjectId predicate sourceId : String) (revision : ℕ) :
    Ends (claimKind observed) ClaimActive {⟨subjectId, predicate, sourceId⟩} base.claims.get?
        (supersedeSourceClaims base subjectId predicate sourceId revision).claims.get? ∧
      Filed observed (supersedeSourceClaims base subjectId predicate sourceId revision) := by
  have mapped := get?_supersedeSourceClaims base subjectId predicate sourceId revision
  constructor
  · refine Ends.of_map mapped (fun id row found => filed.isCurrent_claim_iff found) ?_
    intro row ended
    cases ended
  · refine ⟨fun id row found => ?_, filed.relations⟩
    rw [mapped] at found
    obtain ⟨old, was, rfl⟩ := map_eq_some_iff.1 found
    obtain ⟨⟨ending, changed⟩, -⟩ := old.afterSupersede_cases subjectId predicate sourceId revision
    rw [changed]
    exact (filed.claims id old was).withSuperseded ending

theorem supersedeSourceRelations_ends (filed : Filed observed base)
    (subjectId relationType sourceId : String) (revision : ℕ) :
    Ends (relationKind observed) RelationActive {⟨subjectId, relationType, sourceId⟩}
        base.relations.get?
        (supersedeSourceRelations base subjectId relationType sourceId revision).relations.get? ∧
      Filed observed (supersedeSourceRelations base subjectId relationType sourceId revision) := by
  have mapped : ∀ id,
      (supersedeSourceRelations base subjectId relationType sourceId revision).relations.get? id =
        (base.relations.get? id).map fun row =>
          if row.isCurrent subjectId relationType sourceId then
            row.withSuperseded (some revision) else row := by
    intro id
    rw [supersedeSourceRelations, get?_modify]
  constructor
  · refine Ends.of_map mapped (fun id row found => filed.isCurrent_relation_iff found) ?_
    intro row ended
    cases ended
  · refine ⟨filed.claims, fun id row found => ?_⟩
    rw [mapped] at found
    obtain ⟨old, was, rfl⟩ := map_eq_some_iff.1 found
    have isOf := filed.relations id old was
    split
    · exact ⟨isOf.subject, isOf.relationType, isOf.accepted, isOf.source⟩
    · exact isOf

/-- **The loop over the predicates** ends the claims of all of them. -/
theorem supersedePredicates_ok (filed : Filed observed base) {predicates : List String}
    (ok : predicates.foldlM (supersedePredicate context) base = .ok next) :
    Ends (claimKind observed) ClaimActive
        (claimKinds context.root.objectId context.write.sourceId predicates) base.claims.get?
        next.claims.get? ∧
      Filed observed next ∧ ∃ claims, next = { base with claims } := by
  induction predicates generalizing base with
  | nil =>
      cases ok
      have none : claimKinds context.root.objectId context.write.sourceId [] = ∅ := by
        ext kind
        simp [claimKinds]
      rw [none]
      exact ⟨.refl, filed, _, rfl⟩
  | cons predicate rest ih =>
      rw [foldlM_cons, bind_eq_ok] at ok
      obtain ⟨middle, here, later⟩ := ok
      obtain ⟨-, here⟩ := require_bind_eq_ok.1 here
      cases here
      obtain ⟨ends, filedNow⟩ := supersedeSourceClaims_ends filed context.root.objectId predicate
        context.write.sourceId context.revision
      obtain ⟨endsLater, filedLater, claims, rfl⟩ := ih filedNow later
      rw [claimKinds_cons]
      exact ⟨ends.trans endsLater, filedLater, claims, rfl⟩

/-- **The loop over the types** ends the relations of all of them. -/
theorem supersedeTypes_ends (context : WriteContext) (filed : Filed observed base)
    (types : List String) :
    Ends (relationKind observed) RelationActive
        (relationKinds context.root.objectId context.write.sourceId types) base.relations.get?
        (supersedeTypes context base types).relations.get? ∧
      Filed observed (supersedeTypes context base types) ∧
      ∃ relations, supersedeTypes context base types = { base with relations } := by
  induction types generalizing base with
  | nil =>
      have none : relationKinds context.root.objectId context.write.sourceId [] = ∅ := by
        ext kind
        simp [relationKinds]
      rw [none]
      exact ⟨.refl, filed, base.relations, rfl⟩
  | cons relationType rest ih =>
      obtain ⟨ends, filedNow⟩ := supersedeSourceRelations_ends filed context.root.objectId
        relationType context.write.sourceId context.revision
      obtain ⟨endsLater, filedLater, relations, same⟩ := ih filedNow
      rw [relationKinds_cons]
      exact ⟨ends.trans endsLater, filedLater, relations, same⟩

end Superseding

/-! ## Storing -/

section Storing

variable {observed : String → Observation} {next : KnowledgeBase} {context : WriteContext}

/-- The context is that of an observation: the source is the observation's. -/
def OfObservation (observed : String → Observation) (context : WriteContext) : Prop :=
  context.write.sourceId = (observed context.write.observation.observationId).sourceId

variable (observed) in
theorem contextOf_ofObservation (normalizer : CanonicalNormalizer) (observationId : String)
    (claims : List ClaimCandidate) (root : ObjectModel) (runId : ProcessingRunId) (revision : ℕ)
    (origin : KnowledgeOrigin) : OfObservation observed
      (contextOf normalizer observationId (observed observationId) claims root runId revision
        origin) := rfl

theorem storeClaim_stores (own : OfObservation observed context) (filed : Filed observed base)
    {claim : ClaimCandidate} (ok : storeClaim context base claim = .ok next) :
    Stores ClaimActive (claimIdOf context.write context.root.objectId claim) base.claims.get?
        next.claims.get? ∧ Filed observed next ∧
      ∃ claims evidenceLinks, next = { base with claims, evidenceLinks } := by
  obtain ⟨⟨claims, evidenceLinks, rfl⟩, lookup⟩ := storeClaim_ok ok
  refine ⟨⟨?_, ?_⟩, ⟨?_, filed.relations⟩, claims, evidenceLinks, rfl⟩
  · refine ⟨_, (lookup _).trans (if_pos rfl), ?_⟩
    cases base.claims.get? (claimIdOf context.write context.root.objectId claim) <;> rfl
  · intro other different
    rw [lookup, if_neg fun same => different same.symm]
  · intro id row found
    rw [lookup] at found
    split at found
    next same =>
      subst same
      cases was : base.claims.get? (claimIdOf context.write context.root.objectId claim) with
      | none =>
          rw [was] at found
          cases found
          have isOf := newClaim_isOf context claim
          rw [own] at isOf
          exact isOf
      | some old =>
          rw [was] at found
          cases found
          exact (filed.claims _ old was).withSuperseded none
    next => exact filed.claims id row found

theorem storeRelation_stores (own : OfObservation observed context) (filed : Filed observed base)
    {targetId : String} {relation : RelationCandidate}
    (ok : storeRelation context base targetId relation = .ok next) :
    Stores RelationActive (relationIdOf context.write context.root.objectId targetId relation)
        base.relations.get? next.relations.get? ∧ Filed observed next ∧
      ∃ relations evidenceLinks, next = { base with relations, evidenceLinks } := by
  obtain ⟨⟨relations, evidenceLinks, rfl⟩, lookup⟩ := storeRelation_ok ok
  refine ⟨⟨?_, ?_⟩, ⟨filed.claims, ?_⟩, relations, evidenceLinks, rfl⟩
  · refine ⟨_, (lookup _).trans (if_pos rfl), ?_⟩
    cases base.relations.get? (relationIdOf context.write context.root.objectId targetId relation)
      <;> rfl
  · intro other different
    rw [lookup, if_neg fun same => different same.symm]
  · intro id row found
    rw [lookup] at found
    split at found
    next same =>
      subst same
      cases was : base.relations.get?
          (relationIdOf context.write context.root.objectId targetId relation) with
      | none =>
          rw [was] at found
          cases found
          have isOf := newRelation_isOf context targetId relation
          rw [own] at isOf
          exact isOf
      | some old =>
          rw [was] at found
          cases found
          have isOf := filed.relations _ old was
          exact ⟨isOf.subject, isOf.relationType, isOf.accepted, isOf.source⟩
    next => exact filed.relations id row found

/-- The identifiers that the claims are stored under. -/
def storedClaims (context : WriteContext) (claims : List ClaimCandidate) : Set ClaimId :=
  { id | ∃ claim ∈ claims, id = claimIdOf context.write context.root.objectId claim }

/-- The identifiers that the relations are stored under, to the objects that the
knowledge base has for their targets. -/
def storedRelations (context : WriteContext) (base : KnowledgeBase)
    (relations : List RelationCandidate) : Set RelationId :=
  { id | ∃ relation ∈ relations, ∃ targetId,
      objectIdFor base relation.target.objectType relation.target.canonicalKey = .ok targetId ∧
      id = relationIdOf context.write context.root.objectId targetId relation }

variable {kinds : Set ClaimKind} {stored : Set ClaimId} {before : ClaimId → Option ClaimModel}

/-- **The loop over the claims** restates them. -/
theorem storeClaims_restated (own : OfObservation observed context) {claims : List ClaimCandidate}
    (filed : Filed observed base)
    (restated : Restated (claimKind observed) ClaimActive kinds stored before base.claims.get?)
    (ok : claims.foldlM (storeClaim context) base = .ok next) :
    Restated (claimKind observed) ClaimActive kinds (stored ∪ storedClaims context claims) before
        next.claims.get? ∧ Filed observed next ∧
      ∃ claims evidenceLinks, next = { base with claims, evidenceLinks } := by
  induction claims generalizing base stored with
  | nil =>
      cases ok
      have none : storedClaims context [] = ∅ := by
        ext id
        simp [storedClaims]
      rw [none, Set.union_empty]
      exact ⟨restated, filed, _, _, rfl⟩
  | cons claim rest ih =>
      rw [foldlM_cons, bind_eq_ok] at ok
      obtain ⟨middle, here, later⟩ := ok
      obtain ⟨stores, filedNow, claims, evidenceLinks, rfl⟩ := storeClaim_stores own filed here
      obtain ⟨restatedLater, filedLater, laterClaims, laterLinks, rfl⟩ :=
        ih filedNow (restated.store stores) later
      have same : stored ∪ storedClaims context (claim :: rest) =
          insert (claimIdOf context.write context.root.objectId claim) stored ∪
            storedClaims context rest := by
        ext id
        simp only [storedClaims, Set.mem_union, Set.mem_ofPred_eq, Set.mem_insert_iff,
          mem_cons, exists_eq_or_imp]
        tauto
      rw [same]
      exact ⟨restatedLater, filedLater, laterClaims, laterLinks, rfl⟩

variable {typeKinds : Set RelationKind} {storedIds : Set RelationId}
variable {relationsBefore : RelationId → Option RelationModel}

/-- **The loop over the relations** restates them. -/
theorem normalizeRelations_restated (own : OfObservation observed context)
    {relations : List RelationCandidate} {objectIds laterIds : List String}
    {relationIds laterRelations : List RelationId} (filed : Filed observed base)
    (restated : Restated (relationKind observed) RelationActive typeKinds storedIds
      relationsBefore base.relations.get?)
    (ok : normalizeRelations context base objectIds relationIds relations =
      .ok (laterIds, laterRelations, next)) :
    Restated (relationKind observed) RelationActive typeKinds
        (storedIds ∪ storedRelations context base relations) relationsBefore
        next.relations.get? ∧
      Filed observed next ∧ SameObjects base next ∧ next.claims = base.claims := by
  induction relations generalizing base storedIds objectIds relationIds with
  | nil =>
      cases ok
      have none : storedRelations context next [] = ∅ := by
        ext id
        simp [storedRelations]
      rw [none, Set.union_empty]
      exact ⟨restated, filed, .of_eq rfl, rfl⟩
  | cons relation rest ih =>
      obtain ⟨⟨target, objected⟩, storing, ok⟩ := bind_eq_ok.1 ok
      obtain ⟨-, ok⟩ := require_bind_eq_ok.1 ok
      obtain ⟨middle, relating, ok⟩ := bind_eq_ok.1 ok
      obtain ⟨⟨⟨objects, identifiers, rfl⟩, sameNow⟩, resolved⟩ := upsertObject_ok storing
      have filedObjects : Filed observed { base with objects, identifiers } := filed.of_eq rfl rfl
      obtain ⟨stores, filedNow, rows, evidenceLinks, rfl⟩ :=
        storeRelation_stores own filedObjects relating
      obtain ⟨restatedLater, filedLater, sameLater, claims⟩ :=
        ih filedNow (restated.store stores) ok
      have resolves : SameObjects base { base with
          objects, identifiers, relations := rows, evidenceLinks } := sameNow.trans (.of_eq rfl)
      have same : storedIds ∪ storedRelations context base (relation :: rest) =
          insert (relationIdOf context.write context.root.objectId target.objectId relation)
            storedIds ∪ storedRelations context { base with
              objects, identifiers, relations := rows, evidenceLinks } rest := by
        ext id
        simp only [storedRelations, Set.mem_union, Set.mem_ofPred_eq, Set.mem_insert_iff,
          mem_cons, exists_eq_or_imp, resolves _ _, resolved, Except.ok.injEq, exists_eq_left']
        tauto
      rw [same]
      exact ⟨restatedLater, filedLater, resolves.trans sameLater, claims⟩

end Storing

/-! ## The transaction -/

section Transaction

variable {observed : String → Observation} {normalizer : CanonicalNormalizer}
variable {observationId : String} {revision : ℕ} {now : ℤ}

def Said.allClaimIds (said : Said) (observationId : String) : Set ClaimId :=
  { id | ∃ claim ∈ said.claims,
      id = ⟨said.objectId, claim.predicate, observationId, claim.value, claim.qualifier⟩ }

def Said.allRelationIds (said : Said) (base : KnowledgeBase) (observationId : String) :
    Set RelationId :=
  { id | ∃ relation ∈ said.relations, ∃ targetId,
      objectIdFor base relation.target.objectType relation.target.canonicalKey = .ok targetId ∧
      id = ⟨said.objectId, relation.relationType, targetId, observationId, relation.qualifier⟩ }

/-- **What a fresh call does**: it restates the claims of all its predicates, and the
relations of the types of its new relations. -/
structure Normalized (observed : String → Observation) (normalizer : CanonicalNormalizer)
    (observationId : String) (said : Said) (base next : KnowledgeBase) : Prop where
  claims : Restated (claimKind observed) ClaimActive
    (claimKinds said.objectId (observed observationId).sourceId normalizer.predicates)
    (said.allClaimIds observationId) base.claims.get? next.claims.get?
  relations : Restated (relationKind observed) RelationActive
    (relationKinds said.objectId (observed observationId).sourceId
      (said.relations.map (·.relationType)).dedup)
    (said.allRelationIds next observationId) base.relations.get? next.relations.get?
  filed : Filed observed next

theorem normalizeObject_ok {next : KnowledgeBase} {projected : Dict String JsonValue}
    {root : ObjectModel} {runId : ProcessingRunId} {change : KnowledgeChangeModel}
    (filed : Filed observed base)
    (reads : normalizer.projection (observed observationId).payload = .ok projected)
    (ok : normalizeObject normalizer base observationId (observed observationId) projected
      root runId revision now = .ok (change, next)) :
    ∃ relations, normalizer.relationsFor projected (observed observationId).payload =
        .ok relations ∧
      Normalized observed normalizer observationId
        ⟨root.objectId, claimsOf normalizer projected, relations⟩ base next := by
  unfold normalizeObject at ok
  obtain ⟨superseded, superseding, ok⟩ := bind_eq_ok.1 ok
  obtain ⟨claimed, claiming, ok⟩ := bind_eq_ok.1 ok
  obtain ⟨relations, relates, ok⟩ := bind_eq_ok.1 ok
  obtain ⟨⟨objectIds, relationIds, related⟩, relating, ok⟩ := bind_eq_ok.1 ok
  refine ⟨relations, relates, ?_⟩
  -- the end of the transaction leaves the claims, the relations and the objects
  have recorded : next.claims = related.claims ∧ next.relations = related.relations ∧
      next.objects = related.objects := by
    unfold recordChange at ok
    simp only [fetch_bind_eq_ok] at ok
    obtain ⟨changes, -, outbox, -, ok⟩ := ok
    cases ok
    exact ⟨rfl, rfl, rfl⟩
  obtain ⟨sameClaims, sameRelations, sameObjects⟩ := recorded
  have own := contextOf_ofObservation observed normalizer observationId
    (claimsOf normalizer projected) root runId revision
  obtain ⟨ends, filedSuperseded, claims, isSuperseded⟩ := supersedePredicates_ok filed superseding
  obtain ⟨restatedClaims, filedClaimed, moreClaims, links, isClaimed⟩ :=
    storeClaims_restated (own _) filedSuperseded (.start ends) claiming
  obtain ⟨endsTypes, filedTypes, rows, isTyped⟩ := supersedeTypes_ends
    (contextOf normalizer observationId (observed observationId) (claimsOf normalizer projected)
      root runId revision .deterministicDerived) filedClaimed
    (relations.map (·.relationType)).dedup
  obtain ⟨restatedRelations, filedRelated, resolves, keptClaims⟩ :=
    normalizeRelations_restated (own _) filedTypes (.start endsTypes) relating
  have relationsKept : claimed.relations = base.relations := by
    rw [isClaimed, isSuperseded]
  have claimsKept : next.claims = claimed.claims := by
    rw [sameClaims, keptClaims, isTyped]
  have predicates : projected.keys.filter (· ≠ "cve_id") = normalizer.predicates := by
    have keys := normalizer.projects _ projected reads
    have distinct : ("cve_id" :: normalizer.predicates).Nodup := keys ▸ projected.nodup
    rw [keys, filter_cons_of_neg (by decide), filter_eq_self]
    intro predicate member
    refine decide_eq_true ?_
    rintro rfl
    exact (nodup_cons.1 distinct).1 member
  refine ⟨?_, ?_, filedRelated.of_eq sameClaims sameRelations⟩
  · rw [Set.empty_union, predicates, ← claimsKept] at restatedClaims
    exact restatedClaims
  · rw [Set.empty_union, relationsKept, ← sameRelations] at restatedRelations
    have resolved : ∀ objectType canonicalKey, objectIdFor next objectType canonicalKey =
        objectIdFor (supersedeTypes (contextOf normalizer observationId (observed observationId)
          (claimsOf normalizer projected) root runId revision .deterministicDerived) claimed
          (relations.map (·.relationType)).dedup) objectType canonicalKey := by
      intro objectType canonicalKey
      rw [← resolves]
      exact SameObjects.of_eq sameObjects objectType canonicalKey
    simp only [Said.allRelationIds, resolved]
    exact restatedRelations

/-- The vulnerability and its identifier are no claims or relations. -/
theorem identify_ok {rooted named : KnowledgeBase} {row : ObjectModel} {objectId cveId : String}
    (storing : storeVulnerability base row = .ok rooted)
    (naming : nameVulnerability rooted objectId cveId = .ok named) :
    named.claims = base.claims ∧ named.relations = base.relations := by
  have stored : rooted.claims = base.claims ∧ rooted.relations = base.relations := by
    unfold storeVulnerability at storing
    split at storing
    · cases storing
      exact ⟨rfl, rfl⟩
    · obtain ⟨objects, -, storing⟩ := fetch_bind_eq_ok.1 storing
      cases storing
      exact ⟨rfl, rfl⟩
  unfold nameVulnerability at naming
  split at naming
  · cases naming
    exact stored
  · obtain ⟨identifiers, -, naming⟩ := fetch_bind_eq_ok.1 naming
    cases naming
    exact stored

theorem normalizeFresh_ok {next : NormalizationStore} (filed : Filed observed store.knowledge)
    (ok : normalizeFresh normalizer store observationId (observed observationId) revision now =
      .ok (result, next)) :
    ∃ said, saidBy normalizer (observed observationId) = .ok said ∧
      Normalized observed normalizer observationId said store.knowledge next.knowledge := by
  unfold normalizeFresh at ok
  obtain ⟨started, starting, ok⟩ := bind_eq_ok.1 ok
  obtain ⟨opened, opening, ok⟩ := bind_eq_ok.1 ok
  obtain ⟨projected, reads, ok⟩ := bind_eq_ok.1 ok
  obtain ⟨cveId, identified, ok⟩ := fetch_bind_eq_ok.1 ok
  obtain ⟨objectId, names, ok⟩ := bind_eq_ok.1 ok
  obtain ⟨canonicalKey, -, ok⟩ := bind_eq_ok.1 ok
  obtain ⟨rooted, storing, ok⟩ := bind_eq_ok.1 ok
  obtain ⟨named, naming, ok⟩ := bind_eq_ok.1 ok
  obtain ⟨⟨change, knowledge⟩, normalizing, ok⟩ := bind_eq_ok.1 ok
  obtain ⟨requests, -, ok⟩ := fetch_bind_eq_ok.1 ok
  cases ok
  obtain ⟨runs, rfl⟩ := startRun_ok starting
  obtain ⟨revisions, -, rfl⟩ := openRevision_ok opening
  obtain ⟨claims, relations⟩ := identify_ok storing naming
  obtain ⟨candidates, relates, normalized⟩ :=
    normalizeObject_ok (filed.of_eq claims relations) reads normalizing
  refine ⟨⟨objectId, claimsOf normalizer projected, candidates⟩, ?_, ?_⟩
  · unfold saidBy
    rw [reads, ok_bind, identified]
    simp only [fetch, ok_bind]
    rw [names, ok_bind, relates, ok_bind]
    rfl
  · exact ⟨claims ▸ normalized.claims, relations ▸ normalized.relations, normalized.filed⟩

/-- A call is a repetition, which changes nothing, or a fresh one. -/
theorem normalize_ok {next : NormalizationStore} (filed : Filed observed store.knowledge)
    (ok : normalize normalizer store observationId (observed observationId) revision now =
      .ok (result, next)) :
    ((store.knowledge.processingRuns.get? (runIdOf normalizer observationId)).map (·.status) =
        some .success ∧ next = store) ∨
      ∃ said, saidBy normalizer (observed observationId) = .ok said ∧
        Normalized observed normalizer observationId said store.knowledge next.knowledge := by
  unfold normalize at ok
  dsimp only at ok
  split at ok
  next done =>
    obtain ⟨change, -, ok⟩ := fetch_bind_eq_ok.1 ok
    cases ok
    exact .inl ⟨done, rfl⟩
  next => exact .inr (normalizeFresh_ok filed ok)

variable (observed) in
/-- **What a run preserves**: rows are what their identifiers tell. -/
theorem run_filed (ops : List NormalizeOp) :
    Filed observed (run (normalizing observed) NormalizationStore.empty ops).knowledge := by
  have preserved : ∀ (store : NormalizationStore) (op : NormalizeOp)
      (result : NormalizationResult) (next : NormalizationStore), Filed observed store.knowledge →
      normalizing observed op store = .ok (result, next) → Filed observed next.knowledge := by
    intro store op result next filed ok
    rcases normalize_ok filed ok with ⟨-, rfl⟩ | ⟨said, -, normalized⟩
    · exact filed
    · exact normalized.filed
  exact run_invariant preserved Filed.empty ops

end Transaction

/-! ## The claims and relations of a source -/

section Reflection

variable {observed : String → Observation} {normalizer : CanonicalNormalizer}
variable {observationId : String} {said : Said} {next : KnowledgeBase}

/-- The claims of a predicate are those that the observation is filed under. -/
theorem Normalized.activeClaims_eq
    (normalized : Normalized observed normalizer observationId said base next)
    (projected : predicate ∈ normalizer.predicates) :
    activeClaims next said.objectId predicate (observed observationId).sourceId =
      said.claimIds observationId predicate := by
  rw [normalized.filed.activeClaims_eq, normalized.claims.active_eq ⟨predicate, projected, rfl⟩]
  ext id
  constructor
  · rintro ⟨⟨claim, listed, rfl⟩, same⟩
    cases same
    exact ⟨claim, listed, rfl, rfl⟩
  · rintro ⟨claim, listed, rfl, rfl⟩
    exact ⟨⟨claim, listed, rfl⟩, rfl⟩

/-- The relations of a type that the observation has are those that it is filed under. -/
theorem Normalized.activeRelations_eq
    (normalized : Normalized observed normalizer observationId said base next)
    (listed : relationType ∈ said.relations.map (·.relationType)) :
    activeRelations next said.objectId relationType (observed observationId).sourceId =
      said.relationIds next observationId relationType := by
  rw [normalized.filed.activeRelations_eq,
    normalized.relations.active_eq ⟨relationType, mem_dedup.2 listed, rfl⟩]
  ext id
  constructor
  · rintro ⟨⟨relation, member, targetId, resolved, rfl⟩, same⟩
    cases same
    exact ⟨relation, member, rfl, targetId, resolved, rfl⟩
  · rintro ⟨relation, member, rfl, targetId, resolved, rfl⟩
    exact ⟨⟨relation, member, targetId, resolved, rfl⟩, rfl⟩

/-- **The relations of a type that the observation does not have** are left as they are. -/
theorem Normalized.activeRelations_left (filed : Filed observed base)
    (normalized : Normalized observed normalizer observationId said base next)
    (unlisted : relationType ∉ said.relations.map (·.relationType)) :
    activeRelations next said.objectId relationType (observed observationId).sourceId =
      activeRelations base said.objectId relationType (observed observationId).sourceId := by
  rw [normalized.filed.activeRelations_eq, filed.activeRelations_eq]
  refine normalized.relations.active_eq_before ?_ ?_
  · rintro ⟨other, listed, same⟩
    cases same
    exact unlisted (mem_dedup.1 listed)
  · rintro id ⟨relation, member, targetId, -, rfl⟩ same
    cases same
    exact unlisted (mem_map_of_mem member)

/-- The claims of other sources are left as they are. -/
theorem Normalized.otherClaims (filed : Filed observed base)
    (normalized : Normalized observed normalizer observationId said base next) {id : ClaimId}
    {row : ClaimModel} (found : base.claims.get? id = some row ∨ next.claims.get? id = some row)
    (other : JsonObject.get? row.qualifier "source_id" ≠
      some (.string (observed observationId).sourceId)) :
    next.claims.get? id = base.claims.get? id := by
  have elsewhere : (observed id.observationId).sourceId ≠ (observed observationId).sourceId := by
    intro same
    have isOf : row.IsOf id.rootObjectId id.predicate (observed id.observationId).sourceId :=
      found.elim (filed.claims id row) (normalized.filed.claims id row)
    exact other (same ▸ isOf.source)
  refine normalized.claims.others id ?_ ?_
  · rintro ⟨claim, -, rfl⟩
    exact elsewhere rfl
  · rintro ⟨predicate, -, same⟩
    exact elsewhere (congrArg ClaimKind.sourceId same)

/-- The relations of other sources are left as they are. -/
theorem Normalized.otherRelations (filed : Filed observed base)
    (normalized : Normalized observed normalizer observationId said base next)
    (found : base.relations.get? id = some row ∨ next.relations.get? id = some row)
    (other : JsonObject.get? row.qualifier "source_id" ≠
      some (.string (observed observationId).sourceId)) :
    next.relations.get? id = base.relations.get? id := by
  have elsewhere : (observed id.observationId).sourceId ≠ (observed observationId).sourceId := by
    intro same
    have isOf : RelationIsOf row id.rootObjectId id.relationType
        (observed id.observationId).sourceId :=
      found.elim (filed.relations id row) (normalized.filed.relations id row)
    exact other (same ▸ isOf.source)
  refine normalized.relations.others id ?_ ?_
  · rintro ⟨relation, -, targetId, -, rfl⟩
    exact elsewhere rfl
  · rintro ⟨relationType, -, same⟩
    exact elsewhere (congrArg RelationKind.sourceId same)

end Reflection

/-- **A fresh call reflects the observation** exactly if the observation has a relation of
each type of which the source has one so far: after any calls of any normalisers, on
whatever observations. -/
theorem normalisation_reflects (observed : String → Observation) (ops : List NormalizeOp)
    (op : NormalizeOp) (result : NormalizationResult) (next : NormalizationStore)
    (fresh : ((run (normalizing observed) NormalizationStore.empty ops).knowledge.processingRuns.get?
      (runIdOf op.normalizer op.observationId)).map (·.status) ≠ some .success)
    (answered : normalizing observed op (run (normalizing observed) NormalizationStore.empty ops) =
      .ok (result, next)) :
    ∃ said, saidBy op.normalizer (observed op.observationId) = .ok said ∧
      (Reflects op.normalizer op.observationId (observed op.observationId).sourceId said
          (run (normalizing observed) NormalizationStore.empty ops).knowledge next.knowledge ↔
        Covered op.normalizer (observed op.observationId).sourceId said
          (run (normalizing observed) NormalizationStore.empty ops).knowledge) := by
  have filed := run_filed observed ops
  rcases normalize_ok filed answered with ⟨done, -⟩ | ⟨said, reads, normalized⟩
  · exact absurd done fresh
  refine ⟨said, reads, ?_, ?_⟩
  · intro reflects relationType produced ⟨id, active⟩
    by_contra unlisted
    -- what the source had of the type is still active, and nothing of it is derived
    rw [← normalized.activeRelations_left filed unlisted,
      reflects.relations relationType produced] at active
    obtain ⟨relation, member, same, -⟩ := active
    exact unlisted (mem_map.2 ⟨relation, member, same⟩)
  · intro covered
    refine ⟨fun predicate projected => normalized.activeClaims_eq projected, ?_,
      fun id row => normalized.otherClaims filed, fun id row => normalized.otherRelations filed⟩
    intro relationType produced
    by_cases listed : relationType ∈ said.relations.map (·.relationType)
    · exact normalized.activeRelations_eq listed
    · have none : activeRelations (run (normalizing observed) NormalizationStore.empty ops).knowledge
          said.objectId relationType (observed op.observationId).sourceId = ∅ := by
        rw [Set.eq_empty_iff_forall_notMem]
        intro id active
        exact listed (covered relationType produced ⟨id, active⟩)
      rw [normalized.activeRelations_left filed listed, none, eq_comm,
        Set.eq_empty_iff_forall_notMem]
      rintro id ⟨relation, member, same, -⟩
      exact listed (mem_map.2 ⟨relation, member, same⟩)

/-- No text of these payloads needs the library. -/
def plainLibrary : TextLibrary := ⟨fun _ => "", fun text => text⟩

/-- A vulnerability with a weakness, and without. -/
def observedTwice (observationId : String) : Observation where
  sourceId := "nvd"
  payload :=
    let weaknesses : JsonObject :=
      if observationId = "first" then
        [("weaknesses", .array [.object [("description", .array
          [.object [("lang", .string "en"), ("value", .string "CWE-79")]])]])]
      else []
    [("cve", .object (("id", .string "CVE-2026-1") :: weaknesses))]
  artifactId := none

def normalizeFirst : NormalizeOp := ⟨nvdCanonicalNormalizer plainLibrary, "first", 1, 10⟩

def normalizeSecond : NormalizeOp := ⟨nvdCanonicalNormalizer plainLibrary, "second", 2, 20⟩

theorem normalisation_reflects_normalizeFirst :
    ∃ result next, normalizing observedTwice normalizeFirst
        (run (normalizing observedTwice) NormalizationStore.empty []) = .ok (result, next) ∧
      ∃ said, saidBy normalizeFirst.normalizer (observedTwice "first") = .ok said ∧
        Reflects normalizeFirst.normalizer "first" "nvd" said KnowledgeBase.empty
          next.knowledge := by
  have answers : (normalizing observedTwice normalizeFirst
      (run (normalizing observedTwice) NormalizationStore.empty [])).toOption.isSome = true := by
    decide +kernel
  obtain ⟨⟨result, next⟩, found⟩ := isSome_iff_exists.1 answers
  have answered := toOption_eq_some.1 found
  obtain ⟨said, reads, reflects⟩ := normalisation_reflects observedTwice [] normalizeFirst result
    next (by decide +kernel) answered
  refine ⟨result, next, answered, said, reads, reflects.2 ?_⟩
  rintro relationType - ⟨id, row, present, -⟩
  cases present

/-- **A weakness stays** that the source does not state any more. -/
theorem a_weakness_stays :
    ¬ ∀ (observed : String → Observation) (ops : List NormalizeOp) (op : NormalizeOp)
      (result : NormalizationResult) (next : NormalizationStore) (said : Said),
      ((run (normalizing observed) NormalizationStore.empty ops).knowledge.processingRuns.get?
        (runIdOf op.normalizer op.observationId)).map (·.status) ≠ some .success →
      normalizing observed op (run (normalizing observed) NormalizationStore.empty ops) =
        .ok (result, next) →
      saidBy op.normalizer (observed op.observationId) = .ok said →
      Reflects op.normalizer op.observationId (observed op.observationId).sourceId said
        (run (normalizing observed) NormalizationStore.empty ops).knowledge next.knowledge := by
  intro claimed
  have answers : (normalizing observedTwice normalizeSecond (run (normalizing observedTwice)
      NormalizationStore.empty [normalizeFirst])).toOption.any (fun answer =>
        (answer.2.knowledge.relations.get? ⟨"secfusion:object:vulnerability:cve:CVE-2026-1",
          "has-weakness", "secfusion:object:Weakness:weakness:CWE-79", "first", []⟩).any
            (·.isCurrent "secfusion:object:vulnerability:cve:CVE-2026-1" "has-weakness" "nvd")) =
        true := by
    decide +kernel
  obtain ⟨⟨result, next⟩, found, active⟩ := (Option.any_eq_true _ _).1 answers
  obtain ⟨row, present, current⟩ := (Option.any_eq_true _ _).1 active
  have reading : (saidBy normalizeSecond.normalizer (observedTwice "second")).toOption.map
      (fun said => (said.objectId, said.relations)) =
        some ("secfusion:object:vulnerability:cve:CVE-2026-1", []) := by decide +kernel
  obtain ⟨said, read, same⟩ := map_eq_some_iff.1 reading
  obtain ⟨isObject, noRelations⟩ := Prod.mk.inj same
  have reflects := claimed observedTwice [normalizeFirst] normalizeSecond result next said
    (by decide +kernel) (toOption_eq_some.1 found) (toOption_eq_some.1 read)
  have exactly := reflects.relations "has-weakness" (by decide)
  rw [isObject] at exactly
  obtain ⟨relation, member, -⟩ := (Set.ext_iff.1 exactly _).1 ⟨row, present, current⟩
  rw [noRelations] at member
  cases member

end SecFusion.Normalization
