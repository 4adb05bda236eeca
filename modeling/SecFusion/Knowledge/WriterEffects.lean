import SecFusion.Knowledge.Writer

/-!
# What a write does to the knowledge base

A successful `apply` is either a repetition, which changes nothing, or goes
through the stages of the transaction; `Applied` names what the stages leave of
the tables.  Objects are stored and merged, never removed or renamed, so a
candidate object resolves to the same identifier at every stage
(`objectIdFor`).
-/

namespace SecFusion.Knowledge

open Foundations

/-! ## Objects -/

/-- The identifier that a candidate object has, or is going to have. -/
def objectIdFor (base : KnowledgeBase) (objectType canonicalKey : String) : Except Raised String :=
  match base.objectOf? objectType canonicalKey with
  | some row => .ok row.objectId
  | none => stableObjectId objectType canonicalKey

/-- Every candidate object resolves alike. -/
def SameObjects (base next : KnowledgeBase) : Prop :=
  ∀ objectType canonicalKey,
    objectIdFor next objectType canonicalKey = objectIdFor base objectType canonicalKey

variable {base next : KnowledgeBase} {objectId : String} {candidate : ObjectCandidate}
  {revision : ℕ} {row : ObjectModel} {write : KnowledgeWrite} {runId : ProcessingRunId} {now : ℤ}
  {context : WriteContext} {claim : ClaimCandidate} {relations : List RelationCandidate}
  {objectIds laterIds : List String} {relationIds laterRelations : List RelationId}
  {result : NormalizationResult}

theorem SameObjects.of_eq (same : next.objects = base.objects) :
    SameObjects base next := by
  intro objectType canonicalKey
  rw [objectIdFor, KnowledgeBase.objectOf?, same]
  rfl

theorem SameObjects.trans {first second third : KnowledgeBase} (left : SameObjects first second)
    (right : SameObjects second third) : SameObjects first third :=
  fun objectType canonicalKey => (right objectType canonicalKey).trans (left objectType canonicalKey)

theorem upsertIdentifier_ok {identifier : String × String}
    (ok : upsertIdentifier objectId base identifier = .ok next) :
    ∃ identifiers, next = { base with identifiers } := by
  unfold upsertIdentifier at ok
  split at ok
  next =>
    obtain ⟨-, ok⟩ := require_bind_eq_ok.1 ok
    cases ok
    exact ⟨base.identifiers, rfl⟩
  next =>
    obtain ⟨identifiers, -, ok⟩ := fetch_bind_eq_ok.1 ok
    cases ok
    exact ⟨identifiers, rfl⟩

theorem upsertIdentifiers_ok {identifiers : List (String × List String)}
    (ok : upsertIdentifiers base objectId identifiers = .ok next) :
    ∃ stored, next = { base with identifiers := stored } := by
  refine foldlM_invariant
    (fun after : KnowledgeBase => ∃ stored, after = { base with identifiers := stored })
    ?_ ⟨base.identifiers, rfl⟩ ok
  rintro identifier - _ after ⟨stored, rfl⟩ step
  obtain ⟨identifiers, rfl⟩ := upsertIdentifier_ok step
  exact ⟨identifiers, rfl⟩

/-- A candidate object that is stored keeps, or gets, the identifier it resolves
to. -/
theorem storeObject_ok (ok : storeObject base candidate revision = .ok (row, next)) :
    (∃ objects, next = { base with objects }) ∧
      objectIdFor base candidate.objectType candidate.canonicalKey = .ok row.objectId ∧
      SameObjects base next := by
  unfold storeObject at ok
  cases found : base.objectOf? candidate.objectType candidate.canonicalKey with
  | none =>
      rw [found] at ok
      obtain ⟨objectId, named, ok⟩ := bind_eq_ok.1 ok
      obtain ⟨objects, inserted, ok⟩ := fetch_bind_eq_ok.1 ok
      cases ok
      refine ⟨⟨objects, rfl⟩, by rw [objectIdFor, found, named], ?_⟩
      intro objectType canonicalKey
      -- the new row is found under its own key only, and there under the name it resolved to
      unfold objectIdFor KnowledgeBase.objectOf? at *
      rw [(insert?_eq_some inserted).1, List.find?_append]
      cases old : base.objects.rows.find? fun row =>
          row.objectType = objectType ∧ row.canonicalKey = canonicalKey with
      | some row => rfl
      | none =>
          by_cases same : candidate.objectType = objectType ∧ candidate.canonicalKey = canonicalKey
          · obtain ⟨rfl, rfl⟩ := same
            simp [named]
          · simp [same]
  | some old =>
      rw [found] at ok
      have resolved : objectIdFor base candidate.objectType candidate.canonicalKey =
          .ok old.objectId := by
        rw [objectIdFor, found]
      dsimp only at ok
      split at ok
      next =>
        cases ok
        exact ⟨⟨base.objects, rfl⟩, resolved, .of_eq rfl⟩
      next =>
        cases ok
        refine ⟨⟨_, rfl⟩, resolved, ?_⟩
        intro objectType canonicalKey
        -- merging properties moves no row to another key
        let merge : ObjectModel → ObjectModel := fun row =>
          if row.objectId = old.objectId then row.withProperties candidate.properties else row
        have same : (fun row : ObjectModel => decide (row.objectType = objectType ∧
            row.canonicalKey = canonicalKey)) ∘ merge =
              fun row => decide (row.objectType = objectType ∧ row.canonicalKey = canonicalKey) := by
          funext row
          simp only [merge, Function.comp]
          split <;> rfl
        have keeps : ∀ row, (merge row).objectId = row.objectId := by
          intro row
          simp only [merge]
          split <;> rfl
        have located : (base.objects.rows.map merge).find? (fun row =>
            row.objectType = objectType ∧ row.canonicalKey = canonicalKey) =
              (base.objectOf? objectType canonicalKey).map merge := by
          rw [List.find?_map, same]
          rfl
        show (match (base.objects.rows.map merge).find? (fun row =>
            row.objectType = objectType ∧ row.canonicalKey = canonicalKey) with
          | some row => .ok row.objectId
          | none => stableObjectId objectType canonicalKey) = objectIdFor base objectType canonicalKey
        rw [located, objectIdFor]
        cases base.objectOf? objectType canonicalKey with
        | none => rfl
        | some row => exact congrArg Except.ok (keeps row)

/-- Only objects and identifiers have changed, and every candidate resolves
alike. -/
structure OnlyObjects (base next : KnowledgeBase) : Prop where
  tables : ∃ objects identifiers, next = { base with objects, identifiers }
  same : SameObjects base next

theorem upsertObject_ok (ok : upsertObject base candidate revision = .ok (row, next)) :
    OnlyObjects base next ∧
      objectIdFor base candidate.objectType candidate.canonicalKey = .ok row.objectId := by
  obtain ⟨⟨stored, middle⟩, storing, ok⟩ := bind_eq_ok.1 ok
  obtain ⟨last, naming, ok⟩ := bind_eq_ok.1 ok
  cases ok
  obtain ⟨⟨objects, rfl⟩, resolved, same⟩ := storeObject_ok storing
  obtain ⟨identifiers, rfl⟩ := upsertIdentifiers_ok naming
  exact ⟨⟨⟨objects, identifiers, rfl⟩, same.trans (.of_eq rfl)⟩, resolved⟩

/-! ## The stages -/

/-- The object a call is about, as it resolves before the call. -/
def rootIdFor (base : KnowledgeBase) (write : KnowledgeWrite) : Except Raised String :=
  match write.rootObjectId, write.candidate.rootObject with
  | some rootObjectId, _ => .ok rootObjectId
  | none, some candidate => objectIdFor base candidate.objectType candidate.canonicalKey
  | none, none => .error (.valueError "candidate.root_object is required when root_object_id is absent")

theorem resolveRoot_ok {root : ObjectModel}
    (ok : resolveRoot base write revision = .ok (root, next)) :
    OnlyObjects base next ∧ rootIdFor base write = .ok root.objectId := by
  unfold resolveRoot at ok
  unfold rootIdFor
  cases given : write.rootObjectId with
  | none =>
      rw [given] at ok
      obtain ⟨candidate, isRoot, ok⟩ := fetch_bind_eq_ok.1 ok
      rw [isRoot]
      exact upsertObject_ok ok
  | some rootObjectId =>
      rw [given] at ok
      obtain ⟨row, found, ok⟩ := fetch_bind_eq_ok.1 ok
      cases ok
      refine ⟨⟨⟨base.objects, base.identifiers, rfl⟩, .of_eq rfl⟩, ?_⟩
      exact congrArg Except.ok (key_of_get? found).symm

theorem startRun_ok (ok : startRun base runId now = .ok next) :
    ∃ processingRuns, next = { base with processingRuns } := by
  unfold startRun at ok
  split at ok
  next =>
    obtain ⟨processingRuns, -, ok⟩ := fetch_bind_eq_ok.1 ok
    cases ok
    exact ⟨processingRuns, rfl⟩
  next =>
    cases ok
    exact ⟨_, rfl⟩

theorem openRevision_ok (ok : openRevision base write runId revision now = .ok next) :
    ∃ revisions, base.revisions.insert?
        ⟨revision, runId, write.observation.observationId, now⟩ = some revisions ∧
      next = { base with revisions } := by
  obtain ⟨revisions, inserted, ok⟩ := fetch_bind_eq_ok.1 ok
  cases ok
  exact ⟨revisions, inserted, rfl⟩

theorem addEvidenceLink_ok {target : EvidenceTarget} {observation : EvidencePointer}
    {locator : JsonObject} (ok : addEvidenceLink base target observation locator = .ok next) :
    ∃ evidenceLinks, next = { base with evidenceLinks } := by
  obtain ⟨evidenceLinks, -, ok⟩ := fetch_bind_eq_ok.1 ok
  cases ok
  exact ⟨evidenceLinks, rfl⟩

/-- A claim of the candidate is stored, or has its end taken away. -/
theorem storeClaim_ok (ok : storeClaim context base claim = .ok next) :
    (∃ claims evidenceLinks, next = { base with claims, evidenceLinks }) ∧
      ∀ id, next.claims.get? id =
        if claimIdOf context.write context.root.objectId claim = id then
          some (((base.claims.get? id).map (·.withSuperseded none)).getD (newClaim context claim))
        else base.claims.get? id := by
  unfold storeClaim at ok
  dsimp only at ok
  split at ok
  next absent =>
    obtain ⟨claims, inserted, ok⟩ := fetch_bind_eq_ok.1 ok
    obtain ⟨evidenceLinks, rfl⟩ := addEvidenceLink_ok ok
    refine ⟨⟨claims, evidenceLinks, rfl⟩, fun id => ?_⟩
    rw [get?_insert? inserted]
    show (if claimIdOf context.write context.root.objectId claim = id then _ else _) = _
    split
    next same => simp [← same, absent]
    next => rfl
  next row found =>
    cases ok
    refine ⟨⟨_, base.evidenceLinks, rfl⟩, fun id => ?_⟩
    rw [get?_update]
    split
    next same => simp [← same, found]
    next => rfl

theorem applyClaim_tables (ok : applyClaim context base claim = .ok next) :
    ∃ claims evidenceLinks, next = { base with claims, evidenceLinks } := by
  obtain ⟨⟨claims, evidenceLinks, rfl⟩, -⟩ := storeClaim_ok ok
  split
  · exact ⟨claims, evidenceLinks, rfl⟩
  · exact ⟨claims, evidenceLinks, rfl⟩

theorem applyClaims_tables {claims : List ClaimCandidate}
    (ok : claims.foldlM (applyClaim context) base = .ok next) :
    ∃ claims evidenceLinks, next = { base with claims, evidenceLinks } := by
  refine foldlM_invariant
    (fun after : KnowledgeBase => ∃ claims evidenceLinks,
      after = { base with claims, evidenceLinks }) ?_
    ⟨base.claims, base.evidenceLinks, rfl⟩ ok
  rintro claim - _ after ⟨claims, evidenceLinks, rfl⟩ step
  obtain ⟨moreClaims, moreLinks, rfl⟩ := applyClaim_tables step
  exact ⟨moreClaims, moreLinks, rfl⟩

theorem storeRelation_ok {targetId : String} {relation : RelationCandidate}
    (ok : storeRelation context base targetId relation = .ok next) :
    (∃ relations evidenceLinks, next = { base with relations, evidenceLinks }) ∧
      ∀ id, next.relations.get? id =
        if relationIdOf context.write context.root.objectId targetId relation = id then
          some (((base.relations.get? id).map (·.withSuperseded none)).getD
            (newRelation context targetId relation))
        else base.relations.get? id := by
  unfold storeRelation at ok
  dsimp only at ok
  split at ok
  next absent =>
    obtain ⟨relations, inserted, ok⟩ := fetch_bind_eq_ok.1 ok
    obtain ⟨evidenceLinks, rfl⟩ := addEvidenceLink_ok ok
    refine ⟨⟨relations, evidenceLinks, rfl⟩, fun id => ?_⟩
    rw [get?_insert? inserted]
    show (if relationIdOf context.write context.root.objectId targetId relation = id
      then _ else _) = _
    split
    next same => simp [← same, absent]
    next => rfl
  next row found =>
    cases ok
    refine ⟨⟨_, base.evidenceLinks, rfl⟩, fun id => ?_⟩
    rw [get?_update]
    split
    next same => simp [← same, found]
    next => rfl

/-- Superseding replaces one table at a time. -/
theorem supersedeReplaced_tables (context : WriteContext) (base : KnowledgeBase) :
    ∃ claims relations, supersedeReplaced context base = { base with claims, relations } := by
  have first : ∀ (predicates : List String) (base : KnowledgeBase), ∃ claims,
      predicates.foldl (fun base predicate => supersedeSourceClaims base context.root.objectId
        predicate context.write.sourceId context.revision) base = { base with claims } := by
    intro predicates
    induction predicates with
    | nil => exact fun base => ⟨base.claims, rfl⟩
    | cons predicate rest ih => exact fun base => ih (supersedeSourceClaims base _ _ _ _)
  have second : ∀ (types : List String) (base : KnowledgeBase), ∃ relations,
      types.foldl (fun base type => supersedeSourceRelations base context.root.objectId
        type context.write.sourceId context.revision) base = { base with relations } := by
    intro types
    induction types with
    | nil => exact fun base => ⟨base.relations, rfl⟩
    | cons type rest ih => exact fun base => ih (supersedeSourceRelations base _ _ _ _)
  obtain ⟨claims, claimed⟩ := first context.write.candidate.replacePredicates base
  obtain ⟨relations, related⟩ := second context.write.candidate.replaceRelationTypes
    { base with claims }
  refine ⟨claims, relations, ?_⟩
  rw [supersedeReplaced, claimed]
  exact related

/-! ## The whole transaction -/

/-- **What a fresh `apply` goes through**, from the store it meets to the store it
leaves. -/
structure Applied (base : KnowledgeBase) (write : KnowledgeWrite) (revision : ℕ) (now : ℤ)
    (result : NormalizationResult) (next : KnowledgeBase) : Prop where
  stages : ∃ runId root named claimed objectIds relationIds related,
    named.claims = base.claims ∧ named.relations = base.relations ∧ SameObjects base named ∧
    rootIdFor base write = .ok root.objectId ∧
    write.candidate.claims.foldlM (applyClaim ⟨write, root, runId, revision⟩)
      (supersedeReplaced ⟨write, root, runId, revision⟩ named) = .ok claimed ∧
    applyRelations ⟨write, root, runId, revision⟩ claimed [root.objectId] []
      write.candidate.relations = .ok (objectIds, relationIds, related) ∧
    next.claims = related.claims ∧ next.relations = related.relations ∧
    next.objects = related.objects ∧ result.objectIds = objectIds
  revisions : ∃ row, row.revision = revision ∧ base.revisions.insert? row = some next.revisions

theorem applyRelations_tables
    (ok : applyRelations context base objectIds relationIds relations =
      .ok (laterIds, laterRelations, next)) :
    ∃ objects identifiers relations evidenceLinks,
      next = { base with objects, identifiers, relations, evidenceLinks } := by
  induction relations generalizing base objectIds relationIds with
  | nil =>
      cases ok
      exact ⟨_, _, _, _, rfl⟩
  | cons relation rest ih =>
      obtain ⟨⟨target, stored⟩, storing, ok⟩ := bind_eq_ok.1 ok
      obtain ⟨middle, relating, ok⟩ := bind_eq_ok.1 ok
      obtain ⟨⟨⟨objects, identifiers, rfl⟩, -⟩, -⟩ := upsertObject_ok storing
      obtain ⟨⟨relations, evidenceLinks, rfl⟩, -⟩ := storeRelation_ok relating
      obtain ⟨laterObjects, laterIdentifiers, laterRelations, laterLinks, rfl⟩ := ih ok
      exact ⟨laterObjects, laterIdentifiers, laterRelations, laterLinks, rfl⟩

theorem applyRelations_revisions
    (ok : applyRelations context base objectIds relationIds relations =
      .ok (laterIds, laterRelations, next)) :
    next.revisions = base.revisions ∧ next.claims = base.claims := by
  obtain ⟨objects, identifiers, relations, evidenceLinks, rfl⟩ := applyRelations_tables ok
  exact ⟨rfl, rfl⟩

/-- The stages of a call whose run has not succeeded before, one after another. -/
theorem applyFresh_ok (ok : applyFresh base write runId revision now = .ok (result, next)) :
    ∃ started opened root rooted named claimed objectIds relationIds related change,
      startRun base runId now = .ok started ∧
      openRevision started write runId revision now = .ok opened ∧
      resolveRoot opened write revision = .ok (root, rooted) ∧
      upsertIdentifiers rooted root.objectId write.candidate.rootIdentifiers = .ok named ∧
      write.candidate.claims.foldlM (applyClaim ⟨write, root, runId, revision⟩)
        (supersedeReplaced ⟨write, root, runId, revision⟩ named) = .ok claimed ∧
      applyRelations ⟨write, root, runId, revision⟩ claimed [root.objectId] []
        write.candidate.relations = .ok (objectIds, relationIds, related) ∧
      recordChange ⟨write, root, runId, revision⟩ related objectIds relationIds now =
        .ok (change, next) ∧
      result = resultOf change write.observation.observationId runId := by
  obtain ⟨_, -, ok⟩ := bind_eq_ok.1 ok
  obtain ⟨started, starts, ok⟩ := bind_eq_ok.1 ok
  obtain ⟨opened, opens, ok⟩ := bind_eq_ok.1 ok
  obtain ⟨⟨root, rooted⟩, roots, ok⟩ := bind_eq_ok.1 ok
  obtain ⟨named, names, ok⟩ := bind_eq_ok.1 ok
  obtain ⟨_, -, ok⟩ := bind_eq_ok.1 ok
  obtain ⟨claimed, claims, ok⟩ := bind_eq_ok.1 ok
  obtain ⟨⟨objectIds, relationIds, related⟩, relates, ok⟩ := bind_eq_ok.1 ok
  obtain ⟨⟨change, last⟩, records, ok⟩ := bind_eq_ok.1 ok
  cases ok
  exact ⟨started, opened, root, rooted, named, claimed, objectIds, relationIds, related, change,
    starts, opens, roots, names, claims, relates, records, rfl⟩

/-- **A successful `apply`** repeats what has been done, or applies. -/
theorem apply_ok (ok : apply base write revision now = .ok (result, next)) :
    ∃ seed, rootSeed write = some seed ∧
      (((base.processingRuns.get? (processingRunId write seed)).map (·.status) = some .success ∧
          next = base) ∨
        ((base.processingRuns.get? (processingRunId write seed)).map (·.status) ≠ some .success ∧
          Applied base write revision now result next)) := by
  unfold apply at ok
  obtain ⟨seed, seeded, ok⟩ := fetch_bind_eq_ok.1 ok
  refine ⟨seed, seeded, ?_⟩
  dsimp only at ok
  split at ok
  next done =>
    obtain ⟨change, -, ok⟩ := fetch_bind_eq_ok.1 ok
    cases ok
    exact .inl ⟨done, rfl⟩
  next fresh =>
    refine .inr ⟨fresh, ?_⟩
    obtain ⟨started, opened, root, rooted, named, claimed, objectIds, relationIds, related, change,
      starts, opens, roots, names, claims, relates, records, rfl⟩ := applyFresh_ok ok
    obtain ⟨changes, -, records⟩ := fetch_bind_eq_ok.1 records
    obtain ⟨outbox, -, records⟩ := fetch_bind_eq_ok.1 records
    cases records
    obtain ⟨processingRuns, rfl⟩ := startRun_ok starts
    obtain ⟨revisions, inserted, rfl⟩ := openRevision_ok opens
    obtain ⟨⟨⟨objects, identifiers, rfl⟩, same⟩, rootId⟩ := resolveRoot_ok roots
    obtain ⟨moreIdentifiers, rfl⟩ := upsertIdentifiers_ok names
    constructor
    case stages =>
      refine ⟨_, root, _, claimed, objectIds, relationIds, related, ?_, ?_, ?_, ?_, claims, relates,
        rfl, rfl, rfl, rfl⟩
      · rfl
      · rfl
      · exact same
      · exact rootId
    case revisions =>
      obtain ⟨sameRevisions, -⟩ := applyRelations_revisions relates
      obtain ⟨moreClaims, moreLinks, rfl⟩ := applyClaims_tables claims
      obtain ⟨oldClaims, oldRelations, replaced⟩ := supersedeReplaced_tables
        ⟨write, root, processingRunId write seed, revision⟩
        { processingRuns, revisions, objects, identifiers := moreIdentifiers,
          claims := base.claims, relations := base.relations,
          evidenceLinks := base.evidenceLinks, changes := base.changes, outbox := base.outbox }
      refine ⟨_, rfl, inserted.trans ?_⟩
      show _ = some related.revisions
      rw [sameRevisions]
      show some revisions = some (supersedeReplaced _ _).revisions
      rw [replaced]

end SecFusion.Knowledge
