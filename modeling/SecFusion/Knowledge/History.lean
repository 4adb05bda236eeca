import SecFusion.Knowledge.WriterEffects
import SecFusion.Foundations.Timeline

/-!
# The past of the knowledge base

A claim or relation is visible at the revisions from the one that created it to
the one that superseded it.  A write at a new revision supersedes rows and adds
rows, neither of which an earlier revision sees.  It also takes the end of a
window away, when a candidate states again what is already stored: if the window
had been ended by an earlier revision, what that revision saw is changed
afterwards (`history_rewritten`).

`Revives` is this case.  In runs without it the past is immutable.
-/

namespace SecFusion.Knowledge

open Foundations

/-! ## Visibility -/

def visibleAtKnowledgeRevision (createdRevision : ℕ) (supersededRevision : Option ℕ)
    (knowledgeRevision : ℕ) : Bool :=
  decide (createdRevision ≤ knowledgeRevision) &&
    match supersededRevision with
    | none => true
    | some ending => decide (knowledgeRevision < ending)

/-- The claims visible at a revision, without the ends of their windows. -/
def visibleClaims (base : KnowledgeBase) (revision : ℕ) : Set ClaimModel :=
  { fact | ∃ row ∈ base.claims.rows, visibleAtKnowledgeRevision row.createdRevision
      row.supersededRevision revision = true ∧ row.withSuperseded none = fact }

def visibleRelations (base : KnowledgeBase) (revision : ℕ) : Set RelationModel :=
  { fact | ∃ row ∈ base.relations.rows, visibleAtKnowledgeRevision row.createdRevision
      row.supersededRevision revision = true ∧ row.withSuperseded none = fact }

def ClaimModel.version (row : ClaimModel) : Version ClaimModel :=
  ⟨row.withSuperseded none, row.createdRevision, row.supersededRevision⟩

def RelationModel.version (row : RelationModel) : Version RelationModel :=
  ⟨row.withSuperseded none, row.createdRevision, row.supersededRevision⟩

def claimTimeline (base : KnowledgeBase) : Timeline ClaimId ClaimModel :=
  fun id => (base.claims.get? id).map (·.version)

def relationTimeline (base : KnowledgeBase) : Timeline RelationId RelationModel :=
  fun id => (base.relations.get? id).map (·.version)

variable {revision : ℕ} {base next : KnowledgeBase} {start : Timeline RelationId RelationModel}
  {context : WriteContext} {write : KnowledgeWrite} {now : ℤ} {result : NormalizationResult}

theorem visibleAt_iff {created : ℕ} {superseded : Option ℕ} :
    visibleAtKnowledgeRevision created superseded revision = true ↔
      created ≤ revision ∧ ∀ ending ∈ superseded, revision < ending := by
  cases superseded <;> simp [visibleAtKnowledgeRevision]

theorem mem_visibleClaims {fact : ClaimModel} :
    fact ∈ visibleClaims base revision ↔
      (fact.claimId, fact) ∈ (claimTimeline base).visibleAt revision := by
  constructor
  · rintro ⟨row, member, visible, rfl⟩
    refine ⟨row.version, ?_, rfl, visibleAt_iff.1 visible⟩
    exact map_eq_some_iff.2 ⟨row, get?_of_mem member, rfl⟩
  · rintro ⟨version, found, rfl, visible⟩
    obtain ⟨row, rowFound, rfl⟩ := map_eq_some_iff.1 found
    exact ⟨row, mem_of_get? rowFound, visibleAt_iff.2 visible, rfl⟩

theorem mem_visibleRelations {fact : RelationModel} :
    fact ∈ visibleRelations base revision ↔
      (fact.relationId, fact) ∈ (relationTimeline base).visibleAt revision := by
  constructor
  · rintro ⟨row, member, visible, rfl⟩
    refine ⟨row.version, ?_, rfl, visibleAt_iff.1 visible⟩
    exact map_eq_some_iff.2 ⟨row, get?_of_mem member, rfl⟩
  · rintro ⟨version, found, rfl, visible⟩
    obtain ⟨row, rowFound, rfl⟩ := map_eq_some_iff.1 found
    exact ⟨row, mem_of_get? rowFound, visibleAt_iff.2 visible, rfl⟩

/-! ## The stages of a write -/

theorem evolves_supersedeSourceClaims {start : Timeline ClaimId ClaimModel}
    (evolves : Evolves revision start (claimTimeline base))
    (subjectId predicate sourceId : String) :
    Evolves revision start
      (claimTimeline (supersedeSourceClaims base subjectId predicate sourceId revision)) := by
  refine evolves.supersede fun id => ?_
  unfold claimTimeline supersedeSourceClaims
  rw [get?_modify]
  cases base.claims.get? id with
  | none => exact .inl rfl
  | some row =>
      by_cases current : row.isCurrent subjectId predicate sourceId = true
      · refine .inr ⟨row.version, rfl, ?_, ?_⟩
        · simp only [ClaimModel.isCurrent, decide_eq_true_eq] at current
          exact current.2.2.2.1
        · simp only [map_some, current, if_true]
          rfl
      · refine .inl ?_
        simp only [map_some, current]
        rfl

theorem evolves_supersedeSourceRelations
    (evolves : Evolves revision start (relationTimeline base))
    (subjectId relationType sourceId : String) :
    Evolves revision start
      (relationTimeline (supersedeSourceRelations base subjectId relationType sourceId revision)) := by
  refine evolves.supersede fun id => ?_
  unfold relationTimeline supersedeSourceRelations
  rw [get?_modify]
  cases base.relations.get? id with
  | none => exact .inl rfl
  | some row =>
      by_cases current : row.isCurrent subjectId relationType sourceId = true
      · refine .inr ⟨row.version, rfl, ?_, ?_⟩
        · simp only [RelationModel.isCurrent, decide_eq_true_eq] at current
          exact current.2.2.2.1
        · simp only [map_some, current, if_true]
          rfl
      · refine .inl ?_
        simp only [map_some, current]
        rfl

/-- Superseding as a whole, before the loops. -/
theorem evolves_supersedeReplaced (context : WriteContext) (base : KnowledgeBase) :
    Evolves context.revision (claimTimeline base)
        (claimTimeline (supersedeReplaced context base)) ∧
      Evolves context.revision (relationTimeline base)
        (relationTimeline (supersedeReplaced context base)) := by
  have claims : ∀ (predicates : List String) (next : KnowledgeBase),
      Evolves context.revision (claimTimeline base) (claimTimeline next) →
      relationTimeline next = relationTimeline base →
        Evolves context.revision (claimTimeline base)
            (claimTimeline (predicates.foldl (fun base predicate => supersedeSourceClaims base
              context.root.objectId predicate context.write.sourceId context.revision) next)) ∧
          relationTimeline (predicates.foldl (fun base predicate => supersedeSourceClaims base
              context.root.objectId predicate context.write.sourceId context.revision) next) =
            relationTimeline base := by
    intro predicates
    induction predicates with
    | nil => exact fun next evolves same => ⟨evolves, same⟩
    | cons predicate rest ih =>
        exact fun next evolves same => ih _ (evolves_supersedeSourceClaims evolves _ _ _) same
  have relations : ∀ (types : List String) (next : KnowledgeBase),
      Evolves context.revision (claimTimeline base) (claimTimeline next) →
      Evolves context.revision (relationTimeline base) (relationTimeline next) →
        Evolves context.revision (claimTimeline base)
            (claimTimeline (types.foldl (fun base type => supersedeSourceRelations base
              context.root.objectId type context.write.sourceId context.revision) next)) ∧
          Evolves context.revision (relationTimeline base)
            (relationTimeline (types.foldl (fun base type => supersedeSourceRelations base
              context.root.objectId type context.write.sourceId context.revision) next)) := by
    intro types
    induction types with
    | nil => exact fun next left right => ⟨left, right⟩
    | cons type rest ih =>
        exact fun next left right => ih _ left (evolves_supersedeSourceRelations right _ _ _)
  obtain ⟨left, same⟩ := claims context.write.candidate.replacePredicates base
    (.refl _ _) rfl
  exact relations _ _ left (same ▸ .refl _ _)

/-- One claim, whose window was open before the call if it was stored. -/
theorem evolves_applyClaim {start : Timeline ClaimId ClaimModel} {claim : ClaimCandidate}
    (wasOpen : ∀ old, start (claimIdOf context.write context.root.objectId claim) = some old →
      old.superseded = none)
    (evolves : Evolves context.revision start (claimTimeline base))
    (ok : applyClaim context base claim = .ok next) :
    Evolves context.revision start (claimTimeline next) := by
  unfold applyClaim at ok
  dsimp only at ok
  obtain ⟨-, lookup⟩ := storeClaim_ok ok
  have superseded : Evolves context.revision start (claimTimeline
      (if claim.predicate ∈ context.write.candidate.replacePredicates then base
        else supersedeSourceClaims base context.root.objectId claim.predicate
          context.write.sourceId context.revision)) := by
    split
    · exact evolves
    · exact evolves_supersedeSourceClaims evolves _ _ _
  revert superseded lookup
  generalize (if claim.predicate ∈ context.write.candidate.replacePredicates then base
    else supersedeSourceClaims base context.root.objectId claim.predicate
      context.write.sourceId context.revision) = middle
  intro lookup superseded
  cases found : middle.claims.get? (claimIdOf context.write context.root.objectId claim) with
  | none =>
      refine superseded.insert (claimIdOf context.write context.root.objectId claim)
        (newClaim context claim).version ?_ rfl ?_
      · rw [claimTimeline, found]
        rfl
      · intro other
        rw [claimTimeline, lookup]
        split
        next same =>
          subst same
          rw [found]
          rfl
        next => rfl
  | some row =>
      refine superseded.activate (claimIdOf context.write context.root.objectId claim) wasOpen ?_
      intro other
      rw [claimTimeline, lookup]
      split
      next same =>
        subst same
        rw [claimTimeline, found]
        rfl
      next => rfl

theorem evolves_storeRelation {targetId : String} {relation : RelationCandidate}
    (wasOpen : ∀ old, start (relationIdOf context.write context.root.objectId targetId relation) =
      some old → old.superseded = none)
    (evolves : Evolves context.revision start (relationTimeline base))
    (ok : storeRelation context base targetId relation = .ok next) :
    Evolves context.revision start (relationTimeline next) := by
  obtain ⟨-, lookup⟩ := storeRelation_ok ok
  cases found : base.relations.get?
      (relationIdOf context.write context.root.objectId targetId relation) with
  | none =>
      refine evolves.insert (relationIdOf context.write context.root.objectId targetId relation)
        (newRelation context targetId relation).version ?_ rfl ?_
      · rw [relationTimeline, found]
        rfl
      · intro other
        rw [relationTimeline, lookup]
        split
        next same =>
          subst same
          rw [found]
          rfl
        next => rfl
  | some row =>
      refine evolves.activate (relationIdOf context.write context.root.objectId targetId relation)
        wasOpen ?_
      intro other
      rw [relationTimeline, lookup]
      split
      next same =>
        subst same
        rw [relationTimeline, found]
        rfl
      next => rfl

theorem evolves_applyRelations {resolved : KnowledgeBase} {relations : List RelationCandidate}
    {objectIds laterIds : List String} {relationIds laterRelations : List RelationId}
    (wasOpen : ∀ relation ∈ relations, ∀ targetId,
      objectIdFor resolved relation.target.objectType relation.target.canonicalKey = .ok targetId →
        ∀ old, start (relationIdOf context.write context.root.objectId targetId relation) =
          some old → old.superseded = none) (same : SameObjects resolved base)
    (evolves : Evolves context.revision start (relationTimeline base))
    (ok : applyRelations context base objectIds relationIds relations =
      .ok (laterIds, laterRelations, next)) :
    Evolves context.revision start (relationTimeline next) := by
  induction relations generalizing base objectIds relationIds with
  | nil =>
      cases ok
      exact evolves
  | cons relation rest ih =>
      obtain ⟨⟨target, stored⟩, storing, ok⟩ := bind_eq_ok.1 ok
      obtain ⟨middle, relating, ok⟩ := bind_eq_ok.1 ok
      obtain ⟨⟨⟨objects, identifiers, rfl⟩, sameStored⟩, targetId⟩ := upsertObject_ok storing
      rw [same] at targetId
      have here : Evolves context.revision start (relationTimeline middle) := by
        refine evolves_storeRelation
          (wasOpen relation mem_cons_self target.objectId targetId) ?_ relating
        exact evolves
      obtain ⟨⟨moreRelations, evidenceLinks, rfl⟩, -⟩ := storeRelation_ok relating
      refine ih (fun other member => wasOpen other (mem_cons_of_mem _ member)) ?_ here ok
      exact same.trans (sameStored.trans (.of_eq rfl))

/-! ## Calls -/

/-- One call of the writer, with the revision number it is given and the instant
it reads. -/
structure ApplyOp where
  write : KnowledgeWrite
  revision : ℕ
  now : ℤ

/-- The writer as a service over the knowledge base. -/
def writerService (op : ApplyOp) (base : KnowledgeBase) :
    Except Raised (NormalizationResult × KnowledgeBase) :=
  apply base op.write op.revision op.now

/-- The knowledge base after a sequence of calls. -/
def knowledgeAfter (ops : List ApplyOp) : KnowledgeBase :=
  run writerService KnowledgeBase.empty ops

/-- The run of the call has not succeeded before. -/
def IsFresh (base : KnowledgeBase) (write : KnowledgeWrite) : Prop :=
  ∀ seed ∈ rootSeed write,
    (base.processingRuns.get? (processingRunId write seed)).map (·.status) ≠ some .success

/-- **The candidate states again what an earlier revision has superseded**: a
claim, or a relation, of the candidate is stored with its window ended. -/
def Revives (base : KnowledgeBase) (write : KnowledgeWrite) : Prop :=
  ∃ rootObjectId ∈ (rootIdFor base write).toOption,
    (∃ claim ∈ write.candidate.claims,
        ∃ row ∈ base.claims.get? (claimIdOf write rootObjectId claim),
          row.supersededRevision ≠ none) ∨
      ∃ relation ∈ write.candidate.relations,
        ∃ targetId ∈ (objectIdFor base relation.target.objectType
            relation.target.canonicalKey).toOption,
          ∃ row ∈ base.relations.get? (relationIdOf write rootObjectId targetId relation),
            row.supersededRevision ≠ none

/-- Revisions increase, and a call that is no repetition revives nothing. -/
def KeepsHistory (base : KnowledgeBase) (op : ApplyOp) : Prop :=
  base.currentRevision < op.revision ∧ (IsFresh base op.write → ¬ Revives base op.write)

/-- A write that revives nothing leaves the past as it was. -/
theorem Applied.evolves (applied : Applied base write revision now result next)
    (keeps : ¬ Revives base write) :
    Evolves revision (claimTimeline base) (claimTimeline next) ∧
      Evolves revision (relationTimeline base) (relationTimeline next) := by
  obtain ⟨runId, root, named, claimed, objectIds, relationIds, related, sameClaims, sameRelations,
    sameObjects, rootId, claims, relates, nextClaims, nextRelations, -, -⟩ := applied.stages
  have startClaims : claimTimeline named = claimTimeline base := by
    unfold claimTimeline
    rw [sameClaims]
  have startRelations : relationTimeline named = relationTimeline base := by
    unfold relationTimeline
    rw [sameRelations]
  obtain ⟨left, right⟩ := evolves_supersedeReplaced ⟨write, root, runId, revision⟩ named
  rw [startClaims] at left
  rw [startRelations] at right
  obtain ⟨moreClaims, moreLinks, tables⟩ := applyClaims_tables claims
  obtain ⟨oldClaims, oldRelations, replaced⟩ :=
    supersedeReplaced_tables ⟨write, root, runId, revision⟩ named
  constructor
  · have loop : Evolves revision (claimTimeline base) (claimTimeline claimed) := by
      refine foldlM_invariant
        (fun after => Evolves revision (claimTimeline base) (claimTimeline after))
        ?_ left claims
      intro claim member before after evolves step
      refine evolves_applyClaim (fun old found => ?_) evolves step
      obtain ⟨row, rowFound, rfl⟩ := map_eq_some_iff.1 found
      by_contra ended
      exact keeps ⟨root.objectId, toOption_eq_some.2 rootId,
        .inl ⟨claim, member, row, rowFound, ended⟩⟩
    have same : claimTimeline next = claimTimeline claimed := by
      unfold claimTimeline
      rw [nextClaims, (applyRelations_revisions relates).2]
    rw [same]
    exact loop
  · have same : relationTimeline next = relationTimeline related := by
      unfold relationTimeline
      rw [nextRelations]
    rw [same]
    have wasOpen : ∀ relation ∈ write.candidate.relations, ∀ targetId,
        objectIdFor base relation.target.objectType relation.target.canonicalKey = .ok targetId →
          ∀ old, relationTimeline base (relationIdOf write root.objectId targetId relation) =
            some old → old.superseded = none := by
      intro relation member targetId resolved old found
      obtain ⟨row, rowFound, rfl⟩ := map_eq_some_iff.1 found
      by_contra ended
      exact keeps ⟨root.objectId, toOption_eq_some.2 rootId,
        .inr ⟨relation, member, targetId, toOption_eq_some.2 resolved, row, rowFound, ended⟩⟩
    refine evolves_applyRelations wasOpen ?_ ?_ relates
    · refine sameObjects.trans (.of_eq ?_)
      rw [tables, replaced]
    · have untouched : relationTimeline claimed =
          relationTimeline (supersedeReplaced ⟨write, root, runId, revision⟩ named) := by
        rw [tables]
        rfl
      rw [untouched]
      exact right

theorem Applied.currentRevision (applied : Applied base write revision now result next) :
    next.currentRevision = max base.currentRevision revision := by
  obtain ⟨row, rfl, inserted⟩ := applied.revisions
  unfold KnowledgeBase.currentRevision
  rw [(insert?_eq_some inserted).1, map_append, foldl_append]
  rfl

/-- One call leaves what was visible at the revisions before it. -/
theorem visible_of_ok {op : ApplyOp} (keeps : KeepsHistory base op)
    (ok : writerService op base = .ok (result, next)) {earlier : ℕ}
    (past : earlier ≤ base.currentRevision) :
    earlier ≤ next.currentRevision ∧ visibleClaims next earlier = visibleClaims base earlier ∧
      visibleRelations next earlier = visibleRelations base earlier := by
  obtain ⟨increasing, revives⟩ := keeps
  obtain ⟨seed, seeded, ⟨-, rfl⟩ | ⟨fresh, applied⟩⟩ := apply_ok ok
  · exact ⟨past, rfl, rfl⟩
  · have isFresh : IsFresh base op.write := by
      intro other otherSeeded
      obtain rfl := mem_unique otherSeeded seeded
      exact fresh
    obtain ⟨claims, relations⟩ := applied.evolves (revives isFresh)
    have before : earlier < op.revision := by omega
    refine ⟨?_, ?_, ?_⟩
    · rw [applied.currentRevision]
      exact past.trans (le_max_left _ _)
    · ext fact
      rw [mem_visibleClaims, mem_visibleClaims, claims.visibleAt before]
    · ext fact
      rw [mem_visibleRelations, mem_visibleRelations, relations.visibleAt before]

/-- **History is immutable** in every run whose calls have increasing revisions
and revive nothing: what a revision shows while it is the current one, it shows
after every later call. -/
theorem history_immutable (ops later : List ApplyOp)
    (keeps : Along writerService KeepsHistory KnowledgeBase.empty (ops ++ later)) :
    visibleClaims (knowledgeAfter (ops ++ later)) (knowledgeAfter ops).currentRevision =
        visibleClaims (knowledgeAfter ops) (knowledgeAfter ops).currentRevision ∧
      visibleRelations (knowledgeAfter (ops ++ later)) (knowledgeAfter ops).currentRevision =
        visibleRelations (knowledgeAfter ops) (knowledgeAfter ops).currentRevision := by
  have guarded : Along writerService KeepsHistory (knowledgeAfter ops) later := keeps.of_append.2
  rw [knowledgeAfter, run_append]
  -- along the later calls the revision stays in the past
  have step : ∀ base op result next,
      ((knowledgeAfter ops).currentRevision ≤ base.currentRevision ∧
        visibleClaims base (knowledgeAfter ops).currentRevision =
          visibleClaims (knowledgeAfter ops) (knowledgeAfter ops).currentRevision ∧
        visibleRelations base (knowledgeAfter ops).currentRevision =
          visibleRelations (knowledgeAfter ops) (knowledgeAfter ops).currentRevision) →
      KeepsHistory base op → writerService op base = .ok (result, next) →
        (knowledgeAfter ops).currentRevision ≤ next.currentRevision ∧
          visibleClaims next (knowledgeAfter ops).currentRevision =
            visibleClaims (knowledgeAfter ops) (knowledgeAfter ops).currentRevision ∧
          visibleRelations next (knowledgeAfter ops).currentRevision =
            visibleRelations (knowledgeAfter ops) (knowledgeAfter ops).currentRevision := by
    rintro base op result next ⟨past, claims, relations⟩ keeps answered
    obtain ⟨still, sameClaims, sameRelations⟩ := visible_of_ok keeps answered past
    exact ⟨still, sameClaims.trans claims, sameRelations.trans relations⟩
  exact (run_invariant_along step ⟨le_refl _, rfl, rfl⟩ later guarded).2

/-! ## A fact that comes back -/

/-- What one observation says of the status of a product, as a version of the
mapper reads it. -/
def statusWrite (observationId status processorVersion : String) : KnowledgeWrite where
  sourceId := "vendor"
  observation := { observationId }
  candidate :=
    { rootObject := some { objectType := "Product", canonicalKey := "widget" }
      claims := [{ predicate := "status", value := .string status, locator := [] }] }
  processorName := "status-mapper"
  processorVersion := processorVersion

/-- Two observations, one after the other. -/
def twoObservations : List ApplyOp :=
  [⟨statusWrite "observation-1" "open" "1", 1, 10⟩, ⟨statusWrite "observation-2" "closed" "1", 2, 20⟩]

/-- A new version of the mapper reads the first observation again. -/
def refresh : ApplyOp := ⟨statusWrite "observation-1" "open" "2", 3, 30⟩

def thirdObservation : ApplyOp := ⟨statusWrite "observation-3" "open" "1", 3, 30⟩

instance visibleClaimsDecidable (base : KnowledgeBase) (revision : ℕ) (fact : ClaimModel) :
    Decidable (fact ∈ visibleClaims base revision) :=
  inferInstanceAs (Decidable (∃ row ∈ base.claims.rows, visibleAtKnowledgeRevision
    row.createdRevision row.supersededRevision revision = true ∧ row.withSuperseded none = fact))

instance revivesDecidable (base : KnowledgeBase) (write : KnowledgeWrite) :
    Decidable (Revives base write) :=
  inferInstanceAs (Decidable (∃ rootObjectId ∈ (rootIdFor base write).toOption, _ ∨ _))

instance keepsHistoryDecidable (base : KnowledgeBase) (op : ApplyOp) :
    Decidable (KeepsHistory base op) :=
  inferInstanceAs (Decidable (_ ∧ ((∀ seed ∈ rootSeed op.write, _) → ¬ Revives base op.write)))

/-- Three observations change what is current, and nothing that was. -/
theorem history_immutable_thrice :
    (knowledgeAfter (twoObservations ++ [thirdObservation])).currentRevision = 3 ∧
      (knowledgeAfter twoObservations).currentRevision = 2 ∧
      visibleClaims (knowledgeAfter (twoObservations ++ [thirdObservation]))
          (knowledgeAfter twoObservations).currentRevision =
        visibleClaims (knowledgeAfter twoObservations)
          (knowledgeAfter twoObservations).currentRevision ∧
      visibleRelations (knowledgeAfter (twoObservations ++ [thirdObservation]))
          (knowledgeAfter twoObservations).currentRevision =
        visibleRelations (knowledgeAfter twoObservations)
          (knowledgeAfter twoObservations).currentRevision :=
  ⟨by decide +kernel, by decide +kernel,
    history_immutable twoObservations [thirdObservation] (by decide +kernel)⟩

/-- The claim of the first observation. -/
def firstStatus : ClaimModel where
  claimId := ⟨"secfusion:object:Product:widget", "status", "observation-1", .string "open", []⟩
  subjectId := "secfusion:object:Product:widget"
  predicate := "status"
  value := .string "open"
  qualifier := [("source_id", .string "vendor"), ("vocabulary_revision", .string "enrichment-v1"),
    ("vocabulary_scope", .string "source_specific")]
  origin := .sourceAsserted
  lifecycle := .accepted
  processingRunId := ⟨"status-mapper", "1", "Product:widget", "observation-1"⟩
  createdRevision := 1

/-- The revisions of a run increase. -/
def Increasing (base : KnowledgeBase) (op : ApplyOp) : Prop := base.currentRevision < op.revision

instance increasingDecidable (base : KnowledgeBase) (op : ApplyOp) :
    Decidable (Increasing base op) :=
  inferInstanceAs (Decidable (_ < _))

/-- **The past is rewritten**: revision 2 has superseded the first claim and does
not show it; revision 3 states it again, and then revision 2 shows it. -/
theorem history_rewritten :
    ¬ ∀ ops later, Along writerService Increasing KnowledgeBase.empty (ops ++ later) →
      visibleClaims (knowledgeAfter (ops ++ later)) (knowledgeAfter ops).currentRevision =
          visibleClaims (knowledgeAfter ops) (knowledgeAfter ops).currentRevision ∧
        visibleRelations (knowledgeAfter (ops ++ later)) (knowledgeAfter ops).currentRevision =
          visibleRelations (knowledgeAfter ops) (knowledgeAfter ops).currentRevision := by
  intro immutable
  obtain ⟨claims, -⟩ := immutable twoObservations [refresh] (by decide +kernel)
  have unseen : firstStatus ∉ visibleClaims (knowledgeAfter twoObservations)
      (knowledgeAfter twoObservations).currentRevision := by
    decide +kernel
  have seen : firstStatus ∈ visibleClaims (knowledgeAfter (twoObservations ++ [refresh]))
      (knowledgeAfter twoObservations).currentRevision := by
    decide +kernel
  rw [claims] at seen
  exact unseen seen

end SecFusion.Knowledge
