import SecFusion.Knowledge.CurrentProjection
import SecFusion.Knowledge.Supersession

/-!
# The frame of a write

A transaction of the writer lists in its change the object it is about and the
objects it relates that object to (`Names`).  The views of another object may
still change: the properties of an object are part of the view of every
vulnerability that refers to it (`Merges`), and a relation that is replaced leaves
the view of its repository (`Drops`).

`Framed` says what a transaction leaves of the rows that views read, stage by
stage; `Framed.objectViews_eq` is what it is for.
-/

namespace SecFusion.Knowledge

open Foundations

/-! ## What a call names and changes -/

/-- The candidate objects that a call stores or merges. -/
def candidateObjects (write : KnowledgeWrite) : List ObjectCandidate :=
  (if write.rootObjectId = none then write.candidate.rootObject.toList else []) ++
    write.candidate.relations.map (·.target)

/-- The call lists the object in its change. -/
def Names (base : KnowledgeBase) (write : KnowledgeWrite) (objectId : String) : Prop :=
  rootIdFor base write = .ok objectId ∨ ∃ relation ∈ write.candidate.relations,
    objectIdFor base relation.target.objectType relation.target.canonicalKey = .ok objectId

/-- The call changes the properties of an object that is stored. -/
def Merges (base : KnowledgeBase) (write : KnowledgeWrite) (objectId : String) : Prop :=
  ∃ candidate ∈ candidateObjects write,
    ∃ row ∈ base.objectOf? candidate.objectType candidate.canonicalKey,
      row.objectId = objectId ∧ row.withProperties candidate.properties ≠ row

variable {base next : KnowledgeBase} {write : KnowledgeWrite} {candidate : ObjectCandidate}
  {objectId : String} {row object : ObjectModel} {revision : ℕ} {context : WriteContext}
  {claim : ClaimCandidate} {texts : IdTexts} {view : ObjectView}

theorem names_of_candidate (member : candidate ∈ candidateObjects write)
    (resolved : objectIdFor base candidate.objectType candidate.canonicalKey = .ok objectId) :
    Names base write objectId := by
  rcases mem_append.1 member with isRoot | isTarget
  · refine .inl ?_
    split at isRoot
    next absent =>
      rw [rootIdFor, absent, Option.mem_toList.1 isRoot]
      exact resolved
    next => cases isRoot
  · obtain ⟨relation, listed, rfl⟩ := mem_map.1 isTarget
    exact .inr ⟨relation, listed, resolved⟩

theorem Merges.names (merges : Merges base write objectId) : Names base write objectId := by
  obtain ⟨candidate, member, row, found, rfl, -⟩ := merges
  refine names_of_candidate member ?_
  rw [objectIdFor, show base.objectOf? _ _ = some row from found]

/-! ## Objects -/

/-- **The objects of a store**, seen from the store that the call has met: rows
are merged in place and added, and only what the call names is touched. -/
structure ObjectsGrow (base : KnowledgeBase) (write : KnowledgeWrite) (current : KnowledgeBase) :
    Prop where
  rows : ∃ (merge : ObjectModel → ObjectModel) (added : List ObjectModel),
    current.objects.rows = base.objects.rows.map merge ++ added ∧
    (∀ row, (merge row).objectId = row.objectId ∧ (merge row).objectType = row.objectType ∧
      (merge row).canonicalKey = row.canonicalKey) ∧
    (∀ row ∈ base.objects.rows, ¬ Merges base write row.objectId → merge row = row) ∧
    ∀ row ∈ added, Names base write row.objectId

namespace ObjectsGrow

variable {current : KnowledgeBase}

theorem refl (base : KnowledgeBase) (write : KnowledgeWrite) : ObjectsGrow base write base :=
  ⟨id, [], by simp, fun _ => ⟨rfl, rfl, rfl⟩, fun _ _ _ => rfl, fun _ member => nomatch member⟩

section

variable (grows : ObjectsGrow base write current)

include grows

theorem of_eq (same : next.objects = current.objects) :
    ObjectsGrow base write next := by
  obtain ⟨merge, added, rows⟩ := grows.rows
  exact ⟨merge, added, by rw [same]; exact rows⟩

/-- A stored object that is not merged is the row it was. -/
theorem get?_of_not_merges
    (found : base.objects.get? objectId = some row) (untouched : ¬ Merges base write objectId) :
    current.objects.get? objectId = some row := by
  obtain ⟨merge, added, rows, -, kept, -⟩ := grows.rows
  obtain ⟨member, rfl⟩ := get?_eq_some.1 found
  refine get?_eq_some.2 ⟨?_, rfl⟩
  rw [rows]
  refine mem_append_left _ (mem_map.2 ⟨row, member, ?_⟩)
  exact kept row member untouched

/-- A stored object stays, with its type. -/
theorem get?_type
    (found : base.objects.get? objectId = some row) :
    ∃ later, current.objects.get? objectId = some later ∧ later.objectType = row.objectType := by
  obtain ⟨merge, added, rows, keeps, -, -⟩ := grows.rows
  obtain ⟨member, rfl⟩ := get?_eq_some.1 found
  refine ⟨merge row, get?_eq_some.2 ⟨?_, (keeps row).1⟩, (keeps row).2.1⟩
  rw [rows]
  exact mem_append_left _ (mem_map_of_mem member)

/-- An object that is there later was there, or is named. -/
theorem get?_before
    (found : current.objects.get? objectId = some row) :
    (∃ old, base.objects.get? objectId = some old) ∨ Names base write objectId := by
  obtain ⟨merge, added, rows, keeps, -, named⟩ := grows.rows
  obtain ⟨member, rfl⟩ := get?_eq_some.1 found
  rw [rows] at member
  rcases mem_append.1 member with old | new
  · obtain ⟨before, listed, rfl⟩ := mem_map.1 old
    exact .inl ⟨before, get?_eq_some.2 ⟨listed, (keeps before).1.symm⟩⟩
  · exact .inr (named row new)

end

end ObjectsGrow

/-- An object is stored under a new name, or merged into the row of its key. -/
theorem storeObject_rows (ok : storeObject base candidate revision = .ok (row, next)) :
    next.objects.rows = base.objects.rows ++ [row] ∨
      ∃ old, base.objectOf? candidate.objectType candidate.canonicalKey = some old ∧
        row.objectId = old.objectId ∧
        next.objects.rows = base.objects.rows.map fun row =>
          if row.objectId = old.objectId then row.withProperties candidate.properties else row := by
  unfold storeObject at ok
  cases found : base.objectOf? candidate.objectType candidate.canonicalKey with
  | none =>
      rw [found] at ok
      obtain ⟨objectId, -, ok⟩ := bind_eq_ok.1 ok
      obtain ⟨objects, inserted, ok⟩ := fetch_bind_eq_ok.1 ok
      cases ok
      exact .inl (insert?_eq_some inserted).1
  | some old =>
      rw [found] at ok
      dsimp only at ok
      refine .inr ⟨old, rfl, ?_⟩
      split at ok
      next nothing =>
        cases ok
        refine ⟨rfl, ?_⟩
        -- merging nothing changes nothing
        rw [nothing]
        exact (List.map_id'' (fun row => ite_self row) _).symm
      next =>
        cases ok
        exact ⟨rfl, rfl⟩

theorem ObjectsGrow.storeObject {current : KnowledgeBase} (grows : ObjectsGrow base write current)
    (same : SameObjects base current) (member : candidate ∈ candidateObjects write)
    (ok : storeObject current candidate revision = .ok (row, next)) :
    ObjectsGrow base write next := by
  obtain ⟨merge, added, rows, keeps, kept, named⟩ := grows.rows
  obtain ⟨-, resolved, -⟩ := storeObject_ok ok
  rw [same] at resolved
  rcases storeObject_rows ok with inserted | ⟨old, found, -, merged⟩
  · refine ⟨merge, added ++ [row], by rw [inserted, rows, append_assoc], keeps, kept, ?_⟩
    intro other listed
    rcases mem_append.1 listed with before | new
    · exact named other before
    · rw [mem_singleton.1 new]
      exact names_of_candidate member resolved
  · let update : ObjectModel → ObjectModel := fun row =>
      if row.objectId = old.objectId then row.withProperties candidate.properties else row
    have updateKeeps : ∀ row, (update row).objectId = row.objectId ∧
        (update row).objectType = row.objectType ∧
        (update row).canonicalKey = row.canonicalKey := by
      intro row
      simp only [update]
      split
      · exact ⟨rfl, rfl, rfl⟩
      · exact ⟨rfl, rfl, rfl⟩
    refine ⟨update ∘ merge, added.map update, ?_, ?_, ?_, ?_⟩
    · rw [merged, rows, map_append, map_map]
    · intro row
      obtain ⟨id, type, key⟩ := updateKeeps (merge row)
      obtain ⟨oldId, oldType, oldKey⟩ := keeps row
      exact ⟨id.trans oldId, type.trans oldType, key.trans oldKey⟩
    · intro before listed untouched
      show update (merge before) = before
      rw [kept before listed untouched]
      simp only [update]
      split
      next isOld =>
        -- the candidate has found the row of `before`, and would not change it
        have located : base.objectOf? candidate.objectType candidate.canonicalKey = some before := by
          unfold KnowledgeBase.objectOf? at found ⊢
          have condition : (fun row : ObjectModel => decide (row.objectType = candidate.objectType ∧
              row.canonicalKey = candidate.canonicalKey)) ∘ merge = fun row =>
                decide (row.objectType = candidate.objectType ∧
                  row.canonicalKey = candidate.canonicalKey) := by
            funext row
            simp only [Function.comp, (keeps row).2.1, (keeps row).2.2]
          rw [rows, List.find?_append, List.find?_map, condition] at found
          cases first : base.objects.rows.find? (fun row => row.objectType = candidate.objectType ∧
              row.canonicalKey = candidate.canonicalKey) with
          | some row =>
              rw [first] at found
              obtain rfl := Option.some.inj found
              have listedRow := mem_of_find?_eq_some first
              rw [(keeps row).1] at isOld
              rw [eq_of_key listedRow listed isOld.symm]
          | none =>
              rw [first] at found
              have foundAdded : old ∈ added := mem_of_find?_eq_some found
              have oldMember : old ∈ current.objects.rows := by
                rw [rows]
                exact mem_append_right _ foundAdded
              have beforeMember : before ∈ current.objects.rows := by
                rw [rows]
                refine mem_append_left _ (mem_map.2 ⟨before, listed, ?_⟩)
                exact kept before listed untouched
              obtain rfl := eq_of_key beforeMember oldMember isOld
              have fits := find?_some found
              exact absurd fits (find?_eq_none.1 first before listed)
        by_contra changes
        exact untouched ⟨candidate, member, before, located, rfl, changes⟩
      next => rfl
    · intro other listed
      obtain ⟨before, addedBefore, rfl⟩ := mem_map.1 listed
      rw [(updateKeeps before).1]
      exact named before addedBefore

theorem exists_storeObject (ok : storeObject base candidate revision = .ok (row, next)) :
    ∃ stored, next.objects.get? row.objectId = some stored := by
  rcases storeObject_rows ok with inserted | ⟨old, found, same, merged⟩
  · refine ⟨row, get?_eq_some.2 ⟨?_, rfl⟩⟩
    rw [inserted]
    exact mem_append_right _ mem_cons_self
  · refine ⟨old.withProperties candidate.properties, get?_eq_some.2 ⟨?_, same.symm⟩⟩
    rw [merged]
    exact mem_map.2 ⟨old, mem_of_find?_eq_some found, if_pos rfl⟩

/-! ## The frame of a call -/

/-- The row of a relation agrees with its identifier. -/
structure RelationModel.WellFormed (row : RelationModel) : Prop where
  source : row.sourceObjectId = row.relationId.rootObjectId
  target : row.targetObjectId = row.relationId.targetObjectId

/-- Rows agree with their identifiers, and relations are between stored objects. -/
structure Formed (base : KnowledgeBase) : Prop where
  claims : ClaimsWellFormed base
  relations : ∀ row ∈ base.relations.rows, row.WellFormed
  grounded : ∀ row ∈ base.relations.rows,
    (∃ source, base.objects.get? row.sourceObjectId = some source) ∧
      ∃ target, base.objects.get? row.targetObjectId = some target

theorem Formed.of_eq (formed : Formed base) (objects : next.objects = base.objects)
    (claims : next.claims = base.claims) (relations : next.relations = base.relations) :
    Formed next where
  claims := by
    unfold ClaimsWellFormed
    rw [claims]
    exact formed.claims
  relations := by
    rw [relations]
    exact formed.relations
  grounded := by
    rw [relations, objects]
    exact formed.grounded

/-- The accepted relations that make an object part of a repository. -/
def membersOf (base : KnowledgeBase) (objectId : String) : List RelationModel :=
  base.relations.select fun row => row.targetObjectId = objectId ∧ row.isAccepted = true ∧
    row.relationType = "belongs-to-repo"

/-- The call replaces a relation that makes its object part of the repository. -/
def Drops (base : KnowledgeBase) (write : KnowledgeWrite) (objectId : String) : Prop :=
  "belongs-to-repo" ∈ write.candidate.replaceRelationTypes ∧
    ∃ rootObjectId ∈ (rootIdFor base write).toOption, ∃ row ∈ base.relations.rows,
      row.targetObjectId = objectId ∧
        row.isCurrent rootObjectId "belongs-to-repo" write.sourceId = true

/-- **The frame of a call** about the object `rootObjectId`: what a store within
it keeps of the rows that the views read. -/
structure Framed (base : KnowledgeBase) (write : KnowledgeWrite) (rootObjectId : String)
    (current : KnowledgeBase) : Prop where
  isRoot : rootIdFor base write = .ok rootObjectId
  formed : Formed current
  objects : ObjectsGrow base write current
  same : SameObjects base current
  identifiers : ∀ objectId, ¬ Names base write objectId →
    identifiersOf current objectId = identifiersOf base objectId
  claims : ∀ objectId, objectId ≠ rootObjectId →
    acceptedClaims current objectId = acceptedClaims base objectId
  outgoing : ∀ objectId, objectId ≠ rootObjectId →
    relationsFrom current objectId = relationsFrom base objectId
  members : ∀ objectId, ¬ Names base write objectId → ¬ Drops base write objectId →
    membersOf current objectId = membersOf base objectId

namespace Framed

variable {current : KnowledgeBase} {rootObjectId : String}

section

variable (framed : Framed base write rootObjectId current)

include framed

/-- A step that stores no object stays within the frame if what it changes is not
seen from outside. -/
theorem step (formed : Formed next)
    (objects : next.objects = current.objects)
    (identifiers : ∀ objectId, ¬ Names base write objectId →
      identifiersOf next objectId = identifiersOf current objectId)
    (claims : ∀ objectId, objectId ≠ rootObjectId →
      acceptedClaims next objectId = acceptedClaims current objectId)
    (outgoing : ∀ objectId, objectId ≠ rootObjectId →
      relationsFrom next objectId = relationsFrom current objectId)
    (members : ∀ objectId, ¬ Names base write objectId → ¬ Drops base write objectId →
      membersOf next objectId = membersOf current objectId) :
    Framed base write rootObjectId next where
  isRoot := framed.isRoot
  formed := formed
  objects := framed.objects.of_eq objects
  same := framed.same.trans (.of_eq objects)
  identifiers objectId unnamed :=
    (identifiers objectId unnamed).trans (framed.identifiers objectId unnamed)
  claims objectId other := (claims objectId other).trans (framed.claims objectId other)
  outgoing objectId other := (outgoing objectId other).trans (framed.outgoing objectId other)
  members objectId unnamed kept :=
    (members objectId unnamed kept).trans (framed.members objectId unnamed kept)

theorem upsertIdentifiers {identifiers : List (String × List String)} (named : Names base write objectId)
    (ok : upsertIdentifiers current objectId identifiers = .ok next) :
    Framed base write rootObjectId next := by
  refine foldlM_invariant (Framed base write rootObjectId) ?_ framed ok
  intro identifier _ before after framed step
  unfold upsertIdentifier at step
  split at step
  next =>
    obtain ⟨-, step⟩ := require_bind_eq_ok.1 step
    cases step
    exact framed
  next =>
    obtain ⟨identifiers, inserted, step⟩ := fetch_bind_eq_ok.1 step
    cases step
    refine framed.step (framed.formed.of_eq rfl rfl rfl) rfl (fun other unnamed => ?_)
      (fun _ _ => rfl) (fun _ _ => rfl) (fun _ _ _ => rfl)
    have different : ¬ objectId = other := by
      rintro rfl
      exact unnamed named
    exact Table.select_insert? inserted (decide_eq_false different)

theorem storeObject
    (member : candidate ∈ candidateObjects write)
    (ok : storeObject current candidate revision = .ok (row, next)) :
    Framed base write rootObjectId next := by
  have objects := framed.objects.storeObject framed.same member ok
  have stays := (ObjectsGrow.refl current write).storeObject (.of_eq rfl) member ok
  obtain ⟨⟨stored, rfl⟩, -, same⟩ := storeObject_ok ok
  have grounded : ∀ relation ∈ current.relations.rows,
      (∃ source, stored.get? relation.sourceObjectId = some source) ∧
        ∃ target, stored.get? relation.targetObjectId = some target := by
    intro relation listed
    obtain ⟨⟨source, sourceFound⟩, ⟨target, targetFound⟩⟩ := framed.formed.grounded relation listed
    obtain ⟨source, sourceFound, -⟩ := stays.get?_type sourceFound
    obtain ⟨target, targetFound, -⟩ := stays.get?_type targetFound
    exact ⟨⟨source, sourceFound⟩, ⟨target, targetFound⟩⟩
  exact ⟨framed.isRoot, ⟨framed.formed.claims, framed.formed.relations, grounded⟩, objects,
    framed.same.trans same, framed.identifiers, framed.claims, framed.outgoing, framed.members⟩

theorem upsertObject
    (member : candidate ∈ candidateObjects write)
    (ok : upsertObject current candidate revision = .ok (row, next)) :
    Framed base write rootObjectId next ∧ Names base write row.objectId ∧
      ∃ stored, next.objects.get? row.objectId = some stored := by
  obtain ⟨⟨stored, middle⟩, storing, ok⟩ := bind_eq_ok.1 ok
  obtain ⟨last, naming, ok⟩ := bind_eq_ok.1 ok
  cases ok
  have named : Names base write row.objectId := by
    obtain ⟨-, resolved, -⟩ := storeObject_ok storing
    rw [framed.same] at resolved
    exact names_of_candidate member resolved
  refine ⟨(framed.storeObject member storing).upsertIdentifiers named naming, named, ?_⟩
  obtain ⟨identifiers, rfl⟩ := upsertIdentifiers_ok naming
  obtain ⟨later, found⟩ := exists_storeObject storing
  exact ⟨later, found⟩

/-- Superseding claims of the object is not seen from another object. -/
theorem supersedeSourceClaims
    (predicate sourceId : String) (revision : ℕ) :
    Framed base write rootObjectId
      (supersedeSourceClaims current rootObjectId predicate sourceId revision) := by
  have wellFormed : ClaimsWellFormed
      (Knowledge.supersedeSourceClaims current rootObjectId predicate sourceId revision) := by
    intro id row found
    rw [get?_supersedeSourceClaims] at found
    obtain ⟨old, oldFound, rfl⟩ := map_eq_some_iff.1 found
    obtain ⟨⟨ending, changed⟩, -⟩ := old.afterSupersede_cases rootObjectId predicate sourceId revision
    rw [changed]
    exact (framed.formed.claims id old oldFound).withSuperseded ending
  refine framed.step ⟨wellFormed, framed.formed.relations, framed.formed.grounded⟩ rfl
    (fun _ _ => rfl) (fun objectId other => ?_) (fun _ _ => rfl) (fun _ _ _ => rfl)
  refine Table.select_modify (fun row => by split <;> rfl) fun row _ => ?_
  by_cases current : row.isCurrent rootObjectId predicate sourceId = true
  · have subject := (ClaimModel.isCurrent_iff.1 current).1.subject
    rw [if_pos current]
    refine .inr ⟨decide_eq_false fun seen => ?_, decide_eq_false fun seen => ?_⟩
    · exact other (seen.1.symm.trans subject)
    · exact other (seen.1.symm.trans subject)
  · exact .inl (if_neg current)

end

theorem storeClaim (framed : Framed base context.write context.root.objectId current)
    (ok : storeClaim context current claim = .ok next) :
    Framed base context.write context.root.objectId next := by
  have wellFormed : ClaimsWellFormed next := by
    intro id row found
    rw [(storeClaim_ok ok).2] at found
    split at found
    next =>
      obtain rfl := Option.some.inj found
      cases stored : current.claims.get? id with
      | none => exact newClaim_wellFormed context claim
      | some old => exact (framed.formed.claims id old stored).withSuperseded none
    next => exact framed.formed.claims id row found
  unfold Knowledge.storeClaim at ok
  dsimp only at ok
  split at ok
  next =>
    obtain ⟨claims, inserted, ok⟩ := fetch_bind_eq_ok.1 ok
    obtain ⟨evidenceLinks, rfl⟩ := addEvidenceLink_ok ok
    refine framed.step ⟨wellFormed, framed.formed.relations, framed.formed.grounded⟩ rfl
      (fun _ _ => rfl) (fun objectId other => ?_) (fun _ _ => rfl) (fun _ _ _ => rfl)
    exact Table.select_insert? inserted (decide_eq_false fun seen => other seen.1.symm)
  next =>
    cases ok
    refine framed.step ⟨wellFormed, framed.formed.relations, framed.formed.grounded⟩ rfl
      (fun _ _ => rfl) (fun objectId other => ?_) (fun _ _ => rfl) (fun _ _ _ => rfl)
    refine Table.select_update (fun row : ClaimModel => row.withSuperseded_claimId none)
      fun row member named => ?_
    have subject : row.subjectId = context.root.objectId := by
      rw [(framed.formed.claims _ row (get?_of_mem member)).subject, named]
      rfl
    refine ⟨decide_eq_false fun seen => ?_, decide_eq_false fun seen => ?_⟩
    · exact other (seen.1.symm.trans subject)
    · exact other (seen.1.symm.trans subject)

theorem applyClaim (framed : Framed base context.write context.root.objectId current)
    (ok : applyClaim context current claim = .ok next) :
    Framed base context.write context.root.objectId next := by
  unfold Knowledge.applyClaim at ok
  dsimp only at ok
  split at ok
  · exact framed.storeClaim ok
  · exact (framed.supersedeSourceClaims _ _ _).storeClaim ok

/-- Superseding relations of the object is seen from a repository only if it
drops a member. -/
theorem supersedeSourceRelations (framed : Framed base write rootObjectId current)
    {relationType : String} (replaced : relationType ∈ write.candidate.replaceRelationTypes)
    (revision : ℕ) :
    Framed base write rootObjectId
      (supersedeSourceRelations current rootObjectId relationType write.sourceId revision) := by
  let rewrite : RelationModel → RelationModel := fun row =>
    if row.isCurrent rootObjectId relationType write.sourceId then row.withSuperseded (some revision)
    else row
  have rows : (Knowledge.supersedeSourceRelations current rootObjectId relationType write.sourceId
      revision).relations.rows = current.relations.rows.map rewrite := rfl
  have keeps : ∀ row, (rewrite row).relationId = row.relationId ∧
      (rewrite row).sourceObjectId = row.sourceObjectId ∧
      (rewrite row).targetObjectId = row.targetObjectId := by
    intro row
    simp only [rewrite]
    split
    · exact ⟨rfl, rfl, rfl⟩
    · exact ⟨rfl, rfl, rfl⟩
  have selected : ∀ row : RelationModel,
      row.isCurrent rootObjectId relationType write.sourceId = true →
      row.sourceObjectId = rootObjectId ∧ row.relationType = relationType ∧
        row.isAccepted = true := by
    intro row current
    simp only [RelationModel.isCurrent, decide_eq_true_eq] at current
    obtain ⟨source, type, accepted, active, -⟩ := current
    exact ⟨source, type, decide_eq_true ⟨accepted, active⟩⟩
  refine framed.step ⟨framed.formed.claims, ?_, ?_⟩ rfl (fun _ _ => rfl) (fun _ _ => rfl) ?_ ?_
  · intro row member
    rw [rows] at member
    obtain ⟨old, listed, rfl⟩ := mem_map.1 member
    obtain ⟨id, source, target⟩ := keeps old
    obtain ⟨oldSource, oldTarget⟩ := framed.formed.relations old listed
    exact ⟨by rw [source, id, oldSource], by rw [target, id, oldTarget]⟩
  · intro row member
    rw [rows] at member
    obtain ⟨old, listed, rfl⟩ := mem_map.1 member
    obtain ⟨-, source, target⟩ := keeps old
    rw [source, target]
    exact framed.formed.grounded old listed
  · intro objectId other
    refine Table.select_modify (fun row => by split <;> rfl) fun row _ => ?_
    by_cases hit : row.isCurrent rootObjectId relationType write.sourceId = true
    · obtain ⟨source, -, -⟩ := selected row hit
      rw [if_pos hit]
      refine .inr ⟨decide_eq_false fun seen => ?_, decide_eq_false fun seen => ?_⟩
      · exact other (seen.1.symm.trans source)
      · exact other (seen.1.symm.trans source)
    · exact .inl (if_neg hit)
  · intro objectId unnamed kept
    refine Table.select_modify (fun row => by split <;> rfl) fun row member => ?_
    by_cases hit : row.isCurrent rootObjectId relationType write.sourceId = true
    · obtain ⟨-, type, accepted⟩ := selected row hit
      rw [if_pos hit]
      refine .inr ⟨decide_eq_false fun seen => kept ?_, decide_eq_false fun seen => kept ?_⟩
      · -- the row is a member now, so it was one when the call began
        have before : row ∈ membersOf base objectId := by
          rw [← framed.members objectId unnamed kept]
          exact mem_select.2 ⟨member, decide_eq_true seen⟩
        obtain rfl : relationType = "belongs-to-repo" := type.symm.trans seen.2.2
        exact ⟨replaced, rootObjectId, by simpa using framed.isRoot, row,
          (mem_select.1 before).1, seen.1, hit⟩
      · have ended : (row.withSuperseded (some revision)).isAccepted = false :=
          decide_eq_false fun both => absurd both.2 (some_ne_none revision)
        rw [ended] at seen
        cases seen.2.1
    · exact .inl (if_neg hit)

theorem supersedeReplaced (context : WriteContext)
    (framed : Framed base context.write context.root.objectId current) :
    Framed base context.write context.root.objectId (supersedeReplaced context current) := by
  have claims : ∀ (predicates : List String) (current : KnowledgeBase),
      Framed base context.write context.root.objectId current →
      Framed base context.write context.root.objectId (predicates.foldl (fun base predicate =>
        Knowledge.supersedeSourceClaims base context.root.objectId predicate
          context.write.sourceId context.revision) current) := by
    intro predicates
    induction predicates with
    | nil => exact fun _ framed => framed
    | cons predicate rest ih =>
        exact fun current framed => ih _ (framed.supersedeSourceClaims _ _ _)
  have relations : ∀ types : List String,
      (∀ type ∈ types, type ∈ context.write.candidate.replaceRelationTypes) →
      ∀ current, Framed base context.write context.root.objectId current →
      Framed base context.write context.root.objectId (types.foldl (fun base relationType =>
        Knowledge.supersedeSourceRelations base context.root.objectId relationType
          context.write.sourceId context.revision) current) := by
    intro types
    induction types with
    | nil => exact fun _ _ framed => framed
    | cons type rest ih =>
        intro replaced current framed
        refine ih (fun other member => replaced other (mem_cons_of_mem _ member)) _ ?_
        exact framed.supersedeSourceRelations (replaced type mem_cons_self) _
  exact relations _ (fun _ member => member) _ (claims _ _ framed)

theorem storeRelation {targetId : String} {relation : RelationCandidate}
    (framed : Framed base context.write context.root.objectId current)
    (named : Names base context.write targetId)
    (rootStored : ∃ root, current.objects.get? context.root.objectId = some root)
    (targetStored : ∃ target, current.objects.get? targetId = some target)
    (ok : storeRelation context current targetId relation = .ok next) :
    Framed base context.write context.root.objectId next := by
  unfold Knowledge.storeRelation at ok
  dsimp only at ok
  split at ok
  next =>
    obtain ⟨relations, inserted, ok⟩ := fetch_bind_eq_ok.1 ok
    obtain ⟨evidenceLinks, rfl⟩ := addEvidenceLink_ok ok
    refine framed.step ⟨framed.formed.claims, ?_, ?_⟩ rfl (fun _ _ => rfl) (fun _ _ => rfl) ?_ ?_
    · intro row member
      rw [(insert?_eq_some inserted).1] at member
      rcases mem_append.1 member with old | new
      · exact framed.formed.relations row old
      · rw [mem_singleton.1 new]
        exact ⟨rfl, rfl⟩
    · intro row member
      rw [(insert?_eq_some inserted).1] at member
      rcases mem_append.1 member with old | new
      · exact framed.formed.grounded row old
      · rw [mem_singleton.1 new]
        exact ⟨rootStored, targetStored⟩
    · intro objectId other
      exact Table.select_insert? inserted (decide_eq_false fun seen => other seen.1.symm)
    · intro objectId unnamed _
      refine Table.select_insert? inserted (decide_eq_false fun seen => unnamed ?_)
      obtain rfl : targetId = objectId := seen.1
      exact named
  next =>
    cases ok
    have rewritten : ∀ row ∈ current.relations.rows,
        row.relationId = relationIdOf context.write context.root.objectId targetId relation →
        row.sourceObjectId = context.root.objectId ∧ row.targetObjectId = targetId := by
      intro row member same
      obtain ⟨source, target⟩ := framed.formed.relations row member
      rw [source, target, same]
      exact ⟨rfl, rfl⟩
    refine framed.step ⟨framed.formed.claims, ?_, ?_⟩ rfl (fun _ _ => rfl) (fun _ _ => rfl) ?_ ?_
    · intro row member
      obtain ⟨old, listed, rfl⟩ := mem_map.1 member
      split
      · exact ⟨(framed.formed.relations old listed).source, (framed.formed.relations old listed).target⟩
      · exact framed.formed.relations old listed
    · intro row member
      obtain ⟨old, listed, rfl⟩ := mem_map.1 member
      split
      · exact framed.formed.grounded old listed
      · exact framed.formed.grounded old listed
    · intro objectId other
      refine Table.select_update (fun row : RelationModel => row.withSuperseded_relationId none)
        fun row member same => ?_
      obtain ⟨source, -⟩ := rewritten row member same
      refine ⟨decide_eq_false fun seen => ?_, decide_eq_false fun seen => ?_⟩
      · exact other (seen.1.symm.trans source)
      · exact other (seen.1.symm.trans source)
    · intro objectId unnamed _
      refine Table.select_update (fun row : RelationModel => row.withSuperseded_relationId none)
        fun row member same => ?_
      obtain ⟨-, target⟩ := rewritten row member same
      refine ⟨decide_eq_false fun seen => unnamed ?_, decide_eq_false fun seen => unnamed ?_⟩
      · rw [← seen.1, target]
        exact named
      · have seenTarget : row.targetObjectId = objectId := seen.1
        rw [← seenTarget, target]
        exact named

/-- What is stored stays stored when an object is stored. -/
theorem exists_upsertObject (member : candidate ∈ candidateObjects context.write)
    (ok : Knowledge.upsertObject current candidate revision = .ok (row, next))
    (stored : ∃ row, current.objects.get? objectId = some row) :
    ∃ row, next.objects.get? objectId = some row := by
  obtain ⟨old, found⟩ := stored
  obtain ⟨⟨_, between⟩, storing, ok⟩ := bind_eq_ok.1 ok
  obtain ⟨last, naming, ok⟩ := bind_eq_ok.1 ok
  cases ok
  obtain ⟨identifiers, rfl⟩ := upsertIdentifiers_ok naming
  obtain ⟨later, laterFound, -⟩ := ((ObjectsGrow.refl current context.write).storeObject
    (.of_eq rfl) member storing).get?_type found
  exact ⟨later, laterFound⟩

/-- The loop over the relations stays within the frame, and stores and lists the
objects it relates to. -/
theorem applyRelations {relations : List RelationCandidate} {objectIds laterIds : List String}
    {relationIds laterRelations : List RelationId}
    (framed : Framed base context.write context.root.objectId current)
    (rootListed : context.root.objectId ∈ objectIds)
    (stored : ∀ objectId ∈ objectIds, ∃ row, current.objects.get? objectId = some row)
    (listed : ∀ relation ∈ relations, relation ∈ context.write.candidate.relations)
    (ok : applyRelations context current objectIds relationIds relations =
      .ok (laterIds, laterRelations, next)) :
    Framed base context.write context.root.objectId next ∧
      (∀ objectId ∈ laterIds, ∃ row, next.objects.get? objectId = some row) ∧
      ∀ objectId, objectId ∈ laterIds ↔ objectId ∈ objectIds ∨ ∃ relation ∈ relations,
        objectIdFor base relation.target.objectType relation.target.canonicalKey = .ok objectId := by
  induction relations generalizing current objectIds relationIds with
  | nil =>
      cases ok
      exact ⟨framed, stored, fun objectId => by simp⟩
  | cons relation rest ih =>
      obtain ⟨⟨target, upserted⟩, storing, ok⟩ := bind_eq_ok.1 ok
      obtain ⟨middle, relating, ok⟩ := bind_eq_ok.1 ok
      have candidate : relation.target ∈ candidateObjects context.write :=
        mem_append_right _ (mem_map_of_mem (listed relation mem_cons_self))
      obtain ⟨framedStored, named, targetStored⟩ := framed.upsertObject candidate storing
      have still : ∀ objectId ∈ objectIds, ∃ row, upserted.objects.get? objectId = some row :=
        fun objectId member => exists_upsertObject candidate storing (stored objectId member)
      have framedMiddle := framedStored.storeRelation named (still _ rootListed) targetStored relating
      obtain ⟨⟨tables, evidenceLinks, rfl⟩, -⟩ := storeRelation_ok relating
      have both : ∀ objectId, objectId ∈ (if target.objectId ∈ objectIds then objectIds
          else objectIds ++ [target.objectId]) ↔ objectId ∈ objectIds ∨ target.objectId = objectId := by
        intro objectId
        split
        next already =>
          constructor
          · exact .inl
          · rintro (old | rfl)
            · exact old
            · exact already
        next => rw [mem_append, mem_singleton, eq_comm]
      obtain ⟨framedNext, laterStored, laterListed⟩ := ih framedMiddle
        ((both _).2 (.inl rootListed))
        (fun objectId member => by
          rcases (both objectId).1 member with old | rfl
          · exact still objectId old
          · exact targetStored)
        (fun other member => listed other (mem_cons_of_mem _ member)) ok
      refine ⟨framedNext, laterStored, fun objectId => ?_⟩
      obtain ⟨-, resolved⟩ := upsertObject_ok storing
      rw [framed.same] at resolved
      rw [laterListed, both, List.exists_mem_cons_iff, resolved, Except.ok.injEq, or_assoc]

theorem resolveRoot {root : ObjectModel} (framed : Framed base write rootObjectId current)
    (ok : resolveRoot current write revision = .ok (root, next)) :
    Framed base write rootObjectId next ∧
      ∃ stored, next.objects.get? root.objectId = some stored := by
  unfold Knowledge.resolveRoot at ok
  cases given : write.rootObjectId with
  | none =>
      rw [given] at ok
      obtain ⟨candidate, isRoot, ok⟩ := fetch_bind_eq_ok.1 ok
      have member : candidate ∈ candidateObjects write := by
        refine mem_append_left _ ?_
        rw [if_pos given, isRoot]
        exact mem_singleton_self candidate
      obtain ⟨framedNext, -, stored⟩ := framed.upsertObject member ok
      exact ⟨framedNext, stored⟩
  | some rootObjectId =>
      rw [given] at ok
      obtain ⟨row, found, ok⟩ := fetch_bind_eq_ok.1 ok
      cases ok
      have named := key_of_get? found
      exact ⟨framed, root, by rw [named, found]⟩

end Framed

/-- **The frame of a call** from the store it meets to the store it leaves, and
the event with which it lists what it names. -/
theorem framed_applyFresh {runId : ProcessingRunId} {now : ℤ} {result : NormalizationResult}
    (formed : Formed base)
    (ok : applyFresh base write runId revision now = .ok (result, next)) :
    ∃ rootObjectId event, Framed base write rootObjectId next ∧
      base.outbox.insert? event = some next.outbox ∧ event.revision = revision ∧
      (∀ objectId ∈ event.objectIds, ∃ row, next.objects.get? objectId = some row) ∧
      ∀ objectId, objectId ∈ event.objectIds ↔ Names base write objectId := by
  obtain ⟨started, opened, root, rooted, named, claimed, objectIds, relationIds, related, change,
    starts, opens, roots, names, claims, relates, records, -⟩ := applyFresh_ok ok
  obtain ⟨changes, -, records⟩ := fetch_bind_eq_ok.1 records
  obtain ⟨outbox, inserted, records⟩ := fetch_bind_eq_ok.1 records
  cases records
  obtain ⟨processingRuns, rfl⟩ := startRun_ok starts
  obtain ⟨revisions, -, rfl⟩ := openRevision_ok opens
  obtain ⟨⟨⟨objects, identifiers, tables⟩, same⟩, rootId⟩ := resolveRoot_ok roots
  have isRoot : rootIdFor base write = .ok root.objectId := rootId
  have framedOpened : Framed base write root.objectId
      { base with processingRuns, revisions } :=
    ⟨isRoot, formed.of_eq rfl rfl rfl, (ObjectsGrow.refl base write).of_eq rfl, .of_eq rfl,
      fun _ _ => rfl, fun _ _ => rfl, fun _ _ => rfl, fun _ _ _ => rfl⟩
  obtain ⟨framedRooted, rootStored⟩ := framedOpened.resolveRoot roots
  have framedNamed := framedRooted.upsertIdentifiers (.inl isRoot) names
  let context : WriteContext := ⟨write, root, runId, revision⟩
  have framedClaimed : Framed base context.write context.root.objectId claimed := by
    refine foldlM_invariant (Framed base context.write context.root.objectId) ?_
      (Framed.supersedeReplaced context framedNamed) claims
    intro claim _ before after framed step
    exact framed.applyClaim step
  obtain ⟨moreIdentifiers, rfl⟩ := upsertIdentifiers_ok names
  obtain ⟨moreClaims, moreLinks, claimedTables⟩ := applyClaims_tables claims
  obtain ⟨oldClaims, oldRelations, replaced⟩ := supersedeReplaced_tables
    ⟨write, root, runId, revision⟩ { rooted with identifiers := moreIdentifiers }
  have claimedStored : ∀ objectId ∈ [root.objectId], ∃ row,
      claimed.objects.get? objectId = some row := by
    intro objectId member
    rw [mem_singleton.1 member, claimedTables, replaced]
    exact rootStored
  obtain ⟨framedRelated, stored, listed⟩ := framedClaimed.applyRelations mem_cons_self
    claimedStored (fun _ member => member) relates
  obtain ⟨_, _, _, _, relatedTables⟩ := applyRelations_tables relates
  have sameOutbox : related.outbox = base.outbox := by
    rw [relatedTables, claimedTables, replaced, tables]
  refine ⟨root.objectId, _, ?_, by rw [← sameOutbox]; exact inserted, rfl, stored,
    fun objectId => ?_⟩
  · exact framedRelated.step (framedRelated.formed.of_eq rfl rfl rfl) rfl (fun _ _ => rfl)
      (fun _ _ => rfl) (fun _ _ => rfl) (fun _ _ _ => rfl)
  · show objectId ∈ objectIds ↔ _
    rw [listed, mem_singleton, Names, isRoot, Except.ok.injEq, eq_comm]

/-! ## The views outside the frame -/

section Sorting

variable {α : Type} {order : α → α → Prop} [DecidableRel order]

theorem filter_orderedInsert [IsTrans α order] (condition : α → Bool) (item : α) {items : List α}
    (sorted : items.Pairwise order) :
    (items.orderedInsert order item).filter condition =
      if condition item then (items.filter condition).orderedInsert order item
      else items.filter condition := by
  induction items with
  | nil =>
      rw [List.orderedInsert_nil, List.filter_singleton]
      cases condition item <;> rfl
  | cons first rest ih =>
      obtain ⟨below, sortedRest⟩ := pairwise_cons.1 sorted
      by_cases here : order item first
      · rw [List.orderedInsert_cons_of_le _ _ here, filter_cons]
        -- what is left of the list after filtering is still above the item
        have above : ∀ other ∈ (first :: rest).filter condition, order item other := by
          intro other member
          rcases mem_cons.1 (mem_of_mem_filter member) with rfl | later
          · exact here
          · exact IsTrans.trans _ _ _ here (below other later)
        split
        next =>
          cases kept : (first :: rest).filter condition with
          | nil => rfl
          | cons head tail =>
              rw [kept] at above
              rw [List.orderedInsert_cons_of_le _ _ (above head mem_cons_self)]
        next => rfl
      · rw [List.orderedInsert_of_not_le _ _ here, filter_cons, ih sortedRest, filter_cons]
        cases condition first with
        | false => rfl
        | true =>
            cases condition item with
            | false => rfl
            | true =>
                show _ = (first :: rest.filter condition).orderedInsert order item
                rw [List.orderedInsert_of_not_le _ _ here]
                rfl

theorem filter_insertionSort [Std.Total order] [IsTrans α order] (condition : α → Bool)
    (items : List α) :
    (items.insertionSort order).filter condition = (items.filter condition).insertionSort order := by
  induction items with
  | nil => rfl
  | cons item rest ih =>
      rw [List.insertionSort_cons, filter_orderedInsert condition item
        (pairwise_insertionSort order rest), ih, filter_cons]
      split
      · rfl
      · rfl

end Sorting

/-- Of the relations to a repository only those of its members are shown. -/
theorem filter_orderRelations (texts : IdTexts) (base : KnowledgeBase) (objectId : String) :
    (orderRelations texts (relationsTo base objectId)).filter
        (fun row => row.relationType = "belongs-to-repo") =
      orderRelations texts (membersOf base objectId) := by
  let order : RelationModel → RelationModel → Prop := fun first second =>
    first.createdRevision < second.createdRevision ∨
      (first.createdRevision = second.createdRevision ∧
        texts.relation first.relationId ≤ texts.relation second.relationId)
  have total : Std.Total order := by
    refine ⟨fun first second => ?_⟩
    rcases lt_trichotomy first.createdRevision second.createdRevision with less | same | more
    · exact .inl (.inl less)
    · rcases le_total (texts.relation first.relationId) (texts.relation second.relationId) with
        below | above
      · exact .inl (.inr ⟨same, below⟩)
      · exact .inr (.inr ⟨same.symm, above⟩)
    · exact .inr (.inl more)
  have transitive : IsTrans RelationModel order := by
    refine ⟨fun first second third => ?_⟩
    rintro (less | ⟨same, below⟩) (later | ⟨equal, next⟩)
    · exact .inl (less.trans later)
    · exact .inl (less.trans_eq equal)
    · exact .inl (same.trans_lt later)
    · exact .inr ⟨same.trans equal, below.trans next⟩
  have members : (relationsTo base objectId).filter
      (fun row => row.relationType = "belongs-to-repo") = membersOf base objectId := by
    unfold relationsTo membersOf select
    rw [List.filter_filter]
    refine filter_congr fun row _ => ?_
    rw [← Bool.decide_and, decide_eq_decide]
    tauto
  calc (orderRelations texts (relationsTo base objectId)).filter
        (fun row => row.relationType = "belongs-to-repo")
      = ((relationsTo base objectId).filter
          (fun row => row.relationType = "belongs-to-repo")).insertionSort order :=
        filter_insertionSort _ _
    _ = orderRelations texts (membersOf base objectId) := by
        rw [members]
        rfl

def IsType (base : KnowledgeBase) (objectId objectType : String) : Prop :=
  (base.objects.get? objectId).map (·.objectType) = some objectType

/-- **The call names every object whose views it changes**: whoever shows an
object that it merges, and the repositories whose members it drops. -/
structure Covers (base : KnowledgeBase) (write : KnowledgeWrite) : Prop where
  vulnerabilities : ∀ row ∈ base.relations.rows, row.isAccepted = true →
    IsType base row.sourceObjectId "Vulnerability" → Merges base write row.targetObjectId →
      Names base write row.sourceObjectId
  repositories : ∀ row ∈ base.relations.rows, row.isAccepted = true →
    row.relationType = "belongs-to-repo" → IsType base row.targetObjectId "Repo" →
      Merges base write row.sourceObjectId → Names base write row.targetObjectId
  dropped : ∀ row ∈ base.relations.rows, IsType base row.targetObjectId "Repo" →
    Drops base write row.targetObjectId → Names base write row.targetObjectId

section Views

variable {rootObjectId : String}

theorem Framed.vulnerabilityProjection_eq (framed : Framed base write rootObjectId next)
    (formed : Formed base) (covers : Covers base write) (texts : IdTexts)
    (found : base.objects.get? object.objectId = some object)
    (isVulnerability : object.objectType = "Vulnerability")
    (unnamed : ¬ Names base write object.objectId) :
    vulnerabilityProjection texts next object = vulnerabilityProjection texts base object := by
  have other : object.objectId ≠ rootObjectId := by
    rintro same
    exact unnamed (same ▸ .inl framed.isRoot)
  have relations : (orderRelations texts (relationsFrom base object.objectId)).map
        (relationView next) =
      (orderRelations texts (relationsFrom base object.objectId)).map (relationView base) := by
    refine map_congr_left fun row member => ?_
    have listed := (mem_insertionSort _).1 member
    obtain ⟨stored, seen⟩ := mem_select.1 listed
    obtain ⟨source, accepted⟩ := of_decide_eq_true seen
    obtain ⟨target, targetFound⟩ := (formed.grounded row stored).2
    have untouched : ¬ Merges base write row.targetObjectId := by
      intro merges
      refine unnamed (source ▸ covers.vulnerabilities row stored accepted ?_ merges)
      rw [IsType, source, found, map_some, isVulnerability]
    simp only [relationView, framed.objects.get?_of_not_merges targetFound untouched, targetFound]
  simp only [vulnerabilityProjection, framed.identifiers _ unnamed, framed.claims _ other,
    framed.outgoing _ other, relations]

theorem Framed.repoSecurityProjection_eq (framed : Framed base write rootObjectId next)
    (formed : Formed base) (covers : Covers base write) (texts : IdTexts)
    (found : base.objects.get? object.objectId = some object) (isRepo : object.objectType = "Repo")
    (unnamed : ¬ Names base write object.objectId) :
    repoSecurityProjection texts next object = repoSecurityProjection texts base object := by
  have other : object.objectId ≠ rootObjectId := by
    rintro same
    exact unnamed (same ▸ .inl framed.isRoot)
  have typed : IsType base object.objectId "Repo" := by
    rw [IsType, found, map_some, isRepo]
  have kept : ¬ Drops base write object.objectId := by
    intro drops
    obtain ⟨-, -, -, row, listed, target, -⟩ := id drops
    exact unnamed (target ▸ covers.dropped row listed (target.symm ▸ typed) (target.symm ▸ drops))
  have members : (orderRelations texts (membersOf base object.objectId)).filterMap
        (developmentObject? next) =
      (orderRelations texts (membersOf base object.objectId)).filterMap
        (developmentObject? base) := by
    refine List.filterMap_congr fun row member => ?_
    have listed := (mem_insertionSort _).1 member
    obtain ⟨stored, seen⟩ := mem_select.1 listed
    obtain ⟨target, accepted, type⟩ := of_decide_eq_true seen
    obtain ⟨source, sourceFound⟩ := (formed.grounded row stored).1
    have untouched : ¬ Merges base write row.sourceObjectId := by
      intro merges
      exact unnamed (target ▸ covers.repositories row stored accepted type (target.symm ▸ typed) merges)
    simp only [developmentObject?, framed.objects.get?_of_not_merges sourceFound untouched,
      sourceFound]
  simp only [repoSecurityProjection, filter_orderRelations, framed.members _ unnamed kept,
    framed.claims _ other, members]

/-- The views of an object that the call does not name stay. -/
theorem Framed.objectViews_eq (framed : Framed base write rootObjectId next)
    (formed : Formed base) (covers : Covers base write) (texts : IdTexts)
    (unnamed : ¬ Names base write objectId) :
    objectViews texts next objectId = objectViews texts base objectId := by
  unfold objectViews
  cases found : base.objects.get? objectId with
  | none =>
      have absent : next.objects.get? objectId = none := by
        cases later : next.objects.get? objectId with
        | none => rfl
        | some row =>
            rcases framed.objects.get?_before later with ⟨old, before⟩ | named
            · rw [found] at before
              cases before
            · exact absurd named unnamed
      rw [absent]
  | some object =>
      rw [framed.objects.get?_of_not_merges found fun merges => unnamed merges.names]
      obtain rfl := key_of_get? found
      dsimp only
      split
      next isVulnerability =>
        rw [framed.vulnerabilityProjection_eq formed covers texts found isVulnerability unnamed]
      next =>
        split
        next isRepo =>
          rw [framed.repoSecurityProjection_eq formed covers texts found isRepo unnamed]
        next => rfl

def viewTypes (objectType : String) : List ProjectionType :=
  if objectType = "Vulnerability" then
    [.currentVulnerabilityView, .currentAffectedVersions, .currentFixStatus]
  else if objectType = "Repo" then [.currentRepoSecurityState]
  else []

theorem map_projectionType_objectViews (texts : IdTexts)
    (found : base.objects.get? objectId = some object) :
    (objectViews texts base objectId).map (·.projectionType) = viewTypes object.objectType := by
  unfold objectViews viewTypes
  rw [found]
  dsimp only
  split
  · rfl
  · split
    · rfl
    · rfl

theorem stored_of_mem_objectViews (member : view ∈ objectViews texts base objectId) :
    ∃ row, base.objects.get? objectId = some row := by
  cases found : base.objects.get? objectId with
  | none =>
      rw [objectViews, found] at member
      cases member
  | some object => exact ⟨object, rfl⟩

theorem nodup_objectViews (texts : IdTexts) (base : KnowledgeBase) (objectId : String) :
    ((objectViews texts base objectId).map (·.projectionType)).Nodup := by
  cases found : base.objects.get? objectId with
  | none => simp [objectViews, found]
  | some object =>
      rw [map_projectionType_objectViews texts found, viewTypes]
      split
      · decide
      · split
        · decide
        · decide

theorem computedView_of_mem (member : view ∈ objectViews texts base objectId) :
    computedView texts base view.projectionType objectId = some (view.projectionKey, view.data) := by
  have located : (objectViews texts base objectId).find?
      (fun other => other.projectionType = view.projectionType) = some view := by
    cases found : (objectViews texts base objectId).find?
        (fun other => other.projectionType = view.projectionType) with
    | none =>
        have absent := find?_eq_none.1 found view member
        simp at absent
    | some other =>
        have same : other.projectionType = view.projectionType := by
          simpa using find?_some found
        rw [inj_on_of_nodup_map (nodup_objectViews texts base objectId)
          (mem_of_find?_eq_some found) member same]
  rw [computedView, located]
  rfl

end Views

end SecFusion.Knowledge
