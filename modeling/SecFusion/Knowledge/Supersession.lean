import SecFusion.Knowledge.History

/-!
# What a source says now

A fresh `apply` is meant to leave, for each predicate it carries or replaces, the
claims of its candidate as the only active claims of that object, predicate and
source.  The loop supersedes before each claim, unless the predicate is replaced
as a whole, and then stores the claim or activates the stored one.  So a claim is
superseded by the next claim of the candidate with its predicate, and of several
claims with one predicate only the last is active in the end.

`ClaimsSettled` is the invariant of the loop after a prefix of the claims;
`supersession` says exactly which candidates come out as meant.
-/

namespace SecFusion.Knowledge

open Foundations

/-! ## Claims of one source -/

/-- A claim of the object, predicate and source, active or not. -/
structure ClaimModel.IsOf (row : ClaimModel) (subjectId predicate sourceId : String) : Prop where
  subject : row.subjectId = subjectId
  predicate : row.predicate = predicate
  accepted : row.lifecycle = .accepted
  source : JsonObject.get? row.qualifier "source_id" = some (.string sourceId)

variable {row : ClaimModel} {subjectId predicate sourceId : String} {base next : KnowledgeBase}
  {id : ClaimId} {claims : List ClaimCandidate} {result : NormalizationResult}

theorem ClaimModel.isCurrent_iff :
    row.isCurrent subjectId predicate sourceId = true ↔
      row.IsOf subjectId predicate sourceId ∧ row.supersededRevision = none := by
  simp only [ClaimModel.isCurrent, decide_eq_true_eq]
  constructor
  · rintro ⟨subject, predicate, accepted, active, source⟩
    exact ⟨⟨subject, predicate, accepted, source⟩, active⟩
  · rintro ⟨⟨subject, predicate, accepted, source⟩, active⟩
    exact ⟨subject, predicate, accepted, active, source⟩

theorem ClaimModel.IsOf.withSuperseded (isOf : row.IsOf subjectId predicate sourceId)
    (revision : Option ℕ) :
    (row.withSuperseded revision).IsOf subjectId predicate sourceId :=
  ⟨isOf.subject, isOf.predicate, isOf.accepted, isOf.source⟩

/-- The active claims of the object, predicate and source. -/
def activeClaims (base : KnowledgeBase) (subjectId predicate sourceId : String) : Set ClaimId :=
  { id | ∃ row, base.claims.get? id = some row ∧
      row.isCurrent subjectId predicate sourceId = true }

def candidateClaims (write : KnowledgeWrite) (rootObjectId predicate : String) : Set ClaimId :=
  { id | ∃ claim ∈ write.candidate.claims, claim.predicate = predicate ∧
      claimIdOf write rootObjectId claim = id }

/-- **What a fresh call is meant to leave.** -/
structure Settled (next : KnowledgeBase) (write : KnowledgeWrite) (rootObjectId : String) :
    Prop where
  active : ∀ claim ∈ write.candidate.claims, ∃ row,
    next.claims.get? (claimIdOf write rootObjectId claim) = some row ∧
      row.supersededRevision = none
  exact : ∀ predicate, (predicate ∈ write.candidate.claims.map (·.predicate) ∨
      predicate ∈ write.candidate.replacePredicates) →
    activeClaims next rootObjectId predicate write.sourceId =
      candidateClaims write rootObjectId predicate

/-- No two different claims of the candidate share a predicate, unless it is
replaced as a whole. -/
def Separate (write : KnowledgeWrite) : Prop :=
  ∀ first ∈ write.candidate.claims, ∀ second ∈ write.candidate.claims,
    first.predicate = second.predicate → first.predicate ∉ write.candidate.replacePredicates →
      first.value = second.value ∧ first.qualifier = second.qualifier

/-- The claims of the candidate that are stored have been stored for its source. -/
def OwnClaims (base : KnowledgeBase) (write : KnowledgeWrite) (rootObjectId : String) : Prop :=
  ∀ claim ∈ write.candidate.claims,
    ∀ row ∈ base.claims.get? (claimIdOf write rootObjectId claim),
      JsonObject.get? row.qualifier "source_id" = some (.string write.sourceId)

/-- The row of a claim agrees with its identifier and is accepted, whatever the
call that stored it. -/
structure ClaimModel.WellFormed (row : ClaimModel) : Prop where
  subject : row.subjectId = row.claimId.rootObjectId
  predicate : row.predicate = row.claimId.predicate
  accepted : row.lifecycle = .accepted

theorem ClaimModel.WellFormed.withSuperseded (wellFormed : row.WellFormed) (revision : Option ℕ) :
    (row.withSuperseded revision).WellFormed :=
  ⟨wellFormed.subject, wellFormed.predicate, wellFormed.accepted⟩

theorem newClaim_wellFormed (context : WriteContext) (claim : ClaimCandidate) :
    (newClaim context claim).WellFormed := ⟨rfl, rfl, rfl⟩

/-- The vocabulary of a qualifier does not hide its source. -/
theorem newClaim_isOf (context : WriteContext) (claim : ClaimCandidate) :
    (newClaim context claim).IsOf context.root.objectId claim.predicate
      context.write.sourceId := by
  refine ⟨rfl, rfl, rfl, ?_⟩
  simp only [newClaim, storedQualifier, vocabularyMetadata, JsonObject.update, foldl_cons,
    foldl_nil]
  rw [JsonObject.get?_set_of_ne _ _ (by decide), JsonObject.get?_set_of_ne _ _ (by decide),
    JsonObject.get?_set_self]

/-! ## One round -/

/-- The row a superseding query leaves. -/
def ClaimModel.afterSupersede (row : ClaimModel) (subjectId predicate sourceId : String)
    (revision : ℕ) : ClaimModel :=
  if row.isCurrent subjectId predicate sourceId then row.withSuperseded (some revision) else row

theorem get?_supersedeSourceClaims (base : KnowledgeBase) (subjectId predicate sourceId : String)
    (revision : ℕ) (id : ClaimId) :
    (supersedeSourceClaims base subjectId predicate sourceId revision).claims.get? id =
      (base.claims.get? id).map
        (·.afterSupersede subjectId predicate sourceId revision) := by
  rw [supersedeSourceClaims, get?_modify]
  rfl

/-- A superseding query changes no more than the end of a window, and leaves no
claim of its kind active. -/
theorem ClaimModel.afterSupersede_cases (row : ClaimModel) (subjectId predicate sourceId : String)
    (revision : ℕ) :
    (∃ ending, row.afterSupersede subjectId predicate sourceId revision =
        row.withSuperseded ending) ∧
      ((row.afterSupersede subjectId predicate sourceId revision).supersededRevision = none →
        row.afterSupersede subjectId predicate sourceId revision = row ∧
          ¬ row.IsOf subjectId predicate sourceId) := by
  unfold ClaimModel.afterSupersede
  split
  next =>
    refine ⟨⟨some revision, rfl⟩, fun active => ?_⟩
    cases active
  next other =>
    refine ⟨⟨row.supersededRevision, rfl⟩, fun active => ⟨rfl, fun isOf => other ?_⟩⟩
    exact ClaimModel.isCurrent_iff.2 ⟨isOf, active⟩

/-- **One round of the loop**: the claim of the round is active; any other row is
the row it was, unless the round has superseded it. -/
theorem applyClaim_rows {context : WriteContext} {claim : ClaimCandidate}
    (ok : applyClaim context base claim = .ok next) (id : ClaimId) :
    (claimIdOf context.write context.root.objectId claim = id →
        (∃ row, base.claims.get? id = some row ∧
            next.claims.get? id = some (row.withSuperseded none)) ∨
          (base.claims.get? id = none ∧ next.claims.get? id = some (newClaim context claim))) ∧
      (claimIdOf context.write context.root.objectId claim ≠ id →
        next.claims.get? id =
          if claim.predicate ∈ context.write.candidate.replacePredicates then base.claims.get? id
          else (base.claims.get? id).map (·.afterSupersede context.root.objectId claim.predicate
            context.write.sourceId context.revision)) := by
  unfold applyClaim at ok
  dsimp only at ok
  obtain ⟨-, lookup⟩ := storeClaim_ok ok
  have middle : ∀ id, (if claim.predicate ∈ context.write.candidate.replacePredicates then base
      else supersedeSourceClaims base context.root.objectId claim.predicate
        context.write.sourceId context.revision).claims.get? id =
      if claim.predicate ∈ context.write.candidate.replacePredicates then base.claims.get? id
      else (base.claims.get? id).map (·.afterSupersede context.root.objectId claim.predicate
        context.write.sourceId context.revision) := by
    intro id
    split
    · rfl
    · exact get?_supersedeSourceClaims base _ _ _ _ id
  constructor
  · intro same
    rw [lookup, if_pos same, middle]
    cases found : base.claims.get? id with
    | none =>
        refine .inr ⟨rfl, ?_⟩
        split <;> rfl
    | some row =>
        refine .inl ⟨row, rfl, ?_⟩
        split
        · rfl
        · obtain ⟨⟨ending, changed⟩, -⟩ := row.afterSupersede_cases context.root.objectId
            claim.predicate context.write.sourceId context.revision
          rw [map_some, changed]
          rfl
  · intro different
    rw [lookup, if_neg different, middle]

/-! ## The loop -/

/-- **The loop after the claims `done`**, from the store `base` that the call has
met. -/
structure ClaimsSettled (context : WriteContext) (base : KnowledgeBase)
    (done : List ClaimCandidate) (current : KnowledgeBase) : Prop where
  wellFormed : ∀ id row, current.claims.get? id = some row → row.WellFormed
  kept : ∀ id row, base.claims.get? id = some row →
    ∃ ending, current.claims.get? id = some (row.withSuperseded ending)
  fresh : ∀ id row, base.claims.get? id = none → current.claims.get? id = some row →
    row.IsOf context.root.objectId row.predicate context.write.sourceId
  /-- What is active for a predicate seen so far is of the candidate. -/
  only : ∀ predicate, (predicate ∈ context.write.candidate.replacePredicates ∨
      predicate ∈ done.map (·.predicate)) →
    ∀ id row, current.claims.get? id = some row → row.supersededRevision = none →
      row.IsOf context.root.objectId predicate context.write.sourceId →
        ∃ claim ∈ done, claim.predicate = predicate ∧
          claimIdOf context.write context.root.objectId claim = id
  /-- For a predicate that is not replaced as a whole, it is at most one claim. -/
  one : ∀ predicate, predicate ∉ context.write.candidate.replacePredicates →
    predicate ∈ done.map (·.predicate) →
    ∀ first firstRow, current.claims.get? first = some firstRow →
      firstRow.supersededRevision = none →
      firstRow.IsOf context.root.objectId predicate context.write.sourceId →
    ∀ second secondRow, current.claims.get? second = some secondRow →
      secondRow.supersededRevision = none →
      secondRow.IsOf context.root.objectId predicate context.write.sourceId → first = second

namespace ClaimsSettled

variable {context : WriteContext} {current : KnowledgeBase} {done : List ClaimCandidate}
  {claim : ClaimCandidate}

/-- A row that a round leaves active is the claim of the round, or was active
before and is not what the round supersedes. -/
theorem active_before (settled : ClaimsSettled context base done current)
    (ok : applyClaim context current claim = .ok next)
    (found : next.claims.get? id = some row) (active : row.supersededRevision = none) :
    (claimIdOf context.write context.root.objectId claim = id ∧ row.predicate = claim.predicate) ∨
      (claimIdOf context.write context.root.objectId claim ≠ id ∧
        current.claims.get? id = some row ∧
        (claim.predicate ∉ context.write.candidate.replacePredicates →
          ¬ row.IsOf context.root.objectId claim.predicate context.write.sourceId)) := by
  obtain ⟨own, others⟩ := applyClaim_rows ok id
  by_cases same : claimIdOf context.write context.root.objectId claim = id
  · refine .inl ⟨same, ?_⟩
    rcases own same with ⟨old, oldFound, now⟩ | ⟨-, now⟩
    · obtain rfl := mem_unique now found
      have named := key_of_get? oldFound
      show old.predicate = claim.predicate
      rw [(settled.wellFormed id old oldFound).predicate, named, ← same]
      rfl
    · obtain rfl := mem_unique now found
      rfl
  · refine .inr ⟨same, ?_⟩
    have lookup := others same
    rw [found] at lookup
    split at lookup
    next replaced => exact ⟨lookup.symm, fun other => absurd replaced other⟩
    next =>
      obtain ⟨old, oldFound, changed⟩ := map_eq_some_iff.1 lookup.symm
      obtain ⟨-, untouched⟩ := old.afterSupersede_cases context.root.objectId claim.predicate
        context.write.sourceId context.revision
      rw [changed] at untouched
      obtain ⟨rfl, isOther⟩ := untouched active
      exact ⟨oldFound, fun _ => isOther⟩

/-- A round keeps the facts of every row. -/
theorem step_kept (ok : applyClaim context current claim = .ok next)
    (found : current.claims.get? id = some row) :
    ∃ ending, next.claims.get? id = some (row.withSuperseded ending) := by
  obtain ⟨own, others⟩ := applyClaim_rows ok id
  by_cases same : claimIdOf context.write context.root.objectId claim = id
  · rcases own same with ⟨old, oldFound, now⟩ | ⟨absent, -⟩
    · obtain rfl := mem_unique oldFound found
      exact ⟨none, now⟩
    · rw [absent] at found
      cases found
  · rw [others same, found]
    split
    · exact ⟨row.supersededRevision, rfl⟩
    · obtain ⟨⟨ending, changed⟩, -⟩ := row.afterSupersede_cases context.root.objectId
        claim.predicate context.write.sourceId context.revision
      exact ⟨ending, by rw [map_some, changed]⟩

/-- A row after a round was there before it, but for the end of its window, or is
the new claim. -/
theorem step_row (ok : applyClaim context current claim = .ok next)
    (found : next.claims.get? id = some row) :
    (∃ old ending, current.claims.get? id = some old ∧ row = old.withSuperseded ending) ∨
      (current.claims.get? id = none ∧ row = newClaim context claim) := by
  obtain ⟨own, others⟩ := applyClaim_rows ok id
  by_cases same : claimIdOf context.write context.root.objectId claim = id
  · rcases own same with ⟨old, oldFound, now⟩ | ⟨absent, now⟩
    · exact .inl ⟨old, none, oldFound, mem_unique found now⟩
    · exact .inr ⟨absent, mem_unique found now⟩
  · have lookup := others same
    rw [found] at lookup
    split at lookup
    next => exact .inl ⟨row, row.supersededRevision, lookup.symm, rfl⟩
    next =>
      obtain ⟨old, oldFound, rfl⟩ := map_eq_some_iff.1 lookup.symm
      obtain ⟨⟨ending, changed⟩, -⟩ := old.afterSupersede_cases context.root.objectId
        claim.predicate context.write.sourceId context.revision
      exact .inl ⟨old, ending, oldFound, changed⟩

theorem step (settled : ClaimsSettled context base done current)
    (ok : applyClaim context current claim = .ok next) :
    ClaimsSettled context base (done ++ [claim]) next := by
  constructor
  case wellFormed =>
    intro id row found
    rcases step_row ok found with ⟨old, ending, oldFound, rfl⟩ | ⟨-, rfl⟩
    · exact (settled.wellFormed id old oldFound).withSuperseded ending
    · exact newClaim_wellFormed context claim
  case kept =>
    intro id row found
    obtain ⟨ending, middle⟩ := settled.kept id row found
    obtain ⟨later, last⟩ := step_kept ok middle
    exact ⟨later, last⟩
  case fresh =>
    intro id row absent found
    rcases step_row ok found with ⟨old, ending, oldFound, rfl⟩ | ⟨-, rfl⟩
    · exact (settled.fresh id old absent oldFound).withSuperseded ending
    · exact newClaim_isOf context claim
  case only =>
    intro predicate seen id row found active isOf
    rcases settled.active_before ok found active with ⟨same, ofClaim⟩ | ⟨-, before, other⟩
    · exact ⟨claim, mem_append_right _ (mem_singleton_self claim),
        ofClaim.symm.trans isOf.predicate, same⟩
    · have earlier : predicate ∈ context.write.candidate.replacePredicates ∨
          predicate ∈ done.map (·.predicate) := by
        rcases seen with replaced | listed
        · exact .inl replaced
        · rw [map_append, mem_append] at listed
          rcases listed with old | new
          · exact .inr old
          · obtain rfl : predicate = claim.predicate := mem_singleton.1 new
            -- the round has superseded what there was, unless the predicate is replaced
            by_contra missing
            exact other (fun replaced => missing (.inl replaced)) isOf
      obtain ⟨owner, member, named, same⟩ := settled.only predicate earlier id row before active isOf
      exact ⟨owner, mem_append_left _ member, named, same⟩
  case one =>
    intro predicate notReplaced listed first firstRow firstFound firstActive firstOf second
      secondRow secondFound secondActive secondOf
    rw [map_append, mem_append] at listed
    by_cases here : claim.predicate = predicate
    · subst here
      have only : ∀ {id row}, next.claims.get? id = some row → row.supersededRevision = none →
          row.IsOf context.root.objectId claim.predicate context.write.sourceId →
            claimIdOf context.write context.root.objectId claim = id := by
        intro id row found active isOf
        rcases settled.active_before ok found active with ⟨same, -⟩ | ⟨-, -, other⟩
        · exact same
        · exact absurd isOf (other notReplaced)
      rw [← only firstFound firstActive firstOf, ← only secondFound secondActive secondOf]
    · have before : ∀ {id row}, next.claims.get? id = some row → row.supersededRevision = none →
          row.IsOf context.root.objectId predicate context.write.sourceId →
            current.claims.get? id = some row := by
        intro id row found active isOf
        rcases settled.active_before ok found active with ⟨-, ofClaim⟩ | ⟨-, before, -⟩
        · exact absurd (ofClaim.symm.trans isOf.predicate) here
        · exact before
      have old : predicate ∈ done.map (·.predicate) := by
        rcases listed with old | new
        · exact old
        · exact absurd (mem_singleton.1 new).symm here
      exact settled.one predicate notReplaced old first firstRow
        (before firstFound firstActive firstOf) firstActive firstOf second secondRow
        (before secondFound secondActive secondOf) secondActive secondOf

theorem loop (settled : ClaimsSettled context base done current)
    (ok : claims.foldlM (applyClaim context) current = .ok next) :
    ClaimsSettled context base (done ++ claims) next := by
  induction claims generalizing done current with
  | nil =>
      cases ok
      rw [append_nil]
      exact settled
  | cons claim rest ih =>
      rw [foldlM_cons, bind_eq_ok] at ok
      obtain ⟨middle, here, later⟩ := ok
      have whole := ih (settled.step here) later
      rw [append_assoc] at whole
      exact whole

/-- Where the candidate's claims are separate and its own, each claim stays active
once it has been stored. -/
theorem active_loop
    (own : ∀ claim ∈ done ++ claims, ∀ row ∈ base.claims.get?
      (claimIdOf context.write context.root.objectId claim),
        row.IsOf context.root.objectId claim.predicate context.write.sourceId)
    (separate : ∀ first ∈ done ++ claims, ∀ second ∈ done ++ claims,
      first.predicate = second.predicate →
      first.predicate ∉ context.write.candidate.replacePredicates →
        claimIdOf context.write context.root.objectId first =
          claimIdOf context.write context.root.objectId second)
    (settled : ClaimsSettled context base done current)
    (active : ∀ claim ∈ done, ∃ row, current.claims.get?
      (claimIdOf context.write context.root.objectId claim) = some row ∧
        row.supersededRevision = none ∧
        row.IsOf context.root.objectId claim.predicate context.write.sourceId)
    (ok : claims.foldlM (applyClaim context) current = .ok next) :
    ∀ claim ∈ done ++ claims, ∃ row, next.claims.get?
      (claimIdOf context.write context.root.objectId claim) = some row ∧
        row.supersededRevision = none ∧
        row.IsOf context.root.objectId claim.predicate context.write.sourceId := by
  induction claims generalizing done current with
  | nil =>
      cases ok
      rw [append_nil]
      exact active
  | cons claim rest ih =>
      rw [foldlM_cons, bind_eq_ok] at ok
      obtain ⟨middle, here, later⟩ := ok
      have shift : done ++ claim :: rest = done ++ [claim] ++ rest := by simp
      rw [shift] at own separate ⊢
      refine ih own separate (settled.step here) ?_ later
      intro owner member
      have listed : owner ∈ done ++ [claim] ++ rest := mem_append_left _ member
      have claimListed : claim ∈ done ++ [claim] ++ rest := by simp
      obtain ⟨own', others⟩ := applyClaim_rows here
        (claimIdOf context.write context.root.objectId owner)
      by_cases same : claimIdOf context.write context.root.objectId claim =
          claimIdOf context.write context.root.objectId owner
      · have predicates : claim.predicate = owner.predicate := congrArg ClaimId.predicate same
        rcases own' same with ⟨old, oldFound, now⟩ | ⟨absent, now⟩
        · refine ⟨_, now, rfl, ClaimModel.IsOf.withSuperseded ?_ none⟩
          cases stored : base.claims.get? (claimIdOf context.write context.root.objectId owner) with
          | none =>
              have isOf := settled.fresh _ old stored oldFound
              have named := key_of_get? oldFound
              have predicate : old.predicate = owner.predicate := by
                rw [(settled.wellFormed _ old oldFound).predicate, named]
                rfl
              rw [predicate] at isOf
              exact isOf
          | some row =>
              obtain ⟨ending, kept⟩ := settled.kept _ row stored
              obtain rfl := mem_unique kept oldFound
              exact (own owner listed row stored).withSuperseded ending
        · refine ⟨_, now, rfl, ?_⟩
          rw [← predicates]
          exact newClaim_isOf context claim
      · have before : owner ∈ done := by
          rcases mem_append.1 member with old | new
          · exact old
          · rw [mem_singleton.1 new] at same
            exact absurd rfl same
        obtain ⟨row, found, isActive, isOf⟩ := active owner before
        refine ⟨row, ?_, isActive, isOf⟩
        rw [others same, found]
        split
        next => rfl
        next notReplaced =>
          -- superseding it would need the same predicate, and then the same claim
          have untouched : row.isCurrent context.root.objectId claim.predicate
              context.write.sourceId = false := by
            rw [← Bool.not_eq_true, ClaimModel.isCurrent_iff]
            rintro ⟨ofClaim, -⟩
            have predicates : claim.predicate = owner.predicate :=
              ofClaim.predicate.symm.trans isOf.predicate
            exact same (separate claim claimListed owner listed predicates notReplaced)
          simp [ClaimModel.afterSupersede, untouched]

end ClaimsSettled

/-! ## Before the loop -/

/-- The row that superseding several predicates leaves. -/
def ClaimModel.afterSupersedeAll (row : ClaimModel) (subjectId : String) (predicates : List String)
    (sourceId : String) (revision : ℕ) : ClaimModel :=
  predicates.foldl (fun row predicate => row.afterSupersede subjectId predicate sourceId revision) row

theorem get?_supersedeReplaced (context : WriteContext) (base : KnowledgeBase) (id : ClaimId) :
    (supersedeReplaced context base).claims.get? id =
      (base.claims.get? id).map (·.afterSupersedeAll context.root.objectId
        context.write.candidate.replacePredicates context.write.sourceId context.revision) := by
  have claims : ∀ (predicates : List String) (base : KnowledgeBase),
      (predicates.foldl (fun base predicate => supersedeSourceClaims base context.root.objectId
          predicate context.write.sourceId context.revision) base).claims.get? id =
        (base.claims.get? id).map (·.afterSupersedeAll context.root.objectId predicates
          context.write.sourceId context.revision) := by
    intro predicates
    induction predicates with
    | nil =>
        intro base
        exact Option.map_id'.symm
    | cons predicate rest ih =>
        intro base
        rw [foldl_cons, ih, get?_supersedeSourceClaims, Option.map_map]
        rfl
  have relations : ∀ (types : List String) (base : KnowledgeBase),
      (types.foldl (fun base type => supersedeSourceRelations base context.root.objectId type
        context.write.sourceId context.revision) base).claims = base.claims := by
    intro types
    induction types with
    | nil => exact fun base => rfl
    | cons type rest ih => exact fun base => ih (supersedeSourceRelations base _ _ _ _)
  rw [supersedeReplaced, relations, claims]

theorem ClaimModel.afterSupersedeAll_cases (subjectId sourceId : String) (revision : ℕ)
    (predicates : List String) (row : ClaimModel) :
    (∃ ending, row.afterSupersedeAll subjectId predicates sourceId revision =
        row.withSuperseded ending) ∧
      ((row.afterSupersedeAll subjectId predicates sourceId revision).supersededRevision = none →
        row.afterSupersedeAll subjectId predicates sourceId revision = row ∧
          ∀ predicate ∈ predicates, ¬ row.IsOf subjectId predicate sourceId) := by
  induction predicates generalizing row with
  | nil => exact ⟨⟨row.supersededRevision, rfl⟩, fun _ => ⟨rfl, fun _ member => nomatch member⟩⟩
  | cons predicate rest ih =>
      obtain ⟨⟨first, changed⟩, untouched⟩ :=
        row.afterSupersede_cases subjectId predicate sourceId revision
      obtain ⟨⟨last, later⟩, same⟩ := ih (row.afterSupersede subjectId predicate sourceId revision)
      show (∃ ending, (row.afterSupersede subjectId predicate sourceId revision).afterSupersedeAll
          subjectId rest sourceId revision = _) ∧ _
      refine ⟨⟨last, ?_⟩, fun active => ?_⟩
      · rw [later, changed]
        rfl
      · obtain ⟨unchanged, others⟩ := same active
        rw [show row.afterSupersedeAll subjectId (predicate :: rest) sourceId revision =
          (row.afterSupersede subjectId predicate sourceId revision).afterSupersedeAll subjectId
            rest sourceId revision from rfl, unchanged] at active ⊢
        obtain ⟨isRow, notOf⟩ := untouched active
        refine ⟨isRow, fun other member => ?_⟩
        rcases mem_cons.1 member with rfl | tail
        · exact notOf
        · rw [isRow] at others
          exact others other tail

/-- Every row agrees with its identifier. -/
def ClaimsWellFormed (base : KnowledgeBase) : Prop :=
  ∀ id row, base.claims.get? id = some row → row.WellFormed

theorem ClaimsSettled.start (context : WriteContext) {named : KnowledgeBase}
    (wellFormed : ClaimsWellFormed base) (same : named.claims = base.claims) :
    ClaimsSettled context base [] (supersedeReplaced context named) := by
  have lookup : ∀ id, (supersedeReplaced context named).claims.get? id =
      (base.claims.get? id).map (·.afterSupersedeAll context.root.objectId
        context.write.candidate.replacePredicates context.write.sourceId context.revision) := by
    intro id
    rw [get?_supersedeReplaced, same]
  have changes := fun row : ClaimModel => row.afterSupersedeAll_cases context.root.objectId
    context.write.sourceId context.revision context.write.candidate.replacePredicates
  constructor
  case wellFormed =>
    intro id row found
    rw [lookup] at found
    obtain ⟨old, oldFound, rfl⟩ := map_eq_some_iff.1 found
    obtain ⟨⟨ending, changed⟩, -⟩ := changes old
    rw [changed]
    exact (wellFormed id old oldFound).withSuperseded ending
  case kept =>
    intro id row found
    obtain ⟨⟨ending, changed⟩, -⟩ := changes row
    exact ⟨ending, by rw [lookup, found, map_some, changed]⟩
  case fresh =>
    intro id row absent found
    rw [lookup, absent] at found
    cases found
  case only =>
    rintro predicate (replaced | listed) id row found active isOf
    · rw [lookup] at found
      obtain ⟨old, oldFound, rfl⟩ := map_eq_some_iff.1 found
      obtain ⟨unchanged, others⟩ := (changes old).2 active
      rw [unchanged] at isOf
      exact absurd isOf (others predicate replaced)
    · cases listed
  case one =>
    intro predicate _ listed
    cases listed

/-! ## The calls -/

theorem Applied.claimsSettled {write : KnowledgeWrite} {revision : ℕ} {now : ℤ}
    (wellFormed : ClaimsWellFormed base) (applied : Applied base write revision now result next) :
    ∃ runId root claimed middle, rootIdFor base write = .ok root.objectId ∧
      next.claims = claimed.claims ∧
      ClaimsSettled ⟨write, root, runId, revision⟩ base [] middle ∧
      write.candidate.claims.foldlM (applyClaim ⟨write, root, runId, revision⟩) middle =
        .ok claimed := by
  obtain ⟨runId, root, named, claimed, objectIds, relationIds, related, sameClaims, -, -, rootId,
    claims, relates, nextClaims, -⟩ := applied.stages
  exact ⟨runId, root, claimed, _, rootId, nextClaims.trans (applyRelations_revisions relates).2,
    .start _ wellFormed sameClaims, claims⟩

theorem ClaimsWellFormed.step {op : ApplyOp} (wellFormed : ClaimsWellFormed base)
    (ok : writerService op base = .ok (result, next)) : ClaimsWellFormed next := by
  obtain ⟨seed, -, ⟨-, rfl⟩ | ⟨-, applied⟩⟩ := apply_ok ok
  · exact wellFormed
  · obtain ⟨runId, root, claimed, middle, -, same, start, loop⟩ := applied.claimsSettled wellFormed
    intro id row found
    rw [same] at found
    exact (start.loop loop).wellFormed id row found

theorem claimsWellFormed_knowledgeAfter (ops : List ApplyOp) :
    ClaimsWellFormed (knowledgeAfter ops) := by
  refine run_invariant (fun base op result next wellFormed ok =>
    ClaimsWellFormed.step wellFormed ok) ?_ ops
  intro id row found
  simp [KnowledgeBase.empty] at found

/-- **What a source says now.**  A fresh call that succeeds leaves every claim of
its candidate active, and nothing else active for the predicates it carries or
replaces, exactly if no two different claims of the candidate share a predicate
that it does not replace as a whole, and the claims that were stored already had
been stored for its source. -/
theorem supersession (ops : List ApplyOp) (op : ApplyOp) (result : NormalizationResult)
    (next : KnowledgeBase) (rootObjectId : String)
    (answered : writerService op (knowledgeAfter ops) = .ok (result, next))
    (fresh : IsFresh (knowledgeAfter ops) op.write)
    (isRoot : rootIdFor (knowledgeAfter ops) op.write = .ok rootObjectId) :
    Settled next op.write rootObjectId ↔
      Separate op.write ∧ OwnClaims (knowledgeAfter ops) op.write rootObjectId := by
  have wellFormed := claimsWellFormed_knowledgeAfter ops
  obtain ⟨seed, seeded, ⟨done, -⟩ | ⟨-, applied⟩⟩ := apply_ok answered
  · exact absurd done (fresh seed seeded)
  obtain ⟨runId, root, claimed, middle, rootId, same, start, loop⟩ :=
    applied.claimsSettled wellFormed
  obtain rfl : rootObjectId = root.objectId := by
    rw [isRoot] at rootId
    exact Except.ok.inj rootId
  have settled := start.loop loop
  rw [nil_append] at settled
  constructor
  · rintro ⟨active, exactly⟩
    have current : ∀ claim ∈ op.write.candidate.claims, ∃ row,
        next.claims.get? (claimIdOf op.write root.objectId claim) = some row ∧
          row.IsOf root.objectId claim.predicate op.write.sourceId ∧
          row.supersededRevision = none := by
      intro claim member
      have listed : claimIdOf op.write root.objectId claim ∈
          activeClaims next root.objectId claim.predicate op.write.sourceId := by
        rw [exactly claim.predicate (.inl (mem_map_of_mem member))]
        exact ⟨claim, member, rfl, rfl⟩
      obtain ⟨row, found, isCurrent⟩ := listed
      exact ⟨row, found, ClaimModel.isCurrent_iff.1 isCurrent⟩
    constructor
    · intro first firstMember second secondMember predicates notReplaced
      obtain ⟨firstRow, firstFound, firstOf, firstActive⟩ := current first firstMember
      obtain ⟨secondRow, secondFound, secondOf, secondActive⟩ := current second secondMember
      rw [same] at firstFound secondFound
      rw [← predicates] at secondOf
      have equal := settled.one first.predicate notReplaced (mem_map_of_mem firstMember)
        _ firstRow firstFound firstActive firstOf _ secondRow secondFound secondActive secondOf
      exact ⟨congrArg ClaimId.value equal, congrArg ClaimId.qualifier equal⟩
    · intro claim member row stored
      obtain ⟨later, found, isOf, -⟩ := current claim member
      rw [same] at found
      obtain ⟨ending, kept⟩ := settled.kept _ row stored
      obtain rfl := mem_unique kept found
      exact isOf.source
  · rintro ⟨separate, own⟩
    have stored : ∀ claim ∈ [] ++ op.write.candidate.claims,
        ∀ row, (knowledgeAfter ops).claims.get? (claimIdOf op.write root.objectId claim) =
          some row → row.IsOf root.objectId claim.predicate op.write.sourceId := by
      intro claim member row found
      have rowFormed := wellFormed _ row found
      have named := Table.key_of_get? found
      refine ⟨?_, ?_, rowFormed.accepted, own claim member row found⟩
      · rw [rowFormed.subject, named]
        rfl
      · rw [rowFormed.predicate, named]
        rfl
    have identified : ∀ first ∈ [] ++ op.write.candidate.claims,
        ∀ second ∈ [] ++ op.write.candidate.claims, first.predicate = second.predicate →
          first.predicate ∉ op.write.candidate.replacePredicates →
          claimIdOf op.write root.objectId first = claimIdOf op.write root.objectId second := by
      intro first firstMember second secondMember predicates notReplaced
      obtain ⟨values, qualifiers⟩ :=
        separate first firstMember second secondMember predicates notReplaced
      simp only [claimIdOf, predicates, values, qualifiers]
    have active := ClaimsSettled.active_loop stored identified start
      (fun claim member => nomatch member) loop
    rw [nil_append] at active
    constructor
    · intro claim member
      obtain ⟨row, found, isActive, -⟩ := active claim member
      rw [same]
      exact ⟨row, found, isActive⟩
    · intro predicate seen
      ext id
      constructor
      · rintro ⟨row, found, isCurrent⟩
        obtain ⟨isOf, isActive⟩ := ClaimModel.isCurrent_iff.1 isCurrent
        rw [same] at found
        exact settled.only predicate seen.symm id row found isActive isOf
      · rintro ⟨claim, member, rfl, rfl⟩
        obtain ⟨row, found, isActive, isOf⟩ := active claim member
        rw [← same] at found
        exact ⟨row, found, ClaimModel.isCurrent_iff.2 ⟨isOf, isActive⟩⟩

/-! ## One status, and two -/

instance isFreshDecidable (base : KnowledgeBase) (write : KnowledgeWrite) :
    Decidable (IsFresh base write) :=
  inferInstanceAs (Decidable (∀ seed ∈ rootSeed write, _))

instance separateDecidable (write : KnowledgeWrite) : Decidable (Separate write) :=
  inferInstanceAs (Decidable (∀ first ∈ write.candidate.claims,
    ∀ second ∈ write.candidate.claims, _ → _ → _ ∧ _))

instance ownClaimsDecidable (base : KnowledgeBase) (write : KnowledgeWrite)
    (rootObjectId : String) : Decidable (OwnClaims base write rootObjectId) :=
  inferInstanceAs (Decidable (∀ claim ∈ write.candidate.claims,
    ∀ row ∈ base.claims.get? (claimIdOf write rootObjectId claim), _))

/-- One status is what the source says now, from the second observation on. -/
theorem supersession_second :
    ∃ result next, writerService thirdObservation (knowledgeAfter twoObservations) =
        .ok (result, next) ∧
      Settled next thirdObservation.write "secfusion:object:Product:widget" := by
  have isRoot : rootIdFor (knowledgeAfter twoObservations) thirdObservation.write =
      .ok "secfusion:object:Product:widget" := by
    decide +kernel
  have fresh : IsFresh (knowledgeAfter twoObservations) thirdObservation.write := by
    decide +kernel
  cases answered : writerService thirdObservation (knowledgeAfter twoObservations) with
  | error raised =>
      have succeeds : (writerService thirdObservation
          (knowledgeAfter twoObservations)).isOk = true := by
        decide +kernel
      rw [answered] at succeeds
      cases succeeds
  | ok answer =>
      refine ⟨answer.1, answer.2, rfl, ?_⟩
      refine (supersession twoObservations thirdObservation answer.1 answer.2 _ answered fresh
        isRoot).2 ⟨?_, ?_⟩
      · decide +kernel
      · decide +kernel

/-- One observation with two statuses, which it does not replace as a whole. -/
def twoStatuses : ApplyOp where
  write :=
    { statusWrite "observation-1" "open" "1" with
      candidate :=
        { rootObject := some { objectType := "Product", canonicalKey := "widget" }
          claims := [{ predicate := "status", value := .string "open", locator := [] },
            { predicate := "status", value := .string "triaged", locator := [] }] } }
  revision := 1
  now := 10

/-- **The last claim wins**: of two claims with one predicate the second
supersedes the first. -/
theorem supersession_shadowed :
    ¬ ∀ ops op result next rootObjectId,
      writerService op (knowledgeAfter ops) = .ok (result, next) →
      IsFresh (knowledgeAfter ops) op.write →
      rootIdFor (knowledgeAfter ops) op.write = .ok rootObjectId →
        Settled next op.write rootObjectId := by
  intro settles
  cases answered : writerService twoStatuses (knowledgeAfter []) with
  | error raised =>
      have succeeds : (writerService twoStatuses (knowledgeAfter [])).isOk = true := by
        decide +kernel
      rw [answered] at succeeds
      cases succeeds
  | ok answer =>
      have settled := settles [] twoStatuses answer.1 answer.2 "secfusion:object:Product:widget"
        answered (by decide +kernel) (by decide +kernel)
      have ends : ∀ answer ∈ (writerService twoStatuses (knowledgeAfter [])).toOption,
          ∀ row ∈ answer.2.claims.get? (claimIdOf twoStatuses.write
            "secfusion:object:Product:widget"
            { predicate := "status", value := .string "open", locator := [] }),
            row.supersededRevision = some 1 := by
        decide +kernel
      rw [answered] at ends
      obtain ⟨row, found, active⟩ := settled.active
        { predicate := "status", value := .string "open", locator := [] } (by decide)
      have ended := ends answer rfl row found
      rw [active] at ended
      cases ended

end SecFusion.Knowledge
