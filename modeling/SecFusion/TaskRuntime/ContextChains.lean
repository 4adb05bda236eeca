import SecFusion.TaskRuntime.Context

/-!
# What the operations on manifests keep

A manifest has three fields that no tuple lists: `retrievalInvocationRefs`, `queryIntent`
and `queryIntentModelRef`.  A comparison does not see them, and a merge takes them from the
left.  Whatever is listed is compared field by field (`isEmpty_diffContexts`), united by a
merge and only grown by a refresh (`AdvancesTo`).
-/

namespace SecFusion.TaskRuntime

open Foundations

/-! ## Agreement -/

/-- The two lists have the same references. -/
def SameRefs (first second : List String) : Prop := ∀ ref, ref ∈ first ↔ ref ∈ second

theorem SameRefs.refl (refs : List String) : SameRefs refs refs := fun _ => Iff.rfl

/-- **The manifests agree on every content field**: on every field but the identity of the
revision, its parent and its cache hint. -/
structure SameContent (base current : ContextManifest) : Prop where
  taskContractRef : base.taskContractRef = current.taskContractRef
  roleRef : base.roleRef = current.roleRef
  caseRef : base.caseRef = current.caseRef
  knowledgeRevision : base.knowledgeRevision = current.knowledgeRevision
  investigationStateRef : base.investigationStateRef = current.investigationStateRef
  enrichmentStateRefs : SameRefs base.enrichmentStateRefs current.enrichmentStateRefs
  evidenceRefs : SameRefs base.evidenceRefs current.evidenceRefs
  objectRefs : SameRefs base.objectRefs current.objectRefs
  relationRefs : SameRefs base.relationRefs current.relationRefs
  retrievalInvocationRefs : SameRefs base.retrievalInvocationRefs current.retrievalInvocationRefs
  queryIntent : base.queryIntent = current.queryIntent
  queryIntentModelRef : base.queryIntentModelRef = current.queryIntentModelRef
  trajectoryCheckpointRef : base.trajectoryCheckpointRef = current.trajectoryCheckpointRef
  skillSelectionRefs : SameRefs base.skillSelectionRefs current.skillSelectionRefs
  experiencePatternRefs : SameRefs base.experiencePatternRefs current.experiencePatternRefs
  policyContextRef : base.policyContextRef = current.policyContextRef
  capabilityEnvelopeRef : base.capabilityEnvelopeRef = current.capabilityEnvelopeRef
  budgetRef : base.budgetRef = current.budgetRef

/-- The manifests agree on what the three tuples list. -/
structure SameListed (base current : ContextManifest) : Prop where
  scalars : ∀ field : ScalarField, field.of base = field.of current
  refs : ∀ field : ReferenceField, SameRefs (field.of base) (field.of current)

/-- The manifests agree on the fields that no tuple lists. -/
structure SameUnlisted (base current : ContextManifest) : Prop where
  retrievalInvocationRefs : SameRefs base.retrievalInvocationRefs current.retrievalInvocationRefs
  queryIntent : base.queryIntent = current.queryIntent
  queryIntentModelRef : base.queryIntentModelRef = current.queryIntentModelRef

theorem ScalarValue.ofText?_inj {first second : Option String} :
    ofText? first = ofText? second ↔ first = second := by
  cases first <;> cases second <;> simp [ofText?]

theorem ScalarValue.ofNumber?_inj {first second : Option ℕ} :
    ofNumber? first = ofNumber? second ↔ first = second := by
  cases first <;> cases second <;> simp [ofNumber?]

/-- The fields of `scalarFields`, one by one. -/
structure SameScalars (base current : ContextManifest) : Prop where
  taskContractRef : base.taskContractRef = current.taskContractRef
  roleRef : base.roleRef = current.roleRef
  caseRef : base.caseRef = current.caseRef
  policyContextRef : base.policyContextRef = current.policyContextRef
  capabilityEnvelopeRef : base.capabilityEnvelopeRef = current.capabilityEnvelopeRef
  budgetRef : base.budgetRef = current.budgetRef
  knowledgeRevision : base.knowledgeRevision = current.knowledgeRevision
  investigationStateRef : base.investigationStateRef = current.investigationStateRef
  trajectoryCheckpointRef : base.trajectoryCheckpointRef = current.trajectoryCheckpointRef

variable {second first third manifest : ContextManifest} {field : ScalarField}

section Comparing

variable {base current : ContextManifest}

theorem sameScalars_iff :
    (∀ field : ScalarField, field.of base = field.of current) ↔ SameScalars base current := by
  constructor
  · intro scalars
    have text : ∀ {first second : String}, ScalarValue.text first = .text second →
        first = second := fun same => ScalarValue.text.inj same
    exact {
      taskContractRef := text (scalars (.authority .taskContractRef))
      roleRef := text (scalars (.authority .roleRef))
      caseRef := ScalarValue.ofText?_inj.1 (scalars (.authority .caseRef))
      policyContextRef := text (scalars (.authority .policyContextRef))
      capabilityEnvelopeRef := text (scalars (.authority .capabilityEnvelopeRef))
      budgetRef := text (scalars (.authority .budgetRef))
      knowledgeRevision := ScalarValue.ofNumber?_inj.1 (scalars (.state .knowledgeRevision))
      investigationStateRef :=
        ScalarValue.ofText?_inj.1 (scalars (.state .investigationStateRef))
      trajectoryCheckpointRef :=
        ScalarValue.ofText?_inj.1 (scalars (.state .trajectoryCheckpointRef)) }
  · rintro same (field | field)
    · cases field with
      | taskContractRef => exact congrArg ScalarValue.text same.taskContractRef
      | roleRef => exact congrArg ScalarValue.text same.roleRef
      | caseRef => exact ScalarValue.ofText?_inj.2 same.caseRef
      | policyContextRef => exact congrArg ScalarValue.text same.policyContextRef
      | capabilityEnvelopeRef => exact congrArg ScalarValue.text same.capabilityEnvelopeRef
      | budgetRef => exact congrArg ScalarValue.text same.budgetRef
    · cases field with
      | knowledgeRevision => exact ScalarValue.ofNumber?_inj.2 same.knowledgeRevision
      | investigationStateRef => exact ScalarValue.ofText?_inj.2 same.investigationStateRef
      | trajectoryCheckpointRef => exact ScalarValue.ofText?_inj.2 same.trajectoryCheckpointRef

/-- The content of a manifest is what is listed, and the three fields that are not. -/
theorem sameContent_iff :
    SameContent base current ↔ SameListed base current ∧ SameUnlisted base current := by
  constructor
  · intro same
    refine ⟨⟨sameScalars_iff.2 ?_, fun field => ?_⟩, same.retrievalInvocationRefs,
      same.queryIntent, same.queryIntentModelRef⟩
    · exact ⟨same.taskContractRef, same.roleRef, same.caseRef, same.policyContextRef,
        same.capabilityEnvelopeRef, same.budgetRef, same.knowledgeRevision,
        same.investigationStateRef, same.trajectoryCheckpointRef⟩
    · cases field with
      | enrichmentStateRefs => exact same.enrichmentStateRefs
      | evidenceRefs => exact same.evidenceRefs
      | objectRefs => exact same.objectRefs
      | relationRefs => exact same.relationRefs
      | skillSelectionRefs => exact same.skillSelectionRefs
      | experiencePatternRefs => exact same.experiencePatternRefs
  · rintro ⟨⟨scalars, refs⟩, unlisted⟩
    have same := sameScalars_iff.1 scalars
    exact { same, unlisted with
      enrichmentStateRefs := refs .enrichmentStateRefs
      evidenceRefs := refs .evidenceRefs
      objectRefs := refs .objectRefs
      relationRefs := refs .relationRefs
      skillSelectionRefs := refs .skillSelectionRefs
      experiencePatternRefs := refs .experiencePatternRefs }

/-! ## The difference -/

theorem scalarChange?_eq_none :
    scalarChange? base current field = none ↔ field.of base = field.of current := by
  simp [scalarChange?]

theorem gainedRefs?_eq_none {field : ReferenceField} :
    gainedRefs? base current field = none ↔ field.of current ⊆ field.of base := by
  have gained : ∀ ref, ref ∈ sortedSet ((field.of current).filter (· ∉ field.of base)) ↔
      ref ∈ field.of current ∧ ref ∉ field.of base := by simp
  unfold gainedRefs?
  constructor
  · intro none ref member
    by_contra missing
    have listed := (gained ref).2 ⟨member, missing⟩
    split at none
    next empty => rw [empty] at listed; cases listed
    next => cases none
  · intro subset
    split
    next => rfl
    next ref refs same =>
      have listed := (gained ref).1 (same ▸ mem_cons_self)
      exact absurd (subset listed.1) listed.2

/-- **The difference is empty** exactly when what is listed agrees. -/
theorem isEmpty_diffContexts :
    (diffContexts base current).isEmpty = true ↔ SameListed base current := by
  unfold ContextDelta.isEmpty diffContexts
  simp only [Bool.and_eq_true, List.isEmpty_iff, filterMap_eq_nil_iff,
    scalarChange?_eq_none, gainedRefs?_eq_none]
  constructor
  · rintro ⟨⟨scalars, added⟩, removed⟩
    refine ⟨fun field => scalars field (mem_scalarFields field), fun field ref => ?_⟩
    exact ⟨fun member => removed field (mem_referenceFields field) member,
      fun member => added field (mem_referenceFields field) member⟩
  · rintro ⟨scalars, refs⟩
    exact ⟨⟨fun field _ => scalars field, fun field _ ref member => (refs field ref).2 member⟩,
      fun field _ ref member => (refs field ref).1 member⟩

/-- A field is among the changes when its values differ. -/
theorem changes_diffContexts :
    (diffContexts base current).Changes field ↔ field.of base ≠ field.of current := by
  unfold ContextDelta.Changes diffContexts
  simp only [mem_filterMap]
  constructor
  · rintro ⟨change, ⟨other, -, made⟩, rfl⟩
    unfold scalarChange? at made
    split at made
    next different =>
      obtain rfl := Option.some.inj made
      exact different
    next => cases made
  · intro different
    exact ⟨_, ⟨field, mem_scalarFields field, if_pos different⟩, rfl⟩

end Comparing

/-- **The difference is complete**: it is empty exactly when the contents agree, and so the
gate finds no two manifests of one revision valid that differ in content. -/
def DiffIsComplete (base current : ContextManifest) : Prop :=
  ((diffContexts base current).isEmpty = true ↔ SameContent base current) ∧
    ∀ result, current.contextId = base.contextId →
      current.contextRevision = base.contextRevision → ¬ SameContent base current →
        (evaluateRevision base current result).status ≠ .valid

/-- The gate rejects a revision whose listed content has changed. -/
theorem status_of_mutated {base current : ContextManifest}
    (mutated : (diffContexts base current).isEmpty = false)
    (sameRevision : current.contextRevision = base.contextRevision)
    (result : ContextResultProvenance) :
    (evaluateRevision base current result).status = .conflict := by
  unfold evaluateRevision
  dsimp only
  rw [if_pos (⟨sameRevision, mutated⟩ : _ ∧ _)]
  split_ifs <;> rfl

/-- **The difference of two manifests is complete** unless they agree on all that is listed
and differ in what is not. -/
theorem diffIsComplete_iff (base current : ContextManifest) :
    DiffIsComplete base current ↔ (SameListed base current → SameUnlisted base current) := by
  constructor
  · rintro ⟨exact, -⟩ listed
    exact (sameContent_iff.1 (exact.1 (isEmpty_diffContexts.2 listed))).2
  · intro unlisted
    have complete : (diffContexts base current).isEmpty = true ↔ SameContent base current := by
      rw [isEmpty_diffContexts, sameContent_iff]
      exact ⟨fun listed => ⟨listed, unlisted listed⟩, fun same => same.1⟩
    refine ⟨complete, fun result _ sameRevision differs => ?_⟩
    have mutated : (diffContexts base current).isEmpty = false :=
      Bool.eq_false_iff.2 fun empty => differs (complete.1 empty)
    rw [status_of_mutated mutated sameRevision result]
    decide

/-- A manifest of the smallest content, and the same with one query that was run for it. -/
def emptyManifest : ContextManifest where
  contextId := "context:1"
  contextRevision := 1
  revision_pos := Nat.one_pos
  taskContractRef := "contract@1"
  roleRef := "DecisionRole@1"
  policyContextRef := "policy"
  capabilityEnvelopeRef := "capability"
  budgetRef := "budget"

def queriedManifest : ContextManifest :=
  { emptyManifest with retrievalInvocationRefs := ["retrieval:1"] }

def basedOn (manifest : ContextManifest) : ContextResultProvenance where
  basedOnContextId := manifest.contextId
  basedOnContextRevision := manifest.contextRevision
  revision_pos := manifest.revision_pos

/-- The gate finds a revision valid that has another query. -/
theorem diff_misses_retrieval :
    ¬ DiffIsComplete emptyManifest queriedManifest ∧
      (evaluateRevision emptyManifest queriedManifest (basedOn emptyManifest)).status =
        .valid := by
  have differs : ¬ SameContent emptyManifest queriedManifest := by
    intro same
    cases (same.retrievalInvocationRefs "retrieval:1").2 mem_cons_self
  refine ⟨fun complete => differs (complete.1.1 ?_), ?_⟩ <;> decide

/-! ## Merging -/

/-- Every reference of the first manifest is one of the second. -/
structure HoldsRefs (part whole : ContextManifest) : Prop where
  enrichmentStateRefs : part.enrichmentStateRefs ⊆ whole.enrichmentStateRefs
  evidenceRefs : part.evidenceRefs ⊆ whole.evidenceRefs
  objectRefs : part.objectRefs ⊆ whole.objectRefs
  relationRefs : part.relationRefs ⊆ whole.relationRefs
  retrievalInvocationRefs : part.retrievalInvocationRefs ⊆ whole.retrievalInvocationRefs
  skillSelectionRefs : part.skillSelectionRefs ⊆ whole.skillSelectionRefs
  experiencePatternRefs : part.experiencePatternRefs ⊆ whole.experiencePatternRefs

theorem HoldsRefs.refl (manifest : ContextManifest) : HoldsRefs manifest manifest :=
  ⟨fun _ => id, fun _ => id, fun _ => id, fun _ => id, fun _ => id, fun _ => id, fun _ => id⟩

theorem HoldsRefs.trans (low : HoldsRefs first second) (high : HoldsRefs second third) :
    HoldsRefs first third where
  enrichmentStateRefs := List.Subset.trans low.enrichmentStateRefs high.enrichmentStateRefs
  evidenceRefs := List.Subset.trans low.evidenceRefs high.evidenceRefs
  objectRefs := List.Subset.trans low.objectRefs high.objectRefs
  relationRefs := List.Subset.trans low.relationRefs high.relationRefs
  retrievalInvocationRefs :=
    List.Subset.trans low.retrievalInvocationRefs high.retrievalInvocationRefs
  skillSelectionRefs := List.Subset.trans low.skillSelectionRefs high.skillSelectionRefs
  experiencePatternRefs := List.Subset.trans low.experiencePatternRefs high.experiencePatternRefs

@[simp] theorem mem_unionRefs {left right : List String} {ref : String} :
    ref ∈ unionRefs left right ↔ ref ∈ left ∨ ref ∈ right := by
  simp [unionRefs]

theorem subset_unionRefs_left (left right : List String) : left ⊆ unionRefs left right :=
  fun _ member => mem_unionRefs.2 (.inl member)

theorem subset_unionRefs_right (left right : List String) : right ⊆ unionRefs left right :=
  fun _ member => mem_unionRefs.2 (.inr member)

/-- Sorting forgets the order in which the references came. -/
theorem unionRefs_comm (left right : List String) : unionRefs left right = unionRefs right left :=
  sortedSet_eq_of_mem_iff fun ref => by simp only [mem_append, or_comm]

theorem sameRefs_unionRefs_self (refs : List String) : SameRefs refs (unionRefs refs refs) := by
  intro ref
  rw [mem_unionRefs, or_self]

section Merging

variable {left right merged : ContextManifest} {contextId : String} {contextRevision : ℕ}

/-- A merge is accepted when the scalars agree and the revision is positive. -/
theorem mergeContexts_eq_ok :
    mergeContexts left right contextId contextRevision = .ok merged ↔
      (∀ field : ScalarField, field.of left = field.of right) ∧
        ∃ positive, mergedManifest left right contextId contextRevision positive = merged := by
  unfold mergeContexts
  rw [bind_eq_ok]
  simp only [forM_eq_ok, require_eq_ok]
  constructor
  · rintro ⟨-, scalars, ok⟩
    refine ⟨fun field => scalars field (mem_scalarFields field), ?_⟩
    split at ok
    next positive =>
      cases ok
      exact ⟨positive, rfl⟩
    next => cases ok
  · rintro ⟨scalars, positive, rfl⟩
    exact ⟨(), fun field _ => scalars field, dif_pos positive⟩

/-- A merge with oneself keeps what is listed, and the rest is copied. -/
theorem sameContent_of_merge_self
    (accepted : mergeContexts manifest manifest contextId contextRevision = .ok merged) :
    SameContent manifest merged := by
  obtain ⟨-, positive, rfl⟩ := mergeContexts_eq_ok.1 accepted
  refine sameContent_iff.2 ⟨⟨fun field => ?_, fun field => ?_⟩, .refl _, rfl, rfl⟩
  · rcases field with field | field <;> cases field <;> rfl
  · cases field <;> exact sameRefs_unionRefs_self _

/-- **A merge is a join**: it holds every reference of either side, it is the same with the
sides swapped, up to the parent, and a merge of a manifest with itself keeps its content. -/
structure MergesAsJoin (left right : ContextManifest) (contextId : String) (contextRevision : ℕ)
    (merged : ContextManifest) : Prop where
  holdsLeft : HoldsRefs left merged
  holdsRight : HoldsRefs right merged
  symmetric : ∃ swapped, mergeContexts right left contextId contextRevision = .ok swapped ∧
    { swapped with parentContextId := merged.parentContextId } = merged
  itself : ∀ manifest again, manifest = left ∨ manifest = right →
    mergeContexts manifest manifest contextId contextRevision = .ok again →
      SameContent manifest again

/-- **What is merged as a join** are two manifests with the same queries. -/
theorem mergesAsJoin_iff
    (accepted : mergeContexts left right contextId contextRevision = .ok merged) :
    MergesAsJoin left right contextId contextRevision merged ↔
      left.retrievalInvocationRefs = right.retrievalInvocationRefs ∧
        left.queryIntent = right.queryIntent ∧
        left.queryIntentModelRef = right.queryIntentModelRef := by
  obtain ⟨scalars, positive, rfl⟩ := mergeContexts_eq_ok.1 accepted
  constructor
  · rintro ⟨-, -, ⟨swapped, answered, same⟩, -⟩
    obtain ⟨_, _, rfl⟩ := mergeContexts_eq_ok.1 answered
    exact ⟨(congrArg ContextManifest.retrievalInvocationRefs same).symm,
      (congrArg ContextManifest.queryIntent same).symm,
      (congrArg ContextManifest.queryIntentModelRef same).symm⟩
  · rintro ⟨retrievals, intent, model⟩
    have swapped : mergeContexts right left contextId contextRevision =
        .ok (mergedManifest right left contextId contextRevision positive) :=
      mergeContexts_eq_ok.2 ⟨fun field => (scalars field).symm, positive, rfl⟩
    refine ⟨?_, ?_, ⟨_, swapped, ?_⟩, fun manifest again _ => sameContent_of_merge_self⟩
    · exact ⟨subset_unionRefs_left _ _, subset_unionRefs_left _ _, subset_unionRefs_left _ _,
        subset_unionRefs_left _ _, fun _ => id, subset_unionRefs_left _ _,
        subset_unionRefs_left _ _⟩
    · exact ⟨subset_unionRefs_right _ _, subset_unionRefs_right _ _, subset_unionRefs_right _ _,
        subset_unionRefs_right _ _, fun ref member => retrievals ▸ member,
        subset_unionRefs_right _ _, subset_unionRefs_right _ _⟩
    · have same := sameScalars_iff.1 scalars
      unfold mergedManifest
      simp only [unionRefs_comm right.enrichmentStateRefs,
        unionRefs_comm right.evidenceRefs, unionRefs_comm right.objectRefs,
        unionRefs_comm right.relationRefs, unionRefs_comm right.skillSelectionRefs,
        unionRefs_comm right.experiencePatternRefs, same.taskContractRef, same.roleRef,
        same.caseRef, same.knowledgeRevision, same.investigationStateRef, retrievals, intent,
        model, same.trajectoryCheckpointRef, same.policyContextRef, same.capabilityEnvelopeRef,
        same.budgetRef]

end Merging

/-- A merge that loses the query of the right side. -/
theorem merge_loses_retrieval :
    ¬ ∀ merged, mergeContexts emptyManifest queriedManifest "context:2" 1 = .ok merged →
      MergesAsJoin emptyManifest queriedManifest "context:2" 1 merged := by
  intro join
  have accepted : mergeContexts emptyManifest queriedManifest "context:2" 1 =
      .ok (mergedManifest emptyManifest queriedManifest "context:2" 1 Nat.one_pos) := rfl
  cases (join _ accepted).holdsRight.retrievalInvocationRefs mem_cons_self

theorem mergesAsJoin_iff_plain :
    MergesAsJoin queriedManifest queriedManifest "context:2" 1
      (mergedManifest queriedManifest queriedManifest "context:2" 1 Nat.one_pos) :=
  (mergesAsJoin_iff rfl).2 ⟨rfl, rfl, rfl⟩

/-! ## Chains of refreshes -/

/-- A call that advances a manifest. -/
inductive ContextCall where
  | refresh (request : ContextRefresh)
  | pin (contextRevision knowledgeRevision : ℕ) (investigationStateRef : Option String)

def ContextCall.apply (manifest : ContextManifest) : ContextCall → Except Raised ContextManifest
  | .refresh request => refreshContext manifest request
  | .pin contextRevision knowledgeRevision investigationStateRef =>
      pinContext manifest contextRevision knowledgeRevision investigationStateRef

/-- The manifest at the end of a chain of calls, if they all succeed. -/
def applyCalls (first : ContextManifest) (calls : List ContextCall) :
    Except Raised ContextManifest :=
  calls.foldlM ContextCall.apply first

/-- **The manifest has only grown**: neither its identity nor its authority has changed, the
knowledge has not moved back, and no reference is gone. -/
structure AdvancesTo (first last : ContextManifest) : Prop where
  moves : first = last ∨ first.contextRevision < last.contextRevision
  contextId : first.contextId = last.contextId
  authority : ∀ field : AuthorityField, field.of first = field.of last
  checkpoint : first.trajectoryCheckpointRef = last.trajectoryCheckpointRef
  knowledge : ∀ old ∈ first.knowledgeRevision, ∃ new ∈ last.knowledgeRevision, old ≤ new
  holds : HoldsRefs first last

theorem AdvancesTo.refl (manifest : ContextManifest) : AdvancesTo manifest manifest :=
  ⟨.inl rfl, rfl, fun _ => rfl, rfl, fun old found => ⟨old, found, le_rfl⟩, .refl _⟩

theorem AdvancesTo.trans (early : AdvancesTo first second) (late : AdvancesTo second third) :
    AdvancesTo first third where
  moves := by
    rcases early.moves with rfl | earlier
    · exact late.moves
    · rcases late.moves with rfl | later
      · exact .inr earlier
      · exact .inr (earlier.trans later)
  contextId := early.contextId.trans late.contextId
  authority field := (early.authority field).trans (late.authority field)
  checkpoint := early.checkpoint.trans late.checkpoint
  knowledge old found := by
    obtain ⟨middle, middleFound, below⟩ := early.knowledge old found
    obtain ⟨new, newFound, above⟩ := late.knowledge middle middleFound
    exact ⟨new, newFound, below.trans above⟩
  holds := early.holds.trans late.holds

theorem advances_of_refresh {refreshed : ContextManifest} {refresh : ContextRefresh}
    (ok : refreshContext manifest refresh = .ok refreshed) :
    AdvancesTo manifest refreshed := by
  unfold refreshContext at ok
  obtain ⟨advanced, ok⟩ := require_bind_eq_ok.1 ok
  obtain ⟨forward, ok⟩ := require_bind_eq_ok.1 ok
  cases ok
  refine ⟨.inr advanced, rfl, fun field => ?_, rfl, fun old found => ?_, ?_⟩
  · cases field <;> rfl
  · show ∃ new ∈ refresh.knowledgeRevision.or manifest.knowledgeRevision, old ≤ new
    cases given : refresh.knowledgeRevision with
    | none => exact ⟨old, found, le_rfl⟩
    | some new =>
        refine ⟨new, rfl, not_lt.1 fun back => forward ⟨old, found, new, ?_, back⟩⟩
        rw [given]
        rfl
  · exact ⟨subset_unionRefs_left _ _, subset_unionRefs_left _ _, subset_unionRefs_left _ _,
      subset_unionRefs_left _ _, fun _ => id, subset_unionRefs_left _ _,
      subset_unionRefs_left _ _⟩

/-- **A call** only grows the manifest. -/
theorem advances_of_call {next : ContextManifest} {call : ContextCall}
    (ok : call.apply manifest = .ok next) : AdvancesTo manifest next := by
  cases call with
  | refresh request => exact advances_of_refresh ok
  | pin contextRevision knowledgeRevision investigationStateRef =>
      dsimp only [ContextCall.apply, pinContext] at ok
      split at ok
      next => exact advances_of_refresh ok
      next => cases ok

/-- **A chain of calls** only grows the manifest. -/
theorem advances_of_calls {last : ContextManifest} {calls : List ContextCall}
    (ok : applyCalls first calls = .ok last) : AdvancesTo first last :=
  foldlM_invariant (AdvancesTo first)
    (fun _ _ _ _ early called => early.trans (advances_of_call called)) (.refl first) ok

section Gate

variable {last : ContextManifest}

/-- Nothing is removed from a manifest that only grows. -/
theorem removedRefs_of_advances (advances : AdvancesTo first last) :
    (diffContexts first last).removedRefs = [] := by
  refine filterMap_eq_nil_iff.2 fun field _ => gainedRefs?_eq_none.2 ?_
  have holds := advances.holds
  cases field with
  | enrichmentStateRefs => exact holds.enrichmentStateRefs
  | evidenceRefs => exact holds.evidenceRefs
  | objectRefs => exact holds.objectRefs
  | relationRefs => exact holds.relationRefs
  | skillSelectionRefs => exact holds.skillSelectionRefs
  | experiencePatternRefs => exact holds.experiencePatternRefs

theorem authorityChanged_of_advances (advances : AdvancesTo first last) :
    authorityChanged (diffContexts first last) = [] := by
  have none : (authorityFields.filter fun field =>
      (diffContexts first last).Changes (.authority field)) = [] := by
    refine filter_eq_nil_iff.2 fun field _ => ?_
    rw [decide_eq_true_eq, changes_diffContexts, not_not]
    exact advances.authority field
  unfold authorityChanged
  rw [none]
  rfl

theorem removedReasons_of_advances (advances : AdvancesTo first last)
    (dependencies : ContextDependencySet) :
    removedReasons (diffContexts first last) dependencies = [] := by
  refine filterMap_eq_nil_iff.2 fun field _ => ?_
  have nothing : (diffContexts first last).removedOf field = [] := by
    unfold ContextDelta.removedOf
    rw [removedRefs_of_advances advances]
    rfl
  unfold removedReason?
  simp [nothing, sortedSet]

/-- A scalar that the result declares to depend on has changed. -/
def DependedScalarChanged (first last : ContextManifest) (dependencies : ContextDependencySet) :
    Prop :=
  (dependencies.knowledgeRevision = true ∧ first.knowledgeRevision ≠ last.knowledgeRevision) ∨
    (dependencies.investigationStateRef = true ∧
      first.investigationStateRef ≠ last.investigationStateRef)

theorem not_removed_of_staleScalars {delta : ContextDelta} {dependencies : ContextDependencySet}
    {reason : String} (member : reason ∈ staleScalars delta dependencies) :
    afterHead? "dependency_removed:" reason = none := by
  obtain ⟨field, -, rfl⟩ := mem_map.1 member
  cases field <;> decide

theorem staleScalars_eq_nil (advances : AdvancesTo first last)
    (dependencies : ContextDependencySet) :
    staleScalars (diffContexts first last) dependencies = [] ↔
      ¬ DependedScalarChanged first last dependencies := by
  have kept : StateField.of first .trajectoryCheckpointRef =
      StateField.of last .trajectoryCheckpointRef :=
    ScalarValue.ofText?_inj.2 advances.checkpoint
  have knowledge : StateField.of first .knowledgeRevision = StateField.of last .knowledgeRevision ↔
      first.knowledgeRevision = last.knowledgeRevision := ScalarValue.ofNumber?_inj
  have state : StateField.of first .investigationStateRef =
      StateField.of last .investigationStateRef ↔
        first.investigationStateRef = last.investigationStateRef := ScalarValue.ofText?_inj
  have changed : ∀ field : StateField, (diffContexts first last).Changes (.state field) ↔
      field.of first ≠ field.of last := fun field => changes_diffContexts
  unfold staleScalars DependedScalarChanged
  simp only [map_eq_nil_iff, filter_eq_nil_iff, Bool.and_eq_true, decide_eq_true_eq,
    changed, stateFields, forall_mem_cons, StateField.dependedOn, kept]
  tauto

/-- **What the gate says of a manifest that has only grown**, for a result that is based on
the first one. -/
theorem evaluate_of_advances (advances : AdvancesTo first last) {result : ContextResultProvenance}
    (context : result.basedOnContextId = first.contextId)
    (revision : result.basedOnContextRevision = first.contextRevision) :
    (evaluateRevision first last result).status ≠ .conflict ∧
      (∀ reason ∈ (evaluateRevision first last result).reasons,
        afterHead? "dependency_removed:" reason = none) ∧
      ((evaluateRevision first last result).status = .stale ↔
        DependedScalarChanged first last result.dependencies) := by
  have forward : ¬ last.contextRevision < first.contextRevision := by
    rcases advances.moves with rfl | moved
    · exact lt_irrefl _
    · exact moved.asymm
  unfold evaluateRevision
  dsimp only
  rw [if_neg (not_not.2 context), if_neg (not_not.2 revision),
    if_neg (not_not.2 advances.contextId.symm), if_neg forward]
  rcases advances.moves with rfl | moved
  · have empty : (diffContexts first first).isEmpty = true :=
      isEmpty_diffContexts.2 ⟨fun _ => rfl, fun _ => .refl _⟩
    rw [if_neg (by simp [empty]), if_pos rfl]
    refine ⟨by simp, by simp, ?_⟩
    simp [DependedScalarChanged]
  · rw [if_neg fun same => moved.ne' same.1, if_neg moved.ne']
    unfold judgeAdvance
    dsimp only
    rw [authorityChanged_of_advances advances, removedReasons_of_advances advances,
      append_nil, if_neg (not_not.2 rfl)]
    have stale := staleScalars_eq_nil advances result.dependencies
    split
    next changed =>
      refine ⟨by simp, fun reason => not_removed_of_staleScalars, ?_⟩
      simpa using (not_congr stale).1 changed
    next unchanged =>
      have fresh := stale.1 (not_not.1 unchanged)
      split
      · exact ⟨by simp, List.forall_mem_singleton.2 (by decide), by simp [fresh]⟩
      · exact ⟨by simp, List.forall_mem_singleton.2 (by decide), by simp [fresh]⟩

end Gate

end SecFusion.TaskRuntime
