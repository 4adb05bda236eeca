import SecFusion.Knowledge.Frame

/-!
# Convergence of the projections

When every committed change has been handled, the stored projections should be
those of the committed store.  Two things stand against it.  A revision may
commit after a higher one has been read for the same object, and the guard of the
upsert then drops what its handler computes.  And a transaction may change what is
shown of an object that it does not list, and no handler rebuilds that object.

`Timely` excludes both for one step, and `projections_converge` is about the runs
whose steps are all timely.
-/

namespace SecFusion.Knowledge

open Foundations

/-! ## What is current -/

/-- Every change that lists the object has at most the revision. -/
def UpToDate (base : KnowledgeBase) (objectId : String) (revision : ℕ) : Prop :=
  ∀ event ∈ base.outbox.rows, objectId ∈ event.objectIds → event.revision ≤ revision

/-- A handler has read or stored the object for a revision as high as the given
one. -/
def Overtaken (pipeline : Pipeline) (objectId : String) (revision : ℕ) : Prop :=
  (∃ reading ∈ pipeline.readings, reading.objectId = objectId ∧ revision ≤ reading.revision) ∨
    ∃ row ∈ pipeline.projections.rows, row.subjectId = objectId ∧ revision ≤ row.upstreamRevision

/-- **A timely step**: a commit whose objects have not been read for a higher
revision, and that names every object whose views it changes. -/
def Timely (pipeline : Pipeline) (op : PipelineOp) : Prop :=
  match op with
  | .commit op => IsFresh pipeline.base op.write →
      (∀ objectId, Names pipeline.base op.write objectId →
        ¬ Overtaken pipeline objectId op.revision) ∧ Covers pipeline.base op.write
  | .begin | .read _ _ | .store _ _ => True

/-- **The invariant of timely runs.** -/
structure Consistent (texts : IdTexts) (pipeline : Pipeline) : Prop where
  formed : Formed pipeline.base
  /-- Every object has been listed. -/
  listed : ∀ objectId row, pipeline.base.objects.get? objectId = some row →
    ∃ event ∈ pipeline.base.outbox.rows, objectId ∈ event.objectIds
  stored : ∀ event ∈ pipeline.base.outbox.rows, ∀ objectId ∈ event.objectIds,
    ∃ row, pipeline.base.objects.get? objectId = some row
  /-- What has been read is current, unless a later change lists the object. -/
  readings : ∀ reading ∈ pipeline.readings,
    (reading.views.map (·.projectionType) =
      (objectViews texts pipeline.base reading.objectId).map (·.projectionType)) ∧
    (∃ event, pipeline.base.outbox.get? reading.processingRunId = some event ∧
      reading.objectId ∈ event.objectIds ∧ reading.revision = event.revision) ∧
    (UpToDate pipeline.base reading.objectId reading.revision →
      objectViews texts pipeline.base reading.objectId = reading.views)
  typed : ∀ row ∈ pipeline.projections.rows, row.projectionType ∈
    (objectViews texts pipeline.base row.subjectId).map (·.projectionType)
  /-- What has been stored is current, unless a later change lists the object. -/
  projections : ∀ row ∈ pipeline.projections.rows,
    UpToDate pipeline.base row.subjectId row.upstreamRevision →
      computedView texts pipeline.base row.projectionType row.subjectId =
        some (row.projectionKey, row.data)
  /-- A handled change has left rows that are as new. -/
  handled : ∀ entry ∈ pipeline.handled, ∃ event,
    pipeline.base.outbox.get? entry.1 = some event ∧ entry.2 ∈ event.objectIds ∧
      ∀ projectionType ∈ (objectViews texts pipeline.base entry.2).map (·.projectionType), ∃ row,
        pipeline.projections.get? (projectionType, entry.2) = some row ∧
          event.revision ≤ row.upstreamRevision

variable {base : KnowledgeBase} {write : KnowledgeWrite} {revision : ℕ} {objectId : String}
  {texts : IdTexts} {pipeline : Pipeline}

/-- A successful `apply` has changed nothing, or is fresh. -/
theorem apply_cases {next : KnowledgeBase} {now : ℤ} {result : NormalizationResult}
    (ok : apply base write revision now = .ok (result, next)) :
    next = base ∨ (IsFresh base write ∧
      ∃ runId, applyFresh base write runId revision now = .ok (result, next)) := by
  unfold apply at ok
  obtain ⟨seed, seeded, ok⟩ := fetch_bind_eq_ok.1 ok
  dsimp only at ok
  split at ok
  next =>
    obtain ⟨change, -, ok⟩ := fetch_bind_eq_ok.1 ok
    cases ok
    exact .inl rfl
  next fresh =>
    refine .inr ⟨fun other isSeed => ?_, _, ok⟩
    obtain rfl := mem_unique seeded isSeed
    exact fresh

/-! ## Commits -/

section Commit

variable {next : KnowledgeBase} {rootObjectId : String} {event : OutboxEventModel}

/-- What is up to date after the commit was so before, and is not listed by it. -/
theorem UpToDate.before (inserted : base.outbox.insert? event = some next.outbox)
    (upToDate : UpToDate next objectId revision) :
    UpToDate base objectId revision ∧
      (objectId ∈ event.objectIds → event.revision ≤ revision) := by
  have rows := (insert?_eq_some inserted).1
  constructor
  · intro other member
    exact upToDate other (by rw [rows]; exact mem_append_left _ member)
  · exact upToDate event (by rw [rows]; exact mem_append_right _ mem_cons_self)

theorem get?_outbox_of_insert {id : ProcessingRunId} {old : OutboxEventModel}
    (inserted : base.outbox.insert? event = some next.outbox)
    (found : base.outbox.get? id = some old) : next.outbox.get? id = some old := by
  rw [get?_insert? inserted, if_neg]
  · exact found
  · rintro rfl
    rw [(insert?_eq_some inserted).2] at found
    cases found

/-- The types of the views of a stored object stay. -/
theorem Framed.viewTypes_eq (framed : Framed base write rootObjectId next) (texts : IdTexts)
    (stored : ∃ row, base.objects.get? objectId = some row) :
    (objectViews texts next objectId).map (·.projectionType) =
      (objectViews texts base objectId).map (·.projectionType) := by
  obtain ⟨row, found⟩ := stored
  obtain ⟨later, laterFound, sameType⟩ := framed.objects.get?_type found
  rw [map_projectionType_objectViews texts found, map_projectionType_objectViews texts laterFound,
    sameType]

/-- **A timely commit keeps the projections consistent.** -/
theorem Consistent.commit (consistent : Consistent texts pipeline)
    (framed : Framed pipeline.base write rootObjectId next)
    (inserted : pipeline.base.outbox.insert? event = some next.outbox)
    (eventStored : ∀ objectId ∈ event.objectIds, ∃ row, next.objects.get? objectId = some row)
    (names : ∀ objectId, objectId ∈ event.objectIds ↔ Names pipeline.base write objectId)
    (ahead : ∀ objectId, Names pipeline.base write objectId →
      ¬ Overtaken pipeline objectId event.revision)
    (covers : Covers pipeline.base write) (pending : List ℕ) :
    Consistent texts { pipeline with base := next, pending } := by
  have rows := (insert?_eq_some inserted).1
  have eventsStored : ∀ id old, pipeline.base.outbox.get? id = some old →
      ∀ objectId ∈ old.objectIds, ∃ row, pipeline.base.objects.get? objectId = some row :=
    fun id old found => consistent.stored old (mem_of_get? found)
  constructor
  case formed => exact framed.formed
  case listed =>
    intro objectId row found
    show ∃ event ∈ next.outbox.rows, _
    rw [rows]
    rcases framed.objects.get?_before found with ⟨old, before⟩ | named
    · obtain ⟨earlier, member, lists⟩ := consistent.listed objectId old before
      exact ⟨earlier, mem_append_left _ member, lists⟩
    · exact ⟨event, mem_append_right _ mem_cons_self, (names objectId).2 named⟩
  case stored =>
    intro other member objectId lists
    have split : other ∈ pipeline.base.outbox.rows ++ [event] := rows ▸ member
    rcases mem_append.1 split with old | new
    · obtain ⟨row, found⟩ := consistent.stored other old objectId lists
      obtain ⟨later, laterFound, -⟩ := framed.objects.get?_type found
      exact ⟨later, laterFound⟩
    · rw [mem_singleton.1 new] at lists
      exact eventStored objectId lists
  case readings =>
    intro reading member
    obtain ⟨types, ⟨source, found, lists, isRevision⟩, current⟩ := consistent.readings reading member
    refine ⟨?_, ⟨source, get?_outbox_of_insert inserted found, lists, isRevision⟩, ?_⟩
    · rw [types]
      exact (framed.viewTypes_eq texts (eventsStored _ source found _ lists)).symm
    · intro upToDate
      obtain ⟨before, notListed⟩ := UpToDate.before inserted upToDate
      have unnamed : ¬ Names pipeline.base write reading.objectId := by
        intro named
        refine ahead _ named (.inl ⟨reading, member, rfl, ?_⟩)
        exact notListed ((names _).2 named)
      show objectViews texts next reading.objectId = reading.views
      rw [framed.objectViews_eq consistent.formed covers texts unnamed]
      exact current before
  case typed =>
    intro row member
    have typed := consistent.typed row member
    obtain ⟨view, viewed, -⟩ := mem_map.1 typed
    have types := framed.viewTypes_eq texts (stored_of_mem_objectViews viewed)
    show row.projectionType ∈ (objectViews texts next row.subjectId).map (·.projectionType)
    rw [types]
    exact typed
  case projections =>
    intro row member upToDate
    obtain ⟨before, notListed⟩ := UpToDate.before inserted upToDate
    have unnamed : ¬ Names pipeline.base write row.subjectId := by
      intro named
      refine ahead _ named (.inr ⟨row, member, rfl, ?_⟩)
      exact notListed ((names _).2 named)
    show computedView texts next row.projectionType row.subjectId = _
    rw [computedView, framed.objectViews_eq consistent.formed covers texts unnamed]
    exact consistent.projections row member before
  case handled =>
    intro entry member
    obtain ⟨source, found, lists, asNew⟩ := consistent.handled entry member
    refine ⟨source, get?_outbox_of_insert inserted found, lists, ?_⟩
    have types := framed.viewTypes_eq texts (eventsStored _ source found _ lists)
    show ∀ projectionType ∈ (objectViews texts next entry.2).map (·.projectionType), _
    rw [types]
    exact asNew

end Commit

/-! ## Handlers -/

/-- The row that an upsert writes. -/
def projectionRow (subjectId : String) (revision : ℕ) (now : ℤ) (view : ObjectView) :
    CurrentProjectionModel where
  projectionType := view.projectionType
  subjectId := subjectId
  projectionKey := view.projectionKey
  data := view.data
  upstreamRevision := revision
  updatedAt := now

/-- One upsert writes its row or finds one that is as new. -/
theorem get?_upsertView (subjectId : String) (revision : ℕ) (now : ℤ) (projections : Projections)
    (view : ObjectView) (key : ProjectionType × String) :
    (upsertView subjectId revision now projections view).get? key = projections.get? key ∧
        (key = (view.projectionType, subjectId) →
          ∃ row, projections.get? key = some row ∧ revision ≤ row.upstreamRevision) ∨
      (key = (view.projectionType, subjectId) ∧
        (upsertView subjectId revision now projections view).get? key =
          some (projectionRow subjectId revision now view) ∧
        ∀ row, projections.get? key = some row → row.upstreamRevision < revision) := by
  by_cases same : key = (view.projectionType, subjectId)
  · subst same
    unfold upsertView
    dsimp only
    split
    next existing found =>
      rw [found]
      split
      next asNew => exact .inl ⟨found, fun _ => ⟨existing, rfl, asNew⟩⟩
      next older =>
        refine .inr ⟨rfl, ?_, ?_⟩
        · rw [get?_put, if_pos rfl]
          rfl
        · intro row isRow
          obtain rfl := Option.some.inj isRow
          exact not_le.1 older
    next absent =>
      refine .inr ⟨rfl, ?_, ?_⟩
      · rw [get?_put, if_pos rfl]
        rfl
      · intro row isRow
        rw [absent] at isRow
        cases isRow
  · refine .inl ⟨?_, fun equal => absurd equal same⟩
    have different : ¬ (view.projectionType, subjectId) = key := fun equal => same equal.symm
    unfold upsertView
    dsimp only
    split
    next =>
      split
      next => rfl
      next => rw [get?_put, if_neg different]
    next => rw [get?_put, if_neg different]

/-- The upserts of one object: rows only get newer, each of its views has a row
that is as new, and a new row is one of its views. -/
theorem foldl_upsertView (subjectId : String) (revision : ℕ) (now : ℤ) (views : List ObjectView)
    (projections : Projections) :
    (∀ key row, projections.get? key = some row → ∃ later,
        (views.foldl (upsertView subjectId revision now) projections).get? key = some later ∧
          row.upstreamRevision ≤ later.upstreamRevision) ∧
      (∀ view ∈ views, ∃ row, (views.foldl (upsertView subjectId revision now) projections).get?
          (view.projectionType, subjectId) = some row ∧ revision ≤ row.upstreamRevision) ∧
      ∀ key row, (views.foldl (upsertView subjectId revision now) projections).get? key = some row →
        projections.get? key = some row ∨
          ∃ view ∈ views, row = projectionRow subjectId revision now view := by
  induction views generalizing projections with
  | nil =>
      refine ⟨fun key row found => ⟨row, found, le_refl _⟩, ?_, fun key row found => .inl found⟩
      exact fun view member => nomatch member
  | cons view rest ih =>
      obtain ⟨newer, asNew, origin⟩ := ih (upsertView subjectId revision now projections view)
      have first := get?_upsertView subjectId revision now projections view
      refine ⟨?_, ?_, ?_⟩
      · intro key row found
        rcases first key with ⟨same, -⟩ | ⟨-, written, older⟩
        · exact newer key row (same.trans found)
        · obtain ⟨later, laterFound, above⟩ := newer key _ written
          exact ⟨later, laterFound, (older row found).le.trans above⟩
      · intro other member
        rcases mem_cons.1 member with rfl | tail
        · rcases first (other.projectionType, subjectId) with ⟨same, present⟩ | ⟨-, written, -⟩
          · obtain ⟨row, found, above⟩ := present rfl
            obtain ⟨later, laterFound, more⟩ := newer _ row (same.trans found)
            exact ⟨later, laterFound, above.trans more⟩
          · obtain ⟨later, laterFound, more⟩ := newer _ _ written
            exact ⟨later, laterFound, more⟩
        · exact asNew other tail
      · intro key row found
        rcases origin key row found with before | ⟨other, member, isRow⟩
        · rcases first key with ⟨same, -⟩ | ⟨-, written, -⟩
          · exact .inl (same.symm.trans before)
          · obtain rfl := mem_unique written before
            exact .inr ⟨view, mem_cons_self, rfl⟩
        · exact .inr ⟨other, mem_cons_of_mem _ member, isRow⟩

theorem Consistent.read {processingRunId : ProcessingRunId} {event : OutboxEventModel}
    (consistent : Consistent texts pipeline)
    (found : pipeline.base.outbox.get? processingRunId = some event)
    (lists : objectId ∈ event.objectIds) :
    Consistent texts { pipeline with
      readings := pipeline.readings ++ [⟨processingRunId, event.revision, objectId,
        objectViews texts pipeline.base objectId⟩] } := by
  refine ⟨consistent.formed, consistent.listed, consistent.stored, ?_, consistent.typed,
    consistent.projections, consistent.handled⟩
  intro reading member
  rcases mem_append.1 member with old | new
  · exact consistent.readings reading old
  · rw [mem_singleton.1 new]
    exact ⟨rfl, ⟨event, found, lists, rfl⟩, fun _ => rfl⟩

theorem Consistent.store {reading : Reading} {position : ℕ} (consistent : Consistent texts pipeline)
    (located : pipeline.readings[position]? = some reading) (now : ℤ) :
    Consistent texts { pipeline with
      readings := pipeline.readings.eraseIdx position
      projections := reading.views.foldl
        (upsertView reading.objectId reading.revision now) pipeline.projections
      handled := pipeline.handled ++ [(reading.processingRunId, reading.objectId)] } := by
  have member : reading ∈ pipeline.readings := mem_of_getElem? located
  obtain ⟨types, ⟨event, found, lists, isRevision⟩, current⟩ := consistent.readings reading member
  obtain ⟨newer, asNew, origin⟩ := foldl_upsertView reading.objectId reading.revision now
    reading.views pipeline.projections
  refine ⟨consistent.formed, consistent.listed, consistent.stored, ?_, ?_, ?_, ?_⟩
  · intro other kept
    exact consistent.readings other (mem_of_mem_eraseIdx kept)
  · intro row stored
    rcases origin _ row (get?_of_mem stored) with before | ⟨view, viewed, rfl⟩
    · exact consistent.typed row (mem_of_get? before)
    · show view.projectionType ∈ (objectViews texts pipeline.base reading.objectId).map _
      rw [← types]
      exact mem_map_of_mem viewed
  · intro row stored upToDate
    rcases origin _ row (get?_of_mem stored) with before | ⟨view, viewed, rfl⟩
    · exact consistent.projections row (mem_of_get? before) upToDate
    · have views : objectViews texts pipeline.base reading.objectId = reading.views :=
        current upToDate
      rw [← views] at viewed
      exact computedView_of_mem viewed
  · intro entry listed
    rcases mem_append.1 listed with old | new
    · obtain ⟨source, sourceFound, sourceLists, rows⟩ := consistent.handled entry old
      refine ⟨source, sourceFound, sourceLists, fun projectionType typed => ?_⟩
      obtain ⟨row, rowFound, above⟩ := rows projectionType typed
      obtain ⟨later, laterFound, more⟩ := newer _ row rowFound
      exact ⟨later, laterFound, above.trans more⟩
    · obtain rfl := mem_singleton.1 new
      refine ⟨event, found, lists, fun projectionType typed => ?_⟩
      have viewed : projectionType ∈ reading.views.map (·.projectionType) := by
        rw [types]
        exact typed
      obtain ⟨view, listedView, rfl⟩ := mem_map.1 viewed
      rw [← isRevision]
      exact asNew view listedView

/-! ## Runs -/

theorem Consistent.step {next : Pipeline} {op : PipelineOp} {answer : Unit}
    (consistent : Consistent texts pipeline) (timely : Timely pipeline op)
    (ok : pipelineStep texts op pipeline = .ok (answer, next)) : Consistent texts next := by
  cases op with
  | begin =>
      cases ok
      exact ⟨consistent.formed, consistent.listed, consistent.stored, consistent.readings,
        consistent.typed, consistent.projections, consistent.handled⟩
  | commit op =>
      obtain ⟨-, ok⟩ := require_bind_eq_ok.1 ok
      obtain ⟨⟨result, base⟩, applied, ok⟩ := bind_eq_ok.1 ok
      cases ok
      rcases apply_cases applied with same | ⟨fresh, runId, freshly⟩
      · subst same
        exact ⟨consistent.formed, consistent.listed, consistent.stored, consistent.readings,
          consistent.typed, consistent.projections, consistent.handled⟩
      · obtain ⟨ahead, covers⟩ := timely fresh
        obtain ⟨rootObjectId, event, framed, inserted, isRevision, stored, names⟩ :=
          framed_applyFresh consistent.formed freshly
        rw [← isRevision] at ahead
        exact consistent.commit framed inserted stored names ahead covers _
  | read processingRunId objectId =>
      obtain ⟨event, found, ok⟩ := fetch_bind_eq_ok.1 ok
      obtain ⟨lists, ok⟩ := require_bind_eq_ok.1 ok
      cases ok
      exact consistent.read found lists
  | store position now =>
      obtain ⟨reading, located, ok⟩ := fetch_bind_eq_ok.1 ok
      cases ok
      exact consistent.store located now

theorem consistent_empty (texts : IdTexts) : Consistent texts Pipeline.empty := by
  constructor
  case formed =>
    refine ⟨fun id row found => ?_, fun row member => ?_, fun row member => ?_⟩
    · simp [Pipeline.empty, KnowledgeBase.empty] at found
    · cases member
    · cases member
  case listed =>
    intro objectId row found
    simp [Pipeline.empty, KnowledgeBase.empty] at found
  case stored => exact forall_mem_nil _
  case readings => exact forall_mem_nil _
  case typed => exact forall_mem_nil _
  case projections => exact forall_mem_nil _
  case handled => exact forall_mem_nil _

/-- **Convergence of timely runs.**  In every state of a run whose commits all
name the objects whose views they change, and come before these objects are read
for a higher revision: once every committed change has been handled, the stored
projections are those of the committed store. -/
theorem projections_converge (texts : IdTexts) (ops : List PipelineOp)
    (timely : Along (pipelineStep texts) Timely Pipeline.empty ops)
    (handled : AllHandled (pipelineAfter texts ops)) :
    Converged texts (pipelineAfter texts ops) := by
  have consistent : Consistent texts (pipelineAfter texts ops) :=
    run_invariant_along (fun pipeline op answer next consistent timely answered =>
      consistent.step timely answered) (consistent_empty texts) ops timely
  intro projectionType objectId
  unfold storedView
  cases found : (pipelineAfter texts ops).projections.get? (projectionType, objectId) with
  | some row =>
      obtain ⟨member, key⟩ := Table.get?_eq_some.1 found
      obtain ⟨rfl, rfl⟩ := Prod.mk.inj key
      refine (consistent.projections row member fun event listed lists => ?_).symm
      obtain ⟨source, sourceFound, -, asNew⟩ := consistent.handled _ (handled event listed _ lists)
      obtain rfl := Option.some.inj ((Table.get?_of_mem listed).symm.trans sourceFound)
      obtain ⟨later, laterFound, above⟩ := asNew _ (consistent.typed row member)
      obtain rfl := mem_unique found laterFound
      exact above
  | none =>
      cases computed : computedView texts (pipelineAfter texts ops).base projectionType objectId with
      | none => rfl
      | some view =>
          -- the object has been listed and handled, so a row of the type is there
          obtain ⟨object, located, -⟩ := map_eq_some_iff.1 computed
          have viewed := mem_of_find?_eq_some located
          obtain ⟨row, stored⟩ := stored_of_mem_objectViews viewed
          obtain ⟨event, listed, lists⟩ := consistent.listed objectId row stored
          obtain ⟨source, -, -, asNew⟩ := consistent.handled _ (handled event listed _ lists)
          have isType : object.projectionType = projectionType := by
            simpa using find?_some located
          obtain ⟨later, laterFound, -⟩ := asNew projectionType
            (isType ▸ mem_map_of_mem viewed)
          rw [found] at laterFound
          cases laterFound

/-! ## Two runs -/

/-- The objects that a call names, listed. -/
def namedIds (base : KnowledgeBase) (write : KnowledgeWrite) : List String :=
  (rootIdFor base write).toOption.toList ++ write.candidate.relations.filterMap fun relation =>
    (objectIdFor base relation.target.objectType relation.target.canonicalKey).toOption

theorem mem_namedIds :
    objectId ∈ namedIds base write ↔ Names base write objectId := by
  simp [namedIds, Names]

instance namesDecidable (base : KnowledgeBase) (write : KnowledgeWrite) (objectId : String) :
    Decidable (Names base write objectId) :=
  decidable_of_iff _ mem_namedIds

instance mergesDecidable (base : KnowledgeBase) (write : KnowledgeWrite) (objectId : String) :
    Decidable (Merges base write objectId) :=
  inferInstanceAs (Decidable (∃ candidate ∈ candidateObjects write,
    ∃ row ∈ base.objectOf? candidate.objectType candidate.canonicalKey, _ ∧ _))

instance dropsDecidable (base : KnowledgeBase) (write : KnowledgeWrite) (objectId : String) :
    Decidable (Drops base write objectId) :=
  inferInstanceAs (Decidable (_ ∧ ∃ rootObjectId ∈ (rootIdFor base write).toOption,
    ∃ row ∈ base.relations.rows, _ ∧ _))

instance isTypeDecidable (base : KnowledgeBase) (objectId objectType : String) :
    Decidable (IsType base objectId objectType) :=
  inferInstanceAs (Decidable (_ = _))

instance coversDecidable (base : KnowledgeBase) (write : KnowledgeWrite) :
    Decidable (Covers base write) :=
  decidable_of_iff
    ((∀ row ∈ base.relations.rows, row.isAccepted = true →
        IsType base row.sourceObjectId "Vulnerability" → Merges base write row.targetObjectId →
          Names base write row.sourceObjectId) ∧
      (∀ row ∈ base.relations.rows, row.isAccepted = true →
        row.relationType = "belongs-to-repo" → IsType base row.targetObjectId "Repo" →
          Merges base write row.sourceObjectId → Names base write row.targetObjectId) ∧
      ∀ row ∈ base.relations.rows, IsType base row.targetObjectId "Repo" →
        Drops base write row.targetObjectId → Names base write row.targetObjectId)
    ⟨fun both => ⟨both.1, both.2.1, both.2.2⟩,
      fun covers => ⟨covers.vulnerabilities, covers.repositories, covers.dropped⟩⟩

instance overtakenDecidable (pipeline : Pipeline) (objectId : String) (revision : ℕ) :
    Decidable (Overtaken pipeline objectId revision) :=
  inferInstanceAs (Decidable ((∃ reading ∈ pipeline.readings, _ ∧ _) ∨
    ∃ row ∈ pipeline.projections.rows, _ ∧ _))

instance timelyDecidable (pipeline : Pipeline) (op : PipelineOp) : Decidable (Timely pipeline op) :=
  match op with
  | .commit op => decidable_of_iff (IsFresh pipeline.base op.write →
      (∀ objectId ∈ namedIds pipeline.base op.write, ¬ Overtaken pipeline objectId op.revision) ∧
        Covers pipeline.base op.write) (by simp only [Timely, mem_namedIds])
  | .begin | .read _ _ | .store _ _ => .isTrue trivial

instance allHandledDecidable (pipeline : Pipeline) : Decidable (AllHandled pipeline) :=
  inferInstanceAs (Decidable (∀ event ∈ pipeline.base.outbox.rows, ∀ objectId ∈ event.objectIds, _))

/-- Texts of identifiers, of the parts that tell them apart below. -/
def partTexts : IdTexts where
  claim id := id.observationId ++ ":" ++ id.predicate
  relation id := id.observationId ++ ":" ++ id.targetObjectId

/-- What a source says of the status of a vulnerability. -/
def vulnerabilityWrite (sourceId observationId : String) : KnowledgeWrite where
  sourceId := sourceId
  observation := { observationId }
  candidate :=
    { rootObject := some { objectType := "Vulnerability", canonicalKey := "advisory-7" }
      claims := [{ predicate := "status", value := .string sourceId, locator := [] }] }
  processorName := "advisory-mapper"
  processorVersion := "1"

def advisoryRun (observationId : String) : ProcessingRunId :=
  ⟨"advisory-mapper", "1", "Vulnerability:advisory-7", observationId⟩

def advisoryId : String := "secfusion:object:Vulnerability:advisory-7"

/-- Two revisions of one vulnerability that commit in their order; the handler of
the second overtakes that of the first. -/
def orderlyRun : List PipelineOp :=
  [.begin, .begin, .commit ⟨vulnerabilityWrite "vendor" "observation-1", 1, 10⟩,
    .read (advisoryRun "observation-1") advisoryId,
    .commit ⟨vulnerabilityWrite "registry" "observation-2", 2, 11⟩,
    .read (advisoryRun "observation-2") advisoryId, .store 1 12, .store 0 13]

/-- The orderly run converges, whichever handler is first. -/
theorem projections_converge_orderly :
    (pipelineAfter partTexts orderlyRun).projections.rows.length = 3 ∧
      AllHandled (pipelineAfter partTexts orderlyRun) ∧
      Converged partTexts (pipelineAfter partTexts orderlyRun) :=
  ⟨by decide +kernel, by decide +kernel,
    projections_converge partTexts orderlyRun (by decide +kernel) (by decide +kernel)⟩

/-- The second revision commits and is handled before the first commits. -/
def overtakenRun : List PipelineOp :=
  [.begin, .begin, .commit ⟨vulnerabilityWrite "registry" "observation-2", 2, 10⟩,
    .read (advisoryRun "observation-2") advisoryId, .store 0 11,
    .commit ⟨vulnerabilityWrite "vendor" "observation-1", 1, 12⟩,
    .read (advisoryRun "observation-1") advisoryId, .store 0 13]

/-- **A late commit is lost**: what it says is never shown, though its change has
been handled. -/
theorem projections_diverge :
    ¬ ∀ texts ops, AllHandled (pipelineAfter texts ops) →
      Converged texts (pipelineAfter texts ops) := by
  intro converges
  have same := converges partTexts overtakenRun (by decide +kernel) .currentVulnerabilityView
    advisoryId
  have different : storedView (pipelineAfter partTexts overtakenRun) .currentVulnerabilityView
      advisoryId ≠ computedView partTexts (pipelineAfter partTexts overtakenRun).base
        .currentVulnerabilityView advisoryId := by
    decide +kernel
  exact different same

/-- Revisions commit in their order. -/
def InOrder (pipeline : Pipeline) (op : PipelineOp) : Prop :=
  match op with
  | .commit op => pipeline.base.currentRevision < op.revision
  | .begin | .read _ _ | .store _ _ => True

instance inOrderDecidable (pipeline : Pipeline) (op : PipelineOp) :
    Decidable (InOrder pipeline op) :=
  match op with
  | .commit op => inferInstanceAs (Decidable (pipeline.base.currentRevision < op.revision))
  | .begin | .read _ _ | .store _ _ => .isTrue trivial

/-- An advisory that says under which licence a package is. -/
def licenceWrite (canonicalKey licence : String) : KnowledgeWrite where
  sourceId := "vendor"
  observation := { observationId := "observation-" ++ canonicalKey }
  candidate :=
    { rootObject := some { objectType := "Vulnerability", canonicalKey }
      relations := [{
        relationType := "affects-package"
        target :=
          { objectType := "Package", canonicalKey := "widget"
            properties := [("licence", .string licence)] }
        locator := [] }] }
  processorName := "advisory-mapper"
  processorVersion := "1"

/-- Two advisories about one package; every object of either is handled at once. -/
def sharedRun : List PipelineOp :=
  [.begin, .begin, .commit ⟨licenceWrite "advisory-7" "MIT", 1, 10⟩,
    .read (advisoryRun "observation-advisory-7") advisoryId, .store 0 11,
    .read (advisoryRun "observation-advisory-7") "secfusion:object:Package:widget", .store 0 12,
    .commit ⟨licenceWrite "advisory-8" "GPL", 2, 13⟩,
    .read ⟨"advisory-mapper", "1", "Vulnerability:advisory-8", "observation-advisory-8"⟩
      "secfusion:object:Vulnerability:advisory-8", .store 0 14,
    .read ⟨"advisory-mapper", "1", "Vulnerability:advisory-8", "observation-advisory-8"⟩
      "secfusion:object:Package:widget", .store 0 15]

/-- **The order of the commits is not enough**: the second advisory changes the
package that the first one shows, and does not list the first. -/
theorem projections_diverge_inOrder :
    ¬ ∀ texts ops, Along (pipelineStep texts) InOrder Pipeline.empty ops →
      AllHandled (pipelineAfter texts ops) → Converged texts (pipelineAfter texts ops) := by
  intro converges
  have same := converges partTexts sharedRun (by decide +kernel) (by decide +kernel)
    .currentVulnerabilityView advisoryId
  have different : storedView (pipelineAfter partTexts sharedRun) .currentVulnerabilityView
      advisoryId ≠ computedView partTexts (pipelineAfter partTexts sharedRun).base
        .currentVulnerabilityView advisoryId := by
    decide +kernel
  exact different same

end SecFusion.Knowledge
