import SecFusion.Normative.Extraction

/-!
# What an extraction publishes

An executed call accepts the requirements it derives that are not stored yet, and it
supersedes the accepted ones of other runs of the revision.  The identity of a requirement is
made of what it says, and not of the run that found it, so a requirement that two runs find
stays the row of the first: the second run returns it, supersedes it, and does not have it
when it is replayed.

* `Executed` — what an executed call does to the tables.
* `Holds` — the tables have what a run returned.
* `published_iff_derivesNew` — a sequence of calls publishes what it returns exactly when each
  call that executes derives requirements that are not stored yet.
-/

namespace SecFusion.Normative

open Foundations

variable {library : TextLibrary} {documents : Documents} {tables next : NormativeTables}
  {call : ExtractCall} {result : NormativeExtractionResult}

/-! ## Loops -/

variable {mappings stored : Table RequirementControlMappingModel MappingId (·.mappingId)}
  {row : RequirementControlMappingModel} {extracted : List LocatedExtraction} {id : RequirementId}
  {first : NormativeExtractionResult}

theorem get?_storeMapping (ok : storeMapping mappings row = .ok stored) (id : MappingId) :
    stored.get? id = (mappings.get? id).or (if row.mappingId = id then some row else none) := by
  unfold storeMapping at ok
  split at ok
  next old found =>
    cases ok
    by_cases same : row.mappingId = id
    · subst same
      rw [found, some_or]
    · rw [if_neg same, Option.or_none]
  next absent =>
    obtain ⟨-, inserted⟩ := require_bind_eq_ok.1 ok
    rw [get?_insert? (fetch_eq_ok.1 inserted)]
    by_cases same : row.mappingId = id
    · subst same
      rw [absent, Option.none_or]
    · rw [if_neg same, if_neg same, Option.or_none]

theorem get?_storeMappings {rows : List RequirementControlMappingModel}
    (ok : rows.foldlM storeMapping mappings = .ok stored) (id : MappingId) :
    stored.get? id = (mappings.get? id).or (rows.find? fun row => row.mappingId = id) := by
  induction rows generalizing mappings with
  | nil =>
      cases ok
      simp
  | cons row rest ih =>
      rw [foldlM_cons, bind_eq_ok] at ok
      obtain ⟨middle, here, later⟩ := ok
      rw [ih later, get?_storeMapping here, Option.or_assoc]
      by_cases same : row.mappingId = id <;> simp [same]

/-! ## Executed calls -/

/-- **What an executed call does**, with the rows that it derives. -/
structure Executed (tables next : NormativeTables) (call : ExtractCall)
    (result : NormativeExtractionResult) (found : List NormativeRequirementModel)
    (cited : List NormativeControlEvidenceModel)
    (related : List RequirementControlMappingModel) : Prop where
  fresh : ¬ tables.Succeeded call.runId
  succeeded : ∀ runId, next.Succeeded runId ↔ runId = call.runId ∨ tables.Succeeded runId
  requirements : ∀ id, next.requirements.get? id =
    ((tables.requirements.get? id).map
      (·.afterSupersede call.normativeRevisionId call.runId)).or
        (found.find? fun row => row.requirementId = id)
  evidence : ∀ id, next.controlEvidence.get? id =
    (tables.controlEvidence.get? id).or (cited.find? fun row => row.controlEvidenceId = id)
  mappings : ∀ id, next.mappings.get? id =
    (tables.mappings.get? id).or (related.find? fun row => row.mappingId = id)
  accepts : ∀ row ∈ found, row.processingRunId = call.runId ∧ row.lifecycle = .accepted ∧
    row.normativeRevisionId = call.normativeRevisionId ∧
    row.requirementId.normativeRevisionId = call.normativeRevisionId
  cites : ∀ row ∈ cited, row.processingRunId = call.runId ∧
    row.controlEvidenceId.processingRunId = call.runId ∧
    row.controlEvidenceId.controlId = row.controlId
  relates : ∀ row ∈ related, row.mappingId.requirementId = row.requirementId ∧
    row.requirementId ∈ found.map (·.requirementId)
  result : result =
    { result with
      normativeRevisionId := call.normativeRevisionId
      processingRunId := call.runId
      requirementIds := (found.map (·.requirementId)).toFinset
      controlIds := (cited.map (·.controlId)).toFinset
      mappingIds := (related.map (·.mappingId)).toFinset
      replay := false }

theorem localRequirement?_mem {item : LocatedExtraction} (member : item ∈ extracted)
    {jurisdiction : Option String} {localId : String}
    (found : localRequirement? call item localId = some id) :
    id ∈ (requirementRows call jurisdiction extracted).map (·.requirementId) := by
  obtain ⟨requirement, listed, rfl⟩ := map_eq_some_iff.1 found
  have inside := mem_of_find?_eq_some listed
  refine mem_map.2 ⟨requirementRow call jurisdiction item.chunk requirement.1 requirement.2,
    mem_flatMap.2 ⟨item, member, mem_map.2 ⟨requirement, inside, rfl⟩⟩, rfl⟩

theorem succeeded_publish {runs : Table ProcessingRunModel ProcessingRunId (·.runId)}
    {row : ProcessingRunModel} {now : ℤ} (runId : ProcessingRunId) :
    (((runs.put row).update row.runId (·.succeeded now) (·.succeeded_runId now)).get? runId).map
        (·.status) = some .success ↔
      runId = row.runId ∨ (runs.get? runId).map (·.status) = some .success := by
  rw [get?_update, get?_put]
  by_cases same : row.runId = runId
  · subst same
    simp [ProcessingRunModel.succeeded]
  · have different : ¬ runId = row.runId := fun equal => same equal.symm
    simp [same, different]

theorem publish_ok {material : Material} (fresh : ¬ tables.Succeeded call.runId)
    (ok : publish library tables call material extracted = .ok (result, next)) :
    ∃ jurisdiction, Executed tables next call result (requirementRows call jurisdiction extracted)
      (evidenceRows call extracted) (extracted.flatMap (mappingRows call)) := by
  obtain ⟨stored, stores, ok⟩ := bind_eq_ok.1 ok
  cases ok
  refine ⟨_, ⟨fresh, ?_, ?_, ?_, get?_storeMappings stores, ?_, ?_, ?_, rfl⟩⟩
  · intro runId
    exact succeeded_publish runId
  · intro id
    rw [Table.get?_foldl_addMissing, get?_modify]
  · intro id
    rw [Table.get?_foldl_addMissing]
  · intro row member
    obtain ⟨item, -, inside⟩ := mem_flatMap.1 member
    obtain ⟨proposal, -, rfl⟩ := mem_map.1 inside
    exact ⟨rfl, rfl, rfl, rfl⟩
  · intro row member
    obtain ⟨item, -, inside⟩ := mem_flatMap.1 member
    obtain ⟨proposal, -, rfl⟩ := mem_map.1 inside
    exact ⟨rfl, rfl, rfl⟩
  · intro row member
    obtain ⟨item, listed, inside⟩ := mem_flatMap.1 member
    obtain ⟨⟨proposal, place⟩, -, made⟩ := mem_filterMap.1 inside
    obtain ⟨requirement, named, made⟩ := bind_eq_some_iff.1 made
    obtain ⟨control, -, made⟩ := bind_eq_some_iff.1 made
    cases made
    exact ⟨rfl, localRequirement?_mem listed named⟩

/-- The requirements that the answers of the provider name. -/
def derivedRequirements (library : TextLibrary) (documents : Documents) (call : ExtractCall) :
    Finset RequirementId :=
  match (readMaterial library documents call).bind fun material =>
      material.chunks.mapM (extractChunk library call) with
  | .ok extracted => ((requirementRows call none extracted).map (·.requirementId)).toFinset
  | .error _ => ∅

theorem map_requirementRows (jurisdiction other : Option String)
    (extracted : List LocatedExtraction) :
    (requirementRows call jurisdiction extracted).map (·.requirementId) =
      (requirementRows call other extracted).map (·.requirementId) := by
  simp only [requirementRows, List.map_flatMap, map_map]
  rfl

/-- An answer is a replay, or it is of a call that executes. -/
theorem extract_ok (ok : extract library documents call tables = .ok (result, next)) :
    (tables.Succeeded call.runId ∧ next = tables ∧ result.replay = true ∧
      replayResult tables call.documentRevisionId call.runId = .ok result) ∨
    (result.requirementIds = derivedRequirements library documents call ∧
      ∃ found cited related, Executed tables next call result found cited related) := by
  obtain ⟨material, reads, ok⟩ := bind_eq_ok.1 ok
  split at ok
  next succeeded =>
    obtain ⟨replayed, replays, ok⟩ := bind_eq_ok.1 ok
    cases ok
    refine .inl ⟨succeeded, rfl, ?_, replays⟩
    obtain ⟨revision, -, made⟩ := fetch_bind_eq_ok.1 replays
    cases made
    rfl
  next fresh =>
    obtain ⟨extracted, extracts, ok⟩ := bind_eq_ok.1 ok
    obtain ⟨jurisdiction, executed⟩ := publish_ok fresh ok
    refine .inr ⟨?_, _, _, _, executed⟩
    have same : ((readMaterial library documents call).bind fun material =>
        material.chunks.mapM (extractChunk library call)) = .ok extracted := by
      rw [reads]
      exact extracts
    unfold derivedRequirements
    rw [executed.result, same, map_requirementRows jurisdiction none]

section

variable {found : List NormativeRequirementModel} {cited : List NormativeControlEvidenceModel}
  {related : List RequirementControlMappingModel}

namespace Executed

section

variable (executed : Executed tables next call result found cited related)

include executed

theorem mem_requirementIds :
    id ∈ result.requirementIds ↔ ∃ row ∈ found, row.requirementId = id := by
  rw [executed.result]
  simp

theorem mem_controlIds
    {id : ControlId} : id ∈ result.controlIds ↔ ∃ row ∈ cited, row.controlId = id := by
  rw [executed.result]
  simp

theorem mem_mappingIds
    {id : MappingId} : id ∈ result.mappingIds ↔ ∃ row ∈ related, row.mappingId = id := by
  rw [executed.result]
  simp

theorem processingRunId_eq :
    result.processingRunId = call.runId := by
  rw [executed.result]

theorem normativeRevisionId_eq :
    result.normativeRevisionId = call.normativeRevisionId := by
  rw [executed.result]

theorem replay_eq :
    result.replay = false := by
  rw [executed.result]

end

end Executed

end

/-! ## The invariant -/

/-- What all tables satisfy that calls have written: rows are of runs that have succeeded,
and they agree with their identities. -/
structure WellKept (tables : NormativeTables) : Prop where
  requirement : ∀ id row, tables.requirements.get? id = some row →
    tables.Succeeded row.processingRunId ∧ row.normativeRevisionId = id.normativeRevisionId
  evidence : ∀ id row, tables.controlEvidence.get? id = some row →
    tables.Succeeded row.processingRunId ∧ row.processingRunId = id.processingRunId ∧
      row.controlId = id.controlId
  mapping : ∀ id row, tables.mappings.get? id = some row → row.requirementId = id.requirementId ∧
    (tables.requirements.get? row.requirementId).isSome

theorem WellKept.initial (insights : Table InsightCandidateModel String (·.insightCandidateId)) :
    WellKept (.initial insights) where
  requirement _ _ stored := by cases stored
  evidence _ _ stored := by cases stored
  mapping _ _ stored := by cases stored

section

variable {found : List NormativeRequirementModel} {cited : List NormativeControlEvidenceModel}
  {related : List RequirementControlMappingModel}

section

variable (executed : Executed tables next call result found cited related)

include executed

/-- A row after an executed call is a row from before, which may be superseded, or it is
derived by the call and its identity was not stored. -/
theorem Executed.requirement_cases
    {row : NormativeRequirementModel} (stored : next.requirements.get? id = some row) :
    (∃ old, tables.requirements.get? id = some old ∧
      row = old.afterSupersede call.normativeRevisionId call.runId) ∨
    (tables.requirements.get? id = none ∧ row ∈ found ∧ row.requirementId = id) := by
  rw [executed.requirements] at stored
  cases before : tables.requirements.get? id with
  | some old =>
      rw [before, map_some, some_or] at stored
      exact .inl ⟨old, rfl, (Option.some.inj stored).symm⟩
  | none =>
      rw [before, Option.map_none, Option.none_or] at stored
      exact .inr ⟨rfl, mem_of_find?_eq_some stored, by simpa using find?_some stored⟩

theorem Executed.requirement_kept
    {old : NormativeRequirementModel} (stored : tables.requirements.get? id = some old) :
    next.requirements.get? id = some (old.afterSupersede call.normativeRevisionId call.runId) := by
  rw [executed.requirements, stored, map_some, some_or]

/-- A requirement that is derived and not stored is stored then, and accepted. -/
theorem Executed.requirement_added
    (derived : id ∈ result.requirementIds) (absent : tables.requirements.get? id = none) :
    ∃ row ∈ found, row.requirementId = id ∧ next.requirements.get? id = some row := by
  obtain ⟨row, member, same⟩ := executed.mem_requirementIds.1 derived
  cases first : found.find? fun row => row.requirementId = id with
  | none =>
      have never := find?_eq_none.1 first row member
      exact absurd same (by simpa using never)
  | some head =>
      refine ⟨head, mem_of_find?_eq_some first, by simpa using find?_some first, ?_⟩
      rw [executed.requirements, absent, Option.map_none, Option.none_or, first]

theorem Executed.requirement_isSome
    (derived : id ∈ result.requirementIds) : (next.requirements.get? id).isSome := by
  cases stored : tables.requirements.get? id with
  | none =>
      obtain ⟨row, -, -, added⟩ := executed.requirement_added derived stored
      rw [added, Option.isSome_some]
  | some old => rw [executed.requirement_kept stored, Option.isSome_some]

theorem Executed.evidence_cases {id : ControlEvidenceId}
    {row : NormativeControlEvidenceModel} (stored : next.controlEvidence.get? id = some row) :
    tables.controlEvidence.get? id = some row ∨ (row ∈ cited ∧ row.controlEvidenceId = id) := by
  rw [executed.evidence, Option.or_eq_some_iff] at stored
  refine stored.imp_right fun ⟨_, first⟩ => ?_
  exact ⟨mem_of_find?_eq_some first, by simpa using find?_some first⟩

theorem Executed.mapping_cases
    {id : MappingId} (stored : next.mappings.get? id = some row) :
    tables.mappings.get? id = some row ∨ (row ∈ related ∧ row.mappingId = id) := by
  rw [executed.mappings, Option.or_eq_some_iff] at stored
  refine stored.imp_right fun ⟨_, first⟩ => ?_
  exact ⟨mem_of_find?_eq_some first, by simpa using find?_some first⟩

theorem Executed.mem_of_related
    (member : row ∈ related) :
    row.requirementId ∈ result.requirementIds := by
  rw [executed.mem_requirementIds]
  exact mem_map.1 (executed.relates row member).2

end

theorem WellKept.executed (kept : WellKept tables)
    (executed : Executed tables next call result found cited related) : WellKept next where
  requirement id row stored := by
    rcases executed.requirement_cases stored with ⟨old, before, rfl⟩ | ⟨-, member, rfl⟩
    · obtain ⟨succeeded, same⟩ := kept.requirement id old before
      simpa [executed.succeeded, same] using .inr succeeded
    · obtain ⟨ran, -, revision, same⟩ := executed.accepts row member
      exact ⟨(executed.succeeded _).2 (.inl ran), revision.trans same.symm⟩
  evidence id row stored := by
    rcases executed.evidence_cases stored with before | ⟨member, rfl⟩
    · obtain ⟨succeeded, same⟩ := kept.evidence id row before
      exact ⟨(executed.succeeded _).2 (.inr succeeded), same⟩
    · obtain ⟨ran, same, control⟩ := executed.cites row member
      exact ⟨(executed.succeeded _).2 (.inl ran), ran.trans same.symm, control.symm⟩
  mapping id row stored := by
    rcases executed.mapping_cases stored with before | ⟨member, rfl⟩
    · obtain ⟨same, present⟩ := kept.mapping id row before
      obtain ⟨old, stored⟩ := isSome_iff_exists.1 present
      rw [executed.requirement_kept stored]
      exact ⟨same, Option.isSome_some⟩
    · have derived := executed.mem_of_related member
      exact ⟨(executed.relates row member).1.symm, executed.requirement_isSome derived⟩

end

theorem WellKept.extract (kept : WellKept tables)
    (ok : extract library documents call tables = .ok (result, next)) : WellKept next := by
  rcases extract_ok ok with ⟨-, rfl, -⟩ | ⟨-, found, cited, related, executed⟩
  · exact kept
  · exact kept.executed executed

/-! ## What is accepted after a call -/

def NormativeTables.acceptedRequirements (tables : NormativeTables)
    (revisionId : NormativeRevisionId) : Finset RequirementId :=
  ((tables.requirements.select fun row =>
    row.normativeRevisionId = revisionId ∧ row.lifecycle = .accepted).map
      (·.requirementId)).toFinset

theorem mem_acceptedRequirements {revisionId : NormativeRevisionId} :
    id ∈ tables.acceptedRequirements revisionId ↔ ∃ row, tables.requirements.get? id = some row ∧
      row.normativeRevisionId = revisionId ∧ row.lifecycle = .accepted := by
  simp only [NormativeTables.acceptedRequirements, mem_toFinset, mem_map,
    mem_select, decide_eq_true_eq, get?_eq_some]
  constructor
  · rintro ⟨row, ⟨member, holds⟩, same⟩
    exact ⟨row, ⟨member, same⟩, holds⟩
  · rintro ⟨row, ⟨member, same⟩, holds⟩
    exact ⟨row, ⟨member, holds⟩, same⟩

section

variable {found : List NormativeRequirementModel} {cited : List NormativeControlEvidenceModel}
  {related : List RequirementControlMappingModel}

/-- An executed call accepts what it derives and was not stored, and nothing else. -/
theorem Executed.mem_acceptedRequirements (kept : WellKept tables)
    (executed : Executed tables next call result found cited related) :
    id ∈ next.acceptedRequirements result.normativeRevisionId ↔
      id ∈ result.requirementIds ∧ tables.requirements.get? id = none := by
  rw [Normative.mem_acceptedRequirements, executed.normativeRevisionId_eq]
  constructor
  · rintro ⟨row, stored, revision, accepted⟩
    rcases executed.requirement_cases stored with ⟨old, before, rfl⟩ | ⟨absent, member, same⟩
    · -- a row of another run is superseded, and there are none of this run
      have other : old.processingRunId ≠ call.runId := by
        intro same
        exact executed.fresh (same ▸ (kept.requirement id old before).1)
      rw [NormativeRequirementModel.afterSupersede_normativeRevisionId] at revision
      unfold NormativeRequirementModel.afterSupersede at accepted
      split at accepted
      next => cases accepted
      next holds => exact absurd ⟨revision, accepted, other⟩ holds
    · exact ⟨executed.mem_requirementIds.2 ⟨row, member, same⟩, absent⟩
  · rintro ⟨derived, absent⟩
    obtain ⟨row, member, -, added⟩ := executed.requirement_added derived absent
    obtain ⟨-, accepted, revision, -⟩ := executed.accepts row member
    exact ⟨row, added, revision, accepted⟩

/-- The accepted requirements are the returned ones when none of these was stored. -/
theorem Executed.accepted_iff (kept : WellKept tables)
    (executed : Executed tables next call result found cited related) :
    next.acceptedRequirements result.normativeRevisionId = result.requirementIds ↔
      ∀ id ∈ result.requirementIds, tables.requirements.get? id = none := by
  rw [Finset.ext_iff]
  constructor
  · intro same id derived
    exact ((executed.mem_acceptedRequirements kept).1 ((same id).2 derived)).2
  · intro absent id
    rw [executed.mem_acceptedRequirements kept]
    exact and_iff_left_of_imp (absent id)

end

/-! ## What a replay finds -/

/-- **The tables hold what a run returned**: its requirements are the rows of the run, its
controls those of the evidence of the run, and its mappings the ones of its requirements. -/
structure Holds (first : NormativeExtractionResult) (tables : NormativeTables) : Prop where
  succeeded : tables.Succeeded first.processingRunId
  requirements : ∀ id, id ∈ first.requirementIds ↔ ∃ row,
    tables.requirements.get? id = some row ∧ row.processingRunId = first.processingRunId
  controls : ∀ id, id ∈ first.controlIds ↔ ∃ cited row,
    tables.controlEvidence.get? cited = some row ∧
      row.processingRunId = first.processingRunId ∧ row.controlId = id
  mappings : ∀ id, id ∈ first.mappingIds ↔ ∃ row,
    tables.mappings.get? id = some row ∧ row.requirementId ∈ first.requirementIds

/-- Two results name the same requirements, controls and mappings. -/
def SameIds (first second : NormativeExtractionResult) : Prop :=
  first.requirementIds = second.requirementIds ∧ first.controlIds = second.controlIds ∧
    first.mappingIds = second.mappingIds

theorem Holds.sameIds (holds : Holds first tables) {documentRevisionId : String}
    (replays : replayResult tables documentRevisionId first.processingRunId = .ok result) :
    SameIds first result := by
  obtain ⟨revision, -, made⟩ := fetch_bind_eq_ok.1 replays
  cases made
  have requirements : ∀ id, id ∈ ((tables.requirements.select fun row =>
      row.processingRunId = first.processingRunId).map (·.requirementId)) ↔
        id ∈ first.requirementIds := by
    intro id
    simp only [holds.requirements, mem_map, mem_select, decide_eq_true_eq,
      get?_eq_some]
    constructor
    · rintro ⟨row, ⟨member, ran⟩, same⟩
      exact ⟨row, ⟨member, same⟩, ran⟩
    · rintro ⟨row, ⟨member, same⟩, ran⟩
      exact ⟨row, ⟨member, ran⟩, same⟩
  refine ⟨?_, ?_, ?_⟩
  · ext id
    rw [mem_toFinset, requirements]
  · ext id
    simp only [holds.controls, mem_toFinset, mem_map, mem_select,
      decide_eq_true_eq, get?_eq_some]
    constructor
    · rintro ⟨cited, row, ⟨member, -⟩, ran, same⟩
      exact ⟨row, ⟨member, ran⟩, same⟩
    · rintro ⟨row, ⟨member, ran⟩, same⟩
      exact ⟨_, row, ⟨member, rfl⟩, ran, same⟩
  · ext id
    simp only [holds.mappings, mem_toFinset, mem_map, mem_select, requirements,
      decide_eq_true_eq, get?_eq_some]
    constructor
    · rintro ⟨row, ⟨member, same⟩, cited⟩
      exact ⟨row, ⟨member, cited⟩, same⟩
    · rintro ⟨row, ⟨member, cited⟩, same⟩
      exact ⟨row, ⟨member, same⟩, cited⟩

section

variable {found : List NormativeRequirementModel} {cited : List NormativeControlEvidenceModel}
  {related : List RequirementControlMappingModel}

section

variable (executed : Executed tables next call result found cited related)

include executed

theorem Executed.evidence_stored
    {id : ControlEvidenceId} {row : NormativeControlEvidenceModel}
    (stored : tables.controlEvidence.get? id = some row) :
    next.controlEvidence.get? id = some row := by
  rw [executed.evidence, stored, some_or]

theorem Executed.mapping_stored
    {id : MappingId} (stored : tables.mappings.get? id = some row) :
    next.mappings.get? id = some row := by
  rw [executed.mappings, stored, some_or]

/-- The mappings that are derived are stored, whether they were before or not. -/
theorem Executed.mapping_isSome
    {id : MappingId} (derived : id ∈ result.mappingIds) : (next.mappings.get? id).isSome := by
  obtain ⟨row, member, same⟩ := executed.mem_mappingIds.1 derived
  rw [executed.mappings, Option.isSome_or]
  have some : (related.find? fun row => row.mappingId = id).isSome := by
    rw [find?_isSome]
    exact ⟨row, member, by simpa using same⟩
  rw [some, Bool.or_true]

end

/-- The evidence that is derived is stored: it names the run, of which nothing was stored. -/
theorem Executed.evidence_added (kept : WellKept tables)
    (executed : Executed tables next call result found cited related)
    {row : NormativeControlEvidenceModel} (member : row ∈ cited) :
    ∃ stored, next.controlEvidence.get? row.controlEvidenceId = some stored ∧
      stored.processingRunId = call.runId ∧ stored.controlId = row.controlId := by
  obtain ⟨ran, named, control⟩ := executed.cites row member
  cases before : tables.controlEvidence.get? row.controlEvidenceId with
  | some old =>
      obtain ⟨succeeded, same, -⟩ := kept.evidence _ old before
      exact absurd (same.trans named ▸ succeeded) executed.fresh
  | none =>
      cases first : cited.find? fun other => other.controlEvidenceId = row.controlEvidenceId with
      | none =>
          have never := find?_eq_none.1 first row member
          simp at never
      | some head =>
          have same : head.controlEvidenceId = row.controlEvidenceId := by
            simpa using find?_some first
          obtain ⟨headRan, -, headControl⟩ := executed.cites head (mem_of_find?_eq_some first)
          refine ⟨head, ?_, headRan, ?_⟩
          · rw [executed.evidence, before, Option.none_or, first]
          · rw [← headControl, same, control]

/-- A call that derives no stored requirement leaves the tables with what it returns. -/
theorem Executed.holds (kept : WellKept tables)
    (executed : Executed tables next call result found cited related)
    (new : ∀ id ∈ result.requirementIds, tables.requirements.get? id = none) :
    Holds result next where
  succeeded := by
    rw [executed.succeeded, executed.processingRunId_eq]
    exact .inl rfl
  requirements id := by
    rw [executed.processingRunId_eq]
    constructor
    · intro derived
      obtain ⟨row, member, -, added⟩ := executed.requirement_added derived (new id derived)
      exact ⟨row, added, (executed.accepts row member).1⟩
    · rintro ⟨row, stored, ran⟩
      rcases executed.requirement_cases stored with ⟨old, before, rfl⟩ | ⟨-, member, same⟩
      · rw [NormativeRequirementModel.afterSupersede_processingRunId] at ran
        exact absurd (ran ▸ (kept.requirement id old before).1) executed.fresh
      · exact executed.mem_requirementIds.2 ⟨row, member, same⟩
  controls id := by
    rw [executed.mem_controlIds, executed.processingRunId_eq]
    constructor
    · rintro ⟨row, member, rfl⟩
      obtain ⟨stored, added, ran, same⟩ := executed.evidence_added kept member
      exact ⟨_, stored, added, ran, same⟩
    · rintro ⟨evidenceId, row, stored, ran, rfl⟩
      rcases executed.evidence_cases stored with before | ⟨member, -⟩
      · exact absurd (ran ▸ (kept.evidence evidenceId row before).1) executed.fresh
      · exact ⟨row, member, rfl⟩
  mappings id := by
    constructor
    · intro derived
      obtain ⟨row, stored⟩ := isSome_iff_exists.1 (executed.mapping_isSome derived)
      refine ⟨row, stored, ?_⟩
      rcases executed.mapping_cases stored with before | ⟨member, -⟩
      · obtain ⟨other, member, rfl⟩ := executed.mem_mappingIds.1 derived
        rw [(kept.mapping _ row before).1, (executed.relates other member).1]
        exact executed.mem_of_related member
      · exact executed.mem_of_related member
    · rintro ⟨row, stored, derived⟩
      rcases executed.mapping_cases stored with before | ⟨member, same⟩
      · -- a mapping of a requirement that was not stored cannot have been there
        have present := (kept.mapping id row before).2
        rw [new _ derived] at present
        cases present
      · exact executed.mem_mappingIds.2 ⟨row, member, same⟩

/-- Another run that derives no stored requirement does not change what the tables hold. -/
theorem Holds.executed (holds : Holds first tables)
    (executed : Executed tables next call result found cited related)
    (new : ∀ id ∈ result.requirementIds, tables.requirements.get? id = none) :
    Holds first next := by
  have other : call.runId ≠ first.processingRunId := by
    intro same
    exact executed.fresh (same ▸ holds.succeeded)
  refine ⟨(executed.succeeded _).2 (.inr holds.succeeded), fun id => ?_, fun id => ?_,
    fun id => ?_⟩
  · rw [holds.requirements]
    constructor
    · rintro ⟨old, before, ran⟩
      exact ⟨_, executed.requirement_kept before, by simpa using ran⟩
    · rintro ⟨row, stored, ran⟩
      rcases executed.requirement_cases stored with ⟨old, before, rfl⟩ | ⟨-, member, -⟩
      · exact ⟨old, before, by simpa using ran⟩
      · exact absurd ((executed.accepts row member).1.symm.trans ran) other
  · rw [holds.controls]
    constructor
    · rintro ⟨evidenceId, row, before, rest⟩
      exact ⟨evidenceId, row, executed.evidence_stored before, rest⟩
    · rintro ⟨evidenceId, row, stored, ran, same⟩
      rcases executed.evidence_cases stored with before | ⟨member, -⟩
      · exact ⟨evidenceId, row, before, ran, same⟩
      · exact absurd ((executed.cites row member).1.symm.trans ran) other
  · rw [holds.mappings]
    constructor
    · rintro ⟨row, before, derived⟩
      exact ⟨row, executed.mapping_stored before, derived⟩
    · rintro ⟨row, stored, derived⟩
      rcases executed.mapping_cases stored with before | ⟨member, -⟩
      · exact ⟨row, before, derived⟩
      · -- the mapping is of a requirement that was not stored, the run's are
        obtain ⟨old, before, -⟩ := (holds.requirements _).1 derived
        rw [new _ (executed.mem_of_related member)] at before
        cases before

end

theorem Holds.extract (holds : Holds first tables)
    (ok : extract library documents call tables = .ok (result, next))
    (new : result.replay = false → ∀ id ∈ result.requirementIds,
      tables.requirements.get? id = none) : Holds first next := by
  rcases extract_ok ok with ⟨-, rfl, -⟩ | ⟨-, found, cited, related, executed⟩
  · exact holds
  · exact holds.executed executed (new executed.replay_eq)

/-! ## Sequences of calls -/

def tablesAfter (library : TextLibrary) (documents : Documents)
    (insights : Table InsightCandidateModel String (·.insightCandidateId))
    (calls : List ExtractCall) : NormativeTables :=
  run (extract library documents) (.initial insights) calls

section

variable {insights : Table InsightCandidateModel String (·.insightCandidateId)}

theorem wellKept_tablesAfter (calls : List ExtractCall) :
    WellKept (tablesAfter library documents insights calls) :=
  run_invariant (fun _ _ _ _ kept ok => kept.extract ok) (.initial insights) calls

end

/-- **A call publishes what it returns**: when it executes, the accepted requirements of the
revision are the returned ones; when it replays a run, it returns what the run returned. -/
structure Published (library : TextLibrary) (documents : Documents)
    (insights : Table InsightCandidateModel String (·.insightCandidateId))
    (earlier : List ExtractCall) (call : ExtractCall) : Prop where
  accepted : ∀ result next,
    extract library documents call (tablesAfter library documents insights earlier) =
      .ok (result, next) → result.replay = false →
    next.acceptedRequirements result.normativeRevisionId = result.requirementIds
  replayed : ∀ result next,
    extract library documents call (tablesAfter library documents insights earlier) =
      .ok (result, next) → result.replay = true →
    ∀ before executed between first after, earlier = before ++ executed :: between →
      extract library documents executed (tablesAfter library documents insights before) =
        .ok (first, after) → first.replay = false →
      first.processingRunId = result.processingRunId → SameIds first result

/-- The call is a replay, or it is refused, or the requirements that it derives are not
stored. -/
def DerivesNew (library : TextLibrary) (documents : Documents) (tables : NormativeTables)
    (call : ExtractCall) : Prop :=
  ¬ tables.Succeeded call.runId → (extract library documents call tables).isOk = true →
    ∀ id ∈ derivedRequirements library documents call, tables.requirements.get? id = none

instance (library : TextLibrary) (documents : Documents) (tables : NormativeTables)
    (call : ExtractCall) : Decidable (DerivesNew library documents tables call) :=
  inferInstanceAs (Decidable (_ → _ → _))

theorem DerivesNew.absent (new : DerivesNew library documents tables call)
    (ok : extract library documents call tables = .ok (result, next))
    (executes : result.replay = false) :
    ∀ id ∈ result.requirementIds, tables.requirements.get? id = none := by
  rcases extract_ok ok with ⟨-, -, replays, -⟩ | ⟨derived, found, cited, related, executed⟩
  · rw [executes] at replays
    cases replays
  · rw [derived]
    exact new executed.fresh (by rw [ok]; rfl)

/-- A replay after guarded calls returns what the run returned. -/
theorem sameIds_of_along {executed : ExtractCall} {between : List ExtractCall}
    {after : NormativeTables} (kept : WellKept tables)
    (guarded : Along (extract library documents) (DerivesNew library documents) tables
      (executed :: between))
    (begins : extract library documents executed tables = .ok (first, after))
    (executes : first.replay = false)
    (ok : extract library documents call
      (run (extract library documents) tables (executed :: between)) = .ok (result, next))
    (replays : result.replay = true) (same : first.processingRunId = result.processingRunId) :
    SameIds first result := by
  obtain ⟨new, guarded⟩ := guarded
  have absent := new.absent begins executes
  rw [run_cons, transact_of_ok begins] at ok
  rw [transact_of_ok begins] at guarded
  have starts : Holds first after := by
    rcases extract_ok begins with ⟨-, -, replayed, -⟩ | ⟨-, found, cited, related, effect⟩
    · rw [executes] at replayed
      cases replayed
    · exact effect.holds kept absent
  have preserved : ∀ tables call answer next, Holds first tables →
      DerivesNew library documents tables call →
      extract library documents call tables = .ok (answer, next) → Holds first next :=
    fun _ _ _ _ holds new ok => holds.extract ok (new.absent ok)
  have holds := run_invariant_along preserved starts between guarded
  rcases extract_ok ok with ⟨-, -, -, finds⟩ | ⟨-, found, cited, related, effect⟩
  · have named : result.processingRunId = call.runId := by
      obtain ⟨revision, -, made⟩ := fetch_bind_eq_ok.1 finds
      cases made
      rfl
    rw [← named, ← same] at finds
    exact holds.sameIds finds
  · rw [effect.replay_eq] at replays
    cases replays

/-- **What a sequence of calls publishes.**  Each of the calls publishes what it returns
exactly when each that executes derives requirements that are not stored yet. -/
theorem published_iff_derivesNew (library : TextLibrary) (documents : Documents)
    (insights : Table InsightCandidateModel String (·.insightCandidateId))
    (calls : List ExtractCall) :
    (∀ earlier call later, calls = earlier ++ call :: later →
      Published library documents insights earlier call) ↔
    Along (extract library documents) (DerivesNew library documents) (.initial insights) calls := by
  have kept : ∀ earlier, WellKept (tablesAfter library documents insights earlier) :=
    wellKept_tablesAfter
  constructor
  · intro published
    refine along_iff.2 fun earlier call later split fresh answers => ?_
    cases answered : extract library documents call
        (tablesAfter library documents insights earlier) with
    | error raised =>
        rw [tablesAfter] at answered
        rw [answered] at answers
        cases answers
    | ok answer =>
        obtain ⟨result, next⟩ := answer
        rcases extract_ok answered with ⟨succeeded, -⟩ | ⟨derived, found, cited, related, executed⟩
        · exact absurd succeeded fresh
        · have accepted := (published earlier call later split).accepted result next answered
            executed.replay_eq
          rw [← derived]
          exact (executed.accepted_iff (kept earlier)).1 accepted
  · intro guarded earlier call later split
    refine ⟨fun result next answered executes => ?_, ?_⟩
    · have new := along_iff.1 guarded earlier call later split
      rcases extract_ok answered with ⟨-, -, replays, -⟩ | ⟨-, found, cited, related, executed⟩
      · rw [executes] at replays
        cases replays
      · exact (executed.accepted_iff (kept earlier)).2 (new.absent answered executes)
    · rintro result next answered replays before executed between first after rfl begins executes
        same
      rw [split] at guarded
      have later := guarded.of_append.1.of_append.2
      rw [tablesAfter, run_append] at answered
      exact sameIds_of_along (kept before) later begins executes answered replays same

/-! ## Two providers that agree -/

/-- A library for texts without dates, in which all material is usable. -/
def plainLibrary : TextLibrary where
  parseDate _ := none
  dateOf instant := instant
  repr text := "'" ++ text ++ "'"
  usable _ _ := true

def guidanceDocument : DocumentModel where
  documentId := "document"
  sourceId := "nist"
  canonicalUrl := none

def guidanceRevision : DocumentRevisionModel where
  documentRevisionId := "revision"
  documentId := "document"
  externalRevision := none
  title := none
  metadata := []
  publishedAt := none

def guidanceChunk : DocumentChunkModel where
  chunkId := "chunk"
  documentRevisionId := "revision"
  ordinal := 0
  sectionName := none
  pageNumber := none
  text := "Document the controls."
  locator := []

/-- A document with one revision, which has one chunk. -/
def guidance : Documents where
  documents := ⟨[guidanceDocument], by simp⟩
  revisions := ⟨[guidanceRevision], by simp⟩
  chunks := ⟨[guidanceChunk], by simp⟩

/-- The recommendation of the chunk, with the name that a provider gives it. -/
def recommendation (localId : String) : NormativeRequirementProposal where
  sourceClause := none
  modality := .recommendation
  subject := "organizations"
  action := "document"
  object := "controls"
  condition := none
  exception := none
  jurisdiction := none
  applicability := []
  validFrom := none
  validTo := none
  riskMapping := []
  evidence := ⟨"Document the controls."⟩
  localId := localId

/-- A call of a version of a provider that finds the recommendation. -/
def extraction (version : String) : ExtractCall where
  provider :=
    { name := "model"
      version := version
      generateStructured := fun _ =>
        .ok { documentFacts := [], requirements := [recommendation version], controls := [],
              controlMappings := [] } }
  source :=
    { sourceId := "nist", sourceClass := "normative_knowledge", sourceRole := "primary",
      accessRights := [] }
  documentRevisionId := "revision"
  now := 0

example : Along (extract plainLibrary guidance) (DerivesNew plainLibrary guidance)
    (.initial .empty) [extraction "1", extraction "1"] := by
  decide +kernel

/-- What an answer shows: its run, whether it is a replay, whether the accepted requirements
are the returned ones, and how many these are. -/
def shown (answer : NormativeExtractionResult × NormativeTables) :
    ProcessingRunId × Bool × Bool × ℕ :=
  (answer.1.processingRunId, answer.1.replay,
    answer.2.acceptedRequirements answer.1.normativeRevisionId = answer.1.requirementIds,
    answer.1.requirementIds.card)

/-- **The second of two providers that agree publishes nothing**: it returns the requirement
that the first has found, which it supersedes, and its replay returns no requirement. -/
theorem second_provider_publishes_nothing :
    (¬ ∀ earlier call later, [extraction "1", extraction "2"] = earlier ++ call :: later →
      Published plainLibrary guidance .empty earlier call) ∧
    ¬ ∀ earlier call later, [extraction "1", extraction "2", extraction "2"] =
      earlier ++ call :: later → Published plainLibrary guidance .empty earlier call := by
  have second : ((extract plainLibrary guidance (extraction "2")
      (tablesAfter plainLibrary guidance .empty [extraction "1"])).toOption.map shown) =
        some ((extraction "2").runId, false, false, 1) := by
    decide +kernel
  have third : ((extract plainLibrary guidance (extraction "2")
      (tablesAfter plainLibrary guidance .empty
        [extraction "1", extraction "2"])).toOption.map shown) = some ((extraction "2").runId, true, true, 0) := by
    decide +kernel
  obtain ⟨⟨result, next⟩, executed, shows⟩ := map_eq_some_iff.1 second
  obtain ⟨⟨again, final⟩, replayed, showsAgain⟩ := map_eq_some_iff.1 third
  rw [toOption_eq_some] at executed replayed
  simp only [shown, Prod.mk.injEq, decide_eq_false_iff_not] at shows
  simp only [shown, Prod.mk.injEq] at showsAgain
  obtain ⟨ran, executes, differs, counted⟩ := shows
  obtain ⟨ranAgain, replays, -, none⟩ := showsAgain
  refine ⟨fun published => ?_, fun published => ?_⟩
  · have here := published [extraction "1"] (extraction "2") [] rfl
    exact differs (here.accepted result next executed executes)
  · have here := published [extraction "1", extraction "2"] (extraction "2") [] rfl
    have same := here.replayed again final replayed replays [extraction "1"] (extraction "2")
      [] result next rfl executed executes (ran.trans ranAgain.symm)
    rw [same.1, none] at counted
    cases counted

end SecFusion.Normative
