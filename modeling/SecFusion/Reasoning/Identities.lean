import SecFusion.Foundations.Digests
import SecFusion.Reasoning.Grounding

/-!
# Decision identities

The identity of a decision is a digest of its draft.  The draft can be read back from the
payload that is hashed, so two decisions of one identity have one draft; but the citations of a
result are read from the sources that were given with the draft.  One draft makes one result,
and the store keeps it, exactly when the sources agree on what the draft cites.
-/

namespace SecFusion.Reasoning

open Foundations Investigation
open DecisionResultStore (persist)

/-! ## Reading a draft back from its payload -/

theorem textItems_injective : Injective textItems := texts_injective

theorem ConclusionType.value_injective : Injective ConclusionType.value := by
  intro left right same
  cases left <;> cases right <;> first | rfl | exact absurd same (by decide)

theorem DecisionConclusion.dump_injective : Injective DecisionConclusion.dump := by
  intro left right same
  simp only [DecisionConclusion.dump, object.injEq, cons.injEq, Prod.mk.injEq,
    true_and, and_true, string.injEq] at same
  obtain ⟨evidence, relations, statement, type⟩ := same
  exact DecisionConclusion.ext statement (ConclusionType.value_injective type)
    (textItems_injective evidence) (textItems_injective relations)

theorem DecisionReportParagraph.dump_injective :
    Injective DecisionReportParagraph.dump := by
  rintro ⟨text, refs, bounds⟩ ⟨text', refs', bounds'⟩ same
  simp only [DecisionReportParagraph.dump, object.injEq, cons.injEq,
    Prod.mk.injEq, true_and, and_true, string.injEq] at same
  obtain ⟨sameRefs, rfl⟩ := same
  obtain rfl := textItems_injective sameRefs
  rfl

theorem ReportSection.dump_injective : Injective ReportSection.dump := by
  rintro ⟨heading, indices⟩ ⟨heading', indices'⟩ same
  simp only [ReportSection.dump, object.injEq, cons.injEq, Prod.mk.injEq,
    true_and, and_true, string.injEq, array.injEq] at same
  obtain ⟨rfl, sameIndices⟩ := same
  -- the dump lists the indices as integers
  have numbers (listed : List ℕ) : (do let index ← listed; pure (index : ℤ)) =
      listed.map Nat.cast :=
    List.map_eq_flatMap.symm
  have integers : Injective JsonValue.int := fun _ _ => JsonValue.int.inj
  have sameNumbers := map_injective_iff.2 integers sameIndices
  rw [numbers, numbers] at sameNumbers
  obtain rfl := map_injective_iff.2 (fun _ _ => Int.ofNat.inj) sameNumbers
  rfl

theorem ReportLayout.dump_injective : Injective ReportLayout.dump := by
  rintro ⟨title, style, sections⟩ ⟨title', style', sections'⟩ same
  simp only [ReportLayout.dump, object.injEq, cons.injEq, Prod.mk.injEq,
    true_and, and_true, string.injEq, array.injEq] at same
  obtain ⟨sameSections, rfl, rfl⟩ := same
  obtain rfl := map_injective_iff.2 ReportSection.dump_injective sameSections
  rfl

theorem textOrNull_injective : Injective textOrNull := by
  intro left right same
  cases left <;> cases right <;> simp_all [textOrNull]

theorem DecisionCitation.dump_injective : Injective DecisionCitation.dump := by
  rintro ⟨index, ref, source, locator⟩ ⟨index', ref', source', locator'⟩ same
  simp only [DecisionCitation.dump, object.injEq, cons.injEq, Prod.mk.injEq,
    true_and, and_true, string.injEq, int.injEq, Nat.cast_inj] at same
  obtain ⟨rfl, rfl, rfl, sameSource⟩ := same
  obtain rfl := textOrNull_injective sameSource
  rfl

variable {name ref : String} {value : Option JsonValue} {others sources : List CitationSource}
  {index : ℕ} {cited : List (List String)} {results : DecisionResults}

theorem fst_of_mem_presentField {field : String × JsonValue}
    (member : field ∈ presentField name value) :
    field.1 = name := by
  cases value with
  | none => cases member
  | some value => rw [mem_singleton.1 member]

/-- A field that may be missing can be told from the fields after it. -/
theorem presentField_append_inj {other : Option JsonValue} {rest others : JsonObject}
    (fresh : ∀ field ∈ rest, field.1 ≠ name) (freshToo : ∀ field ∈ others, field.1 ≠ name)
    (same : presentField name value ++ rest = presentField name other ++ others) :
    value = other ∧ rest = others := by
  cases value with
  | none =>
      cases other with
      | none => exact ⟨rfl, same⟩
      | some other =>
          have there : (name, other) ∈ rest := by
            simp only [presentField, nil_append] at same
            rw [same]
            exact mem_cons_self
          exact absurd rfl (fresh _ there)
  | some value =>
      cases other with
      | none =>
          have there : (name, value) ∈ others := by
            simp only [presentField, nil_append] at same
            rw [← same]
            exact mem_cons_self
          exact absurd rfl (freshToo _ there)
      | some other =>
          simp only [presentField, singleton_append, cons.injEq, Prod.mk.injEq,
            true_and] at same
          exact ⟨congrArg some same.1, same.2⟩

/-- The parts of the report that a payload may lack. -/
theorem reportFields_injective {layout layout' : Option ReportLayout}
    {paragraphs paragraphs' : List DecisionReportParagraph}
    {summary summary' : Option DecisionReportParagraph}
    (same : presentField "report_layout" (layout.map (·.dump)) ++
        (presentField "report_paragraphs" (if paragraphs = [] then none
          else some (.array (paragraphs.map (·.dump)))) ++
        presentField "report_summary" (summary.map (·.dump))) =
      presentField "report_layout" (layout'.map (·.dump)) ++
        (presentField "report_paragraphs" (if paragraphs' = [] then none
          else some (.array (paragraphs'.map (·.dump)))) ++
        presentField "report_summary" (summary'.map (·.dump)))) :
    layout = layout' ∧ paragraphs = paragraphs' ∧ summary = summary' := by
  have later (value other : Option JsonValue) : ∀ field ∈
      presentField "report_paragraphs" value ++ presentField "report_summary" other,
      field.1 ≠ "report_layout" := by
    intro field member
    rcases mem_append.1 member with first | second
    · rw [fst_of_mem_presentField first]
      decide
    · rw [fst_of_mem_presentField second]
      decide
  have last (value : Option JsonValue) : ∀ field ∈ presentField "report_summary" value,
      field.1 ≠ "report_paragraphs" := by
    intro field member
    rw [fst_of_mem_presentField member]
    decide
  obtain ⟨sameLayout, same⟩ := presentField_append_inj (later _ _) (later _ _) same
  obtain ⟨sameParagraphs, same⟩ := presentField_append_inj (last _) (last _) same
  have sameSummary : summary.map (·.dump) = summary'.map (·.dump) := by
    rw [← append_nil (presentField _ _), ← append_nil (presentField _ (summary'.map _))]
      at same
    exact (presentField_append_inj (by simp) (by simp) same).1
  refine ⟨Option.map_injective ReportLayout.dump_injective sameLayout, ?_,
    Option.map_injective DecisionReportParagraph.dump_injective sameSummary⟩
  have listed := map_injective_iff.2 DecisionReportParagraph.dump_injective
  split at sameParagraphs <;> split at sameParagraphs
  · simp_all
  · cases sameParagraphs
  · cases sameParagraphs
  · exact listed (JsonValue.array.inj (Option.some.inj sameParagraphs))

/-- A draft can be read back from its payload. -/
theorem DecisionDraft.payload_injective : Injective DecisionDraft.payload := by
  intro draft other same
  rw [DecisionDraft.payload, DecisionDraft.payload, append_assoc, append_assoc,
    append_assoc, append_assoc, append_assoc, append_assoc] at same
  obtain ⟨front, same⟩ := List.append_inj same rfl
  rw [← append_assoc, ← append_assoc, ← append_assoc, ← append_assoc] at same
  obtain ⟨report, back⟩ := append_inj' same rfl
  rw [append_assoc, append_assoc] at report
  obtain ⟨layout, paragraphs, summary⟩ := reportFields_injective report
  simp only [cons.injEq, Prod.mk.injEq, true_and, and_true, object.injEq,
    string.injEq, int.injEq, array.injEq, Nat.cast_inj] at front back
  obtain ⟨answer, assumptions, caseId, revision, conclusions, conflicts, prompt⟩ := front
  obtain ⟨stop, unknowns⟩ := back
  exact DecisionDraft.ext caseId revision
    (map_injective_iff.2 DecisionConclusion.dump_injective conclusions)
    (textItems_injective conflicts) (textItems_injective unknowns)
    (textItems_injective assumptions) answer summary paragraphs layout stop prompt

/-! ## What citations are made of -/

/-- What a source says of a reference: where it is from, and where in it. -/
def boundTo (sources : List CitationSource) (evidenceRef : String) :
    Option (Option String × JsonObject) :=
  (sourceOf? sources evidenceRef).map fun source => (source.sourceRef, source.locator)

theorem bindCitations_eq_ok {citations : List DecisionCitation}
    (bound : bindCitations sources index cited = .ok citations) :
    (occurrencesFrom index cited).map (fun occurrence =>
      bindReference sources occurrence.1 occurrence.2) = citations.map .ok := by
  induction cited generalizing index citations with
  | nil =>
      cases bound
      rfl
  | cons refs rest ih =>
      obtain ⟨here, first, bound⟩ := bind_eq_ok.1 bound
      obtain ⟨later, others, bound⟩ := bind_eq_ok.1 bound
      cases bound
      have split : occurrencesFrom index (refs :: rest) =
          refs.map (fun ref => (index, ref)) ++ occurrencesFrom (index + 1) rest := rfl
      rw [split, map_append, map_append, ih others, map_map, ← mapM_eq_ok.1 first]
      rfl

theorem mem_flatten_of_occurrence {occurrence : ℕ × String}
    (member : occurrence ∈ occurrencesFrom index cited) :
    occurrence.2 ∈ cited.flatten := by
  obtain ⟨⟨refs, position⟩, numbered, found⟩ := mem_flatMap.1 member
  obtain ⟨ref, listed, rfl⟩ := mem_map.1 found
  exact List.mem_flatten_of_mem (List.fst_mem_of_mem_zipIdx numbered) listed

theorem exists_occurrence (index : ℕ) (member : ref ∈ cited.flatten) :
    ∃ position, (position, ref) ∈ occurrencesFrom index cited := by
  obtain ⟨refs, listed, here⟩ := List.mem_flatten.1 member
  obtain ⟨i, inside, rfl⟩ := List.mem_iff_getElem.1 listed
  refine ⟨index + i, mem_flatMap.2 ⟨(cited[i], index + i), ?_, mem_map_of_mem here⟩⟩
  exact List.mk_add_mem_zipIdx_iff_getElem?.2 (List.getElem?_eq_getElem inside)

/-- Of a reference that both bind, two lists of sources make one citation exactly when they say
the same of it. -/
theorem bindReference_eq_iff {first second : DecisionCitation}
    (here : bindReference sources index ref = .ok first)
    (there : bindReference others index ref = .ok second) :
    bindReference sources index ref = bindReference others index ref ↔
      boundTo sources ref = boundTo others ref := by
  obtain ⟨source, found, made⟩ := fetch_bind_eq_ok.1 here
  obtain ⟨other, foundToo, madeToo⟩ := fetch_bind_eq_ok.1 there
  cases made
  cases madeToo
  rw [here, there, boundTo, boundTo, found, foundToo]
  simp

/-- The sources say the same of every reference that a draft cites. -/
def SourcesAgree (draft : DecisionDraft) (sources others : List CitationSource) : Prop :=
  ∀ ref ∈ draft.citedRefs, boundTo sources ref = boundTo others ref

theorem citations_eq_iff {draft : DecisionDraft} {first second : List DecisionCitation}
    (here : bindCitations sources 0 (draft.conclusions.map (·.evidenceRefs)) = .ok first)
    (there : bindCitations others 0 (draft.conclusions.map (·.evidenceRefs)) = .ok second) :
    first = second ↔ SourcesAgree draft sources others := by
  have ok : Injective (Except.ok : DecisionCitation → Except Raised DecisionCitation) :=
    fun _ _ => Except.ok.inj
  have bound := bindCitations_eq_ok here
  have boundToo := bindCitations_eq_ok there
  have cited : draft.citedRefs = (draft.conclusions.map (·.evidenceRefs)).flatten :=
    List.flatMap_def
  -- both lists bind every occurrence, so each comparison is one of references
  have both : ∀ occurrence ∈ occurrencesFrom 0 (draft.conclusions.map (·.evidenceRefs)),
      (bindReference sources occurrence.1 occurrence.2 =
        bindReference others occurrence.1 occurrence.2 ↔
          boundTo sources occurrence.2 = boundTo others occurrence.2) := by
    intro occurrence member
    have made := mem_map_of_mem (f := fun occurrence : ℕ × String =>
      bindReference sources occurrence.1 occurrence.2) member
    have madeToo := mem_map_of_mem (f := fun occurrence : ℕ × String =>
      bindReference others occurrence.1 occurrence.2) member
    rw [bound] at made
    rw [boundToo] at madeToo
    obtain ⟨_, _, made⟩ := mem_map.1 made
    obtain ⟨_, _, madeToo⟩ := mem_map.1 madeToo
    exact bindReference_eq_iff made.symm madeToo.symm
  rw [← (map_injective_iff.2 ok).eq_iff, ← bound, ← boundToo, List.map_inj_left]
  constructor
  · intro same ref member
    rw [cited] at member
    obtain ⟨position, occurs⟩ := exists_occurrence 0 member
    exact (both _ occurs).1 (same _ occurs)
  · intro agree occurrence occurs
    refine (both _ occurs).2 (agree _ ?_)
    rw [cited]
    exact mem_flatten_of_occurrence occurs

/-! ## One draft, one result -/

/-- A result with what `decide` made it of. -/
structure Decided (sha256 : JsonObject → String) where
  state : InvestigationState
  draft : DecisionDraft
  sources : List CitationSource
  result : DecisionResult
  decided : DecisionService.decide sha256 state draft sources = .ok result

/-- Two results of one draft have sources that agree on it. -/
def OneResult {sha256 : JsonObject → String} (first second : Decided sha256) : Prop :=
  first.draft = second.draft → SourcesAgree first.draft first.sources second.sources

section Results

variable {sha256 : JsonObject → String} {first second : Decided sha256}

/-- Two decisions of one identity are made of one draft. -/
theorem draft_eq_iff (distinguishes : Distinguishes sha256 [first.draft.payload,
      second.draft.payload]) :
    first.result.decisionId = second.result.decisionId ↔ first.draft = second.draft := by
  obtain ⟨citations, accepts, same⟩ := decide_eq_ok.1 first.decided
  obtain ⟨others, acceptsToo, sameToo⟩ := decide_eq_ok.1 second.decided
  have tail : first.result.decisionId = second.result.decisionId ↔
      short (sha256 first.draft.payload) = short (sha256 second.draft.payload) := by
    rw [same, sameToo]
    exact String.append_right_inj _
  rw [tail, distinguishes.eq_iff (by simp) (by simp)]
  exact DecisionDraft.payload_injective.eq_iff

theorem get?_storedDump_citations (result : DecisionResult) :
    JsonObject.get? result.storedDump "citations" =
      some (.array (result.citations.map (·.dump))) := by
  simp [DecisionResult.storedDump, DecisionResult.dumpWith, JsonObject.get?]

/-- Results of one draft are the same exactly when their citations are. -/
theorem result_eq_iff (sameDraft : first.draft = second.draft) :
    (first.result = second.result ↔ SourcesAgree first.draft first.sources second.sources) ∧
      (first.result.storedDump = second.result.storedDump ↔
        SourcesAgree first.draft first.sources second.sources) := by
  obtain ⟨citations, accepts, same⟩ := decide_eq_ok.1 first.decided
  obtain ⟨others, acceptsToo, sameToo⟩ := decide_eq_ok.1 second.decided
  have bound := acceptsToo.bound
  rw [← sameDraft] at bound
  have agree := citations_eq_iff accepts.bound bound
  rw [same, sameToo, ← agree, ← sameDraft]
  refine ⟨⟨fun equal => congrArg (·.citations) equal, fun equal => by rw [equal]⟩,
    fun equal => ?_, fun equal => by rw [equal]⟩
  have cited := congrArg (fun dump => JsonObject.get? dump "citations") equal
  rw [get?_storedDump_citations, get?_storedDump_citations, some.injEq,
    array.injEq] at cited
  exact map_injective_iff.2 DecisionCitation.dump_injective cited

/-- Two decisions of one identity have one result, and one dump to store, exactly when the
sources agree. -/
theorem oneResult_iff (distinguishes : Distinguishes sha256 [first.draft.payload,
      second.draft.payload]) :
    ((first.result.decisionId = second.result.decisionId → first.result = second.result) ↔
      OneResult first second) ∧
    ((first.result.decisionId = second.result.decisionId →
        first.result.storedDump = second.result.storedDump) ↔ OneResult first second) := by
  rw [draft_eq_iff distinguishes]
  exact ⟨forall_congr' fun same => (result_eq_iff same).1,
    forall_congr' fun same => (result_eq_iff same).2⟩

end Results

/-! ## Storing decisions -/

section Store

variable {sha256 : JsonObject → String}

/-- Every row's hash is that of its dump. -/
def Hashed (sha256 : JsonObject → String) (results : DecisionResults) : Prop :=
  ∀ id row, results.get? id = some row → row.contentHash = sha256 row.decisionJson

/-- Decisions are persisted one after the other, until one is rejected. -/
def persistAll (sha256 : JsonObject → String) (results : DecisionResults) :
    List (Decided sha256 × ℤ) → Except Raised DecisionResults
  | [] => .ok results
  | (decision, now) :: rest => do
      let (_, next) ← persist sha256 results decision.result now
      persistAll sha256 next rest

/-- What is stored under the identity of a result is its dump. -/
def Fits (results : DecisionResults) (result : DecisionResult) : Prop :=
  ∀ row, results.get? result.decisionId = some row → row.decisionJson = result.storedDump

theorem persist_eq_ok_iff (hashed : Hashed sha256 results) (result : DecisionResult) (now : ℤ) :
    (∃ row next, persist sha256 results result now = .ok (row, next)) ↔
      Fits results result := by
  constructor
  · rintro ⟨row, next, stored⟩ existing found
    have kept := persist_ok stored
    have same := kept.2.2 _ _ found
    rw [kept.1, some.injEq] at same
    rw [← same]
    exact kept.2.1
  · intro fits
    refine persist_of_storable (fun existing found => ?_) now
    have same := fits existing found
    exact ⟨by rw [hashed _ _ found, same], same⟩

/-- What a result that fits leaves: its dump under its identity, and the rest as it was. -/
theorem get?_of_persist {next : DecisionResults} (hashed : Hashed sha256 results)
    {result : DecisionResult} {now : ℤ} {row : DecisionResultModel}
    (stored : persist sha256 results result now = .ok (row, next)) :
    Hashed sha256 next ∧ ∀ other : DecisionResult, Fits next other ↔
      Fits results other ∧
        (result.decisionId = other.decisionId → result.storedDump = other.storedDump) := by
  have kept := persist_ok stored
  unfold persist at stored
  cases present : results.get? result.decisionId with
  -- a replay leaves the store as it is, with the dump of the result in it
  | some existing =>
      rw [present] at stored
      obtain ⟨same, stored⟩ := require_bind_eq_ok.1 stored
      cases stored
      refine ⟨hashed, fun other => ⟨fun fits => ⟨fits, fun sameId => ?_⟩, And.left⟩⟩
      rw [← same.2]
      exact fits row (by rw [← sameId]; exact present)
  | none =>
      rw [present] at stored
      obtain ⟨table, inserted, stored⟩ := fetch_bind_eq_ok.1 stored
      cases stored
      have read (id : String) := get?_insert? inserted id
      have key : (decisionRow sha256 result now).decisionId = result.decisionId := rfl
      rw [key] at read
      constructor
      · intro id row found
        rw [read] at found
        split at found
        · cases found
          rfl
        · exact hashed id row found
      · intro other
        unfold Fits
        rw [read]
        by_cases sameId : result.decisionId = other.decisionId
        · rw [if_pos sameId, ← sameId, present]
          simp [decisionRow]
        · rw [if_neg sameId]
          simp [sameId]

/-- A run is accepted exactly when every decision fits what is stored, and no two of one
identity have two dumps. -/
theorem persistAll_eq_ok_iff (hashed : Hashed sha256 results)
    (decisions : List (Decided sha256 × ℤ)) :
    (∃ final, persistAll sha256 results decisions = .ok final) ↔
      (∀ entry ∈ decisions, Fits results entry.1.result) ∧
        decisions.Pairwise fun first second =>
          first.1.result.decisionId = second.1.result.decisionId →
            first.1.result.storedDump = second.1.result.storedDump := by
  induction decisions generalizing results with
  | nil => simp [persistAll]
  | cons entry rest ih =>
      obtain ⟨decision, now⟩ := entry
      constructor
      · rintro ⟨final, ran⟩
        obtain ⟨⟨row, next⟩, stored, ran⟩ := bind_eq_ok.1 ran
        obtain ⟨hashedNext, fits⟩ := get?_of_persist hashed stored
        obtain ⟨later, apart⟩ := (ih hashedNext).1 ⟨final, ran⟩
        have here := (persist_eq_ok_iff hashed _ now).1 ⟨row, next, stored⟩
        refine ⟨forall_mem_cons.2 ⟨here, fun other member =>
            ((fits _).1 (later other member)).1⟩,
          pairwise_cons.2 ⟨fun other member => ((fits _).1 (later other member)).2, apart⟩⟩
      · rintro ⟨all, apart⟩
        obtain ⟨here, later⟩ := forall_mem_cons.1 all
        obtain ⟨first, apart⟩ := pairwise_cons.1 apart
        obtain ⟨row, next, stored⟩ := (persist_eq_ok_iff hashed _ now).2 here
        obtain ⟨hashedNext, fits⟩ := get?_of_persist hashed stored
        obtain ⟨final, ran⟩ := (ih hashedNext).2 ⟨fun other member =>
          (fits _).2 ⟨later other member, first other member⟩, apart⟩
        exact ⟨final, bind_eq_ok.2 ⟨(row, next), stored, ran⟩⟩

/-- Starting from nothing, no decision is ever rejected exactly when those of one draft have
sources that agree on it. -/
theorem persistAll_iff (decisions : List (Decided sha256 × ℤ))
    (distinguishes : Distinguishes sha256 (decisions.map (·.1.draft.payload))) :
    (∃ final, persistAll sha256 .empty decisions = .ok final) ↔
      ∀ first ∈ decisions, ∀ second ∈ decisions, OneResult first.1 second.1 := by
  have hashed : Hashed sha256 .empty := by
    intro id row found
    cases found
  have one (first second : Decided sha256 × ℤ) (here : first ∈ decisions)
      (there : second ∈ decisions) :
      (first.1.result.decisionId = second.1.result.decisionId →
        first.1.result.storedDump = second.1.result.storedDump) ↔
          OneResult first.1 second.1 := by
    refine (oneResult_iff (distinguishes.mono ?_)).2
    rintro payload (_ | ⟨_, _ | ⟨_, ⟨⟩⟩⟩)
    · exact mem_map_of_mem here
    · exact mem_map_of_mem there
  rw [persistAll_eq_ok_iff hashed, and_iff_right (by rintro entry - row ⟨⟩)]
  constructor
  · intro apart
    have symmetric : Std.Symm fun first second : Decided sha256 × ℤ =>
        first.1.result.decisionId = second.1.result.decisionId →
          first.1.result.storedDump = second.1.result.storedDump :=
      ⟨fun _ _ same id => (same id.symm).symm⟩
    have every := List.Pairwise.forall_of_forall (fun _ _ _ => rfl) apart
    exact fun first here second there => (one first second here there).1 (every here there)
  · intro agree
    exact List.pairwise_of_forall_mem_list fun first here second there =>
      (one first second here there).2 (agree first here second there)

end Store

end SecFusion.Reasoning
