import SecFusion.Reasoning.Decision

/-!
# What a decision rests on

`decide` lets a report cite what the conclusions cite, so a result rests on the evidence
of its state only if every conclusion does.  Facts are compared with the confirmed items
and inferences with all items, while what a recommendation cites is compared with nothing:
a result is grounded exactly when the recommendations of its draft are.
-/

namespace SecFusion.Reasoning

open Foundations Investigation

/-! ## What `decide` has checked -/

/-- The result that `decide` makes of a draft and its citations. -/
def resultOf (sha256 : JsonObject → String) (draft : DecisionDraft)
    (citations : List DecisionCitation) : DecisionResult where
  decisionId := decisionIdOf sha256 draft
  caseId := draft.caseId
  caseRevision := draft.caseRevision
  conclusions := draft.conclusions
  conflicts := draft.conflicts
  unknowns := draft.unknowns
  assumptions := draft.assumptions
  citations
  answerPayload := draft.answerPayload
  reportSummary := draft.reportSummary
  reportParagraphs := draft.reportParagraphs
  reportLayout := draft.reportLayout
  stopReason := draft.stopReason
  modelPromptRevision := draft.modelPromptRevision
  stop_bounds := draft.stop_fits

/-- What `decide` has checked of a draft that it accepts with the given citations. -/
structure Accepts (state : InvestigationState) (draft : DecisionDraft)
    (sources : List CitationSource) (citations : List DecisionCitation) : Prop where
  identity : requireStateIdentity state draft.caseId draft.caseRevision = .ok ()
  conclusions : ∀ conclusion ∈ draft.conclusions, checkConclusion state conclusion = .ok ()
  narrative : ∀ paragraph ∈ draft.narrative, paragraph.evidenceRefs ⊆ draft.citedRefs
  layout : ∀ layout ∈ draft.reportLayout, layout.covers draft.reportParagraphs.length = true
  bound : bindCitations sources 0 (draft.conclusions.map (·.evidenceRefs)) = .ok citations

variable {sha256 : JsonObject → String} {state : InvestigationState} {draft : DecisionDraft}
  {sources : List CitationSource} {index : ℕ} {citation : DecisionCitation}
  {citations : List DecisionCitation} {cited : List (List String)}

theorem decide_eq_ok {result : DecisionResult} :
    DecisionService.decide sha256 state draft sources = .ok result ↔
      ∃ citations, Accepts state draft sources citations ∧
        result = resultOf sha256 draft citations := by
  unfold DecisionService.decide
  constructor
  · intro decided
    obtain ⟨_, identity, decided⟩ := bind_eq_ok.1 decided
    obtain ⟨_, conclusions, decided⟩ := bind_eq_ok.1 decided
    simp only [require_bind_eq_ok] at decided
    obtain ⟨narrative, layout, decided⟩ := decided
    obtain ⟨citations, bound, decided⟩ := bind_eq_ok.1 decided
    cases decided
    exact ⟨citations, ⟨identity, forM_eq_ok.1 conclusions, narrative, layout, bound⟩, rfl⟩
  · rintro ⟨citations, accepts, rfl⟩
    refine bind_eq_ok.2 ⟨(), accepts.identity, ?_⟩
    refine bind_eq_ok.2 ⟨(), forM_eq_ok.2 accepts.conclusions, ?_⟩
    rw [require_of accepts.narrative, require_of accepts.layout, ok_bind, ok_bind]
    exact bind_eq_ok.2 ⟨citations, accepts.bound, rfl⟩

theorem checkConclusion_eq_ok {conclusion : DecisionConclusion} :
    checkConclusion state conclusion = .ok () ↔
      (conclusion.type = .fact → conclusion.evidenceRefs ⊆ evidenceOf state.confirmed) ∧
      (conclusion.type = .fact → ∃ item ∈ state.confirmed,
        item.proposition = conclusion.statement ∧
          conclusion.evidenceRefs ⊆ item.evidenceRefs) ∧
      (conclusion.type = .inference →
        conclusion.evidenceRefs ⊆ evidenceOf (stateItems state)) := by
  simp only [checkConclusion, require_bind_eq_ok, require_eq_ok]

/-! ## Citations -/

/-- The conclusion and the reference that a citation is for. -/
def DecisionCitation.occurrence (citation : DecisionCitation) : ℕ × String :=
  (citation.conclusionIndex, citation.evidenceRef)

/-- The references of numbered conclusions, one after the other. -/
def occurrencesFrom (index : ℕ) (cited : List (List String)) : List (ℕ × String) :=
  (cited.zipIdx index).flatMap fun (refs, position) => refs.map fun ref => (position, ref)

theorem occurrence_of_bindReference {ref : String}
    (bound : bindReference sources index ref = .ok citation) :
    citation.occurrence = (index, ref) := by
  obtain ⟨source, _, bound⟩ := fetch_bind_eq_ok.1 bound
  cases bound
  rfl

theorem occurrences_of_mapM {refs : List String}
    (bound : refs.mapM (bindReference sources index) = .ok citations) :
    citations.map (·.occurrence) = refs.map fun ref => (index, ref) := by
  rw [mapM_eq_ok] at bound
  induction refs generalizing citations with
  | nil =>
    cases citations with
    | nil => rfl
    | cons citation rest => cases bound
  | cons ref refs ih =>
    cases citations with
    | nil => cases bound
    | cons citation rest =>
      obtain ⟨here, later⟩ := List.cons.inj bound
      rw [map_cons, map_cons, ih later, occurrence_of_bindReference here]

/-- Each reference of each conclusion gets its citation, in order. -/
theorem occurrences_of_bindCitations (bound : bindCitations sources index cited = .ok citations) :
    citations.map (·.occurrence) = occurrencesFrom index cited := by
  induction cited generalizing index citations with
  | nil =>
    cases bound
    rfl
  | cons refs rest ih =>
    obtain ⟨here, first, bound⟩ := bind_eq_ok.1 bound
    obtain ⟨later, others, bound⟩ := bind_eq_ok.1 bound
    cases bound
    rw [map_append, occurrences_of_mapM first, ih others]
    rfl

theorem evidenceRef_mem_of_bindCitations (bound : bindCitations sources index cited = .ok citations)
    (member : citation ∈ citations) : citation.evidenceRef ∈ cited.flatten := by
  have occurs : citation.occurrence ∈ occurrencesFrom index cited := by
    rw [← occurrences_of_bindCitations bound]
    exact mem_map_of_mem member
  obtain ⟨⟨refs, position⟩, numbered, found⟩ := mem_flatMap.1 occurs
  obtain ⟨ref, listed, same⟩ := mem_map.1 found
  have named : ref = citation.evidenceRef := congrArg Prod.snd same
  rw [← named]
  exact List.mem_flatten_of_mem (List.fst_mem_of_mem_zipIdx numbered) listed

/-! ## Layouts -/

/-- A layout with sections covers a report exactly when it mentions each paragraph once
and nothing else. -/
theorem covers_iff {layout : ReportLayout} (composed : layout.sections ≠ []) (count : ℕ) :
    layout.covers count = true ↔
      ∀ index, (layout.sections.flatMap (·.paragraphIndices)).count index =
        if index < count then 1 else 0 := by
  have counted (index : ℕ) : (List.range count).count index = if index < count then 1 else 0 := by
    rw [List.nodup_range.count]
    simp only [List.mem_range]
  simp only [ReportLayout.covers, composed, decide_false, Bool.false_or, decide_eq_true_eq,
    ← counted]
  rw [← List.perm_iff_count]
  constructor
  · intro sorted
    exact (perm_insertionSort _ _).symm.trans (List.Perm.of_eq sorted)
  · intro same
    refine List.Perm.eq_of_pairwise' (pairwise_insertionSort _ _) ?_
      ((perm_insertionSort _ _).trans same)
    exact (List.pairwise_lt_range).imp le_of_lt

/-! ## Grounded results -/

/-- A result that rests on its state: whatever it cites is evidence of an item, its facts
are confirmed propositions with evidence of theirs, each reference of a conclusion has its
one citation, and a layout with sections shows each paragraph once. -/
structure Grounded (state : InvestigationState) (result : DecisionResult) : Prop where
  conclusions : ∀ conclusion ∈ result.conclusions,
    conclusion.evidenceRefs ⊆ evidenceOf (stateItems state)
  summary : ∀ paragraph ∈ result.reportSummary,
    paragraph.evidenceRefs ⊆ evidenceOf (stateItems state)
  paragraphs : ∀ paragraph ∈ result.reportParagraphs,
    paragraph.evidenceRefs ⊆ evidenceOf (stateItems state)
  citations : ∀ citation ∈ result.citations, citation.evidenceRef ∈ evidenceOf (stateItems state)
  facts : ∀ conclusion ∈ result.conclusions, conclusion.type = .fact →
    ∃ item ∈ state.confirmed, item.proposition = conclusion.statement ∧
      conclusion.evidenceRefs ⊆ item.evidenceRefs
  perOccurrence : result.citations.map (·.occurrence) =
    occurrencesFrom 0 (result.conclusions.map (·.evidenceRefs))
  layout : ∀ layout ∈ result.reportLayout, layout.sections ≠ [] → ∀ index,
    (layout.sections.flatMap (·.paragraphIndices)).count index =
      if index < result.reportParagraphs.length then 1 else 0

/-- The draft recommends on evidence of the state only. -/
def RecommendsOnEvidence (state : InvestigationState) (draft : DecisionDraft) : Prop :=
  ∀ conclusion ∈ draft.conclusions, conclusion.type = .recommendation →
    conclusion.evidenceRefs ⊆ evidenceOf (stateItems state)

theorem evidenceOf_confirmed_subset (state : InvestigationState) :
    evidenceOf state.confirmed ⊆ evidenceOf (stateItems state) := by
  intro ref member
  obtain ⟨item, confirmed, cited⟩ := mem_flatMap.1 member
  refine mem_flatMap.2 ⟨item, ?_, cited⟩
  simp only [stateItems, mem_append]
  exact .inl (.inl (.inl (.inl confirmed)))

/-- With the recommendations, every conclusion of an accepted draft rests on its state. -/
theorem Accepts.conclusions_grounded (accepts : Accepts state draft sources citations)
    (recommends : RecommendsOnEvidence state draft) :
    ∀ conclusion ∈ draft.conclusions, conclusion.evidenceRefs ⊆ evidenceOf (stateItems state) := by
  intro conclusion member
  obtain ⟨confirmed, _, inferred⟩ := checkConclusion_eq_ok.1 (accepts.conclusions _ member)
  cases type : conclusion.type with
  | fact => exact List.Subset.trans (confirmed type) (evidenceOf_confirmed_subset state)
  | inference => exact inferred type
  | recommendation => exact recommends conclusion member type

/-- What the conclusions cite is all that the rest of a draft can cite. -/
theorem citedRefs_subset {evidence : List String}
    (concluded : ∀ conclusion ∈ draft.conclusions, conclusion.evidenceRefs ⊆ evidence) :
    draft.citedRefs ⊆ evidence := by
  intro ref member
  obtain ⟨conclusion, listed, cited⟩ := mem_flatMap.1 member
  exact concluded conclusion listed cited

theorem Accepts.grounded (accepts : Accepts state draft sources citations)
    (recommends : RecommendsOnEvidence state draft) :
    Grounded state (resultOf sha256 draft citations) := by
  have concluded := accepts.conclusions_grounded recommends
  have narrated : ∀ paragraph ∈ draft.narrative,
      paragraph.evidenceRefs ⊆ evidenceOf (stateItems state) := fun paragraph member =>
    List.Subset.trans (accepts.narrative paragraph member) (citedRefs_subset concluded)
  exact {
    conclusions := concluded
    summary := fun paragraph member =>
      narrated paragraph (mem_append_right _ (Option.mem_toList.2 member))
    paragraphs := fun paragraph member => narrated paragraph (mem_append_left _ member)
    citations := by
      intro citation member
      refine citedRefs_subset concluded ?_
      rw [DecisionDraft.citedRefs, List.flatMap_def]
      exact evidenceRef_mem_of_bindCitations accepts.bound member
    facts := fun conclusion member => (checkConclusion_eq_ok.1 (accepts.conclusions _ member)).2.1
    perOccurrence := occurrences_of_bindCitations accepts.bound
    layout := fun layout member composed => (covers_iff composed _).1 (accepts.layout _ member) }

/-- The result of a draft is grounded exactly when the draft recommends on evidence of the
state only. -/
theorem decisions_grounded (sha256 : JsonObject → String) (state : InvestigationState)
    (draft : DecisionDraft) (sources : List CitationSource) (result : DecisionResult)
    (decided : DecisionService.decide sha256 state draft sources = .ok result) :
    Grounded state result ↔ RecommendsOnEvidence state draft := by
  obtain ⟨citations, accepts, rfl⟩ := decide_eq_ok.1 decided
  constructor
  · intro grounded conclusion member _
    exact grounded.conclusions conclusion member
  · exact accepts.grounded

/-- A recommendation to upgrade that cites what no item of any state has to offer. -/
def strayRecommendation : DecisionConclusion where
  statement := "Upgrade to 2.4."
  type := .recommendation
  evidenceRefs := ["evidence:made-up"]
  statement_nonblank := by decide
  fact_cites := nofun
  inference_cites := nofun

/-- An answer with the given conclusions. -/
def answerDraft (conclusions : List DecisionConclusion) : DecisionDraft where
  caseId := "case-1"
  caseRevision := 3
  conclusions
  stopReason := "settled"
  modelPromptRevision := "decision-v1"
  case_named := Eq.refl false
  stop_given := Eq.refl false
  stop_fits := by decide
  prompt_given := Eq.refl false

def confirmedItem : InvestigationStateItem where
  proposition := "Version 2.3 is affected."
  targetRef := none
  evidenceRefs := ["evidence:advisory"]
  writer := "investigator"
  reasonCode := "observed"
  reasoningRelation := none
  updatedRevision := 3

def advisoryState : InvestigationState where
  caseId := "case-1"
  caseRevision := 3
  goal := "Is version 2.3 affected?"
  targets := []
  confirmed := [confirmedItem]
  tentative := []
  conflicts := []
  unknowns := []
  hypotheses := []
  evidenceNeedIds := []
  currentDecision := none
  lastWorldRevision := none
  lastPerceptionAt := none
  updatedAt := 0

def advisoryFact : DecisionConclusion where
  statement := "Version 2.3 is affected."
  type := .fact
  evidenceRefs := ["evidence:advisory"]
  statement_nonblank := by decide
  fact_cites := nofun
  inference_cites := nofun

/-- The finding with its citation, and the recommendation with one that a caller made up. -/
def advisorySources : List CitationSource :=
  [⟨"evidence:advisory", some "source:nvd", []⟩, ⟨"evidence:made-up", none, []⟩]

theorem decisions_grounded_fact :
    Grounded advisoryState (resultOf (fun _ => "0") (answerDraft [advisoryFact])
      [⟨0, "evidence:advisory", some "source:nvd", []⟩]) := by
  refine (decisions_grounded (fun _ => "0") advisoryState (answerDraft [advisoryFact])
    advisorySources _ rfl).2 ?_
  intro conclusion member recommended
  rw [mem_singleton.1 member] at recommended
  cases recommended

/-- A recommendation brings evidence into a decision that its state does not have. -/
theorem recommendation_cites_anything :
    ∃ result, DecisionService.decide (fun _ => "0") advisoryState
        (answerDraft [strayRecommendation]) advisorySources = .ok result ∧
      ¬ Grounded advisoryState result := by
  refine ⟨_, rfl, fun grounded => ?_⟩
  have cited := grounded.conclusions strayRecommendation mem_cons_self mem_cons_self
  exact absurd cited (by decide)

end SecFusion.Reasoning
