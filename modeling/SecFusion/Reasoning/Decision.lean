import SecFusion.Investigation.StateService

/-!
# Decisions

The model of `packages/reasoning/decision.py`, `citation.py`, `report_layout.py` and
`storage.py`: a draft is checked against the state it was written for, its evidence is
bound to citations, and the result is stored once under its identity.

The identity of a decision is a hash of the dump of its draft; `sha256` is the
hexadecimal digest of the canonical encoding of a payload.
-/

namespace SecFusion.Reasoning

open Foundations Investigation

/-! ## Contracts -/

inductive ConclusionType where
  | fact
  | inference
  | recommendation
  deriving DecidableEq

def ConclusionType.value : ConclusionType → String
  | .fact => "fact"
  | .inference => "inference"
  | .recommendation => "recommendation"

/-- `DecisionConclusion`, with what `validate_conclusion` establishes. -/
@[ext] structure DecisionConclusion where
  statement : String
  type : ConclusionType
  evidenceRefs : List String := []
  reasoningRelationRefs : List String := []
  statement_nonblank : isBlank statement = false
  fact_cites : type = .fact → evidenceRefs ≠ []
  inference_cites : type = .inference → evidenceRefs ≠ [] ∨ reasoningRelationRefs ≠ []

/-- `DecisionReportParagraph`. -/
structure DecisionReportParagraph where
  text : String
  evidenceRefs : List String := []
  text_bounds : 1 ≤ text.length ∧ text.length ≤ 2400

structure ReportSection where
  heading : String
  paragraphIndices : List ℕ

structure ReportLayout where
  title : String
  style : String := "editorial"
  sections : List ReportSection := []

/-- `ReportLayout.covers`. -/
def ReportLayout.covers (layout : ReportLayout) (paragraphCount : ℕ) : Bool :=
  layout.sections = [] ||
    (layout.sections.flatMap (·.paragraphIndices)).insertionSort (· ≤ ·) = List.range paragraphCount

/-- `DecisionDraft`, with what its fields and `validate_draft` establish. -/
@[ext] structure DecisionDraft where
  caseId : String
  caseRevision : ℕ
  conclusions : List DecisionConclusion := []
  conflicts : List String := []
  unknowns : List String := []
  assumptions : List String := []
  answerPayload : JsonObject := []
  reportSummary : Option DecisionReportParagraph := none
  reportParagraphs : List DecisionReportParagraph := []
  reportLayout : Option ReportLayout := none
  stopReason : String
  modelPromptRevision : String
  case_named : isBlank caseId = false
  stop_given : isBlank stopReason = false
  stop_fits : stopReason.length ≤ 128
  prompt_given : isBlank modelPromptRevision = false

/-- `CitationSource`. -/
structure CitationSource where
  evidenceRef : String
  sourceRef : Option String := none
  locator : JsonObject := []

/-- `DecisionCitation`. -/
structure DecisionCitation where
  conclusionIndex : ℕ
  evidenceRef : String
  sourceRef : Option String
  locator : JsonObject
  deriving DecidableEq

/-- `DecisionResult`. -/
structure DecisionResult where
  (decisionId caseId : String)
  caseRevision : ℕ
  conclusions : List DecisionConclusion
  (conflicts unknowns assumptions : List String)
  citations : List DecisionCitation
  answerPayload : JsonObject
  reportSummary : Option DecisionReportParagraph
  reportParagraphs : List DecisionReportParagraph
  reportLayout : Option ReportLayout
  (stopReason modelPromptRevision : String)
  stop_bounds : stopReason.length ≤ 128

/-! ## Dumps -/

def textItems (texts : List String) : JsonValue := .array (texts.map .string)

def textOrNull : Option String → JsonValue
  | some text => .string text
  | none => .null

def DecisionConclusion.dump (conclusion : DecisionConclusion) : JsonValue :=
  .object [("evidence_refs", textItems conclusion.evidenceRefs),
    ("reasoning_relation_refs", textItems conclusion.reasoningRelationRefs),
    ("statement", .string conclusion.statement), ("type", .string conclusion.type.value)]

def DecisionReportParagraph.dump (paragraph : DecisionReportParagraph) : JsonValue :=
  .object [("evidence_refs", textItems paragraph.evidenceRefs), ("text", .string paragraph.text)]

def ReportSection.dump (part : ReportSection) : JsonValue :=
  .object [("heading", .string part.heading),
    ("paragraph_indices", .array (part.paragraphIndices.map fun index => .int index))]

def ReportLayout.dump (layout : ReportLayout) : JsonValue :=
  .object [("sections", .array (layout.sections.map (·.dump))), ("style", .string layout.style),
    ("title", .string layout.title)]

def DecisionCitation.dump (citation : DecisionCitation) : JsonValue :=
  .object [("conclusion_index", .int citation.conclusionIndex),
    ("evidence_ref", .string citation.evidenceRef), ("locator", .object citation.locator),
    ("source_ref", textOrNull citation.sourceRef)]

/-- A field that is left out when it has no value. -/
def presentField (name : String) : Option JsonValue → JsonObject
  | some value => [(name, value)]
  | none => []

/-- The payload that `decide` hashes: the dump of a draft, without the parts of the
report that it has not got. -/
def DecisionDraft.payload (draft : DecisionDraft) : JsonObject :=
  [("answer_payload", .object draft.answerPayload), ("assumptions", textItems draft.assumptions),
    ("case_id", .string draft.caseId), ("case_revision", .int draft.caseRevision),
    ("conclusions", .array (draft.conclusions.map (·.dump))),
    ("conflicts", textItems draft.conflicts),
    ("model_prompt_revision", .string draft.modelPromptRevision)] ++
  presentField "report_layout" (draft.reportLayout.map (·.dump)) ++
  presentField "report_paragraphs" (if draft.reportParagraphs = [] then none
    else some (.array (draft.reportParagraphs.map (·.dump)))) ++
  presentField "report_summary" (draft.reportSummary.map (·.dump)) ++
  [("stop_reason", .string draft.stopReason), ("unknowns", textItems draft.unknowns)]

/-- `result.model_dump(mode="json")`, with the fields of the report that `layout` and
`summary` make of it. -/
def DecisionResult.dumpWith (result : DecisionResult) (layout summary : JsonObject) :
    JsonObject :=
  [("answer_payload", .object result.answerPayload), ("assumptions", textItems result.assumptions),
    ("case_id", .string result.caseId), ("case_revision", .int result.caseRevision),
    ("citations", .array (result.citations.map (·.dump))),
    ("conclusions", .array (result.conclusions.map (·.dump))),
    ("conflicts", textItems result.conflicts), ("decision_id", .string result.decisionId),
    ("model_prompt_revision", .string result.modelPromptRevision)] ++ layout ++
  [("report_paragraphs", .array (result.reportParagraphs.map (·.dump)))] ++ summary ++
  [("stop_reason", .string result.stopReason), ("unknowns", textItems result.unknowns)]

/-- The dump that a decision is committed with: what is missing is `null`. -/
def DecisionResult.dump (result : DecisionResult) : JsonObject :=
  result.dumpWith [("report_layout", (result.reportLayout.map (·.dump)).getD .null)]
    [("report_summary", (result.reportSummary.map (·.dump)).getD .null)]

/-- The dump that a decision is stored with: what is missing is left out. -/
def DecisionResult.storedDump (result : DecisionResult) : JsonObject :=
  result.dumpWith (presentField "report_layout" (result.reportLayout.map (·.dump)))
    (presentField "report_summary" (result.reportSummary.map (·.dump)))

/-! ## Deciding -/

/-- `CitationSource` of a reference: of two with the same reference the later counts. -/
def sourceOf? (sources : List CitationSource) (evidenceRef : String) : Option CitationSource :=
  sources.reverse.find? fun source => source.evidenceRef = evidenceRef

def bindReference (sources : List CitationSource) (conclusionIndex : ℕ) (evidenceRef : String) :
    Except Raised DecisionCitation := do
  let source ← fetch (sourceOf? sources evidenceRef)
    (.valueError ("citation source missing for evidence_ref=" ++ evidenceRef))
  return { conclusionIndex, evidenceRef, sourceRef := source.sourceRef, locator := source.locator }

/-- `CitationBinder.bind`, for the conclusions from the given index on. -/
def bindCitations (sources : List CitationSource) : ℕ → List (List String) →
    Except Raised (List DecisionCitation)
  | _, [] => .ok []
  | index, refs :: rest => do
      let here ← refs.mapM (bindReference sources index)
      let later ← bindCitations sources (index + 1) rest
      return here ++ later

/-- `DecisionService._require_state_identity`. -/
def requireStateIdentity (state : InvestigationState) (caseId : String) (caseRevision : ℕ) :
    Except Raised Unit := do
  require (caseId = state.caseId)
    (.valueError "Decision input case_id does not match M4 state")
  require (caseRevision = state.caseRevision)
    (.valueError "Decision input is stale against M4 state revision")

def stateItems (state : InvestigationState) : List InvestigationStateItem :=
  state.confirmed ++ state.tentative ++ state.conflicts ++ state.unknowns ++ state.hypotheses

def evidenceOf (items : List InvestigationStateItem) : List String := items.flatMap (·.evidenceRefs)

/-- What `decide` requires of one conclusion. -/
def checkConclusion (state : InvestigationState) (conclusion : DecisionConclusion) :
    Except Raised Unit := do
  require (conclusion.type = .fact → conclusion.evidenceRefs ⊆ evidenceOf state.confirmed)
    (.valueError "fact conclusion cites evidence outside confirmed M4 state")
  require (conclusion.type = .fact → ∃ item ∈ state.confirmed,
      item.proposition = conclusion.statement ∧ conclusion.evidenceRefs ⊆ item.evidenceRefs)
    (.valueError ("fact conclusion must reproduce one confirmed M4 proposition " ++
      "with its supporting evidence"))
  require (conclusion.type = .inference → conclusion.evidenceRefs ⊆ evidenceOf (stateItems state))
    (.valueError "inference conclusion cites evidence outside M4 state")

def DecisionDraft.citedRefs (draft : DecisionDraft) : List String :=
  draft.conclusions.flatMap (·.evidenceRefs)

def DecisionDraft.narrative (draft : DecisionDraft) : List DecisionReportParagraph :=
  draft.reportParagraphs ++ draft.reportSummary.toList

/-- `_decision_id`. -/
def decisionIdOf (sha256 : JsonObject → String) (draft : DecisionDraft) : String :=
  "decision:" ++ ofList ((sha256 draft.payload).toList.take 32)

/-- `DecisionService.decide`. -/
def DecisionService.decide (sha256 : JsonObject → String) (state : InvestigationState) (draft : DecisionDraft)
    (sources : List CitationSource) : Except Raised DecisionResult := do
  requireStateIdentity state draft.caseId draft.caseRevision
  draft.conclusions.forM (checkConclusion state)
  require (∀ paragraph ∈ draft.narrative, paragraph.evidenceRefs ⊆ draft.citedRefs)
    (.valueError "report paragraph cites evidence outside decision conclusions")
  require (∀ layout ∈ draft.reportLayout, layout.covers draft.reportParagraphs.length = true)
    (.valueError "report layout must include every report paragraph exactly once")
  let citations ← bindCitations sources 0 (draft.conclusions.map (·.evidenceRefs))
  return {
    decisionId := decisionIdOf sha256 draft
    caseId := draft.caseId
    caseRevision := draft.caseRevision
    conclusions := draft.conclusions
    conflicts := draft.conflicts
    unknowns := draft.unknowns
    assumptions := draft.assumptions
    citations
    answerPayload := draft.answerPayload
    reportSummary := draft.reportSummary
    reportParagraphs := draft.reportParagraphs
    reportLayout := draft.reportLayout
    stopReason := draft.stopReason
    modelPromptRevision := draft.modelPromptRevision
    stop_bounds := draft.stop_fits }

variable {sha256 : JsonObject → String} {state : InvestigationState} {draft : DecisionDraft}
  {sources : List CitationSource} {result : DecisionResult}

/-- **An accepted draft** was written for the state it is checked against, and the result
takes over what it says. -/
theorem decide_ok (decided : DecisionService.decide sha256 state draft sources = .ok result) :
    draft.caseId = state.caseId ∧ draft.caseRevision = state.caseRevision ∧
      result.decisionId = decisionIdOf sha256 draft ∧ result.caseId = draft.caseId ∧
      result.caseRevision = draft.caseRevision ∧ result.unknowns = draft.unknowns ∧
      result.stopReason = draft.stopReason := by
  unfold DecisionService.decide requireStateIdentity at decided
  obtain ⟨_, identified, decided⟩ := bind_eq_ok.1 decided
  simp only [require_bind_eq_ok, require_eq_ok] at identified
  obtain ⟨_, -, decided⟩ := bind_eq_ok.1 decided
  simp only [require_bind_eq_ok] at decided
  obtain ⟨-, -, decided⟩ := decided
  obtain ⟨citations, -, decided⟩ := bind_eq_ok.1 decided
  cases decided
  exact ⟨identified.1, identified.2, rfl, rfl, rfl, rfl, rfl⟩

/-- A draft that concludes nothing is accepted, if it was written for the state and its
report cites nothing. -/
theorem decide_inconclusive (sameCase : draft.caseId = state.caseId)
    (sameRevision : draft.caseRevision = state.caseRevision) (inconclusive : draft.conclusions = [])
    (uncited : ∀ paragraph ∈ draft.narrative, paragraph.evidenceRefs = [])
    (plain : draft.reportLayout = none) :
    ∃ result, DecisionService.decide sha256 state draft sources = .ok result := by
  unfold DecisionService.decide requireStateIdentity
  have cited : ∀ paragraph ∈ draft.narrative, paragraph.evidenceRefs ⊆ draft.citedRefs := by
    intro paragraph member
    rw [uncited paragraph member]
    exact List.nil_subset _
  have covered : ∀ layout ∈ draft.reportLayout,
      layout.covers draft.reportParagraphs.length = true := by
    rw [plain]
    exact fun layout member => by cases member
  rw [inconclusive, require_of sameCase, require_of sameRevision, require_of cited,
    require_of covered]
  exact ⟨_, rfl⟩

/-! ## Results -/

/-- One row of `decision_results`. -/
structure DecisionResultModel where
  (decisionId caseId : String)
  caseRevision : ℕ
  decisionJson : JsonObject
  contentHash : String
  createdAt : ℤ

abbrev DecisionResults := Table DecisionResultModel String (·.decisionId)

def decisionRow (sha256 : JsonObject → String) (result : DecisionResult) (now : ℤ) :
    DecisionResultModel where
  decisionId := result.decisionId
  caseId := result.caseId
  caseRevision := result.caseRevision
  decisionJson := result.storedDump
  contentHash := sha256 result.storedDump
  createdAt := now

/-- `DecisionResultStore.persist`. -/
def DecisionResultStore.persist (sha256 : JsonObject → String) (results : DecisionResults)
    (result : DecisionResult) (now : ℤ) : Except Raised (DecisionResultModel × DecisionResults) :=
  match results.get? result.decisionId with
  | some existing => do
      require (existing.contentHash = sha256 result.storedDump ∧
          existing.decisionJson = result.storedDump)
        (.valueError "DecisionResult identity is immutable")
      return (existing, results)
  | none => do
      let row := decisionRow sha256 result now
      let next ← fetch (results.insert? row) (.integrityError "decision_results_pkey")
      return (row, next)

open DecisionResultStore (persist)

/-- What is stored under the identity of a result, if anything, is this result. -/
def Storable (sha256 : JsonObject → String) (results : DecisionResults) (result : DecisionResult) :
    Prop :=
  ∀ existing ∈ results.get? result.decisionId,
    existing.contentHash = sha256 result.storedDump ∧ existing.decisionJson = result.storedDump

variable {results : DecisionResults}

/-- **A result can be stored** when nothing else has its identity. -/
theorem persist_of_storable (storable : Storable sha256 results result) (now : ℤ) :
    ∃ row next, persist sha256 results result now = .ok (row, next) := by
  unfold persist
  cases present : results.get? result.decisionId with
  | some existing =>
      dsimp only
      rw [require_of (storable existing present)]
      exact ⟨existing, results, rfl⟩
  | none =>
      have absent : ∀ other ∈ results.rows,
          other.decisionId ≠ (decisionRow sha256 result now).decisionId :=
        Table.get?_eq_none.1 present
      have inserted : results.insert? (decisionRow sha256 result now) = some _ := dif_pos absent
      dsimp only
      rw [inserted]
      exact ⟨_, _, rfl⟩

theorem persist_ok {next : DecisionResults} {now : ℤ} {row : DecisionResultModel}
    (stored : persist sha256 results result now = .ok (row, next)) :
    next.get? result.decisionId = some row ∧ row.decisionJson = result.storedDump ∧
      ∀ other existing, results.get? other = some existing → next.get? other = some existing := by
  unfold persist at stored
  cases present : results.get? result.decisionId with
  | some existing =>
      rw [present] at stored
      obtain ⟨same, stored⟩ := require_bind_eq_ok.1 stored
      cases stored
      exact ⟨present, same.2, fun _ _ found => found⟩
  | none =>
      rw [present] at stored
      obtain ⟨table, inserted, stored⟩ := fetch_bind_eq_ok.1 stored
      cases stored
      refine ⟨?_, rfl, fun other existing found => ?_⟩
      · rw [get?_insert? inserted]
        exact if_pos rfl
      · rw [get?_insert? inserted, if_neg, found]
        rintro rfl
        have same : (decisionRow sha256 result now).decisionId = result.decisionId := rfl
        rw [same, present] at found
        cases found

end SecFusion.Reasoning
