import SecFusion.Raised
import SecFusion.Foundations.Text

/-!
# Scores of answers

The model of `score_qa` in `packages/evaluation/qa.py`.  The second revision of the evaluator
starts from the score of the first and replaces all of it but the latency: a task is correct
only if all that is asserted is supported (`Strict`).
-/

namespace SecFusion.Evaluation

open Foundations

structure QACitationCheck where
  (conclusionFact evidenceRef : String)
  supports : Bool

/-- `QAGold`, with what `validate_gold` establishes. -/
structure QAGold where
  caseId : String
  (requiredFacts acceptableAnswerFacts forbiddenFacts : List String := [])
  requiredRelationPaths : List (List String) := []
  (acceptableUnknowns requiredUnknowns requiredConflicts requiredCitationFacts : List String := [])
  allowedAssumptions : List String := []
  completionExpectation : String
  required_allowed : ∀ fact ∈ requiredFacts, fact ∉ forbiddenFacts := by decide
  cited_answers : requiredCitationFacts ⊆ requiredFacts ++ acceptableAnswerFacts := by decide
  unknowns_acceptable : requiredUnknowns ⊆ acceptableUnknowns := by decide
  unknowns_apart : ∀ unknown ∈ requiredUnknowns, unknown ∉ requiredFacts := by decide

structure QAPrediction where
  caseId : String
  conclusionFacts : List String := []
  relationPaths : List (List String) := []
  decisionRelationPaths : List (List String) := []
  citations : List QACitationCheck := []
  (unknowns conflicts assumptions : List String := [])
  completionStatus : String
  interactiveLatencySeconds : Option ℚ := none

structure QAScore where
  evaluatorRevision : String := "qa-v1"
  taskCorrectness : Option ℚ := none
  (answerAccuracy groundedness citationCorrectness citationCompleteness : ℚ)
  (multiHopCorrectness unknownCorrectness conflictHandling : Option ℚ)
  completionCorrectness : ℚ
  interactiveLatencySeconds : Option ℚ

def qaEvaluatorVersion (revision : String) : Except Raised ℕ :=
  if revision = "qa-v1" ∨ revision = "qa-session-v1" then .ok 1
  else if revision = "qa-v2" ∨ revision = "qa-session-v2" then .ok 2
  else .error (.valueError ("unsupported QA evaluator revision: " ++ revision))

/-- `_ratio` -/
def ratio (numerator denominator : ℕ) : ℚ :=
  if denominator = 0 then 1 else numerator / denominator

/-- `float` of a truth value. -/
def truth (holds : Prop) [Decidable holds] : ℚ := if holds then 1 else 0

section Scores

variable (gold : QAGold) (prediction : QAPrediction)

/-! ## The first revision -/

def QAPrediction.predicted : Finset String := prediction.conclusionFacts.toFinset

def QAPrediction.unknownSet : Finset String := prediction.unknowns.toFinset

/-- `answer_correct` of the first revision. -/
def AnswerCorrectV1 : Prop :=
  gold.requiredFacts.toFinset ⊆ prediction.predicted ∧
  prediction.predicted ∩ gold.forbiddenFacts.toFinset = ∅ ∧
  (gold.acceptableAnswerFacts.toFinset ≠ ∅ →
    prediction.predicted ∩ gold.acceptableAnswerFacts.toFinset ≠ ∅ ∨
      gold.requiredFacts.toFinset ≠ ∅) ∧
  prediction.assumptions.toFinset ⊆ gold.allowedAssumptions.toFinset

instance : Decidable (AnswerCorrectV1 gold prediction) := by unfold AnswerCorrectV1; infer_instance

/-- The score of `_score_qa_v1`. -/
def scoreOfV1 : QAScore :=
  let supportingFacts := ((prediction.citations.filter (·.supports)).map (·.conclusionFact)).toFinset
  let factualConclusions := prediction.predicted \ prediction.unknownSet
  let expectedPaths := gold.requiredRelationPaths.toFinset
  { answerAccuracy := truth (AnswerCorrectV1 gold prediction)
    groundedness := ratio (factualConclusions ∩ supportingFacts).card factualConclusions.card
    citationCorrectness := ratio (prediction.citations.countP (·.supports))
      prediction.citations.length
    citationCompleteness := ratio (gold.requiredCitationFacts.toFinset ∩ supportingFacts).card
      gold.requiredCitationFacts.toFinset.card
    multiHopCorrectness :=
      if expectedPaths ≠ ∅ then
        some (ratio (expectedPaths ∩ prediction.relationPaths.toFinset).card expectedPaths.card)
      else none
    unknownCorrectness :=
      some (truth (prediction.unknownSet ⊆ gold.acceptableUnknowns.toFinset))
    conflictHandling :=
      some (truth (gold.requiredConflicts.toFinset ⊆ prediction.conflicts.toFinset))
    completionCorrectness := truth (prediction.completionStatus = gold.completionExpectation)
    interactiveLatencySeconds := prediction.interactiveLatencySeconds }

/-- `_score_qa_v1` -/
def scoreQaV1 : Except Raised QAScore := do
  require (gold.caseId = prediction.caseId)
    (.valueError "QA prediction case_id does not match gold")
  pure (scoreOfV1 gold prediction)

/-! ## The second revision -/

/-- The citation supports a conclusion of the prediction, by evidence that it names. -/
def QAPrediction.supports (citation : QACitationCheck) : Bool :=
  citation.supports && !isBlank citation.evidenceRef &&
    decide (citation.conclusionFact ∈ prediction.predicted)

def QAPrediction.supporting : Finset String :=
  ((prediction.citations.filter prediction.supports).map (·.conclusionFact)).toFinset

/-- `answer_correct` of the second revision. -/
def AnswerCorrect : Prop :=
  (scoreOfV1 gold prediction).answerAccuracy ≠ 0 ∧
  (prediction.predicted \ gold.requiredFacts.toFinset) \
    gold.acceptableAnswerFacts.toFinset ⊆ prediction.supporting

instance : Decidable (AnswerCorrect gold prediction) := by unfold AnswerCorrect; infer_instance

def unknownCorrect : Option ℚ :=
  if gold.acceptableUnknowns ≠ [] ∨ gold.requiredUnknowns ≠ [] ∨ prediction.unknownSet ≠ ∅ then
    some (truth (gold.requiredUnknowns.toFinset ⊆ prediction.unknownSet ∧
      prediction.unknownSet ⊆ gold.acceptableUnknowns.toFinset))
  else none

def conflictCorrect : Option ℚ :=
  if gold.requiredConflicts ≠ [] ∨ prediction.conflicts ≠ [] then
    some (truth (gold.requiredConflicts.toFinset = prediction.conflicts.toFinset))
  else none

def groundedness : ℚ :=
  ratio (prediction.predicted ∩ prediction.supporting).card
    prediction.predicted.card

def citationCorrectness : ℚ :=
  ratio (prediction.citations.countP prediction.supports) prediction.citations.length

def citationCompleteness : ℚ :=
  ratio (gold.requiredCitationFacts.toFinset ∩ prediction.supporting).card
    gold.requiredCitationFacts.toFinset.card

def completionCorrectness : ℚ :=
  truth ((prediction.completionStatus = "answered" ∨
      prediction.completionStatus = "continuation_requested") ∧
    prediction.completionStatus = gold.completionExpectation)

/-- `answer_task_correct` -/
def AnswerTaskCorrect : Prop :=
  AnswerCorrect gold prediction ∧ groundedness prediction = 1 ∧
  citationCorrectness prediction = 1 ∧ citationCompleteness gold prediction = 1 ∧
  completionCorrectness gold prediction = 1 ∧ unknownCorrect gold prediction ≠ some 0 ∧
  conflictCorrect gold prediction ≠ some 0 ∧
  prediction.predicted ∩ prediction.unknownSet = ∅

instance : Decidable (AnswerTaskCorrect gold prediction) := by
  unfold AnswerTaskCorrect; infer_instance

/-- `multi_hop` -/
def multiHop : Option ℚ :=
  if gold.requiredRelationPaths.toFinset ≠ ∅ then
    some (truth (AnswerTaskCorrect gold prediction ∧ prediction.supporting ≠ ∅ ∧
      gold.requiredRelationPaths.toFinset ⊆ prediction.decisionRelationPaths.toFinset))
  else none

/-- What the second revision makes of the score of the first. -/
def scoreOfV2 (evaluatorRevision : String) : QAScore :=
  { scoreOfV1 gold prediction with
    evaluatorRevision
    answerAccuracy := truth (AnswerCorrect gold prediction)
    taskCorrectness :=
      some (truth (AnswerTaskCorrect gold prediction ∧ multiHop gold prediction ≠ some 0))
    groundedness := groundedness prediction
    citationCorrectness := citationCorrectness prediction
    citationCompleteness := citationCompleteness gold prediction
    multiHopCorrectness := multiHop gold prediction
    unknownCorrectness := unknownCorrect gold prediction
    conflictHandling := conflictCorrect gold prediction
    completionCorrectness := completionCorrectness gold prediction }

/-- `score_qa` -/
def scoreQa (evaluatorRevision : String) : Except Raised QAScore := do
  let version ← qaEvaluatorVersion evaluatorRevision
  let score ← scoreQaV1 gold prediction
  if version = 1 then pure { score with evaluatorRevision }
  else pure (scoreOfV2 gold prediction evaluatorRevision)

end Scores

/-! ## What a correct task is -/

/-- All that a score of 1 promises. -/
structure Strict (gold : QAGold) (prediction : QAPrediction) (score : QAScore) : Prop where
  rates : score.answerAccuracy = 1 ∧ score.groundedness = 1 ∧ score.citationCorrectness = 1 ∧
    score.citationCompleteness = 1 ∧ score.completionCorrectness = 1
  applicable : ∀ rate : ℚ, score.multiHopCorrectness = some rate ∨
    score.unknownCorrectness = some rate ∨ score.conflictHandling = some rate → rate = 1
  required : gold.requiredFacts ⊆ prediction.conclusionFacts
  forbidden : ∀ fact ∈ prediction.conclusionFacts, fact ∉ gold.forbiddenFacts
  assumptions : prediction.assumptions ⊆ gold.allowedAssumptions
  cited : ∀ fact ∈ prediction.conclusionFacts, ∃ citation ∈ prediction.citations,
    citation.conclusionFact = fact ∧ citation.supports = true ∧
      isBlank citation.evidenceRef = false
  supported : ∀ citation ∈ prediction.citations, citation.supports = true
  paths : gold.requiredRelationPaths ⊆ prediction.decisionRelationPaths

/-- The golds ask the same: their lists have the same members. -/
structure QAGold.Same (gold gold' : QAGold) : Prop where
  caseId : gold'.caseId = gold.caseId
  completion : gold'.completionExpectation = gold.completionExpectation
  lists : ∀ list ∈ [requiredFacts, acceptableAnswerFacts, forbiddenFacts, acceptableUnknowns,
    requiredUnknowns, requiredConflicts, requiredCitationFacts, allowedAssumptions],
    (list gold').toFinset = (list gold).toFinset
  paths : gold'.requiredRelationPaths.toFinset = gold.requiredRelationPaths.toFinset

/-- The predictions say the same: their lists have the same members, and their citations are
the same in some order. -/
structure QAPrediction.Same (prediction prediction' : QAPrediction) : Prop where
  caseId : prediction'.caseId = prediction.caseId
  completion : prediction'.completionStatus = prediction.completionStatus
  latency : prediction'.interactiveLatencySeconds = prediction.interactiveLatencySeconds
  citations : prediction'.citations.Perm prediction.citations
  lists : ∀ list ∈ [conclusionFacts, unknowns, conflicts, assumptions],
    (list prediction').toFinset = (list prediction).toFinset
  paths : ∀ list ∈ [relationPaths, decisionRelationPaths],
    (list prediction').toFinset = (list prediction).toFinset

/-- The prediction with something added that nothing supports. -/
inductive Worsens (gold : QAGold) (prediction : QAPrediction) : QAPrediction → Prop
  | unsupported (fact : String) (nowhere : ∀ citation ∈ prediction.citations,
        citation.conclusionFact = fact → citation.supports = true →
          isBlank citation.evidenceRef = true) :
      Worsens gold prediction
        { prediction with conclusionFacts := fact :: prediction.conclusionFacts }
  | forbidden {fact : String} (listed : fact ∈ gold.forbiddenFacts) : Worsens gold prediction
      { prediction with conclusionFacts := fact :: prediction.conclusionFacts }
  | assumption {assumed : String} (unlisted : assumed ∉ gold.allowedAssumptions) :
      Worsens gold prediction { prediction with assumptions := assumed :: prediction.assumptions }
  | citation {citation : QACitationCheck} (fails : citation.supports = false) :
      Worsens gold prediction { prediction with citations := citation :: prediction.citations }

section Correct

variable {gold gold' : QAGold} {prediction prediction' : QAPrediction} {revision : String}

@[congr] theorem truth_congr {left right : Prop} [Decidable left] [Decidable right]
    (same : left ↔ right) : truth left = truth right := by
  simp only [truth, same]

theorem truth_eq_one {holds : Prop} [Decidable holds] : truth holds = 1 ↔ holds := by
  simp [truth]

theorem truth_eq_zero {holds : Prop} [Decidable holds] : truth holds = 0 ↔ ¬ holds := by
  simp [truth]

theorem truth_le {left right : Prop} [Decidable left] [Decidable right] (imp : left → right) :
    truth left ≤ truth right := by
  unfold truth
  split_ifs with holds fails
  · exact le_rfl
  · exact absurd (imp holds) fails
  · exact zero_le_one
  · exact le_rfl

theorem ratio_eq_one {numerator denominator : ℕ} (fits : numerator ≤ denominator) :
    ratio numerator denominator = 1 ↔ numerator = denominator := by
  unfold ratio
  split
  next empty => exact iff_of_true rfl (by omega)
  next some => rw [div_eq_one_iff_eq (by exact_mod_cast some), Nat.cast_inj]

/-- An applicable rate is one truth value. -/
theorem rate_eq_one {asked holds : Prop} [Decidable asked] [Decidable holds] {rate : ℚ}
    (kept : (if asked then some (truth holds) else none) ≠ some 0)
    (given : (if asked then some (truth holds) else none) = some rate) : rate = 1 := by
  split at given
  next applies =>
    rw [if_pos applies, ne_eq, some.injEq, truth_eq_zero, not_not] at kept
    rw [← Option.some.inj given, truth_eq_one.2 kept]
  next => cases given

theorem mem_supporting {fact : String} : fact ∈ prediction.supporting ↔
    ∃ citation ∈ prediction.citations, prediction.supports citation = true ∧
      citation.conclusionFact = fact := by
  simp [QAPrediction.supporting, and_assoc]

theorem supports_iff {citation : QACitationCheck} : prediction.supports citation = true ↔
    citation.supports = true ∧ isBlank citation.evidenceRef = false ∧
      citation.conclusionFact ∈ prediction.conclusionFacts := by
  simp [QAPrediction.supports, QAPrediction.predicted, and_assoc]

theorem answerCorrect_iff : AnswerCorrect gold prediction ↔ AnswerCorrectV1 gold prediction ∧
    (prediction.predicted \ gold.requiredFacts.toFinset) \ gold.acceptableAnswerFacts.toFinset ⊆
      prediction.supporting := by
  rw [AnswerCorrect, scoreOfV1, ne_eq, truth_eq_zero, not_not]

theorem strict_of_correct
    (correct : (scoreOfV2 gold prediction revision).taskCorrectness = some 1) :
    Strict gold prediction (scoreOfV2 gold prediction revision) := by
  have holds := truth_eq_one.1 (Option.some.inj correct)
  obtain ⟨task, hops⟩ := holds
  obtain ⟨answer, grounded, cited, complete, completion, unknown, conflict, -⟩ := id task
  obtain ⟨required, forbidden, -, assumptions⟩ := (answerCorrect_iff.1 answer).1
  have supporting : prediction.predicted ⊆ prediction.supporting := by
    have all := (ratio_eq_one (Finset.card_le_card Finset.inter_subset_left)).1 grounded
    exact Finset.inter_eq_left.1 (Finset.eq_of_subset_of_card_le Finset.inter_subset_left all.ge)
  constructor
  case rates => exact ⟨truth_eq_one.2 answer, grounded, cited, complete, completion⟩
  case applicable =>
    rintro rate (given | given | given)
    · exact rate_eq_one hops given
    · exact rate_eq_one unknown given
    · exact rate_eq_one conflict given
  case required =>
    exact fun fact member => mem_toFinset.1 (required (mem_toFinset.2 member))
  case forbidden =>
    intro fact member listed
    have both := Finset.mem_inter.2 ⟨mem_toFinset.2 member, mem_toFinset.2 listed⟩
    exact Finset.notMem_empty fact (forbidden ▸ both)
  case assumptions =>
    exact fun text member => mem_toFinset.1 (assumptions (mem_toFinset.2 member))
  case cited =>
    intro fact member
    obtain ⟨citation, listed, supports, named⟩ :=
      mem_supporting.1 (supporting (mem_toFinset.2 member))
    obtain ⟨supports, given, -⟩ := supports_iff.1 supports
    exact ⟨citation, listed, named, supports, given⟩
  case supported =>
    intro citation member
    have all := (ratio_eq_one List.countP_le_length).1 cited
    exact (supports_iff.1 (List.countP_eq_length.1 all citation member)).1
  case paths =>
    intro path member
    have asked : gold.requiredRelationPaths.toFinset ≠ ∅ :=
      Finset.ne_empty_of_mem (mem_toFinset.2 member)
    rw [multiHop, if_pos asked, ne_eq, some.injEq, truth_eq_zero, not_not] at hops
    exact mem_toFinset.1 (hops.2.2 (mem_toFinset.2 member))

/-- What is added without support leaves no correct task. -/
theorem Worsens.not_strict (worsens : Worsens gold prediction prediction') {score : QAScore} :
    ¬ Strict gold prediction' score := by
  intro strict
  cases worsens with
  | unsupported fact nowhere =>
      obtain ⟨citation, member, named, supports, given⟩ := strict.cited fact mem_cons_self
      rw [nowhere citation member named supports] at given
      cases given
  | forbidden listed => exact strict.forbidden _ mem_cons_self listed
  | assumption unlisted => exact unlisted (strict.assumptions mem_cons_self)
  | citation fails => exact absurd (strict.supported _ mem_cons_self) (by simp [fails])

theorem scoreOfV2_same (same : gold.Same gold') (also : prediction.Same prediction') :
    scoreOfV2 gold' prediction' revision = scoreOfV2 gold prediction revision := by
  obtain ⟨-, expected, lists, paths⟩ := same
  obtain ⟨-, status, latency, citations, said, ways⟩ := also
  simp only [forall_mem_cons, not_mem_nil, false_implies, implies_true, and_true]
    at lists said ways
  obtain ⟨required, acceptable, forbidden, unknowns, unknown, conflicts, cited, allowed⟩ := lists
  obtain ⟨conclusions, open', disputed, assumed⟩ := said
  have predicted : prediction'.predicted = prediction.predicted := conclusions
  have unknownSet : prediction'.unknownSet = prediction.unknownSet := open'
  have supports : prediction'.supports = prediction.supports := by
    funext citation
    rw [QAPrediction.supports, QAPrediction.supports, predicted]
  have supporting : prediction'.supporting = prediction.supporting := by
    ext fact
    simp only [mem_supporting, citations.mem_iff, supports]
  have nil : ∀ {left right : List String}, left.toFinset = right.toFinset →
      (left = []) = (right = []) := by
    intro left right agree
    rw [← List.toFinset_eq_empty_iff, agree, List.toFinset_eq_empty_iff]
  have answer : AnswerCorrect gold' prediction' ↔ AnswerCorrect gold prediction := by
    rw [answerCorrect_iff, answerCorrect_iff, AnswerCorrectV1, AnswerCorrectV1, predicted, required,
      acceptable, forbidden, allowed, assumed, supporting]
  have unknown : unknownCorrect gold' prediction' = unknownCorrect gold prediction := by
    simp only [unknownCorrect, ne_eq, nil unknowns, nil unknown, unknown, unknowns, unknownSet]
  have conflict : conflictCorrect gold' prediction' = conflictCorrect gold prediction := by
    simp only [conflictCorrect, ne_eq, nil conflicts, nil disputed, conflicts, disputed]
  have grounded : groundedness prediction' = groundedness prediction := by
    rw [groundedness, groundedness, predicted, supporting]
  have correct : citationCorrectness prediction' = citationCorrectness prediction := by
    rw [citationCorrectness, citationCorrectness, supports, citations.countP_eq, citations.length_eq]
  have complete : citationCompleteness gold' prediction' = citationCompleteness gold prediction := by
    rw [citationCompleteness, citationCompleteness, cited, supporting]
  have completion : completionCorrectness gold' prediction' =
      completionCorrectness gold prediction := by
    simp only [completionCorrectness, status, expected]
  have task : AnswerTaskCorrect gold' prediction' ↔ AnswerTaskCorrect gold prediction := by
    rw [AnswerTaskCorrect, AnswerTaskCorrect, answer, grounded, correct, complete, completion,
      unknown, conflict, predicted, unknownSet]
  have hops : multiHop gold' prediction' = multiHop gold prediction := by
    simp only [multiHop, paths, task, supporting, ways]
  rw [scoreOfV2, scoreOfV2, truth_congr answer, truth_congr (and_congr task (by rw [hops])), hops,
    grounded, correct, complete, completion, unknown, conflict]
  simp only [scoreOfV1, latency]

/-- **The second revision is strict.** -/
theorem qa_v2_strict (gold : QAGold) (prediction : QAPrediction)
    (same : gold.caseId = prediction.caseId) :
    ∃ score legacy task, scoreQa gold prediction "qa-v2" = .ok score ∧
      scoreQa gold prediction "qa-v1" = .ok legacy ∧ score.taskCorrectness = some task ∧
      (task = 1 → Strict gold prediction score) ∧ score.answerAccuracy ≤ legacy.answerAccuracy ∧
      (∀ gold' prediction', gold.Same gold' → prediction.Same prediction' →
        scoreQa gold' prediction' "qa-v2" = .ok score) ∧
      ∀ prediction', Worsens gold prediction prediction' → ∃ score' task',
        scoreQa gold prediction' "qa-v2" = .ok score' ∧
          score'.taskCorrectness = some task' ∧ task' ≤ task := by
  have scored : ∀ {gold : QAGold} {prediction : QAPrediction}, gold.caseId = prediction.caseId →
      scoreQa gold prediction "qa-v2" = .ok (scoreOfV2 gold prediction "qa-v2") := by
    intro gold prediction same
    simp [scoreQa, scoreQaV1, qaEvaluatorVersion, require_of same]
  refine ⟨_, scoreOfV1 gold prediction, _, scored same, ?_, rfl, ?_, ?_, ?_, ?_⟩
  · simp [scoreQa, scoreQaV1, qaEvaluatorVersion, require_of same, scoreOfV1]
  · exact fun correct => strict_of_correct (congrArg some correct)
  · exact truth_le fun answer => (answerCorrect_iff.1 answer).1
  · intro gold' prediction' golds predictions
    rw [scored (golds.caseId.trans (same.trans predictions.caseId.symm)),
      scoreOfV2_same golds predictions]
  · intro prediction' worsens
    have named : prediction'.caseId = prediction.caseId := by cases worsens <;> rfl
    refine ⟨_, _, scored (same.trans named.symm), rfl, truth_le fun correct => ?_⟩
    have strict := @strict_of_correct gold prediction' "qa-v2"
      (congrArg some (truth_eq_one.2 correct))
    exact (worsens.not_strict strict).elim

/-- A fact without its citation is no correct task. -/
theorem qa_v2_strict_uncited : ∃ score task,
    scoreQa { caseId := "case", requiredFacts := ["fact"], completionExpectation := "answered" }
      { caseId := "case", conclusionFacts := ["fact"], completionStatus := "answered" } "qa-v2" =
        .ok score ∧ score.taskCorrectness = some task ∧ task ≠ 1 := by
  obtain ⟨score, _, task, scored, -, given, strict, -⟩ := qa_v2_strict
    { caseId := "case", requiredFacts := ["fact"], completionExpectation := "answered" }
    { caseId := "case", conclusionFacts := ["fact"], completionStatus := "answered" } rfl
  refine ⟨score, task, scored, given, fun correct => ?_⟩
  obtain ⟨citation, listed, -⟩ := (strict correct).cited "fact" (mem_singleton_self _)
  cases listed

end Correct

end SecFusion.Evaluation
