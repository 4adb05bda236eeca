import SecFusion.Foundations.Digests
import SecFusion.Experience.Store

/-!
# Experience patterns

The model of `extract` and `merge` in `packages/investigation/experience/compressor.py`: a
pattern is extracted from a version of an experience with its support records, or merged from
patterns of one task.

The identity of an extracted pattern is a digest of all that the pattern says.  That of a merged
one is a digest of which patterns were merged, whatever their order, while its lists keep each
entry where it first occurs among the patterns as they were given.
-/

namespace SecFusion.Experience

open Foundations

/-! ## Contracts -/

/-- The fields of an `ExperiencePattern`. -/
structure PatternFields where
  (patternId taskSignature conditionSignature : String)
  (reusableProcedureFragments failureGuardCandidates fallbackCandidates : List String := [])
  (stopConditionCandidates capabilityPreferenceCandidates supportRefs : List String := [])
  counterexampleRefs : List String := []

/-- `ExperiencePattern`, with what `validate_pattern` establishes. -/
@[ext] structure ExperiencePattern extends PatternFields where
  task_signed : isBlank taskSignature = false
  condition_signed : isBlank conditionSignature = false
  provenance : supportRefs ≠ [] ∨ counterexampleRefs ≠ []

/-- `validate_pattern`. -/
def validatePattern (fields : PatternFields) : Except Raised ExperiencePattern :=
  if signed : isBlank fields.taskSignature = false ∧
      isBlank fields.conditionSignature = false then
    if provenance : fields.supportRefs ≠ [] ∨ fields.counterexampleRefs ≠ [] then
      .ok ⟨fields, signed.1, signed.2, provenance⟩
    else .error (.valueError "ExperiencePattern requires support or counterexample provenance")
  else .error (.valueError "ExperiencePattern task/condition signature cannot be empty")

/-- What `extract` reads of an `ExperienceSupportRecord`. -/
structure ExperienceSupportRecord where
  (trajectoryId outcome : String)

/-! ## Lists of texts -/

def nonblank (values : List String) : List String := values.filter fun item => !isBlank item

/-- `_unique`. -/
def unique (values : List String) : List String := firsts (nonblank values)

/-- `_merge_lists`. -/
def mergeLists (groups : List (List String)) : List String := unique groups.flatten

/-- `_string_list`. -/
def stringList (value : Option JsonValue) : List String :=
  nonblank (((value.bind (·.items?)).getD []).filterMap (·.text?))

def texts (values : List String) : JsonValue := .array (values.map .string)

/-! ## The compressor -/

section Compressor

variable (sha256 : JsonValue → String)

def trajectoryRefs (records : List ExperienceSupportRecord) (outcomes : List String) :
    List String :=
  sortedSet ((records.filter fun record => record.outcome ∈ outcomes).map fun record =>
    "trajectory:" ++ record.trajectoryId)

/-- `counterexample_refs`. -/
def counterexampleRefsOf (records : List ExperienceSupportRecord) : List String :=
  trajectoryRefs records ["failure"]

/-- `support_refs`: the experience itself, when no trajectory says anything. -/
def supportRefsOf (experience : ExperienceVersion) (records : List ExperienceSupportRecord) :
    List String :=
  let supportRefs := trajectoryRefs records ["success", "partial"]
  if supportRefs = [] ∧ counterexampleRefsOf records = [] then
    ["experience:" ++ experience.experienceVersionId]
  else supportRefs

def capabilityPreferences (experience : ExperienceVersion) : List String :=
  stringList (JsonObject.get? experience.scope "capability_preferences")

def conditionPayload (experience : ExperienceVersion) : JsonValue :=
  .object
    [ ("applicable_conditions", texts experience.applicableConditions),
      ("scope", .object experience.scope),
      ("task_signature", .string experience.taskSignature),
      ("trigger_signals", texts experience.triggerSignals) ]

def patternPayload (experience : ExperienceVersion) (records : List ExperienceSupportRecord) :
    JsonValue :=
  .object
    [ ("capability_preferences", texts (capabilityPreferences experience)),
      ("condition_signature", .string (sha256 (conditionPayload experience))),
      ("counterexample_refs", texts (counterexampleRefsOf records)),
      ("experience_version_id", .string experience.experienceVersionId),
      ("failure_modes", texts experience.failureModes),
      ("fallback_actions", texts experience.fallbackActions),
      ("recommended_actions", texts experience.recommendedActions),
      ("stop_conditions", texts experience.stopConditions),
      ("support_refs", texts (supportRefsOf experience records)) ]

/-- The identity of the pattern whose payload is hashed. -/
def patternIdOf (payload : JsonValue) : String :=
  "experience-pattern:" ++ short (sha256 payload)

/-- The fields that `extract` fills in. -/
def extractedFields (experience : ExperienceVersion) (records : List ExperienceSupportRecord) :
    PatternFields where
  patternId := patternIdOf sha256 (patternPayload sha256 experience records)
  taskSignature := experience.taskSignature
  conditionSignature := sha256 (conditionPayload experience)
  reusableProcedureFragments := unique experience.recommendedActions
  failureGuardCandidates := unique experience.failureModes
  fallbackCandidates := unique experience.fallbackActions
  stopConditionCandidates := unique experience.stopConditions
  capabilityPreferenceCandidates := unique (capabilityPreferences experience)
  supportRefs := supportRefsOf experience records
  counterexampleRefs := counterexampleRefsOf records

/-- `extract`. -/
def extract (experience : ExperienceVersion) (records : List ExperienceSupportRecord) :
    Except Raised ExperiencePattern :=
  validatePattern (extractedFields sha256 experience records)

/-- `merged_conditions`. -/
def mergedConditions (patterns : List ExperiencePattern) : JsonValue :=
  texts (sortedSet (patterns.map (·.conditionSignature)))

def mergePayload (first : ExperiencePattern) (patterns : List ExperiencePattern) : JsonValue :=
  .object
    [ ("conditions", mergedConditions patterns),
      ("pattern_ids", texts ((patterns.map (·.patternId)).insertionSort (· ≤ ·))),
      ("task_signature", .string first.taskSignature) ]

/-- The fields that `merge` fills in. -/
def mergedFields (first : ExperiencePattern) (patterns : List ExperiencePattern) :
    PatternFields where
  patternId := patternIdOf sha256 (mergePayload first patterns)
  taskSignature := first.taskSignature
  conditionSignature := sha256 (mergedConditions patterns)
  reusableProcedureFragments := mergeLists (patterns.map (·.reusableProcedureFragments))
  failureGuardCandidates := mergeLists (patterns.map (·.failureGuardCandidates))
  fallbackCandidates := mergeLists (patterns.map (·.fallbackCandidates))
  stopConditionCandidates := mergeLists (patterns.map (·.stopConditionCandidates))
  capabilityPreferenceCandidates :=
    mergeLists (patterns.map (·.capabilityPreferenceCandidates))
  supportRefs := mergeLists (patterns.map (·.supportRefs))
  counterexampleRefs := mergeLists (patterns.map (·.counterexampleRefs))

/-- `merge`. -/
def merge : List ExperiencePattern → Except Raised ExperiencePattern
  | [] => .error (.valueError "ExperienceCompressor.merge requires at least one pattern")
  | first :: rest =>
      if ∀ pattern ∈ rest, pattern.taskSignature = first.taskSignature then
        validatePattern (mergedFields sha256 first (first :: rest))
      else .error (.valueError "cannot merge ExperiencePatterns with different task signatures")

end Compressor

/-! ## What identities determine -/

/-- How a pattern is produced. -/
inductive PatternSource where
  | extracted (experience : ExperienceVersion) (records : List ExperienceSupportRecord)
  | merged (patterns : List ExperiencePattern)

def PatternSource.produce (sha256 : JsonValue → String) :
    PatternSource → Except Raised ExperiencePattern
  | .extracted experience records => extract sha256 experience records
  | .merged patterns => merge sha256 patterns

/-- What is hashed for its identity and for the signature of its conditions. -/
def PatternSource.payloads (sha256 : JsonValue → String) : PatternSource → List JsonValue
  | .extracted experience records =>
      [conditionPayload experience, patternPayload sha256 experience records]
  | .merged [] => []
  | .merged (first :: rest) => [mergePayload first (first :: rest)]

/-- Two merges are of the same patterns, as far as their identity tells: of one task, of the same
conditions, and of the same identities with the same multiplicities. -/
structure SameMerge (patterns others : List ExperiencePattern) : Prop where
  tasks : ∀ pattern ∈ patterns, ∀ other ∈ others, pattern.taskSignature = other.taskSignature
  conditions : ∀ condition, condition ∈ patterns.map (·.conditionSignature) ↔
    condition ∈ others.map (·.conditionSignature)
  identities : (patterns.map (·.patternId)).Perm (others.map (·.patternId))

def joinedLists : List (ExperiencePattern → List String) :=
  [(·.reusableProcedureFragments), (·.failureGuardCandidates), (·.fallbackCandidates),
    (·.stopConditionCandidates), (·.capabilityPreferenceCandidates), (·.supportRefs),
    (·.counterexampleRefs)]

/-- Where both are merges of the same patterns, the same entries occur in each of their lists,
in the same order of first occurrence. -/
def SameOrder : PatternSource → PatternSource → Prop
  | .merged patterns, .merged others => SameMerge patterns others → ∀ list ∈ joinedLists,
      SameFirsts (nonblank (patterns.flatMap list)) (nonblank (others.flatMap list))
  | .extracted _ _, _ | .merged _, .extracted _ _ => True

variable {first second pattern : ExperiencePattern} {patterns others : List ExperiencePattern}
  {experience : ExperienceVersion} {records : List ExperienceSupportRecord}

section Identities

variable {sha256 : JsonValue → String}

theorem pattern_eq_iff :
    first = second ↔ first.toPatternFields = second.toPatternFields := by
  cases first
  cases second
  simp

theorem validatePattern_eq_ok {fields : PatternFields}
    (valid : validatePattern fields = .ok pattern) : pattern.toPatternFields = fields := by
  unfold validatePattern at valid
  split at valid
  · split at valid
    · cases valid
      rfl
    · cases valid
  · cases valid

theorem merge_eq_ok (merged : merge sha256 patterns = .ok pattern) :
    ∃ first rest, patterns = first :: rest ∧
      (∀ other ∈ patterns, other.taskSignature = first.taskSignature) ∧
      pattern.toPatternFields = mergedFields sha256 first patterns := by
  cases patterns with
  | nil => cases merged
  | cons first rest =>
      rw [merge] at merged
      by_cases same : ∀ other ∈ rest, other.taskSignature = first.taskSignature
      · rw [if_pos same] at merged
        exact ⟨first, rest, rfl, forall_mem_cons.2 ⟨rfl, same⟩,
          validatePattern_eq_ok merged⟩
      · rw [if_neg same] at merged
        cases merged

theorem patternIdOf_eq_iff {payloads : List JsonValue}
    (distinguishes : Distinguishes sha256 payloads) {first second : JsonValue}
    (here : first ∈ payloads) (there : second ∈ payloads) :
    patternIdOf sha256 first = patternIdOf sha256 second ↔ first = second :=
  (String.append_right_inj _).trans (distinguishes.eq_iff here there)

/-- An extraction hashes all that it puts into the pattern. -/
theorem extractedFields_eq {other : ExperienceVersion} {others : List ExperienceSupportRecord}
    (condition : sha256 (conditionPayload experience) = sha256 (conditionPayload other) →
      conditionPayload experience = conditionPayload other)
    (same : patternPayload sha256 experience records = patternPayload sha256 other others) :
    extractedFields sha256 experience records = extractedFields sha256 other others := by
  have listed := same
  rw [patternPayload, patternPayload] at listed
  simp only [object.injEq, cons.injEq, mk.injEq, true_and, and_true,
    string.injEq] at listed
  obtain ⟨preferences, signature, counterexamples, -, failures, fallbacks, actions, stops,
    supports⟩ := listed
  have conditions := condition signature
  rw [conditionPayload, conditionPayload] at conditions
  simp only [object.injEq, cons.injEq, mk.injEq, true_and, and_true,
    string.injEq] at conditions
  obtain ⟨-, -, task, -⟩ := conditions
  unfold extractedFields
  rw [same, signature, task, texts_injective preferences, texts_injective counterexamples,
    texts_injective failures, texts_injective fallbacks, texts_injective actions,
    texts_injective stops, texts_injective supports]

/-- A merge hashes which patterns it merges. -/
theorem mergePayload_eq_iff (here : first ∈ patterns) (there : second ∈ others)
    (tasks : ∀ other ∈ patterns, other.taskSignature = first.taskSignature)
    (tasksToo : ∀ other ∈ others, other.taskSignature = second.taskSignature) :
    mergePayload first patterns = mergePayload second others ↔ SameMerge patterns others := by
  constructor
  · intro same
    simp only [mergePayload, mergedConditions, object.injEq, cons.injEq,
      mk.injEq, true_and, and_true, string.injEq] at same
    obtain ⟨conditions, identities, task⟩ := same
    refine ⟨fun pattern listed other listedToo => ?_, fun condition => ?_, ?_⟩
    · rw [tasks _ listed, tasksToo _ listedToo, task]
    · rw [← mem_sortedSet, texts_injective conditions, mem_sortedSet]
    · refine (perm_insertionSort (· ≤ ·) _).symm.trans ?_
      rw [texts_injective identities]
      exact perm_insertionSort _ _
  · intro same
    have conditions := sortedSet_eq_of_mem_iff same.conditions
    have identities : (patterns.map (·.patternId)).insertionSort (· ≤ ·) =
        (others.map (·.patternId)).insertionSort (· ≤ ·) :=
      insertionSort_eq_of_perm same.identities fun _ _ _ _ below above => le_antisymm below above
    rw [mergePayload, mergePayload, mergedConditions, mergedConditions, conditions, identities,
      same.tasks first here second there]

/-- Of merges of the same patterns, the fields are the same when the lists are. -/
theorem mergedFields_eq_iff (same : mergePayload first patterns = mergePayload second others) :
    mergedFields sha256 first patterns = mergedFields sha256 second others ↔
      ∀ list ∈ joinedLists,
        SameFirsts (nonblank (patterns.flatMap list)) (nonblank (others.flatMap list)) := by
  have parts := same
  rw [mergePayload, mergePayload] at parts
  simp only [object.injEq, cons.injEq, mk.injEq, true_and, and_true,
    string.injEq] at parts
  obtain ⟨conditions, -, task⟩ := parts
  have joined (list : ExperiencePattern → List String) :
      SameFirsts (nonblank (patterns.flatMap list)) (nonblank (others.flatMap list)) ↔
        mergeLists (patterns.map list) = mergeLists (others.map list) := by
    rw [← firsts_eq_iff, List.flatMap_def, List.flatMap_def]
    rfl
  simp only [joined]
  unfold mergedFields
  rw [same, conditions, task, PatternFields.mk.injEq]
  simp only [true_and, joinedLists, forall_mem_cons, not_mem_nil, IsEmpty.forall_iff,
    implies_true, and_true]

/-- Extractions hash an experience version, merges do not. -/
theorem patternPayload_ne_mergePayload :
    patternPayload sha256 experience records ≠ mergePayload first patterns := by
  rw [patternPayload, mergePayload]
  intro same
  simp only [object.injEq, cons.injEq, mk.injEq] at same
  exact absurd same.1.1 (by decide)

/-- Two patterns of one identity are the same pattern, except two merges of the same patterns
that meet an entry in another order. -/
theorem pattern_identity_iff {first second : PatternSource} {other : ExperiencePattern}
    (produced : first.produce sha256 = .ok pattern)
    (producedToo : second.produce sha256 = .ok other)
    (distinguishes : Distinguishes sha256 (first.payloads sha256 ++ second.payloads sha256)) :
    (pattern.patternId = other.patternId → pattern = other) ↔ SameOrder first second := by
  rw [pattern_eq_iff]
  cases first with
  | extracted experience records =>
      have fields := validatePattern_eq_ok produced
      cases second with
      | extracted otherExperience otherRecords =>
          have fieldsToo := validatePattern_eq_ok producedToo
          rw [fields, fieldsToo]
          refine iff_of_true (fun same => extractedFields_eq (fun alike => ?_) ?_) trivial
          · exact distinguishes _ (.head _) _ (.tail _ (.tail _ (.head _))) (congrArg short alike)
          · exact (patternIdOf_eq_iff distinguishes (.tail _ (.head _))
              (.tail _ (.tail _ (.tail _ (.head _))))).1 same
      | merged others =>
          -- the two kinds of payload have different fields, so the identities differ
          obtain ⟨head, rest, rfl, -, fieldsToo⟩ := merge_eq_ok producedToo
          rw [fields, fieldsToo]
          refine iff_of_true (fun same => ?_) trivial
          exact absurd ((patternIdOf_eq_iff distinguishes (.tail _ (.head _))
            (.tail _ (.tail _ (.head _)))).1 same) patternPayload_ne_mergePayload
  | merged patterns =>
      obtain ⟨head, rest, rfl, tasks, fields⟩ := merge_eq_ok produced
      cases second with
      | extracted otherExperience otherRecords =>
          have fieldsToo := validatePattern_eq_ok producedToo
          rw [fields, fieldsToo]
          refine iff_of_true (fun same => ?_) trivial
          exact absurd ((patternIdOf_eq_iff distinguishes (.head _)
            (.tail _ (.tail _ (.head _)))).1 same).symm patternPayload_ne_mergePayload
      | merged others =>
          obtain ⟨headToo, restToo, rfl, tasksToo, fieldsToo⟩ := merge_eq_ok producedToo
          have payload := mergePayload_eq_iff mem_cons_self mem_cons_self tasks tasksToo
          have identity : pattern.patternId = other.patternId ↔
              SameMerge (head :: rest) (headToo :: restToo) := by
            rw [fields, fieldsToo, ← payload]
            exact patternIdOf_eq_iff distinguishes (.head _) (.tail _ (.head _))
          rw [identity, fields, fieldsToo]
          exact forall_congr' fun same => mergedFields_eq_iff (payload.2 same)

end Identities

end SecFusion.Experience
