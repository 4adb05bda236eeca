import SecFusion.Experience.Compressor
import SecFusion.Reasoning.Identities
import SecFusion.TaskRuntime.Admission

/-!
# Identities and contents

Decisions, merged patterns and contracts are named by digests of payloads, and each is made of
something that its payload leaves out: the sources of the citations, the order in which the
patterns were given, the binding context.  One digest stands for `sha256` throughout.
-/

namespace SecFusion

open Foundations

section Digest

variable (sha256 : JsonValue → String)

def objectDigest (fields : JsonObject) : String := sha256 (.object fields)

/-- What is hashed for the identities of some decisions. -/
def draftPayloads (decisions : List (Reasoning.Decided (objectDigest sha256) × ℤ)) :
    List JsonValue :=
  decisions.map fun entry => .object entry.1.draft.payload

theorem distinguishes_drafts {decisions : List (Reasoning.Decided (objectDigest sha256) × ℤ)}
    (distinguishes : Distinguishes sha256 (draftPayloads sha256 decisions)) :
    Distinguishes (objectDigest sha256) (decisions.map (·.1.draft.payload)) := by
  intro first firstMember second secondMember same
  obtain ⟨earlier, here, rfl⟩ := mem_map.1 firstMember
  obtain ⟨later, there, rfl⟩ := mem_map.1 secondMember
  exact JsonValue.object.inj (distinguishes _ (mem_map_of_mem here) _
    (mem_map_of_mem there) same)

end Digest

/-! ## One identity, two contents -/

/-- A digest that tells objects apart by the name of their first field. -/
def firstField (value : JsonValue) : String :=
  ((value.fields?.bind List.head?).map (·.1)).getD "none"

section Reasoning

open Reasoning

/-- A decision on the advisory, as read at the given place of a source. -/
def readAt (place : ℤ) : Decided (objectDigest firstField) where
  state := advisoryState
  draft := answerDraft [advisoryFact]
  sources := [⟨"evidence:advisory", some "source:nvd", [("page", .int place)]⟩]
  result := resultOf (objectDigest firstField) (answerDraft [advisoryFact])
    [⟨0, "evidence:advisory", some "source:nvd", [("page", .int place)]⟩]
  decided := rfl

end Reasoning

section Experience

open Experience

def fragmentPattern (id fragment : String) : ExperiencePattern where
  patternId := id
  taskSignature := "triage"
  conditionSignature := "any"
  reusableProcedureFragments := [fragment]
  supportRefs := ["experience:1"]
  task_signed := by decide
  condition_signed := by decide
  provenance := by simp

def twoPatterns (fragment other : String) : List ExperiencePattern :=
  [fragmentPattern "pattern:1" fragment, fragmentPattern "pattern:2" other]

/-- What a merge of the two makes, with the fragments it keeps. -/
def mergedPattern (fragments : List String) : ExperiencePattern where
  patternId := "experience-pattern:conditions"
  taskSignature := "triage"
  conditionSignature := "none"
  reusableProcedureFragments := fragments
  supportRefs := ["experience:1"]
  task_signed := by decide
  condition_signed := by decide
  provenance := by simp

end Experience

section Admission

open TaskRuntime TaskRuntime.Admission

theorem lookup_delegates_nothing : (default : DelegationCeiling).allowed = true →
    effectWithinCeiling (default : DelegationCeiling).childEffectCeiling .readOnly = true := nofun

/-- A compiler that reads the field to look up from the binding context. -/
def lookupCompiler : TaskContractCompiler where
  taskKind := .lookup
  compilerRevision := "lookup-v1"
  compile intent taskContractId contractRevision principal onBehalfOf policyRevision context :=
    if valid : 1 ≤ contractRevision ∧ isBlank principal ≠ true ∧
        isBlank policyRevision ≠ true then
      .ok {
        taskContractId, contractRevision, principal, onBehalfOf, policyRevision
        taskKind := .lookup
        targetResources := intent.candidateTargets
        desiredState :=
          [("field", (JsonObject.get? context "field").getD (.string "severity"))]
        effectCeiling := .readOnly
        completionPredicate := [("type", .string "field_resolved")]
        revision_pos := valid.1
        principal_nonblank := valid.2.1
        policy_nonblank := valid.2.2
        desired_nonempty := nofun
        delegated_effect := lookup_delegates_nothing }
    else .error (.valueError "TaskContract principal cannot be empty")

def lookupService : TaskContractService where
  compilers := [lookupCompiler]
  one_each := by decide

/-- A request to look up what its binding context names. -/
def lookupRequest (context : JsonObject) : TaskAdmissionRequest where
  intent := { rawRequest := some "What is the score?", candidateTaskKind := some .lookup }
  principal := "user:1"
  policyRevision := "policy-v1"
  bindingContext := context
  revision_pos := Nat.one_pos

def lookupContract (field : String) : TaskContract where
  taskContractId := contractIdOf firstField (lookupRequest [("field", .string field)]) "lookup-v1"
  contractRevision := 1
  principal := "user:1"
  taskKind := .lookup
  desiredState := [("field", .string field)]
  effectCeiling := .readOnly
  completionPredicate := [("type", .string "field_resolved")]
  policyRevision := "policy-v1"
  revision_pos := Nat.one_pos
  desired_nonempty := nofun
  policy_nonblank := Bool.false_ne_true
  delegated_effect := lookup_delegates_nothing

def permit : Authorize := fun _ _ _ => .ok { allowed := true, authorization := "permit" }

theorem lookup_compiled (field : String) :
    lookupCompiler.compileRequest firstField (lookupRequest [("field", .string field)])
      [("field", .string field)] = .ok (lookupContract field) := by
  have valid : 1 ≤ 1 ∧ isBlank "user:1" ≠ true ∧ isBlank "policy-v1" ≠ true := by decide
  exact (dif_pos valid).trans (by simp [lookupContract, lookupRequest, lookupCompiler, JsonObject.get?])

theorem lookup_valid (field : String) :
    validateCompiledContract (lookupRequest [("field", .string field)]) .lookup
      (lookupContract field) (contractIdOf firstField (lookupRequest [("field", .string field)])
        lookupCompiler.compilerRevision) = .ok () := by
  simp [validateCompiledContract, lookupContract, lookupRequest, lookupCompiler, require]

/-- The admission of a request to look the field up. -/
def lookupAdmission (field : String) : Admitted firstField lookupService where
  request := lookupRequest [("field", .string field)]
  authorize := permit
  result := {
    intentRef := intentRefOf firstField (lookupRequest [("field", .string field)]).intent
    contract := lookupContract field
    compilerRevision := "lookup-v1"
    policyDecisionRef := none
    policyAuthorization := "permit"
    replayKey := "task-admission:" ++ short "compiler_revision" }
  unnamed := rfl
  admitted := by
    change ((lookupCompiler.compileRequest firstField (lookupRequest [("field", .string field)])
      [("field", .string field)]).mapError AdmissionError.raised >>= _) = _
    rw [lookup_compiled]
    change ((validateCompiledContract _ _ _ _).mapError AdmissionError.raised >>= _) = _
    rw [lookup_valid]
    rfl

end Admission

/-- Two readings of the advisory. -/
def readings (place other : ℤ) : List (Reasoning.Decided (objectDigest firstField) × ℤ) :=
  [(readAt place, 0), (readAt other, 1)]

/-- Two merges of two patterns, the second one the other way round. -/
def mergeOf (fragment other : String) : Experience.PatternSource :=
  .merged (twoPatterns fragment other)

def reverseMergeOf (fragment other : String) : Experience.PatternSource :=
  .merged (twoPatterns fragment other).reverse

/-- A merge of the two patterns hashes the same, the other way round. -/
theorem payloads_reverseMergeOf (fragment other : String) :
    (reverseMergeOf fragment other).payloads firstField =
      (mergeOf fragment other).payloads firstField := by
  have here : fragmentPattern "pattern:1" fragment ∈ twoPatterns fragment other := .head _
  have there : fragmentPattern "pattern:2" other ∈ (twoPatterns fragment other).reverse := .head _
  have perm := List.reverse_perm (twoPatterns fragment other)
  refine congrArg (fun payload => [payload]) ((Experience.mergePayload_eq_iff there here
    (by simp [twoPatterns, fragmentPattern]) (by simp [twoPatterns, fragmentPattern])).2
    ⟨by simp [twoPatterns, fragmentPattern], fun condition => ?_, perm.map _⟩)
  exact (perm.map _).mem_iff

/-- What is hashed for two readings, the two merges and two lookups. -/
def hashedPayloads (place place' : ℤ) (fragment fragment' field field' : String) :
    List JsonValue :=
  draftPayloads firstField (readings place place') ++
    ((mergeOf fragment fragment').payloads firstField ++
      (reverseMergeOf fragment fragment').payloads firstField) ++
    ((lookupAdmission field).payloads ++ (lookupAdmission field').payloads)

theorem firstField_distinguishes (place place' : ℤ) (fragment fragment' field field' : String) :
    Distinguishes firstField (hashedPayloads place place' fragment fragment' field field') := by
  let draft : JsonValue := .object (readAt 0).draft.payload
  let merge := Experience.mergePayload (fragmentPattern "pattern:1" "") (twoPatterns "" "")
  let intent := (lookupRequest []).intent.dump
  let contract := TaskRuntime.Admission.contractPayload firstField (lookupRequest []) "lookup-v1"
  have apart : Distinguishes firstField [draft, merge, intent, contract] :=
    .of_nodup (by decide)
  have drafts : draftPayloads firstField (readings place place') = [draft, draft] := rfl
  have merges : (mergeOf fragment fragment').payloads firstField = [merge] := rfl
  have requests (field : String) : (lookupAdmission field).payloads = [intent, contract] := rfl
  rw [hashedPayloads, payloads_reverseMergeOf, drafts, merges, requests, requests]
  refine apart.mono fun payload => ?_
  simp only [mem_append, mem_cons, not_mem_nil]
  tauto

end SecFusion
