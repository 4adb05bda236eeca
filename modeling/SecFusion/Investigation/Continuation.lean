import SecFusion.Investigation.StateService
import SecFusion.TaskRuntime.Storage

/-!
# Requests for more evidence

The model of `packages/investigation/state/continuation.py`: a request of the decision
planner for evidence that is missing, and the gate that opens a need for it.  The
identifier of the need is a hash of what the request asks for, so that two requests for
the same evidence open one need; `sha256` is the hexadecimal digest of the canonical
encoding of a payload.
-/

namespace SecFusion.Investigation

open Foundations Intelligence TaskRuntime

/-- `ContinuationRequest`, with what its fields and `validate_request` establish. -/
structure ContinuationRequest where
  (requestId caseId : String)
  baseCaseRevision : ℕ
  (propositionOrQuestion purpose : String)
  targetObjects : List String := []
  evidenceContract : EvidenceNeedContract := {}
  preferredSourceRoles : List String := []
  freshnessRequirement : JsonObject := []
  priority : ℤ := 50
  reason : String
  purpose_fits : purpose.length ≤ 128
  priority_bounds : 0 ≤ priority ∧ priority ≤ 100
  given : ∀ text ∈ [requestId, caseId, propositionOrQuestion, purpose, reason],
    isBlank text = false
  targets_distinct : targetObjects.Nodup

def ProposedState.value : ProposedState → String
  | .confirmed => "confirmed"
  | .tentative => "tentative"
  | .conflict => "conflict"
  | .unknown => "unknown"
  | .hypothesis => "hypothesis"

/-- `evidence_contract.model_dump(mode="json")`. -/
def EvidenceNeedContract.dump (contract : EvidenceNeedContract) : JsonValue :=
  .object [
    ("accepted_states", .array (contract.acceptedStates.map fun state => .string state.value)),
    ("min_independent_sources", .int contract.minIndependentSources),
    ("require_evidence", .bool contract.requireEvidence),
    ("required_source_roles", .array (contract.requiredSourceRoles.map .string))]

/-- `" ".join(text.split())`. -/
def joinWords (text : String) : String :=
  intercalate " " (((text.toList.splitOnP isSpace).filter (· ≠ [])).map ofList)

/-- What `continuation_need_id` hashes. -/
def continuationPayload (request : ContinuationRequest) : JsonObject :=
  [ ("case_id", .string request.caseId), ("evidence_contract", request.evidenceContract.dump),
    ("freshness_requirement", .object request.freshnessRequirement),
    ("preferred_source_roles",
      .array ((sortedSet request.preferredSourceRoles).map .string)),
    ("proposition_or_question", .string (joinWords request.propositionOrQuestion)),
    ("purpose", .string (strip request.purpose)),
    ("target_objects", .array ((request.targetObjects.insertionSort (· ≤ ·)).map .string)) ]

/-- `continuation_need_id`. -/
def continuationNeedId (sha256 : JsonObject → String) (request : ContinuationRequest) : String :=
  stableId ("continuation-need:" ++ sha256 (continuationPayload request))

/-- The need that the gate opens for a request. -/
def continuationNeed (sha256 : JsonObject → String) (request : ContinuationRequest) :
    OpenEvidenceNeed where
  caseId := request.caseId
  baseCaseRevision := request.baseCaseRevision
  needId := continuationNeedId sha256 request
  propositionOrQuestion := request.propositionOrQuestion
  purpose := request.purpose
  targetObjects := request.targetObjects
  evidenceContract := request.evidenceContract
  preferredSourceRoles := request.preferredSourceRoles
  freshnessRequirement := request.freshnessRequirement
  priority := request.priority
  writer := "M4ContinuationGate"
  reasonCode := "m6_continuation"

/-- `ContinuationGate.accept`, with the store it leaves: the need is refused before
anything is written of it. -/
def acceptContinuation (sha256 : JsonObject → String) (cases : CaseStore)
    (knowledge : KnowledgeStore) (request : ContinuationRequest) (eventIds : EventIds) (now : ℤ) :
    Except Raised EvidenceNeedOpenResult × CaseStore :=
  match getState cases request.caseId now with
  | .error raised => (.error raised, cases)
  | .ok (state, loaded) =>
      if request.targetObjects ⊆ state.targets then
        match openEvidenceNeed loaded knowledge (continuationNeed sha256 request) eventIds now with
        | .error raised => (.error raised, loaded)
        | .ok (result, next) => (.ok result, next)
      else
        (.error (.valueError "ContinuationRequest target_objects escape Investigation Case"),
          loaded)

end SecFusion.Investigation
