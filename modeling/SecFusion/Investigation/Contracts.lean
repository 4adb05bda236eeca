import SecFusion.Raised
import SecFusion.Foundations.Json
import SecFusion.Foundations.Text

/-!
# Investigation contracts

The data model of `packages/investigation/state/contracts.py`: what a patch may
propose about a case, the events of a case's log, the needs for evidence, and the
state that is read back.  What a validator refuses cannot be built: the last
fields of a structure state what its validator establishes.
-/

namespace SecFusion.Investigation

open Foundations

/-! ## Cases -/

/-- `CaseLifecycle`, and the two older values that a row may still have. -/
inductive CaseStatus where
  | created
  | active
  | waiting
  | resolved
  | closed
  | cancelled
  | opened
  | running
  deriving DecidableEq

def CaseStatus.value : CaseStatus → String
  | .created => "created"
  | .active => "active"
  | .waiting => "waiting"
  | .resolved => "resolved"
  | .closed => "closed"
  | .cancelled => "cancelled"
  | .opened => "open"
  | .running => "running"

/-- `_normalized_lifecycle`. -/
def CaseStatus.normalized : CaseStatus → CaseStatus
  | .opened | .running => .active
  | .created => .created
  | .active => .active
  | .waiting => .waiting
  | .resolved => .resolved
  | .closed => .closed
  | .cancelled => .cancelled

/-- The lifecycles in which the state of a case is immutable. -/
def CaseStatus.isImmutable : CaseStatus → Bool
  | .closed | .cancelled => true
  | .created | .active | .waiting | .resolved | .opened | .running => false

/-- What an appended event makes of the status. -/
def CaseStatus.afterEvent : CaseStatus → CaseStatus
  | .opened | .running | .created | .waiting => .active
  | .active => .active
  | .resolved => .resolved
  | .closed => .closed
  | .cancelled => .cancelled

/-! ## Patches -/

inductive ProposedState where
  | confirmed
  | tentative
  | conflict
  | unknown
  | hypothesis
  deriving DecidableEq

inductive PatchDisposition where
  | set
  | clear
  deriving DecidableEq

inductive ReasoningSemantics where
  | deterministic
  | inferred
  deriving DecidableEq

/-- `ReasoningRelation`, with what its validator establishes. -/
structure ReasoningRelation where
  relationType : String
  semantics : ReasoningSemantics
  sourceRefs : List String := []
  type_nonblank : isBlank relationType = false := by decide
  deriving DecidableEq

/-- `StatePatchOperation`, with what `validate_operation` establishes. -/
structure StatePatchOperation where
  proposition : String
  targetRef : Option String := none
  proposedState : ProposedState
  disposition : PatchDisposition := .set
  evidenceRefs : List String := []
  reasoningRelation : Option ReasoningRelation := none
  resolvesNeedId : Option String := none
  proposition_nonblank : isBlank proposition = false := by decide
  evidence_required : proposedState = .confirmed ∨ proposedState = .conflict →
    disposition = .set → evidenceRefs ≠ [] := by decide

/-- `StatePatch`, with what `validate_identity` establishes. -/
structure StatePatch where
  (patchId caseId : String)
  baseCaseRevision : ℕ
  operations : List StatePatchOperation
  producer : String
  modelPromptRevision : Option String := none
  operations_nonempty : operations ≠ [] := by decide
  patch_nonblank : isBlank patchId = false := by exact Eq.refl false
  case_nonblank : isBlank caseId = false := by exact Eq.refl false
  producer_nonblank : isBlank producer = false := by exact Eq.refl false

/-! ## Needs and decisions -/

inductive EvidenceNeedStatus where
  | open
  | resolved
  | blocked
  | abandoned
  deriving DecidableEq

structure EvidenceNeedContract where
  requireEvidence : Bool := true
  requiredSourceRoles : List String := []
  minIndependentSources : ℕ := 1
  acceptedStates : List ProposedState := [.confirmed, .conflict, .unknown]
  sources_pos : 0 < minIndependentSources := by first | exact Nat.one_pos | decide

/-- The value a JSON object has under a name. -/
def field? (object : JsonObject) (name : String) : Option JsonValue :=
  (object.find? fun field => field.1 = name).map (·.2)

/-- Python's `value == number` for a number without fraction. -/
def equalsNat (value : Option JsonValue) (number : ℕ) : Bool :=
  match value with
  | some (.int other) => other = number
  | some (.real other) => other = number
  | some (.bool true) => number = 1
  | some (.bool false) => number = 0
  | some .null | some (.string _) | some (.array _) | some (.object _) | none => false

/-- `DecisionCommit`, with what `validate_commit` establishes. -/
structure DecisionCommit where
  (decisionId caseId : String)
  baseCaseRevision : ℕ
  decision : JsonObject
  producer : String := "M6DecisionRuntime"
  decision_nonblank : isBlank decisionId = false := by decide
  case_nonblank : isBlank caseId = false := by decide
  producer_nonblank : isBlank producer = false := by decide
  same_decision : field? decision "decision_id" = some (.string decisionId) := by decide
  same_case : field? decision "case_id" = some (.string caseId) := by decide
  same_revision : equalsNat (field? decision "case_revision") baseCaseRevision = true := by decide

/-! ## Events -/

inductive CaseStateEventType where
  | factConfirmed
  | factRetracted
  | tentativeAdded
  | tentativeRemoved
  | conflictOpened
  | conflictResolved
  | unknownOpened
  | unknownResolved
  | hypothesisAdded
  | hypothesisRejected
  | evidenceNeedOpened
  | evidenceNeedResolved
  | evidenceAttached
  | decisionChanged
  | perceptionRecorded
  deriving DecidableEq

/-- `_event_type_for`. -/
def eventTypeFor (operation : StatePatchOperation) : CaseStateEventType :=
  match operation.proposedState, operation.disposition with
  | .confirmed, .set => .factConfirmed
  | .confirmed, .clear => .factRetracted
  | .tentative, .set => .tentativeAdded
  | .tentative, .clear => .tentativeRemoved
  | .conflict, .set => .conflictOpened
  | .conflict, .clear => .conflictResolved
  | .unknown, .set => .unknownOpened
  | .unknown, .clear => .unknownResolved
  | .hypothesis, .set => .hypothesisAdded
  | .hypothesis, .clear => .hypothesisRejected

/-- The payload of an event: the JSON object of those of these keys that are
present.  No reader distinguishes an absent key from `null`; an instant, written
as an ISO text, is the instant itself here. -/
structure EventPayload where
  proposedState : Option ProposedState := none
  disposition : Option PatchDisposition := none
  reasoningRelation : Option ReasoningRelation := none
  (resolvesNeedId modelPromptRevision needId : Option String := none)
  reopened : Option Bool := none
  decision : Option JsonObject := none
  perceptionEventId : Option String := none
  worldRevision : Option ℕ := none
  perceivedAt : Option ℤ := none
  causeObservationId : Option String := none
  (staleSupport revalidateRequired : Option Bool := none)
  deriving DecidableEq

/-- What `_append_event` is asked to append. -/
structure CaseEventRequest where
  eventType : CaseStateEventType
  (proposition targetRef : Option String := none)
  evidenceRefs : List String := []
  (writer reasonCode : String)
  payload : EventPayload := {}
  patchId : Option String := none
  operationIndex : Option ℕ := none
  deriving DecidableEq

/-! ## The state of a case -/

structure InvestigationStateItem where
  proposition : String
  targetRef : Option String
  evidenceRefs : List String
  (writer reasonCode : String)
  reasoningRelation : Option ReasoningRelation
  updatedRevision : ℕ
  deriving DecidableEq

/-- `InvestigationState`, without the lists that are always empty. -/
structure InvestigationState where
  caseId : String
  caseRevision : ℕ
  goal : String
  targets : List String
  (confirmed tentative conflicts unknowns hypotheses : List InvestigationStateItem)
  evidenceNeedIds : List String
  currentDecision : Option JsonObject
  lastWorldRevision : Option ℕ
  lastPerceptionAt : Option ℤ
  updatedAt : ℤ

/-! ## Replaying a log -/

inductive Bucket where
  | confirmed
  | tentative
  | conflicts
  | unknowns
  | hypotheses
  deriving DecidableEq

/-- The bucket an event of this type adds its item to. -/
def additions : CaseStateEventType → Option Bucket
  | .factConfirmed => some .confirmed
  | .tentativeAdded => some .tentative
  | .conflictOpened => some .conflicts
  | .unknownOpened => some .unknowns
  | .hypothesisAdded => some .hypotheses
  | .factRetracted | .tentativeRemoved | .conflictResolved | .unknownResolved
  | .hypothesisRejected | .evidenceNeedOpened | .evidenceNeedResolved | .evidenceAttached
  | .decisionChanged | .perceptionRecorded => none

/-- The bucket an event of this type removes its item from. -/
def removals : CaseStateEventType → Option Bucket
  | .factRetracted => some .confirmed
  | .tentativeRemoved => some .tentative
  | .conflictResolved => some .conflicts
  | .unknownResolved => some .unknowns
  | .hypothesisRejected => some .hypotheses
  | .factConfirmed | .tentativeAdded | .conflictOpened | .unknownOpened | .hypothesisAdded
  | .evidenceNeedOpened | .evidenceNeedResolved | .evidenceAttached | .decisionChanged
  | .perceptionRecorded => none

end SecFusion.Investigation
