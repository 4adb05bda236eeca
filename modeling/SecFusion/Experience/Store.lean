import SecFusion.Raised
import SecFusion.Foundations.Json
import SecFusion.Foundations.Table
import SecFusion.Foundations.Text

/-!
# Versioned experience

The model of `packages/investigation/experience/service.py`: candidates that are
extracted from completed trajectories, the versions of an experience that accepted
candidates become, and the evaluation records that support a version.

A session keeps the rows it has loaded as objects that it changes in place; here each
change is a function on rows, applied to the row of the table and to the row the answer
is a view of.  The identities that `uuid4` draws, and the one reading of the clock, are
arguments of the calls.
-/

namespace SecFusion.Experience

open Foundations

/-! ## Rows -/

/-- The statuses a trajectory is given. -/
inductive TrajectoryStatus where
  | running
  | completed
  deriving DecidableEq

/-- What the experience store reads of `investigation_trajectories`. -/
structure InvestigationTrajectoryModel where
  trajectoryId : String
  status : TrajectoryStatus

structure ExperienceDraft where
  (name taskSignature : String)
  scope : JsonObject
  (triggerSignals applicableConditions recommendedActions evidenceExpectation : List String)
  (failureModes stopConditions fallbackActions : List String)

inductive CandidateStatus where
  | pending
  | accepted
  | rejected
  deriving DecidableEq

structure ExperienceCandidateModel where
  (candidateId sourceTrajectoryId extractionKind : String)
  draft : ExperienceDraft
  rationale : String
  status : CandidateStatus
  createdAt : ℤ
  decidedAt : Option ℤ

structure ExperienceModel where
  (experienceId name taskSignature : String)
  currentVersionId : Option String
  (createdAt updatedAt : ℤ)

/-- `EXPERIENCE_STATUSES`. -/
inductive ExperienceStatus where
  | candidate
  | validated
  | active
  | deprecated
  deriving DecidableEq

def ExperienceStatus.value : ExperienceStatus → String
  | candidate => "candidate"
  | validated => "validated"
  | active => "active"
  | deprecated => "deprecated"

structure ExperienceVersionModel where
  (experienceVersionId experienceId : String)
  version : ℕ
  status : ExperienceStatus
  scope : JsonObject
  (triggerSignals applicableConditions recommendedActions evidenceExpectation : List String)
  (failureModes stopConditions fallbackActions : List String)
  validationSummary : JsonObject
  (successCount failureCount partialCount : ℕ)
  lastValidatedAt : Option ℤ
  (supersedesVersionId sourceCandidateId : Option String)
  createdAt : ℤ
  (activatedAt deprecatedAt : Option ℤ)

/-- `EVALUATION_OUTCOMES`. -/
inductive EvaluationOutcome where
  | success
  | failure
  | inPart
  deriving DecidableEq

/-- The outcome of a text, when it is one of `EVALUATION_OUTCOMES`. -/
def EvaluationOutcome.ofValue? : String → Option EvaluationOutcome
  | "success" => some .success
  | "failure" => some .failure
  | "partial" => some .inPart
  | _ => none

structure ExperienceSupportModel where
  (supportId experienceVersionId trajectoryId : String)
  outcome : EvaluationOutcome
  evaluation : JsonObject
  evaluator : String
  createdAt : ℤ

structure ExperienceTables where
  trajectories : Table InvestigationTrajectoryModel String (·.trajectoryId)
  candidates : Table ExperienceCandidateModel String (·.candidateId)
  experiences : Table ExperienceModel String (·.experienceId)
  versions : Table ExperienceVersionModel String (·.experienceVersionId)
  supports : Table ExperienceSupportModel String (·.supportId)

def ExperienceTables.empty : ExperienceTables := ⟨.empty, .empty, .empty, .empty, .empty⟩

/-! ## Views -/

/-- `ExperienceVersion`. -/
structure ExperienceVersion where
  (experienceId experienceVersionId : String)
  version : ℕ
  (name taskSignature : String)
  status : ExperienceStatus
  scope : JsonObject
  (triggerSignals applicableConditions recommendedActions evidenceExpectation : List String)
  (failureModes stopConditions fallbackActions : List String)
  validationSummary : JsonObject
  (successCount failureCount partialCount : ℕ)
  lastValidatedAt : Option ℤ
  supersedesVersionId : Option String

/-- `_version_view`. -/
def versionView (experience : ExperienceModel) (version : ExperienceVersionModel) :
    ExperienceVersion where
  experienceId := experience.experienceId
  experienceVersionId := version.experienceVersionId
  version := version.version
  name := experience.name
  taskSignature := experience.taskSignature
  status := version.status
  scope := version.scope
  triggerSignals := version.triggerSignals
  applicableConditions := version.applicableConditions
  recommendedActions := version.recommendedActions
  evidenceExpectation := version.evidenceExpectation
  failureModes := version.failureModes
  stopConditions := version.stopConditions
  fallbackActions := version.fallbackActions
  validationSummary := version.validationSummary
  successCount := version.successCount
  failureCount := version.failureCount
  partialCount := version.partialCount
  lastValidatedAt := version.lastValidatedAt
  supersedesVersionId := version.supersedesVersionId

/-- `ExperienceCandidate`. -/
structure ExperienceCandidate where
  (candidateId sourceTrajectoryId extractionKind : String)
  draft : ExperienceDraft
  rationale : String
  status : CandidateStatus
  createdAt : ℤ

/-- `_candidate_view`. -/
def candidateView (model : ExperienceCandidateModel) : ExperienceCandidate where
  candidateId := model.candidateId
  sourceTrajectoryId := model.sourceTrajectoryId
  extractionKind := model.extractionKind
  draft := model.draft
  rationale := model.rationale
  status := model.status
  createdAt := model.createdAt

/-! ## Candidates -/

/-- The extraction kinds `create_candidate` supports. -/
def extractionKinds : List String := ["procedure", "failure_pattern", "stop_condition", "fallback"]

def createCandidate (tables : ExperienceTables)
    (candidateId sourceTrajectoryId extractionKind : String) (draft : ExperienceDraft)
    (rationale : String) (now : ℤ) : Except Raised (ExperienceCandidate × ExperienceTables) := do
  let trajectory ← fetch (tables.trajectories.get? sourceTrajectoryId)
    (.lookupError ("trajectory not found: " ++ sourceTrajectoryId))
  require (trajectory.status = .completed)
    (.valueError "experience extraction requires a completed trajectory")
  require (extractionKind ∈ extractionKinds)
    (.valueError ("unsupported experience extraction kind: " ++ extractionKind))
  let model : ExperienceCandidateModel :=
    { candidateId, sourceTrajectoryId, extractionKind, draft, rationale, status := .pending,
      createdAt := now, decidedAt := none }
  let candidates ← fetch (tables.candidates.insert? model)
    (.integrityError "experience_candidates_pkey")
  return (candidateView model, { tables with candidates })

def ExperienceCandidateModel.decided (model : ExperienceCandidateModel) (status : CandidateStatus)
    (now : ℤ) : ExperienceCandidateModel :=
  { model with status, decidedAt := some now }

@[simp] theorem ExperienceCandidateModel.decided_candidateId (model : ExperienceCandidateModel)
    (status : CandidateStatus) (now : ℤ) :
    (model.decided status now).candidateId = model.candidateId := rfl

/-- `candidate.status = status`, and `decided_at`. -/
def ExperienceTables.decide (tables : ExperienceTables) (candidateId : String)
    (status : CandidateStatus) (now : ℤ) : ExperienceTables :=
  { tables with
    candidates := tables.candidates.update candidateId (·.decided status now)
      (·.decided_candidateId status now) }

def rejectCandidate (tables : ExperienceTables) (candidateId : String) (now : ℤ) :
    Except Raised (Unit × ExperienceTables) := do
  let candidate ← fetch (tables.candidates.get? candidateId)
    (.lookupError ("experience candidate not found: " ++ candidateId))
  require (candidate.status ≠ .accepted)
    (.valueError "accepted experience candidate cannot be rejected")
  return ((), tables.decide candidateId .rejected now)

/-! ## Materialising -/

/-- The largest number among the versions of an experience, and 0 without versions. -/
def ExperienceTables.maxVersion (tables : ExperienceTables) (experienceId : String) : ℕ :=
  ((tables.versions.select fun row => row.experienceId = experienceId).map (·.version)).foldl max 0

def newVersion (experienceVersionId experienceId : String) (number : ℕ)
    (supersedes : Option String) (candidateId : String) (draft : ExperienceDraft) (now : ℤ) :
    ExperienceVersionModel where
  experienceVersionId := experienceVersionId
  experienceId := experienceId
  version := number
  status := .candidate
  scope := draft.scope
  triggerSignals := draft.triggerSignals
  applicableConditions := draft.applicableConditions
  recommendedActions := draft.recommendedActions
  evidenceExpectation := draft.evidenceExpectation
  failureModes := draft.failureModes
  stopConditions := draft.stopConditions
  fallbackActions := draft.fallbackActions
  validationSummary := []
  successCount := 0
  failureCount := 0
  partialCount := 0
  lastValidatedAt := none
  supersedesVersionId := supersedes
  sourceCandidateId := some candidateId
  createdAt := now
  activatedAt := none
  deprecatedAt := none

/-- `ExperienceModel(...)` for a draft. -/
def newExperience (experienceId : String) (draft : ExperienceDraft) (now : ℤ) :
    ExperienceModel where
  experienceId := experienceId
  name := draft.name
  taskSignature := draft.taskSignature
  currentVersionId := none
  createdAt := now
  updatedAt := now

/-- An experience that takes the name of its next revision. -/
def ExperienceModel.renamed (model : ExperienceModel) (name : String) (now : ℤ) :
    ExperienceModel :=
  { model with name, updatedAt := now }

@[simp] theorem ExperienceModel.renamed_experienceId (model : ExperienceModel) (name : String)
    (now : ℤ) : (model.renamed name now).experienceId = model.experienceId := rfl

/-- The experience that a version is added to, with the version's number and what it
supersedes: a new one, or the one that is named. -/
def targetExperience (tables : ExperienceTables) (experienceId : Option String)
    (newExperienceId : String) (draft : ExperienceDraft) (now : ℤ) :
    Except Raised (ExperienceModel × ℕ × Option String × ExperienceTables) :=
  match experienceId with
  | none => do
      let experience := newExperience newExperienceId draft now
      let experiences ← fetch (tables.experiences.insert? experience)
        (.integrityError "experiences_pkey")
      return (experience, 1, none, { tables with experiences })
  | some experienceId => do
      let experience ← fetch (tables.experiences.get? experienceId)
        (.lookupError ("experience not found: " ++ experienceId))
      require (experience.taskSignature = draft.taskSignature)
        (.valueError "experience revision cannot change task_signature")
      return (experience.renamed draft.name now, tables.maxVersion experienceId + 1,
        experience.currentVersionId,
        { tables with
          experiences :=
            tables.experiences.update experienceId (·.renamed draft.name now)
              (·.renamed_experienceId draft.name now) })

/-- The part of `materialize_candidate` that adds a version. -/
def addVersion (tables : ExperienceTables) (candidate : ExperienceCandidateModel)
    (experienceId : Option String) (newExperienceId newVersionId : String) (now : ℤ) :
    Except Raised (ExperienceVersion × ExperienceTables) := do
  let (experience, number, supersedes, opened) ←
    targetExperience tables experienceId newExperienceId candidate.draft now
  let version := newVersion newVersionId experience.experienceId number supersedes
    candidate.candidateId candidate.draft now
  require (∀ other ∈ opened.versions.rows,
      (other.experienceId, other.version) ≠ (version.experienceId, version.version))
    (.integrityError "uq_experience_version_number")
  let versions ← fetch (opened.versions.insert? version)
    (.integrityError "experience_versions_pkey")
  return (versionView experience version,
    { opened.decide candidate.candidateId .accepted now with versions })

def materializeCandidate (tables : ExperienceTables) (candidateId : String)
    (experienceId : Option String) (newExperienceId newVersionId : String) (now : ℤ) :
    Except Raised (ExperienceVersion × ExperienceTables) := do
  let candidate ← fetch (tables.candidates.get? candidateId)
    (.lookupError ("experience candidate not found: " ++ candidateId))
  require (candidate.status ≠ .rejected)
    (.valueError "rejected experience candidate cannot be materialized")
  match tables.versions.rows.find? fun row => row.sourceCandidateId = some candidateId with
  | some existing => do
      let experience ← fetch (tables.experiences.get? existing.experienceId)
        (.runtimeError "experience version exists without experience")
      return (versionView experience existing, tables)
  | none => addVersion tables candidate experienceId newExperienceId newVersionId now

/-! ## Evaluations -/

/-- The evaluation records of a version. -/
def ExperienceTables.supportsOf (tables : ExperienceTables) (experienceVersionId : String) :
    List ExperienceSupportModel :=
  tables.supports.select fun row => row.experienceVersionId = experienceVersionId

/-- How many of the records have an outcome. -/
def outcomeCount (supports : List ExperienceSupportModel) (outcome : EvaluationOutcome) : ℕ :=
  supports.countP fun item => item.outcome = outcome

/-- `_recompute_validation`, on the version's row. -/
def ExperienceVersionModel.recomputed (version : ExperienceVersionModel)
    (supports : List ExperienceSupportModel) (now : ℤ) : ExperienceVersionModel :=
  { version with
    successCount := outcomeCount supports .success
    failureCount := outcomeCount supports .failure
    partialCount := outcomeCount supports .inPart
    lastValidatedAt := some now
    validationSummary :=
      (version.validationSummary.set "evaluation_count" (.int supports.length)).set "evaluators"
        (.array ((sortedSet (supports.map (·.evaluator))).map .string)) }

@[simp] theorem ExperienceVersionModel.recomputed_experienceVersionId
    (version : ExperienceVersionModel) (supports : List ExperienceSupportModel) (now : ℤ) :
    (version.recomputed supports now).experienceVersionId = version.experienceVersionId := rfl

/-- A record that is written again. -/
def ExperienceSupportModel.reevaluated (support : ExperienceSupportModel)
    (outcome : EvaluationOutcome) (evaluation : JsonObject) (evaluator : String) (now : ℤ) :
    ExperienceSupportModel :=
  { support with outcome, evaluation, evaluator, createdAt := now }

@[simp] theorem ExperienceSupportModel.reevaluated_supportId (support : ExperienceSupportModel)
    (outcome : EvaluationOutcome) (evaluation : JsonObject) (evaluator : String) (now : ℤ) :
    (support.reevaluated outcome evaluation evaluator now).supportId = support.supportId := rfl

/-- The evaluation of a version on a trajectory: the record of an earlier one is written
again. -/
def writeSupport (tables : ExperienceTables) (supportId experienceVersionId trajectoryId : String)
    (outcome : EvaluationOutcome) (evaluation : JsonObject) (evaluator : String) (now : ℤ) :
    Except Raised ExperienceTables :=
  match tables.supports.rows.find? fun row =>
      row.experienceVersionId = experienceVersionId ∧ row.trajectoryId = trajectoryId with
  | none => do
      let supports ← fetch (tables.supports.insert?
          { supportId, experienceVersionId, trajectoryId, outcome, evaluation, evaluator,
            createdAt := now })
        (.integrityError "experience_support_pkey")
      return { tables with supports }
  | some existing =>
      return { tables with
        supports := tables.supports.update existing.supportId
          (·.reevaluated outcome evaluation evaluator now)
          (·.reevaluated_supportId outcome evaluation evaluator now) }

def recordEvaluation (tables : ExperienceTables)
    (supportId experienceVersionId trajectoryId outcome : String) (evaluation : JsonObject)
    (evaluator : String) (now : ℤ) : Except Raised (ExperienceVersion × ExperienceTables) := do
  let outcome ← fetch (EvaluationOutcome.ofValue? outcome)
    (.valueError ("unsupported evaluation outcome: " ++ outcome))
  let version ← fetch (tables.versions.get? experienceVersionId)
    (.lookupError ("experience version not found: " ++ experienceVersionId))
  require ((tables.trajectories.get? trajectoryId).any (·.status = .completed))
    (.valueError "experience evaluation requires a completed trajectory")
  let evaluated ← writeSupport tables supportId experienceVersionId trajectoryId outcome
    evaluation evaluator now
  let supports := evaluated.supportsOf experienceVersionId
  let experience ← fetch (evaluated.experiences.get? version.experienceId)
    (.runtimeError "experience version exists without experience")
  return (versionView experience (version.recomputed supports now),
    { evaluated with
      versions :=
        evaluated.versions.update experienceVersionId (·.recomputed supports now)
          (·.recomputed_experienceVersionId supports now) })

/-! ## Publishing -/

/-- `_locked_version_and_experience`. -/
def lockedVersionAndExperience (tables : ExperienceTables) (experienceVersionId : String) :
    Except Raised (ExperienceVersionModel × ExperienceModel) := do
  let version ← fetch (tables.versions.get? experienceVersionId)
    (.lookupError ("experience version not found: " ++ experienceVersionId))
  let experience ← fetch (tables.experiences.get? version.experienceId)
    (.runtimeError "experience version exists without experience")
  return (version, experience)

def ExperienceVersionModel.markedValidated (version : ExperienceVersionModel)
    (validationSummary : JsonObject) (now : ℤ) : ExperienceVersionModel :=
  { version with status := .validated, validationSummary, lastValidatedAt := some now }

@[simp] theorem ExperienceVersionModel.markedValidated_experienceVersionId
    (version : ExperienceVersionModel) (validationSummary : JsonObject) (now : ℤ) :
    (version.markedValidated validationSummary now).experienceVersionId =
      version.experienceVersionId := rfl

/-- `experience.updated_at = now`. -/
def ExperienceModel.touched (model : ExperienceModel) (now : ℤ) : ExperienceModel :=
  { model with updatedAt := now }

@[simp] theorem ExperienceModel.touched_experienceId (model : ExperienceModel) (now : ℤ) :
    (model.touched now).experienceId = model.experienceId := rfl

def markValidated (tables : ExperienceTables) (experienceVersionId : String)
    (validationSummary : JsonObject) (now : ℤ) :
    Except Raised (ExperienceVersion × ExperienceTables) := do
  let (version, experience) ← lockedVersionAndExperience tables experienceVersionId
  require (version.status = .candidate ∨ version.status = .validated)
    (.valueError ("experience cannot be validated from status=" ++ version.status.value))
  require (tables.supportsOf experienceVersionId ≠ [])
    (.valueError "validation requires replay or online evaluation evidence")
  return (versionView (experience.touched now) (version.markedValidated validationSummary now),
    { tables with
      versions := tables.versions.update experienceVersionId
        (·.markedValidated validationSummary now)
        (·.markedValidated_experienceVersionId validationSummary now)
      experiences := tables.experiences.update experience.experienceId (·.touched now)
        (·.touched_experienceId now) })

/-- A version that is not to be used any more. -/
def ExperienceVersionModel.retired (version : ExperienceVersionModel) (now : ℤ) :
    ExperienceVersionModel :=
  { version with status := .deprecated, deprecatedAt := some now }

@[simp] theorem ExperienceVersionModel.retired_experienceVersionId
    (version : ExperienceVersionModel) (now : ℤ) :
    (version.retired now).experienceVersionId = version.experienceVersionId := rfl

def ExperienceVersionModel.activated (version : ExperienceVersionModel) (now : ℤ) :
    ExperienceVersionModel :=
  { version with status := .active, activatedAt := some now, deprecatedAt := none }

/-- An experience with another current version. -/
def ExperienceModel.pointed (model : ExperienceModel) (currentVersionId : Option String)
    (now : ℤ) : ExperienceModel :=
  { model with currentVersionId, updatedAt := now }

@[simp] theorem ExperienceModel.pointed_experienceId (model : ExperienceModel)
    (currentVersionId : Option String) (now : ℤ) :
    (model.pointed currentVersionId now).experienceId = model.experienceId := rfl

/-- What `activate` does to a version of the experience. -/
def ExperienceVersionModel.onActivation (experienceId experienceVersionId : String) (now : ℤ)
    (row : ExperienceVersionModel) : ExperienceVersionModel :=
  if row.experienceVersionId = experienceVersionId then row.activated now
  else if row.experienceId = experienceId ∧ row.status = .active then row.retired now
  else row

export ExperienceVersionModel (onActivation)

/-- The identity of a version stays what it is when a version is activated. -/
theorem ExperienceVersionModel.onActivation_id (experienceId experienceVersionId : String)
    (now : ℤ) (row : ExperienceVersionModel) :
    (row.onActivation experienceId experienceVersionId now).experienceVersionId =
      row.experienceVersionId := by
  unfold onActivation
  split
  · rfl
  · split <;> rfl

def activate (tables : ExperienceTables) (experienceVersionId : String) (now : ℤ) :
    Except Raised (ExperienceVersion × ExperienceTables) := do
  let (version, experience) ← lockedVersionAndExperience tables experienceVersionId
  require (version.status = .validated)
    (.valueError "only validated experience versions can become active")
  return (versionView (experience.pointed (some experienceVersionId) now) (version.activated now),
    { tables with
      versions := tables.versions.modify
        (·.onActivation experience.experienceId experienceVersionId now)
        (ExperienceVersionModel.onActivation_id _ _ _)
      experiences := tables.experiences.update experience.experienceId
        (·.pointed (some experienceVersionId) now)
        (·.pointed_experienceId (some experienceVersionId) now) })

/-- `deprecate`. -/
def deprecateVersion (tables : ExperienceTables) (experienceVersionId : String) (now : ℤ) :
    Except Raised (ExperienceVersion × ExperienceTables) := do
  let (version, experience) ← lockedVersionAndExperience tables experienceVersionId
  if version.status = .deprecated then
    return (versionView experience version, tables)
  else
    let current := if experience.currentVersionId = some experienceVersionId then none
      else experience.currentVersionId
    return (versionView (experience.pointed current now) (version.retired now),
      { tables with
        versions := tables.versions.update experienceVersionId (·.retired now)
          (·.retired_experienceVersionId now)
        experiences := tables.experiences.update experience.experienceId (·.pointed current now)
          (·.pointed_experienceId current now) })

/-! ## Calls -/

/-- A call of the store, in a transaction of its own; between the calls other services
write trajectories. -/
inductive ExperienceOp where
  | writeTrajectory (trajectory : InvestigationTrajectoryModel)
  | createCandidate (candidateId sourceTrajectoryId extractionKind : String)
      (draft : ExperienceDraft) (rationale : String) (now : ℤ)
  | rejectCandidate (candidateId : String) (now : ℤ)
  | materializeCandidate (candidateId : String) (experienceId : Option String)
      (newExperienceId newVersionId : String) (now : ℤ)
  | recordEvaluation (supportId experienceVersionId trajectoryId outcome : String)
      (evaluation : JsonObject) (evaluator : String) (now : ℤ)
  | markValidated (experienceVersionId : String) (validationSummary : JsonObject) (now : ℤ)
  | activate (experienceVersionId : String) (now : ℤ)
  | deprecateVersion (experienceVersionId : String) (now : ℤ)

inductive ExperienceAnswer where
  | done
  | candidate (view : ExperienceCandidate)
  | version (view : ExperienceVersion)

/-- `ExperienceStore`. -/
def experienceStore (op : ExperienceOp) (tables : ExperienceTables) :
    Except Raised (ExperienceAnswer × ExperienceTables) :=
  match op with
  | .writeTrajectory trajectory =>
      .ok (.done, { tables with trajectories := tables.trajectories.put trajectory })
  | .createCandidate candidateId source kind draft rationale now => do
      let (view, next) ← createCandidate tables candidateId source kind draft rationale now
      return (.candidate view, next)
  | .rejectCandidate candidateId now => do
      let (_, next) ← rejectCandidate tables candidateId now
      return (.done, next)
  | .materializeCandidate candidateId experienceId newExperienceId newVersionId now => do
      let (view, next) ←
        materializeCandidate tables candidateId experienceId newExperienceId newVersionId now
      return (.version view, next)
  | .recordEvaluation supportId versionId trajectoryId outcome evaluation evaluator now => do
      let (view, next) ←
        recordEvaluation tables supportId versionId trajectoryId outcome evaluation evaluator now
      return (.version view, next)
  | .markValidated versionId summary now => do
      let (view, next) ← markValidated tables versionId summary now
      return (.version view, next)
  | .activate versionId now => do
      let (view, next) ← activate tables versionId now
      return (.version view, next)
  | .deprecateVersion versionId now => do
      let (view, next) ← deprecateVersion tables versionId now
      return (.version view, next)

end SecFusion.Experience
