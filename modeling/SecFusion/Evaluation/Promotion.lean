import SecFusion.Raised
import SecFusion.Foundations.Table
import SecFusion.Foundations.Text

/-!
# Promotion of skills

The model of `SkillPromotionGate` with the store of skill versions it publishes to.  Replays
are recorded on trajectories; a patch is promoted with a suite of cases and with results
that the caller hands over.  The gate compares the results with the suite, and each result
with the summary that its trajectory keeps.

Of a trajectory's `outcome_summary` only the entry `m7_replay_result` is read.
-/

namespace SecFusion.Evaluation

open Foundations

/-! ## Skills -/

inductive SkillStatus where
  | candidate
  | validated
  | active
  | superseded
  | deprecated
  deriving DecidableEq

/-- The part of `SkillManifest` that promotion reads or writes. -/
structure SkillManifest where
  skillId : String
  version : ℕ
  status : SkillStatus
  (validationRef supersedes : Option String := none)

/-- `SkillManifest.ref` -/
def SkillManifest.ref (manifest : SkillManifest) : String :=
  "skill:" ++ manifest.skillId ++ "@" ++ toString manifest.version

/-- The texts of `SkillProcedure` that are checked for portability. -/
structure SkillProcedure where
  skillId : String
  version : ℕ
  semanticInstructions : List String
  (failureGuards fallbacks stopConditions : List String := [])

structure SkillProvenance where
  skillId : String
  version : ℕ
  origin : String
  (supportingTrajectoryRefs validationCaseRefs promotionHistory : List String := [])

structure SkillVersion where
  manifest : SkillManifest
  procedure : SkillProcedure
  provenance : SkillProvenance
  procedure_identity : manifest.skillId = procedure.skillId ∧
    manifest.version = procedure.version := by decide
  provenance_identity : manifest.skillId = provenance.skillId ∧
    manifest.version = provenance.version := by decide

structure SkillPatchCandidate where
  (patchId targetSkillRef : String)
  (supportRefs counterexampleRefs : List String := [])
  proposedSkill : SkillVersion
  candidate : proposedSkill.manifest.status = .candidate := by decide
  supersedes_target : proposedSkill.manifest.supersedes = some targetSkillRef := by decide

/-- One row of `skill_versions`. -/
structure SkillVersionModel where
  skillVersionId : String
  skill : SkillVersion
  contentHash : String
  createdAt : ℤ

/-! ## Replays -/

inductive ReplayValidationKind where
  | support
  | counterexample
  | regression
  deriving DecidableEq

/-- The value of the enumeration member. -/
def ReplayValidationKind.value : ReplayValidationKind → String
  | .support => "support"
  | .counterexample => "counterexample"
  | .regression => "regression"

@[ext] structure SkillReplayCaseSpec where
  caseId : String
  checkpointId : String
  checkpointTrajectoryId : String
  sourceRef : String
  kind : ReplayValidationKind
  source_nonblank : isBlank sourceRef = false := by decide

instance : DecidableEq SkillReplayCaseSpec := fun _ _ => decidable_of_iff' _ SkillReplayCaseSpec.ext_iff

/-- The tuple by which cases and results are compared. -/
def SkillReplayCaseSpec.identity (spec : SkillReplayCaseSpec) : List String :=
  [spec.caseId, spec.checkpointId, spec.checkpointTrajectoryId, spec.sourceRef, spec.kind.value]

structure SkillPromotionSuite where
  (suiteId patchId : String)
  cases : List SkillReplayCaseSpec
  nonempty : cases ≠ [] := by decide
  unique : (cases.map (·.identity)).Nodup := by decide

/-- The texts of a result that its validator reads. -/
structure SkillReplayResult where
  (resultRef patchId suiteId caseId trajectoryId checkpointId checkpointTrajectoryId : String)
  sourceRef : String
  kind : ReplayValidationKind
  passed : Bool
  failureReasons : List String := []
  metrics : List (String × ℚ) := []
  replay : Bool := false
  named : ¬ ∃ text ∈ [resultRef, patchId, suiteId, caseId, trajectoryId, checkpointId,
    checkpointTrajectoryId, sourceRef], isBlank text = true := by decide
  reasons_of_failure : ¬ (passed = true ∧ failureReasons ≠ []) := by decide

/-- The tuple by which cases and results are compared. -/
def SkillReplayResult.identity (result : SkillReplayResult) : List String :=
  [result.caseId, result.checkpointId, result.checkpointTrajectoryId, result.sourceRef,
    result.kind.value]

/-- `_SkillReplaySummary` -/
structure SkillReplaySummary where
  (resultRef patchId suiteId checkpointId checkpointTrajectoryId sourceRef : String)
  kind : ReplayValidationKind
  passed : Bool
  failureReasons : List String := []
  metrics : List (String × ℚ) := []
  deriving DecidableEq

/-- One row of `investigation_trajectories`. -/
structure InvestigationTrajectoryModel where
  (trajectoryId caseId : String)
  status : String := "running"
  outcome : Option String := none
  m7ReplayResult : Option SkillReplaySummary := none

/-- The tables that the gate reads and writes. -/
structure PromotionStore where
  trajectories : Table InvestigationTrajectoryModel String (·.trajectoryId)
  /-- The replay checkpoints: of a trajectory, by their identity. -/
  checkpoints : List (String × String)
  skills : Table SkillVersionModel String (·.skillVersionId)

/-! ## The gate -/

structure SkillPromotionPolicy where
  minSupportCases : ℕ := 1
  (requireCounterexample requireRegression requireAllPass : Bool := true)
  support_pos : 1 ≤ minSupportCases := by decide

structure SkillPromotionDecision where
  patchId : String
  approved : Bool
  validationRef : Option String := none
  (failures replayResultRefs : List String := [])

structure SkillPromotionOutcome where
  decision : SkillPromotionDecision
  promotedSkill : Option SkillVersion := none

/-- What the digest of a validation is taken of. -/
structure ValidationPayload where
  (patchId suiteId : String)
  results : List (String × ReplayValidationKind × Bool × String × String × String)

/-- The digests that the gate and the store compute. -/
structure Digests where
  resultDigest : String → String
  validationDigest : ValidationPayload → String
  contentHash : SkillVersion → String

/-- `SkillPromotionGate` -/
structure SkillPromotionGate where
  policy : SkillPromotionPolicy := {}
  digests : Digests

variable (gate : SkillPromotionGate)

/-! ## Recording a replay -/

/-- The arguments of `record_replay_result`. -/
structure RecordCall where
  (patchId suiteId trajectoryId checkpointId checkpointTrajectoryId sourceRef : String)
  kind : ReplayValidationKind
  passed : Bool
  failureReasons : List String := []
  metrics : List (String × ℚ) := []

/-- `_result_ref`. -/
def resultRef (call : RecordCall) : String :=
  "m7-replay:" ++ ((gate.digests.resultDigest (intercalate "|"
    [call.patchId, call.suiteId, call.trajectoryId, call.checkpointId, call.sourceRef,
      call.kind.value])).take 32).toString

def replaySummary (call : RecordCall) : SkillReplaySummary where
  resultRef := resultRef gate call
  patchId := call.patchId
  suiteId := call.suiteId
  checkpointId := call.checkpointId
  checkpointTrajectoryId := call.checkpointTrajectoryId
  sourceRef := call.sourceRef
  kind := call.kind
  passed := call.passed
  failureReasons := call.failureReasons
  metrics := call.metrics

/-- The outcome of a trajectory whose replay has passed, or not. -/
def replayOutcome (passed : Bool) : String := if passed then "success" else "failure"

/-- `_result_from_summary`; the validator names the first blank text. -/
def resultFromSummary (trajectory : InvestigationTrajectoryModel) (summary : SkillReplaySummary)
    (replay : Bool) : Except Raised SkillReplayResult :=
  let texts := [summary.resultRef, summary.patchId, summary.suiteId, trajectory.caseId,
    trajectory.trajectoryId, summary.checkpointId, summary.checkpointTrajectoryId,
    summary.sourceRef]
  if named : ¬ ∃ text ∈ texts, isBlank text = true then
    if reasons : ¬ (summary.passed = true ∧ summary.failureReasons ≠ []) then
      .ok {
        resultRef := summary.resultRef
        patchId := summary.patchId
        suiteId := summary.suiteId
        caseId := trajectory.caseId
        trajectoryId := trajectory.trajectoryId
        checkpointId := summary.checkpointId
        checkpointTrajectoryId := summary.checkpointTrajectoryId
        sourceRef := summary.sourceRef
        kind := summary.kind
        passed := summary.passed
        failureReasons := summary.failureReasons
        metrics := summary.metrics
        replay
        named
        reasons_of_failure := reasons }
    else .error (.valueError "passed replay result cannot carry failure_reasons")
  else
    let labels := ["result_ref", "patch_id", "suite_id", "case_id", "trajectory_id",
      "checkpoint_id", "checkpoint_trajectory_id", "source_ref"]
    let label := (((texts.zip labels).find? fun text => isBlank text.1).map Prod.snd).getD ""
    .error (.valueError ("SkillReplayResult " ++ label ++ " cannot be empty"))

def finishedTrajectory (summary : SkillReplaySummary) (row : InvestigationTrajectoryModel) :
    InvestigationTrajectoryModel :=
  { row with
    status := "completed"
    outcome := some (replayOutcome summary.passed)
    m7ReplayResult := some summary }

theorem finishedTrajectory_id (summary : SkillReplaySummary) (row : InvestigationTrajectoryModel) :
    (finishedTrajectory summary row).trajectoryId = row.trajectoryId := rfl

/-- `SkillPromotionGate.record_replay_result`. -/
def recordReplayResult (call : RecordCall) (store : PromotionStore) :
    Except Raised (SkillReplayResult × PromotionStore) := do
  let trajectory ← fetch (store.trajectories.get? call.trajectoryId)
    (.lookupError ("trajectory not found: " ++ call.trajectoryId))
  require (¬ (call.passed = true ∧ call.failureReasons ≠ []))
    (.valueError "passed replay result cannot carry failure reasons")
  let summary := replaySummary gate call
  if trajectory.status = "completed" then do
    require (trajectory.outcome = some (replayOutcome call.passed))
      (.valueError "completed replay trajectory outcome conflicts with result")
    require (trajectory.m7ReplayResult = some summary)
      (.valueError "completed replay trajectory summary conflicts with result")
    let result ← resultFromSummary trajectory summary true
    return (result, store)
  else do
    require (trajectory.status = "running")
      (.valueError "replay result can only finish a running trajectory")
    let result ← resultFromSummary trajectory summary false
    return (result, { store with
      trajectories := store.trajectories.update call.trajectoryId (finishedTrajectory summary)
        (finishedTrajectory_id summary) })

/-! ## Evaluation -/

/-- `sorted(set(...))` of tuples. -/
def sortedTuples (tuples : List (List String)) : List (List String) :=
  tuples.dedup.insertionSort (· ≤ ·)

def specsOf (suite : SkillPromotionSuite) (kind : ReplayValidationKind) :
    List SkillReplayCaseSpec :=
  suite.cases.filter fun item => item.kind = kind

/-- The identity failures of `evaluate`. -/
def identityFailures (patch : SkillPatchCandidate) (suite : SkillPromotionSuite)
    (results : List SkillReplayResult) : List String :=
  (if suite.patchId ≠ patch.patchId then ["suite_patch_identity_mismatch"] else []) ++
  (if results = [] then ["replay_evidence_missing"] else []) ++
  (if ¬ (results.map (·.resultRef)).Nodup then ["duplicate_replay_result"] else []) ++
  (if ¬ (results.map (·.trajectoryId)).Nodup then ["duplicate_replay_trajectory"] else []) ++
  (if ∃ item ∈ results, item.patchId ≠ patch.patchId then ["replay_patch_identity_mismatch"]
    else []) ++
  (if ∃ item ∈ results, item.suiteId ≠ suite.suiteId then ["replay_suite_identity_mismatch"]
    else [])

/-- The failures of the comparison of the cases with the results, and with the patch. -/
def caseFailures (patch : SkillPatchCandidate) (suite : SkillPromotionSuite)
    (results : List SkillReplayResult) : List String :=
  let expectedCases := suite.cases.map (·.identity)
  let actualCases := results.map (·.identity)
  let supportSources := (specsOf suite .support).map (·.sourceRef)
  let counterexampleSources := (specsOf suite .counterexample).map (·.sourceRef)
  (sortedTuples (expectedCases.filter (· ∉ actualCases))).map
    (fun item => "suite_case_missing:" ++ intercalate "|" item) ++
  (sortedTuples (actualCases.filter (· ∉ expectedCases))).map
    (fun item => "suite_case_unexpected:" ++ intercalate "|" item) ++
  (sortedSet (patch.supportRefs.filter (· ∉ supportSources))).map
    ("patch_support_source_missing:" ++ ·) ++
  (sortedSet (patch.counterexampleRefs.filter (· ∉ counterexampleSources))).map
    ("patch_counterexample_source_missing:" ++ ·)

def policyFailures (policy : SkillPromotionPolicy) (suite : SkillPromotionSuite)
    (results : List SkillReplayResult) : List String :=
  let passedSupport := results.countP fun item => item.kind = .support && item.passed
  let supportSpecs := (specsOf suite .support).length
  (if passedSupport < policy.minSupportCases then
    ["support_cases_insufficient:" ++ toString passedSupport ++ "/" ++
      toString policy.minSupportCases] else []) ++
  (if policy.requireCounterexample = true ∧ specsOf suite .counterexample = [] then
    ["counterexample_case_missing"] else []) ++
  (if policy.requireRegression = true ∧ specsOf suite .regression = [] then
    ["regression_case_missing"] else []) ++
  (if supportSpecs < policy.minSupportCases then
    ["suite_support_cases_insufficient:" ++ toString supportSpecs ++ "/" ++
      toString policy.minSupportCases] else [])

def replayFailures (policy : SkillPromotionPolicy) (results : List SkillReplayResult) :
    List String :=
  if policy.requireAllPass = true then
    (results.filter (¬ ·.passed)).map fun item => "replay_failed:" ++ item.resultRef
  else []

/-- All failures of `evaluate`. -/
def evaluationFailures (patch : SkillPatchCandidate) (suite : SkillPromotionSuite)
    (results : List SkillReplayResult) : List String :=
  identityFailures patch suite results ++ caseFailures patch suite results ++
    policyFailures gate.policy suite results ++ replayFailures gate.policy results

def SkillReplayResult.payload (item : SkillReplayResult) :
    String × ReplayValidationKind × Bool × String × String × String :=
  (item.resultRef, item.kind, item.passed, item.checkpointId, item.trajectoryId, item.sourceRef)

/-- `_validation_ref`. -/
def validationRef (patch : SkillPatchCandidate) (suite : SkillPromotionSuite)
    (results : List SkillReplayResult) : String :=
  "m7-validation:" ++ ((gate.digests.validationDigest {
    patchId := patch.patchId
    suiteId := suite.suiteId
    results := (results.map (·.payload)).insertionSort fun left right => left.1 ≤ right.1
    }).take 32).toString

/-- `SkillPromotionGate.evaluate`. -/
def evaluate (patch : SkillPatchCandidate) (suite : SkillPromotionSuite)
    (results : List SkillReplayResult) : SkillPromotionDecision :=
  let failures := evaluationFailures gate patch suite results
  { patchId := patch.patchId
    approved := failures = []
    validationRef := if failures = [] then some (validationRef gate patch suite results) else none
    failures
    replayResultRefs := (results.map (·.resultRef)).insertionSort (· ≤ ·) }

/-! ## Promotion -/

/-- `_summary_from_result`. -/
def summaryFromResult (result : SkillReplayResult) : SkillReplaySummary where
  resultRef := result.resultRef
  patchId := result.patchId
  suiteId := result.suiteId
  checkpointId := result.checkpointId
  checkpointTrajectoryId := result.checkpointTrajectoryId
  sourceRef := result.sourceRef
  kind := result.kind
  passed := result.passed
  failureReasons := result.failureReasons
  metrics := result.metrics

/-- `_verify_durable_result`. -/
def verifyDurableResult (store : PromotionStore) (result : SkillReplayResult) : Option String :=
  if (result.checkpointTrajectoryId, result.checkpointId) ∉ store.checkpoints then
    some ("replay_checkpoint_missing:" ++ result.checkpointId)
  else
    match store.trajectories.get? result.trajectoryId with
    | none => some ("replay_trajectory_not_completed:" ++ result.trajectoryId)
    | some trajectory =>
        if trajectory.status ≠ "completed" then
          some ("replay_trajectory_not_completed:" ++ result.trajectoryId)
        else
          match trajectory.m7ReplayResult with
          | none => some ("replay_summary_missing:" ++ result.trajectoryId)
          | some stored =>
              if stored ≠ summaryFromResult result then
                some ("replay_summary_mismatch:" ++ result.trajectoryId)
              else none

/-- `_stable_id` of a skill version. -/
def skillVersionId (skillId : String) (version : ℕ) : String :=
  "secfusion:skill:" ++ skillId ++ "@" ++ toString version

/-- `_FORBIDDEN_IMPLEMENTATION_HINTS`. -/
def forbiddenImplementationHints : List String :=
  ["://", "curl ", "wget ", "gh api", "mcp tool", "/bin/", "docker.sock"]

/-- The forbidden hints that the texts of a procedure hold. -/
def leakedHints (procedure : SkillProcedure) : List String :=
  let texts := procedure.semanticInstructions ++ procedure.failureGuards ++ procedure.fallbacks ++
    procedure.stopConditions
  let lowered := (intercalate "\n" texts).toList.map Char.toLower
  forbiddenImplementationHints.filter fun hint => hint.toList <:+: lowered

/-- `SkillStore.publish`. -/
def publish (store : PromotionStore) (skill : SkillVersion) (now : ℤ) :
    Except Raised (SkillVersion × PromotionStore) := do
  let leaked := leakedHints skill.procedure
  require (leaked = []) (.valueError
    ("SkillProcedure must remain implementation-agnostic; forbidden hints: " ++
      intercalate "," leaked))
  let identity := skillVersionId skill.manifest.skillId skill.manifest.version
  let digest := gate.digests.contentHash skill
  match store.skills.get? identity with
  | some existing => do
      require (existing.contentHash = digest) (.valueError "SkillVersion identity is immutable")
      return (existing.skill, store)
  | none => do
      let skills ← fetch (store.skills.insert?
          { skillVersionId := identity, skill, contentHash := digest, createdAt := now })
        (.integrityError "skill_versions_pkey")
      return (skill, { store with skills })

/-- The version that a promotion publishes. -/
def promotedVersion (patch : SkillPatchCandidate) (validationRef : String)
    (results : List SkillReplayResult) : SkillVersion :=
  let candidate := patch.proposedSkill
  { manifest := { candidate.manifest with status := .active, validationRef := some validationRef }
    procedure := candidate.procedure
    provenance := { candidate.provenance with
      supportingTrajectoryRefs := sortedSet
        (candidate.provenance.supportingTrajectoryRefs ++ results.map (·.trajectoryId))
      validationCaseRefs := sortedSet (results.map fun result => "case:" ++ result.caseId)
      promotionHistory := candidate.provenance.promotionHistory ++
        ["m7_validated:" ++ validationRef, "activated_from_patch:" ++ patch.patchId] }
    procedure_identity := candidate.procedure_identity
    provenance_identity := candidate.provenance_identity }

/-- The decision of `promote`: that of `evaluate`, unless a result is not the one stored. -/
def promotionDecision (store : PromotionStore) (patch : SkillPatchCandidate)
    (suite : SkillPromotionSuite) (results : List SkillReplayResult) : SkillPromotionDecision :=
  let durableFailures := results.filterMap (verifyDurableResult store)
  let decision := evaluate gate patch suite results
  if durableFailures ≠ [] then
    { decision with
      approved := false, validationRef := none, failures := decision.failures ++ durableFailures }
  else decision

/-- `SkillPromotionGate.promote`. -/
def promote (store : PromotionStore) (patch : SkillPatchCandidate) (baseSkill : SkillVersion)
    (suite : SkillPromotionSuite) (results : List SkillReplayResult) (now : ℤ) :
    Except Raised (SkillPromotionOutcome × PromotionStore) := do
  require (baseSkill.manifest.ref = patch.targetSkillRef)
    (.valueError "Skill promotion base skill does not match patch target")
  require (patch.proposedSkill.manifest.version = baseSkill.manifest.version + 1)
    (.valueError "Skill patch must advance exactly one Skill version")
  let decision := promotionDecision gate store patch suite results
  match decision.validationRef with
  | none => return ({ decision }, store)
  | some validationRef =>
      if decision.approved = false then return ({ decision }, store)
      else do
        let (stored, next) ← publish gate store (promotedVersion patch validationRef results) now
        return ({ decision, promotedSkill := some stored }, next)

end SecFusion.Evaluation
