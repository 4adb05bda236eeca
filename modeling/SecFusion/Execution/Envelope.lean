import SecFusion.Raised
import SecFusion.Foundations.Json
import SecFusion.Foundations.Table
import SecFusion.Foundations.Text

/-!
# Execution envelopes

The model of `packages/task_runtime/contracts/execution.py` and of the two operations of
`ExecutionRunService` that the enforcement points use.  An envelope is stored once under
its identity and never rewritten.  Instants are counted in microseconds.
-/

namespace SecFusion.Execution

open Foundations

/-! ## Contracts -/

inductive ExecutionProfile where
  | direct
  | retrieve
  | verify
  | investigate
  | watch
  deriving DecidableEq

/-- The value of the enumeration member. -/
def ExecutionProfile.value : ExecutionProfile → String
  | .direct => "DIRECT"
  | .retrieve => "RETRIEVE"
  | .verify => "VERIFY"
  | .investigate => "INVESTIGATE"
  | .watch => "WATCH"

/-- `ExecutionEnvelope`, with what its validator establishes. -/
structure ExecutionEnvelope where
  executionId : String
  parentExecutionId : Option String := none
  (taskContractId taskRunId : String)
  caseId : Option String := none
  roleRevision : String
  contextManifestRevision : ℕ
  executionProfile : ExecutionProfile
  capabilityScope : List String := []
  deadlineAt : ℤ
  (budgetRef policyRevision : String)
  identityScope : List String := []
  (networkPolicy sideEffectPolicy sandboxProfileRevision : String)
  traceContext : JsonObject := []
  manifest_pos : contextManifestRevision ≠ 0
  named : ∀ text ∈ [executionId, taskContractId, taskRunId, roleRevision, budgetRef,
    policyRevision, networkPolicy, sideEffectPolicy, sandboxProfileRevision],
    isBlank text = false
  deriving DecidableEq

/-- The names under which the validator refuses the texts of an envelope, in its order. -/
def envelopeLabels : List String :=
  ["execution_id", "task_contract_id", "task_run_id", "role_revision", "budget_ref",
    "policy_revision", "network_policy", "side_effect_policy", "sandbox_profile_revision"]

/-- The error of the validator on an envelope with these texts, of which one is blank. -/
def blankEnvelopeText (texts : List String) : Raised :=
  let label := (((texts.zip envelopeLabels).find? fun text => isBlank text.1).map
    Prod.snd).getD ""
  .valueError ("ExecutionEnvelope " ++ label ++ " cannot be empty")

/-- `(later - earlier).total_seconds()`. -/
def totalSeconds (later earlier : ℤ) : ℚ := (later - earlier : ℤ) / 1000000

/-- `bounded_timeout_seconds`. -/
def boundedTimeoutSeconds (envelope : ExecutionEnvelope) (now : ℤ) (actionTimeoutSeconds : ℚ) :
    ℚ :=
  let remaining := totalSeconds envelope.deadlineAt now
  if remaining ≤ 0 then 0 else min actionTimeoutSeconds remaining

variable {envelope : ExecutionEnvelope} {executionId : String}

/-- A timeout that leaves any time ends before the deadline. -/
theorem le_remaining_of_boundedTimeout {now : ℤ} {action timeout : ℚ} (positive : 0 < timeout)
    (bounded : timeout ≤ boundedTimeoutSeconds envelope now action) :
    now < envelope.deadlineAt ∧ timeout ≤ totalSeconds envelope.deadlineAt now := by
  unfold boundedTimeoutSeconds at bounded
  dsimp only at bounded
  split at bounded
  next => linarith
  next left =>
    refine ⟨?_, bounded.trans (min_le_right _ _)⟩
    have remains := not_le.1 left
    unfold totalSeconds at remains
    by_contra late
    have passed : ((envelope.deadlineAt - now : ℤ) : ℚ) ≤ 0 := by
      exact_mod_cast sub_nonpos.2 (not_lt.1 late)
    linarith [div_nonpos_of_nonpos_of_nonneg passed (by norm_num : (0 : ℚ) ≤ 1000000)]

/-! ## Storage -/

/-- One row of `execution_runs`. -/
structure ExecutionRunModel where
  executionId : String
  parentExecutionId : Option String
  taskRunId : String
  envelopeJson : ExecutionEnvelope

abbrev ExecutionRuns := Table ExecutionRunModel String (·.executionId)

def ExecutionRunModel.ofEnvelope (envelope : ExecutionEnvelope) : ExecutionRunModel where
  executionId := envelope.executionId
  parentExecutionId := envelope.parentExecutionId
  taskRunId := envelope.taskRunId
  envelopeJson := envelope

/-- `ExecutionRunService.create`. -/
def createExecution (runs : ExecutionRuns) (envelope : ExecutionEnvelope) :
    Except Raised (ExecutionEnvelope × ExecutionRuns) :=
  match runs.get? envelope.executionId with
  | some existing => do
      require (existing.envelopeJson = envelope)
        (.valueError "ExecutionEnvelope identity is immutable")
      return (existing.envelopeJson, runs)
  | none => do
      require (∀ parent ∈ envelope.parentExecutionId, (runs.get? parent).isSome)
        (.lookupError ("parent execution not found: " ++ envelope.parentExecutionId.getD ""))
      let next ← fetch (runs.insert? (.ofEnvelope envelope))
        (.integrityError "execution_runs_pkey")
      return (envelope, next)

/-- `ExecutionRunService.get`. -/
def getExecution (runs : ExecutionRuns) (executionId : String) :
    Except Raised ExecutionEnvelope := do
  let model ← fetch (runs.get? executionId)
    (.lookupError ("execution run not found: " ++ executionId))
  return model.envelopeJson

variable {runs : ExecutionRuns}

theorem getExecution_eq_ok : getExecution runs executionId = .ok envelope ↔
      ∃ model, runs.get? executionId = some model ∧ model.envelopeJson = envelope := by
  unfold getExecution
  rw [fetch_bind_eq_ok]
  simp only [pure_eq_ok]

/-- An execution is added for an envelope, or none is. -/
theorem mem_createExecution {next : ExecutionRuns} {answer : ExecutionEnvelope}
    (created : createExecution runs envelope = .ok (answer, next)) {model : ExecutionRunModel}
    (member : model ∈ next.rows) : model ∈ runs.rows ∨ model.envelopeJson = envelope := by
  unfold createExecution at created
  split at created
  next =>
    obtain ⟨-, ok⟩ := require_bind_eq_ok.1 created
    cases ok
    exact .inl member
  next =>
    obtain ⟨-, inserts⟩ := require_bind_eq_ok.1 created
    obtain ⟨table, inserted, ok⟩ := fetch_bind_eq_ok.1 inserts
    cases ok
    rw [(insert?_eq_some inserted).1, mem_append, mem_singleton] at member
    refine member.imp_right ?_
    rintro rfl
    rfl

/-- A stored envelope stays stored. -/
theorem get?_createExecution {next : ExecutionRuns} {answer : ExecutionEnvelope}
    (created : createExecution runs envelope = .ok (answer, next)) {model : ExecutionRunModel}
    (found : runs.get? executionId = some model) :
    next.get? executionId = some model := by
  unfold createExecution at created
  cases existing : runs.get? envelope.executionId with
  | some row =>
      rw [existing] at created
      obtain ⟨-, ok⟩ := require_bind_eq_ok.1 created
      cases pure_eq_ok.1 ok
      exact found
  | none =>
      rw [existing] at created
      obtain ⟨-, inserts⟩ := require_bind_eq_ok.1 created
      obtain ⟨table, inserted, ok⟩ := fetch_bind_eq_ok.1 inserts
      cases pure_eq_ok.1 ok
      rw [get?_insert? inserted, if_neg, found]
      rintro rfl
      have same : (ExecutionRunModel.ofEnvelope envelope).executionId = envelope.executionId := rfl
      rw [same, existing] at found
      cases found

end SecFusion.Execution
