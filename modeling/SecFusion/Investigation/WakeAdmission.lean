import SecFusion.Budget.Ledger
import SecFusion.Execution.Envelope
import SecFusion.Investigation.Watch
import SecFusion.Policy.Engine

/-!
# Admission of a wake

The model of `RuntimeWatchWakeAdmission`, the admission port of the worker: it asks the
policy whether a watch may be resumed, and opens a budget account and an execution for the
run if it may.
-/

namespace SecFusion.Investigation

open Foundations Execution Policy TaskRuntime

/-- `obligations_satisfied`. -/
def obligationsSatisfied (decision : PolicyDecision) (fulfilledObligationKinds : List String) :
    Bool :=
  decision.authorization = .permit &&
    decision.obligations.all fun item => item.kind ∈ fulfilledObligationKinds

/-- `RuntimeWatchWakeAdmission`, with what its constructor establishes. -/
structure RuntimeWatchWakeAdmission where
  policy : StaticPolicyEngine
  episodeTimeoutSeconds : ℕ := 300
  fulfilledObligationKinds : List String := []
  /-- The head of the hash of a request and its decision. -/
  digest : PolicyRequest → PolicyDecision → String
  timeout_pos : 1 ≤ episodeTimeoutSeconds := by decide

/-- The tables in which an admission opens its account and its execution. -/
structure AdmissionStore where
  ledger : Budget.Ledger
  runs : ExecutionRuns

variable (admission : RuntimeWatchWakeAdmission) (request : AdmissionRequest)

/-- The request that a wake puts to the policy. -/
def resumeRequest : PolicyRequest where
  decisionPoint := .watchResume
  principal := request.contract.principal
  action := "resume_watch"
  resource := "case:" ++ request.caseId
  context := [("case_id", .string request.caseId),
    ("task_contract_id", .string request.contract.taskContractId),
    ("task_run_id", .string request.runId), ("template_run_id", .string request.templateRunId),
    ("trigger_ref", .string request.triggerRef), ("world_revision", .int request.worldRevision)]
  named := by
    refine ⟨by simpa using request.contract.principal_nonblank, by decide, ?_⟩
    rw [isBlank, toList_append, List.all_append]
    rfl
  complete := rfl

/-- The text by which decisions on the wake are named. -/
def resumeDecisionRef : String :=
  admission.policy.decisionRef admission.digest (resumeRequest request)
    (admission.policy.evaluate (resumeRequest request))

/-- The answer of a wake that is not admitted. -/
def deniedWake (reason : WatchWakeDisposition) (authorization : Authorization)
    (decisionRef : Option String) : WatchWakeAdmission where
  allowed := false
  denialReason := some reason
  policyDecisionRef := decisionRef
  policyAuthorization := some authorization.value

/-- The policy check of `admit`: the answer of a wake that does not pass it. -/
def wakeDenial? : Option WatchWakeAdmission :=
  if admission.policy.policyRevision ≠ request.contract.policyRevision then
    some (deniedWake .policyIndeterminate .indeterminate none)
  else
    let decision := admission.policy.evaluate (resumeRequest request)
    let decisionRef := some (resumeDecisionRef admission request)
    if decision.authorization = .indeterminate then
      some (deniedWake .policyIndeterminate decision.authorization decisionRef)
    else if decision.authorization ≠ .permit then
      some (deniedWake .policyDenied decision.authorization decisionRef)
    else if obligationsSatisfied decision admission.fulfilledObligationKinds = false then
      some (deniedWake .policyObligationUnsatisfied decision.authorization decisionRef)
    else none

/-- The texts of the envelope of a woken run that its validator reads. -/
def wakeEnvelopeTexts (template : ExecutionEnvelope) : List String :=
  ["execution:" ++ request.runId, request.contract.taskContractId, request.runId,
    request.previousContext.roleRef, "budget:" ++ request.runId, request.contract.policyRevision,
    template.networkPolicy, template.sideEffectPolicy, template.sandboxProfileRevision]

def wakeEnvelope (template : ExecutionEnvelope) (now : ℤ) : Except Raised ExecutionEnvelope :=
  if named : ∀ text ∈ wakeEnvelopeTexts request template, isBlank text = false then
    .ok {
      executionId := "execution:" ++ request.runId
      taskContractId := request.contract.taskContractId
      taskRunId := request.runId
      caseId := some request.caseId
      roleRevision := request.previousContext.roleRef
      contextManifestRevision := 1
      executionProfile := .watch
      capabilityScope := template.capabilityScope
      deadlineAt := now + 1000000 * admission.episodeTimeoutSeconds
      budgetRef := "budget:" ++ request.runId
      policyRevision := request.contract.policyRevision
      identityScope := template.identityScope
      networkPolicy := template.networkPolicy
      sideEffectPolicy := template.sideEffectPolicy
      sandboxProfileRevision := template.sandboxProfileRevision
      traceContext := JsonObject.update template.traceContext
        [("watch_trigger_ref", .string request.triggerRef),
          ("watch_previous_run_id", .string request.templateRunId),
          ("watch_policy_decision_ref", .string (resumeDecisionRef admission request))]
      manifest_pos := Nat.one_ne_zero
      named }
  else .error (blankEnvelopeText (wakeEnvelopeTexts request template))

/-- The limits of the template's account, validated again. -/
def templateLimits (ledger : Budget.Ledger) (budgetRef : String) :
    Except Raised Budget.BudgetLimits := do
  let account ← fetch (ledger.accounts.get? budgetRef)
    (.lookupError ("budget account not found: " ++ budgetRef))
  if valid : (∀ entry ∈ account.limits.entries, isBlank entry.1 = false) ∧
      ∀ entry ∈ account.limits.entries, 0 ≤ entry.2.toRat then
    return ⟨account.limits, valid.1, valid.2⟩
  else
    let refused := account.limits.entries.find? fun entry =>
      isBlank entry.1 || decide (entry.2.toRat < 0)
    if refused.any (isBlank ·.1) then
      .error (.valueError "budget resource cannot be empty")
    else .error (.valueError "budget limit cannot be negative")

/-- `RuntimeWatchWakeAdmission.admit`. -/
def admitRuntimeWake (store : AdmissionStore) (now : ℤ) :
    Except Raised (WatchWakeAdmission × AdmissionStore) :=
  match wakeDenial? admission request with
  | some denial => .ok (denial, store)
  | none => do
      let limits ← templateLimits store.ledger request.previousContext.budgetRef
      let template ← getExecution store.runs request.templateExecutionEnvelopeRef
      let (_, ledger) ← Budget.createAccount store.ledger ("budget:" ++ request.runId) limits
        (some request.runId) none
      let envelope ← wakeEnvelope admission request template now
      let (_, runs) ← createExecution store.runs envelope
      return ({ allowed := true
                policyDecisionRef := some (resumeDecisionRef admission request)
                policyAuthorization := some Authorization.permit.value
                budgetRef := some ("budget:" ++ request.runId)
                executionEnvelopeRef := some envelope.executionId
                capabilityEnvelopeRef := some ("capability:watch:" ++ request.runId) },
        { ledger, runs })

/-! ## What wakes pass on -/

/-- What an execution may do. -/
def privileges (envelope : ExecutionEnvelope) :=
  (envelope.capabilityScope, envelope.identityScope, envelope.networkPolicy,
    envelope.sideEffectPolicy, envelope.sandboxProfileRevision)

/-- Every execution has the privileges of one that was there at the start. -/
def Inherited (start store : AdmissionStore) : Prop :=
  ∀ row ∈ store.runs.rows, ∃ earlier ∈ start.runs.rows,
    privileges row.envelopeJson = privileges earlier.envelopeJson

variable {admission request} {start store next : AdmissionStore} {now : ℤ}
  {answer : WatchWakeAdmission}

theorem Inherited.admit (inherited : Inherited start store)
    (ok : admitRuntimeWake admission request store now = .ok (answer, next)) :
    Inherited start next := by
  unfold admitRuntimeWake at ok
  split at ok
  next =>
    cases ok
    exact inherited
  next =>
    obtain ⟨limits, -, ok⟩ := bind_eq_ok.1 ok
    obtain ⟨template, read, ok⟩ := bind_eq_ok.1 ok
    obtain ⟨opened, -, ok⟩ := bind_eq_ok.1 ok
    obtain ⟨envelope, enveloped, ok⟩ := bind_eq_ok.1 ok
    obtain ⟨⟨_, runs⟩, created, ok⟩ := bind_eq_ok.1 ok
    cases ok
    intro row member
    rcases mem_createExecution created member with old | made
    · exact inherited row old
    · obtain ⟨model, found, rfl⟩ := getExecution_eq_ok.1 read
      obtain ⟨earlier, started, same⟩ := inherited model (mem_of_get? found)
      refine ⟨earlier, started, made ▸ same ▸ ?_⟩
      unfold wakeEnvelope at enveloped
      split at enveloped
      next =>
        cases enveloped
        rfl
      next => cases enveloped

/-- **Wakes pass privileges on**, from one run of a watch to the next, and never widen them. -/
theorem inherited_after (store : AdmissionStore)
    (wakes : List (RuntimeWatchWakeAdmission × AdmissionRequest × ℤ)) :
    Inherited store (run (fun wake store => admitRuntimeWake wake.1 wake.2.1 store wake.2.2) store
      wakes) :=
  run_invariant (fun _ _ _ _ inherited ok => inherited.admit ok)
    (fun row member => ⟨row, member, rfl⟩) wakes

end SecFusion.Investigation
