import SecFusion.Foundations.Digests
import SecFusion.TaskRuntime.Materializer

/-!
# Task admission

The model of `packages/task_runtime/admission/service.py`: an intent becomes a contract when a
compiler of its kind makes one, the contract keeps what was asked for, and the policy permits it.

A request that names no contract has one named for it, by a digest of the intent and of every
field of the request except its binding context, which the compiler reads too.
-/

namespace SecFusion.TaskRuntime.Admission

open Foundations

/-! ## Requests -/

/-- `TaskIntent`, with what `require_request_or_trigger` establishes. -/
@[ext] structure TaskIntent where
  rawRequest : Option String := none
  triggerRef : Option String := none
  parsedIdentifiers : List String := []
  candidateTaskKind : Option TaskKind := none
  candidateTargets : List String := []
  temporalExpression : Option String := none
  requestedOutput : JsonObject := []
  requestedActions : List String := []
  contextRefs : List String := []
  request_or_trigger : rawRequest.any (· ≠ "") ∨ triggerRef.any (· ≠ "") := by decide

/-- `intent.model_dump(mode="json")`. -/
def TaskIntent.dump (intent : TaskIntent) : JsonValue :=
  .object
    [("candidate_targets", dumpTexts intent.candidateTargets),
     ("candidate_task_kind", .ofText? (intent.candidateTaskKind.map (·.value))),
     ("context_refs", dumpTexts intent.contextRefs),
     ("parsed_identifiers", dumpTexts intent.parsedIdentifiers),
     ("raw_request", .ofText? intent.rawRequest),
     ("requested_actions", dumpTexts intent.requestedActions),
     ("requested_output", .object intent.requestedOutput),
     ("temporal_expression", .ofText? intent.temporalExpression),
     ("trigger_ref", .ofText? intent.triggerRef)]

/-- `TaskAdmissionRequest`, with what `validate_request` establishes. -/
structure TaskAdmissionRequest where
  intent : TaskIntent
  (principal policyRevision : String)
  (onBehalfOf taskContractId : Option String := none)
  contractRevision : ℕ := 1
  bindingContext : JsonObject := []
  revision_pos : 1 ≤ contractRevision := by decide
  principal_nonblank : isBlank principal = false := by decide
  policy_nonblank : isBlank policyRevision = false := by decide

/-- The identity that the request asks for, unless it is empty. -/
def TaskAdmissionRequest.explicitId (request : TaskAdmissionRequest) : Option String :=
  request.taskContractId.filter (· ≠ "")

/-- `TaskAdmissionAuthorization`, with what `validate_authorization` establishes. -/
structure TaskAdmissionAuthorization where
  allowed : Bool
  authorization : String
  (policyDecisionRef denialReason : Option String := none)
  permitted_shape : allowed = true → denialReason = none := by decide
  denied_shape : allowed = false → denialReason.any (· ≠ "") := by decide

/-- `TaskContractCompiler`. -/
structure TaskContractCompiler where
  taskKind : TaskKind
  compilerRevision : String
  compile : (intent : TaskIntent) → (taskContractId : String) → (contractRevision : ℕ) →
    (principal : String) → (onBehalfOf : Option String) → (policyRevision : String) →
    (bindingContext : JsonObject) → Except Raised TaskContract

/-- What the service may answer instead of a result. -/
inductive AdmissionError where
  | raised (error : Raised)
  /-- `TaskAdmissionDenied`. -/
  | denied (reason : String)

/-- `authorizer.authorize`. -/
abbrev Authorize :=
  (intentRef : String) → TaskIntent → TaskContract → Except Raised TaskAdmissionAuthorization

structure TaskAdmissionResult where
  intentRef : String
  contract : TaskContract
  compilerRevision : String
  policyDecisionRef : Option String
  (policyAuthorization replayKey : String)

/-- The compilers of a `TaskContractService`, of which no two are for one kind. -/
structure TaskContractService where
  compilers : List TaskContractCompiler
  one_each : (compilers.map (·.taskKind)).Nodup

/-- `self._compilers.get(kind)`. -/
def TaskContractService.compiler? (service : TaskContractService) (kind : TaskKind) :
    Option TaskContractCompiler :=
  service.compilers.find? fun compiler => compiler.taskKind = kind

/-! ## Admission -/

/-- `_validate_compiled_contract`. -/
def validateCompiledContract (request : TaskAdmissionRequest) (kind : TaskKind)
    (contract : TaskContract) (contractId : String) : Except Raised Unit := do
  require (contract.taskContractId = contractId)
    (.valueError "TaskContract compiler changed admission contract identity")
  require (contract.contractRevision = request.contractRevision)
    (.valueError "TaskContract compiler changed requested contract revision")
  require (contract.principal = request.principal ∧ contract.onBehalfOf = request.onBehalfOf)
    (.valueError "TaskContract compiler changed admission principal")
  require (contract.policyRevision = request.policyRevision)
    (.valueError "TaskContract compiler changed admission policy revision")
  require (contract.taskKind = kind)
    (.valueError "TaskContract compiler changed admitted task kind")

section Service

variable (sha256 : JsonValue → String)

/-- `_intent_ref`. -/
def intentRefOf (intent : TaskIntent) : String := "task-intent:" ++ short (sha256 intent.dump)

/-- What `_contract_id` hashes. -/
def contractPayload (request : TaskAdmissionRequest) (compilerRevision : String) : JsonValue :=
  .object
    [("compiler_revision", .string compilerRevision),
     ("contract_revision", .int request.contractRevision),
     ("intent_ref", .string (intentRefOf sha256 request.intent)),
     ("on_behalf_of", .ofText? request.onBehalfOf),
     ("policy_revision", .string request.policyRevision),
     ("principal", .string request.principal)]

/-- `request.task_contract_id or _contract_id(…)`. -/
def contractIdOf (request : TaskAdmissionRequest) (compilerRevision : String) : String :=
  request.explicitId.getD
    ("task-contract:" ++ short (sha256 (contractPayload sha256 request compilerRevision)))

/-- What a compiler makes of a request, were its binding context the given one. -/
def TaskContractCompiler.compileRequest (compiler : TaskContractCompiler)
    (request : TaskAdmissionRequest) (bindingContext : JsonObject) : Except Raised TaskContract :=
  compiler.compile request.intent (contractIdOf sha256 request compiler.compilerRevision)
    request.contractRevision request.principal request.onBehalfOf request.policyRevision
    bindingContext

def replayPayload (intentRef : String) (contract : TaskContract) (compilerRevision : String)
    (policyDecisionRef : Option String) : JsonValue :=
  .object
    [("compiler_revision", .string compilerRevision),
     ("contract", contract.dump),
     ("intent_ref", .string intentRef),
     ("policy_decision_ref", .ofText? policyDecisionRef)]

/-- `admit`. -/
def TaskContractService.admit (service : TaskContractService) (authorize : Authorize)
    (request : TaskAdmissionRequest) : Except AdmissionError TaskAdmissionResult := do
  let kind ← fetch request.intent.candidateTaskKind (.raised (.valueError
    "TaskIntent is ambiguous: candidate_task_kind is required for admission"))
  let compiler ← fetch (service.compiler? kind) (.raised (.valueError
    ("no TaskContract compiler registered for " ++ kind.value)))
  let intentRef := intentRefOf sha256 request.intent
  let contract ← (compiler.compileRequest sha256 request request.bindingContext).mapError
    AdmissionError.raised
  (validateCompiledContract request kind contract
    (contractIdOf sha256 request compiler.compilerRevision)).mapError AdmissionError.raised
  let authorization ← (authorize intentRef request.intent contract).mapError
    AdmissionError.raised
  require (authorization.allowed = true) (.denied
    ((authorization.denialReason.filter (· ≠ "")).getD "task_admission_denied"))
  return {
    intentRef
    contract
    compilerRevision := compiler.compilerRevision
    policyDecisionRef := authorization.policyDecisionRef
    policyAuthorization := authorization.authorization
    replayKey := "task-admission:" ++ short (sha256 (replayPayload intentRef contract
      compiler.compilerRevision authorization.policyDecisionRef)) }

end Service

theorem mapError_eq_ok {ε δ α : Type} {answer : Except ε α} {wrap : ε → δ} {value : α} :
    answer.mapError wrap = .ok value ↔ answer = .ok value := by
  cases answer <;> simp [Except.mapError]

/-- What an admission has come through. -/
structure Accepts (sha256 : JsonValue → String) (service : TaskContractService)
    (request : TaskAdmissionRequest) (contract : TaskContract)
    (compiler : TaskContractCompiler) : Prop where
  registered : request.intent.candidateTaskKind.bind service.compiler? = some compiler
  compiled : compiler.compileRequest sha256 request request.bindingContext = .ok contract
  identity : contract.taskContractId = contractIdOf sha256 request compiler.compilerRevision

theorem admit_eq_ok {sha256 : JsonValue → String} {service : TaskContractService}
    {authorize : Authorize} {request : TaskAdmissionRequest} {result : TaskAdmissionResult}
    (admitted : service.admit sha256 authorize request = .ok result) :
    ∃ compiler, Accepts sha256 service request result.contract compiler := by
  unfold TaskContractService.admit at admitted
  obtain ⟨kind, asked, admitted⟩ := fetch_bind_eq_ok.1 admitted
  obtain ⟨compiler, registered, admitted⟩ := fetch_bind_eq_ok.1 admitted
  obtain ⟨contract, compiled, admitted⟩ := bind_eq_ok.1 admitted
  obtain ⟨_, valid, admitted⟩ := bind_eq_ok.1 admitted
  obtain ⟨authorization, -, admitted⟩ := bind_eq_ok.1 admitted
  obtain ⟨-, admitted⟩ := require_bind_eq_ok.1 admitted
  cases admitted
  refine ⟨compiler, ?_, mapError_eq_ok.1 compiled, ?_⟩
  · rw [asked]
    exact registered
  · exact (require_bind_eq_ok.1 (mapError_eq_ok.1 valid)).1

/-! ## What the identity of a contract tells -/

theorem taskKind_value_injective : Injective TaskKind.value := by
  intro left right same
  cases left <;> cases right <;> first | rfl | exact absurd same (by decide)

theorem dumpTexts_injective : Injective dumpTexts := texts_injective

/-- An intent can be read back from its dump. -/
theorem TaskIntent.dump_injective : Injective TaskIntent.dump := by
  intro intent other same
  rw [TaskIntent.dump, TaskIntent.dump] at same
  simp only [object.injEq, cons.injEq, Prod.mk.injEq, true_and, and_true] at same
  obtain ⟨targets, kind, refs, identifiers, raw, actions, output, temporal, trigger⟩ := same
  exact TaskIntent.ext (ofText?_injective raw) (ofText?_injective trigger)
    (dumpTexts_injective identifiers)
    (Option.map_injective taskKind_value_injective (ofText?_injective kind))
    (dumpTexts_injective targets) (ofText?_injective temporal) output
    (dumpTexts_injective actions) (dumpTexts_injective refs)

/-- Two requests agree on all that the identity of a contract is made of. -/
structure SameButBinding (first second : TaskAdmissionRequest) : Prop where
  intent : first.intent = second.intent
  principal : first.principal = second.principal
  policyRevision : first.policyRevision = second.policyRevision
  onBehalfOf : first.onBehalfOf = second.onBehalfOf
  contractRevision : first.contractRevision = second.contractRevision

/-- An admission of a request that names no contract. -/
structure Admitted (sha256 : JsonValue → String) (service : TaskContractService) where
  request : TaskAdmissionRequest
  authorize : Authorize
  result : TaskAdmissionResult
  unnamed : request.explicitId = none
  admitted : service.admit sha256 authorize request = .ok result

section Identities

variable {sha256 : JsonValue → String} {service : TaskContractService}

def Admitted.compiler? (admission : Admitted sha256 service) : Option TaskContractCompiler :=
  admission.request.intent.candidateTaskKind.bind service.compiler?

/-- What is hashed for the identity of the contract. -/
def Admitted.payloads (admission : Admitted sha256 service) : List JsonValue :=
  admission.request.intent.dump :: admission.compiler?.toList.map fun compiler =>
    contractPayload sha256 admission.request compiler.compilerRevision

/-- Requests that agree otherwise have binding contexts that the compiler reads alike. -/
def ReadAlike (first second : Admitted sha256 service) : Prop :=
  SameButBinding first.request second.request → ∀ compiler ∈ first.compiler?,
    compiler.compileRequest sha256 first.request first.request.bindingContext =
      compiler.compileRequest sha256 first.request second.request.bindingContext

theorem contractPayload_eq_iff {first second : TaskAdmissionRequest} {revision other : String}
    (intents : intentRefOf sha256 first.intent = intentRefOf sha256 second.intent ↔
      first.intent = second.intent)
    (revisions : first.intent = second.intent → revision = other) :
    contractPayload sha256 first revision = contractPayload sha256 second other ↔
      SameButBinding first second := by
  rw [contractPayload, contractPayload]
  simp only [object.injEq, cons.injEq, Prod.mk.injEq, true_and, and_true,
    string.injEq, int.injEq, Nat.cast_inj, intents]
  constructor
  · rintro ⟨-, contractRevision, intent, behalf, policy, principal⟩
    exact ⟨intent, principal, policy, ofText?_injective behalf, contractRevision⟩
  · rintro ⟨intent, principal, policy, behalf, contractRevision⟩
    exact ⟨revisions intent, contractRevision, intent, by rw [behalf], policy, principal⟩

/-- Two admissions of one identity are of requests that agree in all but their binding
contexts, and no others are. -/
theorem taskContractId_eq_iff {first second : Admitted sha256 service}
    (distinguishes : Distinguishes sha256 (first.payloads ++ second.payloads)) :
    first.result.contract.taskContractId = second.result.contract.taskContractId ↔
      SameButBinding first.request second.request := by
  obtain ⟨compiler, accepts⟩ := admit_eq_ok first.admitted
  obtain ⟨other, acceptsToo⟩ := admit_eq_ok second.admitted
  have here : first.payloads = [first.request.intent.dump,
      contractPayload sha256 first.request compiler.compilerRevision] := by
    rw [Admitted.payloads, Admitted.compiler?, accepts.registered]
    rfl
  have there : second.payloads = [second.request.intent.dump,
      contractPayload sha256 second.request other.compilerRevision] := by
    rw [Admitted.payloads, Admitted.compiler?, acceptsToo.registered]
    rfl
  rw [here, there] at distinguishes
  have intents : intentRefOf sha256 first.request.intent =
      intentRefOf sha256 second.request.intent ↔
        first.request.intent = second.request.intent := by
    refine (String.append_right_inj _).trans ?_
    rw [distinguishes.eq_iff (.head _) (.tail _ (.tail _ (.head _)))]
    exact TaskIntent.dump_injective.eq_iff
  -- one intent is of one kind, which has one compiler
  have revisions : first.request.intent = second.request.intent →
      compiler.compilerRevision = other.compilerRevision := by
    intro same
    have registered := accepts.registered
    rw [same, acceptsToo.registered] at registered
    cases registered
    rfl
  rw [accepts.identity, acceptsToo.identity, contractIdOf, contractIdOf, first.unnamed,
    second.unnamed, ← contractPayload_eq_iff intents revisions]
  exact (String.append_right_inj _).trans
    (distinguishes.eq_iff (.tail _ (.head _)) (.tail _ (.tail _ (.tail _ (.head _)))))

/-- Contracts of one identity are the same exactly when the compiler reads the binding contexts
alike. -/
theorem contract_identity_iff {first second : Admitted sha256 service}
    (distinguishes : Distinguishes sha256 (first.payloads ++ second.payloads)) :
    (first.result.contract.taskContractId = second.result.contract.taskContractId →
      first.result.contract = second.result.contract) ↔ ReadAlike first second := by
  rw [taskContractId_eq_iff distinguishes]
  refine forall_congr' fun same => ?_
  obtain ⟨compiler, accepts⟩ := admit_eq_ok first.admitted
  obtain ⟨other, acceptsToo⟩ := admit_eq_ok second.admitted
  have registered : first.compiler? = some compiler := accepts.registered
  obtain rfl : compiler = other := by
    rw [← Option.some_inj, ← acceptsToo.registered, ← accepts.registered, same.intent]
  -- asked for the second binding context, the compiler answers as it did to the second request
  have asked : compiler.compileRequest sha256 first.request second.request.bindingContext =
      .ok second.result.contract := by
    rw [← acceptsToo.compiled, TaskContractCompiler.compileRequest,
      TaskContractCompiler.compileRequest, contractIdOf, contractIdOf, first.unnamed,
      second.unnamed, contractPayload, contractPayload, same.intent, same.principal,
      same.policyRevision, same.onBehalfOf, same.contractRevision]
  rw [registered]
  constructor
  · rintro equal _ ⟨⟩
    rw [accepts.compiled, asked, equal]
  · intro alike
    have both := alike compiler rfl
    rw [accepts.compiled, asked] at both
    exact Except.ok.inj both

end Identities

end SecFusion.TaskRuntime.Admission
