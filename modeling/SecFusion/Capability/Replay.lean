import SecFusion.Budget.Children
import SecFusion.Capability.Broker
import SecFusion.Sandbox.Leases

/-!
# Replayed invocations

`invoke` looks for the audit row of a request by its run and its identifier alone, and an audit
row has no column for the grants of its invocation.  So a second call gets the outcome of the
first, whatever else it requests, and without the grants.
-/

namespace SecFusion.Capability

open Foundations

variable (broker : CapabilityBroker)

/-- `invoke` as a transaction, which is rolled back when it raises. -/
def invocation (call : InvokeCall) (store : CapabilityStore) :
    Except Raised (CapabilityInvocationOutcome × CapabilityStore) := (invoke broker store call).2

/-- The calls request the same. -/
def SameRequest (first second : InvokeCall) : Prop :=
  second.request.capabilityId = first.request.capabilityId ∧
    broker.argumentsDigest second.request.canonicalArguments =
      broker.argumentsDigest first.request.canonicalArguments ∧
    second.request.resource = first.request.resource ∧
    second.request.intendedEffect = first.request.intendedEffect

/-- The second call is refused, or requests what the outcome is of and gets it. -/
def ReplaysFaithfully (store : CapabilityStore) (first second : InvokeCall)
    (outcome : CapabilityInvocationOutcome) : Prop :=
  ∀ again last, invocation broker second store = .ok (again, last) →
    SameRequest broker first second ∧ again = { outcome with replay := true }

variable {broker} {store begun next : CapabilityStore} {call first second : InvokeCall}
  {authorized : Authorized} {outcome : CapabilityInvocationOutcome} {taskRunId requestId : String}
  {row : CapabilityInvocationModel}

/-- The outcome of a call that was executed. -/
def outcomeOf (broker : CapabilityBroker) (call : InvokeCall) (authorized : Authorized)
    (result : CapabilityResult) (observation : Option EphemeralObservation) :
    CapabilityInvocationOutcome where
  invocation := newInvocation broker call authorized
  plan := invocationPlan broker call authorized
  policyDecision := authorized.decision
  result := result
  observation := observation

/-- What an execution leaves: an outcome, its audit row finished with it, and its reservation
committed. -/
theorem settleInvocation_ok (ok : settleInvocation broker begun call authorized =
    .ok (outcome, next)) :
    ∃ result observation consumed view,
      outcome = outcomeOf broker call authorized result observation ∧
      next.invocations = begun.invocations.update (newInvocation broker call authorized).invocationId
        (finishAudit result observation call.clock.finishedAt)
        (finishAudit_id result observation call.clock.finishedAt) ∧
      Budget.commit begun.ledger call.envelope.budgetRef (reservationGroup call.request) consumed
        false = .ok (view, next.ledger) := by
  unfold settleInvocation at ok
  cases executed : call.executor with
  | aborted name =>
      rw [executed] at ok
      cases ok
  | raised name =>
      rw [executed] at ok
      obtain ⟨⟨_, ledger⟩, committed, ok⟩ := bind_eq_ok.1 ok
      cases ok
      exact ⟨_, _, _, _, rfl, rfl, committed⟩
  | returned native =>
      rw [executed] at ok
      obtain ⟨⟨_, ledger⟩, committed, ok⟩ := bind_eq_ok.1 ok
      obtain ⟨observation, -, ok⟩ := bind_eq_ok.1 ok
      cases ok
      exact ⟨_, _, _, _, rfl, rfl, committed⟩

/-- A call replays a row, or it reserves, adds a row that it has finished, and commits. -/
theorem invocation_ok (ok : invocation broker call store = .ok (outcome, next)) :
    (∃ row, store.invocationOf? call.request.taskRunId call.request.requestId = some row ∧
      replayOutcome row = .ok outcome ∧ next = store) ∨
    store.invocationOf? call.request.taskRunId call.request.requestId = none ∧
      ∃ authorized begun result observation consumed view,
        beginInvocation broker store call authorized = .ok begun ∧
        outcome = outcomeOf broker call authorized result observation ∧
        next.invocations.rows = store.invocations.rows ++
          [finishAudit result observation call.clock.finishedAt
            (newAudit broker call authorized)] ∧
        Budget.commit begun.ledger call.envelope.budgetRef (reservationGroup call.request) consumed
          false = .ok (view, next.ledger) := by
  unfold invocation invoke at ok
  cases found : store.invocationOf? call.request.taskRunId call.request.requestId with
  | some row =>
      rw [found] at ok
      obtain ⟨replayed, answered, ok⟩ := bind_eq_ok.1 ok
      cases ok
      exact .inl ⟨row, rfl, answered, rfl⟩
  | none =>
      rw [found] at ok
      cases allowed : authorizeInvocation broker call with
      | error raised => simp [allowed] at ok
      | ok authorized =>
          cases began : beginInvocation broker store call authorized with
          | error raised => simp [allowed, began] at ok
          | ok begun =>
              simp only [allowed, began] at ok
              obtain ⟨result, observation, consumed, view, same, finished, committed⟩ :=
                settleInvocation_ok ok
              refine .inr ⟨rfl, authorized, begun, result, observation, consumed, view, began,
                same, ?_, committed⟩
              obtain ⟨ledger, -, began⟩ := bind_eq_ok.1 began
              obtain ⟨invocations, inserted, began⟩ := fetch_bind_eq_ok.1 began
              cases began
              obtain ⟨rows, absent⟩ := Table.insert?_eq_some inserted
              rw [finished, Table.rows_update, rows, map_append]
              -- The row of another invocation has another identifier.
              refine congrArg₂ _ ?_ (congrArg (fun row => [row]) (if_pos rfl))
              refine (map_congr_left fun row member => if_neg ?_).trans (List.map_id _)
              exact Table.get?_eq_none.1 absent row member

/-- What is reserved after a call was reserved before it. -/
theorem reserved_of_invocation (ok : invocation broker call store = .ok (outcome, next))
    {row : Budget.BudgetReservationModel} (member : row ∈ next.ledger.reservations.rows)
    (reserved : row.status = .reserved) : row ∈ store.ledger.reservations.rows := by
  rcases invocation_ok ok with
    ⟨_, -, -, rfl⟩ | ⟨-, authorized, begun, _, _, _, _, began, -, -, committed⟩
  · exact member
  obtain ⟨⟨_, ledger⟩, held, began⟩ := bind_eq_ok.1 began
  obtain ⟨invocations, -, began⟩ := fetch_bind_eq_ok.1 began
  cases began
  obtain ⟨old, found, ⟨-, writes⟩ | ⟨outside, rfl⟩⟩ :=
    exists_left_of_mem (Budget.commit_ok committed).2.2.2 member
  -- The rows of the group of the call are committed.
  · rcases writes with ⟨_, ⟨-, -, -, rfl⟩, rfl⟩ | ⟨⟨repeated, -⟩, rfl⟩
    · cases reserved
    · exact nomatch repeated.symm.trans reserved
  · rcases (Budget.reserve_ok held).2 with ⟨rfl, -⟩ | ⟨-, -, -, rows, -⟩
    · exact found
    · rw [rows] at found
      rcases mem_append.1 found with before | added
      · exact before
      · obtain ⟨_, -, rfl⟩ := mem_map.1 added
        exact absurd (Budget.mem_group.2 ⟨rows ▸ found, rfl, rfl⟩) outside

theorem invocationOf?_of_ok (ok : invocation broker call store = .ok (outcome, next))
    (found : store.invocationOf? taskRunId requestId = some row) :
    next.invocationOf? taskRunId requestId = some row := by
  rcases invocation_ok ok with ⟨_, -, -, rfl⟩ | ⟨-, _, _, _, _, _, _, -, -, rows, -⟩
  · exact found
  · unfold CapabilityStore.invocationOf? at found ⊢
    rw [rows, List.find?_append, found]
    rfl

/-- The outcome as its audit row replays it. -/
def CapabilityInvocationOutcome.replayed (outcome : CapabilityInvocationOutcome) :
    CapabilityInvocationOutcome :=
  { outcome with
    invocation := { outcome.invocation with
      credentialGrantRef := none, networkGrantRef := none, sandboxInstanceRef := none }
    replay := true }

theorem stored_of_invocation (ok : invocation broker first store = .ok (outcome, next))
    (fresh : outcome.replay = false) :
    (∃ row, next.invocationOf? first.request.taskRunId first.request.requestId = some row ∧
      replayOutcome row = .ok outcome.replayed) ∧
      (outcome.replayed = { outcome with replay := true } ↔
        first.grants.credentialGrantRef = none ∧ first.grants.networkGrantRef = none ∧
          first.grants.sandboxInstanceRef = none) := by
  rcases invocation_ok ok with
    ⟨_, -, replayed, -⟩ | ⟨absent, authorized, _, result, observation, _, _, -, rfl, rows, -⟩
  · obtain ⟨_, -, replayed⟩ := fetch_bind_eq_ok.1 replayed
    cases replayed
    cases fresh
  · refine ⟨⟨finishAudit result observation first.clock.finishedAt (newAudit broker first authorized),
      ?_, rfl⟩, ?_⟩
    · unfold CapabilityStore.invocationOf? at absent ⊢
      rw [rows, List.find?_append, absent]
      simp [finishAudit, newAudit]
    · simp [CapabilityInvocationOutcome.replayed, outcomeOf, newInvocation, eq_comm]

section Again

variable (between : List InvokeCall) (ok : invocation broker first store = .ok (outcome, next))
  (fresh : outcome.replay = false) (sameRun : second.request.taskRunId = first.request.taskRunId)
  (sameId : second.request.requestId = first.request.requestId)
include ok fresh sameRun sameId

/-- A second call replays the outcome of the first, whatever it requests and whatever is invoked
in between. -/
theorem invocation_again :
    invocation broker second (run (invocation broker) next between) =
      .ok (outcome.replayed, run (invocation broker) next between) := by
  obtain ⟨⟨row, stored, replays⟩, -⟩ := stored_of_invocation ok fresh
  have kept : (run (invocation broker) next between).invocationOf? second.request.taskRunId
      second.request.requestId = some row := by
    rw [sameRun, sameId]
    exact run_invariant (fun _ _ _ _ found ok => invocationOf?_of_ok ok found) stored between
  rw [invocation, invoke, kept]
  simp only [replays]
  rfl

end Again

/-! ## Runs -/

/-- The invocations since a ledger: each request has one row, which can be replayed, and no
reservation is left open. -/
structure Settled (ledger : Budget.Ledger) (store : CapabilityStore) : Prop where
  once : (store.invocations.rows.map fun row => (row.taskRunId, row.requestId)).Nodup
  replays : ∀ row ∈ store.invocations.rows, (replayOutcome row).toOption.isSome
  reserved : ∀ row ∈ store.ledger.reservations.rows, row.status = .reserved →
    row ∈ ledger.reservations.rows

theorem Settled.invocation {ledger : Budget.Ledger} (settled : Settled ledger store)
    (ok : invocation broker call store = .ok (outcome, next)) : Settled ledger next := by
  obtain ⟨once, replays, reserved⟩ := settled
  rcases invocation_ok ok with ⟨_, -, -, rfl⟩ | ⟨absent, _, _, _, _, _, _, -, -, rows, -⟩
  · exact ⟨once, replays, reserved⟩
  constructor
  case once =>
    rw [rows, map_append, nodup_append]
    refine ⟨once, nodup_singleton _, ?_⟩
    rintro _ earlier _ (added : _ ∈ [_]) rfl
    obtain ⟨row, stored, same⟩ := mem_map.1 earlier
    have other := List.find?_eq_none.1 absent row stored
    cases mem_singleton.1 added
    simp_all [finishAudit, newAudit]
  case replays =>
    intro row member
    rw [rows, mem_append, mem_singleton] at member
    rcases member with stored | rfl
    · exact replays row stored
    · rfl
  case reserved =>
    exact fun row member held => reserved row (reserved_of_invocation ok member held) held

/-- **Invocations are settled**, however many are called. -/
theorem settled_after (ledger : Budget.Ledger) (calls : List InvokeCall) :
    Settled ledger (run (invocation broker) { ledger, invocations := .empty } calls) :=
  run_invariant (fun _ _ _ _ settled ok => settled.invocation ok)
    ⟨List.nodup_nil, fun _ member => absurd member not_mem_nil, fun _ member _ => member⟩ calls

/-! ## Two reads -/

def readBroker : CapabilityBroker where
  registry := {
    contracts := ⟨[(("repo.read", 1), {
      capabilityId := "repo.read", contractRevision := 1, action := "read"
      applicableResourceTypes := ["repo"], effectSemantics := .observation })], by decide⟩
    implementations := ⟨[(("git", 1), {
      toolImplId := "git", implementationRevision := 1, implementationKind := .localFunction
      healthRef := "health:git", nativeSchemaHash := "schema" })], by decide⟩
    bindings := [{
      bindingId := "repo.read:git", bindingRevision := 1, capabilityId := "repo.read"
      contractRevision := 1, toolImplId := "git", implementationRevision := 1
      executionClass := .trustedLocalRead, credentialProfile := "none", networkProfile := "none"
      sandboxProfile := "none", nativeSchemaHash := "schema" }] }
  policy := { Sandbox.sandboxPolicy with
    rules := [{ policyId := "allow-read", policyRevision := "policy-v1"
                decisionPoints := [.capabilityInvocation], authorization := some .permit }]
    rules_revision := by decide }
  argumentsDigest _ := "arguments"
  digest _ _ := "digest"

def readStore : CapabilityStore where
  ledger := run Budget.governor Budget.Ledger.empty Budget.rootOpened
  invocations := .empty

/-- A read of a repository, without arguments. -/
def readCall (resource : String) : InvokeCall where
  task := Sandbox.verifyTask
  envelope := { Sandbox.verifyEnvelope with
    capabilityScope := ["repo.read"], budgetRef := "root", named := by decide }
  request := {
    requestId := "read-1", taskContractId := "verify", taskRunId := "run"
    principal := "user:alice", capabilityId := "repo.read", contractRevision := 1
    action := "read", resource, resourceType := "repo", intendedEffect := .observation }
  executor := .returned { status := .succeeded }
  estimatedBudget := ⟨[("tool_calls", 1)], by decide⟩
  clock := ⟨0, 0, 1, 2⟩

theorem invocation_readCall : ∃ outcome next,
    invocation readBroker (readCall "repo:a") readStore = .ok (outcome, next) ∧
      outcome.replay = false := by
  have answers : (invocation readBroker (readCall "repo:a") readStore).toOption.any
      (!·.1.replay) = true := by decide +kernel
  obtain ⟨answer, answered, fresh⟩ := (Option.any_eq_true _ _).1 answers
  exact ⟨answer.1, answer.2, toOption_eq_some.1 answered, by simpa using fresh⟩

end SecFusion.Capability
