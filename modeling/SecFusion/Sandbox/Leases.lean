import SecFusion.Sandbox.Broker

/-!
# Leases

A run of the sandbox broker: envelopes are stored, instances are created, used, exported
from and destroyed, in any order and with whatever envelopes and requests the callers
bring.  The calls that the backends receive are kept beside the store, since a transaction
that is rolled back does not take them back.

`exec` compares only the identity of the envelope it is given with that of the instance, and
its audit row goes with its transaction.  So a lease contains its executions as long as a
caller's envelope leaves no more time than the stored one, and no operation comes again whose
row was rolled back after it had reached the backend (`KeepsLease`).
-/

namespace SecFusion.Sandbox

open Foundations Execution Policy

/-! ## The system -/

/-- A call of the broker, or the storing of an envelope. -/
inductive SandboxOp where
  | persist (envelope : ExecutionEnvelope)
  | create (task : TaskRuntime.TaskContract) (envelope : ExecutionEnvelope)
      (request : SandboxCreateRequest) (grants : SandboxGrants) (answer : Except Raised String)
      (now : ℤ)
  | exec (envelope : ExecutionEnvelope) (instanceId : String) (request : SandboxExecRequest)
      (answer : Except Raised SandboxBackendExecResult) (clock : ExecClock)
  | export (instanceId : String) (relativePaths : List String)
      (answer : Except Raised (List String))
  | destroy (instanceId : String) (answer : Except Raised Unit) (now : ℤ)

/-- The store, and what the backends have received. -/
structure SandboxState where
  store : SandboxStore
  calls : List BackendCall

def SandboxState.initial : SandboxState := ⟨.empty, []⟩

variable (broker : SandboxBroker)

/-- What one call does: the backend calls, and the store it would commit. -/
def perform (store : SandboxStore) : SandboxOp → Brokered SandboxStore
  | .persist envelope => ([], do
      let (_, runs) ← createExecution store.runs envelope
      return { store with runs })
  | .create task envelope request grants answer now =>
      let (calls, outcome) := create broker store task envelope request grants answer now
      (calls, outcome.map Prod.snd)
  | .exec envelope instanceId request answer clock =>
      let (calls, outcome) := exec broker store envelope instanceId request answer clock
      (calls, outcome.map Prod.snd)
  | .export instanceId relativePaths answer =>
      let (calls, outcome) := exportArtifacts broker store instanceId relativePaths answer
      (calls, outcome.map Prod.snd)
  | .destroy instanceId answer now =>
      let (calls, outcome) := destroy broker store instanceId answer now
      (calls, outcome.map Prod.snd)

/-- The session is committed on return and rolled back on an exception; the calls of the
backends stay either way. -/
def sandboxSystem (op : SandboxOp) (state : SandboxState) : Except Raised (Unit × SandboxState) :=
  let (calls, outcome) := perform broker state.store op
  .ok ((), { store := outcome.toOption.getD state.store, calls := state.calls ++ calls })

def sandboxAfter (ops : List SandboxOp) : SandboxState :=
  run (sandboxSystem broker) SandboxState.initial ops

/-! ## What a lease allows -/

/-- The instance and the operation of an execution. -/
def BackendCall.execKey? : BackendCall → Option (String × String)
  | .exec instanceId _ request _ _ => some (instanceId, request.operationId)
  | .create _ | .export _ _ | .destroy _ => none

/-- The executions that have reached a backend. -/
def SandboxState.executed (state : SandboxState) : List (String × String) :=
  state.calls.filterMap BackendCall.execKey?

/-- **An execution within its lease**: on an active instance, before the deadline of the stored
envelope, with no more time than is left and no more than the profile has. -/
structure WithinLease (store : SandboxStore) (instanceId handle : String) (timeoutSeconds : ℚ)
    (startedAt : ℤ) (model : SandboxInstanceModel) (run : ExecutionRunModel) : Prop where
  found : store.instances.get? instanceId = some model
  active : model.status = .active
  leased : model.backendHandleRef = some handle
  persisted : store.runs.get? model.executionId = some run
  before_deadline : startedAt < run.envelopeJson.deadlineAt
  remaining : timeoutSeconds ≤ totalSeconds run.envelopeJson.deadlineAt startedAt
  wall : ∀ seconds ∈ model.leaseJson.profile.wallTimeoutSeconds, timeoutSeconds ≤ seconds

/-- A call that is no execution, or one within its lease. -/
def Allowed (store : SandboxStore) : BackendCall → Prop
  | .exec instanceId handle _ timeoutSeconds startedAt =>
      ∃ model run, WithinLease store instanceId handle timeoutSeconds startedAt model run
  | .create _ | .export _ _ | .destroy _ => True

/-- **Leases contain their executions**, over a run. -/
structure LeasesContained (ops : List SandboxOp) : Prop where
  allowed : ∀ early op late, ops = early ++ op :: late →
    ∀ call ∈ (perform broker (sandboxAfter broker early).store op).1,
      Allowed (sandboxAfter broker early).store call
  once : (sandboxAfter broker ops).executed.Nodup

/-- An execution that would reach the backend has not reached it in a call that was rolled
back, and its caller's envelope leaves it no more time than the stored one. -/
def KeepsLease (state : SandboxState) : SandboxOp → Prop
  | .exec envelope instanceId request _ clock =>
      ∀ model ∈ state.store.instances.get? instanceId, model.status = .active →
        model.executionId = envelope.executionId →
        state.store.executionOf? instanceId request.operationId = none →
          (instanceId, request.operationId) ∉ state.executed ∧
          ∀ run ∈ state.store.runs.get? model.executionId,
            execTimeout envelope model.leaseJson.profile request clock.now ≤
              boundedTimeoutSeconds run.envelopeJson clock.startedAt request.requestedTimeoutSeconds
  | .persist _ | .create .. | .export .. | .destroy .. => True

variable {envelope : ExecutionEnvelope} {request : SandboxExecRequest} {now finishedAt : ℤ}
  {instanceId handle : String} {answer : Except Raised SandboxBackendExecResult} {clock : ExecClock}
  {model : SandboxInstanceModel} {audit : SandboxExecutionModel} {call : BackendCall}
  {op : SandboxOp} {task : TaskRuntime.TaskContract} {grants : SandboxGrants}
  {result : SandboxExecResult}

theorem execTimeout_le_wall {profile : SandboxProfile} {wall : ℕ}
    (limited : profile.wallTimeoutSeconds = some wall) :
    execTimeout envelope profile request now ≤ wall := by
  unfold execTimeout
  rw [limited]
  exact min_le_right _ _

/-! ## What one call sends to a backend -/

section Calls

variable {broker} {store : SandboxStore}

theorem execInstance_eq_ok (found : execInstance store envelope instanceId = .ok (model, handle)) :
    store.instances.get? instanceId = some model ∧ model.executionId = envelope.executionId ∧
      model.status = .active ∧ model.backendHandleRef = some handle := by
  unfold execInstance at found
  obtain ⟨row, there, checked⟩ := fetch_bind_eq_ok.1 found
  obtain ⟨same, active⟩ := require_bind_eq_ok.1 checked
  obtain ⟨ref, leased, ok⟩ := fetch_bind_eq_ok.1 active
  cases pure_eq_ok.1 ok
  split at leased
  next isActive => exact ⟨there, same, isActive, leased⟩
  next => cases leased

theorem execNew_calls
    (made : call ∈ (execNew broker store model handle request audit answer finishedAt).1) :
    (execNew broker store model handle request audit answer finishedAt).1 = [call] ∧
      0 < audit.timeoutSeconds ∧
      call = .exec model.instanceId handle request audit.timeoutSeconds audit.startedAt := by
  unfold execNew at made ⊢
  cases inserted : store.executions.insert? audit with
  | none =>
      rw [inserted] at made
      exact nomatch made
  | some executions =>
      rw [inserted] at made
      dsimp only at made ⊢
      by_cases expired : audit.timeoutSeconds ≤ 0
      · rw [if_pos expired] at made
        exact nomatch made
      by_cases missing : model.backend ∉ broker.backends
      · rw [if_neg expired, if_pos missing] at made
        exact nomatch made
      rw [if_neg expired, if_neg missing] at made ⊢
      obtain rfl := mem_singleton.1 made
      exact ⟨rfl, not_le.1 expired, rfl⟩

/-- **The one call that an execution makes**: of an operation without an audit row, on an active
instance, with some time left. -/
theorem exec_calls (made : call ∈ (exec broker store envelope instanceId request answer clock).1) :
    (exec broker store envelope instanceId request answer clock).1 = [call] ∧
    ∃ model handle, execInstance store envelope instanceId = .ok (model, handle) ∧
      store.executionOf? instanceId request.operationId = none ∧
      0 < execTimeout envelope model.leaseJson.profile request clock.now ∧
      call = .exec instanceId handle request
        (execTimeout envelope model.leaseJson.profile request clock.now) clock.startedAt := by
  unfold exec at made ⊢
  cases found : execInstance store envelope instanceId with
  | error raised =>
      rw [found] at made
      exact nomatch made
  | ok pair =>
      obtain ⟨model, handle⟩ := pair
      rw [found] at made
      dsimp only at made ⊢
      cases existing : store.executionOf? instanceId request.operationId with
      | some row =>
          rw [existing] at made
          exact nomatch made
      | none =>
          rw [existing] at made
          obtain ⟨only, positive, rfl⟩ := execNew_calls made
          have ofInstance : model.instanceId = instanceId :=
            (get?_eq_some.1 (execInstance_eq_ok found).1).2
          rw [ofInstance] at only ⊢
          exact ⟨only, model, handle, rfl, rfl, positive, rfl⟩

/-- The other operations call no execution. -/
theorem execKey?_eq_none (made : call ∈ (perform broker store op).1)
    (other : ∀ envelope instanceId request answer clock,
      op ≠ .exec envelope instanceId request answer clock) : call.execKey? = none := by
  cases op with
  | persist envelope => exact nomatch made
  | create task envelope request grants answer now =>
      change call ∈ (create broker store task envelope request grants answer now).1 at made
      unfold create at made
      split at made
      · exact nomatch made
      split at made
      · exact nomatch made
      · obtain rfl := mem_singleton.1 made
        rfl
  | exec envelope instanceId request answer clock => exact absurd rfl (other _ _ _ _ _)
  | «export» instanceId relativePaths answer =>
      change call ∈ (exportArtifacts broker store instanceId relativePaths answer).1 at made
      unfold exportArtifacts at made
      split at made
      · exact nomatch made
      · obtain rfl := mem_singleton.1 made
        rfl
  | destroy instanceId answer now =>
      change call ∈ (destroy broker store instanceId answer now).1 at made
      unfold destroy at made
      split at made
      · exact nomatch made
      split at made
      · exact nomatch made
      split at made
      · exact nomatch made
      split at made
      · exact nomatch made
      · obtain rfl := mem_singleton.1 made
        rfl

end Calls

/-! ## What one call commits -/

/-- Every instance is of an envelope that is stored. -/
def Persisted (store : SandboxStore) : Prop :=
  ∀ model ∈ store.instances.rows, ∃ run, store.runs.get? model.executionId = some run

section Commits

variable {broker} {store next : SandboxStore}

theorem map_snd_eq_ok {α : Type} {outcome : Except Raised (α × SandboxStore)} :
    outcome.map Prod.snd = .ok next ↔ ∃ answer, outcome = .ok (answer, next) := by
  cases outcome with
  | error raised => simp [Except.map]
  | ok answered =>
      obtain ⟨answer, reached⟩ := answered
      simp [Except.map]

/-- A creation goes on only with the stored envelope. -/
theorem persisted_of_planCreate {request : SandboxCreateRequest} {plan : CreatePlan}
    (planned : planCreate broker store task envelope request grants = .ok plan) :
    ∃ run, store.runs.get? envelope.executionId = some run ∧ run.envelopeJson = envelope := by
  unfold planCreate at planned
  obtain ⟨profile, selected, -⟩ := bind_eq_ok.1 planned
  unfold selectedProfile at selected
  obtain ⟨stored, got, checked⟩ := bind_eq_ok.1 selected
  obtain ⟨rfl, -⟩ := require_bind_eq_ok.1 checked
  exact getExecution_eq_ok.1 got

theorem create_commits {request : SandboxCreateRequest} {answer : Except Raised String}
    {view : SandboxInstance}
    (committed : (create broker store task envelope request grants answer now).2 =
      .ok (view, next)) :
    next = store ∨ next.runs = store.runs ∧ ∃ model,
      next.instances.rows = store.instances.rows ++ [model] ∧
        ∃ run, store.runs.get? model.executionId = some run := by
  unfold create at committed
  split at committed
  next existing =>
    obtain ⟨-, viewed⟩ := require_bind_eq_ok.1 committed
    obtain ⟨_, -, ok⟩ := bind_eq_ok.1 viewed
    cases pure_eq_ok.1 ok
    exact .inl rfl
  next =>
    split at committed
    next => cases committed
    next plan planned =>
      obtain ⟨handle, -, inserts⟩ := bind_eq_ok.1 committed
      obtain ⟨instances, inserted, viewed⟩ := fetch_bind_eq_ok.1 inserts
      obtain ⟨_, -, ok⟩ := bind_eq_ok.1 viewed
      cases pure_eq_ok.1 ok
      obtain ⟨run, stored, -⟩ := persisted_of_planCreate planned
      exact .inr ⟨rfl, _, (insert?_eq_some inserted).1, run, stored⟩

theorem execNew_commits
    (committed : (execNew broker store model handle request audit answer finishedAt).2 =
      .ok (result, next)) : next.runs = store.runs ∧ next.instances = store.instances := by
  unfold execNew at committed
  cases inserted : store.executions.insert? audit with
  | none =>
      rw [inserted] at committed
      cases committed
  | some executions =>
      rw [inserted] at committed
      dsimp only at committed
      by_cases expired : audit.timeoutSeconds ≤ 0
      · rw [if_pos expired] at committed
        cases committed
        exact ⟨rfl, rfl⟩
      by_cases missing : model.backend ∉ broker.backends
      · rw [if_neg expired, if_pos missing] at committed
        cases committed
      rw [if_neg expired, if_neg missing] at committed
      obtain ⟨_, -, validated⟩ := bind_eq_ok.1 committed
      obtain ⟨_, -, ok⟩ := bind_eq_ok.1 validated
      cases pure_eq_ok.1 ok
      exact ⟨rfl, rfl⟩

theorem exec_commits
    (committed : (exec broker store envelope instanceId request answer clock).2 =
      .ok (result, next)) : next.runs = store.runs ∧ next.instances = store.instances := by
  unfold exec at committed
  split at committed
  next => cases committed
  next =>
    split at committed
    next existing _ =>
      obtain ⟨_, -, ok⟩ := fetch_bind_eq_ok.1 committed
      cases pure_eq_ok.1 ok
      exact ⟨rfl, rfl⟩
    next => exact execNew_commits committed

theorem destroy_commits {answer : Except Raised Unit}
    (committed : (destroy broker store instanceId answer now).2 = .ok ((), next)) :
    next.runs = store.runs ∧
      ∀ model ∈ next.instances.rows, ∃ old ∈ store.instances.rows,
        model.executionId = old.executionId := by
  have kept : ∀ model ∈ (store.instances.update instanceId (SandboxInstanceModel.asDestroyed now)
      (SandboxInstanceModel.asDestroyed_id now)).rows, ∃ old ∈ store.instances.rows,
        model.executionId = old.executionId := by
    intro model member
    obtain ⟨old, listed, rfl⟩ := mem_map.1 member
    refine ⟨old, listed, ?_⟩
    split <;> rfl
  unfold destroy at committed
  split at committed
  next => cases committed
  next =>
    split at committed
    next =>
      cases committed
      exact ⟨rfl, fun model member => ⟨model, member, rfl⟩⟩
    next =>
      split at committed
      next =>
        cases committed
        exact ⟨rfl, kept⟩
      next =>
        split at committed
        next => cases committed
        next =>
          obtain ⟨_, -, ok⟩ := bind_eq_ok.1 committed
          cases pure_eq_ok.1 ok
          exact ⟨rfl, kept⟩

/-- **Every call keeps the envelopes of the instances stored.** -/
theorem Persisted.perform (persisted : Persisted store)
    (committed : (perform broker store op).2 = .ok next) : Persisted next := by
  cases op with
  | persist envelope =>
      obtain ⟨⟨answer, runs⟩, created, ok⟩ := bind_eq_ok.1 committed
      cases pure_eq_ok.1 ok
      intro model member
      obtain ⟨run, stored⟩ := persisted model member
      exact ⟨run, get?_createExecution created stored⟩
  | create task envelope request grants answer now =>
      obtain ⟨view, created⟩ := map_snd_eq_ok.1 committed
      rcases create_commits created with rfl | ⟨sameRuns, model, rows, run, stored⟩
      · exact persisted
      · intro other member
        rw [rows] at member
        rw [sameRuns]
        rcases mem_append.1 member with old | new
        · exact persisted other old
        · obtain rfl := mem_singleton.1 new
          exact ⟨run, stored⟩
  | exec envelope instanceId request answer clock =>
      obtain ⟨result, executed⟩ := map_snd_eq_ok.1 committed
      obtain ⟨sameRuns, sameInstances⟩ := exec_commits executed
      unfold Persisted
      rw [sameRuns, sameInstances]
      exact persisted
  | «export» instanceId relativePaths answer =>
      obtain ⟨refs, exported⟩ := map_snd_eq_ok.1 committed
      change (exportArtifacts broker store instanceId relativePaths answer).2 = _ at exported
      unfold exportArtifacts at exported
      split at exported
      · cases exported
      · obtain ⟨_, -, checked⟩ := bind_eq_ok.1 exported
        obtain ⟨-, ok⟩ := require_bind_eq_ok.1 checked
        cases pure_eq_ok.1 ok
        exact persisted
  | destroy instanceId answer now =>
      obtain ⟨_, destroyed⟩ := map_snd_eq_ok.1 committed
      obtain ⟨sameRuns, kept⟩ := destroy_commits destroyed
      intro model member
      obtain ⟨old, listed, same⟩ := kept model member
      rw [sameRuns, same]
      exact persisted old listed

end Commits

/-! ## The run -/

section Run

variable {broker} {state : SandboxState}

/-- **One call of a guarded run** executes within the leases. -/
theorem allowed_of_keepsLease (persisted : Persisted state.store) (keeps : KeepsLease state op)
    (made : call ∈ (perform broker state.store op).1) : Allowed state.store call := by
  by_cases isExec : ∃ envelope instanceId request answer clock,
      op = .exec envelope instanceId request answer clock
  · obtain ⟨envelope, instanceId, request, answer, clock, rfl⟩ := isExec
    obtain ⟨-, model, handle, located, fresh, positive, rfl⟩ := exec_calls made
    obtain ⟨found, same, active, leased⟩ := execInstance_eq_ok located
    obtain ⟨run, stored⟩ := persisted model (mem_of_get? found)
    have bounded := (keeps model found active same fresh).2 run stored
    obtain ⟨before, remaining⟩ := le_remaining_of_boundedTimeout positive bounded
    refine ⟨model, run, found, active, leased, stored, before, remaining, fun wall limited => ?_⟩
    exact execTimeout_le_wall limited
  · have none := execKey?_eq_none made fun envelope instanceId request answer clock same =>
      isExec ⟨envelope, instanceId, request, answer, clock, same⟩
    cases call with
    | exec => cases none
    | create | «export» | destroy => trivial

/-- A guarded call executes nothing that was executed before, and nothing twice. -/
theorem once_of_keepsLease (keeps : KeepsLease state op) (once : state.executed.Nodup) :
    ((state.calls ++ (perform broker state.store op).1).filterMap BackendCall.execKey?).Nodup := by
  rw [filterMap_append]
  by_cases isExec : ∃ envelope instanceId request answer clock,
      op = .exec envelope instanceId request answer clock
  · obtain ⟨envelope, instanceId, request, answer, clock, rfl⟩ := isExec
    rcases made : (exec broker state.store envelope instanceId request answer clock).1 with
      - | ⟨call, rest⟩
    · change (_ ++ ((exec broker state.store envelope instanceId request answer clock).1.filterMap
        BackendCall.execKey?)).Nodup
      rw [made, List.filterMap_nil, append_nil]
      exact once
    · have listed : call ∈ (exec broker state.store envelope instanceId request answer clock).1 := by
        rw [made]
        exact mem_cons_self
      obtain ⟨only, model, handle, located, fresh, -, rfl⟩ := exec_calls listed
      obtain ⟨found, same, active, -⟩ := execInstance_eq_ok located
      have absent := (keeps model found active same fresh).1
      change (_ ++ ((exec broker state.store envelope instanceId request answer clock).1.filterMap
        BackendCall.execKey?)).Nodup
      rw [only]
      exact List.Nodup.append once (nodup_singleton _) (List.disjoint_singleton.2 absent)
  · have none : (perform broker state.store op).1.filterMap BackendCall.execKey? = [] := by
      rw [filterMap_eq_nil_iff]
      intro call made
      exact execKey?_eq_none made fun envelope instanceId request answer clock same =>
        isExec ⟨envelope, instanceId, request, answer, clock, same⟩
    rw [none, append_nil]
    exact once

/-- What a guarded call preserves. -/
theorem kept_of_sandboxSystem {next : SandboxState} {answer : Unit}
    (kept : Persisted state.store ∧ state.executed.Nodup) (keeps : KeepsLease state op)
    (performed : sandboxSystem broker op state = .ok (answer, next)) :
    Persisted next.store ∧ next.executed.Nodup := by
  cases performed
  refine ⟨?_, once_of_keepsLease keeps kept.2⟩
  change Persisted ((perform broker state.store op).2.toOption.getD state.store)
  cases outcome : (perform broker state.store op).2 with
  | error raised => exact kept.1
  | ok reached => exact kept.1.perform outcome

theorem kept_sandboxAfter {ops : List SandboxOp}
    (guarded : Along (sandboxSystem broker) KeepsLease SandboxState.initial ops) :
    Persisted (sandboxAfter broker ops).store ∧ (sandboxAfter broker ops).executed.Nodup := by
  have start : Persisted SandboxState.initial.store ∧ SandboxState.initial.executed.Nodup :=
    ⟨forall_mem_nil _, nodup_nil⟩
  have step : ∀ (state : SandboxState) op answer next,
      Persisted state.store ∧ state.executed.Nodup → KeepsLease state op →
        sandboxSystem broker op state = .ok (answer, next) →
          Persisted next.store ∧ next.executed.Nodup :=
    fun _ _ _ _ kept keeps performed => kept_of_sandboxSystem kept keeps performed
  exact run_invariant_along step start ops guarded

end Run

/-- Whoever asks is given a sandbox. -/
def sandboxPolicy : StaticPolicyEngine where
  policyRevision := "policy-v1"
  rules := [{ policyId := "allow-container-sandbox", policyRevision := "policy-v1"
              decisionPoints := [.sandboxSelection], authorization := some .permit }]
  revision_nonblank := by decide
  rules_revision := by decide

def sandboxBroker : SandboxBroker where
  policy := sandboxPolicy
  backends := ["openshell+docker"]
  available := ["openshell", "docker"]
  digest _ _ := "digest"

/-- The envelope of a verification that has five seconds. -/
def verifyEnvelope : ExecutionEnvelope where
  executionId := "execution"
  taskContractId := "verify"
  taskRunId := "run"
  roleRevision := "InvestigationRole@1"
  contextManifestRevision := 1
  executionProfile := .verify
  deadlineAt := 5000000
  budgetRef := "budget"
  policyRevision := "policy-v1"
  networkPolicy := "proxied"
  sideEffectPolicy := "read-only"
  sandboxProfileRevision := "container_standard@1"
  manifest_pos := Nat.one_ne_zero
  named := by decide

def verifyTask : TaskRuntime.TaskContract where
  taskContractId := "verify"
  contractRevision := 1
  principal := "user:alice"
  taskKind := .verifyVersionFix
  desiredState := [("goal", .string "verify ancestry")]
  effectCeiling := .readOnly
  completionPredicate := [("type", .string "evidence_sufficient")]
  policyRevision := "policy-v1"
  revision_pos := Nat.one_pos

def containerRequest : SandboxCreateRequest where
  requestId := "sandbox-create-1"
  minimumIsolation := .containerStandard

/-- One minute of a program. -/
def programRequest : SandboxExecRequest where
  operationId := "op-1"
  programRef := "program:git-ancestry"
  requestedTimeoutSeconds := 60

def createdSandbox : List SandboxOp :=
  [.persist verifyEnvelope,
    .create verifyTask verifyEnvelope containerRequest {} (.ok "sandbox-handle:1") 0]

def sandboxInstanceId : String := "secfusion:sandbox-instance:execution:sandbox-create-1"

def completedExec (envelope : ExecutionEnvelope) (clock : ExecClock) : SandboxOp :=
  .exec envelope sandboxInstanceId programRequest (.ok { status := "succeeded" }) clock

instance (state : SandboxState) : (op : SandboxOp) → Decidable (KeepsLease state op)
  | .exec envelope instanceId request _ clock => inferInstanceAs (Decidable
      (∀ model ∈ state.store.instances.get? instanceId, _ → _ → _ →
        (instanceId, request.operationId) ∉ state.executed ∧
        ∀ run ∈ state.store.runs.get? model.executionId,
          execTimeout envelope model.leaseJson.profile request clock.now ≤ _))
  | .persist _ | .create .. | .export .. | .destroy .. => inferInstanceAs (Decidable True)

/-- The stored envelope as a caller may bring it, with a later deadline. -/
def extendedEnvelope : ExecutionEnvelope :=
  { verifyEnvelope with deadlineAt := 3600000000, named := by decide }

end SecFusion.Sandbox
