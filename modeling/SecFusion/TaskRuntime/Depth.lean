import SecFusion.TaskRuntime.Delegation

/-!
# How deep a task may be delegated

Two places read `max_depth`.  `validate_child_contract` takes it relative to the
run: a child that may delegate has a smaller ceiling than its parent, so ceilings
`d`, `d - 1`, …, `1` are accepted along a chain.  `create_child_task_run` takes it
from the root: it compares the ceiling of the immediate parent with the length of
the whole chain above the new run.

Both hold of every chain of nested calls (`Delegations.bound`), so the ceiling
falls by one with every generation while the length it is compared with grows by
one, and a chain below a root of ceiling `d` has at most `(d + 1) / 2` calls.
-/

namespace SecFusion.TaskRuntime

open Foundations

/-! ## Chains of calls -/

/-- **Nested calls**: the contracts of a chain of accepted `create_child_task_run`
calls that starts below a run, each call made by the run the call before it has
created, with any other calls in between. -/
inductive Delegations : TaskStore → String → List TaskContract → Prop
  | nil (store : TaskStore) (runId : String) : Delegations store runId []
  | cons {store next : TaskStore} {request : CreateChildTaskRun} {uuid eventId : String} {now : ℤ}
      {view : TaskRun} {contracts : List TaskContract} (others : List TaskOp)
      (created : createChildTaskRun (run taskService store others) request uuid eventId now =
        .ok (view, next))
      (rest : Delegations next view.runId contracts) :
      Delegations store request.parentRunId (request.childContract :: contracts)

/-- A run that nobody has delegated, with its contract. -/
def RootRun (store : TaskStore) (runId : String) (contract : TaskContract) : Prop :=
  (∃ row, store.runs.get? runId = some row ∧ row.parentRunId = none) ∧
    contractOf? store runId = some contract

/-- What the parent's ceiling asks of a child apart from its depth. -/
structure Permitted (parent child : TaskContract) : Prop where
  kind : child.taskKind ∈ parent.delegationCeiling.allowedTaskKinds
  effect : effectWithinCeiling child.effectCeiling
    parent.delegationCeiling.childEffectCeiling = true
  delegated : effectWithinCeiling child.delegationCeiling.childEffectCeiling
    parent.delegationCeiling.childEffectCeiling = true

/-- **The ceilings `d`, `d - 1`, …, `1`**, with delegation disabled at the last of
the `d` children, kinds and effects being permitted. -/
structure Ladder (d : ℕ) (root : TaskContract) (children : List TaskContract) : Prop where
  length : children.length = d
  ceilings : (root :: children).map (·.delegationCeiling.maxDepth) = (List.range (d + 1)).reverse
  disabled : ∀ last ∈ children.getLast?, last.delegationCeiling.allowed = false
  permitted : (root :: children).IsChain Permitted

/-! ## The depth of a run -/

/-- The number of runs above a run. -/
inductive HasDepth (store : TaskStore) : String → ℕ → Prop
  | root {runId : String} {row : TaskRunModel} (found : store.runs.get? runId = some row)
      (parent : row.parentRunId = none) : HasDepth store runId 0
  | child {runId parentRunId : String} {depth : ℕ} (parentOf : ParentOf store parentRunId runId)
      (above : HasDepth store parentRunId depth) : HasDepth store runId (depth + 1)

variable {store next : TaskStore} {runId uuid eventId : String} {depth : ℕ}
  {contract parent root : TaskContract} {request : CreateChildTaskRun} {now : ℤ} {view : TaskRun}
  {contracts : List TaskContract}

theorem HasDepth.unique {first second : ℕ} (left : HasDepth store runId first)
    (right : HasDepth store runId second) : first = second := by
  induction left generalizing second with
  | root found parent =>
      cases right with
      | root => rfl
      | child parentOf =>
          obtain ⟨row, other, named⟩ := parentOf
          obtain rfl := mem_unique other found
          rw [parent] at named
          cases named
  | child parentOf _ ih =>
      obtain ⟨row, found, named⟩ := parentOf
      cases right with
      | root other parent =>
          obtain rfl := mem_unique other found
          rw [parent] at named
          cases named
      | child otherParent above =>
          obtain ⟨other, otherFound, otherNamed⟩ := otherParent
          obtain rfl := mem_unique otherFound found
          obtain rfl := mem_unique otherNamed named
          rw [ih above]

theorem depthLoop_ok {seen : List String} {counted rounds : ℕ} {current : String}
    (ok : depthLoop store seen counted current rounds = .ok depth) :
    ∃ above, HasDepth store current above ∧ depth = counted + above := by
  induction rounds generalizing seen counted current with
  | zero => cases ok
  | succ rounds ih =>
      unfold depthLoop at ok
      split at ok
      next => cases ok
      next =>
      split at ok
      next => cases ok
      next row found =>
      split at ok
      next top =>
        cases ok
        exact ⟨0, .root found top, rfl⟩
      next parent named =>
        obtain ⟨above, has, rfl⟩ := ih ok
        refine ⟨above + 1, .child ⟨row, found, named⟩ has, ?_⟩
        omega

theorem delegationDepth_ok (ok : delegationDepth store runId = .ok depth) :
    HasDepth store runId depth := by
  obtain ⟨above, has, rfl⟩ := depthLoop_ok ok
  rw [Nat.zero_add]
  exact has

theorem HasDepth.effect (has : HasDepth store runId depth) (effect : Effect store next) :
    HasDepth next runId depth := by
  induction has with
  | root found parent =>
      obtain ⟨later, laterFound, same⟩ := effect.sameRun found
      exact .root laterFound (same.parent.trans parent)
  | child parentOf _ ih =>
      obtain ⟨row, found, named⟩ := parentOf
      obtain ⟨later, laterFound, same⟩ := effect.sameRun found
      exact .child ⟨later, laterFound, same.parent.trans named⟩ ih

/-- Calls leave the depth and the contract of a run. -/
theorem kept_of_run (has : HasDepth store runId depth)
    (found : contractOf? store runId = some contract) (ops : List TaskOp) :
    HasDepth (run taskService store ops) runId depth ∧
      contractOf? (run taskService store ops) runId = some contract := by
  have step : ∀ (store : TaskStore) (op : TaskOp) (answer : TaskAnswer) (next : TaskStore),
      HasDepth store runId depth ∧ contractOf? store runId = some contract →
        taskService op store = .ok (answer, next) →
          HasDepth next runId depth ∧ contractOf? next runId = some contract := by
    rintro store op answer next ⟨has, found⟩ ok
    have effect := effect_of_ok ok
    exact ⟨has.effect effect, effect.contractOf? found⟩
  exact run_invariant step ⟨has, found⟩ ops

/-! ## One call -/

theorem createTaskRun_view {request : CreateTaskRun}
    (ok : createTaskRun store request uuid eventId now = .ok (view, next)) :
    view.runId = resolveRunId request.runId uuid := by
  unfold createTaskRun at ok
  simp only [require_bind_eq_ok] at ok
  obtain ⟨-, -, -, ok⟩ := ok
  obtain ⟨_, -, ok⟩ := bind_eq_ok.1 ok
  obtain ⟨⟨_, first⟩, -, ok⟩ := bind_eq_ok.1 ok
  obtain ⟨⟨_, grown⟩, -, ok⟩ := bind_eq_ok.1 ok
  obtain ⟨contractRow, -, ok⟩ := bind_eq_ok.1 ok
  obtain ⟨contextRow, -, ok⟩ := bind_eq_ok.1 ok
  simp only [require_bind_eq_ok, fetch_bind_eq_ok] at ok
  obtain ⟨-, runs, -, ok⟩ := ok
  obtain ⟨⟨_, last⟩, -, ok⟩ := bind_eq_ok.1 ok
  cases ok
  rfl

/-- The depth check of `create_child_task_run`. -/
theorem createChildTaskRun_depth
    (ok : createChildTaskRun store request uuid eventId now = .ok (view, next)) :
    ∃ parent depth, contractOf? store request.parentRunId = some parent ∧
      HasDepth store request.parentRunId depth ∧
      depth + 1 ≤ parent.delegationCeiling.maxDepth := by
  unfold createChildTaskRun at ok
  simp only [fetch_bind_eq_ok, require_bind_eq_ok] at ok
  obtain ⟨_, -, -, ok⟩ := ok
  obtain ⟨parent, found, ok⟩ := bind_eq_ok.1 ok
  obtain ⟨_, -, ok⟩ := bind_eq_ok.1 ok
  obtain ⟨depth, counted, ok⟩ := bind_eq_ok.1 ok
  obtain ⟨bounded, -⟩ := require_bind_eq_ok.1 ok
  exact ⟨parent, depth, toOption_eq_some.2 found, delegationDepth_ok counted, bounded⟩

/-- A child has a smaller ceiling than its parent, may it delegate or not. -/
theorem Conforms.maxDepth {child : TaskContract} (conforms : Conforms parent child) :
    child.delegationCeiling.maxDepth < parent.delegationCeiling.maxDepth := by
  cases granted : child.delegationCeiling.allowed with
  | true => exact conforms.depth granted
  | false =>
      rw [(child.delegationCeiling.disabled_shape granted).1]
      exact parent.delegationCeiling.enabled_depth conforms.allowed

/-- **One nested call**: the ceiling of the parent covers the depth of the child,
which is one deeper and has a smaller ceiling. -/
theorem createChildTaskRun_nested (found : contractOf? store request.parentRunId = some parent)
    (has : HasDepth store request.parentRunId depth)
    (ok : createChildTaskRun store request uuid eventId now = .ok (view, next)) :
    depth + 1 ≤ parent.delegationCeiling.maxDepth ∧
      request.childContract.delegationCeiling.maxDepth < parent.delegationCeiling.maxDepth ∧
      contractOf? next view.runId = some request.childContract ∧
      HasDepth next view.runId (depth + 1) := by
  obtain ⟨_, _, otherFound, otherHas, bounded⟩ := createChildTaskRun_depth ok
  obtain rfl := mem_unique otherFound found
  obtain rfl := otherHas.unique has
  obtain ⟨manifest, created⟩ := createChildTaskRun_ok ok
  obtain ⟨grown, runs, contractRow, contextVersionId, grows, contract, sameContract, delegated, -,
    inserted, logs⟩ := createTaskRun_ok created
  obtain ⟨row, version, rowFound, -, versionFound, conforms⟩ :=
    delegated request.parentRunId rfl
  have stored : contractOf? store request.parentRunId = some version.contractJson :=
    contractOf?_eq_some.2 ⟨row, version, rowFound, versionFound, rfl⟩
  obtain rfl := mem_unique stored found
  have named : view.runId = resolveRunId request.runId uuid := createTaskRun_view created
  have present : next.runs.get? view.runId = some (newTaskRun (request.toCreate manifest)
      (resolveRunId request.runId uuid) contractRow.taskContractVersionId contextVersionId now) := by
    rw [logs.runs, named]
    exact (get?_insert? inserted _).trans (if_pos rfl)
  refine ⟨bounded, conforms.maxDepth, ?_, ?_⟩
  · refine contractOf?_eq_some.2 ⟨_, contractRow, present, ?_, sameContract⟩
    rw [logs.contracts]
    exact contract
  · exact .child ⟨_, present, rfl⟩ (has.effect (.of_create created))

/-! ## Whole chains -/

/-- Each generation costs one of the ceiling and adds one to what it is compared
with. -/
theorem Delegations.bound (delegations : Delegations store runId contracts)
    (found : contractOf? store runId = some contract) (has : HasDepth store runId depth)
    (nonempty : contracts ≠ []) :
    2 * contracts.length + depth ≤ contract.delegationCeiling.maxDepth + 1 := by
  induction delegations generalizing contract depth with
  | nil => exact absurd rfl nonempty
  | @cons store next request uuid eventId now view later others created rest ih =>
      obtain ⟨stillHas, stillFound⟩ := kept_of_run has found others
      obtain ⟨bounded, smaller, childFound, childHas⟩ :=
        createChildTaskRun_nested stillFound stillHas created
      cases later with
      | nil =>
          simp only [List.length_singleton]
          omega
      | cons following tail =>
          have below := ih childFound childHas (cons_ne_nil _ _)
          simp only [List.length_cons] at below ⊢
          omega

/-- A chain below a root is at most half as long as the ceiling of the root. -/
theorem Delegations.length_le (isRoot : RootRun store runId root)
    (delegations : Delegations store runId contracts) :
    2 * contracts.length ≤ root.delegationCeiling.maxDepth + 1 := by
  obtain ⟨⟨row, found, top⟩, contract⟩ := isRoot
  cases contracts with
  | nil => simp
  | cons first rest => exact delegations.bound contract (.root found top) (cons_ne_nil _ _)

/-- A root of ceiling `d` admits `d` nested calls. -/
def AdmitsChain (d : ℕ) : Prop :=
  ∃ ops runId root children, Ladder d root children ∧ RootRun (storeAfter ops) runId root ∧
    Delegations (storeAfter ops) runId children

/-- No chain below a root of ceiling `d` is longer than `d`. -/
def BoundsChains (d : ℕ) : Prop :=
  ∀ ops runId root contracts, RootRun (storeAfter ops) runId root →
    root.delegationCeiling.maxDepth = d → Delegations (storeAfter ops) runId contracts →
      contracts.length ≤ d

theorem Ladder.root_maxDepth {d : ℕ} {children : List TaskContract}
    (ladder : Ladder d root children) : root.delegationCeiling.maxDepth = d := by
  have ceilings := ladder.ceilings
  rw [List.range_succ, List.reverse_append] at ceilings
  exact (List.cons.inj ceilings).1

/-- An investigation and its enrichment have been created. -/
theorem admitsChain_one : AdmitsChain 1 := by
  refine ⟨delegatedRun.take 3, "parent", investigationContract, [enrichmentContract], ?_, ?_, ?_⟩
  · exact ⟨rfl, rfl, by decide, .cons_cons ⟨by decide, by decide, by decide⟩ (.singleton _)⟩
  · have row : ((storeAfter (delegatedRun.take 3)).runs.get? "parent").map (·.parentRunId) =
        some none := by
      decide +kernel
    exact ⟨map_eq_some_iff.1 row, by decide +kernel⟩
  · have created : ((createChildTaskRun (storeAfter (delegatedRun.take 3))
        { parentRunId := "parent", childContract := enrichmentContract,
          childRole := enrichmentRole, contextSpec := enrichmentSpec,
          executionEnvelopeRef := "execution:child", streamName := "task-events",
          runId := some "child" } "uuid-2" "event-4" 4).toOption.isSome) = true := by
      decide +kernel
    obtain ⟨⟨view, next⟩, ok⟩ := isSome_iff_exists.1 created
    exact .cons [] (toOption_eq_some.1 ok) (.nil next view.runId)

/-- **Delegation depth.**  No chain of nested calls is longer than the ceiling of
its root; but the chain of `d` calls that the ceilings describe is accepted for
`d = 1` only. -/
theorem delegation_depth (d : ℕ) (positive : 1 ≤ d) :
    (AdmitsChain d ∧ BoundsChains d) ↔ d = 1 := by
  have bounds : BoundsChains d := by
    intro ops runId root contracts isRoot ceiling delegations
    have length := delegations.length_le isRoot
    omega
  constructor
  · rintro ⟨⟨ops, runId, root, children, ladder, isRoot, delegations⟩, -⟩
    have length := delegations.length_le isRoot
    rw [ladder.root_maxDepth, ladder.length] at length
    omega
  · rintro rfl
    exact ⟨admitsChain_one, bounds⟩

theorem delegation_depth_one : AdmitsChain 1 ∧ BoundsChains 1 :=
  (delegation_depth 1 (le_refl 1)).2 rfl

/-- Two nested calls below a root of ceiling two are never accepted: the second
is two levels below the root, and its parent's ceiling is one. -/
theorem delegation_depth_two : ¬ ∀ d, 1 ≤ d → AdmitsChain d ∧ BoundsChains d := by
  intro claimed
  obtain ⟨ops, runId, root, children, ladder, isRoot, delegations⟩ := (claimed 2 one_le_two).1
  have length := delegations.length_le isRoot
  rw [ladder.root_maxDepth, ladder.length] at length
  omega

end SecFusion.TaskRuntime
