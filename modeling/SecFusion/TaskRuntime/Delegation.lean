import SecFusion.TaskRuntime.Replay

/-!
# What a run may hand down

A child is created only if its parent's contract accepts the contract of the
child (`Conforms`), and the check looks at that one pair.  What a chain of
delegations can reach is therefore what composes along pairs.

Effects do: the child's own effect and the effects it may delegate stay within
what the parent may delegate, and this within the parent's own.  Task kinds do
not: a child may list kinds to delegate that its parent does not, and a
grandchild of such a kind passes both checks (`kind_escapes`).  With the missing
comparison (`KeepsKinds`) kinds compose as well, and `delegation_attenuates` is
the whole statement for every descendant and every ancestor.
-/

namespace SecFusion.TaskRuntime

open Foundations

/-! ## Contracts -/

/-- What a descendant has to observe of each of its ancestors. -/
structure Within (ancestor descendant : TaskContract) : Prop where
  effect : effectWithinCeiling descendant.effectCeiling ancestor.effectCeiling = true
  delegated : effectWithinCeiling descendant.effectCeiling
    ancestor.delegationCeiling.childEffectCeiling = true
  kind : descendant.taskKind ∈ ancestor.delegationCeiling.allowedTaskKinds

/-- The kinds a child may delegate are kinds its parent may delegate. -/
def KindsWithin (parent child : TaskContract) : Prop :=
  child.delegationCeiling.allowedTaskKinds ⊆ parent.delegationCeiling.allowedTaskKinds

variable {parent child contract : TaskContract} {store next : TaskStore} {runId : String}
  {row : TaskRunModel} {op : TaskOp} {answer : TaskAnswer}

theorem Conforms.within (conforms : Conforms parent child) :
    Within parent child where
  effect := effectWithinCeiling_trans conforms.effect (parent.delegated_effect conforms.allowed)
  delegated := conforms.effect
  kind := conforms.kind

/-- What a child may delegate is within what its parent may. -/
theorem Conforms.childEffect (conforms : Conforms parent child) :
    effectWithinCeiling child.delegationCeiling.childEffectCeiling
      parent.delegationCeiling.childEffectCeiling = true := by
  cases granted : child.delegationCeiling.allowed with
  | true => exact conforms.delegatedEffect granted
  | false =>
      rw [(child.delegationCeiling.disabled_shape granted).2.2]
      simp [effectWithinCeiling, EffectCeiling.rank]

/-- One more generation. -/
theorem Within.of_parent {descendant : TaskContract} (within : Within child descendant)
    (conforms : Conforms parent child) (kinds : KindsWithin parent child) :
    Within parent descendant := by
  have delegated := effectWithinCeiling_trans within.delegated conforms.childEffect
  exact ⟨effectWithinCeiling_trans delegated (parent.delegated_effect conforms.allowed), delegated,
    kinds within.kind⟩

/-! ## Runs -/

/-- The contract of a run, as `get_task_contract_for_run` reads it. -/
def contractOf? (store : TaskStore) (runId : String) : Option TaskContract :=
  (getTaskContractForRun store runId).toOption

theorem contractOf?_eq_some :
    contractOf? store runId = some contract ↔
      ∃ run row, store.runs.get? runId = some run ∧
        store.contracts.get? run.taskContractVersionId = some row ∧
        row.contractJson = contract := by
  rw [contractOf?, toOption_eq_some]
  unfold getTaskContractForRun getRun
  simp only [fetch_bind_eq_ok, pure_eq_ok]
  constructor
  · rintro ⟨run, found, row, rowFound, same⟩
    exact ⟨run, row, found, rowFound, same⟩
  · rintro ⟨run, row, found, rowFound, same⟩
    exact ⟨run, found, row, rowFound, same⟩

/-- One run is the parent of the other. -/
def ParentOf (store : TaskStore) (parentRunId childRunId : String) : Prop :=
  ∃ child, store.runs.get? childRunId = some child ∧ child.parentRunId = some parentRunId

/-- One run is a proper ancestor of the other. -/
def AncestorOf (store : TaskStore) : String → String → Prop :=
  TransGen (ParentOf store)

/-- The contract of the run a call creates, and its parent. -/
def TaskOp.creates : TaskOp → Option (TaskContract × Option String)
  | .create request _ _ _ => some (request.contract, request.parentRunId)
  | .createChild request _ _ _ => some (request.childContract, some request.parentRunId)
  | .claim .. | .updateContext .. | .transition .. | .append .. | .consume .. => none

/-- **The comparison that is missing**: a child that is created lists no kinds to
delegate that its parent does not. -/
def KeepsKinds (store : TaskStore) (op : TaskOp) : Prop :=
  ∀ created ∈ op.creates, ∀ parentRunId ∈ created.2,
    ∀ parentContract ∈ contractOf? store parentRunId, KindsWithin parentContract created.1

/-- Every run that has a parent has the contract of a child of it. -/
def Attenuated (store : TaskStore) : Prop :=
  ∀ parentRunId childRunId, ParentOf store parentRunId childRunId →
    ∃ parent child, contractOf? store parentRunId = some parent ∧
      contractOf? store childRunId = some child ∧ Conforms parent child ∧ KindsWithin parent child

theorem Attenuated.empty : Attenuated TaskStore.empty := by
  rintro parentRunId childRunId ⟨child, found, -⟩
  simp [TaskStore.empty] at found

/-- A contract that is stored stays. -/
theorem Effect.contracts (effect : Effect store next) {id : String} {row : TaskContractVersionModel}
    (found : store.contracts.get? id = some row) :
    next.contracts.get? id = some row := by
  cases effect with
  | idle => exact found
  | logged logs =>
      rw [logs.contracts]
      exact found
  | created grows _ _ _ _ _ logs =>
      rw [logs.contracts]
      exact grows.contracts id row found
  | rewritten grows _ _ _ _ logs =>
      rw [logs.contracts]
      exact grows.contracts id row found

/-- The contract of a run stays. -/
theorem Effect.contractOf? (effect : Effect store next)
    (found : contractOf? store runId = some contract) :
    contractOf? next runId = some contract := by
  obtain ⟨run, row, runFound, rowFound, same⟩ := contractOf?_eq_some.1 found
  obtain ⟨later, laterFound, sameRun⟩ := effect.sameRun runFound
  refine contractOf?_eq_some.2 ⟨later, row, laterFound, ?_, same⟩
  rw [sameRun.contract]
  exact effect.contracts rowFound

/-- The row a call leaves for a run that it met, with the parent it had. -/
theorem Effect.parentOf_before (effect : Effect store next) {parentRunId childRunId : String}
    (parentOf : ParentOf next parentRunId childRunId) {before : TaskRunModel}
    (found : store.runs.get? childRunId = some before) :
    ParentOf store parentRunId childRunId := by
  obtain ⟨child, childFound, parent⟩ := parentOf
  obtain ⟨later, laterFound, sameRun⟩ := effect.sameRun found
  obtain rfl := mem_unique laterFound childFound
  exact ⟨before, found, sameRun.parent.symm.trans parent⟩

/-- What is known of a run that a call has created. -/
def Born (store next : TaskStore) (op : TaskOp) (runId : String) : Prop :=
  ∃ contract parent, op.creates = some (contract, parent) ∧
    contractOf? next runId = some contract ∧
    (∀ row, next.runs.get? runId = some row → row.parentRunId = parent) ∧
    ∀ parentRunId ∈ parent, Delegated store contract parentRunId

theorem Born.of_create {request : CreateTaskRun} {uuid eventId : String} {now : ℤ} {view : TaskRun}
    (creates : op.creates = some (request.contract, request.parentRunId))
    (ok : createTaskRun store request uuid eventId now = .ok (view, next))
    (absent : store.runs.get? runId = none) (present : next.runs.get? runId = some row) :
    Born store next op runId := by
  obtain ⟨grown, runs, contractRow, contextVersionId, grows, contract, sameContract, delegated, -,
    inserted, logs⟩ := createTaskRun_ok ok
  have lookup : runs.get? runId = some row := by
    rw [← present, logs.runs]
  rw [get?_insert? inserted, grows.runs, absent] at lookup
  split at lookup
  next named =>
    have made := Option.some.inj lookup
    refine ⟨request.contract, request.parentRunId, creates, ?_, ?_, delegated⟩
    · refine contractOf?_eq_some.2 ⟨row, contractRow, present, ?_, sameContract⟩
      rw [logs.contracts, ← made]
      exact contract
    · intro other found
      obtain rfl := mem_unique found present
      rw [← made]
      rfl
  next => cases lookup

/-- A run that is new after a call has been created by it. -/
theorem born_of_ok (ok : taskService op store = .ok (answer, next))
    (absent : store.runs.get? runId = none) (present : next.runs.get? runId = some row) :
    Born store next op runId := by
  have rewritten : ∀ {grown : TaskStore} {changed eventId : String} {now : ℤ}
      {rewrite : TaskRunModel → TaskRunModel} {keeps : ∀ run, (rewrite run).runId = run.runId}
      {request : EventRequest}, Grows store grown →
        ¬ Logs (grown.updateRun changed rewrite keeps) request eventId now next := by
    intro grown changed eventId now rewrite keeps request grows logs
    rcases row_of_rewrite grows logs present with ⟨-, before, found, -⟩ | found <;>
      rw [absent] at found <;> cases found
  have same : next ≠ store := by
    rintro rfl
    rw [absent] at present
    cases present
  cases taskService_called ok with
  | create called =>
      exact .of_create rfl called absent present
  | createChild called =>
      obtain ⟨manifest, created⟩ := createChildTaskRun_ok called
      exact .of_create rfl created absent present
  | claim called =>
      obtain ⟨run, -, ⟨-, -, unchanged⟩ | ⟨-, -, logs⟩⟩ := claimQueuedTaskRun_ok called
      · exact absurd unchanged same
      · exact absurd logs (rewritten (.refl store))
  | updateContext called =>
      obtain ⟨run, grown, contextVersionId, -, -, grows, logs⟩ := updateTaskContext_ok called
      exact absurd logs (rewritten grows)
  | transition called =>
      obtain ⟨run, -, -, -, logs⟩ := transitionTaskRun_ok called
      exact absurd logs (rewritten (.refl store))
  | append called =>
      rw [(appendTaskEvent_ok called).runs, absent] at present
      cases present
  | consume called =>
      obtain ⟨event, -, processed⟩ := consumeEvent_ok called
      rcases processEvent_ok processed with ⟨-, -, unchanged⟩ | ⟨parent, view, -, -, moved⟩
      · exact absurd unchanged same
      · obtain ⟨run, -, -, -, logs⟩ := transitionTaskRun_ok moved
        exact absurd logs (rewritten (.refl store))

/-- One call keeps the tree attenuated. -/
theorem Attenuated.step (attenuated : Attenuated store) (keeps : KeepsKinds store op)
    (ok : taskService op store = .ok (answer, next)) : Attenuated next := by
  have effect := effect_of_ok ok
  intro parentRunId childRunId parentOf
  cases present : store.runs.get? childRunId with
  | some before =>
      obtain ⟨parent, child, parentContract, childContract, conforms, kinds⟩ :=
        attenuated parentRunId childRunId (effect.parentOf_before parentOf present)
      exact ⟨parent, child, effect.contractOf? parentContract, effect.contractOf? childContract,
        conforms, kinds⟩
  | none =>
      obtain ⟨row, found, ofParent⟩ := parentOf
      obtain ⟨contract, parent, creates, childContract, parents, delegated⟩ :=
        born_of_ok ok present found
      obtain rfl : parent = some parentRunId := (parents row found).symm.trans ofParent
      obtain ⟨parentRow, parentVersion, parentFound, -, versionFound, conforms⟩ :=
        delegated parentRunId rfl
      have parentContract : contractOf? store parentRunId = some parentVersion.contractJson :=
        contractOf?_eq_some.2 ⟨parentRow, parentVersion, parentFound, versionFound, rfl⟩
      exact ⟨parentVersion.contractJson, contract, effect.contractOf? parentContract, childContract,
        conforms, keeps _ creates parentRunId rfl _ parentContract⟩

/-- Along a chain of parents every contract is within every earlier one. -/
theorem Attenuated.within (attenuated : Attenuated store) {ancestor descendant : String}
    (chain : AncestorOf store ancestor descendant) :
    ∃ high low, contractOf? store ancestor = some high ∧
      contractOf? store descendant = some low ∧ Within high low := by
  -- induction on the chain from its upper end: each round adds one earlier generation
  induction chain using Relation.TransGen.head_induction_on with
  | single parentOf =>
      obtain ⟨parent, child, parentContract, childContract, conforms, -⟩ := attenuated _ _ parentOf
      exact ⟨parent, child, parentContract, childContract, conforms.within⟩
  | head parentOf _ ih =>
      obtain ⟨parent, child, parentContract, childContract, conforms, kinds⟩ :=
        attenuated _ _ parentOf
      obtain ⟨high, low, highContract, lowContract, within⟩ := ih
      obtain rfl := mem_unique highContract childContract
      exact ⟨parent, low, parentContract, lowContract, within.of_parent conforms kinds⟩

/-- **Delegation attenuates.**  In every tree that is built by calls that keep the
kinds, every descendant of a run has an effect within the effects of the run and
within those it may delegate, and is of a kind it may delegate. -/
theorem delegation_attenuates (ops : List TaskOp)
    (keeps : Along taskService KeepsKinds TaskStore.empty ops) (ancestor descendant : String)
    (chain : AncestorOf (storeAfter ops) ancestor descendant) :
    ∃ high low, getTaskContractForRun (storeAfter ops) ancestor = .ok high ∧
      getTaskContractForRun (storeAfter ops) descendant = .ok low ∧ Within high low := by
  have attenuated : Attenuated (storeAfter ops) :=
    run_invariant_along (fun _ _ _ _ attenuated keeps answered => attenuated.step keeps answered)
      Attenuated.empty ops keeps
  obtain ⟨high, low, highContract, lowContract, within⟩ := attenuated.within chain
  exact ⟨high, low, toOption_eq_some.1 highContract, toOption_eq_some.1 lowContract, within⟩

/-! ## A chain of three runs -/

/-- An investigation that may delegate the investigation of a relation, and
nothing else. -/
def relationsOnly : TaskContract :=
  { investigationContract with
    delegationCeiling :=
      { allowed := true, maxDepth := 3, allowedTaskKinds := [.investigateRelation],
        childEffectCeiling := .internalState } }

/-- The investigation of a relation, which may delegate tasks of the given kinds. -/
def relationContract (kinds : List TaskKind) : TaskContract :=
  { investigationContract with
    taskContractId := "relation"
    taskKind := .investigateRelation
    delegationCeiling :=
      { allowed := true, maxDepth := 2, allowedTaskKinds := kinds,
        childEffectCeiling := .internalState,
        disabled_shape := nofun,
        enabled_depth := fun _ => one_le_two }
    delegated_effect := fun _ => rfl }

/-- `canonical_role_profiles()["InvestigationRole"]`. -/
def canonicalInvestigationRole : RoleProfile :=
  ⟨"InvestigationRole", "1", [.verifyVersionFix, .resolveConflict, .investigateRelation,
    .investigateIncident, .watchIncident, .assessNormativeApplicability, .observeLiveAsset]⟩

def relationSpec : ChildContextSpec :=
  { enrichmentSpec with contextId := "context:relation", context_nonblank := by decide }

/-- The run `name` is queued and claimed. -/
def started (name : String) : List TaskOp :=
  [ .transition { runId := name, target := .queued, payloadRef := "queue:" ++ name,
                  idempotencyKey := "queue:" ++ name, streamName := "task-events" }
      ("queued:" ++ name) 2,
    .claim name "task-events" "task-runtime-executor" ("claimed:" ++ name) 3 ]

/-- `parent` delegates to `relation`, and `relation` to a `grandchild` of the
given contract. -/
def twoGenerations (kinds : List TaskKind) (grandchild : TaskContract) (role : RoleProfile) :
    List TaskOp :=
  [ .create { contract := relationsOnly, manifest := parentManifest,
              role := canonicalInvestigationRole, executionEnvelopeRef := "execution:parent",
              streamName := "task-events", runId := some "parent" } "uuid-1" "created:parent" 1 ]
    ++ started "parent" ++
  [ .createChild { parentRunId := "parent", childContract := relationContract kinds,
                   childRole := canonicalInvestigationRole, contextSpec := relationSpec,
                   executionEnvelopeRef := "execution:relation", streamName := "task-events",
                   runId := some "relation" } "uuid-2" "created:relation" 4 ]
    ++ started "relation" ++
  [ .createChild { parentRunId := "relation", childContract := grandchild, childRole := role,
                   contextSpec := enrichmentSpec,
                   executionEnvelopeRef := "execution:grandchild", streamName := "task-events",
                   runId := some "grandchild" } "uuid-3" "created:grandchild" 5 ]

/-- A grandchild that is again the investigation of a relation. -/
def nestedRelation : TaskContract :=
  { relationContract [] with
    taskContractId := "nested-relation"
    delegationCeiling := enrichmentContract.delegationCeiling
    delegated_effect := enrichmentContract.delegated_effect }

instance keepsKindsDecidable (store : TaskStore) (op : TaskOp) : Decidable (KeepsKinds store op) :=
  inferInstanceAs (Decidable (∀ created ∈ op.creates, ∀ parentRunId ∈ created.2,
    ∀ parentContract ∈ contractOf? store parentRunId,
      created.1.delegationCeiling.allowedTaskKinds ⊆
        parentContract.delegationCeiling.allowedTaskKinds))

/-- In a store given by evaluation, the first run is the grandparent of the third. -/
theorem ancestorOf_of_rows {first third : String} (second : String)
    (child : (store.runs.get? second).map (·.parentRunId) = some (some first))
    (grandchild : (store.runs.get? third).map (·.parentRunId) = some (some second)) :
    AncestorOf store first third := by
  have step : ∀ {parent child : String},
      (store.runs.get? child).map (·.parentRunId) = some (some parent) →
        ParentOf store parent child :=
    fun found => map_eq_some_iff.1 found
  exact (Relation.TransGen.single (step child)).tail (step grandchild)

theorem delegation_attenuates_nested :
    ∃ high low,
      getTaskContractForRun (storeAfter (twoGenerations [.investigateRelation] nestedRelation
        canonicalInvestigationRole)) "parent" = .ok high ∧
      getTaskContractForRun (storeAfter (twoGenerations [.investigateRelation] nestedRelation
        canonicalInvestigationRole)) "grandchild" = .ok low ∧ Within high low :=
  delegation_attenuates (twoGenerations [.investigateRelation] nestedRelation
      canonicalInvestigationRole) (by decide +kernel) "parent" "grandchild"
    (ancestorOf_of_rows "relation" (by decide +kernel) (by decide +kernel))

/-- A child may delegate what its parent may not: the grandchild is an
enrichment, which the grandparent was not allowed to delegate. -/
theorem kind_escapes :
    ¬ ∀ (ops : List TaskOp) (ancestor descendant : String) (high low : TaskContract),
      AncestorOf (storeAfter ops) ancestor descendant →
        getTaskContractForRun (storeAfter ops) ancestor = .ok high →
          getTaskContractForRun (storeAfter ops) descendant = .ok low → Within high low := by
  intro attenuates
  have within : Within relationsOnly enrichmentContract :=
    attenuates (twoGenerations [.enrichment] enrichmentContract enrichmentRole)
      "parent" "grandchild" relationsOnly enrichmentContract
      (ancestorOf_of_rows "relation" (by decide +kernel) (by decide +kernel)) (by decide +kernel)
      (by decide +kernel)
  have refused : enrichmentContract.taskKind ∉ relationsOnly.delegationCeiling.allowedTaskKinds := by
    decide
  exact refused within.kind

end SecFusion.TaskRuntime
