import SecFusion.TaskRuntime.Materializer
import SecFusion.TaskRuntime.Replay

/-!
# What the model is told

A request is written from the list of the identifiers of an assembly, and each identifier
is looked up again among the fragments.  So a request tells every fragment once, and does
not depend on the order in which the fragments were given, if and only if the identifiers
differ: the sorting key then tells the fragments apart, and the lookup finds the fragment
that it started from.
-/

namespace SecFusion.TaskRuntime

open Foundations

variable {hashing : Hashing}

/-! ## Requests -/

theorem fragmentId_of_fragmentPayload_eq {first second : MaterializedFragment hashing}
    (same : fragmentPayload first = fragmentPayload second) :
    first.fragmentId = second.fragmentId := by
  simp only [fragmentPayload, object.injEq, cons.injEq, mk.injEq,
    string.injEq] at same
  exact same.2.2.2.2.1.2

section Requests

variable (assembly : PromptAssembly hashing) (ordered : List (MaterializedFragment hashing))

@[simp] theorem instructionFragments_requestWith :
    (assembly.requestWith hashing ordered).instructionFragments =
      (ordered.filter fun fragment => fragment.trustClass.isInstruction).map fragmentPayload := by
  simp [StructuredModelRequest.instructionFragments, PromptAssembly.requestWith,
    JsonObject.items, JsonObject.get?, JsonValue.items?]

@[simp] theorem dataFragments_requestWith :
    (assembly.requestWith hashing ordered).dataFragments =
      (ordered.filter fun fragment => !fragment.trustClass.isInstruction).map fragmentPayload := by
  simp [StructuredModelRequest.dataFragments, PromptAssembly.requestWith,
    JsonObject.items, JsonObject.get?, JsonValue.items?]

/-- Instruction and data share the fragments out. -/
theorem fragments_requestWith_perm :
    ((assembly.requestWith hashing ordered).instructionFragments ++
      (assembly.requestWith hashing ordered).dataFragments).Perm (ordered.map fragmentPayload) := by
  rw [instructionFragments_requestWith, dataFragments_requestWith, ← map_append]
  exact (List.filter_append_perm _ ordered).map _

end Requests

/-! ## Lookups -/

/-- A lookup under the identifier of a fragment finds one that has it. -/
theorem exists_fragmentById {fragments : List (MaterializedFragment hashing)}
    {fragment : MaterializedFragment hashing} (member : fragment ∈ fragments) :
    ∃ found ∈ fragments, found.fragmentId = fragment.fragmentId ∧
      fragmentById hashing fragments fragment.fragmentId = .ok found := by
  have here : (fragments.reverse.find? fun other =>
      other.fragmentId = fragment.fragmentId).isSome := by
    rw [find?_isSome]
    exact ⟨fragment, List.mem_reverse.2 member, by simp⟩
  obtain ⟨found, looked⟩ := isSome_iff_exists.1 here
  exact ⟨found, List.mem_reverse.1 (mem_of_find?_eq_some looked),
    by simpa using find?_some looked, fetch_eq_ok.2 looked⟩

theorem fragmentById_of_nodup {fragments : List (MaterializedFragment hashing)}
    (distinct : (fragments.map (·.fragmentId)).Nodup) {fragment : MaterializedFragment hashing}
    (member : fragment ∈ fragments) :
    fragmentById hashing fragments fragment.fragmentId = .ok fragment := by
  obtain ⟨found, foundMember, same, looked⟩ := exists_fragmentById member
  rw [looked, inj_on_of_nodup_map distinct foundMember member same]

/-- The fragments that a request of an assembly is written from. -/
theorem exists_toModelRequest (assembly : PromptAssembly hashing)
    (listed : assembly.orderedFragmentIds = assembly.fragments.map (·.fragmentId)) :
    ∃ ordered, assembly.toModelRequest hashing = .ok (assembly.requestWith hashing ordered) ∧
      (assembly.fragments.map fun fragment =>
        fragmentById hashing assembly.fragments fragment.fragmentId) = ordered.map .ok := by
  have total : ∃ ordered : List (MaterializedFragment hashing),
      (assembly.fragments.map fun fragment =>
        fragmentById hashing assembly.fragments fragment.fragmentId) = ordered.map .ok :=
    exists_map_ok fun fragment member =>
      (exists_fragmentById member).imp fun _ found => found.2.2
  obtain ⟨ordered, looked⟩ := total
  refine ⟨ordered, ?_, looked⟩
  refine bind_eq_ok.2 ⟨ordered, mapM_eq_ok.2 ?_, rfl⟩
  rw [listed, map_map]
  exact looked

/-- Where the identifiers differ, the request has the fragments as they stand. -/
theorem toModelRequest_of_nodup (assembly : PromptAssembly hashing)
    (listed : assembly.orderedFragmentIds = assembly.fragments.map (·.fragmentId))
    (distinct : (assembly.fragments.map (·.fragmentId)).Nodup) :
    assembly.toModelRequest hashing = .ok (assembly.requestWith hashing assembly.fragments) := by
  obtain ⟨ordered, requested, looked⟩ := exists_toModelRequest assembly listed
  have itself : (assembly.fragments.map fun fragment =>
      fragmentById hashing assembly.fragments fragment.fragmentId) =
        assembly.fragments.map .ok :=
    map_congr_left fun fragment member => fragmentById_of_nodup distinct member
  have same : ordered = assembly.fragments :=
    map_injective_iff.2 (fun _ _ => Except.ok.inj) (looked.symm.trans itself)
  rw [requested, same]

/-- Where each fragment is told at most once, the identifiers differ: all fragments with
one identifier are told as the last of them. -/
theorem nodup_of_count_le_one {fragments ordered : List (MaterializedFragment hashing)}
    (looked : (fragments.map fun fragment =>
      fragmentById hashing fragments fragment.fragmentId) = ordered.map .ok)
    (once : ∀ fragment ∈ fragments,
      (ordered.map fragmentPayload).count (fragmentPayload fragment) ≤ 1) :
    (fragments.map (·.fragmentId)).Nodup := by
  rw [List.nodup_iff_count_le_one]
  intro identity
  by_cases absent : identity ∉ fragments.map (·.fragmentId)
  · rw [count_eq_zero_of_not_mem absent]
    exact Nat.zero_le 1
  obtain ⟨fragment, member, rfl⟩ := mem_map.1 (not_not.1 absent)
  obtain ⟨last, lastMember, -, found⟩ := exists_fragmentById member
  have split : (fragments.map (·.fragmentId)).map (fragmentById hashing fragments) =
      ordered.map .ok := by
    rw [map_map]
    exact looked
  calc (fragments.map (·.fragmentId)).count fragment.fragmentId
      ≤ ((fragments.map (·.fragmentId)).map (fragmentById hashing fragments)).count
          (fragmentById hashing fragments fragment.fragmentId) := List.count_le_count_map
    _ = (ordered.map Except.ok).count (Except.ok last) := by rw [split, found]
    _ = ordered.count last := List.count_map_of_injective _ _ (fun _ _ => Except.ok.inj) _
    _ ≤ (ordered.map fragmentPayload).count (fragmentPayload last) := List.count_le_count_map
    _ ≤ 1 := once last lastMember

/-! ## Order -/

/-- Fragments whose identifiers differ stand in one order. -/
theorem orderedFragments_eq_of_perm {left right : List (MaterializedFragment hashing)}
    (perm : left.Perm right) (distinct : (left.map (·.fragmentId)).Nodup) :
    orderedFragments hashing left = orderedFragments hashing right := by
  refine insertionSort_eq_of_perm perm fun first firstMember second secondMember below above => ?_
  have same : first.sortKey = second.sortKey := le_antisymm below above
  refine inj_on_of_nodup_map distinct firstMember secondMember ?_
  simp only [MaterializedFragment.sortKey, EmbeddingLike.apply_eq_iff_eq, mk.injEq] at same
  exact same.2.2.2

/-! ## Materializing -/

variable {materializer : ContextMaterializer} {tasks : TaskStore}
  {call : MaterializeCall hashing}

variable (hashing materializer tasks call) in
/-- The fragments that `materialize` joins: those it builds and those of the caller. -/
def materialised : Except Raised (List (MaterializedFragment hashing)) := do
  let facts ← runFacts tasks call.taskRunId
  let builtins ← builtinFragments hashing materializer call facts
  return builtins ++ call.fragments

/-- What `materialize` checks of the fragments of its caller. -/
structure Admits (call : MaterializeCall hashing) (manifest : ContextManifest) : Prop where
  dynamicClass : ∀ fragment ∈ call.dynamicFragments, fragment.cacheClass = .stateDynamic
  disclosureClass : ∀ fragment ∈ call.disclosureFragments, fragment.cacheClass = .taskStable
  ephemeralClass : ∀ fragment ∈ call.ephemeralFragments, fragment.cacheClass = .ephemeral
  disclosed : ∀ fragment ∈ call.dynamicFragments ++ call.disclosureFragments,
    fragment.sourceRef ∈ manifestRefs manifest ++ call.runtimeDisclosureRefs

theorem validateFragmentClasses_eq_ok {fragments : List (MaterializedFragment hashing)}
    {expected : FragmentCacheClass} {answer : Unit} :
    validateFragmentClasses hashing fragments expected = .ok answer ↔
      ∀ fragment ∈ fragments, fragment.cacheClass = expected := by
  simp only [validateFragmentClasses, forM_eq_ok, require_eq_ok]

theorem checkDisclosure_eq_ok {manifest : ContextManifest} {answer : Unit} :
    checkDisclosure hashing call manifest = .ok answer ↔
      ∀ fragment ∈ call.dynamicFragments ++ call.disclosureFragments,
        fragment.sourceRef ∈ manifestRefs manifest ++ call.runtimeDisclosureRefs := by
  simp only [checkDisclosure, forM_eq_ok, require_eq_ok]

variable {assembly : PromptAssembly hashing}

theorem materialize_eq_ok :
    materialize hashing materializer tasks call = .ok assembly ↔
      ∃ facts builtins, runFacts tasks call.taskRunId = .ok facts ∧
        builtinFragments hashing materializer call facts = .ok builtins ∧
        Admits call facts.manifest ∧
        assembly = assemblyOf hashing materializer call facts
          (orderedFragments hashing (builtins ++ call.fragments)) := by
  simp only [materialize, bind_eq_ok, validateFragmentClasses_eq_ok, checkDisclosure_eq_ok,
    pure_eq_ok]
  constructor
  · rintro ⟨facts, read, builtins, built, _, dynamicClass, _, disclosureClass, _, ephemeralClass,
      _, disclosed, rfl⟩
    exact ⟨facts, builtins, read, built,
      ⟨dynamicClass, disclosureClass, ephemeralClass, disclosed⟩, rfl⟩
  · rintro ⟨facts, builtins, read, built, admitted, rfl⟩
    exact ⟨facts, read, builtins, built, (), admitted.dynamicClass, (), admitted.disclosureClass,
      (), admitted.ephemeralClass, (), admitted.disclosed, rfl⟩

/-- The fragments of the caller stand at the end of what an accepted call joins. -/
theorem exists_materialised
    (accepted : materialize hashing materializer tasks call = .ok assembly) :
    ∃ builtins, materialised hashing materializer tasks call = .ok (builtins ++ call.fragments) := by
  obtain ⟨facts, builtins, read, built, -, -⟩ := materialize_eq_ok.1 accepted
  exact ⟨builtins, by simp only [materialised, read, built, ok_bind, pure_eq_ok]⟩

/-! ## Reordering -/

/-- The call with its lists in another order. -/
structure Reorders (call other : MaterializeCall hashing) : Prop where
  dynamicFragments : call.dynamicFragments.Perm other.dynamicFragments
  disclosureFragments : call.disclosureFragments.Perm other.disclosureFragments
  ephemeralFragments : call.ephemeralFragments.Perm other.ephemeralFragments
  perceptRefs : call.perceptRefs.Perm other.perceptRefs
  rest : other =
    { call with
      dynamicFragments := other.dynamicFragments
      disclosureFragments := other.disclosureFragments
      ephemeralFragments := other.ephemeralFragments
      perceptRefs := other.perceptRefs }

namespace Reorders

variable {other : MaterializeCall hashing} (reordered : Reorders call other)
include reordered

theorem taskRunId : other.taskRunId = call.taskRunId := by rw [reordered.rest]

theorem runtimeDisclosureRefs : other.runtimeDisclosureRefs = call.runtimeDisclosureRefs := by
  rw [reordered.rest]

theorem executionProfileRevision :
    other.executionProfileRevision = call.executionProfileRevision := by rw [reordered.rest]

theorem stateProjectionRevision :
    other.stateProjectionRevision = call.stateProjectionRevision := by rw [reordered.rest]

theorem fragments : call.fragments.Perm other.fragments :=
  (reordered.disclosureFragments.append reordered.dynamicFragments).append
    reordered.ephemeralFragments

theorem admits {manifest : ContextManifest} (admitted : Admits call manifest) :
    Admits other manifest where
  dynamicClass fragment member :=
    admitted.dynamicClass fragment (reordered.dynamicFragments.mem_iff.2 member)
  disclosureClass fragment member :=
    admitted.disclosureClass fragment (reordered.disclosureFragments.mem_iff.2 member)
  ephemeralClass fragment member :=
    admitted.ephemeralClass fragment (reordered.ephemeralFragments.mem_iff.2 member)
  disclosed fragment member := by
    rw [reordered.runtimeDisclosureRefs]
    exact admitted.disclosed fragment ((reordered.dynamicFragments.append
      reordered.disclosureFragments).mem_iff.2 member)

/-- What an assembly says of the caller's lists does not depend on their order. -/
theorem assemblyOf_eq (facts : RunFacts) (ordered : List (MaterializedFragment hashing)) :
    assemblyOf hashing materializer other facts ordered =
      assemblyOf hashing materializer call facts ordered := by
  have percepts : sortedSet other.perceptRefs = sortedSet call.perceptRefs :=
    sortedSet_eq_of_mem_iff fun _ => reordered.perceptRefs.mem_iff.symm
  have skills := reordered.disclosureFragments.map (·.sourceRef)
  have views := (reordered.disclosureFragments.append reordered.dynamicFragments).map (·.sourceRef)
  have skillRefs : sortedSet ((other.disclosureFragments.map (·.sourceRef)).filter
      (· ∈ facts.manifest.skillSelectionRefs)) =
        sortedSet ((call.disclosureFragments.map (·.sourceRef)).filter
          (· ∈ facts.manifest.skillSelectionRefs)) :=
    sortedSet_eq_of_mem_iff fun _ => (skills.filter _).mem_iff.symm
  have viewRefs : sortedSet (((other.disclosureFragments ++ other.dynamicFragments).map
      (·.sourceRef)).filter fun ref =>
        ref ∈ call.runtimeDisclosureRefs ∧ ref ∉ facts.manifest.skillSelectionRefs) =
        sortedSet (((call.disclosureFragments ++ call.dynamicFragments).map
          (·.sourceRef)).filter fun ref =>
            ref ∈ call.runtimeDisclosureRefs ∧ ref ∉ facts.manifest.skillSelectionRefs) :=
    sortedSet_eq_of_mem_iff fun _ => (views.filter _).mem_iff.symm
  simp only [assemblyOf, assemblyIdentity, percepts, skillRefs, viewRefs, reordered.taskRunId,
    reordered.executionProfileRevision, reordered.stateProjectionRevision,
    reordered.runtimeDisclosureRefs]

end Reorders

/-! ## Integrity -/

/-- The request tells each fragment once, keeps instructions and data apart by the class
of trust, and is the same whatever order the caller's lists come in. -/
structure PromptIntegrity (materializer : ContextMaterializer) (tasks : TaskStore)
    (call : MaterializeCall hashing) (fragments : List (MaterializedFragment hashing))
    (assembly : PromptAssembly hashing) (request : StructuredModelRequest) : Prop where
  once : ∀ fragment ∈ fragments,
    (request.instructionFragments ++ request.dataFragments).count (fragmentPayload fragment) = 1
  instructions : ∀ payload, payload ∈ request.instructionFragments ↔
    ∃ fragment ∈ fragments,
      fragment.trustClass.isInstruction = true ∧ fragmentPayload fragment = payload
  unmoved : ∀ other, Reorders call other →
    ∃ again, materialize hashing materializer tasks other = .ok again ∧
      again.assemblyHash = assembly.assemblyHash ∧ again.toModelRequest hashing = .ok request

theorem builtinFragments_of_reorders {other : MaterializeCall hashing}
    (reordered : Reorders call other) (facts : RunFacts) :
    builtinFragments hashing materializer other facts =
      builtinFragments hashing materializer call facts := by
  rw [builtinFragments, builtinFragments, reordered.executionProfileRevision]

/-- Where the identifiers differ, a reordered call has the same assembly. -/
theorem materialize_of_reorders
    {fragments : List (MaterializedFragment hashing)}
    (accepted : materialize hashing materializer tasks call = .ok assembly)
    (joined : materialised hashing materializer tasks call = .ok fragments)
    (distinct : (fragments.map (·.fragmentId)).Nodup) {other : MaterializeCall hashing}
    (reordered : Reorders call other) :
    materialize hashing materializer tasks other = .ok assembly := by
  obtain ⟨facts, builtins, read, built, admitted, rfl⟩ := materialize_eq_ok.1 accepted
  have same : builtins ++ call.fragments = fragments := by
    simpa only [materialised, read, built, ok_bind, pure_eq_ok] using joined
  refine materialize_eq_ok.2 ⟨facts, builtins, ?_, ?_, reordered.admits admitted, ?_⟩
  · rw [reordered.taskRunId, read]
  · rw [builtinFragments_of_reorders reordered, built]
  · rw [reordered.assemblyOf_eq]
    congr 1
    exact orderedFragments_eq_of_perm (reordered.fragments.append_left builtins)
      (same ▸ distinct)

/-- **A prompt has integrity exactly where identifiers differ.**  What a model is told of
an accepted call has every fragment once, the instructions by themselves, and no trace of
the order of the caller's lists, if and only if no two of the materialised fragments carry
one identifier. -/
theorem promptIntegrity_iff {assembly : PromptAssembly hashing}
    (accepted : materialize hashing materializer tasks call = .ok assembly) :
    ∃ fragments request,
      materialised hashing materializer tasks call = .ok fragments ∧
      assembly.toModelRequest hashing = .ok request ∧
      (PromptIntegrity materializer tasks call fragments assembly request ↔
        (fragments.map (·.fragmentId)).Nodup) := by
  obtain ⟨facts, builtins, read, built, -, rfl⟩ := materialize_eq_ok.1 accepted
  have joined : materialised hashing materializer tasks call =
      .ok (builtins ++ call.fragments) := by
    simp only [materialised, read, built, ok_bind, pure_eq_ok]
  set assembly := assemblyOf hashing materializer call facts
    (orderedFragments hashing (builtins ++ call.fragments)) with assembled
  have sorted : (orderedFragments hashing (builtins ++ call.fragments)).Perm
      (builtins ++ call.fragments) := perm_insertionSort _ _
  have perm : assembly.fragments.Perm (builtins ++ call.fragments) := sorted
  obtain ⟨ordered, requested, looked⟩ := exists_toModelRequest assembly rfl
  have told (payload : JsonValue) :
      ((assembly.requestWith hashing ordered).instructionFragments ++
        (assembly.requestWith hashing ordered).dataFragments).count payload =
          (ordered.map fragmentPayload).count payload :=
    (fragments_requestWith_perm assembly ordered).count_eq payload
  refine ⟨_, _, joined, requested, fun integrity => ?_, fun distinct => ?_⟩
  · refine (perm.map _).nodup_iff.1 (nodup_of_count_le_one looked fun fragment member => ?_)
    rw [← told]
    exact (integrity.once fragment (perm.mem_iff.1 member)).le
  · have sortedDistinct := (perm.map (·.fragmentId)).nodup_iff.2 distinct
    have asTheyStand := toModelRequest_of_nodup assembly rfl sortedDistinct
    have itself : assembly.requestWith hashing ordered =
        assembly.requestWith hashing assembly.fragments :=
      Except.ok.inj (requested.symm.trans asTheyStand)
    have payloads : (assembly.fragments.map fragmentPayload).Nodup := by
      refine List.Nodup.map_on (fun first firstMember second secondMember same => ?_)
        (List.Nodup.of_map _ sortedDistinct)
      exact inj_on_of_nodup_map sortedDistinct firstMember secondMember
        (fragmentId_of_fragmentPayload_eq same)
    refine ⟨fun fragment member => ?_, fun payload => ?_, fun other reordered => ?_⟩
    · rw [itself, (fragments_requestWith_perm assembly assembly.fragments).count_eq]
      exact List.count_eq_one_of_mem payloads
        (mem_map_of_mem (perm.mem_iff.2 member))
    · rw [itself, instructionFragments_requestWith]
      simp only [mem_map, mem_filter, perm.mem_iff, and_assoc]
    · exact ⟨assembly, materialize_of_reorders accepted joined distinct reordered, rfl, requested⟩

/-! ## Two fragments with one identifier -/

/-- A short hash of a text. -/
def textWeight (seed : ℕ) (text : String) : ℕ :=
  text.toList.foldl (fun weight c => (weight * 1000003 + c.toNat) % 2305843009213693951) seed

mutual

/-- A short hash of a value. -/
def jsonWeight : JsonValue → ℕ
  | .null => 2
  | .bool value => if value then 3 else 5
  | .int value => textWeight 7 (toString value)
  | .real value => textWeight 11 (toString value.num ++ "/" ++ toString value.den)
  | .string text => textWeight 13 text
  | .array items => itemsWeight items
  | .object fields => fieldsWeight fields

def itemsWeight : List JsonValue → ℕ
  | [] => 17
  | item :: rest => (itemsWeight rest * 1000033 + jsonWeight item) % 2305843009213693951

def fieldsWeight : List (String × JsonValue) → ℕ
  | [] => 19
  | (name, value) :: rest =>
      (fieldsWeight rest * 1000037 + textWeight (jsonWeight value) name) % 2305843009213693951

end

def shortHashing : Hashing where
  digest value := toString (jsonWeight value)
  uuid5 text := toString (textWeight 23 text)

def platformMaterializer : ContextMaterializer where
  platformRevision := "platform-1"
  platformInvariant := [("rule", .string "evidence before inference")]
  revision_nonblank := rfl

/-- A dynamic fragment that was not built, but given its identifier. -/
def givenFragment (fragmentId content : String)
    (identified : isBlank fragmentId = false)
    (hashed : isBlank (shortHashing.digest (.string content)) = false) :
    MaterializedFragment shortHashing where
  fragmentId
  kind := "state_projection"
  sourceRef := "view:1"
  sourceRevision := "1"
  trustClass := .durableState
  cacheClass := .stateDynamic
  contentHash := shortHashing.digest (.string content)
  content := .string content
  named := by
    simp only [forall_mem_cons, identified, hashed, true_and]
    decide
  hashed := rfl

def patchedFragment : MaterializedFragment shortHashing :=
  givenFragment "fragment-1" "patched" (by decide) (by decide +kernel)

def exposedFragment : MaterializedFragment shortHashing :=
  givenFragment "fragment-1" "exposed" (by decide) (by decide +kernel)

def exposedElsewhere : MaterializedFragment shortHashing :=
  givenFragment "fragment-2" "exposed" (by decide) (by decide +kernel)

/-- A call for the run `parent`, with some dynamic fragments. -/
def parentCall (fragments : List (MaterializedFragment shortHashing)) :
    MaterializeCall shortHashing where
  taskRunId := "parent"
  dynamicFragments := fragments
  runtimeDisclosureRefs := ["view:1"]

@[simp] theorem fragments_parentCall (fragments : List (MaterializedFragment shortHashing)) :
    (parentCall fragments).fragments = fragments := by
  simp [MaterializeCall.fragments, parentCall]

theorem promptIntegrity_iff_two_identifiers :
    ∃ assembly fragments request,
      materialised shortHashing platformMaterializer (storeAfter delegatedRun)
        (parentCall [patchedFragment, exposedElsewhere]) = .ok fragments ∧
      PromptIntegrity platformMaterializer (storeAfter delegatedRun)
        (parentCall [patchedFragment, exposedElsewhere]) fragments assembly request := by
  have answered : ((materialize shortHashing platformMaterializer (storeAfter delegatedRun)
      (parentCall [patchedFragment, exposedElsewhere])).bind fun _ =>
        materialised shortHashing platformMaterializer (storeAfter delegatedRun)
          (parentCall [patchedFragment, exposedElsewhere])).toOption.map
        (fun fragments => decide (fragments.map (·.fragmentId)).Nodup) = some true := by
    decide +kernel
  obtain ⟨fragments, both, distinct⟩ := map_eq_some_iff.1 answered
  obtain ⟨assembly, accepted, joined⟩ := bind_eq_ok.1 (toOption_eq_some.1 both)
  obtain ⟨others, request, joinedAgain, -, integrity⟩ := promptIntegrity_iff accepted
  rw [joined] at joinedAgain
  cases joinedAgain
  exact ⟨assembly, fragments, request, joined, integrity.2 (of_decide_eq_true distinct)⟩

/-- Two fragments with one identifier: what the model is told has the second of them
twice, and the first not at all. -/
theorem prompt_loses_first_fragment :
    ∃ assembly fragments request,
      materialize shortHashing platformMaterializer (storeAfter delegatedRun)
        (parentCall [patchedFragment, exposedFragment]) = .ok assembly ∧
      materialised shortHashing platformMaterializer (storeAfter delegatedRun)
        (parentCall [patchedFragment, exposedFragment]) = .ok fragments ∧
      patchedFragment ∈ fragments ∧ exposedFragment ∈ fragments ∧
      assembly.toModelRequest shortHashing = .ok request ∧
      (request.instructionFragments ++ request.dataFragments).count
        (fragmentPayload patchedFragment) = 0 ∧
      (request.instructionFragments ++ request.dataFragments).count
        (fragmentPayload exposedFragment) = 2 ∧
      ¬ PromptIntegrity platformMaterializer (storeAfter delegatedRun)
        (parentCall [patchedFragment, exposedFragment]) fragments assembly request := by
  have counted : ((materialize shortHashing platformMaterializer (storeAfter delegatedRun)
      (parentCall [patchedFragment, exposedFragment])).bind
        (PromptAssembly.toModelRequest shortHashing)).toOption.map
        (fun request => [patchedFragment, exposedFragment].map fun fragment =>
          (request.instructionFragments ++ request.dataFragments).count
            (fragmentPayload fragment)) = some [0, 2] := by
    decide +kernel
  obtain ⟨request, both, counts⟩ := map_eq_some_iff.1 counted
  obtain ⟨assembly, accepted, requested⟩ := bind_eq_ok.1 (toOption_eq_some.1 both)
  obtain ⟨lost, others⟩ := List.cons.inj counts
  obtain ⟨doubled, -⟩ := List.cons.inj others
  obtain ⟨builtins, joined⟩ := exists_materialised accepted
  rw [fragments_parentCall] at joined
  have patched : patchedFragment ∈ builtins ++ [patchedFragment, exposedFragment] :=
    mem_append_right _ mem_cons_self
  have exposed : exposedFragment ∈ builtins ++ [patchedFragment, exposedFragment] :=
    mem_append_right _ (mem_cons_of_mem _ (mem_singleton_self _))
  refine ⟨assembly, _, request, accepted, joined, patched, exposed, requested, lost, doubled,
    fun integrity => ?_⟩
  exact absurd (lost.symm.trans (integrity.once patchedFragment patched)) (by decide)

end SecFusion.TaskRuntime
