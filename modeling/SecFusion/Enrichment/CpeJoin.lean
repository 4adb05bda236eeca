import SecFusion.Foundations.Json
import SecFusion.Foundations.Kleene
import SecFusion.Foundations.Text

/-!
# Applicability of a configuration to an asset

The model of `configuration_matches` in `packages/enrichment/assets/cpe_join.py`: the tree of
an NVD configuration, whose leaves are criteria over CPE names and whose nodes are conjunctions
and disjunctions that may be negated, is evaluated over the CPE names of an asset.

A criterion that cannot be read, or whose versions cannot be compared, has no truth value.  The
evaluation takes it for false, drops children that are no objects, and only then applies the
connectives; so whether what is unknown can surface as a match is a matter of the negations
above it.  `readingOf` follows an unknown through the tree.
-/

namespace SecFusion.Enrichment

open Foundations

/-- What the standard library makes of a text: `unquote`, `str.lower`, and the value of a
decimal digit. -/
structure TextLibrary where
  (unquote lower : String → String)
  decimal : Char → Option ℕ

structure ParsedCPE where
  (raw part vendor product version : String)

/-! ## Names and versions -/

/-- `_split_escaped`, from a character on, with the text read so far. -/
def splitEscapedFrom : List Char → List Char → Bool → List String
  | [], current, escaped => [String.ofList (if escaped then current ++ ['\\'] else current)]
  | char :: rest, current, true => splitEscapedFrom rest (current ++ [char]) false
  | char :: rest, current, false =>
      if char = '\\' then splitEscapedFrom rest current true
      else if char = ':' then String.ofList current :: splitEscapedFrom rest [] false
      else splitEscapedFrom rest (current ++ [char]) false

/-- `_split_escaped`. -/
def splitEscaped (value : String) : List String := splitEscapedFrom value.toList [] false

/-- The part, vendor, product and version of a name, as they are written. -/
def cpeComponents (value : String) : Option (String × String × String × String) :=
  if (afterHead? "cpe:2.3:" value).isSome then
    match splitEscaped value with
    | _ :: _ :: part :: vendor :: product :: version :: _ => some (part, vendor, product, version)
    | _ => none
  else
    match afterHead? "cpe:/" value with
    | none => none
    | some rest =>
        match (rest.toList.splitOn ':').map String.ofList with
        | part :: vendor :: product :: version :: _ => some (part, vendor, product, version)
        | [part, vendor, product] => some (part, vendor, product, "*")
        | _ => none

/-- A component that names nothing. -/
def isUnnamed (item : String) : Bool := item ∈ ["", "*", "-"]

/-- `parse_cpe`. -/
def parseCpe (library : TextLibrary) (value : String) : Option ParsedCPE :=
  match cpeComponents value with
  | none => none
  | some (part, vendor, product, version) =>
      if isUnnamed part ∨ isUnnamed vendor ∨ isUnnamed product then none
      else some {
        raw := value
        part := library.lower (library.unquote part)
        vendor := library.lower (library.unquote vendor)
        product := library.lower (library.unquote product)
        version := library.unquote version }

/-- The number that decimal digits write, at least one of them. -/
def digitsNumber (library : TextLibrary) : List Char → Option ℕ
  | [] => none
  | digits => digits.foldl (fun total digit => do
      return (← total) * 10 + (← library.decimal digit)) (some 0)

/-- `_numeric_version`.  (`int` refuses a component of more than 4300 digits, which is left
out.) -/
def numericVersion (library : TextLibrary) (value : String) : Option (List ℕ) :=
  ((Text.removeHead "v" (strip value)).toList.splitOn '.').mapM (digitsNumber library)

/-- A version with zeros added up to a width. -/
def padded (version : List ℕ) (width : ℕ) : List ℕ :=
  version ++ List.replicate (width - version.length) 0

/-- `_compare_versions`. -/
def compareVersions (left right : List ℕ) : ℤ :=
  let width := max left.length right.length
  (if padded left width > padded right width then 1 else 0) -
    if padded left width < padded right width then 1 else 0

/-- The bounds of a criterion by their keys, each with the comparisons that meet it. -/
def boundTests : List (String × (ℤ → Bool)) :=
  [ ("versionStartIncluding", fun comparison => ¬ comparison < 0),
    ("versionStartExcluding", fun comparison => ¬ comparison ≤ 0),
    ("versionEndIncluding", fun comparison => ¬ comparison > 0),
    ("versionEndExcluding", fun comparison => ¬ comparison ≥ 0) ]

/-- The bounds that a criterion states: texts that are not empty. -/
def bounds (criterion : JsonObject) : List (String × (ℤ → Bool)) :=
  boundTests.filterMap fun (key, test) =>
    (((criterion.text? key).filter (· ≠ ""))).map fun bound => (bound, test)

/-- `_version_in_bounds`. -/
def versionInBounds (library : TextLibrary) (version : String) (criterion : JsonObject) : Bool :=
  if (bounds criterion).isEmpty then true
  else match numericVersion library version with
    | none => false
    | some current => (bounds criterion).all fun (rawBound, test) =>
        match numericVersion library rawBound with
        | none => false
        | some bound => test (compareVersions current bound)

/-- The name a criterion requires, when it can be read. -/
def requiredOf (library : TextLibrary) (criterion : JsonObject) : Option ParsedCPE :=
  (criterion.text? "criteria").bind (parseCpe library)

/-- Part, vendor and product agree. -/
def SameProduct (required asset : ParsedCPE) : Prop :=
  (required.part, required.vendor, required.product) = (asset.part, asset.vendor, asset.product)

instance (required asset : ParsedCPE) : Decidable (SameProduct required asset) :=
  inferInstanceAs (Decidable (_ = _))

/-- `_single_cpe_matches`. -/
def singleCpeMatches (library : TextLibrary) (criterion : JsonObject) (asset : ParsedCPE) :
    Bool :=
  match requiredOf library criterion with
  | none => false
  | some required =>
      if ¬ SameProduct required asset then false
      else if required.version ∉ ["*", "-", ""] ∧ required.version ≠ asset.version then false
      else if required.version = "-" ∧ asset.version ≠ "-" then false
      else versionInBounds library asset.version criterion

/-- `_cpe_match_satisfied`. -/
def cpeMatchSatisfied (library : TextLibrary) (assetCpes : List ParsedCPE)
    (criterion : JsonObject) : Bool :=
  assetCpes.any (singleCpeMatches library criterion)

/-! ## The tree -/

theorem sizeOf_fields_lt {value : JsonValue} {fields : JsonObject}
    (isObject : value.fields? = some fields) : sizeOf fields < sizeOf value := by
  cases value <;> cases isObject
  simp

theorem sizeOf_items_le (root : JsonObject) (name : String) :
    sizeOf (root.items name) ≤ sizeOf root := by
  unfold JsonObject.items JsonObject.get?
  cases found : root.find? fun field => field.1 = name with
  | none => cases root <;> simp [Nat.add_assoc]
  | some field =>
      obtain ⟨key, value⟩ := field
      have inField := List.sizeOf_lt_of_mem (List.mem_of_find?_eq_some found)
      cases value <;> simp [JsonValue.items?] at inField ⊢ <;> omega

theorem sizeOf_item_lt {root : JsonObject} {name : String} {item : JsonValue}
    (member : item ∈ JsonObject.items root name) : sizeOf item < sizeOf root :=
  (List.sizeOf_lt_of_mem member).trans_le (sizeOf_items_le root name)

/-- The children under a name, each with its fields when it is an object. -/
def children (root : JsonObject) (name : String) : List (Option JsonObject) :=
  (JsonObject.items root name).map (·.fields?)

theorem sizeOf_child_lt {root child : JsonObject} {name : String}
    (member : some child ∈ children root name) : sizeOf child < sizeOf root := by
  obtain ⟨item, listed, isObject⟩ := List.mem_map.1 member
  exact (sizeOf_fields_lt isObject).trans (sizeOf_item_lt listed)

section Fold

universe u v

variable {β : Type u} {γ : Type v}

/-- A value for each node of a configuration, over those of its criteria and of its nodes;
a child that is no object has none. -/
def foldConfiguration (leaf : JsonObject → β) (node : JsonObject → List (Option β) → β)
    (root : JsonObject) : β :=
  node root ((children root "cpeMatch").map (Option.map leaf) ++
    (children root "nodes").attach.map fun child =>
      match child with
      | ⟨none, _⟩ => none
      | ⟨some fields, _⟩ => some (foldConfiguration leaf node fields))
termination_by sizeOf root
decreasing_by exact sizeOf_child_lt (by assumption)

theorem foldConfiguration_eq (leaf : JsonObject → β) (node : JsonObject → List (Option β) → β)
    (root : JsonObject) :
    foldConfiguration leaf node root =
      node root ((children root "cpeMatch").map (Option.map leaf) ++
        (children root "nodes").map (Option.map (foldConfiguration leaf node))) := by
  conv => lhs; rw [foldConfiguration]
  congr 2
  refine Eq.trans (List.map_congr_left fun child _ => ?_) List.attach_map_val
  obtain ⟨_ | fields, member⟩ := child <;> rfl

/-- A property of every node that holds of a node when it does of the nodes under it. -/
theorem configuration_induction {motive : JsonObject → Prop}
    (step : ∀ root, (∀ child, some child ∈ children root "nodes" → motive child) → motive root)
    (root : JsonObject) : motive root :=
  step root fun child _ => configuration_induction step child
termination_by sizeOf root
decreasing_by exact sizeOf_child_lt (by assumption)

/-- A map that carries criteria and nodes along carries the whole tree along. -/
theorem map_foldConfiguration {f : β → γ} {leaf : JsonObject → β} {leaf' : JsonObject → γ}
    {node : JsonObject → List (Option β) → β} {node' : JsonObject → List (Option γ) → γ}
    (leaves : ∀ criterion, f (leaf criterion) = leaf' criterion)
    (nodes : ∀ root operands, f (node root operands) = node' root (operands.map (Option.map f)))
    (root : JsonObject) :
    f (foldConfiguration leaf node root) = foldConfiguration leaf' node' root := by
  induction root using configuration_induction with
  | step root ih =>
      rw [foldConfiguration_eq, foldConfiguration_eq, nodes, List.map_append, List.map_map,
        List.map_map]
      congr 2
      · refine List.map_congr_left fun child _ => ?_
        cases child with
        | none => rfl
        | some criterion => exact congrArg some (leaves criterion)
      · refine List.map_congr_left fun child member => ?_
        cases child with
        | none => rfl
        | some child => exact congrArg some (ih child member)

end Fold

/-- `operator == "AND"`. -/
def isConjunctive (root : JsonObject) : Bool :=
  JsonObject.get? root "operator" = some (.string "AND")

/-- `root.get("negate") is True`. -/
def isNegated (root : JsonObject) : Bool := JsonObject.get? root "negate" = some (.bool true)

section Evaluation

variable (library : TextLibrary)

/-- The value of a node: children that are no objects are dropped. -/
def nodeMatches (root : JsonObject) (operands : List (Option Bool)) : Bool :=
  let operands := operands.filterMap id
  if operands.isEmpty then false
  else
    let value := if isConjunctive root then operands.all id else operands.any id
    if isNegated root then !value else value

/-- `configuration_matches`. -/
def configurationMatches (root : JsonObject) (assetCpes : List ParsedCPE) : Bool :=
  foldConfiguration (cpeMatchSatisfied library assetCpes) nodeMatches root

/-! ## Three-valued configurations -/

/-- The version of an asset or a bound on it is no number. -/
def Incomparable (criterion : JsonObject) (asset : ParsedCPE) : Prop :=
  bounds criterion ≠ [] ∧ (numericVersion library asset.version = none ∨
    ∃ bound ∈ bounds criterion, numericVersion library bound.1 = none)

/-- A criterion has no truth value when it cannot be read, or when it is about the product of
some asset whose version it cannot be compared with. -/
def UnknownCriterion (assetCpes : List ParsedCPE) (criterion : JsonObject) : Prop :=
  match requiredOf library criterion with
  | none => True
  | some required => ∃ asset ∈ assetCpes, SameProduct required asset ∧
      Incomparable library criterion asset

instance (criterion : JsonObject) (asset : ParsedCPE) :
    Decidable (Incomparable library criterion asset) :=
  inferInstanceAs (Decidable (_ ∧ _))

instance (assetCpes : List ParsedCPE) (criterion : JsonObject) :
    Decidable (UnknownCriterion library assetCpes criterion) :=
  match same : requiredOf library criterion with
  | none => .isTrue (by simp [UnknownCriterion, same])
  | some required =>
      decidable_of_iff (∃ asset ∈ assetCpes, SameProduct required asset ∧
        Incomparable library criterion asset) (by simp [UnknownCriterion, same])

def criterionValue (assetCpes : List ParsedCPE) (criterion : JsonObject) : Kleene :=
  if UnknownCriterion library assetCpes criterion then .unknown
  else if cpeMatchSatisfied library assetCpes criterion then .yes else .no

/-- The Kleene value of a node: children that are no objects are unknown, and a node without
children is false. -/
def nodeValue (root : JsonObject) (operands : List (Option Kleene)) : Kleene :=
  if operands.isEmpty then .no
  else connect Kleene.not (isConjunctive root) (isNegated root)
    (operands.map (·.getD .unknown))

def configurationValue (root : JsonObject) (assetCpes : List ParsedCPE) : Kleene :=
  foldConfiguration (criterionValue library assetCpes) nodeValue root

/-! ## Where an unknown goes -/

/-- An unknown criterion sinks, unless another asset meets it: then it surfaces. -/
def criterionReading (assetCpes : List ParsedCPE) (criterion : JsonObject) : Reading :=
  .ofTaken (UnknownCriterion library assetCpes criterion)
    (cpeMatchSatisfied library assetCpes criterion)

/-- A child that is no object surfaces in a conjunction and sinks in a disjunction, and a node of
such children alone sinks.  Otherwise a conjunction reads as the least of its children, a
disjunction as the greatest, and a negation turns the reading around. -/
def nodeReading (root : JsonObject) (operands : List (Option Reading)) : Reading :=
  if operands.isEmpty then .fails
  else if (operands.filterMap id).isEmpty then .sinks
  else connect Reading.reverse (isConjunctive root) (isNegated root)
    (operands.map (·.getD (if isConjunctive root then .surfaces else .sinks)))

/-- How the root of a configuration reads. -/
def readingOf (root : JsonObject) (assetCpes : List ParsedCPE) : Reading :=
  foldConfiguration (criterionReading library assetCpes) nodeReading root

variable {library}

theorem known_criterionReading (assetCpes : List ParsedCPE) (criterion : JsonObject) :
    (criterionReading library assetCpes criterion).known =
      criterionValue library assetCpes criterion := by
  unfold criterionReading criterionValue
  by_cases unknown : UnknownCriterion library assetCpes criterion <;>
    cases cpeMatchSatisfied library assetCpes criterion <;>
    simp [unknown, Reading.ofTaken, Reading.known]

/-- The fillers for the children that are no objects. -/
def filled (root : JsonObject) (operands : List (Option Reading)) : List Reading :=
  operands.map (·.getD (if isConjunctive root then .surfaces else .sinks))

section

variable (root : JsonObject)

include root

theorem nodeMatches_eq (operands : List (Option Bool)) :
    nodeMatches root operands =
      if (operands.filterMap id).isEmpty then false
      else connect (! ·) (isConjunctive root) (isNegated root) (operands.filterMap id) := by
  simp only [nodeMatches, connect, allOf_bool, anyOf_bool]

/-- What surfaces is neutral in a conjunction, and what sinks in a disjunction. -/
theorem taken_filled (operands : List (Option Reading)) :
    (filled root operands).map Reading.taken =
      (operands.map (Option.map Reading.taken)).map
        (·.getD (if isConjunctive root then ⊤ else ⊥)) := by
  rw [filled, List.map_map, List.map_map]
  refine List.map_congr_left fun operand _ => ?_
  cases operand <;> cases isConjunctive root <;> rfl

/-- Either filler is unknown. -/
theorem known_filled (operands : List (Option Reading)) :
    (filled root operands).map Reading.known =
      (operands.map (Option.map Reading.known)).map (·.getD .unknown) := by
  rw [filled, List.map_map, List.map_map]
  refine List.map_congr_left fun operand _ => ?_
  cases operand <;> cases isConjunctive root <;> rfl

/-- The Boolean evaluation of a node forgets which of its operands were unknown. -/
theorem taken_nodeReading (operands : List (Option Reading)) :
    (nodeReading root operands).taken =
      nodeMatches root (operands.map (Option.map Reading.taken)) := by
  have proper : (operands.map (Option.map Reading.taken)).filterMap id =
      (operands.filterMap id).map Reading.taken := by
    rw [List.filterMap_map, List.map_filterMap]
    rfl
  rw [nodeMatches_eq, proper, List.isEmpty_map, nodeReading]
  by_cases dropped : (operands.filterMap id).isEmpty
  · rw [if_pos dropped, if_pos dropped]
    split <;> rfl
  · have present : ¬ operands.isEmpty := by
      intro childless
      rw [List.isEmpty_iff.1 childless] at dropped
      exact dropped rfl
    rw [if_neg present, if_neg dropped, if_neg dropped, Reading.taken_connect, ← filled,
      taken_filled, ← connect_filterMap, proper]

/-- The Kleene value of a node forgets what its operands were taken for. -/
theorem known_nodeReading (operands : List (Option Reading)) :
    (nodeReading root operands).known =
      nodeValue root (operands.map (Option.map Reading.known)) := by
  rw [nodeValue, List.isEmpty_map, nodeReading]
  by_cases childless : operands.isEmpty
  · rw [if_pos childless, if_pos childless]
    rfl
  rw [if_neg childless, if_neg childless]
  by_cases dropped : (operands.filterMap id).isEmpty
  · -- children that are no objects alone: unknown, however connected
    rw [if_pos dropped]
    refine (connect_of_forall_eq rfl _ _ ?_ ?_).symm
    · simpa using childless
    · intro value member
      obtain ⟨operand, listed, rfl⟩ := List.mem_map.1 member
      obtain ⟨reading, present, rfl⟩ := List.mem_map.1 listed
      cases reading with
      | none => rfl
      | some reading =>
          have kept : reading ∈ operands.filterMap id :=
            List.mem_filterMap.2 ⟨_, present, rfl⟩
          rw [List.isEmpty_iff.1 dropped] at kept
          cases kept
  · rw [if_neg dropped, Reading.known_connect, ← filled, known_filled]

theorem taken_readingOf (assetCpes : List ParsedCPE) :
    (readingOf library root assetCpes).taken = configurationMatches library root assetCpes :=
  map_foldConfiguration (fun _ => Reading.taken_ofTaken _ _) taken_nodeReading root

theorem known_readingOf (assetCpes : List ParsedCPE) :
    (readingOf library root assetCpes).known = configurationValue library root assetCpes :=
  map_foldConfiguration (known_criterionReading assetCpes) known_nodeReading root

end

end Evaluation

end SecFusion.Enrichment
