import SecFusion.Investigation.Watch

/-!
# Aliases of objects

The model of the part of `packages/investigation/runtime/planner.py` that reads the
references of a patch.  A planner may name an object by its identifier, its reference or
its canonical key.  What a name stands for is collected from every dictionary of the
fragments that the planner was shown, whether it is a view of an object or a value that a
source wrote, and the first dictionary to give a name has it (`aliasesDenote_iff`).
-/

namespace SecFusion.Investigation

open Foundations

/-! ## Collecting -/

/-- `f"object:{object_id}"` -/
def stableRef (objectId : String) : String := "object:" ++ objectId

/-- `value.get(name)`, where it is a string and not empty. -/
def givenText (fields : JsonObject) (name : String) : Option String :=
  (JsonObject.text? fields name).filter (· ≠ "")

/-- `aliases.setdefault(name, ref)` -/
def setDefault (aliases : Dict String String) (name ref : String) : Dict String String :=
  if (aliases.get? name).isSome then aliases else aliases.set name ref

/-- What `_collect_object_ref_aliases` takes from a dictionary, before its values. -/
def ownAliases (aliases : Dict String String) (fields : JsonObject) : Dict String String :=
  match givenText fields "object_id" with
  | none => aliases
  | some objectId =>
      let ref := stableRef objectId
      let aliases := setDefault (setDefault aliases objectId ref) ref ref
      match givenText fields "canonical_key" with
      | none => aliases
      | some canonicalKey => setDefault aliases canonicalKey ref

mutual

/-- `_collect_object_ref_aliases`.  The fields of an object are in the order of the
dictionary. -/
def collectObjectRefAliases : JsonValue → Dict String String → Dict String String
  | .object fields, aliases => collectFromFields fields (ownAliases aliases fields)
  | .array items, aliases => collectFromItems items aliases
  | .null, aliases | .bool _, aliases | .int _, aliases | .real _, aliases
  | .string _, aliases => aliases

def collectFromFields : JsonObject → Dict String String → Dict String String
  | [], aliases => aliases
  | (_, child) :: rest, aliases =>
      collectFromFields rest (collectObjectRefAliases child aliases)

def collectFromItems : List JsonValue → Dict String String → Dict String String
  | [], aliases => aliases
  | child :: rest, aliases => collectFromItems rest (collectObjectRefAliases child aliases)

end

/-- `_visible_object_ref_aliases`, of the contents of the fragments. -/
def visibleObjectRefAliases (contents : List JsonValue) : Dict String String :=
  collectFromItems contents Dict.empty

/-- `_normalize_patch_target_ref` -/
def normalizePatchTargetRef (frame : InvestigationFrame) (aliases : Dict String String) :
    Option String → Option String
  | none => none
  | some targetRef =>
      if targetRef ∈ frame.state.targets then some (stableRef targetRef)
      else some (aliases.getD targetRef targetRef)

/-- The operations of a patch that `_normalize_action` returns. -/
def normalizeOperations (frame : InvestigationFrame) (aliases : Dict String String)
    (operations : List StatePatchOperation) : List StatePatchOperation :=
  operations.map fun operation =>
    { operation with targetRef := normalizePatchTargetRef frame aliases operation.targetRef }

/-! ## What a name stands for -/

mutual

/-- The dictionaries of a value, each before those it holds. -/
def dictionaries : JsonValue → List JsonObject
  | .object fields => fields :: dictionariesOfFields fields
  | .array items => dictionariesOfItems items
  | .null | .bool _ | .int _ | .real _ | .string _ => []

def dictionariesOfFields : JsonObject → List JsonObject
  | [] => []
  | (_, child) :: rest => dictionaries child ++ dictionariesOfFields rest

def dictionariesOfItems : List JsonValue → List JsonObject
  | [] => []
  | child :: rest => dictionaries child ++ dictionariesOfItems rest

end

mutual

/-- Collecting goes through the dictionaries in their order. -/
theorem collect_eq : ∀ (value : JsonValue) (aliases : Dict String String),
    collectObjectRefAliases value aliases = (dictionaries value).foldl ownAliases aliases
  | .object fields, aliases => collectFromFields_eq fields (ownAliases aliases fields)
  | .array items, aliases => collectFromItems_eq items aliases
  | .null, _ | .bool _, _ | .int _, _ | .real _, _ | .string _, _ => rfl

theorem collectFromFields_eq : ∀ (fields : JsonObject) (aliases : Dict String String),
    collectFromFields fields aliases = (dictionariesOfFields fields).foldl ownAliases aliases
  | [], _ => rfl
  | (_, child) :: rest, aliases => by
      rw [collectFromFields, dictionariesOfFields, foldl_append, collect_eq child,
        collectFromFields_eq rest]

theorem collectFromItems_eq : ∀ (items : List JsonValue) (aliases : Dict String String),
    collectFromItems items aliases = (dictionariesOfItems items).foldl ownAliases aliases
  | [], _ => rfl
  | child :: rest, aliases => by
      rw [collectFromItems, dictionariesOfItems, foldl_append, collect_eq child,
        collectFromItems_eq rest]

end

/-- The names that a dictionary gives an object. -/
def namesOf (fields : JsonObject) : List String :=
  match givenText fields "object_id" with
  | none => []
  | some objectId => objectId :: stableRef objectId :: (givenText fields "canonical_key").toList

variable {fields : JsonObject} {aliases : Dict String String} {text : String}

theorem get?_setDefault (name ref : String) : (setDefault aliases name ref).get? text =
    (aliases.get? text).or (if name = text then some ref else none) := by
  unfold setDefault
  split
  next present =>
    split
    next same =>
      obtain ⟨value, found⟩ := isSome_iff_exists.1 present
      rw [← same, found]
      rfl
    next => rw [Option.or_none]
  next absent =>
    rw [Dict.get?_set]
    split
    next same =>
      subst same
      rw [Option.not_isSome_iff_eq_none.1 absent]
      rfl
    next => rw [Option.or_none]

/-- A dictionary adds the names that were not there. -/
theorem get?_ownAliases : (ownAliases aliases fields).get? text = (aliases.get? text).or
    (if text ∈ namesOf fields then (givenText fields "object_id").map stableRef else none) := by
  unfold ownAliases namesOf
  cases givenText fields "object_id" with
  | none => simp
  | some objectId =>
      cases givenText fields "canonical_key" <;>
        simp only [get?_setDefault, Option.or_assoc, @eq_comm _ _ text, Option.toList,
          mem_cons, not_mem_nil, or_false] <;>
        split_ifs <;> simp_all

theorem exists_objectId (member : text ∈ namesOf fields) :
    ∃ objectId, givenText fields "object_id" = some objectId ∧
      (text = objectId ∨ text = stableRef objectId ∨
        givenText fields "canonical_key" = some text) := by
  unfold namesOf at member
  cases given : givenText fields "object_id" with
  | none => simp [given] at member
  | some objectId => exact ⟨objectId, rfl, by simpa [given, eq_comm] using member⟩

/-- **The first dictionary to give a name has it.** -/
theorem get?_foldl (found : List JsonObject) : (found.foldl ownAliases aliases).get? text =
    (aliases.get? text).or ((found.find? fun fields => text ∈ namesOf fields).bind fun fields =>
      (givenText fields "object_id").map stableRef) := by
  induction found generalizing aliases with
  | nil => simp
  | cons fields rest ih =>
      rw [foldl_cons, ih, get?_ownAliases, Option.or_assoc]
      by_cases member : text ∈ namesOf fields
      · obtain ⟨objectId, given, -⟩ := exists_objectId member
        simp [member, given]
      · simp [member]

/-! ## What a name denotes -/

/-- The text is the identifier, the reference or the stored canonical key of the object. -/
def Denotes (canonicalKeyOf : String → Option String) (text objectId : String) : Prop :=
  text = objectId ∨ text = stableRef objectId ∨ canonicalKeyOf objectId = some text

/-- **Names stand for the objects they denote**: in the aliases, and in the operations of
any patch, whose references otherwise stay as they are. -/
structure AliasesDenote (canonicalKeyOf : String → Option String) (contents : List JsonValue) :
    Prop where
  aliases : ∀ text ref, (visibleObjectRefAliases contents).get? text = some ref →
    ∃ objectId, ref = stableRef objectId ∧ Denotes canonicalKeyOf text objectId
  operations : ∀ frame operations, Forall₂ (fun operation normalized =>
    normalized.targetRef = operation.targetRef ∨ ∃ text objectId,
      operation.targetRef = some text ∧ normalized.targetRef = some (stableRef objectId) ∧
        Denotes canonicalKeyOf text objectId) operations
    (normalizeOperations frame (visibleObjectRefAliases contents) operations)

/-- **When names stand for the objects they denote.**  A dictionary that gives an object
another text as its canonical key must come after one that gave that text as a name. -/
theorem aliasesDenote_iff (canonicalKeyOf : String → Option String) (contents : List JsonValue) :
    AliasesDenote canonicalKeyOf contents ↔
      ∀ before fields after objectId text,
        dictionariesOfItems contents = before ++ fields :: after →
        givenText fields "object_id" = some objectId →
        givenText fields "canonical_key" = some text →
          Denotes canonicalKeyOf text objectId ∨ ∃ earlier ∈ before, text ∈ namesOf earlier := by
  have lookup : ∀ text, (visibleObjectRefAliases contents).get? text =
      ((dictionariesOfItems contents).find? fun fields => text ∈ namesOf fields).bind
        fun fields => (givenText fields "object_id").map stableRef := by
    intro text
    rw [visibleObjectRefAliases, collectFromItems_eq, get?_foldl]
    rfl
  constructor
  · intro denote before fields after objectId text split given key
    by_contra differs
    rw [not_or] at differs
    have first : (dictionariesOfItems contents).find? (fun fields => text ∈ namesOf fields) =
        some fields := by
      refine List.find?_eq_some_iff_append.2 ⟨by simp [namesOf, given, key], before, after, split, ?_⟩
      intro earlier member
      simpa using fun listed => differs.2 ⟨earlier, member, listed⟩
    obtain ⟨other, same, denotes⟩ := denote.aliases text (stableRef objectId) (by
      rw [lookup, first, Option.bind_some, given]
      rfl)
    obtain rfl : objectId = other := (String.append_right_inj _).1 same
    exact differs.1 denotes
  · intro own
    have sound : ∀ text ref, (visibleObjectRefAliases contents).get? text = some ref →
        ∃ objectId, ref = stableRef objectId ∧ Denotes canonicalKeyOf text objectId := by
      intro text ref found
      rw [lookup] at found
      obtain ⟨fields, first, taken⟩ := bind_eq_some_iff.1 found
      obtain ⟨member, before, after, split, fresh⟩ := List.find?_eq_some_iff_append.1 first
      obtain ⟨objectId, given, named⟩ := exists_objectId (of_decide_eq_true member)
      rw [given] at taken
      refine ⟨objectId, (Option.some.inj taken).symm, ?_⟩
      rcases named with same | same | key
      · exact .inl same
      · exact .inr (.inl same)
      · refine (own before fields after objectId text split given key).resolve_right ?_
        rintro ⟨earlier, listed, gave⟩
        simpa [gave] using fresh earlier listed
    refine ⟨sound, fun frame operations => ?_⟩
    refine forall₂_map_right_iff.2 (forall₂_same.2 fun operation _ => ?_)
    cases given : operation.targetRef with
    | none => exact .inl rfl
    | some text =>
        by_cases target : text ∈ frame.state.targets
        · exact .inr ⟨text, text, rfl, if_pos target, .inl rfl⟩
        · cases found : (visibleObjectRefAliases contents).get? text with
          | none =>
              refine .inl ((if_neg target).trans ?_)
              rw [Dict.getD, found]
              rfl
          | some ref =>
              obtain ⟨objectId, rfl, denotes⟩ := sound text ref found
              refine .inr ⟨text, objectId, rfl, (if_neg target).trans ?_, denotes⟩
              rw [Dict.getD, found]
              rfl

/-- A vulnerability as the store shows it, with a relation whose qualifier its source wrote:
the qualifier gives the vulnerability the key of another object. -/
def steeredContents : List JsonValue :=
  [.object [("object_id", .string "v"), ("object_type", .string "Vulnerability"),
    ("canonical_key", .string "cve:1"), ("properties", .object []),
    ("external_identifiers", .object []), ("claims", .array []),
    ("relations", .array [.object [("relation_id", .string "r"),
      ("relation_type", .string "affects-package"), ("origin", .string "deterministic_derived"),
      ("qualifier", .object [("object_id", .string "v"), ("canonical_key", .string "package:p")]),
      ("created_revision", .int 1),
      ("target", .object [("object_id", .string "p"), ("object_type", .string "Package"),
        ("canonical_key", .string "package:p"), ("properties", .object []),
        ("external_identifiers", .object [])]),
      ("evidence", .array [])]])]]

/-- **Aliases can be steered.**  The key of the package stands for the vulnerability. -/
theorem steeredContents_differ :
    ¬ AliasesDenote (fun objectId => if objectId = "v" then some "cve:1"
      else if objectId = "p" then some "package:p" else none) steeredContents := by
  intro denote
  obtain ⟨objectId, same, denotes⟩ :=
    denote.aliases "package:p" "object:v" (by decide +kernel)
  obtain rfl : "v" = objectId := (String.append_right_inj "object:").1 same
  exact absurd denotes (by unfold Denotes; decide)

end SecFusion.Investigation
