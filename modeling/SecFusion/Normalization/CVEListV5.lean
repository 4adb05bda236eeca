import SecFusion.Normalization.NVD

/-!
# The CVE list

The model of `packages/intelligence/normalization/cvelist_v5.py` and of
`cvelist_v5_durable.py`: what `CVEListV5CanonicalNormalizer` reads of a CVE record.
-/

namespace SecFusion.Normalization

open Foundations Knowledge

/-! ## The projection -/

/-- `str(fields.get(name, ""))`. -/
def textOf (library : TextLibrary) (fields : JsonObject) (name : String) : String :=
  match fields.get? name with
  | none => ""
  | some (.string text) => text
  | some value => library.str value

/-- The container `cna`, or nothing. -/
def cnaOf (containers : JsonObject) : JsonObject := (containers.fields? "cna").getD []

/-- `_english_description`. -/
def cvelistEnglishDescription (library : TextLibrary) (cna : JsonObject) : JsonValue :=
  .ofText? ((((cna.items "descriptions").filterMap (·.fields?)).find? fun item =>
    (afterHead? "en" (textOf library item "lang").toLower).isSome).bind (·.text? "value"))

/-- `_affected_products`: the products that are named, each once. -/
def affectedProducts (cna : JsonObject) : List String :=
  let labels := ((cna.items "affected").filterMap (·.fields?)).filterMap fun item => do
    let product ← (valueOr (item.get? "product") (item.get? "packageName")).bind (·.text?)
    return match (item.text? "vendor").filter (· ≠ "") with
      | some vendor => vendor ++ "/" ++ product
      | none => product
  labels.foldl (fun result label => if label ∈ result then result else result ++ [label]) []

/-- `_references`. -/
def cvelistReferences (cna : JsonObject) : List JsonValue :=
  ((cna.items "references").filterMap (·.fields?)).filterMap fun item =>
    (item.text? "url").map .string

/-- The predicates of `CVEListV5HotBugNormalizer.projection`. -/
def cvelistPredicates : List String :=
  ["status", "title", "description_en", "assigner", "affected_products", "references",
    "published", "last_modified"]

/-- `CVEListV5HotBugNormalizer.projection`. -/
def cvelistProjection (library : TextLibrary) (payload : JsonObject) :
    Except Raised (Dict String JsonValue) := do
  let metadata ← fetch (payload.fields? "cveMetadata")
    (.sourceSchemaChanged "cvelistV5 payload is missing metadata/containers")
  let containers ← fetch (payload.fields? "containers")
    (.sourceSchemaChanged "cvelistV5 payload is missing metadata/containers")
  let cveId ← fetch (metadata.text? "cveId")
    (.sourceSchemaChanged "cvelistV5 cveMetadata.cveId is missing")
  let cna := cnaOf containers
  return {
    entries :=
      [ ("cve_id", .string cveId),
        ("status", jsonScalar library (metadata.get? "state")),
        ("title", jsonScalar library (cna.get? "title")),
        ("description_en", cvelistEnglishDescription library cna),
        ("assigner", jsonScalar library (metadata.get? "assignerShortName")),
        ("affected_products", .array ((affectedProducts cna).map .string)),
        ("references", .array (cvelistReferences cna)),
        ("published", jsonScalar library (metadata.get? "datePublished")),
        ("last_modified", jsonScalar library (metadata.get? "dateUpdated")) ]
    nodup := by
      show ("cve_id" :: cvelistPredicates).Nodup
      decide }

theorem keys_cvelistProjection (library : TextLibrary) (payload : JsonObject)
    (projected : Dict String JsonValue)
    (ok : cvelistProjection library payload = .ok projected) :
    projected.keys = "cve_id" :: cvelistPredicates := by
  unfold cvelistProjection at ok
  simp only [fetch_bind_eq_ok] at ok
  obtain ⟨metadata, -, containers, -, cveId, -, ok⟩ := ok
  cases ok
  rfl

/-- `_cvelist_locator_for`. -/
def cvelistLocatorFor (predicate : String) : JsonObject :=
  jsonPath (match predicate with
    | "status" => "$.cveMetadata.state"
    | "title" => "$.containers.cna.title"
    | "description_en" => "$.containers.cna.descriptions"
    | "assigner" => "$.cveMetadata.assignerShortName"
    | "affected_products" => "$.containers.cna.affected"
    | "references" => "$.containers.cna.references"
    | "published" => "$.cveMetadata.datePublished"
    | "last_modified" => "$.cveMetadata.dateUpdated"
    | _ => "$")

/-! ## Affected products -/

def givenText (fields : JsonObject) (name : String) : Option String :=
  (fields.text? name).filter (· ≠ "")

/-- `_optional_property`, under several names. -/
def optionalProperties (fields : JsonObject) (names : List (String × String)) : JsonObject :=
  JsonObject.update [] (names.filterMap fun (sourceKey, targetKey) =>
    (givenText fields sourceKey).map fun value => (targetKey, .string value))

/-- `text.split(":")`. -/
def splitColons (text : String) : List String := (text.toList.splitOn ':').map ofList

/-- The components of a CPE from its part on, in the older and in the newer form. -/
def cpeComponents (value : String) : List String :=
  match afterHead? "cpe:/" value with
  | some rest => splitColons rest
  | none =>
      if (afterHead? "cpe:2.3:" value).isSome then (splitColons value).drop 2 else []

/-- `_parse_cpe_product`, of a text. -/
def parseCpeProduct (library : TextLibrary) (value : String) :
    Option (String × String × String) :=
  match cpeComponents value with
  | part :: vendor :: product :: _ =>
      let named := fun item => (strip (library.unquote item)).toLower
      if isAnyCpe (named part) ∨ isAnyCpe (named vendor) ∨ isAnyCpe (named product) then none
      else some (named part, named vendor, named product)
  | _ => none

/-- The product of the first CPE that names one. -/
def cpeTarget (library : TextLibrary) (entry : JsonObject) :
    Except Raised (Option ObjectCandidate) :=
  match (entry.items "cpes").findSome? fun raw => raw.text?.bind (parseCpeProduct library) with
  | none => .ok none
  | some (part, vendor, product) => do
      let canonicalKey ← cpeProductCanonicalKey part vendor product
      return some {
        objectType := "Product"
        canonicalKey
        properties := JsonObject.update
          [ ("cpe_part", .string part), ("identity_scheme", .string "cpe23_product"),
            ("product", .string product), ("vendor", .string vendor) ]
          (optionalProperties entry [("packageName", "package_name")]) }

/-- `value.strip().lower()` of a field, and nothing where it is no text. -/
def material (entry : JsonObject) (name : String) : String :=
  (strip ((entry.text? name).getD "")).toLower

/-- The package or product that the fields of an entry name. -/
def namedTarget (entry : JsonObject) : Option ObjectCandidate :=
  match givenText entry "packageName", givenText entry "product" with
  | some packageName, _ => some {
      objectType := "Package"
      canonicalKey := "package:cve5-sha256:" ++ "|".intercalate
        (["vendor", "product", "packageName", "collectionURL"].map (material entry))
      properties := JsonObject.update
        [("identity_scheme", .string "cve5_package"), ("package_name", .string packageName)]
        (optionalProperties entry
          [("vendor", "vendor"), ("product", "product"), ("collectionURL", "collection_url")]) }
  | none, some product => some {
      objectType := "Product"
      canonicalKey := "product:cve5-sha256:" ++ "|".intercalate
        (["vendor", "product"].map (material entry))
      properties := JsonObject.update
        [("identity_scheme", .string "cve5_vendor_product"), ("product", .string product)]
        (optionalProperties entry [("vendor", "vendor")]) }
  | none, none => none

/-- `_affected_target`. -/
def affectedTarget (library : TextLibrary) (entry : JsonObject) :
    Except Raised (Option ObjectCandidate) := do
  let target ← cpeTarget library entry
  return target.or (namedTarget entry)

/-- `_product_context`. -/
def productContext (entry : JsonObject) : JsonValue :=
  let context := optionalProperties entry
    [("vendor", "vendor"), ("product", "product"), ("packageName", "package_name"),
      ("collectionURL", "collection_url")]
  let cpes := (entry.items "cpes").filterMap (·.text?)
  .object (if cpes = [] then context else context.set "cpes" (.array (cpes.map .string)))

/-- `_version_rule_scope`. -/
def versionRuleScope (rule : JsonObject) : JsonObject :=
  optionalProperties rule
    [("version", "version"), ("versionType", "version_type"), ("lessThan", "less_than"),
      ("lessThanOrEqual", "less_than_or_equal")]

/-- `_status_changes`. -/
def statusChanges (rule : JsonObject) : List JsonValue :=
  ((rule.items "changes").filterMap (·.fields?)).filterMap fun item => do
    let place ← item.text? "at"
    let status ← item.text? "status"
    return .object [("at", .string place), ("status", .string status)]

/-- `_canonical_state`. -/
def canonicalState (value : String) : String :=
  let normalized := (strip value).toLower
  if normalized = "affected" then "affected"
  else if normalized = "unaffected" then "not_affected"
  else "unknown"

/-- `_entry_has_affected`. -/
def entryHasAffected (library : TextLibrary) (entry : JsonObject) : Bool :=
  let isAffected := fun (fields : JsonObject) (name : String) =>
    (textOf library fields name).toLower == "affected"
  isAffected entry "defaultStatus" ||
    ((entry.items "versions").filterMap (·.fields?)).any fun rule => isAffected rule "status" ||
      ((rule.items "changes").filterMap (·.fields?)).any fun change => isAffected change "status"

/-! ## The relations -/

def affectedPath (index : ℕ) : String := indexed "$.containers.cna.affected" index

def affectsRelation (index : ℕ) (target : ObjectCandidate) (context : JsonValue) :
    RelationCandidate where
  relationType := if target.objectType = "Package" then "affects-package" else "affects-product"
  target := target
  qualifier :=
    [("product_context", context), ("source_semantics", .string "cve5_affected_entry")]
  locator := jsonPath (affectedPath index)

def ruleRelation (index versionIndex : ℕ) (target : ObjectCandidate) (context : JsonValue)
    (rule : JsonObject) (status : String) : RelationCandidate where
  relationType := "applicability-status"
  target := target
  qualifier :=
    let qualifier : JsonObject :=
      [ ("product_context", context),
        ("scope", .object (JsonObject.update [("kind", .string "version_rule")]
          (versionRuleScope rule))),
        ("source_semantics", .string "cve5_version_rule"),
        ("source_status", .string status),
        ("state", .string (canonicalState status)) ]
    if statusChanges rule = [] then qualifier
    else qualifier ++ [("status_changes", .array (statusChanges rule))]
  locator := jsonPath (indexed (affectedPath index ++ ".versions") versionIndex)

def defaultRelation (index : ℕ) (target : ObjectCandidate) (context : JsonValue)
    (entry : JsonObject) : RelationCandidate where
  relationType := "applicability-status"
  target := target
  qualifier :=
    let status := (entry.text? "defaultStatus").getD "unknown"
    let qualifier : JsonObject :=
      [ ("product_context", context),
        ("scope", .object [("kind", .string "default")]),
        ("source_semantics", .string "cve5_default_status"),
        ("source_status", .string status),
        ("state", .string (canonicalState status)) ]
    if (entry.text? "defaultStatus").isSome then qualifier
    else qualifier.set "default_inferred" (.bool true)
  locator := jsonPath
    (if (entry.text? "defaultStatus").isSome then affectedPath index ++ ".defaultStatus"
      else affectedPath index)

def entryRelations (library : TextLibrary) (item : JsonObject × ℕ) :
    Except Raised (List RelationCandidate) := do
  let (entry, index) := item
  match ← affectedTarget library entry with
  | none => return []
  | some target =>
      let context := productContext entry
      let affects :=
        if entryHasAffected library entry then [affectsRelation index target context] else []
      let rules := (entry.items "versions").zipIdx.filterMap fun (raw, versionIndex) => do
        let rule ← raw.fields?
        let status ← rule.text? "status"
        return ruleRelation index versionIndex target context rule status
      return affects ++ rules ++ [defaultRelation index target context entry]

/-- `_cvelist_relations`. -/
def cvelistRelations (library : TextLibrary) (_projected : Dict String JsonValue)
    (payload : JsonObject) : Except Raised (List RelationCandidate) := do
  let cna := ((payload.fields? "containers").map cnaOf).getD []
  let entries := (cna.items "affected").zipIdx.filterMap fun (raw, index) =>
    raw.fields?.map fun entry => (entry, index)
  let relations ← entries.mapM (entryRelations library)
  return relations.flatten

/-- The types of the relations of `_cvelist_relations`. -/
def cvelistRelationTypes : List String :=
  ["affects-package", "affects-product", "applicability-status"]

theorem relationType_cvelistRelations (library : TextLibrary) (projected : Dict String JsonValue)
    (payload : JsonObject) (relations : List RelationCandidate)
    (ok : cvelistRelations library projected payload = .ok relations) :
    ∀ relation ∈ relations, relation.relationType ∈ cvelistRelationTypes := by
  unfold cvelistRelations at ok
  obtain ⟨groups, mapped, ok⟩ := bind_eq_ok.1 ok
  cases ok
  intro relation member
  obtain ⟨group, grouped, inside⟩ := List.mem_flatten.1 member
  obtain ⟨⟨entry, index⟩, -, made⟩ := exists_of_mapM_ok mapped grouped
  unfold entryRelations at made
  obtain ⟨target, -, made⟩ := bind_eq_ok.1 made
  cases target with
  | none =>
      cases made
      cases inside
  | some target =>
      cases made
      rcases mem_append.1 inside with earlier | last
      · rcases mem_append.1 earlier with affects | rule
        · split at affects
          · rw [mem_singleton.1 affects]
            show (if target.objectType = "Package" then "affects-package" else "affects-product") ∈
              cvelistRelationTypes
            split
            · decide
            · decide
          · cases affects
        · obtain ⟨raw, -, found⟩ := mem_filterMap.1 rule
          obtain ⟨fields, -, found⟩ := bind_eq_some_iff.1 found
          obtain ⟨status, -, found⟩ := bind_eq_some_iff.1 found
          cases found
          show "applicability-status" ∈ cvelistRelationTypes
          decide
      · rw [mem_singleton.1 last]
        show "applicability-status" ∈ cvelistRelationTypes
        decide

/-- `CVEListV5CanonicalNormalizer`. -/
def cvelistV5CanonicalNormalizer (library : TextLibrary) : CanonicalNormalizer where
  processorName := "cvelist-v5-canonical-normalizer"
  processorVersion := "2"
  projection := cvelistProjection library
  locatorFor := cvelistLocatorFor
  relationsFor := cvelistRelations library
  predicates := cvelistPredicates
  relationTypes := cvelistRelationTypes
  projects := keys_cvelistProjection library
  relates := relationType_cvelistRelations library

end SecFusion.Normalization
