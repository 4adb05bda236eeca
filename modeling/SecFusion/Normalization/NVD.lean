import SecFusion.Normalization.Projected

/-!
# NVD

The model of `packages/intelligence/normalization/nvd.py` and of the relations of
`nvd_durable.py`: what `NVDCanonicalNormalizer` reads of the payload of an NVD envelope.

A payload is any JSON object; what is not of the expected shape is passed over.  Hashes of
texts are taken to determine the texts, so a canonical key ends with the text itself here.
-/

namespace SecFusion.Normalization

open Foundations Knowledge

/-- What the standard library makes of values and texts: `str` of a value that is not a
string, and the percent-decoding `unquote`. -/
structure TextLibrary where
  str : JsonValue → String
  unquote : String → String

/-! ## The projection -/

/-- `_json_scalar` of a value that may be missing. -/
def jsonScalar (library : TextLibrary) : Option JsonValue → JsonValue
  | none => .null
  | some (.array items) => .string (library.str (.array items))
  | some (.object fields) => .string (library.str (.object fields))
  | some value => value

/-- `float(value) if isinstance(value, (int, float))`. -/
def numberOf? : JsonValue → Option ℚ
  | .int value => some value
  | .real value => some value
  | .bool value => some (if value then 1 else 0)
  | .null | .string _ | .array _ | .object _ => none

/-- `first or second`, of two values that may be missing. -/
def valueOr (first second : Option JsonValue) : Option JsonValue :=
  match first with
  | some value => if value.truthy then some value else second
  | none => second

/-- The primary metric among the entries, or the first. -/
def primaryMetric (entries : List JsonValue) : Option JsonObject :=
  ((entries.find? fun item =>
    (item.fields?.bind fun fields => fields.get? "type") = some (.string "Primary")).or
      entries.head?).bind (·.fields?)

/-- One round of the loop of `_cvss`: score, severity, vector and version. -/
def cvssOf (metrics : JsonObject) (key : String) :
    Option (JsonValue × JsonValue × JsonValue × JsonValue) := do
  let primary ← primaryMetric (metrics.items key)
  let data ← primary.fields? "cvssData"
  let severity := valueOr (data.get? "baseSeverity") (primary.get? "baseSeverity")
  return ((((data.get? "baseScore").bind numberOf?).map .real).getD .null,
    .ofText? (severity.bind (·.text?)), .ofText? (data.text? "vectorString"),
    .ofText? (data.text? "version"))

/-- `_cvss`. -/
def cvss (cve : JsonObject) : JsonValue × JsonValue × JsonValue × JsonValue :=
  ((cve.fields? "metrics").bind fun metrics =>
    ["cvssMetricV40", "cvssMetricV31", "cvssMetricV30", "cvssMetricV2"].findSome?
      (cvssOf metrics)).getD (.null, .null, .null, .null)

/-- `_english_description`. -/
def nvdEnglishDescription (cve : JsonObject) : JsonValue :=
  .ofText? ((((cve.items "descriptions").filterMap (·.fields?)).find? fun item =>
    item.get? "lang" = some (.string "en")).bind (·.text? "value"))

/-- `_cwes`: the weaknesses that are named, each once. -/
def cwes (cve : JsonObject) : List String :=
  let named := ((cve.items "weaknesses").filterMap (·.fields?)).flatMap fun weakness =>
    ((weakness.items "description").filterMap (·.fields?)).filterMap (·.text? "value")
  named.foldl (fun result cwe =>
    if (afterHead? "CWE-" cwe).isSome ∧ cwe ∉ result then result ++ [cwe] else result) []

/-- The references that are objects with a URL, with their places in the list. -/
def referencesWithUrl (cve : JsonObject) : List (ℕ × JsonObject × String) :=
  (cve.items "references").zipIdx.filterMap fun (item, index) => do
    let fields ← item.fields?
    let url ← fields.text? "url"
    return (index, fields, url)

/-- `_exploit_references`. -/
def exploitReferences (cve : JsonObject) : List JsonValue :=
  ((referencesWithUrl cve).filter fun (_, fields, _) =>
    .string "Exploit" ∈ fields.items "tags").map fun (index, _, url) =>
      .object [("reference_index", .int index), ("url", .string url)]

/-- `_references`. -/
def nvdReferences (cve : JsonObject) : List JsonValue :=
  (referencesWithUrl cve).map fun (_, _, url) => .string url

/-- The predicates of `NVDHotBugNormalizer.projection`. -/
def nvdPredicates : List String :=
  ["status", "description_en", "cvss_score", "cvss_severity", "cvss_vector", "cvss_version",
    "cwes", "references", "exploit_references", "published", "last_modified"]

/-- `NVDHotBugNormalizer.projection`. -/
def nvdProjection (library : TextLibrary) (payload : JsonObject) :
    Except Raised (Dict String JsonValue) := do
  let cve ← fetch (payload.fields? "cve") (.sourceSchemaChanged "NVD payload has no cve object")
  let cveId ← fetch (cve.text? "id") (.sourceSchemaChanged "NVD cve.id is missing")
  let (score, severity, vector, version) := cvss cve
  return {
    entries :=
      [ ("cve_id", .string cveId),
        ("status", jsonScalar library (cve.get? "vulnStatus")),
        ("description_en", nvdEnglishDescription cve),
        ("cvss_score", score),
        ("cvss_severity", severity),
        ("cvss_vector", vector),
        ("cvss_version", version),
        ("cwes", .array ((cwes cve).map .string)),
        ("references", .array (nvdReferences cve)),
        ("exploit_references", .array (exploitReferences cve)),
        ("published", jsonScalar library (cve.get? "published")),
        ("last_modified", jsonScalar library (cve.get? "lastModified")) ]
    nodup := by
      show ("cve_id" :: nvdPredicates).Nodup
      decide }

theorem keys_nvdProjection (library : TextLibrary) (payload : JsonObject)
    (projected : Dict String JsonValue)
    (ok : nvdProjection library payload = .ok projected) :
    projected.keys = "cve_id" :: nvdPredicates := by
  unfold nvdProjection at ok
  simp only [fetch_bind_eq_ok] at ok
  obtain ⟨cve, -, cveId, -, ok⟩ := ok
  cases ok
  rfl

/-- `{"kind": "jsonpath", "path": path}`. -/
def jsonPath (path : String) : JsonObject :=
  [("kind", .string "jsonpath"), ("path", .string path)]

/-- `_nvd_locator_for`. -/
def nvdLocatorFor (predicate : String) : JsonObject :=
  jsonPath (match predicate with
    | "status" => "$.cve.vulnStatus"
    | "description_en" => "$.cve.descriptions[?(@.lang=='en')].value"
    | "cvss_score" | "cvss_severity" | "cvss_vector" | "cvss_version" => "$.cve.metrics"
    | "cwes" => "$.cve.weaknesses"
    | "references" | "exploit_references" => "$.cve.references"
    | "published" => "$.cve.published"
    | "last_modified" => "$.cve.lastModified"
    | _ => "$.cve")

/-! ## The relations -/

/-- `[index]` at the end of a path. -/
def indexed (path : String) (index : ℤ) : String := path ++ "[" ++ toString index ++ "]"

/-- The weaknesses of the projection. -/
def weaknessRelations (projected : Dict String JsonValue) : List RelationCandidate :=
  let values := ((projected.get? "cwes").bind (·.items?)).getD []
  ((values.filterMap (·.text?)).filter fun value => (afterHead? "CWE-" value).isSome).map
    fun value =>
      { relationType := "has-weakness"
        target :=
          { objectType := "Weakness"
            canonicalKey := "weakness:" ++ value.toUpper
            properties := [("cwe_id", .string value.toUpper)]
            identifiers := [("cwe", [value.toUpper])] }
        locator := jsonPath "$.cve.weaknesses" }

def exploitRelations (projected : Dict String JsonValue) : List RelationCandidate :=
  let values := ((projected.get? "exploit_references").bind (·.items?)).getD []
  (values.filterMap (·.fields?)).filterMap fun item => do
    let url ← item.text? "url"
    let .int index ← item.get? "reference_index" | none
    return {
      relationType := "has-poc"
      target :=
        { objectType := "ExploitArtifact"
          canonicalKey := "exploit-artifact:url-sha256:" ++ strip url
          properties :=
            [("source_semantics", .string "nvd_reference_exploit_tag"), ("url", .string url)] }
      locator := jsonPath (indexed "$.cve.references" index) }

/-- The references that are tagged as advisories of a vendor, each URL once. -/
def vendorAdvisories (seen : List String) :
    List (ℕ × JsonObject × String) → List (ℕ × String)
  | [] => []
  | (index, fields, url) :: rest =>
      if .string "Vendor Advisory" ∈ fields.items "tags" ∧ url ∉ seen then
        (index, url) :: vendorAdvisories (url :: seen) rest
      else vendorAdvisories seen rest

/-- `_nvd_vendor_advisory_relations`. -/
def vendorAdvisoryRelations (cve : JsonObject) : List RelationCandidate :=
  (vendorAdvisories [] (referencesWithUrl cve)).map fun (index, url) =>
    { relationType := "vendor-advisory"
      target :=
        { objectType := "Document"
          canonicalKey := "document:url-sha256:" ++ strip url
          properties :=
            [("document_kind", .string "vendor_advisory"),
              ("source_semantics", .string "nvd_vendor_advisory_tag"), ("url", .string url)] }
      qualifier := [("source_semantics", .string "nvd_vendor_advisory_tag")]
      locator := jsonPath (indexed "$.cve.references" index) }

mutual

/-- `_walk_configuration_nodes`, from a place in the list on: the nodes in depth-first
order, with their paths. -/
def walkNodes (above : List ℕ) (index : ℕ) : List JsonValue → List (List ℕ × JsonObject)
  | [] => []
  | .object fields :: rest =>
      (above ++ [index], fields) :: (walkChildren (above ++ [index]) fields ++
        walkNodes above (index + 1) rest)
  | .null :: rest | .bool _ :: rest | .int _ :: rest | .real _ :: rest | .string _ :: rest |
    .array _ :: rest => walkNodes above (index + 1) rest

/-- The nodes below a node, which are listed in its field `nodes`. -/
def walkChildren (above : List ℕ) : List (String × JsonValue) → List (List ℕ × JsonObject)
  | [] => []
  | (name, .array children) :: rest =>
      if name = "nodes" then walkNodes above 0 children else walkChildren above rest
  | (name, .null) :: rest | (name, .bool _) :: rest | (name, .int _) :: rest |
    (name, .real _) :: rest | (name, .string _) :: rest | (name, .object _) :: rest =>
      if name = "nodes" then [] else walkChildren above rest

end

/-- `_split_cpe23`: split at colons that are not escaped. -/
def splitCpe23 : List Char → List Char → List String
  | [], current => [ofList current.reverse]
  | [c], current =>
      if c = ':' then [ofList current.reverse, ""]
      else [ofList (c :: current).reverse]
  | c :: d :: rest, current =>
      if c = '\\' then splitCpe23 rest (d :: current)
      else if c = ':' then ofList current.reverse :: splitCpe23 (d :: rest) []
      else splitCpe23 (d :: rest) (c :: current)

/-- A component of a CPE that names nothing. -/
def isAnyCpe (component : String) : Bool := component = "" ∨ component = "*" ∨ component = "-"

/-- `_cpe23_product_identity`. -/
def cpe23ProductIdentity (criteria : String) : Option (String × String × String) :=
  if (afterHead? "cpe:2.3:" criteria).isSome then
    match splitCpe23 criteria.toList [] with
    | _ :: _ :: part :: vendor :: product :: _ =>
        if isAnyCpe part ∨ isAnyCpe vendor ∨ isAnyCpe product then none
        else some (part.toLower, vendor.toLower, product.toLower)
    | _ => none
  else none

/-- `cpe_product_canonical_key`. -/
def cpeProductCanonicalKey (part vendor product : String) : Except Raised String := do
  let normalized := [part, vendor, product].map fun item => (strip item).toLower
  require (normalized.any isAnyCpe = false)
    (.valueError "CPE product identity requires concrete part/vendor/product")
  return "product:cpe23-sha256:" ++ "|".intercalate normalized

/-- `_nvd_version_range`. -/
def nvdVersionRange (cpeMatch : JsonObject) : JsonObject :=
  JsonObject.update [] (["versionStartIncluding", "versionStartExcluding", "versionEndIncluding",
    "versionEndExcluding"].filterMap fun field =>
      ((cpeMatch.text? field).filter (· ≠ "")).map fun value => (field, .string value))

/-- A match of a configuration, with where it stands. -/
structure CpeMatch where
  rootIndex : ℕ
  root : JsonObject
  nodePath : List ℕ
  node : JsonObject
  matchIndex : ℕ
  cpeMatch : JsonObject
  criteria : String
  identity : String × String × String

/-- The matches of the configurations that say a product is vulnerable. -/
def cpeMatches (cve : JsonObject) : List CpeMatch :=
  (cve.items "configurations").zipIdx.flatMap fun (root, rootIndex) =>
    match root.fields? with
    | none => []
    | some root => (walkNodes [] 0 (root.items "nodes")).flatMap fun (nodePath, node) =>
        (node.items "cpeMatch").zipIdx.filterMap fun (item, matchIndex) => do
          let cpeMatch ← item.fields?
          let .bool true ← cpeMatch.get? "vulnerable" | none
          let criteria ← cpeMatch.text? "criteria"
          let identity ← cpe23ProductIdentity criteria
          return { rootIndex, root, nodePath, node, matchIndex, cpeMatch, criteria, identity }

/-- `bool(fields.get("negate", False))`. -/
def negates (fields : JsonObject) : Bool := ((fields.get? "negate").map (·.truthy)).getD false

/-- The `configuration` of a match. -/
def CpeMatch.configuration (found : CpeMatch) : JsonObject :=
  [ ("match_criteria_id", (found.cpeMatch.get? "matchCriteriaId").getD .null),
    ("match_index", .int found.matchIndex),
    ("node_negate", .bool (negates found.node)),
    ("node_operator", (found.node.get? "operator").getD .null),
    ("node_path", .array (found.nodePath.map fun index => .int index)),
    ("root_index", .int found.rootIndex),
    ("root_negate", .bool (negates found.root)),
    ("root_operator", (found.root.get? "operator").getD .null),
    ("root_snapshot", .object found.root) ]

def CpeMatch.path (found : CpeMatch) : String :=
  let nodes := indexed "$.cve.configurations" found.rootIndex ++ ".nodes" ++
    String.join (found.nodePath.dropLast.map fun index => indexed "" index ++ ".nodes")
  indexed (indexed nodes (found.nodePath.getLastD 0) ++ ".cpeMatch") found.matchIndex

def CpeMatch.relation (found : CpeMatch) : Except Raised RelationCandidate := do
  let (part, vendor, product) := found.identity
  let canonicalKey ← cpeProductCanonicalKey part vendor product
  let versionRange := nvdVersionRange found.cpeMatch
  let qualifier : JsonObject :=
    [ ("configuration", .object found.configuration), ("platform", .string found.criteria),
      ("source_semantics", .string "nvd_cpe"), ("state", .string "affected") ]
  return {
    relationType := "applicability-status"
    target :=
      { objectType := "Product"
        canonicalKey
        properties :=
          [ ("cpe_part", .string part), ("identity_scheme", .string "cpe23_product"),
            ("product", .string product), ("vendor", .string vendor) ] }
    qualifier :=
      if versionRange = [] then qualifier
      else qualifier ++ [("version_range", .object versionRange)]
    locator := jsonPath found.path }

/-- `_nvd_relations`. -/
def nvdRelations (projected : Dict String JsonValue) (payload : JsonObject) :
    Except Raised (List RelationCandidate) := do
  let stated := weaknessRelations projected ++ exploitRelations projected
  match payload.fields? "cve" with
  | none => return stated
  | some cve => do
      let products ← (cpeMatches cve).mapM (·.relation)
      return stated ++ vendorAdvisoryRelations cve ++ products

/-- The types of the relations of `_nvd_relations`. -/
def nvdRelationTypes : List String :=
  ["has-weakness", "has-poc", "vendor-advisory", "applicability-status"]

theorem relationType_nvdRelations (projected : Dict String JsonValue) (payload : JsonObject)
    (relations : List RelationCandidate) (ok : nvdRelations projected payload = .ok relations) :
    ∀ relation ∈ relations, relation.relationType ∈ nvdRelationTypes := by
  have stated : ∀ relation ∈ weaknessRelations projected ++ exploitRelations projected,
      relation.relationType ∈ nvdRelationTypes := by
    intro relation member
    rcases mem_append.1 member with weakness | exploit
    · obtain ⟨value, -, rfl⟩ := mem_map.1 weakness
      show "has-weakness" ∈ nvdRelationTypes
      decide
    · obtain ⟨item, -, found⟩ := mem_filterMap.1 exploit
      obtain ⟨url, -, found⟩ := bind_eq_some_iff.1 found
      obtain ⟨index, -, found⟩ := bind_eq_some_iff.1 found
      cases index with
      | int index =>
          cases found
          show "has-poc" ∈ nvdRelationTypes
          decide
      | null | bool | real | string | array | object => cases found
  unfold nvdRelations at ok
  dsimp only at ok
  split at ok
  · cases ok
    exact stated
  · obtain ⟨products, mapped, ok⟩ := bind_eq_ok.1 ok
    cases ok
    intro relation member
    rcases mem_append.1 member with earlier | product
    · rcases mem_append.1 earlier with first | advisory
      · exact stated relation first
      · obtain ⟨⟨index, url⟩, -, rfl⟩ := mem_map.1 advisory
        show "vendor-advisory" ∈ nvdRelationTypes
        decide
    · obtain ⟨found, -, made⟩ := exists_of_mapM_ok mapped product
      unfold CpeMatch.relation at made
      obtain ⟨canonicalKey, -, made⟩ := bind_eq_ok.1 made
      cases made
      show "applicability-status" ∈ nvdRelationTypes
      decide

/-- `NVDCanonicalNormalizer`. -/
def nvdCanonicalNormalizer (library : TextLibrary) : CanonicalNormalizer where
  processorName := "nvd-canonical-normalizer"
  processorVersion := "6"
  projection := nvdProjection library
  locatorFor := nvdLocatorFor
  relationsFor := nvdRelations
  predicates := nvdPredicates
  relationTypes := nvdRelationTypes
  projects := keys_nvdProjection library
  relates := relationType_nvdRelations

end SecFusion.Normalization
