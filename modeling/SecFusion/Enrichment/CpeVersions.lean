import SecFusion.Enrichment.CpeJoin

/-!
# Versions and names

The order in which versions are compared, the interval that the bounds of a criterion state, and
the text of which `parse_cpe` reads given components.
-/

namespace SecFusion.Enrichment

open Foundations

variable {left right other : List ℕ} {library : TextLibrary}

/-! ## The order of versions -/

theorem append_lt_append_iff {first second zeros : List ℕ} (same : first.length = second.length) :
    first ++ zeros < second ++ zeros ↔ first < second := by
  induction first generalizing second with
  | nil => simp [List.length_eq_zero_iff.1 same.symm]
  | cons number rest ih =>
      cases second with
      | nil => cases same
      | cons next others =>
          simp only [List.cons_append, List.cons_lt_cons_iff, ih (Nat.succ.inj same)]

/-- Versions can be compared at any width. -/
theorem padded_lt_iff {narrow width : ℕ} (ofLeft : left.length ≤ narrow)
    (ofRight : right.length ≤ narrow) (fits : narrow ≤ width) :
    padded left width < padded right width ↔ padded left narrow < padded right narrow := by
  have wider {version : List ℕ} (short : version.length ≤ narrow) :
      padded version width = padded version narrow ++ List.replicate (width - narrow) 0 := by
    rw [padded, padded, List.append_assoc, List.replicate_append_replicate]
    congr 2
    omega
  rw [wider ofLeft, wider ofRight, append_lt_append_iff]
  simp only [padded, List.length_append, List.length_replicate]
  omega

theorem compareVersions_le_iff {width : ℕ} (ofLeft : left.length ≤ width)
    (ofRight : right.length ≤ width) :
    compareVersions left right ≤ 0 ↔ padded left width ≤ padded right width := by
  rw [← not_lt (a := padded right width), padded_lt_iff (le_max_right ..)
    (le_max_left ..) (max_le ofLeft ofRight), compareVersions]
  split_ifs with above below below
  · exact absurd above below.asymm
  · simpa using above
  · simpa using above
  · simpa using above

theorem compareVersions_comm : compareVersions right left = - compareVersions left right := by
  simp only [compareVersions, max_comm, neg_sub, gt_iff_lt]

theorem compareVersions_trans (first : compareVersions left right ≤ 0)
    (second : compareVersions right other ≤ 0) : compareVersions left other ≤ 0 := by
  have width : ∃ width, left.length ≤ width ∧ right.length ≤ width ∧ other.length ≤ width :=
    ⟨left.length + right.length + other.length, by omega, by omega, by omega⟩
  obtain ⟨width, ofLeft, ofRight, ofOther⟩ := width
  rw [compareVersions_le_iff ofLeft ofRight] at first
  rw [compareVersions_le_iff ofRight ofOther] at second
  exact (compareVersions_le_iff ofLeft ofOther).2 (first.trans second)

theorem compareVersions_zeros (version : List ℕ) (few many : ℕ) :
    compareVersions (version ++ List.replicate few 0) (version ++ List.replicate many 0) = 0 := by
  have same : ∀ {zeros width : ℕ}, version.length + zeros ≤ width →
      padded (version ++ List.replicate zeros 0) width = padded version width := by
    intro zeros width fits
    rw [padded, padded, List.append_assoc, List.replicate_append_replicate, List.length_append,
      List.length_replicate]
    congr 2
    omega
  simp only [compareVersions, List.length_append, List.length_replicate]
  rw [same (le_max_left ..), same (le_max_right ..)]
  simp

/-! ## Bounds -/

/-- The criterion does not state the bound, or it is a number that passes. -/
def Bounded (library : TextLibrary) (criterion : JsonObject) (key : String)
    (passes : List ℕ → Prop) : Prop :=
  ∀ text, criterion.text? key = some text → text ≠ "" →
    ∃ bound, numericVersion library text = some bound ∧ passes bound

/-- The version is in the interval of the criterion. -/
def Within (library : TextLibrary) (criterion : JsonObject) (current : List ℕ) : Prop :=
  Bounded library criterion "versionStartIncluding" (compareVersions · current ≤ 0) ∧
    Bounded library criterion "versionStartExcluding" (compareVersions · current < 0) ∧
    Bounded library criterion "versionEndIncluding" (compareVersions current · ≤ 0) ∧
    Bounded library criterion "versionEndExcluding" (compareVersions current · < 0)

theorem mem_bounds {criterion : JsonObject} {bound : String × (ℤ → Bool)} :
    bound ∈ bounds criterion ↔ ∃ key, (key, bound.2) ∈ boundTests ∧
      criterion.text? key = some bound.1 ∧ bound.1 ≠ "" := by
  obtain ⟨text, test⟩ := bound
  simp only [bounds, List.mem_filterMap, Option.map_eq_some_iff, Option.filter_eq_some_iff]
  constructor
  · rintro ⟨⟨key, _⟩, listed, _, ⟨given, stated⟩, same⟩
    cases same
    exact ⟨key, listed, given, of_decide_eq_true stated⟩
  · rintro ⟨key, listed, given, stated⟩
    exact ⟨(key, test), listed, text, ⟨given, decide_eq_true stated⟩, rfl⟩

theorem within_iff {criterion : JsonObject} {current : List ℕ} :
    Within library criterion current ↔ ∀ entry ∈ boundTests, Bounded library criterion entry.1
      fun bound => entry.2 (compareVersions current bound) = true := by
  have back (bound : List ℕ) : compareVersions bound current = - compareVersions current bound :=
    compareVersions_comm
  simp [boundTests, Within, back]

/-- A version is in the bounds when there are none or it is in their interval. -/
theorem versionInBounds_iff {version : String} {criterion : JsonObject} :
    versionInBounds library version criterion = true ↔
      bounds criterion = [] ∨ ∃ current, numericVersion library version = some current ∧
        Within library criterion current := by
  rw [versionInBounds]
  by_cases free : bounds criterion = []
  · simp [free]
  rw [if_neg (by simpa using free), or_iff_right free]
  cases numericVersion library version with
  | none => simp
  | some current =>
      simp only [Option.some.injEq, exists_eq_left', List.all_eq_true, within_iff]
      constructor
      · intro all entry listed text given stated
        have passes := all (text, entry.2) (mem_bounds.2 ⟨entry.1, listed, given, stated⟩)
        cases numeric : numericVersion library text with
        | none => simp [numeric] at passes
        | some bound => exact ⟨bound, rfl, by simpa [numeric] using passes⟩
      · intro all bound member
        obtain ⟨key, listed, given, stated⟩ := mem_bounds.1 member
        obtain ⟨number, numeric, passes⟩ := all _ listed _ given stated
        simpa [numeric] using passes

/-! ## Names -/

/-- A component with its colons and backslashes escaped. -/
def escapeComponent (component : String) : String :=
  String.ofList (component.toList.flatMap fun char =>
    if char = '\\' ∨ char = ':' then ['\\', char] else [char])

def joinEscaped (components : List String) : String :=
  ":".intercalate (components.map escapeComponent)

theorem splitEscapedFrom_escaped (chars rest current : List Char) :
    splitEscapedFrom (chars.flatMap (fun char =>
        if char = '\\' ∨ char = ':' then ['\\', char] else [char]) ++ rest) current false =
      splitEscapedFrom rest (current ++ chars) false := by
  induction chars generalizing current with
  | nil => simp
  | cons char chars ih =>
      rw [List.flatMap_cons, List.append_assoc]
      by_cases special : char = '\\' ∨ char = ':'
      · rw [if_pos special]
        simp [splitEscapedFrom, ih]
      · rw [if_neg special]
        rw [not_or] at special
        simp [splitEscapedFrom, special, ih]

theorem splitEscaped_joinEscaped (component : String) (components : List String) :
    splitEscaped (joinEscaped (component :: components)) = component :: components := by
  induction components generalizing component with
  | nil =>
      have read := splitEscapedFrom_escaped component.toList [] []
      simpa [splitEscaped, joinEscaped, escapeComponent, splitEscapedFrom] using read
  | cons next components ih =>
      have joined : (joinEscaped (component :: next :: components)).toList =
          (escapeComponent component).toList ++ ':' :: (joinEscaped (next :: components)).toList := by
        simp [joinEscaped, String.intercalate_cons_cons]
      rw [splitEscaped, joined, escapeComponent, String.toList_ofList, splitEscapedFrom_escaped]
      have later := ih next
      rw [splitEscaped] at later
      simpa [splitEscapedFrom] using later

/-- `parse_cpe` reads the components of an escaped name. -/
theorem parseCpe_joinEscaped {part vendor product version : String} {others : List String}
    (concrete : ∀ component ∈ [part, vendor, product], isUnnamed component = false)
    (plain : ∀ component ∈ [part, vendor, product, version],
      library.unquote component = component) :
    let raw := "cpe:2.3:" ++ joinEscaped (part :: vendor :: product :: version :: others)
    parseCpe library raw = some { raw, part := library.lower part, vendor := library.lower vendor
                                  product := library.lower product, version } := by
  intro raw
  have joined : raw = joinEscaped ("cpe" :: "2.3" :: part :: vendor :: product :: version ::
      others) := by
    rw [← String.toList_inj]
    simp [raw, joinEscaped, String.intercalate_cons_cons, escapeComponent]
  have components : cpeComponents raw = some (part, vendor, product, version) := by
    rw [cpeComponents, if_pos (by simp [raw]), joined, splitEscaped_joinEscaped]
  simp only [List.forall_mem_cons] at concrete plain
  obtain ⟨namesPart, namesVendor, namesProduct, -⟩ := concrete
  obtain ⟨ofPart, ofVendor, ofProduct, ofVersion, -⟩ := plain
  simp [parseCpe, components, namesPart, namesVendor, namesProduct, ofPart, ofVendor, ofProduct,
    ofVersion]

/-- No list of components has no text, but the text of none is that of the empty one. -/
theorem splitEscaped_joinEscaped_nil : splitEscaped (joinEscaped []) ≠ [] := by decide

/-- **Versions and names.**  A text without a percent sign is its own `unquote`. -/
theorem versions_and_names
    (unquoted : ∀ text, '%' ∉ text.toList → library.unquote text = text) :
    ((∀ left right, compareVersions left right ≤ 0 ∨ compareVersions right left ≤ 0) ∧
      (∀ left right other, compareVersions left right ≤ 0 → compareVersions right other ≤ 0 →
        compareVersions left other ≤ 0) ∧
      (∀ left right, compareVersions right left = - compareVersions left right) ∧
      ∀ version few many, compareVersions (version ++ List.replicate few 0)
        (version ++ List.replicate many 0) = 0) ∧
    (∀ version criterion, versionInBounds library version criterion = true ↔
      bounds criterion = [] ∨ ∃ current, numericVersion library version = some current ∧
        Within library criterion current) ∧
    (∀ component components,
      splitEscaped (joinEscaped (component :: components)) = component :: components) ∧
    ∀ part vendor product version others,
      (∀ component ∈ [part, vendor, product], isUnnamed component = false) →
      (∀ component ∈ [part, vendor, product, version], '%' ∉ component.toList) →
      let raw := "cpe:2.3:" ++ joinEscaped (part :: vendor :: product :: version :: others)
      parseCpe library raw = some { raw, part := library.lower part, vendor := library.lower vendor
                                    product := library.lower product, version } := by
  refine ⟨⟨fun left right => ?_, fun _ _ _ => compareVersions_trans,
    fun _ _ => compareVersions_comm, compareVersions_zeros⟩,
    fun _ _ => versionInBounds_iff, splitEscaped_joinEscaped,
    fun _ _ _ _ _ concrete plain => parseCpe_joinEscaped concrete fun component listed =>
      unquoted component (plain component listed)⟩
  rw [show compareVersions right left = - compareVersions left right from compareVersions_comm,
    neg_nonpos]
  exact le_total ..

theorem versions_and_names_tool :
    let library : TextLibrary := ⟨id, id, fun _ => none⟩
    parseCpe library ("cpe:2.3:" ++ joinEscaped ["a", "acme", "to:ol", "1"]) =
      some ⟨"cpe:2.3:a:acme:to\\:ol:1", "a", "acme", "to:ol", "1"⟩ :=
  have checked := versions_and_names (fun (text : String) _ => rfl)
  checked.2.2.2 "a" "acme" "to:ol" "1" [] (by decide) (by decide)

end SecFusion.Enrichment
