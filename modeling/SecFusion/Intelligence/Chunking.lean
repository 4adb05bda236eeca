import SecFusion.Foundations.Json
import SecFusion.Foundations.Slices
import SecFusion.Foundations.Text

/-!
# Document chunks

The model of `chunk_sections` in `packages/intelligence/documents/chunking.py`: the text of
each section, stripped, is cut by sliding windows, and a window that is not blank becomes a
chunk, stripped once more, that keeps the two ends of its window as its locator.

Both strips move the text under the locator.  The first one shifts every offset by the white
space before the section, the second one shortens a chunk but not its range; so a locator is
exact when nothing was there to strip.  The order of the chunks, the part of the text they
cover and how far they overlap do not depend on it.
-/

namespace SecFusion.Intelligence

open Foundations

structure ParsedSection where
  text : String
  pageNumber : Option ℤ := none
  /-- The heading. -/
  ofSection : Option String := none
  sourceLocator : JsonObject := []

structure DocumentChunk where
  ordinal : ℕ
  text : String
  pageNumber : Option ℤ
  ofSection : Option String
  (charStart charEnd : ℕ)
  contentHash : String
  sourceLocator : JsonObject

/-- The slice `text[start:end]`. -/
def sliceText (text : String) (start stop : ℕ) : String :=
  String.ofList (slice text.toList start stop)

section Chunks

variable (sha256 : String → String) (windowing : Windowing)

def windowChunk (parsed : ParsedSection) (text : String) (start stop ordinal : ℕ) :
    List DocumentChunk :=
  let chunkText := strip (sliceText text start stop)
  if chunkText ≠ "" then
    [{ ordinal := ordinal
       text := chunkText
       pageNumber := parsed.pageNumber
       ofSection := parsed.ofSection
       charStart := start
       charEnd := stop
       contentHash := sha256 chunkText
       sourceLocator := parsed.sourceLocator }]
  else []

/-- The loop of one section, from a start and the next ordinal on. -/
def chunkLoop (parsed : ParsedSection) (text : String) (start ordinal : ℕ) :
    List DocumentChunk :=
  if start < text.toList.length then
    let stop := min text.toList.length (start + windowing.size)
    -- a blank window takes no ordinal
    let own := windowChunk sha256 parsed text start stop ordinal
    if stop = text.toList.length then own
    else own ++ chunkLoop parsed text (start + windowing.step) (ordinal + own.length)
  else []
termination_by text.toList.length - start
decreasing_by
  have := windowing.step_pos
  omega

def sectionChunks (parsed : ParsedSection) (ordinal : ℕ) : List DocumentChunk :=
  let text := strip parsed.text
  if text = "" then [] else chunkLoop sha256 windowing parsed text 0 ordinal

/-- Each section with the chunks the loop appends for it. -/
def chunkParts : List ParsedSection → ℕ → List (ParsedSection × List DocumentChunk)
  | [], _ => []
  | parsed :: rest, ordinal =>
      let own := sectionChunks sha256 windowing parsed ordinal
      (parsed, own) :: chunkParts rest (ordinal + own.length)

/-- The sizes `chunk_sections` accepts, or the text of its `ValueError`. -/
def acceptSizes (chunkSize overlap : ℤ) : Except String Windowing :=
  if positive : chunkSize ≤ 0 then .error "chunk_size must be positive"
  else if within : overlap < 0 ∨ overlap ≥ chunkSize then
    .error "overlap must satisfy 0 <= overlap < chunk_size"
  else .ok ⟨chunkSize.toNat, overlap.toNat, by omega⟩

end Chunks

/-- `chunk_sections`. -/
def chunkSections (sha256 : String → String) (sections : List ParsedSection)
    (chunkSize : ℤ := 3500) (overlap : ℤ := 350) : Except String (List DocumentChunk) :=
  (acceptSizes chunkSize overlap).map fun windowing =>
    (chunkParts sha256 windowing sections 0).flatMap (·.2)

/-! ## What the loop appends -/

variable {text : String} {start ordinal : ℕ} {windows : List (ℕ × ℕ)} {chunks : List DocumentChunk}

section Loop

variable {sha256 : String → String} {windowing : Windowing} {parsed : ParsedSection}

theorem strip_eq_empty_iff (text : String) :
    strip text = "" ↔ trim isSpace text.toList = [] := by
  rw [strip, ← String.toList_inj, String.toList_ofList]
  rfl

theorem chunkLoop_of_lt (inside : start < text.toList.length) :
    chunkLoop sha256 windowing parsed text start ordinal =
      let stop := min text.toList.length (start + windowing.size)
      let own := windowChunk sha256 parsed text start stop ordinal
      if stop = text.toList.length then own
      else own ++ chunkLoop sha256 windowing parsed text (start + windowing.step)
        (ordinal + own.length) := by
  rw [chunkLoop, if_pos inside]

theorem windowChunk_of_strip {chunkText : String} {stop : ℕ}
    (same : strip (sliceText text start stop) = chunkText) (shows : chunkText ≠ "") :
    windowChunk sha256 parsed text start stop ordinal =
      [⟨ordinal, chunkText, parsed.pageNumber, parsed.ofSection, start, stop, sha256 chunkText,
        parsed.sourceLocator⟩] := by
  rw [windowChunk, same, if_pos shows]

/-- What a run of chunks says of the windows it was cut from. -/
structure CutFrom (text : String) (windows : List (ℕ × ℕ)) (ordinal : ℕ)
    (chunks : List DocumentChunk) : Prop where
  ranges : chunks.map (fun chunk => (chunk.charStart, chunk.charEnd)) =
    windows.filter fun window => trim isSpace (slice text.toList window.1 window.2) ≠ []
  texts : ∀ chunk ∈ chunks,
    chunk.text = strip (sliceText text chunk.charStart chunk.charEnd)
  ordinals : chunks.map (·.ordinal) = List.range' ordinal chunks.length

theorem cutFrom_windowChunk (text : String) (start stop ordinal : ℕ) :
    CutFrom text [(start, stop)] ordinal
      (windowChunk sha256 parsed text start stop ordinal) := by
  have blank : strip (sliceText text start stop) = "" ↔
      trim isSpace (slice text.toList start stop) = [] := by
    rw [strip_eq_empty_iff, sliceText, String.toList_ofList]
  unfold windowChunk
  dsimp only
  split
  next shows =>
    refine ⟨?_, ?_, by simp⟩
    · rw [ne_eq, blank] at shows
      simp [shows]
    · intro chunk member
      rw [List.mem_singleton.1 member]
  next hides =>
    rw [ne_eq, not_not, blank] at hides
    exact ⟨by simp [hides], by simp, by simp⟩

theorem CutFrom.append {others : List (ℕ × ℕ)} {rest : List DocumentChunk}
    (first : CutFrom text windows ordinal chunks)
    (second : CutFrom text others (ordinal + chunks.length) rest) :
    CutFrom text (windows ++ others) ordinal (chunks ++ rest) where
  ranges := by rw [List.map_append, List.filter_append, first.ranges, second.ranges]
  texts chunk member := (List.mem_append.1 member).elim (first.texts chunk) (second.texts chunk)
  ordinals := by
    rw [List.map_append, first.ordinals, second.ordinals, List.length_append,
      ← List.range'_append_1]

/-- The chunks of a section are cut from the windows of its stripped text. -/
theorem cutFrom_chunkLoop (text : String) (start ordinal : ℕ) :
    CutFrom text (windowing.windowsFrom text.toList.length start) ordinal
      (chunkLoop sha256 windowing parsed text start ordinal) := by
  induction start, ordinal using chunkLoop.induct sha256 windowing parsed text with
  | case1 start ordinal inside stop last =>
      rw [chunkLoop_of_lt inside, if_pos last, Windowing.windowsFrom_of_lt inside, if_pos last]
      exact cutFrom_windowChunk text start stop ordinal
  | case2 start ordinal inside stop own notLast ih =>
      rw [chunkLoop_of_lt inside, if_neg notLast, Windowing.windowsFrom_of_lt inside,
        if_neg notLast]
      exact (cutFrom_windowChunk text start stop ordinal).append ih
  | case3 start ordinal outside =>
      rw [chunkLoop, if_neg outside, Windowing.windowsFrom, if_neg outside]
      exact ⟨rfl, by simp, rfl⟩

theorem CutFrom.exists_chunk (cut : CutFrom text windows ordinal chunks) {window : ℕ × ℕ}
    (member : window ∈ windows)
    (shows : trim isSpace (slice text.toList window.1 window.2) ≠ []) :
    ∃ chunk ∈ chunks, chunk.charStart = window.1 ∧ chunk.charEnd = window.2 := by
  have listed : window ∈ chunks.map fun chunk => (chunk.charStart, chunk.charEnd) := by
    rw [cut.ranges, List.mem_filter, decide_eq_true_eq]
    exact ⟨member, shows⟩
  obtain ⟨chunk, chunkMember, rfl⟩ := List.mem_map.1 listed
  exact ⟨chunk, chunkMember, rfl, rfl⟩

theorem CutFrom.window_of_chunk (cut : CutFrom text windows ordinal chunks) {chunk : DocumentChunk}
    (member : chunk ∈ chunks) :
    (chunk.charStart, chunk.charEnd) ∈ windows ∧
      trim isSpace (slice text.toList chunk.charStart chunk.charEnd) ≠ [] := by
  have listed := List.mem_map_of_mem (f := fun chunk : DocumentChunk =>
    (chunk.charStart, chunk.charEnd)) member
  rw [cut.ranges, List.mem_filter, decide_eq_true_eq] at listed
  exact listed

theorem cutFrom_sectionChunks (sha256 : String → String) (windowing : Windowing)
    (parsed : ParsedSection) (ordinal : ℕ) :
    CutFrom (strip parsed.text)
      (windowing.windows (strip parsed.text).toList.length) ordinal
      (sectionChunks sha256 windowing parsed ordinal) := by
  unfold sectionChunks
  dsimp only
  split
  next blank =>
    rw [blank, Windowing.windows, Windowing.windowsFrom]
    exact ⟨by simp, by simp, by simp⟩
  next => exact cutFrom_chunkLoop _ 0 ordinal

end Loop

/-! ## Exact locators -/

section Locators

variable {sha256 : String → String} {windowing : Windowing} {parsed : ParsedSection}

/-- The chunks of a section locate its text: what is not white space is in a range, no two
ranges share more than the overlap, and a chunk is the slice its range names. -/
structure Locates (windowing : Windowing) (parsed : ParsedSection)
    (chunks : List DocumentChunk) : Prop where
  covers : ∀ (i : ℕ) (c : Char), parsed.text.toList[i]? = some c → isSpace c = false →
    ∃ chunk ∈ chunks, chunk.charStart ≤ i ∧ i < chunk.charEnd
  overlaps : chunks.Pairwise fun first second =>
    first.charEnd ≤ second.charStart + windowing.overlap
  exact : ∀ chunk ∈ chunks,
    chunk.text = sliceText parsed.text chunk.charStart chunk.charEnd

/-- Nothing is stripped: a section that is not blank does not begin with white space, and a
window of its text that is not blank neither begins nor ends with it. -/
structure NothingStripped (windowing : Windowing) (parsed : ParsedSection) : Prop where
  starts : ¬ isBlank parsed.text → ∀ c ∈ parsed.text.toList.head?, isSpace c = false
  windows : ∀ window ∈ windowing.windows (strip parsed.text).toList.length,
    ¬ isBlank (sliceText (strip parsed.text) window.1 window.2) →
      Flush isSpace (slice (strip parsed.text).toList window.1 window.2)

theorem toList_strip (text : String) :
    (strip text).toList = trim isSpace text.toList := by
  rw [strip, String.toList_ofList]
  rfl

theorem isBlank_iff (text : String) :
    isBlank text = true ↔ trim isSpace text.toList = [] := by
  rw [isBlank, List.all_eq_true, trim_eq_nil_iff]

theorem overlaps_sectionChunks :
    (sectionChunks sha256 windowing parsed ordinal).Pairwise fun first second =>
      first.charEnd ≤ second.charStart + windowing.overlap := by
  have ranges := (cutFrom_sectionChunks sha256 windowing parsed ordinal).ranges
  have apart := (windowing.share_le (strip parsed.text).toList.length 0).sublist
    (List.filter_sublist (p := fun window => trim isSpace
      (slice (strip parsed.text).toList window.1 window.2) ≠ []))
  rw [← Windowing.windows, ← ranges, List.pairwise_map] at apart
  exact apart

/-- The first chunk starts with the section, so an exact one shows no white space there. -/
theorem Locates.starts (locates : Locates windowing parsed
      (sectionChunks sha256 windowing parsed ordinal)) (shows : ¬ isBlank parsed.text) :
    ∀ c ∈ parsed.text.toList.head?, isSpace c = false := by
  have cut := cutFrom_sectionChunks sha256 windowing parsed ordinal
  rw [isBlank_iff, ← toList_strip] at shows
  obtain ⟨window, member, above, below⟩ :
      ∃ window ∈ windowing.windows (strip parsed.text).toList.length,
        window.1 ≤ 0 ∧ 0 < window.2 :=
    Windowing.covers le_rfl (List.length_pos_iff.2 shows)
  have zero : window.1 = 0 := Nat.le_zero.1 above
  have head : (slice (strip parsed.text).toList window.1 window.2).head? =
      (trim isSpace parsed.text.toList).head? := by
    rw [zero, head?_slice_zero below, toList_strip]
  have notBlank : trim isSpace
      (slice (strip parsed.text).toList window.1 window.2) ≠ [] := by
    intro blank
    obtain ⟨first, rest, same⟩ := List.exists_cons_of_ne_nil shows
    rw [← toList_strip, same, List.head?_cons] at head
    rw [same] at blank
    have space := trim_eq_nil_iff.1 blank first (List.mem_of_mem_head? head)
    have solid : Flush isSpace (trim isSpace parsed.text.toList) := flush_trim
    rw [← toList_strip, same] at solid
    rw [solid.1 first rfl] at space
    exact Bool.false_ne_true space
  obtain ⟨chunk, chunkMember, atStart, atEnd⟩ := cut.exists_chunk member notBlank
  have same : sliceText parsed.text chunk.charStart chunk.charEnd =
      strip (sliceText (strip parsed.text) chunk.charStart chunk.charEnd) := by
    rw [← locates.exact chunk chunkMember, cut.texts chunk chunkMember]
  rw [← String.toList_inj, toList_strip, sliceText, String.toList_ofList, atStart, atEnd,
    zero] at same
  intro c begins
  have flush : Flush isSpace
      (trim isSpace (sliceText (strip parsed.text) 0 window.2).toList) := flush_trim
  rw [← same] at flush
  exact flush.1 c (by rw [head?_slice_zero below]; exact begins)

theorem windows_of_isBlank (blank : isBlank parsed.text = true) :
    windowing.windows (strip parsed.text).toList.length = [] := by
  rw [isBlank_iff, ← toList_strip] at blank
  rw [blank, Windowing.windows, Windowing.windowsFrom]
  simp

theorem Locates.nothingStripped (locates : Locates windowing parsed
      (sectionChunks sha256 windowing parsed ordinal)) : NothingStripped windowing parsed := by
  have cut := cutFrom_sectionChunks sha256 windowing parsed ordinal
  refine ⟨locates.starts, fun window member shows => ?_⟩
  rw [isBlank_iff, sliceText, String.toList_ofList] at shows
  obtain ⟨chunk, chunkMember, atStart, atEnd⟩ := cut.exists_chunk member shows
  have nonblank : ¬ isBlank parsed.text := by
    intro blank
    rw [windows_of_isBlank blank] at member
    cases member
  -- the section begins where its stripped text does, so a range means the same in both
  obtain ⟨blanks, same, -⟩ := trim_prefix (locates.starts nonblank)
  have texts := (cut.texts chunk chunkMember).symm.trans (locates.exact chunk chunkMember)
  rw [← String.toList_inj, toList_strip, sliceText, sliceText, String.toList_ofList,
    String.toList_ofList, atStart, atEnd, same, ← toList_strip,
    slice_append_left (Windowing.bounds member).2.2.1] at texts
  exact trim_eq_self_iff.1 texts

theorem NothingStripped.locates (nothing : NothingStripped windowing parsed) :
    Locates windowing parsed (sectionChunks sha256 windowing parsed ordinal) := by
  have cut := cutFrom_sectionChunks sha256 windowing parsed ordinal
  by_cases blank : isBlank parsed.text
  · have all := List.all_eq_true.1 blank
    refine ⟨fun i c found solid => ?_, overlaps_sectionChunks, fun chunk member => ?_⟩
    · rw [all c (List.mem_of_getElem? found)] at solid
      cases solid
    · have listed := (cut.window_of_chunk member).1
      rw [windows_of_isBlank blank] at listed
      cases listed
  · obtain ⟨blanks, same, spaces⟩ := trim_prefix (nothing.starts blank)
    rw [← toList_strip] at same
    refine ⟨fun i c found solid => ?_, overlaps_sectionChunks, fun chunk member => ?_⟩
    · -- past the stripped text there is only white space
      have inside : i < (strip parsed.text).toList.length := by
        by_contra outside
        rw [same, List.getElem?_append_right (by omega)] at found
        rw [spaces c (List.mem_of_getElem? found)] at solid
        cases solid
      rw [same, List.getElem?_append_left inside] at found
      obtain ⟨window, member, above, below⟩ :
          ∃ window ∈ windowing.windows (strip parsed.text).toList.length,
            window.1 ≤ i ∧ i < window.2 :=
        Windowing.covers (Nat.zero_le i) inside
      have shows : trim isSpace
          (slice (strip parsed.text).toList window.1 window.2) ≠ [] := by
        intro empty
        rw [trim_eq_nil_iff.1 empty c (mem_slice found above below)] at solid
        cases solid
      obtain ⟨chunk, chunkMember, atStart, atEnd⟩ := cut.exists_chunk member shows
      exact ⟨chunk, chunkMember, by omega, by omega⟩
    · obtain ⟨listed, shows⟩ := cut.window_of_chunk member
      have flush := nothing.windows _ listed (by
        rwa [isBlank_iff, sliceText, String.toList_ofList])
      rw [cut.texts chunk member, ← String.toList_inj, toList_strip, sliceText, sliceText,
        String.toList_ofList, String.toList_ofList, same,
        slice_append_left (Windowing.bounds listed).2.2.1]
      exact trim_eq_self_iff.2 flush

/-- The locators of a section are exact when nothing was there to strip, and only then. -/
theorem locates_sectionChunks_iff :
    Locates windowing parsed (sectionChunks sha256 windowing parsed ordinal) ↔
      NothingStripped windowing parsed :=
  ⟨Locates.nothingStripped, NothingStripped.locates⟩

/-- The sections keep their order, and each has the chunks the loop cut from it. -/
theorem mem_chunkParts {sections : List ParsedSection} {part : ParsedSection × List DocumentChunk}
    (member : part ∈ chunkParts sha256 windowing sections ordinal) :
    part.1 ∈ sections ∧ ∃ first, part.2 = sectionChunks sha256 windowing part.1 first := by
  induction sections generalizing ordinal with
  | nil => cases member
  | cons parsed rest ih =>
      rcases List.mem_cons.1 member with rfl | later
      · exact ⟨List.mem_cons_self, ordinal, rfl⟩
      · obtain ⟨listed, first, same⟩ := ih later
        exact ⟨List.mem_cons_of_mem _ listed, first, same⟩

theorem chunkParts_fst (sections : List ParsedSection) (ordinal : ℕ) :
    (chunkParts sha256 windowing sections ordinal).map (·.1) = sections := by
  induction sections generalizing ordinal with
  | nil => rfl
  | cons parsed rest ih =>
      rw [chunkParts, List.map_cons, ih]

/-- The ordinals run on from one section into the next. -/
theorem chunkParts_ordinals (sections : List ParsedSection) (ordinal : ℕ) :
    ((chunkParts sha256 windowing sections ordinal).flatMap (·.2)).map (·.ordinal) =
      List.range' ordinal
        ((chunkParts sha256 windowing sections ordinal).flatMap (·.2)).length := by
  induction sections generalizing ordinal with
  | nil => rfl
  | cons parsed rest ih =>
      have own := (cutFrom_sectionChunks sha256 windowing parsed ordinal).ordinals
      rw [chunkParts, List.flatMap_cons, List.map_append, own, ih, List.length_append,
        List.range'_append_1]

/-- The sizes within the bounds are accepted as they are. -/
theorem acceptSizes_eq_ok {chunkSize overlap : ℤ} (positive : 0 ≤ overlap)
    (below : overlap < chunkSize) :
    ∃ windowing, acceptSizes chunkSize overlap = .ok windowing ∧
      (windowing.size : ℤ) = chunkSize ∧ (windowing.overlap : ℤ) = overlap := by
  have large : ¬ chunkSize ≤ 0 := by omega
  have within : ¬ (overlap < 0 ∨ overlap ≥ chunkSize) := by omega
  rw [acceptSizes, dif_neg large, dif_neg within]
  exact ⟨_, rfl, Int.toNat_of_nonneg (by omega), Int.toNat_of_nonneg positive⟩

/-- The chunks of a list of sections: numbered from nought, and for each section located in
its text. -/
structure Located (windowing : Windowing) (sections : List ParsedSection)
    (parts : List (ParsedSection × List DocumentChunk)) : Prop where
  sections : parts.map (·.1) = sections
  numbered : (parts.flatMap (·.2)).map (·.ordinal) = List.range (parts.flatMap (·.2)).length
  locates : ∀ part ∈ parts, Locates windowing part.1 part.2

/-- `chunk_sections` returns for all sizes it accepts, and its locators are exact if and only if
there is nothing to strip: no section begins with white space and no window of one begins or
ends with it. -/
theorem chunk_locators_exact_iff (sha256 : String → String) (sections : List ParsedSection)
    (chunkSize overlap : ℤ) (positive : 0 ≤ overlap) (below : overlap < chunkSize) :
    ∃ windowing : Windowing,
      (windowing.size : ℤ) = chunkSize ∧ (windowing.overlap : ℤ) = overlap ∧
      chunkSections sha256 sections chunkSize overlap =
        .ok ((chunkParts sha256 windowing sections 0).flatMap (·.2)) ∧
      (Located windowing sections (chunkParts sha256 windowing sections 0) ↔
        ∀ parsed ∈ sections, NothingStripped windowing parsed) := by
  obtain ⟨windowing, accepted, size, shared⟩ := acceptSizes_eq_ok positive below
  refine ⟨windowing, size, shared, by rw [chunkSections, accepted]; rfl, ?_⟩
  constructor
  · intro located parsed listed
    rw [← located.sections] at listed
    obtain ⟨part, member, rfl⟩ := List.mem_map.1 listed
    obtain ⟨-, first, same⟩ := mem_chunkParts member
    have locates := located.locates part member
    rw [same] at locates
    exact locates_sectionChunks_iff.1 locates
  · intro nothing
    refine ⟨chunkParts_fst sections 0, ?_, fun part member => ?_⟩
    · rw [chunkParts_ordinals, List.range_eq_range']
    · obtain ⟨listed, first, same⟩ := mem_chunkParts member
      rw [same]
      exact locates_sectionChunks_iff.2 (nothing part.1 listed)

/-- Two windows that begin and end inside words: their chunks are located. -/
theorem chunk_locators_exact_iff_words :
    ∃ windowing : Windowing,
      chunkSections id [{ text := "ab cd" }] 4 1 =
        .ok ((chunkParts id windowing [{ text := "ab cd" }] 0).flatMap (·.2)) ∧
      Located windowing [{ text := "ab cd" }]
        (chunkParts id windowing [{ text := "ab cd" }] 0) := by
  obtain ⟨windowing, size, shared, returned, iff⟩ :=
    chunk_locators_exact_iff id [{ text := "ab cd" }] 4 1 (by decide) (by decide)
  refine ⟨windowing, returned, iff.2 fun parsed listed => ?_⟩
  obtain rfl := List.mem_singleton.1 listed
  obtain ⟨sizeOf, overlapOf, below⟩ := windowing
  obtain rfl : sizeOf = 4 := Int.ofNat.inj size
  obtain rfl : overlapOf = 1 := Int.ofNat.inj shared
  have windows : (⟨4, 1, below⟩ : Windowing).windows 5 = [(0, 4), (3, 5)] := by
    simp [Windowing.windows, Windowing.windowsFrom, Windowing.step]
  have first : "ab cd".toList.head? = some 'a' := by decide
  refine ⟨fun _ c begins => ?_, fun window member _ => ?_⟩
  · rw [first, Option.mem_some] at begins
    rw [← begins]
    decide
  · rw [show (Text.strip "ab cd").toList.length = 5 by decide, windows] at member
    rcases List.mem_pair.1 member with rfl | rfl <;> decide

/-- A window that ends at a blank keeps the blank in its range, and its chunk loses it. -/
theorem stripped_chunk_misses_its_range :
    let parsed : ParsedSection := { text := "ab cd" }
    let windowing : Windowing := ⟨3, 1, by decide⟩
    ∃ chunk rest, chunkSections id [parsed] 3 1 = .ok (chunk :: rest) ∧
      chunkParts id windowing [parsed] 0 = [(parsed, chunk :: rest)] ∧
      chunk.charStart = 0 ∧ chunk.charEnd = 3 ∧ chunk.text = "ab" ∧
      sliceText parsed.text 0 3 = "ab " ∧
      ¬ Located windowing [parsed] (chunkParts id windowing [parsed] 0) := by
  intro parsed windowing
  have text : Text.strip parsed.text = "ab cd" := by decide
  have shown : Text.strip (sliceText "ab cd" 0 3) = "ab" := by decide
  have kept : sliceText "ab cd" 0 3 = "ab " := by decide
  have first : windowChunk id parsed "ab cd" 0 3 0 =
      [⟨0, "ab", none, none, 0, 3, id "ab", []⟩] :=
    windowChunk_of_strip shown (by decide)
  have parts : chunkParts id windowing [parsed] 0 =
      [(parsed, sectionChunks id windowing parsed 0)] := rfl
  have own : ∃ rest, sectionChunks id windowing parsed 0 =
      windowChunk id parsed "ab cd" 0 3 0 ++ rest := by
    rw [sectionChunks, text, if_neg (by decide), chunkLoop_of_lt (by decide), if_neg (by decide)]
    exact ⟨_, rfl⟩
  obtain ⟨rest, same⟩ := own
  rw [first, List.singleton_append] at same
  rw [same] at parts
  refine ⟨_, rest, ?_, parts, rfl, rfl, rfl, kept, fun located => ?_⟩
  · show Except.ok ((chunkParts id windowing [parsed] 0).flatMap (·.2)) = _
    rw [parts, List.flatMap_singleton]
  · have exact := (located.locates _ (by rw [parts]; exact List.mem_singleton_self _)).exact _
      List.mem_cons_self
    exact absurd (exact.trans kept) (by decide)

end Locators

end SecFusion.Intelligence
