import SecFusion.Foundations.Json

/-!
# Discovery in a feed

The model of `ArxivAdapter.discover` in `packages/sources/adapters/arxiv.py`.  The provider
answers with slices of a feed that is sorted by the time of the last update, newest first.  A
call reads page after page up to the first entry that is not newer than the cursor, and stores
the time of the newest entry.

The pages do not matter (`discover_eq`).  An entry that comes to the feed with the very time of
the newest one is taken for known; what is newer is handed out once.
-/

namespace SecFusion.Sources.Arxiv

open Foundations

/-- An entry, as `_parse_entries` reads it: it always has a time of its last update. -/
structure ArxivRef where
  (externalObjectId canonicalUrl : String)
  (publishedAt updatedAt : ℤ)
  externalRevision : String
  locator : JsonObject := []
  deriving DecidableEq

structure ArxivSettings where
  pageSize : ℤ := 50
  initialLimit : ℤ := pageSize

/-- What the loop of a call has read so far. -/
structure Scan where
  collected : List ArxivRef := []
  newest : Option ℤ
  reachedCursor : Bool := false
  deriving DecidableEq

/-- `max(newest, updated_at) if newest is not None else updated_at` -/
def newestOf (newest : Option ℤ) (updatedAt : ℤ) : ℤ := newest.elim updatedAt (max · updatedAt)

/-- The loop over the entries of a page. -/
def scanEntries (cursor : Option ℤ) (initialLimit : ℤ) : Scan → List ArxivRef → Scan
  | scan, [] => scan
  | scan, ref :: rest =>
      let newest := some (newestOf scan.newest ref.updatedAt)
      if ∃ known ∈ cursor, ref.updatedAt ≤ known then
        { scan with newest, reachedCursor := true }
      else
        let collected := scan.collected ++ [ref]
        if cursor = none ∧ initialLimit ≤ collected.length then
          { collected, newest, reachedCursor := true }
        else scanEntries cursor initialLimit { collected, newest } rest

/-- The loop over the pages, for so many rounds. -/
def readPages (settings : ArxivSettings) (cursor : Option ℤ) (feed : List ArxivRef) :
    ℕ → ℕ → Scan → Option Scan
  | 0, _, _ => none
  | rounds + 1, start, scan =>
      let entries := (feed.drop start).take settings.pageSize.toNat
      if entries = [] then some scan
      else
        let scan := scanEntries cursor settings.initialLimit scan entries
        if scan.reachedCursor = true ∨ entries.length < settings.pageSize then some scan
        else readPages settings cursor feed rounds (start + entries.length) scan

/-- `ArxivAdapter.discover`: the entries that are handed out, and the next cursor. -/
def discover (settings : ArxivSettings) (cursor : Option ℤ) (feed : List ArxivRef) : Option Scan :=
  readPages settings cursor feed (feed.length + 1) 0 { newest := cursor }

/-! ## Pages -/

variable {settings : ArxivSettings} {cursor : Option ℤ} {limit : ℤ} {feed : List ArxivRef}

variable {scan : Scan} {newest known : ℤ} {collected : List ArxivRef}

theorem scanEntries_append (going : scan.reachedCursor = false) (first rest : List ArxivRef) :
    scanEntries cursor limit scan (first ++ rest) =
      if (scanEntries cursor limit scan first).reachedCursor = true
      then scanEntries cursor limit scan first
      else scanEntries cursor limit (scanEntries cursor limit scan first) rest := by
  induction first generalizing scan with
  | nil => simp [scanEntries, going]
  | cons ref others ih =>
    simp only [List.cons_append, scanEntries]
    split
    · rw [if_pos rfl]
    · split
      · rw [if_pos rfl]
      · exact ih rfl

/-- Enough rounds read the feed to its end, or to the first known entry. -/
theorem readPages_eq (positive : 0 < settings.pageSize) {rounds start : ℕ}
    (inside : start ≤ feed.length) (enough : feed.length < rounds + start)
    (going : scan.reachedCursor = false) :
    readPages settings cursor feed rounds start scan =
      some (scanEntries cursor settings.initialLimit scan (feed.drop start)) := by
  induction rounds generalizing start scan with
  | zero => omega
  | succ rounds ih =>
    let size := settings.pageSize.toNat
    have length : ((feed.drop start).take size).length = min size (feed.length - start) := by
      rw [List.length_take, List.length_drop]
    have rest : (feed.drop start).drop size = feed.drop (start + size) := List.drop_drop
    rw [← List.take_append_drop size (feed.drop start), scanEntries_append going, readPages, rest]
    dsimp only
    split
    next empty =>
      rw [empty] at length ⊢
      rw [List.drop_eq_nil_of_le (by grind : feed.length ≤ start + size)]
      simp [scanEntries, going]
    next some =>
      have := List.length_pos_of_ne_nil some
      split
      next stops =>
        split
        next => rfl
        next goesOn =>
          have short := stops.resolve_left goesOn
          rw [List.drop_eq_nil_of_le (by grind : feed.length ≤ start + size)]
          rfl
      next goesOn =>
        obtain ⟨notReached, full⟩ := not_or.1 goesOn
        rw [if_neg notReached, ih (by grind) (by grind) (by simpa using notReached)]
        congr 3
        grind

theorem discover_eq (positive : 0 < settings.pageSize) : discover settings cursor feed =
    some (scanEntries cursor settings.initialLimit { newest := cursor } feed) := by
  rw [discover, readPages_eq positive (Nat.zero_le _) (by omega) rfl, List.drop_zero]

/-- Without a page nothing is read, and the cursor stays. -/
theorem discover_of_nonpos (noPage : settings.pageSize ≤ 0) :
    discover settings cursor feed = some { newest := cursor } := by
  simp [discover, readPages, Int.toNat_of_nonpos noPage]

/-! ## Sorted feeds -/

/-- The feed lists the entries from the newest to the oldest. -/
def NewestFirst (feed : List ArxivRef) : Prop :=
  feed.Pairwise fun newer older => older.updatedAt ≤ newer.updatedAt

instance (feed : List ArxivRef) : Decidable (NewestFirst feed) :=
  inferInstanceAs (Decidable (feed.Pairwise _))

/-- The time of the newest entry is in the cursor. -/
def IsNewest (feed : List ArxivRef) (newest : ℤ) : Prop :=
  (∀ ref ∈ feed, ref.updatedAt ≤ newest) ∧ ∃ ref ∈ feed, ref.updatedAt = newest

/-- Entries that are not newer than what has been read leave the newest time as it is. -/
theorem newest_of_le (older : ∀ ref ∈ feed, ref.updatedAt ≤ newest) :
    (scanEntries cursor limit { collected, newest := some newest } feed).newest = some newest := by
  induction feed generalizing collected with
  | nil => rfl
  | cons ref rest ih =>
    have same : newestOf (some newest) ref.updatedAt = newest :=
      max_eq_left (older ref List.mem_cons_self)
    unfold scanEntries
    dsimp only
    rw [same]
    split
    · rfl
    · split
      · rfl
      · exact ih fun other member => older other (List.mem_cons_of_mem _ member)

/-- The next cursor is the time of the newest entry, or what it was. -/
theorem newest_scanEntries (sorted : NewestFirst feed) {newest : Option ℤ} :
    (scanEntries cursor limit { newest } feed).newest =
      feed.head?.elim newest fun ref => some (newestOf newest ref.updatedAt) := by
  cases feed with
  | nil => rfl
  | cons ref rest =>
    have below : ∀ other ∈ rest, other.updatedAt ≤ newestOf newest ref.updatedAt := by
      intro other member
      refine ((List.pairwise_cons.1 sorted).1 other member).trans ?_
      cases newest with
      | none => exact le_rfl
      | some newest => exact le_max_right _ _
    unfold scanEntries
    dsimp only
    split
    · rfl
    · split
      · rfl
      · exact newest_of_le below

/-- A call with a cursor hands out what is newer. -/
theorem collected_scanEntries (sorted : NewestFirst feed) :
    (scanEntries (some known) limit { collected, newest := some newest } feed).collected =
      collected ++ feed.filter (known < ·.updatedAt) := by
  induction feed generalizing collected newest with
  | nil => simp [scanEntries]
  | cons ref rest ih =>
    obtain ⟨below, sorted⟩ := List.pairwise_cons.1 sorted
    unfold scanEntries
    by_cases isKnown : ref.updatedAt ≤ known
    · have noneNewer : (ref :: rest).filter (known < ·.updatedAt) = [] := by
        rw [List.filter_eq_nil_iff]
        intro other member
        rw [decide_eq_true_eq, not_lt]
        rcases List.mem_cons.1 member with rfl | later
        · exact isKnown
        · exact (below other later).trans isKnown
      rw [if_pos ⟨known, rfl, isKnown⟩, noneNewer, List.append_nil]
    · have newer : ¬ ∃ other ∈ some known, ref.updatedAt ≤ other := by simpa using isKnown
      rw [if_neg newer, if_neg (by simp)]
      dsimp only
      rw [ih sorted, List.filter_cons_of_pos (by simpa using isKnown), ← List.append_cons]

/-! ## Runs -/

/-- The feed at a call, with what has come to it since the call before. -/
structure Arrival where
  (feed added : List ArxivRef)

/-- The feed stays sorted, and grows by entries that are not older than the newest one. -/
def Grows : List ArxivRef → List Arrival → Prop
  | _, [] => True
  | before, arrival :: rest => NewestFirst arrival.feed ∧
      arrival.feed.Perm (arrival.added ++ before) ∧
      (∀ ref ∈ arrival.added, ∀ old ∈ before, old.updatedAt ≤ ref.updatedAt) ∧
      Grows arrival.feed rest

/-- What the calls hand out, each with the cursor of the one before. -/
def emissions (settings : ArxivSettings) : Option ℤ → List Arrival → List ArxivRef
  | _, [] => []
  | cursor, arrival :: rest => match discover settings cursor arrival.feed with
    | none => []
    | some batch => batch.collected ++ emissions settings batch.newest rest

/-- What was newer than the whole feed when it came. -/
def newArrivals : List ArxivRef → List Arrival → List ArxivRef
  | _, [] => []
  | before, arrival :: rest =>
      arrival.added.filter (fun ref => ∀ old ∈ before, old.updatedAt < ref.updatedAt) ++
        newArrivals arrival.feed rest

/-- A later call hands out what is newer than the feed before, and stores the newest time. -/
theorem discover_arrival (positive : 0 < settings.pageSize) {before : List ArxivRef}
    (isNewest : IsNewest before known) {arrival : Arrival} (sorted : NewestFirst arrival.feed)
    (grows : arrival.feed.Perm (arrival.added ++ before)) :
    ∃ batch newest, discover settings (some known) arrival.feed = some batch ∧
      batch.newest = some newest ∧ IsNewest arrival.feed newest ∧
      batch.collected.Perm
        (arrival.added.filter fun ref => ∀ old ∈ before, old.updatedAt < ref.updatedAt) := by
  obtain ⟨bound, last, lastMember, isLast⟩ := isNewest
  have noOld : before.filter (known < ·.updatedAt) = [] := by
    rw [List.filter_eq_nil_iff]
    exact fun ref member => by simpa using bound ref member
  have newer : ∀ ref : ArxivRef, known < ref.updatedAt ↔
      ∀ old ∈ before, old.updatedAt < ref.updatedAt := fun ref =>
    ⟨fun above old member => (bound old member).trans_lt above,
      fun above => isLast ▸ above last lastMember⟩
  refine ⟨_, ((arrival.feed.head?).elim known fun ref => max known ref.updatedAt),
    discover_eq positive, ?_, ?_, ?_⟩
  · rw [newest_scanEntries sorted]
    cases arrival.feed <;> rfl
  · have listed : last ∈ arrival.feed := grows.mem_iff.2 (List.mem_append_right _ lastMember)
    cases feed : arrival.feed with
    | nil => simp [feed] at listed
    | cons ref rest =>
      rw [feed] at sorted listed
      have first : ∀ other ∈ ref :: rest, other.updatedAt ≤ ref.updatedAt := by
        intro other member
        rcases List.mem_cons.1 member with rfl | later
        · exact le_rfl
        · exact (List.pairwise_cons.1 sorted).1 other later
      have same : max known ref.updatedAt = ref.updatedAt :=
        max_eq_right (isLast ▸ first last listed)
      rw [List.head?_cons, Option.elim_some, same]
      exact ⟨first, ref, List.mem_cons_self, rfl⟩
  · rw [collected_scanEntries sorted, List.nil_append]
    refine (grows.filter _).trans ?_
    rw [List.filter_append, noOld, List.append_nil]
    simp only [newer]
    exact List.Perm.refl _

/-- **What is newer is handed out once**: after a first call that stored a cursor, the calls
hand out each entry that was newer than the whole feed when it came, and nothing else. -/
theorem later_arrivals_emitted_once (settings : ArxivSettings) (feed : List ArxivRef)
    (sorted : NewestFirst feed) (first : Scan) (answered : discover settings none feed = some first)
    (stored : first.newest ≠ none) (arrivals : List Arrival) (grows : Grows feed arrivals) :
    (emissions settings first.newest arrivals).Perm (newArrivals feed arrivals) := by
  have positive : 0 < settings.pageSize := by
    by_contra noPage
    rw [discover_of_nonpos (not_lt.1 noPage)] at answered
    cases answered
    exact stored rfl
  have isNewest : ∃ known, first.newest = some known ∧ IsNewest feed known := by
    rw [discover_eq positive] at answered
    cases answered
    rw [newest_scanEntries sorted] at stored ⊢
    cases feed with
    | nil => exact absurd rfl stored
    | cons ref rest =>
      refine ⟨_, rfl, fun other member => ?_, ref, List.mem_cons_self, rfl⟩
      rcases List.mem_cons.1 member with rfl | later
      · exact le_rfl
      · exact (List.pairwise_cons.1 sorted).1 other later
  obtain ⟨known, cursor, isNewest⟩ := isNewest
  rw [cursor]
  clear answered sorted stored cursor
  induction arrivals generalizing feed known with
  | nil => exact List.Perm.refl _
  | cons arrival rest ih =>
    obtain ⟨sorted, perm, -, later⟩ := grows
    obtain ⟨batch, newest, answered, cursor, isNext, emitted⟩ :=
      discover_arrival positive isNewest sorted perm
    rw [emissions, answered, newArrivals]
    dsimp only
    rw [cursor]
    exact emitted.append (ih _ later _ isNext)

def entryAt (updatedAt : ℤ) (id : String) : ArxivRef where
  externalObjectId := id
  canonicalUrl := "https://arxiv.org/abs/" ++ id
  publishedAt := 0
  updatedAt
  externalRevision := id ++ "v1"

theorem later_arrivals_emitted_once_two :
    (emissions {} (some 1) [⟨[entryAt 2 "b", entryAt 1 "a"], [entryAt 2 "b"]⟩]).Perm
      [entryAt 2 "b"] :=
  later_arrivals_emitted_once {} [entryAt 1 "a"] (by decide)
    { collected := [entryAt 1 "a"], newest := some 1 } (by decide) (by decide)
    [⟨[entryAt 2 "b", entryAt 1 "a"], [entryAt 2 "b"]⟩]
    ⟨by decide, List.Perm.refl _, by decide, trivial⟩

/-- **An entry of the same instant is lost**: it comes with the time of the newest one. -/
theorem equal_arrival_lost : ¬ ∀ settings feed, NewestFirst feed → ∀ first,
    discover settings none feed = some first → first.newest ≠ none →
      ∀ arrivals, Grows feed arrivals →
        (emissions settings first.newest arrivals).Perm (arrivals.flatMap (·.added)) := by
  intro emitted
  have := emitted {} [entryAt 1 "a"] (by decide)
    { collected := [entryAt 1 "a"], newest := some 1 } (by decide) (by decide)
    [⟨[entryAt 1 "b", entryAt 1 "a"], [entryAt 1 "b"]⟩]
    ⟨by decide, List.Perm.refl _, by decide, trivial⟩
  exact absurd this.length_eq (by decide)

end SecFusion.Sources.Arxiv
