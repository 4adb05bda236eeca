import SecFusion.Sources.CVEListV5

/-!
# Runs of a collector

A collector polls a delta log that grows, and stores the cursor that each call leaves.  The log
grows by entries that are fetched later than all before, so the changes of a grown log are those
before with later ones in front.  The change that stands for a CVE is the first maximum of its
changes; in a grown log it is the same, or a more recent one.
-/

namespace SecFusion.Sources

open Foundations

/-! ## Runs -/

/-- A log that can be read. -/
structure DeltaLog where
  entries : List DeltaEntry
  distinct : (entries.map (·.fetchTime)).Nodup
  valid : ∀ entry ∈ entries, ∀ change ∈ entry.changes, change.IsValid

/-- The log has grown by later entries; an array may list its entries in any order. -/
def Grows (log next : DeltaLog) : Prop :=
  ∃ added : List DeltaEntry, next.entries.Perm (added ++ log.entries) ∧
    ∀ later ∈ added, ∀ entry ∈ log.entries, entry.fetchTime < later.fetchTime

/-- What a call saw, and what it handed out. -/
structure DiscoverCall where
  log : DeltaLog
  cursor : DeltaCursor
  start : Option ℤ
  emitted : List DatedRef
  pending : Bool

structure Collector where
  log : DeltaLog
  cursor : DeltaCursor := {}
  /-- The calls so far, the last one first. -/
  calls : List DiscoverCall := []

def refsAfter (log : DeltaLog) (start : Option ℤ) : List DatedRef :=
  (datedChanges (eligible log.entries start)).map fun item => (item.1, item.2.ref)

namespace Collector

variable (collector : Collector) (settings : DeltaSettings)

/-- The position that the next call reads from. -/
def start : Option ℤ := position settings collector.log.entries collector.cursor

/-- The changes that wait for the next call. -/
def pending : List DatedRef :=
  pendingRefs (refsAfter collector.log (collector.start settings)) (completed collector.cursor)

/-- The changes that the next call hands out. -/
def emission : List DatedRef := selectedRefs settings (collector.pending settings)

/-- A call of `discover`, whose cursor is stored. -/
def poll : Collector :=
  match discover settings collector.log.entries collector.cursor with
  | .error _ => collector
  | .ok batch =>
      { log := collector.log
        cursor := batch.nextCursor
        calls := {
          log := collector.log
          cursor := collector.cursor
          start := collector.start settings
          emitted := collector.emission settings
          pending := batch.nextCursor.backfillPending = some true } :: collector.calls }

def backfill : List DiscoverCall := collector.calls.takeWhile (·.pending)

end Collector

/-- The log grows, or the collector polls it. -/
inductive CollectorStep : Collector → Collector → Prop
  | grow {collector : Collector} {next : DeltaLog} (grows : Grows collector.log next) :
      CollectorStep collector { collector with log := next }
  | poll {collector : Collector} (settings : DeltaSettings) :
      CollectorStep collector (collector.poll settings)

/-- What a new source can come to. -/
def Reached (collector : Collector) : Prop :=
  ∃ log : DeltaLog, ReflTransGen CollectorStep { log } collector

/-- Repeated calls while the log does not grow. -/
def polled (settings : ℕ → DeltaSettings) (collector : Collector) : ℕ → Collector
  | 0 => collector
  | n + 1 => (polled settings collector n).poll (settings n)

/-! ## Reading the log -/

variable {entry : DeltaEntry} {entries : List DeltaEntry} {item : DatedRef} {cve : String}
  {time : ℤ}

section Reading

variable {log next : DeltaLog} {start : Option ℤ}

theorem Grows.refl (log : DeltaLog) : Grows log log := ⟨[], by simp, by simp⟩

theorem Grows.subset (grows : Grows log next) (member : entry ∈ log.entries) :
    entry ∈ next.entries := by
  obtain ⟨added, perm, -⟩ := grows
  exact perm.mem_iff.2 (mem_append_right _ member)

theorem Grows.trans {last : DeltaLog} (first : Grows log next) (second : Grows next last) :
    Grows log last := by
  obtain ⟨added, perm, later⟩ := first
  obtain ⟨more, perm', later'⟩ := second
  refine ⟨more ++ added, ?_, fun entry member old listed => ?_⟩
  · rw [append_assoc]
    exact perm'.trans (perm.append_left more)
  · rcases mem_append.1 member with here | here
    · exact later' entry here old (perm.mem_iff.2 (mem_append_right _ listed))
    · exact later entry here old listed

/-- An entry that is not later than one of the log before was in it. -/
theorem Grows.mem_before (grows : Grows log next) {old : DeltaEntry} (member : entry ∈ next.entries)
    (listed : old ∈ log.entries) (notLater : entry.fetchTime ≤ old.fetchTime) :
    entry ∈ log.entries := by
  obtain ⟨added, perm, later⟩ := grows
  rcases mem_append.1 (perm.mem_iff.1 member) with here | here
  · exact absurd (later entry here old listed) (not_lt.2 notLater)
  · exact here

theorem mem_newestFirst :
    entry ∈ newestFirst entries ↔ entry ∈ entries := mem_insertionSort _

theorem pairwise_newestFirst (entries : List DeltaEntry) :
    (newestFirst entries).Pairwise fun left right => right.fetchTime ≤ left.fetchTime := by
  have total : Std.Total fun left right : DeltaEntry => right.fetchTime ≤ left.fetchTime :=
    ⟨fun left right => le_total right.fetchTime left.fetchTime⟩
  have transitive : IsTrans _ fun left right : DeltaEntry => right.fetchTime ≤ left.fetchTime :=
    ⟨fun _ _ _ first second => second.trans first⟩
  exact pairwise_insertionSort _ entries

/-- What is added to a log is read first. -/
theorem newestFirst_of_grows {added : List DeltaEntry}
    (perm : next.entries.Perm (added ++ log.entries))
    (later : ∀ entry ∈ added, ∀ old ∈ log.entries, old.fetchTime < entry.fetchTime) :
    newestFirst next.entries = newestFirst added ++ newestFirst log.entries := by
  refine List.Perm.eq_of_pairwise ?_ (pairwise_newestFirst next.entries) ?_ ?_
  · intro left right leftMember rightMember below above
    have listed : right ∈ next.entries := by
      rw [perm.mem_iff, mem_append]
      simpa only [mem_append, mem_newestFirst] using rightMember
    exact inj_on_of_nodup_map next.distinct (mem_newestFirst.1 leftMember) listed
      (le_antisymm above below)
  · refine pairwise_append.2 ⟨pairwise_newestFirst added, pairwise_newestFirst _, ?_⟩
    intro entry member old listed
    exact (later entry (mem_newestFirst.1 member) old (mem_newestFirst.1 listed)).le
  · have sorted (entries : List DeltaEntry) : (newestFirst entries).Perm entries :=
      perm_insertionSort _ entries
    exact (sorted _).trans (perm.trans ((sorted added).append (sorted log.entries)).symm)

theorem mem_eligible :
    entry ∈ eligible log.entries start ↔ entry ∈ log.entries ∧ IsAfter start entry := by
  rw [eligible, mem_filter, mem_newestFirst, decide_eq_true_eq]

theorem mem_refsAfter : item ∈ refsAfter log start ↔
    ∃ entry ∈ log.entries, IsAfter start entry ∧ ∃ change ∈ entry.changes,
      item = (entry.fetchTime, change.ref) := by
  unfold refsAfter datedChanges
  simp only [mem_map, mem_flatMap, mem_eligible]
  constructor
  · rintro ⟨-, ⟨entry, ⟨listed, after⟩, change, member, rfl⟩, rfl⟩
    exact ⟨entry, listed, after, change, member, rfl⟩
  · rintro ⟨entry, listed, after, change, member, rfl⟩
    exact ⟨(entry.fetchTime, change), ⟨entry, ⟨listed, after⟩, change, member, rfl⟩, rfl⟩

/-- The changes of a grown log: later ones, and those before. -/
theorem refsAfter_of_grows (grows : Grows log next) (start : Option ℤ) :
    ∃ added : List DatedRef, refsAfter next start = added ++ refsAfter log start ∧
      ∀ item ∈ added, ∀ entry ∈ log.entries, entry.fetchTime < item.1 := by
  obtain ⟨added, perm, later⟩ := grows
  refine ⟨(datedChanges ((newestFirst added).filter (IsAfter start))).map
    fun item => (item.1, item.2.ref), ?_, ?_⟩
  · unfold refsAfter eligible datedChanges
    rw [newestFirst_of_grows perm later, filter_append, List.flatMap_append, map_append]
  · intro item member entry listed
    obtain ⟨dated, isDated, rfl⟩ := mem_map.1 member
    obtain ⟨source, isSource, isChange⟩ := mem_flatMap.1 isDated
    obtain ⟨change, -, rfl⟩ := mem_map.1 isChange
    exact later source (mem_newestFirst.1 (mem_filter.1 isSource).1) entry listed

/-- What a conversion that succeeds everywhere yields. -/
theorem mapM_eq_ok {items : List (ℤ × DeltaChange)} (valid : ∀ item ∈ items, item.2.IsValid) :
    (items.mapM fun item => do
      let ref ← changeRef item.2
      return (item.1, ref)) = .ok (items.map fun item => (item.1, item.2.ref)) := by
  induction items with
  | nil => rfl
  | cons item rest ih =>
      have first : changeRef item.2 = .ok item.2.ref :=
        changeRef_eq_ok.2 ⟨valid item (by simp), rfl⟩
      rw [List.mapM_cons, first, ih fun other member => valid other (by simp [member])]
      rfl

theorem datedRefs_eligible (log : DeltaLog) (start : Option ℤ) :
    datedRefs (eligible log.entries start) = .ok (refsAfter log start) := by
  refine mapM_eq_ok fun item member => ?_
  obtain ⟨entry, listed, isChange⟩ := mem_flatMap.1 member
  obtain ⟨change, isListed, rfl⟩ := mem_map.1 isChange
  exact log.valid entry (mem_eligible.1 listed).1 change isListed

end Reading

/-! ## The latest changes -/

section Latest

variable {log next : DeltaLog} {start : Option ℤ} {other : DatedRef}

/-- The change is the one that stands for its CVE. -/
def IsLatest (log : DeltaLog) (start : Option ℤ) (item : DatedRef) : Prop :=
  IsFirstMax recency ((refsAfter log start).filter (cveOf · = cveOf item)) item

theorem IsLatest.mem (latest : IsLatest log start item) : item ∈ refsAfter log start :=
  (mem_filter.1 (IsFirstMax.mem latest)).1

theorem IsLatest.le (latest : IsLatest log start item) (member : other ∈ refsAfter log start)
    (same : cveOf other = cveOf item) : recency other ≤ recency item :=
  IsFirstMax.le latest (mem_filter.2 ⟨member, by simpa using same⟩)

/-- Equal markers are equally recent. -/
theorem recency_of_marker (member : item ∈ refsAfter log start)
    (otherMember : other ∈ refsAfter next start)
    (same : processedMarker item = processedMarker other) : recency item = recency other := by
  obtain ⟨entry, -, -, change, -, rfl⟩ := mem_refsAfter.1 member
  obtain ⟨otherEntry, -, -, otherChange, -, rfl⟩ := mem_refsAfter.1 otherMember
  injection same with time revision
  exact congrArg₂ (fun updated fetched => toLex (updated, fetched))
    (congrArg (Option.getD · datetimeMin) revision) time

/-- The latest change of a grown log is more recent than that before. -/
theorem IsLatest.le_of_grows (grows : Grows log next) (before : IsLatest log start item)
    (after : IsLatest next start other) (same : cveOf item = cveOf other) :
    recency item ≤ recency other := by
  obtain ⟨added, split, -⟩ := refsAfter_of_grows grows start
  refine after.le ?_ same
  rw [split]
  exact mem_append_right _ before.mem

/-- If it is as recent, it is the same change. -/
theorem IsLatest.eq_of_grows (grows : Grows log next) (before : IsLatest log start item)
    (after : IsLatest next start other) (same : cveOf item = cveOf other)
    (asRecent : recency other ≤ recency item) : item = other := by
  obtain ⟨added, split, later⟩ := refsAfter_of_grows grows start
  have equal : recency item = recency other := (before.le_of_grows grows after same).antisymm asRecent
  have time : item.1 = other.1 := (Prod.mk.inj (toLex.injective equal)).2
  obtain ⟨entry, listed, -, change, -, isItem⟩ := mem_refsAfter.1 before.mem
  have old : other ∉ added := by
    intro member
    have later := later other member entry listed
    rw [← time, isItem] at later
    exact lt_irrefl _ later
  unfold IsLatest at before after
  rw [split, filter_append] at after
  rw [same] at before
  exact before.unique (after.of_append fun member => old (mem_filter.1 member).1)

theorem isLatest_of_get? (found : (latestByCve (refsAfter log start)).get? cve = some item) :
    IsLatest log start item ∧ cveOf item = cve := by
  have same := Dict.key_of_latestBy found
  refine ⟨?_, same⟩
  unfold IsLatest
  rw [same]
  exact Dict.isFirstMax_of_latestBy found

theorem mem_values_latestByCve : item ∈ (latestByCve (refsAfter log start)).values ↔
    (latestByCve (refsAfter log start)).get? (cveOf item) = some item := by
  rw [Dict.mem_values]
  constructor
  · rintro ⟨cve, found⟩
    rwa [(isLatest_of_get? found).2]
  · exact fun found => ⟨_, found⟩

/-- The latest changes are of distinct CVEs. -/
theorem nodup_values_latestByCve :
    ((latestByCve (refsAfter log start)).values.map cveOf).Nodup := by
  have keys : (latestByCve (refsAfter log start)).values.map cveOf =
      (latestByCve (refsAfter log start)).keys := by
    unfold Dict.values Dict.keys
    rw [map_map]
    refine map_congr_left fun entry member => ?_
    exact (isLatest_of_get? (Dict.get?_eq_some.2 member)).2
  rw [keys]
  exact (latestByCve (refsAfter log start)).nodup

variable {done : Dict String ProcessedMarker}

theorem mem_pendingRefs : item ∈ pendingRefs (refsAfter log start) done ↔
    (latestByCve (refsAfter log start)).get? (cveOf item) = some item ∧
      done.get? (cveOf item) ≠ some (processedMarker item) := by
  rw [pendingRefs, mem_insertionSort, mem_filter, mem_values_latestByCve,
    decide_eq_true_eq]

theorem nodup_pendingRefs (log : DeltaLog) (start : Option ℤ) (done : Dict String ProcessedMarker) :
    ((pendingRefs (refsAfter log start) done).map cveOf).Nodup := by
  have perm := (perm_insertionSort (fun left right => pendingKey right ≤ pendingKey left)
    ((latestByCve (refsAfter log start)).values.filter fun item =>
      done.get? (cveOf item) ≠ some (processedMarker item))).map cveOf
  refine perm.nodup_iff.2 ?_
  exact nodup_values_latestByCve.sublist (filter_sublist.map cveOf)

/-- Each change after the position has a latest one of its CVE. -/
theorem exists_latest (member : item ∈ refsAfter log start) : ∃ latest,
    (latestByCve (refsAfter log start)).get? (cveOf item) = some latest ∧
      recency item ≤ recency latest := by
  obtain ⟨latest, found⟩ : ∃ latest,
      (latestByCve (refsAfter log start)).get? (cveOf item) = some latest :=
    Dict.exists_latestBy member
  obtain ⟨isLatest, same⟩ := isLatest_of_get? found
  exact ⟨latest, found, isLatest.le member same.symm⟩

end Latest

/-! ## Markers -/

section Markers

variable {done : Dict String ProcessedMarker} {items : List DatedRef}

theorem get?_markProcessed_of_not_mem (absent : cve ∉ items.map cveOf) :
    (markProcessed done items).get? cve = done.get? cve := by
  induction items generalizing done with
  | nil => rfl
  | cons item rest ih =>
      rw [map_cons, mem_cons, not_or] at absent
      have others : (markProcessed (done.set (cveOf item) (processedMarker item)) rest).get? cve =
          (done.set (cveOf item) (processedMarker item)).get? cve := ih absent.2
      rw [Dict.get?_set, if_neg (Ne.symm absent.1)] at others
      exact others

theorem get?_markProcessed_of_mem (distinct : (items.map cveOf).Nodup) (member : item ∈ items) :
    (markProcessed done items).get? (cveOf item) = some (processedMarker item) := by
  induction items generalizing done with
  | nil => exact absurd member not_mem_nil
  | cons first rest ih =>
      rw [map_cons, nodup_cons] at distinct
      rcases mem_cons.1 member with rfl | later
      · have kept : (markProcessed (done.set (cveOf item) (processedMarker item)) rest).get?
            (cveOf item) = (done.set (cveOf item) (processedMarker item)).get? (cveOf item) :=
          get?_markProcessed_of_not_mem distinct.1
        rw [Dict.get?_set, if_pos rfl] at kept
        exact kept
      · exact ih distinct.2 later

end Markers

/-! ## What a call does -/

section Poll

variable (collector : Collector) (settings : DeltaSettings)

/-- Some changes are left for a later call. -/
def Collector.Pends : Prop :=
  (collector.emission settings).length < (collector.pending settings).length

/-- The call that a poll makes. -/
def Collector.call (pending : Bool) : DiscoverCall where
  log := collector.log
  cursor := collector.cursor
  start := collector.start settings
  emitted := collector.emission settings
  pending := pending

variable {collector settings}

/-- A call succeeds, and hands out the emission. -/
theorem discover_eq (collector : Collector) (settings : DeltaSettings) :
    discover settings collector.log.entries collector.cursor = .ok {
      items := (collector.emission settings).map (·.2)
      nextCursor := nextCursor settings collector.log.entries (collector.start settings)
        (completed collector.cursor) (collector.pending settings) } := by
  unfold discover
  dsimp only
  rw [datedRefs_eligible]
  rfl

theorem poll_eq (collector : Collector) (settings : DeltaSettings) :
    collector.poll settings =
      { log := collector.log
        cursor := nextCursor settings collector.log.entries (collector.start settings)
          (completed collector.cursor) (collector.pending settings)
        calls := collector.call settings (decide ((nextCursor settings collector.log.entries
          (collector.start settings) (completed collector.cursor)
          (collector.pending settings)).backfillPending = some true)) :: collector.calls } := by
  unfold Collector.poll
  rw [discover_eq]
  rfl

theorem poll_of_pends (pends : collector.Pends settings) : collector.poll settings =
    { log := collector.log
      cursor := {
        lastFetchTime := collector.start settings
        processedRevisions := some
          (markProcessed (completed collector.cursor) (collector.emission settings))
        backfillPending := some true }
      calls := collector.call settings true :: collector.calls } := by
  have left : (selectedRefs settings (collector.pending settings)).length <
      (collector.pending settings).length := pends
  rw [poll_eq, nextCursor, if_pos left]
  rfl

theorem poll_of_not_pends (ends : ¬ collector.Pends settings) : collector.poll settings =
    { log := collector.log
      cursor := {
        lastFetchTime := latestFetch (eligible collector.log.entries (collector.start settings))
          (collector.start settings)
        backfillPending := some false }
      calls := collector.call settings false :: collector.calls } := by
  have none_left : ¬ (selectedRefs settings (collector.pending settings)).length <
      (collector.pending settings).length := ends
  rw [poll_eq, nextCursor, if_neg none_left]
  rfl

theorem mem_emission_or (settings : DeltaSettings) (member : item ∈ collector.pending settings) :
    item ∈ collector.emission settings ∨
      item ∈ (collector.pending settings).drop (positiveInt settings.maxItems 150) := by
  have split := List.take_append_drop (positiveInt settings.maxItems 150)
    (collector.pending settings)
  rw [← split, mem_append] at member
  exact member

theorem mem_pending_of_emission (member : item ∈ collector.emission settings) :
    item ∈ collector.pending settings := mem_of_mem_take member

theorem nodup_pending : ((collector.pending settings).map cveOf).Nodup :=
  nodup_pendingRefs _ _ _

theorem nodup_emission : ((collector.emission settings).map cveOf).Nodup :=
  nodup_pending.sublist ((List.take_sublist _ _).map cveOf)

/-- When nothing is left, all that waited is handed out. -/
theorem emission_of_not_pends (ends : ¬ collector.Pends settings)
    (member : item ∈ collector.pending settings) : item ∈ collector.emission settings := by
  refine (mem_emission_or settings member).resolve_right fun late => ?_
  have long := List.length_pos_of_mem late
  unfold Collector.Pends Collector.emission selectedRefs at ends
  rw [List.length_take] at ends
  rw [List.length_drop] at long
  omega

theorem latestFetch_eq_some {start : Option ℤ} (latest : latestFetch entries start = some time) :
    start = some time ∨ ∃ entry ∈ entries, entry.fetchTime = time := by
  unfold latestFetch at latest
  rcases Option.or_eq_some_iff.1 latest with newest | ⟨-, starts⟩
  · exact .inr (mem_map.1 (List.max?_mem newest))
  · exact .inl starts

theorem start_of_position (stored : collector.cursor.lastFetchTime = some time) :
    collector.start settings = some time := by
  unfold Collector.start position
  rw [stored]

/-- A call without a position finds no entry. -/
theorem entries_of_start_none (nowhere : collector.start settings = none) :
    collector.log.entries = [] := by
  unfold Collector.start position at nowhere
  split at nowhere
  · cases nowhere
  dsimp only at nowhere
  set sorted := newestFirst collector.log.entries with isSorted
  by_contra some_entry
  have nonempty : 0 < sorted.length := by
    rw [isSorted, newestFirst, List.length_insertionSort]
    exact List.length_pos_iff.2 some_entry
  have initial := positiveInt_pos settings.initialEntries Nat.one_pos
  have inside : min (positiveInt settings.initialEntries 1) sorted.length - 1 < sorted.length := by
    omega
  rw [List.getElem?_eq_getElem inside] at nowhere
  cases below : sorted[min (positiveInt settings.initialEntries 1) sorted.length]? with
  | none => simp [below] at nowhere
  | some entry => simp [below] at nowhere

theorem start_isSome_of_pends (pends : collector.Pends settings) :
    (collector.start settings).isSome := by
  by_contra nowhere
  have empty := entries_of_start_none (Option.not_isSome_iff_eq_none.1 nowhere)
  have nothing : collector.pending settings = [] := by
    unfold Collector.pending refsAfter eligible
    rw [empty]
    rfl
  unfold Collector.Pends at pends
  rw [nothing] at pends
  exact absurd pends (Nat.not_lt_zero _)

/-- The position that a new source starts from is before its newest entry. -/
theorem start_le_entry (starts : collector.start settings = some time)
    (fresh : collector.cursor.lastFetchTime = none) :
    ∃ entry ∈ collector.log.entries, time ≤ entry.fetchTime := by
  unfold Collector.start position at starts
  rw [fresh] at starts
  dsimp only at starts
  split at starts
  next below last foundBelow foundLast =>
    have listed := mem_newestFirst.1 (mem_of_getElem? foundBelow)
    exact ⟨below, listed, Option.some.inj starts ▸ min_le_left _ _⟩
  next last _ foundLast =>
    have listed := mem_newestFirst.1 (mem_of_getElem? foundLast)
    exact ⟨last, listed, by have := Option.some.inj starts; omega⟩
  next => cases starts

end Poll

end SecFusion.Sources
