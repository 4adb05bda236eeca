import SecFusion.Raised
import SecFusion.Foundations.Json
import SecFusion.Foundations.Latest
import SecFusion.Foundations.Text

/-!
# Discovery in the cvelistV5 delta log

The model of `CVEListV5Adapter.discover`.  The delta log lists, for each fetch of the upstream
repository, the records that were new or updated.  A call collapses the entries after its
position to one change for each CVE, and hands out at most `max_items` of them.  As long as some
are left, the cursor keeps its position, with a marker of each change that was handed out; else
it moves to the newest fetch time.

Instants are in microseconds, and the ISO text of an instant is the instant.
-/

namespace SecFusion.Sources

open Foundations

/-! ## The log -/

/-- One change of an entry; `dateUpdated` where it is a text. -/
structure DeltaChange where
  (cveId githubLink : String)
  dateUpdated : Option ℤ := none
  cveOrgLink : JsonValue := .null
  deriving DecidableEq

structure DeltaEntry where
  fetchTime : ℤ
  (new updated : List DeltaChange := [])
  deriving DecidableEq

/-- The changes of an entry, in the order in which they are read. -/
def DeltaEntry.changes (entry : DeltaEntry) : List DeltaChange := entry.new ++ entry.updated

/-- `_CVE_RE.fullmatch(text)` -/
def isCveId (text : String) : Bool :=
  let chars := text.toList
  let year := (chars.drop 4).take 4
  let number := chars.drop 9
  chars.take 4 = "CVE-".toList ∧ year.length = 4 ∧ year.all Char.isDigit ∧
    (chars.drop 8).head? = some '-' ∧ 4 ≤ number.length ∧ number.all Char.isDigit

structure DiscoveredRef where
  externalObjectId : String
  canonicalUrl : Option String
  updatedAt : Option ℤ
  /-- The ISO text of an instant. -/
  externalRevision : Option ℤ
  locator : JsonObject

/-- What a change is handed out as. -/
def DeltaChange.ref (change : DeltaChange) : DiscoveredRef where
  externalObjectId := change.cveId
  canonicalUrl := some change.githubLink
  updatedAt := change.dateUpdated
  externalRevision := change.dateUpdated
  locator := [("cve_id", .string change.cveId), ("cve_org_link", change.cveOrgLink)]

/-- `_change_ref` -/
def changeRef (change : DeltaChange) : Except Raised DiscoveredRef := do
  require (isCveId change.cveId = true)
    (.sourceSchemaChanged "cvelistV5 change has invalid cveId")
  require ((afterHead? "https://" change.githubLink).isSome = true)
    (.sourceSchemaChanged "cvelistV5 change has invalid githubLink")
  return change.ref

/-- The change passes the checks of `_change_ref`. -/
def DeltaChange.IsValid (change : DeltaChange) : Prop :=
  isCveId change.cveId = true ∧ (afterHead? "https://" change.githubLink).isSome = true

instance (change : DeltaChange) : Decidable change.IsValid := inferInstanceAs (Decidable (_ ∧ _))

theorem changeRef_eq_ok {change : DeltaChange} {ref : DiscoveredRef} :
    changeRef change = .ok ref ↔ change.IsValid ∧ ref = change.ref := by
  unfold changeRef DeltaChange.IsValid
  rw [require_bind_eq_ok, require_bind_eq_ok, pure_eq_ok, and_assoc, eq_comm (a := ref)]

/-! ## The cursor -/

/-- `datetime.min`, in microseconds from 1970. -/
def datetimeMin : ℤ := -62135596800000000

/-- A change with the time of its entry. -/
abbrev DatedRef := ℤ × DiscoveredRef

/-- `_ref_updated` -/
def refUpdated (ref : DiscoveredRef) : ℤ := ref.updatedAt.getD datetimeMin

/-- What `_processed_marker` writes. -/
structure ProcessedMarker where
  fetchTime : ℤ
  revision : Option ℤ
  deriving DecidableEq

/-- `_processed_marker` -/
def processedMarker (item : DatedRef) : ProcessedMarker := ⟨item.1, item.2.externalRevision⟩

/-- The cursor as it is stored; a new source has an empty one. -/
structure DeltaCursor where
  lastFetchTime : Option ℤ := none
  processedRevisions : Option (Dict String ProcessedMarker) := none
  backfillPending : Option Bool := none

/-- The entries of `discovery_method` that discovery reads. -/
structure DeltaSettings where
  (initialEntries maxItems : Option JsonValue := none)

structure DiscoveryBatch where
  items : List DiscoveredRef
  nextCursor : DeltaCursor

/-- `_positive_int` -/
def positiveInt (value : Option JsonValue) (default : ℕ) : ℕ :=
  match value with
  | some (.int n) => if 0 < n then n.toNat else default
  | some (.string text) =>
      match Text.parseNat text with
      | some n => if 0 < n then n else default
      | none => default
  | _ => default

theorem positiveInt_pos (value : Option JsonValue) {default : ℕ} (positive : 0 < default) :
    0 < positiveInt value default := by
  unfold positiveInt
  split
  · split <;> omega
  · split
    · split <;> omega
    · exact positive
  · exact positive

/-! ## Discovery -/

/-- `entries.sort(key=..., reverse=True)`: the newest entry first. -/
def newestFirst (entries : List DeltaEntry) : List DeltaEntry :=
  entries.insertionSort fun left right => right.fetchTime ≤ left.fetchTime

/-- The position that a call reads from: that of the cursor, or for a new source the one that
leaves the initial entries, of which the log is read newest first. -/
def position (settings : DeltaSettings) (entries : List DeltaEntry) (cursor : DeltaCursor) :
    Option ℤ :=
  match cursor.lastFetchTime with
  | some time => some time
  | none =>
      let sorted := newestFirst entries
      let floorIndex := min (positiveInt settings.initialEntries 1) sorted.length
      match sorted[floorIndex]?, sorted[floorIndex - 1]? with
      | some below, some last => some (min below.fetchTime (last.fetchTime - 1))
      | none, some last => some (last.fetchTime - 1)
      | _, none => none

/-- The entry is after the position. -/
def IsAfter (start : Option ℤ) (entry : DeltaEntry) : Prop := ∀ time ∈ start, time < entry.fetchTime

instance (start : Option ℤ) (entry : DeltaEntry) : Decidable (IsAfter start entry) :=
  inferInstanceAs (Decidable (∀ time ∈ start, time < entry.fetchTime))

/-- The entries that a call reads. -/
def eligible (entries : List DeltaEntry) (start : Option ℤ) : List DeltaEntry :=
  (newestFirst entries).filter (IsAfter start)

/-- The changes of the entries, each with its entry's time. -/
def datedChanges (entries : List DeltaEntry) : List (ℤ × DeltaChange) :=
  entries.flatMap fun entry => entry.changes.map fun change => (entry.fetchTime, change)

def datedRefs (entries : List DeltaEntry) : Except Raised (List DatedRef) :=
  (datedChanges entries).mapM fun item => do
    let ref ← changeRef item.2
    return (item.1, ref)

/-- The CVE of a change. -/
def cveOf (item : DatedRef) : String := item.2.externalObjectId

/-- What changes of one CVE are compared by. -/
def recency (item : DatedRef) : ℤ ×ₗ ℤ := toLex (refUpdated item.2, item.1)

/-- `latest_by_cve` -/
def latestByCve (refs : List DatedRef) : Dict String DatedRef := Dict.latestBy cveOf recency refs

/-- `completed` -/
def completed (cursor : DeltaCursor) : Dict String ProcessedMarker :=
  cursor.processedRevisions.getD .empty

/-- What pending changes are sorted by. -/
def pendingKey (item : DatedRef) : ℤ ×ₗ ℤ ×ₗ String :=
  toLex (item.1, toLex (refUpdated item.2, cveOf item))

/-- The latest changes that were not handed out, in the order in which they will be. -/
def pendingRefs (refs : List DatedRef) (done : Dict String ProcessedMarker) : List DatedRef :=
  ((latestByCve refs).values.filter fun item =>
    done.get? (cveOf item) ≠ some (processedMarker item)).insertionSort
      fun left right => pendingKey right ≤ pendingKey left

/-- `completed.update(...)` -/
def markProcessed (done : Dict String ProcessedMarker) (items : List DatedRef) :
    Dict String ProcessedMarker :=
  items.foldl (fun marked item => marked.set (cveOf item) (processedMarker item)) done

/-- `max(times, default=start)` -/
def latestFetch (entries : List DeltaEntry) (start : Option ℤ) : Option ℤ :=
  (entries.map (·.fetchTime)).max?.or start

/-- The changes that a call hands out. -/
def selectedRefs (settings : DeltaSettings) (pending : List DatedRef) : List DatedRef :=
  pending.take (positiveInt settings.maxItems 150)

/-- The cursor that a call leaves. -/
def nextCursor (settings : DeltaSettings) (entries : List DeltaEntry) (start : Option ℤ)
    (done : Dict String ProcessedMarker) (pending : List DatedRef) : DeltaCursor :=
  let selected := selectedRefs settings pending
  if selected.length < pending.length then
    { lastFetchTime := start
      processedRevisions := some (markProcessed done selected)
      backfillPending := some true }
  else
    { lastFetchTime := latestFetch (eligible entries start) start
      backfillPending := some false }

/-- `CVEListV5Adapter.discover` -/
def discover (settings : DeltaSettings) (entries : List DeltaEntry) (cursor : DeltaCursor) :
    Except Raised DiscoveryBatch := do
  let start := position settings entries cursor
  let refs ← datedRefs (eligible entries start)
  let done := completed cursor
  let pending := pendingRefs refs done
  return {
    items := (selectedRefs settings pending).map (·.2)
    nextCursor := nextCursor settings entries start done pending }

end SecFusion.Sources
