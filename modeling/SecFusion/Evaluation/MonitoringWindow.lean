import SecFusion.Raised

/-!
# Scores of a monitoring window

The model of `packages/evaluation/monitoring_window.py`.  Every expected publication is
timely, late, missed or pending at an instant, and as time passes only the pending ones move
(`outcomeAt_of_within`, `outcomeAt_of_open`).  The bounds of the rate therefore close in on
the rate of the complete window.

Instants and durations are in microseconds.
-/

namespace SecFusion.Evaluation

open Foundations

def deadlineSeconds : ℤ := 21600

structure ExpectedPublication where
  externalObjectId : String
  publishedAt : ℤ

def ExpectedPublication.deadline (event : ExpectedPublication) : ℤ :=
  event.publishedAt + deadlineSeconds * 1000000

/-- `MonitoringWindowManifest`, with what `coherent_window` establishes of these fields. -/
structure MonitoringWindowManifest where
  sourceId : String
  (windowStart windowEnd declaredAt : ℤ)
  providerRetrievedAt : Option ℤ
  records : Option (List ExpectedPublication)
  ordered : declaredAt < windowStart ∧ windowStart < windowEnd
  frozen : records.isSome = providerRetrievedAt.isSome
  retrieved : ∀ retrievedAt ∈ providerRetrievedAt, windowEnd ≤ retrievedAt
  distinct : ∀ events ∈ records, (events.map (·.externalObjectId)).Nodup
  inWindow : ∀ events ∈ records, ∀ event ∈ events,
    windowStart ≤ event.publishedAt ∧ event.publishedAt < windowEnd

structure AdmissionReceipt where
  (receiptId sourceId externalObjectId : String)
  externalRevision : Option String
  contentHash : String
  publishedAt : Option ℤ
  availableAt : ℤ
  (inputBackfillPending outputBackfillPending : Bool)
  deriving DecidableEq

def AdmissionReceipt.version (receipt : AdmissionReceipt) : String × String × String × String :=
  match receipt.externalRevision.filter (· ≠ "") with
  | some revision => (receipt.sourceId, receipt.externalObjectId, "revision", revision)
  | none => (receipt.sourceId, receipt.externalObjectId, "hash", receipt.contentHash)

/-- What is checked of the receipts, one after another. -/
def checkReceipts (window : MonitoringWindowManifest) :
    List AdmissionReceipt → List AdmissionReceipt → Except Raised Unit
  | _, [] => pure ()
  | seen, receipt :: rest => do
      require (receipt.sourceId = window.sourceId)
        (.valueError "receipt source differs from declared source")
      require (∀ other ∈ seen, receipt.receiptId ≠ other.receiptId ∧ receipt.version ≠ other.version)
        (.valueError "duplicate receipt identity or source/object/version")
      checkReceipts window (receipt :: seen) rest

/-- What receipts of one object are compared by. -/
def ReceiptRank := ℤ ×ₗ String

instance : LinearOrder ReceiptRank := inferInstanceAs (LinearOrder (ℤ ×ₗ String))

def AdmissionReceipt.rank (receipt : AdmissionReceipt) : ReceiptRank :=
  toLex (receipt.availableAt, receipt.receiptId)

/-- The first receipt of an object that is available: `earliest.get(object)`. -/
def earliest (receipts : List AdmissionReceipt) (now : ℤ) (object : String) :
    Option AdmissionReceipt :=
  (receipts.filter fun receipt => receipt.externalObjectId = object ∧
    receipt.availableAt ≤ now).argmin AdmissionReceipt.rank

inductive Outcome where
  | within6h
  | late
  | missed
  | pending
  deriving DecidableEq

def outcomeAt (event : ExpectedPublication) (now : ℤ) : Option AdmissionReceipt → Outcome
  | none => if event.deadline ≤ now then .missed else .pending
  | some accepted =>
      if accepted.availableAt - event.publishedAt ≤ deadlineSeconds * 1000000 then .within6h
      else .late

/-- A row of the score; the other columns are those of the event and the receipt. -/
structure ScoreRow where
  event : ExpectedPublication
  outcome : Outcome
  accepted : Option AdmissionReceipt

def ScoreRow.latencySeconds (row : ScoreRow) : Option ℚ :=
  row.accepted.map fun accepted => ((accepted.availableAt - row.event.publishedAt : ℤ) : ℚ) / 1000000

def scoreRow (receipts : List AdmissionReceipt) (now : ℤ) (event : ExpectedPublication) :
    ScoreRow where
  event
  outcome := outcomeAt event now (earliest receipts now event.externalObjectId)
  accepted := earliest receipts now event.externalObjectId

/-- The row of an event, unless the receipt is older than the publication. -/
def checkedRow (receipts : List AdmissionReceipt) (now : ℤ) (event : ExpectedPublication) :
    Except Raised ScoreRow := do
  require (∀ accepted ∈ earliest receipts now event.externalObjectId,
      event.publishedAt ≤ accepted.availableAt)
    (.valueError "receipt availability precedes authoritative publication")
  pure (scoreRow receipts now event)

inductive WindowStatus where
  | pending
  | complete
  | empty
  deriving DecidableEq

structure MonitoringScore where
  sourceId : String
  (windowStart windowEnd asOf : ℤ)
  status : WindowStatus
  pendingReasons : List String
  (expectedCount acceptedCount within6hCount lateCount missedCount pendingCount : Option ℕ)
  (within6hRate lower upper acceptedWithin6hRate : Option ℚ)
  latencyCount : ℕ
  (latencyP50 latencyP95 latencyMax : Option ℚ)
  (receiptCount futureReceiptCount acceptedBackfillCount outOfCohortReceiptCount : ℕ)
  unexpectedObjectCount : Option ℕ
  records : List ScoreRow

/-- `part / count if count else None` -/
def share (part : ℕ) (count : Option ℕ) : Option ℚ :=
  (count.filter (· ≠ 0)).map fun count : ℕ => (part : ℚ) / count

def percentile (latencies : List ℚ) (portion : ℚ) : Option ℚ :=
  latencies[⌈latencies.length * portion⌉₊ - 1]?

def MonitoringWindowManifest.pendingReasons (window : MonitoringWindowManifest) (now : ℤ) :
    List String :=
  (if now < window.windowEnd then ["window_open"] else []) ++
  (if window.records.isNone then ["awaiting_independent_expected_population"] else []) ++
  if now < window.windowEnd + deadlineSeconds * 1000000 then ["awaiting_deadline_maturity"] else []

/-- The events of the window, in the order of the rows. -/
def MonitoringWindowManifest.events (window : MonitoringWindowManifest) : List ExpectedPublication :=
  (window.records.getD []).insertionSort fun left right =>
    toLex (left.publishedAt, left.externalObjectId) ≤
      toLex (right.publishedAt, right.externalObjectId)

def counted (rows : List ScoreRow) (outcome : Outcome) : ℕ := rows.countP (·.outcome = outcome)

/-- What is counted of the rows and of the receipts. -/
def scoreOf (window : MonitoringWindowManifest) (receipts : List AdmissionReceipt) (now : ℤ)
    (rows : List ScoreRow) : MonitoringScore :=
  let count := window.records.map List.length
  let latencies := (rows.filterMap (·.latencySeconds)).insertionSort (· ≤ ·)
  let observed := receipts.filter (·.availableAt ≤ now)
  let expected := (window.events.map (·.externalObjectId)).toFinset
  let status : WindowStatus :=
    if window.pendingReasons now ≠ [] then .pending
    else if count.getD 0 ≠ 0 then .complete else .empty
  { sourceId := window.sourceId
    windowStart := window.windowStart
    windowEnd := window.windowEnd
    asOf := now
    status
    pendingReasons := window.pendingReasons now
    expectedCount := count
    acceptedCount := count.map fun _ => latencies.length
    within6hCount := count.map fun _ => counted rows .within6h
    lateCount := count.map fun _ => counted rows .late
    missedCount := count.map fun _ => counted rows .missed
    pendingCount := count.map fun _ => counted rows .pending
    within6hRate := if status = .complete then share (counted rows .within6h) count else none
    lower := share (counted rows .within6h) count
    upper := share (counted rows .within6h + counted rows .pending) count
    acceptedWithin6hRate := share (counted rows .within6h) (some latencies.length)
    latencyCount := latencies.length
    latencyP50 := percentile latencies (50 / 100)
    latencyP95 := percentile latencies (95 / 100)
    latencyMax := latencies.max?
    receiptCount := observed.length
    futureReceiptCount := receipts.length - observed.length
    acceptedBackfillCount := rows.countP fun row => row.accepted.any fun accepted =>
      accepted.inputBackfillPending || accepted.outputBackfillPending
    outOfCohortReceiptCount := observed.countP fun receipt =>
      receipt.publishedAt.any (fun publishedAt =>
        ¬ (window.windowStart ≤ publishedAt ∧ publishedAt < window.windowEnd)) ∧
        receipt.externalObjectId ∉ expected
    unexpectedObjectCount := count.map fun _ =>
      ((observed.map (·.externalObjectId)).toFinset \ expected).card
    records := rows }

/-- `score_monitoring_window` -/
def scoreMonitoringWindow (window : MonitoringWindowManifest) (receipts : List AdmissionReceipt)
    (now : ℤ) : Except Raised MonitoringScore := do
  require (window.declaredAt ≤ now) (.valueError "as_of precedes window declaration")
  require (∀ retrievedAt ∈ window.providerRetrievedAt, retrievedAt ≤ now)
    (.valueError "provider snapshot was not available as_of evaluation")
  checkReceipts window [] receipts
  let rows ← window.events.mapM (checkedRow receipts now)
  pure (scoreOf window receipts now rows)

/-! ## The first receipt -/

variable {window : MonitoringWindowManifest} {receipts receipts' seen : List AdmissionReceipt}
  {event : ExpectedPublication} {first second now : ℤ} {object : String}

/-- The receipts are of different names and versions. -/
def Apart (left right : AdmissionReceipt) : Prop :=
  left.receiptId ≠ right.receiptId ∧ left.version ≠ right.version

theorem Apart.symm {left right : AdmissionReceipt} (apart : Apart left right) : Apart right left :=
  ⟨apart.1.symm, apart.2.symm⟩

instance : Std.Symm Apart := ⟨fun _ _ => Apart.symm⟩

theorem checkReceipts_eq_ok : checkReceipts window seen receipts = .ok () ↔
    (∀ receipt ∈ receipts, receipt.sourceId = window.sourceId) ∧ receipts.Pairwise Apart ∧
      ∀ receipt ∈ receipts, ∀ other ∈ seen, Apart receipt other := by
  induction receipts generalizing seen with
  | nil => simp [checkReceipts, pure, Except.pure]
  | cons receipt rest ih =>
      rw [checkReceipts, require_bind_eq_ok, require_bind_eq_ok, ih]
      simp only [forall_mem_cons, pairwise_cons]
      constructor
      · rintro ⟨source, new, sources, apart, others⟩
        exact ⟨⟨source, sources⟩, ⟨fun other member => (others other member).1.symm, apart⟩, new,
          fun other member => (others other member).2⟩
      · rintro ⟨⟨source, sources⟩, ⟨ahead, apart⟩, new, others⟩
        exact ⟨source, new, sources, apart,
          fun other member => ⟨(ahead other member).symm, others other member⟩⟩

section Apart

variable (apart : receipts.Pairwise Apart) {receipt : AdmissionReceipt}

include apart

theorem earliest_eq_some : earliest receipts now object = some receipt ↔
    (receipt ∈ receipts ∧ receipt.externalObjectId = object ∧ receipt.availableAt ≤ now) ∧
      ∀ other ∈ receipts, other.externalObjectId = object → other.availableAt ≤ now →
        receipt.rank ≤ other.rank := by
  have visible : ∀ {other}, other ∈ receipts.filter (fun receipt =>
      receipt.externalObjectId = object ∧ receipt.availableAt ≤ now) ↔
        other ∈ receipts ∧ other.externalObjectId = object ∧ other.availableAt ≤ now := by
    simp
  have least : ∀ {best}, earliest receipts now object = some best →
      (best ∈ receipts ∧ best.externalObjectId = object ∧ best.availableAt ≤ now) ∧
        ∀ other ∈ receipts, other.externalObjectId = object → other.availableAt ≤ now →
          best.rank ≤ other.rank := fun found =>
    ⟨visible.1 (List.argmin_mem found), fun other member same available =>
      List.le_of_mem_argmin (visible.2 ⟨member, same, available⟩) found⟩
  refine ⟨least, fun ⟨member, first⟩ => ?_⟩
  cases found : earliest receipts now object with
  | none =>
      have listed := visible.2 member
      rw [List.argmin_eq_none.1 found] at listed
      cases listed
  | some best =>
      obtain ⟨⟨listed, same, available⟩, before⟩ := least found
      have tied : best.rank = receipt.rank := le_antisymm
        (before receipt member.1 member.2.1 member.2.2) (first best listed same available)
      by_contra differs
      exact (apart.forall listed member.1 fun same => differs (congrArg some same)).1
        (Prod.mk.inj (toLex.injective tied)).2

theorem earliest_perm (same : receipts'.Perm receipts) : earliest receipts' = earliest receipts := by
  have apart' : receipts'.Pairwise Apart :=
    (same.pairwise_iff Apart.symm).2 apart
  funext now object
  ext receipt
  rw [earliest_eq_some apart', earliest_eq_some apart]
  simp only [same.mem_iff]

/-- A receipt that is the first stays the first. -/
theorem earliest_later (later : first ≤ second)
    (found : earliest receipts first object = some receipt) :
    earliest receipts second object = some receipt := by
  rw [earliest_eq_some apart] at found ⊢
  obtain ⟨⟨member, same, available⟩, before⟩ := found
  refine ⟨⟨member, same, available.trans later⟩, fun other listed sameObject _ => ?_⟩
  rcases le_or_gt other.availableAt first with visible | hidden
  · exact before other listed sameObject visible
  · exact Prod.Lex.toLex_le_toLex.2 (.inl (available.trans_lt hidden))

/-- A receipt that was not there became available later. -/
theorem lt_availableAt (missing : earliest receipts first object = none)
    (found : earliest receipts second object = some receipt) : first < receipt.availableAt := by
  obtain ⟨⟨member, same, -⟩, -⟩ := (earliest_eq_some apart).1 found
  by_contra visible
  have listed : receipt ∈ receipts.filter fun receipt =>
      receipt.externalObjectId = object ∧ receipt.availableAt ≤ first := by
    simp [member, same, not_lt.1 visible]
  rw [List.argmin_eq_none.1 missing] at listed
  cases listed

/-- What is timely stays timely. -/
theorem outcome_of_within (later : first ≤ second)
    (timely : (scoreRow receipts first event).outcome = .within6h) :
    (scoreRow receipts second event).outcome = .within6h := by
  unfold scoreRow at timely ⊢
  cases found : earliest receipts first event.externalObjectId with
  | none =>
      rw [found, outcomeAt] at timely
      split at timely <;> cases timely
  | some accepted =>
      rw [found] at timely
      rwa [earliest_later apart later found]

/-- What is timely or pending was so before. -/
theorem outcome_of_open (later : first ≤ second)
    (still : (scoreRow receipts second event).outcome = .within6h ∨
      (scoreRow receipts second event).outcome = .pending) :
    (scoreRow receipts first event).outcome = .within6h ∨
      (scoreRow receipts first event).outcome = .pending := by
  unfold scoreRow at still ⊢
  cases found : earliest receipts first event.externalObjectId with
  | some accepted =>
      rw [earliest_later apart later found] at still
      exact still
  | none =>
      suffices waits : first < event.deadline from .inr (if_neg (not_le.2 waits))
      cases read : earliest receipts second event.externalObjectId with
      | none =>
          simp only [read, outcomeAt] at still
          split at still
          next => simp at still
          next waits => exact later.trans_lt (not_le.1 waits)
      | some accepted =>
          have hidden := lt_availableAt apart found read
          simp only [read, outcomeAt] at still
          split at still
          next timely =>
            unfold ExpectedPublication.deadline
            omega
          next => simp at still

end Apart

/-! ## The score over time -/

variable {rows : List ScoreRow} {score earlier later : MonitoringScore}
  {events : List ExpectedPublication}

theorem rows_of_ok
    (ok : events.mapM (checkedRow receipts now) = .ok rows) :
    rows = events.map (scoreRow receipts now) := by
  induction events generalizing rows with
  | nil =>
      cases ok
      rfl
  | cons event rest ih =>
      rw [List.mapM_cons] at ok
      obtain ⟨row, checked, ok⟩ := bind_eq_ok.1 ok
      obtain ⟨others, made, ok⟩ := bind_eq_ok.1 ok
      cases ok
      obtain ⟨-, checked⟩ := require_bind_eq_ok.1 checked
      rw [map_cons, ← ih made, ← pure_eq_ok.1 checked]

theorem score_of_ok (ok : scoreMonitoringWindow window receipts now = .ok score) :
    checkReceipts window [] receipts = .ok () ∧
      score = scoreOf window receipts now (window.events.map (scoreRow receipts now)) := by
  obtain ⟨-, ok⟩ := require_bind_eq_ok.1 ok
  obtain ⟨-, ok⟩ := require_bind_eq_ok.1 ok
  obtain ⟨_, checked, ok⟩ := bind_eq_ok.1 ok
  obtain ⟨rows, made, ok⟩ := bind_eq_ok.1 ok
  rw [← pure_eq_ok.1 ok, rows_of_ok made]
  exact ⟨checked, rfl⟩

/-- The result does not depend on the order of the receipts. -/
theorem score_perm (ok : scoreMonitoringWindow window receipts now = .ok score)
    (same : receipts'.Perm receipts) : scoreMonitoringWindow window receipts' now = .ok score := by
  obtain ⟨checked, -⟩ := score_of_ok ok
  have earliestSame := earliest_perm (checkReceipts_eq_ok.1 checked).2.1 same
  have checked' : checkReceipts window [] receipts' = .ok () := by
    rw [checkReceipts_eq_ok] at checked ⊢
    simpa only [same.mem_iff, same.pairwise_iff Apart.symm] using checked
  have rowSame : checkedRow receipts' now = checkedRow receipts now := by
    funext event
    simp only [checkedRow, scoreRow, earliestSame]
  have scoreSame : scoreOf window receipts' now = scoreOf window receipts now := by
    funext rows
    have seen := same.filter (·.availableAt ≤ now)
    simp only [scoreOf, same.length_eq, seen.length_eq, seen.countP_eq,
      List.toFinset_eq_of_perm _ _ (seen.map _)]
  rw [scoreMonitoringWindow, checked] at ok
  rwa [scoreMonitoringWindow, checked', rowSame, scoreSame]

theorem counted_all (rows : List ScoreRow) : counted rows .within6h + counted rows .late +
    counted rows .missed + counted rows .pending = rows.length := by
  induction rows with
  | nil => rfl
  | cons row rest ih =>
      simp only [counted, List.countP_cons, List.length_cons, ← ih]
      cases row.outcome <;> simp <;> omega

theorem counted_open (rows : List ScoreRow) : counted rows .within6h + counted rows .pending =
    rows.countP fun row => row.outcome = .within6h ∨ row.outcome = .pending := by
  induction rows with
  | nil => rfl
  | cons row rest ih =>
      simp only [counted, List.countP_cons, ← ih]
      cases row.outcome <;> simp <;> omega

theorem share_le {part part' : ℕ} {count : Option ℕ} (le : part ≤ part') :
    ∀ x ∈ share part count, ∃ y ∈ share part' count, x ≤ y := by
  intro x given
  obtain ⟨count, some, rfl⟩ := map_eq_some_iff.1 given
  refine ⟨part' / count, map_eq_some_iff.2 ⟨count, some, rfl⟩, ?_⟩
  gcongr

/-- Every expected publication has one of the four outcomes. -/
def AddsUp (events : List ExpectedPublication) (score : MonitoringScore) : Prop :=
  ∃ within late missed pending, score.within6hCount = some within ∧ score.lateCount = some late ∧
    score.missedCount = some missed ∧ score.pendingCount = some pending ∧
    score.expectedCount = some events.length ∧ within + late + missed + pending = events.length

/-- The bounds close in, and on the rate of the window when that is complete. -/
structure Narrows (earlier later : MonitoringScore) : Prop where
  lower : ∀ x ∈ earlier.lower, ∃ y ∈ later.lower, x ≤ y
  upper : ∀ x ∈ later.upper, ∃ y ∈ earlier.upper, x ≤ y
  final : later.status = .complete → ∃ rate, later.within6hRate = some rate ∧
    later.lower = some rate ∧ later.upper = some rate ∧
    ∃ low high, earlier.lower = some low ∧ earlier.upper = some high ∧ low ≤ rate ∧ rate ≤ high

theorem addsUp_of_ok (frozen : window.records = some events)
    (ok : scoreMonitoringWindow window receipts now = .ok score) : AddsUp events score := by
  obtain ⟨-, rfl⟩ := score_of_ok ok
  have given : window.events.length = events.length := by
    rw [MonitoringWindowManifest.events, List.length_insertionSort, frozen, Option.getD_some]
  have all := counted_all (window.events.map (scoreRow receipts now))
  rw [List.length_map, given] at all
  refine ⟨_, _, _, _, ?_, ?_, ?_, ?_, ?_, all⟩ <;> simp only [scoreOf, frozen, map_some]

/-- When the window is complete, nothing is pending. -/
theorem counted_pending (frozen : window.records = some events)
    (mature : window.pendingReasons now = []) :
    counted (window.events.map (scoreRow receipts now)) .pending = 0 := by
  rw [counted, List.countP_eq_zero, List.forall_mem_map]
  intro event member
  have listed : event ∈ events := by
    rwa [MonitoringWindowManifest.events, mem_insertionSort, frozen] at member
  have matured : window.windowEnd + deadlineSeconds * 1000000 ≤ now := by
    by_contra early
    simp [MonitoringWindowManifest.pendingReasons, not_le.1 early] at mature
  have past : event.deadline ≤ now := by
    have := (window.inWindow events frozen event listed).2
    unfold ExpectedPublication.deadline
    omega
  unfold scoreRow
  cases earliest receipts now event.externalObjectId with
  | none => simp [outcomeAt, past]
  | some accepted =>
      simp only [outcomeAt]
      split <;> simp

theorem complete_of_status
    (frozen : window.records = some events)
    (complete : (scoreOf window receipts now rows).status = .complete) :
    window.pendingReasons now = [] ∧ ∀ part, share part (window.records.map List.length) =
      some ((part : ℚ) / events.length) := by
  simp only [scoreOf, frozen, map_some, Option.getD_some] at complete
  split at complete
  next => cases complete
  next mature =>
    split at complete
    next some =>
      refine ⟨not_not.1 mature, fun part => ?_⟩
      rw [share, frozen, map_some, Option.filter_some_pos (by simpa using some),
        map_some]
    next => cases complete

theorem narrows_of_ok (frozen : window.records = some events)
    (le : first ≤ second) (before : scoreMonitoringWindow window receipts first = .ok earlier)
    (after : scoreMonitoringWindow window receipts second = .ok later) : Narrows earlier later := by
  obtain ⟨checked, rfl⟩ := score_of_ok before
  have apart := (checkReceipts_eq_ok.1 checked).2.1
  obtain ⟨-, rfl⟩ := score_of_ok after
  have timely : counted (window.events.map (scoreRow receipts first)) .within6h ≤
      counted (window.events.map (scoreRow receipts second)) .within6h := by
    simp only [counted, List.countP_map]
    refine List.countP_mono_left fun event _ held => ?_
    simp only [Function.comp_apply, decide_eq_true_eq] at held ⊢
    exact outcome_of_within apart le held
  have possible : counted (window.events.map (scoreRow receipts second)) .within6h +
        counted (window.events.map (scoreRow receipts second)) .pending ≤
      counted (window.events.map (scoreRow receipts first)) .within6h +
        counted (window.events.map (scoreRow receipts first)) .pending := by
    rw [counted_open, counted_open, List.countP_map, List.countP_map]
    refine List.countP_mono_left fun event _ held => ?_
    simp only [Function.comp_apply, decide_eq_true_eq] at held ⊢
    exact outcome_of_open apart le held
  refine ⟨share_le timely, share_le possible, fun complete => ?_⟩
  obtain ⟨mature, rated⟩ := complete_of_status frozen complete
  have settled := @counted_pending window receipts second events frozen mature
  rw [settled, add_zero] at possible
  refine ⟨_, (if_pos complete).trans (rated _), rated _, ?_, _, _, rated _, rated _, ?_, ?_⟩
  · exact (congrArg (share · _) (by rw [settled, add_zero])).trans (rated _)
  · gcongr
  · gcongr

/-- **The score of a window is sound over time.** -/
theorem monitoring_window_sound {events : List ExpectedPublication}
    (frozen : window.records = some events) (le : first ≤ second)
    (before : scoreMonitoringWindow window receipts first = .ok earlier)
    (after : scoreMonitoringWindow window receipts second = .ok later) :
    AddsUp events earlier ∧ AddsUp events later ∧ Narrows earlier later ∧
      ∀ receipts' : List AdmissionReceipt, receipts'.Perm receipts →
        scoreMonitoringWindow window receipts' first = .ok earlier ∧
          scoreMonitoringWindow window receipts' second = .ok later :=
  ⟨addsUp_of_ok frozen before, addsUp_of_ok frozen after, narrows_of_ok frozen le before after,
    fun _ same => ⟨score_perm before same, score_perm after same⟩⟩

/-- A window of one expected publication, which was received in time. -/
def windowOfOne : MonitoringWindowManifest where
  sourceId := "nvd"
  windowStart := 1
  windowEnd := 3
  declaredAt := 0
  providerRetrievedAt := some 3
  records := some [{ externalObjectId := "CVE-2026-0001", publishedAt := 2 }]
  ordered := by decide
  frozen := rfl
  retrieved := by decide
  distinct := by decide
  inWindow := by decide

def receiptInTime : AdmissionReceipt where
  receiptId := "receipt"
  sourceId := "nvd"
  externalObjectId := "CVE-2026-0001"
  externalRevision := none
  contentHash := "hash"
  publishedAt := some 2
  availableAt := 4
  inputBackfillPending := false
  outputBackfillPending := false

theorem monitoring_window_sound_one : ∃ earlier later,
    scoreMonitoringWindow windowOfOne [receiptInTime] 3 = .ok earlier ∧
      scoreMonitoringWindow windowOfOne [receiptInTime] 21600000003 = .ok later ∧
        Narrows earlier later := by
  have before : ∃ earlier, scoreMonitoringWindow windowOfOne [receiptInTime] 3 = .ok earlier :=
    ⟨_, rfl⟩
  have after : ∃ later, scoreMonitoringWindow windowOfOne [receiptInTime] 21600000003 = .ok later :=
    ⟨_, rfl⟩
  obtain ⟨earlier, before⟩ := before
  obtain ⟨later, after⟩ := after
  exact ⟨earlier, later, before, after,
    (monitoring_window_sound rfl (by decide) before after).2.2.1⟩

end SecFusion.Evaluation
