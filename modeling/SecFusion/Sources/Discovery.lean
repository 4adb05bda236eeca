import SecFusion.Sources.DeltaLog

/-!
# Incremental discovery

Nothing is lost behind the cursor of a collector: a CVE of an entry was handed out by a call that saw the entry,
unless it had been handed out before with a change of a later date.  This is so because a call
hands out the latest change of each CVE, and a marker tells whether that very change was handed
out; the latest change comes either from the entry or a later one, or it has a later date.

A new source starts from its newest entries, so what is older than these is left out.
-/

namespace SecFusion.Sources

open Foundations

/-! ## What is promised -/

/-- The stored position has reached the entry. -/
def Passed (collector : Collector) (entry : DeltaEntry) : Prop :=
  ∃ time ∈ collector.cursor.lastFetchTime, entry.fetchTime ≤ time

/-- The source started after the entry. -/
def LeftOut (collector : Collector) (entry : DeltaEntry) : Prop :=
  ∃ call ∈ collector.calls, call.cursor.lastFetchTime = none ∧
    ∃ time ∈ call.start, entry.fetchTime ≤ time

/-- The CVE of the change was handed out by a call that saw the entry. -/
def Emitted (collector : Collector) (entry : DeltaEntry) (change : DeltaChange) : Prop :=
  ∃ call ∈ collector.calls, entry ∈ call.log.entries ∧
    ∃ item ∈ call.emitted, cveOf item = change.cveId

/-- The CVE of the change was handed out with a change of a later date. -/
def Overtaken (collector : Collector) (change : DeltaChange) : Prop :=
  ∃ call ∈ collector.calls, ∃ item ∈ call.emitted, cveOf item = change.cveId ∧
    refUpdated change.ref < refUpdated item.2

instance (collector : Collector) (entry : DeltaEntry) : Decidable (Passed collector entry) :=
  inferInstanceAs (Decidable (∃ time ∈ _, _))

instance (collector : Collector) (entry : DeltaEntry) : Decidable (LeftOut collector entry) :=
  inferInstanceAs (Decidable (∃ call ∈ _, _ ∧ ∃ time ∈ _, _))

instance (collector : Collector) (entry : DeltaEntry) (change : DeltaChange) :
    Decidable (Emitted collector entry change) :=
  inferInstanceAs (Decidable (∃ call ∈ _, _ ∧ ∃ item ∈ _, _))

/-- **Discovery loses nothing**, ends, and does not repeat itself. -/
structure LosesNothing (collector : Collector) : Prop where
  emitted : ∀ entry ∈ collector.log.entries, Passed collector entry →
    LeftOut collector entry ∨
      ∀ change ∈ entry.changes, Emitted collector entry change ∨ Overtaken collector change
  ends : ∀ settings, ∃ n, (polled settings collector (n + 1)).cursor.backfillPending = some false
  once : ∀ settings, ∀ item ∈ collector.emission settings, ∀ call ∈ collector.backfill,
    ∀ earlier ∈ call.emitted, cveOf earlier = cveOf item →
      processedMarker earlier ≠ processedMarker item

/-! ## A backfill -/

/-- What holds of the markers and of the calls of the backfill that is going on. -/
structure BackfillKept (collector : Collector) : Prop where
  grown : ∀ call ∈ collector.calls, Grows call.log collector.log
  within : ∀ time ∈ collector.cursor.lastFetchTime,
    ∃ entry ∈ collector.log.entries, time ≤ entry.fetchTime
  start : ∀ call ∈ collector.backfill,
    call.start = collector.cursor.lastFetchTime ∧ collector.cursor.lastFetchTime.isSome
  latest : ∀ call ∈ collector.backfill, ∀ item ∈ call.emitted, IsLatest call.log call.start item
  marked : ∀ cve, ∀ marker ∈ (completed collector.cursor).get? cve,
    ∃ call ∈ collector.backfill, ∃ item ∈ call.emitted,
      cveOf item = cve ∧ processedMarker item = marker
  overtaken : ∀ call ∈ collector.backfill, ∀ item ∈ call.emitted,
    ∃ later ∈ collector.backfill, ∃ latest ∈ later.emitted, cveOf latest = cveOf item ∧
      recency item ≤ recency latest ∧
      (completed collector.cursor).get? (cveOf item) = some (processedMarker latest)

variable {call : DiscoverCall} {item : DatedRef} {next : Collector} {entry : DeltaEntry}

section Backfill

variable {collector : Collector} {settings : DeltaSettings}

theorem backfill_of_pends (pends : collector.Pends settings) :
    (collector.poll settings).backfill = collector.call settings true :: collector.backfill := by
  rw [poll_of_pends pends]
  rfl

theorem backfill_of_not_pends (ends : ¬ collector.Pends settings) :
    (collector.poll settings).backfill = [] := by
  rw [poll_of_not_pends ends]
  rfl

theorem mem_calls_of_backfill (member : call ∈ collector.backfill) :
    call ∈ collector.calls := (List.takeWhile_sublist _).subset member

theorem isLatest_of_pending (member : item ∈ collector.pending settings) :
    IsLatest collector.log (collector.start settings) item :=
  (isLatest_of_get? (mem_pendingRefs.1 member).1).1

namespace BackfillKept

variable (kept : BackfillKept collector)

include kept

/-- The calls of a backfill all read from where the next one reads. -/
theorem start_eq (settings : DeltaSettings) (member : call ∈ collector.backfill) :
    call.start = collector.start settings := by
  obtain ⟨same, isSome⟩ := kept.start call member
  obtain ⟨time, stored⟩ := isSome_iff_exists.1 isSome
  rw [same, stored, start_of_position stored]

/-- **Nothing is handed out twice.** -/
theorem once (member : item ∈ collector.emission settings) (called : call ∈ collector.backfill)
    {earlier : DatedRef} (emitted : earlier ∈ call.emitted) (same : cveOf earlier = cveOf item) :
    processedMarker earlier ≠ processedMarker item := by
  intro sameMarker
  have waits := mem_pending_of_emission member
  have latest := isLatest_of_pending waits
  -- what is marked for the CVE is between the earlier change and this one, hence this one
  obtain ⟨later, isCall, marked, isMarked, ofCve, between, stored⟩ :=
    kept.overtaken call called earlier emitted
  have grows := kept.grown later (mem_calls_of_backfill isCall)
  have isLatest := kept.latest later isCall marked isMarked
  rw [kept.start_eq settings isCall] at isLatest
  have earlierLatest := kept.latest call called earlier emitted
  rw [kept.start_eq settings called] at earlierLatest
  have asRecent : recency item ≤ recency marked :=
    (recency_of_marker earlierLatest.mem latest.mem sameMarker).ge.trans between
  have equal := isLatest.eq_of_grows grows latest (ofCve.trans same) asRecent
  rw [equal, same] at stored
  exact (mem_pendingRefs.1 waits).2 stored

omit kept in
theorem initial (log : DeltaLog) : BackfillKept { log } where
  grown := by simp
  within := by simp
  start := by simp [Collector.backfill]
  latest := by simp [Collector.backfill]
  marked cve marker stored := by
    cases stored
  overtaken := by simp [Collector.backfill]

theorem grow {next : DeltaLog} (grows : Grows collector.log next) :
    BackfillKept { collector with log := next } where
  grown call member := (kept.grown call member).trans grows
  within time stored := by
    obtain ⟨entry, listed, below⟩ := kept.within time stored
    exact ⟨entry, grows.subset listed, below⟩
  start := kept.start
  latest := kept.latest
  marked := kept.marked
  overtaken := kept.overtaken

/-- The position after a call is not past the log. -/
theorem within_start (settings : DeltaSettings) : ∀ time ∈ collector.start settings,
    ∃ entry ∈ collector.log.entries, time ≤ entry.fetchTime := by
  intro time starts
  cases stored : collector.cursor.lastFetchTime with
  | none => exact start_le_entry starts stored
  | some last =>
      rw [start_of_position stored] at starts
      exact kept.within time (stored.trans starts)

theorem poll_of_pends (pends : collector.Pends settings) :
    BackfillKept (collector.poll settings) := by
  have calls := backfill_of_pends pends
  have isSome := start_isSome_of_pends pends
  constructor
  · rw [Sources.poll_of_pends pends]
    intro call member
    rcases mem_cons.1 member with rfl | member
    · exact .refl _
    · exact kept.grown call member
  · rw [Sources.poll_of_pends pends]
    exact kept.within_start settings
  · rw [calls, Sources.poll_of_pends pends]
    intro call member
    rcases mem_cons.1 member with rfl | member
    · exact ⟨rfl, isSome⟩
    · exact ⟨kept.start_eq settings member, isSome⟩
  · rw [calls]
    intro call member item emitted
    rcases mem_cons.1 member with rfl | member
    · exact isLatest_of_pending (mem_pending_of_emission emitted)
    · exact kept.latest call member item emitted
  · rw [calls, Sources.poll_of_pends pends]
    intro cve marker stored
    by_cases here : cve ∈ (collector.emission settings).map cveOf
    · obtain ⟨item, member, rfl⟩ := mem_map.1 here
      have marked : _ = some marker := stored
      rw [completed, Option.getD_some, get?_markProcessed_of_mem nodup_emission member] at marked
      exact ⟨_, mem_cons_self, item, member, rfl, Option.some.inj marked⟩
    · have before := (get?_markProcessed_of_not_mem here).symm.trans stored
      obtain ⟨call, member, rest⟩ := kept.marked cve marker before
      exact ⟨call, mem_cons_of_mem _ member, rest⟩
  · rw [calls, Sources.poll_of_pends pends]
    have newest : ∀ item ∈ collector.emission settings,
        (markProcessed (completed collector.cursor) (collector.emission settings)).get?
          (cveOf item) = some (processedMarker item) :=
      fun item member => get?_markProcessed_of_mem nodup_emission member
    intro call member item emitted
    rcases mem_cons.1 member with rfl | member
    · exact ⟨_, mem_cons_self, item, emitted, rfl, le_rfl, newest item emitted⟩
    · obtain ⟨later, isCall, latest, isMarked, ofCve, below, stored⟩ :=
        kept.overtaken call member item emitted
      by_cases here : cveOf item ∈ (collector.emission settings).map cveOf
      · obtain ⟨next, emits, same⟩ := mem_map.1 here
        have isLatest := kept.latest later isCall latest isMarked
        rw [kept.start_eq settings isCall] at isLatest
        have above := isLatest.le_of_grows (kept.grown later (mem_calls_of_backfill isCall))
          (isLatest_of_pending (mem_pending_of_emission emits)) (ofCve.trans same.symm)
        exact ⟨_, mem_cons_self, next, emits, same, below.trans above,
          same ▸ newest next emits⟩
      · exact ⟨later, mem_cons_of_mem _ isCall, latest, isMarked, ofCve, below,
          (get?_markProcessed_of_not_mem here).trans stored⟩

theorem poll_of_not_pends (ends : ¬ collector.Pends settings) :
    BackfillKept (collector.poll settings) := by
  have calls := backfill_of_not_pends ends
  constructor
  · rw [Sources.poll_of_not_pends ends]
    intro call member
    rcases mem_cons.1 member with rfl | member
    · exact .refl _
    · exact kept.grown call member
  · rw [Sources.poll_of_not_pends ends]
    intro time stored
    rcases latestFetch_eq_some stored with starts | ⟨entry, listed, rfl⟩
    · exact kept.within_start settings time starts
    · exact ⟨entry, (mem_eligible.1 listed).1, le_rfl⟩
  · rw [calls]
    exact forall_mem_nil _
  · rw [calls]
    exact forall_mem_nil _
  · rw [Sources.poll_of_not_pends ends]
    intro cve marker stored
    cases stored
  · rw [calls]
    exact forall_mem_nil _

theorem step (steps : CollectorStep collector next) : BackfillKept next := by
  cases steps with
  | grow grows => exact kept.grow grows
  | poll settings =>
      by_cases pends : collector.Pends settings
      · exact kept.poll_of_pends pends
      · exact kept.poll_of_not_pends pends

end BackfillKept

end Backfill

/-! ## Nothing is lost -/

section Safe

variable {collector : Collector} {settings : DeltaSettings}

/-- The promise of the cursor, about the entries that it has passed. -/
def PassedKept (collector : Collector) : Prop :=
  ∀ entry ∈ collector.log.entries, Passed collector entry → LeftOut collector entry ∨
    ∀ change ∈ entry.changes, Emitted collector entry change ∨ Overtaken collector change

/-- The promise about an entry stays when calls are added. -/
theorem promise_mono (calls : ∀ call ∈ collector.calls, call ∈ next.calls)
    (promise : LeftOut collector entry ∨
      ∀ change ∈ entry.changes, Emitted collector entry change ∨ Overtaken collector change) :
    LeftOut next entry ∨
      ∀ change ∈ entry.changes, Emitted next entry change ∨ Overtaken next change := by
  refine promise.imp ?_ fun changes change member => (changes change member).imp ?_ ?_
  · rintro ⟨call, member, rest⟩
    exact ⟨call, calls call member, rest⟩
  · rintro ⟨call, member, rest⟩
    exact ⟨call, calls call member, rest⟩
  · rintro ⟨call, member, rest⟩
    exact ⟨call, calls call member, rest⟩

theorem log_poll (collector : Collector) (settings : DeltaSettings) :
    (collector.poll settings).log = collector.log := by rw [poll_eq]

theorem calls_poll (collector : Collector) (settings : DeltaSettings) :
    ∃ pending, (collector.poll settings).calls =
      collector.call settings pending :: collector.calls := ⟨_, by rw [poll_eq]⟩

theorem mem_calls_poll (settings : DeltaSettings) :
    ∀ call ∈ collector.calls, call ∈ (collector.poll settings).calls := by
  obtain ⟨pending, calls⟩ := calls_poll collector settings
  rw [calls]
  exact fun _ => mem_cons_of_mem _

/-- An entry before the position of a call was passed before, or is left out. -/
theorem promise_of_not_after (safe : PassedKept collector) (settings : DeltaSettings)
    (listed : entry ∈ collector.log.entries) (before : ¬ IsAfter (collector.start settings) entry) :
    LeftOut (collector.poll settings) entry ∨ ∀ change ∈ entry.changes,
      Emitted (collector.poll settings) entry change ∨
        Overtaken (collector.poll settings) change := by
  unfold IsAfter at before
  push Not at before
  obtain ⟨time, starts, notAfter⟩ := before
  cases stored : collector.cursor.lastFetchTime with
  | none =>
      obtain ⟨pending, calls⟩ := calls_poll collector settings
      refine .inl ⟨collector.call settings pending, ?_, stored, time, starts, notAfter⟩
      rw [calls]
      exact mem_cons_self
  | some last =>
      rw [start_of_position stored] at starts
      exact promise_mono (mem_calls_poll settings)
        (safe entry listed ⟨time, stored.trans starts, notAfter⟩)

/-- When a call leaves nothing, each CVE of an entry that it read was handed out by a call that
saw the entry, or with a later date. -/
theorem handedOut_of_not_pends (kept : BackfillKept collector) (ends : ¬ collector.Pends settings)
    (listed : entry ∈ collector.log.entries) (after : IsAfter (collector.start settings) entry)
    {change : DeltaChange} (member : change ∈ entry.changes) :
    Emitted (collector.poll settings) entry change ∨
      Overtaken (collector.poll settings) change := by
  have read : (entry.fetchTime, change.ref) ∈ refsAfter collector.log (collector.start settings) :=
    mem_refsAfter.2 ⟨entry, listed, after, change, member, rfl⟩
  obtain ⟨latest, found, recent⟩ := exists_latest read
  obtain ⟨isLatest, ofCve⟩ := isLatest_of_get? found
  by_cases done : (completed collector.cursor).get? (cveOf latest) = some (processedMarker latest)
  swap
  · -- the latest change waits, so this call hands it out
    have waits : latest ∈ collector.pending settings :=
      mem_pendingRefs.2 ⟨ofCve ▸ found, done⟩
    obtain ⟨pending, calls⟩ := calls_poll collector settings
    refine .inl ⟨collector.call settings pending, ?_, listed, latest,
      emission_of_not_pends ends waits, ofCve⟩
    rw [calls]
    exact mem_cons_self
  · -- it was handed out before, when it was the latest as well
    obtain ⟨call, called, item, emitted, same, sameMarker⟩ := kept.marked _ _ done
    have stays := mem_calls_poll settings call (mem_calls_of_backfill called)
    have grows := kept.grown call (mem_calls_of_backfill called)
    have itemLatest := kept.latest call called item emitted
    rw [kept.start_eq settings called] at itemLatest
    have asRecent : recency item = recency latest :=
      recency_of_marker itemLatest.mem isLatest.mem sameMarker
    obtain ⟨source, isSource, -, other, -, isItem⟩ := mem_refsAfter.1 itemLatest.mem
    by_cases seen : entry.fetchTime ≤ source.fetchTime
    · exact .inl ⟨call, stays, grows.mem_before listed isSource seen, item, emitted, same.trans ofCve⟩
    · refine .inr ⟨call, stays, item, emitted, same.trans ofCve, ?_⟩
      rw [← asRecent] at recent
      rcases Prod.Lex.le_iff.1 recent with later | ⟨-, notLater⟩
      · exact later
      · rw [isItem] at notLater
        exact absurd notLater seen

theorem PassedKept.step (safe : PassedKept collector) (kept : BackfillKept collector)
    (steps : CollectorStep collector next) : PassedKept next := by
  cases steps with
  | grow grows =>
      rintro entry listed ⟨time, stored, passed⟩
      obtain ⟨newest, old, within⟩ := kept.within time stored
      exact safe entry (grows.mem_before listed old (passed.trans within)) ⟨time, stored, passed⟩
  | poll settings =>
      rintro entry listed ⟨time, stored, passed⟩
      rw [log_poll] at listed
      by_cases after : IsAfter (collector.start settings) entry
      swap
      · exact promise_of_not_after safe settings listed after
      by_cases pends : collector.Pends settings
      · rw [poll_of_pends pends] at stored
        exact absurd passed (not_le.2 (after time stored))
      · exact .inr fun change member => handedOut_of_not_pends kept pends listed after member

end Safe

/-! ## A backfill ends -/

section Ends

variable {collector : Collector} {settings : DeltaSettings}

/-- After a call that leaves some changes, fewer wait. -/
theorem length_pending_poll (pends : collector.Pends settings) (nextSettings : DeltaSettings) :
    ((collector.poll settings).pending nextSettings).length <
      (collector.pending settings).length := by
  obtain ⟨time, starts⟩ := isSome_iff_exists.1 (start_isSome_of_pends pends)
  have polls := poll_of_pends pends
  have sameStart : (collector.poll settings).start nextSettings = collector.start settings := by
    rw [starts]
    refine start_of_position ?_
    rw [polls]
    exact starts
  have limit : 0 < positiveInt settings.maxItems 150 := positiveInt_pos _ (by decide)
  have rest : ((collector.poll settings).pending nextSettings) ⊆
      (collector.pending settings).drop (positiveInt settings.maxItems 150) := by
    intro item member
    unfold Collector.pending at member
    rw [sameStart, log_poll, mem_pendingRefs, polls] at member
    obtain ⟨found, unmarked⟩ := member
    have other : cveOf item ∉ (collector.emission settings).map cveOf := by
      intro here
      obtain ⟨emitted, emits, same⟩ := mem_map.1 here
      have latest := (mem_pendingRefs.1 (mem_pending_of_emission emits)).1
      rw [same, found] at latest
      obtain rfl := Option.some.inj latest
      exact unmarked (get?_markProcessed_of_mem nodup_emission emits)
    have waits : item ∈ collector.pending settings := by
      refine mem_pendingRefs.2 ⟨found, fun marked => unmarked ?_⟩
      exact (get?_markProcessed_of_not_mem other).trans marked
    exact (mem_emission_or settings waits).resolve_left fun emits =>
      other (mem_map.2 ⟨item, emits, rfl⟩)
  have fewer := (List.Nodup.subperm (nodup_pending.of_map _) rest).length_le
  have some_wait := Nat.zero_lt_of_lt pends
  rw [List.length_drop] at fewer
  omega

theorem polled_succ (settings : ℕ → DeltaSettings) (collector : Collector) (n : ℕ) :
    polled settings collector (n + 1) =
      polled (fun k => settings (k + 1)) (collector.poll (settings 0)) n := by
  induction n with
  | zero => rfl
  | succ n ih =>
      rw [polled, ih]
      rfl

/-- **A backfill ends** when the log does not grow. -/
theorem exists_polled_done (settings : ℕ → DeltaSettings) (collector : Collector) :
    ∃ n, (polled settings collector (n + 1)).cursor.backfillPending = some false := by
  induction waiting : (collector.pending (settings 0)).length using Nat.strong_induction_on
    generalizing collector settings with
  | _ waiting ih =>
      by_cases pends : collector.Pends (settings 0)
      swap
      · refine ⟨0, ?_⟩
        rw [polled, polled, poll_of_not_pends pends]
      have fewer := length_pending_poll pends (settings 1)
      obtain ⟨n, done⟩ := ih _ (waiting ▸ fewer) (fun k => settings (k + 1)) _ rfl
      exact ⟨n + 1, by rw [polled_succ]; exact done⟩

end Ends

/-! ## Discovery -/

theorem kept_of_reached {collector : Collector} (reached : Reached collector) :
    BackfillKept collector ∧ PassedKept collector := by
  obtain ⟨log, steps⟩ := reached
  induction steps with
  | refl =>
      refine ⟨.initial log, ?_⟩
      rintro entry - ⟨time, stored, -⟩
      cases stored
  | tail _ step ih => exact ⟨ih.1.step step, ih.2.step ih.1 step⟩

/-- A change of a CVE, with the date of its record. -/
def deltaChange (cveId : String) (dateUpdated : Option ℤ) : DeltaChange where
  cveId
  githubLink := "https://raw.githubusercontent.com/CVEProject/cvelistV5/main/cves"
  dateUpdated

/-- Two fetches, of one CVE each. -/
def twoFetches : DeltaLog where
  entries := [⟨2, [deltaChange "CVE-2026-10002" (some 2)], []⟩,
    ⟨1, [deltaChange "CVE-2026-10001" (some 1)], []⟩]
  distinct := by decide
  valid := by decide +kernel

/-- One fetch, of two CVEs. -/
def oneFetch : DeltaLog where
  entries := [⟨1, [deltaChange "CVE-2026-10001" (some 1), deltaChange "CVE-2026-10002" (some 1)], []⟩]
  distinct := by decide
  valid := by decide +kernel

/-- The second CVE without a date. -/
def undatedEntry : DeltaEntry := ⟨2, [], [deltaChange "CVE-2026-10002" none]⟩

/-- The log with a fetch in which the second CVE was updated. -/
def laterFetch : DeltaLog where
  entries := undatedEntry :: oneFetch.entries
  distinct := by decide
  valid := by decide +kernel

/-- The collector of a new source, after one call. -/
def bootstrapped : Collector := Collector.poll { log := twoFetches } {}

/-- The first call hands out one CVE; then the log grows, and another call follows. -/
def redated : Collector :=
  Collector.poll { Collector.poll { log := oneFetch } { maxItems := some (.int 1) } with
    log := laterFetch } {}

theorem reached_bootstrapped : Reached bootstrapped :=
  ⟨twoFetches, .single (.poll {})⟩

theorem reached_redated : Reached redated := by
  have grows : Grows oneFetch laterFetch := ⟨[undatedEntry], .refl _, by decide +kernel⟩
  exact ⟨oneFetch, ((Relation.ReflTransGen.single (.poll { maxItems := some (.int 1) })).tail
    (.grow grows)).tail (.poll {})⟩

end SecFusion.Sources
