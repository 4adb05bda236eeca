import SecFusion.Foundations.Greedy
import SecFusion.Intelligence.Correlator

/-!
# How the correlator groups signals

Signals of one incident type arrive one after another at an empty store.  The anchor
index then says exactly which candidates hold a signal with a given anchor
(`Indexed`), so the correlator groups signals greedily by their shared anchors
(`greedy_run`): it never merges two candidates, and a signal that shares anchors
with two of them joins one.

Hence the grouping depends on the order of arrival unless links between signals
compose (`orderFree_arrivals_iff`); a signal that bridges two others is enough for it
to (`grouping_depends_on_order`).
-/

namespace SecFusion.Intelligence

open Foundations
open Acceptance (scheduled write)

/-! ## Arrivals -/

/-- A signal that is accepted at an instant. -/
structure Arrival where
  signal : SignalItem
  now : ℤ

/-- The call that accepts an arrival. -/
def arrive (naming : Naming) (arrival : Arrival) (store : SignalStore) :
    Except Raised (IncidentSignalResult × SignalStore) :=
  accept naming arrival.signal { store with clock := arrival.now }

/-- The store after some arrivals at an empty one. -/
def afterArrivals (naming : Naming) (arrivals : List Arrival) : SignalStore :=
  run (arrive naming) {} arrivals

/-- The candidate that the stored signal names. -/
def candidateOf (store : SignalStore) (signal : SignalItem) : Option String :=
  (store.signals signal.signalId).bind SignalItem.incidentCandidateId

/-- The signals have a strong anchor in common, up to the white space around it and
the case of its letters. -/
def SharesAnchor (naming : Naming) (left right : SignalItem) : Prop :=
  ∃ one ∈ strongAnchors left.anchors, ∃ other ∈ strongAnchors right.anchors,
    one.1 = other.1 ∧ naming.lower (strip one.2) = naming.lower (strip other.2)

instance (naming : Naming) (left right : SignalItem) :
    Decidable (SharesAnchor naming left right) :=
  inferInstanceAs (Decidable (∃ one ∈ strongAnchors left.anchors, _))

theorem SharesAnchor.symm {naming : Naming} {left right : SignalItem}
    (shares : SharesAnchor naming left right) : SharesAnchor naming right left := by
  obtain ⟨one, inLeft, other, inRight, sameType, sameValue⟩ := shares
  exact ⟨other, inRight, one, inLeft, sameType.symm, sameValue.symm⟩

/-! ## Anchors -/

variable {anchor : String × String} {candidate : IncidentCandidate}
  {candidates : List IncidentCandidate}

section Anchors

variable {naming : Naming}

theorem mem_strongAnchors {anchors : Dict String (List String)} :
    anchor ∈ strongAnchors anchors ↔
      anchor.1 ∈ strongAnchorTypes ∧ anchor.2 ∈ anchors.getD anchor.1 [] := by
  obtain ⟨anchorType, value⟩ := anchor
  simp only [strongAnchors, mem_flatMap, mem_filter, decide_eq_true_eq, mem_map,
    mk.injEq, Prod.exists]
  constructor
  · rintro ⟨_, values, ⟨member, strong⟩, _, among, rfl, rfl⟩
    refine ⟨strong, ?_⟩
    rwa [Dict.getD_of_get? (Dict.get?_eq_some.2 member)]
  · rintro ⟨strong, among⟩
    cases found : anchors.get? anchorType with
    | none => simp [Dict.getD, found] at among
    | some values =>
        rw [Dict.getD_of_get? found] at among
        exact ⟨anchorType, values, ⟨Dict.get?_eq_some.1 found, strong⟩, value, among, rfl, rfl⟩

theorem toList_anchorKey (anchor : String × String) :
    (anchorKey naming anchor).toList =
      "incident:anchor:".toList ++
        (anchor.1.toList ++ ':' :: (naming.lower (strip anchor.2)).toList) := by
  unfold anchorKey
  generalize naming.lower (strip anchor.2) = value
  have shape : s!"incident:anchor:{anchor.1}:{value}" =
      "incident:anchor:" ++ anchor.1 ++ ":" ++ value := rfl
  have colon : ":".toList = [':'] := by decide
  rw [shape, toList_append, toList_append, toList_append, colon,
    append_assoc, append_assoc, singleton_append]

theorem colon_not_mem {anchorType : String} (strong : anchorType ∈ strongAnchorTypes) :
    ':' ∉ anchorType.toList := by
  have all : ∀ name ∈ strongAnchorTypes, ':' ∉ name.toList := by decide +kernel
  exact all anchorType strong

/-- Strong anchors have the same key when they are of one type and equal up to
normalisation. -/
theorem anchorKey_eq_iff {one other : String × String} (oneStrong : one.1 ∈ strongAnchorTypes)
    (otherStrong : other.1 ∈ strongAnchorTypes) :
    anchorKey naming one = anchorKey naming other ↔
      one.1 = other.1 ∧ naming.lower (strip one.2) = naming.lower (strip other.2) := by
  rw [← toList_inj, toList_anchorKey, toList_anchorKey, List.append_cancel_left_eq,
    Text.append_cons_inj (colon_not_mem oneStrong) (colon_not_mem otherStrong),
    toList_inj, toList_inj]

/-- The anchors of a candidate that a signal has been merged into are its own and the
signal's. -/
theorem mem_strongAnchors_mergeSignal {signal : SignalItem} :
    anchor ∈ strongAnchors (mergeSignal candidate signal).anchorSet ↔
      anchor ∈ strongAnchors candidate.anchorSet ∨ anchor ∈ strongAnchors signal.anchors := by
  have folded : ∀ (entries : List (String × List String)) (start : Dict String (List String)),
      anchor.2 ∈ (entries.foldl (fun anchorSet entry =>
        anchorSet.set entry.1 (sortedSet (anchorSet.getD entry.1 [] ++ entry.2)))
          start).getD anchor.1 [] ↔
        anchor.2 ∈ start.getD anchor.1 [] ∨
          ∃ entry ∈ entries, entry.1 = anchor.1 ∧ anchor.2 ∈ entry.2 := by
    intro entries
    induction entries with
    | nil => simp
    | cons entry rest ih =>
        intro start
        rw [foldl_cons, ih]
        by_cases same : entry.1 = anchor.1
        · simp [Dict.getD, Dict.get?_set, same, or_assoc]
        · simp [Dict.getD, Dict.get?_set, same]
  have own : (∃ entry ∈ signal.anchors.entries, entry.1 = anchor.1 ∧ anchor.2 ∈ entry.2) ↔
      anchor.2 ∈ signal.anchors.getD anchor.1 [] := by
    constructor
    · rintro ⟨entry, member, sameType, among⟩
      rwa [← sameType, Dict.getD_of_get? (Dict.get?_eq_some.2 member)]
    · intro among
      cases found : signal.anchors.get? anchor.1 with
      | none => simp [Dict.getD, found] at among
      | some values =>
          rw [Dict.getD_of_get? found] at among
          exact ⟨(anchor.1, values), Dict.get?_eq_some.1 found, rfl, among⟩
  rw [mem_strongAnchors, mem_strongAnchors, mem_strongAnchors, ← and_or_left, ← own]
  exact and_congr_right fun _ => folded _ _

end Anchors

/-! ## What a call writes -/

section Writes

variable {naming : Naming} {acceptance : Acceptance} {store : SignalStore}

/-- Indexing a candidate under some anchors adds it to their sets and does nothing else. -/
theorem indexed_eq (candidateId : String) (anchors : List (String × String))
    (start : SignalStore) :
    let indexed := anchors.foldl
      (fun store anchor => store.indexCandidateAnchor naming candidateId anchor) start
    indexed.signals = start.signals ∧ indexed.candidates = start.candidates ∧
      ∀ key member, member ∈ indexed.anchorIndex key ↔
        member ∈ start.anchorIndex key ∨
          member = candidateId ∧ ∃ anchor ∈ anchors, anchorKey naming anchor = key := by
  induction anchors generalizing start with
  | nil => simp
  | cons anchor rest ih =>
      obtain ⟨signals, candidates, members⟩ := ih (start.indexCandidateAnchor naming candidateId anchor)
      refine ⟨signals, candidates, fun key member => ?_⟩
      rw [foldl_cons, members key member]
      by_cases same : anchorKey naming anchor = key
      · subst same
        have here : member ∈ (start.indexCandidateAnchor naming candidateId anchor).anchorIndex
            (anchorKey naming anchor) ↔
              member = candidateId ∨ member ∈ start.anchorIndex (anchorKey naming anchor) := by
          simp [SignalStore.indexCandidateAnchor, List.mem_insert_iff]
        rw [here]
        simp only [mem_cons, exists_eq_or_imp, true_or, and_true]
        tauto
      · have elsewhere : (start.indexCandidateAnchor naming candidateId anchor).anchorIndex key =
            start.anchorIndex key := update_of_ne (Ne.symm same) ..
        rw [elsewhere]
        simp [same]

theorem signals_write :
    (acceptance.write naming store).signals = (store.putSignal acceptance.signal).signals := by
  have indexed := (@indexed_eq naming acceptance.candidate.candidateId
    (strongAnchors acceptance.candidate.anchorSet)
    ((store.putSignal acceptance.signal).putCandidate acceptance.candidate)).1
  unfold write scheduled
  split <;> exact indexed

theorem candidates_write :
    (acceptance.write naming store).candidates =
      (store.putCandidate acceptance.candidate).candidates := by
  have indexed := (@indexed_eq naming acceptance.candidate.candidateId
    (strongAnchors acceptance.candidate.anchorSet)
    ((store.putSignal acceptance.signal).putCandidate acceptance.candidate)).2.1
  unfold write scheduled
  split <;> exact indexed

theorem mem_anchorIndex_write {key member : String} :
    member ∈ (acceptance.write naming store).anchorIndex key ↔
      member ∈ store.anchorIndex key ∨
        member = acceptance.candidate.candidateId ∧
          ∃ anchor ∈ strongAnchors acceptance.candidate.anchorSet,
            anchorKey naming anchor = key := by
  have indexed := (@indexed_eq naming acceptance.candidate.candidateId
    (strongAnchors acceptance.candidate.anchorSet)
    ((store.putSignal acceptance.signal).putCandidate acceptance.candidate)).2.2 key member
  unfold write scheduled
  split <;> exact indexed

end Writes

/-! ## What the index says -/

/-- **The invariant of arrivals.**  The candidates under an anchor's key are those of
the signals that have it, among the signals accepted so far. -/
structure Indexed (naming : Naming) (incidentType : String) (accepted : List SignalItem)
    (store : SignalStore) : Prop where
  fresh : ∀ signalId stored, store.signals signalId = some stored →
    ∃ signal ∈ accepted, signal.signalId = signalId
  typed : ∀ candidateId candidate, store.candidates candidateId = some candidate →
    candidate.candidateId = candidateId ∧ candidate.incidentType = incidentType
  anchored : ∀ candidateId candidate, store.candidates candidateId = some candidate →
    ∀ anchor ∈ strongAnchors candidate.anchorSet, ∃ signal ∈ accepted,
      candidateOf store signal = some candidateId ∧
        ∃ own ∈ strongAnchors signal.anchors, anchorKey naming own = anchorKey naming anchor
  sound : ∀ key candidateId, candidateId ∈ store.anchorIndex key →
    (∃ candidate, store.candidates candidateId = some candidate) ∧
      ∃ signal ∈ accepted, candidateOf store signal = some candidateId ∧
        ∃ own ∈ strongAnchors signal.anchors, anchorKey naming own = key
  complete : ∀ signal ∈ accepted, ∃ candidateId, candidateOf store signal = some candidateId ∧
    ∀ own ∈ strongAnchors signal.anchors, candidateId ∈ store.anchorIndex (anchorKey naming own)

section Arriving

variable {naming : Naming} {incidentType : String} {accepted : List SignalItem}
variable {store : SignalStore} {signal : SignalItem}

theorem mem_of_bestCandidate {best : IncidentCandidate}
    (found : bestCandidate signal candidates = some best) : best ∈ candidates := by
  unfold bestCandidate at found
  exact (mem_insertionSort _).1 (List.mem_of_head? found)

theorem nil_of_bestCandidate (missing : bestCandidate signal candidates = none) :
    candidates = [] := by
  unfold bestCandidate at missing
  rw [List.head?_eq_none_iff] at missing
  exact List.nil_perm.1 (missing ▸ perm_insertionSort _ candidates)

/-- A signal that finds no candidate shares no anchor with the accepted ones. -/
theorem Indexed.not_shares (indexed : Indexed naming incidentType accepted store)
    (ofType : signal.incidentType = incidentType)
    (missing : findCandidate naming signal store = none) :
    ∀ earlier ∈ accepted, ¬ SharesAnchor naming earlier signal := by
  rintro earlier member ⟨one, inEarlier, other, inSignal, sameType, sameValue⟩
  have sameKey : anchorKey naming one = anchorKey naming other :=
    (anchorKey_eq_iff (mem_strongAnchors.1 inEarlier).1 (mem_strongAnchors.1 inSignal).1).2
      ⟨sameType, sameValue⟩
  obtain ⟨candidateId, -, under⟩ := indexed.complete earlier member
  have listed : candidateId ∈ store.anchorIndex (anchorKey naming other) :=
    sameKey ▸ under one inEarlier
  obtain ⟨⟨candidate, stored⟩, -⟩ := indexed.sound _ candidateId listed
  have read : store.sameTypeCandidate signal candidateId = some candidate := by
    simp [SignalStore.sameTypeCandidate, stored, (indexed.typed _ _ stored).2, ofType]
  have none := nil_of_bestCandidate missing
  have among : candidate ∈ (sortedSet ((strongAnchors signal.anchors).flatMap
      (store.candidateIdsForAnchor naming))).filterMap (store.sameTypeCandidate signal) :=
    mem_filterMap.2 ⟨candidateId,
      mem_sortedSet.2 (mem_flatMap.2 ⟨other, inSignal, listed⟩), read⟩
  rw [none] at among
  exact absurd among not_mem_nil

/-- A candidate that a signal finds is that of an accepted signal with which it shares
an anchor. -/
theorem Indexed.shares (indexed : Indexed naming incidentType accepted store)
    (found : findCandidate naming signal store = some candidate) :
    store.candidates candidate.candidateId = some candidate ∧
      ∃ earlier ∈ accepted, SharesAnchor naming earlier signal ∧
        candidateOf store earlier = some candidate.candidateId := by
  obtain ⟨candidateId, listed, read⟩ := mem_filterMap.1 (mem_of_bestCandidate found)
  obtain ⟨other, inSignal, under⟩ := mem_flatMap.1 (mem_sortedSet.1 listed)
  have stored : store.candidates candidateId = some candidate := (Option.filter_eq_some_iff.1 read).1
  obtain rfl := (indexed.typed _ _ stored).1
  obtain ⟨-, earlier, member, named, own, inEarlier, sameKey⟩ := indexed.sound _ _ under
  refine ⟨stored, earlier, member, ⟨own, inEarlier, other, inSignal, ?_⟩, named⟩
  exact (anchorKey_eq_iff (mem_strongAnchors.1 inEarlier).1 (mem_strongAnchors.1 inSignal).1).1
    sameKey

/-- The call that accepts the next signal. -/
abbrev acceptanceOf (naming : Naming) (signal : SignalItem) (store : SignalStore) : Acceptance :=
  decideAcceptance naming signal (findCandidate naming signal store) store.clock

theorem candidateOf_write_self :
    candidateOf ((acceptanceOf naming signal store).write naming store) signal =
      some (acceptanceOf naming signal store).candidate.candidateId := by
  rw [candidateOf, signals_write]
  have stored := SignalStore.signals_putSignal_self store (acceptanceOf naming signal store).signal
  rw [show signal.signalId = (acceptanceOf naming signal store).signal.signalId from rfl, stored]
  rfl

theorem candidateOf_write_of_ne {other : SignalItem} (differs : other.signalId ≠ signal.signalId) :
    candidateOf ((acceptanceOf naming signal store).write naming store) other =
      candidateOf store other := by
  rw [candidateOf, signals_write, SignalStore.signals_putSignal_of_ne]
  · rfl
  · exact differs

/-- The id of a new candidate, or that of the one found. -/
theorem candidateId_acceptanceOf :
    (acceptanceOf naming signal store).candidate.candidateId =
      ((findCandidate naming signal store).map IncidentCandidate.candidateId).getD
        (candidateId naming signal) := by
  unfold acceptanceOf decideAcceptance
  cases findCandidate naming signal store <;> rfl

section

variable (indexed : Indexed naming incidentType accepted store)

include indexed

/-- **The next signal is placed greedily.**  It shares no anchor with an accepted one
and starts a candidate, or it shares one with a signal whose candidate it joins. -/
theorem Indexed.placed
    (ofType : signal.incidentType = incidentType) :
    (∀ earlier ∈ accepted, ¬ SharesAnchor naming earlier signal) ∧
        some (acceptanceOf naming signal store).candidate.candidateId =
          some (candidateId naming signal) ∨
      ∃ earlier ∈ accepted, SharesAnchor naming earlier signal ∧
        some (acceptanceOf naming signal store).candidate.candidateId =
          candidateOf store earlier := by
  rw [candidateId_acceptanceOf]
  cases found : findCandidate naming signal store with
  | none => exact .inl ⟨indexed.not_shares ofType found, rfl⟩
  | some candidate =>
      obtain ⟨-, earlier, member, sharing, named⟩ := indexed.shares found
      exact .inr ⟨earlier, member, sharing, named.symm⟩

/-- The anchors of the candidate that is written are the signal's and those of accepted
signals of the same candidate. -/
theorem Indexed.anchored_written
    (among : anchor ∈ strongAnchors (acceptanceOf naming signal store).candidate.anchorSet) :
    anchor ∈ strongAnchors signal.anchors ∨
      ∃ earlier ∈ accepted,
        candidateOf store earlier =
            some (acceptanceOf naming signal store).candidate.candidateId ∧
          ∃ own ∈ strongAnchors earlier.anchors,
            anchorKey naming own = anchorKey naming anchor := by
  rw [candidateId_acceptanceOf]
  replace among : anchor ∈ strongAnchors (mergeSignal
      ((findCandidate naming signal store).getD (newCandidate naming signal)) signal).anchorSet :=
    among
  rcases mem_strongAnchors_mergeSignal.1 among with before | own
  · cases found : findCandidate naming signal store with
    | none =>
        rw [found] at before
        exact absurd (mem_strongAnchors.1 before).2 (by simp [newCandidate])
    | some candidate =>
        rw [found] at before
        exact .inr (indexed.anchored _ candidate (indexed.shares found).1 anchor before)
  · exact .inl own

/-- **What an arrival keeps.** -/
theorem Indexed.write
    (ofType : signal.incidentType = incidentType)
    (distinct : ∀ earlier ∈ accepted, earlier.signalId ≠ signal.signalId) :
    Indexed naming incidentType (accepted ++ [signal])
      ((acceptanceOf naming signal store).write naming store) := by
  have inside : ∀ earlier ∈ accepted, earlier ∈ accepted ++ [signal] := fun _ =>
    mem_append_left [signal]
  have last : signal ∈ accepted ++ [signal] := by simp
  -- the anchors of the candidate that is written
  have written : ∀ anchor ∈ strongAnchors (acceptanceOf naming signal store).candidate.anchorSet,
      ∃ other ∈ accepted ++ [signal],
        candidateOf ((acceptanceOf naming signal store).write naming store) other =
            some (acceptanceOf naming signal store).candidate.candidateId ∧
          ∃ own ∈ strongAnchors other.anchors, anchorKey naming own = anchorKey naming anchor := by
    intro anchor among
    rcases indexed.anchored_written among with own | ⟨earlier, member, named, shared⟩
    · exact ⟨signal, last, candidateOf_write_self, anchor, own, rfl⟩
    · refine ⟨earlier, inside earlier member, ?_, shared⟩
      rw [candidateOf_write_of_ne (distinct earlier member), named]
  refine ⟨?_, ?_, ?_, ?_, ?_⟩
  · intro signalId stored found
    rw [signals_write] at found
    by_cases same : signalId = (acceptanceOf naming signal store).signal.signalId
    · exact ⟨signal, last, same.symm⟩
    · rw [SignalStore.signals_putSignal_of_ne _ same] at found
      obtain ⟨earlier, member, sameId⟩ := indexed.fresh signalId stored found
      exact ⟨earlier, inside earlier member, sameId⟩
  · intro id candidate stored
    rw [candidates_write] at stored
    by_cases same : id = (acceptanceOf naming signal store).candidate.candidateId
    · subst same
      rw [SignalStore.candidates_putCandidate_self] at stored
      obtain rfl := Option.some.inj stored
      refine ⟨rfl, ?_⟩
      show ((findCandidate naming signal store).getD (newCandidate naming signal)).incidentType = _
      cases found : findCandidate naming signal store with
      | none => exact ofType
      | some candidate => exact (indexed.typed _ _ (indexed.shares found).1).2
    · rw [SignalStore.candidates_putCandidate_of_ne _ same] at stored
      exact indexed.typed id candidate stored
  · intro id candidate stored anchor among
    rw [candidates_write] at stored
    by_cases same : id = (acceptanceOf naming signal store).candidate.candidateId
    · subst same
      rw [SignalStore.candidates_putCandidate_self] at stored
      obtain rfl := Option.some.inj stored
      exact written anchor among
    · rw [SignalStore.candidates_putCandidate_of_ne _ same] at stored
      obtain ⟨earlier, member, named, shared⟩ := indexed.anchored id candidate stored anchor among
      refine ⟨earlier, inside earlier member, ?_, shared⟩
      rw [candidateOf_write_of_ne (distinct earlier member), named]
  · intro key id listed
    rcases mem_anchorIndex_write.1 listed with before | ⟨rfl, anchor, among, rfl⟩
    · obtain ⟨⟨candidate, stored⟩, earlier, member, named, shared⟩ := indexed.sound key id before
      refine ⟨?_, earlier, inside earlier member, ?_, shared⟩
      · rw [candidates_write]
        by_cases same : id = (acceptanceOf naming signal store).candidate.candidateId
        · exact ⟨_, same ▸ SignalStore.candidates_putCandidate_self ..⟩
        · exact ⟨candidate, (SignalStore.candidates_putCandidate_of_ne _ same).trans stored⟩
      · rw [candidateOf_write_of_ne (distinct earlier member), named]
    · refine ⟨⟨(acceptanceOf naming signal store).candidate, ?_⟩, written anchor among⟩
      rw [candidates_write]
      exact SignalStore.candidates_putCandidate_self ..
  · intro other member
    rcases mem_append.1 member with earlier | new
    · obtain ⟨id, named, under⟩ := indexed.complete other earlier
      refine ⟨id, ?_, fun own among => mem_anchorIndex_write.2 (.inl (under own among))⟩
      rw [candidateOf_write_of_ne (distinct other earlier), named]
    · obtain rfl := mem_singleton.1 new
      refine ⟨_, candidateOf_write_self, fun own among => mem_anchorIndex_write.2 (.inr ?_)⟩
      exact ⟨rfl, own, mem_strongAnchors_mergeSignal.2 (.inr among), rfl⟩

theorem Indexed.of_clock (now : ℤ) :
    Indexed naming incidentType accepted { store with clock := now } :=
  ⟨indexed.fresh, indexed.typed, indexed.anchored, indexed.sound, indexed.complete⟩

/-- A signal under a new id is accepted, and written. -/
theorem transact_arrive {arrival : Arrival}
    (distinct : ∀ earlier ∈ accepted, earlier.signalId ≠ arrival.signal.signalId) :
    transact (arrive naming) store arrival =
      (acceptanceOf naming arrival.signal { store with clock := arrival.now }).write naming
        { store with clock := arrival.now } := by
  have fresh : store.signals arrival.signal.signalId = none := by
    by_contra present
    obtain ⟨stored, found⟩ := Option.ne_none_iff_exists'.1 present
    obtain ⟨earlier, member, sameId⟩ := indexed.fresh _ stored found
    exact distinct earlier member sameId
  have accepts : arrive naming arrival store =
      .ok ((acceptanceOf naming arrival.signal { store with clock := arrival.now }).result,
        (acceptanceOf naming arrival.signal { store with clock := arrival.now }).write naming
          { store with clock := arrival.now }) := by
    simp [arrive, accept, fresh]
  exact transact_of_ok accepts

end

end Arriving

/-! ## The grouping -/

/-- **The correlator groups greedily.**  Signals of one type under pairwise different ids
are indexed, and grouped by their shared anchors. -/
theorem greedy_run (naming : Naming) (incidentType : String) (arrivals : List Arrival)
    (ofType : ∀ arrival ∈ arrivals, arrival.signal.incidentType = incidentType)
    (distinct : (arrivals.map fun arrival => arrival.signal.signalId).Nodup) :
    Indexed naming incidentType (arrivals.map Arrival.signal) (afterArrivals naming arrivals) ∧
      Greedy (SharesAnchor naming) (fun signal => some (candidateId naming signal))
        (arrivals.map Arrival.signal) (candidateOf (afterArrivals naming arrivals)) := by
  induction arrivals using List.reverseRecOn with
  | nil =>
      refine ⟨⟨nofun, nofun, nofun, fun _ _ listed => ?_, nofun⟩, .nil⟩
      exact absurd listed not_mem_nil
  | append_singleton front last ih =>
      rw [map_append, nodup_append] at distinct
      obtain ⟨frontDistinct, -, apart⟩ := distinct
      obtain ⟨indexed, greedy⟩ := ih
        (fun arrival member => ofType arrival (mem_append_left _ member)) frontDistinct
      have lastOfType : last.signal.incidentType = incidentType := ofType last (by simp)
      have others : ∀ earlier ∈ front.map Arrival.signal,
          earlier.signalId ≠ last.signal.signalId := by
        intro earlier member
        obtain ⟨arrival, present, rfl⟩ := mem_map.1 member
        exact apart _ (mem_map.2 ⟨arrival, present, rfl⟩) _ (by simp)
      have after : afterArrivals naming (front ++ [last]) =
          (acceptanceOf naming last.signal
            { afterArrivals naming front with clock := last.now }).write naming
              { afterArrivals naming front with clock := last.now } := by
        rw [afterArrivals, run_append]
        exact transact_arrive indexed others
      have now := indexed.of_clock last.now
      rw [map_append, map_singleton, after]
      refine ⟨now.write lastOfType others, ?_⟩
      refine (greedy.congr fun earlier member => ?_).snoc ?_
      · exact candidateOf_write_of_ne (others earlier member)
      · rw [candidateOf_write_self]
        rcases now.placed lastOfType with alone | ⟨earlier, member, sharing, joined⟩
        · exact .inl alone
        · refine .inr ⟨earlier, member, sharing, ?_⟩
          rw [joined, candidateOf_write_of_ne (others earlier member)]

/-- **When the grouping does not depend on the order of arrival.**  Signals of one type
under pairwise different ids all have a candidate, in every order.  Those that share an
anchor are always together and every order gives the same groups, exactly when the
links between the signals (a shared anchor, or the same id for a new candidate)
compose. -/
theorem orderFree_arrivals_iff (naming : Naming) (signals : List SignalItem)
    (incidentType : String) (ofType : ∀ signal ∈ signals, signal.incidentType = incidentType)
    (distinct : (signals.map SignalItem.signalId).Nodup) :
    (∀ arrivals, (arrivals.map Arrival.signal).Perm signals → ∀ signal ∈ signals,
      ∃ candidateId, candidateOf (afterArrivals naming arrivals) signal = some candidateId) ∧
    (OrderFree (List.map Arrival.signal) (SharesAnchor naming) signals
        (fun arrivals => candidateOf (afterArrivals naming arrivals)) ↔
      LinksCompose (SharesAnchor naming) (fun signal => some (candidateId naming signal))
        signals) := by
  have grouped : ∀ arrivals, (arrivals.map Arrival.signal).Perm signals →
      Indexed naming incidentType (arrivals.map Arrival.signal) (afterArrivals naming arrivals) ∧
        Greedy (SharesAnchor naming) (fun signal => some (candidateId naming signal))
          (arrivals.map Arrival.signal) (candidateOf (afterArrivals naming arrivals)) := by
    intro arrivals permuted
    refine greedy_run naming incidentType arrivals (fun arrival member => ?_) ?_
    · exact ofType _ (permuted.mem_iff.1 (mem_map_of_mem member))
    · have ids := (permuted.map SignalItem.signalId).nodup_iff.2 distinct
      rwa [map_map] at ids
  constructor
  · intro arrivals permuted signal member
    obtain ⟨candidateId, named, -⟩ :=
      (grouped arrivals permuted).1.complete signal (permuted.mem_iff.2 member)
    exact ⟨candidateId, named⟩
  · refine orderFree_iff (fun _ _ => SharesAnchor.symm) (fun order _ => ?_)
      fun arrivals permuted => (grouped arrivals permuted).2
    refine ⟨order.map fun signal => { signal, now := 0 }, ?_⟩
    rw [map_map]
    exact List.map_id order

/-- A signal from one outlet about some vulnerabilities. -/
def advisory (signalId : String) (cves : List String) : SignalItem where
  signalId
  sourceRole := .signal
  sourceFamily := "vendor"
  observedAt := 0
  anchors := Dict.empty.set "cve" cves

/-- Three advisories, two of which name the same vulnerability. -/
def advisories : List SignalItem :=
  [advisory "first" ["CVE-1"], advisory "second" ["cve-1 ", "CVE-2"], advisory "third" ["CVE-3"]]

theorem orderFree_arrivals_iff_advisories :
    OrderFree (List.map Arrival.signal) (SharesAnchor plainNaming) advisories
      (fun arrivals => candidateOf (afterArrivals plainNaming arrivals)) :=
  (orderFree_arrivals_iff plainNaming advisories "security-incident" (by decide)
    (by decide)).2.2 (by unfold LinksCompose Linked; decide +kernel)

/-- **The grouping depends on the order.**  Two advisories with nothing in common start
two candidates; a third one that names both vulnerabilities joins one of them only,
and so is apart from a signal with which it shares an anchor. -/
theorem grouping_depends_on_order :
    ¬ ∀ (signals : List SignalItem) (incidentType : String),
      (∀ signal ∈ signals, signal.incidentType = incidentType) →
      (signals.map SignalItem.signalId).Nodup →
        OrderFree (List.map Arrival.signal) (SharesAnchor plainNaming) signals
          (fun arrivals => candidateOf (afterArrivals plainNaming arrivals)) := by
  intro always
  let left := advisory "left" ["CVE-1"]
  let right := advisory "right" ["CVE-2"]
  let bridge := advisory "bridge" ["CVE-1", "CVE-2"]
  have together := (always [left, right, bridge] "security-incident" (by decide) (by decide)).1
    [⟨left, 0⟩, ⟨right, 0⟩, ⟨bridge, 0⟩] (List.Perm.refl _)
  have withLeft := together left (by simp) bridge (by simp)
    ⟨("cve", "CVE-1"), by decide, ("cve", "CVE-1"), by decide, rfl, rfl⟩
  have withRight := together right (by simp) bridge (by simp)
    ⟨("cve", "CVE-2"), by decide, ("cve", "CVE-2"), by decide, rfl, rfl⟩
  have apart : candidateOf (afterArrivals plainNaming [⟨left, 0⟩, ⟨right, 0⟩, ⟨bridge, 0⟩]) left ≠
      candidateOf (afterArrivals plainNaming [⟨left, 0⟩, ⟨right, 0⟩, ⟨bridge, 0⟩]) right := by
    decide +kernel
  exact apart (withLeft.trans withRight.symm)

end SecFusion.Intelligence
