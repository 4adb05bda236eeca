import SecFusion.Intelligence.Correlator

/-!
# What supports a promotion

The model of `IncidentPromotionPolicy.decide` and `_select_supporting_signals` of
`packages/intelligence/incident/promotion.py`.  A candidate is promoted for a reason that
its signals give, and the signals that support that reason become its evidence.

The reasons that one signal can give are selected for, so what is selected gives them again.
Corroboration takes two signals that share an anchor, and selected are the two earliest of
different sources, whether they share one or not.
-/

namespace SecFusion.Intelligence

open Foundations SecFusion.Sources

/-! ## Decisions -/

/-- A candidate, with the mark of an analyst that promotion looks at. -/
structure PromotionCandidate extends IncidentCandidate where
  pinned : Bool := false

/-- The reasons of a promotion, from the strongest to the weakest. -/
inductive PromotionReason where
  | analystPin
  | primaryOrAuthority
  | directEvidenceAnchor
  | independentCorroboration
  deriving DecidableEq

def PromotionReason.value : PromotionReason → String
  | .analystPin => "analyst_pin"
  | .primaryOrAuthority => "primary_or_authority"
  | .directEvidenceAnchor => "direct_evidence_anchor"
  | .independentCorroboration => "independent_corroboration"

/-- How soon `decide` asks for a reason. -/
def PromotionReason.rank : PromotionReason → ℕ
  | .analystPin => 0
  | .primaryOrAuthority => 1
  | .directEvidenceAnchor => 2
  | .independentCorroboration => 3

/-- `IncidentPromotionDecision`. -/
structure IncidentPromotionDecision where
  eligible : Bool
  reason : Option PromotionReason := none
  deriving DecidableEq

/-- `DIRECT_EVIDENCE_ANCHORS` -/
def directEvidenceAnchors : List String := ["tx_hash", "ioc", "advisory_id", "commit"]

/-- The signal comes from a primary source or an authority. -/
def SignalItem.fromAuthority (signal : SignalItem) : Bool :=
  decide (signal.sourceRole = .primary ∨ signal.sourceRole = .authority)

/-- The signal has an anchor that is evidence itself. -/
def SignalItem.hasDirectAnchor (signal : SignalItem) : Bool :=
  signal.anchors.entries.any fun entry => entry.1 ∈ directEvidenceAnchors && !entry.2.isEmpty

section Naming

variable (naming : Naming)

/-- The keys under which a signal supports an anchor. -/
def supportKeys (signal : SignalItem) : List (String × String) :=
  (strongAnchors signal.anchors).map fun anchor => (anchor.1, naming.lower anchor.2)

/-- The sources that support an anchor, each once. -/
def supporters (signals : List SignalItem) (anchor : String × String) : List String :=
  ((signals.filter fun signal => (supportKeys naming signal).contains anchor).map
    (·.independenceKey)).dedup

/-- `_has_independent_anchor_corroboration` -/
def hasIndependentAnchorCorroboration (signals : List SignalItem) : Bool :=
  (signals.flatMap (supportKeys naming)).any fun anchor =>
    2 ≤ (supporters naming signals anchor).length

/-- `IncidentPromotionPolicy.decide` -/
def IncidentPromotionPolicy.decide (candidate : PromotionCandidate) (signals : List SignalItem) :
    IncidentPromotionDecision :=
  if candidate.pinned then ⟨true, some .analystPin⟩
  else if signals.any (·.fromAuthority) then ⟨true, some .primaryOrAuthority⟩
  else if signals.any (·.hasDirectAnchor) then ⟨true, some .directEvidenceAnchor⟩
  else if hasIndependentAnchorCorroboration naming signals then
    ⟨true, some .independentCorroboration⟩
  else ⟨false, none⟩

end Naming

/-! ## Supporting signals -/

/-- `max(signals, key=lambda item: item.observed_at)`: of several the first. -/
def latestSignal? (signals : List SignalItem) : Option SignalItem :=
  signals.foldl (fun latest signal =>
    match latest with
    | none => some signal
    | some best => if best.observedAt < signal.observedAt then some signal else some best) none

/-- Those signals, or the latest of all when there are none. -/
def orLatest (preferred signals : List SignalItem) : Except Raised (List SignalItem) :=
  if preferred = [] then
    (fetch (latestSignal? signals) (.valueError "max() iterable argument is empty")).map ([·])
  else .ok preferred

/-- The loop over sorted signals: the first of each source that is new, up to a number. -/
def selectDistinct (seen : List String) : ℕ → List SignalItem → List SignalItem
  | 0, _ => []
  | _ + 1, [] => []
  | wanted + 1, signal :: rest =>
      if signal.independenceKey ∈ seen then selectDistinct seen (wanted + 1) rest
      else signal :: selectDistinct (signal.independenceKey :: seen) wanted rest

/-- `sorted(signals, key=lambda item: item.observed_at)` -/
def byObservation (signals : List SignalItem) : List SignalItem :=
  signals.insertionSort fun first second => first.observedAt ≤ second.observedAt

/-- `_select_supporting_signals` -/
def selectSupportingSignals (signals : List SignalItem) :
    PromotionReason → Except Raised (List SignalItem)
  | .primaryOrAuthority => orLatest (signals.filter (·.fromAuthority)) signals
  | .directEvidenceAnchor => orLatest (signals.filter (·.hasDirectAnchor)) signals
  | .independentCorroboration => .ok (selectDistinct [] 2 (byObservation signals))
  | .analystPin => orLatest [] signals

/-! ## Corroboration -/

variable {naming : Naming} {candidate : PromotionCandidate} {signals : List SignalItem}

/-- The two signals have a strong anchor in common. -/
def SharesStrongAnchor (naming : Naming) (first second : SignalItem) : Prop :=
  ∃ anchor ∈ supportKeys naming first, anchor ∈ supportKeys naming second

theorem mem_supporters {anchor : String × String} {source : String} :
    source ∈ supporters naming signals anchor ↔
      ∃ signal ∈ signals, anchor ∈ supportKeys naming signal ∧ signal.independenceKey = source := by
  simp [supporters, and_assoc]

/-- Corroborated is what two signals of different sources share. -/
theorem hasIndependentAnchorCorroboration_iff :
    hasIndependentAnchorCorroboration naming signals = true ↔
      ∃ first ∈ signals, ∃ second ∈ signals, first.independenceKey ≠ second.independenceKey ∧
        SharesStrongAnchor naming first second := by
  rw [hasIndependentAnchorCorroboration, any_eq_true]
  constructor
  · rintro ⟨anchor, _, enough⟩
    have nodup : (supporters naming signals anchor).Nodup := nodup_dedup _
    rw [decide_eq_true_eq] at enough
    rcases listed : supporters naming signals anchor with _ | ⟨one, _ | ⟨other, rest⟩⟩
    · simp [listed] at enough
    · simp [listed] at enough
    rw [listed] at nodup
    have oneListed : one ∈ supporters naming signals anchor := by simp [listed]
    have otherListed : other ∈ supporters naming signals anchor := by simp [listed]
    obtain ⟨first, firstIn, firstHas, rfl⟩ := mem_supporters.1 oneListed
    obtain ⟨second, secondIn, secondHas, rfl⟩ := mem_supporters.1 otherListed
    have apart : first.independenceKey ≠ second.independenceKey := fun same =>
      (nodup_cons.1 nodup).1 (same ▸ mem_cons_self)
    exact ⟨first, firstIn, second, secondIn, apart, anchor, firstHas, secondHas⟩
  · rintro ⟨first, firstIn, second, secondIn, apart, anchor, firstHas, secondHas⟩
    refine ⟨anchor, mem_flatMap.2 ⟨first, firstIn, firstHas⟩, ?_⟩
    have pair : [first.independenceKey, second.independenceKey].Nodup := by simpa using apart
    have listed : [first.independenceKey, second.independenceKey] ⊆
        supporters naming signals anchor := by
      intro source member
      rcases mem_pair.1 member with rfl | rfl
      · exact mem_supporters.2 ⟨first, firstIn, firstHas, rfl⟩
      · exact mem_supporters.2 ⟨second, secondIn, secondHas, rfl⟩
    exact decide_eq_true (pair.subperm listed).length_le

/-- Of a signal and those after it the loop selects it, and the first of another source. -/
theorem selectDistinct_two (first : SignalItem) (rest : List SignalItem) :
    selectDistinct [] 2 (first :: rest) =
      first :: (rest.find? fun signal => signal.independenceKey ≠ first.independenceKey).toList := by
  rw [selectDistinct, if_neg not_mem_nil]
  congr 1
  induction rest with
  | nil => rfl
  | cons signal rest ih =>
    rw [selectDistinct]
    by_cases same : signal.independenceKey = first.independenceKey
    · rw [if_pos (by simp [same]), ih, List.find?_cons_of_neg (by simpa using same)]
    · rw [if_neg (by simpa using same), List.find?_cons_of_pos (by simpa using same),
        selectDistinct]
      rfl

/-- The earliest signal and the earliest of another source share a strong anchor. -/
def EarliestShare (naming : Naming) (signals : List SignalItem) : Prop :=
  ∀ first ∈ (byObservation signals).head?,
    ∀ second ∈ (byObservation signals).find? (·.independenceKey ≠ first.independenceKey),
      SharesStrongAnchor naming first second

/-! ## Whether the selected signals support the promotion -/

/-- The signals that are selected for a reason give that reason, or a stronger one. -/
def SupportsItself (naming : Naming) (candidate : PromotionCandidate)
    (signals : List SignalItem) : Prop :=
  ∀ reason, IncidentPromotionPolicy.decide naming candidate signals = ⟨true, some reason⟩ →
    reason ≠ .analystPin →
      ∃ selected stronger, selectSupportingSignals signals reason = .ok selected ∧
        IncidentPromotionPolicy.decide naming candidate selected = ⟨true, some stronger⟩ ∧
        stronger.rank ≤ reason.rank

variable {gives : SignalItem → Bool} {chosen : List SignalItem}

/-- A reason that one signal gives is given by the signals that give it. -/
theorem any_filter_self (said : signals.any gives = true) :
    (signals.filter gives).any gives = true ∧ signals.filter gives ≠ [] := by
  obtain ⟨signal, member, holds⟩ := any_eq_true.1 said
  have kept : signal ∈ signals.filter gives := mem_filter.2 ⟨member, holds⟩
  exact ⟨any_eq_true.2 ⟨signal, kept, holds⟩, ne_nil_of_mem kept⟩

/-- A reason that no signal gives is given by none of those chosen. -/
theorem any_of_subset (unsaid : signals.any gives = false) (among : chosen ⊆ signals) :
    chosen.any gives = false := by
  rw [List.any_eq_false] at unsaid ⊢
  exact fun signal member => unsaid signal (among member)

theorem orLatest_of_said (said : signals.any gives = true) :
    orLatest (signals.filter gives) signals = .ok (signals.filter gives) :=
  if_neg (any_filter_self said).2

/-- A pair of different sources is corroborated when it shares a strong anchor. -/
theorem hasIndependentAnchorCorroboration_pair {first second : SignalItem}
    (apart : second.independenceKey ≠ first.independenceKey) :
    hasIndependentAnchorCorroboration naming [first, second] = true ↔
      SharesStrongAnchor naming first second := by
  rw [hasIndependentAnchorCorroboration_iff]
  constructor
  · rintro ⟨one, oneIn, other, otherIn, differs, anchor, oneHas, otherHas⟩
    rcases mem_pair.1 oneIn with rfl | rfl <;> rcases mem_pair.1 otherIn with rfl | rfl
    · exact absurd rfl differs
    · exact ⟨anchor, oneHas, otherHas⟩
    · exact ⟨anchor, otherHas, oneHas⟩
    · exact absurd rfl differs
  · intro shares
    exact ⟨first, by simp, second, by simp, apart.symm, shares⟩

/-- Corroborated signals have an earliest one, and an earliest one of another source. -/
theorem exists_earliest_of_corroborated
    (corroborated : hasIndependentAnchorCorroboration naming signals = true) :
    ∃ first rest second, byObservation signals = first :: rest ∧
      (rest.find? fun signal => signal.independenceKey ≠ first.independenceKey) = some second := by
  obtain ⟨one, oneIn, other, otherIn, differs, _⟩ :=
    hasIndependentAnchorCorroboration_iff.1 corroborated
  have oneSorted : one ∈ byObservation signals := (mem_insertionSort _).2 oneIn
  have otherSorted : other ∈ byObservation signals := (mem_insertionSort _).2 otherIn
  cases sorted : byObservation signals with
  | nil =>
    rw [sorted] at oneSorted
    cases oneSorted
  | cons first rest =>
    rw [sorted] at oneSorted otherSorted
    -- of two signals of different sources, one is not of the source of the first signal
    have another : ∃ signal ∈ rest, signal.independenceKey ≠ first.independenceKey := by
      rcases mem_cons.1 oneSorted with rfl | later
      · refine ⟨other, (mem_cons.1 otherSorted).resolve_left ?_, differs.symm⟩
        rintro rfl
        exact differs rfl
      · by_cases same : one.independenceKey = first.independenceKey
        · refine ⟨other, (mem_cons.1 otherSorted).resolve_left ?_, fun equal => ?_⟩
          · rintro rfl
            exact differs same
          · exact differs (same.trans equal.symm)
        · exact ⟨one, later, same⟩
    cases found : rest.find? fun signal => signal.independenceKey ≠ first.independenceKey with
    | none =>
      obtain ⟨signal, member, differs⟩ := another
      exact absurd (find?_eq_none.1 found signal member) (by simpa using differs)
    | some second => exact ⟨first, rest, second, rfl, found⟩

section Earliest

variable {first second : SignalItem} {rest : List SignalItem}

/-- Of corroborated signals, the earliest one and the earliest one of another source are
selected. -/
theorem selectSupportingSignals_earliest (sorted : byObservation signals = first :: rest)
    (found : (rest.find? fun signal => signal.independenceKey ≠ first.independenceKey) =
      some second) :
    selectSupportingSignals signals .independentCorroboration = .ok [first, second] ∧
      [first, second] ⊆ signals := by
  constructor
  · rw [selectSupportingSignals, sorted, selectDistinct_two, found]
    rfl
  · have stored : ∀ signal ∈ first :: rest, signal ∈ signals := fun signal member =>
      (mem_insertionSort _).1 (sorted ▸ member)
    intro signal member
    rcases mem_pair.1 member with rfl | rfl
    · exact stored _ mem_cons_self
    · exact stored _ (mem_cons_of_mem _ (mem_of_find?_eq_some found))

theorem earliestShare_iff (sorted : byObservation signals = first :: rest)
    (found : (rest.find? fun signal => signal.independenceKey ≠ first.independenceKey) =
      some second) :
    EarliestShare naming signals ↔ SharesStrongAnchor naming first second := by
  have next : (byObservation signals).find?
      (fun signal => signal.independenceKey ≠ first.independenceKey) = some second := by
    rw [sorted, List.find?_cons_of_neg (by simp), found]
  rw [EarliestShare]
  constructor
  · intro share
    exact share first (by rw [sorted]; rfl) second next
  · rintro shares one oneFirst other otherNext
    rw [sorted] at oneFirst
    obtain rfl : first = one := Option.some.inj oneFirst
    rw [next] at otherNext
    obtain rfl : second = other := Option.some.inj otherNext
    exact shares

end Earliest

/-- Where no signal is enough on its own, corroboration decides, of any part of the signals. -/
theorem decide_of_subset (unpinned : candidate.pinned = false)
    (noAuthority : signals.any (·.fromAuthority) = false)
    (noDirect : signals.any (·.hasDirectAnchor) = false) (within : chosen ⊆ signals) :
    IncidentPromotionPolicy.decide naming candidate chosen =
      if hasIndependentAnchorCorroboration naming chosen = true
        then ⟨true, some .independentCorroboration⟩ else ⟨false, none⟩ := by
  rw [IncidentPromotionPolicy.decide, unpinned, any_of_subset noAuthority within,
    any_of_subset noDirect within]
  rfl

/-- Corroborated signals support themselves exactly when the earliest two do. -/
theorem supports_corroboration_iff (unpinned : candidate.pinned = false)
    (noAuthority : signals.any (·.fromAuthority) = false)
    (noDirect : signals.any (·.hasDirectAnchor) = false)
    (corroborated : hasIndependentAnchorCorroboration naming signals = true) :
    SupportsItself naming candidate signals ↔ EarliestShare naming signals := by
  obtain ⟨first, rest, second, sorted, found⟩ := exists_earliest_of_corroborated corroborated
  obtain ⟨selected, among⟩ := selectSupportingSignals_earliest sorted found
  have apart : second.independenceKey ≠ first.independenceKey := by
    simpa using find?_some found
  have whole : IncidentPromotionPolicy.decide naming candidate signals =
      ⟨true, some .independentCorroboration⟩ :=
    (decide_of_subset unpinned noAuthority noDirect (List.Subset.refl _)).trans
      (if_pos corroborated)
  have again : IncidentPromotionPolicy.decide naming candidate [first, second] = _ :=
    decide_of_subset unpinned noAuthority noDirect among
  rw [earliestShare_iff sorted found, ← hasIndependentAnchorCorroboration_pair apart]
  constructor
  · intro supports
    obtain ⟨chosen, stronger, chosenIs, eligible, _⟩ :=
      supports .independentCorroboration whole nofun
    rw [selected] at chosenIs
    cases chosenIs
    by_contra unshared
    rw [again, if_neg unshared] at eligible
    cases eligible
  · intro shares reason given _
    rw [whole] at given
    cases given
    exact ⟨_, _, selected, again.trans (if_pos shares), le_rfl⟩

/-- The signals selected for a promotion support it exactly when the promotion is pinned or
one signal is enough for it, or nothing is corroborated, or the earliest signal and the earliest
one of another source share a strong anchor. -/
theorem promotion_supported_iff (naming : Naming) (candidate : PromotionCandidate)
    (signals : List SignalItem) :
    SupportsItself naming candidate signals ↔
      candidate.pinned = true ∨ (∃ signal ∈ signals, signal.fromAuthority = true) ∨
        (∃ signal ∈ signals, signal.hasDirectAnchor = true) ∨
        hasIndependentAnchorCorroboration naming signals = false ∨
        EarliestShare naming signals := by
  rw [← any_eq_true, ← any_eq_true]
  cases pinned : candidate.pinned with
  | true =>
    refine iff_of_true (fun reason given pin => ?_) (.inl rfl)
    rw [IncidentPromotionPolicy.decide, pinned] at given
    cases given
    exact absurd rfl pin
  | false =>
    cases authority : signals.any (·.fromAuthority) with
    | true =>
      refine iff_of_true (fun reason given _ => ?_) (.inr (.inl rfl))
      rw [IncidentPromotionPolicy.decide, pinned, authority] at given
      cases given
      refine ⟨_, .primaryOrAuthority, orLatest_of_said authority, ?_, le_rfl⟩
      rw [IncidentPromotionPolicy.decide, pinned, (any_filter_self authority).1]
      rfl
    | false =>
      cases direct : signals.any (·.hasDirectAnchor) with
      | true =>
        refine iff_of_true (fun reason given _ => ?_) (.inr (.inr (.inl rfl)))
        rw [IncidentPromotionPolicy.decide, pinned, authority, direct] at given
        cases given
        refine ⟨_, .directEvidenceAnchor, orLatest_of_said direct, ?_, le_rfl⟩
        rw [IncidentPromotionPolicy.decide, pinned,
          any_of_subset authority (List.filter_subset_self _), (any_filter_self direct).1]
        rfl
      | false =>
        cases corroborated : hasIndependentAnchorCorroboration naming signals with
        | false =>
          refine iff_of_true (fun reason given _ => ?_) (.inr (.inr (.inr (.inl rfl))))
          rw [IncidentPromotionPolicy.decide, pinned, authority, direct, corroborated] at given
          cases given
        | true =>
          rw [supports_corroboration_iff pinned authority direct corroborated]
          simp

/-- A signal of a news source about some domains. -/
def newsSignal (source : String) (observedAt : ℤ) (domains : List String) : SignalItem where
  signalId := source ++ "-signal"
  sourceRole := .signal
  sourceFamily := source
  observedAt
  anchors := Dict.empty.set "domain" domains

/-- A candidate that no analyst has pinned. -/
def newsCandidate : PromotionCandidate where
  candidateId := "candidate-1"
  incidentType := "security-incident"
  lastMaterialChange := 0

/-- Two sources agree on a domain, after a third has reported another. -/
theorem selected_signals_share_nothing :
    ¬ SupportsItself plainNaming newsCandidate
      [newsSignal "first" 1 ["a.example"], newsSignal "second" 2 ["b.example"],
        newsSignal "third" 3 ["b.example"]] := by
  intro supports
  obtain ⟨selected, stronger, chosen, again, _⟩ :=
    supports .independentCorroboration (by decide +kernel) nofun
  have earliest : selected =
      [newsSignal "first" 1 ["a.example"], newsSignal "second" 2 ["b.example"]] :=
    (Except.ok.inj chosen).symm
  rw [earliest] at again
  cases stronger <;> exact absurd again (by decide +kernel)

end SecFusion.Intelligence
