import SecFusion.Foundations.Dict
import SecFusion.Foundations.Interleaving
import SecFusion.Foundations.Text
import SecFusion.Raised
import SecFusion.Sources.Contracts

/-!
# The incident correlator

The model of `packages/intelligence/incident/correlator.py` over the store of
`incident/redis.py`, whose entries do not expire here.  A signal joins the stored
candidate that shares most of its strong anchors, or starts a candidate of its own.

* `accept` is one call with the store to itself.
* `correlator` is the same call one exchange with the store at a time, so that
  calls interleave: `AcceptTrip` is the exchange that a call makes next.  Alone it
  does what `accept` does (`alone_accept`).
* Two operations on texts are parameters, gathered in `Naming`: nothing here
  depends on what they compute.

Instants are in milliseconds.
-/

namespace SecFusion.Intelligence

open Foundations SecFusion.Sources

/-! ## Documents -/

/-- A signal, as far as correlation looks at it. -/
structure SignalItem where
  signalId : String
  sourceRole : SourceRole
  sourceFamily : String
  upstreamSource : Option String := none
  observedAt : ℤ
  incidentType : String := "security-incident"
  anchors : Dict String (List String) := Dict.empty
  unresolvedQuestions : List String := []
  incidentCandidateId : Option String := none
  deriving DecidableEq

/-- `self.upstream_source or self.source_family` -/
def SignalItem.independenceKey (signal : SignalItem) : String :=
  match signal.upstreamSource with
  | none | some "" => signal.sourceFamily
  | some upstream => upstream

structure IncidentCandidate where
  (candidateId incidentType : String)
  anchorSet : Dict String (List String) := Dict.empty
  sourceDiversity : List String := []
  independentSourceCount : ℕ := 0
  signalIds : List String := []
  watchPriority : ℕ := 50
  nextPollAt : Option ℤ := none
  lastMaterialChange : ℤ
  unresolvedQuestions : List String := []

structure IncidentSignalResult where
  (signalId incidentCandidateId : String)
  availableAt : ℤ
  materialChange : Bool
  sourceRole : SourceRole
  nextWatchAt : Option ℤ

/-- `str.lower`, and the text of `uuid5` in the namespace of URLs. -/
structure Naming where
  (lower uuid5 : String → String)

/-- Texts as they are: a name is its own identifier. -/
def plainNaming : Naming where
  lower text := ofList (text.toList.map Char.toLower)
  uuid5 name := name

/-! ## The store -/

/-- What the correlator keeps, and the clock of its host. -/
structure SignalStore where
  clock : ℤ := 0
  signals : String → Option SignalItem := fun _ => none
  candidates : String → Option IncidentCandidate := fun _ => none
  /-- The sets of candidates under the anchor keys. -/
  anchorIndex : String → List String := fun _ => []
  watch : String → Option ℤ := fun _ => none

section Store

variable (naming : Naming)

/-- `_anchor_key` -/
def anchorKey (anchor : String × String) : String :=
  s!"incident:anchor:{anchor.1}:{naming.lower (strip anchor.2)}"

namespace SignalStore

def putSignal (store : SignalStore) (signal : SignalItem) : SignalStore :=
  { store with signals := update store.signals signal.signalId (some signal) }

def putCandidate (store : SignalStore) (candidate : IncidentCandidate) : SignalStore :=
  { store with
    candidates := update store.candidates candidate.candidateId (some candidate) }

@[simp] theorem signals_putSignal_self (store : SignalStore) (signal : SignalItem) :
    (store.putSignal signal).signals signal.signalId = some signal :=
  update_self ..

theorem signals_putSignal_of_ne (store : SignalStore) {signal : SignalItem} {signalId : String}
    (differs : signalId ≠ signal.signalId) :
    (store.putSignal signal).signals signalId = store.signals signalId :=
  update_of_ne differs ..

@[simp] theorem candidates_putCandidate_self (store : SignalStore)
    (candidate : IncidentCandidate) :
    (store.putCandidate candidate).candidates candidate.candidateId = some candidate :=
  update_self ..

theorem candidates_putCandidate_of_ne (store : SignalStore) {candidate : IncidentCandidate}
    {candidateId : String} (differs : candidateId ≠ candidate.candidateId) :
    (store.putCandidate candidate).candidates candidateId = store.candidates candidateId :=
  update_of_ne differs ..

def candidateIdsForAnchor (store : SignalStore) (anchor : String × String) : List String :=
  store.anchorIndex (anchorKey naming anchor)

def indexCandidateAnchor (store : SignalStore) (candidateId : String)
    (anchor : String × String) : SignalStore :=
  { store with
    anchorIndex := update store.anchorIndex (anchorKey naming anchor)
      (store.anchorIndex (anchorKey naming anchor) |>.insert candidateId) }

/-- The stored candidate, if it is one of the signal's incident type. -/
def sameTypeCandidate (store : SignalStore) (signal : SignalItem) (candidateId : String) :
    Option IncidentCandidate :=
  (store.candidates candidateId).filter fun candidate =>
    candidate.incidentType = signal.incidentType

def scheduleWatch (store : SignalStore) (candidateId : String) (nextPollAt : ℤ) : SignalStore :=
  { store with watch := update store.watch candidateId (some nextPollAt) }

end SignalStore

end Store

/-! ## Merging a signal into a candidate -/

/-- `STRONG_ANCHORS` -/
def strongAnchorTypes : List String :=
  ["tx_hash", "address", "cve", "ghsa", "ioc", "domain", "ip", "incident_id", "advisory_id",
    "commit"]

/-- The strong anchors among some, in the order in which loops over them run. -/
def strongAnchors (anchors : Dict String (List String)) : List (String × String) :=
  (anchors.entries.filter fun entry => entry.1 ∈ strongAnchorTypes).flatMap fun entry =>
    entry.2.map (entry.1, ·)

/-- `_candidate_id` -/
def candidateId (naming : Naming) (signal : SignalItem) : String :=
  let strong := (signal.anchors.sorted.filter fun entry => entry.1 ∈ strongAnchorTypes).flatMap
    fun entry => (entry.2.insertionSort (· ≤ ·)).map fun value =>
      s!"{entry.1}:{naming.lower value}"
  let seed := if strong = [] then s!"signal:{signal.signalId}" else "|".intercalate strong
  naming.uuid5 s!"secfusion:incident-candidate:{signal.incidentType}:{seed}"

/-- `_merge_signal` -/
def mergeSignal (candidate : IncidentCandidate) (signal : SignalItem) : IncidentCandidate :=
  let sourceDiversity := sortedSet (signal.independenceKey :: candidate.sourceDiversity)
  { candidate with
    anchorSet := signal.anchors.entries.foldl (fun anchorSet entry =>
      anchorSet.set entry.1 (sortedSet (anchorSet.getD entry.1 [] ++ entry.2)))
      candidate.anchorSet
    signalIds :=
      if signal.signalId ∈ candidate.signalIds then candidate.signalIds
      else candidate.signalIds ++ [signal.signalId]
    sourceDiversity
    independentSourceCount := sourceDiversity.length
    unresolvedQuestions :=
      sortedSet (candidate.unresolvedQuestions ++ signal.unresolvedQuestions)
    lastMaterialChange := max candidate.lastMaterialChange signal.observedAt
    watchPriority := min 100 (50 + 10 * min sourceDiversity.length 5) }

/-- `_strong_overlap_count`, which compares the values as they are written. -/
def strongOverlapCount (candidate : IncidentCandidate) (signal : SignalItem) : ℕ :=
  ((signal.anchors.entries.filter fun entry => entry.1 ∈ strongAnchorTypes).map fun entry =>
    (entry.2.dedup.filter (· ∈ candidate.anchorSet.getD entry.1 [])).length).sum

/-- `_next_poll_at` -/
def nextPollAt (candidate : IncidentCandidate) (now : ℤ) : ℤ :=
  if 90 ≤ candidate.watchPriority then now + 15 * 60 * 1000
  else if 70 ≤ candidate.watchPriority then now + 60 * 60 * 1000
  else now + 4 * 60 * 60 * 1000

/-- `_materially_changed` -/
def materiallyChanged (before after : IncidentCandidate) : Bool :=
  ¬ before.anchorSet.Same after.anchorSet ||
    before.independentSourceCount ≠ after.independentSourceCount ||
    before.unresolvedQuestions ≠ after.unresolvedQuestions ||
    before.signalIds ≠ after.signalIds

/-- The best of the candidates that a search has found, the first among equals. -/
def bestCandidate (signal : SignalItem) (candidates : List IncidentCandidate) :
    Option IncidentCandidate :=
  let key (candidate : IncidentCandidate) : ℕ ×ₗ ℕ ×ₗ ℤ :=
    toLex (strongOverlapCount candidate signal,
      toLex (candidate.independentSourceCount, candidate.lastMaterialChange))
  (candidates.insertionSort fun left right => key right ≤ key left).head?

def newCandidate (naming : Naming) (signal : SignalItem) : IncidentCandidate where
  candidateId := candidateId naming signal
  incidentType := signal.incidentType
  lastMaterialChange := signal.observedAt
  unresolvedQuestions := signal.unresolvedQuestions

/-- What a call has decided to write. -/
structure Acceptance where
  signal : SignalItem
  created : Bool
  (before candidate : IncidentCandidate)
  now : ℤ

/-- The decision of a call that has found a candidate, or none. -/
def decideAcceptance (naming : Naming) (signal : SignalItem) (found : Option IncidentCandidate)
    (now : ℤ) : Acceptance :=
  let before := found.getD (newCandidate naming signal)
  let merged := mergeSignal before signal
  let candidate := { merged with nextPollAt := some (nextPollAt merged now) }
  { signal := { signal with incidentCandidateId := some candidate.candidateId }
    created := found.isNone
    before
    candidate
    now }

def Acceptance.result (acceptance : Acceptance) : IncidentSignalResult where
  signalId := acceptance.signal.signalId
  incidentCandidateId := acceptance.candidate.candidateId
  availableAt := acceptance.now
  materialChange := acceptance.created || materiallyChanged acceptance.before acceptance.candidate
  sourceRole := acceptance.signal.sourceRole
  nextWatchAt := acceptance.candidate.nextPollAt

/-- The answer to a signal that has been accepted before. -/
def replayResult (signal : SignalItem) (candidate : IncidentCandidate) (now : ℤ) :
    IncidentSignalResult where
  signalId := signal.signalId
  incidentCandidateId := candidate.candidateId
  availableAt := now
  materialChange := false
  sourceRole := signal.sourceRole
  nextWatchAt := candidate.nextPollAt

def expiredCandidate : Raised := .runtimeError "signal references an expired incident candidate"

/-! ## One call with the store to itself -/

section Alone

variable (naming : Naming)

/-- `_find_candidate` -/
def findCandidate (signal : SignalItem) (store : SignalStore) : Option IncidentCandidate :=
  let candidateIds := (strongAnchors signal.anchors).flatMap (store.candidateIdsForAnchor naming)
  bestCandidate signal ((sortedSet candidateIds).filterMap (store.sameTypeCandidate signal))

/-- The last write of a call. -/
def Acceptance.scheduled (acceptance : Acceptance) (store : SignalStore) : SignalStore :=
  match acceptance.candidate.nextPollAt with
  | none => store
  | some nextPollAt => store.scheduleWatch acceptance.candidate.candidateId nextPollAt

def Acceptance.write (acceptance : Acceptance) (store : SignalStore) : SignalStore :=
  acceptance.scheduled <|
    (strongAnchors acceptance.candidate.anchorSet).foldl
      (fun store anchor => store.indexCandidateAnchor naming acceptance.candidate.candidateId anchor)
      ((store.putSignal acceptance.signal).putCandidate acceptance.candidate)

/-- `IncidentCorrelator.accept` -/
def accept (signal : SignalItem) (store : SignalStore) :
    Except Raised (IncidentSignalResult × SignalStore) :=
  match (store.signals signal.signalId).bind SignalItem.incidentCandidateId with
  | some candidateId =>
      match store.candidates candidateId with
      | none => .error expiredCandidate
      | some candidate => .ok (replayResult signal candidate store.clock, store)
  | none =>
      let acceptance := decideAcceptance naming signal (findCandidate naming signal store) store.clock
      .ok (acceptance.result, acceptance.write naming store)

end Alone

/-! ## One exchange at a time -/

/-- The exchange with the store that a call makes next. -/
inductive AcceptTrip where
  | getSignal (signal : SignalItem)
  | getReplayed (signal : SignalItem) (candidateId : String)
  | candidateIds (signal : SignalItem) (anchor : String × String)
      (rest : List (String × String)) (found : List String)
  | getCandidate (signal : SignalItem) (candidateId : String) (rest : List String)
      (candidates : List IncidentCandidate)
  | putSignal (acceptance : Acceptance)
  | putCandidate (acceptance : Acceptance)
  | indexAnchor (acceptance : Acceptance) (anchor : String × String)
      (rest : List (String × String))
  | scheduleWatch (acceptance : Acceptance) (nextPollAt : ℤ)

/-- A call's signal, kept beside its answer. -/
abbrev Accepted := SignalItem × IncidentSignalResult

section Trips

variable (naming : Naming)

/-- Where a call goes on that has candidates still to read. -/
def gather (signal : SignalItem) (now : ℤ) :
    List String → List IncidentCandidate → AcceptTrip
  | [], candidates =>
      .putSignal (decideAcceptance naming signal (bestCandidate signal candidates) now)
  | candidateId :: rest, candidates => .getCandidate signal candidateId rest candidates

/-- Where a call goes on that has anchors still to look up. -/
def search (signal : SignalItem) (now : ℤ) :
    List (String × String) → List String → AcceptTrip
  | [], found => gather naming signal now (sortedSet found) []
  | anchor :: rest, found => .candidateIds signal anchor rest found

/-- Where a call goes on that has anchors still to index. -/
def index (acceptance : Acceptance) :
    List (String × String) → Turn AcceptTrip Accepted Raised
  | [] =>
      match acceptance.candidate.nextPollAt with
      | none => .returned (acceptance.signal, acceptance.result)
      | some nextPollAt => .goesOn (.scheduleWatch acceptance nextPollAt)
  | anchor :: rest => .goesOn (.indexAnchor acceptance anchor rest)

def AcceptTrip.take : AcceptTrip → SignalStore → Turn AcceptTrip Accepted Raised × SignalStore
  | getSignal signal, store =>
      match (store.signals signal.signalId).bind SignalItem.incidentCandidateId with
      | some candidateId => (.goesOn (.getReplayed signal candidateId), store)
      | none =>
          (.goesOn (search naming signal store.clock (strongAnchors signal.anchors) []), store)
  | getReplayed signal candidateId, store =>
      match store.candidates candidateId with
      | none => (.raised expiredCandidate, store)
      | some candidate => (.returned (signal, replayResult signal candidate store.clock), store)
  | candidateIds signal anchor rest found, store =>
      (.goesOn (search naming signal store.clock rest
        (found ++ store.candidateIdsForAnchor naming anchor)), store)
  | getCandidate signal candidateId rest candidates, store =>
      (.goesOn (gather naming signal store.clock rest
        (candidates ++ (store.sameTypeCandidate signal candidateId).toList)), store)
  | putSignal acceptance, store =>
      (.goesOn (.putCandidate acceptance), store.putSignal acceptance.signal)
  | putCandidate acceptance, store =>
      (index acceptance (strongAnchors acceptance.candidate.anchorSet),
        store.putCandidate acceptance.candidate)
  | indexAnchor acceptance anchor rest, store =>
      (index acceptance rest,
        store.indexCandidateAnchor naming acceptance.candidate.candidateId anchor)
  | scheduleWatch acceptance nextPollAt, store =>
      (.returned (acceptance.signal, acceptance.result),
        store.scheduleWatch acceptance.candidate.candidateId nextPollAt)

/-- The correlator as a service; the event of the store is that the clock moves on. -/
def correlator : Service SignalItem SignalStore AcceptTrip Accepted Raised ℕ where
  enter := .getSignal
  trip := AcceptTrip.take naming
  occur milliseconds store := { store with clock := store.clock + milliseconds }

variable {naming}

theorem alone_of_index {acceptance : Acceptance} {call : AcceptTrip} {before middle : SignalStore}
    {anchors : List (String × String)}
    (took : (correlator naming).trip call before = (index acceptance anchors, middle)) :
    Alone (correlator naming) call before
      (.returned (acceptance.signal, acceptance.result),
        acceptance.scheduled (anchors.foldl (fun store anchor =>
          store.indexCandidateAnchor naming acceptance.candidate.candidateId anchor) middle)) := by
  induction anchors generalizing call before middle with
  | nil =>
      cases polled : acceptance.candidate.nextPollAt with
      | none =>
          simp only [index, polled] at took
          simp only [Acceptance.scheduled, polled, foldl_nil]
          exact .returned took
      | some nextPollAt =>
          simp only [index, polled] at took
          simp only [Acceptance.scheduled, polled, foldl_nil]
          exact .goesOn took (.returned rfl)
  | cons anchor rest ih => exact .goesOn took (ih rfl)

theorem alone_gather (signal : SignalItem) (store : SignalStore) (ids : List String)
    (candidates : List IncidentCandidate) :
    let acceptance := decideAcceptance naming signal
      (bestCandidate signal (candidates ++ ids.filterMap (store.sameTypeCandidate signal)))
      store.clock
    Alone (correlator naming) (gather naming signal store.clock ids candidates) store
      (.returned (acceptance.signal, acceptance.result), acceptance.write naming store) := by
  induction ids generalizing candidates with
  | nil =>
      rw [List.filterMap_nil, append_nil]
      exact .goesOn rfl (alone_of_index rfl)
  | cons candidateId rest ih =>
      have later := ih (candidates ++ (store.sameTypeCandidate signal candidateId).toList)
      refine .goesOn rfl ?_
      cases read : store.sameTypeCandidate signal candidateId with
      | none =>
          rw [read, Option.toList_none, append_nil] at later
          rwa [List.filterMap_cons_none read, Option.toList_none, append_nil]
      | some candidate =>
          rw [read, append_assoc] at later
          rwa [List.filterMap_cons_some read]

theorem alone_search (signal : SignalItem) (store : SignalStore)
    (anchors : List (String × String)) (found : List String) :
    let acceptance := decideAcceptance naming signal (bestCandidate signal
      ((sortedSet (found ++ anchors.flatMap (store.candidateIdsForAnchor naming))).filterMap
        (store.sameTypeCandidate signal))) store.clock
    Alone (correlator naming) (search naming signal store.clock anchors found) store
      (.returned (acceptance.signal, acceptance.result), acceptance.write naming store) := by
  induction anchors generalizing found with
  | nil =>
      rw [List.flatMap_nil, append_nil]
      exact alone_gather signal store _ []
  | cons anchor rest ih =>
      have later := ih (found ++ store.candidateIdsForAnchor naming anchor)
      rw [append_assoc, ← List.flatMap_cons] at later
      exact .goesOn rfl later

/-- **Alone, a call does what `accept` does.**  It answers as `accept` answers and
leaves the same store. -/
theorem alone_accept {signal : SignalItem} {store next : SignalStore}
    {result : IncidentSignalResult} (ok : accept naming signal store = .ok (result, next)) :
    ∃ accepted : SignalItem, accepted.signalId = signal.signalId ∧
      Alone (correlator naming) (.getSignal signal) store (.returned (accepted, result), next) := by
  unfold accept at ok
  split at ok
  next candidateId replayed =>
    split at ok
    next => cases ok
    next candidate stored =>
      cases ok
      have first : (correlator naming).trip (.getSignal signal) store =
          (.goesOn (.getReplayed signal candidateId), store) := by
        simp [correlator, AcceptTrip.take, replayed]
      have second : (correlator naming).trip (.getReplayed signal candidateId) store =
          (.returned (signal, replayResult signal candidate store.clock), store) := by
        simp [correlator, AcceptTrip.take, stored]
      exact ⟨signal, rfl, .goesOn first (.returned second)⟩
  next fresh =>
    cases ok
    have first : (correlator naming).trip (.getSignal signal) store =
        (.goesOn (search naming signal store.clock (strongAnchors signal.anchors) []), store) := by
      simp [correlator, AcceptTrip.take, fresh]
    refine ⟨(decideAcceptance naming signal (findCandidate naming signal store) store.clock).signal,
      rfl, .goesOn first ?_⟩
    exact alone_search signal store (strongAnchors signal.anchors) []

/-- `accept` on a store with the answers given so far. -/
def acceptNext (naming : Naming) (signal : SignalItem)
    (state : SignalStore × List IncidentSignalResult) :
    Except Raised (Unit × SignalStore × List IncidentSignalResult) := do
  let (result, next) ← accept naming signal state.1
  return ((), next, state.2 ++ [result])

theorem alone_acceptNext (signal : SignalItem) (store : SignalStore) (answers : List Accepted) :
    ∃ count next accepted, run (concurrently (correlator naming)) { store, answers }
        (.begins signal :: List.replicate count (.proceeds 0)) =
          { store := next, answers := accepted } ∧
      (next, accepted.map Prod.snd) =
        transact (acceptNext naming) (store, answers.map Prod.snd) signal := by
  cases answered : accept naming signal store with
  | error raised =>
      refine ⟨2, store, answers, ?_, by simp [transact, acceptNext, answered]⟩
      unfold accept at answered
      split at answered
      next candidateId replayed =>
        split at answered
        next missing =>
          simp [transact, concurrently, Concurrent.proceed, correlator, AcceptTrip.take,
            List.replicate, replayed, missing]
        next => cases answered
      next => cases answered
  | ok outcome =>
      obtain ⟨result, next⟩ := outcome
      obtain ⟨accepted, -, alone⟩ := alone_accept answered
      obtain ⟨count, reaches⟩ := alone.run answers
      exact ⟨count, next, answers ++ [(accepted, result)], reaches,
        by simp [transact, acceptNext, answered]⟩

/-- **Calls one after another** do what `accept` does, each with its round trips to itself. -/
theorem accepts_one_by_one (signals : List SignalItem) (store : SignalStore)
    (answers : List Accepted) :
    ∃ trips : List ℕ, trips.length = signals.length ∧
      let state := run (concurrently (correlator naming)) { store, answers }
        ((signals.zip trips).flatMap fun call =>
          .begins call.1 :: List.replicate call.2 (.proceeds 0))
      state.calls = [] ∧ (state.store, state.answers.map Prod.snd) =
        run (acceptNext naming) (store, answers.map Prod.snd) signals := by
  induction signals generalizing store answers with
  | nil => exact ⟨[], rfl, rfl, rfl⟩
  | cons signal rest ih =>
      obtain ⟨count, next, accepted, reaches, same⟩ := alone_acceptNext signal store answers
      obtain ⟨trips, long, idle, ends⟩ := ih next accepted
      refine ⟨count :: trips, congrArg (· + 1) long, ?_⟩
      rw [List.zip_cons_cons, List.flatMap_cons, run_append, reaches, run_cons, ← same]
      exact ⟨idle, ends⟩

end Trips

end SecFusion.Intelligence
