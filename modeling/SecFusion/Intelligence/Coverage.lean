import SecFusion.Intelligence.Correlator

/-!
# What the correlator remembers of a signal

A signal that has been accepted names a candidate, and the candidate should name the
signal back: hold its id and its independence key.  A call writes the signal first and
the candidate after it, so in between only the call itself knows what the candidate
will hold; `Correlated` is the invariant that counts such a call in.

Two things break it, and `Undisturbed` is their absence: a candidate written over one
that has gained something since it was read, and a call lost between its two writes.
In every other history each accepted signal is held once all calls have returned
(`accepted_signal_held`); two calls on signals of one candidate that interleave are
enough to lose one of them (`signal_lost`).
-/

namespace SecFusion.Intelligence

open Foundations
open AcceptTrip (take)

/-! ## Held and recorded signals -/

def IncidentCandidate.Holds (candidate : IncidentCandidate) (signal : SignalItem) : Prop :=
  signal.signalId ∈ candidate.signalIds ∧ signal.independenceKey ∈ candidate.sourceDiversity

/-- What one candidate holds, the other holds too. -/
def IncidentCandidate.Within (left right : IncidentCandidate) : Prop :=
  left.signalIds ⊆ right.signalIds ∧ left.sourceDiversity ⊆ right.sourceDiversity

instance (left right : IncidentCandidate) : Decidable (left.Within right) :=
  inferInstanceAs (Decidable (_ ∧ _))

theorem IncidentCandidate.Holds.within {left right : IncidentCandidate} {signal : SignalItem}
    (holds : left.Holds signal) (within : left.Within right) : right.Holds signal :=
  ⟨within.1 holds.1, within.2 holds.2⟩

/-- A signal is stored under this one's id, names a candidate, and is from the same
independent source. -/
def SignalStore.Records (store : SignalStore) (signal : SignalItem) : Prop :=
  ∃ stored, store.signals signal.signalId = some stored ∧
    stored.incidentCandidateId.isSome ∧ stored.independenceKey = signal.independenceKey

/-- No signal that names a candidate is stored under this one's id, or it is from the
same independent source. -/
def SignalStore.Agrees (store : SignalStore) (signal : SignalItem) : Prop :=
  ∀ stored ∈ store.signals signal.signalId, stored.incidentCandidateId.isSome →
    stored.independenceKey = signal.independenceKey

instance (store : SignalStore) (signal : SignalItem) : Decidable (store.Agrees signal) :=
  inferInstanceAs (Decidable (∀ stored ∈ store.signals signal.signalId, _))

/-- The signal that a call is to write names the candidate that it is to write, which
holds the signal. -/
def Acceptance.Complete (acceptance : Acceptance) : Prop :=
  acceptance.signal.incidentCandidateId = some acceptance.candidate.candidateId ∧
    acceptance.candidate.Holds acceptance.signal

/-- A decision of the correlator is complete: merging a signal makes the candidate hold
it. -/
theorem complete_decideAcceptance (naming : Naming) (signal : SignalItem)
    (found : Option IncidentCandidate) (now : ℤ) :
    (decideAcceptance naming signal found now).Complete := by
  refine ⟨rfl, ?_, ?_⟩
  · show signal.signalId ∈ (mergeSignal _ signal).signalIds
    unfold mergeSignal
    dsimp only
    split_ifs with present
    · exact present
    · simp
  · show signal.independenceKey ∈ (mergeSignal _ signal).sourceDiversity
    simp [mergeSignal]

/-! ## The invariant -/

/-- What is known of a call in progress. -/
def AcceptTrip.Fits (store : SignalStore) : AcceptTrip → Prop
  | putSignal acceptance => acceptance.Complete
  | putCandidate acceptance => acceptance.Complete ∧ store.Records acceptance.signal
  | indexAnchor acceptance _ _ => store.Records acceptance.signal
  | scheduleWatch acceptance _ => store.Records acceptance.signal
  | getReplayed signal _ => store.Records signal
  | _ => True

/-- **The invariant.**  Every stored signal is held by the candidate it names, or by
the candidate that a call is about to write in its place. -/
structure Correlated (state : Concurrent SignalStore AcceptTrip Accepted) : Prop where
  keyed : ∀ signalId signal, state.store.signals signalId = some signal →
    signal.signalId = signalId
  held : ∀ signalId signal candidateId, state.store.signals signalId = some signal →
    signal.incidentCandidateId = some candidateId →
      (∃ candidate, state.store.candidates candidateId = some candidate ∧
        candidate.Holds signal) ∨
      ∃ acceptance, .putCandidate acceptance ∈ state.calls ∧
        acceptance.candidate.candidateId = candidateId ∧ acceptance.candidate.Holds signal
  fits : ∀ call ∈ state.calls, call.Fits state.store
  answered : ∀ accepted ∈ state.answers, state.store.Records accepted.1

/-- What an interleaving must not do.  A candidate is written only over one that holds
no more; a call is lost between its writes only if its candidate would add nothing;
and a signal is not offered under the id of one from another independent source. -/
def AcceptTrip.Undisturbed (store : SignalStore) : AcceptTrip → Prop
  | getSignal signal => store.Agrees signal
  | putSignal acceptance => store.Agrees acceptance.signal
  | putCandidate acceptance =>
      ∀ stored ∈ store.candidates acceptance.candidate.candidateId,
        stored.Within acceptance.candidate
  | _ => True

/-- A call may be lost at this point. -/
def AcceptTrip.Dispensable (store : SignalStore) : AcceptTrip → Prop
  | putCandidate acceptance =>
      ∃ stored ∈ store.candidates acceptance.candidate.candidateId,
        acceptance.candidate.Within stored
  | _ => True

def Undisturbed (state : Concurrent SignalStore AcceptTrip Accepted) :
    Happening SignalItem ℕ → Prop
  | .proceeds position => ∀ call ∈ state.calls[position]?, call.Undisturbed state.store
  | .crashes position => ∀ call ∈ state.calls[position]?, call.Dispensable state.store
  | _ => True

instance (store : SignalStore) : (call : AcceptTrip) → Decidable (call.Undisturbed store)
  | .getSignal signal => inferInstanceAs (Decidable (store.Agrees signal))
  | .putSignal acceptance => inferInstanceAs (Decidable (store.Agrees acceptance.signal))
  | .putCandidate acceptance =>
      inferInstanceAs (Decidable (∀ stored ∈ store.candidates _, stored.Within acceptance.candidate))
  | .getReplayed _ _ | .candidateIds _ _ _ _ | .getCandidate _ _ _ _ | .indexAnchor _ _ _
  | .scheduleWatch _ _ => inferInstanceAs (Decidable True)

instance (store : SignalStore) : (call : AcceptTrip) → Decidable (call.Dispensable store)
  | .putCandidate acceptance =>
      inferInstanceAs (Decidable (∃ stored ∈ store.candidates _, acceptance.candidate.Within stored))
  | .getSignal _ | .putSignal _ | .getReplayed _ _ | .candidateIds _ _ _ _
  | .getCandidate _ _ _ _ | .indexAnchor _ _ _ | .scheduleWatch _ _ =>
      inferInstanceAs (Decidable True)

instance (state : Concurrent SignalStore AcceptTrip Accepted) :
    (happening : Happening SignalItem ℕ) → Decidable (Undisturbed state happening)
  | .proceeds position =>
      inferInstanceAs (Decidable (∀ call ∈ state.calls[position]?, call.Undisturbed state.store))
  | .crashes position =>
      inferInstanceAs (Decidable (∀ call ∈ state.calls[position]?, call.Dispensable state.store))
  | .begins _ | .occurs _ => inferInstanceAs (Decidable True)

/-! ## What a round trip keeps -/

variable {call : AcceptTrip}

section Trips

variable {naming : Naming} {store next : SignalStore} {signal : SignalItem}

/-- A turn is known to leave a call that fits, or to answer a signal that is recorded. -/
def TurnFits (store : SignalStore) : Turn AcceptTrip Accepted Raised → Prop
  | .goesOn call => call.Fits store
  | .returned accepted => store.Records accepted.1
  | .raised _ => True

theorem fits_gather (signal : SignalItem) (now : ℤ) (ids : List String)
    (candidates : List IncidentCandidate) : (gather naming signal now ids candidates).Fits store := by
  cases ids with
  | nil => exact complete_decideAcceptance naming signal _ now
  | cons candidateId rest => trivial

theorem fits_search (signal : SignalItem) (now : ℤ) (anchors : List (String × String))
    (found : List String) : (search naming signal now anchors found).Fits store := by
  cases anchors with
  | nil => exact fits_gather signal now _ []
  | cons anchor rest => trivial

theorem turnFits_index {acceptance : Acceptance} (recorded : store.Records acceptance.signal)
    (anchors : List (String × String)) : TurnFits store (index acceptance anchors) := by
  cases anchors with
  | nil =>
      unfold index
      cases acceptance.candidate.nextPollAt with
      | none => exact recorded
      | some nextPollAt => exact recorded
  | cons anchor rest => exact recorded

/-- Only `put_signal` writes a signal. -/
theorem signals_take (call : AcceptTrip) :
    (call.take naming store).2.signals =
      match call with
      | .putSignal acceptance => (store.putSignal acceptance.signal).signals
      | _ => store.signals := by
  cases call with
  | getSignal signal =>
      rw [take]
      split <;> rfl
  | getReplayed signal candidateId =>
      rw [take]
      split <;> rfl
  | candidateIds | getCandidate | putSignal | putCandidate | indexAnchor | scheduleWatch => rfl

/-- Only `put_candidate` writes a candidate. -/
theorem candidates_take (call : AcceptTrip) :
    (call.take naming store).2.candidates =
      match call with
      | .putCandidate acceptance => (store.putCandidate acceptance.candidate).candidates
      | _ => store.candidates := by
  cases call with
  | getSignal signal =>
      rw [take]
      split <;> rfl
  | getReplayed signal candidateId =>
      rw [take]
      split <;> rfl
  | candidateIds | getCandidate | putSignal | putCandidate | indexAnchor | scheduleWatch => rfl

theorem SignalStore.Records.of_signals (same : next.signals = store.signals)
    (recorded : store.Records signal) : next.Records signal := by
  unfold SignalStore.Records
  rwa [same]

/-- What is recorded stays recorded. -/
theorem SignalStore.Records.take (recorded : store.Records signal)
    (undisturbed : call.Undisturbed store) (fits : call.Fits store) :
    (call.take naming store).2.Records signal := by
  cases call with
  | putSignal acceptance =>
      obtain ⟨stored, found, named, sameKey⟩ := recorded
      by_cases same : acceptance.signal.signalId = signal.signalId
      · refine ⟨acceptance.signal, ?_, by simp [fits.1], ?_⟩
        · simp [signals_take, SignalStore.putSignal, same]
        · rw [← sameKey]
          exact (undisturbed stored (same ▸ found) named).symm
      · refine ⟨stored, ?_, named, sameKey⟩
        simpa [signals_take, SignalStore.putSignal, update_of_ne (Ne.symm same)] using found
  | getSignal | getReplayed | candidateIds | getCandidate | putCandidate | indexAnchor
    | scheduleWatch => exact recorded.of_signals (signals_take _)

theorem AcceptTrip.Fits.take {other : AcceptTrip} (known : other.Fits store)
    (undisturbed : call.Undisturbed store) (fits : call.Fits store) :
    other.Fits (call.take naming store).2 := by
  cases other with
  | putCandidate acceptance => exact ⟨known.1, known.2.take undisturbed fits⟩
  | indexAnchor acceptance anchor rest => exact SignalStore.Records.take known undisturbed fits
  | scheduleWatch acceptance nextPollAt => exact SignalStore.Records.take known undisturbed fits
  | getReplayed signal candidateId => exact SignalStore.Records.take known undisturbed fits
  | putSignal acceptance => exact known
  | getSignal | candidateIds | getCandidate => trivial

/-- Where a round trip leaves its call. -/
theorem turnFits_take (undisturbed : call.Undisturbed store) (fits : call.Fits store) :
    TurnFits (call.take naming store).2 (call.take naming store).1 := by
  cases call with
  | getSignal signal =>
      rw [take]
      split
      next candidateId replayed =>
        obtain ⟨stored, found, named⟩ := bind_eq_some_iff.1 replayed
        have isNamed : stored.incidentCandidateId.isSome := by simp [named]
        exact ⟨stored, found, isNamed, undisturbed stored found isNamed⟩
      next => exact fits_search signal store.clock _ []
  | getReplayed signal candidateId =>
      rw [take]
      split
      · trivial
      · exact fits
  | candidateIds signal anchor rest found => exact fits_search signal store.clock rest _
  | getCandidate signal candidateId rest candidates =>
      exact fits_gather signal store.clock rest _
  | putSignal acceptance =>
      refine ⟨fits, acceptance.signal, ?_, by simp [fits.1], rfl⟩
      simp [take, SignalStore.putSignal]
  | putCandidate acceptance => exact turnFits_index (fits.2.of_signals rfl) _
  | indexAnchor acceptance anchor rest =>
      exact turnFits_index (SignalStore.Records.of_signals rfl fits) rest
  | scheduleWatch acceptance nextPollAt => exact SignalStore.Records.of_signals rfl fits

end Trips

section Steps

variable {naming : Naming} {state next : Concurrent SignalStore AcceptTrip Accepted}

/-- What a state holds of a signal, the next holds too, when the candidates are the same
and no call that was about to write one is gone. -/
theorem held_of_same {signal : SignalItem} {candidateId : String}
    (candidates : next.store.candidates = state.store.candidates)
    (pending : ∀ acceptance, .putCandidate acceptance ∈ state.calls →
      .putCandidate acceptance ∈ next.calls)
    (before : (∃ candidate, state.store.candidates candidateId = some candidate ∧
        candidate.Holds signal) ∨
      ∃ acceptance, .putCandidate acceptance ∈ state.calls ∧
        acceptance.candidate.candidateId = candidateId ∧ acceptance.candidate.Holds signal) :
    (∃ candidate, next.store.candidates candidateId = some candidate ∧ candidate.Holds signal) ∨
      ∃ acceptance, .putCandidate acceptance ∈ next.calls ∧
        acceptance.candidate.candidateId = candidateId ∧ acceptance.candidate.Holds signal := by
  rw [candidates]
  rcases before with stored | ⟨acceptance, waiting, named, holds⟩
  · exact .inl stored
  · exact .inr ⟨acceptance, pending acceptance waiting, named, holds⟩

/-- **What a round trip keeps.**  The next state has the store that the round trip
leaves, the other calls, and what the call has become. -/
theorem Correlated.trip (correlated : Correlated state) (here : call ∈ state.calls)
    (undisturbed : call.Undisturbed state.store)
    (left : next.store = (call.take naming state.store).2)
    (others : ∀ other ∈ state.calls, other ≠ call → other ∈ next.calls)
    (goesOn : ∀ other, (call.take naming state.store).1 = .goesOn other → other ∈ next.calls)
    (calls : ∀ other ∈ next.calls,
      other ∈ state.calls ∨ (call.take naming state.store).1 = .goesOn other)
    (answers : ∀ accepted ∈ next.answers,
      accepted ∈ state.answers ∨ (call.take naming state.store).1 = .returned accepted) :
    Correlated next where
  keyed signalId signal found := by
    rw [left, signals_take] at found
    cases call with
    | putSignal acceptance =>
        dsimp only at found
        by_cases same : signalId = acceptance.signal.signalId
        · subst same
          rw [SignalStore.signals_putSignal_self] at found
          exact (Option.some.inj found) ▸ rfl
        · rw [SignalStore.signals_putSignal_of_ne _ same] at found
          exact correlated.keyed signalId signal found
    | getSignal | getReplayed | candidateIds | getCandidate | putCandidate | indexAnchor
      | scheduleWatch => exact correlated.keyed signalId signal found
  held signalId signal candidateId found named := by
    rw [left, signals_take] at found
    cases call with
    | putSignal acceptance =>
        dsimp only at found
        by_cases same : signalId = acceptance.signal.signalId
        · -- the call itself is about to write the candidate
          subst same
          rw [SignalStore.signals_putSignal_self] at found
          obtain rfl := Option.some.inj found
          have complete := correlated.fits _ here
          refine .inr ⟨acceptance, goesOn _ rfl, ?_, complete.2⟩
          exact mem_unique complete.1 named
        · rw [SignalStore.signals_putSignal_of_ne _ same] at found
          refine held_of_same (by rw [left, candidates_take])
            (fun other waiting => others _ waiting nofun)
            (correlated.held signalId signal candidateId found named)
    | putCandidate acceptance =>
        rcases correlated.held signalId signal candidateId found named with
          ⟨candidate, stored, holds⟩ | ⟨other, waiting, sameId, holds⟩
        · by_cases same : candidateId = acceptance.candidate.candidateId
          · subst same
            refine .inl ⟨acceptance.candidate, ?_, holds.within (undisturbed candidate stored)⟩
            rw [left, candidates_take]
            exact SignalStore.candidates_putCandidate_self ..
          · refine .inl ⟨candidate, ?_, holds⟩
            rw [left, candidates_take]
            exact (SignalStore.candidates_putCandidate_of_ne _ same).trans stored
        · by_cases same : other = acceptance
          · subst same
            refine .inl ⟨other.candidate, ?_, holds⟩
            rw [left, candidates_take, ← sameId]
            exact SignalStore.candidates_putCandidate_self ..
          · refine .inr ⟨other, others _ waiting fun equal => ?_, sameId, holds⟩
            exact same (AcceptTrip.putCandidate.inj equal)
    | getSignal | getReplayed | candidateIds | getCandidate | indexAnchor | scheduleWatch =>
        exact held_of_same (by rw [left, candidates_take])
          (fun other waiting => others _ waiting nofun)
          (correlated.held signalId signal candidateId found named)
  fits other member := by
    rw [left]
    rcases calls other member with earlier | became
    · exact (correlated.fits other earlier).take undisturbed (correlated.fits call here)
    · have known : TurnFits (call.take naming state.store).2 (call.take naming state.store).1 :=
        turnFits_take undisturbed (correlated.fits call here)
      rwa [became] at known
  answered accepted member := by
    rw [left]
    rcases answers accepted member with earlier | given
    · exact (correlated.answered accepted earlier).take undisturbed (correlated.fits call here)
    · have known : TurnFits (call.take naming state.store).2 (call.take naming state.store).1 :=
        turnFits_take undisturbed (correlated.fits call here)
      rwa [given] at known

/-- **What a happening keeps.** -/
theorem Correlated.happens (correlated : Correlated state) {happening : Happening SignalItem ℕ}
    (undisturbed : Undisturbed state happening)
    (happened : Happens (correlator naming) state happening next) : Correlated next := by
  cases happened with
  | idle => exact correlated
  | begins signal =>
      refine ⟨correlated.keyed, fun signalId stored candidateId found named => ?_,
        fun call member => ?_, correlated.answered⟩
      · exact @held_of_same state _ stored candidateId rfl
          (fun _ waiting => mem_append_left _ waiting)
          (correlated.held signalId stored candidateId found named)
      · rcases mem_append.1 member with earlier | new
        · exact correlated.fits call earlier
        · rw [mem_singleton.1 new]
          trivial
  | @goesOn position call onward store here took =>
      have became : (call.take naming state.store).1 = .goesOn onward := congrArg Prod.fst took
      refine correlated.trip (mem_of_getElem? here) (undisturbed call here)
        (congrArg Prod.snd took).symm (fun other => mem_set_of_ne onward here) ?_ ?_
        (fun accepted => .inl)
      · intro other goes
        obtain rfl : onward = other := Turn.goesOn.inj (became.symm.trans goes)
        exact List.mem_set (List.getElem?_eq_some_iff.1 here).1 _
      · intro other member
        rcases List.mem_or_eq_of_mem_set member with earlier | rfl
        · exact .inl earlier
        · exact .inr became
  | @returned position call answer store here took =>
      have became : (call.take naming state.store).1 = .returned answer := congrArg Prod.fst took
      refine correlated.trip (mem_of_getElem? here) (undisturbed call here)
        (congrArg Prod.snd took).symm (fun other => mem_eraseIdx_of_ne here) ?_
        (fun other member => .inl (mem_of_mem_eraseIdx member)) ?_
      · intro other goes
        cases became.symm.trans goes
      · intro accepted member
        rcases mem_append.1 member with earlier | new
        · exact .inl earlier
        · exact .inr (mem_singleton.1 new ▸ became)
  | @raised position call error store here took =>
      have became : (call.take naming state.store).1 = .raised error := congrArg Prod.fst took
      refine correlated.trip (mem_of_getElem? here) (undisturbed call here)
        (congrArg Prod.snd took).symm (fun other => mem_eraseIdx_of_ne here) ?_
        (fun other member => .inl (mem_of_mem_eraseIdx member)) (fun accepted => .inl)
      intro other goes
      cases became.symm.trans goes
  | crashes position =>
      refine ⟨correlated.keyed, fun signalId stored candidateId found named => ?_,
        fun call member => correlated.fits call (mem_of_mem_eraseIdx member),
        correlated.answered⟩
      rcases correlated.held signalId stored candidateId found named with
        held | ⟨acceptance, waiting, sameId, holds⟩
      · exact .inl held
      · rcases mem_eraseIdx_or waiting with kept | lost
        · exact .inr ⟨acceptance, kept, sameId, holds⟩
        · obtain ⟨candidate, present, within⟩ := undisturbed _ lost
          exact .inl ⟨candidate, sameId ▸ present, holds.within within⟩
  | occurs milliseconds =>
      refine ⟨correlated.keyed, correlated.held, fun call member => ?_, correlated.answered⟩
      have known := correlated.fits call member
      cases call <;> exact known

end Steps

/-! ## The histories that lose no signal -/

/-- A store that the correlator may start from: every signal is under its own id, and
held by the candidate that it names. -/
structure SignalStore.Sound (store : SignalStore) : Prop where
  keyed : ∀ signalId signal, store.signals signalId = some signal → signal.signalId = signalId
  held : ∀ signalId signal candidateId, store.signals signalId = some signal →
    signal.incidentCandidateId = some candidateId →
      ∃ candidate, store.candidates candidateId = some candidate ∧ candidate.Holds signal

/-- The invariant holds after every undisturbed history. -/
theorem correlated_run {naming : Naming} {start : Concurrent SignalStore AcceptTrip Accepted}
    (initially : Correlated start) (history : List (Happening SignalItem ℕ))
    (undisturbed : Along (concurrently (correlator naming)) Undisturbed start history) :
    Correlated (run (concurrently (correlator naming)) start history) :=
  @run_invariant_along _ _ _ _ (concurrently (correlator naming)) Undisturbed Correlated
    (fun _ _ _ _ kept allowed ok => kept.happens allowed (happens_of_ok ok))
    _ initially history undisturbed

/-- **No accepted signal is lost.**  In every undisturbed history of the correlator,
whatever the interleaving and the crashes, once no call is in progress the candidate
that an accepted signal names holds it. -/
theorem accepted_signal_held (naming : Naming) (store : SignalStore) (sound : store.Sound)
    (history : List (Happening SignalItem ℕ))
    (undisturbed : Along (concurrently (correlator naming)) Undisturbed { store } history)
    (final : Concurrent SignalStore AcceptTrip Accepted)
    (reached : run (concurrently (correlator naming)) { store } history = final)
    (quiet : final.calls = []) :
    ∀ accepted ∈ final.answers, ∃ signal candidateId candidate,
      final.store.signals accepted.1.signalId = some signal ∧
      signal.incidentCandidateId = some candidateId ∧
      final.store.candidates candidateId = some candidate ∧
      accepted.1.signalId ∈ candidate.signalIds ∧
      accepted.1.independenceKey ∈ candidate.sourceDiversity := by
  have initially : Correlated { store } :=
    ⟨sound.keyed, fun signalId signal candidateId found named =>
      .inl (sound.held signalId signal candidateId found named),
      forall_mem_nil _, forall_mem_nil _⟩
  have correlated : Correlated final := reached ▸ correlated_run initially history undisturbed
  intro accepted member
  obtain ⟨signal, found, isNamed, sameKey⟩ := correlated.answered accepted member
  obtain ⟨candidateId, named⟩ := isSome_iff_exists.1 isNamed
  have sameId : signal.signalId = accepted.1.signalId := correlated.keyed _ signal found
  rcases correlated.held _ signal candidateId found named with
    ⟨candidate, stored, holds⟩ | ⟨acceptance, waiting, -⟩
  · exact ⟨signal, candidateId, candidate, found, named, stored, sameId ▸ holds.1,
      sameKey ▸ holds.2⟩
  · rw [quiet] at waiting
    exact absurd waiting not_mem_nil

/-- A report of one vulnerability from one outlet. -/
def report (signalId family cve : String) : SignalItem where
  signalId
  sourceRole := .signal
  sourceFamily := family
  observedAt := 0
  anchors := Dict.empty.set "cve" [cve]

/-- The next round trips of the call at a position. -/
def proceedsTimes (position count : ℕ) : List (Happening SignalItem ℕ) :=
  List.replicate count (.proceeds position)

/-- Two reports of one vulnerability, the second one read while the first is being
written, and a third whose call is lost before it has written anything. -/
def undisturbedReports : List (Happening SignalItem ℕ) :=
  .begins (report "first" "vendor" "CVE-1") :: proceedsTimes 0 4 ++
    .begins (report "second" "press" "CVE-1") :: proceedsTimes 1 1 ++ proceedsTimes 0 2 ++
    .begins (report "third" "press" "CVE-1") :: proceedsTimes 1 1 ++ .crashes 1 ::
    proceedsTimes 0 6

theorem accepted_signal_held_undisturbedReports :
    let final := run (concurrently (correlator plainNaming)) { store := {} } undisturbedReports
    final.answers.length = 2 ∧
      ∀ accepted ∈ final.answers, ∃ signal candidateId candidate,
        final.store.signals accepted.1.signalId = some signal ∧
        signal.incidentCandidateId = some candidateId ∧
        final.store.candidates candidateId = some candidate ∧
        accepted.1.signalId ∈ candidate.signalIds ∧
        accepted.1.independenceKey ∈ candidate.sourceDiversity :=
  ⟨by decide +kernel, accepted_signal_held plainNaming {} ⟨nofun, nofun⟩ undisturbedReports
    (by decide +kernel) _ rfl (by decide +kernel)⟩

/-- Two reports of one vulnerability on an empty store: both calls have looked for a
candidate before either has written one. -/
def crossedReports : List (Happening SignalItem ℕ) :=
  .begins (report "first" "vendor" "CVE-1") :: proceedsTimes 0 2 ++
    .begins (report "second" "press" "CVE-1") :: proceedsTimes 1 2 ++
    proceedsTimes 0 4 ++ proceedsTimes 0 4

/-- **A signal is lost.**  Both calls answer with the same candidate, and it holds only
the signal that was written last. -/
theorem signal_lost :
    ¬ ∀ (history : List (Happening SignalItem ℕ))
        (final : Concurrent SignalStore AcceptTrip Accepted),
      run (concurrently (correlator plainNaming)) { store := {} } history = final →
      final.calls = [] →
        ∀ accepted ∈ final.answers, ∃ signal candidateId candidate,
          final.store.signals accepted.1.signalId = some signal ∧
          signal.incidentCandidateId = some candidateId ∧
          final.store.candidates candidateId = some candidate ∧
          accepted.1.signalId ∈ candidate.signalIds ∧
          accepted.1.independenceKey ∈ candidate.sourceDiversity := by
  intro always
  have unheld : ∃ accepted ∈ (run (concurrently (correlator plainNaming)) { store := {} }
        crossedReports).answers,
      ∀ signal ∈ (run (concurrently (correlator plainNaming)) { store := {} }
          crossedReports).store.signals accepted.1.signalId,
        ∀ candidateId ∈ signal.incidentCandidateId,
          ∀ candidate ∈ (run (concurrently (correlator plainNaming)) { store := {} }
              crossedReports).store.candidates candidateId,
            accepted.1.signalId ∉ candidate.signalIds := by decide +kernel
  obtain ⟨accepted, answered, unheld⟩ := unheld
  obtain ⟨signal, candidateId, candidate, found, named, stored, holds, -⟩ :=
    always crossedReports _ rfl (by decide +kernel) accepted answered
  exact unheld signal found candidateId named candidate stored holds

end SecFusion.Intelligence
