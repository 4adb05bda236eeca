import SecFusion.Foundations.Transaction

/-!
# Interleaved calls

Calls that make several round trips to a shared store, one after another, with no
lock held between them.  A call in progress is known by the round trip that it makes
next, which carries what it has read so far; each round trip is one step, between
which any other call may make one of its own.

A history is a list of happenings.  It runs as a list of transactions that never
fail, so the invariant rules of runs apply to it.
-/

namespace Foundations

universe u v w x y z

/-- How a call stands after a round trip: it goes on with another, or it is over. -/
inductive Turn (κ : Type u) (α : Type v) (ε : Type w) where
  | goesOn (call : κ)
  | returned (answer : α)
  | raised (error : ε)

/-- A service over a shared store: the first round trip of each operation, what a
round trip does, and what occurs in the store by itself. -/
structure Service (Op : Type u) (σ : Type v) (κ : Type w) (α : Type x) (ε : Type y)
    (ω : Type z) where
  enter : Op → κ
  trip : κ → σ → Turn κ α ε × σ
  occur : ω → σ → σ

/-- The shared store, the calls in progress, and the answers given so far. -/
structure Concurrent (σ : Type u) (κ : Type v) (α : Type w) where
  store : σ
  calls : List κ := []
  answers : List α := []

/-- What may happen next: a call begins, makes its next round trip or is lost, or
something occurs in the store by itself. -/
inductive Happening (Op : Type u) (ω : Type v) where
  | begins (op : Op)
  | proceeds (position : ℕ)
  | crashes (position : ℕ)
  | occurs (event : ω)

section Histories

variable {Op : Type u} {σ : Type v} {κ : Type w} {α : Type x} {ε : Type y} {ω : Type z}
variable (service : Service Op σ κ α ε ω)

/-- The state after the call at a position has made a round trip. -/
def Concurrent.proceed (state : Concurrent σ κ α) (position : ℕ) (call : κ) :
    Concurrent σ κ α :=
  match service.trip call state.store with
  | (.goesOn next, store) => { state with store, calls := state.calls.set position next }
  | (.returned answer, store) =>
      { store, calls := state.calls.eraseIdx position, answers := state.answers ++ [answer] }
  | (.raised _, store) => { state with store, calls := state.calls.eraseIdx position }

/-- One happening, as a transaction that never fails.  At a position where there is no
call nothing happens. -/
def concurrently (happening : Happening Op ω) (state : Concurrent σ κ α) :
    Except Empty (Unit × Concurrent σ κ α) :=
  .ok <| ((), ·) <|
    match happening with
    | .begins op => { state with calls := state.calls ++ [service.enter op] }
    | .proceeds position =>
        match state.calls[position]? with
        | none => state
        | some call => state.proceed service position call
    | .crashes position => { state with calls := state.calls.eraseIdx position }
    | .occurs event => { state with store := service.occur event state.store }

variable {service}

/-- What a happening does to the state. -/
inductive Happens (service : Service Op σ κ α ε ω) (state : Concurrent σ κ α) :
    Happening Op ω → Concurrent σ κ α → Prop
  | idle {position : ℕ} (missing : state.calls[position]? = none) :
      Happens service state (.proceeds position) state
  | begins (op : Op) :
      Happens service state (.begins op) { state with calls := state.calls ++ [service.enter op] }
  | goesOn {position : ℕ} {call next : κ} {store : σ}
      (here : state.calls[position]? = some call)
      (took : service.trip call state.store = (.goesOn next, store)) :
      Happens service state (.proceeds position)
        { state with store, calls := state.calls.set position next }
  | returned {position : ℕ} {call : κ} {answer : α} {store : σ}
      (here : state.calls[position]? = some call)
      (took : service.trip call state.store = (.returned answer, store)) :
      Happens service state (.proceeds position)
        { store, calls := state.calls.eraseIdx position, answers := state.answers ++ [answer] }
  | raised {position : ℕ} {call : κ} {error : ε} {store : σ}
      (here : state.calls[position]? = some call)
      (took : service.trip call state.store = (.raised error, store)) :
      Happens service state (.proceeds position)
        { state with store, calls := state.calls.eraseIdx position }
  | crashes (position : ℕ) :
      Happens service state (.crashes position)
        { state with calls := state.calls.eraseIdx position }
  | occurs (event : ω) :
      Happens service state (.occurs event) { state with store := service.occur event state.store }

theorem happens_of_ok {state next : Concurrent σ κ α} {happening : Happening Op ω} {answer : Unit}
    (ok : concurrently service happening state = .ok (answer, next)) :
    Happens service state happening next := by
  have same : next = _ := (congrArg Prod.snd (Except.ok.inj ok)).symm
  cases happening with
  | begins op =>
      subst same
      exact .begins op
  | proceeds position =>
      dsimp only at same
      cases here : state.calls[position]? with
      | none =>
          rw [here] at same
          subst same
          exact .idle here
      | some call =>
          rw [here] at same
          dsimp only [Concurrent.proceed] at same
          split at same
          next took =>
            subst same
            exact .goesOn here took
          next took =>
            subst same
            exact .returned here took
          next took =>
            subst same
            exact .raised here took
  | crashes position =>
      subst same
      exact .crashes position
  | occurs event =>
      subst same
      exact .occurs event

/-! ## The other calls -/

/-- A call that is not lost at a position is still in progress. -/
theorem mem_eraseIdx_or {calls : List κ} {position : ℕ} {other : κ} (member : other ∈ calls) :
    other ∈ calls.eraseIdx position ∨ calls[position]? = some other := by
  obtain ⟨index, found⟩ := List.mem_iff_getElem?.1 member
  by_cases same : index = position
  · exact .inr (same ▸ found)
  · exact .inl (List.mem_eraseIdx_iff_getElem?.2 ⟨index, same, found⟩)

/-- A call other than the one at a position is still in progress when that one goes on. -/
theorem mem_set_of_ne {calls : List κ} {position : ℕ} {call other : κ} (next : κ)
    (here : calls[position]? = some call) (member : other ∈ calls) (differs : other ≠ call) :
    other ∈ calls.set position next := by
  obtain ⟨index, found⟩ := List.mem_iff_getElem?.1 member
  have elsewhere : position ≠ index := by
    rintro rfl
    exact differs (mem_unique found here)
  refine List.mem_iff_getElem?.2 ⟨index, ?_⟩
  rw [List.getElem?_set_ne elsewhere, found]

theorem mem_eraseIdx_of_ne {calls : List κ} {position : ℕ} {call other : κ}
    (here : calls[position]? = some call) (member : other ∈ calls) (differs : other ≠ call) :
    other ∈ calls.eraseIdx position := by
  rcases mem_eraseIdx_or member with kept | same
  · exact kept
  · exact absurd (mem_unique same here) differs

/-- **The invariant rule for the store**: what every round trip keeps, whenever the
guard holds of it, and every event keeps, holds of the store after every guarded history. -/
theorem store_invariant {guard : Concurrent σ κ α → Happening Op ω → Prop} {invariant : σ → Prop}
    (trips : ∀ (state : Concurrent σ κ α) position call turn store, invariant state.store →
      guard state (.proceeds position) → state.calls[position]? = some call →
        service.trip call state.store = (turn, store) → invariant store)
    (events : ∀ store event, invariant store → invariant (service.occur event store))
    {start : Concurrent σ κ α} (initially : invariant start.store)
    (history : List (Happening Op ω))
    (guarded : Along (concurrently service) guard start history) :
    invariant (run (concurrently service) start history).store := by
  refine @run_invariant_along _ _ _ _ (concurrently service) guard
    (fun state => invariant state.store)
    (fun state happening answer next kept allowed ok => ?_) _ initially history guarded
  cases happens_of_ok ok with
  | idle => exact kept
  | begins => exact kept
  | goesOn here took => exact trips state _ _ _ _ kept allowed here took
  | returned here took => exact trips state _ _ _ _ kept allowed here took
  | raised here took => exact trips state _ _ _ _ kept allowed here took
  | crashes => exact kept
  | occurs event => exact events _ event kept

/-! ## A call with the store to itself -/

/-- A call that makes all its round trips while no other call makes any: how it ends,
and the store it leaves. -/
inductive Alone (service : Service Op σ κ α ε ω) : κ → σ → Turn κ α ε × σ → Prop
  | returned {call : κ} {before after : σ} {answer : α}
      (took : service.trip call before = (.returned answer, after)) :
      Alone service call before (.returned answer, after)
  | raised {call : κ} {before after : σ} {error : ε}
      (took : service.trip call before = (.raised error, after)) :
      Alone service call before (.raised error, after)
  | goesOn {call next : κ} {before middle : σ} {outcome : Turn κ α ε × σ}
      (took : service.trip call before = (.goesOn next, middle))
      (rest : Alone service next middle outcome) : Alone service call before outcome

/-- A call that runs alone is a history: its round trips one after the other. -/
theorem Alone.run {call : κ} {before after : σ} {answer : α}
    (alone : Alone service call before (.returned answer, after)) (answers : List α) :
    ∃ count, Foundations.run (concurrently service) { store := before, calls := [call], answers }
        (List.replicate count (.proceeds 0)) =
      { store := after, calls := [], answers := answers ++ [answer] } := by
  generalize ends : (Turn.returned answer, after) = outcome at alone
  induction alone with
  | returned took =>
      cases ends
      refine ⟨1, ?_⟩
      simp [transact, concurrently, Concurrent.proceed, took]
  | raised took => cases ends
  | goesOn took rest ih =>
      obtain ⟨count, reaches⟩ := ih ends
      refine ⟨count + 1, ?_⟩
      rw [List.replicate_succ, run_cons, ← reaches]
      simp [transact, concurrently, Concurrent.proceed, took]

end Histories

end Foundations
