import Mathlib

/-!
# Transactions and their runs

A service is a family of calls over a store.  A call either raises, and then its
transaction is rolled back, or it answers and leaves a new store behind:
`call : Op → σ → Except ε (α × σ)`.  Everything here is about an arbitrary such
family; a schedule of concurrent callers whose transactions are atomic is a list
of operations, so a statement about every list is a statement about every
interleaving.
-/

namespace Foundations

-- The lemmas on lists and options that most of the proofs use go by their own names.
export List (Forall₂ any_eq_true append_assoc append_eq_nil_iff append_inj' append_nil cons.injEq
  cons_append cons_ne_nil count_eq_zero_of_not_mem eq_nil_iff_forall_not_mem exists_mem_of_ne_nil
  filter_append filter_congr filter_cons filter_cons_of_neg filter_eq_nil_iff filter_eq_self
  filter_sublist filterMap_append filterMap_eq_nil_iff find?_eq_none find?_isSome find?_some
  foldl_append foldl_cons foldl_nil foldlM_cons forall_mem_cons forall_mem_nil forall₂_map_right_iff
  forall₂_same getElem?_append_left inj_on_of_nodup_map length_eq_zero_iff map_append map_congr_left
  map_cons map_eq_nil_iff map_injective_iff map_map map_nil map_singleton mem_append mem_append_left
  mem_append_right mem_cons mem_cons_of_mem mem_cons_self mem_dedup mem_filter mem_filterMap
  mem_flatMap mem_insertionSort mem_map mem_map_of_mem mem_of_find?_eq_some mem_of_getElem?
  mem_of_mem_eraseIdx mem_of_mem_filter mem_of_mem_take mem_pair mem_range'_1 mem_singleton
  mem_singleton_self mem_toFinset ne_nil_of_mem nil_append nodup_append nodup_cons nodup_dedup
  nodup_nil nodup_singleton not_mem_nil pairwise_append pairwise_cons pairwise_insertionSort
  pairwise_map perm_ext_iff_of_nodup perm_insertionSort range' singleton_append)
export Option (bind_eq_some_iff isSome_iff_exists map_eq_some_iff map_some mem_def mem_unique
  some.injEq some_ne_none some_or)
export Prod (mk.injEq)
export String (intercalate ofList toList_append toList_inj toList_ofList)
export Function (Injective update update_of_ne update_self)
export Relation (ReflTransGen TransGen)

universe u v w x

/-! ## Raising -/

variable {condition : Prop} {answer : Unit}

section Raising

variable {ε : Type u} {α β : Type}

/-- Raise `error` unless `condition` holds. -/
def require (condition : Prop) [Decidable condition] (error : ε) : Except ε Unit :=
  if condition then .ok () else .error error

@[simp] theorem require_eq_ok [Decidable condition] {error : ε} :
    require condition error = .ok answer ↔ condition := by
  unfold require
  split <;> simp_all

theorem require_of [Decidable condition] {error : ε} (holds : condition) :
    require condition error = .ok () := by
  simp [holds]

/-- The value of an optional row, or `error` when there is none. -/
def fetch (row : Option α) (error : ε) : Except ε α :=
  match row with
  | some value => .ok value
  | none => .error error

@[simp] theorem fetch_eq_ok {row : Option α} {error : ε} {value : α} :
    fetch row error = .ok value ↔ row = some value := by
  cases row <;> simp [fetch]

/-- A computation that answers has answered at each of its steps. -/
theorem bind_eq_ok {first : Except ε α} {rest : α → Except ε β} {answer : β} :
    (first >>= rest) = .ok answer ↔ ∃ value, first = .ok value ∧ rest value = .ok answer := by
  cases first with
  | error raised => simp [bind, Except.bind]
  | ok value => simp [bind, Except.bind]

@[simp] theorem ok_bind (value : α) (rest : α → Except ε β) :
    ((Except.ok value : Except ε α) >>= rest) = rest value := rfl

@[simp] theorem error_bind (raised : ε) (rest : α → Except ε β) :
    ((Except.error raised : Except ε α) >>= rest) = .error raised := rfl

@[simp] theorem toOption_eq_some {ok : Except ε α} {value : α} :
    ok.toOption = some value ↔ ok = .ok value := by
  cases ok <;> simp [Except.toOption]

@[simp] theorem pure_eq_ok {value answer : α} :
    (pure value : Except ε α) = .ok answer ↔ value = answer := by
  simp [pure, Except.pure]

/-- A step that only checks contributes its condition and nothing else. -/
theorem require_bind_eq_ok [Decidable condition] {error : ε} {rest : Unit → Except ε β} {answer : β}
    :
    (require condition error >>= rest) = .ok answer ↔ condition ∧ rest () = .ok answer := by
  rw [bind_eq_ok]
  constructor
  · rintro ⟨_, checked, continued⟩
    exact ⟨require_eq_ok.1 checked, continued⟩
  · rintro ⟨holds, continued⟩
    exact ⟨(), require_of holds, continued⟩

/-- A step that reads one row contributes that row. -/
theorem fetch_bind_eq_ok {row : Option α} {error : ε} {rest : α → Except ε β} {answer : β} :
    (fetch row error >>= rest) = .ok answer ↔
      ∃ value, row = some value ∧ rest value = .ok answer := by
  rw [bind_eq_ok]
  simp

/-- A loop of checks answers when each of them does. -/
theorem forM_eq_ok {γ : Type} {items : List γ} {check : γ → Except ε Unit} :
    items.forM check = .ok answer ↔ ∀ item ∈ items, check item = .ok () := by
  induction items with
  | nil => simp
  | cons item rest ih =>
      have step : (item :: rest).forM check = (check item >>= fun _ => rest.forM check) := rfl
      rw [step, bind_eq_ok]
      constructor
      · rintro ⟨_, here, later⟩ other member
        rcases mem_cons.1 member with rfl | tail
        · exact here
        · exact ih.1 later other tail
      · intro all
        exact ⟨(), all item mem_cons_self,
          ih.2 fun other member => all other (mem_cons_of_mem _ member)⟩

/-- A list is mapped item by item. -/
theorem mapM_eq_ok {γ δ : Type} {make : γ → Except ε δ} {items : List γ} {results : List δ} :
    items.mapM make = .ok results ↔ items.map make = results.map .ok := by
  induction items generalizing results with
  | nil =>
      constructor
      · rintro ⟨⟩
        rfl
      · intro same
        rw [map_eq_nil_iff.1 same.symm]
        rfl
  | cons item rest ih =>
      rw [List.mapM_cons, bind_eq_ok]
      constructor
      · rintro ⟨first, made, ok⟩
        obtain ⟨others, later, ok⟩ := bind_eq_ok.1 ok
        cases ok
        rw [map_cons, map_cons, made, ih.1 later]
      · intro same
        cases results with
        | nil => cases same
        | cons first others =>
            rw [map_cons, map_cons] at same
            obtain ⟨made, later⟩ := List.cons.inj same
            exact ⟨first, made, bind_eq_ok.2 ⟨others, ih.2 later, rfl⟩⟩

theorem exists_map_ok {γ δ : Type} {make : γ → Except ε δ} {items : List γ}
    (total : ∀ item ∈ items, ∃ result, make item = .ok result) :
    ∃ results : List δ, items.map make = results.map .ok := by
  induction items with
  | nil => exact ⟨[], rfl⟩
  | cons item rest ih =>
      obtain ⟨first, made⟩ := total item mem_cons_self
      obtain ⟨others, later⟩ := ih fun other member => total other (mem_cons_of_mem _ member)
      exact ⟨first :: others, by rw [map_cons, map_cons, made, later]⟩

/-- What a list is mapped to comes from its items. -/
theorem exists_of_mapM_ok {γ δ : Type} {make : γ → Except ε δ} {items : List γ}
    {results : List δ} (ok : items.mapM make = .ok results) {result : δ}
    (member : result ∈ results) : ∃ item ∈ items, make item = .ok result := by
  have made : Except.ok result ∈ items.map make := by
    rw [mapM_eq_ok.1 ok]
    exact mem_map_of_mem member
  exact mem_map.1 made

/-- What each round of a loop keeps, the loop keeps. -/
theorem foldlM_invariant {γ σ : Type} {round : σ → γ → Except ε σ} (invariant : σ → Prop)
    {items : List γ} {start final : σ}
    (kept : ∀ item ∈ items, ∀ before after, invariant before → round before item = .ok after →
      invariant after)
    (begins : invariant start) (ok : items.foldlM round start = .ok final) :
    invariant final := by
  induction items generalizing start with
  | nil =>
      cases ok
      exact begins
  | cons item rest ih =>
      rw [foldlM_cons, bind_eq_ok] at ok
      obtain ⟨middle, here, later⟩ := ok
      refine ih (fun other member => kept other (mem_cons_of_mem _ member)) ?_ later
      exact kept item mem_cons_self start middle begins here

end Raising

/-! ## One transaction, and a run of them -/

section Runs

variable {σ : Type u} {Op : Type v} {ε : Type w} {α : Type x}
variable (call : Op → σ → Except ε (α × σ))

/-- The store after one transaction: the call's store when it answers, the
store it met when it raises. -/
def transact (store : σ) (op : Op) : σ :=
  match call op store with
  | .ok (_, next) => next
  | .error _ => store

/-- The store after a sequence of transactions. -/
def run (store : σ) (ops : List Op) : σ :=
  ops.foldl (transact call) store

/-- Every operation of the sequence satisfies `guard` in the store it meets. -/
def Along (guard : σ → Op → Prop) : σ → List Op → Prop
  | _, [] => True
  | store, op :: rest => guard store op ∧ Along guard (transact call store op) rest

instance alongDecidable (guard : σ → Op → Prop) [∀ store op, Decidable (guard store op)] :
    (store : σ) → (ops : List Op) → Decidable (Along call guard store ops)
  | _, [] => inferInstanceAs (Decidable True)
  | store, op :: rest =>
      have := alongDecidable guard (transact call store op) rest
      inferInstanceAs (Decidable (guard store op ∧ Along call guard (transact call store op) rest))

variable {call}

theorem transact_of_ok {store next : σ} {op : Op} {answer : α}
    (ok : call op store = .ok (answer, next)) : transact call store op = next := by
  simp [transact, ok]

theorem transact_of_error {store : σ} {op : Op} {raised : ε}
    (failed : call op store = .error raised) : transact call store op = store := by
  simp [transact, failed]

@[simp] theorem run_nil (store : σ) : run call store [] = store := rfl

@[simp] theorem run_cons (store : σ) (op : Op) (rest : List Op) :
    run call store (op :: rest) = run call (transact call store op) rest := rfl

theorem run_append (store : σ) (first second : List Op) :
    run call store (first ++ second) = run call (run call store first) second := by
  simp [run]

/-- A condition on operations alone is a guard of every run of such operations. -/
theorem Along.of_forall {condition : Op → Prop} {store : σ} {ops : List Op}
    (holds : ∀ op ∈ ops, condition op) : Along call (fun _ op => condition op) store ops := by
  induction ops generalizing store with
  | nil => trivial
  | cons op rest ih =>
      exact ⟨holds op mem_cons_self,
        ih fun other member => holds other (mem_cons_of_mem _ member)⟩

/-- A guarded run is guarded in its first and in its second part. -/
theorem Along.of_append {guard : σ → Op → Prop} {store : σ} {first second : List Op}
    (guarded : Along call guard store (first ++ second)) :
    Along call guard store first ∧ Along call guard (run call store first) second := by
  induction first generalizing store with
  | nil => exact ⟨trivial, guarded⟩
  | cons op rest ih =>
      obtain ⟨here, later⟩ := guarded
      obtain ⟨before, after⟩ := ih later
      exact ⟨⟨here, before⟩, after⟩

/-- A guarded run is guarded up to each of its steps, and at the step. -/
theorem Along.at_step {guard : σ → Op → Prop} {store : σ} {before after : List Op} {op : Op}
    (guarded : Along call guard store (before ++ op :: after)) :
    Along call guard store before ∧ guard (run call store before) op := by
  induction before generalizing store with
  | nil => exact ⟨trivial, guarded.1⟩
  | cons first rest ih =>
      obtain ⟨earlier, here⟩ := ih guarded.2
      exact ⟨⟨guarded.1, earlier⟩, here⟩

/-- A run is guarded when it is guarded at each of its steps. -/
theorem along_iff {guard : σ → Op → Prop} {store : σ} {ops : List Op} :
    Along call guard store ops ↔
      ∀ before op after, ops = before ++ op :: after → guard (run call store before) op := by
  constructor
  · rintro guarded before op after rfl
    exact guarded.at_step.2
  · intro all
    induction ops generalizing store with
    | nil => trivial
    | cons op rest ih =>
        refine ⟨all [] op rest rfl, ih fun before other after split => ?_⟩
        exact all (op :: before) other after (by rw [split, cons_append])

/-- What holds of a store whenever a transaction is rolled back to it, and of
the store every successful call leaves, holds after the transaction. -/
theorem transact_induction {motive : σ → Prop} {store : σ} {op : Op}
    (rolledBack : motive store)
    (committed : ∀ answer next, call op store = .ok (answer, next) → motive next) :
    motive (transact call store op) := by
  cases outcome : call op store with
  | error raised => rwa [transact_of_error outcome]
  | ok result =>
      obtain ⟨answer, next⟩ := result
      rw [transact_of_ok outcome]
      exact committed answer next outcome

/-- A property that does not hold before a run and holds after it begins to hold
at one of its steps. -/
theorem exists_step_of_run (property : σ → Prop) {store : σ} {ops : List Op}
    (before : ¬ property store) (after : property (run call store ops)) :
    ∃ early op late, ops = early ++ op :: late ∧ ¬ property (run call store early) ∧
      property (run call store (early ++ [op])) := by
  induction ops generalizing store with
  | nil => exact absurd after before
  | cons op rest ih =>
      by_cases now : property (transact call store op)
      · exact ⟨[], op, rest, rfl, before, now⟩
      · obtain ⟨early, next, late, rfl, still, begins⟩ := ih now after
        exact ⟨op :: early, next, late, rfl, still, begins⟩

/-- **The invariant rule for guarded runs.**  An invariant that each successful
call preserves, whenever its step satisfies the guard, holds at the end of every
run whose steps all satisfy it. -/
theorem run_invariant_along {guard : σ → Op → Prop} {invariant : σ → Prop}
    (preserved : ∀ store op answer next, invariant store → guard store op →
      call op store = .ok (answer, next) → invariant next)
    {store : σ} (start : invariant store) (ops : List Op)
    (guarded : Along call guard store ops) : invariant (run call store ops) := by
  induction ops generalizing store with
  | nil => exact start
  | cons op rest ih =>
      obtain ⟨here, later⟩ := guarded
      refine ih ?_ later
      exact transact_induction start fun answer next ok =>
        preserved store op answer next start here ok

/-- **The invariant rule.**  The unguarded instance of `run_invariant_along`. -/
theorem run_invariant {invariant : σ → Prop}
    (preserved : ∀ store op answer next, invariant store →
      call op store = .ok (answer, next) → invariant next)
    {store : σ} (start : invariant store) (ops : List Op) :
    invariant (run call store ops) := by
  induction ops generalizing store with
  | nil => exact start
  | cons op rest ih =>
      refine ih ?_
      exact transact_induction start fun answer next ok =>
        preserved store op answer next start ok

end Runs

end Foundations
