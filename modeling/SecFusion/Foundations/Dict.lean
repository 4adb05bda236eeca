import Mathlib

/-!
# Insertion-ordered dictionaries

A dictionary with the iteration order of Python's `dict`: assigning to a present
key keeps its position, a new key goes last, and a popped key that is assigned
again goes last.  The absence of duplicate keys is a field, so a lookup has at
most one answer.

`tally` is the accumulation loop `d[k] = d.get(k, 0) + x` over a list of rows;
`getD_tally` says it computes, key by key, the sum over the rows of that key.
-/

namespace Foundations

universe u v w

/-- Entries in insertion order, with pairwise distinct keys. -/
structure Dict (κ : Type u) (ν : Type v) where
  entries : List (κ × ν)
  nodup : (entries.map Prod.fst).Nodup

namespace Dict

variable {κ : Type u} {ν : Type v}

instance [DecidableEq κ] [DecidableEq ν] : DecidableEq (Dict κ ν) := fun left right =>
  decidable_of_iff (left.entries = right.entries) (by cases left; cases right; simp)

/-- The dictionary without entries. -/
def empty : Dict κ ν := ⟨[], by simp⟩

/-- The keys, in insertion order. -/
def keys (d : Dict κ ν) : List κ := d.entries.map Prod.fst

/-- The values, in insertion order of their keys. -/
def values (d : Dict κ ν) : List ν := d.entries.map Prod.snd

@[simp] theorem entries_empty : (empty : Dict κ ν).entries = [] := rfl

@[simp] theorem values_empty : (empty : Dict κ ν).values = [] := rfl

variable [DecidableEq κ]

def get? (d : Dict κ ν) (k : κ) : Option ν :=
  (d.entries.find? fun entry => entry.1 = k).map Prod.snd

def getD (d : Dict κ ν) (k : κ) (default : ν) : ν := (d.get? k).getD default

variable {d : Dict κ ν}

theorem get?_eq_some {k : κ} {value : ν} :
    d.get? k = some value ↔ (k, value) ∈ d.entries := by
  constructor
  · intro found
    obtain ⟨⟨k', value'⟩, located, rfl⟩ := Option.map_eq_some_iff.1 found
    have same : k' = k := by simpa using List.find?_some located
    exact same ▸ List.mem_of_find?_eq_some located
  · intro member
    cases located : d.entries.find? fun entry => entry.1 = k with
    | none => simpa using List.find?_eq_none.1 located _ member
    | some entry =>
        have same : entry.1 = (k, value).1 := by simpa using List.find?_some located
        have equal : entry = (k, value) :=
          List.inj_on_of_nodup_map d.nodup (List.mem_of_find?_eq_some located) member same
        simp [get?, located, equal]

theorem get?_eq_none {k : κ} : d.get? k = none ↔ k ∉ d.keys := by
  simp only [get?, Option.map_eq_none_iff, List.find?_eq_none, decide_eq_true_eq, keys,
    List.mem_map, not_exists, not_and]

theorem mem_keys {k : κ} : k ∈ d.keys ↔ ∃ value, d.get? k = some value := by
  rw [← Option.ne_none_iff_exists', ne_eq, get?_eq_none, not_not]

theorem mem_values {value : ν} :
    value ∈ d.values ↔ ∃ k, d.get? k = some value := by
  simp [values, get?_eq_some]

@[simp] theorem get?_empty (k : κ) : (empty : Dict κ ν).get? k = none := rfl

@[simp] theorem getD_empty (k : κ) (default : ν) :
    (empty : Dict κ ν).getD k default = default := rfl

theorem getD_of_get? {k : κ} {value default : ν}
    (found : d.get? k = some value) : d.getD k default = value := by
  simp [getD, found]

/-- Assignment: in place when the key is present, at the end otherwise. -/
def set (d : Dict κ ν) (k : κ) (value : ν) : Dict κ ν :=
  if present : k ∈ d.keys then
    ⟨d.entries.map fun entry => if entry.1 = k then (k, value) else entry, by
      have same : Prod.fst ∘ (fun entry : κ × ν => if entry.1 = k then (k, value) else entry) =
          Prod.fst := by
        funext entry
        by_cases equal : entry.1 = k <;> simp [equal]
      rw [List.map_map, same]
      exact d.nodup⟩
  else
    ⟨d.entries ++ [(k, value)], by
      rw [List.map_append, List.nodup_append]
      refine ⟨d.nodup, by simp, ?_⟩
      simp only [List.map_cons, List.map_nil, List.mem_singleton]
      rintro k' member _ rfl rfl
      exact present member⟩

theorem get?_set (d : Dict κ ν) (k k' : κ) (value : ν) :
    (d.set k value).get? k' = if k = k' then some value else d.get? k' := by
  unfold set
  split
  next present =>
    by_cases same : k = k'
    · subst same
      obtain ⟨old, found⟩ := mem_keys.1 present
      rw [if_pos rfl, get?_eq_some]
      exact List.mem_map.2 ⟨(k, old), get?_eq_some.1 found, by simp⟩
    · rw [if_neg same]
      ext value'
      rw [get?_eq_some, get?_eq_some]
      simp only [List.mem_map, Prod.exists]
      constructor
      · rintro ⟨a, b, member, equal⟩
        split at equal
        · cases equal
          exact absurd rfl same
        · rwa [← equal]
      · intro member
        exact ⟨k', value', member, by simp [Ne.symm same]⟩
  next absent =>
    have missing : d.entries.find? (fun entry => entry.1 = k) = none := by
      simpa [get?] using get?_eq_none.2 absent
    by_cases same : k = k'
    · subst same
      simp [get?, List.find?_append, missing]
    · simp [get?, List.find?_append, same]

/-- Removal, which does nothing when the key is absent. -/
def pop (d : Dict κ ν) (k : κ) : Dict κ ν :=
  ⟨d.entries.filter fun entry => entry.1 ≠ k, d.nodup.sublist (List.filter_sublist.map _)⟩

theorem get?_pop (d : Dict κ ν) (k k' : κ) :
    (d.pop k).get? k' = if k = k' then none else d.get? k' := by
  by_cases same : k = k'
  · subst same
    rw [if_pos rfl, get?_eq_none]
    simp [pop, keys]
  · rw [if_neg same]
    ext value
    rw [get?_eq_some, get?_eq_some]
    simp [pop, Ne.symm same]

/-- Rewrite every value, keeping keys and order. -/
def mapEntries {μ : Type w} (rewrite : κ → ν → μ) (d : Dict κ ν) : Dict κ μ :=
  ⟨d.entries.map fun entry => (entry.1, rewrite entry.1 entry.2), by
    rw [List.map_map]
    exact d.nodup⟩

@[simp] theorem get?_mapEntries {μ : Type w} (rewrite : κ → ν → μ) (d : Dict κ ν) (k : κ) :
    (d.mapEntries rewrite).get? k = (d.get? k).map (rewrite k) := by
  ext value
  rw [get?_eq_some, Option.map_eq_some_iff]
  simp only [mapEntries, List.mem_map, Prod.mk.injEq, Prod.exists, get?_eq_some]
  constructor
  · rintro ⟨k', old, member, rfl, rfl⟩
    exact ⟨old, member, rfl⟩
  · rintro ⟨old, member, rfl⟩
    exact ⟨k, old, member, rfl, rfl⟩

/-- At most one entry has a given key, so summing over the entries of that key
reads its value. -/
theorem sum_entries {M : Type w} [AddCommMonoid M] (d : Dict κ ν) (k : κ) (weight : ν → M) :
    ((d.entries.filter fun entry => entry.1 = k).map fun entry => weight entry.2).sum =
      ((d.get? k).map weight).getD 0 := by
  obtain ⟨entries, nodup⟩ := d
  unfold get?
  dsimp only
  induction entries with
  | nil => simp
  | cons entry rest ih =>
      obtain ⟨fresh, distinct⟩ := List.nodup_cons.1 nodup
      by_cases same : entry.1 = k
      · subst same
        have others : rest.filter (fun other => other.1 = entry.1) = [] := by
          rw [List.filter_eq_nil_iff]
          intro other member equal
          exact fresh (List.mem_map.2 ⟨other, member, of_decide_eq_true equal⟩)
        simp [others]
      · simpa [same] using ih distinct

/-- The dictionary comprehension `{key row: value row for row in rows}`: a later
row overwrites an earlier one of the same key. -/
def ofRows {ρ : Type w} (key : ρ → κ) (value : ρ → ν) (rows : List ρ) : Dict κ ν :=
  rows.foldl (fun d row => d.set (key row) (value row)) empty

/-- Where the rows of one key agree on the value, that is the value of the key. -/
theorem get?_ofRows {ρ : Type w} {key : ρ → κ} {value : ρ → ν} {rows : List ρ} {row : ρ}
    (member : row ∈ rows) (agree : ∀ other ∈ rows, key other = key row → value other = value row) :
    (ofRows key value rows).get? (key row) = some (value row) := by
  unfold ofRows
  induction rows using List.reverseRecOn with
  | nil => cases member
  | append_singleton front last ih =>
      rw [List.foldl_append, List.foldl_cons, List.foldl_nil, get?_set]
      by_cases same : key last = key row
      · rw [if_pos same, agree last (by simp) same]
      · rw [if_neg same]
        refine ih ?_ fun other found => agree other (List.mem_append_left _ found)
        rcases List.mem_append.1 member with found | found
        · exact found
        · rw [List.mem_singleton.1 found] at same
          exact absurd rfl same

/-- The comprehension creates exactly the keys its rows name. -/
theorem mem_keys_ofRows {ρ : Type w} {key : ρ → κ} {value : ρ → ν} {rows : List ρ} {k : κ} :
    k ∈ (ofRows key value rows).keys ↔ ∃ row ∈ rows, key row = k := by
  unfold ofRows
  induction rows using List.reverseRecOn with
  | nil => simp [keys]
  | append_singleton front last ih =>
      rw [List.foldl_append, List.foldl_cons, List.foldl_nil, mem_keys, get?_set]
      by_cases same : key last = k
      · simp [same]
      · simp [same, ← mem_keys, ih]

/-- Equality of dictionaries, which ignores the insertion order. -/
def Same (left right : Dict κ ν) : Prop :=
  (∀ entry ∈ left.entries, entry ∈ right.entries) ∧
    ∀ entry ∈ right.entries, entry ∈ left.entries

instance [DecidableEq ν] (left right : Dict κ ν) : Decidable (Same left right) :=
  inferInstanceAs (Decidable (_ ∧ _))

/-- The entries in increasing order of their keys, as `sorted(d.items())`. -/
def sorted [LinearOrder κ] (d : Dict κ ν) : List (κ × ν) :=
  d.entries.insertionSort fun left right => left.1 ≤ right.1

omit [DecidableEq κ] in
theorem perm_sorted [LinearOrder κ] (d : Dict κ ν) : d.sorted.Perm d.entries :=
  List.perm_insertionSort _ _

/-! ## Accumulation -/

section Tally

variable {ρ : Type w} {M : Type v} [AddCommMonoid M]

/-- The loop `d[key row] = d.get(key row, 0) + weight row`, continued from `d`. -/
def tallyFrom (key : ρ → κ) (weight : ρ → M) (d : Dict κ M) (rows : List ρ) : Dict κ M :=
  rows.foldl (fun sums row => sums.set (key row) (sums.getD (key row) 0 + weight row)) d

/-- The loop `d[key row] = d.get(key row, 0) + weight row`, from the empty
dictionary. -/
def tally (key : ρ → κ) (weight : ρ → M) (rows : List ρ) : Dict κ M :=
  tallyFrom key weight empty rows

theorem getD_tallyFrom (key : ρ → κ) (weight : ρ → M) (d : Dict κ M) (rows : List ρ) (k : κ) :
    (tallyFrom key weight d rows).getD k 0 =
      d.getD k 0 + ((rows.filter fun row => key row = k).map weight).sum := by
  induction rows generalizing d with
  | nil => simp [tallyFrom]
  | cons row rest ih =>
      have step := ih (d.set (key row) (d.getD (key row) 0 + weight row))
      simp only [tallyFrom, List.foldl_cons] at step ⊢
      rw [step]
      by_cases same : key row = k
      · subst same
        simp [getD, get?_set, add_assoc]
      · simp [getD, get?_set, same]

/-- Key by key, the loop computes the sum over the rows of that key. -/
theorem getD_tally (key : ρ → κ) (weight : ρ → M) (rows : List ρ) (k : κ) :
    (tally key weight rows).getD k 0 = ((rows.filter fun row => key row = k).map weight).sum := by
  simp [tally, getD_tallyFrom]

theorem mem_keys_tallyFrom (key : ρ → κ) (weight : ρ → M) (d : Dict κ M) (rows : List ρ) (k : κ) :
    k ∈ (tallyFrom key weight d rows).keys ↔ k ∈ d.keys ∨ ∃ row ∈ rows, key row = k := by
  induction rows generalizing d with
  | nil => simp [tallyFrom]
  | cons row rest ih =>
      have step := ih (d.set (key row) (d.getD (key row) 0 + weight row))
      simp only [tallyFrom, List.foldl_cons] at step ⊢
      rw [step, mem_keys, mem_keys, get?_set]
      by_cases same : key row = k <;> simp [same]

/-- The loop creates exactly the keys its rows name. -/
theorem mem_keys_tally (key : ρ → κ) (weight : ρ → M) (rows : List ρ) (k : κ) :
    k ∈ (tally key weight rows).keys ↔ ∃ row ∈ rows, key row = k := by
  rw [tally, mem_keys_tallyFrom]
  simp [keys]

end Tally

end Dict

end Foundations
