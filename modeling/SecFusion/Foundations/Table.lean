import SecFusion.Foundations.Transaction

/-!
# Keyed tables

A relational table as a list of rows in insertion order together with a proof
that its primary key has no duplicates.  The key is a projection of the row, so
a table of a given row type and key is a type of its own; inserting a duplicate
key is not possible (`insert?` answers `none`, which is where a database raises
its integrity error), and a row is only ever rewritten by a function that keeps
its key.
-/

namespace Foundations

universe u v w

/-! ## Pointwise related lists -/

section Pointwise

variable {ρ : Type u} {τ : Type v} {related : ρ → τ → Prop} {left : List ρ} {right : List τ}
  {row : ρ}

theorem exists_right_of_mem (pointwise : Forall₂ related left right)
    (member : row ∈ left) : ∃ other ∈ right, related row other := by
  induction pointwise with
  | nil => cases member
  | cons here _ ih =>
      rcases mem_cons.1 member with rfl | later
      · exact ⟨_, mem_cons_self, here⟩
      · obtain ⟨other, found, holds⟩ := ih later
        exact ⟨other, mem_cons_of_mem _ found, holds⟩

theorem exists_left_of_mem (pointwise : Forall₂ related left right) {row : τ}
    (member : row ∈ right) : ∃ other ∈ left, related other row := by
  have flipped : Forall₂ (flip related) right left := pointwise.flip
  exact exists_right_of_mem flipped member

/-- A pointwise relation may be weakened using that the left row is listed. -/
theorem forall₂_imp_mem {wanted : ρ → τ → Prop} (pointwise : Forall₂ related left right)
    (implies : ∀ old ∈ left, ∀ new, related old new → wanted old new) :
    Forall₂ wanted left right := by
  induction pointwise with
  | nil => exact .nil
  | cons here _ ih =>
      refine .cons (implies _ mem_cons_self _ here) (ih fun old member => ?_)
      exact implies old (mem_cons_of_mem _ member)

/-- Pointwise relations compose. -/
theorem forall₂_trans {final : List ρ} {between : ρ → ρ → Prop} {start middle : List ρ}
    (transitive : ∀ old kept new, between old kept → between kept new → between old new)
    (first : Forall₂ between start middle) (second : Forall₂ between middle final) :
    Forall₂ between start final := by
  induction first generalizing final with
  | nil => exact second
  | cons here _ ih =>
      cases second with
      | cons next rest => exact .cons (transitive _ _ _ here next) (ih rest)

variable {condition : ρ → Bool}

/-- Rewriting rows in place keeps a sum over the rows that satisfy a condition
when it keeps the condition and, where it holds, the summand. -/
theorem sum_filter_of_forall₂ {rows rewritten : List ρ} {amount : ρ → ℚ}
    (pointwise : Forall₂ (fun old new => condition new = condition old ∧
      (condition old = true → amount new = amount old)) rows rewritten) :
    ((rewritten.filter condition).map amount).sum = ((rows.filter condition).map amount).sum := by
  induction pointwise with
  | nil => rfl
  | @cons old new rows rewritten here _ ih =>
      obtain ⟨sameCondition, sameAmount⟩ := here
      cases holds : condition old with
      | false => simpa [filter_cons, sameCondition, holds] using ih
      | true => simpa [filter_cons, sameCondition, holds, sameAmount holds] using ih

end Pointwise

/-! ## Tables -/

/-- Rows in insertion order, with no two sharing their primary key. -/
structure Table (ρ : Type u) (κ : Type v) (key : ρ → κ) where
  rows : List ρ
  nodup : (rows.map key).Nodup

namespace Table

variable {ρ : Type u} {κ : Type v} {key : ρ → κ}

/-- The table without rows. -/
def empty : Table ρ κ key := ⟨[], by simp⟩

@[simp] theorem rows_empty : (empty : Table ρ κ key).rows = [] := rfl

variable {table : Table ρ κ key}

/-- Two rows of a table with the same key are the same row. -/
theorem eq_of_key {first second : ρ} (left : first ∈ table.rows)
    (right : second ∈ table.rows) (same : key first = key second) : first = second :=
  inj_on_of_nodup_map table.nodup left right same

/-- The rows a query with no ordering clause returns. -/
def select (table : Table ρ κ key) (condition : ρ → Bool) : List ρ :=
  table.rows.filter condition

@[simp] theorem mem_select :
    row ∈ table.select condition ↔ row ∈ table.rows ∧ condition row = true := by
  simp [select]

section Lookup

variable [DecidableEq κ]

/-- Lookup by primary key. -/
def get? (table : Table ρ κ key) (k : κ) : Option ρ :=
  table.rows.find? fun row => key row = k

theorem get?_eq_some {k : κ} :
    table.get? k = some row ↔ row ∈ table.rows ∧ key row = k := by
  constructor
  · intro found
    exact ⟨mem_of_find?_eq_some found, by simpa using find?_some found⟩
  · rintro ⟨member, rfl⟩
    cases found : table.get? (key row) with
    | none =>
        have absent := find?_eq_none.1 found row member
        simp at absent
    | some other =>
        have otherMember := mem_of_find?_eq_some found
        have otherKey : key other = key row := by simpa using find?_some found
        rw [eq_of_key otherMember member otherKey]

theorem mem_of_get? {k : κ} (found : table.get? k = some row) :
    row ∈ table.rows := (get?_eq_some.1 found).1

theorem key_of_get? {k : κ} (found : table.get? k = some row) :
    key row = k := (get?_eq_some.1 found).2

theorem get?_of_mem (member : row ∈ table.rows) :
    table.get? (key row) = some row := get?_eq_some.2 ⟨member, rfl⟩

theorem get?_eq_none {k : κ} :
    table.get? k = none ↔ ∀ row ∈ table.rows, key row ≠ k := by
  simp [get?]

@[simp] theorem get?_empty (k : κ) : (empty : Table ρ κ key).get? k = none := rfl

/-- A sum over the rows of one key has at most one summand. -/
theorem sum_key (table : Table ρ κ key) (k : κ) (amount : ρ → ℚ) :
    ((table.rows.filter fun row => key row = k).map amount).sum =
      ((table.get? k).map amount).getD 0 := by
  have distinct := table.nodup
  unfold get?
  generalize table.rows = rows at distinct
  induction rows with
  | nil => rfl
  | cons row rows ih =>
      obtain ⟨absent, distinct⟩ := nodup_cons.1 distinct
      by_cases same : key row = k
      · subst same
        have others : rows.filter (fun other => key other = key row) = [] := by
          rw [filter_eq_nil_iff]
          intro other member equal
          exact absent (mem_map.2 ⟨other, member, of_decide_eq_true equal⟩)
        simp [others]
      · simpa [filter_cons, List.find?_cons, same] using ih distinct

variable {table next : Table ρ κ key}

/-- Two tables related row by row have related rows of every key. -/
theorem get?_of_forall₂ {related : ρ → ρ → Prop}
    (pointwise : Forall₂ related table.rows next.rows)
    (keeps : ∀ old new, related old new → key new = key old) (k : κ) :
    (table.get? k = none ∧ next.get? k = none) ∨
      ∃ old new, table.get? k = some old ∧ next.get? k = some new ∧ related old new := by
  cases found : table.get? k with
  | none =>
      refine .inl ⟨rfl, get?_eq_none.2 fun new member => ?_⟩
      obtain ⟨old, oldMember, holds⟩ := exists_left_of_mem pointwise member
      rw [keeps old new holds]
      exact get?_eq_none.1 found old oldMember
  | some old =>
      obtain ⟨member, rfl⟩ := get?_eq_some.1 found
      obtain ⟨new, newMember, holds⟩ := exists_right_of_mem pointwise member
      exact .inr ⟨old, new, rfl, get?_eq_some.2 ⟨newMember, keeps old new holds⟩, holds⟩

/-- Insert a row whose key is new. -/
def insert? (table : Table ρ κ key) (row : ρ) : Option (Table ρ κ key) :=
  if fresh : ∀ other ∈ table.rows, key other ≠ key row then
    some ⟨table.rows ++ [row], by
      rw [map_append, nodup_append]
      refine ⟨table.nodup, by simp, ?_⟩
      simp only [mem_map, map_cons, map_nil, mem_singleton]
      rintro _ ⟨other, member, rfl⟩ _ rfl
      exact fresh other member⟩
  else none

/-- A successful insertion appends the row, whose key was new. -/
theorem insert?_eq_some
    (inserted : table.insert? row = some next) :
    next.rows = table.rows ++ [row] ∧ table.get? (key row) = none := by
  unfold insert? at inserted
  split at inserted
  next fresh =>
    cases inserted
    exact ⟨rfl, get?_eq_none.2 fresh⟩
  next => cases inserted

/-- A row whose key is new can be inserted. -/
theorem insert?_of_absent
    (absent : table.get? (key row) = none) : ∃ next, table.insert? row = some next :=
  ⟨_, dif_pos (get?_eq_none.1 absent)⟩

theorem get?_insert?
    (inserted : table.insert? row = some next) (k : κ) :
    next.get? k = if key row = k then some row else table.get? k := by
  obtain ⟨rows, fresh⟩ := insert?_eq_some inserted
  unfold get? at fresh ⊢
  rw [rows, List.find?_append]
  by_cases same : key row = k
  · subst same
    simp [fresh]
  · simp [same]

/-- Insert rows one after another. -/
def insertAll? (table : Table ρ κ key) : List ρ → Option (Table ρ κ key)
  | [] => some table
  | row :: rest => (table.insert? row).bind fun next => insertAll? next rest

theorem insertAll?_eq_some {added : List ρ}
    (inserted : table.insertAll? added = some next) : next.rows = table.rows ++ added := by
  induction added generalizing table with
  | nil =>
      cases inserted
      simp
  | cons row rest ih =>
      obtain ⟨middle, first, later⟩ := bind_eq_some_iff.1 inserted
      rw [ih later, (insert?_eq_some first).1]
      simp

/-- Rows of distinct keys can be inserted where none of the keys is there. -/
theorem insertAll?_of_absent {added : List ρ}
    (distinct : (added.map key).Nodup) (absent : ∀ row ∈ added, table.get? (key row) = none) :
    ∃ next, table.insertAll? added = some next := by
  induction added generalizing table with
  | nil => exact ⟨table, rfl⟩
  | cons row rest ih =>
      obtain ⟨fresh, others⟩ := nodup_cons.1 distinct
      obtain ⟨middle, inserted⟩ := insert?_of_absent (absent row mem_cons_self)
      have later : ∀ other ∈ rest, middle.get? (key other) = none := by
        intro other member
        rw [get?_insert? inserted, if_neg]
        · exact absent other (mem_cons_of_mem _ member)
        · intro same
          exact fresh (same ▸ mem_map_of_mem member)
      obtain ⟨next, all⟩ := ih others later
      exact ⟨next, by rw [insertAll?, inserted, Option.bind_some, all]⟩

end Lookup

/-- Rewrite every row by a function that keeps its key. -/
def modify (table : Table ρ κ key) (rewrite : ρ → ρ)
    (keeps : ∀ row, key (rewrite row) = key row) : Table ρ κ key where
  rows := table.rows.map rewrite
  nodup := by
    have same : key ∘ rewrite = key := funext keeps
    rw [map_map, same]
    exact table.nodup

@[simp] theorem rows_modify (table : Table ρ κ key) (rewrite : ρ → ρ)
    (keeps : ∀ row, key (rewrite row) = key row) :
    (table.modify rewrite keeps).rows = table.rows.map rewrite := rfl

theorem get?_modify [DecidableEq κ] (table : Table ρ κ key) (rewrite : ρ → ρ)
    (keeps : ∀ row, key (rewrite row) = key row) (k : κ) :
    (table.modify rewrite keeps).get? k = (table.get? k).map rewrite := by
  simp [get?, List.find?_map, keeps]

variable {rewrite : ρ → ρ}

/-- A query does not see a rewriting that keeps the rows it returns, and brings in
no others. -/
theorem select_modify
    (keeps : ∀ row, key (rewrite row) = key row)
    (unseen : ∀ row ∈ table.rows, rewrite row = row ∨
      (condition row = false ∧ condition (rewrite row) = false)) :
    (table.modify rewrite keeps).select condition = table.select condition := by
  unfold select
  rw [rows_modify]
  generalize table.rows = rows at unseen
  induction rows with
  | nil => rfl
  | cons row rest ih =>
      have later := ih fun other member => unseen other (mem_cons_of_mem _ member)
      rcases unseen row mem_cons_self with same | ⟨before, after⟩
      · rw [map_cons, same, filter_cons, filter_cons, later]
      · rw [map_cons, filter_cons, filter_cons, later, before, after]
        rfl

/-- A query does not see a new row that does not satisfy its condition. -/
theorem select_insert? [DecidableEq κ] (inserted : table.insert? row = some next)
    (unseen : condition row = false) : next.select condition = table.select condition := by
  unfold select
  rw [(insert?_eq_some inserted).1, filter_append, filter_cons, unseen]
  simp

def update [DecidableEq κ] (table : Table ρ κ key) (k : κ) (rewrite : ρ → ρ)
    (keeps : ∀ row, key (rewrite row) = key row) : Table ρ κ key :=
  table.modify (fun row => if key row = k then rewrite row else row) (by
    intro row
    split
    · exact keeps row
    · rfl)

@[simp] theorem rows_update [DecidableEq κ] (table : Table ρ κ key) (k : κ) (rewrite : ρ → ρ)
    (keeps : ∀ row, key (rewrite row) = key row) :
    (table.update k rewrite keeps).rows =
      table.rows.map fun row => if key row = k then rewrite row else row := rfl

/-- Row by row, an update relates what its rewriting relates. -/
theorem forall₂_update [DecidableEq κ] (table : Table ρ κ key) (k : κ)
    (keeps : ∀ row, key (rewrite row) = key row) {related : ρ → ρ → Prop}
    (same : ∀ row, related row row) (rewritten : ∀ row, related row (rewrite row)) :
    Forall₂ related table.rows (table.update k rewrite keeps).rows := by
  rw [rows_update, forall₂_map_right_iff, forall₂_same]
  intro row _
  split
  · exact rewritten row
  · exact same row

theorem get?_update [DecidableEq κ] (table : Table ρ κ key) (k : κ) (rewrite : ρ → ρ)
    (keeps : ∀ row, key (rewrite row) = key row) (other : κ) :
    (table.update k rewrite keeps).get? other =
      if k = other then (table.get? other).map rewrite else table.get? other := by
  rw [update, get?_modify]
  cases found : table.get? other with
  | none => simp
  | some row =>
      obtain ⟨-, same⟩ := get?_eq_some.1 found
      by_cases equal : k = other
      · simp [equal, same]
      · have different : key row ≠ k := fun hit => equal (hit.symm.trans same)
        simp [equal, different]

/-- A row of an updated table is the rewritten row of the key or another row. -/
theorem cases_get?_update [DecidableEq κ] {k other : κ}
    (keeps : ∀ row, key (rewrite row) = key row) {row new : ρ} (found : table.get? k = some row)
    (updated : (table.update k rewrite keeps).get? other = some new) :
    (other = k ∧ new = rewrite row) ∨ (other ≠ k ∧ table.get? other = some new) := by
  rw [get?_update] at updated
  split at updated
  next same =>
    rw [← same, found] at updated
    cases updated
    exact .inl ⟨same.symm, rfl⟩
  next different => exact .inr ⟨fun same => different same.symm, updated⟩

/-- An update is not seen in a column that its rewriting keeps. -/
theorem map_get?_update [DecidableEq κ] (table : Table ρ κ key) (k : κ)
    (keeps : ∀ row, key (rewrite row) = key row) {γ : Type w} (column : ρ → γ)
    (kept : ∀ row, column (rewrite row) = column row) (other : κ) :
    ((table.update k rewrite keeps).get? other).map column = (table.get? other).map column := by
  rw [get?_update]
  split
  · cases table.get? other with
    | none => rfl
    | some row => exact congrArg some (kept row)
  · rfl

theorem select_update [DecidableEq κ] {k : κ}
    (keeps : ∀ row, key (rewrite row) = key row)
    (unseen : ∀ row ∈ table.rows, key row = k →
      condition row = false ∧ condition (rewrite row) = false) :
    (table.update k rewrite keeps).select condition = table.select condition := by
  refine select_modify _ fun row member => ?_
  by_cases hit : key row = k
  · obtain ⟨before, after⟩ := unseen row member hit
    exact .inr ⟨before, by rwa [if_pos hit]⟩
  · exact .inl (if_neg hit)

/-- Store a row: in the place of the row of its key if there is one, else at the
end. -/
def put [DecidableEq κ] (table : Table ρ κ key) (row : ρ) : Table ρ κ key :=
  match table.insert? row with
  | some next => next
  | none => table.modify (fun other => if key other = key row then row else other) (by
      intro other
      split
      next same => exact same.symm
      next => rfl)

theorem get?_put [DecidableEq κ] (table : Table ρ κ key) (row : ρ) (k : κ) :
    (table.put row).get? k = if key row = k then some row else table.get? k := by
  unfold put
  split
  next next inserted => exact get?_insert? inserted k
  next refused =>
    rw [get?_modify]
    have present : ∃ old, table.get? (key row) = some old := by
      unfold insert? at refused
      split at refused
      · cases refused
      next used =>
        push Not at used
        obtain ⟨old, member, same⟩ := used
        exact ⟨old, get?_eq_some.2 ⟨member, same⟩⟩
    obtain ⟨old, found⟩ := present
    by_cases same : key row = k
    · subst same
      rw [found, if_pos rfl, map_some, if_pos (get?_eq_some.1 found).2]
    · rw [if_neg same]
      cases other : table.get? k with
      | none => rfl
      | some kept =>
          have different : key kept ≠ key row := by
            rw [(get?_eq_some.1 other).2]
            exact fun equal => same equal.symm
          rw [map_some, if_neg different]

/-- Add a row, unless its key is there. -/
def addMissing [DecidableEq κ] (table : Table ρ κ key) (row : ρ) : Table ρ κ key :=
  (table.insert? row).getD table

theorem get?_addMissing [DecidableEq κ] (table : Table ρ κ key) (row : ρ) (k : κ) :
    (table.addMissing row).get? k =
      (table.get? k).or (if key row = k then some row else none) := by
  unfold addMissing
  cases inserted : table.insert? row with
  | none =>
      cases found : table.get? k with
      | some old => rw [Option.getD_none, found, some_or]
      | none =>
          have different : key row ≠ k := by
            rintro rfl
            obtain ⟨next, accepted⟩ := insert?_of_absent found
            rw [inserted] at accepted
            cases accepted
          simp [found, different]
  | some next =>
      rw [Option.getD_some, get?_insert? inserted]
      split
      next same =>
        subst same
        rw [(insert?_eq_some inserted).2, Option.none_or]
      next => rw [Option.or_none]

/-- Of the rows that are added one after another, the first of its key stays. -/
theorem get?_foldl_addMissing [DecidableEq κ] (table : Table ρ κ key) (added : List ρ) (k : κ) :
    (added.foldl addMissing table).get? k =
      (table.get? k).or (added.find? fun row => key row = k) := by
  induction added generalizing table with
  | nil => simp
  | cons row rest ih =>
      rw [foldl_cons, ih, get?_addMissing, Option.or_assoc]
      by_cases same : key row = k <;> simp [same]

/-- Write back loaded rows: each row of the table whose key is among the
loaded ones takes the loaded contents. -/
def write [DecidableEq κ] (table : Table ρ κ key) (loaded : List ρ) : Table ρ κ key :=
  table.modify (fun row => (loaded.find? fun other => key other = key row).getD row) (by
    intro row
    cases found : loaded.find? fun other => key other = key row with
    | none => rfl
    | some other => simpa using find?_some found)

/-- Writing loaded rows back, row by row: a loaded row takes its new contents,
any other row stays. -/
theorem forall₂_write [DecidableEq κ] {loaded written : List ρ}
    {related : ρ → ρ → Prop} (members : ∀ row ∈ loaded, row ∈ table.rows)
    (pointwise : Forall₂ (fun old new => key new = key old ∧ related old new)
      loaded written) :
    Forall₂ (fun old new => (old ∈ loaded ∧ related old new) ∨ (old ∉ loaded ∧ new = old))
      table.rows (table.write written).rows := by
  rw [write, rows_modify, forall₂_map_right_iff, forall₂_same]
  intro row member
  cases found : written.find? fun other => key other = key row with
  | none =>
      refine .inr ⟨fun loadedRow => ?_, by simp⟩
      obtain ⟨new, newMember, same, -⟩ := exists_right_of_mem pointwise loadedRow
      simpa [same] using find?_eq_none.1 found new newMember
  | some new =>
      have newMember := mem_of_find?_eq_some found
      have same : key new = key row := by simpa using find?_some found
      obtain ⟨old, oldMember, keeps, holds⟩ := exists_left_of_mem pointwise newMember
      have equal : old = row := eq_of_key (members old oldMember) member (keeps.symm.trans same)
      exact .inl ⟨equal ▸ oldMember, by simpa [equal] using holds⟩

end Table

export Table (cases_get?_update eq_of_key get?_eq_some get?_insert? get?_modify get?_of_mem get?_put
  get?_update insert?_eq_some key_of_get? mem_of_get? mem_select select)

end Foundations
