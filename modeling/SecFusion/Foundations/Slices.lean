import Mathlib.Data.List.DropRight
import Mathlib.Data.List.TakeWhile
import Mathlib.Tactic.Common

/-!
# Slices of a list

A slice, a list trimmed at both ends of elements that do not count, and the windows that slide
over a list: of one size, each starting a step after the one before, up to the first that
reaches the end.
-/

namespace Foundations

universe u

variable {α : Type u} {blank : α → Bool} {items : List α}

/-! ## Trimming -/

/-- Without the blanks at either end. -/
def trim (blank : α → Bool) (items : List α) : List α :=
  (items.dropWhile blank).rdropWhile blank

/-- Neither the first nor the last element is blank. -/
def Flush (blank : α → Bool) (items : List α) : Prop :=
  (∀ first ∈ items.head?, blank first = false) ∧ ∀ last ∈ items.getLast?, blank last = false

instance : Decidable (Flush blank items) :=
  decidable_of_iff (items.head?.all (!blank ·) ∧ items.getLast?.all (!blank ·)) (by
    simp [Flush, Option.all_eq_true_iff_get, Option.eq_some_iff_get_eq])

theorem trim_eq_nil_iff : trim blank items = [] ↔ ∀ item ∈ items, blank item = true := by
  rw [trim, List.rdropWhile_eq_nil_iff]
  constructor
  · intro blanks item member
    rw [← List.takeWhile_append_dropWhile (p := blank) (l := items)] at member
    rcases List.mem_append.1 member with dropped | left
    · exact List.mem_takeWhile_imp dropped
    · exact blanks item left
  · exact fun blanks item member => blanks item ((List.dropWhile_sublist blank).subset member)

theorem flush_trim : Flush blank (trim blank items) := by
  constructor
  · intro first starts
    have starts' : (items.dropWhile blank).head? = some first := by
      obtain ⟨rest, same⟩ := List.rdropWhile_prefix (p := blank) (l := items.dropWhile blank)
      rw [trim, Option.mem_def] at starts
      rw [← same, List.head?_append, starts, Option.some_or]
    have notBlank := List.head?_dropWhile_not blank items
    rw [starts'] at notBlank
    exact notBlank
  · intro last ends
    have nonempty : trim blank items ≠ [] := by
      intro empty
      simp [empty] at ends
    have notBlank := List.rdropWhile_last_not blank (items.dropWhile blank) nonempty
    rw [Option.mem_def, List.getLast?_eq_getLast_of_ne_nil nonempty, Option.some.injEq] at ends
    subst ends
    exact Bool.eq_false_iff.2 notBlank

theorem dropWhile_eq_self (starts : ∀ first ∈ items.head?, blank first = false) :
    items.dropWhile blank = items := by
  cases items with
  | nil => rfl
  | cons first rest => rw [List.dropWhile_cons, starts first rfl, if_neg Bool.false_ne_true]

/-- A list is trimmed when neither end is blank. -/
theorem trim_eq_self_iff : trim blank items = items ↔ Flush blank items := by
  constructor
  · intro same
    rw [← same]
    exact flush_trim
  · rintro ⟨starts, ends⟩
    rw [trim, dropWhile_eq_self starts, List.rdropWhile_eq_self_iff]
    intro nonempty
    have notBlank := ends _ (List.getLast?_eq_getLast_of_ne_nil nonempty)
    simpa using notBlank

/-- What is not blank at its start is only shortened at its end. -/
theorem trim_prefix (starts : ∀ first ∈ items.head?, blank first = false) :
    ∃ blanks, items = trim blank items ++ blanks ∧ ∀ item ∈ blanks, blank item = true := by
  refine ⟨items.rtakeWhile blank, ?_, fun item member => List.mem_rtakeWhile_imp member⟩
  rw [trim, dropWhile_eq_self starts, List.rdropWhile_append_rtakeWhile]

/-! ## Slices -/

/-- The elements from one position up to another. -/
def slice (items : List α) (start stop : ℕ) : List α := (items.drop start).take (stop - start)

variable {start stop i : ℕ}

theorem mem_slice {item : α} (found : items[i]? = some item) (above : start ≤ i) (below : i < stop) :
    item ∈ slice items start stop := by
  refine List.mem_of_getElem? (i := i - start) ?_
  rw [slice, List.getElem?_take_of_lt (by omega), List.getElem?_drop]
  rw [show start + (i - start) = i by omega]
  exact found

theorem slice_append_left {rest : List α} (within : stop ≤ items.length) :
    slice (items ++ rest) start stop = slice items start stop := by
  ext i
  simp only [slice, List.getElem?_take, List.getElem?_drop]
  split
  · rw [List.getElem?_append_left (by omega)]
  · rfl

theorem head?_slice_zero (wide : 0 < stop) :
    (slice items 0 stop).head? = items.head? := by
  rw [slice, List.drop_zero, Nat.sub_zero, List.head?_take, if_neg (by omega)]

/-! ## Slices of a part of a list -/

/-- In a part of a list of distinct elements an element stands no later than in the list. -/
theorem index_le_of_sublist {part : List α} (within : part.Sublist items) (nodup : items.Nodup)
    {item : α} {j : ℕ} (here : part[i]? = some item) (there : items[j]? = some item) :
    i ≤ j := by
  induction within generalizing i j with
  | slnil => simp at here
  | cons other rest ih =>
      obtain ⟨absent, distinct⟩ := List.nodup_cons.1 nodup
      cases j with
      | zero =>
          obtain rfl := Option.some.inj there
          exact absurd (rest.subset (List.mem_of_getElem? here)) absent
      | succ j => exact Nat.le_succ_of_le (ih distinct here there)
  | cons_cons other rest ih =>
      obtain ⟨absent, distinct⟩ := List.nodup_cons.1 nodup
      cases i with
      | zero => exact Nat.zero_le j
      | succ i =>
          cases j with
          | zero =>
              obtain rfl := Option.some.inj there
              exact absurd (rest.subset (List.mem_of_getElem? here)) absent
          | succ j => exact Nat.succ_le_succ (ih distinct here there)

theorem slice_cons_succ (item : α) (start stop : ℕ) :
    slice (item :: items) (start + 1) (stop + 1) = slice items start stop := by
  rw [slice, slice, List.drop_succ_cons, Nat.add_sub_add_right]

theorem slice_eq_nil_iff (wide : start < stop) :
    slice items start stop = [] ↔ items.length ≤ start := by
  rw [slice, List.take_eq_nil_iff, List.drop_eq_nil_iff]
  omega

theorem head?_slice (wide : start < stop) :
    (slice items start stop).head? = items[start]? := by
  rw [slice, List.head?_take, if_neg (by omega), List.head?_drop]

theorem slice_cons_zero (item : α) (stop : ℕ) :
    slice (item :: items) 0 (stop + 1) = item :: slice items 0 stop := by simp [slice]

/-- When the first element is dropped, a slice can only stay the same where both are empty:
an element that it has would stand before itself. -/
theorem length_le_of_slice_filter {kept : α → Bool} {item : α} (nodup : (item :: items).Nodup)
    (wide : start < stop)
    (same : slice (items.filter kept) start stop = slice (item :: items) start stop) :
    (item :: items).length ≤ start := by
  obtain ⟨absent, distinct⟩ := List.nodup_cons.1 nodup
  by_contra inside
  have nonempty : start < (item :: items).length := Nat.lt_of_not_le inside
  have heads := congrArg List.head? same
  rw [head?_slice wide, head?_slice wide, List.getElem?_eq_getElem nonempty] at heads
  cases start with
  | zero =>
      have listed := List.mem_of_getElem? heads
      exact absent (List.mem_of_mem_filter listed)
  | succ start =>
      rw [List.getElem_cons_succ] at heads
      have within : start < items.length := by simpa using nonempty
      have earlier := index_le_of_sublist List.filter_sublist distinct heads
        (List.getElem?_eq_getElem within)
      omega

/-- A slice of the elements that are kept is the slice of all of them when there is nothing to
slice, or when everything up to its end is kept; and only then. -/
theorem slice_filter_eq_iff {kept : α → Bool} (nodup : items.Nodup) (wide : start < stop) :
    slice (items.filter kept) start stop = slice items start stop ↔
      items.length ≤ start ∨ ∀ item ∈ items.take stop, kept item = true := by
  induction items generalizing start stop with
  | nil => simp [slice]
  | cons item rest ih =>
      have distinct := nodup.of_cons
      obtain ⟨stop, rfl⟩ : ∃ before, stop = before + 1 := ⟨stop - 1, by omega⟩
      by_cases keeps : kept item = true
      · rw [List.filter_cons_of_pos keeps]
        cases start with
        | zero =>
            -- the first element is sliced on both sides
            rw [slice_cons_zero, slice_cons_zero, List.cons.injEq, and_iff_right rfl]
            rcases Nat.eq_zero_or_pos stop with rfl | more
            · simp [slice, keeps]
            · rw [ih distinct more]
              cases rest <;> simp [keeps]
        | succ start =>
            rw [slice_cons_succ, slice_cons_succ, ih distinct (by omega)]
            simp [keeps]
      · rw [List.filter_cons_of_neg keeps]
        have dropped : ¬ ∀ other ∈ (item :: rest).take (stop + 1), kept other = true := by
          intro all
          exact keeps (all item (by simp))
        rw [or_iff_left dropped]
        refine ⟨length_le_of_slice_filter nodup wide, fun outside => ?_⟩
        have short : (rest.filter kept).length ≤ start := by
          have := List.length_filter_le kept rest
          rw [List.length_cons] at outside
          omega
        rw [(slice_eq_nil_iff wide).2 short, (slice_eq_nil_iff wide).2 outside]

/-- The slices of pages that follow one another are one slice. -/
theorem flatMap_pages (items : List α) (start size pages : ℕ) :
    ((List.range pages).flatMap fun page =>
      slice items (start + page * size) (start + page * size + size)) =
        slice items start (start + pages * size) := by
  induction pages with
  | zero => simp [slice]
  | succ pages ih =>
      rw [List.range_succ, List.flatMap_append, ih, List.flatMap_singleton]
      simp only [slice, Nat.add_sub_cancel_left]
      rw [Nat.succ_mul, List.take_add, List.drop_drop]

/-! ## Sliding windows -/

/-- The windows of one size, neighbours sharing less than a window. -/
structure Windowing where
  (size overlap : ℕ)
  below : overlap < size

namespace Windowing

/-- How far a window starts after the one before. -/
def step (windowing : Windowing) : ℕ := windowing.size - windowing.overlap

theorem step_pos (windowing : Windowing) : 0 < windowing.step :=
  Nat.sub_pos_of_lt windowing.below

/-- The windows from a start on, as their two ends: the last reaches the end of the list. -/
def windowsFrom (windowing : Windowing) (length start : ℕ) : List (ℕ × ℕ) :=
  if start < length then
    let stop := min length (start + windowing.size)
    if stop = length then [(start, stop)]
    else (start, stop) :: windowing.windowsFrom length (start + windowing.step)
  else []
termination_by length - start
decreasing_by
  have := windowing.step_pos
  omega

def windows (windowing : Windowing) (length : ℕ) : List (ℕ × ℕ) := windowing.windowsFrom length 0

variable {windowing : Windowing} {length : ℕ}

theorem windowsFrom_of_lt (inside : start < length) :
    windowing.windowsFrom length start =
      (start, min length (start + windowing.size)) ::
        if min length (start + windowing.size) = length then []
        else windowing.windowsFrom length (start + windowing.step) := by
  conv => lhs; unfold windowsFrom
  rw [if_pos inside]
  dsimp only
  split <;> rfl

/-- A window is not empty, stays inside and is no longer than the size. -/
theorem bounds {window : ℕ × ℕ} (member : window ∈ windowing.windowsFrom length start) :
    start ≤ window.1 ∧ window.1 < window.2 ∧ window.2 ≤ length ∧
      window.2 ≤ window.1 + windowing.size := by
  have wide : 0 < windowing.size := by have := windowing.below; omega
  induction start using windowsFrom.induct windowing length with
  | case1 start inside stop last =>
      rw [windowsFrom_of_lt inside, if_pos last, List.mem_singleton] at member
      subst member
      omega
  | case2 start inside stop notLast ih =>
      rw [windowsFrom_of_lt inside, if_neg notLast] at member
      rcases List.mem_cons.1 member with rfl | later
      · omega
      · have := ih later
        omega
  | case3 start outside =>
      rw [windowsFrom, if_neg outside] at member
      cases member

/-- Every position lies in a window. -/
theorem covers (above : start ≤ i) (inside : i < length) :
    ∃ window ∈ windowing.windowsFrom length start, window.1 ≤ i ∧ i < window.2 := by
  induction start using windowsFrom.induct windowing length with
  | case1 start before stop last =>
      rw [windowsFrom_of_lt before]
      exact ⟨_, List.mem_cons_self, above, inside.trans_eq last.symm⟩
  | case2 start before stop notLast ih =>
      rw [windowsFrom_of_lt before, if_neg notLast]
      -- the next window starts before this one ends, so no position falls between them
      have short : windowing.step ≤ windowing.size := Nat.sub_le _ _
      by_cases here : i < min length (start + windowing.size)
      · exact ⟨_, List.mem_cons_self, above, here⟩
      · obtain ⟨window, member, holds⟩ := ih (by omega)
        exact ⟨window, List.mem_cons_of_mem _ member, holds⟩
  | case3 start outside => omega

/-- Each window starts at least a step after every earlier one. -/
theorem spaced : (windowing.windowsFrom length start).Pairwise
    fun first second => first.1 + windowing.step ≤ second.1 := by
  induction start using windowsFrom.induct windowing length with
  | case1 start inside stop last =>
      rw [windowsFrom_of_lt inside, if_pos last]
      exact List.pairwise_singleton _ _
  | case2 start inside stop notLast ih =>
      rw [windowsFrom_of_lt inside, if_neg notLast]
      exact List.Pairwise.cons (fun window later => (bounds later).1) ih
  | case3 start outside =>
      rw [windowsFrom, if_neg outside]
      exact List.Pairwise.nil

/-- Two windows share at most the overlap. -/
theorem share_le (windowing : Windowing) (length start : ℕ) :
    (windowing.windowsFrom length start).Pairwise
    fun first second => first.2 ≤ second.1 + windowing.overlap := by
  refine (List.Pairwise.and_mem.1 spaced).imp fun {first second} ⟨member, _, apart⟩ => ?_
  have wide := (bounds member).2.2.2
  have := windowing.below
  unfold step at apart
  omega

end Windowing

end Foundations
