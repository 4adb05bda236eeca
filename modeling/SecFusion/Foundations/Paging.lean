import SecFusion.Foundations.Transaction
import Mathlib.Data.List.Sort

/-!
# Pages with cursors

A reader lists rows page by page: a page holds the rows that come next, and a cursor when
there are more.  A keyset cursor names the last row of its page, and the next page begins
after that row in the order of the listing; so over rows that do not change the pages are
the listing, cut into parts (`Lists.following`), whatever the size of a page.
-/

namespace Foundations

universe u v w

variable {α : Type u} {κ : Type v} {ε : Type w}

/-- A page, with the cursor of the next one if there is one. -/
structure Page (α : Type u) (κ : Type v) where
  items : List α
  next : Option κ

/-- The pages that one gets by following the cursors to the end. -/
inductive Following (read : Option κ → Except ε (Page α κ)) : Option κ → List (List α) → Prop
  | last {cursor : Option κ} {page : Page α κ} (answered : read cursor = .ok page)
      (ends : page.next = none) : Following read cursor [page.items]
  | more {cursor : Option κ} {page : Page α κ} {next : κ} {pages : List (List α)}
      (answered : read cursor = .ok page) (continues : page.next = some next)
      (rest : Following read (some next) pages) : Following read cursor (page.items :: pages)

variable {read : Option κ → Except ε (Page α κ)}

/-- Pages that are shown in another way are followed in the same way. -/
theorem Following.mapItems {β : Type u}
    {shown : Option κ → Except ε (Page β κ)} (present : List α → List β) {cursor : Option κ}
    {pages : List (List α)}
    (shows : ∀ cursor page, read cursor = .ok page →
      shown cursor = .ok ⟨present page.items, page.next⟩)
    (following : Following read cursor pages) : Following shown cursor (pages.map present) := by
  induction following with
  | last ok ends => exact .last (shows _ _ ok) ends
  | more ok continues _ ih => exact .more (shows _ _ ok) continues ih

/-! ## Keyset cursors -/

/-- The first page of the rows that are left. -/
def frontPage (key : α → κ) (limit : ℕ) (rows : List α) : Page α κ where
  items := rows.take limit
  next := if limit < rows.length then (rows.take limit).getLast?.map key else none

/-- A reader that begins with the first of the rows, and resumes after the row that its
cursor names. -/
structure Lists (read : Option κ → Except ε (Page α κ)) (key : α → κ) (limit : ℕ)
    (rows : List α) : Prop where
  start : read none = .ok (frontPage key limit rows)
  resume : ∀ front row back, rows = front ++ row :: back →
    read (some (key row)) = .ok (frontPage key limit back)

/-- From a page on, the cursors lead through the rows that were left there. -/
theorem Lists.following_from {key : α → κ} {limit : ℕ}
    {rows : List α} (lists : Lists read key limit rows) (positive : 0 < limit) {front rest : List α}
    (split : rows = front ++ rest) {cursor : Option κ}
    (ok : read cursor = .ok (frontPage key limit rest)) :
    ∃ pages, Following read cursor pages ∧ pages.flatten = rest := by
  induction size : rest.length using Nat.strong_induction_on generalizing front rest cursor with
  | h count ih =>
    -- the induction is on the rows that are left; a page that is not the last takes some
    by_cases fits : limit < rest.length
    · have cut : rest.take limit ≠ [] := by
        rw [Ne, ← length_eq_zero_iff, List.length_take]
        omega
      obtain ⟨init, row, taken⟩ := List.eq_nil_or_concat' (rest.take limit) |>.resolve_left cut
      have parts : rest = init ++ row :: rest.drop limit := by
        calc rest = rest.take limit ++ rest.drop limit := (List.take_append_drop limit rest).symm
          _ = init ++ row :: rest.drop limit := by rw [taken]; simp
      have next : (frontPage key limit rest).next = some (key row) := by
        rw [frontPage, if_pos fits, taken]
        simp
      have resumed : read (some (key row)) = .ok (frontPage key limit (rest.drop limit)) := by
        refine lists.resume (front ++ init) row _ ?_
        rw [append_assoc, ← parts, split]
      have shorter : (rest.drop limit).length < count := by
        rw [List.length_drop]
        omega
      have further : rows = (front ++ rest.take limit) ++ rest.drop limit := by
        rw [append_assoc, List.take_append_drop, split]
      obtain ⟨pages, following, flat⟩ := ih _ shorter further resumed rfl
      refine ⟨_, .more ok next following, ?_⟩
      rw [List.flatten_cons, flat]
      exact List.take_append_drop limit rest
    · refine ⟨_, .last ok (if_neg fits), ?_⟩
      rw [List.flatten_singleton]
      exact List.take_of_length_le (not_lt.1 fits)

/-- **Every row is shown once, in order**, for every size of a page. -/
theorem Lists.following {key : α → κ} {limit : ℕ}
    {rows : List α} (lists : Lists read key limit rows) (positive : 0 < limit) :
    ∃ pages, Following read none pages ∧ pages.flatten = rows :=
  lists.following_from positive (nil_append rows).symm lists.start

/-! ## The rows after a cursor -/

section After

variable (order after : α → α → Prop) [DecidableRel order] [DecidableRel after]

/-- In a sorted list of distinct rows, the rows after one of them are those behind it. -/
theorem filter_after_of_pairwise [Std.Total order]
    (strict : ∀ first second, after first second ↔ ¬ order second first)
    {front back : List α} {row : α} (sorted : (front ++ row :: back).Pairwise order)
    (once : row ∉ back)
    (apart : ∀ other ∈ back, order row other → order other row → other = row) :
    (front ++ row :: back).filter (fun other => after row other) = back := by
  obtain ⟨_, sortedBack, across⟩ := pairwise_append.1 sorted
  obtain ⟨below, _⟩ := pairwise_cons.1 sortedBack
  have before : front.filter (fun other => after row other) = [] := by
    rw [filter_eq_nil_iff]
    intro other member
    simpa [strict] using across other member row mem_cons_self
  have itself : ¬ after row row := by
    rw [strict, not_not]
    exact (Std.Total.total row row).elim id id
  have behind : back.filter (fun other => after row other) = back := by
    rw [filter_eq_self]
    intro other member
    simp only [strict, decide_eq_true_eq]
    -- a row that stood on both sides of the cursor would be the row itself
    intro reverse
    exact once (apart other member (below other member) reverse ▸ member)
  rw [filter_append, filter_cons, before, behind, if_neg (by simpa using itself)]
  rfl

/-- In a listing of distinct rows, those after the row of a cursor are what the listing has
behind it. -/
theorem insertionSort_after [Std.Total order] [IsTrans α order]
    (strict : ∀ first second, after first second ↔ ¬ order second first) {rows : List α}
    (nodup : rows.Nodup) (apart : ∀ first ∈ rows, ∀ second ∈ rows,
      order first second → order second first → first = second)
    {front back : List α} {row : α} (listed : rows.insertionSort order = front ++ row :: back) :
    (rows.filter fun other => after row other).insertionSort order = back := by
  have same : (front ++ row :: back).Perm rows := listed ▸ perm_insertionSort order rows
  have sorted : (front ++ row :: back).Pairwise order := by
    rw [← listed]
    exact pairwise_insertionSort order rows
  have sortedBack : back.Pairwise order := (pairwise_append.1 sorted).2.1.of_cons
  have once : row ∉ back :=
    (nodup_cons.1 (nodup_append.1 (same.nodup_iff.2 nodup)).2.1).1
  have rowStored : row ∈ rows := same.subset (mem_append_right _ mem_cons_self)
  have stored : ∀ other ∈ back, other ∈ rows := fun other member =>
    same.subset (mem_append_right _ (mem_cons_of_mem _ member))
  have kept := filter_after_of_pairwise order after strict sorted once
    fun other member forward reverse => apart other (stored other member) row rowStored reverse
      forward
  have filtered : (rows.filter fun other => after row other).Perm back := by
    rw [← kept]
    exact same.symm.filter _
  have resorted := (perm_insertionSort order _).trans filtered
  refine resorted.eq_of_pairwise ?_ (pairwise_insertionSort _ _) sortedBack
  intro first second left right
  exact apart first (stored first (resorted.subset left)) second (stored second right)

end After

end Foundations
