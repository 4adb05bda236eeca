import Mathlib

/-!
# Draining a queue in batches

Elements wait in a linear order.  A tick takes the `limit` least of them and removes
those that are not blocked; a blocked element keeps its place.  Nothing arrives.

An element that is not blocked leaves exactly when fewer than `limit` blocked elements
wait before it (`Drains.leaves_iff`): the blocked elements before it never leave, and
each tick that does not reach it takes one that is not blocked from before it.
-/

namespace Foundations

universe u

variable {α : Type u} [LinearOrder α]

/-! ## The front of a sorted list -/

/-- In a list that increases strictly, the first `limit` elements are those with fewer
than `limit` elements below them. -/
theorem mem_take_iff_of_pairwise_lt {sorted : List α} (increasing : sorted.Pairwise (· < ·))
    (limit : ℕ) (element : α) :
    element ∈ sorted.take limit ↔
      element ∈ sorted ∧ (sorted.filter (· < element)).length < limit := by
  induction sorted generalizing limit with
  | nil => simp
  | cons first rest ih =>
      obtain ⟨least, increasing⟩ := List.pairwise_cons.1 increasing
      cases limit with
      | zero => simp
      | succ limit =>
          rw [List.take_succ_cons, List.mem_cons, List.mem_cons, ih increasing]
          by_cases here : element = first
          · have none_below : (first :: rest).filter (· < element) = [] := by
              rw [List.filter_eq_nil_iff]
              intro other member below
              rw [here, decide_eq_true_eq] at below
              rcases List.mem_cons.1 member with rfl | later
              · exact lt_irrefl _ below
              · exact lt_asymm below (least other later)
            rw [none_below]
            simp [here]
          · simp only [here, false_or]
            refine and_congr_right fun member => ?_
            rw [List.filter_cons_of_pos (by simpa using least element member), List.length_cons]
            omega

/-! ## Draining -/

/-- What waits after each tick: whatever is blocked, or was too late for the batch. -/
def Drains (limit : ℕ) (blocked : α → Prop) (waiting : ℕ → Finset α) : Prop :=
  ∀ tick element, element ∈ waiting (tick + 1) ↔
    element ∈ waiting tick ∧
      (blocked element ∨ limit ≤ ((waiting tick).filter (· < element)).card)

namespace Drains

variable {limit : ℕ} {blocked : α → Prop} {waiting : ℕ → Finset α}

/-- Nothing arrives. -/
theorem subset (drains : Drains limit blocked waiting) (tick : ℕ) :
    waiting (tick + 1) ⊆ waiting tick := fun element member => ((drains tick element).1 member).1

/-- The elements that wait before one are fewer after a tick that does not reach it, if
too few of them are blocked. -/
theorem before_decreases [DecidablePred blocked] (drains : Drains limit blocked waiting)
    {tick : ℕ} {element : α}
    (late : limit ≤ ((waiting tick).filter (· < element)).card)
    (few : ((waiting tick).filter fun other => blocked other ∧ other < element).card < limit) :
    ((waiting (tick + 1)).filter (· < element)).card <
      ((waiting tick).filter (· < element)).card := by
  -- the least element before this one that is not blocked is in the batch
  have some_free : ((waiting tick).filter fun other =>
      ¬ blocked other ∧ other < element).Nonempty := by
    rw [Finset.nonempty_iff_ne_empty]
    intro none_free
    have all_blocked : (waiting tick).filter (· < element) =
        (waiting tick).filter fun other => blocked other ∧ other < element := by
      ext other
      simp only [Finset.mem_filter]
      constructor
      · rintro ⟨member, below⟩
        refine ⟨member, ?_, below⟩
        by_contra free
        exact Finset.filter_eq_empty_iff.1 none_free member ⟨free, below⟩
      · rintro ⟨member, -, below⟩
        exact ⟨member, below⟩
    rw [all_blocked] at late
    omega
  obtain ⟨first, isFirst⟩ := Finset.exists_minimal some_free
  obtain ⟨member, free, below⟩ := Finset.mem_filter.1 isFirst.prop
  have reached : ((waiting tick).filter (· < first)).card < limit := by
    refine lt_of_le_of_lt (Finset.card_le_card fun other listed => ?_) few
    obtain ⟨otherMember, earlier⟩ := Finset.mem_filter.1 listed
    refine Finset.mem_filter.2 ⟨otherMember, ?_, earlier.trans below⟩
    by_contra otherFree
    have listed : other ∈ (waiting tick).filter fun other => ¬ blocked other ∧ other < element :=
      Finset.mem_filter.2 ⟨otherMember, otherFree, earlier.trans below⟩
    exact absurd (isFirst.le_of_le listed earlier.le) (not_le.2 earlier)
  have gone : first ∉ waiting (tick + 1) := fun still => by
    rcases ((drains tick first).1 still).2 with holds | late
    · exact free holds
    · omega
  have shrinks := Finset.filter_subset_filter (· < element) (drains.subset tick)
  refine Finset.card_lt_card (Finset.ssubset_iff_of_subset shrinks |>.mpr ⟨first, ?_, ?_⟩)
  · exact Finset.mem_filter.2 ⟨member, below⟩
  · exact fun listed => gone (Finset.mem_filter.1 listed).1

/-- **What leaves**: an element that is not blocked leaves when, and only when, fewer than
`limit` blocked elements wait before it. -/
theorem leaves_iff [DecidablePred blocked] (drains : Drains limit blocked waiting) {element : α}
    (start : element ∈ waiting 0) (free : ¬ blocked element) :
    (∃ tick, element ∉ waiting tick) ↔
      ((waiting 0).filter fun other => blocked other ∧ other < element).card < limit := by
  have same (tick : ℕ) : ((waiting tick).filter fun other => blocked other ∧ other < element) =
      (waiting 0).filter fun other => blocked other ∧ other < element := by
    induction tick with
    | zero => rfl
    | succ tick ih =>
        rw [← ih]
        ext other
        simp only [Finset.mem_filter, drains tick other]
        tauto
  constructor
  · contrapose!
    intro many tick
    induction tick with
    | zero => exact start
    | succ tick ih =>
        refine (drains tick element).2 ⟨ih, .inr ?_⟩
        calc limit
            ≤ ((waiting tick).filter fun other => blocked other ∧ other < element).card := by
              rw [same tick]
              exact many
          _ ≤ ((waiting tick).filter (· < element)).card :=
              Finset.card_le_card (Finset.monotone_filter_right _ fun _ _ both => both.2)
  · intro few
    by_contra stays
    push Not at stays
    -- while the element waits, fewer and fewer elements wait before it
    have decreases (tick : ℕ) : ((waiting (tick + 1)).filter (· < element)).card <
        ((waiting tick).filter (· < element)).card := by
      rcases ((drains tick element).1 (stays (tick + 1))).2 with holds | late
      · exact absurd holds free
      · exact drains.before_decreases late (by rwa [same tick])
    have bounded (tick : ℕ) : ((waiting tick).filter (· < element)).card + tick ≤
        ((waiting 0).filter (· < element)).card := by
      induction tick with
      | zero => exact le_rfl
      | succ tick ih =>
          have fewer := decreases tick
          omega
    have overrun := bounded (((waiting 0).filter (· < element)).card + 1)
    omega

end Drains

end Foundations
