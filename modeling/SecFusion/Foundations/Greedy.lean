import Mathlib.Data.List.Induction
import Mathlib.Data.List.Perm.Basic

/-!
# Greedy grouping

Elements arrive one after another.  An element that shares something with earlier ones
goes where one of them is, whichever; an element that shares nothing with any of them
starts a class of its own, which it names.  Classes are never merged.

The classes are those of the relation `Linked`, sharing or choosing the same name, in
whatever order the elements arrive, exactly when that relation is transitive on the
elements (`orderFree_iff`).
-/

namespace Foundations

universe u v w

variable {α : Type u} {β : Type v}

/-- A grouping of the elements of a list, in the order in which they arrive. -/
def Greedy (shares : α → α → Prop) (name : α → β) (order : List α) (classOf : α → β) : Prop :=
  ∀ before element after, order = before ++ element :: after →
    (∀ earlier ∈ before, ¬ shares earlier element) ∧ classOf element = name element ∨
      ∃ earlier ∈ before, shares earlier element ∧ classOf element = classOf earlier

/-- Two elements share something, or choose the same name. -/
def Linked (shares : α → α → Prop) (name : α → β) (left right : α) : Prop :=
  shares left right ∨ name left = name right

/-- Links compose on the elements of a list. -/
def LinksCompose (shares : α → α → Prop) (name : α → β) (elements : List α) : Prop :=
  ∀ left ∈ elements, ∀ middle ∈ elements, ∀ right ∈ elements,
    Linked shares name left middle → Linked shares name middle right →
      Linked shares name left right

variable {shares : α → α → Prop} {name : α → β} {order : List α} {classOf : α → β}

theorem Linked.refl (element : α) : Linked shares name element element := .inr rfl

theorem Linked.symm (symmetric : ∀ left right, shares left right → shares right left)
    {left right : α} (linked : Linked shares name left right) : Linked shares name right left :=
  linked.imp (symmetric left right) Eq.symm

namespace Greedy

theorem nil : Greedy shares name [] classOf := fun before element after split => by
  simp at split

/-- The elements that arrive first are grouped by themselves. -/
theorem of_append {front back : List α} (greedy : Greedy shares name (front ++ back) classOf) :
    Greedy shares name front classOf := fun before element after split =>
  greedy before element (after ++ back) (by rw [split, List.append_assoc, List.cons_append])

/-- One more element. -/
theorem snoc {last : α} (greedy : Greedy shares name order classOf)
    (placed : (∀ earlier ∈ order, ¬ shares earlier last) ∧ classOf last = name last ∨
      ∃ earlier ∈ order, shares earlier last ∧ classOf last = classOf earlier) :
    Greedy shares name (order ++ [last]) classOf := by
  intro before element after split
  rcases List.eq_nil_or_concat after with rfl | ⟨front, final, rfl⟩
  · obtain ⟨rfl, rfl⟩ : order = before ∧ last = element := by
      simpa using List.append_inj' split rfl
    exact placed
  · rw [List.concat_eq_append, ← List.cons_append, ← List.append_assoc] at split
    exact greedy before element front (List.append_inj' split rfl).1

/-- What the elements' classes are is all that matters. -/
theorem congr {other : α → β} (greedy : Greedy shares name order classOf)
    (same : ∀ element ∈ order, other element = classOf element) :
    Greedy shares name order other := by
  intro before element after split
  subst split
  rw [same element (by simp)]
  rcases greedy before element after rfl with alone | ⟨earlier, member, sharing, joined⟩
  · exact .inl alone
  · refine .inr ⟨earlier, member, sharing, ?_⟩
    rw [joined, same earlier (List.mem_append_left _ member)]

theorem first_two {first second : α} {rest : List α}
    (greedy : Greedy shares name (first :: second :: rest) classOf) :
    classOf first = name first ∧
      (shares first second ∨ classOf second = name second) := by
  constructor
  · rcases greedy [] first (second :: rest) rfl with alone | ⟨earlier, member, -⟩
    · exact alone.2
    · cases member
  · rcases greedy [first] second rest rfl with alone | ⟨earlier, member, sharing, -⟩
    · exact .inr alone.2
    · exact .inl (List.mem_singleton.1 member ▸ sharing)

/-- Each class is named by an element that is linked to all its members. -/
theorem founder (compose : LinksCompose shares name order)
    (greedy : Greedy shares name order classOf) :
    ∀ element ∈ order, ∃ founder ∈ order,
      classOf element = name founder ∧ Linked shares name founder element := by
  induction order using List.reverseRecOn with
  | nil => nofun
  | append_singleton front last ih =>
      have inFront := ih (fun left l middle m right r => compose left (List.mem_append_left _ l)
        middle (List.mem_append_left _ m) right (List.mem_append_left _ r)) greedy.of_append
      intro element member
      rcases List.mem_append.1 member with earlier | new
      · obtain ⟨founder, present, named, linked⟩ := inFront element earlier
        exact ⟨founder, List.mem_append_left _ present, named, linked⟩
      · obtain rfl := List.mem_singleton.1 new
        rcases greedy front element [] rfl with alone | ⟨earlier, present, sharing, joined⟩
        · exact ⟨element, member, alone.2, .refl element⟩
        · obtain ⟨founder, among, named, linked⟩ := inFront earlier present
          refine ⟨founder, List.mem_append_left _ among, joined.trans named, ?_⟩
          exact compose founder (List.mem_append_left _ among) earlier
            (List.mem_append_left _ present) element member linked (.inl sharing)

/-- **Linked elements are together** where links compose. -/
theorem classOf_eq_of_linked (symmetric : ∀ left right, shares left right → shares right left)
    (compose : LinksCompose shares name order) (greedy : Greedy shares name order classOf) :
    ∀ left ∈ order, ∀ right ∈ order, Linked shares name left right →
      classOf left = classOf right := by
  induction order using List.reverseRecOn with
  | nil => nofun
  | append_singleton front last ih =>
      have inside : ∀ element ∈ front, element ∈ front ++ [last] := fun _ =>
        List.mem_append_left [last]
      have composeFront : LinksCompose shares name front := fun left l middle m right r =>
        compose left (inside left l) middle (inside middle m) right (inside right r)
      have together := ih composeFront greedy.of_append
      -- the last element is with every earlier one that it is linked to
      have settled : ∀ other ∈ front, Linked shares name last other →
          classOf last = classOf other := by
        intro other present linked
        rcases greedy front last [] rfl with alone | ⟨earlier, among, sharing, joined⟩
        · obtain ⟨founder, found, named, founding⟩ :=
            founder composeFront greedy.of_append other present
          have toFounder : Linked shares name founder last :=
            compose founder (inside founder found) other (inside other present) last (by simp)
              founding (linked.symm symmetric)
          rcases toFounder with sharing | sameName
          · exact absurd sharing (alone.1 founder found)
          · rw [alone.2, ← sameName, named]
        · rw [joined]
          exact together earlier among other present
            (compose earlier (inside earlier among) last (by simp) other (inside other present)
              (.inl sharing) linked)
      intro left l right r linked
      rcases List.mem_append.1 l with leftIn | leftLast
      · rcases List.mem_append.1 r with rightIn | rightLast
        · exact together left leftIn right rightIn linked
        · obtain rfl := List.mem_singleton.1 rightLast
          exact (settled left leftIn (linked.symm symmetric)).symm
      · obtain rfl := List.mem_singleton.1 leftLast
        rcases List.mem_append.1 r with rightIn | rightLast
        · exact settled right rightIn linked
        · rw [List.mem_singleton.1 rightLast]

/-- **The classes are the links**, where links compose. -/
theorem classOf_eq_iff (symmetric : ∀ left right, shares left right → shares right left)
    (compose : LinksCompose shares name order) (greedy : Greedy shares name order classOf)
    {left right : α} (l : left ∈ order) (r : right ∈ order) :
    classOf left = classOf right ↔ Linked shares name left right := by
  constructor
  · intro same
    obtain ⟨first, firstIn, firstNamed, toLeft⟩ := founder compose greedy left l
    obtain ⟨second, secondIn, secondNamed, toRight⟩ := founder compose greedy right r
    have sameName : name first = name second := by rw [← firstNamed, ← secondNamed, same]
    have across : Linked shares name left second :=
      compose left l first firstIn second secondIn (toLeft.symm symmetric) (.inr sameName)
    exact compose left l second secondIn right r across toRight
  · exact classOf_eq_of_linked symmetric compose greedy left l right r

end Greedy

/-! ## Independence of the order -/

section Orders

variable {ι : Type w} (orderOf : ι → List α)

/-- The runs whose elements are the given ones, in whatever order, put elements that
share something together, and all have the same classes. -/
def OrderFree (shares : α → α → Prop) (elements : List α) (classIn : ι → α → β) : Prop :=
  (∀ one, (orderOf one).Perm elements → ∀ left ∈ elements, ∀ right ∈ elements,
    shares left right → classIn one left = classIn one right) ∧
  ∀ one, (orderOf one).Perm elements → ∀ other, (orderOf other).Perm elements →
    ∀ left ∈ elements, ∀ right ∈ elements,
      (classIn one left = classIn one right ↔ classIn other left = classIn other right)

/-- An order in which two given elements arrive first. -/
theorem exists_perm_first_two [DecidableEq α] {elements : List α} {first second : α}
    (inFirst : first ∈ elements) (inSecond : second ∈ elements) (differ : first ≠ second) :
    ∃ rest, (first :: second :: rest).Perm elements := by
  have still : second ∈ elements.erase first :=
    (List.mem_erase_of_ne (Ne.symm differ)).2 inSecond
  refine ⟨(elements.erase first).erase second, ?_⟩
  exact ((List.perm_cons_erase still).symm.cons first).trans (List.perm_cons_erase inFirst).symm

variable {orderOf}

theorem LinksCompose.perm {elements : List α} (compose : LinksCompose shares name elements)
    (permuted : order.Perm elements) : LinksCompose shares name order :=
  fun left l middle m right r => compose left (permuted.mem_iff.1 l) middle
    (permuted.mem_iff.1 m) right (permuted.mem_iff.1 r)

/-- **When greedy grouping does not depend on the order.**  Where every order is that of
some run, the classes do not depend on it exactly when links compose. -/
theorem orderFree_iff [DecidableEq α] {elements : List α} {classIn : ι → α → β}
    (symmetric : ∀ left right, shares left right → shares right left)
    (every : ∀ order, order.Perm elements → ∃ one, orderOf one = order)
    (greedy : ∀ one, (orderOf one).Perm elements →
      Greedy shares name (orderOf one) (classIn one)) :
    OrderFree orderOf shares elements classIn ↔ LinksCompose shares name elements := by
  constructor
  · rintro ⟨together, same⟩
    -- a run that begins with two given elements
    have begins : ∀ first ∈ elements, ∀ second ∈ elements, first ≠ second →
        ∃ one, (orderOf one).Perm elements ∧ classIn one first = name first ∧
          (shares first second ∨ classIn one second = name second) := by
      intro first inFirst second inSecond differ
      obtain ⟨rest, permuted⟩ := exists_perm_first_two inFirst inSecond differ
      obtain ⟨one, ordered⟩ := every _ permuted
      have here := greedy one (ordered ▸ permuted)
      rw [ordered] at here
      exact ⟨one, ordered ▸ permuted, here.first_two⟩
    -- linked elements are together in every run
    have linkedTogether : ∀ left ∈ elements, ∀ right ∈ elements, Linked shares name left right →
        ∀ one, (orderOf one).Perm elements → classIn one left = classIn one right := by
      intro left l right r linked one permuted
      rcases linked with sharing | sameName
      · exact together one permuted left l right r sharing
      · by_cases differ : left = right
        · rw [differ]
        · obtain ⟨other, otherPermuted, leftNamed, sharing | rightNamed⟩ :=
            begins left l right r differ
          · exact together one permuted left l right r sharing
          · refine (same one permuted other otherPermuted left l right r).2 ?_
            rw [leftNamed, rightNamed, sameName]
    intro left l middle m right r first second
    by_cases differ : left = right
    · exact differ ▸ .refl left
    · obtain ⟨one, permuted, leftNamed, sharing | rightNamed⟩ := begins left l right r differ
      · exact .inl sharing
      · have across : classIn one left = classIn one right :=
          (linkedTogether left l middle m first one permuted).trans
            (linkedTogether middle m right r second one permuted)
        exact .inr (by rw [← leftNamed, ← rightNamed, across])
  · intro compose
    have classes : ∀ one, (orderOf one).Perm elements → ∀ left ∈ elements, ∀ right ∈ elements,
        (classIn one left = classIn one right ↔ Linked shares name left right) :=
      fun one permuted left l right r =>
        (greedy one permuted).classOf_eq_iff symmetric (compose.perm permuted)
          (permuted.mem_iff.2 l) (permuted.mem_iff.2 r)
    refine ⟨fun one permuted left l right r sharing => ?_,
      fun one permuted other otherPermuted left l right r => ?_⟩
    · exact (classes one permuted left l right r).2 (.inl sharing)
    · rw [classes one permuted left l right r, classes other otherPermuted left l right r]

end Orders

end Foundations
