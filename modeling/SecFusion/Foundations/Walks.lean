import Mathlib.Data.Finset.Card
import Mathlib.Data.List.Nodup
import Mathlib.Logic.Relation

/-!
# Walks along a partial function

Where every node has at most one successor there is one walk from a node.  It comes to an end
exactly when no circle lies on it (`Ends.acyclic`, `ends_of_acyclic`), and a walk that ends
passes every node of a finite set in which only its start has no predecessor
(`Ends.mem_of_predecessors`).
-/

namespace Foundations

universe u

variable {α : Type u} {next : α → Option α}

/-- The one node comes after the other. -/
def Precedes (next : α → Option α) (a b : α) : Prop := next a = some b

/-- The walk from a node, of so many steps at most. -/
def walk (next : α → Option α) : ℕ → α → List α
  | 0, a => [a]
  | n + 1, a => a :: match next a with
    | none => []
    | some b => walk next n b

/-- The walk comes to an end: it passes a node without a successor. -/
def Ends (next : α → Option α) (n : ℕ) (a : α) : Prop := ∃ last ∈ walk next n a, next last = none

theorem mem_walk_self (n : ℕ) (a : α) : a ∈ walk next n a := by
  cases n <;> simp [walk]

variable {n : ℕ}

theorem walk_succ {a b : α} (follows : next a = some b) :
    walk next (n + 1) a = a :: walk next n b := by
  simp [walk, follows]

theorem Ends.tail {a b : α} (ends : Ends next (n + 1) a) (follows : next a = some b) :
    Ends next n b := by
  obtain ⟨last, member, none⟩ := ends
  rw [walk_succ follows, List.mem_cons] at member
  obtain rfl | member := member
  · rw [none] at follows
    cases follows
  · exact ⟨last, member, none⟩

/-- The node without a successor is the last of the walk. -/
theorem Ends.getLast? {a : α} (ends : Ends next n a) :
    ∃ last ∈ (walk next n a).getLast?, next last = none := by
  induction n generalizing a with
  | zero =>
    obtain ⟨last, isLast, none⟩ := ends
    obtain rfl := List.mem_singleton.1 isLast
    exact ⟨last, rfl, none⟩
  | succ n ih =>
    cases step : next a with
    | none => exact ⟨a, by simp [walk, step], step⟩
    | some b =>
      obtain ⟨last, isLast, none⟩ := ih (ends.tail step)
      refine ⟨last, ?_, none⟩
      rw [walk_succ step, List.getLast?_cons, Option.mem_def.1 isLast]
      rfl

/-- What is passed is followed on the walk. -/
theorem Ends.closed {a : α} (ends : Ends next n a) {b c : α} (member : b ∈ walk next n a)
    (follows : next b = some c) : c ∈ walk next n a := by
  induction n generalizing a with
  | zero =>
    obtain ⟨last, isLast, none⟩ := ends
    obtain rfl := List.mem_singleton.1 isLast
    obtain rfl := List.mem_singleton.1 member
    rw [none] at follows
    cases follows
  | succ n ih =>
    cases step : next a with
    | none =>
      have : b = a := by simpa [walk, step] using member
      rw [this, step] at follows
      cases follows
    | some d =>
      rw [walk_succ step, List.mem_cons] at member ⊢
      obtain rfl | member := member
      · obtain rfl := Option.mem_unique step follows
        exact .inr (mem_walk_self n d)
      · exact .inr (ih (ends.tail step) member)

/-- No circle lies on a walk that ends. -/
theorem Ends.acyclic {a : α} (ends : Ends next n a) {b : α} (member : b ∈ walk next n a) :
    ¬ Relation.TransGen (Precedes next) b b := by
  induction n generalizing a b with
  | zero =>
    obtain ⟨last, isLast, none⟩ := ends
    obtain rfl := List.mem_singleton.1 isLast
    obtain rfl := List.mem_singleton.1 member
    intro circle
    obtain ⟨c, step, -⟩ := Relation.TransGen.head'_iff.1 circle
    rw [Precedes, none] at step
    cases step
  | succ n ih =>
    intro circle
    obtain ⟨c, step, back⟩ := Relation.TransGen.head'_iff.1 circle
    cases first : next a with
    | none =>
      have : b = a := by simpa [walk, first] using member
      rw [Precedes, this, first] at step
      cases step
    | some d =>
      rw [walk_succ first, List.mem_cons] at member
      obtain rfl | member := member
      · -- the circle goes on from the second node of the walk
        obtain rfl := Option.mem_unique first step
        exact ih (ends.tail first) (mem_walk_self n d) (.tail' back step)
      · exact ih (ends.tail first) member circle

section Acyclic

variable (acyclic : ∀ a, ¬ Relation.TransGen (Precedes next) a a)

theorem reaches_of_mem_walk {a b : α} (member : b ∈ walk next n a) :
    Relation.ReflTransGen (Precedes next) a b := by
  induction n generalizing a with
  | zero =>
    obtain rfl := List.mem_singleton.1 member
    exact .refl
  | succ n ih =>
    cases step : next a with
    | none =>
      obtain rfl : b = a := by simpa [walk, step] using member
      exact .refl
    | some c =>
      rw [walk_succ step, List.mem_cons] at member
      obtain rfl | member := member
      · exact .refl
      · exact .head step (ih member)

include acyclic in
theorem nodup_walk (n : ℕ) (a : α) : (walk next n a).Nodup := by
  induction n generalizing a with
  | zero => exact List.nodup_singleton a
  | succ n ih =>
    cases step : next a with
    | none => simp [walk, step]
    | some b =>
      rw [walk_succ step, List.nodup_cons]
      exact ⟨fun member => acyclic a (.head' step (reaches_of_mem_walk member)), ih b⟩

theorem ends_or_length (n : ℕ) (a : α) : Ends next n a ∨ (walk next n a).length = n + 1 := by
  induction n generalizing a with
  | zero => exact .inr rfl
  | succ n ih =>
    cases step : next a with
    | none => exact .inl ⟨a, mem_walk_self _ a, step⟩
    | some b =>
      rw [Ends, walk_succ step]
      rcases ih b with ⟨last, member, none⟩ | long
      · exact .inl ⟨last, List.mem_cons_of_mem a member, none⟩
      · exact .inr (congrArg (· + 1) long)

include acyclic in
/-- Without circles a walk among finitely many nodes ends. -/
theorem ends_of_acyclic {nodes : List α} (inside : ∀ a b, next a = some b → b ∈ nodes) {a : α}
    (start : a ∈ nodes) : Ends next nodes.length a := by
  refine (ends_or_length nodes.length a).resolve_right fun long => ?_
  have subset : walk next nodes.length a ⊆ nodes := fun b member => by
    rcases (reaches_of_mem_walk member).cases_tail with rfl | ⟨c, -, step⟩
    · exact start
    · exact inside c b step
  have short := (List.subperm_of_subset (nodup_walk acyclic _ a) subset).length_le
  omega

include acyclic in
/-- Where all nodes but the start come after another, the walk passes all of them. -/
theorem Ends.mem_of_predecessors {a : α} (ends : Ends next n a) {nodes : List α}
    (others : ∀ b ∈ nodes, b = a ∨ ∃ c ∈ nodes, next c = some b) :
    ∀ b ∈ nodes, b ∈ walk next n a := by
  classical
  -- the nodes before `b` become fewer from a node to its predecessor
  let before (b : α) := nodes.toFinset.filter fun c => Relation.TransGen (Precedes next) c b
  suffices ∀ size b, (before b).card = size → b ∈ nodes → b ∈ walk next n a from
    fun b member => this _ b rfl member
  intro size
  induction size using Nat.strong_induction_on with
  | _ size ih =>
    rintro b rfl member
    obtain rfl | ⟨c, isNode, step⟩ := others b member
    · exact mem_walk_self n b
    · refine ends.closed (ih _ (Finset.card_lt_card ?_) c rfl isNode) step
      rw [Finset.ssubset_iff_of_subset fun d earlier => ?_]
      · refine ⟨c, ?_, ?_⟩
        · exact Finset.mem_filter.2 ⟨List.mem_toFinset.2 isNode, .single step⟩
        · exact fun circle => acyclic c (Finset.mem_filter.1 circle).2
      · have := Finset.mem_filter.1 earlier
        exact Finset.mem_filter.2 ⟨this.1, this.2.tail step⟩

end Acyclic

end Foundations
