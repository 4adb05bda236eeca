import Mathlib

/-!
# Restating

Statements are kept under identifiers that tell their kind, and are ended rather than
removed.  To restate some kinds is to end what there is of them and then to store
statements one after another, each of which is active afterwards whether it is new or was
there before.

`Restated` is what holds after some of the statements have been stored.  What is active of
a kind is then known: of a kind that is restated the statements that have been stored
(`Restated.active_eq`), and of any other kind what was active before
(`Restated.active_eq_before`).
-/

namespace Foundations

namespace Restating

universe u v w

variable {Id : Type u} {Row : Type v} {Kind : Type w}

section Steps

variable (kindOf : Id → Kind) (active : Row → Prop)

/-- The active statements of a kind. -/
def activeOf (lookup : Id → Option Row) (kind : Kind) : Set Id :=
  { id | kindOf id = kind ∧ ∃ row, lookup id = some row ∧ active row }

/-- Statements of the kinds are ended, and others are left. -/
structure Ends (kinds : Set Kind) (before after : Id → Option Row) : Prop where
  ended : ∀ id, kindOf id ∈ kinds → ∀ row, after id = some row → ¬ active row
  others : ∀ id, kindOf id ∉ kinds → after id = before id

/-- A statement is stored, and others are left. -/
structure Stores (id : Id) (before after : Id → Option Row) : Prop where
  stored : ∃ row, after id = some row ∧ active row
  others : ∀ other, other ≠ id → after other = before other

/-- **Some kinds are restated** by the statements that have been stored. -/
structure Restated (kinds : Set Kind) (stored : Set Id) (before after : Id → Option Row) :
    Prop where
  present : ∀ id ∈ stored, ∃ row, after id = some row ∧ active row
  ended : ∀ id, id ∉ stored → kindOf id ∈ kinds → ∀ row, after id = some row → ¬ active row
  others : ∀ id, id ∉ stored → kindOf id ∉ kinds → after id = before id

end Steps

variable {kindOf : Id → Kind} {active : Row → Prop} {kinds : Set Kind} {stored : Set Id}
variable {before middle after : Id → Option Row} {kind : Kind}

/-- No kind is ended by doing nothing. -/
theorem Ends.refl : Ends kindOf active ∅ before before where
  ended := fun _ inside => absurd inside (Set.notMem_empty _)
  others := fun _ _ => rfl

/-- Kinds are ended one after another. -/
theorem Ends.trans {first second : Set Kind} (ends : Ends kindOf active first before middle)
    (later : Ends kindOf active second middle after) :
    Ends kindOf active (first ∪ second) before after where
  ended := by
    intro id inside row found
    by_cases again : kindOf id ∈ second
    · exact later.ended id again row found
    · rw [later.others id again] at found
      exact ends.ended id (inside.resolve_right again) row found
  others := by
    intro id outside
    rw [later.others id fun member => outside (.inr member)]
    exact ends.others id fun member => outside (.inl member)

/-- **A query that ends what is active of a kind**, row by row. -/
theorem Ends.of_map {current : Row → Bool} {ending : Row → Row}
    (mapped : ∀ id, after id = (before id).map fun row => if current row then ending row else row)
    (selects : ∀ id row, before id = some row →
      (current row = true ↔ kindOf id = kind ∧ active row))
    (ended : ∀ row, ¬ active (ending row)) : Ends kindOf active {kind} before after where
  ended := by
    intro id inside row found
    rw [mapped] at found
    obtain ⟨old, was, rfl⟩ := Option.map_eq_some_iff.1 found
    split
    next => exact ended old
    next unselected =>
      intro isActive
      exact unselected ((selects id old was).2 ⟨inside, isActive⟩)
  others := by
    intro id outside
    rw [mapped]
    cases was : before id with
    | none => rfl
    | some old =>
        rw [Option.map_some, if_neg]
        intro selected
        exact outside ((selects id old was).1 selected).1

/-- At first the kinds have ended. -/
theorem Restated.start (ends : Ends kindOf active kinds before after) :
    Restated kindOf active kinds ∅ before after where
  present := fun _ member => absurd member (Set.notMem_empty _)
  ended := fun id _ => ends.ended id
  others := fun id _ => ends.others id

/-- Then statements are stored one after another. -/
theorem Restated.store (restated : Restated kindOf active kinds stored before middle) {id : Id}
    (stores : Stores active id middle after) :
    Restated kindOf active kinds (insert id stored) before after where
  present := by
    intro other member
    by_cases same : other = id
    · subst same
      exact stores.stored
    · rw [stores.others other same]
      exact restated.present other (Set.mem_of_mem_insert_of_ne member same)
  ended := by
    intro other outside inside row found
    have different : other ≠ id := fun same => outside (same ▸ Set.mem_insert _ _)
    rw [stores.others other different] at found
    exact restated.ended other (fun member => outside (Set.mem_insert_of_mem _ member)) inside row
      found
  others := by
    intro other outside elsewhere
    have different : other ≠ id := fun same => outside (same ▸ Set.mem_insert _ _)
    rw [stores.others other different]
    exact restated.others other (fun member => outside (Set.mem_insert_of_mem _ member)) elsewhere

/-- **A restated kind** has the stored statements as its active ones. -/
theorem Restated.active_eq (restated : Restated kindOf active kinds stored before after)
    (inside : kind ∈ kinds) :
    activeOf kindOf active after kind = { id ∈ stored | kindOf id = kind } := by
  ext id
  constructor
  · rintro ⟨rfl, row, found, isActive⟩
    refine ⟨?_, rfl⟩
    by_contra outside
    exact restated.ended id outside inside row found isActive
  · rintro ⟨member, same⟩
    exact ⟨same, restated.present id member⟩

/-- **Any other kind** keeps its active statements. -/
theorem Restated.active_eq_before (restated : Restated kindOf active kinds stored before after)
    (elsewhere : kind ∉ kinds) (unstored : ∀ id ∈ stored, kindOf id ≠ kind) :
    activeOf kindOf active after kind = activeOf kindOf active before kind := by
  ext id
  constructor
  · rintro ⟨rfl, row, found, isActive⟩
    rw [restated.others id (fun member => unstored id member rfl) elsewhere] at found
    exact ⟨rfl, row, found, isActive⟩
  · rintro ⟨rfl, row, found, isActive⟩
    rw [← restated.others id (fun member => unstored id member rfl) elsewhere] at found
    exact ⟨rfl, row, found, isActive⟩

end Restating

end Foundations
