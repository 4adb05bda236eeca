import Mathlib.Order.BoundedOrder.Lattice
import Mathlib.Data.Bool.Basic
import Mathlib.Order.MinMax

/-!
# Connectives over a chain

Conjunction is the least value of a list and disjunction the greatest, in any bounded chain, and
a negation turns the chain around.  A monotone map that keeps both ends and the negation
therefore carries the value of an and/or/not node along, whatever the chains.

Three chains are used: the Booleans, the three values of Kleene, and the four readings of a
Kleene value that a Boolean evaluation has already decided: an unknown that was taken for false
sinks, one that was taken for true surfaces.
-/

namespace Foundations

universe u v

section Chains

variable {β : Type u} {γ : Type v} [LinearOrder β] [BoundedOrder β] [LinearOrder γ]
  [BoundedOrder γ]

def allOf (values : List β) : β := values.foldr min ⊤

def anyOf (values : List β) : β := values.foldr max ⊥

/-- The value of a node over those of its operands. -/
def connect (reverse : β → β) (conjunctive negated : Bool) (operands : List β) : β :=
  let value := if conjunctive then allOf operands else anyOf operands
  if negated then reverse value else value

theorem map_allOf {f : β → γ} (monotone : Monotone f) (top : f ⊤ = ⊤) (values : List β) :
    f (allOf values) = allOf (values.map f) := by
  induction values with
  | nil => exact top
  | cons value rest ih =>
      show f (min value (allOf rest)) = min (f value) (allOf (rest.map f))
      rw [monotone.map_min, ih]

theorem map_anyOf {f : β → γ} (monotone : Monotone f) (bottom : f ⊥ = ⊥) (values : List β) :
    f (anyOf values) = anyOf (values.map f) := by
  induction values with
  | nil => exact bottom
  | cons value rest ih =>
      show f (max value (anyOf rest)) = max (f value) (anyOf (rest.map f))
      rw [monotone.map_max, ih]

/-- A map of chains that keeps both ends and the negation keeps the value of a node. -/
theorem map_connect {f : β → γ} {reverse : β → β} {reverse' : γ → γ} (monotone : Monotone f)
    (top : f ⊤ = ⊤) (bottom : f ⊥ = ⊥) (turns : ∀ value, f (reverse value) = reverse' (f value))
    (conjunctive negated : Bool) (operands : List β) :
    f (connect reverse conjunctive negated operands) =
      connect reverse' conjunctive negated (operands.map f) := by
  cases conjunctive <;> cases negated <;>
    simp [connect, turns, map_allOf monotone top, map_anyOf monotone bottom]

/-- What is missing from a conjunction counts as true, and from a disjunction as false. -/
theorem connect_filterMap {reverse : β → β} (conjunctive negated : Bool)
    (operands : List (Option β)) :
    connect reverse conjunctive negated (operands.filterMap id) =
      connect reverse conjunctive negated
        (operands.map (·.getD (if conjunctive then ⊤ else ⊥))) := by
  have same : (if conjunctive then allOf (operands.filterMap id)
        else anyOf (operands.filterMap id)) =
      if conjunctive then allOf (operands.map (·.getD (if conjunctive then ⊤ else ⊥)))
        else anyOf (operands.map (·.getD (if conjunctive then ⊤ else ⊥))) := by
    induction operands with
    | nil => rfl
    | cons operand rest ih =>
        cases conjunctive <;> cases operand <;> simp_all [allOf, anyOf]
  simp only [connect, same]

/-- A node over one value only has that value, or its negation. -/
theorem connect_of_forall_eq {reverse : β → β} {value : β} (fixed : reverse value = value)
    (conjunctive negated : Bool) {operands : List β} (nonempty : operands ≠ [])
    (same : ∀ operand ∈ operands, operand = value) :
    connect reverse conjunctive negated operands = value := by
  have both : allOf operands = value ∧ anyOf operands = value := by
    obtain ⟨count, rfl⟩ : ∃ count, operands = List.replicate count value :=
      ⟨_, List.eq_replicate_iff.2 ⟨rfl, same⟩⟩
    cases count with
    | zero => exact absurd rfl nonempty
    | succ count =>
        clear nonempty same
        induction count with
        | zero => simp [allOf, anyOf]
        | succ count ih =>
            rw [List.replicate_succ]
            exact ⟨by rw [allOf, List.foldr_cons, ← allOf, ih.1, min_self],
              by rw [anyOf, List.foldr_cons, ← anyOf, ih.2, max_self]⟩
  cases conjunctive <;> cases negated <;> simp [connect, both, fixed]

end Chains

theorem allOf_bool (values : List Bool) : allOf values = values.all id := by
  induction values with
  | nil => rfl
  | cons value rest ih =>
      show min value (allOf rest) = (value && rest.all id)
      rw [ih]
      cases value <;> cases rest.all id <;> rfl

theorem anyOf_bool (values : List Bool) : anyOf values = values.any id := by
  induction values with
  | nil => rfl
  | cons value rest ih =>
      show max value (anyOf rest) = (value || rest.any id)
      rw [ih]
      cases value <;> cases rest.any id <;> rfl

/-! ## Kleene values -/

/-- The three truth values, unknown between the others. -/
inductive Kleene where
  | no
  | unknown
  | yes
  deriving DecidableEq

namespace Kleene

def rank : Kleene → ℕ
  | .no => 0
  | .unknown => 1
  | .yes => 2

instance : LinearOrder Kleene :=
  LinearOrder.lift' rank fun first second same => by
    cases first <;> cases second <;> first | rfl | cases same

instance : BoundedOrder Kleene where
  top := .yes
  le_top value := by cases value <;> decide
  bot := .no
  bot_le value := by cases value <;> decide

def not : Kleene → Kleene
  | .no => .yes
  | .unknown => .unknown
  | .yes => .no

end Kleene

/-! ## Decided readings -/

/-- A Kleene value with the Boolean an evaluation took it for: a false one fails, a true one
holds, an unknown one sinks or surfaces. -/
inductive Reading where
  | fails
  | sinks
  | surfaces
  | holds
  deriving DecidableEq

namespace Reading

def rank : Reading → ℕ
  | .fails => 0
  | .sinks => 1
  | .surfaces => 2
  | .holds => 3

instance : LinearOrder Reading :=
  LinearOrder.lift' rank fun first second same => by
    cases first <;> cases second <;> first | rfl | cases same

instance : BoundedOrder Reading where
  top := .holds
  le_top value := by cases value <;> decide
  bot := .fails
  bot_le value := by cases value <;> decide

/-- A negation: what sank surfaces, and what surfaced sinks. -/
def reverse : Reading → Reading
  | .fails => .holds
  | .sinks => .surfaces
  | .surfaces => .sinks
  | .holds => .fails

/-- What the evaluation takes the value for. -/
def taken : Reading → Bool
  | .fails => false
  | .sinks => false
  | .surfaces => true
  | .holds => true

def known : Reading → Kleene
  | .fails => .no
  | .sinks => .unknown
  | .surfaces => .unknown
  | .holds => .yes

/-- The reading of a known value, and of an unknown one by what it is taken for. -/
def ofTaken (unknown taken : Bool) : Reading :=
  match unknown, taken with
  | false, false => .fails
  | true, false => .sinks
  | true, true => .surfaces
  | false, true => .holds

@[simp] theorem taken_ofTaken (unknown value : Bool) : (ofTaken unknown value).taken = value := by
  cases unknown <;> cases value <;> rfl

theorem monotone_taken : Monotone taken := by
  intro first second below
  cases first <;> cases second <;> revert below <;> decide

theorem monotone_known : Monotone known := by
  intro first second below
  cases first <;> cases second <;> revert below <;> decide

theorem taken_reverse (value : Reading) : value.reverse.taken = !value.taken := by
  cases value <;> rfl

theorem known_reverse (value : Reading) : value.reverse.known = value.known.not := by
  cases value <;> rfl

/-- A Boolean evaluation is right to answer true, unless an unknown surfaced. -/
theorem taken_imp_known_iff (value : Reading) :
    (value.taken = true → value.known = .yes) ↔ value ≠ .surfaces := by
  cases value <;> decide

variable (conjunctive negated : Bool)

/-- The Boolean evaluation of a node is that of the readings. -/
theorem taken_connect (operands : List Reading) :
    (connect reverse conjunctive negated operands).taken =
      connect (! ·) conjunctive negated (operands.map taken) :=
  map_connect monotone_taken rfl rfl taken_reverse conjunctive negated operands

/-- The Kleene value of a node is that of the readings. -/
theorem known_connect (operands : List Reading) :
    (connect reverse conjunctive negated operands).known =
      connect Kleene.not conjunctive negated (operands.map known) :=
  map_connect monotone_known rfl rfl known_reverse conjunctive negated operands

end Reading

end Foundations
