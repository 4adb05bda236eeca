import Mathlib

/-!
# JSON values

Values of a JSON column, and equality on them.  An object lists its fields in
the order in which a canonical encoder writes them (sorted by name), so two
objects with the same canonical text are the same object here.
-/

namespace Foundations

/-- A JSON value in canonical form. -/
inductive JsonValue where
  | null
  | bool (value : Bool)
  | int (value : ℤ)
  /-- A number written with a decimal point. -/
  | real (value : ℚ)
  | string (value : String)
  | array (items : List JsonValue)
  | object (fields : List (String × JsonValue))

abbrev JsonObject := List (String × JsonValue)

namespace JsonValue

mutual

/-- Equality of values, by recursion on the first. -/
def decEq : (left right : JsonValue) → Decidable (left = right)
  | .null, right => match right with
    | .null => .isTrue rfl
    | .bool _ | .int _ | .real _ | .string _ | .array _ | .object _ => .isFalse nofun
  | .bool a, right => match right with
    | .bool b => decidable_of_iff (a = b) (by simp)
    | .null | .int _ | .real _ | .string _ | .array _ | .object _ => .isFalse nofun
  | .int a, right => match right with
    | .int b => decidable_of_iff (a = b) (by simp)
    | .null | .bool _ | .real _ | .string _ | .array _ | .object _ => .isFalse nofun
  | .real a, right => match right with
    | .real b => decidable_of_iff (a = b) (by simp)
    | .null | .bool _ | .int _ | .string _ | .array _ | .object _ => .isFalse nofun
  | .string a, right => match right with
    | .string b => decidable_of_iff (a = b) (by simp)
    | .null | .bool _ | .int _ | .real _ | .array _ | .object _ => .isFalse nofun
  | .array a, right => match right with
    | .array b =>
        have := decEqItems a b
        decidable_of_iff (a = b) (by simp)
    | .null | .bool _ | .int _ | .real _ | .string _ | .object _ => .isFalse nofun
  | .object a, right => match right with
    | .object b =>
        have := decEqFields a b
        decidable_of_iff (a = b) (by simp)
    | .null | .bool _ | .int _ | .real _ | .string _ | .array _ => .isFalse nofun

/-- Equality of arrays. -/
def decEqItems : (left right : List JsonValue) → Decidable (left = right)
  | [], [] => .isTrue rfl
  | [], _ :: _ => .isFalse nofun
  | _ :: _, [] => .isFalse nofun
  | a :: as, b :: bs =>
      have := decEq a b
      have := decEqItems as bs
      decidable_of_iff (a = b ∧ as = bs) (by simp)

/-- Equality of the fields of objects. -/
def decEqFields : (left right : List (String × JsonValue)) → Decidable (left = right)
  | [], [] => .isTrue rfl
  | [], _ :: _ => .isFalse nofun
  | _ :: _, [] => .isFalse nofun
  | (name, a) :: as, (other, b) :: bs =>
      have := decEq a b
      have := decEqFields as bs
      decidable_of_iff (name = other ∧ a = b ∧ as = bs) (by simp [and_assoc])

end

instance : DecidableEq JsonValue := decEq

def items? : JsonValue → Option (List JsonValue)
  | .array items => some items
  | .null | .bool _ | .int _ | .real _ | .string _ | .object _ => none

def fields? : JsonValue → Option JsonObject
  | .object fields => some fields
  | .null | .bool _ | .int _ | .real _ | .string _ | .array _ => none

def text? : JsonValue → Option String
  | .string text => some text
  | .null | .bool _ | .int _ | .real _ | .array _ | .object _ => none

/-- `bool(value)`. -/
def truthy : JsonValue → Bool
  | .null => false
  | .bool value => value
  | .int value => value ≠ 0
  | .real value => value ≠ 0
  | .string text => text ≠ ""
  | .array items => !items.isEmpty
  | .object fields => !fields.isEmpty

/-- A text, or `null`. -/
def ofText? (text : Option String) : JsonValue := (text.map .string).getD .null

end JsonValue

export JsonValue (array.injEq int.injEq object.injEq string.injEq)

namespace JsonObject

/-- `fields.get(name)`. -/
def get? (fields : JsonObject) (name : String) : Option JsonValue :=
  (fields.find? fun field => field.1 = name).map (·.2)

/-- `fields.get(name)`, where it is an array. -/
def items (fields : JsonObject) (name : String) : List JsonValue :=
  ((get? fields name).bind (·.items?)).getD []

/-- `fields.get(name)`, where it is an object. -/
def fields? (fields : JsonObject) (name : String) : Option JsonObject :=
  (get? fields name).bind (·.fields?)

/-- `fields.get(name)`, where it is a string. -/
def text? (fields : JsonObject) (name : String) : Option String :=
  (get? fields name).bind (·.text?)

/-- `{**fields, name: value}`, in canonical order. -/
def set : JsonObject → String → JsonValue → JsonObject
  | [], name, value => [(name, value)]
  | field :: rest, name, value =>
      if name = field.1 then (name, value) :: rest
      else if name < field.1 then (name, value) :: field :: rest
      else field :: set rest name value

/-- `{**fields, **others}`. -/
def update (fields others : JsonObject) : JsonObject :=
  others.foldl (fun merged field => set merged field.1 field.2) fields

theorem get?_set_self (fields : JsonObject) (name : String) (value : JsonValue) :
    get? (set fields name value) name = some value := by
  induction fields with
  | nil => simp [set, get?]
  | cons field rest ih =>
      unfold set
      split
      next => simp [get?]
      next different =>
        split
        next => simp [get?]
        next =>
          have other : ¬ field.1 = name := fun same => different same.symm
          simpa [get?, List.find?_cons, other] using ih

theorem get?_set_of_ne (fields : JsonObject) {name other : String} (value : JsonValue)
    (different : name ≠ other) : get? (set fields name value) other = get? fields other := by
  induction fields with
  | nil => simp [set, get?, different]
  | cons field rest ih =>
      unfold set
      split
      next same => simp [get?, ← same, different]
      next =>
        split
        next => simp [get?, List.find?_cons, different]
        next =>
          by_cases here : field.1 = other
          · simp [get?, here]
          · simpa [get?, List.find?_cons, here] using ih

end JsonObject

end Foundations
