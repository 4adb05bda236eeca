import SecFusion.Foundations.Json

/-!
# Redacted requests

The model of `_redacted_request` in `packages/runtime/model/service.py`.  `str.lower` is a
parameter.
-/

namespace SecFusion.Execution

open Foundations

/-- `_SECRET_KEY_MARKERS` -/
def secretKeyMarkers : List String :=
  ["authorization", "api_key", "apikey", "password", "secret", "credential", "access_token",
    "refresh_token"]

variable (lower : String → String)

/-- The key has a secret marker. -/
def Marked (key : String) : Prop :=
  ∃ marker ∈ secretKeyMarkers, marker.toList <:+: (lower key).toList

instance (key : String) : Decidable (Marked lower key) :=
  inferInstanceAs (Decidable (∃ _ ∈ _, _))

mutual

/-- `_redact`; the key of a value is looked at with its dictionary. -/
def redact : JsonValue → JsonValue
  | .object fields => .object (redactFields fields)
  | .array items => .array (redactItems items)
  | .null => .null
  | .bool value => .bool value
  | .int value => .int value
  | .real value => .real value
  | .string text => .string text

def redactFields : JsonObject → JsonObject
  | [] => []
  | (key, value) :: rest =>
      (key, if Marked lower key then .string "[REDACTED]" else redact value) :: redactFields rest

def redactItems : List JsonValue → List JsonValue
  | [] => []
  | item :: rest => redact item :: redactItems rest

end

/-- A request to a model. -/
structure ModelRequest where
  systemInstruction : String
  (data metadata : JsonObject)

def ModelRequest.modelDump (request : ModelRequest) : JsonValue :=
  .object [("data", .object request.data), ("metadata", .object request.metadata),
    ("system_instruction", .string request.systemInstruction)]

/-- `_redacted_request` -/
def redactedRequest (request : ModelRequest) : JsonValue := redact lower request.modelDump

/-! ## What is kept and what is not -/

mutual

/-- Values that differ in values under marked keys only. -/
def Alike : JsonValue → JsonValue → Prop
  | .object fields, .object others => AlikeFields fields others
  | .array items, .array others => AlikeItems items others
  | value, other => value = other

def AlikeFields : JsonObject → JsonObject → Prop
  | [], [] => True
  | (key, value) :: rest, (name, other) :: others =>
      key = name ∧ (Marked lower key ∨ Alike value other) ∧ AlikeFields rest others
  | _, _ => False

def AlikeItems : List JsonValue → List JsonValue → Prop
  | [], [] => True
  | value :: rest, other :: others => Alike value other ∧ AlikeItems rest others
  | _, _ => False

end

mutual

/-- Under a marked key nothing is kept. -/
def Hidden : JsonValue → Prop
  | .object fields => HiddenFields fields
  | .array items => HiddenItems items
  | .null | .bool _ | .int _ | .real _ | .string _ => True

def HiddenFields : JsonObject → Prop
  | [] => True
  | (key, value) :: rest =>
      (if Marked lower key then value = .string "[REDACTED]" else Hidden value) ∧
        HiddenFields rest

def HiddenItems : List JsonValue → Prop
  | [] => True
  | item :: rest => Hidden item ∧ HiddenItems rest

end

variable {lower}

mutual

/-- Redaction forgets the values under marked keys and nothing else. -/
theorem redact_eq_iff : (value other : JsonValue) →
    (redact lower value = redact lower other ↔ Alike lower value other)
  | .object fields, other => by
      cases other <;> simp [redact, Alike, redactFields_eq_iff fields]
  | .array items, other => by
      cases other <;> simp [redact, Alike, redactItems_eq_iff items]
  | .null, other | .bool _, other | .int _, other | .real _, other | .string _, other => by
      cases other <;> simp [redact, Alike]

theorem redactFields_eq_iff : (fields others : JsonObject) →
    (redactFields lower fields = redactFields lower others ↔ AlikeFields lower fields others)
  | [], others => by cases others <;> simp [redactFields, AlikeFields]
  | (key, value) :: rest, [] => by simp [redactFields, AlikeFields]
  | (key, value) :: rest, (name, other) :: others => by
      simp only [redactFields, AlikeFields, List.cons.injEq, Prod.mk.injEq, and_assoc,
        redactFields_eq_iff rest]
      refine and_congr_right fun same => and_congr_left' ?_
      subst same
      by_cases marked : Marked lower key <;> simp [marked, redact_eq_iff value]

theorem redactItems_eq_iff : (items others : List JsonValue) →
    (redactItems lower items = redactItems lower others ↔ AlikeItems lower items others)
  | [], others => by cases others <;> simp [redactItems, AlikeItems]
  | item :: rest, others => by
      cases others <;>
        simp [redactItems, AlikeItems, redact_eq_iff item, redactItems_eq_iff rest]

end

mutual

theorem hidden_redact : (value : JsonValue) → Hidden lower (redact lower value)
  | .object fields => hidden_redactFields fields
  | .array items => hidden_redactItems items
  | .null | .bool _ | .int _ | .real _ | .string _ => trivial

theorem hidden_redactFields : (fields : JsonObject) →
    HiddenFields lower (redactFields lower fields)
  | [] => trivial
  | (key, value) :: rest => by
      refine ⟨?_, hidden_redactFields rest⟩
      by_cases marked : Marked lower key <;> simp [marked, hidden_redact value]

theorem hidden_redactItems : (items : List JsonValue) → HiddenItems lower (redactItems lower items)
  | [] => trivial
  | item :: rest => ⟨hidden_redact item, hidden_redactItems rest⟩

end

mutual

/-- Where nothing is left to hide, redaction changes nothing. -/
theorem redact_of_hidden : (value : JsonValue) → Hidden lower value → redact lower value = value
  | .object fields, hidden => congrArg _ (redactFields_of_hidden fields hidden)
  | .array items, hidden => congrArg _ (redactItems_of_hidden items hidden)
  | .null, _ | .bool _, _ | .int _, _ | .real _, _ | .string _, _ => rfl

theorem redactFields_of_hidden : (fields : JsonObject) → HiddenFields lower fields →
    redactFields lower fields = fields
  | [], _ => rfl
  | (key, value) :: rest, hidden => by
      obtain ⟨here, later⟩ := hidden
      rw [redactFields, redactFields_of_hidden rest later]
      split_ifs at here ⊢ with marked
      · rw [here]
      · rw [redact_of_hidden value here]

theorem redactItems_of_hidden : (items : List JsonValue) → HiddenItems lower items →
    redactItems lower items = items
  | [], _ => rfl
  | item :: rest, hidden =>
      congrArg₂ _ (redact_of_hidden item hidden.1) (redactItems_of_hidden rest hidden.2)

end

/-- **Noninterference.**  Two requests have one redacted request when they differ in values under
marked keys only. -/
theorem redaction (first second : ModelRequest) (value : JsonValue) :
    (redactedRequest lower first = redactedRequest lower second ↔
      Alike lower first.modelDump second.modelDump) ∧
      redact lower (redact lower value) = redact lower value ∧
      Alike lower (redact lower value) value ∧ Hidden lower (redact lower value) := by
  have hidden : Hidden lower (redact lower value) := hidden_redact value
  have again := redact_of_hidden _ hidden
  exact ⟨redact_eq_iff _ _, again, (redact_eq_iff _ _).1 again, hidden⟩

end SecFusion.Execution
