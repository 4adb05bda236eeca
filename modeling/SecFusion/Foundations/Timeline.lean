import Mathlib.Data.Set.Basic

/-!
# Rows with a window of validity

A table that keeps its history in place: a row is created at one revision, may be
superseded at a later one, and is visible at the revisions in between.  The facts
it states never change; what a write may change is the end of its window.

`Evolves` says what a write at one revision may do without changing what was
visible at any earlier one: supersede rows that are not superseded, add rows that
begin at this revision, and give back an open end to rows that had one before the
write.
-/

namespace Foundations

universe u v

/-- A fact with its window. -/
structure Version (φ : Type v) where
  fact : φ
  created : ℕ
  superseded : Option ℕ

/-- The revision lies in the window. -/
def Version.VisibleAt {φ : Type v} (version : Version φ) (revision : ℕ) : Prop :=
  version.created ≤ revision ∧ ∀ ending ∈ version.superseded, revision < ending

/-- The rows by their keys. -/
abbrev Timeline (κ : Type u) (φ : Type v) := κ → Option (Version φ)

namespace Timeline

variable {κ : Type u} {φ : Type v}

/-- The facts visible at a revision, with their keys. -/
def visibleAt (timeline : Timeline κ φ) (revision : ℕ) : Set (κ × φ) :=
  { entry | ∃ version, timeline entry.1 = some version ∧ version.fact = entry.2 ∧
      version.VisibleAt revision }

/-- **What a write at `revision` may do.** -/
structure Evolves (revision : ℕ) (before after : Timeline κ φ) : Prop where
  kept : ∀ key old, before key = some old → ∃ new, after key = some new ∧ new.fact = old.fact ∧
    new.created = old.created ∧
    (new.superseded = old.superseded ∨ (old.superseded = none ∧ new.superseded = some revision))
  added : ∀ key new, before key = none → after key = some new → new.created = revision

variable {revision : ℕ} {base before after : Timeline κ φ}

theorem Evolves.refl (revision : ℕ) (timeline : Timeline κ φ) :
    Evolves revision timeline timeline where
  kept key old found := ⟨old, found, rfl, rfl, .inl rfl⟩
  added key new absent found := by
    rw [absent] at found
    cases found

/-- Rows whose window is open may be ended now. -/
theorem Evolves.supersede (evolves : Evolves revision base before)
    (step : ∀ key, after key = before key ∨ ∃ version, before key = some version ∧
      version.superseded = none ∧
      after key = some { version with superseded := some revision }) :
    Evolves revision base after := by
  constructor
  case kept =>
    intro key old found
    obtain ⟨new, newFound, fact, created, ending⟩ := evolves.kept key old found
    rcases step key with same | ⟨version, versionFound, isOpen, ended⟩
    · exact ⟨new, same.trans newFound, fact, created, ending⟩
    · obtain rfl := Option.mem_unique versionFound newFound
      have wasOpen : old.superseded = none := by
        rcases ending with same | ⟨wasOpen, -⟩
        · rw [← same, isOpen]
        · exact wasOpen
      exact ⟨_, ended, fact, created, .inr ⟨wasOpen, rfl⟩⟩
  case added =>
    intro key new absent found
    rcases step key with same | ⟨version, versionFound, -, ended⟩
    · exact evolves.added key new absent (same.symm.trans found)
    · obtain rfl := Option.mem_unique ended found
      exact evolves.added key version absent versionFound

/-- **What was visible before the write stays visible, and nothing else does.** -/
theorem Evolves.visibleAt (evolves : Evolves revision before after) {earlier : ℕ}
    (past : earlier < revision) : after.visibleAt earlier = before.visibleAt earlier := by
  ext ⟨key, fact⟩
  constructor
  · rintro ⟨new, newFound, rfl, begins, ends⟩
    cases found : before key with
    | none =>
        -- a row that the write has added begins too late
        have created := evolves.added key new found newFound
        omega
    | some old =>
        obtain ⟨other, otherFound, sameFact, created, ending⟩ := evolves.kept key old found
        obtain rfl := Option.mem_unique otherFound newFound
        refine ⟨old, found, sameFact.symm, by omega, ?_⟩
        intro ending' member
        rcases ending with same | ⟨isOpen, -⟩
        · exact ends ending' (same ▸ member)
        · rw [isOpen] at member
          cases member
  · rintro ⟨old, found, rfl, begins, ends⟩
    obtain ⟨new, newFound, sameFact, created, ending⟩ := evolves.kept key old found
    refine ⟨new, newFound, sameFact, by omega, ?_⟩
    intro ending' member
    rcases ending with same | ⟨-, ended⟩
    · exact ends ending' (same ▸ member)
    · rw [ended] at member
      cases member
      exact past

variable [DecidableEq κ]

/-- A window may be opened again that was open before the write. -/
theorem Evolves.activate (evolves : Evolves revision base before) (key : κ)
    (wasOpen : ∀ old, base key = some old → old.superseded = none)
    (step : ∀ other, after other =
      if key = other then (before other).map fun version => { version with superseded := none }
      else before other) : Evolves revision base after := by
  constructor
  case kept =>
    intro other old found
    obtain ⟨new, newFound, fact, created, ending⟩ := evolves.kept other old found
    rw [step, newFound]
    split
    next same =>
      subst same
      exact ⟨_, rfl, fact, created, .inl (wasOpen old found).symm⟩
    next => exact ⟨new, rfl, fact, created, ending⟩
  case added =>
    intro other new absent found
    rw [step] at found
    split at found
    next =>
      obtain ⟨version, versionFound, rfl⟩ := Option.map_eq_some_iff.1 found
      exact evolves.added other version absent versionFound
    next => exact evolves.added other new absent found

/-- A row may be added whose window begins now. -/
theorem Evolves.insert (evolves : Evolves revision base before) (key : κ) (version : Version φ)
    (absent : before key = none) (begins : version.created = revision)
    (step : ∀ other, after other = if key = other then some version else before other) :
    Evolves revision base after := by
  constructor
  case kept =>
    intro other old found
    obtain ⟨new, newFound, rest⟩ := evolves.kept other old found
    rw [step, newFound]
    split
    next same =>
      rw [← same, absent] at newFound
      cases newFound
    next => exact ⟨new, rfl, rest⟩
  case added =>
    intro other new missing found
    rw [step] at found
    split at found
    next =>
      cases found
      exact begins
    next => exact evolves.added other new missing found

end Timeline

export Timeline (Evolves)

end Foundations
