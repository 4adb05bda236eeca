import SecFusion.Foundations.Json

/-!
# Digests and first occurrences

An identity that starts with some characters of a digest tells two payloads apart as far as the
digest does.  Payloads often hold lists of which each entry is kept where it first occurs:
what such a list determines is which entries occur, and which of two occurs first.
-/

namespace Foundations

universe u

/-! ## Digests -/

/-- The first 32 characters of a digest. -/
def short (digest : String) : String := String.ofList (digest.toList.take 32)

/-- Among some payloads, no two have digests that start alike. -/
def Distinguishes {α : Type u} (digest : α → String) (payloads : List α) : Prop :=
  ∀ first ∈ payloads, ∀ second ∈ payloads, short (digest first) = short (digest second) →
    first = second

theorem Distinguishes.mono {α : Type u} {digest : α → String} {payloads others : List α}
    (distinguishes : Distinguishes digest others) (within : payloads ⊆ others) :
    Distinguishes digest payloads :=
  fun first firstMember second secondMember same =>
    distinguishes first (within firstMember) second (within secondMember) same

theorem Distinguishes.eq_iff {α : Type u} {digest : α → String} {payloads : List α}
    (distinguishes : Distinguishes digest payloads) {first second : α}
    (here : first ∈ payloads) (there : second ∈ payloads) :
    short (digest first) = short (digest second) ↔ first = second :=
  ⟨distinguishes first here second there, fun same => by rw [same]⟩

theorem Distinguishes.of_nodup {α : Type u} {digest : α → String} {payloads : List α}
    (nodup : (payloads.map fun payload => short (digest payload)).Nodup) :
    Distinguishes digest payloads :=
  fun _ here _ there same => List.inj_on_of_nodup_map nodup here there same

/-- A list of texts can be read back from its payload. -/
theorem texts_injective :
    Function.Injective fun texts : List String => JsonValue.array (texts.map .string) := by
  intro left right same
  rw [array.injEq] at same
  exact List.map_injective_iff.2 (fun _ _ => JsonValue.string.inj) same

/-- So can a text that may be missing. -/
theorem ofText?_injective : Function.Injective JsonValue.ofText? := by
  intro left right same
  cases left <;> cases right <;> simp_all [JsonValue.ofText?]

/-! ## First occurrences -/

variable {α : Type u} [DecidableEq α]

/-- Each entry where it first occurs. -/
def firsts : List α → List α
  | [] => []
  | item :: rest => item :: (firsts rest).filter (· ≠ item)

/-- The same entries occur, and of any two the same one first. -/
structure SameFirsts (left right : List α) : Prop where
  mem_iff : ∀ item, item ∈ left ↔ item ∈ right
  order : ∀ first ∈ left, ∀ second ∈ left,
    (left.idxOf first < left.idxOf second ↔ right.idxOf first < right.idxOf second)

variable {items left right : List α}

@[simp] theorem mem_firsts {item : α} : item ∈ firsts items ↔ item ∈ items := by
  induction items with
  | nil => rfl
  | cons head rest ih =>
      by_cases same : item = head <;> simp [firsts, same, ih]

/-- First occurrences stand in the order of their places. -/
theorem pairwise_firsts (items : List α) :
    (firsts items).Pairwise fun first second => items.idxOf first < items.idxOf second := by
  induction items with
  | nil => exact List.Pairwise.nil
  | cons head rest ih =>
      refine List.Pairwise.cons (fun other member => ?_) ?_
      · have differs : head ≠ other :=
          (of_decide_eq_true (List.mem_filter.1 member).2).symm
        rw [List.idxOf_cons_self, List.idxOf_cons_ne _ differs]
        exact Nat.succ_pos _
      · refine (List.Pairwise.and_mem.1 (ih.filter (· ≠ head))).imp ?_
        rintro first second ⟨firstMember, secondMember, before⟩
        have firstOther : head ≠ first :=
          (of_decide_eq_true (List.mem_filter.1 firstMember).2).symm
        have secondOther : head ≠ second :=
          (of_decide_eq_true (List.mem_filter.1 secondMember).2).symm
        rw [List.idxOf_cons_ne _ firstOther, List.idxOf_cons_ne _ secondOther]
        exact Nat.succ_lt_succ before

theorem nodup_firsts (items : List α) : (firsts items).Nodup :=
  (pairwise_firsts items).imp fun {first second} before same => by
    rw [same] at before
    exact Nat.lt_irrefl _ before

/-- In a list sorted by a key, what has the smaller key stands first. -/
theorem idxOf_lt_iff_of_pairwise {key : α → ℕ} {sorted : List α}
    (pairwise : sorted.Pairwise fun first second => key first < key second) {first second : α}
    (here : first ∈ sorted) (there : second ∈ sorted) :
    sorted.idxOf first < sorted.idxOf second ↔ key first < key second := by
  have forward : ∀ {first second : α}, first ∈ sorted → second ∈ sorted →
      sorted.idxOf first < sorted.idxOf second → key first < key second := by
    intro first second here there before
    have apart := List.pairwise_iff_getElem.1 pairwise _ _ (List.idxOf_lt_length_iff.2 here)
      (List.idxOf_lt_length_iff.2 there) before
    rwa [List.getElem_idxOf, List.getElem_idxOf] at apart
  refine ⟨forward here there, fun smaller => ?_⟩
  rcases Nat.lt_trichotomy (sorted.idxOf first) (sorted.idxOf second) with before | same | after
  · exact before
  · rw [List.idxOf_inj here] at same
    rw [same] at smaller
    exact absurd smaller (Nat.lt_irrefl _)
  · exact absurd (forward there here after) (Nat.lt_asymm smaller)

/-- Two lists have the same first occurrences when the same entries occur in the same order. -/
theorem firsts_eq_iff : firsts left = firsts right ↔ SameFirsts left right := by
  constructor
  · intro same
    have mem_iff (item : α) : item ∈ left ↔ item ∈ right := by
      rw [← mem_firsts, same, mem_firsts]
    refine ⟨mem_iff, fun first here second there => ?_⟩
    rw [← idxOf_lt_iff_of_pairwise (pairwise_firsts left) (mem_firsts.2 here)
        (mem_firsts.2 there), same,
      idxOf_lt_iff_of_pairwise (pairwise_firsts right) (mem_firsts.2 ((mem_iff _).1 here))
        (mem_firsts.2 ((mem_iff _).1 there))]
  · rintro ⟨mem_iff, order⟩
    have perm : (firsts left).Perm (firsts right) :=
      (List.perm_ext_iff_of_nodup (nodup_firsts left) (nodup_firsts right)).2 fun item => by
        rw [mem_firsts, mem_firsts, mem_iff]
    have sorted : (firsts right).Pairwise fun first second =>
        left.idxOf first < left.idxOf second := by
      refine (List.Pairwise.and_mem.1 (pairwise_firsts right)).imp ?_
      rintro first second ⟨here, there, before⟩
      rw [mem_firsts, ← mem_iff] at here there
      exact (order first here second there).2 before
    refine perm.eq_of_pairwise ?_ (pairwise_firsts left) sorted
    exact fun _ _ _ _ before after => absurd after (Nat.lt_asymm before)

end Foundations
