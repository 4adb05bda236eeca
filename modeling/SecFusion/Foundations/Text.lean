import Mathlib

/-!
# Python strings

The operations of Python's `str` that the modelled code uses, over the list of
code points: what counts as white space, `strip`, removal of a known head, the
split at the first and at the last occurrence of a separator, and sorted sets of
texts.  The decimal text of a natural
number is `toString`; `parseNat` is its inverse on ASCII digits.
-/

namespace Foundations

/-- Sorting forgets the order, where the sorting key tells the elements apart. -/
theorem insertionSort_eq_of_perm {α : Type*} {order : α → α → Prop} [DecidableRel order]
    [Std.Total order] [IsTrans α order] {left right : List α} (perm : left.Perm right)
    (antisymmetric : ∀ a ∈ left, ∀ b ∈ left, order a b → order b a → a = b) :
    left.insertionSort order = right.insertionSort order := by
  refine List.Perm.eq_of_pairwise ?_ (List.pairwise_insertionSort order left)
    (List.pairwise_insertionSort order right) ?_
  · intro a b aMember bMember below above
    rw [List.mem_insertionSort] at aMember bMember
    exact antisymmetric a aMember b (perm.mem_iff.2 bMember) below above
  · exact (List.perm_insertionSort order left).trans
      (perm.trans (List.perm_insertionSort order right).symm)

variable {head text : String} {rest : List Char} {c separator : Char}

namespace Text

/-- `str.isspace` on one code point. -/
def isSpace (c : Char) : Bool :=
  let n := c.toNat
  (9 ≤ n && n ≤ 13) || (28 ≤ n && n ≤ 32) || n = 133 || n = 160 || n = 5760 ||
    (8192 ≤ n && n ≤ 8202) || n = 8232 || n = 8233 || n = 8239 || n = 8287 || n = 12288

/-- `not text.strip()`: nothing but white space. -/
def isBlank (text : String) : Bool := text.toList.all isSpace

/-- `text.strip()`: without leading and trailing white space. -/
def strip (text : String) : String :=
  String.ofList ((text.toList.dropWhile isSpace).reverse.dropWhile isSpace).reverse

/-- `text[len(head):]` when `text.startswith(head)`. -/
def afterHead? (head text : String) : Option String :=
  if head.toList.isPrefixOf text.toList then
    some (String.ofList (text.toList.drop head.toList.length))
  else none

@[simp] theorem afterHead?_append (head rest : String) :
    afterHead? head (head ++ rest) = some rest := by
  simp [afterHead?]

theorem afterHead?_eq_some {rest : String} (found : afterHead? head text = some rest) :
    text = head ++ rest := by
  unfold afterHead? at found
  split at found
  next heads =>
    cases found
    obtain ⟨tail, same⟩ := List.isPrefixOf_iff_prefix.1 heads
    rw [← String.toList_inj, String.toList_append, String.toList_ofList, ← same]
    simp
  next => cases found

/-- A text that starts with another character has no such head. -/
theorem afterHead?_of_ne {d : Char} {first : List Char} (heads : head.toList = c :: first)
    (starts : text.toList = d :: rest) (different : c ≠ d) :
    afterHead? head text = none := by
  rw [afterHead?, if_neg]
  rw [heads, starts]
  simp [List.isPrefixOf, different]

/-- What head and text have in common at their start does not matter. -/
theorem afterHead?_append_append (common head text : String) :
    afterHead? (common ++ head) (common ++ text) = afterHead? head text := by
  have drops : (common ++ text).toList.drop (common ++ head).toList.length =
      text.toList.drop head.toList.length := by
    rw [String.toList_append, String.toList_append, List.length_append, ← List.drop_drop,
      List.drop_left]
  have heads : (common ++ head).toList.isPrefixOf (common ++ text).toList =
      head.toList.isPrefixOf text.toList := by
    rw [String.toList_append, String.toList_append, Bool.eq_iff_iff, List.isPrefixOf_iff_prefix,
      List.isPrefixOf_iff_prefix, List.prefix_append_right_inj]
  rw [afterHead?, afterHead?, drops, heads]

/-- A text up to a separator that does not occur in it, and what follows, are known
from the whole. -/
theorem append_cons_inj {left other right : List Char} (leftFree : separator ∉ left)
    (otherFree : separator ∉ other) :
    left ++ separator :: right = other ++ separator :: rest ↔ left = other ∧ right = rest := by
  constructor
  · intro same
    induction left generalizing other with
    | nil =>
        cases other with
        | nil => exact ⟨rfl, (List.cons.inj same).2⟩
        | cons c tail =>
            have heads : separator = c := (List.cons.inj same).1
            exact absurd (heads ▸ List.mem_cons_self) otherFree
    | cons c tail ih =>
        cases other with
        | nil =>
            have heads : c = separator := (List.cons.inj same).1
            exact absurd (heads ▸ List.mem_cons_self) leftFree
        | cons d others =>
            obtain ⟨sameHead, sameTail⟩ := List.cons.inj same
            obtain ⟨sameLeft, sameRight⟩ := ih (fun member => leftFree (List.mem_cons_of_mem _ member))
              (fun member => otherFree (List.mem_cons_of_mem _ member)) sameTail
            exact ⟨by rw [sameHead, sameLeft], sameRight⟩
  · rintro ⟨rfl, rfl⟩
    rfl

/-- `text.removeprefix(head)`. -/
def removeHead (head text : String) : String := (afterHead? head text).getD text

/-- `text.partition(separator)`, when the separator occurs: what stands before
and after its first occurrence. -/
def partition (separator : Char) (text : String) : Option (String × String) :=
  match text.toList.dropWhile (· ≠ separator) with
  | [] => none
  | _ :: rest => some (String.ofList (text.toList.takeWhile (· ≠ separator)), String.ofList rest)

/-- `sorted(set(texts))`. -/
def sortedSet (texts : List String) : List String := texts.dedup.insertionSort (· ≤ ·)

@[simp] theorem mem_sortedSet {texts : List String} :
    text ∈ sortedSet texts ↔ text ∈ texts := by
  simp [sortedSet]

theorem sortedSet_eq_of_mem_iff {left right : List String}
    (same : ∀ text, text ∈ left ↔ text ∈ right) : sortedSet left = sortedSet right := by
  refine insertionSort_eq_of_perm ?_ fun a _ b _ => le_antisymm
  rw [List.perm_ext_iff_of_nodup (List.nodup_dedup _) (List.nodup_dedup _)]
  simpa using same

/-- `text.rpartition(separator)`, when the separator occurs: what stands before
and after its last occurrence. -/
def rpartition (separator : Char) (text : String) : Option (String × String) :=
  let last := text.toList.reverse.takeWhile (· ≠ separator)
  match text.toList.reverse.dropWhile (· ≠ separator) with
  | [] => none
  | _ :: first => some (String.ofList first.reverse, String.ofList last.reverse)

theorem rpartition_append {left right : String} (absent : separator ∉ right.toList) :
    rpartition separator (left ++ String.singleton separator ++ right) = some (left, right) := by
  have others : ∀ c ∈ right.toList.reverse, decide (c ≠ separator) = true := by
    intro c member
    refine decide_eq_true fun same => absent ?_
    exact List.mem_reverse.1 (same ▸ member)
  have drop : (left ++ String.singleton separator ++ right).toList.reverse.dropWhile
      (· ≠ separator) = separator :: left.toList.reverse := by
    rw [String.toList_append, List.reverse_append, List.dropWhile_append_of_pos others]
    simp
  have take : (left ++ String.singleton separator ++ right).toList.reverse.takeWhile
      (· ≠ separator) = right.toList.reverse := by
    rw [String.toList_append, List.reverse_append, List.takeWhile_append_of_pos others]
    simp
  simp only [rpartition, drop, take, List.reverse_reverse, String.ofList_toList]

/-- `int(text)` for a text of ASCII digits. -/
def parseNat (text : String) : Option ℕ :=
  if text.toList ≠ [] ∧ text.toList.all Char.isDigit then
    some (Nat.ofDigitChars 10 text.toList 0)
  else none

/-- The value of ASCII digits, which may be grouped by single underscores. -/
def digitsValue (digits : List Char) : Option ℕ :=
  let groups := digits.splitOn '_'
  if groups.all fun group => group ≠ [] ∧ group.all Char.isDigit then
    some (Nat.ofDigitChars 10 groups.flatten 0)
  else none

/-- `int(text)`: digits with an optional sign, and blanks around them. -/
def parseInt (text : String) : Option ℤ :=
  match (strip text).toList with
  | '-' :: digits => (digitsValue digits).map fun n => -(n : ℤ)
  | '+' :: digits => (digitsValue digits).map Int.ofNat
  | digits => (digitsValue digits).map Int.ofNat

theorem toList_toString (n : ℕ) : (toString n).toList = Nat.toDigits 10 n := by
  simp [ToString.toString, Nat.repr]

theorem parseNat_toString (n : ℕ) : parseNat (toString n) = some n := by
  have digits : (toString n).toList ≠ [] ∧ (toString n).toList.all Char.isDigit = true := by
    rw [toList_toString]
    refine ⟨Nat.toDigits_ne_nil, List.all_eq_true.2 fun c member => ?_⟩
    exact Nat.isDigit_of_mem_toDigits (by decide) (by decide) member
  rw [parseNat, if_pos digits, toList_toString, Nat.ofDigitChars_toDigits (by decide) (by decide)]

theorem not_mem_toString (other : c.isDigit = false) (n : ℕ) :
    c ∉ (toString n).toList := by
  rw [toList_toString]
  intro member
  have digit := Nat.isDigit_of_mem_toDigits (by decide) (by decide) member
  rw [other] at digit
  cases digit

end Text

export Text (afterHead? isBlank isSpace mem_sortedSet sortedSet sortedSet_eq_of_mem_iff strip)

end Foundations
