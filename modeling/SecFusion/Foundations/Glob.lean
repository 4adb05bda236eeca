import SecFusion.Foundations.Text

/-!
# Shell patterns

`fnmatch.fnmatchcase`: a star stands for any text, a question mark for any one
character, and brackets for one character of a set, or outside of it after an
exclamation mark.  A bracket that is not closed stands for itself.
-/

namespace Foundations

namespace Glob

/-- One part of a pattern. -/
inductive Item where
  | star
  | any
  | one (c : Char)
  | set (negated : Bool) (ranges : List (Char × Char))

/-- The ranges between brackets; a single character is a range of its own. -/
def ranges : List Char → List (Char × Char)
  | first :: '-' :: last :: rest => (first, last) :: ranges rest
  | c :: rest => (c, c) :: ranges rest
  | [] => []

/-- What stands between a bracket and the one that closes it, and what follows.  A
closing bracket that comes first is a member of the set. -/
def bracket? (chars : List Char) : Option (Item × List Char) :=
  let negated := chars.head? = some '!'
  let body := if negated then chars.tail else chars
  let literal := if body.head? = some ']' then [']'] else []
  match (body.drop literal.length).span (· ≠ ']') with
  | (_, []) => none
  | (inside, _ :: rest) => some (.set negated (ranges (literal ++ inside)), rest)

/-- The parts of a pattern; each takes at least one character, so that the length of
the pattern bounds their number. -/
def parse : ℕ → List Char → List Item
  | 0, _ | _, [] => []
  | fuel + 1, '*' :: rest => .star :: parse fuel rest
  | fuel + 1, '?' :: rest => .any :: parse fuel rest
  | fuel + 1, '[' :: rest =>
      match bracket? rest with
      | some (item, after) => item :: parse fuel after
      | none => .one '[' :: parse fuel rest
  | fuel + 1, c :: rest => .one c :: parse fuel rest

/-- The character is one that the part stands for. -/
def Item.accepts : Item → Char → Bool
  | .star, _ | .any, _ => true
  | .one expected, c => c = expected
  | .set negated ranges, c => (ranges.any fun range => range.1 ≤ c && c ≤ range.2) != negated

def matchItems : List Item → List Char → Bool
  | [], text => text.isEmpty
  | .star :: items, text => text.tails.any (matchItems items)
  | item :: items, c :: text => item.accepts c && matchItems items text
  | _ :: _, [] => false

end Glob

/-- `fnmatch.fnmatchcase`. -/
def fnmatchcase (name pattern : String) : Bool :=
  Glob.matchItems (Glob.parse pattern.length pattern.toList) name.toList

example : fnmatchcase "capability:github" "capability:g[!a-h]*b" = true := by decide

end Foundations
