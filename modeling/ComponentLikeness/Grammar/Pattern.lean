/-!
# Regular patterns

Token patterns as regular expressions over characters, matched by taking
derivatives: `Pattern.longest` walks the text once, keeping what is left to
match, and remembers the last place where nothing was left to be required.
-/

namespace ComponentLikeness.Grammar

/-- A set of characters: those inside one of the code point ranges, or, when
`negated`, those inside none of them. -/
structure CharSet where
  ranges : List (Nat × Nat)
  negated : Bool := false
deriving DecidableEq, Repr, Inhabited

namespace CharSet

/-- Membership, by comparing code points with the range bounds. -/
def contains (s : CharSet) (c : Char) : Bool :=
  (s.ranges.any fun r => r.1 ≤ c.toNat && c.toNat ≤ r.2) != s.negated

/-- Exactly the characters of the text. -/
def ofString (text : String) : CharSet :=
  ⟨text.toList.map fun c => (c.toNat, c.toNat), false⟩

/-- The characters from `lo` to `hi`, both included. -/
def range (lo hi : Char) : CharSet := ⟨[(lo.toNat, hi.toNat)], false⟩

/-- The characters of either set; both sets are given by what they contain. -/
def union (a b : CharSet) : CharSet := ⟨a.ranges ++ b.ranges, false⟩

/-- Every character that the set does not contain. -/
def complement (s : CharSet) : CharSet := ⟨s.ranges, !s.negated⟩

instance : Append CharSet := ⟨union⟩

/-- The ASCII digits. -/
def digit : CharSet := range '0' '9'

/-- Hexadecimal digits in either case. -/
def hexDigit : CharSet := digit ++ range 'a' 'f' ++ range 'A' 'F'

/-- The Unicode space separators (general category `Zs`). -/
def spaceSeparator : CharSet :=
  ⟨[(0x20, 0x20), (0xA0, 0xA0), (0x1680, 0x1680), (0x2000, 0x200A),
    (0x202F, 0x202F), (0x205F, 0x205F), (0x3000, 0x3000)], false⟩

/-- Tab, line feed, vertical tab, form feed, carriage return and space. -/
def asciiSpace : CharSet := ⟨[(0x09, 0x0D), (0x20, 0x20)], false⟩

end CharSet

/-- Regular expressions over characters. -/
inductive Pattern where
  /-- Matches nothing at all. -/
  | fail
  /-- Matches the empty text. -/
  | empty
  /-- Matches one character of the set. -/
  | one (set : CharSet)
  /-- Matches the first pattern, then the second. -/
  | cat (first second : Pattern)
  /-- Matches either pattern. -/
  | alt (left right : Pattern)
  /-- Matches the pattern any number of times. -/
  | star (body : Pattern)
deriving DecidableEq, Repr, Inhabited

namespace Pattern

/-- Sequence, with `fail` absorbing and `empty` neutral. -/
def seq : Pattern → Pattern → Pattern
  | .fail, _ => .fail
  | _, .fail => .fail
  | .empty, q => q
  | p, .empty => p
  | p, q => .cat p q

/-- Alternative, with `fail` neutral and equal alternatives merged. -/
def or : Pattern → Pattern → Pattern
  | .fail, q => q
  | p, .fail => p
  | p, q => if p = q then p else .alt p q

/-- Whether the pattern matches the empty text. -/
def nullable : Pattern → Bool
  | .fail => false
  | .empty => true
  | .one _ => false
  | .cat p q => p.nullable && q.nullable
  | .alt p q => p.nullable || q.nullable
  | .star _ => true

/-- What remains to be matched once `c` has been read. -/
def derive (c : Char) : Pattern → Pattern
  | .fail => .fail
  | .empty => .fail
  | .one s => if s.contains c then .empty else .fail
  | .cat p q =>
    if p.nullable then or (seq (p.derive c) q) (q.derive c)
    else seq (p.derive c) q
  | .alt p q => or (p.derive c) (q.derive c)
  | .star p => seq (p.derive c) (.star p)

/-- Continue a match at `i`, where `best` is the end of the longest match so
far; the text is read once and the walk stops as soon as nothing can match. -/
def longestFrom (text : Array Char) (p : Pattern) (i : Nat) (best : Option Nat) :
    Option Nat :=
  let best := if p.nullable then some i else best
  if h : i < text.size then
    match p.derive text[i] with
    | .fail => best
    | q => longestFrom text q (i + 1) best
  else best
termination_by text.size - i

/-- Where the longest match starting at `i` ends, if there is a match. -/
def longest (p : Pattern) (text : Array Char) (i : Nat) : Option Nat :=
  longestFrom text p i none

/-- Matches exactly the text. -/
def ofString (text : String) : Pattern :=
  text.toList.foldr (fun c p => seq (.one ⟨[(c.toNat, c.toNat)], false⟩) p) .empty

instance : Coe String Pattern := ⟨ofString⟩
instance : Coe CharSet Pattern := ⟨one⟩
instance : Append Pattern := ⟨seq⟩
instance : HOr Pattern Pattern Pattern := ⟨or⟩

/-- The pattern once or not at all. -/
def opt (p : Pattern) : Pattern := or p .empty

/-- The pattern at least once. -/
def plus (p : Pattern) : Pattern := seq p (.star p)

/-- The patterns one after the other. -/
def all (ps : List Pattern) : Pattern := ps.foldr seq .empty

/-- Any one of the patterns. -/
def any (ps : List Pattern) : Pattern := ps.foldr or .fail

/-- The pattern at least `lo` and at most `hi` times. -/
def between (p : Pattern) (lo hi : Nat) : Pattern :=
  all (List.replicate lo p) ++ (List.range (hi - lo)).foldl (fun q _ => opt (seq p q)) .empty

end Pattern

end ComponentLikeness.Grammar
