import ComponentLikeness.Component.Fingerprint
import ComponentLikeness.Number.Arithmetic

/-!
# Scores

How alike two fingerprints are: the mean of the Jaccard similarity of their
props, that of their style tokens, and the equality of their signatures.
-/

namespace ComponentLikeness.Similarity

open Component Number Text

variable {α : Type} [Arithmetic α]

/-- The number of strings in one of two sets or both. -/
def unionCount (a b : StringSet) : Nat := a.size + b.size - a.sharedCount b

/-- The share of the common members among all members of two sets; zero for two
empty sets. -/
def jaccard (a b : StringSet) : α :=
  if a.isEmpty && b.isEmpty then Arithmetic.zero
  else Arithmetic.quotient (a.sharedCount b) (unionCount a b)

/-- A score and the three parts of which it is the mean. -/
structure Breakdown (α : Type) where
  propScore : α
  styleScore : α
  structureScore : α
  total : α
deriving DecidableEq, Repr, Inhabited

/-- One for equal signatures, else zero. -/
def structureScore (a b : String) : α := if a = b then Arithmetic.one else Arithmetic.zero

/-- The mean of three numbers. -/
def mean (x y z : α) : α := Arithmetic.divideBy (Arithmetic.add (Arithmetic.add x y) z) 3

/-- The score of a member for a candidate. -/
def score (candidate member : Fingerprint) : Breakdown α :=
  let propScore := jaccard candidate.props member.props
  let styleScore := jaccard candidate.styleTokens member.styleTokens
  let structureScore := structureScore candidate.signature member.signature
  { propScore, styleScore, structureScore
    total := mean propScore styleScore structureScore }

end ComponentLikeness.Similarity
