import ComponentLikeness.Number.Binary64

/-!
# Arithmetic of scores

The few operations with which scores are computed, exact on rationals and
rounded on doubles. What is said of scores over any arithmetic holds of both.
-/

namespace ComponentLikeness.Number

/-- The operations with which scores are computed. -/
class Arithmetic (α : Type) where
  /-- The quotient of two counts, the second of which is not zero. -/
  quotient : Nat → Nat → α
  /-- The sum of two numbers. -/
  add : α → α → α
  /-- A number divided by a count. -/
  divideBy : α → Nat → α
  /-- Whether the first number is less than the second. -/
  less : α → α → Bool
  /-- Whether the first number stands below the second when all are put in a row. -/
  below : α → α → Bool

namespace Arithmetic

variable {α : Type} [Arithmetic α]

/-- Zero. -/
def zero : α := quotient 0 1

/-- One. -/
def one : α := quotient 1 1

end Arithmetic

/-- Exact arithmetic. -/
instance : Arithmetic Rat where
  quotient m n := (m : Rat) / (n : Rat)
  add p q := p + q
  divideBy p n := p / (n : Rat)
  less p q := decide (p < q)
  below p q := decide (p < q)

/-- Arithmetic in which each result is rounded. -/
instance : Arithmetic Binary64 where
  quotient m n := .ofQuotient false m n
  add := Binary64.add
  divideBy := Binary64.divideBy
  less := Binary64.lt
  below := Binary64.totalLt

end ComponentLikeness.Number
