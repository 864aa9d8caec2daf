/-!
# Doubles

The numbers of IEEE 754 binary64, given by their sign and exact rational
magnitude. Every rational is rounded to the nearest of them, a tie going to
the even significand; beyond the largest one lies infinity.
-/

namespace ComponentLikeness.Number

/-- A number of the format. A magnitude is never negative, and zero has a sign
of its own. -/
inductive Binary64 where
  | nan (negative : Bool)
  | infinite (negative : Bool)
  | finite (negative : Bool) (magnitude : Rat)
deriving DecidableEq, Repr, Inhabited

/-- The integer nearest to a quotient, a tie going to the even one. -/
def roundHalfEven (num den : Nat) : Nat :=
  let q := num / den
  let r := num % den
  if 2 * r < den then q
  else if den < 2 * r then q + 1
  else if q % 2 = 0 then q else q + 1

/-- A natural number times a power of two. -/
def timesPowerOfTwo (m : Nat) (e : Int) : Rat :=
  if e ≥ 0 then ((m <<< e.toNat : Nat) : Rat) else mkRat m (1 <<< (-e).toNat)

/-- A quotient divided by a power of two. -/
def scaleDown (num den : Nat) (e : Int) : Nat × Nat :=
  if e ≥ 0 then (num, den <<< e.toNat) else (num <<< (-e).toNat, den)

namespace Binary64

/-- The top bit of a full significand. -/
def topBit : Nat := 1 <<< 52

/-- The least exponent of a significand. -/
def minExponent : Int := -1074

/-- The exponent of the last bit kept of a positive quotient: 53 bits are kept,
fewer near zero. -/
def lastBit (num den : Nat) : Int :=
  let guess := (num.log2 : Int) - (den.log2 : Int) - 52
  let (n, d) := scaleDown num den guess
  max minExponent (if n < d * topBit then guess - 1 else guess)

/-- The nearest magnitude that the format has, its range apart. -/
def nearest (num den : Nat) : Rat :=
  if num = 0 then 0
  else
    let e := lastBit num den
    let (n, d) := scaleDown num den e
    timesPowerOfTwo (roundHalfEven n d) e

/-- The first magnitude beyond the range. -/
def limit : Rat := ((1 <<< 1024 : Nat) : Rat)

/-- Round a magnitude given as a quotient. -/
def ofQuotient (negative : Bool) (num den : Nat) : Binary64 :=
  let magnitude := nearest num den
  if magnitude < limit then .finite negative magnitude else .infinite negative

/-- Round a rational; the sign of zero is positive. -/
def ofRat (q : Rat) : Binary64 := ofQuotient (decide (q < 0)) q.num.natAbs q.den

/-- Zero. -/
def zero : Binary64 := .finite false 0

/-- The rational value of a finite number. -/
def signed (negative : Bool) (magnitude : Rat) : Rat :=
  if negative then -magnitude else magnitude

/-- The order of numbers; NaN is in no order with anything. -/
def lt : Binary64 → Binary64 → Bool
  | .nan _, _ => false
  | _, .nan _ => false
  | .infinite a, .infinite b => a && !b
  | .infinite a, .finite _ _ => a
  | .finite _ _, .infinite b => !b
  | .finite a p, .finite b q => decide (signed a p < signed b q)

/-- Less or equal; the two zeros are equal. -/
def le (x y : Binary64) : Bool :=
  match x, y with
  | .nan _, _ => false
  | _, .nan _ => false
  | x, y => !lt y x

/-- The total order of the standard: all numbers stand in a row, negative zero
below zero and the NaNs at the ends. -/
def totalLt : Binary64 → Binary64 → Bool
  | .nan a, .nan b => a && !b
  | .nan a, _ => a
  | _, .nan b => !b
  | .finite a p, .finite b q => if a = b then decide (signed a p < signed b q) else a
  | x, y => lt x y

/-- Whether the number is a NaN. -/
def isNaN : Binary64 → Bool
  | .nan _ => true
  | _ => false

/-- Addition, rounded; opposite infinities have no sum. -/
def add : Binary64 → Binary64 → Binary64
  | .nan a, _ => .nan a
  | _, .nan b => .nan b
  | .infinite a, .infinite b => if a = b then .infinite a else .nan false
  | .infinite a, .finite _ _ => .infinite a
  | .finite _ _, .infinite b => .infinite b
  | .finite a p, .finite b q =>
    let sum := signed a p + signed b q
    if sum = 0 then .finite (a && b) 0 else ofRat sum

/-- Division by a positive whole number, rounded. -/
def divideBy (x : Binary64) (n : Nat) : Binary64 :=
  match x with
  | .finite negative magnitude =>
    ofQuotient negative magnitude.num.natAbs (magnitude.den * n)
  | x => x

/-- The sign bit. -/
def signBits (negative : Bool) : Nat := if negative then 1 <<< 63 else 0

/-- The encoding as a word of 64 bits. -/
def toBits : Binary64 → Nat
  | .nan negative => signBits negative + 0x7FF8000000000000
  | .infinite negative => signBits negative + 0x7FF0000000000000
  | .finite negative magnitude =>
    let num := magnitude.num.natAbs
    if num = 0 then signBits negative
    else
      let e := lastBit num magnitude.den
      let (n, d) := scaleDown num magnitude.den e
      let m := n / d
      signBits negative +
        (if m < topBit then m else (e + 1075).toNat * topBit + (m - topBit))

end Binary64

end ComponentLikeness.Number
