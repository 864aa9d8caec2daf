import ComponentLikeness.Number.Binary64

/-!
# Decimal texts of doubles

Reading a decimal rounds its exact value. Writing chooses the fewest digits
that read back as the same number, the nearest of those, and puts the point
where it belongs without an exponent.
-/

namespace ComponentLikeness.Number

/-! ## Reading -/

/-- The value of a string of decimal digits. -/
def digitsValue (digits : List Char) : Nat :=
  digits.foldl (fun n c => 10 * n + (c.toNat - '0'.toNat)) 0

/-- Digits times a power of ten, rounded. Exponents far out of range are not
computed. -/
def ofScientific (negative : Bool) (mantissa : Nat) (exponent : Int) : Binary64 :=
  if mantissa = 0 then .finite negative 0
  else
    let size : Int := (Nat.toDigits 10 mantissa).length
    if size + exponent > 400 then .infinite negative
    else if size + exponent < -400 then .finite negative 0
    else if exponent ≥ 0 then .ofQuotient negative (mantissa * Nat.pow 10 exponent.toNat) 1
    else .ofQuotient negative mantissa (Nat.pow 10 (-exponent).toNat)

/-- Split a sign off a text. -/
def splitSign : List Char → Bool × List Char
  | '-' :: rest => (true, rest)
  | '+' :: rest => (false, rest)
  | rest => (false, rest)

/-- Digits and nothing else, at least one. -/
def wholeNumber? (text : List Char) : Option Nat :=
  if !text.isEmpty && text.all Char.isDigit then some (digitsValue text) else none

/-- An exponent, sign included, that takes up the whole text. -/
def exponent? : List Char → Option Int
  | [] => some 0
  | c :: rest =>
    if c = 'e' || c = 'E' then
      let (negative, digits) := splitSign rest
      (wholeNumber? digits).map fun n => if negative then -(n : Int) else n
    else none

/-- Digits with an optional point and exponent, read as a double. -/
def plainNumber? (negative : Bool) (text : List Char) : Option Binary64 :=
  let whole := text.takeWhile Char.isDigit
  let (fraction, rest) := match text.dropWhile Char.isDigit with
    | '.' :: rest => (rest.takeWhile Char.isDigit, rest.dropWhile Char.isDigit)
    | rest => ([], rest)
  if whole.isEmpty && fraction.isEmpty then none
  else (exponent? rest).map fun exponent =>
    ofScientific negative (digitsValue (whole ++ fraction)) (exponent - fraction.length)

/-- A signed number, `inf`, `infinity` or `nan` in any case. -/
def Binary64.parse? (text : String) : Option Binary64 :=
  let (negative, rest) := splitSign text.toList
  let word := String.ofList (rest.map Char.toLower)
  if word = "inf" || word = "infinity" then some (.infinite negative)
  else if word = "nan" then some (.nan negative)
  else plainNumber? negative rest

/-- A whole number in digits, with an optional plus sign, below a bound. -/
def parseBounded? (bound : Nat) (text : String) : Option Nat :=
  let digits := match text.toList with
    | '+' :: rest => rest
    | digits => digits
  (wholeNumber? digits).filter (· < bound)

/-! ## Writing -/

/-- The power of ten of the first digit of a positive quotient below one. -/
def smallExponent (num den : Nat) : Nat → Int → Int
  | 0, e => e
  | fuel + 1, e => if num ≥ den then e else smallExponent (num * 10) den fuel (e - 1)

/-- The power of ten of the first digit of a positive quotient. -/
def firstDigitExponent (num den : Nat) : Int :=
  if num ≥ den then ((Nat.toDigits 10 (num / den)).length : Int) - 1
  else smallExponent num den 400 0

/-- A whole number times a power of ten. -/
def timesPowerOfTen (m : Nat) (e : Int) : Rat :=
  if e ≥ 0 then ((m * Nat.pow 10 e.toNat : Nat) : Rat) else mkRat m (Nat.pow 10 (-e).toNat)

/-- Whether a decimal reads back as the magnitude. -/
def readsBack (magnitude : Rat) (m : Nat) (e : Int) : Bool :=
  ofScientific false m e == .finite false magnitude

/-- The decimal with steps of a power of ten that reads back and lies nearest,
if the neighbours of the magnitude on that grid read back at all. -/
def onGrid (magnitude : Rat) (e : Int) : Option (Nat × Int) :=
  let below := (magnitude / timesPowerOfTen 1 e).floor.toNat
  let above := below + 1
  let low := readsBack magnitude below e
  let high := readsBack magnitude above e
  if low && high then
    let gap := magnitude - timesPowerOfTen below e
    let gap' := timesPowerOfTen above e - magnitude
    if gap < gap' then some (below, e)
    else if gap' < gap then some (above, e)
    else some (if below % 2 = 0 then below else above, e)
  else if low then some (below, e)
  else if high then some (above, e)
  else none

/-- The coarsest grid with a decimal that reads back. -/
def shortestFrom (magnitude : Rat) : Nat → Int → Nat × Int
  | 0, e => ((magnitude / timesPowerOfTen 1 e).floor.toNat, e)
  | fuel + 1, e =>
    match onGrid magnitude e with
    | some found => found
    | none => shortestFrom magnitude fuel (e - 1)

/-- The digits and the power of ten of the shortest decimal that reads back as
a positive magnitude. -/
def shortest (magnitude : Rat) : Nat × Int :=
  shortestFrom magnitude 17 (firstDigitExponent magnitude.num.natAbs magnitude.den)

/-- Digits times a power of ten, written out with a point. -/
def positional (m : Nat) (e : Int) : String :=
  let digits := Nat.toDigits 10 m
  if e ≥ 0 then String.ofList (digits ++ List.replicate e.toNat '0') ++ ".0"
  else
    let places := (-e).toNat
    let padded := List.replicate (places + 1 - digits.length) '0' ++ digits
    let whole := padded.take (padded.length - places)
    let fraction := padded.drop (padded.length - places)
    let kept := (fraction.reverse.dropWhile (· = '0')).reverse
    String.ofList (whole ++ '.' :: (if kept.isEmpty then ['0'] else kept))

/-- The shortest decimal text of a double, without an exponent. -/
def Binary64.toText : Binary64 → String
  | .nan negative => if negative then "-nan" else "nan"
  | .infinite negative => if negative then "-inf" else "inf"
  | .finite negative magnitude =>
    let sign := if negative then "-" else ""
    if magnitude = 0 then sign ++ "0.0"
    else
      let (m, e) := shortest magnitude
      sign ++ positional m e

end ComponentLikeness.Number
