import ComponentLikeness.Number.Decimal
import ComponentLikeness.Toml.Value

/-!
# TOML scalars

Strings, numbers, dates and times. A string is read up to its closing quotes;
the other scalars are words of letters, digits and a few marks, which are read
as a whole.
-/

namespace ComponentLikeness.Toml

open Number

/-! ## Characters -/

/-- Space or tab. -/
def isBlank (c : Char) : Bool := c = ' ' || c = '\t'

/-- Whether the character may stand in a comment or a literal string. -/
def isPlain (c : Char) : Bool := c = '\t' || (' ' ≤ c && c ≠ '\x7f')

/-- The value of a hexadecimal digit. -/
def hexDigit? (c : Char) : Option Nat :=
  if '0' ≤ c && c ≤ '9' then some (c.toNat - '0'.toNat)
  else if 'a' ≤ c && c ≤ 'f' then some (c.toNat - 'a'.toNat + 10)
  else if 'A' ≤ c && c ≤ 'F' then some (c.toNat - 'A'.toNat + 10)
  else none

/-- The value of hexadecimal digits. -/
def hexValue? (digits : List Char) : Option Nat :=
  digits.foldl (fun n c => n.bind fun n => (hexDigit? c).map (16 * n + ·)) (some 0)

/-- The character with a code point in hexadecimal digits. -/
def codePoint? (digits : List Char) : Option Char :=
  (hexValue? digits).bind fun n => if n.isValidChar then some (Char.ofNat n) else none

/-- The character meant by a single letter behind a backslash. -/
def shortEscape? (c : Char) : Option Char :=
  if c = 'b' then some '\x08'
  else if c = 't' then some '\t'
  else if c = 'n' then some '\n'
  else if c = 'f' then some '\x0c'
  else if c = 'r' then some '\r'
  else if c = '"' then some '"'
  else if c = '\\' then some '\\'
  else none

/-! ## Strings

Each reader answers the characters of the string and what follows the closing
quotes. -/

/-- What follows the opening quote of a basic string. -/
def basicBody : List Char → Option (List Char × List Char)
  | [] => none
  | '"' :: rest => some ([], rest)
  | '\\' :: 'u' :: a :: b :: c :: d :: rest => do
    let x ← codePoint? [a, b, c, d]
    let (xs, rest) ← basicBody rest
    return (x :: xs, rest)
  | '\\' :: 'U' :: a :: b :: c :: d :: e :: f :: g :: h :: rest => do
    let x ← codePoint? [a, b, c, d, e, f, g, h]
    let (xs, rest) ← basicBody rest
    return (x :: xs, rest)
  | '\\' :: e :: rest => do
    let x ← shortEscape? e
    let (xs, rest) ← basicBody rest
    return (x :: xs, rest)
  | x :: rest =>
    if isPlain x && x ≠ '\\' then (basicBody rest).map fun (xs, rest) => (x :: xs, rest)
    else none

/-- What follows the opening quote of a literal string. -/
def literalBody : List Char → Option (List Char × List Char)
  | [] => none
  | '\'' :: rest => some ([], rest)
  | x :: rest =>
    if isPlain x then (literalBody rest).map fun (xs, rest) => (x :: xs, rest) else none

/-- Whether nothing but blanks stands before the end of the line. -/
def endsLine (text : List Char) : Bool :=
  match text.dropWhile isBlank with
  | '\n' :: _ => true
  | '\r' :: '\n' :: _ => true
  | _ => false

/-- What follows the opening quotes of a basic string of several lines. Behind
a backslash at the end of a line, `skipping` leaves out blanks and line ends.
Up to two quotes right before the closing ones belong to the string. -/
def multilineBasicBody (skipping : Bool) : List Char → Option (List Char × List Char)
  | [] => none
  | '"' :: '"' :: '"' :: '"' :: '"' :: rest => some (['"', '"'], rest)
  | '"' :: '"' :: '"' :: '"' :: rest => some (['"'], rest)
  | '"' :: '"' :: '"' :: rest => some ([], rest)
  | '\\' :: 'u' :: a :: b :: c :: d :: rest => do
    let x ← codePoint? [a, b, c, d]
    let (xs, rest) ← multilineBasicBody false rest
    return (x :: xs, rest)
  | '\\' :: 'U' :: a :: b :: c :: d :: e :: f :: g :: h :: rest => do
    let x ← codePoint? [a, b, c, d, e, f, g, h]
    let (xs, rest) ← multilineBasicBody false rest
    return (x :: xs, rest)
  | '\\' :: e :: rest =>
    if endsLine (e :: rest) then multilineBasicBody true (e :: rest)
    else do
      let x ← shortEscape? e
      let (xs, rest) ← multilineBasicBody false rest
      return (x :: xs, rest)
  | '\r' :: '\n' :: rest =>
    if skipping then multilineBasicBody true rest
    else (multilineBasicBody false rest).map fun (xs, rest) => ('\n' :: xs, rest)
  | x :: rest =>
    if skipping && (isBlank x || x = '\n') then multilineBasicBody true rest
    else if x = '\n' || (isPlain x && x ≠ '\\') then
      (multilineBasicBody false rest).map fun (xs, rest) => (x :: xs, rest)
    else none

/-- What follows the opening quotes of a literal string of several lines. -/
def multilineLiteralBody : List Char → Option (List Char × List Char)
  | [] => none
  | '\'' :: '\'' :: '\'' :: '\'' :: '\'' :: rest => some (['\'', '\''], rest)
  | '\'' :: '\'' :: '\'' :: '\'' :: rest => some (['\''], rest)
  | '\'' :: '\'' :: '\'' :: rest => some ([], rest)
  | '\r' :: '\n' :: rest =>
    (multilineLiteralBody rest).map fun (xs, rest) => ('\n' :: xs, rest)
  | x :: rest =>
    if x = '\n' || isPlain x then
      (multilineLiteralBody rest).map fun (xs, rest) => (x :: xs, rest)
    else none

/-- A text without a line end at its beginning. -/
def dropLineEnd : List Char → List Char
  | '\n' :: rest => rest
  | '\r' :: '\n' :: rest => rest
  | rest => rest

/-- A string of any style, the first quote included. -/
def string? : List Char → Option (List Char × List Char)
  | '"' :: '"' :: '"' :: rest => multilineBasicBody false (dropLineEnd rest)
  | '\'' :: '\'' :: '\'' :: rest => multilineLiteralBody (dropLineEnd rest)
  | '"' :: rest => basicBody rest
  | '\'' :: rest => literalBody rest
  | _ => none

/-! ## Numbers -/

/-- Digits in which each underscore stands between two digits; the value is
that of the digits alone. -/
def digits? (isDigit : Char → Bool) : List Char → Option (List Char)
  | [] => none
  | [c] => if isDigit c then some [c] else none
  | c :: '_' :: rest => if isDigit c then (digits? isDigit rest).map (c :: ·) else none
  | c :: rest => if isDigit c then (digits? isDigit rest).map (c :: ·) else none

/-- The value of digits to a base. -/
def valueToBase (base : Nat) (digits : List Char) : Nat :=
  digits.foldl (fun n c => base * n + (hexDigit? c).getD 0) 0

/-- Digits of a decimal integer, which begins with no needless zero. -/
def decimalDigits? (text : List Char) : Option (List Char) :=
  (digits? Char.isDigit text).filter fun digits => digits.head? ≠ some '0' || digits.length = 1

/-- An integer of 64 bits with a sign. -/
def inRange (n : Int) : Option Int :=
  if -(integerBound : Int) ≤ n && n < integerBound then some n else none

/-- Whether the character is an octal digit. -/
def isOctal (c : Char) : Bool := '0' ≤ c && c ≤ '7'

/-- Whether the character is a binary digit. -/
def isBinary (c : Char) : Bool := c = '0' || c = '1'

/-- An integer to the base that its first characters tell. -/
def integer? (text : List Char) : Option Int :=
  let toBase := fun (base : Nat) (isDigit : Char → Bool) (rest : List Char) =>
    (digits? isDigit rest).bind fun digits => inRange (valueToBase base digits)
  match text with
  | '0' :: 'x' :: rest => toBase 16 (fun c => (hexDigit? c).isSome) rest
  | '0' :: 'o' :: rest => toBase 8 isOctal rest
  | '0' :: 'b' :: rest => toBase 2 isBinary rest
  | _ =>
    let (negative, rest) := splitSign text
    (decimalDigits? rest).bind fun digits =>
      let n : Int := valueToBase 10 digits
      inRange (if negative then -n else n)

/-- The exponent of a float with its sign, if the text is one. -/
def floatExponent? : List Char → Option (List Char)
  | c :: rest =>
    if c = 'e' || c = 'E' then
      let sign := rest.takeWhile fun c => c = '+' || c = '-'
      if sign.length > 1 then none
      else (digits? Char.isDigit (rest.drop sign.length)).map fun digits => 'e' :: sign ++ digits
    else none
  | [] => none

/-- Whether the character separates the whole part of a float from the rest. -/
def endsWhole (c : Char) : Bool := c = '.' || c = 'e' || c = 'E'

/-- The fraction and exponent of a float without underscores. -/
def floatTail? : List Char → Option (List Char)
  | '.' :: rest => do
    let fraction ← digits? Char.isDigit (rest.takeWhile fun c => !endsWhole c)
    match rest.dropWhile fun c => !endsWhole c with
    | [] => return '.' :: fraction
    | rest =>
      let exponent ← floatExponent? rest
      return '.' :: fraction ++ exponent
  | rest => floatExponent? rest

/-- A float with a fraction, an exponent or both; it must not be too large. -/
def plainFloat? (negative : Bool) (text : List Char) : Option Binary64 := do
  let whole ← decimalDigits? (text.takeWhile fun c => !endsWhole c)
  let tail ← floatTail? (text.dropWhile fun c => !endsWhole c)
  let x ← plainNumber? negative (whole ++ tail)
  if x = .infinite false then none else some x

/-- A float, which may also be infinite or no number. -/
def float? (text : List Char) : Option Binary64 :=
  let (negative, rest) := splitSign text
  if rest = ['i', 'n', 'f'] then some (.infinite negative)
  else if rest = ['n', 'a', 'n'] then some (.nan negative)
  else plainFloat? negative rest

/-! ## Dates and times -/

/-- Exactly so many decimal digits, and what follows them. -/
def fixedDigits? (count : Nat) (text : List Char) : Option (Nat × List Char) :=
  let digits := text.take count
  if digits.length = count && digits.all Char.isDigit then
    some (digitsValue digits, text.drop count)
  else none

/-- The number of days of a month. -/
def daysOfMonth (year month : Nat) : Nat :=
  if month = 2 then
    if year % 4 = 0 && (year % 100 ≠ 0 || year % 400 = 0) then 29 else 28
  else if [4, 6, 9, 11].contains month then 30
  else 31

/-- What follows a date. -/
def date? (text : List Char) : Option (List Char) := do
  let (year, rest) ← fixedDigits? 4 text
  let '-' :: rest := rest | none
  let (month, rest) ← fixedDigits? 2 rest
  let '-' :: rest := rest | none
  let (day, rest) ← fixedDigits? 2 rest
  if 1 ≤ month && month ≤ 12 && 1 ≤ day && day ≤ daysOfMonth year month then some rest else none

/-- What follows a time of the day. -/
def time? (text : List Char) : Option (List Char) := do
  let (hour, rest) ← fixedDigits? 2 text
  let ':' :: rest := rest | none
  let (minute, rest) ← fixedDigits? 2 rest
  let ':' :: rest := rest | none
  let (second, rest) ← fixedDigits? 2 rest
  if hour ≤ 23 && minute ≤ 59 && second ≤ 60 then
    match rest with
    | '.' :: c :: rest => if c.isDigit then some (rest.dropWhile Char.isDigit) else none
    | '.' :: [] => none
    | rest => some rest
  else none

/-- Whether the text is the offset of a time from that of Greenwich. -/
def isOffset (text : List Char) : Bool :=
  match text with
  | ['Z'] => true
  | ['z'] => true
  | sign :: rest =>
    (sign = '+' || sign = '-') &&
      (match fixedDigits? 2 rest with
        | some (hour, ':' :: rest) =>
          match fixedDigits? 2 rest with
          | some (minute, []) => hour ≤ 23 && minute ≤ 59
          | _ => false
        | _ => false)
  | [] => false

/-- Whether the text is a time, which may have an offset. -/
def isTimeWithOffset (text : List Char) : Bool :=
  match time? text with
  | some [] => true
  | some rest => isOffset rest
  | none => false

/-- Whether the text is a date alone. -/
def isDate (text : List Char) : Bool := date? text = some []

/-- Whether the text is a date, a time, or a date and a time joined by `T`. -/
def isDateTime (text : List Char) : Bool :=
  match date? text with
  | some [] => true
  | some (c :: rest) => (c = 'T' || c = 't') && isTimeWithOffset rest
  | none => time? text = some []

/-! ## Words -/

/-- Whether the character may stand in a scalar that is no string. -/
def isWordChar (c : Char) : Bool :=
  c.isAlphanum || ['+', '-', '_', '.', ':'].contains c

/-- The scalar that a word is. -/
def ofWord? (word : List Char) : Option Value :=
  if word = "true".toList then some (.boolean true)
  else if word = "false".toList then some (.boolean false)
  else if isDateTime word then some .dateTime
  else (float? word).map .float |>.or ((integer? word).map .integer)

/-- A scalar that is no string, and what follows it. A date and a time may be
joined by a space. -/
def word? (text : List Char) : Option (Value × List Char) :=
  let word := text.takeWhile isWordChar
  let rest := text.dropWhile isWordChar
  match rest with
  | ' ' :: c :: _ =>
    if isDate word && c.isDigit then
      if isTimeWithOffset ((rest.drop 1).takeWhile isWordChar) then
        some (.dateTime, (rest.drop 1).dropWhile isWordChar)
      else none
    else (ofWord? word).map (·, rest)
  | _ => (ofWord? word).map (·, rest)

end ComponentLikeness.Toml
