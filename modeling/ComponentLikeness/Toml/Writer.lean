import ComponentLikeness.Number.Decimal
import ComponentLikeness.Toml.Value

/-!
# Writing TOML

Documents of two levels: sections with their entries. A string is written in
the plainest style that can hold it; a list of two or more strings takes a line
for each.
-/

namespace ComponentLikeness.Toml

open Number

/-! ## Strings -/

/-- The longest run of a character. -/
def longestRun (c : Char) (current longest : Nat) : List Char → Nat
  | [] => longest
  | x :: rest =>
    if x = c then longestRun c (current + 1) (max longest (current + 1)) rest
    else longestRun c 0 longest rest

/-- Whether the character must be escaped wherever it stands; tab and line end
need not. -/
def isControl (c : Char) : Bool := (c < ' ' && c ≠ '\t' && c ≠ '\n') || c = '\x7f'

/-- How a string is put between quotes. -/
inductive StringStyle where
  /-- Quotes, with escapes. -/
  | basic
  /-- Apostrophes, without escapes. -/
  | literal
  /-- Three quotes, with escapes. -/
  | multilineBasic
  /-- Three apostrophes, without escapes. -/
  | multilineLiteral
deriving DecidableEq, Repr

/-- The style for a string: one that needs no escapes if there is any, of those
the first of the four; else one with escapes. -/
def styleFor (text : List Char) : StringStyle :=
  let control := text.any isControl
  let escape := text.contains '\\'
  let newline := text.contains '\n'
  let quotes := longestRun '"' 0 0 text
  let apostrophes := longestRun '\'' 0 0 text
  if !control && !escape && quotes = 0 && !newline then .basic
  else if !control && apostrophes = 0 && !newline then .literal
  else if !control && !escape && quotes ≤ 2 then .multilineBasic
  else if !control && apostrophes ≤ 2 then .multilineLiteral
  else if newline then .multilineBasic
  else .basic

/-- A hexadecimal digit in upper case. -/
def hexDigitOf (n : Nat) : Char := (n.digitChar).toUpper

/-- A character as it stands in a string with escapes, quotes and line ends
apart. -/
def escapeChar (c : Char) : List Char :=
  if c = '\x08' then ['\\', 'b']
  else if c = '\t' then ['\\', 't']
  else if c = '\x0c' then ['\\', 'f']
  else if c = '\r' then ['\\', 'r']
  else if c = '\\' then ['\\', '\\']
  else if isControl c then
    ['\\', 'u', '0', '0', hexDigitOf (c.toNat / 16), hexDigitOf (c.toNat % 16)]
  else [c]

/-- The text with escapes. Up to `allowed` quotes in a row stand as they are;
`run` of them have just been written. -/
def escaped (multiline : Bool) (allowed run : Nat) : List Char → List Char
  | [] => []
  | c :: rest =>
    if c = '"' then
      if run < allowed then '"' :: escaped multiline allowed (run + 1) rest
      else '\\' :: '"' :: escaped multiline allowed 0 rest
    else if c = '\n' then
      if multiline then '\n' :: escaped multiline allowed 0 rest
      else '\\' :: 'n' :: escaped multiline allowed 0 rest
    else escapeChar c ++ escaped multiline allowed 0 rest

/-- A string between its quotes. Three quotes are followed by a line end if the
string holds one. -/
def writeString (text : String) : List Char :=
  let chars := text.toList
  let lineEnd := if chars.contains '\n' then ['\n'] else []
  match styleFor chars with
  | .basic => '"' :: escaped false 0 0 chars ++ ['"']
  | .literal => '\'' :: chars ++ ['\'']
  | .multilineBasic => ['"', '"', '"'] ++ lineEnd ++ escaped true 2 0 chars ++ ['"', '"', '"']
  | .multilineLiteral => ['\'', '\'', '\''] ++ lineEnd ++ chars ++ ['\'', '\'', '\'']

/-! ## Entries -/

/-- The values that sections hold. -/
inductive Setting where
  | text (s : String)
  | number (n : Nat)
  | float (x : Binary64)
  | boolean (b : Bool)
  | texts (items : List String)
deriving DecidableEq

/-- A double; the sign of a NaN is left out. -/
def writeFloat (x : Binary64) : List Char :=
  if x.isNaN then "nan".toList else x.toText.toList

/-- Strings in brackets, two or more of them a line each. -/
def writeTexts : List String → List Char
  | [] => ['[', ']']
  | [item] => '[' :: writeString item ++ [']']
  | items =>
    '[' :: '\n' ::
      (items.flatMap fun item => "    ".toList ++ writeString item ++ [',', '\n']) ++ [']']

/-- A value behind the sign of equality. -/
def writeSetting : Setting → List Char
  | .text s => writeString s
  | .number n => Nat.toDigits 10 n
  | .float x => writeFloat x
  | .boolean b => if b then "true".toList else "false".toList
  | .texts items => writeTexts items

/-- One entry with its line end. -/
def writeEntry (key : String) (value : Setting) : List Char :=
  key.toList ++ " = ".toList ++ writeSetting value ++ ['\n']

/-- A section with its header. -/
def writeSection (name : String) (entries : List (String × Setting)) : List Char :=
  '[' :: name.toList ++ [']', '\n'] ++ entries.flatMap fun entry => writeEntry entry.1 entry.2

/-- Whether the value has a written form: whole numbers end at 2⁶³. -/
def Setting.fits : Setting → Bool
  | .number n => n < integerBound
  | _ => true

/-- Sections with blank lines between them. -/
def writeSections : List (String × List (String × Setting)) → List Char
  | [] => []
  | [(name, entries)] => writeSection name entries
  | (name, entries) :: rest => writeSection name entries ++ '\n' :: writeSections rest

/-- A document, unless one of its values has no written form. -/
def write? (sections : List (String × List (String × Setting))) : Option String :=
  if sections.all fun s => s.2.all fun entry => entry.2.fits then
    some (String.ofList (writeSections sections))
  else none

end ComponentLikeness.Toml
