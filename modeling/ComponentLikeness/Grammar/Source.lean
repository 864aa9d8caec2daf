/-!
# Source texts

A text as an array of characters, with the line and the byte offset of every
place in it. Places are counted in characters; lines and columns count from
zero, and columns count bytes of UTF-8.
-/

namespace ComponentLikeness.Grammar

/-- A line and a byte column, both from zero. -/
structure Position where
  line : Nat
  column : Nat
deriving DecidableEq, Repr, Inhabited

/-- A text prepared for reading. -/
structure Source where
  chars : Array Char
  /-- Bytes before each place. -/
  bytes : Array Nat
  /-- Line ends before each place. -/
  lines : Array Nat
  /-- Bytes before the line that each place is on. -/
  lineStarts : Array Nat
deriving Inhabited

namespace Source

/-- Prepare a text. -/
def ofString (text : String) : Source :=
  let chars := text.toList.toArray
  let step := fun (acc : Array Nat × Array Nat × Array Nat × Nat × Nat × Nat) (c : Char) =>
    let (bytes, lines, starts, byte, line, start) := acc
    let byte := byte + c.utf8Size
    let (line, start) := if c = '\n' then (line + 1, byte) else (line, start)
    (bytes.push byte, lines.push line, starts.push start, byte, line, start)
  let (bytes, lines, lineStarts, _) := chars.foldl step (#[0], #[0], #[0], 0, 0, 0)
  { chars, bytes, lines, lineStarts }

/-- The number of characters. -/
def size (s : Source) : Nat := s.chars.size

/-- The character at a place, if the text goes on there. -/
def at? (s : Source) (i : Nat) : Option Char := s.chars[i]?

/-- Bytes before a place. -/
def byteAt (s : Source) (i : Nat) : Nat := s.bytes[i]?.getD 0

/-- The line of a place. -/
def lineAt (s : Source) (i : Nat) : Nat := s.lines[i]?.getD 0

/-- Line and column of a place. -/
def positionAt (s : Source) (i : Nat) : Position :=
  ⟨s.lineAt i, s.byteAt i - s.lineStarts[i]?.getD 0⟩

/-- The characters from one place up to another. -/
def slice (s : Source) (start stop : Nat) : String :=
  String.ofList (s.chars.extract start stop).toList

/-- The first place from `i` on whose character is not in the class. -/
def skipWhile (s : Source) (p : Char → Bool) (i : Nat) : Nat :=
  if h : i < s.chars.size then
    if p s.chars[i] then skipWhile s p (i + 1) else i
  else i
termination_by s.chars.size - i

end Source

end ComponentLikeness.Grammar
