import ComponentLikeness.Toml.Scalar

/-!
# Reading TOML

A document is a run of lines: blank ones, comments, headers and assignments.
Reading gives the entries of the document, or nothing if it is no TOML. Values
and dotted keys may be nested only so deep.
-/

namespace ComponentLikeness.Toml

/-- How deep arrays and inline tables may be nested, and the most steps of a
dotted key. -/
def maxNesting : Nat := 79

/-! ## Between values -/

/-- Leave out blanks. -/
def skipBlanks (text : List Char) : List Char := text.dropWhile isBlank

/-- Leave out blanks, line ends and comments; `inComment` says whether a
comment has begun. -/
def skipLines (inComment : Bool) : List Char → List Char
  | [] => []
  | '\r' :: '\n' :: rest => skipLines false rest
  | c :: rest =>
    if c = '\n' then skipLines false rest
    else if inComment && isPlain c then skipLines true rest
    else if c = '#' then skipLines true rest
    else if isBlank c then skipLines false rest
    else c :: rest

/-- What follows the end of the line, after blanks and a comment. -/
def lineEnd? (text : List Char) : Option (List Char) :=
  let rest := skipBlanks text
  let rest := match rest with
    | '#' :: comment => comment.dropWhile isPlain
    | rest => rest
  match rest with
  | [] => some []
  | '\n' :: rest => some rest
  | '\r' :: '\n' :: rest => some rest
  | _ => none

/-! ## Keys -/

/-- Whether the character may stand in a key without quotes. -/
def isBareKeyChar (c : Char) : Bool := c.isAlphanum || c = '-' || c = '_'

/-- One step of a key. -/
def simpleKey? (text : List Char) : Option (String × List Char) :=
  match text with
  | '"' :: rest => (basicBody rest).map fun (key, rest) => (String.ofList key, rest)
  | '\'' :: rest => (literalBody rest).map fun (key, rest) => (String.ofList key, rest)
  | _ =>
    let key := text.takeWhile isBareKeyChar
    if key.isEmpty then none else some (String.ofList key, text.dropWhile isBareKeyChar)

/-- A dotted key of at most so many steps: its last step, those before it, and
what follows, blanks left out. -/
def key? : Nat → List Char → Option (List String × String × List Char)
  | 0, _ => none
  | steps + 1, text => do
    let (key, rest) ← simpleKey? (skipBlanks text)
    match skipBlanks rest with
    | '.' :: rest =>
      let (path, last, rest) ← key? steps rest
      return (key :: path, last, rest)
    | rest => return ([], key, rest)

/-! ## Values -/

/-- A reader of one value. -/
abbrev ValueReader := List Char → Option (Value × List Char)

/-- The items of an array and what follows its bracket, at most so many. -/
def items? (value? : ValueReader) : Nat → List Char → Option (List Value × List Char)
  | 0, _ => none
  | fuel + 1, text =>
    match skipLines false text with
    | ']' :: rest => some ([], rest)
    | text => do
      let (item, rest) ← value? text
      match skipLines false rest with
      | ',' :: rest =>
        let (items, rest) ← items? value? fuel rest
        return (item :: items, rest)
      | ']' :: rest => return ([item], rest)
      | _ => none

/-- An assignment: its key and its value, blanks around both left out. -/
def assignment? (value? : ValueReader) (text : List Char) :
    Option (List String × String × Value × List Char) := do
  let (path, key, rest) ← key? maxNesting text
  let '=' :: rest := rest | none
  let (value, rest) ← value? (skipBlanks rest)
  return (path, key, value, rest)

/-- The entries of an inline table and what follows its brace, at most so many
of them behind those found. -/
def inlineEntries? (value? : ValueReader) : Nat → Entries → List Char →
    Option (Entries × List Char)
  | 0, _, _ => none
  | fuel + 1, found, text => do
    let (path, key, value, rest) ← assignment? value? text
    let found ← putDotted key value path found
    match skipBlanks rest with
    | ',' :: rest => inlineEntries? value? fuel found rest
    | '\x7d' :: rest => return (found, rest)
    | _ => none

/-- A value that is nested at most so deep. -/
def value? : Nat → ValueReader
  | depth, text =>
    match text with
    | '"' :: _ => (string? text).map fun (s, rest) => (.string (String.ofList s), rest)
    | '\'' :: _ => (string? text).map fun (s, rest) => (.string (String.ofList s), rest)
    | '[' :: rest =>
      match depth with
      | 0 => none
      | depth + 1 =>
        (items? (value? depth) (rest.length + 1) rest).map fun (items, rest) =>
          (.array items, rest)
    | '\x7b' :: rest =>
      match depth with
      | 0 => none
      | depth + 1 =>
        match skipBlanks rest with
        | '\x7d' :: rest => some (.table .inlined [], rest)
        | rest =>
          (inlineEntries? (value? depth) (rest.length + 1) [] rest).map fun (entries, rest) =>
            (.table .inlined entries, rest)
    | _ => word? text

/-! ## Documents -/

/-- A header: its path and what follows its closing bracket. -/
def headerPath? (text : List Char) : Option (List String × String × List Char) := do
  let (path, key, rest) ← key? maxNesting text
  let ']' :: rest := rest | none
  return (path, key, rest)

/-- The lines of a document from a place on, at most so many. `here` is the
header above the place. -/
def lines? : Nat → List String → Entries → List Char → Option Entries
  | 0, _, _, _ => none
  | fuel + 1, here, entries, text =>
    match skipBlanks text with
    | [] => some entries
    | '\n' :: rest => lines? fuel here entries rest
    | '\r' :: '\n' :: rest => lines? fuel here entries rest
    | '#' :: rest => do lines? fuel here entries (← lineEnd? ('#' :: rest))
    | '[' :: '[' :: rest => do
      let (path, key, rest) ← headerPath? rest
      let ']' :: rest := rest | none
      lines? fuel (path ++ [key]) (← openNext path key entries) (← lineEnd? rest)
    | '[' :: rest => do
      let (path, key, rest) ← headerPath? rest
      lines? fuel (path ++ [key]) (← openTable path key entries) (← lineEnd? rest)
    | rest => do
      let (path, key, value, rest) ← assignment? (value? maxNesting) rest
      lines? fuel here (← changeAt (putDotted key value path) here entries) (← lineEnd? rest)

/-- A text without a byte order mark at its beginning. -/
def dropByteOrderMark : List Char → List Char
  | '\ufeff' :: rest => rest
  | rest => rest

/-- The entries of a document, if the text is one. -/
def parse? (text : String) : Option Entries :=
  lines? (text.length + 1) [] [] (dropByteOrderMark text.toList)

end ComponentLikeness.Toml
