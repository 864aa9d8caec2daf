import ComponentLikeness.Grammar.Lexer

/-!
# Contextual tokens of TSX

Tokens that no pattern can describe: semicolons left out at a line end, the
text of templates and elements, the question mark of a conditional expression
as opposed to that of an optional parameter, and HTML comments. Which of them
is looked for depends on what the parse can use; the order of the questions
matters.
-/

namespace ComponentLikeness.Tsx

open Grammar

namespace ContextScanner

/-! ## The contextual tokens, by their place in the grammar's list -/

/-- A semicolon that the text leaves out. -/
def automaticSemicolon : Nat := 0

/-- Text of a template literal. -/
def templateText : Nat := 1

/-- The question mark of a conditional expression. -/
def conditionalMark : Nat := 2

/-- A comment in the style of HTML. -/
def htmlComment : Nat := 3

/-- Of use where a binary operator may follow. -/
def logicalOr : Nat := 4

/-- Of use inside strings and templates. -/
def escapeSequence : Nat := 5

/-- Of use at the start of a regular expression. -/
def regexBody : Nat := 6

/-- Text between tags. -/
def elementText : Nat := 7

/-- A semicolon left out behind a function signature. -/
def signatureSemicolon : Nat := 8

/-! ## Character classes -/

/-- ASCII white space. -/
def isSpace (c : Char) : Bool := CharSet.asciiSpace.contains c

/-- The line ends besides the line feed. -/
def isLineSeparator (c : Char) : Bool := c.toNat == 0x2028 || c.toNat == 0x2029

/-- The character at a place, a NUL at the end of the text. -/
def peek (s : Source) (i : Nat) : Char := (s.at? i).getD '\x00'

/-! ## Template and element text -/

/-- Where template text ends, and whether there is an end at all. -/
def templateEnd (s : Source) : Nat → Nat → Option Nat
  | 0, _ => none
  | fuel + 1, i =>
    let c := peek s i
    if c == '\x60' || c == '\\' then some i
    else if c == '\x00' then none
    else if c == '$' && peek s (i + 1) == '\x7b' then some i
    else templateEnd s fuel (i + 1)

/-- Template text, up to its end, a substitution or an escape. -/
def scanTemplate (s : Source) (i : Nat) : Option (Nat × Nat × Nat) :=
  (templateEnd s (s.size + 1) i).bind fun stop =>
    if stop > i then some (templateText, i, stop) else none

/-- Whether the character ends the text between tags. -/
def endsElementText (c : Char) : Bool :=
  c == '\x00' || c == '<' || c == '>' || c == '\x7b' || c == '\x7d' || c == '&'

/-- Whether a run of characters counts as text: all but white space that holds
a line end and begins with one. -/
def countsAsText : List Char → Bool → Bool
  | [], _ => false
  | c :: rest, atLineEnd =>
    if c == '\n' then countsAsText rest true
    else if atLineEnd && isSpace c then countsAsText rest true
    else true

/-- The place where the text between tags ends. -/
def elementTextEnd (s : Source) (i : Nat) : Nat := s.skipWhile (fun c => !endsElementText c) i

/-! ## Automatic semicolons -/

/-- How white space and comments ended: at a slash that begins no comment,
behind a block comment on one line, or before another token. -/
inductive BlankRun where
  | slash
  | sameLine
  | other
deriving DecidableEq

/-- What was passed: how it ended, where, and whether a comment was met. -/
structure Passed where
  run : BlankRun
  place : Nat
  comment : Bool

/-- The place behind a block comment whose body starts at `i`, and whether it
holds a line end. -/
def blockCommentEnd (s : Source) : Nat → Nat → Bool → Nat × Bool × Bool
  | 0, i, lineEnd => (i, lineEnd, false)
  | fuel + 1, i, lineEnd =>
    let c := peek s i
    if c == '\x00' then (i, lineEnd, false)
    else if c == '*' then
      if peek s (i + 1) == '/' then (i + 2, lineEnd, true)
      else blockCommentEnd s fuel (i + 1) lineEnd
    else blockCommentEnd s fuel (i + 1) (lineEnd || c == '\n' || isLineSeparator c)

/-- Pass white space and comments; unless `all`, stop behind a block comment
that no other comment follows at once. -/
def passBlanks (s : Source) (all : Bool) : Nat → Nat → Bool → Bool → Passed
  | 0, i, comment, _ => ⟨.other, i, comment⟩
  | fuel + 1, i, comment, lineEnd =>
    let i := s.skipWhile isSpace i
    if peek s i != '/' then ⟨.other, i, comment⟩
    else if peek s (i + 1) == '/' then
      let stop := s.skipWhile
        (fun c => c != '\x00' && c != '\n' && !isLineSeparator c) (i + 2)
      passBlanks s all fuel stop true lineEnd
    else if peek s (i + 1) == '*' then
      let (stop, lineEnd, closed) := blockCommentEnd s (s.size + 1) (i + 2) lineEnd
      if closed && peek s stop != '/' && !all then
        ⟨if lineEnd then .other else .sameLine, stop, true⟩
      else passBlanks s all fuel stop (comment || closed) lineEnd
    else ⟨.slash, i + 1, comment⟩

/-- Whether a semicolon is left out behind a line end, judged by what stands at
`i`. -/
def semicolonBefore (s : Source) (useful : Nat → Bool) (i : Nat) : Bool :=
  let c := peek s i
  let next := peek s (i + 1)
  if "\x60,.;*%><=?^|&/:".toList.contains c then false
  else if c == '\x7b' then !useful signatureSemicolon
  else if c == '(' || c == '[' then !useful logicalOr
  else if c == '+' then next == '+'
  else if c == '-' then next == '-'
  else if c == '!' then next != '='
  else if c == 'i' && next == 'n' then
    if !(peek s (i + 2)).isAlpha then false
    else if Lexicon.standsAt s "stanceof".toList (i + 2) then (peek s (i + 10)).isAlpha
    else true
  else true

/-- The answer about a semicolon, the place looked at last, and whether a
comment was met. -/
structure SemicolonAnswer where
  leftOut : Bool
  place : Nat
  comment : Bool

/-- Whether a semicolon is left out at `i`, where no line end has been passed
yet. -/
def semicolonAt (s : Source) (useful : Nat → Bool) : Nat → Nat → Bool → SemicolonAnswer
  | 0, i, comment => ⟨false, i, comment⟩
  | fuel + 1, i, comment =>
    if peek s i == '\x00' then ⟨true, i, comment⟩
    else
      let passed : Passed :=
        if peek s i == '/' then passBlanks s false (s.size + 1) i comment false
        else ⟨.sameLine, i, comment⟩
      let i := passed.place
      let c := peek s i
      let comment := passed.comment
      if passed.run = .slash then ⟨false, i, comment⟩
      else if passed.run = .other && c != ',' && c != '=' then ⟨true, i, comment⟩
      else if c == '\x7d' then
        let after := s.skipWhile isSpace (i + 1)
        ⟨if peek s after == ':' then useful logicalOr else true, after, comment⟩
      else if !isSpace c then ⟨false, i, comment⟩
      else if c == '\n' then
        let passed := passBlanks s true (s.size + 1) (i + 1) comment false
        if passed.run = .slash then ⟨false, passed.place, passed.comment⟩
        else ⟨semicolonBefore s useful passed.place, passed.place, passed.comment⟩
      else semicolonAt s useful fuel (i + 1) comment

/-! ## Conditional marks and HTML comments -/

/-- The question mark of a conditional expression: no part of `??` or `?.`,
and not that of an optional name. -/
def scanConditional (s : Source) (i : Nat) : Option (Nat × Nat × Nat) :=
  let i := s.skipWhile isSpace i
  if peek s i != '?' then none
  else
    let found := some (conditionalMark, i, i + 1)
    let digitAfterPoint := fun j => if (peek s (j + 1)).isDigit then found else none
    if peek s (i + 1) == '?' then none
    else if peek s (i + 1) == '.' then digitAfterPoint (i + 1)
    else
      let j := s.skipWhile isSpace (i + 1)
      let c := peek s j
      if c == ':' || c == ')' || c == ',' then none
      else if c == '.' then digitAfterPoint j
      else found

/-- A comment that begins with `<!--` or `-->` and ends with the line. -/
def scanHtmlComment (s : Source) (i : Nat) : Option (Nat × Nat × Nat) :=
  let i := s.skipWhile (fun c => isSpace c || isLineSeparator c) i
  if Lexicon.standsAt s "<!--".toList i || Lexicon.standsAt s "-->".toList i then
    some (htmlComment, i, s.skipWhile
      (fun c => c != '\x00' && c != '\n' && !isLineSeparator c) i)
  else none

/-- The contextual token at `i`, the questions asked in order. -/
def scan : Grammar.ContextScanner := fun s useful i =>
  if useful templateText then
    if useful automaticSemicolon then none else scanTemplate s i
  else
    let textEnd := if useful elementText then elementTextEnd s i else i
    if useful elementText && countsAsText (s.chars.extract i textEnd).toList false then
      some (elementText, i, textEnd)
    else if useful automaticSemicolon || useful signatureSemicolon then
      let answer := semicolonAt s useful (s.size + 1) textEnd false
      if answer.leftOut then some (automaticSemicolon, i, i)
      else if !answer.comment && useful conditionalMark && peek s answer.place == '?' then
        scanConditional s answer.place
      else none
    else if useful conditionalMark then scanConditional s textEnd
    else if useful htmlComment && !useful logicalOr && !useful escapeSequence &&
        !useful regexBody then
      scanHtmlComment s textEnd
    else none

end ContextScanner

end ComponentLikeness.Tsx
