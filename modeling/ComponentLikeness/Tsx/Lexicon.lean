import ComponentLikeness.Grammar.Rule

/-!
# Tokens of TSX

The tokens that are given by a pattern, and the blanks between tokens. All
other tokens are fixed texts and stand in the grammar rules themselves.
-/

namespace ComponentLikeness.Tsx

open Grammar

/-- The line ends that comments and strings know besides carriage return. -/
def lineSeparators : CharSet := ⟨[(0x2028, 0x2029)], false⟩

/-- Characters without width that count as blanks. -/
def zeroWidthBlanks : CharSet := ⟨[(0xFEFF, 0xFEFF), (0x2060, 0x2060), (0x200B, 0x200B)], false⟩

/-- What may stand between two tokens. -/
def blanks : CharSet :=
  .asciiSpace ++ .spaceSeparator ++ zeroWidthBlanks ++ lineSeparators

/-- Characters that never occur in a name. -/
def nameBreakers : CharSet :=
  ⟨[(0x00, 0x1F)], false⟩ ++ blanks ++
    .ofString ":;`\"'@#.,|^&<=>+-*/\\%?!~()[]\x7b\x7d"

/-- A character written by its code point, as in `\u0041`. -/
def unicodeEscape : Pattern :=
  .any [
    .ofString "\\u" ++ Pattern.between (.one .hexDigit) 4 4,
    .ofString "\\u\x7b" ++ Pattern.plus (.one .hexDigit) ++ .ofString "\x7d"]

/-- The text of a name. -/
def name : Pattern :=
  .or (.one (nameBreakers ++ CharSet.digit).complement) unicodeEscape ++
    .star (.or (.one nameBreakers.complement) unicodeEscape)

/-- Names of variables, functions and properties. -/
def identifier : Lexeme := { pattern := name }

/-- Names of private class members. -/
def privateIdentifier : Lexeme := { pattern := .ofString "#" ++ name }

/-- The interpreter line at the top of a script. -/
def hashBangLine : Lexeme :=
  { pattern := .ofString "#!" ++ .star (.one (CharSet.ofString "\n").complement) }

/-- A run of digits of the set, single underscores allowed between them. -/
def digits (set : CharSet) : Pattern :=
  .one set ++ .star (.opt (.ofString "_") ++ .one set)

/-- Numbers in every base, with fraction, exponent or the suffix `n`. -/
def number : Lexeme :=
  let hex := Pattern.one (.ofString "0") ++ .one (.ofString "xX") ++ digits .hexDigit
  let binary := Pattern.one (.ofString "0") ++ .one (.ofString "bB") ++ digits (.range '0' '1')
  let octal := Pattern.one (.ofString "0") ++ .one (.ofString "oO") ++ digits (.range '0' '7')
  let decimal := digits .digit
  let exponent := Pattern.one (.ofString "eE") ++ .opt (.one (.ofString "+-")) ++ decimal
  let whole := Pattern.or (.ofString "0")
    (.opt (.ofString "0") ++ .one (.range '1' '9') ++ .opt (.opt (.ofString "_") ++ decimal))
  { pattern := .any [
      hex,
      whole ++ .ofString "." ++ .opt decimal ++ .opt exponent,
      .ofString "." ++ decimal ++ .opt exponent,
      whole ++ exponent,
      decimal,
      binary,
      octal,
      .any [hex, binary, octal, decimal] ++ .ofString "n"] }

/-- Line comments and block comments. -/
def comment : Lexeme :=
  let noStar := Pattern.star (.one (CharSet.ofString "*").complement)
  let stars := Pattern.plus (.ofString "*")
  { pattern := .or
      (.ofString "//" ++ .star (.one (CharSet.ofString "\r\n" ++ lineSeparators).complement))
      (.ofString "/*" ++ noStar ++ stars ++
        .star (.one (CharSet.ofString "/*").complement ++ noStar ++ stars) ++ .ofString "/") }

/-- A token that starts where the last one ended. -/
def immediate (pattern : Pattern) (precedence : Int) : Lexeme :=
  { pattern, precedence, rank := 1, immediate := true }

/-- The text of a string in double quotes, up to an escape or a line end. -/
def doubleQuotedText : Lexeme :=
  immediate (.plus (.one (CharSet.ofString "\"\\\r\n").complement)) 1

/-- The text of a string in single quotes, up to an escape or a line end. -/
def singleQuotedText : Lexeme :=
  immediate (.plus (.one (CharSet.ofString "'\\\r\n").complement)) 1

/-- A backslash and what it stands before in a string or template. -/
def escapeSequence : Lexeme :=
  let hex := Pattern.one .hexDigit
  immediate (.ofString "\\" ++ .any [
    .one (CharSet.ofString "xu" ++ CharSet.range '0' '7').complement,
    .between (.one (.range '0' '7')) 1 3,
    .ofString "x" ++ .between hex 2 2,
    .ofString "u" ++ .between hex 4 4,
    .ofString "u\x7b" ++ .plus hex ++ .ofString "\x7d",
    .one (.ofString "\r?") ++ .one (CharSet.ofString "\n" ++ lineSeparators)]) 0

/-- The body of a regular expression: a slash in brackets does not end it. -/
def regexBody : Lexeme :=
  let escaped := Pattern.ofString "\\" ++ .one (CharSet.ofString "\n").complement
  immediate (.plus (.any [
    .ofString "[" ++ .star (.or escaped (.one (CharSet.ofString "]\n\\").complement)) ++
      .ofString "]",
    escaped,
    .one (CharSet.ofString "/\\[\n").complement])) (-1)

/-- The slash that ends a regular expression. -/
def regexClose : Lexeme :=
  { Lexeme.ofString "/" with precedence := 1, rank := 3, immediate := true }

/-- The letters behind a regular expression. -/
def regexFlags : Lexeme := immediate (.plus (.one (.range 'a' 'z'))) 0

/-- The part of an attribute text before the next reference or quote. -/
def attributeText (quote : String) : Lexeme :=
  let letters := CharSet.range 'A' 'Z' ++ CharSet.range 'a' 'z'
  immediate (.plus (.or
    (.one (CharSet.ofString (quote ++ "&")).complement)
    (.ofString "&" ++ .one (CharSet.ofString "#" ++ letters).complement))) 1

/-- Attribute text in double quotes. -/
def doubleQuotedAttributeText : Lexeme := attributeText "\""

/-- Attribute text in single quotes. -/
def singleQuotedAttributeText : Lexeme := attributeText "'"

/-- A character reference such as `&amp;` or `&#38;`. -/
def characterReference : Lexeme :=
  let letters := CharSet.range 'A' 'Z' ++ CharSet.range 'a' 'z'
  { pattern := .ofString "&" ++ .or
      (.ofString "#" ++ .or
        (.one (.ofString "xX") ++ .between (.one .hexDigit) 1 6)
        (.between (.one .digit) 1 5))
      (.between (.one letters) 1 30) ++ .ofString ";" }

/-- Names of elements and attributes that hold a hyphen. -/
def dashedIdentifier : Lexeme :=
  let start := CharSet.range 'a' 'z' ++ CharSet.range 'A' 'Z' ++ CharSet.ofString "_$"
  { pattern := .one start ++ .star (.one (start ++ CharSet.digit)) ++ .ofString "-" ++
      .star (.one (start ++ CharSet.digit ++ CharSet.ofString "-")) }

end ComponentLikeness.Tsx
