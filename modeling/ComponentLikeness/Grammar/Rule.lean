import ComponentLikeness.Grammar.Pattern

/-!
# Grammar rules

A grammar is a list of named rules. A rule says which texts it derives and
how the derivation is shown: parts may carry a field name, be renamed by an
alias, and carry the precedences that settle conflicts between rules.
-/

namespace ComponentLikeness.Grammar

/-- A token as the lexer sees it: what it matches, how it ranks against other
tokens, and whether blanks may stand before it. -/
structure Lexeme where
  pattern : Pattern
  /-- A match of higher precedence wins over a longer one of lower precedence. -/
  precedence : Int := 0
  /-- Among equally long matches of one precedence the higher rank wins. -/
  rank : Nat := 0
  /-- An immediate token starts exactly where the previous one ended. -/
  immediate : Bool := false
  /-- The text of a token that matches one text only. -/
  literal? : Option String := none
deriving DecidableEq, Repr, Inhabited

/-- The token that is exactly the text; it ranks above patterns. -/
def Lexeme.ofString (text : String) : Lexeme where
  pattern := text
  rank := 2
  literal? := some text

/-- How strongly a part binds: not said, a number, or a named level. -/
inductive Precedence where
  | unset
  | level (n : Int)
  | named (name : String)
deriving DecidableEq, Repr, Inhabited, Hashable

/-- Which way equal precedences group. -/
inductive Associativity where
  | left
  | right
deriving DecidableEq, Repr, Inhabited, Hashable

/-- The name under which a node is shown instead of its own. -/
structure Alias where
  kind : String
  named : Bool
deriving DecidableEq, Repr, Inhabited, Hashable

/-- What a mark on a rule adds to its meaning. -/
structure Mark where
  precedence : Precedence := .unset
  associativity : Option Associativity := none
  /-- Weighs whole derivations against each other when both survive. -/
  dynamic : Int := 0
  shownAs : Option Alias := none
  field : Option String := none
deriving DecidableEq, Repr, Inhabited

/-- The algebra of rules. -/
inductive Rule where
  | blank
  | token (lexeme : Lexeme)
  | ref (name : String)
  | seq (parts : List Rule)
  | choice (alternatives : List Rule)
  | many1 (body : Rule)
  | marked (mark : Mark) (body : Rule)
deriving BEq, Repr, Inhabited

namespace Rule

/-- Exactly the text. -/
def text (content : String) : Rule := .token (.ofString content)

instance : Coe String Rule := ⟨text⟩

/-- The rule or nothing. -/
def opt (body : Rule) : Rule := choice [body, blank]

/-- The rule any number of times. -/
def many (body : Rule) : Rule := choice [many1 body, blank]

/-- The rule once or more, separated by commas. -/
def commaSep1 (body : Rule) : Rule := seq [body, many (seq [",", body])]

/-- The rule any number of times, separated by commas. -/
def commaSep (body : Rule) : Rule := opt (commaSep1 body)

/-- The part is found under the field name. -/
def field (name : String) (body : Rule) : Rule := marked { field := some name } body

/-- The node of this rule is shown as a node of another kind. -/
def shown (body : Rule) (kind : String) : Rule :=
  marked { shownAs := some ⟨kind, true⟩ } body

/-- The node of this rule is shown as the token `text`. -/
def shownText (body : Rule) (text : String) : Rule :=
  marked { shownAs := some ⟨text, false⟩ } body

/-- Precedence by name. -/
def prec (name : String) (body : Rule) : Rule :=
  marked { precedence := .named name } body

/-- Precedence by name, grouping to the left. -/
def precLeft (name : String) (body : Rule) : Rule :=
  marked { precedence := .named name, associativity := some .left } body

/-- Precedence by name, grouping to the right. -/
def precRight (name : String) (body : Rule) : Rule :=
  marked { precedence := .named name, associativity := some .right } body

/-- Precedence by number. -/
def level (n : Int) (body : Rule) : Rule := marked { precedence := .level n } body

/-- Precedence by number, grouping to the left. -/
def levelLeft (n : Int) (body : Rule) : Rule :=
  marked { precedence := .level n, associativity := some .left } body

/-- Precedence by number, grouping to the right. -/
def levelRight (n : Int) (body : Rule) : Rule :=
  marked { precedence := .level n, associativity := some .right } body

/-- Weight of a derivation among several that survive. -/
def dynamic (n : Int) (body : Rule) : Rule := marked { dynamic := n } body

end Rule

/-- An entry of a list of precedences: a named level, or a rule's own name. -/
inductive PrecedenceEntry where
  | level (name : String)
  | rule (name : String)
deriving DecidableEq, Repr, Inhabited

/-- A grammar as it is written down: its rules in order, the first being the
start rule, and how tokens and conflicts between rules are settled. -/
structure Definition where
  rules : List (String × Rule)
  /-- Characters that may stand between any two tokens. -/
  blanks : CharSet
  /-- Tokens that may stand between any two tokens and are kept. -/
  extras : List String
  /-- The token that keywords are carved out of. -/
  word : String
  /-- Tokens found by looking at the context, in the scanner's order. -/
  contextual : List String
  /-- Rules replaced by their alternatives wherever they are used. -/
  inline : List String
  /-- Rules that only group others and never show as nodes. -/
  supertypes : List String
  /-- Each list names precedences from the strongest to the weakest. -/
  precedences : List (List PrecedenceEntry)

end ComponentLikeness.Grammar
