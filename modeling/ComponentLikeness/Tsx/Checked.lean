import ComponentLikeness.Syntax.Validity
import ComponentLikeness.Tsx.Parse

/-!
# Checked sources

A source text together with its syntax tree, which is known to be fit for use.
-/

namespace ComponentLikeness.Tsx

open Grammar Syntax

/-- A text with its syntax tree. -/
structure ParsedSource where
  source : Source
  tree : SyntaxTree

/-- Read a text, whether or not it fits the grammar. -/
def parseAny (text : String) : Except SourceError ParsedSource :=
  let source := Source.ofString text
  match syntaxTree source with
  | none => .error .noTree
  | some tree => .ok { source, tree }

/-- Read a text, refusing what does not fit the grammar, nests deeper than the
limit or closes an element under another name. -/
def parseChecked (maxDepth : Nat) (text : String) : Except SourceError ParsedSource :=
  match parseAny text with
  | .error e => .error e
  | .ok parsed => (validate parsed.source maxDepth parsed.tree).map fun _ => parsed

/-- The least depth limit below a bound under which a text is not too deep, if
there is one; the text must then be accepted. -/
def leastDepth (bound : Nat) (text : String) : Except SourceError (Option Nat) :=
  match parseAny text with
  | .error e => .error e
  | .ok parsed =>
    match (List.range bound).find? fun depth => (firstTooDeep depth parsed.tree).isNone with
    | none => .ok none
    | some depth => (validate parsed.source depth parsed.tree).map fun _ => some depth

end ComponentLikeness.Tsx
