import ComponentLikeness.Grammar.Automaton
import ComponentLikeness.Grammar.Source

/-!
# The lexer

Which token comes next depends on the tokens that the parse can use. Tokens of
higher precedence win; among those of one precedence the longest wins, then
the one of higher rank. Names are cut out as one token first and then looked
up among the keywords that are of use. Tokens that depend on more context come
from a scanner that is part of the language.
-/

namespace ComponentLikeness.Grammar

/-- A token found in the text. -/
structure Found where
  terminal : Nat
  start : Nat
  stop : Nat
deriving Repr, Inhabited

/-- A scanner for contextual tokens: given which of them are of use, by their
place in the grammar's list, and where the last token ended. -/
abbrev ContextScanner := Source → (Nat → Bool) → Nat → Option (Nat × Nat × Nat)

/-- The tokens of a grammar sorted for quick look-up. -/
structure Lexicon where
  grammar : NumberedGrammar
  /-- Fixed texts that are no keywords, by the code point they begin with. -/
  fixed : Std.HashMap Nat (List (Nat × List Char × Lexeme))
  /-- Tokens given by patterns, and fixed texts that must start at once. -/
  patterns : List (Nat × Lexeme)
  keywords : Std.HashMap String Nat
  /-- The terminals that make a name worth reading. -/
  wordLike : TokenSet
  /-- What is looked for once the parse has lost its way. -/
  standalone : TokenSet
  scan : ContextScanner

namespace Lexicon

/-- Whether the pattern matches the whole text. -/
def matchesAll (p : Pattern) (text : String) : Bool :=
  let chars := text.toList.toArray
  p.longest chars 0 == some chars.size

/-- Sort the tokens of a grammar. -/
def ofGrammar (g : NumberedGrammar) (scan : ContextScanner) : Lexicon :=
  let lexemes : List (Nat × Lexeme) := g.terminals.toList.zipIdx.filterMap fun (t, i) =>
    t.lexeme?.map fun lexeme => (i, lexeme)
  let word := ((g.terminals[g.word]?.bind (·.lexeme?)).map (·.pattern)).getD .fail
  let isKeyword := fun (entry : Nat × Lexeme) =>
    match entry.2.literal? with
    | some text => !entry.2.immediate && matchesAll word text
    | none => false
  let keywords := lexemes.filter isKeyword
  let others := lexemes.filter fun entry => !isKeyword entry
  let isFixed := fun (entry : Nat × Lexeme) => entry.2.literal?.isSome && !entry.2.immediate
  let fixed : Std.HashMap Nat (List (Nat × List Char × Lexeme)) :=
    others.foldl (fun table (index, lexeme) =>
      match lexeme.literal?.map (·.toList) with
      | some (c :: rest) =>
        if lexeme.immediate then table
        else
          table.insert c.toNat (table.getD c.toNat [] ++ [(index, c :: rest, lexeme)])
      | _ => table) ∅
  { grammar := g
    fixed
    patterns := others.filter fun entry => !isFixed entry && entry.1 != g.word
    keywords := keywords.foldl (fun table (index, lexeme) =>
      table.insert (lexeme.literal?.getD "") index) ∅
    wordLike := keywords.foldl (fun set entry => set.insert entry.1) (.single g.word)
    standalone := lexemes.foldl (fun set (index, lexeme) =>
      if lexeme.immediate then set else set.insert index) ∅
    scan }

/-- Whether the characters stand in the text at the place. -/
def standsAt (source : Source) : List Char → Nat → Bool
  | [], _ => true
  | c :: rest, i => source.at? i == some c && standsAt source rest (i + 1)

/-- A match that competes with others. -/
structure Candidate where
  found : Found
  lexeme : Lexeme

/-- Whether `x` is preferred to `y`. -/
def Candidate.beats (x y : Candidate) : Bool :=
  let px := x.lexeme.precedence
  let py := y.lexeme.precedence
  if px ≠ py then px > py
  else if x.found.stop ≠ y.found.stop then x.found.stop > y.found.stop
  else if x.lexeme.rank ≠ y.lexeme.rank then x.lexeme.rank > y.lexeme.rank
  else x.found.terminal < y.found.terminal

/-- The preferred candidate. -/
def best : List Candidate → Option Candidate
  | [] => none
  | c :: rest => some (rest.foldl (fun kept x => if x.beats kept then x else kept) c)

/-- All matches of useful tokens, the last token having ended at `i`. -/
def candidates (l : Lexicon) (source : Source) (useful : TokenSet) (i : Nat) :
    List Candidate :=
  let start := source.skipWhile l.grammar.blanks.contains i
  let fixed := match source.at? start with
    | none => []
    | some c => (l.fixed.getD c.toNat []).filterMap fun (index, chars, lexeme) =>
      if useful.contains index && standsAt source chars start then
        some ⟨⟨index, start, start + chars.length⟩, lexeme⟩
      else none
  let pattern := fun (index : Nat) (lexeme : Lexeme) =>
    let from_ := if lexeme.immediate then i else start
    (lexeme.pattern.longest source.chars from_).map fun stop =>
      (⟨⟨index, from_, stop⟩, lexeme⟩ : Candidate)
  let patterns := l.patterns.filterMap fun (index, lexeme) =>
    if useful.contains index then pattern index lexeme else none
  let word := if (useful ∩ l.wordLike).isEmpty then none else
    (l.grammar.terminals[l.grammar.word]?.bind (·.lexeme?)).bind (pattern l.grammar.word)
  word.toList ++ fixed ++ patterns

/-- The next token that is no contextual one; at the end of the text, the end. -/
def plain (l : Lexicon) (source : Source) (useful : TokenSet) (i : Nat) : Option Found :=
  match best (l.candidates source useful i) with
  | some c => some c.found
  | none =>
    let start := source.skipWhile l.grammar.blanks.contains i
    if start ≥ source.size then some ⟨l.grammar.endOfText, source.size, source.size⟩ else none

/-- The next contextual token. -/
def contextual (l : Lexicon) (source : Source) (useful : Nat → Bool) (i : Nat) :
    Option Found :=
  (l.scan source (fun k => ((l.grammar.contextual[k]?).map useful).getD false) i).bind
    fun (k, start, stop) => (l.grammar.contextual[k]?).map fun t => ⟨t, start, stop⟩

end Lexicon

/-- What the lexer answers: a token, with the keyword it spells if any, or a
stretch of characters that begin no token. -/
inductive Lexed where
  | token (found : Found) (keyword : Bool)
  | garbage (start stop : Nat)
deriving Repr, Inhabited

namespace Lexicon

/-- Skip characters until a token begins; answer the stretch skipped. -/
def garbageFrom (l : Lexicon) (source : Source) (start : Nat) : Nat → Nat → Lexed
  | 0, stop => .garbage start stop
  | fuel + 1, stop =>
    if stop ≥ source.size then .garbage start stop
    else
      match l.plain source l.standalone stop with
      | some _ => .garbage start stop
      | none => garbageFrom l source start fuel
          (max (stop + 1) (source.skipWhile l.grammar.blanks.contains stop))

/-- Turn a name into the keyword it spells, if the keyword is of use. -/
def named (l : Lexicon) (source : Source) (useful : Nat → Bool) (found : Found) : Lexed :=
  if found.terminal = l.grammar.word then
    match l.keywords[source.slice found.start found.stop]? with
    | some t => .token (if useful t then { found with terminal := t } else found) true
    | none => .token found false
  else .token found false

/-- The next token from `i` on. `emptyOk` allows contextual tokens without
characters; `lost` asks for any token instead of those of use. -/
def next (l : Lexicon) (source : Source) (useful : TokenSet) (accepts : Nat → Bool)
    (emptyOk lost : Bool) (i : Nat) : Lexed :=
  let fromContext :=
    if lost then none
    else (l.contextual source accepts i).filter fun found => emptyOk || found.stop > i
  match fromContext with
  | some found => .token found false
  | none =>
    let useful := l.grammar.extras.foldl TokenSet.insert useful
    match if lost then none else l.plain source useful i with
    | some found => l.named source accepts found
    | none =>
      match l.plain source l.standalone i with
      | some found => l.named source accepts found
      | none =>
        let start := source.skipWhile l.grammar.blanks.contains i
        l.garbageFrom source start (source.size + 1) (start + 1)

end Lexicon

end ComponentLikeness.Grammar
