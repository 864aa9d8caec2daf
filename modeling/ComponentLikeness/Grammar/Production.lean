import ComponentLikeness.Grammar.Rule

/-!
# Productions

A grammar in the form an automaton can be built from: numbered terminals and
nonterminals, each with its list of productions. A repetition becomes an
auxiliary nonterminal, choices are multiplied out, precedences and names move
onto the single steps, and inlined nonterminals are replaced by
their alternatives.
-/

namespace ComponentLikeness.Grammar

/-- A terminal or a nonterminal, by number. -/
inductive Symbol where
  | terminal (index : Nat)
  | nonterminal (index : Nat)
deriving DecidableEq, Repr, Inhabited, Hashable

/-- One symbol of a production with what the rule says about it. -/
structure Step where
  symbol : Symbol
  precedence : Precedence := .unset
  associativity : Option Associativity := none
  shownAs : Option Alias := none
  field : Option String := none
deriving DecidableEq, Repr, Inhabited, Hashable

/-- One way to derive a nonterminal. -/
structure Production where
  steps : List Step
  /-- Weight against other derivations of the same text. -/
  dynamic : Int := 0
deriving DecidableEq, Repr, Inhabited

/-- How a nonterminal shows in the tree. -/
inductive Visibility where
  | shown
  | hidden
  /-- Hidden, and introduced for a repetition. -/
  | auxiliary
deriving DecidableEq, Repr, Inhabited

/-- A nonterminal with its productions. -/
structure Nonterminal where
  name : String
  visibility : Visibility
  productions : List Production := []
deriving Repr, Inhabited

/-- A terminal: how it shows in the tree and, unless the context decides, how
it is lexed. -/
structure Terminal where
  kind : String
  named : Bool
  shown : Bool
  lexeme? : Option Lexeme
deriving Repr, Inhabited

/-- Of two weights, the one that says more; the first of two equally strong. -/
def stronger (a b : Int) : Int := if b.natAbs > a.natAbs then b else a

/-! ## Repetitions -/

/-- The repetitions met so far: the repeated rule and the name of the
auxiliary nonterminal that stands for its repetition. -/
abbrev Repetitions := List (Rule × String)

namespace Rule

mutual

/-- Replace every repetition by its auxiliary nonterminal; equal repeated rules
share one. -/
def hoist : Rule → Repetitions → Rule × Repetitions
  | .seq parts, met =>
    let (parts, met) := hoistList parts met
    (.seq parts, met)
  | .choice alternatives, met =>
    let (alternatives, met) := hoistList alternatives met
    (.choice alternatives, met)
  | .many1 body, met =>
    let (body, met) := hoist body met
    match met.find? (fun entry => entry.1 == body) with
    | some (_, name) => (.ref name, met)
    | none =>
      let name := "*" ++ toString met.length
      (.ref name, met ++ [(body, name)])
  | .marked mark body, met =>
    let (body, met) := hoist body met
    (.marked mark body, met)
  | rule, met => (rule, met)

/-- Replace repetitions in each rule of the list, from left to right. -/
def hoistList : List Rule → Repetitions → List Rule × Repetitions
  | [], met => ([], met)
  | rule :: rest, met =>
    let (rule, met) := hoist rule met
    let (rest, met) := hoistList rest met
    (rule :: rest, met)

end

/-- A repetition is its body or two repetitions in a row. -/
def repetition (name : String) (body : Rule) : Rule :=
  .choice [.seq [.ref name, .ref name], body]

mutual

/-- The lexemes of a rule from left to right, repeated as often as they occur. -/
def lexemes : Rule → List Lexeme
  | .token lexeme => [lexeme]
  | .seq parts => lexemesList parts
  | .choice alternatives => lexemesList alternatives
  | .many1 body => lexemes body
  | .marked _ body => lexemes body
  | _ => []

/-- The lexemes of the rules from left to right. -/
def lexemesList : List Rule → List Lexeme
  | [] => []
  | rule :: rest => lexemes rule ++ lexemesList rest

end

/-! ## Choices multiplied out -/

/-- What the marks around a part say about the steps in it. -/
structure Surrounding where
  precedence : Precedence := .unset
  associativity : Option Associativity := none
  shownAs : Option Alias := none
  field : Option String := none
  /-- Whether the part ends its production. -/
  atEnd : Bool := true

/-- The surrounding inside a mark. -/
def Surrounding.under (around : Surrounding) (mark : Mark) : Surrounding where
  precedence := if mark.precedence = .unset then around.precedence else mark.precedence
  associativity := mark.associativity.or around.associativity
  shownAs := mark.shownAs.or around.shownAs
  field := mark.field.or around.field
  atEnd := around.atEnd

/-- Change the last element of a list. -/
def modifyLast {α : Type} (f : α → α) : List α → List α
  | [] => []
  | [x] => [f x]
  | x :: y :: rest => x :: modifyLast f (y :: rest)

/-- The precedence behind the last step of a marked part belongs to the
surrounding again, unless the production ends there. -/
def Surrounding.close (around : Surrounding) (mark : Mark) (production : Production) :
    Production :=
  if around.atEnd then production
  else { production with
    steps := modifyLast (fun step => { step with
      precedence :=
        if mark.precedence = .unset then step.precedence else around.precedence
      associativity :=
        if mark.associativity.isNone then step.associativity else around.associativity })
      production.steps }

mutual

/-- All productions of a rule, choices multiplied out from left to right. -/
def productions (symbolOf : Rule → Option Symbol) (around : Surrounding) :
    Rule → List Production
  | .blank => [⟨[], 0⟩]
  | .seq parts => productionsSeq symbolOf around parts
  | .choice alternatives => productionsChoice symbolOf around alternatives
  | .many1 body => productions symbolOf around body
  | .marked mark body =>
    (productions symbolOf (around.under mark) body).map fun production =>
      around.close mark { production with dynamic := stronger mark.dynamic production.dynamic }
  | rule =>
    match symbolOf rule with
    | none => []
    | some symbol =>
      [⟨[{ symbol, precedence := around.precedence, associativity := around.associativity,
           shownAs := around.shownAs, field := around.field }], 0⟩]

/-- The productions of rules in a row. -/
def productionsSeq (symbolOf : Rule → Option Symbol) (around : Surrounding) :
    List Rule → List Production
  | [] => [⟨[], 0⟩]
  | rule :: rest =>
    let tails := productionsSeq symbolOf around rest
    (productions symbolOf { around with atEnd := around.atEnd && rest.isEmpty } rule).flatMap
      fun first => tails.map fun tail =>
        ⟨first.steps ++ tail.steps, stronger first.dynamic tail.dynamic⟩

/-- The productions of any one of the rules. -/
def productionsChoice (symbolOf : Rule → Option Symbol) (around : Surrounding) :
    List Rule → List Production
  | [] => []
  | rule :: rest => productions symbolOf around rule ++ productionsChoice symbolOf around rest

end

end Rule

/-! ## Inlining -/

namespace Production

/-- Put the steps of `inner` where `step` stands, keeping what was said about
`step`. -/
def spliced (before : List Step) (step : Step) (inner : Production) (after : List Step)
    (dynamic : Int) : Production :=
  let renamed := inner.steps.map fun s => { s with
    shownAs := step.shownAs.or s.shownAs
    field := step.field.or s.field }
  let closed := Rule.modifyLast (fun s => { s with
    precedence := if s.precedence = .unset then step.precedence else s.precedence
    associativity := s.associativity.or step.associativity }) renamed
  ⟨before ++ closed ++ after, stronger dynamic inner.dynamic⟩

/-- Replace the first step that `alternatives` knows, again and again. -/
def inlined (alternatives : Symbol → Option (List Production)) :
    Nat → Production → List Production
  | 0, production => [production]
  | fuel + 1, production =>
    let plain := fun (step : Step) => (alternatives step.symbol).isNone
    match production.steps.dropWhile plain with
    | [] => [production]
    | step :: after =>
      let before := production.steps.takeWhile plain
      ((alternatives step.symbol).getD []).flatMap fun inner =>
        inlined alternatives fuel (spliced before step inner after production.dynamic)

end Production

/-! ## The whole grammar -/

/-- A grammar as numbered terminals and nonterminals. -/
structure NumberedGrammar where
  terminals : Array Terminal
  /-- Number 0 is the start; the last one derives just the start, and reading
  it to its end accepts the text. -/
  nonterminals : Array Nonterminal
  /-- The token that keywords are carved out of. -/
  word : Nat
  /-- Contextual tokens in the scanner's order, by terminal number. -/
  contextual : Array Nat
  /-- Terminals that may stand anywhere. -/
  extras : List Nat
  blanks : CharSet
  precedences : List (List PrecedenceEntry)
deriving Inhabited

namespace NumberedGrammar

/-- The number that stands for the end of the text. -/
def endOfText (g : NumberedGrammar) : Nat := g.terminals.size

/-- The nonterminal that derives just the start. -/
def root (g : NumberedGrammar) : Nat := g.nonterminals.size - 1

end NumberedGrammar

namespace Definition

/-- Whether nodes of the name stay out of the tree. -/
def hides (g : Definition) (name : String) : Bool :=
  name.startsWith "_" || g.supertypes.contains name

/-- Whether the rule of the name is one token that no other rule uses; it then
is a terminal of that name. -/
def isTerminalRule (uses : List Lexeme) : Rule → Bool
  | .token lexeme => uses.count lexeme == 1
  | _ => false

/-- Number the terminals and nonterminals and work out all productions. -/
def numbered (g : Definition) : NumberedGrammar :=
  let (bodies, met) := Rule.hoistList (g.rules.map (·.2)) []
  let named := (g.rules.map (·.1)).zip bodies
  let uses := Rule.lexemesList (bodies ++ met.map (·.1))
  let tokenRules := named.filter fun entry => isTerminalRule uses entry.2
  let ruleName (lexeme : Lexeme) : Option String :=
    (tokenRules.find? fun entry => entry.2 == .token lexeme).map (·.1)
  let lexemes := uses.eraseDups
  let ordered :=
    let isWord := fun lexeme => ruleName lexeme == some g.word
    lexemes.filter isWord ++ lexemes.filter (fun lexeme => !isWord lexeme)
  let internal := ordered.map fun lexeme =>
    match ruleName lexeme with
    | some name => { kind := name, named := true, shown := !g.hides name, lexeme? := some lexeme }
    | none =>
      { kind := lexeme.literal?.getD "", named := false, shown := true, lexeme? := some lexeme }
  let internalNames := ordered.map fun lexeme =>
    (ruleName lexeme).getD (lexeme.literal?.getD "")
  let isInternal := fun name => internalNames.contains name
  let external := (g.contextual.filter fun name => !isInternal name).map fun name =>
    ({ kind := name, named := true, shown := !name.startsWith "_", lexeme? := none } : Terminal)
  let terminals := (internal ++ external).toArray
  let terminal? (name : String) : Option Nat :=
    (terminals.findIdx? fun t => t.named && t.kind == name).or
      (terminals.findIdx? fun t => t.kind == name)
  let kept := (named.filter fun entry => !isTerminalRule uses entry.2) ++
    met.map fun (body, name) => (name, Rule.repetition name body)
  let names := kept.map (·.1)
  let symbolOf : Rule → Option Symbol
    | .token lexeme => (ordered.findIdx? (· == lexeme)).map .terminal
    | .ref name =>
      match names.findIdx? (· == name) with
      | some v => some (.nonterminal v)
      | none => (terminal? name).map .terminal
    | _ => none
  let raw := (kept.map fun (name, body) =>
    ({ name
       visibility :=
        if name.startsWith "*" then .auxiliary else if g.hides name then .hidden else .shown
       productions := (body.productions symbolOf {}).eraseDups } : Nonterminal)).toArray
  let alternatives : Symbol → Option (List Production)
    | .nonterminal v =>
      (raw[v]?).bind fun entry =>
        if g.inline.contains entry.name then some entry.productions else none
    | .terminal _ => none
  let nonterminals := raw.map fun entry => { entry with
    productions := (entry.productions.flatMap (Production.inlined alternatives 16)).eraseDups }
  let root : Nonterminal :=
    { name := "", visibility := .hidden, productions := [⟨[{ symbol := .nonterminal 0 }], 0⟩] }
  { terminals
    nonterminals := nonterminals.push root
    word := (terminal? g.word).getD 0
    contextual := (g.contextual.map fun name => (terminal? name).getD terminals.size).toArray
    extras := g.extras.filterMap terminal?
    blanks := g.blanks
    precedences := g.precedences }

end Definition

end ComponentLikeness.Grammar
