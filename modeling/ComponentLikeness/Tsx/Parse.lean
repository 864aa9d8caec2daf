import ComponentLikeness.Grammar.Parser
import ComponentLikeness.Syntax.Tree
import ComponentLikeness.Tsx.ContextScanner
import ComponentLikeness.Tsx.Grammar

/-!
# Parsing TSX

From a text to its syntax tree: the grammar's automaton reads the text, and
the nodes that show make up the tree. Hidden nodes hand their children up, and
the role of a hidden node goes to the first of them.
-/

namespace ComponentLikeness.Tsx

open Grammar Syntax

/-- Give the roles to the first tree. -/
def giveRoles (roles : List String) : List SyntaxTree → List SyntaxTree
  | [] => []
  | .node info children :: rest =>
    .node { info with roles := roles ++ info.roles } children :: rest

/-- The kind of a label and whether nodes of it are named. -/
def kindOf (g : NumberedGrammar) : Label → String × Bool
  | .token t | .missing t =>
    ((g.terminals[t]?.map (·.kind)).getD "end", (g.terminals[t]?.map (·.named)).getD true)
  | .node r => ((g.nonterminals[r.nonterminal]?.map (·.name)).getD "", true)
  | .garbage | .error | .errorRun => ("ERROR", true)

/-- Whether a label stands for a repair. -/
def isFaulty : Label → Bool
  | .missing _ | .garbage | .error | .errorRun => true
  | _ => false

mutual

/-- The nodes that show of a tree under construction, renamed and with roles
as its place in the parent demands, in front of the nodes behind it. -/
def shownNodes (g : NumberedGrammar) (source : Source) (shownAs : Option Alias)
    (roles : List String) (behind : List SyntaxTree) : Subtree → List SyntaxTree
  | .mk s cs =>
    let steps := match s.label with
      | .node r => r.steps.toList
      | _ => []
    if shownAs.isSome || (Subtree.mk s cs).shown g then
      let (kind, named) := match shownAs with
        | some a => (a.kind, a.named)
        | none => kindOf g s.label
      .node { kind, named, roles, position := source.positionAt s.start, start := s.start
              stop := s.stop, faulty := isFaulty s.label, damaged := s.cost > 0 }
        (shownNodesOfList g source steps [] cs) :: behind
    else if roles.isEmpty then shownNodesOfList g source steps behind cs
    else giveRoles roles (shownNodesOfList g source steps [] cs) ++ behind

/-- The nodes that show of the children, the steps saying how, in front of the
nodes behind them: extras have no step of their own. -/
def shownNodesOfList (g : NumberedGrammar) (source : Source) (steps : List Step)
    (behind : List SyntaxTree) : List Subtree → List SyntaxTree
  | [] => behind
  | t :: ts =>
    if t.summary.extra then
      shownNodes g source none [] (shownNodesOfList g source steps behind ts) t
    else
      let step := steps.head?
      shownNodes g source (step.bind (·.shownAs)) ((step.bind (·.field)).toList)
        (shownNodesOfList g source (steps.drop 1) behind ts) t

end

/-- The automaton of the grammar, before anything has been read. -/
def automaton : Automaton := .ofGraph (.ofGrammar numberedGrammar)

/-- The tokens of the grammar. -/
def lexicon : Lexicon := .ofGrammar numberedGrammar ContextScanner.scan

/-- The syntax tree of a text; repairs show as faulty nodes. -/
def syntaxTree (source : Source) : Option SyntaxTree :=
  (parse automaton ⟨lexicon, source⟩).bind fun tree =>
    (shownNodes numberedGrammar source none [] [] tree).head?

end ComponentLikeness.Tsx
