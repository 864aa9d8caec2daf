import ComponentLikeness.Grammar.Automaton
import ComponentLikeness.Grammar.Source

/-!
# Trees under construction

The trees that the parser builds: every token and every reduction, hidden ones
too, with the cost of the repairs inside and the weight of the productions.
-/

namespace ComponentLikeness.Grammar

/-- What a tree stands for. -/
inductive Label where
  | token (terminal : Nat)
  /-- A token that the text lacks. -/
  | missing (terminal : Nat)
  /-- Characters that begin no token. -/
  | garbage
  | node (reduction : Reduction)
  /-- A stretch of the text that fits no rule. -/
  | error
  /-- A stretch that may still grow. -/
  | errorRun
deriving Inhabited, Repr

/-- What is known of a tree as a whole. -/
structure Summary where
  label : Label
  /-- Where the tree before it ends. -/
  origin : Nat
  start : Nat
  stop : Nat
  /-- A token that may stand anywhere, or an error between two trees. -/
  extra : Bool := false
  /-- The token is spelt like a keyword. -/
  keyword : Bool := false
  cost : Nat := 0
  weight : Int := 0
  /-- Nodes that will show, this one apart. -/
  shownBelow : Nat := 0
  /-- Nodes that will show as its children. -/
  shownChildren : Nat := 0
deriving Inhabited, Repr

/-- A tree under construction. -/
inductive Subtree where
  | mk (summary : Summary) (children : List Subtree)
deriving Inhabited, Repr

namespace Subtree

/-- What is known of the tree. -/
def summary : Subtree → Summary
  | mk s _ => s

/-- The trees right below. -/
def children : Subtree → List Subtree
  | mk _ cs => cs

/-- What the tree stands for. -/
def label (t : Subtree) : Label := t.summary.label

/-- The tree marked as standing between others, or not. -/
def withExtra (t : Subtree) (extra : Bool) : Subtree :=
  mk { t.summary with extra } t.children

/-- An ERROR, also one of characters that begin no token. -/
def isError (t : Subtree) : Bool :=
  match t.label with
  | .garbage => true
  | .error => true
  | _ => false

/-- Whether the tree shows as a node. -/
def shown (g : NumberedGrammar) (t : Subtree) : Bool :=
  match t.label with
  | .token k => (g.terminals[k]?.map (·.shown)).getD false
  | .missing k => (g.terminals[k]?.map (·.shown)).getD false
  | .node r => (g.nonterminals[r.nonterminal]?.map (·.visibility)) == some .shown
  | .garbage => true
  | .error => true
  | .errorRun => false

/-- The number of nodes that show in the tree; a stretch of errors counts. -/
def nodeCount (g : NumberedGrammar) (t : Subtree) : Nat :=
  t.summary.shownBelow + (if t.shown g then 1 else 0) +
    (match t.label with | .errorRun => 1 | _ => 0)

/-! ## Costs of repair -/

/-- Cost of giving up the current reading once. -/
def recoveryCost : Nat := 500

/-- Cost of supplying a token that the text lacks. -/
def missingCost : Nat := 110

/-- Cost of each tree left out. -/
def skippedTreeCost : Nat := 100

/-- Cost of each line left out. -/
def skippedLineCost : Nat := 30

/-- Cost of each byte left out. -/
def skippedByteCost : Nat := 1

/-- A token found in the text; the end of the text counts as an extra. -/
def ofToken (g : NumberedGrammar) (origin start stop terminal : Nat) (keyword : Bool) :
    Subtree :=
  mk { label := .token terminal, origin, start, stop, keyword
       extra := terminal == g.endOfText } []

/-- A token supplied at a place. -/
def ofMissing (place terminal : Nat) : Subtree :=
  mk { label := .missing terminal, origin := place, start := place, stop := place
       cost := missingCost + recoveryCost } []

/-- A stretch of characters that begin no token. -/
def ofGarbage (origin start stop : Nat) : Subtree :=
  mk { label := .garbage, origin, start, stop } []

/-- Whether a label is that of an error with trees below. -/
def Label.holdsErrors : Label → Bool
  | .error => true
  | .errorRun => true
  | _ => false

/-- The part of an error's cost that one of its trees adds. -/
def skippedCost (g : NumberedGrammar) (child : Subtree) : Nat :=
  if child.summary.extra || (child.isError && child.children.isEmpty) then 0
  else if child.shown g then skippedTreeCost
  else if child.children.isEmpty then 0
  else skippedTreeCost * child.summary.shownChildren

/-- What the step of a child adds to the nodes that show: an alias always
shows. -/
def countShown (g : NumberedGrammar) (steps : List Step) :
    List Subtree → Nat × Nat → Nat × Nat
  | [], counts => counts
  | child :: rest, (below, direct) =>
    let below := below + child.summary.shownBelow
    let renamed := !child.summary.extra && ((steps.head?.bind (·.shownAs)).isSome)
    let counts :=
      if renamed || child.shown g then (below + 1, direct + 1)
      else (below, direct + child.summary.shownChildren)
    countShown g (if child.summary.extra then steps else steps.drop 1) rest counts

/-- A node over its children; with none, it stands at `place`. -/
def ofChildren (g : NumberedGrammar) (source : Source) (label : Label) (place : Nat)
    (children : List Subtree) (extra : Bool) : Subtree :=
  let origin := (children.head?.map (·.summary.origin)).getD place
  let start := (children.head?.map (·.summary.start)).getD place
  let stop := (children.getLast?.map (·.summary.stop)).getD place
  let steps := match label with
    | .node r => r.steps.toList
    | _ => []
  let (shownBelow, shownChildren) := countShown g steps children (0, 0)
  let inner := children.foldl (fun sum child =>
    match child.label with
    | .errorRun => sum
    | _ => sum + child.summary.cost) 0
  let weight := children.foldl (fun sum child => sum + child.summary.weight) 0
  let weight := match label with
    | .node r => weight + r.dynamic
    | _ => weight
  let own := if Label.holdsErrors label then
      children.foldl (fun sum child => sum + skippedCost g child) 0 + recoveryCost +
        skippedByteCost * (source.byteAt stop - source.byteAt start) +
        skippedLineCost * (source.lineAt stop - source.lineAt start)
    else 0
  mk { label, origin, start, stop, extra, cost := inner + own, weight, shownBelow
       shownChildren } children

/-! ## Choosing between readings -/

/-- Order of labels: tokens, then nonterminals, then errors. -/
def Label.rank (g : NumberedGrammar) : Label → Nat
  | .token t => if t = g.endOfText then 0 else t + 1
  | .missing t => t + 1
  | .node r => g.terminals.size + 1 + r.nonterminal
  | .errorRun => 1000000
  | .garbage => 1000001
  | .error => 1000001

mutual

/-- Compare by label, then by number of children, then child by child. -/
def compare (g : NumberedGrammar) : Subtree → Subtree → Ordering
  | mk s cs, mk t ds =>
    ((Ord.compare (Label.rank g s.label) (Label.rank g t.label)).then
      (Ord.compare cs.length ds.length)).then (compareList g cs ds)

/-- Compare child by child. -/
def compareList (g : NumberedGrammar) : List Subtree → List Subtree → Ordering
  | c :: cs, d :: ds => (compare g c d).then (compareList g cs ds)
  | _, _ => .eq

end

/-- Whether the second of two readings is to replace the first: by cost, then
by weight; of two readings without errors, the one of earlier rules stays. -/
def replaces (g : NumberedGrammar) (first second : Subtree) : Bool :=
  let a := first.summary
  let b := second.summary
  if b.cost < a.cost then true
  else if a.cost < b.cost then false
  else if b.weight > a.weight then true
  else if a.weight > b.weight then false
  else if a.cost > 0 then true
  else compare g first second == .gt

end Subtree

end ComponentLikeness.Grammar
