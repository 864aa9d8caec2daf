import ComponentLikeness.Grammar.Stack

/-!
# Steps of a reading

The operations that a reading is made of: look up what to do, lex the next
token, reduce, accept, and the ranking of readings by the cost of their
repairs.
-/

namespace ComponentLikeness.Grammar

namespace Machine

/-- The state reached from `s` by reading the symbol. -/
def moveOn (s : Nat) (symbol : Symbol) : MachineM (Option Nat) :=
  modifyGet fun m =>
    let (automaton, target) := m.automaton.move s symbol
    (target, { m with automaton })

/-- What to do in the state on the terminal. -/
def actionsOn (s t : Nat) : MachineM (List Action) :=
  modifyGet fun m =>
    let (automaton, actions) := m.automaton.actionsOn s t
    (actions, { m with automaton })

/-- The terminal that a token tree shows to the automaton. -/
def terminal? (tree : Subtree) : Option Nat :=
  match tree.label with
  | .token t => some t
  | .missing t => some t
  | _ => none

/-- What to do in the state on a token tree. -/
def actionsOnTree (s : Nat) (tree : Subtree) : MachineM (List Action) :=
  match terminal? tree with
  | some t => actionsOn s t
  | none => return []

/-- The next token of a reading. -/
def lex (job : Job) (version : Nat) : MachineM Subtree := do
  let m ← get
  let node := m.top version
  let lost := node.state == Automaton.errorState
  let expected := (m.automaton.state node.state).expected
  let accepts := fun t => lost || m.automaton.accepts node.state t
  match job.lexicon.next job.source expected accepts (m.hasAdvanced job version) lost
      node.place with
  | .token found keyword =>
    return .ofToken job.grammar node.place found.start found.stop found.terminal keyword
  | .garbage start stop => return .ofGarbage node.place start stop

/-! ## Reducing -/

/-- The most readings kept after each round. -/
def maxVersions : Nat := 6

/-- How many readings more than that may exist within a round. -/
def spareVersions : Nat := 4

/-- Split the extras off the end of a list of trees. -/
def splitTrailing (trees : List Subtree) : List Subtree × List Subtree :=
  let rest := trees.reverse.dropWhile (·.summary.extra)
  let extras := trees.reverse.takeWhile (·.summary.extra)
  (rest.reverse, extras.reverse)

/-- The node over the trees of a slice, with the extras behind it. -/
def nodeOver (job : Job) (r : Reduction) (place : Nat) (trees : List Subtree) :
    Subtree × List Subtree :=
  let (children, extras) := splitTrailing trees
  (.ofChildren job.grammar job.source (.node r) place children false, extras)

/-- Try to merge a reading into one of the readings `js`, the reading `self`
apart. -/
def mergeBelow (job : Job) (self version : Nat) : List Nat → MachineM Bool
  | [] => return false
  | j :: js => do
    if j == self then mergeBelow job self version js
    else if ← merge job j version then return true
    else mergeBelow job self version js

/-- Replace the trees of each slice by a node; `removed` counts the readings
that have disappeared since the slices were taken. -/
def reduceSlices (job : Job) (version : Nat) (r : Reduction) (halted : Nat) :
    Nat → List Slice → Nat → MachineM Unit
  | 0, _, _ => return ()
  | _, [], _ => return ()
  | fuel + 1, slice :: rest, removed => do
    let target := slice.version - removed
    let same := rest.takeWhile fun s => s.version == slice.version
    let rest := rest.dropWhile fun s => s.version == slice.version
    if target > maxVersions + spareVersions + halted then
      removeVersion target
      reduceSlices job version r halted fuel rest (removed + 1)
    else
      let node := (← get).top target
      let build := fun (s : Slice) => nodeOver job r node.place s.trees
      let (parent, extras) := same.foldl (fun best s =>
        let other := build s
        if Subtree.replaces job.grammar best.1 other.1 then other else best) (build slice)
      let next := (← moveOn node.state (.nonterminal r.nonterminal)).getD Automaton.errorState
      push job target (some parent) next
      for tree in extras do push job target (some tree) next
      let merged ← mergeBelow job version target (List.range target)
      reduceSlices job version r halted fuel rest (if merged then removed + 1 else removed)

/-- Reduce a reading along every path below it. Each path becomes a new
reading; the first of them is answered. -/
def reduce (job : Job) (version : Nat) (r : Reduction) : MachineM (Option Nat) := do
  let m ← get
  let initial := m.heads.size
  let halted := m.haltedCount
  let slices ← popCount version r.steps.size
  reduceSlices job version r halted (slices.size + 1) slices.toList 0
  return if (← get).heads.size > initial then some initial else none

/-! ## Accepting -/

/-- The whole tree over the trees of a stack: the last tree that is no extra
opens up among the others. -/
def wholeTree (job : Job) (trees : List Subtree) : Option Subtree :=
  let after := trees.reverse.takeWhile (·.summary.extra) |>.reverse
  match trees.reverse.dropWhile (·.summary.extra) with
  | [] => none
  | main :: before =>
    let children := before.reverse ++ main.children ++ after
    let label := match main.label with
      | .node r => .node { r with dynamic := 0 }
      | label => label
    some (.ofChildren job.grammar job.source label main.summary.stop children false)

/-- Finish a reading at the end of the text; the better of two whole trees is
kept. -/
def accept (job : Job) (version : Nat) (lookahead : Subtree) : MachineM Unit := do
  push job version (some lookahead) Automaton.startState
  let slices ← popAll version
  for slice in slices do
    match wholeTree job slice.trees with
    | none => pure ()
    | some tree =>
      modify fun m => { m with
        acceptCount := m.acceptCount + 1
        finished := match m.finished with
          | none => some tree
          | some old => some (if Subtree.replaces job.grammar old tree then tree else old) }
  match slices[0]? with
  | some slice => removeVersion slice.version
  | none => pure ()
  halt version

/-! ## Ranking -/

/-- What the ranking of readings looks at. -/
structure Standing where
  cost : Nat
  nodeCount : Nat
  weight : Int
  inError : Bool
deriving Inhabited

/-- The verdict on two readings: drop the worse one, or only order them. -/
inductive Verdict where
  | takeLeft
  | preferLeft
  | undecided
  | preferRight
  | takeRight
deriving DecidableEq, Inhabited

/-- How much dearer a reading may be before it is dropped. -/
def maxCostDifference : Nat := 1800

/-- Compare two readings. -/
def Standing.judge (a b : Standing) : Verdict :=
  if !a.inError && b.inError then
    if a.cost < b.cost then .takeLeft else .preferLeft
  else if a.inError && !b.inError then
    if b.cost < a.cost then .takeRight else .preferRight
  else if a.cost < b.cost then
    if (b.cost - a.cost) * (1 + a.nodeCount) > maxCostDifference then .takeLeft else .preferLeft
  else if b.cost < a.cost then
    if (a.cost - b.cost) * (1 + b.nodeCount) > maxCostDifference then .takeRight
    else .preferRight
  else if a.weight > b.weight then .preferLeft
  else if b.weight > a.weight then .preferRight
  else .undecided

/-- The standing of a reading. -/
def standing (m : Machine) (version : Nat) : Standing :=
  { cost := m.errorCost version + (if m.isPaused version then Subtree.skippedTreeCost else 0)
    nodeCount := m.nodesSinceError version
    weight := (m.top version).weight
    inError := m.isPaused version || (m.top version).state == Automaton.errorState }

end Machine

end ComponentLikeness.Grammar
