import ComponentLikeness.Grammar.Item
import Std.Data.HashMap

/-!
# The automaton

The states of the LR(1) automaton of a grammar, made when they are first
needed. A state is a set of items with the terminals that may follow each; its
actions on a terminal are the reductions and the shift that survive the
precedences. More than one survivor means that the text is to be read in
several ways at once.
-/

namespace ComponentLikeness.Grammar

/-- The replacement of some trees by one node of a nonterminal. -/
structure Reduction where
  nonterminal : Nat
  /-- Weight of the production. -/
  dynamic : Int
  /-- The steps of the production, one for each tree replaced. -/
  steps : Array Step
deriving Inhabited, Repr, BEq

/-- What to do on a terminal. -/
inductive Action where
  | shift (state : Nat)
  /-- The shift inside a repetition, which always loses to the reduction. -/
  | shiftRepetition (state : Nat)
  /-- Keep the token where it stands and stay in the state. -/
  | shiftExtra
  | reduce (reduction : Reduction)
  | accept
deriving Inhabited, Repr

/-- The items that identify a state, in order, each with what may follow it. -/
abbrev Kernel := Array (Nat × TokenSet)

/-- A state with everything that its kernel entails. -/
structure AutomatonState where
  kernel : Kernel
  /-- The nonterminals that may begin here, each with what may follow it. -/
  entered : Array (Nat × TokenSet)
  /-- The terminals with at least one action, extras apart. -/
  expected : TokenSet
deriving Inhabited

/-- The states made so far and what was asked of them. State 0 has no items:
it is the state of a parse that has lost its way. State 1 is the start. -/
structure Automaton where
  graph : ItemGraph
  states : Array AutomatonState
  numbers : Std.HashMap Kernel Nat
  moves : Std.HashMap (Nat × Symbol) (Option Nat)
  actions : Std.HashMap (Nat × Nat) (List Action)

namespace Automaton

/-! ## States -/

/-- Add the terminals to the entry of a key in a list of entries in order. -/
def addEntry (index : Nat) (follow : TokenSet) : List (Nat × TokenSet) → List (Nat × TokenSet)
  | [] => [(index, follow)]
  | (i, f) :: rest =>
    if index < i then (index, follow) :: (i, f) :: rest
    else if index = i then (i, f ∪ follow) :: rest
    else (i, f) :: addEntry index follow rest

/-- The nonterminals that the kernel items read next, each with the terminals
that may follow it there. -/
def nextNonterminals (graph : ItemGraph) (kernel : Kernel) : List (Nat × TokenSet) :=
  kernel.foldl (fun entries (index, follow) =>
    (graph.items[index]?.getD default).next.foldl (fun entries (step, target) =>
      match step.symbol with
      | .terminal _ => entries
      | .nonterminal v =>
        let rest := graph.ahead[target]?.getD ∅
        let ends := !(graph.items[target]?.getD default).complete.isEmpty
        addEntry v (if ends then rest ∪ follow else rest) entries) entries) []

/-- All nonterminals that may begin in a state with the kernel. -/
def enteredBy (graph : ItemGraph) (kernel : Kernel) : Array (Nat × TokenSet) :=
  let none_ : Array TokenSet := Array.replicate graph.grammar.nonterminals.size ∅
  let follows := (nextNonterminals graph kernel).foldl (fun follows (v, follow) =>
    (graph.additions[v]?.getD #[]).foldl (fun follows add =>
      follows.modify add.nonterminal fun old =>
        if add.inherits then old ∪ add.follow ∪ follow else old ∪ add.follow) follows) none_
  follows.zipIdx.filterMap fun (follow, v) => if follow.isEmpty then none else some (v, follow)

/-- The state of a kernel. -/
def stateOf (graph : ItemGraph) (kernel : Kernel) : AutomatonState :=
  let entered := enteredBy graph kernel
  let expected := (kernel ++ entered).foldl (fun set (index, follow) =>
    let set := set ∪ (graph.direct[index]?.getD ∅)
    if (graph.items[index]?.getD default).complete.isEmpty then set else set ∪ follow) ∅
  { kernel, entered, expected }

/-- The automaton with its state of error and its start state. -/
def ofGraph (graph : ItemGraph) : Automaton :=
  let start : Kernel := #[(graph.grammar.root, .single graph.grammar.endOfText)]
  { graph
    states := #[⟨#[], #[], ∅⟩, stateOf graph start]
    numbers := (∅ : Std.HashMap Kernel Nat).insert start 1
    moves := ∅
    actions := ∅ }

/-- The state of error. -/
def errorState : Nat := 0

/-- The state in which reading begins. -/
def startState : Nat := 1

/-- A state by number. -/
def state (a : Automaton) (s : Nat) : AutomatonState := a.states[s]?.getD default

/-- The terminals with an action in the state, extras included. -/
def accepts (a : Automaton) (s t : Nat) : Bool :=
  (a.state s).expected.contains t ||
    (s != errorState && a.graph.grammar.extras.contains t)

/-- The items reached from a state by reading the symbol. -/
def successor (a : Automaton) (s : Nat) (symbol : Symbol) : Kernel :=
  let st := a.state s
  let along := fun (entries : List (Nat × TokenSet)) (entry : Nat × TokenSet) =>
    (a.graph.items[entry.1]?.getD default).next.foldl (fun entries (step, target) =>
      if step.symbol == symbol then addEntry target entry.2 entries else entries) entries
  let fromKernel := st.kernel.foldl along []
  let all := match symbol with
    | .terminal t =>
      st.entered.foldl (fun entries (entry : Nat × TokenSet) =>
        if (a.graph.direct[entry.1]?.getD ∅).contains t then along entries entry
        else entries) fromKernel
    | .nonterminal _ => st.entered.foldl along fromKernel
  all.toArray

/-- The state reached by reading the symbol, if it can be read. -/
def move (a : Automaton) (s : Nat) (symbol : Symbol) : Automaton × Option Nat :=
  match a.moves[(s, symbol)]? with
  | some answer => (a, answer)
  | none =>
    let kernel := a.successor s symbol
    if kernel.isEmpty then
      ({ a with moves := a.moves.insert (s, symbol) none }, none)
    else
      match a.numbers[kernel]? with
      | some n => ({ a with moves := a.moves.insert (s, symbol) (some n) }, some n)
      | none =>
        let n := a.states.size
        ({ a with
            states := a.states.push (stateOf a.graph kernel)
            numbers := a.numbers.insert kernel n
            moves := a.moves.insert (s, symbol) (some n) }, some n)

/-! ## Conflicts -/

/-- Whether an entry of a precedence list speaks of a precedence or of one of
the nonterminals. -/
def entryMatches (g : NumberedGrammar) (precedence : Precedence) (owners : List Nat) :
    PrecedenceEntry → Bool
  | .level name => precedence == .named name
  | .rule name => owners.any fun v => (g.nonterminals[v]?.map (·.name)) == some name

/-- Compare by one list: the side that is met first is the stronger, once the
other side is met too. -/
def compareIn (left right : PrecedenceEntry → Bool) :
    Bool → Bool → List PrecedenceEntry → Option Ordering
  | _, _, [] => none
  | sawLeft, sawRight, entry :: rest =>
    if left entry then
      if sawRight then some .lt else compareIn left right true sawRight rest
    else if right entry then
      if sawLeft then some .gt else compareIn left right sawLeft true rest
    else compareIn left right sawLeft sawRight rest

/-- Compare two precedences, each held by some nonterminals: numbers against
numbers, all else by the first list that knows both. -/
def comparePrecedence (g : NumberedGrammar) (left : Precedence) (leftOwners : List Nat)
    (right : Precedence) (rightOwners : List Nat) : Ordering :=
  let byLists := (g.precedences.findSome? fun list =>
    compareIn (entryMatches g left leftOwners) (entryMatches g right rightOwners)
      false false list).getD .eq
  match left, right with
  | .level l, .level r => if l ≠ 0 || r ≠ 0 then compare l r else byLists
  | .level l, .unset => if l ≠ 0 then compare l 0 else byLists
  | .unset, .level r => if r ≠ 0 then compare 0 r else byLists
  | _, _ => byLists

/-- The precedence of an item is that of the step read last. -/
def itemPrecedence (item : Item) : Precedence := (item.last?.map (·.precedence)).getD .unset

/-- A reduction that is possible on some terminal. -/
structure Completion where
  reduction : Reduction
  precedence : Precedence
  associativity : Option Associativity

/-- The reductions on a terminal, those of fewer steps first, then by
nonterminal and weight. -/
def completions (a : Automaton) (s t : Nat) : List Completion :=
  let st := a.state s
  let found := (st.kernel ++ st.entered).toList.flatMap fun (index, follow) =>
    let item := a.graph.items[index]?.getD default
    if item.complete.isEmpty || !follow.contains t then []
    else item.complete.toList.map fun dynamic =>
      { reduction := { nonterminal := item.nonterminal, dynamic, steps := item.read }
        precedence := itemPrecedence item
        associativity := item.last?.bind (·.associativity) }
  found.mergeSort fun x y =>
    let key := fun (c : Completion) => (c.reduction.steps.size, c.reduction.nonterminal)
    (key x).1 < (key y).1 ||
      ((key x).1 == (key y).1 &&
        ((key x).2 < (key y).2 ||
          ((key x).2 == (key y).2 && x.reduction.dynamic ≤ y.reduction.dynamic)))

/-- The reductions that none of the others outranks, in order, gathered one by
one: a stronger one replaces all before it. -/
def strongest (g : NumberedGrammar) : List Completion → List Completion → List Completion
  | kept, [] => kept
  | [], c :: rest => strongest g [c] rest
  | k :: kept, c :: rest =>
    let held := (k :: kept).getLast?.map (·.precedence) |>.getD .unset
    let owners := (k :: kept).map (·.reduction.nonterminal)
    match comparePrecedence g c.precedence [c.reduction.nonterminal] held owners with
    | .gt => strongest g [c] rest
    | .eq => strongest g (k :: kept ++ [c]) rest
    | .lt => strongest g (k :: kept) rest

/-- The items that have begun and can go on with the terminal. -/
def continuing (a : Automaton) (s t : Nat) : List Item :=
  (a.state s).kernel.toList.filterMap fun (index, _) =>
    let item := a.graph.items[index]?.getD default
    if item.read.isEmpty || !(a.graph.ahead[index]?.getD ∅).contains t then none
    else some item

/-- Whether the conflict is only between going on with a repetition and
closing it: all items that take part belong to one auxiliary nonterminal. -/
def onlyRepetition (a : Automaton) (s t : Nat) : Bool :=
  let open_ := (continuing a s t).map (·.nonterminal)
  let closed := (completions a s t).map (·.reduction.nonterminal)
  match (open_ ++ closed).filter (· != a.graph.grammar.root) with
  | [] => false
  | v :: rest =>
    (a.graph.grammar.nonterminals[v]?.map (·.visibility)) == some .auxiliary &&
      rest.all (· == v)

/-- Settle a shift against reductions of one precedence: by precedence, else
by grouping, else both stay. -/
def settle (a : Automaton) (s t : Nat) (kept : List Completion) (target : Nat) : List Action :=
  let g := a.graph.grammar
  let reductions := kept.map fun c => Action.reduce c.reduction
  if onlyRepetition a s t then reductions ++ [.shiftRepetition target]
  else
    let held := (kept.getLast?.map (·.precedence)).getD .unset
    let owners := kept.map (·.reduction.nonterminal)
    let verdicts := (continuing a s t).map fun item =>
      comparePrecedence g (itemPrecedence item) [item.nonterminal] held owners
    let more := verdicts.contains .gt
    let less := verdicts.contains .lt
    if more && !less then [.shift target]
    else if less && !more then reductions
    else if !more && !less then
      let groups := kept.map (·.associativity)
      if groups.all (· == some .left) then reductions
      else if groups.all (· == some .right) then [.shift target]
      else reductions ++ [.shift target]
    else reductions ++ [.shift target]

/-- The action of a reduction; that of the root accepts. -/
def asAction (g : NumberedGrammar) : Action → Action
  | .reduce r => if r.nonterminal = g.root then .accept else .reduce r
  | action => action

/-- What to do in a state on a terminal, reductions before the shift. -/
def actionsOn (a : Automaton) (s t : Nat) : Automaton × List Action :=
  match a.actions[(s, t)]? with
  | some answer => (a, answer)
  | none =>
    let g := a.graph.grammar
    let kept := strongest g [] (completions a s t)
    let (a, target) := a.move s (.terminal t)
    let found : List Action := match kept, target with
      | [], none => if s != errorState && g.extras.contains t then [.shiftExtra] else []
      | [], some n => [.shift n]
      | kept, none => kept.map fun (c : Completion) => Action.reduce c.reduction
      | kept, some n => a.settle s t kept n
    let answer := found.map (asAction g)
    ({ a with actions := a.actions.insert (s, t) answer }, answer)

end Automaton

end ComponentLikeness.Grammar
