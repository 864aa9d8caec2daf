import ComponentLikeness.Grammar.Production
import ComponentLikeness.Grammar.TokenSet

/-!
# Items

The productions of each nonterminal form a tree that shares common beginnings.
An item is a node of that tree: it stands for all productions that begin with
the steps read so far. Beside the tree, `ItemGraph` holds what the automaton
asks of it: the terminals a nonterminal can begin with, the terminals that can
follow a step inside a production, and which nonterminals begin with which.
-/

namespace ComponentLikeness.Grammar

/-- A beginning shared by some productions of one nonterminal. -/
structure Item where
  nonterminal : Nat
  /-- The steps read so far. -/
  read : Array Step
  /-- The items one step further, each with the step that leads there. -/
  next : Array (Step × Nat) := #[]
  /-- The weights of the productions that are complete here. -/
  complete : Array Int := #[]
deriving Inhabited, Repr

/-- The step read last. -/
def Item.last? (item : Item) : Option Step := item.read.back?

/-- The tree of all items, an item being the child of the item one step
before; the item at a nonterminal's number is its root. -/
abbrev ItemTree := Array Item

namespace ItemTree

/-- The child of `parent` along `step`, made if there is none yet. -/
def child (tree : ItemTree) (parent : Nat) (step : Step) : ItemTree × Nat :=
  let item := tree[parent]?.getD default
  match item.next.find? (fun entry => entry.1 == step) with
  | some (_, index) => (tree, index)
  | none =>
    let index := tree.size
    let tree := tree.push { nonterminal := item.nonterminal, read := item.read.push step }
    (tree.modify parent fun item => { item with next := item.next.push (step, index) }, index)

/-- Enter a production below the root of its nonterminal. -/
def enter (tree : ItemTree) (root : Nat) (production : Production) : ItemTree :=
  let (tree, last) := production.steps.foldl
    (fun (tree, at_) step => child tree at_ step) (tree, root)
  tree.modify last fun item =>
    if item.complete.contains production.dynamic then item
    else { item with complete := item.complete.push production.dynamic }

/-- The tree of all productions of a grammar. -/
def ofGrammar (g : NumberedGrammar) : ItemTree :=
  let roots : ItemTree := (Array.range g.nonterminals.size).map fun v =>
    { nonterminal := v, read := #[] }
  (g.nonterminals.zipIdx).foldl (fun tree (entry, v) =>
    entry.productions.foldl (fun tree production => tree.enter v production) tree) roots

end ItemTree

/-- What entering a nonterminal adds to a state: the item roots of another
nonterminal, the terminals known to follow it, and whether what follows the
entered nonterminal follows it too. -/
structure Addition where
  nonterminal : Nat
  follow : TokenSet
  inherits : Bool
deriving Inhabited, Repr

/-- The item tree with the sets that the automaton is built from. -/
structure ItemGraph where
  grammar : NumberedGrammar
  items : ItemTree
  /-- For each nonterminal, the terminals it can begin with. -/
  first : Array TokenSet
  /-- For each item, the terminals that the rest of its productions can begin
  with. -/
  ahead : Array TokenSet
  /-- For each item, the terminals that can be read at once. -/
  direct : Array TokenSet
  /-- For each nonterminal, what entering it adds. -/
  additions : Array (Array Addition)
deriving Inhabited

namespace ItemGraph

/-- The terminals a symbol can begin with. -/
def firstOf (first : Array TokenSet) : Symbol → TokenSet
  | .terminal t => .single t
  | .nonterminal v => first[v]?.getD ∅

/-- One round of extending the beginnings of every nonterminal. -/
def extendFirst (items : ItemTree) (first : Array TokenSet) : Array TokenSet :=
  first.mapIdx fun v set =>
    (items[v]?.getD default).next.foldl (fun set (step, _) => set ∪ firstOf first step.symbol) set

/-- The beginnings of all nonterminals, extended until nothing changes. -/
def firstSets (items : ItemTree) : Nat → Array TokenSet → Array TokenSet
  | 0, first => first
  | fuel + 1, first =>
    let further := extendFirst items first
    if further == first then first else firstSets items fuel further

/-- The terminals that the productions of an item can go on with. -/
def aheadOf (first : Array TokenSet) (item : Item) : TokenSet :=
  item.next.foldl (fun set (step, _) => set ∪ firstOf first step.symbol) ∅

/-- The terminals that an item can read at once. -/
def directOf (item : Item) : TokenSet :=
  item.next.foldl (fun set (step, _) =>
    match step.symbol with
    | .terminal t => set.insert t
    | .nonterminal _ => set) ∅

/-- What is known so far of the nonterminals that one nonterminal enters. -/
structure Reached where
  follow : Array TokenSet
  inherits : Array Bool
  /-- Nonterminals to look at again. -/
  pending : List Nat

/-- Pass what is known of `v` on to the nonterminals its productions begin with. -/
def Reached.spread (items : ItemTree) (ahead : Array TokenSet) (v : Nat) (r : Reached) :
    Reached :=
  (items[v]?.getD default).next.foldl (fun r (step, index) =>
    match step.symbol with
    | .terminal _ => r
    | .nonterminal w =>
      let ends := !(items[index]?.getD default).complete.isEmpty
      let old := r.follow[w]?.getD ∅
      let new := old ∪ (ahead[index]?.getD ∅) ∪
        (if ends then r.follow[v]?.getD ∅ else ∅)
      let oldInherits := r.inherits[w]?.getD false
      let newInherits := oldInherits || (ends && r.inherits[v]?.getD false)
      if new == old && newInherits == oldInherits then r
      else
        { follow := r.follow.setIfInBounds w new
          inherits := r.inherits.setIfInBounds w newInherits
          pending := if r.pending.contains w then r.pending else w :: r.pending }) r

/-- Spread until no nonterminal is pending. -/
def Reached.settle (items : ItemTree) (ahead : Array TokenSet) : Nat → Reached → Reached
  | 0, r => r
  | fuel + 1, r =>
    match r.pending with
    | [] => r
    | v :: pending => settle items ahead fuel (spread items ahead v { r with pending })

/-- What entering `v` adds to a state. -/
def additionsOf (items : ItemTree) (ahead : Array TokenSet) (count v : Nat) : Array Addition :=
  let start : Reached :=
    { follow := Array.replicate count ∅
      inherits := (Array.replicate count false).setIfInBounds v true
      pending := [v] }
  let r := start.settle items ahead (count * count)
  (Array.range count).filterMap fun w =>
    let follow := r.follow[w]?.getD ∅
    let inherits := r.inherits[w]?.getD false
    if inherits || !follow.isEmpty then some ⟨w, follow, inherits⟩ else none

/-- All sets of a grammar. -/
def ofGrammar (g : NumberedGrammar) : ItemGraph :=
  let items := ItemTree.ofGrammar g
  let count := g.nonterminals.size
  let first := firstSets items count (Array.replicate count ∅)
  let ahead := items.map (aheadOf first)
  { grammar := g, items, first, ahead
    direct := items.map directOf
    additions := (Array.range count).map (additionsOf items ahead count) }

end ItemGraph

end ComponentLikeness.Grammar
