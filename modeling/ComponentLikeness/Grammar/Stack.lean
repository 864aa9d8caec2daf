import ComponentLikeness.Grammar.Lexer
import ComponentLikeness.Grammar.Subtree

/-!
# The graph of stacks

Several readings of the text are kept at once. Their stacks share what they
have in common: each is a path from a head through nodes that hold a state of
the automaton, and a link between two nodes carries the tree read between
them. Readings that reach the same state at the same place with the same cost
are merged, and part again when a reduction takes them back.
-/

namespace ComponentLikeness.Grammar

/-- A link to the node below; without a tree it marks where an error began. -/
structure StackLink where
  node : Nat
  tree : Option Subtree
deriving Inhabited

/-- A place of the automaton in the text. -/
structure StackNode where
  state : Nat
  place : Nat
  links : Array StackLink
  cost : Nat
  nodeCount : Nat
  weight : Int
deriving Inhabited

/-- Whether a reading goes on, waits for a repair, or is given up. -/
inductive HeadStatus where
  | active
  /-- Stopped at a token that has no action. -/
  | paused (lookahead : Subtree)
  | halted
deriving Inhabited

/-- A state below an error and how many trees lie above it. -/
structure SummaryEntry where
  place : Nat
  depth : Nat
  state : Nat
deriving Inhabited

/-- The top of one reading. -/
structure Head where
  node : Nat
  status : HeadStatus := .active
  nodeCountAtError : Nat := 0
  /-- The states to fall back to, recorded when the reading met an error. -/
  fallbacks : Option (Array SummaryEntry) := none
deriving Inhabited

/-- Everything that changes while a text is read. -/
structure Machine where
  automaton : Automaton
  nodes : Array StackNode
  heads : Array Head
  finished : Option Subtree := none
  acceptCount : Nat := 0
  /-- The furthest place that a reading has reached. -/
  furthest : Nat := 0

/-- What stays fixed while a text is read. -/
structure Job where
  lexicon : Lexicon
  source : Source

namespace Job

/-- The grammar of the text. -/
def grammar (job : Job) : NumberedGrammar := job.lexicon.grammar

end Job

/-- Steps on the machine. -/
abbrev MachineM := StateM Machine

namespace Machine

/-- The node at the top of a reading. -/
def top (m : Machine) (version : Nat) : StackNode :=
  m.nodes[(m.heads[version]?.getD default).node]?.getD default

/-- The head of a reading. -/
def head (m : Machine) (version : Nat) : Head := m.heads[version]?.getD default

/-- Whether the reading goes on. -/
def isActive (m : Machine) (version : Nat) : Bool :=
  match (m.head version).status with
  | .active => true
  | _ => false

/-- Whether the reading waits for a repair. -/
def isPaused (m : Machine) (version : Nat) : Bool :=
  match (m.head version).status with
  | .paused _ => true
  | _ => false

/-- Whether the reading is given up. -/
def isHalted (m : Machine) (version : Nat) : Bool :=
  match (m.head version).status with
  | .halted => true
  | _ => false

/-- Number of readings that are given up but still listed. -/
def haltedCount (m : Machine) : Nat :=
  ((List.range m.heads.size).filter m.isHalted).length

/-- The cost of a reading; an error that has begun counts at once. -/
def errorCost (m : Machine) (version : Nat) : Nat :=
  let node := m.top version
  let begun := node.state == Automaton.errorState && (node.links[0]?.bind (·.tree)).isNone
  node.cost + (if m.isPaused version || begun then Subtree.recoveryCost else 0)

/-- The nodes read since the last error of a reading. -/
def nodesSinceError (m : Machine) (version : Nat) : Nat :=
  (m.top version).nodeCount - min (m.head version).nodeCountAtError (m.top version).nodeCount

/-- Whether the reading has consumed text since its last error, looking down
from the node. -/
def advancedFrom (job : Job) (m : Machine) (atError : Nat) : Nat → Nat → Bool
  | 0, _ => false
  | fuel + 1, index =>
    let node := m.nodes[index]?.getD default
    match (node.links[0]? : Option StackLink) with
    | some ⟨below, some tree⟩ =>
      if tree.summary.stop > tree.summary.origin then true
      else if node.nodeCount > atError && tree.summary.cost == 0 then
        advancedFrom job m atError fuel below
      else false
    | _ => false

/-- Whether the reading has consumed text since its last error. -/
def hasAdvanced (job : Job) (m : Machine) (version : Nat) : Bool :=
  (m.top version).cost == 0 ||
    m.advancedFrom job (m.head version).nodeCountAtError (m.nodes.size + 1) (m.head version).node

/-- Change the head of a reading. -/
def modifyHead (version : Nat) (f : Head → Head) : MachineM Unit :=
  modify fun m => { m with heads := m.heads.modify version f }

/-- Drop a reading from the list. -/
def removeVersion (version : Nat) : MachineM Unit :=
  modify fun m => { m with heads := m.heads.eraseIdxIfInBounds version }

/-- Give up a reading. -/
def halt (version : Nat) : MachineM Unit :=
  modifyHead version fun h => { h with status := .halted }

/-- Let a reading wait at a token that has no action. -/
def pause (version : Nat) (lookahead : Subtree) : MachineM Unit := do
  let count := (← get).top version |>.nodeCount
  modifyHead version fun h => { h with
    status := .paused lookahead
    nodeCountAtError := count }

/-- Put one reading in the place of another that came before it. -/
def renumber (source target : Nat) : MachineM Unit := do
  if source != target then
    let m ← get
    let moved := m.head source
    let old := m.head target
    let moved := if old.fallbacks.isSome && moved.fallbacks.isNone then
        { moved with fallbacks := old.fallbacks } else moved
    modify fun m =>
      { m with heads := (m.heads.setIfInBounds target moved).eraseIdxIfInBounds source }

/-- Exchange two readings. -/
def swapVersions (i j : Nat) : MachineM Unit :=
  modify fun m =>
    let a := m.head i
    let b := m.head j
    { m with heads := (m.heads.setIfInBounds i b).setIfInBounds j a }

/-- Start another reading from the same top. -/
def copyVersion (version : Nat) : MachineM Nat := do
  let copy := { (← get).head version with fallbacks := none }
  modifyGet fun m => (m.heads.size, { m with heads := m.heads.push copy })

/-- Push a tree, or the mark of an error, onto a reading. -/
def push (job : Job) (version : Nat) (tree : Option Subtree) (state : Nat) : MachineM Unit := do
  let m ← get
  let below := m.top version
  let node : StackNode := match tree with
    | some t =>
      { state
        place := t.summary.stop
        links := #[⟨(m.head version).node, tree⟩]
        cost := below.cost + t.summary.cost
        nodeCount := below.nodeCount + t.nodeCount job.grammar
        weight := below.weight + t.summary.weight }
    | none =>
      { state
        place := below.place
        links := #[⟨(m.head version).node, none⟩]
        cost := below.cost
        nodeCount := below.nodeCount
        weight := below.weight }
  let index := m.nodes.size
  modify fun m => { m with nodes := m.nodes.push node }
  modifyHead version fun h =>
    let h := { h with node := index }
    if tree.isNone then { h with nodeCountAtError := node.nodeCount } else h

/-! ## Merging -/

/-- Whether two trees may stand for each other on parallel links. -/
def equivalent (job : Job) (left right : Option Subtree) : Bool :=
  match left, right with
  | some l, some r =>
    let a := l.summary
    let b := r.summary
    Subtree.Label.rank job.grammar a.label == Subtree.Label.rank job.grammar b.label &&
      ((a.cost > 0 && b.cost > 0) ||
        (a.origin == b.origin && a.start == b.start && a.stop == b.stop &&
          l.children.length == r.children.length && a.extra == b.extra))
  | none, none => true
  | _, _ => false

/-- The most links that leave one node. -/
def maxLinks : Nat := 8

/-- Join two links of a node that carry equivalent trees, if their ends allow
it: `none` when they have to stay apart. -/
def joinLinks (job : Job) (addLink : Nat → StackLink → Machine → Machine)
    (self : Nat) (index : Nat) (existing link : StackLink) (m : Machine) : Option Machine :=
  if !equivalent job existing.tree link.tree then none
  else if existing.node == link.node then
    let weightOf := fun (l : StackLink) => (l.tree.map (·.summary.weight)).getD 0
    if weightOf link > weightOf existing then
      let below := m.nodes[link.node]?.getD default
      some { m with nodes := m.nodes.modify self fun n => { n with
        links := n.links.setIfInBounds index { existing with tree := link.tree }
        weight := below.weight + weightOf link } }
    else some m
  else
    let a := m.nodes[existing.node]?.getD default
    let b := m.nodes[link.node]?.getD default
    if a.state == b.state && a.place == b.place && a.cost == b.cost then
      let m := b.links.foldl (fun m below => addLink existing.node below m) m
      let weight := b.weight + ((link.tree.map (·.summary.weight)).getD 0)
      some { m with nodes := m.nodes.modify self fun n =>
        { n with weight := max n.weight weight } }
    else none

/-- Add a link to a node, joining it with an equivalent one where possible;
links are joined at most `fuel` levels deep. -/
def addLink (job : Job) : Nat → Nat → StackLink → Machine → Machine
  | 0, _, _, m => m
  | fuel + 1, self, link, m =>
    if link.node == self then m
    else
      let node := m.nodes[self]?.getD default
      match node.links.zipIdx.findSome? fun (existing, index) =>
          joinLinks job (addLink job fuel) self index existing link m with
      | some joined => joined
      | none =>
        if node.links.size ≥ maxLinks then m
        else
          let below := m.nodes[link.node]?.getD default
          let count := below.nodeCount + ((link.tree.map (·.nodeCount job.grammar)).getD 0)
          let weight := below.weight + ((link.tree.map (·.summary.weight)).getD 0)
          { m with nodes := m.nodes.modify self fun n => { n with
              links := n.links.push link
              nodeCount := max n.nodeCount count
              weight := max n.weight weight } }

/-- Whether two readings are at the same state and place with the same cost. -/
def canMerge (m : Machine) (i j : Nat) : Bool :=
  let a := m.top i
  let b := m.top j
  i < m.heads.size && j < m.heads.size &&
    m.isActive i && m.isActive j && a.state == b.state && a.place == b.place && a.cost == b.cost

/-- Merge the second reading into the first, if they can be merged. -/
def merge (job : Job) (i j : Nat) : MachineM Bool := do
  if !(← get).canMerge i j then return false
  modify fun m =>
    let target := (m.head i).node
    (m.top j).links.foldl (fun m link => addLink job (m.nodes.size + 1) target link m) m
  let top := (← get).top i
  if top.state == Automaton.errorState then
    modifyHead i fun h => { h with nodeCountAtError := top.nodeCount }
  removeVersion j
  return true

/-! ## Going back -/

/-- A walk down from the top: the node reached and the trees passed, the
lowest first. -/
structure Walk where
  node : Nat
  trees : List Subtree
  /-- Trees passed, extras apart. -/
  count : Nat
deriving Inhabited

/-- Where a walk is to end. -/
structure Halt where
  /-- Take the trees passed. -/
  take : Bool
  /-- Go no further. -/
  stop : Bool

/-- The trees taken by a walk and the reading that is left below them. -/
structure Slice where
  trees : List Subtree
  version : Nat
deriving Inhabited

/-- The most walks followed at once. -/
def maxWalks : Nat := 64

/-- Take the trees of a walk: walks that end at one node share a reading. -/
def addSlice (parent node : Nat) (trees : List Subtree) (slices : Array Slice) :
    MachineM (Array Slice) := do
  let m ← get
  match (List.range slices.size).reverse.find? fun i =>
      (m.head (slices[i]?.getD default).version).node == node with
  | some i =>
    let slice : Slice := ⟨trees, (slices[i]?.getD default).version⟩
    return (slices.toList.take (i + 1) ++ slice :: slices.toList.drop (i + 1)).toArray
  | none =>
    let version := m.heads.size
    let head : Head := { node, nodeCountAtError := (m.head parent).nodeCountAtError }
    modify fun m => { m with heads := m.heads.push head }
    return slices.push ⟨trees, version⟩

/-- The walk one link further. -/
def Walk.along (w : Walk) (link : StackLink) : Walk :=
  match link.tree with
  | some tree =>
    { node := link.node
      trees := tree :: w.trees
      count := if tree.summary.extra then w.count else w.count + 1 }
  | none => { node := link.node, trees := w.trees, count := w.count + 1 }

/-- One round over all walks: each ends or goes one link down, the other links
starting new walks behind all others. -/
def walkRound {σ : Type} (visit : σ → Walk → σ × Halt) (parent total : Nat) :
    List Walk → σ → List Walk → List Walk → Array Slice →
      MachineM (σ × List Walk × Array Slice)
  | [], s, kept, new, slices => return (s, kept.reverse ++ new.reverse, slices)
  | w :: rest, s, kept, new, slices => do
    let node := (← get).nodes[w.node]?.getD default
    let (s, verdict) := visit s w
    let slices ← if verdict.take then addSlice parent w.node w.trees slices else pure slices
    match node.links.toList with
    | [] => walkRound visit parent total rest s kept new slices
    | first :: others =>
      if verdict.stop then walkRound visit parent total rest s kept new slices
      else
        let room := maxWalks - min maxWalks (total + new.length)
        let more := (others.take room).map w.along
        walkRound visit parent total rest s (w.along first :: kept) (more.reverse ++ new) slices

/-- Rounds until no walk is left. -/
def walkAll {σ : Type} (visit : σ → Walk → σ × Halt) (parent : Nat) :
    Nat → List Walk → σ → Array Slice → MachineM (σ × Array Slice)
  | 0, _, s, slices => return (s, slices)
  | _, [], s, slices => return (s, slices)
  | fuel + 1, walks, s, slices => do
    let (s, walks, slices) ← walkRound visit parent walks.length walks s [] [] slices
    walkAll visit parent fuel walks s slices

/-- Walk down from the top of a reading. -/
def walk {σ : Type} (version : Nat) (visit : σ → Walk → σ × Halt) (s : σ) :
    MachineM (σ × Array Slice) := do
  let m ← get
  walkAll visit version (m.nodes.size + 1) [⟨(m.head version).node, [], 0⟩] s #[]

/-- Take `count` trees, extras apart, from every path below a reading. -/
def popCount (version count : Nat) : MachineM (Array Slice) := do
  let (_, slices) ← walk version
    (fun (_ : Unit) w => ((), ⟨w.count == count, w.count == count⟩)) ()
  return slices

/-- Take all trees from every path below a reading. -/
def popAll (version : Nat) : MachineM (Array Slice) := do
  let m ← get
  let (_, slices) ← walk version
    (fun (_ : Unit) w => ((), ⟨(m.nodes[w.node]?.getD default).links.isEmpty, false⟩)) ()
  return slices

/-- Take the error at the top of a reading, if one lies there. -/
def popError (version : Nat) : MachineM (List Subtree) := do
  let m ← get
  if (m.top version).links.any fun link => (link.tree.map (·.isError)).getD false then
    let (_, slices) ← walk version (fun (found : Bool) w =>
      match w.trees.getLast? with
      | none => (found, ⟨false, false⟩)
      | some tree =>
        if !found && tree.isError then (true, ⟨true, true⟩) else (found, ⟨false, true⟩)) false
    match slices[0]? with
    | some slice =>
      renumber slice.version version
      return slice.trees
    | none => return []
  else return []

/-- Record the states below a reading, at most `maxDepth` trees deep. -/
def recordFallbacks (version maxDepth : Nat) : MachineM Unit := do
  let m ← get
  let (entries, _) ← walk version (fun (entries : Array SummaryEntry) w =>
    if w.count > maxDepth then (entries, ⟨false, true⟩)
    else
      let node := m.nodes[w.node]?.getD default
      if entries.any fun e => e.depth == w.count && e.state == node.state then
        (entries, ⟨false, false⟩)
      else (entries.push ⟨node.place, w.count, node.state⟩, ⟨false, false⟩)) #[]
  modifyHead version fun h => { h with fallbacks := some entries }

end Machine

end ComponentLikeness.Grammar
