import ComponentLikeness.Grammar.Source

/-!
# Syntax trees

A syntax tree as the rest of the library sees it: nodes with a kind, the roles
they play for their parent, the stretch of text they cover and their children.
Tokens of fixed text are unnamed nodes. A node is faulty if the text had to be
repaired there, and damaged if it or a node below it is faulty.
-/

namespace ComponentLikeness.Syntax

open Grammar (Position Source)

/-- What a node says of itself. -/
structure NodeInfo where
  kind : String
  /-- Fixed tokens such as `(` are unnamed. -/
  named : Bool := true
  /-- The names under which the parent refers to the node. -/
  roles : List String := []
  /-- Where the node begins. -/
  position : Position := ⟨0, 0⟩
  /-- The first character and the one behind the last. -/
  start : Nat := 0
  stop : Nat := 0
  /-- The text does not fit the grammar here, or lacks a token. -/
  faulty : Bool := false
  /-- The node or one below it is faulty. -/
  damaged : Bool := false
deriving Repr, Inhabited, DecidableEq

/-- A node with its children in the order of the text. -/
inductive SyntaxTree where
  | node (info : NodeInfo) (children : List SyntaxTree)
deriving Inhabited, Repr

namespace SyntaxTree

/-- What the node says of itself. -/
def info : SyntaxTree → NodeInfo
  | node i _ => i

/-- The nodes right below. -/
def children : SyntaxTree → List SyntaxTree
  | node _ cs => cs

@[simp] theorem info_node (i : NodeInfo) (cs : List SyntaxTree) : (node i cs).info = i := rfl

@[simp] theorem children_node (i : NodeInfo) (cs : List SyntaxTree) :
    (node i cs).children = cs := rfl

/-- The kind of the node. -/
def kind (t : SyntaxTree) : String := t.info.kind

/-- Whether the node plays the role for its parent. -/
def plays (role : String) (t : SyntaxTree) : Bool := t.info.roles.contains role

/-- The first child that plays the role. -/
def child? (t : SyntaxTree) (role : String) : Option SyntaxTree :=
  t.children.find? (plays role)

/-- The children that are no fixed tokens. -/
def namedChildren (t : SyntaxTree) : List SyntaxTree := t.children.filter (·.info.named)

/-- The text that the node covers. -/
def text (source : Source) (t : SyntaxTree) : String := source.slice t.info.start t.info.stop

mutual

/-- All nodes in pre-order, the node itself first. -/
def nodes : SyntaxTree → List SyntaxTree
  | node i cs => node i cs :: nodesOfList cs

/-- All nodes of the trees in pre-order. -/
def nodesOfList : List SyntaxTree → List SyntaxTree
  | [] => []
  | t :: ts => nodes t ++ nodesOfList ts

end

mutual

/-- All nodes in pre-order, each with its distance from the root, which is at
distance `depth`. -/
def nodesAt (depth : Nat) : SyntaxTree → List (SyntaxTree × Nat)
  | node i cs => (node i cs, depth) :: nodesOfListAt (depth + 1) cs

/-- All nodes of the trees in pre-order, with their distances. -/
def nodesOfListAt (depth : Nat) : List SyntaxTree → List (SyntaxTree × Nat)
  | [] => []
  | t :: ts => nodesAt depth t ++ nodesOfListAt depth ts

end

mutual

/-- The longest distance of a node from the root. -/
def height : SyntaxTree → Nat
  | node _ cs => heightOfList cs

/-- The longest distance of a node from the parent of the trees. -/
def heightOfList : List SyntaxTree → Nat
  | [] => 0
  | t :: ts => max (height t + 1) (heightOfList ts)

end

mutual

/-- The number of nodes. -/
def size : SyntaxTree → Nat
  | node _ cs => sizeOfList cs + 1

/-- The number of nodes of the trees. -/
def sizeOfList : List SyntaxTree → Nat
  | [] => 0
  | t :: ts => size t + sizeOfList ts

end

theorem size_pos (t : SyntaxTree) : 0 < t.size := by
  cases t
  simp [size]

/-! ## Nodes below nodes -/

theorem mem_nodes_self (t : SyntaxTree) : t ∈ t.nodes := by
  cases t
  exact List.mem_cons_self

theorem mem_nodesOfList {u : SyntaxTree} {ts : List SyntaxTree} :
    u ∈ nodesOfList ts ↔ ∃ t ∈ ts, u ∈ t.nodes := by
  induction ts with
  | nil => simp [nodesOfList]
  | cons t ts ih => simp [nodesOfList, ih]

theorem mem_nodesOfList_of_mem {t : SyntaxTree} {ts : List SyntaxTree} (h : t ∈ ts) :
    t ∈ nodesOfList ts :=
  mem_nodesOfList.mpr ⟨t, h, mem_nodes_self t⟩

theorem nodes_subset_of_mem {t : SyntaxTree} {ts : List SyntaxTree} (h : t ∈ ts) :
    t.nodes ⊆ nodesOfList ts :=
  fun _ hu => mem_nodesOfList.mpr ⟨t, h, hu⟩

theorem nodesOfList_children_subset (t : SyntaxTree) : nodesOfList t.children ⊆ t.nodes := by
  cases t
  exact List.subset_cons_self _ _

mutual

theorem nodes_subset {u : SyntaxTree} : ∀ {t : SyntaxTree}, u ∈ t.nodes → u.nodes ⊆ t.nodes
  | .node _ _, h => by
    rcases List.mem_cons.mp h with rfl | h
    · exact List.Subset.refl _
    · exact List.subset_cons_of_subset _ (nodes_subset_nodesOfList h)

theorem nodes_subset_nodesOfList {u : SyntaxTree} :
    ∀ {ts : List SyntaxTree}, u ∈ nodesOfList ts → u.nodes ⊆ nodesOfList ts
  | _ :: _, h => by
    rcases List.mem_append.mp h with h | h
    · exact List.subset_append_of_subset_left _ (nodes_subset h)
    · exact List.subset_append_of_subset_right _ (nodes_subset_nodesOfList h)

end

theorem mem_nodesOfList_of_mem_children {c t : SyntaxTree} {ts : List SyntaxTree}
    (ht : t ∈ nodesOfList ts) (hc : c ∈ t.children) : c ∈ nodesOfList ts :=
  nodes_subset_nodesOfList ht (nodesOfList_children_subset t (mem_nodesOfList_of_mem hc))

mutual

/-- What holds of a tree whenever it holds of all trees below it holds of every
tree and of all that is below it. -/
theorem forall_mem_nodes {P : SyntaxTree → Prop}
    (step : ∀ info children, (∀ u ∈ nodesOfList children, P u) → P (node info children)) :
    ∀ t : SyntaxTree, ∀ u ∈ t.nodes, P u
  | .node info children, u, hu => by
    rcases List.mem_cons.mp hu with rfl | hu
    · exact step info children (forall_mem_nodesOfList step children)
    · exact forall_mem_nodesOfList step children u hu

theorem forall_mem_nodesOfList {P : SyntaxTree → Prop}
    (step : ∀ info children, (∀ u ∈ nodesOfList children, P u) → P (node info children)) :
    ∀ ts : List SyntaxTree, ∀ u ∈ nodesOfList ts, P u
  | t :: ts, u, hu => by
    rcases List.mem_append.mp hu with hu | hu
    · exact forall_mem_nodes step t u hu
    · exact forall_mem_nodesOfList step ts u hu

end

theorem induction_below {P : SyntaxTree → Prop}
    (step : ∀ info children, (∀ u ∈ nodesOfList children, P u) → P (node info children))
    (t : SyntaxTree) : P t :=
  forall_mem_nodes step t t (mem_nodes_self t)

end SyntaxTree

end ComponentLikeness.Syntax
