/-!
# Component trees

A source file reduced to what its likeness depends on: functions with their
parameters, classes, what is exported by default, bare names, and elements
with their attributes. Every other node is kept by kind, so that nothing below
it is lost.
-/

namespace ComponentLikeness.Component

/-- How a function is written. -/
inductive FunctionKind where
  /-- A declaration, also as the target of a default export. -/
  | declaration
  | expression
  | arrow
  | method
deriving DecidableEq, Repr, Inhabited

/-- The shape of a parameter. -/
inductive Param where
  | identifier (name : String)
  /-- Object destructuring, by its property keys in order. -/
  | object (keys : List String)
  /-- Any other pattern. -/
  | unsupported
deriving DecidableEq, Repr, Inhabited

/-- The names that a parameter contributes to the props. -/
def Param.propNames : Param → List String
  | .identifier name => [name]
  | .object keys => keys
  | .unsupported => []

mutual

/-- A node of a component tree. -/
inductive Node where
  | program (body : List Node)
  | exportDefault (target : Node)
  | function (kind : FunctionKind) (name : Option String) (params : List Param)
      (children : List Node)
  | class_ (name : Option String) (children : List Node)
  | identifier (name : String)
  /-- An element; a fragment has no tag. -/
  | element (tag : Option String) (attributes : List Attribute) (selfClosing : Bool)
      (children : List Node)
  | other (kind : String) (children : List Node)

/-- An attribute of an element. -/
inductive Attribute where
  | named (name : String) (value : AttributeValue)
  /-- An expression in the place of an attribute. -/
  | spread (expression : String) (inner : List Node)

/-- The value of an attribute. -/
inductive AttributeValue where
  /-- Only the name is there. -/
  | flag
  | text (content : String)
  | expression (text : String) (inner : List Node)
  | element (node : Node)

end

instance : Inhabited Node := ⟨.identifier ""⟩
instance : Inhabited Attribute := ⟨.spread "" []⟩
instance : Inhabited AttributeValue := ⟨.flag⟩

namespace Node

/-- The name of the kind of node. -/
def kind : Node → String
  | program _ => "program"
  | exportDefault _ => "export_default"
  | function .. => "function"
  | class_ .. => "class"
  | identifier _ => "identifier"
  | element .. => "jsx_element"
  | other kind _ => kind

/-- The name under which the node can be exported: that of a function that is
declared or a function expression, of a class, or a bare name. -/
def exportedName : Node → Option String
  | identifier name => some name
  | function .declaration name _ _ => name
  | function .expression name _ _ => name
  | class_ name _ => name
  | _ => none

end Node

/-! ## Visiting order -/

mutual

/-- All nodes in visiting order: a node, then what its attributes hold, then
its children. -/
def Node.nodes : Node → List Node
  | .program body => .program body :: Node.nodesOfList body
  | .exportDefault target => .exportDefault target :: target.nodes
  | .function kind name params children =>
    .function kind name params children :: Node.nodesOfList children
  | .class_ name children => .class_ name children :: Node.nodesOfList children
  | .identifier name => [.identifier name]
  | .element tag attributes selfClosing children =>
    .element tag attributes selfClosing children ::
      (Attribute.nodesOfList attributes ++ Node.nodesOfList children)
  | .other kind children => .other kind children :: Node.nodesOfList children

/-- The nodes of several trees in visiting order. -/
def Node.nodesOfList : List Node → List Node
  | [] => []
  | n :: ns => n.nodes ++ Node.nodesOfList ns

/-- The nodes that an attribute holds. -/
def Attribute.nodes : Attribute → List Node
  | .named _ value => value.nodes
  | .spread _ inner => Node.nodesOfList inner

/-- The nodes that several attributes hold. -/
def Attribute.nodesOfList : List Attribute → List Node
  | [] => []
  | a :: as => a.nodes ++ Attribute.nodesOfList as

/-- The nodes that an attribute value holds. -/
def AttributeValue.nodes : AttributeValue → List Node
  | .flag => []
  | .text _ => []
  | .expression _ inner => Node.nodesOfList inner
  | .element node => node.nodes

end

/-! ## Nodes below nodes -/

theorem Node.mem_nodes_self (n : Node) : n ∈ n.nodes := by
  cases n <;> simp [Node.nodes]

theorem Node.mem_nodesOfList {m : Node} {ns : List Node} :
    m ∈ Node.nodesOfList ns ↔ ∃ n ∈ ns, m ∈ n.nodes := by
  induction ns with
  | nil => simp [Node.nodesOfList]
  | cons n ns ih => simp [Node.nodesOfList, ih]

theorem Attribute.mem_nodesOfList {m : Node} {as : List Attribute} :
    m ∈ Attribute.nodesOfList as ↔ ∃ a ∈ as, m ∈ a.nodes := by
  induction as with
  | nil => simp [Attribute.nodesOfList]
  | cons a as ih => simp [Attribute.nodesOfList, ih]

theorem Node.nodesOfList_append (ns ms : List Node) :
    Node.nodesOfList (ns ++ ms) = Node.nodesOfList ns ++ Node.nodesOfList ms := by
  induction ns with
  | nil => rfl
  | cons n ns ih => simp [Node.nodesOfList, ih]

mutual

theorem Node.nodes_subset {m : Node} : ∀ {n : Node}, m ∈ n.nodes → m.nodes ⊆ n.nodes
  | .program _, h => by
    rcases List.mem_cons.mp h with rfl | h
    · exact List.Subset.refl _
    · exact List.subset_cons_of_subset _ (Node.nodes_subset_nodesOfList h)
  | .exportDefault _, h => by
    rcases List.mem_cons.mp h with rfl | h
    · exact List.Subset.refl _
    · exact List.subset_cons_of_subset _ (Node.nodes_subset h)
  | .function .., h => by
    rcases List.mem_cons.mp h with rfl | h
    · exact List.Subset.refl _
    · exact List.subset_cons_of_subset _ (Node.nodes_subset_nodesOfList h)
  | .class_ .., h => by
    rcases List.mem_cons.mp h with rfl | h
    · exact List.Subset.refl _
    · exact List.subset_cons_of_subset _ (Node.nodes_subset_nodesOfList h)
  | .identifier _, h => by
    rw [List.mem_singleton.mp h]
    exact List.Subset.refl _
  | .element .., h => by
    rcases List.mem_cons.mp h with rfl | h
    · exact List.Subset.refl _
    apply List.subset_cons_of_subset
    rcases List.mem_append.mp h with h | h
    · exact List.subset_append_of_subset_left _ (Attribute.nodes_subset_nodesOfList h)
    · exact List.subset_append_of_subset_right _ (Node.nodes_subset_nodesOfList h)
  | .other .., h => by
    rcases List.mem_cons.mp h with rfl | h
    · exact List.Subset.refl _
    · exact List.subset_cons_of_subset _ (Node.nodes_subset_nodesOfList h)

theorem Node.nodes_subset_nodesOfList {m : Node} :
    ∀ {ns : List Node}, m ∈ Node.nodesOfList ns → m.nodes ⊆ Node.nodesOfList ns
  | _ :: _, h => by
    rcases List.mem_append.mp h with h | h
    · exact List.subset_append_of_subset_left _ (Node.nodes_subset h)
    · exact List.subset_append_of_subset_right _ (Node.nodes_subset_nodesOfList h)

theorem Attribute.nodes_subset {m : Node} : ∀ {a : Attribute}, m ∈ a.nodes → m.nodes ⊆ a.nodes
  | .named _ _, h => AttributeValue.nodes_subset h
  | .spread _ _, h => Node.nodes_subset_nodesOfList h

theorem Attribute.nodes_subset_nodesOfList {m : Node} :
    ∀ {as : List Attribute}, m ∈ Attribute.nodesOfList as → m.nodes ⊆ Attribute.nodesOfList as
  | _ :: _, h => by
    rcases List.mem_append.mp h with h | h
    · exact List.subset_append_of_subset_left _ (Attribute.nodes_subset h)
    · exact List.subset_append_of_subset_right _ (Attribute.nodes_subset_nodesOfList h)

theorem AttributeValue.nodes_subset {m : Node} :
    ∀ {v : AttributeValue}, m ∈ v.nodes → m.nodes ⊆ v.nodes
  | .expression _ _, h => Node.nodes_subset_nodesOfList h
  | .element _, h => Node.nodes_subset h

end

/-! ## Nesting -/

mutual

/-- How deep the nodes are nested; what an attribute holds is one level down,
like a child. -/
def Node.depth : Node → Nat
  | .program body => Node.depthOfList body
  | .exportDefault target => target.depth + 1
  | .function _ _ _ children => Node.depthOfList children
  | .class_ _ children => Node.depthOfList children
  | .identifier _ => 0
  | .element _ attributes _ children =>
    max (Attribute.depthOfList attributes) (Node.depthOfList children)
  | .other _ children => Node.depthOfList children

/-- The depth below a node with these children. -/
def Node.depthOfList : List Node → Nat
  | [] => 0
  | n :: ns => max (n.depth + 1) (Node.depthOfList ns)

/-- The depth below an element with this attribute. -/
def Attribute.depth : Attribute → Nat
  | .named _ value => value.depth
  | .spread _ inner => Node.depthOfList inner

/-- The depth below an element with these attributes. -/
def Attribute.depthOfList : List Attribute → Nat
  | [] => 0
  | a :: as => max a.depth (Attribute.depthOfList as)

/-- The depth below an element with this attribute value. -/
def AttributeValue.depth : AttributeValue → Nat
  | .flag => 0
  | .text _ => 0
  | .expression _ inner => Node.depthOfList inner
  | .element node => node.depth + 1

end

end ComponentLikeness.Component
