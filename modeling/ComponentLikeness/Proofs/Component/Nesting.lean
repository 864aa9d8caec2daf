import ComponentLikeness.Proofs.Component.Readings
import ComponentLikeness.Proofs.Syntax.Height

/-!
# Nesting of component trees

A component tree is nested no deeper than the syntax tree that it comes from is high
(`depth_nodeOf_le`). Whatever becomes a child, a target, or part of an attribute
stands further down in the syntax tree, so each level of the one takes up at least
one level of the other. Attributes have levels to spare: they come from two or three
levels below their element.
-/

namespace ComponentLikeness.Component

open Grammar (Source)
open Syntax SyntaxTree Text

/-! ## Depths of lists -/

theorem Node.depthOfList_le_iff {ns : List Node} {n : Nat} :
    Node.depthOfList ns ≤ n ↔ ∀ m ∈ ns, m.depth < n := by
  induction ns with
  | nil => simp [Node.depthOfList]
  | cons m ns ih =>
    simp only [Node.depthOfList, Nat.max_le, ih, List.forall_mem_cons]
    exact Iff.rfl

theorem Attribute.depthOfList_le_iff {as : List Attribute} {n : Nat} :
    Attribute.depthOfList as ≤ n ↔ ∀ a ∈ as, a.depth ≤ n := by
  induction as with
  | nil => simp [Attribute.depthOfList]
  | cons a as ih => simp only [Attribute.depthOfList, Nat.max_le, ih, List.forall_mem_cons]

/-- The target of a default export is as deep as it would be elsewhere. -/
theorem depth_declared (n : Node) : (declared n).depth = n.depth := by
  cases n with
  | function kind name params children => cases kind <;> simp [declared, Node.depth]
  | _ => rfl

/-! ## Parts of a node -/

section Below

variable {source : Source} {n : Nat}
  (hbelow : ∀ u : SyntaxTree, u.height < n → (nodeOf source u).depth ≤ u.height)

include hbelow

theorem depthOfList_map_nodeOf_le {ts : List SyntaxTree} (hts : ∀ u ∈ ts, u.height < n) :
    Node.depthOfList (ts.map (nodeOf source)) ≤ n := by
  rw [Node.depthOfList_le_iff]
  intro m hm
  obtain ⟨u, hu, rfl⟩ := List.mem_map.mp hm
  exact Nat.lt_of_le_of_lt (hbelow u (hts u hu)) (hts u hu)

theorem depth_valueOf_le {part : SyntaxTree} (hpart : part.height < n) :
    (valueOf source part).depth ≤ n := by
  unfold valueOf
  split
  · exact Nat.zero_le n
  split
  · apply depthOfList_map_nodeOf_le hbelow
    intro u hu
    exact Nat.lt_trans (height_lt_of_mem_namedChildren hu) hpart
  split
  · exact Nat.lt_of_le_of_lt (hbelow part hpart) hpart
  · show Node.depthOfList ([part].map (nodeOf source)) ≤ n
    apply depthOfList_map_nodeOf_le hbelow
    simpa using hpart

theorem depth_attributeOf_le {t : SyntaxTree} (ht : t.height < n) :
    (attributeOf source t).depth ≤ n := by
  unfold attributeOf
  split
  · cases hpart : (t.children.filter isPart)[1]? with
    | none => exact Nat.zero_le n
    | some part =>
      have hmem : part ∈ t.children := (List.mem_filter.mp (List.mem_of_getElem? hpart)).1
      exact depth_valueOf_le hbelow (Nat.lt_trans (height_lt_of_mem_children hmem) ht)
  · apply depthOfList_map_nodeOf_le hbelow
    intro u hu
    exact Nat.lt_trans (height_lt_of_mem_namedChildren hu) ht

/-- The attributes in a tag. -/
theorem depthOfList_attributesOf_le {tag : SyntaxTree} (htag : tag.height ≤ n) :
    Attribute.depthOfList (attributesOf source tag.children) ≤ n := by
  rw [attributesOf_eq, Attribute.depthOfList_le_iff]
  intro a ha
  obtain ⟨t, ht, rfl⟩ := List.mem_map.mp ha
  have hmem : t ∈ tag.children := (List.mem_filter.mp ht).1
  exact depth_attributeOf_le hbelow (Nat.lt_of_lt_of_le (height_lt_of_mem_children hmem) htag)

end Below

/-! ## Nodes -/

section Cases

variable {source : Source} {info : NodeInfo} {children : List SyntaxTree}
  (hbelow : ∀ u : SyntaxTree, u.height < (SyntaxTree.node info children).height →
    (nodeOf source u).depth ≤ u.height)

include hbelow

theorem depthOfList_nodesBut_le (roles : List String) :
    Node.depthOfList (nodesBut source roles children) ≤ (SyntaxTree.node info children).height := by
  rw [nodesBut_eq]
  apply depthOfList_map_nodeOf_le hbelow
  intro u hu
  exact height_lt_of_mem_children (t := .node info children) (childrenBut_subset roles children hu)

theorem depth_exportStatement_le (hkind : info.kind = "export_statement") :
    (nodeOf source (.node info children)).depth ≤ (SyntaxTree.node info children).height := by
  rw [nodeOf_exportStatement source children hkind]
  cases htarget : exportTarget? children with
  | none => exact depthOfList_nodesBut_le hbelow []
  | some target =>
    have hlt := height_lt_of_mem_children (t := .node info children)
      (mem_of_exportTarget? htarget)
    show (declared (nodeOf source target)).depth < _
    rw [depth_declared]
    exact Nat.lt_of_le_of_lt (hbelow target hlt) hlt

theorem depth_element_le (hkind : info.kind = "jsx_element") :
    (nodeOf source (.node info children)).depth ≤ (SyntaxTree.node info children).height := by
  rw [nodeOf_element source children hkind, openAttributes_eq, Node.depth, Nat.max_le]
  refine ⟨?_, depthOfList_nodesBut_le hbelow _⟩
  cases hopen : children.find? fun t => t.plays "open_tag" with
  | none => exact Nat.zero_le _
  | some tag =>
    have hlt := height_lt_of_child? (t := .node info children) hopen
    exact depthOfList_attributesOf_le hbelow (Nat.le_of_lt hlt)

/-- If the bound holds of all trees that are lower, it holds of the tree. -/
theorem depth_nodeOf_le_of_below :
    (nodeOf source (.node info children)).depth ≤ (SyntaxTree.node info children).height := by
  have hform := kindForm info.kind
  generalize hkind : info.kind = kind at hform
  cases hform with
  | program =>
    rw [nodeOf_program source children hkind]
    exact depthOfList_nodesBut_le hbelow []
  | exportStatement => exact depth_exportStatement_le hbelow hkind
  | function hfunction =>
    rw [nodeOf_function source children (hkind ▸ hfunction)]
    exact depthOfList_nodesBut_le hbelow ["name"]
  | class_ hclass =>
    rw [nodeOf_class source children (hkind ▸ hclass)]
    exact depthOfList_nodesBut_le hbelow ["name"]
  | identifier =>
    rw [nodeOf_identifier source children hkind]
    exact Nat.zero_le _
  | element => exact depth_element_le hbelow hkind
  | selfClosing =>
    have hattributes := depthOfList_attributesOf_le hbelow (Nat.le_refl _)
    rw [nodeOf_selfClosing source children hkind, Node.depth, Nat.max_le]
    exact ⟨hattributes, Nat.zero_le _⟩
  | fragment =>
    rw [nodeOf_fragment source children hkind, Node.depth, Nat.max_le]
    exact ⟨Nat.zero_le _, depthOfList_nodesBut_le hbelow []⟩
  | other hprogram hexport hfunction hclass hidentifier helement =>
    subst hkind
    rw [nodeOf_other source children hprogram hexport hfunction hclass hidentifier helement]
    exact depthOfList_nodesBut_le hbelow []

end Cases

/-- A component tree is nested no deeper than its syntax tree is high. -/
theorem depth_nodeOf_le (source : Source) (t : SyntaxTree) :
    (nodeOf source t).depth ≤ t.height := by
  induction hn : t.height using Nat.strongRecOn generalizing t with
  | ind n ih =>
    subst hn
    obtain ⟨info, children⟩ := t
    apply depth_nodeOf_le_of_below
    intro u hu
    exact ih u.height hu u rfl

/-! ## Nodes of component trees -/

mutual

/-- What a tree holds is nested no deeper than the tree. -/
theorem Node.depth_le_of_mem_nodes {m : Node} : ∀ n : Node, m ∈ n.nodes → m.depth ≤ n.depth
  | .program body, h => by
    rw [Node.nodes, List.mem_cons] at h
    rcases h with rfl | h
    · exact Nat.le_refl _
    · exact Nat.le_of_lt (Node.depth_lt_of_mem_nodesOfList body h)
  | .exportDefault target, h => by
    rw [Node.nodes, List.mem_cons] at h
    rcases h with rfl | h
    · exact Nat.le_refl _
    · exact Nat.le_succ_of_le (Node.depth_le_of_mem_nodes target h)
  | .function kind name params children, h => by
    rw [Node.nodes, List.mem_cons] at h
    rcases h with rfl | h
    · exact Nat.le_refl _
    · exact Nat.le_of_lt (Node.depth_lt_of_mem_nodesOfList children h)
  | .class_ name children, h => by
    rw [Node.nodes, List.mem_cons] at h
    rcases h with rfl | h
    · exact Nat.le_refl _
    · exact Nat.le_of_lt (Node.depth_lt_of_mem_nodesOfList children h)
  | .identifier name, h => by
    rw [Node.nodes, List.mem_singleton] at h
    exact h ▸ Nat.le_refl _
  | .element tag attributes selfClosing children, h => by
    rw [Node.nodes, List.mem_cons, List.mem_append] at h
    rcases h with rfl | h | h
    · exact Nat.le_refl _
    · exact Nat.le_trans (Nat.le_of_lt (Attribute.depth_lt_of_mem_nodesOfList attributes h))
        (Nat.le_max_left _ _)
    · exact Nat.le_trans (Nat.le_of_lt (Node.depth_lt_of_mem_nodesOfList children h))
        (Nat.le_max_right _ _)
  | .other kind children, h => by
    rw [Node.nodes, List.mem_cons] at h
    rcases h with rfl | h
    · exact Nat.le_refl _
    · exact Nat.le_of_lt (Node.depth_lt_of_mem_nodesOfList children h)

theorem Node.depth_lt_of_mem_nodesOfList {m : Node} :
    ∀ ns : List Node, m ∈ Node.nodesOfList ns → m.depth < Node.depthOfList ns
  | n :: ns, h => by
    rw [Node.nodesOfList, List.mem_append] at h
    rw [Node.depthOfList]
    rcases h with h | h
    · have := Node.depth_le_of_mem_nodes n h
      omega
    · have := Node.depth_lt_of_mem_nodesOfList ns h
      omega

theorem Attribute.depth_lt_of_mem_nodes {m : Node} :
    ∀ a : Attribute, m ∈ a.nodes → m.depth < a.depth
  | .named _ value, h => AttributeValue.depth_lt_of_mem_nodes value h
  | .spread _ inner, h => Node.depth_lt_of_mem_nodesOfList inner h

theorem Attribute.depth_lt_of_mem_nodesOfList {m : Node} :
    ∀ as : List Attribute, m ∈ Attribute.nodesOfList as → m.depth < Attribute.depthOfList as
  | a :: as, h => by
    rw [Attribute.nodesOfList, List.mem_append] at h
    rw [Attribute.depthOfList]
    rcases h with h | h
    · have := Attribute.depth_lt_of_mem_nodes a h
      omega
    · have := Attribute.depth_lt_of_mem_nodesOfList as h
      omega

theorem AttributeValue.depth_lt_of_mem_nodes {m : Node} :
    ∀ v : AttributeValue, m ∈ v.nodes → m.depth < v.depth
  | .expression _ inner, h => Node.depth_lt_of_mem_nodesOfList inner h
  | .element n, h => Nat.lt_succ_of_le (Node.depth_le_of_mem_nodes n h)

end

end ComponentLikeness.Component
