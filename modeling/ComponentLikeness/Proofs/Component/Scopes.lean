import ComponentLikeness.Proofs.Component.Gathering
import ComponentLikeness.Proofs.Component.Placement
import ComponentLikeness.Proofs.Syntax.FirstFlaw

/-!
# Props of the default export

With the scope `defaultExport` the props are those of one function: the target of
the first default export, or what a bare name there stands for. A bare name stands
for the first declaration of it anywhere in the tree (`props_of_exported_name`), so
a function nested in what stands before can take the place of the one at the top
level. A function that is the target itself is used however it is written, so the
props of an arrow count here while they do not for `allFunctions`; apart from that
the scope only takes props away (`defaultExport_restricts_iff`).
-/

namespace ComponentLikeness.Component

open Grammar (Source)
open Syntax Text
open SyntaxTree (nodesOfList mem_nodesOfList_of_mem mem_nodesOfList_of_mem_children
  nodes_subset_nodesOfList)

/-! ## What the scope looks at -/

/-- The target of the first default export. -/
def Node.exported? (n : Node) : Option Node := n.nodes.findSome? Node.exportTarget?

/-- Whether the node is a function that is declared under the name. -/
def Node.declares (name : String) (n : Node) : Bool :=
  n.declaration?.any fun d => d.name = some name

theorem Node.declares_iff {name : String} {n : Node} :
    n.declares name = true ↔ ∃ params children,
      n = .function .declaration (some name) params children := by
  cases n with
  | function kind name' params children => cases kind <;> simp [Node.declares, Node.declaration?]
  | _ => simp [Node.declares, Node.declaration?]

theorem Node.mem_nodes_of_exported? {n target : Node} (h : n.exported? = some target) :
    .exportDefault target ∈ n.nodes := by
  obtain ⟨m, hm, htarget⟩ := List.exists_of_findSome?_eq_some h
  cases m with
  | exportDefault other =>
    obtain rfl := Option.some.inj htarget
    exact hm
  | _ => cases htarget

section Props

variable (styles : List String) {n : Node}

theorem props_defaultExport :
    (n.fingerprintWith styles .defaultExport).props =
      .ofList (firstParamNames (match n.exported? with
        | some (.function _ _ params _) => params
        | some (.identifier name) =>
          (((n.nodes.find? (Node.declares name)).bind Node.declaration?).map (·.params)).getD []
        | _ => [])) := by
  have hexport := (Gathers.visit styles {} n).defaultExport
  rw [Option.none_or] at hexport
  show StringSet.ofList (firstParamNames (Harvest.visit styles {} n).exportedParams) = _
  rw [Harvest.exportedParams, hexport, declarations_visit, Node.exported?]
  simp only [List.find?_filterMap]
  rfl

theorem props_of_exported_function {kind : FunctionKind} {name : Option String}
    {params : List Param} {children : List Node}
    (h : n.exported? = some (.function kind name params children)) :
    (n.fingerprintWith styles .defaultExport).props = .ofList (firstParamNames params) := by
  rw [props_defaultExport, h]

theorem props_of_exported_identifier {name : String} {params : List Param} {children : List Node}
    (h : n.exported? = some (.identifier name))
    (hfirst : n.nodes.find? (Node.declares name) =
      some (.function .declaration (some name) params children)) :
    (n.fingerprintWith styles .defaultExport).props = .ofList (firstParamNames params) := by
  simp only [props_defaultExport, h, hfirst]
  rfl

end Props

/-! ## Bare names -/

/-- What stands at the top level through an item of a program: the item itself, or
what an export that is no default export exports. -/
def Node.topLevel : Node → List Node
  | .other kind children =>
    if kind = "export_statement" then children else [.other kind children]
  | item => [item]

theorem find?_nodes_topLevel (name : String) (item : Node) :
    item.nodes.find? (Node.declares name) =
      (Node.nodesOfList item.topLevel).find? (Node.declares name) := by
  cases item with
  | other kind children =>
    rw [Node.topLevel]
    split
    · rw [Node.nodes, List.find?_cons_of_neg (by simp [Node.declares, Node.declaration?])]
    · simp [Node.nodesOfList]
  | _ => simp [Node.topLevel, Node.nodesOfList]

/-- Among the nodes of a program, a declaration is found where it is found among the
nodes of what stands at the top level. -/
theorem find?_nodes_program (name : String) (body : List Node) :
    (Node.program body).nodes.find? (Node.declares name) =
      (Node.nodesOfList (body.flatMap Node.topLevel)).find? (Node.declares name) := by
  rw [Node.nodes, List.find?_cons_of_neg (by simp [Node.declares, Node.declaration?])]
  induction body with
  | nil => rfl
  | cons item body ih =>
    rw [List.flatMap_cons, Node.nodesOfList_append, Node.nodesOfList, List.find?_append,
      List.find?_append, find?_nodes_topLevel, ih]

/-- A name that is exported by default and declared once at the top level gives the
props of this declaration, unless functions of that name are nested in what stands
before it: then the first of these gives the props. -/
theorem props_of_exported_name (styles : List String) {body : List Node} {name : String}
    {params : List Param} {children : List Node}
    (hexport : (Node.program body).exported? = some (.identifier name))
    (honly : (body.flatMap Node.topLevel).filter (Node.declares name) =
      [.function .declaration (some name) params children]) :
    ∃ before after,
      body.flatMap Node.topLevel =
        before ++ .function .declaration (some name) params children :: after ∧
      (∀ item ∈ before, ¬ item.declares name) ∧
      ((∀ m ∈ Node.nodesOfList before, ¬ m.declares name) →
        ((Node.program body).fingerprintWith styles .defaultExport).props =
          .ofList (firstParamNames params)) ∧
      ∀ params' children',
        (Node.nodesOfList before).find? (Node.declares name) =
            some (.function .declaration (some name) params' children') →
          ((Node.program body).fingerprintWith styles .defaultExport).props =
            .ofList (firstParamNames params') := by
  obtain ⟨before, after, hbody, hbefore, hdeclares, -⟩ := List.filter_eq_cons_iff.mp honly
  have hfind : (Node.program body).nodes.find? (Node.declares name) =
      ((Node.nodesOfList before).find? (Node.declares name)).or
        (some (.function .declaration (some name) params children)) := by
    rw [find?_nodes_program, hbody, Node.nodesOfList_append, List.find?_append,
      Node.nodesOfList, Node.nodes, List.cons_append, List.find?_cons_of_pos hdeclares]
  refine ⟨before, after, hbody, hbefore, fun hnone => ?_, fun params' children' hnested => ?_⟩
  · rw [List.find?_eq_none.mpr hnone, Option.none_or] at hfind
    exact props_of_exported_identifier styles hexport hfind
  · rw [hnested, Option.some_or] at hfind
    exact props_of_exported_identifier styles hexport hfind

/-- The tree of `function Card({ prop }) { return prop; }`. -/
def cardTaking (prop : String) : Node :=
  .function .declaration (some "Card") [.object [prop]] [
    .other "formal_parameters" [
      .other "required_parameter" [
        .other "object_pattern" [.other "shorthand_property_identifier_pattern" []]]],
    .other "statement_block" [.other "return_statement" [.identifier prop]]]

/-- The tree of a file that exports `Card` by default, which takes a title, and before
it declares another function that has a `Card` of its own, which takes `inner`. -/
def shadowedCard : List Node := [
  .function .declaration (some "Outer") [] [
    .other "formal_parameters" [],
    .other "statement_block" [
      cardTaking "inner", .other "return_statement" [.identifier "Card"]]],
  cardTaking "title",
  .exportDefault (.identifier "Card")]

theorem props_of_shadowedCard :
    (Node.program shadowedCard).exported? = some (.identifier "Card") ∧
      (shadowedCard.flatMap Node.topLevel).filter (Node.declares "Card") = [cardTaking "title"] ∧
      ∃ before after, shadowedCard.flatMap Node.topLevel = before ++ cardTaking "title" :: after ∧
        (∀ item ∈ before, ¬ item.declares "Card") ∧
        ((∀ m ∈ Node.nodesOfList before, ¬ m.declares "Card") →
          ((Node.program shadowedCard).fingerprintWith ["className"] .defaultExport).props =
            .ofList ["title"]) ∧
        ∀ params children,
          (Node.nodesOfList before).find? (Node.declares "Card") =
              some (.function .declaration (some "Card") params children) →
            ((Node.program shadowedCard).fingerprintWith ["className"] .defaultExport).props =
              .ofList (firstParamNames params) :=
  ⟨rfl, rfl, props_of_exported_name ["className"] rfl rfl⟩

/-- The declaration at the top level does not always give the props. -/
theorem not_props_of_topLevel :
    ¬ ∀ (styles : List String) (body : List Node) (name : String) (params : List Param)
      (children : List Node),
      (Node.program body).exported? = some (.identifier name) →
      (body.flatMap Node.topLevel).filter (Node.declares name) =
        [.function .declaration (some name) params children] →
      ((Node.program body).fingerprintWith styles .defaultExport).props =
        .ofList (firstParamNames params) := by
  intro hprops
  have hcard : ((Node.program shadowedCard).fingerprintWith [] .defaultExport).props =
      .ofList ["title"] := hprops [] shadowedCard "Card" _ _ rfl rfl
  have hinner : "inner" ∈
      ((Node.program shadowedCard).fingerprintWith [] .defaultExport).props := by decide +kernel
  rw [hcard] at hinner
  exact absurd hinner (by decide)

/-! ## Nodes of component trees -/

/-- The component node is that of the syntax node, perhaps declared. -/
def IsNodeOf (source : Source) (m : Node) (t : SyntaxTree) : Prop :=
  m = nodeOf source t ∨ m = declared (nodeOf source t)

theorem mem_nodes_declared {m n : Node} (h : m ∈ (declared n).nodes) :
    m = declared n ∨ m ∈ n.nodes := by
  unfold declared at h ⊢
  split at h
  · rw [Node.nodes, List.mem_cons] at h ⊢
    exact h.imp id .inr
  · exact .inr h

theorem namedChildren_subset_below {t : SyntaxTree} {ts : List SyntaxTree}
    (ht : t ∈ nodesOfList ts) : t.namedChildren ⊆ nodesOfList ts :=
  fun _ hc => mem_nodesOfList_of_mem_children ht (List.mem_filter.mp hc).1

section Below

variable {source : Source} {ts : List SyntaxTree} {m : Node}
  (hbelow : ∀ u ∈ nodesOfList ts, ∀ m ∈ (nodeOf source u).nodes, ∃ v ∈ u.nodes, IsNodeOf source m v)

include hbelow

theorem isNodeOf_of_mem_node {u : SyntaxTree} (hu : u ∈ nodesOfList ts)
    (hm : m ∈ (nodeOf source u).nodes) : ∃ v ∈ nodesOfList ts, IsNodeOf source m v := by
  obtain ⟨v, hv, hmv⟩ := hbelow u hu m hm
  exact ⟨v, nodes_subset_nodesOfList hu hv, hmv⟩

theorem isNodeOf_of_mem_map {us : List SyntaxTree} (hus : us ⊆ nodesOfList ts)
    (hm : m ∈ Node.nodesOfList (us.map (nodeOf source))) :
    ∃ v ∈ nodesOfList ts, IsNodeOf source m v := by
  obtain ⟨n, hn, hm⟩ := Node.mem_nodesOfList.mp hm
  obtain ⟨u, hu, rfl⟩ := List.mem_map.mp hn
  exact isNodeOf_of_mem_node hbelow (hus hu) hm

theorem isNodeOf_of_mem_nodesBut {roles : List String}
    (hm : m ∈ Node.nodesOfList (nodesBut source roles ts)) :
    ∃ v ∈ nodesOfList ts, IsNodeOf source m v := by
  rw [nodesBut_eq] at hm
  exact isNodeOf_of_mem_map hbelow
    (fun c hc => mem_nodesOfList_of_mem (childrenBut_subset roles ts hc)) hm

theorem isNodeOf_of_mem_valueOf {part : SyntaxTree} (hpart : part ∈ nodesOfList ts)
    (hm : m ∈ (valueOf source part).nodes) : ∃ v ∈ nodesOfList ts, IsNodeOf source m v := by
  unfold valueOf at hm
  split at hm
  · exact absurd hm List.not_mem_nil
  split at hm
  · exact isNodeOf_of_mem_map hbelow (namedChildren_subset_below hpart) hm
  split at hm
  · exact isNodeOf_of_mem_node hbelow hpart hm
  · have hsingle : [part] ⊆ nodesOfList ts := by simpa using hpart
    exact isNodeOf_of_mem_map hbelow hsingle hm

theorem isNodeOf_of_mem_attributeOf {t : SyntaxTree} (ht : t ∈ nodesOfList ts)
    (hm : m ∈ (attributeOf source t).nodes) : ∃ v ∈ nodesOfList ts, IsNodeOf source m v := by
  unfold attributeOf at hm
  split at hm
  · cases hpart : (t.children.filter isPart)[1]? with
    | none =>
      rw [hpart] at hm
      exact absurd hm List.not_mem_nil
    | some part =>
      rw [hpart] at hm
      have hchild := (List.mem_filter.mp (List.mem_of_getElem? hpart)).1
      exact isNodeOf_of_mem_valueOf hbelow (mem_nodesOfList_of_mem_children ht hchild) hm
  · exact isNodeOf_of_mem_map hbelow (namedChildren_subset_below ht) hm

theorem isNodeOf_of_mem_attributesOf {parts : List SyntaxTree} (hparts : parts ⊆ nodesOfList ts)
    (hm : m ∈ Attribute.nodesOfList (attributesOf source parts)) :
    ∃ v ∈ nodesOfList ts, IsNodeOf source m v := by
  rw [attributesOf_eq] at hm
  obtain ⟨a, ha, hm⟩ := Attribute.mem_nodesOfList.mp hm
  obtain ⟨t, ht, rfl⟩ := List.mem_map.mp ha
  exact isNodeOf_of_mem_attributeOf hbelow (hparts (List.mem_filter.mp ht).1) hm

theorem isNodeOf_of_mem_openAttributes
    (hm : m ∈ Attribute.nodesOfList (openAttributes source ts)) :
    ∃ v ∈ nodesOfList ts, IsNodeOf source m v := by
  rw [openAttributes_eq] at hm
  cases hopen : ts.find? fun t => t.plays "open_tag" with
  | none =>
    rw [hopen] at hm
    exact absurd hm List.not_mem_nil
  | some tag =>
    rw [hopen] at hm
    have htag := mem_nodesOfList_of_mem (List.mem_of_find?_eq_some hopen)
    exact isNodeOf_of_mem_attributesOf hbelow
      (fun c hc => mem_nodesOfList_of_mem_children htag hc) hm

end Below

section Cases

variable {source : Source} {info : NodeInfo} {children : List SyntaxTree} {m : Node}
  (hbelow : ∀ u ∈ nodesOfList children, ∀ m ∈ (nodeOf source u).nodes,
    ∃ v ∈ u.nodes, IsNodeOf source m v)

include hbelow

/-- What a node holds besides itself comes from below. -/
theorem isNodeOf_of_below (hm : m ∈ (nodeOf source (.node info children)).nodes) :
    m = nodeOf source (.node info children) ∨ ∃ v ∈ nodesOfList children, IsNodeOf source m v := by
  have hform := kindForm info.kind
  generalize hkind : info.kind = kind at hform
  cases hform with
  | program =>
    rw [nodeOf_program source children hkind] at hm ⊢
    exact (List.mem_cons.mp hm).imp id (isNodeOf_of_mem_nodesBut hbelow)
  | exportStatement =>
    rw [nodeOf_exportStatement source children hkind] at hm ⊢
    cases htarget : exportTarget? children with
    | none =>
      rw [htarget] at hm
      exact (List.mem_cons.mp hm).imp id (isNodeOf_of_mem_nodesBut hbelow)
    | some target =>
      rw [htarget] at hm
      have hmem := mem_nodesOfList_of_mem (mem_of_exportTarget? htarget)
      refine (List.mem_cons.mp hm).imp id fun hm => ?_
      rcases mem_nodes_declared hm with rfl | hm
      · exact ⟨target, hmem, .inr rfl⟩
      · exact isNodeOf_of_mem_node hbelow hmem hm
  | function hfunction =>
    rw [nodeOf_function source children (hkind ▸ hfunction)] at hm ⊢
    exact (List.mem_cons.mp hm).imp id (isNodeOf_of_mem_nodesBut hbelow)
  | class_ hclass =>
    rw [nodeOf_class source children (hkind ▸ hclass)] at hm ⊢
    exact (List.mem_cons.mp hm).imp id (isNodeOf_of_mem_nodesBut hbelow)
  | identifier =>
    rw [nodeOf_identifier source children hkind] at hm ⊢
    exact .inl (List.mem_singleton.mp hm)
  | element =>
    rw [nodeOf_element source children hkind] at hm ⊢
    refine (List.mem_cons.mp hm).imp id fun hm => ?_
    rcases List.mem_append.mp hm with hm | hm
    · exact isNodeOf_of_mem_openAttributes hbelow hm
    · exact isNodeOf_of_mem_nodesBut hbelow hm
  | selfClosing =>
    rw [nodeOf_selfClosing source children hkind] at hm ⊢
    rw [Node.nodes, Node.nodesOfList, List.append_nil] at hm
    exact (List.mem_cons.mp hm).imp id
      (isNodeOf_of_mem_attributesOf hbelow fun c hc => mem_nodesOfList_of_mem hc)
  | fragment =>
    rw [nodeOf_fragment source children hkind] at hm ⊢
    exact (List.mem_cons.mp hm).imp id (isNodeOf_of_mem_nodesBut hbelow)
  | other hprogram hexport hfunction hclass hidentifier helement =>
    subst hkind
    rw [nodeOf_other source children hprogram hexport hfunction hclass hidentifier helement]
      at hm ⊢
    exact (List.mem_cons.mp hm).imp id (isNodeOf_of_mem_nodesBut hbelow)

end Cases

/-- Every node of a component tree is the component node of a syntax node. -/
theorem isNodeOf_of_mem_nodes (source : Source) (t : SyntaxTree) :
    ∀ m ∈ (nodeOf source t).nodes, ∃ u ∈ t.nodes, IsNodeOf source m u := by
  refine SyntaxTree.induction_below
    (P := fun t => ∀ m ∈ (nodeOf source t).nodes, ∃ u ∈ t.nodes, IsNodeOf source m u) ?_ t
  intro info children hbelow m hm
  rcases isNodeOf_of_below hbelow hm with rfl | ⟨u, hu, hmu⟩
  · exact ⟨_, SyntaxTree.mem_nodes_self _, .inl rfl⟩
  · exact ⟨u, List.mem_cons_of_mem _ hu, hmu⟩

/-! ## Targets of default exports -/

theorem declared_ne_expression (n : Node) (name : Option String) (params : List Param)
    (children : List Node) : declared n ≠ .function .expression name params children := by
  cases n with
  | function kind _ _ _ => cases kind <;> simp [declared]
  | _ => simp [declared]

theorem eq_of_declared_eq_exportDefault {n target : Node} (h : declared n = .exportDefault target) :
    n = .exportDefault target := by
  cases n with
  | function kind _ _ _ => cases kind <;> simp [declared] at h
  | _ => exact h

/-- Targets are declared. -/
theorem exists_declared_of_nodeOf_eq {source : Source} {t : SyntaxTree} {target : Node}
    (h : nodeOf source t = .exportDefault target) : ∃ n, target = declared n := by
  obtain ⟨info, children⟩ := t
  have hform := kindForm info.kind
  generalize hkind : info.kind = kind at hform
  cases hform with
  | program =>
    rw [nodeOf_program source children hkind] at h
    cases h
  | exportStatement =>
    rw [nodeOf_exportStatement source children hkind] at h
    cases htarget : exportTarget? children with
    | none =>
      rw [htarget] at h
      cases h
    | some t =>
      rw [htarget] at h
      exact ⟨nodeOf source t, (Node.exportDefault.inj h).symm⟩
  | function hfunction =>
    rw [nodeOf_function source children (hkind ▸ hfunction)] at h
    cases h
  | class_ hclass =>
    rw [nodeOf_class source children (hkind ▸ hclass)] at h
    cases h
  | identifier =>
    rw [nodeOf_identifier source children hkind] at h
    cases h
  | element =>
    rw [nodeOf_element source children hkind] at h
    cases h
  | selfClosing =>
    rw [nodeOf_selfClosing source children hkind] at h
    cases h
  | fragment =>
    rw [nodeOf_fragment source children hkind] at h
    cases h
  | other hprogram hexport hfunction hclass hidentifier helement =>
    subst hkind
    rw [nodeOf_other source children hprogram hexport hfunction hclass hidentifier helement] at h
    cases h

/-- No target of a default export is a function expression. -/
theorem exported?_nodeOf_ne_expression (source : Source) (t : SyntaxTree) (name : Option String)
    (params : List Param) (children : List Node) :
    (nodeOf source t).exported? ≠ some (.function .expression name params children) := by
  intro h
  obtain ⟨u, -, hu⟩ := isNodeOf_of_mem_nodes source t _ (Node.mem_nodes_of_exported? h)
  have hnode : nodeOf source u = .exportDefault (.function .expression name params children) := by
    rcases hu with hu | hu
    · exact hu.symm
    · exact eq_of_declared_eq_exportDefault hu.symm
  obtain ⟨n, hn⟩ := exists_declared_of_nodeOf_eq hnode
  exact declared_ne_expression n name params children hn.symm

/-- What gives a prop of the default export is a function that is declared, or that is
exported itself. -/
theorem exists_of_mem_props_defaultExport (styles : List String) {n : Node} {x : String}
    (hx : x ∈ (n.fingerprintWith styles .defaultExport).props) :
    ∃ kind name params children,
      .function kind name params children ∈ n.nodes ∧ x ∈ firstParamNames params ∧
        (kind = .declaration ∨ n.exported? = some (.function kind name params children)) := by
  rw [props_defaultExport, StringSet.mem_ofList] at hx
  split at hx
  · rename_i kind name params children hexport
    have htarget := Node.nodes_subset (Node.mem_nodes_of_exported? hexport)
      (List.mem_cons_of_mem _ (Node.mem_nodes_self _))
    exact ⟨kind, name, params, children, htarget, hx, .inr hexport⟩
  · rename_i name hexport
    cases hfirst : n.nodes.find? (Node.declares name) with
    | none =>
      rw [hfirst] at hx
      exact absurd hx List.not_mem_nil
    | some m =>
      obtain ⟨params, children, rfl⟩ := Node.declares_iff.mp (List.find?_some hfirst)
      rw [hfirst] at hx
      exact ⟨.declaration, some name, params, children, List.mem_of_find?_eq_some hfirst, hx,
        .inl rfl⟩
  · exact absurd hx List.not_mem_nil

/-- The scope of the default export takes props away and adds none, unless an arrow or
a method is exported; then its own props must be among those of declared functions. -/
theorem defaultExport_restricts_iff (styles : List String) (source : Source) (t : SyntaxTree) :
    (∀ x ∈ ((nodeOf source t).fingerprintWith styles .defaultExport).props,
        x ∈ ((nodeOf source t).fingerprintWith styles .allFunctions).props) ↔
      ∀ kind name params children,
        (nodeOf source t).exported? = some (.function kind name params children) →
        kind = .arrow ∨ kind = .method →
        ∀ x ∈ firstParamNames params,
          x ∈ ((nodeOf source t).fingerprintWith styles .allFunctions).props := by
  constructor
  · intro hrestricts kind name params children hexport _ x hx
    apply hrestricts
    rw [props_of_exported_function styles hexport]
    exact StringSet.mem_ofList.mpr hx
  · intro hexported x hx
    obtain ⟨kind, name, params, children, hmem, hfirst, hkind⟩ :=
      exists_of_mem_props_defaultExport styles hx
    cases kind with
    | declaration =>
      obtain ⟨param, rest, rfl, hparam⟩ := mem_firstParamNames.mp hfirst
      exact (mem_props_fingerprintWith styles _).mpr ⟨name, param, rest, children, hmem, hparam⟩
    | expression =>
      exact absurd (hkind.resolve_left nofun) (exported?_nodeOf_ne_expression source t _ _ _)
    | arrow => exact hexported .arrow _ _ _ (hkind.resolve_left nofun) (.inl rfl) x hfirst
    | method => exact hexported .method _ _ _ (hkind.resolve_left nofun) (.inr rfl) x hfirst

/-- The tree of `export default a => a`. -/
def plainArrow : SyntaxTree :=
  .node { kind := "program", stop := 21 } [
    .node { kind := "export_statement", stop := 21 } [
      token "export" 0, token "default" 7,
      .node { kind := "arrow_function", roles := ["value"], start := 15, stop := 21 } [
        letter "identifier" ["parameter"] 15, token "=>" 17, letter "identifier" ["body"] 20]]]

/-- An accepted source can have a prop for its default export alone. -/
theorem not_defaultExport_restricts :
    ¬ ∀ (styles : List String) (source : Source) (maxDepth : Nat) (t : SyntaxTree),
      validate source maxDepth t = .ok () →
      ∀ x ∈ ((nodeOf source t).fingerprintWith styles .defaultExport).props,
        x ∈ ((nodeOf source t).fingerprintWith styles .allFunctions).props := by
  intro hrestricts
  have hmem := hrestricts [] (Source.ofString "export default a => a") 256 plainArrow
    ((validate_eq_ok_iff _ _ _).mpr (by decide +kernel)) "a" (by decide +kernel)
  exact absurd hmem (by decide +kernel)

end ComponentLikeness.Component
