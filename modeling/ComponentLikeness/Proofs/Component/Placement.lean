import ComponentLikeness.Proofs.Component.Gathering
import ComponentLikeness.Proofs.Component.Readings
import Mathlib.Data.List.Forall2

/-!
# Elements and functions keep their places

Some syntax nodes are left out of the component tree: names, closing tags,
comments between the parts of an attribute, what stands beside the target of a
default export. A tree is well placed if none of these holds an element or a
function (`WellPlaced`); one rule for each kind of node says where they may stand.

`Mirrors nodes trees` says that the elements and the functions in a list of
component nodes are those in a list of syntax nodes, one by one and in order.
Lists that mirror each other can be joined (`Mirrors.append`), and trees that
hold nothing of the sort can be put in or left out (`Mirrors.of_bare`), so each
part of a syntax tree needs to be looked at only by itself. Thus the component
tree of a well placed syntax tree loses, doubles and reorders no element and no
function (`nodeOf_keeps_elements_and_functions`).
-/

namespace ComponentLikeness.Component

open Grammar (Source)
open Syntax Text
open SyntaxTree (nodes nodesOfList mem_nodesOfList_of_mem)

/-! ## Elements and functions in syntax trees -/

/-- The kinds of the syntax nodes that write elements. -/
def elementKinds : List String := ["jsx_element", "jsx_self_closing_element", "jsx_fragment"]

/-- The kinds of the syntax nodes that write functions, with the way each is written. -/
def functionKinds : List (String × FunctionKind) := [
  ("function_declaration", .declaration), ("generator_function_declaration", .declaration),
  ("function_expression", .expression), ("function", .expression),
  ("generator_function", .expression), ("arrow_function", .arrow),
  ("method_definition", .method)]

/-- The kinds of the syntax nodes that write classes. -/
def classKinds : List String := ["class_declaration", "abstract_class_declaration", "class"]

/-- The passage to component trees takes just these kinds for functions. -/
theorem functionKind_eq_lookup (kind : String) : functionKind kind = functionKinds.lookup kind := by
  have hcons : ∀ (k : String) (written : FunctionKind) (rest : List (String × FunctionKind)),
      List.lookup kind ((k, written) :: rest) =
        if kind = k then some written else rest.lookup kind := by
    intro k written rest
    rw [List.lookup_cons]
    by_cases hk : kind = k
    · simp [hk]
    · simp [hk, beq_false_of_ne hk]
  simp only [functionKind, functionKinds, hcons, List.lookup_nil, Bool.or_eq_true,
    decide_eq_true_eq, ite_or]

/-- Whether the syntax node is an element. -/
def isElementNode (t : SyntaxTree) : Bool := t.info.named && elementKinds.contains t.kind

/-- Whether the syntax node is a function; the keyword `function` is none. -/
def isFunctionNode (t : SyntaxTree) : Bool :=
  t.info.named && (functionKinds.lookup t.kind).isSome

/-- Neither an element nor a function. -/
def IsPlain (t : SyntaxTree) : Prop := isElementNode t = false ∧ isFunctionNode t = false

theorem isPlain_of_kind {t : SyntaxTree} {kind : String} (hkind : t.kind = kind)
    (h : elementKinds.contains kind = false ∧ functionKinds.lookup kind = none) : IsPlain t := by
  simp only [IsPlain, isElementNode, isFunctionNode, hkind, h, Bool.and_false, Option.isSome_none,
    and_self]

theorem isPlain_of_unnamed {t : SyntaxTree} (h : t.info.named = false) : IsPlain t := by
  simp [IsPlain, isElementNode, isFunctionNode, h]

/-- The tree holds neither an element nor a function. -/
def Bare (t : SyntaxTree) : Prop := ∀ u ∈ t.nodes, IsPlain u

/-- Elements and functions stand only in what gives attributes. -/
def BareBesideAttributes (tag : SyntaxTree) : Prop :=
  ∀ c ∈ tag.children, isAttributeNode c = false → Bare c

/-- Where elements and functions may stand right below a node, by its kind. -/
structure KeepsPlaces (t : SyntaxTree) : Prop where
  /-- Fixed tokens, bare names and comments hold none. -/
  leaf : t.info.named = false ∨ t.kind = "identifier" ∨ t.kind = "comment" →
    ∀ c ∈ t.children, Bare c
  /-- The name of a function or a class holds none. -/
  name : (functionKinds.lookup t.kind).isSome ∨ t.kind ∈ classKinds →
    ∀ c ∈ t.children, c.plays "name" → Bare c
  selfClosing : t.kind = "jsx_self_closing_element" → BareBesideAttributes t
  /-- An opening tag is the first child of its element, and is itself none. -/
  openingFirst : t.kind = "jsx_element" → (t.child? "open_tag").isSome →
    t.children.head?.any fun c => c.plays "open_tag"
  opening : t.kind = "jsx_element" → ∀ tag ∈ t.child? "open_tag",
    IsPlain tag ∧ BareBesideAttributes tag
  closing : t.kind = "jsx_element" → ∀ c ∈ t.children, c.plays "close_tag" → Bare c
  /-- An attribute has a name, perhaps a value, and comments beside them. -/
  attributeParts : t.kind = "jsx_attribute" → (t.children.filter isPart).length ≤ 2
  attributeName : t.kind = "jsx_attribute" → ∀ c ∈ (t.children.filter isPart).head?, Bare c
  attributeText : t.kind = "jsx_attribute" →
    ∀ c ∈ t.children, c.kind = "string" → Bare c
  /-- A default export holds them only in its target, which is no token. -/
  exported : t.kind = "export_statement" → ∀ role ∈ exportRole? t.children,
    (∀ target ∈ t.child? role, target.info.named = true) ∧
      ∀ c ∈ t.children.eraseP fun c => c.plays role, Bare c

/-- Elements and functions stand only where they may. -/
def WellPlaced (t : SyntaxTree) : Prop := ∀ u ∈ t.nodes, KeepsPlaces u

instance (t : SyntaxTree) : Decidable (IsPlain t) :=
  inferInstanceAs (Decidable (_ ∧ _))

instance (t : SyntaxTree) : Decidable (Bare t) :=
  inferInstanceAs (Decidable (∀ u ∈ t.nodes, IsPlain u))

instance (tag : SyntaxTree) : Decidable (BareBesideAttributes tag) :=
  inferInstanceAs (Decidable (∀ c ∈ tag.children, isAttributeNode c = false → Bare c))

/-! ## What component nodes say of syntax nodes -/

/-- Whether the component node is a function. -/
def Node.isFunction : Node → Bool
  | .function .. => true
  | _ => false

/-- The tag with the name and the attributes of an element; a fragment has none. -/
def tagOf? (t : SyntaxTree) : Option SyntaxTree :=
  if t.kind = "jsx_element" then t.child? "open_tag"
  else if t.kind = "jsx_self_closing_element" then some t
  else none

/-- The parts of the tag of an element that give it attributes, in order. -/
def attributeNodes (t : SyntaxTree) : List SyntaxTree :=
  ((tagOf? t).map fun tag => tag.children.filter isAttributeNode).getD []

/-- The component node is the element that the syntax node writes: it has the
same tag name, closes itself or not, and has the same attributes in order. -/
def IsElementOf (source : Source) (n : Node) (t : SyntaxTree) : Prop :=
  ∃ children, n = .element ((tagOf? t).bind fun tag => nonEmpty (tagName source tag))
    ((attributeNodes t).map (attributeOf source)) (t.kind = "jsx_self_closing_element") children

/-- The component node is the function that the syntax node writes: it has the
same parameters and, unless it is an arrow, the same name. An expression may have
become a declaration. -/
def IsFunctionOf (source : Source) (n : Node) (t : SyntaxTree) : Prop :=
  ∃ written kind children, functionKinds.lookup t.kind = some written ∧
    (kind = written ∨ written = .expression ∧ kind = .declaration) ∧
    n = .function kind
      (if written = .arrow then none else (t.child? "name").map (SyntaxTree.text source))
      (params source t) children

/-! ## Lists that mirror each other -/

/-- Trees without nodes of the sort looked for may be left out. -/
theorem filter_nodesOfList {p q : SyntaxTree → Bool} {ts : List SyntaxTree}
    (h : ∀ t ∈ ts, p t = false → ∀ u ∈ t.nodes, q u = false) :
    (nodesOfList (ts.filter p)).filter q = (nodesOfList ts).filter q := by
  induction ts with
  | nil => rfl
  | cons t ts ih =>
    have hts := ih fun c hc => h c (List.mem_cons_of_mem _ hc)
    cases hp : p t with
    | true =>
      rw [List.filter_cons_of_pos hp, nodesOfList, nodesOfList, List.filter_append,
        List.filter_append, hts]
    | false =>
      have ht : t.nodes.filter q = [] :=
        List.filter_eq_nil_iff.mpr fun u hu => by simp [h t List.mem_cons_self hp u hu]
      rw [List.filter_cons_of_neg (by simp [hp]), nodesOfList, List.filter_append, ht, hts,
        List.nil_append]

/-- The elements and the functions among the component nodes are those among the
syntax nodes, one by one and in order. -/
structure Mirrors (source : Source) (ns : List Node) (ts : List SyntaxTree) : Prop where
  elements :
    List.Forall₂ (IsElementOf source) (ns.filter Node.isElement) (ts.filter isElementNode)
  functions :
    List.Forall₂ (IsFunctionOf source) (ns.filter Node.isFunction) (ts.filter isFunctionNode)

namespace Mirrors

variable {source : Source} {n : Node} {t : SyntaxTree} {ns ns' : List Node}
  {ts ts' : List SyntaxTree}

theorem append (first : Mirrors source ns ts) (second : Mirrors source ns' ts') :
    Mirrors source (ns ++ ns') (ts ++ ts') where
  elements := by
    rw [List.filter_append, List.filter_append]
    exact List.rel_append first.elements second.elements
  functions := by
    rw [List.filter_append, List.filter_append]
    exact List.rel_append first.functions second.functions

/-- Nothing mirrors syntax nodes that are plain. -/
theorem of_plain (h : ∀ t ∈ ts, IsPlain t) : Mirrors source [] ts where
  elements := by
    have hts : ts.filter isElementNode = [] :=
      List.filter_eq_nil_iff.mpr fun t ht => by simp [(h t ht).1]
    simp [hts]
  functions := by
    have hts : ts.filter isFunctionNode = [] :=
      List.filter_eq_nil_iff.mpr fun t ht => by simp [(h t ht).2]
    simp [hts]

theorem nil : Mirrors source [] [] := of_plain nofun

/-- Nothing mirrors bare trees. -/
theorem of_bare (h : ∀ t ∈ ts, Bare t) : Mirrors source [] (nodesOfList ts) :=
  of_plain fun u hu => by
    obtain ⟨t, ht, hu⟩ := SyntaxTree.mem_nodesOfList.mp hu
    exact h t ht u hu

/-- A plain syntax node may be left out. -/
theorem skip (h : Mirrors source ns ts) (ht : IsPlain t) : Mirrors source ns (t :: ts) := by
  have hsingle : Mirrors source [] [t] := of_plain fun u hu => List.mem_singleton.mp hu ▸ ht
  exact hsingle.append h

/-- Nodes of other sorts correspond to plain syntax nodes. -/
theorem cons_plain (h : Mirrors source ns ts) (ht : IsPlain t) (helement : n.isElement = false)
    (hfunction : n.isFunction = false) : Mirrors source (n :: ns) (t :: ts) where
  elements := by simpa [helement] using (h.skip ht).elements
  functions := by simpa [hfunction] using (h.skip ht).functions

theorem cons_element (h : Mirrors source ns ts) (hn : IsElementOf source n t)
    (helement : isElementNode t = true) (hfunction : isFunctionNode t = false) :
    Mirrors source (n :: ns) (t :: ts) := by
  obtain ⟨children, rfl⟩ := hn
  constructor
  · rw [List.filter_cons_of_pos rfl, List.filter_cons_of_pos helement]
    exact .cons ⟨children, rfl⟩ h.elements
  · simpa [Node.isFunction, hfunction] using h.functions

theorem cons_function (h : Mirrors source ns ts) (hn : IsFunctionOf source n t)
    (helement : isElementNode t = false) (hfunction : isFunctionNode t = true) :
    Mirrors source (n :: ns) (t :: ts) := by
  obtain ⟨written, kind, children, hwritten, hkind, rfl⟩ := hn
  constructor
  · simpa [Node.isElement, helement] using h.elements
  · rw [List.filter_cons_of_pos rfl, List.filter_cons_of_pos hfunction]
    exact .cons ⟨written, kind, children, hwritten, hkind, rfl⟩ h.functions

/-- Bare trees may be left out of a list. -/
theorem of_filter {p : SyntaxTree → Bool} (hbare : ∀ t ∈ ts, p t = false → Bare t)
    (h : Mirrors source ns (nodesOfList (ts.filter p))) :
    Mirrors source ns (nodesOfList ts) where
  elements := by
    rw [← filter_nodesOfList fun t ht hp u hu => (hbare t ht hp u hu).1]
    exact h.elements
  functions := by
    rw [← filter_nodesOfList fun t ht hp u hu => (hbare t ht hp u hu).2]
    exact h.functions

end Mirrors

/-! ## Parts of the passage -/

theorem Bare.of_children {t : SyntaxTree} (ht : IsPlain t) (h : ∀ c ∈ t.children, Bare c) :
    Bare t := by
  intro u hu
  obtain ⟨info, children⟩ := t
  rcases List.mem_cons.mp hu with rfl | hu
  · exact ht
  · obtain ⟨c, hc, hu⟩ := SyntaxTree.mem_nodesOfList.mp hu
    exact h c hc u hu

/-- What is shown of every tree: a token is bare, and any other tree is mirrored
by its component tree. -/
structure Settled (source : Source) (t : SyntaxTree) : Prop where
  token : t.info.named = false → Bare t
  mirrored : t.info.named = true → Mirrors source (nodeOf source t).nodes t.nodes

section Parts

variable {source : Source} {t : SyntaxTree} {ts : List SyntaxTree}

theorem mirrors_nodesBut (roles : List String) (h : ∀ c ∈ ts, Settled source c)
    (hplayer : ∀ c ∈ ts, ∀ role ∈ roles, c.plays role → Bare c) :
    Mirrors source (Node.nodesOfList (nodesBut source roles ts)) (nodesOfList ts) := by
  induction ts generalizing roles with
  | nil => exact .nil
  | cons c cs ih =>
    have hcs := fun d hd => h d (List.mem_cons_of_mem c hd)
    have hplayers := fun d hd => hplayer d (List.mem_cons_of_mem c hd)
    rw [nodesBut, nodesOfList]
    cases hrole : roles.find? fun role => c.plays role with
    | some role =>
      -- the child is left out, and no further one for this role
      have hplays : c.plays role := by simpa using List.find?_some hrole
      have hc := hplayer c List.mem_cons_self role (List.mem_of_find?_eq_some hrole) hplays
      exact (Mirrors.of_plain hc).append
        (ih (dropRole role roles) hcs fun d hd r hr => hplayers d hd r (List.mem_of_mem_erase hr))
    | none =>
      cases hnamed : c.info.named with
      | true => exact ((h c List.mem_cons_self).mirrored hnamed).append (ih roles hcs hplayers)
      | false =>
        exact (Mirrors.of_plain ((h c List.mem_cons_self).token hnamed)).append
          (ih roles hcs hplayers)

/-- All named children. -/
theorem mirrors_children (h : ∀ c ∈ ts, Settled source c) :
    Mirrors source (Node.nodesOfList (nodesBut source [] ts)) (nodesOfList ts) :=
  mirrors_nodesBut [] h nofun

/-- An expression holds what its named children do. -/
theorem mirrors_expression (hkind : t.kind = "jsx_expression")
    (h : ∀ c ∈ t.children, Settled source c) :
    Mirrors source (Node.nodesOfList (t.namedChildren.map (nodeOf source))) t.nodes := by
  have hplain : IsPlain t := isPlain_of_kind hkind ⟨rfl, rfl⟩
  have hchildren := (mirrors_children h).skip hplain
  rw [nodesBut_nil] at hchildren
  obtain ⟨info, children⟩ := t
  exact hchildren

theorem mirrors_valueOf (hnamed : t.info.named = true) (hstring : t.kind = "string" → Bare t)
    (ht : Settled source t) (h : ∀ c ∈ t.children, Settled source c) :
    Mirrors source (valueOf source t).nodes t.nodes := by
  have hmirrored := ht.mirrored hnamed
  unfold valueOf
  split
  · rename_i hkind
    exact Mirrors.of_plain (hstring hkind)
  split
  · rename_i hkind
    exact mirrors_expression hkind h
  split
  · exact hmirrored
  · simpa [AttributeValue.nodes, Node.nodesOfList] using hmirrored

/-- What does not count among the parts of an attribute is bare. -/
theorem bare_of_isPart_eq_false (ht : Settled source t) (hplaces : KeepsPlaces t)
    (h : isPart t = false) : Bare t := by
  cases hnamed : t.info.named with
  | false => exact ht.token hnamed
  | true =>
    have hkind : t.kind = "comment" := by simpa [isPart, hnamed] using h
    exact .of_children (isPlain_of_kind hkind ⟨rfl, rfl⟩)
      (hplaces.leaf (.inr (.inr hkind)))

/-- An attribute holds what its value does: its other parts are bare. -/
theorem mirrors_attributeOf (hattribute : isAttributeNode t = true) (hplaces : KeepsPlaces t)
    (hbelow : ∀ u ∈ nodesOfList t.children, Settled source u ∧ KeepsPlaces u) :
    Mirrors source (attributeOf source t).nodes t.nodes := by
  have hchild := fun c hc => hbelow c (mem_nodesOfList_of_mem hc)
  unfold attributeOf
  split
  · rename_i hkind
    have hplain : IsPlain t := isPlain_of_kind hkind ⟨rfl, rfl⟩
    have hlength := hplaces.attributeParts hkind
    have hname := hplaces.attributeName hkind
    have hmem : ∀ c ∈ t.children.filter isPart, c ∈ t.children ∧ isPart c = true :=
      fun c hc => List.mem_filter.mp hc
    suffices hparts : Mirrors source
        (((t.children.filter isPart)[1]?.map (valueOf source)).getD .flag).nodes
        (nodesOfList (t.children.filter isPart)) by
      have hchildren := Mirrors.of_filter
        (fun c hc hpart => bare_of_isPart_eq_false (hchild c hc).1 (hchild c hc).2 hpart) hparts
      obtain ⟨info, children⟩ := t
      exact hchildren.skip hplain
    -- no part at all, a name, or a name and a value; there is no third part
    rcases hfilter : t.children.filter isPart with _ | ⟨name, _ | ⟨value, _ | ⟨third, rest⟩⟩⟩
    all_goals rw [hfilter] at hlength hname hmem
    · exact .nil
    · exact .of_bare fun c hc => hname c (by rw [List.mem_singleton.mp hc]; rfl)
    · obtain ⟨hvalue, hpart⟩ := hmem value (by simp)
      have hnamed : value.info.named = true := by
        simp only [isPart, Bool.and_eq_true] at hpart
        exact hpart.1
      have hvalues := mirrors_valueOf hnamed (hplaces.attributeText hkind value hvalue)
        (hchild value hvalue).1 fun d hd => (hbelow d (SyntaxTree.nodes_subset_of_mem hvalue
          (SyntaxTree.nodesOfList_children_subset value (mem_nodesOfList_of_mem hd)))).1
      have hnames : Mirrors source [] name.nodes := .of_plain (hname name (by simp))
      simpa [nodesOfList] using hnames.append hvalues
    · simp at hlength
  · rename_i hkind
    have hexpression : t.kind = "jsx_expression" := by
      simp only [isAttributeNode, Bool.and_eq_true, Bool.or_eq_true,
        decide_eq_true_eq] at hattribute
      exact hattribute.2.resolve_left hkind
    exact mirrors_expression hexpression fun c hc => (hchild c hc).1

theorem mirrors_attributesOf {tag : SyntaxTree} (hbeside : BareBesideAttributes tag)
    (hbelow : ∀ u ∈ nodesOfList tag.children, Settled source u ∧ KeepsPlaces u) :
    Mirrors source (Attribute.nodesOfList (attributesOf source tag.children))
      (nodesOfList tag.children) := by
  refine Mirrors.of_filter hbeside ?_
  rw [attributesOf_eq]
  have hattributes : ∀ c ∈ tag.children.filter isAttributeNode,
      Mirrors source (attributeOf source c).nodes c.nodes := by
    intro c hc
    obtain ⟨hc, hattribute⟩ := List.mem_filter.mp hc
    refine mirrors_attributeOf hattribute (hbelow c (mem_nodesOfList_of_mem hc)).2 fun u hu => ?_
    exact hbelow u (SyntaxTree.nodes_subset_of_mem hc
      (SyntaxTree.nodesOfList_children_subset c hu))
  generalize tag.children.filter isAttributeNode = cs at hattributes
  induction cs with
  | nil => exact .nil
  | cons c cs ih =>
    exact (hattributes c List.mem_cons_self).append
      (ih fun d hd => hattributes d (List.mem_cons_of_mem c hd))

/-- If all but the first player of a role are bare, the children hold what that
player does. -/
theorem mirrors_player {ns : List Node} {role : String} {player : SyntaxTree}
    (hplayer : ts.find? (fun c => c.plays role) = some player)
    (hbeside : ∀ c ∈ ts.eraseP fun c => c.plays role, Bare c)
    (h : Mirrors source ns player.nodes) : Mirrors source ns (nodesOfList ts) := by
  induction ts with
  | nil => simp at hplayer
  | cons c cs ih =>
    rw [List.find?_cons] at hplayer
    cases hplays : c.plays role with
    | true =>
      rw [List.eraseP_cons_of_pos hplays] at hbeside
      obtain rfl : c = player := by simpa [hplays] using hplayer
      simpa [nodesOfList] using h.append (.of_bare hbeside)
    | false =>
      rw [List.eraseP_cons_of_neg (by simp [hplays])] at hbeside
      have hcs := ih (by simpa [hplays] using hplayer) fun d hd =>
        hbeside d (List.mem_cons_of_mem c hd)
      exact (Mirrors.of_plain (hbeside c List.mem_cons_self)).append hcs

end Parts

/-- A function that is declared still is the function that the syntax node writes. -/
theorem Mirrors.declared {source : Source} {n : Node} {ts : List SyntaxTree}
    (h : Mirrors source n.nodes ts) : Mirrors source (declared n).nodes ts := by
  unfold Component.declared
  split
  · rename_i name params children
    -- the function comes first among those of its tree, and only its kind changes
    refine ⟨by simpa [Node.nodes, Node.isElement] using h.elements, ?_⟩
    have hfunctions := h.functions
    rw [Node.nodes, List.filter_cons_of_pos rfl] at hfunctions ⊢
    obtain ⟨u, us, hu, hus, hts⟩ := List.forall₂_cons_left_iff.mp hfunctions
    rw [hts]
    refine .cons ?_ hus
    obtain ⟨written, kind, children', hwritten, hkind, hn⟩ := hu
    obtain ⟨rfl, rfl, rfl, rfl⟩ := Node.function.inj hn
    have hexpression : written = .expression := by
      rcases hkind with hkind | ⟨_, hkind⟩
      · exact hkind.symm
      · cases hkind
    exact ⟨written, .declaration, children, hwritten, .inr ⟨hexpression, rfl⟩, rfl⟩
  · exact h

/-- No function is an element. -/
theorem not_mem_elementKinds {kind : String} {written : FunctionKind}
    (h : functionKinds.lookup kind = some written) : kind ∉ elementKinds := by
  intro helement
  simp only [elementKinds, List.mem_cons, List.not_mem_nil, or_false] at helement
  rcases helement with rfl | rfl | rfl <;> simp [functionKinds, List.lookup_cons] at h

theorem isPlain_of_mem_classKinds {t : SyntaxTree} (h : t.kind ∈ classKinds) : IsPlain t := by
  simp only [classKinds, List.mem_cons, List.not_mem_nil, or_false] at h
  rcases h with hkind | hkind | hkind <;> exact isPlain_of_kind hkind ⟨rfl, rfl⟩

section Cases

variable {source : Source} {info : NodeInfo} {children : List SyntaxTree}

theorem mirrors_exportStatement (hkind : info.kind = "export_statement")
    (hplaces : KeepsPlaces (.node info children)) (h : ∀ c ∈ children, Settled source c) :
    Mirrors source (nodeOf source (.node info children)).nodes
      (SyntaxTree.node info children).nodes := by
  have hplain : IsPlain (.node info children) := isPlain_of_kind hkind ⟨rfl, rfl⟩
  rw [nodeOf_exportStatement source children hkind]
  cases htarget : exportTarget? children with
  | none => exact (mirrors_children h).cons_plain hplain rfl rfl
  | some target =>
    obtain ⟨role, hrole, hplayer⟩ := Option.bind_eq_some_iff.mp htarget
    obtain ⟨hnamed, hbeside⟩ := hplaces.exported hkind role hrole
    have hmirrored := (h target (List.mem_of_find?_eq_some hplayer)).mirrored
      (hnamed target hplayer)
    exact (mirrors_player hplayer hbeside hmirrored.declared).cons_plain hplain rfl rfl

theorem mirrors_function {written : FunctionKind} (hnamed : info.named = true)
    (hkind : functionKinds.lookup info.kind = some written)
    (hplaces : KeepsPlaces (.node info children)) (h : ∀ c ∈ children, Settled source c) :
    Mirrors source (nodeOf source (.node info children)).nodes
      (SyntaxTree.node info children).nodes := by
  have helement : isElementNode (.node info children) = false := by
    simpa [isElementNode, SyntaxTree.kind] using fun _ => not_mem_elementKinds hkind
  have hfunction : isFunctionNode (.node info children) = true := by
    rw [isFunctionNode, SyntaxTree.kind, SyntaxTree.info_node, hnamed, hkind]
    rfl
  have hname := hplaces.name (.inl (Option.isSome_of_eq_some hkind))
  have hchildren := mirrors_nodesBut ["name"] h fun c hc role hrole =>
    List.mem_singleton.mp hrole ▸ hname c hc
  rw [nodeOf_function source children ((functionKind_eq_lookup _).trans hkind)]
  exact hchildren.cons_function ⟨written, written, _, hkind, .inl rfl, rfl⟩ helement hfunction

theorem mirrors_class (hkind : info.kind ∈ classKinds)
    (hplaces : KeepsPlaces (.node info children)) (h : ∀ c ∈ children, Settled source c) :
    Mirrors source (nodeOf source (.node info children)).nodes
      (SyntaxTree.node info children).nodes := by
  have hname := hplaces.name (.inr hkind)
  have hchildren := mirrors_nodesBut ["name"] h fun c hc role hrole =>
    List.mem_singleton.mp hrole ▸ hname c hc
  rw [nodeOf_class source children (List.contains_iff_mem.mpr hkind)]
  exact hchildren.cons_plain (isPlain_of_mem_classKinds hkind) rfl rfl

/-- The parts of the opening tag come before the other children. -/
theorem mirrors_inElement (hkind : info.kind = "jsx_element")
    (hplaces : KeepsPlaces (.node info children))
    (hbelow : ∀ u ∈ nodesOfList children, Settled source u ∧ KeepsPlaces u) :
    Mirrors source (Attribute.nodesOfList (openAttributes source children) ++
        Node.nodesOfList (nodesBut source ["open_tag", "close_tag"] children))
      (nodesOfList children) := by
  have hchild := fun c hc => (hbelow c (mem_nodesOfList_of_mem hc)).1
  have hclosing := hplaces.closing hkind
  rw [openAttributes_eq]
  cases hopen : children.find? fun c => c.plays "open_tag" with
  | none =>
    refine mirrors_nodesBut ["open_tag", "close_tag"] hchild fun c hc role hrole hplays => ?_
    simp only [List.mem_cons, List.not_mem_nil, or_false] at hrole
    rcases hrole with rfl | rfl
    · exact absurd hplays (List.find?_eq_none.mp hopen c hc)
    · exact hclosing c hc hplays
  | some tag =>
    have hfirst := hplaces.openingFirst hkind (by simp [SyntaxTree.child?, hopen])
    obtain ⟨hplain, hbeside⟩ := hplaces.opening hkind tag hopen
    cases children with
    | nil => simp at hopen
    | cons first rest =>
      have hplays : first.plays "open_tag" = true := by simpa using hfirst
      obtain rfl : first = tag := by simpa [hplays] using hopen
      have hrest := mirrors_nodesBut ["close_tag"]
        (fun c hc => hchild c (List.mem_cons_of_mem _ hc))
        fun c hc role hrole =>
          List.mem_singleton.mp hrole ▸ hclosing c (List.mem_cons_of_mem _ hc)
      have hattributes := mirrors_attributesOf hbeside fun u hu => hbelow u
        (List.mem_append_left _ (SyntaxTree.nodesOfList_children_subset first hu))
      have htag : Mirrors source (Attribute.nodesOfList (attributesOf source first.children))
          first.nodes := by
        obtain ⟨firstInfo, parts⟩ := first
        exact hattributes.skip hplain
      have hdrop : nodesBut source ["open_tag", "close_tag"] (first :: rest) =
          nodesBut source ["close_tag"] rest := by
        simp [nodesBut, hplays, dropRole]
      rw [hdrop]
      exact htag.append hrest

theorem openAttributes_eq_map (hkind : info.kind = "jsx_element") :
    openAttributes source children =
      (attributeNodes (.node info children)).map (attributeOf source) := by
  have htag : tagOf? (.node info children) = children.find? fun c => c.plays "open_tag" :=
    if_pos hkind
  rw [openAttributes_eq, attributeNodes, htag]
  cases children.find? fun c => c.plays "open_tag" with
  | none => rfl
  | some tag => exact attributesOf_eq source tag.children

theorem mirrors_element (hnamed : info.named = true) (hkind : info.kind = "jsx_element")
    (hplaces : KeepsPlaces (.node info children))
    (hbelow : ∀ u ∈ nodesOfList children, Settled source u ∧ KeepsPlaces u) :
    Mirrors source (nodeOf source (.node info children)).nodes
      (SyntaxTree.node info children).nodes := by
  rw [nodeOf_element source children hkind, openAttributes_eq_map hkind]
  have hchildren := mirrors_inElement hkind hplaces hbelow
  rw [openAttributes_eq_map hkind] at hchildren
  refine hchildren.cons_element
    ⟨nodesBut source ["open_tag", "close_tag"] children, ?_⟩ ?_ ?_
  · simp [tagOf?, SyntaxTree.kind, hkind, openTag]
  · rw [isElementNode, SyntaxTree.kind, SyntaxTree.info_node, hnamed, hkind]
    rfl
  · rw [isFunctionNode, SyntaxTree.kind, SyntaxTree.info_node, hnamed, hkind]
    rfl

theorem mirrors_selfClosing (hnamed : info.named = true)
    (hkind : info.kind = "jsx_self_closing_element")
    (hplaces : KeepsPlaces (.node info children))
    (hbelow : ∀ u ∈ nodesOfList children, Settled source u ∧ KeepsPlaces u) :
    Mirrors source (nodeOf source (.node info children)).nodes
      (SyntaxTree.node info children).nodes := by
  have hattributes := mirrors_attributesOf (hplaces.selfClosing hkind) hbelow
  rw [nodeOf_selfClosing source children hkind, Node.nodes, Node.nodesOfList, List.append_nil]
  refine hattributes.cons_element ⟨[], ?_⟩ ?_ ?_
  · simp [tagOf?, attributeNodes, SyntaxTree.kind, hkind, attributesOf_eq]
  · rw [isElementNode, SyntaxTree.kind, SyntaxTree.info_node, hnamed, hkind]
    rfl
  · rw [isFunctionNode, SyntaxTree.kind, SyntaxTree.info_node, hnamed, hkind]
    rfl

theorem mirrors_fragment (hnamed : info.named = true) (hkind : info.kind = "jsx_fragment")
    (h : ∀ c ∈ children, Settled source c) :
    Mirrors source (nodeOf source (.node info children)).nodes
      (SyntaxTree.node info children).nodes := by
  rw [nodeOf_fragment source children hkind]
  refine (mirrors_children h).cons_element ⟨nodesBut source [] children, ?_⟩ ?_ ?_
  · simp [tagOf?, attributeNodes, SyntaxTree.kind, hkind]
  · rw [isElementNode, SyntaxTree.kind, SyntaxTree.info_node, hnamed, hkind]
    rfl
  · rw [isFunctionNode, SyntaxTree.kind, SyntaxTree.info_node, hnamed, hkind]
    rfl

end Cases

theorem settled (source : Source) (t : SyntaxTree) : WellPlaced t → Settled source t := by
  refine SyntaxTree.induction_below (P := fun t => WellPlaced t → Settled source t) ?_ t
  intro info children ih hplaced
  have hplaces : KeepsPlaces (.node info children) := hplaced _ (SyntaxTree.mem_nodes_self _)
  -- not only of the children: the attributes of an element stand below its tag
  have hbelow : ∀ u ∈ nodesOfList children, Settled source u ∧ KeepsPlaces u := fun u hu =>
    ⟨ih u hu fun v hv => hplaced v (List.mem_cons_of_mem _
      (SyntaxTree.nodes_subset_nodesOfList hu hv)), hplaced u (List.mem_cons_of_mem _ hu)⟩
  have hchild : ∀ c ∈ children, Settled source c := fun c hc =>
    (hbelow c (mem_nodesOfList_of_mem hc)).1
  refine ⟨fun hnamed => ?_, fun hnamed => ?_⟩
  · exact .of_children (isPlain_of_unnamed hnamed) (hplaces.leaf (.inl hnamed))
  have hform := kindForm info.kind
  generalize hkind : info.kind = kind at hform
  cases hform with
  | program =>
    rw [nodeOf_program source children hkind]
    exact (mirrors_children hchild).cons_plain (isPlain_of_kind hkind ⟨rfl, rfl⟩) rfl rfl
  | exportStatement => exact mirrors_exportStatement hkind hplaces hchild
  | function hfunction =>
    rw [functionKind_eq_lookup] at hfunction
    exact mirrors_function hnamed (hkind ▸ hfunction) hplaces hchild
  | class_ hclass =>
    exact mirrors_class (hkind ▸ List.contains_iff_mem.mp hclass) hplaces hchild
  | identifier =>
    have hbare := hplaces.leaf (.inr (.inl hkind))
    rw [nodeOf_identifier source children hkind]
    exact (Mirrors.of_bare hbare).cons_plain (isPlain_of_kind hkind ⟨rfl, rfl⟩) rfl rfl
  | element => exact mirrors_element hnamed hkind hplaces hbelow
  | selfClosing => exact mirrors_selfClosing hnamed hkind hplaces hbelow
  | fragment => exact mirrors_fragment hnamed hkind hchild
  | other hprogram hexport hfunction hclass hidentifier helement =>
    subst hkind
    rw [nodeOf_other source children hprogram hexport hfunction hclass hidentifier helement]
    rw [functionKind_eq_lookup] at hfunction
    exact (mirrors_children hchild).cons_plain (isPlain_of_kind rfl ⟨helement, hfunction⟩) rfl rfl

/-- A token of fixed text. -/
def token (text : String) (start : Nat) : SyntaxTree :=
  .node { kind := text, named := false, start, stop := start + text.length } []

/-- A name of one letter. -/
def letter (kind : String) (roles : List String) (start : Nat) : SyntaxTree :=
  .node { kind, roles, start, stop := start + 1 } []

/-- An element such as `<i/>`, with a name of one letter. -/
def letterElement (start : Nat) : SyntaxTree :=
  .node { kind := "jsx_self_closing_element", start, stop := start + 4 }
    [token "<" start, letter "identifier" ["name"] (start + 1), token "/>" (start + 2)]

/-- A default export with an element and a function in the attributes of an element. -/
def arrowSource : Source := .ofString
  "export default (\x7ba\x7d) => <A b=\x7b<i/>\x7d c=\x7bfunction g() \x7b\x7d\x7d><B/></A>"

/-- Its tree. -/
def exportedArrow : SyntaxTree :=
  .node { kind := "program", stop := 64 } [
    .node { kind := "export_statement", stop := 64 } [
      token "export" 0, token "default" 7,
      .node { kind := "arrow_function", roles := ["value"], start := 15, stop := 64 } [
        .node { kind := "formal_parameters", roles := ["parameters"], start := 15, stop := 20 } [
          token "(" 15,
          .node { kind := "required_parameter", start := 16, stop := 19 } [
            .node { kind := "object_pattern", roles := ["pattern"], start := 16, stop := 19 } [
              token "\x7b" 16, letter "shorthand_property_identifier_pattern" [] 17,
              token "\x7d" 18]],
          token ")" 19],
        token "=>" 21,
        .node { kind := "jsx_element", roles := ["body"], start := 24, stop := 64 } [
          .node { kind := "jsx_opening_element", roles := ["open_tag"], start := 24, stop := 56 } [
            token "<" 24, letter "identifier" ["name"] 25,
            .node { kind := "jsx_attribute", roles := ["attribute"], start := 27, stop := 35 } [
              letter "property_identifier" [] 27, token "=" 28,
              .node { kind := "jsx_expression", start := 29, stop := 35 }
                [token "\x7b" 29, letterElement 30, token "\x7d" 34]],
            .node { kind := "jsx_attribute", roles := ["attribute"], start := 36, stop := 55 } [
              letter "property_identifier" [] 36, token "=" 37,
              .node { kind := "jsx_expression", start := 38, stop := 55 } [
                token "\x7b" 38,
                .node { kind := "function_expression", start := 39, stop := 54 } [
                  token "function" 39, letter "identifier" ["name"] 48,
                  .node { kind := "formal_parameters", roles := ["parameters"], start := 49
                          stop := 51 } [token "(" 49, token ")" 50],
                  .node { kind := "statement_block", roles := ["body"], start := 52, stop := 54 }
                    [token "\x7b" 52, token "\x7d" 53]],
                token "\x7d" 54]],
            token ">" 55],
          letterElement 56,
          .node { kind := "jsx_closing_element", roles := ["close_tag"], start := 60, stop := 64 }
            [token "</" 60, letter "identifier" ["name"] 62, token ">" 63]]]]]

/-- An element without attributes that closes itself. -/
def bareElement (tag : String) : Node := .element (some tag) [] true []

/-- The function `g` in it, whose keyword is no function. -/
def functionG : Node :=
  .function .expression (some "g") [] [.other "formal_parameters" [], .other "statement_block" []]

/-- The element `A` in it, one attribute of which holds `i` and the other `g`. -/
def elementA : Node :=
  .element (some "A") [.named "b" (.expression "<i/>" [bareElement "i"]),
    .named "c" (.expression "function g() \x7b\x7d" [functionG])] false [bareElement "B"]

/-- The arrow, which has no name, with its one parameter. -/
def arrowOfA : Node :=
  .function .arrow none [.object ["a"]]
    [.other "formal_parameters" [.other "required_parameter" [.other "object_pattern"
      [.other "shorthand_property_identifier_pattern" []]]], elementA]

theorem wellPlaced_exportedArrow : WellPlaced exportedArrow := by
  intro u hu
  constructor <;> revert u <;> decide +kernel

end ComponentLikeness.Component
