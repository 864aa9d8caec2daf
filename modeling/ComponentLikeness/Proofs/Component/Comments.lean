import ComponentLikeness.Component.Harvest
import ComponentLikeness.Proofs.Component.Placement

/-!
# Comments do not count

Comments can be left out of a syntax tree and out of a component tree. In the latter a
comment is a node without children that adds nothing to a harvest, so leaving comments
out does not change the fingerprint (`Node.fingerprintWith_withoutComments`).

Leaving comments out before the passage from one to the other is the same as leaving
them out afterwards (`nodeOf_withoutComments`). Each part of the passage looks for
nodes by a role, which no comment plays, or by a kind, which no comment is of, or takes
all named children; and what it takes from a node without looking below is not changed.
Comments must play no role for this (`SyntaxTree.CommentsApart`): a comment in the role
of a name would be read as the name.
-/

namespace ComponentLikeness

namespace Syntax.SyntaxTree

open Grammar (Source)

/-! ## Comments in syntax trees -/

/-- Whether the node is a comment. -/
def isComment (t : SyntaxTree) : Bool := t.kind = "comment"

mutual

/-- The tree without the comments below its root. What is left covers the same
stretches of the text as before. -/
def withoutComments : SyntaxTree → SyntaxTree
  | node info children => node info (dropComments children)

/-- The trees that are no comments, without the comments below them. -/
def dropComments : List SyntaxTree → List SyntaxTree
  | [] => []
  | t :: ts => if t.isComment then dropComments ts else t.withoutComments :: dropComments ts

end

/-- Comments play no role for their parents and hold nothing. -/
def CommentsApart (t : SyntaxTree) : Prop :=
  ∀ u ∈ t.nodes, u.isComment = true → u.info.roles = [] ∧ u.children = []

instance (t : SyntaxTree) : Decidable (CommentsApart t) :=
  inferInstanceAs (Decidable (∀ u ∈ t.nodes,
    u.isComment = true → u.info.roles = [] ∧ u.children = []))

section

variable {t : SyntaxTree} {ts : List SyntaxTree}

@[simp] theorem info_withoutComments (t : SyntaxTree) : t.withoutComments.info = t.info := by
  cases t
  rfl

@[simp] theorem kind_withoutComments (t : SyntaxTree) : t.withoutComments.kind = t.kind := by
  cases t
  rfl

@[simp] theorem isComment_withoutComments (t : SyntaxTree) :
    t.withoutComments.isComment = t.isComment := by
  cases t
  rfl

@[simp] theorem plays_withoutComments (role : String) (t : SyntaxTree) :
    t.withoutComments.plays role = t.plays role := by
  cases t
  rfl

@[simp] theorem text_withoutComments (source : Source) (t : SyntaxTree) :
    t.withoutComments.text source = t.text source := by
  cases t
  rfl

theorem children_withoutComments (t : SyntaxTree) :
    t.withoutComments.children = dropComments t.children := by
  cases t
  rfl

theorem dropComments_eq (ts : List SyntaxTree) :
    dropComments ts = (ts.filter fun t => !t.isComment).map withoutComments := by
  induction ts with
  | nil => rfl
  | cons t ts ih =>
    rw [dropComments, List.filter_cons, ih]
    cases t.isComment <;> rfl

/-- What is looked for by the info of nodes, and is no comment, is still there. -/
theorem filter_dropComments {p : SyntaxTree → Bool} (hp : ∀ t, p t.withoutComments = p t)
    (hcomment : ∀ t ∈ ts, t.isComment = true → p t = false) :
    (dropComments ts).filter p = (ts.filter p).map withoutComments := by
  have hcomp : (p ∘ withoutComments) = p := funext hp
  rw [dropComments_eq, List.filter_map, hcomp, List.filter_filter]
  refine congrArg _ (List.filter_congr fun t ht => ?_)
  cases hc : t.isComment with
  | true => simp [hcomment t ht hc]
  | false => simp

theorem find?_dropComments {p : SyntaxTree → Bool} (hp : ∀ t, p t.withoutComments = p t)
    (hcomment : ∀ t ∈ ts, t.isComment = true → p t = false) :
    (dropComments ts).find? p = (ts.find? p).map withoutComments := by
  rw [← List.head?_filter, ← List.head?_filter, filter_dropComments hp hcomment, List.head?_map]

theorem CommentsApart.below (h : t.CommentsApart) {c : SyntaxTree} (hc : c ∈ t.children) :
    c.CommentsApart := fun _ hu =>
  h _ (nodesOfList_children_subset t (nodes_subset_of_mem hc hu))

/-- A comment plays no role. -/
theorem CommentsApart.plays_eq_false (h : t.CommentsApart) (ht : t.isComment = true)
    (role : String) : t.plays role = false := by
  simp [plays, (h t (mem_nodes_self t) ht).1]

theorem CommentsApart.child?_withoutComments (h : t.CommentsApart) (role : String) :
    t.withoutComments.child? role = (t.child? role).map withoutComments := by
  rw [child?, children_withoutComments]
  exact find?_dropComments (plays_withoutComments role) fun c hc hcomment =>
    (h.below hc).plays_eq_false hcomment role

theorem namedChildren_withoutComments (t : SyntaxTree) :
    t.withoutComments.namedChildren =
      (t.namedChildren.filter fun c => !c.isComment).map withoutComments := by
  have hcomp : ((fun c : SyntaxTree => c.info.named) ∘ withoutComments) = fun c => c.info.named :=
    funext fun c => by rw [Function.comp_apply, info_withoutComments]
  rw [namedChildren, children_withoutComments, dropComments_eq, List.filter_map, hcomp,
    List.filter_filter, namedChildren, List.filter_filter]
  simp only [Bool.and_comm]

theorem mem_children_of_child? {role : String} {c : SyntaxTree} (h : t.child? role = some c) :
    c ∈ t.children :=
  List.mem_of_find?_eq_some h

end

end Syntax.SyntaxTree

namespace Component

open Grammar (Source)
open Syntax Text
open SyntaxTree (CommentsApart dropComments_eq)

/-! ## Comments in component trees -/

/-- Whether the node is what a comment leaves behind. -/
def Node.isComment : Node → Bool
  | .other kind children => kind = "comment" && children.isEmpty
  | _ => false

mutual

/-- The tree without the comments below its root. -/
def Node.withoutComments : Node → Node
  | .program body => .program (Node.dropComments body)
  | .exportDefault target => .exportDefault target.withoutComments
  | .function kind name params children =>
    .function kind name params (Node.dropComments children)
  | .class_ name children => .class_ name (Node.dropComments children)
  | .identifier name => .identifier name
  | .element tag attributes selfClosing children =>
    .element tag (Attribute.dropComments attributes) selfClosing (Node.dropComments children)
  | .other kind children => .other kind (Node.dropComments children)

/-- The trees that are no comments, without the comments below them. -/
def Node.dropComments : List Node → List Node
  | [] => []
  | n :: ns =>
    if n.isComment then Node.dropComments ns else n.withoutComments :: Node.dropComments ns

/-- The attribute without the comments that it holds. -/
def Attribute.withoutComments : Attribute → Attribute
  | .named name value => .named name value.withoutComments
  | .spread expression inner => .spread expression (Node.dropComments inner)

/-- The attributes without the comments that they hold. -/
def Attribute.dropComments : List Attribute → List Attribute
  | [] => []
  | a :: as => a.withoutComments :: Attribute.dropComments as

/-- The attribute value without the comments that it holds. -/
def AttributeValue.withoutComments : AttributeValue → AttributeValue
  | .flag => .flag
  | .text content => .text content
  | .expression text inner => .expression text (Node.dropComments inner)
  | .element node => .element node.withoutComments

end

mutual

theorem signature_withoutComments : ∀ n : Node, n.withoutComments.signature = n.signature
  | .program _ => rfl
  | .exportDefault _ => rfl
  | .function .. => rfl
  | .class_ .. => rfl
  | .identifier _ => rfl
  | .element tag attributes selfClosing children => by
    rw [Node.withoutComments, Node.signature, Node.signature, signatures_dropComments]
  | .other .. => rfl

theorem signatures_dropComments : ∀ as : List Attribute,
    Attribute.signatures (Attribute.dropComments as) = Attribute.signatures as
  | [] => rfl
  | a :: as => by
    rw [Attribute.dropComments, Attribute.signatures, Attribute.signatures,
      attributeSignature_withoutComments, signatures_dropComments]

theorem attributeSignature_withoutComments : ∀ a : Attribute,
    a.withoutComments.signature = a.signature
  | .spread .. => rfl
  | .named _ .flag => rfl
  | .named _ (.text _) => rfl
  | .named _ (.expression ..) => rfl
  | .named name (.element node) => by
    rw [Attribute.withoutComments, AttributeValue.withoutComments, Attribute.signature,
      Attribute.signature, signature_withoutComments]

end

/-- The harvest of a tree without comments. -/
def Harvest.withoutComments (h : Harvest) : Harvest :=
  { h with defaultExport := h.defaultExport.map Node.withoutComments }

theorem Harvest.visit_of_isComment {n : Node} (hn : n.isComment = true) (styles : List String)
    (h : Harvest) : h.visit styles n = h := by
  cases n with
  | other kind children =>
    have hnil : children = [] := by simpa using (Bool.and_eq_true_iff.mp hn).2
    rw [hnil, visit, visitAll]
  | _ => exact nomatch hn

theorem Harvest.withoutComments_addExport (h : Harvest) (target : Node) :
    (h.addExport target).withoutComments = h.withoutComments.addExport target.withoutComments := by
  simp [addExport, withoutComments]

theorem Harvest.withoutComments_addFunction (h : Harvest) (kind : FunctionKind)
    (name : Option String) (params : List Param) :
    (h.addFunction kind name params).withoutComments =
      h.withoutComments.addFunction kind name params := by
  unfold addFunction
  split <;> rfl

theorem Harvest.withoutComments_addElement (h : Harvest) (element : Node) :
    (h.addElement element).withoutComments =
      h.withoutComments.addElement element.withoutComments := by
  simp [addElement, withoutComments, signature_withoutComments]

theorem Harvest.withoutComments_addStyle (styles : List String) (h : Harvest)
    (name value : String) :
    (h.addStyle styles name value).withoutComments =
      h.withoutComments.addStyle styles name value := by
  unfold addStyle
  split <;> rfl

mutual

theorem Harvest.withoutComments_visit (styles : List String) (h : Harvest) : ∀ n : Node,
    (h.visit styles n).withoutComments = h.withoutComments.visit styles n.withoutComments
  | .program body => withoutComments_visitAll styles h body
  | .exportDefault target => by
    rw [Node.withoutComments, visit, visit, ← withoutComments_addExport]
    exact withoutComments_visit styles (h.addExport target) target
  | .function kind name params children => by
    rw [Node.withoutComments, visit, visit, ← withoutComments_addFunction]
    exact withoutComments_visitAll styles (h.addFunction kind name params) children
  | .class_ _ children => withoutComments_visitAll styles h children
  | .identifier _ => rfl
  | .element tag attributes selfClosing children => by
    rw [visit, withoutComments_visitAll, withoutComments_visitAttributes,
      withoutComments_addElement]
    rfl
  | .other _ children => withoutComments_visitAll styles h children

theorem Harvest.withoutComments_visitAll (styles : List String) (h : Harvest) :
    ∀ ns : List Node, (h.visitAll styles ns).withoutComments =
      h.withoutComments.visitAll styles (Node.dropComments ns)
  | [] => rfl
  | n :: ns => by
    rw [visitAll, Node.dropComments]
    cases hn : n.isComment with
    | true =>
      rw [visit_of_isComment hn]
      exact withoutComments_visitAll styles h ns
    | false =>
      rw [withoutComments_visitAll, withoutComments_visit]
      rfl

theorem Harvest.withoutComments_visitAttributes (styles : List String) (h : Harvest) :
    ∀ as : List Attribute, (h.visitAttributes styles as).withoutComments =
      h.withoutComments.visitAttributes styles (Attribute.dropComments as)
  | [] => rfl
  | a :: as => by
    rw [visitAttributes, withoutComments_visitAttributes, withoutComments_visitAttribute]
    rfl

theorem Harvest.withoutComments_visitAttribute (styles : List String) (h : Harvest) :
    ∀ a : Attribute, (h.visitAttribute styles a).withoutComments =
      h.withoutComments.visitAttribute styles a.withoutComments
  | .spread _ inner => withoutComments_visitAll styles h inner
  | .named _ .flag => rfl
  | .named name (.text content) => withoutComments_addStyle styles h name content
  | .named _ (.expression _ inner) => withoutComments_visitAll styles h inner
  | .named _ (.element node) => withoutComments_visit styles h node

end

theorem exportedName_withoutComments (n : Node) :
    n.withoutComments.exportedName = n.exportedName := by
  cases n with
  | function kind => cases kind <;> rfl
  | _ => rfl

theorem Harvest.exportedParams_withoutComments (h : Harvest) :
    h.withoutComments.exportedParams = h.exportedParams := by
  obtain ⟨defaultExport, declarations, styleTokens, signature⟩ := h
  rcases defaultExport with _ | target
  · rfl
  · cases target <;> rfl

theorem Harvest.fingerprint_withoutComments (scope : PropScope) (h : Harvest) :
    h.withoutComments.fingerprint scope = h.fingerprint scope := by
  have hname : (h.withoutComments.defaultExport.bind Node.exportedName) =
      h.defaultExport.bind Node.exportedName := by
    cases hexport : h.defaultExport with
    | none => simp [withoutComments, hexport]
    | some target => simp [withoutComments, hexport, exportedName_withoutComments]
  have hprops : h.withoutComments.propNames scope = h.propNames scope := by
    cases scope with
    | allFunctions => rfl
    | defaultExport => exact congrArg firstParamNames h.exportedParams_withoutComments
  rw [fingerprint, hname, hprops]
  rfl

/-- A component tree has the same fingerprint with and without comments. -/
theorem Node.fingerprintWith_withoutComments (styles : List String) (scope : PropScope)
    (n : Node) :
    n.withoutComments.fingerprintWith styles scope = n.fingerprintWith styles scope := by
  have hvisit := Harvest.withoutComments_visit styles {} n
  rw [fingerprintWith, fingerprintWith, ← Harvest.fingerprint_withoutComments scope
    (Harvest.visit styles {} n), hvisit]
  rfl

/-! ## Leaving comments out before or after the passage -/

section Passage

variable {source : Source} {t : SyntaxTree} {ts : List SyntaxTree}

variable (source) in
theorem nameText_withoutComments (h : t.CommentsApart) :
    nameText source t.withoutComments = nameText source t := by
  rw [nameText, nameText, h.child?_withoutComments, Option.map_map]
  exact congrArg (Option.map · _) (funext (SyntaxTree.text_withoutComments source))

variable (source) in
theorem tagName_withoutComments (h : t.CommentsApart) :
    tagName source t.withoutComments = tagName source t := by
  rw [tagName, tagName, h.child?_withoutComments, Option.map_map]
  simp [Function.comp_def]

variable (source) in
theorem openTag_withoutComments (h : t.CommentsApart) :
    openTag source t.withoutComments = openTag source t := by
  rw [openTag, openTag, h.child?_withoutComments]
  cases htag : t.child? "open_tag" with
  | none => rfl
  | some tag =>
    have htag' := h.below (SyntaxTree.mem_children_of_child? htag)
    simp [tagName_withoutComments source htag']

theorem propertyKey_withoutComments (key : SyntaxTree) :
    propertyKey source key.withoutComments = propertyKey source key := by
  simp [propertyKey]

theorem patternKey_withoutComments (h : t.CommentsApart) :
    patternKey source t.withoutComments = patternKey source t := by
  rw [patternKey, patternKey, h.child?_withoutComments, h.child?_withoutComments]
  cases t.child? "key" <;> cases t.child? "left" <;>
    simp [propertyKey_withoutComments, Option.filter]

theorem patternKey_of_isComment (h : t.isComment = true) : patternKey source t = none := by
  have hkind : t.kind = "comment" := by simpa [SyntaxTree.isComment] using h
  simp [patternKey, hkind]

variable (source) in
theorem patternKeys_withoutComments (h : t.CommentsApart) :
    patternKeys source t.withoutComments = patternKeys source t := by
  rw [patternKeys, patternKeys, SyntaxTree.namedChildren_withoutComments, List.filterMap_map,
    List.filterMap_filter]
  refine List.filterMap_congr fun c hc => ?_
  have hc' : c.CommentsApart := h.below (List.mem_filter.mp hc).1
  cases hcomment : c.isComment with
  | true => simp [patternKey_of_isComment hcomment]
  | false => simpa using patternKey_withoutComments hc'

theorem patternParam_withoutComments (h : t.CommentsApart) :
    patternParam source t.withoutComments = patternParam source t := by
  revert h
  refine SyntaxTree.induction_below (P := fun t => t.CommentsApart →
    patternParam source t.withoutComments = patternParam source t) ?_ t
  intro info children ih h
  have hkeys := patternKeys_withoutComments source h
  have hleft := h.child?_withoutComments "left"
  simp only [SyntaxTree.child?, SyntaxTree.children_node, SyntaxTree.withoutComments] at hleft hkeys
  rw [SyntaxTree.withoutComments, patternParam, patternParam, hkeys, leftParam_eq, leftParam_eq,
    hleft]
  have hparam : ((children.find? fun c => c.plays "left").map SyntaxTree.withoutComments).map
      (patternParam source) =
        (children.find? fun c => c.plays "left").map (patternParam source) := by
    cases hfound : children.find? fun c => c.plays "left" with
    | none => rfl
    | some left =>
      have hmem : left ∈ children := List.mem_of_find?_eq_some hfound
      exact congrArg some (ih left (SyntaxTree.mem_nodesOfList_of_mem hmem) (h.below hmem))
  rw [hparam]
  rfl

theorem listedParam_withoutComments (h : t.CommentsApart) :
    listedParam source t.withoutComments = listedParam source t := by
  rw [listedParam, listedParam, h.child?_withoutComments, patternParam_withoutComments h]
  cases hpattern : t.child? "pattern" with
  | none => simp
  | some pattern =>
    have hmem := SyntaxTree.mem_children_of_child? hpattern
    simp [patternParam_withoutComments (h.below hmem)]

variable (source) in
theorem params_withoutComments (h : t.CommentsApart) :
    params source t.withoutComments = params source t := by
  rw [params, params, h.child?_withoutComments, h.child?_withoutComments]
  cases hlist : t.child? "parameters" with
  | some list =>
    have hlist' := h.below (SyntaxTree.mem_children_of_child? hlist)
    have hlisted : (fun p : SyntaxTree => p.kind != "comment") = fun p => !p.isComment := by
      funext p
      rw [bne, SyntaxTree.isComment, beq_eq_decide]
    have hcomp : ((fun p : SyntaxTree => !p.isComment) ∘ SyntaxTree.withoutComments) =
        fun p => !p.isComment :=
      funext fun p => by simp
    show ((list.withoutComments.namedChildren.filter _).map (listedParam source)) =
      (list.namedChildren.filter _).map (listedParam source)
    rw [SyntaxTree.namedChildren_withoutComments, hlisted, List.filter_map, hcomp,
      List.filter_filter, List.map_map]
    simp only [Bool.and_self]
    refine List.map_congr_left fun p hp => listedParam_withoutComments (hlist'.below ?_)
    exact (List.mem_filter.mp (List.mem_filter.mp hp).1).1
  | none =>
    cases hsingle : t.child? "parameter" with
    | none => rfl
    | some single =>
      have hsingle' := h.below (SyntaxTree.mem_children_of_child? hsingle)
      exact congrArg (fun p => [p]) (patternParam_withoutComments hsingle')

/-- Comments may be left out of the syntax tree or of its component tree. -/
def Commutes (source : Source) (t : SyntaxTree) : Prop :=
  nodeOf source t.withoutComments = (nodeOf source t).withoutComments

variable (source) in
/-- A comment leaves a comment behind, and nothing else does. -/
theorem isComment_nodeOf (h : t.CommentsApart) : (nodeOf source t).isComment = t.isComment := by
  obtain ⟨info, children⟩ := t
  have hform := kindForm info.kind
  generalize hkind : info.kind = kind at hform
  have hne : ∀ k, kind = k → k ≠ "comment" →
      (SyntaxTree.node info children).isComment = false := fun k hk hcomment => by
    simp [SyntaxTree.isComment, SyntaxTree.kind, hkind, hk, hcomment]
  cases hform with
  | program => rw [nodeOf_program source children hkind, hne _ rfl (by decide)]; rfl
  | exportStatement =>
    rw [nodeOf_exportStatement source children hkind, hne _ rfl (by decide)]
    cases exportTarget? children <;> rfl
  | @function _ written hfunction =>
    have hcomment : kind ≠ "comment" := fun hk => by simp [hk, functionKind] at hfunction
    rw [nodeOf_function source children (hkind ▸ hfunction), hne _ rfl hcomment]
    rfl
  | class_ hclass =>
    have hcomment : kind ≠ "comment" := fun hk => by simp [hk, isClass] at hclass
    rw [nodeOf_class source children (hkind ▸ hclass), hne _ rfl hcomment]
    rfl
  | identifier => rw [nodeOf_identifier source children hkind, hne _ rfl (by decide)]; rfl
  | element => rw [nodeOf_element source children hkind, hne _ rfl (by decide)]; rfl
  | selfClosing => rw [nodeOf_selfClosing source children hkind, hne _ rfl (by decide)]; rfl
  | fragment => rw [nodeOf_fragment source children hkind, hne _ rfl (by decide)]; rfl
  | other hprogram hexport hfunction hclass hidentifier helement =>
    subst hkind
    rw [nodeOf_other source children hprogram hexport hfunction hclass hidentifier helement]
    cases hcomment : (SyntaxTree.node info children).isComment with
    | true =>
      have hnil : children = [] := (h _ (SyntaxTree.mem_nodes_self _) hcomment).2
      have hkind : info.kind = "comment" := of_decide_eq_true hcomment
      rw [hnil, hkind]
      rfl
    | false =>
      have hkind : info.kind ≠ "comment" := of_decide_eq_false hcomment
      simp [Node.isComment, hkind]

theorem nodesBut_dropComments (roles : List String) (hts : ∀ c ∈ ts, c.CommentsApart)
    (hnodes : ∀ c ∈ ts, Commutes source c) :
    nodesBut source roles (SyntaxTree.dropComments ts) =
      Node.dropComments (nodesBut source roles ts) := by
  induction ts generalizing roles with
  | nil => rfl
  | cons c cs ih =>
    have hc := hts c List.mem_cons_self
    have ih' := fun roles => ih roles (fun d hd => hts d (List.mem_cons_of_mem c hd))
      fun d hd => hnodes d (List.mem_cons_of_mem c hd)
    have hcomment := isComment_nodeOf source hc
    rw [SyntaxTree.dropComments, nodesBut]
    cases hkind : c.isComment with
    | true =>
      -- it plays none of the roles, so it is among the nodes if it is named
      have hnone : (roles.find? fun role => c.plays role) = none :=
        List.find?_eq_none.mpr fun role _ => by simp [hc.plays_eq_false hkind role]
      rw [hnone, if_pos rfl, ih']
      cases c.info.named with
      | true => rw [if_pos rfl, Node.dropComments, hcomment, hkind, if_pos rfl]
      | false => rfl
    | false =>
      rw [if_neg (by simp), nodesBut]
      simp only [SyntaxTree.plays_withoutComments, SyntaxTree.info_withoutComments]
      cases roles.find? fun role => c.plays role with
      | some role => exact ih' _
      | none =>
        cases c.info.named with
        | true =>
          simp only [if_true]
          rw [Node.dropComments, hcomment, hkind, ih', hnodes c List.mem_cons_self]
          rfl
        | false => exact ih' _

/-- All named children. -/
theorem children_dropComments (h : t.CommentsApart) (hnodes : ∀ c ∈ t.children, Commutes source c) :
    t.withoutComments.namedChildren.map (nodeOf source) =
      Node.dropComments (t.namedChildren.map (nodeOf source)) := by
  have hnil := nodesBut_dropComments [] (fun c hc => h.below hc) hnodes
  rw [nodesBut_nil, nodesBut_nil, ← SyntaxTree.children_withoutComments] at hnil
  exact hnil

theorem valueOf_withoutComments (h : t.CommentsApart) (ht : Commutes source t)
    (hnodes : ∀ c ∈ t.children, Commutes source c) (hcomment : t.isComment = false) :
    valueOf source t.withoutComments = (valueOf source t).withoutComments := by
  have hnode : Node.dropComments [nodeOf source t] = [(nodeOf source t).withoutComments] := by
    simp [Node.dropComments, isComment_nodeOf source h, hcomment]
  unfold valueOf
  rw [SyntaxTree.kind_withoutComments, SyntaxTree.text_withoutComments,
    children_dropComments h hnodes, ht]
  split
  · rfl
  split
  · rfl
  split
  · rfl
  · rw [AttributeValue.withoutComments, hnode]

theorem isPart_withoutComments (t : SyntaxTree) : isPart t.withoutComments = isPart t := by
  simp [isPart]

theorem isPart_of_isComment (h : t.isComment = true) : isPart t = false := by
  have hkind : t.kind = "comment" := of_decide_eq_true h
  simp [isPart, hkind]

theorem attributeOf_withoutComments (h : t.CommentsApart)
    (hbelow : ∀ u ∈ SyntaxTree.nodesOfList t.children, Commutes source u) :
    attributeOf source t.withoutComments = (attributeOf source t).withoutComments := by
  have hchild : ∀ c ∈ t.children, Commutes source c := fun c hc =>
    hbelow c (SyntaxTree.mem_nodesOfList_of_mem hc)
  unfold attributeOf
  rw [SyntaxTree.kind_withoutComments]
  split
  · have hcomment : ∀ c ∈ t.children, c.isComment = true → isPart c = false :=
      fun c _ hc => isPart_of_isComment hc
    have hparts := SyntaxTree.filter_dropComments isPart_withoutComments hcomment
    rw [SyntaxTree.children_withoutComments, hparts, List.getElem?_map, List.getElem?_map,
      Option.map_map, Option.map_map, Attribute.withoutComments]
    have hname : ((fun part => SyntaxTree.text source part) ∘ SyntaxTree.withoutComments) =
        fun part => SyntaxTree.text source part :=
      funext (SyntaxTree.text_withoutComments source)
    rw [hname]
    cases hvalue : (t.children.filter isPart)[1]? with
    | none => rfl
    | some part =>
      obtain ⟨hmem, hpart⟩ := List.mem_filter.mp (List.mem_of_getElem? hvalue)
      have hcomment : part.isComment = false := by
        cases hc : part.isComment with
        | true => rw [isPart_of_isComment hc] at hpart; exact nomatch hpart
        | false => rfl
      have hbelow' : ∀ c ∈ part.children, Commutes source c := fun c hc =>
        hbelow c (SyntaxTree.nodes_subset_of_mem hmem
          (SyntaxTree.nodesOfList_children_subset part (SyntaxTree.mem_nodesOfList_of_mem hc)))
      have hpart' := valueOf_withoutComments (h.below hmem) (hchild part hmem) hbelow' hcomment
      exact congrArg (Attribute.named _) hpart'
  · rw [SyntaxTree.text_withoutComments, children_dropComments h hchild]
    rfl

theorem dropComments_eq_map (as : List Attribute) :
    Attribute.dropComments as = as.map Attribute.withoutComments := by
  induction as with
  | nil => rfl
  | cons a as ih => rw [Attribute.dropComments, List.map_cons, ih]

theorem attributesOf_dropComments (h : t.CommentsApart)
    (hbelow : ∀ u ∈ SyntaxTree.nodesOfList t.children, Commutes source u) :
    attributesOf source (SyntaxTree.dropComments t.children) =
      Attribute.dropComments (attributesOf source t.children) := by
  have hattribute : ∀ c : SyntaxTree, isAttributeNode c.withoutComments = isAttributeNode c :=
    fun c => by simp [isAttributeNode]
  have hcomment : ∀ c ∈ t.children, c.isComment = true → isAttributeNode c = false := by
    intro c _ hc
    have hkind : c.kind = "comment" := of_decide_eq_true hc
    simp [isAttributeNode, hkind]
  rw [attributesOf_eq, attributesOf_eq, SyntaxTree.filter_dropComments hattribute hcomment,
    List.map_map, dropComments_eq_map, List.map_map]
  refine List.map_congr_left fun c hc => attributeOf_withoutComments ?_ fun u hu => ?_
  · exact h.below (List.mem_filter.mp hc).1
  · exact hbelow u (SyntaxTree.nodes_subset_of_mem (List.mem_filter.mp hc).1
      (SyntaxTree.nodesOfList_children_subset c hu))

theorem openAttributes_dropComments (h : t.CommentsApart)
    (hbelow : ∀ u ∈ SyntaxTree.nodesOfList t.children, Commutes source u) :
    openAttributes source (SyntaxTree.dropComments t.children) =
      Attribute.dropComments (openAttributes source t.children) := by
  have htag := h.child?_withoutComments "open_tag"
  rw [SyntaxTree.child?, SyntaxTree.children_withoutComments] at htag
  rw [openAttributes_eq, openAttributes_eq, htag]
  cases hopen : t.child? "open_tag" with
  | none =>
    rw [SyntaxTree.child?] at hopen
    rw [hopen]
    rfl
  | some tag =>
    have hmem := SyntaxTree.mem_children_of_child? hopen
    have hattributes := attributesOf_dropComments (h.below hmem) fun u hu =>
      hbelow u (SyntaxTree.nodes_subset_of_mem hmem
        (SyntaxTree.nodesOfList_children_subset tag hu))
    rw [SyntaxTree.child?] at hopen
    rw [hopen, Option.map_some, Option.map_some, Option.map_some, Option.getD_some,
      Option.getD_some, SyntaxTree.children_withoutComments, hattributes]

theorem exportTarget?_dropComments (h : t.CommentsApart) :
    exportTarget? (SyntaxTree.dropComments t.children) =
      (exportTarget? t.children).map SyntaxTree.withoutComments := by
  have hdefault : ((SyntaxTree.dropComments t.children).any fun c => c.kind = "default") =
      t.children.any fun c => c.kind = "default" := by
    rw [← List.isSome_find?, ← List.isSome_find?, SyntaxTree.find?_dropComments, Option.isSome_map]
    · simp
    · intro c _ hc
      have hkind : c.kind = "comment" := of_decide_eq_true hc
      simp [hkind]
  have hrole : ∀ role, (SyntaxTree.dropComments t.children).find? (fun c => c.plays role) =
      (t.children.find? fun c => c.plays role).map SyntaxTree.withoutComments := by
    intro role
    rw [← SyntaxTree.children_withoutComments]
    exact h.child?_withoutComments role
  rw [exportTarget?_eq, exportTarget?_eq, hdefault, hrole, hrole, ← Option.map_or]
  split <;> rfl

theorem declared_withoutComments (n : Node) :
    declared n.withoutComments = (declared n).withoutComments := by
  cases n with
  | function kind => cases kind <;> rfl
  | _ => rfl

/-- Leaving the comments out of a syntax tree leaves them out of its component tree,
and changes nothing else in it. -/
theorem nodeOf_withoutComments (source : Source) (t : SyntaxTree) :
    t.CommentsApart → Commutes source t := by
  refine SyntaxTree.induction_below (P := fun t => t.CommentsApart → Commutes source t) ?_ t
  intro info children ih h
  have hbelow : ∀ u ∈ SyntaxTree.nodesOfList children, Commutes source u := fun u hu =>
    ih u hu fun v hv => h v (List.mem_cons_of_mem _ (SyntaxTree.nodes_subset_nodesOfList hu hv))
  have hapart : ∀ c ∈ children, c.CommentsApart := fun c hc => h.below hc
  have hchild : ∀ c ∈ children, Commutes source c := fun c hc =>
    hbelow c (SyntaxTree.mem_nodesOfList_of_mem hc)
  have hnodes := fun roles => nodesBut_dropComments roles hapart hchild
  have hname := nameText_withoutComments source h
  have hform := kindForm info.kind
  generalize hkind : info.kind = kind at hform
  rw [Commutes, SyntaxTree.withoutComments]
  rw [SyntaxTree.withoutComments] at hname
  cases hform with
  | program =>
    rw [nodeOf_program source _ hkind, nodeOf_program source _ hkind, hnodes]
    rfl
  | exportStatement =>
    have htarget := exportTarget?_dropComments h
    rw [SyntaxTree.children_node] at htarget
    rw [nodeOf_exportStatement source _ hkind, nodeOf_exportStatement source _ hkind, htarget,
      hnodes]
    cases hexport : exportTarget? children with
    | none => rfl
    | some target =>
      have hcommutes := hchild target (mem_of_exportTarget? hexport)
      rw [Commutes] at hcommutes
      simp only [Option.map_some, Node.withoutComments]
      rw [hcommutes, declared_withoutComments]
  | function hfunction =>
    have hparams := params_withoutComments source h
    rw [SyntaxTree.withoutComments] at hparams
    rw [nodeOf_function source _ (hkind ▸ hfunction), nodeOf_function source _ (hkind ▸ hfunction),
      hname, hparams, hnodes]
    rfl
  | class_ hclass =>
    rw [nodeOf_class source _ (hkind ▸ hclass), nodeOf_class source _ (hkind ▸ hclass), hname,
      hnodes]
    rfl
  | identifier =>
    rw [nodeOf_identifier source _ hkind, nodeOf_identifier source _ hkind]
    rfl
  | element =>
    have htag := openTag_withoutComments source h
    have hattributes := openAttributes_dropComments h hbelow
    rw [SyntaxTree.withoutComments] at htag
    rw [SyntaxTree.children_node] at hattributes
    rw [nodeOf_element source _ hkind, nodeOf_element source _ hkind, htag, hattributes, hnodes]
    rfl
  | selfClosing =>
    have htag := tagName_withoutComments source h
    have hattributes := attributesOf_dropComments h hbelow
    rw [SyntaxTree.withoutComments] at htag
    rw [SyntaxTree.children_node] at hattributes
    rw [nodeOf_selfClosing source _ hkind, nodeOf_selfClosing source _ hkind, htag, hattributes]
    rfl
  | fragment =>
    rw [nodeOf_fragment source _ hkind, nodeOf_fragment source _ hkind, hnodes]
    rfl
  | other hprogram hexport hfunction hclass hidentifier helement =>
    subst hkind
    rw [nodeOf_other source _ hprogram hexport hfunction hclass hidentifier helement,
      nodeOf_other source _ hprogram hexport hfunction hclass hidentifier helement, hnodes]
    rfl

end Passage

/-- Comments never change a fingerprint, wherever they stand: a syntax tree without
its comments has the same name, props, style tokens and signature, for any style
attributes and any scope of props. -/
theorem fingerprint_of_commentless (source : Source) {t : SyntaxTree} (h : t.CommentsApart)
    (styles : List String) (scope : PropScope) :
    (nodeOf source t.withoutComments).fingerprintWith styles scope =
      (nodeOf source t).fingerprintWith styles scope := by
  have hcommutes : Commutes source t := nodeOf_withoutComments source t h
  rw [hcommutes, Node.fingerprintWith_withoutComments]

/-- A comment of five characters. -/
def shortComment (start : Nat) : SyntaxTree :=
  .node { kind := "comment", start, stop := start + 5 } []

/-- A function with comments in its export, in front of its parameter, between the keys
of that and around the name of an attribute. -/
def commentedText : String :=
  "export/*a*/default function F(/*b*/\x7bx,/*c*/y\x7d)\x7breturn<i/*d*/k=/*e*/\"z\"/>\x7d"

/-- The tree of the text with comments. -/
def commentedFunction : SyntaxTree :=
  .node { kind := "program", stop := 73 } [
    .node { kind := "export_statement", stop := 73 } [
      token "export" 0, shortComment 6, token "default" 11,
      .node { kind := "function_declaration", roles := ["declaration"], start := 19, stop := 73 } [
        token "function" 19, letter "identifier" ["name"] 28,
        .node { kind := "formal_parameters", roles := ["parameters"], start := 29, stop := 46 } [
          token "(" 29, shortComment 30,
          .node { kind := "required_parameter", start := 35, stop := 45 } [
            .node { kind := "object_pattern", roles := ["pattern"], start := 35, stop := 45 } [
              token "\x7b" 35, letter "shorthand_property_identifier_pattern" [] 36,
              token "," 37, shortComment 38,
              letter "shorthand_property_identifier_pattern" [] 43, token "\x7d" 44]],
          token ")" 45],
        .node { kind := "statement_block", roles := ["body"], start := 46, stop := 73 } [
          token "\x7b" 46,
          .node { kind := "return_statement", start := 47, stop := 72 } [
            token "return" 47,
            .node { kind := "jsx_self_closing_element", start := 53, stop := 72 } [
              token "<" 53, letter "identifier" ["name"] 54, shortComment 55,
              .node { kind := "jsx_attribute", roles := ["attribute"], start := 60, stop := 70 } [
                letter "property_identifier" [] 60, token "=" 61, shortComment 62,
                .node { kind := "string", start := 67, stop := 70 } [token "\"" 67, token "\"" 69]],
              token "/>" 70]],
          token "\x7d" 72]]]]

theorem fingerprint_commentedFunction :
    commentedFunction.CommentsApart ∧
      (nodeOf (.ofString commentedText) commentedFunction.withoutComments).fingerprintWith
          ["k"] .defaultExport =
        { name := "F", props := .ofList ["x", "y"], styleTokens := .ofList ["z"],
          signature := "<i k=\"z\" />" } := by
  have hapart : commentedFunction.CommentsApart := by decide +kernel
  refine ⟨hapart, ?_⟩
  rw [fingerprint_of_commentless _ hapart]
  decide +kernel

end Component

end ComponentLikeness
