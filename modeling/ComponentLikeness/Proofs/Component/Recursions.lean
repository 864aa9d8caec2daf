import ComponentLikeness.Proofs.Component.Nesting
import ComponentLikeness.Proofs.Component.Placement

/-!
# Recursions over checked trees

A tree that the walk for nodes beyond a limit has passed is safe to recurse over:
no recursion behind that walk nests its calls deeper than the limit
(`recursions_within_limit`). Each is written here with its calls made through an
argument, so that they can be counted: the passage to component trees (`readBody`),
the gathering of what fingerprints are made of (`visitBody`) and the making of
signatures (`signatureBody`). The first goes down a syntax tree and is bounded by its
height; the other two go down its component tree, which is nested no deeper.
-/

namespace ComponentLikeness.Component

open Grammar (Source)
open Syntax SyntaxTree Text

/-! ## Reading nodes and patterns -/

/-- What the passage to component trees calls itself for. -/
inductive Reading where
  | node (t : SyntaxTree)
  /-- The pattern of a parameter. -/
  | pattern (t : SyntaxTree)

namespace Reading

/-- What comes of a reading. -/
def Result : Reading → Type
  | node _ => Node
  | pattern _ => Param

def tree : Reading → SyntaxTree
  | node t => t
  | pattern t => t

def result (source : Source) : ∀ r : Reading, r.Result
  | node t => nodeOf source t
  | pattern t => patternParam source t

end Reading

section Bodies

variable (source : Source) (call : ∀ r : Reading, Option r.Result)

-- What follows are the parts of the passage, each up to where it reads another node or
-- pattern. None of them recurses by itself: it asks `call` instead.

def callNode (t : SyntaxTree) : Option Node := call (.node t)

def callPattern (t : SyntaxTree) : Option Param := call (.pattern t)

def readAll (ts : List SyntaxTree) : Option (List Node) := ts.mapM (callNode call)

def readValue (part : SyntaxTree) : Option AttributeValue :=
  if part.kind = "string" then some (.text (stripQuotes (part.text source)))
  else if part.kind = "jsx_expression" then
    (readAll call part.namedChildren).map (.expression (expressionText (part.text source)))
  else
    (callNode call part).map fun n =>
      if isElement part.kind then .element n
      else .expression (collapseBlanks (part.text source)) [n]

def readAttribute (t : SyntaxTree) : Option Attribute :=
  if t.kind = "jsx_attribute" then
    let parts := t.children.filter isPart
    let name := (parts[0]?.map fun part => part.text source).getD ""
    match parts[1]? with
    | some part => (readValue source call part).map (.named name)
    | none => some (.named name .flag)
  else
    (readAll call t.namedChildren).map (.spread (expressionText (t.text source)))

def readAttributes (tag : SyntaxTree) : Option (List Attribute) :=
  (tag.children.filter isAttributeNode).mapM (readAttribute source call)

def readOpenAttributes (children : List SyntaxTree) : Option (List Attribute) :=
  match children.find? fun t => t.plays "open_tag" with
  | some tag => readAttributes source call tag
  | none => some []

def readParam (param : SyntaxTree) : Option Param :=
  if param.kind = "required_parameter" || param.kind = "optional_parameter" then
    match param.child? "pattern" with
    | some pattern => callPattern call pattern
    | none => some .unsupported
  else callPattern call param

def readParams (function : SyntaxTree) : Option (List Param) :=
  match function.child? "parameters" with
  | some list =>
    (list.namedChildren.filter fun param => param.kind != "comment").mapM (readParam call)
  | none =>
    match function.child? "parameter" with
    | some single => (callPattern call single).map fun p => [p]
    | none => some []

def readNode : SyntaxTree → Option Node
  | .node info children =>
    let t := SyntaxTree.node info children
    let childrenWithout (roles : List String) := readAll call (childrenBut roles children)
    if info.kind = "program" then (childrenWithout []).map .program
    else if info.kind = "export_statement" then
      match exportTarget? children with
      | some target => (callNode call target).map fun n => .exportDefault (declared n)
      | none => (childrenWithout []).map (.other info.kind)
    else
      match functionKind info.kind with
      | some kind =>
        (readParams call t).bind fun params =>
          (childrenWithout ["name"]).map
            (.function kind (if kind = .arrow then none else nameText source t) params)
      | none =>
        if isClass info.kind then (childrenWithout ["name"]).map (.class_ (nameText source t))
        else if info.kind = "identifier" then some (.identifier (t.text source))
        else if info.kind = "jsx_element" then
          (readOpenAttributes source call children).bind fun attributes =>
            (childrenWithout ["open_tag", "close_tag"]).map
              (.element (openTag source t) attributes false)
        else if info.kind = "jsx_self_closing_element" then
          (readAttributes source call t).map fun attributes =>
            .element (nonEmpty (tagName source t)) attributes true []
        else if info.kind = "jsx_fragment" then (childrenWithout []).map (.element none [] false)
        else (childrenWithout []).map (.other info.kind)

def readPattern (t : SyntaxTree) : Option Param :=
  if t.kind = "identifier" then some (.identifier (t.text source))
  else if t.kind = "object_pattern" then some (.object (patternKeys source t))
  else if t.kind = "assignment_pattern" then
    match t.child? "left" with
    | some left => callPattern call left
    | none => some .unsupported
  else some .unsupported

/-- The passage to component trees, its calls being made through an argument. -/
def readBody : ∀ r : Reading, Option r.Result
  | .node t => readNode source call t
  | .pattern t => readPattern source call t

end Bodies

/-! ### The readings that are asked for -/

section Answered

variable {source : Source} {call : ∀ r : Reading, Option r.Result} {n : Nat}
  (hcall : ∀ r : Reading, r.tree.height < n → call r = some (r.result source))

include hcall

theorem callNode_eq {t : SyntaxTree} (ht : t.height < n) :
    callNode call t = some (nodeOf source t) :=
  hcall (.node t) ht

theorem callPattern_eq {t : SyntaxTree} (ht : t.height < n) :
    callPattern call t = some (patternParam source t) :=
  hcall (.pattern t) ht

theorem readAll_eq {ts : List SyntaxTree} (hts : ∀ u ∈ ts, u.height < n) :
    readAll call ts = some (ts.map (nodeOf source)) :=
  mapM_eq_some_map fun u hu => callNode_eq hcall (hts u hu)

theorem readValue_eq {part : SyntaxTree} (hpart : part.height < n) :
    readValue source call part = some (valueOf source part) := by
  have hinner : readAll call part.namedChildren = some (part.namedChildren.map (nodeOf source)) :=
    readAll_eq hcall fun u hu => Nat.lt_trans (height_lt_of_mem_namedChildren hu) hpart
  unfold readValue valueOf
  rw [hinner, callNode_eq hcall hpart]
  by_cases hstring : part.kind = "string"
  · rw [if_pos hstring, if_pos hstring]
  · rw [if_neg hstring, if_neg hstring]
    by_cases hexpression : part.kind = "jsx_expression"
    · rw [if_pos hexpression, if_pos hexpression]
      rfl
    · rw [if_neg hexpression, if_neg hexpression]
      rfl

theorem readAttribute_eq {t : SyntaxTree} (ht : t.height < n) :
    readAttribute source call t = some (attributeOf source t) := by
  have hinner : readAll call t.namedChildren = some (t.namedChildren.map (nodeOf source)) :=
    readAll_eq hcall fun u hu => Nat.lt_trans (height_lt_of_mem_namedChildren hu) ht
  unfold readAttribute attributeOf
  split
  · cases hpart : (t.children.filter isPart)[1]? with
    | none => simp only [hpart]; rfl
    | some part =>
      have hmem : part ∈ t.children := (List.mem_filter.mp (List.mem_of_getElem? hpart)).1
      have hlt := Nat.lt_trans (height_lt_of_mem_children hmem) ht
      simp only [hpart, readValue_eq hcall hlt]
      rfl
  · rw [hinner]
    rfl

theorem readAttributes_eq {tag : SyntaxTree} (htag : tag.height ≤ n) :
    readAttributes source call tag = some (attributesOf source tag.children) := by
  rw [readAttributes, attributesOf_eq]
  apply mapM_eq_some_map
  intro t ht
  have hmem : t ∈ tag.children := (List.mem_filter.mp ht).1
  exact readAttribute_eq hcall (Nat.lt_of_lt_of_le (height_lt_of_mem_children hmem) htag)

theorem readParam_eq {param : SyntaxTree} (hparam : param.height < n) :
    readParam call param = some (listedParam source param) := by
  unfold readParam listedParam
  split
  · cases hpattern : param.child? "pattern" with
    | none => rfl
    | some pattern =>
      exact callPattern_eq hcall (Nat.lt_trans (height_lt_of_child? hpattern) hparam)
  · exact callPattern_eq hcall hparam

theorem readParams_eq {function : SyntaxTree} (hfunction : function.height ≤ n) :
    readParams call function = some (params source function) := by
  unfold readParams params
  cases hlist : function.child? "parameters" with
  | some list =>
    apply mapM_eq_some_map
    intro param hparam
    have hlist := height_lt_of_child? hlist
    have hlt := height_lt_of_mem_namedChildren (List.mem_filter.mp hparam).1
    exact readParam_eq hcall (by omega)
  | none =>
    cases hsingle : function.child? "parameter" with
    | some single =>
      have hlt := Nat.lt_of_lt_of_le (height_lt_of_child? hsingle) hfunction
      simp only [callPattern_eq hcall hlt]
      rfl
    | none => rfl

theorem readPattern_eq {t : SyntaxTree} (ht : t.height ≤ n) :
    readPattern source call t = some (patternParam source t) := by
  obtain ⟨info, children⟩ := t
  unfold readPattern
  rw [patternParam, leftParam_eq]
  show (if info.kind = "identifier" then _ else if info.kind = "object_pattern" then _
    else if info.kind = "assignment_pattern" then _ else _) = _
  split
  · rfl
  split
  · rfl
  split
  · cases hleft : children.find? fun t => t.plays "left" with
    | none => simp [SyntaxTree.child?, hleft]
    | some left =>
      have hlt := height_lt_of_child? (t := .node info children) hleft
      simp [SyntaxTree.child?, hleft, callPattern_eq hcall (Nat.lt_of_lt_of_le hlt ht)]
  · rfl

end Answered

section Cases

variable {source : Source} {call : ∀ r : Reading, Option r.Result} {info : NodeInfo}
  {children : List SyntaxTree}
  (hcall : ∀ r : Reading, r.tree.height < (SyntaxTree.node info children).height →
    call r = some (r.result source))

include hcall

theorem readChildrenBut_eq (roles : List String) :
    readAll call (childrenBut roles children) = some (nodesBut source roles children) := by
  rw [nodesBut_eq]
  apply readAll_eq hcall
  intro u hu
  exact height_lt_of_mem_children (t := .node info children) (childrenBut_subset roles children hu)

theorem readOpenAttributes_eq :
    readOpenAttributes source call children = some (openAttributes source children) := by
  rw [readOpenAttributes, openAttributes_eq]
  cases hopen : children.find? fun t => t.plays "open_tag" with
  | none => rfl
  | some tag =>
    have hlt := height_lt_of_child? (t := .node info children) hopen
    exact readAttributes_eq hcall (Nat.le_of_lt hlt)

theorem readNode_exportStatement (hkind : info.kind = "export_statement") :
    readNode source call (.node info children) = some (nodeOf source (.node info children)) := by
  rw [nodeOf_exportStatement source children hkind]
  cases htarget : exportTarget? children with
  | none => simp [readNode, hkind, htarget, readChildrenBut_eq hcall]
  | some target =>
    have hlt := height_lt_of_mem_children (t := .node info children)
      (mem_of_exportTarget? htarget)
    simp [readNode, hkind, htarget, callNode_eq hcall hlt]

theorem readNode_eq :
    readNode source call (.node info children) = some (nodeOf source (.node info children)) := by
  have hchildren := readChildrenBut_eq hcall
  -- one case for each rule, on both sides the one for the kind
  have hform := kindForm info.kind
  generalize hkind : info.kind = kind at hform
  cases hform with
  | program =>
    rw [nodeOf_program source children hkind]
    simp [readNode, hkind, hchildren]
  | exportStatement => exact readNode_exportStatement hcall hkind
  | function hfunction =>
    subst hkind
    have hprogram : info.kind ≠ "program" := fun hk => by simp [hk, functionKind] at hfunction
    have hexport : info.kind ≠ "export_statement" := fun hk => by
      simp [hk, functionKind] at hfunction
    rw [nodeOf_function source children hfunction]
    simp [readNode, hprogram, hexport, hfunction, hchildren, readParams_eq hcall (Nat.le_refl _)]
  | class_ hclass =>
    rw [nodeOf_class source children (hkind ▸ hclass)]
    simp only [isClass, List.contains_eq_mem, List.mem_cons, List.not_mem_nil, or_false,
      decide_eq_true_eq] at hclass
    rcases hclass with rfl | rfl | rfl <;> simp [readNode, hkind, functionKind, isClass, hchildren]
  | identifier =>
    rw [nodeOf_identifier source children hkind]
    simp [readNode, hkind, functionKind, isClass]
  | element =>
    rw [nodeOf_element source children hkind]
    simp [readNode, hkind, functionKind, isClass, hchildren, readOpenAttributes_eq hcall]
  | selfClosing =>
    rw [nodeOf_selfClosing source children hkind]
    simp [readNode, hkind, functionKind, isClass, readAttributes_eq hcall (Nat.le_refl _)]
  | fragment =>
    rw [nodeOf_fragment source children hkind]
    simp [readNode, hkind, functionKind, isClass, hchildren]
  | other hprogram hexport hfunction hclass hidentifier helement =>
    subst hkind
    rw [nodeOf_other source children hprogram hexport hfunction hclass hidentifier helement]
    simp only [isElement, List.contains_eq_mem, List.mem_cons, List.not_mem_nil, or_false,
      decide_eq_false_iff_not, not_or] at helement
    simp [readNode, hprogram, hexport, hfunction, hclass, hidentifier, helement, hchildren]

end Cases

theorem unfolds_readBody (source : Source) :
    Unfolds (readBody source) (Reading.result source) fun r => r.tree.height := by
  intro call r hcall
  cases r with
  | node t =>
    obtain ⟨info, children⟩ := t
    exact readNode_eq hcall
  | pattern t => exact readPattern_eq hcall (Nat.le_refl _)

/-! ## Gathering -/

section Gathering

variable (styles : List String) (call : Harvest × Node → Option Harvest)

def visitAllBody (h : Harvest) (ns : List Node) : Option Harvest :=
  ns.foldlM (fun h n => call (h, n)) h

def visitAttributeBody (h : Harvest) : Attribute → Option Harvest
  | .spread _ inner => visitAllBody call h inner
  | .named _ .flag => some h
  | .named name (.text content) => some (h.addStyle styles name content)
  | .named _ (.expression _ inner) => visitAllBody call h inner
  | .named _ (.element inner) => call (h, inner)

/-- The gathering from a node, its calls being made through an argument. -/
def visitBody : Harvest × Node → Option Harvest
  | (h, .program body) => visitAllBody call h body
  | (h, .exportDefault target) => call (h.addExport target, target)
  | (h, .function kind name params children) =>
    visitAllBody call (h.addFunction kind name params) children
  | (h, .class_ _ children) => visitAllBody call h children
  | (h, .identifier _) => some h
  | (h, .element tag attributes selfClosing children) =>
    (attributes.foldlM (visitAttributeBody styles call)
      (h.addElement (.element tag attributes selfClosing children))).bind fun h =>
        visitAllBody call h children
  | (h, .other _ children) => visitAllBody call h children

end Gathering

theorem visitAll_eq_foldl (styles : List String) (h : Harvest) (ns : List Node) :
    h.visitAll styles ns = ns.foldl (Harvest.visit styles) h := by
  induction ns generalizing h with
  | nil => rfl
  | cons n ns ih => rw [Harvest.visitAll, ih, List.foldl_cons]

theorem visitAttributes_eq_foldl (styles : List String) (h : Harvest) (as : List Attribute) :
    h.visitAttributes styles as = as.foldl (Harvest.visitAttribute styles) h := by
  induction as generalizing h with
  | nil => rfl
  | cons a as ih => rw [Harvest.visitAttributes, ih, List.foldl_cons]

section Answered

variable {styles : List String} {call : Harvest × Node → Option Harvest} {n : Nat}
  (hcall : ∀ x : Harvest × Node, x.2.depth < n → call x = some (x.1.visit styles x.2))

include hcall

theorem visitAllBody_eq {ns : List Node} (hns : Node.depthOfList ns ≤ n) (h : Harvest) :
    visitAllBody call h ns = some (h.visitAll styles ns) := by
  rw [visitAll_eq_foldl]
  apply foldlM_eq_some_foldl
  intro h m hm
  exact hcall (h, m) (Node.depthOfList_le_iff.mp hns m hm)

theorem visitAttributeBody_eq {a : Attribute} (ha : a.depth ≤ n) (h : Harvest) :
    visitAttributeBody styles call h a = some (h.visitAttribute styles a) := by
  cases a with
  | spread expression inner => exact visitAllBody_eq hcall ha h
  | named name value =>
    cases value with
    | flag => rfl
    | text content => rfl
    | expression text inner => exact visitAllBody_eq hcall ha h
    | element inner => exact hcall (h, inner) ha

theorem visitAttributesBody_eq {as : List Attribute} (has : Attribute.depthOfList as ≤ n)
    (h : Harvest) :
    as.foldlM (visitAttributeBody styles call) h = some (h.visitAttributes styles as) := by
  rw [visitAttributes_eq_foldl]
  apply foldlM_eq_some_foldl
  intro h a ha
  exact visitAttributeBody_eq hcall (Attribute.depthOfList_le_iff.mp has a ha) h

end Answered

theorem unfolds_visitBody (styles : List String) :
    Unfolds (visitBody styles) (fun x => x.1.visit styles x.2) fun x => x.2.depth := by
  intro call x hcall
  obtain ⟨h, n⟩ := x
  cases n with
  | program body => exact visitAllBody_eq hcall (Nat.le_refl _) h
  | exportDefault target => exact hcall (h.addExport target, target) (Nat.lt_succ_self _)
  | function kind name params children => exact visitAllBody_eq hcall (Nat.le_refl _) _
  | class_ name children => exact visitAllBody_eq hcall (Nat.le_refl _) h
  | identifier name => rfl
  | element tag attributes selfClosing children =>
    rw [visitBody, visitAttributesBody_eq hcall (Nat.le_max_left _ _)]
    exact visitAllBody_eq hcall (Nat.le_max_right _ _) _
  | other kind children => exact visitAllBody_eq hcall (Nat.le_refl _) h

/-! ## Signatures -/

def attributeSignatureBody (call : Node → Option (Option String)) : Attribute → Option String
  | .spread expression _ => some ("\x7b" ++ expression ++ "\x7d")
  | .named name .flag => some name
  | .named name (.text content) => some (name ++ "=\"" ++ content ++ "\"")
  | .named name (.expression text _) => some (name ++ "=\x7b" ++ text ++ "\x7d")
  | .named name (.element inner) =>
    (call inner).map fun signature => name ++ "=\x7b" ++ signature.getD "" ++ "\x7d"

/-- The signature of a node, its calls being made through an argument. -/
def signatureBody (call : Node → Option (Option String)) : Node → Option (Option String)
  | .element tag attributes selfClosing _ =>
    (attributes.mapM (attributeSignatureBody call)).map fun parts =>
      some ("<" ++ tag.getD "" ++ parts.foldr (fun part rest => " " ++ part ++ rest) "" ++
        (if selfClosing then " />" else ">"))
  | _ => some none

theorem signatures_eq_foldr (as : List Attribute) :
    Attribute.signatures as =
      (as.map Attribute.signature).foldr (fun part rest => " " ++ part ++ rest) "" := by
  induction as with
  | nil => rfl
  | cons a as ih => rw [Attribute.signatures, ih, List.map_cons, List.foldr_cons]

theorem attributeSignatureBody_eq {call : Node → Option (Option String)} {n : Nat}
    (hcall : ∀ m : Node, m.depth < n → call m = some m.signature) {a : Attribute}
    (ha : a.depth ≤ n) : attributeSignatureBody call a = some a.signature := by
  cases a with
  | spread expression inner => rfl
  | named name value =>
    cases value with
    | element inner =>
      rw [attributeSignatureBody, hcall inner ha]
      rfl
    | _ => rfl

theorem unfolds_signatureBody : Unfolds signatureBody Node.signature Node.depth := by
  intro call n hcall
  cases n with
  | element tag attributes selfClosing children =>
    have hparts : attributes.mapM (attributeSignatureBody call) =
        some (attributes.map Attribute.signature) := by
      apply mapM_eq_some_map
      intro a ha
      apply attributeSignatureBody_eq hcall
      exact Attribute.depthOfList_le_iff.mp (Nat.le_max_left _ _) a ha
    rw [signatureBody, hparts, Node.signature, signatures_eq_foldr]
    rfl
  | _ => rfl

/-! ## Checked trees -/

/-- Whatever recurses over a tree, or over the component tree that comes from it,
nests its calls no deeper than that: the search for faults, the check of tags, the
passage to the component tree, the gathering from it, and the signatures of the nodes
in it. -/
structure RunsWithin (levels : Nat) (source : Source) (t : SyntaxTree) : Prop where
  faults : within faultsBody levels t = some (faults t)
  tags : within (tagsBody source) levels t = some (firstMismatch source t)
  reading : within (readBody source) levels (.node t) = some (nodeOf source t)
  visiting : ∀ (styles : List String) (h : Harvest),
    within (visitBody styles) levels (h, nodeOf source t) =
      some (h.visit styles (nodeOf source t))
  signatures : ∀ n ∈ (nodeOf source t).nodes, within signatureBody levels n = some n.signature

theorem runsWithin_of_height_le {levels : Nat} (source : Source) {t : SyntaxTree}
    (ht : t.height ≤ levels) : RunsWithin levels source t := by
  have hdepth : (nodeOf source t).depth ≤ levels := Nat.le_trans (depth_nodeOf_le source t) ht
  exact
    { faults := unfolds_faultsBody.within_eq ht
      tags := (unfolds_tagsBody source).within_eq ht
      reading := (unfolds_readBody source).within_eq ht
      visiting := fun styles h => (unfolds_visitBody styles).within_eq hdepth
      signatures := fun n hn =>
        unfolds_signatureBody.within_eq (Nat.le_trans (Node.depth_le_of_mem_nodes _ hn) hdepth) }

/-- The limit of depth bounds the recursions that follow. A component tree is never
nested deeper than its syntax tree is high, where children, the target of an export
and what attributes hold are one level down. So, where no node of the syntax tree lies
beyond the limit, neither does the component tree nest deeper than that, and no
recursion over either of the trees takes more levels than the limit allows. -/
theorem recursions_within_limit (source : Source) (limit : Nat) (t : SyntaxTree) :
    (nodeOf source t).depth ≤ t.height ∧
      (firstTooDeep limit t = none →
        (nodeOf source t).depth ≤ limit ∧ RunsWithin limit source t) := by
  constructor
  · exact depth_nodeOf_le source t
  · intro haccepted
    have ht : t.height ≤ limit := firstTooDeep_eq_none_iff.mp haccepted
    exact ⟨Nat.le_trans (depth_nodeOf_le source t) ht, runsWithin_of_height_le source ht⟩

/-- The tree of `<a b=<i/>/>`, whose deepest nodes are the parts of the inner
element. -/
def elementInAttribute : SyntaxTree :=
  .node { kind := "program", stop := 11 } [
    .node { kind := "expression_statement", stop := 11 } [
      .node { kind := "jsx_self_closing_element", stop := 11 } [
        token "<" 0, letter "identifier" ["name"] 1,
        .node { kind := "jsx_attribute", roles := ["attribute"], start := 3, stop := 9 } [
          letter "property_identifier" [] 3, token "=" 4, letterElement 5],
        token "/>" 9]]]

theorem recursions_elementInAttribute :
    firstTooDeep 5 elementInAttribute = none ∧
      let source := Source.ofString "<a b=<i/>/>"
      (nodeOf source elementInAttribute).depth ≤ 5 ∧
        RunsWithin 5 source elementInAttribute := by
  have haccepted : firstTooDeep 5 elementInAttribute = none :=
    firstTooDeep_eq_none_iff.mpr (by decide +kernel)
  exact ⟨haccepted, (recursions_within_limit _ 5 elementInAttribute).2 haccepted⟩

end ComponentLikeness.Component
