import ComponentLikeness.Component.OfTree

/-!
# How syntax nodes are read

The passage from syntax trees to component trees recurses through children,
attributes and values at once. Here each part of it is said with the operations
of lists: the children that are read are the named ones (`nodesBut_nil`), an
attribute is what one node of a tag gives (`attributesOf_eq`), and a default
export is its target (`targetWith_eq`).

Which rule makes the component node of a syntax node depends on the kind alone.
`KindForm` lists the forms of kinds, and beside each stands the equation of
`nodeOf` for it, so that a proof about `nodeOf` is one case for each form.
-/

namespace ComponentLikeness.Component

open Grammar (Source)
open Syntax Text

/-! ## Children -/

theorem nodesBut_nil (source : Source) (ts : List SyntaxTree) :
    nodesBut source [] ts = (ts.filter fun t => t.info.named).map (nodeOf source) := by
  induction ts with
  | nil => rfl
  | cons t ts ih =>
    rw [nodesBut, List.find?_nil]
    cases hnamed : t.info.named <;> simp [hnamed, ih]

/-- The named trees apart from the first that plays each of the roles. -/
def childrenBut : List String → List SyntaxTree → List SyntaxTree
  | _, [] => []
  | roles, t :: ts =>
    match roles.find? fun role => t.plays role with
    | some role => childrenBut (dropRole role roles) ts
    | none => if t.info.named then t :: childrenBut roles ts else childrenBut roles ts

theorem nodesBut_eq (source : Source) (roles : List String) (ts : List SyntaxTree) :
    nodesBut source roles ts = (childrenBut roles ts).map (nodeOf source) := by
  induction ts generalizing roles with
  | nil => rfl
  | cons t ts ih =>
    rw [nodesBut, childrenBut]
    cases roles.find? fun role => t.plays role with
    | some role => exact ih _
    | none => cases t.info.named <;> simp [ih]

theorem childrenBut_subset (roles : List String) (ts : List SyntaxTree) :
    childrenBut roles ts ⊆ ts := by
  induction ts generalizing roles with
  | nil => exact List.nil_subset _
  | cons t ts ih =>
    rw [childrenBut]
    split
    · exact List.subset_cons_of_subset t (ih _)
    split
    · exact List.cons_subset_cons t (ih _)
    · exact List.subset_cons_of_subset t (ih _)

theorem targetWith_eq (source : Source) (role : String) (ts : List SyntaxTree) :
    targetWith source role ts = (ts.find? fun t => t.plays role).map (nodeOf source) := by
  induction ts with
  | nil => rfl
  | cons t ts ih =>
    rw [targetWith, List.find?_cons, ih]
    cases t.plays role <;> rfl

/-! ## Parameters -/

theorem leftParam_eq (source : Source) (ts : List SyntaxTree) :
    leftParam source ts =
      ((ts.find? fun t => t.plays "left").map (patternParam source)).getD .unsupported := by
  induction ts with
  | nil => rfl
  | cons t ts ih =>
    rw [leftParam, List.find?_cons, ih]
    cases t.plays "left" <;> rfl

/-! ## Attributes -/

/-- Whether a part of a tag gives its element an attribute. -/
def isAttributeNode (t : SyntaxTree) : Bool :=
  t.info.named && (t.kind = "jsx_attribute" || t.kind = "jsx_expression")

/-- Whether a part of an attribute counts: tokens and comments do not. -/
def isPart (t : SyntaxTree) : Bool := t.info.named && t.kind != "comment"

/-- The value that a part gives an attribute. -/
def valueOf (source : Source) (part : SyntaxTree) : AttributeValue :=
  if part.kind = "string" then .text (stripQuotes (part.text source))
  else if part.kind = "jsx_expression" then
    .expression (expressionText (part.text source)) (part.namedChildren.map (nodeOf source))
  else if isElement part.kind then .element (nodeOf source part)
  else .expression (collapseBlanks (part.text source)) [nodeOf source part]

/-- The attribute that a part of a tag gives: the first part of it that counts is
its name and the second its value, and an expression stands for a spread. -/
def attributeOf (source : Source) (t : SyntaxTree) : Attribute :=
  if t.kind = "jsx_attribute" then
    .named (((t.children.filter isPart)[0]?.map fun part => part.text source).getD "")
      (((t.children.filter isPart)[1]?.map (valueOf source)).getD .flag)
  else .spread (expressionText (t.text source)) (t.namedChildren.map (nodeOf source))

theorem attributeName_eq (source : Source) (ts : List SyntaxTree) :
    attributeName source ts =
      ((ts.filter isPart)[0]?.map fun part => part.text source).getD "" := by
  induction ts with
  | nil => rfl
  | cons t ts ih =>
    show (if isPart t then t.text source else attributeName source ts) = _
    rw [List.filter_cons, ih]
    split <;> rfl

theorem attributeValue_cons (source : Source) (t : SyntaxTree) (ts : List SyntaxTree) :
    attributeValue source (t :: ts) =
      if isPart t then valueOf source t else attributeValue source ts := by
  obtain ⟨info, children⟩ := t
  rw [attributeValue]
  by_cases hskip : (!info.named || decide (info.kind = "comment")) = true
  · have hpart : isPart (.node info children) = false := by
      cases hnamed : info.named <;> simp_all [isPart, SyntaxTree.kind]
    rw [if_pos hskip, hpart]
    rfl
  · have hpart : isPart (.node info children) = true := by
      simpa [isPart, SyntaxTree.kind] using hskip
    rw [if_neg hskip, hpart, nodesBut_nil]
    rfl

theorem attributeValue_eq (source : Source) (ts : List SyntaxTree) :
    attributeValue source ts = ((ts.filter isPart)[0]?.map (valueOf source)).getD .flag := by
  induction ts with
  | nil => rfl
  | cons t ts ih =>
    rw [attributeValue_cons, List.filter_cons, ih]
    split <;> rfl

theorem valueAfterName_eq (source : Source) (ts : List SyntaxTree) :
    valueAfterName source ts = ((ts.filter isPart)[1]?.map (valueOf source)).getD .flag := by
  induction ts with
  | nil => rfl
  | cons t ts ih =>
    show (if isPart t then attributeValue source ts else valueAfterName source ts) = _
    rw [List.filter_cons, ih, attributeValue_eq]
    split <;> rfl

theorem attributesOf_eq (source : Source) (ts : List SyntaxTree) :
    attributesOf source ts = (ts.filter isAttributeNode).map (attributeOf source) := by
  induction ts with
  | nil => rfl
  | cons t ts ih =>
    obtain ⟨info, children⟩ := t
    rw [attributesOf, ih, attributeName_eq, valueAfterName_eq, nodesBut_nil]
    cases hnamed : info.named with
    | false => simp [isAttributeNode, hnamed]
    | true =>
      by_cases hattribute : info.kind = "jsx_attribute"
      · simp [isAttributeNode, attributeOf, SyntaxTree.kind, hnamed, hattribute]
      · by_cases hexpression : info.kind = "jsx_expression"
        · simp [isAttributeNode, attributeOf, SyntaxTree.kind, SyntaxTree.namedChildren, hnamed,
            hexpression]
        · simp [isAttributeNode, SyntaxTree.kind, hnamed, hattribute, hexpression]

theorem openAttributes_eq (source : Source) (ts : List SyntaxTree) :
    openAttributes source ts =
      ((ts.find? fun t => t.plays "open_tag").map fun tag =>
        attributesOf source tag.children).getD [] := by
  induction ts with
  | nil => rfl
  | cons t ts ih =>
    obtain ⟨info, children⟩ := t
    rw [openAttributes, List.find?_cons, ih]
    cases SyntaxTree.plays "open_tag" (.node info children) <;> rfl

/-! ## Nodes -/

/-- The role of the target of an export, if it is exported by default: a
declaration comes before a value. -/
def exportRole? (children : List SyntaxTree) : Option String :=
  if children.any fun c => c.kind = "default" then
    ["declaration", "value"].find? fun role => children.any fun c => c.plays role
  else none

/-- The target of an export, if it is exported by default. -/
def exportTarget? (children : List SyntaxTree) : Option SyntaxTree :=
  (exportRole? children).bind fun role => children.find? fun c => c.plays role

theorem mem_of_exportTarget? {children : List SyntaxTree} {target : SyntaxTree}
    (h : exportTarget? children = some target) : target ∈ children := by
  obtain ⟨role, -, hplayer⟩ := Option.bind_eq_some_iff.mp h
  exact List.mem_of_find?_eq_some hplayer

/-- Looking for a role that is played and then for its player is looking for the
first player of any of the roles. -/
theorem find?_bind_find? (roles : List String) (ts : List SyntaxTree) :
    ((roles.find? fun role => ts.any fun t => t.plays role).bind fun role =>
        ts.find? fun t => t.plays role) =
      roles.findSome? fun role => ts.find? fun t => t.plays role := by
  induction roles with
  | nil => rfl
  | cons role roles ih =>
    rw [List.find?_cons, List.findSome?_cons, ← ih, ← List.isSome_find?]
    cases hplayer : ts.find? fun t => t.plays role with
    | some t => exact hplayer
    | none => rfl

theorem exportTarget?_eq (children : List SyntaxTree) :
    exportTarget? children =
      if children.any fun c => c.kind = "default" then
        (children.find? fun c => c.plays "declaration").or
          (children.find? fun c => c.plays "value")
      else none := by
  rw [exportTarget?, exportRole?]
  split
  · rw [find?_bind_find?, List.findSome?_cons, List.findSome?_singleton]
    cases children.find? fun c => c.plays "declaration" <;> rfl
  · rfl

/-- The forms of kinds that have a rule of their own, and all others. -/
inductive KindForm : String → Prop
  | program : KindForm "program"
  | exportStatement : KindForm "export_statement"
  | function {kind : String} {written : FunctionKind} (h : functionKind kind = some written) :
      KindForm kind
  | class_ {kind : String} (h : isClass kind = true) : KindForm kind
  | identifier : KindForm "identifier"
  | element : KindForm "jsx_element"
  | selfClosing : KindForm "jsx_self_closing_element"
  | fragment : KindForm "jsx_fragment"
  | other {kind : String} (hprogram : kind ≠ "program") (hexport : kind ≠ "export_statement")
      (hfunction : functionKind kind = none) (hclass : isClass kind = false)
      (hidentifier : kind ≠ "identifier") (helement : isElement kind = false) : KindForm kind

theorem kindForm (kind : String) : KindForm kind := by
  by_cases hprogram : kind = "program"
  · exact hprogram ▸ .program
  by_cases hexport : kind = "export_statement"
  · exact hexport ▸ .exportStatement
  cases hfunction : functionKind kind with
  | some written => exact .function hfunction
  | none =>
    cases hclass : isClass kind with
    | true => exact .class_ hclass
    | false =>
      by_cases hidentifier : kind = "identifier"
      · exact hidentifier ▸ .identifier
      cases helement : isElement kind with
      | false => exact .other hprogram hexport hfunction hclass hidentifier helement
      | true =>
        simp only [isElement, List.contains_eq_mem, List.mem_cons, List.not_mem_nil, or_false,
          decide_eq_true_eq] at helement
        rcases helement with rfl | rfl | rfl
        · exact .element
        · exact .selfClosing
        · exact .fragment

section Equations

variable (source : Source) {info : NodeInfo} (children : List SyntaxTree)

theorem nodeOf_program (h : info.kind = "program") :
    nodeOf source (.node info children) = .program (nodesBut source [] children) := by
  rw [nodeOf, if_pos h]

theorem nodeOf_exportStatement (h : info.kind = "export_statement") :
    nodeOf source (.node info children) =
      match exportTarget? children with
      | some target => .exportDefault (declared (nodeOf source target))
      | none => .other "export_statement" (nodesBut source [] children) := by
  have hprogram : info.kind ≠ "program" := by simp [h]
  rw [nodeOf, if_neg hprogram, if_pos h, targetWith_eq, targetWith_eq, ← Option.map_or,
    exportTarget?_eq, h]
  by_cases hdefault : (children.any fun c => decide (c.kind = "default")) = true
  · rw [if_pos hdefault, if_pos hdefault]
    cases (children.find? fun t => t.plays "declaration").or
      (children.find? fun t => t.plays "value") <;> rfl
  · rw [if_neg hdefault, if_neg hdefault]

theorem nodeOf_function {written : FunctionKind} (h : functionKind info.kind = some written) :
    nodeOf source (.node info children) =
      .function written
        (if written = .arrow then none else nameText source (.node info children))
        (params source (.node info children)) (nodesBut source ["name"] children) := by
  have hprogram : info.kind ≠ "program" := fun hk => by simp [hk, functionKind] at h
  have hexport : info.kind ≠ "export_statement" := fun hk => by simp [hk, functionKind] at h
  rw [nodeOf, if_neg hprogram, if_neg hexport, h]

theorem nodeOf_class (h : isClass info.kind = true) :
    nodeOf source (.node info children) =
      .class_ (nameText source (.node info children)) (nodesBut source ["name"] children) := by
  simp only [isClass, List.contains_eq_mem, List.mem_cons, List.not_mem_nil, or_false,
    decide_eq_true_eq] at h
  rw [nodeOf]
  rcases h with h | h | h <;> simp [h, functionKind, isClass]

theorem nodeOf_identifier (h : info.kind = "identifier") :
    nodeOf source (.node info children) =
      .identifier (SyntaxTree.text source (.node info children)) := by
  rw [nodeOf]
  simp [h, functionKind, isClass]

theorem nodeOf_element (h : info.kind = "jsx_element") :
    nodeOf source (.node info children) =
      .element (openTag source (.node info children)) (openAttributes source children) false
        (nodesBut source ["open_tag", "close_tag"] children) := by
  rw [nodeOf]
  simp [h, functionKind, isClass]

theorem nodeOf_selfClosing (h : info.kind = "jsx_self_closing_element") :
    nodeOf source (.node info children) =
      .element (nonEmpty (tagName source (.node info children)))
        (attributesOf source children) true [] := by
  rw [nodeOf]
  simp [h, functionKind, isClass]

theorem nodeOf_fragment (h : info.kind = "jsx_fragment") :
    nodeOf source (.node info children) =
      .element none [] false (nodesBut source [] children) := by
  rw [nodeOf]
  simp [h, functionKind, isClass]

theorem nodeOf_other (hprogram : info.kind ≠ "program") (hexport : info.kind ≠ "export_statement")
    (hfunction : functionKind info.kind = none) (hclass : isClass info.kind = false)
    (hidentifier : info.kind ≠ "identifier") (helement : isElement info.kind = false) :
    nodeOf source (.node info children) = .other info.kind (nodesBut source [] children) := by
  simp only [isElement, List.contains_eq_mem, List.mem_cons, List.not_mem_nil, or_false,
    decide_eq_false_iff_not, not_or] at helement
  rw [nodeOf]
  simp [hprogram, hexport, hfunction, hclass, hidentifier, helement]

end Equations

end ComponentLikeness.Component
