import ComponentLikeness.Proofs.Component.Placement
import ComponentLikeness.Proofs.Text.Collapsing

/-!
# Expressions wrapped in another way

The text of an expression in braces is its collapsed inside (`expressionText_inBraces`), so
it depends on the words inside only. Hence two elements that differ in no more than how the
expressions in their opening tags are wrapped (`RewrappedElement`), each in its own source
and at any depth of elements in attributes, have the same signature (`signature_eq`), and
so have the files whose first elements they are (`signature_fingerprintWith_eq`).
-/

namespace ComponentLikeness.Component

open Grammar (Source)
open Syntax Text

/-! ## Expressions in braces -/

/-- The text between braces. -/
def inBraces (inside : String) : String := "\x7b" ++ inside ++ "\x7d"

theorem toList_inBraces (inside : String) :
    (inBraces inside).toList = '\x7b' :: (inside.toList ++ ['\x7d']) := by
  simp [inBraces]

/-- One pair of braces is taken off, whatever the inside begins and ends with. -/
theorem stripMarks_inBraces (inside : String) :
    stripMarks '\x7b' '\x7d' (inBraces inside) = some inside := by
  unfold stripMarks
  rw [toList_inBraces]
  simp

theorem expressionText_inBraces (inside : String) :
    expressionText (inBraces inside) = collapseBlanks inside := by
  rw [expressionText, stripMarks_inBraces, Option.getD_some]

/-- Both texts are expressions in braces, with the same words inside. -/
def SameInBraces (a b : String) : Prop :=
  ∃ inside inside', a = inBraces inside ∧ b = inBraces inside' ∧ SameWords inside inside'

theorem SameInBraces.expressionText_eq {a b : String} (h : SameInBraces a b) :
    expressionText a = expressionText b := by
  obtain ⟨inside, inside', rfl, rfl, hwords⟩ := h
  rw [expressionText_inBraces, expressionText_inBraces, collapseBlanks_eq_iff.mpr hwords]

/-! ## Signatures of syntax nodes -/

theorem isElementOf_nodeOf (source : Source) {t : SyntaxTree} (h : isElement t.kind = true) :
    IsElementOf source (nodeOf source t) t := by
  obtain ⟨info, children⟩ := t
  simp only [isElement, List.contains_eq_mem, List.mem_cons, List.not_mem_nil, or_false,
    decide_eq_true_eq] at h
  rcases h with h | h | h
  · have hkind : info.kind = "jsx_element" := h
    rw [nodeOf_element source children hkind, openAttributes_eq_map h]
    exact ⟨nodesBut source ["open_tag", "close_tag"] children, by simp [tagOf?, h, openTag]⟩
  · have hkind : info.kind = "jsx_self_closing_element" := h
    rw [nodeOf_selfClosing source children hkind]
    exact ⟨[], by simp [tagOf?, attributeNodes, h, attributesOf_eq]⟩
  · have hkind : info.kind = "jsx_fragment" := h
    rw [nodeOf_fragment source children hkind]
    exact ⟨nodesBut source [] children, by simp [tagOf?, attributeNodes, h]⟩

/-- The signature of an element, read off its syntax node. -/
theorem IsElementOf.signature_eq {source : Source} {n : Node} {t : SyntaxTree}
    (h : IsElementOf source n t) :
    n.signature =
      some ("<" ++ (((tagOf? t).map (tagName source)).bind nonEmpty).getD "" ++
        Attribute.signatures ((attributeNodes t).map (attributeOf source)) ++
        if t.kind = "jsx_self_closing_element" then " />" else ">") := by
  obtain ⟨children, rfl⟩ := h
  rw [Node.signature, Option.bind_map]
  simp only [decide_eq_true_eq]
  rfl

/-- The first element of a file has the signature of the file. -/
theorem signature_fingerprintWith_nodeOf {source : Source} {t first : SyntaxTree}
    (hplaced : WellPlaced t) (hnamed : t.info.named = true)
    (hfirst : t.nodes.find? isElementNode = some first) (styles : List String)
    (scope : PropScope) :
    ∃ n, IsElementOf source n first ∧
      ((nodeOf source t).fingerprintWith styles scope).signature = n.signature.getD "" := by
  have helements := ((settled source t hplaced).mirrored hnamed).elements
  rw [← List.head?_filter] at hfirst
  rw [signature_fingerprintWith, ← List.head?_filter]
  generalize (nodeOf source t).nodes.filter Node.isElement = ns at helements ⊢
  generalize t.nodes.filter isElementNode = ts at helements hfirst
  cases helements with
  | nil => exact nomatch hfirst
  | cons h _ =>
    obtain rfl := Option.some.inj hfirst
    exact ⟨_, h, rfl⟩

/-! ## Opening tags -/

section Rewrapping

variable (source source' : Source)

mutual

/-- The nodes are elements of one kind with the same tag and the same attributes, apart
from how the expressions in these are wrapped. What is below the tags is left open. -/
inductive RewrappedElement : SyntaxTree → SyntaxTree → Prop
  | mk {t t' : SyntaxTree} (helement : isElement t.kind = true) (hkind : t'.kind = t.kind)
      (hname : (tagOf? t).map (tagName source) = (tagOf? t').map (tagName source'))
      (hattributes : RewrappedAttributes (attributeNodes t) (attributeNodes t')) :
      RewrappedElement t t'

/-- The attributes correspond to each other in order. -/
inductive RewrappedAttributes : List SyntaxTree → List SyntaxTree → Prop
  | nil : RewrappedAttributes [] []
  | cons {a a' : SyntaxTree} {as as' : List SyntaxTree} (h : RewrappedAttribute a a')
      (hrest : RewrappedAttributes as as') : RewrappedAttributes (a :: as) (a' :: as')

/-- The attributes are both a spread, or have the same name and no value, or have the same
name and corresponding values. -/
inductive RewrappedAttribute : SyntaxTree → SyntaxTree → Prop
  | spread {a a' : SyntaxTree} (h : a.kind = "jsx_expression") (h' : a'.kind = "jsx_expression")
      (htext : SameInBraces (a.text source) (a'.text source')) : RewrappedAttribute a a'
  | flag {a a' name name' : SyntaxTree} (h : a.kind = "jsx_attribute")
      (h' : a'.kind = "jsx_attribute") (hparts : a.children.filter isPart = [name])
      (hparts' : a'.children.filter isPart = [name'])
      (hname : name.text source = name'.text source') : RewrappedAttribute a a'
  | named {a a' name name' value value' : SyntaxTree} {rest rest' : List SyntaxTree}
      (h : a.kind = "jsx_attribute") (h' : a'.kind = "jsx_attribute")
      (hparts : a.children.filter isPart = name :: value :: rest)
      (hparts' : a'.children.filter isPart = name' :: value' :: rest')
      (hname : name.text source = name'.text source') (hvalue : RewrappedValue value value') :
      RewrappedAttribute a a'

/-- The values are the same string, expressions with the same words, or corresponding
elements. -/
inductive RewrappedValue : SyntaxTree → SyntaxTree → Prop
  | string {v v' : SyntaxTree} (h : v.kind = "string") (h' : v'.kind = "string")
      (htext : v.text source = v'.text source') : RewrappedValue v v'
  | expression {v v' : SyntaxTree} (h : v.kind = "jsx_expression") (h' : v'.kind = "jsx_expression")
      (htext : SameInBraces (v.text source) (v'.text source')) : RewrappedValue v v'
  | element {v v' : SyntaxTree} (h : RewrappedElement v v') : RewrappedValue v v'

end

variable {source source'}

theorem RewrappedElement.isElement {t t' : SyntaxTree} (h : RewrappedElement source source' t t') :
    isElement t.kind = true ∧ isElement t'.kind = true := by
  obtain ⟨helement, hkind, -, -⟩ := h
  rw [hkind]
  exact ⟨helement, helement⟩

theorem valueOf_of_isElement (source : Source) {v : SyntaxTree} (h : isElement v.kind = true) :
    valueOf source v = .element (nodeOf source v) := by
  have hstring : v.kind ≠ "string" := fun hk => by simp [hk, Component.isElement] at h
  have hexpression : v.kind ≠ "jsx_expression" := fun hk => by simp [hk, Component.isElement] at h
  rw [valueOf, if_neg hstring, if_neg hexpression, if_pos h]

mutual

/-- Corresponding elements have the same signature. -/
theorem signature_eq : ∀ {t t' : SyntaxTree} {n n' : Node},
    RewrappedElement source source' t t' → IsElementOf source n t → IsElementOf source' n' t' →
    n.signature = n'.signature
  | _, _, _, _, .mk _ hkind hname hattributes, hn, hn' => by
    rw [hn.signature_eq, hn'.signature_eq, hkind, hname, signatures_eq hattributes]

theorem signatures_eq : ∀ {as as' : List SyntaxTree}, RewrappedAttributes source source' as as' →
    Attribute.signatures (as.map (attributeOf source)) =
      Attribute.signatures (as'.map (attributeOf source'))
  | _, _, .nil => by rw [List.map_nil, List.map_nil]
  | _, _, .cons h hrest => by
    rw [List.map_cons, List.map_cons, Attribute.signatures, Attribute.signatures,
      attributeSignature_eq h, signatures_eq hrest]

theorem attributeSignature_eq : ∀ {a a' : SyntaxTree}, RewrappedAttribute source source' a a' →
    (attributeOf source a).signature = (attributeOf source' a').signature
  | a, a', .spread h h' htext => by
    have hkind : a.kind ≠ "jsx_attribute" := by simp [h]
    have hkind' : a'.kind ≠ "jsx_attribute" := by simp [h']
    rw [attributeOf, attributeOf, if_neg hkind, if_neg hkind', Attribute.signature,
      Attribute.signature, htext.expressionText_eq]
  | _, _, .flag h h' hparts hparts' hname => by
    rw [attributeOf, attributeOf, if_pos h, if_pos h', hparts, hparts']
    simp [hname, Attribute.signature]
  | _, _, .named h h' hparts hparts' hname hvalue => by
    rw [attributeOf, attributeOf, if_pos h, if_pos h', hparts, hparts']
    simp only [List.getElem?_cons_zero, List.getElem?_cons_succ, Option.map_some,
      Option.getD_some, hname]
    exact valueSignature_eq _ hvalue

theorem valueSignature_eq (name : String) : ∀ {v v' : SyntaxTree},
    RewrappedValue source source' v v' →
    (Attribute.named name (valueOf source v)).signature =
      (Attribute.named name (valueOf source' v')).signature
  | _, _, .string h h' htext => by rw [valueOf, valueOf, if_pos h, if_pos h', htext]
  | v, v', .expression h h' htext => by
    have hkind : v.kind ≠ "string" := by simp [h]
    have hkind' : v'.kind ≠ "string" := by simp [h']
    rw [valueOf, valueOf, if_neg hkind, if_neg hkind', if_pos h, if_pos h', Attribute.signature,
      Attribute.signature, htext.expressionText_eq]
  | _, _, .element h => by
    obtain ⟨helement, helement'⟩ := h.isElement
    rw [valueOf_of_isElement source helement, valueOf_of_isElement source' helement',
      Attribute.signature, Attribute.signature,
      signature_eq h (isElementOf_nodeOf source helement) (isElementOf_nodeOf source' helement')]

end

theorem signature_nodeOf_eq {t t' : SyntaxTree} (h : RewrappedElement source source' t t') :
    (nodeOf source t).signature = (nodeOf source' t').signature := by
  obtain ⟨helement, helement'⟩ := h.isElement
  exact signature_eq h (isElementOf_nodeOf source helement) (isElementOf_nodeOf source' helement')

theorem signature_fingerprintWith_eq {t t' first first' : SyntaxTree} (hplaced : WellPlaced t)
    (hplaced' : WellPlaced t') (hnamed : t.info.named = true) (hnamed' : t'.info.named = true)
    (hfirst : t.nodes.find? isElementNode = some first)
    (hfirst' : t'.nodes.find? isElementNode = some first')
    (h : RewrappedElement source source' first first') (styles : List String) (scope : PropScope) :
    ((nodeOf source t).fingerprintWith styles scope).signature =
      ((nodeOf source' t').fingerprintWith styles scope).signature := by
  obtain ⟨n, hn, hsignature⟩ := signature_fingerprintWith_nodeOf hplaced hnamed hfirst styles scope
  obtain ⟨n', hn', hsignature'⟩ :=
    signature_fingerprintWith_nodeOf hplaced' hnamed' hfirst' styles scope
  rw [hsignature, hsignature', signature_eq h hn hn']

end Rewrapping

/-! ## The canonical form -/

/-- Collapsing is a canonical form for texts with the same words: the collapsed text is
neat, and two texts collapse alike exactly if they fall into the same words. These do not
change when a gap is replaced by another one, or when the margins of the text change. An
expression in braces shows its inside collapsed, whatever that inside is, so elements and
files whose first elements are wrapped in another way have the same signature. -/
theorem collapseBlanks_canonical :
    (∀ text, IsCollapsed text (collapseBlanks text)) ∧
    (∀ a b, collapseBlanks a = collapseBlanks b ↔ SameWords a b) ∧
    (∀ gap gap' before after, IsGap gap → IsGap gap' →
      SameWords (String.ofList (before ++ (gap ++ after)))
        (String.ofList (before ++ (gap' ++ after)))) ∧
    (∀ left right text, (∀ c ∈ left, isBlank c = true) → (∀ c ∈ right, isBlank c = true) →
      SameWords (String.ofList (left ++ (text ++ right))) (String.ofList text)) ∧
    (∀ inside, expressionText (inBraces inside) = collapseBlanks inside) ∧
    (∀ inside inside', expressionText (inBraces inside) = expressionText (inBraces inside') ↔
      SameWords inside inside') ∧
    (∀ source source' t t', RewrappedElement source source' t t' →
      (nodeOf source t).signature = (nodeOf source' t').signature) ∧
    ∀ source source' t t' first first', WellPlaced t → WellPlaced t' → t.info.named = true →
      t'.info.named = true → t.nodes.find? isElementNode = some first →
      t'.nodes.find? isElementNode = some first' →
      RewrappedElement source source' first first' → ∀ styles scope,
        ((nodeOf source t).fingerprintWith styles scope).signature =
          ((nodeOf source' t').fingerprintWith styles scope).signature := by
  refine ⟨isCollapsed_collapseBlanks, fun _ _ => collapseBlanks_eq_iff,
    fun _ _ before after h h' => sameWords_of_gaps h h' before after,
    fun _ _ text h h' => sameWords_of_margins h h' text, expressionText_inBraces, ?_,
    fun _ _ _ _ => signature_nodeOf_eq, ?_⟩
  · intro inside inside'
    rw [expressionText_inBraces, expressionText_inBraces, collapseBlanks_eq_iff]
  · intro _ _ _ _ _ _ hplaced hplaced' hnamed hnamed' hfirst hfirst' h
    exact signature_fingerprintWith_eq hplaced hplaced' hnamed hnamed' hfirst hfirst' h

/-- An element with an expression of `m` characters as the value of an attribute, and a
spread of `n` characters. -/
def spreadElement (m n : Nat) : SyntaxTree :=
  .node { kind := "jsx_self_closing_element", stop := m + n + 8 } [
    token "<" 0, letter "identifier" ["name"] 1,
    .node { kind := "jsx_attribute", roles := ["attribute"], start := 3, stop := m + 5 } [
      letter "property_identifier" [] 3, token "=" 4,
      .node { kind := "jsx_expression", start := 5, stop := m + 5 } []],
    .node
      { kind := "jsx_expression", roles := ["attribute"], start := m + 6, stop := m + n + 6 } [],
    token "/>" (m + n + 6)]

/-- The inside of the first expression begins and ends with braces. -/
def wrappedText : String := "<a b=\x7b\x7b c:\n    1\x7d \x7d \x7b\n  ...p\x7d/>"

def unwrappedText : String := "<a b=\x7b\x7b c: 1\x7d\x7d \x7b...p\x7d/>"

theorem wellPlaced_spreadElement :
    WellPlaced (spreadElement 14 9) ∧ WellPlaced (spreadElement 9 6) := by
  constructor
  · intro u hu
    constructor <;> revert u <;> decide +kernel
  · intro u hu
    constructor <;> revert u <;> decide +kernel

theorem rewrapped_spreadElement :
    RewrappedElement (.ofString wrappedText) (.ofString unwrappedText) (spreadElement 14 9)
      (spreadElement 9 6) := by
  have hvalue : SameInBraces "\x7b\x7b c:\n    1\x7d \x7d" "\x7b\x7b c: 1\x7d\x7d" :=
    ⟨"\x7b c:\n    1\x7d ", "\x7b c: 1\x7d", by decide, by decide, sameWords_iff.mpr (by decide)⟩
  have hspread : SameInBraces "\x7b\n  ...p\x7d" "\x7b...p\x7d" :=
    ⟨"\n  ...p", "...p", by decide, by decide, sameWords_iff.mpr (by decide)⟩
  refine .mk (by decide) rfl (by decide +kernel) (.cons ?_ (.cons (.spread rfl rfl hspread) .nil))
  exact .named rfl rfl rfl rfl (by decide +kernel) (.expression rfl rfl hvalue)

theorem collapseBlanks_canonical_spreadElement :
    IsGap ['\n', ' '] ∧ IsGap [' '] ∧
      SameWords "a\n b" "a b" ∧ SameWords "\n ab\n " "ab" ∧
      (nodeOf (.ofString wrappedText) (spreadElement 14 9)).signature =
        (nodeOf (.ofString unwrappedText) (spreadElement 9 6)).signature ∧
      ((nodeOf (.ofString wrappedText) (spreadElement 14 9)).fingerprintWith []
          .allFunctions).signature =
        ((nodeOf (.ofString unwrappedText) (spreadElement 9 6)).fingerprintWith []
          .allFunctions).signature := by
  obtain ⟨-, -, hgaps, hmargins, -, -, hnode, hfile⟩ := collapseBlanks_canonical
  have hgap : IsGap ['\n', ' '] := ⟨List.cons_ne_nil _ _, List.all_eq_true.mp rfl⟩
  have hspace : IsGap [' '] := ⟨List.cons_ne_nil _ _, List.all_eq_true.mp rfl⟩
  obtain ⟨hplaced, hplaced'⟩ := wellPlaced_spreadElement
  exact ⟨hgap, hspace, hgaps _ _ ['a'] ['b'] hgap hspace,
    hmargins ['\n', ' '] ['\n', ' '] ['a', 'b'] hgap.blank hgap.blank,
    hnode _ _ _ _ rewrapped_spreadElement,
    hfile _ _ _ _ _ _ hplaced hplaced' rfl rfl rfl rfl rewrapped_spreadElement _ _⟩

end ComponentLikeness.Component
