import ComponentLikeness.Component.Signature
import ComponentLikeness.Proofs.Text.Marks

/-!
# What an opening tag shows

A structural signature writes the parts of an opening tag one behind the other and
escapes nothing. Where the parts do not hold the marks that end them (`Legible`), the
signature still shows the tag, each attribute in order and how the tag ends, and nothing
else (`signature_eq_iff`).

Each part is read back in front of whatever may stand behind it: the value of an
attribute, an attribute, and all attributes with the end of the tag.
-/

namespace ComponentLikeness.Component

open Text

/-! ## Shown attributes -/

/-- What a signature shows of the value of an attribute. -/
inductive ShownValue where
  | flag
  | text (content : String)
  | expression (code : String)
deriving DecidableEq

/-- What a signature shows of an attribute. -/
inductive ShownAttribute where
  | named (name : String) (value : ShownValue)
  | spread (code : String)
deriving DecidableEq

/-- An element shows as the expression that consists of its signature. The nodes below an
expression do not show. -/
def AttributeValue.shown : AttributeValue → ShownValue
  | .flag => .flag
  | .text content => .text content
  | .expression code _ => .expression code
  | .element node => .expression (node.signature.getD "")

def Attribute.shown : Attribute → ShownAttribute
  | .named name value => .named name value.shown
  | .spread expression _ => .spread expression

/-- A code in braces. -/
def braced (code : String) : List Char := openBrace :: (code.toList ++ [closeBrace])

/-- A value behind its name. -/
def ShownValue.chars : ShownValue → List Char
  | .flag => []
  | .text content => '=' :: '"' :: (content.toList ++ ['"'])
  | .expression code => '=' :: braced code

def ShownAttribute.chars : ShownAttribute → List Char
  | .named name value => name.toList ++ value.chars
  | .spread code => braced code

/-- What stands behind the name of a tag. -/
def tagRest (selfClosing : Bool) : List ShownAttribute → List Char
  | [] => if selfClosing then [' ', '/', '>'] else ['>']
  | a :: as => ' ' :: (a.chars ++ tagRest selfClosing as)

theorem tagRest_cons (selfClosing : Bool) (a : ShownAttribute) (as : List ShownAttribute) :
    tagRest selfClosing (a :: as) = ' ' :: (a.chars ++ tagRest selfClosing as) := rfl

theorem Attribute.toList_signature (a : Attribute) : a.signature.toList = a.shown.chars := by
  cases a with
  | spread expression inner =>
    simp [Attribute.signature, Attribute.shown, ShownAttribute.chars, braced, openBrace, closeBrace]
  | named name value =>
    cases value <;>
      simp [Attribute.signature, Attribute.shown, AttributeValue.shown, ShownAttribute.chars,
        ShownValue.chars, braced, openBrace, closeBrace]

theorem toList_signatures_append (selfClosing : Bool) (as : List Attribute) :
    (Attribute.signatures as).toList ++ tagRest selfClosing [] =
      tagRest selfClosing (as.map Attribute.shown) := by
  induction as with
  | nil => rfl
  | cons a as ih =>
    simp [Attribute.signatures, tagRest_cons, ← ih, Attribute.toList_signature]

theorem signature_element (tag : Option String) (as : List Attribute) (selfClosing : Bool)
    (children : List Node) :
    (Node.element tag as selfClosing children).signature =
      some (String.ofList
        ('<' :: ((tag.getD "").toList ++ tagRest selfClosing (as.map Attribute.shown)))) := by
  rw [← toList_signatures_append, Node.signature]
  cases selfClosing <;> simp [tagRest, String.ext_iff]

/-! ## Legible tags -/

/-- The value does not hold what ends it: a quote ends a text, and the brace that closes
what was open before it an expression. -/
def ShownValue.Legible : ShownValue → Prop
  | .flag => True
  | .text content => '"' ∉ content.toList
  | .expression code => Balanced code.toList

/-- The characters that a name does not hold. -/
def nameMarks : List Char := [' ', '=', '>', openBrace, '/']

def ShownAttribute.Legible : ShownAttribute → Prop
  | .named name value => name ≠ "" ∧ (∀ c ∈ name.toList, c ∉ nameMarks) ∧ value.Legible
  | .spread code => Balanced code.toList

/-- A tag and attributes whose parts do not hold what ends them. -/
structure Legible (tag : Option String) (as : List Attribute) : Prop where
  tag : ∀ name ∈ tag, name ≠ "" ∧ ' ' ∉ name.toList ∧ '>' ∉ name.toList
  attributes : ∀ a ∈ as, a.shown.Legible

instance : DecidablePred ShownValue.Legible
  | .flag => inferInstanceAs (Decidable True)
  | .text content => inferInstanceAs (Decidable ('"' ∉ content.toList))
  | .expression code => inferInstanceAs (Decidable (Balanced code.toList))

instance : DecidablePred ShownAttribute.Legible
  | .named name value =>
    -- the characters of the name are searched, not all there are
    have : Decidable (∀ c ∈ name.toList, c ∉ nameMarks) := List.decidableBAll _ _
    inferInstanceAs (Decidable
      (name ≠ "" ∧ (∀ c ∈ name.toList, c ∉ nameMarks) ∧ value.Legible))
  | .spread code => inferInstanceAs (Decidable (Balanced code.toList))

/-! ## Reading back -/

/-- What may stand behind an attribute: a space, or the end of the tag. -/
def Follows : List Char → Prop
  | [] => False
  | c :: _ => c = ' ' ∨ c = '>'

/-- It is not the rest of the attribute itself. -/
theorem Follows.ne_equals {x y : List Char} (h : Follows x) : x ≠ '=' :: y := by
  rintro rfl
  rcases h with h | h <;> exact absurd h (by decide)

theorem follows_tagRest (selfClosing : Bool) (as : List ShownAttribute) :
    Follows (tagRest selfClosing as) := by
  cases as with
  | nil =>
    cases selfClosing with
    | false => exact .inr rfl
    | true => exact .inl rfl
  | cons a as => exact .inl rfl

section Reading

variable {v w : ShownValue} {a b : ShownAttribute} {as bs : List ShownAttribute}
  {x y : List Char} {selfClosing selfClosing' : Bool}

theorem eq_of_braced_append {code code' : String} (h : Balanced code.toList)
    (h' : Balanced code'.toList) (heq : braced code ++ x = braced code' ++ y) :
    code = code' ∧ x = y := by
  simp only [braced, List.cons_append, List.append_assoc, List.nil_append] at heq
  obtain ⟨hcode, hrest⟩ := h.eq_of_cut h' (List.cons.inj heq).2
  exact ⟨String.toList_inj.mp hcode, hrest⟩

namespace ShownValue

theorem eq_of_append (hv : v.Legible) (hw : w.Legible) (hx : Follows x) (hy : Follows y)
    (h : v.chars ++ x = w.chars ++ y) : v = w ∧ x = y := by
  cases v with
  | flag =>
    cases w with
    | flag => exact ⟨rfl, h⟩
    | text content => exact absurd h hx.ne_equals
    | expression code => exact absurd h hx.ne_equals
  | text content =>
    cases w with
    | flag => exact absurd h.symm hy.ne_equals
    | text content' =>
      simp only [chars, List.cons_append, List.append_assoc, List.cons.injEq, true_and] at h
      obtain ⟨hcontent, hrest⟩ := eq_of_cut_at_char hv hw h
      rw [String.toList_inj.mp hcontent]
      exact ⟨rfl, hrest⟩
    | expression code => exact absurd (List.cons.inj (List.cons.inj h).2).1 (by decide)
  | expression code =>
    cases w with
    | flag => exact absurd h.symm hy.ne_equals
    | text content => exact absurd (List.cons.inj (List.cons.inj h).2).1 (by decide)
    | expression code' =>
      obtain ⟨rfl, hrest⟩ := eq_of_braced_append hv hw (List.cons.inj h).2
      exact ⟨rfl, hrest⟩

/-- Behind the name of an attribute there is always a mark that no name holds. -/
theorem exists_mark (v : ShownValue) (hx : Follows x) :
    ∃ c rest, v.chars ++ x = c :: rest ∧ c ∈ nameMarks := by
  cases v with
  | flag =>
    cases x with
    | nil => exact hx.elim
    | cons c x =>
      refine ⟨c, x, rfl, ?_⟩
      rcases hx with rfl | rfl <;> decide
  | text content => exact ⟨'=', _, rfl, by decide⟩
  | expression code => exact ⟨'=', _, rfl, by decide⟩

end ShownValue

namespace ShownAttribute

/-- A named attribute does not begin with any of the marks. -/
theorem named_append_ne {name : String} {c : Char} (h : (named name v).Legible)
    (hc : c ∈ nameMarks) : (named name v).chars ++ x ≠ c :: y := by
  obtain ⟨hne, hmarks, -⟩ := h
  intro heq
  cases hname : name.toList with
  | nil => exact hne (String.toList_inj.mp hname)
  | cons first rest =>
    rw [chars, hname] at heq
    obtain rfl : first = c := (List.cons.inj heq).1
    exact hmarks first (hname ▸ List.mem_cons_self) hc

theorem eq_of_append (ha : a.Legible) (hb : b.Legible) (hx : Follows x) (hy : Follows y)
    (h : a.chars ++ x = b.chars ++ y) : a = b ∧ x = y := by
  cases a with
  | named name v =>
    obtain ⟨hname, hmarks, hv⟩ := ha
    cases b with
    | named name' w =>
      obtain ⟨-, hmarks', hw⟩ := hb
      obtain ⟨c, rest, hrest, hc⟩ := v.exists_mark hx
      obtain ⟨d, rest', hrest', hd⟩ := w.exists_mark hy
      -- the names end at the same mark, whichever form the values have
      simp only [chars, List.append_assoc] at h
      rw [hrest, hrest'] at h
      obtain ⟨hnames, rfl, rfl⟩ := eq_of_cut_at_mark hmarks hmarks' hc hd h
      obtain ⟨rfl, hxy⟩ := v.eq_of_append hv hw hx hy (hrest.trans hrest'.symm)
      rw [String.toList_inj.mp hnames]
      exact ⟨rfl, hxy⟩
    | spread code => exact absurd h (named_append_ne ⟨hname, hmarks, hv⟩ (by decide))
  | spread code =>
    cases b with
    | named name w => exact absurd h.symm (named_append_ne hb (by decide))
    | spread code' =>
      obtain ⟨rfl, hrest⟩ := eq_of_braced_append ha hb h
      exact ⟨rfl, hrest⟩

end ShownAttribute

/-- The end of a tag is not taken for one more attribute. -/
theorem tagRest_nil_ne_cons (ha : a.Legible) :
    tagRest selfClosing [] ≠ tagRest selfClosing' (a :: as) := by
  intro h
  cases selfClosing with
  | false => exact absurd (List.cons.inj h).1 (by decide)
  | true =>
    -- both go on with a space, and then only the end has a slash
    have hslash := (List.cons.inj h).2.symm
    cases a with
    | named name v => exact ShownAttribute.named_append_ne ha (by decide) hslash
    | spread code => exact absurd (List.cons.inj hslash).1 (by decide)

theorem tagRest_inj (has : ∀ a ∈ as, a.Legible) (hbs : ∀ b ∈ bs, b.Legible)
    (h : tagRest selfClosing as = tagRest selfClosing' bs) :
    selfClosing = selfClosing' ∧ as = bs := by
  induction as generalizing bs with
  | nil =>
    cases bs with
    | nil =>
      have hend : ∀ s s' : Bool, tagRest s [] = tagRest s' [] → s = s' := by decide
      exact ⟨hend _ _ h, rfl⟩
    | cons b bs => exact absurd h (tagRest_nil_ne_cons (hbs b List.mem_cons_self))
  | cons a as ih =>
    obtain ⟨ha, has_tail⟩ := List.forall_mem_cons.mp has
    cases bs with
    | nil => exact absurd h.symm (tagRest_nil_ne_cons ha)
    | cons b bs =>
      -- the first attributes are the same, whatever comes behind them
      obtain ⟨hb, hbs_tail⟩ := List.forall_mem_cons.mp hbs
      obtain ⟨rfl, hrest⟩ := ShownAttribute.eq_of_append ha hb (follows_tagRest _ _)
        (follows_tagRest _ _) (List.cons.inj h).2
      obtain ⟨rfl, rfl⟩ := ih has_tail hbs_tail hrest
      exact ⟨rfl, rfl⟩

end Reading

namespace Legible

variable {tag tag' : Option String} {attributes attributes' : List Attribute}

theorem tag_not_mark (h : Legible tag attributes) :
    ∀ c ∈ (tag.getD "").toList, ¬(c = ' ' ∨ c = '>') := by
  cases tag with
  | none => simp
  | some name =>
    obtain ⟨-, hspace, hend⟩ := h.tag name rfl
    rintro c hc (rfl | rfl)
    · exact hspace hc
    · exact hend hc

/-- No tag at all is not taken for a tag. -/
theorem tag_eq (h : Legible tag attributes) (h' : Legible tag' attributes')
    (heq : tag.getD "" = tag'.getD "") : tag = tag' := by
  cases tag with
  | none =>
    cases tag' with
    | none => rfl
    | some name' => exact absurd heq.symm (h'.tag name' rfl).1
  | some name =>
    cases tag' with
    | none => exact absurd heq (h.tag name rfl).1
    | some name' => exact congrArg some heq

/-- A tag is read back in front of what stands behind it. -/
theorem eq_of_append {x y : List Char} (h : Legible tag attributes)
    (h' : Legible tag' attributes') (hx : Follows x) (hy : Follows y)
    (heq : (tag.getD "").toList ++ x = (tag'.getD "").toList ++ y) : tag = tag' ∧ x = y := by
  cases x with
  | nil => exact hx.elim
  | cons c x =>
    cases y with
    | nil => exact hy.elim
    | cons d y =>
      obtain ⟨htag, rfl, rfl⟩ := eq_of_cut_at_mark h.tag_not_mark h'.tag_not_mark hx hy heq
      exact ⟨h.tag_eq h' (String.toList_inj.mp htag), rfl⟩

end Legible

/-- Opening tags whose parts do not hold what ends them have one signature exactly if they
show the same: the same tag or none, the same attributes in the same order, and the same
end. What is below the elements, and below the expressions among their attributes, does
not matter. -/
theorem signature_eq_iff {tag tag' : Option String} {as as' : List Attribute}
    (h : Legible tag as) (h' : Legible tag' as') (selfClosing selfClosing' : Bool)
    (children children' : List Node) :
    (Node.element tag as selfClosing children).signature =
        (Node.element tag' as' selfClosing' children').signature ↔
      tag = tag' ∧ selfClosing = selfClosing' ∧
        as.map Attribute.shown = as'.map Attribute.shown := by
  rw [signature_element, signature_element]
  constructor
  · intro heq
    have hchars := (List.cons.inj (String.ofList_injective (Option.some.inj heq))).2
    obtain ⟨htag, hrest⟩ := h.eq_of_append h' (follows_tagRest _ _) (follows_tagRest _ _) hchars
    exact ⟨htag, tagRest_inj (List.forall_mem_map.mpr h.attributes)
      (List.forall_mem_map.mpr h'.attributes) hrest⟩
  · rintro ⟨rfl, rfl, hshown⟩
    rw [hshown]

-- With a quote in its text, one attribute can pass for two.
example : (Node.element (some "p") [.named "a" (.text "\" b=\"")] false []).signature =
    (Node.element (some "p") [.named "a" (.text ""), .named "b" (.text "")] false
      []).signature := by
  decide

/-- Attributes with next to nothing in them, written in each way. -/
def scantAttributes : List (List Attribute) :=
  [[], [.named "a" .flag], [.named "a" (.text "")], [.named "a" (.expression "" [])],
    [.named "a" (.expression "\x7b\x7d" [])],
    [.named "a" (.element (.element none [] false []))], [.spread "a" []], [.spread "" []],
    [.named "a" .flag, .named "a" .flag]]

theorem scantAttributes_told_apart :
    (∀ as ∈ scantAttributes, Legible (some "p") as) ∧
      (scantAttributes.Pairwise fun as bs =>
        (Node.element (some "p") as false []).signature ≠
          (Node.element (some "p") bs false []).signature) ∧
      Legible (some "p") [.named "a" (.expression "<>" [])] ∧
      (Node.element (some "p") [.named "a" (.element (.element none [] false []))] false
          []).signature =
        (Node.element (some "p") [.named "a" (.expression "<>" [])] false []).signature := by
  have hlegible {as : List Attribute} (h : ∀ a ∈ as, a.shown.Legible) : Legible (some "p") as := by
    refine ⟨?_, h⟩
    rintro name hname
    obtain rfl := Option.some.inj hname
    decide
  have hscant : ∀ as ∈ scantAttributes, ∀ a ∈ as, a.shown.Legible := by decide
  have hshown : scantAttributes.Pairwise fun as bs =>
      as.map Attribute.shown ≠ bs.map Attribute.shown := by decide
  have hexpression : Legible (some "p") [.named "a" (.expression "<>" [])] :=
    hlegible (by decide)
  refine ⟨fun as has => hlegible (hscant as has), ?_, hexpression, ?_⟩
  · refine hshown.imp_of_mem fun has hbs hne heq => hne ?_
    exact ((signature_eq_iff (hlegible (hscant _ has)) (hlegible (hscant _ hbs)) false false
      [] []).mp heq).2.2
  · exact (signature_eq_iff (hlegible (by decide)) hexpression false false [] []).mpr
      ⟨rfl, rfl, by decide⟩

end ComponentLikeness.Component
