import ComponentLikeness.Component.Harvest

/-!
# What a harvest gathers

The walk over a component tree changes four things in one pass, two of which only
the first find decides. Here the walk is compared with the plain list of all
nodes in visiting order (`Node.nodes`).

`Gathers nodes values before after` says what lies between two harvests: the
default export and the signature come from the first of the nodes that has one,
the declarations of the nodes are added in order, and the style tokens are
enlarged by the values. Such steps compose (`Gathers.append`), so each part of
the walk needs to be looked at only by itself. The fingerprint then is what
`fingerprintWith_eq_reading_of_nodes` reads off the list.
-/

namespace ComponentLikeness.Component

open Text

/-! ## What a single node holds -/

/-- The target of a default export. -/
def Node.exportTarget? : Node → Option Node
  | .exportDefault target => some target
  | _ => none

/-- The function that is declared. -/
def Node.declaration? : Node → Option Declaration
  | .function .declaration name params _ => some ⟨name, params⟩
  | _ => none

/-- Whether the node is an element. -/
def Node.isElement : Node → Bool
  | .element .. => true
  | _ => false

/-- The literal of an attribute for style. -/
def Attribute.styleValue? (styleAttributes : List String) : Attribute → Option String
  | .named name (.text content) => if name ∈ styleAttributes then some content else none
  | _ => none

/-- The literals of the attributes for style of an element. -/
def Node.styleValues (styleAttributes : List String) : Node → List String
  | .element _ attributes _ _ => attributes.filterMap (Attribute.styleValue? styleAttributes)
  | _ => []

theorem Node.isSome_signature (n : Node) : n.signature.isSome = n.isElement := by
  cases n <;> simp [Node.signature, Node.isElement]

/-- An opening tag is never empty. -/
theorem Node.signature_ne_empty {n : Node} {s : String} (h : n.signature = some s) : s ≠ "" := by
  cases n <;> simp [Node.signature] at h
  subst h
  simp

/-! ## Steps of the walk -/

/-- What the walk gathers on the way from one harvest to another. -/
structure Gathers (nodes : List Node) (values : List String) (before after : Harvest) :
    Prop where
  defaultExport :
    after.defaultExport = before.defaultExport.or (nodes.findSome? Node.exportTarget?)
  declarations :
    after.declarations.toList =
      before.declarations.toList ++ nodes.filterMap Node.declaration?
  styleTokens : ∀ x, x ∈ after.styleTokens ↔ x ∈ before.styleTokens ∨ x ∈ values
  signature : after.signature = before.signature.or (nodes.findSome? Node.signature)

namespace Gathers

variable {nodes nodes' : List Node} {values values' : List String} {h h' h'' : Harvest}

theorem refl (h : Harvest) : Gathers [] [] h h :=
  ⟨by simp, by simp, by simp, by simp⟩

/-- Two steps in a row are one step. -/
theorem append (first : Gathers nodes values h h') (second : Gathers nodes' values' h' h'') :
    Gathers (nodes ++ nodes') (values ++ values') h h'' where
  defaultExport := by
    rw [second.defaultExport, first.defaultExport, List.findSome?_append, Option.or_assoc]
  declarations := by
    rw [second.declarations, first.declarations, List.filterMap_append, List.append_assoc]
  styleTokens x := by
    rw [second.styleTokens, first.styleTokens, List.mem_append, or_assoc]
  signature := by
    rw [second.signature, first.signature, List.findSome?_append, Option.or_assoc]

/-- The order and repetition of values do not matter. -/
theorem of_values (step : Gathers nodes values h h') (hv : ∀ x, x ∈ values ↔ x ∈ values') :
    Gathers nodes values' h h' :=
  { step with styleTokens := fun x => by rw [step.styleTokens, hv] }

theorem addExport (h : Harvest) (target : Node) :
    Gathers [.exportDefault target] [] h (h.addExport target) := by
  constructor <;> simp [Harvest.addExport, Node.exportTarget?, Node.declaration?, Node.signature]

theorem addFunction (h : Harvest) (kind : FunctionKind) (name : Option String)
    (params : List Param) (children : List Node) :
    Gathers [.function kind name params children] [] h (h.addFunction kind name params) := by
  cases kind <;> constructor <;>
    simp [Harvest.addFunction, Node.exportTarget?, Node.declaration?, Node.signature]

theorem addElement (h : Harvest) (tag : Option String) (attributes : List Attribute)
    (selfClosing : Bool) (children : List Node) :
    Gathers [.element tag attributes selfClosing children] [] h
      (h.addElement (.element tag attributes selfClosing children)) := by
  constructor <;> simp [Harvest.addElement, Node.exportTarget?, Node.declaration?, Node.signature]

theorem addStyle (styleAttributes : List String) (h : Harvest) (name content : String) :
    Gathers [] (Attribute.styleValue? styleAttributes (.named name (.text content))).toList h
      (h.addStyle styleAttributes name content) := by
  unfold Harvest.addStyle Attribute.styleValue?
  by_cases hname : name ∈ styleAttributes
  · constructor <;> simp [hname, or_comm]
  · constructor <;> simp [hname]

/-- A node that holds nothing itself. -/
theorem skip {n : Node} (h : Harvest) (hexport : n.exportTarget? = none)
    (hdecl : n.declaration? = none) (hsig : n.signature = none) : Gathers [n] [] h h := by
  constructor <;> simp [hexport, hdecl, hsig]

end Gathers

/-! ## The walk -/

mutual

/-- Visiting a node gathers from all that it holds. -/
theorem Gathers.visit (styles : List String) (h : Harvest) : ∀ n : Node,
    Gathers n.nodes (n.nodes.flatMap (Node.styleValues styles)) h (h.visit styles n)
  | .program body => by
    have step := (Gathers.skip (n := .program body) h rfl rfl (by simp [Node.signature])).append
      (Gathers.visitAll styles h body)
    simpa [Node.nodes, Node.styleValues, Harvest.visit] using step
  | .exportDefault target => by
    have step := (Gathers.addExport h target).append
      (Gathers.visit styles (h.addExport target) target)
    simpa [Node.nodes, Node.styleValues, Harvest.visit] using step
  | .function kind name params children => by
    have step := (Gathers.addFunction h kind name params children).append
      (Gathers.visitAll styles (h.addFunction kind name params) children)
    simpa [Node.nodes, Node.styleValues, Harvest.visit] using step
  | .class_ name children => by
    have step := (Gathers.skip (n := .class_ name children) h rfl rfl
      (by simp [Node.signature])).append (Gathers.visitAll styles h children)
    simpa [Node.nodes, Node.styleValues, Harvest.visit] using step
  | .identifier name => by
    simpa [Node.nodes, Node.styleValues, Harvest.visit] using
      Gathers.skip (n := .identifier name) h rfl rfl (by simp [Node.signature])
  | .element tag attributes selfClosing children => by
    have step := (Gathers.addElement h tag attributes selfClosing children).append
      ((Gathers.visitAttributes styles
        (h.addElement (.element tag attributes selfClosing children)) attributes).append
        (Gathers.visitAll styles _ children))
    simpa [Node.nodes, Node.styleValues, Harvest.visit] using step
  | .other kind children => by
    have step := (Gathers.skip (n := .other kind children) h rfl rfl
      (by simp [Node.signature])).append (Gathers.visitAll styles h children)
    simpa [Node.nodes, Node.styleValues, Harvest.visit] using step

theorem Gathers.visitAll (styles : List String) (h : Harvest) : ∀ ns : List Node,
    Gathers (Node.nodesOfList ns) ((Node.nodesOfList ns).flatMap (Node.styleValues styles)) h
      (h.visitAll styles ns)
  | [] => by simpa [Node.nodesOfList, Harvest.visitAll] using Gathers.refl h
  | n :: ns => by
    have step := (Gathers.visit styles h n).append
      (Gathers.visitAll styles (h.visit styles n) ns)
    simpa [Node.nodesOfList, Harvest.visitAll] using step

/-- The literals of the attributes are gathered here, on behalf of their element. -/
theorem Gathers.visitAttributes (styles : List String) (h : Harvest) : ∀ as : List Attribute,
    Gathers (Attribute.nodesOfList as)
      (as.filterMap (Attribute.styleValue? styles) ++
        (Attribute.nodesOfList as).flatMap (Node.styleValues styles)) h
      (h.visitAttributes styles as)
  | [] => by simpa [Attribute.nodesOfList, Harvest.visitAttributes] using Gathers.refl h
  | a :: as => by
    have step := (Gathers.visitAttribute styles h a).append
      (Gathers.visitAttributes styles (h.visitAttribute styles a) as)
    rw [Attribute.nodesOfList, Harvest.visitAttributes]
    -- what the first attribute holds is visited between its literal and the others
    refine step.of_values fun x => ?_
    cases hvalue : a.styleValue? styles <;> simp [hvalue, or_left_comm]

theorem Gathers.visitAttribute (styles : List String) (h : Harvest) : ∀ a : Attribute,
    Gathers a.nodes
      ((a.styleValue? styles).toList ++ a.nodes.flatMap (Node.styleValues styles)) h
      (h.visitAttribute styles a)
  | .spread expression inner => by
    simpa [Attribute.nodes, Attribute.styleValue?, Harvest.visitAttribute] using
      Gathers.visitAll styles h inner
  | .named name .flag => by
    simpa [Attribute.nodes, AttributeValue.nodes, Attribute.styleValue?,
      Harvest.visitAttribute] using Gathers.refl h
  | .named name (.text content) => by
    simpa [Attribute.nodes, AttributeValue.nodes, Harvest.visitAttribute] using
      Gathers.addStyle styles h name content
  | .named name (.expression text inner) => by
    simpa [Attribute.nodes, AttributeValue.nodes, Attribute.styleValue?,
      Harvest.visitAttribute] using Gathers.visitAll styles h inner
  | .named name (.element node) => by
    simpa [Attribute.nodes, AttributeValue.nodes, Attribute.styleValue?,
      Harvest.visitAttribute] using Gathers.visit styles h node

end

/-! ## The fingerprint -/

section Fingerprint

variable (styles : List String) (scope : PropScope) (n : Node)

theorem name_fingerprintWith :
    (n.fingerprintWith styles scope).name =
      ((n.nodes.findSome? Node.exportTarget?).bind Node.exportedName).getD "" := by
  have hexport := (Gathers.visit styles {} n).defaultExport
  rw [Option.none_or] at hexport
  show ((Harvest.visit styles {} n).defaultExport.bind Node.exportedName).getD "" = _
  rw [hexport]

theorem declarations_visit :
    (Harvest.visit styles {} n).declarations.toList = n.nodes.filterMap Node.declaration? := by
  simpa using (Gathers.visit styles {} n).declarations

theorem mem_firstParamNames {x : String} {params : List Param} :
    x ∈ firstParamNames params ↔ ∃ p rest, params = p :: rest ∧ x ∈ p.propNames := by
  cases params <;> simp [firstParamNames]

theorem declaration?_eq_some_iff {m : Node} {d : Declaration} :
    m.declaration? = some d ↔ ∃ children, m = .function .declaration d.name d.params children := by
  cases m with
  | function kind name params children =>
    cases kind <;> cases d <;> simp [Node.declaration?]
  | _ => simp [Node.declaration?]

theorem mem_props_fingerprintWith {x : String} :
    x ∈ (n.fingerprintWith styles .allFunctions).props ↔
      ∃ name param params children,
        .function .declaration name (param :: params) children ∈ n.nodes ∧
          x ∈ param.propNames := by
  show x ∈ StringSet.ofList ((Harvest.visit styles {} n).declarations.toList.flatMap
    fun d => firstParamNames d.params) ↔ _
  rw [StringSet.mem_ofList, declarations_visit, List.mem_flatMap]
  constructor
  · rintro ⟨⟨name, params⟩, hd, hx⟩
    obtain ⟨m, hm, hdecl⟩ := List.mem_filterMap.mp hd
    obtain ⟨children, rfl⟩ := declaration?_eq_some_iff.mp hdecl
    obtain ⟨param, rest, rfl, hx⟩ := mem_firstParamNames.mp hx
    exact ⟨name, param, rest, children, hm, hx⟩
  · rintro ⟨name, param, params, children, hm, hx⟩
    exact ⟨⟨name, param :: params⟩, List.mem_filterMap.mpr ⟨_, hm, rfl⟩, hx⟩

theorem styleValue?_eq_some_iff {a : Attribute} {x : String} :
    a.styleValue? styles = some x ↔ ∃ name ∈ styles, a = .named name (.text x) := by
  cases a with
  | spread expression inner => simp [Attribute.styleValue?]
  | named name value =>
    cases value with
    | text content =>
      constructor
      · intro h
        obtain ⟨hname, hcontent⟩ := Option.ite_none_right_eq_some.mp h
        exact ⟨name, hname, by rw [Option.some.inj hcontent]⟩
      · rintro ⟨_, hname, ⟨⟩⟩
        exact if_pos hname
    | _ => simp [Attribute.styleValue?]

theorem mem_styleTokens_fingerprintWith {x : String} :
    x ∈ (n.fingerprintWith styles scope).styleTokens ↔
      ∃ tag attributes selfClosing children,
        .element tag attributes selfClosing children ∈ n.nodes ∧
          ∃ name ∈ styles, .named name (.text x) ∈ attributes := by
  show x ∈ (Harvest.visit styles {} n).styleTokens ↔ _
  rw [(Gathers.visit styles {} n).styleTokens, List.mem_flatMap]
  simp only [StringSet.not_mem_empty, false_or]
  constructor
  · rintro ⟨m, hm, hx⟩
    cases m with
    | element tag attributes selfClosing children =>
      obtain ⟨a, ha, hvalue⟩ := List.mem_filterMap.mp hx
      obtain ⟨name, hname, rfl⟩ := (styleValue?_eq_some_iff styles).mp hvalue
      exact ⟨tag, attributes, selfClosing, children, hm, name, hname, ha⟩
    | _ => exact absurd hx List.not_mem_nil
  · rintro ⟨tag, attributes, selfClosing, children, hm, name, hname, ha⟩
    exact ⟨_, hm, List.mem_filterMap.mpr
      ⟨_, ha, (styleValue?_eq_some_iff styles).mpr ⟨name, hname, rfl⟩⟩⟩

/-- Elements are the nodes that have a signature. -/
theorem findSome?_signature (ns : List Node) :
    ns.findSome? Node.signature = (ns.find? Node.isElement).bind Node.signature := by
  induction ns with
  | nil => rfl
  | cons m ns ih =>
    have hm := m.isSome_signature
    cases hs : m.signature with
    | none =>
      rw [hs] at hm
      rw [List.findSome?_cons, hs, List.find?_cons, ← hm]
      exact ih
    | some s =>
      rw [hs] at hm
      rw [List.findSome?_cons, hs, List.find?_cons, ← hm]
      exact hs.symm

theorem signature_fingerprintWith :
    (n.fingerprintWith styles scope).signature =
      ((n.nodes.find? Node.isElement).bind Node.signature).getD "" := by
  have hsig := (Gathers.visit styles {} n).signature
  rw [Option.none_or, findSome?_signature] at hsig
  show (Harvest.visit styles {} n).signature.getD "" = _
  rw [hsig]

theorem signature_fingerprintWith_eq_empty_iff :
    (n.fingerprintWith styles scope).signature = "" ↔ ∀ m ∈ n.nodes, ¬ m.isElement := by
  rw [signature_fingerprintWith]
  cases hfind : n.nodes.find? Node.isElement with
  | none => simpa using List.find?_eq_none.mp hfind
  | some m =>
    have helement : m.isElement := List.find?_some hfind
    obtain ⟨s, hs⟩ := Option.isSome_iff_exists.mp (m.isSome_signature.trans helement)
    constructor
    · intro hempty
      refine absurd ?_ (Node.signature_ne_empty hs)
      simpa [hs] using hempty
    · intro hnone
      exact absurd helement (hnone m (List.mem_of_find?_eq_some hfind))

end Fingerprint

/-- The fingerprint of a tree says of the list of its nodes in visiting order: the
name under which the target of the first default export can be exported, if it
can be at all; the names in the first parameters of all declared functions; the
literals of all attributes for style; and the opening tag of the first element,
which is empty only if there is no element. -/
theorem fingerprintWith_eq_reading_of_nodes (styles : List String) (scope : PropScope)
    (n : Node) :
    (n.fingerprintWith styles scope).name =
        ((n.nodes.findSome? Node.exportTarget?).bind Node.exportedName).getD "" ∧
    (∀ x, x ∈ (n.fingerprintWith styles .allFunctions).props ↔
      ∃ name param params children,
        .function .declaration name (param :: params) children ∈ n.nodes ∧
          x ∈ param.propNames) ∧
    (∀ x, x ∈ (n.fingerprintWith styles scope).styleTokens ↔
      ∃ tag attributes selfClosing children,
        .element tag attributes selfClosing children ∈ n.nodes ∧
          ∃ name ∈ styles, .named name (.text x) ∈ attributes) ∧
    (n.fingerprintWith styles scope).signature =
        ((n.nodes.find? Node.isElement).bind Node.signature).getD "" ∧
    ((n.fingerprintWith styles scope).signature = "" ↔ ∀ m ∈ n.nodes, ¬ m.isElement) :=
  ⟨name_fingerprintWith styles scope n, fun _ => mem_props_fingerprintWith styles n,
    fun _ => mem_styleTokens_fingerprintWith styles scope n,
    signature_fingerprintWith styles scope n,
    signature_fingerprintWith_eq_empty_iff styles scope n⟩

end ComponentLikeness.Component
