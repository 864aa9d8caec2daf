import ComponentLikeness.Component.Fingerprint
import ComponentLikeness.Component.Signature
import ComponentLikeness.Settings.Basic

/-!
# Harvesting fingerprints

One walk over a component tree in visiting order gathers all that its
fingerprint is made of: the first target of a default export, the declared
functions, the style tokens and the signature of the first element.
-/

namespace ComponentLikeness.Component

open Text

/-- A declared function. -/
structure Declaration where
  name : Option String
  params : List Param
deriving DecidableEq, Inhabited

/-- What has been gathered so far. -/
structure Harvest where
  /-- The target of the first default export. -/
  defaultExport : Option Node := none
  /-- The declared functions in visiting order. -/
  declarations : Array Declaration := #[]
  styleTokens : StringSet := ∅
  /-- The signature of the first element. -/
  signature : Option String := none

namespace Harvest

/-- Remember the target of a default export, unless there has been one. -/
def addExport (h : Harvest) (target : Node) : Harvest :=
  { h with defaultExport := h.defaultExport.or (some target) }

/-- Remember a function if it is declared. -/
def addFunction (h : Harvest) (kind : FunctionKind) (name : Option String)
    (params : List Param) : Harvest :=
  if kind = .declaration then { h with declarations := h.declarations.push ⟨name, params⟩ }
  else h

/-- Remember the signature of an element, unless there has been one. -/
def addElement (h : Harvest) (element : Node) : Harvest :=
  { h with signature := h.signature.or element.signature }

/-- Remember the value of an attribute if it is one for style. -/
def addStyle (styleAttributes : List String) (h : Harvest) (name value : String) :
    Harvest :=
  if styleAttributes.contains name then
    { h with styleTokens := h.styleTokens.insert value }
  else h

end Harvest

mutual

/-- Gather from a node and all that it holds. -/
def Harvest.visit (styleAttributes : List String) (h : Harvest) : Node → Harvest
  | .program body => h.visitAll styleAttributes body
  | .exportDefault target => (h.addExport target).visit styleAttributes target
  | .function kind name params children =>
    (h.addFunction kind name params).visitAll styleAttributes children
  | .class_ _ children => h.visitAll styleAttributes children
  | .identifier _ => h
  | .element tag attributes selfClosing children =>
    ((h.addElement (.element tag attributes selfClosing children)).visitAttributes
      styleAttributes attributes).visitAll styleAttributes children
  | .other _ children => h.visitAll styleAttributes children

/-- Gather from several nodes. -/
def Harvest.visitAll (styleAttributes : List String) (h : Harvest) : List Node → Harvest
  | [] => h
  | n :: ns => (h.visit styleAttributes n).visitAll styleAttributes ns

/-- Gather from the attributes of an element. -/
def Harvest.visitAttributes (styleAttributes : List String) (h : Harvest) :
    List Attribute → Harvest
  | [] => h
  | a :: as => (h.visitAttribute styleAttributes a).visitAttributes styleAttributes as

/-- Gather from an attribute. -/
def Harvest.visitAttribute (styleAttributes : List String) (h : Harvest) :
    Attribute → Harvest
  | .spread _ inner => h.visitAll styleAttributes inner
  | .named _ .flag => h
  | .named name (.text content) => h.addStyle styleAttributes name content
  | .named _ (.expression _ inner) => h.visitAll styleAttributes inner
  | .named _ (.element node) => h.visit styleAttributes node

end

/-! ## Reading the harvest -/

/-- The names that the first parameter contributes. -/
def firstParamNames : List Param → List String
  | [] => []
  | p :: _ => p.propNames

namespace Harvest

/-- The parameters of the function that is exported by default; a bare name
stands for the first declaration of it. -/
def exportedParams (h : Harvest) : List Param :=
  match h.defaultExport with
  | some (.function _ _ params _) => params
  | some (.identifier name) =>
    ((h.declarations.toList.find? fun d => d.name = some name).map (·.params)).getD []
  | _ => []

/-- The names of the props in a scope. -/
def propNames (scope : PropScope) (h : Harvest) : List String :=
  match scope with
  | .allFunctions => h.declarations.toList.flatMap fun d => firstParamNames d.params
  | .defaultExport => firstParamNames h.exportedParams

/-- The fingerprint of what has been gathered. -/
def fingerprint (scope : PropScope) (h : Harvest) : Fingerprint where
  name := (h.defaultExport.bind Node.exportedName).getD ""
  props := .ofList (h.propNames scope)
  styleTokens := h.styleTokens
  signature := h.signature.getD ""

end Harvest

/-- The fingerprint of a component tree for some style attributes and a scope. -/
def Node.fingerprintWith (styleAttributes : List String) (scope : PropScope) (n : Node) :
    Fingerprint :=
  (Harvest.visit styleAttributes {} n).fingerprint scope

/-- The fingerprint of a component tree. -/
def Node.fingerprint (settings : AnalysisSettings) (n : Node) : Fingerprint :=
  n.fingerprintWith settings.effectiveStyleAttributes settings.effectivePropScope

end ComponentLikeness.Component
