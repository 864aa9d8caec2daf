import ComponentLikeness.Component.Node
import ComponentLikeness.Syntax.Tag

/-!
# From syntax trees to component trees

Each node of a syntax tree becomes one node of the component tree. Names and
tags move into the node that they belong to, the attributes of an opening tag
into its element, and `export default` keeps only its target.
-/

namespace ComponentLikeness.Component

open Grammar (Source)
open Syntax Text

/-! ## Names, keys and tags -/

/-- No tag at all, if its name is empty. -/
def nonEmpty (text : String) : Option String := if text.isEmpty then none else some text

/-- The text of a string without its quotes. -/
def stripQuotes (text : String) : String :=
  ((stripMarks '"' '"' text).or (stripMarks '\'' '\'' text)).getD text

/-- The text of an expression without its braces, its blanks collapsed. -/
def expressionText (text : String) : String :=
  collapseBlanks ((stripMarks '\x7b' '\x7d' text).getD text)

/-- The key of a property, unless it is computed. -/
def propertyKey (source : Source) (key : SyntaxTree) : Option String :=
  if ["property_identifier", "private_property_identifier", "number"].contains key.kind then
    some (key.text source)
  else if key.kind = "string" then some (stripQuotes (key.text source))
  else none

/-- The key that one property of an object pattern takes out. -/
def patternKey (source : Source) (property : SyntaxTree) : Option String :=
  if property.kind = "shorthand_property_identifier_pattern" then some (property.text source)
  else if property.kind = "pair_pattern" then
    (property.child? "key").bind (propertyKey source)
  else if property.kind = "object_assignment_pattern" then
    ((property.child? "left").filter fun left =>
      left.kind = "shorthand_property_identifier_pattern").map fun left => left.text source
  else none

/-- The keys that an object pattern takes out, in order. -/
def patternKeys (source : Source) (pattern : SyntaxTree) : List String :=
  pattern.namedChildren.filterMap (patternKey source)

/-! ## Parameters -/

mutual

/-- The shape of a parameter pattern. -/
def patternParam (source : Source) : SyntaxTree → Param
  | .node info children =>
    if info.kind = "identifier" then .identifier (SyntaxTree.text source (.node info children))
    else if info.kind = "object_pattern" then
      .object (patternKeys source (.node info children))
    else if info.kind = "assignment_pattern" then leftParam source children
    else .unsupported

/-- The shape of the pattern on the left of a default value. -/
def leftParam (source : Source) : List SyntaxTree → Param
  | [] => .unsupported
  | t :: ts => if t.plays "left" then patternParam source t else leftParam source ts

end

/-- The shape of one entry of a parameter list. -/
def listedParam (source : Source) (param : SyntaxTree) : Param :=
  if param.kind = "required_parameter" || param.kind = "optional_parameter" then
    ((param.child? "pattern").map (patternParam source)).getD .unsupported
  else patternParam source param

/-- The parameters of a function: a list in parentheses, or a single one. -/
def params (source : Source) (function : SyntaxTree) : List Param :=
  match function.child? "parameters" with
  | some list =>
    (list.namedChildren.filter fun param => param.kind != "comment").map (listedParam source)
  | none =>
    match function.child? "parameter" with
    | some single => [patternParam source single]
    | none => []

/-! ## Nodes -/

/-- How the node of a kind is written, if it is a function. -/
def functionKind (kind : String) : Option FunctionKind :=
  if kind = "function_declaration" || kind = "generator_function_declaration" then
    some .declaration
  else if kind = "function_expression" || kind = "function" || kind = "generator_function" then
    some .expression
  else if kind = "arrow_function" then some .arrow
  else if kind = "method_definition" then some .method
  else none

/-- Whether a node of the kind is a class. -/
def isClass (kind : String) : Bool :=
  ["class_declaration", "abstract_class_declaration", "class"].contains kind

/-- Whether a node of the kind is an element. -/
def isElement (kind : String) : Bool :=
  ["jsx_element", "jsx_self_closing_element", "jsx_fragment"].contains kind

/-- A function that is exported by default is declared. -/
def declared : Node → Node
  | .function .expression name params children => .function .declaration name params children
  | node => node

/-- The text of the name of a node. -/
def nameText (source : Source) (t : SyntaxTree) : Option String :=
  (t.child? "name").map (SyntaxTree.text source)

/-- The tag of an element by its opening tag. -/
def openTag (source : Source) (t : SyntaxTree) : Option String :=
  (t.child? "open_tag").bind fun tag => nonEmpty (tagName source tag)

/-- The names of the roles without one of them. -/
def dropRole (role : String) (roles : List String) : List String := roles.erase role

mutual

/-- The component node of a syntax node. -/
def nodeOf (source : Source) : SyntaxTree → Node
  | .node info children =>
    let t := SyntaxTree.node info children
    if info.kind = "program" then .program (nodesBut source [] children)
    else if info.kind = "export_statement" then
      match
        if children.any (fun c => c.kind = "default") then
          (targetWith source "declaration" children).or (targetWith source "value" children)
        else none
      with
      | some target => .exportDefault (declared target)
      | none => .other info.kind (nodesBut source [] children)
    else
      match functionKind info.kind with
      | some kind =>
        .function kind (if kind = .arrow then none else nameText source t) (params source t)
          (nodesBut source ["name"] children)
      | none =>
        if isClass info.kind then
          .class_ (nameText source t) (nodesBut source ["name"] children)
        else if info.kind = "identifier" then .identifier (t.text source)
        else if info.kind = "jsx_element" then
          .element (openTag source t) (openAttributes source children) false
            (nodesBut source ["open_tag", "close_tag"] children)
        else if info.kind = "jsx_self_closing_element" then
          .element (nonEmpty (tagName source t)) (attributesOf source children) true []
        else if info.kind = "jsx_fragment" then
          .element none [] false (nodesBut source [] children)
        else .other info.kind (nodesBut source [] children)

/-- The component nodes of the named trees, apart from the first that plays
each of the roles. -/
def nodesBut (source : Source) (roles : List String) : List SyntaxTree → List Node
  | [] => []
  | t :: ts =>
    match roles.find? fun role => t.plays role with
    | some role => nodesBut source (dropRole role roles) ts
    | none =>
      if t.info.named then nodeOf source t :: nodesBut source roles ts
      else nodesBut source roles ts

/-- The component node of the first tree that plays the role. -/
def targetWith (source : Source) (role : String) : List SyntaxTree → Option Node
  | [] => none
  | t :: ts => if t.plays role then some (nodeOf source t) else targetWith source role ts

/-- The attributes in the opening tag among the trees. -/
def openAttributes (source : Source) : List SyntaxTree → List Attribute
  | [] => []
  | .node info children :: ts =>
    if SyntaxTree.plays "open_tag" (.node info children) then attributesOf source children
    else openAttributes source ts

/-- The attributes among the parts of a tag: an expression stands for a spread,
and all else is no attribute. -/
def attributesOf (source : Source) : List SyntaxTree → List Attribute
  | [] => []
  | .node info children :: ts =>
    if !info.named then attributesOf source ts
    else if info.kind = "jsx_attribute" then
      .named (attributeName source children) (valueAfterName source children) ::
        attributesOf source ts
    else if info.kind = "jsx_expression" then
      .spread (expressionText (SyntaxTree.text source (.node info children)))
        (nodesBut source [] children) :: attributesOf source ts
    else attributesOf source ts

/-- The name of an attribute: its first part that is no comment. -/
def attributeName (source : Source) : List SyntaxTree → String
  | [] => ""
  | t :: ts =>
    if t.info.named && t.kind != "comment" then t.text source else attributeName source ts

/-- The value of an attribute: its second part that is no comment. -/
def valueAfterName (source : Source) : List SyntaxTree → AttributeValue
  | [] => .flag
  | t :: ts =>
    if t.info.named && t.kind != "comment" then attributeValue source ts
    else valueAfterName source ts

/-- The value that the first part that is no comment gives an attribute. -/
def attributeValue (source : Source) : List SyntaxTree → AttributeValue
  | [] => .flag
  | .node info children :: ts =>
    let t := SyntaxTree.node info children
    if !info.named || info.kind = "comment" then attributeValue source ts
    else if info.kind = "string" then .text (stripQuotes (t.text source))
    else if info.kind = "jsx_expression" then
      .expression (expressionText (t.text source)) (nodesBut source [] children)
    else if isElement info.kind then .element (nodeOf source t)
    else .expression (collapseBlanks (t.text source)) [nodeOf source t]

end

end ComponentLikeness.Component
