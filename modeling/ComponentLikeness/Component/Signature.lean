import ComponentLikeness.Component.Node

/-!
# Structural signatures

The opening tag of an element in one canonical form, without anything below
it: `<tag a="x" flag b={expr} {...rest}>`, with ` />` for an element that
closes itself and `<>` for a fragment.
-/

namespace ComponentLikeness.Component

mutual

/-- The signature of an element; other nodes have none. -/
def Node.signature : Node → Option String
  | .element tag attributes selfClosing _ =>
    some ("<" ++ tag.getD "" ++ Attribute.signatures attributes ++
      (if selfClosing then " />" else ">"))
  | _ => none

/-- The attributes of a signature, a space in front of each. -/
def Attribute.signatures : List Attribute → String
  | [] => ""
  | a :: as => " " ++ a.signature ++ Attribute.signatures as

/-- An attribute in a signature; an element stands for its own signature. -/
def Attribute.signature : Attribute → String
  | .spread expression _ => "\x7b" ++ expression ++ "\x7d"
  | .named name .flag => name
  | .named name (.text content) => name ++ "=\"" ++ content ++ "\""
  | .named name (.expression text _) => name ++ "=\x7b" ++ text ++ "\x7d"
  | .named name (.element node) => name ++ "=\x7b" ++ node.signature.getD "" ++ "\x7d"

end

end ComponentLikeness.Component
