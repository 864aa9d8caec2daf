import ComponentLikeness.Syntax.Tree
import ComponentLikeness.Text.Words

/-!
# Tags

The names in the opening and closing tags of elements, without their blanks.
A fragment has tags without a name.
-/

namespace ComponentLikeness.Syntax

open Grammar (Source)

/-- The name in an opening or closing tag without its blanks; empty for a
fragment. -/
def tagName (source : Source) (tag : SyntaxTree) : String :=
  ((tag.child? "name").map fun name => Text.removeBlanks (name.text source)).getD ""

/-- The name under which an element is opened. -/
def openingName (source : Source) (element : SyntaxTree) : String :=
  ((element.child? "open_tag").map (tagName source)).getD ""

/-- The name under which an element is closed. -/
def closingName (source : Source) (element : SyntaxTree) : String :=
  ((element.child? "close_tag").map (tagName source)).getD ""

end ComponentLikeness.Syntax
