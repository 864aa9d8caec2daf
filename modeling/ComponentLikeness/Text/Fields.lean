/-!
# Fields

A text divided at every place of a mark, so that joining the fields with the
mark gives the text back.
-/

namespace ComponentLikeness.Text

/-- The parts of a text between the places of a mark; at least one. -/
def fieldsOf (mark : Char) : List Char → List (List Char)
  | [] => [[]]
  | c :: rest =>
    if c = mark then [] :: fieldsOf mark rest
    else
      match fieldsOf mark rest with
      | [] => [[c]]
      | first :: others => (c :: first) :: others

/-- The parts of a text between the places of a mark. -/
def fields (mark : Char) (text : String) : List String :=
  (fieldsOf mark text.toList).map String.ofList

/-- A name below a path, with one slash between them. -/
def joinPath (path name : String) : String :=
  if path.isEmpty || path.toList.getLast? = some '/' then path ++ name
  else path ++ "/" ++ name

end ComponentLikeness.Text
