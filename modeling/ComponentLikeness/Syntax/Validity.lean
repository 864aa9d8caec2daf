import ComponentLikeness.Error
import ComponentLikeness.Syntax.Cursor
import ComponentLikeness.Syntax.Tag

/-!
# Validity of syntax trees

A tree is fit for use if no node lies too deep, no node is faulty and every
element is closed under the name that opened it. The faults are looked for in
this order, and the first one in pre-order is reported.
-/

namespace ComponentLikeness.Syntax

open Grammar (Position Source)

/-! ## Depth -/

/-- The first node from the cursor on whose depth, counted from the given one,
exceeds the limit. -/
def Cursor.firstBeyond (limit : Nat) (c : Cursor) (depth : Nat) : Option SyntaxTree :=
  if limit < depth then some c.focus
  else
    match _h : c.next depth with
    | some step => step.1.firstBeyond limit step.2
    | none => none
termination_by c.pending
decreasing_by exact pending_next _h

/-- The first node that lies deeper than the limit; the root is at depth zero. -/
def firstTooDeep (limit : Nat) (t : SyntaxTree) : Option SyntaxTree :=
  (Cursor.ofRoot t).firstBeyond limit 0

/-! ## Faults -/

mutual

/-- The places of the faulty nodes in pre-order. Only below a damaged node can
there be any. -/
def faults : SyntaxTree → List Position
  | .node info children =>
    (if info.faulty then [info.position] else []) ++
      (if info.damaged then faultsOfList children else [])

/-- The places of the faulty nodes of the trees in pre-order. -/
def faultsOfList : List SyntaxTree → List Position
  | [] => []
  | t :: ts => faults t ++ faultsOfList ts

end

/-- The report on a tree with faults at the given places. -/
def faultReport (places : List Position) : SourceError :=
  let first := places.head?.getD ⟨0, 0⟩
  .invalid (max places.length 1) (first.line + 1) (first.column + 1)

/-! ## Tags -/

/-- The report on an element that is closed under another name. -/
def mismatch (source : Source) (element : SyntaxTree) : Option SourceError :=
  let opening := openingName source element
  let closing := closingName source element
  if element.kind = "jsx_element" && opening != closing then
    some (.mismatchedTag opening closing (element.info.position.line + 1))
  else none

mutual

/-- The report on the first element, in pre-order, that is closed under another
name. -/
def firstMismatch (source : Source) : SyntaxTree → Option SourceError
  | .node info children =>
    (mismatch source (.node info children)).or (firstMismatchOfList source children)

/-- The report on the first such element of the named trees. -/
def firstMismatchOfList (source : Source) : List SyntaxTree → Option SourceError
  | [] => none
  | t :: ts =>
    if t.info.named then (firstMismatch source t).or (firstMismatchOfList source ts)
    else firstMismatchOfList source ts

end

/-! ## All together -/

/-- Why a tree is unfit for use, if it is. -/
def flaw (source : Source) (maxDepth : Nat) (t : SyntaxTree) : Option SourceError :=
  match firstTooDeep maxDepth t with
  | some deep => some (.tooDeep maxDepth (deep.info.position.line + 1))
  | none => if t.info.damaged then some (faultReport (faults t)) else firstMismatch source t

/-- Accept a tree that is fit for use. -/
def validate (source : Source) (maxDepth : Nat) (t : SyntaxTree) : Except SourceError Unit :=
  match flaw source maxDepth t with
  | some e => .error e
  | none => .ok ()

end ComponentLikeness.Syntax
