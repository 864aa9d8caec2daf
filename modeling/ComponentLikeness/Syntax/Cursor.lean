import ComponentLikeness.Syntax.Tree

/-!
# Cursors

A cursor stands on a node of a tree and remembers the way back: it moves to
the first child, to the next sibling and to the parent. Walking a tree with it
needs no recursion, so a tree of any height can be measured.
-/

namespace ComponentLikeness.Syntax

/-- A place in a tree: the node, the siblings behind it, and for each ancestor,
the nearest first, the ancestor with the siblings behind it. -/
structure Cursor where
  focus : SyntaxTree
  behind : List SyntaxTree
  above : List (SyntaxTree × List SyntaxTree)

namespace Cursor

/-- The cursor on the root of a tree. -/
def ofRoot (t : SyntaxTree) : Cursor := ⟨t, [], []⟩

/-- The cursor on the first child. -/
def firstChild? (c : Cursor) : Option Cursor :=
  match c.focus.children with
  | [] => none
  | t :: ts => some ⟨t, ts, (c.focus, c.behind) :: c.above⟩

/-- The cursor on the next sibling. -/
def nextSibling? (c : Cursor) : Option Cursor :=
  match c.behind with
  | [] => none
  | t :: ts => some ⟨t, ts, c.above⟩

/-- The cursor on the parent. -/
def parent? (c : Cursor) : Option Cursor :=
  match c.above with
  | [] => none
  | (t, ts) :: above => some ⟨t, ts, above⟩

/-- The number of steps from the root. -/
def depth (c : Cursor) : Nat := c.above.length

/-- The number of nodes behind the ancestors. -/
def sizeBehind : List (SyntaxTree × List SyntaxTree) → Nat
  | [] => 0
  | (_, ts) :: above => SyntaxTree.sizeOfList ts + sizeBehind above

/-- The number of nodes that a walk in pre-order visits once it has left the
node and everything below it. -/
def pendingBehind (c : Cursor) : Nat := SyntaxTree.sizeOfList c.behind + sizeBehind c.above

/-- The number of nodes that a walk in pre-order still visits, the node itself
included. -/
def pending (c : Cursor) : Nat := c.focus.size + c.pendingBehind

theorem pending_firstChild {c d : Cursor} (h : c.firstChild? = some d) :
    d.pending + 1 = c.pending := by
  obtain ⟨⟨i, cs⟩, behind, above⟩ := c
  cases cs with
  | nil => simp [firstChild?] at h
  | cons t ts =>
    simp only [firstChild?, SyntaxTree.children_node, Option.some.injEq] at h
    subst h
    simp only [pending, pendingBehind, sizeBehind, SyntaxTree.size, SyntaxTree.sizeOfList]
    omega

theorem pending_nextSibling {c d : Cursor} (h : c.nextSibling? = some d) :
    d.pending = c.pendingBehind := by
  obtain ⟨focus, behind, above⟩ := c
  cases behind with
  | nil => simp [nextSibling?] at h
  | cons t ts =>
    simp only [nextSibling?, Option.some.injEq] at h
    subst h
    simp only [pending, pendingBehind, SyntaxTree.sizeOfList]
    omega

theorem pendingBehind_parent {c d : Cursor} (hs : c.nextSibling? = none)
    (h : c.parent? = some d) : d.pendingBehind = c.pendingBehind := by
  obtain ⟨focus, behind, above⟩ := c
  cases behind with
  | cons t ts => simp [nextSibling?] at hs
  | nil =>
    cases above with
    | nil => simp [parent?] at h
    | cons entry further =>
      simp only [parent?, Option.some.injEq] at h
      subst h
      simp [pendingBehind, sizeBehind, SyntaxTree.sizeOfList]

theorem above_parent {c d : Cursor} (h : c.parent? = some d) :
    d.above.length + 1 = c.above.length := by
  obtain ⟨focus, behind, above⟩ := c
  cases above with
  | nil => simp [parent?] at h
  | cons entry further =>
    simp only [parent?, Option.some.injEq] at h
    subst h
    rfl

/-- The cursor on the next node in pre-order that is not below this one, and a
counter that falls by one with each step up. -/
def advance (c : Cursor) (counter : Nat) : Option (Cursor × Nat) :=
  match c.nextSibling? with
  | some d => some (d, counter)
  | none =>
    match h : c.parent? with
    | some d => advance d (counter - 1)
    | none => none
termination_by c.above.length
decreasing_by
  have := above_parent h
  omega

theorem pending_advance {c d : Cursor} {counter counter' : Nat}
    (h : c.advance counter = some (d, counter')) : d.pending = c.pendingBehind := by
  fun_induction advance c counter with
  | case1 c counter e he =>
    simp only [Option.some.injEq, Prod.mk.injEq] at h
    obtain ⟨rfl, -⟩ := h
    exact pending_nextSibling he
  | case2 c counter he e hp ih => rw [ih h, pendingBehind_parent he hp]
  | case3 => simp at h

/-- The cursor on the next node in pre-order and its depth. -/
def next (c : Cursor) (depth : Nat) : Option (Cursor × Nat) :=
  match c.firstChild? with
  | some d => some (d, depth + 1)
  | none => c.advance depth

theorem pending_next {c d : Cursor} {depth depth' : Nat}
    (h : c.next depth = some (d, depth')) : d.pending < c.pending := by
  unfold next at h
  split at h
  · rename_i e he
    obtain ⟨rfl, -⟩ := Prod.mk.inj (Option.some.inj h)
    have := pending_firstChild he
    omega
  · have := pending_advance h
    have := SyntaxTree.size_pos c.focus
    simp only [pending] at *
    omega

end Cursor

end ComponentLikeness.Syntax
