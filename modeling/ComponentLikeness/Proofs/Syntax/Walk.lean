import ComponentLikeness.Syntax.Validity

/-!
# The walk of a cursor

A cursor that goes to the first child if there is one, and otherwise on to the
next sibling of the nearest ancestor that has one, comes by every node of a tree
in pre-order. `Cursor.ahead` lists what such a walk still comes by, each node
with its distance from the root. A step takes the first node off that list
(`Cursor.ahead_next`) and ends at its last one (`Cursor.ahead_of_next_eq_none`).
The counter of a walk always is the distance of its cursor from the root, so it
is never lowered at zero.

Hence the walk that looks for a node beyond a depth limit finds the first one of
the whole tree in pre-order (`firstTooDeep_eq_find?`).
-/

namespace ComponentLikeness.Syntax

namespace Cursor

/-! ## What lies ahead -/

/-- The nodes behind the ancestors in pre-order, with their distances from the
root. -/
def aheadAbove : List (SyntaxTree × List SyntaxTree) → List (SyntaxTree × Nat)
  | [] => []
  | (_, ts) :: above => SyntaxTree.nodesOfListAt above.length ts ++ aheadAbove above

/-- What the walk comes by once it has left the node and everything below it. -/
def aheadBehind (c : Cursor) : List (SyntaxTree × Nat) :=
  SyntaxTree.nodesOfListAt c.depth c.behind ++ aheadAbove c.above

/-- What the walk comes by, the node of the cursor first. -/
def ahead (c : Cursor) : List (SyntaxTree × Nat) :=
  c.focus.nodesAt c.depth ++ c.aheadBehind

theorem ahead_ofRoot (t : SyntaxTree) : (ofRoot t).ahead = t.nodesAt 0 := by
  simp [ahead, aheadBehind, aheadAbove, ofRoot, depth, SyntaxTree.nodesOfListAt]

/-- The node of the cursor comes first. -/
theorem exists_ahead_eq (c : Cursor) : ∃ rest, c.ahead = (c.focus, c.depth) :: rest := by
  obtain ⟨⟨info, children⟩, behind, above⟩ := c
  exact ⟨_, rfl⟩

/-! ## Single moves -/

variable {c d : Cursor}

theorem depth_firstChild (h : c.firstChild? = some d) : d.depth = c.depth + 1 := by
  obtain ⟨⟨info, children⟩, behind, above⟩ := c
  cases children with
  | nil => simp [firstChild?] at h
  | cons t ts =>
    simp only [firstChild?, SyntaxTree.children_node, Option.some.injEq] at h
    subst h
    rfl

theorem ahead_firstChild (h : c.firstChild? = some d) :
    c.ahead = (c.focus, c.depth) :: d.ahead := by
  obtain ⟨⟨info, children⟩, behind, above⟩ := c
  cases children with
  | nil => simp [firstChild?] at h
  | cons t ts =>
    simp only [firstChild?, SyntaxTree.children_node, Option.some.injEq] at h
    subst h
    simp [ahead, aheadBehind, aheadAbove, depth, SyntaxTree.nodesAt, SyntaxTree.nodesOfListAt]

theorem ahead_of_firstChild_eq_none (h : c.firstChild? = none) :
    c.ahead = (c.focus, c.depth) :: c.aheadBehind := by
  obtain ⟨⟨info, children⟩, behind, above⟩ := c
  cases children with
  | nil => simp [ahead, SyntaxTree.nodesAt, SyntaxTree.nodesOfListAt]
  | cons t ts => simp [firstChild?] at h

theorem aheadBehind_nextSibling (h : c.nextSibling? = some d) :
    d.depth = c.depth ∧ c.aheadBehind = d.ahead := by
  obtain ⟨focus, behind, above⟩ := c
  cases behind with
  | nil => simp [nextSibling?] at h
  | cons t ts =>
    simp only [nextSibling?, Option.some.injEq] at h
    subst h
    simp [ahead, aheadBehind, depth, SyntaxTree.nodesOfListAt]

theorem aheadBehind_parent (hs : c.nextSibling? = none) (h : c.parent? = some d) :
    c.aheadBehind = d.aheadBehind := by
  obtain ⟨focus, behind, above⟩ := c
  cases behind with
  | cons t ts => simp [nextSibling?] at hs
  | nil =>
    cases above with
    | nil => simp [parent?] at h
    | cons entry further =>
      simp only [parent?, Option.some.injEq] at h
      subst h
      simp [aheadBehind, aheadAbove, depth, SyntaxTree.nodesOfListAt]

theorem aheadBehind_of_parent_eq_none (hs : c.nextSibling? = none) (h : c.parent? = none) :
    c.aheadBehind = [] := by
  obtain ⟨focus, behind, above⟩ := c
  cases behind with
  | cons t ts => simp [nextSibling?] at hs
  | nil =>
    cases above with
    | nil => simp [aheadBehind, aheadAbove, SyntaxTree.nodesOfListAt]
    | cons entry further => simp [parent?] at h

/-! ## Steps of the walk -/

/-- Climbing lowers the counter once for each ancestor that is left, so it stays
the distance of the cursor from the root. -/
theorem aheadBehind_advance {counter' : Nat} (h : c.advance c.depth = some (d, counter')) :
    counter' = d.depth ∧ c.aheadBehind = d.ahead := by
  obtain ⟨counter, hcounter⟩ : ∃ counter, counter = c.depth := ⟨_, rfl⟩
  rw [← hcounter] at h
  fun_induction advance c counter with
  | case1 c counter e he =>
    obtain ⟨rfl, rfl⟩ := Prod.mk.inj (Option.some.inj h)
    obtain ⟨hdepth, hahead⟩ := aheadBehind_nextSibling he
    exact ⟨hcounter.trans hdepth.symm, hahead⟩
  | case2 c counter he e hp ih =>
    have hdepth : counter - 1 = e.depth := by
      have := above_parent hp
      simp only [depth] at *
      omega
    rw [aheadBehind_parent he hp]
    exact ih h hdepth
  | case3 => simp at h

theorem aheadBehind_of_advance_eq_none {counter : Nat} (h : c.advance counter = none) :
    c.aheadBehind = [] := by
  fun_induction advance c counter with
  | case1 => simp at h
  | case2 c counter he e hp ih =>
    rw [aheadBehind_parent he hp]
    exact ih h
  | case3 c counter he hp => exact aheadBehind_of_parent_eq_none he hp

/-- A step leaves the node of the cursor and nothing else behind. -/
theorem ahead_next {depth' : Nat} (h : c.next c.depth = some (d, depth')) :
    depth' = d.depth ∧ c.ahead = (c.focus, c.depth) :: d.ahead := by
  unfold next at h
  split at h
  · rename_i e he
    obtain ⟨rfl, rfl⟩ := Prod.mk.inj (Option.some.inj h)
    exact ⟨(depth_firstChild he).symm, ahead_firstChild he⟩
  · rename_i he
    obtain ⟨hdepth, hahead⟩ := aheadBehind_advance h
    exact ⟨hdepth, hahead ▸ ahead_of_firstChild_eq_none he⟩

theorem ahead_of_next_eq_none {counter : Nat} (h : c.next counter = none) :
    c.ahead = [(c.focus, c.depth)] := by
  unfold next at h
  split at h
  · simp at h
  · rename_i he
    rw [ahead_of_firstChild_eq_none he, aheadBehind_of_advance_eq_none h]

/-! ## The whole walk -/

/-- The walk stops at the first node ahead that lies beyond the limit. -/
theorem firstBeyond_eq_find? (limit : Nat) (c : Cursor) :
    c.firstBeyond limit c.depth =
      (c.ahead.find? fun n => decide (limit < n.2)).map Prod.fst := by
  obtain ⟨counter, hcounter⟩ : ∃ counter, counter = c.depth := ⟨_, rfl⟩
  rw [← hcounter]
  fun_induction firstBeyond limit c counter with
  | case1 c counter hlimit =>
    cases hstep : c.next counter with
    | none => simp [ahead_of_next_eq_none hstep, ← hcounter, hlimit]
    | some step =>
      rw [hcounter] at hstep
      simp [(ahead_next hstep).2, ← hcounter, hlimit]
  | case2 c counter hlimit step hstep ih =>
    rw [hcounter] at hstep
    obtain ⟨hdepth, hahead⟩ := ahead_next hstep
    rw [ih hdepth, hahead]
    simp [← hcounter, hlimit]
  | case3 c counter hlimit hstep =>
    simp [ahead_of_next_eq_none hstep, ← hcounter, hlimit]

end Cursor

/-- The walk through a tree finds its first node in pre-order that lies beyond the
limit. -/
theorem firstTooDeep_eq_find? (limit : Nat) (t : SyntaxTree) :
    firstTooDeep limit t = ((t.nodesAt 0).find? fun n => decide (limit < n.2)).map Prod.fst := by
  rw [← Cursor.ahead_ofRoot]
  exact Cursor.firstBeyond_eq_find? limit (.ofRoot t)

end ComponentLikeness.Syntax
