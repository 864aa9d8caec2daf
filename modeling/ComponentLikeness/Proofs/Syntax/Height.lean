import ComponentLikeness.Proofs.Recursion.Levels
import ComponentLikeness.Proofs.Syntax.Walk

/-!
# Heights of syntax trees

The walk for nodes beyond a limit passes a tree exactly if its height is within the
limit (`firstTooDeep_eq_none_iff`). Everything below a node is lower than the node,
so the height is also a bound for the levels of the two recursions that look through
a syntax tree, the one for faults and the one for tags.
-/

namespace ComponentLikeness.Syntax

open Grammar (Position Source)

namespace SyntaxTree

/-! ## Heights -/

theorem heightOfList_le_iff {ts : List SyntaxTree} {n : Nat} :
    heightOfList ts ≤ n ↔ ∀ t ∈ ts, t.height < n := by
  induction ts with
  | nil => simp [heightOfList]
  | cons t ts ih =>
    simp only [heightOfList, Nat.max_le, ih, List.forall_mem_cons]
    exact Iff.rfl

theorem height_lt_of_mem_children {t u : SyntaxTree} (h : u ∈ t.children) :
    u.height < t.height := by
  obtain ⟨info, children⟩ := t
  exact heightOfList_le_iff.mp (Nat.le_refl _) u h

theorem height_lt_of_mem_namedChildren {t u : SyntaxTree} (h : u ∈ t.namedChildren) :
    u.height < t.height :=
  height_lt_of_mem_children (List.mem_filter.mp h).1

theorem height_lt_of_child? {t u : SyntaxTree} {role : String} (h : t.child? role = some u) :
    u.height < t.height :=
  height_lt_of_mem_children (List.mem_of_find?_eq_some h)

mutual

/-- The distances of all nodes are within a bound exactly if the longest is. -/
theorem forall_nodesAt_le_iff {n : Nat} : ∀ (t : SyntaxTree) (depth : Nat),
    (∀ m ∈ t.nodesAt depth, m.2 ≤ n) ↔ depth + t.height ≤ n
  | .node info children, depth => by
    rw [nodesAt, List.forall_mem_cons, height]
    by_cases hdepth : depth ≤ n
    · rw [forall_nodesOfListAt_le_iff children depth hdepth]
      exact and_iff_right hdepth
    · constructor
      · rintro ⟨hle, -⟩
        exact absurd hle hdepth
      · intro hle
        omega

theorem forall_nodesOfListAt_le_iff {n : Nat} : ∀ (ts : List SyntaxTree) (depth : Nat),
    depth ≤ n → ((∀ m ∈ nodesOfListAt (depth + 1) ts, m.2 ≤ n) ↔ depth + heightOfList ts ≤ n)
  | [], depth, hdepth => by simp [nodesOfListAt, heightOfList, hdepth]
  | t :: ts, depth, hdepth => by
    rw [nodesOfListAt, List.forall_mem_append, forall_nodesAt_le_iff t,
      forall_nodesOfListAt_le_iff ts depth hdepth, heightOfList]
    omega

end

end SyntaxTree

open SyntaxTree

/-- No node lies too deep exactly if the height is within the limit. -/
theorem firstTooDeep_eq_none_iff {limit : Nat} {t : SyntaxTree} :
    firstTooDeep limit t = none ↔ t.height ≤ limit := by
  rw [firstTooDeep_eq_find?, Option.map_eq_none_iff, List.find?_eq_none]
  simp only [decide_eq_true_eq, Nat.not_lt]
  rw [forall_nodesAt_le_iff t 0, Nat.zero_add]

/-! ## Levels of the search for faults -/

theorem faultsOfList_eq (ts : List SyntaxTree) :
    faultsOfList ts = (ts.map faults).flatten := by
  induction ts with
  | nil => rfl
  | cons t ts ih => rw [faultsOfList, ih, List.map_cons, List.flatten_cons]

/-- The search for faults, its calls being made through an argument. -/
def faultsBody (call : SyntaxTree → Option (List Position)) (t : SyntaxTree) :
    Option (List Position) := do
  let below ← if t.info.damaged then t.children.mapM call else some []
  return (if t.info.faulty then [t.info.position] else []) ++ below.flatten

theorem unfolds_faultsBody : Unfolds faultsBody faults height := by
  intro call t hcall
  have hbelow : t.children.mapM call = some (t.children.map faults) :=
    mapM_eq_some_map fun u hu => hcall u (height_lt_of_mem_children hu)
  obtain ⟨info, children⟩ := t
  rw [children_node] at hbelow
  rw [faultsBody, faults, faultsOfList_eq]
  cases hdamaged : info.damaged <;> cases hfaulty : info.faulty <;>
    simp [hdamaged, hfaulty, hbelow]

/-! ## Levels of the check of tags -/

theorem firstMismatchOfList_eq (source : Source) (ts : List SyntaxTree) :
    firstMismatchOfList source ts =
      (ts.filter fun t => t.info.named).findSome? (firstMismatch source) := by
  induction ts with
  | nil => rfl
  | cons t ts ih =>
    rw [firstMismatchOfList, ih, List.filter_cons]
    cases t.info.named with
    | false => rfl
    | true =>
      rw [if_pos rfl, if_pos rfl, List.findSome?_cons]
      cases firstMismatch source t <;> rfl

/-- The check of tags, its calls being made through an argument. The first report
ends it. -/
def tagsBody (source : Source) (call : SyntaxTree → Option (Option SourceError))
    (t : SyntaxTree) : Option (Option SourceError) :=
  match mismatch source t with
  | some e => some (some e)
  | none => firstOf call t.namedChildren

theorem unfolds_tagsBody (source : Source) :
    Unfolds (tagsBody source) (firstMismatch source) height := by
  intro call t hcall
  have hbelow : firstOf call t.namedChildren =
      some (t.namedChildren.findSome? (firstMismatch source)) :=
    firstOf_eq_some_findSome? fun u hu => hcall u (height_lt_of_mem_namedChildren hu)
  obtain ⟨info, children⟩ := t
  rw [tagsBody, firstMismatch, firstMismatchOfList_eq, hbelow]
  cases mismatch source (.node info children) <;> rfl

end ComponentLikeness.Syntax
