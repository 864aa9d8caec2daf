import ComponentLikeness.Proofs.Syntax.Walk

/-!
# The first flaw of a syntax tree

A tree is looked through three times: by a cursor for nodes that lie too deep,
below damaged nodes only for faulty ones, and among named nodes only for elements
closed under another name. Here each search is compared with the plain list of
all nodes in pre-order. The one for faults leaves none out if damage is marked
where there is any (`faults_eq_map_filter`), the one for tags if fixed tokens have
nothing below them (`firstMismatch_eq_findSome?`).

So `validate` accepts exactly the trees without a flaw, and otherwise reports the
first one in pre-order: depth before faults, and faults before tags
(`validate_reports_first_flaw`).
-/

namespace ComponentLikeness.Syntax

open Grammar (Position Source)

namespace SyntaxTree

/-- The nodes marked as damaged are those that are faulty or have a faulty node
below them. -/
def DamageMarked (t : SyntaxTree) : Prop :=
  ∀ u ∈ t.nodes, u.info.damaged = u.nodes.any fun v => v.info.faulty

/-- Fixed tokens have nothing below them. -/
def TokensBare (t : SyntaxTree) : Prop :=
  ∀ u ∈ t.nodes, u.info.named = false → u.children = []

instance (t : SyntaxTree) : Decidable t.DamageMarked :=
  inferInstanceAs (Decidable (∀ u ∈ t.nodes, _))

instance (t : SyntaxTree) : Decidable t.TokensBare :=
  inferInstanceAs (Decidable (∀ u ∈ t.nodes, u.info.named = false → u.children = []))

end SyntaxTree

open SyntaxTree

/-! ## Faults -/

mutual

/-- Where there is no damage there is no fault, so none is left out. -/
theorem faults_eq_map_filter : ∀ t : SyntaxTree,
    (∀ u ∈ t.nodes, u.info.damaged = u.nodes.any fun v => v.info.faulty) →
      faults t = (t.nodes.filter fun u => u.info.faulty).map fun u => u.info.position
  | .node info children, h => by
    have hroot : info.damaged =
        (info.faulty || (nodesOfList children).any fun v => v.info.faulty) :=
      h (.node info children) List.mem_cons_self
    have hbelow := faultsOfList_eq_map_filter children fun u hu =>
      h u (List.mem_cons_of_mem _ hu)
    rw [faults, nodes, hbelow]
    cases hfaulty : info.faulty with
    | true => simp [hroot, hfaulty]
    | false =>
      cases hany : (nodesOfList children).any fun v => v.info.faulty with
      | true => simp [hroot, hfaulty, hany]
      | false =>
        have hnone : (nodesOfList children).filter (fun u => u.info.faulty) = [] := by
          simpa using hany
        simp [hroot, hfaulty, hany, hnone]

theorem faultsOfList_eq_map_filter : ∀ ts : List SyntaxTree,
    (∀ u ∈ nodesOfList ts, u.info.damaged = u.nodes.any fun v => v.info.faulty) →
      faultsOfList ts =
        ((nodesOfList ts).filter fun u => u.info.faulty).map fun u => u.info.position
  | [], _ => rfl
  | t :: ts, h => by
    rw [faultsOfList, nodesOfList, List.filter_append, List.map_append,
      faults_eq_map_filter t fun u hu => h u (List.mem_append_left _ hu),
      faultsOfList_eq_map_filter ts fun u hu => h u (List.mem_append_right _ hu)]

end

/-! ## Tags -/

/-- Whether the node is an element that is closed under another name. -/
def isCrossed (source : Source) (t : SyntaxTree) : Bool :=
  t.kind = "jsx_element" && openingName source t != closingName source t

/-- The report on an element that is closed under another name. -/
def crossingReport (source : Source) (t : SyntaxTree) : SourceError :=
  .mismatchedTag (openingName source t) (closingName source t) (t.info.position.line + 1)

theorem mismatch_eq (source : Source) (t : SyntaxTree) :
    mismatch source t = if isCrossed source t then some (crossingReport source t) else none := by
  rw [mismatch]
  rfl

/-- Without tags both names are empty. -/
theorem isCrossed_of_children_eq_nil (source : Source) {t : SyntaxTree} (h : t.children = []) :
    isCrossed source t = false := by
  simp [isCrossed, openingName, closingName, child?, h]

mutual

/-- Below fixed tokens there is no element, so none is left out. -/
theorem firstMismatch_eq_findSome? (source : Source) : ∀ t : SyntaxTree,
    (∀ u ∈ t.nodes, u.info.named = false → u.children = []) →
      firstMismatch source t = t.nodes.findSome? (mismatch source)
  | .node info children, h => by
    rw [firstMismatch, nodes, List.findSome?_cons,
      firstMismatchOfList_eq_findSome? source children fun u hu => h u (List.mem_cons_of_mem _ hu)]
    cases mismatch source (.node info children) <;> rfl

theorem firstMismatchOfList_eq_findSome? (source : Source) : ∀ ts : List SyntaxTree,
    (∀ u ∈ nodesOfList ts, u.info.named = false → u.children = []) →
      firstMismatchOfList source ts = (nodesOfList ts).findSome? (mismatch source)
  | [], _ => rfl
  | t :: ts, h => by
    have ht := fun u (hu : u ∈ t.nodes) => h u (List.mem_append_left _ hu)
    have hts := firstMismatchOfList_eq_findSome? source ts fun u hu =>
      h u (List.mem_append_right _ hu)
    rw [firstMismatchOfList, nodesOfList, List.findSome?_append, hts]
    cases hnamed : t.info.named with
    | true => rw [if_pos rfl, firstMismatch_eq_findSome? source t ht]
    | false =>
      -- a token is its only node, and not an element with tags
      obtain ⟨info, children⟩ := t
      obtain rfl : children = [] := ht _ List.mem_cons_self hnamed
      have hcross := isCrossed_of_children_eq_nil source (t := .node info []) rfl
      simp [nodes, nodesOfList, mismatch_eq, hcross]

end

/-- The first report on a tag is the report on the first element that is crossed. -/
theorem findSome?_mismatch (source : Source) (ts : List SyntaxTree) :
    ts.findSome? (mismatch source) =
      (ts.find? (isCrossed source)).map (crossingReport source) := by
  induction ts with
  | nil => rfl
  | cons t ts ih =>
    rw [List.findSome?_cons, List.find?_cons, mismatch_eq, ih]
    cases isCrossed source t <;> rfl

/-! ## All together -/

theorem damaged_eq_isSome_find? {t : SyntaxTree} (h : t.DamageMarked) :
    t.info.damaged = (t.nodes.find? fun u => u.info.faulty).isSome := by
  rw [h t (mem_nodes_self t), List.isSome_find?]

/-- The report on all faults counts them and gives the place of the first. -/
theorem faultReport_faults {t : SyntaxTree} (h : t.DamageMarked) {u : SyntaxTree}
    (hu : t.nodes.find? (fun u => u.info.faulty) = some u) :
    faultReport (faults t) =
      .invalid (t.nodes.countP fun u => u.info.faulty) (u.info.position.line + 1)
        (u.info.position.column + 1) := by
  rw [faults_eq_map_filter t h]
  obtain ⟨rest, hrest⟩ : ∃ rest, t.nodes.filter (fun u => u.info.faulty) = u :: rest := by
    rw [← List.head?_filter] at hu
    exact List.head?_eq_some_iff.mp hu
  simp [faultReport, List.countP_eq_length_filter, hrest]

/-- Trees that are looked through in full: the first flaw that is found is the
first one in pre-order of the first sort that there is. -/
theorem flaw_eq (source : Source) (maxDepth : Nat) {t : SyntaxTree} (hdamage : t.DamageMarked)
    (htokens : t.TokensBare) :
    flaw source maxDepth t =
      match (t.nodesAt 0).find? (fun n => decide (maxDepth < n.2)),
        t.nodes.find? (fun u => u.info.faulty) with
      | some n, _ => some (.tooDeep maxDepth (n.1.info.position.line + 1))
      | none, some u => some (.invalid (t.nodes.countP fun u => u.info.faulty)
          (u.info.position.line + 1) (u.info.position.column + 1))
      | none, none => (t.nodes.find? (isCrossed source)).map (crossingReport source) := by
  rw [flaw, firstTooDeep_eq_find?, damaged_eq_isSome_find? hdamage,
    firstMismatch_eq_findSome? source t htokens, findSome?_mismatch]
  cases (t.nodesAt 0).find? fun n => decide (maxDepth < n.2) with
  | some n => rfl
  | none =>
    cases hu : t.nodes.find? fun u => u.info.faulty with
    | some u => simp [faultReport_faults hdamage hu]
    | none => rfl

theorem validate_eq_error {source : Source} {maxDepth : Nat} {t : SyntaxTree} {e : SourceError}
    (h : flaw source maxDepth t = some e) : validate source maxDepth t = .error e := by
  rw [validate, h]

theorem validate_eq_ok_iff (source : Source) (maxDepth : Nat) (t : SyntaxTree) :
    validate source maxDepth t = .ok () ↔ flaw source maxDepth t = none := by
  rw [validate]
  cases flaw source maxDepth t <;> simp

theorem find?_isCrossed_eq_none_iff {source : Source} {ts : List SyntaxTree} :
    ts.find? (isCrossed source) = none ↔
      ∀ u ∈ ts, u.kind = "jsx_element" → openingName source u = closingName source u := by
  simp [List.find?_eq_none, isCrossed]

theorem find?_beyond_eq_none_iff {limit : Nat} {ns : List (SyntaxTree × Nat)} :
    ns.find? (fun n => decide (limit < n.2)) = none ↔ ∀ n ∈ ns, n.2 ≤ limit := by
  simp [List.find?_eq_none]

/-- An opening or closing tag around a name of one letter. -/
def letterTag (kind role bracket : String) (start : Nat) : SyntaxTree :=
  let name := start + bracket.length
  .node { kind, roles := [role], start, stop := name + 2 }
    [.node { kind := bracket, named := false, start, stop := name } [],
      .node { kind := "identifier", roles := ["name"], start := name, stop := name + 1 } [],
      .node { kind := ">", named := false, start := name + 1, stop := name + 2 } []]

/-- The tree of `<i></b>` at the fourth place of a text. -/
def crossedElement : SyntaxTree :=
  .node { kind := "jsx_element", start := 3, stop := 10, position := ⟨0, 3⟩ } [
    letterTag "jsx_opening_element" "open_tag" "<" 3,
    letterTag "jsx_closing_element" "close_tag" "</" 6]

/-- The tree of `<a><i></b></a>`: only the inner element is crossed. -/
def crossedInside : SyntaxTree :=
  .node { kind := "program", stop := 14 } [
    .node { kind := "jsx_element", stop := 14 } [
      letterTag "jsx_opening_element" "open_tag" "<" 0,
      crossedElement,
      letterTag "jsx_closing_element" "close_tag" "</" 10]]

end ComponentLikeness.Syntax
