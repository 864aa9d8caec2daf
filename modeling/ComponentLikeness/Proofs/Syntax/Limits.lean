import ComponentLikeness.Proofs.Syntax.FirstFlaw
import ComponentLikeness.Proofs.Syntax.Rounds
import ComponentLikeness.Tsx.Checked
import Mathlib.Order.Bounds.Basic

/-!
# Limits of depth

What a limit of depth comes to, for the loop that measures a tree and for reading a
text. The first node that lies beyond the limit lies right below it
(`SyntaxTree.find?_beyond_nodesAt`), since no step leads down more than one level. So
the loop finishes if the height is within the limit, and else ends at the first node at
the next level (`measured`).

The other flaws of a tree are looked for whatever the limit is. So once a text is not
too deep for a limit, a higher one makes no difference, and the least such limit is the
height of its tree (`loop_and_limits`).
-/

namespace ComponentLikeness

open Grammar (Source)

namespace Syntax

namespace SyntaxTree

/-! ## The first node beyond a limit -/

mutual

/-- The first node beyond the limit lies at the level right below it. -/
theorem find?_beyond_nodesAt (limit : Nat) : ∀ (t : SyntaxTree) (depth : Nat),
    depth ≤ limit + 1 → (t.nodesAt depth).find? (fun n => decide (limit < n.2)) =
      (t.nodesAt depth).find? fun n => decide (n.2 = limit + 1)
  | .node info children, depth, hdepth => by
    rw [nodesAt, List.find?_cons, List.find?_cons]
    by_cases hlast : depth = limit + 1
    · simp [hlast]
    · have hwithin : depth ≤ limit := by omega
      have hbelow := find?_beyond_nodesOfListAt limit children (depth + 1) (by omega)
      simp [hlast, Nat.not_lt.mpr hwithin, hbelow]

theorem find?_beyond_nodesOfListAt (limit : Nat) : ∀ (ts : List SyntaxTree) (depth : Nat),
    depth ≤ limit + 1 → (nodesOfListAt depth ts).find? (fun n => decide (limit < n.2)) =
      (nodesOfListAt depth ts).find? fun n => decide (n.2 = limit + 1)
  | [], _, _ => rfl
  | t :: ts, depth, hdepth => by
    rw [nodesOfListAt, List.find?_append, List.find?_append,
      find?_beyond_nodesAt limit t depth hdepth, find?_beyond_nodesOfListAt limit ts depth hdepth]

end

end SyntaxTree

open SyntaxTree

/-- The first node beyond the limit divides the tree: what comes before it is within the
limit, and it lies right below. -/
theorem depth_of_first_beyond {limit : Nat} {t u : SyntaxTree} {depth : Nat}
    {front rest : List (SyntaxTree × Nat)} (hnodes : t.nodesAt 0 = front ++ (u, depth) :: rest)
    (hfront : ∀ m ∈ front, m.2 ≤ limit) (hbeyond : limit < depth) : depth = limit + 1 := by
  have hfind : (t.nodesAt 0).find? (fun n => decide (limit < n.2)) = some (u, depth) := by
    have hnone : front.find? (fun n => decide (limit < n.2)) = none :=
      find?_beyond_eq_none_iff.mpr hfront
    rw [hnodes, List.find?_append, hnone]
    simp [hbeyond]
  rw [find?_beyond_nodesAt limit t 0 (Nat.zero_le _)] at hfind
  simpa using List.find?_some hfind

/-! ## The loop -/

/-- The loop on a tree ends. Its counter always is the distance of the cursor from the
root. If the height is within the limit, it finishes having looked at every node once,
in pre-order. Otherwise it ends at the first node right below the limit, whose line is
reported, having looked at what comes before it. -/
structure Measured (limit : UInt32) (t : SyntaxTree) (ws : List Walker) (ending : Ending) :
    Prop where
  run : Walker.Run limit (.ofRoot t) ws ending
  length_le : ws.length ≤ 2 * t.size
  counts : ∀ w ∈ ws, w.counter.toNat = w.cursor.depth
  finishes : t.height ≤ limit.toNat →
    ending = .finished ∧ ws.filterMap Walker.seen? = t.nodesAt 0
  stops : limit.toNat < t.height →
    ∃ front u rest, t.nodesAt 0 = front ++ (u, limit.toNat + 1) :: rest ∧
      (∀ n ∈ front, n.2 ≤ limit.toNat) ∧ ending = .beyond u ∧
      ws.filterMap Walker.seen? = front ++ [(u, limit.toNat + 1)] ∧
      ∀ source, validate source limit.toNat t =
        .error (.tooDeep limit.toNat (u.info.position.line + 1))
  /-- The search for a node that lies too deep has the same outcome. -/
  node?_eq : ending.node? = firstTooDeep limit.toNat t

theorem measured (limit : UInt32) {t : SyntaxTree} (ht : t.height < UInt32.size) :
    ∃ ws ending, Measured limit t ws ending := by
  have hstart : (Walker.ofRoot t).ahead = t.nodesAt 0 := Cursor.ahead_ofRoot t
  have hrange : ∀ n ∈ (Walker.ofRoot t).ahead, n.2 < UInt32.size := by
    intro n hn
    rw [hstart] at hn
    have hle := (forall_nodesAt_le_iff t 0).mpr (Nat.le_refl (0 + t.height)) n hn
    omega
  obtain ⟨ws, ending, hrun, hlength, hcounts, hsees⟩ :=
    Walker.exists_run limit (.ofRoot t) rfl hrange
  have hrank : (Walker.ofRoot t).rank = 2 * t.size := by
    simp [Walker.rank, Walker.ofRoot, Cursor.ofRoot, Cursor.pending, Cursor.pendingBehind,
      Cursor.sizeBehind, Cursor.depth, sizeOfList]
  have hheight : (∀ n ∈ t.nodesAt 0, n.2 ≤ limit.toNat) ↔ t.height ≤ limit.toNat := by
    rw [forall_nodesAt_le_iff t 0, Nat.zero_add]
  rw [hstart] at hsees
  refine ⟨ws, ending, ?_⟩
  generalize hnodes : t.nodesAt 0 = nodes at hsees hheight
  generalize hseen : ws.filterMap Walker.seen? = seen at hsees
  cases hsees with
  | all hwithin =>
    have hle := hheight.mp hwithin
    refine ⟨hrun, hrank ▸ hlength, hcounts, fun _ => ⟨rfl, hseen.trans hnodes.symm⟩, ?_, ?_⟩
    · intro hlt
      omega
    · exact (firstTooDeep_eq_none_iff.mpr hle).symm
  | @upTo front rest n hwithin hbeyond =>
    obtain ⟨u, depth⟩ := n
    have hdepth : depth = limit.toNat + 1 := depth_of_first_beyond hnodes hwithin hbeyond
    subst hdepth
    have hfirst : firstTooDeep limit.toNat t = some u := by
      rw [firstTooDeep_eq_find?, hnodes, List.find?_append, find?_beyond_eq_none_iff.mpr hwithin]
      simp
    refine ⟨hrun, hrank ▸ hlength, hcounts, ?_, fun _ => ?_, hfirst.symm⟩
    · intro hle
      rw [firstTooDeep_eq_none_iff.mpr hle] at hfirst
      cases hfirst
    · refine ⟨front, u, rest, hnodes, hwithin, rfl, hseen, fun source => ?_⟩
      exact validate_eq_error (by rw [flaw, hfirst])

end Syntax

namespace Tsx

open Syntax

/-! ## Reading a text -/

/-- The result is that a text, or its tree, is too deep. -/
def IsTooDeep {α : Type} (result : Except SourceError α) : Prop :=
  ∃ limit line, result = .error (.tooDeep limit line)

theorem isTooDeep_map {α β : Type} (f : α → β) (result : Except SourceError α) :
    IsTooDeep (result.map f) ↔ IsTooDeep result := by
  cases result <;> simp [IsTooDeep, Except.map]

mutual

theorem firstMismatch_ne_tooDeep (source : Source) (limit line : Nat) : ∀ t : SyntaxTree,
    firstMismatch source t ≠ some (.tooDeep limit line)
  | .node info children => by
    rw [firstMismatch, mismatch_eq]
    split
    · simp [crossingReport]
    · exact firstMismatchOfList_ne_tooDeep source limit line children

theorem firstMismatchOfList_ne_tooDeep (source : Source) (limit line : Nat) :
    ∀ ts : List SyntaxTree, firstMismatchOfList source ts ≠ some (.tooDeep limit line)
  | [] => by simp [firstMismatchOfList]
  | t :: ts => by
    have ht := firstMismatch_ne_tooDeep source limit line t
    have hts := firstMismatchOfList_ne_tooDeep source limit line ts
    rw [firstMismatchOfList]
    split
    · cases hfirst : firstMismatch source t with
      | none => exact hts
      | some e =>
        rw [hfirst] at ht
        exact ht
    · exact hts

end

section Flaws

variable (source : Source) {limit : Nat} {t : SyntaxTree}

/-- In a tree within the limit, the other flaws are looked for without it. -/
theorem flaw_of_height_le (h : t.height ≤ limit) :
    flaw source limit t =
      if t.info.damaged then some (faultReport (faults t)) else firstMismatch source t := by
  rw [flaw, firstTooDeep_eq_none_iff.mpr h]

theorem flaw_of_lt_height (h : limit < t.height) :
    ∃ line, flaw source limit t = some (.tooDeep limit line) := by
  cases hdeep : firstTooDeep limit t with
  | none => exact absurd (firstTooDeep_eq_none_iff.mp hdeep) (Nat.not_le.mpr h)
  | some u => exact ⟨u.info.position.line + 1, by rw [flaw, hdeep]⟩

theorem flaw_ne_tooDeep (limit' line : Nat) (h : t.height ≤ limit) :
    flaw source limit t ≠ some (.tooDeep limit' line) := by
  rw [flaw_of_height_le source h]
  split
  · simp [faultReport]
  · exact firstMismatch_ne_tooDeep source limit' line t

/-- A tree is too deep exactly if it is higher than the limit. -/
theorem isTooDeep_validate_iff : IsTooDeep (validate source limit t) ↔ limit < t.height := by
  constructor
  · rintro ⟨limit', line, hdeep⟩
    by_contra hle
    have hflaw := flaw_ne_tooDeep source limit' line (Nat.not_lt.mp hle)
    cases hfound : flaw source limit t with
    | none => simp [validate, hfound] at hdeep
    | some e =>
      obtain rfl : e = .tooDeep limit' line := by simpa [validate, hfound] using hdeep
      exact hflaw hfound
  · intro hlt
    obtain ⟨line, hflaw⟩ := flaw_of_lt_height source hlt
    exact ⟨limit, line, validate_eq_error hflaw⟩

/-- The least limit under which a tree is not too deep is its height. -/
theorem isLeast_height_validate (t : SyntaxTree) :
    IsLeast {limit | ¬IsTooDeep (validate source limit t)} t.height := by
  constructor
  · show ¬IsTooDeep (validate source t.height t)
    rw [isTooDeep_validate_iff]
    exact Nat.lt_irrefl _
  · intro limit hlimit
    change ¬IsTooDeep (validate source limit t) at hlimit
    rw [isTooDeep_validate_iff] at hlimit
    exact Nat.not_lt.mp hlimit

end Flaws

section Text

variable {text : String} {parsed : ParsedSource} {limit limit' : Nat}

theorem parseChecked_of_error {e : SourceError} (h : parseAny text = .error e) :
    parseChecked limit text = .error e := by
  unfold parseChecked
  simp only [h]

theorem parseChecked_of_parsed (h : parseAny text = .ok parsed) :
    parseChecked limit text = (validate parsed.source limit parsed.tree).map fun _ => parsed := by
  unfold parseChecked
  simp only [h]

/-- A text is too deep exactly if its tree is. -/
theorem isTooDeep_parseChecked_iff (h : parseAny text = .ok parsed) :
    IsTooDeep (parseChecked limit text) ↔
      IsTooDeep (validate parsed.source limit parsed.tree) := by
  rw [parseChecked_of_parsed h]
  exact isTooDeep_map _ _

/-- Raising a limit that is high enough changes nothing. -/
theorem parseChecked_eq_of_le (hle : limit ≤ limit')
    (hdeep : ¬IsTooDeep (parseChecked limit text)) :
    parseChecked limit' text = parseChecked limit text := by
  cases hparsed : parseAny text with
  | error e => rw [parseChecked_of_error hparsed, parseChecked_of_error hparsed]
  | ok parsed =>
    rw [isTooDeep_parseChecked_iff hparsed, isTooDeep_validate_iff, Nat.not_lt] at hdeep
    rw [parseChecked_of_parsed hparsed, parseChecked_of_parsed hparsed, validate, validate,
      flaw_of_height_le _ (Nat.le_trans hdeep hle), flaw_of_height_le _ hdeep]

/-- The least limit under which a text is not too deep is the height of its tree. -/
theorem isLeast_height (h : parseAny text = .ok parsed) :
    IsLeast {limit | ¬IsTooDeep (parseChecked limit text)} parsed.tree.height := by
  simp only [isTooDeep_parseChecked_iff h]
  exact isLeast_height_validate parsed.source parsed.tree

end Text

/-- The loop that counts with machine words measures the height of every tree whose
height is such a word: it ends, with the counter at the distance of the cursor from the
root all along, and so never out of its range; it finishes exactly if the height is
within the limit, having looked at every node once in pre-order, and ends at the first
node right below the limit otherwise. For texts this means that raising a limit under
which a text is not too deep gives the same tree or the same error again, and that the
least such limit is the height of the tree of the text. -/
theorem loop_and_limits {t : SyntaxTree} (ht : t.height < UInt32.size) (limit : UInt32)
    (text : String) :
    (∃ ws ending, Measured limit t ws ending) ∧
    (∀ lower higher, lower ≤ higher → ¬IsTooDeep (parseChecked lower text) →
      parseChecked higher text = parseChecked lower text) ∧
    ∀ parsed, parseAny text = .ok parsed →
      IsLeast {limit | ¬IsTooDeep (parseChecked limit text)} parsed.tree.height :=
  ⟨measured limit ht, fun _ _ hle hdeep => parseChecked_eq_of_le hle hdeep,
    fun _ hparsed => isLeast_height hparsed⟩

/-- The tree of `<a><i></b></a>` is of height four, so at a limit of two the loop ends
early, at the first token of all, and a limit of four is the least that is enough. -/
theorem loop_and_limits_crossedInside :
    let text := "<a><i></b></a>"
    crossedInside.height < UInt32.size ∧
      (∃ ws ending, Measured 2 crossedInside ws ending ∧
        ending.node?.map SyntaxTree.kind = some "<") ∧
      (∀ lower higher, lower ≤ higher → ¬IsTooDeep (parseChecked lower text) →
        parseChecked higher text = parseChecked lower text) ∧
      (∀ source, IsLeast {limit | ¬IsTooDeep (validate source limit crossedInside)} 4) ∧
      ∀ parsed, parseAny text = .ok parsed → parsed.tree = crossedInside →
        IsLeast {limit | ¬IsTooDeep (parseChecked limit text)} 4 := by
  intro text
  have hheight : crossedInside.height = 4 := by decide +kernel
  have hsize : crossedInside.height < UInt32.size := hheight ▸ by decide
  obtain ⟨⟨ws, ending, hmeasured⟩, hraise, hleast⟩ := loop_and_limits hsize 2 text
  have hending : ending.node?.map SyntaxTree.kind = some "<" := by
    rw [hmeasured.node?_eq, firstTooDeep_eq_find?]
    decide +kernel
  refine ⟨hsize, ⟨ws, ending, hmeasured, hending⟩, hraise, fun source => ?_, ?_⟩
  · rw [← hheight]
    exact isLeast_height_validate source crossedInside
  · intro parsed hparsed htree
    rw [← hheight, ← htree]
    exact hleast parsed hparsed

end Tsx

end ComponentLikeness
