import ComponentLikeness.Proofs.Similarity.RoundedTotals
import Mathlib.Data.Finset.Card

/-!
# Shares of sets

The counts behind a Jaccard similarity are those of the intersection and the union of
two finite sets (`sharedCount_eq_card`, `unionCount_eq_card`), so nothing is
subtracted that is not there, and nothing divided by zero. From the exact quotient of
the two counts follow its laws (`ShareLaws`) and those of scores (`ScoreLaws`).
Symmetry needs no exact arithmetic (`score_comm`).
-/

namespace ComponentLikeness

open Component Number Similarity Text

/-! ## Counts of members -/

namespace Text.StringSet

/-- The members as a finite set. -/
def toFinset (s : StringSet) : Finset String := s.items.toFinset

variable {s t : StringSet} {x : String}

@[simp] theorem mem_toFinset : x ∈ s.toFinset ↔ x ∈ s := List.mem_toFinset

@[simp] theorem toFinset_insert : (s.insert x).toFinset = Insert.insert x s.toFinset := by
  ext y
  simp

theorem size_eq_card (s : StringSet) : s.size = s.toFinset.card :=
  (List.toFinset_card_of_nodup s.nodup_items).symm

theorem sharedCount_eq_card (s t : StringSet) :
    s.sharedCount t = (s.toFinset ∩ t.toFinset).card := by
  have hitems : (s.items.filter fun x => decide (x ∈ t)).toFinset = s.toFinset ∩ t.toFinset := by
    ext x
    simp
  rw [sharedCount, List.countP_eq_length_filter, ← hitems,
    List.toFinset_card_of_nodup (s.nodup_items.filter _)]

theorem sharedCount_comm (s t : StringSet) : s.sharedCount t = t.sharedCount s := by
  rw [sharedCount_eq_card, sharedCount_eq_card, Finset.inter_comm]

theorem disjoint_toFinset_iff : Disjoint s.toFinset t.toFinset ↔ ¬∃ x, x ∈ s ∧ x ∈ t := by
  rw [Finset.disjoint_left]
  simp

end Text.StringSet

namespace Similarity

variable {a b : StringSet}

/-- The members of both sets less those that are counted twice are those of the union. -/
theorem unionCount_eq_card (a b : StringSet) :
    unionCount a b = (a.toFinset ∪ b.toFinset).card := by
  rw [unionCount, a.size_eq_card, b.size_eq_card, a.sharedCount_eq_card, Finset.card_union]

/-! ## Symmetry -/

section Symmetry

variable {α : Type} [Arithmetic α]

theorem jaccard_comm (a b : StringSet) : (jaccard a b : α) = jaccard b a := by
  have hunion : unionCount a b = unionCount b a := by
    rw [unionCount_eq_card, unionCount_eq_card, Finset.union_comm]
  rw [jaccard, jaccard, Bool.and_comm, a.sharedCount_comm b, hunion]

theorem structureScore_comm (s t : String) : (structureScore s t : α) = structureScore t s := by
  rw [structureScore_eq, structureScore_eq, if_congr eq_comm rfl rfl]

/-- A score does not tell the candidate from the member. -/
theorem score_comm (f g : Fingerprint) : (score f g : Breakdown α) = score g f := by
  rw [score, jaccard_comm f.props, jaccard_comm f.styleTokens, structureScore_comm f.signature,
    score]

end Symmetry

/-! ## Shares -/

/-- One more common member raises a share. -/
theorem div_le_succ_div_succ {m n : Nat} (h : m ≤ n) :
    (m : ℚ) / n ≤ ((m + 1 : Nat) : ℚ) / ((n + 1 : Nat) : ℚ) := by
  rcases Nat.eq_zero_or_pos n with rfl | hn
  · rw [Nat.cast_zero, div_zero]
    positivity
  · have hn' : (0 : ℚ) < n := by exact_mod_cast hn
    have hm : (m : ℚ) ≤ n := by exact_mod_cast h
    rw [div_le_div_iff₀ hn' (by positivity)]
    push_cast
    linarith

/-- A string added to both sets is a common member then, and adds to the union at most
what it adds to the intersection. -/
theorem jaccard_le_jaccard_insert (a b : StringSet) (x : String) :
    (jaccard a b : ℚ) ≤ jaccard (a.insert x) (b.insert x) := by
  have hle := Finset.card_le_card (Finset.inter_subset_union (s := a.toFinset) (t := b.toFinset))
  rw [jaccard_eq, jaccard_eq, StringSet.sharedCount_eq_card, StringSet.sharedCount_eq_card,
    unionCount_eq_card, unionCount_eq_card, StringSet.toFinset_insert, StringSet.toFinset_insert,
    ← Finset.insert_inter_distrib, ← Finset.insert_union_distrib]
  by_cases hunion : x ∈ a.toFinset ∪ b.toFinset
  · rw [Finset.insert_eq_of_mem hunion]
    gcongr
    exact Finset.subset_insert _ _
  · have hinter : x ∉ a.toFinset ∩ b.toFinset := fun h =>
      hunion (Finset.inter_subset_union h)
    rw [Finset.card_insert_of_notMem hunion, Finset.card_insert_of_notMem hinter]
    exact div_le_succ_div_succ hle

/-- The counts behind a Jaccard similarity, and the laws of the exact one. -/
structure ShareLaws (a b : StringSet) : Prop where
  shared_le : a.sharedCount b ≤ a.size ∧ a.sharedCount b ≤ b.size
  unionCount_eq : unionCount a b = (a.toFinset ∪ b.toFinset).card
  unionCount_pos : a ≠ ∅ ∨ b ≠ ∅ → 0 < unionCount a b
  eq_div : (jaccard a b : ℚ) = (a.toFinset ∩ b.toFinset).card / (a.toFinset ∪ b.toFinset).card
  of_empty : a = ∅ → b = ∅ → (jaccard a b : ℚ) = 0
  symm : (jaccard a b : ℚ) = jaccard b a
  bounds : 0 ≤ (jaccard a b : ℚ) ∧ (jaccard a b : ℚ) ≤ 1
  eq_zero_iff : (jaccard a b : ℚ) = 0 ↔ Disjoint a.toFinset b.toFinset
  eq_one_iff : (jaccard a b : ℚ) = 1 ↔ a = b ∧ a ≠ ∅
  le_insert : ∀ x, (jaccard a b : ℚ) ≤ jaccard (a.insert x) (b.insert x)

theorem shareLaws (a b : StringSet) : ShareLaws a b where
  shared_le := ⟨a.sharedCount_le_size b, a.sharedCount_le_size_right b⟩
  unionCount_eq := unionCount_eq_card a b
  unionCount_pos h := by
    refine Similarity.unionCount_pos fun hempty => ?_
    rw [Bool.and_eq_true] at hempty
    exact h.elim (fun h => h (StringSet.isEmpty_iff.mp hempty.1))
      fun h => h (StringSet.isEmpty_iff.mp hempty.2)
  eq_div := by rw [jaccard_eq, a.sharedCount_eq_card, unionCount_eq_card]
  of_empty := by
    rintro rfl rfl
    rw [jaccard_eq_zero_iff]
    simp
  symm := jaccard_comm a b
  bounds := zero_le_jaccard_le_one a b
  eq_zero_iff := by rw [jaccard_eq_zero_iff, StringSet.disjoint_toFinset_iff]
  eq_one_iff := jaccard_eq_one_iff
  le_insert := jaccard_le_jaccard_insert a b

/-! ## Scores -/

/-- The exact score of two fingerprints. -/
abbrev exactScore (f g : Fingerprint) : Breakdown ℚ := score f g

section Scores

variable (f g : Fingerprint)

theorem exactScore_total : (exactScore f g).total =
    ((exactScore f g).propScore + (exactScore f g).styleScore + (exactScore f g).structureScore) /
      3 := rfl

theorem exactScore_structureScore : (exactScore f g).structureScore =
    if f.signature = g.signature then 1 else 0 := by
  show (structureScore f.signature g.signature : ℚ) = _
  have hone : (Arithmetic.one : ℚ) = 1 := div_one _
  have hzero : (Arithmetic.zero : ℚ) = 0 := div_one _
  rw [structureScore, hone, hzero]

/-- Each of the three parts is a share. -/
theorem parts_bounds :
    (0 ≤ (exactScore f g).propScore ∧ (exactScore f g).propScore ≤ 1) ∧
    (0 ≤ (exactScore f g).styleScore ∧ (exactScore f g).styleScore ≤ 1) ∧
    (0 ≤ (exactScore f g).structureScore ∧ (exactScore f g).structureScore ≤ 1) :=
  ⟨zero_le_jaccard_le_one _ _, zero_le_jaccard_le_one _ _, zero_le_structureScore_le_one _ _⟩

/-- The laws of a score, exact and, where they hold there, in any arithmetic or in doubles. -/
structure ScoreLaws (f g : Fingerprint) : Prop where
  propScore_eq : (exactScore f g).propScore =
    (f.props.toFinset ∩ g.props.toFinset).card / (f.props.toFinset ∪ g.props.toFinset).card
  styleScore_eq : (exactScore f g).styleScore =
    (f.styleTokens.toFinset ∩ g.styleTokens.toFinset).card /
      (f.styleTokens.toFinset ∪ g.styleTokens.toFinset).card
  structureScore_eq : (exactScore f g).structureScore = if f.signature = g.signature then 1 else 0
  symm : ∀ (α : Type) [Arithmetic α], (score f g : Breakdown α) = score g f
  total_eq : (exactScore f g).total = ((exactScore f g).propScore + (exactScore f g).styleScore +
    (exactScore f g).structureScore) / 3
  total_bounds : 0 ≤ (exactScore f g).total ∧ (exactScore f g).total ≤ 1
  total_bounds_rounded : ∃ t : ℚ, (score f g).total = Binary64.finite false t ∧ 0 ≤ t ∧ t ≤ 1
  total_eq_one_iff : (exactScore f g).total = 1 ↔ (exactScore f g).propScore = 1 ∧
    (exactScore f g).styleScore = 1 ∧ (exactScore f g).structureScore = 1
  total_eq_zero_iff : (exactScore f g).total = 0 ↔ (exactScore f g).propScore = 0 ∧
    (exactScore f g).styleScore = 0 ∧ (exactScore f g).structureScore = 0
  nameless : ∀ (α : Type) [Arithmetic α] name name',
    (score { f with name } { g with name := name' } : Breakdown α) = score f g

theorem scoreLaws : ScoreLaws f g := by
  obtain ⟨⟨hprops, hprops'⟩, ⟨hstyles, hstyles'⟩, hstructure, hstructure'⟩ := parts_bounds f g
  have htotal := exactScore_total f g
  refine ⟨(shareLaws _ _).eq_div, (shareLaws _ _).eq_div, exactScore_structureScore f g,
    fun _ _ => score_comm f g, htotal, ⟨?_, ?_⟩,
    ⟨totalValue f g, total_eq f g, totalValue_nonneg f g, totalValue_le_one f g⟩, ?_, ?_,
    fun _ _ _ _ => rfl⟩
  · rw [htotal]
    positivity
  · rw [htotal]
    linarith
  · -- no part is above one, so none is below if their mean is one
    rw [htotal]
    constructor
    · intro h
      refine ⟨?_, ?_, ?_⟩ <;> linarith
    · rintro ⟨h₁, h₂, h₃⟩
      rw [h₁, h₂, h₃]
      norm_num
  · rw [htotal]
    constructor
    · intro h
      refine ⟨?_, ?_, ?_⟩ <;> linarith
    · rintro ⟨h₁, h₂, h₃⟩
      rw [h₁, h₂, h₃]
      norm_num

end Scores

/-- Jaccard similarities and scores are exact and safe. For all sets, the common members are
no more than those of either set, the divisor is the size of the union, and the exact
quotient is symmetric, a share, zero for disjoint sets and one for equal ones that are not
empty; a string added to both sets never lowers it. For all fingerprints, a score is
symmetric, its parts are such quotients for props and style tokens and tell whether the
signatures are equal, its total is their mean, a share, and one or zero only if all of them
are; names make no difference. -/
theorem jaccard_and_score_laws :
    (∀ a b : StringSet, ShareLaws a b) ∧ ∀ f g : Fingerprint, ScoreLaws f g :=
  ⟨shareLaws, scoreLaws⟩

/-- One of three props is common, and so are all style tokens and the signature. -/
example : exactScore
    { props := .ofList ["a", "b"], styleTokens := .ofList ["s"], signature := "<i>" }
    { props := .ofList ["b", "c"], styleTokens := .ofList ["s"], signature := "<i>" } =
      { propScore := 1 / 3, styleScore := 1, structureScore := 1, total := 7 / 9 } := by
  decide +kernel

end Similarity

end ComponentLikeness
