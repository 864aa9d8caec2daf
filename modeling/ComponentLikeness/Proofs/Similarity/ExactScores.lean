import ComponentLikeness.Proofs.Similarity.Leaders
import ComponentLikeness.Proofs.Similarity.Totals

/-!
# Exact scores

Scores as the rationals that they stand for. A Jaccard similarity is the share of
the common members (`jaccard_eq`), so it is at most one, and one exactly for equal
sets that are not empty (`jaccard_eq_one_iff`). A total is the mean of three such
parts: it lies between zero and one, and is one exactly if all three are
(`exactTotal_eq_one_iff`).
-/

namespace ComponentLikeness

open Component Number Similarity Text

/-! ## Equal sets -/

namespace Text.StringSet

theorem nodup_items (s : StringSet) : s.items.Nodup := s.sorted.imp fun h => String.ne_of_lt h

theorem size_eq_zero_iff {s : StringSet} : s.size = 0 ↔ s = ∅ := by
  constructor
  · intro h
    obtain ⟨items, sorted⟩ := s
    obtain rfl : items = [] := List.length_eq_zero_iff.mp h
    rfl
  · rintro rfl
    rfl

theorem isEmpty_iff {s : StringSet} : s.isEmpty = true ↔ s = ∅ := by
  rw [isEmpty, List.isEmpty_iff, ← List.length_eq_zero_iff, ← size, size_eq_zero_iff]

/-- A set is given by its members, since they are in ascending order. -/
theorem eq_of_items_perm {s t : StringSet} (h : s.items.Perm t.items) : s = t := by
  have hitems : s.items = t.items :=
    h.eq_of_pairwise (fun _ _ _ _ hab hba => absurd hba (String.lt_asymm hab)) s.sorted t.sorted
  cases s
  cases t
  congr

theorem sharedCount_self (s : StringSet) : s.sharedCount s = s.size := by
  rw [sharedCount, size, List.countP_eq_length]
  intro x hx
  exact decide_eq_true hx

/-- Two sets that share all members of both are equal. -/
theorem eq_of_sharedCount {s t : StringSet} (hs : s.sharedCount t = s.size)
    (ht : s.sharedCount t = t.size) : s = t := by
  have hsubset : s.items ⊆ t.items := by
    intro x hx
    rw [sharedCount, size, List.countP_eq_length] at hs
    exact of_decide_eq_true (hs x hx)
  have hle : t.items.length ≤ s.items.length := (ht.symm.trans hs).le
  exact eq_of_items_perm ((List.subperm_of_subset s.nodup_items hsubset).perm_of_length_le hle)

end Text.StringSet

/-- Two fingerprints are equal but for their names. -/
def Component.Fingerprint.SameParts (f g : Fingerprint) : Prop :=
  f.props = g.props ∧ f.styleTokens = g.styleTokens ∧ f.signature = g.signature

instance (f g : Fingerprint) : Decidable (f.SameParts g) :=
  inferInstanceAs (Decidable (_ ∧ _ ∧ _))

namespace Similarity

/-! ## Parts of a score -/

section Parts

variable (a b : StringSet)

theorem sharedCount_le_unionCount : a.sharedCount b ≤ unionCount a b := by
  have ha := a.sharedCount_le_size b
  have hb := a.sharedCount_le_size_right b
  unfold unionCount
  omega

/-- Two empty sets need no case of their own, for nothing divided by nothing is
nothing. -/
theorem jaccard_eq : (jaccard a b : ℚ) = a.sharedCount b / unionCount a b := by
  by_cases hempty : (a.isEmpty && b.isEmpty) = true
  · have hnil : a.items = [] := by
      rw [Bool.and_eq_true] at hempty
      exact List.isEmpty_iff.mp hempty.1
    have hshared : a.sharedCount b = 0 := by simp [StringSet.sharedCount, hnil]
    rw [jaccard, if_pos hempty, hshared]
    simp [Arithmetic.zero, Arithmetic.quotient]
  · rw [jaccard, if_neg hempty]
    rfl

theorem jaccard_nonneg : 0 ≤ (jaccard a b : ℚ) := by
  rw [jaccard_eq]
  positivity

theorem jaccard_le_one : (jaccard a b : ℚ) ≤ 1 := by
  rw [jaccard_eq]
  apply div_le_one_of_le₀
  · exact_mod_cast sharedCount_le_unionCount a b
  · positivity

variable {a b}

theorem jaccard_eq_one_iff : (jaccard a b : ℚ) = 1 ↔ a = b ∧ a ≠ ∅ := by
  have ha := a.sharedCount_le_size b
  have hb := a.sharedCount_le_size_right b
  rw [jaccard_eq, ne_eq, ← StringSet.size_eq_zero_iff]
  constructor
  · intro h
    have hne : (unionCount a b : ℚ) ≠ 0 := by
      intro hzero
      rw [hzero, div_zero] at h
      exact zero_ne_one h
    have hall : a.sharedCount b = unionCount a b := by
      exact_mod_cast (div_eq_one_iff_eq hne).mp h
    have hpos : unionCount a b ≠ 0 := by exact_mod_cast hne
    -- the common members are counted once, so both sets consist of them
    unfold unionCount at hall hpos
    refine ⟨StringSet.eq_of_sharedCount ?_ ?_, ?_⟩ <;> omega
  · rintro ⟨rfl, hne⟩
    have hunion : unionCount a a = a.size := by
      rw [unionCount, StringSet.sharedCount_self]
      omega
    rw [hunion, StringSet.sharedCount_self]
    exact div_self (by exact_mod_cast hne)

/-- Nothing is shared exactly if there is no common member. -/
theorem jaccard_eq_zero_iff : (jaccard a b : ℚ) = 0 ↔ ¬∃ x, x ∈ a ∧ x ∈ b := by
  rw [← StringSet.sharedCount_pos_iff, Nat.not_lt, Nat.le_zero, jaccard_eq, div_eq_zero_iff]
  constructor
  · rintro (hshared | hunion)
    · exact_mod_cast hshared
    · have hzero : unionCount a b = 0 := by exact_mod_cast hunion
      exact Nat.le_zero.mp (hzero ▸ sharedCount_le_unionCount a b)
  · exact fun h => .inl (by exact_mod_cast h)

theorem exact_structureScore_eq (s t : String) :
    (structureScore s t : ℚ) = if s = t then 1 else 0 := by
  rw [structureScore_eq]
  split <;> simp [Arithmetic.quotient]

end Parts

/-! ## Totals -/

/-- The total of an entry's score as an exact number. -/
def exactTotal (candidate : Fingerprint) (e : CorpusEntry) : ℚ :=
  (score candidate e.fingerprint).total

section Totals

variable (candidate : Fingerprint) (e : CorpusEntry)

theorem exactTotal_eq :
    exactTotal candidate e =
      (jaccard candidate.props e.fingerprint.props +
        jaccard candidate.styleTokens e.fingerprint.styleTokens +
        (if candidate.signature = e.fingerprint.signature then 1 else 0)) / 3 := by
  rw [← exact_structureScore_eq]
  rfl

theorem exactTotal_nonneg : 0 ≤ exactTotal candidate e := by
  have hprops := jaccard_nonneg candidate.props e.fingerprint.props
  have hstyles := jaccard_nonneg candidate.styleTokens e.fingerprint.styleTokens
  rw [exactTotal_eq]
  split <;> linarith

theorem exactTotal_le_one : exactTotal candidate e ≤ 1 := by
  have hprops := jaccard_le_one candidate.props e.fingerprint.props
  have hstyles := jaccard_le_one candidate.styleTokens e.fingerprint.styleTokens
  rw [exactTotal_eq]
  split <;> linarith

variable {candidate e}

/-- The mean of three parts is one only if each of them is. -/
theorem exactTotal_eq_one_iff :
    exactTotal candidate e = 1 ↔
      candidate.SameParts e.fingerprint ∧ candidate.props ≠ ∅ ∧ candidate.styleTokens ≠ ∅ := by
  have hprops := jaccard_le_one candidate.props e.fingerprint.props
  have hstyles := jaccard_le_one candidate.styleTokens e.fingerprint.styleTokens
  rw [exactTotal_eq]
  constructor
  · intro h
    have hsignature : candidate.signature = e.fingerprint.signature := by
      by_contra hother
      rw [if_neg hother] at h
      linarith
    rw [if_pos hsignature] at h
    obtain ⟨hprops_eq, hprops_ne⟩ := jaccard_eq_one_iff.mp (le_antisymm hprops (by linarith))
    obtain ⟨hstyles_eq, hstyles_ne⟩ := jaccard_eq_one_iff.mp (le_antisymm hstyles (by linarith))
    exact ⟨⟨hprops_eq, hstyles_eq, hsignature⟩, hprops_ne, hstyles_ne⟩
  · rintro ⟨⟨hprops_eq, hstyles_eq, hsignature⟩, hprops_ne, hstyles_ne⟩
    rw [jaccard_eq_one_iff.mpr ⟨hprops_eq, hprops_ne⟩,
      jaccard_eq_one_iff.mpr ⟨hstyles_eq, hstyles_ne⟩, if_pos hsignature]
    norm_num

/-- A total is zero exactly if nothing is in common. -/
theorem exactTotal_eq_zero_iff :
    exactTotal candidate e = 0 ↔ ¬candidate.Overlaps e.fingerprint := by
  have hprops := jaccard_nonneg candidate.props e.fingerprint.props
  have hstyles := jaccard_nonneg candidate.styleTokens e.fingerprint.styleTokens
  rw [exactTotal_eq, Fingerprint.Overlaps, not_or, not_or, ← jaccard_eq_zero_iff,
    ← jaccard_eq_zero_iff]
  constructor
  · intro h
    have hother : candidate.signature ≠ e.fingerprint.signature := by
      intro hsame
      rw [if_pos hsame] at h
      linarith
    rw [if_neg hother] at h
    exact ⟨by linarith, by linarith, hother⟩
  · rintro ⟨hprops, hstyles, hother⟩
    rw [hprops, hstyles, if_neg hother]
    norm_num

/-- Without a common style token one of the three parts is missing. -/
theorem exactTotal_le_two_thirds
    (h : ¬∃ t, t ∈ candidate.styleTokens ∧ t ∈ e.fingerprint.styleTokens) :
    exactTotal candidate e ≤ 2 / 3 := by
  have hprops := jaccard_le_one candidate.props e.fingerprint.props
  rw [exactTotal_eq, jaccard_eq_zero_iff.mpr h]
  split <;> linarith

end Totals

/-- Exact totals compare as what they are. -/
theorem weighs_exactTotal (candidate : Fingerprint) :
    Weighs ℚ candidate (exactTotal candidate) where
  nonneg := exactTotal_nonneg candidate
  zero_less e := by
    have hzero : (Arithmetic.zero : ℚ) = 0 := by simp [Arithmetic.zero, Arithmetic.quotient]
    rw [hzero]
    rfl
  less _ _ := rfl

end Similarity

end ComponentLikeness
