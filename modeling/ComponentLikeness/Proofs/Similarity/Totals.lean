import ComponentLikeness.Proofs.Number.Monotonicity
import ComponentLikeness.Similarity.Score
import Mathlib.Data.List.Basic
import Mathlib.Data.List.Perm.Subperm

/-!
# Totals in doubles

The total of a score is the mean of three quotients of counts, each operation
being rounded. It is always an ordinary number that is not negative
(`exists_total_eq`), so totals are ordered like their values. Rounding never
turns a positive total into zero as long as sets are counted in machine words
(`Fingerprint.Countable`), and then a total is positive exactly if two
fingerprints have something in common (`totalValue_pos_iff`).
-/

namespace ComponentLikeness

open Component Number Similarity Text

/-! ## Counting shared members -/

namespace Text.StringSet

theorem sharedCount_le_size (a b : StringSet) : a.sharedCount b ≤ a.size :=
  List.countP_le_length

theorem sharedCount_le_size_right (a b : StringSet) : a.sharedCount b ≤ b.size := by
  have hnodup : (a.items.filter fun x => decide (x ∈ b)).Nodup :=
    (a.sorted.imp fun h => String.ne_of_lt h).filter _
  have hsubset : (a.items.filter fun x => decide (x ∈ b)) ⊆ b.items := by
    intro x hx
    exact of_decide_eq_true (List.mem_filter.mp hx).2
  rw [sharedCount, List.countP_eq_length_filter]
  exact (List.subperm_of_subset hnodup hsubset).length_le

theorem sharedCount_pos_iff {a b : StringSet} : 0 < a.sharedCount b ↔ ∃ x, x ∈ a ∧ x ∈ b := by
  rw [sharedCount, List.countP_pos_iff]
  simp

end Text.StringSet

namespace Similarity

variable {α : Type} [Arithmetic α]

/-- Unless both sets are empty, there is something to divide by. -/
theorem unionCount_pos {a b : StringSet} (h : ¬(a.isEmpty && b.isEmpty) = true) :
    0 < unionCount a b := by
  have ha := a.sharedCount_le_size b
  have hb := a.sharedCount_le_size_right b
  have hpos : 0 < a.size ∨ 0 < b.size := by
    rw [Bool.and_eq_true, not_and_or] at h
    refine h.imp ?_ ?_ <;>
      exact fun h => List.length_pos_iff.mpr fun hnil => h (List.isEmpty_iff.mpr hnil)
  unfold unionCount
  omega

/-- The divisor is never zero, and no smaller than the number of shared members. -/
theorem exists_jaccard_eq (a b : StringSet) :
    ∃ n, (jaccard a b : α) = Arithmetic.quotient (a.sharedCount b) n ∧ 0 < n ∧
      a.sharedCount b ≤ n ∧ n ≤ a.size + b.size + 1 := by
  have ha := a.sharedCount_le_size b
  have hb := a.sharedCount_le_size_right b
  by_cases hempty : (a.isEmpty && b.isEmpty) = true
  · have hsize : a.size = 0 := by
      rw [Bool.and_eq_true] at hempty
      exact List.length_eq_zero_iff.mpr (List.isEmpty_iff.mp hempty.1)
    have hshared : a.sharedCount b = 0 := by omega
    refine ⟨1, ?_, by omega, by omega, by omega⟩
    rw [jaccard, if_pos hempty, hshared]
    rfl
  · refine ⟨unionCount a b, ?_, unionCount_pos hempty, ?_, ?_⟩
    · rw [jaccard, if_neg hempty]
    all_goals
      unfold unionCount
      omega

theorem structureScore_eq (s t : String) :
    (structureScore s t : α) = Arithmetic.quotient (if s = t then 1 else 0) 1 := by
  rw [structureScore, apply_ite (Arithmetic.quotient (α := α) · 1)]
  rfl

/-! ## Parts and means -/

/-- A share of the whole as a double. -/
theorem exists_quotient_eq {m n : Nat} (hn : 0 < n) (hmn : m ≤ n) :
    ∃ x : ℚ, (Arithmetic.quotient m n : Binary64) = .finite false x ∧ 0 ≤ x ∧ x ≤ 3 ∧
      (m = 0 → x = 0) ∧ (0 < m → n ≤ 2 ^ 65 → 2 ^ (-66 : Int) ≤ x) := by
  have hn' : (0 : ℚ) < n := by exact_mod_cast hn
  have hle : (m : ℚ) / n ≤ 1 := (div_le_one hn').mpr (by exact_mod_cast hmn)
  have hr := Binary64.rounds_rounded (q := m / n) (by positivity)
  have hle3 : Binary64.rounded (m / n) ≤ 3 := by linarith [hr.le]
  have hsmall : (m : ℚ) / n ≤ 100 := hle.trans (by norm_num)
  refine ⟨_, Binary64.ofQuotient_eq_rounded m hn hsmall, hr.nonneg, hle3, ?_, ?_⟩
  · intro hm
    refine hr.eq_zero ?_
    rw [hm, Nat.cast_zero, zero_div]
  · intro hm hn65
    refine hr.two_zpow_le (k := -65) (by decide) (by omega) ?_
    have hm' : (1 : ℚ) ≤ m := by exact_mod_cast hm
    have hn65' : (n : ℚ) ≤ 2 ^ 65 := by exact_mod_cast hn65
    rw [zpow_neg, le_div_iff₀ hn', inv_mul_le_iff₀ (by positivity)]
    calc (n : ℚ) ≤ 2 ^ 65 * 1 := by linarith
      _ ≤ 2 ^ (65 : Int) * m := by
        rw [zpow_ofNat]
        gcongr

/-- The mean of three doubles is positive if one of them is, and not too small. -/
theorem exists_mean_eq {x y z : ℚ} (hx : 0 ≤ x) (hx' : x ≤ 3) (hy : 0 ≤ y) (hy' : y ≤ 3)
    (hz : 0 ≤ z) (hz' : z ≤ 3) :
    ∃ t : ℚ, mean (.finite false x) (.finite false y) (.finite false z) =
        Binary64.finite false t ∧ 0 ≤ t ∧
      (x = 0 → y = 0 → z = 0 → t = 0) ∧
      (2 ^ (-66 : Int) ≤ x ∨ 2 ^ (-66 : Int) ≤ y ∨ 2 ^ (-66 : Int) ≤ z → 0 < t) := by
  set s := Binary64.rounded (x + y)
  set u := Binary64.rounded (s + z)
  have hrs : Binary64.Rounds (x + y) s := Binary64.rounds_rounded (by linarith)
  have hru : Binary64.Rounds (s + z) u := Binary64.rounds_rounded (by linarith [hrs.nonneg])
  have hrt := Binary64.rounds_rounded (q := u / (3 : Nat)) (div_nonneg hru.nonneg (by positivity))
  refine ⟨_, ?_, hrt.nonneg, ?_, ?_⟩
  · show Binary64.divideBy (Binary64.add (Binary64.add _ _) _) 3 = _
    rw [Binary64.add_eq_rounded hx hy (by linarith),
      Binary64.add_eq_rounded hrs.nonneg hz (by linarith [hrs.le]),
      Binary64.divideBy_eq_rounded hru.nonneg (by omega)
        (by push_cast; linarith [hru.le, hrs.le])]
  · intro hx0 hy0 hz0
    have hs0 := hrs.eq_zero (by rw [hx0, hy0, add_zero])
    have hu0 := hru.eq_zero (by rw [hs0, hz0, add_zero])
    exact hrt.eq_zero (by rw [hu0, zero_div])
  · intro h
    -- each operation at most halves what is there
    have hsum : 2 ^ (-67 : Int) ≤ s + z := by
      have hs67 : 2 ^ (-66 : Int) ≤ x + y → 2 ^ (-67 : Int) ≤ s :=
        hrs.two_zpow_le (by decide) (by omega)
      have hhalf : (2 : ℚ) ^ (-67 : Int) ≤ 2 ^ (-66 : Int) := by norm_num
      rcases h with h | h | h
      · linarith [hs67 (by linarith)]
      · linarith [hs67 (by linarith)]
      · linarith [hrs.nonneg]
    have hu68 : 2 ^ (-68 : Int) ≤ u := hru.two_zpow_le (by decide) (by omega) hsum
    have hthird : 2 ^ (-70 : Int) ≤ u / (3 : Nat) :=
      calc (2 : ℚ) ^ (-70 : Int) = 2 ^ (-68 : Int) / 4 := by norm_num
        _ ≤ u / 4 := by gcongr
        _ ≤ u / (3 : Nat) := by
          push_cast
          linarith [hru.nonneg]
    have ht71 := hrt.two_zpow_le (j := -71) (by decide) (by omega) hthird
    exact lt_of_lt_of_le (by positivity) ht71

end Similarity

/-! ## Totals -/

/-- The sets of the fingerprint are counted in machine words. -/
def Component.Fingerprint.Countable (f : Fingerprint) : Prop :=
  f.props.size < 2 ^ 64 ∧ f.styleTokens.size < 2 ^ 64

/-- Two fingerprints share a prop or a style token, or render the same tag first. -/
def Component.Fingerprint.Overlaps (f g : Fingerprint) : Prop :=
  (∃ p, p ∈ f.props ∧ p ∈ g.props) ∨ (∃ t, t ∈ f.styleTokens ∧ t ∈ g.styleTokens) ∨
    f.signature = g.signature

namespace Similarity

/-- A total is an ordinary number that is not negative. -/
theorem exists_total_eq (candidate member : Fingerprint) :
    ∃ t : ℚ, (score candidate member).total = Binary64.finite false t ∧ 0 ≤ t ∧
      (¬ candidate.Overlaps member → t = 0) ∧
      (candidate.Countable → member.Countable → candidate.Overlaps member → 0 < t) := by
  obtain ⟨n₁, hprops, hn₁, hle₁, hbound₁⟩ :=
    exists_jaccard_eq (α := Binary64) candidate.props member.props
  obtain ⟨n₂, hstyles, hn₂, hle₂, hbound₂⟩ :=
    exists_jaccard_eq (α := Binary64) candidate.styleTokens member.styleTokens
  have hsignature := structureScore_eq (α := Binary64) candidate.signature member.signature
  obtain ⟨x, hx, hx0, hx3, hxzero, hxpos⟩ := exists_quotient_eq hn₁ hle₁
  obtain ⟨y, hy, hy0, hy3, hyzero, hypos⟩ := exists_quotient_eq hn₂ hle₂
  obtain ⟨z, hz, hz0, hz3, hzzero, hzpos⟩ :=
    exists_quotient_eq (m := if candidate.signature = member.signature then 1 else 0)
      one_pos (by split <;> omega)
  obtain ⟨t, ht, ht0, htzero, htpos⟩ := exists_mean_eq hx0 hx3 hy0 hy3 hz0 hz3
  refine ⟨t, ?_, ht0, ?_, ?_⟩
  · show mean (jaccard _ _) (jaccard _ _) (structureScore _ _) = _
    rw [hprops, hstyles, hsignature, hx, hy, hz, ht]
  · intro hnone
    simp only [Fingerprint.Overlaps, not_or] at hnone
    obtain ⟨hnoprop, hnotoken, hother⟩ := hnone
    rw [← StringSet.sharedCount_pos_iff, Nat.not_lt, Nat.le_zero] at hnoprop hnotoken
    exact htzero (hxzero hnoprop) (hyzero hnotoken) (hzzero (if_neg hother))
  · rintro ⟨hcp, hct⟩ ⟨hmp, hmt⟩ (hprop | htoken | hsame)
    · exact htpos (.inl (hxpos (StringSet.sharedCount_pos_iff.mpr hprop) (by omega)))
    · exact htpos (.inr (.inl (hypos (StringSet.sharedCount_pos_iff.mpr htoken) (by omega))))
    · refine htpos (.inr (.inr (hzpos ?_ (by norm_num))))
      rw [if_pos hsame]
      exact one_pos

/-- The rational value of a total. -/
def totalValue (candidate member : Fingerprint) : ℚ :=
  match (score candidate member).total with
  | Binary64.finite _ t => t
  | _ => 0

theorem total_eq (candidate member : Fingerprint) :
    (score candidate member).total = Binary64.finite false (totalValue candidate member) := by
  obtain ⟨t, ht, -⟩ := exists_total_eq candidate member
  rw [totalValue, ht]

theorem totalValue_nonneg (candidate member : Fingerprint) :
    0 ≤ totalValue candidate member := by
  obtain ⟨t, ht, ht0, -⟩ := exists_total_eq candidate member
  rw [totalValue, ht]
  exact ht0

theorem totalValue_pos_iff {candidate member : Fingerprint} (hc : candidate.Countable)
    (hm : member.Countable) :
    0 < totalValue candidate member ↔ candidate.Overlaps member := by
  obtain ⟨t, ht, ht0, hzero, hpos⟩ := exists_total_eq candidate member
  rw [totalValue, ht]
  refine ⟨fun h => ?_, hpos hc hm⟩
  by_contra hnone
  exact h.ne' (hzero hnone)

end Similarity

end ComponentLikeness
