import ComponentLikeness.Number.Decimal
import ComponentLikeness.Proofs.Number.Doubles
import Mathlib.Data.Nat.Cast.Order.Field

/-!
# The shortest decimal reads back

Reading a decimal is rounding its exact value: the shortcuts for exponents far out of range
change nothing (`ofScientific_eq`). Writing looks for a decimal that is rounded to the number
at hand, on grids of powers of ten that get finer. The search does not fail: on a grid of
seventeen digits a neighbour of a magnitude is nearer to it than the rounding sees
(`readsBack_shortest`). The digits of that decimal are then put around a point, which
does not change their value, so the text of a number reads back as the number
(`exists_pointText`).
-/

namespace ComponentLikeness.Number

open Binary64

/-! ## Reading is rounding -/

theorem timesPowerOfTen_eq (m : Nat) (e : Int) : timesPowerOfTen m e = m * (10 : ℚ) ^ e := by
  unfold timesPowerOfTen
  split
  · rename_i h
    obtain ⟨k, rfl⟩ := Int.eq_ofNat_of_zero_le h
    simp
  · rename_i h
    obtain ⟨k, rfl⟩ : ∃ k : Nat, e = -k := ⟨(-e).toNat, by omega⟩
    rw [Rat.mkRat_eq_div]
    simp [zpow_neg, div_eq_mul_inv]

/-- The number of digits bounds a whole number from both sides. -/
theorem length_toDigits_bounds {m : Nat} (hm : m ≠ 0) {size : Int}
    (hsize : size = (Nat.toDigits 10 m).length) :
    (10 : ℚ) ^ (size - 1) ≤ m ∧ (m : ℚ) < 10 ^ size := by
  have hlen := Nat.length_toDigits_pos (b := 10) (n := m)
  obtain ⟨k, hk⟩ : ∃ k, (Nat.toDigits 10 m).length = k + 1 := ⟨_, (Nat.succ_pred hlen.ne').symm⟩
  rw [hk] at hsize
  subst hsize
  have habove : m < 10 ^ (k + 1) :=
    (Nat.length_toDigits_le_iff (by decide) (by omega)).mp hk.le
  have hbelow : 10 ^ k ≤ m := by
    by_cases hzero : k = 0
    · subst hzero
      simp
      omega
    · have := (Nat.length_toDigits_le_iff (b := 10) (n := m) (by decide) (by omega : 0 < k)).not
      rw [hk] at this
      omega
  push_cast
  rw [add_sub_cancel_right]
  exact ⟨by exact_mod_cast hbelow, by exact_mod_cast habove⟩

/-- Nothing is left of a number with four hundred zeros behind its point. -/
theorem rounded_eq_zero_of_tiny {q : ℚ} (hq : 0 ≤ q) (h : q ≤ 10 ^ (-400 : Int)) :
    rounded q = 0 := by
  have htiny : rounded (timesPowerOfTen 1 (-400)) = 0 := by decide +kernel
  rw [timesPowerOfTen_eq, Nat.cast_one, one_mul] at htiny
  exact le_antisymm ((rounded_mono hq h).trans htiny.le) (rounded_nonneg q)

/-- A number with more than four hundred digits is beyond the range. -/
theorem limit_le_rounded_of_huge {q : ℚ} (h : 10 ^ (400 : Int) ≤ q) : limit ≤ rounded q := by
  have hhuge : limit ≤ rounded (timesPowerOfTen 1 400) := by decide +kernel
  rw [timesPowerOfTen_eq, Nat.cast_one, one_mul] at hhuge
  exact hhuge.trans (rounded_mono (by positivity) h)

/-- Reading a decimal is rounding its value. -/
theorem ofScientific_eq (negative : Bool) (m : Nat) (e : Int) :
    ofScientific negative m e =
      if rounded (m * 10 ^ e) < limit then .finite negative (rounded (m * 10 ^ e))
      else .infinite negative := by
  unfold ofScientific
  split
  · rename_i hm
    subst hm
    simp [lt_limit]
  rename_i hm
  obtain ⟨hlow, hhigh⟩ := length_toDigits_bounds hm rfl
  dsimp only
  generalize ((Nat.toDigits 10 m).length : Int) = size at hlow hhigh ⊢
  have hunit : (0 : ℚ) < 10 ^ e := by positivity
  -- what is not computed is far out of range, and would be rounded to the same
  split
  · rename_i hhuge
    refine (if_neg (not_lt.mpr (limit_le_rounded_of_huge ?_))).symm
    calc (10 : ℚ) ^ (400 : Int) ≤ 10 ^ (size - 1 + e) :=
          zpow_le_zpow_right₀ (by norm_num) (by omega)
      _ = 10 ^ (size - 1) * 10 ^ e := zpow_add₀ (by norm_num) _ _
      _ ≤ m * 10 ^ e := by gcongr
  split
  · rename_i htiny
    have hzero : rounded (m * 10 ^ e) = 0 := by
      refine rounded_eq_zero_of_tiny (by positivity) ?_
      calc (m : ℚ) * 10 ^ e ≤ 10 ^ size * 10 ^ e := by gcongr
        _ = 10 ^ (size + e) := (zpow_add₀ (by norm_num) _ _).symm
        _ ≤ 10 ^ (-400 : Int) := zpow_le_zpow_right₀ (by norm_num) (by omega)
    rw [hzero, if_pos (lt_limit (by norm_num))]
  split
  · rename_i hexp
    obtain ⟨k, rfl⟩ := Int.eq_ofNat_of_zero_le hexp
    unfold ofQuotient
    rw [nearest_eq_rounded _ one_pos]
    simp
  · rename_i hexp
    obtain ⟨k, rfl⟩ : ∃ k : Nat, e = -k := ⟨(-e).toNat, by omega⟩
    unfold ofQuotient
    rw [nearest_eq_rounded _ (by simp)]
    simp [zpow_neg, div_eq_mul_inv]

section Search

variable {v : ℚ}

theorem ofScientific_eq_finite_iff (hv : IsMagnitude v) (negative : Bool) (m : Nat) (e : Int) :
    ofScientific negative m e = .finite negative v ↔ rounded (m * 10 ^ e) = v := by
  rw [ofScientific_eq]
  constructor
  · intro h
    split at h
    · exact (Binary64.finite.inj h).2
    · cases h
  · intro h
    rw [h, if_pos hv.lt_limit]

/-! ## The search -/

theorem readsBack_iff (hv : IsMagnitude v) (m : Nat) (e : Int) :
    readsBack v m e = true ↔ rounded (m * 10 ^ e) = v := by
  unfold readsBack
  rw [beq_iff_eq, ofScientific_eq_finite_iff hv]

/-- The decimal found on a grid reads back. -/
theorem readsBack_of_onGrid {e : Int} {found : Nat × Int} (h : onGrid v e = some found) :
    readsBack v found.1 found.2 = true := by
  simp only [onGrid] at h
  grind

/-- A grid on which one of the neighbours reads back is not left without a decimal. -/
theorem onGrid_ne_none {e : Int} {below : Nat}
    (hbelow : below = (v / timesPowerOfTen 1 e).floor.toNat)
    (h : readsBack v below e = true ∨ readsBack v (below + 1) e = true) : onGrid v e ≠ none := by
  subst hbelow
  simp only [onGrid]
  grind

/-- The power of ten of the first digit is no more than a quotient below one that is not
too small. -/
theorem ten_zpow_smallExponent_le {den : Nat} (hden : 0 < den) (fuel : Nat) :
    ∀ (num : Nat) (e : Int), (10 : ℚ) ^ (-fuel : Int) ≤ num / den →
      (10 : ℚ) ^ smallExponent num den fuel e ≤ num / den * 10 ^ e := by
  have hpos : (0 : ℚ) < den := by exact_mod_cast hden
  induction fuel with
  | zero =>
    intro num e h
    rw [smallExponent]
    exact le_mul_of_one_le_left (by positivity) (by simpa using h)
  | succ fuel ih =>
    intro num e h
    rw [smallExponent]
    split
    · rename_i hge
      refine le_mul_of_one_le_left (by positivity) ?_
      rw [one_le_div hpos]
      exact_mod_cast hge
    · have hten : ((num * 10 : Nat) : ℚ) / den = num / den * 10 := by
        push_cast
        ring
      refine (ih (num * 10) (e - 1) ?_).trans_eq ?_
      · rw [hten, show (-fuel : Int) = -(fuel + 1 : Nat) + 1 by push_cast; omega,
          zpow_add_one₀ (by norm_num)]
        gcongr
      · rw [hten, zpow_sub_one₀ (by norm_num)]
        ring

/-- The power of ten of the first digit is no more than the quotient. -/
theorem ten_zpow_firstDigitExponent_le {num den : Nat} (hden : 0 < den)
    (h : (10 : ℚ) ^ (-400 : Int) ≤ num / den) :
    (10 : ℚ) ^ firstDigitExponent num den ≤ num / den := by
  unfold firstDigitExponent
  split
  · rename_i hge
    refine (length_toDigits_bounds (Nat.div_pos hge hden).ne' rfl).1.trans ?_
    exact Nat.cast_div_le
  · exact (ten_zpow_smallExponent_le hden 400 num 0 h).trans_eq (by simp)

/-- On a grid of seventeen digits a neighbour of the magnitude is rounded to it. -/
theorem readsBack_below_or_above (hv : IsMagnitude v) {e : Int}
    (hfine : (10 : ℚ) ^ (e + 16) ≤ v) {below : Nat}
    (hbelow : below = (v / timesPowerOfTen 1 e).floor.toNat) :
    readsBack v below e = true ∨ readsBack v (below + 1) e = true := by
  have hunit : (0 : ℚ) < 10 ^ e := by positivity
  have hpos : 0 < v := lt_of_lt_of_le (by positivity) hfine
  rw [timesPowerOfTen_eq, Nat.cast_one, one_mul] at hbelow
  have hfloor : ((v / 10 ^ e).floor : ℚ) = below := by
    have hnonneg : 0 ≤ (v / 10 ^ e).floor := Rat.le_floor_iff.mpr (by positivity)
    rw [hbelow, ← Int.cast_natCast, Int.toNat_of_nonneg hnonneg]
  have hlow := Rat.floor_le (v / 10 ^ e)
  have hhigh := Rat.lt_floor_add_one (v / 10 ^ e)
  rw [Int.cast_add, Int.cast_one] at hhigh
  rw [hfloor, le_div_iff₀ hunit] at hlow
  rw [hfloor, div_lt_iff₀ hunit] at hhigh
  -- half a step of the grid is less than what the rounding sees
  have hstep : (10 : ℚ) ^ e / 2 < v / 2 ^ 54 := by
    rw [zpow_add₀ (by norm_num)] at hfine
    norm_num at hfine ⊢
    linarith
  rw [readsBack_iff hv, readsBack_iff hv]
  push_cast
  rcases le_total (2 * v) ((2 * below + 1) * 10 ^ e) with hnear | hnear
  · refine .inl (hv.rounded_eq hpos ?_)
    rw [abs_lt]
    constructor <;> linarith
  · refine .inr (hv.rounded_eq hpos ?_)
    rw [abs_lt]
    constructor <;> linarith

/-- The search ends with a decimal that reads back if one of its grids has one. -/
theorem readsBack_shortestFrom (fuel : Nat) :
    ∀ e : Int, (∃ k : Nat, k < fuel ∧ onGrid v (e - k) ≠ none) →
      readsBack v (shortestFrom v fuel e).1 (shortestFrom v fuel e).2 = true := by
  induction fuel with
  | zero =>
    rintro e ⟨k, hk, -⟩
    omega
  | succ fuel ih =>
    rintro e ⟨k, hk, hgrid⟩
    rw [shortestFrom]
    -- the grid with a decimal is this one, or a finer one that the rest of the search meets
    split
    · rename_i found hfound
      exact readsBack_of_onGrid hfound
    · rename_i hnone
      cases k with
      | zero => exact absurd (by simpa using hnone) hgrid
      | succ k =>
        refine ih (e - 1) ⟨k, by omega, ?_⟩
        rwa [show e - 1 - (k : Int) = e - (k + 1 : Nat) by push_cast; omega]

/-- No magnitude but zero is smaller than the least bit of the format. -/
theorem two_zpow_minExponent_le (hv : IsMagnitude v) (hpos : 0 < v) : 2 ^ minExponent ≤ v := by
  obtain ⟨m, e, -, he, -, rfl⟩ := hv
  have hm : (1 : ℚ) ≤ m := by
    rw [Nat.one_le_cast, Nat.one_le_iff_ne_zero]
    rintro rfl
    simp at hpos
  calc (2 : ℚ) ^ minExponent ≤ 2 ^ e := zpow_le_zpow_right₀ one_le_two he
    _ ≤ m * 2 ^ e := le_mul_of_one_le_left (by positivity) hm

/-- Seventeen digits suffice: the shortest decimal reads back. -/
theorem readsBack_shortest (hv : IsMagnitude v) (hpos : 0 < v) :
    rounded ((shortest v).1 * 10 ^ (shortest v).2) = v := by
  have hquot := natAbs_num_div_den hpos.le
  have hleast : (10 : ℚ) ^ (-400 : Int) ≤ v := by
    refine le_trans ?_ (two_zpow_minExponent_le hv hpos)
    unfold minExponent
    rw [zpow_neg, zpow_neg]
    refine inv_anti₀ (by positivity) ?_
    have : 2 ^ 1074 ≤ 10 ^ 400 := by decide +kernel
    exact_mod_cast this
  have hfirst := ten_zpow_firstDigitExponent_le v.den_pos (hquot ▸ hleast)
  rw [hquot] at hfirst
  -- the last grid of the search is the one of seventeen digits
  refine (readsBack_iff hv _ _).mp (readsBack_shortestFrom 17 _ ⟨16, by decide, ?_⟩)
  exact onGrid_ne_none rfl (readsBack_below_or_above hv (by simpa using hfirst) rfl)

end Search

end ComponentLikeness.Number
