import ComponentLikeness.Number.Arithmetic
import Mathlib.Algebra.Order.Field.Power
import Mathlib.Data.Rat.Lemmas
import Mathlib.Tactic.FieldSimp
import Mathlib.Tactic.Linarith
import Mathlib.Tactic.NormNum
import Mathlib.Tactic.Positivity

/-!
# Rounding

How far the double nearest to a quotient lies from it: not more than half a unit
of its last bit (`abs_nearest_sub_le`). The last bit is the least one of the
format, or so small that 52 bits still lie between it and the quotient
(`lastBit_eq_or_le`).

Scores need less than that. `Rounds q r` says that `r` is close enough to `q` not
to turn a number into zero, or zero into a number, and not to leave the range.
-/

namespace ComponentLikeness.Number

/-! ## Whole numbers and powers of two -/

/-- Twice the error of the nearest whole number is at most the divisor. -/
theorem roundHalfEven_bounds (num : Nat) {den : Nat} (h : 0 < den) :
    2 * (roundHalfEven num den * den) ≤ 2 * num + den ∧
      2 * num ≤ 2 * (roundHalfEven num den * den) + den := by
  have hdiv := Nat.div_add_mod num den
  have hmod := Nat.mod_lt num h
  have hdown : num / den * den = den * (num / den) := Nat.mul_comm _ _
  have hup : (num / den + 1) * den = den * (num / den) + den := by
    rw [Nat.add_mul, hdown, Nat.one_mul]
  simp only [roundHalfEven]
  split
  · omega
  · split
    · omega
    · split <;> omega

theorem abs_roundHalfEven_sub_le (num : Nat) {den : Nat} (h : 0 < den) :
    |(roundHalfEven num den : ℚ) - num / den| ≤ 1 / 2 := by
  obtain ⟨hle, hge⟩ := roundHalfEven_bounds num h
  have hden : (0 : ℚ) < den := by exact_mod_cast h
  have hle' : 2 * ((roundHalfEven num den : ℚ) * den) ≤ 2 * num + den := by exact_mod_cast hle
  have hge' : 2 * (num : ℚ) ≤ 2 * (roundHalfEven num den * den) + den := by exact_mod_cast hge
  have hnum : (num : ℚ) / den * den = num := div_mul_cancel₀ _ hden.ne'
  rw [abs_le]
  constructor
  · nlinarith
  · nlinarith

theorem timesPowerOfTwo_eq (m : Nat) (e : Int) : timesPowerOfTwo m e = m * (2 : ℚ) ^ e := by
  unfold timesPowerOfTwo
  split
  · rename_i he
    obtain ⟨k, rfl⟩ := Int.eq_ofNat_of_zero_le he
    simp [Nat.shiftLeft_eq]
  · rename_i he
    obtain ⟨k, rfl⟩ : ∃ k : Nat, e = -k := ⟨(-e).toNat, by omega⟩
    simp [Nat.shiftLeft_eq, Rat.mkRat_eq_div, div_eq_mul_inv]

theorem snd_scaleDown_pos (num : Nat) {den : Nat} (h : 0 < den) (e : Int) :
    0 < (scaleDown num den e).2 := by
  unfold scaleDown
  split
  · rw [Nat.shiftLeft_eq]
    exact Nat.mul_pos h (Nat.two_pow_pos _)
  · exact h

/-- Scaling down divides the quotient by the power of two. -/
theorem scaleDown_quotient (num den : Nat) (e : Int) :
    ((scaleDown num den e).1 : ℚ) / (scaleDown num den e).2 = num / den / 2 ^ e := by
  unfold scaleDown
  split
  · rename_i he
    obtain ⟨k, rfl⟩ := Int.eq_ofNat_of_zero_le he
    simp [Nat.shiftLeft_eq, div_div]
  · rename_i he
    obtain ⟨k, rfl⟩ : ∃ k : Nat, e = -k := ⟨(-e).toNat, by omega⟩
    simp [Nat.shiftLeft_eq, div_eq_mul_inv, mul_right_comm]

namespace Binary64

/-! ## The last bit -/

/-- The logarithms of a quotient's parts bound the quotient from below. -/
theorem two_zpow_log2_sub_le {num den : Nat} (hnum : num ≠ 0) (hden : 0 < den) :
    (2 : ℚ) ^ ((num.log2 : Int) - (den.log2 : Int) - 1) ≤ num / den := by
  have hn : (2 : ℚ) ^ num.log2 ≤ num := by exact_mod_cast Nat.log2_self_le hnum
  have hd : (den : ℚ) ≤ 2 ^ (den.log2 + 1) := by exact_mod_cast Nat.lt_log2_self.le
  have hpos : (0 : ℚ) < den := by exact_mod_cast hden
  rw [le_div_iff₀ hpos]
  calc (2 : ℚ) ^ ((num.log2 : Int) - (den.log2 : Int) - 1) * den
      ≤ 2 ^ ((num.log2 : Int) - (den.log2 : Int) - 1) * 2 ^ (den.log2 + 1) := by gcongr
    _ = 2 ^ num.log2 := by
      rw [← zpow_natCast, ← zpow_natCast, ← zpow_add₀ two_ne_zero]
      congr 1
      push_cast
      omega
    _ ≤ num := hn

/-- Above the least bit of the format, 52 more bits lie between the last bit and
the quotient. -/
theorem lastBit_eq_or_le {num den : Nat} (hnum : num ≠ 0) (hden : 0 < den) :
    lastBit num den = minExponent ∨ (2 : ℚ) ^ (lastBit num den + 52) ≤ num / den := by
  have hmax : ∀ e : Int, (2 : ℚ) ^ (e + 52) ≤ num / den →
      max minExponent e = minExponent ∨ (2 : ℚ) ^ (max minExponent e + 52) ≤ num / den := by
    intro e he
    rcases max_cases minExponent e with ⟨hm, -⟩ | ⟨hm, -⟩
    · exact .inl hm
    · rw [hm]
      exact .inr he
  unfold lastBit
  refine hmax _ ?_
  split
  · refine le_trans (le_of_eq ?_) (two_zpow_log2_sub_le hnum hden)
    congr 1
    omega
  · rename_i hfull
    set guess : Int := (num.log2 : Int) - (den.log2 : Int) - 52
    have hpos := snd_scaleDown_pos num hden guess
    have hq := scaleDown_quotient num den guess
    have hfull' : ((scaleDown num den guess).2 : ℚ) * 2 ^ 52 ≤ (scaleDown num den guess).1 := by
      exact_mod_cast Nat.le_of_not_lt hfull
    have hquot : (2 : ℚ) ^ 52 ≤ num / den / 2 ^ guess := by
      rw [← hq, le_div_iff₀ (by exact_mod_cast hpos), mul_comm]
      exact hfull'
    rw [zpow_add₀ two_ne_zero, mul_comm]
    exact (le_div_iff₀ (by positivity)).mp hquot

/-! ## The nearest magnitude -/

theorem nearest_zero (den : Nat) : nearest 0 den = 0 := by
  rw [nearest, if_pos rfl]

-- the parts are named, for the scaling itself is no term to evaluate in a proof
theorem nearest_eq_of_scaleDown {num den n d : Nat} (hnum : num ≠ 0)
    (h : scaleDown num den (lastBit num den) = (n, d)) :
    nearest num den = roundHalfEven n d * (2 : ℚ) ^ lastBit num den := by
  rw [nearest, if_neg hnum, ← timesPowerOfTwo_eq]
  extract_lets e
  have hscaled : scaleDown num den e = (n, d) := h
  rw [hscaled]

theorem nearest_nonneg (num den : Nat) : 0 ≤ nearest num den := by
  by_cases hnum : num = 0
  · rw [hnum, nearest_zero]
  · rw [nearest_eq_of_scaleDown hnum Prod.mk.eta.symm]
    positivity

/-- The error is at most half a unit of the last bit. -/
theorem abs_nearest_sub_le {num den : Nat} (hnum : num ≠ 0) (hden : 0 < den) :
    |nearest num den - num / den| ≤ 2 ^ lastBit num den / 2 := by
  obtain ⟨n, d, hscaled⟩ : ∃ n d, scaleDown num den (lastBit num den) = (n, d) :=
    ⟨_, _, Prod.mk.eta.symm⟩
  have hpos : (0 : ℚ) < 2 ^ lastBit num den := by positivity
  have hd := snd_scaleDown_pos num hden (lastBit num den)
  have hscale := scaleDown_quotient num den (lastBit num den)
  rw [hscaled] at hd hscale
  have hquot : (num : ℚ) / den = n / d * 2 ^ lastBit num den := by
    rw [hscale, div_mul_cancel₀ _ hpos.ne']
  rw [nearest_eq_of_scaleDown hnum hscaled, hquot, ← sub_mul, abs_mul, abs_of_pos hpos]
  linarith [mul_le_mul_of_nonneg_right (abs_roundHalfEven_sub_le n hd) hpos.le]

/-- The magnitude `r` is close enough to `q` for the arithmetic of scores: it is
no less than half of it above the least bit, and not out of range. -/
structure Rounds (q r : ℚ) : Prop where
  nonneg : 0 ≤ r
  le : r ≤ 2 * q + 1
  eq_zero : q = 0 → r = 0
  half_le : 2 ^ minExponent ≤ q → q / 2 ≤ r

theorem rounds_nearest (num : Nat) {den : Nat} (hden : 0 < den) :
    Rounds (num / den) (nearest num den) := by
  by_cases hnum : num = 0
  · subst hnum
    rw [nearest_zero]
    constructor <;> norm_num
  · have hpos : (0 : ℚ) < num / den := by positivity
    have herror := abs_le.mp (abs_nearest_sub_le hnum hden)
    -- the last bit is the least one, or below the quotient
    have hbit : (2 : ℚ) ^ lastBit num den = 2 ^ minExponent ∨
        (2 : ℚ) ^ lastBit num den ≤ num / den := by
      rcases lastBit_eq_or_le hnum hden with h | h
      · exact .inl (by rw [h])
      · refine .inr (le_trans ?_ h)
        exact zpow_le_zpow_right₀ one_le_two (by omega)
    have hleast : (2 : ℚ) ^ minExponent ≤ 1 :=
      zpow_le_one_of_nonpos₀ one_le_two (by unfold minExponent; omega)
    refine ⟨nearest_nonneg _ _, ?_, fun h => absurd h hpos.ne', fun h => ?_⟩
    · rcases hbit with hbit | hbit <;> linarith
    · rcases hbit with hbit | hbit <;> linarith

/-- A number that is not too small is at most halved. -/
theorem Rounds.two_zpow_le {q r : ℚ} (h : Rounds q r) {j k : Int} (hk : minExponent ≤ k)
    (hjk : j = k - 1) (hq : 2 ^ k ≤ q) : 2 ^ j ≤ r := by
  have hhalf := h.half_le ((zpow_le_zpow_right₀ one_le_two hk).trans hq)
  rw [hjk, zpow_sub_one₀ two_ne_zero]
  linarith

/-! ## Operations -/

theorem lt_two_pow {q : ℚ} (h : q ≤ 1000) {k : Nat} (hk : 10 ≤ k) : q < 2 ^ k := by
  have hten : (1000 : ℚ) < 2 ^ 10 := by norm_num
  exact lt_of_le_of_lt h (lt_of_lt_of_le hten (pow_le_pow_right₀ one_le_two hk))

theorem limit_eq : limit = 2 ^ 1024 := by
  simp only [limit, Nat.shiftLeft_eq, Nat.one_mul, Nat.cast_pow, Nat.cast_ofNat]

theorem lt_limit {q : ℚ} (h : q ≤ 1000) : q < limit := by
  rw [limit_eq]
  exact lt_two_pow h (by omega)

theorem natAbs_num_div_den {q : ℚ} (h : 0 ≤ q) : (q.num.natAbs : ℚ) / q.den = q := by
  have hnum : ((q.num.natAbs : Int) : ℚ) = q.num := by
    rw [Int.natAbs_of_nonneg (Rat.num_nonneg.mpr h)]
  rw [← Int.cast_natCast, hnum]
  exact Rat.num_div_den q

end Binary64

end ComponentLikeness.Number
