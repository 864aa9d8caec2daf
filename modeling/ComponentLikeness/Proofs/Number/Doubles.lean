import ComponentLikeness.Proofs.Number.Monotonicity

/-!
# The numbers of the format

A magnitude of the format is a whole number of at most 53 bits times a power of two that
is not too small or too large. In units of its last bit such a magnitude is a whole number,
full unless the bit is the least one of the format (`IsMagnitude.exists_full`), so its
neighbours are far away: every rational less than `v / 2 ^ 54` from a magnitude `v` is
rounded to it (`IsMagnitude.rounded_eq`). Within the range, rounding leads to magnitudes
only (`isMagnitude_rounded`), so every number that it makes is one of the format
(`isDouble_ofQuotient`).
-/

namespace ComponentLikeness.Number

/-- A quotient next to a whole number has that as its nearest one. -/
theorem roundHalfEven_eq_of_abs_sub_lt {num den k : Nat} (hden : 0 < den)
    (h : |(num : ℚ) / den - k| < 1 / 2) : roundHalfEven num den = k := by
  have hnear := abs_le.mp (abs_roundHalfEven_sub_le num hden)
  have hquot := abs_lt.mp h
  have hlow : (k : ℚ) < roundHalfEven num den + 1 := by linarith
  have hhigh : (roundHalfEven num den : ℚ) < k + 1 := by linarith
  have hlow' : k < roundHalfEven num den + 1 := by exact_mod_cast hlow
  have hhigh' : roundHalfEven num den < k + 1 := by exact_mod_cast hhigh
  omega

namespace Binary64

/-! ## Units of the last bit -/

/-- A positive rational is the quotient `n / d` in units of the bit `b`, which is where its
53 bits end; near zero it is the least bit of the format. -/
structure InUnits (q : ℚ) (b : Int) (n d : Nat) : Prop where
  least_le : minExponent ≤ b
  den_pos : 0 < d
  quotient : (n : ℚ) / d = q / 2 ^ b
  rounded_eq : rounded q = roundHalfEven n d * 2 ^ b
  full : b = minExponent ∨ 2 ^ (b + 52) ≤ q
  lt : q < 2 ^ (b + 53)

theorem exists_inUnits {q : ℚ} (hpos : 0 < q) : ∃ b n d, InUnits q b n d := by
  have hquot := natAbs_num_div_den hpos.le
  have hnum : q.num.natAbs ≠ 0 := by simpa using hpos.ne'
  obtain ⟨n, d, hscaled⟩ :
      ∃ n d, scaleDown q.num.natAbs q.den (lastBit q.num.natAbs q.den) = (n, d) :=
    ⟨_, _, Prod.mk.eta.symm⟩
  have hd := snd_scaleDown_pos q.num.natAbs q.den_pos (lastBit q.num.natAbs q.den)
  have hscale := scaleDown_quotient q.num.natAbs q.den (lastBit q.num.natAbs q.den)
  have hfull := lastBit_eq_or_le hnum q.den_pos
  have hlt := @lt_two_zpow_lastBit q.num.natAbs _ q.den_pos
  rw [hscaled] at hd hscale
  rw [hquot] at hscale hfull hlt
  exact ⟨_, n, d, le_max_left _ _, hd, hscale, nearest_eq_of_scaleDown hnum hscaled, hfull, hlt⟩

/-! ## Magnitudes -/

/-- The magnitudes of finite numbers: up to 53 bits, and the place of the last one. -/
def IsMagnitude (v : ℚ) : Prop :=
  ∃ (m : Nat) (e : Int), m < 2 ^ 53 ∧ minExponent ≤ e ∧ e ≤ 971 ∧ v = m * 2 ^ e

/-- The numbers that the format has. -/
def IsDouble : Binary64 → Prop
  | .nan _ => True
  | .infinite _ => True
  | .finite _ magnitude => IsMagnitude magnitude

namespace IsMagnitude

variable {v : ℚ}

theorem zero : IsMagnitude 0 := ⟨0, 0, by decide, by decide, by decide, by simp⟩

theorem nonneg (h : IsMagnitude v) : 0 ≤ v := by
  obtain ⟨m, e, -, -, -, rfl⟩ := h
  positivity

theorem lt_limit (h : IsMagnitude v) : v < limit := by
  obtain ⟨m, e, hm, -, he, rfl⟩ := h
  rw [limit_eq]
  have hm' : (m : ℚ) < 2 ^ 53 := by exact_mod_cast hm
  calc (m : ℚ) * 2 ^ e < 2 ^ 53 * 2 ^ e := by gcongr
    _ ≤ 2 ^ 53 * 2 ^ (971 : Int) := by
      gcongr
      exact one_le_two
    _ = 2 ^ 1024 := by
      rw [← zpow_natCast, ← zpow_natCast, ← zpow_add₀ two_ne_zero]
      norm_num

section Neighbours

variable {m : Nat} {e b : Int} {q : ℚ}

/-- The last bit of a rational next to a magnitude is none above that of the magnitude. -/
theorem lastBit_le_of_near (hm : m < 2 ^ 53) (he : minExponent ≤ e)
    (hnear : q - m * 2 ^ e < m * 2 ^ e / 2 ^ 54)
    (hlow : b = minExponent ∨ (2 : ℚ) ^ (b + 52) ≤ q) : b ≤ e := by
  rcases hlow with hb | hb
  · omega
  · by_contra hlt
    have hle : (2 : ℚ) ^ (e + 53) ≤ q := (zpow_le_zpow_right₀ one_le_two (by omega)).trans hb
    have hm' : (m : ℚ) + 1 ≤ 2 ^ 53 := by exact_mod_cast hm
    have hroom : ((m : ℚ) + 1) * 2 ^ e ≤ 2 ^ 53 * 2 ^ e := by gcongr
    have hunit : (0 : ℚ) < 2 ^ e := by positivity
    rw [zpow_add₀ two_ne_zero] at hle
    norm_num at hle hroom hnear
    linarith

/-- The bits of a rational reach as far as a full magnitude next to it. -/
theorem le_two_zpow_of_near (hm : m < 2 ^ 53) (hfull : e = minExponent ∨ 2 ^ 52 ≤ m)
    (hmin : minExponent ≤ b) (hbe : b ≤ e) (hnear : m * 2 ^ e - q < m * 2 ^ e / 2 ^ 54)
    (hhigh : q < 2 ^ (b + 53)) : (m : ℚ) * 2 ^ e ≤ 2 ^ (b + 53) := by
  have hm' : (m : ℚ) + 1 ≤ 2 ^ 53 := by exact_mod_cast hm
  have hroom : ((m : ℚ) + 1) * 2 ^ e ≤ 2 ^ 53 * 2 ^ e := by gcongr
  have hunit : (0 : ℚ) < 2 ^ e := by positivity
  by_contra hlt
  rw [not_le] at hlt
  rcases hbe.eq_or_lt with rfl | hbe
  · rw [zpow_add₀ two_ne_zero] at hlt
    norm_num at hlt hroom
    linarith
  have hbits : 2 ^ 52 ≤ m := hfull.resolve_left (by omega)
  rcases (show b + 1 = e ∨ b + 2 ≤ e by omega) with rfl | hfar
  · -- a power of two lies between the two, and the magnitude is at least a unit above it
    have hpower : (2 : ℚ) ^ (b + 53) = 2 ^ 52 * 2 ^ (b + 1) := by
      rw [← zpow_natCast, ← zpow_add₀ two_ne_zero]
      congr 1
      push_cast
      omega
    rw [hpower] at hlt hhigh
    have hnext : (2 : ℚ) ^ 52 + 1 ≤ m := by
      have := lt_of_mul_lt_mul_right hlt hunit.le
      exact_mod_cast this
    have hnext' : ((2 : ℚ) ^ 52 + 1) * 2 ^ (b + 1) ≤ m * 2 ^ (b + 1) := by gcongr
    norm_num at hroom hnext' hnear hhigh
    linarith
  · have hpower : (2 : ℚ) ^ (b + 53) ≤ 2 ^ 51 * 2 ^ e := by
      rw [← zpow_natCast, ← zpow_add₀ two_ne_zero]
      exact zpow_le_zpow_right₀ one_le_two (by push_cast; omega)
    have hbits' : (2 : ℚ) ^ 52 * 2 ^ e ≤ m * 2 ^ e := by
      gcongr
      exact_mod_cast hbits
    norm_num at hpower hbits' hnear
    linarith

/-- A whole number of units is one of any finer bit. -/
theorem mul_two_zpow_eq (hbe : b ≤ e) :
    ∃ k : Nat, (m : ℚ) * 2 ^ e = (m * 2 ^ k : Nat) * 2 ^ b := by
  obtain ⟨k, rfl⟩ : ∃ k : Nat, e = b + k := ⟨(e - b).toNat, by omega⟩
  refine ⟨k, ?_⟩
  rw [zpow_add₀ two_ne_zero, zpow_natCast]
  push_cast
  ring

end Neighbours

/-- A magnitude in units of its last bit: all 53 bits are taken, or the bit is the least
one of the format. -/
theorem exists_full (h : IsMagnitude v) (hpos : 0 < v) :
    ∃ (m : Nat) (e : Int), v = m * 2 ^ e ∧ m < 2 ^ 53 ∧ minExponent ≤ e ∧
      (e = minExponent ∨ 2 ^ 52 ≤ m) := by
  obtain ⟨m, e, hm, he, -, rfl⟩ := h
  obtain ⟨b, n, d, hunits⟩ := exists_inUnits hpos
  have hbe : b ≤ e := lastBit_le_of_near hm he (by rw [sub_self]; positivity) hunits.full
  obtain ⟨k, hk⟩ := mul_two_zpow_eq (m := m) hbe
  have hbit : (0 : ℚ) < 2 ^ b := by positivity
  have hfull := hunits.full
  have hlt := hunits.lt
  rw [hk, zpow_add₀ two_ne_zero, mul_comm] at hfull hlt
  rw [mul_lt_mul_iff_right₀ hbit] at hlt
  refine ⟨m * 2 ^ k, b, hk, by exact_mod_cast hlt, hunits.least_le, ?_⟩
  refine hfull.imp_right fun hle => ?_
  rw [mul_le_mul_iff_left₀ hbit] at hle
  exact_mod_cast hle

/-- What is close to a magnitude is rounded to it. -/
theorem rounded_eq (h : IsMagnitude v) (hpos : 0 < v) {q : ℚ} (hnear : |q - v| < v / 2 ^ 54) :
    rounded q = v := by
  obtain ⟨m, e, rfl, hm, he, hfull⟩ := h.exists_full hpos
  obtain ⟨hbelow, habove⟩ := abs_lt.mp hnear
  have hq : 0 < q := by
    have := div_lt_self hpos (show (1 : ℚ) < 2 ^ 54 by norm_num)
    linarith
  obtain ⟨b, n, d, hunits⟩ := exists_inUnits hq
  have hbe : b ≤ e := lastBit_le_of_near hm he habove hunits.full
  have hreach := le_two_zpow_of_near hm hfull hunits.least_le hbe (by linarith) hunits.lt
  -- so the magnitude is a whole number of last bits, and the rational is next to it
  obtain ⟨k, hk⟩ := mul_two_zpow_eq (m := m) hbe
  have hbit : (0 : ℚ) < 2 ^ b := by positivity
  have hround : roundHalfEven n d = m * 2 ^ k := by
    refine roundHalfEven_eq_of_abs_sub_lt hunits.den_pos ?_
    have hdiff : (n : ℚ) / d - (m * 2 ^ k : Nat) = (q - m * 2 ^ e) / 2 ^ b := by
      rw [hunits.quotient, sub_div, hk, mul_div_cancel_right₀ _ hbit.ne']
    rw [hdiff, abs_div, abs_of_pos hbit, div_lt_iff₀ hbit]
    refine hnear.trans_le ?_
    rw [zpow_add₀ two_ne_zero b 53] at hreach
    norm_num at hreach ⊢
    linarith
  rw [hunits.rounded_eq, hround, ← hk]

end IsMagnitude

/-! ## Rounding reaches the format -/

/-- A rational has 53 bits after rounding, or one more unit than that. -/
theorem InUnits.roundHalfEven_le {q : ℚ} {b : Int} {n d : Nat} (h : InUnits q b n d) :
    roundHalfEven n d ≤ 2 ^ 53 := by
  rw [← roundHalfEven_one (2 ^ 53)]
  refine roundHalfEven_mono h.den_pos one_pos ?_
  rw [h.quotient, div_le_iff₀ (by positivity)]
  refine h.lt.le.trans_eq ?_
  rw [zpow_add₀ two_ne_zero, mul_comm]
  norm_num

theorem InUnits.le_roundHalfEven {q : ℚ} {b : Int} {n d : Nat} (h : InUnits q b n d) :
    b = minExponent ∨ 2 ^ 52 ≤ roundHalfEven n d := by
  refine h.full.imp_right fun hle => ?_
  rw [← roundHalfEven_one (2 ^ 52)]
  refine roundHalfEven_mono one_pos h.den_pos ?_
  rw [h.quotient, le_div_iff₀ (by positivity)]
  refine le_of_eq_of_le ?_ hle
  rw [zpow_add₀ two_ne_zero, mul_comm]
  norm_num

/-- What a rational is rounded to is a number of the format, unless it is out of range. -/
theorem isMagnitude_rounded {q : ℚ} (hq : 0 ≤ q) (hrange : rounded q < limit) :
    IsMagnitude (rounded q) := by
  rcases hq.eq_or_lt with rfl | hpos
  · rw [rounded_zero]
    exact .zero
  obtain ⟨b, n, d, hunits⟩ := exists_inUnits hpos
  have hmost := hunits.roundHalfEven_le
  have hleast := hunits.le_roundHalfEven
  have hmin := hunits.least_le
  rw [hunits.rounded_eq, limit_eq] at hrange
  rw [hunits.rounded_eq]
  generalize roundHalfEven n d = k at *
  have htop : ∀ j : Nat, 2 ^ j ≤ k → (j : Int) + b < 1024 := by
    intro j hj
    have hj' : (2 : ℚ) ^ (j : Int) ≤ k := by
      rw [zpow_natCast]
      exact_mod_cast hj
    rw [← zpow_lt_zpow_iff_right₀ (one_lt_two (α := ℚ)), zpow_add₀ two_ne_zero]
    calc (2 : ℚ) ^ (j : Int) * 2 ^ b ≤ k * 2 ^ b := by gcongr
      _ < 2 ^ (1024 : Int) := by rwa [zpow_ofNat]
  rcases hmost.eq_or_lt with hfull | hlt
  · have := htop 53 hfull.ge
    refine ⟨2 ^ 52, b + 1, by norm_num, by omega, by omega, ?_⟩
    rw [hfull, zpow_add_one₀ two_ne_zero]
    push_cast
    ring
  · refine ⟨k, b, hlt, hmin, ?_, rfl⟩
    rcases hleast with rfl | hfull
    · decide
    · have := htop 52 hfull
      omega

/-- Every quotient is rounded to a number of the format. -/
theorem isDouble_ofQuotient (negative : Bool) (num : Nat) {den : Nat} (hden : 0 < den) :
    IsDouble (ofQuotient negative num den) := by
  have hquot : (0 : ℚ) ≤ num / den := by positivity
  unfold ofQuotient
  rw [nearest_eq_rounded num hden]
  by_cases hrange : rounded (num / den) < limit
  · rw [if_pos hrange]
    exact isMagnitude_rounded hquot hrange
  · rw [if_neg hrange]
    trivial

end Binary64

end ComponentLikeness.Number
