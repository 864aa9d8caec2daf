import ComponentLikeness.Proofs.Number.Rounding
import Mathlib.Tactic.IntervalCases
import Mathlib.Tactic.Ring

/-!
# Rounding keeps order

What a quotient is rounded to depends on its value alone, and a greater quotient is
never rounded to less (`nearest_mono`): the last bit kept grows with the quotient
(`lastBit_mono`), and with the same last bit the nearest whole number does.

So rounding is a function of rationals that are not negative (`rounded`), and each
operation of scores is the exact one followed by it. It keeps order and whole numbers
that are small, and is off by no more than `2 ^ (k - 53)` below `2 ^ k`
(`abs_rounded_sub_le`).
-/

namespace ComponentLikeness.Number

/-! ## Whole numbers -/

/-- In the middle between two whole numbers the even one is taken. -/
theorem roundHalfEven_mod_two_of_tie {num den : Nat} (h : 0 < den)
    (htie : 2 * (roundHalfEven num den * den) = 2 * num + den ∨
      2 * num = 2 * (roundHalfEven num den * den) + den) :
    roundHalfEven num den % 2 = 0 := by
  have hdiv := Nat.div_add_mod num den
  have hmod := Nat.mod_lt num h
  have hdown : num / den * den = den * (num / den) := Nat.mul_comm _ _
  have hup : (num / den + 1) * den = den * (num / den) + den := by
    rw [Nat.add_mul, hdown, Nat.one_mul]
  simp only [roundHalfEven] at htie ⊢
  split
  · rename_i hlow
    rw [if_pos hlow] at htie
    omega
  · rename_i hlow
    rw [if_neg hlow] at htie
    split
    · rename_i hhigh
      rw [if_pos hhigh] at htie
      omega
    · split <;> omega

/-- The greater quotient has the greater nearest whole number. -/
theorem roundHalfEven_mono {m n m' n' : Nat} (hn : 0 < n) (hn' : 0 < n')
    (h : (m : ℚ) / n ≤ m' / n') : roundHalfEven m n ≤ roundHalfEven m' n' := by
  by_contra hlt
  have hstep : (roundHalfEven m' n' : ℚ) + 1 ≤ roundHalfEven m n := by
    exact_mod_cast Nat.lt_of_not_le hlt
  have hlow := (abs_le.mp (abs_roundHalfEven_sub_le m hn)).2
  have hhigh := (abs_le.mp (abs_roundHalfEven_sub_le m' hn')).1
  have hpos : (0 : ℚ) < n := by exact_mod_cast hn
  have hpos' : (0 : ℚ) < n' := by exact_mod_cast hn'
  have hquot : (m : ℚ) / n * n = m := div_mul_cancel₀ _ hpos.ne'
  have hquot' : (m' : ℚ) / n' * n' = m' := div_mul_cancel₀ _ hpos'.ne'
  -- both quotients are the same and lie in the middle, so both results are even
  have hmiddle : (roundHalfEven m n : ℚ) = m / n + 1 / 2 := by linarith
  have hmiddle' : (m' : ℚ) / n' = roundHalfEven m' n' + 1 / 2 := by linarith
  have heven : roundHalfEven m n % 2 = 0 := by
    refine roundHalfEven_mod_two_of_tie hn (.inl ?_)
    have htie : 2 * ((roundHalfEven m n : ℚ) * n) = 2 * m + n := by
      rw [hmiddle, add_mul, hquot]
      ring
    exact_mod_cast htie
  have heven' : roundHalfEven m' n' % 2 = 0 := by
    refine roundHalfEven_mod_two_of_tie hn' (.inr ?_)
    have htie : 2 * (m' : ℚ) = 2 * (roundHalfEven m' n' * n') + n' := by
      rw [← hquot', hmiddle']
      ring
    exact_mod_cast htie
  have hnext : roundHalfEven m n = roundHalfEven m' n' + 1 := by
    have : (roundHalfEven m n : ℚ) = roundHalfEven m' n' + 1 := by linarith
    exact_mod_cast this
  omega

theorem roundHalfEven_one (m : Nat) : roundHalfEven m 1 = m := by
  simp [roundHalfEven, Nat.mod_one]

namespace Binary64

/-! ## The last bit -/

/-- The logarithms of a quotient's parts bound the quotient from above. -/
theorem lt_two_zpow_log2_sub {num den : Nat} (hden : 0 < den) :
    (num : ℚ) / den < 2 ^ ((num.log2 : Int) - (den.log2 : Int) + 1) := by
  have hn : (num : ℚ) < 2 ^ (num.log2 + 1) := by exact_mod_cast Nat.lt_log2_self
  have hd : (2 : ℚ) ^ den.log2 ≤ den := by exact_mod_cast Nat.log2_self_le hden.ne'
  have hpos : (0 : ℚ) < den := by exact_mod_cast hden
  rw [div_lt_iff₀ hpos]
  calc (num : ℚ) < 2 ^ (num.log2 + 1) := hn
    _ = 2 ^ ((num.log2 : Int) - (den.log2 : Int) + 1) * 2 ^ den.log2 := by
      rw [← zpow_natCast, ← zpow_natCast, ← zpow_add₀ two_ne_zero]
      congr 1
      push_cast
      omega
    _ ≤ 2 ^ ((num.log2 : Int) - (den.log2 : Int) + 1) * den := by gcongr

/-- No more than 53 bits lie between the last bit and the quotient. -/
theorem lt_two_zpow_lastBit {num den : Nat} (hden : 0 < den) :
    (num : ℚ) / den < 2 ^ (lastBit num den + 53) := by
  have hmax : ∀ e : Int, (num : ℚ) / den < 2 ^ (e + 53) →
      (num : ℚ) / den < 2 ^ (max minExponent e + 53) := by
    intro e he
    refine he.trans_le (zpow_le_zpow_right₀ one_le_two ?_)
    have := le_max_right minExponent e
    omega
  unfold lastBit
  refine hmax _ ?_
  split
  · rename_i hfull
    set guess : Int := (num.log2 : Int) - (den.log2 : Int) - 52
    have hpos := snd_scaleDown_pos num hden guess
    have hq := scaleDown_quotient num den guess
    have hfull' : ((scaleDown num den guess).1 : ℚ) < (scaleDown num den guess).2 * 2 ^ 52 := by
      exact_mod_cast hfull
    have hquot : (num : ℚ) / den / 2 ^ guess < 2 ^ 52 := by
      rw [← hq, div_lt_iff₀ (by exact_mod_cast hpos), mul_comm]
      exact hfull'
    rw [div_lt_iff₀ (by positivity), mul_comm] at hquot
    refine hquot.trans_eq ?_
    rw [← zpow_natCast, ← zpow_add₀ two_ne_zero]
    congr 1
    push_cast
    omega
  · refine (lt_two_zpow_log2_sub hden).trans_eq ?_
    congr 1
    omega

/-- The last bit grows with the quotient. -/
theorem lastBit_mono {num den num' den' : Nat} (hnum : num ≠ 0) (hden : 0 < den)
    (hden' : 0 < den') (h : (num : ℚ) / den ≤ num' / den') :
    lastBit num den ≤ lastBit num' den' := by
  rcases lastBit_eq_or_le hnum hden with hmin | hle
  · rw [hmin]
    exact le_max_left _ _
  · have hlt := (hle.trans h).trans_lt (lt_two_zpow_lastBit hden')
    rw [zpow_lt_zpow_iff_right₀ one_lt_two] at hlt
    omega

/-! ## The nearest magnitude -/

/-- A greater quotient is not rounded to less. -/
theorem nearest_mono {num den num' den' : Nat} (hden : 0 < den) (hden' : 0 < den')
    (h : (num : ℚ) / den ≤ num' / den') : nearest num den ≤ nearest num' den' := by
  by_cases hnum : num = 0
  · rw [hnum, nearest_zero]
    exact nearest_nonneg _ _
  have hnum' : num' ≠ 0 := by
    rintro rfl
    rw [Nat.cast_zero, zero_div] at h
    have hpos : (0 : ℚ) < num / den := by positivity
    linarith
  obtain ⟨n, d, hscaled⟩ : ∃ n d, scaleDown num den (lastBit num den) = (n, d) :=
    ⟨_, _, Prod.mk.eta.symm⟩
  obtain ⟨n', d', hscaled'⟩ : ∃ n d, scaleDown num' den' (lastBit num' den') = (n, d) :=
    ⟨_, _, Prod.mk.eta.symm⟩
  have hd := snd_scaleDown_pos num hden (lastBit num den)
  have hd' := snd_scaleDown_pos num' hden' (lastBit num' den')
  have hscale := scaleDown_quotient num den (lastBit num den)
  have hscale' := scaleDown_quotient num' den' (lastBit num' den')
  rw [hscaled] at hd hscale
  rw [hscaled'] at hd' hscale'
  rw [nearest_eq_of_scaleDown hnum hscaled, nearest_eq_of_scaleDown hnum' hscaled']
  rcases (lastBit_mono hnum hden hden' h).eq_or_lt with hbit | hbit
  · -- with the same last bit, whole numbers of it are compared
    rw [hbit] at hscale ⊢
    have hle : roundHalfEven n d ≤ roundHalfEven n' d' := by
      refine roundHalfEven_mono hd hd' ?_
      rw [hscale, hscale']
      gcongr
    gcongr
  · -- otherwise a power of two lies between the two
    have hbelow : roundHalfEven n d ≤ 2 ^ 53 := by
      rw [← roundHalfEven_one (2 ^ 53)]
      refine roundHalfEven_mono hd one_pos ?_
      rw [hscale, div_le_iff₀ (by positivity)]
      refine (lt_two_zpow_lastBit hden).le.trans_eq ?_
      rw [zpow_add₀ two_ne_zero, mul_comm]
      norm_num
    have habove : 2 ^ 52 ≤ roundHalfEven n' d' := by
      have hle : (2 : ℚ) ^ (lastBit num' den' + 52) ≤ num' / den' := by
        refine (lastBit_eq_or_le hnum' hden').resolve_left fun hmin => ?_
        have hleast : minExponent ≤ lastBit num den := le_max_left _ _
        omega
      rw [← roundHalfEven_one (2 ^ 52)]
      refine roundHalfEven_mono one_pos hd' ?_
      rw [hscale', le_div_iff₀ (by positivity)]
      refine le_of_eq_of_le ?_ hle
      rw [zpow_add₀ two_ne_zero, mul_comm]
      norm_num
    calc (roundHalfEven n d : ℚ) * 2 ^ lastBit num den
        ≤ 2 ^ 53 * 2 ^ lastBit num den := by
          gcongr
          exact_mod_cast hbelow
      _ = 2 ^ 52 * 2 ^ (lastBit num den + 1) := by
          rw [zpow_add₀ two_ne_zero]
          ring
      _ ≤ 2 ^ 52 * 2 ^ lastBit num' den' := by
          gcongr
          · exact one_le_two
          · omega
      _ ≤ roundHalfEven n' d' * 2 ^ lastBit num' den' := by
          gcongr
          exact_mod_cast habove

/-! ## Rounding rationals -/

/-- The nearest magnitude to a rational that is not negative. -/
def rounded (q : ℚ) : ℚ := nearest q.num.natAbs q.den

theorem nearest_eq_rounded (num : Nat) {den : Nat} (hden : 0 < den) :
    nearest num den = rounded (num / den) := by
  have hquot : (((num : ℚ) / den).num.natAbs : ℚ) / ((num : ℚ) / den).den = num / den :=
    natAbs_num_div_den (by positivity)
  have hden' : 0 < ((num : ℚ) / den).den := Rat.den_pos _
  exact le_antisymm (nearest_mono hden hden' hquot.ge) (nearest_mono hden' hden hquot.le)

theorem rounded_nonneg (q : ℚ) : 0 ≤ rounded q := nearest_nonneg _ _

theorem rounded_mono {p q : ℚ} (hp : 0 ≤ p) (h : p ≤ q) : rounded p ≤ rounded q := by
  refine nearest_mono p.den_pos q.den_pos ?_
  rwa [natAbs_num_div_den hp, natAbs_num_div_den (hp.trans h)]

theorem rounds_rounded {q : ℚ} (hq : 0 ≤ q) : Rounds q (rounded q) := by
  have h := rounds_nearest q.num.natAbs q.den_pos
  rwa [natAbs_num_div_den hq] at h

@[simp] theorem rounded_zero : rounded 0 = 0 := (rounds_rounded le_rfl).eq_zero rfl

/-- The small whole numbers are in the format. -/
theorem rounded_natCast {k : Nat} (hk : k ≤ 3) : rounded k = k := by
  interval_cases k <;> decide +kernel

theorem rounded_le_natCast {q : ℚ} (hq : 0 ≤ q) {k : Nat} (hk : k ≤ 3) (h : q ≤ k) :
    rounded q ≤ k :=
  (rounded_mono hq h).trans_eq (rounded_natCast hk)

/-- Below a power of two the error is at most half a unit of the 53rd bit. -/
theorem abs_rounded_sub_le {q : ℚ} (hq : 0 ≤ q) {k : Int} (hk : minExponent + 52 ≤ k)
    (h : q ≤ 2 ^ k) : |rounded q - q| ≤ 2 ^ (k - 53) := by
  by_cases hzero : q = 0
  · rw [hzero, rounded_zero, sub_zero, abs_zero]
    positivity
  have hnum : q.num.natAbs ≠ 0 := by simpa using hzero
  have herror := abs_nearest_sub_le hnum q.den_pos
  have hbit : lastBit q.num.natAbs q.den ≤ k - 52 := by
    rcases lastBit_eq_or_le hnum q.den_pos with hmin | hle
    · omega
    · rw [natAbs_num_div_den hq] at hle
      have := (zpow_le_zpow_iff_right₀ (one_lt_two (α := ℚ))).mp (hle.trans h)
      omega
  rw [natAbs_num_div_den hq] at herror
  calc |rounded q - q| ≤ 2 ^ lastBit q.num.natAbs q.den / 2 := herror
    _ ≤ 2 ^ (k - 52) / 2 := by gcongr; exact one_le_two
    _ = 2 ^ (k - 53) := by
      rw [div_eq_mul_inv, ← zpow_sub_one₀ two_ne_zero]
      congr 1
      omega

/-! ## Operations -/

theorem ofQuotient_eq_rounded (num : Nat) {den : Nat} (hden : 0 < den)
    (h : (num : ℚ) / den ≤ 100) :
    ofQuotient false num den = .finite false (rounded (num / den)) := by
  rw [← nearest_eq_rounded num hden]
  unfold ofQuotient
  exact if_pos (lt_limit (by linarith [(rounds_nearest num hden).le]))

theorem add_eq_rounded {p q : ℚ} (hp : 0 ≤ p) (hq : 0 ≤ q) (h : p + q ≤ 100) :
    add (.finite false p) (.finite false q) = .finite false (rounded (p + q)) := by
  show (if p + q = 0 then .finite (false && false) 0 else ofRat (p + q)) = Binary64.finite false _
  by_cases hsum : p + q = 0
  · rw [if_pos hsum, hsum, rounded_zero]
    rfl
  · have hnonneg : 0 ≤ p + q := add_nonneg hp hq
    have hquot := natAbs_num_div_den hnonneg
    rw [if_neg hsum, ofRat, decide_eq_false (not_lt.mpr hnonneg),
      ofQuotient_eq_rounded _ (p + q).den_pos (by rwa [hquot]), hquot]

theorem divideBy_eq_rounded {p : ℚ} (hp : 0 ≤ p) {n : Nat} (hn : 0 < n) (h : p / n ≤ 100) :
    divideBy (.finite false p) n = .finite false (rounded (p / n)) := by
  have hquot : (p.num.natAbs : ℚ) / (p.den * n : Nat) = p / n := by
    rw [Nat.cast_mul, ← div_div, natAbs_num_div_den hp]
  show ofQuotient false p.num.natAbs (p.den * n) = _
  rw [ofQuotient_eq_rounded _ (Nat.mul_pos p.den_pos hn) (by rwa [hquot]), hquot]

end Binary64

end ComponentLikeness.Number
