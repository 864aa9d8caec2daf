import ComponentLikeness.Proofs.Similarity.BestFirst
import ComponentLikeness.Proofs.Similarity.Copies

/-!
# Totals and rounding

A total in doubles is the mean of the three exact parts with each operation rounded
(`totalValue_eq`). It is at most one and lies within `2 ^ (-51)` of the exact total
(`abs_valueOf_sub_le`), so an entry whose exact total is greater by more than
`2 ^ (-50)` is greater in doubles as well. Entries with the same parts have the same
total (`SameShares.valueOf_eq`), also if props and style tokens are exchanged, for
these two are added first.
-/

namespace ComponentLikeness.Similarity

open Component Number Text
open Binary64 (rounded rounded_nonneg rounded_le_natCast abs_rounded_sub_le)

/-! ## Rounded means -/

/-- The mean of three numbers, every number and every result being rounded. -/
def roundedMean (x y z : ℚ) : ℚ :=
  rounded (rounded (rounded (rounded x + rounded y) + rounded z) / 3)

theorem roundedMean_comm (x y z : ℚ) : roundedMean x y z = roundedMean y x z := by
  rw [roundedMean, add_comm (rounded x), roundedMean]

section Shares

variable {x y z : ℚ} (hx : 0 ≤ x ∧ x ≤ 1) (hy : 0 ≤ y ∧ y ≤ 1) (hz : 0 ≤ z ∧ z ≤ 1)

include hx in
theorem rounded_le_one : rounded x ≤ 1 := by
  exact_mod_cast rounded_le_natCast hx.1 (k := 1) (by omega) (by exact_mod_cast hx.2)

include hx hy in
theorem rounded_add_le_two : rounded (rounded x + rounded y) ≤ 2 := by
  have hsum : rounded x + rounded y ≤ 2 := by linarith [rounded_le_one hx, rounded_le_one hy]
  exact_mod_cast rounded_le_natCast (add_nonneg (rounded_nonneg x) (rounded_nonneg y)) (k := 2)
    (by omega) (by exact_mod_cast hsum)

include hx hy hz in
theorem rounded_add_add_le_three : rounded (rounded (rounded x + rounded y) + rounded z) ≤ 3 := by
  have hsum : rounded (rounded x + rounded y) + rounded z ≤ 3 := by
    linarith [rounded_add_le_two hx hy, rounded_le_one hz]
  exact_mod_cast rounded_le_natCast (add_nonneg (rounded_nonneg _) (rounded_nonneg z)) (k := 3)
    (by omega) (by exact_mod_cast hsum)

include hx hy hz in
/-- The mean of three shares is a share, also when rounded. -/
theorem roundedMean_le_one : roundedMean x y z ≤ 1 := by
  have hthird := rounded_add_add_le_three hx hy hz
  have hshare : 0 ≤ rounded (rounded (rounded x + rounded y) + rounded z) / 3 ∧
      rounded (rounded (rounded x + rounded y) + rounded z) / 3 ≤ 1 :=
    ⟨div_nonneg (rounded_nonneg _) (by norm_num), by linarith⟩
  exact rounded_le_one hshare

include hx hy hz in
/-- The errors of the six roundings add up to no more than four units of the last bit
below one. -/
theorem abs_roundedMean_sub_le : |roundedMean x y z - (x + y + z) / 3| ≤ 2 ^ (-51 : Int) := by
  have hshare : ∀ q : ℚ, 0 ≤ q ∧ q ≤ 1 → |rounded q - q| ≤ 2 ^ (-53 : Int) := fun q hq =>
    abs_rounded_sub_le hq.1 (k := 0) (by decide) (by simpa using hq.2)
  have hx' := hshare x hx
  have hy' := hshare y hy
  have hz' := hshare z hz
  have hone := rounded_le_one hx
  have hone' := rounded_le_one hy
  have hone'' := rounded_le_one hz
  have htwo := rounded_add_le_two hx hy
  have hthree := rounded_add_add_le_three hx hy hz
  unfold roundedMean
  set s := rounded (rounded x + rounded y)
  set u := rounded (s + rounded z)
  have hs : |s - (rounded x + rounded y)| ≤ 2 ^ (-52 : Int) :=
    abs_rounded_sub_le (add_nonneg (rounded_nonneg x) (rounded_nonneg y)) (k := 1) (by decide)
      (by norm_num; linarith)
  have hu : |u - (s + rounded z)| ≤ 2 ^ (-51 : Int) :=
    abs_rounded_sub_le (add_nonneg (rounded_nonneg _) (rounded_nonneg z)) (k := 2) (by decide)
      (by norm_num; linarith)
  have ht : |rounded (u / 3) - u / 3| ≤ 2 ^ (-53 : Int) :=
    hshare (u / 3) ⟨div_nonneg (rounded_nonneg _) (by norm_num), by linarith⟩
  -- everything is measured in half units of the last bit of one
  have h52 : (2 : ℚ) ^ (-52 : Int) = 2 * 2 ^ (-53 : Int) := by norm_num
  have h51 : (2 : ℚ) ^ (-51 : Int) = 4 * 2 ^ (-53 : Int) := by norm_num
  rw [h52] at hs
  rw [h51] at hu ⊢
  generalize (2 : ℚ) ^ (-53 : Int) = unit at hx' hy' hz' hs hu ht ⊢
  rw [abs_le] at hx' hy' hz' hs hu ht ⊢
  constructor
  · linarith [hx'.1, hy'.1, hz'.1, hs.1, hu.1, ht.1]
  · linarith [hx'.2, hy'.2, hz'.2, hs.2, hu.2, ht.2]

end Shares

/-! ## Totals -/

theorem zero_le_jaccard_le_one (a b : StringSet) :
    0 ≤ (jaccard a b : ℚ) ∧ (jaccard a b : ℚ) ≤ 1 :=
  ⟨jaccard_nonneg a b, jaccard_le_one a b⟩

theorem zero_le_structureScore_le_one (s t : String) :
    0 ≤ (structureScore s t : ℚ) ∧ (structureScore s t : ℚ) ≤ 1 := by
  rw [exact_structureScore_eq]
  split <;> norm_num

/-- In doubles a part is the exact one rounded. -/
theorem quotient_eq_rounded {m n : Nat} (hn : 0 < n) (hmn : m ≤ n) :
    (Arithmetic.quotient m n : Binary64) = .finite false (rounded (Arithmetic.quotient m n)) := by
  have hn' : (0 : ℚ) < n := by exact_mod_cast hn
  have hle : (m : ℚ) / n ≤ 1 := (div_le_one hn').mpr (by exact_mod_cast hmn)
  exact Binary64.ofQuotient_eq_rounded m hn (hle.trans (by norm_num))

theorem jaccard_eq_rounded (a b : StringSet) :
    (jaccard a b : Binary64) = .finite false (rounded (jaccard a b)) := by
  by_cases hempty : (a.isEmpty && b.isEmpty) = true
  · rw [jaccard, jaccard, if_pos hempty, if_pos hempty]
    exact quotient_eq_rounded one_pos (Nat.zero_le 1)
  · rw [jaccard, jaccard, if_neg hempty, if_neg hempty]
    exact quotient_eq_rounded (unionCount_pos hempty) (sharedCount_le_unionCount a b)

theorem structureScore_eq_rounded (s t : String) :
    (structureScore s t : Binary64) = .finite false (rounded (structureScore s t)) := by
  rw [structureScore_eq, structureScore_eq]
  exact quotient_eq_rounded one_pos (by split <;> omega)

theorem mean_eq_roundedMean {x y z : ℚ} (hx : 0 ≤ x ∧ x ≤ 1) (hy : 0 ≤ y ∧ y ≤ 1)
    (hz : 0 ≤ z ∧ z ≤ 1) :
    mean (.finite false (rounded x)) (.finite false (rounded y)) (.finite false (rounded z)) =
      Binary64.finite false (roundedMean x y z) := by
  have hx' := rounded_le_one hx
  have hy' := rounded_le_one hy
  have hz' := rounded_le_one hz
  have htwo := rounded_add_le_two hx hy
  have hthree := rounded_add_add_le_three hx hy hz
  show Binary64.divideBy (Binary64.add (Binary64.add _ _) _) 3 = _
  rw [Binary64.add_eq_rounded (rounded_nonneg x) (rounded_nonneg y) (by linarith),
    Binary64.add_eq_rounded (rounded_nonneg _) (rounded_nonneg z) (by linarith),
    Binary64.divideBy_eq_rounded (rounded_nonneg _) (by omega) (by push_cast; linarith)]
  rfl

/-- A total in doubles is the rounded mean of the exact parts. -/
theorem totalValue_eq (f g : Fingerprint) :
    totalValue f g = roundedMean (jaccard f.props g.props) (jaccard f.styleTokens g.styleTokens)
      (structureScore f.signature g.signature) := by
  have htotal : (score f g).total = Binary64.finite false
      (roundedMean (jaccard f.props g.props) (jaccard f.styleTokens g.styleTokens)
        (structureScore f.signature g.signature)) := by
    show mean (jaccard _ _) (jaccard _ _) (structureScore _ _) = _
    rw [jaccard_eq_rounded, jaccard_eq_rounded, structureScore_eq_rounded,
      mean_eq_roundedMean (zero_le_jaccard_le_one _ _) (zero_le_jaccard_le_one _ _)
        (zero_le_structureScore_le_one _ _)]
  rw [total_eq] at htotal
  exact (Binary64.finite.inj htotal).2

theorem totalValue_le_one (f g : Fingerprint) : totalValue f g ≤ 1 := by
  rw [totalValue_eq]
  exact roundedMean_le_one (zero_le_jaccard_le_one _ _) (zero_le_jaccard_le_one _ _)
    (zero_le_structureScore_le_one _ _)

section Entries

variable {candidate : Fingerprint} {a b : CorpusEntry}

theorem abs_valueOf_sub_le (candidate : Fingerprint) (e : CorpusEntry) :
    |valueOf candidate e - exactTotal candidate e| ≤ 2 ^ (-51 : Int) := by
  rw [valueOf, totalValue_eq, exactTotal_eq, ← exact_structureScore_eq]
  exact abs_roundedMean_sub_le (zero_le_jaccard_le_one _ _) (zero_le_jaccard_le_one _ _)
    (zero_le_structureScore_le_one _ _)

/-- A clear lead outlasts rounding. -/
theorem valueOf_lt_of_exactTotal_add_lt
    (h : exactTotal candidate a + 2 ^ (-50 : Int) < exactTotal candidate b) :
    valueOf candidate a < valueOf candidate b := by
  have ha := abs_le.mp (abs_valueOf_sub_le candidate a)
  have hb := abs_le.mp (abs_valueOf_sub_le candidate b)
  have hhalf : (2 : ℚ) ^ (-50 : Int) = 2 * 2 ^ (-51 : Int) := by norm_num
  linarith

/-- The share of an entry's props in all props of the candidate and the entry. -/
def propShare (candidate : Fingerprint) (e : CorpusEntry) : ℚ :=
  jaccard candidate.props e.fingerprint.props

/-- The share of an entry's style tokens in all of the candidate and the entry. -/
def styleShare (candidate : Fingerprint) (e : CorpusEntry) : ℚ :=
  jaccard candidate.styleTokens e.fingerprint.styleTokens

/-- The two entries have the same parts, props and style tokens perhaps exchanged. -/
structure SameShares (candidate : Fingerprint) (a b : CorpusEntry) : Prop where
  signature : candidate.signature = a.fingerprint.signature ↔
    candidate.signature = b.fingerprint.signature
  shares : propShare candidate a = propShare candidate b ∧
      styleShare candidate a = styleShare candidate b ∨
    propShare candidate a = styleShare candidate b ∧ styleShare candidate a = propShare candidate b

/-- Entries with the same parts tie in doubles, too. -/
theorem SameShares.valueOf_eq (h : SameShares candidate a b) :
    valueOf candidate a = valueOf candidate b := by
  have hvalue : ∀ e, valueOf candidate e = roundedMean (propShare candidate e)
      (styleShare candidate e) (structureScore candidate.signature e.fingerprint.signature) :=
    fun e => totalValue_eq candidate e.fingerprint
  have hstructure : (structureScore candidate.signature a.fingerprint.signature : ℚ) =
      structureScore candidate.signature b.fingerprint.signature := by
    rw [exact_structureScore_eq, exact_structureScore_eq, if_congr h.signature rfl rfl]
  rw [hvalue, hvalue, hstructure]
  rcases h.shares with ⟨hprops, hstyles⟩ | ⟨hprops, hstyles⟩
  · rw [hprops, hstyles]
  · rw [hprops, hstyles, roundedMean_comm]

end Entries

end ComponentLikeness.Similarity
