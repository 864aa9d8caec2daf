import ComponentLikeness.Proofs.Similarity.RoundedTotals

/-!
# Near ties

Rounding misjudges entries that are all but equal, and nothing else. The best match
falls behind no entry by more than `2 ^ (-50)`. In sets with fewer than 2048 members
exact totals differ by more than that if they differ at all
(`exactTotal_add_lt_of_moderate`), so there the best match has the greatest exact
total.

Among the entries that share this total it should be the first one. It is, exactly if
no other one of them is rounded to more. None with the same parts is, props and style
tokens perhaps exchanged; but three fifths and nothing come to less than two fifths
and one fifth (`not_found_exactly`).
-/

namespace ComponentLikeness

open Component Number Similarity Text

/-! ## Sets of moderate size -/

/-- Both sets of the fingerprint have fewer than 2048 members. -/
def Component.Fingerprint.Moderate (f : Fingerprint) : Prop :=
  f.props.size < 2 ^ 11 ∧ f.styleTokens.size < 2 ^ 11

namespace Similarity

/-- Different quotients differ by no less than one part of both divisors. -/
theorem add_inv_le_of_div_lt {a b c d : Nat} (hb : 0 < b) (hd : 0 < d)
    (h : (a : ℚ) / b < c / d) : (a : ℚ) / b + 1 / (b * d) ≤ c / d := by
  have hb' : (0 : ℚ) < b := by exact_mod_cast hb
  have hd' : (0 : ℚ) < d := by exact_mod_cast hd
  have hlt : a * d < c * b := by
    rw [div_lt_div_iff₀ hb' hd'] at h
    exact_mod_cast h
  have hle : (a : ℚ) * d + 1 ≤ c * b := by exact_mod_cast hlt
  calc (a : ℚ) / b + 1 / (b * d) = (a * d + 1) / (b * d) := by
        rw [add_div, mul_div_mul_right _ _ hd'.ne']
    _ ≤ c * b / (b * d) := by gcongr
    _ = c / d := by rw [mul_comm (b : ℚ), mul_div_mul_right _ _ hb'.ne']

theorem exists_jaccard_eq_div {a b : StringSet} (ha : a.size < 2 ^ 11) (hb : b.size < 2 ^ 11) :
    ∃ m n : Nat, 0 < n ∧ n ≤ 2 ^ 12 ∧ (jaccard a b : ℚ) = m / n := by
  obtain ⟨n, hn, hpos, -, hle⟩ := exists_jaccard_eq (α := ℚ) a b
  exact ⟨a.sharedCount b, n, hpos, by omega, hn⟩

section Entries

variable {candidate : Fingerprint} {a b e : CorpusEntry}

/-- The sum of the parts is a quotient with a divisor that is not too large. -/
theorem exists_exactTotal_eq_div (hc : candidate.Moderate) (he : e.fingerprint.Moderate) :
    ∃ m n : Nat, 0 < n ∧ n ≤ 2 ^ 24 ∧ 3 * exactTotal candidate e = m / n := by
  obtain ⟨m₁, n₁, hpos₁, hle₁, hprops⟩ := exists_jaccard_eq_div hc.1 he.1
  obtain ⟨m₂, n₂, hpos₂, hle₂, hstyles⟩ := exists_jaccard_eq_div hc.2 he.2
  have hn₁ : (n₁ : ℚ) ≠ 0 := by exact_mod_cast hpos₁.ne'
  have hn₂ : (n₂ : ℚ) ≠ 0 := by exact_mod_cast hpos₂.ne'
  let s := if candidate.signature = e.fingerprint.signature then 1 else 0
  refine ⟨m₁ * n₂ + m₂ * n₁ + s * (n₁ * n₂), n₁ * n₂, Nat.mul_pos hpos₁ hpos₂, ?_, ?_⟩
  · exact (Nat.mul_le_mul hle₁ hle₂).trans (by norm_num)
  · have hs : (if candidate.signature = e.fingerprint.signature then (1 : ℚ) else 0) = s := by
      split <;> simp_all [s]
    rw [exactTotal_eq, hprops, hstyles, hs]
    push_cast
    field_simp

/-- In sets of moderate size exact totals differ clearly, if they differ. -/
theorem exactTotal_add_lt_of_moderate (hc : candidate.Moderate) (ha : a.fingerprint.Moderate)
    (hb : b.fingerprint.Moderate) (h : exactTotal candidate a < exactTotal candidate b) :
    exactTotal candidate a + 2 ^ (-50 : Int) < exactTotal candidate b := by
  obtain ⟨m, n, hn, hle, hsum⟩ := exists_exactTotal_eq_div hc ha
  obtain ⟨m', n', hn', hle', hsum'⟩ := exists_exactTotal_eq_div hc hb
  have hlt : (m : ℚ) / n < m' / n' := by
    rw [← hsum, ← hsum']
    linarith
  have hgap := add_inv_le_of_div_lt hn hn' hlt
  have hdivisors : (n : ℚ) * n' ≤ 2 ^ 48 := by
    exact_mod_cast (Nat.mul_le_mul hle hle').trans (by norm_num)
  have hinv : 1 / (2 : ℚ) ^ 48 ≤ 1 / (n * n') :=
    one_div_le_one_div_of_le (by positivity) hdivisors
  have hpos : 0 < 1 / (2 : ℚ) ^ 48 := by positivity
  have hquarter : (2 : ℚ) ^ (-50 : Int) = 1 / 2 ^ 48 / 4 := by norm_num
  rw [← hsum, ← hsum'] at hgap
  rw [hquarter]
  linarith

/-- There a lead in doubles is a lead. -/
theorem exactTotal_le_of_valueOf_le (hc : candidate.Moderate) (ha : a.fingerprint.Moderate)
    (hb : b.fingerprint.Moderate) (h : valueOf candidate a ≤ valueOf candidate b) :
    exactTotal candidate a ≤ exactTotal candidate b := by
  by_contra hlt
  have hclear := exactTotal_add_lt_of_moderate hc hb ha (not_le.mp hlt)
  exact absurd h (not_le.mpr (valueOf_lt_of_exactTotal_add_lt hclear))

/-- Rounding makes nothing of something only in sets that no machine can hold. -/
theorem valueOf_eq_zero_iff (hc : candidate.Countable) (he : e.fingerprint.Countable) :
    valueOf candidate e = 0 ↔ exactTotal candidate e = 0 := by
  rw [exactTotal_eq_zero_iff, ← totalValue_pos_iff hc he, not_lt]
  exact ⟨le_of_eq, fun h => le_antisymm h (valueOf_nonneg candidate e)⟩

end Entries

/-! ## The best match -/

section BestMatch

variable {candidate : Fingerprint} {corpus : Corpus} {lead : CorpusEntry}

/-- The best match in doubles, measured by exact totals. -/
structure UpToRounding (candidate : Fingerprint) (corpus : Corpus) : Prop where
  /-- There is none exactly if all totals are zero. -/
  none_iff : bestMatch (α := Binary64) candidate corpus = none ↔
    ∀ e ∈ corpus.entries, exactTotal candidate e = 0
  /-- It falls behind no entry by more than a few units of the last bit. -/
  near : ∀ found, bestMatch (α := Binary64) candidate corpus = some found →
    ∀ e ∈ corpus.entries,
      exactTotal candidate e ≤ exactTotal candidate found.entry + 2 ^ (-50 : Int)
  /-- Entries with the same parts tie. -/
  tied : ∀ a b, SameShares candidate a b → valueOf candidate a = valueOf candidate b
  /-- In sets of moderate size it has the greatest total. -/
  greatest : candidate.Moderate → (∀ e ∈ corpus.entries, e.fingerprint.Moderate) →
    ∀ found, bestMatch (α := Binary64) candidate corpus = some found →
      ∀ e ∈ corpus.entries, exactTotal candidate e ≤ exactTotal candidate found.entry
  /-- It is then the first entry of the greatest total, unless another one of that total is
  rounded to more. -/
  first_iff : candidate.Moderate → (∀ e ∈ corpus.entries, e.fingerprint.Moderate) →
    (Found candidate (exactTotal candidate) corpus.entries
        (bestMatch (α := Binary64) candidate corpus) ↔
      ∀ lead, Leads (exactTotal candidate) corpus.entries lead → ∀ e ∈ corpus.entries,
        exactTotal candidate e = exactTotal candidate lead →
          valueOf candidate e ≤ valueOf candidate lead)

/-- The entry that leads in doubles leads exactly, if it has the greatest exact total and
the exact leader is not rounded to less. -/
theorem Leads.of_valueOf (h : Leads (valueOf candidate) corpus.entries lead)
    (hgreatest : ∀ e ∈ corpus.entries, exactTotal candidate e ≤ exactTotal candidate lead)
    {first : CorpusEntry} (hfirst : Leads (exactTotal candidate) corpus.entries first)
    (hvalue : valueOf candidate lead ≤ valueOf candidate first) :
    Leads (exactTotal candidate) corpus.entries lead := by
  have htie : exactTotal candidate first = exactTotal candidate lead :=
    le_antisymm (hgreatest first hfirst.mem) (hfirst.le lead h.mem)
  obtain ⟨front, back, hsplit, hfront, -⟩ := h
  rw [hsplit] at hgreatest
  obtain ⟨-, hback⟩ := List.forall_mem_append.mp hgreatest
  refine ⟨front, back, hsplit, ?_, (List.forall_mem_cons.mp hback).2⟩
  -- the exact leader is not in front, where all are rounded to less
  rw [hsplit] at hfirst
  rcases leads_append_iff.mp hfirst with ⟨hmem, -⟩ | ⟨hless, -⟩
  · exact absurd hvalue (not_le.mpr (hfront first hmem.mem))
  · intro a ha
    exact (hless a ha).trans_eq htie

theorem found_exactly_iff (hc : candidate.Countable)
    (hmembers : ∀ e ∈ corpus.entries, e.fingerprint.Countable) {best : Option (Match Binary64)}
    (hbest : Found candidate (valueOf candidate) corpus.entries best)
    (hgreatest : ∀ found, best = some found →
      ∀ e ∈ corpus.entries, exactTotal candidate e ≤ exactTotal candidate found.entry) :
    Found candidate (exactTotal candidate) corpus.entries best ↔
      ∀ lead, Leads (exactTotal candidate) corpus.entries lead → ∀ e ∈ corpus.entries,
        exactTotal candidate e = exactTotal candidate lead →
          valueOf candidate e ≤ valueOf candidate lead := by
  have hzero : ∀ e ∈ corpus.entries, valueOf candidate e = 0 ↔ exactTotal candidate e = 0 :=
    fun e he => valueOf_eq_zero_iff hc (hmembers e he)
  cases hbest with
  | none hall =>
    refine iff_of_true (.none fun e he => (hzero e he).mp (hall e he)) ?_
    intro lead hlead e he _
    rw [hall e he]
    exact valueOf_nonneg candidate lead
  | @some found hfound hpos =>
    have hgreatest := hgreatest _ rfl
    have hpos' : 0 < exactTotal candidate found :=
      (exactTotal_nonneg candidate found).lt_of_ne' fun h =>
        hpos.ne' ((hzero found hfound.mem).mpr h)
    constructor
    · intro hexact lead hlead e he _
      cases hexact with
      | some hfound' _ =>
        rw [hlead.unique hfound']
        exact hfound.le e he
    · intro hties
      -- some entry leads exactly, for not all totals are zero
      have hexact := (weighs_exactTotal candidate).found_bestMatch corpus
      generalize bestMatch (α := ℚ) candidate corpus = best at hexact
      cases hexact with
      | none hall => exact absurd (hall found hfound.mem) hpos'.ne'
      | @some first hfirst _ =>
        have htie : exactTotal candidate found = exactTotal candidate first :=
          le_antisymm (hfirst.le found hfound.mem) (hgreatest first hfirst.mem)
        exact .some (hfound.of_valueOf hgreatest hfirst
          (hties first hfirst found hfound.mem htie)) hpos'

/-- With every operation rounded, there is a best match exactly if some exact total is
not zero, and its exact total is the greatest one but for `2 ^ (-50)`. Entries with the
same parts tie. In sets of moderate size the best match has the greatest exact total, and
it is the first such entry exactly if rounding lifts none of them above that one. -/
theorem bestMatch_up_to_rounding (hc : candidate.Countable)
    (hmembers : ∀ e ∈ corpus.entries, e.fingerprint.Countable) : UpToRounding candidate corpus := by
  have hbest := found_bestMatch candidate corpus
  have hgreatest : candidate.Moderate → (∀ e ∈ corpus.entries, e.fingerprint.Moderate) →
      ∀ found, bestMatch (α := Binary64) candidate corpus = some found →
        ∀ e ∈ corpus.entries, exactTotal candidate e ≤ exactTotal candidate found.entry := by
    intro hc hmembers found hfound e he
    rw [hfound] at hbest
    cases hbest with
    | some hlead _ =>
      exact exactTotal_le_of_valueOf_le hc (hmembers e he) (hmembers _ hlead.mem) (hlead.le e he)
  refine ⟨?_, ?_, fun a b h => h.valueOf_eq, hgreatest, ?_⟩
  · rw [hbest.eq_none_iff]
    exact forall₂_congr fun e he => valueOf_eq_zero_iff hc (hmembers e he)
  · intro found hfound e he
    rw [hfound] at hbest
    cases hbest with
    | some hlead _ =>
      by_contra hclear
      exact absurd (hlead.le e he) (not_le.mpr (valueOf_lt_of_exactTotal_add_lt (not_le.mp hclear)))
  · intro hc' hmembers'
    exact found_exactly_iff hc hmembers hbest (hgreatest hc' hmembers')

end BestMatch

/-- A candidate with three props and two style tokens. -/
def threeProps : Fingerprint where
  props := .ofList ["a", "b", "c"]
  styleTokens := .ofList ["s", "t"]
  signature := "<i>"

/-- Two entries with the exact total of a fifth: three fifths of the props are shared with
the first one, two fifths of them and a fifth of the style tokens with the second one. -/
def tiedSplits : Corpus where
  entries :=
    [{ id := "A.tsx", path := "d/A.tsx"
       fingerprint := { props := .ofList ["a", "b", "c", "d", "e"], signature := "<b>" } },
      { id := "B.tsx", path := "d/B.tsx"
        fingerprint := {
          props := .ofList ["a", "b", "d", "e"]
          styleTokens := .ofList ["s", "u", "v", "w"]
          signature := "<b>" } }]

theorem ids_tiedSplits : tiedSplits.entries.Pairwise fun a b => a.id ≤ b.id := by decide +kernel

theorem bestMatch_tiedSplits :
    (bestMatch (α := Binary64) threeProps tiedSplits).map (·.entry.id) = some "B.tsx" := by
  decide +kernel

theorem exactTotal_tiedSplits : ∀ e ∈ tiedSplits.entries, exactTotal threeProps e = 1 / 5 := by
  decide +kernel

theorem up_to_rounding_tiedSplits :
    threeProps.Countable ∧ (∀ e ∈ tiedSplits.entries, e.fingerprint.Countable) ∧
      UpToRounding threeProps tiedSplits := by
  have hc : threeProps.Countable := by constructor <;> decide +kernel
  have hmembers : ∀ e ∈ tiedSplits.entries, e.fingerprint.Countable := by
    simp only [Fingerprint.Countable]
    decide +kernel
  exact ⟨hc, hmembers, bestMatch_up_to_rounding hc hmembers⟩

/-- Members of the same exact total do not always tie. -/
theorem not_found_exactly :
    ¬∀ (candidate : Fingerprint) (corpus : Corpus),
      (corpus.entries.Pairwise fun a b => a.id ≤ b.id) →
        Found candidate (exactTotal candidate) corpus.entries
          (bestMatch (α := Binary64) candidate corpus) := by
  intro h
  have hfound := h threeProps tiedSplits ids_tiedSplits
  have hbest := bestMatch_tiedSplits
  generalize bestMatch (α := Binary64) threeProps tiedSplits = best at hfound hbest
  cases hfound with
  | none => exact nomatch hbest
  | @some lead hlead _ =>
    have hid : lead.id = "B.tsx" := Option.some.inj hbest
    have hfirst : tiedSplits.entries[0] ∈ tiedSplits.entries := List.getElem_mem _
    have hle := hlead.id_le ids_tiedSplits hfirst
      ((exactTotal_tiedSplits _ hfirst).trans (exactTotal_tiedSplits _ hlead.mem).symm)
    rw [hid] at hle
    exact absurd hle (by decide +kernel)

end Similarity

end ComponentLikeness
