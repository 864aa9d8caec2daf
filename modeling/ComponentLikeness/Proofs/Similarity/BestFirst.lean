import ComponentLikeness.Comparison
import ComponentLikeness.Proofs.Order.StableSort
import ComponentLikeness.Proofs.Similarity.Leaders
import ComponentLikeness.Proofs.Similarity.Totals

/-!
# Rankings and best matches

A ranking is a stable sort by falling total (`IsRanking`), the best match is
found in one pass that keeps the leader so far (`Found`). Both put the same
entry first: the first one in the corpus of the greatest total
(`IsRanking.head?_eq`). Nothing is asked of the corpus, so ids may repeat and
totals may tie.
-/

namespace ComponentLikeness.Similarity

open Component Number

/-! ## The order of totals -/

/-- The total of an entry's score. -/
def totalOf (candidate : Fingerprint) (e : CorpusEntry) : Binary64 :=
  (score candidate e.fingerprint).total

/-- The total of an entry's score as a rational. -/
def valueOf (candidate : Fingerprint) (e : CorpusEntry) : ℚ :=
  totalValue candidate e.fingerprint

variable {candidate : Fingerprint} {a b e : CorpusEntry}

theorem totalOf_eq (candidate : Fingerprint) (e : CorpusEntry) :
    totalOf candidate e = .finite false (valueOf candidate e) :=
  total_eq candidate e.fingerprint

theorem valueOf_nonneg (candidate : Fingerprint) (e : CorpusEntry) : 0 ≤ valueOf candidate e :=
  totalValue_nonneg candidate e.fingerprint

theorem zero_eq : (Arithmetic.zero : Binary64) = .zero := by
  show Binary64.ofQuotient false 0 1 = .zero
  rw [Binary64.ofQuotient, Binary64.nearest, if_pos rfl, if_pos (by norm_num [Binary64.limit])]
  rfl

theorem totalOf_eq_iff : totalOf candidate a = totalOf candidate b ↔
    valueOf candidate a = valueOf candidate b := by
  rw [totalOf_eq, totalOf_eq]
  simp

theorem totalOf_eq_zero_iff : totalOf candidate e = .zero ↔ valueOf candidate e = 0 := by
  rw [totalOf_eq, Binary64.zero]
  simp

theorem lt_totalOf : (totalOf candidate a).lt (totalOf candidate b) =
    decide (valueOf candidate a < valueOf candidate b) := by
  rw [totalOf_eq, totalOf_eq]
  rfl

theorem le_totalOf : (totalOf candidate a).le (totalOf candidate b) =
    decide (valueOf candidate a ≤ valueOf candidate b) := by
  rw [totalOf_eq, totalOf_eq, ← decide_eq_decide.mpr not_lt, decide_not]
  rfl

theorem zero_lt_totalOf : Binary64.zero.lt (totalOf candidate e) =
    decide (0 < valueOf candidate e) := by
  rw [totalOf_eq]
  rfl

/-- Totals have no sign and are no NaN, so in a row they stand as they compare. -/
theorem notWorse_ranked (candidate : Fingerprint) (a b : CorpusEntry) :
    notWorse (α := Binary64) (ranked candidate a) (ranked candidate b) =
      decide (valueOf candidate b ≤ valueOf candidate a) := by
  show (!Binary64.totalLt (totalOf candidate a) (totalOf candidate b)) = _
  rw [totalOf_eq, totalOf_eq, ← decide_eq_decide.mpr not_lt, decide_not]
  rfl

/-! ## Rankings -/

/-- A ranking has every entry once, by falling total, and keeps the order of
entries with one total. -/
structure IsRanking (candidate : Fingerprint) (entries order : List CorpusEntry) : Prop where
  perm : order.Perm entries
  falling : order.Pairwise fun a b => (totalOf candidate b).le (totalOf candidate a)
  stable : ∀ t, order.filter (totalOf candidate · = t) = entries.filter (totalOf candidate · = t)

/-- The entries by falling total. -/
def byTotal (candidate : Fingerprint) (entries : List CorpusEntry) : List CorpusEntry :=
  entries.mergeSort fun a b => decide (valueOf candidate b ≤ valueOf candidate a)

theorem rank_eq (candidate : Fingerprint) (corpus : Corpus) :
    (rank candidate corpus : List (Ranked Binary64)) =
      (byTotal candidate corpus.entries).map (ranked candidate) :=
  (List.map_mergeSort fun a _ b _ => (notWorse_ranked candidate a b).symm).symm

theorem byTotal_trans (candidate : Fingerprint) (a b c : CorpusEntry) :
    decide (valueOf candidate b ≤ valueOf candidate a) →
      decide (valueOf candidate c ≤ valueOf candidate b) →
      decide (valueOf candidate c ≤ valueOf candidate a) := by
  intro hab hbc
  exact decide_eq_true ((of_decide_eq_true hbc).trans (of_decide_eq_true hab))

theorem byTotal_total (candidate : Fingerprint) (a b : CorpusEntry) :
    decide (valueOf candidate b ≤ valueOf candidate a) ||
      decide (valueOf candidate a ≤ valueOf candidate b) := by
  rw [Bool.or_eq_true, decide_eq_true_eq, decide_eq_true_eq]
  exact le_total _ _

/-- Entries of one total are in order already, so sorting keeps them as they are. -/
theorem filter_byTotal (candidate : Fingerprint) (entries : List CorpusEntry) (t : Binary64) :
    (byTotal candidate entries).filter (totalOf candidate · = t) =
      entries.filter (totalOf candidate · = t) := by
  have htied : (entries.filter (totalOf candidate · = t)).Pairwise fun a b =>
      decide (valueOf candidate b ≤ valueOf candidate a) = true := by
    refine List.pairwise_of_forall_mem_list fun a ha b hb => decide_eq_true ?_
    have ha' := of_decide_eq_true (List.mem_filter.mp ha).2
    have hb' := of_decide_eq_true (List.mem_filter.mp hb).2
    exact (totalOf_eq_iff.mp (hb'.trans ha'.symm)).le
  exact filter_mergeSort (byTotal_trans candidate) (byTotal_total candidate) htied

theorem isRanking_byTotal (candidate : Fingerprint) (entries : List CorpusEntry) :
    IsRanking candidate entries (byTotal candidate entries) where
  perm := List.mergeSort_perm _ _
  falling := by
    have h := List.pairwise_mergeSort (byTotal_trans candidate) (byTotal_total candidate) entries
    exact h.imp fun hab => le_totalOf.trans hab
  stable := filter_byTotal candidate entries

/-! ## Leaders -/

/-- The leader is the first of the entries that have the same total as it. -/
theorem Leads.filter_totalOf_eq {entries : List CorpusEntry}
    (h : Leads (valueOf candidate) entries e) :
    ∃ ties, entries.filter (totalOf candidate · = totalOf candidate e) = e :: ties := by
  have hties : (fun a => decide (totalOf candidate a = totalOf candidate e)) =
      fun a => decide (valueOf candidate a = valueOf candidate e) :=
    funext fun a => decide_eq_decide.mpr totalOf_eq_iff
  rw [hties]
  exact h.filter_eq

/-- The leader stands at the head of every ranking. -/
theorem IsRanking.head?_eq {entries order : List CorpusEntry}
    (h : IsRanking candidate entries order) (he : Leads (valueOf candidate) entries e) :
    order.head? = some e := by
  have hmem : e ∈ order := h.perm.mem_iff.mpr he.mem
  cases order with
  | nil => exact absurd hmem List.not_mem_nil
  | cons first rest =>
    -- each of the two is no worse than the other
    have hle : valueOf candidate first ≤ valueOf candidate e :=
      he.le first (h.perm.mem_iff.mp List.mem_cons_self)
    have hge : valueOf candidate e ≤ valueOf candidate first := by
      rcases List.mem_cons.mp hmem with rfl | hrest
      · exact le_rfl
      · have hfall := (List.pairwise_cons.mp h.falling).1 e hrest
        rw [le_totalOf] at hfall
        exact of_decide_eq_true hfall
    have htie : totalOf candidate first = totalOf candidate e :=
      totalOf_eq_iff.mpr (le_antisymm hle hge)
    -- of the entries tied with it, the leader is the first in the corpus
    obtain ⟨ties, hties⟩ := he.filter_totalOf_eq
    have hstable := h.stable (totalOf candidate e)
    rw [hties, List.filter_cons_of_pos (p := (totalOf candidate · = totalOf candidate e))
      (decide_eq_true htie)] at hstable
    rw [List.head?_cons, (List.cons.inj hstable).1]

/-! ## The pass over the corpus -/

/-- Totals in doubles compare as their rationals do. -/
theorem weighs_valueOf (candidate : Fingerprint) :
    Weighs Binary64 candidate (valueOf candidate) where
  nonneg := valueOf_nonneg candidate
  zero_less e := by
    show Binary64.lt Arithmetic.zero (totalOf candidate e) = _
    rw [zero_eq]
    exact zero_lt_totalOf
  less _ _ := lt_totalOf

/-- The best match in doubles is the leader by the values of the totals. -/
theorem found_bestMatch (candidate : Fingerprint) (corpus : Corpus) :
    Found candidate (valueOf candidate) corpus.entries
      (bestMatch (α := Binary64) candidate corpus) :=
  (weighs_valueOf candidate).found_bestMatch corpus

/-- Nothing has been found exactly if there is nothing but totals of zero. -/
theorem Found.eq_none_iff_totalOf {entries : List CorpusEntry} {best : Option (Match Binary64)}
    (h : Found candidate (valueOf candidate) entries best) :
    best = Option.none ↔ ∀ e ∈ entries, totalOf candidate e = .zero := by
  simp only [totalOf_eq_zero_iff]
  exact h.eq_none_iff

/-! ## Agreement -/

/-- The entry at the head of a ranking, if its total is positive. -/
def positiveHead (candidate : Fingerprint) (order : List CorpusEntry) : Option CorpusEntry :=
  order.head?.filter fun e => Binary64.zero.lt (totalOf candidate e)

theorem Found.eq_positiveHead {entries order : List CorpusEntry}
    {best : Option (Match Binary64)} (h : Found candidate (valueOf candidate) entries best)
    (horder : IsRanking candidate entries order) :
    best = (positiveHead candidate order).map fun e => ⟨e, score candidate e.fingerprint⟩ := by
  cases h with
  | none hzero =>
    have hnone : positiveHead candidate order = Option.none := by
      refine Option.filter_eq_none_iff.mpr fun e he => ?_
      have hmem : e ∈ entries := horder.perm.mem_iff.mp (List.mem_of_mem_head? he)
      rw [zero_lt_totalOf, hzero e hmem]
      decide
    rw [hnone]
    rfl
  | some hlead hpos =>
    rw [positiveHead, horder.head?_eq hlead, Option.filter_some, zero_lt_totalOf,
      if_pos (decide_eq_true hpos)]
    rfl

/-- The ranking and the best match agree for every candidate and corpus: the
best match is the head of the ranking if its total is positive, and so it is
in a classification. A total is positive exactly if there is an overlap. -/
theorem bestMatch_eq_head_of_rank (settings : Settings) (candidate : Fingerprint)
    (corpus : Corpus) :
    ∃ order : List CorpusEntry,
      IsRanking candidate corpus.entries order ∧
      rank candidate corpus = order.map (ranked (α := Binary64) candidate) ∧
      bestMatch candidate corpus =
        (positiveHead candidate order).map
          (fun e => (⟨e, score candidate e.fingerprint⟩ : Match Binary64)) ∧
      (bestMatch (α := Binary64) candidate corpus = none ↔
        ∀ e ∈ corpus.entries, totalOf candidate e = .zero) ∧
      (classifyIn settings candidate corpus).matched =
        (positiveHead candidate order).map (·.id) ∧
      (classifyIn settings candidate corpus).similarity =
        ((positiveHead candidate order).map (totalOf candidate)).getD .zero ∧
      (classifyIn settings candidate corpus).isConsistent =
        (positiveHead candidate order).any (fun e =>
          sharesVocabulary candidate.styleTokens e.fingerprint.styleTokens) ∧
      ∀ e : CorpusEntry, candidate.Countable → e.fingerprint.Countable →
        (Binary64.zero.lt (totalOf candidate e) ↔ candidate.Overlaps e.fingerprint) := by
  have hranking := isRanking_byTotal candidate corpus.entries
  have hfound := found_bestMatch candidate corpus
  have hbest := hfound.eq_positiveHead hranking
  have hclass : classifyIn settings candidate corpus =
      classifyBy settings.analysis.effectiveNoveltyThreshold candidate
        (bestMatch candidate corpus) := rfl
  rw [hbest] at hclass
  refine ⟨byTotal candidate corpus.entries, hranking, rank_eq candidate corpus, hbest,
    hfound.eq_none_iff_totalOf, ?_, ?_, ?_, fun e hc he => ?_⟩
  · rw [hclass]
    cases positiveHead candidate _ <;> rfl
  · rw [hclass]
    cases positiveHead candidate _ with
    | none => exact zero_eq
    | some e => rfl
  · rw [hclass]
    cases positiveHead candidate _ <;> rfl
  · rw [zero_lt_totalOf, decide_eq_true_eq]
    exact totalValue_pos_iff hc he

end ComponentLikeness.Similarity
