import ComponentLikeness.Proofs.Settings.Rules
import ComponentLikeness.Proofs.Similarity.ExactScores
import ComponentLikeness.Similarity.Classification

/-!
# How the parts of a classification hang together

Score, match and the two verdicts of a classification come from different rules,
but they are about one leader. Here the relations between them are collected for
exact scores (`Coherent`): what is unmatched is neither consistent nor novel, what
is novel has a match below the threshold, and what is matched but not consistent
scores at most two thirds.

The threshold decides nothing but novelty, and a higher one takes no novelty away.
-/

namespace ComponentLikeness

open Component Number Similarity Text

/-! ## Thresholds -/

/-- The rational that a finite number stands for. -/
def Number.Binary64.value : Binary64 → ℚ
  | .finite negative magnitude => signed negative magnitude
  | _ => 0

/-- The threshold of the settings as a rational. -/
def Settings.exactThreshold (s : Settings) : ℚ := s.analysis.effectiveNoveltyThreshold.value

theorem Settings.isShare_effectiveNoveltyThreshold {s : Settings} (h : s.thresholdFits = true) :
    s.analysis.effectiveNoveltyThreshold.IsShare := by
  unfold AnalysisSettings.effectiveNoveltyThreshold
  unfold thresholdFits at h
  cases hset : s.analysis.noveltyThreshold with
  | none =>
    rw [Option.getD_none]
    exact .finite (by norm_num [Binary64.signed]) (by norm_num [Binary64.signed])
  | some x =>
    rw [hset, Option.all_some] at h
    exact isShare_iff.mp h

theorem Number.Binary64.IsShare.value_le_one {x : Binary64} (h : x.IsShare) : x.value ≤ 1 := by
  cases h with
  | finite _ hhigh => exact hhigh

/-- A threshold that is accepted is at most one. -/
theorem Settings.exactThreshold_le_one {s : Settings} (h : s.thresholdFits = true) :
    s.exactThreshold ≤ 1 :=
  (isShare_effectiveNoveltyThreshold h).value_le_one

/-- Classify a candidate against a corpus by exact scores. -/
def classifyExactly (settings : Settings) (candidate : Fingerprint) (corpus : Corpus) :
    Classification ℚ :=
  classify settings.exactThreshold candidate corpus

/-! ## Shared tokens -/

theorem Text.occursIn_self (s : List Char) : occursIn s s = true := by
  cases s with
  | nil => rfl
  | cons c s => simp [occursIn]

/-- A token is related to itself. -/
theorem Similarity.sharesVocabulary_of_shared {a b : StringSet} (h : ∃ t, t ∈ a ∧ t ∈ b) :
    sharesVocabulary a b = true := by
  obtain ⟨t, ha, hb⟩ := h
  have hself : related t t = true := by simp [related, occursIn_self]
  exact List.any_eq_true.mpr ⟨t, ha, List.any_eq_true.mpr ⟨t, hb, hself⟩⟩

namespace Similarity

/-! ## Coherent classifications -/

/-- What the parts of a classification say of each other, of the corpus and of its
best match. -/
structure Coherent (threshold : ℚ) (candidate : Fingerprint) (corpus : Corpus)
    (c : Classification ℚ) : Prop where
  similarity_nonneg : 0 ≤ c.similarity
  similarity_le_one : c.similarity ≤ 1
  le_similarity : ∀ e ∈ corpus.entries, exactTotal candidate e ≤ c.similarity
  similarity_attained : (corpus.entries = [] ∧ c.similarity = 0) ∨
    ∃ e ∈ corpus.entries, exactTotal candidate e = c.similarity
  matched_eq : c.matched = (bestMatch (α := ℚ) candidate corpus).map fun found => found.entry.id
  matched_eq_none_iff : c.matched = none ↔ c.similarity = 0
  of_unmatched : c.matched = none → c.isConsistent = false ∧ c.isNovel = false
  isNovel_iff : c.isNovel = true ↔ c.isConsistent = true ∧ c.similarity < threshold
  of_novel : c.isNovel = true → c.matched ≠ none ∧ 0 < c.similarity ∧ c.similarity < threshold
  not_novel_of_one : c.similarity = 1 → c.isNovel = false
  consistent_of_shared : ∀ found, bestMatch (α := ℚ) candidate corpus = some found →
    (∃ t, t ∈ candidate.styleTokens ∧ t ∈ found.entry.fingerprint.styleTokens) →
      c.isConsistent = true
  of_inconsistent : c.matched ≠ none → c.isConsistent = false → c.similarity ≤ 2 / 3

section Classifying

variable {threshold : ℚ} {candidate : Fingerprint} {corpus : Corpus}

theorem isNovel_iff (similarity : ℚ) (consistent : Bool) (threshold : ℚ) :
    isNovel similarity consistent threshold = true ↔
      consistent = true ∧ similarity < threshold := by
  rw [isNovel, Bool.and_eq_true, and_comm]
  exact and_congr_right fun _ => decide_eq_true_iff

/-- With nothing found. -/
theorem classify_of_none (h : bestMatch (α := ℚ) candidate corpus = none) :
    classify threshold candidate corpus =
      { isNovel := false, isConsistent := false, similarity := 0, matched := none } := by
  have hzero : (Arithmetic.zero : ℚ) = 0 := by simp [Arithmetic.zero, Arithmetic.quotient]
  rw [classify, h]
  simp [classifyBy, isNovel, hzero]

/-- With a leader. -/
theorem classify_of_some {lead : CorpusEntry}
    (h : bestMatch (α := ℚ) candidate corpus =
      some ⟨lead, score candidate lead.fingerprint⟩) :
    classify threshold candidate corpus =
      { isNovel := isNovel (exactTotal candidate lead)
          (sharesVocabulary candidate.styleTokens lead.fingerprint.styleTokens) threshold
        isConsistent := sharesVocabulary candidate.styleTokens lead.fingerprint.styleTokens
        similarity := exactTotal candidate lead
        matched := some lead.id } := by
  rw [classify, h]
  rfl

theorem coherent_classify (hthreshold : threshold ≤ 1) :
    Coherent threshold candidate corpus (classify threshold candidate corpus) := by
  have hfound := (weighs_exactTotal candidate).found_bestMatch corpus
  generalize hbest : bestMatch (α := ℚ) candidate corpus = best at hfound
  cases hfound with
  | none hzero =>
    rw [classify_of_none hbest]
    refine
      { similarity_nonneg := le_rfl
        similarity_le_one := zero_le_one
        le_similarity := fun e he => (hzero e he).le
        similarity_attained := ?_
        matched_eq := by rw [hbest]; rfl
        matched_eq_none_iff := by simp
        of_unmatched := fun _ => ⟨rfl, rfl⟩
        isNovel_iff := by simp
        of_novel := by simp
        not_novel_of_one := fun _ => rfl
        consistent_of_shared := by simp [hbest]
        of_inconsistent := fun h => absurd rfl h }
    cases hentries : corpus.entries with
    | nil => exact .inl ⟨rfl, rfl⟩
    | cons e rest => exact .inr ⟨e, List.mem_cons_self, hzero e (hentries ▸ List.mem_cons_self)⟩
  | @some lead hlead hpos =>
    rw [classify_of_some hbest]
    refine
      { similarity_nonneg := hpos.le
        similarity_le_one := exactTotal_le_one candidate lead
        le_similarity := hlead.le
        similarity_attained := .inr ⟨lead, hlead.mem, rfl⟩
        matched_eq := by rw [hbest]; rfl
        matched_eq_none_iff := by simp [hpos.ne']
        of_unmatched := by simp
        isNovel_iff := isNovel_iff _ _ _
        of_novel := ?_
        not_novel_of_one := ?_
        consistent_of_shared := ?_
        of_inconsistent := ?_ }
    · intro hnovel
      exact ⟨Option.some_ne_none _, hpos, ((isNovel_iff _ _ _).mp hnovel).2⟩
    · intro hone
      rw [← Bool.not_eq_true, isNovel_iff]
      rintro ⟨-, hbelow⟩
      exact absurd hbelow (not_lt.mpr (hthreshold.trans hone.ge))
    · intro found hfound hshared
      obtain rfl := Option.some.inj (hbest.symm.trans hfound)
      exact sharesVocabulary_of_shared hshared
    · intro _ hinconsistent
      -- a shared token would have made the leader consistent
      refine exactTotal_le_two_thirds fun hshared => ?_
      exact Bool.false_ne_true (hinconsistent.symm.trans (sharesVocabulary_of_shared hshared))

/-- A higher threshold changes nothing but novelty, and takes none away. -/
theorem classify_raised {raised : ℚ} (h : threshold ≤ raised) :
    classify raised candidate corpus =
        { classify threshold candidate corpus with
          isNovel := (classify raised candidate corpus).isNovel } ∧
      ((classify threshold candidate corpus).isNovel = true →
        (classify raised candidate corpus).isNovel = true) := by
  refine ⟨rfl, ?_⟩
  intro hnovel
  obtain ⟨hconsistent, hbelow⟩ := (isNovel_iff _ _ _).mp hnovel
  exact (isNovel_iff _ _ _).mpr ⟨hconsistent, hbelow.trans_le h⟩

end Classifying

end Similarity

/-- Under every threshold that is accepted, a classification by exact scores is
coherent: its score lies between zero and one and is the greatest total of the
corpus; it is unmatched exactly if the score is zero, and then neither consistent
nor novel; it is novel exactly if it is consistent and scores below the threshold,
so never with a score of one; it is consistent if the match shares a style token;
and matched but not consistent it scores at most two thirds. A higher threshold
changes nothing but novelty, which it can only bring. -/
theorem classifyExactly_coherent {settings : Settings} (hfits : settings.thresholdFits = true)
    (candidate : Fingerprint) (corpus : Corpus) :
    Coherent settings.exactThreshold candidate corpus
        (classifyExactly settings candidate corpus) ∧
      ∀ raised : Settings, raised.thresholdFits = true →
        settings.exactThreshold ≤ raised.exactThreshold →
        classifyExactly raised candidate corpus =
            { classifyExactly settings candidate corpus with
              isNovel := (classifyExactly raised candidate corpus).isNovel } ∧
          ((classifyExactly settings candidate corpus).isNovel = true →
            (classifyExactly raised candidate corpus).isNovel = true) := by
  refine ⟨coherent_classify (Settings.exactThreshold_le_one hfits), ?_⟩
  intro raised _ hle
  exact classify_raised hle

/-- A button with one prop and one style token. -/
def button (token : String) : Fingerprint where
  name := "Button"
  props := .ofList ["label"]
  styleTokens := .ofList [token]
  signature := "<button>"

/-- A corpus with one button, whose style token is an extension of `btn`. -/
def oneButton : Corpus := ⟨[{ id := "A.tsx", path := "d/A.tsx", fingerprint := button "btn-2" }]⟩

/-- Settings with a threshold. -/
def Settings.withThreshold (threshold : ℚ) : Settings :=
  { analysis := { noveltyThreshold := some (.finite false threshold) } }

theorem classifyExactly_oneButton :
    (Settings.withThreshold (1 / 2)).thresholdFits = true ∧
      (Settings.withThreshold (3 / 4)).thresholdFits = true ∧
      Coherent (1 / 2) (button "btn") oneButton
        (classifyExactly (.withThreshold (1 / 2)) (button "btn") oneButton) ∧
      classifyExactly (.withThreshold (3 / 4)) (button "btn") oneButton =
        { classifyExactly (.withThreshold (1 / 2)) (button "btn") oneButton with
          isNovel := true } := by
  have hlow : (Settings.withThreshold (1 / 2)).thresholdFits = true := by decide +kernel
  have hhigh : (Settings.withThreshold (3 / 4)).thresholdFits = true := by decide +kernel
  have hnovel : (classifyExactly (.withThreshold (3 / 4)) (button "btn") oneButton).isNovel =
      true := by decide +kernel
  obtain ⟨hcoherent, hraised⟩ := classifyExactly_coherent hlow (button "btn") oneButton
  obtain ⟨heq, -⟩ := hraised (.withThreshold (3 / 4)) hhigh (by decide +kernel)
  rw [hnovel] at heq
  exact ⟨hlow, hhigh, hcoherent, heq⟩

end ComponentLikeness
