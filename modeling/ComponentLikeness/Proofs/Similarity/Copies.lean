import ComponentLikeness.Proofs.Similarity.Coherence

/-!
# Copies of a candidate

A total of one singles out the entries that equal the candidate but for the name,
provided that there are props and style tokens to compare. So a corpus with such a
copy is led by its first one, whatever else is in it, and a score of one comes from
nothing else.
-/

namespace ComponentLikeness

open Component Number Similarity Text

theorem Text.StringSet.exists_mem_of_ne_empty {s : StringSet} (h : s ≠ ∅) : ∃ x, x ∈ s := by
  obtain ⟨x, hx⟩ := List.exists_mem_of_ne_nil s.items fun hnil =>
    h (StringSet.size_eq_zero_iff.mp (List.length_eq_zero_iff.mpr hnil))
  exact ⟨x, hx⟩

namespace Similarity

variable {weight : CorpusEntry → ℚ} {candidate : Fingerprint} {corpus : Corpus}
  {entries : List CorpusEntry} {e lead : CorpusEntry}

/-- In a corpus in the order of its ids, the leader has the least id of all that
weigh as much as it does. -/
theorem Leads.id_le (h : Leads weight entries lead)
    (hids : entries.Pairwise fun a b => a.id ≤ b.id) (he : e ∈ entries)
    (htie : weight e = weight lead) : lead.id ≤ e.id := by
  obtain ⟨front, back, rfl, hfront, -⟩ := h
  have hback := (List.pairwise_cons.mp (List.pairwise_append.mp hids).2.1).1
  rcases List.mem_append.mp he with he | he
  · exact absurd htie (hfront e he).ne
  rcases List.mem_cons.mp he with rfl | he
  · exact String.le_refl _
  · exact hback e he

/-- The first entry that equals the candidate but for the name. -/
def firstCopy? (candidate : Fingerprint) (corpus : Corpus) : Option CorpusEntry :=
  corpus.entries.find? fun e => decide (candidate.SameParts e.fingerprint)

/-- A leader with a total of one is the first copy. -/
theorem Leads.firstCopy?_eq (h : Leads (exactTotal candidate) corpus.entries lead)
    (hone : exactTotal candidate lead = 1) : firstCopy? candidate corpus = some lead := by
  obtain ⟨-, hprops, hstyles⟩ := exactTotal_eq_one_iff.mp hone
  have hcopy : ∀ a : CorpusEntry,
      decide (candidate.SameParts a.fingerprint) =
        decide (exactTotal candidate a = exactTotal candidate lead) := by
    intro a
    rw [hone, decide_eq_decide, exactTotal_eq_one_iff]
    exact ⟨fun h => ⟨h, hprops, hstyles⟩, fun h => h.1⟩
  obtain ⟨ties, hties⟩ := h.filter_eq
  rw [firstCopy?, funext hcopy, ← List.head?_filter, hties, List.head?_cons]

/-- With a copy in the corpus the leader has a total of one as well. -/
theorem exists_leader_of_copy (he : e ∈ corpus.entries) (hcopy : exactTotal candidate e = 1) :
    ∃ lead, Leads (exactTotal candidate) corpus.entries lead ∧ exactTotal candidate lead = 1 ∧
      bestMatch (α := ℚ) candidate corpus = some ⟨lead, score candidate lead.fingerprint⟩ := by
  have hfound := (weighs_exactTotal candidate).found_bestMatch corpus
  generalize bestMatch (α := ℚ) candidate corpus = best at hfound
  cases hfound with
  | none hzero =>
    rw [hzero e he] at hcopy
    exact absurd hcopy zero_ne_one
  | @some lead hlead _ =>
    have hle : 1 ≤ exactTotal candidate lead := hcopy ▸ hlead.le e he
    exact ⟨lead, hlead, le_antisymm (exactTotal_le_one candidate lead) hle, rfl⟩

/-- What has a total of one is classified as consistent, and not as novel. -/
theorem classify_of_total_one {threshold : ℚ} (hthreshold : threshold ≤ 1)
    (hone : exactTotal candidate lead = 1)
    (hbest : bestMatch (α := ℚ) candidate corpus =
      some ⟨lead, score candidate lead.fingerprint⟩) :
    classify threshold candidate corpus =
      { isNovel := false, isConsistent := true, similarity := 1, matched := some lead.id } := by
  obtain ⟨⟨-, hstyles, -⟩, -, hne⟩ := exactTotal_eq_one_iff.mp hone
  have hshared : ∃ t, t ∈ candidate.styleTokens ∧ t ∈ lead.fingerprint.styleTokens := by
    obtain ⟨t, ht⟩ := StringSet.exists_mem_of_ne_empty hne
    exact ⟨t, ht, hstyles ▸ ht⟩
  have hnovel : isNovel 1 true threshold = false := by
    rw [← Bool.not_eq_true, isNovel_iff]
    rintro ⟨-, hbelow⟩
    exact absurd hbelow (not_lt.mpr hthreshold)
  rw [classify_of_some hbest, hone, sharesVocabulary_of_shared hshared, hnovel]

end Similarity

theorem Settings.thresholdFits_of_validate {s : Settings} (h : s.validate = .ok s) :
    s.thresholdFits = true := by
  rcases validate_cases s with ⟨-, hrules⟩ | ⟨rule, herror, -⟩
  · have hrule := hrules .noveltyThreshold
    rw [← Rule.passes_eq_false_iff, Bool.not_eq_false] at hrule
    exact hrule
  · rw [h] at herror
    exact nomatch herror

/-- Under valid settings and in a corpus in the order of its ids, a candidate with
props and style tokens that has a copy in the corpus matches the first copy, with a
score of one, consistent and not novel, whatever the other members are. There is no
other way to a score of one. -/
theorem classifyExactly_of_copy {settings : Settings} (hvalid : settings.validate = .ok settings)
    (candidate : Fingerprint) {corpus : Corpus}
    (hids : corpus.entries.Pairwise fun a b => a.id ≤ b.id) :
    (candidate.props ≠ ∅ → candidate.styleTokens ≠ ∅ →
      (∃ e ∈ corpus.entries, candidate.SameParts e.fingerprint) →
      ∃ copy, firstCopy? candidate corpus = some copy ∧
        (∀ e ∈ corpus.entries, candidate.SameParts e.fingerprint → copy.id ≤ e.id) ∧
        classifyExactly settings candidate corpus =
          { isNovel := false, isConsistent := true, similarity := 1, matched := some copy.id }) ∧
    ((classifyExactly settings candidate corpus).similarity = 1 →
      (∃ e ∈ corpus.entries, candidate.SameParts e.fingerprint) ∧
        candidate.props ≠ ∅ ∧ candidate.styleTokens ≠ ∅) := by
  have hthreshold := Settings.exactThreshold_le_one (Settings.thresholdFits_of_validate hvalid)
  constructor
  · rintro hprops hstyles ⟨e, he, hsame⟩
    have hcopy : exactTotal candidate e = 1 :=
      exactTotal_eq_one_iff.mpr ⟨hsame, hprops, hstyles⟩
    obtain ⟨lead, hlead, hone, hbest⟩ := exists_leader_of_copy he hcopy
    refine ⟨lead, hlead.firstCopy?_eq hone, ?_, classify_of_total_one hthreshold hone hbest⟩
    intro a ha hsame'
    have htie : exactTotal candidate a = 1 :=
      exactTotal_eq_one_iff.mpr ⟨hsame', hprops, hstyles⟩
    exact hlead.id_le hids ha (htie.trans hone.symm)
  · intro hone
    have hcoherent : Coherent settings.exactThreshold candidate corpus
        (classifyExactly settings candidate corpus) := coherent_classify hthreshold
    rcases hcoherent.similarity_attained with ⟨-, hzero⟩ | ⟨e, he, htotal⟩
    · rw [hzero] at hone
      exact absurd hone zero_ne_one
    · obtain ⟨hsame, hsets⟩ := exactTotal_eq_one_iff.mp (htotal.trans hone)
      exact ⟨⟨e, he, hsame⟩, hsets⟩

/-- A corpus in which the second and the third member are copies of the button, the
third one under another name. -/
def twoCopies : Corpus where
  entries :=
    [{ id := "A.tsx", path := "d/A.tsx", fingerprint := button "btn-2" },
      { id := "B.tsx", path := "d/B.tsx", fingerprint := button "btn" },
      { id := "C.tsx", path := "d/C.tsx", fingerprint := { button "btn" with name := "Copy" } }]

theorem classifyExactly_twoCopies :
    (Settings.withThreshold 1).validate = .ok (.withThreshold 1) ∧
      (twoCopies.entries.Pairwise fun a b => a.id ≤ b.id) ∧
      (button "btn").props ≠ ∅ ∧ (button "btn").styleTokens ≠ ∅ ∧
      (∃ e ∈ twoCopies.entries, (button "btn").SameParts e.fingerprint) ∧
      classifyExactly (.withThreshold 1) (button "btn") twoCopies =
        { isNovel := false, isConsistent := true, similarity := 1, matched := some "B.tsx" } := by
  have hvalid : (Settings.withThreshold 1).validate = .ok (.withThreshold 1) := by
    decide +kernel
  have hids : twoCopies.entries.Pairwise fun a b => a.id ≤ b.id := by decide +kernel
  have hprops : (button "btn").props ≠ ∅ := by decide +kernel
  have hstyles : (button "btn").styleTokens ≠ ∅ := by decide +kernel
  have hcopy : ∃ e ∈ twoCopies.entries, (button "btn").SameParts e.fingerprint := by
    decide +kernel
  have hfirst : (firstCopy? (button "btn") twoCopies).map (·.id) = some "B.tsx" := by
    decide +kernel
  obtain ⟨copy, hcopy_eq, -, hclass⟩ :=
    (classifyExactly_of_copy hvalid (button "btn") hids).1 hprops hstyles hcopy
  rw [hcopy_eq] at hfirst
  have hid : copy.id = "B.tsx" := Option.some.inj hfirst
  rw [hid] at hclass
  exact ⟨hvalid, hids, hprops, hstyles, hcopy, hclass⟩

end ComponentLikeness
