import ComponentLikeness.Proofs.Corpus.Insertion
import ComponentLikeness.Proofs.Similarity.Reductions

/-!
# One member more or less

A comparison with one more member (`Overtakes`): the new member is matched if it scores
more than all before it, or as much and stands in front of the one matched so far. If
it is not, all stays as it was, and the other way round a member that is not matched may
go (`classifyIn_changes_only_as_it_must`).

Since members may be equal in all that a comparison sees, a member is told from others
by its place in the corpus (`matchPlace?`, `Corpus.placeOf`).
-/

namespace ComponentLikeness

open Component Number

namespace Number.Binary64

/-- The greater of two numbers. -/
def greater (x y : Binary64) : Binary64 := if x.lt y then y else x

theorem greater_finite (p q : ℚ) :
    (finite false p).greater (finite false q) = finite false (max q p) := by
  have hlt : (finite false p).lt (finite false q) = decide (p < q) := rfl
  rw [greater, hlt]
  by_cases h : p < q
  · rw [if_pos (decide_eq_true h), max_eq_left h.le]
  · rw [if_neg (by simpa using h), max_eq_right (not_lt.mp h)]

theorem le_finite_iff {p q : ℚ} : (finite false p).le (finite false q) = true ↔ p ≤ q := by
  have hle : (finite false p).le (finite false q) = !decide (q < p) := rfl
  rw [hle, ← decide_not, decide_eq_true_eq, not_lt]

end Number.Binary64

namespace Similarity

/-! ## Similarities -/

section Comparisons

variable {settings : Settings} {candidate : Fingerprint} {corpus corpus' : Corpus}
  {entries front back : List CorpusEntry} {e lead : CorpusEntry}

/-- The totals of some entries, and zero. -/
def totals (candidate : Fingerprint) (entries : List CorpusEntry) : Set ℚ :=
  insert 0 {v | ∃ e ∈ entries, valueOf candidate e = v}

theorem totals_mono {entries' : List CorpusEntry} (h : entries ⊆ entries') :
    totals candidate entries ⊆ totals candidate entries' := by
  refine Set.insert_subset_insert ?_
  rintro v ⟨e, he, rfl⟩
  exact ⟨e, h he, rfl⟩

theorem totals_concat (candidate : Fingerprint) (entries : List CorpusEntry)
    (e : CorpusEntry) :
    totals candidate (entries ++ [e]) =
      insert (valueOf candidate e) (totals candidate entries) := by
  refine Set.Subset.antisymm ?_ ?_
  · rintro v (hzero | ⟨a, ha, rfl⟩)
    · exact .inr (.inl hzero)
    rcases List.mem_append.mp ha with ha | ha
    · exact .inr (.inr ⟨a, ha, rfl⟩)
    · rw [List.mem_singleton.mp ha]
      exact Set.mem_insert _ _
  · rintro v (rfl | hv)
    · exact .inr ⟨e, List.mem_append_right _ (List.mem_singleton_self e), rfl⟩
    · exact totals_mono (List.subset_append_left _ _) hv

theorem totals_ofEntries (candidate : Fingerprint) (entries : List CorpusEntry) :
    totals candidate (Corpus.ofEntries entries).entries = totals candidate entries :=
  (totals_mono (Corpus.ofEntries_perm entries).subset).antisymm
    (totals_mono (Corpus.ofEntries_perm entries).symm.subset)

theorem classifyIn_of_none (settings : Settings)
    (h : bestMatch (α := Binary64) candidate corpus = none) :
    (classifyIn settings candidate corpus).similarity = .zero ∧
      (classifyIn settings candidate corpus).matched = none := by
  rw [classifyIn, classify, h]
  exact ⟨zero_eq, rfl⟩

theorem classifyIn_of_some (settings : Settings)
    (h : bestMatch (α := Binary64) candidate corpus =
      some ⟨lead, score candidate lead.fingerprint⟩) :
    (classifyIn settings candidate corpus).similarity = totalOf candidate lead ∧
      (classifyIn settings candidate corpus).matched = some lead.id := by
  rw [classifyIn, classify, h]
  exact ⟨rfl, rfl⟩

/-- A comparison rests on the best match alone. -/
theorem classifyIn_congr (settings : Settings)
    (h : bestMatch (α := Binary64) candidate corpus = bestMatch candidate corpus') :
    classifyIn settings candidate corpus = classifyIn settings candidate corpus' := by
  rw [classifyIn, classify, h]
  rfl

/-- The similarity is the greatest of the totals. -/
theorem exists_similarity_eq (settings : Settings) (candidate : Fingerprint)
    (corpus : Corpus) :
    ∃ v, (classifyIn settings candidate corpus).similarity = .finite false v ∧
      IsGreatest (totals candidate corpus.entries) v := by
  have hfound := found_bestMatch candidate corpus
  generalize hbest : bestMatch (α := Binary64) candidate corpus = best at hfound
  cases hfound with
  | none hzero =>
    refine ⟨0, (classifyIn_of_none settings hbest).1, Set.mem_insert _ _, ?_⟩
    rintro v (rfl | ⟨e, he, rfl⟩)
    · exact le_rfl
    · exact (hzero e he).le
  | @some lead hlead hpos =>
    refine ⟨valueOf candidate lead, ?_, .inr ⟨lead, hlead.mem, rfl⟩, ?_⟩
    · rw [(classifyIn_of_some settings hbest).1, totalOf_eq]
    · rintro v (rfl | ⟨e, he, rfl⟩)
      · exact hpos.le
      · exact hlead.le e he

/-! ## One more member -/

/-- Where the best match stands in a corpus. -/
def matchPlace? (candidate : Fingerprint) (corpus : Corpus) : Option Nat :=
  (bestMatch (α := Binary64) candidate corpus).map fun found =>
    corpus.entries.idxOf found.entry

/-- A new entry scores more than all before it, or it scores as much and more than zero,
and its id is smaller than that of the one matched so far. -/
def Overtakes (candidate : Fingerprint) (c : Classification Binary64) (e : CorpusEntry) :
    Prop :=
  c.similarity.lt (totalOf candidate e) = true ∨
    totalOf candidate e = c.similarity ∧ Binary64.zero.lt (totalOf candidate e) = true ∧
      ∃ id ∈ c.matched, e.id < id

instance (candidate : Fingerprint) (c : Classification Binary64) (e : CorpusEntry) :
    Decidable (Overtakes candidate c e) :=
  inferInstanceAs (Decidable (_ ∨ _ ∧ _ ∧ ∃ id ∈ c.matched, e.id < id))

/-- In the order of ids, to overtake is to lead at the place of the new entry. -/
theorem overtakes_iff (settings : Settings) (hentries : corpus.entries = front ++ back)
    (hfront : ∀ a ∈ front, a.id ≤ e.id) (hback : ∀ a ∈ back, e.id < a.id) :
    Overtakes candidate (classifyIn settings candidate corpus) e ↔
      LeadsBetween (valueOf candidate) front e back := by
  have hfound := found_bestMatch candidate corpus
  rw [hentries] at hfound
  generalize hbest : bestMatch (α := Binary64) candidate corpus = best at hfound
  cases hfound with
  | none hzero =>
    obtain ⟨hsimilarity, hmatched⟩ := classifyIn_of_none settings hbest
    obtain ⟨hzero_front, hzero_back⟩ := List.forall_mem_append.mp hzero
    simp only [Overtakes, hsimilarity, hmatched, zero_lt_totalOf, decide_eq_true_eq]
    constructor
    · rintro (hpos | ⟨-, -, id, hid, -⟩)
      · exact
          { pos := hpos
            front_lt := fun a ha => (hzero_front a ha).trans_lt hpos
            back_le := fun a ha => (hzero_back a ha).trans_le hpos.le }
      · exact nomatch hid
    · intro hleads
      exact .inl hleads.pos
  | @some lead hlead hpos =>
    obtain ⟨hsimilarity, hmatched⟩ := classifyIn_of_some settings hbest
    simp only [Overtakes, hsimilarity, hmatched, lt_totalOf, zero_lt_totalOf, totalOf_eq_iff,
      decide_eq_true_eq, Option.mem_some_iff, exists_eq_left']
    rcases leads_append_iff.mp hlead with ⟨hlead', hle⟩ | ⟨hlt, hlead'⟩
    · -- the leader is in front, where no id is greater
      constructor
      · rintro (hless | ⟨-, -, hid⟩)
        · exact
            { pos := hpos.trans hless
              front_lt := fun a ha => (hlead'.le a ha).trans_lt hless
              back_le := fun a ha => (hle a ha).trans hless.le }
        · exact absurd (hfront lead hlead'.mem) (String.not_le.mpr hid)
      · intro hleads
        exact .inl (hleads.front_lt lead hlead'.mem)
    · -- the leader is behind, where all ids are greater
      constructor
      · intro h
        have hle : valueOf candidate lead ≤ valueOf candidate e := by
          rcases h with hless | ⟨htie, -⟩
          · exact hless.le
          · exact htie.ge
        exact
          { pos := hpos.trans_le hle
            front_lt := fun a ha => (hlt a ha).trans_le hle
            back_le := fun a ha => (hlead'.le a ha).trans hle }
      · intro hleads
        rcases (hleads.back_le lead hlead'.mem).lt_or_eq with hless | htie
        · exact .inl hless
        · exact .inr ⟨htie.symm, hleads.pos, hback lead hlead'.mem⟩

/-- One more member raises the similarity to its own total, if that is greater. -/
theorem similarity_concat (settings : Settings) (candidate : Fingerprint)
    (entries : List CorpusEntry) (e : CorpusEntry) :
    (classifyIn settings candidate (.ofEntries (entries ++ [e]))).similarity =
      (classifyIn settings candidate (.ofEntries entries)).similarity.greater
        (totalOf candidate e) := by
  obtain ⟨v, hv, hgreatest⟩ := exists_similarity_eq settings candidate (.ofEntries entries)
  obtain ⟨w, hw, hgreatest'⟩ :=
    exists_similarity_eq settings candidate (.ofEntries (entries ++ [e]))
  rw [totals_ofEntries] at hgreatest hgreatest'
  rw [totals_concat] at hgreatest'
  obtain rfl : w = max (valueOf candidate e) v :=
    hgreatest'.unique (hgreatest.insert (valueOf candidate e))
  rw [hv, hw, totalOf_eq, Binary64.greater_finite]

/-- With more members the similarity is no less. -/
theorem similarity_mono {entries' : List CorpusEntry} (settings : Settings)
    (candidate : Fingerprint) (h : entries ⊆ entries') :
    (classifyIn settings candidate (.ofEntries entries)).similarity.le
      (classifyIn settings candidate (.ofEntries entries')).similarity = true := by
  obtain ⟨v, hv, hgreatest⟩ := exists_similarity_eq settings candidate (.ofEntries entries)
  obtain ⟨w, hw, hgreatest'⟩ := exists_similarity_eq settings candidate (.ofEntries entries')
  rw [totals_ofEntries] at hgreatest hgreatest'
  rw [hv, hw, Binary64.le_finite_iff]
  exact hgreatest.mono hgreatest' (totals_mono h)

/-- What a comparison finds in a corpus with another entry, put at its place. -/
theorem matchPlace?_ofEntries_iff {before after : List CorpusEntry}
    (hput : Corpus.PutBetween before e after front back) :
    matchPlace? candidate (.ofEntries (before ++ e :: after)) =
        some (Corpus.placeOf before e after) ↔
      LeadsBetween (valueOf candidate) front e back := by
  have hfound := found_bestMatch candidate (.ofEntries (before ++ e :: after))
  rw [hput.with_entry] at hfound
  rw [matchPlace?, hput.with_entry, ← hput.length_front]
  exact hfound.idxOf_eq_iff

/-- An entry that leads at its place is matched. -/
theorem bestMatch_ofEntries_of_leads {before after : List CorpusEntry}
    (hput : Corpus.PutBetween before e after front back)
    (h : LeadsBetween (valueOf candidate) front e back) :
    bestMatch (α := Binary64) candidate (.ofEntries (before ++ e :: after)) =
      some ⟨e, score candidate e.fingerprint⟩ := by
  have hfound := found_bestMatch candidate (.ofEntries (before ++ e :: after))
  rw [hput.with_entry] at hfound
  exact hfound.unique h.found

/-- An entry that does not lead at its place might as well not be there. -/
theorem bestMatch_ofEntries_of_not_leads {before after : List CorpusEntry}
    (hput : Corpus.PutBetween before e after front back)
    (h : ¬LeadsBetween (valueOf candidate) front e back) :
    bestMatch (α := Binary64) candidate (.ofEntries (before ++ e :: after)) =
      bestMatch candidate (.ofEntries (before ++ after)) := by
  have hfound := found_bestMatch candidate (.ofEntries (before ++ e :: after))
  have hfound' := found_bestMatch candidate (.ofEntries (before ++ after))
  rw [hput.with_entry] at hfound
  rw [hput.without_entry] at hfound'
  exact hfound.unique (hfound'.insert (valueOf_nonneg candidate) h)

end Comparisons

/-- What a comparison with one more member, given behind the others, has to do with the
comparison without it. -/
structure TakesIn (settings : Settings) (candidate : Fingerprint) (es : List CorpusEntry)
    (e : CorpusEntry) : Prop where
  similarity_eq : (classifyIn settings candidate (.ofEntries (es ++ [e]))).similarity =
    (classifyIn settings candidate (.ofEntries es)).similarity.greater (totalOf candidate e)
  /-- The match stands at the place of the new member. -/
  matched_iff : matchPlace? candidate (.ofEntries (es ++ [e])) =
      some (Corpus.placeOf es e []) ↔
    Overtakes candidate (classifyIn settings candidate (.ofEntries es)) e
  bestMatch_of_overtakes :
    Overtakes candidate (classifyIn settings candidate (.ofEntries es)) e →
      bestMatch (α := Binary64) candidate (.ofEntries (es ++ [e])) =
        some ⟨e, score candidate e.fingerprint⟩
  unchanged : ¬Overtakes candidate (classifyIn settings candidate (.ofEntries es)) e →
    bestMatch (α := Binary64) candidate (.ofEntries (es ++ [e])) =
        bestMatch candidate (.ofEntries es) ∧
      classifyIn settings candidate (.ofEntries (es ++ [e])) =
        classifyIn settings candidate (.ofEntries es)

theorem takesIn (settings : Settings) (candidate : Fingerprint) (es : List CorpusEntry)
    (e : CorpusEntry) : TakesIn settings candidate es e := by
  obtain ⟨front, back, hput⟩ := Corpus.exists_putBetween es e []
  have hwithout : (Corpus.ofEntries es).entries = front ++ back := by
    simpa using hput.without_entry
  have hovertakes : Overtakes candidate (classifyIn settings candidate (.ofEntries es)) e ↔
      LeadsBetween (valueOf candidate) front e back :=
    overtakes_iff settings hwithout hput.front_le fun a ha =>
      hput.back_lt a ha List.not_mem_nil
  refine ⟨similarity_concat settings candidate es e, ?_, ?_, ?_⟩
  · rw [hovertakes]
    exact matchPlace?_ofEntries_iff hput
  · intro h
    exact bestMatch_ofEntries_of_leads hput (hovertakes.mp h)
  · intro h
    have hbest := bestMatch_ofEntries_of_not_leads hput (mt hovertakes.mpr h)
    rw [List.append_nil] at hbest
    exact ⟨hbest, classifyIn_congr settings hbest⟩

/-- A member that is not matched may go: the comparison stays as it is. -/
theorem classifyIn_without {before after : List CorpusEntry} {e : CorpusEntry}
    (settings : Settings) (candidate : Fingerprint)
    (h : matchPlace? candidate (.ofEntries (before ++ e :: after)) ≠
      some (Corpus.placeOf before e after)) :
    classifyIn settings candidate (.ofEntries (before ++ after)) =
      classifyIn settings candidate (.ofEntries (before ++ e :: after)) := by
  obtain ⟨front, back, hput⟩ := Corpus.exists_putBetween before e after
  have hleads := mt (matchPlace?_ofEntries_iff hput).mpr h
  exact (classifyIn_congr settings (bestMatch_ofEntries_of_not_leads hput hleads)).symm

/-- One more member changes a comparison only as it must. The similarity becomes the
greater of what it was and the total of the new member. The new member is matched
exactly if it overtakes what was matched before, and otherwise all stays as it was.

The other way round, wherever a member stands in the corpus, the comparison is the same
without it if it is not the one matched. And with more members the similarity is no
less. -/
theorem classifyIn_changes_only_as_it_must (settings : Settings) (candidate : Fingerprint) :
    (∀ es e, TakesIn settings candidate es e) ∧
    (∀ before e after,
      (Corpus.ofEntries (before ++ e :: after)).entries[Corpus.placeOf before e after]? =
          some e ∧
        (Corpus.ofEntries (before ++ e :: after)).entries.eraseIdx
            (Corpus.placeOf before e after) =
          (Corpus.ofEntries (before ++ after)).entries ∧
        (matchPlace? candidate (.ofEntries (before ++ e :: after)) ≠
            some (Corpus.placeOf before e after) →
          classifyIn settings candidate (.ofEntries (before ++ after)) =
            classifyIn settings candidate (.ofEntries (before ++ e :: after)))) ∧
    ∀ es es' : List CorpusEntry, es ⊆ es' →
      (classifyIn settings candidate (.ofEntries es)).similarity.le
        (classifyIn settings candidate (.ofEntries es')).similarity = true := by
  refine ⟨takesIn settings candidate, fun before e after => ?_,
    fun _ _ => similarity_mono settings candidate⟩
  obtain ⟨hplace, herase⟩ := Corpus.entries_at_placeOf before e after
  exact ⟨hplace, herase, classifyIn_without settings candidate⟩

/-- The first of two members that tie for a candidate with their fingerprint. -/
def earlierTied : CorpusEntry := labelled "A.tsx" "btn"

/-- The second of the two. -/
def laterTied : CorpusEntry := labelled "B.tsx" "btn"

theorem takesIn_earlierTied :
    Overtakes earlierTied.fingerprint
        (classifyIn {} earlierTied.fingerprint (.ofEntries [laterTied])) earlierTied ∧
      (bestMatch (α := Binary64) earlierTied.fingerprint
        (.ofEntries [laterTied, earlierTied])).map (·.entry.id) = some "A.tsx" ∧
      ¬Overtakes earlierTied.fingerprint
        (classifyIn {} earlierTied.fingerprint (.ofEntries [earlierTied])) laterTied ∧
      classifyIn {} earlierTied.fingerprint (.ofEntries [earlierTied, laterTied]) =
        classifyIn {} earlierTied.fingerprint (.ofEntries [earlierTied]) ∧
      matchPlace? earlierTied.fingerprint (.ofEntries [laterTied, earlierTied]) ≠
        some (Corpus.placeOf [] laterTied [earlierTied]) ∧
      classifyIn {} earlierTied.fingerprint (.ofEntries [earlierTied]) =
        classifyIn {} earlierTied.fingerprint (.ofEntries [laterTied, earlierTied]) ∧
      [laterTied] ⊆ [laterTied, earlierTied] ∧
      (classifyIn {} earlierTied.fingerprint (.ofEntries [laterTied])).similarity.le
        (classifyIn {} earlierTied.fingerprint
          (.ofEntries [laterTied, earlierTied])).similarity = true := by
  obtain ⟨hadd, hremove, hgrow⟩ := classifyIn_changes_only_as_it_must {} earlierTied.fingerprint
  have hovertakes : Overtakes earlierTied.fingerprint
      (classifyIn {} earlierTied.fingerprint (.ofEntries [laterTied])) earlierTied := by
    decide +kernel
  have hbehind : ¬Overtakes earlierTied.fingerprint
      (classifyIn {} earlierTied.fingerprint (.ofEntries [earlierTied])) laterTied := by
    decide +kernel
  have hbest : bestMatch (α := Binary64) earlierTied.fingerprint
      (.ofEntries [laterTied, earlierTied]) = some ⟨earlierTied, _⟩ :=
    (hadd [laterTied] earlierTied).bestMatch_of_overtakes hovertakes
  have hunchanged := (hadd [earlierTied] laterTied).unchanged hbehind
  have hplace : matchPlace? earlierTied.fingerprint (.ofEntries [laterTied, earlierTied]) =
      some (Corpus.placeOf [laterTied] earlierTied []) :=
    (hadd [laterTied] earlierTied).matched_iff.mpr hovertakes
  have hother : matchPlace? earlierTied.fingerprint (.ofEntries [laterTied, earlierTied]) ≠
      some (Corpus.placeOf [] laterTied [earlierTied]) := by
    rw [hplace]
    decide +kernel
  have hsubset : [laterTied] ⊆ [laterTied, earlierTied] := List.subset_append_left _ _
  refine ⟨hovertakes, ?_, hbehind, hunchanged.2, hother,
    (hremove [] laterTied [earlierTied]).2.2 hother, hsubset, hgrow _ _ hsubset⟩
  rw [hbest]
  rfl

end Similarity

end ComponentLikeness
