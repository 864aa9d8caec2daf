import ComponentLikeness.Comparison
import ComponentLikeness.Proofs.Order.StableSort
import Mathlib.Data.List.Nodup

/-!
# The order of entries

A corpus has its entries in the order of their ids, and those of one id in the order
in which they were given. Both together determine it, so it does not matter in what
order entries of different ids are given (`Reordered`), and if no id is there twice it
does not matter at all. What is found out about a candidate rests on the corpus alone
(`Corpus.ofEntries_independent_of_order`).
-/

namespace ComponentLikeness

open Component Number Similarity

variable {entries entries' : List CorpusEntry}

/-- The entries of one id, in order. -/
def entriesOf (id : String) (entries : List CorpusEntry) : List CorpusEntry :=
  entries.filter fun e => e.id = id

/-- The same entries in another order, in which those of one id have kept theirs. -/
structure Reordered (entries entries' : List CorpusEntry) : Prop where
  perm : entries.Perm entries'
  entriesOf_eq : ∀ id, entriesOf id entries = entriesOf id entries'

/-- If no id is there twice, any order will do. -/
theorem Reordered.of_nodup (hperm : entries.Perm entries')
    (hids : (entries.map CorpusEntry.id).Nodup) : Reordered entries entries' := by
  have hdistinct : entries.Pairwise fun a b => a.id ≠ b.id := List.pairwise_map.mp hids
  have hdistinct' : entries'.Pairwise fun a b => a.id ≠ b.id :=
    List.pairwise_map.mp ((hperm.map CorpusEntry.id).nodup_iff.mp hids)
  refine ⟨hperm, fun id => ?_⟩
  -- there is at most one entry of the id
  refine (hperm.filter _).eq_of_pairwise ?_ (hdistinct.filter _) (hdistinct'.filter _)
  intro a b ha hb hne _
  have ha' : a.id = id := by simpa using (List.mem_filter.mp ha).2
  have hb' : b.id = id := by simpa using (List.mem_filter.mp hb).2
  exact absurd (ha'.trans hb'.symm) hne

namespace Corpus

/-- The entries of a corpus are in the order of their ids. -/
theorem ofEntries_pairwise_id (entries : List CorpusEntry) :
    (ofEntries entries).entries.Pairwise fun a b => a.id ≤ b.id :=
  pairwise_mergeSort_text CorpusEntry.id entries

theorem ofEntries_perm (entries : List CorpusEntry) : (ofEntries entries).entries.Perm entries :=
  List.mergeSort_perm entries ordered

/-- The entries of one id are in the order in which they were given. -/
theorem entriesOf_ofEntries (id : String) (entries : List CorpusEntry) :
    entriesOf id (ofEntries entries).entries = entriesOf id entries :=
  filter_mergeSort_text CorpusEntry.id entries id

theorem ofEntries_eq_of_reordered (h : Reordered entries entries') :
    ofEntries entries = ofEntries entries' := by
  refine congrArg Corpus.mk (eq_of_filter_eq CorpusEntry.id ?_
    (ofEntries_pairwise_id entries) (ofEntries_pairwise_id entries') fun id => ?_)
  · intro a b hab hba
    exact String.le_antisymm hab hba
  · exact (entriesOf_ofEntries id entries).trans
      ((h.entriesOf_eq id).trans (entriesOf_ofEntries id entries').symm)

/-- An id stands for the first entry that was given for it. -/
theorem get?_ofEntries (id : String) (entries : List CorpusEntry) :
    (ofEntries entries).get? id = entries.find? fun e => e.id = id := by
  rw [get?, ← List.head?_filter, ← List.head?_filter]
  exact congrArg List.head? (entriesOf_ofEntries id entries)

/-- The order in which entries are given does not matter, as long as those of one id
keep theirs. The corpus has them in the order of their ids, has no others and loses
none, and an id stands for the first entry that was given for it. So a candidate has
the same best match, the same classification and the same ranking. -/
theorem ofEntries_independent_of_order (entries : List CorpusEntry) :
    ((ofEntries entries).entries.Pairwise fun a b => a.id ≤ b.id) ∧
    (ofEntries entries).entries.Perm entries ∧
    (∀ id, (ofEntries entries).get? id = entries.find? fun e => e.id = id) ∧
    ∀ entries', Reordered entries entries' ∨
        (entries.Perm entries' ∧ (entries.map CorpusEntry.id).Nodup) →
      ofEntries entries' = ofEntries entries ∧
      ∀ (settings : Settings) (candidate : Fingerprint),
        bestMatch (α := Binary64) candidate (ofEntries entries') =
          bestMatch candidate (ofEntries entries) ∧
        classifyIn settings candidate (ofEntries entries') =
          classifyIn settings candidate (ofEntries entries) ∧
        rank (α := Binary64) candidate (ofEntries entries') =
          rank candidate (ofEntries entries) := by
  refine ⟨ofEntries_pairwise_id entries, ofEntries_perm entries,
    fun id => get?_ofEntries id entries, fun entries' h => ?_⟩
  have hreordered : Reordered entries entries' := by
    rcases h with h | ⟨hperm, hids⟩
    · exact h
    · exact .of_nodup hperm hids
  have heq := ofEntries_eq_of_reordered hreordered
  rw [heq]
  exact ⟨rfl, fun _ _ => ⟨rfl, rfl, rfl⟩⟩

/-- Three entries, two of one id. -/
def scattered : List CorpusEntry :=
  [⟨"B.tsx", "old/B.tsx", {}⟩, ⟨"A.tsx", "old/A.tsx", {}⟩, ⟨"B.tsx", "new/B.tsx", {}⟩]

/-- The three entries with the two of one id next to each other. -/
def gathered : List CorpusEntry :=
  [⟨"A.tsx", "old/A.tsx", {}⟩, ⟨"B.tsx", "old/B.tsx", {}⟩, ⟨"B.tsx", "new/B.tsx", {}⟩]

theorem reordered_scattered : Reordered scattered gathered where
  perm := by decide
  entriesOf_eq id := by
    by_cases hA : "A.tsx" = id
    · subst hA
      decide
    · simp [entriesOf, scattered, gathered, List.filter_cons, hA]

theorem ofEntries_scattered :
    Reordered scattered gathered ∧ ofEntries gathered = ofEntries scattered ∧
      ((ofEntries scattered).get? "B.tsx").map CorpusEntry.path = some "old/B.tsx" := by
  obtain ⟨-, -, hget, hsame⟩ := ofEntries_independent_of_order scattered
  refine ⟨reordered_scattered, (hsame gathered (.inl reordered_scattered)).1, ?_⟩
  rw [hget]
  decide

end Corpus

end ComponentLikeness
