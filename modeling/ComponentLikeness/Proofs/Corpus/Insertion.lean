import ComponentLikeness.Proofs.Corpus.Ordering

/-!
# One entry among others

A corpus has its entries in three stretches: those of smaller ids than a given one, those
of that id, and those of greater ids (`Corpus.ofEntries_entries_eq_append`). Another entry
of the id changes only the stretch in the middle, so the corpus stays as it is on both
sides of the place where the entry comes to stand (`Corpus.exists_putBetween`).
-/

namespace ComponentLikeness

variable {entries : List CorpusEntry} {id : String} {e : CorpusEntry}

/-! ## Stretches of a corpus -/

/-- The entries of smaller ids, in order. -/
def entriesBelow (id : String) (entries : List CorpusEntry) : List CorpusEntry :=
  entries.filter fun e => e.id < id

/-- The entries of greater ids, in order. -/
def entriesAbove (id : String) (entries : List CorpusEntry) : List CorpusEntry :=
  entries.filter fun e => id < e.id

/-- A choice by id leaves all entries of an id or none. -/
theorem entriesOf_filter (p : String → Bool) (id : String) (entries : List CorpusEntry) :
    entriesOf id (entries.filter fun e => p e.id) = if p id then entriesOf id entries else [] := by
  rw [entriesOf, List.filter_filter]
  by_cases hp : p id = true
  · rw [if_pos hp]
    refine List.filter_congr fun e _ => ?_
    by_cases hid : e.id = id <;> simp [hid, hp]
  · rw [if_neg hp, List.filter_eq_nil_iff]
    intro e _ he
    obtain ⟨hid, hpe⟩ := Bool.and_eq_true_iff.mp he
    exact hp (of_decide_eq_true hid ▸ hpe)

/-- Every entry of an id is among the entries of smaller ids than some other one, of
that one, or of greater ones. -/
theorem entriesOf_parts (id k : String) (entries : List CorpusEntry) :
    entriesOf k entries =
      entriesOf k (entriesBelow id entries) ++ entriesOf k (entriesOf id entries) ++
        entriesOf k (entriesAbove id entries) := by
  rw [entriesBelow, entriesAbove, entriesOf_filter fun i => decide (i < id),
    entriesOf_filter fun i => decide (id < i),
    show entriesOf id entries = entries.filter fun e => decide (e.id = id) from rfl,
    entriesOf_filter fun i => decide (i = id)]
  simp only [decide_eq_true_eq]
  by_cases hlt : k < id
  · have hne : k ≠ id := String.ne_of_lt hlt
    have hnot : ¬id < k := String.lt_asymm hlt
    simp [hlt, hne, hnot]
  · by_cases heq : k = id
    · simp [heq]
    · have hgt : id < k := Text.StringSet.lt_of_not_lt_of_ne hlt heq
      simp [hlt, heq, hgt]

namespace Corpus

theorem id_lt_of_mem_below (h : e ∈ (ofEntries (entriesBelow id entries)).entries) : e.id < id := by
  rw [(ofEntries_perm _).mem_iff] at h
  exact of_decide_eq_true (List.mem_filter.mp h).2

theorem lt_id_of_mem_above (h : e ∈ (ofEntries (entriesAbove id entries)).entries) : id < e.id := by
  rw [(ofEntries_perm _).mem_iff] at h
  exact of_decide_eq_true (List.mem_filter.mp h).2

theorem id_eq_of_mem_entriesOf (h : e ∈ entriesOf id entries) : e.id = id :=
  of_decide_eq_true (List.mem_filter.mp h).2

/-- The entries of one id stand together, between those of smaller and those of
greater ids. -/
theorem ofEntries_entries_eq_append (id : String) (entries : List CorpusEntry) :
    (ofEntries entries).entries =
      (ofEntries (entriesBelow id entries)).entries ++ entriesOf id entries ++
        (ofEntries (entriesAbove id entries)).entries := by
  refine eq_of_filter_eq CorpusEntry.id (fun a b hab hba => String.le_antisymm hab hba)
    (ofEntries_pairwise_id entries) ?_ fun k => ?_
  · refine List.pairwise_append.mpr
      ⟨List.pairwise_append.mpr ⟨ofEntries_pairwise_id _, ?_, ?_⟩, ofEntries_pairwise_id _, ?_⟩
    · exact List.pairwise_of_forall_mem_list fun a ha b hb =>
        Std.le_of_eq ((id_eq_of_mem_entriesOf ha).trans (id_eq_of_mem_entriesOf hb).symm)
    · intro a ha b hb
      rw [id_eq_of_mem_entriesOf hb]
      exact Std.le_of_lt (id_lt_of_mem_below ha)
    · intro a ha b hb
      rcases List.mem_append.mp ha with ha | ha
      · exact Std.le_of_lt (String.lt_trans (id_lt_of_mem_below ha) (lt_id_of_mem_above hb))
      · rw [id_eq_of_mem_entriesOf ha]
        exact Std.le_of_lt (lt_id_of_mem_above hb)
  · have hparts := entriesOf_parts id k entries
    rw [← entriesOf_ofEntries k entries, ← entriesOf_ofEntries k (entriesBelow id entries),
      ← entriesOf_ofEntries k (entriesAbove id entries)] at hparts
    rw [List.filter_append, List.filter_append]
    exact hparts

/-! ## The place of an entry -/

/-- Where an entry comes to stand among others: behind those of smaller ids, and behind
those of its own id that were given before it. -/
def placeOf (before : List CorpusEntry) (e : CorpusEntry) (after : List CorpusEntry) : Nat :=
  (entriesBelow e.id (before ++ after)).length + (entriesOf e.id before).length

/-- An entry given between others comes to stand in their corpus between `front` and
`back`. -/
structure PutBetween (before : List CorpusEntry) (e : CorpusEntry) (after : List CorpusEntry)
    (front back : List CorpusEntry) : Prop where
  without_entry : (ofEntries (before ++ after)).entries = front ++ back
  with_entry : (ofEntries (before ++ e :: after)).entries = front ++ e :: back
  length_front : front.length = placeOf before e after
  front_le : ∀ a ∈ front, a.id ≤ e.id
  back_lt : ∀ a ∈ back, a ∉ after → e.id < a.id

theorem exists_putBetween (before : List CorpusEntry) (e : CorpusEntry)
    (after : List CorpusEntry) : ∃ front back, PutBetween before e after front back := by
  have hself : ¬decide (e.id < e.id) = true := mt of_decide_eq_true (String.lt_irrefl e.id)
  have hbelow : entriesBelow e.id (before ++ e :: after) = entriesBelow e.id (before ++ after) := by
    unfold entriesBelow
    rw [List.filter_append, List.filter_append, List.filter_cons, if_neg hself]
  have habove : entriesAbove e.id (before ++ e :: after) = entriesAbove e.id (before ++ after) := by
    unfold entriesAbove
    rw [List.filter_append, List.filter_append, List.filter_cons, if_neg hself]
  have hwith := ofEntries_entries_eq_append e.id (before ++ e :: after)
  have hwithout := ofEntries_entries_eq_append e.id (before ++ after)
  rw [hbelow, habove] at hwith
  refine ⟨(ofEntries (entriesBelow e.id (before ++ after))).entries ++ entriesOf e.id before,
    entriesOf e.id after ++ (ofEntries (entriesAbove e.id (before ++ after))).entries,
    ⟨?_, ?_, ?_, ?_, ?_⟩⟩
  · rw [hwithout]
    simp [entriesOf]
  · rw [hwith]
    simp [entriesOf]
  · rw [List.length_append, (ofEntries_perm _).length_eq, placeOf]
  · intro a ha
    rcases List.mem_append.mp ha with ha | ha
    · exact Std.le_of_lt (id_lt_of_mem_below ha)
    · exact Std.le_of_eq (id_eq_of_mem_entriesOf ha)
  · intro a ha hafter
    rcases List.mem_append.mp ha with ha | ha
    · exact absurd (List.mem_filter.mp ha).1 hafter
    · exact lt_id_of_mem_above ha

/-- An entry stands in the corpus at its place, and without it the corpus is that of the
others. -/
theorem entries_at_placeOf (before : List CorpusEntry) (e : CorpusEntry)
    (after : List CorpusEntry) :
    (ofEntries (before ++ e :: after)).entries[placeOf before e after]? = some e ∧
      (ofEntries (before ++ e :: after)).entries.eraseIdx (placeOf before e after) =
        (ofEntries (before ++ after)).entries := by
  obtain ⟨front, back, hput⟩ := exists_putBetween before e after
  rw [hput.with_entry, hput.without_entry, ← hput.length_front]
  constructor
  · rw [List.getElem?_append_right (Nat.le_refl _), Nat.sub_self, List.getElem?_cons_zero]
  · rw [List.eraseIdx_append_of_length_le (Nat.le_refl _), Nat.sub_self, List.eraseIdx_cons_zero]

end Corpus

end ComponentLikeness
