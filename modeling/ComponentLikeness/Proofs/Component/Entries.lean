import ComponentLikeness.Component.Cache
import Mathlib.Data.List.Nodup

/-!
# Entries of a store

What is found under a key, which keys are held, and what putting a fingerprint under
a key does to both. The entry of a key stays in its place when it is replaced, and a
further one comes behind the others; so keys that are distinct stay distinct.
-/

namespace ComponentLikeness.Component.FingerprintCache

/-- The keys that the store holds fingerprints for. -/
def keys (c : FingerprintCache) : List UInt64 := c.entries.map Prod.fst

variable {c : FingerprintCache} {key key' : UInt64} {f : Fingerprint}
  {entry : UInt64 × Fingerprint} {entries entries' : List (UInt64 × Fingerprint)}

theorem keys_age_of_full (h : c.retention = .full) : c.age.keys = c.keys := by
  rw [keys, entries_age_of_full h, keys]

/-! ## Looking up -/

theorem mem_of_lookup_eq_some (h : entries.lookup key = some f) : (key, f) ∈ entries := by
  induction entries with
  | nil => simp at h
  | cons entry rest ih =>
    obtain ⟨k, g⟩ := entry
    rw [List.lookup_cons] at h
    split at h
    · rename_i hk
      rw [eq_of_beq hk, Option.some.inj h]
      exact List.mem_cons_self
    · exact List.mem_cons_of_mem _ (ih h)

theorem lookup_isSome_iff : (entries.lookup key).isSome ↔ key ∈ entries.map Prod.fst := by
  induction entries with
  | nil => simp
  | cons entry rest ih =>
    rw [List.lookup_cons, List.map_cons, List.mem_cons, ← ih]
    by_cases h : key = entry.1
    · simp [h]
    · simp [h, beq_false_of_ne h]

theorem get?_isSome_iff {text : String} : (c.get? text).isSome ↔ contentKey text ∈ c.keys :=
  lookup_isSome_iff

theorem get?_eq_none_iff {text : String} : c.get? text = none ↔ contentKey text ∉ c.keys := by
  rw [← get?_isSome_iff, Option.not_isSome_iff_eq_none]

/-! ## Putting in -/

theorem eq_or_mem_of_mem_put (h : entry ∈ put key f entries) :
    entry = (key, f) ∨ entry ∈ entries := by
  induction entries with
  | nil => exact .inl (List.mem_singleton.mp h)
  | cons other rest ih =>
    obtain ⟨k, g⟩ := other
    unfold put at h
    split at h
    · rename_i hk
      subst hk
      rcases List.mem_cons.mp h with h | h
      · exact .inl h
      · exact .inr (List.mem_cons_of_mem _ h)
    · rcases List.mem_cons.mp h with h | h
      · exact .inr (h ▸ List.mem_cons_self)
      · exact (ih h).imp_right (List.mem_cons_of_mem _)

/-- The key is found with what was put, and every other key as before. -/
theorem lookup_put : (put key f entries).lookup key' =
    if key' = key then some f else entries.lookup key' := by
  induction entries with
  | nil => by_cases h : key' = key <;> simp [put, List.lookup_cons, h, beq_false_of_ne]
  | cons entry rest ih =>
    obtain ⟨k, g⟩ := entry
    rw [put]
    by_cases hk : k = key
    · rw [if_pos hk, hk, List.lookup_cons, List.lookup_cons]
      by_cases h : key' = key <;> simp [h, beq_false_of_ne]
    · rw [if_neg hk, List.lookup_cons, List.lookup_cons, ih]
      -- the front entry is found for its own key only, which is not the one put
      by_cases h : key' = k
      · simp [h, hk]
      · simp [beq_false_of_ne h]

/-- A key that is not in front is looked for further behind. -/
theorem put_append (h : key ∉ entries.map Prod.fst) :
    put key f (entries ++ entries') = entries ++ put key f entries' := by
  induction entries with
  | nil => rfl
  | cons entry rest ih =>
    obtain ⟨hne, hrest⟩ := not_or.mp (List.mem_cons.not.mp h)
    rw [List.cons_append, put, if_neg (Ne.symm hne), ih hrest, List.cons_append]

/-- A key that is there stays in its place, another one comes behind the others. -/
theorem map_fst_put : (put key f entries).map Prod.fst =
    if key ∈ entries.map Prod.fst then entries.map Prod.fst
    else entries.map Prod.fst ++ [key] := by
  induction entries with
  | nil => rfl
  | cons entry rest ih =>
    obtain ⟨k, g⟩ := entry
    rw [put]
    by_cases hk : k = key
    · simp [hk]
    · simp only [if_neg hk, List.map_cons, ih, List.mem_cons, Ne.symm hk, false_or]
      split <;> rfl

theorem mem_map_fst_put : key ∈ (put key f entries).map Prod.fst := by
  rw [map_fst_put]
  split
  · assumption
  · exact List.mem_append_right _ List.mem_cons_self

theorem map_fst_subset_put : entries.map Prod.fst ⊆ (put key f entries).map Prod.fst := by
  rw [map_fst_put]
  split
  · exact List.Subset.refl _
  · exact List.subset_append_left _ _

theorem nodup_map_fst_put (h : (entries.map Prod.fst).Nodup) :
    ((put key f entries).map Prod.fst).Nodup := by
  rw [map_fst_put]
  split
  · exact h
  · rw [← List.concat_eq_append]
    exact List.Nodup.concat ‹_› h

/-- With room left, a fingerprint is remembered under the key of its text. -/
theorem entries_insert_of_lt {text : String} (h : c.entries.length < c.capacity) :
    (c.insert text f).entries = put (contentKey text) f c.entries := by
  simp [insert, h]

end ComponentLikeness.Component.FingerprintCache
