import Mathlib.Data.List.Basic

/-!
# Stable sorting by a key

A stable sort puts the keys in order and leaves the elements of one key as they
stand (`filter_mergeSort`). Nothing else does both: a list in the order of its keys
is determined by what it holds of each key (`eq_of_filter_eq`). Files and members are
sorted by texts (`pairwise_mergeSort_text`, `filter_mergeSort_text`).
-/

namespace ComponentLikeness

variable {α β : Type}

/-- A stable sort leaves elements as they stand that are in order already. -/
theorem filter_mergeSort {le : α → α → Bool} (htrans : ∀ a b c, le a b → le b c → le a c)
    (htotal : ∀ a b, le a b || le b a) {p : α → Bool} {l : List α}
    (hordered : (l.filter p).Pairwise fun a b => le a b) :
    (l.mergeSort le).filter p = l.filter p := by
  have hsub : (l.filter p).Sublist ((l.mergeSort le).filter p) := by
    have h := (List.sublist_mergeSort htrans htotal hordered List.filter_sublist).filter p
    rwa [List.filter_filter, funext fun a => Bool.and_self (p a)] at h
  have hperm := (List.mergeSort_perm l le).filter p
  exact (hsub.eq_of_length hperm.length_eq.symm).symm

/-! ## Texts as keys -/

section Text

variable (text : α → String)

theorem text_le_trans (a b c : α) (hab : decide (text a ≤ text b) = true)
    (hbc : decide (text b ≤ text c) = true) : decide (text a ≤ text c) = true :=
  decide_eq_true (String.le_trans (of_decide_eq_true hab) (of_decide_eq_true hbc))

theorem text_le_total (a b : α) :
    (decide (text a ≤ text b) || decide (text b ≤ text a)) = true := by
  simpa using String.le_total (text a) (text b)

theorem pairwise_mergeSort_text (l : List α) :
    (l.mergeSort fun a b => decide (text a ≤ text b)).Pairwise fun a b => text a ≤ text b :=
  (List.pairwise_mergeSort (text_le_trans text) (text_le_total text) l).imp of_decide_eq_true

/-- Elements of one text stay as they stand. -/
theorem filter_mergeSort_text (l : List α) (key : String) :
    (l.mergeSort fun a b => decide (text a ≤ text b)).filter (text · = key) =
      l.filter (text · = key) := by
  refine filter_mergeSort (text_le_trans text) (text_le_total text) ?_
  refine List.pairwise_of_forall_mem_list fun a ha b hb => decide_eq_true ?_
  have ha' : text a = key := by simpa using (List.mem_filter.mp ha).2
  have hb' : text b = key := by simpa using (List.mem_filter.mp hb).2
  have hab : text a = text b := ha'.trans hb'.symm
  exact hab ▸ String.le_refl (text a)

end Text

/-! ## What determines a sorted list -/

variable [DecidableEq β] {key : α → β} {l l' : List α}

theorem mem_iff_of_filter_eq
    (h : ∀ k, l.filter (fun a => key a = k) = l'.filter fun a => key a = k) (a : α) :
    a ∈ l ↔ a ∈ l' := by
  have ha : a ∈ l.filter (fun b => key b = key a) ↔ a ∈ l'.filter fun b => key b = key a := by
    rw [h]
  simpa using ha

variable (key) in
/-- Lists in the order of their keys are equal if they hold the same of each key. -/
theorem eq_of_filter_eq {r : α → α → Prop} (hkey : ∀ a b, r a b → r b a → key a = key b)
    (hl : l.Pairwise r) (hl' : l'.Pairwise r)
    (h : ∀ k, l.filter (fun a => key a = k) = l'.filter fun a => key a = k) : l = l' := by
  induction l generalizing l' with
  | nil =>
    refine (List.eq_nil_iff_forall_not_mem.mpr fun a ha => ?_).symm
    exact List.not_mem_nil ((mem_iff_of_filter_eq h a).mpr ha)
  | cons a rest ih =>
    cases l' with
    | nil => exact absurd ((mem_iff_of_filter_eq h a).mp List.mem_cons_self) List.not_mem_nil
    | cons b rest' =>
      obtain ⟨ha, hrest⟩ := List.pairwise_cons.mp hl
      obtain ⟨hb, hrest'⟩ := List.pairwise_cons.mp hl'
      -- each of the two heads is also in the other list
      have hkeys : key a = key b := by
        rcases List.mem_cons.mp ((mem_iff_of_filter_eq h a).mp List.mem_cons_self) with heq | hmem
        · rw [heq]
        rcases List.mem_cons.mp ((mem_iff_of_filter_eq h b).mpr List.mem_cons_self) with heq | hmem'
        · rw [heq]
        · exact hkey a b (ha b hmem') (hb a hmem)
      have hheads := h (key b)
      rw [List.filter_cons_of_pos (by simpa using hkeys), List.filter_cons_of_pos (by simp)]
        at hheads
      obtain ⟨rfl, htails⟩ := List.cons.inj hheads
      refine congrArg (a :: ·) (ih hrest hrest' fun k => ?_)
      by_cases hk : key a = k
      · exact hk ▸ htails
      · have htail := h k
        rwa [List.filter_cons_of_neg (by simpa using hk),
          List.filter_cons_of_neg (by simpa using hk)] at htail

end ComponentLikeness
