import Mathlib.Data.List.Infix

/-!
# Where a part of a text ends

Texts put one behind the other are told apart again if each part shows where it ends:
at the first mark, if it holds none itself (`eq_of_cut_at_mark`), or at the brace that
closes it, if its own braces match (`Balanced.eq_of_cut`).
-/

namespace ComponentLikeness.Text

/-! ## Marks -/

/-- There is one way to cut a text at its first mark. -/
theorem eq_of_cut_at_mark {α : Type} {mark : α → Prop} {a b x y : List α} {c d : α}
    (ha : ∀ z ∈ a, ¬mark z) (hb : ∀ z ∈ b, ¬mark z) (hc : mark c) (hd : mark d)
    (h : a ++ c :: x = b ++ d :: y) : a = b ∧ c = d ∧ x = y := by
  induction a generalizing b with
  | nil =>
    cases b with
    | nil => exact ⟨rfl, List.cons.inj h⟩
    | cons z b =>
      obtain ⟨rfl, -⟩ := List.cons.inj h
      exact absurd hc (hb c List.mem_cons_self)
  | cons z a ih =>
    obtain ⟨hz, ha⟩ := List.forall_mem_cons.mp ha
    cases b with
    | nil =>
      obtain ⟨rfl, -⟩ := List.cons.inj h
      exact absurd hd hz
    | cons w b =>
      obtain ⟨rfl, htail⟩ := List.cons.inj h
      obtain ⟨rfl, hrest⟩ := ih ha (List.forall_mem_cons.mp hb).2 htail
      exact ⟨rfl, hrest⟩

/-- There is one way to cut a text at the first place of a character. -/
theorem eq_of_cut_at_char {α : Type} {a b x y : List α} {c : α} (ha : c ∉ a) (hb : c ∉ b)
    (h : a ++ c :: x = b ++ c :: y) : a = b ∧ x = y := by
  have hne {text : List α} (htext : c ∉ text) : ∀ z ∈ text, ¬z = c := by
    rintro z hz rfl
    exact htext hz
  obtain ⟨heq, -, hrest⟩ := eq_of_cut_at_mark (hne ha) (hne hb) rfl rfl h
  exact ⟨heq, hrest⟩

section Stretches

variable {α : Type} {p : α → Bool} {front : List α} {mark : α}

/-- A stretch is taken up to the first mark. -/
theorem takeWhile_append_mark (h : ∀ z ∈ front, p z = true) (hmark : p mark = false)
    (behind : List α) : (front ++ mark :: behind).takeWhile p = front := by
  rw [List.takeWhile_append_of_pos h, List.takeWhile_cons_of_neg (by simp [hmark]),
    List.append_nil]

/-- What is left of it begins with the mark. -/
theorem dropWhile_append_mark (h : ∀ z ∈ front, p z = true) (hmark : p mark = false)
    (behind : List α) : (front ++ mark :: behind).dropWhile p = mark :: behind := by
  rw [List.dropWhile_append_of_pos h, List.dropWhile_cons_of_neg (by simp [hmark])]

end Stretches

/-! ## Braces -/

/-- The brace that opens. -/
def openBrace : Char := '\x7b'

/-- The brace that closes. -/
def closeBrace : Char := '\x7d'

/-- The braces of a text match: no prefix closes more than it opens, and in the end all
are closed. -/
structure Balanced (text : List Char) : Prop where
  closed_le : ∀ front, front <+: text → front.count closeBrace ≤ front.count openBrace
  closed_eq : text.count closeBrace = text.count openBrace

theorem balanced_iff {text : List Char} :
    Balanced text ↔ (∀ front ∈ text.inits, front.count closeBrace ≤ front.count openBrace) ∧
      text.count closeBrace = text.count openBrace := by
  simp only [List.mem_inits]
  exact ⟨fun h => ⟨h.closed_le, h.closed_eq⟩, fun h => ⟨h.1, h.2⟩⟩

instance (text : List Char) : Decidable (Balanced text) := decidable_of_iff _ balanced_iff.symm

namespace Balanced

variable {a b x y : List Char}

/-- What comes behind a text whose braces match does not begin with a closing brace, if
the braces of both together match. -/
theorem not_closed_behind (ha : Balanced a) : ¬Balanced (a ++ closeBrace :: x) := by
  intro h
  -- up to this brace, one more is closed than opened
  have hle := h.closed_le (a ++ [closeBrace]) ⟨x, by simp⟩
  have hopen : [closeBrace].count openBrace = 0 := by decide
  rw [List.count_append, List.count_append, List.count_singleton_self, hopen, ha.closed_eq] at hle
  omega

theorem eq_nil_of_closed (ha : Balanced a) (hax : Balanced (a ++ x))
    (h : closeBrace :: y = x ++ closeBrace :: b) : x = [] := by
  cases x with
  | nil => rfl
  | cons c x =>
    obtain ⟨rfl, -⟩ := List.cons.inj h
    exact absurd hax ha.not_closed_behind

/-- There is one way to cut a text at the brace that closes what was open before it. -/
theorem eq_of_cut (ha : Balanced a) (hb : Balanced b)
    (h : a ++ closeBrace :: x = b ++ closeBrace :: y) : a = b ∧ x = y := by
  have heq : a = b := by
    -- one of the two goes on where the other ends, but not with the closing brace
    rcases List.append_eq_append_iff.mp h with ⟨between, rfl, hbetween⟩ | ⟨between, rfl, hbetween⟩
    · rw [ha.eq_nil_of_closed hb hbetween, List.append_nil]
    · rw [hb.eq_nil_of_closed ha hbetween, List.append_nil]
  subst heq
  exact ⟨rfl, (List.cons.inj (List.append_cancel_left h)).2⟩

end Balanced

end ComponentLikeness.Text
