/-!
# Levels of a recursion

A recursion is given by its body, which makes its calls through an argument. Run
with a number of levels (`within`) it gives up as soon as calls are nested deeper
than that. If the body computes a function and calls it on smaller arguments only
(`Unfolds`), as many levels as the size of its argument are enough.

Bodies go through lists with `mapM`, `foldlM` and `firstOf`, which come to `map`,
`foldl` and `findSome?` where all calls are answered.
-/

namespace ComponentLikeness

section Recursion

variable {ι : Type} {β : ι → Type}

/-- Run a recursion with calls nested at most `levels` deep; `none` if that is not
enough. -/
def within (body : (∀ x, Option (β x)) → ∀ x, Option (β x)) : Nat → ∀ x, Option (β x)
  | 0 => body fun _ => none
  | levels + 1 => body (within body levels)

/-- The body computes the function from its values at smaller arguments. -/
def Unfolds (body : (∀ x, Option (β x)) → ∀ x, Option (β x)) (f : ∀ x, β x)
    (size : ι → Nat) : Prop :=
  ∀ call x, (∀ y, size y < size x → call y = some (f y)) → body call x = some (f x)

/-- The size of an argument is a bound for the levels that it takes. -/
theorem Unfolds.within_eq {body : (∀ x, Option (β x)) → ∀ x, Option (β x)} {f : ∀ x, β x}
    {size : ι → Nat} (h : Unfolds body f size) {levels : Nat} {x : ι} (hx : size x ≤ levels) :
    within body levels x = some (f x) := by
  induction levels generalizing x with
  | zero =>
    apply h
    intro y hy
    omega
  | succ levels ih =>
    apply h
    intro y hy
    exact ih (by omega)

end Recursion

section Lists

variable {α β ε : Type}

theorem mapM_eq_some_map {f : α → Option β} {g : α → β} {l : List α}
    (h : ∀ a ∈ l, f a = some (g a)) : l.mapM f = some (l.map g) := by
  induction l with
  | nil => rfl
  | cons a l ih =>
    have hrest := ih fun b hb => h b (List.mem_cons_of_mem a hb)
    simp [List.mapM_cons, h a List.mem_cons_self, hrest]

theorem foldlM_eq_some_foldl {f : β → α → Option β} {g : β → α → β} {l : List α}
    (h : ∀ b, ∀ a ∈ l, f b a = some (g b a)) (b : β) : l.foldlM f b = some (l.foldl g b) := by
  induction l generalizing b with
  | nil => rfl
  | cons a l ih =>
    have hrest := ih (fun b c hc => h b c (List.mem_cons_of_mem a hc)) (g b a)
    simp [List.foldlM_cons, h b a List.mem_cons_self, hrest]

/-- Ask for one after the other until there is an answer; those behind it are not
asked for. -/
def firstOf (ask : α → Option (Option ε)) : List α → Option (Option ε)
  | [] => some none
  | a :: l =>
    match ask a with
    | none => none
    | some (some e) => some (some e)
    | some none => firstOf ask l

theorem firstOf_eq_some_findSome? {ask : α → Option (Option ε)} {g : α → Option ε} {l : List α}
    (h : ∀ a ∈ l, ask a = some (g a)) : firstOf ask l = some (l.findSome? g) := by
  induction l with
  | nil => rfl
  | cons a l ih =>
    have hrest := ih fun b hb => h b (List.mem_cons_of_mem a hb)
    rw [firstOf, List.findSome?_cons, h a List.mem_cons_self]
    cases g a with
    | none => exact hrest
    | some e => rfl

end Lists

end ComponentLikeness
