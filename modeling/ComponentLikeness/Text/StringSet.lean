/-!
# Sets of strings

A set of strings is its list of members in ascending order, each once. The
order compares code points, which is also the order of the UTF-8 bytes.
-/

namespace ComponentLikeness.Text

/-- A finite set of strings. -/
structure StringSet where
  items : List String
  sorted : items.Pairwise (· < ·)
deriving DecidableEq

namespace StringSet

/-- No member. -/
def empty : StringSet := ⟨[], List.Pairwise.nil⟩

instance : EmptyCollection StringSet := ⟨empty⟩
instance : Inhabited StringSet := ⟨empty⟩

/-- Put a string at its place in an ascending list, unless it is there. -/
def insertSorted (x : String) : List String → List String
  | [] => [x]
  | y :: rest =>
    if x < y then x :: y :: rest
    else if x = y then y :: rest
    else y :: insertSorted x rest

theorem mem_insertSorted {x z : String} {l : List String} :
    z ∈ insertSorted x l ↔ z = x ∨ z ∈ l := by
  induction l with
  | nil => simp [insertSorted]
  | cons y rest ih =>
    simp only [insertSorted]
    split
    · simp
    · split
      · rename_i h
        subst h
        simp
      · simp only [List.mem_cons, ih]
        constructor
        · rintro (h | h | h) <;> simp [h]
        · rintro (h | h | h) <;> simp [h]

theorem lt_of_not_lt_of_ne {x y : String} (h : ¬x < y) (hne : x ≠ y) : y < x :=
  Decidable.byContradiction fun h' =>
    hne (String.le_antisymm (String.not_lt.mp h') (String.not_lt.mp h))

theorem pairwise_insertSorted {x : String} {l : List String} (h : l.Pairwise (· < ·)) :
    (insertSorted x l).Pairwise (· < ·) := by
  induction l with
  | nil => simp [insertSorted]
  | cons y rest ih =>
    have hy := List.pairwise_cons.mp h
    simp only [insertSorted]
    split
    · rename_i hxy
      refine List.pairwise_cons.mpr ⟨?_, h⟩
      intro z hz
      rcases List.mem_cons.mp hz with rfl | hz
      · exact hxy
      · exact String.lt_trans hxy (hy.1 z hz)
    · split
      · exact h
      · rename_i hxy hne
        refine List.pairwise_cons.mpr ⟨?_, ih hy.2⟩
        intro z hz
        rcases mem_insertSorted.mp hz with rfl | hz
        · exact lt_of_not_lt_of_ne hxy hne
        · exact hy.1 z hz

/-- The set with one more member. -/
def insert (s : StringSet) (x : String) : StringSet :=
  ⟨insertSorted x s.items, pairwise_insertSorted s.sorted⟩

/-- The set of the strings in a list. -/
def ofList (l : List String) : StringSet := l.foldr (fun x s => s.insert x) ∅

instance : Membership String StringSet := ⟨fun s x => x ∈ s.items⟩

instance (x : String) (s : StringSet) : Decidable (x ∈ s) :=
  inferInstanceAs (Decidable (x ∈ s.items))

@[simp] theorem mem_items {x : String} {s : StringSet} : x ∈ s.items ↔ x ∈ s := Iff.rfl

@[simp] theorem not_mem_empty (x : String) : x ∉ (∅ : StringSet) := List.not_mem_nil

@[simp] theorem mem_insert {x z : String} {s : StringSet} : z ∈ s.insert x ↔ z = x ∨ z ∈ s :=
  mem_insertSorted

@[simp] theorem mem_ofList {x : String} {l : List String} : x ∈ ofList l ↔ x ∈ l := by
  induction l with
  | nil => simp [ofList]
  | cons y rest ih =>
    simp only [ofList, List.foldr_cons] at ih ⊢
    rw [mem_insert, ih, List.mem_cons]

/-- The number of members. -/
def size (s : StringSet) : Nat := s.items.length

/-- Whether there is no member. -/
def isEmpty (s : StringSet) : Bool := s.items.isEmpty

/-- The number of members that are also in the other set. -/
def sharedCount (s t : StringSet) : Nat := s.items.countP fun x => decide (x ∈ t)

end StringSet

end ComponentLikeness.Text
