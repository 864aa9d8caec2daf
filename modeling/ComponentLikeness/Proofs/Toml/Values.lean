import ComponentLikeness.Proofs.Toml.Strings
import ComponentLikeness.Proofs.Toml.Words
import ComponentLikeness.Toml.Reader

/-!
# Values read back

Each value that a section can hold is read back from what is written for it
(`value?_writeSetting`). A list of texts is read one text at a time: line ends and blanks
between the texts are left out, and a comma or the closing bracket ends each of them
(`items?_itemLines`).
-/

namespace ComponentLikeness.Toml

open Number

/-! ## What is read -/

/-- The value that a setting is read as. -/
def Setting.toValue : Setting → Value
  | .text s => .string s
  | .number n => .integer n
  | .float x => .float x
  | .boolean b => .boolean b
  | .texts items => .array (items.map .string)

/-- Whether nothing of a setting is lost when it is written: doubles are those of the format,
and no NaN has a sign. -/
def Setting.IsLossless : Setting → Prop
  | .float x => x.IsDouble ∧ x ≠ .nan true
  | _ => True

/-! ## Texts -/

/-- A text begins with a quote or an apostrophe. -/
theorem exists_writeString_eq (text : String) :
    ∃ q behind, writeString text = q :: behind ∧ (q = '"' ∨ q = '\'') := by
  unfold writeString
  dsimp only
  split
  · exact ⟨_, _, rfl, .inl rfl⟩
  · exact ⟨_, _, rfl, .inr rfl⟩
  · exact ⟨_, _, rfl, .inl rfl⟩
  · exact ⟨_, _, rfl, .inr rfl⟩

theorem value?_writeString (depth : Nat) (text : String) (rest : List Char)
    (hquote : rest.head? ≠ some '"') (hapostrophe : rest.head? ≠ some '\'') :
    value? depth (writeString text ++ rest) = some (.string text, rest) := by
  have hread := string?_writeString text rest hquote hapostrophe
  obtain ⟨q, behind, hcons, hq⟩ := exists_writeString_eq text
  rw [hcons, List.cons_append] at hread ⊢
  rcases hq with rfl | rfl <;> simp [value?, hread]

/-- Nothing is left out in front of a text. -/
theorem skipLines_writeString (text : String) (rest : List Char) :
    skipLines false (writeString text ++ rest) = writeString text ++ rest := by
  obtain ⟨q, behind, hcons, hq⟩ := exists_writeString_eq text
  rw [hcons, List.cons_append]
  rcases hq with rfl | rfl <;> rfl

/-- A text is not the end of a list. -/
theorem writeString_append_ne_bracket (text : String) (rest rest' : List Char) :
    writeString text ++ rest ≠ ']' :: rest' := by
  obtain ⟨q, behind, hcons, hq⟩ := exists_writeString_eq text
  rw [hcons, List.cons_append]
  intro h
  rw [List.cons.injEq] at h
  rcases hq with rfl | rfl <;> cases h.1

theorem skipLines_comma (rest : List Char) : skipLines false (',' :: rest) = ',' :: rest := rfl

theorem skipLines_bracket (rest : List Char) : skipLines false (']' :: rest) = ']' :: rest := rfl

/-- A text with a comma behind it is an item. -/
theorem items?_comma (depth fuel : Nat) {item : String} {text rest : List Char}
    (hskip : skipLines false text = writeString item ++ ',' :: rest) :
    items? (value? depth) (fuel + 1) text =
      (items? (value? depth) fuel rest).map fun found => (.string item :: found.1, found.2) := by
  have hread := value?_writeString depth item (',' :: rest) (by simp) (by simp)
  rw [items?, hskip]
  split
  · rename_i h
    exact absurd h (writeString_append_ne_bracket item _ _)
  · simp only [hread, Option.bind_eq_bind, Option.bind_some, skipLines_comma]
    cases items? (value? depth) fuel rest <;> rfl

/-- A text with a bracket behind it is the last item. -/
theorem items?_bracket (depth fuel : Nat) {item : String} {text rest : List Char}
    (hskip : skipLines false text = writeString item ++ ']' :: rest) :
    items? (value? depth) (fuel + 1) text = some ([.string item], rest) := by
  have hread := value?_writeString depth item (']' :: rest) (by simp) (by simp)
  rw [items?, hskip]
  split
  · rename_i h
    exact absurd h (writeString_append_ne_bracket item _ _)
  · simp only [hread, Option.bind_eq_bind, Option.bind_some, skipLines_bracket]
    rfl

/-- The lines of a list of texts. -/
def itemLines (items : List String) : List Char :=
  items.flatMap fun item => "    ".toList ++ writeString item ++ [',', '\n']

theorem length_le_length_itemLines (items : List String) :
    items.length ≤ (itemLines items).length := by
  induction items with
  | nil => exact Nat.zero_le _
  | cons item items ih =>
    simp only [itemLines, List.flatMap_cons, List.length_append, List.length_cons] at ih ⊢
    omega

/-- Texts on lines of their own are read up to the bracket. -/
theorem items?_itemLines (depth : Nat) (rest : List Char) (items : List String) :
    ∀ fuel, items.length < fuel →
      items? (value? depth) fuel ('\n' :: itemLines items ++ ']' :: rest) =
        some (items.map .string, rest) := by
  induction items with
  | nil =>
    intro fuel hfuel
    obtain ⟨fuel, rfl⟩ := Nat.exists_eq_add_one_of_ne_zero (Nat.ne_zero_of_lt hfuel)
    rfl
  | cons item items ih =>
    intro fuel hfuel
    obtain ⟨fuel, rfl⟩ := Nat.exists_eq_add_one_of_ne_zero (Nat.ne_zero_of_lt hfuel)
    have hskip : skipLines false ('\n' :: itemLines (item :: items) ++ ']' :: rest) =
        writeString item ++ ',' :: ('\n' :: itemLines items ++ ']' :: rest) := by
      simp only [itemLines, List.flatMap_cons, List.append_assoc, List.cons_append,
        List.nil_append]
      exact skipLines_writeString item _
    rw [items?_comma depth fuel hskip, ih fuel (Nat.lt_of_succ_lt_succ hfuel)]
    rfl

theorem value?_writeTexts (depth : Nat) (items : List String) (rest : List Char) :
    value? (depth + 1) (writeTexts items ++ rest) = some (.array (items.map .string), rest) := by
  have hread : ∀ text, (∀ fuel, text.length < fuel →
        items? (value? depth) fuel text = some (items.map .string, rest)) →
      value? (depth + 1) ('[' :: text) = some (.array (items.map .string), rest) := by
    intro text h
    rw [value?, h _ (Nat.lt_succ_self _), Option.map_some]
  match items with
  | [] =>
    refine hread _ fun fuel hfuel => ?_
    obtain ⟨fuel, rfl⟩ := Nat.exists_eq_add_one_of_ne_zero (Nat.ne_zero_of_lt hfuel)
    rfl
  | [item] =>
    rw [writeTexts, List.append_assoc, List.cons_append]
    refine hread _ fun fuel hfuel => ?_
    obtain ⟨fuel, rfl⟩ := Nat.exists_eq_add_one_of_ne_zero (Nat.ne_zero_of_lt hfuel)
    exact items?_bracket depth fuel (skipLines_writeString item _)
  | item :: next :: items =>
    have hwritten : writeTexts (item :: next :: items) =
        '[' :: ('\n' :: itemLines (item :: next :: items) ++ [']']) := rfl
    rw [hwritten, List.cons_append, List.append_assoc]
    refine hread _ fun fuel hfuel => items?_itemLines depth rest _ fuel ?_
    have hlines := length_le_length_itemLines (item :: next :: items)
    rw [List.length_append, List.length_cons] at hfuel
    omega

/-! ## Values -/

/-- A scalar that is no string is read as one word. -/
theorem value?_word (depth : Nat) {word : List Char} (hne : word ≠ [])
    (h : ∀ c ∈ word, isWordChar c = true) (rest : List Char) :
    value? depth (word ++ '\n' :: rest) = (ofWord? word).map (·, '\n' :: rest) := by
  rw [← word?_append h]
  obtain ⟨c, behind, rfl⟩ := List.exists_cons_of_ne_nil hne
  have hc := h c List.mem_cons_self
  rw [List.cons_append, value?]
  · exact fun _ h => ne_of_true_of_false hc rfl (List.cons.inj h).1
  · exact fun _ h => ne_of_true_of_false hc rfl (List.cons.inj h).1
  · exact fun _ h => ne_of_true_of_false hc rfl (List.cons.inj h).1
  · exact fun _ h => ne_of_true_of_false hc rfl (List.cons.inj h).1

/-- A value is not written with a blank in front. -/
theorem exists_writeSetting_eq {setting : Setting} (h : setting.IsLossless) :
    ∃ c behind, writeSetting setting = c :: behind ∧ isBlank c = false := by
  have hword : ∀ word : List Char, word ≠ [] → (∀ c ∈ word, isWordChar c = true) →
      ∃ c behind, word = c :: behind ∧ isBlank c = false := by
    intro word hne hchars
    obtain ⟨c, behind, rfl⟩ := List.exists_cons_of_ne_nil hne
    refine ⟨c, behind, rfl, ?_⟩
    have hc := hchars c List.mem_cons_self
    by_contra hblank
    simp only [Bool.not_eq_false, isBlank, Bool.or_eq_true, decide_eq_true_eq] at hblank
    rcases hblank with rfl | rfl <;> cases hc
  cases setting with
  | text s =>
    obtain ⟨q, behind, hcons, hq⟩ := exists_writeString_eq s
    exact ⟨q, behind, hcons, by rcases hq with rfl | rfl <;> rfl⟩
  | number n =>
    exact hword _ (toDigits_ne_nil n) fun c hc => isWordChar_of_isDigit (isDigit_toDigits n c hc)
  | float x => exact hword _ (isWordChar_writeFloat h.1).1 (isWordChar_writeFloat h.1).2
  | boolean b => cases b <;> exact ⟨_, _, rfl, rfl⟩
  | texts items =>
    match items with
    | [] => exact ⟨_, _, rfl, rfl⟩
    | [item] => exact ⟨_, _, rfl, rfl⟩
    | item :: next :: items => exact ⟨_, _, rfl, rfl⟩

/-- What is written for a value is read as the value. -/
theorem value?_writeSetting (depth : Nat) {setting : Setting} (hfits : setting.fits = true)
    (h : setting.IsLossless) (rest : List Char) :
    value? (depth + 1) (writeSetting setting ++ '\n' :: rest) =
      some (setting.toValue, '\n' :: rest) := by
  cases setting with
  | text s => exact value?_writeString _ s _ (by simp) (by simp)
  | number n =>
    have hword : ∀ c ∈ Nat.toDigits 10 n, isWordChar c = true := fun c hc =>
      isWordChar_of_isDigit (isDigit_toDigits n c hc)
    rw [writeSetting, value?_word _ (toDigits_ne_nil n) hword,
      ofWord?_toDigits (by simpa [Setting.fits] using hfits)]
    rfl
  | float x =>
    obtain ⟨hne, hword⟩ := isWordChar_writeFloat h.1
    rw [writeSetting, value?_word _ hne hword, ofWord?_writeFloat h.1 h.2]
    rfl
  | boolean b => cases b <;> rfl
  | texts items => exact value?_writeTexts depth items _

end ComponentLikeness.Toml
