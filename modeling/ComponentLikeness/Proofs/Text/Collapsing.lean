import ComponentLikeness.Text.Words

/-!
# Collapsed texts

A text falls into words in exactly one way (`fallsInto_iff`), and collapsing it keeps just
these: putting one space between words and taking the words again gives the same words
(`words_unwords`). So a collapsed text is a form for all texts with the same words
(`collapseBlanks_eq_iff`), it collapses to itself (`collapseBlanks_collapseBlanks`), and
all that is left of the blanks is one space between two words (`spaced_collapseBlanks`).
-/

namespace ComponentLikeness.Text

/-! ## Words of a text -/

/-- There is something in the word, and no blank. -/
structure IsWord (w : List Char) : Prop where
  ne_nil : w ≠ []
  no_blank : ∀ c ∈ w, isBlank c = false

/-- The text is at its end, or a blank is next. -/
def EndsWord (text : List Char) : Prop := ∀ c ∈ text.head?, isBlank c = true

/-- The words of a text, said by what may stand in front of the rest of it: a blank, or a
word that is not continued by the rest. -/
inductive FallsInto : List Char → List (List Char) → Prop
  | nil : FallsInto [] []
  | blank {c : Char} {text : List Char} {ws : List (List Char)} (hc : isBlank c = true)
      (h : FallsInto text ws) : FallsInto (c :: text) ws
  | word {w text : List Char} {ws : List (List Char)} (hw : IsWord w) (hend : EndsWord text)
      (h : FallsInto text ws) : FallsInto (w ++ text) (w :: ws)

theorem endsWord_nil : EndsWord [] := by simp [EndsWord]

theorem endsWord_cons {c : Char} {text : List Char} : EndsWord (c :: text) ↔ isBlank c = true := by
  simp [EndsWord]

theorem isWord_singleton {c : Char} (h : isBlank c = false) : IsWord [c] :=
  ⟨List.cons_ne_nil _ _, by simpa using h⟩

theorem IsWord.cons {c : Char} {w : List Char} (h : isBlank c = false) (hw : IsWord w) :
    IsWord (c :: w) :=
  ⟨List.cons_ne_nil _ _, List.forall_mem_cons.mpr ⟨h, hw.no_blank⟩⟩

theorem words_cons_blank {c : Char} (h : isBlank c = true) (text : List Char) :
    words (c :: text) = words text := by
  rw [words.eq_def]
  simp [h]

theorem words_cons_cons {c d : Char} (hc : isBlank c = false) (hd : isBlank d = false)
    (text : List Char) : words (c :: d :: text) = extendFirst c (words (d :: text)) := by
  show (if isBlank c then words (d :: text) else if isBlank d then [c] :: words (d :: text)
    else extendFirst c (words (d :: text))) = _
  simp [hc, hd]

/-- A word that ends here is the first of the words. -/
theorem words_append {w text : List Char} (hw : IsWord w) (hend : EndsWord text) :
    words (w ++ text) = w :: words text := by
  obtain ⟨hne, hblank⟩ := hw
  induction w with
  | nil => exact absurd rfl hne
  | cons c w ih =>
    obtain ⟨hc, hblank⟩ := List.forall_mem_cons.mp hblank
    cases w with
    | cons d w =>
      have hd : isBlank d = false := hblank d List.mem_cons_self
      rw [List.cons_append, List.cons_append, words_cons_cons hc hd, ← List.cons_append,
        ih (List.cons_ne_nil _ _) hblank]
      rfl
    | nil =>
      cases text with
      | nil => simp [words, hc]
      | cons b text =>
        have hb : isBlank b = true := endsWord_cons.mp hend
        simp [words, hc, hb]

theorem FallsInto.words_eq {text : List Char} {ws : List (List Char)} (h : FallsInto text ws) :
    words text = ws := by
  induction h with
  | nil => rfl
  | blank hc _ ih => rw [words_cons_blank hc, ih]
  | word hw hend _ ih => rw [words_append hw hend, ih]

/-- A character that is no blank makes the first word longer, or is a word of its own. -/
theorem FallsInto.cons {c : Char} (hc : isBlank c = false) {text : List Char}
    {ws : List (List Char)} (h : FallsInto text ws) : ∃ ws', FallsInto (c :: text) ws' := by
  cases h with
  | nil => exact ⟨[[c]], .word (isWord_singleton hc) endsWord_nil .nil⟩
  | blank hb h =>
    exact ⟨[c] :: ws, .word (isWord_singleton hc) (endsWord_cons.mpr hb) (.blank hb h)⟩
  | word hw hend h => exact ⟨_, .word (hw.cons hc) hend h⟩

theorem exists_fallsInto (text : List Char) : ∃ ws, FallsInto text ws := by
  induction text with
  | nil => exact ⟨[], .nil⟩
  | cons c text ih =>
    obtain ⟨ws, h⟩ := ih
    cases hc : isBlank c with
    | true => exact ⟨ws, .blank hc h⟩
    | false => exact h.cons hc

/-- A text falls into its words, and in no other way. -/
theorem fallsInto_iff {text : List Char} {ws : List (List Char)} :
    FallsInto text ws ↔ words text = ws := by
  constructor
  · exact FallsInto.words_eq
  · rintro rfl
    obtain ⟨ws, h⟩ := exists_fallsInto text
    rw [h.words_eq]
    exact h

theorem FallsInto.isWord {text : List Char} {ws : List (List Char)} (h : FallsInto text ws) :
    ∀ w ∈ ws, IsWord w := by
  induction h with
  | nil => simp
  | blank _ _ ih => exact ih
  | word hw _ _ ih => exact List.forall_mem_cons.mpr ⟨hw, ih⟩

theorem isWord_of_mem_words {text w : List Char} (h : w ∈ words text) : IsWord w :=
  (fallsInto_iff.mpr rfl).isWord w h

/-- No character is lost but the blanks. -/
theorem FallsInto.flatten_eq {text : List Char} {ws : List (List Char)} (h : FallsInto text ws) :
    ws.flatten = text.filter fun c => !isBlank c := by
  induction h with
  | nil => rfl
  | blank hc _ ih => rw [ih, List.filter_cons_of_neg (by simp [hc])]
  | word hw _ _ ih =>
    rw [List.flatten_cons, ih, List.filter_append]
    congr 1
    refine (List.filter_eq_self.mpr fun c hc => ?_).symm
    simp [hw.no_blank c hc]

/-! ## Gaps -/

/-- There is something in the gap, and nothing but blanks. -/
structure IsGap (gap : List Char) : Prop where
  ne_nil : gap ≠ []
  blank : ∀ c ∈ gap, isBlank c = true

theorem FallsInto.blanks_append {text : List Char} {ws : List (List Char)} (h : FallsInto text ws)
    {blanks : List Char} (hblank : ∀ c ∈ blanks, isBlank c = true) :
    FallsInto (blanks ++ text) ws := by
  induction blanks with
  | nil => exact h
  | cons b blanks ih =>
    obtain ⟨hb, hblank⟩ := List.forall_mem_cons.mp hblank
    exact .blank hb (ih hblank)

/-- A gap ends the word in front of it. -/
theorem FallsInto.append {text text' gap : List Char} {ws ws' : List (List Char)}
    (h : FallsInto text ws) (hgap : IsGap gap) (h' : FallsInto text' ws') :
    FallsInto (text ++ (gap ++ text')) (ws ++ ws') := by
  induction h with
  | nil => exact h'.blanks_append hgap.blank
  | blank hc _ ih => exact .blank hc ih
  | @word w text ws hw hend _ ih =>
    rw [List.append_assoc, List.cons_append]
    refine .word hw ?_ ih
    cases text with
    | cons c text => exact hend
    | nil =>
      obtain ⟨b, gap, rfl⟩ := List.exists_cons_of_ne_nil hgap.ne_nil
      exact endsWord_cons.mpr (hgap.blank b List.mem_cons_self)

/-! ## Words with spaces between them -/

theorem isBlank_space : isBlank ' ' = true := by decide

theorem unwords_cons_cons (w v : List Char) (ws : List (List Char)) :
    unwords (w :: v :: ws) = w ++ ' ' :: unwords (v :: ws) := rfl

theorem fallsInto_unwords {ws : List (List Char)} (h : ∀ w ∈ ws, IsWord w) :
    FallsInto (unwords ws) ws := by
  induction ws with
  | nil => exact .nil
  | cons w ws ih =>
    obtain ⟨hw, hws⟩ := List.forall_mem_cons.mp h
    cases ws with
    | nil =>
      have hlast : FallsInto (w ++ []) [w] := .word hw endsWord_nil .nil
      rwa [List.append_nil] at hlast
    | cons v ws =>
      rw [unwords_cons_cons]
      exact .word hw (endsWord_cons.mpr isBlank_space) (.blank isBlank_space (ih hws))

/-- Taking the words undoes putting spaces between them. -/
theorem words_unwords {ws : List (List Char)} (h : ∀ w ∈ ws, IsWord w) :
    words (unwords ws) = ws :=
  (fallsInto_unwords h).words_eq

/-- Every blank is a space, and stands between two characters that are no blanks. -/
def Spaced (text : List Char) : Prop :=
  ∀ before c after, text = before ++ c :: after → isBlank c = true →
    c = ' ' ∧ (∃ a ∈ before.getLast?, isBlank a = false) ∧ ∃ b ∈ after.head?, isBlank b = false

theorem head?_unwords {w : List Char} {ws : List (List Char)} (hw : IsWord w) :
    ∃ b ∈ (unwords (w :: ws)).head?, isBlank b = false := by
  cases w with
  | nil => exact absurd rfl hw.ne_nil
  | cons c w =>
    refine ⟨c, ?_, hw.no_blank c List.mem_cons_self⟩
    cases ws <;> simp [unwords]

theorem IsWord.getLast? {w : List Char} (hw : IsWord w) : ∃ a ∈ w.getLast?, isBlank a = false :=
  ⟨_, List.getLast?_eq_some_getLast hw.ne_nil, hw.no_blank _ (List.getLast_mem hw.ne_nil)⟩

/-- A place whose character is not in the first part lies behind it. -/
theorem exists_behind {w text before after : List Char} {c : Char} (hc : c ∉ w)
    (h : w ++ text = before ++ c :: after) :
    ∃ mid, before = w ++ mid ∧ text = mid ++ c :: after := by
  rcases List.append_eq_append_iff.mp h with ⟨mid, hbefore, htext⟩ | ⟨mid, hw, hafter⟩
  · exact ⟨mid, hbefore, htext⟩
  · cases mid with
    | nil => exact ⟨[], by simp [hw], by simpa using hafter.symm⟩
    | cons d mid =>
      obtain ⟨rfl, -⟩ := List.cons.inj hafter
      exact absurd (hw ▸ List.mem_append_right _ List.mem_cons_self) hc

theorem spaced_unwords {ws : List (List Char)} (h : ∀ w ∈ ws, IsWord w) : Spaced (unwords ws) := by
  induction ws with
  | nil =>
    intro before c after heq
    simp [unwords] at heq
  | cons w ws ih =>
    obtain ⟨hw, hws⟩ := List.forall_mem_cons.mp h
    intro before c after heq hc
    have hout : c ∉ w := fun hmem => by simp [hw.no_blank c hmem] at hc
    cases ws with
    | nil =>
      rw [unwords] at heq
      exact absurd (heq ▸ List.mem_append_right before List.mem_cons_self) hout
    | cons v ws =>
      rw [unwords_cons_cons] at heq
      obtain ⟨mid, rfl, hmid⟩ := exists_behind hout heq
      cases mid with
      | nil =>
        -- the space right behind the first word
        obtain ⟨rfl, rfl⟩ := List.cons.inj hmid
        rw [List.append_nil]
        exact ⟨rfl, hw.getLast?, head?_unwords (hws v List.mem_cons_self)⟩
      | cons b mid =>
        obtain ⟨-, hrest⟩ := List.cons.inj hmid
        obtain ⟨hspace, ⟨a, ha, hblank⟩, hafter⟩ := ih hws mid c after hrest hc
        refine ⟨hspace, ⟨a, ?_, hblank⟩, hafter⟩
        cases mid with
        | nil => simp at ha
        | cons d mid => simpa [List.getLast?_append] using ha

/-! ## Collapsing -/

/-- The two texts fall into the same words. -/
def SameWords (a b : String) : Prop := ∃ ws, FallsInto a.toList ws ∧ FallsInto b.toList ws

theorem sameWords_iff {a b : String} : SameWords a b ↔ words a.toList = words b.toList := by
  simp only [SameWords, fallsInto_iff]
  constructor
  · rintro ⟨ws, ha, hb⟩
    rw [ha, hb]
  · intro h
    exact ⟨_, h, rfl⟩

/-- Between two words one gap is as good as another. -/
theorem sameWords_of_gaps {gap gap' : List Char} (h : IsGap gap) (h' : IsGap gap')
    (before after : List Char) :
    SameWords (String.ofList (before ++ (gap ++ after)))
      (String.ofList (before ++ (gap' ++ after))) := by
  obtain ⟨ws, hbefore⟩ := exists_fallsInto before
  obtain ⟨vs, hafter⟩ := exists_fallsInto after
  refine ⟨ws ++ vs, ?_, ?_⟩
  · rw [String.toList_ofList]
    exact hbefore.append h hafter
  · rw [String.toList_ofList]
    exact hbefore.append h' hafter

/-- At both ends of a text blanks do not matter. -/
theorem sameWords_of_margins {left right : List Char} (hleft : ∀ c ∈ left, isBlank c = true)
    (hright : ∀ c ∈ right, isBlank c = true) (text : List Char) :
    SameWords (String.ofList (left ++ (text ++ right))) (String.ofList text) := by
  obtain ⟨ws, h⟩ := exists_fallsInto text
  refine ⟨ws, ?_, by rwa [String.toList_ofList]⟩
  rw [String.toList_ofList]
  refine FallsInto.blanks_append ?_ hleft
  cases right with
  | nil => rwa [List.append_nil]
  | cons b right =>
    have hend : FallsInto (text ++ (b :: right ++ [])) (ws ++ []) :=
      h.append ⟨List.cons_ne_nil _ _, hright⟩ .nil
    rwa [List.append_nil, List.append_nil] at hend

theorem toList_collapseBlanks (text : String) :
    (collapseBlanks text).toList = unwords (words text.toList) := by
  rw [collapseBlanks, String.toList_ofList]

theorem words_collapseBlanks (text : String) :
    words (collapseBlanks text).toList = words text.toList := by
  rw [toList_collapseBlanks, words_unwords fun _ => isWord_of_mem_words]

theorem collapseBlanks_collapseBlanks (text : String) :
    collapseBlanks (collapseBlanks text) = collapseBlanks text := by
  rw [collapseBlanks, words_collapseBlanks, ← collapseBlanks]

/-- Two texts collapse alike exactly if they fall into the same words. -/
theorem collapseBlanks_eq_iff {a b : String} :
    collapseBlanks a = collapseBlanks b ↔ SameWords a b := by
  rw [sameWords_iff]
  constructor
  · intro h
    rw [← words_collapseBlanks a, h, words_collapseBlanks]
  · intro h
    rw [collapseBlanks, h, ← collapseBlanks]

theorem Spaced.head?_not_blank {text : List Char} (h : Spaced text) :
    ∀ c ∈ text.head?, isBlank c = false := by
  intro c hc
  cases text with
  | nil => simp at hc
  | cons d text =>
    obtain rfl : d = c := by simpa using hc
    refine Bool.eq_false_iff.mpr fun hblank => ?_
    obtain ⟨-, ⟨a, ha, -⟩, -⟩ := h [] d text rfl hblank
    simp at ha

theorem Spaced.getLast?_not_blank {text : List Char} (h : Spaced text) :
    ∀ c ∈ text.getLast?, isBlank c = false := by
  intro c hc
  obtain ⟨before, rfl⟩ := List.getLast?_eq_some_iff.mp hc
  refine Bool.eq_false_iff.mpr fun hblank => ?_
  obtain ⟨-, -, b, hb, -⟩ := h before c [] rfl hblank
  simp at hb

theorem spaced_collapseBlanks (text : String) : Spaced (collapseBlanks text).toList := by
  rw [toList_collapseBlanks]
  exact spaced_unwords fun _ => isWord_of_mem_words

/-- Apart from blanks, the characters stay the same. -/
theorem filter_collapseBlanks (text : String) :
    ((collapseBlanks text).toList.filter fun c => !isBlank c) =
      text.toList.filter fun c => !isBlank c := by
  have hbefore : FallsInto text.toList (words text.toList) := fallsInto_iff.mpr rfl
  have hafter := fallsInto_iff.mpr (words_collapseBlanks text)
  rw [← hbefore.flatten_eq, ← hafter.flatten_eq]

/-- The collapsed text has no blanks at its ends and single spaces between its words, all
other characters of the text in order, and nothing more to collapse. -/
structure IsCollapsed (text collapsed : String) : Prop where
  head?_not_blank : ∀ c ∈ collapsed.toList.head?, isBlank c = false
  getLast?_not_blank : ∀ c ∈ collapsed.toList.getLast?, isBlank c = false
  spaced : Spaced collapsed.toList
  filter_eq : (collapsed.toList.filter fun c => !isBlank c) =
    text.toList.filter fun c => !isBlank c
  collapseBlanks_eq : collapseBlanks collapsed = collapsed

theorem isCollapsed_collapseBlanks (text : String) : IsCollapsed text (collapseBlanks text) where
  head?_not_blank := (spaced_collapseBlanks text).head?_not_blank
  getLast?_not_blank := (spaced_collapseBlanks text).getLast?_not_blank
  spaced := spaced_collapseBlanks text
  filter_eq := filter_collapseBlanks text
  collapseBlanks_eq := collapseBlanks_collapseBlanks text

end ComponentLikeness.Text
