import ComponentLikeness.Toml.Scalar
import ComponentLikeness.Toml.Writer

/-!
# Strings read back

A string is written in one of four styles, each of which reads back as the string
(`string?_writeString`). With escapes, a string is a row of characters each of which stands
for itself or is escaped (`Escapes`), and a reader takes them one at a time. Between three
quotes, quotes may stand as they are; no three of them do in a row, so the reader sees the
end only where it is, with up to two quotes of the string before it. The same holds of
apostrophes (`le_longestRun`).
-/

namespace ComponentLikeness.Toml

/-! ## Runs of a character -/

theorem longest_le_longestRun (c : Char) (text : List Char) :
    ∀ current longest, longest ≤ longestRun c current longest text := by
  induction text with
  | nil =>
    intro current longest
    exact Nat.le_refl _
  | cons x rest ih =>
    intro current longest
    rw [longestRun]
    split
    · exact Nat.le_trans (Nat.le_max_left _ _) (ih _ _)
    · exact ih _ _

/-- A run is no longer than the longest one. -/
theorem le_longestRun (c : Char) (k : Nat) (behind front : List Char) :
    ∀ current longest,
      k ≤ longestRun c current longest (front ++ List.replicate k c ++ behind) := by
  induction front with
  | nil =>
    have hrun : ∀ k current longest, current ≤ longest →
        current + k ≤ longestRun c current longest (List.replicate k c ++ behind) := by
      intro k
      induction k with
      | zero =>
        intro current longest hle
        exact Nat.le_trans hle (longest_le_longestRun c _ current longest)
      | succ k ih =>
        intro current longest _
        rw [List.replicate_succ, List.cons_append, longestRun, if_pos rfl]
        have := ih (current + 1) (max longest (current + 1)) (Nat.le_max_right _ _)
        omega
    intro current longest
    rw [List.nil_append]
    cases k with
    | zero => exact Nat.zero_le _
    | succ k =>
      rw [List.replicate_succ, List.cons_append, longestRun, if_pos rfl]
      have := hrun k (current + 1) (max longest (current + 1)) (Nat.le_max_right _ _)
      omega
  | cons x front ih =>
    intro current longest
    rw [List.cons_append, List.cons_append, longestRun]
    split <;> exact ih _ _

theorem not_mem_of_longestRun_eq_zero {c : Char} {text : List Char}
    (h : longestRun c 0 0 text = 0) : c ∉ text := by
  intro hmem
  obtain ⟨front, behind, rfl⟩ := List.append_of_mem hmem
  have := le_longestRun c 1 behind front 0 0
  simp only [List.replicate_one, List.append_assoc, List.singleton_append] at this
  omega

/-! ## Characters of a string with escapes -/

/-- How a character may stand in a string with escapes. -/
inductive Escapes (c : Char) : List Char → Prop where
  | short (e : Char) : shortEscape? e = some c → Escapes c ['\\', e]
  | code (x y z w : Char) : codePoint? [x, y, z, w] = some c → Escapes c ['\\', 'u', x, y, z, w]
  | plain : isPlain c = true → c ≠ '\\' → c ≠ '"' → Escapes c [c]

theorem codePoint?_control {c : Char} (h : isControl c = true) :
    codePoint? ['0', '0', hexDigitOf (c.toNat / 16), hexDigitOf (c.toNat % 16)] = some c := by
  have hall : ∀ n : Nat, n < 128 →
      codePoint? ['0', '0', hexDigitOf (n / 16), hexDigitOf (n % 16)] = some (Char.ofNat n) := by
    decide
  have hsmall : c.toNat < 128 := by
    simp only [isControl, Bool.or_eq_true, Bool.and_eq_true, decide_eq_true_eq] at h
    rcases h with ⟨⟨h, -⟩, -⟩ | h
    · have : c.toNat < 32 := h
      omega
    · subst h
      decide
  rw [hall _ hsmall, Char.ofNat_toNat]

/-- What need not be escaped may stand in a line of its own. -/
theorem isPlain_of_not_isControl {c : Char} (h : isControl c = false) (hline : c ≠ '\n') :
    isPlain c = true := by
  simp only [isControl, Bool.or_eq_false_iff, Bool.and_eq_false_iff, decide_eq_false_iff_not] at h
  simp only [isPlain, Bool.or_eq_true, Bool.and_eq_true, decide_eq_true_eq]
  grind

theorem escapes_escapeChar {c : Char} (hquote : c ≠ '"') (hline : c ≠ '\n') :
    Escapes c (escapeChar c) := by
  unfold escapeChar
  -- the five characters that have a letter of their own
  iterate 5
    split
    · rename_i h
      subst h
      exact .short _ rfl
  rename_i hescape
  split
  · rename_i h
    exact .code _ _ _ _ (codePoint?_control h)
  · rename_i h
    exact .plain (isPlain_of_not_isControl (by simpa using h) hline) hescape hquote

/-- The letters behind a backslash. -/
theorem mem_of_shortEscape? {e c : Char} (h : shortEscape? e = some c) :
    e ∈ ['b', 't', 'n', 'f', 'r', '"', '\\'] := by
  unfold shortEscape? at h
  grind

/-- Put a character in front of what a reader has found. -/
def before (c : Char) (read : Option (List Char × List Char)) : Option (List Char × List Char) :=
  read.map fun (xs, rest) => (c :: xs, rest)

@[simp] theorem before_some (c : Char) (xs rest : List Char) :
    before c (some (xs, rest)) = some (c :: xs, rest) := rfl

theorem basicBody_short {e : Char} (hu : e ≠ 'u') (hU : e ≠ 'U') (rest : List Char) :
    basicBody ('\\' :: e :: rest) = (shortEscape? e).bind fun c => before c (basicBody rest) := by
  rw [basicBody]
  · cases shortEscape? e with
    | none => rfl
    | some c => cases basicBody rest <;> rfl
  · intro a b c d rest' h
    exact absurd h hu
  · intro a b c d e' f g k rest' h
    exact absurd h hU

theorem basicBody_escapes {c : Char} {written : List Char} (h : Escapes c written)
    (rest : List Char) : basicBody (written ++ rest) = before c (basicBody rest) := by
  cases h with
  | short e h =>
    have hmem := mem_of_shortEscape? h
    have hu : e ≠ 'u' := by
      rintro rfl
      simp at hmem
    have hU : e ≠ 'U' := by
      rintro rfl
      simp at hmem
    rw [List.cons_append, List.singleton_append, basicBody_short hu hU, h, Option.bind_some]
  | code x y z w h =>
    simp only [List.cons_append, List.nil_append, basicBody, h]
    cases basicBody rest <;> rfl
  | plain hplain hescape hquote =>
    rw [List.singleton_append, basicBody.eq_def]
    split <;> simp_all [before]

/-! ## One line -/

/-- Without raw quotes and line ends every character stands for itself or is escaped. -/
theorem escaped_cons (c : Char) (run : Nat) (text : List Char) :
    ∃ written, Escapes c written ∧
      escaped false 0 run (c :: text) = written ++ escaped false 0 0 text := by
  rw [escaped]
  split
  · rename_i hquote
    subst hquote
    exact ⟨['\\', '"'], .short _ rfl, rfl⟩
  split
  · rename_i hline
    subst hline
    exact ⟨['\\', 'n'], .short _ rfl, rfl⟩
  · rename_i hquote hline
    exact ⟨_, escapes_escapeChar hquote hline, rfl⟩

theorem basicBody_escaped (text rest : List Char) :
    ∀ run, basicBody (escaped false 0 run text ++ '"' :: rest) = some (text, rest) := by
  induction text with
  | nil =>
    intro run
    rw [escaped, List.nil_append, basicBody]
  | cons c text ih =>
    intro run
    obtain ⟨written, hwritten, hcons⟩ := escaped_cons c run text
    rw [hcons, List.append_assoc, basicBody_escapes hwritten, ih, before_some]

theorem literalBody_append {text : List Char} (hplain : ∀ c ∈ text, isPlain c = true)
    (hquote : '\'' ∉ text) (rest : List Char) :
    literalBody (text ++ '\'' :: rest) = some (text, rest) := by
  induction text with
  | nil => rw [List.nil_append, literalBody]
  | cons c text ih =>
    rw [List.forall_mem_cons] at hplain
    rw [List.mem_cons, not_or] at hquote
    rw [List.cons_append, literalBody, if_pos hplain.1, ih hplain.2 hquote.2]
    · rfl
    · exact fun h => hquote.1 h.symm

/-! ## Several lines -/

/-- What is neither an escape nor one of three quotes in a row stands for itself. -/
theorem multilineBasicBody_cons {c : Char} {rest : List Char}
    (hquote : c = '"' → rest.take 2 ≠ ['"', '"']) (hescape : c ≠ '\\') (hreturn : c ≠ '\r')
    (hplain : c = '\n' ∨ isPlain c = true) :
    multilineBasicBody false (c :: rest) = before c (multilineBasicBody false rest) := by
  have hinside : ∀ rest', c = '"' → rest ≠ '"' :: '"' :: rest' := by
    rintro rest' hc rfl
    exact hquote hc rfl
  rw [multilineBasicBody]
  · simp [hescape, hplain, before]
  · exact fun _ hc => hinside _ hc
  · exact fun _ hc => hinside _ hc
  · exact fun _ hc => hinside _ hc
  · exact fun _ _ _ _ _ hc => absurd hc hescape
  · exact fun _ _ _ _ _ _ _ _ _ hc => absurd hc hescape
  · exact fun _ _ hc => absurd hc hescape
  · exact fun _ hc => absurd hc hreturn

theorem multilineBasicBody_escapes {c : Char} {written : List Char} (h : Escapes c written)
    (rest : List Char) :
    multilineBasicBody false (written ++ rest) = before c (multilineBasicBody false rest) := by
  cases h with
  | short e h =>
    have hmem := mem_of_shortEscape? h
    have hends : endsLine (e :: rest) = false := by
      simp only [List.mem_cons, List.not_mem_nil, or_false] at hmem
      rcases hmem with rfl | rfl | rfl | rfl | rfl | rfl | rfl <;> rfl
    rw [List.cons_append, List.singleton_append, multilineBasicBody, if_neg (by simp [hends]), h]
    · cases multilineBasicBody false rest <;> rfl
    · rintro a b c d rest' rfl
      simp at hmem
    · rintro a b c d e' f g k rest' rfl
      simp at hmem
  | code x y z w h =>
    simp only [List.cons_append, List.nil_append, multilineBasicBody, h]
    cases multilineBasicBody false rest <;> rfl
  | plain hplain hescape hquote =>
    refine multilineBasicBody_cons (fun h => absurd h hquote) hescape ?_ (.inr hplain)
    rintro rfl
    revert hplain
    decide

/-- Up to two quotes before the closing ones belong to the string. -/
theorem multilineBasicBody_close {k : Nat} (hk : k ≤ 2) {rest : List Char}
    (hrest : rest.head? ≠ some '"') :
    multilineBasicBody false (List.replicate k '"' ++ '"' :: '"' :: '"' :: rest) =
      some (List.replicate k '"', rest) := by
  have hnext : ∀ rest', rest ≠ '"' :: rest' := by
    rintro rest' rfl
    exact hrest rfl
  obtain rfl | rfl | rfl : k = 0 ∨ k = 1 ∨ k = 2 := by omega
  · simp [multilineBasicBody, hnext]
  · simp [List.replicate, multilineBasicBody]
  · simp [List.replicate, multilineBasicBody]

theorem head?_of_escapes {c : Char} {written : List Char} (h : Escapes c written) :
    ∃ x behind, written = x :: behind ∧ x ≠ '"' ∧ x ≠ '\n' ∧ x ≠ '\r' := by
  cases h with
  | short e h => exact ⟨_, _, rfl, by decide, by decide, by decide⟩
  | code x y z w h => exact ⟨_, _, rfl, by decide, by decide, by decide⟩
  | plain hplain hescape hquote =>
    refine ⟨c, [], rfl, hquote, ?_, ?_⟩
    · rintro rfl
      revert hplain
      decide
    · rintro rfl
      revert hplain
      decide

/-- After two raw quotes, or before another character, no raw quote follows. -/
theorem head?_escaped_ne (run : Nat) {c : Char} (h : c ≠ '"' ∨ 2 ≤ run)
    (text rest : List Char) :
    (escaped true 2 run (c :: text) ++ rest).head? ≠ some '"' := by
  rw [escaped]
  split
  · rename_i hquote
    have hrun := h.resolve_left (· hquote)
    rw [if_neg (by omega)]
    simp
  split
  · simp
  · rename_i hquote hline
    obtain ⟨x, behind, hx, hne, -⟩ := head?_of_escapes (escapes_escapeChar hquote hline)
    rw [hx]
    simpa using hne

/-- Behind a raw quote no two raw quotes follow but those of the end. -/
theorem take_two_escaped_ne (run : Nat) {text : List Char} (hrun : 1 ≤ run) (hne : text ≠ [])
    (hlast : run = 1 → text ≠ ['"']) (rest : List Char) :
    (escaped true 2 run text ++ rest).take 2 ≠ ['"', '"'] := by
  cases text with
  | nil => contradiction
  | cons c text =>
    by_cases hraw : c = '"' ∧ run = 1
    · obtain ⟨rfl, rfl⟩ := hraw
      cases text with
      | nil => exact absurd rfl (hlast rfl)
      | cons d text =>
        rw [escaped, if_pos rfl, if_pos (by decide), List.cons_append]
        intro htake
        refine head?_escaped_ne (c := d) 2 (.inr (Nat.le_refl 2)) text rest ?_
        rw [List.take_succ_cons, List.cons.injEq] at htake
        have hnext := congrArg List.head? htake.2
        rwa [List.head?_take, if_neg (by decide)] at hnext
    · have hhead := head?_escaped_ne (c := c) run
        (by by_cases hc : c = '"' <;> grind) text rest
      intro htake
      have hfirst := congrArg List.head? htake
      rw [List.head?_take, if_neg (by decide)] at hfirst
      exact hhead hfirst

theorem multilineBasicBody_escaped {rest : List Char} (hrest : rest.head? ≠ some '"')
    (text : List Char) :
    ∀ run, multilineBasicBody false (escaped true 2 run text ++ '"' :: '"' :: '"' :: rest) =
      some (text, rest) := by
  induction text with
  | nil =>
    intro run
    exact multilineBasicBody_close (Nat.zero_le 2) hrest
  | cons c text ih =>
    intro run
    rw [escaped]
    split
    · rename_i hquote
      subst hquote
      split
      · -- a raw quote ends the string only together with the closing ones, so what is left
        -- of the text decides whether the reader takes it alone
        rename_i hrun
        rw [List.cons_append]
        by_cases hone : text = []
        · subst hone
          exact multilineBasicBody_close (k := 1) (by decide) hrest
        by_cases htwo : run = 0 ∧ text = ['"']
        · obtain ⟨rfl, rfl⟩ := htwo
          exact multilineBasicBody_close (k := 2) (by decide) hrest
        · have htake := take_two_escaped_ne (run + 1) (by omega) hone
            (fun h => by rintro rfl; exact htwo ⟨by omega, rfl⟩) ('"' :: '"' :: '"' :: rest)
          rw [multilineBasicBody_cons (fun _ => htake) (by decide) (by decide) (.inr (by decide)),
            ih, before_some]
      · have hescape := multilineBasicBody_escapes (c := '"') (.short '"' rfl)
          (escaped true 2 0 text ++ '"' :: '"' :: '"' :: rest)
        rw [ih, before_some] at hescape
        exact hescape
    rename_i hquote
    split
    · rename_i hline
      subst hline
      rw [if_pos rfl, List.cons_append, multilineBasicBody_cons (fun h => absurd h hquote)
        (by decide) (by decide) (.inl rfl), ih, before_some]
    · rename_i hline
      rw [List.append_assoc, multilineBasicBody_escapes (escapes_escapeChar hquote hline), ih,
        before_some]

/-- What is not one of three apostrophes in a row stands for itself. -/
theorem multilineLiteralBody_cons {c : Char} {rest : List Char}
    (hquote : c = '\'' → rest.take 2 ≠ ['\'', '\'']) (hreturn : c ≠ '\r')
    (hplain : c = '\n' ∨ isPlain c = true) :
    multilineLiteralBody (c :: rest) = before c (multilineLiteralBody rest) := by
  have hinside : ∀ rest', c = '\'' → rest ≠ '\'' :: '\'' :: rest' := by
    rintro rest' hc rfl
    exact hquote hc rfl
  rw [multilineLiteralBody]
  · simp [hplain, before]
  · exact fun _ hc => hinside _ hc
  · exact fun _ hc => hinside _ hc
  · exact fun _ hc => hinside _ hc
  · exact fun _ hc => absurd hc hreturn

/-- Up to two apostrophes before the closing ones belong to the string. -/
theorem multilineLiteralBody_close {k : Nat} (hk : k ≤ 2) {rest : List Char}
    (hrest : rest.head? ≠ some '\'') :
    multilineLiteralBody (List.replicate k '\'' ++ '\'' :: '\'' :: '\'' :: rest) =
      some (List.replicate k '\'', rest) := by
  have hnext : ∀ rest', rest ≠ '\'' :: rest' := by
    rintro rest' rfl
    exact hrest rfl
  obtain rfl | rfl | rfl : k = 0 ∨ k = 1 ∨ k = 2 := by omega
  · simp [multilineLiteralBody, hnext]
  · simp [List.replicate, multilineLiteralBody]
  · simp [List.replicate, multilineLiteralBody]

theorem multilineLiteralBody_append {rest : List Char} (hrest : rest.head? ≠ some '\'')
    {text : List Char} (hplain : ∀ c ∈ text, c = '\n' ∨ isPlain c = true)
    (hruns : ¬ List.replicate 3 '\'' <:+: text) :
    multilineLiteralBody (text ++ '\'' :: '\'' :: '\'' :: rest) = some (text, rest) := by
  induction text with
  | nil => exact multilineLiteralBody_close (Nat.zero_le 2) hrest
  | cons c text ih =>
    -- the last one or two apostrophes are read together with the closing ones
    by_cases hone : c = '\'' ∧ text = []
    · obtain ⟨rfl, rfl⟩ := hone
      exact multilineLiteralBody_close (k := 1) (by decide) hrest
    by_cases htwo : c = '\'' ∧ text = ['\'']
    · obtain ⟨rfl, rfl⟩ := htwo
      exact multilineLiteralBody_close (k := 2) (by decide) hrest
    rw [List.forall_mem_cons] at hplain
    have hreturn : c ≠ '\r' := by
      rintro rfl
      revert hplain
      simp [isPlain]
    have htake : c = '\'' →
        (text ++ '\'' :: '\'' :: '\'' :: rest).take 2 ≠ ['\'', '\''] := by
      rintro rfl htake
      match text with
      | [] => exact hone ⟨rfl, rfl⟩
      | [x] =>
        simp at htake htwo
        exact htwo htake
      | x :: y :: text =>
        simp at htake
        obtain ⟨rfl, rfl⟩ := htake
        exact hruns ⟨[], text, rfl⟩
    rw [List.cons_append, multilineLiteralBody_cons htake hreturn hplain.1, ih hplain.2,
      before_some]
    exact fun h => hruns (h.trans (List.suffix_cons c text).isInfix)

/-! ## Strings of any style -/

theorem dropLineEnd_eq {text : List Char} (hline : text.head? ≠ some '\n')
    (hreturn : text.head? ≠ some '\r') : dropLineEnd text = text := by
  rw [dropLineEnd.eq_def]
  split <;> simp_all

/-- The line end after three quotes, if there is one, is not part of the string. -/
theorem dropLineEnd_append {text written : List Char}
    (h : '\n' ∉ text → written.head? ≠ some '\n' ∧ written.head? ≠ some '\r') :
    dropLineEnd ((if text.contains '\n' then ['\n'] else []) ++ written) = written := by
  split
  · rfl
  · rename_i hline
    have hmem : '\n' ∉ text := by simpa using hline
    exact dropLineEnd_eq (h hmem).1 (h hmem).2

theorem head?_escaped {text : List Char} (hne : text ≠ []) (hline : '\n' ∉ text)
    (rest : List Char) :
    (escaped true 2 0 text ++ rest).head? ≠ some '\n' ∧
      (escaped true 2 0 text ++ rest).head? ≠ some '\r' := by
  cases text with
  | nil => contradiction
  | cons c text =>
    have hc : c ≠ '\n' := fun h => hline (h ▸ List.mem_cons_self)
    rw [escaped]
    split
    · simp
    · rename_i hquote
      obtain ⟨x, behind, hx, -, hne⟩ := head?_of_escapes (escapes_escapeChar hquote hc)
      rw [hx]
      simpa using hne

theorem head?_append_ne {text : List Char} (hne : text ≠ [])
    (hcontrol : text.any isControl = false) (hline : '\n' ∉ text) (rest : List Char) :
    (text ++ rest).head? ≠ some '\n' ∧ (text ++ rest).head? ≠ some '\r' := by
  obtain ⟨c, behind, rfl⟩ := List.exists_cons_of_ne_nil hne
  rw [List.cons_append, List.head?_cons]
  refine ⟨fun h => hline (List.mem_of_head? h), fun h => ?_⟩
  exact absurd (List.any_eq_false.mp hcontrol '\r' (List.mem_of_head? h)) (by decide)

theorem string?_quote {text : List Char} (h : text.take 2 ≠ ['"', '"']) :
    string? ('"' :: text) = basicBody text := by
  rw [string?]
  rintro rest rfl
  exact h rfl

theorem string?_apostrophe {text : List Char} (h : text.take 2 ≠ ['\'', '\'']) :
    string? ('\'' :: text) = literalBody text := by
  rw [string?]
  rintro rest rfl
  exact h rfl

/-- Only one quote opens a string of one line, even an empty one. -/
theorem string?_basic (text : List Char) {rest : List Char} (hrest : rest.head? ≠ some '"') :
    string? ('"' :: escaped false 0 0 text ++ '"' :: rest) = some (text, rest) := by
  rw [List.cons_append, string?_quote, basicBody_escaped]
  cases text with
  | nil =>
    intro htake
    rw [escaped, List.nil_append, List.take_succ_cons, List.cons.injEq] at htake
    have hnext := congrArg List.head? htake.2
    rw [List.head?_take, if_neg (by decide)] at hnext
    exact hrest hnext
  | cons c text =>
    obtain ⟨written, hwritten, hcons⟩ := escaped_cons c 0 text
    obtain ⟨x, behind, rfl, hx, -⟩ := head?_of_escapes hwritten
    rw [hcons]
    intro htake
    rw [List.cons_append, List.cons_append, List.take_succ_cons, List.cons.injEq] at htake
    exact hx htake.1

theorem string?_literal {text : List Char} (hne : text ≠ [])
    (hplain : ∀ c ∈ text, isPlain c = true) (hquote : '\'' ∉ text) (rest : List Char) :
    string? ('\'' :: text ++ '\'' :: rest) = some (text, rest) := by
  rw [List.cons_append, string?_apostrophe, literalBody_append hplain hquote]
  cases text with
  | nil => contradiction
  | cons c text =>
    intro htake
    rw [List.cons_append, List.take_succ_cons, List.cons.injEq] at htake
    exact hquote (htake.1 ▸ List.mem_cons_self)

/-- A style without escapes is only taken for a string that needs none. -/
theorem styleFor_literal {text : List Char} (h : styleFor text = .literal) :
    text.any isControl = false ∧ longestRun '\'' 0 0 text = 0 ∧ '\n' ∉ text := by
  unfold styleFor at h
  grind

theorem styleFor_multilineLiteral {text : List Char} (h : styleFor text = .multilineLiteral) :
    text.any isControl = false ∧ longestRun '\'' 0 0 text ≤ 2 := by
  unfold styleFor at h
  grind

/-- A string is read back, whatever its style, unless further quotes follow. -/
theorem string?_writeString (text : String) (rest : List Char)
    (hquote : rest.head? ≠ some '"') (hapostrophe : rest.head? ≠ some '\'') :
    string? (writeString text ++ rest) = some (text.toList, rest) := by
  unfold writeString
  generalize text.toList = chars
  dsimp only
  -- the empty string has the first style, so in the others there is a first character
  by_cases hempty : chars = []
  · subst hempty
    exact string?_basic [] hquote
  have hplain : chars.any isControl = false → ∀ c ∈ chars, c = '\n' ∨ isPlain c = true := by
    intro hcontrol c hc
    by_cases hline : c = '\n'
    · exact .inl hline
    · have hraw := List.any_eq_false.mp hcontrol c hc
      exact .inr (isPlain_of_not_isControl (by simpa using hraw) hline)
  split
  · rw [List.append_assoc]
    exact string?_basic chars hquote
  · rename_i hstyle
    obtain ⟨hcontrol, hnone, hline⟩ := styleFor_literal hstyle
    rw [List.append_assoc]
    refine string?_literal hempty (fun c hc => ?_) (not_mem_of_longestRun_eq_zero hnone) rest
    exact (hplain hcontrol c hc).resolve_left fun h => hline (h ▸ hc)
  · simp only [List.append_assoc, List.cons_append, List.nil_append, string?]
    rw [dropLineEnd_append fun hline => head?_escaped hempty hline _]
    exact multilineBasicBody_escaped hquote chars 0
  · rename_i hstyle
    obtain ⟨hcontrol, hruns⟩ := styleFor_multilineLiteral hstyle
    simp only [List.append_assoc, List.cons_append, List.nil_append, string?]
    rw [dropLineEnd_append fun hline => head?_append_ne hempty hcontrol hline _]
    refine multilineLiteralBody_append hapostrophe (hplain hcontrol) ?_
    rintro ⟨front, behind, rfl⟩
    have := le_longestRun '\'' 3 behind front 0 0
    omega

end ComponentLikeness.Toml
