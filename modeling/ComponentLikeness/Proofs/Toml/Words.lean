import ComponentLikeness.Proofs.Number.DecimalTexts
import ComponentLikeness.Toml.Scalar
import ComponentLikeness.Toml.Writer

/-!
# Words read back

A scalar that is no string is written as one word, which ends with its line. A word of digits
is read as the whole number that it stands for (`ofWord?_toDigits`), the text of a double as
the double (`ofWord?_writeFloat`). None of them is taken for a date or a time, since these
need marks between their first digits.
-/

namespace ComponentLikeness.Toml

open Number

/-! ## Characters -/

theorem isWordChar_of_isDigit {c : Char} (h : c.isDigit = true) : isWordChar c = true := by
  simp [isWordChar, Char.isAlphanum, h]

/-- A character that belongs to a class is none of those that do not. -/
theorem ne_of_true_of_false {p : Char → Bool} {c d : Char} (h : p c = true) (hd : p d = false) :
    c ≠ d := by
  rintro rfl
  rw [h] at hd
  cases hd

/-- A word ends at the end of its line. -/
theorem word?_append {word : List Char} (h : ∀ c ∈ word, isWordChar c = true)
    (rest : List Char) : word? (word ++ '\n' :: rest) = (ofWord? word).map (·, '\n' :: rest) := by
  have htake := Text.takeWhile_append_mark h (show isWordChar '\n' = false from rfl) rest
  have hdrop := Text.dropWhile_append_mark h (show isWordChar '\n' = false from rfl) rest
  simp only [word?, htake, hdrop]
  rfl

/-! ## Dates and times -/

theorem fixedDigits?_minus (count : Nat) (text : List Char) :
    fixedDigits? (count + 1) ('-' :: text) = none := by
  simp [fixedDigits?]

theorem not_mem_of_fixedDigits? {mark : Char} {count n : Nat} {text rest : List Char}
    (hmark : mark ∉ text) (h : fixedDigits? count text = some (n, rest)) : mark ∉ rest := by
  unfold fixedDigits? at h
  dsimp only at h
  split at h
  · cases h
    exact fun hmem => hmark (List.mem_of_mem_drop hmem)
  · cases h

/-- A date has a mark behind its first digits. -/
theorem date?_eq_none {text : List Char} (h : '-' ∉ text) : date? text = none := by
  unfold date?
  cases hyear : fixedDigits? 4 text with
  | none => rfl
  | some found =>
    have hmark := not_mem_of_fixedDigits? h hyear
    simp only [Option.bind_eq_bind, Option.bind_some]
    split
    · simp_all
    · rfl

/-- So has a time. -/
theorem time?_eq_none {text : List Char} (h : ':' ∉ text) : time? text = none := by
  unfold time?
  cases hhour : fixedDigits? 2 text with
  | none => rfl
  | some found =>
    have hmark := not_mem_of_fixedDigits? h hhour
    simp only [Option.bind_eq_bind, Option.bind_some]
    split
    · simp_all
    · rfl

/-- A number is no date and no time. -/
theorem isDateTime_eq_false {text : List Char} (hdate : '-' ∉ text) (htime : ':' ∉ text)
    (negative : Bool) : isDateTime ((if negative then ['-'] else []) ++ text) = false := by
  cases negative with
  | false => simp [isDateTime, date?_eq_none hdate, time?_eq_none htime]
  | true =>
    have hdate' : date? ('-' :: text) = none := by simp [date?, fixedDigits?_minus]
    have htime' : time? ('-' :: text) = none := by simp [time?, fixedDigits?_minus]
    simp [isDateTime, hdate', htime']

/-! ## Whole numbers -/

theorem digits?_eq_some {digits : List Char} (h : ∀ c ∈ digits, c.isDigit = true)
    (hne : digits ≠ []) : digits? Char.isDigit digits = some digits := by
  induction digits with
  | nil => exact absurd rfl hne
  | cons c rest ih =>
    rw [List.forall_mem_cons] at h
    cases rest with
    | nil => simp [digits?, h.1]
    | cons d rest =>
      have hd : d ≠ '_' := ne_of_true_of_false (h.2 d List.mem_cons_self) rfl
      rw [digits?, if_pos h.1, ih h.2 (List.cons_ne_nil d rest)]
      · rfl
      · simp
      · simp [hd]

theorem decimalDigits?_eq_some {digits : List Char} (h : ∀ c ∈ digits, c.isDigit = true)
    (hne : digits ≠ []) (hzero : digits.head? ≠ some '0' ∨ digits.length = 1) :
    decimalDigits? digits = some digits := by
  unfold decimalDigits?
  rw [digits?_eq_some h hne]
  rcases hzero with hzero | hzero <;> simp [Option.filter, hzero]

/-- Digits of the base ten have their usual value. -/
theorem valueToBase_ten {digits : List Char} (h : ∀ c ∈ digits, c.isDigit = true) :
    valueToBase 10 digits = digitsValue digits := by
  unfold valueToBase digitsValue
  refine List.foldl_ext _ _ 0 fun n c hc => ?_
  have hdigit := h c hc
  simp only [Char.isDigit, Bool.and_eq_true, decide_eq_true_eq] at hdigit
  have hvalue : hexDigit? c = some (c.toNat - '0'.toNat) := by
    unfold hexDigit?
    rw [if_pos]
    rw [Bool.and_eq_true, decide_eq_true_eq, decide_eq_true_eq]
    exact hdigit
  rw [hvalue, Option.getD_some]

theorem integer?_digits {digits : List Char} (h : ∀ c ∈ digits, c.isDigit = true)
    (hne : digits ≠ []) (hzero : digits.head? ≠ some '0' ∨ digits.length = 1) :
    integer? digits = inRange (digitsValue digits) := by
  unfold integer?
  dsimp only
  split
  · simp at h
  · simp at h
  · simp at h
  · have hsign : splitSign digits = (false, digits) := by
      unfold splitSign
      split <;> simp_all
    rw [hsign, decimalDigits?_eq_some h hne hzero, Option.bind_some, valueToBase_ten h,
      if_neg Bool.false_ne_true]

/-! ## Floats -/

/-- Behind its sign, what begins with a digit is neither infinite nor no number. -/
theorem float?_digit {c : Char} (hc : c.isDigit = true) (rest : List Char) (negative : Bool) :
    float? ((if negative then ['-'] else []) ++ c :: rest) = plainFloat? negative (c :: rest) := by
  have hsign :
      splitSign ((if negative then ['-'] else []) ++ c :: rest) = (negative, c :: rest) := by
    cases negative with
    | true => rfl
    | false =>
      simp only [Bool.false_eq_true, if_false, List.nil_append, splitSign]
      split <;> simp_all
  have hi : c ≠ 'i' := ne_of_true_of_false hc rfl
  have hn : c ≠ 'n' := ne_of_true_of_false hc rfl
  simp [float?, hsign, hi, hn]

theorem endsWhole_eq_false {c : Char} (h : c.isDigit = true) : endsWhole c = false := by
  have hpoint : c ≠ '.' := ne_of_true_of_false h rfl
  have hsmall : c ≠ 'e' := ne_of_true_of_false h rfl
  have hcapital : c ≠ 'E' := ne_of_true_of_false h rfl
  simp [endsWhole, hpoint, hsmall, hcapital]

/-- Digits alone are no float. -/
theorem plainFloat?_digits {digits : List Char} (h : ∀ c ∈ digits, c.isDigit = true)
    (negative : Bool) : plainFloat? negative digits = none := by
  have hdrop : digits.dropWhile (fun c => !endsWhole c) = [] :=
    List.dropWhile_eq_nil_iff.mpr fun c hc => by simp [endsWhole_eq_false (h c hc)]
  simp [plainFloat?, hdrop, floatTail?, floatExponent?]

theorem plainFloat?_pointDigits {whole fraction : List Char} (h : PointDigits whole fraction)
    {negative : Bool} {v : ℚ}
    (hread : plainNumber? negative (whole ++ '.' :: fraction) = some (.finite negative v)) :
    plainFloat? negative (whole ++ '.' :: fraction) = some (.finite negative v) := by
  have hwhole : ∀ c ∈ whole, (!endsWhole c) = true := fun c hc => by
    simp [endsWhole_eq_false (h.isDigit_whole c hc)]
  have hfraction : ∀ c ∈ fraction, (!endsWhole c) = true := fun c hc => by
    simp [endsWhole_eq_false (h.isDigit_fraction c hc)]
  have htake := Text.takeWhile_append_mark hwhole (show (!endsWhole '.') = false from rfl) fraction
  have hdrop := Text.dropWhile_append_mark hwhole (show (!endsWhole '.') = false from rfl) fraction
  have htake' : fraction.takeWhile (fun c => !endsWhole c) = fraction :=
    List.takeWhile_eq_self_iff.mpr hfraction
  have hdrop' : fraction.dropWhile (fun c => !endsWhole c) = [] :=
    List.dropWhile_eq_nil_iff.mpr hfraction
  have htail : floatTail? ('.' :: fraction) = some ('.' :: fraction) := by
    simp [floatTail?, htake', hdrop', digits?_eq_some h.isDigit_fraction h.fraction_ne_nil]
  simp [plainFloat?, htake, hdrop, htail, hread,
    decimalDigits?_eq_some h.isDigit_whole h.whole_ne_nil h.no_needless_zero]

/-! ## Words -/

/-- The words that scalars other than strings are written as. -/
theorem ofWord?_of_isDigit {c : Char} (hc : c.isDigit = true) {rest : List Char}
    (hdate : '-' ∉ c :: rest) (htime : ':' ∉ c :: rest) (negative : Bool) :
    ofWord? ((if negative then ['-'] else []) ++ c :: rest) =
      ((plainFloat? negative (c :: rest)).map .float).or
        ((integer? ((if negative then ['-'] else []) ++ c :: rest)).map .integer) := by
  have ht : c ≠ 't' := ne_of_true_of_false hc rfl
  have hf : c ≠ 'f' := ne_of_true_of_false hc rfl
  unfold ofWord?
  rw [isDateTime_eq_false hdate htime, float?_digit hc, if_neg, if_neg]
  · rfl
  · cases negative <;> simp [hf]
  · cases negative <;> simp [ht]

theorem inRange_natCast {n : Nat} (h : n < integerBound) : inRange n = some (n : Int) := by
  unfold inRange
  generalize integerBound = bound at h
  rw [if_pos]
  rw [Bool.and_eq_true, decide_eq_true_eq, decide_eq_true_eq]
  omega

/-- A whole number in range is read as itself. -/
theorem ofWord?_toDigits {n : Nat} (h : n < integerBound) :
    ofWord? (Nat.toDigits 10 n) = some (.integer n) := by
  have hdigit := isDigit_toDigits n
  have hne := toDigits_ne_nil n
  have hinteger := integer?_digits hdigit hne (head?_toDigits n)
  rw [digitsValue_toDigits, inRange_natCast h] at hinteger
  have hfloat := plainFloat?_digits hdigit false
  obtain ⟨c, rest, hcons⟩ := List.exists_cons_of_ne_nil hne
  rw [hcons] at hdigit hinteger hfloat ⊢
  have hmark : ∀ mark : Char, mark.isDigit = false → mark ∉ c :: rest := fun mark hno hmem =>
    ne_of_true_of_false (hdigit mark hmem) hno rfl
  have hword := ofWord?_of_isDigit (hdigit c List.mem_cons_self) (hmark '-' rfl) (hmark ':' rfl)
    false
  rw [hfloat] at hword
  simpa [hinteger] using hword

/-- A double is one word. -/
theorem isWordChar_writeFloat {x : Binary64} (h : x.IsDouble) :
    writeFloat x ≠ [] ∧ ∀ c ∈ writeFloat x, isWordChar c = true := by
  cases x with
  | nan negative =>
    cases negative <;> exact ⟨List.cons_ne_nil _ _, List.all_eq_true.mp rfl⟩
  | infinite negative =>
    cases negative <;> exact ⟨List.cons_ne_nil _ _, List.all_eq_true.mp rfl⟩
  | finite negative v =>
    obtain ⟨whole, fraction, hpoint, htext, -⟩ := exists_pointDigits_toText h negative
    rw [writeFloat, if_neg (by simp [Binary64.isNaN]), htext]
    refine ⟨by simp, fun c hc => ?_⟩
    simp only [List.mem_append, List.mem_cons] at hc
    rcases hc with hc | hc | hc | hc
    · cases negative with
      | true =>
        rw [List.mem_singleton.mp hc]
        rfl
      | false => cases hc
    · exact isWordChar_of_isDigit (hpoint.isDigit_whole c hc)
    · rw [hc]
      rfl
    · exact isWordChar_of_isDigit (hpoint.isDigit_fraction c hc)

/-- A double is read as itself, but for the sign of a NaN. -/
theorem ofWord?_writeFloat {x : Binary64} (h : x.IsDouble) (hnan : x ≠ .nan true) :
    ofWord? (writeFloat x) = some (.float x) := by
  cases x with
  | nan negative =>
    cases negative with
    | true => contradiction
    | false => rfl
  | infinite negative => cases negative <;> rfl
  | finite negative v =>
    obtain ⟨whole, fraction, hpoint, htext, hread⟩ := exists_pointDigits_toText h negative
    have hfloat := plainFloat?_pointDigits hpoint hread
    have hmark : ∀ mark : Char, mark ≠ '.' → mark.isDigit = false →
        mark ∉ whole ++ '.' :: fraction := by
      intro mark hpointless hdigit hmem
      rcases List.mem_append.mp hmem with hmem | hmem
      · exact ne_of_true_of_false (hpoint.isDigit_whole mark hmem) hdigit rfl
      · rcases List.mem_cons.mp hmem with hmem | hmem
        · exact hpointless hmem
        · exact ne_of_true_of_false (hpoint.isDigit_fraction mark hmem) hdigit rfl
    have hdate := hmark '-' (by decide) rfl
    have htime := hmark ':' (by decide) rfl
    rw [writeFloat, if_neg (by simp [Binary64.isNaN]), htext]
    obtain ⟨c, rest, hcons⟩ := List.exists_cons_of_ne_nil hpoint.whole_ne_nil
    have hc := hpoint.isDigit_whole c (hcons ▸ List.mem_cons_self)
    rw [hcons, List.cons_append] at hfloat hdate htime ⊢
    rw [ofWord?_of_isDigit hc hdate htime, hfloat, Option.map_some, Option.some_or]

end ComponentLikeness.Toml
