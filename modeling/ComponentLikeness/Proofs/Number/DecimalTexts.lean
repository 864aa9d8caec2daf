import ComponentLikeness.Proofs.Number.ShortestDecimals
import ComponentLikeness.Proofs.Text.Marks
import Mathlib.Data.List.TakeWhile

/-!
# Decimal texts read back

A number is written with digits on both sides of a point and no needless zero in front.
Moving the point and leaving out zeros at the end keep the value (`pointValue_append_zeros`),
so the text of a number of the format has the value of its shortest decimal
(`exists_pointDigits_positional`) and reads back as the number (`exists_pointDigits_toText`).
-/

namespace ComponentLikeness.Number

open Binary64

/-! ## Digits -/

theorem digitsValue_eq (digits : List Char) :
    digitsValue digits = Nat.ofDigitChars 10 digits 0 := Nat.ofDigitChars_eq_foldl.symm

theorem isDigit_toDigits (m : Nat) : ∀ c ∈ Nat.toDigits 10 m, c.isDigit = true :=
  fun _ hc => Nat.isDigit_of_mem_toDigits (by decide) (by decide) hc

theorem toDigits_ne_nil (m : Nat) : Nat.toDigits 10 m ≠ [] :=
  List.ne_nil_of_length_pos Nat.length_toDigits_pos

theorem digitsValue_toDigits (m : Nat) : digitsValue (Nat.toDigits 10 m) = m := by
  rw [digitsValue_eq, Nat.ofDigitChars_ten_toDigits]

theorem digitsValue_append_zeros (digits : List Char) (k : Nat) :
    digitsValue (digits ++ List.replicate k '0') = 10 ^ k * digitsValue digits := by
  rw [digitsValue_eq, digitsValue_eq, Nat.ofDigitChars_append, Nat.ofDigitChars_replicate_zero]

theorem digitsValue_zeros_append (k : Nat) (digits : List Char) :
    digitsValue (List.replicate k '0' ++ digits) = digitsValue digits := by
  rw [digitsValue_eq, digitsValue_eq, Nat.ofDigitChars_append, Nat.ofDigitChars_replicate_zero,
    Nat.mul_zero]

/-- No positive number begins with a zero. -/
theorem head?_toDigits_ne_zero {m : Nat} (hm : m ≠ 0) : (Nat.toDigits 10 m).head? ≠ some '0' := by
  induction m using Nat.strong_induction_on with
  | _ m ih =>
    rw [Nat.toDigits_eq_if (by decide)]
    split
    · rename_i hlt
      interval_cases m <;> first | contradiction | decide
    · rename_i hge
      rw [List.head?_append_of_ne_nil _ (toDigits_ne_nil (m / 10))]
      exact ih (m / 10) (by omega) (by omega)

/-- No number is written with a needless zero in front. -/
theorem head?_toDigits (m : Nat) :
    (Nat.toDigits 10 m).head? ≠ some '0' ∨ (Nat.toDigits 10 m).length = 1 := by
  by_cases hm : m = 0
  · subst hm
    exact .inr rfl
  · exact .inl (head?_toDigits_ne_zero hm)

/-- What is left out at the end are zeros. -/
theorem exists_eq_append_zeros (digits : List Char) :
    ∃ k, digits =
      (digits.reverse.dropWhile (· = '0')).reverse ++ List.replicate k '0' := by
  have hsplit := List.takeWhile_append_dropWhile (p := (· = '0')) (l := digits.reverse)
  have hzeros : digits.reverse.takeWhile (· = '0') =
      List.replicate (digits.reverse.takeWhile (· = '0')).length '0' := by
    refine List.eq_replicate_of_mem fun c hc => ?_
    simpa using List.mem_takeWhile_imp hc
  rw [hzeros] at hsplit
  have hback := congrArg List.reverse hsplit
  rw [List.reverse_append, List.reverse_replicate, List.reverse_reverse] at hback
  exact ⟨_, hback.symm⟩

/-! ## Digits around a point -/

/-- Digits on both sides of a point, as numbers are written. -/
structure PointDigits (whole fraction : List Char) : Prop where
  isDigit_whole : ∀ c ∈ whole, c.isDigit = true
  isDigit_fraction : ∀ c ∈ fraction, c.isDigit = true
  whole_ne_nil : whole ≠ []
  fraction_ne_nil : fraction ≠ []
  no_needless_zero : whole.head? ≠ some '0' ∨ whole.length = 1

/-- The value of digits around a point. -/
def pointValue (whole fraction : List Char) : ℚ :=
  digitsValue (whole ++ fraction) * 10 ^ (-fraction.length : Int)

/-- Zeros at the end have no value. -/
theorem pointValue_append_zeros (whole fraction : List Char) (k : Nat) :
    pointValue whole (fraction ++ List.replicate k '0') = pointValue whole fraction := by
  unfold pointValue
  rw [← List.append_assoc, digitsValue_append_zeros, List.length_append, List.length_replicate]
  push_cast
  rw [neg_add, zpow_add₀ (by norm_num), zpow_neg 10 (k : Int), zpow_natCast]
  field_simp

/-- A digit of a fraction that is not empty stays, a zero if need be. -/
theorem pointValue_kept (whole : List Char) {fraction kept : List Char}
    (hkept : kept = (fraction.reverse.dropWhile (· = '0')).reverse) :
    pointValue whole (if kept.isEmpty then ['0'] else kept) = pointValue whole fraction := by
  obtain ⟨k, hk⟩ := exists_eq_append_zeros fraction
  rw [← hkept] at hk
  conv_rhs => rw [hk, pointValue_append_zeros]
  split
  · rename_i hempty
    rw [List.isEmpty_iff] at hempty
    subst hempty
    exact pointValue_append_zeros whole [] 1
  · rfl

section Writing

variable {digits : List Char}

theorem isDigit_of_mem_append_zeros {c : Char} {k : Nat} (hdigit : ∀ c ∈ digits, c.isDigit = true)
    (hc : c ∈ digits ∨ c ∈ List.replicate k '0') : c.isDigit = true := by
  rcases hc with hc | hc
  · exact hdigit c hc
  · rw [List.eq_of_mem_replicate hc]
    rfl

/-- A whole number is written with zeros up to the point. -/
theorem pointDigits_whole (hdigit : ∀ c ∈ digits, c.isDigit = true) (hne : digits ≠ [])
    (hhead : digits.head? ≠ some '0') (k : Nat) :
    PointDigits (digits ++ List.replicate k '0') ['0'] where
  isDigit_whole _ hc := isDigit_of_mem_append_zeros hdigit (List.mem_append.mp hc)
  isDigit_fraction := List.forall_mem_singleton.mpr rfl
  whole_ne_nil h := hne (List.append_eq_nil_iff.mp h).1
  fraction_ne_nil := by decide
  no_needless_zero := .inl (by rwa [List.head?_append_of_ne_nil _ hne])

/-- A fraction is padded up to a digit before the point, and its last zeros are left out. -/
theorem pointDigits_fraction (hdigit : ∀ c ∈ digits, c.isDigit = true)
    (hhead : digits.head? ≠ some '0') {places : Nat} {padded kept : List Char}
    (hpadded : padded = List.replicate (places + 1 - digits.length) '0' ++ digits)
    (hkept : kept = ((padded.drop (padded.length - places)).reverse.dropWhile (· = '0')).reverse) :
    PointDigits (padded.take (padded.length - places))
      (if kept.isEmpty then ['0'] else kept) := by
  have hsize : padded.length = max (places + 1) digits.length := by
    rw [hpadded, List.length_append, List.length_replicate]
    omega
  have hpadding : ∀ c ∈ padded, c.isDigit = true := by
    intro c hc
    rw [hpadded, List.mem_append] at hc
    exact isDigit_of_mem_append_zeros hdigit hc.symm
  have hwhole : (padded.take (padded.length - places)).length = padded.length - places := by
    rw [List.length_take]
    omega
  refine ⟨fun c hc => hpadding c (List.mem_of_mem_take hc), ?_, ?_, ?_, ?_⟩
  · intro c hc
    split at hc
    · rw [List.mem_singleton.mp hc]
      rfl
    · rw [hkept, List.mem_reverse] at hc
      have hmem := (List.dropWhile_sublist _).mem hc
      exact hpadding c (List.mem_of_mem_drop (List.mem_reverse.mp hmem))
  · intro h
    rw [h, List.length_nil] at hwhole
    omega
  · split
    · decide
    · rename_i hempty
      simpa using hempty
  · -- the padding stops at the digit before the point
    by_cases hlong : digits.length ≤ places + 1
    · exact .inr (by omega)
    · left
      have hzero : places + 1 - digits.length = 0 := by omega
      rw [hzero, List.replicate_zero, List.nil_append] at hpadded
      rw [List.head?_take, if_neg (by omega), hpadded]
      exact hhead

end Writing

/-- A written number has the value that was to be written. -/
theorem exists_pointDigits_positional {m : Nat} (hm : m ≠ 0) (e : Int) :
    ∃ whole fraction, PointDigits whole fraction ∧
      (positional m e).toList = whole ++ '.' :: fraction ∧
      pointValue whole fraction = m * 10 ^ e := by
  have hdigit := isDigit_toDigits m
  have hne := toDigits_ne_nil m
  have hhead := head?_toDigits_ne_zero hm
  have hvalue := digitsValue_toDigits m
  unfold positional
  generalize Nat.toDigits 10 m = digits at *
  dsimp only
  split
  · rename_i he
    obtain ⟨k, rfl⟩ := Int.eq_ofNat_of_zero_le he
    refine ⟨_, _, pointDigits_whole hdigit hne hhead k, by simp, ?_⟩
    refine (pointValue_append_zeros _ [] 1).trans ?_
    unfold pointValue
    rw [List.append_nil, digitsValue_append_zeros, hvalue]
    push_cast
    simp [mul_comm]
  · rename_i he
    obtain ⟨places, rfl⟩ : ∃ k : Nat, e = -k := ⟨(-e).toNat, by omega⟩
    rw [neg_neg, Int.toNat_natCast]
    refine ⟨_, _, pointDigits_fraction hdigit hhead rfl rfl, String.toList_ofList, ?_⟩
    rw [pointValue_kept _ rfl]
    unfold pointValue
    rw [List.take_append_drop, digitsValue_zeros_append, hvalue, List.length_drop,
      List.length_append, List.length_replicate]
    congr 2
    omega

/-! ## Reading what was written -/

theorem plainNumber?_pointDigits {whole fraction : List Char} (h : PointDigits whole fraction)
    (negative : Bool) : plainNumber? negative (whole ++ '.' :: fraction) =
      some (ofScientific negative (digitsValue (whole ++ fraction)) (-fraction.length)) := by
  have htake := Text.takeWhile_append_mark h.isDigit_whole (show '.'.isDigit = false from rfl)
    fraction
  have hdrop := Text.dropWhile_append_mark h.isDigit_whole (show '.'.isDigit = false from rfl)
    fraction
  have htake' : fraction.takeWhile Char.isDigit = fraction :=
    List.takeWhile_eq_self_iff.mpr h.isDigit_fraction
  have hdrop' : fraction.dropWhile Char.isDigit = [] :=
    List.dropWhile_eq_nil_iff.mpr h.isDigit_fraction
  simp only [plainNumber?, htake, hdrop, htake', hdrop', exponent?]
  simp [h.whole_ne_nil]

/-- A finite number is written with digits around a point, which read back as the number. -/
theorem exists_pointDigits_toText {v : ℚ} (hv : IsMagnitude v) (negative : Bool) :
    ∃ whole fraction, PointDigits whole fraction ∧
      (Binary64.finite negative v).toText.toList =
        (if negative then ['-'] else []) ++ (whole ++ '.' :: fraction) ∧
      plainNumber? negative (whole ++ '.' :: fraction) = some (.finite negative v) := by
  have hsign : (if negative then "-" else "").toList = if negative then ['-'] else [] := by
    cases negative <;> rfl
  rcases hv.nonneg.eq_or_lt with hzero | hpos
  · subst hzero
    have hdigit : ∀ c ∈ ['0'], c.isDigit = true := List.forall_mem_singleton.mpr rfl
    refine ⟨['0'], ['0'], ⟨hdigit, hdigit, by decide, by decide, .inr rfl⟩, ?_, ?_⟩
    · cases negative <;> rfl
    · cases negative <;> decide
  · have hback := readsBack_shortest hv hpos
    have hm : (shortest v).1 ≠ 0 := by
      intro h
      rw [h, Nat.cast_zero, zero_mul, rounded_zero] at hback
      exact hpos.ne hback
    obtain ⟨whole, fraction, hpoint, htext, hvalue⟩ :=
      exists_pointDigits_positional hm (shortest v).2
    refine ⟨whole, fraction, hpoint, ?_, ?_⟩
    · simp only [toText, if_neg hpos.ne', String.toList_append, htext, hsign]
    · rw [plainNumber?_pointDigits hpoint, (ofScientific_eq_finite_iff hv _ _ _).mpr]
      rw [← hback, ← hvalue]
      rfl

end ComponentLikeness.Number
