import ComponentLikeness.Settings.Validity
import Mathlib.Data.List.TakeWhile

/-!
# The rules of settings

What breaks a rule is said without a program (`Settings.Rule.Broken`): a threshold
that is no number between zero and one, a style attribute that is blank, a limit
of zero, an extension that consists of dots. The error for settings is that of the
first rule that they break (`Settings.fault_eq_find?`), so settings are refused
exactly if they break a rule.
-/

namespace ComponentLikeness

open Number Text

/-! ## Single values -/

/-- Trimming leaves nothing of a text exactly if it is blank. -/
theorem Text.trim_isEmpty_iff {text : String} :
    (trim text).isEmpty = true ↔ ∀ c ∈ text.toList, isBlank c = true := by
  rw [trim, String.isEmpty_iff, String.ofList_eq_empty_iff, List.reverse_eq_nil_iff,
    List.dropWhile_eq_nil_iff]
  constructor
  · intro h c hc
    rw [← List.takeWhile_append_dropWhile (p := isBlank) (l := text.toList),
      List.mem_append] at hc
    rcases hc with hc | hc
    · exact List.mem_takeWhile_imp hc
    · exact h c (List.mem_reverse.mpr hc)
  · intro h c hc
    exact h c ((List.dropWhile_sublist _).subset (List.mem_reverse.mp hc))

/-- Nothing but leading dots is in an extension exactly if all of it is dots. -/
theorem dropDots_isEmpty_iff {extension : String} :
    (dropDots extension).isEmpty = true ↔ ∀ c ∈ extension.toList, c = '.' := by
  rw [dropDots, List.isEmpty_iff, List.dropWhile_eq_nil_iff]
  simp

/-- The number is finite and lies between zero and one. -/
inductive Number.Binary64.IsShare : Binary64 → Prop
  | finite {negative : Bool} {magnitude : Rat} (hlow : 0 ≤ signed negative magnitude)
      (hhigh : signed negative magnitude ≤ 1) : IsShare (.finite negative magnitude)

theorem Settings.isShare_iff {x : Binary64} : isShare x = true ↔ x.IsShare := by
  have hzero : Binary64.signed false 0 = 0 := rfl
  have hone : Binary64.signed false 1 = 1 := rfl
  cases x with
  | nan negative => exact ⟨nofun, nofun⟩
  | infinite negative => cases negative <;> exact ⟨nofun, nofun⟩
  | finite negative magnitude =>
    have hbounds : isShare (.finite negative magnitude) = true ↔
        0 ≤ Binary64.signed negative magnitude ∧ Binary64.signed negative magnitude ≤ 1 := by
      simp only [isShare, Binary64.le, Binary64.lt, hzero, hone, Bool.and_eq_true,
        Bool.not_eq_true', decide_eq_false_iff_not, Rat.not_lt]
    rw [hbounds]
    constructor
    · exact fun ⟨hlow, hhigh⟩ => .finite hlow hhigh
    · rintro ⟨hlow, hhigh⟩
      exact ⟨hlow, hhigh⟩

namespace Settings

/-! ## Rules -/

/-- What settings are checked for, each rule named by the setting it is about. -/
inductive Rule where
  | noveltyThreshold
  | styleAttributes
  | maxDepth
  | extensions
  | maxFileSize

namespace Rule

/-- The rules in the order in which they are looked at. -/
def all : List Rule := [noveltyThreshold, styleAttributes, maxDepth, extensions, maxFileSize]

theorem mem_all (rule : Rule) : rule ∈ all := by
  cases rule <;> simp [all]

/-- The value of the setting breaks the rule. A setting that is open breaks none. -/
def Broken (s : Settings) : Rule → Prop
  | noveltyThreshold => ∃ x, s.analysis.noveltyThreshold = some x ∧ ¬x.IsShare
  | styleAttributes => ∃ name ∈ s.analysis.styleAttributes, ∀ c ∈ name.toList, isBlank c = true
  | maxDepth => s.analysis.maxDepth = some 0
  | extensions => ∃ extension ∈ s.corpus.extensions, ∀ c ∈ extension.toList, c = '.'
  | maxFileSize => s.corpus.maxFileSize = some 0

/-- Whether settings pass the check of the rule. -/
def passes (s : Settings) : Rule → Bool
  | noveltyThreshold => s.thresholdFits
  | styleAttributes => s.styleAttributesFit
  | maxDepth => s.maxDepthFits
  | extensions => s.extensionsFit
  | maxFileSize => s.maxFileSizeFits

/-- What is said to settings that break the rule. -/
def error : Rule → ConfigError
  | noveltyThreshold => .invalidValue "analysis.novelty_threshold" "must be between 0.0 and 1.0"
  | styleAttributes => .invalidValue "analysis.style_attributes" "attribute names must not be empty"
  | maxDepth => .invalidValue "analysis.max_depth" "must be greater than 0"
  | extensions => .invalidValue "corpus.extensions" "extensions must not be empty"
  | maxFileSize => .invalidValue "corpus.max_file_size" "must be greater than 0"

theorem exists_error_eq (rule : Rule) :
    ∃ field message, rule.error = .invalidValue field message := by
  cases rule <;> exact ⟨_, _, rfl⟩

/-- The error tells which rule is broken. -/
theorem error_injective : Function.Injective error := by
  intro rule rule' h
  cases rule <;> cases rule' <;> first | rfl | simp [error] at h

/-- The check of a rule finds exactly the settings that break it. -/
theorem passes_eq_false_iff {s : Settings} (rule : Rule) :
    rule.passes s = false ↔ rule.Broken s := by
  cases rule with
  | noveltyThreshold =>
    simp only [passes, thresholdFits, Option.all_eq_false, Broken,
      ← isShare_iff, Bool.not_eq_true]
  | styleAttributes =>
    simp only [passes, styleAttributesFit, List.all_eq_false, Broken,
      ← trim_isEmpty_iff, Bool.not_eq_true', Bool.not_eq_false]
  | maxDepth =>
    simp [passes, maxDepthFits, Option.all_eq_false, Broken]
  | extensions =>
    simp only [passes, extensionsFit, List.all_eq_false, Broken,
      ← dropDots_isEmpty_iff, Bool.not_eq_true', Bool.not_eq_false]
  | maxFileSize =>
    simp [passes, maxFileSizeFits, Option.all_eq_false, Broken]

/-- The rule is broken, and none is that is looked at before it. -/
structure FirstBroken (s : Settings) (rule : Rule) : Prop where
  broken : rule.Broken s
  earlier : ∃ before after, all = before ++ rule :: after ∧ ∀ rule' ∈ before, ¬rule'.Broken s

theorem firstBroken_of_find?_eq_some {s : Settings} {rule : Rule}
    (h : (all.find? fun rule => !rule.passes s) = some rule) : rule.FirstBroken s := by
  obtain ⟨hfails, before, after, hall, hbefore⟩ := List.find?_eq_some_iff_append.mp h
  refine ⟨?_, before, after, hall, fun rule' hmem hbroken => ?_⟩
  · exact rule.passes_eq_false_iff.mp (by simpa using hfails)
  · have hpasses := hbefore rule' hmem
    simp [rule'.passes_eq_false_iff.mpr hbroken] at hpasses

end Rule

/-! ## Refused settings -/

variable {s : Settings}

/-- The error for settings is that of the first rule whose check they fail. -/
theorem fault_eq_find? (s : Settings) :
    s.fault = (Rule.all.find? fun rule => !rule.passes s).map Rule.error := by
  simp only [Rule.all, List.find?_cons, Rule.passes, fault]
  -- the first check that fails settles both sides
  cases s.thresholdFits
  · rfl
  cases s.styleAttributesFit
  · rfl
  cases s.maxDepthFits
  · rfl
  cases s.extensionsFit
  · rfl
  cases s.maxFileSizeFits <;> rfl

/-- Settings are accepted exactly if they break no rule. -/
theorem fault_eq_none_iff : s.fault = none ↔ ∀ rule : Rule, ¬rule.Broken s := by
  rw [fault_eq_find?, Option.map_eq_none_iff, List.find?_eq_none]
  simp only [Rule.mem_all, forall_const, Bool.not_eq_true', Rule.passes_eq_false_iff]

/-- Settings are accepted as they are, or refused with the error of the first rule that
they break. -/
theorem validate_cases (s : Settings) :
    (s.validate = .ok s ∧ ∀ rule : Rule, ¬rule.Broken s) ∨
      ∃ rule : Rule, s.validate = .error rule.error ∧ rule.FirstBroken s := by
  cases h : s.fault with
  | none => exact .inl ⟨by rw [validate, h], fault_eq_none_iff.mp h⟩
  | some e =>
    have hvalidate : s.validate = .error e := by rw [validate, h]
    rw [fault_eq_find?, Option.map_eq_some_iff] at h
    obtain ⟨rule, hfound, rfl⟩ := h
    exact .inr ⟨rule, hvalidate, Rule.firstBroken_of_find?_eq_some hfound⟩

end Settings

end ComponentLikeness
