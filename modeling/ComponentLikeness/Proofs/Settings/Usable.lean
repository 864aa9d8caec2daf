import ComponentLikeness.Proofs.Corpus.Listing
import ComponentLikeness.Proofs.Settings.Layering

/-!
# Usable settings

What settings amount to is fit for use (`Settings.Usable`) exactly if they break no
rule (`Settings.usable_iff`): the rules are about what is written in the settings, with
open ones left out, and every one of them is as strong as what it is for. So whatever is
loaded or read is usable, and whatever is refused has an error about the first rule that
it breaks (`Settings.usable_or_first_broken`).
-/

namespace ComponentLikeness

open Number Text

/-! ## Extensions -/

/-- There is something in the extension, but no point in front and no capital letter of
ASCII. -/
structure PlainExtension (extension : String) : Prop where
  ne_empty : extension ≠ ""
  head_ne_point : extension.toList.head? ≠ some '.'
  no_capitals : ∀ c ∈ extension.toList, c.isUpper = false

theorem isUpper_toLower (c : Char) : c.toLower.isUpper = false := by
  unfold Char.toLower
  split
  · refine decide_eq_false fun hupper => ?_
    grind
  · rename_i hupper
    exact decide_eq_false hupper

theorem toList_normalExtension (extension : String) :
    (normalExtension extension).toList = (dropDots extension).map Char.toLower := by
  rw [normalExtension, asciiLower, String.toList_ofList, String.toList_ofList]

/-- An extension is plain in the form that counts, unless it is nothing but points. -/
theorem plainExtension_normalExtension_iff {extension : String} :
    PlainExtension (normalExtension extension) ↔ ¬∀ c ∈ extension.toList, c = '.' := by
  rw [← dropDots_isEmpty_iff, List.isEmpty_iff]
  constructor
  · intro h hdots
    refine h.ne_empty (String.toList_inj.mp ?_)
    rw [toList_normalExtension, hdots]
    rfl
  · intro hdots
    refine ⟨fun hempty => hdots ?_, fun hhead => ?_, fun c hc => ?_⟩
    · have hlist := congrArg String.toList hempty
      rw [toList_normalExtension] at hlist
      exact List.map_eq_nil_iff.mp hlist
    · rw [toList_normalExtension, List.head?_map, Option.map_eq_some_iff] at hhead
      obtain ⟨c, hc, hpoint⟩ := hhead
      -- no other character becomes a point
      rw [toLower_eq_point_iff.mp hpoint] at hc
      exact head?_dropDots_ne_point extension hc
    · rw [toList_normalExtension, List.mem_map] at hc
      obtain ⟨c, -, rfl⟩ := hc
      exact isUpper_toLower c

namespace Settings

/-! ## What each rule is for -/

/-- Everything that settings amount to can be used: the threshold is a number between
zero and one, no limit is zero, there are style attributes, none of them blank, and there
are extensions, all of them plain. -/
structure Usable (s : Settings) : Prop where
  noveltyThreshold : s.analysis.effectiveNoveltyThreshold.IsShare
  styleAttributes_ne_nil : s.analysis.effectiveStyleAttributes ≠ []
  styleAttributes_not_blank : ∀ name ∈ s.analysis.effectiveStyleAttributes,
    ∃ c ∈ name.toList, isBlank c = false
  one_le_maxDepth : 1 ≤ s.analysis.effectiveMaxDepth
  extensions_ne_nil : s.corpus.effectiveExtensions ≠ []
  extensions_plain : ∀ extension ∈ s.corpus.effectiveExtensions, PlainExtension extension
  one_le_maxFileSize : 1 ≤ s.corpus.effectiveMaxFileSize

variable {s : Settings}

theorem threshold_isShare_iff :
    s.analysis.effectiveNoveltyThreshold.IsShare ↔ ¬Rule.noveltyThreshold.Broken s := by
  rw [AnalysisSettings.effectiveNoveltyThreshold, Rule.Broken]
  cases s.analysis.noveltyThreshold with
  | none =>
    refine iff_of_true (isShare_iff.mp ?_) (by simp)
    decide +kernel
  | some x => simp

theorem styleAttributes_ne_nil (s : Settings) : s.analysis.effectiveStyleAttributes ≠ [] := by
  rw [AnalysisSettings.effectiveStyleAttributes]
  split
  · exact List.cons_ne_nil _ _
  · rename_i h
    exact fun hnil => h (List.isEmpty_iff.mpr hnil)

theorem styleAttributes_not_blank_iff :
    (∀ name ∈ s.analysis.effectiveStyleAttributes, ∃ c ∈ name.toList, isBlank c = false) ↔
      ¬Rule.styleAttributes.Broken s := by
  rw [AnalysisSettings.effectiveStyleAttributes, Rule.Broken]
  cases s.analysis.styleAttributes with
  | nil =>
    refine iff_of_true (List.forall_mem_cons.mpr ⟨?_, List.forall_mem_singleton.mpr ?_⟩) (by simp)
    · exact ⟨'c', by decide, by decide⟩
    · exact ⟨'c', by decide, by decide⟩
  | cons name names => simp

theorem one_le_maxDepth_iff :
    1 ≤ s.analysis.effectiveMaxDepth ↔ ¬Rule.maxDepth.Broken s := by
  rw [AnalysisSettings.effectiveMaxDepth, Rule.Broken]
  cases s.analysis.maxDepth with
  | none => decide
  | some n =>
    rw [Option.getD_some, Option.some_inj]
    grind

theorem extensions_ne_nil (s : Settings) : s.corpus.effectiveExtensions ≠ [] := by
  rw [CorpusSettings.effectiveExtensions]
  split
  · exact List.cons_ne_nil _ _
  · rename_i h
    exact fun hnil => h (List.isEmpty_iff.mpr (List.map_eq_nil_iff.mp hnil))

theorem extensions_plain_iff :
    (∀ extension ∈ s.corpus.effectiveExtensions, PlainExtension extension) ↔
      ¬Rule.extensions.Broken s := by
  rw [CorpusSettings.effectiveExtensions, Rule.Broken]
  cases s.corpus.extensions with
  | nil =>
    have htsx : normalExtension "tsx" = "tsx" := by decide
    refine iff_of_true (List.forall_mem_singleton.mpr ?_) (by simp)
    rw [← htsx, plainExtension_normalExtension_iff]
    exact fun hpoints => absurd (hpoints 't' (by decide)) (by decide)
  | cons extension extensions =>
    rw [if_neg (by simp), List.forall_mem_map]
    push Not
    exact forall₂_congr fun extension _ => by
      rw [← normalExtension, plainExtension_normalExtension_iff]
      push Not
      rfl

theorem one_le_maxFileSize_iff :
    1 ≤ s.corpus.effectiveMaxFileSize ↔ ¬Rule.maxFileSize.Broken s := by
  rw [CorpusSettings.effectiveMaxFileSize, Rule.Broken]
  cases s.corpus.maxFileSize with
  | none => decide
  | some n =>
    rw [Option.getD_some, Option.some_inj]
    grind

/-- Settings are usable exactly if they break no rule. -/
theorem usable_iff : s.Usable ↔ ∀ rule : Rule, ¬rule.Broken s := by
  constructor
  · intro h rule
    cases rule with
    | noveltyThreshold => exact threshold_isShare_iff.mp h.noveltyThreshold
    | styleAttributes => exact styleAttributes_not_blank_iff.mp h.styleAttributes_not_blank
    | maxDepth => exact one_le_maxDepth_iff.mp h.one_le_maxDepth
    | extensions => exact extensions_plain_iff.mp h.extensions_plain
    | maxFileSize => exact one_le_maxFileSize_iff.mp h.one_le_maxFileSize
  · intro h
    exact {
      noveltyThreshold := threshold_isShare_iff.mpr (h .noveltyThreshold)
      styleAttributes_ne_nil := styleAttributes_ne_nil s
      styleAttributes_not_blank := styleAttributes_not_blank_iff.mpr (h .styleAttributes)
      one_le_maxDepth := one_le_maxDepth_iff.mpr (h .maxDepth)
      extensions_ne_nil := extensions_ne_nil s
      extensions_plain := extensions_plain_iff.mpr (h .extensions)
      one_le_maxFileSize := one_le_maxFileSize_iff.mpr (h .maxFileSize) }

/-! ## Checked settings -/

theorem usable_of_validate_eq_ok {s' : Settings} (h : s.validate = .ok s') : s'.Usable := by
  rcases s.validate_cases with ⟨hok, hrules⟩ | ⟨rule, herror, -⟩
  · rw [← Except.ok.inj (hok.symm.trans h)]
    exact usable_iff.mpr hrules
  · exact nomatch herror.symm.trans h

/-- The error is that of the first rule that the settings break. -/
def ReportsFirst (s : Settings) (field message : String) : Prop :=
  ∃ rule : Rule, rule.FirstBroken s ∧ rule.error = .invalidValue field message

theorem reportsFirst_of_validate_eq_error {field message : String}
    (h : s.validate = .error (.invalidValue field message)) : s.ReportsFirst field message := by
  rcases s.validate_cases with ⟨hok, -⟩ | ⟨rule, herror, hfirst⟩
  · exact nomatch hok.symm.trans h
  · exact ⟨rule, hfirst, Except.error.inj (herror.symm.trans h)⟩

/-! ## Loading and reading -/

variable {root text : String} {env : Environment} {read : String → FileText}
  {field message : String}

/-- Both files can be decoded, or loading fails before any value is looked at. -/
theorem filesDecode_or_error (root : String) (env : Environment) (read : String → FileText) :
    FilesDecode root env read ∨ ∃ e, (load root env read).1 = .error e ∧
      ∀ field message, e ≠ .invalidValue field message := by
  rcases load_cases root env read with ⟨_, _, -, -, herror⟩ | ⟨-, -, herror⟩ | ⟨_, -, -, herror⟩ |
    hfiles
  · exact .inr ⟨_, herror, nofun⟩
  · exact .inr ⟨_, herror, nofun⟩
  · exact .inr ⟨_, herror, nofun⟩
  · exact .inl hfiles

theorem usable_of_load_eq_ok (h : (load root env read).1 = .ok s) : s.Usable := by
  rcases filesDecode_or_error root env read with hfiles | ⟨e, herror, -⟩
  · rw [load_of_merged hfiles (merged_overlay root env read)] at h
    exact usable_of_validate_eq_ok h
  · exact nomatch herror.symm.trans h

theorem reportsFirst_of_load_eq_error {merged : Settings} (hmerged : Merged root env read merged)
    (h : (load root env read).1 = .error (.invalidValue field message)) :
    merged.ReportsFirst field message := by
  rcases filesDecode_or_error root env read with hfiles | ⟨e, herror, hother⟩
  · rw [load_of_merged hfiles hmerged] at h
    exact reportsFirst_of_validate_eq_error h
  · exact absurd (Except.error.inj (herror.symm.trans h)) (hother field message)

/-- A text that is read is decoded, and then the rules are looked at. -/
theorem ofToml_cases (text : String) :
    (∃ message, ofToml text = .error (.undecodable "<string>" message)) ∨
      ∃ given, ofDocument "<string>" text = .ok given ∧ ofToml text = given.validate := by
  by_cases h : (FileText.readable text).Undecodable
  · obtain ⟨message, hmessage⟩ := ofFile_of_undecodable "<string>" h
    rw [ofFile] at hmessage
    exact .inl ⟨message, by rw [ofToml, hmessage]⟩
  · have hreadable : FileText.readable text ≠ .unreadable := by simp
    have hgiven := ofFile_of_decodable "<string>" hreadable h
    rw [ofFile] at hgiven
    exact .inr ⟨_, hgiven, by rw [ofToml, hgiven]⟩

theorem usable_of_ofToml_eq_ok (h : ofToml text = .ok s) : s.Usable := by
  rcases ofToml_cases text with ⟨_, herror⟩ | ⟨given, -, hvalidate⟩
  · exact nomatch herror.symm.trans h
  · exact usable_of_validate_eq_ok (hvalidate.symm.trans h)

theorem reportsFirst_of_ofToml_eq_error (h : ofToml text = .error (.invalidValue field message)) :
    ∃ given, ofDocument "<string>" text = .ok given ∧ given.ReportsFirst field message := by
  rcases ofToml_cases text with ⟨_, herror⟩ | ⟨given, hgiven, hvalidate⟩
  · exact nomatch herror.symm.trans h
  · exact ⟨given, hgiven, reportsFirst_of_validate_eq_error (hvalidate.symm.trans h)⟩

/-- Whatever files and variables there are, and whatever a text says: settings that are
loaded or read are usable. If a value is refused, it is the one of the first rule that is
broken by the merged settings, or by those in the text. -/
theorem usable_or_first_broken (root text : String) (env : Environment)
    (read : String → FileText) :
    (∀ s, (load root env read).1 = .ok s → s.Usable) ∧
    (∀ s, ofToml text = .ok s → s.Usable) ∧
    (∀ field message, (load root env read).1 = .error (.invalidValue field message) →
      ∃ merged, Merged root env read merged ∧ merged.ReportsFirst field message) ∧
    ∀ field message, ofToml text = .error (.invalidValue field message) →
      ∃ given, ofDocument "<string>" text = .ok given ∧ given.ReportsFirst field message :=
  ⟨fun _ => usable_of_load_eq_ok, fun _ => usable_of_ofToml_eq_ok,
    fun _ _ h => ⟨_, merged_overlay root env read,
      reportsFirst_of_load_eq_error (merged_overlay root env read) h⟩,
    fun _ _ => reportsFirst_of_ofToml_eq_error⟩

/-- A threshold that is no number and a depth limit of zero. -/
def brokenEnvironment : Environment :=
  [("MOTIF_ANALYSIS_NOVELTY_THRESHOLD", "NaN"), ("MOTIF_ANALYSIS_MAX_DEPTH", "0")]

theorem usable_or_first_broken_brokenEnvironment :
    (load "p" brokenEnvironment fun _ => .absent).1 =
        .error (.invalidValue "analysis.novelty_threshold" "must be between 0.0 and 1.0") ∧
      (∃ merged, Merged "p" brokenEnvironment (fun _ => .absent) merged ∧
        merged.ReportsFirst "analysis.novelty_threshold" "must be between 0.0 and 1.0") ∧
      ofToml "[corpus]\nextensions = [\"..\"]\n" =
        .error (.invalidValue "corpus.extensions" "extensions must not be empty") ∧
      (∃ given, ofDocument "<string>" "[corpus]\nextensions = [\"..\"]\n" = .ok given ∧
        given.ReportsFirst "corpus.extensions" "extensions must not be empty") ∧
      (load "p" homeEnvironment fun _ => .absent).1 =
        .ok { corpus := { extensions := ["tsx", ".jsx"] } } ∧
      Usable { corpus := { extensions := ["tsx", ".jsx"] } } ∧
      ofToml "[corpus]\nextensions = [\".TSX\"]\n" =
        .ok { corpus := { extensions := [".TSX"] } } ∧
      Usable { corpus := { extensions := [".TSX"] } } := by
  have hrefused : (load "p" brokenEnvironment fun _ => .absent).1 =
      .error (.invalidValue "analysis.novelty_threshold" "must be between 0.0 and 1.0") := by
    decide +kernel
  have hpoints : ofToml "[corpus]\nextensions = [\"..\"]\n" =
      .error (.invalidValue "corpus.extensions" "extensions must not be empty") := by
    decide +kernel
  have hloaded : (load "p" homeEnvironment fun _ => .absent).1 =
      .ok { corpus := { extensions := ["tsx", ".jsx"] } } := by
    decide +kernel
  have hread : ofToml "[corpus]\nextensions = [\".TSX\"]\n" =
      .ok { corpus := { extensions := [".TSX"] } } := by
    decide +kernel
  obtain ⟨-, -, hfirst, hfirst'⟩ := usable_or_first_broken "p"
    "[corpus]\nextensions = [\"..\"]\n" brokenEnvironment fun _ => .absent
  obtain ⟨husable, husable', -⟩ := usable_or_first_broken "p"
    "[corpus]\nextensions = [\".TSX\"]\n" homeEnvironment fun _ => .absent
  exact ⟨hrefused, hfirst _ _ hrefused, hpoints, hfirst' _ _ hpoints, hloaded,
    husable _ hloaded, hread, husable' _ hread⟩

end Settings

end ComponentLikeness
