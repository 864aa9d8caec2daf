import ComponentLikeness.Proofs.Settings.Rules
import ComponentLikeness.Proofs.Toml.Documents
import ComponentLikeness.Settings.Document

/-!
# Settings survive being written

Settings are written as two sections, with an entry for each field that is set and for both
lists. The sections are plain (`isPlainDocument_sections`), so the document is read back as
the tables it was written from, and decoding these gives every field again
(`decode_toTables_sections`). So settings that break no rule come back as they were, unless
one of their whole numbers has no written form, and then nothing is written
(`toToml_roundTrip`).
-/

namespace ComponentLikeness

open Number Toml

namespace Settings

/-! ## Entries -/

section Entries

variable {α β : Type} {key : String} {write : α → Setting} {value : Option α}

theorem keys_entry_sublist : ((entry key write value).map Prod.fst).Sublist [key] := by
  cases value with
  | none => exact List.nil_sublist _
  | some a => exact List.Sublist.refl _

theorem forall_mem_entry {P : String × Setting → Prop} :
    (∀ e ∈ entry key write value, P e) ↔ ∀ a, value = some a → P (key, write a) := by
  cases value <;> simp [entry]

theorem lookup_toEntries_append (settings settings' : List (String × Setting)) (key : String) :
    (toEntries (settings ++ settings')).lookup key =
      ((toEntries settings).lookup key).or ((toEntries settings').lookup key) := by
  simp [toEntries, List.lookup_append]

theorem lookup_toEntries_entry (key' : String) :
    (toEntries (entry key write value)).lookup key' =
      if key' = key then value.map fun a => (write a).toValue else none := by
  cases value with
  | none => simp [entry, toEntries]
  | some a =>
    by_cases h : key' = key <;> simp [entry, toEntries, List.lookup_cons, h, beq_false_of_ne]

/-- A field is what was written for it, and it is open if nothing was. -/
theorem decodeField_of_lookup (decode : Decoder β) {entries : Entries} (place : Nat)
    (field : α → β) (hlookup : entries.lookup key = value.map fun a => (write a).toValue)
    (hdecode : ∀ a, decode (write a).toValue = some (field a)) :
    decodeField decode (.table .header entries) place key = some (value.map field) := by
  rw [decodeField, field?, hlookup]
  cases value with
  | none => rfl
  | some a =>
    rw [Option.map_some]
    exact congrArg (Option.map some) (hdecode a)

end Entries

/-! ## Sections -/

/-- The entries of the section `analysis`. -/
def analysisEntries (s : AnalysisSettings) : List (String × Setting) :=
  entry "novelty_threshold" .float s.noveltyThreshold ++
  entry "style_attributes" .texts (some s.styleAttributes) ++
  entry "prop_scope" (fun scope => .text scope.name) s.propScope ++
  entry "max_depth" (fun n => .number n.toNat) s.maxDepth

/-- The entries of the section `corpus`. -/
def corpusEntries (s : CorpusSettings) : List (String × Setting) :=
  entry "extensions" .texts (some s.extensions) ++
  entry "max_file_size" (fun n => .number n.toNat) s.maxFileSize ++
  entry "parallel" .boolean s.parallel ++
  entry "cache_capacity" (fun n => .number n.toNat) s.cacheCapacity

theorem sections_eq (s : Settings) : s.sections =
    [("analysis", analysisEntries s.analysis), ("corpus", corpusEntries s.corpus)] := rfl

theorem keys_analysisEntries_sublist (s : AnalysisSettings) :
    ((analysisEntries s).map Prod.fst).Sublist
      ["novelty_threshold", "style_attributes", "prop_scope", "max_depth"] := by
  simp only [analysisEntries, List.map_append]
  exact ((keys_entry_sublist.append keys_entry_sublist).append keys_entry_sublist).append
    keys_entry_sublist

theorem keys_corpusEntries_sublist (s : CorpusSettings) :
    ((corpusEntries s).map Prod.fst).Sublist
      ["extensions", "max_file_size", "parallel", "cache_capacity"] := by
  simp only [corpusEntries, List.map_append]
  exact ((keys_entry_sublist.append keys_entry_sublist).append keys_entry_sublist).append
    keys_entry_sublist

theorem isPlainSection_of_keys {name : String} {settings : List (String × Setting)}
    {keys : List String} (hname : IsBareKey name) (hkeys : (settings.map Prod.fst).Sublist keys)
    (hbare : (keys.all fun key => IsBareKey key) = true) (hnodup : keys.Nodup)
    (hlossless : ∀ e ∈ settings, e.2.IsLossless) : IsPlainSection name settings where
  name_bare := hname
  keys_bare e he := by
    have hkey := List.all_eq_true.mp hbare e.1 (hkeys.subset (List.mem_map_of_mem he))
    exact of_decide_eq_true hkey
  keys_nodup := hkeys.nodup hnodup
  lossless := hlossless

/-- The sections of settings are plain, unless the threshold has no place in the format. -/
theorem isPlainDocument_sections {s : Settings}
    (h : ∀ x, s.analysis.noveltyThreshold = some x → x.IsDouble ∧ x ≠ .nan true) :
    IsPlainDocument s.sections := by
  rw [sections_eq]
  refine ⟨by simp, ?_⟩
  simp only [List.forall_mem_cons]
  refine ⟨?_, ?_, by simp⟩
  · refine isPlainSection_of_keys (by decide) (keys_analysisEntries_sublist s.analysis)
      (by decide) (by decide) ?_
    simp only [analysisEntries, List.forall_mem_append, forall_mem_entry, Setting.IsLossless]
    exact ⟨⟨⟨h, fun _ _ => trivial⟩, fun _ _ => trivial⟩, fun _ _ => trivial⟩
  · refine isPlainSection_of_keys (by decide) (keys_corpusEntries_sublist s.corpus)
      (by decide) (by decide) ?_
    simp only [corpusEntries, List.forall_mem_append, forall_mem_entry, Setting.IsLossless]
    simp

/-- The whole numbers that are set. -/
def wholeNumbers (s : Settings) : List Nat :=
  (s.analysis.maxDepth.map UInt32.toNat).toList ++
    (s.corpus.maxFileSize.map UInt64.toNat).toList ++
    (s.corpus.cacheCapacity.map UInt64.toNat).toList

/-- Whole numbers are all that may have no written form. -/
theorem fits_sections_iff (s : Settings) :
    (∀ section_ ∈ s.sections, ∀ e ∈ section_.2, e.2.fits = true) ↔
      ∀ n ∈ s.wholeNumbers, n < integerBound := by
  rw [sections_eq, wholeNumbers]
  simp only [List.forall_mem_cons, analysisEntries, corpusEntries, List.forall_mem_append,
    forall_mem_entry, Setting.fits]
  cases s.analysis.maxDepth <;> cases s.corpus.maxFileSize <;> cases s.corpus.cacheCapacity <;>
    simp [and_assoc]

/-! ## Decoding -/

theorem decodeTexts_map (items : List String) :
    decodeTexts (.array (items.map .string)) = some items := by
  show (items.map Value.string).mapM decodeText = some items
  induction items with
  | nil => rfl
  | cons item items ih =>
    rw [List.map_cons, List.mapM_cons, ih]
    rfl

theorem decodeScope_name (scope : PropScope) : decodeScope (.string scope.name) = some scope :=
  PropScope.ofName_name scope

theorem decodeNatural_of_lt {bound n : Nat} (h : n < bound) :
    decodeNatural bound (.integer n) = some n := by
  simp [decodeNatural, h]

/-- The section `analysis` is read back. -/
theorem decodeAnalysis_analysisEntries (s : AnalysisSettings) :
    decodeAnalysis (.table .header (toEntries (analysisEntries s))) = some s := by
  have hthreshold : (toEntries (analysisEntries s)).lookup "novelty_threshold" =
      s.noveltyThreshold.map fun x => (Setting.float x).toValue := by
    simp [analysisEntries, lookup_toEntries_append, lookup_toEntries_entry]
  have hattributes : (toEntries (analysisEntries s)).lookup "style_attributes" =
      (some s.styleAttributes).map fun items => (Setting.texts items).toValue := by
    simp [analysisEntries, lookup_toEntries_append, lookup_toEntries_entry]
  have hscope : (toEntries (analysisEntries s)).lookup "prop_scope" =
      s.propScope.map fun scope => (Setting.text scope.name).toValue := by
    simp [analysisEntries, lookup_toEntries_append, lookup_toEntries_entry]
  have hdepth : (toEntries (analysisEntries s)).lookup "max_depth" =
      s.maxDepth.map fun n => (Setting.number n.toNat).toValue := by
    simp [analysisEntries, lookup_toEntries_append, lookup_toEntries_entry]
  have hwhole : Nat.toUInt32 ∘ UInt32.toNat = id := funext fun n => n.ofNat_toNat
  simp only [decodeAnalysis, isSection,
    decodeField_of_lookup decodeNumber 0 id hthreshold fun _ => rfl,
    decodeField_of_lookup decodeTexts 1 id hattributes decodeTexts_map,
    decodeField_of_lookup decodeScope 2 id hscope decodeScope_name,
    decodeField_of_lookup (decodeNatural UInt32.size) 3 UInt32.toNat hdepth
      fun n => decodeNatural_of_lt n.toNat_lt_size]
  simp [hwhole]

/-- The section `corpus` is read back. -/
theorem decodeCorpus_corpusEntries (s : CorpusSettings) :
    decodeCorpus (.table .header (toEntries (corpusEntries s))) = some s := by
  have hextensions : (toEntries (corpusEntries s)).lookup "extensions" =
      (some s.extensions).map fun items => (Setting.texts items).toValue := by
    simp [corpusEntries, lookup_toEntries_append, lookup_toEntries_entry]
  have hfile : (toEntries (corpusEntries s)).lookup "max_file_size" =
      s.maxFileSize.map fun n => (Setting.number n.toNat).toValue := by
    simp [corpusEntries, lookup_toEntries_append, lookup_toEntries_entry]
  have hparallel : (toEntries (corpusEntries s)).lookup "parallel" =
      s.parallel.map fun b => (Setting.boolean b).toValue := by
    simp [corpusEntries, lookup_toEntries_append, lookup_toEntries_entry]
  have hcache : (toEntries (corpusEntries s)).lookup "cache_capacity" =
      s.cacheCapacity.map fun n => (Setting.number n.toNat).toValue := by
    simp [corpusEntries, lookup_toEntries_append, lookup_toEntries_entry]
  have hwhole : Nat.toUInt64 ∘ UInt64.toNat = id := funext fun n => n.ofNat_toNat
  have hnatural : ∀ n : UInt64,
      decodeNatural UInt64.size (Setting.number n.toNat).toValue = some n.toNat :=
    fun n => decodeNatural_of_lt n.toNat_lt_size
  simp only [decodeCorpus, isSection,
    decodeField_of_lookup decodeTexts 0 id hextensions decodeTexts_map,
    decodeField_of_lookup (decodeNatural UInt64.size) 1 UInt64.toNat hfile hnatural,
    decodeField_of_lookup decodeFlag 2 id hparallel fun _ => rfl,
    decodeField_of_lookup (decodeNatural UInt64.size) 3 UInt64.toNat hcache hnatural]
  simp [hwhole]

/-- What was written is decoded to the settings that it was written for. -/
theorem decode_toTables_sections (s : Settings) : decode (toTables s.sections) = some s := by
  have hanalysis := decodeAnalysis_analysisEntries s.analysis
  have hcorpus := decodeCorpus_corpusEntries s.corpus
  rw [sections_eq]
  simp [decode, decodeField, field?, toTables, List.lookup_cons, hanalysis, hcorpus]

/-! ## The round trip -/

theorem toToml_eq_ok_iff {s : Settings} {text : String} :
    s.toToml = .ok text ↔ write? s.sections = some text := by
  unfold toToml
  cases write? s.sections <;> simp

/-- Settings are written exactly if their whole numbers have a written form. -/
theorem exists_toToml_eq_ok_iff {s : Settings} :
    (∃ text, s.toToml = .ok text) ↔ ∀ n ∈ s.wholeNumbers, n < integerBound := by
  simp only [toToml_eq_ok_iff, write?_eq_some_iff, ← fits_sections_iff]
  simp

/-- Settings whose threshold is a number of the format are read from what was written. -/
theorem ofDocument_of_toToml {s : Settings} {text : String} (path : String)
    (h : ∀ x, s.analysis.noveltyThreshold = some x → x.IsDouble ∧ x ≠ .nan true)
    (hwrite : s.toToml = .ok text) : ofDocument path text = .ok s := by
  have hparse := parse?_of_write? (isPlainDocument_sections h) (toToml_eq_ok_iff.mp hwrite)
  simp only [ofDocument, hparse, decode_toTables_sections]

/-- A threshold that is accepted is no NaN. -/
theorem threshold_ne_nan {s : Settings} (h : s.validate = .ok s) {x : Binary64}
    (hx : s.analysis.noveltyThreshold = some x) (negative : Bool) : x ≠ .nan negative := by
  rintro rfl
  rcases validate_cases s with ⟨-, hkept⟩ | ⟨rule, hrefused, -⟩
  · exact hkept .noveltyThreshold ⟨_, hx, nofun⟩
  · rw [h] at hrefused
    cases hrefused

theorem integerBound_eq : integerBound = 2 ^ 63 := by decide

/-- Settings that are accepted come back as they were written, field by field, if none of
their whole numbers is above `2 ^ 63 - 1`. If one is, nothing is written. -/
theorem toToml_roundTrip (s : Settings)
    (hdouble : ∀ x, s.analysis.noveltyThreshold = some x → x.IsDouble) :
    (s.validate = .ok s → (∀ n ∈ s.wholeNumbers, n ≤ 2 ^ 63 - 1) →
      ∃ text, s.toToml = .ok text ∧ ofToml text = .ok s) ∧
    ((∃ n ∈ s.wholeNumbers, 2 ^ 63 - 1 < n) → ∃ e, s.toToml = .error e) := by
  constructor
  · intro hvalid hsmall
    have hfits : ∀ n ∈ s.wholeNumbers, n < integerBound := by
      intro n hn
      have := hsmall n hn
      rw [integerBound_eq]
      omega
    obtain ⟨text, hwrite⟩ := exists_toToml_eq_ok_iff.mpr hfits
    have hread := ofDocument_of_toToml "<string>"
      (fun x hx => ⟨hdouble x hx, threshold_ne_nan hvalid hx true⟩) hwrite
    refine ⟨text, hwrite, ?_⟩
    simp only [ofToml, hread, hvalid]
  · rintro ⟨n, hn, hlarge⟩
    cases hwrite : s.toToml with
    | error e => exact ⟨e, rfl⟩
    | ok text =>
      have hfits := exists_toToml_eq_ok_iff.mp ⟨text, hwrite⟩ n hn
      rw [integerBound_eq] at hfits
      omega

/-- Texts with both kinds of quotes, backslashes, line ends and control characters, a
tenth rounded, and the largest whole number that can be written. -/
def awkwardSettings : Settings where
  analysis :=
    { noveltyThreshold := some (.ofQuotient false 1 10)
      styleAttributes := ["it's \"raw\"", "\\\n\"\"\"", "'''\x07\x7f\r\t", "ü\n\\'"]
      propScope := some .defaultExport }
  corpus :=
    { extensions := ["t'\"sx"]
      maxFileSize := some 9223372036854775807 }

/-- A whole number that is too large by one. -/
def oversizedSettings : Settings where
  corpus := { cacheCapacity := some 9223372036854775808 }

theorem toToml_roundTrip_awkwardSettings :
    awkwardSettings.validate = .ok awkwardSettings ∧
      (∃ text, awkwardSettings.toToml = .ok text ∧ ofToml text = .ok awkwardSettings) ∧
      ∃ e, oversizedSettings.toToml = .error e := by
  have hdouble : ∀ x, awkwardSettings.analysis.noveltyThreshold = some x → x.IsDouble := by
    rintro x hx
    cases hx
    exact Binary64.isDouble_ofQuotient false 1 (by decide)
  have hvalid : awkwardSettings.validate = .ok awkwardSettings := by decide +kernel
  refine ⟨hvalid, (toToml_roundTrip awkwardSettings hdouble).1 hvalid (by decide), ?_⟩
  exact (toToml_roundTrip oversizedSettings nofun).2 ⟨9223372036854775808, by decide, by decide⟩

end Settings

end ComponentLikeness
