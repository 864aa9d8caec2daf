import ComponentLikeness.Proofs.Settings.Rules
import ComponentLikeness.Settings.Layers

/-!
# Layered settings

What is found at the path of a settings file amounts to settings, or it is a text
that cannot be decoded (`FileText.Undecodable`). A user file that cannot be read
amounts to the same as one that is absent; a project file must not be like that.

Settings that are layered (`Settings.Layered`) have in each of the eight fields
the value of the first layer that sets it: the environment, the project, the
user. An empty list counts as unset in every layer. There always are such
settings (`Settings.layered_overlay`), and the layers leave no choice
(`Settings.Layered.unique`).

Loading ends in the first error of the user file, the project file and the
layered settings, or else in the layered settings (`Settings.load_layers`). Only
layered settings are checked, so a value that a layer above overrides breaks no
rule.
-/

namespace ComponentLikeness

open Number Text

/-! ## What files amount to -/

namespace FileText

/-- The file can be read, but its text holds no settings. -/
def Undecodable : FileText → Prop
  | .absent => False
  | .unreadable => False
  | .readable text => (Toml.parse? text).bind Settings.decode = none

/-- The settings in a file; none is set in a file that is absent or cannot be
read. -/
def settings : FileText → Settings
  | .absent => {}
  | .unreadable => {}
  | .readable text => ((Toml.parse? text).bind Settings.decode).getD {}

end FileText

namespace Settings

variable {env : Environment} {read : String → FileText} {path root : String} {file : FileText}

/-- An undecodable text is reported with the path of its file. -/
theorem ofFile_of_undecodable (path : String) (h : file.Undecodable) :
    ∃ message, ofFile path file = .error (.undecodable path message) := by
  cases file with
  | absent => exact h.elim
  | unreadable => exact h.elim
  | readable text =>
    have hdecode : (Toml.parse? text).bind decode = none := h
    cases hentries : Toml.parse? text with
    | none =>
      refine ⟨"the text is no TOML document", ?_⟩
      rw [ofFile, ofDocument, hentries]
    | some entries =>
      rw [hentries, Option.bind_some] at hdecode
      refine ⟨"a value has the wrong type", ?_⟩
      rw [ofFile, ofDocument, hentries]
      simp only [hdecode]

/-- Any other file that can be read, or is absent, gives its settings. -/
theorem ofFile_of_decodable (path : String) (hread : file ≠ .unreadable)
    (h : ¬file.Undecodable) : ofFile path file = .ok file.settings := by
  cases file with
  | absent => rfl
  | unreadable => exact absurd rfl hread
  | readable text =>
    have hdecode : (Toml.parse? text).bind decode ≠ none := h
    obtain ⟨settings, hsettings⟩ := Option.ne_none_iff_exists'.mp hdecode
    obtain ⟨entries, hentries, hdecoded⟩ := Option.bind_eq_some_iff.mp hsettings
    rw [ofFile, ofDocument, hentries, FileText.settings, hsettings]
    simp only [hdecoded, Option.getD_some]

/-- What is found at the path of the user's settings file, if it has one. -/
def userText (env : Environment) (read : String → FileText) : FileText :=
  (userFile env).elim .absent read

theorem userText_of_userFile (hpath : userFile env = some path) (read : String → FileText) :
    userText env read = read path := by
  rw [userText, hpath, Option.elim_some]

/-! ## Layers -/

/-- The value of the first layer that sets one. -/
def firstSet? {α : Type} (layers : List (Option α)) : Option α := layers.findSome? id

/-- A list as a setting: an empty one is unset. -/
def nonempty? (items : List String) : Option (List String) :=
  if items = [] then none else some items

/-- In each field of the merged settings is the value of the first layer that sets
it: a variable of the environment whose value can be read, the project, the user.
The style attributes have no variable. -/
structure Layered (env : Environment) (project user merged : Settings) : Prop where
  noveltyThreshold : merged.analysis.noveltyThreshold =
    firstSet? [setting? env "MOTIF_ANALYSIS_NOVELTY_THRESHOLD" Binary64.parse?,
      project.analysis.noveltyThreshold, user.analysis.noveltyThreshold]
  styleAttributes : nonempty? merged.analysis.styleAttributes =
    firstSet? [nonempty? project.analysis.styleAttributes, nonempty? user.analysis.styleAttributes]
  propScope : merged.analysis.propScope =
    firstSet? [setting? env "MOTIF_ANALYSIS_PROP_SCOPE" fun text => (PropScope.parse text).toOption,
      project.analysis.propScope, user.analysis.propScope]
  maxDepth : merged.analysis.maxDepth =
    firstSet? [(setting? env "MOTIF_ANALYSIS_MAX_DEPTH" (parseBounded? UInt32.size)).map
        Nat.toUInt32, project.analysis.maxDepth, user.analysis.maxDepth]
  extensions : nonempty? merged.corpus.extensions =
    firstSet? [setting? env "MOTIF_CORPUS_EXTENSIONS" fun text => nonempty? (listItems text),
      nonempty? project.corpus.extensions, nonempty? user.corpus.extensions]
  maxFileSize : merged.corpus.maxFileSize =
    firstSet? [(setting? env "MOTIF_CORPUS_MAX_FILE_SIZE" (parseBounded? UInt64.size)).map
        Nat.toUInt64, project.corpus.maxFileSize, user.corpus.maxFileSize]
  parallel : merged.corpus.parallel =
    firstSet? [setting? env "MOTIF_CORPUS_PARALLEL" flag?, project.corpus.parallel,
      user.corpus.parallel]
  cacheCapacity : merged.corpus.cacheCapacity =
    firstSet? [(setting? env "MOTIF_CORPUS_CACHE_CAPACITY" (parseBounded? UInt64.size)).map
        Nat.toUInt64, project.corpus.cacheCapacity, user.corpus.cacheCapacity]

theorem or_eq_firstSet? {α : Type} (a b : Option α) : a.or b = firstSet? [a, b] := by
  cases a <;> cases b <;> rfl

theorem or_or_eq_firstSet? {α : Type} (a b c : Option α) :
    a.or (b.or c) = firstSet? [a, b, c] := by
  cases a <;> cases b <;> cases c <;> rfl

theorem nonempty?_listOr (upper lower : List String) :
    nonempty? (listOr upper lower) = (nonempty? upper).or (nonempty? lower) := by
  cases upper <;> cases lower <;> rfl

theorem nonempty?_injective : Function.Injective nonempty? := by
  intro a b h
  cases a <;> cases b <;> simp_all [nonempty?]

/-- A list that a variable gives is set if it is not empty. -/
theorem nonempty?_getD_setting? (env : Environment) (name : String)
    (items : String → List String) :
    nonempty? ((setting? env name fun text => some (items text)).getD []) =
      setting? env name fun text => nonempty? (items text) := by
  unfold setting?
  cases env.lookup name <;> rfl

/-- Overriding layer by layer gives layered settings. -/
theorem layered_overlay (env : Environment) (project user : Settings) :
    Layered env project user ((ofEnvironment env).overlay (project.overlay user)) where
  noveltyThreshold := or_or_eq_firstSet? _ _ _
  styleAttributes := (nonempty?_listOr _ _).trans (or_eq_firstSet? _ _)
  propScope := or_or_eq_firstSet? _ _ _
  maxDepth := or_or_eq_firstSet? _ _ _
  extensions := by
    rw [← or_or_eq_firstSet?, ← nonempty?_listOr, ← nonempty?_getD_setting?, ← nonempty?_listOr]
    rfl
  maxFileSize := or_or_eq_firstSet? _ _ _
  parallel := or_or_eq_firstSet? _ _ _
  cacheCapacity := or_or_eq_firstSet? _ _ _

/-- The layers leave no choice. -/
theorem Layered.unique {project user merged merged' : Settings}
    (h : Layered env project user merged) (h' : Layered env project user merged') :
    merged = merged' := by
  -- each field is determined by the layers, the lists because unset means empty
  obtain ⟨⟨_, _, _, _⟩, ⟨_, _, _, _⟩⟩ := merged
  obtain ⟨⟨_, _, _, _⟩, ⟨_, _, _, _⟩⟩ := merged'
  have hstyle := nonempty?_injective (h.styleAttributes.trans h'.styleAttributes.symm)
  have hextensions := nonempty?_injective (h.extensions.trans h'.extensions.symm)
  have hthreshold := h.noveltyThreshold.trans h'.noveltyThreshold.symm
  have hscope := h.propScope.trans h'.propScope.symm
  have hdepth := h.maxDepth.trans h'.maxDepth.symm
  have hsize := h.maxFileSize.trans h'.maxFileSize.symm
  have hparallel := h.parallel.trans h'.parallel.symm
  have hcapacity := h.cacheCapacity.trans h'.cacheCapacity.symm
  simp only at hstyle hextensions hthreshold hscope hdepth hsize hparallel hcapacity
  subst hstyle hextensions hthreshold hscope hdepth hsize hparallel hcapacity
  rfl

/-! ## Paths -/

theorem exists_joinPath_eq (path name : String) : ∃ front, joinPath path name = front ++ name := by
  unfold joinPath
  split
  · exact ⟨path, rfl⟩
  · exact ⟨path ++ "/", rfl⟩

/-- The file of the user is never that of the project. -/
theorem userFile_ne_projectFile (env : Environment) (root : String) :
    userFile env ≠ some (projectFile root) := by
  intro h
  obtain ⟨home, -, hpath⟩ := Option.map_eq_some_iff.mp h
  obtain ⟨front, hfront⟩ := exists_joinPath_eq (joinPath home ".motif") "config.toml"
  obtain ⟨front', hfront'⟩ := exists_joinPath_eq root "motif.toml"
  rw [projectFile, hfront, hfront'] at hpath
  -- the names differ in the sixth letter from behind
  have hletter := congrArg (fun path : String => path.toList.reverse[5]?) hpath
  simp at hletter

/-! ## Loading -/

theorem load_of_undecodable {path : String} (root : String) (hpath : userFile env = some path)
    (h : (read path).Undecodable) :
    ∃ message, (load root env read).1 = .error (.undecodable path message) := by
  obtain ⟨message, hfile⟩ := ofFile_of_undecodable path h
  refine ⟨message, ?_⟩
  have huser : ofUser env read = (.error (.undecodable path message), none) := by
    rw [ofUser, hpath]
    simp only [hfile]
  rw [load, huser]
  rfl

/-- A user file that can be decoded, or cannot be read, gives its settings. -/
theorem ofUser_of_decodable (h : ¬(userText env read).Undecodable) :
    (ofUser env read).1 = .ok (userText env read).settings := by
  cases hpath : userFile env with
  | none => rw [ofUser, userText, hpath]; rfl
  | some path =>
    rw [userText_of_userFile hpath] at h ⊢
    by_cases hread : read path = .unreadable
    · rw [ofUser, hpath]
      simp only [hread]
      rfl
    · rw [ofUser, hpath]
      simp only [ofFile_of_decodable path hread h]

/-- Apart from the user file's text, what is loaded is up to the project file and
then to the layered settings. -/
theorem load_of_decodable (root : String) (h : ¬(userText env read).Undecodable) :
    (load root env read).1 =
      (ofFile (projectFile root) (read (projectFile root))).bind fun project =>
        ((ofEnvironment env).overlay
          (project.overlay (userText env read).settings)).validate := by
  rw [load]
  simp only [ofUser_of_decodable h]
  rfl

/-- Both files hold settings or are absent; the one of the user may be unreadable. -/
structure FilesDecode (root : String) (env : Environment) (read : String → FileText) : Prop where
  user : ¬(userText env read).Undecodable
  readable : read (projectFile root) ≠ .unreadable
  project : ¬(read (projectFile root)).Undecodable

/-- The settings merged from the environment and both files. -/
def Merged (root : String) (env : Environment) (read : String → FileText) (merged : Settings) :
    Prop :=
  Layered env (read (projectFile root)).settings (userText env read).settings merged

theorem merged_overlay (root : String) (env : Environment) (read : String → FileText) :
    Merged root env read ((ofEnvironment env).overlay
      ((read (projectFile root)).settings.overlay (userText env read).settings)) :=
  layered_overlay _ _ _

/-- If the files can be decoded, the merged settings are checked and nothing else. -/
theorem load_of_merged {merged : Settings} (hfiles : FilesDecode root env read)
    (hmerged : Merged root env read merged) : (load root env read).1 = merged.validate := by
  rw [load_of_decodable root hfiles.user,
    ofFile_of_decodable _ hfiles.readable hfiles.project, hmerged.unique (merged_overlay _ _ _)]
  rfl

/-- An error of the project file ends the loading. -/
theorem load_of_project_error {e : ConfigError} (huser : ¬(userText env read).Undecodable)
    (hproject : ofFile (projectFile root) (read (projectFile root)) = .error e) :
    (load root env read).1 = .error e := by
  rw [load_of_decodable root huser, hproject]
  rfl

/-- If the files can be decoded, every error is about a value. -/
theorem error_of_filesDecode {e : ConfigError} (hfiles : FilesDecode root env read)
    (h : (load root env read).1 = .error e) : ∃ field message, e = .invalidValue field message := by
  rw [load_of_merged hfiles (merged_overlay root env read)] at h
  rcases validate_cases ((ofEnvironment env).overlay _) with ⟨hok, -⟩ | ⟨rule, herror, -⟩
  · exact nomatch hok.symm.trans h
  · obtain ⟨field, message, hrule⟩ := rule.exists_error_eq
    exact ⟨field, message, (Except.error.inj (h.symm.trans herror)).trans hrule⟩

/-- What can become of loading: an undecodable user file is reported, then an
unreadable or undecodable project file; otherwise both files can be decoded. -/
theorem load_cases (root : String) (env : Environment) (read : String → FileText) :
    (∃ path message, userFile env = some path ∧ (userText env read).Undecodable ∧
      (load root env read).1 = .error (.undecodable path message)) ∨
    (¬(userText env read).Undecodable ∧ read (projectFile root) = .unreadable ∧
      (load root env read).1 = .error (.fileNotFound (projectFile root))) ∨
    (∃ message, ¬(userText env read).Undecodable ∧ (read (projectFile root)).Undecodable ∧
      (load root env read).1 = .error (.undecodable (projectFile root) message)) ∨
    FilesDecode root env read := by
  by_cases huser : (userText env read).Undecodable
  · cases hpath : userFile env with
    | none =>
      rw [userText, hpath] at huser
      exact huser.elim
    | some path =>
      obtain ⟨message, hload⟩ :=
        load_of_undecodable root hpath (userText_of_userFile hpath read ▸ huser)
      exact .inl ⟨path, message, rfl, huser, hload⟩
  · by_cases hread : read (projectFile root) = .unreadable
    · refine .inr (.inl ⟨huser, hread, load_of_project_error huser ?_⟩)
      rw [hread, ofFile]
    · by_cases hproject : (read (projectFile root)).Undecodable
      · obtain ⟨message, hfile⟩ := ofFile_of_undecodable (projectFile root) hproject
        exact .inr (.inr (.inl ⟨message, huser, hproject, load_of_project_error huser hfile⟩))
      · exact .inr (.inr (.inr ⟨huser, hread, hproject⟩))

/-- The user file is reported exactly if it cannot be decoded. -/
theorem load_user_error_iff :
    (∃ path message, userFile env = some path ∧
        (load root env read).1 = .error (.undecodable path message)) ↔
      (userText env read).Undecodable := by
  constructor
  · rintro ⟨path, message, hpath, hload⟩
    rcases load_cases root env read with ⟨_, _, -, huser, -⟩ | ⟨-, -, h⟩ | ⟨_, -, -, h⟩ | hfiles
    · exact huser
    · exact nomatch hload.symm.trans h
    · -- the project file is reported in the same way, but it is another file
      have hsame : path = projectFile root :=
        (ConfigError.undecodable.inj (Except.error.inj (hload.symm.trans h))).1
      exact absurd (hsame ▸ hpath) (userFile_ne_projectFile env root)
    · obtain ⟨_, _, h⟩ := error_of_filesDecode hfiles hload
      exact nomatch h
  · intro huser
    rcases load_cases root env read with ⟨path, message, hpath, -, hload⟩ | ⟨h, -⟩ | ⟨-, h, -⟩ | h
    · exact ⟨path, message, hpath, hload⟩
    · exact absurd huser h
    · exact absurd huser h
    · exact absurd huser h.user

/-- Otherwise the project file is reported exactly if it is there but cannot be
read or decoded. -/
theorem load_project_error_iff (huser : ¬(userText env read).Undecodable) :
    ((load root env read).1 = .error (.fileNotFound (projectFile root)) ↔
        read (projectFile root) = .unreadable) ∧
      ((∃ message, (load root env read).1 = .error (.undecodable (projectFile root) message)) ↔
        (read (projectFile root)).Undecodable) := by
  rcases load_cases root env read with ⟨-, -, -, h, -⟩ | ⟨-, hread, hload⟩ |
    ⟨message, -, hproject, hload⟩ | hfiles
  · exact absurd h huser
  · rw [hload, hread]
    exact ⟨iff_of_true rfl rfl, iff_of_false (fun ⟨_, h⟩ => nomatch h) id⟩
  · refine ⟨iff_of_false (fun h => nomatch hload.symm.trans h) fun h => ?_,
      iff_of_true ⟨message, hload⟩ hproject⟩
    rw [h] at hproject
    exact hproject
  · refine ⟨iff_of_false ?_ hfiles.readable, iff_of_false ?_ hfiles.project⟩
    · intro hload
      obtain ⟨_, _, h⟩ := error_of_filesDecode hfiles hload
      exact nomatch h
    · rintro ⟨message, hload⟩
      obtain ⟨_, _, h⟩ := error_of_filesDecode hfiles hload
      exact nomatch h

/-- Otherwise the merged settings are loaded exactly if they break no rule. The
error names a rule that they break. -/
theorem load_merged {merged : Settings} (hfiles : FilesDecode root env read)
    (hmerged : Merged root env read merged) :
    ((load root env read).1 = .ok merged ↔ ∀ rule : Rule, ¬rule.Broken merged) ∧
      ((∃ field message, (load root env read).1 = .error (.invalidValue field message)) ↔
        ∃ rule : Rule, rule.Broken merged) ∧
      ∀ rule : Rule, (load root env read).1 = .error rule.error → rule.Broken merged := by
  rw [load_of_merged hfiles hmerged]
  rcases merged.validate_cases with ⟨hok, hrules⟩ | ⟨rule, herror, hfirst⟩
  · rw [hok]
    exact ⟨iff_of_true rfl hrules,
      iff_of_false (fun ⟨_, _, h⟩ => nomatch h) fun ⟨rule, h⟩ => hrules rule h,
      fun _ h => nomatch h⟩
  · rw [herror]
    obtain ⟨field, message, hrule⟩ := rule.exists_error_eq
    refine ⟨iff_of_false (fun h => nomatch h) fun h => h rule hfirst.broken,
      iff_of_true ⟨field, message, congrArg _ hrule⟩ ⟨rule, hfirst.broken⟩, fun rule' h => ?_⟩
    rw [← Rule.error_injective (Except.error.inj h)]
    exact hfirst.broken

/-- An unreadable user file counts as absent. -/
theorem load_of_unreadable_user {path : String} (hpath : userFile env = some path)
    (hread : read path = .unreadable) :
    (load root env read).1 = (load root env (Function.update read path .absent)).1 := by
  have hne : projectFile root ≠ path := fun h => userFile_ne_projectFile env root (h ▸ hpath)
  have htext : userText env read = .unreadable := (userText_of_userFile hpath read).trans hread
  have htext' : userText env (Function.update read path .absent) = .absent := by
    rw [userText_of_userFile hpath, Function.update_self]
  rw [load_of_decodable root (by rw [htext]; exact id),
    load_of_decodable root (by rw [htext']; exact id), htext, htext',
    Function.update_of_ne hne]
  rfl

/-- Loading goes through the layers. An undecodable user file is reported before
anything else, then an unreadable or undecodable project file; an unreadable user
file counts as absent. Otherwise the merged settings, in each field of which is
the value of the first layer that sets it, are loaded if they break no rule, and
else a rule that they break is reported. Files that merge into the same settings
make no difference, so neither does a bad value that a layer above overrides. -/
theorem load_layers (root : String) (env : Environment) (read : String → FileText) :
    ((∃ path message, userFile env = some path ∧
        (load root env read).1 = .error (.undecodable path message)) ↔
      (userText env read).Undecodable) ∧
    (∀ path, userFile env = some path → read path = .unreadable →
      (load root env read).1 = (load root env (Function.update read path .absent)).1) ∧
    (¬(userText env read).Undecodable →
      ((load root env read).1 = .error (.fileNotFound (projectFile root)) ↔
        read (projectFile root) = .unreadable) ∧
      ((∃ message, (load root env read).1 = .error (.undecodable (projectFile root) message)) ↔
        (read (projectFile root)).Undecodable)) ∧
    (FilesDecode root env read →
      (∃ merged, Merged root env read merged) ∧
      ∀ merged, Merged root env read merged →
        ((load root env read).1 = .ok merged ↔ ∀ rule : Rule, ¬rule.Broken merged) ∧
        ((∃ field message, (load root env read).1 = .error (.invalidValue field message)) ↔
          ∃ rule : Rule, rule.Broken merged) ∧
        (∀ rule : Rule, (load root env read).1 = .error rule.error → rule.Broken merged) ∧
        ∀ read', FilesDecode root env read' → Merged root env read' merged →
          (load root env read').1 = (load root env read).1) := by
  refine ⟨load_user_error_iff, fun _ => load_of_unreadable_user, load_project_error_iff,
    fun hfiles => ⟨⟨_, merged_overlay root env read⟩, fun merged hmerged => ?_⟩⟩
  obtain ⟨hok, hinvalid, hrule⟩ := load_merged hfiles hmerged
  refine ⟨hok, hinvalid, hrule, fun read' hfiles' hmerged' => ?_⟩
  rw [load_of_merged hfiles' hmerged', load_of_merged hfiles hmerged]

/-- An environment with a home directory and a list of extensions. -/
def homeEnvironment : Environment :=
  [("HOME", "h"), ("MOTIF_CORPUS_EXTENSIONS", "tsx, .jsx ,")]

/-- The file of a user with a size limit of zero, and of a project with another
one. -/
def overridingFiles (path : String) : FileText :=
  if path = "h/.motif/config.toml" then .readable "[corpus]\nmax_file_size = 0\n"
  else if path = "p/motif.toml" then .readable "[corpus]\nmax_file_size = 8\n"
  else .absent

/-- What the environment and both files merge into. -/
def overridden : Settings := { corpus := { extensions := ["tsx", ".jsx"], maxFileSize := some 8 } }

theorem load_overridingFiles :
    FilesDecode "p" homeEnvironment overridingFiles ∧
      Merged "p" homeEnvironment overridingFiles overridden ∧
      (∀ rule : Rule, ¬rule.Broken overridden) ∧
      (load "p" homeEnvironment overridingFiles).1 = .ok overridden := by
  have huser : userText homeEnvironment overridingFiles =
      .readable "[corpus]\nmax_file_size = 0\n" := by decide +kernel
  have hproject : overridingFiles (projectFile "p") =
      .readable "[corpus]\nmax_file_size = 8\n" := by decide +kernel
  have hfiles : FilesDecode "p" homeEnvironment overridingFiles := by
    constructor
    · rw [huser, FileText.Undecodable]
      decide +kernel
    · rw [hproject]
      nofun
    · rw [hproject, FileText.Undecodable]
      decide +kernel
  have hmerged : Merged "p" homeEnvironment overridingFiles overridden := by
    have hoverlay : (ofEnvironment homeEnvironment).overlay
        ((overridingFiles (projectFile "p")).settings.overlay
          (userText homeEnvironment overridingFiles).settings) = overridden := by
      decide +kernel
    exact hoverlay ▸ merged_overlay "p" homeEnvironment overridingFiles
  have hrules : ∀ rule : Rule, ¬rule.Broken overridden := by
    intro rule hbroken
    have hfails := rule.passes_eq_false_iff.mpr hbroken
    cases rule <;> revert hfails <;> decide +kernel
  obtain ⟨-, -, -, hload⟩ := load_layers "p" homeEnvironment overridingFiles
  obtain ⟨-, hmerging⟩ := hload hfiles
  exact ⟨hfiles, hmerged, hrules, (hmerging overridden hmerged).1.mpr hrules⟩

end Settings

end ComponentLikeness
