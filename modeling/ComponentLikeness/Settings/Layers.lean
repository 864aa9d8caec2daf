import ComponentLikeness.Log
import ComponentLikeness.Settings.Document
import ComponentLikeness.Text.Fields

/-!
# Layers of settings

The settings of a project come from four places, each overriding those behind
it field by field: the environment, the file of the project, the file of the
user, and the defaults.
-/

namespace ComponentLikeness

open Number Text

/-- What is found at the path of a file. -/
inductive FileText where
  | absent
  /-- Something is there, but it cannot be read as text. -/
  | unreadable
  | readable (text : String)
deriving DecidableEq, Repr, Inhabited

/-- Variables of the environment with their values. -/
abbrev Environment := List (String × String)

namespace Settings

/-! ## Overriding -/

/-- The list, or the other one if it is empty. -/
def listOr (upper lower : List String) : List String := if upper.isEmpty then lower else upper

/-- The settings of the upper layer where it has any, else of the lower one. -/
def overlay (upper lower : Settings) : Settings where
  analysis := {
    noveltyThreshold := upper.analysis.noveltyThreshold.or lower.analysis.noveltyThreshold
    styleAttributes := listOr upper.analysis.styleAttributes lower.analysis.styleAttributes
    propScope := upper.analysis.propScope.or lower.analysis.propScope
    maxDepth := upper.analysis.maxDepth.or lower.analysis.maxDepth }
  corpus := {
    extensions := listOr upper.corpus.extensions lower.corpus.extensions
    maxFileSize := upper.corpus.maxFileSize.or lower.corpus.maxFileSize
    parallel := upper.corpus.parallel.or lower.corpus.parallel
    cacheCapacity := upper.corpus.cacheCapacity.or lower.corpus.cacheCapacity }

/-! ## The environment -/

/-- A truth value as a variable gives it. -/
def flag? (text : String) : Option Bool :=
  if text = "true" then some true else if text = "false" then some false else none

/-- The items between commas, without outer blanks and empty ones. -/
def listItems (text : String) : List String :=
  ((fields ',' text).map trim).filter fun item => !item.isEmpty

/-- A variable, if it is set and its value can be read. -/
def setting? {α : Type} (env : Environment) (name : String) (read : String → Option α) :
    Option α :=
  (env.lookup name).bind read

/-- The settings in the environment. A value that cannot be read counts as
unset. -/
def ofEnvironment (env : Environment) : Settings where
  analysis := {
    noveltyThreshold := setting? env "MOTIF_ANALYSIS_NOVELTY_THRESHOLD" Binary64.parse?
    propScope := setting? env "MOTIF_ANALYSIS_PROP_SCOPE" fun t => (PropScope.parse t).toOption
    maxDepth :=
      (setting? env "MOTIF_ANALYSIS_MAX_DEPTH" (parseBounded? UInt32.size)).map Nat.toUInt32 }
  corpus := {
    extensions := (setting? env "MOTIF_CORPUS_EXTENSIONS" fun t => some (listItems t)).getD []
    maxFileSize :=
      (setting? env "MOTIF_CORPUS_MAX_FILE_SIZE" (parseBounded? UInt64.size)).map Nat.toUInt64
    parallel := setting? env "MOTIF_CORPUS_PARALLEL" flag?
    cacheCapacity :=
      (setting? env "MOTIF_CORPUS_CACHE_CAPACITY" (parseBounded? UInt64.size)).map Nat.toUInt64 }

/-! ## Files -/

/-- The home directory of the user. -/
def homeDirectory (env : Environment) : Option String :=
  (env.lookup "HOME").or (env.lookup "USERPROFILE")

/-- The settings file of the user. -/
def userFile (env : Environment) : Option String :=
  (homeDirectory env).map fun home => joinPath (joinPath home ".motif") "config.toml"

/-- The settings file of a project. -/
def projectFile (root : String) : String := joinPath root "motif.toml"

/-- The settings of a file; those of an absent file are all open. -/
def ofFile (path : String) : FileText → Except ConfigError Settings
  | .absent => .ok {}
  | .unreadable => .error (.fileNotFound path)
  | .readable text => ofDocument path text

/-- The settings of the user, and the error for which their file was passed over if
it cannot be read. -/
def ofUser (env : Environment) (read : String → FileText) :
    Except ConfigError Settings × Option ConfigError :=
  match userFile env with
  | none => (.ok {}, none)
  | some path =>
    match ofFile path (read path) with
    | .error (.fileNotFound path) => (.ok {}, some (.fileNotFound path))
    | result => (result, none)

/-- The settings for the project in a directory, and the events on the way. -/
def load (root : String) (env : Environment) (read : String → FileText) :
    Except ConfigError Settings × List LogEvent :=
  let (user, ignored) := ofUser env read
  let events := ignored.toList.map LogEvent.userSettingsIgnored
  let result := do
    let user ← user
    let project ← ofFile (projectFile root) (read (projectFile root))
    ((ofEnvironment env).overlay (project.overlay user)).validate
  (result, events)

end Settings

end ComponentLikeness
