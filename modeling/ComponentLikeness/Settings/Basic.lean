import ComponentLikeness.Number.Decimal
import ComponentLikeness.Text.Words

/-!
# Settings

The settings of a comparison. Every setting can be left open; an empty list
counts as open. What an open setting amounts to is said by the functions whose
names begin with `effective`.
-/

namespace ComponentLikeness

open Number Text

/-- The functions whose first parameter contributes to the props. -/
inductive PropScope where
  /-- Every function declaration of the file. -/
  | allFunctions
  /-- Only the function that is exported by default. -/
  | defaultExport
deriving DecidableEq, Repr, Inhabited

namespace PropScope

/-- The name of a scope. -/
def name : PropScope → String
  | allFunctions => "all_functions"
  | defaultExport => "default_export"

/-- The scope of a name as written in settings files. -/
def ofName? (name : String) : Option PropScope :=
  if name = "all_functions" then some allFunctions
  else if name = "default_export" then some defaultExport
  else none

/-- The scope meant by a text, which may differ in case and outer blanks, or
the message why there is none. -/
def parse (text : String) : Except String PropScope :=
  let word := asciiLower (trim text)
  if word = "all" then .ok allFunctions
  else
    match ofName? word with
    | some scope => .ok scope
    | none => .error ("unknown prop scope '" ++ word ++ "'")

theorem ofName_name (s : PropScope) : ofName? s.name = some s := by
  cases s <;> rfl

end PropScope

/-- Settings for fingerprints and their classification. -/
structure AnalysisSettings where
  /-- The similarity below which a consistent candidate is novel. -/
  noveltyThreshold : Option Binary64 := none
  /-- The attributes whose literal values are style tokens. -/
  styleAttributes : List String := []
  propScope : Option PropScope := none
  /-- How deep a syntax tree may be. -/
  maxDepth : Option UInt32 := none
deriving DecidableEq, Inhabited

/-- Settings for reading a corpus. -/
structure CorpusSettings where
  /-- File name extensions of members. -/
  extensions : List String := []
  /-- The size in bytes beyond which a file is skipped. -/
  maxFileSize : Option UInt64 := none
  /-- Whether members are loaded side by side. -/
  parallel : Option Bool := none
  /-- How many fingerprints are remembered; none if zero. -/
  cacheCapacity : Option UInt64 := none
deriving DecidableEq, Inhabited

/-- All settings. -/
structure Settings where
  analysis : AnalysisSettings := {}
  corpus : CorpusSettings := {}
deriving DecidableEq, Inhabited

namespace AnalysisSettings

/-- The threshold, one half if open. -/
def effectiveNoveltyThreshold (s : AnalysisSettings) : Binary64 :=
  s.noveltyThreshold.getD (.finite false (1 / 2))

/-- The style attributes, `className` and `css` if open. -/
def effectiveStyleAttributes (s : AnalysisSettings) : List String :=
  if s.styleAttributes.isEmpty then ["className", "css"] else s.styleAttributes

/-- The scope, all functions if open. -/
def effectivePropScope (s : AnalysisSettings) : PropScope := s.propScope.getD .allFunctions

/-- The depth limit, 256 if open. -/
def effectiveMaxDepth (s : AnalysisSettings) : UInt32 := s.maxDepth.getD 256

end AnalysisSettings

/-- The extension without its leading dots. -/
def dropDots (extension : String) : List Char := extension.toList.dropWhile (· = '.')

namespace CorpusSettings

/-- The extensions in lower case without leading dots, `tsx` if open. -/
def effectiveExtensions (s : CorpusSettings) : List String :=
  if s.extensions.isEmpty then ["tsx"]
  else s.extensions.map fun e => asciiLower (String.ofList (dropDots e))

/-- The size limit, 1 MiB if open. -/
def effectiveMaxFileSize (s : CorpusSettings) : UInt64 := s.maxFileSize.getD 1048576

/-- Members are loaded side by side if open. -/
def effectiveParallel (s : CorpusSettings) : Bool := s.parallel.getD true

/-- Nothing is remembered if open. -/
def effectiveCacheCapacity (s : CorpusSettings) : UInt64 := s.cacheCapacity.getD 0

end CorpusSettings

end ComponentLikeness
