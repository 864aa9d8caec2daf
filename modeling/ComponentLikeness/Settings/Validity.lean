import ComponentLikeness.Error
import ComponentLikeness.Settings.Basic

/-!
# Valid settings

The rules that settings must keep. They are looked at in a fixed order, and the
first one that is broken is reported.
-/

namespace ComponentLikeness

open Number Text

namespace Settings

/-- Whether a number lies between zero and one. -/
def isShare (x : Binary64) : Bool :=
  Binary64.le (.finite false 0) x && Binary64.le x (.finite false 1)

/-- A threshold must lie between zero and one. -/
def thresholdFits (s : Settings) : Bool := s.analysis.noveltyThreshold.all isShare

/-- A style attribute must not be blank. -/
def styleAttributesFit (s : Settings) : Bool :=
  s.analysis.styleAttributes.all fun name => !(trim name).isEmpty

/-- A depth limit must not be zero. -/
def maxDepthFits (s : Settings) : Bool := s.analysis.maxDepth.all (· ≠ 0)

/-- An extension must not consist of dots. -/
def extensionsFit (s : Settings) : Bool :=
  s.corpus.extensions.all fun extension => !(dropDots extension).isEmpty

/-- A size limit must not be zero. -/
def maxFileSizeFits (s : Settings) : Bool := s.corpus.maxFileSize.all (· ≠ 0)

/-- The error for the first rule that the settings break. -/
def fault (s : Settings) : Option ConfigError :=
  if !s.thresholdFits then
    some (.invalidValue "analysis.novelty_threshold" "must be between 0.0 and 1.0")
  else if !s.styleAttributesFit then
    some (.invalidValue "analysis.style_attributes" "attribute names must not be empty")
  else if !s.maxDepthFits then
    some (.invalidValue "analysis.max_depth" "must be greater than 0")
  else if !s.extensionsFit then
    some (.invalidValue "corpus.extensions" "extensions must not be empty")
  else if !s.maxFileSizeFits then
    some (.invalidValue "corpus.max_file_size" "must be greater than 0")
  else none

/-- Accept settings that keep all rules. -/
def validate (s : Settings) : Except ConfigError Settings :=
  match s.fault with
  | some e => .error e
  | none => .ok s

end Settings

end ComponentLikeness
