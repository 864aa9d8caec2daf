import ComponentLikeness.Settings.Validity
import ComponentLikeness.Toml.Reader
import ComponentLikeness.Toml.Writer

/-!
# Settings as documents

Settings are kept in TOML documents with the sections `analysis` and `corpus`.
Keys without meaning are ignored, a value of the wrong type is an error, and a
section may also be given as an array of its values in order.
-/

namespace ComponentLikeness

open Number Toml

namespace Settings

/-! ## Reading -/

/-- A reader of values: nothing, if the value is of another type. -/
abbrev Decoder (α : Type) := Value → Option α

/-- A text. -/
def decodeText : Decoder String
  | .string s => some s
  | _ => none

/-- A list of texts. -/
def decodeTexts : Decoder (List String)
  | .array items => items.mapM decodeText
  | .tables [] => some []
  | _ => none

/-- A number; whole ones are rounded if need be. -/
def decodeNumber : Decoder Binary64
  | .float x => some x
  | .integer n => some (.ofRat n)
  | _ => none

/-- A whole number from zero up to a bound. -/
def decodeNatural (bound : Nat) : Decoder Nat
  | .integer n => if 0 ≤ n && n < bound then some n.toNat else none
  | _ => none

/-- A truth value. -/
def decodeFlag : Decoder Bool
  | .boolean b => some b
  | _ => none

/-- Whether the value is an empty array or table. -/
def isEmptyValue : Value → Bool
  | .array items => items.isEmpty
  | .table _ entries => entries.isEmpty
  | .tables items => items.isEmpty
  | _ => false

/-- A prop scope: its name, or a table from its name to nothing. Between braces
there must be one entry; of a table with a header the first one counts. -/
def decodeScope : Decoder PropScope
  | .string s => PropScope.ofName? s
  | .table origin ((name, value) :: rest) =>
    if (origin = .inlined && !rest.isEmpty) || !isEmptyValue value then none
    else PropScope.ofName? name
  | _ => none

/-- A field of a section: by its key in a table, by its place in an array. -/
def field? (section_ : Value) (place : Nat) (key : String) : Option Value :=
  match section_ with
  | .table _ entries => entries.lookup key
  | .array items => items[place]?
  | .tables items => (items[place]?).map (.table .header)
  | _ => none

/-- Read a field with a decoder, if the section has it. -/
def decodeField {α : Type} (decode : Decoder α) (section_ : Value) (place : Nat)
    (key : String) : Option (Option α) :=
  match field? section_ place key with
  | none => some none
  | some value => (decode value).map some

/-- Whether a value can be a section. -/
def isSection : Value → Bool
  | .table .. => true
  | .array _ => true
  | .tables _ => true
  | _ => false

/-- The section `analysis`. -/
def decodeAnalysis (v : Value) : Option AnalysisSettings := do
  if !isSection v then none
  let noveltyThreshold ← decodeField decodeNumber v 0 "novelty_threshold"
  let styleAttributes ← decodeField decodeTexts v 1 "style_attributes"
  let propScope ← decodeField decodeScope v 2 "prop_scope"
  let maxDepth ← decodeField (decodeNatural UInt32.size) v 3 "max_depth"
  return {
    noveltyThreshold
    styleAttributes := styleAttributes.getD []
    propScope
    maxDepth := maxDepth.map Nat.toUInt32 }

/-- The section `corpus`. -/
def decodeCorpus (v : Value) : Option CorpusSettings := do
  if !isSection v then none
  let extensions ← decodeField decodeTexts v 0 "extensions"
  let maxFileSize ← decodeField (decodeNatural UInt64.size) v 1 "max_file_size"
  let parallel ← decodeField decodeFlag v 2 "parallel"
  let cacheCapacity ← decodeField (decodeNatural UInt64.size) v 3 "cache_capacity"
  return {
    extensions := extensions.getD []
    maxFileSize := maxFileSize.map Nat.toUInt64
    parallel
    cacheCapacity := cacheCapacity.map Nat.toUInt64 }

/-- The settings that the entries of a document hold. -/
def decode (entries : Entries) : Option Settings := do
  let document := Value.table .header entries
  let analysis ← decodeField decodeAnalysis document 0 "analysis"
  let corpus ← decodeField decodeCorpus document 1 "corpus"
  return { analysis := analysis.getD {}, corpus := corpus.getD {} }

/-- The settings of a document that came from `path`, valid or not. -/
def ofDocument (path text : String) : Except ConfigError Settings :=
  match Toml.parse? text with
  | none => .error (.undecodable path "the text is no TOML document")
  | some entries =>
    match decode entries with
    | none => .error (.undecodable path "a value has the wrong type")
    | some settings => .ok settings

/-- The settings of a text; they must be valid. -/
def ofToml (text : String) : Except ConfigError Settings :=
  match ofDocument "<string>" text with
  | .error e => .error e
  | .ok settings => settings.validate

/-! ## Writing -/

/-- An entry for a field that is set. -/
def entry {α : Type} (key : String) (write : α → Setting) : Option α → List (String × Setting)
  | some value => [(key, write value)]
  | none => []

/-- The sections of a document with the settings. -/
def sections (s : Settings) : List (String × List (String × Setting)) :=
  [("analysis",
      entry "novelty_threshold" .float s.analysis.noveltyThreshold ++
      [("style_attributes", .texts s.analysis.styleAttributes)] ++
      entry "prop_scope" (fun scope => .text scope.name) s.analysis.propScope ++
      entry "max_depth" (fun n => .number n.toNat) s.analysis.maxDepth),
    ("corpus",
      [("extensions", .texts s.corpus.extensions)] ++
      entry "max_file_size" (fun n => .number n.toNat) s.corpus.maxFileSize ++
      entry "parallel" .boolean s.corpus.parallel ++
      entry "cache_capacity" (fun n => .number n.toNat) s.corpus.cacheCapacity)]

/-- The settings as a document. -/
def toToml (s : Settings) : Except ConfigError String :=
  match Toml.write? s.sections with
  | some text => .ok text
  | none => .error (.undecodable "<serialization>" "a whole number is too large")

end Settings

end ComponentLikeness
