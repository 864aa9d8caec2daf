/-!
# Errors

What can go wrong, as causes: with a source text, with a member of a corpus or
the corpus as a whole, with the settings, and with a comparison that needs all
three. Each cause has a code and a message.
-/

namespace ComponentLikeness

/-- What an error is about. -/
inductive ErrorCode where
  | parse
  | corpus
  | config
deriving DecidableEq, Repr

/-- The stable text of a code. -/
def ErrorCode.text : ErrorCode → String
  | parse => "PARSE_ERROR"
  | corpus => "CORPUS_ERROR"
  | config => "CONFIG_ERROR"

/-! ## Source texts -/

/-- Why a source text is refused. Lines and columns count from one. -/
inductive SourceError where
  /-- The text does not fit the grammar; the place is that of the first fault. -/
  | invalid (faults line column : Nat)
  /-- An element is closed under another name. -/
  | mismatchedTag (opening closing : String) (line : Nat)
  /-- Some node lies more than `limit` levels below the root. -/
  | tooDeep (limit line : Nat)
  /-- There is no grammar to read with. -/
  | noGrammar (message : String)
  /-- Reading gave up. -/
  | noTree
deriving DecidableEq, Repr

namespace SourceError

/-- Every such error is about parsing. -/
def code (_ : SourceError) : ErrorCode := .parse

/-- The text of the error. -/
def message : SourceError → String
  | invalid faults line column =>
    "Syntax error at " ++ toString line ++ ":" ++ toString column ++ " (" ++ toString faults ++
      " error nodes)"
  | mismatchedTag opening closing line =>
    "Expected closing tag for <" ++ opening ++ "> but found </" ++ closing ++ "> at line " ++
      toString line
  | tooDeep limit line =>
    "Nesting exceeds " ++ toString limit ++ " levels at line " ++ toString line
  | noGrammar message => "Failed to load grammar: " ++ message
  | noTree => "Parser returned no tree"

end SourceError

/-! ## Corpora -/

/-- What keeps a corpus, or a member of it, from being read. -/
inductive CorpusError where
  | notDirectory (path : String)
  /-- An entry of the directory cannot be followed. -/
  | unlistable (path message : String)
  | unreadable (path message : String)
  | tooLarge (path : String) (size limit : Nat)
  | unparsable (path : String) (source : SourceError)
deriving DecidableEq, Repr

namespace CorpusError

/-- The path that the error is about. -/
def path : CorpusError → String
  | notDirectory path | unlistable path _ | unreadable path _ | tooLarge path _ _
  | unparsable path _ => path

/-- What the system said about an entry that cannot be followed. -/
def reason? : CorpusError → Option String
  | unlistable _ message => some message
  | _ => none

/-- Whether no corpus is left to compare with. -/
def isFatal : CorpusError → Bool
  | notDirectory _ => true
  | _ => false

/-- The code, which is that of the source if the source is at fault. -/
def code : CorpusError → ErrorCode
  | unparsable _ source => source.code
  | _ => .corpus

/-- The text of the error. -/
def message : CorpusError → String
  | notDirectory path => "Corpus path is not a readable directory: " ++ path
  | unlistable path message =>
    "Failed to list corpus entry under " ++ path ++ ": " ++ message
  | unreadable path message => "Failed to read " ++ path ++ ": " ++ message
  | tooLarge path size limit =>
    "Skipping " ++ path ++ ": " ++ toString size ++ " bytes exceeds limit of " ++ toString limit
  | unparsable path source => "Failed to parse " ++ path ++ ": " ++ source.message

end CorpusError

/-! ## Settings -/

/-- Why settings are refused. -/
inductive ConfigError where
  | fileNotFound (path : String)
  /-- The text is no TOML, or holds a value of the wrong type. -/
  | undecodable (path message : String)
  | invalidValue (field message : String)
deriving DecidableEq, Repr

namespace ConfigError

/-- Every such error is about the settings. -/
def code (_ : ConfigError) : ErrorCode := .config

/-- The text of the error. -/
def message : ConfigError → String
  | fileNotFound path => "Config file not found: " ++ path
  | undecodable path message => "Failed to parse config " ++ path ++ ": " ++ message
  | invalidValue field message => "Invalid value for " ++ field ++ ": " ++ message

end ConfigError

/-! ## Comparisons -/

/-- Why there is nothing to report. -/
inductive AnalysisError where
  | source (cause : SourceError)
  | corpus (cause : CorpusError)
  | config (cause : ConfigError)
deriving DecidableEq, Repr

namespace AnalysisError

/-- The code of the cause. -/
def code : AnalysisError → ErrorCode
  | source cause => cause.code
  | corpus cause => cause.code
  | config cause => cause.code

/-- The text of the error. -/
def message : AnalysisError → String
  | source cause => "Parse error: " ++ cause.message
  | corpus cause => "Corpus error: " ++ cause.message
  | config cause => "Configuration error: " ++ cause.message

end AnalysisError

end ComponentLikeness
