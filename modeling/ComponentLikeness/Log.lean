import ComponentLikeness.Error
import ComponentLikeness.Number.Binary64
import ComponentLikeness.Text.Printable

/-!
# Log events

What the library tells about its work, besides its answers. Each event has a
level, a message and further fields; a warning also has the error behind it.
-/

namespace ComponentLikeness

open Number Text

/-- How much an event matters. -/
inductive LogLevel where
  | trace
  | debug
  | warn
deriving DecidableEq, Repr

/-- The name of a level. -/
def LogLevel.name : LogLevel → String
  | trace => "TRACE"
  | debug => "DEBUG"
  | warn => "WARN"

/-- Something that has happened. -/
inductive LogEvent where
  /-- An entry of the directory could not be followed. -/
  | unlistable (directory : String) (cause : CorpusError)
  /-- A fingerprint was computed, with so many props and style tokens. -/
  | fingerprinted (name : String) (props styleTokens : Nat)
  /-- A file was left out of the corpus. -/
  | skipped (cause : CorpusError)
  /-- A corpus was loaded, with so many members and warnings. -/
  | loaded (members skipped : Nat)
  /-- A candidate was compared with a corpus. -/
  | classified (corpus : String) (similarity : Binary64) (matched : Option String)
      (novel consistent : Bool)
  /-- The settings of the user could not be read. -/
  | userSettingsIgnored (cause : ConfigError)
deriving DecidableEq, Repr

/-- The value of a field. -/
inductive LogValue where
  | text (s : String)
  | number (n : Nat)
  | float (x : Binary64)
  | boolean (b : Bool)
deriving DecidableEq, Repr

/-! ## Quoting -/

/-- A character between quotes. -/
def quotedChar (c : Char) : List Char :=
  if c = '"' then ['\\', '"']
  else if c = '\\' then ['\\', '\\']
  else if c = '\n' then ['\\', 'n']
  else if c = '\r' then ['\\', 'r']
  else if c = '\t' then ['\\', 't']
  else if c = '\x00' then ['\\', '0']
  else if isPrintable c then [c]
  else "\\u\x7b".toList ++ Nat.toDigits 16 c.toNat ++ ['\x7d']

/-- A text in quotes. -/
def quoted (text : String) : String :=
  String.ofList ('"' :: text.toList.flatMap quotedChar ++ ['"'])

/-- The name of a match that there may be. -/
def matchText : Option String → String
  | some id => "Some(" ++ quoted id ++ ")"
  | none => "None"

namespace LogEvent

/-- The level of an event. -/
def level : LogEvent → LogLevel
  | unlistable .. | skipped _ | userSettingsIgnored _ => .warn
  | fingerprinted .. => .trace
  | loaded .. | classified .. => .debug

/-- The message of an event. -/
def message : LogEvent → String
  | unlistable .. => "failed to list corpus entry"
  | fingerprinted .. => "fingerprinted component"
  | skipped _ => "skipping corpus member"
  | loaded .. => "corpus fingerprinted"
  | classified .. => "candidate classified"
  | userSettingsIgnored _ => "ignoring unreadable user config"

/-- The further fields of an event, besides its error. -/
def fields : LogEvent → List (String × LogValue)
  | unlistable directory _ => [("dir", .text directory)]
  | fingerprinted name props styleTokens =>
    [("name", .text name), ("props", .number props), ("style_tokens", .number styleTokens)]
  | skipped cause => [("file", .text cause.path)]
  | loaded members others => [("members", .number members), ("skipped", .number others)]
  | classified corpus similarity matched novel consistent =>
    [("corpus", .text corpus), ("similarity", .float similarity),
      ("matched", .text (matchText matched)), ("novel", .boolean novel),
      ("consistent", .boolean consistent)]
  | userSettingsIgnored _ => []

/-- The field for the error behind a warning. Of an entry that could not be followed,
only what the system said is given. -/
def error? : LogEvent → Option String
  | unlistable _ cause => cause.reason?
  | skipped cause => some cause.message
  | userSettingsIgnored cause => some cause.message
  | fingerprinted .. | loaded .. | classified .. => none

end LogEvent

/-- Install the sink of all events: answers that a sink is there now, and
whether it is this one. -/
def installSink (installed : Bool) : Bool × Bool := (true, !installed)

end ComponentLikeness
