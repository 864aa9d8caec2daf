import ComponentLikeness.Corpus.Basic
import ComponentLikeness.Corpus.Listing
import ComponentLikeness.Session

/-!
# Loading members

A listed file becomes a member if it is small enough, is a text and has a
fingerprint; otherwise the first of these that fails is reported.
-/

namespace ComponentLikeness

open Component Files

namespace MemberFile

/-- The text of a file that is not too large. -/
def readText (limit : Nat) (file : MemberFile) : Except CorpusError String :=
  match file.state.size with
  | .error reason => .error (.unreadable file.path reason)
  | .ok size =>
    if limit < size then .error (.tooLarge file.path size limit)
    else
      match file.state.text with
      | .error reason => .error (.unreadable file.path reason)
      | .ok text => .ok text

/-- The member that a file becomes with its fingerprint, or the reason why it
becomes none. -/
def outcome (file : MemberFile) : Except SourceError Fingerprint → Except CorpusError CorpusEntry
  | .ok fingerprint => .ok { id := file.name, path := file.path, fingerprint }
  | .error cause => .error (.unparsable file.path cause)

/-- Load a file as a member. -/
def load (settings : Settings) (file : MemberFile) :
    SessionM (Except CorpusError CorpusEntry) :=
  match file.readText settings.corpus.effectiveMaxFileSize.toNat with
  | .error e => return .error e
  | .ok text => do
    return file.outcome (← Session.fingerprint settings.analysis text)

end MemberFile

end ComponentLikeness
