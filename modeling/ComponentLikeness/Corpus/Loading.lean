import ComponentLikeness.Corpus.Workers

/-!
# Loading a corpus

The listed files that become members, in the order of the listing, with a
warning for every other one behind the warnings of the listing.
-/

namespace ComponentLikeness

/-- The members among some outcomes, in order. -/
def membersOf (outcomes : List (Except CorpusError CorpusEntry)) : List CorpusEntry :=
  outcomes.filterMap Except.toOption

/-- The error of an outcome, if it is one. -/
def failure? : Except CorpusError CorpusEntry → Option CorpusError
  | .ok _ => none
  | .error e => some e

/-- The errors among some outcomes, in order. -/
def failuresOf (outcomes : List (Except CorpusError CorpusEntry)) : List CorpusError :=
  outcomes.filterMap failure?

namespace Corpus

/-- Load the listed files. `turns` orders the work if it is done side by side. -/
def ofFiles (settings : Settings) (turns : List Nat) (listing : Report (List MemberFile)) :
    SessionM (Report Corpus) := do
  let outcomes ←
    if settings.corpus.effectiveParallel then loadByTurns settings turns listing.data
    else loadInOrder settings listing.data
  let failures := failuresOf outcomes
  let report : Report Corpus :=
    { data := ⟨membersOf outcomes⟩, warnings := listing.warnings ++ failures }
  Session.tellAll (failures.map .skipped)
  Session.tell (.loaded report.data.size report.warningCount)
  return report

/-- List the component files of a directory. -/
def list (settings : Settings) (directory : String) (folder : Option Files.Folder) :
    SessionM (Except CorpusError (Report (List MemberFile))) :=
  match listFiles settings.corpus directory folder with
  | .error e => return .error e
  | .ok listing => do
    Session.tellAll (listing.warnings.map (.unlistable directory))
    return .ok listing

/-- Load the corpus in a directory. -/
def load (settings : Settings) (turns : List Nat) (directory : String)
    (folder : Option Files.Folder) : SessionM (Except CorpusError (Report Corpus)) := do
  match ← list settings directory folder with
  | .error e => return .error e
  | .ok listing => return .ok (← ofFiles settings turns listing)

end Corpus

end ComponentLikeness
