import ComponentLikeness.Corpus.Loading
import ComponentLikeness.Similarity.Classification
import ComponentLikeness.Similarity.Ranking

/-!
# Comparisons

A candidate's source text against the corpus in a directory. The directory is
listed first, then the candidate is read, then the members are; a candidate
that cannot be read ends the comparison, a member that cannot be is left out.
-/

namespace ComponentLikeness

open Component Number Similarity

/-- Classify a candidate against a loaded corpus, in doubles. -/
def classifyIn (settings : Settings) (candidate : Fingerprint) (corpus : Corpus) :
    Classification Binary64 :=
  classify settings.analysis.effectiveNoveltyThreshold candidate corpus

/-- The event of a classification. -/
def classifiedEvent (directory : String) (c : Classification Binary64) : LogEvent :=
  .classified directory c.similarity c.matched c.isNovel c.isConsistent

/-- Load the corpus in a directory. -/
def loadCorpus (settings : Settings) (turns : List Nat) (directory : String)
    (folder : Option Files.Folder) : SessionM (Except AnalysisError (Report Corpus)) := do
  match ← Corpus.load settings turns directory folder with
  | .error e => return .error (.corpus e)
  | .ok report => return .ok report

/-- Compare a candidate with the corpus in a directory. -/
def compare (settings : Settings) (turns : List Nat) (candidate directory : String)
    (folder : Option Files.Folder) :
    SessionM (Except AnalysisError (Report (Classification Binary64))) := do
  match ← Corpus.list settings directory folder with
  | .error e => return .error (.corpus e)
  | .ok listing =>
    match ← Session.fingerprint settings.analysis candidate with
    | .error e => return .error (.source e)
    | .ok fingerprint =>
      let report := (← Corpus.ofFiles settings turns listing).map (classifyIn settings fingerprint)
      Session.tell (classifiedEvent directory report.data)
      return .ok report

/-- Rank the members of the corpus in a directory for a candidate. -/
def rankIn (settings : Settings) (turns : List Nat) (candidate directory : String)
    (folder : Option Files.Folder) :
    SessionM (Except AnalysisError (Report (List (Ranked Binary64)))) := do
  match ← Session.fingerprint settings.analysis candidate with
  | .error e => return .error (.source e)
  | .ok fingerprint =>
    match ← loadCorpus settings turns directory folder with
    | .error e => return .error e
    | .ok report => return .ok (report.map (rank fingerprint))

end ComponentLikeness
