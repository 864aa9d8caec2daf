import ComponentLikeness.Comparison
import ComponentLikeness.Proofs.Corpus.SideBySide

/-!
# Comparing and loading agree

What loading and comparing come to is said without sessions: `corpusAt` and
`comparisonAt` know neither a store nor turns nor events. Under a transparent
invariant the steps of a session answer just that (`Transparent.loadCorpus`,
`Transparent.compare`), so whatever relates the two plain functions relates the
steps.

Comparing lists the directory, reads the candidate and only then the members.
Without a store it is nonetheless the same as loading the corpus first and
classifying the candidate in it, warnings and errors included
(`compare_agrees_with_loading`).
-/

namespace ComponentLikeness

open Component Files Number Similarity

/-! ## Answers without sessions -/

/-- The corpus of a listing, with the warnings of the listing and behind them one
for each file that does not become a member. -/
def Corpus.ofListing (settings : Settings) (listing : Report (List MemberFile)) :
    Report Corpus :=
  let outcomes := listing.data.map (MemberFile.outcomeOf settings)
  { data := ⟨membersOf outcomes⟩, warnings := listing.warnings ++ failuresOf outcomes }

/-- The corpus at a path. -/
def corpusAt (settings : Settings) (directory : String) (folder : Option Folder) :
    Except AnalysisError (Report Corpus) :=
  match listFiles settings.corpus directory folder with
  | .error e => .error (.corpus e)
  | .ok listing => .ok (Corpus.ofListing settings listing)

/-- The comparison of a candidate with the corpus at a path. -/
def comparisonAt (settings : Settings) (candidate directory : String)
    (folder : Option Folder) : Except AnalysisError (Report (Classification Binary64)) :=
  match listFiles settings.corpus directory folder with
  | .error e => .error (.corpus e)
  | .ok listing =>
    match Fingerprint.ofSource settings.analysis candidate with
    | .error e => .error (.source e)
    | .ok f => .ok ((Corpus.ofListing settings listing).map (classifyIn settings f))

/-- The texts of the component files of a directory that are read. -/
def folderTexts (settings : Settings) (directory : String) : Option Folder → List String
  | none => []
  | some folder => textsOf settings (listFolder settings.corpus directory folder).data

/-! ## Steps under a transparent invariant -/

namespace Transparent

variable {settings : Settings} {texts : Set String} {I : Session → Prop}

theorem ofFiles (h : Transparent settings.analysis texts I)
    {listing : Report (List MemberFile)}
    (ht : ∀ text ∈ textsOf settings listing.data, text ∈ texts) (turns : List Nat) :
    Yields I (Corpus.ofFiles settings turns listing) (· = Corpus.ofListing settings listing) := by
  unfold Corpus.ofFiles
  split
  · refine .bind (h.loadByTurns ht turns) ?_
    rintro _ rfl
    exact .bind (h.tellAll _) fun _ _ => .bind (h.tell _) fun _ _ => .pure rfl
  · refine .bind (h.loadInOrder ht) ?_
    rintro _ rfl
    exact .bind (h.tellAll _) fun _ _ => .bind (h.tell _) fun _ _ => .pure rfl

theorem list (h : Transparent settings.analysis texts I) (directory : String)
    (folder : Option Folder) :
    Yields I (Corpus.list settings directory folder)
      (· = listFiles settings.corpus directory folder) := by
  cases folder with
  | none => exact .pure rfl
  | some folder => exact .bind (h.tellAll _) fun _ _ => .pure rfl

theorem loadCorpus (h : Transparent settings.analysis texts I) {directory : String}
    {folder : Option Folder} (ht : ∀ text ∈ folderTexts settings directory folder, text ∈ texts)
    (turns : List Nat) :
    Yields I (loadCorpus settings turns directory folder)
      (· = corpusAt settings directory folder) := by
  unfold ComponentLikeness.loadCorpus Corpus.load
  cases folder with
  | none => exact .pure rfl
  | some folder =>
    simp only [bind_assoc]
    refine .bind (h.list directory (some folder)) ?_
    rintro _ rfl
    simp only [listFiles, bind_assoc, pure_bind]
    refine .bind (h.ofFiles ht turns) ?_
    rintro _ rfl
    exact .pure rfl

/-- The texts of the members matter only if the candidate is read. -/
theorem compare (h : Transparent settings.analysis texts I) {candidate directory : String}
    {folder : Option Folder} (hc : folder ≠ none → candidate ∈ texts)
    (ht : ∀ f, Fingerprint.ofSource settings.analysis candidate = .ok f →
      ∀ text ∈ folderTexts settings directory folder, text ∈ texts)
    (turns : List Nat) :
    Yields I (compare settings turns candidate directory folder)
      (· = comparisonAt settings candidate directory folder) := by
  unfold ComponentLikeness.compare comparisonAt
  cases folder with
  | none => exact .pure rfl
  | some folder =>
    refine .bind (h.list directory (some folder)) ?_
    rintro _ rfl
    refine .bind (h.fingerprint (hc (by simp))) fun answer ha => ?_
    cases answer with
    | error e => exact .pure (by rw [← ha]; rfl)
    | ok f =>
      refine .bind (h.ofFiles (ht f ha.symm) turns) ?_
      rintro _ rfl
      exact .bind (h.tell _) fun _ _ => .pure (by rw [← ha]; rfl)

end Transparent

/-! ## Without a store -/

/-- What a step answers in a session. -/
def SessionM.answer {α : Type} (x : SessionM α) (s : Session) : α := (x.run s).1

theorem Yields.answer_eq {α : Type} {I : Session → Prop} {x : SessionM α} {a : α}
    (h : Yields I x (· = a)) {s : Session} (hs : I s) : x.answer s = a :=
  (h s hs).1

section Cacheless

variable (settings : Settings) (turns : List Nat) (candidate directory : String)
  (folder : Option Folder) (events : Array LogEvent)

theorem fingerprint_answer :
    (Session.fingerprint settings.analysis candidate).answer { events } =
      Fingerprint.ofSource settings.analysis candidate :=
  ((transparent_cacheless _).fingerprint (Set.mem_univ _)).answer_eq rfl

theorem loadCorpus_answer :
    (loadCorpus settings turns directory folder).answer { events } =
      corpusAt settings directory folder :=
  ((transparent_cacheless _).loadCorpus (fun _ _ => Set.mem_univ _) turns).answer_eq rfl

theorem compare_answer :
    (compare settings turns candidate directory folder).answer { events } =
      comparisonAt settings candidate directory folder :=
  ((transparent_cacheless _).compare (fun _ => Set.mem_univ _)
    (fun _ _ _ _ => Set.mem_univ _) turns).answer_eq rfl

end Cacheless

/-- Comparing without a store agrees with loading the corpus first. A path that
is not that of a directory is reported before anything else; then the candidate
is refused just as it is by itself; otherwise the answer classifies it in the
corpus that loading gives, under the warnings that loading gives. There is no
other error, whatever becomes of the members. -/
theorem compare_agrees_with_loading (settings : Settings) (turns turns' : List Nat)
    (candidate directory : String) (folder : Option Folder)
    (events events' events'' : Array LogEvent) :
    ((compare settings turns candidate directory folder).answer { events } =
        .error (.corpus (.notDirectory directory)) ↔ folder = none) ∧
    (folder ≠ none → ∀ cause,
      (compare settings turns candidate directory folder).answer { events } =
          .error (.source cause) ↔
        (Session.fingerprint settings.analysis candidate).answer { events := events' } =
          .error cause) ∧
    (folder ≠ none → ∀ f,
      (Session.fingerprint settings.analysis candidate).answer { events := events' } = .ok f →
        ∃ loaded,
          (loadCorpus settings turns' directory folder).answer { events := events'' } =
            .ok loaded ∧
          (compare settings turns candidate directory folder).answer { events } =
            .ok { data := classifyIn settings f loaded.data, warnings := loaded.warnings }) ∧
    (∀ e, (compare settings turns candidate directory folder).answer { events } = .error e →
      folder = none ∧ e = .corpus (.notDirectory directory) ∨
      ∃ cause, e = .source cause ∧
        (Session.fingerprint settings.analysis candidate).answer { events := events' } =
          .error cause) := by
  -- what is left relates two plain functions of the directory and the candidate
  rw [fingerprint_answer, loadCorpus_answer, compare_answer]
  unfold comparisonAt corpusAt
  cases folder with
  | none => simp [listFiles]
  | some folder =>
    cases hf : Fingerprint.ofSource settings.analysis candidate with
    | error cause => simp [listFiles]
    | ok f => simp [listFiles, Report.map]

end ComponentLikeness
