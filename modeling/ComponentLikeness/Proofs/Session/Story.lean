import ComponentLikeness.Proofs.Corpus.SideBySide
import ComponentLikeness.Proofs.Session.Runs
import Mathlib

/-!
# The log and the warnings tell the same story

What is written down while a corpus is loaded can be said from the report alone, apart
from which fingerprints had to be computed (`story`): the entries that could not be
followed, the fingerprints, the files that were left out and the numbers of members and
warnings. The log and the warnings are kept by different steps. Listing warns of
entries and tells of them at once. Single files are warned of when they are loaded, but
told of when all have been, and which of them tell of a fingerprint is up to the store
at the time of each (`freshMembers`).

Files are loaded one after the other here. Side by side, the order of the fingerprints
in the log is up to the workers.
-/

namespace ComponentLikeness

open Component Files Number Similarity

/-! ## Warnings of listings and of files -/

/-- Whether the error is about an entry that could not be followed. -/
def CorpusError.isUnlistable : CorpusError → Bool
  | unlistable .. => true
  | _ => false

theorem isUnlistable_of_mem_listing {settings : CorpusSettings} {directory : String}
    {folder : Folder} {w : CorpusError} (h : w ∈ (listFolder settings directory folder).warnings) :
    w.isUnlistable := by
  obtain ⟨⟨name, state⟩, -, hw⟩ := List.mem_filterMap.mp h
  cases state with
  | file state => exact nomatch hw
  | folder => exact nomatch hw
  | broken reason =>
    obtain rfl := Option.some.inj hw
    rfl

theorem MemberFile.isUnlistable_of_readText {file : MemberFile} {limit : Nat} {e : CorpusError}
    (h : file.readText limit = .error e) : e.isUnlistable = false := by
  rw [readText] at h
  split at h
  · obtain rfl := Except.error.inj h
    rfl
  · split at h
    · obtain rfl := Except.error.inj h
      rfl
    · split at h
      · obtain rfl := Except.error.inj h
        rfl
      · exact nomatch h

theorem MemberFile.isUnlistable_of_load {settings : Settings} {file : MemberFile}
    {s s' : Session} {e : CorpusError} (h : (file.load settings).run s = (.error e, s')) :
    e.isUnlistable = false := by
  rcases load_cases h with ⟨e', hread, heq, -⟩ | ⟨text, answer, -, -, heq⟩
  · exact Except.error.inj heq ▸ isUnlistable_of_readText hread
  · cases answer with
    | ok f => exact nomatch heq
    | error cause =>
      obtain rfl := Except.error.inj heq
      rfl

/-! ## What is written down -/

/-- An event as it is written down. -/
structure LogRecord where
  level : LogLevel
  message : String
  fields : List (String × LogValue)
  /-- The error behind a warning. -/
  error? : Option String := none

def LogEvent.record (event : LogEvent) : LogRecord :=
  ⟨event.level, event.message, event.fields, event.error?⟩

/-- All that has been written down so far. -/
def Session.log (s : Session) : List LogRecord := s.events.toList.map LogEvent.record

theorem Session.log_told (s : Session) (events : List LogEvent) :
    (s.told events).log = s.log ++ events.map LogEvent.record := by
  simp [log]

/-- The record of a fingerprint that was computed. -/
def computedRecord (f : Fingerprint) : LogRecord :=
  { level := .trace
    message := "fingerprinted component"
    fields := [("name", .text f.name), ("props", .number f.props.size),
      ("style_tokens", .number f.styleTokens.size)] }

/-- The record of an entry that could not be followed, with what the system said. -/
def unlistableRecord (directory : String) (w : CorpusError) : LogRecord :=
  { level := .warn
    message := "failed to list corpus entry"
    fields := [("dir", .text directory)]
    error? := w.reason? }

/-- The record of a file that was left out, with the text of the warning. -/
def skippedRecord (w : CorpusError) : LogRecord :=
  { level := .warn
    message := "skipping corpus member"
    fields := [("file", .text w.path)]
    error? := some w.message }

/-- The record of the numbers of members and warnings. -/
def loadedRecord (members skipped : Nat) : LogRecord :=
  { level := .debug
    message := "corpus fingerprinted"
    fields := [("members", .number members), ("skipped", .number skipped)] }

/-- The records of a corpus in a directory, given the fingerprints that were computed,
the warnings that are reported and the number of members: the entries that could not be
followed, the fingerprints, the files that were left out, and the numbers. -/
def story (directory : String) (computed : List Fingerprint) (warnings : List CorpusError)
    (members : Nat) : List LogRecord :=
  (warnings.filter CorpusError.isUnlistable).map (unlistableRecord directory) ++
    computed.map computedRecord ++
    (warnings.filter fun w => !w.isUnlistable).map skippedRecord ++
    [loadedRecord members warnings.length]

/-- The record of a classification. -/
def classifiedRecord (directory : String) (c : Classification Binary64) : LogRecord :=
  { level := .debug
    message := "candidate classified"
    fields := [("corpus", .text directory), ("similarity", .float c.similarity),
      ("matched", .text (matchText c.matched)), ("novel", .boolean c.isNovel),
      ("consistent", .boolean c.isConsistent)] }

/-! ## Fingerprints that are computed -/

/-- Whether the store serves the fingerprint of a text if it is asked now. -/
def Session.serves (s : Session) (text : String) : Bool := (s.served? text).isSome

/-- The fingerprint of a text, if it is computed now. -/
def freshFingerprint (s : Session) (text : String) (f : Fingerprint) : List Fingerprint :=
  if s.serves text then [] else [f]

/-- The member that a file becomes, if its fingerprint is computed now. -/
def freshMember (settings : Settings) (s : Session) (file : MemberFile) : List CorpusEntry :=
  if (file.text? settings).any s.serves then []
  else ((file.load settings).run s).1.toOption.toList

/-- The members, in the order of the files, whose fingerprints are computed when the
files are loaded one after the other. -/
def freshMembers (settings : Settings) : List MemberFile → Session → List CorpusEntry
  | [], _ => []
  | file :: files, s =>
    freshMember settings s file ++ freshMembers settings files ((file.load settings).run s).2

section Loading

variable {settings : Settings} {s s' : Session}

/-- A fingerprint is written down if it had to be computed, and nothing else is. -/
theorem log_fingerprint {text : String} {f : Fingerprint}
    (h : (Session.fingerprint settings.analysis text).run s = (.ok f, s')) :
    s'.log = s.log ++ (freshFingerprint s text f).map computedRecord := by
  rcases Session.fingerprint_cases h with
    ⟨g, hserved, -, rfl⟩ | ⟨g, hmissed, -, hg, rfl⟩ | ⟨e, -, -, he, -⟩
  · rw [freshFingerprint, Session.serves, hserved]
    exact (List.append_nil _).symm
  · rw [freshFingerprint, Session.serves, hmissed, Except.ok.inj hg]
    exact s.aged.log_told _
  · exact nomatch he

/-- A text that is refused is not written of. -/
theorem log_fingerprint_of_error {text : String} {e : SourceError}
    (h : (Session.fingerprint settings.analysis text).run s = (.error e, s')) :
    s'.log = s.log := by
  rcases Session.fingerprint_cases h with
    ⟨g, -, hg, -⟩ | ⟨g, -, -, hg, -⟩ | ⟨e', -, -, -, rfl⟩
  · exact nomatch hg
  · exact nomatch hg
  · rfl

theorem log_load (file : MemberFile) :
    ((file.load settings).run s).2.log =
      s.log ++ (freshMember settings s file).map fun e => computedRecord e.fingerprint := by
  obtain ⟨outcome, s', hrun⟩ : ∃ outcome s', (file.load settings).run s = (outcome, s') :=
    ⟨_, _, rfl⟩
  rw [freshMember, hrun]
  rcases file.load_cases hrun with ⟨e, hread, rfl, rfl⟩ | ⟨text, answer, hread, hanswer, rfl⟩
  · simp [Except.toOption]
  · rw [MemberFile.text?_of_readText hread, Option.any_some]
    cases answer with
    | error e =>
      rw [log_fingerprint_of_error hanswer]
      simp [MemberFile.outcome, Except.toOption]
    | ok f =>
      rw [log_fingerprint hanswer, freshFingerprint]
      split <;> rfl

theorem run_loadInOrder_cons (file : MemberFile) (files : List MemberFile) :
    (loadInOrder settings (file :: files)).run s =
      (((file.load settings).run s).1 ::
        ((loadInOrder settings files).run ((file.load settings).run s).2).1,
      ((loadInOrder settings files).run ((file.load settings).run s).2).2) := by
  rw [loadInOrder, List.mapM_cons]
  rfl

/-- One after the other, the fingerprints that had to be computed are written down. -/
theorem log_loadInOrder (settings : Settings) (files : List MemberFile) (s : Session) :
    ((loadInOrder settings files).run s).2.log =
      s.log ++ (freshMembers settings files s).map fun e => computedRecord e.fingerprint := by
  induction files generalizing s with
  | nil => exact (List.append_nil _).symm
  | cons file files ih =>
    rw [run_loadInOrder_cons, ih, log_load, freshMembers, List.map_append, List.append_assoc]

/-- The members whose fingerprints are computed are among all, in the same order. -/
theorem freshMembers_sublist (settings : Settings) (files : List MemberFile) (s : Session) :
    (freshMembers settings files s).Sublist
      (membersOf ((loadInOrder settings files).run s).1) := by
  induction files generalizing s with
  | nil => exact .slnil
  | cons file files ih =>
    rw [run_loadInOrder_cons, freshMembers, freshMember]
    cases h : ((file.load settings).run s).1 with
    | error e =>
      rw [Except.toOption, Option.toList_none, ite_self]
      exact ih _
    | ok entry =>
      split
      · exact (ih _).cons entry
      · exact (ih _).cons_cons entry

theorem isUnlistable_of_loadInOrder (settings : Settings) (files : List MemberFile) (s : Session) :
    ∀ e ∈ failuresOf ((loadInOrder settings files).run s).1, e.isUnlistable = false := by
  induction files generalizing s with
  | nil => exact nofun
  | cons file files ih =>
    intro e he
    rw [run_loadInOrder_cons, failuresOf, List.mem_filterMap] at he
    obtain ⟨outcome, hmem, he⟩ := he
    rcases List.mem_cons.mp hmem with rfl | hmem
    · obtain ⟨outcome, s', hrun⟩ : ∃ outcome s', (file.load settings).run s = (outcome, s') :=
        ⟨_, _, rfl⟩
      rw [hrun] at he
      cases outcome with
      | ok entry => exact nomatch he
      | error e' => exact Option.some.inj he ▸ MemberFile.isUnlistable_of_load hrun
    · exact ih _ e (List.mem_filterMap.mpr ⟨outcome, hmem, he⟩)

end Loading

/-! ## The story -/

section Story

variable {settings : Settings} {s s' s'' : Session} {turns : List Nat} {directory : String}
  {listing : Report (List MemberFile)}

/-- The warnings about entries are those of the listing, and the others those about
files. -/
theorem filter_isUnlistable_ofOutcomes {outcomes : List (Except CorpusError CorpusEntry)}
    (hlisting : ∀ w ∈ listing.warnings, w.isUnlistable)
    (houtcomes : ∀ e ∈ failuresOf outcomes, e.isUnlistable = false) :
    (Corpus.ofOutcomes listing outcomes).warnings.filter CorpusError.isUnlistable =
        listing.warnings ∧
      ((Corpus.ofOutcomes listing outcomes).warnings.filter fun w => !w.isUnlistable) =
        failuresOf outcomes := by
  rw [Corpus.ofOutcomes, List.filter_append, List.filter_append]
  refine ⟨?_, ?_⟩
  · rw [List.filter_eq_self.mpr hlisting, List.filter_eq_nil_iff.mpr (by simpa using houtcomes),
      List.append_nil]
  · rw [List.filter_eq_nil_iff.mpr (by simpa using hlisting),
      List.filter_eq_self.mpr (by simpa using houtcomes), List.nil_append]

/-- Loading the files of a listing writes down the rest of the story, behind what has
been written of the listing and of a candidate. -/
theorem log_ofFiles (hparallel : settings.corpus.effectiveParallel = false)
    (hlisting : ∀ w ∈ listing.warnings, w.isUnlistable) {computed : List Fingerprint}
    (hs : s'.log = (s.told (listing.warnings.map (.unlistable directory))).log ++
      computed.map computedRecord) {corpus : Report Corpus}
    (hload : (Corpus.ofFiles settings turns listing).run s' = (corpus, s'')) :
    s''.log = s.log ++ story directory
      (computed ++ (freshMembers settings listing.data s').map CorpusEntry.fingerprint)
      corpus.warnings corpus.data.size ∧
    (freshMembers settings listing.data s').Sublist corpus.data.entries := by
  obtain ⟨outcomes, s₁, hrun⟩ : ∃ outcomes s₁,
    (loadInOrder settings listing.data).run s' = (outcomes, s₁) := ⟨_, _, rfl⟩
  have hfiles : (loadFiles settings turns listing.data).run s' = (outcomes, s₁) := by
    rw [loadFiles, hparallel]
    exact hrun
  have hlog := log_loadInOrder settings listing.data s'
  have hfresh := freshMembers_sublist settings listing.data s'
  have hfailures := isUnlistable_of_loadInOrder settings listing.data s'
  rw [hrun] at hlog hfresh hfailures
  -- the warnings come apart into those of the listing and those of the files
  rw [Corpus.run_ofFiles hfiles] at hload
  obtain ⟨rfl, rfl⟩ := Prod.mk.inj hload
  obtain ⟨hunlistable, hothers⟩ := filter_isUnlistable_ofOutcomes hlisting hfailures
  refine ⟨?_, hfresh⟩
  rw [story, hunlistable, hothers, Session.log_told, Session.log_told, hlog, hs,
    Session.log_told]
  simp only [List.map_append, List.map_map, List.append_assoc]
  rfl

end Story

/-- What is written down and the warnings tell the same story, whatever the store holds,
when files are loaded one after the other. Loading a corpus writes down the story of its
report: of each warning of the listing, with what the system said; of each member whose
fingerprint had to be computed, in the order of the members; of each other warning, with
its path and its text and in the order of the warnings; and at last of the numbers of
members and warnings. A comparison writes the same of its corpus, with the candidate in
front of the members if its fingerprint had to be computed, and then the classification
that it answers. If the candidate is refused, only the listing is written of, and where
there is no directory, nothing is. -/
theorem log_tells_story (settings : Settings)
    (hparallel : settings.corpus.effectiveParallel = false) (s : Session) (turns : List Nat)
    (candidate directory : String) :
    (∀ folder report s',
      (loadCorpus settings turns directory (some folder)).run s = (.ok report, s') →
        ∃ fresh, fresh = freshMembers settings (listFolder settings.corpus directory folder).data
            (s.listed settings directory folder) ∧
          fresh.Sublist report.data.entries ∧
          s'.log = s.log ++ story directory (fresh.map CorpusEntry.fingerprint) report.warnings
            report.data.size) ∧
    (∀ folder report s',
      (compare settings turns candidate directory (some folder)).run s = (.ok report, s') →
        ∃ f s₁ corpus s₂ fresh,
          (Session.fingerprint settings.analysis candidate).run
            (s.listed settings directory folder) = (.ok f, s₁) ∧
          (Corpus.ofFiles settings turns (listFolder settings.corpus directory folder)).run s₁ =
            (corpus, s₂) ∧
          report = corpus.map (classifyIn settings f) ∧
          fresh = freshMembers settings (listFolder settings.corpus directory folder).data s₁ ∧
          fresh.Sublist corpus.data.entries ∧
          s'.log = s.log ++ story directory
            (freshFingerprint (s.listed settings directory folder) candidate f ++
              fresh.map CorpusEntry.fingerprint) report.warnings corpus.data.size ++
            [classifiedRecord directory report.data]) ∧
    (∀ folder cause s',
      (compare settings turns candidate directory (some folder)).run s =
          (.error (.source cause), s') →
        s'.log = s.log ++ (listFolder settings.corpus directory folder).warnings.map
          (unlistableRecord directory)) ∧
    ((loadCorpus settings turns directory none).run s).2.log = s.log ∧
    ((compare settings turns candidate directory none).run s).2.log = s.log := by
  refine ⟨?loading, ?comparing, ?refused, rfl, rfl⟩
  case loading =>
    intro folder report s' h
    obtain ⟨corpus, s₁, hload⟩ : ∃ corpus s₁, (Corpus.ofFiles settings turns
      (listFolder settings.corpus directory folder)).run (s.listed settings directory folder) =
        (corpus, s₁) := ⟨_, _, rfl⟩
    rw [run_loadCorpus_of_folder hload] at h
    obtain ⟨hreport, rfl⟩ := Prod.mk.inj h
    obtain rfl := Except.ok.inj hreport
    have hstart : (s.listed settings directory folder).log =
        (s.listed settings directory folder).log ++ ([] : List Fingerprint).map computedRecord :=
      (List.append_nil _).symm
    obtain ⟨hlog, hsublist⟩ := log_ofFiles hparallel (fun _ => isUnlistable_of_mem_listing)
      hstart hload
    exact ⟨_, rfl, hsublist, hlog⟩
  case comparing =>
    intro folder report s' h
    rcases compare_cases h with ⟨e, -, he⟩ | ⟨f, s₁, corpus, s₂, hanswer, hload, hreport, rfl⟩
    · exact nomatch he
    · obtain rfl := Except.ok.inj hreport
      obtain ⟨hlog, hsublist⟩ := log_ofFiles hparallel (fun _ => isUnlistable_of_mem_listing)
        (log_fingerprint hanswer) hload
      refine ⟨f, s₁, corpus, s₂, _, hanswer, hload, rfl, rfl, hsublist, ?_⟩
      rw [Session.log_told, hlog]
      rfl
  case refused =>
    intro folder cause s' h
    rcases compare_cases h with ⟨e, hanswer, -⟩ | ⟨f, s₁, corpus, s₂, -, -, he, -⟩
    · rw [log_fingerprint_of_error hanswer, Session.listed, Session.log_told, List.map_map]
      rfl
    · exact nomatch he

/-- A directory with a link that leads nowhere, a file of eight bytes and one of six. -/
def unreadFolder : Folder where
  entries := [("B.tsx", .broken "nowhere"), ("A.tsx", .file (.ofBytes "<i b=c/>".toUTF8)),
    ("C.tsx", .file (.ofBytes "<i b/>".toUTF8))]

/-- Files of at most six bytes are loaded one after the other. -/
def smallInOrder : Settings := { corpus := { maxFileSize := some 6, parallel := some false } }

/-- A session that remembers the fingerprint of the shorter file. -/
def elementRemembered : Session where
  cache := some ((FingerprintCache.ofCapacity 1).insert "<i b/>" { signature := "<i b />" })

/-- The corpus of the directory in that session. -/
def unreadReport : Report Corpus where
  data := ⟨[{ id := "C.tsx", path := "d/C.tsx", fingerprint := { signature := "<i b />" } }]⟩
  warnings := [.unlistable "d" "nowhere", .tooLarge "d/A.tsx" 8 6]

/-- What is written of it: nothing of the fingerprint, which is served. -/
def unreadRecords : List LogRecord :=
  [⟨.warn, "failed to list corpus entry", [("dir", .text "d")], some "nowhere"⟩,
    ⟨.warn, "skipping corpus member", [("file", .text "d/A.tsx")],
      some "Skipping d/A.tsx: 8 bytes exceeds limit of 6"⟩,
    ⟨.debug, "corpus fingerprinted", [("members", .number 1), ("skipped", .number 2)], none⟩]

/-- What a comparison of the same text answers there. -/
def unreadAnswer : Report (Classification Binary64) where
  data := {
    isNovel := false
    isConsistent := false
    similarity := .ofQuotient false 1 3
    matched := some "C.tsx" }
  warnings := unreadReport.warnings

/-- What is written of the answer. -/
def unreadClassified : LogRecord where
  level := .debug
  message := "candidate classified"
  fields := [("corpus", .text "d"), ("similarity", .float (.ofQuotient false 1 3)),
    ("matched", .text "Some(\"C.tsx\")"), ("novel", .boolean false), ("consistent", .boolean false)]

theorem story_unreadReport : story "d" [] unreadReport.warnings 1 = unreadRecords := by
  have hmessage : (CorpusError.tooLarge "d/A.tsx" 8 6).message =
    "Skipping d/A.tsx: 8 bytes exceeds limit of 6" := by decide +kernel
  have hskipped : skippedRecord (.tooLarge "d/A.tsx" 8 6) = ⟨.warn, "skipping corpus member",
      [("file", .text "d/A.tsx")], some "Skipping d/A.tsx: 8 bytes exceeds limit of 6"⟩ := by
    rw [skippedRecord, hmessage]
    rfl
  rw [unreadRecords, ← hskipped]
  rfl

set_option maxRecDepth 2000 in
theorem log_tells_story_unreadFolder :
    smallInOrder.corpus.effectiveParallel = false ∧
    (∃ s', (loadCorpus smallInOrder [] "d" (some unreadFolder)).run elementRemembered =
        (.ok unreadReport, s') ∧
      s'.log = unreadRecords) ∧
    ∃ s', (compare smallInOrder [] "<i b/>" "d" (some unreadFolder)).run elementRemembered =
        (.ok unreadAnswer, s') ∧
      s'.log = unreadRecords ++ [unreadClassified] := by
  obtain ⟨hload, hcompare, -⟩ := log_tells_story smallInOrder rfl elementRemembered [] "<i b/>" "d"
  refine ⟨rfl, ?loading, ?comparing⟩
  case loading =>
    obtain ⟨answer, s', hrun⟩ : ∃ answer s',
      (loadCorpus smallInOrder [] "d" (some unreadFolder)).run elementRemembered =
        (answer, s') := ⟨_, _, rfl⟩
    obtain rfl : .ok unreadReport = answer := by
      refine Eq.trans ?_ (congrArg Prod.fst hrun)
      cbv
    obtain ⟨fresh, hfresh, -, hlog⟩ := hload unreadFolder unreadReport s' hrun
    obtain rfl : fresh = [] := hfresh.trans (by cbv)
    exact ⟨s', hrun, hlog.trans story_unreadReport⟩
  case comparing =>
    obtain ⟨answer, s', hrun⟩ : ∃ answer s',
      (compare smallInOrder [] "<i b/>" "d" (some unreadFolder)).run elementRemembered =
        (answer, s') := ⟨_, _, rfl⟩
    obtain rfl : .ok unreadAnswer = answer := by
      refine Eq.trans ?_ (congrArg Prod.fst hrun)
      cbv
    obtain ⟨f, s₁, corpus, s₂, fresh, hserved, hcorpus, -, hfresh, -, hlog⟩ :=
      hcompare unreadFolder unreadAnswer s' hrun
    -- the candidate and the only member are served
    obtain rfl := congrArg Prod.snd hserved
    obtain rfl : unreadReport = corpus := by
      refine Eq.trans ?_ (congrArg Prod.fst hcorpus)
      cbv
    have hcandidate : freshFingerprint (elementRemembered.listed smallInOrder "d" unreadFolder)
      "<i b/>" f = [] := by cbv
    obtain rfl : fresh = [] := hfresh.trans (by cbv)
    have hclassified : classifiedRecord "d" unreadAnswer.data = unreadClassified := by cbv
    rw [hcandidate, hclassified] at hlog
    exact ⟨s', hrun, hlog.trans (congrArg (· ++ [unreadClassified]) story_unreadReport)⟩

end ComponentLikeness
