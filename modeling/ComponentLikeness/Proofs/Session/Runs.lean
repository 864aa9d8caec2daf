import ComponentLikeness.Comparison

/-!
# What steps come to

A step is run in a session and gives an answer and another session. Here is, for
each step that asks for fingerprints, what its run comes to in each case, in terms
of the runs of the steps that it is made of: fingerprinting a text that is served
from the store, computed or refused, loading a file, listing and loading a corpus,
and comparing. The cases of a step are also given together
(`Session.fingerprint_cases`, `MemberFile.load_cases`, `compare_cases`). Whatever is
said of the store or of the events after a step can be read off from these.
-/

namespace ComponentLikeness

open Component Files Number Similarity

theorem SessionM.run_bind {α β : Type} (x : SessionM α) (f : α → SessionM β) (s : Session) :
    (x >>= f).run s = (f (x.run s).1).run (x.run s).2 := rfl

/-! ## Sessions after single steps -/

namespace Session

/-- The session a moment later. -/
def aged (s : Session) : Session := { s with cache := s.cache.map (·.age) }

/-- The session with further events told. -/
def told (s : Session) (events : List LogEvent) : Session :=
  { s with events := s.events ++ events.toArray }

/-- The session with the fingerprint of a text remembered. -/
def remembering (s : Session) (text : String) (f : Fingerprint) : Session :=
  { s with cache := s.cache.map fun c => c.insert text f }

/-- The fingerprint that the store serves if it is asked for that of a text. -/
def served? (s : Session) (text : String) : Option Fingerprint :=
  s.aged.cache.bind fun c => c.get? text

variable {s : Session}

@[simp] theorem events_told (events : List LogEvent) :
    (s.told events).events = s.events ++ events.toArray := rfl

theorem run_lookup (text : String) : (lookup text).run s = (s.served? text, s.aged) := rfl

theorem run_remember (text : String) (f : Fingerprint) :
    (remember text f).run s = ((), s.remembering text f) := rfl

theorem run_tell (event : LogEvent) : (tell event).run s = ((), s.told [event]) := by
  rw [told, ← Array.push_eq_append]
  rfl

theorem run_tellAll (events : List LogEvent) : (tellAll events).run s = ((), s.told events) := rfl

section Fingerprint

variable {settings : AnalysisSettings} {text : String} {f : Fingerprint}

theorem run_compute_of_ok (hf : Fingerprint.ofSource settings text = .ok f) :
    (compute settings text).run s = (.ok f, s.told [computedEvent f]) := by
  simp only [compute, hf, SessionM.run_bind, run_tell]
  rfl

theorem run_compute_of_error {e : SourceError}
    (he : Fingerprint.ofSource settings text = .error e) :
    (compute settings text).run s = (.error e, s) := by
  rw [compute, he]
  rfl

/-- A fingerprint that is served leaves nothing but the moment. -/
theorem run_fingerprint_of_served (h : s.served? text = some f) :
    (fingerprint settings text).run s = (.ok f, s.aged) := by
  rw [fingerprint, SessionM.run_bind, run_lookup]
  simp only [h]
  rfl

/-- A fingerprint that is not served is computed, told and remembered. -/
theorem run_fingerprint_of_ok (h : s.served? text = none)
    (hf : Fingerprint.ofSource settings text = .ok f) :
    (fingerprint settings text).run s =
      (.ok f, (s.aged.told [computedEvent f]).remembering text f) := by
  rw [fingerprint, SessionM.run_bind, run_lookup]
  simp only [h, SessionM.run_bind, run_compute_of_ok hf, run_remember]
  rfl

/-- A text that is refused leaves nothing but the moment. -/
theorem run_fingerprint_of_error {e : SourceError} (h : s.served? text = none)
    (he : Fingerprint.ofSource settings text = .error e) :
    (fingerprint settings text).run s = (.error e, s.aged) := by
  rw [fingerprint, SessionM.run_bind, run_lookup]
  simp only [h, SessionM.run_bind, run_compute_of_error he]
  rfl

/-- A fingerprint is served, or it is computed and remembered, or the text is refused. -/
theorem fingerprint_cases {answer : Except SourceError Fingerprint} {s' : Session}
    (h : (fingerprint settings text).run s = (answer, s')) :
    (∃ f, s.served? text = some f ∧ answer = .ok f ∧ s' = s.aged) ∨
    (∃ f, s.served? text = none ∧ Fingerprint.ofSource settings text = .ok f ∧ answer = .ok f ∧
      s' = (s.aged.told [computedEvent f]).remembering text f) ∨
    (∃ e, s.served? text = none ∧ Fingerprint.ofSource settings text = .error e ∧
      answer = .error e ∧ s' = s.aged) := by
  cases hserved : s.served? text with
  | some f =>
    rw [run_fingerprint_of_served hserved] at h
    obtain ⟨rfl, rfl⟩ := Prod.mk.inj h
    exact .inl ⟨f, rfl, rfl, rfl⟩
  | none =>
    cases hsource : Fingerprint.ofSource settings text with
    | ok f =>
      rw [run_fingerprint_of_ok hserved hsource] at h
      obtain ⟨rfl, rfl⟩ := Prod.mk.inj h
      exact .inr (.inl ⟨f, rfl, rfl, rfl, rfl⟩)
    | error e =>
      rw [run_fingerprint_of_error hserved hsource] at h
      obtain ⟨rfl, rfl⟩ := Prod.mk.inj h
      exact .inr (.inr ⟨e, rfl, rfl, rfl, rfl⟩)

/-- The events of what a store has answered: that of a fingerprint which had to be
computed. -/
def answeredEvents (answer : FingerprintCache.Answer SourceError) : List LogEvent :=
  if answer.computed then answer.result.toOption.toList.map computedEvent else []

/-- A session with a store asks the store, a moment later, and tells if that had to
compute. -/
theorem run_fingerprint_of_cache {c : FingerprintCache} (hc : s.cache = some c) :
    (fingerprint settings text).run s =
      let answer := c.age.getOrCompute text (Fingerprint.ofSource settings)
      (answer.result,
        { cache := some answer.cache, events := s.events ++ (answeredEvents answer).toArray }) := by
  have haged : s.aged.cache = some c.age := by rw [aged, hc]; rfl
  have hserved : s.served? text = c.age.get? text := by rw [served?, haged]; rfl
  unfold FingerprintCache.getOrCompute
  cases hget : c.age.get? text with
  | some f =>
    rw [run_fingerprint_of_served (hserved.trans hget)]
    simp [answeredEvents, aged, hc]
  | none =>
    cases hsource : Fingerprint.ofSource settings text with
    | ok f =>
      rw [run_fingerprint_of_ok (hserved.trans hget) hsource]
      simp [answeredEvents, Except.toOption, remembering, told, aged, hc]
    | error e =>
      rw [run_fingerprint_of_error (hserved.trans hget) hsource]
      simp [answeredEvents, Except.toOption, aged, hc]

end Fingerprint

end Session

/-! ## Files and corpora -/

section Corpus

variable {settings : Settings} {s s' s'' : Session}

theorem MemberFile.run_load_of_error {file : MemberFile} {e : CorpusError}
    (h : file.readText settings.corpus.effectiveMaxFileSize.toNat = .error e) :
    (file.load settings).run s = (.error e, s) := by
  rw [load, h]
  rfl

theorem MemberFile.run_load_of_text {file : MemberFile} {text : String}
    {answer : Except SourceError Fingerprint}
    (h : file.readText settings.corpus.effectiveMaxFileSize.toNat = .ok text)
    (hrun : (Session.fingerprint settings.analysis text).run s = (answer, s')) :
    (file.load settings).run s = (file.outcome answer, s') := by
  rw [load, h]
  simp only [SessionM.run_bind, hrun]
  rfl

/-- A file is not read, or its text is fingerprinted. -/
theorem MemberFile.load_cases {file : MemberFile} {outcome : Except CorpusError CorpusEntry}
    (h : (file.load settings).run s = (outcome, s')) :
    (∃ e, file.readText settings.corpus.effectiveMaxFileSize.toNat = .error e ∧
      outcome = .error e ∧ s' = s) ∨
    ∃ text answer, file.readText settings.corpus.effectiveMaxFileSize.toNat = .ok text ∧
      (Session.fingerprint settings.analysis text).run s = (answer, s') ∧
      outcome = file.outcome answer := by
  cases hread : file.readText settings.corpus.effectiveMaxFileSize.toNat with
  | error e =>
    rw [run_load_of_error hread] at h
    obtain ⟨rfl, rfl⟩ := Prod.mk.inj h
    exact .inl ⟨e, rfl, rfl, rfl⟩
  | ok text =>
    rw [run_load_of_text hread rfl] at h
    obtain ⟨rfl, rfl⟩ := Prod.mk.inj h
    exact .inr ⟨text, _, rfl, rfl, rfl⟩

/-- Load the files, one after the other or side by side as the settings say. -/
def loadFiles (settings : Settings) (turns : List Nat) (files : List MemberFile) :
    SessionM (List (Except CorpusError CorpusEntry)) :=
  if settings.corpus.effectiveParallel then loadByTurns settings turns files
  else loadInOrder settings files

/-- The corpus and the warnings that outcomes of listed files come to. -/
def Corpus.ofOutcomes (listing : Report (List MemberFile))
    (outcomes : List (Except CorpusError CorpusEntry)) : Report Corpus :=
  { data := ⟨membersOf outcomes⟩, warnings := listing.warnings ++ failuresOf outcomes }

variable {turns : List Nat} {listing : Report (List MemberFile)}
  {outcomes : List (Except CorpusError CorpusEntry)}

/-- Behind the files that were left out, the numbers of members and of warnings are
told. -/
theorem Corpus.run_ofFiles (h : (loadFiles settings turns listing.data).run s = (outcomes, s')) :
    (Corpus.ofFiles settings turns listing).run s =
      (ofOutcomes listing outcomes,
        (s'.told ((failuresOf outcomes).map .skipped)).told
          [.loaded (ofOutcomes listing outcomes).data.size
            (ofOutcomes listing outcomes).warningCount]) := by
  have hfiles : Corpus.ofFiles settings turns listing = loadFiles settings turns listing.data >>=
      fun outcomes => do
        Session.tellAll ((failuresOf outcomes).map .skipped)
        Session.tell (.loaded (ofOutcomes listing outcomes).data.size
          (ofOutcomes listing outcomes).warningCount)
        return ofOutcomes listing outcomes := by
    rw [Corpus.ofFiles, loadFiles]
    cases settings.corpus.effectiveParallel <;> rfl
  rw [hfiles]
  simp only [SessionM.run_bind, h, Session.run_tellAll, Session.run_tell]
  rfl

end Corpus

/-! ## Calls -/

/-- The session when a directory has been listed: each entry that cannot be followed
has been told of. -/
def Session.listed (settings : Settings) (directory : String) (folder : Folder) (s : Session) :
    Session :=
  s.told ((listFolder settings.corpus directory folder).warnings.map (.unlistable directory))

section Calls

variable {settings : Settings} {turns : List Nat} {candidate directory : String}
  {folder : Folder} {s s' s'' : Session}

theorem run_list :
    (Corpus.list settings directory (some folder)).run s =
      (.ok (listFolder settings.corpus directory folder), s.listed settings directory folder) := rfl

/-- Where there is no directory, nothing happens. -/
theorem run_loadCorpus_none :
    (loadCorpus settings turns directory none).run s =
      (.error (.corpus (.notDirectory directory)), s) := rfl

theorem run_loadCorpus_of_folder {corpus : Report Corpus}
    (h : (Corpus.ofFiles settings turns (listFolder settings.corpus directory folder)).run
      (s.listed settings directory folder) = (corpus, s')) :
    (loadCorpus settings turns directory (some folder)).run s = (.ok corpus, s') := by
  have hrun : (loadCorpus settings turns directory (some folder)).run s =
      ((Corpus.ofFiles settings turns (listFolder settings.corpus directory folder)).run
        (s.listed settings directory folder)).map .ok id := rfl
  rw [hrun, h]
  rfl

theorem run_compare_none :
    (compare settings turns candidate directory none).run s =
      (.error (.corpus (.notDirectory directory)), s) := rfl

/-- A candidate that is refused ends the comparison behind the listing. -/
theorem run_compare_of_error {e : SourceError}
    (h : (Session.fingerprint settings.analysis candidate).run
      (s.listed settings directory folder) = (.error e, s')) :
    (compare settings turns candidate directory (some folder)).run s =
      (.error (.source e), s') := by
  rw [compare, SessionM.run_bind, run_list]
  simp only [SessionM.run_bind, h]
  rfl

/-- Otherwise the members are loaded next, and the classification is told last. -/
theorem run_compare_of_ok {f : Fingerprint} {corpus : Report Corpus}
    (h : (Session.fingerprint settings.analysis candidate).run
      (s.listed settings directory folder) = (.ok f, s'))
    (hload : (Corpus.ofFiles settings turns (listFolder settings.corpus directory folder)).run s' =
      (corpus, s'')) :
    (compare settings turns candidate directory (some folder)).run s =
      (.ok (corpus.map (classifyIn settings f)),
        s''.told [classifiedEvent directory (classifyIn settings f corpus.data)]) := by
  rw [compare, SessionM.run_bind, run_list]
  simp only [SessionM.run_bind, h, hload, Session.run_tell]
  rfl

/-- In a directory, the candidate is refused or the members are loaded next. -/
theorem compare_cases {answer : Except AnalysisError (Report (Classification Binary64))}
    (h : (compare settings turns candidate directory (some folder)).run s = (answer, s'')) :
    (∃ e,
      (Session.fingerprint settings.analysis candidate).run (s.listed settings directory folder) =
        (.error e, s'') ∧
      answer = .error (.source e)) ∨
    ∃ f s' corpus s₁,
      (Session.fingerprint settings.analysis candidate).run (s.listed settings directory folder) =
        (.ok f, s') ∧
      (Corpus.ofFiles settings turns (listFolder settings.corpus directory folder)).run s' =
        (corpus, s₁) ∧
      answer = .ok (corpus.map (classifyIn settings f)) ∧
      s'' = s₁.told [classifiedEvent directory (classifyIn settings f corpus.data)] := by
  obtain ⟨read, s', hread⟩ : ∃ read s', (Session.fingerprint settings.analysis candidate).run
    (s.listed settings directory folder) = (read, s') := ⟨_, _, rfl⟩
  cases read with
  | error e =>
    rw [run_compare_of_error hread] at h
    obtain ⟨rfl, rfl⟩ := Prod.mk.inj h
    exact .inl ⟨e, hread, rfl⟩
  | ok f =>
    obtain ⟨corpus, s₁, hload⟩ : ∃ corpus s₁, (Corpus.ofFiles settings turns
      (listFolder settings.corpus directory folder)).run s' = (corpus, s₁) := ⟨_, _, rfl⟩
    rw [run_compare_of_ok hread hload] at h
    obtain ⟨rfl, rfl⟩ := Prod.mk.inj h
    exact .inr ⟨f, s', corpus, s₁, hread, hload, rfl, rfl⟩

/-- A candidate that is accepted is compared, whatever the store holds. -/
theorem exists_run_compare_of_accepted {f : Fingerprint}
    (hf : Fingerprint.ofSource settings.analysis candidate = .ok f) : ∃ report s',
    (compare settings turns candidate directory (some folder)).run s = (.ok report, s') := by
  obtain ⟨answer, s', hrun⟩ : ∃ answer s',
    (compare settings turns candidate directory (some folder)).run s = (answer, s') :=
      ⟨_, _, rfl⟩
  rcases compare_cases hrun with ⟨e, hread, -⟩ | ⟨g, s₁, corpus, s₂, -, -, rfl, -⟩
  · rcases Session.fingerprint_cases hread with
      ⟨g, -, hg, -⟩ | ⟨g, -, -, hg, -⟩ | ⟨e', -, hrefused, -, -⟩
    · exact nomatch hg
    · exact nomatch hg
    · exact nomatch hf.symm.trans hrefused
  · exact ⟨_, s', hrun⟩

end Calls

end ComponentLikeness
