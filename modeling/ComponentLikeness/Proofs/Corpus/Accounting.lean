import ComponentLikeness.Proofs.Corpus.Listing
import ComponentLikeness.Proofs.Session.Calls

/-!
# What becomes of the listed files

What a file needs to become a member is said without a program
(`MemberFile.BecomesMember`), and so is what else is to be reported of it, the
first obstacle on the way (`MemberFile.Refused`). Both describe what becomes of a
file by itself completely, so no file is both or neither.

A loaded corpus accounts for the listing (`Accounts`): going along it, each file
adds the member that it becomes or the one report about it, and nothing else is
added. This holds along any list of files, since outcomes are split into members
and reports in order. Members are in the order of their ids because the listing
is; putting them in order again changes nothing.
-/

namespace ComponentLikeness

open Component Files

/-! ## Texts of files -/

namespace Files.FileState

theorem text_of_toUTF8 {state : FileState} {text : String}
    (h : state.content = .ok text.toUTF8) : state.text = .ok text := by
  have hdecode : String.fromUTF8? text.toUTF8 = some text := by
    unfold String.fromUTF8?
    rw [String.toUTF8_eq_toByteArray, dif_pos text.isValidUTF8]
    rfl
  rw [FileState.text, h]
  simp only [hdecode]

theorem text_of_no_text {state : FileState} {bytes : ByteArray} (h : state.content = .ok bytes)
    (hno : ∀ text : String, bytes ≠ text.toUTF8) : state.text = .error notText := by
  have hdecode : String.fromUTF8? bytes = none := by
    unfold String.fromUTF8?
    refine dif_neg fun hvalid => hno (String.fromUTF8 bytes hvalid) ?_
    rfl
  rw [FileState.text, h]
  simp only [hdecode]

theorem text_of_no_bytes {state : FileState} {reason : String}
    (h : state.content = .error reason) : state.text = .error reason := by
  rw [FileState.text, h]

end Files.FileState

/-! ## Members and refusals -/

namespace MemberFile

variable (settings : Settings) (file : MemberFile)

/-- The file becomes the member: its size is known and not above the limit, its
bytes are those of a text, and the text has the fingerprint of the member. -/
structure BecomesMember (entry : CorpusEntry) : Prop where
  id_eq : entry.id = file.name
  path_eq : entry.path = file.path
  small : ∃ size, file.state.size = .ok size ∧ size ≤ settings.corpus.effectiveMaxFileSize.toNat
  fingerprinted : ∃ text : String, file.state.content = .ok text.toUTF8 ∧
    Fingerprint.ofSource settings.analysis text = .ok entry.fingerprint

/-- The file becomes no member, and this is what to report: the first obstacle on
the way from its size over its bytes and its text to its fingerprint. -/
inductive Refused : CorpusError → Prop
  | noSize {reason : String} (hsize : file.state.size = .error reason) :
      Refused (.unreadable file.path reason)
  | tooLarge {size : Nat} (hsize : file.state.size = .ok size)
      (hlarge : settings.corpus.effectiveMaxFileSize.toNat < size) :
      Refused (.tooLarge file.path size settings.corpus.effectiveMaxFileSize.toNat)
  | noBytes {size : Nat} {reason : String} (hsize : file.state.size = .ok size)
      (hsmall : size ≤ settings.corpus.effectiveMaxFileSize.toNat)
      (hbytes : file.state.content = .error reason) :
      Refused (.unreadable file.path reason)
  | noText {size : Nat} {bytes : ByteArray} (hsize : file.state.size = .ok size)
      (hsmall : size ≤ settings.corpus.effectiveMaxFileSize.toNat)
      (hbytes : file.state.content = .ok bytes) (hno : ∀ text : String, bytes ≠ text.toUTF8) :
      Refused (.unreadable file.path FileState.notText)
  | noFingerprint {size : Nat} {text : String} {cause : SourceError}
      (hsize : file.state.size = .ok size)
      (hsmall : size ≤ settings.corpus.effectiveMaxFileSize.toNat)
      (hbytes : file.state.content = .ok text.toUTF8)
      (hcause : Fingerprint.ofSource settings.analysis text = .error cause) :
      Refused (.unparsable file.path cause)

variable {settings file}

/-- A report carries the path of its file. -/
theorem Refused.path_eq {failure : CorpusError} (h : file.Refused settings failure) :
    failure.path = file.path := by
  cases h <;> rfl

theorem readText_of_small {size limit : Nat} (hsize : file.state.size = .ok size)
    (hsmall : size ≤ limit) :
    file.readText limit =
      match file.state.text with
      | .error reason => .error (.unreadable file.path reason)
      | .ok text => .ok text := by
  rw [readText, hsize]
  exact if_neg hsmall.not_gt

variable (settings file) in
/-- Every file becomes a member or is refused. -/
theorem becomesMember_or_refused :
    (∃ entry, file.BecomesMember settings entry) ∨ ∃ failure, file.Refused settings failure := by
  -- the cases follow the way of the file until something is in its way
  cases hsize : file.state.size with
  | error reason => exact .inr ⟨_, .noSize hsize⟩
  | ok size =>
    by_cases hsmall : size ≤ settings.corpus.effectiveMaxFileSize.toNat
    case neg => exact .inr ⟨_, .tooLarge hsize (Nat.lt_of_not_le hsmall)⟩
    cases hbytes : file.state.content with
    | error reason => exact .inr ⟨_, .noBytes hsize hsmall hbytes⟩
    | ok bytes =>
      by_cases hno : ∀ text : String, bytes ≠ text.toUTF8
      case pos => exact .inr ⟨_, .noText hsize hsmall hbytes hno⟩
      obtain ⟨text, htext⟩ := not_forall_not.mp hno
      rw [htext] at hbytes
      cases hf : Fingerprint.ofSource settings.analysis text with
      | error cause => exact .inr ⟨_, .noFingerprint hsize hsmall hbytes hf⟩
      | ok f =>
        exact .inl ⟨⟨file.name, file.path, f⟩, rfl, rfl, ⟨size, hsize, hsmall⟩, text, hbytes, hf⟩

theorem BecomesMember.outcomeOf_eq {entry : CorpusEntry}
    (h : file.BecomesMember settings entry) : file.outcomeOf settings = .ok entry := by
  obtain ⟨size, hsize, hsmall⟩ := h.small
  obtain ⟨text, hbytes, hf⟩ := h.fingerprinted
  have hread : file.readText settings.corpus.effectiveMaxFileSize.toNat = .ok text := by
    rw [readText_of_small hsize hsmall, FileState.text_of_toUTF8 hbytes]
  rw [outcomeOf_of_text hread, hf, outcome, ← h.id_eq, ← h.path_eq]

theorem Refused.outcomeOf_eq {failure : CorpusError} (h : file.Refused settings failure) :
    file.outcomeOf settings = .error failure := by
  cases h with
  | noSize hsize => exact outcomeOf_of_error (by rw [readText, hsize])
  | tooLarge hsize hlarge =>
    refine outcomeOf_of_error ?_
    rw [readText, hsize]
    exact if_pos hlarge
  | noBytes hsize hsmall hbytes =>
    refine outcomeOf_of_error ?_
    rw [readText_of_small hsize hsmall, FileState.text_of_no_bytes hbytes]
  | noText hsize hsmall hbytes hno =>
    refine outcomeOf_of_error ?_
    rw [readText_of_small hsize hsmall, FileState.text_of_no_text hbytes hno]
  | @noFingerprint size text cause hsize hsmall hbytes hcause =>
    have hread : file.readText settings.corpus.effectiveMaxFileSize.toNat = .ok text := by
      rw [readText_of_small hsize hsmall, FileState.text_of_toUTF8 hbytes]
    rw [outcomeOf_of_text hread, hcause, outcome]

/-- What becomes of a file by itself is the member that it becomes. -/
theorem outcomeOf_eq_ok_iff {entry : CorpusEntry} :
    file.outcomeOf settings = .ok entry ↔ file.BecomesMember settings entry := by
  refine ⟨fun h => ?_, BecomesMember.outcomeOf_eq⟩
  rcases becomesMember_or_refused settings file with ⟨entry', h'⟩ | ⟨failure, h'⟩
  · rwa [Except.ok.inj (h.symm.trans h'.outcomeOf_eq)]
  · exact nomatch h.symm.trans h'.outcomeOf_eq

/-- If there is no such member, it is the report about the file. -/
theorem outcomeOf_eq_error_iff {failure : CorpusError} :
    file.outcomeOf settings = .error failure ↔ file.Refused settings failure := by
  refine ⟨fun h => ?_, Refused.outcomeOf_eq⟩
  rcases becomesMember_or_refused settings file with ⟨entry, h'⟩ | ⟨failure', h'⟩
  · exact nomatch h.symm.trans h'.outcomeOf_eq
  · rwa [Except.error.inj (h.symm.trans h'.outcomeOf_eq)]

end MemberFile

/-! ## Accounts of lists of files -/

section Accounts

variable {settings : Settings} {files : List MemberFile} {entries : List CorpusEntry}
  {failures : List CorpusError}

/-- Along the files, each adds the member that it becomes to the entries, or else
the one report about it to the failures. -/
inductive Accounts (settings : Settings) :
    List MemberFile → List CorpusEntry → List CorpusError → Prop
  | nil : Accounts settings [] [] []
  | member {file : MemberFile} {entry : CorpusEntry} {files entries failures}
      (hentry : file.BecomesMember settings entry)
      (rest : Accounts settings files entries failures) :
      Accounts settings (file :: files) (entry :: entries) failures
  | refused {file : MemberFile} {failure : CorpusError} {files entries failures}
      (hfailure : file.Refused settings failure) (rest : Accounts settings files entries failures) :
      Accounts settings (file :: files) entries (failure :: failures)

/-- Splitting the outcomes of files gives an account of them. -/
theorem accounts_outcomes (settings : Settings) (files : List MemberFile) :
    Accounts settings files (membersOf (files.map (MemberFile.outcomeOf settings)))
      (failuresOf (files.map (MemberFile.outcomeOf settings))) := by
  induction files with
  | nil => exact .nil
  | cons file files ih =>
    rw [List.map_cons]
    cases h : file.outcomeOf settings with
    | ok entry => exact .member (MemberFile.outcomeOf_eq_ok_iff.mp h) ih
    | error failure => exact .refused (MemberFile.outcomeOf_eq_error_iff.mp h) ih

namespace Accounts

/-- Nothing is lost and nothing is counted twice. -/
theorem length_add_length (h : Accounts settings files entries failures) :
    entries.length + failures.length = files.length := by
  induction h with
  | nil => rfl
  | member _ _ ih => simp only [List.length_cons]; omega
  | refused _ _ ih => simp only [List.length_cons]; omega

/-- The ids are names of files, in the order of the files. -/
theorem ids_sublist (h : Accounts settings files entries failures) :
    (entries.map CorpusEntry.id).Sublist (files.map MemberFile.name) := by
  induction h with
  | nil => exact .slnil
  | member hentry _ ih =>
    rw [List.map_cons, List.map_cons, hentry.id_eq]
    exact ih.cons_cons _
  | refused _ _ ih => exact ih.cons _

/-- The entries are exactly the members that files become. -/
theorem mem_entries_iff (h : Accounts settings files entries failures) {entry : CorpusEntry} :
    entry ∈ entries ↔ ∃ file ∈ files, file.BecomesMember settings entry := by
  induction h with
  | nil => simp
  | @member file entry' files entries failures hentry _ ih =>
    -- the file at the head becomes one member and no other
    have hsame : file.BecomesMember settings entry ↔ entry = entry' := by
      rw [← MemberFile.outcomeOf_eq_ok_iff, hentry.outcomeOf_eq, Except.ok.injEq, eq_comm]
    simp only [List.mem_cons, exists_eq_or_imp, ih, hsame]
  | @refused file failure files entries failures hfailure _ ih =>
    have hno : ¬file.BecomesMember settings entry := fun hentry =>
      nomatch hentry.outcomeOf_eq.symm.trans hfailure.outcomeOf_eq
    simp only [List.mem_cons, exists_eq_or_imp, ih, or_iff_right hno]

/-- The failures are exactly the reports about files that become no member. -/
theorem mem_failures_iff (h : Accounts settings files entries failures) {failure : CorpusError} :
    failure ∈ failures ↔ ∃ file ∈ files, file.Refused settings failure := by
  induction h with
  | nil => simp
  | @member file entry files entries failures hentry _ ih =>
    have hno : ¬file.Refused settings failure := fun hfailure =>
      nomatch hentry.outcomeOf_eq.symm.trans hfailure.outcomeOf_eq
    simp only [List.mem_cons, exists_eq_or_imp, ih, or_iff_right hno]
  | @refused file failure' files entries failures hfailure _ ih =>
    have hsame : file.Refused settings failure ↔ failure = failure' := by
      rw [← MemberFile.outcomeOf_eq_error_iff, hfailure.outcomeOf_eq, Except.error.injEq, eq_comm]
    simp only [List.mem_cons, exists_eq_or_imp, ih, hsame]

end Accounts

end Accounts

/-! ## The order of members -/

/-- Members of files in the order of their names are in the order of their ids. -/
theorem Accounts.entries_pairwise_id {settings : Settings} {files : List MemberFile}
    {entries : List CorpusEntry} {failures : List CorpusError}
    (h : Accounts settings files entries failures)
    (hfiles : (files.map MemberFile.name).Pairwise (· ≤ ·)) :
    entries.Pairwise fun a b => a.id ≤ b.id :=
  List.pairwise_map.mp (hfiles.sublist h.ids_sublist)

/-- Putting members in the order of their ids changes nothing if they are in that
order. -/
theorem Corpus.ofEntries_entries {corpus : Corpus}
    (h : corpus.entries.Pairwise fun a b => a.id ≤ b.id) :
    Corpus.ofEntries corpus.entries = corpus := by
  have hordered : corpus.entries.Pairwise fun a b => Corpus.ordered a b :=
    h.imp fun hab => decide_eq_true hab
  rw [Corpus.ofEntries, List.mergeSort_of_pairwise hordered]

/-- A corpus with its warnings accounts for a listing. The warnings of the listing
come first; behind them are the reports about single files. -/
structure Accounted (settings : Settings) (listing : Report (List MemberFile))
    (report : Report Corpus) (failures : List CorpusError) : Prop where
  warnings_eq : report.warnings = listing.warnings ++ failures
  accounts : Accounts settings listing.data report.data.entries failures
  mem_entries_iff : ∀ entry, entry ∈ report.data.entries ↔
    ∃ file ∈ listing.data, file.BecomesMember settings entry
  mem_failures_iff : ∀ failure, failure ∈ failures ↔
    ∃ file ∈ listing.data, file.Refused settings failure ∧ failure.path = file.path
  size_add_warningCount :
    report.data.size + report.warningCount = listing.data.length + listing.warningCount
  pairwise_id : report.data.entries.Pairwise fun a b => a.id ≤ b.id
  ofEntries_entries : Corpus.ofEntries report.data.entries = report.data

/-- The corpus of a listing that is in the order of the names accounts for it. -/
theorem accounted_ofListing (settings : Settings) {listing : Report (List MemberFile)}
    (hnames : (listing.data.map MemberFile.name).Pairwise (· ≤ ·)) :
    ∃ failures, Accounted settings listing (Corpus.ofListing settings listing) failures := by
  have haccounts := accounts_outcomes settings listing.data
  have hids := haccounts.entries_pairwise_id hnames
  have hlength := haccounts.length_add_length
  refine ⟨_, rfl, haccounts, fun _ => haccounts.mem_entries_iff, fun failure => ?_, ?_, hids,
    Corpus.ofEntries_entries hids⟩
  · rw [haccounts.mem_failures_iff]
    exact exists_congr fun file => and_congr_right fun _ =>
      ⟨fun h => ⟨h, h.path_eq⟩, fun h => h.1⟩
  · simp only [Corpus.ofListing, Corpus.size, Report.warningCount, List.length_append]
    omega

/-! ## Loading in a session -/

/-- After whatever calls, loading comes to the corpus at the path, unless there is
a store and two distinct texts of the calls have one key. -/
theorem loadCorpus_answer_after (settings : Settings) (retention : Retention)
    (history : List (List Nat × Call)) (turns : List Nat) (directory : String)
    (folder : Option Folder)
    (hkeys : settings.corpus.effectiveCacheCapacity = 0 ∨
      {text | ∃ c ∈ .loadCorpus directory folder :: history.map Prod.snd,
        text ∈ c.texts settings}.InjOn contentKey) :
    (loadCorpus settings turns directory folder).answer
        ((Session.ofSettings settings retention).after settings history) =
      corpusAt settings directory folder := by
  rcases hkeys with hnone | hkeys
  · have htransparent := transparent_cacheless settings.analysis
    have hafter := Session.after_keeps settings htransparent history
      (fun _ _ _ _ => Set.mem_univ _) (Session.cacheless_ofSettings retention hnone)
    exact (htransparent.loadCorpus (fun _ _ => Set.mem_univ _) turns).answer_eq hafter
  · have htransparent := transparent_faithful settings.analysis hkeys
    have hafter := Session.after_keeps settings htransparent history
      (fun c hc text htext => ⟨c.2, List.mem_cons_of_mem _ (List.mem_map_of_mem hc), htext⟩)
      (Session.faithful_ofSettings settings retention settings.analysis _)
    exact (htransparent.loadCorpus (fun text htext => ⟨_, List.mem_cons_self, htext⟩)
      turns).answer_eq hafter

/-- Loading a directory accounts for every listed file exactly once. The members
are those that the listed files become, in the order of the listing; the warnings
of the listing come first, and behind them, in the order of the listing, there is
one for each listed file that becomes no member. So members and warnings make up
the listed files and the warnings of the listing, and putting the members in the
order of their ids would change nothing. If there is a store, no two distinct
texts of the calls may have one key. -/
theorem loadCorpus_accounts_for_listing (settings : Settings) (retention : Retention)
    (history : List (List Nat × Call)) (turns : List Nat) (directory : String) (folder : Folder)
    (hkeys : settings.corpus.effectiveCacheCapacity = 0 ∨
      {text | ∃ c ∈ .loadCorpus directory (some folder) :: history.map Prod.snd,
        text ∈ c.texts settings}.InjOn contentKey) :
    ∃ report failures,
      (loadCorpus settings turns directory (some folder)).answer
          ((Session.ofSettings settings retention).after settings history) = .ok report ∧
      Accounted settings (listFolder settings.corpus directory folder) report failures := by
  obtain ⟨failures, haccounted⟩ := accounted_ofListing settings
    (listFolder_pairwise_name settings.corpus directory folder)
  refine ⟨_, failures, ?_, haccounted⟩
  exact loadCorpus_answer_after settings retention history turns directory (some folder) hkeys

/-- A directory with a member, a file that is too large, a directory and a link
that leads nowhere. -/
def mixedFolder : Folder where
  entries :=
    [("C.tsx", .folder),
      ("B.tsx", .file (.ofBytes "bbbb".toUTF8)),
      ("D.tsx", .broken "nowhere"),
      ("A.tsx", .file (.ofBytes "a".toUTF8))]

/-- Files of at most three bytes are loaded side by side, and two fingerprints are
remembered. -/
def smallFiles : Settings :=
  { corpus := { maxFileSize := some 3, parallel := some true, cacheCapacity := some 2 } }

theorem loadCorpus_mixedFolder :
    {text | ∃ c ∈ [Call.loadCorpus "d" (some mixedFolder), .fingerprint "a"],
      text ∈ c.texts smallFiles}.InjOn contentKey ∧
    ∃ report failures,
      (loadCorpus smallFiles [1, 0, 1] "d" (some mixedFolder)).answer
          ((Session.ofSettings smallFiles flickering).after smallFiles [([], .fingerprint "a")]) =
        .ok report ∧
      Accounted smallFiles (listFolder smallFiles.corpus "d" mixedFolder) report failures := by
  have htexts : (Call.loadCorpus "d" (some mixedFolder)).texts smallFiles = ["a"] := by cbv
  have hkeys : {text | ∃ c ∈ [Call.loadCorpus "d" (some mixedFolder), .fingerprint "a"],
      text ∈ c.texts smallFiles}.InjOn contentKey := by
    refine (Set.injOn_singleton contentKey "a").mono ?_
    rintro text ⟨c, hc, htext⟩
    simp only [List.mem_cons, List.not_mem_nil, or_false] at hc
    rcases hc with rfl | rfl
    · rw [htexts] at htext
      exact List.mem_singleton.mp htext
    · exact List.mem_singleton.mp htext
  exact ⟨hkeys, loadCorpus_accounts_for_listing smallFiles flickering [([], .fingerprint "a")]
    [1, 0, 1] "d" mixedFolder (.inr hkeys)⟩

end ComponentLikeness
