import ComponentLikeness.Proofs.Session.Calls
import ComponentLikeness.Proofs.Session.Growth

/-!
# What the store holds

As long as there is room, the keys in the store are exactly those of the texts that
were fingerprinted so far (`Session.after_holds`): of the texts that a fingerprint was
asked for and answered, and of the accepted texts of the directories that were loaded
or compared with. A call that fails fingerprints nothing, since a candidate is read
before any member is.

A single call lets the store grow by what it fingerprints (`Call.grows`), and along a
history these add up. What a comparison in particular adds is `compare_extends_store`.
-/

namespace ComponentLikeness

open Component Component.FingerprintCache Files Number Similarity

/-! ## Texts that are fingerprinted -/

/-- The accepted ones among the texts of the component files of a directory. -/
def loadedTexts (settings : Settings) (directory : String) (folder : Option Folder) :
    List String :=
  (folderTexts settings directory folder).filter fun text =>
    (Fingerprint.ofSource settings.analysis text).isOk

/-- Whether the answer is not an error. -/
def Answer.isOk : Answer → Bool
  | fingerprint result => result.isOk
  | corpus result => result.isOk
  | comparison result => result.isOk

/-- The texts that the call fingerprints if it succeeds. -/
def Call.sources (settings : Settings) : Call → List String
  | fingerprint text => [text]
  | loadCorpus directory folder => loadedTexts settings directory folder
  | compare candidate directory folder => candidate :: loadedTexts settings directory folder

/-- The texts that the call fingerprints in a session; a call that fails fingerprints
none. -/
def Call.fingerprinted (settings : Settings) (turns : List Nat) (s : Session) (call : Call) :
    List String :=
  if ((call.run settings turns).answer s).isOk then call.sources settings else []

theorem Call.length_fingerprinted_le (settings : Settings) (turns : List Nat) (call : Call)
    (s : Session) :
    (call.fingerprinted settings turns s).length ≤ (call.sources settings).length := by
  rw [fingerprinted]
  split
  · exact le_rfl
  · exact Nat.zero_le _

theorem Call.fingerprinted_compare (settings : Settings) (turns : List Nat) (s : Session)
    (candidate directory : String) (folder : Option Folder) :
    (compare candidate directory folder).fingerprinted settings turns s =
      if ((ComponentLikeness.compare settings turns candidate directory folder).run s).1.isOk then
        candidate :: loadedTexts settings directory folder
      else [] := rfl

/-- The texts that some calls, one after the other, fingerprint in a session. -/
def Session.fingerprinted (settings : Settings) : List (List Nat × Call) → Session → List String
  | [], _ => []
  | (turns, call) :: history, s =>
    call.fingerprinted settings turns s ++
      Session.fingerprinted settings history ((call.run settings turns).run s).2

theorem Session.fingerprinted_append (settings : Settings)
    (history history' : List (List Nat × Call)) (s : Session) :
    s.fingerprinted settings (history ++ history') =
      s.fingerprinted settings history ++
        (s.after settings history).fingerprinted settings history' := by
  induction history generalizing s with
  | nil => rfl
  | cons call history ih =>
    rw [List.cons_append, fingerprinted, fingerprinted, ih, List.append_assoc]
    rfl

theorem Session.fingerprinted_singleton (settings : Settings) (turns : List Nat) (call : Call)
    (s : Session) :
    s.fingerprinted settings [(turns, call)] = call.fingerprinted settings turns s :=
  List.append_nil _

/-! ## Stores after calls -/

namespace Component.FingerprintCache

variable {settings : AnalysisSettings} {texts texts' : List String} {capacity : Nat}
  {before after c c' : FingerprintCache}

/-- The store has become another one that holds what it held, unchanged, and besides
exactly one entry for each key of the texts that it did not hold, with the fingerprint
of a text of that key. -/
structure ExtendedTo (settings : AnalysisSettings) (texts : List String)
    (before after : FingerprintCache) : Prop where
  nodup_keys : after.keys.Nodup
  entries_eq : ∃ added, after.entries = before.entries ++ added ∧
    (∀ key, key ∈ added.map Prod.fst ↔ key ∈ texts.map contentKey ∧ key ∉ before.keys) ∧
    ∀ entry ∈ added, ∃ text ∈ texts,
      contentKey text = entry.1 ∧ Fingerprint.ofSource settings text = .ok entry.2

/-- The store has grown until it holds the keys of all the texts. -/
structure GrowsBy (settings : AnalysisSettings) (texts : List String)
    (before after : FingerprintCache) : Prop extends before.GrowsTo settings texts after where
  contentKey_mem : ∀ text ∈ texts, contentKey text ∈ after.keys

theorem GrowsBy.refl (hretention : c.retention = .full) (hnodup : c.keys.Nodup) :
    c.GrowsBy settings [] c :=
  ⟨.refl hretention hnodup, nofun⟩

/-- A store that has grown by some texts has been extended by them. -/
theorem GrowsBy.extendedTo (h : before.GrowsBy settings texts after) :
    before.ExtendedTo settings texts after := by
  obtain ⟨added, hentries, hadded⟩ := h.entries_eq
  have hafter : after.keys = before.keys ++ added.map Prod.fst := by
    rw [keys, hentries, List.map_append, keys]
  have hdisjoint := List.disjoint_of_nodup_append (hafter ▸ h.nodup_keys)
  refine ⟨h.nodup_keys, added, hentries, fun key => ⟨fun hkey => ⟨?_, ?_⟩, ?_⟩, hadded⟩
  · obtain ⟨entry, hentry, rfl⟩ := List.mem_map.mp hkey
    obtain ⟨text, htext, heq, -⟩ := hadded entry hentry
    exact heq ▸ List.mem_map_of_mem htext
  · exact fun hmem => hdisjoint hmem hkey
  · rintro ⟨hkey, hnew⟩
    obtain ⟨text, htext, rfl⟩ := List.mem_map.mp hkey
    have hmem := h.contentKey_mem text htext
    rw [hafter, List.mem_append] at hmem
    exact hmem.resolve_left hnew

theorem ExtendedTo.entries_eq_of_nil (h : before.ExtendedTo settings [] after) :
    after.entries = before.entries := by
  obtain ⟨added, hentries, -, hadded⟩ := h.entries_eq
  have hnil : added = [] := List.eq_nil_iff_forall_not_mem.mpr fun entry hentry => by
    obtain ⟨text, htext, -⟩ := hadded entry hentry
    exact nomatch htext
  rw [hentries, hnil, List.append_nil]

/-- The store drops nothing and holds exactly the keys of the texts, each once. -/
structure Holds (capacity : Nat) (texts : List String) (c : FingerprintCache) : Prop where
  capacity_eq : c.capacity = capacity
  retention_eq : c.retention = .full
  nodup_keys : c.keys.Nodup
  mem_keys_iff : ∀ key, key ∈ c.keys ↔ key ∈ texts.map contentKey

namespace Holds

theorem hasRoom (h : c.Holds capacity texts) {all : List String} (htexts : texts ++ texts' ⊆ all)
    (hall : (all.map contentKey).dedup.length ≤ capacity) : c.HasRoom texts' := by
  have hroom : ∀ key ∈ (texts ++ texts').map contentKey, key ∈ (all.map contentKey).dedup :=
    fun key hkey => List.mem_dedup.mpr (List.map_subset contentKey htexts hkey)
  rw [List.map_append] at hroom
  refine ⟨(all.map contentKey).dedup, h.capacity_eq ▸ hall, fun key hkey => ?_, fun key hkey => ?_⟩
  · exact hroom key (List.mem_append_left _ ((h.mem_keys_iff key).mp hkey))
  · exact hroom key (List.mem_append_right _ hkey)

theorem growsBy (h : c.Holds capacity texts) (hgrows : c.GrowsBy settings texts' c') :
    c'.Holds capacity (texts ++ texts') where
  capacity_eq := hgrows.capacity_eq.trans h.capacity_eq
  retention_eq := hgrows.retention_eq
  nodup_keys := hgrows.nodup_keys
  mem_keys_iff key := by
    rw [List.map_append, List.mem_append, ← h.mem_keys_iff]
    refine ⟨hgrows.mem_before_or_mem_texts, fun hkey => ?_⟩
    rcases hkey with hkey | hkey
    · exact hgrows.keys_subset hkey
    · obtain ⟨text, htext, rfl⟩ := List.mem_map.mp hkey
      exact hgrows.contentKey_mem text htext

end Holds

end Component.FingerprintCache

/-! ## Single calls -/

section Calls

variable {settings : Settings} (turns : List Nat) {s : Session} {c : FingerprintCache}
  {text candidate directory : String}

theorem addsTo_of_mem_listing {folder : Folder} {texts : List String}
    (htexts : loadedTexts settings directory (some folder) ⊆ texts) :
    ∀ file ∈ (listFolder settings.corpus directory folder).data,
      file.AddsTo settings texts := by
  intro file hfile text htext f hf
  refine htexts (List.mem_filter.mpr ⟨mem_textsOf hfile htext, ?_⟩)
  rw [hf]
  rfl

/-- The keys of all accepted texts are held when the files have been loaded. -/
theorem contentKey_mem_of_loadsAs {files : List MemberFile} {keys : List UInt64}
    {outcomes : List (Except CorpusError CorpusEntry)}
    (h : List.Forall₂ (MemberFile.LoadsAs settings keys) files outcomes) {file : MemberFile}
    (hfile : file ∈ files) {text : String} (htext : file.text? settings = some text)
    {f : Fingerprint} (hf : Fingerprint.ofSource settings.analysis text = .ok f) :
    contentKey text ∈ keys := by
  induction h with
  | nil => exact nomatch hfile
  | cons hhead _ ih =>
    rcases List.mem_cons.mp hfile with rfl | hfile
    · exact hhead.contentKey_mem htext hf
    · exact ih hfile

theorem exists_of_mem_loadedTexts {folder : Folder} {text : String}
    (h : text ∈ loadedTexts settings directory (some folder)) :
    (∃ file ∈ (listFolder settings.corpus directory folder).data,
      file.text? settings = some text) ∧
    ∃ f, Fingerprint.ofSource settings.analysis text = .ok f := by
  obtain ⟨hmem, haccepted⟩ := List.mem_filter.mp h
  refine ⟨List.mem_filterMap.mp hmem, ?_⟩
  cases hf : Fingerprint.ofSource settings.analysis text with
  | ok f => exact ⟨f, rfl⟩
  | error e => simp [hf, Except.isOk, Except.toBool] at haccepted

/-- The report classifies the candidate in a corpus of listed files. The keys of the
texts of its members are among the given ones, and the other files come to nothing by
themselves. -/
def ComparedWithin (settings : Settings) (directory : String) (folder : Option Folder)
    (keys : List UInt64) (report : Report (Classification Binary64)) : Prop :=
  ∃ listing f outcomes, listFiles settings.corpus directory folder = .ok listing ∧
    List.Forall₂ (MemberFile.LoadsAs settings keys) listing.data outcomes ∧
    report = (Corpus.ofOutcomes listing outcomes).map (classifyIn settings f)

variable (hs : s.cache = some c) (hretention : c.retention = .full) (hnodup : c.keys.Nodup)
include hs hretention hnodup

/-- A text that is refused adds nothing. -/
theorem refused_grows {e : SourceError} {s' : Session}
    (hrun : (Session.fingerprint settings.analysis text).run s = (.error e, s')) :
    ∃ c', s'.cache = some c' ∧ c.GrowsBy settings.analysis [] c' := by
  rcases Session.fingerprint_cases hrun with
    ⟨f, -, hf, -⟩ | ⟨f, -, -, hf, -⟩ | ⟨e', -, -, -, rfl⟩
  · exact nomatch hf
  · exact nomatch hf
  · refine ⟨c.age, ?_, (GrowsTo.refl hretention hnodup).age, nofun⟩
    rw [Session.aged, hs]
    rfl

/-- Asking for a fingerprint adds the text if there is an answer. -/
theorem fingerprint_grows
    (hroom : c.HasRoom ((Call.fingerprint text).fingerprinted settings turns s)) :
    ∃ c', ((Session.fingerprint settings.analysis text).run s).2.cache = some c' ∧
      c.GrowsBy settings.analysis ((Call.fingerprint text).fingerprinted settings turns s) c' := by
  have htexts : (Call.fingerprint text).fingerprinted settings turns s =
      if ((Session.fingerprint settings.analysis text).run s).1.isOk then [text] else [] := rfl
  rw [htexts] at hroom ⊢
  obtain ⟨answer, s', hrun⟩ : ∃ answer s',
    (Session.fingerprint settings.analysis text).run s = (answer, s') := ⟨_, _, rfl⟩
  rw [hrun] at hroom ⊢
  cases answer with
  | error e => exact refused_grows hs hretention hnodup hrun
  | ok f =>
    obtain ⟨c', hs', hgrows, -, hkey, -⟩ := Gains.fingerprint hroom (fun _ _ => List.mem_cons_self)
      s c hs (.refl hretention hnodup) (List.nil_subset _)
    rw [hrun] at hs' hkey
    refine ⟨c', hs', hgrows, fun text' htext => ?_⟩
    obtain rfl : text' = text := List.mem_singleton.mp htext
    exact hkey f rfl

/-- Loading a corpus adds the accepted texts of its directory. -/
theorem loadCorpus_grows {folder : Option Folder}
    (hroom : c.HasRoom ((Call.loadCorpus directory folder).fingerprinted settings turns s)) :
    ∃ c', ((loadCorpus settings turns directory folder).run s).2.cache = some c' ∧
      c.GrowsBy settings.analysis
        ((Call.loadCorpus directory folder).fingerprinted settings turns s) c' := by
  cases folder with
  | none =>
    rw [run_loadCorpus_none]
    exact ⟨c, hs, .refl hretention hnodup⟩
  | some folder =>
    have htexts : (Call.loadCorpus directory (some folder)).fingerprinted settings turns s =
        loadedTexts settings directory (some folder) := rfl
    rw [htexts] at hroom ⊢
    obtain ⟨c', hs', hgrows, -, outcomes, -, hloads⟩ := Gains.ofFiles hroom turns
      (addsTo_of_mem_listing (List.Subset.refl _)) (s.listed settings directory folder) c hs
      (.refl hretention hnodup) (List.nil_subset _)
    rw [run_loadCorpus_of_folder rfl]
    refine ⟨c', hs', hgrows, fun text htext => ?_⟩
    obtain ⟨⟨file, hfile, hread⟩, f, hf⟩ := exists_of_mem_loadedTexts htext
    exact contentKey_mem_of_loadsAs hloads hfile hread hf

/-- A candidate and the files of a directory behind it add the candidate and the
accepted texts of the directory. -/
theorem classified_grows {folder : Folder} {f : Fingerprint} {s₁ s₂ : Session}
    {corpus : Report Corpus}
    (hrun : (Session.fingerprint settings.analysis candidate).run s = (.ok f, s₁))
    (hload : (Corpus.ofFiles settings turns (listFolder settings.corpus directory folder)).run s₁ =
      (corpus, s₂))
    (hroom : c.HasRoom (candidate :: loadedTexts settings directory (some folder))) :
    ∃ c', s₂.cache = some c' ∧
      c.GrowsBy settings.analysis (candidate :: loadedTexts settings directory (some folder)) c' ∧
      ComparedWithin settings directory (some folder) c'.keys
        (corpus.map (classifyIn settings f)) := by
  obtain ⟨c₁, hs₁, hgrows₁, -, hkey, -⟩ := Gains.fingerprint hroom (fun _ _ => List.mem_cons_self)
    s c hs (.refl hretention hnodup) (List.nil_subset _)
  rw [hrun] at hs₁ hkey
  obtain ⟨c', hs₂, hgrows, hkeys, outcomes, hcorpus, hloads⟩ := Gains.ofFiles hroom turns
    (addsTo_of_mem_listing (List.subset_cons_self _ _)) s₁ c₁ hs₁ hgrows₁ (List.Subset.refl _)
  rw [hload] at hs₂ hcorpus
  refine ⟨c', hs₂, ⟨hgrows, fun text htext => ?_⟩, _, f, outcomes, rfl, hloads,
    congrArg (Report.map (classifyIn settings f)) hcorpus⟩
  rcases List.mem_cons.mp htext with rfl | htext
  · exact hkeys (hkey f rfl)
  · obtain ⟨⟨file, hfile, hread⟩, g, hg⟩ := exists_of_mem_loadedTexts htext
    exact contentKey_mem_of_loadsAs hloads hfile hread hg

/-- Comparing adds the candidate and the accepted texts of the directory, or nothing if
it fails. -/
theorem compare_grows {folder : Option Folder}
    (hroom : c.HasRoom ((Call.compare candidate directory folder).fingerprinted settings turns s)) :
    ∃ c', ((compare settings turns candidate directory folder).run s).2.cache = some c' ∧
      c.GrowsBy settings.analysis
        ((Call.compare candidate directory folder).fingerprinted settings turns s) c' ∧
      ∀ report, (compare settings turns candidate directory folder).answer s = .ok report →
        ComparedWithin settings directory folder c'.keys report := by
  rw [Call.fingerprinted_compare] at hroom ⊢
  rw [SessionM.answer]
  cases folder with
  | none =>
    rw [run_compare_none]
    exact ⟨c, hs, .refl hretention hnodup, nofun⟩
  | some folder =>
    obtain ⟨answer, s', hrun⟩ : ∃ answer s',
      (compare settings turns candidate directory (some folder)).run s = (answer, s') := ⟨_, _, rfl⟩
    rw [hrun] at hroom ⊢
    -- telling of entries that cannot be followed leaves the store alone
    have hlisted : (s.listed settings directory folder).cache = some c := hs
    rcases compare_cases hrun with
      ⟨e, hanswer, rfl⟩ | ⟨f, s₁, corpus, s₂, hanswer, hload, rfl, rfl⟩
    · obtain ⟨c', hs', hgrows⟩ := refused_grows hlisted hretention hnodup hanswer
      exact ⟨c', hs', hgrows, nofun⟩
    · obtain ⟨c', hs', hgrows, hwithin⟩ :=
        classified_grows turns hlisted hretention hnodup hanswer hload hroom
      refine ⟨c', hs', hgrows, ?_⟩
      rintro _ ⟨⟩
      exact hwithin

/-- Every call adds what it fingerprints. -/
theorem Call.grows (call : Call) (hroom : c.HasRoom (call.fingerprinted settings turns s)) :
    ∃ c', ((call.run settings turns).run s).2.cache = some c' ∧
      c.GrowsBy settings.analysis (call.fingerprinted settings turns s) c' := by
  cases call with
  | fingerprint text => exact fingerprint_grows turns hs hretention hnodup hroom
  | loadCorpus directory folder => exact loadCorpus_grows turns hs hretention hnodup hroom
  | compare candidate directory folder =>
    obtain ⟨c', hs', hgrows, -⟩ := compare_grows turns hs hretention hnodup hroom
    exact ⟨c', hs', hgrows⟩

end Calls

/-! ## Histories -/

/-- If there is room for all that some calls fingerprint, the store holds, after them,
the keys that it held and those of what they fingerprinted. -/
theorem Session.after_holds {settings : Settings} {capacity : Nat} {texts all : List String}
    (history : List (List Nat × Call)) {s : Session} {c : FingerprintCache}
    (hs : s.cache = some c) (hc : c.Holds capacity texts)
    (htexts : texts ++ s.fingerprinted settings history ⊆ all)
    (hall : (all.map contentKey).dedup.length ≤ capacity) :
    ∃ c', (s.after settings history).cache = some c' ∧
      c'.Holds capacity (texts ++ s.fingerprinted settings history) := by
  induction history generalizing s c texts with
  | nil => exact ⟨c, hs, (List.append_nil texts).symm ▸ hc⟩
  | cons call history ih =>
    obtain ⟨turns, call⟩ := call
    rw [fingerprinted, ← List.append_assoc] at htexts ⊢
    -- the first call needs no more room than all of them do
    have hfirst := List.Subset.trans (List.subset_append_left _ _) htexts
    obtain ⟨c₁, hs₁, hgrows⟩ := call.grows turns hs hc.retention_eq hc.nodup_keys
      (hc.hasRoom hfirst hall)
    exact ih hs₁ (hc.growsBy hgrows) htexts

/-- A session with a store starts with an empty one. -/
theorem Session.holds_ofSettings {settings : Settings}
    (hstore : settings.corpus.effectiveCacheCapacity ≠ 0) :
    ∃ c, (Session.ofSettings settings).cache = some c ∧
      c.Holds settings.corpus.effectiveCacheCapacity.toNat [] := by
  refine ⟨.ofCapacity settings.corpus.effectiveCacheCapacity.toNat, ?_, rfl, rfl, .nil, ?_⟩
  · simp only [Session.ofSettings, if_neg hstore]
    rfl
  · simp [FingerprintCache.keys, FingerprintCache.ofCapacity]

/-- A comparison that fails leaves the store as it was, and one that succeeds adds
exactly what it fingerprinted. After whatever calls, the store holds exactly the keys
of the texts that they fingerprinted, each once. If a comparison fails then, it still
holds the same. If it succeeds, what was held stays as it was, and besides there is one
entry for the key of the candidate and of each accepted text of the directory that was
not held, with a fingerprint of a text of that key; the keys of all members of the
corpus are held, and files that are no members come to nothing by themselves. It is
enough that the distinct keys of what is fingerprinted do not outnumber the capacity. -/
theorem compare_extends_store (settings : Settings) (history : List (List Nat × Call))
    (turns : List Nat) (candidate directory : String) (folder : Option Folder)
    (hstore : settings.corpus.effectiveCacheCapacity ≠ 0)
    (hroom : (((Session.ofSettings settings).fingerprinted settings
      (history ++ [(turns, .compare candidate directory folder)])).map contentKey).dedup.length ≤
        settings.corpus.effectiveCacheCapacity.toNat) :
    ∃ before after : FingerprintCache,
      ((Session.ofSettings settings).after settings history).cache = some before ∧
      ((compare settings turns candidate directory folder).run
        ((Session.ofSettings settings).after settings history)).2.cache = some after ∧
      before.keys.Nodup ∧
      (∀ key, key ∈ before.keys ↔
        key ∈ ((Session.ofSettings settings).fingerprinted settings history).map contentKey) ∧
      (∀ e, (compare settings turns candidate directory folder).answer
          ((Session.ofSettings settings).after settings history) = .error e →
        after.entries = before.entries) ∧
      (∀ report, (compare settings turns candidate directory folder).answer
          ((Session.ofSettings settings).after settings history) = .ok report →
        before.ExtendedTo settings.analysis
          (candidate :: loadedTexts settings directory folder) after ∧
        ComparedWithin settings directory folder after.keys report) := by
  obtain ⟨start, hstart, hholds⟩ := Session.holds_ofSettings hstore
  rw [Session.fingerprinted_append, Session.fingerprinted_singleton] at hroom
  obtain ⟨before, hs, hbefore⟩ := Session.after_holds history hstart hholds
    (List.subset_append_left _ _) hroom
  obtain ⟨after, hs', hgrows, hwithin⟩ := compare_grows turns hs hbefore.retention_eq
    hbefore.nodup_keys (hbefore.hasRoom (List.Subset.refl _) hroom)
  rw [Call.fingerprinted_compare] at hgrows
  refine ⟨before, after, hs, hs', hbefore.nodup_keys, hbefore.mem_keys_iff, fun e he => ?_,
    fun report hreport => ⟨?_, hwithin report hreport⟩⟩
  · rw [← SessionM.answer, he] at hgrows
    exact hgrows.extendedTo.entries_eq_of_nil
  · rw [← SessionM.answer, hreport] at hgrows
    exact hgrows.extendedTo

/-- Files are loaded side by side, and four fingerprints are remembered. -/
def fourRemembered : Settings := Settings.tuned {} (some true) (some 4)

theorem compare_extends_store_twoFiles :
    (((Session.ofSettings fourRemembered).fingerprinted fourRemembered
      ([([], .fingerprint "a")] ++ [([1, 0, 1, 0], .compare "c" "d" (some twoFiles))])).map
        contentKey).dedup.length ≤ fourRemembered.corpus.effectiveCacheCapacity.toNat ∧
    ∃ before after : FingerprintCache,
      ((Session.ofSettings fourRemembered).after fourRemembered [([], .fingerprint "a")]).cache =
        some before ∧
      ((compare fourRemembered [1, 0, 1, 0] "c" "d" (some twoFiles)).run
        ((Session.ofSettings fourRemembered).after fourRemembered
          [([], .fingerprint "a")])).2.cache = some after ∧
      (∀ e, (compare fourRemembered [1, 0, 1, 0] "c" "d" (some twoFiles)).answer
          ((Session.ofSettings fourRemembered).after fourRemembered
            [([], .fingerprint "a")]) = .error e → after.entries = before.entries) ∧
      (∀ report, (compare fourRemembered [1, 0, 1, 0] "c" "d" (some twoFiles)).answer
          ((Session.ofSettings fourRemembered).after fourRemembered
            [([], .fingerprint "a")]) = .ok report →
        before.ExtendedTo fourRemembered.analysis
          ("c" :: loadedTexts fourRemembered "d" (some twoFiles)) after) ∧
      ∀ f, Fingerprint.ofSource fourRemembered.analysis "c" = .ok f →
        ∃ report, (compare fourRemembered [1, 0, 1, 0] "c" "d" (some twoFiles)).answer
          ((Session.ofSettings fourRemembered).after fourRemembered
            [([], .fingerprint "a")]) = .ok report := by
  have htexts : folderTexts fourRemembered "d" (some twoFiles) = ["a", "b"] := by cbv
  -- no more than four texts are fingerprinted, whichever of them are accepted
  have hroom : (((Session.ofSettings fourRemembered).fingerprinted fourRemembered
      ([([], .fingerprint "a")] ++ [([1, 0, 1, 0], .compare "c" "d" (some twoFiles))])).map
        contentKey).dedup.length ≤ fourRemembered.corpus.effectiveCacheCapacity.toNat := by
    refine (List.Sublist.length_le (List.dedup_sublist _)).trans ?_
    have hfirst := Call.length_fingerprinted_le fourRemembered [] (.fingerprint "a")
      (Session.ofSettings fourRemembered)
    have hlast := Call.length_fingerprinted_le fourRemembered [1, 0, 1, 0]
      (.compare "c" "d" (some twoFiles)) ((Session.ofSettings fourRemembered).after fourRemembered
        [([], .fingerprint "a")])
    have hloaded : (loadedTexts fourRemembered "d" (some twoFiles)).length ≤ 2 := by
      refine (List.length_filter_le _ _).trans ?_
      rw [htexts]
      exact le_rfl
    have hcapacity : fourRemembered.corpus.effectiveCacheCapacity.toNat = 4 := by decide
    rw [List.length_map, Session.fingerprinted_append, Session.fingerprinted_singleton,
      Session.fingerprinted_singleton, List.length_append, hcapacity]
    simp only [Call.sources, List.length_cons, List.length_nil] at hfirst hlast
    omega
  obtain ⟨before, after, hs, hs', -, -, herror, hok⟩ := compare_extends_store fourRemembered
    [([], .fingerprint "a")] [1, 0, 1, 0] "c" "d" (some twoFiles) (by decide) hroom
  refine ⟨hroom, before, after, hs, hs', herror, fun report hreport => (hok report hreport).1, ?_⟩
  intro f hf
  obtain ⟨report, s', hrun⟩ := exists_run_compare_of_accepted hf
  exact ⟨report, congrArg Prod.fst hrun⟩

end ComponentLikeness
