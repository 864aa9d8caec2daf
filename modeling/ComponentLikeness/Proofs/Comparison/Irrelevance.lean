import ComponentLikeness.Files.FileTree
import ComponentLikeness.Proofs.Corpus.Accounting

/-!
# What a comparison depends on

Of a directory, only the valid members can show in a comparison
(`compare_answer_eq_of_sameMembers`): a file that is hidden, has another extension,
is too large, is no text or has no fingerprint might as well not be there, and so
might directories and broken links. Nor does the order matter in which the directory
names what is in it.

A corpus is determined by its set of members, since it is in the order of their ids
and no id is there twice. And which members there are is a matter of the valid ones
alone (`exists_becomesMember_iff`).
-/

namespace ComponentLikeness

open Component Files Number Similarity

/-! ## Valid members -/

/-- The directory has a valid member of that name and text: a file that is not
hidden, has one of the extensions and is small enough, whose bytes are those of the
text, and the text has a fingerprint. -/
structure Files.Folder.HasMember (settings : Settings) (folder : Folder) (name text : String) :
    Prop where
  visible : MemberFile.isHidden name = false
  wanted : MemberFile.hasExtension settings.corpus.effectiveExtensions name = true
  found : ∃ state size, (name, EntryState.file state) ∈ folder.entries ∧ state.size = .ok size ∧
    size ≤ settings.corpus.effectiveMaxFileSize.toNat ∧ state.content = .ok text.toUTF8
  accepted : ∃ f, Fingerprint.ofSource settings.analysis text = .ok f

/-- Two states of a directory with the same valid members, whatever else there is in
them. A directory has each name only once. -/
structure SameMembers (settings : Settings) (folder folder' : Folder) : Prop where
  names : (folder.entries.map Prod.fst).Nodup
  names' : (folder'.entries.map Prod.fst).Nodup
  hasMember_iff : ∀ name text,
    folder.HasMember settings name text ↔ folder'.HasMember settings name text

/-! ## Corpora -/

variable {settings : Settings} {folder folder' : Folder}

/-- The entries of a corpus are those of the valid members. -/
theorem exists_becomesMember_iff {directory : String} {entry : CorpusEntry} :
    (∃ file ∈ (listFolder settings.corpus directory folder).data,
        file.BecomesMember settings entry) ↔
      ∃ text, folder.HasMember settings entry.id text ∧
        entry.path = Text.joinPath directory entry.id ∧
          Fingerprint.ofSource settings.analysis text = .ok entry.fingerprint := by
  constructor
  · rintro ⟨file, hfile, hentry⟩
    obtain ⟨name, state, hmem, hvisible, hwanted, rfl⟩ := mem_listFolder_iff.mp hfile
    obtain ⟨size, hsize, hsmall⟩ := hentry.small
    obtain ⟨text, htext, hf⟩ := hentry.fingerprinted
    have hid : entry.id = name := hentry.id_eq
    refine ⟨text, ?_, ?_, hf⟩
    · rw [hid]
      exact ⟨hvisible, hwanted, ⟨state, size, hmem, hsize, hsmall, htext⟩, entry.fingerprint, hf⟩
    · rw [hid]
      exact hentry.path_eq
  · rintro ⟨text, hmember, hpath, hf⟩
    obtain ⟨state, size, hmem, hsize, hsmall, htext⟩ := hmember.found
    refine ⟨_, mem_listFolder_iff.mpr
      ⟨entry.id, state, hmem, hmember.visible, hmember.wanted, rfl⟩, ?_⟩
    exact ⟨rfl, hpath, ⟨size, hsize, hsmall⟩, text, htext, hf⟩

/-- Entries in the order of their ids, no two of one id, are determined by the set of
them. -/
theorem entries_eq_of_mem_iff {entries entries' : List CorpusEntry}
    (hordered : entries.Pairwise fun a b => a.id ≤ b.id)
    (hordered' : entries'.Pairwise fun a b => a.id ≤ b.id)
    (hids : (entries.map CorpusEntry.id).Nodup) (hids' : (entries'.map CorpusEntry.id).Nodup)
    (hmem : ∀ entry, entry ∈ entries ↔ entry ∈ entries') : entries = entries' := by
  have hperm : entries.Perm entries' :=
    (List.perm_ext_iff_of_nodup hids.of_map hids'.of_map).mpr hmem
  refine hperm.eq_of_pairwise ?_ hordered hordered'
  intro a b ha hb hab hba
  exact List.inj_on_of_nodup_map hids ha ((hmem b).mpr hb) (String.le_antisymm hab hba)

/-- Directories with the same valid members give the same corpus. -/
theorem SameMembers.ofListing_data_eq (h : SameMembers settings folder folder')
    (directory : String) :
    (Corpus.ofListing settings (listFolder settings.corpus directory folder)).data =
      (Corpus.ofListing settings (listFolder settings.corpus directory folder')).data := by
  have haccounts := accounts_outcomes settings (listFolder settings.corpus directory folder).data
  have haccounts' := accounts_outcomes settings (listFolder settings.corpus directory folder').data
  refine congrArg Corpus.mk (entries_eq_of_mem_iff ?_ ?_ ?_ ?_ ?_)
  · exact haccounts.entries_pairwise_id (listFolder_pairwise_name _ _ _)
  · exact haccounts'.entries_pairwise_id (listFolder_pairwise_name _ _ _)
  · exact (nodup_names_listFolder h.names).sublist haccounts.ids_sublist
  · exact (nodup_names_listFolder h.names').sublist haccounts'.ids_sublist
  · intro entry
    rw [haccounts.mem_entries_iff, haccounts'.mem_entries_iff, exists_becomesMember_iff,
      exists_becomesMember_iff]
    simp only [h.hasMember_iff]

/-- Only the valid members of a directory can show in a comparison. If two states of
the directory have the same ones, a comparator without a store fails on both with the
same error or gives both the same classification; only warnings may differ. It does
not matter what else is in the directory, in what order, nor how the work is ordered. -/
theorem compare_answer_eq_of_sameMembers (h : SameMembers settings folder folder')
    (turns turns' : List Nat) (candidate directory : String) (events events' : Array LogEvent) :
    ((compare settings turns candidate directory (some folder)).answer { events }).map
        Report.data =
      ((compare settings turns' candidate directory (some folder')).answer
        { events := events' }).map Report.data := by
  rw [compare_answer, compare_answer]
  unfold comparisonAt
  simp only [listFiles]
  cases Fingerprint.ofSource settings.analysis candidate with
  | error e => rfl
  | ok f =>
    show Except.ok (classifyIn settings f _) = Except.ok (classifyIn settings f _)
    rw [h.ofListing_data_eq directory]

/-- Two files that are small enough. -/
def plainFiles : FileTree :=
  .folder [("corpus", .folder [("A.tsx", .file "a".toUTF8), ("B.tsx", .file "b".toUTF8)])]

/-- The two files in the other order, among a hidden file, a directory with a file of
its own, a file with another extension, a link that leads nowhere, a file that is too
large and one that is no text. -/
def clutteredFiles : FileTree :=
  .folder [("corpus", .folder [
    ("B.tsx", .file "b".toUTF8),
    (".C.tsx", .file "c".toUTF8),
    ("D.tsx", .folder [("A.tsx", .file "d".toUTF8)]),
    ("E.md", .file "e".toUTF8),
    ("F.tsx", .link "/nowhere"),
    ("G.tsx", .file "gggg".toUTF8),
    ("H.tsx", .file ⟨#[0xff]⟩),
    ("A.tsx", .file "a".toUTF8)])]

/-- What a corpus sees of the two files. -/
def plainFolder : Folder where
  entries := [("A.tsx", .file (.ofBytes "a".toUTF8)), ("B.tsx", .file (.ofBytes "b".toUTF8))]

/-- What a corpus sees of them among the others. -/
def clutteredFolder : Folder where
  entries := [
    ("B.tsx", .file (.ofBytes "b".toUTF8)),
    (".C.tsx", .file (.ofBytes "c".toUTF8)),
    ("D.tsx", .folder),
    ("E.md", .file (.ofBytes "e".toUTF8)),
    ("F.tsx", .broken "the link leads nowhere"),
    ("G.tsx", .file (.ofBytes "gggg".toUTF8)),
    ("H.tsx", .file (.ofBytes ⟨#[0xff]⟩)),
    ("A.tsx", .file (.ofBytes "a".toUTF8))]

theorem folderAt?_plainFiles : plainFiles.folderAt? "corpus" = some plainFolder := by
  cbv

theorem folderAt?_clutteredFiles : clutteredFiles.folderAt? "corpus" = some clutteredFolder := by
  cbv

theorem plainFolder_subset : plainFolder.entries ⊆ clutteredFolder.entries := by
  intro entry hentry
  simp only [plainFolder, List.mem_cons, List.not_mem_nil, or_false] at hentry
  rcases hentry with rfl | rfl
  · simp only [clutteredFolder, List.mem_cons, true_or, or_true]
  · simp only [clutteredFolder, List.mem_cons, true_or]

theorem sameMembers_clutteredFolder : SameMembers smallFiles plainFolder clutteredFolder where
  names := by decide
  names' := by decide
  hasMember_iff name text := by
    constructor
    · rintro ⟨hvisible, hwanted, ⟨state, size, hmem, hrest⟩, haccepted⟩
      exact ⟨hvisible, hwanted, ⟨state, size, plainFolder_subset hmem, hrest⟩, haccepted⟩
    · rintro ⟨hvisible, hwanted, ⟨state, size, hmem, hsize, hsmall, htext⟩, haccepted⟩
      refine ⟨hvisible, hwanted, ⟨state, size, ?_, hsize, hsmall, htext⟩, haccepted⟩
      simp only [clutteredFolder, List.mem_cons, Prod.mk.injEq, List.not_mem_nil, or_false,
        reduceCtorEq, and_false, false_or, EntryState.file.injEq] at hmem
      -- the directory and the link are no files, so they are gone already
      rcases hmem with ⟨rfl, rfl⟩ | ⟨rfl, rfl⟩ | ⟨rfl, rfl⟩ | ⟨rfl, rfl⟩ | ⟨rfl, rfl⟩ | ⟨rfl, rfl⟩
      · exact List.mem_cons_of_mem _ List.mem_cons_self
      · exact absurd hvisible (by decide)
      · exact absurd hwanted (by decide)
      · obtain rfl : 4 = size := Except.ok.inj hsize
        exact absurd hsmall (by decide)
      · have hnone : (FileState.ofBytes ⟨#[0xff]⟩).text = .error FileState.notText := by cbv
        rw [FileState.text_of_toUTF8 htext] at hnone
        cases hnone
      · exact List.mem_cons_self

theorem compare_clutteredFiles :
    plainFiles.folderAt? "corpus" = some plainFolder ∧
      clutteredFiles.folderAt? "corpus" = some clutteredFolder ∧
        SameMembers smallFiles plainFolder clutteredFolder ∧
          ((compare smallFiles [] "x" "corpus" (some plainFolder)).answer {}).map Report.data =
            ((compare smallFiles [1, 0] "x" "corpus" (some clutteredFolder)).answer {}).map
              Report.data := by
  refine ⟨folderAt?_plainFiles, folderAt?_clutteredFiles, sameMembers_clutteredFolder, ?_⟩
  exact compare_answer_eq_of_sameMembers sameMembers_clutteredFolder [] [1, 0] "x" "corpus" #[] #[]

end ComponentLikeness
