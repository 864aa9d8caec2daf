import ComponentLikeness.Corpus.Listing
import ComponentLikeness.Proofs.Order.StableSort
import ComponentLikeness.Text.StringSet
import Mathlib

/-!
# What is listed

The component files of a directory are the files whose names are not hidden and end,
behind their last point, in one of the extensions that are looked for, where case does
not matter in ASCII (`Folder.HasComponentFile`). A listing holds exactly these, each once
and in the order of the names (`lists_listFolder`).

Two things do not show in a listing. One is the order of a walk: whatever yields each
entry of the directory once has its files listed alike (`listWalk_data_eq`). The other
is how the extensions are written: they may be put in another order, repeated, written in
other letters, or with points in front (`Respelled`), for all that counts is the set of
their normal forms (`Respelled.mem_normal_iff`).
-/

namespace ComponentLikeness

open Files Text

/-! ## Names and their extensions -/

/-- The extension is what follows the last point of the name. -/
def EndsIn (name extension : String) : Prop :=
  ∃ stem, name.toList = stem ++ '.' :: extension.toList ∧ '.' ∉ extension.toList

/-- The extensions that are looked for: `tsx` if the settings have none, else those of the
settings without the points in front. -/
inductive CorpusSettings.LooksFor (settings : CorpusSettings) : String → Prop
  | byDefault (hopen : settings.extensions = []) : settings.LooksFor "tsx"
  | configured (count : Nat) {written plain : String} (hmem : written ∈ settings.extensions)
      (hwritten : written.toList = List.replicate count '.' ++ plain.toList)
      (hplain : plain.toList.head? ≠ some '.') : settings.LooksFor plain

/-- The directory has a file under the name, which is not hidden and ends in one of the
extensions that are looked for, in whatever letters of ASCII. -/
structure Files.Folder.HasComponentFile (settings : CorpusSettings) (folder : Folder)
    (name : String) : Prop where
  visible : name.toList.head? ≠ some '.'
  regular : ∃ state, (name, EntryState.file state) ∈ folder.entries
  wanted : ∃ extension, EndsIn name extension ∧
    ∃ wanted, settings.LooksFor wanted ∧ asciiLower wanted = asciiLower extension

/-! ### Extensions that are looked for -/

/-- Points in front are dropped, however many there are. -/
theorem dropDots_of_points {written plain : String} {count : Nat}
    (hwritten : written.toList = List.replicate count '.' ++ plain.toList) :
    dropDots written = dropDots plain := by
  have hpoints : ∀ c ∈ List.replicate count '.', decide (c = '.') = true := by
    intro c hc
    exact decide_eq_true (List.eq_of_mem_replicate hc)
  rw [dropDots, dropDots, hwritten, List.dropWhile_append_of_pos hpoints]

theorem dropDots_of_head?_ne {plain : String} (hplain : plain.toList.head? ≠ some '.') :
    dropDots plain = plain.toList := by
  rw [dropDots]
  cases hletters : plain.toList with
  | nil => rfl
  | cons c rest =>
    rw [hletters, List.head?_cons, ne_eq, Option.some.injEq] at hplain
    rw [List.dropWhile_cons_of_neg (by simpa using hplain)]

/-- Every extension is some points in front of what is left without them. -/
theorem exists_eq_points_append_dropDots (written : String) :
    ∃ count, written.toList = List.replicate count '.' ++ dropDots written := by
  have hpoints : ∀ c ∈ written.toList.takeWhile (fun c => decide (c = '.')), c = '.' := by
    intro c hc
    simpa using List.mem_takeWhile_imp hc
  exists (written.toList.takeWhile fun c => decide (c = '.')).length
  rw [← List.eq_replicate_of_mem hpoints, dropDots, List.takeWhile_append_dropWhile]

theorem head?_dropDots_ne_point (extension : String) : (dropDots extension).head? ≠ some '.' := by
  intro h
  have hhead := List.head?_dropWhile_not (fun c => decide (c = '.')) extension.toList
  rw [← dropDots, h] at hhead
  simp at hhead

theorem asciiLower_asciiLower (text : String) : asciiLower (asciiLower text) = asciiLower text := by
  simp [asciiLower, Function.comp_def]

/-- The extensions in effect are, but for capital letters, those that are looked for. -/
theorem exists_effectiveExtension_iff (settings : CorpusSettings) (extension : String) :
    (∃ wanted ∈ settings.effectiveExtensions, asciiLower wanted = asciiLower extension) ↔
      ∃ wanted, settings.LooksFor wanted ∧ asciiLower wanted = asciiLower extension := by
  rw [CorpusSettings.effectiveExtensions]
  constructor
  · rintro ⟨wanted, hmem, hsame⟩
    split at hmem
    case isTrue hopen =>
      obtain rfl := List.mem_singleton.mp hmem
      exact ⟨"tsx", .byDefault (List.isEmpty_iff.mp hopen), hsame⟩
    case isFalse =>
      obtain ⟨written, hwritten, rfl⟩ := List.mem_map.mp hmem
      obtain ⟨count, hcount⟩ := exists_eq_points_append_dropDots written
      rw [asciiLower_asciiLower] at hsame
      refine ⟨_, .configured count hwritten ?_ ?_, hsame⟩
      · rw [String.toList_ofList]
        exact hcount
      · rw [String.toList_ofList]
        exact head?_dropDots_ne_point written
  · rintro ⟨wanted, hlooks, hsame⟩
    cases hlooks with
    | byDefault hopen =>
      rw [hopen]
      exact ⟨"tsx", List.mem_singleton_self _, hsame⟩
    | @configured count written _ hmem hwritten hplain =>
      have hnonempty : ¬settings.extensions.isEmpty := fun hopen => by
        rw [List.isEmpty_iff.mp hopen] at hmem
        exact nomatch hmem
      rw [if_neg hnonempty]
      refine ⟨_, List.mem_map_of_mem hmem, ?_⟩
      rw [dropDots_of_points hwritten, dropDots_of_head?_ne hplain, String.ofList_toList,
        asciiLower_asciiLower, hsame]

namespace MemberFile

theorem isHidden_eq_false_iff {name : String} :
    isHidden name = false ↔ name.toList.head? ≠ some '.' := by
  rw [isHidden, decide_eq_false_iff_not]

theorem extension?_of_no_point {name : String} (h : '.' ∉ name.toList) :
    extension? name = none := by
  have hnone : name.toList.reverse.dropWhile (· ≠ '.') = [] := by
    refine List.dropWhile_eq_nil_iff.mpr fun c hc => decide_eq_true ?_
    rintro rfl
    exact h (List.mem_reverse.mp hc)
  rw [extension?, hnone]

/-- From the end of the name, the extension is what stands before the first point. -/
theorem extension?_of_eq {name extension : String} {stem : List Char}
    (hname : name.toList = stem ++ '.' :: extension.toList) (hpoint : '.' ∉ extension.toList)
    (hstem : stem ≠ []) : extension? name = some extension := by
  have hreverse : name.toList.reverse = extension.toList.reverse ++ '.' :: stem.reverse := by
    rw [hname]
    simp
  have hnone : ∀ c ∈ extension.toList.reverse, decide (c ≠ '.') = true := by
    intro c hc
    refine decide_eq_true ?_
    rintro rfl
    exact hpoint (List.mem_reverse.mp hc)
  have hdrop : name.toList.reverse.dropWhile (· ≠ '.') = '.' :: stem.reverse := by
    rw [hreverse, List.dropWhile_append_of_pos hnone]
    simp
  have htake : name.toList.reverse.takeWhile (· ≠ '.') = extension.toList.reverse := by
    rw [hreverse, List.takeWhile_append_of_pos hnone]
    simp
  cases hrest : stem.reverse with
  | nil => exact absurd (List.reverse_eq_nil_iff.mp hrest) hstem
  | cons c rest => rw [extension?, hdrop, htake, hrest, List.reverse_reverse, String.ofList_toList]

/-- The name of a file that is not hidden has the extension behind its last point. -/
theorem extension?_eq_some_iff {name extension : String} (hvisible : isHidden name = false) :
    extension? name = some extension ↔ EndsIn name extension := by
  have hsome : ∀ {ending : String}, EndsIn name ending → extension? name = some ending := by
    rintro ending ⟨stem, hname, hpoint⟩
    refine extension?_of_eq hname hpoint ?_
    rintro rfl
    exact isHidden_eq_false_iff.mp hvisible (by rw [hname]; rfl)
  refine ⟨fun h => ?_, hsome⟩
  by_cases hpoint : '.' ∈ name.toList.reverse
  · obtain ⟨ending, stem, hreverse, hnone⟩ := List.eq_append_cons_of_mem hpoint
    have hends : EndsIn name (String.ofList ending.reverse) := by
      refine ⟨stem.reverse, ?_, ?_⟩
      · rw [String.toList_ofList, ← List.reverse_reverse name.toList, hreverse]
        simp
      · rw [String.toList_ofList]
        exact fun hmem => hnone (List.mem_reverse.mp hmem)
    rw [hsome hends] at h
    exact Option.some.inj h ▸ hends
  · rw [extension?_of_no_point fun hmem => hpoint (List.mem_reverse.mpr hmem)] at h
    exact nomatch h

theorem hasExtension_iff {extensions : List String} {name : String}
    (hvisible : isHidden name = false) :
    hasExtension extensions name = true ↔
      ∃ extension, EndsIn name extension ∧
        ∃ wanted ∈ extensions, asciiLower wanted = asciiLower extension := by
  simp only [← extension?_eq_some_iff hvisible]
  rw [hasExtension]
  cases extension? name with
  | none => simp
  | some found => simp

end MemberFile

/-! ## The files of a listing -/

section Listing

variable {settings : CorpusSettings} {directory : String} {folder : Folder}

theorem MemberFile.ofEntry_eq_some_iff {extensions : List String} {name : String}
    {state : EntryState} {file : MemberFile} :
    ofEntry directory extensions name state = some file ↔
      ∃ content, state = .file content ∧ isHidden name = false ∧
        hasExtension extensions name = true ∧
          file = { name, path := Text.joinPath directory name, state := content } := by
  cases state with
  | file content =>
    rw [ofEntry]
    cases isHidden name <;> cases hasExtension extensions name <;> simp [eq_comm]
  | folder => simp [ofEntry]
  | broken reason => simp [ofEntry]

theorem mem_listFolder_iff {file : MemberFile} :
    file ∈ (listFolder settings directory folder).data ↔
      ∃ name state, (name, EntryState.file state) ∈ folder.entries ∧
        MemberFile.isHidden name = false ∧
          MemberFile.hasExtension settings.effectiveExtensions name = true ∧
            file = { name, path := Text.joinPath directory name, state } := by
  rw [listFolder, List.mem_mergeSort, List.mem_filterMap]
  constructor
  · rintro ⟨⟨name, state⟩, hmem, hentry⟩
    obtain ⟨content, rfl, hvisible, hwanted, rfl⟩ := MemberFile.ofEntry_eq_some_iff.mp hentry
    exact ⟨name, content, hmem, hvisible, hwanted, rfl⟩
  · rintro ⟨name, content, hmem, hvisible, hwanted, rfl⟩
    exact ⟨(name, .file content), hmem,
      MemberFile.ofEntry_eq_some_iff.mpr ⟨content, rfl, hvisible, hwanted, rfl⟩⟩

theorem names_filterMap_sublist (directory : String) (extensions : List String)
    (entries : List (String × EntryState)) :
    ((entries.filterMap fun entry => MemberFile.ofEntry directory extensions entry.1 entry.2).map
      MemberFile.name).Sublist (entries.map Prod.fst) := by
  induction entries with
  | nil => exact .slnil
  | cons entry entries ih =>
    rw [List.filterMap_cons]
    cases hentry : MemberFile.ofEntry directory extensions entry.1 entry.2 with
    | none => exact ih.cons _
    | some file =>
      obtain ⟨content, -, -, -, rfl⟩ := MemberFile.ofEntry_eq_some_iff.mp hentry
      exact ih.cons_cons _

/-- If no name is in the directory twice, none is listed twice. -/
theorem nodup_names_listFolder (h : (folder.entries.map Prod.fst).Nodup) :
    ((listFolder settings directory folder).data.map MemberFile.name).Nodup := by
  have hunsorted := h.sublist
    (names_filterMap_sublist directory settings.effectiveExtensions folder.entries)
  exact ((List.mergeSort_perm _ _).map MemberFile.name).nodup_iff.mpr hunsorted

/-- A listing is in the order of the names. -/
theorem listFolder_pairwise_name (settings : CorpusSettings) (directory : String)
    (folder : Folder) :
    ((listFolder settings directory folder).data.map MemberFile.name).Pairwise (· ≤ ·) := by
  rw [List.pairwise_map]
  exact pairwise_mergeSort_text MemberFile.name _

theorem listFolder_pairwise_lt (h : (folder.entries.map Prod.fst).Nodup) :
    ((listFolder settings directory folder).data.map MemberFile.name).Pairwise (· < ·) := by
  have hordered := listFolder_pairwise_name settings directory folder
  refine (hordered.and (nodup_names_listFolder h)).imp ?_
  rintro name name' ⟨hle, hne⟩
  exact StringSet.lt_of_not_lt_of_ne (String.not_lt.mpr hle) hne.symm

/-- The path of a file in a directory says its name. -/
theorem joinPath_injective (directory : String) : (joinPath directory).Injective := by
  intro name name' h
  unfold joinPath at h
  split at h
  · exact (String.append_right_inj directory).mp h
  · exact (String.append_right_inj _).mp h

theorem mem_names_listFolder_iff (directory : String) {name : String} :
    name ∈ (listFolder settings directory folder).data.map MemberFile.name ↔
      folder.HasComponentFile settings name := by
  rw [List.mem_map]
  constructor
  · rintro ⟨file, hfile, rfl⟩
    obtain ⟨name, state, hmem, hvisible, hwanted, rfl⟩ := mem_listFolder_iff.mp hfile
    obtain ⟨extension, hends, hextension⟩ := (MemberFile.hasExtension_iff hvisible).mp hwanted
    exact ⟨MemberFile.isHidden_eq_false_iff.mp hvisible, ⟨state, hmem⟩, extension, hends,
      (exists_effectiveExtension_iff settings extension).mp hextension⟩
  · rintro ⟨hvisible, ⟨state, hmem⟩, extension, hends, hextension⟩
    have hhidden : MemberFile.isHidden name = false :=
      MemberFile.isHidden_eq_false_iff.mpr hvisible
    have hwanted := (MemberFile.hasExtension_iff hhidden).mpr
      ⟨extension, hends, (exists_effectiveExtension_iff settings extension).mpr hextension⟩
    exact ⟨_, mem_listFolder_iff.mpr ⟨name, state, hmem, hhidden, hwanted, rfl⟩, rfl⟩

/-- Names and paths are sorted as the files are. -/
theorem map_listFolder : ((listFolder settings directory folder).data.map fun file =>
      (file.name, file.path)) =
    ((folder.entries.filterMap fun entry =>
      MemberFile.ofEntry directory settings.effectiveExtensions entry.1 entry.2).map fun file =>
        (file.name, file.path)).mergeSort fun a b => decide (a.1 ≤ b.1) := by
  rw [listFolder]
  exact List.map_mergeSort fun _ _ _ _ => rfl

end Listing

/-- The files are the component files of the directory in the strict order of their
names, so each is there once. -/
structure Lists (settings : CorpusSettings) (directory : String) (folder : Folder)
    (files : List MemberFile) : Prop where
  pairwise_lt : (files.map MemberFile.name).Pairwise (· < ·)
  nodup_path : (files.map MemberFile.path).Nodup
  mem_path_iff : ∀ path, path ∈ files.map MemberFile.path ↔
    ∃ name, folder.HasComponentFile settings name ∧ path = joinPath directory name
  /-- Each file has the path and the state of the entry under its name. -/
  entry : ∀ file ∈ files, file.path = joinPath directory file.name ∧
    (file.name, .file file.state) ∈ folder.entries

theorem lists_listFolder (settings : CorpusSettings) (directory : String) {folder : Folder}
    (h : (folder.entries.map Prod.fst).Nodup) :
    Lists settings directory folder (listFolder settings directory folder).data := by
  have hentry : ∀ file ∈ (listFolder settings directory folder).data,
      file.path = joinPath directory file.name ∧
        (file.name, .file file.state) ∈ folder.entries := by
    intro file hfile
    obtain ⟨name, state, hmem, -, -, rfl⟩ := mem_listFolder_iff.mp hfile
    exact ⟨rfl, hmem⟩
  have hpaths : (listFolder settings directory folder).data.map MemberFile.path =
      ((listFolder settings directory folder).data.map MemberFile.name).map
        (joinPath directory) := by
    rw [List.map_map]
    exact List.map_congr_left fun file hfile => (hentry file hfile).1
  refine ⟨listFolder_pairwise_lt h, ?_, fun path => ?_, hentry⟩
  · rw [hpaths]
    exact List.Nodup.map (joinPath_injective directory) (nodup_names_listFolder h)
  · simp only [hpaths, List.mem_map, ← mem_names_listFolder_iff directory]
    exact exists_congr fun name => and_congr_right fun _ => eq_comm

/-! ## Walks -/

/-- What a walk over a directory yields. -/
inductive WalkItem where
  /-- The directory itself. -/
  | directory
  /-- An entry with what it is once links have been followed: a file, or none. -/
  | entry (name : String) (file : Option FileState)
  /-- An entry that cannot be followed. -/
  | failure (reason : String)

/-- What a walk yields of an entry. It passes over hidden names, unless they cannot be
followed. -/
def walkItem? (entry : String × EntryState) : Option WalkItem :=
  match entry.2 with
  | .file state =>
    if MemberFile.isHidden entry.1 then none else some (.entry entry.1 (some state))
  | .folder => if MemberFile.isHidden entry.1 then none else some (.entry entry.1 none)
  | .broken reason => some (.failure reason)

/-- A walk yields the directory itself, and what there is to yield of each entry once,
in any order. -/
def Files.Folder.IsWalk (folder : Folder) (items : List WalkItem) : Prop :=
  items.Perm (.directory :: folder.entries.filterMap walkItem?)

namespace WalkItem

/-- The file that is listed for an item of a walk. -/
def file? (directory : String) (extensions : List String) : WalkItem → Option MemberFile
  | .entry name (some state) =>
    if MemberFile.hasExtension extensions name then
      some { name, path := joinPath directory name, state }
    else none
  | _ => none

/-- The warning about an item of a walk. -/
def warning? (directory : String) : WalkItem → Option CorpusError
  | .failure reason => some (.unlistable directory reason)
  | _ => none

end WalkItem

/-- The listing of what a walk yields. -/
def listWalk (settings : CorpusSettings) (directory : String) (items : List WalkItem) :
    Report (List MemberFile) where
  data := (items.filterMap (WalkItem.file? directory settings.effectiveExtensions)).mergeSort
    MemberFile.ordered
  warnings := items.filterMap (WalkItem.warning? directory)

section Walks

variable {directory : String} {folder : Folder} {items : List WalkItem}

theorem walkItem?_bind_file? (directory : String) (extensions : List String)
    (entry : String × EntryState) :
    (walkItem? entry).bind (WalkItem.file? directory extensions) =
      MemberFile.ofEntry directory extensions entry.1 entry.2 := by
  obtain ⟨name, state⟩ := entry
  cases state with
  | file content => cases hhidden : MemberFile.isHidden name <;>
      simp [walkItem?, WalkItem.file?, MemberFile.ofEntry, hhidden]
  | folder => cases hhidden : MemberFile.isHidden name <;>
      simp [walkItem?, WalkItem.file?, MemberFile.ofEntry, hhidden]
  | broken reason => rfl

theorem walkItem?_bind_warning? (entry : String × EntryState) :
    (walkItem? entry).bind (WalkItem.warning? directory) = entryWarning directory entry.2 := by
  obtain ⟨name, state⟩ := entry
  cases state with
  | file content => cases hhidden : MemberFile.isHidden name <;>
      simp [walkItem?, WalkItem.warning?, entryWarning, hhidden]
  | folder => cases hhidden : MemberFile.isHidden name <;>
      simp [walkItem?, WalkItem.warning?, entryWarning, hhidden]
  | broken reason => rfl

/-- The items of a walk give what the entries give, in the order of the walk. -/
theorem Files.Folder.IsWalk.perm_filterMap {α : Type} (h : folder.IsWalk items)
    {f : WalkItem → Option α} {g : String × EntryState → Option α}
    (hdirectory : f .directory = none) (hentry : ∀ entry, (walkItem? entry).bind f = g entry) :
    (items.filterMap f).Perm (folder.entries.filterMap g) := by
  have hperm := h.filterMap f
  rw [List.filterMap_cons_none hdirectory, List.filterMap_filterMap] at hperm
  rwa [funext hentry] at hperm

/-- Whatever the order of a walk, its files are listed alike. -/
theorem listWalk_data_eq (settings : CorpusSettings) (h : folder.IsWalk items)
    (hnames : (folder.entries.map Prod.fst).Nodup) :
    (listWalk settings directory items).data = (listFolder settings directory folder).data := by
  have hperm : (listWalk settings directory items).data.Perm
      (listFolder settings directory folder).data := by
    have hunsorted := h.perm_filterMap rfl
      (walkItem?_bind_file? directory settings.effectiveExtensions)
    exact (List.mergeSort_perm _ _).trans (hunsorted.trans (List.mergeSort_perm _ _).symm)
  have hsorted := pairwise_mergeSort_text MemberFile.name
  refine hperm.eq_of_pairwise ?_ (hsorted _) (hsorted _)
  intro a b ha hb hab hba
  exact List.inj_on_of_nodup_map (nodup_names_listFolder hnames) (hperm.subset ha) hb
    (String.le_antisymm hab hba)

theorem listWalk_warnings_perm (settings : CorpusSettings) (h : folder.IsWalk items) :
    (listWalk settings directory items).warnings.Perm
      (listFolder settings directory folder).warnings :=
  h.perm_filterMap rfl walkItem?_bind_warning?

end Walks

/-! ## Ways to write extensions -/

/-- The form of an extension that counts. -/
def normalExtension (extension : String) : String :=
  asciiLower (String.ofList (dropDots extension))

/-- The same extensions in other words. -/
inductive Respelled : List String → List String → Prop
  | refl (l : List String) : Respelled l l
  | symm {l l' : List String} (h : Respelled l l') : Respelled l' l
  | trans {l l' l'' : List String} (h : Respelled l l') (h' : Respelled l' l'') :
      Respelled l l''
  | reorder {l l' : List String} (h : l.Perm l') : Respelled l l'
  | repeated {extension : String} {l : List String} (h : extension ∈ l) :
      Respelled l (extension :: l)
  /-- In other letters of ASCII. -/
  | recased {extension extension' : String} {l : List String}
      (h : asciiLower extension = asciiLower extension') :
      Respelled (extension :: l) (extension' :: l)
  /-- With points in front. -/
  | pointed (count : Nat) {extension : String} {l : List String} :
      Respelled (extension :: l)
        (String.ofList (List.replicate count '.' ++ extension.toList) :: l)

theorem toLower_eq_point_iff {c : Char} : c.toLower = '.' ↔ c = '.' := by
  refine ⟨fun h => ?_, fun h => by rw [h]; rfl⟩
  unfold Char.toLower at h
  split at h
  · rename_i hupper
    -- a capital letter becomes a letter
    have hval := congrArg Char.val h
    grind [UInt32.toNat_add]
  · exact h

/-- Points in front and capital letters can be taken away in either order. -/
theorem normalExtension_eq (extension : String) :
    normalExtension extension = String.ofList (dropDots (asciiLower extension)) := by
  have hpoint : (fun c : Char => decide (c = '.')) ∘ Char.toLower = fun c => decide (c = '.') :=
    funext fun c => decide_eq_decide.mpr toLower_eq_point_iff
  simp only [normalExtension, asciiLower, dropDots, String.toList_ofList, List.dropWhile_map,
    hpoint]

theorem normalExtension_pointed (count : Nat) (extension : String) :
    normalExtension (String.ofList (List.replicate count '.' ++ extension.toList)) =
      normalExtension extension := by
  rw [normalExtension, dropDots_of_points String.toList_ofList, normalExtension]

namespace Respelled

variable {l l' : List String}

theorem eq_nil_iff (h : Respelled l l') : l = [] ↔ l' = [] := by
  induction h with
  | refl => rfl
  | symm _ ih => exact ih.symm
  | trans _ _ ih ih' => exact ih.trans ih'
  | reorder h => exact ⟨fun hl => (hl ▸ h).nil_eq.symm, fun hl => (hl ▸ h).eq_nil⟩
  | repeated hmem => simp [List.ne_nil_of_mem hmem]
  | recased => simp
  | pointed => simp

/-- Extensions in other words have the same normal forms. -/
theorem mem_normal_iff (h : Respelled l l') (normal : String) :
    normal ∈ l.map normalExtension ↔ normal ∈ l'.map normalExtension := by
  induction h with
  | refl => rfl
  | symm _ ih => exact ih.symm
  | trans _ _ ih ih' => exact ih.trans ih'
  | reorder h => exact (h.map normalExtension).mem_iff
  | repeated hmem =>
    rw [List.map_cons, List.mem_cons]
    refine ⟨.inr, fun hnormal => hnormal.elim ?_ id⟩
    rintro rfl
    exact List.mem_map_of_mem hmem
  | recased h => rw [List.map_cons, List.map_cons, normalExtension_eq, h, ← normalExtension_eq]
  | pointed count => rw [List.map_cons, List.map_cons, normalExtension_pointed]

end Respelled

theorem mem_effectiveExtensions_iff {settings settings' : CorpusSettings}
    (h : Respelled settings.extensions settings'.extensions) (extension : String) :
    extension ∈ settings.effectiveExtensions ↔ extension ∈ settings'.effectiveExtensions := by
  have hempty : settings.extensions.isEmpty = settings'.extensions.isEmpty := by
    rw [Bool.eq_iff_iff, List.isEmpty_iff, List.isEmpty_iff]
    exact h.eq_nil_iff
  rw [CorpusSettings.effectiveExtensions, CorpusSettings.effectiveExtensions, hempty]
  split
  · rfl
  · exact h.mem_normal_iff extension

/-- For a listing, extensions are a set. -/
theorem listFolder_eq_of_mem_iff {settings settings' : CorpusSettings}
    (h : ∀ extension,
      extension ∈ settings.effectiveExtensions ↔ extension ∈ settings'.effectiveExtensions)
    (directory : String) (folder : Folder) :
    listFolder settings directory folder = listFolder settings' directory folder := by
  have hsame : MemberFile.hasExtension settings.effectiveExtensions =
      MemberFile.hasExtension settings'.effectiveExtensions := by
    funext name
    unfold MemberFile.hasExtension
    cases MemberFile.extension? name with
    | none => rfl
    | some found =>
      refine Bool.eq_iff_iff.mpr ?_
      simp only [List.any_eq_true, h]
  have hentry : MemberFile.ofEntry directory settings.effectiveExtensions =
      MemberFile.ofEntry directory settings'.effectiveExtensions := by
    funext name state
    cases state <;> simp [MemberFile.ofEntry, hsame]
  rw [listFolder, listFolder, hentry]

/-- A directory, in which each name is there once, is listed as exactly its component
files in the strict order of their names. Every walk over it has the same files listed,
whatever its order, and so has every other way to write the extensions. What is no
directory has no listing. -/
theorem listFiles_eq_component_files (settings : CorpusSettings) (directory : String)
    {folder : Folder} (hnames : (folder.entries.map Prod.fst).Nodup) :
    (∃ report, listFiles settings directory (some folder) = .ok report ∧
      Lists settings directory folder report.data ∧
      (∀ items, folder.IsWalk items →
        (listWalk settings directory items).data = report.data ∧
          (listWalk settings directory items).warnings.Perm report.warnings) ∧
      ∀ settings' : CorpusSettings, Respelled settings.extensions settings'.extensions →
        listFiles settings' directory (some folder) = .ok report) ∧
    listFiles settings directory none = .error (.notDirectory directory) := by
  refine ⟨⟨listFolder settings directory folder, rfl, lists_listFolder settings directory hnames,
    fun items hwalk => ⟨listWalk_data_eq settings hwalk hnames,
      listWalk_warnings_perm settings hwalk⟩, fun settings' hsame => ?_⟩, rfl⟩
  rw [listFiles, listFolder_eq_of_mem_iff (mem_effectiveExtensions_iff hsame)]

/-- A directory with files of more than one point, in capital letters, without a point,
with nothing behind it, and hidden; and with a directory and a link that leads nowhere
under names that would do. -/
def oddNames : Folder where
  entries :=
    [("x.TSX", .file (.ofBytes .empty)),
      ("c.tsx", .folder),
      (".h.tsx", .file (.ofBytes .empty)),
      ("noext", .file (.ofBytes .empty)),
      ("a.b.tsx", .file (.ofBytes .empty)),
      ("d.tsx", .broken "nowhere"),
      ("tsx.", .file (.ofBytes .empty))]

/-- A walk over it in the opposite order. -/
def oddWalk : List WalkItem := (.directory :: oddNames.entries.filterMap walkItem?).reverse

theorem listFiles_oddNames :
    (oddNames.entries.map Prod.fst).Nodup ∧
      ∃ report, listFiles { extensions := ["tsx"] } "d" (some oddNames) = .ok report ∧
        (report.data.map fun file => (file.name, file.path)) =
          [("a.b.tsx", "d/a.b.tsx"), ("x.TSX", "d/x.TSX")] ∧
        Lists { extensions := ["tsx"] } "d" oddNames report.data ∧
        (listWalk { extensions := ["tsx"] } "d" oddWalk).data = report.data ∧
        listFiles { extensions := ["tsx", "..TsX"] } "d" (some oddNames) = .ok report := by
  have hnames : (oddNames.entries.map Prod.fst).Nodup := by decide +kernel
  have hwalk : oddNames.IsWalk oddWalk := List.reverse_perm _
  have htwice : Respelled ["tsx"] ["tsx", "tsx"] := .repeated List.mem_cons_self
  have hletters : Respelled ["tsx", "tsx"] ["TsX", "tsx"] := .recased (by decide +kernel)
  have hpoints : Respelled ["TsX", "tsx"] ["..TsX", "tsx"] := .pointed 2
  have hsame : Respelled ["tsx"] ["tsx", "..TsX"] :=
    ((htwice.trans hletters).trans hpoints).trans (.reorder (.swap _ _ _))
  obtain ⟨report, hreport, hlists, hwalks, hrespelled⟩ :=
    (listFiles_eq_component_files { extensions := ["tsx"] } "d" hnames).1
  have hfound : (oddNames.entries.filterMap fun entry =>
      MemberFile.ofEntry "d" ["tsx"] entry.1 entry.2).map (fun file => (file.name, file.path)) =
      [("x.TSX", "d/x.TSX"), ("a.b.tsx", "d/a.b.tsx")] := by decide +kernel
  have hfiles : (report.data.map fun file => (file.name, file.path)) =
      [("a.b.tsx", "d/a.b.tsx"), ("x.TSX", "d/x.TSX")] := by
    rw [listFiles] at hreport
    have hextensions : CorpusSettings.effectiveExtensions { extensions := ["tsx"] } = ["tsx"] := by
      decide +kernel
    have horder : ¬"x.TSX" ≤ "a.b.tsx" := by decide +kernel
    rw [← Except.ok.inj hreport, map_listFolder, hextensions, hfound]
    simp [List.mergeSort, List.MergeSort.Internal.splitInTwo, horder]
  exact ⟨hnames, report, hreport, hfiles, hlists, (hwalks oddWalk hwalk).1,
    hrespelled { extensions := ["tsx", "..TsX"] } hsame⟩

end ComponentLikeness
