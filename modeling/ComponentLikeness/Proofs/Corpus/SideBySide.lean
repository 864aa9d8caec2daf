import ComponentLikeness.Corpus.Loading
import ComponentLikeness.Proofs.Session.Transparency

/-!
# Loading in any order of turns

What becomes of a listed file by itself is `MemberFile.outcomeOf`: it knows
nothing of a store or of other files. Under a transparent invariant every way of
loading files comes to that, one file after the other (`Transparent.loadInOrder`)
and side by side with any order of turns (`Transparent.loadByTurns`).

The latter rests on what each worker knows (`Worker.Sound`). A turn keeps it for
the worker that takes it and does not touch the others, so it is kept along any
list of turns; what is shared is left to the invariant of the session.
-/

namespace ComponentLikeness

open Component

namespace MemberFile

/-- The text of the file if it is read at all under the settings. -/
def text? (settings : Settings) (file : MemberFile) : Option String :=
  (file.readText settings.corpus.effectiveMaxFileSize.toNat).toOption

/-- What becomes of the file by itself, its fingerprint being computed afresh. -/
def outcomeOf (settings : Settings) (file : MemberFile) : Except CorpusError CorpusEntry :=
  match file.readText settings.corpus.effectiveMaxFileSize.toNat with
  | .error e => .error e
  | .ok text => file.outcome (Fingerprint.ofSource settings.analysis text)

variable {settings : Settings} {file : MemberFile}

theorem text?_of_readText {text : String}
    (h : file.readText settings.corpus.effectiveMaxFileSize.toNat = .ok text) :
    file.text? settings = some text := by
  rw [text?, h]
  rfl

theorem outcomeOf_of_error {e : CorpusError}
    (h : file.readText settings.corpus.effectiveMaxFileSize.toNat = .error e) :
    file.outcomeOf settings = .error e := by
  rw [outcomeOf, h]

theorem outcomeOf_of_text {text : String}
    (h : file.readText settings.corpus.effectiveMaxFileSize.toNat = .ok text) :
    file.outcomeOf settings = file.outcome (Fingerprint.ofSource settings.analysis text) := by
  rw [outcomeOf, h]

end MemberFile

/-- The texts of the files that are read. -/
def textsOf (settings : Settings) (files : List MemberFile) : List String :=
  files.filterMap (MemberFile.text? settings)

theorem mem_textsOf {settings : Settings} {files : List MemberFile} {file : MemberFile}
    (hfile : file ∈ files) {text : String} (h : file.text? settings = some text) :
    text ∈ textsOf settings files :=
  List.mem_filterMap.mpr ⟨file, hfile, h⟩

namespace Worker

/-- What the worker knows is right: the text is that of its file, the fingerprint
that of the text, and the result what becomes of the file by itself. -/
def Sound (settings : Settings) (w : Worker) : Prop :=
  match w.progress with
  | .waiting => True
  | .missed text =>
    w.file.readText settings.corpus.effectiveMaxFileSize.toNat = .ok text
  | .computed text f =>
    w.file.readText settings.corpus.effectiveMaxFileSize.toNat = .ok text ∧
      Fingerprint.ofSource settings.analysis text = .ok f
  | .done result => result = w.file.outcomeOf settings

/-- Workers that stand for files start with them. -/
theorem map_file_start (files : List MemberFile) :
    (files.map fun file => ({ file } : Worker)).map (·.file) = files := by
  rw [List.map_map]
  exact List.map_id files

/-- Only the place of the worker that takes a turn changes, and its file stays. -/
theorem map_file_set {workers : List Worker} {k : Nat} {w w' : Worker}
    (hk : workers[k]? = some w) (hfile : w'.file = w.file) :
    (workers.set k w').map (·.file) = workers.map (·.file) := by
  obtain ⟨hlt, rfl⟩ := List.getElem?_eq_some_iff.mp hk
  rw [List.map_set, hfile]
  exact List.ext_getElem (by simp) (by simp +contextual [List.getElem_set])

end Worker

/-! ## Single files and single turns -/

namespace Transparent

variable {settings : Settings} {texts : Set String} {I : Session → Prop}

/-- Loading a file answers with what becomes of it by itself. -/
theorem load (h : Transparent settings.analysis texts I) {file : MemberFile}
    (ht : ∀ text, file.text? settings = some text → text ∈ texts) :
    Yields I (file.load settings) (· = file.outcomeOf settings) := by
  unfold MemberFile.load
  cases hread : file.readText settings.corpus.effectiveMaxFileSize.toNat with
  | error e => exact .pure (MemberFile.outcomeOf_of_error hread).symm
  | ok text =>
    refine .bind (h.fingerprint (ht text (MemberFile.text?_of_readText hread))) fun answer ha => ?_
    refine .pure ?_
    rw [MemberFile.outcomeOf_of_text hread, ha]

/-- A turn keeps a worker sound and with its file. -/
theorem turn (h : Transparent settings.analysis texts I) {w : Worker}
    (ht : ∀ text, w.file.text? settings = some text → text ∈ texts) (hw : w.Sound settings) :
    Yields I (w.turn settings) fun w' => w'.file = w.file ∧ w'.Sound settings := by
  obtain ⟨file, progress⟩ := w
  unfold Worker.turn
  cases progress with
  | waiting =>
    cases hread : file.readText settings.corpus.effectiveMaxFileSize.toNat with
    | error e =>
      exact .pure ⟨rfl, (MemberFile.outcomeOf_of_error hread).symm⟩
    | ok text =>
      refine .bind (h.lookup text (ht text (MemberFile.text?_of_readText hread)))
        fun found hfound => ?_
      cases found with
      | none => exact .pure ⟨rfl, hread⟩
      | some f =>
        refine .pure ⟨rfl, ?_⟩
        show file.outcome (.ok f) = file.outcomeOf settings
        rw [MemberFile.outcomeOf_of_text hread, hfound f rfl]
  | missed text =>
    have hread : file.readText settings.corpus.effectiveMaxFileSize.toNat = .ok text := hw
    refine .bind (h.compute text) fun answer ha => ?_
    cases answer with
    | ok f => exact .pure ⟨rfl, hread, ha.symm⟩
    | error e =>
      refine .pure ⟨rfl, ?_⟩
      show file.outcome (.error e) = file.outcomeOf settings
      rw [MemberFile.outcomeOf_of_text hread, ha]
  | computed text f =>
    obtain ⟨hread, hf⟩ := hw
    refine .bind (h.remember text (ht text (MemberFile.text?_of_readText hread)) f hf)
      fun _ _ => .pure ⟨rfl, ?_⟩
    show file.outcome (.ok f) = file.outcomeOf settings
    rw [MemberFile.outcomeOf_of_text hread, hf]
  | done result => exact .pure ⟨rfl, hw⟩

/-- Whatever a sound worker has done so far, it finishes with what becomes of
its file by itself. -/
theorem finish (h : Transparent settings.analysis texts I) {w : Worker}
    (ht : ∀ text, w.file.text? settings = some text → text ∈ texts) (hw : w.Sound settings) :
    Yields I (w.finish settings) (· = w.file.outcomeOf settings) := by
  unfold Worker.finish
  refine .bind (h.turn ht hw) fun w₁ ⟨hfile₁, hw₁⟩ => ?_
  rw [← hfile₁] at ht ⊢
  refine .bind (h.turn ht hw₁) fun w₂ ⟨hfile₂, hw₂⟩ => ?_
  rw [← hfile₂] at ht ⊢
  refine .bind (h.turn ht hw₂) fun w₃ ⟨hfile₃, hw₃⟩ => ?_
  rw [← hfile₃] at ht ⊢
  obtain ⟨file, progress⟩ := w₃
  cases progress with
  | done result => exact .pure hw₃
  | waiting => exact h.load ht
  | missed text => exact h.load ht
  | computed text f => exact h.load ht

/-! ## All files -/

/-- Any list of turns keeps all workers sound and with their files. -/
theorem takeTurns (h : Transparent settings.analysis texts I) (turns : List Nat)
    {workers : List Worker}
    (ht : ∀ w ∈ workers, ∀ text, w.file.text? settings = some text → text ∈ texts)
    (hw : ∀ w ∈ workers, w.Sound settings) :
    Yields I (Worker.takeTurns settings turns workers) fun workers' =>
      workers'.map (·.file) = workers.map (·.file) ∧ ∀ w ∈ workers', w.Sound settings := by
  induction turns generalizing workers with
  | nil => exact .pure ⟨rfl, hw⟩
  | cons k turns ih =>
    unfold Worker.takeTurns
    cases hk : workers[k]? with
    | none => exact ih ht hw
    | some w =>
      have hmem : w ∈ workers := List.mem_of_getElem? hk
      refine .bind (h.turn (ht w hmem) (hw w hmem)) fun w' ⟨hfile, hw'⟩ => ?_
      have hfiles := Worker.map_file_set hk hfile
      have hof : ∀ v ∈ workers.set k w', v ∈ workers ∨ v = w' := fun v hv =>
        List.mem_or_eq_of_mem_set hv
      refine (ih ?_ ?_).mono fun workers' ⟨hfiles', hw''⟩ => ⟨hfiles'.trans hfiles, hw''⟩
      · intro v hv
        rcases hof v hv with hv | rfl
        · exact ht v hv
        · exact hfile ▸ ht w hmem
      · intro v hv
        rcases hof v hv with hv | rfl
        · exact hw v hv
        · exact hw'

variable {files : List MemberFile}

/-- Side by side, in any order of turns, each file comes to what it comes to by
itself. -/
theorem loadByTurns (h : Transparent settings.analysis texts I)
    (ht : ∀ text ∈ textsOf settings files, text ∈ texts) (turns : List Nat) :
    Yields I (loadByTurns settings turns files)
      (· = files.map (MemberFile.outcomeOf settings)) := by
  refine .bind (h.takeTurns turns ?_ ?_) fun workers ⟨hfiles, hw⟩ => ?_
  · intro w hmem text htext
    obtain ⟨file, hfile, rfl⟩ := List.mem_map.mp hmem
    exact ht text (mem_textsOf hfile htext)
  · intro w hmem
    obtain ⟨file, hfile, rfl⟩ := List.mem_map.mp hmem
    trivial
  · rw [Worker.map_file_start] at hfiles
    have hread : ∀ w ∈ workers, ∀ text, w.file.text? settings = some text → text ∈ texts :=
      fun w hmem text htext =>
        ht text (mem_textsOf (hfiles ▸ List.mem_map_of_mem hmem) htext)
    refine (Yields.mapM fun w hmem => h.finish (hread w hmem) (hw w hmem)).mono ?_
    rintro _ rfl
    rw [← hfiles, List.map_map]
    rfl

/-- One after the other, each file comes to what it comes to by itself. -/
theorem loadInOrder (h : Transparent settings.analysis texts I)
    (ht : ∀ text ∈ textsOf settings files, text ∈ texts) :
    Yields I (loadInOrder settings files) (· = files.map (MemberFile.outcomeOf settings)) :=
  .mapM fun _ hfile => h.load fun text htext => ht text (mem_textsOf hfile htext)

end Transparent

end ComponentLikeness
