import ComponentLikeness.Proofs.Component.Entries
import ComponentLikeness.Proofs.Corpus.SideBySide
import ComponentLikeness.Proofs.Session.Runs
import Mathlib.Data.List.Perm.Subperm

/-!
# How a store grows

A store that drops nothing and has room for what comes is only ever added to
(`FingerprintCache.GrowsTo`): what it held stays as it is, and behind it come
fingerprints of accepted texts under their keys. A step of a session is described
by what it answers and by keys that the store holds afterwards, given keys that it
holds before (`Gains`); such descriptions compose along the step, since no key is
ever lost.

The only step that puts something in remembers a fingerprint that has just been
computed for a text that was not found. Side by side, another worker may have
remembered one for the same key by then. Then that entry is replaced, but it is
not among those that were there at first, for which the text would have been found.

Texts of one key need not be equal: what is found under the key of a text may be
the fingerprint of another one. So a file may become a member without its text
being accepted, but only if the store holds its key already
(`MemberFile.LoadsAs`).
-/

namespace ComponentLikeness

open Component Component.FingerprintCache Files

/-! ## Growing -/

namespace Component.FingerprintCache

variable {c : FingerprintCache} {key : UInt64} {f : Fingerprint}

/-- The store has room for the keys of the texts: there are some keys, no more than
its capacity, among which are these and those that it holds. -/
def HasRoom (texts : List String) (c : FingerprintCache) : Prop :=
  ∃ room : List UInt64, room.length ≤ c.capacity ∧ c.keys ⊆ room ∧ texts.map contentKey ⊆ room

variable {settings : AnalysisSettings} {texts : List String} {before : FingerprintCache}

/-- The store has become another one to which nothing but fingerprints of accepted
ones among the texts, each under its key, has been added. -/
structure GrowsTo (settings : AnalysisSettings) (texts : List String)
    (before c : FingerprintCache) : Prop where
  capacity_eq : c.capacity = before.capacity
  retention_eq : c.retention = .full
  nodup_keys : c.keys.Nodup
  entries_eq : ∃ added, c.entries = before.entries ++ added ∧ ∀ entry ∈ added, ∃ text ∈ texts,
    contentKey text = entry.1 ∧ Fingerprint.ofSource settings text = .ok entry.2

namespace GrowsTo

theorem refl (hretention : c.retention = .full) (hnodup : c.keys.Nodup) :
    c.GrowsTo settings texts c :=
  ⟨rfl, hretention, hnodup, [], (List.append_nil _).symm, nofun⟩

theorem age (h : before.GrowsTo settings texts c) : before.GrowsTo settings texts c.age where
  capacity_eq := h.capacity_eq
  retention_eq := h.retention_eq
  nodup_keys := by rw [keys_age_of_full h.retention_eq]; exact h.nodup_keys
  entries_eq := by rw [entries_age_of_full h.retention_eq]; exact h.entries_eq

/-- No key is lost. -/
theorem keys_subset (h : before.GrowsTo settings texts c) : before.keys ⊆ c.keys := by
  obtain ⟨added, hentries, -⟩ := h.entries_eq
  rw [keys, keys, hentries, List.map_append]
  exact List.subset_append_left _ _

/-- Every key was there at first or is that of one of the texts. -/
theorem mem_before_or_mem_texts (h : before.GrowsTo settings texts c) (hkey : key ∈ c.keys) :
    key ∈ before.keys ∨ key ∈ texts.map contentKey := by
  obtain ⟨added, hentries, hadded⟩ := h.entries_eq
  rw [keys, hentries, List.map_append, List.mem_append] at hkey
  refine hkey.imp_right fun hkey => ?_
  obtain ⟨entry, hentry, rfl⟩ := List.mem_map.mp hkey
  obtain ⟨text, htext, hkey, -⟩ := hadded entry hentry
  exact hkey ▸ List.mem_map_of_mem htext

/-- Where there is room, a further key always finds a place. -/
theorem length_lt_capacity (h : before.GrowsTo settings texts c) (hroom : before.HasRoom texts)
    {text : String} (htext : text ∈ texts) (hkey : contentKey text ∉ c.keys) :
    c.entries.length < c.capacity := by
  obtain ⟨room, hlength, hbefore, htexts⟩ := hroom
  -- the key and those that are held are distinct, and there is room for all of them
  have hsubset : contentKey text :: c.keys ⊆ room := by
    refine List.cons_subset.mpr ⟨htexts (List.mem_map_of_mem htext), fun key hmem => ?_⟩
    exact (h.mem_before_or_mem_texts hmem).elim (@hbefore key) (@htexts key)
  have hle := (List.subperm_of_subset (List.nodup_cons.mpr ⟨hkey, h.nodup_keys⟩) hsubset).length_le
  rw [List.length_cons, keys, List.length_map] at hle
  rw [h.capacity_eq]
  omega

/-- A fingerprint for a key that was not there at first is taken in. -/
theorem insert (h : before.GrowsTo settings texts c) (hroom : before.HasRoom texts)
    {text : String} (htext : text ∈ texts) (hf : Fingerprint.ofSource settings text = .ok f)
    (hbefore : contentKey text ∉ before.keys) :
    before.GrowsTo settings texts (c.insert text f) ∧ c.keys ⊆ (c.insert text f).keys ∧
      contentKey text ∈ (c.insert text f).keys := by
  have hplace : (c.entries.length < c.capacity || (c.get? text).isSome) = true := by
    rw [Bool.or_eq_true, decide_eq_true_eq, get?_isSome_iff, or_iff_not_imp_right]
    exact h.length_lt_capacity hroom htext
  have hput : (c.insert text f).entries = put (contentKey text) f c.entries := if_pos hplace
  have hentries : ∃ added, (c.insert text f).entries = before.entries ++ added ∧
      ∀ entry ∈ added, ∃ text ∈ texts,
        contentKey text = entry.1 ∧ Fingerprint.ofSource settings text = .ok entry.2 := by
    obtain ⟨added, hentries, hadded⟩ := h.entries_eq
    -- the key is not among those in front, so only what has been added changes
    refine ⟨put (contentKey text) f added, ?_, fun entry hentry => ?_⟩
    · rw [hput, hentries, put_append hbefore]
    · rcases eq_or_mem_of_mem_put hentry with rfl | hentry
      · exact ⟨text, htext, rfl, hf⟩
      · exact hadded entry hentry
  refine ⟨⟨h.capacity_eq, h.retention_eq, ?_, hentries⟩, ?_, ?_⟩
  · rw [keys, hput]
    exact nodup_map_fst_put h.nodup_keys
  · rw [keys, keys, hput]
    exact map_fst_subset_put
  · rw [keys, hput]
    exact mem_map_fst_put

end GrowsTo

end Component.FingerprintCache

/-! ## Steps that let the store grow -/

section Gains

variable {α β : Type} {settings : AnalysisSettings} {texts : List String}
  {before : FingerprintCache} {known : List UInt64}

/-- Taken in a session with a store that has grown from the one before and holds
the known keys, the step leaves such a store, and what it answers and the keys that
are held then are as described. -/
def Gains (settings : AnalysisSettings) (texts : List String) (before : FingerprintCache)
    (known : List UInt64) (x : SessionM α) (post : α → List UInt64 → Prop) : Prop :=
  ∀ s c, s.cache = some c → before.GrowsTo settings texts c → known ⊆ c.keys →
    ∃ c', (x.run s).2.cache = some c' ∧ before.GrowsTo settings texts c' ∧ known ⊆ c'.keys ∧
      post (x.run s).1 c'.keys

namespace Gains

variable {x : SessionM α} {f : α → SessionM β} {P : α → List UInt64 → Prop}
  {Q : β → List UInt64 → Prop}

theorem pure {a : α} (h : ∀ keys, known ⊆ keys → P a keys) :
    Gains settings texts before known (Pure.pure a) P :=
  fun _ c hs hc hknown => ⟨c, hs, hc, hknown, h c.keys hknown⟩

/-- What is known after the first step is known in the second. -/
theorem bind (hx : Gains settings texts before known x P)
    (hf : ∀ a keys, P a keys → Gains settings texts before keys (f a) Q) :
    Gains settings texts before known (x >>= f) Q := by
  intro s c hs hc hknown
  obtain ⟨c₁, hs₁, hc₁, hknown₁, ha⟩ := hx s c hs hc hknown
  obtain ⟨c₂, hs₂, hc₂, hkeys, hb⟩ := hf _ _ ha _ c₁ hs₁ hc₁ (List.Subset.refl _)
  exact ⟨c₂, hs₂, hc₂, List.Subset.trans hknown₁ hkeys, hb⟩

theorem mono {P' : α → List UInt64 → Prop} (hx : Gains settings texts before known x P)
    (h : ∀ a keys, known ⊆ keys → P a keys → P' a keys) :
    Gains settings texts before known x P' := by
  intro s c hs hc hknown
  obtain ⟨c', hs', hc', hknown', ha⟩ := hx s c hs hc hknown
  exact ⟨c', hs', hc', hknown', h _ _ hknown' ha⟩

/-- Steps one after the other answer as each of them does, if further keys do not
spoil any answer. -/
theorem mapM {R : α → β → List UInt64 → Prop} {l : List α}
    (hmono : ∀ a b keys keys', keys ⊆ keys' → R a b keys → R a b keys')
    (h : ∀ a ∈ l, ∀ keys, known ⊆ keys → Gains settings texts before keys (f a) (R a)) :
    Gains settings texts before known (l.mapM f) fun bs keys =>
      List.Forall₂ (fun a b => R a b keys) l bs := by
  induction l generalizing known with
  | nil => exact .pure fun _ _ => .nil
  | cons a l ih =>
    rw [List.mapM_cons]
    refine .bind (P := fun b keys => known ⊆ keys ∧ R a b keys) ?_ ?_
    · exact (h a List.mem_cons_self known (List.Subset.refl _)).mono fun _ _ hk hb => ⟨hk, hb⟩
    rintro b keys ⟨hk, hb⟩
    refine .bind (P := fun bs keys' => keys ⊆ keys' ∧
      List.Forall₂ (fun a b => R a b keys') l bs) ?_ ?_
    · refine (ih fun a' ha' keys' hk' => ?_).mono fun _ _ hk' hbs => ⟨hk', hbs⟩
      exact h a' (List.mem_cons_of_mem a ha') keys' (List.Subset.trans hk hk')
    rintro bs keys' ⟨hk', hbs⟩
    -- the answers so far outlast what the later steps have added
    refine .pure fun keys'' hk'' => .cons (hmono _ _ _ _ (List.Subset.trans hk' hk'') hb) ?_
    exact hbs.imp fun _ _ => hmono _ _ _ _ hk''

end Gains

end Gains

/-! ## Fingerprinting -/

namespace Gains

variable {settings : AnalysisSettings} {texts : List String} {before : FingerprintCache}
  {known : List UInt64} {text : String}

/-- A text whose fingerprint is not found had none at first. -/
theorem lookup (text : String) :
    Gains settings texts before known (Session.lookup text) fun found keys =>
      (found.isSome → contentKey text ∈ keys) ∧ (found = none → contentKey text ∉ before.keys) := by
  intro s c hs hc hknown
  rw [Session.run_lookup, Session.served?, Session.aged, hs]
  refine ⟨c.age, rfl, hc.age, ?_, fun h => ?_, fun h hmem => ?_⟩
  · rw [keys_age_of_full hc.retention_eq]
    exact hknown
  · exact get?_isSome_iff.mp h
  -- what was there at first would still be found
  · exact get?_eq_none_iff.mp h (hc.age.keys_subset hmem)

theorem compute (text : String) :
    Gains settings texts before known (Session.compute settings text) fun answer _ =>
      answer = Fingerprint.ofSource settings text := by
  intro s c hs hc hknown
  cases h : Fingerprint.ofSource settings text with
  | ok f =>
    rw [Session.run_compute_of_ok h]
    exact ⟨c, hs, hc, hknown, rfl⟩
  | error e =>
    rw [Session.run_compute_of_error h]
    exact ⟨c, hs, hc, hknown, rfl⟩

variable (hroom : before.HasRoom texts)
include hroom

theorem remember {f : Fingerprint} (htext : text ∈ texts)
    (hf : Fingerprint.ofSource settings text = .ok f) (hbefore : contentKey text ∉ before.keys) :
    Gains settings texts before known (Session.remember text f) fun _ keys =>
      contentKey text ∈ keys := by
  intro s c hs hc hknown
  obtain ⟨hgrows, hkeys, hkey⟩ := hc.insert hroom htext hf hbefore
  rw [Session.run_remember, Session.remembering, hs]
  exact ⟨c.insert text f, rfl, hgrows, List.Subset.trans hknown hkeys, hkey⟩

/-- The key of a text whose fingerprint is answered is held afterwards; a text that
is refused has none by itself. -/
theorem fingerprint (htext : ∀ f, Fingerprint.ofSource settings text = .ok f → text ∈ texts) :
    Gains settings texts before known (Session.fingerprint settings text) fun answer keys =>
      (∀ f, answer = .ok f → contentKey text ∈ keys) ∧
      ∀ e, answer = .error e → Fingerprint.ofSource settings text = .error e := by
  refine .bind (lookup text) fun found keys ⟨hfound, hmissed⟩ => ?_
  cases found with
  | some f => exact .pure fun keys' hkeys => ⟨fun _ _ => hkeys (hfound rfl), nofun⟩
  | none =>
    refine .bind (compute text) fun answer keys' ha => ?_
    cases answer with
    | error e => exact .pure fun _ _ => ⟨nofun, fun _ he => ha.symm.trans he⟩
    | ok f =>
      refine .bind (remember hroom (htext f ha.symm) ha.symm (hmissed rfl)) fun _ keys'' hkey => ?_
      exact .pure fun _ hkeys => ⟨fun _ _ => hkeys hkey, nofun⟩

end Gains

/-! ## Loading -/

variable {settings : Settings} {keys keys' : List UInt64}

/-- What becomes of a file if the keys are held afterwards: it is a member, and the
key of its text is held, or it is skipped because it comes to nothing by itself. -/
inductive MemberFile.LoadsAs (settings : Settings) (keys : List UInt64) (file : MemberFile) :
    Except CorpusError CorpusEntry → Prop
  | member {text : String} {f : Fingerprint} (htext : file.text? settings = some text)
      (hkey : contentKey text ∈ keys) : LoadsAs settings keys file (file.outcome (.ok f))
  | skipped {e : CorpusError} (he : file.outcomeOf settings = .error e) :
      LoadsAs settings keys file (.error e)

theorem MemberFile.LoadsAs.mono {file : MemberFile} {outcome : Except CorpusError CorpusEntry}
    (h : file.LoadsAs settings keys outcome) (hkeys : keys ⊆ keys') :
    file.LoadsAs settings keys' outcome := by
  cases h with
  | member htext hkey => exact .member htext (hkeys hkey)
  | skipped he => exact .skipped he

/-- The key of a text that is accepted is held when its file has been loaded. -/
theorem MemberFile.LoadsAs.contentKey_mem {file : MemberFile}
    {outcome : Except CorpusError CorpusEntry} (h : file.LoadsAs settings keys outcome)
    {text : String} (htext : file.text? settings = some text) {f : Fingerprint}
    (hf : Fingerprint.ofSource settings.analysis text = .ok f) : contentKey text ∈ keys := by
  cases h with
  | member htext' hkey => exact Option.some.inj (htext'.symm.trans htext) ▸ hkey
  | skipped he =>
    cases hread : file.readText settings.corpus.effectiveMaxFileSize.toNat with
    | error e => simp [MemberFile.text?, hread, Except.toOption] at htext
    | ok text' =>
      obtain rfl := Option.some.inj ((MemberFile.text?_of_readText hread).symm.trans htext)
      rw [MemberFile.outcomeOf_of_text hread, hf, MemberFile.outcome] at he
      contradiction

/-- What a worker knows: the text is that of its file, the store did not hold the key
of the text at first, the fingerprint is that of the text, and the result is what may
become of the file. -/
def Worker.Tracks (settings : Settings) (before : FingerprintCache) (keys : List UInt64)
    (w : Worker) : Prop :=
  match w.progress with
  | .waiting => True
  | .missed text =>
    w.file.readText settings.corpus.effectiveMaxFileSize.toNat = .ok text ∧
      contentKey text ∉ before.keys
  | .computed text f =>
    w.file.readText settings.corpus.effectiveMaxFileSize.toNat = .ok text ∧
      contentKey text ∉ before.keys ∧ Fingerprint.ofSource settings.analysis text = .ok f
  | .done result => w.file.LoadsAs settings keys result

theorem Worker.Tracks.mono {before : FingerprintCache} {w : Worker}
    (h : w.Tracks settings before keys) (hkeys : keys ⊆ keys') :
    w.Tracks settings before keys' := by
  obtain ⟨file, progress⟩ := w
  cases progress with
  | waiting => trivial
  | missed text => exact h
  | computed text f => exact h
  | done result => exact MemberFile.LoadsAs.mono h hkeys

/-- The texts that may be remembered are among the given ones. -/
def MemberFile.AddsTo (settings : Settings) (texts : List String) (file : MemberFile) : Prop :=
  ∀ text, file.text? settings = some text →
    ∀ f, Fingerprint.ofSource settings.analysis text = .ok f → text ∈ texts

namespace Gains

variable {texts : List String} {before : FingerprintCache} {known : List UInt64}
  (hroom : before.HasRoom texts)
include hroom

theorem load {file : MemberFile} (hfile : file.AddsTo settings texts) :
    Gains settings.analysis texts before known (file.load settings) fun outcome keys =>
      file.LoadsAs settings keys outcome := by
  unfold MemberFile.load
  cases hread : file.readText settings.corpus.effectiveMaxFileSize.toNat with
  | error e => exact .pure fun _ _ => .skipped (MemberFile.outcomeOf_of_error hread)
  | ok text =>
    have htext := MemberFile.text?_of_readText hread
    refine .bind (fingerprint hroom (hfile text htext)) fun answer keys ⟨hkey, hrefused⟩ => ?_
    refine .pure fun keys' hkeys => ?_
    cases answer with
    | ok f => exact .member htext (hkeys (hkey f rfl))
    | error e =>
      refine .skipped ?_
      rw [MemberFile.outcomeOf_of_text hread, hrefused e rfl, MemberFile.outcome]

/-- A turn keeps what a worker knows and its file. -/
theorem turn {w : Worker} (hfile : w.file.AddsTo settings texts)
    (hw : w.Tracks settings before known) :
    Gains settings.analysis texts before known (w.turn settings) fun w' keys =>
      w'.file = w.file ∧ w'.Tracks settings before keys := by
  obtain ⟨file, progress⟩ := w
  unfold Worker.turn
  cases progress with
  | waiting =>
    cases hread : file.readText settings.corpus.effectiveMaxFileSize.toNat with
    | error e => exact .pure fun _ _ => ⟨rfl, .skipped (MemberFile.outcomeOf_of_error hread)⟩
    | ok text =>
      refine .bind (lookup text) fun found keys ⟨hfound, hmissed⟩ => ?_
      cases found with
      | none => exact .pure fun _ _ => ⟨rfl, hread, hmissed rfl⟩
      | some f =>
        refine .pure fun keys' hkeys => ⟨rfl, ?_⟩
        exact .member (MemberFile.text?_of_readText hread) (hkeys (hfound rfl))
  | missed text =>
    obtain ⟨hread, hmissed⟩ := hw
    refine .bind (compute text) fun answer keys ha => ?_
    cases answer with
    | ok f => exact .pure fun _ _ => ⟨rfl, hread, hmissed, ha.symm⟩
    | error e =>
      refine .pure fun _ _ => ⟨rfl, .skipped ?_⟩
      rw [MemberFile.outcomeOf_of_text hread, ← ha, MemberFile.outcome]
  | computed text f =>
    -- the key may be held by now, but it was not at first
    obtain ⟨hread, hmissed, hf⟩ := hw
    have htext := MemberFile.text?_of_readText hread
    refine .bind (remember hroom (hfile text htext f hf) hf hmissed) fun _ keys hkey => ?_
    exact .pure fun keys' hkeys => ⟨rfl, .member htext (hkeys hkey)⟩
  | done result => exact .pure fun keys hkeys => ⟨rfl, MemberFile.LoadsAs.mono hw hkeys⟩

theorem finish {w : Worker} (hfile : w.file.AddsTo settings texts)
    (hw : w.Tracks settings before known) :
    Gains settings.analysis texts before known (w.finish settings) fun outcome keys =>
      w.file.LoadsAs settings keys outcome := by
  unfold Worker.finish
  refine .bind (turn hroom hfile hw) fun w₁ keys₁ ⟨hfile₁, hw₁⟩ => ?_
  rw [← hfile₁] at hfile ⊢
  refine .bind (turn hroom hfile hw₁) fun w₂ keys₂ ⟨hfile₂, hw₂⟩ => ?_
  rw [← hfile₂] at hfile ⊢
  refine .bind (turn hroom hfile hw₂) fun w₃ keys₃ ⟨hfile₃, hw₃⟩ => ?_
  rw [← hfile₃] at hfile ⊢
  obtain ⟨file, progress⟩ := w₃
  cases progress with
  | done result => exact .pure fun keys hkeys => MemberFile.LoadsAs.mono hw₃ hkeys
  | waiting => exact load hroom hfile
  | missed text => exact load hroom hfile
  | computed text f => exact load hroom hfile

/-- Any list of turns keeps what all workers know and their files. -/
theorem takeTurns (turns : List Nat) {workers : List Worker}
    (hfiles : ∀ w ∈ workers, w.file.AddsTo settings texts)
    (hw : ∀ w ∈ workers, w.Tracks settings before known) :
    Gains settings.analysis texts before known (Worker.takeTurns settings turns workers)
      fun workers' keys => workers'.map (·.file) = workers.map (·.file) ∧
        ∀ w ∈ workers', w.Tracks settings before keys := by
  induction turns generalizing workers known with
  | nil => exact .pure fun keys hkeys => ⟨rfl, fun w hmem => (hw w hmem).mono hkeys⟩
  | cons k turns ih =>
    unfold Worker.takeTurns
    cases hk : workers[k]? with
    | none => exact ih hfiles hw
    | some w =>
      have hmem : w ∈ workers := List.mem_of_getElem? hk
      refine .bind (P := fun w' keys => known ⊆ keys ∧ w'.file = w.file ∧
        w'.Tracks settings before keys) ?_ ?_
      · exact (turn hroom (hfiles w hmem) (hw w hmem)).mono fun _ _ hkeys h => ⟨hkeys, h⟩
      rintro w' keys ⟨hkeys, hfile, hw'⟩
      refine (ih ?_ ?_).mono fun workers' _ _ h =>
        ⟨h.1.trans (Worker.map_file_set hk hfile), h.2⟩
      · intro v hv
        rcases List.mem_or_eq_of_mem_set hv with hv | rfl
        · exact hfiles v hv
        · exact hfile ▸ hfiles w hmem
      · intro v hv
        rcases List.mem_or_eq_of_mem_set hv with hv | rfl
        · exact (hw v hv).mono hkeys
        · exact hw'

/-- One after the other or side by side, each file is loaded, or skipped because it
comes to nothing by itself. -/
theorem loadFiles (turns : List Nat) {files : List MemberFile}
    (hfiles : ∀ file ∈ files, file.AddsTo settings texts) :
    Gains settings.analysis texts before known (loadFiles settings turns files)
      fun outcomes keys => List.Forall₂ (MemberFile.LoadsAs settings keys) files outcomes := by
  unfold ComponentLikeness.loadFiles
  split
  · have hstart : ∀ w ∈ files.map fun file => ({ file } : Worker),
        w.file.AddsTo settings texts ∧ w.Tracks settings before known := by
      intro w hmem
      obtain ⟨file, hfile, rfl⟩ := List.mem_map.mp hmem
      exact ⟨hfiles file hfile, trivial⟩
    refine .bind (takeTurns hroom turns (fun w hmem => (hstart w hmem).1)
      fun w hmem => (hstart w hmem).2) fun workers keys ⟨hmap, hw⟩ => ?_
    rw [Worker.map_file_start] at hmap
    subst hmap
    refine (mapM (fun _ _ _ _ hkeys h => h.mono hkeys) fun w hmem keys' hkeys => ?_).mono
      fun _ _ _ h => List.forall₂_map_left_iff.mpr h
    exact finish hroom (hfiles _ (List.mem_map_of_mem hmem)) ((hw w hmem).mono hkeys)
  · exact mapM (fun _ _ _ _ hkeys h => h.mono hkeys) fun file hfile _ _ =>
      load hroom (hfiles file hfile)

/-- A corpus comes of what becomes of the listed files. -/
theorem ofFiles (turns : List Nat) {listing : Report (List MemberFile)}
    (hfiles : ∀ file ∈ listing.data, file.AddsTo settings texts) :
    Gains settings.analysis texts before known (Corpus.ofFiles settings turns listing)
      fun report keys => ∃ outcomes, report = Corpus.ofOutcomes listing outcomes ∧
        List.Forall₂ (MemberFile.LoadsAs settings keys) listing.data outcomes := by
  intro s c hs hc hknown
  obtain ⟨c', hs', hc', hknown', hout⟩ := loadFiles hroom turns hfiles s c hs hc hknown
  rw [Corpus.run_ofFiles rfl]
  exact ⟨c', hs', hc', hknown', _, rfl, hout⟩

end Gains

end ComponentLikeness
