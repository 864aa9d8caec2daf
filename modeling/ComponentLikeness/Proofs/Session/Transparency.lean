import ComponentLikeness.Proofs.Component.Entries
import ComponentLikeness.Session
import Mathlib.Data.Set.Function

/-!
# Stores that cannot be told from computing afresh

A step of a session is described by what it answers and by an invariant of the
session that it keeps (`Yields`); such descriptions compose along the step.

An invariant is *transparent* for some texts if, under it, whatever is looked up
for one of them is its fingerprint, and remembering that fingerprint keeps the
invariant (`Transparent`). Two invariants are: that there is no store at all
(`transparent_cacheless`), and, for texts whose keys differ, that the store and
all it could bring back hold nothing but fingerprints of the texts under their
keys (`transparent_faithful`). What follows from transparency alone, such as
`Transparent.fingerprint`, holds with and without a store.
-/

namespace ComponentLikeness

open Component

/-! ## Steps that keep an invariant -/

section Yields

variable {α β : Type} {I : Session → Prop} {P : α → Prop} {Q : β → Prop}

/-- Taken in a session with the invariant, the step answers as described and
keeps the invariant. -/
def Yields (I : Session → Prop) (x : SessionM α) (P : α → Prop) : Prop :=
  ∀ s, I s → P (x.run s).1 ∧ I (x.run s).2

theorem Yields.pure {a : α} (h : P a) : Yields I (Pure.pure a) P :=
  fun _ hs => ⟨h, hs⟩

theorem Yields.bind {x : SessionM α} {f : α → SessionM β} (hx : Yields I x P)
    (hf : ∀ a, P a → Yields I (f a) Q) : Yields I (x >>= f) Q := by
  intro s hs
  obtain ⟨ha, hs'⟩ := hx s hs
  exact hf _ ha _ hs'

theorem Yields.mono {x : SessionM α} {P' : α → Prop} (hx : Yields I x P)
    (h : ∀ a, P a → P' a) : Yields I x P' := by
  intro s hs
  obtain ⟨ha, hs'⟩ := hx s hs
  exact ⟨h _ ha, hs'⟩

/-- Steps with known answers, one after the other, answer with all of them. -/
theorem Yields.mapM {f : α → SessionM β} {g : α → β} {l : List α}
    (h : ∀ a ∈ l, Yields I (f a) (· = g a)) : Yields I (l.mapM f) (· = l.map g) := by
  induction l with
  | nil => exact .pure rfl
  | cons a l ih =>
    rw [List.mapM_cons]
    refine .bind (h a List.mem_cons_self) ?_
    rintro _ rfl
    refine .bind (ih fun b hb => h b (List.mem_cons_of_mem a hb)) ?_
    rintro _ rfl
    exact .pure rfl

end Yields

/-! ## Transparent invariants -/

/-- Under the invariant the store cannot be told from computing the fingerprints
of the texts afresh. -/
structure Transparent (settings : AnalysisSettings) (texts : Set String)
    (I : Session → Prop) : Prop where
  lookup : ∀ text ∈ texts, Yields I (Session.lookup text) fun found =>
    ∀ f, found = some f → Fingerprint.ofSource settings text = .ok f
  remember : ∀ text ∈ texts, ∀ f, Fingerprint.ofSource settings text = .ok f →
    Yields I (Session.remember text f) fun _ => True
  tellAll : ∀ events, Yields I (Session.tellAll events) fun _ => True

namespace Transparent

variable {settings : AnalysisSettings} {texts : Set String} {I : Session → Prop}

theorem tell (h : Transparent settings texts I) (event : LogEvent) :
    Yields I (Session.tell event) fun _ => True := by
  intro s hs
  simpa [Session.tell, Session.tellAll] using h.tellAll [event] s hs

/-- Computing asks nothing of the store. -/
theorem compute (h : Transparent settings texts I) (text : String) :
    Yields I (Session.compute settings text) (· = Fingerprint.ofSource settings text) := by
  unfold Session.compute
  cases Fingerprint.ofSource settings text with
  | ok f => exact .bind (h.tell _) fun _ _ => .pure rfl
  | error e => exact .pure rfl

/-- Looked up or computed, the fingerprint is that of the text. -/
theorem fingerprint (h : Transparent settings texts I) {text : String} (ht : text ∈ texts) :
    Yields I (Session.fingerprint settings text) (· = Fingerprint.ofSource settings text) := by
  refine .bind (h.lookup text ht) fun found hfound => ?_
  cases found with
  | some f => exact .pure (hfound f rfl).symm
  | none =>
    refine .bind (h.compute text) fun answer hanswer => ?_
    -- a failure is not remembered
    cases answer with
    | ok f => exact .bind (h.remember text ht f hanswer.symm) fun _ _ => .pure hanswer
    | error e => exact .pure hanswer

end Transparent

/-! ## No store -/

/-- Nothing is remembered in a session without a store. -/
def Session.Cacheless (s : Session) : Prop := s.cache = none

/-- Without a store every text is computed afresh, whatever its key. -/
theorem transparent_cacheless (settings : AnalysisSettings) :
    Transparent settings Set.univ Session.Cacheless where
  lookup text _ := by
    rintro ⟨cache, events⟩ (rfl : cache = none)
    exact ⟨nofun, rfl⟩
  remember text _ f _ := by
    rintro ⟨cache, events⟩ (rfl : cache = none)
    exact ⟨trivial, rfl⟩
  tellAll events := fun s hs => ⟨trivial, hs⟩

/-! ## Faithful stores -/

namespace Component.FingerprintCache

/-- What the store holds or could bring back under the key of one of the texts
is the fingerprint of that text. -/
def Faithful (settings : AnalysisSettings) (texts : Set String) (c : FingerprintCache) : Prop :=
  ∀ text ∈ texts, ∀ f, (contentKey text, f) ∈ c.entries ++ c.puts →
    Fingerprint.ofSource settings text = .ok f

/-- Remembering brings in nothing but what is remembered. -/
theorem eq_or_mem_of_mem_insert {c : FingerprintCache} {text : String} {f : Fingerprint}
    {entry : UInt64 × Fingerprint}
    (h : entry ∈ (c.insert text f).entries ++ (c.insert text f).puts) :
    entry = (contentKey text, f) ∨ entry ∈ c.entries ++ c.puts := by
  rw [List.mem_append] at h ⊢
  rcases h with h | h
  · simp only [insert] at h
    split at h
    · exact (eq_or_mem_of_mem_put h).imp_right .inl
    · exact .inr (.inl h)
  · exact (List.mem_cons.mp h).imp_right .inr

variable {settings : AnalysisSettings} {texts : Set String} {c : FingerprintCache}

theorem faithful_ofCapacity (capacity : Nat) (retention : Retention) :
    Faithful settings texts { ofCapacity capacity with retention } := by
  intro text _ f hf
  simp [ofCapacity] at hf

theorem Faithful.age (h : c.Faithful settings texts) : c.age.Faithful settings texts := by
  intro text ht f hf
  refine h text ht f ?_
  rcases List.mem_append.mp hf with hf | hf
  · exact c.entries_age_subset hf
  · exact List.mem_append_right _ hf

theorem Faithful.ofSource_of_get? (h : c.Faithful settings texts) {text : String}
    (ht : text ∈ texts) {f : Fingerprint} (hf : c.get? text = some f) :
    Fingerprint.ofSource settings text = .ok f :=
  h text ht f (List.mem_append_left _ (mem_of_lookup_eq_some hf))

/-- Only here do the keys matter: what is put in under the key of a text must be
the fingerprint of every text with that key. -/
theorem Faithful.insert (h : c.Faithful settings texts) (hkeys : texts.InjOn contentKey)
    {text : String} (ht : text ∈ texts) {f : Fingerprint}
    (hf : Fingerprint.ofSource settings text = .ok f) :
    (c.insert text f).Faithful settings texts := by
  intro text' ht' f' hf'
  rcases eq_or_mem_of_mem_insert hf' with heq | hmem
  · obtain ⟨hkey, rfl⟩ := Prod.mk.inj heq
    rw [hkeys ht' ht hkey]
    exact hf
  · exact h text' ht' f' hmem

end Component.FingerprintCache

/-- The store of the session, if it has one, is faithful to the texts. -/
def Session.Faithful (settings : AnalysisSettings) (texts : Set String) (s : Session) : Prop :=
  ∀ c, s.cache = some c → c.Faithful settings texts

/-- A faithful store is transparent for texts of different keys, whatever it
drops or brings back. -/
theorem transparent_faithful (settings : AnalysisSettings) {texts : Set String}
    (hkeys : texts.InjOn contentKey) :
    Transparent settings texts (Session.Faithful settings texts) where
  lookup text ht := by
    rintro ⟨_ | c, events⟩ hs
    · exact ⟨nofun, hs⟩
    · have hage : c.age.Faithful settings texts := (hs c rfl).age
      refine ⟨fun f hf => hage.ofSource_of_get? ht hf, ?_⟩
      rintro _ ⟨⟩
      exact hage
  remember text ht f hf := by
    rintro ⟨_ | c, events⟩ hs
    · exact ⟨trivial, hs⟩
    · refine ⟨trivial, ?_⟩
      rintro _ ⟨⟩
      exact (hs c rfl).insert hkeys ht hf
  tellAll events := fun s hs => ⟨trivial, hs⟩

/-- A session starts with a faithful store, if with any. -/
theorem Session.faithful_ofSettings (settings : Settings) (retention : Retention)
    (analysis : AnalysisSettings) (texts : Set String) :
    (Session.ofSettings settings retention).Faithful analysis texts := by
  intro c hc
  by_cases h : settings.corpus.effectiveCacheCapacity = 0
  · simp [Session.ofSettings, h] at hc
  · simp only [Session.ofSettings, h, if_false, Option.some.injEq] at hc
    subst hc
    exact FingerprintCache.faithful_ofCapacity _ _

/-- A session without capacity has no store. -/
theorem Session.cacheless_ofSettings {settings : Settings} (retention : Retention)
    (h : settings.corpus.effectiveCacheCapacity = 0) :
    (Session.ofSettings settings retention).Cacheless := by
  simp [Session.ofSettings, h, Session.Cacheless]

end ComponentLikeness
