import ComponentLikeness.Proofs.Comparison.Agreement
import Mathlib

/-!
# Calls and their histories

What can be asked for in a session, one call after the other: a fingerprint, a
corpus or a comparison. A directory is given with the state that it is in at the
time of the call, so files may change between calls.

Neither the store nor loading side by side ever shows in an answer
(`answer_eq_uncached_in_order`), provided that texts of one key are equal. The
store may drop and bring back what it likes, calls may have failed, and workers
may take turns in any order.
-/

namespace ComponentLikeness

open Component Files Number Similarity

/-- Something that can be asked for. -/
inductive Call where
  | fingerprint (text : String)
  | loadCorpus (directory : String) (folder : Option Folder)
  | compare (candidate directory : String) (folder : Option Folder)

/-- What a call answers. -/
inductive Answer where
  | fingerprint (result : Except SourceError Fingerprint)
  | corpus (result : Except AnalysisError (Report Corpus))
  | comparison (result : Except AnalysisError (Report (Classification Binary64)))

namespace Call

/-- Make the call. `turns` orders the work if it is done side by side. -/
def run (settings : Settings) (turns : List Nat) : Call → SessionM Answer
  | fingerprint text => return .fingerprint (← Session.fingerprint settings.analysis text)
  | loadCorpus directory folder =>
    return .corpus (← ComponentLikeness.loadCorpus settings turns directory folder)
  | compare candidate directory folder =>
    return .comparison (← ComponentLikeness.compare settings turns candidate directory folder)

/-- The texts that the call needs the fingerprints of. -/
def texts (settings : Settings) : Call → List String
  | fingerprint text => [text]
  | loadCorpus directory folder => folderTexts settings directory folder
  | compare _ _ none => []
  | compare candidate directory (some folder) =>
    match Fingerprint.ofSource settings.analysis candidate with
    | .error _ => [candidate]
    | .ok _ => candidate :: folderTexts settings directory (some folder)

/-- What the call comes to by itself. -/
def plainAnswer (settings : Settings) : Call → Answer
  | fingerprint text => .fingerprint (Fingerprint.ofSource settings.analysis text)
  | loadCorpus directory folder => .corpus (corpusAt settings directory folder)
  | compare candidate directory folder =>
    .comparison (comparisonAt settings candidate directory folder)

theorem candidate_mem_texts (settings : Settings) (candidate directory : String)
    (folder : Folder) : candidate ∈ (compare candidate directory (some folder)).texts settings := by
  rw [texts]
  split <;> exact List.mem_cons_self

theorem folderTexts_subset_texts {settings : Settings} {candidate : String} {f : Fingerprint}
    (hf : Fingerprint.ofSource settings.analysis candidate = .ok f) (directory : String)
    (folder : Option Folder) :
    folderTexts settings directory folder ⊆
      (compare candidate directory folder).texts settings := by
  cases folder with
  | none => exact List.nil_subset _
  | some folder =>
    rw [texts, hf]
    exact List.subset_cons_self _ _

/-- Under a transparent invariant a call answers what it comes to by itself. -/
theorem yields_plainAnswer {known : Set String} {I : Session → Prop} (settings : Settings)
    (h : Transparent settings.analysis known I) (call : Call)
    (ht : ∀ text ∈ call.texts settings, text ∈ known) (turns : List Nat) :
    Yields I (call.run settings turns) (· = call.plainAnswer settings) := by
  cases call with
  | fingerprint text =>
    refine .bind (h.fingerprint (ht text List.mem_cons_self)) fun _ ha => .pure ?_
    rw [ha]
    rfl
  | loadCorpus directory folder =>
    refine .bind (h.loadCorpus ht turns) fun _ ha => .pure ?_
    rw [ha]
    rfl
  | compare candidate directory folder =>
    refine .bind (h.compare ?_ ?_ turns) fun _ ha => .pure ?_
    · intro hfolder
      obtain ⟨folder, rfl⟩ := Option.ne_none_iff_exists'.mp hfolder
      exact ht candidate (candidate_mem_texts settings candidate directory folder)
    · intro f hf text htext
      exact ht text (folderTexts_subset_texts hf directory folder htext)
    · rw [ha]
      rfl

end Call

/-- The session after some calls, each with the turns that its work takes. -/
def Session.after (settings : Settings) (history : List (List Nat × Call)) (s : Session) :
    Session :=
  history.foldl (fun s call => ((call.2.run settings call.1).run s).2) s

/-- A transparent invariant outlasts every history of calls. -/
theorem Session.after_keeps {known : Set String} {I : Session → Prop} (settings : Settings)
    (h : Transparent settings.analysis known I) (history : List (List Nat × Call))
    (ht : ∀ call ∈ history, ∀ text ∈ call.2.texts settings, text ∈ known)
    {s : Session} (hs : I s) : I (s.after settings history) := by
  induction history generalizing s with
  | nil => exact hs
  | cons call history ih =>
    have hcall := ht call List.mem_cons_self
    exact ih (fun c hc => ht c (List.mem_cons_of_mem _ hc))
      (Call.yields_plainAnswer settings h call.2 hcall call.1 s hs).2

/-- The settings with another choice of how to load and what to remember. -/
def Settings.tuned (settings : Settings) (parallel : Option Bool) (capacity : Option UInt64) :
    Settings :=
  { settings with corpus := { settings.corpus with parallel, cacheCapacity := capacity } }

section Tuned

variable (settings : Settings) (parallel : Option Bool) (capacity : Option UInt64)

theorem Call.texts_tuned (call : Call) :
    call.texts (settings.tuned parallel capacity) = call.texts settings := by
  cases call with
  | fingerprint text => rfl
  | loadCorpus directory folder => rfl
  | compare candidate directory folder => cases folder <;> rfl

theorem Call.plainAnswer_tuned (call : Call) :
    call.plainAnswer (settings.tuned parallel capacity) = call.plainAnswer settings := by
  cases call <;> rfl

end Tuned

/-- Neither a store nor work side by side shows in an answer. Whatever is
remembered, dropped and brought back, after whatever calls, and in whatever order
the workers take their turns, a call answers what it answers first thing in a
session without a store where files are loaded one after the other. No two
distinct texts of the calls may have one key. -/
theorem answer_eq_uncached_in_order (settings : Settings) (parallel : Option Bool)
    (capacity : Option UInt64) (retention : Retention) (history : List (List Nat × Call))
    (call : Call) (turns turns' : List Nat)
    (hkeys : {text | ∃ c ∈ call :: history.map Prod.snd, text ∈ c.texts settings}.InjOn
      contentKey) :
    (call.run (settings.tuned parallel capacity) turns).answer
        ((Session.ofSettings (settings.tuned parallel capacity) retention).after
          (settings.tuned parallel capacity) history) =
      (call.run (settings.tuned (some false) (some 0)) turns').answer
        (Session.ofSettings (settings.tuned (some false) (some 0))) := by
  have hfaithful := transparent_faithful settings.analysis hkeys
  have hstart := Session.faithful_ofSettings (settings.tuned parallel capacity) retention
    settings.analysis {text | ∃ c ∈ call :: history.map Prod.snd, text ∈ c.texts settings}
  have hafter := Session.after_keeps (settings.tuned parallel capacity) hfaithful history
    (fun c hc text htext =>
      ⟨c.2, List.mem_cons_of_mem _ (List.mem_map_of_mem hc), c.2.texts_tuned .. ▸ htext⟩) hstart
  have hcached := Call.yields_plainAnswer (settings.tuned parallel capacity) hfaithful call
    (fun text htext => ⟨call, List.mem_cons_self, call.texts_tuned .. ▸ htext⟩) turns
  have hplain := Call.yields_plainAnswer (settings.tuned (some false) (some 0))
    (transparent_cacheless settings.analysis) call (fun _ _ => Set.mem_univ _) turns'
  -- both come to the plain answer, which knows neither a store nor turns
  rw [hcached.answer_eq hafter, hplain.answer_eq (Session.cacheless_ofSettings _ rfl),
    Call.plainAnswer_tuned, Call.plainAnswer_tuned]

/-- A directory with two files. -/
def twoFiles : Folder :=
  ⟨[("B.tsx", .file (.ofBytes "b".toUTF8)), ("A.tsx", .file (.ofBytes "a".toUTF8))]⟩

/-- A store that loses everything at every other moment, and brings it all back
at the next. -/
def flickering : Retention :=
  ⟨fun moment _ puts => if moment % 2 = 0 then puts else [], fun moment held puts => by
    split
    · exact List.subset_append_right held puts
    · exact List.nil_subset _⟩

theorem answer_two_files_side_by_side :
    {text | ∃ c ∈ [Call.loadCorpus "d" (some twoFiles), .fingerprint "a"],
      text ∈ c.texts {}}.InjOn contentKey ∧
    ((Call.loadCorpus "d" (some twoFiles)).run
        (Settings.tuned {} (some true) (some 2)) [1, 0, 1, 0]).answer
        ((Session.ofSettings (Settings.tuned {} (some true) (some 2)) flickering).after
          (Settings.tuned {} (some true) (some 2)) [([], .fingerprint "a")]) =
      ((Call.loadCorpus "d" (some twoFiles)).run
        (Settings.tuned {} (some false) (some 0)) []).answer
        (Session.ofSettings (Settings.tuned {} (some false) (some 0))) := by
  have htexts : (Call.loadCorpus "d" (some twoFiles)).texts {} = ["a", "b"] := by cbv
  have hkey : contentKey "a" ≠ contentKey "b" := by decide +kernel
  have hpair : ({"a", "b"} : Set String).InjOn contentKey := by
    rintro _ (rfl | rfl) _ (rfl | rfl) h
    · rfl
    · exact absurd h hkey
    · exact absurd h.symm hkey
    · rfl
  have hkeys : {text | ∃ c ∈ [Call.loadCorpus "d" (some twoFiles), .fingerprint "a"],
      text ∈ c.texts {}}.InjOn contentKey := by
    refine hpair.mono ?_
    rintro text ⟨c, hc, htext⟩
    simp only [List.mem_cons, List.not_mem_nil, or_false] at hc
    rcases hc with rfl | rfl
    · rw [htexts] at htext
      simpa using htext
    · exact .inl (List.mem_singleton.mp htext)
  exact ⟨hkeys, answer_eq_uncached_in_order {} (some true) (some 2) flickering
    [([], .fingerprint "a")] (.loadCorpus "d" (some twoFiles)) [1, 0, 1, 0] [] hkeys⟩

end ComponentLikeness
