import ComponentLikeness.Proofs.Component.Entries
import ComponentLikeness.Proofs.Session.Runs
import Mathlib.Data.Finset.Card

/-!
# First successes

A store with room for all that comes holds, after any requests, the first success of
each key and nothing else (`FingerprintCache.after_holds`). So what it replies to a
request can be told from the requests before alone: what was computed first for the
key if anything was, and otherwise what the request itself computes, be it a success
or an error (`FingerprintCache.keeps_first_successes`). Errors leave no trace.

What is to be computed is given with each request. It may fail, and it may come to
something else than it did before for the same text. A session always computes the
fingerprint of the text, so a text is answered by that of another one only if both have
the same key (`FingerprintCache.session_answer_eq`).
-/

namespace ComponentLikeness.Component.FingerprintCache

variable {ε : Type}

/-! ## Requests -/

/-- What a store is asked for: what it remembers for a text, or this or else what is
computed for the text. -/
inductive Request (ε : Type) where
  | get (text : String)
  | getOrCompute (text : String) (compute : String → Except ε Fingerprint)

/-- What a store replies. -/
inductive Reply (ε : Type) where
  | remembered (found : Option Fingerprint)
  | answered (result : Except ε Fingerprint) (computed : Bool)

namespace Request

/-- What comes of a request. -/
def run (c : FingerprintCache) : Request ε → Reply ε × FingerprintCache
  | get text => (.remembered (c.get? text), c)
  | getOrCompute text compute =>
    let answer := c.getOrCompute text compute
    (.answered answer.result answer.computed, answer.cache)

/-- The key that is asked for. -/
def key : Request ε → UInt64
  | get text => contentKey text
  | getOrCompute text _ => contentKey text

/-- What the request computes for a key, if it comes to be computed and succeeds. -/
def success? (key : UInt64) : Request ε → Option Fingerprint
  | get _ => none
  | getOrCompute text compute => if contentKey text = key then (compute text).toOption else none

end Request

/-- What was computed first for a key. -/
def firstSuccess? (requests : List (Request ε)) (key : UInt64) : Option Fingerprint :=
  requests.findSome? (·.success? key)

/-- The keys that something was computed for. -/
def succeededKeys (requests : List (Request ε)) : Finset UInt64 :=
  (requests.map Request.key).toFinset.filter fun key => (firstSuccess? requests key).isSome

/-- A store that was empty, after some requests. -/
def after (capacity : Nat) (requests : List (Request ε)) : FingerprintCache :=
  requests.foldl (fun c request => (request.run c).2) (ofCapacity capacity)

/-- The reply to a request that follows others, told from these alone. -/
def Request.replyAfter (before : List (Request ε)) : Request ε → Reply ε
  | get text => .remembered (firstSuccess? before (contentKey text))
  | getOrCompute text compute =>
    match firstSuccess? before (contentKey text) with
    | some f => .answered (.ok f) false
    | none => .answered (compute text) true

/-! ## First successes -/

variable {requests before later : List (Request ε)} {request : Request ε} {c : FingerprintCache}
  {capacity : Nat} {key : UInt64} {text : String} {compute : String → Except ε Fingerprint}
  {f : Fingerprint}

theorem Request.success?_of_key_ne (h : request.key ≠ key) : request.success? key = none := by
  cases request with
  | get text => rfl
  | getOrCompute text compute => exact if_neg h

theorem firstSuccess?_append :
    firstSuccess? (before ++ later) key = (firstSuccess? before key).or (firstSuccess? later key) :=
  List.findSome?_append

theorem firstSuccess?_concat :
    firstSuccess? (before ++ [request]) key =
      (firstSuccess? before key).or (request.success? key) := by
  rw [firstSuccess?_append, firstSuccess?, firstSuccess?, List.findSome?_singleton]

theorem mem_succeededKeys : key ∈ succeededKeys requests ↔ (firstSuccess? requests key).isSome := by
  rw [succeededKeys, Finset.mem_filter, and_iff_right_iff_imp]
  intro h
  obtain ⟨request, hmem, hsuccess⟩ := List.exists_of_findSome?_eq_some (Option.eq_some_of_isSome h)
  -- a request succeeds for no other key than its own
  have hkey : request.key = key := by
    by_contra hne
    rw [Request.success?_of_key_ne hne] at hsuccess
    exact nomatch hsuccess
  exact List.mem_toFinset.mpr (hkey ▸ List.mem_map_of_mem hmem)

theorem succeededKeys_subset_append : succeededKeys before ⊆ succeededKeys (before ++ later) := by
  intro key h
  rw [mem_succeededKeys] at h ⊢
  rw [firstSuccess?_append, Option.isSome_or, h, Bool.true_or]

/-! ## Requests, one by one -/

theorem Request.run_getOrCompute :
    (getOrCompute text compute).run c =
      (.answered (c.getOrCompute text compute).result (c.getOrCompute text compute).computed,
        (c.getOrCompute text compute).cache) := rfl

theorem getOrCompute_of_some (hget : c.get? text = some f) :
    c.getOrCompute text compute = ⟨.ok f, c, false⟩ := by
  rw [getOrCompute, hget]

theorem getOrCompute_of_ok (hget : c.get? text = none) (hcompute : compute text = .ok f) :
    c.getOrCompute text compute = ⟨.ok f, c.insert text f, true⟩ := by
  rw [getOrCompute, hget, hcompute]

/-- An error is passed on, and the store stays as it is. -/
theorem getOrCompute_of_error {e : ε} (hget : c.get? text = none)
    (hcompute : compute text = .error e) :
    c.getOrCompute text compute = ⟨.error e, c, true⟩ := by
  rw [getOrCompute, hget, hcompute]

theorem computed_iff : (c.getOrCompute text compute).computed = true ↔ c.get? text = none := by
  cases hget : c.get? text with
  | some f => simp [getOrCompute_of_some hget]
  | none =>
    cases hcompute : compute text with
    | error e => simp [getOrCompute_of_error hget hcompute]
    | ok f => simp [getOrCompute_of_ok hget hcompute]

/-- A request leaves the store as it is, unless nothing is held for its text and it
computes something, which is then remembered. -/
theorem Request.run_cases (request : Request ε) (c : FingerprintCache) :
    ((request.run c).2 = c ∧
      ((c.lookup? request.key).isSome ∨ ∀ key, request.success? key = none)) ∨
    ∃ text f, request.key = contentKey text ∧ c.get? text = none ∧
      request.success? (contentKey text) = some f ∧ (request.run c).2 = c.insert text f := by
  cases request with
  | get text => exact .inl ⟨rfl, .inr fun _ => rfl⟩
  | getOrCompute text compute =>
    rw [run_getOrCompute]
    cases hget : c.get? text with
    | some f =>
      rw [getOrCompute_of_some hget]
      exact .inl ⟨rfl, .inl (Option.isSome_iff_exists.mpr ⟨f, hget⟩)⟩
    | none =>
      cases hcompute : compute text with
      | error e =>
        rw [getOrCompute_of_error hget hcompute]
        refine .inl ⟨rfl, .inr fun key => ?_⟩
        simp [success?, hcompute, Except.toOption]
      | ok f =>
        rw [getOrCompute_of_ok hget hcompute]
        refine .inr ⟨text, f, rfl, hget, ?_, rfl⟩
        simp [success?, hcompute, Except.toOption]

/-- The store holds the first success of every key and nothing else, each once. -/
structure HoldsFirst (capacity : Nat) (requests : List (Request ε)) (c : FingerprintCache) :
    Prop where
  capacity_eq : c.capacity = capacity
  nodup_keys : c.keys.Nodup
  lookup?_eq : ∀ key, c.lookup? key = firstSuccess? requests key

namespace HoldsFirst

theorem ofCapacity (capacity : Nat) :
    HoldsFirst capacity ([] : List (Request ε)) (.ofCapacity capacity) :=
  ⟨rfl, .nil, fun _ => rfl⟩

theorem size_eq (h : HoldsFirst capacity requests c) : c.size = (succeededKeys requests).card := by
  have hkeys : c.keys.toFinset = succeededKeys requests := by
    ext key
    rw [List.mem_toFinset, mem_succeededKeys, ← h.lookup?_eq]
    exact lookup_isSome_iff.symm
  rw [← hkeys, List.toFinset_card_of_nodup h.nodup_keys, keys, List.length_map, size]

/-- A request is answered by what was computed first, or by what it computes. -/
theorem reply_eq (h : HoldsFirst capacity before c) (request : Request ε) :
    (request.run c).1 = request.replyAfter before := by
  cases request with
  | get text => rw [Request.run, Request.replyAfter, get?, h.lookup?_eq]
  | getOrCompute text compute =>
    have hget : c.get? text = firstSuccess? before (contentKey text) := h.lookup?_eq _
    rw [Request.run_getOrCompute, Request.replyAfter]
    cases hfirst : firstSuccess? before (contentKey text) with
    | some f => rw [getOrCompute_of_some (hget.trans hfirst)]
    | none =>
      cases hcompute : compute text with
      | error e => rw [getOrCompute_of_error (hget.trans hfirst) hcompute]
      | ok f => rw [getOrCompute_of_ok (hget.trans hfirst) hcompute]

/-- A request that leaves the store as it is counts for nothing: its key is held already,
or it succeeds for no key. -/
theorem unchanged (h : HoldsFirst capacity before c)
    (hheld : (c.lookup? request.key).isSome ∨ ∀ key, request.success? key = none) :
    HoldsFirst capacity (before ++ [request]) c where
  capacity_eq := h.capacity_eq
  nodup_keys := h.nodup_keys
  lookup?_eq key := by
    rw [firstSuccess?_concat, h.lookup?_eq]
    by_cases hkey : request.key = key
    · rcases hheld with hheld | hnone
      · rw [h.lookup?_eq, hkey] at hheld
        rw [Option.or_of_isSome hheld]
      · rw [hnone, Option.or_none]
    · rw [Request.success?_of_key_ne hkey, Option.or_none]

/-- There is room for one more success, since its key is further to those that are held. -/
theorem length_lt_capacity (h : HoldsFirst capacity before c) (hget : c.get? text = none)
    (hsuccess : request.success? (contentKey text) = some f)
    (hroom : (succeededKeys (before ++ [request])).card ≤ capacity) :
    c.entries.length < c.capacity := by
  have hnew : contentKey text ∉ succeededKeys before := by
    rw [mem_succeededKeys, ← h.lookup?_eq, ← get?, hget]
    exact Bool.false_ne_true
  have hmem : contentKey text ∈ succeededKeys (before ++ [request]) := by
    rw [mem_succeededKeys, firstSuccess?_concat, hsuccess, Option.isSome_or]
    exact Bool.or_true _
  have hcard := Finset.card_le_card (Finset.insert_subset hmem succeededKeys_subset_append)
  rw [Finset.card_insert_of_notMem hnew, ← h.size_eq, size] at hcard
  rw [h.capacity_eq]
  omega

/-- A success for a text that nothing is held for is the first one of its key. -/
theorem inserted (h : HoldsFirst capacity before c) (hget : c.get? text = none)
    (hkey : request.key = contentKey text)
    (hsuccess : request.success? (contentKey text) = some f)
    (hroom : (succeededKeys (before ++ [request])).card ≤ capacity) :
    HoldsFirst capacity (before ++ [request]) (c.insert text f) := by
  have hentries : (c.insert text f).entries = put (contentKey text) f c.entries :=
    entries_insert_of_lt (h.length_lt_capacity hget hsuccess hroom)
  refine ⟨h.capacity_eq, ?_, fun key => ?_⟩
  · rw [keys, hentries]
    exact nodup_map_fst_put h.nodup_keys
  rw [lookup?, hentries, lookup_put, firstSuccess?_concat, ← h.lookup?_eq]
  by_cases hne : key = contentKey text
  · rw [if_pos hne, hne, hsuccess, ← get?, hget, Option.none_or]
  · rw [if_neg hne, Request.success?_of_key_ne (hkey ▸ Ne.symm hne), Option.or_none, lookup?]

/-- One more request, if there is room for what it computes. -/
theorem step (h : HoldsFirst capacity before c) (request : Request ε)
    (hroom : (succeededKeys (before ++ [request])).card ≤ capacity) :
    HoldsFirst capacity (before ++ [request]) (request.run c).2 := by
  rcases request.run_cases c with ⟨hc, hheld⟩ | ⟨text, f, hkey, hget, hsuccess, hc⟩
  · rw [hc]
    exact h.unchanged hheld
  · rw [hc]
    exact h.inserted hget hkey hsuccess hroom

/-- After an error for a text that nothing was held for, and as long as nothing succeeds
for its key, there is no success for it. -/
theorem firstSuccess?_eq_none (h : HoldsFirst capacity before c) (hget : c.get? text = none)
    {e : ε} (he : compute text = .error e)
    (hlater : ∀ request ∈ later, request.success? (contentKey text) = none) :
    firstSuccess? (before ++ .getOrCompute text compute :: later) (contentKey text) = none := by
  rw [firstSuccess?_append, ← h.lookup?_eq, ← get?, hget, Option.none_or]
  refine List.findSome?_eq_none_iff.mpr (List.forall_mem_cons.mpr ⟨?_, hlater⟩)
  simp [Request.success?, he, Except.toOption]

end HoldsFirst

/-! ## Whole runs -/

theorem after_concat :
    after capacity (before ++ [request]) = (request.run (after capacity before)).2 :=
  List.foldl_concat _ _ _ _

/-- As long as there is room for all that succeeds, first successes are held. -/
theorem after_holds (hroom : (succeededKeys requests).card ≤ capacity) :
    HoldsFirst capacity requests (after capacity requests) := by
  induction requests using List.reverseRecOn with
  | nil => exact .ofCapacity capacity
  | append_singleton before request ih =>
    rw [after_concat]
    refine (ih ?_).step request hroom
    exact (Finset.card_le_card succeededKeys_subset_append).trans hroom

/-- What a store does with requests of which the first success of each key counts. -/
structure KeepsFirst (capacity : Nat) (requests : List (Request ε)) : Prop where
  /-- Under each key there is what was computed first for it, if anything was. -/
  lookup?_eq : ∀ key, (after capacity requests).lookup? key = firstSuccess? requests key
  size_eq : (after capacity requests).size = (succeededKeys requests).card
  /-- Each request is replied to as the requests before it demand. -/
  reply_eq : ∀ before request later, requests = before ++ request :: later →
    (request.run (after capacity before)).1 = request.replyAfter before
  /-- Something is computed for a text if and only if nothing is found for it. -/
  computed_iff : ∀ before text compute later,
    requests = before ++ .getOrCompute text compute :: later →
    (((after capacity before).getOrCompute text compute).computed = true ↔
      (after capacity before).get? text = none)
  /-- A fingerprint that is found is the answer, whatever could be computed. -/
  hit_eq : ∀ before text compute later f,
    requests = before ++ .getOrCompute text compute :: later →
    (after capacity before).get? text = some f →
    (after capacity before).getOrCompute text compute = ⟨.ok f, after capacity before, false⟩
  /-- What is held once is held ever after. -/
  kept : ∀ before later, requests = before ++ later → ∀ key f,
    (after capacity before).lookup? key = some f → (after capacity requests).lookup? key = some f
  /-- An error is passed on and leaves the store as it was. -/
  error_eq : ∀ before text compute later e,
    requests = before ++ .getOrCompute text compute :: later →
    (after capacity before).get? text = none → compute text = .error e →
    (after capacity before).getOrCompute text compute = ⟨.error e, after capacity before, true⟩
  /-- After an error, the text is computed when it is asked for the next time, unless its
  key has had a success by then. -/
  retried : ∀ before text compute between again later e,
    requests = before ++ .getOrCompute text compute :: between ++
      .getOrCompute text again :: later →
    (after capacity before).get? text = none → compute text = .error e →
    (∀ request ∈ between, request.success? (contentKey text) = none) →
    ((Request.getOrCompute text again).run
        (after capacity (before ++ .getOrCompute text compute :: between))).1 =
      .answered (again text) true

/-- With room for every key that something is computed for, a store keeps the first
success of each key, whatever else is computed for it later, and is unharmed by errors:
what is held once stays, and what failed is tried again. -/
theorem keeps_first_successes (capacity : Nat) (requests : List (Request ε))
    (hroom : (succeededKeys requests).card ≤ capacity) : KeepsFirst capacity requests := by
  have hholds : ∀ before later, requests = before ++ later →
      HoldsFirst capacity before (after capacity before) := by
    rintro before later rfl
    exact after_holds ((Finset.card_le_card succeededKeys_subset_append).trans hroom)
  have hall := after_holds hroom
  refine ⟨hall.lookup?_eq, hall.size_eq, fun before request later hsplit => ?_,
    fun before text compute later _ => computed_iff,
    fun before text compute later f _ hget => getOrCompute_of_some hget,
    fun before later hsplit key f hf => ?_,
    fun before text compute later e _ hget he => getOrCompute_of_error hget he, ?_⟩
  · exact (hholds before _ hsplit).reply_eq request
  · rw [(hholds before later hsplit).lookup?_eq] at hf
    rw [hall.lookup?_eq, hsplit, firstSuccess?_append, hf, Option.some_or]
  · intro before text compute between again later e hsplit hget he hbetween
    have hbefore := hholds before (.getOrCompute text compute :: between ++
      .getOrCompute text again :: later) (by rw [hsplit, List.append_assoc])
    rw [(hholds _ _ hsplit).reply_eq, Request.replyAfter,
      hbefore.firstSuccess?_eq_none hget he hbetween]

/-! ## Sessions -/

/-- What a session asks its store for, to fingerprint texts. -/
def fingerprintRequests (settings : AnalysisSettings) (texts : List String) :
    List (Request SourceError) :=
  texts.map fun text => .getOrCompute text (Fingerprint.ofSource settings)

theorem HoldsFirst.age (h : HoldsFirst capacity requests c) (hfull : c.retention = .full) :
    HoldsFirst capacity requests c.age where
  capacity_eq := h.capacity_eq
  nodup_keys := by
    rw [keys_age_of_full hfull]
    exact h.nodup_keys
  lookup?_eq key := by
    rw [lookup?, entries_age_of_full hfull]
    exact h.lookup?_eq key

theorem retention_run (request : Request ε) (c : FingerprintCache) :
    (request.run c).2.retention = c.retention := by
  rcases request.run_cases c with ⟨hc, -⟩ | ⟨text, f, -, -, -, hc⟩
  · rw [hc]
  · rw [hc]
    rfl

section Sessions

variable {settings : AnalysisSettings} {s : Session} {requests before : List (Request SourceError)}

/-- A session with a store that drops nothing keeps the first successes when it
fingerprints one text after the other. -/
theorem exists_holdsFirst (texts : List String) (hs : s.cache = some c)
    (hfull : c.retention = .full) (h : HoldsFirst capacity before c)
    (hroom : (succeededKeys (before ++ fingerprintRequests settings texts)).card ≤ capacity) :
    ∃ c', ((texts.mapM (Session.fingerprint settings)).run s).2.cache = some c' ∧
      c'.retention = .full ∧
        HoldsFirst capacity (before ++ fingerprintRequests settings texts) c' := by
  induction texts generalizing s c before with
  | nil => exact ⟨c, hs, hfull, (List.append_nil before).symm ▸ h⟩
  | cons text texts ih =>
    let request : Request SourceError := .getOrCompute text (Fingerprint.ofSource settings)
    have hsplit : before ++ fingerprintRequests settings (text :: texts) =
        (before ++ [request]) ++ fingerprintRequests settings texts := by
      rw [List.append_assoc]
      rfl
    rw [hsplit] at hroom ⊢
    have hcache : ((Session.fingerprint settings text).run s).2.cache =
        some (request.run c.age).2 := by
      rw [Session.run_fingerprint_of_cache hs]
      rfl
    have hstep := (h.age hfull).step request
      ((Finset.card_le_card succeededKeys_subset_append).trans hroom)
    rw [List.mapM_cons]
    exact ih hcache ((retention_run request c.age).trans hfull) hstep hroom

/-- A text is answered by the fingerprint that was first computed for its key, or else by
what it comes to itself. -/
theorem answer_eq_of_holdsFirst (hs : s.cache = some c) (hfull : c.retention = .full)
    (h : HoldsFirst capacity requests c) (text : String) :
    ((Session.fingerprint settings text).run s).1 =
      match firstSuccess? requests (contentKey text) with
      | some f => .ok f
      | none => Fingerprint.ofSource settings text := by
  have hreply := (h.age hfull).reply_eq (.getOrCompute text (Fingerprint.ofSource settings))
  rw [Request.run_getOrCompute, Request.replyAfter] at hreply
  rw [Session.run_fingerprint_of_cache hs]
  cases hfirst : firstSuccess? requests (contentKey text) with
  | some f =>
    rw [hfirst] at hreply
    exact (Reply.answered.inj hreply).1
  | none =>
    rw [hfirst] at hreply
    exact (Reply.answered.inj hreply).1

end Sessions

/-- Having fingerprinted texts one after the other, with room for every key that is
accepted, a new session gives a text the fingerprint of the first accepted one with its
key, and fingerprints it if there is none. -/
theorem session_answer_eq {settings : Settings}
    (hstore : settings.corpus.effectiveCacheCapacity ≠ 0) (texts : List String)
    (hroom : (succeededKeys (fingerprintRequests settings.analysis texts)).card ≤
      settings.corpus.effectiveCacheCapacity.toNat) (text : String) :
    ((Session.fingerprint settings.analysis text).run
        ((texts.mapM (Session.fingerprint settings.analysis)).run
          (Session.ofSettings settings)).2).1 =
      match firstSuccess? (fingerprintRequests settings.analysis texts) (contentKey text) with
      | some f => .ok f
      | none => Fingerprint.ofSource settings.analysis text := by
  have hcache : (Session.ofSettings settings).cache =
      some (.ofCapacity settings.corpus.effectiveCacheCapacity.toNat) := by
    rw [Session.ofSettings, if_neg hstore]
    rfl
  obtain ⟨c, hs, hfull, hholds⟩ := exists_holdsFirst texts hcache rfl (.ofCapacity _) hroom
  exact answer_eq_of_holdsFirst hs hfull hholds text

/-- A text is refused at first, then accepted, and then would come to something else. -/
def refusedFirst : List (Request String) :=
  [.getOrCompute "a" fun _ => .error "refused", .getOrCompute "a" fun _ => .ok { name := "A" },
    .getOrCompute "a" fun _ => .ok { name := "B" }, .get "a"]

theorem keeps_first_successes_refusedFirst :
    (succeededKeys refusedFirst).card ≤ 1 ∧ KeepsFirst 1 refusedFirst ∧
      (after 1 refusedFirst).get? "a" = some { name := "A" } ∧
      (after 1 refusedFirst).size = 1 := by
  have hroom : (succeededKeys refusedFirst).card ≤ 1 := by decide +kernel
  have hkeeps := keeps_first_successes 1 refusedFirst hroom
  refine ⟨hroom, hkeeps, ?_, ?_⟩
  · rw [get?, hkeeps.lookup?_eq]
    decide +kernel
  · rw [hkeeps.size_eq]
    decide +kernel

end ComponentLikeness.Component.FingerprintCache
