import ComponentLikeness.Proofs.Similarity.BestFirst
import Mathlib.Order.WithBot

/-!
# Reductions

The best match need not be found in one pass over the corpus. Partial results may be
combined under any bracketing (`prefer_assoc`) as long as their totals are ordinary
numbers: such totals stand in a row (`Binary64.lt_iff`), and with a NaN among them it
would matter which two are compared first.

A `Reduction` is a bracketing of partial results. Its value is that of the plain pass
over its leaves (`Reduction.value_eq_foldl`), so the corpus may be cut into chunks at
will (`Reduction.value_eq_bestMatch`).
-/

namespace ComponentLikeness

open Component Number

/-! ## Ordinary numbers in a row -/

namespace Number.Binary64

/-- Where an ordinary number stands in the row of all of them; the two zeros stand at
one place. -/
def place : Binary64 → WithBot (WithTop ℚ)
  | .nan _ => ⊥
  | .infinite negative => if negative then ⊥ else ⊤
  | .finite negative magnitude => ↑(↑(signed negative magnitude) : WithTop ℚ)

theorem lt_iff {x y : Binary64} (hx : x.isNaN = false) (hy : y.isNaN = false) :
    x.lt y = true ↔ x.place < y.place := by
  cases x with
  | nan => simp [isNaN] at hx
  | infinite a =>
    cases y with
    | nan => simp [isNaN] at hy
    | infinite b => cases a <;> cases b <;> simp [lt, place]
    | finite b q => cases a <;> simp [lt, place]
  | finite a p =>
    cases y with
    | nan => simp [isNaN] at hy
    | infinite b =>
      cases b with
      | false => exact iff_of_true rfl (WithBot.coe_lt_coe.mpr (WithTop.coe_lt_top _))
      | true => simp [lt, place]
    | finite b q => simp [lt, place]

end Number.Binary64

namespace Similarity

/-! ## Combining partial results -/

/-- The total of a partial result, if there is one, is an ordinary number. -/
def Ordinary (r : Option (Match Binary64)) : Prop :=
  ∀ found ∈ r, found.breakdown.total.isNaN = false

variable {a b c : Option (Match Binary64)} {candidate : Fingerprint}

theorem ordinary_none : Ordinary none := fun _ h => nomatch h

theorem prefer_eq_or (a b : Option (Match Binary64)) : prefer a b = a ∨ prefer a b = b := by
  cases a with
  | none => exact .inr (prefer_none_left b)
  | some x =>
    cases b with
    | none => exact .inl rfl
    | some y =>
      rw [prefer]
      split
      · exact .inr rfl
      · exact .inl rfl

theorem Ordinary.prefer (ha : Ordinary a) (hb : Ordinary b) : Ordinary (prefer a b) := by
  rcases prefer_eq_or a b with h | h <;> rw [h]
  · exact ha
  · exact hb

/-- Of two results with ordinary totals the later one wins if it stands further up. -/
theorem prefer_some {x y : Match Binary64} (hx : Ordinary (some x)) (hy : Ordinary (some y)) :
    prefer (some x) (some y) =
      if x.breakdown.total.place < y.breakdown.total.place then some y else some x := by
  have hless : Arithmetic.less x.breakdown.total y.breakdown.total = true ↔
      x.breakdown.total.place < y.breakdown.total.place :=
    Binary64.lt_iff (hx x rfl) (hy y rfl)
  rw [prefer, if_congr hless rfl rfl]

theorem prefer_assoc (ha : Ordinary a) (hb : Ordinary b) (hc : Ordinary c) :
    prefer (prefer a b) c = prefer a (prefer b c) := by
  cases a with
  | none => simp only [prefer_none_left]
  | some x =>
  cases b with
  | none => simp only [prefer_none_left, prefer_none_right]
  | some y =>
  cases c with
  | none => simp only [prefer_none_right]
  | some z =>
    have hxz := prefer_some ha hc
    rw [prefer_some ha hb, prefer_some hb hc]
    by_cases hxy : x.breakdown.total.place < y.breakdown.total.place
    · rw [if_pos hxy, prefer_some hb hc]
      by_cases hyz : y.breakdown.total.place < z.breakdown.total.place
      · rw [if_pos hyz, hxz, if_pos (hxy.trans hyz)]
      · rw [if_neg hyz, prefer_some ha hb, if_pos hxy]
    · rw [if_neg hxy, hxz]
      by_cases hyz : y.breakdown.total.place < z.breakdown.total.place
      · rw [if_pos hyz, hxz]
      · -- what does not beat the middle one does not beat the first one either
        have hxz' : ¬x.breakdown.total.place < z.breakdown.total.place :=
          not_lt.mpr ((not_lt.mp hyz).trans (not_lt.mp hxy))
        rw [if_neg hyz, if_neg hxz', prefer_some ha hb, if_neg hxy]

/-- A pass that has a result already prefers it to what the rest comes to. -/
theorem foldl_prefer {results : List (Option (Match Binary64))} (ha : Ordinary a)
    (h : ∀ r ∈ results, Ordinary r) :
    results.foldl prefer a = prefer a (results.foldl prefer none) ∧
      Ordinary (results.foldl prefer none) := by
  induction results generalizing a with
  | nil => exact ⟨(prefer_none_right a).symm, ordinary_none⟩
  | cons r rest ih =>
    obtain ⟨hr, hrest⟩ := List.forall_mem_cons.mp h
    obtain ⟨hfold, hordinary⟩ := ih hr hrest
    simp only [List.foldl_cons, prefer_none_left]
    constructor
    · rw [(ih (ha.prefer hr) hrest).1, hfold, prefer_assoc ha hr hordinary]
    · rw [hfold]
      exact hr.prefer hordinary

/-! ## Bracketings -/

/-- A bracketing of partial results, in which nothing may stand for a result. -/
inductive Reduction where
  | nothing
  | result (r : Option (Match Binary64))
  | combine (earlier later : Reduction)

namespace Reduction

/-- The partial results from left to right. -/
def leaves : Reduction → List (Option (Match Binary64))
  | nothing => []
  | result r => [r]
  | combine earlier later => earlier.leaves ++ later.leaves

/-- What the partial results are combined to. -/
def value : Reduction → Option (Match Binary64)
  | nothing => none
  | result r => r
  | combine earlier later => prefer earlier.value later.value

/-- The brackets do not matter. -/
theorem value_eq_foldl (t : Reduction) (h : ∀ r ∈ t.leaves, Ordinary r) :
    t.value = t.leaves.foldl prefer none := by
  induction t with
  | nothing => rfl
  | result r => exact (prefer_none_left r).symm
  | combine earlier later ihe ihl =>
    obtain ⟨hearlier, hlater⟩ := List.forall_mem_append.mp h
    have hordinary := (foldl_prefer ordinary_none hearlier).2
    rw [value, leaves, List.foldl_append, (foldl_prefer hordinary hlater).1, ihe hearlier,
      ihl hlater]

end Reduction

/-! ## Chunks -/

/-- A total is never a NaN. -/
theorem ordinary_scored (candidate : Fingerprint) (e : CorpusEntry) :
    Ordinary (scored candidate e) := by
  intro found hfound
  rw [(weighs_valueOf candidate).scored_eq e, Option.mem_def, Option.ite_none_right_eq_some,
    Option.some.injEq] at hfound
  obtain ⟨-, rfl⟩ := hfound
  show (totalOf candidate e).isNaN = false
  rw [totalOf_eq]
  rfl

theorem bestAmong_eq_foldl (candidate : Fingerprint) (entries : List CorpusEntry) :
    bestAmong candidate entries =
      (entries.map (scored (α := Binary64) candidate)).foldl prefer none :=
  List.foldl_map.symm

theorem ordinary_bestAmong (candidate : Fingerprint) (entries : List CorpusEntry) :
    Ordinary (bestAmong candidate entries) := by
  have hscored : ∀ r ∈ entries.map (scored (α := Binary64) candidate), Ordinary r :=
    List.forall_mem_map.mpr fun e _ => ordinary_scored candidate e
  rw [bestAmong_eq_foldl]
  exact (foldl_prefer ordinary_none hscored).2

theorem bestAmong_append (candidate : Fingerprint) (front back : List CorpusEntry) :
    (bestAmong candidate (front ++ back) : Option (Match Binary64)) =
      prefer (bestAmong candidate front) (bestAmong candidate back) := by
  have hback : ∀ r ∈ back.map (scored (α := Binary64) candidate), Ordinary r :=
    List.forall_mem_map.mpr fun e _ => ordinary_scored candidate e
  rw [bestAmong_eq_foldl, List.map_append, List.foldl_append, ← bestAmong_eq_foldl,
    (foldl_prefer (ordinary_bestAmong candidate front) hback).1, ← bestAmong_eq_foldl]

/-- Each chunk by itself and then all of them together. -/
theorem foldl_map_bestAmong (candidate : Fingerprint) (chunks : List (List CorpusEntry)) :
    (chunks.map (bestAmong candidate)).foldl prefer none =
      (bestAmong candidate chunks.flatten : Option (Match Binary64)) := by
  induction chunks with
  | nil => rfl
  | cons chunk rest ih =>
    have hrest : ∀ r ∈ rest.map (bestAmong (α := Binary64) candidate), Ordinary r :=
      List.forall_mem_map.mpr fun chunk _ => ordinary_bestAmong candidate chunk
    rw [List.map_cons, List.foldl_cons, prefer_none_left,
      (foldl_prefer (ordinary_bestAmong candidate chunk) hrest).1, ih, List.flatten_cons,
      bestAmong_append]

/-- Nothing is the identity of combining partial results, and with ordinary totals
combining them is associative. So the entries of a corpus may be cut into any number of
chunks, of which some may be empty; each chunk is folded by itself and the results are
combined from left to right under any bracketing. What comes of it is the best match of
the corpus with its score, a tie going to the earliest entry. -/
theorem Reduction.value_eq_bestMatch :
    (∀ r : Option (Match Binary64), prefer none r = r ∧ prefer r none = r) ∧
    (∀ a b c : Option (Match Binary64), Ordinary a → Ordinary b → Ordinary c →
      prefer (prefer a b) c = prefer a (prefer b c)) ∧
    ∀ (candidate : Fingerprint) (corpus : Corpus) (chunks : List (List CorpusEntry))
      (t : Reduction), chunks.flatten = corpus.entries →
      t.leaves = chunks.map (bestAmong candidate) →
      t.value = bestMatch candidate corpus ∧
        Found candidate (valueOf candidate) corpus.entries t.value := by
  refine ⟨fun r => ⟨prefer_none_left r, prefer_none_right r⟩,
    fun a b c => prefer_assoc, fun candidate corpus chunks t hchunks hleaves => ?_⟩
  have hordinary : ∀ r ∈ t.leaves, Ordinary r := by
    rw [hleaves]
    exact List.forall_mem_map.mpr fun chunk _ => ordinary_bestAmong candidate chunk
  have hvalue : t.value = bestMatch candidate corpus := by
    rw [t.value_eq_foldl hordinary, hleaves, foldl_map_bestAmong, hchunks]
    rfl
  rw [hvalue]
  exact ⟨rfl, found_bestMatch candidate corpus⟩

/-- A member with one prop and one style token. -/
def labelled (id token : String) : CorpusEntry where
  id
  path := id
  fingerprint := { props := .ofList ["label"], styleTokens := .ofList [token] }

/-- A member that is behind, and the first of two that tie. -/
def firstChunk : List CorpusEntry := [labelled "A.tsx" "card", labelled "B.tsx" "btn"]

/-- The second of the two that tie. -/
def lastChunk : List CorpusEntry := [labelled "C.tsx" "btn"]

/-- The best of a chunk for a candidate that equals the two that tie. -/
def bestOfChunk (chunk : List CorpusEntry) : Option (Match Binary64) :=
  bestAmong (labelled "X.tsx" "btn").fingerprint chunk

/-- The two chunks with an empty one between them, combined from the right. -/
def fromTheRight : Reduction :=
  .combine (.result (bestOfChunk firstChunk))
    (.combine (.result (bestOfChunk [])) (.result (bestOfChunk lastChunk)))

theorem value_fromTheRight :
    Ordinary (bestOfChunk firstChunk) ∧ Ordinary (bestOfChunk []) ∧
      Ordinary (bestOfChunk lastChunk) ∧
      prefer (prefer (bestOfChunk firstChunk) (bestOfChunk [])) (bestOfChunk lastChunk) =
        prefer (bestOfChunk firstChunk) (prefer (bestOfChunk []) (bestOfChunk lastChunk)) ∧
      fromTheRight.leaves = [firstChunk, [], lastChunk].map bestOfChunk ∧
      fromTheRight.value = bestOfChunk (firstChunk ++ lastChunk) ∧
      fromTheRight.value.map (·.entry.id) = some "B.tsx" := by
  obtain ⟨-, hassoc, hchunks⟩ := Reduction.value_eq_bestMatch
  have hfirst : Ordinary (bestOfChunk firstChunk) := ordinary_bestAmong _ _
  have hnone : Ordinary (bestOfChunk []) := ordinary_none
  have hlast : Ordinary (bestOfChunk lastChunk) := ordinary_bestAmong _ _
  have hleaves : fromTheRight.leaves = [firstChunk, [], lastChunk].map bestOfChunk := rfl
  obtain ⟨hvalue, -⟩ := hchunks (labelled "X.tsx" "btn").fingerprint
    ⟨firstChunk ++ lastChunk⟩ [firstChunk, [], lastChunk] fromTheRight rfl hleaves
  refine ⟨hfirst, hnone, hlast, hassoc _ _ _ hfirst hnone hlast, hleaves, hvalue, ?_⟩
  rw [hvalue]
  decide +kernel

end Similarity

end ComponentLikeness
