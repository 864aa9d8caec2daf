import ComponentLikeness.Similarity.BestMatch
import Mathlib.Algebra.Order.Ring.Rat
import Mathlib.Data.List.Basic

/-!
# Leaders

The best match is found in one pass over the entries that keeps the one leading so
far. In any arithmetic in which totals compare as rational weights do (`Weighs`),
the pass comes to the first entry of the greatest weight (`Leads`), or to nothing
if all weights are zero.

One more entry changes what has been found as it must (`Found.concat`), and so do
all that are left (`Found.foldl`). An entry put among others is found if it leads
those on both sides (`LeadsBetween.found`), and else changes nothing (`Found.insert`).
-/

namespace ComponentLikeness.Similarity

open Component Number

variable {α : Type} [Arithmetic α] {candidate : Fingerprint} {weight : CorpusEntry → ℚ}
  {entries : List CorpusEntry} {a e : CorpusEntry}

/-! ## Weights -/

/-- Totals compare as the weights of the entries do, and no weight is negative. -/
structure Weighs (α : Type) [Arithmetic α] (candidate : Fingerprint)
    (weight : CorpusEntry → ℚ) : Prop where
  nonneg : ∀ e, 0 ≤ weight e
  zero_less : ∀ e : CorpusEntry,
    Arithmetic.less Arithmetic.zero (score candidate e.fingerprint : Breakdown α).total =
      decide (0 < weight e)
  less : ∀ a b : CorpusEntry,
    Arithmetic.less (score candidate a.fingerprint : Breakdown α).total
        (score candidate b.fingerprint).total =
      decide (weight a < weight b)

/-- The first entry of the greatest weight. -/
def Leads (weight : CorpusEntry → ℚ) (entries : List CorpusEntry) (e : CorpusEntry) : Prop :=
  ∃ front back, entries = front ++ e :: back ∧
    (∀ a ∈ front, weight a < weight e) ∧ ∀ a ∈ back, weight a ≤ weight e

namespace Leads

theorem mem (h : Leads weight entries e) : e ∈ entries := by
  obtain ⟨front, back, rfl, -⟩ := h
  simp

theorem le (h : Leads weight entries e) : ∀ a ∈ entries, weight a ≤ weight e := by
  obtain ⟨front, back, rfl, hfront, hback⟩ := h
  intro a ha
  rcases List.mem_append.mp ha with ha | ha
  · exact (hfront a ha).le
  rcases List.mem_cons.mp ha with rfl | ha
  · exact le_rfl
  · exact hback a ha

/-- A leader keeps its place if the next entry is not better. -/
theorem concat (h : Leads weight entries e) (ha : weight a ≤ weight e) :
    Leads weight (entries ++ [a]) e := by
  obtain ⟨front, back, rfl, hfront, hback⟩ := h
  refine ⟨front, back ++ [a], by simp, hfront, ?_⟩
  intro b hb
  rcases List.mem_append.mp hb with hb | hb
  · exact hback b hb
  · rw [List.mem_singleton.mp hb]
    exact ha

/-- An entry better than all before it takes the lead. -/
theorem last (h : ∀ a ∈ entries, weight a < weight e) : Leads weight (entries ++ [e]) e :=
  ⟨entries, [], rfl, h, by simp⟩

/-- The leader is the first of the entries that weigh as much as it does. -/
theorem filter_eq (h : Leads weight entries e) :
    ∃ ties, entries.filter (fun a => decide (weight a = weight e)) = e :: ties := by
  obtain ⟨front, back, rfl, hfront, -⟩ := h
  have hnone : front.filter (fun a => decide (weight a = weight e)) = [] := by
    rw [List.filter_eq_nil_iff]
    intro a ha
    simpa using (hfront a ha).ne
  refine ⟨back.filter fun a => decide (weight a = weight e), ?_⟩
  rw [List.filter_append, hnone, List.nil_append, List.filter_cons_of_pos (by simp)]

end Leads

/-! ## The pass over the entries -/

/-- What a pass over the entries finds: their leader with its score, if its weight
is positive, and nothing if all weights are zero. -/
inductive Found (candidate : Fingerprint) (weight : CorpusEntry → ℚ)
    (entries : List CorpusEntry) : Option (Match α) → Prop
  | none : (∀ e ∈ entries, weight e = 0) → Found candidate weight entries none
  | some {lead : CorpusEntry} : Leads weight entries lead → 0 < weight lead →
      Found candidate weight entries (some ⟨lead, score candidate lead.fingerprint⟩)

theorem Weighs.scored_eq (hw : Weighs α candidate weight) (e : CorpusEntry) :
    scored candidate e =
      if 0 < weight e then some (⟨e, score candidate e.fingerprint⟩ : Match α) else none := by
  show (if Arithmetic.less Arithmetic.zero (score candidate e.fingerprint : Breakdown α).total =
    true then _ else _) = _
  rw [hw.zero_less e]
  simp only [decide_eq_true_eq]

namespace Found

variable {best : Option (Match α)}

/-- One more entry. -/
theorem concat (hw : Weighs α candidate weight) (h : Found candidate weight entries best)
    (e : CorpusEntry) :
    Found candidate weight (entries ++ [e]) (prefer best (scored candidate e)) := by
  rw [hw.scored_eq]
  by_cases hpos : 0 < weight e
  · rw [if_pos hpos]
    cases h with
    | none hzero =>
      refine .some (.last ?_) hpos
      intro a ha
      rw [hzero a ha]
      exact hpos
    | @some lead hlead hlead_pos =>
      show Found candidate weight _
        (if Arithmetic.less (score candidate lead.fingerprint : Breakdown α).total
          (score candidate e.fingerprint).total = true then _ else _)
      rw [hw.less lead e]
      -- a tie stays with the one that leads
      by_cases hless : weight lead < weight e
      · rw [if_pos (decide_eq_true hless)]
        refine .some (.last ?_) hpos
        intro a ha
        exact (hlead.le a ha).trans_lt hless
      · rw [if_neg (by simpa using hless)]
        exact .some (hlead.concat (not_lt.mp hless)) hlead_pos
  · rw [if_neg hpos, prefer_none_right]
    have hzero : weight e = 0 := le_antisymm (not_lt.mp hpos) (hw.nonneg e)
    cases h with
    | none hall =>
      refine .none ?_
      intro a ha
      rcases List.mem_append.mp ha with ha | ha
      · exact hall a ha
      · rw [List.mem_singleton.mp ha]
        exact hzero
    | some hlead hlead_pos =>
      have hle : weight e ≤ 0 := hzero.le
      exact .some (hlead.concat (hle.trans hlead_pos.le)) hlead_pos

/-- All entries that are left. -/
theorem foldl (hw : Weighs α candidate weight) (h : Found candidate weight entries best)
    (rest : List CorpusEntry) :
    Found candidate weight (entries ++ rest)
      (rest.foldl (fun best e => prefer best (scored candidate e)) best) := by
  induction rest generalizing entries best with
  | nil =>
    rw [List.append_nil]
    exact h
  | cons e rest ih =>
    have h' := ih (h.concat hw e)
    rw [List.append_assoc] at h'
    exact h'

/-- Nothing has been found exactly if there is nothing but weights of zero. -/
theorem eq_none_iff (h : Found candidate weight entries best) :
    best = Option.none ↔ ∀ e ∈ entries, weight e = 0 := by
  cases h with
  | none hzero => exact iff_of_true rfl hzero
  | @some lead hlead hpos =>
    refine iff_of_false (Option.some_ne_none _) ?_
    intro h
    exact hpos.ne' (h lead hlead.mem)

end Found

/-- The best match of a corpus is its leader. -/
theorem Weighs.found_bestMatch (hw : Weighs α candidate weight) (corpus : Corpus) :
    Found candidate weight corpus.entries (bestMatch (α := α) candidate corpus) := by
  have hstart : Found candidate weight [] (none : Option (Match α)) := .none (by simp)
  exact hstart.foldl hw corpus.entries

/-! ## Entries put among others -/

section Insertion

variable {front back : List CorpusEntry} {lead : CorpusEntry} {best : Option (Match α)}

/-- An entry leads those in front of it and those behind it, and has a weight at all. -/
structure LeadsBetween (weight : CorpusEntry → ℚ) (front : List CorpusEntry)
    (e : CorpusEntry) (back : List CorpusEntry) : Prop where
  pos : 0 < weight e
  front_lt : ∀ a ∈ front, weight a < weight e
  back_le : ∀ a ∈ back, weight a ≤ weight e

theorem leads_cons_iff {first : CorpusEntry} {rest : List CorpusEntry} :
    Leads weight (first :: rest) lead ↔
      (lead = first ∧ ∀ a ∈ rest, weight a ≤ weight first) ∨
        (weight first < weight lead ∧ Leads weight rest lead) := by
  constructor
  · rintro ⟨front, back, heq, hfront, hback⟩
    cases front with
    | nil =>
      obtain ⟨rfl, rfl⟩ := List.cons.inj heq
      exact .inl ⟨rfl, hback⟩
    | cons a front =>
      obtain ⟨rfl, rfl⟩ := List.cons.inj heq
      obtain ⟨ha, hfront⟩ := List.forall_mem_cons.mp hfront
      exact .inr ⟨ha, front, back, rfl, hfront, hback⟩
  · rintro (⟨rfl, hrest⟩ | ⟨hfirst, front, back, rfl, hfront, hback⟩)
    · exact ⟨[], rest, rfl, by simp, hrest⟩
    · exact ⟨first :: front, back, rfl, List.forall_mem_cons.mpr ⟨hfirst, hfront⟩, hback⟩

/-- The leader of two lists is that of the first if no one behind is better, and that of
the second if it is better than all in front. -/
theorem leads_append_iff :
    Leads weight (front ++ back) lead ↔
      (Leads weight front lead ∧ ∀ a ∈ back, weight a ≤ weight lead) ∨
        ((∀ a ∈ front, weight a < weight lead) ∧ Leads weight back lead) := by
  induction front with
  | nil =>
    have hnone : ¬Leads weight [] lead := fun h => List.not_mem_nil h.mem
    simp [hnone]
  | cons a front ih =>
    rw [List.cons_append, leads_cons_iff, ih, leads_cons_iff, List.forall_mem_append,
      List.forall_mem_cons]
    constructor
    · rintro (⟨rfl, hfront, hback⟩ | ⟨ha, ⟨hlead, hback⟩ | ⟨hfront, hlead⟩⟩)
      · exact .inl ⟨.inl ⟨rfl, hfront⟩, hback⟩
      · exact .inl ⟨.inr ⟨ha, hlead⟩, hback⟩
      · exact .inr ⟨⟨ha, hfront⟩, hlead⟩
    · rintro (⟨⟨rfl, hfront⟩ | ⟨ha, hlead⟩, hback⟩ | ⟨⟨ha, hfront⟩, hlead⟩)
      · exact .inl ⟨rfl, hfront, hback⟩
      · exact .inr ⟨ha, .inl ⟨hlead, hback⟩⟩
      · exact .inr ⟨ha, .inr ⟨hfront, hlead⟩⟩

theorem Leads.unique {lead' : CorpusEntry} (h : Leads weight entries lead)
    (h' : Leads weight entries lead') : lead = lead' := by
  have hweight : weight lead = weight lead' :=
    le_antisymm (h'.le lead h.mem) (h.le lead' h'.mem)
  obtain ⟨ties, hties⟩ := h.filter_eq
  obtain ⟨ties', hties'⟩ := h'.filter_eq
  rw [hweight, hties'] at hties
  exact (List.cons.inj hties).1.symm

/-- A pass can find only one thing. -/
theorem Found.unique {best' : Option (Match α)} (h : Found candidate weight entries best)
    (h' : Found candidate weight entries best') : best = best' := by
  cases h with
  | none hzero => exact (h'.eq_none_iff.mpr hzero).symm
  | some hlead hpos =>
    cases h' with
    | none hzero => exact absurd (hzero _ hlead.mem) hpos.ne'
    | some hlead' _ => rw [hlead.unique hlead']

/-- Another entry that leads is what the pass finds. -/
theorem LeadsBetween.found (h : LeadsBetween weight front e back) :
    Found candidate weight (front ++ e :: back)
      (some (⟨e, score candidate e.fingerprint⟩ : Match α)) :=
  .some ⟨front, back, rfl, h.front_lt, h.back_le⟩ h.pos

/-- Another entry that does not lead changes nothing. -/
theorem Found.insert (hnonneg : ∀ a, 0 ≤ weight a)
    (h : Found candidate weight (front ++ back) best) (he : ¬LeadsBetween weight front e back) :
    Found candidate weight (front ++ e :: back) best := by
  cases h with
  | none hzero =>
    obtain ⟨hfront, hback⟩ := List.forall_mem_append.mp hzero
    have hnot : ¬0 < weight e := fun hpos => he
      { pos := hpos
        front_lt := fun a ha => (hfront a ha).trans_lt hpos
        back_le := fun a ha => (hback a ha).trans_le hpos.le }
    have hzero' : weight e = 0 := le_antisymm (not_lt.mp hnot) (hnonneg e)
    exact .none (List.forall_mem_append.mpr
      ⟨hfront, List.forall_mem_cons.mpr ⟨hzero', hback⟩⟩)
  | @some lead hlead hpos =>
    refine .some (leads_append_iff.mpr ?_) hpos
    rcases leads_append_iff.mp hlead with ⟨hfront, hback⟩ | ⟨hfront, hback⟩
    · -- the leader is in front, and stays there unless the new entry is better
      refine .inl ⟨hfront, List.forall_mem_cons.mpr ⟨?_, hback⟩⟩
      by_contra hbetter
      rw [not_le] at hbetter
      exact he
        { pos := hpos.trans hbetter
          front_lt := fun a ha => (hfront.le a ha).trans_lt hbetter
          back_le := fun a ha => (hback a ha).trans hbetter.le }
    · -- the leader is behind, and stays there unless the new entry is as good
      refine .inr ⟨hfront, leads_cons_iff.mpr (.inr ⟨?_, hback⟩)⟩
      by_contra hgood
      rw [not_lt] at hgood
      exact he
        { pos := hpos.trans_le hgood
          front_lt := fun a ha => (hfront a ha).trans_le hgood
          back_le := fun a ha => (hback.le a ha).trans hgood }

/-- What the pass finds stands at the place of an entry exactly if that entry leads. -/
theorem Found.idxOf_eq_iff (h : Found candidate weight (front ++ e :: back) best) :
    best.map (fun found => (front ++ e :: back).idxOf found.entry) = Option.some front.length ↔
      LeadsBetween weight front e back := by
  constructor
  · intro hplace
    cases h with
    | none => simp at hplace
    | @some lead hlead hpos =>
      have hidx : (front ++ e :: back).idxOf lead = front.length := Option.some.inj hplace
      obtain ⟨before, after, hsplit, hbefore, hafter⟩ := hlead
      have hnot : lead ∉ before := fun hmem => (hbefore lead hmem).ne rfl
      rw [hsplit, List.idxOf_append_of_notMem hnot, List.idxOf_cons_self, Nat.add_zero] at hidx
      obtain ⟨rfl, hcons⟩ := List.append_inj hsplit hidx.symm
      obtain ⟨rfl, rfl⟩ := List.cons.inj hcons
      exact ⟨hpos, hbefore, hafter⟩
  · intro hleads
    have hnot : e ∉ front := fun hmem => (hleads.front_lt e hmem).ne rfl
    rw [h.unique hleads.found, Option.map_some, List.idxOf_append_of_notMem hnot,
      List.idxOf_cons_self, Nat.add_zero]

end Insertion

end ComponentLikeness.Similarity
