import ComponentLikeness.Corpus.Basic
import ComponentLikeness.Similarity.Score

/-!
# The best match

The member of a corpus that is most like a candidate. Partial results are
combined pairwise, the earlier one winning a tie, so that the corpus may be cut
into parts at will.
-/

namespace ComponentLikeness.Similarity

open Component Number

variable {α : Type} [Arithmetic α]

/-- A member with its score. -/
structure Match (α : Type) where
  entry : CorpusEntry
  breakdown : Breakdown α
deriving DecidableEq, Inhabited

/-- The better of two partial results; the earlier one wins a tie. -/
def prefer (earlier later : Option (Match α)) : Option (Match α) :=
  match earlier, later with
  | some a, some b => if Arithmetic.less a.breakdown.total b.breakdown.total then some b else some a
  | some a, none => some a
  | none, b => b

/-- A member as a partial result: only a positive score can match. -/
def scored (candidate : Fingerprint) (entry : CorpusEntry) : Option (Match α) :=
  let breakdown := score candidate entry.fingerprint
  if Arithmetic.less Arithmetic.zero breakdown.total then some ⟨entry, breakdown⟩ else none

/-- The best match among some members. -/
def bestAmong (candidate : Fingerprint) (entries : List CorpusEntry) : Option (Match α) :=
  entries.foldl (fun best entry => prefer best (scored candidate entry)) none

/-- The best match in a corpus. -/
def bestMatch (candidate : Fingerprint) (corpus : Corpus) : Option (Match α) :=
  bestAmong candidate corpus.entries

@[simp] theorem prefer_none_left (b : Option (Match α)) : prefer none b = b := by
  cases b <;> rfl

@[simp] theorem prefer_none_right (a : Option (Match α)) : prefer a none = a := by
  cases a <;> rfl

end ComponentLikeness.Similarity
