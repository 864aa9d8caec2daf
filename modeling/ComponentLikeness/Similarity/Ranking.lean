import ComponentLikeness.Corpus.Basic
import ComponentLikeness.Similarity.Score

/-!
# Rankings

All members of a corpus with their scores, the best first.
-/

namespace ComponentLikeness.Similarity

open Component Number

variable {α : Type} [Arithmetic α]

/-- A member's id with its score. -/
structure Ranked (α : Type) where
  component : String
  breakdown : Breakdown α
deriving DecidableEq, Inhabited

/-- A member scored for a candidate. -/
def ranked (candidate : Fingerprint) (entry : CorpusEntry) : Ranked α :=
  ⟨entry.id, score candidate entry.fingerprint⟩

/-- Whether one place in the ranking may stand in front of another. -/
def notWorse (a b : Ranked α) : Bool := !Arithmetic.below a.breakdown.total b.breakdown.total

/-- The members by falling score; those of one score keep their order. -/
def rank (candidate : Fingerprint) (corpus : Corpus) : List (Ranked α) :=
  (corpus.entries.map (ranked candidate)).mergeSort notWorse

end ComponentLikeness.Similarity
