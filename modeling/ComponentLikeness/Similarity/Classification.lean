import ComponentLikeness.Similarity.BestMatch
import ComponentLikeness.Text.Words

/-!
# Classification

A candidate is consistent if it shares the vocabulary of its best match, and
novel if it is consistent and yet unlike everything in the corpus.
-/

namespace ComponentLikeness.Similarity

open Component Number Text

variable {α : Type} [Arithmetic α]

/-- Whether one of two tokens is a part of the other. -/
def related (a b : String) : Bool :=
  occursIn a.toList b.toList || occursIn b.toList a.toList

/-- Whether some token of the one set is related to some token of the other. -/
def sharesVocabulary (candidate member : StringSet) : Bool :=
  candidate.items.any fun a => member.items.any fun b => related a b

/-- Whether a candidate is novel: consistent, and less similar than the
threshold. -/
def isNovel (similarity : α) (consistent : Bool) (threshold : α) : Bool :=
  Arithmetic.less similarity threshold && consistent

/-- What is found out about a candidate. -/
structure Classification (α : Type) where
  isNovel : Bool
  isConsistent : Bool
  /-- The score of the best match; zero if there is none. -/
  similarity : α
  /-- The id of the best match. -/
  matched : Option String
deriving DecidableEq, Repr, Inhabited

/-- The classification by the best match. -/
def classifyBy (threshold : α) (candidate : Fingerprint) (best : Option (Match α)) :
    Classification α :=
  let similarity := (best.map (·.breakdown.total)).getD Arithmetic.zero
  let isConsistent := best.any fun found =>
    sharesVocabulary candidate.styleTokens found.entry.fingerprint.styleTokens
  { isNovel := isNovel similarity isConsistent threshold
    isConsistent
    similarity
    matched := best.map (·.entry.id) }

/-- Classify a candidate against a corpus. -/
def classify (threshold : α) (candidate : Fingerprint) (corpus : Corpus) : Classification α :=
  classifyBy threshold candidate (bestMatch candidate corpus)

end ComponentLikeness.Similarity
