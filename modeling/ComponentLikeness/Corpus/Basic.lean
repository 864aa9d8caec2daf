import ComponentLikeness.Component.Fingerprint

/-!
# Corpora

The members with which candidates are compared, in the order of their ids.
-/

namespace ComponentLikeness

open Component

/-- A member of a corpus. -/
structure CorpusEntry where
  /-- The file name within the directory. -/
  id : String
  path : String
  fingerprint : Fingerprint
deriving DecidableEq, Inhabited

/-- The members of a corpus. -/
structure Corpus where
  entries : List CorpusEntry := []
deriving DecidableEq, Inhabited

namespace Corpus

/-- Whether one member may stand in front of another. -/
def ordered (a b : CorpusEntry) : Bool := decide (a.id ≤ b.id)

/-- The corpus of some members: they are put in the order of their ids, those
of one id in the order given. -/
def ofEntries (entries : List CorpusEntry) : Corpus := ⟨entries.mergeSort ordered⟩

/-- The number of members. -/
def size (c : Corpus) : Nat := c.entries.length

/-- Whether there is no member. -/
def isEmpty (c : Corpus) : Bool := c.entries.isEmpty

/-- The first member with an id. -/
def get? (c : Corpus) (id : String) : Option CorpusEntry := c.entries.find? fun e => e.id = id

end Corpus

end ComponentLikeness
