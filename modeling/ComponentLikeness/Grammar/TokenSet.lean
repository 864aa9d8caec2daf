/-!
# Sets of terminals

A set of terminals is a natural number whose bits are the members, so that
union and membership are single operations on numbers.
-/

namespace ComponentLikeness.Grammar

/-- A finite set of terminal numbers. -/
structure TokenSet where
  bits : Nat
deriving DecidableEq, Repr, Inhabited

namespace TokenSet

/-- No terminal. -/
def empty : TokenSet := ⟨0⟩

/-- Just the one terminal. -/
def single (i : Nat) : TokenSet := ⟨1 <<< i⟩

/-- The terminals of either set. -/
def union (s t : TokenSet) : TokenSet := ⟨s.bits ||| t.bits⟩

/-- The terminals of both sets. -/
def inter (s t : TokenSet) : TokenSet := ⟨s.bits &&& t.bits⟩

/-- Membership. -/
def contains (s : TokenSet) (i : Nat) : Bool := s.bits.testBit i

/-- Whether there is no member. -/
def isEmpty (s : TokenSet) : Bool := s.bits == 0

/-- The set with one more member. -/
def insert (s : TokenSet) (i : Nat) : TokenSet := s.union (single i)

instance : EmptyCollection TokenSet := ⟨empty⟩
instance : Union TokenSet := ⟨union⟩
instance : Inter TokenSet := ⟨inter⟩

/-- Mixes all bits of the set, 64 at a time. -/
def hashBits : Nat → Nat → UInt64
  | 0, _ => 7
  | fuel + 1, bits =>
    if bits = 0 then 7 else mixHash bits.toUInt64 (hashBits fuel (bits >>> 64))

instance : Hashable TokenSet := ⟨fun s => hashBits 8 s.bits⟩

@[simp] theorem contains_empty (i : Nat) : (∅ : TokenSet).contains i = false := by
  simp [contains, EmptyCollection.emptyCollection, empty]

@[simp] theorem contains_union (s t : TokenSet) (i : Nat) :
    (s ∪ t).contains i = (s.contains i || t.contains i) := by
  simp [contains, Union.union, union]

end TokenSet

end ComponentLikeness.Grammar
