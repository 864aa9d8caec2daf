import ComponentLikeness.Component.Fingerprint

/-!
# Remembered fingerprints

Fingerprints by the hash of the source text that they were computed from. A
failure is never remembered, and a full store takes no further texts. A store
may also drop fingerprints as time passes, or bring back dropped ones; it never
makes one up.
-/

namespace ComponentLikeness.Component

/-- The key of a source text. -/
def contentKey (text : String) : UInt64 := Hash.Xxh3.hashText text

/-- What a store holds at each moment, out of what it has held so far and of all
that was ever put into it. -/
structure Retention where
  keep : Nat → List (UInt64 × Fingerprint) → List (UInt64 × Fingerprint) →
    List (UInt64 × Fingerprint)
  keep_subset : ∀ moment held puts, keep moment held puts ⊆ held ++ puts

/-- Everything is held for ever. -/
def Retention.full : Retention :=
  ⟨fun _ held _ => held, fun _ _ _ => List.subset_append_left _ _⟩

instance : Inhabited Retention := ⟨.full⟩

/-- Fingerprints by key, at most `capacity` of them. -/
structure FingerprintCache where
  capacity : Nat
  entries : List (UInt64 × Fingerprint) := []
  /-- All that was ever put in, whether or not there was room, the latest first. -/
  puts : List (UInt64 × Fingerprint) := []
  retention : Retention := .full
  /-- How often the store has been asked. -/
  moment : Nat := 0
deriving Inhabited

namespace FingerprintCache

/-- A store with nothing in it. -/
def ofCapacity (capacity : Nat) : FingerprintCache := { capacity }

/-- The fingerprint remembered for a key. -/
def lookup? (c : FingerprintCache) (key : UInt64) : Option Fingerprint := c.entries.lookup key

/-- The fingerprint remembered for a text. -/
def get? (c : FingerprintCache) (text : String) : Option Fingerprint :=
  c.lookup? (contentKey text)

/-- Replace the fingerprint of a key that is there, or add it behind the others. -/
def put (key : UInt64) (f : Fingerprint) :
    List (UInt64 × Fingerprint) → List (UInt64 × Fingerprint)
  | [] => [(key, f)]
  | (k, g) :: rest => if k = key then (k, f) :: rest else (k, g) :: put key f rest

/-- Remember the fingerprint of a text, if there is room or the key is there. -/
def insert (c : FingerprintCache) (text : String) (f : Fingerprint) : FingerprintCache :=
  { c with
    entries :=
      if c.entries.length < c.capacity || (c.get? text).isSome then
        put (contentKey text) f c.entries
      else c.entries
    puts := (contentKey text, f) :: c.puts }

/-- The store a moment later. -/
def age (c : FingerprintCache) : FingerprintCache :=
  { c with
    entries := c.retention.keep c.moment c.entries c.puts
    moment := c.moment + 1 }

theorem entries_age_subset (c : FingerprintCache) :
    c.age.entries ⊆ c.entries ++ c.puts :=
  c.retention.keep_subset _ _ _

theorem entries_age_of_full {c : FingerprintCache} (h : c.retention = .full) :
    c.age.entries = c.entries := by
  simp [age, h, Retention.full]

/-- The number of fingerprints remembered. -/
def size (c : FingerprintCache) : Nat := c.entries.length

/-- What comes of asking for a fingerprint. -/
structure Answer (ε : Type) where
  result : Except ε Fingerprint
  cache : FingerprintCache
  /-- Whether it had to be computed. -/
  computed : Bool

/-- The fingerprint remembered for a text, or else the one computed, which is
then remembered. -/
def getOrCompute {ε : Type} (c : FingerprintCache) (text : String)
    (compute : String → Except ε Fingerprint) : Answer ε :=
  match c.get? text with
  | some f => ⟨.ok f, c, false⟩
  | none =>
    match compute text with
    | .ok f => ⟨.ok f, c.insert text f, true⟩
    | .error e => ⟨.error e, c, true⟩

end FingerprintCache

end ComponentLikeness.Component
