import ComponentLikeness.Hash.Xxh3
import ComponentLikeness.Text.StringSet

/-!
# Fingerprints

What is compared of a component: its name, the props it takes, its style
tokens and the opening tag it renders first. The digest hashes all four in one
canonical text.
-/

namespace ComponentLikeness.Component

open Text

/-- The summary of one source text. -/
structure Fingerprint where
  /-- The name bound to the default export; empty if there is none. -/
  name : String := ""
  props : StringSet := ∅
  styleTokens : StringSet := ∅
  /-- The opening tag of the first element; empty if there is none. -/
  signature : String := ""
deriving DecidableEq, Inhabited

namespace Fingerprint

/-- Whether any element is rendered. -/
def hasRenderedTree (f : Fingerprint) : Bool := !f.signature.isEmpty

/-- The mark in front of each part after the name. -/
def partMark : Char := '\x1e'

/-- The mark behind each item of a set. -/
def itemMark : Char := '\x1f'

/-- A set in the canonical text. -/
def canonicalSet (s : StringSet) : List Char :=
  partMark :: s.items.flatMap fun item => item.toList ++ [itemMark]

/-- The canonical text of a fingerprint. -/
def canonical (f : Fingerprint) : String :=
  String.ofList (f.name.toList ++ canonicalSet f.props ++ canonicalSet f.styleTokens ++
    partMark :: f.signature.toList)

/-- The hash of the canonical text. -/
def digest (f : Fingerprint) : String := Hash.Xxh3.hex (Hash.Xxh3.hashText f.canonical)

end Fingerprint

end ComponentLikeness.Component
