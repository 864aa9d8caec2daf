import ComponentLikeness.Component.Harvest
import ComponentLikeness.Component.OfTree
import ComponentLikeness.Tsx.Checked

/-!
# From source texts to fingerprints
-/

namespace ComponentLikeness.Component

/-- The component tree of a text. -/
def Node.ofSource (maxDepth : Nat) (text : String) : Except SourceError Node :=
  (Tsx.parseChecked maxDepth text).map fun parsed => nodeOf parsed.source parsed.tree

-- irreducible, for unfolding it would set the whole reader of the language going
/-- The fingerprint of a text. -/
@[irreducible] def Fingerprint.ofSource (settings : AnalysisSettings) (text : String) :
    Except SourceError Fingerprint :=
  (Node.ofSource settings.effectiveMaxDepth.toNat text).map (Node.fingerprint settings)

end ComponentLikeness.Component
