import ComponentLikeness.Comparison
import ComponentLikeness.Files.FileTree
import ComponentLikeness.Proofs.Comparison.Irrelevance
import ComponentLikeness.Proofs.Comparison.OneMore
import ComponentLikeness.Proofs.Component.Comments
import ComponentLikeness.Proofs.Component.Digests
import ComponentLikeness.Proofs.Component.FirstSuccesses
import ComponentLikeness.Proofs.Component.Gathering
import ComponentLikeness.Proofs.Component.OpeningTags
import ComponentLikeness.Proofs.Component.Recursions
import ComponentLikeness.Proofs.Component.Rewrapping
import ComponentLikeness.Proofs.Component.Scopes
import ComponentLikeness.Proofs.Session.Store
import ComponentLikeness.Proofs.Session.Story
import ComponentLikeness.Proofs.Settings.RoundTrip
import ComponentLikeness.Proofs.Settings.Usable
import ComponentLikeness.Proofs.Similarity.Copies
import ComponentLikeness.Proofs.Similarity.NearTies
import ComponentLikeness.Proofs.Similarity.Shares
import ComponentLikeness.Proofs.Syntax.Limits
