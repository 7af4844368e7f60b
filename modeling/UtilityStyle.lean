import UtilityStyle.Color.Basic
import UtilityStyle.Engine.Session
import UtilityStyle.Json.WellFormed
import UtilityStyle.Proofs.Engine.Cascade
import UtilityStyle.Proofs.Engine.Importance
import UtilityStyle.Proofs.Engine.Margin
import UtilityStyle.Proofs.Engine.Order
import UtilityStyle.Proofs.Engine.Responsive
import UtilityStyle.Proofs.Engine.Suffix
import UtilityStyle.Proofs.Engine.Suggested
import UtilityStyle.Theme.Extension
import UtilityStyle.Proofs.Style.Algebra
import UtilityStyle.Proofs.Style.Scope
import UtilityStyle.Proofs.Engine.Invariant
import UtilityStyle.Proofs.Engine.Concatenation
import UtilityStyle.Proofs.Engine.Variant
import UtilityStyle.Proofs.Engine.Opacity
import UtilityStyle.Proofs.Engine.Locality
import UtilityStyle.Proofs.Theme.Overrides
import UtilityStyle.Proofs.Engine.Session
import UtilityStyle.Proofs.Engine.Sassy
import UtilityStyle.Proofs.Engine.Precedence
import UtilityStyle.Proofs.Engine.Silence
import UtilityStyle.Proofs.Rule.Cascade
import UtilityStyle.Proofs.Style.Laws
import UtilityStyle.Proofs.Engine.Divider
import UtilityStyle.Proofs.Token.Misplaced
import UtilityStyle.Proofs.Engine.Sign
import UtilityStyle.Proofs.Theme.Depth
import UtilityStyle.Proofs.Theme.Reach
import UtilityStyle.Proofs.Engine.Container
import UtilityStyle.Proofs.Suggestion.Offer
import UtilityStyle.Proofs.Engine.Coverage
import UtilityStyle.Proofs.Engine.Shown
import UtilityStyle.Proofs.Theme.Extended
import UtilityStyle.Proofs.Suggestion.Layout
import UtilityStyle.Proofs.Color.Hex
import UtilityStyle.Proofs.Engine.Blank
import UtilityStyle.Proofs.Rule.CamelCase
