import Reckon.Json.Reader
import Reckon.Options
import Reckon.Pool
import Reckon.Proofs.Engine.Chains
import Reckon.Proofs.Engine.Composition
import Reckon.Proofs.Engine.Limits
import Reckon.Proofs.Engine.Reach
import Reckon.Proofs.Engine.Spacing
import Reckon.Proofs.Formula.Grouping
import Reckon.Standard
import Reckon.Value.Inspect
import Reckon.Proofs.Lexicon.Coverage
import Reckon.Proofs.Engine.Names
import Reckon.Proofs.Formula.Level
import Reckon.Proofs.Lexicon.Blank
import Reckon.Proofs.Literal
import Reckon.Proofs.Engine.Literals
import Reckon.Proofs.Binary64
import Reckon.Proofs.Engine.Defaults
import Reckon.Proofs.Json.Reader
import Reckon.Proofs.Value.Json
import Reckon.Proofs.Engine.Spread
import Reckon.Proofs.Pool
import Reckon.Proofs.Value.Serialize
import Reckon.Proofs.Engine.Objects
import Reckon.Proofs.Lexicon.Points
import Reckon.Proofs.Engine.SpreadPaths
import Reckon.Proofs.Path
import Reckon.Proofs.Grammar.Errors
import Reckon.Proofs.Engine.Errors
import Reckon.Proofs.Formula.Keys
import Reckon.Proofs.Engine.Keys
import Reckon.Proofs.Standard.Distinct
import Reckon.Proofs.Outcome
import Reckon.Proofs.Standard.Searches
import Reckon.Proofs.Value.Hereditary
import Reckon.Proofs.Grammar.Hereditary
import Reckon.Proofs.Standard.Hereditary
import Reckon.Proofs.Engine.Hereditary
import Reckon.Proofs.Engine.Reductions
import Reckon.Proofs.Binary64.Order
import Reckon.Proofs.Value.Getters
import Reckon.Proofs.Value.Order
import Reckon.Proofs.Standard.Comparisons
import Reckon.Proofs.Standard.Operands
import Reckon.Proofs.Binary64.Nearest
import Reckon.Proofs.Decimal.Numeral
import Reckon.Proofs.Text.Blank
import Reckon.Proofs.Value.Numbers
import Reckon.Proofs.Binary64.Ratio
import Reckon.Proofs.Binary64.Special
import Reckon.Proofs.Decimal.Shortest
import Reckon.Proofs.Decimal.Layout
import Reckon.Proofs.Value.Display
import Reckon.Proofs.Text.Fields
import Reckon.Proofs.Standard.Texts
import Reckon.Proofs.Decimal.Figures
import Reckon.Proofs.Calendar.Date
import Reckon.Proofs.Calendar.Moment
import Reckon.Proofs.Calendar.Iso
import Reckon.Proofs.Standard.Dates
import Reckon.Proofs.Binary64.Rounding
import Reckon.Proofs.Binary64.Product
import Reckon.Proofs.Calendar.Instant
import Reckon.Proofs.Calendar.Months
import Reckon.Proofs.Standard.Shifts
import Reckon.Proofs.Standard.Milliseconds
import Reckon.Proofs.Calendar.Format
import Reckon.Proofs.Engine.Configuration
import Reckon.Proofs.Lexicon.Extra
import Reckon.Proofs.Pattern.ShutBranches
import Reckon.Proofs.Pattern.Fronts
import Reckon.Proofs.Standard.Patterns
import Reckon.Proofs.Engine.Kinds
