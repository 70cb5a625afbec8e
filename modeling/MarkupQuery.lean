import MarkupQuery.Engine.Describe
import MarkupQuery.Engine.Extra
import MarkupQuery.Main
import MarkupQuery.Node.Json
import MarkupQuery.Proofs.Words
import MarkupQuery.Proofs.Outcome
import MarkupQuery.Proofs.Pieces
import MarkupQuery.Proofs.Grammar
import MarkupQuery.Proofs.Reading
import MarkupQuery.Proofs.ErrorSpan
import MarkupQuery.Proofs.Grouping
import MarkupQuery.Proofs.Narrowing
import MarkupQuery.Proofs.Joining
import MarkupQuery.Proofs.Uses
import MarkupQuery.Proofs.Mentions
import MarkupQuery.Proofs.BuiltinFilters
import MarkupQuery.Proofs.Registry
import MarkupQuery.Proofs.NestedErrors
import MarkupQuery.Proofs.Alternatives
import MarkupQuery.Proofs.Rejection
import MarkupQuery.Proofs.Descent
import MarkupQuery.Proofs.Shape
import MarkupQuery.Proofs.Evaluation
import MarkupQuery.Proofs.JsonText
import MarkupQuery.Proofs.ForestText
import MarkupQuery.Proofs.Spacing
import MarkupQuery.Proofs.Options
import MarkupQuery.Proofs.EarlyExit
import MarkupQuery.Proofs.Walkers
import MarkupQuery.Proofs.Enclosed
import MarkupQuery.Proofs.Failures
import MarkupQuery.Proofs.Leaves
import MarkupQuery.Proofs.Preselectors
import MarkupQuery.Proofs.TextSearch
import MarkupQuery.Proofs.Clauses
import MarkupQuery.Proofs.Coverage
import MarkupQuery.Proofs.Exclusion
import MarkupQuery.Proofs.Comparison
import MarkupQuery.Proofs.Display
import MarkupQuery.Proofs.ClassWords
import MarkupQuery.Proofs.Positions
import MarkupQuery.Proofs.Containment
import MarkupQuery.Proofs.AttributeOrder
import MarkupQuery.Proofs.Visits
import MarkupQuery.Proofs.Indentation
import MarkupQuery.Proofs.Literals
import MarkupQuery.Proofs.SuiteText
import MarkupQuery.Proofs.Enumeration
import MarkupQuery.Proofs.Overwriting
