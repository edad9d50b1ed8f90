import DocQuery.Main
import DocQuery.Proofs.Run.Logic
import DocQuery.Proofs.Run.Operand
import DocQuery.Proofs.Run.Selection
import DocQuery.Proofs.Run.Aggregate
import DocQuery.Proofs.Run.Control
import DocQuery.Proofs.Run.Dispatch
import DocQuery.Proofs.Query.Policy
import DocQuery.Proofs.Run.Outcome
import DocQuery.Proofs.Run.Write
import DocQuery.Proofs.Store.Lookup
import DocQuery.Proofs.Isolation
import DocQuery.Proofs.Store.Keys
import DocQuery.Proofs.Store.Unique
import DocQuery.Proofs.Reading
import DocQuery.Proofs.Write.Rows
import DocQuery.Proofs.Value.Same
import DocQuery.Proofs.Write.Effects
import DocQuery.Proofs.Write.Standing
import DocQuery.Proofs.Write.Counters
import DocQuery.Proofs.Write.Single
import DocQuery.Proofs.Run.Failing
import DocQuery.Proofs.Query.Failing
import DocQuery.Proofs.Query.Checked
import DocQuery.Proofs.Query.Alike
import DocQuery.Proofs.Query.Depth
import DocQuery.Proofs.Query.Substitution
import DocQuery.Proofs.Query.Capture
import DocQuery.Proofs.Query.Beta
import DocQuery.Proofs.Value.Fault
import DocQuery.Proofs.Value.Merge
import DocQuery.Proofs.Store.Merging
import DocQuery.Proofs.Query.Avoids
import DocQuery.Proofs.Write.Untouched
import DocQuery.Proofs.Value.Untagged
import DocQuery.Proofs.Store.OrderedMap
import DocQuery.Proofs.Repeatable
import DocQuery.Proofs.Steady
import DocQuery.Proofs.Store.Summing
import DocQuery.Proofs.Write.Exact
import DocQuery.Proofs.Write.OneByOne
import DocQuery.Proofs.Query.Bulk
import DocQuery.Proofs.Query.Composed
import DocQuery.Proofs.Query.Rendered
import DocQuery.Proofs.Query.Literal
import DocQuery.Proofs.Write.Log
import DocQuery.Proofs.Decided
import DocQuery.Proofs.Query.Chain
import DocQuery.Proofs.Store.Removal
import DocQuery.Proofs.Write.Deletion
import DocQuery.Proofs.Query.Accepted
import DocQuery.Proofs.Query.Spliced
import DocQuery.Proofs.Query.Supplied
import DocQuery.Proofs.Limit.Value
import DocQuery.Proofs.Limit.Operand
import DocQuery.Proofs.Limit.Operations
import DocQuery.Proofs.Limit.Dispatch
import DocQuery.Proofs.Limit.Query
import DocQuery.Proofs.Tree.View
import DocQuery.Proofs.Tree.Traversal
import DocQuery.Proofs.Tree.Nested
import DocQuery.Proofs.Run.Ordering
import DocQuery.Proofs.Query.Sets
import DocQuery.Proofs.Value.Extreme
import DocQuery.Proofs.Query.Extremes
import DocQuery.Proofs.Query.Ranges
import DocQuery.Proofs.Run.Grouping
import DocQuery.Proofs.Query.Groups
import DocQuery.Proofs.Value.Patch
import DocQuery.Proofs.Write.Patching
import DocQuery.Proofs.Value.Requests
import DocQuery.Proofs.Value.Plucking
import DocQuery.Proofs.Value.Complement
import DocQuery.Proofs.Value.Coverage
import DocQuery.Proofs.Query.Documents
import DocQuery.Proofs.Value.Literals
import DocQuery.Proofs.Write.Literals
import DocQuery.Proofs.Value.Whole
import DocQuery.Proofs.Value.Position
import DocQuery.Proofs.Query.Receivers
import DocQuery.Proofs.Query.Positions
import DocQuery.Proofs.Query.Predicates
import DocQuery.Proofs.Query.ForEach
import DocQuery.Proofs.Query.Slices
import DocQuery.Proofs.Query.Comparisons
import DocQuery.Proofs.Query.Encoded
import DocQuery.Proofs.Text.Split
import DocQuery.Proofs.Query.Splits
import DocQuery.Proofs.Value.Exact
import DocQuery.Proofs.Time.Calendar
import DocQuery.Proofs.Time.Zone
import DocQuery.Proofs.Time.Moment
import DocQuery.Proofs.Time.Value
import DocQuery.Proofs.Query.Times
import DocQuery.Proofs.Query.Zones
import DocQuery.Proofs.Value.Word
import DocQuery.Proofs.Query.Words
