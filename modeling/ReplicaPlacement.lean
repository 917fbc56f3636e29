import ReplicaPlacement.Access.Control
import ReplicaPlacement.Access.Object
import ReplicaPlacement.Access.Policy
import ReplicaPlacement.Candidate.Basic
import ReplicaPlacement.Candidate.Check
import ReplicaPlacement.Candidate.Collect
import ReplicaPlacement.Cluster.Basic
import ReplicaPlacement.Cluster.Error
import ReplicaPlacement.Cluster.Inventory
import ReplicaPlacement.Cluster.Provider
import ReplicaPlacement.Cluster.Snapshot
import ReplicaPlacement.Command.Grammar
import ReplicaPlacement.Command.Request
import ReplicaPlacement.Command.Run
import ReplicaPlacement.Command.Workspace
import ReplicaPlacement.Constraint.Basic
import ReplicaPlacement.Constraint.Exclusion
import ReplicaPlacement.Constraint.PropertyFilter
import ReplicaPlacement.Decimal.Layout
import ReplicaPlacement.Decimal.Shortest
import ReplicaPlacement.Decimal.Written
import ReplicaPlacement.Document.Json.Reader
import ReplicaPlacement.Document.Json.Writer
import ReplicaPlacement.Document.Readable
import ReplicaPlacement.Document.Value
import ReplicaPlacement.Document.Yaml.Lexer
import ReplicaPlacement.Document.Yaml.Node
import ReplicaPlacement.Document.Yaml.Place
import ReplicaPlacement.Document.Yaml.Reader
import ReplicaPlacement.Document.Yaml.Scalar
import ReplicaPlacement.Document.Yaml.Token
import ReplicaPlacement.Document.Yaml.Writer
import ReplicaPlacement.Inspect
import ReplicaPlacement.Main
import ReplicaPlacement.Name
import ReplicaPlacement.Ordered
import ReplicaPlacement.Pattern.CharSet
import ReplicaPlacement.Pattern.Language
import ReplicaPlacement.Pattern.Matcher
import ReplicaPlacement.Pattern.Property
import ReplicaPlacement.Pattern.Reader
import ReplicaPlacement.Pattern.Syntax
import ReplicaPlacement.Placement.Autoplacer
import ReplicaPlacement.Placement.Basic
import ReplicaPlacement.Placement.Context
import ReplicaPlacement.Placement.Error
import ReplicaPlacement.Proofs.Access.Grants
import ReplicaPlacement.Proofs.Access.Spelling
import ReplicaPlacement.Proofs.Binary64
import ReplicaPlacement.Proofs.Candidate.Eligible
import ReplicaPlacement.Proofs.Candidate.Exact
import ReplicaPlacement.Proofs.Candidate.Offered
import ReplicaPlacement.Proofs.Candidate.Spelling
import ReplicaPlacement.Proofs.Cluster.Altered
import ReplicaPlacement.Proofs.Cluster.Build
import ReplicaPlacement.Proofs.Cluster.Document
import ReplicaPlacement.Proofs.Cluster.Faults
import ReplicaPlacement.Proofs.Cluster.Indexes
import ReplicaPlacement.Proofs.Cluster.Lookup
import ReplicaPlacement.Proofs.Cluster.Occupancy
import ReplicaPlacement.Proofs.Cluster.Redaction
import ReplicaPlacement.Proofs.Cluster.RoundTrip
import ReplicaPlacement.Proofs.Cluster.SameObjects
import ReplicaPlacement.Proofs.Cluster.Spelling
import ReplicaPlacement.Proofs.Cluster.WellFormed
import ReplicaPlacement.Proofs.Constraint.Document
import ReplicaPlacement.Proofs.Constraint.Fallback
import ReplicaPlacement.Proofs.Constraint.Kept
import ReplicaPlacement.Proofs.Constraint.Spelling
import ReplicaPlacement.Proofs.Name
import ReplicaPlacement.Proofs.Ordered
import ReplicaPlacement.Proofs.Outcome
import ReplicaPlacement.Proofs.Placement.Answer
import ReplicaPlacement.Proofs.Placement.Blind
import ReplicaPlacement.Proofs.Placement.Complete
import ReplicaPlacement.Proofs.Placement.Context
import ReplicaPlacement.Proofs.Placement.Existing
import ReplicaPlacement.Proofs.Placement.Fault
import ReplicaPlacement.Proofs.Placement.Growth
import ReplicaPlacement.Proofs.Placement.Relaxed
import ReplicaPlacement.Proofs.Placement.Reloaded
import ReplicaPlacement.Proofs.Placement.Sound
import ReplicaPlacement.Proofs.Placement.Spelling
import ReplicaPlacement.Proofs.Placement.Stages
import ReplicaPlacement.Proofs.Registry.Accept
import ReplicaPlacement.Proofs.Registry.History
import ReplicaPlacement.Proofs.Registry.Key
import ReplicaPlacement.Proofs.Registry.KeyForm
import ReplicaPlacement.Proofs.Registry.Load
import ReplicaPlacement.Proofs.Registry.Replace
import ReplicaPlacement.Proofs.Selection.BranchAndBound
import ReplicaPlacement.Proofs.Selection.Complete
import ReplicaPlacement.Proofs.Selection.Exact
import ReplicaPlacement.Proofs.Selection.Feasible
import ReplicaPlacement.Proofs.Selection.First
import ReplicaPlacement.Proofs.Selection.FirstBest
import ReplicaPlacement.Proofs.Selection.Larger
import ReplicaPlacement.Proofs.Selection.Optimal
import ReplicaPlacement.Proofs.Selection.Pairs
import ReplicaPlacement.Proofs.Selection.Places
import ReplicaPlacement.Proofs.Selection.Rules
import ReplicaPlacement.Proofs.Selection.SameRules
import ReplicaPlacement.Proofs.Selection.Search
import ReplicaPlacement.Proofs.Selection.Spelling
import ReplicaPlacement.Proofs.Selection.Spread
import ReplicaPlacement.Proofs.Selection.Undo
import ReplicaPlacement.Proofs.Size
import ReplicaPlacement.Proofs.Store.Scan
import ReplicaPlacement.Proofs.Store.Transaction
import ReplicaPlacement.Proofs.Text.Numeral
import ReplicaPlacement.Registry.Basic
import ReplicaPlacement.Registry.Error
import ReplicaPlacement.Registry.Key
import ReplicaPlacement.Score
import ReplicaPlacement.Selection.Search
import ReplicaPlacement.Selection.Select
import ReplicaPlacement.Selection.State
import ReplicaPlacement.Size
import ReplicaPlacement.Store.Basic
import ReplicaPlacement.Store.File
import ReplicaPlacement.Text.Blank
import ReplicaPlacement.Text.Hidden
import ReplicaPlacement.Text.Numeral
import ReplicaPlacement.Text.Quoted
import ReplicaPlacement.Text.Segments
import ReplicaPlacement.Text.Utf8
import ReplicaPlacement.Trace
