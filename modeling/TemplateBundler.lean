import TemplateBundler.Address
import TemplateBundler.Artifact.Basic
import TemplateBundler.Artifact.Binding
import TemplateBundler.Artifact.ClientScript
import TemplateBundler.Association
import TemplateBundler.CommandLine.Arguments
import TemplateBundler.CommandLine.Invocation
import TemplateBundler.CommandLine.Listing
import TemplateBundler.CommandLine.Run
import TemplateBundler.CommandLine.Style
import TemplateBundler.CommandLine.Switch
import TemplateBundler.Config.Basic
import TemplateBundler.Config.Loading
import TemplateBundler.Config.Reading
import TemplateBundler.Conventions
import TemplateBundler.Disk.Basic
import TemplateBundler.Disk.Fault
import TemplateBundler.Disk.Files
import TemplateBundler.Disk.Paths
import TemplateBundler.Disk.Store
import TemplateBundler.Error
import TemplateBundler.FilePath
import TemplateBundler.Gate
import TemplateBundler.KeyPath
import TemplateBundler.Main
import TemplateBundler.Proofs.Addresses
import TemplateBundler.Proofs.Arena
import TemplateBundler.Proofs.Bindings
import TemplateBundler.Proofs.Chart
import TemplateBundler.Proofs.Client
import TemplateBundler.Proofs.Contents
import TemplateBundler.Proofs.Decoding
import TemplateBundler.Proofs.Directories
import TemplateBundler.Proofs.Frame
import TemplateBundler.Proofs.Freshness
import TemplateBundler.Proofs.Growth
import TemplateBundler.Proofs.Locality
import TemplateBundler.Proofs.Making
import TemplateBundler.Proofs.Marks
import TemplateBundler.Proofs.Memory
import TemplateBundler.Proofs.Outline
import TemplateBundler.Proofs.OutputPaths
import TemplateBundler.Proofs.Paths
import TemplateBundler.Proofs.Preorder
import TemplateBundler.Proofs.Resolution
import TemplateBundler.Proofs.Reuse
import TemplateBundler.Proofs.Runs
import TemplateBundler.Proofs.Scan
import TemplateBundler.Proofs.Shape
import TemplateBundler.Proofs.Shelves
import TemplateBundler.Proofs.Sites
import TemplateBundler.Proofs.StoredRuns
import TemplateBundler.Proofs.Stores
import TemplateBundler.Proofs.Together
import TemplateBundler.Proofs.Views
import TemplateBundler.Proofs.Walks
import TemplateBundler.Renderer
import TemplateBundler.Report
import TemplateBundler.Service
import TemplateBundler.Source.Blocks
import TemplateBundler.Source.Build
import TemplateBundler.Source.Scan
import TemplateBundler.Suggestion
import TemplateBundler.Template.Evaluation
import TemplateBundler.Template.Expression
import TemplateBundler.Template.Grammar
import TemplateBundler.Template.Language
import TemplateBundler.Template.Node
import TemplateBundler.Template.Path
import TemplateBundler.Template.Problem
import TemplateBundler.Template.Rendering
import TemplateBundler.Template.Scope
import TemplateBundler.Template.Stock
import TemplateBundler.Template.Value
import TemplateBundler.Text.Alphanumeric
import TemplateBundler.Text.Case
import TemplateBundler.Text.Decimal
import TemplateBundler.Text.Ends
import TemplateBundler.Text.Pieces
import TemplateBundler.Text.Quoted
import TemplateBundler.Text.Ranges
import TemplateBundler.Text.Reader
import TemplateBundler.Text.Visible
import TemplateBundler.Time
import TemplateBundler.Toml.Document
import TemplateBundler.Toml.Grammar
import TemplateBundler.Toml.Scalar
import TemplateBundler.Toml.Value
import TemplateBundler.Tree.Basic
import TemplateBundler.Tree.Freshness
import TemplateBundler.Tree.Traversal
import TemplateBundler.Word
import TemplateBundler.Proofs.Stability
import TemplateBundler.Proofs.Climbs
import TemplateBundler.Proofs.Outcomes
import TemplateBundler.Proofs.Termination
import TemplateBundler.Proofs.KeyPathTexts
import TemplateBundler.Proofs.Delimiters
import TemplateBundler.Proofs.Splitting
import TemplateBundler.Proofs.Reachability
import TemplateBundler.Proofs.Insertion
import TemplateBundler.Proofs.Raising
import TemplateBundler.Proofs.Commuting
import TemplateBundler.Proofs.ScanOrder
import TemplateBundler.Proofs.SourceComments
import TemplateBundler.Proofs.Prefixes
import TemplateBundler.Proofs.Additions
import TemplateBundler.Proofs.FaultPaths
import TemplateBundler.Proofs.Bystanders
import TemplateBundler.Proofs.Reading
import TemplateBundler.Proofs.Quoting
import TemplateBundler.Proofs.Lexis
import TemplateBundler.Proofs.Refusals
import TemplateBundler.Proofs.EditDistance
import TemplateBundler.Proofs.Suggestions
import TemplateBundler.Proofs.NormalForm
import TemplateBundler.Proofs.Overrides
import TemplateBundler.Proofs.Iterator
import TemplateBundler.Proofs.Listing
import TemplateBundler.Proofs.Rendering
