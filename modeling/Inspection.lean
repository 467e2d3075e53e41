import Inspection.Adapter
import Inspection.Adapter.Command
import Inspection.Adapter.Envelope
import Inspection.Adapter.Message
import Inspection.Adapter.Request
import Inspection.Adapter.Shape
import Inspection.Children.Arena
import Inspection.Children.Enumeration
import Inspection.Children.Handle
import Inspection.Children.Kind
import Inspection.Children.Reference
import Inspection.Children.Window
import Inspection.Classification
import Inspection.CommandLine
import Inspection.CommandLine.Arguments
import Inspection.CommandLine.Usage
import Inspection.Configuration
import Inspection.Configuration.Reader
import Inspection.Console
import Inspection.Descriptor
import Inspection.Descriptor.Json
import Inspection.Files
import Inspection.Files.Tree
import Inspection.Formatter
import Inspection.Formatter.Budget
import Inspection.Formatter.Capabilities
import Inspection.Formatter.Declaration
import Inspection.Formatter.DeclarationReader
import Inspection.Formatter.Error
import Inspection.Formatter.Invocation
import Inspection.Formatter.Ledger
import Inspection.Formatter.Native
import Inspection.Formatter.Registry
import Inspection.Json
import Inspection.Json.Lexer
import Inspection.Json.Parser
import Inspection.Json.Printer
import Inspection.Json.Readable
import Inspection.Json.Reader
import Inspection.Location
import Inspection.Main
import Inspection.Path
import Inspection.Proofs.Adapter.Conversation
import Inspection.Proofs.Adapter.Lockstep
import Inspection.Proofs.Adapter.Presentation
import Inspection.Proofs.Adapter.Responses
import Inspection.Proofs.Children.Arena
import Inspection.Proofs.Children.Calls
import Inspection.Proofs.Children.Count
import Inspection.Proofs.Children.Coverage
import Inspection.Proofs.Children.Demand
import Inspection.Proofs.Children.Enumeration
import Inspection.Proofs.Children.Failure
import Inspection.Proofs.Children.Generation
import Inspection.Proofs.Children.Handle
import Inspection.Proofs.Children.History
import Inspection.Proofs.Children.Packing
import Inspection.Proofs.Children.Paging
import Inspection.Proofs.Children.Reference
import Inspection.Proofs.Children.Repetition
import Inspection.Proofs.Children.Resemblance
import Inspection.Proofs.Children.Run
import Inspection.Proofs.Children.Supply
import Inspection.Proofs.Children.Tracking
import Inspection.Proofs.Children.Transparency
import Inspection.Proofs.Children.Trust
import Inspection.Proofs.Children.Window
import Inspection.Proofs.Configuration
import Inspection.Proofs.Console
import Inspection.Proofs.Descriptor
import Inspection.Proofs.Formatter.Counters
import Inspection.Proofs.Formatter.Demand
import Inspection.Proofs.Formatter.Difference
import Inspection.Proofs.Formatter.Edits
import Inspection.Proofs.Formatter.Ledger
import Inspection.Proofs.Formatter.Priority
import Inspection.Proofs.Formatter.Purity
import Inspection.Proofs.Formatter.Registry
import Inspection.Proofs.Formatter.Steady
import Inspection.Proofs.Path.Grammar
import Inspection.Proofs.Path.Letters
import Inspection.Proofs.Path.Scan
import Inspection.Proofs.Recording.Answers
import Inspection.Proofs.Recording.Index
import Inspection.Proofs.Replay
import Inspection.Proofs.Session.Accounting
import Inspection.Proofs.Session.Alike
import Inspection.Proofs.Session.Attested
import Inspection.Proofs.Session.Beside
import Inspection.Proofs.Session.Boundary
import Inspection.Proofs.Session.Classification
import Inspection.Proofs.Session.Deletion
import Inspection.Proofs.Session.Demand
import Inspection.Proofs.Session.Expression
import Inspection.Proofs.Session.Failure
import Inspection.Proofs.Session.Faithful
import Inspection.Proofs.Session.Fitting
import Inspection.Proofs.Session.Grants
import Inspection.Proofs.Session.Handles
import Inspection.Proofs.Session.Isolation
import Inspection.Proofs.Session.Leads
import Inspection.Proofs.Session.Listing
import Inspection.Proofs.Session.Locality
import Inspection.Proofs.Session.Members
import Inspection.Proofs.Session.NamedCount
import Inspection.Proofs.Session.Positions
import Inspection.Proofs.Session.Program
import Inspection.Proofs.Session.Provider
import Inspection.Proofs.Session.Repetition
import Inspection.Proofs.Session.Tracking
import Inspection.Proofs.Session.Visit
import Inspection.Proofs.Text
import Inspection.Recording
import Inspection.Recording.Reader
import Inspection.Recording.Writer
import Inspection.Regex
import Inspection.Regex.Assembly
import Inspection.Regex.Automaton
import Inspection.Regex.Bracket
import Inspection.Regex.Compilation
import Inspection.Regex.Escape
import Inspection.Regex.Expression
import Inspection.Regex.Footprint
import Inspection.Regex.Parser
import Inspection.Regex.Program
import Inspection.Regex.SharedStates
import Inspection.Regex.WordStates
import Inspection.Replay
import Inspection.Report
import Inspection.Session
import Inspection.Text.Age
import Inspection.Text.Blank
import Inspection.Text.CaseFold
import Inspection.Text.Category
import Inspection.Text.CharSet
import Inspection.Text.Decimal
import Inspection.Text.Letter
import Inspection.Text.Property
import Inspection.Text.PropertyName
import Inspection.Text.Scientific
import Inspection.Text.Script
import Inspection.Text.Segmentation
import Inspection.Text.Substitution
import Inspection.Text.Utf8
import Inspection.Toml
import Inspection.Toml.Document
import Inspection.Toml.Draft
import Inspection.Toml.Moment
import Inspection.Toml.Number
import Inspection.Toml.Quoted
import Inspection.Toml.Reader
import Inspection.Toml.Record
import Inspection.Value
import Inspection.Value.Json
