import Stepwise.Config
import Stepwise.Decimal.Binary64
import Stepwise.Decimal.Shortest
import Stepwise.Event
import Stepwise.Failure
import Stepwise.Feature.Basic
import Stepwise.Feature.Document
import Stepwise.Feature.Load
import Stepwise.Feature.Tags
import Stepwise.Files.Path
import Stepwise.Files.Pattern
import Stepwise.Files.Search
import Stepwise.Files.Tree
import Stepwise.Json.Basic
import Stepwise.Json.Printer
import Stepwise.Json.Reader
import Stepwise.Proofs.Additions
import Stepwise.Proofs.Attempts
import Stepwise.Proofs.Audience
import Stepwise.Proofs.Cancellation
import Stepwise.Proofs.Course
import Stepwise.Proofs.Explained
import Stepwise.Proofs.Halt
import Stepwise.Proofs.LastWord
import Stepwise.Proofs.Leaves
import Stepwise.Proofs.Likeness
import Stepwise.Proofs.Limits
import Stepwise.Proofs.Loaded
import Stepwise.Proofs.Loading
import Stepwise.Proofs.Marks
import Stepwise.Proofs.Outcomes
import Stepwise.Proofs.PathOrder
import Stepwise.Proofs.Pieces
import Stepwise.Proofs.Placeholders
import Stepwise.Proofs.Precedence
import Stepwise.Proofs.Reading
import Stepwise.Proofs.Records
import Stepwise.Proofs.Retries
import Stepwise.Proofs.RoundTrip
import Stepwise.Proofs.Settled
import Stepwise.Proofs.Shape
import Stepwise.Proofs.Tallies
import Stepwise.Proofs.Thread
import Stepwise.Proofs.Trace
import Stepwise.Proofs.Truncation
import Stepwise.Proofs.Twins
import Stepwise.Proofs.Verdict
import Stepwise.Proofs.Waiting
import Stepwise.Proofs.Written
import Stepwise.Regex.Ast
import Stepwise.Regex.Expr
import Stepwise.Regex.Flags
import Stepwise.Regex.Program
import Stepwise.Regex.Reader
import Stepwise.Regex.Search
import Stepwise.Regex.Size
import Stepwise.Run.Groups
import Stepwise.Run.Handling
import Stepwise.Run.Log
import Stepwise.Run.Registry
import Stepwise.Run.Reporter
import Stepwise.Run.Result
import Stepwise.Run.Summary
import Stepwise.Run.World
import Stepwise.Runner
import Stepwise.Status
import Stepwise.Store
import Stepwise.Template
import Stepwise.Text.Blank
import Stepwise.Text.Quoted
import Stepwise.Unicode.Age
import Stepwise.Unicode.Break
import Stepwise.Unicode.CaseFold
import Stepwise.Unicode.Category
import Stepwise.Unicode.CharSet
import Stepwise.Unicode.ClassRule
import Stepwise.Unicode.Property
import Stepwise.Unicode.Query
import Stepwise.Unicode.Recent
import Stepwise.Unicode.Script
import Stepwise.Value
import Stepwise.Yaml.Cursor
import Stepwise.Yaml.Decode
import Stepwise.Yaml.Encode
import Stepwise.Yaml.Event
import Stepwise.Yaml.Node
import Stepwise.Yaml.Scalar
import Stepwise.Yaml.Tag
import Stepwise.Yaml.Token
import Stepwise.Yaml.Token.Name
import Stepwise.Yaml.Token.Scalar
import Stepwise.Yaml.Token.Stream
