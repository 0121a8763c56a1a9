import Folio.Body.Basic
import Folio.Body.Line
import Folio.Body.Opening
import Folio.Body.Piece
import Folio.Body.Table
import Folio.Command.Basic
import Folio.Command.Display
import Folio.Command.Job
import Folio.Command.Run
import Folio.Command.Words
import Folio.Document.Basic
import Folio.Document.Edit
import Folio.Document.Header
import Folio.Document.Lookup
import Folio.Document.Outline
import Folio.File.Basic
import Folio.File.Load
import Folio.File.Tree
import Folio.Graph.Basic
import Folio.Graph.Cycle
import Folio.Graph.Health
import Folio.Graph.Links
import Folio.Graph.Query
import Folio.Graph.Sweep
import Folio.Json.Tree
import Folio.Main
import Folio.Number.Binary64
import Folio.Number.Layout
import Folio.Number.Read
import Folio.Path.Basic
import Folio.Pattern.Error
import Folio.Pattern.Match
import Folio.Pattern.Read
import Folio.Pattern.Reader
import Folio.Pattern.Regex
import Folio.Proofs.Body.Below
import Folio.Proofs.Body.Blocks
import Folio.Proofs.Body.Cells
import Folio.Proofs.Body.Columns
import Folio.Proofs.Body.Cover
import Folio.Proofs.Body.Draft
import Folio.Proofs.Body.Fenced
import Folio.Proofs.Body.Fences
import Folio.Proofs.Body.HeadingPath
import Folio.Proofs.Body.HeadingTree
import Folio.Proofs.Body.Headings
import Folio.Proofs.Body.Layout
import Folio.Proofs.Body.Links
import Folio.Proofs.Body.Moved
import Folio.Proofs.Body.Nesting
import Folio.Proofs.Body.Owners
import Folio.Proofs.Body.Rows
import Folio.Proofs.Command.Display
import Folio.Proofs.Command.Result
import Folio.Proofs.Command.Run
import Folio.Proofs.Document.Basic
import Folio.Proofs.Document.Content
import Folio.Proofs.Document.Field
import Folio.Proofs.Document.Frame
import Folio.Proofs.Document.Lookup
import Folio.Proofs.Document.Outline
import Folio.Proofs.Document.Parse
import Folio.Proofs.Document.Removal
import Folio.Proofs.Document.Splice
import Folio.Proofs.Document.Split
import Folio.Proofs.Graph.Components
import Folio.Proofs.Graph.Cycle
import Folio.Proofs.Graph.Ends
import Folio.Proofs.Graph.Inverses
import Folio.Proofs.Graph.Lookup
import Folio.Proofs.Graph.Nodes
import Folio.Proofs.Graph.Order
import Folio.Proofs.Graph.Spelling
import Folio.Proofs.Graph.Sweep
import Folio.Proofs.Graph.Transitive
import Folio.Proofs.Graph.Walk
import Folio.Proofs.Number.Decimal
import Folio.Proofs.Number.Digits
import Folio.Proofs.Outcome
import Folio.Proofs.Path.Directory
import Folio.Proofs.Path.Normal
import Folio.Proofs.Pattern.Runs
import Folio.Proofs.Reference.Resolve
import Folio.Proofs.Reference.WorkingSet
import Folio.Proofs.Schema.Declared
import Folio.Proofs.Schema.Faults
import Folio.Proofs.Schema.Folders
import Folio.Proofs.Schema.LineCount
import Folio.Proofs.Schema.Lines
import Folio.Proofs.Schema.Places
import Folio.Proofs.Schema.RelationFields
import Folio.Proofs.Schema.Relations
import Folio.Proofs.Schema.RoundTrip
import Folio.Proofs.Schema.Scanning
import Folio.Proofs.Schema.Sections
import Folio.Proofs.Schema.Settled
import Folio.Proofs.Schema.Sound
import Folio.Proofs.Schema.Tried
import Folio.Proofs.Schema.Types
import Folio.Proofs.Schema.Written
import Folio.Proofs.Text.Joined
import Folio.Proofs.Text.Lines
import Folio.Proofs.Text.Trim
import Folio.Proofs.Text.Utf8
import Folio.Proofs.User.Config
import Folio.Proofs.User.Forms
import Folio.Proofs.User.Membership
import Folio.Proofs.User.Mention
import Folio.Proofs.Validation.Counts
import Folio.Proofs.Validation.FieldRefs
import Folio.Proofs.Validation.Fields
import Folio.Proofs.Validation.Growth
import Folio.Proofs.Validation.Header
import Folio.Proofs.Validation.Items
import Folio.Proofs.Validation.Lookups
import Folio.Proofs.Validation.Report
import Folio.Proofs.Validation.Sections
import Folio.Proofs.Validation.Strict
import Folio.Proofs.Validation.Transfer
import Folio.Proofs.Validation.Users
import Folio.Proofs.Validation.Warnings
import Folio.Proofs.Yaml.Anchors
import Folio.Proofs.Yaml.Basic
import Folio.Proofs.Yaml.Build
import Folio.Proofs.Yaml.Compose
import Folio.Proofs.Yaml.Copies
import Folio.Proofs.Yaml.Cursor
import Folio.Proofs.Yaml.Deliver
import Folio.Proofs.Yaml.Escape
import Folio.Proofs.Yaml.Fetch
import Folio.Proofs.Yaml.Form
import Folio.Proofs.Yaml.Grammar
import Folio.Proofs.Yaml.Keys
import Folio.Proofs.Yaml.Label
import Folio.Proofs.Yaml.Layout
import Folio.Proofs.Yaml.Merge
import Folio.Proofs.Yaml.Misfit
import Folio.Proofs.Yaml.Nested
import Folio.Proofs.Yaml.Page
import Folio.Proofs.Yaml.Parts
import Folio.Proofs.Yaml.Path
import Folio.Proofs.Yaml.Plain
import Folio.Proofs.Yaml.Quoted
import Folio.Proofs.Yaml.Scan
import Folio.Proofs.Yaml.Tidy
import Folio.Proofs.Yaml.Tokens
import Folio.Proofs.Yaml.Written.Double
import Folio.Proofs.Yaml.Written.Line
import Folio.Proofs.Yaml.Written.Node
import Folio.Proofs.Yaml.Written.Plain
import Folio.Proofs.Yaml.Written.Scalar
import Folio.Proofs.Yaml.Written.Single
import Folio.Reference.Basic
import Folio.Reference.WorkingSet
import Folio.Schema.Basic
import Folio.Schema.Compile
import Folio.Schema.Error
import Folio.Schema.Kind
import Folio.Schema.Node
import Folio.Schema.Scan
import Folio.Schema.Token
import Folio.Text.Blank
import Folio.Text.Case
import Folio.Text.CaseTable
import Folio.Text.CharName
import Folio.Text.Digit
import Folio.Text.Identifier
import Folio.Text.Octets
import Folio.Text.Printable
import Folio.Text.Quoted
import Folio.Text.Search
import Folio.Text.Utf8
import Folio.Text.Word
import Folio.User.Basic
import Folio.User.Config
import Folio.Validation.Field
import Folio.Validation.Finding
import Folio.Validation.Render
import Folio.Validation.Report
import Folio.Validation.Section
import Folio.Yaml.Base64
import Folio.Yaml.Conversion
import Folio.Yaml.Cursor
import Folio.Yaml.Decode
import Folio.Yaml.Display
import Folio.Yaml.Error
import Folio.Yaml.Form
import Folio.Yaml.Node
import Folio.Yaml.Path
import Folio.Yaml.Render
import Folio.Yaml.SetTable
import Folio.Yaml.Style
import Folio.Yaml.Tag
import Folio.Yaml.Timestamp
import Folio.Yaml.Token.Basic
import Folio.Yaml.Token.Scalar
import Folio.Yaml.Token.Scan
import Folio.Yaml.Token.Tag
import Folio.Yaml.Value
