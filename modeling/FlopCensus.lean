import FlopCensus.Command.Call
import FlopCensus.Command.Execute
import FlopCensus.Command.Executor
import FlopCensus.Command.Lookup
import FlopCensus.CommandLine.Grammar
import FlopCensus.CommandLine.Level
import FlopCensus.CommandLine.Options
import FlopCensus.CommandLine.Run
import FlopCensus.Design.Analysis
import FlopCensus.Design.Blocks
import FlopCensus.Design.Extraction
import FlopCensus.Design.Width
import FlopCensus.Diagnostic
import FlopCensus.Digest.MD5
import FlopCensus.Dump.Assembly
import FlopCensus.Dump.Document
import FlopCensus.Dump.Entry
import FlopCensus.Files.Basic
import FlopCensus.Files.Discovery
import FlopCensus.Files.Document
import FlopCensus.Files.Edit
import FlopCensus.Files.Path
import FlopCensus.Host
import FlopCensus.Inventory.Basic
import FlopCensus.Inventory.Shared
import FlopCensus.Json.Reader
import FlopCensus.Json.Value
import FlopCensus.Json.Writer
import FlopCensus.Log
import FlopCensus.Main
import FlopCensus.Numeral.Integer
import FlopCensus.Numeral.Number
import FlopCensus.Numeral.Real
import FlopCensus.Proofs.CommandLine.Run
import FlopCensus.Proofs.Design.Classification
import FlopCensus.Proofs.Design.Declaration
import FlopCensus.Proofs.Design.LineNumber
import FlopCensus.Proofs.Design.Locality
import FlopCensus.Proofs.Design.Recovery
import FlopCensus.Proofs.Design.Renaming
import FlopCensus.Proofs.Design.Width
import FlopCensus.Proofs.Diagnostic
import FlopCensus.Proofs.Dump.LastTree
import FlopCensus.Proofs.Dump.LineEnd
import FlopCensus.Proofs.Dump.Parts
import FlopCensus.Proofs.Dump.Printing
import FlopCensus.Proofs.Dump.Shape
import FlopCensus.Proofs.Files.Discovery
import FlopCensus.Proofs.Report.Csv
import FlopCensus.Proofs.Report.Html.Contents
import FlopCensus.Proofs.Report.Json
import FlopCensus.Proofs.Report.Markdown
import FlopCensus.Proofs.Settings.Loading
import FlopCensus.Proofs.Slang.Agreement
import FlopCensus.Proofs.Slang.Dimensions
import FlopCensus.Proofs.Slang.TokenText
import FlopCensus.Proofs.Slang.Translation
import FlopCensus.Proofs.Store.Recency
import FlopCensus.Proofs.Store.Sections
import FlopCensus.Proofs.Store.Soundness
import FlopCensus.Proofs.Survey.Staleness
import FlopCensus.Proofs.Survey.Workers
import FlopCensus.Proofs.Tree.Occurrence
import FlopCensus.Proofs.Tree.Traversal
import FlopCensus.Proofs.Verible
import FlopCensus.Registry
import FlopCensus.Report.Csv
import FlopCensus.Report.Format
import FlopCensus.Report.Html
import FlopCensus.Report.Json
import FlopCensus.Report.Markdown
import FlopCensus.Report.Table
import FlopCensus.Session
import FlopCensus.Settings
import FlopCensus.Shell.Arithmetic
import FlopCensus.Shell.Builtin
import FlopCensus.Shell.Condition
import FlopCensus.Shell.Editor.Basic
import FlopCensus.Shell.Editor.Reader
import FlopCensus.Shell.Editor.Run
import FlopCensus.Shell.Expansion
import FlopCensus.Shell.Installation
import FlopCensus.Shell.Machine
import FlopCensus.Shell.Parser
import FlopCensus.Shell.Printf
import FlopCensus.Shell.Program
import FlopCensus.Shell.Program.Basic
import FlopCensus.Shell.Program.Calculation
import FlopCensus.Shell.Program.Directory
import FlopCensus.Shell.Program.Edit
import FlopCensus.Shell.Program.Excerpt
import FlopCensus.Shell.Program.Fields
import FlopCensus.Shell.Program.Layout
import FlopCensus.Shell.Program.Options
import FlopCensus.Shell.Program.Order
import FlopCensus.Shell.Program.Search
import FlopCensus.Shell.Program.Sequence
import FlopCensus.Shell.Program.Translation
import FlopCensus.Shell.Program.Word
import FlopCensus.Shell.Redirection
import FlopCensus.Shell.Run
import FlopCensus.Shell.Signal
import FlopCensus.Shell.Syntax
import FlopCensus.Slang.Basic
import FlopCensus.Slang.Printer
import FlopCensus.Slang.Source
import FlopCensus.Store.Cache
import FlopCensus.Store.Fingerprint
import FlopCensus.Store.Key
import FlopCensus.Survey.Batch
import FlopCensus.Survey.File
import FlopCensus.Survey.Source
import FlopCensus.Text.Base64
import FlopCensus.Text.Blank
import FlopCensus.Text.Case
import FlopCensus.Text.Cased
import FlopCensus.Text.CharClass
import FlopCensus.Text.Digit
import FlopCensus.Text.Glob
import FlopCensus.Text.Lines
import FlopCensus.Text.Octets
import FlopCensus.Text.Portions
import FlopCensus.Text.Printable
import FlopCensus.Text.Quoted
import FlopCensus.Text.Ranges
import FlopCensus.Text.Regular
import FlopCensus.Text.Regular.Reader
import FlopCensus.Text.Search
import FlopCensus.Text.Surrogate
import FlopCensus.Text.Utf8
import FlopCensus.Text.Word
import FlopCensus.Tool.Output
import FlopCensus.Tree.Basic
import FlopCensus.Verible
import FlopCensus.Yaml.Calendar
import FlopCensus.Yaml.Cursor
import FlopCensus.Yaml.Document
import FlopCensus.Yaml.Graph
import FlopCensus.Yaml.Property
import FlopCensus.Yaml.Scalar
import FlopCensus.Yaml.ScalarText
import FlopCensus.Yaml.Tag
import FlopCensus.Yaml.Token
