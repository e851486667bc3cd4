import Marginalia.Text.Blank
import Marginalia.Text.Lines
import Marginalia.Text.Lowercase
import Marginalia.Text.Quoted
import Marginalia.Text.Utf8
import Marginalia.Comment.Line
import Marginalia.Comment.Catalog
import Marginalia.Decimal.Shortest
import Marginalia.Json.Writer
import Marginalia.Json.Reader
import Marginalia.Marker.Payload
import Marginalia.Scan
import Marginalia.Report
import Marginalia.Files.Glob
import Marginalia.Files.System
import Marginalia.Files.AtomicWrite
import Marginalia.Toml.Reader
import Marginalia.Project
import Marginalia.Discovery
import Marginalia.Batch
import Marginalia.Lint
import Marginalia.Console
import Marginalia.CommandLine.Common
import Marginalia.CommandLine.Extract
import Marginalia.CommandLine.Lint
import Marginalia.Display.Console
import Marginalia.CommandLine.Number
import Marginalia.CommandLine.Options
import Marginalia.CommandLine.Reading
import Marginalia.CommandLine.Run
import Marginalia.Main
import Marginalia.Proofs.Text.Trim
import Marginalia.Proofs.Text.Lines
import Marginalia.Proofs.Text.Encodable
import Marginalia.Proofs.Text.Pieces
import Marginalia.Proofs.Text.Spans
import Marginalia.Proofs.Text.SpanEnds
import Marginalia.Proofs.Text.Segments
import Marginalia.Proofs.Assoc
import Marginalia.Proofs.Traverse
import Marginalia.Proofs.StableSort
import Marginalia.Proofs.Decimal.Nearest
import Marginalia.Proofs.Json.Numeral
import Marginalia.Proofs.Json.Strings
import Marginalia.Proofs.Json.Written
import Marginalia.Proofs.Json.RoundTrip
import Marginalia.Proofs.Json.Decoded
import Marginalia.Proofs.Comment.Lines
import Marginalia.Proofs.Comment.Lexer
import Marginalia.Proofs.Comment.Code
import Marginalia.Proofs.Binding.Run
import Marginalia.Proofs.Binding.Recast
import Marginalia.Proofs.Binding.Targets
import Marginalia.Proofs.Binding.KeyStack
import Marginalia.Proofs.Binding.Accounting
import Marginalia.Proofs.Binding.Placement
import Marginalia.Proofs.Binding.Cut
import Marginalia.Proofs.Binding.Faults
import Marginalia.Proofs.Binding.Texts
import Marginalia.Proofs.Marker.Grammar
import Marginalia.Proofs.Marker.Slices
import Marginalia.Proofs.Marker.TagLists
import Marginalia.Proofs.Marker.Written
import Marginalia.Proofs.Marker.Payload
import Marginalia.Proofs.Marker.Decoded
import Marginalia.Proofs.Marker.Problems
import Marginalia.Proofs.Scan.Events
import Marginalia.Proofs.Scan.Order
import Marginalia.Proofs.Scan.Outline
import Marginalia.Proofs.Scan.InlineScope
import Marginalia.Proofs.Scan.DataModel
import Marginalia.Proofs.Scan.Cut
import Marginalia.Proofs.Scan.EmptyLine
import Marginalia.Proofs.Scan.RoundTrip
import Marginalia.Proofs.Scan.Properties
import Marginalia.Proofs.Json.Grammar
import Marginalia.Proofs.Json.Escapes
import Marginalia.Proofs.Json.Parsed
import Marginalia.Proofs.Json.Scalars
import Marginalia.Proofs.Json.Guard
import Marginalia.Proofs.Json.Encodable
import Marginalia.Proofs.Json.Halves
import Marginalia.Proofs.Marker.Block
import Marginalia.Proofs.Marker.Halves
import Marginalia.Proofs.Marker.Tokens
import Marginalia.Proofs.Marker.TagSets
import Marginalia.Proofs.Batch.Pool
import Marginalia.Proofs.Batch.Schedules
import Marginalia.Proofs.Settings.Schema
import Marginalia.Proofs.Utf8.Characters
import Marginalia.Proofs.Utf8.Decoding
import Marginalia.Proofs.Scan.Bytes
import Marginalia.Proofs.Scan.Terminators
import Marginalia.Proofs.Scan.Sorted
import Marginalia.Proofs.Scan.Messages
import Marginalia.Proofs.Batch.Export
import Marginalia.Proofs.Display.Tags
import Marginalia.Proofs.Display.Escaping
import Marginalia.Proofs.Lint.Lines
import Marginalia.Proofs.Lint.Gate
import Marginalia.Proofs.CommandLine.Errors
import Marginalia.Proofs.Scan.Unrecognized
import Marginalia.Proofs.Comment.Rows
import Marginalia.Proofs.Comment.Walk
import Marginalia.Proofs.Project.Nearest
import Marginalia.Proofs.Files.Order
import Marginalia.Proofs.Files.Search
import Marginalia.Proofs.Files.Selected
import Marginalia.Proofs.Files.Spelling
import Marginalia.Proofs.Files.Resolved
import Marginalia.Proofs.Files.Changes
import Marginalia.Proofs.Files.AtomicWrite
import Marginalia.Proofs.Scan.Malformed
import Marginalia.Proofs.Batch.Languages
