import Casebook.Calendar
import Casebook.Case.Basic
import Casebook.Case.Discover
import Casebook.Case.Load
import Casebook.Case.Parser
import Casebook.Case.Run
import Casebook.Case.Schema
import Casebook.Case.Summary
import Casebook.Checker.Frontend
import Casebook.Checker.Options
import Casebook.Checker.Script
import Casebook.Checker.Session
import Casebook.Command.Arguments
import Casebook.Command.Dispatch
import Casebook.Command.Project
import Casebook.Command.Run
import Casebook.Command.Settings
import Casebook.Command.Shell
import Casebook.Command.Snippet
import Casebook.Config.Basic
import Casebook.Config.Load
import Casebook.Console.Highlight
import Casebook.Console.Literal.Escape
import Casebook.Console.Literal.Expression
import Casebook.Console.Literal.Fault
import Casebook.Console.Literal.Formatted
import Casebook.Console.Literal.Grammar
import Casebook.Console.Literal.Numeral
import Casebook.Console.Literal.Reading
import Casebook.Console.Literal.Word
import Casebook.Console.Markup
import Casebook.Console.Panel
import Casebook.Console.Style
import Casebook.Console.Styled
import Casebook.Console.Wrap
import Casebook.Depth
import Casebook.Diagnostic.Basic
import Casebook.Diagnostic.Message
import Casebook.Diagnostic.Schema
import Casebook.Digest
import Casebook.Disk.Below
import Casebook.Disk.Change
import Casebook.Disk.Difference
import Casebook.Disk.Fault
import Casebook.Disk.Path
import Casebook.Disk.Real
import Casebook.Disk.Tree
import Casebook.Disk.Walk
import Casebook.Fault
import Casebook.Json.Reader
import Casebook.Json.Writer
import Casebook.Main
import Casebook.Mount.Name
import Casebook.Mount.View
import Casebook.Number.Binary64
import Casebook.Number.Shortest
import Casebook.Proofs.Case.Discover
import Casebook.Proofs.Case.Document
import Casebook.Proofs.Case.Effect
import Casebook.Proofs.Case.Entered
import Casebook.Proofs.Case.Files
import Casebook.Proofs.Case.Forked
import Casebook.Proofs.Case.Mismatch
import Casebook.Proofs.Case.Order
import Casebook.Proofs.Case.Output
import Casebook.Proofs.Case.Together
import Casebook.Proofs.Case.Verdicts
import Casebook.Proofs.Case.Verified
import Casebook.Proofs.CaseFile.Admissible
import Casebook.Proofs.CaseFile.Exact
import Casebook.Proofs.CaseFile.Header
import Casebook.Proofs.CaseFile.Outline
import Casebook.Proofs.CaseFile.Reading
import Casebook.Proofs.CaseFile.Refusal
import Casebook.Proofs.CaseFile.Repeats
import Casebook.Proofs.Checker.Batches
import Casebook.Proofs.Checker.Observing
import Casebook.Proofs.Command.Compile
import Casebook.Proofs.Command.Gate
import Casebook.Proofs.Command.Run
import Casebook.Proofs.Command.Summary
import Casebook.Proofs.Config.Resolved
import Casebook.Proofs.Config.Version
import Casebook.Proofs.Console.Markup
import Casebook.Proofs.Console.Panel
import Casebook.Proofs.Console.Wrap
import Casebook.Proofs.Diagnostic.Cut
import Casebook.Proofs.Diagnostic.Kinds
import Casebook.Proofs.Diagnostic.Located
import Casebook.Proofs.Diagnostic.Rendered
import Casebook.Proofs.Disk.Below
import Casebook.Proofs.Disk.Following
import Casebook.Proofs.Disk.Normal
import Casebook.Proofs.Disk.Order
import Casebook.Proofs.Mount.Bytes
import Casebook.Proofs.Mount.Folder
import Casebook.Proofs.Mount.Hermetic
import Casebook.Proofs.Mount.Look
import Casebook.Proofs.Mount.Name
import Casebook.Proofs.Mount.Observing
import Casebook.Proofs.Mount.Spelling
import Casebook.Proofs.Mount.Tree
import Casebook.Proofs.Number.Decimal
import Casebook.Proofs.Outcome
import Casebook.Proofs.Sequence.Matching
import Casebook.Proofs.Sequence.Patch
import Casebook.Proofs.Sequence.PatchText
import Casebook.Proofs.Sequence.Segment
import Casebook.Proofs.Snapshot.Check
import Casebook.Proofs.Snapshot.History
import Casebook.Proofs.Snapshot.Saving
import Casebook.Proofs.Stub.Answers
import Casebook.Proofs.Stub.Basic
import Casebook.Proofs.Stub.Configured
import Casebook.Proofs.Stub.Family
import Casebook.Proofs.Stub.Folders
import Casebook.Proofs.Stub.History
import Casebook.Proofs.Stub.Invariant
import Casebook.Proofs.Stub.Names
import Casebook.Proofs.Stub.Overlay
import Casebook.Proofs.Text.Lines
import Casebook.Proofs.Text.Order
import Casebook.Proofs.Text.Split
import Casebook.Proofs.Text.Stream
import Casebook.Proofs.Text.Utf8
import Casebook.Proofs.Text.Width
import Casebook.Proofs.Yaml.Block
import Casebook.Proofs.Yaml.Building
import Casebook.Proofs.Yaml.Layout
import Casebook.Proofs.Yaml.Making
import Casebook.Proofs.Yaml.Printing
import Casebook.Proofs.Yaml.Source
import Casebook.Report
import Casebook.Schema.Basic
import Casebook.Sequence.Matching
import Casebook.Sequence.Patch
import Casebook.Sequence.Similar
import Casebook.Snapshot.Store
import Casebook.Stub.Contents
import Casebook.Stub.Index
import Casebook.Stub.Provider
import Casebook.Table
import Casebook.Text.Affix
import Casebook.Text.Base64
import Casebook.Text.Blank
import Casebook.Text.Digit
import Casebook.Text.HalfRun
import Casebook.Text.Hex
import Casebook.Text.Identifier
import Casebook.Text.Lines
import Casebook.Text.Lower
import Casebook.Text.Name
import Casebook.Text.Point
import Casebook.Text.Printable
import Casebook.Text.Quoted
import Casebook.Text.Range
import Casebook.Text.Shape
import Casebook.Text.Stream
import Casebook.Text.Utf8
import Casebook.Text.Width
import Casebook.Value.Basic
import Casebook.Value.Display
import Casebook.Value.SetOrder
import Casebook.Yaml.Content
import Casebook.Yaml.Cursor
import Casebook.Yaml.Document
import Casebook.Yaml.Fault
import Casebook.Yaml.Merge
import Casebook.Yaml.Node
import Casebook.Yaml.Object
import Casebook.Yaml.Printer
import Casebook.Yaml.Refusal
import Casebook.Yaml.Scalar
import Casebook.Yaml.Source
import Casebook.Yaml.Style
import Casebook.Yaml.Tag
import Casebook.Yaml.Token
