import Restyle.CharSet.Age
import Restyle.CharSet.Basic
import Restyle.CharSet.Break
import Restyle.CharSet.Case
import Restyle.CharSet.Category
import Restyle.CharSet.Class
import Restyle.CharSet.Name
import Restyle.CharSet.Property
import Restyle.CharSet.Script
import Restyle.CommandLine.Arguments
import Restyle.CommandLine.Program
import Restyle.Conversion.Discovery
import Restyle.Conversion.File
import Restyle.Conversion.Result
import Restyle.Conversion.Run
import Restyle.FileTree.Arrange
import Restyle.FileTree.Basic
import Restyle.FileTree.Operations
import Restyle.FileTree.Resolve
import Restyle.Main
import Restyle.Path.Basic
import Restyle.Path.Source
import Restyle.Pattern.Anchor
import Restyle.Pattern.Basic
import Restyle.Pattern.Bracket
import Restyle.Pattern.Course
import Restyle.Pattern.Escape
import Restyle.Pattern.Flags
import Restyle.Pattern.Segment
import Restyle.Pattern.Shape
import Restyle.Pattern.Sweep
import Restyle.Pattern.Template
import Restyle.Pattern.Weight
import Restyle.Proofs.Conversion.Batch
import Restyle.Proofs.Conversion.Converted
import Restyle.Proofs.Conversion.Discovery
import Restyle.Proofs.Conversion.Locality
import Restyle.Proofs.Conversion.Originals
import Restyle.Proofs.Conversion.Outcome
import Restyle.Proofs.Conversion.Rediscovery
import Restyle.Proofs.Conversion.SecondRun
import Restyle.Proofs.Conversion.Sections
import Restyle.Proofs.Conversion.Settled
import Restyle.Proofs.Conversion.Sources
import Restyle.Proofs.Conversion.Treatment
import Restyle.Proofs.Conversion.Unmarked
import Restyle.Proofs.Conversion.Watched
import Restyle.Proofs.Conversion.Writing
import Restyle.Proofs.FileTree.Address
import Restyle.Proofs.FileTree.Entries
import Restyle.Proofs.FileTree.Frame
import Restyle.Proofs.FileTree.Growth
import Restyle.Proofs.FileTree.Links
import Restyle.Proofs.FileTree.Route
import Restyle.Proofs.FileTree.Sound
import Restyle.Proofs.Path.Backup
import Restyle.Proofs.Path.Descent
import Restyle.Proofs.Path.Pieces
import Restyle.Proofs.Path.Sibling
import Restyle.Proofs.Path.Skipped
import Restyle.Proofs.Pattern.Cuts
import Restyle.Proofs.Pattern.Leads
import Restyle.Proofs.Pattern.Partition
import Restyle.Proofs.Pattern.Spelling
import Restyle.Proofs.Pattern.Way
import Restyle.Proofs.Report.Records
import Restyle.Proofs.Rule.Attributes
import Restyle.Proofs.Rule.Convergence
import Restyle.Proofs.Rule.Document
import Restyle.Proofs.Rule.Form
import Restyle.Proofs.Rule.Hits
import Restyle.Proofs.Rule.Import
import Restyle.Proofs.Rule.Layout
import Restyle.Proofs.Rule.Leftovers
import Restyle.Proofs.Rule.Lines
import Restyle.Proofs.Rule.Load
import Restyle.Proofs.Rule.LongName
import Restyle.Proofs.Rule.Markup
import Restyle.Proofs.Rule.OtherTag
import Restyle.Proofs.Rule.Piece
import Restyle.Proofs.Rule.Piecewise
import Restyle.Proofs.Rule.Reading
import Restyle.Proofs.Rule.Report
import Restyle.Proofs.Rule.Rewrite
import Restyle.Proofs.Rule.SecondConversion
import Restyle.Proofs.Rule.Statement
import Restyle.Proofs.Rule.Structure
import Restyle.Proofs.Rule.Turn
import Restyle.Proofs.Rule.WholeLine
import Restyle.Proofs.Text.Lossy
import Restyle.Report.Console
import Restyle.Report.Observer
import Restyle.Report.Style
import Restyle.Report.Summary
import Restyle.Report.Table
import Restyle.Rule.Basic
import Restyle.Rule.Table
import Restyle.Text.Blank
import Restyle.Text.CaseFold
import Restyle.Text.CaseShift
import Restyle.Text.CharWidth
import Restyle.Text.Emoji
import Restyle.Text.Letter
import Restyle.Text.Lossy
import Restyle.Text.Lowercase
import Restyle.Text.Ranges
import Restyle.Text.Width
