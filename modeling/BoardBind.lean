import BoardBind.Bindings
import BoardBind.Board
import BoardBind.Board.AssignmentTable
import BoardBind.Choice
import BoardBind.Command.Arguments
import BoardBind.Command.Check
import BoardBind.Command.Failure
import BoardBind.Command.Gen
import BoardBind.Command.Help
import BoardBind.Command.Manual
import BoardBind.Command.New
import BoardBind.Command.Program
import BoardBind.Command.Resolve
import BoardBind.Config
import BoardBind.Declarations
import BoardBind.Design
import BoardBind.Generate
import BoardBind.Graph
import BoardBind.Host.Disk
import BoardBind.Host.Path
import BoardBind.Host.Place
import BoardBind.Language
import BoardBind.Language.Identifier
import BoardBind.Main
import BoardBind.Note
import BoardBind.Port
import BoardBind.Proofs.Bindings.Line
import BoardBind.Proofs.Bindings.Rendered
import BoardBind.Proofs.Bindings.RoundTrip
import BoardBind.Proofs.Bindings.Steering
import BoardBind.Proofs.Board.Table
import BoardBind.Proofs.Board.Target
import BoardBind.Proofs.Command.Binding
import BoardBind.Proofs.Command.Fixpoint
import BoardBind.Proofs.Command.New
import BoardBind.Proofs.Command.Precedence
import BoardBind.Proofs.Command.Resolve
import BoardBind.Proofs.Command.Untouched
import BoardBind.Proofs.Command.Wrapper
import BoardBind.Proofs.Command.Written
import BoardBind.Proofs.Design.Cycle
import BoardBind.Proofs.Design.FileOrder
import BoardBind.Proofs.Design.Hierarchy
import BoardBind.Proofs.Design.Names
import BoardBind.Proofs.Design.Outcome
import BoardBind.Proofs.Design.Registry
import BoardBind.Proofs.Design.Resolution
import BoardBind.Proofs.Except
import BoardBind.Proofs.Graph.Adjacency
import BoardBind.Proofs.Graph.Edges
import BoardBind.Proofs.Graph.Path
import BoardBind.Proofs.Graph.Walk
import BoardBind.Proofs.Host.Disk
import BoardBind.Proofs.Host.Listing
import BoardBind.Proofs.Host.Path
import BoardBind.Proofs.Port.Bits
import BoardBind.Proofs.Selection.CarryOver
import BoardBind.Proofs.Selection.Direction
import BoardBind.Proofs.Selection.Expansion
import BoardBind.Proofs.Selection.Restore
import BoardBind.Proofs.Selection.Run
import BoardBind.Proofs.Source.Collected
import BoardBind.Proofs.Source.Names
import BoardBind.Proofs.Template.Builtin
import BoardBind.Proofs.Template.Carried
import BoardBind.Proofs.Template.Filling
import BoardBind.Proofs.Template.Layout
import BoardBind.Proofs.Template.Marker
import BoardBind.Proofs.Template.ReadBack
import BoardBind.Proofs.Template.Regeneration
import BoardBind.Proofs.Template.RoundTrip
import BoardBind.Proofs.Text.Encoding
import BoardBind.Proofs.Text.Lines
import BoardBind.Proofs.Text.Match
import BoardBind.Proofs.TreeDrawing
import BoardBind.Proofs.Verilog.Entry
import BoardBind.Proofs.Verilog.Isolation
import BoardBind.Proofs.Verilog.Listing
import BoardBind.Proofs.Vhdl.ClosingPattern
import BoardBind.Proofs.Vhdl.Concatenation
import BoardBind.Proofs.Vhdl.Construct
import BoardBind.Proofs.Vhdl.Declaration
import BoardBind.Proofs.Vhdl.Ending
import BoardBind.Proofs.Vhdl.Grammar
import BoardBind.Proofs.Vhdl.Header
import BoardBind.Proofs.Vhdl.Identifier
import BoardBind.Proofs.Vhdl.LetterCase
import BoardBind.Proofs.Vhdl.Scan
import BoardBind.Proofs.Vhdl.Source
import BoardBind.Proofs.Vhdl.SourceScan
import BoardBind.Proofs.Vhdl.Statement
import BoardBind.Proofs.Vhdl.Width
import BoardBind.Proofs.Vhdl.Word
import BoardBind.Proofs.Vhdl.WrapperScan
import BoardBind.Proofs.Wrapper.Block
import BoardBind.Proofs.Wrapper.Driver
import BoardBind.Proofs.Wrapper.Name
import BoardBind.Proofs.Wrapper.Statement
import BoardBind.Report
import BoardBind.Script.Arithmetic
import BoardBind.Script.Attribute
import BoardBind.Script.Awk
import BoardBind.Script.Awk.Machine
import BoardBind.Script.Awk.Reader
import BoardBind.Script.Awk.Run
import BoardBind.Script.Awk.Syntax
import BoardBind.Script.Awk.Text
import BoardBind.Script.Awk.Value
import BoardBind.Script.BlockCopy
import BoardBind.Script.Builtin
import BoardBind.Script.Bytes
import BoardBind.Script.Calculator
import BoardBind.Script.Calendar
import BoardBind.Script.Checksum
import BoardBind.Script.Columns
import BoardBind.Script.Command
import BoardBind.Script.Condition
import BoardBind.Script.Copy
import BoardBind.Script.Date
import BoardBind.Script.Decimal
import BoardBind.Script.Diff
import BoardBind.Script.Diff.Change
import BoardBind.Script.Diff.Report
import BoardBind.Script.Digest
import BoardBind.Script.Edit
import BoardBind.Script.Edit.Reader
import BoardBind.Script.Edit.Run
import BoardBind.Script.Expansion
import BoardBind.Script.Factors
import BoardBind.Script.FileTool
import BoardBind.Script.Files
import BoardBind.Script.Filter
import BoardBind.Script.Find
import BoardBind.Script.FindTest
import BoardBind.Script.Flow
import BoardBind.Script.Format
import BoardBind.Script.Install
import BoardBind.Script.Job
import BoardBind.Script.Join
import BoardBind.Script.Launch
import BoardBind.Script.Limit
import BoardBind.Script.Listing
import BoardBind.Script.Listing.Style
import BoardBind.Script.Lookup
import BoardBind.Script.Mode
import BoardBind.Script.Move
import BoardBind.Script.Names
import BoardBind.Script.Numbering
import BoardBind.Script.Options
import BoardBind.Script.Order
import BoardBind.Script.Paragraph
import BoardBind.Script.Pattern
import BoardBind.Script.Precedence
import BoardBind.Script.Process
import BoardBind.Script.Programs
import BoardBind.Script.Regex
import BoardBind.Script.Regex.OrderedReader
import BoardBind.Script.Regex.Reader
import BoardBind.Script.Relay
import BoardBind.Script.Removal
import BoardBind.Script.Repeats
import BoardBind.Script.Run
import BoardBind.Script.Scaled
import BoardBind.Script.Search
import BoardBind.Script.Search.Query
import BoardBind.Script.Sections
import BoardBind.Script.Shell
import BoardBind.Script.Signal
import BoardBind.Script.Split
import BoardBind.Script.Stat
import BoardBind.Script.Surroundings
import BoardBind.Script.Syntax
import BoardBind.Script.Tabs
import BoardBind.Script.Token
import BoardBind.Script.Transfer
import BoardBind.Script.Word
import BoardBind.Script.WrittenDate
import BoardBind.Selection
import BoardBind.Settings
import BoardBind.Skeleton
import BoardBind.Source
import BoardBind.Template.Builtin
import BoardBind.Template.Marker
import BoardBind.Template.Render
import BoardBind.Text.Encoding
import BoardBind.Text.Lines
import BoardBind.Text.Match
import BoardBind.Text.Quoted
import BoardBind.Text.Sentence
import BoardBind.Text.Substitute
import BoardBind.Toml.Document
import BoardBind.Toml.Scalar
import BoardBind.Toml.Value
import BoardBind.Tool.Launch
import BoardBind.TreeDrawing
import BoardBind.Verilog.Listing
import BoardBind.Vhdl.Line
import BoardBind.Vhdl.Scanner
import BoardBind.Wrapper
