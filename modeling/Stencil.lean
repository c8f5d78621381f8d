import Stencil.Code.Cursor
import Stencil.Code.Expression
import Stencil.Code.Formatted
import Stencil.Code.Listing
import Stencil.Code.Literal
import Stencil.Code.Parse
import Stencil.Code.Scope
import Stencil.Code.Token
import Stencil.Code.Tree
import Stencil.Colour
import Stencil.Decimal.Read
import Stencil.Decimal.Shortest
import Stencil.Diagnostic.CompileError
import Stencil.Diagnostic.ErrorCode
import Stencil.Diagnostic.ExecutionError
import Stencil.Diagnostic.IncludeWarning
import Stencil.Diagnostic.Snippet
import Stencil.Diagnostic.TemplateError
import Stencil.Directories
import Stencil.Environment
import Stencil.Escape
import Stencil.Failure
import Stencil.Files.Access
import Stencil.Files.Path
import Stencil.Files.RealPath
import Stencil.Files.Tree
import Stencil.Include.Loader
import Stencil.Include.Resolve
import Stencil.Include.Similar
import Stencil.Log
import Stencil.Proofs.Blind.Expression
import Stencil.Proofs.Blind.Linewise
import Stencil.Proofs.Blind.Parser
import Stencil.Proofs.Blind.Statement
import Stencil.Proofs.Blind.Text
import Stencil.Proofs.Code.Cut
import Stencil.Proofs.Code.Dedented
import Stencil.Proofs.Code.Ended
import Stencil.Proofs.Code.Joined
import Stencil.Proofs.Code.Layout
import Stencil.Proofs.Code.Lines
import Stencil.Proofs.Code.Local
import Stencil.Proofs.Code.Margin
import Stencil.Proofs.Code.Misuse
import Stencil.Proofs.Code.Recut
import Stencil.Proofs.Code.Word
import Stencil.Proofs.Diagnostic.Caret
import Stencil.Proofs.Diagnostic.Leftover
import Stencil.Proofs.Diagnostic.Painted
import Stencil.Proofs.Diagnostic.Sequence
import Stencil.Proofs.Diagnostic.Snippet
import Stencil.Proofs.Files.RealPath
import Stencil.Proofs.Files.Write
import Stencil.Proofs.Include.Chain
import Stencil.Proofs.Include.Cycle
import Stencil.Proofs.Include.Directories
import Stencil.Proofs.Include.Fate
import Stencil.Proofs.Include.Held
import Stencil.Proofs.Include.Missing
import Stencil.Proofs.Include.Paste
import Stencil.Proofs.Include.Placeholders
import Stencil.Proofs.Include.Search
import Stencil.Proofs.Include.Sources
import Stencil.Proofs.Include.Substitute
import Stencil.Proofs.Lockstep.Action
import Stencil.Proofs.Lockstep.Call
import Stencil.Proofs.Lockstep.Evaluate
import Stencil.Proofs.Lockstep.Heap
import Stencil.Proofs.Lockstep.Look
import Stencil.Proofs.Lockstep.Renumber
import Stencil.Proofs.Registry.Fallback
import Stencil.Proofs.Run.Cause
import Stencil.Proofs.Run.Deliver
import Stencil.Proofs.Run.Expand
import Stencil.Proofs.Run.Flow
import Stencil.Proofs.Run.Helpers
import Stencil.Proofs.Run.Inert
import Stencil.Proofs.Run.Interpret
import Stencil.Proofs.Run.Names
import Stencil.Proofs.Run.Place
import Stencil.Proofs.Run.Refine
import Stencil.Proofs.Run.Session
import Stencil.Proofs.Run.Sinks
import Stencil.Proofs.Run.Told
import Stencil.Proofs.Scan.Compose
import Stencil.Proofs.Scan.Grammar
import Stencil.Proofs.Scan.RoundTrip
import Stencil.Proofs.Scan.Spelling
import Stencil.Proofs.Script.Alike
import Stencil.Proofs.Script.Authored
import Stencil.Proofs.Script.Block
import Stencil.Proofs.Script.Compile
import Stencil.Proofs.Script.Extent
import Stencil.Proofs.Script.Generable
import Stencil.Proofs.Script.Layout
import Stencil.Proofs.Script.Listing
import Stencil.Proofs.Script.Locate
import Stencil.Proofs.Script.Markers
import Stencil.Proofs.Script.Meaning
import Stencil.Proofs.Script.Moved
import Stencil.Proofs.Script.Numbering
import Stencil.Proofs.Script.Plain
import Stencil.Proofs.Script.Ranges
import Stencil.Proofs.Script.Refused
import Stencil.Proofs.Script.Reuse
import Stencil.Proofs.Text.Lines
import Stencil.Proofs.Text.Margin
import Stencil.Proofs.Text.Markup
import Stencil.Proofs.Text.Percent
import Stencil.Proofs.Text.Shown
import Stencil.Proofs.Text.Utf8
import Stencil.Registry
import Stencil.Registry.Tables
import Stencil.Run.Call
import Stencil.Run.Config
import Stencil.Run.Evaluate
import Stencil.Run.Iterate
import Stencil.Run.Machine
import Stencil.Run.Namespace
import Stencil.Run.Report
import Stencil.Scan
import Stencil.Script.Basic
import Stencil.Script.Block
import Stencil.Script.Generate
import Stencil.Script.Generator
import Stencil.Script.Marker
import Stencil.Segment
import Stencil.Text.Basic
import Stencil.Text.Blank
import Stencil.Text.CodePoints
import Stencil.Text.Codec
import Stencil.Text.CompatibilityForm
import Stencil.Text.Indent
import Stencil.Text.Lines
import Stencil.Text.Printable
import Stencil.Text.Quoted
import Stencil.Text.UpperCase
import Stencil.Text.Word
import Stencil.Value.Basic
import Stencil.Value.Equality
import Stencil.Value.ErrorClass
import Stencil.Value.Items
import Stencil.Value.Number
import Stencil.Value.Operate
import Stencil.Value.Written
