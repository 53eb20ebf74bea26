import BuildScript.Action.Basic
import BuildScript.Action.Compile
import BuildScript.Action.Configure
import BuildScript.Action.Console
import BuildScript.Action.Files
import BuildScript.Action.OfDirective
import BuildScript.Action.Programs
import BuildScript.Build
import BuildScript.CommandLine.Declaration
import BuildScript.CommandLine.Options
import BuildScript.CommandLine.Program
import BuildScript.CommandLine.Reader
import BuildScript.CommandLine.Usage
import BuildScript.Directive
import BuildScript.ExitCode
import BuildScript.FileSystem.FileError
import BuildScript.FileSystem.Node
import BuildScript.FileSystem.Operations
import BuildScript.FileSystem.Route
import BuildScript.Host.Fault
import BuildScript.Host.Plan
import BuildScript.Host.Platform
import BuildScript.Host.Rehearsal
import BuildScript.Host.Request
import BuildScript.Host.Workspace
import BuildScript.Make.Conversion
import BuildScript.Make.File
import BuildScript.Make.Makefile
import BuildScript.Make.Rule
import BuildScript.Make.Sink
import BuildScript.OrderedMap
import BuildScript.Path
import BuildScript.Script.Arguments
import BuildScript.Script.Call
import BuildScript.Script.Line
import BuildScript.Script.Source
import BuildScript.Selection
import BuildScript.Session
import BuildScript.Settings
import BuildScript.Shell.Arithmetic
import BuildScript.Shell.Builtin
import BuildScript.Shell.Command
import BuildScript.Shell.Condition
import BuildScript.Shell.Execution
import BuildScript.Shell.Expansion
import BuildScript.Shell.Field
import BuildScript.Shell.Format
import BuildScript.Shell.Pattern
import BuildScript.Shell.Process
import BuildScript.Shell.Program
import BuildScript.Shell.Redirect
import BuildScript.Shell.Start
import BuildScript.Shell.Token
import BuildScript.Shell.Word
import BuildScript.Text.Blank
import BuildScript.Text.Lines
import BuildScript.Text.Printable
import BuildScript.Text.Quoted
import BuildScript.Text.Similarity
import BuildScript.Text.Utf8
import BuildScript.Vocabulary
import BuildScript.Proofs.Action.CleanFailure
import BuildScript.Proofs.Session.FailedCall
import BuildScript.Proofs.Script.Pieces
import BuildScript.Proofs.Script.LineForm
import BuildScript.Proofs.Script.Render
import BuildScript.Proofs.Host.Alike
import BuildScript.Proofs.Session.Composition
import BuildScript.Proofs.Host.Shown
import BuildScript.Proofs.Script.Segments
import BuildScript.Proofs.Session.Frame
import BuildScript.Proofs.Session.Unrequested
import BuildScript.Proofs.Session.Accounting
import BuildScript.Proofs.Make.Parts
import BuildScript.Proofs.Make.Emission
import BuildScript.Proofs.Action.BuildDirectory
import BuildScript.Proofs.Session.Chronicle
import BuildScript.Proofs.Session.BuildDirectory
import BuildScript.Proofs.Build.Fatal
import BuildScript.Proofs.Settings.History
import BuildScript.Proofs.Host.Tandem
import BuildScript.Proofs.Vocabulary
import BuildScript.Proofs.Session.Comparison
import BuildScript.Proofs.Action.QuietCompile
import BuildScript.Proofs.Session.Quieted
import BuildScript.Proofs.Action.Verbosity
import BuildScript.Proofs.Session.Verbosity
import BuildScript.Proofs.Action.Concern
import BuildScript.Proofs.Session.Regrouping
import BuildScript.Proofs.Session.Diagnosis
import BuildScript.Proofs.Build.Repeated
import BuildScript.Proofs.FileSystem.Tree
import BuildScript.Proofs.FileSystem.Routes
import BuildScript.Proofs.FileSystem.Changes
import BuildScript.Proofs.FileSystem.Copying
import BuildScript.Proofs.Host.DirectoryCopy
import BuildScript.Proofs.Session.Backup
import BuildScript.Proofs.ExitCode
import BuildScript.Proofs.Script.Grammar
import BuildScript.Proofs.Make.Bounded
import BuildScript.Proofs.Make.Delivery
import BuildScript.Proofs.Script.SingleLine
import BuildScript.Proofs.Make.Layout
import BuildScript.Proofs.Action.Proceeding
import BuildScript.Proofs.Session.Stop
import BuildScript.Proofs.CommandLine.Status
import BuildScript.Proofs.Path
import BuildScript.Proofs.Settings.Report
import BuildScript.Proofs.Action.SingleLined
import BuildScript.Proofs.Session.Lossless
import BuildScript.Proofs.Script.Indentation
import BuildScript.Proofs.CommandLine.Rules
import BuildScript.Proofs.CommandLine.Reader
import BuildScript.Proofs.CommandLine.Arrangement
import BuildScript.Proofs.Script.Slices
