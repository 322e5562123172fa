import ScopedHtml.Bindings
import ScopedHtml.Builder.Attribute
import ScopedHtml.Builder.Call
import ScopedHtml.Builder.Class
import ScopedHtml.Builder.Define
import ScopedHtml.Builder.Element
import ScopedHtml.Builder.Heir
import ScopedHtml.Builder.Hook
import ScopedHtml.Builder.Linearize
import ScopedHtml.Builder.Operation
import ScopedHtml.Builder.Program
import ScopedHtml.Builder.Scope
import ScopedHtml.Builder.Standard
import ScopedHtml.Builder.Store
import ScopedHtml.Command.Arguments
import ScopedHtml.Command.Run
import ScopedHtml.Command.Usage
import ScopedHtml.Fault
import ScopedHtml.Files.Encoding
import ScopedHtml.Files.Fault
import ScopedHtml.Files.Path
import ScopedHtml.Files.System
import ScopedHtml.Files.Write
import ScopedHtml.Fraction
import ScopedHtml.Log
import ScopedHtml.Main
import ScopedHtml.Node
import ScopedHtml.Node.Field
import ScopedHtml.Node.Outline
import ScopedHtml.Node.Render
import ScopedHtml.Node.Spec
import ScopedHtml.Node.Walk
import ScopedHtml.Page
import ScopedHtml.Script.Run
import ScopedHtml.Script.Step
import ScopedHtml.Signature
import ScopedHtml.Text.Cut
import ScopedHtml.Text.Digit
import ScopedHtml.Text.Printable
import ScopedHtml.Text.Quoted
import ScopedHtml.Value
import ScopedHtml.Value.Equality
import ScopedHtml.Value.Quoted
import ScopedHtml.Proofs.Layout
import ScopedHtml.Proofs.Context
import ScopedHtml.Proofs.Decode
import ScopedHtml.Proofs.Lookup
import ScopedHtml.Proofs.Program
import ScopedHtml.Proofs.Operations
import ScopedHtml.Proofs.Ordinary
import ScopedHtml.Proofs.Unwind
import ScopedHtml.Proofs.Content
import ScopedHtml.Proofs.Library
import ScopedHtml.Proofs.Calls
import ScopedHtml.Proofs.CallTree
import ScopedHtml.Proofs.Mirror
import ScopedHtml.Proofs.History
import ScopedHtml.Proofs.Moments
import ScopedHtml.Proofs.Steps
import ScopedHtml.Proofs.Runs
import ScopedHtml.Proofs.Fold
import ScopedHtml.Proofs.Events
import ScopedHtml.Proofs.Frame
import ScopedHtml.Proofs.Rules
import ScopedHtml.Proofs.Leads
import ScopedHtml.Proofs.Depth
import ScopedHtml.Proofs.ByHand
import ScopedHtml.Proofs.Trail
import ScopedHtml.Proofs.Orderly
import ScopedHtml.Proofs.Change
import ScopedHtml.Proofs.Drift
import ScopedHtml.Proofs.Course
import ScopedHtml.Proofs.CallCourse
import ScopedHtml.Proofs.ScriptCourse
import ScopedHtml.Proofs.Uphold
import ScopedHtml.Proofs.Ready
import ScopedHtml.Proofs.OneWay
import ScopedHtml.Proofs.WellFormed
import ScopedHtml.Proofs.Documents
import ScopedHtml.Proofs.Native
import ScopedHtml.Proofs.NativeScopes
import ScopedHtml.Proofs.Account
import ScopedHtml.Proofs.LogHistory
import ScopedHtml.Proofs.Registers
import ScopedHtml.Proofs.Definitions
import ScopedHtml.Proofs.Hierarchy
import ScopedHtml.Proofs.Swap
import ScopedHtml.Proofs.Tidy
import ScopedHtml.Proofs.Tables
import ScopedHtml.Proofs.Beside
import ScopedHtml.Proofs.Drafts
import ScopedHtml.Proofs.Parallel
import ScopedHtml.Proofs.ParallelArguments
import ScopedHtml.Proofs.ParallelReads
import ScopedHtml.Proofs.ParallelCalls
import ScopedHtml.Proofs.ParallelDefine
import ScopedHtml.Proofs.ParallelPage
import ScopedHtml.Proofs.LogLevel
import ScopedHtml.Proofs.Directories
import ScopedHtml.Proofs.Writes
import ScopedHtml.Proofs.Outcome
import ScopedHtml.Proofs.ParallelScripts
import ScopedHtml.Proofs.Apart
import ScopedHtml.Proofs.Commute
import ScopedHtml.Proofs.Subclass
import ScopedHtml.Proofs.ParallelReports
import ScopedHtml.Proofs.NormalForm
import ScopedHtml.Proofs.Traversal
import ScopedHtml.Proofs.Regular
import ScopedHtml.Proofs.Shifts
import ScopedHtml.Proofs.Shifting
import ScopedHtml.Proofs.ShiftingCalls
import ScopedHtml.Proofs.Told
import ScopedHtml.Proofs.Bodies
import ScopedHtml.Proofs.Chronicle
import ScopedHtml.Proofs.CallChronicle
import ScopedHtml.Proofs.ScriptChronicle
import ScopedHtml.Proofs.Gathering
import ScopedHtml.Proofs.Binding
import ScopedHtml.Proofs.Quoting
import ScopedHtml.Proofs.Size
import ScopedHtml.Proofs.Lines
import ScopedHtml.Proofs.Continuing
import ScopedHtml.Proofs.Supported
