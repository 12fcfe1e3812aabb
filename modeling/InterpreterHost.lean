import InterpreterHost.Binary64
import InterpreterHost.Broker
import InterpreterHost.Broker.Error
import InterpreterHost.Calendar
import InterpreterHost.Call.Function
import InterpreterHost.Call.Instance
import InterpreterHost.Call.Invocation
import InterpreterHost.Call.Module
import InterpreterHost.Call.Registry
import InterpreterHost.CallError
import InterpreterHost.CommandLine.Arguments
import InterpreterHost.CommandLine.Commands
import InterpreterHost.CommandLine.Options
import InterpreterHost.Config
import InterpreterHost.Config.File
import InterpreterHost.Decimal.Layout
import InterpreterHost.Decimal.Shortest
import InterpreterHost.Directory
import InterpreterHost.Entries
import InterpreterHost.ExceptionReport
import InterpreterHost.Host
import InterpreterHost.Host.Execution
import InterpreterHost.Host.Handle
import InterpreterHost.Host.Session
import InterpreterHost.Interpreter.Attribute
import InterpreterHost.Interpreter.Blueprint
import InterpreterHost.Interpreter.Blueprint.Exception
import InterpreterHost.Interpreter.BuiltinType
import InterpreterHost.Interpreter.Call
import InterpreterHost.Interpreter.CodePoint
import InterpreterHost.Interpreter.Computation
import InterpreterHost.Interpreter.DateTime
import InterpreterHost.Interpreter.Document
import InterpreterHost.Interpreter.Encoding
import InterpreterHost.Interpreter.Exotic
import InterpreterHost.Interpreter.Files
import InterpreterHost.Interpreter.Heap
import InterpreterHost.Interpreter.Import
import InterpreterHost.Interpreter.Key
import InterpreterHost.Interpreter.Library
import InterpreterHost.Interpreter.Literal
import InterpreterHost.Interpreter.Object
import InterpreterHost.Interpreter.Operations
import InterpreterHost.Interpreter.Order
import InterpreterHost.Interpreter.Path
import InterpreterHost.Interpreter.Raised
import InterpreterHost.Interpreter.Representation
import InterpreterHost.Interpreter.SearchPath
import InterpreterHost.Interpreter.Signature
import InterpreterHost.Json
import InterpreterHost.Json.Fault
import InterpreterHost.Json.Printer
import InterpreterHost.Json.Reader
import InterpreterHost.Json.Skip
import InterpreterHost.Library.Builtins
import InterpreterHost.Library.Conversions
import InterpreterHost.Library.Counters
import InterpreterHost.Library.Failures
import InterpreterHost.Library.Instances
import InterpreterHost.Library.Keepers
import InterpreterHost.Library.Methods
import InterpreterHost.Library.Specimens
import InterpreterHost.Main
import InterpreterHost.Marshal.FromObject
import InterpreterHost.Marshal.Slot
import InterpreterHost.Marshal.ToObject
import InterpreterHost.Owner.Fetch
import InterpreterHost.Owner.Job
import InterpreterHost.Proofs.Binary64.Rounding
import InterpreterHost.Proofs.Broker.Actions
import InterpreterHost.Proofs.Broker.Interleaving
import InterpreterHost.Proofs.Broker.Order
import InterpreterHost.Proofs.Broker.Shutdown
import InterpreterHost.Proofs.Calendar.DayNumbers
import InterpreterHost.Proofs.Calendar.Days
import InterpreterHost.Proofs.Calendar.Range
import InterpreterHost.Proofs.Calendar.Spans
import InterpreterHost.Proofs.Call.Agreement
import InterpreterHost.Proofs.Call.Parts
import InterpreterHost.Proofs.Call.Results
import InterpreterHost.Proofs.CommandLine.Copying
import InterpreterHost.Proofs.Config.Overlay
import InterpreterHost.Proofs.Decimal.ReadsBack
import InterpreterHost.Proofs.ExceptionReport.Splitting
import InterpreterHost.Proofs.Handle.Accounts
import InterpreterHost.Proofs.Handle.Custody
import InterpreterHost.Proofs.Handle.Deadlock
import InterpreterHost.Proofs.Handle.Errands
import InterpreterHost.Proofs.Handle.Locks
import InterpreterHost.Proofs.Handle.Outcome
import InterpreterHost.Proofs.Handle.Refusal
import InterpreterHost.Proofs.Handle.Waiting
import InterpreterHost.Proofs.Heap.Accounting
import InterpreterHost.Proofs.Heap.Extension
import InterpreterHost.Proofs.Heap.Gains
import InterpreterHost.Proofs.Heap.Release
import InterpreterHost.Proofs.Host.Appending
import InterpreterHost.Proofs.Host.Configured
import InterpreterHost.Proofs.Host.Lifecycle
import InterpreterHost.Proofs.Host.Panics
import InterpreterHost.Proofs.Host.Ready
import InterpreterHost.Proofs.Host.Reporting
import InterpreterHost.Proofs.Host.Resting
import InterpreterHost.Proofs.Host.SearchPath
import InterpreterHost.Proofs.Host.Serving
import InterpreterHost.Proofs.Host.Starting
import InterpreterHost.Proofs.Json.Acceptance
import InterpreterHost.Proofs.Json.Documents
import InterpreterHost.Proofs.Json.Lines
import InterpreterHost.Proofs.Json.Numbers
import InterpreterHost.Proofs.Json.Pairs
import InterpreterHost.Proofs.Json.Records
import InterpreterHost.Proofs.Json.Spelling
import InterpreterHost.Proofs.Json.Strings
import InterpreterHost.Proofs.Library.Copying
import InterpreterHost.Proofs.Library.LeavingPath
import InterpreterHost.Proofs.Marshal.Acceptance
import InterpreterHost.Proofs.Marshal.Alike
import InterpreterHost.Proofs.Marshal.Conservation
import InterpreterHost.Proofs.Marshal.Course
import InterpreterHost.Proofs.Marshal.Denotation
import InterpreterHost.Proofs.Marshal.Documents
import InterpreterHost.Proofs.Marshal.Insertion
import InterpreterHost.Proofs.Marshal.Making
import InterpreterHost.Proofs.Marshal.Normalizing
import InterpreterHost.Proofs.Marshal.Outliving
import InterpreterHost.Proofs.Marshal.Pending
import InterpreterHost.Proofs.Marshal.Placement
import InterpreterHost.Proofs.Marshal.Resending
import InterpreterHost.Proofs.Marshal.RoundTrip
import InterpreterHost.Proofs.Marshal.Shape
import InterpreterHost.Proofs.Marshal.Twins
import InterpreterHost.Proofs.Marshal.Visit
import InterpreterHost.Proofs.Naming.Interleaving
import InterpreterHost.Proofs.Naming.Stores
import InterpreterHost.Proofs.Owner.Blind
import InterpreterHost.Proofs.Owner.Keeping
import InterpreterHost.Proofs.Owner.Outcome
import InterpreterHost.Proofs.Owner.Reading
import InterpreterHost.Proofs.Owner.Records
import InterpreterHost.Proofs.Owner.Report
import InterpreterHost.Proofs.State.Batches
import InterpreterHost.Proofs.State.Container
import InterpreterHost.Proofs.State.Directories
import InterpreterHost.Proofs.State.Extraction
import InterpreterHost.Proofs.State.LengthField
import InterpreterHost.Proofs.State.Reading
import InterpreterHost.Proofs.State.Replacement
import InterpreterHost.Proofs.State.Saving
import InterpreterHost.Proofs.State.Termination
import InterpreterHost.Proofs.State.Writability
import InterpreterHost.Proofs.Text.Order
import InterpreterHost.Proofs.Text.Utf8
import InterpreterHost.Proofs.Value.Bindings
import InterpreterHost.Proofs.Value.Equality
import InterpreterHost.Proofs.Value.JsonText
import InterpreterHost.Proofs.Value.Rendering
import InterpreterHost.Proofs.Value.Truncation
import InterpreterHost.State.Creator
import InterpreterHost.State.Error
import InterpreterHost.State.Header
import InterpreterHost.State.Model
import InterpreterHost.State.Object
import InterpreterHost.State.Params
import InterpreterHost.State.Shared
import InterpreterHost.State.Stream
import InterpreterHost.State.TemporaryFile
import InterpreterHost.Text.Printable
import InterpreterHost.Text.Property
import InterpreterHost.Text.Quoted
import InterpreterHost.Text.Utf8
import InterpreterHost.Timestamp
import InterpreterHost.Value
import InterpreterHost.Value.Display
import InterpreterHost.Value.Json
