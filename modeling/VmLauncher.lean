import VmLauncher.Binary64
import VmLauncher.Channel.Basic
import VmLauncher.Channel.Call
import VmLauncher.Channel.HostCalls
import VmLauncher.Channel.Lane
import VmLauncher.Channel.Notes
import VmLauncher.Channel.Transfer
import VmLauncher.Host.Console
import VmLauncher.Host.Error
import VmLauncher.Host.Files
import VmLauncher.Host.Scene
import VmLauncher.Instance.Basic
import VmLauncher.Instance.ExitStatus
import VmLauncher.Instance.Ledger
import VmLauncher.Journal.Event
import VmLauncher.Journal.Filter
import VmLauncher.Journal.Line
import VmLauncher.Journal.Recorder
import VmLauncher.Launch
import VmLauncher.Main
import VmLauncher.Memory.Size
import VmLauncher.Memory.SizeUnit
import VmLauncher.Monitor.Drill
import VmLauncher.Monitor.Move
import VmLauncher.Monitor.Portable
import VmLauncher.Monitor.Pthread
import VmLauncher.Monitor.Substrate
import VmLauncher.Number.Integer
import VmLauncher.Number.Level
import VmLauncher.Number.Literal
import VmLauncher.Options.Configuration
import VmLauncher.Options.Directive
import VmLauncher.Options.Error
import VmLauncher.Options.Image
import VmLauncher.Options.Parser
import VmLauncher.Options.Usage
import VmLauncher.Priority
import VmLauncher.Proofs.Host.Shortage
import VmLauncher.Proofs.Options.Boundary
import VmLauncher.Proofs.Options.Configuration
import VmLauncher.Proofs.Options.Effects
import VmLauncher.Proofs.Options.Forwarding
import VmLauncher.Proofs.Options.Items
import VmLauncher.Proofs.Options.LogFiles
import VmLauncher.Proofs.Options.Patterns
import VmLauncher.Proofs.Options.Residual
import VmLauncher.Proofs.Options.Runs
import VmLauncher.Proofs.Options.Shortage
import VmLauncher.Session.Arguments
import VmLauncher.Session.Basic
import VmLauncher.Session.Descriptors
import VmLauncher.Session.Exit
import VmLauncher.Session.Sizes
import VmLauncher.Session.Threads
import VmLauncher.Signal
import VmLauncher.Text.Alphanumeric
import VmLauncher.Text.Digits
import VmLauncher.Text.Pattern
import VmLauncher.Text.Pattern.Class
import VmLauncher.Text.Pattern.Escape
import VmLauncher.Text.Quoted
import VmLauncher.Text.Runs
import VmLauncher.Text.Shapeless
import VmLauncher.Text.Utf8
import VmLauncher.Text.WhiteSpace
import VmLauncher.Threads.Context
import VmLauncher.Threads.Pool
import VmLauncher.Threads.Script
import VmLauncher.Threads.Settle
import VmLauncher.Proofs.Monitor.Exclusion
import VmLauncher.Proofs.Monitor.Broadcast
import VmLauncher.Proofs.Threads.Creations
import VmLauncher.Proofs.Threads.Steps
import VmLauncher.Proofs.Threads.History
import VmLauncher.Proofs.Threads.Counts
import VmLauncher.Proofs.Threads.Lifecycle
import VmLauncher.Proofs.Threads.Accounts
import VmLauncher.Proofs.Binary64.Rounding
import VmLauncher.Proofs.Binary64.Arithmetic
import VmLauncher.Proofs.Memory.Sizes
import VmLauncher.Proofs.Options.HeapSizes
import VmLauncher.Proofs.Monitor.Handover
import VmLauncher.Proofs.Text.Utf8
import VmLauncher.Proofs.Text.Bytewise
import VmLauncher.Proofs.Text.Digits
import VmLauncher.Proofs.Session.Arguments
import VmLauncher.Proofs.Session.Publication
import VmLauncher.Proofs.Binary64.Integers
import VmLauncher.Proofs.Binary64.Nearest
import VmLauncher.Proofs.Binary64.Operations
import VmLauncher.Proofs.Number.Literals
import VmLauncher.Proofs.Number.Decimals
import VmLauncher.Proofs.Number.Hexadecimals
import VmLauncher.Proofs.Number.WholeNumbers
import VmLauncher.Proofs.Memory.Notes
import VmLauncher.Proofs.Memory.Rounding
import VmLauncher.Proofs.Memory.Units
import VmLauncher.Proofs.Memory.DecimalSizes
import VmLauncher.Proofs.Memory.ExactSizes
import VmLauncher.Proofs.Memory.UpperBound
import VmLauncher.Proofs.Options.Summary
import VmLauncher.Proofs.Options.Rearrangement
import VmLauncher.Proofs.Options.HeapPairs
import VmLauncher.Proofs.Number.Grammar
import VmLauncher.Proofs.Number.LongestMatch
import VmLauncher.Proofs.Number.Levels
import VmLauncher.Proofs.Options.Levels
import VmLauncher.Proofs.Options.Reconciliation
import VmLauncher.Proofs.Instance.Balance
import VmLauncher.Proofs.Session.Sizes
import VmLauncher.Proofs.Binary64.Scaling
import VmLauncher.Proofs.Number.DecimalValues
import VmLauncher.Proofs.Memory.Coherence
import VmLauncher.Proofs.Threads.Unwinding
import VmLauncher.Proofs.Threads.OwnState
import VmLauncher.Proofs.Number.Indeterminate
import VmLauncher.Proofs.Number.Canonical
import VmLauncher.Proofs.Number.HexadecimalValues
import VmLauncher.Proofs.Memory.Refusals
import VmLauncher.Proofs.Host.Appending
import VmLauncher.Proofs.Options.LogTargets
import VmLauncher.Proofs.Priority.Offsets
import VmLauncher.Proofs.Channel.Calls
import VmLauncher.Proofs.Channel.Codes
import VmLauncher.Proofs.Channel.Lanes
import VmLauncher.Proofs.Channel.Streams
