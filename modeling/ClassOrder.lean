import ClassOrder.Action
import ClassOrder.Assoc
import ClassOrder.Cache.Fingerprint
import ClassOrder.Cache.Store
import ClassOrder.Channel.Basic
import ClassOrder.Channel.Inlet
import ClassOrder.Channel.Line
import ClassOrder.Channel.Receive
import ClassOrder.CommandLine.Options
import ClassOrder.CommandLine.Run
import ClassOrder.Exchange.Basic
import ClassOrder.Exchange.Script
import ClassOrder.Fault
import ClassOrder.Files.Host
import ClassOrder.Files.Path
import ClassOrder.Files.Tree
import ClassOrder.Frame
import ClassOrder.Json.Printer
import ClassOrder.Json.Reader
import ClassOrder.Json.Value
import ClassOrder.Log.Record
import ClassOrder.Log.Setup
import ClassOrder.Main
import ClassOrder.Message
import ClassOrder.Number.Amount
import ClassOrder.Number.Decimal
import ClassOrder.Number.Format
import ClassOrder.Number.Read
import ClassOrder.Proofs.Action.Blind
import ClassOrder.Proofs.Action.Triple
import ClassOrder.Proofs.Cache.History
import ClassOrder.Proofs.Channel.Sending
import ClassOrder.Proofs.CommandLine.Cleanup
import ClassOrder.Proofs.ExactTime
import ClassOrder.Proofs.Exchange.Answered
import ClassOrder.Proofs.Exchange.Correlation
import ClassOrder.Proofs.Exchange.Deadlines
import ClassOrder.Proofs.Exchange.Enough
import ClassOrder.Proofs.Exchange.Rounds
import ClassOrder.Proofs.Exchange.Scenes
import ClassOrder.Proofs.Exchange.Silence
import ClassOrder.Proofs.Exchange.Standstill
import ClassOrder.Proofs.Exchange.Surroundings
import ClassOrder.Proofs.Exchange.Tracing
import ClassOrder.Proofs.Exchange.Unanswerable
import ClassOrder.Proofs.Exchange.Waiting
import ClassOrder.Proofs.Files.Ancestors
import ClassOrder.Proofs.Files.Copying
import ClassOrder.Proofs.Files.Following
import ClassOrder.Proofs.Files.Inside
import ClassOrder.Proofs.Files.Lodging
import ClassOrder.Proofs.Files.Removal
import ClassOrder.Proofs.Framing.Acceptance
import ClassOrder.Proofs.Framing.Attempt
import ClassOrder.Proofs.Framing.Block
import ClassOrder.Proofs.Framing.Chunking
import ClassOrder.Proofs.Framing.Consumed
import ClassOrder.Proofs.Framing.Deadline
import ClassOrder.Proofs.Framing.Expected
import ClassOrder.Proofs.Framing.Fills
import ClassOrder.Proofs.Framing.Grammar
import ClassOrder.Proofs.Framing.Headers
import ClassOrder.Proofs.Framing.InMemory
import ClassOrder.Proofs.Framing.Recovery
import ClassOrder.Proofs.Framing.Scan
import ClassOrder.Proofs.Framing.Series
import ClassOrder.Proofs.Framing.Starving
import ClassOrder.Proofs.Framing.Stream
import ClassOrder.Proofs.Json.Fields
import ClassOrder.Proofs.Json.Numbers
import ClassOrder.Proofs.Json.Overlong
import ClassOrder.Proofs.Json.RoundTrip
import ClassOrder.Proofs.Json.Strings
import ClassOrder.Proofs.Message
import ClassOrder.Proofs.Number.Bits
import ClassOrder.Proofs.Number.Compared
import ClassOrder.Proofs.Number.Digits
import ClassOrder.Proofs.Number.Full
import ClassOrder.Proofs.Number.Grouped
import ClassOrder.Proofs.Number.Loose
import ClassOrder.Proofs.Number.Strict
import ClassOrder.Proofs.Number.Whole
import ClassOrder.Proofs.Number.Written
import ClassOrder.Proofs.Payload
import ClassOrder.Proofs.Server.Command
import ClassOrder.Proofs.Server.Dotted
import ClassOrder.Proofs.Server.Foreign
import ClassOrder.Proofs.Server.Onward
import ClassOrder.Proofs.Server.Settings
import ClassOrder.Proofs.Server.Streams
import ClassOrder.Proofs.Server.Version
import ClassOrder.Proofs.Session.Aftermath
import ClassOrder.Proofs.Session.Answers
import ClassOrder.Proofs.Session.Asking
import ClassOrder.Proofs.Session.Calls
import ClassOrder.Proofs.Session.Closed
import ClassOrder.Proofs.Session.Complete
import ClassOrder.Proofs.Session.Confined
import ClassOrder.Proofs.Session.Course
import ClassOrder.Proofs.Session.Descent
import ClassOrder.Proofs.Session.Failing
import ClassOrder.Proofs.Session.Foreign
import ClassOrder.Proofs.Session.Furnishing
import ClassOrder.Proofs.Session.Greeting
import ClassOrder.Proofs.Session.Growth
import ClassOrder.Proofs.Session.History
import ClassOrder.Proofs.Session.Holdings
import ClassOrder.Proofs.Session.Housing
import ClassOrder.Proofs.Session.Interpreting
import ClassOrder.Proofs.Session.Lasting
import ClassOrder.Proofs.Session.Later
import ClassOrder.Proofs.Session.Lists
import ClassOrder.Proofs.Session.Numbers
import ClassOrder.Proofs.Session.Opening
import ClassOrder.Proofs.Session.Order
import ClassOrder.Proofs.Session.Outstanding
import ClassOrder.Proofs.Session.Premises
import ClassOrder.Proofs.Session.Quarters
import ClassOrder.Proofs.Session.Remains
import ClassOrder.Proofs.Session.Renewal
import ClassOrder.Proofs.Session.Requests
import ClassOrder.Proofs.Session.Results
import ClassOrder.Proofs.Session.Staging
import ClassOrder.Proofs.Session.Start
import ClassOrder.Proofs.Session.Teardown
import ClassOrder.Proofs.Session.Telling
import ClassOrder.Proofs.Session.Tidy
import ClassOrder.Proofs.Session.Tracing
import ClassOrder.Proofs.Session.Transcript
import ClassOrder.Proofs.Session.Unrefused
import ClassOrder.Proofs.Session.Yielding
import ClassOrder.Proofs.Settings.Positive
import ClassOrder.Proofs.Text.Digit
import ClassOrder.Proofs.Text.Trim
import ClassOrder.Proofs.Text.Utf8
import ClassOrder.Proofs.Text.Words
import ClassOrder.Proofs.Workspace.Nearest
import ClassOrder.Proofs.Workspace.Project
import ClassOrder.Server.Basic
import ClassOrder.Server.Command
import ClassOrder.Server.Method
import ClassOrder.Server.Reply
import ClassOrder.Server.Scripted
import ClassOrder.Server.Version
import ClassOrder.Session.Basic
import ClassOrder.Session.Calls
import ClassOrder.Session.Run
import ClassOrder.Session.Start
import ClassOrder.Session.Stop
import ClassOrder.Session.Teardown
import ClassOrder.Session.Wire
import ClassOrder.Session.Workspace
import ClassOrder.Session.World
import ClassOrder.Settings.Basic
import ClassOrder.Settings.Environment
import ClassOrder.Settings.Fields
import ClassOrder.Settings.ShellWords
import ClassOrder.Settings.VariableFile
import ClassOrder.Text.Blank
import ClassOrder.Text.Digit
import ClassOrder.Text.Newline
import ClassOrder.Text.Printable
import ClassOrder.Text.Quoted
import ClassOrder.Text.Similar
import ClassOrder.Text.Utf8
import ClassOrder.Timeline
import ClassOrder.Workspace.Document
import ClassOrder.Workspace.Project
