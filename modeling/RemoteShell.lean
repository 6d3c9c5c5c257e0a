import RemoteShell.Base64
import RemoteShell.CommandLine.Arguments
import RemoteShell.CommandLine.Help
import RemoteShell.CommandLine.Run
import RemoteShell.Control.Command
import RemoteShell.Control.Frame
import RemoteShell.Decimal.Binary64
import RemoteShell.Decimal.Bounded
import RemoteShell.Decimal.Shortest
import RemoteShell.Fault
import RemoteShell.FileTree
import RemoteShell.Host.LoginShell
import RemoteShell.Host.Program
import RemoteShell.Host.Seat
import RemoteShell.Host.Terminal
import RemoteShell.Http.Message
import RemoteShell.Hub.Access
import RemoteShell.Hub.Basic
import RemoteShell.Hub.Handshake
import RemoteShell.Hub.Live
import RemoteShell.Hub.Opening
import RemoteShell.Hub.Roster
import RemoteShell.Hub.Router
import RemoteShell.Hub.Service
import RemoteShell.Json.Error
import RemoteShell.Json.Printer
import RemoteShell.Json.Scanner
import RemoteShell.Json.Skip
import RemoteShell.Json.Typed
import RemoteShell.Main
import RemoteShell.Output.Buffer
import RemoteShell.Output.Desk
import RemoteShell.Output.Outlet
import RemoteShell.Output.Pump
import RemoteShell.Proofs.Base64.Canonical
import RemoteShell.Proofs.Base64.Decoding
import RemoteShell.Proofs.Computation
import RemoteShell.Proofs.Control.FrameGrammar
import RemoteShell.Proofs.Control.FrameMembers
import RemoteShell.Proofs.Control.FramePrinting
import RemoteShell.Proofs.Control.FrameReading
import RemoteShell.Proofs.Control.ObjectReading
import RemoteShell.Proofs.Host.Closing
import RemoteShell.Proofs.Host.Leaving
import RemoteShell.Proofs.Hub.Accounting
import RemoteShell.Proofs.Hub.Floor
import RemoteShell.Proofs.Hub.Hearing
import RemoteShell.Proofs.Hub.Keys
import RemoteShell.Proofs.Hub.Listing
import RemoteShell.Proofs.Hub.Opening
import RemoteShell.Proofs.Hub.Stopping
import RemoteShell.Proofs.Hub.Strangers
import RemoteShell.Proofs.Hub.TerminalSizes
import RemoteShell.Proofs.Json.Grammar
import RemoteShell.Proofs.Json.Printing
import RemoteShell.Proofs.Json.Skipping
import RemoteShell.Proofs.Json.Tokens
import RemoteShell.Proofs.Json.Values
import RemoteShell.Proofs.Output.Account
import RemoteShell.Proofs.Output.LastCapture
import RemoteShell.Proofs.Output.PumpTurn
import RemoteShell.Proofs.Secret
import RemoteShell.Proofs.Session.Announcements
import RemoteShell.Proofs.Session.Cadence
import RemoteShell.Proofs.Session.Change
import RemoteShell.Proofs.Session.Conservation
import RemoteShell.Proofs.Session.Deadline
import RemoteShell.Proofs.Session.Departure
import RemoteShell.Proofs.Session.EarlyClosing
import RemoteShell.Proofs.Session.IgnoredFrames
import RemoteShell.Proofs.Session.Inbox
import RemoteShell.Proofs.Session.InputClosing
import RemoteShell.Proofs.Session.InputRelay
import RemoteShell.Proofs.Session.LastFlush
import RemoteShell.Proofs.Session.LinkClosing
import RemoteShell.Proofs.Session.LocalExit
import RemoteShell.Proofs.Session.LocalRun
import RemoteShell.Proofs.Session.Payload
import RemoteShell.Proofs.Session.Probing
import RemoteShell.Proofs.Session.Report
import RemoteShell.Proofs.Session.Requests
import RemoteShell.Proofs.Session.Rest
import RemoteShell.Proofs.Session.Run
import RemoteShell.Proofs.Session.Sizes
import RemoteShell.Proofs.Session.Stage
import RemoteShell.Proofs.Session.Verdict
import RemoteShell.Proofs.Settings.Items
import RemoteShell.Proofs.Settings.Precedence
import RemoteShell.Proofs.Settings.Timing
import RemoteShell.Proofs.Shells.Candidates
import RemoteShell.Proofs.Shells.Detection
import RemoteShell.Proofs.Shells.Fallback
import RemoteShell.Proofs.Sorting
import RemoteShell.Proofs.Text.Percent
import RemoteShell.Proofs.Text.Utf8
import RemoteShell.Proofs.Text.Utf8Reading
import RemoteShell.Secret
import RemoteShell.Session.Action
import RemoteShell.Session.Clock
import RemoteShell.Session.Options
import RemoteShell.Session.Scope
import RemoteShell.Session.Shell
import RemoteShell.Session.State
import RemoteShell.Session.Step
import RemoteShell.Session.Timers
import RemoteShell.Session.Work
import RemoteShell.Settings.Basic
import RemoteShell.Settings.Load
import RemoteShell.Settings.Printer
import RemoteShell.Settings.Reader
import RemoteShell.Shells
import RemoteShell.Terminal
import RemoteShell.Text.Blank
import RemoteShell.Text.Hex
import RemoteShell.Text.Percent
import RemoteShell.Text.Quoted
import RemoteShell.Text.Split
import RemoteShell.Text.Unprintable
import RemoteShell.Text.Utf8
import RemoteShell.Time
import RemoteShell.Toml.Document
import RemoteShell.Toml.Moment
import RemoteShell.Toml.Number
import RemoteShell.Toml.Text
import RemoteShell.Toml.Trivia
import RemoteShell.Toml.Value
import RemoteShell.Version
import RemoteShell.WebSocket.Endpoint
import RemoteShell.WebSocket.Link
import RemoteShell.WebSocket.Message
