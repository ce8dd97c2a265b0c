import NodeConsole.Text.Blank
import NodeConsole.Text.Utf8
import NodeConsole.Text.Escaped
import NodeConsole.Channel
import NodeConsole.Dump
import NodeConsole.Filter
import NodeConsole.Host
import NodeConsole.Options
import NodeConsole.Words
import NodeConsole.Address
import NodeConsole.Failure
import NodeConsole.Log.Buffer
import NodeConsole.Output
import NodeConsole.Sink
import NodeConsole.Atom
import NodeConsole.Atom.Reader
import NodeConsole.Atom.Loop
import NodeConsole.Handshake
import NodeConsole.Json
import NodeConsole.Json.Reader
import NodeConsole.Config
import NodeConsole.Config.Document
import NodeConsole.Config.Inspection
import NodeConsole.Commands
import NodeConsole.Console.Script
import NodeConsole.Log.Attendance
import NodeConsole.Session
import NodeConsole.Session.Schedule
import NodeConsole.Url
import NodeConsole.Network
import NodeConsole.Socket
import NodeConsole.Invocation
import NodeConsole.Program
import NodeConsole.Log.Follower
import NodeConsole.Words.Machine
import NodeConsole.Main
import NodeConsole.Proofs.Atom.Header
import NodeConsole.Proofs.Atom.Preorder
import NodeConsole.Proofs.Atom.RoundTrip
import NodeConsole.Proofs.Session.Accounting
import NodeConsole.Proofs.Session.Stream
import NodeConsole.Proofs.Log.Inbox
import NodeConsole.Proofs.Log.Hearing
import NodeConsole.Proofs.Log.Trace
import NodeConsole.Proofs.Log.Tail
import NodeConsole.Proofs.Session.Handover
import NodeConsole.Proofs.Console.Steady
import NodeConsole.Proofs.Session.Refinement
import NodeConsole.Proofs.Atom.Stack
import NodeConsole.Proofs.Atom.Canonical
import NodeConsole.Proofs.Handshake.Reply
import NodeConsole.Proofs.Words.Rendering
import NodeConsole.Proofs.Session.Room
import NodeConsole.Proofs.Words.Modes
import NodeConsole.Proofs.Config.Settings
import NodeConsole.Proofs.Config.Priority
import NodeConsole.Proofs.Session.Framing
import NodeConsole.Proofs.Log.Attendance
import NodeConsole.Log.Subscription
import NodeConsole.Proofs.Log.Subscription
import NodeConsole.Proofs.Session.Waiting
import NodeConsole.Proofs.Console.Frame
import NodeConsole.Proofs.Console.Concurrent
import NodeConsole.Proofs.Console.Dispatch
import NodeConsole.Proofs.Text.Utf8
import NodeConsole.Proofs.Atom.Truncation
import NodeConsole.Proofs.Config.Loading
import NodeConsole.Proofs.Options
import NodeConsole.Proofs.Console.Greeting
import NodeConsole.Proofs.Json.Written
import NodeConsole.Proofs.Json.Reading
import NodeConsole.Proofs.PeerId
import NodeConsole.Proofs.Config.Document
import NodeConsole.Proofs.Log.Ring
import NodeConsole.Proofs.Host.Forms
import NodeConsole.Proofs.Host.RoundTrip
import NodeConsole.Proofs.Text.Lines
import NodeConsole.Proofs.Handshake.Lines
import NodeConsole.Proofs.Console.Lines
import NodeConsole.Proofs.Words.Composition
import NodeConsole.Proofs.Tables.Updates
import NodeConsole.Proofs.Words.Conservation
import NodeConsole.Proofs.Tables.Channels
import NodeConsole.Proofs.Tables.Filters
import NodeConsole.Proofs.Console.Usage
import NodeConsole.Proofs.Console.Refusals
import NodeConsole.Proofs.PeerId.Forms
import NodeConsole.Proofs.Dump
import NodeConsole.Proofs.PeerId.RoundTrip
import NodeConsole.Proofs.Atom.Loop
import NodeConsole.Proofs.Sink
import NodeConsole.Proofs.Config.RoundTrip
