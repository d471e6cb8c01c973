import Jukebox.Bus
import Jukebox.CommandLine.Flag
import Jukebox.CommandLine.Help
import Jukebox.CommandLine.Launch
import Jukebox.CommandLine.LogFilter
import Jukebox.CommandLine.Options
import Jukebox.CommandLine.Similar
import Jukebox.Decimal.Binary64
import Jukebox.Decimal.Shortest
import Jukebox.Decimal.Style
import Jukebox.Document.Basic
import Jukebox.Document.Decode
import Jukebox.Document.Json.Printer
import Jukebox.Document.Json.Reader
import Jukebox.Document.Toml.Node
import Jukebox.Document.Toml.Reader
import Jukebox.Document.Toml.Scalar
import Jukebox.Document.Toml.Strings
import Jukebox.Files.Basic
import Jukebox.Files.Tree
import Jukebox.Host.Address
import Jukebox.Host.Error
import Jukebox.Host.Exit
import Jukebox.Host.Network
import Jukebox.Host.Programs
import Jukebox.Host.Shell
import Jukebox.Link.Basic
import Jukebox.Link.Endpoint
import Jukebox.Link.ReadyState
import Jukebox.Link.Task
import Jukebox.Main
import Jukebox.Notice.Basic
import Jukebox.Notice.Json
import Jukebox.Playback.Basic
import Jukebox.Playback.Drain
import Jukebox.Player.Basic
import Jukebox.Player.Input
import Jukebox.Player.Loop
import Jukebox.PlayerError
import Jukebox.Queue
import Jukebox.Request.Basic
import Jukebox.Request.Tokens
import Jukebox.Schedule
import Jukebox.Settings.Basic
import Jukebox.Settings.Codec
import Jukebox.Settings.Error
import Jukebox.Settings.Source
import Jukebox.Settings.Startup
import Jukebox.Settings.Text
import Jukebox.Sse.Feed
import Jukebox.Sse.Frame
import Jukebox.Sse.Reader
import Jukebox.Status.Api
import Jukebox.Text.Blank
import Jukebox.Text.Digits
import Jukebox.Text.Printable
import Jukebox.Text.Quoted
import Jukebox.Text.Substitute
import Jukebox.Text.Utf8
import Jukebox.Time.Instant
import Jukebox.Time.Printer
import Jukebox.Time.Reader
import Jukebox.Timers
import Jukebox.Timers.Task
import Jukebox.Uuid
import Jukebox.Widget.Arguments
import Jukebox.Widget.Basic
import Jukebox.Widget.DryRun
import Jukebox.Widget.External
import Jukebox.Widget.Rehearsal
import Jukebox.Proofs.History
import Jukebox.Proofs.Playback.Invariant
import Jukebox.Proofs.Playback.Run
import Jukebox.Proofs.Playback.Widgets
import Jukebox.Proofs.Player.News
import Jukebox.Proofs.Player.Order
import Jukebox.Proofs.Player.Replay
import Jukebox.Proofs.Link.Exchange
import Jukebox.Proofs.Link.Replacement
import Jukebox.Proofs.Playback.Trail
import Jukebox.Proofs.Playback.Late
import Jukebox.Proofs.Player.Parts
import Jukebox.Proofs.Player.Lifecycle
import Jukebox.Proofs.Player.Published
import Jukebox.Proofs.Link.Generations
import Jukebox.Proofs.Link.Reports
import Jukebox.Proofs.Playback.Bare
import Jukebox.Proofs.Player.Pace
import Jukebox.Proofs.Schedule.Log
import Jukebox.Proofs.Schedule.Stages
import Jukebox.Proofs.Schedule.Unattended
import Jukebox.Proofs.Request.Language
import Jukebox.Proofs.Request.Tokens
import Jukebox.Proofs.Document.Json.Tokens
import Jukebox.Proofs.Document.Json.Values
import Jukebox.Proofs.Notice.Json
import Jukebox.Proofs.Sse.Stream
import Jukebox.Proofs.Bus.Mailbox
import Jukebox.Proofs.Bus.Places
import Jukebox.Proofs.Bus.Run
import Jukebox.Proofs.Status.Shown
import Jukebox.Proofs.Status.Streams
import Jukebox.Proofs.Bus.Ring
import Jukebox.Proofs.Document.Records
import Jukebox.Proofs.Settings.Startup
import Jukebox.Proofs.Settings.Overlay
import Jukebox.Proofs.Text.Substitute
import Jukebox.Proofs.Widget.Arguments
import Jukebox.Proofs.Playback.FirstPlayable
import Jukebox.Proofs.Playback.Refusals
import Jukebox.Proofs.Playback.Standstill
import Jukebox.Proofs.Player.Draining
import Jukebox.Proofs.Widget.Course
import Jukebox.Proofs.Timers.Periods
import Jukebox.Proofs.Player.Loop
import Jukebox.Proofs.Notice.Decode
