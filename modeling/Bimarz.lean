import Bimarz.Effect.Act
import Bimarz.Effect.Except
import Bimarz.Effect.Triple
import Bimarz.Effect.Teardown
import Bimarz.Effect.Run
import Bimarz.Effect.JoinSet
import Bimarz.Effect.Agree
import Bimarz.Exceptions
import Bimarz.Dict
import Bimarz.Python
import Bimarz.Models
import Bimarz.Helpers
import Bimarz.Failover
import Bimarz.FailoverChoice
import Bimarz.HealthCommand
import Bimarz.Retry
import Bimarz.ProcessService
import Bimarz.KillSwitch.Rules
import Bimarz.KillSwitch.Manager
import Bimarz.KillSwitch.Runs
import Bimarz.KillSwitch.Retry
import Bimarz.KillSwitch.Commands
import Bimarz.KillSwitch.Restore
import Bimarz.KillSwitch.Probe
import Bimarz.KillSwitch.Threads
import Bimarz.KillSwitch.Coherence
import Bimarz.KillSwitch.Watchers
import Bimarz.KillSwitch.Trigger
import Bimarz.Connection.Service
import Bimarz.Connection.Invariant
import Bimarz.Connection.Rollback
import Bimarz.Connection.Cancel
import Bimarz.Connection.World
import Bimarz.Connection.Frames
import Bimarz.Connection.Failover
import Bimarz.Connection.Disable
import Bimarz.Connection.Adoption
import Bimarz.Connection.Closed
import Bimarz.Connection.Stopped
import Bimarz.Xray.Config
import Bimarz.Xray.Routing
import Bimarz.Connection.Traffic
import Bimarz.Connection.Restart
import Bimarz.Connection.Endpoint
import Bimarz.Gui.Worker
import Bimarz.Gui.Steps
import Bimarz.Gui.Switch
import Bimarz.Gui.Failover
import Bimarz.Gui.Connecting
import Bimarz.Gui.Disconnect
import Bimarz.Gui.Closed
import Bimarz.Gui.Table
import Bimarz.Gui.Signals
import Bimarz.Gui.Chart
import Bimarz.Gui.Window
import Bimarz.Closed
import Bimarz.FailoverTrace
import Bimarz.Text.Utf8
import Bimarz.Text.Base64
import Bimarz.Text.Hex
import Bimarz.Text.Partition
import Bimarz.Text.Words
import Bimarz.Json.Value
import Bimarz.Json.Text
import Bimarz.Store.State
import Bimarz.Store.Disk
import Bimarz.Store.Write
import Bimarz.Store.Profiles
import Bimarz.Store.Plain
import Bimarz.Store.Failures
import Bimarz.Store.Race
import Bimarz.Store.Corrupt
import Bimarz.Url.Quote
import Bimarz.Url.Address
import Bimarz.Url.Split
import Bimarz.Url.Netloc
import Bimarz.Parsers.Uuid
import Bimarz.Parsers.Vless
import Bimarz.Parsers.RoundTrip
import Bimarz.Parsers.Errors
import Bimarz.Proto.Wire
import Bimarz.Proto.Message
import Bimarz.Engine.Messages
import Bimarz.Engine.Address
import Bimarz.Engine.VlessBuilder
import Bimarz.Engine.Links
import Bimarz.Java.Uri
import Bimarz.Java.UriText
import Bimarz.Java.UrlSplit
import Bimarz.Android.VlessLinkParser
import Bimarz.Android.LinkForms
import Bimarz.Android.Agreement
import Bimarz.Android.LinkErrors
import Bimarz.Android.ProfileRepository
import Bimarz.Android.MainViewModel
import Bimarz.Android.XrayConfig
import Bimarz.Android.Service
import Bimarz.Android.Connect
import Bimarz.Android.Serialised
import Bimarz.Android.Phases
import Bimarz.Android.OrderedRun
import Bimarz.Android.Failed
import Bimarz.Trie
import Bimarz.Rust.Tokens
import Bimarz.Rust.Modules
import Bimarz.Build.Ident
import Bimarz.Build.Tree
import Bimarz.Build.Names
import Bimarz.Commands.Profile
import Bimarz.Commands.Book
import Bimarz.Commands.Connected
import Bimarz.Text.Lines
import Bimarz.Directory
import Bimarz.Effect.Monitor
import Bimarz.Build.Pin
import Bimarz.Build.Script
import Bimarz.Build.Fetch
import Bimarz.Doctor
import Bimarz.Connection.Protocol
import Bimarz.ProcessLife
import Bimarz.OneLink
import Bimarz.Android.Screens
