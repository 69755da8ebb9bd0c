import Provision.Address
import Provision.App.Keymap
import Provision.App.State
import Provision.App.Update
import Provision.CommandLine
import Provision.Connection
import Provision.Debug
import Provision.Endpoint
import Provision.Engine
import Provision.Engine.Feed
import Provision.Error
import Provision.Form
import Provision.Form.Field
import Provision.Headless.Event
import Provision.Headless.Run
import Provision.Json.Choice
import Provision.Json.Fault
import Provision.Json.Number
import Provision.Key
import Provision.Key.Decode
import Provision.Log
import Provision.Log.View
import Provision.Main
import Provision.Network
import Provision.Outbox
import Provision.Payload
import Provision.Phase
import Provision.Program
import Provision.Proofs.Address.HostPort
import Provision.Proofs.Address.NormalForm
import Provision.Proofs.App.Alike
import Provision.Proofs.App.Dialog
import Provision.Proofs.App.Edges
import Provision.Proofs.App.Hidden
import Provision.Proofs.App.History
import Provision.Proofs.App.Locked
import Provision.Proofs.App.Progress
import Provision.Proofs.App.Quitting
import Provision.Proofs.App.Rejection
import Provision.Proofs.App.Sentinel
import Provision.Proofs.App.Submission
import Provision.Proofs.App.Turn
import Provision.Proofs.App.Typing
import Provision.Proofs.App.Unscrolled
import Provision.Proofs.Endpoint.Precedence
import Provision.Proofs.Engine.Agreement
import Provision.Proofs.Engine.Delivery
import Provision.Proofs.Engine.Demands
import Provision.Proofs.Engine.Following
import Provision.Proofs.Engine.Ledger
import Provision.Proofs.Engine.Notices
import Provision.Proofs.Engine.Outcome
import Provision.Proofs.Engine.Replay
import Provision.Proofs.Engine.Run
import Provision.Proofs.Exchange.Conservation
import Provision.Proofs.Exchange.Followed
import Provision.Proofs.Exchange.Inbound
import Provision.Proofs.Exchange.Opening
import Provision.Proofs.Exchange.Outbound
import Provision.Proofs.Exchange.Placement
import Provision.Proofs.Exchange.Remainder
import Provision.Proofs.Exchange.Run
import Provision.Proofs.Exchange.Settle
import Provision.Proofs.Exchange.Single
import Provision.Proofs.Exchange.Sound
import Provision.Proofs.Exchange.Standing
import Provision.Proofs.Form.Alike
import Provision.Proofs.Form.Hidden
import Provision.Proofs.Form.Submit
import Provision.Proofs.Headless.Line
import Provision.Proofs.Headless.Reached
import Provision.Proofs.Headless.Schedule
import Provision.Proofs.Headless.Stream
import Provision.Proofs.Headless.Telling
import Provision.Proofs.Headless.Veil
import Provision.Proofs.Json.Document
import Provision.Proofs.Json.Reading
import Provision.Proofs.Json.Strings
import Provision.Proofs.Link.Account
import Provision.Proofs.Link.Held
import Provision.Proofs.Link.Relabel
import Provision.Proofs.Link.Served
import Provision.Proofs.Link.Transcript
import Provision.Proofs.Log.Paging
import Provision.Proofs.Log.Scroll
import Provision.Proofs.Request.Grammar
import Provision.Proofs.Request.NormalForm
import Provision.Proofs.Request.Wire
import Provision.Proofs.Screen.Cells
import Provision.Proofs.Screen.Line
import Provision.Proofs.Screen.Paragraph
import Provision.Proofs.Session.Background
import Provision.Proofs.Session.Calls
import Provision.Proofs.Session.Coherent
import Provision.Proofs.Session.Flush
import Provision.Proofs.Session.Relabel
import Provision.Proofs.Text.CodeSet
import Provision.Proofs.Text.Columns
import Provision.Proofs.Text.Decimal
import Provision.Proofs.Text.Trim
import Provision.Proofs.Text.Utf8
import Provision.Proofs.Text.Words
import Provision.Proofs.View.Alike
import Provision.Proofs.View.FormRows
import Provision.Proofs.View.Header
import Provision.Proofs.View.Parts
import Provision.Proofs.View.Redraw
import Provision.Proofs.View.Window
import Provision.Protocol
import Provision.Request
import Provision.Request.Command
import Provision.Screen
import Provision.Screen.Area
import Provision.Screen.Cell
import Provision.Screen.Frame
import Provision.Screen.Span
import Provision.Screen.Style
import Provision.Session
import Provision.Session.Exchange
import Provision.Session.Link
import Provision.Settings
import Provision.Settings.File
import Provision.Text.Blank
import Provision.Text.Cluster
import Provision.Text.CodeSet
import Provision.Text.Decimal
import Provision.Text.Decimal.Real
import Provision.Text.Decimal.Shortest
import Provision.Text.Lines
import Provision.Text.Quoted
import Provision.Text.Table.Cluster
import Provision.Text.Table.Extend
import Provision.Text.Table.Unprintable
import Provision.Text.Table.Width
import Provision.Text.Utf8
import Provision.Text.Width
import Provision.Toml.Document
import Provision.Toml.Node
import Provision.Toml.Scan
import Provision.Url
import Provision.Url.Domain
import Provision.Url.Host
import Provision.Url.Ipv4
import Provision.Url.Ipv6
import Provision.Url.Mapping
import Provision.Url.Punycode
import Provision.Url.Table.Bidi
import Provision.Url.Table.Joining
import Provision.Url.Table.Mapping
import Provision.Url.Table.Status
import Provision.View
import Provision.View.Dialog
import Provision.View.Form
import Provision.View.Header
import Provision.View.Layout
import Provision.View.Log
import Provision.View.Status
import Provision.View.Theme
import Provision.WebSocket
import Provision.WebSocket.Target
