import SnapshotViewer.Address.Basic
import SnapshotViewer.Address.Form
import SnapshotViewer.Catalog.Basic
import SnapshotViewer.Catalog.Document
import SnapshotViewer.Collection
import SnapshotViewer.CommandLine.Help
import SnapshotViewer.CommandLine.Options
import SnapshotViewer.CommandLine.Read
import SnapshotViewer.EventStream
import SnapshotViewer.Feed.Attempt
import SnapshotViewer.Feed.Basic
import SnapshotViewer.Feed.History
import SnapshotViewer.Feed.Live
import SnapshotViewer.Http.Answer
import SnapshotViewer.Http.Exchange
import SnapshotViewer.Http.Request
import SnapshotViewer.Http.Url
import SnapshotViewer.Identity
import SnapshotViewer.Json.Decoder
import SnapshotViewer.Json.Doc
import SnapshotViewer.Json.Literal
import SnapshotViewer.Json.Scan
import SnapshotViewer.Json.Value
import SnapshotViewer.Keyboard
import SnapshotViewer.Keyboard.Run
import SnapshotViewer.Keyed
import SnapshotViewer.Main
import SnapshotViewer.Navigator.Basic
import SnapshotViewer.Navigator.Command
import SnapshotViewer.Navigator.DrillDown
import SnapshotViewer.Navigator.Run
import SnapshotViewer.Number.Binary64
import SnapshotViewer.Number.Int64
import SnapshotViewer.Number.Notation
import SnapshotViewer.Number.Shortest
import SnapshotViewer.Number.Word
import SnapshotViewer.Program
import SnapshotViewer.Rehearsal.Archive
import SnapshotViewer.Rehearsal.Clock
import SnapshotViewer.Rehearsal.Session
import SnapshotViewer.Rehearsal.Streams
import SnapshotViewer.Scalar
import SnapshotViewer.Screen.Canvas
import SnapshotViewer.Screen.Content
import SnapshotViewer.Screen.Glyph
import SnapshotViewer.Screen.Render
import SnapshotViewer.Screen.Wrap
import SnapshotViewer.Session
import SnapshotViewer.Snapshot.Basic
import SnapshotViewer.Snapshot.Document
import SnapshotViewer.Snapshot.Visible
import SnapshotViewer.Startup
import SnapshotViewer.Storage.AddressFile
import SnapshotViewer.Storage.Files
import SnapshotViewer.Store
import SnapshotViewer.Text.Base64
import SnapshotViewer.Text.Blank
import SnapshotViewer.Text.CaseTable
import SnapshotViewer.Text.Lowercase
import SnapshotViewer.Text.Utf8
import SnapshotViewer.Text.WidthTable
import SnapshotViewer.Time.Calendar
import SnapshotViewer.Time.Expression
import SnapshotViewer.Time.Pattern
import SnapshotViewer.Timeline
import SnapshotViewer.Viewer.Basic
import SnapshotViewer.Viewer.Client
import SnapshotViewer.Viewer.Opening
import SnapshotViewer.Viewer.Run
import SnapshotViewer.Proofs.Address.Form
import SnapshotViewer.Proofs.Address.Meaningless
import SnapshotViewer.Proofs.Address.RoundTrip
import SnapshotViewer.Proofs.Address.Slots
import SnapshotViewer.Proofs.Address.Spelling
import SnapshotViewer.Proofs.Client.Delivery
import SnapshotViewer.Proofs.Client.Held
import SnapshotViewer.Proofs.Client.Step
import SnapshotViewer.Proofs.EventStream
import SnapshotViewer.Proofs.EventStream.Isolation
import SnapshotViewer.Proofs.EventStream.Spelling
import SnapshotViewer.Proofs.Feed.Cancelled
import SnapshotViewer.Proofs.Feed.History
import SnapshotViewer.Proofs.Feed.Ledger
import SnapshotViewer.Proofs.Feed.Live
import SnapshotViewer.Proofs.Feed.Request
import SnapshotViewer.Proofs.Feed.Subscription
import SnapshotViewer.Proofs.Feed.Supersession
import SnapshotViewer.Proofs.Feed.Telling
import SnapshotViewer.Proofs.Http.Exchange
import SnapshotViewer.Proofs.Http.Request
import SnapshotViewer.Proofs.Http.Url
import SnapshotViewer.Proofs.Json.Decoder
import SnapshotViewer.Proofs.Json.Grammar
import SnapshotViewer.Proofs.Json.Number
import SnapshotViewer.Proofs.Json.Reorder
import SnapshotViewer.Proofs.Json.Scan
import SnapshotViewer.Proofs.Keyboard.Operation
import SnapshotViewer.Proofs.Keyboard.Order
import SnapshotViewer.Proofs.Keyboard.Prompt
import SnapshotViewer.Proofs.Keyboard.Restore
import SnapshotViewer.Proofs.Keyed
import SnapshotViewer.Proofs.Navigator.Arrival
import SnapshotViewer.Proofs.Navigator.Coherence
import SnapshotViewer.Proofs.Navigator.Cursor
import SnapshotViewer.Proofs.Navigator.Cycle
import SnapshotViewer.Proofs.Navigator.Decision
import SnapshotViewer.Proofs.Navigator.Deferral
import SnapshotViewer.Proofs.Navigator.Edit
import SnapshotViewer.Proofs.Navigator.Frame
import SnapshotViewer.Proofs.Navigator.Handout
import SnapshotViewer.Proofs.Navigator.Landing
import SnapshotViewer.Proofs.Navigator.Liveness
import SnapshotViewer.Proofs.Navigator.Marked
import SnapshotViewer.Proofs.Navigator.Mirror
import SnapshotViewer.Proofs.Navigator.Offer
import SnapshotViewer.Proofs.Navigator.Walk
import SnapshotViewer.Proofs.Navigator.Writes
import SnapshotViewer.Proofs.Number.Decimal
import SnapshotViewer.Proofs.Number.Int64
import SnapshotViewer.Proofs.Outcome
import SnapshotViewer.Proofs.Run
import SnapshotViewer.Proofs.Scalar.Agreement
import SnapshotViewer.Proofs.Screen.Highlight
import SnapshotViewer.Proofs.Snapshot.Identity
import SnapshotViewer.Proofs.Snapshot.Numbered
import SnapshotViewer.Proofs.Snapshot.Reorder
import SnapshotViewer.Proofs.Snapshot.Search
import SnapshotViewer.Proofs.Snapshot.Views
import SnapshotViewer.Proofs.Startup
import SnapshotViewer.Proofs.Storage.AddressFile
import SnapshotViewer.Proofs.Storage.Atomic
import SnapshotViewer.Proofs.Storage.Folders
import SnapshotViewer.Proofs.Storage.Leftover
import SnapshotViewer.Proofs.Store
import SnapshotViewer.Proofs.Text.Lowercase
import SnapshotViewer.Proofs.Text.Order
import SnapshotViewer.Proofs.Time.Calendar
import SnapshotViewer.Proofs.Time.Distance
import SnapshotViewer.Proofs.Time.Meaning
import SnapshotViewer.Proofs.Time.Pattern
import SnapshotViewer.Proofs.Time.Reader
import SnapshotViewer.Proofs.Time.RoundTrip
import SnapshotViewer.Proofs.Timeline
import SnapshotViewer.Proofs.Viewer.Command
import SnapshotViewer.Proofs.Viewer.Connection
import SnapshotViewer.Proofs.Viewer.Moment
import SnapshotViewer.Proofs.Viewer.Notice
import SnapshotViewer.Proofs.Viewer.Saving
import SnapshotViewer.Proofs.Viewer.Secret
import SnapshotViewer.Proofs.Viewer.Step
import SnapshotViewer.Proofs.Viewer.Timeline
