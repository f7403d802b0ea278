import Tapline.Bag
import Tapline.Body
import Tapline.Breadcrumb.Basic
import Tapline.Breadcrumb.Default
import Tapline.Breadcrumb.Document
import Tapline.Context
import Tapline.Disk.Basic
import Tapline.Disk.OpenFile
import Tapline.Disk.Path
import Tapline.Failure
import Tapline.Field.Shapes
import Tapline.Field.Standard
import Tapline.Handler.Argument
import Tapline.Handler.Record
import Tapline.Handler.Tracing
import Tapline.Hook
import Tapline.Json.Access
import Tapline.Json.Basic
import Tapline.Json.Reader
import Tapline.Json.Writer
import Tapline.KeyMap
import Tapline.Logger.Basic
import Tapline.Logger.Opening
import Tapline.Metrics
import Tapline.Notice
import Tapline.Number.Binary64
import Tapline.Number.Decimal
import Tapline.Number.FloatText
import Tapline.Number.Shortest
import Tapline.Operation
import Tapline.Pipeline.Basic
import Tapline.Pipeline.CallSite
import Tapline.Pipeline.Draft
import Tapline.Pipeline.Shared
import Tapline.Proofs.Disk.Directories
import Tapline.Proofs.Disk.Nodes
import Tapline.Proofs.Disk.OpenFile
import Tapline.Proofs.Disk.Slots
import Tapline.Proofs.Json.Numeral
import Tapline.Proofs.Json.ReadBack
import Tapline.Proofs.Logger.Disks
import Tapline.Proofs.Number.Numeral
import Tapline.Proofs.Rolling.Blocks
import Tapline.Proofs.Rolling.Shift
import Tapline.Proofs.Sink.Batches
import Tapline.Proofs.Sink.History
import Tapline.Proofs.Stream.Watched
import Tapline.Proofs.Template.Cut
import Tapline.Proofs.Template.Group
import Tapline.Proofs.Template.OneLine
import Tapline.Proofs.Template.Pool
import Tapline.Proofs.Text.Unbroken
import Tapline.Proofs.Value.Encode
import Tapline.Proofs.Value.Parts
import Tapline.Proofs.Value.Soundness
import Tapline.Report.Activity
import Tapline.Report.Failure
import Tapline.Report.Pipeline
import Tapline.Report.Plain
import Tapline.Report.Value
import Tapline.RollingFile
import Tapline.Settings
import Tapline.Settings.Document
import Tapline.Sink.Basic
import Tapline.Sink.Flusher
import Tapline.Slots
import Tapline.Span
import Tapline.Stream.Basic
import Tapline.Stream.Host
import Tapline.Stream.Scripted
import Tapline.Template.Basic
import Tapline.Template.Compile
import Tapline.Template.Document
import Tapline.Template.Pool
import Tapline.Template.Registry
import Tapline.Template.Render
import Tapline.Text.Fingerprint
import Tapline.Text.Hex
import Tapline.Text.Hidden
import Tapline.Text.Identifier
import Tapline.Text.LineBreaks
import Tapline.Text.Quoted
import Tapline.Text.Utf8
import Tapline.Time.Calendar
import Tapline.Time.Clock
import Tapline.Time.Duration
import Tapline.Time.Format
import Tapline.Time.Zone
import Tapline.Toml.Basic
import Tapline.Toml.Reader
import Tapline.Toml.Scalar
import Tapline.Value.Basic
import Tapline.Value.Display
import Tapline.Value.Encode
import Tapline.Value.Tagged
import Tapline.World
import Tapline.Proofs.Sink.Delivery
import Tapline.Proofs.Sink.Losses
import Tapline.Proofs.Pipeline.Program
import Tapline.Proofs.Pipeline.Tracing
import Tapline.Proofs.Sink.Taken
import Tapline.Proofs.Pipeline.Loggers
import Tapline.Proofs.Pipeline.Records
import Tapline.Proofs.Rolling.Retention
import Tapline.Proofs.Pipeline.CallSite
import Tapline.Proofs.Logger.Independence
import Tapline.Proofs.Template.Arguments
import Tapline.Proofs.Stream.Rolling
import Tapline.Proofs.Sink.Lifecycle
import Tapline.Proofs.Sink.Rations
import Tapline.Proofs.Logger.Files
import Tapline.Proofs.Pipeline.SideBySide
import Tapline.Proofs.Pipeline.Pending
import Tapline.Proofs.Pipeline.Failures
import Tapline.Proofs.Pipeline.LoggerTrouble
import Tapline.Proofs.Pipeline.Isolation
import Tapline.Proofs.Breadcrumb.Window
import Tapline.Proofs.Context.Lineage
import Tapline.Proofs.Template.InPlace
import Tapline.Proofs.Template.Contributions
import Tapline.Proofs.Template.Joining
import Tapline.Proofs.Template.GroupOrder
import Tapline.Proofs.Value.Forms
import Tapline.Proofs.Value.Loose
import Tapline.Proofs.Json.Equality
import Tapline.Proofs.Value.Equality
import Tapline.Proofs.Rolling.Rotation
import Tapline.Proofs.Pipeline.SpanCycles
import Tapline.Proofs.Pipeline.Order
import Tapline.Proofs.Logger.Refusal
import Tapline.Proofs.Template.FileRecord
import Tapline.Proofs.Breadcrumb.Runs
import Tapline.Proofs.Metrics.Runs
import Tapline.Proofs.Value.Integers
import Tapline.Proofs.Time.Duration
