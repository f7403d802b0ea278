import Tapline.Breadcrumb.Basic
import Tapline.Json.Access
import Tapline.Logger.Basic
import Tapline.Metrics
import Tapline.Span
import Tapline.Stream.Host
import Tapline.Text.Utf8
import Tapline.Value.Tagged
/-!
# Activity as documents

What a program has done so far, as documents: the notices, the files on a disk, what streams have
taken, the sinks of a logger, spans and metrics. Bytes are shown as text. A path in a notice is
shown by its last name, so that a report does not depend on where a program runs.
-/

namespace Tapline

def Severity.name : Severity → String
  | .debug => "DEBUG"
  | .warn => "WARN"
  | .error => "ERROR"

namespace Notice

/-- A field of a notice; a path is shown by its last name. -/
def reportField (name : String) (value : Json) : String × Json :=
  (name, if name = "path" then ((value.text.splitOn "/").getLastD "" : String) else value)

def report (notice : Notice) : Json :=
  .ofMembers [("level", notice.severity.name), ("message", notice.message),
    ("fields", .ofMembers (notice.fields.map fun field => reportField field.1 field.2))]

end Notice

def Report.bytes (bytes : ByteArray) : Json := Text.decodeLossy bytes

/-- Every path of a disk with the text of its file, or null for a directory. -/
def Disk.report (disk : Disk) : Json :=
  .ofMembers (disk.listing.map fun entry => (entry.1, .ofOption Report.bytes entry.2))

def StreamCall.report : StreamCall → Json
  | .wrote bytes => .object [("write", Report.bytes bytes)]
  | .writeFailed => "write failed"
  | .flushed => "flush"
  | .flushFailed => "flush failed"

/-- What a stream has to show: what is in memory, or the calls of a script. -/
def HostStream.report : HostStream → Json
  | .memory content => Report.bytes content
  | .scripted stream => .ofList StreamCall.report stream.calls.toList
  | _ => .null

/-- For each sink its template, whether it is buffered, and whether it is closed. -/
def Logger.report {δ : Type u} (logger : Logger δ) : Json :=
  .ofList (fun sink : Sink δ =>
    .array [(sink.template.source : Json), (sink.isBuffered : Json), (sink.closed : Json)])
    logger.sinks

def SpanRef.report (ref : SpanRef) : Json := ref.number

/-- Every span; one that is still referred to is open. -/
def SpanLog.report (log : SpanLog) (held : List SpanRef) : Json :=
  .ofList (fun (entry : Span × Bool) =>
    .ofMembers [("name", entry.1.name), ("parent", .ofOption SpanRef.report entry.1.parent),
      ("open", entry.2),
      ("fields", .object (entry.1.fields.entries.map fun field => (field.1, (field.2 : Json))))])
    (log.listing held)

/-- What a context refers to: its request, with the identifier shown in some way, its span, and
how many breadcrumbs its trail holds and may hold. -/
def Context.report (context : Context) (uuid : String → String) (trail : TrailRef → Trail) : Json :=
  .ofMembers [("span", .ofOption SpanRef.report context.span),
    ("request", .ofOption (fun request =>
      .ofList Json.string [uuid request.uuid, request.url, request.method]) context.request),
    ("crumbs", .ofOption (fun ref =>
      .ofList Json.ofNat [(trail ref).crumbs.length, (trail ref).capacity]) context.trail)]

/-! ### Metrics -/

namespace Family

variable {σ : Type u}

/-- The labels of a row with their values. -/
def reportLabels (family : Family σ) (values : List String) : Json :=
  .ofList (fun label : String × String => .array [(label.1 : Json), (label.2 : Json)])
    (family.labelled values)

/-- Every series with its labels, in the order of the text of the labels. -/
def report (family : Family σ) (members : σ → List (String × Json)) : Json :=
  let row (entry : List String × σ) : String × Json :=
    let labels := family.reportLabels entry.1
    (labels.write, .ofMembers (("labels", labels) :: members entry.2))
  .ofList Prod.snd ((family.series.map row).mergeSort fun a b => a.1 ≤ b.1)

end Family

def Counter.report (counter : Counter) : Json :=
  Family.report counter fun count => [("value", count)]

/-- The report of a histogram. The sum and the buckets of elapsed time differ from run to run, so
they can be withheld. -/
def Histogram.report (histogram : Histogram) (withheld : Option String) : Json :=
  Family.report histogram fun d => [("count", d.count),
    ("sum", (withheld.map Json.string).getD d.sum.tagged),
    ("buckets", (withheld.map Json.string).getD (.ofList Json.ofNat d.buckets))]

end Tapline
