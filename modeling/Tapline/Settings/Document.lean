import Tapline.Report.Failure
import Tapline.Settings
import Tapline.Value.Tagged
/-!
# Settings as documents

The limits of a rolling file and the way of delivery, read from documents and shown as documents,
and an account of what settings come to.
-/

namespace Tapline

namespace RollingLimits

def ofDocument (document : Json) : RollingLimits :=
  ⟨(document.get "buffer").nat, (document.get "rotate").nat, (document.get "max").nat⟩

def document (limits : RollingLimits) : Json :=
  .ofMembers [("buffer", limits.bufferSize), ("rotate", limits.rotateSize),
    ("max", limits.maxFiles)]

end RollingLimits

namespace Delivery

/-- The way of delivery that a document gives: by the capacity and interval of batches, or by a
name. -/
def ofDocument (document : Json) : Delivery :=
  if document.has "capacity" then
    .batched (.ofMillis (document.get "interval_ms").nat) (document.get "capacity").nat
  else if document.text = "buffered" then .standardBatches
  else .direct

def document : Delivery → Json
  | .direct => "sync"
  | .batched interval capacity =>
    .ofMembers [("interval", interval.tagged), ("capacity", (capacity : Json))]

end Delivery

/-- The report of settings that cannot be used. -/
def InvalidSettings.report (cause : InvalidSettings) : Json := (SetupError.invalid cause).report

/-- What settings come to. -/
def Settings.report (s : Settings) : Json :=
  .ofMembers [("json", (s.text : Json)), ("is_default", s == .standard),
    ("file_enabled", s.fileEnabled), ("file_path", s.filePath),
    ("validate", Report.result InvalidSettings.report s.validate),
    ("render_mode", s.delivery.document), ("rolling", s.rollingLimits.document)]

end Tapline
