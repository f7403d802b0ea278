import Tapline.Context
import Tapline.KeyMap
/-!
# Spans

A span stands for a stretch of work, perhaps within another span. It keeps fields that are
recorded while the work goes on. A span is open as long as something still refers to it.
-/

namespace Tapline

/-- What is known of a span. -/
structure Span where
  name : String
  parent : Option SpanRef
  fields : KeyMap String

/-- All spans, in the order in which they were opened. -/
structure SpanLog where
  spans : List Span

namespace SpanLog

def empty : SpanLog := ⟨[]⟩

instance : Inhabited SpanLog := ⟨empty⟩

def start (log : SpanLog) (span : Span) : SpanRef × SpanLog :=
  (⟨log.spans.length + 1⟩, ⟨log.spans ++ [span]⟩)

def get? (log : SpanLog) (ref : SpanRef) : Option Span :=
  match ref.number with
  | 0 => none
  | n + 1 => log.spans[n]?

/-- Records a field of a span, over an older one of its name. -/
def record (log : SpanLog) (ref : SpanRef) (name value : String) : SpanLog :=
  ⟨log.spans.modify (ref.number - 1) fun span =>
    { span with fields := span.fields.insert name value }⟩

/-- Every span, and whether it is among those still referred to. -/
def listing (log : SpanLog) (held : List SpanRef) : List (Span × Bool) :=
  log.spans.mapIdx fun n span => (span, held.contains ⟨n + 1⟩)

end SpanLog

end Tapline
