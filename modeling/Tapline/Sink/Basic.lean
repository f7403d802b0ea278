import Tapline.Settings
import Tapline.Sink.Flusher
import Tapline.Template.Render
/-!
# Sinks

A sink renders bags with one template and hands the lines to one stream: at once, a line per
write, or through a background flusher. Closing a sink passes on everything written and makes it
refuse further records, even when passing on fails; closing again does nothing. A sink that is
given up without having been closed closes itself.
-/

namespace Tapline

/-- How the lines of a sink reach its stream. -/
inductive Target (δ : Type u) where
  | direct (stream : δ)
  | batched (flusher : Flusher δ)

/-- A template bound to a stream. -/
structure Sink (δ : Type u) where
  template : Template
  target : Target δ
  closed : Bool

/-- A sink after a call, and what came of it. What a background flusher has to tell is kept apart
from what the caller is told. -/
structure SinkStep (δ : Type u) (ε : Type v) where
  result : Except SinkError Unit
  sink : Sink δ
  around : ε
  notices : List Notice
  background : List Notice

namespace Sink

variable {δ : Type u} {ε : Type v} [ByteStream δ ε]

/-- A sink over a stream, in a way of delivery. -/
def ofStreamIn (template : Template) (stream : δ) (delivery : Delivery) (around : ε) : Sink δ × ε :=
  match delivery with
  | .direct => (⟨template, .direct stream, false⟩, around)
  | .batched _ capacity =>
    let (flusher, around) := Flusher.start stream capacity around
    (⟨template, .batched flusher, false⟩, around)

/-- Whether lines go through a background flusher. -/
def isBuffered (sink : Sink δ) : Bool :=
  match sink.target with
  | .direct _ => false
  | .batched _ => true

def stream (sink : Sink δ) : δ :=
  match sink.target with
  | .direct stream => stream
  | .batched flusher => flusher.stream

/-- The sink by its template and state. -/
def describe (sink : Sink δ) : String :=
  let flag (b : Bool) : String := if b then "true" else "false"
  "RenderSink \x7b template: " ++ Text.quoted sink.template.source ++ ", buffered: " ++
    flag sink.isBuffered ++ ", closed: " ++ flag sink.closed ++ " \x7d"

/-- A call that finds nothing to do. -/
def unchanged (sink : Sink δ) (around : ε) : SinkStep δ ε := ⟨.ok (), sink, around, [], []⟩

/-- The answer of a stream to its sink. A crash ends the run. -/
def ofStream (sink : Sink δ) (step : StreamStep δ ε) : SinkStep δ ε :=
  let sink := { sink with target := .direct step.stream }
  match step.result with
  | .ok () => ⟨.ok (), sink, step.around, step.notices, []⟩
  | .error (.refused fault) => ⟨.error (.io fault), sink, step.around, step.notices, []⟩
  | .error (.crashed cause) =>
    ⟨.error .flusherDead, sink, step.around, step.notices ++ [.fatal cause], []⟩

/-- The answer of a flusher to its sink. -/
def ofFlusher (sink : Sink δ) (step : FlusherStep δ ε) : SinkStep δ ε :=
  ⟨step.result, { sink with target := .batched step.flusher }, step.around, [], step.notices⟩

/-- Renders a bag and hands the line over. -/
def write (sink : Sink δ) (around : ε) (bag : Bag) : SinkStep δ ε :=
  if sink.closed then { sink.unchanged around with result := .error .closed }
  else
    let line := sink.template.line bag
    match sink.target with
    | .direct stream =>
      let step := sink.ofStream (ByteStream.writeAll stream around line.value.toUTF8)
      { step with notices := line.notices ++ step.notices }
    | .batched flusher =>
      -- What the stream will say of the line is not known yet.
      if flusher.alive then
        ⟨.ok (), { sink with target := .batched (flusher.send line.value.toUTF8) }, around,
          line.notices, []⟩
      else ⟨.error .flusherDead, sink, around, line.notices, []⟩

/-- Renders a bag into a stream of the caller's, in one write; the sink's own stream and its state
have no part in it. -/
def renderTo (sink : Sink δ) (stream : δ) (around : ε) (bag : Bag) : StreamStep δ ε :=
  let line := sink.template.line bag
  let step := ByteStream.writeAll stream around line.value.toUTF8
  { step with notices := line.notices ++ step.notices }

/-- Passes on everything written. A direct sink asks its stream, whether or not it is closed; a
closed batched sink has nothing left. -/
def flush (sink : Sink δ) (around : ε) : SinkStep δ ε :=
  match sink.target with
  | .direct stream => sink.ofStream (ByteStream.flush stream around)
  | .batched flusher =>
    if sink.closed then sink.unchanged around else sink.ofFlusher (flusher.sync around)

/-- Refuses records from now on, and passes on everything written. -/
def close (sink : Sink δ) (around : ε) : SinkStep δ ε :=
  if sink.closed then sink.unchanged around
  else
    -- Closed even if what follows fails.
    let sink := { sink with closed := true }
    match sink.target with
    | .direct stream => sink.ofStream (ByteStream.flush stream around)
    | .batched flusher => sink.ofFlusher (flusher.finish around)

/-- Gives the sink up, closing it first if need be. A failure to close is noted. -/
def drop (sink : Sink δ) (around : ε) : SinkStep δ ε :=
  let step := sink.close around
  let notices := match step.result with
    | .ok () => step.notices
    | .error cause => step.notices ++ [.dropFailed cause]
  match step.sink.target with
  | .direct stream =>
    let (stream, around) := ByteStream.release stream step.around
    { step with sink := { step.sink with target := .direct stream }, around, notices }
  | .batched _ => { step with notices }

/-- A move of the background flusher, if there is one. -/
def move (sink : Sink δ) (around : ε) (which : FlusherMove) : SinkStep δ ε :=
  match sink.target with
  | .direct _ => sink.unchanged around
  | .batched flusher => { sink.ofFlusher (flusher.move around which) with result := .ok () }

/-- Lets the background flusher receive every line sent. -/
def settle (sink : Sink δ) (around : ε) : SinkStep δ ε :=
  match sink.target with
  | .direct _ => sink.unchanged around
  | .batched flusher => { sink.ofFlusher (flusher.catchUp around) with result := .ok () }

end Sink

end Tapline
