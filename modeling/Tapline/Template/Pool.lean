import Tapline.Template.Render
/-!
# Lines through a pooled buffer

Lines are built in place, at the end of a growing text, and a thread keeps one such text for all
its lines. A line that is asked for while another one is being built, by a field function on its
way, cannot have that text and is built in a fresh one. A text that has grown large is given up
after use.

The functions here say what happens to the pooled text; `Template.line` says what the line is.
-/

namespace Tapline

/-- The line buffer of a thread. -/
structure LinePool where
  content : String
  capacity : Nat
  busy : Bool
deriving DecidableEq, Repr

namespace LinePool

/-- A buffer kept after use has at most this capacity. -/
def greatestKept : Nat := 65536

def fresh : LinePool := ⟨"", 512, false⟩

instance : Inhabited LinePool := ⟨fresh⟩

def claim (pool : LinePool) : LinePool := { pool with content := "", busy := true }

/-- Gives the buffer back with the line that was built in it. -/
def release (pool : LinePool) (line : String) : LinePool :=
  -- Capacity never shrinks while a buffer is kept, so one long line would hold on to it for good.
  if greatestKept < max pool.capacity line.utf8ByteSize then fresh
  else ⟨line, max pool.capacity line.utf8ByteSize, false⟩

end LinePool

/-- What is passed along while a line is built: a result, the thread's buffer, and notices. -/
structure Building (α : Type u) where
  value : α
  pool : LinePool
  notices : List Notice

/-- Replaces a character by two. -/
def replaceChar (c d e : Char) (cs : List Char) : List Char :=
  cs.flatMap (fun x => if x = c then [d, e] else [x])

/-- Appends a text to a line under way and escapes the line breaks of the part appended. -/
def appendInline (line text : String) : String :=
  if text.toList.any (fun c => c == '\n' || c == '\r') then
    line ++ String.ofList (replaceChar '\r' '\\' 'r' (replaceChar '\n' '\\' 'n' text.toList))
  else line ++ text

/-- Appends the text of fields that form a group. -/
def appendGroup (line : String) (fields : List Field) : Noted String :=
  let entries := (Field.members fields).entries
  match (Value.map entries).jsonText with
  | .ok text => .pure (line ++ text)
  | .error cause => ⟨appendInline line (Value.looseMap entries), [.looseGroup cause]⟩

mutual

/-- Runs a probe while the thread's buffer is in some state. -/
def Probe.build : Probe → LinePool → Building Field
  | .done field, pool => ⟨field, pool, []⟩
  | .report notice next, pool =>
    let rest := Probe.build next pool
    ⟨rest.value, rest.pool, notice :: rest.notices⟩
  | .render .bytes segments bag next, pool =>
    -- An outer line stands in the buffer.
    if pool.busy then
      let body := buildBody segments bag "" pool
      let rest := Probe.build (next (body.value ++ "\n")) body.pool
      ⟨rest.value, rest.pool, body.notices ++ rest.notices⟩
    else
      let body := buildBody segments bag "" pool.claim
      let line := body.value ++ "\n"
      let rest := Probe.build (next line) (body.pool.release line)
      ⟨rest.value, rest.pool, body.notices ++ rest.notices⟩
  | .render .fresh segments bag next, pool =>
    let body := buildBody segments bag "" pool
    let rest := Probe.build (next (body.value ++ "\n")) body.pool
    ⟨rest.value, rest.pool, body.notices ++ rest.notices⟩

/-- Appends what a segment contributes. -/
def Segment.build : Segment → Bag → String → LinePool → Building String
  | .literal text, _, line, pool => ⟨line ++ text, pool, []⟩
  | .call f, bag, line, pool =>
    let field := Probe.build (f bag) pool
    ⟨if field.value.skip then line else appendInline line field.value.value.display,
      field.pool, field.notices⟩
  | .group fs, bag, line, pool =>
    let fields := buildFields fs bag pool
    let text := appendGroup line fields.value
    ⟨text.value, fields.pool, fields.notices ++ text.notices⟩

/-- Runs the functions of a group. -/
def buildFields : List (Bag → Probe) → Bag → LinePool → Building (List Field)
  | [], _, pool => ⟨[], pool, []⟩
  | f :: rest, bag, pool =>
    let field := Probe.build (f bag) pool
    let fields := buildFields rest bag field.pool
    ⟨field.value :: fields.value, fields.pool, field.notices ++ fields.notices⟩

/-- Appends what segments contribute, one after the other. -/
def buildBody : List Segment → Bag → String → LinePool → Building String
  | [], _, line, pool => ⟨line, pool, []⟩
  | segment :: rest, bag, line, pool =>
    let first := Segment.build segment bag line pool
    let body := buildBody rest bag first.value first.pool
    ⟨body.value, body.pool, first.notices ++ body.notices⟩

end

namespace Template

/-- Builds a line in a fresh text. -/
def buildText (t : Template) (bag : Bag) (pool : LinePool) : Building String :=
  let body := buildBody t.segments bag "" pool
  ⟨body.value ++ "\n", body.pool, body.notices⟩

/-- Builds a line in the thread's buffer if that is free, and hands it to a user of lines before
the buffer is given back. -/
def withLine {α : Type u} (t : Template) (bag : Bag) (pool : LinePool) (use : String → α) :
    Building α :=
  if pool.busy then
    let line := t.buildText bag pool
    ⟨use line.value, line.pool, line.notices⟩
  else
    let body := buildBody t.segments bag "" pool.claim
    let line := body.value ++ "\n"
    ⟨use line, body.pool.release line, body.notices⟩

def buildBytes (t : Template) (bag : Bag) (pool : LinePool) : Building ByteArray :=
  t.withLine bag pool String.toUTF8

/-- Writes a line to a stream in one call, and gives the stream's answer. -/
def buildInto {ρ : Type u} (t : Template) (bag : Bag) (pool : LinePool)
    (writeAll : ByteArray → ρ) : Building ρ :=
  t.withLine bag pool (fun line => writeAll line.toUTF8)

end Template

end Tapline
