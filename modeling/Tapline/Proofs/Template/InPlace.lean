import Tapline.Proofs.Stream.Watched
import Tapline.Proofs.Template.Pool
/-!
# One buffer for all lines of a thread

`Probe.build` and its companions carry the line under way beside the thread's buffer. Here the line
stands in the buffer itself: it begins where old text is cleared away, every edit is made at its
end, an escape rewrites its last part, and a field function that asks for a line on its way is run
while the outer line stands there.

Both are the same (`Probe.run_eq`, `writeBody_own`, `writeBody_pooled`), and the reason is that
nothing touches a buffer in use: a line that is asked for meanwhile is built in a text of its own.
-/

namespace Tapline

/-! ### Lines in place -/

/-- Escapes the line breaks of a text from a character on. -/
def escapeFrom (start : Nat) (text : String) : String :=
  let tail := text.toList.drop start
  -- Most values have no line breaks and stay as they have been written.
  if tail.any (fun c => c == '\n' || c == '\r') then
    String.ofList (text.toList.take start ++
      replaceChar '\r' '\\' 'r' (replaceChar '\n' '\\' 'n' tail))
  else text

def writeInline (text line : String) : String :=
  -- The text is written first, so that its breaks stand in the line until they are escaped.
  escapeFrom line.length (line ++ text)

def Field.write (field : Field) (line : String) : String :=
  if field.skip then line else writeInline field.value.display line

/-- How the text of fields that form a group is written. -/
def writeGroup (fields : List Field) : Noted (String → String) :=
  let entries := (Field.members fields).entries
  match (Value.map entries).jsonText with
  | .ok text => .pure (· ++ text)
  | .error cause => ⟨writeInline (Value.looseMap entries), [.looseGroup cause]⟩

/-- Where a line is under way: in the thread's buffer, or in a text of its own. -/
inductive LineSpot where
  | pooled
  | own (text : String)

namespace LinePool

def start (pool : LinePool) : LineEntry → LineSpot × LinePool
  | .fresh => (.own "", pool)
  | .bytes =>
    -- A line of an outer template may stand in the buffer.
    if pool.busy then (.own "", pool) else (.pooled, pool.claim)

def edit (pool : LinePool) (change : String → String) : LineSpot → LineSpot × LinePool
  | .pooled => (.pooled, { pool with content := change pool.content })
  | .own text => (.own (change text), pool)

def finish (pool : LinePool) : LineSpot → String × LinePool
  | .pooled =>
    -- The line is what is read back from the buffer before it is given up.
    let line := pool.content ++ "\n"
    (line, pool.release line)
  | .own text => (text ++ "\n", pool)

/-- Builds one line, given how its body is written. -/
def line (pool : LinePool) (entry : LineEntry) (write : LineSpot → LinePool → Building LineSpot) :
    Building String :=
  let (spot, started) := pool.start entry
  let body := write spot started
  let (line, free) := body.pool.finish body.value
  ⟨line, free, body.notices⟩

end LinePool

mutual

/-- Runs a probe; a line that it asks for is built in place. -/
def Probe.run : Probe → LinePool → Building Field
  | .done field, pool => ⟨field, pool, []⟩
  | .report notice next, pool =>
    let rest := Probe.run next pool
    ⟨rest.value, rest.pool, notice :: rest.notices⟩
  | .render entry segments bag next, pool =>
    let line := pool.line entry (writeBody segments bag)
    let rest := Probe.run (next line.value) line.pool
    ⟨rest.value, rest.pool, line.notices ++ rest.notices⟩

/-- Writes what a segment contributes at the end of a line. -/
def Segment.write : Segment → Bag → LineSpot → LinePool → Building LineSpot
  | .literal text, _, spot, pool =>
    let (spot, pool) := pool.edit (· ++ text) spot
    ⟨spot, pool, []⟩
  | .call f, bag, spot, pool =>
    -- The function is run first, with the line under way in its place.
    let field := Probe.run (f bag) pool
    let (spot, pool) := field.pool.edit field.value.write spot
    ⟨spot, pool, field.notices⟩
  | .group fs, bag, spot, pool =>
    let fields := runFields fs bag pool
    let text := writeGroup fields.value
    let (spot, pool) := fields.pool.edit text.value spot
    ⟨spot, pool, fields.notices ++ text.notices⟩

def runFields : List (Bag → Probe) → Bag → LinePool → Building (List Field)
  | [], _, pool => ⟨[], pool, []⟩
  | f :: rest, bag, pool =>
    let field := Probe.run (f bag) pool
    let fields := runFields rest bag field.pool
    ⟨field.value :: fields.value, fields.pool, field.notices ++ fields.notices⟩

def writeBody : List Segment → Bag → LineSpot → LinePool → Building LineSpot
  | [], _, spot, pool => ⟨spot, pool, []⟩
  | segment :: rest, bag, spot, pool =>
    let first := Segment.write segment bag spot pool
    let body := writeBody rest bag first.value first.pool
    ⟨body.value, body.pool, first.notices ++ body.notices⟩

end

def Template.writeLine (t : Template) (bag : Bag) (entry : LineEntry) (pool : LinePool) :
    Building String :=
  pool.line entry (writeBody t.segments bag)

/-! ### Writing at the end -/

theorem writeInline_eq (text line : String) : writeInline text line = line ++ Text.inline text := by
  have before : (line ++ text).toList.take line.length = line.toList := by
    simp [← String.length_toList]
  have after : (line ++ text).toList.drop line.length = text.toList := by
    simp [← String.length_toList]
  unfold writeInline escapeFrom Text.inline
  simp only [before, after, replaceChar_breaks]
  split
  · simp
  · rfl

theorem Field.write_eq (field : Field) (line : String) : field.write line = line ++ field.text := by
  unfold write text
  split
  · simp
  · exact writeInline_eq _ line

theorem writeGroup_eq (fields : List Field) :
    writeGroup fields =
      ⟨(· ++ (Field.groupText fields).value), (Field.groupText fields).notices⟩ := by
  simp only [writeGroup, Field.groupText]
  cases (Value.map (Field.members fields).entries).jsonText with
  | ok text => rfl
  | error cause =>
    simp only
    congr 1
    exact funext (writeInline_eq _)

/-! ### A buffer in use -/

/-- What may become of the buffer: in use it stays just as it is, and a free one ends up free. -/
def LinePool.Kept (before after : LinePool) : Prop :=
  after.busy = before.busy ∧ (before.busy = true → after = before)

theorem LinePool.Kept.refl (pool : LinePool) : pool.Kept pool := ⟨rfl, fun _ => rfl⟩

theorem LinePool.Kept.trans {a b c : LinePool} (first : a.Kept b) (second : b.Kept c) :
    a.Kept c := by
  constructor
  · exact second.1.trans first.1
  · intro busy
    obtain rfl := first.2 busy
    exact second.2 busy

theorem LinePool.release_busy (pool : LinePool) (line : String) :
    (pool.release line).busy = false := by
  unfold release
  split <;> rfl

/-! By recursion on probes and segments: the claim that is made for a line is given up with it, and
without a claim nothing is changed. -/

mutual

theorem Probe.build_kept : ∀ (probe : Probe) (pool : LinePool), pool.Kept (probe.build pool).pool
  | .done _, pool => .refl pool
  | .report _ next, pool => Probe.build_kept next pool
  | .render entry segments bag next, pool => by
    have body := buildBody_kept segments bag "" pool
    have rest := fun line pool => Probe.build_kept (next line) pool
    cases entry with
    | fresh => exact body.trans (rest _ _)
    | bytes =>
      obtain ⟨old, capacity, busy⟩ := pool
      cases busy with
      | true => exact body.trans (rest _ _)
      | false =>
        refine ⟨?_, nofun⟩
        -- The inner line is at its end, and its buffer free, before the probe goes on.
        apply (rest _ _).1.trans
        apply LinePool.release_busy

theorem Segment.build_kept : ∀ (segment : Segment) (bag : Bag) (line : String) (pool : LinePool),
    pool.Kept (segment.build bag line pool).pool
  | .literal _, _, _, pool => .refl pool
  | .call f, bag, _, pool => Probe.build_kept (f bag) pool
  | .group fs, bag, _, pool => buildFields_kept fs bag pool

theorem buildFields_kept : ∀ (fs : List (Bag → Probe)) (bag : Bag) (pool : LinePool),
    pool.Kept (buildFields fs bag pool).pool
  | [], _, pool => .refl pool
  | f :: rest, bag, pool => (Probe.build_kept (f bag) pool).trans (buildFields_kept rest bag _)

theorem buildBody_kept : ∀ (segments : List Segment) (bag : Bag) (line : String)
    (pool : LinePool), pool.Kept (buildBody segments bag line pool).pool
  | [], _, _, pool => .refl pool
  | segment :: rest, bag, line, pool =>
    (Segment.build_kept segment bag line pool).trans (buildBody_kept rest bag _ _)

end

section

variable (bag : Bag) (line : String) (capacity : Nat)

theorem Probe.build_pool (probe : Probe) :
    (probe.build ⟨line, capacity, true⟩).pool = ⟨line, capacity, true⟩ :=
  (probe.build_kept _).2 rfl

theorem buildFields_pool (fs : List (Bag → Probe)) :
    (buildFields fs bag ⟨line, capacity, true⟩).pool = ⟨line, capacity, true⟩ :=
  (buildFields_kept fs bag _).2 rfl

theorem buildBody_pool (segments : List Segment) (inner : String) :
    (buildBody segments bag inner ⟨line, capacity, true⟩).pool = ⟨line, capacity, true⟩ :=
  (buildBody_kept segments bag inner _).2 rfl

end

/-! ### In place and beside -/

def Building.map {α : Type u} {β : Type v} (f : α → β) (b : Building α) : Building β :=
  ⟨f b.value, b.pool, b.notices⟩

namespace Template

variable (t : Template) {bag : Bag} {write : LineSpot → LinePool → Building LineSpot}
  (own : ∀ line pool, write (.own line) pool = (buildBody t.segments bag line pool).map .own)
  (pool : LinePool)

include own

theorem line_fresh : pool.line .fresh write = t.buildText bag pool := by
  simp only [LinePool.line, LinePool.start, own, Building.map, LinePool.finish, buildText]

theorem line_bytes {α : Type u} (use : String → α)
    (pooled : ∀ line capacity, write .pooled ⟨line, capacity, true⟩ =
      ⟨.pooled, ⟨line ++ (bodyText t.segments bag).value, capacity, true⟩,
        (bodyText t.segments bag).notices⟩) :
    (pool.line .bytes write).map use = t.withLine bag pool use := by
  obtain ⟨old, capacity, busy⟩ := pool
  cases busy with
  | true => simp [LinePool.line, LinePool.start, own, Building.map, LinePool.finish, withLine,
      buildText]
  | false =>
    -- The old text is cleared away, and what is read back is what was written since.
    simp [LinePool.line, LinePool.start, LinePool.claim, pooled, Building.map, LinePool.finish,
      withLine, buildBody_eq, buildBody_pool, LinePool.release]

end Template

/-! A line in a text of its own is built as it is beside the buffer, whatever happens to that
buffer meanwhile. A line in the buffer needs more: the functions that are called must have left it
as they found it, which `build_kept` says. -/

mutual

theorem Probe.run_eq : ∀ (probe : Probe) (pool : LinePool), probe.run pool = probe.build pool
  | .done _, _ => rfl
  | .report notice next, pool => by simp only [Probe.run, Probe.build, Probe.run_eq next pool]
  | .render entry segments bag next, pool => by
    have own := writeBody_own segments bag
    have pooled := writeBody_pooled segments bag
    have rest := fun line pool => Probe.run_eq (next line) pool
    cases entry with
    | fresh =>
      simp only [Probe.run, Template.line_fresh ⟨"", segments⟩ own, rest]
      rfl
    | bytes =>
      have line : pool.line .bytes (writeBody segments bag) =
          Template.withLine ⟨"", segments⟩ bag pool id :=
        Template.line_bytes ⟨"", segments⟩ own pool id pooled
      simp only [Probe.run, line, rest, Template.withLine, Probe.build]
      split <;> rfl

theorem Segment.write_own : ∀ (segment : Segment) (bag : Bag) (line : String) (pool : LinePool),
    segment.write bag (.own line) pool = (segment.build bag line pool).map .own
  | .literal _, _, _, _ => rfl
  | .call f, bag, line, pool => by
    simp only [Segment.write, Segment.build, Probe.run_eq (f bag) pool, LinePool.edit,
      Field.write_eq, Building.map, Field.text, appendInline_eq]
    split
    · simp
    · rfl
  | .group fs, bag, line, pool => by
    simp only [Segment.write, Segment.build, runFields_eq fs bag pool, LinePool.edit,
      writeGroup_eq, appendGroup_eq, Building.map]

theorem Segment.write_pooled : ∀ (segment : Segment) (bag : Bag) (line : String) (capacity : Nat),
    segment.write bag .pooled ⟨line, capacity, true⟩ =
      ⟨.pooled, ⟨line ++ (segment.text bag).value, capacity, true⟩, (segment.text bag).notices⟩
  | .literal _, _, _, _ => rfl
  | .call f, bag, line, capacity => by
    simp only [Segment.write, Probe.run_eq (f bag) _, Probe.build_pool, Probe.build_eq,
      LinePool.edit, Field.write_eq, Segment.text]
  | .group fs, bag, line, capacity => by
    simp only [Segment.write, runFields_eq fs bag _, buildFields_pool, buildFields_eq,
      LinePool.edit, writeGroup_eq, Segment.text]

theorem runFields_eq : ∀ (fs : List (Bag → Probe)) (bag : Bag) (pool : LinePool),
    runFields fs bag pool = buildFields fs bag pool
  | [], _, _ => rfl
  | f :: rest, bag, pool => by
    simp only [runFields, buildFields, Probe.run_eq (f bag) pool, runFields_eq rest bag]

theorem writeBody_own : ∀ (segments : List Segment) (bag : Bag) (line : String) (pool : LinePool),
    writeBody segments bag (.own line) pool = (buildBody segments bag line pool).map .own
  | [], _, _, _ => rfl
  | segment :: rest, bag, line, pool => by
    simp only [writeBody, buildBody, Segment.write_own segment bag line pool, Building.map,
      writeBody_own rest bag]

theorem writeBody_pooled : ∀ (segments : List Segment) (bag : Bag) (line : String)
    (capacity : Nat), writeBody segments bag .pooled ⟨line, capacity, true⟩ =
      ⟨.pooled, ⟨line ++ (bodyText segments bag).value, capacity, true⟩,
        (bodyText segments bag).notices⟩
  | [], _, _, _ => by simp [writeBody, bodyText, Noted.pure]
  | segment :: rest, bag, line, capacity => by
    simp only [writeBody, Segment.write_pooled segment bag line capacity, writeBody_pooled rest bag,
      bodyText, String.append_assoc]

end

namespace Template

variable (t : Template) (bag : Bag) (pool : LinePool)

theorem writeLine_fresh : t.writeLine bag .fresh pool = t.buildText bag pool :=
  t.line_fresh (writeBody_own t.segments bag) pool

theorem writeLine_bytes {α : Type u} (use : String → α) :
    (t.writeLine bag .bytes pool).map use = t.withLine bag pool use :=
  t.line_bytes (writeBody_own t.segments bag) pool use (writeBody_pooled t.segments bag)

theorem buildText_kept : pool.Kept (t.buildText bag pool).pool :=
  buildBody_kept t.segments bag "" pool

theorem withLine_kept {α : Type u} (use : String → α) :
    pool.Kept (t.withLine bag pool use).pool := by
  obtain ⟨old, capacity, busy⟩ := pool
  cases busy with
  | true => exact t.buildText_kept bag _
  | false => exact ⟨LinePool.release_busy _ _, nofun⟩

theorem writeLine_kept (entry : LineEntry) : pool.Kept (t.writeLine bag entry pool).pool := by
  cases entry with
  | fresh =>
    rw [writeLine_fresh]
    exact t.buildText_kept bag pool
  | bytes =>
    have kept := t.withLine_kept bag pool id
    rw [← writeLine_bytes] at kept
    exact kept

end Template

/-! ### The lines of a thread -/

/-- A line that is asked for. -/
structure Rendering where
  template : Template
  bag : Bag
  entry : LineEntry

/-- The buffer of a thread after lines that it has built, one after the other. -/
def LinePool.after (pool : LinePool) (history : List Rendering) : LinePool :=
  history.foldl (fun pool asked => (asked.template.writeLine asked.bag asked.entry pool).pool) pool

theorem LinePool.kept_after (pool : LinePool) (history : List Rendering) :
    pool.Kept (pool.after history) := by
  induction history generalizing pool with
  | nil => exact .refl pool
  | cons asked rest ih =>
    have first := asked.template.writeLine_kept asked.bag pool asked.entry
    exact first.trans (ih _)

/-- **However a line is asked for, it is the same line.** Whatever old text and capacity a thread's
buffer had at first, and whatever lines were built since, a template gives one line for a bag: as a
text, as bytes, and as the only call that a stream sees. Building in place, in the buffer or beside
it, is what gives that line. No field function changes the line that is under way while it runs,
and the buffer is free again after each line, whatever the stream has answered. -/
theorem renderings_agree (old : String) (capacity : Nat) (history : List Rendering) (t : Template)
    (bag : Bag) :
    let pool := LinePool.after ⟨old, capacity, false⟩ history
    let line := (t.line bag).value
    ((t.buildText bag pool).value = line ∧ (t.buildBytes bag pool).value = line.toUTF8 ∧
      ∀ (δ : Type u) (ε : Type v) [ByteStream δ ε] (stream : δ) (around : ε),
        let written := t.buildInto bag pool (ByteStream.writeAll (Watched.of stream) around)
        written.value.stream.asked = [.write line.toUTF8 written.value.result.isOk] ∧
          written.pool.busy = false) ∧
    (t.writeLine bag .fresh pool = t.buildText bag pool ∧
      ∀ (α : Type u) (use : String → α),
        (t.writeLine bag .bytes pool).map use = t.withLine bag pool use) ∧
    (∀ (probe : Probe) (outer : String) (room : Nat),
      (probe.run ⟨outer, room, true⟩).pool = ⟨outer, room, true⟩) ∧
    pool.busy = false ∧ ∀ entry, (t.writeLine bag entry pool).pool.busy = false := by
  intro pool line
  have free : pool.busy = false := (LinePool.kept_after _ history).1
  refine ⟨⟨t.buildText_value bag pool, t.withLine_value bag pool _, ?_⟩,
    ⟨t.writeLine_fresh bag pool, fun _ use => t.writeLine_bytes bag pool use⟩, ?_, free, ?_⟩
  · intro δ ε _ stream around written
    constructor
    · have value : written.value = ByteStream.writeAll (Watched.of stream) around line.toUTF8 :=
        t.withLine_value bag pool _
      rw [value]
      rfl
    · exact (t.withLine_kept bag pool _).1.trans free
  · intro probe outer room
    rw [probe.run_eq]
    exact probe.build_pool outer room
  · intro entry
    exact (t.writeLine_kept bag pool entry).1.trans free

/-- A field function renders its own line while the outer one stands in the buffer. -/
example :
    let inner : FieldFunction := fun bag =>
      .render .bytes [.literal "b"] bag fun line => .done (.shown "k" (.text line))
    (Template.mk "a%q" [.literal "a", .call inner]).writeLine ∅ .bytes ⟨"old", 600, false⟩ =
      ⟨"ab\\n\n", ⟨"ab\\n\n", 600, false⟩, []⟩ := by
  rfl

end Tapline
