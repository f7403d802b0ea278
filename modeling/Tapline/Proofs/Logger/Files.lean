import Tapline.Logger.Opening
import Tapline.Proofs.Logger.Independence
import Tapline.Proofs.Sink.Rations
import Tapline.Proofs.Stream.Rolling
/-!
# The log files of a logger

The file sink of a logger hands its lines to a rolling file, one at a time or in batches, and the
rolling file looks at its size limit once for each piece that it is handed. So no record is ever
split over two files, but the limit holds per piece: a file that outgrows it holds one line if the
sink is direct, and one batch if it is not.

## Main result

`files_hold_groups`, over every run of a logger that is opened where there are no log files yet.

## Proof strategy

Three facts meet: the file sink comes as far as it does alone (`Alongside`), its lines reach its
stream in groups (`lines_reach_in_groups`), and the rolling file keeps the newest blocks of what
reaches it (`fills_keeps`).
-/

namespace Tapline

open RollingFile (joined blocks)

variable {δ : Type u} {ε : Type v}

/-! ### Watching a logger -/

/-- A sink whose stream is watched from now on. -/
def Sink.watched (sink : Sink δ) : Sink (Watched δ) :=
  { sink with target := match sink.target with
    | .direct stream => .direct (.of stream)
    | .batched flusher => .batched { flusher with stream := .of flusher.stream } }

/-- A logger whose streams are all watched from now on. -/
def Logger.watched (logger : Logger δ) : Logger (Watched δ) := ⟨logger.sinks.map Sink.watched⟩

/-- Streams that are watched are alike if they were asked the same besides. -/
def Watched.Alike (alike : Nat → δ → ε → δ → ε → Prop) (n : Nat) (stream : Watched δ) (around : ε)
    (stream' : Watched δ) (around' : ε) : Prop :=
  stream'.asked = stream.asked ∧ alike n stream.inner around stream'.inner around'

/-- Watching streams that are apart leaves them apart. -/
theorem Apart.watched [ByteStream δ ε] {alike : Nat → δ → ε → δ → ε → Prop} (apart : Apart alike) :
    Apart (Watched.Alike alike) := by
  have unnoticed : ∀ {n : Nat} {before after : ε}, Unnoticed alike (· ≠ n) before after →
      Unnoticed (Watched.Alike alike) (· ≠ n) before after := by
    intro n before after inner m other stream stream' around' same
    exact ⟨same.1, inner m other _ _ _ same.2⟩
  constructor
  · intro n stream around stream' around' bytes same
    have inner := apart.writeAll n _ _ _ _ bytes same.2
    refine ⟨inner.result, inner.notices, ⟨?_, inner.stream⟩, unnoticed inner.unnoticed⟩
    have result : (ByteStream.writeAll stream' around' bytes).result =
        (ByteStream.writeAll stream around bytes).result := inner.result
    rw [Watched.asked_writeAll, Watched.asked_writeAll, same.1, result]
  · intro n stream around stream' around' same
    have inner := apart.flush n _ _ _ _ same.2
    refine ⟨inner.result, inner.notices, ⟨?_, inner.stream⟩, unnoticed inner.unnoticed⟩
    have result : (ByteStream.flush stream' around').result =
        (ByteStream.flush stream around).result := inner.result
    rw [Watched.asked_flush, Watched.asked_flush, same.1, result]
  · intro n stream around stream' around' same
    have inner := apart.release n _ _ _ _ same.2
    exact ⟨⟨same.1, inner.1⟩, unnoticed inner.2⟩

/-- The last sink comes as far as the last one alone. -/
theorem Alongside.last {alike : Nat → δ → ε → δ → ε → Prop} {around : ε} {n : Nat}
    {sinks : List (Sink δ)} {alone : List (SinkHistory δ ε)}
    (along : Alongside alike around n sinks alone) {history : SinkHistory δ ε}
    (last : alone.getLast? = some history) :
    ∃ place sink, sinks.getLast? = some sink ∧
      alike place sink.stream around history.sink.stream history.around := by
  induction along with
  | nil n => cases last
  | @cons n sink sinks first alone same stream rest ih =>
    cases rest with
    | nil =>
      obtain rfl : first = history := by simpa using last
      exact ⟨n, sink, rfl, stream⟩
    | cons same' stream' rest' =>
      rw [List.getLast?_cons_cons] at last ⊢
      exact ih last

namespace LoggerEvent

def bag? : LoggerEvent → Option Bag
  | print bag => some bag
  | _ => none

def isClose : LoggerEvent → Bool
  | close => true
  | _ => false

/-- The bags that are printed before a logger is closed. -/
def printed (events : List LoggerEvent) : List Bag :=
  (events.takeWhile fun event => !event.isClose).filterMap bag?

/-- Every sink is given what is printed. -/
theorem written_forSink (events : List LoggerEvent) (n : Nat) :
    SinkEvent.written (events.filterMap (forSink n)) = printed events := by
  induction events with
  | nil => rfl
  | cons event rest ih =>
    cases event with
    | print bag => exact congrArg (bag :: ·) ih
    | flush => exact ih
    | close => rfl
    | move place which =>
      -- A move reaches its own sink or none, and brings no record to either.
      by_cases own : place = n
      · have reaches : (move place which).forSink n = some (.move which) := if_pos own
        rw [List.filterMap_cons_some reaches]
        exact ih
      · have misses : (move place which).forSink n = none := if_neg own
        rw [List.filterMap_cons_none misses]
        exact ih

end LoggerEvent

/-! ### Opening -/

theorem RollingFile.bufferSize_le_of_openIn {directory name : String} {limits : RollingLimits}
    {start opened : Disk} {file : RollingFile}
    (opening : openIn directory name limits start = (.ok file, opened)) :
    limits.bufferSize ≤ greatestBuffer :=
  bufferSize_le_of_reopen (exists_of_openIn opening).1

namespace Logger

theorem terminalSinks_cases {settings : Settings} {registry : Registry}
    {terminals : List (Sink HostStream)}
    (made : terminalSinks settings registry = .ok terminals) :
    (settings.stdout = false ∧ terminals = []) ∨
    (settings.stdout = true ∧ ∃ template,
      Template.compile settings.stdoutPattern registry = .ok template ∧
        terminals = [⟨template, .direct .terminal, false⟩]) := by
  unfold terminalSinks at made
  split at made
  next printing =>
    split at made
    · cases made
    next template compiled => exact .inr ⟨printing, template, compiled, (Except.ok.inj made).symm⟩
  next silent => exact .inl ⟨Bool.eq_false_iff.mpr silent, (Except.ok.inj made).symm⟩

theorem terminals_of_terminalSinks {settings : Settings} {registry : Registry}
    {terminals : List (Sink HostStream)}
    (made : terminalSinks settings registry = .ok terminals) :
    terminals = [] ∨ ∃ template, terminals = [⟨template, .direct .terminal, false⟩] := by
  rcases terminalSinks_cases made with ⟨-, rfl⟩ | ⟨-, template, -, rfl⟩
  · exact .inl rfl
  · exact .inr ⟨template, rfl⟩

/-- What a logger with a file sink is made of. -/
theorem exists_of_ofSettings {settings : Settings} {registry : Registry} {host : Host}
    {logger : Logger HostStream}
    (opening : (ofSettings settings registry host).result = .ok logger)
    (enabled : settings.fileEnabled = true) :
    ∃ template terminals file disk,
      Template.compile settings.filePattern registry = .ok template ∧
      terminalSinks settings registry = .ok terminals ∧
      RollingFile.openIn settings.directory settings.fileName settings.rollingLimits host.disk =
        (.ok file, disk) ∧
      let opened := Sink.ofStreamIn template (.rolling file) settings.delivery { host with disk }
      logger.sinks = terminals ++ [opened.1] ∧
        (ofSettings settings registry host).host = opened.2 := by
  unfold ofSettings at opening ⊢
  cases valid : settings.validate with
  | error cause => simp [valid] at opening
  | ok =>
    simp only [valid] at opening ⊢
    cases others : terminalSinks settings registry with
    | error cause => simp [others] at opening
    | ok terminals =>
      simp only [others, enabled, if_true] at opening ⊢
      cases compiled : Template.compile settings.filePattern registry with
      | error cause => simp [compiled] at opening
      | ok template =>
        simp only [compiled] at opening ⊢
        unfold addFileSink at opening ⊢
        rcases made : RollingFile.openIn settings.directory settings.fileName
          settings.rollingLimits host.disk with ⟨fault | file, disk⟩
        · cases fault <;> simp [made] at opening
        · simp only [made] at opening ⊢
          obtain rfl := Except.ok.inj opening
          exact ⟨template, terminals, file, disk, rfl, rfl, rfl, rfl, rfl⟩

end Logger

theorem SinkHistory.ofStream_eq_start [ByteStream δ ε] (template : Template) (stream : δ)
    (delivery : Delivery) (around : ε) : ofStream template stream delivery around =
      start (Sink.ofStreamIn template stream delivery around).1
        (Sink.ofStreamIn template stream delivery around).2 := rfl

/-- Unless its flusher cannot be started, a sink is opened without a call on its stream. -/
theorem Sink.stream_ofStreamIn [ByteStream δ ε] (template : Template) (stream : δ)
    {delivery : Delivery} (possible : delivery.Possible) (around : ε) :
    (ofStreamIn template stream delivery around).1.stream = stream ∧
      (ofStreamIn template stream delivery around).2 = around := by
  cases delivery with
  | direct => exact ⟨rfl, rfl⟩
  | batched interval capacity =>
    simp only [ofStreamIn, Flusher.start, if_pos possible.2]
    exact ⟨rfl, trivial⟩

/-- It makes no difference whether the stream is watched before that or after. -/
theorem Sink.watched_ofStreamIn [ByteStream δ ε] (template : Template) (stream : δ)
    {delivery : Delivery} (possible : delivery.Possible) (around : ε) :
    ofStreamIn template (Watched.of stream) delivery around =
      ((ofStreamIn template stream delivery around).1.watched, around) := by
  cases delivery with
  | direct => rfl
  | batched interval capacity =>
    simp only [ofStreamIn, Flusher.start, if_pos possible.2]
    rfl

theorem Settings.possible_delivery {settings : Settings}
    (possible : settings.bufferSize ≤ RollingFile.greatestBuffer) : settings.delivery.Possible := by
  unfold delivery
  split
  · exact ⟨Nat.lt_of_lt_of_le Nat.zero_lt_one (Nat.le_max_right _ _),
      Nat.max_le.mpr ⟨possible, by decide⟩⟩
  · trivial

/-! ### The file sink -/

/-- Each stream has its own share of the host at the start. -/
theorem Logger.alongside_start {terminals : List (Sink HostStream)}
    (others : terminals = [] ∨ ∃ other, terminals = [⟨other, .direct .terminal, false⟩])
    {fileSink : Sink (Watched HostStream)} {file : RollingFile}
    (stream : fileSink.stream = .of (.rolling file)) (host : Host) :
    let sinks := terminals.map Sink.watched ++ [fileSink]
    Alongside (Watched.Alike (HostStream.Alike terminals.length 0)) host 0 sinks
      (sinks.map (SinkHistory.start · host)) := by
  intro sinks
  apply Alongside.start
  intro place sink found
  refine ⟨rfl, rfl, ?_⟩
  rcases others with rfl | ⟨other, rfl⟩
  · match place with
    | 0 =>
      obtain rfl := Option.some.inj found
      rw [stream]
      exact ⟨rfl, rfl⟩
  · match place with
    | 0 =>
      obtain rfl := Option.some.inj found
      exact ⟨rfl, rfl⟩
    | 1 =>
      obtain rfl := Option.some.inj found
      rw [stream]
      exact ⟨rfl, rfl⟩

/-- The file sink among the others comes as far as it does alone. -/
theorem Logger.file_sink_alone {terminals : List (Sink HostStream)}
    (others : terminals = [] ∨ ∃ other, terminals = [⟨other, .direct .terminal, false⟩])
    (template : Template) (file : RollingFile) {delivery : Delivery}
    (possible : delivery.Possible) (host : Host) (events : List LoggerEvent) :
    let logger : Logger HostStream :=
      ⟨terminals ++ [(Sink.ofStreamIn template (.rolling file) delivery host).1]⟩
    let run := logger.watched.after host events
    let alone := (SinkHistory.ofStream template (Watched.of (HostStream.rolling file)) delivery
      host).run (events.filterMap (LoggerEvent.forSink terminals.length))
    ∃ sink, run.1.sinks.getLast? = some sink ∧
      sink.stream.asked = alone.sink.stream.asked ∧
      ∀ file', alone.sink.stream.inner = .rolling file' → run.2.disk = alone.around.disk := by
  intro logger run alone
  generalize opened : Sink.ofStreamIn template (Watched.of (HostStream.rolling file)) delivery
    host = fileSink
  have watched := Sink.watched_ofStreamIn template (HostStream.rolling file) possible host
  obtain ⟨stream, -⟩ :=
    Sink.stream_ofStreamIn template (Watched.of (HostStream.rolling file)) possible host
  rw [opened] at watched stream
  have sinks : logger.watched.sinks = terminals.map Sink.watched ++ [fileSink.1] := by
    rw [watched]
    simp [logger, Logger.watched]
  have apart := (HostStream.apart_host terminals.length 0).watched
  have begun := alongside_start others stream host
  rw [← sinks] at begun
  have ended := begun.after apart events
  -- The file sink is behind all the others.
  have last : ((logger.watched.sinks.map (SinkHistory.start · host)).mapIdx fun n history =>
      history.run (events.filterMap (LoggerEvent.forSink n))).getLast? = some alone := by
    have start : SinkHistory.ofStream template (Watched.of (HostStream.rolling file)) delivery
        host = SinkHistory.start fileSink.1 host := by
      rw [SinkHistory.ofStream_eq_start, opened, watched]
    rw [sinks, List.map_append, List.map_singleton, List.mapIdx_concat, List.getLast?_concat]
    simp only [alone, start, List.length_map]
  obtain ⟨place, sink, found, asked, inner, seen⟩ := ended.last last
  refine ⟨sink, found, asked.symm, fun file' rolling => ?_⟩
  rw [← inner, rolling] at seen
  exact seen.2.symm

/-- What the file sink leaves on the disk by itself, if no call on its stream fails. -/
theorem file_sink_content {directory name : String} {limits : RollingLimits} {host : Host}
    {file : RollingFile} {disk : Disk}
    (opening : RollingFile.openIn directory name limits host.disk = (.ok file, disk))
    (sound : host.disk.Sound)
    (fresh : ∀ n, (host.disk.makeDirectories (Location.ofText directory)).2.holds
      ((Location.ofText (joinPath directory name)).slot n) = false)
    (template : Template) {delivery : Delivery} (possible : delivery.Possible)
    {events : List SinkEvent} (closing : .close ∈ events) :
    let run := (SinkHistory.ofStream template (Watched.of (HostStream.rolling file)) delivery
      { host with disk }).run events
    (∀ call ∈ run.sink.stream.asked, call.done = true) →
      ∃ (file' : RollingFile) (groups : List (List ByteArray)), run.sink.stream.inner = .rolling file' ∧
        groups.flatten = (SinkEvent.written events).map template.bytes ∧
        (∀ group ∈ groups, delivery.AtOnce group) ∧
        ∀ n, run.around.disk.contentAt? ((Location.ofText (joinPath directory name)).slot n) =
          (((blocks limits.rotateSize [] (groups.map joined)).reverse.map joined).take
            (limits.maxFiles + 1))[n]? := by
  intro run done
  obtain ⟨path, base, given, clear⟩ := RollingFile.given_of_openIn opening sound fresh
  have sturdy : HostStream.Sturdy (.rolling file) := by
    rw [HostStream.Sturdy, given.limits_eq]
    exact RollingFile.bufferSize_le_of_openIn opening
  obtain ⟨groups, attempts, lines, atOnce, last⟩ :=
    SinkHistory.lines_reach_in_groups HostStream.steady_sturdy.watched sturdy template possible
      { host with disk } closing
  -- The rolling file keeps the newest blocks of whatever reaches it.
  have start : Watched.Fills ⟨directory, name, limits, none, 0⟩ path base
      (SinkHistory.ofStream template (Watched.of (HostStream.rolling file)) delivery
        { host with disk }).sink.stream
      (SinkHistory.ofStream template (Watched.of (HostStream.rolling file)) delivery
        { host with disk }).around := by
    obtain ⟨stream, around⟩ := Sink.stream_ofStreamIn template
      (Watched.of (HostStream.rolling file)) possible { host with disk }
    rw [SinkHistory.ofStream_eq_start, SinkHistory.start, stream, around]
    exact fun _ => ⟨file, rfl, given, fun _ => clear⟩
  obtain ⟨file', inner, given', clear'⟩ :=
    SinkHistory.keeps_run (Watched.fills_keeps _ path base) start events done
  refine ⟨file', groups, inner, lines, atOnce, fun n => ?_⟩
  rw [attempts] at given'
  exact given'.contentAt? (clear' (last done)) n

theorem eq_map_of_singles {α : Type u} {groups : List (List α)}
    (singles : ∀ group ∈ groups, group.length = 1) :
    groups = groups.flatten.map fun element => [element] := by
  induction groups with
  | nil => rfl
  | cons group rest ih =>
    obtain ⟨element, rfl⟩ := List.length_eq_one_iff.mp (singles group List.mem_cons_self)
    rw [List.flatten_cons, List.map_append,
      ← ih fun other member => singles other (List.mem_cons_of_mem _ member)]
    rfl

/-- Blocks of groups are runs of whole lines, and a block that outgrows the limit is one group. -/
theorem lines_of_block {limit : Nat} (limited : 0 < limit) {groups : List (List ByteArray)}
    {block : List ByteArray} (member : block ∈ blocks limit [] (groups.map joined)) :
    (∃ whole, whole <:+: groups.flatten ∧ joined block = joined whole) ∧
      (limit < (joined block).size → ∃ group ∈ groups, joined block = joined group) := by
  have pieces := RollingFile.flatten_blocks limit [] (groups.map joined)
  rw [List.nil_append] at pieces
  constructor
  · -- A block is a run of pieces, and each piece is one group.
    obtain ⟨before, behind, split⟩ := List.append_of_mem member
    rw [split, List.flatten_append, List.flatten_cons] at pieces
    obtain ⟨earlier, rest, rfl, -, same⟩ := List.append_eq_map_iff.mp pieces
    obtain ⟨within, later, rfl, rfl, -⟩ := List.map_eq_append_iff.mp same
    refine ⟨within.flatten, ⟨earlier.flatten, later.flatten, ?_⟩, ?_⟩
    · rw [List.flatten_append, List.flatten_append, List.append_assoc]
    · rw [joined_flatten]
  · intro outgrown
    have begun : limit < (joined []).size → ∃ piece ∈ ([] : List ByteArray), joined [] = piece :=
      fun beyond => absurd beyond (Nat.not_lt_zero limit)
    obtain ⟨piece, inside, alone⟩ :=
      RollingFile.single_of_outgrown limited begun block member outgrown
    have among : piece ∈ groups.map joined := by
      rw [← pieces]
      exact List.mem_flatten.mpr ⟨block, member, inside⟩
    obtain ⟨group, within, rfl⟩ := List.mem_map.mp among
    exact ⟨group, within, alone⟩

/-! ### The main result -/

/-- **Records are never split over log files, and the limit holds per group of lines.** -/
theorem files_hold_groups {settings : Settings} {registry : Registry} {host : Host}
    {logger : Logger HostStream}
    (opening : (Logger.ofSettings settings registry host).result = .ok logger)
    (enabled : settings.fileEnabled = true) (limited : 0 < settings.rotateSize)
    (sound : host.disk.Sound)
    (fresh : ∀ n, (host.disk.makeDirectories (Location.ofText settings.directory)).2.holds
      ((Location.ofText settings.filePath).slot n) = false)
    (events : List LoggerEvent) (closing : .close ∈ events) :
    let run := logger.watched.after (Logger.ofSettings settings registry host).host events
    let content (n : Nat) := run.2.disk.contentAt? ((Location.ofText settings.filePath).slot n)
    ∃ template file, Template.compile settings.filePattern registry = .ok template ∧
      run.1.sinks.getLast? = some file ∧
      let lines := (LoggerEvent.printed events).map template.bytes
      ((∀ call ∈ file.stream.asked, call.done = true) → ∃ groups : List (List ByteArray),
        groups.flatten = lines ∧
        (settings.asyncFlush = false → groups = lines.map fun line => [line]) ∧
        (∀ group ∈ groups, (joined group.dropLast).size < max settings.bufferSize 1) ∧
        (∀ n, content n = (((blocks settings.rotateSize [] (groups.map joined)).reverse.map
          joined).take (settings.maxFiles + 1))[n]?) ∧
        ∀ n bytes, content n = some bytes →
          (∃ whole, whole <:+: lines ∧ bytes = joined whole) ∧
          (settings.rotateSize < bytes.size → ∃ group ∈ groups, bytes = joined group)) := by
  intro run content
  obtain ⟨template, terminals, file, disk, compiled, others, made, sinks, left⟩ :=
    Logger.exists_of_ofSettings opening enabled
  have possible : settings.delivery.Possible :=
    Settings.possible_delivery (RollingFile.bufferSize_le_of_openIn made)
  obtain ⟨-, unchanged⟩ := Sink.stream_ofStreamIn template (HostStream.rolling file) possible
    { host with disk }
  have shape : logger = ⟨terminals ++ [(Sink.ofStreamIn template (HostStream.rolling file)
      settings.delivery { host with disk }).1]⟩ := congrArg Logger.mk sinks
  have ran : run = Logger.after (Logger.watched ⟨terminals ++
      [(Sink.ofStreamIn template (HostStream.rolling file) settings.delivery
        { host with disk }).1]⟩) { host with disk } events := by
    simp only [run, left, unchanged, ← shape]
  -- From here on the file sink can be looked at by itself.
  obtain ⟨sink, found, asked, seen⟩ := Logger.file_sink_alone
    (Logger.terminals_of_terminalSinks others) template file possible { host with disk } events
  rw [← ran] at found
  simp only [← ran] at seen
  refine ⟨template, sink, compiled, found, fun done => ?_⟩
  rw [asked] at done
  have closing' : SinkEvent.close ∈ events.filterMap (LoggerEvent.forSink terminals.length) :=
    List.mem_filterMap.mpr ⟨.close, closing, rfl⟩
  obtain ⟨file', groups, inner, lines, atOnce, contents⟩ :=
    file_sink_content made sound fresh template possible closing' done
  rw [LoggerEvent.written_forSink] at lines
  have contents' : ∀ n, content n = (((blocks settings.rotateSize [] (groups.map joined)).reverse.map
      joined).take (settings.maxFiles + 1))[n]? := by
    intro n
    simp only [content, seen file' inner]
    exact contents n
  refine ⟨groups, lines, fun direct => ?_, fun group member => ?_, contents', ?_⟩
  · rw [← lines]
    apply eq_map_of_singles
    intro group member
    have one := atOnce group member
    rw [Settings.delivery, direct] at one
    exact one
  · have one := atOnce group member
    unfold Settings.delivery at one
    split at one
    · exact one
    · -- Without its only line nothing is left of a group.
      obtain ⟨line, rfl⟩ := List.length_eq_one_iff.mp one
      exact Nat.lt_of_lt_of_le Nat.zero_lt_one (Nat.le_max_right _ _)
  · intro n bytes found
    rw [contents'] at found
    obtain ⟨block, inside, rfl⟩ := List.mem_map.mp (List.mem_of_mem_take (List.mem_of_getElem? found))
    rw [← lines]
    exact lines_of_block limited (List.mem_reverse.mp inside)

/-! ### Two lines -/

/-- A log file that may reach four bytes, with two older ones. -/
def fourByteSettings (asyncFlush : Bool) : Settings :=
  { Settings.standard with
    stdout := false, directory := "d", fileName := "f", filePattern := "%k", bufferSize := 100
    rotateSize := 4, maxFiles := 2, asyncFlush }

/-- The registry that `keyTemplate` is compiled with. -/
def keyRegistry : Registry := ⟨[('k', fun bag => .done (.shown "k" (.text (bag.text "k"))))]⟩

/-- The file of these settings as it is opened. -/
def fourByteFile : RollingFile := ⟨"d", "f", ⟨100, 4, 2⟩, some ⟨0, .empty, 100⟩, 0⟩

/-- Two lines of four bytes each outgrow the limit together, so the first is moved to a backup. -/
theorem two_lines_two_files :
    let settings := fourByteSettings false
    let opened := Logger.ofSettings settings keyRegistry default
    let events : List LoggerEvent :=
      [.print (keyBag "aaa"), .flush, .print (keyBag "bbb"), .close]
    ∃ logger, opened.result = .ok logger ∧
      let disk := (logger.watched.after opened.host events).2.disk
      ∀ n, disk.contentAt? ((Location.ofText settings.filePath).slot n) =
        ["bbb\n".toUTF8, "aaa\n".toUTF8][n]? := by
  intro settings opened events
  let logger : Logger HostStream := ⟨[⟨keyTemplate, .direct (.rolling fourByteFile), false⟩]⟩
  have opening : (Logger.ofSettings settings keyRegistry default).result = .ok logger := by cbv
  -- The directory is new, so no slot of the row is taken.
  have fresh : ∀ n, ((default : Host).disk.makeDirectories
      (Location.ofText settings.directory)).2.holds
        ((Location.ofText settings.filePath).slot n) = false := by
    intro n
    have ready : ((default : Host).disk.makeDirectories (Location.ofText settings.directory)).2 =
        ⟨[(["d"], .directory)], #[]⟩ := by cbv
    have place : Location.ofText settings.filePath = ⟨[.into "d"], some "f", false, 3⟩ := by cbv
    have row : Disk.Row ⟨[(["d"], .directory)], #[]⟩ (Location.ofText settings.filePath) ["d"] "f" :=
      ⟨by rw [place]; rfl, by rw [place], by rw [place]⟩
    rw [ready, row.holds_slot, row.slots_eq_none]
    · rfl
    · rfl
  obtain ⟨template, sink, compiled, found, whole⟩ :=
    files_hold_groups opening (by cbv) (by decide) Disk.sound_empty fresh events
      (by simp [events])
  obtain rfl : keyTemplate = template := by
    have compiled' : Template.compile settings.filePattern keyRegistry = .ok keyTemplate := by cbv
    exact Except.ok.inj (compiled'.symm.trans compiled)
  have asked : (logger.watched.after (Logger.ofSettings settings keyRegistry default).host
      events).1.sinks.getLast?.map (·.stream.asked) =
        some [.write "aaa\n".toUTF8 true, .flush true, .write "bbb\n".toUTF8 true, .flush true] := by
    cbv
  rw [found, Option.map_some, Option.some.injEq] at asked
  obtain ⟨groups, -, singles, -, contents, -⟩ := whole (by rw [asked]; decide)
  refine ⟨logger, opening, ?_⟩
  intro disk n
  refine (contents n).trans (congrArg (·[n]?) ?_)
  rw [singles rfl]
  cbv

/-- Through a flusher both lines are one batch, and so one file, which holds more than one record
and outgrows the limit. -/
theorem two_lines_one_file :
    let settings := fourByteSettings true
    let opened := Logger.ofSettings settings keyRegistry default
    let events : List LoggerEvent := [.print (keyBag "aaa"), .print (keyBag "bbb"), .close]
    ∃ logger, opened.result = .ok logger ∧
      let run := logger.watched.after opened.host events
      run.1.sinks.getLast?.map (·.stream.asked) =
          some [.write "aaa\nbbb\n".toUTF8 true, .flush true] ∧
        run.2.disk.contentAt? (Location.ofText settings.filePath) = some "aaa\nbbb\n".toUTF8 ∧
        settings.rotateSize < "aaa\nbbb\n".toUTF8.size ∧
        run.2.disk.contentAt? ((Location.ofText settings.filePath).slot 1) = none := by
  intro settings opened events
  let logger : Logger HostStream :=
    ⟨[⟨keyTemplate, .batched ⟨.rolling fourByteFile, 100, [], .empty, true⟩, false⟩]⟩
  have opening : (Logger.ofSettings settings keyRegistry default).result = .ok logger := by cbv
  have left : (Logger.ofSettings settings keyRegistry default).host =
      ⟨⟨[(["d", "f"], .file 0), (["d"], .directory)], #[.empty]⟩, .empty⟩ := by cbv
  refine ⟨logger, opening, ?_⟩
  simp only [opened, left]
  refine ⟨?_, ?_, by decide, ?_⟩
  · cbv
  · cbv
  · cbv

end Tapline
