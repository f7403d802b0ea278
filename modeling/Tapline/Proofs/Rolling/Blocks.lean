import Mathlib
import Tapline.Proofs.Disk.OpenFile
import Tapline.Proofs.Disk.Operations
import Tapline.Proofs.Rolling.Shift
/-!
# What a rolling file keeps

What is written falls into blocks: a record begins a new one exactly if a size limit is set and the
block so far, which holds something, would outgrow it. The blocks are never split or joined on the
disk. The active file and its backups are the newest of them in order, as many as may be kept, and
what is lost is always the oldest.

## Main result

`newest_blocks_kept`, from the opening of a rolling file over any run of writes to the last flush.

The invariant is `Stacked`: every slot up to some number holds a file of its own, the open one
included, and the slots behind are free. A write changes the content of the first slot, a rotation
moves all of them up.
-/

namespace Tapline.RollingFile

open Disk

/-! ### Blocks -/

/-- Pieces one after the other. -/
def joined (pieces : List ByteArray) : ByteArray := pieces.foldl (· ++ ·) .empty

/-- Whether a record begins a new block: there is a limit, and the block so far holds something and
would outgrow it with the record. -/
def BeginsBlock (limit current incoming : Nat) : Prop :=
  0 < limit ∧ 0 < current ∧ limit < current + incoming

instance (limit current incoming : Nat) : Decidable (BeginsBlock limit current incoming) :=
  inferInstanceAs (Decidable (_ ∧ _))

/-- The blocks that records form behind a block that is begun. -/
def blocks (limit : Nat) (block : List ByteArray) : List ByteArray → List (List ByteArray)
  | [] => [block]
  | record :: rest =>
    if BeginsBlock limit (joined block).size record.size then
      block :: blocks limit [record] rest
    else blocks limit (block ++ [record]) rest

theorem joined_concat (block : List ByteArray) (record : ByteArray) :
    joined (block ++ [record]) = joined block ++ record := by
  simp only [joined, List.foldl_append, List.foldl_cons, List.foldl_nil]

theorem joined_singleton (record : ByteArray) : joined [record] = record := by
  simp [joined]

theorem flatten_blocks (limit : Nat) (block records : List ByteArray) :
    (blocks limit block records).flatten = block ++ records := by
  induction records generalizing block with
  | nil => simp [blocks]
  | cons record rest ih =>
    rw [blocks]
    split
    · rw [List.flatten_cons, ih]
      simp
    · rw [ih]
      simp

theorem blocks_ne_nil (limit : Nat) (block records : List ByteArray) :
    blocks limit block records ≠ [] := by
  induction records generalizing block with
  | nil => simp [blocks]
  | cons record rest ih =>
    rw [blocks]
    split
    · exact List.cons_ne_nil _ _
    · exact ih _

/-- Records that come later go on from the last block. -/
theorem reverse_blocks_append {limit : Nat} {block records last : List ByteArray}
    {done : List (List ByteArray)} (so_far : (blocks limit block records).reverse = last :: done)
    (later : List ByteArray) :
    (blocks limit block (records ++ later)).reverse =
      (blocks limit last later).reverse ++ done := by
  induction records generalizing block done with
  | nil =>
    obtain ⟨rfl, rfl⟩ : block = last ∧ [] = done := by simpa [blocks] using so_far
    simp
  | cons record rest ih =>
    rw [List.cons_append, blocks]
    rw [blocks] at so_far
    split
    next begins =>
      rw [if_pos begins, List.reverse_cons] at so_far
      -- The blocks behind the first end as all of them do.
      obtain ⟨last', done', behind⟩ := List.exists_cons_of_ne_nil
        (List.reverse_ne_nil_iff.mpr (blocks_ne_nil limit [record] rest))
      rw [behind, List.cons_append, List.cons.injEq] at so_far
      obtain ⟨rfl, rfl⟩ := so_far
      rw [List.reverse_cons, ih behind, List.append_assoc]
    next joins =>
      rw [if_neg joins] at so_far
      exact ih so_far

/-- A block outgrows the limit only as a single piece, or as one behind nothing. -/
theorem single_of_outgrown {limit : Nat} (limited : 0 < limit) {block records : List ByteArray}
    (begun : limit < (joined block).size → ∃ piece ∈ block, joined block = piece) :
    ∀ b ∈ blocks limit block records, limit < (joined b).size → ∃ piece ∈ b, joined b = piece := by
  induction records generalizing block with
  | nil =>
    intro b member
    obtain rfl : b = block := by simpa [blocks] using member
    exact begun
  | cons record rest ih =>
    intro b member
    rw [blocks] at member
    split at member
    · rcases List.mem_cons.mp member with rfl | later
      · exact begun
      · exact ih (fun _ => ⟨record, List.mem_singleton_self _, joined_singleton record⟩) b later
    next stays =>
      refine ih (fun outgrown => ?_) b member
      rw [joined_concat, ByteArray.size_append] at outgrown
      -- The block stayed together and outgrew the limit, so nothing was in it before.
      have nothing : (joined block).size = 0 := by
        by_contra some
        exact stays ⟨limited, by omega, outgrown⟩
      refine ⟨record, by simp, ?_⟩
      rw [joined_concat, ByteArray.size_eq_zero_iff.mp nothing, ByteArray.empty_append]

/-! ### The row of files -/

/-- A rolling file with an open file in it. -/
def holding (origin : RollingFile) (active : OpenFile) (disk : Disk) : RollingFile :=
  { origin with active := some active, written := (active.whole disk).size }

/-- What the active file and the older ones hold, the newest first. -/
def stack (active : OpenFile) (disk : Disk) (older : List Nat) : List ByteArray :=
  active.whole disk :: older.map disk.bytes

/-- The open file and older ones in the first slots, each its own, and nothing behind them. -/
structure Stacked (origin : RollingFile) (active : OpenFile) (disk : Disk) (older : List Nat)
    (directory : Path) (base : String) : Prop where
  row : Row disk origin.location directory base
  slots : ∀ n, disk.slots origin.location n = (active.inode :: older)[n]?.map Node.file
  known : ∀ inode ∈ active.inode :: older, inode < disk.contents.size
  distinct : (active.inode :: older).Nodup
  kept : active.kept.size ≤ active.capacity
  bounded : older.length ≤ origin.limits.maxFiles

section Steps

variable {origin : RollingFile} {active : OpenFile} {disk : Disk} {older : List Nat}
  {directory : Path} {base : String}

/-- A change of the bytes of the open file alone. -/
theorem Stacked.of_changesOnly (stacked : Stacked origin active disk older directory base)
    {active' : OpenFile} {disk' : Disk} (changes : disk.ChangesOnly disk' active.inode)
    (same : active'.inode = active.inode) (kept : active'.kept.size ≤ active'.capacity) :
    Stacked origin active' disk' older directory base := by
  obtain ⟨row, slots⟩ := stacked.row.of_same_nodes changes.nodes
  refine ⟨row, ?_, ?_, ?_, kept, stacked.bounded⟩
  · intro n
    rw [slots, stacked.slots, same]
  · intro inode member
    rw [changes.size]
    exact stacked.known inode (same ▸ member)
  · rw [same]
    exact stacked.distinct

/-- Writing adds to the active file. -/
theorem Stacked.write (stacked : Stacked origin active disk older directory base)
    (record : ByteArray) : ∃ active' disk',
      (origin.holding active disk).write disk record =
        ⟨.ok record.size, origin.holding active' disk', disk', []⟩ ∧
      Stacked origin active' disk' older directory base ∧
      stack active' disk' older = (active.whole disk ++ record) :: older.map disk.bytes := by
  have known := stacked.known active.inode List.mem_cons_self
  have apart := (List.nodup_cons.mp stacked.distinct).1
  have changes := active.write_changesOnly disk record
  have whole := OpenFile.whole_write known stacked.kept record
  refine ⟨(active.write disk record).1, (active.write disk record).2, ?_, ?_, ?_⟩
  · have size : ((active.write disk record).1.whole (active.write disk record).2).size =
        (active.whole disk).size + record.size := by rw [whole, ByteArray.size_append]
    simp [RollingFile.write, ensureOpen, holding, size]
  · exact stacked.of_changesOnly changes (active.inode_write disk record)
      (OpenFile.kept_write_le disk record stacked.kept)
  · rw [stack, whole, changes.map_bytes apart]

/-- Sending what is kept changes no content. -/
theorem Stacked.flush (stacked : Stacked origin active disk older directory base) :
    ∃ active' disk', (origin.holding active disk).flush disk =
        ⟨.ok (), origin.holding active' disk', disk', []⟩ ∧
      Stacked origin active' disk' older directory base ∧ active'.kept = .empty ∧
      stack active' disk' older = stack active disk older := by
  have known := stacked.known active.inode List.mem_cons_self
  have apart := (List.nodup_cons.mp stacked.distinct).1
  have changes := active.flush_changesOnly disk
  have whole := OpenFile.whole_flush known
  refine ⟨(active.flush disk).1, (active.flush disk).2, ?_, ?_, rfl, ?_⟩
  · simp [RollingFile.flush, holding, whole]
  · exact stacked.of_changesOnly changes rfl (Nat.zero_le _)
  · rw [stack, stack, whole, changes.map_bytes apart]

theorem Stacked.close (stacked : Stacked origin active disk older directory base) :
    ∃ active' disk', (origin.holding active disk).close disk =
        ({ origin.holding active' disk' with active := none }, disk') ∧
      Stacked origin active' disk' older directory base ∧ active'.kept = .empty ∧
      stack active' disk' older = stack active disk older := by
  obtain ⟨active', disk', flushed, rest⟩ := stacked.flush
  refine ⟨active', disk', ?_, rest⟩
  rw [RollingFile.close, flushed]

/-- What the files hold when nothing is kept back. -/
theorem stack_of_sent (sent : active.kept = .empty) :
    stack active disk older = (active.inode :: older).map disk.bytes := by
  simp [stack, OpenFile.whole, sent]

theorem exists_of_reopen {file : RollingFile} (reopened : (file.reopen disk).result = .ok ()) :
    ∃ inode disk', disk.openFile file.location = .ok (inode, disk') ∧
      file.reopen disk = ⟨.ok (), { file with
        written := (disk'.bytes inode).size
        active := some ⟨inode, .empty, max file.limits.bufferSize 1⟩ }, disk', []⟩ := by
  unfold reopen at reopened ⊢
  cases opened : disk.openFile file.location with
  | error fault =>
    rw [opened] at reopened
    cases reopened
  | ok pair =>
    obtain ⟨inode, disk'⟩ := pair
    rw [opened] at reopened
    simp only at reopened ⊢
    split at reopened
    · cases reopened
    next fits => exact ⟨inode, disk', rfl, by rw [if_neg fits]⟩

theorem bufferSize_le_of_reopen {file : RollingFile}
    (reopened : (file.reopen disk).result = .ok ()) :
    file.limits.bufferSize ≤ greatestBuffer := by
  by_contra beyond
  unfold reopen at reopened
  split at reopened
  · cases reopened
  · rw [if_pos (Nat.lt_of_not_le beyond)] at reopened
    cases reopened

theorem Stacked.onlyFiles (stacked : Stacked origin active disk older directory base) :
    origin.OnlyFiles disk := by
  intro n
  rw [stacked.slots]
  cases (active.inode :: older)[n]? with
  | none => nofun
  | some inode => nofun

/-- Opening the file of the first slot finds the one that is there. -/
theorem Stacked.openFile_eq (stacked : Stacked origin active disk older directory base)
    {inode : Nat} {disk' : Disk} (opened : disk.openFile origin.location = .ok (inode, disk')) :
    inode = active.inode ∧ disk' = disk := by
  have here : disk.slots origin.location 0 = some (.file active.inode) := stacked.slots 0
  obtain ⟨_, _, ⟨held, same⟩ | ⟨absent, _⟩⟩ := stacked.row.openFile opened
  · rw [here] at held
    cases held
    exact ⟨rfl, same⟩
  · rw [here] at absent
    cases absent

/-- A rotation where nothing older may be kept empties the active file. -/
theorem Stacked.truncate (stacked : Stacked origin active disk older directory base)
    (alone : older = []) {disk' : Disk} (emptied : disk.truncate origin.location = .ok disk') :
    Stacked origin { active with kept := .empty } disk' older directory base ∧
      stack { active with kept := .empty } disk' older = [.empty] := by
  obtain ⟨⟨inode, opened⟩, found, made⟩ := bind_eq_ok_iff.mp emptied
  obtain ⟨rfl, rfl⟩ := stacked.openFile_eq found
  obtain rfl : opened.overwrite active.inode .empty = disk' := Except.ok.inj made
  have known := stacked.known active.inode List.mem_cons_self
  refine ⟨stacked.of_changesOnly (.overwrite _ _ _) rfl (Nat.zero_le _), ?_⟩
  simp [stack, alone, OpenFile.whole, bytes_overwrite_self known]

/-- A rotation that keeps older files puts a new file before the row and cuts the row off. -/
theorem Stacked.renew (stacked : Stacked origin active disk older directory base)
    (keeping : 0 < origin.limits.maxFiles) {shifted opened : Disk} {inode : Nat}
    (moved : origin.shift disk = (.ok (), shifted))
    (made : shifted.openFile origin.location = .ok (inode, opened)) (capacity : Nat) :
    Stacked origin ⟨inode, .empty, capacity⟩ opened
        ((active.inode :: older).take origin.limits.maxFiles) directory base ∧
      stack ⟨inode, .empty, capacity⟩ opened ((active.inode :: older).take origin.limits.maxFiles) =
        .empty :: ((active.inode :: older).map disk.bytes).take origin.limits.maxFiles := by
  obtain ⟨row, same, slots⟩ :=
    shift_slots keeping stacked.row stacked.onlyFiles (stacked.slots 0) moved
  obtain ⟨row', first, ⟨held, _⟩ | ⟨_, rfl, pushed, later⟩⟩ := row.openFile made
  · rw [slots, if_pos rfl] at held
    cases held
  · have older' : ∀ other ∈ (active.inode :: older).take origin.limits.maxFiles,
        other < shifted.contents.size := by
      intro other member
      rw [same]
      exact stacked.known other (List.mem_of_mem_take member)
    refine ⟨⟨row', ?_, ?_, ?_, Nat.zero_le _, ?_⟩, ?_⟩
    · intro n
      cases n with
      | zero => exact first
      | succ n =>
        have behind : (shifted.contents.size :: (active.inode :: older).take
            origin.limits.maxFiles)[n + 1]? =
              if n < origin.limits.maxFiles then (active.inode :: older)[n]? else none := by
          rw [List.getElem?_cons_succ, List.getElem?_take]
        rw [later _ (by omega), slots, if_neg (by omega), stacked.slots, stacked.slots, behind]
        by_cases low : n + 1 ≤ origin.limits.maxFiles
        · rw [if_pos low, if_pos (by omega)]
          rfl
        · -- Behind the last slot allowed there was nothing before.
          have bounded := stacked.bounded
          have beyond : (active.inode :: older).length ≤ n + 1 := by
            rw [List.length_cons]
            omega
          rw [if_neg low, if_neg (by omega), List.getElem?_eq_none beyond]
    · intro other member
      rw [pushed, Array.size_push]
      rcases List.mem_cons.mp member with rfl | member
      · exact Nat.lt_succ_self _
      · exact Nat.lt_succ_of_lt (older' other member)
    · -- The number of the new file is greater than that of any file before.
      have fresh := fun member => Nat.lt_irrefl _ (older' _ member)
      exact List.nodup_cons.mpr ⟨fresh, stacked.distinct.sublist (List.take_sublist _ _)⟩
    · exact List.length_take_le _ _
    · have kept : (List.take origin.limits.maxFiles (active.inode :: older)).map opened.bytes =
          (List.take origin.limits.maxFiles (active.inode :: older)).map disk.bytes := by
        refine List.map_congr_left fun other member => ?_
        rw [bytes_of_push pushed, if_neg (Nat.ne_of_lt (older' other member)), Disk.bytes, same]
        rfl
      rw [stack, kept, List.map_take, OpenFile.whole, bytes_of_push pushed, if_pos rfl]
      simp

/-- Only the place of the row and the limits count. -/
theorem Stacked.of_origin {origin' : RollingFile}
    (stacked : Stacked origin active disk older directory base)
    (location : origin'.location = origin.location) (limits : origin'.limits = origin.limits) :
    Stacked origin' active disk older directory base where
  row := location ▸ stacked.row
  slots := location ▸ stacked.slots
  known := stacked.known
  distinct := stacked.distinct
  kept := stacked.kept
  bounded := limits ▸ stacked.bounded

/-- **A rotation loses the oldest file and no other.** -/
theorem Stacked.rotate (stacked : Stacked origin active disk older directory base)
    (succeeded : ((origin.holding active disk).rotate disk).result = .ok ()) :
    ∃ active' disk' older',
      (origin.holding active disk).rotate disk =
        ⟨.ok (), origin.holding active' disk', disk', [.rotated origin.path]⟩ ∧
      Stacked origin active' disk' older' directory base ∧
      stack active' disk' older' =
        .empty :: (stack active disk older).take origin.limits.maxFiles := by
  -- Closing sends what is kept: from here on the contents are those on the disk.
  obtain ⟨sent, closed, closing, stacked, cleared, same⟩ := stacked.close
  unfold RollingFile.rotate at succeeded ⊢
  rw [closing] at succeeded ⊢
  generalize vacant : { origin.holding sent closed with active := none } = vacated
    at succeeded ⊢
  have location : vacated.location = origin.location := by rw [← vacant]; rfl
  have limits : vacated.limits = origin.limits := by rw [← vacant]; rfl
  simp only at succeeded ⊢
  cases shifting : vacated.shift closed with
  | mk result shifted =>
    cases result with
    | error fault =>
      rw [shifting] at succeeded
      cases succeeded
    | ok =>
      rw [shifting] at succeeded
      obtain ⟨inode, opened, made, reopened⟩ := exists_of_reopen succeeded
      simp only [reopened]
      have shape : { vacated with
          written := (opened.bytes inode).size
          active := some ⟨inode, .empty, max vacated.limits.bufferSize 1⟩ } =
          origin.holding ⟨inode, .empty, max vacated.limits.bufferSize 1⟩ opened := by
        rw [← vacant]
        simp [holding, OpenFile.whole]
      have path : vacated.path = origin.path := by rw [← vacant]; rfl
      rw [shape, path]
      by_cases none : origin.limits.maxFiles = 0
      · -- No older file may be kept, so the active file is emptied in place.
        have alone : older = [] := by
          have bounded := stacked.bounded
          exact List.length_eq_zero_iff.mp (by omega)
        have emptied : closed.truncate origin.location = .ok shifted := by
          rw [shift, limits, if_pos none, location] at shifting
          cases truncated : closed.truncate origin.location with
          | error fault => simp [truncated] at shifting
          | ok after => simpa [truncated] using shifting
        obtain ⟨stacked, bare⟩ := stacked.truncate alone emptied
        obtain ⟨rfl, rfl⟩ := stacked.openFile_eq (location ▸ made)
        refine ⟨_, _, older, rfl, stacked.of_changesOnly (.refl _ _) rfl (Nat.zero_le _), ?_⟩
        rw [none, List.take_zero, ← bare]
        rfl
      · -- The files move up by one, and a new active file takes the first slot.
        have moved : Stacked vacated _ _ _ _ _ := stacked.of_origin location limits
        obtain ⟨renewed, contents⟩ :=
          moved.renew (by rw [limits]; omega) shifting made (max vacated.limits.bufferSize 1)
        refine ⟨_, _, _, rfl, renewed.of_origin location.symm limits.symm, ?_⟩
        rw [contents, limits, ← same, stack_of_sent cleared]

/-! ### Runs -/

theorem needsRotation_iff (record : ByteArray) :
    (origin.holding active disk).needsRotation record.size = true ↔
      BeginsBlock origin.limits.rotateSize (active.whole disk).size record.size := by
  unfold needsRotation holding BeginsBlock
  simp only [Bool.and_eq_true, decide_eq_true_eq, and_assoc]

/-- A record that begins a new block has a new file, any other joins the active one. -/
theorem Stacked.writeAll (stacked : Stacked origin active disk older directory base)
    (record : ByteArray)
    (succeeded : ((origin.holding active disk).writeAll disk record).result = .ok ()) :
    ∃ active' disk' older' notices,
      (origin.holding active disk).writeAll disk record =
        ⟨.ok (), origin.holding active' disk', disk', notices⟩ ∧
      Stacked origin active' disk' older' directory base ∧
      if BeginsBlock origin.limits.rotateSize (active.whole disk).size record.size then
        notices = [.rotated origin.path] ∧ stack active' disk' older' =
          record :: (stack active disk older).take origin.limits.maxFiles
      else
        notices = [] ∧ stack active' disk' older' =
          (active.whole disk ++ record) :: older.map disk.bytes := by
  -- The count that decides on a rotation is the size of the active file.
  unfold RollingFile.writeAll at succeeded ⊢
  by_cases full : (origin.holding active disk).needsRotation record.size = true
  · rw [if_pos full] at succeeded ⊢
    simp only at succeeded ⊢
    cases rotated : ((origin.holding active disk).rotate disk).result with
    | error fault =>
      rw [rotated] at succeeded
      cases succeeded
    | ok =>
      obtain ⟨active₁, disk₁, older₁, step, stacked₁, stack₁⟩ := stacked.rotate rotated
      obtain ⟨active₂, disk₂, written, stacked₂, stack₂⟩ := stacked₁.write record
      refine ⟨active₂, disk₂, older₁, [.rotated origin.path], ?_, stacked₂, ?_⟩
      · simp only [step, written]
        rfl
      · obtain ⟨current, past⟩ := List.cons.inj stack₁
        rw [if_pos (needsRotation_iff record |>.mp full), stack₂, current, past,
          ByteArray.empty_append]
        exact ⟨rfl, rfl⟩
  · rw [if_neg full]
    obtain ⟨active₁, disk₁, written, stacked₁, stack₁⟩ := stacked.write record
    refine ⟨active₁, disk₁, older, [], ?_, stacked₁, ?_⟩
    · simp only [written]
      rfl
    · rw [if_neg (mt (needsRotation_iff record).mpr full)]
      exact ⟨rfl, stack₁⟩

end Steps

/-- Writes records one after the other, up to the first that fails. -/
def writeRecords (file : RollingFile) (disk : Disk) : List ByteArray → RollingStep Unit
  | [] => ⟨.ok (), file, disk, []⟩
  | record :: rest =>
    let step := file.writeAll disk record
    match step.result with
    | .error _ => step
    | .ok () =>
      let later := writeRecords step.file step.disk rest
      { later with notices := step.notices ++ later.notices }

theorem writeRecords_singleton (file : RollingFile) (disk : Disk) (record : ByteArray) :
    file.writeRecords disk [record] = file.writeAll disk record := by
  rw [writeRecords]
  cases result : (file.writeAll disk record).result with
  | error fault => rfl
  | ok =>
    simp only [writeRecords, List.append_nil]
    rw [← result]

theorem take_succ_map_joined (count : Nat) (block : List ByteArray)
    (done : List (List ByteArray)) :
    ((block :: done).map joined).take (count + 1) =
      joined block :: (done.map joined).take count := by
  rw [List.map_cons, List.take_succ_cons]

section Run

variable {origin : RollingFile} {active : OpenFile} {disk : Disk} {older : List Nat}
  {directory : Path} {base : String}

/-- The files are the newest of the blocks that are done and the one under way, and stay that over
any run. The induction is on the records; the block under way is the content of the active file. -/
theorem Stacked.writeRecords (stacked : Stacked origin active disk older directory base)
    (records : List ByteArray) (block : List ByteArray) (done : List (List ByteArray))
    (layout : stack active disk older =
      ((block :: done).map joined).take (origin.limits.maxFiles + 1))
    (succeeded : ((origin.holding active disk).writeRecords disk records).result = .ok ()) :
    ∃ active' disk' older',
      (origin.holding active disk).writeRecords disk records =
        ⟨.ok (), origin.holding active' disk', disk', .replicate
          ((blocks origin.limits.rotateSize block records).length - 1) (.rotated origin.path)⟩ ∧
      Stacked origin active' disk' older' directory base ∧
      stack active' disk' older' =
        (((blocks origin.limits.rotateSize block records).reverse ++ done).map joined).take
          (origin.limits.maxFiles + 1) := by
  induction records generalizing active disk older block done with
  | nil => exact ⟨active, disk, older, rfl, stacked, layout⟩
  | cons record rest ih =>
    rw [take_succ_map_joined] at layout
    obtain ⟨current, past⟩ := List.cons.inj layout
    rw [RollingFile.writeRecords] at succeeded ⊢
    cases result : ((origin.holding active disk).writeAll disk record).result with
    | error fault =>
      simp only [result] at succeeded
      cases succeeded
    | ok =>
      obtain ⟨active₁, disk₁, older₁, notices, step, stacked₁, content⟩ :=
        stacked.writeAll record result
      simp only [step] at succeeded ⊢
      rw [current] at content
      by_cases begins : BeginsBlock origin.limits.rotateSize (joined block).size record.size
      · -- The block under way is done, and the record begins the next one.
        rw [if_pos begins] at content
        obtain ⟨rfl, moved⟩ := content
        have layout₁ : stack active₁ disk₁ older₁ =
            (([record] :: block :: done).map joined).take (origin.limits.maxFiles + 1) := by
          rw [moved, take_succ_map_joined, joined_singleton, layout, ← take_succ_map_joined,
            List.take_take, Nat.min_eq_left (Nat.le_succ _)]
        obtain ⟨active₂, disk₂, older₂, run, stacked₂, stack₂⟩ :=
          ih stacked₁ [record] (block :: done) layout₁ succeeded
        have split : blocks origin.limits.rotateSize block (record :: rest) =
            block :: blocks origin.limits.rotateSize [record] rest := by
          rw [blocks, if_pos begins]
        have some := List.length_pos_iff.mpr
          (blocks_ne_nil origin.limits.rotateSize [record] rest)
        refine ⟨active₂, disk₂, older₂, ?_, stacked₂, ?_⟩
        · rw [run, split, List.length_cons]
          obtain ⟨count, more⟩ := Nat.exists_eq_add_of_lt some
          simp [more, List.replicate_succ]
        · rw [stack₂, split]
          simp
      · rw [if_neg begins] at content
        obtain ⟨rfl, grown⟩ := content
        have layout₁ : stack active₁ disk₁ older₁ =
            (((block ++ [record]) :: done).map joined).take (origin.limits.maxFiles + 1) := by
          rw [grown, take_succ_map_joined, joined_concat, past]
        obtain ⟨active₂, disk₂, older₂, run, stacked₂, stack₂⟩ :=
          ih stacked₁ (block ++ [record]) done layout₁ succeeded
        have split : blocks origin.limits.rotateSize block (record :: rest) =
            blocks origin.limits.rotateSize (block ++ [record]) rest := by
          rw [blocks, if_neg begins]
        refine ⟨active₂, disk₂, older₂, ?_, stacked₂, ?_⟩
        · rw [run, split]
          rfl
        · rw [stack₂, split]

theorem Stacked.contentAt? (stacked : Stacked origin active disk older directory base)
    (sent : active.kept = .empty) (n : Nat) :
    disk.contentAt? (origin.location.slot n) = (stack active disk older)[n]? := by
  rw [stacked.row.contentAt?_slot, stacked.slots, stack_of_sent sent, List.getElem?_map]
  cases (active.inode :: older)[n]? with
  | none => rfl
  | some inode => rfl

theorem Stacked.holds_iff (stacked : Stacked origin active disk older directory base) (n : Nat) :
    disk.holds (origin.location.slot n) = true ↔ n < (stack active disk older).length := by
  rw [stacked.row.holds_slot, stacked.slots]
  simp [stack]

/-- From a single file on, the files are the newest blocks, and nothing is kept back at the end. -/
theorem Stacked.newest_blocks (stacked : Stacked origin active disk [] directory base)
    (records : List ByteArray)
    (succeeded : ((origin.holding active disk).writeRecords disk records).result = .ok ()) :
    let all := blocks origin.limits.rotateSize [active.whole disk] records
    let run := (origin.holding active disk).writeRecords disk records
    run.notices = .replicate (all.length - 1) (.rotated origin.path) ∧
    ∃ active' disk' older',
      run.file.flush run.disk = ⟨.ok (), origin.holding active' disk', disk', []⟩ ∧
      Stacked origin active' disk' older' directory base ∧ active'.kept = .empty ∧
      stack active' disk' older' = (all.reverse.map joined).take (origin.limits.maxFiles + 1) := by
  intro all run
  have layout : stack active disk [] =
      (([active.whole disk] :: []).map joined).take (origin.limits.maxFiles + 1) := by
    rw [take_succ_map_joined, joined_singleton]
    simp [stack]
  obtain ⟨active₁, disk₁, older₁, ran, stacked₁, stack₁⟩ :=
    stacked.writeRecords records [active.whole disk] [] layout succeeded
  obtain ⟨active₂, disk₂, flushed, stacked₂, sent, stack₂⟩ := stacked₁.flush
  -- Until the flush the end of the last record may still be in memory.
  have ended : run = _ := ran
  rw [ended]
  refine ⟨rfl, active₂, disk₂, older₁, flushed, stacked₂, sent, ?_⟩
  rw [stack₂, stack₁, List.append_nil]

end Run

/-! ### From the opening on -/

/-- A file can be opened where its directory is there and its text means a name. -/
theorem exists_row {disk disk' : Disk} {location : Location} {inode : Nat}
    (opened : disk.openFile location = .ok (inode, disk')) :
    ∃ directory base, Row disk location directory base := by
  obtain ⟨directory, reached, opened⟩ := bind_eq_ok_iff.mp opened
  have walked := (reach_eq_ok_iff.mp reached).2
  cases named : location.name with
  | none => simp [named] at opened
  | some base =>
    cases plain : location.slash with
    | true => simp [named, plain] at opened
    | false => exact ⟨directory, base, walked, named, plain⟩

theorem location_reopen (file : RollingFile) (disk : Disk) :
    (file.reopen disk).file.location = file.location := by
  unfold reopen
  split
  · rfl
  · split <;> rfl

/-- Opening where there are no backups begins a row with what the file held. -/
theorem stacked_of_reopen {file : RollingFile} {ready : Disk} (sound : ready.Sound)
    (noBackups : ∀ n, 0 < n → ready.holds (file.backup n) = false)
    (reopened : (file.reopen ready).result = .ok ()) :
    ∃ active directory base,
      (file.reopen ready).file = file.holding active (file.reopen ready).disk ∧
      Stacked file active (file.reopen ready).disk [] directory base ∧
      active.whole (file.reopen ready).disk = (ready.contentAt? file.location).getD .empty := by
  obtain ⟨inode, opened, made, same⟩ := exists_of_reopen reopened
  obtain ⟨directory, base, row⟩ := exists_row made
  have free : ∀ n, ready.slots file.location (n + 1) = none := fun n =>
    slots_eq_none_of_not_holds row (by
      rw [← backup_eq_slot (Nat.succ_pos n), noBackups _ (Nat.succ_pos n)]
      nofun)
  obtain ⟨row', leads, found⟩ := row.openFile made
  -- What the file holds at the start is read off the disk before it is opened.
  have content := row.contentAt?_slot 0
  -- The file was there, or it is new and empty.
  have facts : inode < opened.contents.size ∧
      opened.bytes inode = (ready.contentAt? file.location).getD .empty ∧
      ∀ n, opened.slots file.location (n + 1) = none := by
    rcases found with ⟨held, unchanged⟩ | ⟨absent, rfl, pushed, later⟩
    · rw [held] at content
      rw [unchanged]
      refine ⟨sound.lt_of_node? (row.slots_eq_some_iff.mp held).2, ?_, free⟩
      rw [show ready.contentAt? file.location = _ from content]
      rfl
    · rw [absent] at content
      refine ⟨?_, ?_, fun n => ?_⟩
      · rw [pushed, Array.size_push]
        exact Nat.lt_succ_self _
      · rw [show ready.contentAt? file.location = _ from content, bytes_of_push pushed, if_pos rfl]
        rfl
      · rw [later _ (Nat.succ_ne_zero n), free]
  obtain ⟨known, bytes, behind⟩ := facts
  rw [same]
  refine ⟨⟨inode, .empty, max file.limits.bufferSize 1⟩, directory, base, ?_,
    ⟨row', ?_, ?_, ?_, Nat.zero_le _, Nat.zero_le _⟩, ?_⟩
  · simp [holding, OpenFile.whole]
  · intro n
    cases n with
    | zero => exact leads
    | succ n => exact behind n
  · intro other member
    rw [List.mem_singleton.mp member]
    exact known
  · exact List.nodup_singleton inode
  · rw [← bytes]
    simp [OpenFile.whole]

theorem exists_of_openIn {directory name : String} {limits : RollingLimits} {start opened : Disk}
    {file : RollingFile} (opening : openIn directory name limits start = (.ok file, opened)) :
    let ready := (start.makeDirectories (Location.ofText directory)).2
    let origin : RollingFile := ⟨directory, name, limits, none, 0⟩
    (origin.reopen ready).result = .ok () ∧ (origin.reopen ready).file = file ∧
      (origin.reopen ready).disk = opened := by
  intro ready origin
  unfold openIn at opening
  split at opening
  · cases opening
  · cases made : start.makeDirectories (Location.ofText directory) with
    | mk result disk =>
      -- Only now the directory is there, so that the file can be opened.
      have same : ready = disk := by simp only [ready, made]
      cases result with
      | error fault =>
        rw [made] at opening
        cases opening
      | ok =>
        rw [made] at opening
        obtain ⟨mapped, disks⟩ := Prod.ext_iff.mp opening
        rw [same]
        cases reopened : (origin.reopen disk).result with
        | error fault =>
          simp only [origin] at reopened
          simp [reopened, Except.map] at mapped
        | ok =>
          simp only [origin] at reopened
          simp only [reopened, Except.map, Except.ok.injEq] at mapped
          exact ⟨rfl, mapped, disks⟩

/-- **The newest blocks are kept.** A file that is opened where it has no backups, and written to
without failing, rotates once for each block but the first. The backups are numbered without a gap;
the active file and they hold the newest blocks in order, as many as may be kept. The count of bytes
is that of the active file, and a file that outgrows the limit holds one record, or what was there
at the opening. -/
theorem newest_blocks_kept {directory name : String} {limits : RollingLimits} {start opened : Disk}
    {file : RollingFile} (records : List ByteArray)
    (opening : openIn directory name limits start = (.ok file, opened))
    (sound : start.Sound)
    (noBackups : ∀ n, 0 < n →
      (start.makeDirectories (Location.ofText directory)).2.holds (file.backup n) = false)
    (succeeded : (file.writeRecords opened records).result = .ok ()) :
    let ready := (start.makeDirectories (Location.ofText directory)).2
    let first := (ready.contentAt? file.location).getD .empty
    let all := blocks limits.rotateSize [first] records
    let run := file.writeRecords opened records
    let final := run.file.flush run.disk
    (∀ content, start.contentAt? file.location = some content → first = content) ∧
    final.result = .ok () ∧ all.flatten = first :: records ∧
    run.notices = .replicate (all.length - 1) (.rotated file.path) ∧
    (∀ n, 0 < n →
      (final.disk.holds (file.backup n) = true ↔ n ≤ min (all.length - 1) limits.maxFiles)) ∧
    (∀ n, final.disk.contentAt? (file.location.slot n) =
      ((all.reverse.map joined).take (limits.maxFiles + 1))[n]?) ∧
    (final.disk.contentAt? file.location).map ByteArray.size = some final.file.written ∧
    (0 < limits.rotateSize → ∀ n content,
      final.disk.contentAt? (file.location.slot n) = some content →
        limits.rotateSize < content.size → content = first ∨ content ∈ records) := by
  intro ready first all run final
  obtain ⟨reopened, made, there⟩ := exists_of_openIn opening
  have adds := addsDirectories_makeDirectories (Location.ofText directory) start
  -- Opening changes neither the place of the file nor its limits.
  have location : file.location = location ⟨directory, name, limits, none, 0⟩ := by
    rw [← made, location_reopen]
  obtain ⟨active, path, base, shape, stacked, initial⟩ :=
    stacked_of_reopen (adds.sound sound)
      (fun n positive => by rw [← noBackups n positive, backup, backup, location]) reopened
  rw [made, there] at shape
  rw [there] at stacked initial
  have begun : active.whole opened = first := by rw [initial, ← location]
  have same : all = blocks limits.rotateSize [active.whole opened] records := by rw [begun]
  rw [shape] at succeeded
  obtain ⟨notices, active', disk', older', flushed, stacked', sent, contents⟩ :=
    stacked.newest_blocks records succeeded
  have ended : final =
      ⟨.ok (), holding ⟨directory, name, limits, none, 0⟩ active' disk', disk', []⟩ := by
    simp only [final, run]
    rw [shape, flushed]
  rw [← same] at contents
  have some := List.length_pos_iff.mpr (blocks_ne_nil limits.rotateSize [first] records)
  refine ⟨fun content found => ?_, ?_, ?_, ?_, ?_, ?_, ?_, ?_⟩
  · simp only [first, ready, adds.contentAt? found, Option.getD_some]
  · rw [ended]
  · exact flatten_blocks limits.rotateSize [first] records
  · simp only [run]
    rw [shape, notices, ← same]
    rfl
  · intro n positive
    rw [ended, backup_eq_slot positive, location, stacked'.holds_iff, contents]
    simp only [List.length_take, List.length_map, List.length_reverse]
    omega
  · intro n
    rw [ended, location, stacked'.contentAt? sent, contents]
  · rw [ended, location]
    exact congrArg (Option.map ByteArray.size) (stacked'.contentAt? sent 0)
  · intro limited n content found outgrown
    rw [ended, location, stacked'.contentAt? sent, contents] at found
    -- A file is a block, and one that outgrows the limit is a single piece.
    have member := List.mem_of_mem_take (List.mem_of_getElem? found)
    obtain ⟨block, inside, rfl⟩ := List.mem_map.mp member
    have inside := List.mem_reverse.mp inside
    have begun : limits.rotateSize < (joined [first]).size → ∃ piece ∈ [first],
        joined [first] = piece :=
      fun _ => ⟨first, List.mem_singleton_self first, joined_singleton first⟩
    obtain ⟨piece, part, alone⟩ := single_of_outgrown limited begun block inside outgrown
    have piece_mem : piece ∈ all.flatten := List.mem_flatten.mpr ⟨block, inside, part⟩
    rw [flatten_blocks, List.singleton_append, List.mem_cons] at piece_mem
    rw [alone]
    exact piece_mem

/-- Blocks of four, one and six bytes, of which the newest two are kept. -/
theorem newest_two_kept :
    let limits : RollingLimits := ⟨2, 4, 1⟩
    let start : Disk := ⟨[(["a"], .file 0)], #[⟨#[1, 2]⟩]⟩
    let file : RollingFile := ⟨"", "a", limits, some ⟨0, .empty, 2⟩, 2⟩
    let records : List ByteArray := [⟨#[3, 4]⟩, ⟨#[5]⟩, ⟨#[6, 7, 8, 9, 10, 11]⟩]
    let run := file.writeRecords start records
    let final := run.file.flush run.disk
    openIn "" "a" limits start = (.ok file, start) ∧ start.Sound ∧
    (∀ n, 0 < n →
      (start.makeDirectories (Location.ofText "")).2.holds (file.backup n) = false) ∧
    run.result = .ok () ∧ ∀ n, final.disk.contentAt? (file.location.slot n) =
      [⟨#[6, 7, 8, 9, 10, 11]⟩, ⟨#[5]⟩][n]? := by
  intro limits start file records run final
  have opening : openIn "" "a" limits start = (.ok file, start) := by cbv
  have succeeded : run.result = .ok () := by cbv
  have place : file.location = ⟨[], some "a", false, 1⟩ := by cbv
  -- The disk is what is left when one file has been put on the empty one.
  have sound : start.Sound := by
    have put : Disk.empty.performAll [.putFile (Location.ofText "a") ⟨#[1, 2]⟩] = start := by cbv
    rw [← put]
    exact sound_performAll _
  have row : Row start file.location [] "a" := ⟨by rw [place]; rfl, by rw [place], by rw [place]⟩
  have ready : (start.makeDirectories (Location.ofText "")).2 = start := by cbv
  have noBackups : ∀ n, 0 < n →
      (start.makeDirectories (Location.ofText "")).2.holds (file.backup n) = false := by
    intro n positive
    have free : start.slots file.location n = none := by
      refine row.slots_eq_none ?_
      have other : Location.slotName "a" n ≠ Location.slotName "a" 0 :=
        (Location.slotName_injective "a").ne (Nat.ne_of_gt positive)
      rw [Location.slotName] at other
      simp [start, node?, List.lookup_cons, beq_false_of_ne other]
    rw [ready, backup_eq_slot positive, row.holds_slot, free]
    rfl
  obtain ⟨-, -, -, -, -, contents, -, -⟩ :=
    newest_blocks_kept records opening sound noBackups succeeded
  refine ⟨opening, sound, noBackups, succeeded, fun n => ?_⟩
  have there : start.contentAt? file.location = some ⟨#[1, 2]⟩ := by cbv
  rw [contents, ready, there]
  exact congrArg (·[n]?) (by decide)

end Tapline.RollingFile
