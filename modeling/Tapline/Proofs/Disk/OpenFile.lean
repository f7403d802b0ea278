import Mathlib.Data.Nat.Basic
import Tapline.Disk.OpenFile
/-!
# What writing leaves alone

Bytes that are written reach one file: no path leads elsewhere afterwards, no file is added and
every other file keeps its bytes. What an open file keeps in memory never outgrows its buffer.
-/

namespace Tapline

namespace Disk

/-- A change of the bytes of one file. -/
structure ChangesOnly (disk disk' : Disk) (inode : Nat) : Prop where
  nodes : disk'.nodes = disk.nodes
  size : disk'.contents.size = disk.contents.size
  others : ∀ other, other ≠ inode → disk'.bytes other = disk.bytes other

namespace ChangesOnly

variable {disk disk' disk'' : Disk} {inode : Nat}

theorem refl (disk : Disk) (inode : Nat) : ChangesOnly disk disk inode := ⟨rfl, rfl, fun _ _ => rfl⟩

theorem trans (first : ChangesOnly disk disk' inode) (second : ChangesOnly disk' disk'' inode) :
    ChangesOnly disk disk'' inode where
  nodes := second.nodes.trans first.nodes
  size := second.size.trans first.size
  others := fun other differ => (second.others other differ).trans (first.others other differ)

theorem modify (disk : Disk) (inode : Nat) (change : ByteArray → ByteArray) :
    ChangesOnly disk { disk with contents := disk.contents.modify inode change } inode where
  nodes := rfl
  size := Array.size_modify
  others := by
    intro other differ
    simp [bytes, Array.getElem?_modify, Ne.symm differ]

theorem append (disk : Disk) (inode : Nat) (added : ByteArray) :
    ChangesOnly disk (disk.append inode added) inode := modify disk inode _

theorem overwrite (disk : Disk) (inode : Nat) (content : ByteArray) :
    ChangesOnly disk (disk.overwrite inode content) inode := modify disk inode _

/-- Files other than the one that changed, taken together. -/
theorem map_bytes (changes : ChangesOnly disk disk' inode) {others : List Nat}
    (apart : inode ∉ others) : others.map disk'.bytes = others.map disk.bytes := by
  refine List.map_congr_left fun other member => changes.others other ?_
  rintro rfl
  exact apart member

end ChangesOnly

theorem bytes_overwrite_self {disk : Disk} {inode : Nat} (known : inode < disk.contents.size)
    (content : ByteArray) : (disk.overwrite inode content).bytes inode = content := by
  simp [overwrite, bytes, Array.getElem_modify, known]

theorem bytes_of_push {disk disk' : Disk} {content : ByteArray}
    (pushed : disk'.contents = disk.contents.push content) (inode : Nat) :
    disk'.bytes inode = if inode = disk.contents.size then content else disk.bytes inode := by
  unfold bytes
  rw [pushed, Array.getElem?_push]
  split
  · rfl
  · rfl

end Disk

namespace OpenFile

variable (file : OpenFile) (disk : Disk) (bytes : ByteArray)

theorem flush_changesOnly : disk.ChangesOnly (file.flush disk).2 file.inode :=
  .append disk file.inode file.kept

theorem write_changesOnly : disk.ChangesOnly (file.write disk bytes).2 file.inode := by
  unfold write
  split
  · exact .refl disk file.inode
  · by_cases full : file.room < bytes.size
    · simp only [full, if_true]
      split
      · exact (flush_changesOnly file disk).trans (.append _ _ _)
      · exact flush_changesOnly file disk
    · simp only [full, if_false]
      split
      · exact .append disk file.inode bytes
      · exact .refl disk file.inode

theorem inode_write : (file.write disk bytes).1.inode = file.inode := by
  unfold write
  split
  · rfl
  · by_cases full : file.room < bytes.size
    · simp only [full, if_true]
      split <;> rfl
    · simp only [full, if_false]
      split <;> rfl

variable {file} in
/-- What is kept fits the buffer, whichever way the bytes took. -/
theorem kept_write_le (bounded : file.kept.size ≤ file.capacity) :
    (file.write disk bytes).1.kept.size ≤ (file.write disk bytes).1.capacity := by
  unfold write room
  split
  · simp only [ByteArray.size_append]
    omega
  · by_cases full : file.capacity - file.kept.size < bytes.size
    · simp only [full, if_true]
      -- After sending, the whole buffer is free again.
      have cleared : (file.flush disk).1.kept.size = 0 := rfl
      split
      · exact Nat.zero_le _
      · simp only [ByteArray.size_append]
        omega
    · simp only [full, if_false]
      split
      · exact bounded
      · simp only [ByteArray.size_append]
        omega

end OpenFile

end Tapline
