import Tapline.Disk.Basic
/-!
# Open files with a buffer

Bytes for a file are kept in memory until they would no longer fit. Bytes that are longer than
the room left send the kept ones to the file first; then bytes as long as the whole buffer go
straight to the file, and shorter ones are kept. What is in the file followed by what is kept is
always what was written.

## Main statements

- `OpenFile.whole_write`: writing adds at the end of file and buffer taken together.
-/

namespace Tapline

/-- A file being written. -/
structure OpenFile where
  inode : Nat
  /-- Bytes kept in memory. -/
  kept : ByteArray
  capacity : Nat

namespace OpenFile

def flush (file : OpenFile) (disk : Disk) : OpenFile × Disk :=
  ({ file with kept := .empty }, disk.append file.inode file.kept)

/-- Bytes that still fit. -/
def room (file : OpenFile) : Nat := file.capacity - file.kept.size

def write (file : OpenFile) (disk : Disk) (bytes : ByteArray) : OpenFile × Disk :=
  if bytes.size < file.room then ({ file with kept := file.kept ++ bytes }, disk)
  else
    let (file, disk) := if file.room < bytes.size then file.flush disk else (file, disk)
    if file.capacity ≤ bytes.size then (file, disk.append file.inode bytes)
    else ({ file with kept := file.kept ++ bytes }, disk)

/-- What the file holds once everything kept has been sent. -/
def whole (file : OpenFile) (disk : Disk) : ByteArray := disk.bytes file.inode ++ file.kept

theorem bytes_append_self {disk : Disk} {inode : Nat} (known : inode < disk.contents.size)
    (added : ByteArray) : (disk.append inode added).bytes inode = disk.bytes inode ++ added := by
  simp [Disk.append, Disk.bytes, Array.getElem_modify, known]

theorem whole_flush {file : OpenFile} {disk : Disk} (known : file.inode < disk.contents.size) :
    (file.flush disk).1.whole (file.flush disk).2 = file.whole disk := by
  simp [flush, whole, bytes_append_self known]

theorem whole_write {file : OpenFile} {disk : Disk} (known : file.inode < disk.contents.size)
    (bounded : file.kept.size ≤ file.capacity) (bytes : ByteArray) :
    (file.write disk bytes).1.whole (file.write disk bytes).2 = file.whole disk ++ bytes := by
  unfold write
  split
  · simp [whole, ByteArray.append_assoc]
  · by_cases full : file.room < bytes.size
    · simp only [full, if_true]
      have known' : (file.flush disk).1.inode < (file.flush disk).2.contents.size := by
        simpa [flush, Disk.append] using known
      have same : (file.flush disk).1.whole (file.flush disk).2 = file.whole disk := whole_flush known
      have cleared : (file.flush disk).1.kept = .empty := rfl
      split
      · rw [← same]
        simp [whole, cleared, bytes_append_self known']
      · rw [← same]
        simp [whole, cleared]
    · simp only [full, if_false]
      split
      next long =>
        have none_kept : file.kept.size = 0 := by
          unfold room at *
          omega
        have cleared : file.kept = .empty := ByteArray.size_eq_zero_iff.mp none_kept
        simp [whole, cleared, bytes_append_self known]
      · simp [whole, ByteArray.append_assoc]

end OpenFile

end Tapline
