import Tapline.Proofs.Disk.Nodes
/-!
# Files that have their bytes

On a sound disk the bytes of every listed file are known. The empty disk is sound, and so is every
disk that an operation leaves: a file is listed only under a number that has been listed before,
or under the next free one while its bytes are put in place, and bytes are never taken away.
-/

namespace Tapline.Disk

/-- A disk on which every file that is listed has its bytes. -/
def Sound (disk : Disk) : Prop :=
  ∀ entry ∈ disk.nodes, ∀ inode, entry.2 = .file inode → inode < disk.contents.size

theorem sound_empty : Disk.empty.Sound := by
  intro entry listed
  cases listed

/-- A path that leads to a node is listed with it. -/
theorem mem_nodes_of_node? {disk : Disk} {path : Path} {node : Node} (named : path ≠ [])
    (leads : disk.node? path = some node) : (path, node) ∈ disk.nodes := by
  rw [node?_of_ne_nil named, List.lookup_eq_some_iff] at leads
  obtain ⟨before, after, split, -⟩ := leads
  rw [split]
  exact List.mem_append_right _ List.mem_cons_self

namespace Sound

variable {disk disk' : Disk} (sound : disk.Sound)

include sound

theorem lt_of_node? {path : Path} {inode : Nat} (leads : disk.node? path = some (.file inode)) :
    inode < disk.contents.size := by
  have named : path ≠ [] := by
    rintro rfl
    cases leads
  exact sound (path, .file inode) (mem_nodes_of_node? named leads) inode rfl

/-! ### Steps -/

/-- What is listed afterwards was listed before, as far as it is a file. -/
theorem of_listed (room : disk.contents.size ≤ disk'.contents.size)
    (listed : ∀ entry ∈ disk'.nodes, entry.2 = .directory ∨
      ∃ former ∈ disk.nodes, former.2 = entry.2) : disk'.Sound := by
  intro entry member inode leads
  -- A directory has no number, and a file has one that was known before.
  rcases listed entry member with directory | ⟨former, earlier, same⟩
  · rw [directory] at leads
    cases leads
  · exact Nat.lt_of_lt_of_le (sound former earlier inode (same.trans leads)) room

theorem addFile (path : Path) : (disk.addFile path).2.Sound := by
  intro entry member inode leads
  -- The new file has the next free number, and room is made for it.
  have grown : (disk.addFile path).2.contents.size = disk.contents.size + 1 := Array.size_push _
  rw [grown]
  rcases List.mem_cons.mp member with rfl | kept
  · obtain rfl : disk.contents.size = inode := Node.file.inj leads
    exact Nat.lt_succ_self _
  · exact Nat.lt_succ_of_lt (sound entry (List.mem_of_mem_filter kept) inode leads)

theorem filter (keep : Path × Node → Bool) :
    ({ disk with nodes := disk.nodes.filter keep } : Disk).Sound :=
  sound.of_listed (Nat.le_refl _) fun entry member =>
    Or.inr ⟨entry, List.mem_of_mem_filter member, rfl⟩

theorem moveTree (source target : Path) : (disk.moveTree source target).Sound := by
  refine sound.of_listed (Nat.le_refl _) fun entry member => ?_
  obtain ⟨former, kept, moved⟩ := List.mem_map.mp member
  refine Or.inr ⟨former, List.mem_of_mem_filter kept, ?_⟩
  split at moved
  · rw [← moved]
  · rw [moved]

theorem append (inode : Nat) (added : ByteArray) : (disk.append inode added).Sound :=
  sound.of_listed (by rw [Disk.append, Array.size_modify]) fun entry member =>
    Or.inr ⟨entry, member, rfl⟩

theorem overwrite (inode : Nat) (bytes : ByteArray) : (disk.overwrite inode bytes).Sound :=
  sound.of_listed (by rw [Disk.overwrite, Array.size_modify]) fun entry member =>
    Or.inr ⟨entry, member, rfl⟩

/-! ### Operations -/

theorem openFile {location : Location} {inode : Nat}
    (opened : disk.openFile location = .ok (inode, disk')) :
    disk'.Sound ∧ inode < disk'.contents.size := by
  obtain ⟨directory, -, opened⟩ := bind_eq_ok_iff.mp opened
  cases named : location.name with
  | none => simp [named] at opened
  | some name =>
    cases plain : location.slash with
    | true => simp [named, plain] at opened
    | false =>
      simp only [named, plain, Bool.false_eq_true, if_false] at opened
      obtain ⟨node, found, opened⟩ := bind_eq_ok_iff.mp opened
      rcases node with _ | other | _
      · obtain ⟨rfl, rfl⟩ : disk.contents.size = inode ∧
            (disk.addFile (directory ++ [name])).2 = disk' :=
          Prod.ext_iff.mp (Except.ok.inj opened)
        have grown : (disk.contents.push .empty).size = disk.contents.size + 1 := Array.size_push _
        exact ⟨sound.addFile _, Nat.lt_of_lt_of_eq (Nat.lt_succ_self _) grown.symm⟩
      · obtain ⟨rfl, rfl⟩ : other = inode ∧ disk = disk' := by simpa using opened
        exact ⟨sound, sound.lt_of_node? (find_eq_ok_iff.mp found).2⟩
      · cases opened

theorem truncate {location : Location} (emptied : disk.truncate location = .ok disk') :
    disk'.Sound := by
  obtain ⟨⟨inode, opened⟩, found, made⟩ := bind_eq_ok_iff.mp emptied
  obtain rfl : opened.overwrite inode .empty = disk' := Except.ok.inj made
  exact (sound.openFile found).1.overwrite inode .empty

theorem removeFile {location : Location} (removed : disk.removeFile location = .ok disk') :
    disk'.Sound := by
  obtain ⟨⟨path, node⟩, -, removed⟩ := bind_eq_ok_iff.mp removed
  rcases node with _ | inode | _
  · cases removed
  · cases plain : location.slash with
    | true => simp [plain] at removed
    | false =>
      obtain rfl : disk.dropTree path = disk' := by simpa [plain] using removed
      exact sound.filter _
  · cases removed

theorem replace {source target : Path} (moved : disk.replace source target = .ok disk') :
    disk'.Sound := by
  have settled : disk' = disk ∨ disk' = disk.moveTree source target := by
    unfold Disk.replace at moved
    split at moved
    · cases moved
    · cases moved
    · cases moved
    · -- A directory goes to itself or in place of an empty one.
      split at moved
      · exact Or.inl (Except.ok.inj moved).symm
      · split at moved
        · cases moved
        · exact Or.inr (Except.ok.inj moved).symm
    · split at moved
      · exact Or.inl (Except.ok.inj moved).symm
      · exact Or.inr (Except.ok.inj moved).symm
    · exact Or.inr (Except.ok.inj moved).symm
  rcases settled with rfl | rfl
  · exact sound
  · exact sound.moveTree source target

theorem rename {source target : Location} (moved : disk.rename source target = .ok disk') :
    disk'.Sound := by
  unfold Disk.rename at moved
  obtain ⟨_, -, moved⟩ := bind_eq_ok_iff.mp moved
  obtain ⟨_, -, moved⟩ := bind_eq_ok_iff.mp moved
  obtain ⟨here, -, moved⟩ := bind_eq_ok_iff.mp moved
  obtain ⟨there, -, moved⟩ := bind_eq_ok_iff.mp moved
  split at moved
  next old new _ _ =>
    obtain ⟨node, -, moved⟩ := bind_eq_ok_iff.mp moved
    rcases node with _ | node
    · cases moved
    · obtain ⟨_, -, moved⟩ := bind_eq_ok_iff.mp moved
      split at moved
      · cases moved
      · exact sound.replace moved
  · cases moved

theorem removeAll (location : Location) : (disk.removeAll location).2.Sound := by
  unfold Disk.removeAll
  split
  · split
    · split
      · exact sound
      · exact sound.filter _
    · exact sound.filter _
  · exact sound

end Sound

end Tapline.Disk
