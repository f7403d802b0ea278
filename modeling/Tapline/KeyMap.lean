/-!
# Maps kept in key order

Argument bags, JSON objects and groups of fields all show their entries in the order of their
keys, compared by code point. Order is therefore kept by the data: a map is a list of entries
whose keys strictly ascend, so two maps with the same bindings are the same list.

## Main statements

- `KeyMap.get?_insert`, `KeyMap.get?_erase`: look-up after a change.
- `KeyMap.ext_get?`: a map is determined by its look-ups.
-/

namespace Tapline

/-- Entries with their keys strictly ascending. -/
def Ascending {α : Type u} (entries : List (String × α)) : Prop :=
  entries.Pairwise (fun a b => a.1 < b.1)

/-! ### Entry lists -/

/-- Puts an entry at its place in key order, over an older one of the same key. -/
def insertEntry {α : Type u} (key : String) (value : α) : List (String × α) → List (String × α)
  | [] => [(key, value)]
  | entry :: rest =>
    if key < entry.1 then (key, value) :: entry :: rest
    else if key = entry.1 then (key, value) :: rest
    else entry :: insertEntry key value rest

/-- Takes the entry of a key out. -/
def eraseEntry {α : Type u} (key : String) (entries : List (String × α)) : List (String × α) :=
  entries.filter (fun entry => entry.1 != key)

def lookupEntry {α : Type u} (key : String) : List (String × α) → Option α
  | [] => none
  | entry :: rest => if entry.1 = key then some entry.2 else lookupEntry key rest

theorem mem_insertEntry {α : Type u} {key : String} {value : α} {entries : List (String × α)}
    {entry : String × α} (member : entry ∈ insertEntry key value entries) :
    entry = (key, value) ∨ entry ∈ entries := by
  induction entries with
  | nil => exact Or.inl (by simpa [insertEntry] using member)
  | cons first rest ih =>
    rw [insertEntry] at member
    split at member
    · simpa using member
    · split at member
      · rcases List.mem_cons.mp member with same | later
        · exact Or.inl same
        · exact Or.inr (List.mem_cons_of_mem _ later)
      · rcases List.mem_cons.mp member with same | later
        · exact Or.inr (same ▸ List.mem_cons_self)
        · exact (ih later).imp id (List.mem_cons_of_mem _)

private theorem key_lt_of_not {a b : String} (notLess : ¬ a < b) (differ : a ≠ b) : b < a := by
  by_cases less : b < a
  · exact less
  · exact absurd (String.le_antisymm (String.not_lt.mp less) (String.not_lt.mp notLess)) differ

theorem ascending_insertEntry {α : Type u} {key : String} {value : α}
    {entries : List (String × α)} (ascending : Ascending entries) :
    Ascending (insertEntry key value entries) := by
  induction entries with
  | nil => simp [insertEntry, Ascending]
  | cons first rest ih =>
    have tail : Ascending rest := (List.pairwise_cons.mp ascending).2
    have above := (List.pairwise_cons.mp ascending).1
    rw [insertEntry]
    split
    next less =>
      refine List.pairwise_cons.mpr ⟨fun entry member => ?_, ascending⟩
      rcases List.mem_cons.mp member with same | later
      · exact same ▸ less
      · exact String.lt_trans less (above entry later)
    next notLess =>
      split
      next same => exact List.pairwise_cons.mpr ⟨fun entry later => same ▸ above entry later, tail⟩
      next differ =>
        refine List.pairwise_cons.mpr ⟨fun entry member => ?_, ih tail⟩
        rcases mem_insertEntry member with same | later
        · exact same ▸ key_lt_of_not notLess differ
        · exact above entry later

theorem lookupEntry_insertEntry {α : Type u} (key other : String) (value : α)
    (entries : List (String × α)) :
    lookupEntry other (insertEntry key value entries) =
      if key = other then some value else lookupEntry other entries := by
  induction entries with
  | nil => simp [insertEntry, lookupEntry]
  | cons first rest ih =>
    rw [insertEntry]
    split
    · simp [lookupEntry]
    · split
      next same => by_cases h : key = other <;> simp_all [lookupEntry]
      next differ =>
        by_cases h : first.1 = other
        · simp [lookupEntry, h, show key ≠ other from fun same => differ (same.trans h.symm)]
        · simp [lookupEntry, h, ih]

theorem lookupEntry_eraseEntry {α : Type u} (key other : String) (entries : List (String × α)) :
    lookupEntry other (eraseEntry key entries) =
      if key = other then none else lookupEntry other entries := by
  induction entries with
  | nil => simp [eraseEntry, lookupEntry]
  | cons first rest ih =>
    simp only [eraseEntry] at ih ⊢
    by_cases gone : first.1 = key
    · by_cases h : key = other <;> simp_all [lookupEntry]
    · by_cases h : first.1 = other
      · have differ : key ≠ other := fun same => gone (h.trans same.symm)
        rw [List.filter_cons_of_pos (by simpa using gone)]
        simp [lookupEntry, h, differ]
      · rw [List.filter_cons_of_pos (by simpa using gone)]
        simp [lookupEntry, h, ih]

theorem lookupEntry_eq_none_of_lt {α : Type u} {key : String} {entries : List (String × α)}
    (above : ∀ entry ∈ entries, key < entry.1) : lookupEntry key entries = none := by
  induction entries with
  | nil => rfl
  | cons first rest ih =>
    have differ : first.1 ≠ key := fun same =>
      String.lt_irrefl key (same ▸ above first List.mem_cons_self)
    simp [lookupEntry, differ, ih fun entry later => above entry (List.mem_cons_of_mem _ later)]

/-! ### Maps -/

/-- A finite map from text, listed in key order. -/
structure KeyMap (α : Type u) where
  entries : List (String × α)
  ascending : Ascending entries

namespace KeyMap

variable {α : Type u}

def empty : KeyMap α := ⟨[], List.Pairwise.nil⟩

instance : EmptyCollection (KeyMap α) := ⟨empty⟩

instance : Inhabited (KeyMap α) := ⟨empty⟩

def get? (map : KeyMap α) (key : String) : Option α := lookupEntry key map.entries

def contains (map : KeyMap α) (key : String) : Bool := (map.get? key).isSome

/-- Binds a key, over an older binding. -/
def insert (map : KeyMap α) (key : String) (value : α) : KeyMap α :=
  ⟨insertEntry key value map.entries, ascending_insertEntry map.ascending⟩

def erase (map : KeyMap α) (key : String) : KeyMap α :=
  ⟨eraseEntry key map.entries, List.Pairwise.filter _ map.ascending⟩

def size (map : KeyMap α) : Nat := map.entries.length

/-- Binds a list of entries from left to right, so the last entry of a key stands. -/
def insertMany (map : KeyMap α) (entries : List (String × α)) : KeyMap α :=
  entries.foldl (fun map entry => map.insert entry.1 entry.2) map

/-- The map of a list of entries; the last entry of a key stands. -/
def ofList (entries : List (String × α)) : KeyMap α := empty.insertMany entries

@[simp] theorem get?_empty (key : String) : (empty : KeyMap α).get? key = none := rfl

theorem get?_insert (map : KeyMap α) (key other : String) (value : α) :
    (map.insert key value).get? other = if key = other then some value else map.get? other :=
  lookupEntry_insertEntry key other value map.entries

@[simp] theorem get?_insert_self (map : KeyMap α) (key : String) (value : α) :
    (map.insert key value).get? key = some value := by simp [get?_insert]

/-- Of several entries with one key the last one counts. -/
theorem get?_insertMany (map : KeyMap α) (key : String) (entries : List (String × α)) :
    (map.insertMany entries).get? key =
      ((entries.filter fun entry => entry.1 == key).getLast?.map Prod.snd).or (map.get? key) := by
  induction entries generalizing map with
  | nil => rfl
  | cons entry rest ih =>
    have step : map.insertMany (entry :: rest) = (map.insert entry.1 entry.2).insertMany rest := rfl
    rw [step, ih, get?_insert]
    by_cases same : entry.1 = key
    · rw [List.filter_cons_of_pos (by simpa using same), List.getLast?_cons]
      cases (rest.filter fun entry => entry.1 == key).getLast? with
      | none => simp [same]
      | some last => simp
    · rw [List.filter_cons_of_neg (by simpa using same), if_neg same]

/-- In a map each key has one entry, which is then the last. -/
theorem getLast?_filter_entries (map : KeyMap α) (key : String) :
    (map.entries.filter fun entry => entry.1 == key).getLast?.map Prod.snd = map.get? key := by
  obtain ⟨entries, ascending⟩ := map
  induction entries with
  | nil => rfl
  | cons entry rest ih =>
    obtain ⟨above, later⟩ := List.pairwise_cons.mp ascending
    by_cases same : entry.1 = key
    · have others : rest.filter (fun other => other.1 == key) = [] := by
        rw [List.filter_eq_nil_iff]
        intro other member again
        have less := above other member
        rw [same, ← eq_of_beq again] at less
        exact String.lt_irrefl _ less
      rw [List.filter_cons_of_pos (by simpa using same), others]
      simp [get?, lookupEntry, same]
    · rw [List.filter_cons_of_neg (by simpa using same), ih later]
      simp [get?, lookupEntry, same]

/-- The entries of another map stand over those that are there. -/
theorem get?_insertMany_entries (map other : KeyMap α) (key : String) :
    (map.insertMany other.entries).get? key = (other.get? key).or (map.get? key) := by
  rw [get?_insertMany, getLast?_filter_entries]

theorem get?_erase (map : KeyMap α) (key other : String) :
    (map.erase key).get? other = if key = other then none else map.get? other :=
  lookupEntry_eraseEntry key other map.entries

private theorem ext_entries : ∀ {left right : List (String × α)}, Ascending left →
    Ascending right → (∀ key, lookupEntry key left = lookupEntry key right) → left = right
  | [], [], _, _, _ => rfl
  | [], entry :: _, _, _, same => by simpa [lookupEntry] using same entry.1
  | entry :: _, [], _, _, same => by simpa [lookupEntry] using same entry.1
  | (k, v) :: left, (l, w) :: right, ascLeft, ascRight, same => by
    obtain ⟨aboveLeft, restLeft⟩ := List.pairwise_cons.mp ascLeft
    obtain ⟨aboveRight, restRight⟩ := List.pairwise_cons.mp ascRight
    have keys : k = l := by
      by_cases equal : k = l
      · exact equal
      · exfalso
        by_cases less : k < l
        · have missing : lookupEntry k right = none := lookupEntry_eq_none_of_lt fun entry later =>
            String.lt_trans less (aboveRight entry later)
          have found := same k
          simp [lookupEntry, Ne.symm equal, missing] at found
        · have greater : l < k := key_lt_of_not less equal
          have missing : lookupEntry l left = none := lookupEntry_eq_none_of_lt fun entry later =>
            String.lt_trans greater (aboveLeft entry later)
          have found := same l
          simp [lookupEntry, equal, missing] at found
    subst keys
    have values : v = w := by simpa [lookupEntry] using same k
    subst values
    have rests : left = right := ext_entries restLeft restRight fun key => by
      have found := same key
      by_cases equal : k = key
      · subst equal
        rw [lookupEntry_eq_none_of_lt aboveLeft, lookupEntry_eq_none_of_lt aboveRight]
      · simpa [lookupEntry, equal] using found
    rw [rests]

/-- A map is determined by its look-ups. -/
theorem ext_get? {left right : KeyMap α} (same : ∀ key, left.get? key = right.get? key) :
    left = right := by
  obtain ⟨entries, ascending⟩ := left
  obtain ⟨others, ascending'⟩ := right
  have equal : entries = others := ext_entries ascending ascending' same
  subst equal
  rfl

end KeyMap

end Tapline
