import Mathlib.Data.List.TakeDrop
import Tapline.Json.Writer
import Tapline.Proofs.Json.Numeral
/-!
# Documents read back

Reading the text of a document gives that document, whatever characters its strings and keys hold.
Two things are asked of it, and its type promises both: the members of an object ascend by key, and
integers fit 64 bits. One more is asked because texts of doubles are another matter: that no double
occurs.

Text that follows a document is left over untouched, unless it could lengthen a numeral; so the
theorem carries over from items to arrays and from members to objects.

## Main result

`Json.read?_write`.
-/

namespace Tapline

namespace Json

/-! ### Parts of a document -/

/-- Being a document or a part of it, at any depth. -/
inductive Within (part : Json) : Json → Prop
  | here : Within part part
  | item {item : Json} {items : List Json} (member : item ∈ items) (inside : Within part item) :
      Within part (.array items)
  | member {key : String} {value : Json} {members : List (String × Json)}
      (member : (key, value) ∈ members) (inside : Within part value) : Within part (.object members)

/-- What the type of documents promises, at any depth. Documents that are read keep it
(`Json.sound_of_read?`). -/
structure Sound (document : Json) : Prop where
  ascending : ∀ members, Within (.object members) document → Ascending members
  fits : ∀ n, Within (.number (.integer n)) document → IsWord n

namespace Sound

variable {items : List Json} {members : List (String × Json)}

theorem item (sound : Sound (.array items)) {item : Json} (member : item ∈ items) : Sound item where
  ascending := fun members inside => sound.ascending members (.item member inside)
  fits := fun n inside => sound.fits n (.item member inside)

theorem value (sound : Sound (.object members)) {key : String} {value : Json}
    (member : (key, value) ∈ members) : Sound value where
  ascending := fun members inside => sound.ascending members (.member member inside)
  fits := fun n inside => sound.fits n (.member member inside)

theorem null : Sound .null := ⟨nofun, nofun⟩

theorem bool (b : Bool) : Sound (.bool b) := ⟨nofun, nofun⟩

theorem string (s : String) : Sound (.string s) := ⟨nofun, nofun⟩

theorem integer {n : Int} (fits : IsWord n) : Sound (.ofInt n) := ⟨nofun, fun | _, .here => fits⟩

theorem double (x : Binary64) : Sound (.number (.double x)) := ⟨nofun, nofun⟩

theorem array (each : ∀ item ∈ items, Sound item) : Sound (.array items) where
  ascending := fun others inside => by
    cases inside with
    | item member inside => exact (each _ member).ascending others inside
  fits := fun n inside => by
    cases inside with
    | item member inside => exact (each _ member).fits n inside

theorem object (ascending : Ascending members) (each : ∀ member ∈ members, Sound member.2) :
    Sound (.object members) where
  ascending := fun others inside => by
    cases inside with
    | here => exact ascending
    | member member inside => exact (each _ member).ascending others inside
  fits := fun n inside => by
    cases inside with
    | member member inside => exact (each _ member).fits n inside

end Sound

/-- Without a double at any depth. -/
def NoDouble (document : Json) : Prop := ∀ x, ¬ Within (.number (.double x)) document

/-- A document that reads back from its text. -/
structure Plain (document : Json) : Prop where
  sound : document.Sound
  noDouble : document.NoDouble

namespace Plain

variable {items : List Json} {members : List (String × Json)}

theorem item (plain : Plain (.array items)) {item : Json} (member : item ∈ items) : Plain item where
  sound := plain.sound.item member
  noDouble := fun x inside => plain.noDouble x (.item member inside)

theorem value (plain : Plain (.object members)) {key : String} {value : Json}
    (member : (key, value) ∈ members) : Plain value where
  sound := plain.sound.value member
  noDouble := fun x inside => plain.noDouble x (.member member inside)

theorem ascending (plain : Plain (.object members)) : Ascending members :=
  plain.sound.ascending members .here

theorem null : Plain .null := ⟨.null, nofun⟩

theorem bool (b : Bool) : Plain (.bool b) := ⟨.bool b, nofun⟩

theorem string (s : String) : Plain (.string s) := ⟨.string s, nofun⟩

theorem integer {n : Int} (fits : IsWord n) : Plain (.ofInt n) := ⟨.integer fits, nofun⟩

theorem array (each : ∀ item ∈ items, Plain item) : Plain (.array items) where
  sound := .array fun item member => (each item member).sound
  noDouble := fun x inside => by
    cases inside with
    | item member inside => exact (each _ member).noDouble x inside

theorem object (ascending : Ascending members) (each : ∀ member ∈ members, Plain member.2) :
    Plain (.object members) where
  sound := .object ascending fun member taken => (each member taken).sound
  noDouble := fun x inside => by
    cases inside with
    | member member inside => exact (each _ member).noDouble x inside

end Plain

/-! ### Strings -/

theorem hexValue?_hexDigit {n : Nat} (small : n < 16) : hexValue? (hexDigit n) = some n := by
  have digits : ∀ k < 16, hexValue? (hexDigit k) = some k := by decide
  exact digits n small

theorem escapedUnit?_control {n : Nat} (control : n < 0x20) (rest : List Char) :
    escapedUnit? ('0' :: '0' :: hexDigit (n / 16) :: hexDigit n :: rest) =
      some (Char.ofNat n, rest) := by
  have zero : hexValue? '0' = some 0 := rfl
  -- A control character is below two hexadecimal digits, and no surrogate.
  have high := hexValue?_hexDigit (n := n / 16) (by omega)
  have low : hexValue? (hexDigit n) = some (n % 16) := by
    rw [show hexDigit n = hexDigit (n % 16) by simp [hexDigit]]
    exact hexValue?_hexDigit (Nat.mod_lt n (by decide))
  have whole : n / 16 * 16 + n % 16 = n := Nat.div_add_mod' n 16
  have noHigh : ¬ 0xD800 ≤ n := by omega
  have noLow : ¬ 0xDC00 ≤ n := by omega
  simp [escapedUnit?, hexUnit?, zero, high, low, whole, noHigh, noLow]

/-- Reading undoes the escape of one character. -/
theorem readChars_escapeChar (gathered : List Char) (fuel : Nat) (c : Char) (rest : List Char) :
    readChars gathered (fuel + 1) (escapeChar c ++ rest) = readChars (c :: gathered) fuel rest := by
  by_cases mark : c = '\x22'
  · subst mark
    simp [escapeChar, readChars, escapedLetter?]
  by_cases slash : c = '\\'
  · subst slash
    simp [escapeChar, readChars, escapedLetter?]
  by_cases feed : c = '\n'
  · subst feed
    simp [escapeChar, readChars, escapedLetter?]
  by_cases carriage : c = '\r'
  · subst carriage
    simp [escapeChar, readChars, escapedLetter?]
  by_cases tab : c = '\t'
  · subst tab
    simp [escapeChar, readChars, escapedLetter?]
  by_cases back : c = '\x08'
  · subst back
    simp [escapeChar, readChars, escapedLetter?]
  by_cases form : c = '\x0c'
  · subst form
    simp [escapeChar, readChars, escapedLetter?]
  -- What is left is escaped by number, or stands for itself.
  by_cases control : c.toNat < 0x20
  · simp [escapeChar, mark, slash, feed, carriage, tab, back, form, control, readChars,
      escapedUnit?_control control rest]
  · simp [escapeChar, mark, slash, feed, carriage, tab, back, form, control, readChars]

theorem readChars_flatMap {rest : List Char} (s : List Char) (gathered : List Char) {fuel : Nat}
    (enough : s.length < fuel) :
    readChars gathered fuel (s.flatMap escapeChar ++ '\x22' :: rest) =
      some (String.ofList (gathered.reverse ++ s), rest) := by
  induction s generalizing gathered fuel with
  | nil =>
    obtain ⟨fuel, rfl⟩ := Nat.exists_eq_succ_of_ne_zero (Nat.ne_of_gt enough)
    simp [readChars]
  | cons c s ih =>
    rw [List.length_cons] at enough
    obtain ⟨fuel, rfl⟩ := Nat.exists_eq_succ_of_ne_zero (show fuel ≠ 0 by omega)
    rw [List.flatMap_cons, List.append_assoc, readChars_escapeChar,
      ih (c :: gathered) (by omega)]
    simp

theorem escapeChar_ne_nil (c : Char) : escapeChar c ≠ [] := by
  unfold escapeChar
  repeat' split
  all_goals simp

/-- A string literal is a mark and what `readChars` takes for the string. -/
theorem toList_quote (s : String) :
    (quote s).toList = '\x22' :: (s.toList.flatMap escapeChar ++ ['\x22']) := by
  simp [quote]

theorem readChars_quote (s : String) (rest : List Char) {fuel : Nat}
    (enough : s.toList.length < fuel) :
    readChars [] fuel (s.toList.flatMap escapeChar ++ '\x22' :: rest) = some (s, rest) := by
  rw [readChars_flatMap s.toList [] enough]
  simp

theorem length_le_flatMap (s : List Char) : s.length ≤ (s.flatMap escapeChar).length := by
  induction s with
  | nil => simp
  | cons c s ih =>
    -- Fuel is counted in characters of the text, and each is escaped to at least one.
    have more := List.length_pos_iff.mpr (escapeChar_ne_nil c)
    simp only [List.flatMap_cons, List.length_append, List.length_cons]
    omega

/-! ### Beginnings -/

/-- A character that begins a document: it is no blank and closes nothing. -/
def Opening (c : Char) : Prop := c ∉ [' ', '\n', '\r', '\t', ']', '\x7d']

theorem Opening.of_numeral {c : Char} (numeral : isNumeralChar c = true) : Opening c := by
  intro member
  simp only [List.mem_cons, List.not_mem_nil, or_false] at member
  rcases member with rfl | rfl | rfl | rfl | rfl | rfl <;> exact absurd numeral (by decide)

theorem skipBlanks_of_opening {c : Char} (opening : Opening c) (rest : List Char) :
    skipBlanks (c :: rest) = c :: rest := by
  simp only [Opening, List.mem_cons, List.not_mem_nil, or_false, not_or] at opening
  simp [skipBlanks, opening]

theorem skipBlanks_of_not_blank {c : Char} {rest : List Char}
    (visible : c ∉ [' ', '\n', '\r', '\t']) : skipBlanks (c :: rest) = c :: rest := by
  simp only [List.mem_cons, List.not_mem_nil, or_false, not_or] at visible
  simp [skipBlanks, visible]

theorem exists_toString (n : Int) :
    ∃ c cs, (toString n).toList = c :: cs ∧ isNumeralChar c = true := by
  have nonempty : (toString n).toList ≠ [] := by
    rw [toList_toString_int]
    simp [Nat.toDigits_ne_nil]
  obtain ⟨c, cs, same⟩ := List.exists_cons_of_ne_nil nonempty
  exact ⟨c, cs, same, isNumeralChar_of_mem_toString (by rw [same]; exact List.mem_cons_self)⟩

theorem exists_write {document : Json} (plain : Plain document) :
    ∃ c cs, document.write.toList = c :: cs ∧ Opening c := by
  cases document with
  | null => exact ⟨'n', _, rfl, by simp [Opening]⟩
  | bool b =>
    cases b with
    | true => exact ⟨'t', _, rfl, by simp [Opening]⟩
    | false => exact ⟨'f', _, rfl, by simp [Opening]⟩
  | number n =>
    cases n with
    | integer n =>
      obtain ⟨c, cs, same, numeral⟩ := exists_toString n
      exact ⟨c, cs, by rw [write, numberText, same], Opening.of_numeral numeral⟩
    | double x => exact absurd .here (plain.noDouble x)
  | string s => exact ⟨'\x22', _, by rw [write, toList_quote], by simp [Opening]⟩
  | array items => exact ⟨'[', _, by simp [write]; rfl, by simp [Opening]⟩
  | object members => exact ⟨'\x7b', _, by simp [write]; rfl, by simp [Opening]⟩

/-- What may follow a document: nothing that lengthens a numeral. -/
def Ends (rest : List Char) : Prop := ∀ c ∈ rest.head?, isNumeralChar c = false

theorem readDocument_integer {n : Int} (fits : IsWord n) {rest : List Char}
    (ends : Ends rest) (fuel : Nat) :
    readDocument (fuel + 1) ((toString n).toList ++ rest) =
      some (.number (.integer n), rest) := by
  have numeral : ∀ c ∈ (toString n).toList, isNumeralChar c = true :=
    fun _ => isNumeralChar_of_mem_toString
  have cut := span_append numeral ends
  have value := numberOf?_toString fits
  obtain ⟨c, cs, same, first⟩ := exists_toString n
  rw [same] at cut value ⊢
  rw [List.cons_append] at cut ⊢
  rw [readDocument, skipBlanks_of_opening (Opening.of_numeral first)]
  -- A character of a numeral is none of those that another kind of document begins with.
  split
  case h_7 =>
    simp only [readNumber, cut, value]
    rfl
  all_goals
    next same =>
      obtain ⟨rfl, -⟩ := List.cons.inj same
      exact absurd first (by decide)

theorem ends_comma (rest : List Char) : Ends (',' :: rest) := by simp [Ends, isNumeralChar]

theorem ends_bracket (rest : List Char) : Ends (']' :: rest) := by simp [Ends, isNumeralChar]

theorem ends_brace (rest : List Char) : Ends ('\x7d' :: rest) := by simp [Ends, isNumeralChar]

/-! ### Members in order -/

theorem sizeOf_value_lt {α : Type} [SizeOf α] {entry : String × α} {entries : List (String × α)}
    (member : entry ∈ entries) : sizeOf entry.2 < sizeOf entries := by
  have less := List.sizeOf_lt_of_mem member
  obtain ⟨key, value⟩ := entry
  simp only [Prod.mk.sizeOf_spec] at less ⊢
  omega

theorem insertEntry_of_above {α : Type u} {key : String} {value : α} {made : List (String × α)}
    (above : ∀ entry ∈ made, entry.1 < key) :
    insertEntry key value made = made ++ [(key, value)] := by
  induction made with
  | nil => rfl
  | cons first made ih =>
    have less : first.1 < key := above first List.mem_cons_self
    have notLess : ¬ key < first.1 := fun greater =>
      String.lt_irrefl key (String.lt_trans greater less)
    have differ : key ≠ first.1 := fun same => String.lt_irrefl key (same ▸ less)
    rw [insertEntry, if_neg notLess, if_neg differ,
      ih fun entry later => above entry (List.mem_cons_of_mem _ later)]
    rfl

theorem foldl_insertEntry {α : Type u} {made members : List (String × α)}
    (ascending : Ascending (made ++ members)) :
    members.foldl (fun made member => insertEntry member.1 member.2 made) made =
      made ++ members := by
  induction members generalizing made with
  | nil => simp
  | cons member members ih =>
    -- Each member comes after all that are placed already, so it is added at the end.
    have above : ∀ entry ∈ made, entry.1 < member.1 := fun entry earlier =>
      (List.pairwise_append.mp ascending).2.2 entry earlier member List.mem_cons_self
    have same : insertEntry member.1 member.2 made = made ++ [member] := insertEntry_of_above above
    rw [List.foldl_cons, same, ih (by simpa using ascending)]
    simp

theorem ofMembers_of_ascending {members : List (String × Json)} (ascending : Ascending members) :
    ofMembers members = .object members := by
  rw [ofMembers, foldl_insertEntry (by simpa using ascending)]
  rfl

/-! ### Reading back -/

/-- The text of a document is read as that document, and what follows is left over. Fuel of the
length of the text is enough. -/
def ReadsBack (document : Json) : Prop :=
  ∀ ⦃fuel : Nat⦄ ⦃rest : List Char⦄, document.write.toList.length ≤ fuel → Ends rest →
    readDocument fuel (document.write.toList ++ rest) = some (document, rest)

section Steps

variable {fuel : Nat} {text rest more : List Char}

theorem readItems_last {item : Json} (read : readDocument fuel text = some (item, ']' :: rest)) :
    readItems (fuel + 1) text = some ([item], rest) := by
  simp [readItems, read, skipBlanks_of_not_blank]

theorem readItems_cons {item : Json} {items : List Json}
    (read : readDocument fuel text = some (item, ',' :: more))
    (others : readItems fuel more = some (items, rest)) :
    readItems (fuel + 1) text = some (item :: items, rest) := by
  simp [readItems, read, skipBlanks_of_not_blank, others]

theorem quote_append (s : String) (rest : List Char) :
    (quote s).toList ++ rest = '\x22' :: (s.toList.flatMap escapeChar ++ '\x22' :: rest) := by
  simp [toList_quote]

theorem readChars_key (key : String) (rest : List Char) :
    readChars [] ((key.toList.flatMap escapeChar ++ '\x22' :: rest).length + 1)
      (key.toList.flatMap escapeChar ++ '\x22' :: rest) = some (key, rest) := by
  have enough := length_le_flatMap key.toList
  refine readChars_quote key rest ?_
  simp only [List.length_append]
  omega

theorem readMembers_last {key : String} {value : Json}
    (read : readDocument fuel text = some (value, '\x7d' :: rest)) :
    readMembers (fuel + 1) ((quote key).toList ++ ':' :: text) = some ([(key, value)], rest) := by
  rw [quote_append, readMembers, skipBlanks_of_not_blank (by simp)]
  simp only [readChars_key]
  simp [skipBlanks_of_not_blank, read]

theorem readMembers_cons {key : String} {value : Json} {members : List (String × Json)}
    (read : readDocument fuel text = some (value, ',' :: more))
    (others : readMembers fuel more = some (members, rest)) :
    readMembers (fuel + 1) ((quote key).toList ++ ':' :: text) =
      some ((key, value) :: members, rest) := by
  rw [quote_append, readMembers, skipBlanks_of_not_blank (by simp)]
  simp only [readChars_key]
  simp [skipBlanks_of_not_blank, read, others]

theorem readDocument_string (s : String) :
    readDocument (fuel + 1) ((quote s).toList ++ rest) = some (.string s, rest) := by
  rw [quote_append, readDocument, skipBlanks_of_not_blank (by simp)]
  simp only [readChars_key]
  rfl

theorem readDocument_array {c : Char} (opening : Opening c) {items : List Json}
    (read : readItems fuel (c :: text) = some (items, rest)) :
    readDocument (fuel + 1) ('[' :: c :: text) = some (.array items, rest) := by
  have unclosed : c ≠ ']' := by
    rintro rfl
    simp [Opening] at opening
  rw [readDocument, skipBlanks_of_not_blank (by simp)]
  simp [skipBlanks_of_opening opening, unclosed, read]

theorem readDocument_object {c : Char} (opening : Opening c) {members : List (String × Json)}
    (read : readMembers fuel (c :: text) = some (members, rest)) :
    readDocument (fuel + 1) ('\x7b' :: c :: text) = some (ofMembers members, rest) := by
  have unclosed : c ≠ '\x7d' := by
    rintro rfl
    simp [Opening] at opening
  rw [readDocument, skipBlanks_of_not_blank (by simp)]
  simp [skipBlanks_of_opening opening, unclosed, read]

end Steps

/-- Items read back one by one; each needs the fuel of its own text only. -/
theorem readItems_write {items : List Json} (each : ∀ item ∈ items, ReadsBack item)
    (nonempty : items ≠ []) (fuel : Nat) (rest : List Char)
    (enough : (writeItems items).toList.length < fuel) :
    readItems fuel ((writeItems items).toList ++ ']' :: rest) = some (items, rest) := by
  induction items generalizing fuel with
  | nil => exact absurd rfl nonempty
  | cons item items ih =>
    have first := each item List.mem_cons_self
    obtain ⟨fuel, rfl⟩ := Nat.exists_eq_succ_of_ne_zero (Nat.ne_zero_of_lt enough)
    cases items with
    | nil =>
      rw [writeItems] at enough ⊢
      exact readItems_last (first (by omega) (ends_bracket rest))
    | cons next items =>
      simp only [writeItems, String.toList_append, List.length_append, List.append_assoc]
        at enough ⊢
      have comma : ",".toList = [','] := rfl
      rw [comma, List.length_singleton] at enough
      have others := ih (fun item later => each item (List.mem_cons_of_mem _ later))
        (List.cons_ne_nil _ _) fuel (by omega)
      exact readItems_cons (first (by omega) (ends_comma _)) others

theorem readMembers_write {members : List (String × Json)}
    (each : ∀ member ∈ members, ReadsBack member.2) (nonempty : members ≠ []) (fuel : Nat)
    (rest : List Char) (enough : (writeMembers members).toList.length < fuel) :
    readMembers fuel ((writeMembers members).toList ++ '\x7d' :: rest) = some (members, rest) := by
  induction members generalizing fuel with
  | nil => exact absurd rfl nonempty
  | cons member members ih =>
    obtain ⟨key, value⟩ := member
    have first : ReadsBack value := each (key, value) List.mem_cons_self
    have colon : ":".toList = [':'] := rfl
    obtain ⟨fuel, rfl⟩ := Nat.exists_eq_succ_of_ne_zero (Nat.ne_zero_of_lt enough)
    cases members with
    | nil =>
      simp only [writeMembers, String.toList_append, List.length_append, List.append_assoc]
        at enough ⊢
      exact readMembers_last (first (by omega) (ends_brace rest))
    | cons next members =>
      simp only [writeMembers, String.toList_append, List.length_append, List.append_assoc]
        at enough ⊢
      have comma : ",".toList = [','] := rfl
      rw [comma, List.length_singleton] at enough
      have others := ih (fun item later => each item (List.mem_cons_of_mem _ later))
        (List.cons_ne_nil _ _) fuel (by omega)
      exact readMembers_cons (first (by omega) (ends_comma _)) others

theorem exists_writeItems {items : List Json} (plain : Plain (.array items))
    (nonempty : items ≠ []) :
    ∃ c cs, (writeItems items).toList = c :: cs ∧ Opening c := by
  cases items with
  | nil => exact absurd rfl nonempty
  | cons item items =>
    obtain ⟨c, cs, same, opening⟩ := exists_write (plain.item List.mem_cons_self)
    cases items with
    | nil => exact ⟨c, cs, by rw [writeItems, same], opening⟩
    | cons next items => exact ⟨c, _, by simp [writeItems, same]; rfl, opening⟩

theorem exists_writeMembers {members : List (String × Json)} (nonempty : members ≠ []) :
    ∃ cs, (writeMembers members).toList = '\x22' :: cs := by
  cases members with
  | nil => exact absurd rfl nonempty
  | cons member members =>
    obtain ⟨key, value⟩ := member
    cases members with
    | nil => exact ⟨_, by simp [writeMembers, toList_quote]; rfl⟩
    | cons next members => exact ⟨_, by simp [writeMembers, toList_quote]; rfl⟩

namespace ReadsBack

theorem of_short {document : Json} (nonempty : document.write.toList ≠ [])
    (read : ∀ fuel rest, Ends rest →
      readDocument (fuel + 1) (document.write.toList ++ rest) = some (document, rest)) :
    ReadsBack document := by
  intro fuel rest enough ends
  have positive := List.length_pos_iff.mpr nonempty
  obtain ⟨fuel, rfl⟩ := Nat.exists_eq_succ_of_ne_zero (show fuel ≠ 0 by omega)
  exact read fuel rest ends

theorem array {items : List Json} (plain : Plain (.array items))
    (each : ∀ item ∈ items, ReadsBack item) : ReadsBack (.array items) := by
  cases items with
  | nil => exact of_short (by simp [write]) (by simp [write, writeItems, readDocument, skipBlanks])
  | cons first items =>
    intro fuel rest enough _
    obtain ⟨c, cs, same, opening⟩ := exists_writeItems plain (List.cons_ne_nil _ _)
    have text : (write (.array (first :: items))).toList =
        '[' :: ((writeItems (first :: items)).toList ++ [']']) := by simp [write]
    rw [text] at enough ⊢
    simp only [List.length_cons, List.length_append, List.length_nil] at enough
    obtain ⟨fuel, rfl⟩ := Nat.exists_eq_succ_of_ne_zero (show fuel ≠ 0 by omega)
    have read := readItems_write each (List.cons_ne_nil _ _) fuel rest (by omega)
    rw [same, List.cons_append] at read
    simpa [same] using readDocument_array opening read

theorem object {members : List (String × Json)} (plain : Plain (.object members))
    (each : ∀ member ∈ members, ReadsBack member.2) : ReadsBack (.object members) := by
  cases members with
  | nil =>
    exact of_short (by simp [write]) (by simp [write, writeMembers, readDocument, skipBlanks])
  | cons first members =>
    intro fuel rest enough _
    obtain ⟨cs, same⟩ := exists_writeMembers (List.cons_ne_nil first members)
    have text : (write (.object (first :: members))).toList =
        '\x7b' :: ((writeMembers (first :: members)).toList ++ ['\x7d']) := by simp [write]
    rw [text] at enough ⊢
    simp only [List.length_cons, List.length_append, List.length_nil] at enough
    obtain ⟨fuel, rfl⟩ := Nat.exists_eq_succ_of_ne_zero (show fuel ≠ 0 by omega)
    have read := readMembers_write each (List.cons_ne_nil _ _) fuel rest (by omega)
    rw [same, List.cons_append] at read
    -- Only here the order of the members counts: reading puts each at its place.
    rw [← ofMembers_of_ascending plain.ascending]
    simpa [same] using readDocument_object (by simp [Opening]) read

end ReadsBack

theorem Plain.readsBack : ∀ {document : Json}, Plain document → ReadsBack document
  | .null, _ => .of_short (by simp [write]) (by simp [write, readDocument, skipBlanks])
  | .bool true, _ => .of_short (by simp [write]) (by simp [write, readDocument, skipBlanks])
  | .bool false, _ => .of_short (by simp [write]) (by simp [write, readDocument, skipBlanks])
  | .number (.integer n), plain => by
    obtain ⟨c, cs, same, -⟩ := exists_toString n
    have text : (write (.number (.integer n))).toList = (toString n).toList := by
      rw [write, numberText]
    have nonempty : (write (.number (.integer n))).toList ≠ [] := by
      rw [text, same]
      exact List.cons_ne_nil c cs
    refine .of_short nonempty fun fuel rest ends => ?_
    rw [text]
    exact readDocument_integer (plain.sound.fits n .here) ends fuel
  | .number (.double x), plain => absurd .here (plain.noDouble x)
  | .string s, _ =>
    .of_short (by simp [write, toList_quote]) fun _ _ _ => by rw [write, readDocument_string]
  | .array items, plain => .array plain fun item member => (plain.item member).readsBack
  | .object members, plain => .object plain fun member inside => (plain.value inside).readsBack
termination_by document => sizeOf document
decreasing_by
  · have less := List.sizeOf_lt_of_mem member
    simp only [array.sizeOf_spec]
    omega
  · have less := sizeOf_value_lt inside
    simp only [object.sizeOf_spec]
    omega

/-- **Decoding undoes encoding.** -/
theorem read?_write {document : Json} (plain : Plain document) :
    read? document.write = some document := by
  have enough : document.write.toList.length ≤ 2 * document.write.toList.length + 2 := by omega
  have read := plain.readsBack enough (show Ends [] by simp [Ends])
  rw [List.append_nil] at read
  simp only [read?, read]
  rfl

end Json

end Tapline
