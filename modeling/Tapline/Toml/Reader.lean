import Tapline.Toml.Scalar
/-!
# Reading TOML

The reader goes statement by statement: a key with a value, a header, or a double header, each
followed by the end of its line. It works on the characters left and refuses the text at the
first fault.
-/

namespace Tapline.Toml

/-! ### Blanks, comments, lines -/

/-- Drops blanks within a line. -/
def skipBlanks (cs : List Char) : List Char := cs.dropWhile (fun c => c == ' ' || c == '\t')

/-- Whether a character may stand in a comment, or in a string of one line. -/
def isInlineChar (c : Char) : Bool := c == '\t' || (0x20 ≤ c.toNat && c.toNat != 0x7F)

def skipComment : List Char → List Char
  | '#' :: rest => rest.dropWhile isInlineChar
  | cs => cs

/-- A line break, and the rest. -/
def lineBreak? : List Char → Option (List Char)
  | '\n' :: rest => some rest
  | '\r' :: '\n' :: rest => some rest
  | _ => none

/-- The rest of a line that holds nothing more than a comment, and its end. -/
def lineEnd? (cs : List Char) : Option (List Char) :=
  match skipComment (skipBlanks cs) with
  | [] => some []
  | rest => lineBreak? rest

/-- Drops blanks, comments and line breaks. -/
def skipLines : Nat → List Char → List Char
  | 0, cs => cs
  | fuel + 1, cs =>
    match lineBreak? (skipComment (skipBlanks cs)) with
    | some rest => skipLines fuel rest
    | none => skipComment (skipBlanks cs)

/-! ### Strings -/

/-- The character of an escape, less its backslash, and the rest. -/
def escape? : List Char → Option (Char × List Char)
  | 'b' :: rest => some ('\x08', rest)
  | 't' :: rest => some ('\t', rest)
  | 'n' :: rest => some ('\n', rest)
  | 'f' :: rest => some ('\x0c', rest)
  | 'r' :: rest => some ('\r', rest)
  | '\x22' :: rest => some ('\x22', rest)
  | '\\' :: rest => some ('\\', rest)
  | 'u' :: rest => number? 4 rest
  | 'U' :: rest => number? 8 rest
  | _ => none
where
  /-- The character of a code point in so many digits. -/
  number? (width : Nat) (cs : List Char) : Option (Char × List Char) :=
    let digits := cs.take width
    let code := valueIn 16 digits
    if digits.length = width ∧ digits.all (fun c => (Json.hexValue? c).isSome) ∧
        (code < 0xD800 ∨ (0xE000 ≤ code ∧ code < 0x110000)) then
      some (Char.ofNat code, cs.drop width)
    else none

/-- The inside of a string of one line, gathered backwards, and the rest. -/
def basic? (gathered : List Char) : Nat → List Char → Option (String × List Char)
  | 0, _ => none
  | _, [] => none
  | fuel + 1, c :: rest =>
    if c = '\x22' then some (String.ofList gathered.reverse, rest)
    else if c = '\\' then do
      let (escaped, rest) ← escape? rest
      basic? (escaped :: gathered) fuel rest
    else if isInlineChar c then basic? (c :: gathered) fuel rest
    else none

/-- The inside of a string of one line without escapes, and the rest. -/
def literal? (cs : List Char) : Option (String × List Char) :=
  let inside := cs.takeWhile (fun c => isInlineChar c && c != '\x27')
  match cs.drop inside.length with
  | '\x27' :: rest => some (String.ofList inside, rest)
  | _ => none

/-- The quotation marks that close a string of several lines: three, and up to two more that
belong to the string. -/
def closing? (mark : Char) (cs : List Char) : Option (Nat × List Char) :=
  let marks := min 5 (cs.takeWhile (· == mark)).length
  if 3 ≤ marks then some (marks - 3, cs.drop marks) else none

/-- Drops blanks and line breaks. -/
def skipSpace : List Char → List Char
  | '\r' :: '\n' :: rest => skipSpace rest
  | c :: rest => if c == ' ' || c == '\t' || c == '\n' then skipSpace rest else c :: rest
  | [] => []

/-- Drops blanks and line breaks after a backslash at the end of a line. -/
def joinLines (cs : List Char) : Option (List Char) :=
  (lineBreak? (skipBlanks cs)).map skipSpace

/-- The inside of a string of several lines, gathered backwards, and the rest. -/
def multiline? (mark : Char) (escapes : Bool) (gathered : List Char) :
    Nat → List Char → Option (String × List Char)
  | 0, _ => none
  | _, [] => none
  | fuel + 1, c :: rest =>
    match closing? mark (c :: rest) with
    | some (kept, rest) =>
      some (String.ofList (gathered.reverse ++ List.replicate kept mark), rest)
    | none =>
      -- A line break of either sort is read as a line feed.
      match lineBreak? (c :: rest) with
      | some rest => multiline? mark escapes ('\n' :: gathered) fuel rest
      | none =>
        if c = '\\' ∧ escapes then
          match joinLines rest with
          | some rest => multiline? mark escapes gathered fuel rest
          -- No line ends here, so the backslash begins an escape.
          | none => do
            let (escaped, rest) ← escape? rest
            multiline? mark escapes (escaped :: gathered) fuel rest
        else if isInlineChar c then multiline? mark escapes (c :: gathered) fuel rest
        else none

/-- A string of several lines after its opening marks; a line break right there is dropped. -/
def block? (mark : Char) (escapes : Bool) (cs : List Char) : Option (String × List Char) :=
  multiline? mark escapes [] (cs.length + 1) ((lineBreak? cs).getD cs)

/-- A string in any of the four ways of writing, and the rest. -/
def string? : List Char → Option (String × List Char)
  | '\x22' :: '\x22' :: '\x22' :: rest => block? '\x22' true rest
  | '\x27' :: '\x27' :: '\x27' :: rest => block? '\x27' false rest
  | '\x22' :: rest => basic? [] (rest.length + 1) rest
  | '\x27' :: rest => literal? rest
  | _ => none

/-! ### Keys -/

/-- Whether a character may stand in a key without marks. -/
def isBareChar (c : Char) : Bool := c.isAlphanum || c == '_' || c == '-'

/-- One part of a key, and the rest. -/
def simpleKey? (cs : List Char) : Option (String × List Char) :=
  match cs with
  | '\x22' :: rest => basic? [] (rest.length + 1) rest
  | '\x27' :: rest => literal? rest
  | cs =>
    let (bare, rest) := cs.span isBareChar
    if bare.isEmpty then none else some (String.ofList bare, rest)

/-- Keys have fewer parts than this, and values lie within fewer arrays and inline tables. -/
def depthLimit : Nat := 80

/-- The parts of a key between points, and the rest. -/
def keyParts? : Nat → List Char → Option (List String × List Char)
  | 0, _ => none
  | fuel + 1, cs => do
    let (first, rest) ← simpleKey? (skipBlanks cs)
    match skipBlanks rest with
    | '.' :: rest =>
      let (parts, rest) ← keyParts? fuel rest
      return (first :: parts, rest)
    | rest => return ([first], rest)

/-- A key in parts between points, and the rest. -/
def key? (cs : List Char) : Option (List String × List Char) := do
  let (parts, rest) ← keyParts? (cs.length + 1) cs
  if parts.length < depthLimit then some (parts, rest) else none

/-! ### Values -/

mutual

/-- A value that may hold values within one another to some depth, and the rest. -/
def value? : Nat → Nat → List Char → Option (Item × List Char)
  | 0, _, _ => none
  | fuel + 1, depth, cs =>
    match depth, cs with
    | _, '\x22' :: _ | _, '\x27' :: _ => (string? cs).map fun (s, rest) => (.string s, rest)
    | 0, '[' :: _ | 0, '\x7b' :: _ => none
    | depth + 1, '[' :: rest => do
      let (items, rest) ← items? fuel depth rest
      return (.array items, rest)
    | depth + 1, '\x7b' :: rest =>
      match skipBlanks rest with
      | '\x7d' :: rest => some (.inlineTable [], rest)
      | rest => do
        let (members, rest) ← pairs? fuel depth [] rest
        return (.inlineTable members, rest)
    | _, cs => do
      let (word, rest) := splitWord cs
      return (← scalar? word, rest)

/-- The items of an array up to its closing bracket, and the rest. -/
def items? : Nat → Nat → List Char → Option (List Item × List Char)
  | 0, _, _ => none
  | fuel + 1, depth, cs =>
    match skipLines (cs.length + 1) cs with
    | ']' :: rest => some ([], rest)
    | cs => do
      let (item, rest) ← value? fuel depth cs
      match skipLines (rest.length + 1) rest with
      | ',' :: rest =>
        let (items, rest) ← items? fuel depth rest
        return (item :: items, rest)
      | ']' :: rest => return ([item], rest)
      | _ => none

/-- The members of an inline table up to its closing brace, and the rest. -/
def pairs? : Nat → Nat → Members → List Char → Option (Members × List Char)
  | 0, _, _, _ => none
  | fuel + 1, depth, members, cs => do
    let (keys, rest) ← key? cs
    let (value, rest) ← value? fuel depth (skipBlanks (← expect? '=' rest))
    let members ← assign value keys members
    match skipBlanks rest with
    | ',' :: rest => pairs? fuel depth members rest
    | '\x7d' :: rest => return (members, rest)
    | _ => none

end

/-! ### Documents -/

/-- What has been read: the tree, and the path of the table that is open. -/
structure Progress where
  root : Members
  path : List String

/-- Reads one statement, or an empty line. -/
def statement? (progress : Progress) (cs : List Char) : Option (Progress × List Char) :=
  match skipBlanks cs with
  | '[' :: '[' :: rest => do
    let (path, rest) ← key? rest
    let rest ← lineEnd? (← expect? ']' (← expect? ']' rest))
    return (⟨← openNext path progress.root, path⟩, rest)
  | '[' :: rest => do
    let (path, rest) ← key? rest
    let rest ← lineEnd? (← expect? ']' rest)
    return (⟨← openTable path progress.root, path⟩, rest)
  | cs =>
    match lineEnd? cs with
    | some rest => some (progress, rest)
    | none => do
      let (keys, rest) ← key? cs
      let rest := skipBlanks (← expect? '=' rest)
      let (value, rest) ← value? (2 * rest.length + 2) (depthLimit - 1) rest
      let rest ← lineEnd? rest
      return (⟨← assignIn progress.path keys value progress.root, progress.path⟩, rest)

/-- Reads statements to the end of the text. -/
def statements? : Nat → Progress → List Char → Option Progress
  | _, progress, [] => some progress
  | 0, _, _ => none
  | fuel + 1, progress, cs => do
    let (progress, rest) ← statement? progress cs
    statements? fuel progress rest

/-- Reads a document; a byte order mark at its start is dropped. -/
def read? (text : String) : Option Members :=
  let cs := match text.toList with
    | '\uFEFF' :: rest => rest
    | cs => cs
  (statements? (cs.length + 1) ⟨[], []⟩ cs).map Progress.root

end Tapline.Toml
