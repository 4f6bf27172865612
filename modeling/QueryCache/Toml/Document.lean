import QueryCache.Toml.Growth
import QueryCache.Toml.Number
import QueryCache.Toml.Quoted

/-!
# Configuration texts

Reading a configuration text line by line: a line is empty, gives a key its value, or is a
header that says which table the following lines fill. Arrays and tables between brackets and
braces may go over several lines, with comments; they nest at most eighty deep, and a key has
at most eighty parts.
-/

namespace QueryCache.Toml

/-- How deep brackets and braces may nest, and how many parts a key may have. -/
def nestingLimit : Nat := 80

private def isBare (c : Char) : Bool := c.isAlphanum || c = '_' || c = '-'

private def keyPart? (cs : List Char) : Option (String × List Char) :=
  match cs with
  | '"' :: _ | '\'' :: _ => quotedLine? cs
  | cs =>
    let part := cs.takeWhile isBare
    if part.isEmpty then none else some (String.ofList part, cs.dropWhile isBare)

private def keyParts? : Nat → List Char → Option (List String × List Char)
  | 0, _ => none
  | fuel + 1, cs => do
    let (part, cs) ← keyPart? cs
    match skipBlanks cs with
    | '.' :: cs =>
      let (parts, cs) ← keyParts? fuel (skipBlanks cs)
      some (part :: parts, cs)
    | cs => some ([part], cs)

/-- Read a key: the path to its table, its last part, and what follows after blanks. -/
def key? (cs : List Char) : Option (List String × String × List Char) := do
  let (parts, cs) ← keyParts? nestingLimit cs
  some (parts.dropLast, ← parts.getLast?, cs)

private def isWord (c : Char) : Bool :=
  !isBlank c && !("\r\n,=[]#".contains c) && c ≠ '\x7b' && c ≠ '\x7d'

private def opensWord (c : Char) : Bool := isWord c && c ≠ '.' && c ≠ '"' && c ≠ '\''

/-- The words before the next delimiter, with the blanks between them. -/
private def words : Nat → List Char → List Char × List Char
  | 0, cs => ([], cs)
  | fuel + 1, cs =>
    let (w, rest) := cs.span isWord
    match rest.span isBlank with
    | (blanks, c :: rest') =>
      if blanks ≠ [] ∧ opensWord c then
        let (ws, rest) := words fuel (c :: rest')
        (w ++ blanks ++ ws, rest)
      else (w, rest)
    | (_, []) => (w, rest)

/-- An unquoted value reaches to the next delimiter. Blanks belong to it if it goes on after
them, as a date does with its time. -/
def word (cs : List Char) : List Char × List Char := words (cs.length + 1) cs

/-- The value that an unquoted word stands for. -/
def ofWord? (w : List Char) : Option Value :=
  if w = "true".toList then some (.truth true)
  else if w = "false".toList then some (.truth false)
  else (integer? w).map .integer <|> (real? w).map .real <|> (Moment.ofChars? w).map .moment

private def scalar? (cs : List Char) : Option (Value × List Char) :=
  match cs with
  | '"' :: _ | '\'' :: _ => (quoted? cs).map fun (s, cs) => (.text s, cs)
  | cs =>
    let (w, cs) := word cs
    (ofWord? w).map (·, cs)

private def items? (item? : List Char → Option (Value × List Char)) :
    Nat → List Char → Option (List Value × List Char)
  | 0, _ => none
  | fuel + 1, cs =>
    match skipSpace cs with
    | ']' :: cs => some ([], cs)
    | cs => do
      let (v, cs) ← item? cs
      match skipSpace cs with
      | ',' :: cs =>
        let (vs, cs) ← items? item? fuel cs
        some (v :: vs, cs)
      | ']' :: cs => some ([v], cs)
      | _ => none

/-- Read an assignment into a table, up to the end of its value. What may stand around the
equals sign is skipped. -/
private def assignment? (skip : List Char → List Char)
    (value? : List Char → Option (Value × List Char)) (t : Value) (cs : List Char) :
    Option (Value × List Char) := do
  let (path, key, cs) ← key? cs
  match skip cs with
  | '=' :: cs =>
    let (v, cs) ← value? (skip cs)
    some (← t.assign path key v, cs)
  | _ => none

private def fields? (value? : List Char → Option (Value × List Char)) :
    Nat → Value → List Char → Option (Value × List Char)
  | 0, _, _ => none
  | fuel + 1, t, cs =>
    match skipSpace cs with
    | '\x7d' :: cs => some (t, cs)
    | cs => do
      let (t, cs) ← assignment? skipSpace value? t cs
      match skipSpace cs with
      | ',' :: cs => fields? value? fuel t cs
      | '\x7d' :: cs => some (t, cs)
      | _ => none

/-- Read a value whose brackets and braces nest at most as deep as the given number. -/
def value? : Nat → List Char → Option (Value × List Char)
  | 0, cs => scalar? cs
  | depth + 1, cs =>
    match cs with
    | '[' :: cs =>
      (items? (value? depth) (cs.length + 1) cs).map fun (vs, cs) => (.array false vs, cs)
    | '\x7b' :: cs => fields? (value? depth) (cs.length + 1) (.table .inline []) cs
    | cs => scalar? cs

/-- A header: the key of a table, or of an array to which it adds a table. -/
structure Header where
  isItem : Bool
  path : List String
  key : String

/-- Read a header, from its first bracket to its last. -/
def header? : List Char → Option (Header × List Char)
  | '[' :: '[' :: cs => do
    match ← key? (skipBlanks cs) with
    | (path, key, ']' :: ']' :: cs) => some (⟨true, path, key⟩, cs)
    | _ => none
  | '[' :: cs => do
    match ← key? (skipBlanks cs) with
    | (path, key, ']' :: cs) => some (⟨false, path, key⟩, cs)
    | _ => none
  | _ => none

/-- A text read in part: the finished tables, and the table that is being filled with its
header. Without a header that is the outermost table. -/
structure Draft where
  root : Value := .table .header []
  header : Option Header := none
  current : Value := .table .header []

namespace Draft

/-- Put the table that was being filled in its place. -/
def finish? (d : Draft) : Option Value :=
  match d.header with
  | none => some d.current
  | some h =>
    if h.isItem then d.root.closeItem h.path h.key d.current
    else d.root.closeTable h.path h.key d.current

/-- Begin to fill another table. -/
def enter? (d : Draft) (h : Header) : Option Draft := do
  let root ← d.finish?
  if h.isItem then some ⟨root, some h, .table .header []⟩
  else
    let (current, root) ← root.openTable h.path h.key
    some ⟨root, some h, current⟩

/-- Read one line. -/
def line? (d : Draft) (cs : List Char) : Option (Draft × List Char) :=
  match skipBlanks cs with
  | '[' :: cs => do
    let (h, cs) ← header? ('[' :: cs)
    some (← d.enter? h, ← lineEnd? cs)
  | cs =>
    match lineEnd? cs with
    | some cs => some (d, cs)
    | none => do
      let (t, cs) ← assignment? skipBlanks (value? nestingLimit) d.current cs
      some ({ d with current := t }, ← lineEnd? cs)

/-- Read lines up to the end. -/
def lines? : Nat → Draft → List Char → Option Draft
  | _, d, [] => some d
  | 0, _, _ => none
  | fuel + 1, d, cs => do
    let (d, cs) ← d.line? cs
    lines? fuel d cs

end Draft

/-- The configuration tree of a text, if the text is well formed. A byte order mark in front
does not count. -/
def parse? (s : String) : Option Value :=
  let cs := match s.toList with
    | '\ufeff' :: cs => cs
    | cs => cs
  (Draft.lines? cs.length {} cs).bind Draft.finish?

end QueryCache.Toml
