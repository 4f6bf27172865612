import QueryCache.Text.Blank
import QueryCache.Text.Digits

/-!
# Atoms of patterns

The smallest parts of a pattern: characters, escapes, and what an escape stands for. A pattern
matches texts in UTF-8. No tables of letters beyond ASCII are kept, so whatever would need
one does not fit: outside ASCII there is no ignoring of letter case, no class of digits,
blanks or letters, and no edge of a word.
-/

namespace QueryCache.Log.Pattern

/-- The switches of a pattern that bear on what it may hold: whether letter case counts for
nothing, whether classes and word edges are those of all characters, and whether blanks and
remarks are skipped. -/
structure Mode where
  ignoresCase : Bool := false
  isWide : Bool := true
  isSpaced : Bool := false
  deriving DecidableEq

/-- An atom: a character, perhaps given as a byte, a class of characters or its opposite, or
a place in the text, perhaps the edge of a word. -/
inductive Atom where
  | char (c : Char) (isByte : Bool)
  | family (isNegated : Bool)
  | place (isEdge : Bool)
  deriving DecidableEq

/-- Whether an atom may stand in a pattern. A byte beyond ASCII alone is not UTF-8, and neither
is what lies outside a class of bytes. -/
def Atom.fits (m : Mode) : Atom → Bool
  | char c isByte => if m.isWide then !m.ignoresCase else !isByte || c.toNat < 128
  | family isNegated => !m.isWide && !isNegated
  | place isEdge => !isEdge || !m.isWide

/-- Skip blanks and remarks, which reach to the end of their line. The flag says whether a
remark has begun. -/
def skipRemarks : Bool → List Char → List Char
  | _, [] => []
  | true, c :: cs => skipRemarks (c ≠ '\n') cs
  | false, c :: cs =>
    if Text.isBlank c then skipRemarks false cs
    else if c = '#' then skipRemarks true cs
    else c :: cs

/-- Skip what does not count. -/
def skip (m : Mode) (cs : List Char) : List Char :=
  if m.isSpaced then skipRemarks false cs else cs

/-- Read digits of a code point, between which may stand what does not count. -/
def hexDigits? (m : Mode) : Nat → List Char → Option (List Char × List Char)
  | 0, cs => some ([], cs)
  | width + 1, cs =>
    match skip m cs with
    | c :: cs => (hexDigits? m width cs).map fun (ds, cs) => (c :: ds, cs)
    | [] => none

/-- Read the character of a code point with a fixed number of digits. -/
def codePoint? (m : Mode) (width : Nat) (cs : List Char) : Option (Char × List Char) := do
  let (ds, cs) ← hexDigits? m width cs
  some (← Text.ofCodePoint? ds, cs)

/-- Whether a character stands for itself after a backslash: any ASCII character that is no
letter, no digit and no angle bracket. -/
def isLiteralEscape (c : Char) : Bool :=
  c.toNat < 128 && !c.isAlphanum && c ≠ '<' && c ≠ '>'

/-- The control character that a letter stands for after a backslash. -/
def control? : Char → Option Char
  | 'a' => some '\x07'
  | 'f' => some '\x0c'
  | 't' => some '\t'
  | 'n' => some '\n'
  | 'r' => some '\r'
  | 'v' => some '\x0b'
  | _ => none

/-- Read an escape, after its backslash. Properties of characters and references to earlier
matches are none. -/
def escape? (m : Mode) : List Char → Option (Atom × List Char)
  | [] => none
  | 'x' :: cs => (codePoint? m 2 cs).map fun (c, cs) => (.char c true, cs)
  | 'u' :: cs => (codePoint? m 4 cs).map fun (c, cs) => (.char c false, cs)
  | 'U' :: cs => (codePoint? m 8 cs).map fun (c, cs) => (.char c false, cs)
  | c :: cs =>
    if isLiteralEscape c then some (.char c false, cs)
    else if let some c := control? c then some (.char c false, cs)
    else if "dsw".contains c then some (.family false, cs)
    else if "DSW".contains c then some (.family true, cs)
    else if "Az".contains c then some (.place false, cs)
    else if "bB<>".contains c then some (.place true, cs)
    else none

end QueryCache.Log.Pattern
