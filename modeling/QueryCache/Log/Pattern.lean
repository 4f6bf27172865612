import QueryCache.Log.Pattern.Bracket
import QueryCache.Text.WordTable

/-!
# Patterns

Which texts are patterns for the values of fields: atoms, classes and groups, repeated or
not, side by side or as alternatives. A counted repetition needs braces and is none here.
Switches hold to the end of their group.
-/

namespace QueryCache.Log.Pattern

/-- A pattern read in part: the switches in force, those to go back to at the ends of the
open groups, the names of groups, and whether there is something to repeat. -/
structure Draft where
  mode : Mode := {}
  outer : List Mode := []
  names : List (List Char) := []
  canRepeat : Bool := false

private def isWordChar (c : Char) : Bool := c = '_' || Text.inRanges Text.wordRanges c.toNat

/-- Whether a group may have a name: a word that does not begin with a digit, in which points
and brackets may stand. -/
def isGroupName : List Char → Bool
  | [] => false
  | c :: cs => isWordChar c && !c.isDigit && cs.all fun c => isWordChar c || ".[]".contains c

/-- The switches after some are turned on and, behind a hyphen, others off. -/
def Mode.switched (m : Mode) (flags : List Char) : Mode :=
  let (on, off) := flags.span (· ≠ '-')
  let choose (flag : Char) (now : Bool) : Bool := (now || on.contains flag) && !off.contains flag
  { ignoresCase := choose 'i' m.ignoresCase
    isWide := choose 'u' m.isWide
    isSpaced := choose 'x' m.isSpaced }

/-- Whether switches are well formed: each is known and given once, and a hyphen has some
behind it. -/
def areSwitches (flags : List Char) : Bool :=
  flags.all ("imsUuRx-".contains ·) && decide flags.Nodup && flags.getLast? ≠ some '-'

namespace Draft

/-- The draft inside a new group. -/
def enter (d : Draft) (m : Mode) : Draft :=
  { d with mode := m, outer := d.mode :: d.outer, canRepeat := false }

/-- Read the name of a group, up to its angle bracket. -/
def group? (d : Draft) (cs : List Char) : Option (Draft × List Char) :=
  match cs.span (· ≠ '>') with
  | (name, '>' :: cs) =>
    if isGroupName name && !d.names.contains name then
      some ({ d with names := name :: d.names }.enter d.mode, cs)
    else none
  | _ => none

/-- Read switches, for the rest of the group or for a group of their own. -/
def switches? (d : Draft) (cs : List Char) : Option (Draft × List Char) :=
  match cs.span fun c => c ≠ ':' && c ≠ ')' with
  | (flags, c :: cs) =>
    if !areSwitches flags then none
    else if c = ':' then some (d.enter (d.mode.switched flags), cs)
    else if flags.isEmpty then none
    else some ({ d with mode := d.mode.switched flags, canRepeat := false }, cs)
  | _ => none

/-- Read what stands after an opening parenthesis. -/
def opened? (d : Draft) (cs : List Char) : Option (Draft × List Char) :=
  match skip d.mode cs with
  | '?' :: 'P' :: '<' :: cs => d.group? cs
  | '?' :: '<' :: cs => d.group? cs
  | '?' :: cs => d.switches? cs
  | cs => some (d.enter d.mode, cs)

/-- Read one part of a pattern. -/
def part? (d : Draft) : List Char → Option (Draft × List Char)
  | [] => none
  | '(' :: cs => d.opened? cs
  | ')' :: cs =>
    match d.outer with
    | [] => none
    | m :: outer => some ({ d with mode := m, outer, canRepeat := true }, cs)
  | '|' :: cs => some ({ d with canRepeat := false }, cs)
  | '[' :: cs => (class? d.mode cs).map ({ d with canRepeat := true }, ·)
  | '\\' :: cs => do
    let (a, cs) ← escape? d.mode cs
    if a.fits d.mode then some ({ d with canRepeat := true }, cs) else none
  | c :: cs =>
    let next : Option (Draft × List Char) := some ({ d with canRepeat := true }, cs)
    if "?*+".contains c then
      if d.canRepeat then some (d, if cs.head? = some '?' then cs.drop 1 else cs) else none
    else if c = '\x7b' then none
    else if c = '.' then (if d.mode.isWide then next else none)
    else if c = '^' ∨ c = '$' then next
    else if Atom.fits d.mode (.char c false) then next
    else none

/-- Whether the rest of a pattern can be read up to the end, where no group is open. -/
def accepts : Nat → Draft → List Char → Bool
  | 0, _, _ => false
  | fuel + 1, d, cs =>
    match skip d.mode cs with
    | [] => d.outer.isEmpty
    | cs =>
      match d.part? cs with
      | some (d, cs) => accepts fuel d cs
      | none => false

end Draft

end Pattern

/-- Whether a text is a pattern. -/
def isPattern (s : String) : Bool := Pattern.Draft.accepts (s.toList.length + 1) {} s.toList

end QueryCache.Log
