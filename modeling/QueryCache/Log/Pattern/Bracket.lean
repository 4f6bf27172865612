import QueryCache.Log.Pattern.Atom

/-!
# Bracketed classes

The classes of characters between brackets: characters, ranges, named classes and further
brackets, joined side by side or by an operator of two equal signs. Right after the opening
bracket, and the caret that negates it, hyphens stand for themselves, and so does a closing
bracket.
-/

namespace QueryCache.Log.Pattern

/-- The named classes, all of ASCII. -/
def classNames : List String :=
  ["alnum", "alpha", "ascii", "blank", "cntrl", "digit", "graph", "lower", "print", "punct",
    "space", "upper", "word", "xdigit"]

/-- Whether an atom may stand in a class. A class of bytes holds ASCII alone. -/
def Atom.fitsClass (m : Mode) : Atom → Bool
  | char c _ => if m.isWide then !m.ignoresCase else c.toNat < 128
  | family isNegated => Atom.fits m (.family isNegated)
  | place _ => false

/-- Read a named class after its first bracket: whether it is negated, and what follows. -/
def namedClass? : List Char → Option (Bool × List Char)
  | ':' :: cs =>
    let (isNegated, cs) := match cs with
      | '^' :: cs => (true, cs)
      | cs => (false, cs)
    match cs.span (· ≠ ':') with
    | (name, ':' :: ']' :: cs) =>
      if classNames.contains (String.ofList name) then some (isNegated, cs) else none
    | _ => none
  | _ => none

/-- Whether a named class may stand in a pattern. -/
def namedFits (m : Mode) (isNegated : Bool) : Bool :=
  if m.isWide then !m.ignoresCase else !isNegated

/-- Read one member of a class. -/
def member? (m : Mode) : List Char → Option (Atom × List Char)
  | '\\' :: cs => escape? m cs
  | c :: cs => some (.char c false, cs)
  | [] => none

/-- The character after the next one, as far as it decides whether a hyphen makes a range. -/
def ahead? (m : Mode) (cs : List Char) : Option Char :=
  if m.isSpaced then
    match cs.dropWhile Text.isBlank with
    | '#' :: cs => (cs.dropWhile Text.isBlank).head?
    | cs => cs.head?
  else cs.head?

/-- Read one member of a class, or a range between two. -/
def span? (m : Mode) (cs : List Char) : Option (List Char) := do
  let (a, cs) ← member? m cs
  let single (cs : List Char) : Option (List Char) := if a.fitsClass m then some cs else none
  match skip m cs with
  | '-' :: cs =>
    if ahead? m cs = some ']' ∨ ahead? m cs = some '-' then single ('-' :: cs)
    else
      let (b, cs) ← member? m (skip m cs)
      match a, b with
      | .char x _, .char y _ =>
        if x ≤ y ∧ a.fitsClass m ∧ b.fitsClass m then some cs else none
      | _, _ => none
  | cs => single cs

private def skipHyphens (m : Mode) : Nat → List Char → List Char
  | fuel + 1, '-' :: cs => skipHyphens m fuel (skip m cs)
  | _, cs => cs

/-- Read what stands right after an opening bracket. A class of bytes cannot be negated. -/
def opened? (m : Mode) (cs : List Char) : Option (List Char) :=
  let members (cs : List Char) : Option (List Char) :=
    match cs with
    | '-' :: _ =>
      if Atom.fitsClass m (.char '-' false) then some (skipHyphens m cs.length cs) else none
    | ']' :: cs => if Atom.fitsClass m (.char ']' false) then some (skip m cs) else none
    | cs => some cs
  match skip m cs with
  | '^' :: cs => if m.isWide then members (skip m cs) else none
  | cs => members cs

/-- Read the rest of a class, in which as many further brackets are open as the second number
says. -/
def classRest? (m : Mode) : Nat → Nat → List Char → Option (List Char)
  | 0, _, _ => none
  | fuel + 1, depth, cs =>
    match skip m cs with
    | [] => none
    | '[' :: cs =>
      match namedClass? cs with
      | some (isNegated, cs) =>
        if namedFits m isNegated then classRest? m fuel depth cs else none
      | none => opened? m cs >>= classRest? m fuel (depth + 1)
    | ']' :: cs =>
      match depth with
      | 0 => some cs
      | depth + 1 => classRest? m fuel depth cs
    | '&' :: '&' :: cs => classRest? m fuel depth cs
    | '-' :: '-' :: cs => classRest? m fuel depth cs
    | '~' :: '~' :: cs => classRest? m fuel depth cs
    | cs => span? m cs >>= classRest? m fuel depth

/-- Read a class after its first bracket. -/
def class? (m : Mode) (cs : List Char) : Option (List Char) :=
  opened? m cs >>= classRest? m (cs.length + 1) 0

end QueryCache.Log.Pattern
