/-!
# Lines

What stands between the words of a configuration text: blanks, comments and line breaks. A
line break is a line feed, alone or after a carriage return. Control characters other than
the tab stand nowhere, not even in comments.
-/

namespace QueryCache.Toml

/-- Whether a character separates words on a line. -/
def isBlank (c : Char) : Bool := c = ' ' || c = '\t'

/-- Whether a character may stand in a comment or between quotes. -/
def isPlain (c : Char) : Bool := c = '\t' || (' ' ≤ c && c ≠ '\x7f')

/-- Skip the blanks of a line. -/
def skipBlanks (cs : List Char) : List Char := cs.dropWhile isBlank

/-- Read a line break. -/
def lineBreak? : List Char → Option (List Char)
  | '\n' :: cs => some cs
  | '\r' :: '\n' :: cs => some cs
  | _ => none

/-- Skip a comment, if there is one. -/
def skipComment : List Char → List Char
  | '#' :: cs => cs.dropWhile isPlain
  | cs => cs

/-- Read the end of a line, after blanks and a comment. The last line needs no break. -/
def lineEnd? (cs : List Char) : Option (List Char) :=
  match skipComment (skipBlanks cs) with
  | [] => some []
  | cs => lineBreak? cs

private def skipWith (skip : List Char → List Char) : Nat → List Char → List Char
  | 0, cs => cs
  | fuel + 1, cs =>
    let cs := skip cs
    match lineBreak? cs with
    | some cs => skipWith skip fuel cs
    | none => cs

/-- Skip blanks and line breaks. -/
def skipBreaks (cs : List Char) : List Char := skipWith skipBlanks (cs.length + 1) cs

/-- Skip blanks, line breaks and comments. -/
def skipSpace (cs : List Char) : List Char :=
  skipWith (fun cs => skipComment (skipBlanks cs)) (cs.length + 1) cs

end QueryCache.Toml
