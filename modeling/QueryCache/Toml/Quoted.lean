import QueryCache.Text.Digits
import QueryCache.Toml.Line

/-!
# Quoted texts

The four quoted forms of a text: between double quotes with escapes or between single quotes
without, on one line or, between three quotes, on several. A line break right after three
opening quotes does not count. Line breaks are kept as they are written.
-/

namespace QueryCache.Toml

private def coded? (width : Nat) (cs : List Char) : Option (Char × List Char) :=
  if width ≤ cs.length then (Text.ofCodePoint? (cs.take width)).map (·, cs.drop width) else none

/-- Read an escape, after its backslash. -/
def escape? : List Char → Option (Char × List Char)
  | 'b' :: cs => some ('\x08', cs)
  | 't' :: cs => some ('\t', cs)
  | 'n' :: cs => some ('\n', cs)
  | 'f' :: cs => some ('\x0c', cs)
  | 'r' :: cs => some ('\r', cs)
  | 'e' :: cs => some ('\x1b', cs)
  | '"' :: cs => some ('"', cs)
  | '\\' :: cs => some ('\\', cs)
  | 'x' :: cs => coded? 2 cs
  | 'u' :: cs => coded? 4 cs
  | 'U' :: cs => coded? 8 cs
  | _ => none

private def line? : Nat → List Char → Option (List Char × List Char)
  | 0, _ => none
  | _, [] => none
  | _, '"' :: cs => some ([], cs)
  | fuel + 1, '\\' :: cs => do
    let (c, cs) ← escape? cs
    let (t, cs) ← line? fuel cs
    some (c :: t, cs)
  | fuel + 1, c :: cs => do
    guard (isPlain c)
    let (t, cs) ← line? fuel cs
    some (c :: t, cs)

/-- A broken line goes on at the next character that is no blank. -/
private def continued? (cs : List Char) : Option (List Char) := do
  let cs ← lineBreak? (skipBlanks cs)
  some (skipBreaks cs)

/-- Up to two quotes right before the closing ones belong to the text. -/
private def closing (quote : Char) (cs : List Char) : List Char × List Char :=
  let extra := (cs.takeWhile (· = quote)).take 2
  (extra, cs.drop extra.length)

private def lines? : Nat → List Char → Option (List Char × List Char)
  | 0, _ => none
  | _, '"' :: '"' :: '"' :: cs => some (closing '"' cs)
  | fuel + 1, '\\' :: cs =>
    match escape? cs with
    | some (c, cs) => do
      let (t, cs) ← lines? fuel cs
      some (c :: t, cs)
    | none => continued? cs >>= lines? fuel
  | fuel + 1, '\r' :: '\n' :: cs => do
    let (t, cs) ← lines? fuel cs
    some ('\r' :: '\n' :: t, cs)
  | fuel + 1, c :: cs => do
    guard (c = '\n' ∨ isPlain c)
    let (t, cs) ← lines? fuel cs
    some (c :: t, cs)
  | _, [] => none

private def literalLine? (cs : List Char) : Option (List Char × List Char) :=
  match cs.span fun c => c ≠ '\'' && isPlain c with
  | (t, '\'' :: cs) => some (t, cs)
  | _ => none

private def literalLines? : List Char → Option (List Char × List Char)
  | [] => none
  | '\'' :: '\'' :: '\'' :: cs => some (closing '\'' cs)
  | '\r' :: '\n' :: cs => do
    let (t, cs) ← literalLines? cs
    some ('\r' :: '\n' :: t, cs)
  | c :: cs => do
    guard (c = '\n' ∨ isPlain c)
    let (t, cs) ← literalLines? cs
    some (c :: t, cs)

private def skipFirstBreak (cs : List Char) : List Char := (lineBreak? cs).getD cs

/-- Read a text quoted on one line. -/
def quotedLine? : List Char → Option (String × List Char)
  | '"' :: cs => (line? (cs.length + 1) cs).map fun (t, cs) => (String.ofList t, cs)
  | '\'' :: cs => (literalLine? cs).map fun (t, cs) => (String.ofList t, cs)
  | _ => none

/-- Read a quoted text. -/
def quoted? : List Char → Option (String × List Char)
  | '"' :: '"' :: '"' :: cs =>
    (lines? (cs.length + 1) (skipFirstBreak cs)).map fun (t, cs) => (String.ofList t, cs)
  | '\'' :: '\'' :: '\'' :: cs =>
    (literalLines? (skipFirstBreak cs)).map fun (t, cs) => (String.ofList t, cs)
  | cs => quotedLine? cs

end QueryCache.Toml
