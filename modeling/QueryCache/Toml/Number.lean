import QueryCache.Text.Digits
import QueryCache.Toml.Value

/-!
# Numbers

The written forms of numbers: integers in four bases, and decimal numbers with a fraction or
an exponent. A single underscore may stand between two digits, and a decimal number does not
begin with a needless zero. The form of an integer is looser than its value: what follows a
base or an underscore need not be digits, and then no reader finds a number there.
-/

namespace QueryCache.Toml

open Text (isDigitOf ofDigits)

/-- Whether every underscore stands between two digits, or between a sign and a digit. The
flag says whether a sign or a digit comes before. -/
def underscoresFit (isDigit : Char → Bool) : Bool → List Char → Bool
  | _, [] => true
  | before, '_' :: c :: cs => before && isDigit c && underscoresFit isDigit true cs
  | _, ['_'] => false
  | _, c :: cs => underscoresFit isDigit (isDigit c) cs

/-- A text without its underscores. -/
def withoutUnderscores (cs : List Char) : List Char := cs.filter (· ≠ '_')

/-- Split off a sign. -/
def splitSign : List Char → Option Char × List Char
  | '-' :: cs => (some '-', cs)
  | '+' :: cs => (some '+', cs)
  | cs => (none, cs)

private def signed (sign : Option Char) (n : Nat) : Int := if sign = some '-' then -n else n

/-- Read an integer after the mark of its base. -/
private def based? (base : Nat) (w cs : List Char) : Option (Option Int) :=
  let ds := withoutUnderscores cs
  if ds.all (isDigitOf base) && underscoresFit (isDigitOf 16) false w then
    some (if ds.isEmpty then none else some (ofDigits base ds))
  else none

/-- Whether a text without its sign has the form of a decimal integer: digits, and after them
perhaps an underscore with what belongs to no other form. -/
private def isDecimal (cs : List Char) : Bool :=
  let rest := cs.dropWhile Char.isDigit
  cs = ['0'] || cs ≠ [] && cs.head? ≠ some '0' && (rest.isEmpty || rest.head? = some '_') &&
    rest.all fun c => !" .eE".contains c

/-- Read a decimal integer. -/
private def decimal? (w : List Char) : Option (Option Int) :=
  let (sign, cs) := splitSign w
  if isDecimal cs && underscoresFit (isDigitOf 16) sign.isSome cs then
    let ds := withoutUnderscores cs
    some (if ds.all Char.isDigit then some (signed sign (ofDigits 10 ds)) else none)
  else none

/-- Read an integer by its form. Only decimal integers have a sign. -/
def integer? : List Char → Option (Option Int)
  | '0' :: 'x' :: cs => based? 16 ('0' :: 'x' :: cs) cs
  | '0' :: 'o' :: cs => based? 8 ('0' :: 'o' :: cs) cs
  | '0' :: 'b' :: cs => based? 2 ('0' :: 'b' :: cs) cs
  | cs => decimal? cs

/-- Digits, at least one. -/
private def digits? (cs : List Char) : Option (List Char) :=
  if cs ≠ [] ∧ cs.all Char.isDigit then some cs else none

private def exponent? : List Char → Option Int
  | [] => some 0
  | _ :: cs => do
    let (sign, cs) := splitSign cs
    some (signed sign (ofDigits 10 (← digits? cs)))

private def fraction? : List Char → Option (List Char)
  | [] => some []
  | _ :: cs => digits? cs

/-- Read a number with a fraction or an exponent, or one that is none. -/
def real? (w : List Char) : Option Real :=
  let (sign, cs) := splitSign w
  if cs = ['i', 'n', 'f'] then some (.infinite (sign = some '-'))
  else if cs = ['n', 'a', 'n'] then some .nan
  else do
    guard (underscoresFit (isDigitOf 10) sign.isSome cs)
    let isMark (c : Char) : Bool := c = 'e' || c = 'E'
    let (mantissa, tail) := (withoutUnderscores cs).span fun c => !isMark c
    let (whole, fraction) := mantissa.span (· ≠ '.')
    guard (tail ≠ [] ∨ fraction ≠ [])
    let ds ← digits? whole
    guard (ds = ['0'] ∨ cs.head? ≠ some '0')
    let fs ← fraction? fraction
    let e ← exponent? tail
    some (.finite (sign = some '-') (ofDigits 10 (ds ++ fs)) (e - fs.length))

end QueryCache.Toml
