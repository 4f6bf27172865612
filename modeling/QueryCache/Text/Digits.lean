/-!
# Digits

Digits in bases up to sixteen, with letters of either case for the digits from ten up, the
numbers and characters that rows of digits stand for, and the texts that are numbers.
-/

namespace QueryCache.Text

/-- The value of a digit in any base up to sixteen. -/
def digitValue (c : Char) : Nat :=
  if c.isDigit then c.toNat - '0'.toNat
  else if 'a' ≤ c ∧ c ≤ 'f' then c.toNat - 'a'.toNat + 10
  else if 'A' ≤ c ∧ c ≤ 'F' then c.toNat - 'A'.toNat + 10
  else 16

/-- Whether a character is a digit of a base. -/
def isDigitOf (base : Nat) (c : Char) : Bool := digitValue c < base

/-- The number that digits stand for. -/
def ofDigits (base : Nat) (ds : List Char) : Nat :=
  ds.foldl (fun n c => base * n + digitValue c) 0

/-- The character of a code point in hexadecimal digits. -/
def ofCodePoint? (ds : List Char) : Option Char :=
  let n := ofDigits 16 ds
  if ds.all (isDigitOf 16) && n.isValidChar then some (Char.ofNat n) else none

/-- Drop a sign. -/
def withoutSign : List Char → List Char
  | '+' :: cs => cs
  | '-' :: cs => cs
  | cs => cs

/-- Whether a text is a decimal number without a sign: digits, among them perhaps a point, and
perhaps an exponent. -/
def isDecimal (cs : List Char) : Bool :=
  let (mantissa, tail) := cs.span fun c => c ≠ 'e' && c ≠ 'E'
  let (whole, fraction) := mantissa.span (· ≠ '.')
  let ds := whole ++ fraction.drop 1
  let exponent := withoutSign (tail.drop 1)
  ds ≠ [] && ds.all Char.isDigit && (tail.isEmpty || exponent ≠ [] && exponent.all Char.isDigit)

/-- Whether a text is a number, perhaps an infinite one or none. -/
def isNumber (cs : List Char) : Bool :=
  let body := withoutSign cs
  isDecimal body || ["inf", "infinity", "nan"].contains (String.ofList body).toLower

end QueryCache.Text
