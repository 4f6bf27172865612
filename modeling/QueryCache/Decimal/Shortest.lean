/-!
# Shortest decimals

The shortest decimal that reads back as a given binary number. A positive number `m * 2^q`
owns the interval of reals that round to it; for each count of digits the two neighbours of
the number on that decimal grid are tried, and the first grid with a neighbour inside the
interval wins. All arithmetic is exact, on natural numbers.
-/

namespace QueryCache.Decimal

/-- The positive number `mantissa * 2 ^ exponent`; `tight` says that the next number below
is only half as far away as the next one above. -/
structure Binary where
  mantissa : Nat
  exponent : Int
  tight : Bool
  deriving DecidableEq, Repr

/-- The positive decimal `digits * 10 ^ exponent`. -/
structure Digits where
  digits : Nat
  exponent : Int
  deriving DecidableEq, Repr

private def pow2 (e : Int) : Nat := Nat.pow 2 e.toNat

private def pow10 (e : Int) : Nat := Nat.pow 10 e.toNat

namespace Binary

/-- The number and the ends of its interval, in quarters of a unit in the last place, over
a common denominator and divided by `10 ^ g`. -/
private def scaled (b : Binary) (g : Int) : Nat × Nat × Nat × Nat :=
  let e := b.exponent - 2
  let up := pow2 e * pow10 (-g)
  let down := pow2 (-e) * pow10 g
  let mid := 4 * b.mantissa
  let low := mid - (if b.tight then 1 else 2)
  (low * up, mid * up, (mid + 2) * up, down)

/-- Whether the number is below `10 ^ k`. -/
private def below (b : Binary) (k : Int) : Bool :=
  let (_, mid, _, den) := b.scaled k
  mid < den

private def climb (b : Binary) : Nat → Int → Int
  | 0, k => k
  | fuel + 1, k => if b.below k then k else climb b fuel (k + 1)

/-- The least `k` with the number below `10 ^ k`. The first guess is low by at most two. -/
def magnitude (b : Binary) : Int :=
  climb b 4 (Int.fdiv (((b.mantissa.log2 : Int) + b.exponent) * 30103) 100000 - 1)

/-- The nearer neighbour on the grid of multiples of `10 ^ g`, if it lies in the interval;
of two neighbours at one distance the upper. Ends of the interval belong to an even
mantissa. -/
private def onGrid (b : Binary) (g : Int) : Option Nat :=
  let (low, mid, high, den) := b.scaled g
  let floor := mid / den
  let inside (n : Nat) : Bool :=
    if b.mantissa % 2 = 0 then low ≤ n * den && n * den ≤ high
    else low < n * den && n * den < high
  let nearer := if 2 * (mid - floor * den) < den then floor else floor + 1
  let further := if nearer = floor then floor + 1 else floor
  if inside nearer then some nearer
  else if inside further then some further
  else none

private def search (b : Binary) (k : Int) : Nat → Nat → Digits
  | 0, n => ⟨b.mantissa, k - n⟩
  | fuel + 1, n =>
    match b.onGrid (k - n) with
    | some d => ⟨d, k - n⟩
    | none => search b k fuel (n + 1)

/-- The shortest decimal in the number's interval; seventeen digits always suffice. -/
def shortest (b : Binary) : Digits := search b b.magnitude 17 1

end Binary

/-- A double-precision number by its bit pattern. -/
inductive Class where
  | nan
  | infinite (negative : Bool)
  | zero (negative : Bool)
  | finite (negative : Bool) (magnitude : Binary)
  deriving DecidableEq, Repr

/-- Read the sign, exponent and fraction fields of a bit pattern. -/
def classify (bits : UInt64) : Class :=
  let n := bits.toNat
  let leading := Nat.pow 2 52
  let negative := n / Nat.pow 2 63 == 1
  let field : Nat := n / leading % 2048
  let fraction : Nat := n % leading
  if field = 2047 then if fraction = 0 then .infinite negative else .nan
  else if field = 0 then
    if fraction = 0 then .zero negative else .finite negative ⟨fraction, -1074, false⟩
  else .finite negative ⟨leading + fraction, (field : Int) - 1075, fraction == 0 && field > 1⟩

end QueryCache.Decimal
