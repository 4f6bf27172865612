/-!
# Durations

Lengths of time in nanoseconds and their written form: the largest unit that gives a whole
part, with the fraction freed of trailing zeros.
-/

namespace QueryCache

/-- A length of time. -/
structure Duration where
  nanos : Nat
  deriving DecidableEq, Inhabited, Repr

namespace Duration

/-- A whole number of milliseconds. -/
def ofMillis (n : Nat) : Duration := ⟨n * 1000000⟩

/-- The whole milliseconds of a duration. -/
def toMillis (d : Duration) : Nat := d.nanos / 1000000

private def fraction (width rest : Nat) : String :=
  let ds := (toString rest).toList
  let padded := List.replicate (width - ds.length) '0' ++ ds
  let kept := (padded.reverse.dropWhile (· = '0')).reverse
  if kept = [] then "" else "." ++ String.ofList kept

private def inUnit (n width : Nat) (unit : String) : String :=
  let scale := Nat.pow 10 width
  toString (n / scale) ++ fraction width (n % scale) ++ unit

/-- The written form. -/
def display (d : Duration) : String :=
  if d.nanos ≥ 1000000000 then inUnit d.nanos 9 "s"
  else if d.nanos ≥ 1000000 then inUnit d.nanos 6 "ms"
  else if d.nanos ≥ 1000 then inUnit d.nanos 3 "µs"
  else toString d.nanos ++ "ns"

end Duration

end QueryCache
