import QueryCache.Decimal.Shortest

/-!
# Decimal notation

The two written forms of a double-precision number: the plain form never uses an exponent
and drops an empty fraction; the detailed form keeps one fraction digit and turns to an
exponent for very large and very small magnitudes.
-/

namespace QueryCache.Decimal

/-- When a form turns to an exponent, and whether a whole number keeps `.0`. -/
structure Form where
  keepFraction : Bool
  exponentFrom : Option Int
  exponentBelow : Option Int

/-- Digits only, without an exponent. -/
def Form.plain : Form := ⟨false, none, none⟩

/-- With `.0` for whole numbers, and an exponent from `1e16` on and below `1e-4`. -/
def Form.detailed : Form := ⟨true, some 16, some (-4)⟩

private def zeros (n : Nat) : String := String.ofList (List.replicate n '0')

private def stripZeros : Nat → Digits → Digits
  | 0, d => d
  | fuel + 1, d =>
    if d.digits % 10 = 0 && d.digits ≠ 0 then stripZeros fuel ⟨d.digits / 10, d.exponent + 1⟩
    else d

private def positional (f : Form) (ds : String) (point : Int) : String :=
  let len : Int := ds.length
  if point ≤ 0 then "0." ++ zeros (-point).toNat ++ ds
  else if len ≤ point then ds ++ zeros (point - len).toNat ++ (if f.keepFraction then ".0" else "")
  else
    String.ofList (ds.toList.take point.toNat) ++ "." ++
      String.ofList (ds.toList.drop point.toNat)

private def scientific (ds : String) (exponent : Int) : String :=
  let head := String.ofList (ds.toList.take 1)
  let tail := String.ofList (ds.toList.drop 1)
  head ++ (if tail = "" then "" else "." ++ tail) ++ "e" ++ toString exponent

private def magnitudeText (f : Form) (d : Digits) : String :=
  let d := stripZeros 20 d
  let ds := toString d.digits
  let point : Int := ds.length + d.exponent
  let large := f.exponentFrom.any (· ≤ point - 1)
  let small := f.exponentBelow.any (point - 1 < ·)
  if large || small then scientific ds (point - 1) else positional f ds point

/-- Write a bit pattern in a form. -/
def write (f : Form) (bits : UInt64) : String :=
  let sign (negative : Bool) := if negative then "-" else ""
  match classify bits with
  | .nan => "NaN"
  | .infinite negative => sign negative ++ "inf"
  | .zero negative => sign negative ++ (if f.keepFraction then "0.0" else "0")
  | .finite negative b => sign negative ++ magnitudeText f b.shortest

end QueryCache.Decimal
