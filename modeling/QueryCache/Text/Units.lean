/-!
# Code units

A text as the sequence of its 16-bit code units: a character outside the basic plane is
a surrogate pair. Key hashes count these units, not characters.
-/

namespace QueryCache.Text

/-- The one or two code units of a character. -/
def unitsOfChar (c : Char) : List Nat :=
  let n := c.toNat
  if n < 0x10000 then [n]
  else [0xD800 + (n - 0x10000) / 0x400, 0xDC00 + (n - 0x10000) % 0x400]

/-- The code units of a text, in order. -/
def units16 (s : String) : List Nat := s.toList.flatMap unitsOfChar

/-- A character has one unit or two. -/
theorem length_unitsOfChar (c : Char) :
    (unitsOfChar c).length = if c.toNat < 0x10000 then 1 else 2 := by
  by_cases h : c.toNat < 0x10000 <;> simp [unitsOfChar, h]

end QueryCache.Text
