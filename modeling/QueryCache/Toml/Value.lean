import QueryCache.Text.Count
import QueryCache.Toml.Moment

/-!
# Configuration trees

What a configuration text says: a tree of tables, arrays and scalars. Numbers keep the value
they were written with, however large, because whether a number is too large depends on who
reads it. For the same reason what is written like an integer without being one has a place
in the tree. A table remembers how it came about, because that decides what a later line may
still add to it.
-/

namespace QueryCache.Toml

/-- A number with a fraction or an exponent. -/
inductive Real where
  | finite (negative : Bool) (digits : Nat) (exponent : Int)
  | infinite (negative : Bool)
  | nan
  deriving DecidableEq

/-- The least magnitude that rounds to infinity in double precision. -/
def overflowBound : Nat := Nat.pow 2 1024 - Nat.pow 2 970

/-- Whether double precision holds the number: what is written as finite rounds to a finite
number. -/
def Real.isDouble : Real → Bool
  | finite _ m e =>
    let magnitude : Int := (toString m).length + e
    if m = 0 ∨ magnitude ≤ 300 then true
    else if 400 < magnitude then false
    else m * Nat.pow 10 e.toNat < overflowBound * Nat.pow 10 (-e).toNat
  | _ => true

/-- The bound of integers of 128 bits. -/
def integerBound : Int := Int.ofNat (Nat.pow 2 128)

/-- How a table came about: under its own header, as part of the path of a header or of a
dotted key, or between braces. -/
inductive Origin where
  | header
  | implied
  | dotted
  | inline
  deriving DecidableEq

/-- A configuration tree. An array is open if headers made it, one table each. An integer is
`none` if its digits do not fit its form. -/
inductive Value where
  | text (s : String)
  | integer (n : Option Int)
  | real (r : Real)
  | truth (b : Bool)
  | moment (m : Moment)
  | array (isOpen : Bool) (items : List Value)
  | table (origin : Origin) (entries : List (String × Value))

namespace Value

instance : Inhabited Value := ⟨truth false⟩

mutual

/-- Whether every number in the tree can be read: integers have 128 bits, with or without a
sign, and all others double precision. -/
def isReadable : Value → Bool
  | integer n => n.any fun n => decide (-integerBound ≤ 2 * n ∧ n < integerBound)
  | real r => r.isDouble
  | array _ items => allReadable items
  | table _ entries => entriesReadable entries
  | _ => true

/-- Whether all of some trees are readable. -/
def allReadable : List Value → Bool
  | [] => true
  | v :: vs => v.isReadable && allReadable vs

/-- Whether all entries of a table are readable. -/
def entriesReadable : List (String × Value) → Bool
  | [] => true
  | (_, v) :: es => v.isReadable && entriesReadable es

end

/-- The text, if the tree is one. -/
def text? : Value → Option String
  | text s => some s
  | _ => none

/-- The truth value, if the tree is one. -/
def truth? : Value → Option Bool
  | truth b => some b
  | _ => none

/-- The count, if the tree is an integer from zero up that has 64 bits. -/
def count? : Value → Option Nat
  | integer (some n) => if 0 ≤ n ∧ n.toNat < Text.countBound then some n.toNat else none
  | _ => none

/-- The entries, if the tree is a table. -/
def entries? : Value → Option (List (String × Value))
  | table _ es => some es
  | _ => none

/-- The fields of a record, each looked up by its name. A record is written as a table, whose
other entries only have to be readable, or as an array of all its fields in their order. A
moment is a record without any of the fields. -/
def fields? (names : List String) : Value → Option (String → Option Value)
  | table _ es =>
    if (es.filter fun e => !names.contains e.1).all fun e => e.2.isReadable then
      some fun n => es.lookup n
    else none
  | array _ items =>
    if names.length ≤ items.length then some fun n => (names.zip items).lookup n else none
  | moment _ => some fun _ => none
  | _ => none

end Value

end QueryCache.Toml
