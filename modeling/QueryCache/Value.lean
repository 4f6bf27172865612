import QueryCache.Text.Units
import QueryCache.Decimal.Notation

/-!
# Column and parameter values

The values that rows and bound parameters hold, their equality and their structural hash.
Floats are kept as bit patterns, so a not-a-number value equals itself and the two zeros
differ; no value of one kind ever equals a value of another. The hash is a signed 32-bit
word and every step of it wraps.
-/

namespace QueryCache

/-- A column or parameter value. -/
inductive Value where
  | null
  | bool (b : Bool)
  | int (n : Int64)
  | float (bits : UInt64)
  | text (s : String)
  | bytes (bs : List UInt8)
  | array (items : List Value)

namespace Value

instance : Inhabited Value := ⟨null⟩

mutual

/-- Equality kind by kind; floats by bit pattern, arrays item by item. -/
def same : Value → Value → Bool
  | null, null => true
  | bool a, bool b => a == b
  | int a, int b => a == b
  | float a, float b => a == b
  | text a, text b => a == b
  | bytes a, bytes b => a == b
  | array a, array b => sameAll a b
  | _, _ => false

/-- Equality of two lists of values, position by position. -/
def sameAll : List Value → List Value → Bool
  | [], [] => true
  | a :: as, b :: bs => same a b && sameAll as bs
  | _, _ => false

end

mutual

private theorem same_iff : ∀ a b : Value, same a b = true ↔ a = b
  | null, b | bool _, b | int _, b | float _, b | text _, b | bytes _, b => by
    cases b <;> simp [same]
  | array a, b => by
    cases b <;> simp [same, sameAll_iff]

private theorem sameAll_iff : ∀ a b : List Value, sameAll a b = true ↔ a = b
  | [], b => by cases b <;> simp [sameAll]
  | a :: as, b => by cases b <;> simp [sameAll, same_iff, sameAll_iff]

end

/-- The test decides equality. -/
theorem same_eq_true_iff (a b : Value) : same a b = true ↔ a = b := same_iff a b

instance : DecidableEq Value := fun a b => decidable_of_iff _ (same_iff a b)

/-- A 64-bit word folded to its low half, each half of the word contributing. -/
def foldWide (bits : UInt64) : Int32 := (bits ^^^ (bits >>> 32)).toUInt32.toInt32

/-- One step of a positional hash with multiplier 31. -/
def mix (h x : Int32) : Int32 := 31 * h + x

mutual

/-- The structural hash. -/
def hash : Value → Int32
  | null => 0
  | bool b => if b then 1231 else 1237
  | int n => foldWide n.toUInt64
  | float bits => foldWide bits
  | text s => (Text.units16 s).foldl (fun h u => mix h (Int32.ofNat u)) 0
  | bytes bs => bs.foldl (fun h b => mix h b.toInt8.toInt32) 1
  | array items => hashFrom 1 items

/-- The hash of an item list, continuing from a running hash. -/
def hashFrom (h : Int32) : List Value → Int32
  | [] => h
  | v :: vs => hashFrom (mix h v.hash) vs

end

/-- Whether the value is the null value. -/
def isNull : Value → Bool
  | null => true
  | _ => false

/-- The integer, if the value is one. -/
def asInt? : Value → Option Int64
  | int n => some n
  | _ => none

/-- The text, if the value is one. -/
def asText? : Value → Option String
  | text s => some s
  | _ => none

/-- An unsigned count as a value; counts beyond the signed range become its largest. -/
def ofCount (n : Nat) : Value := int (Int64.ofNat (min n 9223372036854775807))

mutual

/-- The plain written form: texts as they are, bytes as signed numbers, floats in digits. -/
def display : Value → String
  | null => "null"
  | bool b => if b then "true" else "false"
  | int n => toString n.toInt
  | float bits => Decimal.write .plain bits
  | text s => s
  | bytes bs => "[" ++ ", ".intercalate (bs.map fun b => toString b.toInt8.toInt) ++ "]"
  | array items => "[" ++ ", ".intercalate (displayAll items) ++ "]"

/-- The plain written forms of a list of values. -/
def displayAll : List Value → List String
  | [] => []
  | v :: vs => v.display :: displayAll vs

end

end Value

end QueryCache
