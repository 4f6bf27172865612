import QueryCache.Table
import QueryCache.Value
import QueryCache.Text.Quoted
import QueryCache.Text.Record

/-!
# Rows

Result rows, named parameter values, the paging window of a query, and shared row lists. A
row list is immutable and shared by reference, so it carries an identity: two lists with
equal rows are still two lists, and whether a list is still alive is a question about its
identity.
-/

namespace QueryCache

/-- A result row: column name to value. -/
abbrev Row := Table String Value

/-- Output parameters of a callable statement: parameter name to value. -/
abbrev Bag := Table String Value

/-- The identity of a shared row list. -/
abbrev RowsId := Nat

/-- A shared, immutable list of result rows. -/
structure RowList where
  id : RowsId
  rows : List Row
  deriving DecidableEq

/-- The paging window of a query; both numbers are below `2 ^ 64`. -/
structure Window where
  offset : Nat := 0
  limit : Nat := 2147483647
  deriving DecidableEq, Inhabited

/-- Whether the window skips nothing and keeps everything. -/
def Window.isUnbounded (w : Window) : Bool := w = {}

namespace Value

mutual

/-- The detailed written form, which tells the kinds of values apart. -/
def inspect : Value → String
  | null => "Null"
  | bool b => Text.applied "Bool" (Text.bool b)
  | int n => Text.applied "Int" (toString n.toInt)
  | float bits => Text.applied "Float" (Decimal.write .detailed bits)
  | text s => Text.applied "Text" (Text.quoted s)
  | bytes bs => Text.applied "Bytes" (Text.list (bs.map fun b => toString b.toNat))
  | array items => Text.applied "Array" (Text.list (inspectAll items))

/-- The detailed written forms of a list of values. -/
def inspectAll : List Value → List String
  | [] => []
  | v :: vs => v.inspect :: inspectAll vs

end

end Value

/-- The detailed written form of named values, in ascending order of their names. -/
def inspectNamed (t : Table String Value) : String :=
  Text.map (t.sorted.map fun e => (Text.quoted e.1, e.2.inspect))

/-- The detailed written form of a row list. -/
def RowList.inspect (r : RowList) : String := Text.list (r.rows.map inspectNamed)

end QueryCache
