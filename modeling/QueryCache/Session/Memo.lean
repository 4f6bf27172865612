import QueryCache.Statement
import QueryCache.Text.Blank
import QueryCache.Text.Lower

/-!
# Session memory

What a session remembers of its own queries: the rows of a key, or that a query for the key
is still running, and the values that a callable statement gave to its parameters.
-/

namespace QueryCache

/-- How long a session remembers the rows of its queries. -/
inductive Scope where
  | session
  | statement
  deriving DecidableEq, Inhabited

namespace Scope

/-- The name of a scope in configurations. -/
def name : Scope → String
  | session => "session"
  | statement => "statement"

/-- The detailed written form. -/
def inspect : Scope → String
  | session => "Session"
  | statement => "Statement"

/-- The wording for a name that is no scope. -/
def unknown (name : String) : String :=
  "Unknown local cache scope '" ++ name ++ "', expected one of: session, statement"

/-- Read a scope, in any letter case and between blanks. A failure keeps the lowered name. -/
def parse (s : String) : Except String Scope :=
  match Text.lower (Text.trim s) with
  | "session" => .ok session
  | "statement" => .ok statement
  | other => .error other

end Scope

/-- What is remembered under a key. -/
inductive Memory where
  | inFlight
  | resolved (list : RowList)
  deriving DecidableEq

namespace Memory

/-- The detailed written form. -/
def inspect : Memory → String
  | inFlight => "Placeholder"
  | resolved r => Text.applied "Resolved" r.inspect

/-- The written form of a missing key or of one whose query is running. -/
def stateName : Option Memory → String
  | none => "Absent"
  | some inFlight => "InFlight"
  | some (resolved r) => Text.applied "Resolved" r.inspect

end Memory

/-- The remembered keys and output values. -/
structure Memo where
  entries : Table Key Memory := Table.empty
  outputs : Table Key Bag := Table.empty

namespace Memo

/-- Forget everything. -/
def empty : Memo := {}

/-- What is remembered under a key. -/
def lookup (m : Memo) (k : Key) : Option Memory := m.entries.get? k

/-- Remember that a query for a key is running. -/
def markInFlight (m : Memo) (k : Key) : Memo := { m with entries := m.entries.insert k .inFlight }

/-- Remember the rows of a key. -/
def resolve (m : Memo) (k : Key) (r : RowList) : Memo :=
  { m with entries := m.entries.insert k (.resolved r) }

/-- Forget a key, but not its output values. -/
def remove (m : Memo) (k : Key) : Memo := { m with entries := m.entries.erase k }

/-- Remember the output values of a key. -/
def storeOutputs (m : Memo) (k : Key) (bag : Bag) : Memo :=
  { m with outputs := m.outputs.insert k bag }

/-- The number of keys. -/
def size (m : Memo) : Nat := m.entries.size

/-- Whether a remembered key keeps a row list alive. -/
def holds (m : Memo) (id : RowsId) : Bool :=
  m.entries.values.any fun
    | .resolved r => r.id == id
    | .inFlight => false

/-- Nothing is remembered after everything was forgotten. -/
theorem lookup_empty (k : Key) : empty.lookup k = none := rfl

/-- Marking a key changes what is remembered under it only. -/
theorem lookup_markInFlight (m : Memo) (k a : Key) :
    (m.markInFlight k).lookup a = if k = a then some .inFlight else m.lookup a :=
  Table.get?_insert m.entries k a .inFlight

/-- Remembering rows changes what is remembered under their key only. -/
theorem lookup_resolve (m : Memo) (k a : Key) (r : RowList) :
    (m.resolve k r).lookup a = if k = a then some (.resolved r) else m.lookup a :=
  Table.get?_insert m.entries k a (.resolved r)

/-- Forgetting a key changes what is remembered under it only. -/
theorem lookup_remove (m : Memo) (k a : Key) :
    (m.remove k).lookup a = if k = a then none else m.lookup a :=
  Table.get?_erase m.entries k a

/-- The detailed written form. -/
def inspect (m : Memo) : String :=
  Text.record "LocalCache"
    [("entries", Text.map (m.entries.entries.map fun e => (e.1.inspect, e.2.inspect))),
     ("out_params", Text.map (m.outputs.entries.map fun e => (e.1.inspect, inspectNamed e.2)))]

end Memo

end QueryCache
