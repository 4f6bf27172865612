import QueryCache.Toml.Value

/-!
# Growing tables

The rules by which the lines of a configuration text add to its tables: a key is given once,
a table has one header, a table between braces is complete, and a dotted key does not reach
into a table that has a header. A table that a dotted key reaches into has no header later.
-/

namespace QueryCache.Toml

/-- The origin of a table after a path that makes tables of another origin has gone through
it. What a dotted key goes through becomes a table of dotted keys. -/
def Origin.passed (made o : Origin) : Origin := if made = .dotted then .dotted else o

namespace Value

/-- The entry of a table under a name. -/
def get? (t : Value) (name : String) : Option Value := t.entries?.bind (·.lookup name)

private def placeEntry (name : String) (v : Value) :
    List (String × Value) → List (String × Value)
  | [] => [(name, v)]
  | e :: es => if e.1 = name then (name, v) :: es else e :: placeEntry name v es

/-- A table with a new value under a name. -/
def put (t : Value) (name : String) (v : Value) : Value :=
  match t with
  | table o es => table o (placeEntry name v es)
  | t => t

/-- A table without a name. -/
def drop (t : Value) (name : String) : Value :=
  match t with
  | table o es => table o (es.filter (·.1 ≠ name))
  | t => t

/-- The origin, if the tree is a table. -/
def origin? : Value → Option Origin
  | table o _ => some o
  | _ => none

/-- Change the table to which a path leads, and make the tables that are missing on the way.
Among open arrays a path goes to the last table. -/
def change {α : Type} (made : Origin) (f : Value → Option (α × Value)) :
    List String → Value → Option (α × Value)
  | [], t => f t
  | name :: path, t =>
    match t.get? name with
    | none => do
      let (a, v) ← change made f path (table made [])
      some (a, t.put name v)
    | some (table o es) =>
      if o = .inline ∨ (made = .dotted ∧ o = .header) then none
      else do
        let (a, v) ← change made f path (table (made.passed o) es)
        some (a, t.put name v)
    | some (array true items) => do
      let last ← items.getLast?
      let (a, v) ← change made f path last
      some (a, t.put name (array true (items.dropLast ++ [v])))
    | some _ => none

/-- Give a key a value. The tables on its path have no other lines than such keys. -/
def assign (t : Value) (path : List String) (key : String) (v : Value) : Option Value := do
  let add (t : Value) : Option (Unit × Value) :=
    if (t.origin? = some .dotted) = (path ≠ []) ∧ (t.get? key).isNone then
      some ((), t.put key v)
    else none
  return (← change .dotted add path t).2

/-- Take out the table that a header is about to fill: a new one, or one that so far was only
implied. -/
def openTable (root : Value) (path : List String) (key : String) : Option (Value × Value) :=
  let take (t : Value) : Option (Value × Value) :=
    match t.get? key with
    | none => some (table .header [], t)
    | some (table .implied es) => some (table .header es, t.drop key)
    | some _ => none
  change .implied take path root

/-- Put a filled table in its place. -/
def closeTable (root : Value) (path : List String) (key : String) (filled : Value) :
    Option Value := do
  return (← change .implied (fun t => some ((), t.put key filled)) path root).2

/-- Add a filled table to an open array. -/
def closeItem (root : Value) (path : List String) (key : String) (filled : Value) :
    Option Value := do
  let add (t : Value) : Option (Unit × Value) :=
    match t.get? key with
    | none => some ((), t.put key (array true [filled]))
    | some (array true items) => some ((), t.put key (array true (items ++ [filled])))
    | some _ => none
  return (← change .implied add path root).2

end Value

end QueryCache.Toml
