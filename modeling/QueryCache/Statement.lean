import QueryCache.Failure
import QueryCache.Key

/-!
# Statements

What a session is asked to execute: a statement with its cache and flags, and SQL text with
the parameters bound to it. Parameters that only carry results do not take part in the key
of a query.
-/

namespace QueryCache

/-- What a statement does to the data. -/
inductive Command where
  | select
  | insert
  | update
  | delete
  deriving DecidableEq, Inhabited

/-- How a statement is sent. A callable statement may give values to its parameters. -/
inductive Protocol where
  | direct
  | prepared
  | callable
  deriving DecidableEq, Inhabited

/-- Which way the value of a parameter goes. -/
inductive Mode where
  | input
  | output
  | both
  deriving DecidableEq, Inhabited

/-- One bound parameter. -/
structure Parameter where
  name : String
  mode : Mode := .input
  value : Value := .null
  deriving DecidableEq, Inhabited

/-- SQL text with its parameters, in the order of their places. -/
structure Bound where
  sql : String := ""
  params : List Parameter := []
  deriving DecidableEq, Inhabited

namespace Bound

/-- The values that identify a query: all but those of output parameters. -/
def keyValues (b : Bound) : List Value :=
  (b.params.filter (·.mode ≠ .output)).map (·.value)

/-- Every parameter adds its value in its place, unless it is an output parameter. -/
theorem keyValues_cons (sql : String) (p : Parameter) (ps : List Parameter) :
    keyValues { sql, params := p :: ps } =
      if p.mode = .output then keyValues { sql, params := ps }
      else p.value :: keyValues { sql, params := ps } := by
  by_cases h : p.mode = .output <;> simp [keyValues, h]

/-- Whether some parameter carries a result. -/
def hasOutput (b : Bound) : Bool := b.params.any (·.mode ≠ .input)

/-- The present values of the parameters that carry results; of two with one name the
later. -/
def outputs (b : Bound) : Bag :=
  Table.ofList ((b.params.filter (·.mode ≠ .input)).map fun p => (p.name, p.value))

/-- Give values to the parameters that carry results, by name. -/
def accept (b : Bound) (bag : Bag) : Bound :=
  { b with params := b.params.map fun p =>
      if p.mode = .input then p else { p with value := (bag.get? p.name).getD p.value } }

/-- The value of the first parameter with a name. -/
def find? (b : Bound) (name : String) : Option Value :=
  (b.params.find? (·.name = name)).map (·.value)

/-- Accepting values changes neither the text nor the names and modes. -/
theorem shape_accept (b : Bound) (bag : Bag) :
    (b.accept bag).sql = b.sql ∧
      (b.accept bag).params.map (fun p => (p.name, p.mode)) =
        b.params.map (fun p => (p.name, p.mode)) := by
  refine ⟨rfl, ?_⟩
  simp only [accept, List.map_map]
  refine List.map_congr_left fun p _ => ?_
  by_cases h : p.mode = .input <;> simp [h]

end Bound

/-- A statement; its shared cache is known by a reference. -/
structure Statement (ρ : Type) where
  id : String
  command : Command := .select
  protocol : Protocol := .prepared
  cache : Option ρ := none
  useCache : Bool
  flush : Bool

namespace Statement

variable {ρ : Type}

/-- A statement with the flags of its command: queries use the shared cache, and all other
commands flush it. -/
def ofCommand (id : String) (command : Command) : Statement ρ :=
  { id, command, useCache := command = .select, flush := command ≠ .select }

/-- Whether the statement may give values to its parameters. -/
def isCallable (s : Statement ρ) : Bool := s.protocol = .callable

/-- The key of one execution of a statement. -/
def key (s : Statement ρ) (b : Bound) (w : Window) (environment : Option String) : Key :=
  .ofQuery s.id w b.sql b.keyValues environment

end Statement

end QueryCache
