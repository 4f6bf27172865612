import QueryCache.Scenario.Desk

/-!
# The world of a scenario

Everything a scenario has built. All objects share one space of names, and a new object takes
its name over from the one that had it. An object lives as long as it has a name or a step is
at work on it, and with it the shared caches that it refers to.

A row list is alive as long as a shared cache, staged work, the memory of a session or a held
name refers to it; the operations are told so by their caller.
-/

namespace QueryCache.Scenario

/-- An object of a scenario. A shared cache is a reference, and a registry its number. -/
inductive Object where
  | cache (ref : Ref)
  | transaction (t : Transaction Ref)
  | registry (index : Nat)
  | session (x : Session Ref)
  | gone

namespace Object

/-- Whether the object itself keeps a row list alive. -/
def holds (id : RowsId) : Object → Bool
  | transaction t => t.holds id
  | session x => x.holds id
  | cache _ | registry _ | gone => false

/-- The shared caches that the object refers to. -/
def refs : Object → List Ref
  | cache ref => [ref]
  | transaction t => t.targets.map Prod.snd
  | session x => x.staged.targets.map Prod.snd
  | registry _ | gone => []

/-- The reference, if the object is a shared cache. -/
def cache? : Object → Option Ref
  | cache ref => some ref
  | _ => none

/-- The transaction, if the object is one. -/
def transaction? : Object → Option (Transaction Ref)
  | transaction t => some t
  | _ => none

/-- The number, if the object is a registry. -/
def registry? : Object → Option Nat
  | registry index => some index
  | _ => none

/-- The session, if the object is one. -/
def session? : Object → Option (Session Ref)
  | session x => some x
  | _ => none

end Object

/-- The state of a scenario: the shared caches, all objects in the order in which they were
made, the names of objects, and the client. -/
structure World where
  shared : Shared := {}
  objects : List Object := []
  names : Table String Nat := Table.empty
  desk : Desk := {}

namespace World

/-- The number of a named object. -/
def number? (w : World) (name : String) : Option Nat := w.names.get? name

/-- A named object. -/
def object? (w : World) (name : String) : Option Object :=
  (w.number? name).bind (w.objects[·]?)

/-- The shared cache of a name. -/
def cache? (w : World) (name : String) : Option Ref := (w.object? name).bind Object.cache?

/-- The shared caches by their names. -/
def caches (w : World) : Table String Ref :=
  ⟨w.names.keys.filterMap fun name => (w.cache? name).map fun ref => (name, ref)⟩

/-- Give a name to a new object. -/
def bind (w : World) (name : String) (o : Object) : World :=
  { w with objects := w.objects ++ [o], names := w.names.insert name w.objects.length }

/-- Take a name away. -/
def unbind (w : World) (name : String) : World := { w with names := w.names.erase name }

/-- Whether anything keeps a row list alive. -/
def holds (w : World) (id : RowsId) : Bool :=
  w.shared.holds id || w.desk.holds id || w.objects.any (·.holds id)

/-- The shared caches as a part of the world. -/
def sharedPart : Part World Shared where
  view w := w.shared
  place s w := { w with shared := s }
  held w id := w.desk.holds id || w.objects.any (·.holds id)

/-- A transaction in front of the shared caches, as a part. -/
def transactionPart (i : Nat) : Part World (Over (Transaction Ref) Shared) where
  view w := ⟨((w.objects[i]?).bind Object.transaction?).getD {}, w.shared⟩
  place s w := { w with objects := w.objects.set i (.transaction s.own), shared := s.inner }
  held w id := w.desk.holds id || anyExcept (·.holds id) w.objects i

/-- A session at work, as a part. -/
def scenePart (i : Nat) : Part World (Scene Ref Shared Desk) where
  view w := ⟨((w.objects[i]?).bind Object.session?).getD {}, w.shared, w.desk⟩
  place s w :=
    { w with objects := w.objects.set i (.session s.session), shared := s.shared, desk := s.client }
  held w id := anyExcept (·.holds id) w.objects i

/-- Let go of every object that has no name and on which no step is at work, and of what only
such objects refer to. -/
def collect (w : World) (atWork : List Nat) : World :=
  let objects := w.objects.mapIdx fun i o =>
    if w.names.values.contains i || atWork.contains i then o else .gone
  { w with
    objects
    shared := w.shared.restrict (objects.flatMap Object.refs)
      (objects.filterMap Object.registry?).contains }

/-- What an answer shows of an entry, reclaimable rows only if they are alive. -/
def shownAs (w : World) : Option Entry → Shown
  | none => .absent
  | some .null => .null
  | some (.rows list) => .rows list.rows
  | some (.reclaimable list) => .reclaimable (if w.holds list.id then some list.rows else none)

/-- The written form of a named object, if there is one. -/
def describe? (w : World) (name : String) : Option String :=
  match w.object? name with
  | some (.cache ref) => some (w.shared.describe ref)
  | some (.transaction t) => some (t.describe w.shared.name)
  | some (.registry i) => (w.shared.registries[i]?).map (·.describe)
  | some (.session x) => some (x.describe w.shared.name)
  | some .gone | none => none

end World

end QueryCache.Scenario
