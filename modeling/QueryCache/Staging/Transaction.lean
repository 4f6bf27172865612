import QueryCache.Staging.Pending

/-!
# Transactions

The staged work of one session, cache by cache. Caches are told apart by their names; each
gets its staged work at the first use, and the end of the transaction visits them in the
order of first use. A commit visits all of them whatever fails.
-/

namespace QueryCache

/-- Staged work with the shared cache that it is for. -/
structure Buffer (ρ : Type) where
  target : ρ
  pending : Pending := {}

/-- The staged work of a transaction by the names of the caches, in the order of first use.
The caches themselves are known by references. -/
structure Transaction (ρ : Type) where
  buffers : Table String (Buffer ρ) := Table.empty

namespace Transaction

variable {ρ σ : Type}

/-- A transaction that has touched nothing. -/
def empty : Transaction ρ := {}

/-- The number of caches touched so far. -/
def size (t : Transaction ρ) : Nat := t.buffers.size

/-- Whether a staged write keeps a row list alive. -/
def holds (t : Transaction ρ) (id : RowsId) : Bool := t.buffers.values.any (·.pending.holds id)

/-- Make sure that a cache has its staged work. -/
def touch (t : Transaction ρ) (name : String) (target : ρ) : Transaction ρ :=
  ⟨t.buffers.insertNew name { target }⟩

/-- Change the staged work for a cache. -/
def stage (t : Transaction ρ) (name : String) (target : ρ) (f : Pending → Pending) :
    Transaction ρ :=
  ⟨(t.touch name target).buffers.modify name fun b => { b with pending := f b.pending }⟩

/-- The staged work for one cache, in front of the shared caches, as a part. -/
def part (name : String) : Part (Over (Transaction ρ) σ) (Over Pending σ) where
  view s := ⟨((s.own.buffers.get? name).map (·.pending)).getD {}, s.inner⟩
  place i s :=
    ⟨⟨s.own.buffers.modify name fun b => { b with pending := i.own }⟩, i.inner⟩
  held s id := s.own.buffers.entries.any fun e => e.1 ≠ name && e.2.pending.holds id

/-- The reference under which a cache was first used. -/
def target (t : Transaction ρ) (name : String) (ref : ρ) : ρ :=
  ((t.buffers.get? name).map (·.target)).getD ref

/-- Look a key up in a shared cache through the staged work for it. -/
def get (shared : ρ → Cache σ) (c : Caller) (ref : ρ) (k : Key) (s : Over (Transaction ρ) σ) :
    Run (Over (Transaction ρ) σ) (Except CacheFailure (Option Entry)) :=
  let name := (shared ref).id s.inner
  let s := { s with own := s.own.touch name ref }
  (part name).run c s fun c i => Pending.get (shared (s.own.target name ref)) c k i

/-- Stage a write to a shared cache. -/
def put (shared : ρ → Cache σ) (ref : ρ) (k : Key) (e : Entry) (s : Over (Transaction ρ) σ) :
    Over (Transaction ρ) σ :=
  { s with own := s.own.stage ((shared ref).id s.inner) ref (·.stage k e) }

/-- Stage a clear of a shared cache. -/
def clear (shared : ρ → Cache σ) (ref : ρ) (s : Over (Transaction ρ) σ) :
    Over (Transaction ρ) σ :=
  { s with own := s.own.stage ((shared ref).id s.inner) ref (·.stageClear) }

/-- Commit the staged work for caches in order, for all of them whatever fails. -/
def commitEach (shared : ρ → Cache σ) (c : Caller) :
    List (String × ρ) → Over (Transaction ρ) σ →
      Reply (Over (Transaction ρ) σ) (Except CacheFailure Unit)
  | [], s => ⟨.ok (), s, []⟩
  | (name, target) :: rest, s =>
    ((part name).reply c s fun c i => Pending.commit (shared target) c i).andThen fun first s =>
      let failed := commitEach shared c rest s
      match first with
      | .ok () => failed
      | .error f => ⟨.error f, failed.state, .event (.commitFailed name f) :: failed.notes⟩

/-- Roll the staged work for caches back, in order. -/
def rollbackEach (shared : ρ → Cache σ) (c : Caller) :
    List (String × ρ) → Over (Transaction ρ) σ → Reply (Over (Transaction ρ) σ) Unit
  | [], s => ⟨(), s, []⟩
  | (name, target) :: rest, s =>
    ((part name).reply c s fun c i => Pending.rollback (shared target) c i).andThen fun _ s =>
      rollbackEach shared c rest s

/-- The caches touched so far, with their references, in the order of first use. -/
def targets (t : Transaction ρ) : List (String × ρ) :=
  t.buffers.entries.map fun e => (e.1, e.2.target)

/-- Commit the staged work of every cache and end the transaction. The first failure is the
answer. -/
def commitAll (shared : ρ → Cache σ) (c : Caller) (s : Over (Transaction ρ) σ) :
    Reply (Over (Transaction ρ) σ) (Except CacheFailure Unit) :=
  let r := commitEach shared c s.own.targets s
  ⟨r.value, { r.state with own := empty }, r.notes⟩

/-- Roll the staged work of every cache back and end the transaction. -/
def rollbackAll (shared : ρ → Cache σ) (c : Caller) (s : Over (Transaction ρ) σ) :
    Reply (Over (Transaction ρ) σ) Unit :=
  let r := rollbackEach shared c s.own.targets s
  ⟨(), { r.state with own := empty }, r.notes⟩

/-- The written form of the state, given the names that the caches report. -/
def describe (nameOf : ρ → String) (t : Transaction ρ) : String :=
  Text.record "TransactionalCacheManager"
    [("buffers", Text.map (t.buffers.entries.map fun e =>
      (Text.quoted e.1, e.2.pending.describe (nameOf e.2.target))))]

end Transaction

end QueryCache
