import QueryCache.Cache

/-!
# Staged work

What a transaction means to do to one shared cache: perhaps clear it, write some entries,
and let go of the keys it looked up in vain. Reads go to the shared cache at once and never
change it; the staged work reaches it only when the transaction commits. Keys found missing
are remembered, because a lookup that came to nothing may have left a lock behind: a commit
writes an explicit null to each of them, a rollback removes each of them.
-/

namespace QueryCache

/-- The staged work on one shared cache. Writes and misses are in the order of their first
staging. -/
structure Pending where
  clearFirst : Bool := false
  writes : Table Key Entry := Table.empty
  misses : Table Key Unit := Table.empty

namespace Pending

/-- Stage a write; a key staged before keeps its place. -/
def stage (p : Pending) (k : Key) (e : Entry) : Pending :=
  { p with writes := p.writes.insert k e }

/-- Stage a clear, which overtakes the writes staged so far. -/
def stageClear (p : Pending) : Pending :=
  { p with clearFirst := true, writes := Table.empty }

/-- Remember a lookup that came to nothing. -/
def noteMiss (p : Pending) (k : Key) : Pending :=
  { p with misses := p.misses.insertNew k () }

/-- The missed keys that no staged write covers, in the order of their misses. -/
def unwritten (p : Pending) : List Key := p.misses.keys.filter fun k => !p.writes.contains k

/-- Whether a staged write keeps a row list alive. -/
def holds (p : Pending) (id : RowsId) : Bool := p.writes.values.any (·.holds id)

/-- One call that a commit makes on the shared cache. -/
inductive Step where
  | clear
  | put (key : Key) (entry : Entry)
  | putNull (key : Key)

/-- The name of a step in reports. -/
def Step.name : Step → String
  | .clear => "clear"
  | .put .. => "put"
  | .putNull _ => "put null"

/-- Whether a step keeps a row list alive. -/
def Step.holds (id : RowsId) : Step → Bool
  | .put _ e => e.holds id
  | _ => false

/-- The calls of a commit, in order: a staged clear, the staged writes, and an explicit null
for every missed key that was not written. -/
def steps (p : Pending) : List Step :=
  (if p.clearFirst then [.clear] else []) ++ p.writes.entries.map (fun e => .put e.1 e.2) ++
    p.unwritten.map .putNull

variable {σ : Type}

/-- Carry out one step on the shared cache. -/
def Step.run (shared : Cache σ) (c : Caller) : Step → σ → Reply σ (Except CacheFailure Unit)
  | .clear, s => shared.clear c s
  | .put k e, s => shared.put c k e s
  | .putNull k, s => shared.put c k .null s

/-- Carry out steps in order, all of them whatever fails, and answer the first failure. The
rows of the steps to come stay alive. -/
def runSteps (shared : Cache σ) (c : Caller) :
    List Step → σ → Reply σ (Except CacheFailure Unit)
  | [], s => ⟨.ok (), s, []⟩
  | step :: rest, s =>
    (step.run shared (c.holding fun id => rest.any (·.holds id)) s).andThen fun first s =>
      let failed := runSteps shared c rest s
      match first with
      | .ok () => failed
      | .error f =>
        ⟨.error f, failed.state,
          .event (.commitStepFailed (shared.id s) step.name f) :: failed.notes⟩

/-- Remove keys in order, whatever fails. -/
def removeAll (shared : Cache σ) (c : Caller) : List Key → σ → Reply σ Unit
  | [], s => ⟨(), s, []⟩
  | k :: rest, s =>
    (shared.remove c k s).andThen fun r s =>
      let notes : List Note :=
        match r with
        | .error f => [.event (.rollbackStepFailed (shared.id s) k f)]
        | .ok _ => []
      (removeAll shared c rest s).after notes

/-- The shared cache behind the staged work, which keeps the staged rows alive. -/
def inside : Part (Over Pending σ) σ := Over.part holds

/-- What follows the lookup in the shared cache. -/
def seen (k : Key) (_ : Caller) (r : Except CacheFailure (Option Entry))
    (s : Over Pending σ) : Run (Over Pending σ) (Except CacheFailure (Option Entry)) :=
  match r with
  | .error f => .done ⟨.error f, s, []⟩
  | .ok e =>
    let own := if e.all (·.isNull) then s.own.noteMiss k else s.own
    .done ⟨.ok (if own.clearFirst then none else e), { s with own }, []⟩

/-- Look a key up in the shared cache. A missing or null entry is remembered, and after a
staged clear nothing that the shared cache still has is shown. -/
def get (shared : Cache σ) (c : Caller) (k : Key) (s : Over Pending σ) :
    Run (Over Pending σ) (Except CacheFailure (Option Entry)) :=
  (inside.run c s fun c i => shared.get c k i).andThen c (seen k)

/-- Carry the staged work out on the shared cache and start anew. -/
def commit (shared : Cache σ) (c : Caller) (s : Over Pending σ) :
    Reply (Over Pending σ) (Except CacheFailure Unit) :=
  let r := runSteps shared c s.own.steps s.inner
  ⟨r.value, ⟨{}, r.state⟩, r.notes⟩

/-- Drop the staged work, let go of the missed keys and start anew. The staged rows stay
alive until the end. -/
def rollback (shared : Cache σ) (c : Caller) (s : Over Pending σ) : Reply (Over Pending σ) Unit :=
  let r := removeAll shared (c.holding s.own.holds) s.own.misses.keys s.inner
  ⟨(), ⟨{}, r.state⟩, r.notes⟩

/-- Staged work in front of a shared cache is a cache itself: writes and clears are staged,
and removing does nothing. -/
def cache (shared : Cache σ) : Cache (Over Pending σ) where
  id s := shared.id s.inner
  size c s := inside.reply c s shared.size
  put _ k e s := ⟨.ok (), { s with own := s.own.stage k e }, []⟩
  get := get shared
  remove _ _ s := ⟨.ok none, s, []⟩
  clear _ s := ⟨.ok (), { s with own := s.own.stageClear }, []⟩
  holds s id := s.own.holds id || shared.holds s.inner id

/-- The written form of staged work on the named cache. -/
def describe (p : Pending) (id : String) : String :=
  Text.record "TransactionalCache"
    [("delegate", Text.quoted id), ("clear_on_commit", Text.bool p.clearFirst),
     ("pending_writes", toString p.writes.size), ("pending_misses", toString p.misses.size)]

end Pending

end QueryCache
