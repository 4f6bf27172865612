import QueryCache.Cache

/-!
# Weak entries

A layer that does not keep row lists alive. Rows go inside as reclaimable entries; a bounded
ring pins the lists that were stored or read last, and any other list is reclaimed as soon
as nobody else holds it.

Keys with reclaimed rows are swept out step by step: `put`, `get` and `remove` first check a
bounded number of tracked entries, going on where the last sweep stopped. The cursor stays
when an entry is dropped, because the last entry has moved into its place.
-/

namespace QueryCache

/-- The keys stored with rows, and where the next sweep begins. -/
structure Tracked where
  entries : Table Key RowList := Table.empty
  cursor : Nat := 0

namespace Tracked

/-- One check of a sweep: the entry at the cursor, which begins again after the end. -/
def check (alive : RowsId → Bool) (t : Tracked) : Option Key × Tracked :=
  let cursor := if t.cursor < t.entries.size then t.cursor else 0
  match t.entries.at? cursor with
  | none => (none, t)
  | some (k, r) =>
    if alive r.id then (none, { t with cursor := cursor + 1 })
    else (some k, ⟨t.entries.swapEraseAt cursor, cursor⟩)

/-- Check a number of entries and drop those whose rows are gone. -/
def collect (alive : RowsId → Bool) : Nat → Tracked → List Key × Tracked
  | 0, t => ([], t)
  | limit + 1, t =>
    let (dead?, t) := t.check alive
    let (dead, t) := collect alive limit t
    (dead?.toList ++ dead, t)

/-- Stop tracking a key. -/
def forget (t : Tracked) (k : Key) : Tracked := { t with entries := t.entries.swapErase k }

end Tracked

/-- The ring of pinned row lists, newest first, its length, and the tracked keys. -/
structure Weak where
  hardLinks : Nat := 256
  ring : List RowList := []
  tracked : Tracked := {}

namespace Weak

/-- How many tracked entries an operation checks. -/
def sweepBatch : Nat := 32

/-- Whether the ring holds a row list. -/
def pins (w : Weak) (id : RowsId) : Bool := w.ring.any (·.id == id)

/-- Pin a row list; the oldest pins beyond the length of the ring are given up. -/
def pin (w : Weak) (r : RowList) : Weak := { w with ring := (r :: w.ring).take w.hardLinks }

/-- Give up all pins. -/
def release (w : Weak) : Weak := { w with ring := [] }

/-- Track a key with its rows. -/
def track (w : Weak) (k : Key) (r : RowList) : Weak :=
  { w with tracked := { w.tracked with entries := w.tracked.entries.insert k r } }

/-- Stop tracking a key. -/
def forget (w : Weak) (k : Key) : Weak := { w with tracked := w.tracked.forget k }

variable {σ : Type}

/-- The cache inside, as a part; the ring keeps row lists alive. -/
def inside : Part (Over Weak σ) σ := Over.part pins

/-- Whether a row list is still held by anyone. -/
def alive (inner : Cache σ) (c : Caller) (s : Over Weak σ) (id : RowsId) : Bool :=
  c.held id || s.own.pins id || inner.holds s.inner id

/-- Remove keys inside, in order; a refused removal stops it. -/
def dropAll (inner : Cache σ) (c : Caller) :
    List Key → Over Weak σ → Reply (Over Weak σ) (Except CacheFailure Unit)
  | [], s => ⟨.ok (), s, []⟩
  | k :: ks, s =>
    let id := inner.id s.inner
    ((inside.reply c s fun c i => inner.remove c k i).andThen fun r s =>
      match r with
      | .error f => ⟨.error f, s, []⟩
      | .ok _ => dropAll inner c ks s).after [.event (.weakReclaimed id k), .count .eviction id]

/-- Check a number of tracked entries and remove inside what has been reclaimed. -/
def sweep (inner : Cache σ) (c : Caller) (limit : Nat) (s : Over Weak σ) :
    Reply (Over Weak σ) (Except CacheFailure Unit) :=
  let (dead, tracked) := s.own.tracked.collect (alive inner c s) limit
  dropAll inner c dead { s with own := { s.own with tracked } }

/-- Store an entry. Rows are tracked, pinned and stored as reclaimable. While the sweep
runs, the caller still holds the rows. -/
def put (inner : Cache σ) (c : Caller) (k : Key) (e : Entry) (s : Over Weak σ) :
    Reply (Over Weak σ) (Except CacheFailure Unit) :=
  (sweep inner (c.holding fun id => e.holds id) sweepBatch s).andThen fun r s =>
    match r with
    | .error f => ⟨.error f, s, []⟩
    | .ok () =>
      match e with
      | .rows list =>
        let s := { s with own := (s.own.track k list).pin list }
        inside.reply c s fun c i => inner.put c k (.reclaimable list) i
      | e =>
        let s := { s with own := s.own.forget k }
        inside.reply c s fun c i => inner.put c k e i

/-- What follows the lookup inside: live rows are pinned, and an entry whose rows are gone is
dropped. -/
def found (inner : Cache σ) (k : Key) (c : Caller)
    (r : Except CacheFailure (Option Entry)) (s : Over Weak σ) :
    Run (Over Weak σ) (Except CacheFailure (Option Entry)) :=
  match r with
  | .error f => .done ⟨.error f, s, []⟩
  | .ok none => .done ⟨.ok none, s, []⟩
  | .ok (some stored) =>
    match stored.upgrade (alive inner c s) with
    | some (.rows list) =>
      .done ⟨.ok (some (.rows list)), { s with own := s.own.pin list }, []⟩
    | some e => .done ⟨.ok (some e), s, []⟩
    | none =>
      let s := { s with own := s.own.forget k }
      .done ((inside.reply c s fun c i => inner.remove c k i).map fun r => r.map fun _ => none)

/-- Look a key up. Rows found alive are pinned; an entry whose rows are gone is dropped and
counts as absent. -/
def get (inner : Cache σ) (c : Caller) (k : Key) (s : Over Weak σ) :
    Run (Over Weak σ) (Except CacheFailure (Option Entry)) :=
  let swept := sweep inner c sweepBatch s
  match swept.value with
  | .error f => .done ⟨.error f, swept.state, swept.notes⟩
  | .ok () =>
    ((inside.run c swept.state fun c i => inner.get c k i).andThen c (found inner k)).after
      swept.notes

/-- Remove a key and answer what was stored, if it is still alive. -/
def remove (inner : Cache σ) (c : Caller) (k : Key) (s : Over Weak σ) :
    Reply (Over Weak σ) (Except CacheFailure (Option Entry)) :=
  (sweep inner c sweepBatch s).andThen fun r s =>
    match r with
    | .error f => ⟨.error f, s, []⟩
    | .ok () =>
      let s := { s with own := s.own.forget k }
      (inside.reply c s fun c i => inner.remove c k i).andThen fun r s =>
        ⟨r.map fun e => e.bind (·.upgrade (alive inner c s)), s, []⟩

/-- Count the entries after a sweep of every tracked one. A sweep that fails is reported. -/
def size (inner : Cache σ) (c : Caller) (s : Over Weak σ) : Reply (Over Weak σ) Nat :=
  (sweep inner c s.own.tracked.entries.size s).andThen fun r s =>
    let notes : List Note :=
      match r with
      | .error f => [.event (.sweepFailed (inner.id s.inner) f)]
      | .ok () => []
    (inside.reply c s inner.size).after notes

/-- The layer over a cache. -/
def cache (inner : Cache σ) : Cache (Over Weak σ) where
  id s := inner.id s.inner
  size := size inner
  put := put inner
  get := get inner
  remove := remove inner
  clear c s := inside.reply c { s with own := { s.own with ring := [], tracked := {} } } inner.clear
  holds s id := s.own.pins id || inner.holds s.inner id

/-- The written form of the state, given that of the cache inside. -/
def describe (w : Weak) (inner : String) : String :=
  Text.openRecord "WeakCache"
    [("inner", inner), ("hard_link_count", toString w.hardLinks),
     ("tracked", toString w.tracked.entries.size)]

end Weak

end QueryCache
