import QueryCache.Cache

/-!
# First in, first out

A layer that bounds the cache inside by evicting keys in the order of their writes. Every
write queues its key, so a key written twice stands in the queue twice; reads and removals
leave the queue alone.
-/

namespace QueryCache

/-- The queued keys, oldest first, and how many may wait. -/
structure Fifo where
  size : Nat := 1024
  queue : List Key := []

namespace Fifo

/-- Queue a key; beyond the size the head leaves. -/
def enqueue (f : Fifo) (k : Key) : Option Key × Fifo :=
  let queue := f.queue ++ [k]
  if queue.length ≤ f.size then (none, { f with queue })
  else (queue.head?, { f with queue := queue.tail })

variable {σ : Type}

/-- The cache inside, as a part. -/
def inside : Part (Over Fifo σ) σ := Over.plain

/-- Remove the oldest key inside. -/
def evict (inner : Cache σ) (c : Caller) (k : Key) (s : Over Fifo σ) :
    Reply (Over Fifo σ) (Except CacheFailure Unit) :=
  let id := inner.id s.inner
  ((inside.reply c s fun c i => inner.remove c k i).map fun r => r.map fun _ => ()).after
    [.event (.fifoEviction id k), .count .eviction id]

/-- Write inside, then queue the key. A refused write changes nothing, and a key that
reaches its own turn is not evicted. -/
def put (inner : Cache σ) (c : Caller) (k : Key) (e : Entry) (s : Over Fifo σ) :
    Reply (Over Fifo σ) (Except CacheFailure Unit) :=
  (inside.reply c s fun c i => inner.put c k e i).andThen fun r s =>
    match r with
    | .error f => ⟨.error f, s, []⟩
    | .ok () =>
      let (oldest?, own) := s.own.enqueue k
      let s := { s with own }
      match oldest? with
      | none => ⟨.ok (), s, []⟩
      | some oldest => if oldest = k then ⟨.ok (), s, []⟩ else evict inner c oldest s

/-- The layer over a cache. -/
def cache (inner : Cache σ) : Cache (Over Fifo σ) where
  id s := inner.id s.inner
  size c s := inside.reply c s inner.size
  put := put inner
  get c k s := inside.run c s fun c i => inner.get c k i
  remove c k s := inside.reply c s fun c i => inner.remove c k i
  clear c s := inside.reply c { s with own := { s.own with queue := [] } } inner.clear
  holds s id := inner.holds s.inner id

/-- The written form of the state, given that of the cache inside. -/
def describe (f : Fifo) (inner : String) : String :=
  Text.record "FifoCache"
    [("inner", inner), ("size", toString f.size), ("queued", toString f.queue.length)]

end Fifo

end QueryCache
