import QueryCache.Cache

/-!
# Least recently used

A layer that bounds the cache inside to a capacity. It keeps only the order in which keys
were last touched; the entries themselves stay inside. A write goes in first; then the key
moves to the front, and the key that falls off the end is removed inside.
-/

namespace QueryCache

/-- A bound that leaves room for one entry at least. -/
structure Capacity where
  size : Nat
  pos : 0 < size

namespace Capacity

/-- The bound `n`, or one if `n` is zero. -/
def atLeastOne (n : Nat) : Capacity := ⟨max n 1, by omega⟩

/-- The bound of a layer that is not told one. -/
def standard : Capacity := ⟨1024, by decide⟩

end Capacity

/-- The tracked keys, most recently touched first, and how many there may be. -/
structure Lru where
  capacity : Capacity := .standard
  order : List Key := []

namespace Lru

/-- The keys with one moved, or added, to the front. -/
def front (k : Key) (order : List Key) : List Key := k :: order.filter (· ≠ k)

/-- Touch a key that was written. A full layer gives up its last key for a new one. -/
def record (l : Lru) (k : Key) : Option Key × Lru :=
  if k ∈ l.order then (none, { l with order := front k l.order })
  else if l.order.length < l.capacity.size then (none, { l with order := k :: l.order })
  else (l.order.getLast?, { l with order := k :: l.order.dropLast })

/-- Touch a key that was read; an untracked key stays untracked. -/
def promote (l : Lru) (k : Key) : Lru :=
  if k ∈ l.order then { l with order := front k l.order } else l

/-- Stop tracking a key. -/
def forget (l : Lru) (k : Key) : Lru := { l with order := l.order.filter (· ≠ k) }

variable {σ : Type}

/-- The cache inside, as a part. -/
def inside : Part (Over Lru σ) σ := Over.plain

/-- Remove the least recently touched key inside. -/
def evict (inner : Cache σ) (c : Caller) (k : Key) (s : Over Lru σ) :
    Reply (Over Lru σ) (Except CacheFailure Unit) :=
  let id := inner.id s.inner
  ((inside.reply c s fun c i => inner.remove c k i).map fun r => r.map fun _ => ()).after
    [.event (.lruEviction id k), .count .eviction id]

/-- Write inside, then track the key. A refused write changes nothing. -/
def put (inner : Cache σ) (c : Caller) (k : Key) (e : Entry) (s : Over Lru σ) :
    Reply (Over Lru σ) (Except CacheFailure Unit) :=
  (inside.reply c s fun c i => inner.put c k e i).andThen fun r s =>
    match r with
    | .error f => ⟨.error f, s, []⟩
    | .ok () =>
      let (eldest?, own) := s.own.record k
      let s := { s with own }
      match eldest? with
      | none => ⟨.ok (), s, []⟩
      | some eldest => if eldest = k then ⟨.ok (), s, []⟩ else evict inner c eldest s

/-- The layer over a cache. -/
def cache (inner : Cache σ) : Cache (Over Lru σ) where
  id s := inner.id s.inner
  size c s := inside.reply c s inner.size
  put := put inner
  get c k s := inside.run c { s with own := s.own.promote k } fun c i => inner.get c k i
  remove c k s := inside.reply c { s with own := s.own.forget k } fun c i => inner.remove c k i
  clear c s := inside.reply c { s with own := { s.own with order := [] } } inner.clear
  holds s id := inner.holds s.inner id

/-- Evict from the end until the given number of keys is left; a refused eviction stops it. -/
def shrink (inner : Cache σ) (c : Caller) (n : Nat) :
    Nat → Over Lru σ → Reply (Over Lru σ) (Except CacheFailure Unit)
  | 0, s => ⟨.ok (), s, []⟩
  | fuel + 1, s =>
    if s.own.order.length ≤ n then ⟨.ok (), s, []⟩
    else
      match s.own.order.getLast? with
      | none => ⟨.ok (), s, []⟩
      | some k =>
        let s := { s with own := { s.own with order := s.own.order.dropLast } }
        (evict inner c k s).andThen fun r s =>
          match r with
          | .error f => ⟨.error f, s, []⟩
          | .ok () => shrink inner c n fuel s

/-- Change the capacity. Shrinking evicts the keys touched least recently, one by one, and a
refused eviction stops it with the old capacity. -/
def setCapacity (inner : Cache σ) (c : Caller) (n : Capacity) (s : Over Lru σ) :
    Reply (Over Lru σ) (Except CacheFailure Unit) :=
  (shrink inner c n.size s.own.order.length s).andThen fun r s =>
    match r with
    | .error f => ⟨.error f, s, []⟩
    | .ok () => ⟨.ok (), { s with own := { s.own with capacity := n } }, []⟩

/-- The written form of the state, given that of the cache inside. -/
def describe (l : Lru) (inner : String) : String :=
  Text.record "LruCache"
    [("inner", inner), ("capacity", toString l.capacity.size), ("tracked", toString l.order.length)]

end Lru

end QueryCache
