import QueryCache.Run

/-!
# Shared caches

What a shared cache stores, and the capability of being one. Every behaviour of a shared
cache — eviction, locking, counting, staging — is a function that takes a capability over an
inner state and gives one over a larger state, so the layers compose in any order.

Only a lookup can wait; all other operations answer at once.
-/

namespace QueryCache

/-- What is stored under a key. A `null` records that a lookup came to nothing; reclaimable
rows do not keep the row list alive. -/
inductive Entry where
  | null
  | rows (list : RowList)
  | reclaimable (list : RowList)
  deriving DecidableEq

namespace Entry

/-- Whether the entry is an explicit null. -/
def isNull : Entry → Bool
  | null => true
  | _ => false

/-- Whether the entry keeps a row list alive. -/
def holds (id : RowsId) : Entry → Bool
  | rows r => r.id == id
  | _ => false

/-- The entry as long as its rows are alive: reclaimable rows become rows, or nothing. -/
def upgrade (alive : RowsId → Bool) : Entry → Option Entry
  | reclaimable r => if alive r.id then some (rows r) else none
  | e => some e

end Entry

/-- The capability of being a shared cache, over states `σ`. -/
structure Cache (σ : Type) where
  /-- The identity of the cache; layers report that of the cache inside. -/
  id : σ → String
  /-- The number of entries in the innermost store. -/
  size : Caller → σ → Reply σ Nat
  put : Caller → Key → Entry → σ → Reply σ (Except CacheFailure Unit)
  get : Caller → Key → σ → Run σ (Except CacheFailure (Option Entry))
  remove : Caller → Key → σ → Reply σ (Except CacheFailure (Option Entry))
  clear : Caller → σ → Reply σ (Except CacheFailure Unit)
  /-- Whether the cache keeps a row list alive. -/
  holds : σ → RowsId → Bool

namespace Cache

variable {σ τ : Type}

/-- A cache on a part of a state, as a cache on the whole. -/
def within (p : Part τ σ) (inner : Cache σ) : Cache τ where
  id t := inner.id (p.view t)
  size c t := p.reply c t inner.size
  put c k e t := p.reply c t fun c s => inner.put c k e s
  get c k t := p.run c t fun c s => inner.get c k s
  remove c k t := p.reply c t fun c s => inner.remove c k s
  clear c t := p.reply c t inner.clear
  holds t id := inner.holds (p.view t) id

end Cache

/-- A layer's own state over the state of the cache inside. -/
structure Over (ο σ : Type) where
  own : ο
  inner : σ

/-- The state inside a layer as a part, with the row lists that the layer itself keeps. -/
def Over.part {ο σ : Type} (held : ο → RowsId → Bool) : Part (Over ο σ) σ where
  view s := s.inner
  place i s := { s with inner := i }
  held s := held s.own

/-- The state inside a layer that keeps no row lists. -/
def Over.plain {ο σ : Type} : Part (Over ο σ) σ := Over.part fun _ _ => false

end QueryCache
