import QueryCache.Cache

/-!
# Hit counting

A layer that changes nothing: it counts lookups and hits, wraps every operation in a span
and reports how it went. An explicit null counts as a hit.
-/

namespace QueryCache

/-- How many lookups there were, and how many of them found something. The counts have no bound;
in words of 64 bits they would come round after 2^64 lookups. -/
structure Tally where
  requests : Nat := 0
  hits : Nat := 0
  deriving DecidableEq, Inhabited

namespace Tally

/-- The lookups that found nothing. -/
def misses (t : Tally) : Nat := t.requests - t.hits

/-- The share of hits as a double-precision number; zero before the first lookup. -/
def ratioBits (t : Tally) : UInt64 :=
  if t.requests = 0 then 0
  else ((UInt64.ofNat t.hits).toFloat / (UInt64.ofNat t.requests).toFloat).toBits

/-- The written form of the share of hits. -/
def ratio (t : Tally) : String := Decimal.write .plain t.ratioBits

/-- The written form of the counts. -/
def describe (t : Tally) : String :=
  Text.record "CacheStats" [("requests", toString t.requests), ("hits", toString t.hits)]

end Tally

namespace Logging

variable {σ : Type}

/-- The cache inside, as a part. -/
def inside : Part (Over Tally σ) σ := Over.plain

/-- An operation between the ends of its span, with a report on its result. -/
def operation {α : Type} (span : Span)
    (report : Except CacheFailure α → List Note)
    (r : Reply (Over Tally σ) (Except CacheFailure α)) :
    Reply (Over Tally σ) (Except CacheFailure α) :=
  ⟨r.value, r.state, .enter span :: r.notes ++ report r.value ++ [.leave]⟩

/-- The report on an operation without an answer of its own: only failures are told. -/
def onFailure {α : Type} (name : String) : Except CacheFailure α → List Note
  | .error f => [.event (.operationFailed name f)]
  | .ok _ => []

/-- The report on a removal. -/
def onRemoval : Except CacheFailure (Option Entry) → List Note
  | .error f => [.event (.operationFailed "remove" f)]
  | .ok e => [.event (.removed e.isSome)]

/-- What follows the lookup inside: a hit is counted, and the share of hits is told. -/
def looked (inner : Cache σ) (_ : Caller) (r : Except CacheFailure (Option Entry))
    (s : Over Tally σ) : Run (Over Tally σ) (Except CacheFailure (Option Entry)) :=
  let id := inner.id s.inner
  let (own, notes) : Tally × List Note :=
    match r with
    | .ok (some _) =>
      ({ s.own with hits := s.own.hits + 1 }, [.event .lookupHit, .count .hit id])
    | .ok none => (s.own, [.event .lookupMiss, .count .miss id])
    | .error f => (s.own, [.event (.lookupFailed f)])
  .done ⟨r, { s with own }, notes ++ [.event (.hitRatio id own.ratio), .leave]⟩

/-- Look a key up and count it. -/
def get (inner : Cache σ) (c : Caller) (k : Key) (s : Over Tally σ) :
    Run (Over Tally σ) (Except CacheFailure (Option Entry)) :=
  let s' := { s with own := { s.own with requests := s.own.requests + 1 } }
  ((inside.run c s' fun c i => inner.get c k i).andThen c (looked inner)).after
    [.enter (.get (inner.id s.inner) k)]

/-- The layer over a cache. -/
def cache (inner : Cache σ) : Cache (Over Tally σ) where
  id s := inner.id s.inner
  size c s := inside.reply c s inner.size
  put c k e s :=
    operation (.put (inner.id s.inner) k) (onFailure "put")
      (inside.reply c s fun c i => inner.put c k e i)
  get := get inner
  remove c k s :=
    operation (.remove (inner.id s.inner) k) onRemoval
      (inside.reply c s fun c i => inner.remove c k i)
  clear c s :=
    operation (.clear (inner.id s.inner)) (onFailure "clear") (inside.reply c s inner.clear)
  holds s id := inner.holds s.inner id

/-- The written form of the state, given that of the cache inside. -/
def describe (t : Tally) (inner : String) : String :=
  Text.record "LoggingCache" [("inner", inner), ("stats", t.describe)]

end Logging

end QueryCache
