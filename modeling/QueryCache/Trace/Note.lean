import QueryCache.Failure
import QueryCache.Key

/-!
# Notes

What an operation reports beside its result: counters that grow, spans that open and close,
and events. Reports are data, so an operation that reports is still a function; the written
form of an event is a list of named texts.
-/

namespace QueryCache

/-- The counters kept per cache. -/
inductive Metric where
  | hit
  | miss
  | eviction
  deriving DecidableEq, Inhabited

namespace Metric

/-- All counters, in the order in which they are described. -/
def all : List Metric := [hit, miss, eviction]

/-- The published name of a counter. -/
def name : Metric → String
  | hit => "sqlmap_cache_hits_total"
  | miss => "sqlmap_cache_misses_total"
  | eviction => "sqlmap_cache_evictions_total"

/-- The published description of a counter. -/
def description : Metric → String
  | hit => "Total shared cache hits"
  | miss => "Total shared cache misses"
  | eviction => "Total shared cache evictions"

end Metric

/-- How much an event matters. -/
inductive Severity where
  | debug
  | info
  | warn
  deriving DecidableEq, Inhabited

/-- The written form of a severity. -/
def Severity.name : Severity → String
  | debug => "DEBUG"
  | info => "INFO"
  | warn => "WARN"

/-- An extent of time in which events happen. -/
inductive Span where
  | put (cache : String) (key : Key)
  | get (cache : String) (key : Key)
  | remove (cache : String) (key : Key)
  | clear (cache : String)
  | query (statement : String) (depth : Nat)

namespace Span

/-- The name of a span. -/
def name : Span → String
  | put .. => "cache.put"
  | get .. => "cache.get"
  | remove .. => "cache.remove"
  | clear _ => "cache.clear"
  | query .. => "executor.query"

/-- The fields of a span. -/
def fields : Span → List (String × String)
  | put c k | get c k | remove c k => [("cache.id", c), ("cache.key", k.display)]
  | clear c => [("cache.id", c)]
  | query s d => [("statement.id", s), ("query.depth", toString d)]

end Span

/-- What happened. -/
inductive Event where
  | lruEviction (cache : String) (key : Key)
  | fifoEviction (cache : String) (key : Key)
  | weakReclaimed (cache : String) (key : Key)
  | sweepFailed (cache : String) (cause : CacheFailure)
  | lookupHit
  | lookupMiss
  | lookupFailed (cause : CacheFailure)
  | hitRatio (cache : String) (ratio : String)
  | removed (found : Bool)
  | operationFailed (operation : String) (cause : CacheFailure)
  | lockRefused (cache : String) (key : Key) (cause : CacheFailure)
  | commitStepFailed (cache operation : String) (cause : CacheFailure)
  | commitFailed (cache : String) (cause : CacheFailure)
  | rollbackStepFailed (cache : String) (key : Key) (cause : CacheFailure)
  | cacheCreated (cache eviction : String) (size : Nat) (blocking : Bool)
  | localHit
  | sharedHit (cache : String)
  | executed (rows : Nat)
  | loadSkipped (key : Key) (state : String)
  | closed (rollback : Bool)

namespace Event

/-- How much an event matters. -/
def severity : Event → Severity
  | sweepFailed .. | lookupFailed .. | operationFailed .. | commitStepFailed ..
  | commitFailed .. | rollbackStepFailed .. | loadSkipped .. => .warn
  | _ => .debug

/-- The fields of an event; its text, if it has one, is the field `message`. -/
def fields : Event → List (String × String)
  | lruEviction c k => [("message", "lru eviction"), ("cache.id", c), ("cache.key", k.display)]
  | fifoEviction c k => [("message", "fifo eviction"), ("cache.id", c), ("cache.key", k.display)]
  | weakReclaimed c k =>
    [("message", "weak entry reclaimed"), ("cache.id", c), ("cache.key", k.display)]
  | sweepFailed c e => [("message", "weak sweep failed"), ("cache.id", c), ("error", e.message)]
  | lookupHit => [("cache.result", "hit")]
  | lookupMiss => [("cache.result", "miss")]
  | lookupFailed e => [("cache.result", "error"), ("error", e.message)]
  | hitRatio c r =>
    [("message", "Cache Hit Ratio [" ++ c ++ "]: " ++ r), ("cache.hit_ratio", r)]
  | removed b => [("cache.operation", "remove"), ("cache.removed", Text.bool b)]
  | operationFailed op e => [("cache.operation", op), ("error", e.message)]
  | lockRefused c k e =>
    [("message", "key lock not acquired"), ("cache.id", c), ("cache.key", k.display),
     ("error", e.message)]
  | commitStepFailed c op e =>
    [("message", "commit step failed"), ("cache.id", c), ("cache.operation", op),
     ("error", e.message)]
  | commitFailed c e =>
    [("message", "transactional cache commit failed"), ("cache.id", c), ("error", e.message)]
  | rollbackStepFailed c k e =>
    [("message", "Unexpected exception while notifying a rollback to the cache adapter"),
     ("cache.id", c), ("cache.key", k.display), ("error", e.message)]
  | cacheCreated c ev n b =>
    [("message", "Creating shared cache"), ("cache.id", c), ("cache.eviction", ev),
     ("cache.size", toString n), ("cache.blocking", Text.bool b)]
  | localHit => [("cache.level", "local"), ("cache.result", "hit")]
  | sharedHit c => [("cache.level", "shared"), ("cache.id", c), ("cache.result", "hit")]
  | executed n =>
    [("message", "query executed"), ("cache.level", "store"), ("rows", toString n)]
  | loadSkipped k s =>
    [("message", "deferred load skipped: key not resolved"), ("cache.key", k.display),
     ("local.state", s)]
  | closed b => [("message", "executor closed"), ("force_rollback", Text.bool b)]

end Event

/-- One report of an operation. -/
inductive Note where
  | count (metric : Metric) (cache : String)
  | enter (span : Span)
  | leave
  | event (e : Event)

namespace Note

/-- How often the notes count a metric of a cache. -/
def counted (metric : Metric) (cache : String) (notes : List Note) : Nat :=
  notes.countP fun
    | count m c => m = metric && c = cache
    | _ => false

/-- Counts of joined reports add up. -/
theorem counted_append (m : Metric) (c : String) (a b : List Note) :
    counted m c (a ++ b) = counted m c a + counted m c b :=
  List.countP_append

end Note

end QueryCache
