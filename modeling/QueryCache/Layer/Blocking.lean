import QueryCache.Cache

/-!
# Key locks

A layer that lets one thread at a time compute a missing value. A lookup takes the lock of
its key and waits while another thread owns it. A hit gives the lock back at once; a miss
or an explicit null keeps it until the thread stores a value or gives up by `remove`.

A thread that owns a lock takes it again without waiting, and one release frees it. A lock
exists as long as it is owned or waited for.
-/

namespace QueryCache

/-- The owner of a key's lock, and how many lookups wait for it. -/
structure Lock where
  owner : Option Nat := none
  waiting : Nat := 0
  deriving DecidableEq

/-- How long lookups wait, the locks, and how often the waiting lookups were interrupted. -/
structure Blocking where
  timeout : Option Duration := none
  locks : Table Key Lock := Table.empty
  epoch : Nat := 0

namespace Blocking

/-- A layer with a time limit; no limit and a limit of zero both mean waiting for ever. -/
def withTimeout (timeout : Option Duration) : Blocking :=
  { timeout := timeout.filter (·.nanos ≠ 0) }

/-- Whether a thread may take the lock of a key. -/
def claimable (b : Blocking) (thread : Nat) (k : Key) : Bool :=
  match b.locks.get? k with
  | none => true
  | some l => l.owner = none || l.owner = some thread

/-- Take the lock of a key. -/
def claim (b : Blocking) (thread : Nat) (k : Key) : Blocking :=
  let l := (b.locks.get? k).getD {}
  { b with locks := b.locks.insert k { l with owner := some thread } }

/-- Start waiting for the lock of a key. -/
def await (b : Blocking) (k : Key) : Blocking :=
  let l := (b.locks.get? k).getD {}
  { b with locks := b.locks.insert k { l with waiting := l.waiting + 1 } }

/-- Stop waiting for the lock of a key. -/
def unawait (b : Blocking) (k : Key) : Blocking :=
  { b with locks := b.locks.modify k fun l => { l with waiting := l.waiting - 1 } }

/-- Forget the lock of a key that is neither owned nor waited for. -/
def discardIdle (b : Blocking) (k : Key) : Blocking :=
  match b.locks.get? k with
  | some ⟨none, 0⟩ => { b with locks := b.locks.erase k }
  | _ => b

/-- Give a lock back. Nothing happens to a lock that the thread does not own. -/
def release (b : Blocking) (thread : Nat) (k : Key) : Blocking :=
  match b.locks.get? k with
  | none => b
  | some l =>
    if l.owner = some thread then
      { b with locks := b.locks.insert k { l with owner := none } }.discardIdle k
    else b

/-- Make every waiting lookup fail; owners keep their locks. -/
def interrupt (b : Blocking) : Blocking := { b with epoch := b.epoch + 1 }

variable {σ : Type}

/-- The cache inside, as a part. -/
def inside : Part (Over Blocking σ) σ := Over.plain

/-- What follows the lookup inside: only a miss or an explicit null keeps the lock. -/
def settle (thread : Nat) (k : Key) (_ : Caller)
    (r : Except CacheFailure (Option Entry)) (s : Over Blocking σ) :
    Run (Over Blocking σ) (Except CacheFailure (Option Entry)) :=
  match r with
  | .ok none | .ok (some .null) => .done ⟨r, s, []⟩
  | _ => .done ⟨r, { s with own := s.own.release thread k }, []⟩

/-- Take the lock and look inside. The lock is known to be free or the thread's own. -/
def fetch (inner : Cache σ) (thread : Nat) (c : Caller) (k : Key) (s : Over Blocking σ) :
    Run (Over Blocking σ) (Except CacheFailure (Option Entry)) :=
  let s := { s with own := s.own.claim thread k }
  (inside.run c s fun c i => inner.get c k i).andThen c (settle thread k)

/-- Give up waiting. -/
def refuse (inner : Cache σ) (k : Key) (s : Over Blocking σ)
    (cause : String → String → CacheFailure) :
    Run (Over Blocking σ) (Except CacheFailure (Option Entry)) :=
  let id := inner.id s.inner
  let f := cause id k.display
  .done ⟨.error f, { s with own := s.own.discardIdle k }, [.event (.lockRefused id k f)]⟩

/-- Look a key up under its lock. A wait ends when the lock can be taken, when the waiting
lookups are interrupted, or at the time limit; the first of these that holds decides. -/
def get (inner : Cache σ) (c : Caller) (k : Key) (s : Over Blocking σ) :
    Run (Over Blocking σ) (Except CacheFailure (Option Entry)) :=
  let me := c.thread
  if s.own.claimable me k then fetch inner me c k s
  else
    let epoch := s.own.epoch
    let waiting := { s with own := s.own.await k }
    match s.own.timeout with
    | none =>
      .wait none waiting [] (fun _ s => s.own.claimable me k || s.own.epoch != epoch)
        fun c s _ =>
          let s := { s with own := s.own.unawait k }
          if s.own.claimable me k then fetch inner me c k s
          else refuse inner k s .interrupted
    | some limit =>
      let deadline := c.now + limit.nanos
      .wait (some deadline) waiting []
        (fun c s => s.own.claimable me k || s.own.epoch != epoch || deadline ≤ c.now)
        fun c s _ =>
          let s := { s with own := s.own.unawait k }
          if s.own.claimable me k then fetch inner me c k s
          else if s.own.epoch != epoch then refuse inner k s .interrupted
          else refuse inner k s (.lockTimeout · · limit)

/-- The layer over a cache. Removing only gives the lock back. -/
def cache (inner : Cache σ) : Cache (Over Blocking σ) where
  id s := inner.id s.inner
  size c s := inside.reply c s inner.size
  put c k e s :=
    (inside.reply c s fun c i => inner.put c k e i).andThen fun r s =>
      ⟨r, { s with own := s.own.release c.thread k }, []⟩
  get := get inner
  remove c k s := ⟨.ok none, { s with own := s.own.release c.thread k }, []⟩
  clear c s := inside.reply c s inner.clear
  holds s id := inner.holds s.inner id

/-- The written form of the state, given that of the cache inside. -/
def describe (b : Blocking) (inner : String) : String :=
  Text.openRecord "BlockingCache"
    [("inner", inner), ("timeout", Text.option (b.timeout.map (·.display))),
     ("held_locks", toString b.locks.size)]

end Blocking

end QueryCache
