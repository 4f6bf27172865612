import QueryCache.Cache

/-!
# Probes

A layer for watching and disturbing the traffic between two layers: it writes down every
call, and it can be told to refuse the calls of an operation, which then do not reach the
cache inside.
-/

namespace QueryCache

/-- One call, as a probe writes it down. -/
inductive Call where
  | put (key : Key) (entry : Entry)
  | get (key : Key)
  | remove (key : Key)
  | clear

namespace Call

private def entryText : Entry → String
  | .null => "null"
  | .rows r => "rows " ++ toString r.rows.length
  | .reclaimable _ => "reclaimable"

/-- The written form of a call. -/
def display : Call → String
  | put k e => "put " ++ k.display ++ " " ++ entryText e
  | get k => "get " ++ k.display
  | remove k => "remove " ++ k.display
  | clear => "clear"

end Call

/-- The calls so far, oldest first, and the refusals in force. -/
structure Probe where
  calls : List Call := []
  put : Option CacheFailure := none
  get : Option CacheFailure := none
  remove : Option CacheFailure := none
  clear : Option CacheFailure := none

namespace Probe

variable {σ α : Type}

/-- The cache inside, as a part. -/
def inside : Part (Over Probe σ) σ := Over.plain

/-- Write a call down. -/
def write (call : Call) (s : Over Probe σ) : Over Probe σ :=
  { s with own := { s.own with calls := s.own.calls ++ [call] } }

/-- Refuse an operation, or let it through. -/
def guarded (refusal : Option CacheFailure) (c : Caller) (s : Over Probe σ)
    (f : Caller → σ → Reply σ (Except CacheFailure α)) :
    Reply (Over Probe σ) (Except CacheFailure α) :=
  match refusal with
  | some e => ⟨.error e, s, []⟩
  | none => inside.reply c s f

/-- The layer over a cache. -/
def cache (inner : Cache σ) : Cache (Over Probe σ) where
  id s := inner.id s.inner
  size c s := inside.reply c s inner.size
  put c k e s := guarded s.own.put c (write (.put k e) s) fun c i => inner.put c k e i
  get c k s :=
    match s.own.get with
    | some e => .done ⟨.error e, write (.get k) s, []⟩
    | none => inside.run c (write (.get k) s) fun c i => inner.get c k i
  remove c k s := guarded s.own.remove c (write (.remove k) s) fun c i => inner.remove c k i
  clear c s := guarded s.own.clear c (write .clear s) inner.clear
  holds s id := inner.holds s.inner id

end Probe

end QueryCache
