import QueryCache.Layer.Probe
import QueryCache.Proofs.Run

/-!
# Journals

A journal writes down every call on a shared cache together with the answer, and changes
nothing else: the cache behind it may answer anything and fail at any point. Several caches
may share one journal, so each line names its target. A lookup that waits is written down
when it has been answered.
-/

namespace QueryCache

/-- One call with its answer. Writes and clears answer no entry. -/
structure Record (ρ : Type) where
  target : ρ
  call : Call
  answer : Except CacheFailure (Option Entry)

/-- The calls so far, oldest first. -/
abbrev Journal (ρ : Type) := List (Record ρ)

namespace Journal

variable {ρ σ α : Type}

/-- The first failure among the answers, if there is one. -/
def firstFailure : Journal ρ → Except CacheFailure Unit
  | [] => .ok ()
  | r :: rest =>
    match r.answer with
    | .ok _ => firstFailure rest
    | .error f => .error f

/-- What was called where. -/
def calls (j : Journal ρ) : List (ρ × Call) := j.map fun r => (r.target, r.call)

/-- The cache behind the journal, as a part. -/
def inside : Part (Over (Journal ρ) σ) σ := Over.plain

/-- Write a call down with its answer. -/
def noted (target : ρ) (call : Call) (answer : α → Except CacheFailure (Option Entry))
    (r : Reply (Over (Journal ρ) σ) α) : Reply (Over (Journal ρ) σ) α :=
  { r with state := { r.state with own := r.state.own ++ [⟨target, call, answer r.value⟩] } }

/-- A cache whose calls are written down. -/
def cache (target : ρ) (inner : Cache σ) : Cache (Over (Journal ρ) σ) where
  id s := inner.id s.inner
  size c s := inside.reply c s inner.size
  put c k e s :=
    noted target (.put k e) (·.map fun _ => none) (inside.reply c s fun c i => inner.put c k e i)
  get c k s :=
    (inside.run c s fun c i => inner.get c k i).mapReply (noted target (.get k) id)
  remove c k s :=
    noted target (.remove k) id (inside.reply c s fun c i => inner.remove c k i)
  clear c s := noted target .clear (·.map fun _ => none) (inside.reply c s inner.clear)
  holds s id := inner.holds s.inner id

/-- The first failure of two journals is that of the first one, if it has one. -/
theorem firstFailure_append (a b : Journal ρ) :
    firstFailure (a ++ b) =
      match firstFailure a with
      | .ok () => firstFailure b
      | .error f => .error f := by
  induction a with
  | nil => rfl
  | cons r rest ih =>
    rw [List.cons_append, firstFailure, firstFailure]
    cases r.answer with
    | ok e => exact ih
    | error f => rfl

/-- Calls of joined journals are joined. -/
theorem calls_append (a b : Journal ρ) : calls (a ++ b) = calls a ++ calls b :=
  List.map_append

end Journal

end QueryCache
