import QueryCache.Trace.Note

/-!
# Replies and runs

Operations are functions from a state to what they answer. An operation that cannot wait
gives a `Reply`: its result, the state it leaves and the notes it made. An operation that
may have to wait for a lock gives a `Run`: it has ended with a reply, or it stands at a lock
with the state it has reached and a continuation. Others may change the state meanwhile, so
the continuation takes the state anew, and it takes evidence that what the run waits for has
come: resumed runs never turn back to the same wait.

An operation on a part of a state is lifted to the whole state by `Part`.
-/

namespace QueryCache

/-- Who calls an operation, when, and which row lists are kept alive elsewhere. -/
structure Caller where
  thread : Nat := 0
  now : Nat := 0
  held : RowsId → Bool := fun _ => false

/-- The same caller with more row lists kept alive. -/
def Caller.holding (c : Caller) (held : RowsId → Bool) : Caller :=
  { c with held := fun r => c.held r || held r }

/-- The end of an operation. -/
structure Reply (σ α : Type) where
  value : α
  state : σ
  notes : List Note := []

namespace Reply

variable {σ α β : Type}

/-- Put notes made earlier in front. -/
def after (r : Reply σ α) (notes : List Note) : Reply σ α := { r with notes := notes ++ r.notes }

/-- Go on with the result and the state. -/
def andThen (r : Reply σ α) (next : α → σ → Reply σ β) : Reply σ β :=
  (next r.value r.state).after r.notes

/-- Change the result. -/
def map (f : α → β) (r : Reply σ α) : Reply σ β := ⟨f r.value, r.state, r.notes⟩

/-- Going on keeps the notes in order. -/
theorem notes_andThen (r : Reply σ α) (next : α → σ → Reply σ β) :
    (r.andThen next).notes = r.notes ++ (next r.value r.state).notes := rfl

end Reply

/-- An operation that has ended, or that waits. It may go on once `ready` holds; when it has
to give up by itself, that is at `deadline` on the caller's clock. -/
inductive Run (σ α : Type) where
  | done (reply : Reply σ α)
  | wait (deadline : Option Nat) (state : σ) (notes : List Note) (ready : Caller → σ → Bool)
      (resume : (c : Caller) → (s : σ) → ready c s = true → Run σ α)

namespace Run

variable {σ α β : Type}

/-- The state that has been reached. -/
def state : Run σ α → σ
  | done r => r.state
  | wait _ s _ _ _ => s

/-- The notes made so far. -/
def notes : Run σ α → List Note
  | done r => r.notes
  | wait _ _ n _ _ => n

/-- The reply, if the operation has ended. -/
def reply? : Run σ α → Option (Reply σ α)
  | done r => some r
  | wait .. => none

/-- Put notes made earlier in front. -/
def after (r : Run σ α) (notes : List Note) : Run σ α :=
  match r with
  | done r => done (r.after notes)
  | wait d s n ready resume => wait d s (notes ++ n) ready resume

/-- Go on with the result and the state once the operation has ended. -/
def andThen (c : Caller) (next : Caller → α → σ → Run σ β) : Run σ α → Run σ β
  | done r => (next c r.value r.state).after r.notes
  | wait d s n ready resume =>
    wait d s n ready fun c' s' h => (resume c' s' h).andThen c' next

/-- Change the reply once the operation has ended. -/
def mapReply (f : Reply σ α → Reply σ β) : Run σ α → Run σ β
  | done r => done (f r)
  | wait d s n ready resume => wait d s n ready fun c' s' h => (resume c' s' h).mapReply f

end Run

/-- A part of a state: how to read it, how to put it back, and which row lists the rest of
the state keeps alive. -/
structure Part (τ σ : Type) where
  view : τ → σ
  place : σ → τ → τ
  held : τ → RowsId → Bool := fun _ _ => false

variable {σ τ α : Type}

/-- A reply of a part as a reply of the whole. -/
def Reply.within (p : Part τ σ) (t : τ) (r : Reply σ α) : Reply τ α :=
  ⟨r.value, p.place r.state t, r.notes⟩

/-- A run on a part as a run on the whole. -/
def Run.within (p : Part τ σ) (t : τ) : Run σ α → Run τ α
  | done r => done (r.within p t)
  | wait d s n ready resume =>
    wait d (p.place s t) n (fun c' t' => ready (c'.holding (p.held t')) (p.view t'))
      fun c' t' h => (resume (c'.holding (p.held t')) (p.view t') h).within p t'

/-- Carry out an operation on a part. -/
def Part.reply (p : Part τ σ) (c : Caller) (t : τ) (f : Caller → σ → Reply σ α) : Reply τ α :=
  (f (c.holding (p.held t)) (p.view t)).within p t

/-- Carry out an operation that may wait on a part. -/
def Part.run (p : Part τ σ) (c : Caller) (t : τ) (f : Caller → σ → Run σ α) : Run τ α :=
  (f (c.holding (p.held t)) (p.view t)).within p t

end QueryCache
