import QueryCache.Session.Basic

/-!
# Queries

A query is looked up in the session's memory, then in the shared cache of its statement, and
only then handed to the statement runner, whose rows are remembered at both levels. While
the runner is at work the key is marked, so that a query cannot ask for its own result.

The runner is an operation on the scene, because it may use the same session.
-/

namespace QueryCache

/-- What a runner answers: rows, and perhaps values for the parameters. -/
structure Output where
  rows : RowList
  outputs : Option Bag := none

/-- One execution of a statement. Its key may be given beforehand. -/
structure Request (ρ : Type) where
  statement : Statement ρ
  bound : Bound := {}
  window : Window := {}
  key? : Option Key := none

/-- How a query ended, and the parameters it leaves. -/
structure Outcome where
  result : Except Failure RowList
  bound : Bound

/-- The work of a runner for one query. -/
abbrev RunnerCall (ρ σ τ : Type) := Caller → Scene ρ σ τ → Run (Scene ρ σ τ) (Except Failure Output)

namespace Scene

variable {ρ σ τ : Type}

/-- Remember the rows of a key in the session. -/
def remember (k : Key) (list : RowList) (s : Scene ρ σ τ) : Scene ρ σ τ :=
  s.onSession fun x => { x with memo := x.memo.resolve k list }

/-- Stage the rows of a key for a shared cache. -/
def stageRows (g : Setting ρ σ τ) (ref : ρ) (k : Key) (list : RowList)
    (s : Scene ρ σ τ) : Scene ρ σ τ :=
  (staging g).place (Transaction.put g.cache ref k (.rows list) ((staging g).view s)) s

/-- A query answered from memory. A callable statement gets its remembered output values. -/
def fromMemory (r : Request ρ) (k : Key) (list : RowList) (s : Scene ρ σ τ) :
    Reply (Scene ρ σ τ) Outcome :=
  let bound :=
    match s.session.memo.outputs.get? k with
    | some bag => if r.statement.isCallable then r.bound.accept bag else r.bound
    | none => r.bound
  ⟨⟨.ok list, bound⟩, s, [.event .localHit]⟩

/-- What follows the runner's answer: rows are remembered and staged, and a failure takes the
mark of the key away. -/
def answered (g : Setting ρ σ τ) (r : Request ρ) (k : Key) (shared : Option ρ)
    (_ : Caller) (a : Except Failure Output) (s : Scene ρ σ τ) : Run (Scene ρ σ τ) Outcome :=
  match a with
  | .error f =>
    .done ⟨⟨.error f, r.bound⟩, s.onSession fun x => { x with memo := x.memo.remove k }, []⟩
  | .ok out =>
    let s := s.remember k out.rows
    let (bound, s) : Bound × Scene ρ σ τ :=
      if r.statement.isCallable then
        let bag := out.outputs.getD r.bound.outputs
        (r.bound.accept bag,
          s.onSession fun x => { x with memo := x.memo.storeOutputs k bag })
      else (r.bound, s)
    let s :=
      match shared with
      | some ref => s.stageRows g ref k out.rows
      | none => s
    .done ⟨⟨.ok out.rows, bound⟩, s, [.event (.executed out.rows.rows.length)]⟩

/-- A query answered by the runner, with the key marked meanwhile. -/
def fromRunner (g : Setting ρ σ τ) (runner : RunnerCall ρ σ τ) (r : Request ρ) (k : Key)
    (shared : Option ρ) (c : Caller) (s : Scene ρ σ τ) : Run (Scene ρ σ τ) Outcome :=
  let s := s.onSession fun x => { x with memo := x.memo.markInFlight k }
  (runner c s).andThen c (answered g r k shared)

/-- What follows the lookup in the shared cache: its rows are remembered, and if it came to
nothing the runner is asked. -/
def looked (g : Setting ρ σ τ) (runner : RunnerCall ρ σ τ) (r : Request ρ) (k : Key)
    (ref : ρ) (c : Caller) (found : Except CacheFailure (Option Entry)) (s : Scene ρ σ τ) :
    Run (Scene ρ σ τ) Outcome :=
  match found with
  | .error f => .done ⟨⟨.error (.cache f), r.bound⟩, s, []⟩
  | .ok (some (.rows list)) =>
    .done ⟨⟨.ok list, r.bound⟩, s.remember k list,
      [.event (.sharedHit ((g.cache ref).id s.shared))]⟩
  | .ok _ => fromRunner g runner r k (some ref) c s

/-- Answer a query from the first level that knows it: the session's memory, the shared
cache, the runner. -/
def resolve (g : Setting ρ σ τ) (runner : RunnerCall ρ σ τ) (r : Request ρ) (k : Key)
    (c : Caller) (s : Scene ρ σ τ) : Run (Scene ρ σ τ) Outcome :=
  match s.session.memo.lookup k with
  | some (.resolved list) => .done (s.fromMemory r k list)
  | some .inFlight => .done ⟨⟨.error (.circular r.statement.id), r.bound⟩, s, []⟩
  | none =>
    match s.session.cacheFor r.statement r.bound with
    | .error f => .done ⟨⟨.error f, r.bound⟩, s, []⟩
    | .ok none => fromRunner g runner r k none c s
    | .ok (some ref) =>
      ((staging g).run c s fun c i => Transaction.get g.cache c ref k i).andThen c
        (looked g runner r k ref)

/-- Hand over the rows of the waiting loads, in order; a key without rows is skipped. -/
def deliverAll (g : Setting ρ σ τ) : List DeferredLoad → Scene ρ σ τ → Reply (Scene ρ σ τ) Unit
  | [], s => ⟨(), s, []⟩
  | load :: rest, s =>
    match s.session.memo.lookup load.key with
    | some (.resolved list) =>
      deliverAll g rest { s with client := g.deliver load.label list s.client }
    | other =>
      (deliverAll g rest s).after [.event (.loadSkipped load.key (Memory.stateName other))]

/-- The end of a query. The outermost one hands over or drops the waiting loads, and in
statement scope the session forgets its memory. -/
def finish (g : Setting ρ σ τ) (o : Outcome) (s : Scene ρ σ τ) : Reply (Scene ρ σ τ) Outcome :=
  let s := s.onSession fun x => { x with depth := x.depth - 1 }
  if s.session.depth = 0 then
    let waiting := s.session.deferred
    let s := s.onSession fun x => { x with deferred := [] }
    let delivered : Reply (Scene ρ σ τ) Unit :=
      match o.result with
      | .ok _ => deliverAll g waiting s
      | .error _ => ⟨(), s, []⟩
    delivered.andThen fun _ s =>
      ⟨o, if s.session.settings.scope = .statement then s.onSession (·.clearMemo) else s,
        [.leave]⟩
  else ⟨o, s, [.leave]⟩

/-- Run a query under a key. -/
def queryAt (g : Setting ρ σ τ) (runner : RunnerCall ρ σ τ) (r : Request ρ) (k : Key)
    (c : Caller) (s : Scene ρ σ τ) : Run (Scene ρ σ τ) Outcome :=
  let depth := s.session.depth
  let s := if depth = 0 && r.statement.flush then s.onSession (·.clearMemo) else s
  let s := (s.flush g r.statement).onSession fun x => { x with depth := depth + 1 }
  ((resolve g runner r k c s).andThen c fun _ o s => .done (finish g o s)).after
    [.enter (.query r.statement.id depth)]

/-- Run a query. A closed session refuses it. -/
def query (g : Setting ρ σ τ) (runner : RunnerCall ρ σ τ) (r : Request ρ)
    (c : Caller) (s : Scene ρ σ τ) : Run (Scene ρ σ τ) Outcome :=
  if s.session.closed then .done ⟨⟨.error .closed, r.bound⟩, s, []⟩
  else
    let k := r.key?.getD (r.statement.key r.bound r.window s.session.settings.environment)
    queryAt g runner r k c s

end Scene

end QueryCache
