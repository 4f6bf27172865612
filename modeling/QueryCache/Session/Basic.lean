import QueryCache.Session.Memo
import QueryCache.Staging.Transaction

/-!
# Sessions

The state of one session over the shared caches: its memory, its staged work, the loads that
wait for a query to end, and how many queries are running inside one another.

Whatever a session does is done in a `Scene`: the session, the shared caches and a client,
whose state the statement runner and the targets of deferred loads change.
-/

namespace QueryCache

/-- The switches of a session. -/
structure SessionSettings where
  cacheEnabled : Bool := true
  scope : Scope := .session
  environment : Option String := none
  deriving DecidableEq, Inhabited

/-- The settings with shared caches switched off. -/
def SessionSettings.off : SessionSettings := { cacheEnabled := false }

/-- The detailed written form. -/
def SessionSettings.inspect (s : SessionSettings) : String :=
  Text.record "ExecutorSettings"
    [("cache_enabled", Text.bool s.cacheEnabled), ("local_cache_scope", s.scope.inspect),
     ("environment_id", Text.option (s.environment.map Text.quoted))]

/-- A load that waits for the rows of a key. Its label says for whom. -/
structure DeferredLoad where
  key : Key
  label : String
  deriving DecidableEq

/-- The state of a session. -/
structure Session (ρ : Type) where
  settings : SessionSettings := {}
  memo : Memo := {}
  staged : Transaction ρ := {}
  deferred : List DeferredLoad := []
  depth : Nat := 0
  closed : Bool := false

namespace Session

variable {ρ : Type}

/-- Whether the session keeps a row list alive. -/
def holds (x : Session ρ) (id : RowsId) : Bool := x.memo.holds id || x.staged.holds id

/-- Forget the session's memory. A closed session has none to forget. -/
def clearMemo (x : Session ρ) : Session ρ := if x.closed then x else { x with memo := .empty }

/-- The key of one execution of a statement in this session. -/
def keyOf (x : Session ρ) (st : Statement ρ) (b : Bound) (w : Window) : Except Failure Key :=
  if x.closed then .error .closed else .ok (st.key b w x.settings.environment)

/-- The shared cache that a query goes through, if any. A statement that returns values in
its parameters cannot go through one. -/
def cacheFor (x : Session ρ) (st : Statement ρ) (b : Bound) : Except Failure (Option ρ) :=
  if !x.settings.cacheEnabled || !st.useCache then .ok none
  else
    match st.cache with
    | none => .ok none
    | some ref =>
      if st.isCallable && b.hasOutput then .error (.outParamsNotCacheable st.id)
      else .ok (some ref)

/-- The written form of the state, given the names that the caches report. -/
def describe (nameOf : ρ → String) (x : Session ρ) : String :=
  Text.record "Executor"
    [("settings", x.settings.inspect), ("local", x.memo.inspect),
     ("tx_caches", x.staged.describe nameOf),
     ("deferred", Text.list (x.deferred.map fun d =>
       Text.openRecord "DeferredLoad" [("key", d.key.inspect)])),
     ("query_stack", toString x.depth), ("closed", Text.bool x.closed)]

end Session

/-- A session at work: the session, the shared caches and the client. -/
structure Scene (ρ σ τ : Type) where
  session : Session ρ
  shared : σ
  client : τ

/-- What a scene's operations need to know: the shared caches behind the references, how the
rows of a deferred load reach the client, and which row lists the client keeps alive. -/
structure Setting (ρ σ τ : Type) where
  cache : ρ → Cache σ
  deliver : String → RowList → τ → τ
  keeps : τ → RowsId → Bool := fun _ _ => false

namespace Scene

variable {ρ σ τ : Type}

/-- The staged work in front of the shared caches, as a part of the scene. -/
def staging (g : Setting ρ σ τ) : Part (Scene ρ σ τ) (Over (Transaction ρ) σ) where
  view s := ⟨s.session.staged, s.shared⟩
  place i s := { s with session := { s.session with staged := i.own }, shared := i.inner }
  held s id := s.session.memo.holds id || g.keeps s.client id

/-- Change the session. -/
def onSession (s : Scene ρ σ τ) (f : Session ρ → Session ρ) : Scene ρ σ τ :=
  { s with session := f s.session }

/-- Stage a clear of the shared cache of a statement that asks for it. -/
def flush (g : Setting ρ σ τ) (st : Statement ρ) (s : Scene ρ σ τ) : Scene ρ σ τ :=
  if s.session.settings.cacheEnabled && st.flush then
    match st.cache with
    | none => s
    | some ref =>
      (staging g).place (Transaction.clear g.cache ref ((staging g).view s)) s
  else s

/-- Run a statement that changes data. The session forgets its memory, and the shared cache
of a flushing statement is going to be cleared. -/
def update (g : Setting ρ σ τ) (runner : τ → Except Failure Nat × τ) (st : Statement ρ)
    (s : Scene ρ σ τ) : Reply (Scene ρ σ τ) (Except Failure Nat) :=
  if s.session.closed then ⟨.error .closed, s, []⟩
  else
    let s := (s.flush g st).onSession (·.clearMemo)
    let (answer, client) := runner s.client
    ⟨answer, { s with client }, []⟩

/-- Hand over the rows of a key: at once if they are known, else when the outermost query
ends. -/
def defer (g : Setting ρ σ τ) (load : DeferredLoad) (s : Scene ρ σ τ) :
    Reply (Scene ρ σ τ) (Except Failure Unit) :=
  if s.session.closed then ⟨.error .closed, s, []⟩
  else
    match s.session.memo.lookup load.key with
    | some (.resolved list) =>
      ⟨.ok (), { s with client := g.deliver load.label list s.client }, []⟩
    | _ => ⟨.ok (), s.onSession fun x => { x with deferred := x.deferred ++ [load] }, []⟩

/-- End the transaction and publish its staged work. -/
def commit (g : Setting ρ σ τ) (c : Caller) (s : Scene ρ σ τ) :
    Reply (Scene ρ σ τ) (Except Failure Unit) :=
  if s.session.closed then ⟨.error .closed, s, []⟩
  else
    ((staging g).reply c (s.onSession (·.clearMemo)) (Transaction.commitAll g.cache)).map
      fun r => r.mapError .cache

/-- End the transaction and drop its staged work. A closed session has none. -/
def rollback (g : Setting ρ σ τ) (c : Caller) (s : Scene ρ σ τ) : Reply (Scene ρ σ τ) Unit :=
  if s.session.closed then ⟨(), s, []⟩
  else (staging g).reply c (s.onSession (·.clearMemo)) (Transaction.rollbackAll g.cache)

/-- End the session after a last commit or rollback. What is still staged, remembered or
waiting is dropped; closing again does nothing. -/
def close (g : Setting ρ σ τ) (force : Bool) (c : Caller) (s : Scene ρ σ τ) :
    Reply (Scene ρ σ τ) (Except Failure Unit) :=
  if s.session.closed then ⟨.ok (), s, []⟩
  else
    let ended : Reply (Scene ρ σ τ) (Except CacheFailure Unit) :=
      if force then ((staging g).reply c s (Transaction.rollbackAll g.cache)).map .ok
      else (staging g).reply c s (Transaction.commitAll g.cache)
    ended.andThen fun r s =>
      ⟨r.mapError .cache,
        s.onSession fun x =>
          { x with memo := .empty, deferred := [], staged := .empty, closed := true },
        [.event (.closed force)]⟩

end Scene

end QueryCache
