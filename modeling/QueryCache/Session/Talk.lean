import QueryCache.Session.Query

/-!
# Runners that use the session

What a statement runner does for one query, as a tree: it ends with an answer, or it uses
the session that is running the query and goes on with what it gets. A nested query comes
with what the runner will do if the query reaches it. The tree is well founded, so a
conversation always ends; it may look at the whole session, and it carries the client's
state from step to step.
-/

namespace QueryCache

/-- What a runner may ask of its session beside queries and updates. -/
inductive Act where
  | commit
  | rollback
  | close (force : Bool)
  | clearMemo
  | store (key : Key) (list : RowList)
  | defer (load : DeferredLoad)

/-- The work of a runner for one query. -/
inductive Talk (ρ τ : Type) where
  | finish (answer : Except Failure Output) (client : τ)
  | query (request : Request ρ) (client : τ) (runner : τ → Talk ρ τ)
      (next : Outcome → τ → Talk ρ τ)
  | update (statement : Statement ρ) (client : τ) (runner : τ → Except Failure Nat × τ)
      (next : Except Failure Nat → τ → Talk ρ τ)
  | act (a : Act) (client : τ) (next : Except Failure Unit → τ → Talk ρ τ)
  | look (client : τ) (next : Session ρ → τ → Talk ρ τ)

namespace Scene

variable {ρ σ τ : Type}

/-- Carry out an act of a runner. -/
def perform (g : Setting ρ σ τ) (c : Caller) (a : Act) (s : Scene ρ σ τ) :
    Reply (Scene ρ σ τ) (Except Failure Unit) :=
  match a with
  | .commit => s.commit g c
  | .rollback => (s.rollback g c).map .ok
  | .close force => s.close g force c
  | .clearMemo => ⟨.ok (), s.onSession (·.clearMemo), []⟩
  | .store k list => ⟨.ok (), s.onSession fun x => { x with memo := x.memo.resolve k list }, []⟩
  | .defer load => s.defer g load

/-- Hold a conversation. -/
def converse (g : Setting ρ σ τ) : Talk ρ τ → RunnerCall ρ σ τ
  | .finish answer client, _, s => .done ⟨answer, { s with client }, []⟩
  | .query request client runner next, c, s =>
    (query g (fun c s => converse g (runner s.client) c s) request c { s with client }).andThen c
      fun c o s => converse g (next o s.client) c s
  | .update st client runner next, c, s =>
    let r := update g runner st { s with client }
    (converse g (next r.value r.state.client) c r.state).after r.notes
  | .act a client next, c, s =>
    let r := perform g c a { s with client }
    (converse g (next r.value r.state.client) c r.state).after r.notes
  | .look client next, c, s => converse g (next s.session client) c { s with client }

/-- Run a query whose runner holds a conversation. -/
def queryWith (g : Setting ρ σ τ) (runner : τ → Talk ρ τ) (r : Request ρ) (c : Caller)
    (s : Scene ρ σ τ) : Run (Scene ρ σ τ) Outcome :=
  query g (fun c s => converse g (runner s.client) c s) r c s

end Scene

end QueryCache
