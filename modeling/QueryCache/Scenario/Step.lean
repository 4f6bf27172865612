import QueryCache.Scenario.Shared
import QueryCache.Session.Talk
import QueryCache.Trace.Report

/-!
# Scenario steps

A scenario drives caches, transactions, registries and sessions that it knows by names. Here
are its steps, what a plan tells the statement runner to do, and the answers.
-/

namespace QueryCache.Scenario

/-- A key: given by its components, or kept under a name. -/
inductive KeySpec where
  | components (vs : List Value)
  | named (name : String)

/-- What a step stores: a null, new rows, or rows held under a name, strongly or not. -/
inductive Operand where
  | null
  | rows (rows : List Row)
  | held (name : String)
  | weak (name : String)

/-- A statement whose cache is known by its name. -/
structure StatementSpec where
  id : String := ""
  command : Command := .select
  protocol : Option Protocol := none
  cache : Option String := none
  useCache : Option Bool := none
  flush : Option Bool := none

/-- One query. -/
structure QuerySpec where
  statement : StatementSpec
  bound : Bound := {}
  window : Window := {}
  key : Option KeySpec := none
  hold : Option String := none

/-- A step of a session. -/
inductive SessionStep where
  | query (q : QuerySpec)
  | update (statement : StatementSpec) (bound : Bound)
  | makeKey (statement : StatementSpec) (bound : Bound) (window : Window) (name : Option String)
  | defer (key : KeySpec) (label : String)
  | isCached (key : KeySpec)
  | lookup (key : KeySpec) (hold : Option String)
  | store (key : KeySpec) (value : Operand)
  | clearMemo
  | memoSize
  | deferredCount
  | commit
  | rollback
  | close (force : Bool)
  | isClosed
  | settings

/-- An action of a runner in the middle of a query. A failure of one that propagates ends
the query. -/
structure Action where
  name : String
  step : SessionStep
  propagate : Bool := false

/-- What a runner does when it is called for a statement. -/
structure Plan where
  actions : List Action := []
  failure : Option Failure := none
  rows : List Row := []
  outputs : Option Bag := none
  affected : Nat := 1

/-- A layer to put on a stack. -/
inductive LayerSpec where
  | lru (capacity : Capacity)
  | fifo (size : Nat)
  | weak (hardLinks : Nat)
  | logging
  | blocking (timeout : Option Duration)
  | probe

/-- An operation of a probe that can be refused. -/
inductive Refusable where
  | put
  | get
  | remove
  | clear

/-- A step on a shared cache. -/
inductive CacheStep where
  | put (key : KeySpec) (value : Operand)
  | get (key : KeySpec) (hold : Option String)
  | remove (key : KeySpec)
  | clear
  | size
  | id
  | describe
  | contains (key : KeySpec)
  | capacity
  | setCapacity (n : Capacity)
  | lockCount
  | timeout
  | interrupt
  | stats
  | refuse (operation : Refusable) (cause : Option CacheFailure)
  | calls
  | commit
  | rollback
  | pending

/-- A step on a transaction over named caches. -/
inductive TransactionStep where
  | get (cache : String) (key : KeySpec) (hold : Option String)
  | put (cache : String) (key : KeySpec) (value : Operand)
  | clear (cache : String)
  | commit
  | rollback
  | count

/-- A step on a registry. -/
inductive RegistryStep where
  | provide (ns : String) (as : Option String)
  | find (ns : String) (as : Option String)
  | namespaces
  | profileOf (ns : String)
  | clearAll

/-- A step of a scenario. -/
inductive Step where
  | hold (as : String) (rows : List Row)
  | drop (name : String)
  | dropObject (name : String)
  | same (a b : String)
  | keysAgree (a b : KeySpec)
  | describe (name : String)
  | counters
  | stack (as id : String) (layers : List LayerSpec)
  | build (as id : String) (profile : Profile)
  | staged (as on : String)
  | transaction (as : String)
  | registry (as : String) (standard : Profile) (overrides : Table String Profile)
  | connect (as : String) (settings : SessionSettings)
  | plans (plans : Table String (List Plan))
  | onCache (name : String) (step : CacheStep)
  | onTransaction (name : String) (step : TransactionStep)
  | onRegistry (name : String) (step : RegistryStep)
  | onSession (name : String) (step : SessionStep)
  | join (thread : Nat)

/-- The name of the object on which a step works. -/
def Step.object? : Step → Option String
  | onCache name _ | onTransaction name _ | onRegistry name _ | onSession name _ => some name
  | _ => none

/-- An entry of a cache as an answer shows it: of reclaimable rows only those still alive. -/
inductive Shown where
  | absent
  | null
  | rows (rows : List Row)
  | reclaimable (rows : Option (List Row))

/-- The answer of a step. -/
inductive Answer where
  | ok
  | blocked
  | entry (e : Shown)
  | refused (f : CacheFailure)
  | failed (f : Failure)
  | truth (b : Bool)
  | number (n : Nat)
  | text (s : String)
  | texts (ss : List String)
  | time (d : Option Duration)
  | tally (t : Tally)
  | pending (p : Pending) (target : String)
  | counters (c : Counters)
  | key (k : Key)
  | outcome (rows : List Row) (params : List Parameter)
  | memory (m : Option Memory)
  | settings (s : SessionSettings)
  | profile (p : Profile)
  | found (id description : String) (same : Option Bool)
  | missing
  | unknown (name : String)

/-- What a runner and the targets of deferred loads report. -/
inductive LogEntry where
  | query (statement : String) (bound : Bound) (window : Window)
  | update (statement : String) (bound : Bound)
  | action (name : String) (answer : Answer)
  | load (label : String) (rows : List Row)

end QueryCache.Scenario
