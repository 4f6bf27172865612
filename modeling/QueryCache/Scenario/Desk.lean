import QueryCache.Scenario.Step

/-!
# The client of a scenario

The client's side of a scenario: the row lists held under names, the keys kept under names,
the plans of the statement runner, and what was reported since the last answer. A runner
follows the next plan of its statement; the last plan repeats.
-/

namespace QueryCache.Scenario

/-- The client's state; `answer` is what the last step of a session came to. -/
structure Desk where
  supply : RowsId := 0
  answer : Answer := .ok
  held : Table String RowList := Table.empty
  keys : Table String Key := Table.empty
  plans : Table String (List Plan) := Table.empty
  log : List LogEntry := []

namespace Desk

/-- Whether a held name keeps a row list alive. -/
def holds (d : Desk) (id : RowsId) : Bool := d.held.values.any (·.id == id)

/-- A new row list. -/
def list (d : Desk) (rows : List Row) : RowList × Desk :=
  (⟨d.supply, rows⟩, { d with supply := d.supply + 1 })

/-- Hold a row list under a name, if one is given. -/
def hold (d : Desk) (name : Option String) (list : RowList) : Desk :=
  match name with
  | some n => { d with held := d.held.insert n list }
  | none => d

/-- Report something. -/
def say (d : Desk) (e : LogEntry) : Desk := { d with log := d.log ++ [e] }

/-- The key that is meant. -/
def key? (d : Desk) : KeySpec → Option Key
  | .components vs => some (.ofComponents vs)
  | .named n => d.keys.get? n

/-- Take the next plan of a statement. -/
def take (d : Desk) (statement : String) : Plan × Desk :=
  match d.plans.get? statement with
  | none | some [] => ({}, d)
  | some [p] => (p, d)
  | some (p :: rest) => (p, { d with plans := d.plans.insert statement rest })

/-- The entry that is meant; new rows become a new list. -/
def entry? (d : Desk) : Operand → Option (Entry × Desk)
  | .null => some (.null, d)
  | .rows rows =>
    let (list, d) := d.list rows
    some (.rows list, d)
  | .held n => (d.held.get? n).map fun list => (.rows list, d)
  | .weak n => (d.held.get? n).map fun list => (.reclaimable list, d)

end Desk

/-- A statement with its cache looked up. -/
def StatementSpec.resolve (names : Table String Ref) (s : StatementSpec) : Statement Ref :=
  let base : Statement Ref := .ofCommand s.id s.command
  { base with
    protocol := s.protocol.getD base.protocol
    cache := s.cache.bind names.get?
    useCache := s.useCache.getD base.useCache
    flush := s.flush.getD base.flush }

/-- The request of a query step. A key that is not known answers nothing. -/
def QuerySpec.resolve (names : Table String Ref) (d : Desk) (q : QuerySpec) :
    Option (Request Ref) :=
  let request (k : Option Key) : Request Ref :=
    { statement := q.statement.resolve names, bound := q.bound, window := q.window, key? := k }
  match q.key with
  | none => some (request none)
  | some spec => (d.key? spec).map fun k => request (some k)

/-- The runner's part in a statement that changes data. -/
def runUpdate (statement : String) (b : Bound) (d : Desk) : Except Failure Nat × Desk :=
  let (plan, d) := (d.say (.update statement b)).take statement
  match plan.failure with
  | some f => (.error f, d)
  | none => (.ok plan.affected, d)

private def outcomeAnswer (o : Outcome) : Answer :=
  match o.result with
  | .ok list => .outcome list.rows o.bound.params
  | .error f => .failed f

private def holdOutcome (hold : Option String) (o : Outcome) (d : Desk) : Desk :=
  match o.result with
  | .ok list => d.hold hold list
  | .error _ => d

private def unitAnswer : Except Failure Unit → Answer
  | .ok () => .ok
  | .error f => .failed f

private def countAnswer : Except Failure Nat → Answer
  | .ok n => .number n
  | .error f => .failed f

private def isFailure : Answer → Option Failure
  | .failed f => some f
  | _ => none

/-- The conversation of one session step, with a continuation that takes its answer. The
runner of a nested query is given. -/
def SessionStep.talk (names : Table String Ref)
    (runner : Request Ref → Desk → Talk Ref Desk) (step : SessionStep) (d : Desk)
    (next : Answer → Desk → Talk Ref Desk) : Talk Ref Desk :=
  let withKey (spec : KeySpec) (f : Key → Talk Ref Desk) : Talk Ref Desk :=
    match d.key? spec with
    | some k => f k
    | none => next (.unknown "key") d
  match step with
  | .query q =>
    match q.resolve names d with
    | none => next (.unknown "key") d
    | some request =>
      .query request d (runner request) fun o d =>
        next (outcomeAnswer o) (holdOutcome q.hold o d)
  | .update st b =>
    let st := st.resolve names
    .update st d (runUpdate st.id b) fun r d => next (countAnswer r) d
  | .makeKey st b w name =>
    .look d fun x d =>
      match x.keyOf (st.resolve names) b w with
      | .error f => next (.failed f) d
      | .ok k =>
        next (.key k) (match name with
          | some n => { d with keys := d.keys.insert n k }
          | none => d)
  | .defer spec label =>
    withKey spec fun k => .act (.defer ⟨k, label⟩) d fun r d => next (unitAnswer r) d
  | .isCached spec =>
    withKey spec fun k => .look d fun x d => next (.truth (x.memo.lookup k).isSome) d
  | .lookup spec hold =>
    withKey spec fun k => .look d fun x d =>
      let m := x.memo.lookup k
      next (.memory m) (match m with
        | some (.resolved list) => d.hold hold list
        | _ => d)
  | .store spec value =>
    withKey spec fun k =>
      match d.entry? value with
      | some (.rows list, d) => .act (.store k list) d fun r d => next (unitAnswer r) d
      | _ => next (.unknown "rows") d
  | .clearMemo => .act .clearMemo d fun r d => next (unitAnswer r) d
  | .memoSize => .look d fun x d => next (.number x.memo.size) d
  | .deferredCount => .look d fun x d => next (.number x.deferred.length) d
  | .commit => .act .commit d fun r d => next (unitAnswer r) d
  | .rollback => .act .rollback d fun r d => next (unitAnswer r) d
  | .close force => .act (.close force) d fun r d => next (unitAnswer r) d
  | .isClosed => .look d fun x d => next (.truth x.closed) d
  | .settings => .look d fun x d => next (.settings x.settings) d

private def followPlan (names : Table String Ref) (runner : Request Ref → Desk → Talk Ref Desk)
    (plan : Plan) : List Action → Desk → Talk Ref Desk
  | [], d =>
    match plan.failure with
    | some f => .finish (.error f) d
    | none =>
      let (list, d) := d.list plan.rows
      .finish (.ok { rows := list, outputs := plan.outputs }) d
  | a :: rest, d =>
    a.step.talk names runner d fun answer d =>
      let d := d.say (.action a.name answer)
      match isFailure answer with
      | some f =>
        if a.propagate then .finish (.error f) d else followPlan names runner plan rest d
      | none => followPlan names runner plan rest d

/-- The conversation of the planned runner. Queries may nest as deep as the given number. -/
def runQuery (names : Table String Ref) : Nat → Request Ref → Desk → Talk Ref Desk
  | 0, _, d => .finish (.error (.query "queries are nested too deeply")) d
  | fuel + 1, r, d =>
    let d := d.say (.query r.statement.id r.bound r.window)
    let (plan, d) := d.take r.statement.id
    followPlan names (runQuery names fuel) plan plan.actions d

/-- How deep planned queries may nest. -/
def nestingLimit : Nat := 10000

/-- The world around a scenario's sessions. -/
def setting : Setting Ref Shared Desk where
  cache := Shared.cache
  deliver label list d := d.say (.load label list.rows)
  keeps := Desk.holds

end QueryCache.Scenario
