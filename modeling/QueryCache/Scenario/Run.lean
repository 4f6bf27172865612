import QueryCache.Scenario.Effect

/-!
# Running a scenario

A scenario is a list of steps, each on its thread. A step that meets a lock waits until the
lock is free, the waiting is interrupted or its time limit has come. A spawned step that
still waits after a grace period is left behind and the scenario goes on; it ends when what
it waits for comes, and a later join gives its answer. Time passes only while a step waits.

As long as a spawned step has not been joined, reports are gathered; the answer after the
last join carries them all.
-/

namespace QueryCache.Scenario

/-- A step with its thread, and whether to leave it behind when it waits. -/
structure Turn where
  step : Step
  thread : Nat := 0
  spawn : Bool := false

/-- What a turn gives: the answer, and, when no step is left behind, what was reported and
the state of the watched objects. -/
structure Result where
  answer : Answer
  log : List LogEntry := []
  reports : List Report := []
  watched : List (String × String) := []

/-- A step that waits: its thread, the number of the object on which it is at work, and how it
goes on. -/
structure Waiting where
  thread : Nat
  object : Option Nat
  run : Run World Answer

/-- A scenario under way: the world, the clock, the steps that wait, the answers that wait to
be joined, the threads left behind, and what has been reported. -/
structure Stage where
  world : World := {}
  now : Nat := 0
  waiting : List Waiting := []
  ended : Table Nat Answer := Table.empty
  spawned : List Nat := []
  spans : Table Nat (List String) := Table.empty
  reports : List Report := []
  counters : Counters := {}

/-- How long a spawned step may wait before it is left behind. -/
def grace : Duration := .ofMillis 100

namespace Stage

private def callerOf (s : Stage) (thread : Nat) : Caller := { thread, now := s.now }

private def report (s : Stage) (thread : Nat) (notes : List Note) : Stage :=
  let (reports, spans) := Report.ofNotes notes ((s.spans.get? thread).getD [])
  { s with
    spans := s.spans.insert thread spans
    reports := s.reports ++ reports
    counters := s.counters.addNotes notes }

/-- Take over what a run has come to. -/
private def absorb (s : Stage) (thread : Nat) (r : Run World Answer) : Stage :=
  { s with world := r.state }.report thread r.notes

/-- Go on with a run as far as it can go now. -/
private def advance (thread : Nat) : Run World Answer → Stage → Stage × Run World Answer
  | .done r, s => (s.absorb thread (.done r), .done r)
  | .wait d w n ready resume, s =>
    let s := s.absorb thread (.wait d w n ready resume)
    if h : ready (s.callerOf thread) s.world = true then
      advance thread (resume (s.callerOf thread) s.world h) s
    else (s, .wait d w [] ready resume)

private def retry (thread : Nat) (run : Run World Answer) (s : Stage) :
    Stage × Run World Answer :=
  match run with
  | .done r => (s, .done r)
  | .wait d w n ready resume =>
    if h : ready (s.callerOf thread) s.world = true then
      advance thread (resume (s.callerOf thread) s.world h) s
    else (s, .wait d w n ready resume)

/-- Let every waiting step go on that can, in the order in which they came to wait. -/
private def settleOnce (s : Stage) : Stage :=
  s.waiting.foldl
    (fun s (e : Waiting) =>
      let (s, run) := retry e.thread e.run s
      match run with
      | .done r => { s with ended := s.ended.insert e.thread r.value }
      | .wait .. => { s with waiting := s.waiting ++ [{ e with run }] })
    { s with waiting := [] }

private def settle : Nat → Stage → Stage
  | 0, s => s
  | fuel + 1, s =>
    let s' := s.settleOnce
    if s'.waiting.length < s.waiting.length then settle fuel s' else s'

private def deadlineOf : Run World Answer → Option Nat
  | .done _ => none
  | .wait d .. => d

/-- Let time pass until a moment; waiting steps whose time limit comes go on. -/
private def passUntil (moment : Nat) : Nat → Stage → Stage
  | 0, s => { s with now := max s.now moment }
  | fuel + 1, s =>
    let next := (s.waiting.filterMap fun e => deadlineOf e.run).filter (· ≤ moment) |>.min?
    match next with
    | none => { s with now := max s.now moment }
    | some d => passUntil moment fuel (({ s with now := max s.now d }).settle s.waiting.length)

/-- Wait for the step of a thread. A step that nothing will ever wake is given up. -/
private def await (thread : Nat) : Nat → Stage → Stage × Answer
  | 0, s => (s, .blocked)
  | fuel + 1, s =>
    match s.ended.get? thread with
    | some a => ({ s with ended := s.ended.erase thread }, a)
    | none =>
      match (s.waiting.filterMap fun e => deadlineOf e.run).min? with
      | none => (s, .blocked)
      | some d => await thread fuel (s.passUntil d (s.waiting.length + 1))

private def perform (t : Turn) (s : Stage) : Stage × Answer :=
  match t.step with
  | .join thread =>
    let s := { s with spawned := s.spawned.erase thread }
    s.await thread (s.waiting.length + 1)
  | step =>
    let object := step.object?.bind s.world.number?
    let (s, run) := advance t.thread (World.step step (s.callerOf t.thread) s.counters s.world) s
    match run with
    | .done r => (s.settle s.waiting.length, r.value)
    | .wait .. =>
      let e : Waiting := { thread := t.thread, object, run }
      let s := { s with waiting := s.waiting ++ [e] }.settle (s.waiting.length + 1)
      if t.spawn then
        let s := s.passUntil (s.now + grace.nanos) (s.waiting.length + 1)
        match s.ended.get? t.thread with
        | some a => ({ s with ended := s.ended.erase t.thread }, a)
        | none => ({ s with spawned := s.spawned ++ [t.thread] }, .blocked)
      else s.await t.thread (s.waiting.length + 1)

/-- Let go of what nothing refers to any more. -/
def collect (s : Stage) : Stage :=
  { s with world := s.world.collect (s.waiting.filterMap (·.object)) }

/-- Take one turn. -/
def turn (watch : List String) (t : Turn) (s : Stage) : Stage × Result :=
  let (s, answer) := s.perform t
  let s := s.collect
  if s.spawned.isEmpty then
    let watched := watch.filterMap fun name => (s.world.describe? name).map fun text => (name, text)
    let result : Result := { answer, log := s.world.desk.log, reports := s.reports, watched }
    let world := { s.world with desk := { s.world.desk with log := [] } }
    ({ s with world, reports := [] }, result)
  else (s, { answer })

end Stage

/-- The results of a scenario, turn by turn. -/
def results (watch : List String) (turns : List Turn) : List Result :=
  go turns {}
where
  go : List Turn → Stage → List Result
    | [], _ => []
    | t :: rest, s =>
      let (s, r) := s.turn watch t
      r :: go rest s

end QueryCache.Scenario
