import QueryCache.Proofs.Key
import QueryCache.Proofs.Session.Hall

/-!
# Sessions over a database

Sessions share one stack and one database, whose state queries read and updates replace.
Beside them stand sessions without caches, which ask the database every time. A run is
serial if transactions do not overlap and, where keys are locked, each of them stays on one
thread.
-/

namespace QueryCache

/-- What a query asks of a database. -/
structure Asked where
  statement : String
  window : Window
  sql : String
  values : List Value

namespace Asked

/-- The key of what is asked. -/
def key (a : Asked) (environment : Option String) : Key :=
  .ofQuery a.statement a.window a.sql a.values environment

/-- Keys of one environment tell apart what is asked. -/
theorem key_inj {a b : Asked} {environment : Option String} (ha : a.window.Signed)
    (hb : b.window.Signed) (h : a.key environment = b.key environment) : a = b := by
  obtain ⟨hstatement, hwindow, hsql, hvalues⟩ := Key.ofQuery_inj ha hb h
  cases a
  cases b
  simp only [mk.injEq]
  exact ⟨hstatement, hwindow, hsql, hvalues⟩

end Asked

/-- A database: the state that the open transaction sees, and the last durable one. -/
structure Database (δ : Type) where
  current : δ
  durable : δ

namespace Database

variable {δ : Type}

/-- Make the present state durable. -/
def commit (d : Database δ) : Database δ := { d with durable := d.current }

/-- Go back to the last durable state. -/
def rollback (d : Database δ) : Database δ := { d with current := d.durable }

end Database

/-- What a session is asked. The runner of a query gives its row list an identity and may
give values to parameters; that of an update replaces the state. -/
inductive Order (δ : Type) where
  | query (statement : Statement Unit) (bound : Bound) (window : Window) (id : RowsId)
      (outputs : Option Bag)
  | update (statement : Statement Unit) (change : δ → Except Failure Nat × δ)
  | commit
  | rollback
  | close (force : Bool)

/-- What a session answers. -/
inductive Answer where
  | rows (result : Except Failure (List Row))
  | count (result : Except Failure Nat)
  | ended (result : Except Failure Unit)
  deriving DecidableEq

/-- What the query asks. -/
def Bound.asked (b : Bound) (st : Statement Unit) (w : Window) : Asked :=
  ⟨st.id, w, b.sql, b.keyValues⟩

/-- A session is asked something by a caller. -/
structure House.Turn (ι δ : Type) where
  who : ι
  caller : Caller := {}
  order : Order δ

variable {ι δ : Type} [DecidableEq ι]

/-! ### With caches -/

/-- A scene of one of the sessions. -/
abbrev Room (δ : Type) (ls : List Layer) := Scene Unit (Stack.State ls) (Database δ)

/-- What a session sees. -/
def Customs.direct (u : Customs (Database δ)) (ls : List Layer) :
    Setting Unit (Stack.State ls) (Database δ) where
  cache _ := Stack.cache ls
  deliver := u.deliver
  keeps := u.keeps

/-- The end of a transaction in the database. A closed session has none to end. -/
def Room.ended {ls : List Layer} (f : Database δ → Database δ) (s : Room δ ls) : Room δ ls :=
  if s.session.closed then s else { s with client := f s.client }

/-- Carry out an order. -/
def Order.run (u : Customs (Database δ)) (read : δ → Asked → Except Failure (List Row))
    {ls : List Layer} (c : Caller) (s : Room δ ls) : Order δ → Run (Room δ ls) Answer
  | .query st b w id outputs =>
    (Scene.queryWith (u.direct ls)
      (fun d => .finish ((read d.current (b.asked st w)).map fun rows => ⟨⟨id, rows⟩, outputs⟩) d)
      ⟨st, b, w, none⟩ c s).mapReply (·.map fun o => .rows (o.result.map (·.rows)))
  | .update st change =>
    .done ((Scene.update (u.direct ls)
      (fun d => ((change d.current).1, { d with current := (change d.current).2 })) st s).map
      .count)
  | .commit => .done ((Scene.commit (u.direct ls) c (Room.ended Database.commit s)).map .ended)
  | .rollback =>
    .done ((Scene.rollback (u.direct ls) c (Room.ended Database.rollback s)).map fun _ =>
      .ended (.ok ()))
  | .close force =>
    .done ((Scene.close (u.direct ls) force c
      (Room.ended (if force then Database.rollback else Database.commit) s)).map .ended)

/-- Sessions over one stack and one database. -/
structure House (ι δ : Type) (ls : List Layer) where
  sessions : ι → Session Unit
  shared : Stack.State ls
  database : Database δ

namespace House

variable {ls : List Layer}

/-- The scene of a session. -/
def room (h : House ι δ ls) (i : ι) : Room δ ls := ⟨h.sessions i, h.shared, h.database⟩

/-- Put back the scene of a session. -/
def settle (h : House ι δ ls) (i : ι) (s : Room δ ls) : House ι δ ls :=
  ⟨Function.update h.sessions i s.session, s.shared, s.client⟩

/-- What a session answers; nothing as long as it has to wait. -/
def answer (u : Customs (Database δ)) (read : δ → Asked → Except Failure (List Row))
    (h : House ι δ ls) (t : Turn ι δ) : Option Answer :=
  (t.order.run u read t.caller (h.room t.who)).reply?.map (·.value)

/-- The state in which a session has answered. -/
def turn (u : Customs (Database δ)) (read : δ → Asked → Except Failure (List Row))
    (h : House ι δ ls) (t : Turn ι δ) : House ι δ ls :=
  h.settle t.who (t.order.run u read t.caller (h.room t.who)).state

/-- The state after turns, in order. -/
def run (u : Customs (Database δ)) (read : δ → Asked → Except Failure (List Row))
    (h : House ι δ ls) (turns : List (Turn ι δ)) : House ι δ ls :=
  turns.foldl (turn u read) h

/-- New sessions over a stack that nobody has used. -/
def opened (settings : ι → SessionSettings) (stack : Stack.State ls) (d : δ) : House ι δ ls where
  sessions i := { settings := settings i }
  shared := stack
  database := ⟨d, d⟩

end House

/-! ### Without caches -/

/-- Sessions that ask the database every time: which of them are closed, and which one has a
transaction open, with the thread of its last call. -/
structure Direct (ι δ : Type) where
  database : Database δ
  closed : ι → Bool := fun _ => false
  busy : Option (ι × Nat) := none

namespace Direct

/-- What a session answers. -/
def answer (read : δ → Asked → Except Failure (List Row)) (d : Direct ι δ) (t : House.Turn ι δ) :
    Answer :=
  match d.closed t.who, t.order with
  | true, .query .. => .rows (.error .closed)
  | true, .update .. => .count (.error .closed)
  | true, .commit => .ended (.error .closed)
  | false, .query st b w _ _ => .rows (read d.database.current (b.asked st w))
  | false, .update _ change => .count (change d.database.current).1
  | _, _ => .ended (.ok ())

omit [DecidableEq ι] in
/-- What an open session answers. -/
theorem answer_of_open (read : δ → Asked → Except Failure (List Row)) {d : Direct ι δ}
    {t : House.Turn ι δ} (h : d.closed t.who = false) :
    d.answer read t =
      match t.order with
      | .query st b w _ _ => .rows (read d.database.current (b.asked st w))
      | .update _ change => .count (change d.database.current).1
      | _ => .ended (.ok ()) := by
  unfold answer
  rw [h]
  cases t.order <;> rfl

/-- The state in which an open session has answered. -/
def turnOpen (d : Direct ι δ) (t : House.Turn ι δ) : Direct ι δ :=
  match t.order with
  | .query .. => { d with busy := some (t.who, t.caller.thread) }
  | .update _ change =>
    { d with
      database := { d.database with current := (change d.database.current).2 }
      busy := some (t.who, t.caller.thread) }
  | .commit => { d with database := d.database.commit, busy := none }
  | .rollback => { d with database := d.database.rollback, busy := none }
  | .close force =>
    { database := if force then d.database.rollback else d.database.commit
      closed := Function.update d.closed t.who true
      busy := none }

/-- The state in which a session has answered. A closed session changes nothing. -/
def turn (d : Direct ι δ) (t : House.Turn ι δ) : Direct ι δ :=
  if d.closed t.who then d else d.turnOpen t

/-- The state after turns, in order. -/
def run (d : Direct ι δ) (turns : List (House.Turn ι δ)) : Direct ι δ := turns.foldl turn d

/-- Whether a session may act: it is closed, or no transaction is open but its own. Where
keys are locked the transaction stays on its thread. -/
def admits (blocking : Bool) (d : Direct ι δ) (t : House.Turn ι δ) : Bool :=
  d.closed t.who ||
    match d.busy with
    | none => true
    | some (i, thread) => i = t.who && (!blocking || thread = t.caller.thread)

/-- Whether transactions do not overlap. -/
def serial (blocking : Bool) : Direct ι δ → List (House.Turn ι δ) → Bool
  | _, [] => true
  | d, t :: rest => d.admits blocking t && serial blocking (d.turn t) rest

/-- A run with one more turn. -/
theorem serial_append (blocking : Bool) (d : Direct ι δ) (turns : List (House.Turn ι δ))
    (t : House.Turn ι δ) :
    d.serial blocking (turns ++ [t]) =
      (d.serial blocking turns && (d.run turns).admits blocking t) := by
  induction turns generalizing d with
  | nil => exact Bool.and_true _
  | cons t' rest ih =>
    rw [List.cons_append, serial, serial, ih, Bool.and_assoc]
    rfl

end Direct

/-- Whether a query that asks for values in its parameters would go through the stack. -/
def Request.refused (r : Request Unit) : Bool :=
  r.statement.useCache && r.statement.cache.isSome && r.statement.isCallable && r.bound.hasOutput

/-- The statement of a query that is refused in this way. -/
def Order.refused? : Order δ → Option String
  | .query st b w _ _ => if Request.refused ⟨st, b, w, none⟩ then some st.id else none
  | _ => none

/-- An update flushes the stack, and the windows of queries are in the signed range. -/
def Order.Proper : Order δ → Prop
  | .query _ _ w _ _ => w.Signed
  | .update st _ => st.flush = true ∧ st.cache = some ()
  | _ => True

instance : (o : Order δ) → Decidable o.Proper
  | .query _ _ w _ _ => inferInstanceAs (Decidable w.Signed)
  | .update st _ => inferInstanceAs (Decidable (st.flush = true ∧ st.cache = some ()))
  | .commit => .isTrue True.intro
  | .rollback => .isTrue True.intro
  | .close _ => .isTrue True.intro

end QueryCache
