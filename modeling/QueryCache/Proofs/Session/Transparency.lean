import QueryCache.Proofs.Session.Upright

/-!
# Caching changes no answer

In a serial run every session answers what it would answer if it asked the database every
time, be the stack built for any profile, and whichever row lists it lets go of. The one
exception are the queries that are refused because they return values in their parameters.
-/

namespace QueryCache

variable {ι δ : Type} [DecidableEq ι]

namespace House

/-- Sessions with caches go along with sessions without: the one with an open transaction has
the right rows, and all others have none. -/
structure Tracks (read : δ → Asked → Except Failure (List Row)) (environment : Option String)
    (name : String) {ls : List Layer} (h : House ι δ ls) (d : Direct ι δ) : Prop where
  database : h.database = d.database
  closed : ∀ i, (h.sessions i).closed = d.closed i
  resting : ∀ i, (∀ thread, d.busy ≠ some (i, thread)) →
    Room.Resting environment name (h.sessions i)
  idle : d.busy = none → Room.Settled read environment name h.shared h.database
  busy : ∀ i thread, d.busy = some (i, thread) →
    Room.Upright read environment name thread (h.room i) ∧ (h.sessions i).depth = 0

variable {read : δ → Asked → Except Failure (List Row)} {environment : Option String}
  {name : String} {ls : List Layer} {h : House ι δ ls} {d : Direct ι δ}
  (u : Customs (Database δ))

theorem sessions_settle_self (h : House ι δ ls) (i : ι) (s : Room δ ls) :
    (h.settle i s).sessions i = s.session := by
  rw [settle]
  dsimp only
  rw [Function.update_self]

theorem sessions_settle_of_ne (h : House ι δ ls) {i j : ι} (hj : j ≠ i) (s : Room δ ls) :
    (h.settle i s).sessions j = h.sessions j := by
  rw [settle]
  dsimp only
  rw [Function.update_of_ne hj]

theorem room_settle_self (h : House ι δ ls) (i : ι) (s : Room δ ls) :
    (h.settle i s).room i = s := by
  rw [room, sessions_settle_self]
  rfl

/-- Putting back the scene of a session as it is changes nothing. -/
theorem settle_room (h : House ι δ ls) (i : ι) : h.settle i (h.room i) = h := by
  rw [settle, room, Function.update_eq_self]

/-- An open session may act: it has the right rows, and no other session has a transaction
open. -/
structure Acting (read : δ → Asked → Except Failure (List Row)) (environment : Option String)
    (name : String) {ls : List Layer} (h : House ι δ ls) (d : Direct ι δ) (who : ι)
    (caller : Caller) : Prop where
  opened : d.closed who = false
  alone : ∀ i thread, d.busy = some (i, thread) → i = who
  upright : Room.Upright read environment name caller.thread (h.room who)
  depth : (h.room who).session.depth = 0

section

variable {who : ι} {caller : Caller} (ht : h.Tracks read environment name d)
  (ha : h.Acting read environment name d who caller)

include ht ha

/-- The transaction of a session goes on. -/
theorem Tracks.go_on {s : Room δ ls}
    (hup : Room.Upright read environment name caller.thread s) (hdepth : s.session.depth = 0) :
    (h.settle who s).Tracks read environment name
      { d with database := s.client, busy := some (who, caller.thread) } := by
  refine ⟨rfl, ?_, ?_, nofun, ?_⟩
  · intro j
    by_cases hj : j = who
    · subst hj
      rw [sessions_settle_self, hup.closed, ha.opened]
    · rw [sessions_settle_of_ne h hj]
      exact ht.closed j
  · intro j hidle
    have hj : j ≠ who := by
      rintro rfl
      exact hidle caller.thread rfl
    rw [sessions_settle_of_ne h hj]
    exact ht.resting j fun thread hb => hj (ha.alone j thread hb)
  · intro j thread hb
    injection hb with hb
    injection hb with hi hthread
    subst hi hthread
    rw [room_settle_self, sessions_settle_self]
    exact ⟨hup, hdepth⟩

/-- The transaction of a session ends. -/
theorem Tracks.ended {s : Room δ ls} {closed : Bool}
    (hrest : Room.Resting environment name s.session) (hclosed : s.session.closed = closed)
    (hset : Room.Settled read environment name s.shared s.client) :
    (h.settle who s).Tracks read environment name
      { database := s.client, closed := Function.update d.closed who closed, busy := none } := by
  refine ⟨rfl, ?_, ?_, fun _ => hset, nofun⟩
  · intro j
    by_cases hj : j = who
    · subst hj
      rw [sessions_settle_self, hclosed]
      exact (Function.update_self j closed d.closed).symm
    · rw [sessions_settle_of_ne h hj]
      exact (ht.closed j).trans (Function.update_of_ne hj closed d.closed).symm
  · intro j _
    by_cases hj : j = who
    · subst hj
      rw [sessions_settle_self]
      exact hrest
    · rw [sessions_settle_of_ne h hj]
      exact ht.resting j fun thread hb => hj (ha.alone j thread hb)

/-- The transaction of a session ends, and the session stays open. -/
theorem Tracks.ended_open {s : Room δ ls} (hrest : Room.Resting environment name s.session)
    (hclosed : s.session.closed = false)
    (hset : Room.Settled read environment name s.shared s.client) :
    (h.settle who s).Tracks read environment name
      { d with database := s.client, busy := none } := by
  have hended := ht.ended ha hrest hclosed hset
  have hkept : Function.update d.closed who false = d.closed := by
    rw [← ha.opened]
    exact Function.update_eq_self who d.closed
  rw [hkept] at hended
  exact hended

end

/-- A closed session answers what a closed session answers, and does nothing. -/
theorem Tracks.turn_closed (ht : h.Tracks read environment name d) {t : Turn ι δ}
    (hc : d.closed t.who = true) :
    h.turn u read t = h ∧ h.answer u read t = some (d.answer read t) := by
  have hclosed : (h.room t.who).session.closed = true := (ht.closed t.who).trans hc
  have hsame := settle_room h t.who
  unfold turn answer Direct.answer
  rw [hc]
  generalize h.room t.who = s at hclosed hsame
  cases t.order with
  | query st b w id outputs =>
    simp only [Order.run, Scene.queryWith, Scene.query, hclosed, if_true, Run.mapReply]
    exact ⟨hsame, rfl⟩
  | update st change =>
    simp only [Order.run, Scene.update, hclosed, if_true]
    exact ⟨hsame, rfl⟩
  | commit =>
    simp only [Order.run, Scene.commit, Room.ended, hclosed, if_true]
    exact ⟨hsame, rfl⟩
  | rollback =>
    simp only [Order.run, Scene.rollback, Room.ended, hclosed, if_true]
    exact ⟨hsame, rfl⟩
  | close force =>
    simp only [Order.run, Scene.close, Room.ended, hclosed, if_true]
    exact ⟨hsame, rfl⟩

section

variable (hp : .probe ∉ ls) (hb : .blocking ∉ ls.tail)

include hp hb

/-- A session that is open and admitted may act. -/
theorem Tracks.admitted {blocking : Bool}
    (hfree : blocking = false → ∀ thread keys s, Stack.LockedBy ls thread keys s)
    (ht : h.Tracks read environment name d) {t : Turn ι δ} (hopen : d.closed t.who = false)
    (hadmits : d.admits blocking t = true) :
    h.Acting read environment name d t.who t.caller := by
  rw [Direct.admits, hopen, Bool.false_or] at hadmits
  cases hbusy : d.busy with
  | none =>
    have hrest := ht.resting t.who fun thread hb => nomatch hbusy.symm.trans hb
    refine ⟨hopen, fun j thread hj => (nomatch hbusy.symm.trans hj), ?_, hrest.depth⟩
    exact hrest.upright hp hb (ht.idle hbusy) ((ht.closed t.who).trans hopen) _
  | some owner =>
    obtain ⟨i, thread⟩ := owner
    rw [hbusy] at hadmits
    dsimp only at hadmits
    rw [Bool.and_eq_true, decide_eq_true_iff] at hadmits
    obtain ⟨rfl, hthread⟩ := hadmits
    obtain ⟨hup, hdepth⟩ := ht.busy _ _ hbusy
    refine ⟨hopen, ?_, ?_, hdepth⟩
    · intro j thread' hj
      have hj := hbusy.symm.trans hj
      injection hj with hj
      injection hj with hj _
      exact hj.symm
    · cases hblocking : blocking with
      | true =>
        rw [hblocking, Bool.not_true, Bool.false_or, decide_eq_true_iff] at hthread
        exact hthread ▸ hup
      | false => exact { hup with locked := hfree hblocking _ _ _ }

section

variable {who : ι} {caller : Caller} (ht : h.Tracks read environment name d)
  (ha : h.Acting read environment name d who caller)

include ht ha

/-- A query has the rows of the present state, unless it is refused. -/
theorem Tracks.turn_query {st : Statement Unit} {b : Bound} {w : Window} {id : RowsId}
    {outputs : Option Bag} (hw : w.Signed) :
    (h.turn u read ⟨who, caller, .query st b w id outputs⟩).Tracks read environment name
        { d with busy := some (who, caller.thread) } ∧
      (h.answer u read ⟨who, caller, .query st b w id outputs⟩ =
          some (.rows (read d.database.current (b.asked st w))) ∨
        Request.refused ⟨st, b, w, none⟩ = true ∧
          h.answer u read ⟨who, caller, .query st b w id outputs⟩ =
            some (.rows (.error (.outParamsNotCacheable st.id)))) := by
  have hdatabase : (h.room who).client = d.database := ht.database
  have hrunner (c : Caller) (s : Room δ ls) : Scene.converse (u.direct ls) (.finish
      ((read s.client.current (b.asked st w)).map fun rows => ⟨⟨id, rows⟩, outputs⟩)
      s.client) c s =
        .done ⟨(read s.client.current (b.asked st w)).map fun rows => ⟨⟨id, rows⟩, outputs⟩,
          s, []⟩ := rfl
  obtain ⟨r, hr, hup, hdepth, hclient, hresult⟩ :=
    (ha.upright.query u hrunner hp hb ha.depth rfl hw).done
  have hgoes := ht.go_on ha hup (hdepth.trans ha.depth)
  rw [hclient, hdatabase] at hgoes
  simp only [turn, answer, Order.run, Scene.queryWith, hr, Run.mapReply, Run.state, Run.reply?,
    Reply.map, Option.map_some]
  refine ⟨hgoes, ?_⟩
  rcases hresult with hresult | ⟨hrefused, hresult⟩
  · rw [hresult, hdatabase]
    exact .inl rfl
  · rw [hresult]
    exact .inr ⟨hrefused, rfl⟩

omit hp hb in
/-- An update replaces the present state. -/
theorem Tracks.turn_update {st : Statement Unit} {change : δ → Except Failure Nat × δ}
    (hst : st.flush = true ∧ st.cache = some ()) :
    (h.turn u read ⟨who, caller, .update st change⟩).Tracks read environment name
        (d.turnOpen ⟨who, caller, .update st change⟩) ∧
      h.answer u read ⟨who, caller, .update st change⟩ =
        some (.count (change d.database.current).1) := by
  have hdatabase : (h.room who).client = d.database := ht.database
  obtain ⟨hup, hdepth, hclient, hvalue⟩ := ha.upright.update u hst
    (fun d => ((change d.current).1, { d with current := (change d.current).2 })) rfl
  have hgoes := ht.go_on ha hup (hdepth.trans ha.depth)
  rw [hclient, hdatabase] at hgoes
  rw [hdatabase] at hvalue
  refine ⟨hgoes, ?_⟩
  simp only [answer, Order.run, Run.reply?, Reply.map, Option.map_some, hvalue]

/-- A commit makes the present state durable. -/
theorem Tracks.turn_commit :
    (h.turn u read ⟨who, caller, .commit⟩).Tracks read environment name
        (d.turnOpen ⟨who, caller, .commit⟩) ∧
      h.answer u read ⟨who, caller, .commit⟩ = some (.ended (.ok ())) := by
  have hdatabase : (h.room who).client = d.database := ht.database
  obtain ⟨r, hr, hvalue, hrest, hclosed, hclient, hset⟩ := ha.upright.commit u hp hb ha.depth
  have hended := ht.ended_open ha hrest hclosed (hclient ▸ hset)
  rw [hclient, hdatabase] at hended
  simp only [turn, answer, Order.run, Run.state, Run.reply?, Reply.map, Option.map_some, hr,
    hvalue, and_true]
  exact hended

/-- A rollback goes back to the last durable state. -/
theorem Tracks.turn_rollback :
    (h.turn u read ⟨who, caller, .rollback⟩).Tracks read environment name
        (d.turnOpen ⟨who, caller, .rollback⟩) ∧
      h.answer u read ⟨who, caller, .rollback⟩ = some (.ended (.ok ())) := by
  have hdatabase : (h.room who).client = d.database := ht.database
  obtain ⟨r, hr, hrest, hclosed, hclient, hset⟩ := ha.upright.rollback u hp hb ha.depth
  have hended := ht.ended_open ha hrest hclosed (hclient ▸ hset)
  rw [hclient, hdatabase] at hended
  simp only [turn, answer, Order.run, Run.state, Run.reply?, Reply.map, Option.map_some, hr,
    and_true]
  exact hended

/-- A session is closed after a last commit or rollback. -/
theorem Tracks.turn_close (force : Bool) :
    (h.turn u read ⟨who, caller, .close force⟩).Tracks read environment name
        (d.turnOpen ⟨who, caller, .close force⟩) ∧
      h.answer u read ⟨who, caller, .close force⟩ = some (.ended (.ok ())) := by
  have hdatabase : (h.room who).client = d.database := ht.database
  obtain ⟨r, hr, hvalue, hrest, hclosed, hclient, hset⟩ :=
    ha.upright.close u hp hb ha.depth force
  have hended := ht.ended ha hrest hclosed (hclient ▸ hset)
  rw [hclient, hdatabase] at hended
  simp only [turn, answer, Order.run, Run.state, Run.reply?, Reply.map, Option.map_some, hr,
    hvalue, and_true]
  cases force with
  | true => exact hended
  | false => exact hended

/-- An open session that may act answers what it would answer without caches. -/
theorem Tracks.turn_open {order : Order δ} (hproper : order.Proper) :
    (h.turn u read ⟨who, caller, order⟩).Tracks read environment name
        (d.turnOpen ⟨who, caller, order⟩) ∧
      (h.answer u read ⟨who, caller, order⟩ = some (d.answer read ⟨who, caller, order⟩) ∨
        ∃ id, order.refused? = some id ∧
          h.answer u read ⟨who, caller, order⟩ =
            some (.rows (.error (.outParamsNotCacheable id)))) := by
  rw [Direct.answer_of_open read (t := ⟨who, caller, order⟩) ha.opened]
  cases order with
  | query st b w id outputs =>
    obtain ⟨htracks, hanswer⟩ := ht.turn_query u hp hb ha hproper
    refine ⟨htracks, hanswer.imp_right ?_⟩
    rintro ⟨hrefused, hanswer⟩
    exact ⟨st.id, if_pos hrefused, hanswer⟩
  | update st change => exact (ht.turn_update u ha hproper).imp_right .inl
  | commit => exact (ht.turn_commit u hp hb ha).imp_right .inl
  | rollback => exact (ht.turn_rollback u hp hb ha).imp_right .inl
  | close force => exact (ht.turn_close u hp hb ha force).imp_right .inl

end

/-- A session that may act answers what it would answer without caches. -/
theorem Tracks.turn {blocking : Bool}
    (hfree : blocking = false → ∀ thread keys s, Stack.LockedBy ls thread keys s)
    (ht : h.Tracks read environment name d) {t : Turn ι δ} (hproper : t.order.Proper)
    (hadmits : d.admits blocking t = true) :
    (h.turn u read t).Tracks read environment name (d.turn t) ∧
      (h.answer u read t = some (d.answer read t) ∨
        ∃ id, t.order.refused? = some id ∧
          h.answer u read t = some (.rows (.error (.outParamsNotCacheable id)))) := by
  cases hc : d.closed t.who with
  | true =>
    obtain ⟨hsame, hanswer⟩ := ht.turn_closed u hc
    rw [hsame, Direct.turn, if_pos hc]
    exact ⟨ht, .inl hanswer⟩
  | false =>
    rw [Direct.turn, if_neg (Bool.eq_false_iff.mp hc)]
    exact ht.turn_open u hp hb (ht.admitted hp hb hfree hc hadmits) hproper

/-- Sessions with caches go along with sessions without as long as the run is serial. -/
theorem Tracks.run {blocking : Bool}
    (hfree : blocking = false → ∀ thread keys s, Stack.LockedBy ls thread keys s)
    {turns : List (Turn ι δ)} (ht : h.Tracks read environment name d)
    (hproper : ∀ t ∈ turns, t.order.Proper) (hserial : d.serial blocking turns = true) :
    (h.run u read turns).Tracks read environment name (d.run turns) := by
  induction turns generalizing h d with
  | nil => exact ht
  | cons t rest ih =>
    rw [Direct.serial, Bool.and_eq_true] at hserial
    have hturn := ht.turn u hp hb hfree (hproper t List.mem_cons_self) hserial.1
    exact ih hturn.1 (fun t' hm => hproper t' (List.mem_cons_of_mem t hm)) hserial.2

end

omit [DecidableEq ι] in
/-- New sessions have no transaction open, and nothing is in the stack of a profile. -/
theorem tracks_opened (p : Profile) (name : String) {settings : ι → SessionSettings}
    (hset : ∀ i, (settings i).cacheEnabled = true ∧ (settings i).environment = environment)
    (d : δ) :
    (opened settings (p.build name).state d).Tracks read environment name
      { database := ⟨d, d⟩ } := by
  refine ⟨rfl, fun _ => rfl, ?_, ?_, nofun⟩
  · intro i _
    exact ⟨(hset i).1, (hset i).2, rfl, rfl, fun _ => rfl, Transaction.onlyFor_empty name, rfl⟩
  · intro _
    refine ⟨p.id_build name, ?_, rfl, fun thread => p.lockedBy_build name thread⟩
    exact fun k r hr => absurd hr (p.not_has_build name k r)

/-- A database that holds a number, which every query asks for. -/
def number (d : Nat) (_ : Asked) : Except Failure (List Row) :=
  .ok [Table.ofList [("number", .int (Int64.ofNat d))]]

/-- Runners to which no rows are delivered, and which keep none. -/
def plain : Customs (Database Nat) := ⟨fun _ _ d => d, fun _ _ => false⟩

/-- A statement that shares its rows. -/
def sharing (id : String) (command : Command) : Statement Unit :=
  { (Statement.ofCommand id command : Statement Unit) with cache := some () }

/-- A session asks for the number on a thread, and gets it in a list of its own. -/
def counts (i : Fin 2) (thread : Nat) (id : RowsId) : Turn (Fin 2) Nat where
  who := i
  caller := { thread }
  order := .query (sharing "count" .select) {} {} id none

/-- A session asks for the number by a statement that may give it to a parameter. -/
def calls (i : Fin 2) : Turn (Fin 2) Nat where
  who := i
  order := .query { sharing "call" .select with protocol := .callable }
    { params := [{ name := "number", mode := .output }] } {} 0 none

/-- A session changes the number. -/
def increments (i : Fin 2) : Turn (Fin 2) Nat where
  who := i
  order := .update (sharing "increment" .update) fun d => (.ok 1, d + 1)

/-- A session commits. -/
def commits (i : Fin 2) : Turn (Fin 2) Nat := { who := i, order := .commit }

/-- Sessions that forget after each query. -/
def forgetful : Fin 2 → SessionSettings := fun _ => { scope := .statement }

/-- Two sessions over a stack that locks keys. -/
def two : House (Fin 2) Nat (Profile.build { blocking := true } "users").layers :=
  opened forgetful (Profile.build { blocking := true } "users").state 0

/-- One session has read the number and committed, and the other one has changed it and
committed. -/
def changed : List (Turn (Fin 2) Nat) := [counts 0 0 0, commits 0, increments 1, commits 1]

end House

end QueryCache
