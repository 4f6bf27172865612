import QueryCache.Proofs.Session.Direct
import QueryCache.Proofs.Staging.Served

/-!
# One session with the right rows

All that a session remembers and has staged is what its database answers at present, and all
that the stack has is what it answered in its last durable state; both states are the same
as long as no clear is staged. Everything a session does keeps this up, and so its queries
are answered as the database would answer them.
-/

namespace QueryCache

variable {δ : Type}

/-- The rows are the answer to whatever has the key. -/
def Right (read : δ → Asked → Except Failure (List Row)) (environment : Option String) (d : δ)
    (k : Key) (rows : List Row) : Prop :=
  ∀ a : Asked, a.window.Signed → a.key environment = k → read d a = .ok rows

/-- An answer is the answer to whatever has its key. -/
theorem right_of_read {read : δ → Asked → Except Failure (List Row)}
    {environment : Option String} {d : δ} {a : Asked} {rows : List Row} (ha : a.window.Signed)
    (h : read d a = .ok rows) : Right read environment d (a.key environment) rows := by
  intro b hb hkey
  rw [Asked.key_inj hb ha hkey]
  exact h

/-- No query but a refused one fails before it is looked up. -/
theorem Session.cacheFor_error {x : Session Unit} {r : Request Unit} {f : Failure}
    (h : x.cacheFor r.statement r.bound = .error f) :
    r.refused = true ∧ f = .outParamsNotCacheable r.statement.id := by
  unfold Session.cacheFor at h
  split at h
  · exact nomatch h
  · next hon =>
    split at h
    · exact nomatch h
    · next ref hc =>
      split at h
      · next hout =>
        injection h with h
        refine ⟨?_, h.symm⟩
        rw [Bool.and_eq_true] at hout
        rw [Request.refused, hc, hout.1, hout.2]
        cases hu : r.statement.useCache with
        | true => rfl
        | false =>
          rw [hu, Bool.not_false, Bool.or_true] at hon
          exact absurd rfl hon
      · exact nomatch h

namespace Memo

/-- Removing the mark of a running query. -/
theorem lookup_remove_mark (m : Memo) (k a : Key) :
    ((m.markInFlight k).remove k).lookup a = if k = a then none else m.lookup a := by
  rw [lookup_remove, lookup_markInFlight]
  split <;> rfl

/-- Replacing the mark of a running query by its rows. -/
theorem lookup_resolve_mark (m : Memo) (k a : Key) (r : RowList) :
    ((m.markInFlight k).resolve k r).lookup a =
      if k = a then some (.resolved r) else m.lookup a := by
  rw [lookup_resolve, lookup_markInFlight]
  split <;> rfl

end Memo

namespace Room

/-- What the session of a scene has staged for the stack. -/
def work {ls : List Layer} (name : String) (s : Room δ ls) : Pending :=
  s.session.staged.pendingFor name

/-- The stack has right rows for the durable state, and right rows for the present one are
staged. The thread owns the locks of the missed keys. -/
structure Sound (read : δ → Asked → Except Failure (List Row)) (environment : Option String)
    (name : String) (thread : Nat) {ls : List Layer} (s : Room δ ls) : Prop where
  named : (Stack.cache ls).id s.shared = name
  contents : ∀ k r, Stack.has ls s.shared k r → Right read environment s.client.durable k r.rows
  only : s.session.staged.OnlyFor name
  staged : ∀ k e r, (k, e) ∈ (work name s).writes.entries → e.list? = some r →
    Right read environment s.client.current k r.rows
  unchanged : (work name s).clearFirst = false → s.client.current = s.client.durable
  locked : Stack.LockedBy ls thread (· ∈ (work name s).misses.keys) s.shared

/-- Besides, the session is open, and all it remembers is right. No query is running, and no
load waits for the end of one. -/
structure Upright (read : δ → Asked → Except Failure (List Row)) (environment : Option String)
    (name : String) (thread : Nat) {ls : List Layer} (s : Room δ ls) : Prop
    extends Sound read environment name thread s where
  enabled : s.session.settings.cacheEnabled = true
  environment_eq : s.session.settings.environment = environment
  closed : s.session.closed = false
  deferred : s.session.deferred = []
  memo : ∀ k e, s.session.memo.lookup k = some e →
    ∃ r, e = .resolved r ∧ Right read environment s.client.current k r.rows

variable {read : δ → Asked → Except Failure (List Row)} {environment : Option String}
  {name : String} {thread : Nat} {ls : List Layer} {s : Room δ ls}

/-- More work is staged. -/
theorem Sound.stage (h : Sound read environment name thread s) {t : Room δ ls}
    {f : Pending → Pending} (hshared : t.shared = s.shared) (hclient : t.client = s.client)
    (hst : t.session.staged =
      s.session.staged.stage ((Stack.cache ls).id s.shared) () f)
    (hwrites : ∀ k e r, (k, e) ∈ (f (work name s)).writes.entries → e.list? = some r →
      Right read environment s.client.current k r.rows)
    (hclear : (f (work name s)).clearFirst = false → (work name s).clearFirst = false)
    (hmisses : (f (work name s)).misses = (work name s).misses) :
    Sound read environment name thread t := by
  rw [h.named] at hst
  have hwork : work name t = f (work name s) := by
    rw [work, hst]
    exact Transaction.pendingFor_stage _ _ _ _
  refine ⟨hshared ▸ h.named, ?_, ?_, ?_, ?_, ?_⟩
  · rw [hshared, hclient]
    exact h.contents
  · rw [hst]
    exact h.only.stage () f
  · rw [hwork, hclient]
    exact hwrites
  · rw [hwork, hclient]
    exact fun hc => h.unchanged (hclear hc)
  · rw [hwork, hmisses, hshared]
    exact h.locked

/-- A change of what the session remembers. -/
theorem Upright.session (h : Upright read environment name thread s) {x : Session Unit}
    (hst : x.staged = s.session.staged) (hset : x.settings = s.session.settings)
    (hcl : x.closed = s.session.closed) (hdef : x.deferred = [])
    (hmemo : ∀ k e, x.memo.lookup k = some e →
      ∃ r, e = .resolved r ∧ Right read environment s.client.current k r.rows) :
    Upright read environment name thread { s with session := x } := by
  have hwork : work name { s with session := x } = work name s := by rw [work, work, hst]
  refine ⟨⟨h.named, h.contents, hst ▸ h.only, ?_, ?_, ?_⟩, ?_, ?_, ?_, hdef, hmemo⟩
  · rw [hwork]
    exact h.staged
  · rw [hwork]
    exact h.unchanged
  · rw [hwork]
    exact h.locked
  · rw [hset]
    exact h.enabled
  · rw [hset]
    exact h.environment_eq
  · rw [hcl]
    exact h.closed

theorem Upright.not_closed (h : Upright read environment name thread s) :
    ¬ s.session.closed = true := by
  rw [h.closed]
  exact Bool.false_ne_true

/-- An open session forgets all it remembers. -/
theorem Upright.clearMemo_eq (h : Upright read environment name thread s) :
    s.session.clearMemo = { s.session with memo := .empty } :=
  if_neg h.not_closed

variable (u : Customs (Database δ))

/-- A change of the staged work and the stack alone. -/
theorem Upright.place (h : Upright read environment name thread s)
    {i : Over (Transaction Unit) (Stack.State ls)}
    (hs : Sound read environment name thread ((Scene.staging (u.direct ls)).place i s)) :
    Upright read environment name thread ((Scene.staging (u.direct ls)).place i s) :=
  ⟨hs, h.enabled, h.environment_eq, h.closed, h.deferred, h.memo⟩

/-- Forgetting what the session remembers. -/
theorem Upright.clearMemo (h : Upright read environment name thread s) :
    Upright read environment name thread (s.onSession (·.clearMemo)) := by
  rw [Scene.onSession, h.clearMemo_eq]
  exact h.session rfl rfl rfl h.deferred fun k e he => nomatch he

/-- Remembering right rows of a key, beside all that was remembered. -/
theorem Upright.remember (h : Upright read environment name thread s) {k : Key}
    {list : RowList} (hr : Right read environment s.client.current k list.rows) {m : Memo}
    (hm : ∀ a, m.lookup a = if k = a then some (.resolved list) else s.session.memo.lookup a) :
    Upright read environment name thread { s with session := { s.session with memo := m } } := by
  refine h.session rfl rfl rfl h.deferred ?_
  intro a e he
  rw [hm] at he
  split at he
  · next hk =>
    injection he with he
    exact ⟨list, he.symm, hk ▸ hr⟩
  · exact h.memo a e he

/-- Staging a clear. -/
theorem Upright.flush (h : Upright read environment name thread s) (st : Statement Unit) :
    Upright read environment name thread (s.flush (u.direct ls) st) := by
  unfold Scene.flush
  split
  · cases st.cache with
    | none => exact h
    | some ref =>
      refine h.place u (h.toSound.stage (f := (·.stageClear)) rfl rfl rfl ?_ nofun rfl)
      exact fun k e r he => absurd he List.not_mem_nil
  · exact h

/-- Staging right rows. -/
theorem Upright.stageRows (h : Upright read environment name thread s) (ref : Unit) (k : Key)
    (list : RowList) (hr : Right read environment s.client.current k list.rows) :
    Upright read environment name thread (s.stageRows (u.direct ls) ref k list) := by
  refine h.place u
    (h.toSound.stage (f := (·.stage k (.rows list))) rfl rfl rfl ?_ (fun hc => hc) rfl)
  intro a e r he hlist
  rcases Table.mem_entries_insert he with he | he
  · exact h.staged a e r he hlist
  · injection he with ha hrows
    subst ha hrows
    injection hlist with hlist
    exact hlist ▸ hr

/-! ### Queries -/

/-- What a query leaves: the session as it was before, but for its memory and its staged
work, over the same database, and the right answer, unless the query was refused. -/
structure Answered (read : δ → Asked → Except Failure (List Row)) (environment : Option String)
    (name : String) (thread : Nat) {ls : List Layer} (a : Asked) (r : Request Unit)
    (s : Room δ ls) (o : Outcome) (s' : Room δ ls) : Prop where
  upright : Upright read environment name thread s'
  depth : s'.session.depth = s.session.depth
  client : s'.client = s.client
  result : o.result.map (·.rows) = read s.client.current a ∨
    (r.refused = true ∧ o.result = .error (.outParamsNotCacheable r.statement.id))

/-- A lookup is answered at once, with right rows if any. -/
theorem Upright.lookup (hp : .probe ∉ ls) (hb : .blocking ∉ ls.tail) {c : Caller}
    (h : Upright read environment name c.thread s) (ref : Unit) (k : Key) :
    ((Scene.staging (u.direct ls)).run c s fun c i =>
      Transaction.get (u.direct ls).cache c ref k i).Returns fun v s' =>
        Upright read environment name c.thread s' ∧ s'.session.depth = s.session.depth ∧
          s'.client = s.client ∧ ∃ e, v = .ok e ∧ ∀ e' r, e = some e' → e'.list? = some r →
            Right read environment s.client.current k r.rows := by
  refine Run.Returns.within (p := Scene.staging (u.direct ls))
    (Transaction.get_served (Stack.faithful ls hp) (Stack.serves ls hp hb) _ ref k h.named h.only
      h.locked) ?_
  rintro v i ⟨e, hv, hsame, ⟨⟨hshrinks, hid⟩, hans⟩, hlocked⟩
  refine ⟨h.place u ⟨hid.trans h.named, ?_, hsame.only, ?_, ?_, hlocked⟩, rfl, rfl, _, hv, ?_⟩
  · exact fun a r hr => h.contents a r (hshrinks a r hr)
  · intro a e r he hlist
    rw [work, Scene.staging, hsame.writes] at he
    exact h.staged a e r he hlist
  · intro hc
    exact h.unchanged (hsame.clearFirst.symm.trans hc)
  · intro e' r he' hlist
    split at he'
    · exact nomatch he'
    · next hclear =>
      -- Nothing is staged to be cleared, so what is durable is what is there at present.
      rw [h.unchanged (Bool.not_eq_true _ ▸ hclear)]
      exact h.contents k r (hshrinks k r (hans e' r (congrArg _ he') hlist))

section

variable {runner : RunnerCall Unit (Stack.State ls) (Database δ)} {a : Asked} {id : RowsId}
  {outputs : Option Bag}
  (hr : ∀ c s, runner c s =
    .done ⟨(read s.client.current a).map fun rows => ⟨⟨id, rows⟩, outputs⟩, s, []⟩)

include hr

/-- A query that is handed to the runner. -/
theorem Upright.fromRunner (h : Upright read environment name thread s) (ha : a.window.Signed)
    (r : Request Unit) (shared : Option Unit) (c : Caller) :
    (Scene.fromRunner (u.direct ls) runner r (a.key environment) shared c s).Returns
      (Answered read environment name thread a r s) := by
  unfold Scene.fromRunner
  dsimp only [Scene.onSession]
  rw [hr, Run.andThen, Run.returns_after]
  dsimp only
  cases hread : read s.client.current a with
  | error f =>
    refine ⟨h.session rfl rfl rfl h.deferred ?_, rfl, rfl, .inl hread.symm⟩
    intro k e he
    rw [Memo.lookup_remove_mark] at he
    split at he
    · cases he
    · exact h.memo k e he
  | ok rows =>
    have hright : Right read environment s.client.current (a.key environment) rows :=
      right_of_read ha hread
    have hresolved (k : Key) := Memo.lookup_resolve_mark s.session.memo (a.key environment) k
      ⟨id, rows⟩
    have hstaged {m : Memo} (hm : ∀ k, m.lookup k =
        if a.key environment = k then some (.resolved ⟨id, rows⟩)
        else s.session.memo.lookup k) (ref : Unit) :=
      (h.remember hright hm).stageRows u ref (a.key environment) ⟨id, rows⟩ hright
    unfold Scene.answered
    dsimp only [Except.map, Scene.remember, Scene.onSession]
    generalize (s.session.memo.markInFlight (a.key environment)).resolve (a.key environment)
      ⟨id, rows⟩ = m at hresolved ⊢
    split
    · cases shared with
      | none => exact ⟨h.remember hright hresolved, rfl, rfl, .inl hread.symm⟩
      | some ref =>
        exact ⟨hstaged (m := m.storeOutputs (a.key environment) (outputs.getD r.bound.outputs))
          hresolved ref, rfl, rfl, .inl hread.symm⟩
    · cases shared with
      | none => exact ⟨h.remember hright hresolved, rfl, rfl, .inl hread.symm⟩
      | some ref => exact ⟨hstaged hresolved ref, rfl, rfl, .inl hread.symm⟩

/-- A query between its two ends. -/
theorem Upright.resolve (hp : .probe ∉ ls) (hb : .blocking ∉ ls.tail) {c : Caller}
    (h : Upright read environment name c.thread s) (ha : a.window.Signed) (r : Request Unit) :
    (Scene.resolve (u.direct ls) runner r (a.key environment) c s).Returns
      (Answered read environment name c.thread a r s) := by
  unfold Scene.resolve
  split
  · next list hm =>
    obtain ⟨r', hr', hright⟩ := h.memo _ _ hm
    injection hr' with hr'
    subst hr'
    exact ⟨h, rfl, rfl, .inl (hright a ha rfl).symm⟩
  · next hm =>
    obtain ⟨r', hr', _⟩ := h.memo _ _ hm
    exact nomatch hr'
  · split
    · next f hf =>
      obtain ⟨hrefused, rfl⟩ := Session.cacheFor_error hf
      exact ⟨h, rfl, rfl, .inr ⟨hrefused, rfl⟩⟩
    · exact h.fromRunner u hr ha r none c
    · next ref _ =>
      refine (h.lookup u hp hb ref _).andThen ?_
      rintro c' v s' ⟨h', hdepth, hclient, e, rfl, hright⟩
      have hasked : (Scene.fromRunner (u.direct ls) runner r (a.key environment) (some ref) c'
          s').Returns (Answered read environment name c.thread a r s) := by
        refine (h'.fromRunner u hr ha r (some ref) c').mono ?_
        intro o s'' ho
        refine ⟨ho.upright, ho.depth.trans hdepth, ho.client.trans hclient, ?_⟩
        rw [← hclient]
        exact ho.result
      match e with
      | none => exact hasked
      | some .null => exact hasked
      | some (.reclaimable list) => exact hasked
      | some (.rows list) =>
        have hlist := hright _ list rfl rfl
        rw [← hclient] at hlist
        refine ⟨h'.remember hlist fun k => Memo.lookup_resolve _ _ k list, hdepth, hclient, .inl ?_⟩
        rw [← hclient]
        exact (hlist a ha rfl).symm

omit hr in
/-- The end of a query. -/
theorem Upright.finish (h : Upright read environment name thread s) (hd : s.session.depth = 1)
    (o : Outcome) :
    Upright read environment name thread (Scene.finish (u.direct ls) o s).state ∧
      (Scene.finish (u.direct ls) o s).state.session.depth = 0 ∧
      (Scene.finish (u.direct ls) o s).state.client = s.client ∧
      (Scene.finish (u.direct ls) o s).value = o := by
  have hended : Upright read environment name thread
      { s with session := { s.session with depth := 0, deferred := [] } } :=
    h.session rfl rfl rfl rfl h.memo
  have hforgotten := hended.clearMemo
  unfold Scene.finish
  dsimp only [Scene.onSession]
  rw [hd, if_pos (Nat.sub_self 1), Nat.sub_self, h.deferred]
  cases o with
  | mk result bound =>
    cases result with
    | ok list =>
      dsimp only [Scene.deliverAll, Reply.andThen, Reply.after]
      split
      · exact ⟨hforgotten, Session.depth_clearMemo _, rfl, rfl⟩
      · exact ⟨hended, rfl, rfl, rfl⟩
    | error f =>
      dsimp only [Reply.andThen, Reply.after]
      split
      · exact ⟨hforgotten, Session.depth_clearMemo _, rfl, rfl⟩
      · exact ⟨hended, rfl, rfl, rfl⟩

/-- A query. -/
theorem Upright.query (hp : .probe ∉ ls) (hb : .blocking ∉ ls.tail) {c : Caller}
    (h : Upright read environment name c.thread s) (hd : s.session.depth = 0)
    {st : Statement Unit} {b : Bound} {w : Window} (ha : a = b.asked st w) (hw : w.Signed) :
    (Scene.query (u.direct ls) runner ⟨st, b, w, none⟩ c s).Returns
      (Answered read environment name c.thread a ⟨st, b, w, none⟩ s) := by
  have hkey : (Statement.key st b w s.session.settings.environment) = a.key environment := by
    rw [h.environment_eq, ha]
    rfl
  have hbegin {s' : Room δ ls} (h' : Upright read environment name c.thread s')
      (hclient : s'.client = s.client) :
      Upright read environment name c.thread
        ((s'.flush (u.direct ls) st).onSession fun x => { x with depth := 0 + 1 }) ∧
      ((s'.flush (u.direct ls) st).onSession fun x => { x with depth := 0 + 1 }).client =
        s.client := by
    have hflush := h'.flush u st
    refine ⟨hflush.session rfl rfl rfl hflush.deferred hflush.memo, ?_⟩
    rw [← hclient]
    unfold Scene.flush
    split
    · cases st.cache <;> rfl
    · rfl
  have hrest {s' : Room δ ls} (h' : Upright read environment name c.thread s')
      (hd' : s'.session.depth = 1) (hclient : s'.client = s.client) :
      ((Scene.resolve (u.direct ls) runner ⟨st, b, w, none⟩ (a.key environment) c s').andThen c
        fun _ o s => .done (Scene.finish (u.direct ls) o s)).Returns
      (Answered read environment name c.thread a ⟨st, b, w, none⟩ s) := by
    refine (h'.resolve u hr hp hb (ha ▸ hw) _).andThen ?_
    intro c' o s'' ho
    obtain ⟨hup, hdepth, hsame, hvalue⟩ := ho.upright.finish u (ho.depth.trans hd') o
    refine ⟨hup, hdepth.trans hd.symm, hsame.trans (ho.client.trans hclient), ?_⟩
    dsimp only
    rw [hvalue, ← hclient]
    exact ho.result
  unfold Scene.query
  rw [if_neg h.not_closed]
  dsimp only [Option.getD_none]
  rw [hkey]
  unfold Scene.queryAt
  dsimp only
  rw [Run.returns_after, hd]
  split
  · obtain ⟨hup, hclient⟩ := hbegin h.clearMemo rfl
    exact hrest hup rfl hclient
  · obtain ⟨hup, hclient⟩ := hbegin h rfl
    exact hrest hup rfl hclient

end

/-! ### Updates and ends -/

/-- A session that remembers nothing and has staged nothing but a clear stands on any present
state. -/
theorem Upright.replace (h : Upright read environment name thread s)
    (hclear : (work name s).clearFirst = true) (hwrites : (work name s).writes = Table.empty)
    (hmemo : ∀ k, s.session.memo.lookup k = none) {d : Database δ}
    (hd : d.durable = s.client.durable) :
    Upright read environment name thread { s with client := d } := by
  refine ⟨⟨h.named, ?_, h.only, ?_, ?_, h.locked⟩, h.enabled, h.environment_eq, h.closed,
    h.deferred, ?_⟩
  · dsimp only
    rw [hd]
    exact h.contents
  · intro k e r he
    rw [work] at hwrites he
    rw [hwrites] at he
    exact absurd he List.not_mem_nil
  · intro hc
    exact nomatch hclear.symm.trans hc
  · intro k e he
    exact nomatch (hmemo k).symm.trans he

/-- What a session remembers after it was told to forget it. -/
theorem Upright.lookup_clearMemo (h : Upright read environment name thread s) (k : Key) :
    (s.onSession (·.clearMemo)).session.memo.lookup k = none := by
  rw [Scene.onSession, h.clearMemo_eq]
  rfl

/-- An update of a flushing statement may replace the state. -/
theorem Upright.update (h : Upright read environment name thread s) {st : Statement Unit}
    (hst : st.flush = true ∧ st.cache = some ())
    (runner : Database δ → Except Failure Nat × Database δ)
    (hdurable : (runner s.client).2.durable = s.client.durable) :
    Upright read environment name thread (Scene.update (u.direct ls) runner st s).state ∧
      (Scene.update (u.direct ls) runner st s).state.session.depth = s.session.depth ∧
      (Scene.update (u.direct ls) runner st s).state.client = (runner s.client).2 ∧
      (Scene.update (u.direct ls) runner st s).value = (runner s.client).1 := by
  have hflush : s.flush (u.direct ls) st = (Scene.staging (u.direct ls)).place
      (Transaction.clear (u.direct ls).cache () ((Scene.staging (u.direct ls)).view s)) s := by
    unfold Scene.flush
    rw [h.enabled, hst.1, hst.2]
    rfl
  have hwork : work name (s.flush (u.direct ls) st) = (work name s).stageClear := by
    rw [hflush]
    have hstage := Transaction.pendingFor_stage s.session.staged name () (·.stageClear)
    rw [← h.named] at hstage ⊢
    exact hstage
  have hclient : (s.flush (u.direct ls) st).client = s.client := by rw [hflush]; rfl
  have hdepth : (s.flush (u.direct ls) st).session.depth = s.session.depth := by rw [hflush]; rfl
  have hflushed := h.flush u st
  unfold Scene.update
  simp only [if_neg h.not_closed]
  generalize s.flush (u.direct ls) st = t at hwork hclient hdepth hflushed
  have hforgotten : work name (t.onSession (·.clearMemo)) = (work name s).stageClear := by
    rw [← hwork, work, work, Scene.onSession, Session.staged_clearMemo]
  have hsame : (t.onSession (·.clearMemo)).client = s.client := hclient
  rw [hsame]
  refine ⟨hflushed.clearMemo.replace ?_ ?_ hflushed.lookup_clearMemo (hdurable.trans ?_), ?_,
    rfl, rfl⟩
  · rw [hforgotten]
    rfl
  · rw [hforgotten]
    rfl
  · rw [hsame]
  · exact (Session.depth_clearMemo _).trans hdepth

/-- The stack of sessions none of which has a transaction open. -/
structure Settled (read : δ → Asked → Except Failure (List Row)) (environment : Option String)
    (name : String) {ls : List Layer} (shared : Stack.State ls) (d : Database δ) : Prop where
  named : (Stack.cache ls).id shared = name
  contents : ∀ k r, Stack.has ls shared k r → Right read environment d.durable k r.rows
  unchanged : d.current = d.durable
  unlocked : ∀ thread, Stack.LockedBy ls thread (fun _ => False) shared

/-- A session without an open transaction. -/
structure Resting (environment : Option String) (name : String) (x : Session Unit) : Prop where
  enabled : x.settings.cacheEnabled = true
  environment_eq : x.settings.environment = environment
  deferred : x.deferred = []
  depth : x.depth = 0
  memo : ∀ k, x.memo.lookup k = none
  only : x.staged.OnlyFor name
  work : x.staged.pendingFor name = {}

/-- A session whose transaction has ended. -/
theorem Upright.resting (h : Upright read environment name thread s) (hd : s.session.depth = 0)
    {x : Session Unit} (hset : x.settings = s.session.settings)
    (hdef : x.deferred = s.session.deferred) (hdepth : x.depth = s.session.depth)
    (hmemo : ∀ k, x.memo.lookup k = none) (hst : x.staged = .empty) :
    Resting environment name x := by
  refine ⟨?_, ?_, hdef.trans h.deferred, hdepth.trans hd, hmemo, ?_, ?_⟩
  · rw [hset]
    exact h.enabled
  · rw [hset]
    exact h.environment_eq
  · rw [hst]
    exact Transaction.onlyFor_empty name
  · rw [hst]
    rfl

section

variable (hp : .probe ∉ ls) (hb : .blocking ∉ ls.tail)

include hp hb

/-- A session begins a transaction. -/
theorem Resting.upright {x : Session Unit} (h : Resting environment name x)
    {shared : Stack.State ls} {d : Database δ} (hs : Settled read environment name shared d)
    (hopen : x.closed = false) (thread : Nat) :
    Upright read environment name thread (⟨x, shared, d⟩ : Room δ ls) := by
  have hwork : Room.work name (⟨x, shared, d⟩ : Room δ ls) = {} := h.work
  refine ⟨⟨hs.named, hs.contents, h.only, ?_, fun _ => hs.unchanged, ?_⟩, h.enabled,
    h.environment_eq, hopen, h.deferred, ?_⟩
  · rw [hwork]
    exact fun k e r he => absurd he List.not_mem_nil
  · exact (Stack.serves ls hp hb).mono (hs.unlocked thread) fun _ hf => hf.elim
  · intro k e he
    exact nomatch (h.memo k).symm.trans he

variable {c : Caller} (h : Sound read environment name c.thread s)

include h

/-- The end of a transaction that is committed. The database may have committed before. -/
theorem Sound.commit {t : Room δ ls} (hst : t.session.staged = s.session.staged)
    (hsh : t.shared = s.shared) :
    ((Scene.staging (u.direct ls)).reply c t (Transaction.commitAll (u.direct ls).cache)).value =
        .ok () ∧
      Settled read environment name ((Scene.staging (u.direct ls)).reply c t
        (Transaction.commitAll (u.direct ls).cache)).state.shared s.client.commit := by
  have hf := Stack.faithful ls hp
  have hview : (Scene.staging (u.direct ls)).view t = ⟨s.session.staged, s.shared⟩ := by
    rw [← hst, ← hsh]
    rfl
  simp only [Part.reply, Reply.within, hview]
  have hserved := Transaction.OnlyFor.commit_served hf (Stack.serves ls hp hb)
    (s := ⟨s.session.staged, s.shared⟩) h.only
    (c := c.holding ((Scene.staging (u.direct ls)).held t)) h.locked
  have hnamed : (Stack.cache ls).id (Transaction.commitAll (u.direct ls).cache
      (c.holding ((Scene.staging (u.direct ls)).held t))
      ⟨s.session.staged, s.shared⟩).state.inner = name :=
    Transaction.commitEach_keeps (P := fun i => (Stack.cache ls).id i = name)
      (fun _ c k e i hi => (hf.put c k e i).2.trans hi)
      (fun _ c i hi => (hf.clear c i).2.trans hi) _ _ _ h.named
  refine ⟨hserved.1, hnamed, ?_, rfl, (Stack.serves ls hp hb).free hserved.2.1⟩
  intro k r hr
  rcases hserved.2.2 k r hr with ⟨hr, hclear⟩ | ⟨e, he, hlist⟩
  · have hright := h.contents k r hr
    rw [← h.unchanged hclear] at hright
    exact hright
  · exact h.staged k e r he hlist

/-- The end of a transaction that is rolled back. -/
theorem Sound.rollback {t : Room δ ls} (hst : t.session.staged = s.session.staged)
    (hsh : t.shared = s.shared) :
    Settled read environment name ((Scene.staging (u.direct ls)).reply c t
      (Transaction.rollbackAll (u.direct ls).cache)).state.shared s.client.rollback := by
  have hview : (Scene.staging (u.direct ls)).view t = ⟨s.session.staged, s.shared⟩ := by
    rw [← hst, ← hsh]
    rfl
  simp only [Part.reply, Reply.within, hview]
  have hserved := Transaction.OnlyFor.rollback_served (Stack.faithful ls hp)
    (Stack.serves ls hp hb) (s := ⟨s.session.staged, s.shared⟩) h.only
    (c := c.holding ((Scene.staging (u.direct ls)).held t)) h.locked
  refine ⟨hserved.2.2.trans h.named, ?_, rfl, (Stack.serves ls hp hb).free hserved.1⟩
  exact fun k r hr => h.contents k r (hserved.2.1 k r hr)

omit h

/-- A commit of the session and its database. -/
theorem Upright.commit (h : Upright read environment name c.thread s)
    (hd : s.session.depth = 0) :
    ∃ r, Scene.commit (u.direct ls) c (Room.ended Database.commit s) = r ∧ r.value = .ok () ∧
      Resting environment name r.state.session ∧ r.state.session.closed = false ∧
      r.state.client = s.client.commit ∧
      Settled read environment name r.state.shared s.client.commit := by
  obtain ⟨hvalue, hsettled⟩ := h.toSound.commit u hp hb
    (t := { s with session := { s.session with memo := .empty }, client := s.client.commit })
    rfl rfl
  refine ⟨((Scene.staging (u.direct ls)).reply c
    { s with session := { s.session with memo := .empty }, client := s.client.commit }
    (Transaction.commitAll (u.direct ls).cache)).map fun v => v.mapError .cache, ?_, ?_,
    h.resting hd rfl rfl rfl (fun _ => rfl) rfl, h.closed, rfl, hsettled⟩
  · rw [Room.ended, if_neg h.not_closed, Scene.commit, if_neg h.not_closed, Scene.onSession,
      h.clearMemo_eq]
  · dsimp only [Reply.map]
    rw [hvalue]
    rfl

/-- A rollback of the session and its database. -/
theorem Upright.rollback (h : Upright read environment name c.thread s)
    (hd : s.session.depth = 0) :
    ∃ r, Scene.rollback (u.direct ls) c (Room.ended Database.rollback s) = r ∧
      Resting environment name r.state.session ∧ r.state.session.closed = false ∧
      r.state.client = s.client.rollback ∧
      Settled read environment name r.state.shared s.client.rollback := by
  have hsettled := h.toSound.rollback u hp hb
    (t := { s with session := { s.session with memo := .empty }, client := s.client.rollback })
    rfl rfl
  refine ⟨_, ?_, h.resting hd rfl rfl rfl (fun _ => rfl) rfl, h.closed, rfl, hsettled⟩
  rw [Room.ended, if_neg h.not_closed, Scene.rollback, if_neg h.not_closed, Scene.onSession,
    h.clearMemo_eq]

/-- The end of the session, with a last commit or rollback of it and its database. -/
theorem Upright.close (h : Upright read environment name c.thread s)
    (hd : s.session.depth = 0) (force : Bool) :
    let f : Database δ → Database δ := if force then Database.rollback else Database.commit
    ∃ r, Scene.close (u.direct ls) force c (Room.ended f s) = r ∧ r.value = .ok () ∧
      Resting environment name r.state.session ∧ r.state.session.closed = true ∧
      r.state.client = f s.client ∧
      Settled read environment name r.state.shared (f s.client) := by
  have hresting := h.resting (x :=
    { s.session with memo := .empty, deferred := [], staged := .empty, closed := true })
    hd rfl h.deferred.symm rfl (fun _ => rfl) rfl
  cases force with
  | true =>
    have hsettled := h.toSound.rollback u hp hb (t := { s with client := s.client.rollback })
      rfl rfl
    intro f
    refine ⟨Scene.close (u.direct ls) true c (Room.ended f s), rfl, ?_⟩
    rw [Room.ended, if_neg h.not_closed, Scene.close, if_neg h.not_closed]
    exact ⟨rfl, hresting, rfl, rfl, hsettled⟩
  | false =>
    obtain ⟨hvalue, hsettled⟩ := h.toSound.commit u hp hb
      (t := { s with client := s.client.commit }) rfl rfl
    intro f
    refine ⟨Scene.close (u.direct ls) false c (Room.ended f s), rfl, ?_⟩
    rw [Room.ended, if_neg h.not_closed, Scene.close, if_neg h.not_closed]
    refine ⟨?_, hresting, rfl, rfl, hsettled⟩
    exact congrArg (fun v : Except CacheFailure Unit => v.mapError Failure.cache) hvalue

end

end Room

end QueryCache
