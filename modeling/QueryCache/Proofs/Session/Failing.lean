import QueryCache.Proofs.Session.Barrier
import QueryCache.Proofs.Session.Repeats

/-!
# Failed queries

In session scope a query that fails leaves the session as it found it, if its runner was not asked
or asked nothing of the session: what is remembered, what is staged to be written or cleared, and
how many queries are running. A lookup in its shared cache may have made room for staged work and
noted that the key was missing; and the outermost query drops the loads that wait.
-/

namespace QueryCache

variable {ρ σ τ : Type}

/-- The mark of a key of which nothing was known comes and goes without a trace. -/
theorem Memo.remove_markInFlight {m : Memo} {k : Key} (h : m.lookup k = none) :
    (m.markInFlight k).remove k = m := by
  have hk : k ∉ m.entries.keys := (Table.get?_eq_none_iff m.entries k).mp h
  rw [markInFlight, remove, Table.erase_insert hk]

/-- What a lookup adds to the staged work for its cache is a note of the key at most. -/
theorem Pending.learn_eq (p : Pending) (k : Key) (a : Except CacheFailure (Option Entry)) :
    p.learn k a = p ∨ p.learn k a = p.noteMiss k := by
  cases a with
  | error f => exact .inl rfl
  | ok e =>
    rw [learn]
    split
    · exact .inr rfl
    · exact .inl rfl

namespace Session

/-- States of a session that are alike aside from staged work differ in nothing else. -/
theorem Alike.exists_staged {x x' : Session ρ} (h : x.Alike x') :
    ∃ staged, x' = { x with staged } := by
  cases x
  cases x'
  obtain ⟨rfl, rfl, rfl, rfl, rfl⟩ := h
  exact ⟨_, rfl⟩

/-- In session scope a query that ends is not counted any more, and the outermost one leaves no
load waiting. -/
theorem concluded_of_session {x : Session ρ} (hscope : x.settings.scope = .session)
    (staged : Transaction ρ) :
    concluded { x with depth := x.depth + 1, staged } =
      { x with deferred := if x.depth = 0 then [] else x.deferred, staged } := by
  unfold concluded
  simp [hscope]

end Session

namespace Scene

variable {g : Setting ρ σ τ} {callers : Caller → Prop}
  {others : Scene ρ σ τ → Scene ρ σ τ → Prop} {s s' : Scene ρ σ τ} {r : Request ρ} {k : Key}

/-- A query that does not flush is counted when it begins, and that is all. -/
theorem enter_of_not_flush {st : Statement ρ} (h : st.flush = false) :
    s.enter g st = s.onSession fun x => { x with depth := x.depth + 1 } := by
  unfold enter flush
  simp only [h, Bool.and_false, Bool.false_eq_true, if_false]
  rfl

/-- A query that is told of a failure has its parameters as they were. -/
theorem Consults.bound_of_failure {o : Outcome} {f : Failure}
    (h : Consults g callers others r k s (.told o) s') (ho : o.result = .error f) :
    o = ⟨.error f, r.bound⟩ := by
  cases h with
  | remembered known => exact nomatch ho
  | found unknown shared hc looked => exact nomatch ho
  | circular known | refused unknown refusal | failed unknown shared hc looked =>
    cases ho
    rfl

end Scene

/-- Whether this leaves a session as it is: others are at work, or a runner looks at it. -/
def Happening.idle : Happening ρ → Bool
  | others | looked => true
  | _ => false

namespace Moment

variable {g : Setting ρ σ τ} {callers : Caller → Prop}
  {others : Scene ρ σ τ → Scene ρ σ τ → Prop} {m m' : Moment ρ σ τ} {e : Happening ρ}
  {es : List (Happening ρ)} {r : Request ρ} {k : Key} {f : Failure}

/-- A query fails: it is told so, since its key is marked, its parameters stand in the way of
caching or the shared cache fails; or its runner answers so, having done no more than look at the
session. -/
inductive Fails (g : Setting ρ σ τ) (callers : Caller → Prop)
    (others : Scene ρ σ τ → Scene ρ σ τ → Prop) (m : Moment ρ σ τ) (r : Request ρ) (k : Key)
    (f : Failure) : Moment ρ σ τ → Prop
  | told {o m'} (h : Step g callers others m (.told r k o) m') (ho : o.result = .error f) :
      Fails g callers others m r k f m'
  | answered {asked es now m'} (h : Step g callers others m (.asked r k) asked)
      (c : Course g callers others asked es now) (quiet : ∀ e ∈ es, e.idle = true)
      (h' : Step g callers others now (.answered r k (.error f)) m') :
      Fails g callers others m r k f m'

/-- The failure of a runner ends its query, whose parameters are as they were, and takes the mark
of its key away. -/
theorem Step.answered_failure (h : Step g callers others m (.answered r k (.error f)) m') :
    ∃ frame, m.frames = frame :: m'.frames ∧
      m'.talk = frame.next ⟨.error f, frame.request.bound⟩ m'.scene.client ∧
      m'.scene.session =
        Session.concluded { m.scene.session with memo := m.scene.session.memo.remove k } := by
  cases h with
  | @answer frame fs c a y s reply e =>
    cases e
    exact ⟨frame, rfl, rfl, session_conclude ..⟩

variable (hothers : ∀ s s', others s s' → s'.session = s.session)

include hothers

theorem Step.session_idle (h : Step g callers others m e m') (he : e.idle = true) :
    m'.frames = m.frames ∧ m'.scene.session = m.scene.session := by
  cases h with
  | others moved => exact ⟨rfl, hothers _ _ moved⟩
  | look => exact ⟨rfl, rfl⟩
  | _ => exact nomatch he

theorem Course.session_idle (c : Course g callers others m es m')
    (quiet : ∀ e ∈ es, e.idle = true) :
    m'.frames = m.frames ∧ m'.scene.session = m.scene.session := by
  induction c with
  | start => exact ⟨rfl, rfl⟩
  | @step es m' e m'' c h ih =>
    obtain ⟨hframes, hsession⟩ := ih fun e' he' => quiet e' (List.mem_append_left _ he')
    have hlast := h.session_idle hothers (quiet e (by simp))
    exact ⟨hlast.1.trans hframes, hlast.2.trans hsession⟩

/-- What a query that does not flush and fails leaves of the session, up to the staged work. -/
theorem Fails.spares (hf : Fails g callers others m r k f m')
    (hscope : m.scene.session.settings.scope = .session) (hflush : r.statement.flush = false)
    {y : τ} {runner : τ → Talk ρ τ} {next : Outcome → τ → Talk ρ τ}
    (htalk : m.talk = .query r y runner next) :
    ∃ staged, m.scene.Looked g r k staged ∧ m'.frames = m.frames ∧
      m'.talk = next ⟨.error f, r.bound⟩ m'.scene.client ∧
      m'.scene.session = { m.scene.session with
        deferred := if m.scene.session.depth = 0 then [] else m.scene.session.deferred
        staged } := by
  obtain ⟨fs, t, s⟩ := m
  subst htalk
  cases hf with
  | told h ho =>
    cases h with
    | @tell _ _ _ _ _ _ o s' isOpen e =>
      have hlooked := e.looked hothers
      obtain ⟨staged, hsession⟩ := (e.told_failure hothers ho).exists_staged
      rw [hsession, Scene.enter_of_not_flush hflush] at hlooked
      refine ⟨staged, hlooked, rfl, congrArg (next · _) (e.bound_of_failure ho), ?_⟩
      rw [session_conclude, hsession, Scene.enter_of_not_flush hflush]
      exact Session.concluded_of_session hscope staged
  | @answered asked es now m' h c quiet h' =>
    cases h with
    | @ask _ _ _ _ _ _ shared s' isOpen e =>
      have hlooked := e.looked hothers
      obtain ⟨hsame, unknown, _⟩ := e.asks hothers
      obtain ⟨staged, hsession⟩ := hsame.exists_staged
      rw [hsession, Scene.enter_of_not_flush hflush] at hlooked
      rw [Scene.enter_of_not_flush hflush] at unknown
      obtain ⟨hframes, hquiet⟩ := c.session_idle hothers quiet
      obtain ⟨frame, hnow, htalk, hend⟩ := h'.answered_failure
      obtain ⟨hframe, hm'⟩ := List.cons.inj (hframes.symm.trans hnow)
      subst hframe
      refine ⟨staged, hlooked, hm'.symm, htalk, ?_⟩
      have hmemo : (s.session.memo.markInFlight (r.keyIn s.session)).remove (r.keyIn s.session) =
          s.session.memo := Memo.remove_markInFlight unknown
      rw [hend, hquiet]
      simp only [Moment.ask, Scene.onSession, hsession, Scene.enter_of_not_flush hflush, hmemo]
      exact Session.concluded_of_session hscope staged

/-- In session scope and at any depth, a query of an open session that does not flush fails: since
its key is marked, since its parameters cannot be cached, since the shared cache failed, or since
its runner did without having asked anything of the session. Then whoever asked has the failure
and the parameters as they were, and the session is what it was, up to the staged work for the one
cache of the statement, which is there now and may have one missed key more, and up to the waiting
loads, which the outermost query drops. No staged write and no staged clear is another one. -/
theorem failed_query_leaves_no_trace (hf : Fails g callers others m r k f m')
    (hscope : m.scene.session.settings.scope = .session) (hflush : r.statement.flush = false)
    {y : τ} {runner : τ → Talk ρ τ} {next : Outcome → τ → Talk ρ τ}
    (htalk : m.talk = .query r y runner next) :
    let x := m.scene.session
    let x' := m'.scene.session
    m'.frames = m.frames ∧ m'.talk = next ⟨.error f, r.bound⟩ m'.scene.client ∧
    x'.memo = x.memo ∧ x'.depth = x.depth ∧ x'.settings = x.settings ∧ x'.closed = x.closed ∧
    x'.deferred = (if x.depth = 0 then [] else x.deferred) ∧
    (∀ n, (x'.staged.pendingFor n).writes = (x.staged.pendingFor n).writes ∧
      (x'.staged.pendingFor n).clearFirst = (x.staged.pendingFor n).clearFirst) ∧
    (x'.staged = x.staged ∨ ∃ ref p, r.statement.cache = some ref ∧
      let name := (g.cache ref).id m.scene.shared
      x'.staged = x.staged.renew name ref p ∧
        (p = x.staged.pendingFor name ∨ p = (x.staged.pendingFor name).noteMiss k)) := by
  obtain ⟨staged, hlooked, hframes, htold, hsession⟩ := hf.spares hothers hscope hflush htalk
  rw [hsession]
  refine ⟨hframes, htold, rfl, rfl, rfl, rfl, rfl, ?_⟩
  rcases hlooked with rfl | ⟨ref, a, hcache, rfl⟩
  · exact ⟨fun n => ⟨rfl, rfl⟩, .inl rfl⟩
  · exact ⟨fun n => Transaction.pendingFor_learn_kept _ _ n ref k a,
      .inr ⟨ref, _, hcache, rfl, Pending.learn_eq _ k a⟩⟩

end Moment

/-- A user makes a query whose runner has a load wait and then makes another query, through a
shared cache, whose runner looks at the session and fails. -/
def failingInside : Talk Bool Unit :=
  .query (bareRequest { hashcode := 1 }) ()
    (fun _ => .act (.defer ⟨{}, "later"⟩) () fun _ _ =>
      .query (leftRequest {}) () (fun _ => .look () fun _ _ => .finish (.error (.query "down")) ())
        fun o _ => .finish (o.result.map fun list => { rows := list }) ())
    fun _ _ => .finish (.error .closed) ()

namespace Moment

/-- The failure of the inner query is told to the runner of the outer one. The session still has
the mark of the outer query and the load that waits, and what is staged is a missed key. -/
theorem failed_query_leaves_no_trace_nested :
    ∃ m m' : Moment Bool (Over (Journal Bool) (Bool → Store)) Unit,
      Course twoJournaled (fun _ => True) Eq
        (opened {} failingInside ⟨[], fun _ => { name := "" }⟩ ())
        [.asked (bareRequest { hashcode := 1 }) { hashcode := 1 },
          .did (.defer ⟨{}, "later"⟩) (.ok ())] m ∧
      Fails twoJournaled (fun _ => True) Eq m (leftRequest {}) {} (.query "down") m' ∧
      m'.talk = .finish (.error (.query "down")) () ∧
      m'.scene.session.memo.entries.entries = [({ hashcode := 1 }, .inFlight)] ∧
      m'.scene.session.depth = 1 ∧ m'.scene.session.deferred = [⟨{}, "later"⟩] ∧
      (m'.scene.session.staged.pendingFor "right").writes = Table.empty ∧
      (m'.scene.session.staged.pendingFor "right").misses.keys = [{}] := by
  have begun : Course twoJournaled (fun _ => True) Eq
      (opened {} failingInside ⟨[], fun _ => { name := "" }⟩ ()) [] _ := .start
  have asked := begun.step (.ask rfl (.unshared rfl rfl))
  have waiting := asked.step (.act (c := {}) True.intro rfl)
  have hothers (s s' : Scene Bool (Over (Journal Bool) (Bool → Store)) Unit) (h : s = s') :
      s'.session = s.session := by rw [h]
  have inside {m m' : Moment Bool (Over (Journal Bool) (Bool → Store)) Unit}
      {es : List (Happening Bool)}
      (_ : Course twoJournaled (fun _ => True) Eq
        (opened {} failingInside ⟨[], fun _ => { name := "" }⟩ ()) es m)
      (fails : Fails twoJournaled (fun _ => True) Eq m (leftRequest {}) {} (.query "down") m') :
      Fails twoJournaled (fun _ => True) Eq m (leftRequest {}) {} (.query "down") m' := fails
  have failed := inside waiting
    (.answered (.ask rfl (.missed (c := {}) rfl rfl True.intro (.done _) nofun))
      (.step .start .look) (by simp [Happening.idle]) (.answer (c := {}) rfl))
  obtain ⟨_, htold, hmemo, hdepth, _, _, hdeferred, hkept, _⟩ :=
    failed_query_leaves_no_trace hothers failed rfl rfl rfl
  exact ⟨_, _, waiting, failed, htold, congrArg (·.entries.entries) hmemo, hdepth, hdeferred,
    (hkept "right").1, rfl⟩

end Moment

end QueryCache
