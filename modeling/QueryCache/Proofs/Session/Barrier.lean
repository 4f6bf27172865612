import QueryCache.Proofs.Session.Publication
import QueryCache.Proofs.Session.Recollection
import QueryCache.Proofs.Staging.Clears

/-!
# Flushes as barriers

From the moment at which an update or a flushing query begins, at any depth, until the
transaction ends, the session is shown nothing that the cache of the statement still has. And
what a query finds in the session's memory is younger than the last time the session was made
to forget. So an outermost query that flushes is answered by its runner or not at all.
-/

namespace QueryCache

variable {ρ σ τ : Type}

namespace Happening

/-- The shared cache whose clear is staged by this. -/
def clears? : Happening ρ → Option ρ
  | told r .. | asked r _ => r.statement.clears?
  | updated st _ => st.clears?
  | _ => none

/-- Whether the clear of a named cache is staged after something more has happened. -/
def bars (name : ρ → String) (n : String) (barred : Bool) (e : Happening ρ) : Bool :=
  !e.ends && (barred || e.clears?.any fun ref => name ref = n)

/-- Whether an update or a flushing query for a named cache has begun since the last end of a
transaction. -/
def barred (name : ρ → String) (n : String) (es : List (Happening ρ)) : Bool :=
  es.foldl (bars name n) false

theorem barred_concat (name : ρ → String) (n : String) (es : List (Happening ρ))
    (e : Happening ρ) : barred name n (es ++ [e]) = bars name n (barred name n es) e := by
  rw [barred, List.foldl_append]
  rfl

end Happening

/-- A query goes through no shared cache but that of its statement. -/
theorem Session.cache_of_cacheFor {x : Session ρ} {st : Statement ρ} {b : Bound} {ref : ρ}
    (h : x.cacheFor st b = .ok (some ref)) : st.cache = some ref := by
  unfold cacheFor at h
  split at h
  · exact nomatch h
  · split at h
    · exact nomatch h
    · next ref' hcache =>
      split at h
      · exact nomatch h
      · rw [hcache, Option.some.inj (Except.ok.inj h)]

/-! ### Staged clears -/

namespace Scene

variable {g : Setting ρ σ τ} {callers : Caller → Prop}
  {others : Scene ρ σ τ → Scene ρ σ τ → Prop} {s s' : Scene ρ σ τ} {name : ρ → String}

section

variable (hid : ∀ ref s, (g.cache ref).id s = name ref)

include hid

/-- A flushing statement stages the clear of its cache. -/
theorem clears_flush (hon : s.session.settings.cacheEnabled = true) (st : Statement ρ)
    (n : String) :
    (s.flush g st).session.staged.Clears n ↔
      (st.clears?.any fun ref => name ref = n) = true ∨ s.session.staged.Clears n := by
  unfold flush Statement.clears?
  rw [hon]
  cases hflush : st.flush with
  | false => simp
  | true =>
    cases hcache : st.cache with
    | none => simp
    | some ref =>
      have h := Transaction.clears_stageClear s.session.staged ((g.cache ref).id s.shared) n ref
      rw [hid] at h
      simpa [staging, Transaction.clear, hid] using h

/-- So does a query when it begins. -/
theorem clears_enter (hon : s.session.settings.cacheEnabled = true) (client : τ)
    (st : Statement ρ) (n : String) :
    (({ s with client } : Scene ρ σ τ).enter g st).session.staged.Clears n ↔
      (st.clears?.any fun ref => name ref = n) = true ∨ s.session.staged.Clears n := by
  unfold enter
  dsimp only
  split
  · have hon' : s.session.clearMemo.settings.cacheEnabled = true := by
      rw [Session.settings_clearMemo]
      exact hon
    have h := clears_flush hid (s := { s with client, session := s.session.clearMemo }) hon' st n
    simp only [Session.staged_clearMemo] at h
    exact h
  · exact clears_flush hid (s := { s with client }) hon st n

/-- And so does an update in an open session. -/
theorem clears_update (hon : s.session.settings.cacheEnabled = true)
    (isOpen : s.session.closed = false) (runner : τ → Except Failure Nat × τ)
    (st : Statement ρ) (n : String) :
    (update g runner st s).state.session.staged.Clears n ↔
      (st.clears?.any fun ref => name ref = n) = true ∨ s.session.staged.Clears n := by
  have hstaged : (update g runner st s).state.session.staged =
      (s.flush g st).session.staged := by
    simp only [update, isOpen, Bool.false_eq_true, if_false]
    exact Session.staged_clearMemo _
  rw [hstaged]
  exact clears_flush hid hon st n

omit hid in
/-- An act of an open session that ends its transaction drops what is staged, and no other act
touches it. -/
theorem staged_perform (g : Setting ρ σ τ) (c : Caller) (a : Act)
    (isOpen : s.session.closed = false) :
    (perform g c a s).state.session.staged = if a.ends then .empty else s.session.staged := by
  cases a with
  | commit => simp only [perform, commit, isOpen, Bool.false_eq_true, if_false]; rfl
  | rollback => simp only [perform, rollback, isOpen, Bool.false_eq_true, if_false]; rfl
  | close force => simp only [perform, close, isOpen, Bool.false_eq_true, if_false]; rfl
  | clearMemo => exact Session.staged_clearMemo _
  | store k list => rfl
  | defer load =>
    simp only [perform, defer, isOpen, Bool.false_eq_true, if_false]
    split <;> rfl

omit hid in
/-- The rows of an answer change no staged clear. -/
theorem clears_answered {r : Request ρ} {k : Key} {shared : Option ρ} {c : Caller}
    {a : Except Failure Output} {reply : Reply (Scene ρ σ τ) Outcome}
    (h : answered g r k shared c a s = .done reply) (n : String) :
    reply.state.session.staged.Clears n ↔ s.session.staged.Clears n := by
  rcases staged_answered h with hstaged | ⟨out, ref, _, _, hstaged⟩
  · rw [hstaged]
  · rw [hstaged]
    exact Transaction.clears_put _ _ n ref k _

end

/-- What staged work may become by a lookup of a query. -/
def Looked (g : Setting ρ σ τ) (r : Request ρ) (k : Key) (s : Scene ρ σ τ)
    (staged : Transaction ρ) : Prop :=
  staged = s.session.staged ∨ ∃ ref a, r.statement.cache = some ref ∧
    staged = s.session.staged.learn ((g.cache ref).id s.shared) ref k a

variable (hothers : ∀ s s', others s s' → s'.session = s.session)

include hothers

/-- A lookup leaves what its transaction learned from the answer of the shared cache, and shows
that answer as the staged work has it. -/
theorem lookup_learns {c : Caller} {ref : ρ} {k : Key}
    {reply : Reply (Scene ρ σ τ) (Except CacheFailure (Option Entry))}
    (h : (lookup g c ref k s).EndsBy callers others reply) :
    let name := (g.cache ref).id s.shared
    ∃ a, reply.state.session.staged = s.session.staged.learn name ref k a ∧
      reply.value = (s.session.staged.pendingFor name).shown a := by
  intro name
  have hlookup : (lookup g c ref k s).Always others (fun _ => True) fun v t =>
      ∃ a, t.session.staged = s.session.staged.learn name ref k a ∧
        v = (s.session.staged.pendingFor name).shown a := by
    apply Run.Always.within (fun _ => True)
      (Transaction.get_learns g.cache _ ref k ⟨s.session.staged, s.shared⟩) True.intro
    · exact fun i t _ _ => True.intro
    · exact fun i t t' _ _ moved => ⟨congrArg Session.staged (hothers _ _ moved), True.intro⟩
    · exact fun v i t _ hi => hi
  exact hlookup.of_ends h.ends

/-- A lookup shows no rows of a cache whose clear is staged. -/
theorem lookup_cleared {c : Caller} {ref : ρ} {k : Key}
    {reply : Reply (Scene ρ σ τ) (Except CacheFailure (Option Entry))}
    (h : (lookup g c ref k s).EndsBy callers others reply)
    (hclears : s.session.staged.Clears ((g.cache ref).id s.shared)) (e : Entry) :
    reply.value ≠ .ok (some e) := by
  obtain ⟨a, _, hvalue⟩ := lookup_learns hothers h
  rw [hvalue]
  exact Pending.shown_cleared hclears a e

/-- Until its runner is needed, a query touches staged work by its lookup only. -/
theorem Consults.looked {r : Request ρ} {k : Key} {o : Consulted ρ}
    (h : Consults g callers others r k s o s') :
    s.Looked g r k s'.session.staged := by
  cases h with
  | remembered known | circular known | refused unknown refusal | unshared unknown none =>
    exact .inl rfl
  | failed unknown shared hc looked | found unknown shared hc looked
  | missed unknown shared hc looked nothing =>
    obtain ⟨a, hlearned, _⟩ := lookup_learns hothers looked
    exact .inr ⟨_, a, Session.cache_of_cacheFor shared, hlearned⟩

/-- So a query that has begun changes no staged clear until its runner has answered. -/
theorem Consults.clears {r : Request ρ} {k : Key} {o : Consulted ρ}
    (h : Consults g callers others r k s o s') (n : String) :
    s'.session.staged.Clears n ↔ s.session.staged.Clears n := by
  rcases h.looked hothers with hsame | ⟨ref, a, _, hlearned⟩
  · rw [hsame]
  · rw [hlearned]
    exact Transaction.clears_learn _ _ n ref k a

end Scene

namespace Moment

variable {g : Setting ρ σ τ} {callers : Caller → Prop}
  {others : Scene ρ σ τ → Scene ρ σ τ → Prop} {m m' : Moment ρ σ τ} {e : Happening ρ}
  {es : List (Happening ρ)} {name : ρ → String}

section

variable (hid : ∀ ref s, (g.cache ref).id s = name ref)
  (hothers : ∀ s s', others s s' → s'.session = s.session)

include hid hothers

/-- What a step of an open session does to its staged clears can be told from what happened. -/
theorem Step.clears (h : Step g callers others m e m')
    (hon : m.scene.session.settings.cacheEnabled = true)
    (isOpen : m.scene.session.closed = false) (n : String) {barred : Bool}
    (hm : m.scene.session.staged.Clears n ↔ barred = true) :
    m'.scene.session.staged.Clears n ↔ e.bars name n barred = true := by
  have hsame (hstaged : m'.scene.session.staged.Clears n ↔ m.scene.session.staged.Clears n)
      (hends : e.ends = false) (hclears : e.clears? = none) :
      m'.scene.session.staged.Clears n ↔ e.bars name n barred = true := by
    rw [hstaged, hm]
    simp [Happening.bars, hends, hclears]
  have hbegun {x : Session ρ} (t : Statement ρ) (hclears : e.clears? = t.clears?)
      (hends : e.ends = false) (hstaged : x.staged.Clears n ↔
        (t.clears?.any fun ref => name ref = n) = true ∨ m.scene.session.staged.Clears n) :
      x.staged.Clears n ↔ e.bars name n barred = true := by
    rw [hstaged, hm, Happening.bars, hends, hclears, Bool.not_false, Bool.true_and,
      Bool.or_eq_true]
    exact or_comm
  cases h with
  | others moved =>
    apply hsame _ rfl rfl
    rw [hothers _ _ moved]
  | look => exact hsame Iff.rfl rfl rfl
  | @update _ st client runner _ s r e =>
    subst e
    apply hbegun st rfl rfl
    exact Scene.clears_update hid (s := { s with client }) hon isOpen runner st n
  | @act _ a client _ s c r hc e =>
    subst e
    have hstaged := Scene.staged_perform g c a (s := { s with client }) isOpen
    cases ha : a.ends with
    | false =>
      rw [ha] at hstaged
      apply hsame _ ha rfl
      rw [hstaged]
      exact Iff.rfl
    | true =>
      rw [ha] at hstaged
      have hempty : ¬ (Scene.perform g c a { s with client }).state.session.staged.Clears n := by
        rw [hstaged]
        exact Transaction.not_clears_empty n
      simp [Happening.bars, Happening.ends, ha, hempty]
  | refuse closed => exact hsame Iff.rfl rfl rfl
  | @tell fs r client runner next s o s' _ e =>
    apply hbegun r.statement rfl rfl
    rw [session_conclude, Session.staged_concluded, e.clears hothers]
    exact Scene.clears_enter hid hon client r.statement n
  | @ask fs r client runner next s shared s' _ e =>
    apply hbegun r.statement rfl rfl
    exact (e.clears hothers n).trans (Scene.clears_enter hid hon client r.statement n)
  | answer e =>
    apply hsame _ rfl rfl
    rw [session_conclude, Session.staged_concluded]
    exact Scene.clears_answered e n

/-- As long as a session is open, the clears that are staged are those of the updates and
flushing queries that have begun since the last end of a transaction. -/
theorem Course.clears {settings : SessionSettings} (hon : settings.cacheEnabled = true)
    {talk : Talk ρ τ} {shared : σ} {client : τ}
    (c : Course g callers others (opened settings talk shared client) es m)
    (isOpen : m.scene.session.closed = false) (n : String) :
    m.scene.session.staged.Clears n ↔ Happening.barred name n es = true := by
  induction c with
  | start => exact ⟨nofun, nofun⟩
  | @step es m e m' c h ih =>
    have hopen := h.was_open hothers isOpen
    have hon' : m.scene.session.settings.cacheEnabled = true := by
      rw [c.settings hothers]
      exact hon
    rw [Happening.barred_concat]
    exact h.clears hid hothers hon' hopen n (ih hopen)

end

/-! ### Queries inside others -/

/-- A session may get from one moment to another while always more than some number of queries
are running. -/
inductive Inside (g : Setting ρ σ τ) (callers : Caller → Prop)
    (others : Scene ρ σ τ → Scene ρ σ τ → Prop) (n : Nat) (m : Moment ρ σ τ) :
    Moment ρ σ τ → Prop
  | start : Inside g callers others n m m
  | step {m' e m''} (c : Inside g callers others n m m') (h : Step g callers others m' e m'')
      (running : n < m''.frames.length) : Inside g callers others n m m''

/-- A step leaves the running queries, or one more is running, or the innermost one has been
answered. -/
theorem Step.frames (h : Step g callers others m e m') :
    m'.frames = m.frames ∨ (∃ f, m'.frames = f :: m.frames) ∨ ∃ f, m.frames = f :: m'.frames := by
  cases h with
  | ask isOpen e => exact .inr (.inl ⟨_, rfl⟩)
  | answer e => exact .inr (.inr ⟨_, rfl⟩)
  | _ => exact .inl rfl

/-- A query that was running is not running any more because its runner has answered, and the
rows of this answer are its outcome. -/
theorem Step.popped (h : Step g callers others m e m') {f : Frame ρ τ}
    (hf : m.frames = f :: m'.frames) :
    ∃ a client bound, m.talk = .finish a client ∧ e = .answered f.request f.key a ∧
      m'.talk = f.next ⟨a.map (·.rows), bound⟩ m'.scene.client := by
  cases h with
  | @answer f' fs c a client s r e =>
    obtain rfl : f' = f := (List.cons.inj hf).1
    refine ⟨a, client, r.value.bound, rfl, rfl, ?_⟩
    rw [← Scene.result_answered e]
    rfl
  | ask isOpen e =>
    have hlength := congrArg List.length hf
    simp only [Moment.ask, List.length_cons] at hlength
    omega
  | _ => exact absurd hf.symm (List.cons_ne_self _ _)

/-- A running query is running as long as no fewer queries are. -/
theorem Inside.suffix {f : Frame ρ τ} {outer : List (Frame ρ τ)}
    (c : Inside g callers others outer.length m m') (hm : m.frames = f :: outer) :
    f :: outer <:+ m'.frames := by
  induction c with
  | start => exact hm ▸ List.suffix_rfl
  | @step m' e m'' c h running ih =>
    rcases h.frames with hsame | ⟨f', hpush⟩ | ⟨f', hpop⟩
    · rw [hsame]
      exact ih
    · rw [hpush]
      exact ih.trans (List.suffix_cons f' _)
    · rw [hpop] at ih
      rcases List.suffix_cons_iff.mp ih with heq | hin
      · have houter : outer = m''.frames := (List.cons.inj heq).2
        rw [houter] at running
        exact absurd running (Nat.lt_irrefl _)
      · exact hin

/-- What ends a running query is the answer of its runner. -/
theorem Inside.answered {f : Frame ρ τ} {outer : List (Frame ρ τ)} {now later : Moment ρ σ τ}
    (c : Inside g callers others outer.length m now) (hm : m.frames = f :: outer)
    (h : Step g callers others now e later) (hlater : later.frames = outer) :
    ∃ a client bound, now.talk = .finish a client ∧ e = .answered f.request f.key a ∧
      later.talk = f.next ⟨a.map (·.rows), bound⟩ later.scene.client := by
  have hin := c.suffix hm
  have hlength := hin.length_le
  rw [List.length_cons] at hlength
  rcases h.frames with hsame | ⟨f', hpush⟩ | ⟨f', hpop⟩
  · rw [← hsame, hlater] at hlength
    omega
  · rw [← hlater, hpush, List.length_cons] at hlength
    omega
  · rw [hpop, hlater] at hin
    have hf : f = f' := (List.cons.inj (hin.eq_of_length rfl)).1
    rw [← hf] at hpop
    exact h.popped hpop

/-! ### The barrier -/

section

variable (hid : ∀ ref s, (g.cache ref).id s = name ref)
  (hothers : ∀ s s', others s s' → s'.session = s.session)

include hid hothers

/-- An outermost query that flushes is told no rows. -/
theorem failure_of_told {s s' : Scene ρ σ τ} {r : Request ρ} {k : Key} {o : Outcome}
    {client : τ} (hon : s.session.settings.cacheEnabled = true)
    (isOpen : s.session.closed = false) (hdepth : s.session.depth = 0)
    (hflush : r.statement.flush = true)
    (h : Scene.Consults g callers others r k
      (({ s with client } : Scene ρ σ τ).enter g r.statement) (.told o) s') :
    ∃ f, o.result = .error f := by
  cases ho : o.result with
  | error f => exact ⟨f, rfl⟩
  | ok list =>
    have hforgot : (({ s with client } : Scene ρ σ τ).enter g r.statement).session.memo =
        .empty := by
      rw [(Scene.alike_enter g r.statement { s with client }).memo,
        Session.memo_entered_outermost hdepth isOpen, if_pos hflush]
    obtain ⟨known, _⟩ | ⟨_, ref, c, reply, hshared, _, looked, hrows, _⟩ := h.told_rows ho
    · rw [hforgot] at known
      exact nomatch known
    · have hclears : r.statement.clears? = some ref := by
        rw [Statement.clears?, if_pos hflush]
        exact Session.cache_of_cacheFor hshared
      refine absurd hrows (Scene.lookup_cleared hothers looked ?_ _)
      rw [hid, Scene.clears_enter hid hon client r.statement]
      simp [hclears]

/-- With shared caches switched on, whatever the runners of a session do: a query that is told
rows finds them among what was resolved since the session was last made to forget everything, or
they come from the lookup in its shared cache, and then no update and no flushing query for this
cache has begun since the last end of a transaction, be it the query itself. An outermost query
that flushes fails, or it asks its runner; and then nothing ends it but the answer of this runner,
whose rows are its outcome. -/
theorem flush_is_barrier {settings : SessionSettings} (hon : settings.cacheEnabled = true)
    {talk : Talk ρ τ} {shared : σ} {client : τ}
    (c : Course g callers others (opened settings talk shared client) es m)
    (h : Step g callers others m e m') :
    (∀ r k o list, e = .told r k o → o.result = .ok list →
      let y := (Happening.recollection settings.scope es).begin r.statement.flush
      (y.rows? k = some list ∧ m'.scene.shared = m.scene.shared) ∨
      y.rows? k = none ∧ ∃ ref c s reply, r.statement.cache = some ref ∧ callers c ∧
        s.shared = m.scene.shared ∧ (Scene.lookup g c ref k s).EndsBy callers others reply ∧
        reply.value = .ok (some (.rows list)) ∧
        Happening.barred name (name ref) (es ++ [e]) = false) ∧
    ∀ r client runner next, m.talk = .query r client runner next → m.frames = [] →
      r.statement.flush = true →
      e = .others ∨
      (∃ o f, o.result = .error f ∧ m'.frames = [] ∧ m'.talk = next o m'.scene.client) ∨
      ∃ k, e = .asked r k ∧ m'.talk = runner m'.scene.client ∧
        ∀ now e' later, Inside g callers others 0 m' now → Step g callers others now e' later →
          later.frames = [] → ∃ a client' bound, now.talk = .finish a client' ∧
            e' = .answered r k a ∧
            later.talk = next ⟨a.map (·.rows), bound⟩ later.scene.client := by
  have hon' : m.scene.session.settings.cacheEnabled = true := by
    rw [c.settings hothers]
    exact hon
  constructor
  · intro r k o list he ho
    subst he
    cases h with
    | @tell fs _ client runner next s o s' isOpen e =>
      have hrecalls := recalls_enter (g := g) (c.recalls hothers isOpen) isOpen client r.statement
      have hbarred := c.clears hid hothers hon isOpen
      obtain ⟨known, hs⟩ | ⟨unknown, ref, c', reply, hshared, hc, looked, hrows, hs⟩ :=
        e.told_rows ho
      · left
        refine ⟨(hrecalls.known _ list).mp known, ?_⟩
        rw [conclude, Scene.shared_finish, hs, Scene.shared_enter]
      · right
        have hbars : Happening.barred name (name ref)
            (es ++ [.told r (r.keyIn s.session) o]) = false := by
          have hnot := fun hclears => Scene.lookup_cleared hothers looked hclears _ hrows
          rw [hid, Scene.clears_enter hid hon' client r.statement, hbarred] at hnot
          rw [Happening.barred_concat, Happening.bars]
          simpa [Happening.ends, Happening.clears?, and_comm] using hnot
        have hshared' : (({ s with client } : Scene ρ σ τ).enter g r.statement).shared = s.shared :=
          Scene.shared_enter g r.statement { s with client }
        exact ⟨hrecalls.rows?_eq_none unknown, ref, c', _, reply,
          Session.cache_of_cacheFor hshared, hc, hshared', looked, hrows, hbars⟩
  · intro r client runner next htalk houter hflush
    have ht := c.tidy hothers (tidy_opened _ _ _ _)
    obtain ⟨fs, t, s⟩ := m
    subst htalk
    subst houter
    have hdepth : s.session.depth = 0 := ht.depth
    cases h with
    | others moved => exact .inl rfl
    | refuse closed => exact .inr (.inl ⟨_, _, rfl, rfl, rfl⟩)
    | tell isOpen e =>
      obtain ⟨f, hf⟩ := failure_of_told hid hothers hon' isOpen hdepth hflush e
      exact .inr (.inl ⟨_, f, hf, rfl, rfl⟩)
    | ask isOpen e =>
      refine .inr (.inr ⟨_, rfl, rfl, fun now e' later inside hstep hlater => ?_⟩)
      exact inside.answered rfl hstep hlater

end

end Moment

/-- A query that flushes the left of two stores. -/
def flushingRequest (k : Key) : Request Bool where
  statement := { id := "sel", cache := some false, useCache := true, flush := true }
  key? := some k

/-- A user who has the outcome of a flushing query makes another one for its key. -/
def askingFresh (o : Outcome) : Talk Bool Unit :=
  .query (leftRequest {}) () (fun _ => .finish (.error .closed) ()) fun o' _ =>
    .finish (o.result.bind fun _ => o'.result.map fun list => { rows := list }) ()

/-- Two stores with rows under the empty key. -/
def stocked : Over (Journal Bool) (Bool → Store) :=
  ⟨[], fun _ => { name := "", entries := .ofList [({}, .rows ⟨3, []⟩)] }⟩

namespace Moment

/-- A flushing query is not shown the rows that its store has: it returns those of its runner. The
next query for the key finds these in the session's memory. -/
theorem flush_is_barrier_stored :
    ∃ (asked ended later : Moment Bool (Over (Journal Bool) (Bool → Store)) Unit)
      (bound : Bound) (o : Outcome),
      Course twoJournaled (fun _ => True) Eq
        (opened {} (.query (flushingRequest {}) () (fun _ => .finish (.ok { rows := ⟨1, []⟩ }) ())
          fun o _ => askingFresh o) stocked ()) [.asked (flushingRequest {}) {}] asked ∧
      Step twoJournaled (fun _ => True) Eq asked
        (.answered (flushingRequest {}) {} (.ok { rows := ⟨1, []⟩ })) ended ∧
      ended.talk = askingFresh ⟨.ok ⟨1, []⟩, bound⟩ ∧
      Step twoJournaled (fun _ => True) Eq ended (.told (leftRequest {}) {} o) later ∧
      o.result = .ok ⟨1, []⟩ ∧ later.scene.shared = ended.scene.shared := by
  have begun : Course twoJournaled (fun _ => True) Eq
      (opened {} (.query (flushingRequest {}) () (fun _ => .finish (.ok { rows := ⟨1, []⟩ }) ())
        fun o _ => askingFresh o) stocked ()) [] _ := .start
  have asked := begun.step (.ask rfl (.missed (c := {}) rfl rfl True.intro (.done _) nofun))
  have answered := asked.step (.answer (c := {}) rfl)
  have hothers (s s' : Scene Bool (Over (Journal Bool) (Bool → Store)) Unit) (h : s = s') :
      s'.session = s.session := by rw [h]
  have hid (ref : Bool) (s : Over (Journal Bool) (Bool → Store)) : (twoJournaled.cache ref).id s =
      (fun side : Bool => if side then "left" else "right") ref := rfl
  -- the outermost query asks its runner, and has its rows
  have hflush := (flush_is_barrier hid hothers rfl begun
    (.ask rfl (.missed (c := {}) rfl rfl True.intro (.done _) nofun))).2 _ _ _ _ rfl rfl rfl
  rcases hflush with hno | ⟨_, _, _, hno, _⟩ | ⟨k, hasked, _, hends⟩
  · exact nomatch hno
  · exact nomatch hno
  cases hasked
  obtain ⟨a, client, bound, htalk, _, hended⟩ := hends _ _ _ .start (.answer (c := {}) rfl) rfl
  cases htalk
  -- the other one is told what has been resolved since
  have htold := (flush_is_barrier hid hothers rfl answered (.tell rfl (.remembered rfl))).1
    _ _ _ _ rfl rfl
  rcases htold with ⟨_, hshared⟩ | ⟨hnone, _⟩
  · exact ⟨_, _, _, bound, _, asked, .answer (c := {}) rfl, hended, .tell rfl (.remembered rfl),
      rfl, hshared⟩
  · exact nomatch hnone

end Moment

end QueryCache
