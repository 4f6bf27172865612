import QueryCache.Proofs.Session.Stretch

/-!
# The course of a session

What a session does, moment by moment. A moment knows the queries whose runners are at work,
innermost first, and the conversation that has the floor: that of the innermost runner, or
of the user of the session if no query is running. A step is what the conversation asks for
next, up to the next moment at which a conversation has the floor; its label says what
happened. A query that reaches its runner takes two steps, one to its runner and one from the
runner's answer, with any number of others in between.

`course_converse` says that every conversation that comes to an end takes such a course.
-/

namespace QueryCache

/-- How far a query gets by itself: it is told its outcome, or its runner has to be asked for
rows, which a shared cache may get as well. -/
inductive Consulted (ρ : Type) where
  | told (outcome : Outcome)
  | ask (shared : Option ρ)

/-- The key under which a session runs a query. -/
def Request.keyIn {ρ : Type} (r : Request ρ) (x : Session ρ) : Key :=
  r.key?.getD (r.statement.key r.bound r.window x.settings.environment)

namespace Scene

variable {ρ σ τ : Type}

/-- The beginning of a query. -/
def enter (g : Setting ρ σ τ) (st : Statement ρ) (s : Scene ρ σ τ) : Scene ρ σ τ :=
  let depth := s.session.depth
  let s := if depth = 0 && st.flush then s.onSession (·.clearMemo) else s
  (s.flush g st).onSession fun x => { x with depth := depth + 1 }

/-- Look a key up in a shared cache through the staged work. -/
def lookup (g : Setting ρ σ τ) (c : Caller) (ref : ρ) (k : Key) (s : Scene ρ σ τ) :
    Run (Scene ρ σ τ) (Except CacheFailure (Option Entry)) :=
  (staging g).run c s fun c i => Transaction.get g.cache c ref k i

/-- What a query does that has begun, as long as its runner is not needed. -/
inductive Consults (g : Setting ρ σ τ) (callers : Caller → Prop)
    (others : Scene ρ σ τ → Scene ρ σ τ → Prop) (r : Request ρ) (k : Key) :
    Scene ρ σ τ → Consulted ρ → Scene ρ σ τ → Prop
  | remembered {s list} (known : s.session.memo.lookup k = some (.resolved list)) :
      Consults g callers others r k s (.told (s.fromMemory r k list).value) s
  | circular {s} (known : s.session.memo.lookup k = some .inFlight) :
      Consults g callers others r k s (.told ⟨.error (.circular r.statement.id), r.bound⟩) s
  | refused {s f} (unknown : s.session.memo.lookup k = none)
      (refusal : s.session.cacheFor r.statement r.bound = .error f) :
      Consults g callers others r k s (.told ⟨.error f, r.bound⟩) s
  | unshared {s} (unknown : s.session.memo.lookup k = none)
      (unshared : s.session.cacheFor r.statement r.bound = .ok none) :
      Consults g callers others r k s (.ask none) s
  | failed {s c ref f s' notes} (unknown : s.session.memo.lookup k = none)
      (shared : s.session.cacheFor r.statement r.bound = .ok (some ref)) (hc : callers c)
      (looked : (lookup g c ref k s).EndsBy callers others ⟨.error f, s', notes⟩) :
      Consults g callers others r k s (.told ⟨.error (.cache f), r.bound⟩) s'
  | found {s c ref list s' notes} (unknown : s.session.memo.lookup k = none)
      (shared : s.session.cacheFor r.statement r.bound = .ok (some ref)) (hc : callers c)
      (looked : (lookup g c ref k s).EndsBy callers others ⟨.ok (some (.rows list)), s', notes⟩) :
      Consults g callers others r k s (.told ⟨.ok list, r.bound⟩) (s'.remember k list)
  | missed {s c ref e s' notes} (unknown : s.session.memo.lookup k = none)
      (shared : s.session.cacheFor r.statement r.bound = .ok (some ref)) (hc : callers c)
      (looked : (lookup g c ref k s).EndsBy callers others ⟨.ok e, s', notes⟩)
      (nothing : ∀ list, e ≠ some (.rows list)) :
      Consults g callers others r k s (.ask (some ref)) s'

variable {g : Setting ρ σ τ} {callers : Caller → Prop}
  {others : Scene ρ σ τ → Scene ρ σ τ → Prop}

/-- A query is told its outcome, or asks its runner and ends as that does. -/
theorem consults_of_resolve {runner : RunnerCall ρ σ τ} {r : Request ρ} {k : Key} {c : Caller}
    {s : Scene ρ σ τ} {reply : Reply (Scene ρ σ τ) Outcome} (hc : callers c)
    (e : (resolve g runner r k c s).EndsBy callers others reply) :
    Consults g callers others r k s (.told reply.value) reply.state ∨
      ∃ shared s' c' reply', callers c' ∧ Consults g callers others r k s (.ask shared) s' ∧
        (fromRunner g runner r k shared c' s').EndsBy callers others reply' ∧
        reply'.value = reply.value ∧ reply'.state = reply.state := by
  unfold resolve at e
  split at e
  · next list known =>
    cases e
    exact .inl (.remembered known)
  · next known =>
    cases e
    exact .inl (.circular known)
  · next unknown =>
    split at e
    · next f refusal =>
      cases e
      exact .inl (.refused unknown refusal)
    · next unshared =>
      exact .inr ⟨none, s, c, reply, hc, .unshared unknown unshared, e, rfl, rfl⟩
    · next ref shared =>
      obtain ⟨c', ⟨v, s', n⟩, hc', hlooked, reply', e, hv, hs⟩ := e.of_andThen hc
      unfold looked at e
      dsimp only at e
      split at e
      · next f =>
        cases e
        rw [← hv, ← hs]
        exact .inl (.failed unknown shared hc hlooked)
      · next list =>
        cases e
        rw [← hv, ← hs]
        exact .inl (.found unknown shared hc hlooked)
      · next found hnot =>
        refine .inr ⟨some ref, s', c', reply', hc', ?_, e, hv, hs⟩
        exact .missed unknown shared hc hlooked hnot

/-- Delivering loads leaves the session alone. -/
theorem session_deliverAll (g : Setting ρ σ τ) (loads : List DeferredLoad) (s : Scene ρ σ τ) :
    (deliverAll g loads s).state.session = s.session := by
  induction loads generalizing s with
  | nil => rfl
  | cons load rest ih =>
    unfold deliverAll
    split
    · exact ih _
    · exact ih s

/-- The end of a query changes no outcome. -/
theorem value_finish (g : Setting ρ σ τ) (o : Outcome) (s : Scene ρ σ τ) :
    (finish g o s).value = o := by
  unfold finish
  dsimp only
  split <;> rfl

end Scene

/-- A query whose runner is at work, and what is done with its outcome. -/
structure Frame (ρ τ : Type) where
  request : Request ρ
  key : Key
  shared : Option ρ
  next : Outcome → τ → Talk ρ τ

/-- A moment in the course of a session. -/
structure Moment (ρ σ τ : Type) where
  frames : List (Frame ρ τ)
  talk : Talk ρ τ
  scene : Scene ρ σ τ

/-- What happens from one moment to the next. -/
inductive Happening (ρ : Type) where
  | others
  | looked
  | refused (request : Request ρ)
  | told (request : Request ρ) (key : Key) (outcome : Outcome)
  | asked (request : Request ρ) (key : Key)
  | answered (request : Request ρ) (key : Key) (answer : Except Failure Output)
  | updated (statement : Statement ρ) (result : Except Failure Nat)
  | did (act : Act) (result : Except Failure Unit)

namespace Moment

variable {ρ σ τ : Type}

/-- A new session over shared caches, and what its user is going to do. -/
def opened (settings : SessionSettings) (talk : Talk ρ τ) (shared : σ) (client : τ) :
    Moment ρ σ τ := ⟨[], talk, { settings }, shared, client⟩

/-- A query has its outcome, which goes to whoever asked. -/
def conclude (g : Setting ρ σ τ) (frames : List (Frame ρ τ)) (next : Outcome → τ → Talk ρ τ)
    (o : Outcome) (s : Scene ρ σ τ) : Moment ρ σ τ :=
  ⟨frames, next o (Scene.finish g o s).state.client, (Scene.finish g o s).state⟩

/-- A query asks its runner. -/
def ask (frames : List (Frame ρ τ)) (f : Frame ρ τ) (runner : τ → Talk ρ τ)
    (s : Scene ρ σ τ) : Moment ρ σ τ :=
  ⟨f :: frames, runner s.client,
    s.onSession fun x => { x with memo := x.memo.markInFlight f.key }⟩

/-- One step of a session, or of others between its steps. -/
inductive Step (g : Setting ρ σ τ) (callers : Caller → Prop)
    (others : Scene ρ σ τ → Scene ρ σ τ → Prop) :
    Moment ρ σ τ → Happening ρ → Moment ρ σ τ → Prop
  | others {fs t s s'} (moved : others s s') : Step g callers others ⟨fs, t, s⟩ .others ⟨fs, t, s'⟩
  | look {fs y next s} :
      Step g callers others ⟨fs, .look y next, s⟩ .looked
        ⟨fs, next s.session y, { s with client := y }⟩
  | update {fs st y runner next s r} (e : Scene.update g runner st { s with client := y } = r) :
      Step g callers others ⟨fs, .update st y runner next, s⟩ (.updated st r.value)
        ⟨fs, next r.value r.state.client, r.state⟩
  | act {fs a y next s c r} (hc : callers c)
      (e : Scene.perform g c a { s with client := y } = r) :
      Step g callers others ⟨fs, .act a y next, s⟩ (.did a r.value)
        ⟨fs, next r.value r.state.client, r.state⟩
  | refuse {fs r y runner next s} (closed : s.session.closed = true) :
      Step g callers others ⟨fs, .query r y runner next, s⟩ (.refused r)
        ⟨fs, next ⟨.error .closed, r.bound⟩ y, { s with client := y }⟩
  | tell {fs r y runner next s o s'} (isOpen : s.session.closed = false)
      (e : Scene.Consults g callers others r (r.keyIn s.session)
        (({ s with client := y } : Scene ρ σ τ).enter g r.statement) (.told o) s') :
      Step g callers others ⟨fs, .query r y runner next, s⟩ (.told r (r.keyIn s.session) o)
        (conclude g fs next o s')
  | ask {fs r y runner next s shared s'} (isOpen : s.session.closed = false)
      (e : Scene.Consults g callers others r (r.keyIn s.session)
        (({ s with client := y } : Scene ρ σ τ).enter g r.statement) (.ask shared) s') :
      Step g callers others ⟨fs, .query r y runner next, s⟩ (.asked r (r.keyIn s.session))
        (Moment.ask fs ⟨r, r.keyIn s.session, shared, next⟩ runner s')
  | answer {f fs c a y s r}
      (e : Scene.answered g f.request f.key f.shared c a { s with client := y } = .done r) :
      Step g callers others ⟨f :: fs, .finish a y, s⟩ (.answered f.request f.key a)
        (conclude g fs f.next r.value r.state)

/-- Steps in a row, with all that happens. -/
inductive Course (g : Setting ρ σ τ) (callers : Caller → Prop)
    (others : Scene ρ σ τ → Scene ρ σ τ → Prop) (m : Moment ρ σ τ) :
    List (Happening ρ) → Moment ρ σ τ → Prop
  | start : Course g callers others m [] m
  | step {es m' e m''} (c : Course g callers others m es m')
      (h : Step g callers others m' e m'') : Course g callers others m (es ++ [e]) m''

variable {g : Setting ρ σ τ} {callers : Caller → Prop}
  {others : Scene ρ σ τ → Scene ρ σ τ → Prop} {m m' m'' : Moment ρ σ τ}
  {es es' : List (Happening ρ)} {e : Happening ρ}

theorem Step.course (h : Step g callers others m e m') : Course g callers others m [e] m' :=
  .step .start h

theorem Course.trans (c : Course g callers others m es m')
    (c' : Course g callers others m' es' m'') : Course g callers others m (es ++ es') m'' := by
  induction c' with
  | start =>
    rw [List.append_nil]
    exact c
  | step c' h ih =>
    rw [← List.append_assoc]
    exact .step ih h

/-- A conversation that comes to its end takes a course there, whatever is running around it. -/
private def Comes (g : Setting ρ σ τ) (callers : Caller → Prop)
    (others : Scene ρ σ τ → Scene ρ σ τ → Prop) (t : Talk ρ τ) : Prop :=
  ∀ {c s reply} (fs : List (Frame ρ τ)), callers c →
    (Scene.converse g t c s).EndsBy callers others reply →
    ∃ es y s', Course g callers others ⟨fs, t, s⟩ es ⟨fs, .finish reply.value y, s'⟩ ∧
      reply.state = { s' with client := y }

/-- A query takes a course from the moment at which it is asked for to that at which its
outcome is known. -/
private theorem course_query {r : Request ρ} {y : τ} {runner : τ → Talk ρ τ}
    {next : Outcome → τ → Talk ρ τ} (hr : ∀ z, Comes g callers others (runner z)) {c : Caller}
    {s : Scene ρ σ τ} {reply : Reply (Scene ρ σ τ) Outcome} (fs : List (Frame ρ τ))
    (hc : callers c)
    (h : (Scene.query g (fun c s => Scene.converse g (runner s.client) c s) r c
      { s with client := y }).EndsBy callers others reply) :
    ∃ es, Course g callers others ⟨fs, .query r y runner next, s⟩ es
      ⟨fs, next reply.value reply.state.client, reply.state⟩ := by
  unfold Scene.query at h
  split at h
  · next closed =>
    cases h
    exact ⟨_, (Step.refuse (s := s) closed).course⟩
  next hopen =>
  replace hopen : s.session.closed = false := Bool.not_eq_true _ ▸ hopen
  obtain ⟨reply', h, hv, hs⟩ := h.of_after
  obtain ⟨c', first, hc', hfirst, last, hlast, hv', hs'⟩ := h.of_andThen hc
  cases hlast
  have hend : conclude g fs next first.value first.state =
      ⟨fs, next reply.value reply.state.client, reply.state⟩ := by
    rw [← hv, ← hs, ← hv', ← hs', Scene.value_finish]
    rfl
  rw [← hend]
  rcases Scene.consults_of_resolve hc hfirst with htold | hasked
  · exact ⟨_, (Step.tell hopen htold).course⟩
  · obtain ⟨shared, s', c₁, reply₁, hc₁, hask, hrunner, hv₁, hs₁⟩ := hasked
    obtain ⟨c₂, reply₂, hc₂, hanswer, last, hlast, hv₂, hs₂⟩ := hrunner.of_andThen hc₁
    -- The runner's conversation is held inside the query, whose frame stays until it ends.
    obtain ⟨es, y', s₂, hcourse, hs₃⟩ := hr s'.client (⟨r, r.keyIn s.session, shared, next⟩ :: fs)
      hc₁ hanswer
    obtain ⟨end', hdone⟩ : ∃ end', Scene.answered g r (r.keyIn s.session) shared c₂ reply₂.value
        reply₂.state = .done end' := by
      unfold Scene.answered
      split <;> exact ⟨_, rfl⟩
    rw [← hv₁, ← hs₁, ← hv₂, ← hs₂]
    have hlast' : end' = last := by
      change (Scene.answered g r (r.keyIn s.session) shared c₂ reply₂.value
        reply₂.state).EndsBy callers others last at hlast
      rw [hdone] at hlast
      cases hlast
      rfl
    subst hlast'
    rw [hs₃] at hdone
    exact ⟨_, ((Step.ask (s := s) hopen hask).course.trans hcourse).step (Step.answer hdone)⟩

/-- A conversation that comes to an end takes a course: whatever its queries ask of their
runners, and these of the session, happens in steps. -/
theorem course_converse (t : Talk ρ τ) {c : Caller} {s : Scene ρ σ τ}
    {reply : Reply (Scene ρ σ τ) (Except Failure Output)} (fs : List (Frame ρ τ))
    (hc : callers c) (h : (Scene.converse g t c s).EndsBy callers others reply) :
    ∃ es y s', Course g callers others ⟨fs, t, s⟩ es ⟨fs, .finish reply.value y, s'⟩ ∧
      reply.state = { s' with client := y } := by
  induction t generalizing c s reply fs with
  | finish a y =>
    cases h
    exact ⟨[], y, s, .start, rfl⟩
  | query r y runner next ihr ihn =>
    obtain ⟨c', first, hc', hfirst, last, hlast, hv, hs⟩ := h.of_andThen hc
    obtain ⟨es, hcourse⟩ : ∃ es, Course g callers others ⟨fs, .query r y runner next, s⟩ es
        ⟨fs, next first.value first.state.client, first.state⟩ :=
      course_query (fun z c s reply fs hc h => ihr z fs hc h) fs hc hfirst
    obtain ⟨es', y', s', hcourse', hend⟩ := ihn _ _ fs hc' hlast
    rw [← hv, ← hs]
    exact ⟨es ++ es', y', s', hcourse.trans hcourse', hend⟩
  | update st y runner next ihn =>
    obtain ⟨last, h, hv, hs⟩ := h.of_after
    obtain ⟨es, y', s', hcourse, hend⟩ := ihn _ _ fs hc h
    rw [← hv, ← hs]
    exact ⟨_, y', s', (Step.update rfl).course.trans hcourse, hend⟩
  | act a y next ihn =>
    obtain ⟨last, h, hv, hs⟩ := h.of_after
    obtain ⟨es, y', s', hcourse, hend⟩ := ihn _ _ fs hc h
    rw [← hv, ← hs]
    exact ⟨_, y', s', (Step.act hc rfl).course.trans hcourse, hend⟩
  | look y next ihn =>
    obtain ⟨es, y', s', hcourse, hend⟩ := ihn _ _ fs hc h
    exact ⟨_, y', s', Step.look.course.trans hcourse, hend⟩

end Moment

end QueryCache
