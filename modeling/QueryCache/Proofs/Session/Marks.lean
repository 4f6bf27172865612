import QueryCache.Layer.Store
import QueryCache.Proofs.Session.Effect

/-!
# Marks

While its runner is at work, the key of a query is marked. Every mark is that of a query whose
runner is at work, so that none is left behind, whatever the runners ask of the session and
however the queries end (`idle_converse` says so of a conversation as a whole). And a mark stays
until then, and makes every further query for its key fail, unless somebody makes the session
forget it.
-/

namespace QueryCache

variable {ρ σ τ : Type}

/-- Whether a session may forget a key by an act. -/
def Act.forgets (k : Key) : Act → Bool
  | .commit | .rollback | .clearMemo | .close _ => true
  | .store k' _ => k' = k
  | .defer _ => false

namespace Happening

/-- Whether a query has its outcome after this. -/
def concludes : Happening ρ → Bool
  | refused _ | told .. | answered .. => true
  | _ => false

/-- Whether a session may forget a key by this, other than by the end of a query. -/
def forgets (k : Key) : Happening ρ → Bool
  | updated .. => true
  | did a _ => a.forgets k
  | _ => false

end Happening

/-- An act by which a key is not forgotten leaves what is remembered under it. -/
theorem Session.lookup_acted (x : Session ρ) {k : Key} {a : Act} (ha : a.forgets k = false) :
    (x.acted a).memo.lookup k = x.memo.lookup k := by
  cases a with
  | commit => exact nomatch ha
  | rollback => exact nomatch ha
  | clearMemo => exact nomatch ha
  | close force => exact nomatch ha
  | store k' list =>
    rw [Session.acted, Memo.lookup_resolve, if_neg (of_decide_eq_false ha)]
  | defer load => rw [memo_acted_defer]

/-- So it leaves its mark. -/
theorem Session.Marks.acted {x : Session ρ} {k : Key} {a : Act} (h : x.Marks k)
    (ha : a.forgets k = false) : (x.acted a).Marks k :=
  (x.lookup_acted ha).trans h

/-- A query for a marked key fails at once. -/
theorem Scene.Consults.circular_of_marks {g : Setting ρ σ τ} {callers : Caller → Prop}
    {others : Scene ρ σ τ → Scene ρ σ τ → Prop} {s s' : Scene ρ σ τ} {r : Request ρ} {k : Key}
    {o : Consulted ρ} (h : Consults g callers others r k s o s') (hm : s.session.Marks k) :
    o = .told ⟨.error (.circular r.statement.id), r.bound⟩ ∧ s' = s := by
  have hno {v : Option Memory} (known : s.session.memo.lookup k = v)
      (hv : v ≠ some .inFlight) : False := hv (known.symm.trans hm)
  cases h with
  | circular known => exact ⟨rfl, rfl⟩
  | remembered known => exact (hno known (by simp)).elim
  | refused unknown refusal => exact (hno unknown (by simp)).elim
  | unshared unknown unshared => exact (hno unknown (by simp)).elim
  | failed unknown shared hc looked => exact (hno unknown (by simp)).elim
  | found unknown shared hc looked => exact (hno unknown (by simp)).elim
  | missed unknown shared hc looked nothing => exact (hno unknown (by simp)).elim

/-- The beginning of a query leaves the client alone. -/
theorem Scene.client_enter (g : Setting ρ σ τ) (st : Statement ρ) (s : Scene ρ σ τ) :
    (s.enter g st).client = s.client := by
  have hflush (s : Scene ρ σ τ) : (s.flush g st).client = s.client := by
    unfold flush
    split
    · cases st.cache <;> rfl
    · rfl
  unfold enter
  refine (hflush _).trans ?_
  split <;> rfl

/-- A query inside another one leaves the client alone when it ends. -/
theorem Scene.client_finish {g : Setting ρ σ τ} {o : Outcome} {s : Scene ρ σ τ}
    (h : s.session.depth - 1 ≠ 0) : (finish g o s).state.client = s.client := by
  unfold finish
  simp only [onSession, h, if_false]

/-- A store as the only shared cache, and a client that counts what runners do. -/
def oneStore : Setting Unit Store Nat where
  cache _ := Store.cache
  deliver _ _ n := n

/-- A query under the empty key. -/
def plainRequest : Request Unit where
  statement := .ofCommand "sel" .select
  key? := some {}

/-- A runner that does something, asks for its own key again and answers what it is told; if
the runner is asked for that as well, it answers as given. -/
def askingAgain (first : Nat → (Nat → Talk Unit Nat) → Talk Unit Nat)
    (inner : Except Failure Output) (n : Nat) : Talk Unit Nat :=
  first (n + 1) fun n =>
    .query plainRequest n (fun n => .finish inner (n + 1)) fun o n =>
      .finish (o.result.map fun list => { rows := list }) n

/-- The user of a session who makes one query. -/
def askingOnce (runner : Nat → Talk Unit Nat) : Talk Unit Nat :=
  .query plainRequest 0 runner fun o n => .finish (o.result.map fun list => { rows := list }) n

namespace Moment

variable {g : Setting ρ σ τ} {callers : Caller → Prop}
  {others : Scene ρ σ τ → Scene ρ σ τ → Prop} {m m' : Moment ρ σ τ} {e : Happening ρ}
  {es : List (Happening ρ)}

/-! ### No mark is left behind -/

/-- The queries that are running are counted, and every mark is that of one of them. -/
structure Tidy (m : Moment ρ σ τ) : Prop where
  depth : m.scene.session.depth = m.frames.length
  marks : ∀ k, m.scene.session.Marks k → ∃ f ∈ m.frames, f.key = k

theorem tidy_opened (settings : SessionSettings) (talk : Talk ρ τ) (shared : σ) (client : τ) :
    (opened settings talk shared client).Tidy where
  depth := rfl
  marks := fun _ hk => nomatch hk

/-- A query is counted while it is running. -/
theorem Tidy.depth_ne_zero (ht : m.Tidy) {inner outer : List (Frame ρ τ)} {f : Frame ρ τ}
    (h : m.frames = inner ++ f :: outer) : m.scene.session.depth ≠ 0 := by
  rw [ht.depth, h, List.length_append, List.length_cons]
  omega

theorem Step.tidy (hothers : ∀ s s', others s s' → s'.session = s.session)
    (h : Step g callers others m e m') (ht : m.Tidy) : m'.Tidy := by
  cases h with
  | others moved =>
    have hs := hothers _ _ moved
    refine ⟨(congrArg Session.depth hs).trans ht.depth, fun k hk => ht.marks k ?_⟩
    rwa [Session.Marks, hs] at hk
  | look => exact ⟨ht.depth, ht.marks⟩
  | update e =>
    have hs := (Scene.alike_update e).steady
    exact ⟨(hs.depth.trans (Session.depth_clearMemo _)).trans ht.depth,
      fun k hk => ht.marks k (Session.marks_of_clearMemo ((hs.marks k).mp hk))⟩
  | act hc e =>
    have hs := (Scene.alike_perform e).steady
    exact ⟨(hs.depth.trans (Session.depth_acted _ _)).trans ht.depth,
      fun k hk => ht.marks k (Session.marks_of_acted ((hs.marks k).mp hk))⟩
  | refuse closed => exact ⟨ht.depth, ht.marks⟩
  | tell isOpen e =>
    have hs := steady_told hothers e
    refine ⟨?_, fun k hk => ht.marks k ?_⟩
    · rw [session_conclude, Session.depth_concluded, depth_told hothers e]
      exact ht.depth
    · rw [session_conclude] at hk
      exact Session.marks_of_entered ((hs.marks k).mp (Session.marks_of_concluded hk))
  | @ask fs r y runner next s shared s' isOpen e =>
    have hs := steady_asked hothers e
    refine ⟨hs.depth.trans (congrArg (· + 1) ht.depth), fun k hk => ?_⟩
    replace hk : (if r.keyIn s.session = k then some .inFlight else s'.session.memo.lookup k) =
      some .inFlight := (Memo.lookup_markInFlight _ _ k).symm.trans hk
    split at hk
    · next heq => exact ⟨_, List.mem_cons_self, heq⟩
    · obtain ⟨f, hf, hfk⟩ := ht.marks k (Session.marks_of_entered ((hs.marks k).mp hk))
      exact ⟨f, List.mem_cons_of_mem _ hf, hfk⟩
  | @answer f fs c a y s r e =>
    obtain ⟨⟨_, hdepth, _⟩, hmemo⟩ := Scene.lookup_answered e
    refine ⟨?_, fun k hk => ?_⟩
    · rw [session_conclude, Session.depth_concluded, hdepth]
      exact Nat.sub_eq_of_eq_add ht.depth
    · rw [session_conclude] at hk
      replace hk := (hmemo k).symm.trans (Session.marks_of_concluded hk)
      split at hk
      · cases a <;> cases hk
      · next hne =>
        obtain ⟨f', hf', hfk⟩ := ht.marks k hk
        rcases List.mem_cons.mp hf' with rfl | hin
        · exact absurd hfk hne
        · exact ⟨f', hin, hfk⟩

theorem Course.tidy (hothers : ∀ s s', others s s' → s'.session = s.session)
    (c : Course g callers others m es m') (ht : m.Tidy) : m'.Tidy := by
  induction c with
  | start => exact ht
  | step c h ih => exact h.tidy hothers ih

/-- A conversation that comes to an end leaves its session as it found it in this: no query is
counted and no key is marked, whatever its queries asked of their runners, and these of the
session. -/
theorem idle_converse (hothers : ∀ s s', others s s' → s'.session = s.session)
    (t : Talk ρ τ) {c : Caller} {s : Scene ρ σ τ}
    {reply : Reply (Scene ρ σ τ) (Except Failure Output)} (hc : callers c)
    (h : (Scene.converse g t c s).EndsBy callers others reply)
    (hdepth : s.session.depth = 0) (hmarks : ∀ k, ¬ s.session.Marks k) :
    reply.state.session.depth = 0 ∧ ∀ k, ¬ reply.state.session.Marks k := by
  have ht : (⟨[], t, s⟩ : Moment ρ σ τ).Tidy := ⟨hdepth, fun k hk => absurd hk (hmarks k)⟩
  obtain ⟨es, y, s', hcourse, hend⟩ := course_converse t [] hc h
  have hafter := hcourse.tidy hothers ht
  rw [hend]
  refine ⟨hafter.depth, fun k hk => ?_⟩
  obtain ⟨f, hf, -⟩ := hafter.marks k hk
  exact nomatch hf

/-- In statement scope the outermost query leaves nothing remembered. -/
theorem Step.memo_of_concludes (hothers : ∀ s s', others s s' → s'.session = s.session)
    (h : Step g callers others m e m') (ht : m.Tidy) (he : e.concludes = true)
    (hlast : m'.frames = []) (hscope : m'.scene.session.settings.scope = .statement)
    (hopen : m'.scene.session.closed = false) : m'.scene.session.memo = .empty := by
  cases h with
  | refuse closed => exact absurd hopen (by simp [closed])
  | tell isOpen e =>
    rw [session_conclude] at hscope hopen ⊢
    rw [Session.settings_concluded] at hscope
    rw [Session.closed_concluded] at hopen
    refine Session.memo_concluded_of_statement ?_ hscope hopen
    exact (depth_told hothers e).trans (ht.depth.trans (congrArg List.length hlast))
  | @answer f fs c a y s r e =>
    obtain ⟨⟨_, hdepth, _⟩, _⟩ := Scene.lookup_answered e
    rw [session_conclude] at hscope hopen ⊢
    rw [Session.settings_concluded] at hscope
    rw [Session.closed_concluded] at hopen
    refine Session.memo_concluded_of_statement ?_ hscope hopen
    rw [hdepth]
    refine Nat.sub_eq_of_eq_add (ht.depth.trans ?_)
    exact congrArg (·.length + 1) hlast
  | others moved => exact nomatch he
  | look => exact nomatch he
  | update e => exact nomatch he
  | act hc e => exact nomatch he
  | ask isOpen e => exact nomatch he

/-- Whatever the runners of a session do, at any depth: there are marks for running queries
only, which are counted; so nothing but rows is remembered while none is running, and in
statement scope nothing at all after an outermost query, unless the session was closed. -/
theorem no_mark_stays (hothers : ∀ s s', others s s' → s'.session = s.session)
    {settings : SessionSettings} {talk : Talk ρ τ} {shared : σ} {client : τ}
    (c : Course g callers others (opened settings talk shared client) es m) :
    m.scene.session.depth = m.frames.length ∧
    (∀ k, m.scene.session.memo.lookup k = some .inFlight → ∃ f ∈ m.frames, f.key = k) ∧
    (m.frames = [] → ∀ k v, m.scene.session.memo.lookup k = some v →
      ∃ list, v = .resolved list) ∧
    ∀ e m', Step g callers others m e m' → e.concludes = true → m'.frames = [] →
      m'.scene.session.settings.scope = .statement → m'.scene.session.closed = false →
      m'.scene.session.memo = .empty := by
  have ht := c.tidy hothers (tidy_opened settings talk shared client)
  refine ⟨ht.depth, ht.marks, ?_, fun e m' h => h.memo_of_concludes hothers ht⟩
  intro hnone k v hv
  cases v with
  | resolved list => exact ⟨list, rfl⟩
  | inFlight =>
    obtain ⟨f, hf, _⟩ := ht.marks k hv
    rw [hnone] at hf
    exact nomatch hf

/-- A runner makes its session forget, asks for its own key again and is told of a failure:
the marks of both queries are gone in the end. -/
theorem no_mark_stays_nested :
    ∃ (m m' : Moment Unit Store Nat) (es : List (Happening Unit)) (e : Happening Unit),
      Course oneStore (fun _ => True) Eq
        (opened { scope := .statement }
          (askingOnce (askingAgain (fun n next => .act .clearMemo n fun _ => next)
            (.error .closed))) { name := "users" } 0) es m ∧
      es.length = 4 ∧ m.scene.session.depth = 1 ∧ Step oneStore (fun _ => True) Eq m e m' ∧
      m'.scene.session.depth = 0 ∧ m'.scene.session.memo = .empty := by
  have begun : Course oneStore (fun _ => True) Eq
      (opened { scope := .statement }
        (askingOnce (askingAgain (fun n next => .act .clearMemo n fun _ => next)
          (.error .closed))) { name := "users" } 0) [] _ := .start
  have asked := begun.step (.ask rfl (.unshared rfl rfl))
  have forgot := asked.step (.act (c := {}) True.intro rfl)
  have again := forgot.step (.ask rfl (.unshared rfl rfl))
  have told := again.step (.answer (c := {}) rfl)
  have hothers (s s' : Scene Unit Store Nat) (h : s = s') : s'.session = s.session := by rw [h]
  obtain ⟨hdepth, _, _, hmemo⟩ := no_mark_stays hothers told
  refine ⟨_, _, _, _, told, rfl, hdepth, .answer (c := {}) rfl, ?_, ?_⟩
  · exact (no_mark_stays hothers (told.step (.answer (c := {}) rfl))).1
  · exact hmemo _ _ (.answer (c := {}) rfl) rfl rfl rfl rfl

/-! ### A mark stays while its query is running -/

/-- As long as the query of a frame is running, its session is open, its key is marked, and no
query inside it is for the same key. -/
def Guarded (f : Frame ρ τ) (outer : List (Frame ρ τ)) (m : Moment ρ σ τ) : Prop :=
  ∀ inner, m.frames = inner ++ f :: outer →
    m.scene.session.closed = false ∧ m.scene.session.Marks f.key ∧ ∀ f' ∈ inner, f'.key ≠ f.key

variable {f : Frame ρ τ} {outer : List (Frame ρ τ)}

/-- A query that has just asked its runner is marked. -/
theorem Step.guarded_asked (hothers : ∀ s s', others s s' → s'.session = s.session)
    {r : Request ρ} {k : Key} (h : Step g callers others m (.asked r k) m') :
    ∃ f, m'.frames = f :: m.frames ∧ f.key = k ∧ m'.Guarded f m.frames := by
  cases h with
  | @ask fs r y runner next s shared s' isOpen e =>
    refine ⟨⟨r, r.keyIn s.session, shared, next⟩, rfl, rfl, fun inner hin => ?_⟩
    obtain rfl : inner = [] := List.self_eq_append_left.mp hin
    have hs := steady_asked hothers e
    refine ⟨(hs.closed.trans (Session.closed_entered _ _)).trans isOpen, ?_, ?_⟩
    · exact (Memo.lookup_markInFlight _ _ _).trans (if_pos rfl)
    · exact fun f' hf' => nomatch hf'

/-- A step by which the key is not forgotten leaves the mark of a running query. -/
theorem Step.guarded (hothers : ∀ s s', others s s' → s'.session = s.session)
    (h : Step g callers others m e m') (ht : m.Tidy) (hg : m.Guarded f outer)
    (he : e.forgets f.key = false) : m'.Guarded f outer := by
  intro inner hin
  cases h with
  | others moved =>
    obtain ⟨hopen, hm, hi⟩ := hg inner hin
    have hs := hothers _ _ moved
    exact ⟨(congrArg Session.closed hs).trans hopen, by rwa [hs], hi⟩
  | look => exact hg inner hin
  | update e => exact nomatch he
  | @act _ a y _ s c r hc e =>
    obtain ⟨hopen, hm, hi⟩ := hg inner hin
    have hs := (Scene.alike_perform e).steady
    refine ⟨?_, (hs.marks f.key).mpr (hm.acted he), hi⟩
    rw [hs.closed, Session.closed_acted fun force ha => ?_]
    · exact hopen
    · rw [ha] at he
      exact nomatch he
  | refuse closed => exact hg inner hin
  | @tell fs r y runner next s o s' isOpen e =>
    obtain ⟨hopen, hm, hi⟩ := hg inner hin
    have hs := steady_told hothers e
    have hdepth := ht.depth_ne_zero hin
    rw [session_conclude]
    refine ⟨?_, ?_, hi⟩
    · rw [Session.closed_concluded, hs.closed, Session.closed_entered]
      exact isOpen
    · refine Session.Marks.concluded ((hs.marks f.key).mpr (hm.entered hdepth _)) ?_
      rw [depth_told hothers e]
      exact hdepth
  | @ask fs r y runner next s shared s' isOpen e =>
    have hs := (Scene.alike_enter g r.statement { s with client := y }).steady
    have hs' := steady_asked hothers e
    refine ⟨(hs'.closed.trans (Session.closed_entered _ _)).trans isOpen, ?_⟩
    -- the query of the frame is the one that asks, or it was running before
    cases inner with
    | nil =>
      have hf := (List.cons.inj hin).1
      refine ⟨(Memo.lookup_markInFlight _ _ _).trans (if_pos ?_), fun f' hf' => nomatch hf'⟩
      exact congrArg Frame.key hf
    | cons f₁ inner =>
      obtain ⟨hf₁, hfs⟩ := List.cons.inj hin
      obtain ⟨hopen, hm, hi⟩ := hg inner hfs
      have hdepth := ht.depth_ne_zero hfs
      have hentered := hm.entered hdepth r.statement.flush
      refine ⟨?_, fun f' hf' => ?_⟩
      · refine (Memo.lookup_markInFlight _ _ _).trans ?_
        split
        · rfl
        · exact (hs'.marks f.key).mpr hentered
      · rcases List.mem_cons.mp hf' with rfl | hin'
        · intro heq
          have hnone := (e.asks hothers).2.1
          rw [← hf₁] at heq
          exact absurd (hnone.symm.trans (heq ▸ (hs.marks f.key).mpr hentered)) (by simp)
        · exact hi f' hin'
  | @answer f₁ fs c a y s r e =>
    obtain ⟨hopen, hm, hi⟩ := hg (f₁ :: inner) (congrArg (f₁ :: ·) hin)
    obtain ⟨⟨_, hdepth, hclosed⟩, hmemo⟩ := Scene.lookup_answered e
    rw [session_conclude]
    refine ⟨?_, ?_, fun f' hf' => hi f' (List.mem_cons_of_mem _ hf')⟩
    · rw [Session.closed_concluded, hclosed]
      exact hopen
    · refine Session.Marks.concluded ?_ ?_
      · exact (hmemo f.key).trans ((if_neg (hi f₁ List.mem_cons_self)).trans hm)
      · have hcount : s.session.depth = (inner ++ f :: outer).length + 1 :=
          ht.depth.trans (congrArg (·.length + 1) hin)
        rw [List.length_append, List.length_cons] at hcount
        rw [hdepth, hcount]
        omega

theorem Course.guarded (hothers : ∀ s s', others s s' → s'.session = s.session)
    (c : Course g callers others m es m') (ht : m.Tidy) (hg : m.Guarded f outer)
    (he : ∀ e ∈ es, e.forgets f.key = false) : m'.Guarded f outer := by
  induction c with
  | start => exact hg
  | @step es m' e m'' c h ih =>
    refine h.guarded hothers (c.tidy hothers ht) (ih fun e' he' => ?_) ?_
    · exact he e' (List.mem_append_left _ he')
    · exact he e (List.mem_append_right _ List.mem_cons_self)

/-- While a query is running whose mark was not forgotten, any other query for its key fails
at once: no other step is possible, but those of others. -/
theorem marked_key_fails (hothers : ∀ s s', others s s' → s'.session = s.session)
    {settings : SessionSettings} {talk : Talk ρ τ} {shared : σ} {client : τ}
    (c : Course g callers others (opened settings talk shared client) es m)
    {r : Request ρ} {k : Key} (asked : Step g callers others m (.asked r k) m')
    {since : List (Happening ρ)} {now : Moment ρ σ τ} (c' : Course g callers others m' since now)
    (hkept : ∀ e ∈ since, e.forgets k = false) (running : m'.frames <:+ now.frames)
    {r' : Request ρ} {y : τ} {runner : τ → Talk ρ τ} {next : Outcome → τ → Talk ρ τ}
    (htalk : now.talk = .query r' y runner next) (hkey : r'.keyIn now.scene.session = k) :
    (∃ later, Step g callers others now
      (.told r' k ⟨.error (.circular r'.statement.id), r'.bound⟩) later) ∧
    ∀ e later, Step g callers others now e later → e = .others ∨
      e = .told r' k ⟨.error (.circular r'.statement.id), r'.bound⟩ ∧
        later.frames = now.frames ∧
        later.talk = next ⟨.error (.circular r'.statement.id), r'.bound⟩ y := by
  have ht := c.tidy hothers (tidy_opened settings talk shared client)
  have ht' := asked.tidy hothers ht
  have hnow := c'.tidy hothers ht'
  obtain ⟨f, hf, rfl, hg⟩ := asked.guarded_asked hothers
  obtain ⟨inner, hin⟩ := running
  rw [hf] at hin
  obtain ⟨hopen, hm, _⟩ := c'.guarded hothers ht' hg hkept inner hin.symm
  obtain ⟨fs, t, s⟩ := now
  subst htalk
  have hdepth := hnow.depth_ne_zero hin.symm
  have hs := (Scene.alike_enter g r'.statement { s with client := y }).steady
  have hm' : (({ s with client := y } : Scene ρ σ τ).enter g r'.statement).session.Marks
      (r'.keyIn s.session) := by
    rw [hkey]
    exact (hs.marks f.key).mpr (hm.entered hdepth _)
  rw [← hkey]
  refine ⟨⟨_, .tell hopen (.circular hm')⟩, fun e later h => ?_⟩
  cases h with
  | others moved => exact .inl rfl
  | refuse closed => exact absurd (closed.symm.trans hopen) (by simp)
  | tell isOpen e =>
    obtain ⟨ho, rfl⟩ := e.circular_of_marks hm'
    cases ho
    refine .inr ⟨rfl, rfl, congrArg (next _) ((Scene.client_finish ?_).trans ?_)⟩
    · rw [hs.depth, Session.depth_entered, Nat.add_sub_cancel]
      exact hdepth
    · exact Scene.client_enter g _ _
  | ask isOpen e => exact nomatch (e.circular_of_marks hm').1

/-- A runner asks for another key and then for its own one, for which it is not asked again. -/
theorem marked_key_fails_nested :
    ∃ (now later : Moment Unit Store Nat) (es : List (Happening Unit)),
      Course oneStore (fun _ => True) Eq
        (opened {}
          (askingOnce (askingAgain
            (fun n next => .query { statement := .ofCommand "other" .select } n
              (fun n => .finish (.ok { rows := ⟨0, []⟩ }) n) fun _ => next)
            (.error .closed))) { name := "users" } 0) es now ∧
      es.length = 3 ∧
      Step oneStore (fun _ => True) Eq now
        (.told plainRequest {} ⟨.error (.circular "sel"), {}⟩) later := by
  have asked : Step oneStore (fun _ => True) Eq
      (opened {}
        (askingOnce (askingAgain
          (fun n next => .query { statement := .ofCommand "other" .select } n
            (fun n => .finish (.ok { rows := ⟨0, []⟩ }) n) fun _ => next)
          (.error .closed))) { name := "users" } 0) (.asked plainRequest {}) _ :=
    .ask rfl (.unshared rfl rfl)
  have hothers (s s' : Scene Unit Store Nat) (h : s = s') : s'.session = s.session := by rw [h]
  obtain ⟨⟨later, fails⟩, _⟩ := marked_key_fails hothers .start asked
    (.step (.step .start (.ask rfl (.unshared rfl rfl))) (.answer (c := {}) rfl))
    (by simp [Happening.forgets]) ⟨[], rfl⟩ rfl rfl
  exact ⟨_, _, _, .step (.step asked.course (.ask rfl (.unshared rfl rfl)))
    (.answer (c := {}) rfl), rfl, fails⟩

end Moment

/-- What a query is told, and how often its runner is asked, if the runner does something and
then asks for the key of the query again. -/
def askedAfter (first : Nat → (Nat → Talk Unit Nat) → Talk Unit Nat) :
    Option (Except Failure RowList × Nat) :=
  (Scene.queryWith oneStore (askingAgain first (.ok { rows := ⟨7, []⟩ })) plainRequest {}
    ⟨{}, { name := "users" }, 0⟩).reply?.map fun r => (r.value.result, r.state.client)

/-- A runner that asks for its own key is told that this is circular; but one that makes its
session forget before, in whichever way, is asked again. -/
theorem marked_key_forgotten :
    askedAfter (fun n next => .look n fun _ => next) = some (.error (.circular "sel"), 1) ∧
    askedAfter (fun n next => .update (.ofCommand "upd" .update) n (fun n => (.ok 1, n))
      fun _ => next) = some (.ok ⟨7, []⟩, 2) ∧
    askedAfter (fun n next => .act .commit n fun _ => next) = some (.ok ⟨7, []⟩, 2) ∧
    askedAfter (fun n next => .act .rollback n fun _ => next) = some (.ok ⟨7, []⟩, 2) ∧
    askedAfter (fun n next => .act .clearMemo n fun _ => next) = some (.ok ⟨7, []⟩, 2) :=
  ⟨rfl, rfl, rfl, rfl, rfl⟩

end QueryCache
