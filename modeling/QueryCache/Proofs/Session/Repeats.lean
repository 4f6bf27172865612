import QueryCache.Proofs.Session.Marks
import QueryCache.Proofs.Session.Publication

/-!
# Repeated queries

In session scope, the rows of a query stay remembered until the session is made to forget them,
or begins an outermost query that flushes. Meanwhile every query for their key is told these rows
at once: neither a runner nor a shared cache is asked.

This needs that no query for the key is still running when the rows are returned; the end of such
a query would replace or drop them. And it needs that the session is still open then, since the
runner may have closed it.
-/

namespace QueryCache

variable {ρ σ τ : Type}

namespace Scene.Consults

variable {g : Setting ρ σ τ} {callers : Caller → Prop}
  {others : Scene ρ σ τ → Scene ρ σ τ → Prop} {s s' : Scene ρ σ τ} {r : Request ρ} {k : Key}

/-- A query that is told its outcome leaves what is remembered. -/
theorem remembers (hothers : ∀ s s', others s s' → s'.session = s.session) {o : Outcome}
    (h : Consults g callers others r k s (.told o) s') {k' : Key} {v : Memory}
    (hv : s.session.memo.lookup k' = some v) : s'.session.memo.lookup k' = some v := by
  cases ho : o.result with
  | error f =>
    rw [(h.told_failure hothers ho).memo]
    exact hv
  | ok list =>
    obtain ⟨_, rfl⟩ | ⟨unknown, ref, c, reply, _, _, looked, _, rfl⟩ := h.told_rows ho
    · exact hv
    · have hne : k ≠ k' := by
        rintro rfl
        exact nomatch unknown.symm.trans hv
      refine (Memo.lookup_resolve _ _ _ _).trans ((if_neg hne).trans ?_)
      rw [(alike_lookup hothers looked).memo]
      exact hv

/-- A query that is told rows leaves them remembered. -/
theorem lookup_of_told {o : Outcome} {list : RowList}
    (h : Consults g callers others r k s (.told o) s') (ho : o.result = .ok list) :
    s'.session.memo.lookup k = some (.resolved list) := by
  obtain ⟨known, rfl⟩ | ⟨_, ref, c, reply, _, _, _, _, rfl⟩ := h.told_rows ho
  · exact known
  · exact (Memo.lookup_resolve _ _ _ _).trans (if_pos rfl)

/-- A query for a remembered key is told its rows at once. -/
theorem told_of_lookup {o : Consulted ρ} {list : RowList} (h : Consults g callers others r k s o s')
    (hk : s.session.memo.lookup k = some (.resolved list)) :
    o = .told (s.fromMemory r k list).value ∧ s' = s := by
  have hno {v : Option Memory} (known : s.session.memo.lookup k = v)
      (hv : v ≠ some (.resolved list)) : False := hv (known.symm.trans hk)
  cases h with
  | remembered known =>
    cases known.symm.trans hk
    exact ⟨rfl, rfl⟩
  | circular known => exact (hno known (by simp)).elim
  | refused unknown refusal => exact (hno unknown (by simp)).elim
  | unshared unknown unshared => exact (hno unknown (by simp)).elim
  | failed unknown shared hc looked => exact (hno unknown (by simp)).elim
  | found unknown shared hc looked => exact (hno unknown (by simp)).elim
  | missed unknown shared hc looked nothing => exact (hno unknown (by simp)).elim

end Scene.Consults

namespace Happening

/-- A query for the key has returned rows. -/
def Returns (k : Key) (list : RowList) : Happening ρ → Prop
  | told _ key o => key = k ∧ o.result = .ok list
  | answered _ key a => key = k ∧ a.map (·.rows) = .ok list
  | _ => False

/-- Whether this is the beginning of a query that flushes. -/
def flushes : Happening ρ → Bool
  | told r _ _ | asked r _ => r.statement.flush
  | _ => false

end Happening

namespace Moment

/-- A session may get from one moment to another without forgetting the key: there is no update,
commit, rollback, close or clearing of the memory, nothing is stored under the key, and no
outermost query flushes. -/
inductive Undisturbed (g : Setting ρ σ τ) (callers : Caller → Prop)
    (others : Scene ρ σ τ → Scene ρ σ τ → Prop) (k : Key) (m : Moment ρ σ τ) :
    Moment ρ σ τ → Prop
  | start : Undisturbed g callers others k m m
  | step {m' e m''} (c : Undisturbed g callers others k m m')
      (h : Step g callers others m' e m'') (kept : e.forgets k = false)
      (inside : m'.frames = [] → e.flushes = false) : Undisturbed g callers others k m m''

variable {g : Setting ρ σ τ} {callers : Caller → Prop}
  {others : Scene ρ σ τ → Scene ρ σ τ → Prop} {m m' : Moment ρ σ τ} {e : Happening ρ}
  {es : List (Happening ρ)} {k : Key} {list : RowList}

/-- The rows of a key are remembered by an open session in session scope, and no query for the
key is running. -/
structure Settled (k : Key) (list : RowList) (m : Moment ρ σ τ) : Prop where
  known : m.scene.session.memo.lookup k = some (.resolved list)
  isOpen : m.scene.session.closed = false
  scope : m.scene.session.settings.scope = .session
  outermost : ∀ f ∈ m.frames, f.key ≠ k

/-- In session scope the end of a query leaves what is remembered. -/
theorem memo_conclude {frames : List (Frame ρ τ)} {next : Outcome → τ → Talk ρ τ} {o : Outcome}
    {s : Scene ρ σ τ}
    (hscope : (conclude g frames next o s).scene.session.settings.scope = .session) :
    (conclude g frames next o s).scene.session.memo = s.session.memo := by
  rw [session_conclude] at hscope ⊢
  rw [Session.settings_concluded] at hscope
  exact Session.memo_concluded_of_session hscope

/-- A query that returns rows leaves them remembered. -/
theorem Step.known_of_returns (hothers : ∀ s s', others s s' → s'.session = s.session)
    (h : Step g callers others m e m') (he : e.Returns k list)
    (hscope : m.scene.session.settings.scope = .session) :
    m'.scene.session.memo.lookup k = some (.resolved list) := by
  have hscope' : m'.scene.session.settings.scope = .session := by
    rw [h.settings hothers]
    exact hscope
  cases h with
  | @tell fs r y runner next s o s' isOpen e =>
    obtain ⟨rfl, ho⟩ := he
    rw [memo_conclude hscope']
    exact e.lookup_of_told ho
  | @answer f fs c a y s r e =>
    obtain ⟨rfl, ha⟩ := he
    rw [memo_conclude hscope', (Scene.lookup_answered e).2, if_pos rfl]
    cases a with
    | error f => exact nomatch ha
    | ok out =>
      cases ha
      rfl
  | others moved => exact he.elim
  | look => exact he.elim
  | update e => exact he.elim
  | act hc e => exact he.elim
  | refuse closed => exact he.elim
  | ask isOpen e => exact he.elim

/-- At the beginning of a query that is inside another one or does not flush, everything is still
remembered. -/
theorem memo_enter (ht : m.Tidy) {r : Request ρ} {y : τ}
    (hflush : m.frames = [] → r.statement.flush = false) :
    (({ m.scene with client := y } : Scene ρ σ τ).enter g r.statement).session.memo =
      m.scene.session.memo := by
  rw [(Scene.alike_enter g r.statement { m.scene with client := y }).memo]
  refine Session.memo_entered fun hdepth => hflush (List.length_eq_zero_iff.mp ?_)
  exact ht.depth.symm.trans hdepth

/-- A step by which the key is not forgotten leaves its rows remembered. -/
theorem Step.settled (hothers : ∀ s s', others s s' → s'.session = s.session)
    (h : Step g callers others m e m') (ht : m.Tidy) (hs : m.Settled k list)
    (kept : e.forgets k = false) (inside : m.frames = [] → e.flushes = false) :
    m'.Settled k list := by
  have hscope : m'.scene.session.settings.scope = .session := by
    rw [h.settings hothers]
    exact hs.scope
  have hopen : m'.scene.session.closed = false := by
    rw [h.closed_eq hothers, hs.isOpen]
    rintro force x rfl
    exact nomatch kept
  suffices hknown : m'.scene.session.memo.lookup k = some (.resolved list) ∧
      ∀ f ∈ m'.frames, f.key ≠ k from ⟨hknown.1, hopen, hscope, hknown.2⟩
  cases h with
  | others moved =>
    rw [hothers _ _ moved]
    exact ⟨hs.known, hs.outermost⟩
  | look => exact ⟨hs.known, hs.outermost⟩
  | update e => exact nomatch kept
  | @act fs a y next s c r hc e =>
    have hsame := Scene.alike_perform e
    rw [hsame.memo, Session.lookup_acted _ kept]
    exact ⟨hs.known, hs.outermost⟩
  | refuse closed => exact ⟨hs.known, hs.outermost⟩
  | @tell fs r y runner next s o s' isOpen e =>
    rw [memo_conclude hscope]
    refine ⟨e.remembers hothers ?_, hs.outermost⟩
    rw [memo_enter ht inside]
    exact hs.known
  | @ask fs r y runner next s shared s' isOpen e =>
    obtain ⟨hsame, hnone, _⟩ := e.asks hothers
    have hmemo := memo_enter (g := g) (y := y) ht inside
    -- The query would not ask its runner if the rows of its key were known.
    have hne : r.keyIn s.session ≠ k := by
      rintro rfl
      rw [hmemo] at hnone
      exact nomatch hnone.symm.trans hs.known
    constructor
    · refine (Memo.lookup_markInFlight _ _ _).trans ((if_neg hne).trans ?_)
      rw [hsame.memo, hmemo]
      exact hs.known
    · intro f hf
      rcases List.mem_cons.mp hf with rfl | hin
      · exact hne
      · exact hs.outermost f hin
  | @answer f fs c a y s r e =>
    have hne : f.key ≠ k := hs.outermost f List.mem_cons_self
    rw [memo_conclude hscope, (Scene.lookup_answered e).2, if_neg hne]
    exact ⟨hs.known, fun f' hf' => hs.outermost f' (List.mem_cons_of_mem _ hf')⟩

/-- While the key is not forgotten, its rows stay remembered. -/
theorem Undisturbed.settled (hothers : ∀ s s', others s s' → s'.session = s.session)
    (c : Undisturbed g callers others k m m') (ht : m.Tidy) (hs : m.Settled k list) :
    m'.Tidy ∧ m'.Settled k list := by
  induction c with
  | start => exact ⟨ht, hs⟩
  | step c h kept inside ih => exact ⟨h.tidy hothers ih.1, h.settled hothers ih.1 ih.2 kept inside⟩

/-- A query for a key whose rows are remembered is told them at once, unless it is an outermost one
that flushes: no other step is possible, but those of others. -/
theorem Settled.told (g : Setting ρ σ τ) (callers : Caller → Prop)
    (others : Scene ρ σ τ → Scene ρ σ τ → Prop) (hs : m.Settled k list) (ht : m.Tidy)
    {r : Request ρ} {y : τ} {runner : τ → Talk ρ τ} {next : Outcome → τ → Talk ρ τ}
    (htalk : m.talk = .query r y runner next)
    (hkey : r.keyIn m.scene.session = k) (hflush : m.frames = [] → r.statement.flush = false) :
    let o := (m.scene.fromMemory r k list).value
    (∃ later, Step g callers others m (.told r k o) later) ∧
    ∀ e later, Step g callers others m e later → e = .others ∨
      e = .told r k o ∧ later.frames = m.frames ∧ later.talk = next o later.scene.client ∧
        later.scene.shared = m.scene.shared := by
  intro o
  obtain ⟨fs, t, s⟩ := m
  subst htalk
  subst hkey
  have hmemo := memo_enter (g := g) (y := y) ht hflush
  have hknown : (({ s with client := y } : Scene ρ σ τ).enter g r.statement).session.memo.lookup
      (r.keyIn s.session) = some (.resolved list) := by
    rw [hmemo]
    exact hs.known
  have houtcome : ((({ s with client := y } : Scene ρ σ τ).enter g r.statement).fromMemory r
      (r.keyIn s.session) list).value = o := by
    rw [Scene.fromMemory, hmemo]
    rfl
  rw [← houtcome]
  refine ⟨⟨_, .tell hs.isOpen (.remembered hknown)⟩, fun e later h => ?_⟩
  cases h with
  | others moved => exact .inl rfl
  | refuse closed => exact nomatch closed.symm.trans hs.isOpen
  | tell isOpen e =>
    obtain ⟨ho, rfl⟩ := e.told_of_lookup hknown
    cases ho
    refine .inr ⟨rfl, rfl, rfl, ?_⟩
    exact (Scene.shared_finish g _ _).trans (Scene.shared_enter g r.statement _)
  | ask isOpen e => exact nomatch (e.told_of_lookup hknown).1

/-- Once rows were returned for a key in an open session in session scope, with no query for the
key still running, every query for it is told these very rows, at any depth and for whatever
statement, until the session is made to forget them: no other step is possible, but those of
others. The shared caches are left as they are, even those that count their calls. -/
theorem rows_repeat (hothers : ∀ s s', others s s' → s'.session = s.session)
    {settings : SessionSettings} (hscope : settings.scope = .session) {talk : Talk ρ τ}
    {shared : σ} {client : τ}
    (c : Course g callers others (opened settings talk shared client) es m)
    (returned : Step g callers others m e m') (he : e.Returns k list)
    (outermost : ∀ f ∈ m'.frames, f.key ≠ k) (isOpen : m'.scene.session.closed = false)
    {now : Moment ρ σ τ} (since : Undisturbed g callers others k m' now)
    {r : Request ρ} {y : τ} {runner : τ → Talk ρ τ} {next : Outcome → τ → Talk ρ τ}
    (htalk : now.talk = .query r y runner next) (hkey : r.keyIn now.scene.session = k)
    (hflush : now.frames = [] → r.statement.flush = false) :
    (∃ o later, Step g callers others now (.told r k o) later) ∧
    ∀ e later, Step g callers others now e later → e = .others ∨
      ∃ o, e = .told r k o ∧ o.result = .ok list ∧ later.frames = now.frames ∧
        later.talk = next o later.scene.client ∧ later.scene.shared = now.scene.shared := by
  have ht := c.tidy hothers (tidy_opened settings talk shared client)
  have hm : m.scene.session.settings.scope = .session := by
    rw [c.settings hothers]
    exact hscope
  have hm' : m'.Settled k list :=
    ⟨returned.known_of_returns hothers he hm, isOpen, by rw [returned.settings hothers, hm],
      outermost⟩
  obtain ⟨hnow, hs⟩ := since.settled hothers (returned.tidy hothers ht) hm'
  obtain ⟨hpossible, hall⟩ := hs.told g callers others hnow htalk hkey hflush
  refine ⟨⟨_, hpossible⟩, fun e later h => ?_⟩
  rcases hall e later h with hmoved | ⟨htold, hframes, hnext, hshared⟩
  · exact .inl hmoved
  · exact .inr ⟨_, htold, rfl, hframes, hnext, hshared⟩

end Moment

/-- A query that goes through no shared cache. -/
def bareRequest (k : Key) : Request Bool where
  statement := .ofCommand "sel" .select
  key? := some k

/-- A user who makes a query, and then another one whose runner asks for the key of the first one
through a shared cache. -/
def askingInside : Talk Bool Unit :=
  .query (bareRequest {}) () (fun _ => .finish (.ok { rows := ⟨1, []⟩ }) ()) fun _ _ =>
    .query (bareRequest { hashcode := 1 }) ()
      (fun _ => .query (leftRequest {}) () (fun _ => .finish (.ok { rows := ⟨2, []⟩ }) ())
        fun o _ => .finish (o.result.map fun list => { rows := list }) ())
      fun _ _ => .finish (.error .closed) ()

/-- Others may do anything, but not to the session. -/
def apart {ρ σ τ : Type} (s s' : Scene ρ σ τ) : Prop := s'.session = s.session

namespace Moment

/-- Meanwhile somebody stores other rows in the shared caches. Still the rows are those of the
first time, and no shared cache is called for them. -/
theorem rows_repeat_nested :
    ∃ (m now later : Moment Bool (Over (Journal Bool) (Bool → Store)) Unit) (o : Outcome),
      Course twoJournaled (fun _ => True) apart
        (opened {} askingInside ⟨[], fun _ => { name := "" }⟩ ())
        [.asked (bareRequest {}) {}, .answered (bareRequest {}) {} (.ok { rows := ⟨1, []⟩ })] m ∧
      Undisturbed twoJournaled (fun _ => True) apart {} m now ∧
      Step twoJournaled (fun _ => True) apart now (.told (leftRequest {}) {} o) later ∧
      o.result = .ok ⟨1, []⟩ ∧ later.scene.shared.own = [] := by
  have begun : Course twoJournaled (fun _ => True) apart
      (opened {} askingInside ⟨[], fun _ => { name := "" }⟩ ()) [] _ := .start
  have asked := begun.step (.ask rfl (.unshared rfl rfl))
  have answered := asked.step (.answer (c := {}) rfl)
  have still {m m' : Moment Bool (Over (Journal Bool) (Bool → Store)) Unit}
      {es : List (Happening Bool)} (_ : Course twoJournaled (fun _ => True) apart m es m') :
      Undisturbed twoJournaled (fun _ => True) apart {} m' m' := .start
  have stored := (still answered).step (.others (show apart _ ⟨_, ⟨[], fun _ =>
    { name := "", entries := .ofList [({}, .rows ⟨3, []⟩)] }⟩, ()⟩ from rfl)) rfl fun _ => rfl
  have inside := stored.step (.ask rfl (.unshared rfl rfl)) rfl fun _ => rfl
  obtain ⟨⟨o, later, told⟩, hall⟩ := rows_repeat (fun _ _ h => h) rfl asked
    (.answer (c := {}) rfl) ⟨rfl, rfl⟩ (fun _ hf => nomatch hf) rfl inside rfl rfl fun _ => rfl
  rcases hall _ _ told with h | ⟨o', heq, ho, _, _, hshared⟩
  · exact nomatch h
  · cases heq
    exact ⟨_, _, _, o, answered, inside, told, ho, congrArg Over.own hshared⟩

end Moment

/-- What a query is told that is made twice, one time after the other. -/
def askedTwice (runner : Nat → Talk Unit Nat) :
    Option (Except Failure RowList × Except Failure RowList) := do
  let first ←
    (Scene.queryWith oneStore runner plainRequest {} ⟨{}, { name := "users" }, 0⟩).reply?
  let second ← (Scene.queryWith oneStore runner plainRequest {} first.state).reply?
  return (first.value.result, second.value.result)

/-- The rows of a runner that closes its session are returned, but only once. -/
theorem rows_gone_with_session :
    askedTwice (fun n => .finish (.ok { rows := ⟨7, []⟩ }) n) = some (.ok ⟨7, []⟩, .ok ⟨7, []⟩) ∧
    askedTwice (fun n => .act (.close false) n fun _ n => .finish (.ok { rows := ⟨7, []⟩ }) n) =
      some (.ok ⟨7, []⟩, .error .closed) :=
  ⟨rfl, rfl⟩

end QueryCache
