import QueryCache.Proofs.Session.Repeats

/-!
# Deferred loads

A load for a key whose rows are remembered is delivered at once. Any other load waits for the end
of the outermost query. If this query returns rows, the waiting loads are delivered in their
order, each with the rows that are remembered for its key at that moment, and those without rows
are skipped; if it fails, they are dropped. Nothing else that a session does delivers a load, and
but for closing the session nothing else takes one away.
-/

namespace QueryCache

variable {ρ σ τ : Type}

/-- The rows that are remembered for a key. -/
def Memo.rows? (m : Memo) (k : Key) : Option RowList :=
  match m.lookup k with
  | some (.resolved list) => some list
  | _ => none

/-- What is to be delivered of some loads: those for keys whose rows are remembered, in order. -/
def Memo.due (m : Memo) (loads : List DeferredLoad) : List (String × RowList) :=
  loads.filterMap fun load => (m.rows? load.key).map (load.label, ·)

/-- Deliver rows one after the other. -/
def Setting.deliverEach (g : Setting ρ σ τ) (due : List (String × RowList)) (client : τ) : τ :=
  due.foldl (fun client d => g.deliver d.1 d.2 client) client

/-- The client at this point of a conversation. -/
def Talk.client : Talk ρ τ → τ
  | .finish _ y | .query _ y _ _ | .update _ y _ _ | .act _ y _ | .look y _ => y

/-- Loads that are due depend only on what is remembered for each key. -/
theorem Memo.due_congr {m m' : Memo} (h : ∀ k, m'.lookup k = m.lookup k)
    (loads : List DeferredLoad) : m'.due loads = m.due loads := by
  simp only [due, rows?, h]

namespace Session

theorem deferred_clearMemo (x : Session ρ) : x.clearMemo.deferred = x.deferred := by
  unfold clearMemo
  split <;> rfl

/-- The beginning of a query leaves the waiting loads alone. -/
theorem deferred_entered (x : Session ρ) (flush : Bool) :
    (x.entered flush).deferred = x.deferred := by
  unfold entered
  dsimp only
  split
  · exact deferred_clearMemo x
  · rfl

/-- The end of an outermost query leaves no load waiting, and that of another one leaves them
alone. -/
theorem deferred_concluded (x : Session ρ) :
    x.concluded.deferred = if x.depth - 1 = 0 then [] else x.deferred := by
  unfold concluded
  dsimp only
  split
  · exact deferred_clearMemo _
  · rfl

/-- Only closing it and deferring loads change the waiting loads of a session. -/
theorem deferred_acted {x : Session ρ} {a : Act} (hclose : ∀ force, a ≠ .close force)
    (hdefer : ∀ load, a ≠ .defer load) : (x.acted a).deferred = x.deferred := by
  cases a with
  | commit => exact deferred_clearMemo x
  | rollback => exact deferred_clearMemo x
  | clearMemo => exact deferred_clearMemo x
  | store k list => rfl
  | close force => exact absurd rfl (hclose force)
  | defer load => exact absurd rfl (hdefer load)

/-- No load waits once a session is closed. -/
theorem deferred_acted_closed {x : Session ρ} (h : x.closed = true → x.deferred = []) (a : Act)
    (hclosed : (x.acted a).closed = true) : (x.acted a).deferred = [] := by
  have hforget (hx : x.clearMemo.closed = true) : x.clearMemo.deferred = [] := by
    rw [deferred_clearMemo]
    exact h ((closed_clearMemo x).symm.trans hx)
  cases a with
  | commit => exact hforget hclosed
  | rollback => exact hforget hclosed
  | clearMemo => exact hforget hclosed
  | store k list => exact h hclosed
  | close force =>
    unfold acted
    dsimp only
    split
    · next hx => exact h hx
    · rfl
  | defer load =>
    have hx : x.closed = true := (closed_acted (a := .defer load) (by simp)).symm.trans hclosed
    rw [acted, if_pos hx]
    exact h hx

end Session

namespace Scene

variable {g : Setting ρ σ τ} {callers : Caller → Prop}
  {others : Scene ρ σ τ → Scene ρ σ τ → Prop} {s s' : Scene ρ σ τ}

/-- The waiting loads are delivered in their order. -/
theorem client_deliverAll (g : Setting ρ σ τ) (loads : List DeferredLoad) (s : Scene ρ σ τ) :
    (deliverAll g loads s).state.client = g.deliverEach (s.session.memo.due loads) s.client := by
  induction loads generalizing s with
  | nil => rfl
  | cons load rest ih =>
    unfold deliverAll Memo.due
    rcases hk : s.session.memo.lookup load.key with _ | _ | list
    · have hnone : s.session.memo.rows? load.key = none := by rw [Memo.rows?, hk]
      rw [List.filterMap_cons_none (by rw [hnone]; rfl)]
      exact ih s
    · have hnone : s.session.memo.rows? load.key = none := by rw [Memo.rows?, hk]
      rw [List.filterMap_cons_none (by rw [hnone]; rfl)]
      exact ih s
    · have hsome : s.session.memo.rows? load.key = some list := by rw [Memo.rows?, hk]
      rw [List.filterMap_cons_some (by rw [hsome]; rfl)]
      exact ih _

/-- The end of an outermost query delivers the waiting loads if it returns rows. -/
theorem client_finish_outermost {o : Outcome} (h : s.session.depth - 1 = 0) :
    (finish g o s).state.client =
      match o.result with
      | .ok _ => g.deliverEach (s.session.memo.due s.session.deferred) s.client
      | .error _ => s.client := by
  have hend (s : Scene ρ σ τ) :
      (if s.session.settings.scope = .statement then s.onSession (·.clearMemo) else s).client =
        s.client := by
    split <;> rfl
  unfold finish
  simp only [onSession, h, if_true]
  cases o.result with
  | ok list =>
    refine (hend _).trans ?_
    exact client_deliverAll g _ _
  | error f => exact hend _

/-- An act that is no deferring leaves the client alone. -/
theorem client_perform {c : Caller} {a : Act} (hdefer : ∀ load, a ≠ .defer load) :
    (perform g c a s).state.client = s.client := by
  cases a with
  | commit =>
    simp only [perform, commit]
    split <;> rfl
  | rollback =>
    simp only [perform, rollback]
    split <;> rfl
  | close force =>
    simp only [perform, close]
    split
    · rfl
    · cases force <;> rfl
  | clearMemo => rfl
  | store k list => rfl
  | defer load => exact absurd rfl (hdefer load)

/-- The answer of a runner leaves the client and the waiting loads alone. -/
theorem client_answered {r : Request ρ} {k : Key} {shared : Option ρ} {c : Caller}
    {a : Except Failure Output} {reply : Reply (Scene ρ σ τ) Outcome}
    (h : answered g r k shared c a s = .done reply) :
    reply.state.client = s.client ∧ reply.state.session.deferred = s.session.deferred := by
  unfold answered at h
  cases a with
  | error f =>
    cases h
    exact ⟨rfl, rfl⟩
  | ok out =>
    dsimp only at h
    split at h <;> cases shared <;> cases h <;> exact ⟨rfl, rfl⟩

section

variable (hothers : ∀ s s', others s s' → s'.session = s.session ∧ s'.client = s.client)

include hothers

/-- A lookup in a shared cache leaves the client alone. -/
theorem client_lookup {c : Caller} {ref : ρ} {k : Key}
    {reply : Reply (Scene ρ σ τ) (Except CacheFailure (Option Entry))}
    (h : (lookup g c ref k s).EndsBy callers others reply) :
    reply.state.client = s.client := by
  have hlookup : (lookup g c ref k s).Always others (fun t => t.client = s.client)
      fun _ t => t.client = s.client := by
    apply Run.Always.within (fun t => t.client = s.client) (Run.always_true _) rfl
    · exact fun i t ht _ => ht
    · exact fun i t t' ht _ moved => ⟨True.intro, (hothers _ _ moved).2.trans ht⟩
    · exact fun a i t ht _ => ht
  exact hlookup.of_ends h.ends

/-- A query that has begun leaves the client and the waiting loads alone until its runner has
answered. -/
theorem Consults.client {r : Request ρ} {k : Key} {o : Consulted ρ}
    (h : Consults g callers others r k s o s') :
    s'.client = s.client ∧ s'.session.deferred = s.session.deferred := by
  have hsession := fun s s' moved => (hothers s s' moved).1
  rcases h.reached with rfl | ⟨c, ref, reply, _, looked, rfl | ⟨list, rfl⟩⟩
  · exact ⟨rfl, rfl⟩
  · exact ⟨client_lookup hothers looked, (alike_lookup hsession looked).deferred⟩
  · exact ⟨client_lookup hothers looked, (alike_lookup hsession looked).deferred⟩

end

/-- What is remembered after a query was told rows. -/
theorem Consults.lookup_after_told (hothers : ∀ s s', others s s' → s'.session = s.session)
    {r : Request ρ} {k : Key} {o : Outcome} {list : RowList}
    (h : Consults g callers others r k s (.told o) s') (ho : o.result = .ok list) (k' : Key) :
    s'.session.memo.lookup k' = (s.session.memo.resolve k list).lookup k' := by
  obtain ⟨known, rfl⟩ | ⟨_, ref, c, reply, _, _, looked, _, rfl⟩ := h.told_rows ho
  · rw [Memo.lookup_resolve]
    by_cases hk : k = k'
    · rw [if_pos hk, ← hk, known]
    · rw [if_neg hk]
  · rw [Memo.lookup_resolve]
    refine (Memo.lookup_resolve _ k k' list).trans ?_
    rw [(alike_lookup hothers looked).memo]

end Scene

namespace Moment

variable {g : Setting ρ σ τ} {callers : Caller → Prop}
  {others : Scene ρ σ τ → Scene ρ σ τ → Prop} {m m' : Moment ρ σ τ} {e : Happening ρ}
  {es : List (Happening ρ)}

/-- No load waits in a closed session. -/
theorem Step.deferred_closed (hothers : ∀ s s', others s s' → s'.session = s.session)
    (h : Step g callers others m e m')
    (hm : m.scene.session.closed = true → m.scene.session.deferred = [])
    (hclosed : m'.scene.session.closed = true) : m'.scene.session.deferred = [] := by
  cases h with
  | others moved =>
    rw [hothers _ _ moved] at hclosed ⊢
    exact hm hclosed
  | look => exact hm hclosed
  | update e =>
    have hs := Scene.alike_update e
    rw [hs.closed, Session.closed_clearMemo] at hclosed
    rw [hs.deferred, Session.deferred_clearMemo]
    exact hm hclosed
  | act hc e =>
    have hs := Scene.alike_perform e
    rw [hs.closed] at hclosed
    rw [hs.deferred]
    exact Session.deferred_acted_closed hm _ hclosed
  | refuse closed => exact hm closed
  | tell isOpen e =>
    have hs := steady_told hothers e
    rw [session_conclude, Session.closed_concluded, hs.closed, Session.closed_entered,
      isOpen] at hclosed
    exact nomatch hclosed
  | ask isOpen e =>
    have hs := steady_asked hothers e
    have hopen := hs.closed.trans ((Session.closed_entered _ _).trans isOpen)
    exact nomatch hclosed.symm.trans hopen
  | answer e =>
    rw [session_conclude, Session.closed_concluded, (Scene.lookup_answered e).1.2.2] at hclosed
    rw [session_conclude, Session.deferred_concluded, (Scene.client_answered e).2]
    split
    · rfl
    · exact hm hclosed

theorem Course.deferred_closed (hothers : ∀ s s', others s s' → s'.session = s.session)
    (c : Course g callers others m es m')
    (hm : m.scene.session.closed = true → m.scene.session.deferred = []) :
    m'.scene.session.closed = true → m'.scene.session.deferred = [] := by
  induction c with
  | start => exact hm
  | step c h ih => exact h.deferred_closed hothers ih

/-- A closed session refuses loads. -/
theorem Step.refuses_load {load : DeferredLoad} {x : Except Failure Unit}
    (h : Step g callers others m (.did (.defer load) x) m')
    (closed : m.scene.session.closed = true) :
    x = .error .closed ∧ m'.scene.session = m.scene.session ∧ m'.scene.client = m.talk.client := by
  cases h with
  | @act _ _ y _ s c r hc e =>
    subst e
    rw [Scene.perform_closed g c (.defer load) (s := { s with client := y }) closed]
    exact ⟨rfl, rfl, rfl⟩

/-- A load is delivered at once if the rows of its key are remembered, and waits otherwise. -/
theorem Step.defers {load : DeferredLoad} {x : Except Failure Unit}
    (h : Step g callers others m (.did (.defer load) x) m')
    (isOpen : m.scene.session.closed = false) :
    x = .ok () ∧
      match m.scene.session.memo.rows? load.key with
      | some list =>
        m'.scene.session.deferred = m.scene.session.deferred ∧
          m'.scene.client = g.deliver load.label list m.talk.client
      | none =>
        m'.scene.session.deferred = m.scene.session.deferred ++ [load] ∧
          m'.scene.client = m.talk.client := by
  cases h with
  | @act _ _ y _ s c r hc e =>
    subst e
    have hdefer : Scene.perform g c (.defer load) { s with client := y } =
        match s.session.memo.lookup load.key with
        | some (.resolved list) => ⟨.ok (), { s with client := g.deliver load.label list y }, []⟩
        | _ => ⟨.ok (), { s with
            client := y
            session := { s.session with deferred := s.session.deferred ++ [load] } }, []⟩ := by
      rw [Scene.perform, Scene.defer, if_neg (by rw [isOpen]; exact Bool.false_ne_true)]
      rfl
    rw [hdefer, Memo.rows?]
    rcases hk : s.session.memo.lookup load.key with _ | _ | list
    · exact ⟨rfl, rfl, rfl⟩
    · exact ⟨rfl, rfl, rfl⟩
    · exact ⟨rfl, rfl, rfl⟩

/-- What is remembered when a query returns rows: what was before, or nothing if it is an outermost
query that flushes, and these rows. -/
def memoReturning (m : Moment ρ σ τ) (e : Happening ρ) (k : Key) (list : RowList) : Memo :=
  (if e.flushes then Memo.empty else m.scene.session.memo).resolve k list

/-- The outermost query that returns rows delivers the waiting loads. -/
theorem Step.delivers
    (hothers : ∀ s s', others s s' → s'.session = s.session ∧ s'.client = s.client)
    (h : Step g callers others m e m') (ht : m.Tidy) {k : Key} {list : RowList}
    (he : e.Returns k list) (hlast : m'.frames = []) :
    m'.scene.session.deferred = [] ∧
      m'.scene.client = g.deliverEach ((m.memoReturning e k list).due m.scene.session.deferred)
        m.talk.client := by
  have hsession := fun s s' moved => (hothers s s' moved).1
  cases h with
  | @tell fs r y runner next s o s' isOpen e =>
    obtain ⟨rfl, ho⟩ := he
    have hdepth : s'.session.depth - 1 = 0 :=
      (depth_told hsession e).trans (ht.depth.trans (congrArg List.length hlast))
    have hmemo : (({ s with client := y } : Scene ρ σ τ).enter g r.statement).session.memo =
        if r.statement.flush then Memo.empty else s.session.memo := by
      rw [(Scene.alike_enter g r.statement { s with client := y }).memo]
      exact Session.memo_entered_outermost (ht.depth.trans (congrArg List.length hlast)) isOpen _
    have hdue (k' : Key) : s'.session.memo.lookup k' =
        (memoReturning ⟨fs, .query r y runner next, s⟩ (.told r (r.keyIn s.session) o)
          (r.keyIn s.session) list).lookup k' := by
      rw [e.lookup_after_told hsession ho k', hmemo]
      rfl
    obtain ⟨hclient, hdeferred⟩ := e.client hothers
    have hwaiting : s'.session.deferred = s.session.deferred := by
      rw [hdeferred, (Scene.alike_enter g r.statement { s with client := y }).deferred,
        Session.deferred_entered]
    constructor
    · rw [session_conclude, Session.deferred_concluded, if_pos hdepth]
    · refine (Scene.client_finish_outermost hdepth).trans ?_
      rw [ho, hclient, Scene.client_enter, hwaiting, Memo.due_congr hdue]
      rfl
  | @answer f fs c a y s r e =>
    obtain ⟨rfl, ha⟩ := he
    obtain ⟨⟨_, hdepth, _⟩, hmemo⟩ := Scene.lookup_answered e
    have hdepth' : r.state.session.depth - 1 = 0 := by
      rw [hdepth]
      exact Nat.sub_eq_of_eq_add (ht.depth.trans (congrArg (·.length + 1) hlast))
    have hrows := Scene.result_answered e
    have hdue (k' : Key) : r.state.session.memo.lookup k' =
        (memoReturning ⟨f :: fs, .finish a y, s⟩ (.answered f.request f.key a) f.key
          list).lookup k' := by
      rw [hmemo]
      cases a with
      | error failure => exact nomatch ha
      | ok out =>
        cases ha
        exact (Memo.lookup_resolve s.session.memo f.key k' out.rows).symm
    obtain ⟨hclient, hwaiting⟩ := Scene.client_answered e
    constructor
    · rw [session_conclude, Session.deferred_concluded, if_pos hdepth']
    · refine (Scene.client_finish_outermost hdepth').trans ?_
      rw [hrows, ha, hclient, hwaiting, Memo.due_congr hdue]
      rfl
  | others moved => exact he.elim
  | look => exact he.elim
  | update e => exact he.elim
  | act hc e => exact he.elim
  | refuse closed => exact he.elim
  | ask isOpen e => exact he.elim

/-- No key is marked when an outermost query returns rows, so that a waiting load has rows or
nothing is remembered for its key. -/
theorem Step.unmarked_returning (h : Step g callers others m e m') (ht : m.Tidy) {k : Key}
    {list : RowList} (he : e.Returns k list) (hlast : m'.frames = []) (k' : Key) :
    (m.memoReturning e k list).lookup k' ≠ some .inFlight := by
  intro hmark
  rw [memoReturning, Memo.lookup_resolve] at hmark
  split at hmark
  · exact nomatch hmark
  next hne =>
  have hold : m.scene.session.Marks k' := by
    split at hmark
    · exact nomatch hmark
    · exact hmark
  obtain ⟨f', hf', hfk⟩ := ht.marks k' hold
  cases h with
  | tell isOpen e =>
    have hin : f' ∈ ([] : List (Frame ρ τ)) := hlast ▸ hf'
    exact nomatch hin
  | @answer f fs c a y s r e =>
    have hin : f' ∈ [f] := by
      have hfs : fs = [] := hlast
      rw [← hfs]
      exact hf'
    rw [List.mem_singleton.mp hin] at hfk
    exact hne (he.1.symm.trans hfk)
  | others moved => exact he.elim
  | look => exact he.elim
  | update e => exact he.elim
  | act hc e => exact he.elim
  | refuse closed => exact he.elim
  | ask isOpen e => exact he.elim

/-- The outermost query that fails drops the waiting loads. -/
theorem Step.drops
    (hothers : ∀ s s', others s s' → s'.session = s.session ∧ s'.client = s.client)
    (h : Step g callers others m e m') (ht : m.Tidy)
    (hm : m.scene.session.closed = true → m.scene.session.deferred = [])
    (he : e.concludes = true) (hfails : ∀ k list, ¬ e.Returns k list) (hlast : m'.frames = []) :
    m'.scene.session.deferred = [] ∧ m'.scene.client = m.talk.client := by
  have hsession := fun s s' moved => (hothers s s' moved).1
  cases h with
  | refuse closed => exact ⟨hm closed, rfl⟩
  | @tell fs r y runner next s o s' isOpen e =>
    have hdepth : s'.session.depth - 1 = 0 :=
      (depth_told hsession e).trans (ht.depth.trans (congrArg List.length hlast))
    constructor
    · rw [session_conclude, Session.deferred_concluded, if_pos hdepth]
    · refine (Scene.client_finish_outermost hdepth).trans ?_
      cases ho : o.result with
      | ok list => exact absurd ⟨rfl, ho⟩ (hfails _ list)
      | error f => exact (e.client hothers).1.trans (Scene.client_enter g _ _)
  | @answer f fs c a y s r e =>
    obtain ⟨⟨_, hdepth, _⟩, hmemo⟩ := Scene.lookup_answered e
    have hdepth' : r.state.session.depth - 1 = 0 := by
      rw [hdepth]
      exact Nat.sub_eq_of_eq_add (ht.depth.trans (congrArg (·.length + 1) hlast))
    constructor
    · rw [session_conclude, Session.deferred_concluded, if_pos hdepth']
    · refine (Scene.client_finish_outermost hdepth').trans ?_
      rw [Scene.result_answered e]
      cases a with
      | ok out => exact absurd ⟨rfl, rfl⟩ (hfails f.key out.rows)
      | error failure => exact (Scene.client_answered e).1
  | others moved => exact nomatch he
  | look => exact nomatch he
  | update e => exact nomatch he
  | act hc e => exact nomatch he
  | ask isOpen e => exact nomatch he

/-- Queries inside others leave the waiting loads alone, when they begin and when they end, and so
does everything else but closing the session; and nothing is delivered. -/
theorem Step.leaves_waiting
    (hothers : ∀ s s', others s s' → s'.session = s.session ∧ s'.client = s.client)
    (h : Step g callers others m e m') (ht : m.Tidy)
    (hclose : ∀ force x, e ≠ .did (.close force) x) (hdefer : ∀ load x, e ≠ .did (.defer load) x)
    (hinside : e.concludes = true → m'.frames ≠ []) :
    m'.scene.session.deferred = m.scene.session.deferred ∧
      (m'.scene.client = m.talk.client ∨ e = .others ∨ ∃ st x, e = .updated st x) := by
  have hsession := fun s s' moved => (hothers s s' moved).1
  cases h with
  | others moved => exact ⟨congrArg Session.deferred (hsession _ _ moved), .inr (.inl rfl)⟩
  | look => exact ⟨rfl, .inl rfl⟩
  | update e =>
    have hs := Scene.alike_update e
    exact ⟨hs.deferred.trans (Session.deferred_clearMemo _), .inr (.inr ⟨_, _, rfl⟩)⟩
  | @act _ a y _ s c r hc e =>
    have hclose' (force : Bool) (ha : a = .close force) : False :=
      hclose force r.value (by rw [ha])
    have hdefer' (load : DeferredLoad) (ha : a = .defer load) : False :=
      hdefer load r.value (by rw [ha])
    have hs := Scene.alike_perform e
    refine ⟨hs.deferred.trans (Session.deferred_acted hclose' hdefer'), .inl ?_⟩
    rw [← e]
    exact Scene.client_perform hdefer'
  | refuse closed => exact ⟨rfl, .inl rfl⟩
  | @tell fs r y runner next s o s' isOpen e =>
    obtain ⟨hclient, hdeferred⟩ := e.client hothers
    have hdepth : s'.session.depth - 1 ≠ 0 := by
      rw [depth_told hsession e]
      exact fun h0 => hinside rfl (List.length_eq_zero_iff.mp (ht.depth.symm.trans h0))
    constructor
    · rw [session_conclude, Session.deferred_concluded, if_neg hdepth, hdeferred,
        (Scene.alike_enter g r.statement { s with client := y }).deferred,
        Session.deferred_entered]
    · left
      exact (Scene.client_finish hdepth).trans (hclient.trans (Scene.client_enter g _ _))
  | @ask fs r y runner next s shared s' isOpen e =>
    obtain ⟨hclient, hdeferred⟩ := e.client hothers
    constructor
    · refine hdeferred.trans ?_
      rw [(Scene.alike_enter g r.statement { s with client := y }).deferred,
        Session.deferred_entered]
    · left
      exact hclient.trans (Scene.client_enter g _ _)
  | @answer f fs c a y s r e =>
    obtain ⟨⟨_, hdepth, _⟩, _⟩ := Scene.lookup_answered e
    obtain ⟨hclient, hwaiting⟩ := Scene.client_answered e
    have hdepth' : r.state.session.depth - 1 ≠ 0 := by
      have hcount : s.session.depth = fs.length + 1 := ht.depth
      rw [hdepth, hcount, Nat.add_sub_cancel]
      exact fun h0 => hinside rfl (List.length_eq_zero_iff.mp h0)
    constructor
    · rw [session_conclude, Session.deferred_concluded, if_neg hdepth', hwaiting]
    · left
      exact (Scene.client_finish hdepth').trans hclient

/-- What becomes of deferred loads, whatever the runners of a session do, at any depth. In an open
session, a load for a key whose rows are remembered is delivered at once and does not wait, and any
other one joins the waiting loads; a closed session refuses it. When the outermost query returns
rows, the waiting loads are delivered in their order, each once, with the rows that are remembered
for its key just then, and those are skipped for whose key nothing is remembered; when it fails,
none is delivered; no load waits afterwards. No other query, and nothing else but closing the
session, delivers a load or takes one away. -/
theorem loads_delivered_once
    (hothers : ∀ s s', others s s' → s'.session = s.session ∧ s'.client = s.client)
    {settings : SessionSettings} {talk : Talk ρ τ} {shared : σ} {client : τ}
    (c : Course g callers others (opened settings talk shared client) es m)
    (h : Step g callers others m e m') :
    (∀ load x, e = .did (.defer load) x →
      (m.scene.session.closed = true → x = .error .closed ∧
        m'.scene.session = m.scene.session ∧ m'.scene.client = m.talk.client) ∧
      (m.scene.session.closed = false → x = .ok () ∧
        match m.scene.session.memo.rows? load.key with
        | some list =>
          m'.scene.session.deferred = m.scene.session.deferred ∧
            m'.scene.client = g.deliver load.label list m.talk.client
        | none =>
          m'.scene.session.deferred = m.scene.session.deferred ++ [load] ∧
            m'.scene.client = m.talk.client)) ∧
    (e.concludes = true → m'.frames = [] →
      m'.scene.session.deferred = [] ∧
      (∀ k list, e.Returns k list →
        m'.scene.client = g.deliverEach ((m.memoReturning e k list).due m.scene.session.deferred)
          m.talk.client ∧
        ∀ k', (m.memoReturning e k list).rows? k' = none →
          (m.memoReturning e k list).lookup k' = none) ∧
      ((∀ k list, ¬ e.Returns k list) → m'.scene.client = m.talk.client)) ∧
    (m.scene.session.closed = true → m.scene.session.deferred = []) ∧
    ((∀ force x, e ≠ .did (.close force) x) → (∀ load x, e ≠ .did (.defer load) x) →
      (e.concludes = true → m'.frames ≠ []) →
      m'.scene.session.deferred = m.scene.session.deferred ∧
      (m'.scene.client = m.talk.client ∨ e = .others ∨ ∃ st x, e = .updated st x)) := by
  have hsession := fun s s' moved => (hothers s s' moved).1
  have ht := c.tidy hsession (tidy_opened settings talk shared client)
  have hclosed := c.deferred_closed hsession fun hno => nomatch hno
  refine ⟨?_, ?_, hclosed, h.leaves_waiting hothers ht⟩
  · rintro load x rfl
    exact ⟨h.refuses_load, h.defers⟩
  · intro he hlast
    refine ⟨?_, fun k list hr => ⟨(h.delivers hothers ht hr hlast).2, fun k' hnone => ?_⟩,
      fun hfails => (h.drops hothers ht hclosed he hfails hlast).2⟩
    · by_cases hr : ∃ k list, e.Returns k list
      · obtain ⟨k, list, hr⟩ := hr
        exact (h.delivers hothers ht hr hlast).1
      · refine (h.drops hothers ht hclosed he (fun k list hkl => ?_) hlast).1
        exact hr ⟨k, list, hkl⟩
    · have hmark := h.unmarked_returning ht hr hlast k'
      unfold Memo.rows? at hnone
      rcases hk : (m.memoReturning e k list).lookup k' with _ | _ | list'
      · rfl
      · exact absurd hk hmark
      · rw [hk] at hnone
        exact nomatch hnone

end Moment

/-- A store as the only shared cache, and a client that keeps what is delivered. -/
def letterbox : Setting Unit Store (List (String × RowList)) where
  cache _ := Store.cache
  deliver label list received := received ++ [(label, list)]

/-- A runner that defers loads for the key of its own query, for that of a query inside it, before
and after that one has returned, and for a key that nobody asks for. -/
def deferring (received : List (String × RowList)) : Talk Unit (List (String × RowList)) :=
  .act (.defer ⟨{}, "outer"⟩) received fun _ received =>
    .query { plainRequest with key? := some { hashcode := 1 } } received
      (fun received => .act (.defer ⟨{ hashcode := 1 }, "inner"⟩) received fun _ received =>
        .finish (.ok { rows := ⟨1, []⟩ }) received)
      fun _ received => .act (.defer ⟨{ hashcode := 1 }, "known"⟩) received fun _ received =>
        .act (.defer ⟨{ hashcode := 2 }, "unknown"⟩) received fun _ received =>
          .finish (.ok { rows := ⟨2, []⟩ }) received

namespace Moment

/-- One load is delivered at once, two by the end of the outermost query and one never. -/
theorem loads_delivered_once_nested :
    ∃ (m m' : Moment Unit Store (List (String × RowList))) (es : List (Happening Unit)),
      Course letterbox (fun _ => True) Eq
        (opened { scope := .statement } (.query plainRequest [] deferring fun _ received =>
          .finish (.error .closed) received) { name := "users" } []) es m ∧ es.length = 7 ∧
      Step letterbox (fun _ => True) Eq m (.answered plainRequest {} (.ok { rows := ⟨2, []⟩ })) m' ∧
      m'.scene.client = [("known", ⟨1, []⟩), ("outer", ⟨2, []⟩), ("inner", ⟨1, []⟩)] ∧
      m'.scene.session.deferred = [] := by
  have begun : Course letterbox (fun _ => True) Eq
      (opened { scope := .statement } (.query plainRequest [] deferring fun _ received =>
        .finish (.error .closed) received) { name := "users" } []) [] _ := .start
  have asked := begun.step (.ask rfl (.unshared rfl rfl))
  have outer := asked.step (.act (c := {}) True.intro rfl)
  have inside := outer.step (.ask rfl (.unshared rfl rfl))
  have inner := inside.step (.act (c := {}) True.intro rfl)
  have answered := inner.step (.answer (c := {}) rfl)
  have known := answered.step (.act (c := {}) True.intro rfl)
  have unknown := known.step (.act (c := {}) True.intro rfl)
  have hothers (s s' : Scene Unit Store (List (String × RowList))) (h : s = s') :
      s'.session = s.session ∧ s'.client = s.client := by rw [h]; exact ⟨rfl, rfl⟩
  obtain ⟨_, hends, _, _⟩ := loads_delivered_once hothers unknown (.answer (c := {}) rfl)
  obtain ⟨hwaiting, hreturns, _⟩ := hends rfl rfl
  have hclient := (hreturns {} ⟨2, []⟩ ⟨rfl, rfl⟩).1
  exact ⟨_, _, _, unknown, rfl, .answer (c := {}) rfl, hclient, hwaiting⟩

end Moment

end QueryCache
