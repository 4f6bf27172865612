import QueryCache.Proofs.Session.Effect
import QueryCache.Proofs.Staging.Exact
import QueryCache.Proofs.Staging.Solo

/-!
# What a session does with the shared caches

Step by step, what a session adds to the deeds of its transaction: lookups, which reach a
shared cache at once and are written down in its journal, and writes and clears, which are
staged. What is staged can be told from what happened. Only at its end does a transaction make
any other calls, and then just those that its deeds owe. And whatever all operations on the
shared caches keep, each step keeps.
-/

namespace QueryCache

variable {ρ σ τ : Type}

namespace Deed

/-- Whether it is a lookup. -/
def isGot : Deed → Bool
  | got .. => true
  | _ => false

/-- Lookups leave the writes alone. -/
theorem puts_filter (ds : List Deed) : puts (ds.filter (!·.isGot)) = puts ds := by
  have hclear (ds : List Deed) : (ds.filter (!·.isGot)).any isClear = ds.any isClear := by
    rw [List.any_filter]
    congr 1
    funext d
    cases d <;> rfl
  induction ds with
  | nil => rfl
  | cons d rest ih =>
    cases d with
    | got k a => exact ih
    | clear => exact ih
    | put k e =>
      rw [List.filter_cons_of_pos (by rfl), puts, puts, ih, hclear]

end Deed

namespace Transaction

/-- The lookups among deeds, as they are written down. -/
def lookups (ds : List (ρ × Deed)) : Journal ρ :=
  ds.filterMap fun
    | (ref, .got k a) => some ⟨ref, .get k, a⟩
    | _ => none

/-- The deeds that are staged: all but the lookups. -/
def stagings (ds : List (ρ × Deed)) : List (ρ × Deed) := ds.filter (!·.2.isGot)

/-- Nothing but lookups is written down by lookups. -/
theorem get_of_mem_lookups {ds : List (ρ × Deed)} {x : Record ρ} (hx : x ∈ lookups ds) :
    ∃ k, x.call = .get k := by
  obtain ⟨⟨ref, d⟩, _, hd⟩ := List.mem_filterMap.mp hx
  cases d with
  | got k a =>
    cases hd
    exact ⟨k, rfl⟩
  | put k e => exact nomatch hd
  | clear => exact nomatch hd

theorem lookups_append (ds ds' : List (ρ × Deed)) :
    lookups (ds ++ ds') = lookups ds ++ lookups ds' :=
  List.filterMap_append

theorem stagings_append (ds ds' : List (ρ × Deed)) :
    stagings (ds ++ ds') = stagings ds ++ stagings ds' :=
  List.filter_append ds ds'

end Transaction

/-- The shared cache that a statement clears. -/
def Statement.clears? (st : Statement ρ) : Option ρ := if st.flush then st.cache else none

/-- The clear that a statement stages. -/
def Statement.clearing (st : Statement ρ) : List (ρ × Deed) := st.clears?.toList.map (·, .clear)

/-- The shared cache that gets the rows of a query. -/
def Request.feeds? (r : Request ρ) : Option ρ :=
  if r.statement.useCache && !(r.statement.isCallable && r.bound.hasOutput) then r.statement.cache
  else none

/-- The write that an answer of a runner stages, for the shared cache that gets its rows. -/
def feeding (target : Option ρ) (k : Key) : Except Failure Output → List (ρ × Deed)
  | .ok out => target.toList.map (·, .put k (.rows out.rows))
  | .error _ => []

/-- What is staged by this, with shared caches switched on. -/
def Happening.stages : Happening ρ → List (ρ × Deed)
  | told r .. | asked r _ => r.statement.clearing
  | updated st _ => st.clearing
  | answered r k a => feeding r.feeds? k a
  | _ => []

/-- The calls at the end of a transaction with its deeds; other acts make none. -/
def Act.calls [DecidableEq ρ] (a : Act) (h : List (ρ × Deed)) : List (ρ × Call) :=
  match a with
  | .commit | .close false => Transaction.commitCalls h
  | .rollback | .close true => Transaction.rollbackCalls h
  | _ => []

/-- Whether an act ends a transaction. -/
def Act.ends : Act → Bool
  | .commit | .rollback | .close _ => true
  | _ => false

/-- Whether a transaction is ended by this. -/
def Happening.ends : Happening ρ → Bool
  | did a _ => a.ends
  | _ => false

/-- Only acts end transactions. -/
theorem Happening.did_of_ends {e : Happening ρ} (h : ¬ e.ends = false) :
    ∃ a x, e = .did a x ∧ a.ends = true := by
  cases e with
  | did a x => exact ⟨a, x, rfl, eq_true_of_ne_false h⟩
  | _ => exact absurd rfl h

/-- The clear that a session stages for a statement. -/
def Session.clearing (x : Session ρ) (st : Statement ρ) : List (ρ × Deed) :=
  if x.settings.cacheEnabled then st.clearing else []

/-- Ending a query leaves its staged work alone. -/
theorem Session.staged_concluded (x : Session ρ) : x.concluded.staged = x.staged := by
  unfold concluded
  dsimp only
  split
  · exact staged_clearMemo _
  · rfl

namespace Scene

/-- Delivering loads leaves the shared caches alone. -/
theorem shared_deliverAll (g : Setting ρ σ τ) (loads : List DeferredLoad) (s : Scene ρ σ τ) :
    (deliverAll g loads s).state.shared = s.shared := by
  induction loads generalizing s with
  | nil => rfl
  | cons load rest ih =>
    unfold deliverAll
    split
    · exact ih _
    · exact ih s

/-- The end of a query leaves the shared caches alone. -/
theorem shared_finish (g : Setting ρ σ τ) (o : Outcome) (s : Scene ρ σ τ) :
    (finish g o s).state.shared = s.shared := by
  have hend (s : Scene ρ σ τ) :
      (if s.session.settings.scope = .statement then s.onSession (·.clearMemo) else s).shared =
        s.shared := by
    split <;> rfl
  unfold finish
  dsimp only [onSession]
  split
  · cases o.result with
    | ok list => exact (hend _).trans (shared_deliverAll g _ _)
    | error f => exact hend _
  · rfl

/-- Staging a clear leaves the shared caches alone. -/
theorem shared_flush (g : Setting ρ σ τ) (st : Statement ρ) (s : Scene ρ σ τ) :
    (s.flush g st).shared = s.shared := by
  unfold flush
  split
  · cases st.cache <;> rfl
  · rfl

/-- The beginning of a query leaves the shared caches alone. -/
theorem shared_enter (g : Setting ρ σ τ) (st : Statement ρ) (s : Scene ρ σ τ) :
    (s.enter g st).shared = s.shared := by
  unfold enter
  dsimp only
  split <;> exact shared_flush g st _

/-- A statement that changes data leaves the shared caches alone. -/
theorem shared_update (g : Setting ρ σ τ) (runner : τ → Except Failure Nat × τ)
    (st : Statement ρ) (s : Scene ρ σ τ) : (update g runner st s).state.shared = s.shared := by
  unfold update
  split
  · rfl
  · exact shared_flush g st s

/-- The answer of a runner leaves the shared caches alone. -/
theorem shared_answered {g : Setting ρ σ τ} {r : Request ρ} {k : Key} {target : Option ρ}
    {c : Caller} {a : Except Failure Output} {s : Scene ρ σ τ} {reply : Reply (Scene ρ σ τ) Outcome}
    (e : answered g r k target c a s = .done reply) : reply.state.shared = s.shared := by
  unfold answered at e
  cases a with
  | error f =>
    cases e
    rfl
  | ok out =>
    dsimp only at e
    split at e <;> cases target <;> cases e <;> rfl

/-- The answer of a runner stages nothing, or a write of its rows to the shared cache that gets
them. -/
theorem staged_answered {g : Setting ρ σ τ} {r : Request ρ} {k : Key} {target : Option ρ}
    {c : Caller} {a : Except Failure Output} {s : Scene ρ σ τ} {reply : Reply (Scene ρ σ τ) Outcome}
    (e : answered g r k target c a s = .done reply) :
    reply.state.session.staged = s.session.staged ∨
      ∃ out ref, a = .ok out ∧ target = some ref ∧ reply.state.session.staged =
        s.session.staged.stage ((g.cache ref).id s.shared) ref (·.stage k (.rows out.rows)) := by
  unfold answered at e
  cases a with
  | error f =>
    cases e
    exact .inl rfl
  | ok out =>
    cases target with
    | none =>
      dsimp only at e
      split at e <;> cases e <;> exact .inl rfl
    | some ref =>
      dsimp only at e
      split at e <;> cases e <;> exact .inr ⟨out, ref, rfl, rfl, rfl⟩

end Scene

/-! ### What is kept -/

/-- What every operation of some callers on the shared caches keeps, and others do too. -/
structure Setting.Preserves (g : Setting ρ σ τ) (callers : Caller → Prop)
    (moved : σ → σ → Prop) (P : σ → Prop) : Prop where
  held : ∀ c held, callers c → callers (c.holding held)
  get : ∀ ref c k s, callers c → P s →
    ((g.cache ref).get c k s).Always moved (fun _ => True) fun _ => P
  put : ∀ ref c k e s, callers c → P s → P ((g.cache ref).put c k e s).state
  remove : ∀ ref c k s, callers c → P s → P ((g.cache ref).remove c k s).state
  clear : ∀ ref c s, callers c → P s → P ((g.cache ref).clear c s).state
  others : ∀ s s', moved s s' → P s → P s'

section Kept

variable {g : Setting ρ σ τ} {callers : Caller → Prop} {moved : σ → σ → Prop} {P : σ → Prop}
  {others : Scene ρ σ τ → Scene ρ σ τ → Prop} (hp : g.Preserves callers moved P)

include hp

/-- The end of a transaction keeps what its calls keep. -/
theorem Scene.perform_keeps {c : Caller} (hc : callers c) (a : Act) {s : Scene ρ σ τ}
    (hs : P s.shared) : P (perform g c a s).state.shared := by
  have hcommit {held : RowsId → Bool} {t : Over (Transaction ρ) σ} (ht : P t.inner) :
      P (Transaction.commitAll g.cache (c.holding held) t).state.inner :=
    Transaction.commitEach_keepsFor hp.held hp.put hp.clear (hp.held c held hc) _ t ht
  have hrollback {held : RowsId → Bool} {t : Over (Transaction ρ) σ} (ht : P t.inner) :
      P (Transaction.rollbackAll g.cache (c.holding held) t).state.inner :=
    Transaction.rollbackEach_keepsFor hp.held hp.remove (hp.held c held hc) _ t ht
  cases a with
  | commit =>
    simp only [perform, commit]
    split
    · exact hs
    · exact hcommit (t := (staging g).view (s.onSession (·.clearMemo))) hs
  | rollback =>
    simp only [perform, rollback]
    split
    · exact hs
    · exact hrollback (t := (staging g).view (s.onSession (·.clearMemo))) hs
  | close force =>
    simp only [perform, close]
    split
    · exact hs
    · cases force with
      | true => exact hrollback (t := (staging g).view s) hs
      | false => exact hcommit (t := (staging g).view s) hs
  | clearMemo => exact hs
  | store k list => exact hs
  | defer load =>
    simp only [perform, defer]
    split
    · exact hs
    · split <;> exact hs

/-- A lookup through staged work keeps what lookups keep. -/
theorem Scene.lookup_keeps (hothers : ∀ s s', others s s' → moved s.shared s'.shared)
    {c : Caller} (hc : callers c) {ref : ρ} {k : Key} {s : Scene ρ σ τ}
    {reply : Reply (Scene ρ σ τ) (Except CacheFailure (Option Entry))}
    (e : (lookup g c ref k s).EndsBy callers others reply) (hs : P s.shared) :
    P reply.state.shared := by
  have hlookup : (lookup g c ref k s).Always others (fun _ => True) fun _ t => P t.shared := by
    refine Run.Always.within (fun _ => True) (Transaction.get_always hp.held
      (fun ref c hc => hp.get ref c k _ hc hs) (hp.held c _ hc) ref) True.intro ?_ ?_ ?_
    · exact fun _ _ _ _ => True.intro
    · exact fun i t t' _ _ h => ⟨hothers _ _ h, True.intro⟩
    · exact fun v i t _ hi => hi
  exact hlookup.of_ends e.ends

/-- A query that has begun keeps what lookups keep. -/
theorem Scene.Consults.keeps (hothers : ∀ s s', others s s' → moved s.shared s'.shared)
    {r : Request ρ} {k : Key} {o : Consulted ρ} {s s' : Scene ρ σ τ}
    (e : Consults g callers others r k s o s') (hs : P s.shared) : P s'.shared := by
  rcases e.reached with rfl | ⟨c, ref, reply, hc, looked, rfl | ⟨list, rfl⟩⟩
  · exact hs
  · exact lookup_keeps hp hothers hc looked hs
  · exact lookup_keeps hp hothers hc looked hs

/-- What every operation on the shared caches keeps is kept by each step of a session. -/
theorem Moment.Step.keeps (hothers : ∀ s s', others s s' → moved s.shared s'.shared)
    {m m' : Moment ρ σ τ} {e : Happening ρ} (step : Step g callers others m e m')
    (hs : P m.scene.shared) : P m'.scene.shared := by
  have hentered {s : Scene ρ σ τ} {y : τ} (st : Statement ρ) (hs : P s.shared) :
      P (({ s with client := y } : Scene ρ σ τ).enter g st).shared := by
    rw [Scene.shared_enter]
    exact hs
  cases step with
  | others h => exact hp.others _ _ (hothers _ _ h) hs
  | look => exact hs
  | @update _ st y runner _ s r e =>
    subst e
    rw [Scene.shared_update]
    exact hs
  | @act _ a y _ s c r hc e =>
    subst e
    exact Scene.perform_keeps hp hc a (s := { s with client := y }) hs
  | refuse closed => exact hs
  | @tell _ r y _ _ s o s' isOpen e =>
    have h := e.keeps hp hothers (hentered r.statement hs)
    rw [conclude, Scene.shared_finish]
    exact h
  | @ask _ r y _ _ s target s' isOpen e =>
    exact e.keeps hp hothers (hentered r.statement hs)
  | answer e =>
    rw [conclude, Scene.shared_finish, Scene.shared_answered e]
    exact hs

end Kept

namespace Scene

variable [DecidableEq ρ] {name : ρ → String} {h ds ds' : List (ρ × Deed)}
  {s s' s'' : Scene ρ (Over (Journal ρ) σ) τ}

/-- After the deeds so far, the transaction of a session goes on with some more. -/
structure Does (name : ρ → String) (h : List (ρ × Deed)) (s : Scene ρ (Over (Journal ρ) σ) τ)
    (ds : List (ρ × Deed)) (s' : Scene ρ (Over (Journal ρ) σ) τ) : Prop where
  reflects : s'.session.staged.Reflects name (h ++ ds)
  journal : s'.shared.own = s.shared.own ++ Transaction.lookups ds

/-- A session that leaves its staged work and the journal alone does nothing. -/
theorem does_nothing (hr : s.session.staged.Reflects name h)
    (hs : s'.session.staged = s.session.staged) (hj : s'.shared.own = s.shared.own) :
    s.Does name h [] s' := by
  refine ⟨?_, hj.trans (List.append_nil _).symm⟩
  rw [hs, List.append_nil]
  exact hr

theorem Does.trans (d : s.Does name h ds s') (d' : s'.Does name (h ++ ds) ds' s'') :
    s.Does name h (ds ++ ds') s'' := by
  refine ⟨?_, ?_⟩
  · rw [← List.append_assoc]
    exact d'.reflects
  · rw [d'.journal, d.journal, Transaction.lookups_append, List.append_assoc]

/-- It does not matter what becomes of the rest of the session afterwards. -/
theorem Does.congr (d : s.Does name h ds s') (hs : s''.session.staged = s'.session.staged)
    (hj : s''.shared.own = s'.shared.own) : s.Does name h ds s'' :=
  ⟨by rw [hs]; exact d.reflects, hj.trans d.journal⟩

/-! ### The things a session does -/

section

variable {shared : ρ → Cache σ} {g : Setting ρ (Over (Journal ρ) σ) τ} {callers : Caller → Prop}
  {others : Scene ρ (Over (Journal ρ) σ) τ → Scene ρ (Over (Journal ρ) σ) τ → Prop}

variable (hname : Function.Injective name) (hid : ∀ ref s, (shared ref).id s = name ref)
  (hg : g.cache = Journal.caches id shared)

include hname hid hg

/-- A statement stages its clear if shared caches are switched on. -/
theorem does_flush (hr : s.session.staged.Reflects name h) (st : Statement ρ) :
    s.Does name h (s.session.clearing st) (s.flush g st) := by
  unfold flush Session.clearing Statement.clearing Statement.clears?
  cases s.session.settings.cacheEnabled with
  | false => exact does_nothing hr rfl rfl
  | true =>
    cases hf : st.flush with
    | false => exact does_nothing hr rfl rfl
    | true =>
      cases st.cache with
      | none => exact does_nothing hr rfl rfl
      | some ref =>
        refine ⟨?_, (List.append_nil _).symm⟩
        rw [hg]
        exact Transaction.Reflects.clear hname (s := ⟨s.session.staged, s.shared⟩) hr (hid ref _)

/-- The beginning of a query. -/
theorem does_enter (hr : s.session.staged.Reflects name h) (st : Statement ρ) :
    s.Does name h (s.session.clearing st) (s.enter g st) := by
  unfold enter
  dsimp only
  split
  · have hr' : (s.onSession (·.clearMemo)).session.staged.Reflects name h := by
      rw [onSession, Session.staged_clearMemo]
      exact hr
    have d := does_flush hname hid hg hr' st
    rw [Session.clearing, show (s.onSession (·.clearMemo)).session.settings = s.session.settings
      from Session.settings_clearMemo _] at d
    exact ⟨d.reflects, d.journal⟩
  · have d := does_flush hname hid hg hr st
    exact ⟨d.reflects, d.journal⟩

/-- A statement that changes data, in an open session. -/
theorem does_update (hr : s.session.staged.Reflects name h) (runner : τ → Except Failure Nat × τ)
    (st : Statement ρ) (hopen : s.session.closed = false) :
    s.Does name h (s.session.clearing st) (update g runner st s).state := by
  unfold update
  rw [if_neg (by rw [hopen]; exact Bool.false_ne_true)]
  refine (does_flush hname hid hg hr st).congr ?_ rfl
  exact Session.staged_clearMemo (s.flush g st).session

/-- The rows of a query are staged for its shared cache. -/
theorem does_answered (hr : s.session.staged.Reflects name h) {r : Request ρ} {k : Key}
    {target : Option ρ} {c : Caller} {a : Except Failure Output}
    {reply : Reply (Scene ρ (Over (Journal ρ) σ) τ) Outcome}
    (e : answered g r k target c a s = .done reply) :
    s.Does name h (feeding target k a) reply.state := by
  have hput (s : Scene ρ (Over (Journal ρ) σ) τ) (hr : s.session.staged.Reflects name h) (ref : ρ)
      (list : RowList) : s.Does name h [(ref, .put k (.rows list))] (s.stageRows g ref k list) := by
    refine ⟨?_, (List.append_nil _).symm⟩
    rw [stageRows, hg]
    exact Transaction.Reflects.put hname (s := ⟨s.session.staged, s.shared⟩) hr (hid ref _) _ _
  unfold answered at e
  cases a with
  | error f =>
    cases e
    exact does_nothing hr rfl rfl
  | ok out =>
    dsimp only at e
    split at e
    · cases target with
      | none =>
        cases e
        exact does_nothing hr rfl rfl
      | some ref =>
        cases e
        have d := hput ((s.remember k out.rows).onSession fun x =>
          { x with memo := x.memo.storeOutputs k (out.outputs.getD r.bound.outputs) }) hr ref
          out.rows
        exact ⟨d.reflects, d.journal⟩
    · cases target with
      | none =>
        cases e
        exact does_nothing hr rfl rfl
      | some ref =>
        cases e
        have d := hput (s.remember k out.rows) hr ref out.rows
        exact ⟨d.reflects, d.journal⟩

/-- A lookup is one deed, with the answer of the shared cache. -/
theorem does_lookup
    (hothers : ∀ s s', others s s' → s'.session = s.session ∧ s'.shared.own = s.shared.own)
    (hr : s.session.staged.Reflects name h) {c : Caller} {ref : ρ} {k : Key}
    {reply : Reply (Scene ρ (Over (Journal ρ) σ) τ) (Except CacheFailure (Option Entry))}
    (e : (lookup g c ref k s).EndsBy callers others reply) :
    ∃ a, s.Does name h [(ref, .got k a)] reply.state := by
  have hlookup : (lookup g c ref k s).Always others (fun t => t.shared.own = s.shared.own)
      fun _ t => ∃ a, s.Does name h [(ref, .got k a)] t := by
    rw [lookup, hg]
    refine Run.Always.within (fun _ => True)
      (Transaction.Reflects.get hname hid (s := ⟨s.session.staged, s.shared⟩) hr _ ref k) True.intro
      ?_ ?_ ?_
    · exact fun i t _ hi => hi
    · intro i t t' _ _ moved
      obtain ⟨hx, hj⟩ := hothers _ _ moved
      exact ⟨⟨congrArg Session.staged hx, hj⟩, True.intro⟩
    · rintro v i t _ ⟨a, hj, hown⟩
      exact ⟨a, hown, hj⟩
  exact hlookup.of_ends e.ends

/-- A query that has begun looks its key up, perhaps, and stages nothing more until its runner
has answered. -/
theorem Consults.does
    (hothers : ∀ s s', others s s' → s'.session = s.session ∧ s'.shared.own = s.shared.own)
    (hr : s.session.staged.Reflects name h) {r : Request ρ} {k : Key} {o : Consulted ρ}
    (e : Consults g callers others r k s o s') :
    ∃ ds, s.Does name h ds s' ∧ Transaction.stagings ds = [] := by
  rcases e.reached with rfl | ⟨c, ref, reply, _, looked, rfl | ⟨list, rfl⟩⟩
  · exact ⟨[], does_nothing hr rfl rfl, rfl⟩
  · obtain ⟨a, d⟩ := does_lookup hname hid hg hothers hr looked
    exact ⟨_, d, rfl⟩
  · obtain ⟨a, d⟩ := does_lookup hname hid hg hothers hr looked
    exact ⟨_, d.congr rfl rfl, rfl⟩

omit hid in
/-- The end of a transaction in an open session makes the calls that the deeds owe. -/
theorem perform_ends (hr : s.session.staged.Reflects name h) (c : Caller) {a : Act}
    (ha : a.ends = true) (hopen : s.session.closed = false) :
    ∃ j, (perform g c a s).state.shared.own = s.shared.own ++ j ∧ j.calls = a.calls h ∧
      (perform g c a s).state.session.staged = .empty := by
  have hne : ¬ s.session.closed = true := by rw [hopen]; exact Bool.false_ne_true
  have hr' : (s.onSession (·.clearMemo)).session.staged.Reflects name h := by
    rw [onSession, Session.staged_clearMemo]
    exact hr
  cases a with
  | commit =>
    simp only [perform, commit, hg, if_neg hne]
    obtain ⟨j, hj, hc⟩ := Transaction.Reflects.commitAll hname shared
      (s := (staging g).view (s.onSession (·.clearMemo))) hr' (c.holding _)
    exact ⟨j, hj, hc, rfl⟩
  | rollback =>
    simp only [perform, rollback, hg, if_neg hne]
    obtain ⟨j, hj, hc⟩ := Transaction.Reflects.rollbackAll hname shared
      (s := (staging g).view (s.onSession (·.clearMemo))) hr' (c.holding _)
    exact ⟨j, hj, hc, rfl⟩
  | close force =>
    simp only [perform, close, hg, if_neg hne]
    cases force with
    | true =>
      obtain ⟨j, hj, hc⟩ := Transaction.Reflects.rollbackAll hname shared
        (s := (staging g).view s) hr (c.holding _)
      exact ⟨j, hj, hc, rfl⟩
    | false =>
      obtain ⟨j, hj, hc⟩ := Transaction.Reflects.commitAll hname shared
        (s := (staging g).view s) hr (c.holding _)
      exact ⟨j, hj, hc, rfl⟩
  | clearMemo => exact Bool.noConfusion ha
  | store k list => exact Bool.noConfusion ha
  | defer load => exact Bool.noConfusion ha

end

/-- All other acts, and all acts in a closed session, do nothing. -/
theorem perform_does (g : Setting ρ (Over (Journal ρ) σ) τ) (c : Caller)
    (hr : s.session.staged.Reflects name h) {a : Act}
    (ha : a.ends = false ∨ s.session.closed = true) :
    s.Does name h [] (perform g c a s).state := by
  have hclosed {reply reply' : Reply (Scene ρ (Over (Journal ρ) σ) τ) (Except Failure Unit)}
      (he : a.ends = true) (hs : reply.state = s) :
      s.Does name h [] (if s.session.closed = true then reply else reply').state := by
    rw [if_pos (ha.resolve_left fun hno => Bool.noConfusion (he.symm.trans hno)), hs]
    exact does_nothing hr rfl rfl
  cases a with
  | commit => exact hclosed rfl rfl
  | rollback =>
    simp only [perform, rollback, if_pos (ha.resolve_left fun hno => Bool.noConfusion hno)]
    exact does_nothing hr rfl rfl
  | close force => exact hclosed rfl rfl
  | clearMemo => exact does_nothing hr (Session.staged_clearMemo _) rfl
  | store k list => exact does_nothing hr rfl rfl
  | defer load =>
    simp only [perform, defer]
    split
    · exact does_nothing hr rfl rfl
    · split <;> exact does_nothing hr rfl rfl

end Scene

/-- The shared cache that a query asks, with shared caches switched on. -/
theorem Session.cacheFor_feeds {x : Session ρ} {r : Request ρ} {shared : Option ρ}
    (hon : x.settings.cacheEnabled = true) (h : x.cacheFor r.statement r.bound = .ok shared) :
    shared = r.feeds? := by
  unfold cacheFor at h
  unfold Request.feeds?
  rw [hon] at h
  cases hu : r.statement.useCache with
  | false =>
    rw [hu] at h
    exact (Except.ok.inj h).symm
  | true =>
    rw [hu] at h
    cases hc : r.statement.cache with
    | none =>
      rw [hc] at h
      rw [ite_self]
      exact (Except.ok.inj h).symm
    | some ref =>
      rw [hc] at h
      dsimp only [Bool.not_true, Bool.or_self, Bool.false_eq_true, if_false] at h
      cases ho : r.statement.isCallable && r.bound.hasOutput with
      | true =>
        rw [ho] at h
        exact nomatch h
      | false =>
        rw [ho] at h
        exact (Except.ok.inj h).symm

/-- What a statement stages is no lookup. -/
theorem Transaction.stagings_clearing (st : Statement ρ) : stagings st.clearing = st.clearing := by
  unfold Statement.clearing
  cases st.clears? <;> rfl

/-- What an answer stages is no lookup. -/
theorem Transaction.stagings_feeding (target : Option ρ) (k : Key) (a : Except Failure Output) :
    stagings (feeding target k a) = feeding target k a := by
  cases a with
  | error f => rfl
  | ok out => cases target <;> rfl

/-- An answer is no lookup. -/
theorem Transaction.lookups_feeding (target : Option ρ) (k : Key) (a : Except Failure Output) :
    lookups (feeding target k a) = [] := by
  cases a with
  | error f => rfl
  | ok out => cases target <;> rfl

namespace Moment

variable [DecidableEq ρ] {name : ρ → String} {h : List (ρ × Deed)} {shared : ρ → Cache σ}
  {g : Setting ρ (Over (Journal ρ) σ) τ} {callers : Caller → Prop}
  {others : Scene ρ (Over (Journal ρ) σ) τ → Scene ρ (Over (Journal ρ) σ) τ → Prop}
  {m m' : Moment ρ (Over (Journal ρ) σ) τ} {e : Happening ρ}

/-- Nothing is done when a query has its outcome. -/
theorem does_conclude {ds : List (ρ × Deed)} {s s' : Scene ρ (Over (Journal ρ) σ) τ}
    (d : s.Does name h ds s') (g : Setting ρ (Over (Journal ρ) σ) τ) (frames : List (Frame ρ τ))
    (next : Outcome → τ → Talk ρ τ) (o : Outcome) :
    s.Does name h ds (conclude g frames next o s').scene := by
  refine d.congr ?_ (congrArg Over.own (Scene.shared_finish g o s'))
  rw [session_conclude, Session.staged_concluded]

variable (hname : Function.Injective name) (hid : ∀ ref s, (shared ref).id s = name ref)
  (hg : g.cache = Journal.caches id shared)
  (hothers : ∀ s s', others s s' → s'.session = s.session ∧ s'.shared.own = s.shared.own)

include hname hid hg hothers

/-- What a step does, unless it ends the transaction of an open session. With shared caches
switched on, in an open session, what happens says what is staged; in a closed one there are no
lookups. -/
theorem Step.does (step : Step g callers others m e m')
    (hr : m.scene.session.staged.Reflects name h)
    (he : e.ends = false ∨ m.scene.session.closed = true) :
    ∃ ds, m.scene.Does name h ds m'.scene ∧
      (m.scene.session.settings.cacheEnabled = true → m.scene.session.closed = false →
        (∀ f ∈ m.frames, f.shared = f.request.feeds?) → Transaction.stagings ds = e.stages) ∧
      (m.scene.session.closed = true → Transaction.lookups ds = []) := by
  -- A query stages the clear of its statement before anything else, and then at most looks up.
  have hentered {s s' : Scene ρ (Over (Journal ρ) σ) τ} {y : τ} {r : Request ρ} {k : Key}
      {o : Consulted ρ} (hr : s.session.staged.Reflects name h)
      (e : Scene.Consults g callers others r k
        (({ s with client := y } : Scene ρ (Over (Journal ρ) σ) τ).enter g r.statement) o s') :
      ∃ ds, s.Does name h ds s' ∧ (s.session.settings.cacheEnabled = true →
        Transaction.stagings ds = r.statement.clearing) := by
    have d := Scene.does_enter hname hid hg (s := { s with client := y }) hr r.statement
    obtain ⟨ds, d', hds⟩ := e.does hname hid hg hothers d.reflects
    refine ⟨_, ⟨(d.trans d').reflects, (d.trans d').journal⟩, fun hon => ?_⟩
    rw [Transaction.stagings_append, hds, List.append_nil, Session.clearing, if_pos hon]
    exact Transaction.stagings_clearing _
  cases step with
  | others moved =>
    obtain ⟨hx, hj⟩ := hothers _ _ moved
    exact ⟨[], Scene.does_nothing hr (congrArg Session.staged hx) hj, fun _ _ _ => rfl,
      fun _ => rfl⟩
  | look => exact ⟨[], Scene.does_nothing hr rfl rfl, fun _ _ _ => rfl, fun _ => rfl⟩
  | @update _ st y runner _ s r e =>
    subst e
    cases hclosed : s.session.closed with
    | true =>
      have hsame : (Scene.update g runner st { s with client := y }).state =
          { s with client := y } := by
        rw [Scene.update, if_pos hclosed]
      rw [hsame]
      exact ⟨[], Scene.does_nothing hr rfl rfl, fun _ hopen => (nomatch hopen), fun _ => rfl⟩
    | false =>
      have d := Scene.does_update hname hid hg (s := { s with client := y }) hr runner st hclosed
      refine ⟨_, ⟨d.reflects, d.journal⟩, fun hon _ _ => ?_, fun hclosed => nomatch hclosed⟩
      rw [Session.clearing, if_pos hon]
      exact Transaction.stagings_clearing st
  | @act _ a y _ s c r hc e =>
    subst e
    have d := Scene.perform_does g c (s := { s with client := y }) hr he
    exact ⟨[], ⟨d.reflects, d.journal⟩, fun _ _ _ => rfl, fun _ => rfl⟩
  | refuse closed => exact ⟨[], Scene.does_nothing hr rfl rfl, fun _ _ _ => rfl, fun _ => rfl⟩
  | tell isOpen e =>
    obtain ⟨ds, d, hds⟩ := hentered hr e
    exact ⟨ds, does_conclude d g _ _ _, fun hon _ _ => hds hon,
      fun hclosed => Bool.noConfusion (hclosed.symm.trans isOpen)⟩
  | ask isOpen e =>
    obtain ⟨ds, d, hds⟩ := hentered hr e
    exact ⟨ds, ⟨d.reflects, d.journal⟩, fun hon _ _ => hds hon,
      fun hclosed => Bool.noConfusion (hclosed.symm.trans isOpen)⟩
  | @answer f fs c a y s r e =>
    have d := Scene.does_answered hname hid hg (s := { s with client := y }) hr e
    have d' : s.Does name h (feeding f.shared f.key a) r.state := ⟨d.reflects, d.journal⟩
    refine ⟨_, does_conclude d' g _ _ _, fun _ _ hfs => ?_, fun _ => ?_⟩
    · rw [hfs f List.mem_cons_self]
      exact Transaction.stagings_feeding _ _ _
    · exact Transaction.lookups_feeding _ _ _

omit hid hothers in
/-- The end of a transaction of an open session makes the calls that its deeds owe. -/
theorem Step.ended {a : Act} {x : Except Failure Unit}
    (step : Step g callers others m (.did a x) m')
    (hr : m.scene.session.staged.Reflects name h) (ha : a.ends = true)
    (hopen : m.scene.session.closed = false) :
    ∃ j, m'.scene.shared.own = m.scene.shared.own ++ j ∧ j.calls = a.calls h ∧
      m'.scene.session.staged = .empty := by
  cases step with
  | @act _ _ y _ s c r hc e =>
    subst e
    exact Scene.perform_ends hname hg (s := { s with client := y }) hr c ha hopen

end Moment

/-- A query that feeds the left of two stores. -/
def leftRequest (k : Key) : Request Bool where
  statement := { id := "sel", cache := some false, useCache := true, flush := false }
  key? := some k

end QueryCache
