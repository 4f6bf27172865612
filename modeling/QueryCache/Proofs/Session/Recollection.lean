import QueryCache.Proofs.Session.Marks

/-!
# Recollections

What a session remembers can be told from what happened. Beside the session we keep a
recollection: how many queries are running, and the rows that were resolved since the session
was last made to forget everything, be it by an update, by the end of a transaction, by an
outermost query that flushes or, in statement scope, by the end of an outermost query. As long
as the session is open the two agree on the rows of every key.
-/

namespace QueryCache

variable {ρ σ τ : Type}

/-- How many queries are running, and the rows that were resolved since everything was last
forgotten. -/
structure Recollection where
  running : Nat := 0
  known : Table Key RowList := Table.empty

namespace Recollection

/-- The rows that were last resolved for a key. -/
def rows? (y : Recollection) (k : Key) : Option RowList := y.known.get? k

/-- A query begins. -/
def begin (flush : Bool) (y : Recollection) : Recollection where
  running := y.running + 1
  known := if y.running = 0 && flush then Table.empty else y.known

/-- The rows of a key are resolved. -/
def learn (k : Key) (list : RowList) (y : Recollection) : Recollection :=
  { y with known := y.known.insert k list }

/-- The rows of a key are dropped. -/
def drop (k : Key) (y : Recollection) : Recollection := { y with known := y.known.erase k }

/-- Everything is forgotten. -/
def forgetAll (y : Recollection) : Recollection := { y with known := Table.empty }

/-- A query is told its outcome. Its rows are resolved only if they were not known before. -/
def hear (k : Key) (result : Except Failure RowList) (y : Recollection) : Recollection :=
  match result with
  | .ok list => if y.known.contains k then y else y.learn k list
  | .error _ => y

/-- The runner of a query has answered. -/
def settle (k : Key) (answer : Except Failure Output) (y : Recollection) : Recollection :=
  match answer with
  | .ok out => y.learn k out.rows
  | .error _ => y.drop k

/-- A query ends. -/
def finish (scope : Scope) (y : Recollection) : Recollection where
  running := y.running - 1
  known := if y.running - 1 = 0 && scope = .statement then Table.empty else y.known

end Recollection

/-- The recollection after an act. -/
def Act.recollect (y : Recollection) : Act → Recollection
  | .store k list => y.learn k list
  | .defer _ => y
  | .commit | .rollback | .close _ | .clearMemo => y.forgetAll

namespace Happening

/-- The recollection after something more has happened. -/
def recollect (scope : Scope) (y : Recollection) : Happening ρ → Recollection
  | told r k o => ((y.begin r.statement.flush).hear k o.result).finish scope
  | asked r _ => y.begin r.statement.flush
  | answered _ k a => (y.settle k a).finish scope
  | updated .. => y.forgetAll
  | did a _ => a.recollect y
  | _ => y

/-- The recollection of all that happened since a session was opened. -/
def recollection (scope : Scope) (es : List (Happening ρ)) : Recollection :=
  es.foldl (recollect scope) {}

theorem recollection_concat (scope : Scope) (es : List (Happening ρ)) (e : Happening ρ) :
    recollection scope (es ++ [e]) = recollect scope (recollection scope es) e := by
  rw [recollection, List.foldl_append]
  rfl

end Happening

namespace Session

/-- A session remembers what a recollection says. -/
structure Recalls (x : Session ρ) (y : Recollection) : Prop where
  running : y.running = x.depth
  known : ∀ k list, x.memo.lookup k = some (.resolved list) ↔ y.rows? k = some list

variable {x x' : Session ρ} {y : Recollection}

/-- Nothing is known of a key of which nothing is remembered. -/
theorem Recalls.rows?_eq_none (h : x.Recalls y) {k : Key} (unknown : x.memo.lookup k = none) :
    y.rows? k = none := by
  cases hrows : y.rows? k with
  | none => rfl
  | some list => exact nomatch unknown.symm.trans ((h.known k list).mpr hrows)

/-- It does not matter what becomes of the rest of the session. -/
theorem Recalls.congr (h : x.Recalls y) (hmemo : x'.memo = x.memo) (hdepth : x'.depth = x.depth) :
    x'.Recalls y := by
  constructor
  · rw [hdepth]
    exact h.running
  · rw [hmemo]
    exact h.known

theorem Recalls.learn (h : x.Recalls y) {k : Key} {list : RowList} (hdepth : x'.depth = x.depth)
    (hmemo : ∀ k', x'.memo.lookup k' =
      if k = k' then some (.resolved list) else x.memo.lookup k') :
    x'.Recalls (y.learn k list) := by
  constructor
  · rw [hdepth]
    exact h.running
  · intro k' list'
    have hknown : (y.learn k list).rows? k' = if k = k' then some list else y.rows? k' :=
      Table.get?_insert y.known k k' list
    rw [hmemo, hknown]
    by_cases hk : k = k'
    · simp [hk]
    · simp [hk, h.known k' list']

theorem Recalls.drop (h : x.Recalls y) {k : Key} (hdepth : x'.depth = x.depth)
    (hmemo : ∀ k', x'.memo.lookup k' = if k = k' then none else x.memo.lookup k') :
    x'.Recalls (y.drop k) := by
  constructor
  · rw [hdepth]
    exact h.running
  · intro k' list'
    have hknown : (y.drop k).rows? k' = if k = k' then none else y.rows? k' :=
      Table.get?_erase y.known k k'
    rw [hmemo, hknown]
    by_cases hk : k = k'
    · simp [hk]
    · simp [hk, h.known k' list']

/-- A session that remembers nothing. -/
theorem Recalls.nothing (hrunning : y.running = x.depth) (hmemo : x.memo = .empty)
    (hknown : y.known = Table.empty) : x.Recalls y := by
  refine ⟨hrunning, fun k list => ?_⟩
  have hnone : x.memo.lookup k = none := by
    rw [hmemo]
    rfl
  have hrows : y.rows? k = none := by
    rw [Recollection.rows?, hknown]
    rfl
  simp [hnone, hrows]

/-- An open session forgets everything when it is made to. -/
theorem memo_clearMemo_of_open (isOpen : x.closed = false) : x.clearMemo.memo = .empty := by
  rw [memo_clearMemo, isOpen]
  rfl

theorem Recalls.clearMemo (h : x.Recalls y) (isOpen : x.closed = false) :
    x.clearMemo.Recalls y.forgetAll := by
  have hrunning : y.forgetAll.running = x.clearMemo.depth := by
    rw [depth_clearMemo]
    exact h.running
  exact .nothing hrunning (memo_clearMemo_of_open isOpen) rfl

/-- The mark of a query that knew nothing of its key hides no rows. -/
theorem Recalls.marked (h : x.Recalls y) {k : Key} (unknown : x.memo.lookup k = none) :
    Recalls { x with memo := x.memo.markInFlight k } y := by
  refine ⟨h.running, fun k' list => ?_⟩
  rw [← h.known k' list, Memo.lookup_markInFlight]
  by_cases hk : k = k'
  · subst hk
    simp [unknown]
  · simp [hk]

theorem Recalls.entered (h : x.Recalls y) (isOpen : x.closed = false) (flush : Bool) :
    (x.entered flush).Recalls (y.begin flush) := by
  have hrunning : (y.begin flush).running = (x.entered flush).depth :=
    congrArg (· + 1) h.running
  refine ⟨hrunning, ?_⟩
  unfold Session.entered Recollection.begin Recollection.rows?
  dsimp only
  rw [h.running]
  split
  · exact (h.clearMemo isOpen).known
  · exact h.known

theorem Recalls.concluded (h : x.Recalls y) (isOpen : x.closed = false) :
    x.concluded.Recalls (y.finish x.settings.scope) := by
  have hrunning : (y.finish x.settings.scope).running = x.concluded.depth := by
    rw [depth_concluded]
    exact congrArg (· - 1) h.running
  by_cases hdepth : x.depth - 1 = 0
  · cases hscope : x.settings.scope with
    | session =>
      refine ⟨hrunning, ?_⟩
      rw [memo_concluded_of_session hscope]
      simpa [Recollection.finish, Recollection.rows?] using h.known
    | statement =>
      refine .nothing hrunning (memo_concluded_of_statement hdepth hscope isOpen) ?_
      simp [Recollection.finish, h.running, hdepth]
  · refine ⟨hrunning, ?_⟩
    rw [memo_concluded_of_depth hdepth]
    simpa [Recollection.finish, Recollection.rows?, h.running, hdepth] using h.known

theorem Recalls.acted (h : x.Recalls y) (isOpen : x.closed = false) (a : Act) :
    (x.acted a).Recalls (a.recollect y) := by
  cases a with
  | commit => exact h.clearMemo isOpen
  | rollback => exact h.clearMemo isOpen
  | clearMemo => exact h.clearMemo isOpen
  | store k list => exact h.learn rfl fun k' => Memo.lookup_resolve x.memo k k' list
  | defer load => exact h.congr (memo_acted_defer x load) (depth_acted x _)
  | close force =>
    rw [Session.acted, isOpen]
    exact .nothing h.running rfl rfl

end Session

namespace Moment

variable {g : Setting ρ σ τ} {callers : Caller → Prop}
  {others : Scene ρ σ τ → Scene ρ σ τ → Prop} {m m' : Moment ρ σ τ} {e : Happening ρ}
  {es : List (Happening ρ)} {y : Recollection}

/-- A query that has begun, up to the lookup of its key. -/
theorem recalls_enter {s : Scene ρ σ τ} (hr : s.session.Recalls y)
    (isOpen : s.session.closed = false) (client : τ) (st : Statement ρ) :
    (({ s with client } : Scene ρ σ τ).enter g st).session.Recalls (y.begin st.flush) := by
  have hsame := Scene.alike_enter g st { s with client }
  exact (hr.entered isOpen st.flush).congr hsame.memo hsame.depth

/-- A query that is told its outcome. -/
theorem recalls_told (hothers : ∀ s s', others s s' → s'.session = s.session)
    {s s' : Scene ρ σ τ} {r : Request ρ} {k : Key} {o : Outcome}
    (h : Scene.Consults g callers others r k s (.told o) s') (hr : s.session.Recalls y) :
    s'.session.Recalls (y.hear k o.result) := by
  cases ho : o.result with
  | error f =>
    have hsame := h.told_failure hothers ho
    exact hr.congr hsame.memo hsame.depth
  | ok list =>
    obtain ⟨known, rfl⟩ | ⟨unknown, ref, c, reply, _, _, looked, _, rfl⟩ := h.told_rows ho
    · have hknown : y.known.get? k = some list := (hr.known k list).mp known
      simp only [Recollection.hear, Table.contains, hknown, Option.isSome_some, if_true]
      exact hr
    · have hnone : y.known.get? k = none := hr.rows?_eq_none unknown
      have hsame := Scene.alike_lookup hothers looked
      simp only [Recollection.hear, Table.contains, hnone, Option.isSome_none, Bool.false_eq_true,
        if_false]
      refine (hr.congr hsame.memo hsame.depth).learn rfl fun k' => ?_
      exact Memo.lookup_resolve _ k k' list

/-- Each step of an open session keeps it in agreement with the recollection. -/
theorem Step.recalls (hothers : ∀ s s', others s s' → s'.session = s.session)
    (h : Step g callers others m e m') (isOpen : m.scene.session.closed = false)
    (hr : m.scene.session.Recalls y) :
    m'.scene.session.Recalls (e.recollect m.scene.session.settings.scope y) := by
  cases h with
  | others moved =>
    rw [hothers _ _ moved]
    exact hr
  | look => exact hr
  | update e =>
    have hsame := Scene.alike_update e
    exact (hr.clearMemo isOpen).congr hsame.memo hsame.depth
  | act hc e =>
    have hsame := Scene.alike_perform e
    exact (hr.acted isOpen _).congr hsame.memo hsame.depth
  | refuse closed => exact hr
  | @tell fs r client runner next s o s' _ e =>
    have htold := recalls_told hothers e (recalls_enter hr isOpen client r.statement)
    have hs := steady_told hothers e
    have hscope : s'.session.settings = s.session.settings :=
      hs.settings.trans (Session.settings_entered _ _)
    have hopen : s'.session.closed = false :=
      (hs.closed.trans (Session.closed_entered _ _)).trans isOpen
    rw [session_conclude]
    rw [← hscope]
    exact htold.concluded hopen
  | @ask fs r client runner next s shared s' _ e =>
    obtain ⟨hsame, unknown, _⟩ := e.asks hothers
    have hentered := recalls_enter (g := g) hr isOpen client r.statement
    have hasked : s'.session.Recalls (y.begin r.statement.flush) :=
      hentered.congr hsame.memo hsame.depth
    apply hasked.marked
    rw [hsame.memo]
    exact unknown
  | @answer f fs c a client s r e =>
    obtain ⟨⟨hsettings, hdepth, hclosed⟩, hmemo⟩ := Scene.lookup_answered e
    have hsettled : r.state.session.Recalls (y.settle f.key a) := by
      cases a with
      | error failure => exact hr.drop hdepth hmemo
      | ok out => exact hr.learn hdepth hmemo
    rw [session_conclude]
    have hscope : r.state.session.settings = s.session.settings := hsettings
    rw [← hscope]
    exact hsettled.concluded (hclosed.trans isOpen)

/-- A step that leaves a session open found it open. -/
theorem Step.was_open (hothers : ∀ s s', others s s' → s'.session = s.session)
    (h : Step g callers others m e m') (isOpen : m'.scene.session.closed = false) :
    m.scene.session.closed = false := by
  cases hm : m.scene.session.closed with
  | false => rfl
  | true => exact nomatch isOpen.symm.trans (h.closed hothers hm)

/-- As long as a session is open it remembers what the recollection of all that happened says. -/
theorem Course.recalls (hothers : ∀ s s', others s s' → s'.session = s.session)
    {settings : SessionSettings} {talk : Talk ρ τ} {shared : σ} {client : τ}
    (c : Course g callers others (opened settings talk shared client) es m)
    (isOpen : m.scene.session.closed = false) :
    m.scene.session.Recalls (Happening.recollection settings.scope es) := by
  induction c with
  | start => exact .nothing rfl rfl rfl
  | @step es m e m' c h ih =>
    have hopen := h.was_open hothers isOpen
    have hstep := h.recalls hothers hopen (ih hopen)
    rw [c.settings hothers] at hstep
    rw [Happening.recollection_concat]
    exact hstep

end Moment

end QueryCache
