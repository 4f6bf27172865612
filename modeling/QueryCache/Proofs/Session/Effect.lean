import QueryCache.Proofs.Session.Course

/-!
# What each thing does to a session

Most of what a session does touches its memory, its depth and its waiting loads, and leaves
the staged work to the shared caches. Here stands, for each thing that a step consists of,
what becomes of the session aside from its staged work.
-/

namespace QueryCache

variable {ρ σ τ : Type}

namespace Session

/-- Two states of a session that differ in staged work only. -/
structure Alike (x x' : Session ρ) : Prop where
  settings : x'.settings = x.settings
  memo : x'.memo = x.memo
  deferred : x'.deferred = x.deferred
  depth : x'.depth = x.depth
  closed : x'.closed = x.closed

theorem Alike.refl (x : Session ρ) : x.Alike x := ⟨rfl, rfl, rfl, rfl, rfl⟩

theorem Alike.trans {x x' x'' : Session ρ} (h : x.Alike x') (h' : x'.Alike x'') : x.Alike x'' :=
  ⟨h'.settings.trans h.settings, h'.memo.trans h.memo, h'.deferred.trans h.deferred,
    h'.depth.trans h.depth, h'.closed.trans h.closed⟩

/-- A query for a key is running, for all that the session remembers. -/
def Marks (x : Session ρ) (k : Key) : Prop := x.memo.lookup k = some .inFlight

/-- Two states of a session between which no query began or ended. -/
structure Steady (x x' : Session ρ) : Prop where
  settings : x'.settings = x.settings
  depth : x'.depth = x.depth
  closed : x'.closed = x.closed
  marks : ∀ k, x'.Marks k ↔ x.Marks k

theorem Alike.steady {x x' : Session ρ} (h : x.Alike x') : x.Steady x' :=
  ⟨h.settings, h.depth, h.closed, fun k => by rw [Marks, h.memo, Marks]⟩

theorem Steady.trans {x x' x'' : Session ρ} (h : x.Steady x') (h' : x'.Steady x'') :
    x.Steady x'' :=
  ⟨h'.settings.trans h.settings, h'.depth.trans h.depth, h'.closed.trans h.closed,
    fun k => (h'.marks k).trans (h.marks k)⟩

/-- What is forgotten by an open session is gone. -/
theorem memo_clearMemo (x : Session ρ) :
    x.clearMemo.memo = if x.closed then x.memo else .empty := by
  unfold clearMemo
  split <;> rfl

/-- What forgetting leaves does not depend on the staged work. -/
theorem Alike.clearMemo {x x' : Session ρ} (h : x.Alike x') : x.clearMemo.Alike x'.clearMemo := by
  unfold Session.clearMemo
  rw [h.closed]
  split
  · exact h
  · exact ⟨h.settings, rfl, h.deferred, h.depth, rfl⟩

/-- Forgetting marks no key. -/
theorem marks_of_clearMemo {x : Session ρ} {k : Key} (h : x.clearMemo.Marks k) : x.Marks k := by
  rw [Marks, memo_clearMemo] at h
  split at h
  · exact h
  · exact nomatch h

/-- The session at the beginning of a query. -/
def entered (x : Session ρ) (flush : Bool) : Session ρ :=
  { (if x.depth = 0 && flush then x.clearMemo else x) with depth := x.depth + 1 }

/-- The session at the end of a query. -/
def concluded (x : Session ρ) : Session ρ :=
  let depth := x.depth - 1
  let x := { x with depth, deferred := if depth = 0 then [] else x.deferred }
  if depth = 0 && x.settings.scope = .statement then x.clearMemo else x

/-- The session after an act. -/
def acted (x : Session ρ) (a : Act) : Session ρ :=
  match a with
  | .commit | .rollback | .clearMemo => x.clearMemo
  | .close _ => if x.closed then x else { x with memo := .empty, deferred := [], closed := true }
  | .store k list => { x with memo := x.memo.resolve k list }
  | .defer load =>
    if x.closed then x
    else
      match x.memo.lookup load.key with
      | some (.resolved _) => x
      | _ => { x with deferred := x.deferred ++ [load] }

/-! ### Queries -/

theorem depth_entered (x : Session ρ) (flush : Bool) : (x.entered flush).depth = x.depth + 1 := rfl

theorem settings_entered (x : Session ρ) (flush : Bool) :
    (x.entered flush).settings = x.settings := by
  unfold entered
  dsimp only
  split
  · exact settings_clearMemo x
  · rfl

theorem closed_entered (x : Session ρ) (flush : Bool) : (x.entered flush).closed = x.closed := by
  unfold entered
  dsimp only
  split
  · exact closed_clearMemo x
  · rfl

/-- Beginning a query marks no key. -/
theorem marks_of_entered {x : Session ρ} {flush : Bool} {k : Key}
    (h : (x.entered flush).Marks k) : x.Marks k := by
  unfold entered Marks at h
  dsimp only at h
  split at h
  · exact marks_of_clearMemo h
  · exact h

/-- A query inside another one begins without forgetting anything. -/
theorem memo_entered_of_depth {x : Session ρ} (h : x.depth ≠ 0) (flush : Bool) :
    (x.entered flush).memo = x.memo := by
  unfold entered
  simp only [h, decide_false, Bool.false_and, Bool.false_eq_true, if_false]

/-- A query begins without forgetting anything, unless it is an outermost one that flushes. -/
theorem memo_entered {x : Session ρ} {flush : Bool} (h : x.depth = 0 → flush = false) :
    (x.entered flush).memo = x.memo := by
  by_cases hdepth : x.depth = 0
  · unfold entered
    simp only [h hdepth, Bool.and_false, Bool.false_eq_true, if_false]
  · exact memo_entered_of_depth hdepth flush

/-- An open session begins an outermost query that flushes with nothing remembered. -/
theorem memo_entered_outermost {x : Session ρ} (hdepth : x.depth = 0) (isOpen : x.closed = false)
    (flush : Bool) : (x.entered flush).memo = if flush then .empty else x.memo := by
  unfold entered
  cases flush with
  | false => simp
  | true => simp [hdepth, memo_clearMemo, isOpen]

/-- The marks at the beginning of a query inside another one. -/
theorem Marks.entered {x : Session ρ} {k : Key} (h : x.Marks k) (hdepth : x.depth ≠ 0)
    (flush : Bool) : (x.entered flush).Marks k := by
  rw [Marks, memo_entered_of_depth hdepth]
  exact h

theorem depth_concluded (x : Session ρ) : x.concluded.depth = x.depth - 1 := by
  unfold concluded
  dsimp only
  split
  · exact depth_clearMemo _
  · rfl

theorem settings_concluded (x : Session ρ) : x.concluded.settings = x.settings := by
  unfold concluded
  dsimp only
  split
  · exact settings_clearMemo _
  · rfl

theorem closed_concluded (x : Session ρ) : x.concluded.closed = x.closed := by
  unfold concluded
  dsimp only
  split
  · exact closed_clearMemo _
  · rfl

/-- Ending a query marks no key. -/
theorem marks_of_concluded {x : Session ρ} {k : Key} (h : x.concluded.Marks k) :
    x.Marks k := by
  unfold concluded at h
  dsimp only at h
  split at h
  · have h' := marks_of_clearMemo h
    exact h'
  · exact h

/-- A query inside another one ends without forgetting anything. -/
theorem memo_concluded_of_depth {x : Session ρ} (h : x.depth - 1 ≠ 0) :
    x.concluded.memo = x.memo := by
  unfold concluded
  simp only [h, decide_false, Bool.false_and, Bool.false_eq_true, if_false]

/-- The marks at the end of a query inside another one. -/
theorem Marks.concluded {x : Session ρ} {k : Key} (h : x.Marks k) (hdepth : x.depth - 1 ≠ 0) :
    x.concluded.Marks k := by
  rw [Marks, memo_concluded_of_depth hdepth]
  exact h

/-- In session scope a query ends without forgetting anything. -/
theorem memo_concluded_of_session {x : Session ρ} (hscope : x.settings.scope = .session) :
    x.concluded.memo = x.memo := by
  unfold concluded
  simp only [hscope, reduceCtorEq, decide_false, Bool.and_false, Bool.false_eq_true, if_false]

/-- In statement scope nothing is remembered after the outermost query. -/
theorem memo_concluded_of_statement {x : Session ρ} (h : x.depth - 1 = 0)
    (hscope : x.settings.scope = .statement) (hopen : x.closed = false) :
    x.concluded.memo = .empty := by
  unfold concluded
  dsimp only
  rw [if_pos (by simp only [h, hscope, decide_true, Bool.and_self]), memo_clearMemo,
    if_neg (by rw [hopen]; exact Bool.false_ne_true)]

/-! ### Acts -/

theorem depth_acted (x : Session ρ) (a : Act) : (x.acted a).depth = x.depth := by
  cases a with
  | commit => exact depth_clearMemo x
  | rollback => exact depth_clearMemo x
  | clearMemo => exact depth_clearMemo x
  | store k list => rfl
  | close force =>
    unfold acted
    dsimp only
    split <;> rfl
  | defer load =>
    unfold acted
    dsimp only
    split
    · rfl
    · split <;> rfl

theorem settings_acted (x : Session ρ) (a : Act) : (x.acted a).settings = x.settings := by
  cases a with
  | commit => exact settings_clearMemo x
  | rollback => exact settings_clearMemo x
  | clearMemo => exact settings_clearMemo x
  | store k list => rfl
  | close force =>
    unfold acted
    dsimp only
    split <;> rfl
  | defer load =>
    unfold acted
    dsimp only
    split
    · rfl
    · split <;> rfl

/-- No act but that of closing closes a session. -/
theorem closed_acted {x : Session ρ} {a : Act} (ha : ∀ force, a ≠ .close force) :
    (x.acted a).closed = x.closed := by
  cases a with
  | commit => exact closed_clearMemo x
  | rollback => exact closed_clearMemo x
  | clearMemo => exact closed_clearMemo x
  | store k list => rfl
  | close force => exact absurd rfl (ha force)
  | defer load =>
    unfold acted
    dsimp only
    split
    · rfl
    · split <;> rfl

/-- Handing over rows leaves the memory alone. -/
theorem memo_acted_defer (x : Session ρ) (load : DeferredLoad) :
    (x.acted (.defer load)).memo = x.memo := by
  unfold acted
  dsimp only
  split
  · rfl
  · split <;> rfl

/-- No act marks a key. -/
theorem marks_of_acted {x : Session ρ} {a : Act} {k : Key} (h : (x.acted a).Marks k) :
    x.Marks k := by
  cases a with
  | commit => exact marks_of_clearMemo h
  | rollback => exact marks_of_clearMemo h
  | clearMemo => exact marks_of_clearMemo h
  | store a list =>
    rw [Marks, acted, Memo.lookup_resolve] at h
    split at h
    · exact nomatch h
    · exact h
  | close force =>
    unfold acted at h
    dsimp only at h
    split at h
    · exact h
    · exact nomatch h
  | defer load => rwa [Marks, memo_acted_defer] at h

end Session

/-- What becomes of an act in a closed session. -/
def Act.whenClosed : Act → Except Failure Unit
  | .commit | .defer _ => .error .closed
  | _ => .ok ()

namespace Scene

variable {g : Setting ρ σ τ} {callers : Caller → Prop}
  {others : Scene ρ σ τ → Scene ρ σ τ → Prop} {s s' : Scene ρ σ τ}

/-- Staging a clear touches nothing but staged work. -/
theorem alike_flush (g : Setting ρ σ τ) (st : Statement ρ) (s : Scene ρ σ τ) :
    s.session.Alike (s.flush g st).session := by
  unfold flush
  split
  · cases st.cache with
    | none => exact .refl _
    | some ref => exact ⟨rfl, rfl, rfl, rfl, rfl⟩
  · exact .refl _

/-- The beginning of a query. -/
theorem alike_enter (g : Setting ρ σ τ) (st : Statement ρ) (s : Scene ρ σ τ) :
    (s.session.entered st.flush).Alike (s.enter g st).session := by
  have hbegin (s : Scene ρ σ τ) (depth : Nat) : Session.Alike { s.session with depth }
      ((s.flush g st).onSession fun x => { x with depth }).session := by
    have h := alike_flush g st s
    exact ⟨h.settings, h.memo, h.deferred, rfl, h.closed⟩
  unfold enter Session.entered
  dsimp only
  split
  · exact hbegin (s.onSession (·.clearMemo)) _
  · exact hbegin s _

/-- The end of a query. -/
theorem session_finish (g : Setting ρ σ τ) (o : Outcome) (s : Scene ρ σ τ) :
    (finish g o s).state.session = s.session.concluded := by
  have hend (s : Scene ρ σ τ) :
      (if s.session.settings.scope = .statement then s.onSession (·.clearMemo) else s).session =
        if s.session.settings.scope = .statement then s.session.clearMemo else s.session := by
    split <;> rfl
  unfold finish Session.concluded
  dsimp only [onSession]
  by_cases h : s.session.depth - 1 = 0
  · simp only [h, if_true, decide_true, Bool.true_and, decide_eq_true_eq]
    cases o.result with
    | ok list =>
      refine (hend _).trans ?_
      rw [session_deliverAll]
    | error f => exact hend _
  · simp only [h, if_false, decide_false, Bool.false_and, Bool.false_eq_true]

/-- A statement that changes data. -/
theorem alike_update {runner : τ → Except Failure Nat × τ} {st : Statement ρ}
    {r : Reply (Scene ρ σ τ) (Except Failure Nat)} (e : update g runner st s = r) :
    s.session.clearMemo.Alike r.state.session := by
  subst e
  unfold update
  split
  · next hclosed =>
    rw [Session.clearMemo, if_pos hclosed]
    exact .refl _
  · exact (alike_flush g st s).clearMemo

/-- A commit. -/
theorem alike_commit (g : Setting ρ σ τ) (c : Caller) (s : Scene ρ σ τ) :
    s.session.clearMemo.Alike (s.commit g c).state.session := by
  unfold commit
  split
  · next hclosed =>
    rw [Session.clearMemo, if_pos hclosed]
    exact .refl _
  · exact ⟨rfl, rfl, rfl, rfl, rfl⟩

/-- A rollback. -/
theorem alike_rollback (g : Setting ρ σ τ) (c : Caller) (s : Scene ρ σ τ) :
    s.session.clearMemo.Alike (s.rollback g c).state.session := by
  unfold rollback
  split
  · next hclosed =>
    rw [Session.clearMemo, if_pos hclosed]
    exact .refl _
  · exact ⟨rfl, rfl, rfl, rfl, rfl⟩

/-- An act of a runner. -/
theorem alike_perform {c : Caller} {a : Act} {r : Reply (Scene ρ σ τ) (Except Failure Unit)}
    (e : perform g c a s = r) : (s.session.acted a).Alike r.state.session := by
  subst e
  cases a with
  | commit => exact alike_commit g c s
  | rollback => exact alike_rollback g c s
  | clearMemo => exact .refl _
  | store k list => exact .refl _
  | close force =>
    unfold Session.acted
    simp only [perform, close]
    split
    · exact .refl _
    · split <;> exact ⟨rfl, rfl, rfl, rfl, rfl⟩
  | defer load =>
    unfold Session.acted
    simp only [perform, defer]
    split
    · exact .refl _
    · rcases s.session.memo.lookup load.key with _ | _ | list <;> exact .refl _

/-- In a closed session no act does anything but that of storing rows. -/
theorem perform_closed (g : Setting ρ σ τ) (c : Caller) (a : Act) {s : Scene ρ σ τ}
    (h : s.session.closed = true) :
    perform g c a s =
      ⟨a.whenClosed, match a with | .store k list => s.remember k list | _ => s, []⟩ := by
  have hclear : s.onSession (·.clearMemo) = s := by
    rw [onSession, Session.clearMemo, if_pos h]
  cases a with
  | commit => exact if_pos h
  | rollback =>
    rw [perform, rollback, if_pos h]
    rfl
  | close force => exact if_pos h
  | clearMemo =>
    rw [perform, hclear]
    rfl
  | store k list => rfl
  | defer load => exact if_pos h

/-- In a closed session no statement changes data, and its runner is not called. -/
theorem update_closed (g : Setting ρ σ τ) (runner : τ → Except Failure Nat × τ)
    (st : Statement ρ) (h : s.session.closed = true) :
    update g runner st s = ⟨.error .closed, s, []⟩ :=
  if_pos h

/-- A lookup in a shared cache touches nothing but staged work. -/
theorem alike_lookup (hothers : ∀ s s', others s s' → s'.session = s.session) {c : Caller}
    {ref : ρ} {k : Key} {reply : Reply (Scene ρ σ τ) (Except CacheFailure (Option Entry))}
    (h : (lookup g c ref k s).EndsBy callers others reply) :
    s.session.Alike reply.state.session := by
  have hplace (i : Over (Transaction ρ) σ) (t : Scene ρ σ τ) (ht : s.session.Alike t.session) :
      s.session.Alike ((staging g).place i t).session := ht.trans ⟨rfl, rfl, rfl, rfl, rfl⟩
  have hlookup : (lookup g c ref k s).Always others (fun t => s.session.Alike t.session)
      fun _ t => s.session.Alike t.session := by
    refine Run.Always.within (fun t => s.session.Alike t.session) (Run.always_true _)
      (.refl _) ?_ ?_ ?_
    · exact fun i t ht _ => hplace i t ht
    · intro i t t' ht _ moved
      refine ⟨True.intro, ?_⟩
      rw [hothers _ _ moved]
      exact hplace i t ht
    · exact fun _ i t ht _ => hplace i t ht
  exact hlookup.of_ends h.ends

/-- A query that is told its outcome leaves all marks as they are. -/
theorem Consults.steady (hothers : ∀ s s', others s s' → s'.session = s.session)
    {r : Request ρ} {k : Key} {o : Outcome}
    (h : Consults g callers others r k s (.told o) s') : s.session.Steady s'.session := by
  cases h with
  | remembered known => exact (Session.Alike.refl _).steady
  | circular known => exact (Session.Alike.refl _).steady
  | refused unknown refusal => exact (Session.Alike.refl _).steady
  | failed unknown shared hc looked => exact (alike_lookup hothers looked).steady
  | found unknown shared hc looked =>
    have h := alike_lookup hothers looked
    refine ⟨h.settings, h.depth, h.closed, fun k' => ?_⟩
    simp only [Session.Marks, remember, onSession, Memo.lookup_resolve]
    split
    · next heq =>
      rw [← heq, unknown]
      simp only [reduceCtorEq, Option.some.injEq]
    · exact h.steady.marks k'

/-- A query that is told rows finds them in the session's memory, or else in its shared cache,
and then they are remembered. -/
theorem Consults.told_rows {r : Request ρ} {k : Key} {o : Outcome} {list : RowList}
    (h : Consults g callers others r k s (.told o) s') (ho : o.result = .ok list) :
    (s.session.memo.lookup k = some (.resolved list) ∧ s' = s) ∨
    s.session.memo.lookup k = none ∧ ∃ ref c reply,
      s.session.cacheFor r.statement r.bound = .ok (some ref) ∧ callers c ∧
      (lookup g c ref k s).EndsBy callers others reply ∧
      reply.value = .ok (some (.rows list)) ∧ s' = reply.state.remember k list := by
  cases h with
  | remembered known =>
    cases ho
    exact .inl ⟨known, rfl⟩
  | circular known => exact nomatch ho
  | refused unknown refusal => exact nomatch ho
  | failed unknown shared hc looked => exact nomatch ho
  | found unknown shared hc looked =>
    cases ho
    exact .inr ⟨unknown, _, _, _, shared, hc, looked, rfl, rfl⟩

/-- A query that is told of a failure leaves what is remembered. -/
theorem Consults.told_failure (hothers : ∀ s s', others s s' → s'.session = s.session)
    {r : Request ρ} {k : Key} {o : Outcome} {f : Failure}
    (h : Consults g callers others r k s (.told o) s') (ho : o.result = .error f) :
    s.session.Alike s'.session := by
  cases h with
  | remembered known => exact nomatch ho
  | circular known => exact .refl _
  | refused unknown refusal => exact .refl _
  | failed unknown shared hc looked => exact alike_lookup hothers looked
  | found unknown shared hc looked => exact nomatch ho

/-- Until its runner is needed, a query does nothing but perhaps a lookup in its shared cache, whose
rows are remembered. -/
theorem Consults.reached {r : Request ρ} {k : Key} {o : Consulted ρ}
    (h : Consults g callers others r k s o s') :
    s' = s ∨ ∃ c ref reply, callers c ∧ (lookup g c ref k s).EndsBy callers others reply ∧
      (s' = reply.state ∨ ∃ list, s' = reply.state.remember k list) := by
  cases h with
  | remembered known => exact .inl rfl
  | circular known => exact .inl rfl
  | refused unknown refusal => exact .inl rfl
  | unshared unknown unshared => exact .inl rfl
  | failed unknown shared hc looked => exact .inr ⟨_, _, _, hc, looked, .inl rfl⟩
  | found unknown shared hc looked => exact .inr ⟨_, _, _, hc, looked, .inr ⟨_, rfl⟩⟩
  | missed unknown shared hc looked nothing => exact .inr ⟨_, _, _, hc, looked, .inl rfl⟩

/-- A query that asks its runner knew nothing of its key. -/
theorem Consults.asks (hothers : ∀ s s', others s s' → s'.session = s.session) {r : Request ρ}
    {k : Key} {shared : Option ρ} (h : Consults g callers others r k s (.ask shared) s') :
    s.session.Alike s'.session ∧ s.session.memo.lookup k = none ∧
      s.session.cacheFor r.statement r.bound = .ok shared := by
  cases h with
  | unshared unknown none => exact ⟨.refl _, unknown, none⟩
  | missed unknown shared hc looked nothing => exact ⟨alike_lookup hothers looked, unknown, shared⟩

/-- The answer of a runner changes what is remembered under the key of its query only. -/
theorem lookup_answered {r : Request ρ} {k : Key} {shared : Option ρ} {c : Caller}
    {a : Except Failure Output} {reply : Reply (Scene ρ σ τ) Outcome}
    (h : answered g r k shared c a s = .done reply) :
    (reply.state.session.settings = s.session.settings ∧
      reply.state.session.depth = s.session.depth ∧
      reply.state.session.closed = s.session.closed) ∧
    ∀ k', reply.state.session.memo.lookup k' =
      if k = k' then
        match a with
        | .ok out => some (.resolved out.rows)
        | .error _ => none
      else s.session.memo.lookup k' := by
  unfold answered at h
  cases a with
  | error f =>
    cases h
    exact ⟨⟨rfl, rfl, rfl⟩, fun k' => Memo.lookup_remove _ k k'⟩
  | ok out =>
    have hrows := fun k' => Memo.lookup_resolve s.session.memo k k' out.rows
    dsimp only at h
    split at h
    · cases shared <;> cases h <;> exact ⟨⟨rfl, rfl, rfl⟩, hrows⟩
    · cases shared <;> cases h <;> exact ⟨⟨rfl, rfl, rfl⟩, hrows⟩

/-- The rows of an answer are the outcome of its query. -/
theorem result_answered {r : Request ρ} {k : Key} {shared : Option ρ} {c : Caller}
    {a : Except Failure Output} {reply : Reply (Scene ρ σ τ) Outcome}
    (h : answered g r k shared c a s = .done reply) :
    reply.value.result = a.map (·.rows) := by
  unfold answered at h
  cases a with
  | error f =>
    cases h
    rfl
  | ok out =>
    cases h
    rfl

end Scene

namespace Moment

variable {g : Setting ρ σ τ} {callers : Caller → Prop}
  {others : Scene ρ σ τ → Scene ρ σ τ → Prop} {m m' : Moment ρ σ τ} {e : Happening ρ}

theorem session_conclude (g : Setting ρ σ τ) (frames : List (Frame ρ τ))
    (next : Outcome → τ → Talk ρ τ) (o : Outcome) (s : Scene ρ σ τ) :
    (conclude g frames next o s).scene.session = s.session.concluded :=
  Scene.session_finish g o s

/-- A query that is told its outcome has no mark of its own. -/
theorem steady_told (hothers : ∀ s s', others s s' → s'.session = s.session) {s s' : Scene ρ σ τ}
    {y : τ} {r : Request ρ} {k : Key} {o : Outcome}
    (h : Scene.Consults g callers others r k
      (({ s with client := y } : Scene ρ σ τ).enter g r.statement) (.told o) s') :
    (s.session.entered r.statement.flush).Steady s'.session :=
  (Scene.alike_enter g r.statement { s with client := y }).steady.trans (h.steady hothers)

/-- A query that is told its outcome is counted until it ends. -/
theorem depth_told (hothers : ∀ s s', others s s' → s'.session = s.session) {s s' : Scene ρ σ τ}
    {y : τ} {r : Request ρ} {k : Key} {o : Outcome}
    (h : Scene.Consults g callers others r k
      (({ s with client := y } : Scene ρ σ τ).enter g r.statement) (.told o) s') :
    s'.session.depth - 1 = s.session.depth := by
  rw [(steady_told hothers h).depth, Session.depth_entered, Nat.add_sub_cancel]

/-- A query that asks its runner marks its key, and nothing else. -/
theorem steady_asked (hothers : ∀ s s', others s s' → s'.session = s.session)
    {s s' : Scene ρ σ τ} {y : τ} {r : Request ρ} {k : Key} {shared : Option ρ}
    (h : Scene.Consults g callers others r k
      (({ s with client := y } : Scene ρ σ τ).enter g r.statement) (.ask shared) s') :
    (s.session.entered r.statement.flush).Steady s'.session :=
  (Scene.alike_enter g r.statement { s with client := y }).steady.trans (h.asks hothers).1.steady

/-- The settings of a session never change. -/
theorem Step.settings (hothers : ∀ s s', others s s' → s'.session = s.session)
    (h : Step g callers others m e m') :
    m'.scene.session.settings = m.scene.session.settings := by
  cases h with
  | others moved => exact congrArg Session.settings (hothers _ _ moved)
  | look => rfl
  | update e =>
    have hs := Scene.alike_update e
    exact hs.settings.trans (Session.settings_clearMemo _)
  | act hc e =>
    have hs := Scene.alike_perform e
    exact hs.settings.trans (Session.settings_acted _ _)
  | refuse closed => rfl
  | tell isOpen e =>
    rw [session_conclude, Session.settings_concluded, (steady_told hothers e).settings]
    exact Session.settings_entered _ _
  | ask isOpen e => exact (steady_asked hothers e).settings.trans (Session.settings_entered _ _)
  | answer e =>
    rw [session_conclude, Session.settings_concluded]
    exact (Scene.lookup_answered e).1.1

theorem Course.settings (hothers : ∀ s s', others s s' → s'.session = s.session)
    {es : List (Happening ρ)}
    (c : Course g callers others m es m') :
    m'.scene.session.settings = m.scene.session.settings := by
  induction c with
  | start => rfl
  | step c h ih => exact (h.settings hothers).trans ih

/-- A conversation that comes to an end leaves the settings of its session. -/
theorem settings_converse (hothers : ∀ s s', others s s' → s'.session = s.session)
    (t : Talk ρ τ) {c : Caller} {s : Scene ρ σ τ}
    {reply : Reply (Scene ρ σ τ) (Except Failure Output)} (hc : callers c)
    (h : (Scene.converse g t c s).EndsBy callers others reply) :
    reply.state.session.settings = s.session.settings := by
  obtain ⟨es, y, s', hcourse, hend⟩ := course_converse t [] hc h
  rw [hend]
  exact hcourse.settings hothers

/-- Nothing but closing it closes a session, and nothing opens it again. -/
theorem Step.closed_eq (hothers : ∀ s s', others s s' → s'.session = s.session)
    (h : Step g callers others m e m') (he : ∀ force x, e ≠ .did (.close force) x) :
    m'.scene.session.closed = m.scene.session.closed := by
  cases h with
  | others moved => exact congrArg Session.closed (hothers _ _ moved)
  | look => rfl
  | update e =>
    have hs := Scene.alike_update e
    exact hs.closed.trans (Session.closed_clearMemo _)
  | @act _ a y _ s c r hc e =>
    have hs := Scene.alike_perform e
    refine hs.closed.trans (Session.closed_acted fun force ha => ?_)
    exact he force r.value (congrArg (Happening.did · r.value) ha)
  | refuse closed => rfl
  | tell isOpen e =>
    rw [session_conclude, Session.closed_concluded, (steady_told hothers e).closed]
    exact Session.closed_entered _ _
  | ask isOpen e => exact (steady_asked hothers e).closed.trans (Session.closed_entered _ _)
  | answer e =>
    rw [session_conclude, Session.closed_concluded]
    exact (Scene.lookup_answered e).1.2.2

/-- A closed session stays closed. -/
theorem Step.closed (hothers : ∀ s s', others s s' → s'.session = s.session)
    (h : Step g callers others m e m') (hm : m.scene.session.closed = true) :
    m'.scene.session.closed = true := by
  cases e with
  | did a x =>
    cases a with
    | close force =>
      cases h with
      | act hc e =>
        have hs := Scene.alike_perform e
        rw [hs.closed, Session.acted, if_pos hm]
        exact hm
    | _ => exact (h.closed_eq hothers nofun).trans hm
  | _ => exact (h.closed_eq hothers nofun).trans hm

end Moment

end QueryCache
