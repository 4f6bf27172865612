import QueryCache.Proofs.Session.Staged
import QueryCache.Proofs.Stack.Holding

/-!
# Locks and transactions

A session whose shared caches all have key locks, used by one thread. A lock stays with the key
of a lookup that came to nothing, and so does a miss in the staged work, though neither knows of
the other. The end of a transaction writes to every missed key or removes it, whatever fails, so
it gives back all locks.
-/

namespace QueryCache

variable {ρ σ τ : Type} [DecidableEq ρ]

/-! ### What a transaction owes -/

/-- A lookup that is written down as a miss is one of the deeds that found nothing. -/
theorem Transaction.mem_misses_of_lookups {ds : List (ρ × Deed)} {x : Record ρ} {ref : ρ}
    {k : Key} (hx : x ∈ lookups ds) (hm : x.Misses ref k) :
    k ∈ Deed.misses (deedsOn ref ds) := by
  obtain ⟨⟨target, d⟩, hd, heq⟩ := List.mem_filterMap.mp hx
  obtain ⟨rfl, hcall, hanswer⟩ := hm
  cases d with
  | put a e => exact nomatch heq
  | clear => exact nomatch heq
  | got a v =>
    cases heq
    cases hcall
    refine List.mem_filterMap.mpr ⟨.got k v, ?_, ?_⟩
    · exact List.mem_map.mpr ⟨(target, .got k v),
        List.mem_filter.mpr ⟨hd, decide_eq_true rfl⟩, rfl⟩
    · rcases hanswer with h | h
      · cases h
        rfl
      · cases h
        rfl

/-- The end of a transaction looks nothing up. -/
theorem Act.get_not_mem_calls {a : Act} {h : List (ρ × Deed)} {ref : ρ} {k : Key} :
    (ref, Call.get k) ∉ a.calls h := by
  have hcommit : (ref, Call.get k) ∉ Transaction.commitCalls h := fun hmem =>
    Deed.get_not_mem_commitCalls (Transaction.mem_commitCalls.mp hmem)
  have hrollback : (ref, Call.get k) ∉ Transaction.rollbackCalls h := fun hmem =>
    Deed.get_not_mem_rollbackCalls (Transaction.mem_rollbackCalls.mp hmem)
  match a with
  | .commit => exact hcommit
  | .close false => exact hcommit
  | .rollback => exact hrollback
  | .close true => exact hrollback
  | .clearMemo => exact List.not_mem_nil
  | .store _ _ => exact List.not_mem_nil
  | .defer _ => exact List.not_mem_nil

/-- The end of a transaction writes to every missed key, or removes it. -/
theorem Act.settles_misses {a : Act} (ha : a.ends = true) {h : List (ρ × Deed)} {ref : ρ}
    {k : Key} (hk : k ∈ Deed.misses (Transaction.deedsOn ref h)) :
    (ref, Call.remove k) ∈ a.calls h ∨ ∃ e, (ref, Call.put k e) ∈ a.calls h := by
  have hcommit : ∃ e, (ref, Call.put k e) ∈ Transaction.commitCalls h := by
    obtain ⟨e, he⟩ := Deed.put_mem_commitCalls hk
    exact ⟨e, Transaction.mem_commitCalls.mpr he⟩
  have hrollback : (ref, Call.remove k) ∈ Transaction.rollbackCalls h :=
    Transaction.mem_rollbackCalls.mpr (List.mem_map_of_mem (List.mem_eraseDups.mpr hk))
  match a, ha with
  | .commit, _ => exact .inr hcommit
  | .close false, _ => exact .inr hcommit
  | .rollback, _ => exact .inl hrollback
  | .close true, _ => exact .inl hrollback

/-- The calls at the end of a transaction leave nothing owed. -/
theorem Journal.not_owes_of_ends {a : Act} (ha : a.ends = true) {h : List (ρ × Deed)}
    {j j' : Journal ρ} (hcalls : j'.calls = a.calls h) {ref : ρ} {k : Key}
    (howed : j.Owes ref k → k ∈ Deed.misses (Transaction.deedsOn ref h)) :
    ¬ Owes (j ++ j') ref k := by
  have hmade {x : ρ × Call} (hx : x ∈ a.calls h) : ∃ y ∈ j', (y.target, y.call) = x := by
    rw [← hcalls] at hx
    exact List.mem_map.mp hx
  intro hstill
  rcases hstill.of_append with ⟨x, hx, rfl, hget, _⟩ | ⟨hbefore, hno⟩
  · have hmem : (x.target, x.call) ∈ a.calls h := hcalls ▸ List.mem_map_of_mem hx
    rw [hget] at hmem
    exact Act.get_not_mem_calls hmem
  · rcases Act.settles_misses ha (howed hbefore) with hmem | ⟨e, hmem⟩
    · obtain ⟨y, hy, heq⟩ := hmade hmem
      obtain ⟨htarget, hcall⟩ := Prod.mk.inj heq
      exact hno y hy ⟨htarget, .inl hcall⟩
    · obtain ⟨y, hy, heq⟩ := hmade hmem
      obtain ⟨htarget, hcall⟩ := Prod.mk.inj heq
      exact hno y hy ⟨htarget, .inr ⟨e, hcall⟩⟩

namespace Moment

variable {name : ρ → String} {inner : ρ → Cache σ} {thread : Nat}
  {g : Setting ρ (Blocking.Lockers ρ σ) τ} {callers : Caller → Prop}
  {others : Scene ρ (Blocking.Lockers ρ σ) τ → Scene ρ (Blocking.Lockers ρ σ) τ → Prop}
  {m₀ m m' : Moment ρ (Blocking.Lockers ρ σ) τ} {e : Happening ρ} {es : List (Happening ρ)}

/-- Locks are on owed keys only, and what is owed was missed by the transaction. A closed
session owes nothing. -/
structure Accountable (name : ρ → String) (thread : Nat)
    (m : Moment ρ (Blocking.Lockers ρ σ) τ) (h : List (ρ × Deed)) : Prop where
  reflects : m.scene.session.staged.Reflects name h
  kept : Blocking.Kept thread m.scene.shared
  owed : ∀ ref k, m.scene.shared.own.Owes ref k → k ∈ Deed.misses (Transaction.deedsOn ref h)
  closed : m.scene.session.closed = true → ∀ ref k, ¬ m.scene.shared.own.Owes ref k

/-- Caches without locks owe nothing. -/
theorem accountable_opened {locks : ρ → Blocking}
    (hfree : ∀ ref, (locks ref).locks = Table.empty) (settings : SessionSettings)
    (talk : Talk ρ τ) (start : σ) (client : τ) :
    (opened settings talk ⟨[], locks, start⟩ client).Accountable name thread [] where
  reflects := Transaction.reflects_empty
  kept := by
    intro ref k l hl
    change (locks ref).locks.get? k = some l at hl
    rw [hfree ref] at hl
    exact nomatch hl
  owed _ _ howed := absurd howed Journal.not_owes_nil
  closed _ _ _ := Journal.not_owes_nil

/-- Each call on the shared caches keeps the locks to what is owed. -/
theorem preserves_kept (hg : g.cache = Journal.caches id (Blocking.caches inner)) :
    g.Preserves (fun c => c.thread = thread) Blocking.Apart (Blocking.Kept thread) where
  held c held hc := hc
  get ref c k s hc hs := by
    rw [hg]
    exact Blocking.kept_get hs hc k
  put ref c k e s hc hs := by
    rw [hg]
    exact Blocking.kept_put hs hc k e
  remove ref c k s hc hs := by
    rw [hg]
    exact Blocking.kept_remove hs hc k
  clear ref c s hc hs := by
    rw [hg]
    exact Blocking.kept_clear hs c
  others s s' moved hs := hs.apart moved

variable (hname : Function.Injective name) (hid : ∀ ref s, (inner ref).id s = name ref)
  (hg : g.cache = Journal.caches id (Blocking.caches inner))
  (hothers : ∀ s s', others s s' →
    s'.session = s.session ∧ Blocking.Apart s.shared s'.shared)

include hname hid hg hothers

/-- A step keeps the account, and the end of a transaction settles it. -/
theorem Step.accountable (step : Step g (fun c => c.thread = thread) others m e m')
    {h : List (ρ × Deed)} (ha : m.Accountable name thread h) :
    (∃ h', m'.Accountable name thread h') ∧
      (∃ j, m'.scene.shared.own = m.scene.shared.own ++ j) ∧
      (e.ends = true → ∀ ref k, ¬ m'.scene.shared.own.Owes ref k) := by
  have hkept : Blocking.Kept thread m'.scene.shared :=
    step.keeps (preserves_kept hg) (fun s s' moved => (hothers s s' moved).2) ha.kept
  have hsession := fun s s' moved => (hothers s s' moved).1
  have hjournal := fun s s' moved => (hothers s s' moved).2.1
  have hid' : ∀ ref s, (Blocking.caches inner ref).id s = name ref := fun ref s => hid ref s.inner
  by_cases he : e.ends = false ∨ m.scene.session.closed = true
  · obtain ⟨ds, d, _, hlookups⟩ := step.does hname hid' hg
      (fun s s' moved => ⟨hsession s s' moved, hjournal s s' moved⟩) ha.reflects he
    have hclosed (hm : m.scene.session.closed = true) (ref : ρ) (k : Key) :
        ¬ m'.scene.shared.own.Owes ref k := by
      rw [d.journal, hlookups hm, List.append_nil]
      exact ha.closed hm ref k
    refine ⟨⟨h ++ ds, d.reflects, hkept, ?_, ?_⟩, ⟨_, d.journal⟩, ?_⟩
    · -- What is owed now was missed just now, which the deeds know of, or was owed before.
      intro ref k howed
      rw [Transaction.misses_append]
      rw [d.journal] at howed
      rcases howed.of_append with ⟨x, hx, hm⟩ | ⟨hbefore, _⟩
      · exact List.mem_append_right _ (Transaction.mem_misses_of_lookups hx hm)
      · exact List.mem_append_left _ (ha.owed ref k hbefore)
    · intro hm'
      rcases he with hno | hm
      · have hkeeps : ∀ force x, e ≠ .did (.close force) x := by
          rintro force x rfl
          exact nomatch hno
        exact hclosed ((step.closed_eq hsession hkeeps).symm.trans hm')
      · exact hclosed hm
    · intro hends
      exact hclosed (he.resolve_left fun hno => Bool.noConfusion (hno.symm.trans hends))
  · obtain ⟨hno, hopen⟩ := not_or.mp he
    obtain ⟨a, x, rfl, hends⟩ := Happening.did_of_ends hno
    obtain ⟨j, hj, hcalls, hstaged⟩ :=
      step.ended hname hg ha.reflects hends (eq_false_of_ne_true hopen)
    -- All that was owed is one of the misses, and these are written to or removed.
    have hnone (ref : ρ) (k : Key) : ¬ m'.scene.shared.own.Owes ref k := by
      rw [hj]
      exact Journal.not_owes_of_ends hends hcalls (ha.owed ref k)
    refine ⟨⟨[], ?_, hkept, fun ref k howed => absurd howed (hnone ref k), fun _ => hnone⟩,
      ⟨j, hj⟩, fun _ => hnone⟩
    rw [hstaged]
    exact Transaction.reflects_empty

/-- The account is kept all along a course, and what is written down stays. -/
theorem Course.accountable (c : Course g (fun c => c.thread = thread) others m₀ es m)
    {h : List (ρ × Deed)} (ha : m₀.Accountable name thread h) :
    (∃ h', m.Accountable name thread h') ∧
      ∃ j, m.scene.shared.own = m₀.scene.shared.own ++ j := by
  induction c with
  | start => exact ⟨⟨h, ha⟩, [], (List.append_nil _).symm⟩
  | step c step ih =>
    obtain ⟨⟨h', ha'⟩, j, hj⟩ := ih
    obtain ⟨hnext, ⟨j', hj'⟩, _⟩ := step.accountable hname hid hg hothers ha'
    refine ⟨hnext, j ++ j', ?_⟩
    rw [hj', hj, List.append_assoc]

/-- No lock outlives its transaction. After a commit, a rollback or a close, whatever fails in
them and however deep they stand, there are no locks; and at any moment after a transaction
began, a lock is on a key for which a lookup since then came to nothing. -/
theorem no_lock_outlives {locks : ρ → Blocking}
    (hfree : ∀ ref, (locks ref).locks = Table.empty) {settings : SessionSettings}
    {talk : Talk ρ τ} {start : σ} {client : τ} {es₀ : List (Happening ρ)}
    (before : Course g (fun c => c.thread = thread) others
      (opened settings talk ⟨[], locks, start⟩ client) es₀ m₀)
    (hbegins : ∀ e ∈ es₀.getLast?, e.ends = true)
    (c : Course g (fun c => c.thread = thread) others m₀ es m) :
    (∀ a r m', Step g (fun c => c.thread = thread) others m (.did a r) m' → a.ends = true →
      ∀ ref, (m'.scene.shared.inner.own ref).locks.size = 0) ∧
    ∃ j, m.scene.shared.own = m₀.scene.shared.own ++ j ∧
      ∀ ref k l, (m.scene.shared.inner.own ref).locks.get? k = some l →
        ∃ x ∈ j, x.Misses ref k := by
  have hopened : (opened settings talk ⟨[], locks, start⟩ client).Accountable name thread [] :=
    accountable_opened hfree settings talk start client
  obtain ⟨⟨h₀, ha₀⟩, _⟩ := before.accountable hname hid hg hothers hopened
  obtain ⟨⟨h, ha⟩, j, hj⟩ := c.accountable hname hid hg hothers ha₀
  refine ⟨?_, j, hj, ?_⟩
  · intro a r m' step hends ref
    obtain ⟨⟨h', ha'⟩, _, hnone⟩ := step.accountable hname hid hg hothers ha
    exact (ha'.kept ref).size_locks (hnone hends ref)
  · intro ref k l hl
    have hnone : ¬ m₀.scene.shared.own.Owes ref k := by
      cases before with
      | start => exact Journal.not_owes_nil
      | step c step =>
        obtain ⟨⟨h', ha'⟩, _⟩ := c.accountable hname hid hg hothers hopened
        refine (step.accountable hname hid hg hothers ha').2.2 (hbegins _ ?_) ref k
        rw [List.getLast?_concat]
        rfl
    have howed := (ha.kept ref k l hl).2
    rw [hj] at howed
    exact howed.of_append.resolve_right fun hbefore => hnone hbefore.1

end Moment

/-- Two stores with key locks, under a client that has nothing to do. -/
def twoLocked : Setting Bool (Blocking.Lockers Bool (Bool → Store)) Unit where
  cache := Journal.caches id (Blocking.caches Transaction.twoStores)
  deliver _ _ _ := ()

/-- A query whose runner makes another one, which fails, and then rolls back. -/
def rollingBackInside : Talk Bool Unit :=
  .query (leftRequest {}) ()
    (fun _ => .query (leftRequest { hashcode := 1 }) () (fun _ => .finish (.error .closed) ())
      fun _ _ => .act .rollback () fun _ _ => .finish (.ok { rows := ⟨1, []⟩ }) ())
    fun _ _ => .finish (.error .closed) ()

namespace Moment

/-- Both queries leave a lock, and the rollback gives them back. -/
theorem no_lock_outlives_nested :
    ∃ (m m' : Moment Bool (Blocking.Lockers Bool (Bool → Store)) Unit)
      (es : List (Happening Bool)) (j : Journal Bool),
      Course twoLocked (fun c => c.thread = 0) Eq
        (opened {} rollingBackInside ⟨[], fun _ => {}, fun _ => { name := "" }⟩ ()) es m ∧
      es.length = 3 ∧ (m.scene.shared.inner.own false).locks.size = 2 ∧
      m.scene.shared.own = j ∧
      (∀ k l, (m.scene.shared.inner.own false).locks.get? k = some l →
        ∃ x ∈ j, x.Misses false k) ∧
      Step twoLocked (fun c => c.thread = 0) Eq m (.did .rollback (.ok ())) m' ∧
      (m'.scene.shared.inner.own false).locks.size = 0 := by
  have begun : Course twoLocked (fun c => c.thread = 0) Eq
      (opened {} rollingBackInside ⟨[], fun _ => {}, fun _ => { name := "" }⟩ ()) [] _ := .start
  have asked := begun.step (.ask rfl (.missed (c := {}) rfl rfl rfl (.done _) nofun))
  have inside := asked.step (.ask rfl (.missed (c := {}) rfl rfl rfl (.done _) nofun))
  have failed := inside.step (.answer (c := {}) rfl)
  obtain ⟨hends, j, hj, hlocks⟩ := no_lock_outlives Transaction.injective_twoStores
    (fun _ _ => rfl) rfl (fun s s' h => by rw [h]; exact ⟨rfl, rfl, rfl⟩) (fun _ => rfl) begun
    (fun _ he => nomatch he) failed
  have hthread : (fun c : Caller => c.thread = 0) {} := rfl
  exact ⟨_, _, _, j, failed, rfl, rfl, hj, hlocks false, .act hthread rfl,
    hends _ _ _ (.act hthread rfl) rfl false⟩

end Moment

end QueryCache
