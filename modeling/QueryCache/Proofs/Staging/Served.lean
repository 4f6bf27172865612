import QueryCache.Proofs.Stack.Service
import QueryCache.Proofs.Staging.Solo

/-!
# Transactions over a cache that serves them

A transaction over a faithful cache that serves its thread is answered at once and never
fails. It owns the locks of the keys it missed until it ends; afterwards no lock is owned,
and the cache has what it had, unless it was cleared, and what was staged.
-/

namespace QueryCache

variable {ρ σ : Type} {cache : Cache σ} {has : σ → Key → RowList → Prop}
  {locked : Nat → (Key → Prop) → σ → Prop}

/-- A lookup is answered at once with what is there. -/
theorem Cache.get_served (hf : cache.Faithful has) (hs : cache.Serves locked) {c : Caller}
    {k : Key} {s : σ} {M : Key → Prop} (hl : locked c.thread M s) :
    (cache.get c k s).Returns fun v s' => ∃ e : Option Entry, v = .ok e ∧
      cache.Answers has k s v s' ∧
      locked c.thread (fun a => M a ∨ (a = k ∧ e.all (·.isNull) = true)) s' := by
  obtain ⟨r, hr, e, he, hl'⟩ := (hs.get hl).done
  have hans := hf.get c k s
  rw [hr] at hans ⊢
  exact ⟨e, he, hans, hl'⟩

namespace Pending

/-- What a step leaves there: what was there, unless it clears, and what it writes. -/
theorem Step.has_run (hf : cache.Faithful has) (c : Caller) (step : Step) {s : σ} {k : Key}
    {r : RowList} (h : has (step.run cache c s).state k r) :
    (has s k r ∧ step ≠ .clear) ∨ ∃ e, step.call = .put k e ∧ e.list? = some r := by
  cases step with
  | clear => exact absurd h ((hf.clear c s).1 k r)
  | put a e =>
    rcases (hf.put c a e s).1 k r h with hr | ⟨rfl, he⟩
    · exact .inl ⟨hr, nofun⟩
    · exact .inr ⟨e, rfl, he⟩
  | putNull a =>
    rcases (hf.put c a .null s).1 k r h with hr | ⟨rfl, he⟩
    · exact .inl ⟨hr, nofun⟩
    · exact nomatch he

/-- What steps leave there: what was there, unless one of them clears, and what they write. -/
theorem has_runSteps (hf : cache.Faithful has) (c : Caller) (steps : List Step) {s : σ} {k : Key}
    {r : RowList} (h : has (runSteps cache c steps s).state k r) :
    (has s k r ∧ .clear ∉ steps) ∨
      ∃ step ∈ steps, ∃ e, step.call = .put k e ∧ e.list? = some r := by
  induction steps generalizing s with
  | nil => exact .inl ⟨h, List.not_mem_nil⟩
  | cons step rest ih =>
    have hrest : has (runSteps cache c rest
        (step.run cache (c.holding fun id => rest.any (·.holds id)) s).state).state k r := by
      simp only [runSteps, Reply.andThen, Reply.after] at h
      split at h <;> exact h
    rcases ih hrest with ⟨hr, hclear⟩ | ⟨step', hmem, hput⟩
    · rcases step.has_run hf _ hr with ⟨hr, hne⟩ | hput
      · refine .inl ⟨hr, fun hmem => ?_⟩
        rcases List.mem_cons.mp hmem with heq | hmem
        · exact hne heq.symm
        · exact hclear hmem
      · exact .inr ⟨step, List.mem_cons_self, hput⟩
    · exact .inr ⟨step', List.mem_cons_of_mem _ hmem, hput⟩

/-- A step is not refused, and a write gives the lock of its key back. -/
theorem Step.run_served (hs : cache.Serves locked) (step : Step) {c : Caller} {s : σ}
    {M : Key → Prop} (hl : locked c.thread M s) : (step.run cache c s).value = .ok () ∧
      locked c.thread (fun a => M a ∧ ∀ e, step.call ≠ .put a e) (step.run cache c s).state := by
  cases step with
  | clear =>
    obtain ⟨hv, hl⟩ := hs.clear hl
    exact ⟨hv, hs.mono hl fun a ha => ⟨ha, nofun⟩⟩
  | put k e =>
    obtain ⟨hv, hl⟩ := hs.put hl
    refine ⟨hv, hs.mono hl fun a ha => ⟨ha.1, ?_⟩⟩
    rintro e' heq
    injection heq with hk _
    exact ha.2 hk.symm
  | putNull k =>
    obtain ⟨hv, hl⟩ := hs.put hl
    refine ⟨hv, hs.mono hl fun a ha => ⟨ha.1, ?_⟩⟩
    rintro e' heq
    injection heq with hk _
    exact ha.2 hk.symm

/-- No step is refused, and the writes give the locks of their keys back. -/
theorem runSteps_served (hs : cache.Serves locked) (steps : List Step) {c : Caller} {s : σ}
    {M : Key → Prop} (hl : locked c.thread M s) : (runSteps cache c steps s).value = .ok () ∧
      locked c.thread (fun a => M a ∧ ∀ step ∈ steps, ∀ e, step.call ≠ .put a e)
        (runSteps cache c steps s).state := by
  induction steps generalizing s M with
  | nil => exact ⟨rfl, hs.mono hl fun a ha => ⟨ha, nofun⟩⟩
  | cons step rest ih =>
    have hfirst := step.run_served hs
      (c := c.holding fun id => rest.any (·.holds id)) hl
    unfold runSteps
    generalize step.run cache (c.holding fun id => rest.any (·.holds id)) s = first at hfirst
    obtain ⟨hv, hl'⟩ := hfirst
    obtain ⟨hv', hl'⟩ := ih hl'
    simp only [Reply.andThen, Reply.after, hv]
    refine ⟨hv', hs.mono hl' fun a ha => ⟨ha.1.1, ?_⟩⟩
    intro step' hmem
    rcases List.mem_cons.mp hmem with rfl | hmem
    · exact ha.1.2
    · exact ha.2 step' hmem

/-- A commit is answered at once. It leaves no lock, and there is what was there, unless it
was cleared, and what was staged. -/
theorem commit_served (hf : cache.Faithful has) (hs : cache.Serves locked) (p : Pending)
    {c : Caller} {s : σ} (hl : locked c.thread (· ∈ p.misses.keys) s) :
    (runSteps cache c p.steps s).value = .ok () ∧
      locked c.thread (fun _ => False) (runSteps cache c p.steps s).state ∧
      ∀ k r, has (runSteps cache c p.steps s).state k r →
        (has s k r ∧ p.clearFirst = false) ∨
          ∃ e, (k, e) ∈ p.writes.entries ∧ e.list? = some r := by
  obtain ⟨hv, hl⟩ := runSteps_served hs p.steps hl
  refine ⟨hv, hs.mono hl ?_, ?_⟩
  · intro a ha
    obtain ⟨step, hmem, e, hput⟩ := put_of_missed ha.1
    exact ha.2 step hmem e hput
  · intro k r hr
    rcases has_runSteps hf c p.steps hr with ⟨hr, hclear⟩ | ⟨step, hmem, e, hput, he⟩
    · refine .inl ⟨hr, ?_⟩
      rw [← Bool.not_eq_true]
      exact fun hc => hclear (clear_mem_steps hc)
    · rcases staged_of_step hmem hput with hw | rfl
      · exact .inr ⟨e, hw, he⟩
      · exact nomatch he

/-- A rollback leaves no lock, and nothing that was not there. -/
theorem removeAll_served (hf : cache.Faithful has) (hs : cache.Serves locked) (keys : List Key)
    {c : Caller} {s : σ} {M : Key → Prop} (hl : locked c.thread M s) :
    locked c.thread (fun a => M a ∧ a ∉ keys) (removeAll cache c keys s).state ∧
      cache.Shrinks has s (removeAll cache c keys s).state := by
  induction keys generalizing s M with
  | nil => exact ⟨hs.mono hl fun a ha => ⟨ha, List.not_mem_nil⟩, Cache.Shrinks.refl s⟩
  | cons k rest ih =>
    obtain ⟨hl', hshrinks⟩ := ih (hs.remove hl).2
    refine ⟨hs.mono hl' fun a ha => ⟨ha.1.1, ?_⟩, (hf.remove c k s).trans hshrinks⟩
    intro hmem
    rcases List.mem_cons.mp hmem with heq | hmem
    · exact ha.1.2 heq
    · exact ha.2 hmem

/-- A lookup is answered at once: with what is there, or with nothing after a staged clear.
The lock of a key that was missed is kept, and so is the miss. -/
theorem get_served (hf : cache.Faithful has) (hs : cache.Serves locked) (c : Caller) (k : Key)
    {s : Over Pending σ} (hl : locked c.thread (· ∈ s.own.misses.keys) s.inner) :
    (Pending.get cache c k s).Returns fun v s' => ∃ e : Option Entry,
      v = .ok (if s.own.clearFirst then none else e) ∧ s'.own = s.own.learn k (.ok e) ∧
      cache.Answers has k s.inner (.ok e) s'.inner ∧
      locked c.thread (· ∈ s'.own.misses.keys) s'.inner := by
  have hlooked : (inside.run c s fun c i => cache.get c k i).Returns fun v s' =>
      s'.own = s.own ∧ ∃ e : Option Entry, v = .ok e ∧
        cache.Answers has k s.inner v s'.inner ∧
        locked c.thread (fun a => a ∈ s.own.misses.keys ∨ (a = k ∧ e.all (·.isNull) = true))
          s'.inner :=
    Run.Returns.within (p := inside) (Cache.get_served hf hs hl) fun _ _ hv => ⟨rfl, hv⟩
  refine hlooked.andThen ?_
  rintro c' v s' ⟨hown, e, rfl, hans, hl'⟩
  refine ⟨e, ?_, ?_, hans, hs.mono hl' ?_⟩
  · simp only [← hown]
    split <;> rfl
  · rw [learn, hown]
  · intro a ha
    dsimp only
    rw [hown]
    split
    · rw [noteMiss, Table.keys_insertNew]
      split
      · next hk =>
        rcases ha with ha | ⟨rfl, _⟩
        · exact ha
        · exact hk
      · exact List.mem_append.mpr (ha.imp_right fun hk => List.mem_singleton.mpr hk.1)
    · next hnull => exact ha.resolve_right fun hk => hnull hk.2

end Pending

namespace Transaction

variable {name : String} {s : Over (Transaction ρ) σ}

/-- A transaction that has used no cache but one has at most one target. -/
theorem OnlyFor.targets_eq {t : Transaction ρ} (h : t.OnlyFor name) :
    (t.targets = [] ∧ t.pendingFor name = {}) ∨ ∃ ref, t.targets = [(name, ref)] := by
  obtain ⟨⟨entries⟩⟩ := t
  cases entries with
  | nil => exact .inl ⟨rfl, rfl⟩
  | cons e rest =>
    cases rest with
    | nil =>
      refine .inr ⟨e.2.target, ?_⟩
      have he : e.1 = name := h.named _ List.mem_cons_self
      rw [Transaction.targets, List.map_singleton, he]
    | cons e' rest =>
      have he : e.1 = name := h.named _ List.mem_cons_self
      have he' : e'.1 = name := h.named _ (List.mem_cons_of_mem _ List.mem_cons_self)
      have hne : e.1 ∉ e'.1 :: rest.map Prod.fst := (List.nodup_cons.mp h.nodup).1
      rw [he, he'] at hne
      exact absurd List.mem_cons_self hne

/-- A lookup is answered at once: with what is there, or with nothing after a staged clear.
It stages nothing. -/
theorem get_served (hf : cache.Faithful has) (hs : cache.Serves locked) (c : Caller) (ref : ρ)
    (k : Key) (hid : cache.id s.inner = name) (ho : s.own.OnlyFor name)
    (hl : locked c.thread (· ∈ (s.own.pendingFor name).misses.keys) s.inner) :
    (get (fun _ => cache) c ref k s).Returns fun v s' => ∃ e : Option Entry,
      v = .ok (if (s.own.pendingFor name).clearFirst then none else e) ∧
      SameWork name s.own s'.own ∧ cache.Answers has k s.inner (.ok e) s'.inner ∧
      locked c.thread (· ∈ (s'.own.pendingFor name).misses.keys) s'.inner := by
  subst hid
  have htouch := pendingFor_touch s.own (cache.id s.inner) (cache.id s.inner) ref
  rw [← htouch] at hl
  refine Run.Returns.within (p := part (cache.id s.inner)) (Pending.get_served hf hs _ k hl) ?_
  rintro v i ⟨e, hv, hown, hans, hl'⟩
  obtain ⟨b, _, hb⟩ := pendingFor_modify s.own (cache.id s.inner) ref
    fun b => { b with pending := i.own }
  have hplaced : ((part (cache.id s.inner)).place i
      ⟨s.own.touch (cache.id s.inner) ref, s.inner⟩).own.pendingFor (cache.id s.inner) = i.own := hb
  have hlearned : i.own = (s.own.pendingFor (cache.id s.inner)).learn k (.ok e) := by
    rw [← htouch]
    exact hown
  have hkept := Pending.learn_kept (s.own.pendingFor (cache.id s.inner)) k (.ok e)
  refine ⟨e, ?_, ⟨(ho.touch ref).modify _, ?_, ?_⟩, hans, ?_⟩
  · rw [← htouch]
    exact hv
  · rw [hplaced, hlearned]
    exact hkept.1
  · rw [hplaced, hlearned]
    exact hkept.2
  · rw [hplaced]
    exact hl'

/-- A commit is answered at once, and leaves no lock and nothing staged. There is what was
there, unless it was cleared, and what was staged. -/
theorem OnlyFor.commit_served (hf : cache.Faithful has) (hs : cache.Serves locked)
    (h : s.own.OnlyFor name) {c : Caller}
    (hl : locked c.thread (· ∈ (s.own.pendingFor name).misses.keys) s.inner) :
    (commitAll (fun _ => cache) c s).value = .ok () ∧
      locked c.thread (fun _ => False) (commitAll (fun _ => cache) c s).state.inner ∧
      ∀ k r, has (commitAll (fun _ => cache) c s).state.inner k r →
        (has s.inner k r ∧ (s.own.pendingFor name).clearFirst = false) ∨
          ∃ e, (k, e) ∈ (s.own.pendingFor name).writes.entries ∧ e.list? = some r := by
  rcases h.targets_eq with ⟨htargets, hwork⟩ | ⟨ref, htargets⟩
  · rw [hwork] at hl ⊢
    simp only [commitAll, htargets, commitEach]
    exact ⟨True.intro, hs.mono hl fun a ha => absurd ha List.not_mem_nil,
      fun k r hr => .inl ⟨hr, True.intro⟩⟩
  · have hcommit := Pending.commit_served hf hs (s.own.pendingFor name)
      (c := c.holding ((part (σ := σ) name).held s)) hl
    simp only [commitAll, htargets, commitEach]
    have hvalue : ((part name).reply c s fun c i => Pending.commit cache c i).value = .ok () :=
      hcommit.1
    have hstate : ((part name).reply c s fun c i => Pending.commit cache c i).state.inner =
        (Pending.runSteps cache (c.holding ((part (σ := σ) name).held s))
          (s.own.pendingFor name).steps s.inner).state := rfl
    generalize (part name).reply c s (fun c i => Pending.commit cache c i) = ended
      at hvalue hstate
    simp only [Reply.andThen, Reply.after, hvalue, hstate]
    exact ⟨True.intro, hcommit.2⟩

/-- A rollback leaves no lock, nothing staged, and nothing that was not there. -/
theorem OnlyFor.rollback_served (hf : cache.Faithful has) (hs : cache.Serves locked)
    (h : s.own.OnlyFor name) {c : Caller}
    (hl : locked c.thread (· ∈ (s.own.pendingFor name).misses.keys) s.inner) :
    locked c.thread (fun _ => False) (rollbackAll (fun _ => cache) c s).state.inner ∧
      cache.Shrinks has s.inner (rollbackAll (fun _ => cache) c s).state.inner := by
  rcases h.targets_eq with ⟨htargets, hwork⟩ | ⟨ref, htargets⟩
  · rw [hwork] at hl
    simp only [rollbackAll, htargets, rollbackEach]
    exact ⟨hs.mono hl fun a ha => absurd ha List.not_mem_nil, Cache.Shrinks.refl s.inner⟩
  · have hrollback := Pending.removeAll_served hf hs (s.own.pendingFor name).misses.keys
      (c := (c.holding ((part (σ := σ) name).held s)).holding (s.own.pendingFor name).holds) hl
    simp only [rollbackAll, htargets, rollbackEach]
    exact ⟨hs.mono hrollback.1 fun a ha => ha.2 ha.1, hrollback.2⟩

end Transaction

end QueryCache
