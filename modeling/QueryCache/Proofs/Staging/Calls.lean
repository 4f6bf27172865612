import QueryCache.Proofs.Journal
import QueryCache.Proofs.Staging.Deeds
import QueryCache.Staging.Transaction

/-!
# The calls at the end of a transaction

A commit makes the call of every step, in order and whatever fails, and answers the first
failure; a rollback removes every missed key, in order and whatever fails. Both hold for
the staged work on one cache, and cache by cache for a whole transaction.
-/

namespace QueryCache

variable {π ρ σ : Type}

/-- Shared caches whose calls are written down in one journal, each under a mark. -/
def Journal.caches (mark : ρ → π) (shared : ρ → Cache σ) (ref : ρ) :
    Cache (Over (Journal π) σ) :=
  Journal.cache (mark ref) (shared ref)

/-- A lookup is written down once, when it has been answered. -/
theorem Journal.get_cache (m : π) (inner : Cache σ) (c : Caller) (k : Key)
    (s : Over (Journal π) σ) :
    ((Journal.cache m inner).get c k s).Always (fun t t' => t'.own = t.own)
      (fun t => t.own = s.own) fun a t => t.own = s.own ++ [⟨m, .get k, a⟩] := by
  have plain : (Journal.inside.run c s fun c i => inner.get c k i).Always
      (fun t t' => t'.own = t.own) (fun t => t.own = s.own) fun _ t => t.own = s.own := by
    refine Run.Always.within (fun t => t.own = s.own) (Run.always_true _) rfl ?_ ?_ ?_
    · intro i t ht _
      exact ht
    · intro i t t' ht _ moved
      exact ⟨True.intro, moved.trans ht⟩
    · intro a i t ht _
      exact ht
  refine plain.mapReply ?_
  intro r hr
  exact congrArg (· ++ _) hr

namespace Pending

/-- What a lookup shows of what the shared cache answered. -/
def shown (p : Pending) (a : Except CacheFailure (Option Entry)) :
    Except CacheFailure (Option Entry) :=
  a.map fun e => if p.clearFirst then none else e

/-- A lookup looks up once in the shared cache, learns from the answer and shows it. -/
theorem get_journal (m : π) (inner : Cache σ) (c : Caller) (k : Key)
    (s : Over Pending (Over (Journal π) σ)) :
    (Pending.get (Journal.cache m inner) c k s).Always
      (fun t t' => t'.own = t.own ∧ t'.inner.own = t.inner.own)
      (fun t => t.own = s.own ∧ t.inner.own = s.inner.own)
      fun v t => ∃ a, t.inner.own = s.inner.own ++ [⟨m, .get k, a⟩] ∧
        t.own = s.own.learn k a ∧ v = s.own.shown a := by
  have looked : (inside.run c s fun c i => (Journal.cache m inner).get c k i).Always
      (fun t t' => t'.own = t.own ∧ t'.inner.own = t.inner.own)
      (fun t => t.own = s.own ∧ t.inner.own = s.inner.own)
      fun a t => t.own = s.own ∧ t.inner.own = s.inner.own ++ [⟨m, .get k, a⟩] := by
    refine Run.Always.within (fun t => t.own = s.own)
      (Journal.get_cache m inner _ k s.inner) rfl ?_ ?_ ?_
    · intro i t ht hi
      exact ⟨ht, hi⟩
    · intro i t t' ht hi moved
      exact ⟨moved.2, moved.1.trans ht⟩
    · intro a i t ht hi
      exact ⟨ht, hi⟩
  refine looked.andThen ?_
  intro c' a t ht
  cases a with
  | error f => exact ⟨.error f, ht.2, ht.1, rfl⟩
  | ok e =>
    refine ⟨.ok e, ht.2, ?_, ?_⟩
    · simp only [learn, ← ht.1]
    · simp only [shown, Except.map, ← ht.1]
      split <;> rfl

private theorem map_map_unit (a : Except CacheFailure Unit) :
    (a.map fun _ => (none : Option Entry)).map (fun _ => ()) = a := by
  cases a <;> rfl

/-- A step makes its call and answers as the cache did. -/
theorem Step.run_journal (m : π) (inner : Cache σ) (step : Step) (c : Caller)
    (s : Over (Journal π) σ) :
    ∃ a : Except CacheFailure (Option Entry),
      (step.run (Journal.cache m inner) c s).state.own = s.own ++ [⟨m, step.call, a⟩] ∧
      (step.run (Journal.cache m inner) c s).value = a.map fun _ => () := by
  cases step with
  | clear => exact ⟨_, rfl, (map_map_unit _).symm⟩
  | put k e => exact ⟨_, rfl, (map_map_unit _).symm⟩
  | putNull k => exact ⟨_, rfl, (map_map_unit _).symm⟩

/-- Carrying steps out makes their calls, all of them, and answers the first failure. -/
theorem runSteps_journal (m : π) (inner : Cache σ) (steps : List Step) (c : Caller)
    (s : Over (Journal π) σ) :
    ∃ j : Journal π, (runSteps (Journal.cache m inner) c steps s).state.own = s.own ++ j ∧
      j.calls = steps.map (fun step => (m, step.call)) ∧
      (runSteps (Journal.cache m inner) c steps s).value = j.firstFailure := by
  induction steps generalizing s with
  | nil => exact ⟨[], (List.append_nil _).symm, rfl, rfl⟩
  | cons step rest ih =>
    obtain ⟨a, hs, hv⟩ :=
      step.run_journal m inner (c.holding fun id => rest.any (·.holds id)) s
    rw [runSteps]
    generalize step.run (Journal.cache m inner) (c.holding fun id => rest.any (·.holds id)) s
      = first at hs hv
    obtain ⟨j, hj, hc, hf⟩ := ih first.state
    refine ⟨⟨m, step.call, a⟩ :: j, ?_, ?_, ?_⟩
    · rw [hs, List.append_assoc, List.singleton_append] at hj
      cases a <;> simp only [Reply.andThen, Reply.after, hv, Except.map] <;> exact hj
    · simp only [Journal.calls, List.map_cons]
      exact congrArg _ hc
    · cases a <;> simp only [Reply.andThen, Reply.after, hv, Except.map, Journal.firstFailure]
      exact hf

/-- Removing keys calls for the removal of each of them. -/
theorem removeAll_journal (m : π) (inner : Cache σ) (keys : List Key) (c : Caller)
    (s : Over (Journal π) σ) :
    ∃ j : Journal π, (removeAll (Journal.cache m inner) c keys s).state.own = s.own ++ j ∧
      j.calls = keys.map fun k => (m, .remove k) := by
  induction keys generalizing s with
  | nil => exact ⟨[], (List.append_nil _).symm, rfl⟩
  | cons k rest ih =>
    obtain ⟨j, hj, hc⟩ := ih ((Journal.cache m inner).remove c k s).state
    have hs : ((Journal.cache m inner).remove c k s).state.own =
        s.own ++ [⟨m, .remove k, ((Journal.cache m inner).remove c k s).value⟩] := rfl
    refine ⟨⟨m, .remove k, ((Journal.cache m inner).remove c k s).value⟩ :: j, ?_, ?_⟩
    · rw [hs, List.append_assoc, List.singleton_append] at hj
      exact hj
    · simp only [Journal.calls, List.map_cons]
      exact congrArg _ hc

/-- A lookup that the shared cache answers at once is answered at once. -/
theorem get_atOnce {m : π} {inner : Cache σ} {k : Key} {s : Over Pending (Over (Journal π) σ)}
    (h : ∀ c, (inner.get c k s.inner.inner).AtOnce) (c : Caller) :
    (Pending.get (Journal.cache m inner) c k s).AtOnce := by
  refine Run.AtOnce.andThen (Run.AtOnce.within ?_ s) fun a t => ?_
  · exact ((h _).within _).mapReply
  · cases a <;> exact ⟨_, rfl⟩

end Pending

namespace Transaction

/-- The staged work on one cache. -/
def pendingFor (t : Transaction ρ) (name : String) : Pending :=
  ((t.buffers.get? name).map (·.pending)).getD {}

/-- Touching a cache stages nothing. -/
theorem pendingFor_touch (t : Transaction ρ) (n other : String) (ref : ρ) :
    (t.touch n ref).pendingFor other = t.pendingFor other := by
  rw [Transaction.pendingFor, Transaction.pendingFor, touch, Table.get?_insertNew]
  split
  · next h =>
    subst h
    cases t.buffers.get? n <;> rfl
  · rfl

/-- Putting back the staged work on one cache leaves that on the others alone. -/
theorem pendingFor_place {name other : String} (h : name ≠ other) (i : Over Pending σ)
    (s : Over (Transaction ρ) σ) :
    ((part name).place i s).own.pendingFor other = s.own.pendingFor other := by
  simp only [pendingFor, part, Table.get?_modify, if_neg h]

/-- Putting staged work back as it is changes nothing. -/
theorem modify_pendingFor {t : Transaction ρ} (hn : t.buffers.keys.Nodup) (name : String) :
    (t.buffers.modify name fun b => { b with pending := t.pendingFor name }) = t.buffers := by
  refine Table.modify_eq_self hn fun b hb => ?_
  rw [pendingFor, hb, Option.map_some, Option.getD_some]

private theorem flatMap_pendingFor_congr {α : Type} {targets : List (String × ρ)}
    {name : String} (hnew : name ∉ targets.map Prod.fst) {t t' : Transaction ρ}
    (hp : ∀ n, name ≠ n → t'.pendingFor n = t.pendingFor n) (f : Pending → ρ → List α) :
    targets.flatMap (fun e => f (t'.pendingFor e.1) e.2) =
      targets.flatMap fun e => f (t.pendingFor e.1) e.2 := by
  refine List.flatMap_congr fun e he => ?_
  rw [hp]
  intro heq
  exact hnew (heq ▸ List.mem_map.mpr ⟨e, he, rfl⟩)

/-- Committing cache by cache makes the calls of all staged work, in order, and answers the
first failure. -/
theorem commitEach_journal (mark : ρ → π) (shared : ρ → Cache σ) (c : Caller)
    (targets : List (String × ρ)) (hn : (targets.map Prod.fst).Nodup)
    (s : Over (Transaction ρ) (Over (Journal π) σ)) :
    ∃ j : Journal π,
      (commitEach (Journal.caches mark shared) c targets s).state.inner.own = s.inner.own ++ j ∧
      j.calls = targets.flatMap (fun e =>
        (s.own.pendingFor e.1).steps.map fun step => (mark e.2, step.call)) ∧
      (commitEach (Journal.caches mark shared) c targets s).value = j.firstFailure := by
  induction targets generalizing s with
  | nil => exact ⟨[], (List.append_nil _).symm, rfl, rfl⟩
  | cons e rest ih =>
    obtain ⟨name, target⟩ := e
    obtain ⟨hnew, hrest⟩ := List.nodup_cons.mp hn
    obtain ⟨j₁, hj₁, hc₁, hf₁⟩ := Pending.runSteps_journal (mark target) (shared target)
      (s.own.pendingFor name).steps (c.holding ((part (σ := Over (Journal π) σ) name).held s))
      s.inner
    rw [commitEach]
    generalize hfirst : (part name).reply c s
      (fun c i => Pending.commit (Journal.caches mark shared target) c i) = first
    have hs : first.state.inner.own = s.inner.own ++ j₁ := by rw [← hfirst]; exact hj₁
    have hv : first.value = j₁.firstFailure := by rw [← hfirst]; exact hf₁
    have hp : ∀ n, name ≠ n → first.state.own.pendingFor n = s.own.pendingFor n := by
      intro n hne
      rw [← hfirst]
      exact pendingFor_place hne _ s
    obtain ⟨j₂, hj₂, hc₂, hf₂⟩ := ih hrest first.state
    refine ⟨j₁ ++ j₂, ?_, ?_, ?_⟩
    · rw [hs, List.append_assoc] at hj₂
      simp only [Reply.andThen, Reply.after]
      cases first.value <;> exact hj₂
    · rw [Journal.calls_append, hc₁, hc₂, List.flatMap_cons]
      exact congrArg _ (flatMap_pendingFor_congr hnew hp fun p target =>
        p.steps.map fun step => (mark target, step.call))
    · rw [Journal.firstFailure_append, ← hv]
      simp only [Reply.andThen, Reply.after]
      cases first.value with
      | error f => rfl
      | ok u => exact hf₂

/-- Rolling back cache by cache removes all missed keys, in order. -/
theorem rollbackEach_journal (mark : ρ → π) (shared : ρ → Cache σ) (c : Caller)
    (targets : List (String × ρ)) (hn : (targets.map Prod.fst).Nodup)
    (s : Over (Transaction ρ) (Over (Journal π) σ)) :
    ∃ j : Journal π,
      (rollbackEach (Journal.caches mark shared) c targets s).state.inner.own = s.inner.own ++ j ∧
      j.calls = targets.flatMap fun e =>
        (s.own.pendingFor e.1).misses.keys.map fun k => (mark e.2, .remove k) := by
  induction targets generalizing s with
  | nil => exact ⟨[], (List.append_nil _).symm, rfl⟩
  | cons e rest ih =>
    obtain ⟨name, target⟩ := e
    obtain ⟨hnew, hrest⟩ := List.nodup_cons.mp hn
    obtain ⟨j₁, hj₁, hc₁⟩ := Pending.removeAll_journal (mark target) (shared target)
      (s.own.pendingFor name).misses.keys
      ((c.holding ((part (σ := Over (Journal π) σ) name).held s)).holding
        (s.own.pendingFor name).holds) s.inner
    rw [rollbackEach]
    generalize hfirst : (part name).reply c s
      (fun c i => Pending.rollback (Journal.caches mark shared target) c i) = first
    have hs : first.state.inner.own = s.inner.own ++ j₁ := by rw [← hfirst]; exact hj₁
    have hp : ∀ n, name ≠ n → first.state.own.pendingFor n = s.own.pendingFor n := by
      intro n hne
      rw [← hfirst]
      exact pendingFor_place hne _ s
    obtain ⟨j₂, hj₂, hc₂⟩ := ih hrest first.state
    refine ⟨j₁ ++ j₂, ?_, ?_⟩
    · rw [hs, List.append_assoc] at hj₂
      exact hj₂
    · rw [Journal.calls_append, hc₁, hc₂, List.flatMap_cons]
      exact congrArg _ (flatMap_pendingFor_congr hnew hp fun p target =>
        p.misses.keys.map fun k => (mark target, Call.remove k))

end Transaction

end QueryCache
