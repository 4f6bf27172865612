import QueryCache.Proofs.Staging.Solo

/-!
# What a lookup leaves staged

A lookup in a shared cache goes through the staged work for it, which is there from then on. The
lookup stages no write and no clear and leaves the work for every other cache; if it came to
nothing, its key is remembered. That is all, whatever others do meanwhile to the shared cache and
however the lookup ends.
-/

namespace QueryCache

variable {ρ σ : Type}

/-- Of two changes of the value under a key the second one is a change of what the first one
made. -/
theorem Table.modify_modify {κ α : Type} [DecidableEq κ] (t : Table κ α) (k : κ) (f f' : α → α) :
    (t.modify k f).modify k f' = t.modify k (f' ∘ f) := by
  simp only [modify, List.map_map, Table.mk.injEq]
  refine List.map_congr_left fun e _ => ?_
  by_cases h : e.1 = k <;> simp [h]

/-- A lookup leaves the staged work for its cache as it was until the shared cache has answered;
then it learns from the answer and shows it. -/
theorem Pending.get_learns (shared : Cache σ) (c : Caller) (k : Key) (s : Over Pending σ) :
    (Pending.get shared c k s).Always (fun t t' => t'.own = t.own) (fun t => t.own = s.own)
      fun v t => ∃ a, t.own = s.own.learn k a ∧ v = s.own.shown a := by
  have looked : (inside.run c s fun c i => shared.get c k i).Always
      (fun t t' => t'.own = t.own) (fun t => t.own = s.own) fun _ t => t.own = s.own := by
    refine Run.Always.within (fun t => t.own = s.own) (Run.always_true _) rfl ?_ ?_ ?_
    · exact fun i t ht _ => ht
    · exact fun i t t' ht _ moved => ⟨True.intro, moved.trans ht⟩
    · exact fun a i t ht _ => ht
  refine looked.andThen fun c' a t ht => ?_
  cases a with
  | error f => exact ⟨.error f, ht, rfl⟩
  | ok e =>
    refine ⟨.ok e, ?_, ?_⟩
    · simp only [learn, ← ht]
    · simp only [shown, Except.map, ← ht]
      rw [← (learn_kept t.own k (.ok e)).2]
      rfl

namespace Transaction

/-- Staging for one cache leaves what is staged for the others alone. -/
theorem pendingFor_stage_of_ne {name other : String} (h : name ≠ other) (t : Transaction ρ)
    (ref : ρ) (f : Pending → Pending) :
    (t.stage name ref f).pendingFor other = t.pendingFor other := by
  rw [← pendingFor_touch t name other ref]
  simp only [stage, pendingFor, Table.get?_modify, if_neg h]

/-- The staged work with a new one for one cache. -/
def renew (t : Transaction ρ) (name : String) (ref : ρ) (p : Pending) : Transaction ρ :=
  t.stage name ref fun _ => p

/-- The staged work after a lookup in one cache, given what the shared cache answered. -/
def learn (t : Transaction ρ) (name : String) (ref : ρ) (k : Key)
    (a : Except CacheFailure (Option Entry)) : Transaction ρ :=
  t.renew name ref ((t.pendingFor name).learn k a)

/-- Learning stages no write and no clear, for any cache. -/
theorem pendingFor_learn_kept (t : Transaction ρ) (name n : String) (ref : ρ) (k : Key)
    (a : Except CacheFailure (Option Entry)) :
    ((t.learn name ref k a).pendingFor n).writes = (t.pendingFor n).writes ∧
      ((t.learn name ref k a).pendingFor n).clearFirst = (t.pendingFor n).clearFirst := by
  by_cases h : name = n
  · subst h
    rw [learn, renew, pendingFor_stage]
    exact Pending.learn_kept _ k a
  · rw [learn, renew, pendingFor_stage_of_ne h]
    exact ⟨rfl, rfl⟩

/-- Whatever was put back before, putting back the work for the cache renews it. -/
theorem place_renew (t : Transaction ρ) (name : String) (ref : ρ) (p : Pending) (s : σ)
    (i : Over Pending σ) :
    ((part name).place i ⟨t.renew name ref p, s⟩).own = t.renew name ref i.own := by
  simp only [part, renew, stage, Table.modify_modify]
  rfl

/-- A lookup leaves the staged work as it was, with that for its cache in it, until the shared
cache has answered; then it learns from the answer and shows it. -/
theorem get_learns (shared : ρ → Cache σ) (c : Caller) (ref : ρ) (k : Key)
    (s : Over (Transaction ρ) σ) :
    let name := (shared ref).id s.inner
    (get shared c ref k s).Always (fun t t' => t'.own = t.own)
      (fun t => t.own = s.own.renew name ref (s.own.pendingFor name))
      fun v t => ∃ a, t.own = s.own.learn name ref k a ∧ v = (s.own.pendingFor name).shown a := by
  intro name
  have hpending : (s.own.touch name ref).pendingFor name = s.own.pendingFor name :=
    pendingFor_touch s.own name name ref
  -- at a wait the work for the cache is the only thing that still has to be put back
  refine Run.Always.within (fun t => t.own.pendingFor name = s.own.pendingFor name ∧
    ∀ i : Over Pending σ, ((part name).place i t).own = s.own.renew name ref i.own)
    (Pending.get_learns _ _ k _) ⟨hpending, fun _ => rfl⟩ ?_ ?_ ?_
  · intro i t ht hi
    rw [ht.2 i, hi.trans hpending]
  · intro i t t' ht hi moved
    have hown : t'.own = s.own.renew name ref i.own := moved.trans (ht.2 i)
    have hput : t'.own.pendingFor name = i.own := by rw [hown, renew, pendingFor_stage]
    refine ⟨hput, hput.trans (hi.trans hpending), fun j => ?_⟩
    obtain ⟨own', inner'⟩ := t'
    cases hown
    exact place_renew s.own name ref i.own inner' j
  · rintro v i t ht ⟨a, hi, rfl⟩
    have hlearned : i.own = (s.own.pendingFor name).learn k a :=
      hi.trans (congrArg (Pending.learn · k a) hpending)
    refine ⟨a, ?_, congrArg (Pending.shown · a) hpending⟩
    rw [ht.2 i, hlearned, learn]

end Transaction

end QueryCache
