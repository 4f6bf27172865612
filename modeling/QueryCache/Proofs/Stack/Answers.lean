import QueryCache.Proofs.Stack.Service

/-!
# Stacks that answer alike

For a single thread, hit counting and key locks cannot be told from the cache inside, with one
exception: behind key locks a removal finds nothing and removes nothing. So the stack of a
profile answers as its evicting layer alone does, to the same calls or, with key locks, to those
that are no removals.

The states of the two sides are kept in a relation, call by call. Which row lists are kept alive
elsewhere at a call is the same on both sides and otherwise arbitrary.
-/

namespace QueryCache

/-- A layer that keeps no row lists alive leaves the caller as it is. -/
theorem Caller.holding_none (c : Caller) : (c.holding fun _ => false) = c := by
  simp [Caller.holding]

/-- Whether a removal is asked for. -/
def Demand.isRemove : Demand → Bool
  | .remove _ => true
  | .put .. | .get _ | .clear | .size => false

/-- The calls that are no removals. -/
def withoutRemovals (calls : List (Caller × Demand)) : List (Caller × Demand) :=
  calls.filter fun x => !x.2.isRemove

/-- The answers to several calls, given those to the calls that are no removals: no removal
finds anything. -/
def withRemovals : List (Caller × Demand) → List Response → List Response
  | [], _ => []
  | (_, .remove _) :: calls, found => .entry none :: withRemovals calls found
  | _ :: _, [] => []
  | _ :: calls, a :: found => a :: withRemovals calls found

namespace Cache

variable {σ τ : Type}

/-- What several calls are answered, if none of them waits. -/
def answers (cache : Cache σ) (calls : List (Caller × Demand)) (s : σ) :
    Option (List (Except CacheFailure Response)) :=
  (cache.askAll calls s).reply?.map (·.value)

/-- A cache answers a call, at once and without failure, as another cache does. Their states,
which may be of different kinds, were related and stay so. -/
def Mimics (cache : Cache τ) (rel : τ → σ → Prop) (model : Cache σ) (c : Caller) (d : Demand) :
    Prop :=
  ∀ t s, rel t s → (model.ask c s d).Returns fun a s' =>
    (∃ b, a = .ok b) ∧ (cache.ask c t d).Returns fun b t' => b = a ∧ rel t' s'

/-- A cache answers several calls in this way, as the other cache answers those calls of them
that are asked there, when the answers found there are completed. -/
def MimicsAll (cache : Cache τ) (rel : τ → σ → Prop) (model : Cache σ)
    (calls asked : List (Caller × Demand)) (complete : List Response → List Response) : Prop :=
  ∀ t s, rel t s → (model.askAll asked s).Returns fun as s' => ∃ found : List Response,
    as = found.map .ok ∧
      (cache.askAll calls t).Returns fun bs t' => bs = (complete found).map .ok ∧ rel t' s'

variable {cache : Cache τ} {rel : τ → σ → Prop} {model : Cache σ}

/-- The first of several calls is answered first. -/
theorem askAll_cons {c : Caller} {d : Demand} {calls : List (Caller × Demand)} {s : σ}
    {r : Reply σ (Except CacheFailure Response)}
    {ended : List (Except CacheFailure Response) → σ → Prop} (h : model.ask c s d = .done r)
    (hrest : (model.askAll calls r.state).Returns fun as s' => ended (r.value :: as) s') :
    (model.askAll ((c, d) :: calls) s).Returns ended := by
  rw [askAll, h, Run.andThen, Run.returns_after]
  exact hrest.mapReply fun _ hr => hr

/-- A call that is asked on both sides may precede. -/
theorem Mimics.cons {c : Caller} {d : Demand} {calls asked : List (Caller × Demand)}
    {complete complete' : List Response → List Response} (h : cache.Mimics rel model c d)
    (hrest : cache.MimicsAll rel model calls asked complete)
    (hcomplete : ∀ a found, complete' (a :: found) = a :: complete found) :
    cache.MimicsAll rel model ((c, d) :: calls) ((c, d) :: asked) complete' := by
  intro t s hrel
  obtain ⟨r, hmodel, ⟨a, ha⟩, hanswer⟩ := (h t s hrel).done
  obtain ⟨r', hcache, hsame, hrel'⟩ := hanswer.done
  refine askAll_cons hmodel ((hrest _ _ hrel').mono fun as s' has => ?_)
  obtain ⟨found, hfound, hthen⟩ := has
  refine ⟨a :: found, by rw [ha, hfound, List.map_cons], ?_⟩
  refine askAll_cons hcache (hthen.mono fun bs t' hbs => ⟨?_, hbs.2⟩)
  rw [hsame, ha, hbs.1, hcomplete, List.map_cons]

/-- A cache that mimics another at every call gives the same answers. -/
theorem mimicsAll {calls : List (Caller × Demand)}
    (h : ∀ x ∈ calls, cache.Mimics rel model x.1 x.2) :
    cache.MimicsAll rel model calls calls fun found => found := by
  induction calls with
  | nil => exact fun t s hrel => ⟨[], rfl, rfl, hrel⟩
  | cons x calls ih =>
    have hrest := ih fun y hy => h y (List.mem_cons_of_mem _ hy)
    exact (h x List.mem_cons_self).cons hrest fun _ _ => rfl

/-- A cache that mimics another at every call but the removals, which find nothing and change
nothing that can be told, gives the answers that the other gives without the removals. -/
theorem mimicsAll_withoutRemovals {calls : List (Caller × Demand)}
    (h : ∀ x ∈ calls, x.2.isRemove = false → cache.Mimics rel model x.1 x.2)
    (hremove : ∀ x ∈ calls, ∀ k t s, rel t s →
      (cache.remove x.1 k t).value = .ok none ∧ rel (cache.remove x.1 k t).state s) :
    cache.MimicsAll rel model calls (withoutRemovals calls) (withRemovals calls) := by
  induction calls with
  | nil => exact fun t s hrel => ⟨[], rfl, rfl, hrel⟩
  | cons x calls ih =>
    obtain ⟨c, d⟩ := x
    have hrest := ih (fun y hy => h y (List.mem_cons_of_mem _ hy))
      fun y hy => hremove y (List.mem_cons_of_mem _ hy)
    have hasked := h (c, d) List.mem_cons_self
    cases d with
    | remove k =>
      -- The model is not asked, and the relation holds of its old state.
      intro t s hrel
      obtain ⟨hvalue, hrel'⟩ := hremove (c, .remove k) List.mem_cons_self k t s hrel
      refine (hrest _ _ hrel').mono fun as s' has => ?_
      obtain ⟨found, hfound, hthen⟩ := has
      refine ⟨found, hfound, askAll_cons rfl (hthen.mono fun bs t' hbs => ⟨?_, hbs.2⟩)⟩
      rw [hbs.1, withRemovals, List.map_cons]
      exact congrArg (· :: _) (congrArg (Except.map Response.entry) hvalue)
    | put k e => exact (hasked rfl).cons hrest fun _ _ => rfl
    | get k => exact (hasked rfl).cons hrest fun _ _ => rfl
    | clear => exact (hasked rfl).cons hrest fun _ _ => rfl
    | size => exact (hasked rfl).cons hrest fun _ _ => rfl

/-- The answers themselves. -/
theorem MimicsAll.answers {calls asked : List (Caller × Demand)}
    {complete : List Response → List Response}
    (h : cache.MimicsAll rel model calls asked complete) {t : τ} {s : σ} (hrel : rel t s) :
    ∃ found : List Response, model.answers asked s = some (found.map .ok) ∧
      cache.answers calls t = some ((complete found).map .ok) := by
  obtain ⟨r, hmodel, found, hfound, hthen⟩ := (h t s hrel).done
  obtain ⟨r', hcache, hsame, _⟩ := hthen.done
  refine ⟨found, ?_, ?_⟩
  · rw [Cache.answers, hmodel, ← hfound]
    rfl
  · rw [Cache.answers, hcache, ← hsame]
    rfl

/-- A cache that a thread may use at will mimics itself. -/
theorem Upholds.mimics {thread : Nat} {inv : σ → Prop}
    (h : model.Upholds thread (fun _ => True) inv) {c : Caller} (hc : c.thread = thread)
    (d : Demand) : model.Mimics (fun t s => t = s ∧ inv s) model c d := by
  rintro t s ⟨rfl, hs⟩
  obtain ⟨r, hr, hok, hs'⟩ := (h.ask hc hs d).done
  rw [hr]
  exact ⟨hok, rfl, rfl, hs'⟩

end Cache

/-! ### Layers that cannot be told -/

section Layers

variable {σ τ : Type} {inner : Cache τ} {rel : τ → σ → Prop} {model : Cache σ} {c : Caller}
  {d : Demand}

/-- A counted lookup ends with what the cache inside answers. -/
theorem Logging.get_returns {k : Key} {t : Over Tally τ}
    {ended : Except CacheFailure (Option Entry) → τ → Prop}
    (h : (inner.get (c.holding fun _ => false) k t.inner).Returns ended) :
    (Logging.get inner c k t).Returns fun v t' => ended v t'.inner := by
  rw [Logging.get, Run.returns_after]
  have hinner :
      (Logging.inside.run c { t with own := { t.own with requests := t.own.requests + 1 } }
        fun c i => inner.get c k i).Returns fun v t' => ended v t'.inner :=
    Run.Returns.within h fun _ _ hv => hv
  exact hinner.andThen fun c' v t' hv => hv

/-- Counting hits changes no answer. -/
theorem Logging.mimics (h : inner.Mimics rel model c d) :
    (Logging.cache inner).Mimics (fun t s => rel t.inner s) model c d := by
  intro t s hrel
  refine (h t.inner s hrel).mono fun a s' ha => ⟨ha.1, ?_⟩
  have hinner := ha.2
  rw [← c.holding_none] at hinner
  cases d with
  | put k e => exact hinner
  | get k =>
    have hget := (Run.returns_map _).mp hinner
    exact (Run.returns_map _).mpr (Logging.get_returns hget)
  | remove k => exact hinner
  | clear => exact hinner
  | size => exact hinner

/-- Key locks change no answer but those to removals, for a thread that owns all of them. -/
theorem Blocking.mimics (h : inner.Mimics rel model c d) {thread : Nat} (hc : c.thread = thread)
    (hd : d.isRemove = false) :
    (Blocking.cache inner).Mimics
      (fun t s => t.own.OwnedBy thread (fun _ => True) ∧ rel t.inner s) model c d := by
  subst hc
  rintro t s ⟨hlocks, hrel⟩
  refine (h t.inner s hrel).mono fun a s' ha => ⟨ha.1, ?_⟩
  have hinner := ha.2
  rw [← c.holding_none] at hinner
  cases d with
  | put k e => exact ⟨hinner.1, (hlocks.release k).mono fun _ _ => True.intro, hinner.2⟩
  | get k =>
    have hget := Blocking.get_returns hlocks ((Run.returns_map _).mp hinner)
    exact (Run.returns_map _).mpr (hget.mono fun v t' hv =>
      ⟨hv.1.1, hv.2.mono fun _ _ => True.intro, hv.1.2⟩)
  | remove k => exact nomatch hd
  | clear => exact ⟨hinner.1, hlocks, hinner.2⟩
  | size => exact ⟨hinner.1, hlocks, hinner.2⟩

end Layers

/-- A stack mimics the one inside it, with or without hit counting, if a thread may use that one
at will. -/
theorem Stack.logged_mimics {thread : Nat} {s : Stack} {inv : Stack.State s.layers → Prop}
    (h : (Stack.cache s.layers).Upholds thread (fun _ => True) inv) (hs : inv s.state)
    (logging : Bool) :
    let outer := if logging then s.push .logging {} else s
    ∃ rel : Stack.State outer.layers → Stack.State s.layers → Prop,
      (∀ c d, c.thread = thread →
        (Stack.cache outer.layers).Mimics rel (Stack.cache s.layers) c d) ∧
      rel outer.state s.state := by
  cases logging with
  | false => exact ⟨_, fun c d hc => h.mimics hc d, rfl, hs⟩
  | true => exact ⟨_, fun c d hc => Logging.mimics (h.mimics hc d), rfl, hs⟩

namespace Profile

variable (p : Profile)

/-- The layer that makes room, if there is one. An evicting one has room for an entry at least. -/
def evictor : List Setup :=
  match p.eviction with
  | .lru => [.lru ⟨max p.size 1, Nat.le_max_right p.size 1⟩]
  | .fifo => [.fifo (max p.size 1)]
  | .weak => [.weak p.size]
  | .none => []

/-- Before hit counting and key locks, a stack has that layer only. -/
theorem evicting_eq_laid (name : String) :
    p.evicting name = ⟨Setup.layers p.evictor, Stack.laid name p.evictor⟩ := by
  unfold evicting evictor
  cases p.eviction <;> rfl

/-- A counted cache of one entry behind key locks. -/
def oneLocked : Profile := { size := 0, blocking := true }

/-- A key is looked up in vain, written, removed and found all the same; then another key is
written, and the first one is looked up in vain again. -/
def oneEvicted : List (Caller × Demand) :=
  [({}, .get {}), ({}, .put {} .null), ({}, .remove {}), ({}, .get {}),
    ({}, .put { hashcode := 1 } .null), ({}, .get {})]

example : (Stack.cache (oneLocked.build "users").layers).answers oneEvicted
    (oneLocked.build "users").state =
      some ([.entry none, .done, .entry none, .entry (some .null), .done, .entry none].map .ok) :=
  rfl

end Profile

end QueryCache
