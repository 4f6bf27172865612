import QueryCache.Proofs.Stack.Answers
import QueryCache.Proofs.Stack.Bounds
import QueryCache.Proofs.Stack.Heedless

/-!
# Stacks of any layers

Stacks of different layers are caches on one type of states. What was proved of a stack with given
layers is carried over here to the stack that a profile asks for: one thread may use it at will, it
keeps its name, and if its policy bounds it, then to the size of the profile.
-/

namespace QueryCache

/-- A changed answer of a part is the changed answer of the whole. -/
theorem Run.within_map {σ τ α β : Type} {p : Part τ σ} (f : α → β) (run : Run σ α) (t : τ) :
    (run.within p t).mapReply (·.map f) = (run.mapReply (·.map f)).within p t := by
  induction run generalizing t with
  | done r => rfl
  | wait d s n ready resume ih =>
    unfold within mapReply
    congr 1
    funext c t' come
    exact ih _ _ come t'

/-- A call on a cache within a whole is the call on the cache itself. -/
theorem Cache.ask_within {σ τ : Type} (p : Part τ σ) (inner : Cache σ) (c : Caller) (t : τ)
    (d : Demand) : (inner.within p).ask c t d = p.run c t fun c s => inner.ask c s d := by
  cases d with
  | get k => exact Run.within_map _ _ t
  | put k e => rfl
  | remove k => rfl
  | clear => rfl
  | size => rfl

/-- What two invariants say is kept as well. -/
theorem Cache.Upholds.and {σ : Type} {cache : Cache σ} {thread : Nat} {keys : Key → Prop}
    {inv inv' : σ → Prop} (h : cache.Upholds thread keys inv)
    (h' : cache.Upholds thread keys inv') :
    cache.Upholds thread keys fun s => inv s ∧ inv' s where
  size hc hs := ⟨h.size hc hs.1, h'.size hc hs.2⟩
  put hc hk hs := ⟨(h.put hc hk hs.1).1, (h.put hc hk hs.1).2, (h'.put hc hk hs.2).2⟩
  get {c k s} hc hs := by
    obtain ⟨r, hr, hv, hr'⟩ := (h.get (k := k) hc hs.1).done
    have hget := h'.get (k := k) hc hs.2
    rw [hr] at hget ⊢
    exact ⟨hv, hr', hget.2⟩
  remove hc hs := ⟨(h.remove hc hs.1).1, (h.remove hc hs.1).2, (h'.remove hc hs.2).2⟩
  clear hc hs := ⟨(h.clear hc hs.1).1, (h.clear hc hs.1).2, (h'.clear hc hs.2).2⟩

/-- One call more after several others. -/
theorem Cache.askAll_concat {σ : Type} {cache : Cache σ} {calls : List (Caller × Demand)}
    {c : Caller} {d : Demand} {s t u : σ} (h : (cache.askAll calls s).Returns fun _ v => v = t)
    (hlast : (cache.ask c t d).Returns fun _ v => v = u) :
    (cache.askAll (calls ++ [(c, d)]) s).Returns fun _ v => v = u := by
  induction calls generalizing s with
  | nil =>
    have hst : s = t := h
    obtain ⟨r, hr, hu⟩ := hlast.done
    rw [← hst] at hr
    exact askAll_cons hr hu
  | cons x calls ih =>
    obtain ⟨r, hr, ht⟩ := h.done
    obtain ⟨first, last, hfirst, hrest, -, hstate⟩ := Run.andThen_eq_done hr
    have htail : (cache.askAll calls first.state).Returns fun _ v => v = t := by
      cases hcalls : cache.askAll calls first.state with
      | done r' =>
        rw [hcalls] at hrest
        cases hrest
        exact hstate.trans ht
      | wait d s n ready resume =>
        rw [hcalls] at hrest
        exact nomatch hrest
    exact askAll_cons hfirst (ih htail)

namespace Stack

theorem cacheBelow_zero (ls : List Layer) : cacheBelow ls 0 = cache ls := by
  cases ls <;> rfl

/-- A call on a stack is one on the cache of its layers. -/
theorem ask_below (s : Stack) (c : Caller) (d : Demand) :
    (below 0).ask c s d =
      ((cache s.layers).ask c s.state d).within (part s.layers s.state) s := by
  unfold Cache.ask below
  simp only [cacheBelow_zero]
  cases d with
  | get k => exact Run.within_map _ _ s
  | put k e => rfl
  | remove k => rfl
  | clear => rfl
  | size => rfl

/-- Without weak entries it does not matter which row lists are kept alive elsewhere. -/
theorem ask_below_holding {s : Stack} (hw : .weak ∉ s.layers) (c : Caller)
    (held : RowsId → Bool) (d : Demand) :
    (below 0).ask (c.holding held) s d = (below 0).ask c s d := by
  rw [ask_below, ask_below, (heedless s.layers hw).ask]

/-- What all calls on the cache of some layers keep is kept by the stack. -/
theorem upholds_below {ls : List Layer} {thread : Nat} {keys : Key → Prop}
    {inv : State ls → Prop} (h : (cache ls).Upholds thread keys inv) :
    (below 0).Upholds thread keys fun s => ∃ t, s = ⟨ls, t⟩ ∧ inv t := by
  rw [← cacheBelow_zero] at h
  constructor
  · rintro c s hc ⟨t, rfl, ht⟩
    exact ⟨_, rfl, h.size hc ht⟩
  · rintro c k e s hc hk ⟨t, rfl, ht⟩
    exact ⟨(h.put hc hk ht).1, _, rfl, (h.put hc hk ht).2⟩
  · rintro c k s hc ⟨t, rfl, ht⟩
    exact (h.get hc ht).within fun v t' hv => ⟨hv.1, t', rfl, hv.2⟩
  · rintro c k s hc ⟨t, rfl, ht⟩
    exact ⟨(h.remove hc ht).1, _, rfl, (h.remove hc ht).2⟩
  · rintro c s hc ⟨t, rfl, ht⟩
    exact ⟨(h.clear hc ht).1, _, rfl, (h.clear hc ht).2⟩

/-- Asked for its size, a stack answers the number of entries that are left in its store. -/
theorem value_size_below (s : Stack) (c : Caller) :
    ((below 0).size c s).value =
      (store _ ((below 0).size c s).state.state).entries.size := by
  show ((cacheBelow s.layers 0).size c s.state).value =
    (store s.layers ((cacheBelow s.layers 0).size c s.state).state).entries.size
  rw [cacheBelow_zero]
  exact value_size s.layers c s.state

/-- A stack reports the name of its store. -/
theorem id_eq_name (ls : List Layer) (s : State ls) : (cache ls).id s = (store ls s).name := by
  induction ls with
  | nil => rfl
  | cons l ls ih => cases l <;> exact ih s.inner

section Keeps

variable {thread : Nat} {name : String} {xs : List Setup} {good good' : Store → Prop}

theorem Keeps.and (h : Keeps thread name xs good) (h' : Keeps thread name xs good') :
    Keeps thread name xs fun s => good s ∧ good' s := by
  obtain ⟨inv, hinv, hstart, hgood⟩ := h
  obtain ⟨inv', hinv', hstart', hgood'⟩ := h'
  exact ⟨_, hinv.and hinv', ⟨hstart, hstart'⟩, fun s hs => ⟨hgood s hs.1, hgood' s hs.2⟩⟩

theorem Keeps.mono (h : Keeps thread name xs good) (hgood : ∀ s, good s → good' s) :
    Keeps thread name xs good' := by
  obtain ⟨inv, hinv, hstart, hs⟩ := h
  exact ⟨inv, hinv, hstart, fun s hi => hgood _ (hs s hi)⟩

theorem Keeps.append (h : Keeps thread name xs good) (outer : List Setup) :
    Keeps thread name (outer ++ xs) good := by
  induction outer with
  | nil => exact h
  | cons x outer ih => exact ih.cons x

/-- A stack keeps its name. -/
theorem keeps_name (thread : Nat) (name : String) (xs : List Setup) :
    Keeps thread name xs fun s => s.name = name := by
  induction xs with
  | nil =>
    have hstore : Store.cache.Upholds thread (fun _ => True) fun s => s.name = name :=
      { size := fun _ hs => hs
        put := fun _ _ hs => ⟨rfl, hs⟩
        get := fun _ hs => ⟨⟨_, rfl⟩, hs⟩
        remove := fun _ hs => ⟨⟨_, rfl⟩, hs⟩
        clear := fun _ hs => ⟨rfl, hs⟩ }
    exact ⟨_, hstore, rfl, fun s hs => hs⟩
  | cons x xs ih => exact ih.cons x

end Keeps

end Stack

namespace Profile

variable (p : Profile)

/-- The layers of a profile before their first use, outermost first. -/
def setups : List Setup :=
  (if p.blocking then [.blocking p.timeout] else []) ++
    ((if p.logging then [.logging] else []) ++ p.evictor)

theorem build_eq_laid (name : String) :
    p.build name = ⟨Setup.layers p.setups, Stack.laid name p.setups⟩ := by
  unfold build setups
  rw [evicting_eq_laid]
  cases p.logging <;> cases p.blocking <;> rfl

/-- Only a profile that asks for weak entries has them. -/
theorem weak_notMem (h : p.eviction ≠ .weak) (name : String) : .weak ∉ (p.build name).layers := by
  unfold build evicting
  cases he : p.eviction with
  | weak => exact absurd he h
  | lru | fifo | none =>
    cases p.logging <;> cases p.blocking <;> simp [Stack.push, Stack.ofStore]

/-- A policy that needs room is that of a layer with a capacity. -/
theorem evictor_capacity (h : p.eviction.NeedsRoom) :
    ∃ x, p.evictor = [x] ∧ x.capacity? = some (max p.size 1) := by
  unfold evictor
  cases h with
  | inl h =>
    rw [h]
    exact ⟨_, rfl, rfl⟩
  | inr h =>
    rw [h]
    exact ⟨_, rfl, rfl⟩

/-- The store of a profile keeps its name, and its entries keep within the room that the policy
needs. -/
theorem keeps_room (thread : Nat) (name : String) :
    Stack.Keeps thread name p.setups fun s =>
      s.name = name ∧ (p.eviction.NeedsRoom → s.entries.size ≤ max p.size 1) := by
  have hname := Stack.keeps_name thread name p.setups
  by_cases hneeds : p.eviction.NeedsRoom
  · obtain ⟨x, hx, hcapacity⟩ := p.evictor_capacity hneeds
    have hinner : Stack.Keeps thread name [x] fun s => s.entries.size ≤ max p.size 1 :=
      Stack.keeps_of_capacity hcapacity (Nat.le_max_right p.size 1) (by simp [Setup.layers])
    have houter : Stack.Keeps thread name p.setups fun s => s.entries.size ≤ max p.size 1 := by
      unfold setups
      rw [hx]
      exact (hinner.append _).append _
    exact (hname.and houter).mono fun s hs => ⟨hs.1, fun _ => hs.2⟩
  · exact hname.mono fun s hs => ⟨hs, fun h => absurd h hneeds⟩

/-- What is always true of the stack of a profile that one thread uses: it has the layers it was
built with and its name, and its store keeps within the room that the policy needs. -/
def Sound (name : String) (s : Stack) : Prop :=
  s.layers = (p.build name).layers ∧ (Stack.below 0).id s = name ∧
    (p.eviction.NeedsRoom → (Stack.store s.layers s.state).entries.size ≤ max p.size 1)

/-- One thread may use the stack of a profile at will. -/
theorem build_upholds (thread : Nat) (name : String) :
    ∃ inv : Stack → Prop, (Stack.below 0).Upholds thread (fun _ => True) inv ∧
      inv (p.build name) ∧ ∀ s, inv s → p.Sound name s := by
  obtain ⟨inv, hinv, hstart, hgood⟩ := p.keeps_room thread name
  refine ⟨_, Stack.upholds_below hinv, ⟨_, p.build_eq_laid name, hstart⟩, ?_⟩
  rintro s ⟨t, rfl, ht⟩
  have hlayers : Setup.layers p.setups = (p.build name).layers := by rw [p.build_eq_laid name]
  have hid : (Stack.below 0).id ⟨Setup.layers p.setups, t⟩ = name := by
    show (Stack.cacheBelow _ 0).id t = name
    rw [Stack.cacheBelow_zero, Stack.id_eq_name]
    exact (hgood t ht).1
  exact ⟨hlayers, hid, (hgood t ht).2⟩

end Profile

end QueryCache
