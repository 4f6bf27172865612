import QueryCache.Proofs.Run
import QueryCache.Stack

/-!
# Calls on a cache, one after another

What a user asks of a cache, call by call. A lookup may have to wait, so a sequence of calls is
a run itself; if nothing waits, it ends with the answers to all calls. Who calls, when, and which
row lists are kept alive elsewhere may differ from call to call.

`Cache.Upholds` says that a thread may use a cache at will: nothing waits, nothing fails, and an
invariant is kept. A layer over such a cache is one as well, whatever it does with the cache
inside, so an invariant of the innermost layers is kept by the whole stack.
-/

namespace QueryCache

/-- What may be asked of a cache. -/
inductive Demand where
  | put (key : Key) (entry : Entry)
  | get (key : Key)
  | remove (key : Key)
  | clear
  | size

/-- What a cache answers. -/
inductive Response where
  | done
  | entry (found : Option Entry)
  | count (n : Nat)
  deriving DecidableEq

namespace Cache

variable {σ : Type}

/-- Ask one thing of a cache. -/
def ask (cache : Cache σ) (c : Caller) (s : σ) :
    Demand → Run σ (Except CacheFailure Response)
  | .put k e => .done ((cache.put c k e s).map (·.map fun _ => .done))
  | .get k => (cache.get c k s).mapReply (·.map (·.map .entry))
  | .remove k => .done ((cache.remove c k s).map (·.map .entry))
  | .clear => .done ((cache.clear c s).map (·.map fun _ => .done))
  | .size => .done ((cache.size c s).map fun n => .ok (.count n))

/-- Ask several things of a cache, in order. -/
def askAll (cache : Cache σ) :
    List (Caller × Demand) → σ → Run σ (List (Except CacheFailure Response))
  | [], s => .done ⟨[], s, []⟩
  | (c, d) :: rest, s =>
    (cache.ask c s d).andThen c fun _ a s => (cache.askAll rest s).mapReply (·.map (a :: ·))

/-- A cache that a thread may use at will, as long as it writes to the given keys only: it waits
for nothing and is refused nothing, and an invariant is kept. -/
structure Upholds (cache : Cache σ) (thread : Nat) (keys : Key → Prop) (inv : σ → Prop) :
    Prop where
  size : ∀ {c s}, c.thread = thread → inv s → inv (cache.size c s).state
  put : ∀ {c k e s}, c.thread = thread → keys k → inv s →
    (cache.put c k e s).value = .ok () ∧ inv (cache.put c k e s).state
  get : ∀ {c k s}, c.thread = thread → inv s →
    (cache.get c k s).Returns fun v s' => (∃ e, v = .ok e) ∧ inv s'
  remove : ∀ {c k s}, c.thread = thread → inv s →
    (∃ e, (cache.remove c k s).value = .ok e) ∧ inv (cache.remove c k s).state
  clear : ∀ {c s}, c.thread = thread → inv s →
    (cache.clear c s).value = .ok () ∧ inv (cache.clear c s).state

variable {cache : Cache σ} {thread : Nat} {inv : σ → Prop}

/-- One call is answered without failure. -/
theorem Upholds.ask (h : cache.Upholds thread (fun _ => True) inv) {c : Caller}
    (hc : c.thread = thread) {s : σ} (hs : inv s) (d : Demand) :
    (cache.ask c s d).Returns fun a s' => (∃ b, a = .ok b) ∧ inv s' := by
  cases d with
  | put k e =>
    obtain ⟨hv, hs'⟩ := h.put hc True.intro hs
    exact ⟨⟨_, congrArg (Except.map fun _ => Response.done) hv⟩, hs'⟩
  | get k =>
    refine (h.get hc hs).mapReply fun r hr => ?_
    obtain ⟨⟨e, he⟩, hs'⟩ := hr
    exact ⟨⟨_, congrArg (Except.map Response.entry) he⟩, hs'⟩
  | remove k =>
    obtain ⟨⟨e, he⟩, hs'⟩ := h.remove hc hs
    exact ⟨⟨_, congrArg (Except.map Response.entry) he⟩, hs'⟩
  | clear =>
    obtain ⟨hv, hs'⟩ := h.clear hc hs
    exact ⟨⟨_, congrArg (Except.map fun _ => Response.done) hv⟩, hs'⟩
  | size => exact ⟨⟨_, rfl⟩, h.size hc hs⟩

/-- All calls are answered without failure. -/
theorem Upholds.askAll (h : cache.Upholds thread (fun _ => True) inv)
    (calls : List (Caller × Demand)) (hcalls : ∀ x ∈ calls, x.1.thread = thread) {s : σ}
    (hs : inv s) :
    (cache.askAll calls s).Returns fun as s' => (∀ a ∈ as, ∃ b, a = .ok b) ∧ inv s' := by
  induction calls generalizing s with
  | nil => exact ⟨nofun, hs⟩
  | cons x rest ih =>
    obtain ⟨c, d⟩ := x
    have hfirst := h.ask (hcalls (c, d) List.mem_cons_self) hs d
    refine hfirst.andThen fun c' a s' ha => ?_
    have hrest := ih (fun y hy => hcalls y (List.mem_cons_of_mem _ hy)) ha.2
    refine hrest.mapReply fun r hr => ⟨fun b hb => ?_, hr.2⟩
    rcases List.mem_cons.mp hb with rfl | hb
    · exact ha.1
    · exact hr.1 b hb

end Cache

/-! ### Layers over a cache that may be used at will -/

section Layers

open Cache (Upholds)

variable {σ : Type} {inner : Cache σ} {thread : Nat} {keys : Key → Prop} {inv : σ → Prop}
  (h : inner.Upholds thread keys inv)

include h

/-- The lookup inside a layer. -/
private theorem get_upholds {ο : Type} (held : ο → RowsId → Bool) {c : Caller}
    (hc : c.thread = thread) (k : Key) {s : Over ο σ} (hs : inv s.inner) :
    ((Over.part held).run c s fun c i => inner.get c k i).Returns fun v s' =>
      (∃ e, v = .ok e) ∧ inv s'.inner :=
  (h.get (c := c.holding (held s.own)) hc hs).within fun _ _ hv => hv

/-- Evicting the least recently touched keys. -/
theorem Lru.upholds : (Lru.cache inner).Upholds thread keys fun s => inv s.inner where
  size hc hs := h.size hc hs
  put {c k e s} hc hk hs := by
    have hput : (Lru.inside.reply c s fun c i => inner.put c k e i).value = .ok () ∧
        inv (Lru.inside.reply c s fun c i => inner.put c k e i).state.inner := h.put hc hk hs
    have hevict (a : Key) (s : Over Lru σ) (hs : inv s.inner) :
        (Lru.evict inner c a s).value = .ok () ∧ inv (Lru.evict inner c a s).state.inner := by
      obtain ⟨⟨e, he⟩, hs'⟩ := h.remove (c := c.holding (Lru.inside.held s)) (k := a) hc hs
      exact ⟨congrArg (Except.map fun _ => ()) he, hs'⟩
    change (Lru.put inner c k e s).value = .ok () ∧ inv (Lru.put inner c k e s).state.inner
    unfold Lru.put
    generalize Lru.inside.reply c s (fun c i => inner.put c k e i) = written at hput
    simp only [Reply.andThen, Reply.after, hput.1]
    split
    · exact ⟨rfl, hput.2⟩
    · split
      · exact ⟨rfl, hput.2⟩
      · exact hevict _ _ hput.2
  get hc hs := get_upholds h (fun _ _ => false) hc _ hs
  remove hc hs := h.remove hc hs
  clear hc hs := h.clear hc hs

/-- Evicting the keys written first. -/
theorem Fifo.upholds : (Fifo.cache inner).Upholds thread keys fun s => inv s.inner where
  size hc hs := h.size hc hs
  put {c k e s} hc hk hs := by
    have hput : (Fifo.inside.reply c s fun c i => inner.put c k e i).value = .ok () ∧
        inv (Fifo.inside.reply c s fun c i => inner.put c k e i).state.inner := h.put hc hk hs
    have hevict (a : Key) (s : Over Fifo σ) (hs : inv s.inner) :
        (Fifo.evict inner c a s).value = .ok () ∧ inv (Fifo.evict inner c a s).state.inner := by
      obtain ⟨⟨e, he⟩, hs'⟩ := h.remove (c := c.holding (Fifo.inside.held s)) (k := a) hc hs
      exact ⟨congrArg (Except.map fun _ => ()) he, hs'⟩
    change (Fifo.put inner c k e s).value = .ok () ∧ inv (Fifo.put inner c k e s).state.inner
    unfold Fifo.put
    generalize Fifo.inside.reply c s (fun c i => inner.put c k e i) = written at hput
    simp only [Reply.andThen, Reply.after, hput.1]
    split
    · exact ⟨rfl, hput.2⟩
    · split
      · exact ⟨rfl, hput.2⟩
      · exact hevict _ _ hput.2
  get hc hs := get_upholds h (fun _ _ => false) hc _ hs
  remove hc hs := h.remove hc hs
  clear hc hs := h.clear hc hs

/-- Counting hits. -/
theorem Logging.upholds : (Logging.cache inner).Upholds thread keys fun s => inv s.inner where
  size hc hs := h.size hc hs
  put hc hk hs := h.put hc hk hs
  get {c k s} hc hs := by
    change (Logging.get inner c k s).Returns _
    rw [Logging.get, Run.returns_after]
    refine Run.Returns.andThen (get_upholds h (fun _ _ => false) hc k hs) ?_
    intro c' v s' hv
    exact hv
  remove hc hs := h.remove hc hs
  clear hc hs := h.clear hc hs

/-- A sweep is not refused. -/
theorem Weak.sweep_upholds {c : Caller} (hc : c.thread = thread) (limit : Nat)
    {s : Over Weak σ} (hs : inv s.inner) :
    (Weak.sweep inner c limit s).value = .ok () ∧
      inv (Weak.sweep inner c limit s).state.inner := by
  have hdrop (dead : List Key) (s : Over Weak σ) (hs : inv s.inner) :
      (Weak.dropAll inner c dead s).value = .ok () ∧
        inv (Weak.dropAll inner c dead s).state.inner := by
    induction dead generalizing s with
    | nil => exact ⟨rfl, hs⟩
    | cons k rest ih =>
      have hremove : (∃ e, (Weak.inside.reply c s fun c i => inner.remove c k i).value = .ok e) ∧
          inv (Weak.inside.reply c s fun c i => inner.remove c k i).state.inner := h.remove hc hs
      unfold Weak.dropAll
      generalize Weak.inside.reply c s (fun c i => inner.remove c k i) = removed at hremove
      obtain ⟨⟨e, he⟩, hs'⟩ := hremove
      simp only [Reply.andThen, Reply.after, he]
      exact ih _ hs'
  exact hdrop _ _ hs

/-- Letting go of rows that nobody holds. -/
theorem Weak.upholds : (Weak.cache inner).Upholds thread keys fun s => inv s.inner where
  size {c s} hc hs := by
    have hsweep := Weak.sweep_upholds h hc s.own.tracked.entries.size hs
    unfold Weak.cache
    dsimp only
    unfold Weak.size
    generalize Weak.sweep inner c s.own.tracked.entries.size s = swept at hsweep
    exact h.size (c := c.holding (Weak.inside.held swept.state)) hc hsweep.2
  put {c k e s} hc hk hs := by
    have hsweep := Weak.sweep_upholds h (c := c.holding fun id => e.holds id) hc Weak.sweepBatch hs
    unfold Weak.cache
    dsimp only
    unfold Weak.put
    generalize Weak.sweep inner (c.holding fun id => e.holds id) Weak.sweepBatch s = swept
      at hsweep
    simp only [Reply.andThen, Reply.after, hsweep.1]
    cases e with
    | null => exact h.put hc hk hsweep.2
    | rows list => exact h.put hc hk hsweep.2
    | reclaimable list => exact h.put hc hk hsweep.2
  get {c k s} hc hs := by
    have hsweep := Weak.sweep_upholds h hc Weak.sweepBatch hs
    unfold Weak.cache
    dsimp only
    unfold Weak.get
    generalize Weak.sweep inner c Weak.sweepBatch s = swept at hsweep
    simp only [hsweep.1, Run.returns_after]
    refine (get_upholds h Weak.pins hc k hsweep.2).andThen_same ?_
    rintro v s' ⟨⟨e, rfl⟩, hs'⟩
    cases e with
    | none => exact ⟨⟨none, rfl⟩, hs'⟩
    | some stored =>
      unfold Weak.found
      dsimp only
      split
      · exact ⟨⟨_, rfl⟩, hs'⟩
      · exact ⟨⟨_, rfl⟩, hs'⟩
      · obtain ⟨⟨e, he⟩, hs''⟩ := h.remove (c := c.holding (s'.own.forget k).pins) (k := k) hc hs'
        exact ⟨⟨_, congrArg (Except.map fun _ => none) he⟩, hs''⟩
  remove {c k s} hc hs := by
    have hsweep := Weak.sweep_upholds h hc Weak.sweepBatch hs
    unfold Weak.cache
    dsimp only
    unfold Weak.remove
    generalize Weak.sweep inner c Weak.sweepBatch s = swept at hsweep
    simp only [Reply.andThen, Reply.after, hsweep.1]
    obtain ⟨⟨e, he⟩, hs'⟩ :=
      h.remove (c := c.holding (swept.state.own.forget k).pins) (k := k) hc hsweep.2
    exact ⟨⟨_, congrArg (Except.map _) he⟩, hs'⟩
  clear hc hs := h.clear hc hs

end Layers

namespace Stack

/-- What all calls on the store keep is kept by every stack over it that has neither key locks
nor a layer that may refuse calls. -/
theorem upholds {thread : Nat} {keys : Key → Prop} {inv : Store → Prop}
    (h : Store.cache.Upholds thread keys inv) (ls : List Layer) (hp : .probe ∉ ls)
    (hb : .blocking ∉ ls) : (cache ls).Upholds thread keys fun s => inv (store ls s) := by
  induction ls with
  | nil => exact h
  | cons l ls ih =>
    have hi := ih (fun hm => hp (List.mem_cons_of_mem l hm)) fun hm =>
      hb (List.mem_cons_of_mem l hm)
    cases l with
    | lru => exact Lru.upholds hi
    | fifo => exact Fifo.upholds hi
    | weak => exact Weak.upholds hi
    | logging => exact Logging.upholds hi
    | blocking => exact absurd List.mem_cons_self hb
    | probe => exact absurd List.mem_cons_self hp

end Stack

end QueryCache
