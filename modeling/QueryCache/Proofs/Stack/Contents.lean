import QueryCache.Proofs.Run
import QueryCache.Proofs.Table
import QueryCache.Stack

/-!
# What a stack has in it

Layers lock keys, count, evict and reclaim, but no layer makes rows up: what a stack answers
was put into it and is still there, and nothing but a write adds to it. `Faithful` says so of
one cache, given what it means to have rows under a key; a layer over a faithful cache is
faithful, so every stack is.
-/

namespace QueryCache

/-- The row list of an entry, whether or not the entry keeps it alive. -/
def Entry.list? : Entry → Option RowList
  | null => none
  | rows r => some r
  | reclaimable r => some r

/-- An entry whose rows are found alive has the rows it had. -/
theorem Entry.list?_upgrade {alive : RowsId → Bool} {stored e : Entry} {r : RowList}
    (he : stored.upgrade alive = some e) (hr : e.list? = some r) : stored.list? = some r := by
  cases stored with
  | null =>
    injection he with he
    exact he ▸ hr
  | rows list =>
    injection he with he
    exact he ▸ hr
  | reclaimable list =>
    rw [Entry.upgrade] at he
    split at he
    · injection he with he
      rw [← he] at hr
      exact hr
    · exact nomatch he

namespace Cache

variable {σ : Type}

/-- Nothing was added, and the name is the same. -/
def Shrinks (cache : Cache σ) (has : σ → Key → RowList → Prop) (s s' : σ) : Prop :=
  (∀ a r, has s' a r → has s a r) ∧ cache.id s' = cache.id s

/-- Nothing was added but the rows of an entry under its key, and the name is the same. -/
def Adds (cache : Cache σ) (has : σ → Key → RowList → Prop) (k : Key) (e : Entry)
    (s s' : σ) : Prop :=
  (∀ a r, has s' a r → has s a r ∨ (a = k ∧ e.list? = some r)) ∧ cache.id s' = cache.id s

/-- Nothing was added, and rows that are answered for a key are still there. -/
def Answers (cache : Cache σ) (has : σ → Key → RowList → Prop) (k : Key) (s : σ)
    (v : Except CacheFailure (Option Entry)) (s' : σ) : Prop :=
  cache.Shrinks has s s' ∧ ∀ e r, v = .ok (some e) → e.list? = some r → has s' k r

/-- A cache that answers what was put into it and is still there. -/
structure Faithful (cache : Cache σ) (has : σ → Key → RowList → Prop) : Prop where
  put : ∀ c k e s, cache.Adds has k e s (cache.put c k e s).state
  get : ∀ c k s, (cache.get c k s).Each (cache.Shrinks has) (cache.Answers has k) s
  remove : ∀ c k s, cache.Shrinks has s (cache.remove c k s).state
  clear : ∀ c s, (∀ a r, ¬ has (cache.clear c s).state a r) ∧
    cache.id (cache.clear c s).state = cache.id s

variable {cache : Cache σ} {has : σ → Key → RowList → Prop}

theorem Shrinks.refl (s : σ) : cache.Shrinks has s s := ⟨fun _ _ h => h, rfl⟩

theorem Shrinks.trans {s s' s'' : σ} (h : cache.Shrinks has s s')
    (h' : cache.Shrinks has s' s'') : cache.Shrinks has s s'' :=
  ⟨fun a r hr => h.1 a r (h'.1 a r hr), h'.2.trans h.2⟩

theorem Adds.shrinks {k : Key} {e : Entry} {s s' s'' : σ} (h : cache.Adds has k e s s')
    (h' : cache.Shrinks has s' s'') : cache.Adds has k e s s'' :=
  ⟨fun a r hr => h.1 a r (h'.1 a r hr), h'.2.trans h.2⟩

theorem Shrinks.adds {k : Key} {e : Entry} {s s' s'' : σ} (h : cache.Shrinks has s s')
    (h' : cache.Adds has k e s' s'') : cache.Adds has k e s s'' :=
  ⟨fun a r hr => (h'.1 a r hr).imp_left (h.1 a r), h'.2.trans h.2⟩

theorem Shrinks.answers {k : Key} {v : Except CacheFailure (Option Entry)} {s s' s'' : σ}
    (h : cache.Shrinks has s s') (h' : cache.Answers has k s' v s'') :
    cache.Answers has k s v s'' :=
  ⟨h.trans h'.1, h'.2⟩

end Cache

/-- Rows under a key of the store, be they reclaimable. -/
def Store.has (s : Store) (k : Key) (r : RowList) : Prop :=
  ∃ e, s.entries.get? k = some e ∧ e.list? = some r

/-- The store is faithful. -/
theorem Store.faithful : Store.cache.Faithful Store.has where
  put c k e s := by
    refine ⟨?_, rfl⟩
    rintro a r ⟨e', he', hr⟩
    simp only [Store.cache, Table.get?_insert] at he'
    split at he'
    · next hk =>
      injection he' with he'
      exact .inr ⟨hk.symm, he' ▸ hr⟩
    · exact .inl ⟨e', he', hr⟩
  get c k s := by
    refine ⟨Cache.Shrinks.refl s, ?_⟩
    intro e r he hr
    injection he with he
    exact ⟨e, he, hr⟩
  remove c k s := by
    refine ⟨?_, rfl⟩
    rintro a r ⟨e, he, hr⟩
    simp only [Store.cache, Table.get?_erase] at he
    split at he
    · exact absurd he (by simp)
    · exact ⟨e, he, hr⟩
  clear c s := by
    refine ⟨?_, rfl⟩
    rintro a r ⟨e, he, _⟩
    exact absurd he (by simp [Store.cache, Table.get?_empty])

/-! ### Layers -/

section Layers

variable {σ : Type} {inner : Cache σ} {has : σ → Key → RowList → Prop} (h : inner.Faithful has)

include h

/-- The lookup inside a layer, in the last stretch of which the layer may do more. -/
private theorem get_inside {ο : Type} (held : ο → RowsId → Bool) (c : Caller) (k : Key)
    (s : Over ο σ) :
    ((Over.part held).run c s fun c i => inner.get c k i).Each
      (fun s s' => inner.Shrinks has s.inner s'.inner)
      (fun s v s' => inner.Answers has k s.inner v s'.inner) s :=
  Run.Each.within (p := Over.part held) (h.get _ k s.inner) (fun _ _ hs => hs)
    fun _ _ _ hl => hl

/-- Evicting the least recently touched keys is faithful. -/
theorem Lru.faithful : (Lru.cache inner).Faithful fun s => has s.inner where
  put c k e s := by
    have hput := h.put (c.holding (Lru.inside.held s)) k e s.inner
    change inner.Adds has k e s.inner (Lru.put inner c k e s).state.inner
    simp only [Lru.put, Reply.andThen, Reply.after]
    split
    · exact hput
    · split
      · exact hput
      · split
        · exact hput
        · exact hput.shrinks (h.remove _ _ _)
  get c k s := (get_inside h (fun _ _ => false) c k _).start (fun _ hs => hs) fun _ _ hl => hl
  remove c k s := h.remove _ k s.inner
  clear c s := h.clear _ s.inner

/-- Evicting the keys written first is faithful. -/
theorem Fifo.faithful : (Fifo.cache inner).Faithful fun s => has s.inner where
  put c k e s := by
    have hput := h.put (c.holding (Fifo.inside.held s)) k e s.inner
    change inner.Adds has k e s.inner (Fifo.put inner c k e s).state.inner
    simp only [Fifo.put, Reply.andThen, Reply.after]
    split
    · exact hput
    · split
      · exact hput
      · split
        · exact hput
        · exact hput.shrinks (h.remove _ _ _)
  get c k s := get_inside h (fun _ _ => false) c k s
  remove c k s := h.remove _ k s.inner
  clear c s := h.clear _ s.inner

/-- Counting hits is faithful. -/
theorem Logging.faithful : (Logging.cache inner).Faithful fun s => has s.inner where
  put c k e s := h.put _ k e s.inner
  get c k s := by
    change ((Logging.get inner c k s)).Each _ _ s
    rw [Logging.get, Run.each_after]
    refine Run.Each.andThen
      ((get_inside h (fun _ _ => false) c k _).start (fun _ hs => hs) fun _ _ hl => hl) ?_
    intro c' s v s' hl
    exact hl
  remove c k s := h.remove _ k s.inner
  clear c s := h.clear _ s.inner

private theorem fetch_each (thread : Nat) (c : Caller) (k : Key) (s₀ s : Over Blocking σ)
    (hs : s.inner = s₀.inner) :
    (Blocking.fetch inner thread c k s).Each
      (fun s s' => inner.Shrinks has s.inner s'.inner)
      (fun s v s' => inner.Answers has k s.inner v s'.inner) s₀ := by
  rw [Blocking.fetch]
  refine Run.Each.andThen ((get_inside h (fun _ _ => false) c k _).start
    (fun _ hl => hs ▸ hl) fun _ _ hl => hs ▸ hl) ?_
  intro c' s v s' hl
  unfold Blocking.settle
  split <;> exact hl

/-- Locking keys is faithful. -/
theorem Blocking.faithful : (Blocking.cache inner).Faithful fun s => has s.inner where
  put c k e s := h.put _ k e s.inner
  get c k s := by
    have refused (f : String → String → CacheFailure) (s₀ : Over Blocking σ) :
        (Blocking.refuse inner k { s₀ with own := s₀.own.unawait k } f).Each
          (fun s s' => inner.Shrinks has s.inner s'.inner)
          (fun s v s' => inner.Answers has k s.inner v s'.inner) s₀ :=
      ⟨Cache.Shrinks.refl s₀.inner, fun e r he => nomatch he⟩
    change (Blocking.get inner c k s).Each
      (fun s s' => inner.Shrinks has s.inner s'.inner)
      (fun s v s' => inner.Answers has k s.inner v s'.inner) s
    rw [Blocking.get]
    split
    · exact fetch_each h c.thread c k s s rfl
    split
    · refine ⟨Cache.Shrinks.refl s.inner, fun c' s' _ => ?_⟩
      dsimp only
      split
      · exact fetch_each h c.thread c' k s' _ rfl
      · exact refused _ s'
    · refine ⟨Cache.Shrinks.refl s.inner, fun c' s' _ => ?_⟩
      dsimp only
      split
      · exact fetch_each h c.thread c' k s' _ rfl
      · split
        · exact refused _ s'
        · exact refused _ s'
  remove c k s := Cache.Shrinks.refl s.inner
  clear c s := h.clear _ s.inner

/-- Removing keys whose rows are gone adds nothing. -/
theorem Weak.dropAll_shrinks (c : Caller) (keys : List Key) (s : Over Weak σ) :
    inner.Shrinks has s.inner (Weak.dropAll inner c keys s).state.inner := by
  induction keys generalizing s with
  | nil => exact Cache.Shrinks.refl s.inner
  | cons k rest ih =>
    have hremove := h.remove (c.holding (Weak.inside.held s)) k s.inner
    simp only [Weak.dropAll, Reply.andThen, Reply.after]
    split
    · exact hremove
    · exact hremove.trans (ih _)

/-- A sweep adds nothing. -/
theorem Weak.sweep_shrinks (c : Caller) (limit : Nat) (s : Over Weak σ) :
    inner.Shrinks has s.inner (Weak.sweep inner c limit s).state.inner :=
  Weak.dropAll_shrinks h c _ _

/-- What follows the lookup inside adds nothing and answers what is there. -/
private theorem found_each (k : Key) (c : Caller) (s₀ s : Over Weak σ)
    (v : Except CacheFailure (Option Entry)) (hl : inner.Answers has k s₀.inner v s.inner) :
    (Weak.found inner k c v s).Each (fun s s' => inner.Shrinks has s.inner s'.inner)
      (fun s v s' => inner.Answers has k s.inner v s'.inner) s₀ := by
  match v with
  | .error f => exact hl
  | .ok none => exact hl
  | .ok (some stored) =>
    have hup (e : Entry) (he : stored.upgrade (Weak.alive inner c s) = some e) (e' : Entry)
        (r : RowList) (hv : (.ok (some e) : Except CacheFailure (Option Entry)) = .ok (some e'))
        (hr : e'.list? = some r) : has s.inner k r := by
      injection hv with hv
      injection hv with hv
      exact hl.2 stored r rfl (Entry.list?_upgrade he (hv ▸ hr))
    unfold Weak.found
    dsimp only
    split
    · next list he => exact ⟨hl.1, hup _ he⟩
    · next e _ he => exact ⟨hl.1, hup e he⟩
    · refine ⟨hl.1.trans (h.remove _ k s.inner), fun e r he => ?_⟩
      revert he
      simp only [Reply.map]
      cases (Weak.inside.reply c { s with own := s.own.forget k } fun c i =>
        inner.remove c k i).value with
      | error f => exact fun he => nomatch he
      | ok e' => exact fun he => nomatch he

private theorem weak_put (c : Caller) (k : Key) (e : Entry) (s : Over Weak σ) :
    inner.Adds has k e s.inner (Weak.put inner c k e s).state.inner := by
  have hsweep := Weak.sweep_shrinks h (c.holding fun id => e.holds id) Weak.sweepBatch s
  unfold Weak.put
  generalize Weak.sweep inner (c.holding fun id => e.holds id) Weak.sweepBatch s = swept
    at hsweep
  simp only [Reply.andThen, Reply.after]
  split
  · exact ⟨fun a r hr => .inl (hsweep.1 a r hr), hsweep.2⟩
  · cases e with
    | null => exact hsweep.adds (h.put _ k .null _)
    | rows list => exact hsweep.adds (h.put _ k (.reclaimable list) _)
    | reclaimable list => exact hsweep.adds (h.put _ k (.reclaimable list) _)

private theorem weak_remove (c : Caller) (k : Key) (s : Over Weak σ) :
    inner.Shrinks has s.inner (Weak.remove inner c k s).state.inner := by
  have hsweep := Weak.sweep_shrinks h c Weak.sweepBatch s
  unfold Weak.remove
  generalize Weak.sweep inner c Weak.sweepBatch s = swept at hsweep
  simp only [Reply.andThen, Reply.after]
  split
  · exact hsweep
  · exact hsweep.trans (h.remove _ k _)

/-- Letting go of rows that nobody holds is faithful. -/
theorem Weak.faithful : (Weak.cache inner).Faithful fun s => has s.inner where
  put c k e s := by
    unfold Weak.cache
    exact weak_put h c k e s
  get c k s := by
    have hsweep := Weak.sweep_shrinks h c Weak.sweepBatch s
    unfold Weak.cache
    dsimp only
    unfold Weak.get
    -- As long as the sweep stands there, every comparison would compute it.
    generalize Weak.sweep inner c Weak.sweepBatch s = swept at hsweep
    dsimp only
    split
    · exact ⟨hsweep, fun e r he => nomatch he⟩
    · rw [Run.each_after]
      refine Run.Each.andThen ((get_inside h Weak.pins c k _).start
        (fun _ hl => hsweep.trans hl) fun _ _ hl => hsweep.answers hl) ?_
      intro c' s v s' hl
      exact found_each h k c' s s' v hl
  remove c k s := by
    unfold Weak.cache
    exact weak_remove h c k s
  clear c s := h.clear _ s.inner

end Layers

namespace Stack

/-- Rows under a key of the innermost store. -/
def has (ls : List Layer) (s : State ls) : Key → RowList → Prop := (store ls s).has

/-- Every stack is faithful whose calls all reach the next layer. -/
theorem faithful (ls : List Layer) (hl : .probe ∉ ls) : (cache ls).Faithful (has ls) := by
  induction ls with
  | nil => exact Store.faithful
  | cons l ls ih =>
    have hi := ih fun hm => hl (List.mem_cons_of_mem l hm)
    cases l with
    | lru => exact Lru.faithful hi
    | fifo => exact Fifo.faithful hi
    | weak => exact Weak.faithful hi
    | logging => exact Logging.faithful hi
    | blocking => exact Blocking.faithful hi
    | probe => exact absurd List.mem_cons_self hl

end Stack

end QueryCache
