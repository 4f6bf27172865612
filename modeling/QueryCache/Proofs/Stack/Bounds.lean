import Mathlib.Data.List.Perm.Subperm
import QueryCache.Proofs.Stack.Service

/-!
# Capacities

An evicting layer bounds the store under it, wherever it stands in a stack: every key of the
store is one that the layer keeps track of, and it keeps track of no more keys than its capacity.
A write adds its own key at most, and the key that the layer gives up for it is removed.

This rests on what removing means inside. Key locks only give a lock back when a key is removed,
so an evicting layer over them evicts nothing (`size_exceeds_capacity`); under an evicting layer
without key locks inside there are never more entries than its capacity, whatever stands around
it (`size_le_capacity`).
-/

namespace QueryCache

namespace Cache

variable {σ : Type}

/-- A cache whose keys are known: it has none but the keys in the list. Calls add none but those
written, and what is removed is gone. -/
structure Confines (cache : Cache σ) (among : List Key → σ → Prop) : Prop where
  upholds : ∀ thread X, cache.Upholds thread (· ∈ X) (among X)
  remove : ∀ {c k s X}, among X s → among (X.filter (· ≠ k)) (cache.remove c k s).state
  clear : ∀ {c s X}, among X s → among [] (cache.clear c s).state
  mono : ∀ {X Y s}, among X s → X ⊆ Y → among Y s

/-- After a removal the keys are among the others. -/
theorem Confines.remove_covered {cache : Cache σ} {among : List Key → σ → Prop}
    (h : cache.Confines among) {c : Caller} {k : Key} {s : σ} {X Y : List Key} (hs : among X s)
    (hY : ∀ a ∈ X, a = k ∨ a ∈ Y) : among Y (cache.remove c k s).state := by
  refine h.mono (h.remove hs) fun a ha => ?_
  obtain ⟨hX, hne⟩ := List.mem_filter.mp ha
  exact (hY a hX).resolve_left (of_decide_eq_true hne)

/-- After a write, the keys are among the tracked ones again once the key was removed that is
tracked no more. If there is none, or it is the written key itself, nothing need be removed. -/
theorem Confines.after_write {cache : Cache σ} {among : List Key → σ → Prop}
    (h : cache.Confines among) {k : Key} {s : σ} {X Y : List Key} {gone : Option Key}
    (hs : among (k :: X) s) (hk : k ∈ Y) (hY : ∀ a ∈ X, gone = some a ∨ a ∈ Y) :
    ((∀ a, gone = some a → a = k) → among Y s) ∧
      ∀ c a, gone = some a → among Y (cache.remove c a s).state := by
  have hcover : ∀ a ∈ k :: X, gone = some a ∨ a ∈ Y := by
    intro a ha
    rcases List.mem_cons.mp ha with rfl | ha
    · exact .inr hk
    · exact hY a ha
  constructor
  · refine fun hgone => h.mono hs fun a ha => ?_
    rcases hcover a ha with hlost | hin
    · rw [hgone a hlost]
      exact hk
    · exact hin
  · intro c a hgone
    refine h.remove_covered hs fun b hb => (hcover b hb).imp_left fun hlost => ?_
    exact Option.some.inj (hlost.symm.trans hgone)

end Cache

/-- The store has no key twice, and none but these. -/
def Store.Among (X : List Key) (s : Store) : Prop := s.entries.keys.Nodup ∧ s.entries.keys ⊆ X

/-- There are no more entries than there may be keys. -/
theorem Store.Among.size_le {X : List Key} {s : Store} (h : s.Among X) :
    s.entries.size ≤ X.length := by
  have hle : s.entries.keys.length ≤ X.length := (h.1.subperm h.2).length_le
  simpa [Table.keys, Table.size] using hle

/-- The keys of the store are those written. -/
theorem Store.confines : Store.cache.Confines Store.Among where
  upholds thread X :=
    { size := fun _ hs => hs
      put := by
        intro c k e s _ hk hs
        refine ⟨rfl, Table.nodup_insert hs.1 k e, ?_⟩
        show (s.entries.insert k e).keys ⊆ X
        rw [Table.keys_insert]
        split
        · exact hs.2
        · exact List.append_subset.mpr ⟨hs.2, by simpa using hk⟩
      get := fun _ hs => ⟨⟨_, rfl⟩, hs⟩
      remove := by
        intro c k s _ hs
        refine ⟨⟨_, rfl⟩, ?_⟩
        show (s.entries.erase k).keys.Nodup ∧ (s.entries.erase k).keys ⊆ X
        rw [Table.keys_erase]
        exact ⟨hs.1.filter _, fun a ha => hs.2 (List.mem_of_mem_filter ha)⟩
      clear := fun _ _ => ⟨rfl, List.nodup_nil, List.nil_subset X⟩ }
  remove {c k s X} hs := by
    show (s.entries.erase k).keys.Nodup ∧ (s.entries.erase k).keys ⊆ X.filter (· ≠ k)
    rw [Table.keys_erase]
    exact ⟨hs.1.filter _, List.filter_subset _ hs.2⟩
  clear _ := ⟨List.nodup_nil, List.nil_subset []⟩
  mono hs hXY := ⟨hs.1, fun a ha => hXY (hs.2 ha)⟩

section Layers

open Cache (Confines)

variable {σ : Type} {inner : Cache σ} {among : List Key → σ → Prop} (h : inner.Confines among)

include h

theorem Lru.confines : (Lru.cache inner).Confines fun X s => among X s.inner where
  upholds thread X := Lru.upholds (h.upholds thread X)
  remove hs := h.remove hs
  clear hs := h.clear hs
  mono hs hXY := h.mono hs hXY

theorem Fifo.confines : (Fifo.cache inner).Confines fun X s => among X s.inner where
  upholds thread X := Fifo.upholds (h.upholds thread X)
  remove hs := h.remove hs
  clear hs := h.clear hs
  mono hs hXY := h.mono hs hXY

theorem Logging.confines : (Logging.cache inner).Confines fun X s => among X s.inner where
  upholds thread X := Logging.upholds (h.upholds thread X)
  remove hs := h.remove hs
  clear hs := h.clear hs
  mono hs hXY := h.mono hs hXY

theorem Weak.confines : (Weak.cache inner).Confines fun X s => among X s.inner where
  upholds thread X := Weak.upholds (h.upholds thread X)
  remove {c k s X} hs := by
    have hsweep := Weak.sweep_upholds (h.upholds c.thread X) rfl Weak.sweepBatch hs
    unfold Weak.cache
    dsimp only
    unfold Weak.remove
    generalize Weak.sweep inner c Weak.sweepBatch s = swept at hsweep
    simp only [Reply.andThen, Reply.after, hsweep.1]
    exact h.remove hsweep.2
  clear hs := h.clear hs
  mono hs hXY := h.mono hs hXY

end Layers

/-! ### Evicting layers -/

/-- Moving a key to the front drops none. -/
theorem Lru.subset_front (k : Key) (order : List Key) : order ⊆ front k order := by
  intro a ha
  by_cases hak : a = k <;> simp [front, hak, ha]

/-- Moving a key to the front adds none. -/
theorem Lru.length_front_le {k : Key} {order : List Key} (hk : k ∈ order) :
    (front k order).length ≤ order.length := by
  have hlt : (order.filter (· ≠ k)).length < order.length := by
    rw [List.length_filter_lt_length_iff_exists]
    exact ⟨k, hk, by simp⟩
  rw [front, List.length_cons]
  omega

/-- Touching a key that was read keeps track of all keys. -/
theorem Lru.promote_spec (l : Lru) (k : Key) :
    (l.promote k).capacity = l.capacity ∧ (l.promote k).order.length ≤ l.order.length ∧
      l.order ⊆ (l.promote k).order := by
  unfold promote
  split
  · next hk => exact ⟨rfl, length_front_le hk, subset_front k l.order⟩
  · exact ⟨rfl, Nat.le_refl _, List.Subset.refl _⟩

/-- Touching a written key keeps track of it and gives up one other key at most. -/
theorem Lru.mem_record {l : Lru} (hl : l.order.length ≤ l.capacity.size) (k : Key) :
    (l.record k).2.capacity = l.capacity ∧ (l.record k).2.order.length ≤ l.capacity.size ∧
      k ∈ (l.record k).2.order ∧
      ∀ a ∈ l.order, (l.record k).1 = some a ∨ a ∈ (l.record k).2.order := by
  have hpos := l.capacity.pos
  unfold record
  by_cases hk : k ∈ l.order
  · simp only [if_pos hk]
    have hle := length_front_le hk
    exact ⟨trivial, by omega, List.mem_cons_self, fun a ha => .inr (subset_front k l.order ha)⟩
  · simp only [if_neg hk]
    split
    · next hroom => exact ⟨rfl, hroom, List.mem_cons_self, fun a ha => .inr (by simp [ha])⟩
    · refine ⟨rfl, ?_, List.mem_cons_self, fun a ha => ?_⟩
      · rw [List.length_cons, List.length_dropLast]
        omega
      · have hne : l.order ≠ [] := List.ne_nil_of_mem ha
        rw [← List.dropLast_concat_getLast hne] at ha
        rcases List.mem_append.mp ha with ha | ha
        · exact .inr (List.mem_cons_of_mem k ha)
        · rw [List.mem_singleton.mp ha]
          exact .inl (List.getLast?_eq_some_getLast hne)

/-- Queueing a written key keeps track of it and gives up one key at most. -/
theorem Fifo.mem_enqueue {f : Fifo} (hf : f.queue.length ≤ f.size) (hpos : 0 < f.size) (k : Key) :
    (f.enqueue k).2.size = f.size ∧ (f.enqueue k).2.queue.length ≤ f.size ∧
      k ∈ (f.enqueue k).2.queue ∧
      ∀ a ∈ f.queue, (f.enqueue k).1 = some a ∨ a ∈ (f.enqueue k).2.queue := by
  unfold enqueue
  dsimp only
  split
  · next hroom => exact ⟨rfl, hroom, by simp, fun a ha => .inr (by simp [ha])⟩
  · next hfull =>
    rw [List.length_append, List.length_singleton] at hfull
    cases hq : f.queue with
    | nil =>
      rw [hq, List.length_nil] at hfull
      omega
    | cons oldest rest =>
      rw [hq, List.length_cons] at hf
      refine ⟨rfl, by simpa using hf, by simp, fun a ha => ?_⟩
      rcases List.mem_cons.mp ha with rfl | ha
      · exact .inl rfl
      · exact .inr (by simp [ha])

section Evicting

open Cache (Confines)

variable {σ : Type} {inner : Cache σ} {among : List Key → σ → Prop} (h : inner.Confines among)
  {n thread : Nat}

/-- The store has none but the tracked keys, of which there are no more than the capacity. -/
def Lru.Bounds (among : List Key → σ → Prop) (n : Nat) (s : Over Lru σ) : Prop :=
  among s.own.order s.inner ∧ s.own.order.length ≤ n ∧ s.own.capacity.size = n

/-- The store has none but the queued keys, of which there are no more than the size. -/
def Fifo.Bounds (among : List Key → σ → Prop) (n : Nat) (s : Over Fifo σ) : Prop :=
  among s.own.queue s.inner ∧ s.own.queue.length ≤ n ∧ s.own.size = n

include h

/-- Evicting the least recently touched keys keeps the store within the capacity. -/
theorem Lru.upholds_bounds :
    (Lru.cache inner).Upholds thread (fun _ => True) (Lru.Bounds among n) where
  size {c s} hc hs := ⟨(h.upholds thread s.own.order).size hc hs.1, hs.2⟩
  put {c k e s} hc _ hs := by
    obtain ⟨hall, hlen, hcap⟩ := hs
    subst hcap
    obtain ⟨hcap, hlen', hk, hcover⟩ := Lru.mem_record hlen k
    have hput : (Lru.inside.reply c s fun c i => inner.put c k e i).value = .ok () ∧
        among (k :: s.own.order) (Lru.inside.reply c s fun c i => inner.put c k e i).state.inner ∧
        (Lru.inside.reply c s fun c i => inner.put c k e i).state.own = s.own := by
      obtain ⟨hv, hi⟩ := (h.upholds thread (k :: s.own.order)).put (k := k) (e := e)
        (c := c.holding (Lru.inside.held s)) hc List.mem_cons_self
        (h.mono hall (List.subset_cons_self k s.own.order))
      exact ⟨hv, hi, rfl⟩
    change (Lru.put inner c k e s).value = .ok () ∧
      Lru.Bounds among s.own.capacity.size (Lru.put inner c k e s).state
    unfold Lru.put
    generalize Lru.inside.reply c s (fun c i => inner.put c k e i) = written at hput
    obtain ⟨hv, hi, hown⟩ := hput
    simp only [Reply.andThen, Reply.after, hv, hown]
    obtain ⟨hstays, hremoved⟩ := h.after_write hi hk hcover
    split
    · next hnone => exact ⟨rfl, hstays (by simp [hnone]), hlen', congrArg Capacity.size hcap⟩
    · next eldest hsome =>
      split
      · next heq => exact ⟨rfl, hstays (by simp [hsome, heq]), hlen', congrArg Capacity.size hcap⟩
      · obtain ⟨⟨e, he⟩, _⟩ := (h.upholds thread (k :: s.own.order)).remove
          (c := c.holding fun _ => false) (k := eldest) hc hi
        refine ⟨congrArg (Except.map fun _ => ()) he, hremoved _ _ hsome, hlen', ?_⟩
        exact congrArg Capacity.size hcap
  get {c k s} hc hs := by
    obtain ⟨hall, hlen, hcap⟩ := hs
    obtain ⟨hcap', hlen', hsub⟩ := s.own.promote_spec k
    refine Run.Returns.within ((h.upholds thread (s.own.promote k).order).get
      (c := c.holding (Lru.inside.held s)) (k := k) hc (h.mono hall hsub)) ?_
    intro v i hi
    exact ⟨hi.1, hi.2, Nat.le_trans hlen' hlen, (congrArg Capacity.size hcap').trans hcap⟩
  remove {c k s} hc hs := by
    obtain ⟨hall, hlen, hcap⟩ := hs
    obtain ⟨hv, _⟩ := (h.upholds thread s.own.order).remove
      (c := c.holding (Lru.inside.held s)) (k := k) hc hall
    exact ⟨hv, h.remove hall, Nat.le_trans (List.length_filter_le _ _) hlen, hcap⟩
  clear {c s} hc hs := by
    obtain ⟨hall, _, hcap⟩ := hs
    obtain ⟨hv, _⟩ := (h.upholds thread s.own.order).clear
      (c := c.holding (Lru.inside.held s)) hc hall
    exact ⟨hv, h.clear hall, Nat.zero_le n, hcap⟩

/-- Evicting the keys written first keeps the store within the size. -/
theorem Fifo.upholds_bounds (hpos : 0 < n) :
    (Fifo.cache inner).Upholds thread (fun _ => True) (Fifo.Bounds among n) where
  size {c s} hc hs := ⟨(h.upholds thread s.own.queue).size hc hs.1, hs.2⟩
  put {c k e s} hc _ hs := by
    obtain ⟨hall, hlen, hsize⟩ := hs
    subst hsize
    obtain ⟨hsize, hlen', hk, hcover⟩ := Fifo.mem_enqueue hlen hpos k
    have hput : (Fifo.inside.reply c s fun c i => inner.put c k e i).value = .ok () ∧
        among (k :: s.own.queue) (Fifo.inside.reply c s fun c i => inner.put c k e i).state.inner ∧
        (Fifo.inside.reply c s fun c i => inner.put c k e i).state.own = s.own := by
      obtain ⟨hv, hi⟩ := (h.upholds thread (k :: s.own.queue)).put (k := k) (e := e)
        (c := c.holding (Fifo.inside.held s)) hc List.mem_cons_self
        (h.mono hall (List.subset_cons_self k s.own.queue))
      exact ⟨hv, hi, rfl⟩
    change (Fifo.put inner c k e s).value = .ok () ∧
      Fifo.Bounds among s.own.size (Fifo.put inner c k e s).state
    unfold Fifo.put
    generalize Fifo.inside.reply c s (fun c i => inner.put c k e i) = written at hput
    obtain ⟨hv, hi, hown⟩ := hput
    simp only [Reply.andThen, Reply.after, hv, hown]
    obtain ⟨hstays, hremoved⟩ := h.after_write hi hk hcover
    split
    · next hnone => exact ⟨rfl, hstays (by simp [hnone]), hlen', hsize⟩
    · next oldest hsome =>
      split
      · next heq => exact ⟨rfl, hstays (by simp [hsome, heq]), hlen', hsize⟩
      · obtain ⟨⟨e, he⟩, _⟩ := (h.upholds thread (k :: s.own.queue)).remove
          (c := c.holding fun _ => false) (k := oldest) hc hi
        exact ⟨congrArg (Except.map fun _ => ()) he, hremoved _ _ hsome, hlen', hsize⟩
  get {c k s} hc hs :=
    Run.Returns.within ((h.upholds thread s.own.queue).get
      (c := c.holding (Fifo.inside.held s)) (k := k) hc hs.1) fun _ _ hi => ⟨hi.1, hi.2, hs.2⟩
  remove {c k s} hc hs := by
    obtain ⟨hv, hi⟩ := (h.upholds thread s.own.queue).remove
      (c := c.holding (Fifo.inside.held s)) (k := k) hc hs.1
    exact ⟨hv, hi, hs.2⟩
  clear {c s} hc hs := by
    obtain ⟨hall, _, hsize⟩ := hs
    obtain ⟨hv, _⟩ := (h.upholds thread s.own.queue).clear
      (c := c.holding (Fifo.inside.held s)) hc hall
    exact ⟨hv, h.clear hall, Nat.zero_le n, hsize⟩

end Evicting

namespace Stack

/-- Without key locks and layers that may refuse calls, the keys of a stack are those written. -/
theorem confines (ls : List Layer) (hp : .probe ∉ ls) (hb : .blocking ∉ ls) :
    (cache ls).Confines fun X s => (store ls s).Among X := by
  induction ls with
  | nil => exact Store.confines
  | cons l ls ih =>
    have hi := ih (fun hm => hp (List.mem_cons_of_mem l hm)) fun hm =>
      hb (List.mem_cons_of_mem l hm)
    cases l with
    | lru => exact Lru.confines hi
    | fifo => exact Fifo.confines hi
    | weak => exact Weak.confines hi
    | logging => exact Logging.confines hi
    | blocking => exact absurd List.mem_cons_self hb
    | probe => exact absurd List.mem_cons_self hp

/-- The size of a stack is the number of entries that asking for it leaves in the store. -/
theorem value_size (ls : List Layer) (c : Caller) (s : State ls) :
    ((cache ls).size c s).value = (store ls ((cache ls).size c s).state).entries.size := by
  induction ls generalizing c with
  | nil => rfl
  | cons l ls ih =>
    cases l with
    | weak =>
      show (Weak.size (cache ls) c s).value =
        (store ls (Weak.size (cache ls) c s).state.inner).entries.size
      exact ih _ _
    | lru | fifo | logging | blocking | probe => exact ih _ s.inner

variable {thread n : Nat} {name : String}

/-- An evicting layer without key locks inside bounds its stack. -/
theorem keeps_of_capacity {x : Setup} {inner : List Setup} (hn : x.capacity? = some n)
    (hpos : 0 < n) (hb : .blocking ∉ Setup.layers inner) :
    Keeps thread name (x :: inner) fun s => s.entries.size ≤ n := by
  have hinner := confines (Setup.layers inner) (Setup.probe_not_mem_layers inner) hb
  have hstart : (store (Setup.layers inner) (laid name inner)).Among [] := by
    have hempty (xs : List Setup) : (store (Setup.layers xs) (laid name xs)).entries = .empty := by
      induction xs with
      | nil => rfl
      | cons x xs ih => exact ih
    unfold Store.Among
    rw [hempty]
    exact ⟨List.nodup_nil, List.nil_subset []⟩
  cases x with
  | lru capacity =>
    injection hn with hn
    refine ⟨_, Lru.upholds_bounds hinner (n := n), ⟨hstart, Nat.zero_le n, hn⟩, fun s hs => ?_⟩
    exact Nat.le_trans hs.1.size_le hs.2.1
  | fifo size =>
    injection hn with hn
    refine ⟨_, Fifo.upholds_bounds hinner hpos, ⟨hstart, Nat.zero_le n, hn⟩, fun s hs => ?_⟩
    exact Nat.le_trans hs.1.size_le hs.2.1
  | weak hardLinks => exact nomatch hn
  | logging => exact nomatch hn
  | blocking timeout => exact nomatch hn

/-- Wherever an evicting layer stands in a stack, and whatever stands around it: as long as there
are no key locks inside it, one thread's calls neither wait nor fail, and after any of them there
are no more entries than the capacity of the layer. -/
theorem size_le_capacity (name : String) (outer inner : List Setup) {x : Setup} {n : Nat}
    (hn : x.capacity? = some n) (hpos : 0 < n) (hb : .blocking ∉ Setup.layers inner)
    {thread : Nat} (calls : List (Caller × Demand)) (hcalls : ∀ y ∈ calls, y.1.thread = thread) :
    ∃ r, (cache (Setup.layers (outer ++ x :: inner))).askAll calls
        (laid name (outer ++ x :: inner)) = .done r ∧
      (∀ a ∈ r.value, ∃ b, a = .ok b) ∧
      ∀ c, c.thread = thread →
        ((cache (Setup.layers (outer ++ x :: inner))).size c r.state).value ≤ n := by
  have hkeeps : Keeps thread name (outer ++ x :: inner) fun s => s.entries.size ≤ n := by
    induction outer with
    | nil => exact keeps_of_capacity hn hpos hb
    | cons y outer ih => exact ih.cons y
  obtain ⟨inv, hinv, hstart, hle⟩ := hkeeps
  obtain ⟨r, hr, hok, hs⟩ := (hinv.askAll calls hcalls hstart).done
  refine ⟨r, hr, hok, fun c hc => ?_⟩
  rw [value_size]
  exact hle _ (hinv.size hc hs)

/-- Three writes, of which the first is read again in between. -/
def threeWrites : List (Caller × Demand) :=
  [({}, .put {} .null), ({}, .put { hashcode := 1 } (.rows ⟨1, []⟩)), ({}, .get {}),
    ({}, .put { hashcode := 2 } .null)]

/-- Two entries are left of three under a layer of capacity two, which has key locks and weak
entries around it and a larger queue inside. -/
theorem size_le_capacity_between :
    ∃ r, (cache (Setup.layers
        ([.blocking none, .weak 1] ++ .lru (.atLeastOne 2) :: [.logging, .fifo 3]))).askAll
        threeWrites
        (laid "users" ([.blocking none, .weak 1] ++ .lru (.atLeastOne 2) :: [.logging, .fifo 3])) =
          .done r ∧
      (∀ a ∈ r.value, ∃ b, a = .ok b) ∧
      ((cache (Setup.layers
        ([.blocking none, .weak 1] ++ .lru (.atLeastOne 2) :: [.logging, .fifo 3]))).size {}
          r.state).value ≤ 2 := by
  obtain ⟨r, hr, hok, hle⟩ := size_le_capacity "users" [.blocking none, .weak 1] [.logging, .fifo 3]
    (x := .lru (.atLeastOne 2)) rfl (by decide) (by decide) threeWrites
    (show ∀ y ∈ threeWrites, y.1.thread = 0 by simp [threeWrites])
  exact ⟨r, hr, hok, hle {} rfl⟩

/-- With key locks inside, a layer of capacity one leaves two entries: what it gives up is
unlocked and stays. -/
theorem size_exceeds_capacity :
    ((cache (Setup.layers [.lru (.atLeastOne 1), .blocking none])).askAll
      [({}, .put {} .null), ({}, .put { hashcode := 1 } .null), ({}, .size)]
      (laid "users" [.lru (.atLeastOne 1), .blocking none])).reply?.map (·.value) =
        some [.ok .done, .ok .done, .ok (.count 2)] := rfl

end Stack

end QueryCache
