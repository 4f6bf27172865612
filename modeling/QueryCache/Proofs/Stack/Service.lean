import QueryCache.Proofs.Stack.Built
import QueryCache.Proofs.Stack.LockTable
import QueryCache.Proofs.Stack.Usage

/-!
# Stacks that serve one thread

No layer but that of the key locks can make a caller wait, and none refuses a call. A stack
with key locks outside answers a thread at once as long as all locks are its own; it owns
the locks of the keys it looked up in vain and has neither written nor given up since.
-/

namespace QueryCache

namespace Cache

variable {σ : Type}

/-- A cache that never waits and never fails. -/
structure Smooth (cache : Cache σ) : Prop where
  put : ∀ c k e s, (cache.put c k e s).value = .ok ()
  get : ∀ c k s, (cache.get c k s).Returns fun v _ => ∃ e, v = .ok e
  remove : ∀ c k s, ∃ e, (cache.remove c k s).value = .ok e
  clear : ∀ c s, (cache.clear c s).value = .ok ()

/-- A cache that neither waits nor fails as long as nobody but the calling thread owns
locks, and these only of the given keys. -/
structure Serves (cache : Cache σ) (locked : Nat → (Key → Prop) → σ → Prop) : Prop where
  put : ∀ {c k e s M}, locked c.thread M s → (cache.put c k e s).value = .ok () ∧
    locked c.thread (fun a => M a ∧ a ≠ k) (cache.put c k e s).state
  get : ∀ {c k s M}, locked c.thread M s → (cache.get c k s).Returns fun v s' =>
    ∃ e : Option Entry, v = .ok e ∧
      locked c.thread (fun a => M a ∨ (a = k ∧ e.all (·.isNull) = true)) s'
  remove : ∀ {c k s M}, locked c.thread M s → (∃ e, (cache.remove c k s).value = .ok e) ∧
    locked c.thread (fun a => M a ∧ a ≠ k) (cache.remove c k s).state
  clear : ∀ {c s M}, locked c.thread M s → (cache.clear c s).value = .ok () ∧
    locked c.thread M (cache.clear c s).state
  mono : ∀ {thread s M M'}, locked thread M s → (∀ a, M a → M' a) → locked thread M' s
  free : ∀ {thread s}, locked thread (fun _ => False) s →
    ∀ other, locked other (fun _ => False) s

/-- A cache is smooth that every thread may use at will. -/
theorem Upholds.smooth {cache : Cache σ}
    (h : ∀ thread, cache.Upholds thread (fun _ => True) fun _ => True) : cache.Smooth where
  put c _ _ _ := ((h c.thread).put rfl True.intro True.intro).1
  get c _ _ := ((h c.thread).get rfl True.intro).mono fun _ _ hv => hv.1
  remove c _ _ := ((h c.thread).remove rfl True.intro).1
  clear c _ := ((h c.thread).clear rfl True.intro).1

/-- Without locks there is nothing to wait for. -/
theorem Smooth.serves {cache : Cache σ} (h : cache.Smooth) :
    cache.Serves fun _ _ _ => True where
  put _ := ⟨h.put _ _ _ _, True.intro⟩
  get _ := (h.get _ _ _).mono fun v s' hv => by
    obtain ⟨e, he⟩ := hv
    exact ⟨e, he, True.intro⟩
  remove _ := ⟨h.remove _ _ _, True.intro⟩
  clear _ := ⟨h.clear _ _, True.intro⟩
  mono _ _ := True.intro
  free _ _ := True.intro

end Cache

/-- Any thread may use the store at will. -/
theorem Store.upholds_true (thread : Nat) :
    Store.cache.Upholds thread (fun _ => True) fun _ => True where
  size _ _ := True.intro
  put _ _ _ := ⟨rfl, True.intro⟩
  get _ _ := ⟨⟨_, rfl⟩, True.intro⟩
  remove _ _ := ⟨⟨_, rfl⟩, True.intro⟩
  clear _ _ := ⟨rfl, True.intro⟩

/-! ### Key locks -/

namespace Blocking

/-- No lock is owned but by the thread, and these only of the given keys. -/
def OwnedBy (thread : Nat) (keys : Key → Prop) (b : Blocking) : Prop :=
  ∀ k l, b.locks.get? k = some l → l.owner = none ∨ (l.owner = some thread ∧ keys k)

variable {thread : Nat} {keys : Key → Prop} {b : Blocking}

/-- A lock that does not exist has no owner. -/
theorem ownedBy_iff : b.OwnedBy thread keys ↔
    ∀ k, (b.lockOf k).owner = none ∨ ((b.lockOf k).owner = some thread ∧ keys k) := by
  unfold OwnedBy lockOf
  refine forall_congr' fun k => ?_
  cases b.locks.get? k with
  | none => simp
  | some l => simp

variable (h : b.OwnedBy thread keys)

include h

theorem OwnedBy.mono {keys' : Key → Prop} (hk : ∀ k, keys k → keys' k) :
    b.OwnedBy thread keys' :=
  fun k l hl => (h k l hl).imp_right fun ho => ⟨ho.1, hk k ho.2⟩

/-- The thread need not wait. -/
theorem OwnedBy.claimable (k : Key) : b.claimable thread k = true :=
  claimable_iff.mpr ((ownedBy_iff.mp h k).imp_right And.left)

theorem OwnedBy.claim (k : Key) :
    (b.claim thread k).OwnedBy thread fun a => keys a ∨ a = k := by
  refine ownedBy_iff.mpr fun a => ?_
  rw [lockOf_claim]
  split
  · next hk => exact .inr ⟨rfl, .inr hk.symm⟩
  · exact (ownedBy_iff.mp h a).imp_right fun ho => ⟨ho.1, .inl ho.2⟩

theorem OwnedBy.release (k : Key) :
    (b.release thread k).OwnedBy thread fun a => keys a ∧ a ≠ k := by
  refine ownedBy_iff.mpr fun a => ?_
  rw [lockOf_release]
  split
  · exact .inl rfl
  · next hno =>
    refine (ownedBy_iff.mp h a).imp_right fun ho => ⟨ho.1, ho.2, ?_⟩
    rintro rfl
    exact hno ⟨rfl, ho.1⟩

omit h

/-- Locks that nobody owns are owned by any thread as well. -/
theorem OwnedBy.free (h : b.OwnedBy thread fun _ => False) (other : Nat) :
    b.OwnedBy other fun _ => False :=
  fun k l hl => .inl ((h k l hl).resolve_right fun ho => ho.2)

/-- Settling a lookup changes neither its answer nor the cache inside, and keeps the lock of the
key only if the lookup came to nothing. -/
theorem settle_returns {σ : Type} {k : Key} {s : Over Blocking σ}
    (hs : s.own.OwnedBy thread fun a => keys a ∨ a = k) (c : Caller)
    (r : Except CacheFailure (Option Entry)) :
    (settle thread k c r s).Returns fun v s' => v = r ∧ s'.inner = s.inner ∧
      s'.own.OwnedBy thread fun a =>
        keys a ∨ (a = k ∧ ∃ e : Option Entry, r = .ok e ∧ e.all (·.isNull) = true) := by
  unfold settle
  split
  · exact ⟨rfl, rfl, hs.mono fun a ha => ha.imp_right fun hk => ⟨hk, none, rfl, rfl⟩⟩
  · exact ⟨rfl, rfl, hs.mono fun a ha => ha.imp_right fun hk => ⟨hk, some .null, rfl, rfl⟩⟩
  · exact ⟨rfl, rfl, (hs.release k).mono fun a ha => .inl (ha.1.resolve_right ha.2)⟩

/-- Where no other thread owns a lock, a lookup ends as the one inside does, and the thread comes
to own the lock of the key only if it came to nothing. -/
theorem get_returns {σ : Type} {inner : Cache σ} {c : Caller} {k : Key} {s : Over Blocking σ}
    {ended : Except CacheFailure (Option Entry) → σ → Prop} (hs : s.own.OwnedBy c.thread keys)
    (h : (inner.get (c.holding fun _ => false) k s.inner).Returns ended) :
    (get inner c k s).Returns fun v s' => ended v s'.inner ∧ s'.own.OwnedBy c.thread fun a =>
      keys a ∨ (a = k ∧ ∃ e : Option Entry, v = .ok e ∧ e.all (·.isNull) = true) := by
  have hclaimed : (inside.run c { s with own := s.own.claim c.thread k }
      fun c i => inner.get c k i).Returns fun v s' =>
        ended v s'.inner ∧ s'.own = s.own.claim c.thread k :=
    Run.Returns.within h fun _ _ hv => ⟨hv, rfl⟩
  rw [get, if_pos (hs.claimable k), fetch]
  refine hclaimed.andThen fun c' v s' hv => ?_
  have howned : s'.own.OwnedBy c.thread fun a => keys a ∨ a = k := by
    rw [hv.2]
    exact hs.claim k
  refine (settle_returns howned c' v).mono fun w s'' hw => ?_
  rw [hw.1, hw.2.1]
  exact ⟨hv.1, hw.2.2⟩

/-- Locking keys serves the thread that owns the locks. -/
theorem serves {σ : Type} {inner : Cache σ} (hi : inner.Smooth) :
    (Blocking.cache inner).Serves fun thread keys s => s.own.OwnedBy thread keys where
  put {c k e s M} hl := by
    refine ⟨hi.put _ k e s.inner, ?_⟩
    exact hl.release k
  get {c k s M} hl := by
    refine (get_returns hl (hi.get (c.holding fun _ => false) k s.inner)).mono fun v s' hv => ?_
    obtain ⟨⟨e, rfl⟩, howned⟩ := hv
    refine ⟨e, rfl, howned.mono fun a ha => ha.imp_right fun hk => ?_⟩
    obtain ⟨rfl, e', he, hnull⟩ := hk
    cases he
    exact ⟨rfl, hnull⟩
  remove {c k s M} hl := ⟨⟨none, rfl⟩, hl.release k⟩
  clear {c s M} hl := ⟨hi.clear _ s.inner, hl⟩
  mono hl hk := hl.mono hk
  free hl other := hl.free other

/-- A thread may use a cache at will behind locks that nobody else owns. -/
theorem upholds {σ : Type} {inner : Cache σ} {keys : Key → Prop} {inv : σ → Prop}
    (h : inner.Upholds thread keys inv) :
    (Blocking.cache inner).Upholds thread keys fun s =>
      s.own.OwnedBy thread (fun _ => True) ∧ inv s.inner where
  size hc hs := ⟨hs.1, h.size hc hs.2⟩
  put {c k e s} hc hk hs := by
    obtain ⟨hv, hi⟩ := h.put (c := c.holding (inside.held s)) (e := e) hc hk hs.2
    subst hc
    exact ⟨hv, (hs.1.release k).mono fun _ _ => True.intro, hi⟩
  get {c k s} hc hs := by
    subst hc
    have hget := get_returns hs.1 (h.get (c := c.holding fun _ => false) (k := k) rfl hs.2)
    exact hget.mono fun v s' hv => ⟨hv.1.1, hv.2.mono fun _ _ => True.intro, hv.1.2⟩
  remove {c k s} hc hs := by
    subst hc
    exact ⟨⟨none, rfl⟩, (hs.1.release k).mono fun _ _ => True.intro, hs.2⟩
  clear {c s} hc hs := by
    obtain ⟨hv, hi⟩ := h.clear (c := c.holding (inside.held s)) hc hs.2
    exact ⟨hv, hs.1, hi⟩

end Blocking

namespace Stack

/-- Every stack is smooth that has neither key locks nor a layer that may refuse calls. -/
theorem smooth (ls : List Layer) (hp : .probe ∉ ls) (hb : .blocking ∉ ls) :
    (cache ls).Smooth := by
  exact Cache.Upholds.smooth fun thread => upholds (Store.upholds_true thread) ls hp hb

/-- A thread may use a stack of these layers at will, from the first use on, and something is
always true of its store. -/
def Keeps (thread : Nat) (name : String) (xs : List Setup) (good : Store → Prop) : Prop :=
  ∃ inv : State (Setup.layers xs) → Prop,
    (cache (Setup.layers xs)).Upholds thread (fun _ => True) inv ∧ inv (laid name xs) ∧
      ∀ s, inv s → good (store (Setup.layers xs) s)

/-- A further layer outside leaves what is true of the store. -/
theorem Keeps.cons {thread : Nat} {name : String} {xs : List Setup} {good : Store → Prop}
    (h : Keeps thread name xs good) (x : Setup) : Keeps thread name (x :: xs) good := by
  obtain ⟨inv, hinv, hstart, hgood⟩ := h
  cases x with
  | lru capacity => exact ⟨_, Lru.upholds hinv, hstart, fun s hs => hgood s.inner hs⟩
  | fifo size => exact ⟨_, Fifo.upholds hinv, hstart, fun s hs => hgood s.inner hs⟩
  | weak hardLinks => exact ⟨_, Weak.upholds hinv, hstart, fun s hs => hgood s.inner hs⟩
  | logging => exact ⟨_, Logging.upholds hinv, hstart, fun s hs => hgood s.inner hs⟩
  | blocking timeout =>
    exact ⟨_, Blocking.upholds hinv, ⟨nofun, hstart⟩, fun s hs => hgood s.inner hs.2⟩

/-- A thread may use every stack at will. -/
theorem keeps_true (thread : Nat) (name : String) (xs : List Setup) :
    Keeps thread name xs fun _ => True := by
  induction xs with
  | nil => exact ⟨_, Store.upholds_true thread, True.intro, fun _ _ => True.intro⟩
  | cons x xs ih => exact ih.cons x

/-- No lock of the outermost layer is owned but by the thread, and these only of the given
keys. -/
def LockedBy : (ls : List Layer) → Nat → (Key → Prop) → State ls → Prop
  | .blocking :: _, thread, keys, s => Blocking.OwnedBy thread keys s.own
  | _, _, _, _ => True

/-- A stack whose key locks, if it has any, are outside serves the thread that owns them. -/
theorem serves (ls : List Layer) (hp : .probe ∉ ls) (hb : .blocking ∉ ls.tail) :
    (cache ls).Serves (LockedBy ls) := by
  cases ls with
  | nil => exact (smooth [] hp hb).serves
  | cons l ls =>
    by_cases hl : l = .blocking
    · subst hl
      exact Blocking.serves (smooth ls (fun hm => hp (List.mem_cons_of_mem _ hm)) hb)
    · have hall : (cache (l :: ls)).Smooth := by
        refine smooth (l :: ls) hp fun hm => ?_
        rcases List.mem_cons.mp hm with heq | hm
        · exact hl heq.symm
        · exact hb hm
      cases l with
      | blocking => exact absurd rfl hl
      | lru => exact hall.serves
      | fifo => exact hall.serves
      | weak => exact hall.serves
      | logging => exact hall.serves
      | probe => exact hall.serves

end Stack

namespace Profile

variable (p : Profile) (name : String)

/-- A profile asks for key locks outside or not at all. -/
theorem blocking_outside : .blocking ∉ (p.build name).layers.tail := by
  unfold build evicting
  cases p.eviction <;> cases p.logging <;> cases p.blocking <;> simp [Stack.push, Stack.ofStore]

/-- The locks of a profile without key locks are those of any thread. -/
theorem lockedBy_of_not_blocking (hb : p.blocking = false) (thread : Nat) (keys : Key → Prop)
    (s : Stack.State (p.build name).layers) : Stack.LockedBy _ thread keys s := by
  have hl : .blocking ∉ (p.build name).layers := by
    unfold build evicting
    rw [hb]
    cases p.eviction <;> cases p.logging <;> simp [Stack.push, Stack.ofStore]
  generalize (p.build name).layers = ls at hl s
  unfold Stack.LockedBy
  split
  · exact absurd List.mem_cons_self hl
  · exact True.intro

/-- A built stack has no locks. -/
theorem lockedBy_build (thread : Nat) :
    Stack.LockedBy _ thread (fun _ => False) (p.build name).state := by
  cases hb : p.blocking with
  | false => exact p.lockedBy_of_not_blocking name hb thread _ _
  | true =>
    have hbuild : ∃ s : Stack, p.build name = s.push .blocking (.withTimeout p.timeout) := by
      unfold build
      rw [if_pos hb]
      exact ⟨_, rfl⟩
    obtain ⟨s, hbuild⟩ := hbuild
    rw [hbuild]
    exact fun k l hl => nomatch hl

end Profile

end QueryCache
