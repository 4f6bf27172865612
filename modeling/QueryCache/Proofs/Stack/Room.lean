import QueryCache.Proofs.Stack.Answers
import QueryCache.Proofs.Stack.Tracking

/-!
# Making room

The layers that evict keys write alike: the cache inside gets the entry first, then the layer enters
the key and gives up another one, if it has come to keep track of too many, and this one is removed
inside. `makeRoom` is such a write. The layers differ in how they enter a key.

`Written` is what such a write comes to over a cache that may refuse any call. Over the store itself
nothing is refused, and `makeRoom_store` gives the reply.
-/

namespace QueryCache

section Room

variable {ο σ : Type}

/-- Remove a key inside that was given up. -/
def giveUp (event : String → Key → Event) (inner : Cache σ) (c : Caller) (k : Key)
    (s : Over ο σ) : Reply (Over ο σ) (Except CacheFailure Unit) :=
  let id := inner.id s.inner
  (((Over.plain : Part (Over ο σ) σ).reply c s fun c i => inner.remove c k i).map
    fun r => r.map fun _ => ()).after [.event (event id k), .count .eviction id]

/-- Write inside, then enter the key, and evict the key that leaves for it unless it is the written
key itself. -/
def makeRoom (enter : ο → Key → Option Key × ο) (event : String → Key → Event) (inner : Cache σ)
    (c : Caller) (k : Key) (e : Entry) (s : Over ο σ) :
    Reply (Over ο σ) (Except CacheFailure Unit) :=
  ((Over.plain : Part (Over ο σ) σ).reply c s fun c i => inner.put c k e i).andThen fun r s =>
    match r with
    | .error f => ⟨.error f, s, []⟩
    | .ok () =>
      let (gone?, own) := enter s.own k
      let s := { s with own }
      match gone? with
      | none => ⟨.ok (), s, []⟩
      | some x => if x = k then ⟨.ok (), s, []⟩ else giveUp event inner c x s

theorem Lru.put_eq_makeRoom (inner : Cache σ) :
    Lru.put inner = makeRoom record .lruEviction inner := rfl

theorem Fifo.put_eq_makeRoom (inner : Cache σ) :
    Fifo.put inner = makeRoom enqueue .fifoEviction inner := rfl

/-- The key that is given up for another one. -/
def givenUp (enter : ο → Key → Option Key × ο) (own : ο) (k : Key) : Option Key :=
  (enter own k).1.filter (· ≠ k)

theorem givenUp_eq_some {enter : ο → Key → Option Key × ο} {own : ο} {k x : Key} :
    givenUp enter own k = some x ↔ (enter own k).1 = some x ∧ x ≠ k := by
  rw [givenUp, Option.filter_eq_some_iff, decide_eq_true_eq]

/-- If no key is given up, none leaves but the written key itself. -/
theorem eq_of_givenUp_eq_none {enter : ο → Key → Option Key × ο} {own : ο} {k x : Key}
    (h : givenUp enter own k = none) (hx : (enter own k).1 = some x) : x = k := by
  by_contra hne
  exact nomatch h.symm.trans (givenUp_eq_some.mpr ⟨hx, hne⟩)

/-- What a write comes to that makes room: it is refused inside, and all is as before; or the key is
entered, and no other one is given up, or one that is removed, or one whose removal is refused. -/
inductive Written (enter : ο → Key → Option Key × ο) (stored : σ → Key → Option Entry) (k : Key)
    (e : Entry) (s s' : Over ο σ) : Except CacheFailure Unit → Prop
  | refused {f : CacheFailure} (hown : s'.own = s.own)
      (hstored : stored s'.inner = stored s.inner) :
      Written enter stored k e s s' (.error f)
  | entered (hown : s'.own = (enter s.own k).2) (hgone : givenUp enter s.own k = none)
      (hstored : ∀ a, stored s'.inner a = if k = a then some e else stored s.inner a) :
      Written enter stored k e s s' (.ok ())
  | evicted {x : Key} (hown : s'.own = (enter s.own k).2) (hgone : givenUp enter s.own k = some x)
      (hstored : ∀ a, stored s'.inner a =
        if x = a then none else if k = a then some e else stored s.inner a) :
      Written enter stored k e s s' (.ok ())
  | left {x : Key} {f : CacheFailure} (hown : s'.own = (enter s.own k).2)
      (hgone : givenUp enter s.own k = some x)
      (hstored : ∀ a, stored s'.inner a = if k = a then some e else stored s.inner a) :
      Written enter stored k e s s' (.error f)

variable {enter : ο → Key → Option Key × ο} {event : String → Key → Event} {inner : Cache σ}
  {stored : σ → Key → Option Entry}

/-- A key that was given up is removed inside, or the removal is refused. -/
theorem giveUp_lands (event : String → Key → Event) (h : inner.Fallible stored) (c : Caller)
    (k : Key) (s : Over ο σ) :
    (giveUp event inner c k s).state.own = s.own ∧
      Cache.Lands stored s.inner () (fun a => if k = a then none else stored s.inner a)
        (giveUp event inner c k s).value (giveUp event inner c k s).state.inner := by
  refine ⟨rfl, ?_⟩
  rcases h.remove (c.holding fun _ => false) k s.inner with ⟨hvalue, hleft⟩ | ⟨⟨f, hvalue⟩, hleft⟩
  · exact .inl ⟨congrArg (Except.map fun _ => ()) hvalue, hleft⟩
  · exact .inr ⟨⟨f, congrArg (Except.map fun _ => ()) hvalue⟩, hleft⟩

theorem makeRoom_written (h : inner.Fallible stored) (c : Caller) (k : Key) (e : Entry)
    (s : Over ο σ) : Written enter stored k e s (makeRoom enter event inner c k e s).state
      (makeRoom enter event inner c k e s).value := by
  have hput : Cache.Lands stored s.inner () _
      ((Over.plain : Part (Over ο σ) σ).reply c s fun c i => inner.put c k e i).value
      ((Over.plain : Part (Over ο σ) σ).reply c s fun c i => inner.put c k e i).state.inner :=
    h.put (c.holding fun _ => false) k e s.inner
  have hown : ((Over.plain : Part (Over ο σ) σ).reply c s fun c i => inner.put c k e i).state.own =
      s.own := rfl
  unfold makeRoom
  generalize (Over.plain : Part (Over ο σ) σ).reply c s (fun c i => inner.put c k e i) = written
    at hput hown
  unfold Reply.andThen Reply.after
  dsimp only
  rcases hput with ⟨hvalue, hleft⟩ | ⟨⟨f, hvalue⟩, hleft⟩
  · rw [hvalue]
    dsimp only
    rw [hown]
    cases hgone : (enter s.own k).1 with
    | none => exact .entered rfl (by rw [givenUp, hgone]; rfl) (congrFun hleft)
    | some x =>
      dsimp only
      by_cases hx : x = k
      · rw [if_pos hx]
        exact .entered rfl (by simp [givenUp, hgone, hx]) (congrFun hleft)
      · rw [if_neg hx]
        have hgiven : givenUp enter s.own k = some x := givenUp_eq_some.mpr ⟨hgone, hx⟩
        obtain ⟨hkept, hremoved⟩ := giveUp_lands event h c x
          (⟨(enter s.own k).2, written.state.inner⟩ : Over ο σ)
        rcases hremoved with ⟨hvalue, hgone⟩ | ⟨⟨f, hvalue⟩, hgone⟩
        · rw [hvalue]
          refine .evicted hkept hgiven fun a => ?_
          rw [hgone, hleft]
        · rw [hvalue]
          refine .left hkept hgiven fun a => ?_
          rw [hgone, hleft]
  · rw [hvalue]
    exact .refused hown hleft

/-- A write that is refused inside changes nothing. -/
theorem makeRoom_refused (h : inner.Fallible stored) {c : Caller} {k : Key} {e : Entry}
    {s : Over ο σ} {f : CacheFailure} (hf : (inner.put c k e s.inner).value = .error f) :
    (makeRoom enter event inner c k e s).value = .error f ∧
      (makeRoom enter event inner c k e s).state.own = s.own ∧
      stored (makeRoom enter event inner c k e s).state.inner = stored s.inner := by
  have hput := h.put c k e s.inner
  have hreply : (Over.plain : Part (Over ο σ) σ).reply c s (fun c i => inner.put c k e i) =
      ⟨(inner.put c k e s.inner).value, ⟨s.own, (inner.put c k e s.inner).state⟩,
        (inner.put c k e s.inner).notes⟩ := by
    show (inner.put (c.holding fun _ => false) k e s.inner).within _ _ = _
    rw [c.holding_none]
    rfl
  unfold makeRoom
  rw [hreply]
  unfold Reply.andThen
  dsimp only
  rw [hf] at hput ⊢
  exact ⟨rfl, rfl, (hput.resolve_left fun hok => nomatch hok.1).2⟩

/-- Over the store, a write is refused nothing. -/
theorem makeRoom_store (enter : ο → Key → Option Key × ο) (event : String → Key → Event)
    (c : Caller) (k : Key) (e : Entry) (s : Over ο Store) :
    makeRoom enter event Store.cache c k e s =
      match givenUp enter s.own k with
      | none =>
        ⟨.ok (), ⟨(enter s.own k).2, { s.inner with entries := s.inner.entries.insert k e }⟩, []⟩
      | some x =>
        ⟨.ok (), ⟨(enter s.own k).2,
            { s.inner with entries := (s.inner.entries.insert k e).erase x }⟩,
          [.event (event s.inner.name x), .count .eviction s.inner.name]⟩ := by
  have hinside : (Over.plain : Part (Over ο Store) Store).reply c s
      (fun c i => Store.cache.put c k e i) =
        ⟨.ok (), ⟨s.own, { s.inner with entries := s.inner.entries.insert k e }⟩, []⟩ := rfl
  unfold makeRoom givenUp
  rw [hinside]
  unfold Reply.andThen
  dsimp only
  cases (enter s.own k).1 with
  | none => rfl
  | some x =>
    dsimp only
    by_cases hx : x = k
    · rw [if_pos hx]
      simp [Option.filter, hx, Reply.after]
    · rw [if_neg hx]
      simp only [Option.filter, hx, decide_true, ne_eq, not_false_eq_true, if_true]
      rfl

end Room

end QueryCache
