import QueryCache.Proofs.Stack.Service

/-!
# Caches that do not ask who holds rows

Which row lists are kept alive elsewhere matters to weak entries only. Every other layer hands the
caller on to the cache inside and does not look, so a stack without weak entries does the same for
two callers of whom one has more row lists kept alive than the other.
-/

namespace QueryCache

variable {σ τ α β : Type}

/-- An operation does not look at which row lists its caller says are kept alive. -/
def IgnoresHeld (f : Caller → σ → α) : Prop := ∀ c held s, f (c.holding held) s = f c s

/-- Nor does an operation on a part, whatever the rest keeps alive. -/
theorem Part.reply_holding {p : Part τ σ} {f : Caller → σ → Reply σ α} (hf : IgnoresHeld f)
    (c : Caller) (held : RowsId → Bool) (t : τ) :
    p.reply (c.holding held) t f = p.reply c t f := by
  unfold Part.reply
  rw [hf, hf, hf]

theorem Part.run_holding {p : Part τ σ} {f : Caller → σ → Run σ α} (hf : IgnoresHeld f)
    (c : Caller) (held : RowsId → Bool) (t : τ) :
    p.run (c.holding held) t f = p.run c t f := by
  unfold Part.run
  rw [hf, hf, hf]

/-- What follows a run is told its caller only if the run did not wait. -/
theorem Run.andThen_holding {next : Caller → α → σ → Run σ β}
    (hn : ∀ c held a s, next (c.holding held) a s = next c a s) (c : Caller)
    (held : RowsId → Bool) (run : Run σ α) :
    run.andThen (c.holding held) next = run.andThen c next := by
  cases run with
  | done r =>
    unfold andThen
    rw [hn]
  | wait d s n ready resume => rfl

namespace Cache

/-- A cache that does not look at which row lists are kept alive elsewhere. -/
structure Heedless (cache : Cache σ) : Prop where
  size : IgnoresHeld cache.size
  put : ∀ k e, IgnoresHeld fun c s => cache.put c k e s
  get : ∀ k, IgnoresHeld fun c s => cache.get c k s
  remove : ∀ k, IgnoresHeld fun c s => cache.remove c k s
  clear : IgnoresHeld cache.clear

/-- Nor do the calls on it. -/
theorem Heedless.ask {cache : Cache σ} (h : cache.Heedless) (d : Demand) (c : Caller)
    (held : RowsId → Bool) (s : σ) : cache.ask (c.holding held) s d = cache.ask c s d := by
  unfold Cache.ask
  cases d with
  | put k e => exact congrArg _ (congrArg _ (h.put k e c held s))
  | get k => exact congrArg _ (h.get k c held s)
  | remove k => exact congrArg _ (congrArg _ (h.remove k c held s))
  | clear => exact congrArg _ (congrArg _ (h.clear c held s))
  | size => exact congrArg _ (congrArg _ (h.size c held s))

end Cache

theorem Store.heedless : Store.cache.Heedless where
  size _ _ _ := rfl
  put _ _ _ _ _ := rfl
  get _ _ _ _ := rfl
  remove _ _ _ _ := rfl
  clear _ _ _ := rfl

/-! ### Layers that hand the caller on -/

section Layers

variable {inner : Cache σ} (h : inner.Heedless)

include h

theorem Lru.heedless : (Lru.cache inner).Heedless where
  size c held s := Part.reply_holding h.size c held s
  put k e c held s := by
    have hput := Part.reply_holding (p := Lru.inside) (h.put k e) c held s
    have hevict (a : Key) (s : Over Lru σ) :
        Lru.evict inner (c.holding held) a s = Lru.evict inner c a s := by
      unfold Lru.evict
      rw [Part.reply_holding (h.remove a)]
    show Lru.put inner (c.holding held) k e s = Lru.put inner c k e s
    unfold Lru.put
    rw [hput]
    simp only [hevict]
  get k c held s := Part.run_holding (h.get k) c held _
  remove k c held s := Part.reply_holding (h.remove k) c held _
  clear c held s := Part.reply_holding h.clear c held _

theorem Fifo.heedless : (Fifo.cache inner).Heedless where
  size c held s := Part.reply_holding h.size c held s
  put k e c held s := by
    have hput := Part.reply_holding (p := Fifo.inside) (h.put k e) c held s
    have hevict (a : Key) (s : Over Fifo σ) :
        Fifo.evict inner (c.holding held) a s = Fifo.evict inner c a s := by
      unfold Fifo.evict
      rw [Part.reply_holding (h.remove a)]
    show Fifo.put inner (c.holding held) k e s = Fifo.put inner c k e s
    unfold Fifo.put
    rw [hput]
    simp only [hevict]
  get k c held s := Part.run_holding (h.get k) c held s
  remove k c held s := Part.reply_holding (h.remove k) c held s
  clear c held s := Part.reply_holding h.clear c held _

theorem Logging.heedless : (Logging.cache inner).Heedless where
  size c held s := Part.reply_holding h.size c held s
  put k e c held s := by
    unfold Logging.cache
    dsimp only
    rw [Part.reply_holding (h.put k e)]
  get k c held s := by
    show Logging.get inner (c.holding held) k s = Logging.get inner c k s
    unfold Logging.get
    dsimp only
    rw [Part.run_holding (h.get k), Run.andThen_holding fun _ _ _ _ => rfl]
  remove k c held s := by
    unfold Logging.cache
    dsimp only
    rw [Part.reply_holding (h.remove k)]
  clear c held s := by
    unfold Logging.cache
    dsimp only
    rw [Part.reply_holding h.clear]

theorem Blocking.heedless : (Blocking.cache inner).Heedless where
  size c held s := Part.reply_holding h.size c held s
  put k e c held s := by
    unfold Blocking.cache
    dsimp only
    rw [Part.reply_holding (h.put k e)]
    rfl
  get k c held s := by
    have hfetch (c : Caller) (held : RowsId → Bool) (thread : Nat) (s : Over Blocking σ) :
        Blocking.fetch inner thread (c.holding held) k s = Blocking.fetch inner thread c k s := by
      unfold Blocking.fetch
      dsimp only
      rw [Part.run_holding (h.get k), Run.andThen_holding fun _ _ _ _ => rfl]
    show Blocking.get inner (c.holding held) k s = Blocking.get inner c k s
    unfold Blocking.get
    dsimp only
    rw [hfetch]
    rfl
  remove _ _ _ _ := rfl
  clear c held s := Part.reply_holding h.clear c held s

theorem Probe.heedless : (Probe.cache inner).Heedless where
  size c held s := Part.reply_holding h.size c held s
  put k e c held s := by
    show Probe.guarded s.own.put (c.holding held) _ _ = Probe.guarded s.own.put c _ _
    unfold Probe.guarded
    rw [Part.reply_holding (h.put k e)]
  get k c held s := by
    have hget := Part.run_holding (p := Probe.inside) (h.get k) c held (Probe.write (.get k) s)
    unfold Probe.cache
    dsimp only
    rw [hget]
  remove k c held s := by
    show Probe.guarded s.own.remove (c.holding held) _ _ = Probe.guarded s.own.remove c _ _
    unfold Probe.guarded
    rw [Part.reply_holding (h.remove k)]
  clear c held s := by
    show Probe.guarded s.own.clear (c.holding held) _ _ = Probe.guarded s.own.clear c _ _
    unfold Probe.guarded
    rw [Part.reply_holding h.clear]

end Layers

/-- A stack without weak entries does not look at which row lists are kept alive elsewhere. -/
theorem Stack.heedless (ls : List Layer) (hw : .weak ∉ ls) : (cache ls).Heedless := by
  induction ls with
  | nil => exact Store.heedless
  | cons l ls ih =>
    have hi := ih fun hm => hw (List.mem_cons_of_mem l hm)
    cases l with
    | lru => exact Lru.heedless hi
    | fifo => exact Fifo.heedless hi
    | weak => exact absurd List.mem_cons_self hw
    | logging => exact Logging.heedless hi
    | blocking => exact Blocking.heedless hi
    | probe => exact Probe.heedless hi

end QueryCache
