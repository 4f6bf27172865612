import Mathlib.Data.List.Nodup
import QueryCache.Layer.Store
import QueryCache.Proofs.Staging.Calls

/-!
# Exact buffering

Everything a transaction does is one of five things: it looks a key up, stages a write or a
clear, or ends by a commit or a rollback. `Works` describes its runs over shared caches that
may answer anything, keep a lookup waiting and fail at any point, and that others may use at
any time. The main result says which calls reach the shared caches, in which order, at each
of the five, given only what the transaction did before.
-/

namespace QueryCache

namespace Journal

variable {ρ : Type}

/-- The latest answer. -/
def lastAnswer (j : Journal ρ) : Except CacheFailure (Option Entry) :=
  (j.getLast?.map (·.answer)).getD (.ok none)

theorem lastAnswer_concat (j : Journal ρ) (r : Record ρ) : lastAnswer (j ++ [r]) = r.answer := by
  simp [lastAnswer]

end Journal

namespace Transaction

variable {ρ σ : Type} [DecidableEq ρ]

/-- What a transaction did with one of the shared caches. -/
def deedsOn (ref : ρ) (h : List (ρ × Deed)) : List Deed := (h.filter (·.1 = ref)).map Prod.snd

/-- The shared caches in the order of their first use. -/
def order (h : List (ρ × Deed)) : List ρ := (h.map Prod.fst).eraseDups

/-- The calls of a commit, cache by cache. -/
def commitCalls (h : List (ρ × Deed)) : List (ρ × Call) :=
  (order h).flatMap fun ref => (Deed.commitCalls (deedsOn ref h)).map (ref, ·)

/-- The calls of a rollback, cache by cache. -/
def rollbackCalls (h : List (ρ × Deed)) : List (ρ × Call) :=
  (order h).flatMap fun ref => (Deed.rollbackCalls (deedsOn ref h)).map (ref, ·)

theorem deedsOn_concat (ref other : ρ) (h : List (ρ × Deed)) (d : Deed) :
    deedsOn ref (h ++ [(other, d)]) =
      if other = ref then deedsOn ref h ++ [d] else deedsOn ref h := by
  by_cases ho : other = ref <;> simp [deedsOn, ho]

theorem order_concat (h : List (ρ × Deed)) (ref : ρ) (d : Deed) :
    order (h ++ [(ref, d)]) = if ref ∈ order h then order h else order h ++ [ref] := by
  simp only [order, List.map_append, List.map_cons, List.map_nil, Table.eraseDups_concat,
    List.mem_eraseDups]

theorem deedsOn_eq_nil {ref : ρ} {h : List (ρ × Deed)} (hr : ref ∉ order h) :
    deedsOn ref h = [] := by
  rw [order, List.mem_eraseDups] at hr
  rw [deedsOn, List.map_eq_nil_iff, List.filter_eq_nil_iff]
  intro e he heq
  rw [decide_eq_true_iff] at heq
  exact hr (heq ▸ List.mem_map.mpr ⟨e, he, rfl⟩)

theorem deedsOn_append (ref : ρ) (h ds : List (ρ × Deed)) :
    deedsOn ref (h ++ ds) = deedsOn ref h ++ deedsOn ref ds := by
  rw [deedsOn, List.filter_append, List.map_append]
  rfl

/-- What was missed before is still missed after further deeds. -/
theorem misses_append (ref : ρ) (h ds : List (ρ × Deed)) :
    Deed.misses (deedsOn ref (h ++ ds)) =
      Deed.misses (deedsOn ref h) ++ Deed.misses (deedsOn ref ds) := by
  rw [deedsOn_append, Deed.misses, List.filterMap_append]
  rfl

/-- What is read off the deeds with each cache concerns the cache with these deeds. -/
private theorem mem_flatMap_deedsOn {f : List Deed → List Call} (hf : f [] = [])
    {h : List (ρ × Deed)} {ref : ρ} {call : Call} :
    (ref, call) ∈ (order h).flatMap (fun ref => (f (deedsOn ref h)).map (ref, ·)) ↔
      call ∈ f (deedsOn ref h) := by
  constructor
  · intro hmem
    obtain ⟨r, _, hmem⟩ := List.mem_flatMap.mp hmem
    obtain ⟨a, ha, heq⟩ := List.mem_map.mp hmem
    obtain ⟨rfl, rfl⟩ := Prod.mk.inj heq
    exact ha
  · intro hcall
    have hused : ref ∈ order h := by
      by_contra hno
      rw [deedsOn_eq_nil hno, hf] at hcall
      exact List.not_mem_nil hcall
    exact List.mem_flatMap.mpr ⟨ref, hused, List.mem_map_of_mem hcall⟩

/-- The calls of a commit on one cache. -/
theorem mem_commitCalls {h : List (ρ × Deed)} {ref : ρ} {call : Call} :
    (ref, call) ∈ commitCalls h ↔ call ∈ Deed.commitCalls (deedsOn ref h) :=
  mem_flatMap_deedsOn rfl

/-- The calls of a rollback on one cache. -/
theorem mem_rollbackCalls {h : List (ρ × Deed)} {ref : ρ} {call : Call} :
    (ref, call) ∈ rollbackCalls h ↔ call ∈ Deed.rollbackCalls (deedsOn ref h) :=
  mem_flatMap_deedsOn rfl

/-- The staged work of a transaction is that of what it did, under the names of the caches
and in the order of their first use. -/
structure Reflects (name : ρ → String) (t : Transaction ρ) (h : List (ρ × Deed)) : Prop where
  keys : t.buffers.keys = (order h).map name
  buffer : ∀ ref ∈ order h, ∃ b, t.buffers.get? (name ref) = some b ∧ b.target = ref ∧
    b.pending.Reflects (deedsOn ref h)

section

variable {name : ρ → String} (hname : Function.Injective name)

include hname

theorem Reflects.nodup {t : Transaction ρ} {h : List (ρ × Deed)} (hr : t.Reflects name h) :
    t.buffers.keys.Nodup := by
  rw [hr.keys]
  exact List.Nodup.map hname (Table.nodup_eraseDups _)

omit hname in
/-- Nothing is staged before the first deed. -/
theorem reflects_empty : (Transaction.empty : Transaction ρ).Reflects name [] where
  keys := rfl
  buffer := by
    intro ref href
    simp [order] at href

/-- A touched cache has the staged work of what was done with it, be it nothing. -/
theorem Reflects.touched {t : Transaction ρ} {h : List (ρ × Deed)} (hr : t.Reflects name h)
    (ref : ρ) : ∃ b, (t.touch (name ref) ref).buffers.get? (name ref) = some b ∧
      b.target = ref ∧ b.pending.Reflects (deedsOn ref h) := by
  simp only [touch, Table.get?_insertNew, if_true]
  by_cases hm : ref ∈ order h
  · obtain ⟨b, hb, ht, hp⟩ := hr.buffer ref hm
    exact ⟨b, by rw [hb, Option.getD_some], ht, hp⟩
  · have hnone : t.buffers.get? (name ref) = none := by
      rw [Table.get?_eq_none_iff, hr.keys, List.mem_map]
      rintro ⟨other, ho, heq⟩
      exact hm (hname heq ▸ ho)
    refine ⟨{ target := ref }, by rw [hnone, Option.getD_none], rfl, ?_⟩
    rw [deedsOn_eq_nil hm]
    exact Pending.reflects_nil

/-- One more deed with a cache: the staged work on it changes to that of one deed more, and
nothing else does. -/
theorem Reflects.change {t : Transaction ρ} {h : List (ρ × Deed)} (hr : t.Reflects name h)
    (ref : ρ) (d : Deed) (g : Buffer ρ → Buffer ρ) (htarget : ∀ b, (g b).target = b.target)
    (hg : ∀ b, b.pending.Reflects (deedsOn ref h) →
      (g b).pending.Reflects (deedsOn ref h ++ [d])) :
    Reflects name ⟨(t.touch (name ref) ref).buffers.modify (name ref) g⟩ (h ++ [(ref, d)]) where
  keys := by
    rw [Table.keys_modify, touch, Table.keys_insertNew, hr.keys, order_concat]
    by_cases hm : ref ∈ order h
    · rw [if_pos hm, if_pos (List.mem_map_of_mem hm)]
    · have hnew : name ref ∉ (order h).map name := by
        rw [List.mem_map]
        rintro ⟨other, ho, heq⟩
        exact hm (hname heq ▸ ho)
      rw [if_neg hm, if_neg hnew, List.map_append, List.map_singleton]
  buffer := by
    intro other ho
    by_cases heq : ref = other
    · subst heq
      obtain ⟨b, hb, ht, hp⟩ := hr.touched hname ref
      refine ⟨g b, ?_, (htarget b).trans ht, ?_⟩
      · rw [Table.get?_modify, if_pos rfl, hb, Option.map_some]
      · rw [deedsOn_concat, if_pos rfl]
        exact hg b hp
    · have hm : other ∈ order h := by
        rw [order_concat] at ho
        split at ho
        · exact ho
        · exact (List.mem_append.mp ho).resolve_right fun hs =>
            heq (List.mem_singleton.mp hs).symm
      obtain ⟨b, hb, ht, hp⟩ := hr.buffer other hm
      have hne : ¬ name ref = name other := fun hn => heq (hname hn)
      refine ⟨b, ?_, ht, ?_⟩
      · rw [Table.get?_modify, if_neg hne, touch, Table.get?_insertNew, if_neg hne, hb]
      · rw [deedsOn_concat, if_neg heq]
        exact hp

/-- The staged work on a cache, be it nothing. -/
theorem Reflects.pendingFor {t : Transaction ρ} {h : List (ρ × Deed)} (hr : t.Reflects name h)
    (ref : ρ) : (t.pendingFor (name ref)).Reflects (deedsOn ref h) := by
  obtain ⟨b, hb, _, hp⟩ := hr.touched hname ref
  rw [← pendingFor_touch t (name ref) (name ref) ref, Transaction.pendingFor, hb]
  exact hp

/-- The targets are the used caches in the order of their first use. -/
theorem Reflects.targets {t : Transaction ρ} {h : List (ρ × Deed)} (hr : t.Reflects name h) :
    t.targets = (order h).map fun ref => (name ref, ref) := by
  rw [Transaction.targets, Table.entries_eq (hr.nodup hname), hr.keys, List.filterMap_map,
    List.map_filterMap, ← List.filterMap_eq_map]
  refine List.filterMap_congr fun ref hm => ?_
  obtain ⟨b, hb, ht, _⟩ := hr.buffer ref hm
  rw [Function.comp_apply, hb, Option.map_some, Option.map_some, ht, Function.comp_apply]

/-- The calls of a commit, cache by cache, are those that the deeds owe. -/
theorem Reflects.commitCalls {t : Transaction ρ} {h : List (ρ × Deed)}
    (hr : t.Reflects name h) :
    (t.targets.flatMap fun e =>
      (t.pendingFor e.1).steps.map fun step => (e.2, step.call)) = Transaction.commitCalls h := by
  rw [hr.targets hname, List.flatMap_map, Transaction.commitCalls]
  refine List.flatMap_congr fun ref _ => ?_
  rw [← (hr.pendingFor hname ref).steps, List.map_map]
  rfl

/-- The removals of a rollback, cache by cache, are those that the deeds owe. -/
theorem Reflects.rollbackCalls {t : Transaction ρ} {h : List (ρ × Deed)}
    (hr : t.Reflects name h) :
    (t.targets.flatMap fun e =>
      (t.pendingFor e.1).misses.keys.map fun k => (e.2, Call.remove k)) =
      Transaction.rollbackCalls h := by
  rw [hr.targets hname, List.flatMap_map, Transaction.rollbackCalls]
  refine List.flatMap_congr fun ref _ => ?_
  rw [(hr.pendingFor hname ref).misses, Deed.rollbackCalls, List.map_map]
  rfl

/-! ### Runs -/

/-- What others may do while a transaction waits, or between its operations: anything to the
shared caches, nothing to its staged work. -/
def Undisturbed (s s' : Over (Transaction ρ) (Over (Journal ρ) σ)) : Prop :=
  s'.own = s.own ∧ s'.inner.own = s.inner.own

omit [DecidableEq ρ] hname in
/-- A lookup looks up once in the shared cache, learns from the answer and shows it. -/
theorem get_journal (shared : ρ → Cache σ) (c : Caller) (ref : ρ) (k : Key)
    (s : Over (Transaction ρ) (Over (Journal ρ) σ)) {n : String}
    (hn : s.own.buffers.keys.Nodup) (hid : (shared ref).id s.inner.inner = n)
    (ht : (s.own.touch n ref).target n ref = ref) :
    (get (Journal.caches id shared) c ref k s).Always Undisturbed
      (fun t => t.own = s.own.touch n ref ∧ t.inner.own = s.inner.own)
      fun v t => ∃ a, t.inner.own = s.inner.own ++ [⟨ref, .get k, a⟩] ∧
        t.own = ⟨(s.own.touch n ref).buffers.modify n fun b =>
          { b with pending := (s.own.pendingFor n).learn k a }⟩ ∧
        v = (s.own.pendingFor n).shown a := by
  have hget : get (Journal.caches id shared) c ref k s =
      (part n).run c { s with own := s.own.touch n ref } fun c i =>
        Pending.get (Journal.cache ref (shared ref)) c k i := by
    subst hid
    simp only [get, Journal.caches, Journal.cache, ht, id_eq]
  have hp : ((part n).view { s with own := s.own.touch n ref }).own = s.own.pendingFor n :=
    pendingFor_touch s.own n n ref
  have hplace (i : Over Pending (Over (Journal ρ) σ))
      (t : Over (Transaction ρ) (Over (Journal ρ) σ)) (hown : t.own = s.own.touch n ref)
      (hi : i.own = s.own.pendingFor n) : ((part n).place i t).own = s.own.touch n ref := by
    refine congrArg Transaction.mk ?_
    rw [hown, hi, ← pendingFor_touch s.own n n ref]
    exact modify_pendingFor (Table.nodup_insertNew hn n _) n
  rw [hget]
  refine Run.Always.within (fun t => t.own = s.own.touch n ref)
    (Pending.get_journal ref (shared ref) _ k _) rfl ?_ ?_ ?_
  · intro i t hown hi
    exact ⟨hplace i t hown (hi.1.trans hp), hi.2⟩
  · intro i t t' hown hi moved
    have hown' : t'.own = s.own.touch n ref :=
      moved.1.trans (hplace i t hown (hi.1.trans hp))
    refine ⟨⟨?_, moved.2⟩, hown'⟩
    rw [hi.1, hp, ← pendingFor_touch s.own n n ref, ← hown']
    rfl
  · intro v i t hown ⟨a, hj, hl, hv⟩
    refine ⟨a, hj, ?_, ?_⟩
    · rw [← hp, ← hl, ← hown]
      rfl
    · rw [← hp]
      exact hv

/-- The runs of a transaction over journaled caches: what it did since it began, and where
that may have led, whatever the caches answered and others did meanwhile. -/
inductive Works (shared : ρ → Cache σ) :
    List (ρ × Deed) → Over (Transaction ρ) (Over (Journal ρ) σ) → Prop
  | start {s} (h : s.own = empty) : Works shared [] s
  | others {h s s'} (w : Works shared h s) (moved : Undisturbed s s') : Works shared h s'
  | get {h s c ref k r} (w : Works shared h s)
      (e : (get (Journal.caches id shared) c ref k s).Ends Undisturbed r) :
      Works shared (h ++ [(ref, .got k r.state.inner.own.lastAnswer)]) r.state
  | put {h s ref k e} (w : Works shared h s) :
      Works shared (h ++ [(ref, .put k e)]) (put (Journal.caches id shared) ref k e s)
  | clear {h s ref} (w : Works shared h s) :
      Works shared (h ++ [(ref, .clear)]) (clear (Journal.caches id shared) ref s)
  | commit {h s c} (w : Works shared h s) :
      Works shared [] (commitAll (Journal.caches id shared) c s).state
  | rollback {h s c} (w : Works shared h s) :
      Works shared [] (rollbackAll (Journal.caches id shared) c s).state

/-- A cache that has been touched is known by the reference it was used with. -/
theorem Reflects.target {t : Transaction ρ} {h : List (ρ × Deed)} (hr : t.Reflects name h)
    (ref : ρ) : (t.touch (name ref) ref).target (name ref) ref = ref := by
  obtain ⟨b, hb, ht, _⟩ := hr.touched hname ref
  rw [Transaction.target, hb, Option.map_some, Option.getD_some, ht]

/-- A lookup that has been answered is one more deed, and written down with its answer. -/
theorem Reflects.get {shared : ρ → Cache σ} (hid : ∀ ref s, (shared ref).id s = name ref)
    {h : List (ρ × Deed)} {s : Over (Transaction ρ) (Over (Journal ρ) σ)}
    (hr : s.own.Reflects name h) (c : Caller) (ref : ρ) (k : Key) :
    (Transaction.get (Journal.caches id shared) c ref k s).Always Undisturbed
      (fun t => t.inner.own = s.inner.own)
      fun _ t => ∃ a, t.inner.own = s.inner.own ++ [⟨ref, .get k, a⟩] ∧
        t.own.Reflects name (h ++ [(ref, .got k a)]) := by
  refine (get_journal shared c ref k s (hr.nodup hname) (hid _ _)
    (hr.target hname ref)).mono (fun t ht => ht.2) ?_
  rintro v t ⟨a, hj, hown, _⟩
  refine ⟨a, hj, ?_⟩
  rw [hown]
  exact hr.change hname ref _ _ (fun _ => rfl) fun _ _ => (hr.pendingFor hname ref).learn k a

/-- A staged write is one more deed. -/
theorem Reflects.put {shared : ρ → Cache σ} {h : List (ρ × Deed)} {s : Over (Transaction ρ) σ}
    (hr : s.own.Reflects name h) {ref : ρ} (hid : (shared ref).id s.inner = name ref) (k : Key)
    (e : Entry) :
    (Transaction.put shared ref k e s).own.Reflects name (h ++ [(ref, .put k e)]) := by
  simp only [Transaction.put, stage, hid]
  exact hr.change hname ref _ _ (fun _ => rfl) fun _ hb => hb.stage k e

/-- A staged clear is one more deed. -/
theorem Reflects.clear {shared : ρ → Cache σ} {h : List (ρ × Deed)} {s : Over (Transaction ρ) σ}
    (hr : s.own.Reflects name h) {ref : ρ} (hid : (shared ref).id s.inner = name ref) :
    (Transaction.clear shared ref s).own.Reflects name (h ++ [(ref, .clear)]) := by
  simp only [Transaction.clear, stage, hid]
  exact hr.change hname ref _ _ (fun _ => rfl) fun _ hb => hb.stageClear

/-- All along a run the staged work is that of what the transaction did. -/
theorem Works.reflects {shared : ρ → Cache σ} (hid : ∀ ref s, (shared ref).id s = name ref)
    {h : List (ρ × Deed)} {s : Over (Transaction ρ) (Over (Journal ρ) σ)}
    (w : Works shared h s) : s.own.Reflects name h := by
  induction w with
  | start hs =>
    rw [hs]
    exact reflects_empty
  | others w moved ih =>
    rw [moved.1]
    exact ih
  | @get h s c ref k r w e ih =>
    obtain ⟨a, hj, hr⟩ := (ih.get hname hid c ref k).of_ends e
    rw [hj, Journal.lastAnswer_concat]
    exact hr
  | put w ih => exact ih.put hname (hid _ _) _ _
  | clear w ih => exact ih.clear hname (hid _ _)
  | commit w ih => exact reflects_empty
  | rollback w ih => exact reflects_empty

/-- The targets have one name each. -/
theorem Reflects.nodup_targets {t : Transaction ρ} {h : List (ρ × Deed)}
    (hr : t.Reflects name h) : (t.targets.map Prod.fst).Nodup := by
  rw [Transaction.targets, List.map_map]
  exact hr.nodup hname

/-- A commit makes the calls that the deeds owe. -/
theorem Reflects.commitAll (shared : ρ → Cache σ) {h : List (ρ × Deed)}
    {s : Over (Transaction ρ) (Over (Journal ρ) σ)} (hr : s.own.Reflects name h) (c : Caller) :
    ∃ j, (Transaction.commitAll (Journal.caches id shared) c s).state.inner.own =
        s.inner.own ++ j ∧ j.calls = Transaction.commitCalls h := by
  obtain ⟨j, hj, hc, _⟩ :=
    commitEach_journal id shared c s.own.targets (hr.nodup_targets hname) s
  exact ⟨j, hj, hc.trans (hr.commitCalls hname)⟩

/-- A rollback makes the removals that the deeds owe. -/
theorem Reflects.rollbackAll (shared : ρ → Cache σ) {h : List (ρ × Deed)}
    {s : Over (Transaction ρ) (Over (Journal ρ) σ)} (hr : s.own.Reflects name h) (c : Caller) :
    ∃ j, (Transaction.rollbackAll (Journal.caches id shared) c s).state.inner.own =
        s.inner.own ++ j ∧ j.calls = Transaction.rollbackCalls h := by
  obtain ⟨j, hj, hc⟩ :=
    rollbackEach_journal id shared c s.own.targets (hr.nodup_targets hname) s
  exact ⟨j, hj, hc.trans (hr.rollbackCalls hname)⟩

/-- Buffering is exact, whatever the shared caches answer and others do to them meanwhile. -/
theorem buffering_exact {shared : ρ → Cache σ} (hid : ∀ ref s, (shared ref).id s = name ref)
    {h : List (ρ × Deed)} {s : Over (Transaction ρ) (Over (Journal ρ) σ)}
    (w : Works shared h s) (c : Caller) :
    (∀ ref k, (get (Journal.caches id shared) c ref k s).Always Undisturbed
      (fun t => t.inner.own = s.inner.own ∧ ∀ n, t.own.pendingFor n = s.own.pendingFor n)
      fun v t => ∃ a, t.inner.own = s.inner.own ++ [⟨ref, .get k, a⟩] ∧
        ∀ f, a = .error f → v = .error f ∧ ∀ n, t.own.pendingFor n = s.own.pendingFor n) ∧
    (∀ ref k, (∀ c, ((shared ref).get c k s.inner.inner).AtOnce) →
      (get (Journal.caches id shared) c ref k s).AtOnce) ∧
    (∀ ref k e, (put (Journal.caches id shared) ref k e s).inner = s.inner) ∧
    (∀ ref, (clear (Journal.caches id shared) ref s).inner = s.inner) ∧
    (∃ j, (commitAll (Journal.caches id shared) c s).state.inner.own = s.inner.own ++ j ∧
      j.calls = commitCalls h ∧
      (commitAll (Journal.caches id shared) c s).value = j.firstFailure ∧
      (commitAll (Journal.caches id shared) c s).state.own = empty) ∧
    ∃ j, (rollbackAll (Journal.caches id shared) c s).state.inner.own = s.inner.own ++ j ∧
      j.calls = rollbackCalls h ∧
      (rollbackAll (Journal.caches id shared) c s).state.own = empty := by
  have hr := w.reflects hname hid
  have hkeys : (s.own.targets.map Prod.fst).Nodup := by
    rw [Transaction.targets, List.map_map]
    exact hr.nodup hname
  refine ⟨?_, ?_, fun _ _ _ => rfl, fun _ => rfl, ?_, ?_⟩
  · intro ref k
    refine (get_journal shared c ref k s (hr.nodup hname) (hid _ _)
      (hr.target hname ref)).mono ?_ ?_
    · intro t ht
      refine ⟨ht.2, fun n => ?_⟩
      rw [ht.1, pendingFor_touch]
    · rintro v t ⟨a, hj, hown, hv⟩
      refine ⟨a, hj, ?_⟩
      rintro f rfl
      refine ⟨hv, fun n => ?_⟩
      have ht : (s.own.touch (name ref) ref).buffers.keys.Nodup :=
        Table.nodup_insertNew (hr.nodup hname) _ _
      rw [hown, Pending.learn, ← pendingFor_touch s.own (name ref) (name ref) ref,
        modify_pendingFor ht]
      exact pendingFor_touch s.own (name ref) n ref
  · intro ref k hp
    have ht := hr.target hname ref
    have hn : (Journal.caches id shared ref).id s.inner = name ref := hid ref s.inner.inner
    simp only [get, hn, ht]
    exact (Pending.get_atOnce hp _).within _
  · obtain ⟨j, hj, hc, hf⟩ := commitEach_journal id shared c s.own.targets hkeys s
    exact ⟨j, hj, hc.trans (hr.commitCalls hname), hf, rfl⟩
  · obtain ⟨j, hj, hc⟩ := rollbackEach_journal id shared c s.own.targets hkeys s
    exact ⟨j, hj, hc.trans (hr.rollbackCalls hname), rfl⟩

end

/-- Two stores side by side, each under a name of its own. -/
def twoStores (side : Bool) : Cache (Bool → Store) :=
  { Store.cache.within
      { view := fun s => s side, place := fun i s b => if b = side then i else s b } with
    id := fun _ => if side then "left" else "right" }

/-- The two stores have different names. -/
theorem injective_twoStores :
    Function.Injective fun side : Bool => if side then "left" else "right" := by
  intro a b heq
  cases a <;> cases b <;> first | rfl | exact absurd heq (by decide)

/-- A miss on one store and a write to the other reach them in the order of first use. -/
theorem buffering_exact_twoStores :
    ∃ s, Works twoStores [(false, .got {} (.ok none)), (true, .put {} .null)] s ∧
      ∃ j : Journal Bool,
        (commitAll (Journal.caches id twoStores) {} s).state.inner.own = s.inner.own ++ j ∧
        j.calls = [(false, .put {} .null), (true, .put {} .null)] := by
  have start : Works twoStores [] ⟨empty, [], fun _ => { name := "" }⟩ := .start rfl
  have missed : Works twoStores [(false, .got {} (.ok none))] _ :=
    .get (c := {}) start (.done _)
  have written : Works twoStores [(false, .got {} (.ok none)), (true, .put {} .null)] _ :=
    .put missed
  refine ⟨_, written, ?_⟩
  obtain ⟨_, _, _, _, ⟨j, hj, hc, _⟩, _⟩ :=
    buffering_exact injective_twoStores (fun _ _ => rfl) written {}
  exact ⟨j, hj, hc⟩

end Transaction

end QueryCache
