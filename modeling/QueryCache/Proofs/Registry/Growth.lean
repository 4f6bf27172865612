import Mathlib.Data.List.Forall2
import QueryCache.Config.Basic
import QueryCache.Proofs.Registry.Requests

/-!
# How a registry grows

The registry of a configuration begins without caches. Served request by request it grows: a cache
is built when its namespace is first asked for, and from then on it lives through the calls on
that namespace, which are answered at once and without failure. `Grown` says so of a registry and
the requests it has served; `Grown.serve` is the step, `Grown.serveAll` the run.

Row lists that other caches keep alive are alive for a cache as well. Only weak entries notice.
-/

namespace QueryCache

/-- A call with its caller, for whom more row lists may be kept alive elsewhere. -/
def Widened (x y : Caller × Demand) : Prop := y.2 = x.2 ∧ ∃ held, y.1 = x.1.holding held

theorem Widened.refl (x : Caller × Demand) : Widened x x :=
  ⟨rfl, fun _ => false, x.1.holding_none.symm⟩

/-- A stack is what one thread's calls have made of the stack of a profile. Weak entries may have
seen more row lists kept alive at each call than the caller knew of. -/
def Profile.Lived (p : Profile) (thread : Nat) (name : String) (asked : List (Caller × Demand))
    (s : Stack) : Prop :=
  ∃ calls, List.Forall₂ Widened asked calls ∧ (p.eviction ≠ .weak → calls = asked) ∧
    (∀ x ∈ calls, x.1.thread = thread) ∧
    ((Stack.below 0).askAll calls (p.build name)).Returns fun _ t => t = s

namespace Profile.Lived

variable {p : Profile} {thread : Nat} {name : String} {asked : List (Caller × Demand)} {s : Stack}

/-- A stack before its first use. -/
theorem nil : p.Lived thread name [] (p.build name) := ⟨[], .nil, fun _ => rfl, nofun, rfl⟩

variable (h : p.Lived thread name asked s)

include h

/-- What all calls of the thread keep has been kept. -/
theorem kept {inv : Stack → Prop} (hinv : (Stack.below 0).Upholds thread (fun _ => True) inv)
    (hstart : inv (p.build name)) : inv s := by
  obtain ⟨calls, -, -, hthread, hrun⟩ := h
  obtain ⟨r, hr, -, hs⟩ := (hinv.askAll calls hthread hstart).done
  rw [hr] at hrun
  exact hrun ▸ hs

theorem sound : p.Sound name s := by
  obtain ⟨inv, hinv, hstart, hsound⟩ := p.build_upholds thread name
  exact hsound s (h.kept hinv hstart)

/-- Without weak entries a call does not depend on which row lists are kept alive elsewhere. -/
theorem ask_holding (hweak : p.eviction ≠ .weak) (c : Caller) (held : RowsId → Bool)
    (d : Demand) : (Stack.below 0).ask (c.holding held) s d = (Stack.below 0).ask c s d := by
  apply Stack.ask_below_holding
  rw [h.sound.1]
  exact p.weak_notMem hweak name

/-- A further call of the thread is answered at once and without failure. -/
theorem ask {c : Caller} (hc : c.thread = thread) (held : RowsId → Bool) (d : Demand) :
    ((Stack.below 0).ask (c.holding held) s d).Returns fun a s' =>
      (∃ b, a = .ok b) ∧ p.Lived thread name (asked ++ [(c, d)]) s' := by
  obtain ⟨inv, hinv, hstart, -⟩ := p.build_upholds thread name
  have hs := h.kept hinv hstart
  have hholding := h.ask_holding
  obtain ⟨calls, hwidened, hsame, hthread, hrun⟩ := h
  obtain ⟨r, hr, hok, -⟩ := (hinv.ask (c := c.holding held) hc hs d).done
  have hlast (x : Caller × Demand) (hx : x.1.thread = thread) (y : Caller × Demand)
      (hy : y ∈ calls ++ [x]) : y.1.thread = thread := by
    rcases List.mem_append.mp hy with hy | hy
    · exact hthread y hy
    · rw [List.mem_singleton.mp hy]
      exact hx
  rw [hr]
  refine ⟨hok, ?_⟩
  by_cases hweak : p.eviction = .weak
  · have hall : List.Forall₂ Widened (asked ++ [(c, d)]) (calls ++ [(c.holding held, d)]) :=
      List.rel_append hwidened (.cons ⟨rfl, held, rfl⟩ .nil)
    exact ⟨_, hall, fun h => absurd hweak h, hlast _ hc,
      Cache.askAll_concat hrun (by rw [hr]; exact rfl)⟩
  · rw [hsame hweak] at hrun hlast
    rw [hholding hweak] at hr
    exact ⟨_, List.forall₂_same.mpr fun x _ => .refl x, fun _ => rfl, hlast _ hc,
      Cache.askAll_concat hrun (by rw [hr]; exact rfl)⟩

/-- Clearing is such a call. -/
theorem clear {c : Caller} (hc : c.thread = thread) (held : RowsId → Bool) :
    ((Stack.below 0).clear (c.holding held) s).value = .ok () ∧
      p.Lived thread name (asked ++ [(c, .clear)])
        ((Stack.below 0).clear (c.holding held) s).state := by
  obtain ⟨⟨b, hb⟩, hlived⟩ := h.ask hc held .clear
  refine ⟨?_, hlived⟩
  cases hv : ((Stack.below 0).clear (c.holding held) s).value with
  | ok u => rfl
  | error f =>
    rw [Reply.map, hv] at hb
    cases hb

end Profile.Lived

namespace Registry

/-- What has become of the registry of a configuration: its profiles are the same, and there is a
cache for a namespace if it was asked for, which has lived through the calls on that namespace. -/
structure Grown (config : Config) (thread : Nat) (requests : List (Caller × Request))
    (r : Registry) : Prop where
  standard : r.standard = config.standard
  overrides : r.overrides = config.namespaces
  nodup : r.caches.keys.Nodup
  absent : ∀ ns, history ns requests = none → r.get? ns = none
  lived : ∀ ns asked, history ns requests = some asked →
    ∃ s, r.get? ns = some s ∧ (config.registry.profileOf ns).Lived thread ns asked s

namespace Grown

variable {config : Config} {thread : Nat} {requests : List (Caller × Request)} {r : Registry}

theorem nil : Grown config thread [] config.registry where
  standard := rfl
  overrides := rfl
  nodup := List.nodup_nil
  absent _ _ := rfl
  lived _ _ h := nomatch h

variable (h : Grown config thread requests r)

include h

theorem profileOf (ns : String) : r.profileOf ns = config.registry.profileOf ns := by
  unfold Registry.profileOf
  rw [h.standard, h.overrides]
  rfl

/-- There is a cache just if there is a history. -/
theorem isSome (ns : String) : (r.get? ns).isSome = (history ns requests).isSome := by
  cases hns : history ns requests with
  | none =>
    rw [h.absent ns hns]
    rfl
  | some asked =>
    obtain ⟨s, hs, -⟩ := h.lived ns asked hns
    rw [hs]
    rfl

/-- A cache has lived through its history. -/
theorem of_get? {ns : String} {s : Stack} (hs : r.get? ns = some s) :
    ∃ asked, history ns requests = some asked ∧
      (config.registry.profileOf ns).Lived thread ns asked s := by
  cases hns : history ns requests with
  | none =>
    rw [h.absent ns hns] at hs
    exact nomatch hs
  | some asked =>
    obtain ⟨t, ht, hlived⟩ := h.lived ns asked hns
    have hst : t = s := Option.some.inj (ht.symm.trans hs)
    exact ⟨asked, rfl, hst ▸ hlived⟩

/-- A request either leaves a cache and its history alone or adds to both. -/
theorem step {x : Caller × Request} {r' : Registry} (hstandard : r'.standard = r.standard)
    (hoverrides : r'.overrides = r.overrides) (hnodup : r'.caches.keys.Nodup)
    (hcache : ∀ ns, (record ns (history ns requests) x = history ns requests ∧
        r'.get? ns = r.get? ns) ∨
      ∃ asked s, record ns (history ns requests) x = some asked ∧ r'.get? ns = some s ∧
        (config.registry.profileOf ns).Lived thread ns asked s) :
    Grown config thread (requests ++ [x]) r' where
  standard := hstandard.trans h.standard
  overrides := hoverrides.trans h.overrides
  nodup := hnodup
  absent ns hns := by
    rw [history_concat] at hns
    cases hcache ns with
    | inl hsame =>
      rw [hsame.2]
      exact h.absent ns (hsame.1.symm.trans hns)
    | inr hadded =>
      obtain ⟨asked, s, hasked, -, -⟩ := hadded
      exact nomatch hns.symm.trans hasked
  lived ns asked hns := by
    rw [history_concat] at hns
    cases hcache ns with
    | inl hsame =>
      rw [hsame.2]
      exact h.lived ns asked (hsame.1.symm.trans hns)
    | inr hadded =>
      obtain ⟨asked', s, hasked, hs, hlived⟩ := hadded
      have heq : asked' = asked := Option.some.inj (hasked.symm.trans hns)
      exact ⟨s, hs, heq ▸ hlived⟩

/-- A request that reaches no cache leaves everything as it is. -/
theorem idle {x : Caller × Request}
    (hx : ∀ ns, record ns (history ns requests) x = history ns requests) :
    Grown config thread (requests ++ [x]) r :=
  h.step rfl rfl h.nodup fun ns => .inl ⟨hx ns, rfl⟩

/-- Asking for a cache builds it if there is none. -/
theorem provide (c : Caller) (ns : String) :
    Grown config thread (requests ++ [(c, .provide ns)]) (r.provide ns).state := by
  unfold Registry.provide
  split
  · next hcontains =>
    apply h.idle
    intro m
    unfold record
    dsimp only
    split
    · next hm =>
      have hsome : (history m requests).isSome = true := by
        rw [← h.isSome, ← hm]
        exact hcontains
      obtain ⟨asked, hasked⟩ := Option.isSome_iff_exists.mp hsome
      rw [hasked]
      rfl
    · rfl
  · next hmissing =>
    have hnodup := Table.nodup_insert h.nodup ns ((r.profileOf ns).build ns)
    refine h.step ?_ ?_ hnodup fun m => ?_
    · rfl
    · rfl
    unfold record get?
    dsimp only
    rw [Table.get?_insert]
    by_cases hm : ns = m
    · have hnone : history m requests = none := by
        rw [← Option.not_isSome_iff_eq_none, ← h.isSome, ← hm]
        exact hmissing
      right
      rw [if_pos hm, if_pos hm, hnone, hm, h.profileOf]
      exact ⟨[], _, rfl, rfl, .nil⟩
    · left
      rw [if_neg hm, if_neg hm]
      exact ⟨rfl, rfl⟩

/-- A call reaches the cache of its namespace and no other. -/
theorem ask {c : Caller} (hc : c.thread = thread) {ns : String} {s : Stack}
    (hs : r.get? ns = some s) (d : Demand) :
    ((cacheOf ns).ask c r d).Returns fun a r' => (∃ b, a = .ok b) ∧
      (∃ s', r' = r.replace ns s') ∧ Grown config thread (requests ++ [(c, .ask ns d)]) r' := by
  obtain ⟨asked, hasked, hlived⟩ := h.of_get? hs
  rw [ask_cacheOf hs]
  apply (hlived.ask hc (r.heldApart ns) d).within
  rintro a s' ⟨hok, hlived'⟩
  refine ⟨hok, ⟨s', rfl⟩, ?_⟩
  show Grown config thread _ (r.replace ns s')
  have halike : Alike r (r.replace ns s') := alike_replace
  apply h.step halike.standard halike.overrides (by rw [halike.keys]; exact h.nodup)
  intro m
  unfold record
  dsimp only
  by_cases hm : ns = m
  · right
    rw [if_pos hm, ← hm, hasked]
    exact ⟨_, s', rfl, get?_replace_self (by rw [hs]; rfl), hlived'⟩
  · left
    rw [if_neg hm]
    exact ⟨rfl, get?_replace_of_ne (Ne.symm hm)⟩

/-- Clearing all caches reaches each of them. -/
theorem clearAll {c : Caller} (hc : c.thread = thread) :
    (r.clearAll c).value = .ok () ∧
      Grown config thread (requests ++ [(c, .clearAll)]) (r.clearAll c).state := by
  unfold Registry.clearAll
  have hget (e : String × Stack) (he : e ∈ r.caches.entries) : r.get? e.1 = some e.2 :=
    Table.get?_of_mem_entries h.nodup he
  have hclear (e : String × Stack) (he : e ∈ r.caches.entries) (held : RowsId → Bool) :
      ((Stack.below 0).clear (c.holding held) e.2).value = .ok () := by
    obtain ⟨asked, -, hlived⟩ := h.of_get? (hget e he)
    exact (hlived.clear hc held).1
  obtain ⟨hvalue, halike, hsame, hall⟩ := clearAll_go h.nodup hget hclear
  refine ⟨hvalue, h.step halike.standard halike.overrides (by rw [halike.keys]; exact h.nodup) ?_⟩
  intro ns
  unfold record
  dsimp only
  cases hns : r.get? ns with
  | none =>
    left
    have hnone : history ns requests = none := by
      rw [← Option.not_isSome_iff_eq_none, ← h.isSome, hns]
      exact Bool.false_ne_true
    rw [hnone]
    exact ⟨rfl, (hsame ns ((Table.get?_eq_none_iff r.caches ns).mp hns)).trans hns⟩
  | some s =>
    right
    obtain ⟨held, hcleared⟩ := hall (ns, s) (Table.mem_entries_of_get? hns)
    obtain ⟨asked, hasked, hlived⟩ := h.of_get? hns
    rw [hasked]
    exact ⟨_, _, rfl, hcleared, (hlived.clear hc held).2⟩

/-- One request is served at once and without failure. -/
theorem serve {c : Caller} (hc : c.thread = thread) (q : Request) :
    (Registry.serve c r q).Returns fun a r' =>
      (∃ b, a = .ok b) ∧ Grown config thread (requests ++ [(c, q)]) r' := by
  cases q with
  | provide ns => exact ⟨⟨_, rfl⟩, h.provide c ns⟩
  | find ns => exact ⟨⟨_, rfl⟩, h.idle fun m => rfl⟩
  | clearAll =>
    obtain ⟨hvalue, hgrown⟩ := h.clearAll hc
    exact ⟨⟨_, congrArg (Except.map _) hvalue⟩, hgrown⟩
  | ask ns d =>
    unfold Registry.serve
    dsimp only
    split
    · next hsome =>
      obtain ⟨s, hs⟩ := Option.isSome_iff_exists.mp hsome
      apply (Run.returns_map _).mpr
      apply (h.ask hc hs d).mono
      rintro a r' ⟨⟨b, rfl⟩, -, hgrown⟩
      exact ⟨⟨_, rfl⟩, hgrown⟩
    · next hnone =>
      refine ⟨⟨_, rfl⟩, h.idle fun m => ?_⟩
      unfold record
      dsimp only
      split
      · next hm =>
        rw [h.isSome, hm] at hnone
        rw [Option.not_isSome_iff_eq_none.mp hnone]
        rfl
      · rfl

/-- So are several requests. -/
theorem serveAll (later : List (Caller × Request)) (hlater : ∀ x ∈ later, x.1.thread = thread) :
    (Registry.serveAll later r).Returns fun as r' =>
      (∀ a ∈ as, ∃ b, a = .ok b) ∧ Grown config thread (requests ++ later) r' := by
  induction later generalizing r requests with
  | nil =>
    rw [List.append_nil]
    exact ⟨nofun, h⟩
  | cons x later ih =>
    obtain ⟨c, q⟩ := x
    unfold Registry.serveAll
    apply (h.serve (hlater _ List.mem_cons_self) q).andThen
    rintro c' a r' ⟨hok, hgrown⟩
    apply (ih hgrown fun y hy => hlater y (List.mem_cons_of_mem _ hy)).mapReply
    rintro reply ⟨hall, hgrown'⟩
    rw [List.append_assoc] at hgrown'
    refine ⟨?_, hgrown'⟩
    intro b hb
    rcases List.mem_cons.mp hb with rfl | hb
    · exact hok
    · exact hall b hb

end Grown

end Registry

end QueryCache
