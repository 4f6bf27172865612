import QueryCache.Proofs.Config.Loading
import QueryCache.Proofs.Registry.Growth

/-!
# Namespaces keep apart

The caches of a configuration share a registry and nothing else: a request for one namespace
leaves the caches of the others as they are. What they answer it can change in one way only. Row
lists may be in several caches at once, and an entry that does not keep its rows alive depends on
those that do (`shared_rows_lost`); so a cache with weak entries answers alike as long as the
other caches keep the same row lists alive, and every other cache answers alike in any case
(`namespaces_apart`).
-/

namespace QueryCache.Registry

variable {config : Config} {thread : Nat} {requests : List (Caller × Request)} {r : Registry}

section

variable (h : Grown config thread requests r)

include h

/-- A request that does not concern a namespace leaves its cache as it is. -/
theorem Grown.apart {c : Caller} (hc : c.thread = thread) {ns : String} {q : Request}
    (hq : ¬ q.Concerns ns) :
    (Registry.serve c r q).Returns fun _ r' =>
      r'.get? ns = r.get? ns ∧ Grown config thread (requests ++ [(c, q)]) r' := by
  have hserve := h.serve hc q
  cases q with
  | provide m =>
    refine ⟨?_, hserve.2⟩
    show (r.provide m).state.get? ns = r.get? ns
    unfold Registry.provide
    split
    · rfl
    · exact (Table.get?_insert _ _ _ _).trans (if_neg hq)
  | find m => exact ⟨rfl, hserve.2⟩
  | clearAll => exact absurd trivial hq
  | ask m d =>
    unfold Registry.serve
    dsimp only
    split
    · next hsome =>
      obtain ⟨s, hs⟩ := Option.isSome_iff_exists.mp hsome
      apply (Run.returns_map _).mpr
      apply (h.ask hc hs d).mono
      rintro a r' ⟨-, ⟨s', rfl⟩, hgrown⟩
      exact ⟨get?_replace_of_ne (Ne.symm hq), hgrown⟩
    · next hnone =>
      unfold Registry.serve at hserve
      dsimp only at hserve
      rw [if_neg hnone] at hserve
      exact ⟨rfl, hserve.2⟩

/-- Two registries in which a namespace has the same cache answer the same calls on it alike, with
weak entries as long as the other caches keep the same row lists alive. -/
theorem Grown.answers_eq {ns : String} {s : Stack} (hs : r.get? ns = some s)
    {requests' : List (Caller × Request)} {r' : Registry}
    (h' : Grown config thread requests' r') (hs' : r'.get? ns = some s)
    (hheld : (config.registry.profileOf ns).eviction ≠ .weak ∨ r'.heldApart ns = r.heldApart ns)
    (later : List (Caller × Demand)) (hlater : ∀ x ∈ later, x.1.thread = thread) :
    ((cacheOf ns).askAll later r).Returns fun as _ =>
      ((cacheOf ns).askAll later r').Returns fun bs _ => bs = as := by
  induction later generalizing r r' s requests requests' with
  | nil => exact rfl
  | cons x later ih =>
    obtain ⟨c, d⟩ := x
    have hc : c.thread = thread := hlater _ List.mem_cons_self
    obtain ⟨asked, -, hlived⟩ := h.of_get? hs
    obtain ⟨reply, hreply, -⟩ := (hlived.ask hc (r.heldApart ns) d).done
    have hreply' : (Stack.below 0).ask (c.holding (r'.heldApart ns)) s d = .done reply := by
      cases hheld with
      | inl hweak => rw [hlived.ask_holding hweak, ← hreply, hlived.ask_holding hweak]
      | inr hsame => rw [hsame, hreply]
    have hfirst := ask_cacheOf hs c d
    have hfirst' := ask_cacheOf hs' c d
    rw [hreply] at hfirst
    rw [hreply'] at hfirst'
    have hgrown := h.ask hc hs d
    have hgrown' := h'.ask hc hs' d
    rw [hfirst] at hgrown
    rw [hfirst'] at hgrown'
    have hrest := ih hgrown.2.2 (get?_replace_self (by rw [hs]; rfl)) hgrown'.2.2
      (get?_replace_self (by rw [hs']; rfl))
      (hheld.imp_right fun hsame => heldApart_replace.trans (hsame.trans heldApart_replace.symm))
      fun y hy => hlater y (List.mem_cons_of_mem _ hy)
    apply Cache.askAll_cons hfirst
    apply hrest.mono
    intro as t has
    apply Cache.askAll_cons hfirst'
    exact has.mono fun bs u hbs => congrArg (reply.value :: ·) hbs

end

/-! ### Room -/

/-- Every profile of a checked configuration has room wherever it needs some. -/
theorem size_pos_of_build {d : Config.Draft} (hd : d.build = .ok config) {ns : String}
    (hneeds : (config.registry.profileOf ns).eviction.NeedsRoom) :
    0 < (config.registry.profileOf ns).size := by
  obtain ⟨hroom, rfl⟩ := Config.Draft.not_cramped_of_build hd
  simp only [Config.Draft.Cramped, not_or, not_exists, not_and] at hroom
  have hprofile : ¬ (d.checked.registry.profileOf ns).hasNoRoom = true := by
    show ¬ ((d.namespaces.get? ns).getD d.standard).hasNoRoom = true
    cases hns : d.namespaces.get? ns with
    | none => exact hroom.1
    | some p => exact hroom.2 (ns, p) (Table.mem_entries_of_get? hns)
  by_contra hzero
  exact hprofile ((Profile.hasNoRoom_iff _).mpr ⟨hneeds, by omega⟩)

/-! ### Separation -/

/-- The cache of a namespace is kept apart from the others. -/
structure Separate (config : Config) (thread : Nat) (requests : List (Caller × Request))
    (ns : String) (r : Registry) (s : Stack) : Prop where
  id : (Stack.below 0).id s = ns
  /-- All calls on the namespace have reached this one cache. -/
  lived : ∃ asked, history ns requests = some asked ∧
    (config.registry.profileOf ns).Lived thread ns asked s
  /-- A request for another namespace leaves the cache as it is, and also what it answers, with
  weak entries as long as the other caches keep the same row lists alive. -/
  apart : ∀ c q, c.thread = thread → ¬ q.Concerns ns →
    ∃ reply, serve c r q = .done reply ∧ reply.state.get? ns = some s ∧
      ((config.registry.profileOf ns).eviction ≠ .weak ∨
          reply.state.heldApart ns = r.heldApart ns →
        ∀ later, (∀ x ∈ later, x.1.thread = thread) →
          ∃ answers, (cacheOf ns).answers later r = some answers ∧
            (cacheOf ns).answers later reply.state = some answers)
  /-- A cache that is bounded keeps within its size. -/
  room : (config.registry.profileOf ns).eviction.NeedsRoom →
    0 < (config.registry.profileOf ns).size ∧
      ∀ c, c.thread = thread →
        ((cacheOf ns).size c r).value ≤ (config.registry.profileOf ns).size

/-- So is every cache of a registry that has grown from a checked configuration. -/
theorem Grown.separate (h : Grown config thread requests r) {d : Config.Draft}
    (hd : d.build = .ok config) {ns : String} {s : Stack} (hs : r.get? ns = some s) :
    Separate config thread requests ns r s := by
  obtain ⟨asked, hasked, hlived⟩ := h.of_get? hs
  refine ⟨hlived.sound.2.1, ⟨asked, hasked, hlived⟩, ?_, ?_⟩
  · intro c q hc hq
    obtain ⟨reply, hreply, hsame, h'⟩ := (h.apart hc hq).done
    refine ⟨reply, hreply, hsame.trans hs, fun hheld later hlater => ?_⟩
    obtain ⟨first, hfirst, hthen⟩ := (h.answers_eq hs h' (hsame.trans hs) hheld later hlater).done
    obtain ⟨second, hsecond, hvalue⟩ := hthen.done
    refine ⟨first.value, ?_, ?_⟩
    · unfold Cache.answers
      rw [hfirst]
      rfl
    · unfold Cache.answers
      rw [hsecond, ← hvalue]
      rfl
  · intro hneeds
    have hpos := size_pos_of_build hd hneeds
    refine ⟨hpos, fun c hc => ?_⟩
    have hsize : ((cacheOf ns).size c r).value =
        ((Stack.below 0).size (c.holding (r.heldApart ns)) s).value := by
      unfold cacheOf Cache.within Part.reply part
      dsimp only
      rw [hs]
      rfl
    have hlived' := (hlived.ask hc (r.heldApart ns) .size).2
    have hle := hlived'.sound.2.2 hneeds
    rw [Nat.max_eq_left hpos] at hle
    rw [hsize, Stack.value_size_below]
    exact hle

/-- Whatever one thread asks of the registry of a checked configuration is served at once and
without failure. There is a cache for the namespaces that were asked for, and each of them is kept
apart from the others and within its size. -/
theorem namespaces_apart {d : Config.Draft} (hd : d.build = .ok config)
    (hrequests : ∀ x ∈ requests, x.1.thread = thread) :
    ∃ served, serveAll requests config.registry = .done served ∧
      (∀ a ∈ served.value, ∃ b, a = .ok b) ∧
        ∀ ns, ((served.state.get? ns).isSome = true ↔ ∃ x ∈ requests, x.2 = .provide ns) ∧
          ∀ s, served.state.get? ns = some s →
            Separate config thread requests ns served.state s := by
  obtain ⟨served, hserved, hok, h⟩ := (Grown.nil.serveAll requests hrequests).done
  rw [List.nil_append] at h
  refine ⟨served, hserved, hok, fun ns => ⟨?_, fun s hs => h.separate hd hs⟩⟩
  rw [h.isSome, history_isSome_iff]

/-! ### Rows in two caches -/

/-- Little room by default, and weak entries without pins for one namespace. -/
def shop : Config.Draft where
  standard := { size := 1 }
  namespaces := .ofList [("orders", { eviction := .weak, size := 0 })]

/-- The configuration of the two namespaces. -/
def shopConfig : Config where
  standard := { size := 1 }
  namespaces := .ofList [("orders", { eviction := .weak, size := 0 })]

theorem build_shop : shop.build = .ok shopConfig := rfl

/-- The same rows are written to two caches. -/
def sharedRows : List (Caller × Request) :=
  [({}, .provide "users"), ({}, .provide "orders"), ({}, .ask "users" (.put {} (.rows ⟨1, []⟩))),
    ({}, .ask "orders" (.put {} (.rows ⟨1, []⟩)))]

/-- They are removed from the one. -/
def removal : Caller × Request := ({}, .ask "users" (.remove {}))

/-- They are looked up in the other one. -/
def lookup : Caller × Request := ({}, .ask "orders" (.get {}))

/-- The cache with little room is kept apart and has one entry at most. -/
theorem namespaces_apart_shop :
    ∃ served s, serveAll (sharedRows ++ [removal, lookup]) shopConfig.registry = .done served ∧
      served.state.get? "users" = some s ∧
        Separate shopConfig 0 (sharedRows ++ [removal, lookup]) "users" served.state s := by
  have hthread : ∀ x ∈ sharedRows ++ [removal, lookup], x.1.thread = 0 := by
    simp [sharedRows, removal, lookup]
  obtain ⟨served, hserved, -, hns⟩ := namespaces_apart build_shop hthread
  have hsome : (served.state.get? "users").isSome = true :=
    (hns "users").1.mpr ⟨({}, .provide "users"), by simp [sharedRows], rfl⟩
  obtain ⟨s, hs⟩ := Option.isSome_iff_exists.mp hsome
  exact ⟨served, s, hserved, hs, (hns "users").2 s hs⟩

/-- What is removed from one cache is gone from another one as well, if that has weak entries and
nobody else keeps the rows alive. -/
theorem shared_rows_lost :
    shop.build = .ok shopConfig ∧
      (serveAll (sharedRows ++ [lookup]) shopConfig.registry).reply?.map (·.value.getLast?) =
        some (some (.ok (.answer (.entry (some (.rows ⟨1, []⟩)))))) ∧
      (serveAll (sharedRows ++ [removal, lookup]) shopConfig.registry).reply?.map
          (·.value.getLast?) =
        some (some (.ok (.answer (.entry none)))) := by
  refine ⟨rfl, ?_, ?_⟩
  · rfl
  · rfl

end QueryCache.Registry
