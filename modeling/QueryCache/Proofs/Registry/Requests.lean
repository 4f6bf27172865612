import QueryCache.Proofs.Stack.Whole
import QueryCache.Proofs.Table
import QueryCache.Registry

/-!
# Requests to a registry

What is asked of a registry and of the caches obtained from it, request by request. A cache is
reached by its namespace. `history` tells which calls have reached it; clearing all caches is one
of them.

Every request changes one cache at most, in its place, with the exception of the clearing, which
changes all of them one after the other.
-/

namespace QueryCache.Registry

/-- What may be asked of a registry and of the caches obtained from it. -/
inductive Request where
  | provide (ns : String)
  | find (ns : String)
  | clearAll
  | ask (ns : String) (d : Demand)

/-- Whether a request is one for the cache of a namespace, or a call on it. -/
def Request.Concerns (ns : String) : Request → Prop
  | provide m | find m | ask m _ => m = ns
  | clearAll => True

/-- What is answered: whether there is a cache, or what the caches answer. -/
inductive Outcome where
  | cache (found : Bool)
  | answer (a : Response)
  deriving DecidableEq

/-- The cache of a namespace, as a cache on the registry. -/
def cacheOf (ns : String) : Cache Registry := (Stack.below 0).within (part ns (Stack.ofStore ns))

/-- Serve a request. A cache that has not been obtained cannot be asked. -/
def serve (c : Caller) (r : Registry) : Request → Run Registry (Except CacheFailure Outcome)
  | .provide ns => .done ((r.provide ns).map fun _ => .ok (.cache true))
  | .find ns => .done ⟨.ok (.cache (r.get? ns).isSome), r, []⟩
  | .clearAll => .done ((r.clearAll c).map (·.map fun _ => .answer .done))
  | .ask ns d =>
    if (r.get? ns).isSome then ((cacheOf ns).ask c r d).mapReply (·.map (·.map .answer))
    else .done ⟨.ok (.cache false), r, []⟩

/-- Serve several requests, in order. -/
def serveAll :
    List (Caller × Request) → Registry → Run Registry (List (Except CacheFailure Outcome))
  | [], r => .done ⟨[], r, []⟩
  | (c, q) :: rest, r =>
    (serve c r q).andThen c fun _ a r => (serveAll rest r).mapReply (·.map (a :: ·))

/-- The calls on the cache of a namespace, with one request more. There is no cache before it is
obtained for the first time. -/
def record (ns : String) (before : Option (List (Caller × Demand))) (x : Caller × Request) :
    Option (List (Caller × Demand)) :=
  match x.2 with
  | .provide m => if m = ns then some (before.getD []) else before
  | .find _ => before
  | .clearAll => before.map (· ++ [(x.1, .clear)])
  | .ask m d => if m = ns then before.map (· ++ [(x.1, d)]) else before

/-- The calls that reach the cache of a namespace, if it is obtained at all. -/
def history (ns : String) (requests : List (Caller × Request)) :
    Option (List (Caller × Demand)) :=
  requests.foldl (record ns) none

theorem history_concat (ns : String) (requests : List (Caller × Request))
    (x : Caller × Request) : history ns (requests ++ [x]) = record ns (history ns requests) x := by
  simp [history]

/-- A cache is obtained by asking for it. -/
theorem history_isSome_iff (ns : String) (requests : List (Caller × Request)) :
    (history ns requests).isSome = true ↔ ∃ x ∈ requests, x.2 = .provide ns := by
  induction requests using List.reverseRecOn with
  | nil => simp [history]
  | append_singleton requests x ih =>
    have hlast : (record ns (history ns requests) x).isSome = true ↔
        (history ns requests).isSome = true ∨ x.2 = .provide ns := by
      unfold record
      cases hx : x.2 with
      | provide m => by_cases hm : m = ns <;> simp [hm]
      | find m => simp
      | clearAll => simp
      | ask m d => by_cases hm : m = ns <;> simp [hm]
    rw [history_concat, hlast, ih]
    simp only [List.mem_append, List.mem_singleton, or_and_right, exists_or, exists_eq_left]

/-! ### One cache among the others -/

/-- Whether a cache of another namespace keeps a row list alive. -/
def heldApart (ns : String) (r : Registry) (id : RowsId) : Bool :=
  r.caches.entries.any fun e => e.1 ≠ ns && e.2.holds id

/-- The registry with another state of the cache of a namespace. -/
def replace (ns : String) (s : Stack) (r : Registry) : Registry :=
  { r with caches := r.caches.modify ns fun _ => s }

/-- The same profiles, and caches for the same namespaces. -/
structure Alike (r r' : Registry) : Prop where
  standard : r'.standard = r.standard
  overrides : r'.overrides = r.overrides
  keys : r'.caches.keys = r.caches.keys

theorem Alike.refl (r : Registry) : Alike r r := ⟨rfl, rfl, rfl⟩

theorem Alike.trans {r r' r'' : Registry} (h : Alike r r') (h' : Alike r' r'') : Alike r r'' where
  standard := h'.standard.trans h.standard
  overrides := h'.overrides.trans h.overrides
  keys := h'.keys.trans h.keys

section Replace

variable {ns : String} {s : Stack} {r : Registry}

theorem alike_replace : Alike r (r.replace ns s) := ⟨rfl, rfl, Table.keys_modify _ _ _⟩

theorem get?_replace_self (h : (r.get? ns).isSome = true) : (r.replace ns s).get? ns = some s := by
  obtain ⟨t, ht⟩ := Option.isSome_iff_exists.mp h
  unfold get? at ht
  unfold get? replace
  rw [Table.get?_modify, if_pos rfl, ht]
  rfl

theorem get?_replace_of_ne {m : String} (h : m ≠ ns) : (r.replace ns s).get? m = r.get? m := by
  unfold get? replace
  rw [Table.get?_modify, if_neg (Ne.symm h)]

/-- What the caches of the other namespaces keep alive does not depend on this one. -/
theorem heldApart_replace : (r.replace ns s).heldApart ns = r.heldApart ns := by
  funext id
  unfold heldApart replace Table.modify
  rw [List.any_map]
  congr 1
  funext e
  by_cases he : e.1 = ns <;> simp [he]

/-- A call on a cache of the registry is one on its stack, by a caller for whom the caches of the
other namespaces keep row lists alive. -/
theorem ask_cacheOf (h : r.get? ns = some s) (c : Caller) (d : Demand) :
    (cacheOf ns).ask c r d =
      ((Stack.below 0).ask (c.holding (r.heldApart ns)) s d).within (part ns (Stack.ofStore ns))
        r := by
  unfold cacheOf
  rw [Cache.ask_within]
  unfold Part.run part
  dsimp only
  rw [h]
  rfl

end Replace

/-! ### Clearing all caches -/

/-- The first cache is cleared for a caller for whom all others keep row lists alive; then the
rest is. -/
theorem clearAll_go_cons {c : Caller} {ns : String} {s : Stack} {rest : List (String × Stack)}
    {r : Registry} (hs : r.get? ns = some s) {cleared : Reply Stack (Except CacheFailure Unit)}
    (hcleared : (Stack.below 0).clear (c.holding (r.heldApart ns)) s = cleared)
    (hvalue : cleared.value = .ok ()) :
    clearAll.go c ((ns, s) :: rest) r =
      (clearAll.go c rest (r.replace ns cleared.state)).after cleared.notes := by
  have hfirst : (part ns s).reply c r (Stack.below 0).clear = cleared.within (part ns s) r := by
    rw [← hcleared]
    unfold Part.reply part
    dsimp only
    rw [hs]
    rfl
  rw [clearAll.go, hfirst]
  simp only [Reply.andThen, Reply.within, hvalue]
  rfl

/-- Clearing some caches clears each of them once, for a caller for whom the others keep row lists
alive at that time, and changes no other one. -/
theorem clearAll_go {c : Caller} {l : List (String × Stack)} (hl : (l.map Prod.fst).Nodup)
    {r : Registry} (hr : ∀ e ∈ l, r.get? e.1 = some e.2)
    (hok : ∀ e ∈ l, ∀ held, ((Stack.below 0).clear (c.holding held) e.2).value = .ok ()) :
    (clearAll.go c l r).value = .ok () ∧ Alike r (clearAll.go c l r).state ∧
      (∀ ns, ns ∉ l.map Prod.fst → (clearAll.go c l r).state.get? ns = r.get? ns) ∧
      ∀ e ∈ l, ∃ held, (clearAll.go c l r).state.get? e.1 =
        some ((Stack.below 0).clear (c.holding held) e.2).state := by
  induction l generalizing r with
  | nil => exact ⟨rfl, .refl r, fun _ _ => rfl, nofun⟩
  | cons e rest ih =>
    obtain ⟨ns, s⟩ := e
    obtain ⟨hns, hrest⟩ := List.nodup_cons.mp hl
    have hs : r.get? ns = some s := hr (ns, s) List.mem_cons_self
    have hvalue := hok (ns, s) List.mem_cons_self (r.heldApart ns)
    generalize hcleared : (Stack.below 0).clear (c.holding (r.heldApart ns)) s = cleared at hvalue
    have hother (m : String) (hm : m ≠ ns) :
        (r.replace ns cleared.state).get? m = r.get? m := get?_replace_of_ne hm
    have hne (m : String) (hm : m ∈ rest.map Prod.fst) : m ≠ ns := by
      rintro rfl
      exact hns hm
    obtain ⟨hv, halike, hsame, hall⟩ := ih (r := r.replace ns cleared.state) hrest
      (fun e he => (hother e.1 (hne e.1 (List.mem_map_of_mem he))).trans
        (hr e (List.mem_cons_of_mem _ he)))
      fun e he => hok e (List.mem_cons_of_mem _ he)
    rw [clearAll_go_cons hs hcleared hvalue]
    refine ⟨hv, alike_replace.trans halike, ?_, ?_⟩
    · intro m hm
      rw [List.map_cons, List.mem_cons, not_or] at hm
      exact (hsame m hm.2).trans (hother m hm.1)
    · intro e he
      rcases List.mem_cons.mp he with rfl | he
      · refine ⟨r.heldApart ns, (hsame ns hns).trans ?_⟩
        rw [hcleared]
        exact get?_replace_self (by rw [hs]; rfl)
      · exact hall e he

end QueryCache.Registry
