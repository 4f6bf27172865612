import Mathlib.Data.List.Perm.Basic
import QueryCache.Proofs.Stack.Usage
import QueryCache.Proofs.Table

/-!
# The recency list

A layer that evicts the least recently touched keys keeps an order of keys, and the store under
it the entries. Both together are one list of keys with entries, most recently touched first:
`Recency` is this list with the calls on it. A layer over a store of its own answers as the list
does, changes of the capacity included.

The two sides are kept in step call by call (`Follows`). The one change that takes two steps is an
eviction, in the order first and then in the store; `Follows.evict` is the end of it.
-/

namespace QueryCache

/-- What may be asked of a layer that evicts the least recently touched keys. -/
inductive Lru.Request where
  | ask (d : Demand)
  | resize (n : Capacity)

namespace Lru

variable {σ : Type}

/-- Serve one request. -/
def serve (inner : Cache σ) (c : Caller) (s : Over Lru σ) :
    Request → Run (Over Lru σ) (Except CacheFailure Response)
  | .ask d => (cache inner).ask c s d
  | .resize n => .done ((setCapacity inner c n s).map (·.map fun _ => .done))

/-- Serve several requests, in order. -/
def serveAll (inner : Cache σ) :
    List (Caller × Request) → Over Lru σ → Run (Over Lru σ) (List (Except CacheFailure Response))
  | [], s => .done ⟨[], s, []⟩
  | (c, q) :: rest, s =>
    (serve inner c s q).andThen c fun _ a s => (serveAll inner rest s).mapReply (·.map (a :: ·))

end Lru

/-- Keys with their entries, most recently touched first, and how many there may be. -/
structure Recency where
  capacity : Capacity
  pairs : List (Key × Entry) := []

namespace Recency

/-- The entry under a key. -/
def find? (l : Recency) (k : Key) : Option Entry := Table.find k l.pairs

/-- The pairs of the other keys. -/
def others (l : Recency) (k : Key) : List (Key × Entry) := l.pairs.filter (·.1 ≠ k)

/-- A written key moves or comes to the front with its new entry. If that makes one pair too many,
the last one is dropped. -/
def write (l : Recency) (k : Key) (e : Entry) : Recency :=
  let pairs := (k, e) :: l.others k
  { l with pairs := if pairs.length ≤ l.capacity.size then pairs else pairs.dropLast }

/-- A key that is found moves to the front. -/
def read (l : Recency) (k : Key) : Recency :=
  match l.find? k with
  | some e => { l with pairs := (k, e) :: l.others k }
  | none => l

/-- What a request leaves. -/
def after (l : Recency) : Lru.Request → Recency
  | .ask (.put k e) => l.write k e
  | .ask (.get k) => l.read k
  | .ask (.remove k) => { l with pairs := l.others k }
  | .ask .clear => { l with pairs := [] }
  | .ask .size => l
  | .resize n => ⟨n, l.pairs.take n.size⟩

/-- What a request is answered. -/
def answer (l : Recency) : Lru.Request → Response
  | .ask (.put ..) | .ask .clear | .resize _ => .done
  | .ask (.get k) | .ask (.remove k) => .entry (l.find? k)
  | .ask .size => .count l.pairs.length

/-- What several requests are answered, in order. -/
def answers : List Lru.Request → Recency → List Response
  | [], _ => []
  | q :: rest, l => l.answer q :: answers rest (l.after q)

/-- A key that is found has a pair, and the others are fewer. -/
theorem length_others_lt {l : Recency} {k : Key} (hk : (l.find? k).isSome = true) :
    (l.others k).length < l.pairs.length := by
  obtain ⟨e, he, rfl⟩ := List.mem_map.mp ((Table.find_isSome k l.pairs).mp hk)
  exact List.length_filter_lt_length_iff_exists.mpr ⟨e, he, by simp⟩

/-- There are no more pairs than the capacity. -/
def Roomy (l : Recency) : Prop := l.pairs.length ≤ l.capacity.size

/-- This never changes. -/
theorem Roomy.after {l : Recency} (h : l.Roomy) (q : Lru.Request) : (l.after q).Roomy := by
  have hothers (k : Key) : (l.others k).length ≤ l.pairs.length := List.length_filter_le _ _
  cases q with
  | resize n => exact (List.length_take_le n.size l.pairs)
  | ask d =>
    cases d with
    | put k e =>
      show (l.write k e).pairs.length ≤ l.capacity.size
      unfold write
      dsimp only
      split
      · assumption
      · have hle := hothers k
        rw [List.length_dropLast, List.length_cons]
        exact Nat.le_trans hle h
    | get k =>
      show (l.read k).pairs.length ≤ (l.read k).capacity.size
      unfold read
      cases hk : l.find? k with
      | none => exact h
      | some e => exact Nat.le_trans (length_others_lt (by rw [hk]; rfl)) h
    | remove k => exact Nat.le_trans (hothers k) h
    | clear => exact Nat.zero_le _
    | size => exact h

end Recency

namespace Lru

/-- The order and the store together are a recency list. -/
structure Follows (l : Recency) (s : Over Lru Store) : Prop where
  capacity : s.own.capacity = l.capacity
  order : s.own.order = l.pairs.map Prod.fst
  nodup : (l.pairs.map Prod.fst).Nodup
  keys : s.inner.entries.keys.Nodup
  found : ∀ k, s.inner.entries.get? k = l.find? k

variable {l : Recency} {s : Over Lru Store}

namespace Follows

variable (h : Follows l s)

include h

/-- The tracked keys are those of the store. -/
theorem order_perm : s.own.order.Perm s.inner.entries.keys := by
  rw [List.perm_ext_iff_of_nodup (h.order ▸ h.nodup) h.keys, h.order]
  intro k
  rw [← Table.contains_iff, ← Table.find_isSome, Table.contains, h.found]
  rfl

/-- There are as many entries as pairs. -/
theorem size_eq : s.inner.entries.size = l.pairs.length := by
  have hlength := h.order_perm.length_eq
  rw [h.order, List.length_map, Table.keys, List.length_map] at hlength
  exact hlength.symm

theorem mem_order (k : Key) : k ∈ s.own.order ↔ (l.find? k).isSome = true := by
  rw [h.order, ← Table.find_isSome]
  rfl

omit h

/-- Without the pair of a key, its entry is not found, and nothing else changes. -/
private theorem find_others (l : Recency) (k a : Key) :
    Table.find a (l.others k) = if k = a then none else l.find? a :=
  Table.get?_erase ⟨l.pairs⟩ k a

private theorem keys_others (l : Recency) (k : Key) :
    (l.others k).map Prod.fst = (l.pairs.map Prod.fst).filter (· ≠ k) :=
  Table.keys_erase ⟨l.pairs⟩ k

private theorem others_of_not_mem {k : Key} (hk : k ∉ l.pairs.map Prod.fst) :
    l.others k = l.pairs := by
  refine List.filter_eq_self.mpr fun e he => decide_eq_true ?_
  rintro rfl
  exact hk (List.mem_map_of_mem he)

private theorem filter_of_not_mem {order : List Key} {k : Key} (hk : k ∉ order) :
    order.filter (· ≠ k) = order := by
  refine List.filter_eq_self.mpr fun a ha => decide_eq_true ?_
  rintro rfl
  exact hk ha

/-- No key occurs twice, so the last pair is the only one of its key. -/
private theorem others_last {init : List (Key × Entry)} {x : Key × Entry}
    (hpairs : l.pairs = init ++ [x]) (hnodup : (l.pairs.map Prod.fst).Nodup) :
    l.others x.1 = init := by
  rw [hpairs, List.map_append, List.map_singleton, List.nodup_append] at hnodup
  have hne (e : Key × Entry) (he : e ∈ init) : e.1 ≠ x.1 :=
    hnodup.2.2 _ (List.mem_map_of_mem he) _ List.mem_cons_self
  rw [Recency.others, hpairs, List.filter_append]
  rw [List.filter_eq_self.mpr fun e he => decide_eq_true (hne e he)]
  simp

include h

/-- A key that has come to the front of the order, with its entry in the store. -/
theorem front {k : Key} {e : Entry} {order : List Key} {entries : Table Key Entry}
    (horder : order = k :: s.own.order.filter (· ≠ k)) (hkeys : entries.keys.Nodup)
    (hfound : ∀ a, entries.get? a = if k = a then some e else s.inner.entries.get? a) :
    Follows { l with pairs := (k, e) :: l.others k }
      ⟨{ s.own with order }, { s.inner with entries }⟩ where
  capacity := h.capacity
  order := by
    rw [horder, h.order, List.map_cons, keys_others]
  nodup := by
    rw [List.map_cons, keys_others]
    exact List.nodup_cons.mpr ⟨by simp, h.nodup.filter _⟩
  keys := hkeys
  found a := by
    show entries.get? a = Table.find a ((k, e) :: l.others k)
    rw [hfound, h.found, Table.find, find_others]
    by_cases hka : k = a
    · rw [if_pos hka, if_pos hka]
    · rw [if_neg hka, if_neg hka, if_neg hka]

/-- A key that has left the order and the store. -/
theorem drop {k : Key} {order : List Key} {entries : Table Key Entry}
    (horder : order = s.own.order.filter (· ≠ k)) (hentries : entries = s.inner.entries.erase k) :
    Follows { l with pairs := l.others k } ⟨{ s.own with order }, { s.inner with entries }⟩ where
  capacity := h.capacity
  order := by
    rw [horder, h.order, keys_others]
  nodup := by
    rw [keys_others]
    exact h.nodup.filter _
  keys := by
    rw [hentries, Table.keys_erase]
    exact h.keys.filter _
  found a := by
    show entries.get? a = Table.find a (l.others k)
    rw [hentries, Table.get?_erase, h.found, find_others]

/-- Once the last key has left the order, evicting it inside drops the last pair. -/
theorem evict (c : Caller) {k : Key} (hk : s.own.order.getLast? = some k) :
    (Lru.evict Store.cache c k
        { s with own := { s.own with order := s.own.order.dropLast } }).value = .ok () ∧
      Follows { l with pairs := l.pairs.dropLast }
        (Lru.evict Store.cache c k
          { s with own := { s.own with order := s.own.order.dropLast } }).state := by
  rw [h.order, List.getLast?_map, Option.map_eq_some_iff] at hk
  obtain ⟨x, hx, rfl⟩ := hk
  obtain ⟨init, hinit⟩ := List.getLast?_eq_some_iff.mp hx
  have hothers : l.others x.1 = l.pairs.dropLast := by
    rw [others_last hinit h.nodup, hinit, List.dropLast_concat]
  have horder : s.own.order.dropLast = s.own.order.filter (· ≠ x.1) := by
    rw [h.order, ← keys_others, hothers, List.map_dropLast]
  refine ⟨rfl, ?_⟩
  rw [← hothers]
  exact h.drop horder rfl

omit h

/-- What the layer does with a written key follows on the write inside. -/
private theorem put_eq (c : Caller) (k : Key) (e : Entry) {gone? : Option Key} {own : Lru}
    (hrecord : s.own.record k = (gone?, own)) (hgone : gone? ≠ some k) :
    Lru.put Store.cache c k e s =
      gone?.elim ⟨.ok (), ⟨own, { s.inner with entries := s.inner.entries.insert k e }⟩, []⟩
        fun x => Lru.evict Store.cache c x
          ⟨own, { s.inner with entries := s.inner.entries.insert k e }⟩ := by
  have hinside : (Lru.inside.reply c s fun c i => Store.cache.put c k e i) =
      ⟨.ok (), ⟨s.own, { s.inner with entries := s.inner.entries.insert k e }⟩, []⟩ := rfl
  unfold Lru.put
  rw [hinside]
  unfold Reply.andThen
  dsimp only
  rw [hrecord]
  cases gone? with
  | none => rfl
  | some x =>
    dsimp only
    rw [if_neg fun hx => hgone (congrArg some hx)]
    rfl

include h

theorem length_order : s.own.order.length = l.pairs.length := by
  rw [h.order, List.length_map]

/-- A written key comes to the front, in the order and in the store. -/
theorem written {k : Key} {order : List Key}
    (horder : order = k :: s.own.order.filter (· ≠ k)) (e : Entry) :
    Follows { l with pairs := (k, e) :: l.others k }
      ⟨{ s.own with order }, { s.inner with entries := s.inner.entries.insert k e }⟩ :=
  h.front horder (Table.nodup_insert h.keys k e) fun a => Table.get?_insert s.inner.entries k a e

/-- A write that evicts nothing. -/
theorem put_room (c : Caller) {k : Key} (e : Entry) {order : List Key}
    (horder : order = k :: s.own.order.filter (· ≠ k))
    (hrecord : s.own.record k = (none, { s.own with order }))
    (hfits : ((k, e) :: l.others k).length ≤ l.capacity.size) :
    (Lru.put Store.cache c k e s).value = .ok () ∧
      Follows (l.write k e) (Lru.put Store.cache c k e s).state := by
  rw [put_eq c k e hrecord nofun, Recency.write, if_pos hfits]
  exact ⟨rfl, h.written horder e⟩

/-- A write of a new key to a full layer evicts the last one. -/
theorem put_full (c : Caller) {k : Key} (e : Entry) (hk : k ∉ s.own.order)
    (hroom : ¬ s.own.order.length < s.own.capacity.size) :
    (Lru.put Store.cache c k e s).value = .ok () ∧
      Follows (l.write k e) (Lru.put Store.cache c k e s).state := by
  have hpos := s.own.capacity.pos
  have hne : s.own.order ≠ [] := List.ne_nil_of_length_pos (by omega)
  obtain ⟨init, x, hx⟩ : ∃ init x, s.own.order = init ++ [x] :=
    ⟨_, _, (List.dropLast_concat_getLast hne).symm⟩
  have hrecord : s.own.record k = (some x, { s.own with order := k :: init }) := by
    rw [Lru.record, if_neg hk, if_neg hroom, hx, List.getLast?_concat, List.dropLast_concat]
  have hxk : some x ≠ some k := by
    intro heq
    apply hk
    rw [hx, ← Option.some.inj heq]
    simp
  have hfull : ¬ ((k, e) :: l.others k).length ≤ l.capacity.size := by
    have hlength := h.length_order
    rw [h.capacity] at hroom
    rw [others_of_not_mem (h.order ▸ hk), List.length_cons]
    omega
  -- The new key is first in front of all that there were, and then the last one goes.
  have horder : k :: s.own.order = k :: s.own.order.filter (· ≠ k) := by
    rw [filter_of_not_mem hk]
  have hlast : (k :: s.own.order).getLast? = some x := by
    rw [hx, ← List.cons_append, List.getLast?_concat]
  have hdrop : (k :: s.own.order).dropLast = k :: init := by
    rw [hx, ← List.cons_append, List.dropLast_concat]
  have hevict := (h.written horder e).evict c hlast
  dsimp only at hevict
  rw [hdrop] at hevict
  rw [put_eq c k e hrecord hxk, Recency.write, if_neg hfull]
  exact hevict

/-- A write, which evicts a key if it brings a new one to a full layer. -/
theorem put (hroom : l.Roomy) (c : Caller) (k : Key) (e : Entry) :
    (Lru.put Store.cache c k e s).value = .ok () ∧
      Follows (l.write k e) (Lru.put Store.cache c k e s).state := by
  by_cases hk : k ∈ s.own.order
  · have hfewer := Recency.length_others_lt ((h.mem_order k).mp hk)
    exact h.put_room c e rfl (if_pos hk) (Nat.le_trans hfewer hroom)
  · by_cases hlt : s.own.order.length < s.own.capacity.size
    · have horder : k :: s.own.order = k :: s.own.order.filter (· ≠ k) := by
        rw [filter_of_not_mem hk]
      have hrecord : s.own.record k = (none, { s.own with order := k :: s.own.order }) := by
        rw [Lru.record, if_neg hk, if_pos hlt]
      refine h.put_room c e horder hrecord ?_
      have hlength := h.length_order
      rw [h.capacity] at hlt
      rw [others_of_not_mem (h.order ▸ hk), List.length_cons]
      omega
    · exact h.put_full c e hk hlt

/-- A lookup. -/
theorem get (c : Caller) (k : Key) :
    ((Lru.cache Store.cache).get c k s).Returns fun v s' =>
      v = .ok (l.find? k) ∧ Follows (l.read k) s' := by
  refine ⟨congrArg Except.ok (h.found k), ?_⟩
  unfold Recency.read
  show Follows _ ⟨s.own.promote k, s.inner⟩
  have hmem := h.mem_order k
  cases hk : l.find? k with
  | none =>
    have hnot : k ∉ s.own.order := by simp [hmem, hk]
    rw [Lru.promote, if_neg hnot]
    exact h
  | some e =>
    have hin : k ∈ s.own.order := by simp [hmem, hk]
    rw [Lru.promote, if_pos hin]
    refine h.front rfl h.keys fun a => ?_
    split
    · next hka => rw [← hka, h.found, hk]
    · rfl

/-- Evicting from the end leaves the first pairs. -/
theorem shrink (c : Caller) (n fuel : Nat) (hfuel : l.pairs.length ≤ n + fuel) :
    (Lru.shrink Store.cache c n fuel s).value = .ok () ∧
      Follows { l with pairs := l.pairs.take n } (Lru.shrink Store.cache c n fuel s).state := by
  induction fuel generalizing l s with
  | zero =>
    rw [List.take_of_length_le (by omega)]
    exact ⟨rfl, h⟩
  | succ fuel ih =>
    have hlength := h.length_order
    unfold Lru.shrink
    by_cases hle : s.own.order.length ≤ n
    · rw [if_pos hle, List.take_of_length_le (hlength ▸ hle)]
      exact ⟨rfl, h⟩
    · have hne : s.own.order ≠ [] := by
        refine List.ne_nil_of_length_pos ?_
        omega
      obtain ⟨hvalue, hevicted⟩ := h.evict c (List.getLast?_eq_some_getLast hne)
      have hshorter : l.pairs.dropLast.length ≤ n + fuel := by
        rw [List.length_dropLast]
        omega
      have hrest := ih hevicted hshorter
      have htake : l.pairs.dropLast.take n = l.pairs.take n := by
        rw [List.dropLast_eq_take, List.take_take, Nat.min_eq_left (by omega)]
      dsimp only at hrest
      rw [htake] at hrest
      rw [if_neg hle, List.getLast?_eq_some_getLast hne]
      unfold Reply.andThen
      dsimp only
      rw [hvalue]
      exact hrest

/-- One request is answered as the list answers it. -/
theorem serve (hroom : l.Roomy) (c : Caller) (q : Request) :
    (Lru.serve Store.cache c s q).Returns fun a s' =>
      a = .ok (l.answer q) ∧ Follows (l.after q) s' := by
  cases q with
  | ask d =>
    cases d with
    | put k e =>
      obtain ⟨hvalue, hwritten⟩ := h.put hroom c k e
      exact ⟨congrArg (Except.map fun _ => Response.done) hvalue, hwritten⟩
    | get k =>
      apply (Run.returns_map _).mpr
      apply (h.get c k).mono
      rintro v s' ⟨rfl, hread⟩
      exact ⟨rfl, hread⟩
    | remove k => exact ⟨congrArg (Except.ok ∘ Response.entry) (h.found k), h.drop rfl rfl⟩
    | clear =>
      refine ⟨rfl, h.capacity, rfl, List.nodup_nil, List.nodup_nil, fun k => rfl⟩
    | size => exact ⟨congrArg (Except.ok ∘ Response.count) h.size_eq, h⟩
  | resize n =>
    have hfuel : l.pairs.length ≤ n.size + s.own.order.length := by
      rw [h.length_order]
      omega
    obtain ⟨hvalue, hshrunk⟩ := h.shrink c n.size s.own.order.length hfuel
    unfold Lru.serve setCapacity Reply.andThen
    dsimp only
    rw [hvalue]
    exact ⟨rfl, rfl, hshrunk.order, hshrunk.nodup, hshrunk.keys, hshrunk.found⟩

end Follows

/-- So are several requests. -/
theorem Follows.serveAll (h : Follows l s) (hroom : l.Roomy) (requests : List (Caller × Request)) :
    (Lru.serveAll Store.cache requests s).Returns fun as s' =>
      as = (Recency.answers (requests.map Prod.snd) l).map .ok ∧ ∃ l', Follows l' s' := by
  induction requests generalizing l s with
  | nil => exact ⟨rfl, l, h⟩
  | cons x rest ih =>
    obtain ⟨c, q⟩ := x
    apply (h.serve hroom c q).andThen
    rintro c' a s' ⟨rfl, hafter⟩
    apply (ih hafter (hroom.after q)).mapReply
    rintro r ⟨hrest, hend⟩
    exact ⟨congrArg (Except.ok (l.answer q) :: ·) hrest, hend⟩

/-- Whatever is asked of a layer over a store of its own is answered at once, and as the recency
list answers it. The keys that the layer keeps track of are always those of the store. -/
theorem answers_recency (capacity : Capacity) (name : String)
    (requests : List (Caller × Request)) :
    ∃ r, Lru.serveAll Store.cache requests ⟨{ capacity }, { name }⟩ = .done r ∧
      r.value = (Recency.answers (requests.map Prod.snd) { capacity }).map .ok ∧
      r.state.own.order.Nodup ∧ r.state.own.order.Perm r.state.inner.entries.keys := by
  have hstart : Follows { capacity } ⟨{ capacity }, { name }⟩ :=
    ⟨rfl, rfl, List.nodup_nil, List.nodup_nil, fun _ => rfl⟩
  obtain ⟨r, hr, hvalue, l, hl⟩ := (hstart.serveAll (Nat.zero_le _) requests).done
  exact ⟨r, hr, hvalue, hl.order ▸ hl.nodup, hl.order_perm⟩

end Lru

end QueryCache
