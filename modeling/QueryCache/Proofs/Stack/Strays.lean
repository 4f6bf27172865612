import QueryCache.Layer.Probe
import QueryCache.Proofs.Stack.Bounds
import QueryCache.Proofs.Stack.Recency
import QueryCache.Proofs.Stack.Room

/-!
# Strays

A layer that evicts keys keeps track of those that are stored inside. When the cache inside refuses
calls, the two may part, but only in one direction. The layer that evicts the least recently touched
keys never keeps track of a key that is not stored (`tracked_stored`). But it gives a key up before
it removes it inside, and if this is refused, the entry stays and will not be evicted: the key has
gone astray, until it is written or removed anew.

So the number of entries is bounded by the capacity and the strays together (`atMost_strays`). As
long as there are none, one refused write exceeds the capacity by one entry; after that, the bound
is lost.
-/

namespace QueryCache

/-! ### Tracked keys are stored -/

namespace Lru

variable {σ : Type} {inner : Cache σ} {stored : σ → Key → Option Entry} {l : Lru} {s : Over Lru σ}

theorem nodup_front {order : List Key} (h : order.Nodup) (k : Key) : (front k order).Nodup :=
  List.nodup_cons.mpr ⟨by simp, h.filter _⟩

theorem mem_front {order : List Key} {k a : Key} (ha : a ∈ front k order) : a = k ∨ a ∈ order :=
  (List.mem_cons.mp ha).imp_right fun hm => (List.mem_filter.mp hm).1

/-- The last key is none of the others. -/
theorem ne_of_mem_dropLast {order : List Key} {k a : Key} (hn : order.Nodup)
    (hlast : order.getLast? = some k) (ha : a ∈ order.dropLast) : a ≠ k := by
  obtain ⟨init, hinit⟩ := List.getLast?_eq_some_iff.mp hlast
  rw [hinit] at hn ha
  rw [List.dropLast_concat] at ha
  exact (List.nodup_append.mp hn).2.2 a ha k List.mem_cons_self

/-- A removal leaves the other keys as they are, also when it is refused. -/
theorem stored_remove_of_ne (h : inner.Fallible stored) (c : Caller) {k a : Key} (hka : k ≠ a)
    (i : σ) : stored (inner.remove c k i).state a = stored i a := by
  rcases h.remove c k i with ⟨-, hstored⟩ | ⟨-, hstored⟩
  · exact (congrFun hstored a).trans (if_neg hka)
  · exact congrFun hstored a

/-- Touching a written key keeps track of no other new key, and of none that it gives up. -/
theorem nodup_record (hl : l.order.Nodup) (k : Key) :
    (l.record k).2.order.Nodup ∧ ∀ a ∈ (l.record k).2.order,
      (a = k ∨ a ∈ l.order) ∧ givenUp record l k ≠ some a := by
  have hnone (a : Key) (h : (l.record k).1 = none) : givenUp record l k ≠ some a := by
    rw [givenUp, h]
    exact (Option.some_ne_none a).symm
  by_cases hk : k ∈ l.order
  · have hrecord : l.record k = (none, { l with order := front k l.order }) := if_pos hk
    rw [hrecord] at hnone ⊢
    exact ⟨nodup_front hl k, fun a ha => ⟨mem_front ha, hnone a rfl⟩⟩
  by_cases hlt : l.order.length < l.capacity.size
  · have hrecord : l.record k = (none, { l with order := k :: l.order }) := by
      rw [record, if_neg hk, if_pos hlt]
    rw [hrecord] at hnone ⊢
    exact ⟨List.nodup_cons.mpr ⟨hk, hl⟩, fun a ha => ⟨List.mem_cons.mp ha, hnone a rfl⟩⟩
  · have hrecord : l.record k = (l.order.getLast?, { l with order := k :: l.order.dropLast }) := by
      rw [record, if_neg hk, if_neg hlt]
    have hsub := List.dropLast_subset l.order
    have hrest : l.order.dropLast.Nodup := hl.sublist (List.dropLast_sublist _)
    rw [hrecord]
    refine ⟨List.nodup_cons.mpr ⟨fun hm => hk (hsub hm), hrest⟩,
      fun a ha => ⟨(List.mem_cons.mp ha).imp_right fun hm => hsub hm, fun hgiven => ?_⟩⟩
    obtain ⟨hlast, hne⟩ := givenUp_eq_some.mp hgiven
    rw [hrecord] at hlast
    exact ne_of_mem_dropLast hl hlast ((List.mem_cons.mp ha).resolve_left hne) rfl

/-- No key is tracked twice, there are no more than the capacity, and each of them is stored. -/
structure Sound (stored : σ → Key → Option Entry) (s : Over Lru σ) : Prop where
  nodup : s.own.order.Nodup
  room : s.own.order.length ≤ s.own.capacity.size
  stored : ∀ k ∈ s.own.order, (stored s.inner k).isSome = true

namespace Sound

/-- A layer may keep track of fewer keys. -/
theorem fewer (h : Sound stored s) {order : List Key} {i : σ} (hsub : order.Sublist s.own.order)
    (hstored : ∀ k ∈ order, stored i k = stored s.inner k) :
    Sound stored ⟨{ s.own with order }, i⟩ where
  nodup := h.nodup.sublist hsub
  room := Nat.le_trans hsub.length_le h.room
  stored k hk := by
    rw [hstored k hk]
    exact h.stored k (hsub.subset hk)

/-- A written key is tracked and stored, and one that is given up is no longer tracked. -/
theorem written (hs : Sound stored s) {s' : Over Lru σ} {k : Key} {e : Entry}
    {value : Except CacheFailure Unit} (hw : Written record stored k e s s' value) :
    Sound stored s' := by
  obtain ⟨hnodup, hmem⟩ := nodup_record hs.nodup k
  obtain ⟨hcap, hlen, -⟩ := mem_record hs.room k
  have hentered (hown : s'.own = (s.own.record k).2)
      (hstored : ∀ a ∈ (s.own.record k).2.order,
        stored s'.inner a = if k = a then some e else stored s.inner a) : Sound stored s' := by
    refine ⟨hown ▸ hnodup, by rw [hown, hcap]; exact hlen, fun a ha => ?_⟩
    rw [hown] at ha
    rw [hstored a ha]
    split
    · rfl
    · next hka => exact hs.stored a ((hmem a ha).1.resolve_left fun hak => hka hak.symm)
  cases hw with
  | refused hown hstored =>
    refine ⟨hown ▸ hs.nodup, hown ▸ hs.room, fun a ha => ?_⟩
    rw [hstored]
    exact hs.stored a (hown ▸ ha)
  | entered hown hgone hstored => exact hentered hown fun a _ => hstored a
  | left hown hgone hstored => exact hentered hown fun a _ => hstored a
  | evicted hown hgone hstored =>
    refine hentered hown fun a ha => ?_
    rw [hstored, if_neg]
    rintro rfl
    exact (hmem _ ha).2 hgone

variable (h : inner.Fallible stored) (hs : Sound stored s)

include h hs

theorem put (c : Caller) (k : Key) (e : Entry) : Sound stored (Lru.put inner c k e s).state := by
  rw [put_eq_makeRoom]
  exact hs.written (makeRoom_written h c k e s)

theorem get (c : Caller) (k : Key) :
    ((cache inner).get c k s).Returns fun _ s' => Sound stored s' := by
  refine (h.get _ k s.inner).within fun v i hi => ?_
  have hsame : stored i = stored s.inner := hi.elim And.right And.right
  show Sound stored ⟨s.own.promote k, i⟩
  unfold promote
  split
  · next hk =>
    refine ⟨nodup_front hs.nodup k, Nat.le_trans (length_front_le hk) hs.room, fun a ha => ?_⟩
    rw [hsame]
    exact hs.stored a ((mem_front ha).elim (fun hak => hak ▸ hk) id)
  · exact hs.fewer (List.Sublist.refl _) fun a _ => congrFun hsame a

theorem remove (c : Caller) (k : Key) : Sound stored ((cache inner).remove c k s).state := by
  have hfewer : (s.own.order.filter (· ≠ k)).Sublist s.own.order := List.filter_sublist
  refine hs.fewer hfewer fun a ha => ?_
  have hka : k ≠ a := fun hka => by simp [hka] at ha
  exact stored_remove_of_ne h (c.holding fun _ => false) hka s.inner

/-- The last key is given up and evicted inside, unless this is refused. -/
theorem evict (c : Caller) {k : Key} (hk : s.own.order.getLast? = some k) :
    Sound stored (Lru.evict inner c k
      { s with own := { s.own with order := s.own.order.dropLast } }).state := by
  refine hs.fewer (List.dropLast_sublist _) fun a ha => ?_
  have hka : a ≠ k := ne_of_mem_dropLast hs.nodup hk ha
  exact stored_remove_of_ne h (c.holding fun _ => false) hka.symm s.inner

/-- Evicting from the end, as far as it gets. -/
theorem shrink (c : Caller) (n fuel : Nat) (hfuel : s.own.order.length ≤ n + fuel) :
    Sound stored (Lru.shrink inner c n fuel s).state ∧
      ((Lru.shrink inner c n fuel s).value = .ok () →
        (Lru.shrink inner c n fuel s).state.own.order.length ≤ n) := by
  induction fuel generalizing s with
  | zero => exact ⟨hs, fun _ => hfuel⟩
  | succ fuel ih =>
    unfold Lru.shrink
    by_cases hle : s.own.order.length ≤ n
    · rw [if_pos hle]
      exact ⟨hs, fun _ => hle⟩
    · have hne : s.own.order ≠ [] := by
        refine List.ne_nil_of_length_pos ?_
        omega
      have hlast := List.getLast?_eq_some_getLast hne
      have hevicted := hs.evict h c hlast
      have hshorter : s.own.order.dropLast.length ≤ n + fuel := by
        rw [List.length_dropLast]
        omega
      rw [if_neg hle, hlast]
      unfold Reply.andThen
      dsimp only
      cases hvalue : (Lru.evict inner c (s.own.order.getLast hne)
        { s with own := { s.own with order := s.own.order.dropLast } }).value with
      | error f => exact ⟨hevicted, fun hok => by cases hok⟩
      | ok u => exact ih hevicted hshorter

/-- Every request is answered at once, and may be refused. -/
theorem serve (c : Caller) (q : Request) :
    (Lru.serve inner c s q).Returns fun _ s' => Sound stored s' := by
  cases q with
  | ask d =>
    cases d with
    | put k e => exact hs.put h c k e
    | get k => exact (hs.get h c k).mapReply fun _ hr => hr
    | remove k => exact hs.remove h c k
    | clear => exact ⟨List.nodup_nil, Nat.zero_le _, nofun⟩
    | size =>
      exact hs.fewer (List.Sublist.refl _) fun a _ => congrFun (h.size (c.holding _) s.inner) a
  | resize n =>
    obtain ⟨hshrunk, hroom⟩ := hs.shrink h c n.size s.own.order.length (Nat.le_add_left _ _)
    unfold Lru.serve setCapacity Reply.andThen
    dsimp only
    cases hvalue : (Lru.shrink inner c n.size s.own.order.length s).value with
    | error f => exact hshrunk
    | ok u => exact ⟨hshrunk.nodup, hroom hvalue, hshrunk.stored⟩

theorem serveAll (requests : List (Caller × Request)) :
    (Lru.serveAll inner requests s).Returns fun _ s' => Sound stored s' := by
  induction requests generalizing s with
  | nil => exact hs
  | cons x rest ih =>
    obtain ⟨c, q⟩ := x
    exact (hs.serve h c q).andThen fun c' a s' hs' => (ih hs').mapReply fun _ hr => hr

end Sound

/-- Whatever is asked of a layer over a cache that may refuse any call, a change of the capacity
included, and whatever is refused: afterwards no key is tracked twice, there are no more than the
capacity, and each of them is stored. A write that is refused inside leaves all as it was. -/
theorem tracked_stored (h : inner.Fallible stored) (capacity : Capacity) (i : σ)
    (requests : List (Caller × Request)) :
    ∃ r, serveAll inner requests ⟨{ capacity }, i⟩ = .done r ∧
      r.state.own.order.Nodup ∧ r.state.own.order.length ≤ r.state.own.capacity.size ∧
      (∀ k ∈ r.state.own.order, (stored r.state.inner k).isSome = true) ∧
      ∀ c k e f, (inner.put c k e r.state.inner).value = .error f →
        (put inner c k e r.state).value = .error f ∧
        (put inner c k e r.state).state.own = r.state.own ∧
        stored (put inner c k e r.state).state.inner = stored r.state.inner := by
  have hstart : Sound stored (⟨{ capacity }, i⟩ : Over Lru σ) :=
    ⟨List.nodup_nil, Nat.zero_le _, nofun⟩
  obtain ⟨r, hr, hend⟩ := (hstart.serveAll h requests).done
  refine ⟨r, hr, hend.nodup, hend.room, hend.stored, fun c k e f hf => ?_⟩
  rw [put_eq_makeRoom]
  exact makeRoom_refused h hf

/-- Two writes, and a smaller capacity. -/
def twoOfTwo : List (Caller × Request) :=
  [({}, .ask (.put {} .null)), ({}, .ask (.put { hashcode := 1 } .null)),
    ({ now := 1 }, .resize (.atLeastOne 1))]

/-- The change of the capacity is refused, and another write. -/
theorem tracked_stored_down :
    ∃ r, serveAll (Store.remote (· == 1)) twoOfTwo
        ⟨{ capacity := .atLeastOne 2 }, { name := "users" }⟩ = .done r ∧
      r.state.own.order.Nodup ∧ r.state.own.order.length ≤ r.state.own.capacity.size ∧
      (∀ k ∈ r.state.own.order, (Store.stored r.state.inner k).isSome = true) ∧
      (put (Store.remote (· == 1)) { now := 1 } {} .null r.state).state.own = r.state.own := by
  obtain ⟨r, hr, hnodup, hroom, hstored, hput⟩ := tracked_stored (Store.remote_fallible (· == 1))
    (.atLeastOne 2) { name := "users" } twoOfTwo
  have hrefused := hput { now := 1 } {} .null (.backend "down") rfl
  exact ⟨r, hr, hnodup, hroom, hstored, hrefused.2.1⟩

end Lru

/-! ### Stored keys are tracked or astray -/

namespace Cache

/-- A call on a cache: what was asked, the state before, and the reply. -/
structure Visit (τ : Type) where
  demand : Demand
  before : τ
  reply : Reply τ (Except CacheFailure Response)

/-- Calls on a cache, the last one first, and the state that they lead to. -/
inductive Course {τ : Type} (cache : Cache τ) (start : τ) : List (Visit τ) → τ → Prop
  | start : Course cache start [] start
  | call {past : List (Visit τ)} {s : τ} {c : Caller} {d : Demand}
      {r : Reply τ (Except CacheFailure Response)} (before : Course cache start past s)
      (hr : cache.ask c s d = .done r) : Course cache start (⟨d, s, r⟩ :: past) r.state

/-- There are entries under no more than `n` keys. -/
def AtMost (n : Nat) (entries : Key → Option Entry) : Prop :=
  ∀ keys : List Key, keys.Nodup → (∀ k ∈ keys, (entries k).isSome = true) → keys.length ≤ n

/-- All entries are under some of so many keys. -/
theorem AtMost.of_forall (keys : List Key) {n : Nat} {entries : Key → Option Entry}
    (hn : keys.length ≤ n) (h : ∀ k, (entries k).isSome = true → k ∈ keys) : AtMost n entries :=
  fun _ hnodup hsome =>
    Nat.le_trans (hnodup.subperm fun k hk => h k (hsome k hk)).length_le hn

end Cache

/-- What an evicting layer keeps track of: some keys, and how many there may be. -/
structure Track (ο : Type) where
  keys : ο → List Key
  bound : ο → Nat

def Lru.track : Track Lru := ⟨Lru.order, fun l => l.capacity.size⟩

def Fifo.track : Track Fifo := ⟨Fifo.queue, Fifo.size⟩

section Evicting

open Cache (Visit Course AtMost Fallible Lands)

variable {ο σ : Type}

/-- The keys that a layer loses track of in a call that is refused. -/
def lost (t : Track ο) (v : Visit (Over ο σ)) : List Key :=
  if v.reply.value.isOk then []
  else (t.keys v.before.own).filter (· ∉ t.keys v.reply.state.own)

/-- Whether a layer keeps track of a key after a call, or the call was to change what is stored
there and did so. -/
def settles (t : Track ο) (v : Visit (Over ο σ)) (k : Key) : Bool :=
  k ∈ t.keys v.reply.state.own || (v.reply.value.isOk && v.demand.renews k)

/-- The keys that have gone astray: the layer lost track of them, and no call has settled them
since. -/
def strays (t : Track ο) : List (Visit (Over ο σ)) → List Key
  | [] => []
  | v :: past => lost t v ++ (strays t past).filter fun k => !settles t v k

/-- There are no more entries than `n` and those of strays. If there are none of these, any further
call is answered at once and leaves one more entry at most, and no more than `n` if it is not
refused. -/
def Bounded (cache : Cache (Over ο σ)) (t : Track ο) (stored : σ → Key → Option Entry) (n : Nat)
    (past : List (Visit (Over ο σ))) (s : Over ο σ) : Prop :=
  AtMost (n + (strays t past).length) (stored s.inner) ∧
    ∀ c d, ∃ r, cache.ask c s d = .done r ∧ (strays t past = [] →
      AtMost (n + 1) (stored r.state.inner) ∧
        (r.value.isOk = true → AtMost n (stored r.state.inner)))

/-! #### One call -/

/-- There is room for a key at least, and for all that are tracked. -/
def Track.Roomy (t : Track ο) (own : ο) : Prop :=
  0 < t.bound own ∧ (t.keys own).length ≤ t.bound own

/-- What a call does to what is tracked and stored. A key that is stored afterwards is tracked; or
it was stored before and has not gone out of track, nor was it to be changed, unless the call was
refused. No more than one key comes to be stored. -/
structure Accounts (t : Track ο) (stored : σ → Key → Option Entry) (d : Demand) (s : Over ο σ)
    (ok : Bool) (s' : Over ο σ) : Prop where
  bound : t.bound s'.own = t.bound s.own
  room : (t.keys s'.own).length ≤ t.bound s.own
  tracked : ∀ k, (stored s'.inner k).isSome = true → k ∈ t.keys s'.own ∨
    ((stored s.inner k).isSome = true ∧ (k ∈ t.keys s.own → ok = false) ∧
      (ok && d.renews k) = false)
  written : ∃ a, ∀ k, (stored s'.inner k).isSome = true → k = a ∨ (stored s.inner k).isSome = true

variable {t : Track ο} {inner : Cache σ} {stored : σ → Key → Option Entry} {s s' : Over ο σ}

/-- A call that stores nothing, and keeps track of all keys that it is not to change. -/
theorem accounts_of_lands {α : Type} {d : Demand} {answer : α} {left : Key → Option Entry}
    {value : Except CacheFailure α} (hbound : t.bound s'.own = t.bound s.own)
    (hroom : (t.keys s'.own).length ≤ t.bound s.own)
    (hkeys : ∀ k ∈ t.keys s.own, d.renews k = false → k ∈ t.keys s'.own)
    (hleft : ∀ k, (left k).isSome = true → (stored s.inner k).isSome = true ∧ d.renews k = false)
    (h : Lands stored s.inner answer left value s'.inner) :
    Accounts t stored d s value.isOk s' := by
  refine ⟨hbound, hroom, fun k hk => ?_, ⟨{}, fun k hk => .inr ?_⟩⟩
  · rcases h with ⟨rfl, hstored⟩ | ⟨⟨f, rfl⟩, hstored⟩
    · obtain ⟨hbefore, hrenews⟩ := hleft k (hstored ▸ hk)
      by_cases htracked : k ∈ t.keys s.own
      · exact .inl (hkeys k htracked hrenews)
      · exact .inr ⟨hbefore, fun hin => absurd hin htracked, hrenews⟩
    · exact .inr ⟨hstored ▸ hk, fun _ => rfl, rfl⟩
  · rcases h with ⟨-, hstored⟩ | ⟨-, hstored⟩
    · exact (hleft k (hstored ▸ hk)).1
    · exact hstored ▸ hk

/-- A write that keeps track of the key, and gives up no other than the one that it evicts. -/
theorem accounts_of_written {enter : ο → Key → Option Key × ο} {k : Key} {e : Entry}
    {value : Except CacheFailure Unit} (hs : t.Roomy s.own)
    (hbound : t.bound (enter s.own k).2 = t.bound s.own)
    (hroom : (t.keys (enter s.own k).2).length ≤ t.bound s.own)
    (hkey : k ∈ t.keys (enter s.own k).2)
    (hkeys : ∀ a ∈ t.keys s.own, (enter s.own k).1 = some a ∨ a ∈ t.keys (enter s.own k).2)
    (h : Written enter stored k e s s' value) :
    Accounts t stored (.put k e) s value.isOk s' := by
  have hentered {ok : Bool} (hown : s'.own = (enter s.own k).2)
      (hbefore : ∀ a, (stored s'.inner a).isSome = true →
        a = k ∨ (stored s.inner a).isSome = true)
      (hgone : ok = true → ∀ a, a ≠ k → (stored s'.inner a).isSome = true →
        (enter s.own k).1 ≠ some a) : Accounts t stored (.put k e) s ok s' := by
    refine ⟨hown ▸ hbound, hown ▸ hroom, fun a ha => ?_, ⟨k, hbefore⟩⟩
    rw [hown]
    by_cases hin : a ∈ t.keys (enter s.own k).2
    · exact .inl hin
    · have hak : a ≠ k := fun hak => hin (hak ▸ hkey)
      have hrenews : (Demand.put k e).renews a = false := decide_eq_false hak.symm
      refine .inr ⟨(hbefore a ha).resolve_left hak, fun htracked => ?_,
        by rw [hrenews, Bool.and_false]⟩
      have hout := (hkeys a htracked).resolve_right hin
      exact Bool.eq_false_iff.mpr fun hok => hgone hok a hak ha hout
  have hother {a : Key} (ha : (if k = a then some e else stored s.inner a).isSome = true) :
      a = k ∨ (stored s.inner a).isSome = true := by
    split at ha
    · next hka => exact .inl hka.symm
    · exact .inr ha
  cases h with
  | refused hown hstored =>
    exact ⟨congrArg t.bound hown, hown ▸ hs.2, fun a ha => .inr ⟨hstored ▸ ha, fun _ => rfl, rfl⟩,
      ⟨k, fun a ha => .inr (hstored ▸ ha)⟩⟩
  | entered hown hgone hstored =>
    exact hentered hown (fun a ha => hother (hstored a ▸ ha)) fun _ a hak _ hout =>
      hak (eq_of_givenUp_eq_none hgone hout)
  | left hown hgone hstored =>
    exact hentered hown (fun a ha => hother (hstored a ▸ ha)) nofun
  | evicted hown hgone hstored =>
    refine hentered hown (fun a ha => ?_) fun _ a hak ha hout => ?_
    · rw [hstored] at ha
      split at ha
      · exact nomatch ha
      · exact hother ha
    · rw [hstored, if_pos] at ha
      · exact nomatch ha
      · exact Option.some.inj (hgone.symm.trans (givenUp_eq_some.mpr ⟨hout, hak⟩))

/-- Counting the entries changes nothing. -/
theorem accounts_size (hroom : (t.keys s.own).length ≤ t.bound s.own) (hown : s'.own = s.own)
    (hstored : stored s'.inner = stored s.inner) : Accounts t stored .size s true s' := by
  have hlands : Lands stored s.inner () (stored s.inner) (.ok ()) s'.inner := .inl ⟨rfl, hstored⟩
  exact accounts_of_lands (by rw [hown]) (by rwa [hown]) (fun a ha _ => by rwa [hown])
    (fun a ha => ⟨ha, rfl⟩) hlands

/-- How a call is answered does not matter. -/
theorem Accounts.answered {α : Type} {d : Demand} {r : Reply (Over ο σ) (Except CacheFailure α)}
    (h : Accounts t stored d s r.value.isOk r.state) (answer : α → Response) :
    Accounts t stored d s (r.map (Except.map answer)).value.isOk
      (r.map (Except.map answer)).state := by
  have hok : (r.value.map answer).isOk = r.value.isOk := by cases r.value <;> rfl
  unfold Reply.map
  rw [hok]
  exact h

/-- Whatever is asked, it is one of these calls. -/
theorem accounts_ask {cache : Cache (Over ο σ)} {c : Caller}
    (hput : ∀ k e, Accounts t stored (.put k e) s (cache.put c k e s).value.isOk
      (cache.put c k e s).state)
    (hget : ∀ k, (cache.get c k s).Returns fun v s' => Accounts t stored (.get k) s v.isOk s')
    (hremove : ∀ k, Accounts t stored (.remove k) s (cache.remove c k s).value.isOk
      (cache.remove c k s).state)
    (hclear : Accounts t stored .clear s (cache.clear c s).value.isOk (cache.clear c s).state)
    (hsize : Accounts t stored .size s true (cache.size c s).state) (d : Demand) :
    ∃ r, cache.ask c s d = .done r ∧ Accounts t stored d s r.value.isOk r.state := by
  cases d with
  | put k e => exact ⟨_, rfl, (hput k e).answered _⟩
  | get k =>
    obtain ⟨r, hr, hget⟩ := (hget k).done
    refine ⟨r.map (·.map .entry), ?_, Accounts.answered hget _⟩
    rw [Cache.ask, hr]
    rfl
  | remove k => exact ⟨_, rfl, (hremove k).answered _⟩
  | clear => exact ⟨_, rfl, hclear.answered _⟩
  | size => exact ⟨_, rfl, hsize⟩

/-- What a removal leaves was there before, under the other keys. -/
theorem isSome_removed {entries : Key → Option Entry} {k a : Key}
    (ha : (if k = a then none else entries a).isSome = true) :
    (entries a).isSome = true ∧ (Demand.remove k).renews a = false := by
  split at ha
  · exact nomatch ha
  · next hka => exact ⟨ha, decide_eq_false hka⟩

/-- A call on the layer that evicts the least recently touched keys. -/
theorem Lru.accounts (h : inner.Fallible stored) {s : Over Lru σ} (hs : Lru.track.Roomy s.own)
    (c : Caller) (d : Demand) :
    ∃ r, (cache inner).ask c s d = .done r ∧
      Accounts Lru.track stored d s r.value.isOk r.state := by
  refine accounts_ask (fun k e => ?_) (fun k => ?_) (fun k => ?_) ?_ ?_ d
  · obtain ⟨hcap, hlen, hkey, hkeys⟩ := mem_record hs.2 k
    show Accounts _ _ _ _ (put inner c k e s).value.isOk _
    rw [put_eq_makeRoom]
    exact accounts_of_written hs (congrArg Capacity.size hcap) hlen hkey hkeys
      (makeRoom_written h c k e s)
  · obtain ⟨hcap, hlen, hsub⟩ := s.own.promote_spec k
    refine (h.get (c.holding fun _ => false) k s.inner).within fun v i hi => ?_
    exact accounts_of_lands (congrArg Capacity.size hcap) (Nat.le_trans hlen hs.2)
      (fun a ha _ => hsub ha) (fun a ha => ⟨ha, rfl⟩) hi
  · refine accounts_of_lands rfl (Nat.le_trans (List.length_filter_le _ _) hs.2)
      (fun a ha hak => ?_) (fun a => isSome_removed) (h.remove (c.holding fun _ => false) k s.inner)
    refine List.mem_filter.mpr ⟨ha, decide_eq_true fun hka => ?_⟩
    exact absurd hka.symm (of_decide_eq_false hak)
  · exact accounts_of_lands rfl (Nat.zero_le _) (fun a _ ha => nomatch ha) (by simp)
      (h.clear (c.holding fun _ => false) s.inner)
  · exact accounts_size hs.2 rfl (h.size (c.holding fun _ => false) s.inner)

/-- A call on the layer that evicts the keys written first. -/
theorem Fifo.accounts (h : inner.Fallible stored) {s : Over Fifo σ} (hs : Fifo.track.Roomy s.own)
    (c : Caller) (d : Demand) :
    ∃ r, (cache inner).ask c s d = .done r ∧
      Accounts Fifo.track stored d s r.value.isOk r.state := by
  refine accounts_ask (fun k e => ?_) (fun k => ?_) (fun k => ?_) ?_ ?_ d
  · obtain ⟨hsize, hlen, hkey, hkeys⟩ := mem_enqueue hs.2 hs.1 k
    show Accounts _ _ _ _ (put inner c k e s).value.isOk _
    rw [put_eq_makeRoom]
    exact accounts_of_written hs hsize hlen hkey hkeys (makeRoom_written h c k e s)
  · refine (h.get (c.holding fun _ => false) k s.inner).within fun v i hi => ?_
    exact accounts_of_lands rfl hs.2 (fun a ha _ => ha) (fun a ha => ⟨ha, rfl⟩) hi
  · exact accounts_of_lands rfl hs.2 (fun a ha _ => ha) (fun a => isSome_removed)
      (h.remove (c.holding fun _ => false) k s.inner)
  · exact accounts_of_lands rfl (Nat.zero_le _) (fun a _ ha => nomatch ha) (by simp)
      (h.clear (c.holding fun _ => false) s.inner)
  · exact accounts_size hs.2 rfl (h.size (c.holding fun _ => false) s.inner)

/-! #### A course of calls -/

/-- If every call keeps account, the keys that are stored are tracked or astray. -/
theorem stored_of_course {cache : Cache (Over ο σ)}
    (hask : ∀ c d s, t.Roomy s.own → ∃ r, cache.ask c s d = .done r ∧
      Accounts t stored d s r.value.isOk r.state)
    {start : Over ο σ} (hroom : t.Roomy start.own) (hempty : ∀ k, stored start.inner k = none)
    {past : List (Visit (Over ο σ))} (hc : Course cache start past s) :
    t.Roomy s.own ∧ t.bound s.own = t.bound start.own ∧
      ∀ k, (stored s.inner k).isSome = true → k ∈ t.keys s.own ∨ k ∈ strays t past := by
  induction hc with
  | start => exact ⟨hroom, rfl, fun k hk => by simp [hempty] at hk⟩
  | @call past s c d r before hr ih =>
    obtain ⟨hs, hbound, hstored⟩ := ih
    obtain ⟨r, hr', haccounts⟩ := hask c d s hs
    cases hr.symm.trans hr'
    refine ⟨⟨haccounts.bound ▸ hs.1, haccounts.bound ▸ haccounts.room⟩,
      haccounts.bound.trans hbound, fun k hk => or_iff_not_imp_left.mpr fun hout => ?_⟩
    obtain ⟨hbefore, hlost, hrenews⟩ := (haccounts.tracked k hk).resolve_left hout
    rw [strays, List.mem_append, List.mem_filter]
    rcases hstored k hbefore with htracked | hstray
    · refine .inl ?_
      rw [lost, hlost htracked]
      exact List.mem_filter.mpr ⟨htracked, decide_eq_true hout⟩
    · refine .inr ⟨hstray, ?_⟩
      rw [settles, hrenews, decide_eq_false hout]
      rfl

theorem bounded_of_course {cache : Cache (Over ο σ)} (start : Over ο σ)
    (hask : ∀ c d s, t.Roomy s.own → ∃ r, cache.ask c s d = .done r ∧
      Accounts t stored d s r.value.isOk r.state)
    (hroom : t.Roomy start.own) (hempty : ∀ k, stored start.inner k = none)
    {past : List (Visit (Over ο σ))} (hc : Course cache start past s) :
    Bounded cache t stored (t.bound start.own) past s := by
  obtain ⟨hs, hbound, hstored⟩ := stored_of_course hask hroom hempty hc
  rw [← hbound]
  refine ⟨?_, fun c d => ?_⟩
  · refine AtMost.of_forall (t.keys s.own ++ strays t past) ?_ fun k hk =>
      List.mem_append.mpr (hstored k hk)
    rw [List.length_append]
    exact Nat.add_le_add_right hs.2 _
  · obtain ⟨r, hr, haccounts⟩ := hask c d s hs
    refine ⟨r, hr, fun hnone => ?_⟩
    have htracked (k : Key) (hk : (stored s.inner k).isSome = true) : k ∈ t.keys s.own :=
      (hstored k hk).resolve_right (hnone ▸ List.not_mem_nil)
    obtain ⟨a, hwritten⟩ := haccounts.written
    refine ⟨AtMost.of_forall (a :: t.keys s.own) (Nat.succ_le_succ hs.2) fun k hk => ?_,
      fun hok => AtMost.of_forall _ haccounts.room fun k hk => ?_⟩
    · exact List.mem_cons.mpr ((hwritten k hk).imp_right (htracked k))
    · refine (haccounts.tracked k hk).resolve_right fun hleft => ?_
      exact Bool.false_ne_true ((hleft.2.1 (htracked k hleft.1)).symm.trans hok)

/-- Both layers over a cache with nothing stored, which may refuse any call: after any calls there
are no more entries than the capacity and those of the keys that have gone astray. As long as there
are none of these, no call leaves more than one entry too many, and a call that is not refused
none. -/
theorem atMost_strays (h : inner.Fallible stored) {i : σ} (hi : ∀ k, stored i k = none) :
    (∀ (capacity : Capacity) past s, Course (Lru.cache inner) ⟨{ capacity }, i⟩ past s →
      Bounded (Lru.cache inner) Lru.track stored capacity.size past s) ∧
    ∀ n past s, 0 < n → Course (Fifo.cache inner) ⟨{ size := n }, i⟩ past s →
      Bounded (Fifo.cache inner) Fifo.track stored n past s := by
  constructor
  · intro capacity past s hc
    exact bounded_of_course (⟨{ capacity }, i⟩ : Over Lru σ) (fun c d s hs => Lru.accounts h hs c d)
      ⟨capacity.pos, Nat.zero_le _⟩ hi hc
  · intro n past s hpos hc
    exact bounded_of_course (⟨{ size := n }, i⟩ : Over Fifo σ)
      (fun c d s hs => Fifo.accounts h hs c d) ⟨hpos, Nat.zero_le _⟩ hi hc

/-- A removal that is refused leaves a stray beside the key that is written next. A refused write
leaves none. -/
theorem atMost_strays_down :
    (∃ past s, Course (Lru.cache (Store.remote (· == 1)))
        ⟨{ capacity := .atLeastOne 1 }, { name := "users" }⟩ past s ∧
      strays Lru.track past = [{}] ∧ AtMost 2 (Store.stored s.inner)) ∧
    ∃ past s,
      Course (Fifo.cache (Store.remote (· == 1))) ⟨{ size := 1 }, { name := "users" }⟩ past s ∧
      strays Fifo.track past = [] ∧ AtMost 1 (Store.stored s.inner) := by
  obtain ⟨hlru, hfifo⟩ := atMost_strays (Store.remote_fallible (· == 1)) (i := { name := "users" })
    fun _ => rfl
  have hc : Course (Lru.cache (Store.remote (· == 1)))
      ⟨{ capacity := .atLeastOne 1 }, { name := "users" }⟩ _ _ :=
    .call (c := {}) (d := .put { hashcode := 1 } .null)
      (.call (c := { now := 1 }) (d := .remove {})
        (.call (c := {}) (d := .put {} .null) .start rfl) rfl) rfl
  have hc' : Course (Fifo.cache (Store.remote (· == 1)))
      ⟨{ size := 1 }, { name := "users" }⟩ _ _ :=
    .call (c := { now := 1 }) (d := .put { hashcode := 1 } .null)
      (.call (c := {}) (d := .put {} .null) .start rfl) rfl
  exact ⟨⟨_, _, hc, rfl, (hlru (.atLeastOne 1) _ _ hc).1⟩,
    ⟨_, _, hc', rfl, (hfifo 1 _ _ Nat.one_pos hc').1⟩⟩

end Evicting

/-- A probe over such a cache is one as well, whatever it is told to refuse. -/
theorem Probe.fallible {σ : Type} {inner : Cache σ} {stored : σ → Key → Option Entry}
    (h : inner.Fallible stored) : (Probe.cache inner).Fallible fun s => stored s.inner := by
  have hguarded {α : Type} (refusal : Option CacheFailure) (c : Caller) (s : Over Probe σ)
      (f : Caller → σ → Reply σ (Except CacheFailure α)) {answer : α} {left : Key → Option Entry}
      (hf : ∀ c, Cache.Lands stored s.inner answer left (f c s.inner).value (f c s.inner).state) :
      Cache.Lands (fun s : Over Probe σ => stored s.inner) s answer left
        (guarded refusal c s f).value (guarded refusal c s f).state := by
    cases refusal with
    | some e => exact .inr ⟨⟨e, rfl⟩, rfl⟩
    | none => exact hf _
  refine ⟨fun c k e s => ?_, fun c k s => ?_, fun c k s => ?_, fun c s => ?_, fun c s => ?_⟩
  · exact hguarded s.own.put c (write _ s) _ fun c => h.put c k e s.inner
  · unfold cache
    dsimp only
    cases s.own.get with
    | some e => exact .inr ⟨⟨e, rfl⟩, rfl⟩
    | none => exact (h.get _ k s.inner).within fun _ _ hi => hi
  · exact hguarded s.own.remove c (write _ s) _ fun c => h.remove c k s.inner
  · exact hguarded s.own.clear c (write _ s) _ fun c => h.clear c s.inner
  · exact h.size _ s.inner

/-- Three writes. -/
def threeKeys : List (Caller × Demand) :=
  [({}, .put {} .null), ({}, .put { hashcode := 1 } .null), ({}, .put { hashcode := 2 } .null)]

/-- A write, a removal that is refused, and another write. -/
def oneLeft : List (Caller × Demand) :=
  [({}, .put {} .null), ({ now := 1 }, .remove {}), ({}, .put { hashcode := 1 } .null)]

/-- A store that refuses to remove anything. -/
def stubborn : Over Probe Store := ⟨{ remove := some (.backend "down") }, { name := "users" }⟩

/-- With a capacity of one, three writes leave three entries if no removal comes through, and a
write that comes through leaves two after one refused removal. A layer of size zero evicts nothing
at all. -/
theorem capacity_lost :
    (Probe.cache Store.cache).Fallible (fun s => Store.stored s.inner) ∧
    ((Lru.cache (Probe.cache Store.cache)).askAll threeKeys
        ⟨{ capacity := .atLeastOne 1 }, stubborn⟩).reply?.map
        (fun r => (r.value, r.state.inner.inner.entries.size)) =
      some ([.ok .done, .error (.backend "down"), .error (.backend "down")], 3) ∧
    ((Fifo.cache (Probe.cache Store.cache)).askAll threeKeys ⟨{ size := 1 }, stubborn⟩).reply?.map
        (fun r => (r.value, r.state.inner.inner.entries.size)) =
      some ([.ok .done, .error (.backend "down"), .error (.backend "down")], 3) ∧
    (Store.remote (· == 1)).Fallible Store.stored ∧
    ((Lru.cache (Store.remote (· == 1))).askAll oneLeft
        ⟨{ capacity := .atLeastOne 1 }, { name := "users" }⟩).reply?.map
        (fun r => (r.value, r.state.inner.entries.size)) =
      some ([.ok .done, .error (.backend "down"), .ok .done], 2) ∧
    ((Fifo.cache Store.cache).askAll threeKeys ⟨{ size := 0 }, { name := "users" }⟩).reply?.map
        (fun r => (r.value, r.state.inner.entries.size)) =
      some ([.ok .done, .ok .done, .ok .done], 3) :=
  ⟨Probe.fallible Store.fallible, rfl, rfl, Store.remote_fallible (· == 1), rfl, rfl⟩

end QueryCache
