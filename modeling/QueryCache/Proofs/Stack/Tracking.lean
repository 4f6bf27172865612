import QueryCache.Layer.Store
import QueryCache.Proofs.Stack.Sweep
import QueryCache.Proofs.Stack.Usage

/-!
# Tracked keys and stored entries

A layer of weak entries tracks the keys that it stores with rows, so that its sweeps can find those
whose rows are gone. It notes what it tracks before it calls the cache inside, and a sweep forgets
all that it has found before it removes any of it. So when the cache inside refuses a call, the two
may part: `Slot` is what there is under one key on both sides.

What a call does under a key is said once, in two steps: the sweep (`Slot.Swept`), and what comes
after it (`Slot.Called`). From this it is told along a course of calls how long the two sides agree
under a key, and what brings them together again (`Course.sound`, `Course.complete`).
-/

namespace QueryCache

namespace Cache

variable {σ α : Type}

/-- A call gives its answer and leaves some entries, or it is refused and leaves those there
were. -/
def Lands (stored : σ → Key → Option Entry) (s : σ) (answer : α) (left : Key → Option Entry)
    (value : Except CacheFailure α) (s' : σ) : Prop :=
  (value = .ok answer ∧ stored s' = left) ∨ ((∃ f, value = .error f) ∧ stored s' = stored s)

/-- A cache that never waits, but may refuse any call, and then its entries are as before. -/
structure Fallible (cache : Cache σ) (stored : σ → Key → Option Entry) : Prop where
  put : ∀ c k e s, Lands stored s () (fun a => if k = a then some e else stored s a)
    (cache.put c k e s).value (cache.put c k e s).state
  get : ∀ c k s, (cache.get c k s).Returns (Lands stored s (stored s k) (stored s))
  remove : ∀ c k s, Lands stored s (stored s k) (fun a => if k = a then none else stored s a)
    (cache.remove c k s).value (cache.remove c k s).state
  clear : ∀ c s, Lands stored s () (fun _ => none) (cache.clear c s).value (cache.clear c s).state
  size : ∀ c s, stored (cache.size c s).state = stored s

end Cache

namespace Store

/-- What is stored under a key. -/
def stored (s : Store) (k : Key) : Option Entry := s.entries.get? k

/-- The store refuses nothing. -/
theorem fallible : Store.cache.Fallible stored where
  put _ k e s := .inl ⟨rfl, funext fun a => Table.get?_insert s.entries k a e⟩
  get _ _ _ := .inl ⟨rfl, rfl⟩
  remove _ k s := .inl ⟨rfl, funext fun a => Table.get?_erase s.entries k a⟩
  clear _ _ := .inl ⟨rfl, rfl⟩
  size _ _ := rfl

/-- The reply of the store over a line, which refuses the call while it is down. -/
def overLine {α : Type} (down : Bool) (s : Store) (r : Reply Store (Except CacheFailure α)) :
    Reply Store (Except CacheFailure α) :=
  if down then ⟨.error (.backend "down"), s, []⟩ else r

theorem lands_overLine {α : Type} {s : Store} {r : Reply Store (Except CacheFailure α)} {answer : α}
    {left : Key → Option Entry} (h : Cache.Lands stored s answer left r.value r.state)
    (down : Bool) :
    Cache.Lands stored s answer left (overLine down s r).value (overLine down s r).state := by
  unfold overLine
  split
  · exact .inr ⟨⟨_, rfl⟩, rfl⟩
  · exact h

/-- The store behind a line that is down at some times. -/
def remote (down : Nat → Bool) : Cache Store where
  id := Store.cache.id
  size := Store.cache.size
  put c k e s := overLine (down c.now) s (Store.cache.put c k e s)
  get c k s := .done (overLine (down c.now) s ⟨.ok (s.stored k), s, []⟩)
  remove c k s := overLine (down c.now) s (Store.cache.remove c k s)
  clear c s := overLine (down c.now) s (Store.cache.clear c s)
  holds := Store.cache.holds

theorem remote_fallible (down : Nat → Bool) : (remote down).Fallible stored where
  put c k e s := lands_overLine (fallible.put c k e s) (down c.now)
  get c k s := lands_overLine (fallible.get c k s) (down c.now)
  remove c k s := lands_overLine (fallible.remove c k s) (down c.now)
  clear c s := lands_overLine (fallible.clear c s) (down c.now)
  size _ _ := rfl

end Store

namespace Entry

/-- The entry as a layer of weak entries stores it. -/
def weakened : Entry → Entry
  | rows r => reclaimable r
  | e => e

/-- The rows that the entry keeps alive. -/
def rows? : Entry → Option RowList
  | rows r => some r
  | _ => none

end Entry

namespace Demand

/-- Whether a call is about a key. -/
def concerns (k : Key) : Demand → Bool
  | put j _ | get j | remove j => j = k
  | clear => true
  | size => false

/-- Whether a call is to change what is stored under a key. -/
def renews (k : Key) : Demand → Bool
  | put j _ | remove j => j = k
  | clear => true
  | get _ | size => false

/-- The rows that a call tracks. -/
def rows? : Demand → Option RowList
  | put _ e => e.rows?
  | _ => none

/-- The entry that a call leaves. -/
def entry? : Demand → Option Entry
  | put _ e => some e.weakened
  | _ => none

/-- Whether a call stores nothing but nulls and rows. -/
def plain : Demand → Bool
  | put _ (.reclaimable _) => false
  | _ => true

end Demand

/-- Whether a sweep is reported to have failed. -/
def Note.tellsSweepFailed : Note → Bool
  | .event (.sweepFailed ..) => true
  | _ => false

/-- What there is under a key: the rows that a layer tracks, and the entry inside. -/
structure Slot where
  rows : Option RowList
  entry : Option Entry

namespace Slot

/-- What is tracked is stored. -/
def Sound (v : Slot) : Prop := ∀ r, v.rows = some r → v.entry = some (.reclaimable r)

/-- What is stored as reclaimable is tracked. -/
def Complete (v : Slot) : Prop := ∀ r, v.entry = some (.reclaimable r) → v.rows = some r

/-- What a sweep may do under a key: nothing, or drop an entry whose rows are gone. If it is broken
off, the entry inside may be left. -/
inductive Swept (alive : RowsId → Bool) (broken : Prop) : Slot → Slot → Prop
  | kept (v : Slot) : Swept alive broken v v
  | dropped {r : RowList} {e : Option Entry} (gone : alive r.id = false) :
      Swept alive broken ⟨some r, e⟩ ⟨none, none⟩
  | left {r : RowList} {e : Option Entry} (gone : alive r.id = false) (h : broken) :
      Swept alive broken ⟨some r, e⟩ ⟨none, e⟩

/-- What a call may do under a key after the sweep: nothing, if it is refused or not to change what
is stored there; note what it tracks, if it is refused; or note that and store its entry. -/
inductive Called (k : Key) (d : Demand) (refused : Prop) : Slot → Slot → Prop
  | passed (v : Slot) (h : refused ∨ d.renews k = false) : Called k d refused v v
  | noted (v : Slot) (hd : d.concerns k = true) (h : refused) :
      Called k d refused v ⟨d.rows?, v.entry⟩
  | done (v : Slot) (hd : d.concerns k = true) : Called k d refused v ⟨d.rows?, d.entry?⟩

variable {alive alive' : RowsId → Bool} {broken broken' refused : Prop} {k : Key} {d : Demand}
  {v w : Slot}

theorem Swept.mono (h : Swept alive broken v w) (ha : ∀ id, alive id = false → alive' id = false)
    (hb : broken → broken') : Swept alive' broken' v w := by
  cases h with
  | kept => exact .kept v
  | dropped gone => exact .dropped (ha _ gone)
  | left gone h => exact .left (ha _ gone) (hb h)

/-- Only an entry whose rows are gone is dropped. -/
theorem Swept.entry_eq (h : Swept alive broken v w) :
    w.entry = v.entry ∨ ∃ r, v.rows = some r ∧ alive r.id = false := by
  cases h with
  | kept => exact .inl rfl
  | dropped gone => exact .inr ⟨_, rfl, gone⟩
  | left gone h => exact .inl rfl

/-- A sweep that is not broken off forgets nothing that is left inside. -/
theorem Swept.eq_or_none (h : Swept alive broken v w) (hb : ¬ broken) : w = v ∨ w.entry = none := by
  cases h with
  | kept => exact .inl rfl
  | dropped gone => exact .inr rfl
  | left gone h => exact absurd h hb

/-- A sweep forgets, but what it still tracks is as before. -/
theorem Sound.swept (hv : v.Sound) (h : Swept alive broken v w) : w.Sound := by
  cases h with
  | kept => exact hv
  | dropped gone => exact nofun
  | left gone h => exact nofun

/-- Only a sweep that is broken off forgets what is still stored. -/
theorem Complete.swept (hv : v.Complete) (h : Swept alive broken v w)
    (hb : broken → ∀ r, v.rows = some r → alive r.id = true) : w.Complete := by
  cases h with
  | kept => exact hv
  | dropped gone => exact nofun
  | left gone h =>
    have halive := hb h _ rfl
    rw [gone] at halive
    exact nomatch halive

/-- The rows that a call tracks are those of the entry that it leaves. -/
theorem sound_done (d : Demand) : Sound ⟨d.rows?, d.entry?⟩ := by
  intro r hr
  cases d with
  | put k e =>
    cases e with
    | rows list =>
      cases hr
      rfl
    | null | reclaimable list => exact nomatch hr
  | get k | remove k | clear | size => exact nomatch hr

theorem complete_done (hd : d.plain = true) : Complete ⟨d.rows?, d.entry?⟩ := by
  intro r hr
  cases d with
  | put k e =>
    cases e with
    | rows list =>
      cases hr
      rfl
    | null => exact nomatch hr
    | reclaimable list => exact nomatch hd
  | get k | remove k | clear | size => exact nomatch hr

/-- Rows are tracked without being stored only when a call to store them is refused. -/
theorem Sound.called (hv : v.Sound) (h : Called k d refused v w)
    (hd : refused → d.concerns k = true → d.rows? = none) : w.Sound := by
  cases h with
  | passed => exact hv
  | noted hk hr =>
    intro r hrows
    have hnone := hd hr hk
    rw [hnone] at hrows
    exact nomatch hrows
  | done => exact sound_done d

/-- A reclaimable entry is stored without being tracked only when a call on it is refused. -/
theorem Complete.called (hv : v.Complete) (h : Called k d refused v w) (hp : d.plain = true)
    (hd : refused → d.concerns k = false) : w.Complete := by
  cases h with
  | passed => exact hv
  | noted hk hr =>
    rw [hd hr] at hk
    exact nomatch hk
  | done => exact complete_done hp

theorem Called.mono {refused' : Prop} (h : Called k d refused v w) (hr : refused → refused') :
    Called k d refused' v w := by
  cases h with
  | passed h => exact .passed v (h.imp_left hr)
  | noted hd h => exact .noted v hd (hr h)
  | done hd => exact .done v hd

/-- A call that is not refused, and is to change what is stored, does so. -/
theorem Called.renewed (h : Called k d refused v w) (hr : ¬ refused) (hd : d.renews k = true) :
    w = ⟨d.rows?, d.entry?⟩ := by
  cases h with
  | passed h =>
    rw [hd] at h
    exact nomatch h.resolve_left hr
  | noted _ h => exact absurd h hr
  | done => rfl

end Slot

namespace Weak

variable {σ α : Type} {inner : Cache σ} {stored : σ → Key → Option Entry} {c : Caller} {k : Key}
  {s s' : Over Weak σ}

/-- What there is under a key. -/
def slot (stored : σ → Key → Option Entry) (s : Over Weak σ) (k : Key) : Slot :=
  ⟨s.own.tracked.entries.get? k, stored s.inner k⟩

/-- No key is tracked twice. -/
def Single (s : Over Weak σ) : Prop := s.own.tracked.entries.keys.Nodup

/-- Whether something inside was refused to a call: it fails, or it reports that its sweep did. -/
def refused (r : Reply (Over Weak σ) (Except CacheFailure Response)) : Bool :=
  match r.value with
  | .error _ => true
  | .ok _ => r.notes.any Note.tellsSweepFailed

/-! ### What a sweep does under a key -/

/-- Keys are dropped inside up to the first whose removal is refused, and nothing else changes. -/
theorem dropAll_spec (h : inner.Fallible stored) (c : Caller) (dead : List Key) (s : Over Weak σ) :
    (dropAll inner c dead s).state.own = s.own ∧ ∀ k,
      (k ∉ dead → stored (dropAll inner c dead s).state.inner k = stored s.inner k) ∧
      (k ∈ dead → stored (dropAll inner c dead s).state.inner k = none ∨
        ((∃ f, (dropAll inner c dead s).value = .error f) ∧
          stored (dropAll inner c dead s).state.inner k = stored s.inner k)) := by
  induction dead generalizing s with
  | nil => exact ⟨rfl, fun k => ⟨fun _ => rfl, nofun⟩⟩
  | cons j rest ih =>
    have hremove : Cache.Lands stored s.inner _ _
        (inside.reply c s fun c i => inner.remove c j i).value
        (inside.reply c s fun c i => inner.remove c j i).state.inner :=
      h.remove (c.holding (inside.held s)) j s.inner
    have hown : (inside.reply c s fun c i => inner.remove c j i).state.own = s.own := rfl
    unfold dropAll
    dsimp only
    generalize inside.reply c s (fun c i => inner.remove c j i) = removed at hremove hown
    unfold Reply.andThen
    rcases hremove with ⟨hvalue, hleft⟩ | ⟨⟨f, hvalue⟩, hleft⟩
    · rw [hvalue]
      obtain ⟨hrest, hkeys⟩ := ih removed.state
      refine ⟨hrest.trans hown, fun k => ?_⟩
      obtain ⟨hout, hin⟩ := hkeys k
      have hk : stored removed.state.inner k = if j = k then none else stored s.inner k :=
        congrFun hleft k
      rw [hk] at hout hin
      by_cases hjk : j = k
      · rw [if_pos hjk] at hout hin
        refine ⟨fun hk => absurd (hjk ▸ List.mem_cons_self) hk, fun _ => .inl ?_⟩
        by_cases hk : k ∈ rest
        · exact (hin hk).elim id And.right
        · exact hout hk
      · rw [if_neg hjk] at hout hin
        refine ⟨fun hk => hout fun hr => hk (List.mem_cons_of_mem j hr), fun hk => hin ?_⟩
        exact (List.mem_cons.mp hk).resolve_left fun hkj => hjk hkj.symm
    · rw [hvalue]
      exact ⟨hown, fun k => ⟨fun _ => congrFun hleft k, fun _ => .inr ⟨⟨f, rfl⟩, congrFun hleft k⟩⟩⟩

/-- A sweep changes what is tracked, and nothing else in the layer. -/
theorem sweep_own (h : inner.Fallible stored) (c : Caller) (limit : Nat) (s : Over Weak σ) :
    (sweep inner c limit s).state.own =
      { s.own with tracked := (s.own.tracked.collect (alive inner c s) limit).2 } :=
  (dropAll_spec h c _ _).1

theorem Single.swept (hs : Single s) (h : inner.Fallible stored) (c : Caller) (limit : Nat) :
    Single (sweep inner c limit s).state := by
  unfold Single
  rw [sweep_own h]
  exact Tracked.nodup_collect hs _ _

/-- What a sweep does under a key. -/
theorem slot_sweep (hs : Single s) (h : inner.Fallible stored) (c : Caller) (limit : Nat)
    (k : Key) :
    Slot.Swept (alive inner c s) (∃ f, (sweep inner c limit s).value = .error f)
      (slot stored s k) (slot stored (sweep inner c limit s).state k) := by
  have htracked := Tracked.get?_collect hs (alive inner c s) limit k
  have hdead := Tracked.mem_collect hs (alive inner c s) limit (k := k)
  obtain ⟨hown, hkeys⟩ := dropAll_spec h c (s.own.tracked.collect (alive inner c s) limit).1
    { s with own := { s.own with tracked := (s.own.tracked.collect (alive inner c s) limit).2 } }
  obtain ⟨hout, hin⟩ := hkeys k
  unfold slot
  rw [sweep_own h]
  dsimp only at hout hin ⊢
  rw [htracked]
  by_cases hk : k ∈ (s.own.tracked.collect (alive inner c s) limit).1
  · obtain ⟨r, hr, hgone⟩ := hdead hk
    rw [if_pos hk, hr]
    rcases hin hk with hnone | ⟨hbroken, hsame⟩
    · exact hnone ▸ .dropped hgone
    · exact hsame ▸ .left hgone hbroken
  · rw [if_neg hk]
    exact hout hk ▸ .kept _

/-! ### What a call does under a key -/

/-- The layer's own part of a write: rows are tracked and pinned. -/
def noting (w : Weak) (k : Key) : Entry → Weak
  | .rows list => (w.track k list).pin list
  | _ => w.forget k

theorem put_eq (inner : Cache σ) (c : Caller) (k : Key) (e : Entry) (s : Over Weak σ) :
    put inner c k e s =
      (sweep inner (c.holding fun id => e.holds id) sweepBatch s).andThen fun r s =>
        match r with
        | .error f => ⟨.error f, s, []⟩
        | .ok () =>
          inside.reply c { s with own := s.own.noting k e } fun c i =>
            inner.put c k e.weakened i := by
  cases e <;> rfl

theorem nodup_noting {w : Weak} (hw : w.tracked.entries.keys.Nodup) (k : Key) (e : Entry) :
    (w.noting k e).tracked.entries.keys.Nodup := by
  cases e with
  | rows list => exact Table.nodup_insert hw k list
  | null | reclaimable list => exact Table.nodup_swapErase hw k

theorem get?_noting {w : Weak} (hw : w.tracked.entries.keys.Nodup) (k a : Key) (e : Entry) :
    (w.noting k e).tracked.entries.get? a =
      if (Demand.put k e).concerns a then (Demand.put k e).rows? else w.tracked.entries.get? a := by
  simp only [Demand.concerns, decide_eq_true_eq]
  cases e with
  | rows list => exact Table.get?_insert w.tracked.entries k a list
  | null | reclaimable list => exact Table.get?_swapErase hw k a

/-- What a call leaves, after a sweep that may have been broken off: no key is tracked twice, and
what there is under a key has come about in these two steps. -/
def Handled (inner : Cache σ) (stored : σ → Key → Option Entry) (c : Caller) (d : Demand)
    (s : Over Weak σ) (refused : Prop) (s' : Over Weak σ) : Prop :=
  Single s' ∧ ∀ k, ∃ v, Slot.Swept (alive inner c s) refused (slot stored s k) v ∧
    Slot.Called k d refused v (slot stored s' k)

theorem Handled.mono {d : Demand} {refused refused' : Prop}
    (h : Handled inner stored c d s refused s') (hr : refused → refused') :
    Handled inner stored c d s refused' s' := by
  refine ⟨h.1, fun k => ?_⟩
  obtain ⟨v, hswept, hcalled⟩ := h.2 k
  exact ⟨v, hswept.mono (fun _ => id) hr, hcalled.mono hr⟩

/-- A call is refused something if it fails. -/
theorem Handled.answered {β : Type} {d : Demand}
    {r : Reply (Over Weak σ) (Except CacheFailure β)} (answer : β → Response)
    (h : Handled inner stored c d s (∃ f, r.value = .error f) r.state) :
    Handled inner stored c d s (refused (r.map (·.map answer)) = true)
      (r.map (·.map answer)).state := by
  refine h.mono ?_
  rintro ⟨f, hf⟩
  unfold refused Reply.map
  dsimp only
  rw [hf]
  rfl

/-- The layer has noted what the call is to track, and the call inside has landed or not. -/
theorem called_of_lands {d : Demand} {answer : α} {left : Key → Option Entry}
    {value : Except CacheFailure α}
    (htracked : s'.own.tracked.entries.get? k =
      if d.concerns k then d.rows? else s.own.tracked.entries.get? k)
    (hleft : left k = if d.concerns k then d.entry? else stored s.inner k)
    (h : Cache.Lands stored s.inner answer left value s'.inner) :
    Slot.Called k d (∃ f, value = .error f) (slot stored s k) (slot stored s' k) := by
  unfold slot
  rw [htracked]
  by_cases hd : d.concerns k = true
  · rw [if_pos hd] at hleft ⊢
    rcases h with ⟨-, hstored⟩ | ⟨hrefused, hstored⟩
    · rw [hstored, hleft]
      exact .done _ hd
    · rw [hstored]
      exact .noted _ hd hrefused
  · have hrenews : d.renews k = false := by
      cases d with
      | put j e | remove j => exact (Bool.not_eq_true _).mp hd
      | clear => exact absurd rfl hd
      | get j | size => rfl
    rw [if_neg hd] at hleft ⊢
    have hsame : stored s'.inner k = stored s.inner k := by
      rcases h with ⟨-, hstored⟩ | ⟨-, hstored⟩
      · rw [hstored, hleft]
      · rw [hstored]
    rw [hsame]
    exact .passed _ (.inr hrenews)

section Calls

variable (h : inner.Fallible stored) (hs : Single s)

include h hs

/-- A call begins with a sweep, during which the caller may hold more than afterwards. -/
theorem handled_of_sweep {c' : Caller} (d : Demand) (limit : Nat) (refused : Prop)
    (s' : Over Weak σ) (hc : ∀ id, c'.held id = false → c.held id = false)
    (hbroken : (∃ f, (sweep inner c' limit s).value = .error f) → refused) (hsingle : Single s')
    (hcalled : ∀ k, Slot.Called k d refused (slot stored (sweep inner c' limit s).state k)
      (slot stored s' k)) : Handled inner stored c d s refused s' := by
  refine ⟨hsingle, fun k => ⟨_, (slot_sweep hs h c' limit k).mono (fun id hid => ?_) hbroken,
    hcalled k⟩⟩
  unfold alive at hid ⊢
  simp only [Bool.or_eq_false_iff] at hid ⊢
  exact ⟨⟨hc id hid.1.1, hid.1.2⟩, hid.2⟩

/-- A call that is broken off with its sweep, and goes on after it otherwise. -/
theorem handled_andThen {c' : Caller} {d : Demand} {limit : Nat}
    {next : Except CacheFailure Unit → Over Weak σ → Reply (Over Weak σ) (Except CacheFailure α)}
    (hc : ∀ id, c'.held id = false → c.held id = false)
    (hbroken : ∀ f q, next (.error f) q = ⟨.error f, q, []⟩)
    (hnext : ∀ q, Single q → Single (next (.ok ()) q).state ∧ ∀ k,
      Slot.Called k d (∃ f, (next (.ok ()) q).value = .error f) (slot stored q k)
        (slot stored (next (.ok ()) q).state k)) :
    Handled inner stored c d s (∃ f, ((sweep inner c' limit s).andThen next).value = .error f)
      ((sweep inner c' limit s).andThen next).state := by
  have hsingle := hs.swept h c' limit
  have hof := handled_of_sweep h hs d limit
    (∃ f, ((sweep inner c' limit s).andThen next).value = .error f)
    ((sweep inner c' limit s).andThen next).state hc
  generalize sweep inner c' limit s = q at hsingle hof
  unfold Reply.andThen Reply.after at hof ⊢
  dsimp only at hof ⊢
  cases hvalue : q.value with
  | error f =>
    rw [hvalue, hbroken] at hof
    rw [hbroken]
    exact hof (fun _ => ⟨f, rfl⟩) hsingle fun k => .passed _ (.inl ⟨f, rfl⟩)
  | ok u =>
    rw [hvalue] at hof
    exact hof nofun (hnext q.state hsingle).1 (hnext q.state hsingle).2

theorem put_handled (c : Caller) (k : Key) (e : Entry) :
    Handled inner stored c (.put k e) s (∃ f, (put inner c k e s).value = .error f)
      (put inner c k e s).state := by
  rw [put_eq]
  refine handled_andThen h hs (fun id hid => (Bool.or_eq_false_iff.mp hid).1) (fun _ _ => rfl)
    fun q hq => ⟨nodup_noting hq k e, fun a => ?_⟩
  have hput := h.put (c.holding (q.own.noting k e).pins) k e.weakened q.inner
  exact called_of_lands (get?_noting hq k a e) (by simp [Demand.concerns, Demand.entry?]) hput

/-- Forgetting a key and removing it inside. -/
theorem called_remove {d : Demand} (hd : ∀ a, d.concerns a = decide (k = a))
    (hrows : d.rows? = none) (hentry : d.entry? = none) (c : Caller) (a : Key) :
    let removed := inside.reply c { s with own := s.own.forget k } fun c i => inner.remove c k i
    Single removed.state ∧ Slot.Called a d (∃ f, removed.value = .error f) (slot stored s a)
      (slot stored removed.state a) := by
  have hremove := h.remove (c.holding (s.own.forget k).pins) k s.inner
  refine ⟨Table.nodup_swapErase hs k, called_of_lands ?_ ?_ hremove⟩
  · rw [hd, hrows]
    simp only [decide_eq_true_eq]
    exact Table.get?_swapErase hs k a
  · rw [hd, hentry]
    simp

theorem remove_handled (c : Caller) (k : Key) :
    Handled inner stored c (.remove k) s (∃ f, (remove inner c k s).value = .error f)
      (remove inner c k s).state := by
  refine handled_andThen h hs (fun _ => id) (fun _ _ => rfl) fun q hq => ?_
  have hremove := called_remove h hq (k := k) (d := .remove k) (fun _ => rfl) rfl rfl c
  refine ⟨(hremove k).1, fun a => (hremove a).2.mono ?_⟩
  rintro ⟨f, hf⟩
  exact ⟨f, congrArg (Except.map _) hf⟩

/-- After a lookup inside, an entry is forgotten and removed, or nothing is changed. -/
theorem called_found (c : Caller) (k : Key) (v : Except CacheFailure (Option Entry)) :
    (found inner k c v s).Returns fun v s' =>
      Single s' ∧ ∀ a, Slot.Called a (.get k) (∃ f, v = .error f) (slot stored s a)
        (slot stored s' a) := by
  unfold found
  split
  · exact ⟨hs, fun a => .passed _ (.inr rfl)⟩
  · exact ⟨hs, fun a => .passed _ (.inr rfl)⟩
  · split
    · exact ⟨hs, fun a => .passed _ (.inr rfl)⟩
    · exact ⟨hs, fun a => .passed _ (.inr rfl)⟩
    · have hremove := called_remove h hs (k := k) (d := .get k) (fun _ => rfl) rfl rfl c
      refine ⟨(hremove k).1, fun a => (hremove a).2.mono ?_⟩
      rintro ⟨f, hf⟩
      exact ⟨f, congrArg (Except.map fun _ => none) hf⟩

theorem get_handled (c : Caller) (k : Key) :
    ∃ r, (cache inner).get c k s = .done r ∧
      Handled inner stored c (.get k) s (∃ f, r.value = .error f) r.state := by
  have hsingle := hs.swept h c sweepBatch
  have hof (refused : Prop) (s' : Over Weak σ) :=
    handled_of_sweep h hs (c := c) (.get k) sweepBatch refused s' fun _ => id
  unfold cache get
  dsimp only
  generalize sweep inner c sweepBatch s = q at hsingle hof
  cases hvalue : q.value with
  | error f =>
    exact ⟨_, rfl, hof _ _ (fun _ => ⟨f, rfl⟩) hsingle fun a => .passed _ (.inl ⟨f, rfl⟩)⟩
  | ok u =>
    rw [hvalue] at hof
    -- The lookup inside leaves the layer's own state and what is stored.
    have hget : (inside.run c q.state fun c i => inner.get c k i).Returns fun v s' =>
        Single s' ∧ slot stored s' = slot stored q.state := by
      refine (h.get _ k q.state.inner).within fun v i hi => ⟨hsingle, ?_⟩
      have hstored : stored i = stored q.state.inner := hi.elim And.right And.right
      exact funext fun a => congrArg (Slot.mk _) (congrFun hstored a)
    have hfound : ((inside.run c q.state fun c i => inner.get c k i).andThen c
        (found inner k)).Returns fun v s' =>
          Handled inner stored c (.get k) s (∃ f, v = .error f) s' := by
      refine hget.andThen_same fun v s' hs' => (called_found h hs'.1 c k v).mono fun w s'' hw => ?_
      rw [hs'.2] at hw
      exact hof _ _ nofun hw.1 hw.2
    exact ((Run.returns_after _ q.notes).mpr hfound).done

omit hs in
theorem clear_handled (c : Caller) :
    Handled inner stored c .clear s (∃ f, ((cache inner).clear c s).value = .error f)
      ((cache inner).clear c s).state :=
  ⟨List.nodup_nil, fun _ => ⟨_, .kept _, called_of_lands rfl rfl (h.clear _ s.inner)⟩⟩

/-- A sweep that is broken off is all that may go wrong with the count. -/
theorem size_handled (c : Caller) :
    Handled inner stored c .size s ((size inner c s).notes.any Note.tellsSweepFailed = true)
      (size inner c s).state := by
  have hsingle := hs.swept h c s.own.tracked.entries.size
  have hof (refused : Prop) (s' : Over Weak σ) :=
    handled_of_sweep h hs (c := c) .size s.own.tracked.entries.size refused s' fun _ => id
  unfold size
  generalize sweep inner c s.own.tracked.entries.size s = q at hsingle hof
  refine hof _ _ ?_ hsingle fun k => ?_
  · rintro ⟨f, hf⟩
    unfold Reply.andThen
    dsimp only
    rw [hf]
    simp [Reply.after, Note.tellsSweepFailed]
  · have hsame : slot stored (inside.reply c q.state inner.size).state k = slot stored q.state k :=
      congrArg (Slot.mk _) (congrFun (h.size _ q.state.inner) k)
    exact hsame ▸ .passed _ (.inr rfl)

/-- Every call is answered at once. -/
theorem ask_handled (c : Caller) (d : Demand) :
    ∃ r, (cache inner).ask c s d = .done r ∧
      Handled inner stored c d s (refused r = true) r.state := by
  cases d with
  | put k e => exact ⟨_, rfl, (put_handled h hs c k e).answered fun _ => .done⟩
  | get k =>
    obtain ⟨r, hr, hhandled⟩ := get_handled h hs c k
    refine ⟨r.map (·.map .entry), ?_, hhandled.answered .entry⟩
    unfold Cache.ask
    dsimp only
    rw [hr]
    rfl
  | remove k => exact ⟨_, rfl, (remove_handled h hs c k).answered .entry⟩
  | clear => exact ⟨_, rfl, (clear_handled h c).answered fun _ => .done⟩
  | size => exact ⟨_, rfl, size_handled h hs c⟩

end Calls

/-! ### Courses of calls -/

/-- A call on a layer: who made it, what was asked, the state before, and the reply. -/
structure Visit (σ : Type) where
  caller : Caller
  demand : Demand
  before : Over Weak σ
  reply : Reply (Over Weak σ) (Except CacheFailure Response)

/-- Calls that store nothing but nulls and rows, the last one first, and the state that they lead
to. -/
inductive Course (inner : Cache σ) (start : Over Weak σ) : List (Visit σ) → Over Weak σ → Prop
  | start : Course inner start [] start
  | call {past : List (Visit σ)} {s : Over Weak σ} {c : Caller} {d : Demand}
      {r : Reply (Over Weak σ) (Except CacheFailure Response)} (before : Course inner start past s)
      (hd : d.plain = true) (hr : (cache inner).ask c s d = .done r) :
      Course inner start (⟨c, d, s, r⟩ :: past) r.state

namespace Visit

/-- Whether rows may have come to be tracked under a key without being stored. -/
def misses (k : Key) (v : Visit σ) : Bool :=
  refused v.reply && v.demand.concerns k && v.demand.rows?.isSome

/-- Whether a key may have been forgotten, or not been tracked, without its entry being removed: a
call on the key was refused, or any call while the rows under the key were gone. -/
def strays (inner : Cache σ) (k : Key) (v : Visit σ) : Bool :=
  refused v.reply && (v.demand.concerns k ||
    (v.before.own.tracked.entries.get? k).any fun r => !alive inner v.caller v.before r.id)

/-- Whether what is tracked and stored under a key was renewed. -/
def renews (k : Key) (v : Visit σ) : Bool := !refused v.reply && v.demand.renews k

end Visit

/-- Whether some harm was done by a call that no later call has made good. -/
def standing (harm cure : Visit σ → Bool) : List (Visit σ) → Bool
  | [] => false
  | v :: past => harm v || (!cure v && standing harm cure past)

theorem standing_of_imp {harm harm' cure : Visit σ → Bool}
    (hharm : ∀ v, harm v = true → harm' v = true) {past : List (Visit σ)}
    (h : standing harm' cure past = false) :
    standing harm cure past = false := by
  induction past with
  | nil => rfl
  | cons v past ih =>
    simp only [standing, Bool.or_eq_false_iff, Bool.and_eq_false_iff] at h ⊢
    refine ⟨?_, h.2.imp_right ih⟩
    by_contra hv
    rw [hharm v (by simpa using hv)] at h
    exact nomatch h.1

namespace Course

variable {start : Over Weak σ} {past : List (Visit σ)} (h : inner.Fallible stored)

include h

theorem single (hc : Course inner start past s) (hstart : Single start) : Single s := by
  induction hc with
  | start => exact hstart
  | call before hd hr ih =>
    obtain ⟨r, hr', hhandled⟩ := ask_handled h ih _ _
    cases hr.symm.trans hr'
    exact hhandled.1

/-- What holds of a key at the start holds after a course of calls, unless harm was done that has
not been made good. -/
theorem slot_of_standing {good : Slot → Prop} {harm cure : Visit σ → Bool}
    (hc : Course inner start past s) (hsingle : Single start) (hstart : good (slot stored start k))
    (hkeep : ∀ v : Visit σ, v.demand.plain = true → harm v = false → ∀ w u,
      good (slot stored v.before k) →
      Slot.Swept (alive inner v.caller v.before) (refused v.reply = true) (slot stored v.before k)
        w →
      Slot.Called k v.demand (refused v.reply = true) w u → good u)
    (hcure : ∀ v : Visit σ, v.demand.plain = true → cure v = true → ∀ w u,
      Slot.Called k v.demand (refused v.reply = true) w u → good u)
    (hpast : standing harm cure past = false) : good (slot stored s k) := by
  induction hc with
  | start => exact hstart
  | @call past s c d r before hd hr ih =>
    obtain ⟨r, hr', -, hslot⟩ := ask_handled h (before.single h hsingle) c d
    cases hr.symm.trans hr'
    obtain ⟨w, hswept, hcalled⟩ := hslot k
    simp only [standing, Bool.or_eq_false_iff, Bool.and_eq_false_iff, Bool.not_eq_false'] at hpast
    obtain ⟨hharm, hcured | hpast⟩ := hpast
    · exact hcure ⟨c, d, s, r⟩ hd hcured w _ hcalled
    · exact hkeep ⟨c, d, s, r⟩ hd hharm w _ (ih hpast) hswept hcalled

/-- What is tracked is stored, unless a call to store rows under the key was refused. -/
theorem sound (hc : Course inner start past s) (hsingle : Single start)
    (hstart : (slot stored start k).Sound)
    (hpast : standing (Visit.misses k) (Visit.renews k) past = false) :
    (slot stored s k).Sound := by
  refine hc.slot_of_standing h hsingle hstart ?_ ?_ hpast
  · intro v _ hmiss w u hgood hswept hcalled
    refine (hgood.swept hswept).called hcalled fun hr hk => ?_
    simpa [Visit.misses, hr, hk] using hmiss
  · intro v _ hcure w u hcalled
    simp only [Visit.renews, Bool.and_eq_true, Bool.not_eq_true'] at hcure
    rw [hcalled.renewed (by simp [hcure.1]) hcure.2]
    exact Slot.sound_done v.demand

/-- What is stored as reclaimable is tracked, unless a call on the key was refused, or any call
while the rows under it were gone. -/
theorem complete (hc : Course inner start past s) (hsingle : Single start)
    (hstart : (slot stored start k).Complete)
    (hpast : standing (Visit.strays inner k) (Visit.renews k) past = false) :
    (slot stored s k).Complete := by
  refine hc.slot_of_standing h hsingle hstart ?_ ?_ hpast
  · intro v hd hstray w u hgood hswept hcalled
    have hsafe (hr : refused v.reply = true) : v.demand.concerns k = false ∧
        ∀ r, (slot stored v.before k).rows = some r →
          alive inner v.caller v.before r.id = true := by
      simpa [Visit.strays, hr, slot, Option.any_eq_false] using hstray
    exact (hgood.swept hswept fun hr => (hsafe hr).2).called hcalled hd fun hr => (hsafe hr).1
  · intro v hd hcure w u hcalled
    simp only [Visit.renews, Bool.and_eq_true, Bool.not_eq_true'] at hcure
    rw [hcalled.renewed (by simp [hcure.1]) hcure.2]
    exact Slot.complete_done hd

end Course

/-- If what is tracked under a key is stored there, a sweep drops the entry only if its rows are
gone. -/
theorem gone_of_dropped (h : inner.Fallible stored) (hs : Single s)
    (hsound : (slot stored s k).Sound) {c : Caller} {limit : Nat}
    (hdropped : stored (sweep inner c limit s).state.inner k ≠ stored s.inner k) :
    ∃ r, stored s.inner k = some (.reclaimable r) ∧ alive inner c s r.id = false := by
  obtain ⟨r, hr, hgone⟩ := (slot_sweep hs h c limit k).entry_eq.resolve_left hdropped
  exact ⟨r, hsound r hr, hgone⟩

/-- If a reclaimable entry is tracked and its rows are gone, it is dropped by a sweep that has
checks enough and is not broken off. -/
theorem dropped_of_gone (h : inner.Fallible stored) (hs : Single s)
    (hcomplete : (slot stored s k).Complete) {c : Caller} {limit : Nat} {r : RowList}
    (hr : stored s.inner k = some (.reclaimable r)) (hgone : alive inner c s r.id = false)
    (hlimit : 2 * s.own.tracked.entries.size ≤ limit)
    (hok : (sweep inner c limit s).value = .ok ()) :
    stored (sweep inner c limit s).state.inner k = none := by
  have hbroken : ¬ ∃ f, (sweep inner c limit s).value = .error f := by
    rw [hok]
    exact nofun
  refine ((slot_sweep hs h c limit k).eq_or_none hbroken).resolve_left fun hsame => ?_
  have htracked : (sweep inner c limit s).state.own.tracked.entries.get? k = some r :=
    (congrArg Slot.rows hsame).trans (hcomplete r hr)
  rw [sweep_own h] at htracked
  have halive := Tracked.collect_twice hlimit (Table.mem_entries_of_get? htracked)
  simp [Tracked.gone, hgone] at halive

/-- A layer of weak entries starts with nothing tracked, over a cache with nothing stored, which may
refuse any call; nothing but nulls and rows is put into it. Then every call is answered at once, and
for every key:

- as long as no call to store rows under it was refused, what is tracked is stored, and no sweep
  drops an entry whose rows are alive;
- as long as no call on it was refused, nor any call while the rows under it were gone, what is
  tracked is what is stored as reclaimable, and an entry whose rows are gone is dropped by every
  sweep that has checks enough and is not broken off.

The next call that is to change what is stored under the key, if it is not refused, makes good what
went wrong before. -/
theorem tracked_iff_stored (h : inner.Fallible stored) {n : Nat} {i : σ}
    (hi : ∀ k, stored i k = none) {past : List (Visit σ)}
    (hc : Course inner ⟨{ hardLinks := n }, i⟩ past s) :
    (∀ c d, ∃ r, (cache inner).ask c s d = .done r) ∧ ∀ k,
      (standing (Visit.misses k) (Visit.renews k) past = false →
        (∀ r, s.own.tracked.entries.get? k = some r → stored s.inner k = some (.reclaimable r)) ∧
        ∀ c limit, stored (sweep inner c limit s).state.inner k ≠ stored s.inner k →
          ∃ r, stored s.inner k = some (.reclaimable r) ∧ alive inner c s r.id = false) ∧
      (standing (Visit.strays inner k) (Visit.renews k) past = false →
        (∀ r, s.own.tracked.entries.get? k = some r ↔ stored s.inner k = some (.reclaimable r)) ∧
        ∀ c limit r, stored s.inner k = some (.reclaimable r) → alive inner c s r.id = false →
          2 * s.own.tracked.entries.size ≤ limit → (sweep inner c limit s).value = .ok () →
            stored (sweep inner c limit s).state.inner k = none) := by
  have hempty : Single (⟨{ hardLinks := n }, i⟩ : Over Weak σ) := List.nodup_nil
  have hsingle := hc.single h hempty
  refine ⟨fun c d => ?_, fun k => ?_⟩
  · obtain ⟨r, hr, _⟩ := ask_handled h hsingle c d
    exact ⟨r, hr⟩
  have hcomplete := hc.complete h (k := k) hempty fun r hr => by
    rw [slot, hi] at hr
    exact nomatch hr
  have hsound := hc.sound h (k := k) hempty nofun
  refine ⟨fun hpast => ⟨hsound hpast, fun c limit => gone_of_dropped h hsingle (hsound hpast)⟩,
    fun hpast => ⟨fun r => ⟨hsound ?_ r, hcomplete hpast r⟩, fun c limit r =>
      dropped_of_gone h hsingle (hcomplete hpast)⟩⟩
  refine standing_of_imp (fun v hv => ?_) hpast
  simp only [Visit.misses, Bool.and_eq_true] at hv
  simp [Visit.strays, hv.1.1, hv.1.2]

/-- Rows that a caller may let go of. -/
def loose : RowList := ⟨0, []⟩

/-- A caller who holds on to them. -/
def keeper : Caller := { held := fun id => id == 0 }

/-- A layer without pins, over a store that is down at time 1. -/
def spotty : Cache Store := Store.remote (· == 1)

def unpinned : Over Weak Store := ⟨{ hardLinks := 0 }, { name := "users" }⟩

/-- A refused `clear` forgets a key that stays stored; once it is written anew, a sweep finds it
when its rows are gone. -/
theorem tracked_iff_stored_renewed : ∃ past s, Course spotty unpinned past s ∧
    Store.stored s.inner {} = some (.reclaimable loose) ∧
    standing (Visit.strays spotty {}) (Visit.renews {}) past = false ∧
    (∀ r, s.own.tracked.entries.get? {} = some r ↔
      Store.stored s.inner {} = some (.reclaimable r)) ∧
    Store.stored (sweep spotty {} 2 s).state.inner {} = none := by
  have hc : Course spotty unpinned _ _ :=
    .call (c := keeper) (d := .put {} (.rows loose))
      (.call (c := { keeper with now := 1 }) (d := .clear)
        (.call (c := keeper) (d := .put {} (.rows loose)) .start rfl rfl) rfl rfl) rfl rfl
  have hkey := (tracked_iff_stored (Store.remote_fallible (· == 1)) (fun _ => rfl) hc).2 {}
  have hstanding := hkey.2 rfl
  exact ⟨_, _, hc, rfl, rfl, hstanding.1, hstanding.2 {} 2 loose rfl rfl (Nat.le_refl 2) rfl⟩

/-- After a refused `put` of rows over a null, the next sweep drops the null. After a sweep that was
broken off, its keys are stored and not tracked, and no sweep ever drops them. -/
theorem tracking_lost :
    (∃ past s, Course spotty unpinned past s ∧ Store.stored s.inner {} = some .null ∧
      s.own.tracked.entries.get? {} = some loose ∧
      Store.stored (sweep spotty {} sweepBatch s).state.inner {} = none) ∧
    ∃ past s, Course spotty unpinned past s ∧
      Store.stored s.inner {} = some (.reclaimable loose) ∧ s.own.tracked.entries.get? {} = none ∧
      ∀ c limit,
        Store.stored (sweep spotty c limit s).state.inner {} = some (.reclaimable loose) := by
  constructor
  · exact ⟨_, _, .call (c := { now := 1 }) (d := .put {} (.rows loose))
      (.call (c := {}) (d := .put {} .null) .start rfl rfl) rfl rfl, rfl, rfl, rfl⟩
  · have hfallible : spotty.Fallible Store.stored := Store.remote_fallible (· == 1)
    have hc : Course spotty unpinned _ _ :=
      .call (c := { now := 1 }) (d := .size)
        (.call (c := keeper) (d := .put {} (.rows loose)) .start rfl rfl) rfl rfl
    refine ⟨_, _, hc, rfl, rfl, fun c limit => ?_⟩
    have hswept := slot_sweep (hc.single hfallible List.nodup_nil) hfallible c limit {}
    exact hswept.entry_eq.resolve_right nofun

end Weak

end QueryCache
