import QueryCache.Proofs.Stack.Answers
import QueryCache.Proofs.Stack.Tracking

/-!
# What is still alive

A layer of weak entries over a store of its own finds what was written last under a key as long as
somebody holds the rows: a caller, or the layer itself, which pins the row lists that were stored or
read last. `Retention` is all there is to know about the calls so far to tell what is found.

Callers may let go of row lists between any two calls. What nobody holds is gone for good, so a call
must `fits`: a row list that was written before is not held by the caller if nobody held it after
the last call.
-/

namespace QueryCache

/-- Whether a call itself brings a row list that it holds. -/
def Demand.holds (id : RowsId) : Demand → Bool
  | put _ e => e.holds id
  | _ => false

/-- The calls on a layer so far: how many row lists it pins, the last entry written under each key,
the row lists that were stored or read since it was cleared, newest first, and those held by the
last caller. -/
structure Retention where
  links : Nat
  written : Table Key Entry := Table.empty
  pinned : List RowList := []
  held : RowsId → Bool := fun _ => false

namespace Retention

/-- Whether a row list is among the last to be stored or read. -/
def pins (l : Retention) (id : RowsId) : Bool := (l.pinned.take l.links).any (·.id == id)

/-- Whether somebody holds a row list. -/
def living (l : Retention) (held : RowsId → Bool) (id : RowsId) : Bool := held id || l.pins id

/-- What is found under a key: a null, or rows that somebody holds. -/
def find? (l : Retention) (held : RowsId → Bool) (k : Key) : Option Entry :=
  (l.written.get? k).bind fun e => e.weakened.upgrade (l.living held)

/-- What a call leaves. -/
def after (l : Retention) (c : Caller) : Demand → Retention
  | .put k e =>
    { l with written := l.written.insert k e, pinned := e.rows?.toList ++ l.pinned, held := c.held }
  | .get k =>
    { l with pinned := ((l.find? c.held k).bind Entry.rows?).toList ++ l.pinned, held := c.held }
  | .remove k => { l with written := l.written.erase k, held := c.held }
  | .clear => { l with written := Table.empty, pinned := [], held := c.held }
  | .size => { l with held := c.held }

/-- What several calls leave. -/
def afterAll : List (Caller × Demand) → Retention → Retention
  | [], l => l
  | (c, d) :: rest, l => afterAll rest (l.after c d)

theorem links_afterAll (calls : List (Caller × Demand)) (l : Retention) :
    (afterAll calls l).links = l.links := by
  induction calls generalizing l with
  | nil => rfl
  | cons x rest ih =>
    obtain ⟨c, d⟩ := x
    rw [afterAll, ih]
    cases d <;> rfl

/-- How many of the entries are nulls or alive. -/
def count (l : Retention) (held : RowsId → Bool) : Nat :=
  l.written.entries.countP fun e => (e.2.weakened.upgrade (l.living held)).isSome

/-- Nothing but nulls and rows was written. -/
def Plain (l : Retention) : Prop := ∀ k r, l.written.get? k ≠ some (.reclaimable r)

theorem Plain.after {l : Retention} (h : l.Plain) (c : Caller) {d : Demand} (hd : d.plain = true) :
    (l.after c d).Plain := by
  intro k r
  cases d with
  | put j e =>
    show (l.written.insert j e).get? k ≠ _
    rw [Table.get?_insert]
    split
    · intro he
      rw [Option.some.inj he] at hd
      exact absurd hd Bool.false_ne_true
    · exact h k r
  | remove j =>
    show (l.written.erase j).get? k ≠ _
    rw [Table.get?_erase]
    split
    · exact (Option.some_ne_none _).symm
    · exact h k r
  | get j => exact h k r
  | clear => exact (Option.some_ne_none _).symm
  | size => exact h k r

theorem Plain.afterAll {l : Retention} (h : l.Plain) {calls : List (Caller × Demand)}
    (hcalls : ∀ x ∈ calls, x.2.plain = true) : (afterAll calls l).Plain := by
  induction calls generalizing l with
  | nil => exact h
  | cons x rest ih =>
    obtain ⟨c, d⟩ := x
    have hrest : ∀ y ∈ rest, y.2.plain = true := fun y hy => hcalls y (List.mem_cons_of_mem _ hy)
    exact ih (h.after c (hcalls (c, d) List.mem_cons_self)) hrest

/-- Whether a caller holds no row list that was written and has been held by nobody since. -/
def fits (l : Retention) (c : Caller) (d : Demand) : Bool :=
  l.written.values.all fun e =>
    match e.weakened with
    | .reclaimable r => !(c.held r.id || d.holds r.id) || l.living l.held r.id
    | _ => true

/-- Whether several callers fit, one after the other. -/
def fitsAll : List (Caller × Demand) → Retention → Bool
  | [], _ => true
  | (c, d) :: rest, l => l.fits c d && fitsAll rest (l.after c d)

/-- A newly pinned row list is pinned besides those there were, as far as the room goes. -/
theorem pins_cons_of_ne {l : Retention} {r : RowList} {id : RowsId} (hr : r.id ≠ id)
    (hid : l.pins id = false) :
    ({ l with pinned := r :: l.pinned } : Retention).pins id = false := by
  refine List.any_eq_false.mpr fun a ha => ?_
  have hall (a : RowList) (ha : a ∈ l.pinned.take l.links) : ¬ (a.id == id) = true :=
    List.any_eq_false.mp hid a ha
  cases hlinks : l.links with
  | zero =>
    simp [hlinks] at ha
  | succ n =>
    dsimp only at ha
    rw [hlinks, List.take_succ_cons] at ha
    rcases List.mem_cons.mp ha with rfl | ha
    · simpa using hr
    · refine hall a ?_
      rw [hlinks]
      exact (List.take_prefix_take_left (Nat.le_succ n)).subset ha

/-- The same caller may call again. -/
theorem fits_again (l : Retention) (c : Caller) : (l.after c .size).fits c .size = true := by
  refine List.all_eq_true.mpr fun e _ => ?_
  split
  · next r _ =>
    show (!(c.held r.id || false) || (c.held r.id || l.pins r.id)) = true
    cases c.held r.id <;> rfl
  · rfl

/-- Rows that are gone do not come back. -/
theorem held_of_fits {l : Retention} {c : Caller} {d : Demand} (hf : l.fits c d = true) {k : Key}
    {e : Entry} {r : RowList} (he : l.written.get? k = some e) (hr : e.weakened = .reclaimable r)
    (hgone : l.living l.held r.id = false) : c.held r.id = false ∧ d.holds r.id = false := by
  have hmem : e ∈ l.written.values := List.mem_map_of_mem (Table.mem_entries_of_get? he)
  have hall := List.all_eq_true.mp hf e hmem
  rw [hr] at hall
  simpa [hgone] using hall

/-- A lookup comes to nothing but nulls and rows that are alive. -/
theorem find?_eq_some {l : Retention} {held : RowsId → Bool} {k : Key} {e : Entry}
    (h : l.find? held k = some e) : e = .null ∨ ∃ r, e = .rows r ∧ l.living held r.id = true := by
  obtain ⟨written, -, he⟩ := Option.bind_eq_some_iff.mp h
  have hrows (r : RowList) (hr : (Entry.reclaimable r).upgrade (l.living held) = some e) :
      e = .rows r ∧ l.living held r.id = true := by
    unfold Entry.upgrade at hr
    dsimp only at hr
    split at hr
    · next halive => exact ⟨(Option.some.inj hr).symm, halive⟩
    · exact nomatch hr
  cases written with
  | null => exact .inl (Option.some.inj he).symm
  | rows r | reclaimable r => exact .inr ⟨r, hrows r he⟩

end Retention

/-- Nothing is left of reclaimable rows that are gone, and of nothing else. -/
theorem Entry.upgrade_eq_none {alive : RowsId → Bool} {e : Entry} (h : e.upgrade alive = none) :
    ∃ r, e = .reclaimable r ∧ alive r.id = false := by
  unfold upgrade at h
  split at h
  · next r =>
    split at h
    · exact nomatch h
    · next hgone => exact ⟨r, rfl, (Bool.not_eq_true _).mp hgone⟩
  · exact nomatch h

/-- A weakened entry keeps nothing alive. -/
theorem Entry.holds_weakened (e : Entry) (id : RowsId) : e.weakened.holds id = false := by
  cases e <;> rfl

/-- What there is under a key, given the last entry written there: that entry, weakened, or nothing
if its rows are gone. Tracked are rows that are stored, and no rows that were written and are stored
go untracked. -/
structure Slot.Stands (alive : RowsId → Bool) (written : Option Entry) (v : Slot) : Prop where
  entry : v.entry = written.map Entry.weakened ∨ (v.entry = none ∧
    ∃ e r, written = some e ∧ e.weakened = .reclaimable r ∧ alive r.id = false)
  sound : v.Sound
  complete : ∀ r, written = some (.rows r) → v.entry = some (.reclaimable r) → v.rows = some r

namespace Slot

variable {alive alive' : RowsId → Bool} {written : Option Entry} {v w : Slot}

theorem stands_none (alive : RowsId → Bool) : Stands alive none ⟨none, none⟩ :=
  ⟨.inl rfl, nofun, nofun⟩

theorem stands_put (alive : RowsId → Bool) (e : Entry) :
    Stands alive (some e) ⟨e.rows?, some e.weakened⟩ where
  entry := .inl rfl
  sound := sound_done (.put {} e)
  complete := by
    rintro r he -
    cases he
    rfl

/-- A sweep leaves nothing or all under a key, and nothing only where rows are gone. -/
theorem Stands.swept (h : Stands alive written v) (hs : Swept alive' False v w)
    (hgone : ∀ e r, written = some e → e.weakened = .reclaimable r → alive r.id = false →
      alive' r.id = false) : Stands alive' written w := by
  cases hs with
  | kept =>
    refine ⟨h.entry.imp_right fun hnone => ⟨hnone.1, ?_⟩, h.sound, h.complete⟩
    obtain ⟨e, r, he, hr, hdead⟩ := hnone.2
    exact ⟨e, r, he, hr, hgone e r he hr hdead⟩
  | @dropped r e gone =>
    refine ⟨.inr ⟨rfl, ?_⟩, nofun, nofun⟩
    have hstored : e = some (.reclaimable r) := h.sound r rfl
    rcases h.entry with hentry | ⟨hnone, -⟩
    · obtain ⟨e', he, hr⟩ := Option.map_eq_some_iff.mp (hentry.symm.trans hstored)
      exact ⟨e', r, he, hr, gone⟩
    · exact nomatch hnone.symm.trans hstored
  | left gone hbroken => exact hbroken.elim

/-- The rows under a key may be gone by now. -/
theorem Stands.mono (h : Stands alive written v)
    (hgone : ∀ id, alive id = false → alive' id = false) : Stands alive' written v :=
  h.swept (.kept v) fun _ _ _ _ => hgone _

/-- Where nothing is found, nothing need be kept. -/
theorem stands_of_upgrade_eq_none
    (h : (written.bind fun e => e.weakened.upgrade alive) = none) :
    Stands alive written ⟨none, none⟩ := by
  cases written with
  | none => exact stands_none alive
  | some e =>
    obtain ⟨r, hr, hgone⟩ := Entry.upgrade_eq_none h
    exact ⟨.inr ⟨rfl, e, r, rfl, hr, hgone⟩, nofun, nofun⟩

/-- If nothing but nulls and rows is written, what is stored as reclaimable is what is tracked. -/
theorem Stands.entry_iff (h : Stands alive written v)
    (hplain : ∀ r, written ≠ some (.reclaimable r)) (r : RowList) :
    v.entry = some (.reclaimable r) ↔ v.rows = some r := by
  refine ⟨fun hr => h.complete r ?_ hr, h.sound r⟩
  rcases h.entry with hentry | ⟨hnone, -⟩
  · obtain ⟨e, he, hweak⟩ := Option.map_eq_some_iff.mp (hentry.symm.trans hr)
    cases e with
    | null => exact nomatch hweak
    | rows list =>
      cases hweak
      exact he
    | reclaimable list => exact absurd he (hplain list)
  · exact nomatch hnone.symm.trans hr

/-- There is an entry where one was written that is alive, or rows are tracked that are gone. -/
theorem Stands.isSome_iff (h : Stands alive written v)
    (hplain : ∀ r, written ≠ some (.reclaimable r)) :
    v.entry.isSome = true ↔
      (∃ e, written = some e ∧ (e.weakened.upgrade alive).isSome = true) ∨
        ∃ r, v.rows = some r ∧ alive r.id = false := by
  constructor
  · intro hsome
    obtain ⟨x, hx⟩ := Option.isSome_iff_exists.mp hsome
    rcases h.entry with hentry | ⟨hnone, -⟩
    · obtain ⟨e, he, rfl⟩ := Option.map_eq_some_iff.mp (hentry.symm.trans hx)
      cases halive : e.weakened.upgrade alive with
      | some y => exact .inl ⟨e, he, by rw [halive]; rfl⟩
      | none =>
        obtain ⟨r, hr, hgone⟩ := Entry.upgrade_eq_none halive
        exact .inr ⟨r, (h.entry_iff hplain r).mp (hx.trans (congrArg some hr)), hgone⟩
    · exact nomatch hnone.symm.trans hx
  · rintro (⟨e, rfl, halive⟩ | ⟨r, hr, -⟩)
    · rcases h.entry with hentry | ⟨-, e', r, he, hr, hgone⟩
      · rw [hentry]
        rfl
      · cases he
        rw [hr] at halive
        simp [Entry.upgrade, hgone] at halive
    · rw [h.sound r hr]
      rfl

/-- Rows that are tracked and gone were not written with an entry that is alive. -/
theorem Stands.not_both (h : Stands alive written v) {e : Entry} {r : RowList}
    (he : written = some e) (halive : (e.weakened.upgrade alive).isSome = true)
    (hr : v.rows = some r) : alive r.id = true := by
  have hstored := h.sound r hr
  rcases h.entry with hentry | ⟨hnone, -⟩
  · have hweak : e.weakened = .reclaimable r := by
      rw [he] at hentry
      exact Option.some.inj (hentry.symm.trans hstored)
    rw [hweak] at halive
    unfold Entry.upgrade at halive
    dsimp only at halive
    split at halive
    · assumption
    · exact nomatch halive
  · exact nomatch hnone.symm.trans hstored

/-- What is stored under a key amounts to what was written there. -/
theorem Stands.upgrade (h : Stands alive written v) :
    v.entry.bind (Entry.upgrade alive) = written.bind fun e => e.weakened.upgrade alive := by
  rcases h.entry with hentry | ⟨hnone, e, r, he, hr, hgone⟩
  · rw [hentry, Option.bind_map]
    rfl
  · rw [hnone, he, Option.bind_none, Option.bind_some, hr]
    simp [Entry.upgrade, hgone]

end Slot

/-- No key is stored twice. -/
theorem Store.upholds_nodup (thread : Nat) :
    Store.cache.Upholds thread (fun _ => True) fun s => s.entries.keys.Nodup where
  size _ hs := hs
  put {_ k e _} _ _ hs := ⟨rfl, Table.nodup_insert hs k e⟩
  get _ hs := ⟨⟨_, rfl⟩, hs⟩
  remove {_ k _} _ hs := ⟨⟨_, rfl⟩, Table.nodup_erase hs k⟩
  clear _ _ := ⟨rfl, List.nodup_nil⟩

namespace Weak

open Retention (afterAll fitsAll)

/-- What the layer keeps goes with the calls so far. -/
structure Mirrors (l : Retention) (s : Over Weak Store) : Prop where
  links : s.own.hardLinks = l.links
  ring : s.own.ring = l.pinned.take l.links
  single : Single s
  keys : s.inner.entries.keys.Nodup
  distinct : l.written.keys.Nodup
  stands : ∀ k, (slot Store.stored s k).Stands (l.living l.held) (l.written.get? k)

namespace Mirrors

variable {l : Retention} {s : Over Weak Store} {c : Caller} {k : Key} {e : Entry}
  (h : Mirrors l s)

include h

/-- The store keeps no rows alive. -/
theorem holds_eq_false (id : RowsId) : Store.holds s.inner id = false := by
  refine Bool.eq_false_iff.mpr fun hholds => ?_
  obtain ⟨e, he, hid⟩ := List.any_eq_true.mp hholds
  obtain ⟨⟨k, e'⟩, hmem, rfl⟩ := List.mem_map.mp he
  have hstored : Store.stored s.inner k = some e' := Table.get?_of_mem_entries h.keys hmem
  rcases (h.stands k).entry with hentry | ⟨hnone, -⟩
  · obtain ⟨written, -, rfl⟩ := Option.map_eq_some_iff.mp (hentry.symm.trans hstored)
    rw [Entry.holds_weakened] at hid
    exact nomatch hid
  · exact nomatch hnone.symm.trans hstored

/-- Row lists are alive as long as a caller or the layer holds them. -/
theorem alive_eq (c : Caller) : alive Store.cache c s = l.living c.held := by
  funext id
  show (c.held id || s.own.ring.any (·.id == id) || Store.holds s.inner id) = _
  rw [h.holds_eq_false, h.ring, Bool.or_false]
  rfl

/-- A sweep leaves what is alive for its caller. -/
theorem swept (hc : ∀ k e r, l.written.get? k = some e → e.weakened = .reclaimable r →
      l.living l.held r.id = false → c.held r.id = false) (limit : Nat) :
    (sweep Store.cache c limit s).value = .ok () ∧
      Mirrors { l with held := c.held } (sweep Store.cache c limit s).state := by
  obtain ⟨hvalue, hkeys⟩ := sweep_upholds (Store.upholds_nodup c.thread) rfl limit h.keys
  have hown := sweep_own Store.fallible c limit s
  refine ⟨hvalue, ?_, ?_, h.single.swept Store.fallible c limit, hkeys, h.distinct, fun k => ?_⟩
  · rw [hown]
    exact h.links
  · rw [hown]
    exact h.ring
  · have hswept := slot_sweep h.single Store.fallible c limit k
    rw [h.alive_eq c] at hswept
    refine (h.stands k).swept (hswept.mono (fun _ => id) ?_) fun e r he hr hgone => ?_
    · rintro ⟨f, hf⟩
      exact nomatch hvalue.symm.trans hf
    · have hpins : l.pins r.id = false := (Bool.or_eq_false_iff.mp hgone).2
      exact Bool.or_eq_false_iff.mpr ⟨hc k e r he hr hgone, hpins⟩

/-- A caller may let go of row lists. -/
theorem letGo {held : RowsId → Bool} (hheld : ∀ id, l.held id = false → held id = false) :
    Mirrors { l with held } s where
  links := h.links
  ring := h.ring
  single := h.single
  keys := h.keys
  distinct := h.distinct
  stands k := by
    refine (h.stands k).mono fun id hid => ?_
    obtain ⟨hnone, hpins⟩ := Bool.or_eq_false_iff.mp hid
    exact Bool.or_eq_false_iff.mpr ⟨hheld id hnone, hpins⟩

/-- A row list that somebody holds is pinned. -/
theorem pin {r : RowList} (hr : l.living l.held r.id = true) :
    Mirrors { l with pinned := r :: l.pinned } { s with own := s.own.pin r } where
  links := h.links
  ring := by
    show (r :: s.own.ring).take s.own.hardLinks = (r :: l.pinned).take l.links
    rw [h.links, h.ring]
    cases l.links with
    | zero => rfl
    | succ n =>
      rw [List.take_succ_cons, List.take_succ_cons, List.take_take, Nat.min_eq_left (by omega)]
  single := h.single
  keys := h.keys
  distinct := h.distinct
  stands k := by
    refine (h.stands k).mono fun id hid => ?_
    have hne : r.id ≠ id := by
      rintro rfl
      exact nomatch hr.symm.trans hid
    obtain ⟨hnone, hpins⟩ := Bool.or_eq_false_iff.mp hid
    exact Bool.or_eq_false_iff.mpr ⟨hnone, Retention.pins_cons_of_ne hne hpins⟩

/-- Under one key, what was written, tracked and stored is changed. -/
theorem change (k : Key) {written entries : Table Key Entry} (tracked : Tracked)
    (hsingle : tracked.entries.keys.Nodup) (hkeys : entries.keys.Nodup)
    (hdistinct : written.keys.Nodup) {w : Option Entry} {v : Slot}
    (hstands : v.Stands (l.living l.held) w)
    (hwritten : ∀ a, written.get? a = if k = a then w else l.written.get? a)
    (htracked : ∀ a, tracked.entries.get? a =
      if k = a then v.rows else s.own.tracked.entries.get? a)
    (hstored : ∀ a, entries.get? a = if k = a then v.entry else s.inner.entries.get? a) :
    Mirrors { l with written } ⟨{ s.own with tracked }, { s.inner with entries }⟩ where
  links := h.links
  ring := h.ring
  single := hsingle
  keys := hkeys
  distinct := hdistinct
  stands a := by
    have ha := h.stands a
    unfold slot Store.stored at ha ⊢
    dsimp only
    rw [hwritten, htracked, hstored]
    split
    · exact hstands
    · exact ha

/-- What was written and is alive is stored. -/
theorem stored_of_living {d : Demand} (hf : l.fits c d = true) (he : l.written.get? k = some e)
    (halive : (e.weakened.upgrade (l.living c.held)).isSome = true) :
    Store.stored s.inner k = some e.weakened := by
  rcases (h.stands k).entry with hentry | ⟨-, e', r, he', hr, hgone⟩
  · rw [he] at hentry
    exact hentry
  · obtain rfl := Option.some.inj (he.symm.trans he')
    have hcaller := (Retention.held_of_fits hf he hr hgone).1
    have hpins : l.pins r.id = false := (Bool.or_eq_false_iff.mp hgone).2
    rw [hr] at halive
    simp [Entry.upgrade, Retention.living, hcaller, hpins] at halive

/-- Before a call that fits, a sweep for its caller changes nothing but who held what. -/
theorem swept_of_fits {d : Demand} (hf : l.fits c d = true) (held : RowsId → Bool)
    (hheld : ∀ id, c.held id = false → d.holds id = false → held id = false) (limit : Nat) :
    (sweep Store.cache { c with held } limit s).value = .ok () ∧
      Mirrors { l with held } (sweep Store.cache { c with held } limit s).state := by
  refine h.swept (c := { c with held }) (fun k e r he hr hgone => ?_) limit
  obtain ⟨hcaller, hcall⟩ := Retention.held_of_fits hf he hr hgone
  exact hheld r.id hcaller hcall

theorem put (hf : l.fits c (.put k e) = true) :
    (Weak.put Store.cache c k e s).value = .ok () ∧
      Mirrors (l.after c (.put k e)) (Weak.put Store.cache c k e s).state := by
  obtain ⟨hvalue, hm⟩ := h.swept_of_fits hf (fun id => c.held id || e.holds id)
    (fun id hcaller hcall => Bool.or_eq_false_iff.mpr ⟨hcaller, hcall⟩) sweepBatch
  rw [put_eq]
  unfold Caller.holding
  generalize sweep Store.cache _ sweepBatch s = q at hvalue hm
  unfold Reply.andThen Reply.after
  dsimp only
  rw [hvalue]
  refine ⟨rfl, ?_⟩
  have htracked (a : Key) : (q.state.own.noting k e).tracked.entries.get? a =
      if k = a then e.rows? else q.state.own.tracked.entries.get? a := by
    rw [get?_noting hm.single]
    simp only [Demand.concerns, Demand.rows?, decide_eq_true_eq]
  have hwritten := hm.change k (q.state.own.noting k e).tracked
    (nodup_noting hm.single k e) (Table.nodup_insert hm.keys k e.weakened)
    (Table.nodup_insert hm.distinct k e) (Slot.stands_put _ e)
    (fun a => Table.get?_insert _ k a e) htracked (fun a => Table.get?_insert _ k a e.weakened)
  have hletGo (id : RowsId) (hid : (c.held id || e.holds id) = false) : c.held id = false :=
    (Bool.or_eq_false_iff.mp hid).1
  cases e with
  | null | reclaimable list => exact hwritten.letGo hletGo
  | rows list =>
    -- The rows are pinned as long as the call itself holds them.
    have hlist : ((c.held list.id || list.id == list.id) || l.pins list.id) = true := by simp
    exact (hwritten.pin hlist).letGo hletGo

/-- A key is forgotten and removed inside. -/
theorem forgotten {w : Option Entry} {written : Table Key Entry}
    (hdistinct : written.keys.Nodup) (hstands : Slot.Stands (l.living l.held) w ⟨none, none⟩)
    (hwritten : ∀ a, written.get? a = if k = a then w else l.written.get? a) :
    Mirrors { l with written }
      ⟨s.own.forget k, { s.inner with entries := s.inner.entries.erase k }⟩ :=
  h.change k (s.own.tracked.forget k) (Table.nodup_swapErase h.single k)
    (Table.nodup_erase h.keys k) hdistinct hstands hwritten
    (fun a => Table.get?_swapErase h.single k a) (fun a => Table.get?_erase _ k a)

theorem remove (hf : l.fits c (.remove k) = true) :
    (∃ e, (Weak.remove Store.cache c k s).value = .ok e) ∧
      Mirrors (l.after c (.remove k)) (Weak.remove Store.cache c k s).state := by
  obtain ⟨hvalue, hm⟩ := h.swept_of_fits hf c.held (fun _ hid _ => hid) sweepBatch
  unfold Weak.remove
  generalize sweep Store.cache c sweepBatch s = q at hvalue hm
  unfold Reply.andThen Reply.after
  dsimp only
  rw [hvalue]
  exact ⟨⟨_, rfl⟩, hm.forgotten (Table.nodup_erase hm.distinct k) (Slot.stands_none _)
    fun a => Table.get?_erase _ k a⟩

theorem clear (c : Caller) :
    Mirrors (l.after c .clear) ((cache Store.cache).clear c s).state where
  links := h.links
  ring := List.take_nil.symm
  single := List.nodup_nil
  keys := List.nodup_nil
  distinct := List.nodup_nil
  stands _ := Slot.stands_none _

theorem size (hf : l.fits c .size = true) :
    Mirrors (l.after c .size) (Weak.size Store.cache c s).state :=
  (h.swept_of_fits hf c.held (fun _ hid _ => hid) s.own.tracked.entries.size).2

/-- What follows the lookup in the store. -/
theorem found (c : Caller) (hc : l.held = c.held) :
    ∃ r, Weak.found Store.cache k c (.ok (Store.stored s.inner k)) s = .done r ∧
      r.value = .ok (l.find? c.held k) ∧ Mirrors (l.after c (.get k)) r.state := by
  have hfind : (Store.stored s.inner k).bind (Entry.upgrade (alive Store.cache c s)) =
      l.find? c.held k := by
    rw [h.alive_eq, ← hc]
    exact (h.stands k).upgrade
  have hafter : l.after c (.get k) =
      { l with pinned := ((l.find? c.held k).bind Entry.rows?).toList ++ l.pinned } := by
    rw [Retention.after, ← hc]
  unfold Weak.found
  rw [hafter, ← hfind]
  cases hstored : Store.stored s.inner k with
  | none => exact ⟨_, rfl, rfl, h⟩
  | some x =>
    rw [hstored] at hfind
    dsimp only [Option.bind_some] at hfind ⊢
    cases hx : x.upgrade (alive Store.cache c s) with
    | none =>
      rw [hx] at hfind
      have hnone : Slot.Stands (l.living l.held) (l.written.get? k) ⟨none, none⟩ := by
        refine Slot.stands_of_upgrade_eq_none ?_
        rw [hc]
        exact hfind.symm
      refine ⟨_, rfl, rfl, h.forgotten h.distinct hnone fun a => ?_⟩
      split
      · next hka => rw [hka]
      · rfl
    | some y =>
      rcases Retention.find?_eq_some (hfind.symm.trans hx) with rfl | ⟨list, rfl, hlist⟩
      · exact ⟨_, rfl, rfl, h⟩
      · rw [← hc] at hlist
        exact ⟨_, rfl, rfl, h.pin hlist⟩

/-- A lookup finds what was written and is alive. -/
theorem get (hf : l.fits c (.get k) = true) :
    ∃ r, (cache Store.cache).get c k s = .done r ∧ r.value = .ok (l.find? c.held k) ∧
      Mirrors (l.after c (.get k)) r.state := by
  obtain ⟨hvalue, hm⟩ := h.swept_of_fits hf c.held (fun _ hid _ => hid) sweepBatch
  unfold cache Weak.get
  dsimp only
  generalize sweep Store.cache _ sweepBatch s = q at hvalue hm
  rw [hvalue]
  obtain ⟨r, hr, hanswer, hafter⟩ := hm.found (k := k) c rfl
  refine ⟨(r.after []).after q.notes, ?_, hanswer, hafter⟩
  show ((Weak.found Store.cache k c (.ok (Store.stored q.state.inner k)) q.state).after []).after
    q.notes = _
  rw [hr]
  rfl

omit h in
/-- A change of the answer changes nothing in the layer. -/
theorem answered {α β : Type} {r : Reply (Over Weak Store) α} (f : α → β) (h : Mirrors l r.state) :
    Mirrors l (r.map f).state := h

/-- Every call that fits is answered at once. -/
theorem ask {d : Demand} (hf : l.fits c d = true) :
    ∃ r, (cache Store.cache).ask c s d = .done r ∧ Mirrors (l.after c d) r.state := by
  cases d with
  | put k e => exact ⟨_, rfl, (h.put hf).2.answered _⟩
  | get k =>
    obtain ⟨r, hr, -, hafter⟩ := h.get hf
    refine ⟨r.map (·.map .entry), ?_, hafter.answered _⟩
    unfold Cache.ask
    dsimp only
    rw [hr]
    rfl
  | remove k => exact ⟨_, rfl, (h.remove hf).2.answered _⟩
  | clear => exact ⟨_, rfl, (h.clear c).answered _⟩
  | size => exact ⟨_, rfl, (h.size hf).answered _⟩

omit h in
/-- So are several calls. -/
theorem askAll (h : Mirrors l s) {calls : List (Caller × Demand)} (hf : fitsAll calls l = true) :
    ((cache Store.cache).askAll calls s).Returns fun _ s' => Mirrors (afterAll calls l) s' := by
  induction calls generalizing l s with
  | nil => exact h
  | cons x rest ih =>
    obtain ⟨c, d⟩ := x
    obtain ⟨hfits, hrest⟩ := Bool.and_eq_true_iff.mp hf
    obtain ⟨r, hr, hafter⟩ := h.ask hfits
    exact Cache.askAll_cons hr (ih hafter hrest)

end Mirrors

/-- A layer without entries that pins up to so many row lists, over a store of its own. -/
def fresh (links : Nat) (name : String) : Over Weak Store := ⟨{ hardLinks := links }, { name }⟩

theorem mirrors_fresh (links : Nat) (name : String) : Mirrors { links } (fresh links name) :=
  ⟨rfl, List.take_nil.symm, List.nodup_nil, List.nodup_nil, List.nodup_nil, fun _ =>
    Slot.stands_none _⟩

/-- Whatever is asked of a layer of weak entries over a store of its own, by callers who let go of
row lists at any time, is answered at once, and then:

- the row lists that were stored or read last are kept alive;
- every entry that was written and whose rows are alive is in the store;
- a lookup finds under a key the last entry written there, if it is a null or its rows are alive,
  and nothing else; it never comes to reclaimable rows. -/
theorem get_eq_living (links : Nat) (name : String) (calls : List (Caller × Demand))
    (hf : fitsAll calls { links } = true) :
    ∃ r, (cache Store.cache).askAll calls (fresh links name) = .done r ∧
      let l := afterAll calls { links }
      (∀ list ∈ l.pinned.take links, (cache Store.cache).holds r.state list.id = true) ∧
      ∀ c k, l.fits c (.get k) = true →
        (∀ a e, l.written.get? a = some e → (e.weakened.upgrade (l.living c.held)).isSome = true →
          Store.stored r.state.inner a = some e.weakened) ∧
        (∃ q, (cache Store.cache).get c k r.state = .done q ∧ q.value = .ok (l.find? c.held k)) ∧
        ∀ list, l.find? c.held k ≠ some (.reclaimable list) := by
  obtain ⟨r, hr, h⟩ := ((mirrors_fresh links name).askAll hf).done
  have hlinks : (afterAll calls { links }).links = links := Retention.links_afterAll calls _
  refine ⟨r, hr, fun list hlist => ?_, fun c k hfits => ⟨fun a e he halive => ?_, ?_, ?_⟩⟩
  · refine Bool.or_eq_true_iff.mpr (.inl (List.any_eq_true.mpr ⟨list, ?_, beq_self_eq_true _⟩))
    rw [h.ring, hlinks]
    exact hlist
  · exact h.stored_of_living hfits he halive
  · obtain ⟨q, hq, hanswer, -⟩ := h.get hfits
    exact ⟨q, hq, hanswer⟩
  · rintro list hlist
    rcases Retention.find?_eq_some hlist with hnull | ⟨rows, hrows, -⟩
    · exact nomatch hnull
    · exact nomatch hrows

/-- Further rows. -/
def firm : RowList := ⟨1, []⟩

/-- A caller who holds on to both. -/
def holder : Caller := { held := fun id => id == 0 || id == 1 }

/-- Two row lists are written by a caller who holds them. -/
def twoWritten : List (Caller × Demand) :=
  [(holder, .put {} (.rows loose)), (holder, .put { hashcode := 1 } (.rows firm))]

/-- The one that was written last is pinned, so it is found when nobody else holds it. -/
theorem get_eq_living_pinned : fitsAll twoWritten { links := 1 } = true ∧
    ∃ r, (cache Store.cache).askAll twoWritten (fresh 1 "users") = .done r ∧
      (∃ q, (cache Store.cache).get {} { hashcode := 1 } r.state = .done q ∧
        q.value = .ok (some (.rows firm))) ∧
      ∃ q, (cache Store.cache).get {} {} r.state = .done q ∧ q.value = .ok none := by
  obtain ⟨r, hr, -, hget⟩ := get_eq_living 1 "users" twoWritten rfl
  exact ⟨rfl, r, hr, (hget {} { hashcode := 1 } rfl).2.1, (hget {} {} rfl).2.1⟩

/-! ### The number of entries -/

namespace Mirrors

variable {l : Retention} {s : Over Weak Store} (h : Mirrors l s) (hp : l.Plain)

include h hp

/-- If nothing but nulls and rows was written, every entry in the store is alive or tracked, and
every one that is alive is in the store. -/
theorem size_eq : s.inner.entries.size = l.count l.held +
    s.own.tracked.entries.entries.countP (Tracked.gone (l.living l.held)) := by
  refine Table.size_eq_add h.keys h.distinct h.single (fun k => ?_) fun k e r he halive hr => ?_
  · simp only [Tracked.gone, Bool.not_eq_true']
    exact (h.stands k).isSome_iff (hp k)
  · simp only [Tracked.gone, Bool.not_eq_false']
    exact (h.stands k).not_both he halive hr

end Mirrors

/-- A count is that of the nulls and the rows that are alive, and no others are tracked or
stored. -/
def CountsLiving (l : Retention) (held : RowsId → Bool) (counted : Reply (Over Weak Store) Nat) :
    Prop :=
  counted.value = l.count held ∧ ∀ k list,
    counted.state.own.tracked.entries.get? k = some list ∨
      Store.stored counted.state.inner k = some (.reclaimable list) →
    l.living held list.id = true

/-- The store is counted as the sweep leaves it. -/
theorem value_size (c : Caller) (s : Over Weak Store) :
    (size Store.cache c s).value = (size Store.cache c s).state.inner.entries.size := by
  unfold size
  generalize sweep Store.cache c s.own.tracked.entries.size s = q
  rfl

namespace Mirrors

variable {l : Retention} {s : Over Weak Store} {c : Caller} (h : Mirrors l s)

include h

/-- The sweep checks as many entries as are tracked. -/
theorem tracked_size (c : Caller) : (Weak.size Store.cache c s).state.own.tracked =
    (s.own.tracked.collect (l.living c.held) s.own.tracked.entries.size).2 := by
  have hown := sweep_own Store.fallible c s.own.tracked.entries.size s
  rw [h.alive_eq c] at hown
  exact congrArg Weak.tracked hown

variable (hp : l.Plain) (hf : l.fits c .size = true)

include hp hf

/-- The count may be too large by the entries that the sweep has not found to be gone. These, and
those that are alive, are all that is left. -/
theorem value_size_eq : (Weak.size Store.cache c s).value = l.count c.held +
      (Weak.size Store.cache c s).state.own.tracked.entries.entries.countP
        (Tracked.gone (l.living c.held)) ∧
    ∀ k list, Store.stored (Weak.size Store.cache c s).state.inner k = some (.reclaimable list) ↔
      (Weak.size Store.cache c s).state.own.tracked.entries.get? k = some list := by
  have hplain := hp.after c (d := .size) rfl
  have hafter := h.size hf
  rw [value_size]
  exact ⟨hafter.size_eq hplain, fun k => (hafter.stands k).entry_iff (hplain k)⟩

/-- If all entries that are gone are within reach, the sweep finds them. -/
theorem countsLiving (hr : Tracked.WithinReach (l.living c.held) s.own.tracked) :
    CountsLiving l c.held (Weak.size Store.cache c s) := by
  obtain ⟨hvalue, htracked⟩ := h.value_size_eq hp hf
  have halive (e : Key × RowList)
      (he : e ∈ (Weak.size Store.cache c s).state.own.tracked.entries.entries) :
      Tracked.gone (l.living c.held) e = false := by
    rw [h.tracked_size c] at he
    exact hr.collect he
  refine ⟨?_, fun k list hlist => ?_⟩
  · rw [hvalue, List.countP_eq_zero.mpr fun e he => by simp [halive e he], Nat.add_zero]
  · rw [htracked, or_self] at hlist
    simpa [Tracked.gone] using halive (k, list) (Table.mem_entries_of_get? hlist)

/-- Asked a second time, the layer finds all that it has not found the first time. -/
theorem countsLiving_again : CountsLiving l c.held
    (Weak.size Store.cache c (Weak.size Store.cache c s).state) := by
  refine (h.size hf).countsLiving (hp.after c rfl) (l.fits_again c) ?_
  rw [h.tracked_size c]
  exact .inr ⟨[], _, rfl, fun e he => Tracked.passed_collect he, Nat.zero_le _⟩

end Mirrors

/-- Nulls and rows are put into a layer of weak entries over a store of its own, and callers let go
of row lists at any time. Then all calls are answered at once, and asked for its size,

- the layer counts the entries that are alive, and those that are gone and that its sweep has left:
  these are still tracked, as all reclaimable entries in the store are;
- the sweep leaves none of those that are gone if they are within reach of one check for every
  tracked entry;
- none are left when the layer is asked a second time, and no row list was let go of in between. -/
theorem size_eq_living (links : Nat) (name : String) (calls : List (Caller × Demand))
    (hplain : ∀ x ∈ calls, x.2.plain = true) (hf : fitsAll calls { links } = true) :
    ∃ r, (cache Store.cache).askAll calls (fresh links name) = .done r ∧
      let l := afterAll calls { links }
      ∀ c, l.fits c .size = true →
        let once := size Store.cache c r.state
        (once.value = l.count c.held + once.state.own.tracked.entries.entries.countP
          (Tracked.gone (l.living c.held))) ∧
        (∀ k list, Store.stored once.state.inner k = some (.reclaimable list) ↔
          once.state.own.tracked.entries.get? k = some list) ∧
        (Tracked.WithinReach (l.living c.held) r.state.own.tracked →
          CountsLiving l c.held once) ∧
        CountsLiving l c.held (size Store.cache c once.state) := by
  obtain ⟨r, hr, h⟩ := ((mirrors_fresh links name).askAll hf).done
  have hp : (afterAll calls { links }).Plain :=
    Retention.Plain.afterAll (l := { links }) (fun _ _ => nofun) hplain
  refine ⟨r, hr, fun c hfits => ?_⟩
  obtain ⟨hvalue, htracked⟩ := h.value_size_eq hp hfits
  exact ⟨hvalue, htracked, h.countsLiving hp hfits, h.countsLiving_again hp hfits⟩

/-- A row list is written under three keys, and another one under a fourth. -/
def fourWritten : List (Caller × Demand) :=
  [(holder, .put {} (.rows loose)), (holder, .put { hashcode := 1 } (.rows loose)),
    (holder, .put { hashcode := 2 } (.rows loose)), (holder, .put { hashcode := 3 } (.rows firm))]

/-- A caller who holds on to the other one only. -/
def letting : Caller := { held := fun id => id == 1 }

/-- Of the four entries of `fourWritten` one is found to be alive, when the layer is asked twice. -/
theorem size_eq_living_again : fitsAll fourWritten { links := 0 } = true ∧
    letting.held 0 = false ∧ (afterAll fourWritten { links := 0 }).count letting.held = 1 ∧
    ∃ r, (cache Store.cache).askAll fourWritten (fresh 0 "users") = .done r ∧
      CountsLiving (afterAll fourWritten { links := 0 }) letting.held
        (size Store.cache letting (size Store.cache letting r.state).state) := by
  have hplain : ∀ x ∈ fourWritten, x.2.plain = true := by simp [fourWritten, Demand.plain]
  obtain ⟨r, hr, hsize⟩ := size_eq_living 0 "users" fourWritten hplain rfl
  exact ⟨rfl, rfl, rfl, r, hr, (hsize letting rfl).2.2.2⟩

/-- The first time, the sweep meets the one that is alive more than once and stops before it has
checked all four, so that an entry is left and counted whose rows are gone. -/
theorem size_too_large : fitsAll (fourWritten ++ [(letting, .size)]) { links := 0 } = true ∧
    (afterAll fourWritten { links := 0 }).count letting.held = 1 ∧
    (cache Store.cache).answers (fourWritten ++ [(letting, .size)]) (fresh 0 "users") =
      some ([.done, .done, .done, .done, .count 2].map .ok) :=
  ⟨rfl, rfl, rfl⟩

end Weak

end QueryCache
