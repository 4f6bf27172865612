import Mathlib.Logic.Function.Basic
import QueryCache.Layer.Blocking
import QueryCache.Proofs.Staging.Calls
import QueryCache.Proofs.Stack.Service

/-!
# Locks and the journal

Several caches with key locks, each over a cache that may answer anything, and a journal of the
calls on all of them. As long as one thread makes these calls, every lock is on a key that was
looked up in vain and that has neither been written to nor removed since.
-/

namespace QueryCache

variable {ρ σ : Type}

namespace Blocking

/-- All locks are owned by the thread, on the given keys, and nobody waits for them. -/
def HeldBy (thread : Nat) (keys : Key → Prop) (b : Blocking) : Prop :=
  ∀ k l, b.locks.get? k = some l → l = { owner := some thread } ∧ keys k

variable {thread : Nat} {keys : Key → Prop} {b : Blocking}

theorem HeldBy.mono {keys' : Key → Prop} (h : b.HeldBy thread keys)
    (hk : ∀ k, keys k → keys' k) : b.HeldBy thread keys' :=
  fun k l hl => ⟨(h k l hl).1, hk k (h k l hl).2⟩

/-- The thread need not wait. -/
theorem HeldBy.claimable (h : b.HeldBy thread keys) (k : Key) : b.claimable thread k = true := by
  have howned : b.OwnedBy thread keys := fun a l hl =>
    .inr ⟨congrArg Lock.owner (h a l hl).1, (h a l hl).2⟩
  exact howned.claimable k

theorem HeldBy.claim (h : b.HeldBy thread keys) (k : Key) :
    (b.claim thread k).HeldBy thread fun a => keys a ∨ a = k := by
  intro a l hl
  rw [Blocking.claim, Table.get?_insert] at hl
  split at hl
  · next hk =>
    refine ⟨?_, .inr hk.symm⟩
    rw [← Option.some.inj hl]
    cases hb : b.locks.get? k with
    | none => rfl
    | some l' =>
      rw [(h k l' hb).1]
      rfl
  · exact ⟨(h a l hl).1, .inl (h a l hl).2⟩

/-- A lock that is given back is gone. -/
theorem HeldBy.release (h : b.HeldBy thread keys) (k : Key) :
    (b.release thread k).HeldBy thread fun a => keys a ∧ a ≠ k := by
  intro a l hl
  unfold Blocking.release at hl
  cases hb : b.locks.get? k with
  | none =>
    rw [hb] at hl
    refine ⟨(h a l hl).1, (h a l hl).2, ?_⟩
    rintro rfl
    exact nomatch hb.symm.trans hl
  | some l' =>
    have hidle : ({ b with locks := b.locks.insert k {} } : Blocking).discardIdle k =
        { b with locks := (b.locks.insert k {}).erase k } := by
      simp only [discardIdle, Table.get?_insert, if_true]
    rw [hb, (h k l' hb).1] at hl
    simp only [if_true, hidle, Table.get?_erase, Table.get?_insert] at hl
    split at hl
    · exact nomatch hl
    · next hne => exact ⟨(h a l hl).1, (h a l hl).2, Ne.symm hne⟩

/-- Without keys there are no locks. -/
theorem HeldBy.size_locks (h : b.HeldBy thread keys) (hno : ∀ k, ¬ keys k) :
    b.locks.size = 0 := by
  refine List.length_eq_zero_iff.mpr (List.eq_nil_iff_forall_not_mem.mpr fun e he => ?_)
  have hk : e.1 ∈ b.locks.keys := List.mem_map_of_mem he
  rw [← Table.contains_iff, Table.contains, Option.isSome_iff_exists] at hk
  obtain ⟨l, hl⟩ := hk
  exact hno e.1 (h e.1 l hl).2

end Blocking

/-! ### What is owed -/

namespace Record

/-- A lookup of a key that came to nothing, or to an explicit null. -/
def Misses (x : Record ρ) (ref : ρ) (k : Key) : Prop :=
  x.target = ref ∧ x.call = .get k ∧ (x.answer = .ok none ∨ x.answer = .ok (some .null))

/-- A call that writes to a key or removes it. -/
def Settles (x : Record ρ) (ref : ρ) (k : Key) : Prop :=
  x.target = ref ∧ (x.call = .remove k ∨ ∃ e, x.call = .put k e)

end Record

namespace Journal

/-- The key was looked up in vain and has neither been written to nor removed since. -/
def Owes (j : Journal ρ) (ref : ρ) (k : Key) : Prop :=
  ∃ before x after, j = before ++ x :: after ∧ x.Misses ref k ∧ ∀ y ∈ after, ¬ y.Settles ref k

variable {j j' : Journal ρ} {x : Record ρ} {ref : ρ} {k : Key}

theorem not_owes_nil : ¬ Owes ([] : Journal ρ) ref k := by
  rintro ⟨before, x, after, h, _⟩
  exact List.append_ne_nil_of_right_ne_nil before (List.cons_ne_nil x after) h.symm

/-- A miss is owed. -/
theorem owes_of_misses (h : x.Misses ref k) : Owes (j ++ [x]) ref k :=
  ⟨j, x, [], rfl, h, fun _ hy => nomatch hy⟩

/-- A call that does not settle a key leaves it owed. -/
theorem Owes.concat (h : j.Owes ref k) (hx : ¬ x.Settles ref k) : Owes (j ++ [x]) ref k := by
  obtain ⟨before, y, after, rfl, hm, ha⟩ := h
  refine ⟨before, y, after ++ [x], by rw [List.append_assoc, List.cons_append], hm, ?_⟩
  intro z hz
  rcases List.mem_append.mp hz with hz | hz
  · exact ha z hz
  · rw [List.mem_singleton.mp hz]
    exact hx

/-- What is owed was missed later, or was owed before and has not been settled. -/
theorem Owes.of_append (h : Owes (j ++ j') ref k) :
    (∃ x ∈ j', x.Misses ref k) ∨ (j.Owes ref k ∧ ∀ y ∈ j', ¬ y.Settles ref k) := by
  obtain ⟨before, x, after, heq, hm, ha⟩ := h
  rcases List.append_eq_append_iff.mp heq with ⟨rest, hbefore, hj'⟩ | ⟨rest, hj, hafter⟩
  · refine .inl ⟨x, ?_, hm⟩
    rw [hj']
    exact List.mem_append_right _ List.mem_cons_self
  · cases rest with
    | nil =>
      refine .inl ⟨x, ?_, hm⟩
      rw [List.nil_append] at hafter
      rw [← hafter]
      exact List.mem_cons_self
    | cons y rest =>
      obtain ⟨rfl, rfl⟩ := List.cons.inj hafter
      refine .inr ⟨⟨before, x, rest, hj, hm, ?_⟩, ?_⟩
      · exact fun y hy => ha y (List.mem_append_left _ hy)
      · exact fun y hy => ha y (List.mem_append_right _ hy)

end Journal

/-! ### Several caches with locks -/

namespace Blocking

variable [DecidableEq ρ]

/-- One of several locking layers, with what is behind them. -/
def locker (ref : ρ) : Part (Over (ρ → Blocking) σ) (Over Blocking σ) where
  view s := ⟨s.own ref, s.inner⟩
  place i s := ⟨Function.update s.own ref i.own, i.inner⟩

/-- Caches with locks over others. -/
def caches (inner : ρ → Cache σ) (ref : ρ) : Cache (Over (ρ → Blocking) σ) :=
  (Blocking.cache (inner ref)).within (locker ref)

/-- The state of several caches with locks behind a journal. -/
abbrev Lockers (ρ σ : Type) := Over (Journal ρ) (Over (ρ → Blocking) σ)

/-- Every lock is on a key that is owed. -/
def Kept (thread : Nat) (s : Lockers ρ σ) : Prop :=
  ∀ ref, (s.inner.own ref).HeldBy thread (s.own.Owes ref)

/-- What others may do: anything but to the locks and the journal. -/
def Apart (s s' : Lockers ρ σ) : Prop := s'.own = s.own ∧ s'.inner.own = s.inner.own

variable {thread : Nat} {s : Lockers ρ σ} {inner : ρ → Cache σ} {ref : ρ} {c : Caller}

omit [DecidableEq ρ] in
theorem Kept.apart (h : Kept thread s) {s' : Lockers ρ σ} (moved : Apart s s') :
    Kept thread s' := by
  intro ref
  rw [moved.1, moved.2]
  exact h ref

omit [DecidableEq ρ] in
/-- A call that concerns one cache leaves the keys of the others owed. -/
private theorem owes_other {j : Journal ρ} {other : ρ} {x : Record ρ} (hx : x.target ≠ other)
    {k : Key} (h : j.Owes other k) : (j ++ [x]).Owes other k :=
  h.concat fun hs => hx hs.1

/-- After a call that settles a key, its lock has been given back. -/
private theorem Kept.settle (h : Kept thread s) (ref : ρ) {k : Key} {x : Record ρ}
    (hx : x.target = ref) (hother : ∀ a, a ≠ k → ¬ x.Settles ref a) (i : σ) :
    Kept thread ⟨s.own ++ [x],
      ⟨Function.update s.inner.own ref ((s.inner.own ref).release thread k), i⟩⟩ := by
  intro r
  dsimp only
  by_cases hr : r = ref
  · subst hr
    rw [Function.update_self]
    exact ((h r).release k).mono fun a ha => ha.1.concat (hother a ha.2)
  · rw [Function.update_of_ne hr]
    exact (h r).mono fun a ha => owes_other (fun heq => hr (heq.symm.trans hx)) ha

theorem kept_put (h : Kept thread s) (hc : c.thread = thread) (k : Key) (e : Entry) :
    Kept thread ((Journal.caches id (caches inner) ref).put c k e s).state := by
  subst hc
  refine h.settle ref (x := ⟨ref, .put k e, _⟩) rfl ?_ _
  rintro a ha ⟨_, hremove | ⟨e', hput⟩⟩
  · exact nomatch hremove
  · exact ha (Call.put.inj hput).1.symm

theorem kept_remove (h : Kept thread s) (hc : c.thread = thread) (k : Key) :
    Kept thread ((Journal.caches id (caches inner) ref).remove c k s).state := by
  subst hc
  refine h.settle ref (x := ⟨ref, .remove k, _⟩) rfl ?_ _
  rintro a ha ⟨_, hremove | ⟨e', hput⟩⟩
  · exact ha (Call.remove.inj hremove).symm
  · exact nomatch hput

theorem kept_clear (h : Kept thread s) (c : Caller) :
    Kept thread ((Journal.caches id (caches inner) ref).clear c s).state := by
  intro r
  have hsame : Function.update s.inner.own ref (s.inner.own ref) = s.inner.own :=
    Function.update_eq_self _ _
  change ((Function.update s.inner.own ref (s.inner.own ref)) r).HeldBy thread _
  rw [hsame]
  refine (h r).mono fun a ha => ha.concat ?_
  rintro ⟨_, hremove | ⟨e', hput⟩⟩
  · exact nomatch hremove
  · exact nomatch hput

/-- A lookup keeps the lock of its key only if it comes to nothing or to an explicit null. -/
private theorem held_get {inner : Cache σ} {c : Caller} {b : Over Blocking σ} {keys : Key → Prop}
    (h : b.own.HeldBy c.thread keys) (k : Key) :
    (Blocking.get inner c k b).Always (fun t t' => t'.own = t.own) (fun _ => True) fun v t =>
      t.own.HeldBy c.thread fun a => keys a ∨ (a = k ∧ (v = .ok none ∨ v = .ok (some .null))) := by
  rw [Blocking.get, if_pos (h.claimable k), fetch]
  have hclaimed : (inside.run c { b with own := b.own.claim c.thread k }
      fun c i => inner.get c k i).Always (fun t t' => t'.own = t.own) (fun _ => True)
        fun _ t => t.own = b.own.claim c.thread k := by
    refine Run.Always.within (fun t => t.own = b.own.claim c.thread k) (Run.always_true _) rfl
      (fun _ _ _ _ => True.intro) ?_ (fun _ _ _ ht _ => ht)
    intro i t t' ht _ moved
    exact ⟨True.intro, moved.trans ht⟩
  refine hclaimed.andThen ?_
  intro c' v t ht
  have hheld : t.own.HeldBy c.thread fun a => keys a ∨ a = k := by
    rw [ht]
    exact h.claim k
  have hreleased {P : Prop} : (t.own.release c.thread k).HeldBy c.thread fun a =>
      keys a ∨ (a = k ∧ P) :=
    (hheld.release k).mono fun a ha => .inl (ha.1.resolve_right ha.2)
  rcases v with f | _ | _ | list | list
  · exact hreleased
  · exact hheld.mono fun a ha => ha.imp_right fun hk => ⟨hk, .inl rfl⟩
  · exact hheld.mono fun a ha => ha.imp_right fun hk => ⟨hk, .inr rfl⟩
  · exact hreleased
  · exact hreleased

theorem kept_get (h : Kept thread s) (hc : c.thread = thread) (k : Key) :
    ((Journal.caches id (caches inner) ref).get c k s).Always Apart (fun _ => True)
      fun _ t => Kept thread t := by
  subst hc
  -- Of all locks only that of the key may be new, and only if the lookup comes to nothing.
  have hlocker (c' : Caller) (hc' : c'.thread = c.thread) :
      ((caches inner ref).get c' k s.inner).Always (fun t t' => t'.own = t.own) (fun _ => True)
        fun v t => ((t.own ref).HeldBy c.thread fun a =>
          s.own.Owes ref a ∨ (a = k ∧ (v = .ok none ∨ v = .ok (some .null)))) ∧
          ∀ r, r ≠ ref → t.own r = s.inner.own r := by
    have hkeys : ((locker ref).view s.inner).own.HeldBy
        (c'.holding ((locker ref).held s.inner)).thread (s.own.Owes ref) := by
      change (s.inner.own ref).HeldBy c'.thread _
      rw [hc']
      exact h ref
    rw [← hc']
    refine Run.Always.within (fun t => ∀ r, r ≠ ref → t.own r = s.inner.own r)
      (held_get hkeys k) (fun _ _ => rfl) (fun _ _ _ _ => True.intro) ?_ ?_
    · intro i t t' ht _ moved
      have hown : t'.own = Function.update t.own ref i.own := moved
      refine ⟨?_, fun r hr => ?_⟩
      · change t'.own ref = i.own
        rw [hown, Function.update_self]
      · rw [hown, Function.update_of_ne hr]
        exact ht r hr
    · intro v i t ht hheld
      refine ⟨?_, fun r hr => ?_⟩
      · change ((Function.update t.own ref i.own) ref).HeldBy c'.thread _
        rw [Function.update_self]
        exact hheld
      · exact (Function.update_of_ne hr _ _).trans (ht r hr)
  have hinside : (Journal.inside.run c s fun c i => (caches inner ref).get c k i).Always Apart
      (fun _ => True) fun v t => t.own = s.own ∧ ((t.inner.own ref).HeldBy c.thread fun a =>
          s.own.Owes ref a ∨ (a = k ∧ (v = .ok none ∨ v = .ok (some .null)))) ∧
          ∀ r, r ≠ ref → t.inner.own r = s.inner.own r := by
    refine Run.Always.within (fun t => t.own = s.own) (hlocker _ rfl) rfl
      (fun _ _ _ _ => True.intro) ?_ ?_
    · intro i t t' ht _ moved
      exact ⟨moved.2, moved.1.trans ht⟩
    · intro v i t ht hi
      exact ⟨ht, hi⟩
  refine hinside.mapReply ?_
  rintro ⟨v, t, _⟩ ⟨hown, hheld, hothers⟩ r
  change (t.inner.own r).HeldBy c.thread (Journal.Owes (t.own ++ [⟨ref, .get k, v⟩]) r)
  have hno (r : ρ) (a : Key) : ¬ (⟨ref, .get k, v⟩ : Record ρ).Settles r a := by
    rintro ⟨_, hremove | ⟨e, hput⟩⟩
    · exact nomatch hremove
    · exact nomatch hput
  rw [hown]
  by_cases hr : r = ref
  · subst hr
    refine hheld.mono fun a ha => ?_
    rcases ha with howed | ⟨rfl, hmiss⟩
    · exact howed.concat (hno r a)
    · exact Journal.owes_of_misses ⟨rfl, rfl, hmiss⟩
  · rw [hothers r hr]
    exact (h r).mono fun a ha => ha.concat (hno r a)

end Blocking

end QueryCache
