import QueryCache.Layer.Blocking
import QueryCache.Proofs.Table

/-!
# The lock table

The locks of a layer of key locks, key by key. A lock that does not exist is neither owned nor
waited for, so each operation on the table is told by what it does to the lock of each key. A
table without idle locks is determined by these: it has the locks that are owned or waited for.
Only the operations that end a wait leave a lock idle for a moment.
-/

namespace QueryCache

namespace Blocking

/-- The lock of a key. -/
def lockOf (b : Blocking) (k : Key) : Lock := (b.locks.get? k).getD {}

/-- No lock is idle, but that of the key at most. -/
def IdleAt (b : Blocking) (k : Key) : Prop := ∀ a, b.locks.get? a = some {} → a = k

/-- No lock is idle. -/
def NoneIdle (b : Blocking) : Prop := ∀ a, b.locks.get? a ≠ some {}

variable {b : Blocking} {t : Nat} {k : Key}

theorem NoneIdle.idleAt (h : b.NoneIdle) (k : Key) : b.IdleAt k :=
  fun a ha => absurd ha (h a)

/-- A lock may be taken that is free or the thread's own. -/
theorem claimable_iff :
    b.claimable t k = true ↔ (b.lockOf k).owner = none ∨ (b.lockOf k).owner = some t := by
  unfold claimable lockOf
  cases b.locks.get? k with
  | none => simp
  | some l => simp

/-- A lock exists that is owned or waited for, and no other if none is idle. -/
theorem NoneIdle.contains_iff (h : b.NoneIdle) (k : Key) :
    b.locks.contains k = true ↔ (b.lockOf k).owner ≠ none ∨ 0 < (b.lockOf k).waiting := by
  have hk := h k
  unfold Table.contains lockOf
  cases hl : b.locks.get? k with
  | none => simp
  | some l =>
    obtain ⟨owner, waiting⟩ := l
    rw [hl] at hk
    cases owner with
    | some t => simp
    | none =>
      cases waiting with
      | zero => exact absurd rfl hk
      | succ n => simp

/-- Writing a lock changes that of its key only. -/
private theorem lockOf_insert (l : Lock) (a : Key) :
    ({ b with locks := b.locks.insert k l } : Blocking).lockOf a =
      if k = a then l else b.lockOf a := by
  unfold lockOf
  rw [Table.get?_insert]
  split <;> rfl

/-- Writing the lock of a key leaves no other idle than before. -/
private theorem IdleAt.insert (h : b.IdleAt k) (l : Lock) :
    ({ b with locks := b.locks.insert k l } : Blocking).IdleAt k := by
  intro a ha
  rw [Table.get?_insert] at ha
  split at ha
  · next hka => exact hka.symm
  · exact h a ha

private theorem IdleAt.insert_busy (h : b.IdleAt k) {l : Lock} (hl : l ≠ {}) :
    ({ b with locks := b.locks.insert k l } : Blocking).NoneIdle := by
  intro a ha
  rw [Table.get?_insert] at ha
  split at ha
  · exact hl (Option.some.inj ha)
  · next hka => exact hka (h a ha).symm

theorem lockOf_claim (a : Key) :
    (b.claim t k).lockOf a = if k = a then { b.lockOf k with owner := some t } else b.lockOf a :=
  lockOf_insert _ a

theorem IdleAt.claim (h : b.IdleAt k) : (b.claim t k).NoneIdle :=
  h.insert_busy fun heq => nomatch congrArg Lock.owner heq

theorem lockOf_await (a : Key) :
    (b.await k).lockOf a =
      if k = a then { b.lockOf k with waiting := (b.lockOf k).waiting + 1 } else b.lockOf a :=
  lockOf_insert _ a

theorem NoneIdle.await (h : b.NoneIdle) : (b.await k).NoneIdle :=
  (h.idleAt k).insert_busy fun heq => nomatch congrArg Lock.waiting heq

theorem lockOf_unawait (a : Key) :
    (b.unawait k).lockOf a =
      if k = a then { b.lockOf k with waiting := (b.lockOf k).waiting - 1 } else b.lockOf a := by
  unfold lockOf unawait
  dsimp only
  rw [Table.get?_modify]
  split
  · next hka =>
    subst hka
    cases b.locks.get? k <;> rfl
  · rfl

theorem NoneIdle.unawait (h : b.NoneIdle) : (b.unawait k).IdleAt k := by
  intro a ha
  unfold Blocking.unawait at ha
  dsimp only at ha
  rw [Table.get?_modify] at ha
  split at ha
  · next hka => exact hka.symm
  · exact absurd ha (h a)

/-- Forgetting an idle lock changes the lock of no key. -/
theorem lockOf_discardIdle (a : Key) : (b.discardIdle k).lockOf a = b.lockOf a := by
  unfold discardIdle
  split
  · next hk =>
    unfold lockOf
    rw [Table.get?_erase]
    split
    · next hka =>
      subst hka
      rw [hk]
      rfl
    · rfl
  · rfl

theorem IdleAt.discardIdle (h : b.IdleAt k) : (b.discardIdle k).NoneIdle := by
  intro a ha
  unfold Blocking.discardIdle at ha
  split at ha
  · dsimp only at ha
    rw [Table.get?_erase] at ha
    split at ha
    · cases ha
    · next hka => exact hka (h a ha).symm
  · next hidle =>
    have hak := h a ha
    subst hak
    exact hidle ha

/-- Only the owner gives a lock back. -/
theorem lockOf_release (a : Key) :
    (b.release t k).lockOf a =
      if k = a ∧ (b.lockOf k).owner = some t then { b.lockOf k with owner := none }
      else b.lockOf a := by
  unfold release
  cases hk : b.locks.get? k with
  | none =>
    have hfree : b.lockOf k = {} := by
      unfold lockOf
      rw [hk]
      rfl
    simp [hfree]
  | some l =>
    have hlock : b.lockOf k = l := by
      unfold lockOf
      rw [hk]
      rfl
    simp only [hlock]
    split
    · next howner => simp [lockOf_discardIdle, lockOf_insert, howner]
    · next howner => simp [howner]

theorem waiting_release {a : Key} : ((b.release t k).lockOf a).waiting = (b.lockOf a).waiting := by
  rw [lockOf_release]
  split
  · next hka => rw [hka.1]
  · rfl

theorem NoneIdle.release (h : b.NoneIdle) : (b.release t k).NoneIdle := by
  unfold Blocking.release
  split
  · exact h
  · split
    · exact ((h.idleAt k).insert _).discardIdle
    · exact h

end Blocking

end QueryCache
