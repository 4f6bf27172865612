import Mathlib.Algebra.GroupWithZero.Nat
import QueryCache.Proofs.Stack.Sweep

/-!
# Sweeps in rounds

The tracked entries are swept a few at a time: every sweep has a number of checks of its own and
goes on where the one before has stopped. As long as the same row lists are alive, it does not
matter how the checks are shared out, so rounds that have two checks for every entry between them
find all that are gone (`rounds_reach_all`).

A sweep stops before its checks are used up only when there is nothing left to check
(`collect_checks`).
-/

namespace QueryCache

namespace Tracked

variable {alive : RowsId → Bool}

/-- Checks one after another, each with an entry to check: how many there are, and the keys that
they drop, in order. -/
inductive Checks (alive : RowsId → Bool) : Tracked → Nat → List Key → Tracked → Prop
  | none (t : Tracked) : Checks alive t 0 [] t
  | next {t u : Tracked} {n : Nat} {dead : List Key} (hne : t.entries.entries ≠ [])
      (rest : Checks alive (t.check alive).2 n dead u) :
      Checks alive t (n + 1) ((t.check alive).1.toList ++ dead) u

/-- Sweeps one after another, each with its number of checks: the keys that each of them drops, and
what is tracked at the end. -/
def collectAll (alive : RowsId → Bool) : List Nat → Tracked → List (List Key) × Tracked
  | [], t => ([], t)
  | limit :: limits, t =>
    let (dead, t) := t.collect alive limit
    let (later, t) := collectAll alive limits t
    (dead :: later, t)

/-! ### One sweep -/

/-- With nothing to check, a sweep does nothing. -/
theorem collect_of_empty {t : Tracked} (h : t.entries.entries = []) (limit : Nat) :
    t.collect alive limit = ([], t) := by
  have hcheck : t.check alive = (none, t) := by
    unfold check Table.at?
    rw [h]
    rfl
  induction limit with
  | zero => rfl
  | succ limit ih =>
    unfold collect
    rw [hcheck]
    dsimp only
    rw [ih]
    rfl

/-- A sweep makes checks until it has used them up or nothing is left to check. -/
theorem collect_checks (alive : RowsId → Bool) (limit : Nat) (t : Tracked) :
    ∃ n ≤ limit, Checks alive t n (t.collect alive limit).1 (t.collect alive limit).2 ∧
      (n < limit → (t.collect alive limit).2.entries.entries = []) := by
  induction limit generalizing t with
  | zero => exact ⟨0, Nat.le_refl 0, .none t, nofun⟩
  | succ limit ih =>
    by_cases hne : t.entries.entries = []
    · rw [collect_of_empty hne]
      exact ⟨0, Nat.zero_le _, .none t, fun _ => hne⟩
    · obtain ⟨n, hn, hchecks, hend⟩ := ih (t.check alive).2
      exact ⟨n + 1, Nat.succ_le_succ hn, .next hne hchecks, fun hlt => hend (by omega)⟩

/-! ### Several sweeps -/

/-- Several sweeps drop and leave together what one sweep with all their checks does. -/
theorem collectAll_eq (alive : RowsId → Bool) (limits : List Nat) (t : Tracked) :
    ((t.collectAll alive limits).1.flatten, (t.collectAll alive limits).2) =
      t.collect alive limits.sum := by
  induction limits generalizing t with
  | nil => rfl
  | cons limit limits ih =>
    rw [List.sum_cons, collect_add, ← ih]
    rfl

/-- Sweeps that have two checks for every entry between them drop all entries whose rows are gone
and keep all others. -/
theorem collectAll_perm (alive : RowsId → Bool) {t : Tracked} {limits : List Nat}
    (h : 2 * t.entries.size ≤ limits.sum) :
    (t.collectAll alive limits).1.flatten.Perm
        ((t.entries.entries.filter (gone alive)).map Prod.fst) ∧
      (t.collectAll alive limits).2.entries.entries.Perm
        (t.entries.entries.filter fun e => alive e.2.id) := by
  obtain ⟨hkeys, hleft⟩ := Prod.mk.inj (collectAll_eq alive limits t)
  obtain ⟨dropped, hdead, hgone, hp⟩ := t.collect_perm alive limits.sum
  have hkept (e : Key × RowList) (he : e ∈ (t.collect alive limits.sum).2.entries.entries) :
      gone alive e = false := collect_twice h he
  rw [hkeys, hleft, hdead]
  generalize (t.collect alive limits.sum).2.entries.entries = left at hp hkept
  have hnone : left.filter (gone alive) = [] :=
    List.filter_eq_nil_iff.mpr fun e he => by simp [hkept e he]
  have hsome : dropped.filter (fun e => alive e.2.id) = [] :=
    List.filter_eq_nil_iff.mpr fun e he => by simpa [gone] using hgone e he
  have hall : left.filter (fun e => alive e.2.id) = left :=
    List.filter_eq_self.mpr fun e he => by simpa [gone] using hkept e he
  constructor
  · have hfilter := hp.filter (gone alive)
    rw [List.filter_append, List.filter_eq_self.mpr hgone, hnone, List.append_nil] at hfilter
    exact (hfilter.map Prod.fst).symm
  · have hfilter := hp.filter fun e => alive e.2.id
    rw [List.filter_append, hsome, hall, List.nil_append] at hfilter
    exact hfilter.symm

/-- Whichever row lists are alive, and wherever the sweeps begin:

- sweeps with any numbers of checks that come to two for every entry drop each key whose rows are
  gone once and no other key, and leave the other entries with their rows;
- each sweep ends, after checks that are no more than it has, and fewer only if nothing is left;
- two sweeps drop and leave together what one with the checks of both does. -/
theorem rounds_reach_all {t : Tracked} (hn : t.entries.keys.Nodup) (alive : RowsId → Bool) :
    (∀ limits : List Nat, 2 * t.entries.size ≤ limits.sum →
      (t.collectAll alive limits).1.flatten.Nodup ∧
      (∀ k, k ∈ (t.collectAll alive limits).1.flatten ↔
        ∃ r, t.entries.get? k = some r ∧ alive r.id = false) ∧
      (t.collectAll alive limits).2.entries.entries.Perm
        (t.entries.entries.filter fun e => alive e.2.id)) ∧
    (∀ limit, ∃ n ≤ limit, Checks alive t n (t.collect alive limit).1 (t.collect alive limit).2 ∧
      (n < limit → (t.collect alive limit).2.entries.entries = [])) ∧
    ∀ a b, t.collect alive (a + b) =
      ((t.collect alive a).1 ++ ((t.collect alive a).2.collect alive b).1,
        ((t.collect alive a).2.collect alive b).2) := by
  refine ⟨fun limits hlimits => ?_, fun limit => collect_checks alive limit t,
    fun a b => collect_add alive a b t⟩
  obtain ⟨hdropped, hleft⟩ := collectAll_perm alive hlimits
  refine ⟨hdropped.nodup_iff.mpr (Table.nodup_keys_filter hn _), fun k => ?_, hleft⟩
  rw [hdropped.mem_iff, Table.mem_keys_filter hn]
  simp [gone]

/-- Four entries, the last two behind the cursor; every other row list is gone. -/
def turning : Tracked where
  entries := ⟨[({}, ⟨0, []⟩), ({ hashcode := 1 }, ⟨1, []⟩), ({ hashcode := 2 }, ⟨2, []⟩),
    ({ hashcode := 3 }, ⟨3, []⟩)]⟩
  cursor := 2

/-- Sweeps of one check, none, two and five come round to all entries; the last entry takes the
place of two others and is checked in both. -/
theorem rounds_reach_all_turning :
    turning.entries.keys.Nodup ∧ 2 * turning.entries.size ≤ [1, 0, 2, 5].sum ∧
    turning.collectAll (· % 2 == 1) [1, 0, 2, 5] =
      ([[{ hashcode := 2 }], [], [{}], []],
        ⟨⟨[({ hashcode := 3 }, ⟨3, []⟩), ({ hashcode := 1 }, ⟨1, []⟩)]⟩, 1⟩) ∧
    ∀ k, k ∈ (turning.collectAll (· % 2 == 1) [1, 0, 2, 5]).1.flatten ↔
      ∃ r, turning.entries.get? k = some r ∧ (r.id % 2 == 1) = false := by
  have hn : turning.entries.keys.Nodup := by decide +kernel
  have hlimits : 2 * turning.entries.size ≤ [1, 0, 2, 5].sum := by decide
  exact ⟨hn, hlimits, rfl, ((rounds_reach_all hn (· % 2 == 1)).1 _ hlimits).2.1⟩

end Tracked

end QueryCache
