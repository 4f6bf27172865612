import QueryCache.Layer.Weak
import QueryCache.Proofs.Table

/-!
# Sweeps

A sweep checks the tracked entries from the cursor on and begins again after the last one. An entry
whose rows are gone is dropped, the last entry takes its place, and the cursor stays.

What a sweep drops is told up to the order of the others (`collect_perm`). How far it gets depends
on the order: an entry that has been passed may take the place of a dropped one and is checked once
more. So as many checks as there are entries may be too few (`WithinReach`), and twice as many are
enough (`collect_twice`).
-/

namespace QueryCache

namespace Tracked

variable {alive : RowsId → Bool}

/-- Whether the rows of an entry are gone. -/
def gone (alive : RowsId → Bool) (e : Key × RowList) : Bool := !alive e.2.id

/-- The entries that a sweep comes to last, as they stand before the cursor. -/
def passed (t : Tracked) : List (Key × RowList) :=
  if t.cursor < t.entries.size then t.entries.entries.take t.cursor else []

/-- The entries that a sweep comes to first. -/
def ahead (t : Tracked) : List (Key × RowList) :=
  if t.cursor < t.entries.size then t.entries.entries.drop t.cursor else t.entries.entries

theorem passed_append_ahead (t : Tracked) : t.passed ++ t.ahead = t.entries.entries := by
  unfold passed ahead
  split
  · exact List.take_append_drop _ _
  · rfl

/-! ### What a sweep drops -/

/-- A check drops nothing, or one entry whose rows are gone. -/
theorem check_perm (alive : RowsId → Bool) (t : Tracked) :
    ∃ dropped : List (Key × RowList), (t.check alive).1.toList = dropped.map Prod.fst ∧
      (∀ e ∈ dropped, gone alive e = true) ∧
      t.entries.entries.Perm (dropped ++ (t.check alive).2.entries.entries) := by
  unfold check
  dsimp only
  split
  · exact ⟨[], rfl, nofun, .refl _⟩
  · next k r hat =>
    by_cases hr : alive r.id = true
    · rw [if_pos hr]
      exact ⟨[], rfl, nofun, .refl _⟩
    · rw [if_neg hr]
      exact ⟨[(k, r)], rfl, by simpa [gone] using hr, Table.swapEraseAt_perm hat⟩

/-- A sweep drops entries whose rows are gone and keeps the others. -/
theorem collect_perm (alive : RowsId → Bool) (limit : Nat) (t : Tracked) :
    ∃ dropped : List (Key × RowList), (t.collect alive limit).1 = dropped.map Prod.fst ∧
      (∀ e ∈ dropped, gone alive e = true) ∧
      t.entries.entries.Perm (dropped ++ (t.collect alive limit).2.entries.entries) := by
  induction limit generalizing t with
  | zero => exact ⟨[], rfl, nofun, .refl _⟩
  | succ limit ih =>
    obtain ⟨first, hfirst, hgone, hp⟩ := t.check_perm alive
    obtain ⟨rest, hrest, hgone', hp'⟩ := ih (t.check alive).2
    refine ⟨first ++ rest, ?_, ?_, ?_⟩
    · show (t.check alive).1.toList ++ (collect alive limit (t.check alive).2).1 = _
      rw [hfirst, hrest, List.map_append]
    · intro e he
      exact (List.mem_append.mp he).elim (hgone e) (hgone' e)
    · rw [List.append_assoc]
      exact hp.trans (hp'.append_left first)

/-- Nothing comes to be tracked by a sweep. -/
theorem mem_of_mem_collect {limit : Nat} {t : Tracked} {e : Key × RowList}
    (he : e ∈ (t.collect alive limit).2.entries.entries) : e ∈ t.entries.entries := by
  obtain ⟨dropped, _, _, hp⟩ := t.collect_perm alive limit
  exact hp.mem_iff.mpr (List.mem_append_right _ he)

section Keys

variable {t : Tracked} (hn : t.entries.keys.Nodup) (alive : RowsId → Bool) (limit : Nat)

include hn

theorem nodup_collect : (t.collect alive limit).2.entries.keys.Nodup := by
  obtain ⟨dropped, _, _, hp⟩ := t.collect_perm alive limit
  exact Table.nodup_of_perm hn hp

/-- A key that is dropped is tracked no more, and all others are as before. -/
theorem get?_collect (k : Key) :
    (t.collect alive limit).2.entries.get? k =
      if k ∈ (t.collect alive limit).1 then none else t.entries.get? k := by
  obtain ⟨dropped, hkeys, _, hp⟩ := t.collect_perm alive limit
  rw [hkeys]
  exact Table.get?_of_perm hn hp k

/-- Only keys are dropped that were tracked with rows which are gone. -/
theorem mem_collect {k : Key} (hk : k ∈ (t.collect alive limit).1) :
    ∃ list, t.entries.get? k = some list ∧ alive list.id = false := by
  obtain ⟨dropped, hkeys, hgone, hp⟩ := t.collect_perm alive limit
  rw [hkeys] at hk
  obtain ⟨⟨a, list⟩, he, rfl⟩ := List.mem_map.mp hk
  have hmem : (a, list) ∈ t.entries.entries := hp.mem_iff.mpr (List.mem_append_left _ he)
  exact ⟨list, Table.get?_of_mem_entries hn hmem, by simpa [gone] using hgone _ he⟩

end Keys

/-! ### How far a sweep gets -/

/-- A sweep with more checks goes on where one with fewer stops. -/
theorem collect_add (alive : RowsId → Bool) (m n : Nat) (t : Tracked) :
    t.collect alive (m + n) =
      ((t.collect alive m).1 ++ ((t.collect alive m).2.collect alive n).1,
        ((t.collect alive m).2.collect alive n).2) := by
  induction m generalizing t with
  | zero =>
    rw [Nat.zero_add]
    rfl
  | succ m ih =>
    have hone : t.collect alive (m + 1 + n) =
        ((t.check alive).1.toList ++ ((t.check alive).2.collect alive (m + n)).1,
          ((t.check alive).2.collect alive (m + n)).2) := by
      rw [Nat.add_right_comm]
      rfl
    rw [hone, ih, ← List.append_assoc]
    rfl

/-- An entry that is alive is passed. -/
theorem check_alive {seen rest : List (Key × RowList)} {e : Key × RowList}
    (he : gone alive e = false) :
    check alive ⟨⟨seen ++ e :: rest⟩, seen.length⟩ =
      (none, ⟨⟨seen ++ e :: rest⟩, (seen ++ [e]).length⟩) := by
  have hlt : seen.length < (⟨seen ++ e :: rest⟩ : Table Key RowList).size := by simp [Table.size]
  have hat : (⟨seen ++ e :: rest⟩ : Table Key RowList).at? seen.length = some e := by
    simp [Table.at?]
  have halive : alive e.2.id = true := by simpa [gone] using he
  unfold check
  simp only [if_pos hlt, hat, halive]
  simp

/-- An entry whose rows are gone is dropped, and the last one takes its place. -/
theorem check_gone {seen rest : List (Key × RowList)} {e : Key × RowList}
    (he : gone alive e = true) :
    check alive ⟨⟨seen ++ e :: rest⟩, seen.length⟩ =
      (some e.1, ⟨⟨seen ++ Table.refill rest⟩, seen.length⟩) := by
  have hlt : seen.length < (⟨seen ++ e :: rest⟩ : Table Key RowList).size := by simp [Table.size]
  have hat : (⟨seen ++ e :: rest⟩ : Table Key RowList).at? seen.length = some e := by
    simp [Table.at?]
  have halive : alive e.2.id = false := by simpa [gone] using he
  unfold check
  simp only [if_pos hlt, hat, halive, Table.swapEraseAt_append]
  simp

/-- At the end a sweep begins again. -/
theorem check_end {t : Tracked} (hcursor : t.entries.size ≤ t.cursor)
    (hne : t.entries.entries ≠ []) :
    t.check alive = check alive { t with cursor := 0 } := by
  have hpos : 0 < t.entries.size := List.length_pos_of_ne_nil hne
  have hat : t.entries.at? 0 = some t.entries.entries[0] := List.getElem?_eq_getElem hpos
  unfold check
  simp only [if_neg (Nat.not_lt.mpr hcursor), if_pos hpos, hat]

/-- Every check has to do with one more entry, as long as there are any up to the end. -/
theorem collect_onward (alive : RowsId → Bool) {m : Nat} (seen : List (Key × RowList))
    {rest : List (Key × RowList)} (hm : m ≤ rest.length) :
    ∃ kept rest', (collect alive m ⟨⟨seen ++ rest⟩, seen.length⟩).2 =
        ⟨⟨(seen ++ kept) ++ rest'⟩, (seen ++ kept).length⟩ ∧
      rest'.length + m = rest.length ∧ ∀ e ∈ kept, gone alive e = false ∧ e ∈ rest := by
  induction m generalizing seen rest with
  | zero => exact ⟨[], rest, by simp [collect], rfl, nofun⟩
  | succ m ih =>
    cases rest with
    | nil => exact nomatch hm
    | cons e rest =>
      have hm' : m ≤ rest.length := Nat.le_of_succ_le_succ hm
      show ∃ kept rest', (collect alive m (check alive _).2).2 = _ ∧ _
      by_cases he : gone alive e = true
      · rw [check_gone he]
        have hp := Table.refill_perm rest
        obtain ⟨kept, rest', hend, hcount, hkept⟩ := ih seen (hp.length_eq.symm ▸ hm')
        refine ⟨kept, rest', hend, ?_, fun a ha => ⟨(hkept a ha).1, ?_⟩⟩
        · rw [hp.length_eq] at hcount
          rw [List.length_cons]
          omega
        · exact List.mem_cons_of_mem e (hp.mem_iff.mp (hkept a ha).2)
      · have he' : gone alive e = false := by simpa using he
        rw [check_alive he']
        obtain ⟨kept, rest', hend, hcount, hkept⟩ := ih (seen ++ [e]) hm'
        refine ⟨e :: kept, rest', ?_, ?_, ?_⟩
        · simpa using hend
        · rw [List.length_cons]
          omega
        · intro a ha
          rcases List.mem_cons.mp ha with rfl | ha
          · exact ⟨he', List.mem_cons_self⟩
          · exact ⟨(hkept a ha).1, List.mem_cons_of_mem e (hkept a ha).2⟩

/-- A sweep gets to all entries whose rows are gone if it has a check for each that comes first,
and another one for each of those that are gone but the last: in their places it finds entries
that were at the end. -/
theorem collect_reaches {m : Nat} {seen first last : List (Key × RowList)}
    (hseen : ∀ e ∈ seen, gone alive e = false) (hlast : ∀ e ∈ last, gone alive e = false)
    (hm : first.countP (gone alive) = 0 ∨ first.length + first.countP (gone alive) ≤ m + 1)
    {e : Key × RowList}
    (he : e ∈ (collect alive m ⟨⟨seen ++ (first ++ last)⟩, seen.length⟩).2.entries.entries) :
    gone alive e = false := by
  induction m generalizing seen first last with
  | zero =>
    have hfirst : ∀ e ∈ first, gone alive e = false := by
      have hle := List.countP_le_length (p := gone alive) (l := first)
      have hnone : first.countP (gone alive) = 0 := by omega
      intro a ha
      simpa using List.countP_eq_zero.mp hnone a ha
    rcases List.mem_append.mp he with he | he
    · exact hseen e he
    · exact (List.mem_append.mp he).elim (hfirst e) (hlast e)
  | succ m ih =>
    cases first with
    | nil =>
      rcases List.mem_append.mp (mem_of_mem_collect he) with he | he
      · exact hseen e he
      · exact hlast e he
    | cons a first =>
      change e ∈ (collect alive m (check alive _).2).2.entries.entries at he
      rw [List.cons_append] at he
      rw [List.length_cons, List.countP_cons] at hm
      by_cases ha : gone alive a = true
      · rw [check_gone ha] at he
        rw [if_pos ha] at hm
        rcases List.eq_nil_or_concat last with rfl | ⟨last, x, rfl⟩
        · -- Nothing behind is known to be alive: the rest closes up.
          have hp := Table.refill_perm first
          rw [List.append_nil, ← List.append_nil (Table.refill first)] at he
          refine ih hseen (List.forall_mem_nil _) ?_ he
          rw [hp.length_eq, hp.countP_eq]
          omega
        · -- An entry that is alive takes the place, and costs another check.
          have hx : gone alive x = false := hlast x (by simp)
          rw [List.concat_eq_append, ← List.append_assoc, Table.refill_concat,
            ← List.cons_append] at he
          refine ih hseen (fun b hb => hlast b (by simp [hb])) ?_ he
          rw [List.length_cons, List.countP_cons, if_neg (by simp [hx])]
          omega
      · have ha' : gone alive a = false := by simpa using ha
        rw [check_alive ha'] at he
        rw [if_neg ha] at hm
        have hseen' : ∀ b ∈ seen ++ [a], gone alive b = false := by
          intro b hb
          rcases List.mem_append.mp hb with hb | hb
          · exact hseen b hb
          · rw [List.mem_singleton.mp hb]
            exact ha'
        have hlist : seen ++ a :: (first ++ last) = seen ++ [a] ++ (first ++ last) := by simp
        rw [hlist] at he
        refine ih hseen' hlast ?_ he
        omega

/-! ### Sweeps of every tracked entry -/

/-- From the end a sweep goes on as from the beginning. -/
theorem collect_end {t : Tracked} (hcursor : t.entries.size ≤ t.cursor)
    (hne : t.entries.entries ≠ []) {m : Nat} (hm : m ≠ 0) :
    t.collect alive m = collect alive m { t with cursor := 0 } := by
  obtain ⟨n, rfl⟩ := Nat.exists_eq_succ_of_ne_zero hm
  unfold collect
  rw [check_end hcursor hne]

/-- A sweep begins with the entries from the cursor on. It comes to the end of the table after as
many checks, and keeps those of them that are alive. -/
theorem collect_ahead (alive : RowsId → Bool) (t : Tracked) :
    ∃ kept, (t.collect alive t.ahead.length).2.entries.entries = t.passed ++ kept ∧
      (t.collect alive t.ahead.length).2.entries.size ≤
        (t.collect alive t.ahead.length).2.cursor ∧
      ∀ e ∈ kept, gone alive e = false ∧ e ∈ t.ahead := by
  have honward (seen rest : List (Key × RowList)) :
      ∃ kept, (collect alive rest.length ⟨⟨seen ++ rest⟩, seen.length⟩).2 =
          ⟨⟨seen ++ kept⟩, (seen ++ kept).length⟩ ∧
        ∀ e ∈ kept, gone alive e = false ∧ e ∈ rest := by
    obtain ⟨kept, rest', hend, hcount, hkept⟩ :=
      collect_onward alive seen (Nat.le_refl rest.length)
    have hnil : rest' = [] := List.eq_nil_of_length_eq_zero (by omega)
    rw [hnil, List.append_nil] at hend
    exact ⟨kept, hend, hkept⟩
  by_cases hcursor : t.cursor < t.entries.size
  · have hstart : t = ⟨⟨t.passed ++ t.ahead⟩, t.passed.length⟩ := by
      rw [passed_append_ahead]
      have hlen : t.passed.length = t.cursor := by
        rw [passed, if_pos hcursor]
        exact List.length_take_of_le (Nat.le_of_lt hcursor)
      rw [hlen]
    obtain ⟨kept, hend, hkept⟩ := honward t.passed t.ahead
    rw [← hstart] at hend
    rw [hend]
    exact ⟨kept, rfl, Nat.le_refl _, hkept⟩
  · have hpassed : t.passed = [] := if_neg hcursor
    have hahead : t.ahead = t.entries.entries := if_neg hcursor
    rw [hpassed, hahead]
    by_cases hne : t.entries.entries = []
    · rw [hne]
      exact ⟨[], hne, Nat.not_lt.mp hcursor, nofun⟩
    · rw [collect_end (Nat.not_lt.mp hcursor) hne (mt List.eq_nil_of_length_eq_zero hne)]
      obtain ⟨kept, hend, hkept⟩ := honward [] t.entries.entries
      change (collect alive t.entries.entries.length { t with cursor := 0 }).2 = _ at hend
      rw [hend]
      exact ⟨kept, rfl, Nat.le_refl _, hkept⟩

theorem length_passed_add_ahead (t : Tracked) :
    t.ahead.length + t.passed.length = t.entries.size := by
  rw [Nat.add_comm, ← List.length_append, passed_append_ahead]
  rfl

/-- One check for every tracked entry is enough to find all that are gone: there is no entry alive
from the cursor on, or not many of those before the cursor are gone. -/
def WithinReach (alive : RowsId → Bool) (t : Tracked) : Prop :=
  (∀ e ∈ t.ahead, gone alive e = true) ∨
    ∃ first last, t.passed = first ++ last ∧ (∀ e ∈ last, gone alive e = false) ∧
      first.countP (gone alive) ≤ last.length + 1

/-- After the checks up to the end, what a sweep leaves if it goes on. -/
private theorem collect_rest {t : Tracked} {m : Nat} {first last : List (Key × RowList)}
    (hpassed : t.passed = first ++ last) (hlast : ∀ e ∈ last, gone alive e = false)
    (hm : first.length + first.countP (gone alive) ≤ m + 1)
    {e : Key × RowList} (he : e ∈ (t.collect alive (t.ahead.length + m)).2.entries.entries) :
    gone alive e = false := by
  obtain ⟨kept, hentries, hcursor, hkept⟩ := t.collect_ahead alive
  rw [collect_add] at he
  generalize (t.collect alive t.ahead.length).2 = u at hentries hcursor he
  have hlist : u.entries.entries = first ++ (last ++ kept) := by
    rw [hentries, hpassed, List.append_assoc]
  have hbehind : ∀ e ∈ last ++ kept, gone alive e = false := by
    intro a ha
    exact (List.mem_append.mp ha).elim (hlast a) fun ha => (hkept a ha).1
  by_cases hnone : first.countP (gone alive) = 0
  · have hmem : e ∈ first ++ (last ++ kept) := hlist ▸ mem_of_mem_collect he
    rcases List.mem_append.mp hmem with hmem | hmem
    · simpa using List.countP_eq_zero.mp hnone e hmem
    · exact hbehind e hmem
  · have hle := List.countP_le_length (p := gone alive) (l := first)
    have hne : u.entries.entries ≠ [] := by
      rw [hlist]
      refine List.append_ne_nil_of_left_ne_nil (List.ne_nil_of_length_pos ?_) _
      omega
    have hstart : ({ u with cursor := 0 } : Tracked) =
        ⟨⟨[] ++ (first ++ (last ++ kept))⟩, ([] : List (Key × RowList)).length⟩ := by
      rw [List.nil_append, ← hlist]
      rfl
    dsimp only at he
    rw [collect_end hcursor hne (by omega), hstart] at he
    exact collect_reaches (List.forall_mem_nil _) hbehind (.inr hm) he

/-- Within reach, a sweep of every tracked entry leaves none whose rows are gone. -/
theorem WithinReach.collect {t : Tracked} (h : t.WithinReach alive) {e : Key × RowList}
    (he : e ∈ (t.collect alive t.entries.size).2.entries.entries) : gone alive e = false := by
  rw [← length_passed_add_ahead] at he
  rcases h with hgone | ⟨first, last, hpassed, hlast, hcount⟩
  · obtain ⟨kept, hentries, hcursor, hkept⟩ := t.collect_ahead alive
    have hnil : kept = [] := by
      refine List.eq_nil_iff_forall_not_mem.mpr fun a ha => ?_
      obtain ⟨halive, hahead⟩ := hkept a ha
      exact absurd (hgone a hahead) (by simp [halive])
    rw [hnil, List.append_nil] at hentries
    rw [collect_add] at he
    generalize (t.collect alive t.ahead.length).2 = u at hentries hcursor he
    have hahead : u.ahead = t.passed := by
      rw [ahead, if_neg (Nat.not_lt.mpr hcursor), hentries]
    have hpassed : u.passed = [] := if_neg (Nat.not_lt.mpr hcursor)
    obtain ⟨kept', hentries', _, hkept'⟩ := u.collect_ahead alive
    rw [hahead, hpassed, List.nil_append] at hentries'
    dsimp only at he
    rw [hentries'] at he
    exact (hkept' e he).1
  · refine collect_rest hpassed hlast ?_ he
    rw [hpassed, List.length_append]
    omega

/-- Twice as many checks are always enough. -/
theorem collect_twice {t : Tracked} {limit : Nat} (hlimit : 2 * t.entries.size ≤ limit)
    {e : Key × RowList} (he : e ∈ (t.collect alive limit).2.entries.entries) :
    gone alive e = false := by
  have hlen := t.length_passed_add_ahead
  have hle := List.countP_le_length (p := gone alive) (l := t.passed)
  have hsplit : limit = t.ahead.length + (limit - t.ahead.length) := by omega
  rw [hsplit] at he
  refine collect_rest (List.append_nil _).symm (List.forall_mem_nil _) ?_ he
  omega

/-- What stands before the cursor after a sweep of every tracked entry has been found alive. -/
theorem passed_collect {t : Tracked} {e : Key × RowList}
    (he : e ∈ (t.collect alive t.entries.size).2.passed) : gone alive e = false := by
  rw [← length_passed_add_ahead, collect_add] at he
  obtain ⟨kept, hentries, hcursor, -⟩ := t.collect_ahead alive
  generalize (t.collect alive t.ahead.length).2 = u at hentries hcursor he
  dsimp only at he
  by_cases hnone : t.passed = []
  · rw [hnone] at he
    change e ∈ u.passed at he
    rw [passed, if_neg (Nat.not_lt.mpr hcursor)] at he
    exact nomatch he
  · have hne : u.entries.entries ≠ [] := by
      rw [hentries]
      exact List.append_ne_nil_of_left_ne_nil hnone _
    have hlen : t.passed.length ≤ u.entries.entries.length := by
      rw [hentries, List.length_append]
      omega
    rw [collect_end hcursor hne (mt List.eq_nil_of_length_eq_zero hnone)] at he
    obtain ⟨kept', rest', hend, -, hkept'⟩ := collect_onward alive [] hlen
    change (Tracked.collect alive t.passed.length { u with cursor := 0 }).2 = _ at hend
    rw [hend, passed] at he
    split at he
    · dsimp only at he
      rw [List.nil_append, List.take_left] at he
      exact (hkept' e he).1
    · exact nomatch he

end Tracked

end QueryCache
