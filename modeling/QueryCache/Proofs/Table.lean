import Mathlib.Data.List.Basic
import Mathlib.Data.List.Induction
import Mathlib.Data.List.Perm.Basic
import QueryCache.Table

/-!
# Laws of tables

The keys of a table and the values under them determine its entries as long as no key
occurs twice, and no operation ever makes a key occur twice. A table built from pairs holds
each key at the place of its first pair with the value of its last one. Swapping an entry out is
told up to the order of the others.
-/

namespace QueryCache

namespace Table

variable {κ α : Type} [DecidableEq κ]

/-- A key that comes in a list is found there. -/
theorem find_isSome (k : κ) (l : List (κ × α)) :
    (find k l).isSome = true ↔ k ∈ l.map Prod.fst := by
  induction l with
  | nil => simp [find]
  | cons e rest ih =>
    obtain ⟨a, v⟩ := e
    by_cases h : a = k
    · simp [find, h]
    · have hk : ¬ k = a := fun hh => h hh.symm
      simp [find, h, hk, ih]

/-- A key has an entry exactly when it is one of the keys. -/
theorem contains_iff (t : Table κ α) (k : κ) : t.contains k = true ↔ k ∈ t.keys :=
  find_isSome k t.entries

/-- A key that is none of the keys finds nothing. -/
theorem get?_eq_none_iff (t : Table κ α) (k : κ) : t.get? k = none ↔ k ∉ t.keys := by
  rw [← contains_iff, contains, Bool.not_eq_true, Option.isSome_eq_false_iff,
    Option.isNone_iff_eq_none]

private theorem mem_of_find {l : List (κ × α)} {k : κ} {v : α} (h : find k l = some v) :
    (k, v) ∈ l := by
  induction l with
  | nil => simp [find] at h
  | cons e rest ih =>
    obtain ⟨a, w⟩ := e
    rw [find] at h
    split at h
    · next ha =>
      rw [ha, Option.some.inj h]
      exact List.mem_cons_self
    · exact List.mem_cons_of_mem _ (ih h)

/-- What is found under a key is one of the entries. -/
theorem mem_entries_of_get? {t : Table κ α} {k : κ} {v : α} (h : t.get? k = some v) :
    (k, v) ∈ t.entries := mem_of_find h

private theorem find_of_mem {l : List (κ × α)} (hn : (l.map Prod.fst).Nodup) {k : κ} {v : α}
    (h : (k, v) ∈ l) : find k l = some v := by
  induction l with
  | nil => simp at h
  | cons e rest ih =>
    obtain ⟨a, w⟩ := e
    obtain ⟨ha, hr⟩ := List.nodup_cons.mp hn
    rcases List.mem_cons.mp h with heq | hm
    · obtain ⟨rfl, rfl⟩ := Prod.mk.inj heq
      simp [find]
    · have hak : ¬ a = k := by
        intro heq
        exact ha (heq ▸ List.mem_map.mpr ⟨(k, v), hm, rfl⟩)
      rw [find, if_neg hak]
      exact ih hr hm

/-- Without a repeated key, every entry is found under its key. -/
theorem get?_of_mem_entries {t : Table κ α} (hn : t.keys.Nodup) {k : κ} {v : α}
    (h : (k, v) ∈ t.entries) : t.get? k = some v := find_of_mem hn h

private theorem mem_place {l : List (κ × α)} {k : κ} {v : α} {e : κ × α} (h : e ∈ place k v l) :
    e ∈ l ∨ e = (k, v) := by
  induction l with
  | nil => exact .inr (List.mem_singleton.mp h)
  | cons f rest ih =>
    rw [place] at h
    split at h
    · next hk =>
      rcases List.mem_cons.mp h with h | h
      · exact .inr (hk ▸ h)
      · exact .inl (List.mem_cons_of_mem _ h)
    · rcases List.mem_cons.mp h with h | h
      · exact .inl (h ▸ List.mem_cons_self)
      · exact (ih h).imp_left (List.mem_cons_of_mem _)

/-- Inserting makes no entry but its own. -/
theorem mem_entries_insert {t : Table κ α} {k : κ} {v : α} {e : κ × α}
    (h : e ∈ (t.insert k v).entries) : e ∈ t.entries ∨ e = (k, v) := mem_place h

/-! ### Keys -/

/-- Inserting a new key appends it, and an old one keeps its place. -/
theorem keys_insertNew (t : Table κ α) (k : κ) (v : α) :
    (t.insertNew k v).keys = if k ∈ t.keys then t.keys else t.keys ++ [k] := by
  unfold insertNew
  by_cases h : k ∈ t.keys
  · rw [if_pos ((contains_iff t k).mpr h), if_pos h]
  · rw [if_neg (fun hc => h ((contains_iff t k).mp hc)), if_neg h]
    simp [keys]

/-- Erasing a key leaves the others in their order. -/
theorem keys_erase (t : Table κ α) (k : κ) : (t.erase k).keys = t.keys.filter (· ≠ k) := by
  unfold keys erase
  rw [List.filter_map]
  rfl

/-- Changing a value leaves the keys alone. -/
theorem keys_modify (t : Table κ α) (k : κ) (f : α → α) : (t.modify k f).keys = t.keys := by
  unfold keys modify
  rw [List.map_map]
  refine List.map_congr_left fun e _ => ?_
  by_cases h : e.1 = k <;> simp [h]

omit [DecidableEq κ] in
private theorem nodup_append_new {l : List κ} {k : κ} (hn : l.Nodup) (hk : k ∉ l) :
    (l ++ [k]).Nodup := by
  rw [List.nodup_append]
  refine ⟨hn, by simp, ?_⟩
  intro a ha b hb hab
  rw [List.mem_singleton] at hb
  exact hk (hb ▸ hab ▸ ha)

/-- Inserting repeats no key. -/
theorem nodup_insert {t : Table κ α} (hn : t.keys.Nodup) (k : κ) (v : α) :
    (t.insert k v).keys.Nodup := by
  rw [keys_insert]
  split
  · exact hn
  · next h => exact nodup_append_new hn h

/-- Inserting only new keys repeats none. -/
theorem nodup_insertNew {t : Table κ α} (hn : t.keys.Nodup) (k : κ) (v : α) :
    (t.insertNew k v).keys.Nodup := by
  rw [keys_insertNew]
  split
  · exact hn
  · next h => exact nodup_append_new hn h

/-- Erasing repeats none. -/
theorem nodup_erase {t : Table κ α} (hn : t.keys.Nodup) (k : κ) : (t.erase k).keys.Nodup := by
  rw [keys_erase]
  exact hn.filter _

/-! ### Values -/

private theorem find_append_new {l : List (κ × α)} {k : κ} (h : find k l = none) (a : κ)
    (v : α) : find a (l ++ [(k, v)]) = if k = a then some v else find a l := by
  induction l with
  | nil => rfl
  | cons e rest ih =>
    obtain ⟨b, w⟩ := e
    rw [find] at h
    split at h
    · simp at h
    · next hb =>
      simp only [List.cons_append, find, ih h]
      by_cases hba : b = a
      · have hk : ¬ k = a := fun h => hb (hba.trans h.symm)
        simp [hba, hk]
      · simp [hba]

/-- A new key gets its value, an old one keeps what it has. -/
theorem get?_insertNew (t : Table κ α) (k a : κ) (v : α) :
    (t.insertNew k v).get? a =
      if k = a then some ((t.get? k).getD v) else t.get? a := by
  unfold insertNew
  cases hv : t.get? k with
  | some w =>
    have hc : t.contains k = true := by simp [contains, hv]
    rw [if_pos hc, Option.getD_some]
    split
    · next h => rw [← h, hv]
    · rfl
  | none =>
    have hc : ¬ t.contains k = true := by simp [contains, hv]
    rw [if_neg hc, Option.getD_none]
    exact find_append_new hv a v

private theorem find_modify (k a : κ) (f : α → α) (l : List (κ × α)) :
    find a (l.map fun e => if e.1 = k then (e.1, f e.2) else e) =
      if k = a then (find a l).map f else find a l := by
  induction l with
  | nil => simp [find]
  | cons e rest ih =>
    obtain ⟨b, w⟩ := e
    simp only [List.map_cons]
    by_cases hb : b = k
    · subst hb
      by_cases ha : b = a <;> simp [find, ha, ih]
    · by_cases ha : b = a
      · subst ha
        have hk : ¬ k = b := fun h => hb h.symm
        simp [find, hb, hk]
      · simp [find, hb, ha, ih]

/-- Changing a value changes it under its key only. -/
theorem get?_modify (t : Table κ α) (k a : κ) (f : α → α) :
    (t.modify k f).get? a = if k = a then (t.get? a).map f else t.get? a :=
  find_modify k a f t.entries

/-- Without a repeated key, the keys and the values under them make up the entries. -/
theorem entries_eq {t : Table κ α} (hn : t.keys.Nodup) :
    t.entries = t.keys.filterMap fun k => (t.get? k).map (k, ·) := by
  unfold keys
  rw [List.filterMap_map]
  symm
  have hall : ∀ e ∈ t.entries,
      ((fun k => (t.get? k).map (k, ·)) ∘ Prod.fst) e = (some ∘ id) e := by
    intro e he
    simp only [Function.comp_apply, id]
    rw [get?_of_mem_entries hn (k := e.1) (v := e.2) he]
    rfl
  rw [List.filterMap_congr hall, List.filterMap_eq_map, List.map_id]

/-- Without a repeated key, changing a value to itself changes nothing. -/
theorem modify_eq_self {t : Table κ α} (hn : t.keys.Nodup) {k : κ} {f : α → α}
    (hf : ∀ v, t.get? k = some v → f v = v) : t.modify k f = t := by
  have hv (a : κ) : (t.modify k f).get? a = t.get? a := by
    rw [get?_modify]
    split
    · next h =>
      subst h
      cases hg : t.get? k with
      | none => rfl
      | some v => rw [Option.map_some, hf v hg]
    · rfl
  have he : (t.modify k f).entries = t.entries := by
    have hm : (t.modify k f).keys.Nodup := by rwa [keys_modify]
    rw [entries_eq hm, entries_eq hn, keys_modify]
    simp only [hv]
  cases t
  exact congrArg Table.mk he

/-! ### Tables from pairs -/

/-- A further pair is inserted last. -/
theorem ofList_append (l : List (κ × α)) (k : κ) (v : α) :
    ofList (l ++ [(k, v)]) = (ofList l).insert k v := by
  simp [ofList, List.foldl_append]

/-- A further element counts only when it is new. -/
theorem eraseDups_concat (l : List κ) (k : κ) :
    (l ++ [k]).eraseDups = if k ∈ l then l.eraseDups else l.eraseDups ++ [k] := by
  rw [List.eraseDups_append]
  by_cases h : k ∈ l
  · simp [List.removeAll, h]
  · simp [List.removeAll, h, List.eraseDups_cons]

/-- The keys stand in the order of their first pairs. -/
theorem keys_ofList (l : List (κ × α)) : (ofList l).keys = (l.map Prod.fst).eraseDups := by
  induction l using List.reverseRecOn with
  | nil => rfl
  | append_singleton l e ih =>
    rw [ofList_append, keys_insert, ih, List.map_append, List.map_cons, List.map_nil,
      eraseDups_concat]
    simp only [List.mem_eraseDups]

/-- Every key has the value of its last pair. -/
theorem get?_ofList (l : List (κ × α)) (k : κ) : (ofList l).get? k = find k l.reverse := by
  induction l using List.reverseRecOn with
  | nil => rfl
  | append_singleton l e ih =>
    obtain ⟨a, v⟩ := e
    rw [ofList_append, get?_insert, ih, List.reverse_append, List.reverse_singleton,
      List.singleton_append, find]

/-- No element is left twice. -/
theorem nodup_eraseDups (l : List κ) : l.eraseDups.Nodup := by
  induction l using List.reverseRecOn with
  | nil => exact List.nodup_nil
  | append_singleton l k ih =>
    rw [eraseDups_concat]
    split
    · exact ih
    · next h => exact nodup_append_new ih (fun hm => h (List.mem_eraseDups.mp hm))

/-- No key of a table from pairs occurs twice. -/
theorem nodup_ofList (l : List (κ × α)) : (ofList l).keys.Nodup := by
  rw [keys_ofList]
  exact nodup_eraseDups _

private theorem place_of_notMem {l : List (κ × α)} {k : κ} (hk : k ∉ l.map Prod.fst) (v : α) :
    place k v l = l ++ [(k, v)] := by
  induction l with
  | nil => rfl
  | cons e rest ih =>
    have hne : e.1 ≠ k := fun h => hk (by simp [h])
    have hrest : k ∉ rest.map Prod.fst := fun h => hk (by simp [h])
    rw [place, if_neg hne, ih hrest, List.cons_append]

/-- Dropping a key that was not there before it was inserted leaves the table as it was. -/
theorem erase_insert {t : Table κ α} {k : κ} (hk : k ∉ t.keys) (v : α) :
    (t.insert k v).erase k = t := by
  have hothers : t.entries.filter (·.1 ≠ k) = t.entries := by
    rw [List.filter_eq_self]
    exact fun e he => decide_eq_true fun h => hk (h ▸ List.mem_map_of_mem he)
  rw [insert, place_of_notMem hk, erase]
  simp only [List.filter_append, hothers]
  simp

/-- Pairs without a repeated key are the entries of their table. -/
theorem ofList_of_nodup {l : List (κ × α)} (hn : (l.map Prod.fst).Nodup) : ofList l = ⟨l⟩ := by
  induction l using List.reverseRecOn with
  | nil => rfl
  | append_singleton l e ih =>
    rw [List.map_append, List.nodup_append] at hn
    have hk : e.1 ∉ l.map Prod.fst := fun h => hn.2.2 _ h _ (by simp) rfl
    rw [ofList_append, ih hn.1, insert, place_of_notMem hk]

/-- Inserting what a function makes of the values of a table, one after the other, applies the
function to every value. -/
theorem foldl_insert_eq_map {β : Type} {t : Table κ α} (hn : t.keys.Nodup) (f : α → β) :
    t.entries.foldl (fun u e => u.insert e.1 (f e.2)) empty = t.map f := by
  have hpairs : (t.entries.map fun e => (e.1, f e.2)).map Prod.fst = t.keys := by
    simp [keys, Function.comp_def]
  have hfold := ofList_of_nodup (l := t.entries.map fun e => (e.1, f e.2)) (hpairs ▸ hn)
  rwa [ofList, List.foldl_map] at hfold

/-- Under every key stands what the function makes of the value. -/
theorem get?_map {β : Type} (t : Table κ α) (f : α → β) (k : κ) :
    (t.map f).get? k = (t.get? k).map f := by
  unfold get? map
  generalize t.entries = l
  induction l with
  | nil => rfl
  | cons e rest ih =>
    obtain ⟨a, v⟩ := e
    by_cases ha : a = k <;> simp [find, ha, ih]

/-- A table from pairs holds each key once, at the place of its first pair and with the
value of its last one. -/
theorem entries_ofList (l : List (κ × α)) :
    (ofList l).entries =
      (l.map Prod.fst).eraseDups.filterMap fun k => (find k l.reverse).map (k, ·) := by
  rw [entries_eq (nodup_ofList l), keys_ofList]
  simp only [get?_ofList]

/-! ### Swapping out -/

/-- What follows a dropped entry when the last one takes its place. -/
def refill (rest : List (κ × α)) : List (κ × α) :=
  match rest.getLast? with
  | none => []
  | some last => last :: rest.dropLast

omit [DecidableEq κ] in
theorem refill_concat (rest : List (κ × α)) (last : κ × α) :
    refill (rest ++ [last]) = last :: rest := by
  rw [refill, List.getLast?_concat, List.dropLast_concat]

omit [DecidableEq κ] in
/-- No entry is lost. -/
theorem refill_perm (rest : List (κ × α)) : (refill rest).Perm rest := by
  induction rest using List.reverseRecOn with
  | nil => exact .nil
  | append_singleton rest last _ =>
    rw [refill_concat]
    exact (List.perm_append_singleton last rest).symm

omit [DecidableEq κ] in
/-- Swapping an entry out changes what follows it. -/
theorem swapEraseAt_append (front : List (κ × α)) (e : κ × α) (rest : List (κ × α)) :
    (⟨front ++ e :: rest⟩ : Table κ α).swapEraseAt front.length = ⟨front ++ refill rest⟩ := by
  unfold swapEraseAt
  induction rest using List.reverseRecOn with
  | nil =>
    rw [List.getLast?_concat]
    simp [size, refill]
  | append_singleton rest last _ =>
    have hlist : front ++ e :: (rest ++ [last]) = (front ++ e :: rest) ++ [last] := by simp
    have hlt : front.length + 1 < (⟨front ++ e :: (rest ++ [last])⟩ : Table κ α).size := by
      simp [size]
    rw [hlist] at hlt ⊢
    rw [List.getLast?_concat, List.dropLast_concat, refill_concat]
    dsimp only
    rw [if_pos hlt, List.set_append_right _ _ (Nat.le_refl _), Nat.sub_self, List.set_cons_zero]

omit [DecidableEq κ] in
/-- The entries around a position. -/
theorem entries_of_at? {t : Table κ α} {i : Nat} {e : κ × α} (h : t.at? i = some e) :
    ∃ front rest, t.entries = front ++ e :: rest ∧ front.length = i := by
  obtain ⟨hi, rfl⟩ := List.getElem?_eq_some_iff.mp h
  refine ⟨t.entries.take i, t.entries.drop (i + 1), ?_, List.length_take_of_le (Nat.le_of_lt hi)⟩
  rw [List.getElem_cons_drop, List.take_append_drop]

omit [DecidableEq κ] in
/-- An entry that is swapped out is missing from the others. -/
theorem swapEraseAt_perm {t : Table κ α} {i : Nat} {e : κ × α} (h : t.at? i = some e) :
    t.entries.Perm (e :: (t.swapEraseAt i).entries) := by
  obtain ⟨front, rest, hentries, rfl⟩ := entries_of_at? h
  obtain ⟨entries⟩ := t
  dsimp only at hentries
  subst hentries
  rw [swapEraseAt_append]
  exact List.perm_middle.trans (((refill_perm rest).symm.append_left front).cons e)

/-- A key without an entry cannot be swapped out. -/
theorem swapErase_of_notMem {t : Table κ α} {k : κ} (hk : k ∉ t.keys) : t.swapErase k = t := by
  have hsize : t.keys.idxOf k = t.size := by
    rw [List.idxOf_eq_length hk, keys, List.length_map, size]
  unfold swapErase swapEraseAt
  rw [hsize]
  cases t.entries.getLast? with
  | none => rfl
  | some last =>
    dsimp only
    rw [if_neg (by omega), if_neg (by omega)]

/-- A key with an entry is swapped out with it. -/
theorem swapErase_perm {t : Table κ α} {k : κ} (hk : k ∈ t.keys) :
    ∃ v, t.entries.Perm ((k, v) :: (t.swapErase k).entries) := by
  have hi : t.keys.idxOf k < t.keys.length := List.idxOf_lt_length_of_mem hk
  have hkey : (t.keys[t.keys.idxOf k]) = k := List.getElem_idxOf hi
  have hlt : t.keys.idxOf k < t.entries.length := by simpa [keys] using hi
  simp only [keys, List.getElem_map] at hkey
  have hat : t.at? (t.keys.idxOf k) = some (k, (t.entries[t.keys.idxOf k]).2) := by
    rw [at?, List.getElem?_eq_getElem hlt]
    exact congrArg some (Prod.ext hkey rfl)
  exact ⟨_, swapEraseAt_perm hat⟩

/-- Without a repeated key, the entries tell what is found, in whatever order. -/
theorem get?_eq_some_iff {t : Table κ α} (hn : t.keys.Nodup) {k : κ} {v : α} :
    t.get? k = some v ↔ (k, v) ∈ t.entries :=
  ⟨mem_entries_of_get?, get?_of_mem_entries hn⟩

/-- The keys of some of the entries are those under which they are found. -/
theorem mem_keys_filter {t : Table κ α} (hn : t.keys.Nodup) (p : κ × α → Bool) (k : κ) :
    k ∈ (t.entries.filter p).map Prod.fst ↔ ∃ v, t.get? k = some v ∧ p (k, v) = true := by
  constructor
  · intro hk
    obtain ⟨⟨_, v⟩, he, rfl⟩ := List.mem_map.mp hk
    obtain ⟨he, hp⟩ := List.mem_filter.mp he
    exact ⟨v, get?_of_mem_entries hn he, hp⟩
  · rintro ⟨v, hv, hp⟩
    exact List.mem_map_of_mem (f := Prod.fst) (List.mem_filter.mpr ⟨mem_entries_of_get? hv, hp⟩)

omit [DecidableEq κ] in
theorem nodup_keys_filter {t : Table κ α} (hn : t.keys.Nodup) (p : κ × α → Bool) :
    ((t.entries.filter p).map Prod.fst).Nodup :=
  hn.sublist (List.filter_sublist.map Prod.fst)

/-- A table that has the keys of some entries of one table and of some of another, and no key of
both, has as many entries as these are. -/
theorem size_eq_add {β γ : Type} {t : Table κ α} {u : Table κ β} {w : Table κ γ}
    (ht : t.keys.Nodup) (hu : u.keys.Nodup) (hw : w.keys.Nodup) {p : κ × β → Bool}
    {q : κ × γ → Bool}
    (hkeys : ∀ k, (t.get? k).isSome = true ↔
      (∃ v, u.get? k = some v ∧ p (k, v) = true) ∨ ∃ v, w.get? k = some v ∧ q (k, v) = true)
    (hapart : ∀ k v v', u.get? k = some v → p (k, v) = true → w.get? k = some v' →
      q (k, v') = false) : t.size = u.entries.countP p + w.entries.countP q := by
  have hnodup : ((u.entries.filter p).map Prod.fst ++ (w.entries.filter q).map Prod.fst).Nodup := by
    refine List.nodup_append.mpr ⟨nodup_keys_filter hu p, nodup_keys_filter hw q, ?_⟩
    rintro k hk _ hk' rfl
    obtain ⟨v, hv, hp⟩ := (mem_keys_filter hu p k).mp hk
    obtain ⟨v', hv', hq⟩ := (mem_keys_filter hw q k).mp hk'
    exact nomatch hq.symm.trans (hapart k v v' hv hp hv')
  have hperm := (List.perm_ext_iff_of_nodup ht hnodup).mpr fun k => by
    rw [List.mem_append, mem_keys_filter hu, mem_keys_filter hw, ← hkeys, ← contains_iff, contains]
  have hlength := hperm.length_eq
  rw [List.length_append, List.length_map, List.length_map, ← List.countP_eq_length_filter,
    ← List.countP_eq_length_filter, keys, List.length_map] at hlength
  exact hlength

/-- Without a repeated key, a table with some entries missing finds all but their keys. -/
theorem get?_of_perm {t u : Table κ α} (hn : t.keys.Nodup) {gone : List (κ × α)}
    (hp : t.entries.Perm (gone ++ u.entries)) (k : κ) :
    u.get? k = if k ∈ gone.map Prod.fst then none else t.get? k := by
  have hkeys : (gone.map Prod.fst ++ u.keys).Nodup := by
    have hmap := (hp.map Prod.fst).nodup_iff.mp hn
    rwa [List.map_append] at hmap
  obtain ⟨_, hu, hapart⟩ := List.nodup_append.mp hkeys
  split
  · next hk => exact (get?_eq_none_iff u k).mpr fun hku => hapart k hk k hku rfl
  · next hk =>
    refine Option.ext fun v => ?_
    rw [get?_eq_some_iff hu, get?_eq_some_iff hn, hp.mem_iff, List.mem_append]
    refine ⟨.inr, fun h => h.resolve_left fun hg => hk ?_⟩
    exact List.mem_map_of_mem (f := Prod.fst) hg

omit [DecidableEq κ] in
theorem nodup_of_perm {t u : Table κ α} (hn : t.keys.Nodup) {gone : List (κ × α)}
    (hp : t.entries.Perm (gone ++ u.entries)) : u.keys.Nodup := by
  have hmap := (hp.map Prod.fst).nodup_iff.mp hn
  rw [List.map_append] at hmap
  exact (List.nodup_append.mp hmap).2.1

/-- Swapping a key out repeats none. -/
theorem nodup_swapErase {t : Table κ α} (hn : t.keys.Nodup) (k : κ) :
    (t.swapErase k).keys.Nodup := by
  by_cases hk : k ∈ t.keys
  · obtain ⟨v, hp⟩ := swapErase_perm hk
    have hgone : t.entries.Perm ([(k, v)] ++ (t.swapErase k).entries) := hp
    exact nodup_of_perm hn hgone
  · rw [swapErase_of_notMem hk]
    exact hn

/-- What was swapped out is not found, and nothing else changes. -/
theorem get?_swapErase {t : Table κ α} (hn : t.keys.Nodup) (k a : κ) :
    (t.swapErase k).get? a = if k = a then none else t.get? a := by
  by_cases hk : k ∈ t.keys
  · obtain ⟨v, hp⟩ := swapErase_perm hk
    have hgone : t.entries.Perm ([(k, v)] ++ (t.swapErase k).entries) := hp
    rw [get?_of_perm hn hgone]
    simp [eq_comm]
  · rw [swapErase_of_notMem hk]
    split
    · next hka => exact hka ▸ (get?_eq_none_iff t k).mpr hk
    · rfl

end Table

end QueryCache
