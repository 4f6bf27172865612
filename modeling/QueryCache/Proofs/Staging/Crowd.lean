import Mathlib.Data.List.Induction
import Mathlib.Logic.Function.Basic
import QueryCache.Layer.Store
import QueryCache.Proofs.Staging.Deeds

/-!
# Several transactions over one store

Whole operations of any number of transactions, in any order, over one bare store. Misses
are remembered until the transaction ends and nobody is told when others fill the key
meanwhile, so the null of a late commit, or the removal of a late rollback, hits what was
published in between. The main result says that nothing else takes published rows away but
a staged clear or a staged write of the key.
-/

namespace QueryCache

namespace Pending

/-- What the steps of a commit leave under a key of the store. -/
private def Step.leave (k : Key) (found : Option Entry) : Step → Option Entry
  | .clear => none
  | .put a e => if a = k then some e else found
  | .putNull a => if a = k then some .null else found

private theorem runSteps_get? (c : Caller) (steps : List Step) (s : Store) (k : Key) :
    (runSteps Store.cache c steps s).state.entries.get? k =
      steps.foldl (Step.leave k) (s.entries.get? k) := by
  induction steps generalizing s with
  | nil => rfl
  | cons step rest ih =>
    cases step with
    | clear => exact ih _
    | put a e =>
      rw [List.foldl_cons, Step.leave, ← Table.get?_insert]
      exact ih _
    | putNull a =>
      rw [List.foldl_cons, Step.leave, ← Table.get?_insert]
      exact ih _

private theorem foldl_put (k : Key) (entries : List (Key × Entry))
    (hn : (entries.map Prod.fst).Nodup) (found : Option Entry) :
    (entries.map fun e => Step.put e.1 e.2).foldl (Step.leave k) found =
      (Table.find k entries).or found := by
  induction entries generalizing found with
  | nil => rfl
  | cons e rest ih =>
    obtain ⟨a, w⟩ := e
    obtain ⟨ha, hrest⟩ := List.nodup_cons.mp hn
    rw [List.map_cons, List.foldl_cons, ih hrest, Table.find, Step.leave]
    by_cases h : a = k
    · subst h
      have hnone : Table.find a rest = none :=
        (Table.get?_eq_none_iff ⟨rest⟩ a).mpr ha
      rw [if_pos rfl, if_pos rfl, hnone, Option.none_or, Option.some_or]
    · rw [if_neg h, if_neg h]

private theorem foldl_putNull (k : Key) (keys : List Key) (found : Option Entry) :
    (keys.map Step.putNull).foldl (Step.leave k) found =
      if k ∈ keys then some .null else found := by
  induction keys generalizing found with
  | nil => rfl
  | cons a rest ih =>
    rw [List.map_cons, List.foldl_cons, ih, Step.leave]
    by_cases h : k ∈ rest
    · rw [if_pos h, if_pos (List.mem_cons_of_mem a h)]
    · by_cases ha : a = k
      · rw [if_neg h, if_pos ha, if_pos (by rw [ha]; exact List.mem_cons_self)]
      · have hk : k ∉ a :: rest := by
          rw [List.mem_cons, not_or]
          exact ⟨fun h => ha h.symm, h⟩
        rw [if_neg h, if_neg ha, if_neg hk]

/-- A commit leaves its own write under a key, else a null where it missed the key, else what
a staged clear has spared. -/
theorem commit_get? (c : Caller) (s : Over Pending Store) (hn : s.own.writes.keys.Nodup)
    (k : Key) :
    (commit Store.cache c s).state.inner.entries.get? k =
      (s.own.writes.get? k).or
        (if k ∈ s.own.misses.keys then some .null
        else if s.own.clearFirst then none else s.inner.entries.get? k) := by
  have hu : k ∈ s.own.unwritten ↔ k ∈ s.own.misses.keys ∧ s.own.writes.get? k = none := by
    rw [unwritten, List.mem_filter, Bool.not_eq_true', Table.contains, Option.isSome_eq_false_iff,
      Option.isNone_iff_eq_none]
  have hc : ((if s.own.clearFirst then [.clear] else []).foldl (Step.leave k)
      (s.inner.entries.get? k)) =
        if s.own.clearFirst then none else s.inner.entries.get? k := by
    cases s.own.clearFirst <;> rfl
  have h := runSteps_get? c s.own.steps s.inner k
  rw [steps, List.foldl_append, List.foldl_append, hc, foldl_put k _ hn, foldl_putNull] at h
  refine h.trans ?_
  change (if k ∈ s.own.unwritten then some Entry.null else (s.own.writes.get? k).or _) = _
  cases hw : s.own.writes.get? k with
  | some e => rw [if_neg (by rw [hu, hw]; simp), Option.some_or, Option.some_or]
  | none =>
    rw [Option.none_or, Option.none_or]
    simp only [hu, hw, and_true]

/-- A rollback removes the keys that were missed and leaves the others. -/
theorem rollback_get? (c : Caller) (s : Over Pending Store) (k : Key) :
    (rollback Store.cache c s).state.inner.entries.get? k =
      if k ∈ s.own.misses.keys then none else s.inner.entries.get? k := by
  have h (keys : List Key) (c : Caller) (st : Store) :
      (removeAll Store.cache c keys st).state.entries.get? k =
        if k ∈ keys then none else st.entries.get? k := by
    induction keys generalizing st with
    | nil => rfl
    | cons a rest ih =>
      refine (ih { st with entries := st.entries.erase a }).trans ?_
      rw [Table.get?_erase]
      by_cases hr : k ∈ rest
      · rw [if_pos hr, if_pos (List.mem_cons_of_mem a hr)]
      · by_cases ha : a = k
        · rw [if_neg hr, if_pos ha, if_pos (by rw [ha]; exact List.mem_cons_self)]
        · have hk : k ∉ a :: rest := by
            rw [List.mem_cons, not_or]
            exact ⟨fun h => ha h.symm, hr⟩
          rw [if_neg hr, if_neg ha, if_neg hk]
  exact h _ _ _

/-- The whole operations of a transaction on one shared cache. -/
inductive Op where
  | get (key : Key)
  | put (key : Key) (entry : Entry)
  | clear
  | commit
  | rollback

/-- Whether an operation ends the transaction. -/
def Op.ends : Op → Bool
  | .commit | .rollback => true
  | _ => false

/-- Carry out an operation over a store, which never keeps a lookup waiting. -/
def Op.run (op : Op) (c : Caller) (s : Over Pending Store) : Over Pending Store :=
  match op with
  | .get k => (Pending.get Store.cache c k s).state
  | .put k e => ((cache Store.cache).put c k e s).state
  | .clear => ((cache Store.cache).clear c s).state
  | .commit => (Pending.commit Store.cache c s).state
  | .rollback => (Pending.rollback Store.cache c s).state

/-- A lookup learns what the store has. -/
theorem Op.run_get (k : Key) (c : Caller) (s : Over Pending Store) :
    (Op.get k).run c s = ⟨s.own.learn k (.ok (s.inner.entries.get? k)), s.inner⟩ := rfl

/-- An operation leaves no staged write with a twin. -/
theorem Op.nodup_run (op : Op) (c : Caller) (s : Over Pending Store)
    (h : s.own.writes.keys.Nodup) : (op.run c s).own.writes.keys.Nodup := by
  cases op with
  | get k =>
    rw [Op.run_get, (learn_kept _ _ _).1]
    exact h
  | put k e => exact Table.nodup_insert h k e
  | clear => exact List.nodup_nil
  | commit => exact List.nodup_nil
  | rollback => exact List.nodup_nil

/-- What an operation leaves under a key of the store: the same, unless it replaces the key
or ends a transaction that missed it. -/
theorem Op.run_get? (op : Op) (c : Caller) (s : Over Pending Store)
    (hn : s.own.writes.keys.Nodup) (k : Key) :
    (op.run c s).inner.entries.get? k = s.inner.entries.get? k ∨
      (op = .commit ∧ (s.own.clearFirst = true ∨ k ∈ s.own.writes.keys)) ∨
      (op.ends = true ∧ k ∈ s.own.misses.keys) := by
  cases op with
  | get a => exact .inl rfl
  | put a e => exact .inl rfl
  | clear => exact .inl rfl
  | commit =>
    by_cases hm : k ∈ s.own.misses.keys
    · exact .inr (.inr ⟨rfl, hm⟩)
    by_cases hw : s.own.clearFirst = true ∨ k ∈ s.own.writes.keys
    · exact .inr (.inl ⟨rfl, hw⟩)
    · rw [not_or] at hw
      have hnone := (Table.get?_eq_none_iff s.own.writes k).mpr hw.2
      refine .inl ((commit_get? c s hn k).trans ?_)
      rw [hnone, Option.none_or, if_neg hm, if_neg hw.1]
  | rollback =>
    by_cases hm : k ∈ s.own.misses.keys
    · exact .inr (.inr ⟨rfl, hm⟩)
    · exact .inl ((rollback_get? c s k).trans (if_neg hm))

/-- A key that an operation leaves among the misses was there before, or has just been
looked up in vain. -/
theorem Op.mem_misses_run (op : Op) (c : Caller) (s : Over Pending Store) {k : Key}
    (h : k ∈ (op.run c s).own.misses.keys) :
    (op.ends = false ∧ k ∈ s.own.misses.keys) ∨
      (op = .get k ∧ (s.inner.entries.get? k).all (·.isNull)) := by
  cases op with
  | get a =>
    rw [Op.run_get, learn] at h
    split at h
    · next hnull =>
      rw [noteMiss, Table.keys_insertNew] at h
      by_cases hm : k ∈ s.own.misses.keys
      · exact .inl ⟨rfl, hm⟩
      · have ha : k = a := by
          split at h
          · exact absurd h hm
          · exact List.mem_singleton.mp ((List.mem_append.mp h).resolve_left hm)
        subst ha
        exact .inr ⟨rfl, hnull⟩
    · exact .inl ⟨rfl, h⟩
  | put a e => exact .inl ⟨rfl, h⟩
  | clear => exact .inl ⟨rfl, h⟩
  | commit => exact absurd h List.not_mem_nil
  | rollback => exact absurd h List.not_mem_nil

end Pending

/-- Transactions over one store, each with its staged work. -/
structure Crowd (β : Type) where
  pending : β → Pending := fun _ => {}
  store : Store

namespace Crowd

variable {β : Type} [DecidableEq β]

/-- One operation of one transaction. -/
structure Turn (β : Type) where
  who : β
  caller : Caller
  op : Pending.Op

/-- What the store has under a key. -/
def shows (s : Crowd β) (k : Key) : Option Entry := s.store.entries.get? k

/-- Let a transaction have its turn. -/
def turn (s : Crowd β) (t : Turn β) : Crowd β :=
  let r := t.op.run t.caller ⟨s.pending t.who, s.store⟩
  ⟨Function.update s.pending t.who r.own, r.inner⟩

/-- Let transactions have their turns, in order. -/
def run (s : Crowd β) (turns : List (Turn β)) : Crowd β := turns.foldl turn s

/-- A commit replaces what the store has under a key: it clears the store or has a write of
its own to the key. -/
def Replaces (s : Crowd β) (t : Turn β) (k : Key) : Prop :=
  t.op = .commit ∧
    ((s.pending t.who).clearFirst = true ∨ k ∈ (s.pending t.who).writes.keys)

/-- After turns that begin without staged work, a transaction is still open in which a key
was looked up in vain. -/
def MissedIn (store : Store) (turns : List (Turn β)) (who : β) (k : Key) : Prop :=
  ∃ p c q, turns = p ++ ⟨who, c, .get k⟩ :: q ∧
    ((run { store } p).shows k).all (·.isNull) ∧ ∀ t ∈ q, t.who = who → t.op.ends = false

/-! ### One turn -/

/-- No staged write has a twin. -/
def Tidy (s : Crowd β) : Prop := ∀ b, (s.pending b).writes.keys.Nodup

theorem pending_turn_self (s : Crowd β) (t : Turn β) :
    (s.turn t).pending t.who = (t.op.run t.caller ⟨s.pending t.who, s.store⟩).own :=
  Function.update_self _ _ _

theorem pending_turn_of_ne (s : Crowd β) (t : Turn β) {b : β} (h : b ≠ t.who) :
    (s.turn t).pending b = s.pending b :=
  Function.update_of_ne h _ _

omit [DecidableEq β] in
theorem tidy_start (store : Store) : ({ store } : Crowd β).Tidy := fun _ => List.nodup_nil

theorem Tidy.turn {s : Crowd β} (h : s.Tidy) (t : Turn β) : (s.turn t).Tidy := by
  intro b
  by_cases hb : b = t.who
  · subst hb
    rw [pending_turn_self]
    exact t.op.nodup_run t.caller _ (h _)
  · rw [pending_turn_of_ne s t hb]
    exact h b

/-- A turn leaves a key of the store alone, replaces it, or ends a transaction that missed
it. -/
theorem Tidy.shows_turn {s : Crowd β} (h : s.Tidy) (t : Turn β) (k : Key) :
    (s.turn t).shows k = s.shows k ∨ s.Replaces t k ∨
      (t.op.ends = true ∧ k ∈ (s.pending t.who).misses.keys) :=
  t.op.run_get? t.caller ⟨s.pending t.who, s.store⟩ (h _) k

/-- A miss that is remembered after a turn was remembered before, by a transaction that has
not ended, or is that of the turn. -/
theorem mem_misses_turn (s : Crowd β) (t : Turn β) {b : β} {k : Key}
    (h : k ∈ ((s.turn t).pending b).misses.keys) :
    (k ∈ (s.pending b).misses.keys ∧ (t.who = b → t.op.ends = false)) ∨
      (t.who = b ∧ t.op = .get k ∧ (s.shows k).all (·.isNull)) := by
  by_cases hb : b = t.who
  · subst hb
    rw [pending_turn_self] at h
    obtain ⟨he, hm⟩ | ⟨hop, hnull⟩ := t.op.mem_misses_run t.caller _ h
    · exact .inl ⟨hm, fun _ => he⟩
    · exact .inr ⟨rfl, hop, hnull⟩
  · rw [pending_turn_of_ne s t hb] at h
    exact .inl ⟨h, fun ht => absurd ht.symm hb⟩

/-! ### Runs -/

theorem run_append (s : Crowd β) (p q : List (Turn β)) : s.run (p ++ q) = (s.run p).run q :=
  List.foldl_append

theorem Tidy.run {s : Crowd β} (h : s.Tidy) (turns : List (Turn β)) : (s.run turns).Tidy := by
  induction turns generalizing s with
  | nil => exact h
  | cons t rest ih => exact ih (h.turn t)

/-- Every remembered miss is that of a lookup in a transaction that is still open. -/
theorem missedIn_of_mem {store : Store} {turns : List (Turn β)} {b : β} {k : Key}
    (h : k ∈ ((run { store } turns).pending b).misses.keys) : MissedIn store turns b k := by
  induction turns using List.reverseRecOn with
  | nil => exact absurd h List.not_mem_nil
  | append_singleton turns t ih =>
    rw [run_append] at h
    obtain ⟨hm, he⟩ | ⟨hb, hop, hnull⟩ := mem_misses_turn (run { store } turns) t h
    · obtain ⟨p, c, q, rfl, hnull, hq⟩ := ih hm
      refine ⟨p, c, q ++ [t], by simp, hnull, ?_⟩
      intro u hu
      rcases List.mem_append.mp hu with hu | hu
      · exact hq u hu
      · rw [List.mem_singleton.mp hu]
        exact he
    · obtain ⟨who, c, op⟩ := t
      cases hb
      cases hop
      exact ⟨turns, c, [], rfl, hnull, fun _ hu => absurd hu List.not_mem_nil⟩

/-- As long as the store has kept the rows under a key, no miss of the key is new. -/
private theorem rows_stay {s : Crowd β} (hs : s.Tidy) {k : Key} {r : RowList}
    (hr : s.shows k = some (.rows r)) (turns : List (Turn β)) :
    ((s.run turns).shows k = some (.rows r) ∧
      ∀ b, k ∈ ((s.run turns).pending b).misses.keys →
        k ∈ (s.pending b).misses.keys ∧ ∀ t ∈ turns, t.who = b → t.op.ends = false) ∨
    ∃ p t q, turns = p ++ t :: q ∧ ((s.run p).Replaces t k ∨
      (t.op.ends = true ∧ k ∈ (s.pending t.who).misses.keys ∧
        ∀ u ∈ p, u.who = t.who → u.op.ends = false)) := by
  induction turns using List.reverseRecOn with
  | nil => exact .inl ⟨hr, fun b hb => ⟨hb, fun _ hu => absurd hu List.not_mem_nil⟩⟩
  | append_singleton turns t ih =>
    rcases ih with ⟨hkept, hold⟩ | ⟨p, u, q, rfl, h⟩
    · have htidy := hs.run turns
      rw [run_append]
      obtain hsame | hrep | ⟨hends, hm⟩ := htidy.shows_turn t k
      · refine .inl ⟨hsame.trans hkept, fun b hb => ?_⟩
        obtain ⟨hm, he⟩ | ⟨_, _, hnull⟩ := mem_misses_turn (s.run turns) t hb
        · obtain ⟨hfirst, hopen⟩ := hold b hm
          refine ⟨hfirst, fun u hu => ?_⟩
          rcases List.mem_append.mp hu with hu | hu
          · exact hopen u hu
          · rw [List.mem_singleton.mp hu]
            exact he
        · rw [hkept] at hnull
          exact absurd hnull Bool.false_ne_true
      · exact .inr ⟨turns, t, [], rfl, .inl hrep⟩
      · obtain ⟨hfirst, hopen⟩ := hold t.who hm
        exact .inr ⟨turns, t, [], rfl, .inr ⟨hends, hfirst, hopen⟩⟩
    · exact .inr ⟨p, u, q ++ [t], by simp, h⟩

/-- Rows that a commit published stay in the store until a commit clears the store or has a
write of its own to the key, or until a transaction ends that was open when they were
published and had looked the key up in vain. -/
theorem published_rows_stay (store : Store) (before after : List (Turn β)) (a : β) (c : Caller)
    {k : Key} {r : RowList}
    (h : ((run { store } before).pending a).writes.get? k = some (.rows r)) :
    (run { store } (before ++ [⟨a, c, .commit⟩])).shows k = some (.rows r) ∧
    ((run { store } (before ++ [⟨a, c, .commit⟩] ++ after)).shows k = some (.rows r) ∨
      ∃ p t q, after = p ++ t :: q ∧
        ((run { store } (before ++ [⟨a, c, .commit⟩] ++ p)).Replaces t k ∨
          (t.op.ends = true ∧ MissedIn store (before ++ [⟨a, c, .commit⟩]) t.who k ∧
            ∀ u ∈ p, u.who = t.who → u.op.ends = false))) := by
  have htidy : (run { store } before).Tidy :=
    (tidy_start store).run before
  have hshown : (run { store } (before ++ [⟨a, c, .commit⟩])).shows k = some (.rows r) := by
    rw [run_append]
    refine (Pending.commit_get? c _ (htidy a) k).trans ?_
    rw [h, Option.some_or]
  have hpublished : (run { store } (before ++ [⟨a, c, .commit⟩])).Tidy :=
    (tidy_start store).run _
  refine ⟨hshown, ?_⟩
  obtain ⟨hkept, _⟩ | ⟨p, t, q, rfl, hrep | ⟨hends, hm, hopen⟩⟩ :=
    rows_stay hpublished hshown after
  · exact .inl (by rw [run_append]; exact hkept)
  · exact .inr ⟨p, t, q, rfl, .inl (by rw [run_append]; exact hrep)⟩
  · exact .inr ⟨p, t, q, rfl, .inr ⟨hends, missedIn_of_mem hm, hopen⟩⟩

/-- One transaction misses a key, another one writes rows to it, and a third one ends after
the rows were published: they stay at least until the first one ends. -/
theorem published_rows_stay_three :
    let store : Store := { name := "users" }
    let rows : RowList := ⟨0, [Table.ofList [("n", .int 1)]]⟩
    let before : List (Turn (Fin 3)) :=
      [⟨0, {}, .get {}⟩, ⟨1, {}, .put {} (.rows rows)⟩]
    let after : List (Turn (Fin 3)) := [⟨2, {}, .get {}⟩, ⟨2, {}, .commit⟩, ⟨0, {}, .rollback⟩]
    ((run { store } before).pending 1).writes.get? {} = some (.rows rows) ∧
      ((run { store } (before ++ [⟨1, {}, .commit⟩] ++ after)).shows {} = some (.rows rows) ∨
        ∃ p t q, after = p ++ t :: q ∧
          ((run { store } (before ++ [⟨1, {}, .commit⟩] ++ p)).Replaces t {} ∨
            (t.op.ends = true ∧ MissedIn store (before ++ [⟨1, {}, .commit⟩]) t.who {} ∧
              ∀ u ∈ p, u.who = t.who → u.op.ends = false))) := by
  intro store rows before after
  have h : ((run { store } before).pending 1).writes.get? {} = some (.rows rows) := rfl
  exact ⟨h, (published_rows_stay store before after 1 {} h).2⟩

/-- A transaction misses a key, another one publishes rows under it, and the first one ends
without having staged anything: its commit replaces the rows by a null, its rollback removes
them. -/
theorem published_rows_lost :
    let store : Store := { name := "users" }
    let key := Key.ofComponents [.int 1]
    let rows : RowList := ⟨0, [Table.ofList [("n", .int 1)]]⟩
    let late (op : Pending.Op) : Turn Bool := ⟨true, {}, op⟩
    let before : List (Turn Bool) := [late (.get key), ⟨false, {}, .put key (.rows rows)⟩]
    let published := run { store } (before ++ [⟨false, {}, .commit⟩])
    ((run { store } before).pending false).writes.get? key = some (.rows rows) ∧
      published.shows key = some (.rows rows) ∧
      ¬ published.Replaces (late .commit) key ∧
      (published.turn (late .commit)).shows key = some .null ∧
      (published.turn (late .rollback)).shows key = none := by
  intro store key rows late before published
  refine ⟨rfl, rfl, ?_, rfl, rfl⟩
  rintro ⟨_, hclear | hwrite⟩
  · exact Bool.false_ne_true hclear
  · exact absurd hwrite List.not_mem_nil

end Crowd

end QueryCache
