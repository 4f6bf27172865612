import QueryCache.Proofs.Stack.Room

/-!
# The line of written keys

A layer that evicts in the order of the writes queues every key that is written, so the keys stand
in one line, and its queue is the end of it. The write of a key gives up the one that is as many
places in front of it as the queue is long. Removals leave the line as it is: a key that was removed
and written again may be given up in its older place. A key that comes upon itself is spared.

So the line alone decides which keys are found (`found_iff_stays`), and lookups decide nothing.
-/

namespace QueryCache

namespace Fifo

/-- The keys written since the cache was cleared last, oldest first. -/
def lineup (calls : List Demand) : List Key :=
  calls.foldl
    (fun keys d =>
      match d with
      | .put k _ => keys ++ [k]
      | .clear => []
      | .get _ | .remove _ | .size => keys)
    []

/-- An entry was the last one to be written under a key, nothing was cleared since and the key was
not removed, and no write since has given the key up: none had it `size` places in front of its own
key, which was another one. -/
def Stays (size : Nat) (calls : List Demand) (k : Key) (e : Entry) : Prop :=
  ∃ before after, calls = before ++ .put k e :: after ∧ (∀ d ∈ after, d.renews k = false) ∧
    ∀ j a, (lineup before).length < j → size ≤ j → (lineup calls)[j]? = some a →
      (lineup calls)[j - size]? = some k → a = k

/-- The key whose turn it is when another one comes to stand at the end of the line. -/
def due (size : Nat) (keys : List Key) (k : Key) : Option Key :=
  if size ≤ keys.length then (keys ++ [k])[keys.length - size]? else none

/-! ### The line -/

theorem lineup_put (calls : List Demand) (k : Key) (e : Entry) :
    lineup (calls ++ [.put k e]) = lineup calls ++ [k] := by
  simp [lineup, List.foldl_append]

theorem lineup_clear (calls : List Demand) : lineup (calls ++ [.clear]) = [] := by
  simp [lineup, List.foldl_append]

/-- Calls that do not clear the cache leave the line, and may make it longer. -/
theorem lineup_append_prefix (calls after : List Demand) (h : .clear ∉ after) :
    lineup calls <+: lineup (calls ++ after) := by
  induction after using List.reverseRecOn with
  | nil => simp
  | append_singleton after d ih =>
    have hprefix := ih fun hm => h (List.mem_append_left _ hm)
    rw [← List.append_assoc]
    cases d with
    | put k e =>
      rw [lineup_put]
      exact hprefix.trans (List.prefix_append _ _)
    | clear => exact absurd (List.mem_append_right after List.mem_cons_self) h
    | get k | remove k | size => simpa [lineup, List.foldl_append] using hprefix

/-- The key of a write has its place in the line as long as nothing is cleared. -/
theorem length_lineup_lt {calls before after : List Demand} {k : Key} {e : Entry}
    (hcalls : calls = before ++ .put k e :: after) (h : .clear ∉ after) :
    (lineup before).length < (lineup calls).length := by
  have hprefix := lineup_append_prefix (before ++ [.put k e]) after h
  rw [List.append_assoc, List.singleton_append, ← hcalls, lineup_put] at hprefix
  have hle := hprefix.length_le
  rw [List.length_append, List.length_singleton] at hle
  omega

/-! ### How long an entry stays -/

/-- The last write of a key stays. -/
theorem stays_put_self (size : Nat) (calls : List Demand) (k : Key) (e : Entry) :
    Stays size (calls ++ [.put k e]) k e := by
  refine ⟨calls, [], rfl, nofun, fun j a hj _ ha _ => ?_⟩
  rw [lineup_put, List.getElem?_eq_none] at ha
  · exact nomatch ha
  · rw [List.length_append, List.length_singleton]
    omega

/-- A further call is the last write of the key, or it comes after that. -/
theorem stays_concat {size : Nat} {calls : List Demand} {d : Demand} {k : Key} {e : Entry} :
    Stays size (calls ++ [d]) k e ↔ d = .put k e ∨ (d.renews k = false ∧
      ∃ before after, calls = before ++ .put k e :: after ∧ (∀ d ∈ after, d.renews k = false) ∧
        ∀ j a, (lineup before).length < j → size ≤ j → (lineup (calls ++ [d]))[j]? = some a →
          (lineup (calls ++ [d]))[j - size]? = some k → a = k) := by
  constructor
  · rintro ⟨before, after, hcalls, hafter, hline⟩
    rcases List.eq_nil_or_concat after with rfl | ⟨after, d', rfl⟩
    · exact .inl (List.append_inj_right' hcalls rfl |> List.singleton_inj.mp)
    · rw [List.concat_eq_append, ← List.cons_append, ← List.append_assoc] at hcalls
      obtain ⟨hcalls, hd⟩ := List.append_inj' hcalls rfl
      rw [List.singleton_inj.mp hd]
      refine .inr ⟨hafter d' (by simp), before, after, hcalls, fun a ha => hafter a (by simp [ha]),
        ?_⟩
      rwa [← List.singleton_inj.mp hd]
  · rintro (rfl | ⟨hd, before, after, hcalls, hafter, hline⟩)
    · exact stays_put_self size calls k e
    · refine ⟨before, after ++ [d], ?_, fun a ha => ?_, hline⟩
      · rw [hcalls, List.append_assoc, List.cons_append]
      · rcases List.mem_append.mp ha with ha | ha
        · exact hafter a ha
        · rwa [List.mem_singleton.mp ha]

/-- A call that neither writes nor clears leaves the line, and drops nothing but what it removes. -/
theorem stays_append {size : Nat} {calls : List Demand} {d : Demand} {k : Key} {e : Entry}
    (hput : ∀ a x, d ≠ .put a x) (hline : lineup (calls ++ [d]) = lineup calls) :
    Stays size (calls ++ [d]) k e ↔ d.renews k = false ∧ Stays size calls k e := by
  rw [stays_concat, hline]
  exact ⟨fun h => h.resolve_left (hput k e), .inr⟩

/-- The write of another key may give the key up. -/
theorem stays_put_other {size : Nat} {calls : List Demand} {j k : Key} {x e : Entry} (hjk : j ≠ k) :
    Stays size (calls ++ [.put j x]) k e ↔
      Stays size calls k e ∧ due size (lineup calls) j ≠ some k := by
  have hrenews : (Demand.put j x).renews k = false := decide_eq_false hjk
  have hlast : (lineup calls ++ [j])[(lineup calls).length]? = some j := List.getElem?_concat_length
  have hfront {i : Nat} (hi : i < (lineup calls).length) :
      (lineup calls ++ [j])[i]? = (lineup calls)[i]? := List.getElem?_append_left hi
  rw [stays_concat, lineup_put]
  constructor
  · rintro (hput | ⟨-, before, after, hcalls, hafter, hline⟩)
    · cases hput
      exact absurd rfl hjk
    refine ⟨⟨before, after, hcalls, hafter, fun i a hi hsize ha hk => ?_⟩, fun hdue => ?_⟩
    · have hlt : i < (lineup calls).length := (List.getElem?_eq_some_iff.mp ha).1
      exact hline i a hi hsize ((hfront hlt).trans ha) ((hfront (by omega)).trans hk)
    · unfold due at hdue
      split at hdue
      · next hsize =>
        have hlt := length_lineup_lt hcalls fun hm => nomatch hafter _ hm
        exact hjk (hline _ j hlt hsize hlast hdue)
      · exact nomatch hdue
  · rintro ⟨⟨before, after, hcalls, hafter, hline⟩, hdue⟩
    refine .inr ⟨hrenews, before, after, hcalls, hafter, fun i a hi hsize ha hk => ?_⟩
    rcases Nat.lt_or_ge i (lineup calls).length with hlt | hge
    · rw [hfront hlt] at ha
      rw [hfront (by omega)] at hk
      exact hline i a hi hsize ha hk
    · have hlen : i < (lineup calls ++ [j]).length := (List.getElem?_eq_some_iff.mp ha).1
      rw [List.length_append, List.length_singleton] at hlen
      obtain rfl : i = (lineup calls).length := by omega
      exact absurd (by rw [due, if_pos hsize, hk]) hdue

/-- Of the written key itself, the entry that was written stays. -/
theorem stays_put_same {size : Nat} {calls : List Demand} {k : Key} {x e : Entry} :
    Stays size (calls ++ [.put k x]) k e ↔ x = e := by
  constructor
  · intro h
    rcases stays_concat.mp h with hput | ⟨hrenews, -⟩
    · exact (Demand.put.inj hput).2
    · exact absurd rfl (of_decide_eq_false hrenews)
  · rintro rfl
    exact stays_put_self size calls k x

/-! ### The queue and the store -/

/-- The queue is the end of the line, and the store has the entries that stay. -/
structure Follows (n : Nat) (calls : List Demand) (s : Over Fifo Store) : Prop where
  size : s.own.size = n
  queue : s.own.queue = (lineup calls).drop ((lineup calls).length - n)
  found : ∀ k e, s.inner.stored k = some e ↔ Stays n calls k e

/-- If the queue is the end of a line, the key that leaves it is the one whose turn it is. -/
theorem enqueue_drop {f : Fifo} {keys : List Key}
    (hqueue : f.queue = keys.drop (keys.length - f.size)) (k : Key) :
    f.enqueue k = (due f.size keys k,
      { f with queue := (keys ++ [k]).drop ((keys ++ [k]).length - f.size) }) := by
  have hline : f.queue ++ [k] = (keys ++ [k]).drop (keys.length - f.size) := by
    rw [hqueue, List.drop_append_of_le_length (Nat.sub_le _ _)]
  have hlength : (keys ++ [k]).length = keys.length + 1 := by simp
  unfold enqueue due
  dsimp only
  rw [hline, List.length_drop, hlength]
  by_cases hfull : f.size ≤ keys.length
  · have hnext : keys.length + 1 - f.size = keys.length - f.size + 1 := by omega
    rw [if_neg (by omega), if_pos hfull, List.head?_drop, List.tail_drop, hnext]
  · have hall : keys.length + 1 - f.size = keys.length - f.size := by omega
    rw [if_pos (by omega), if_neg hfull, hall]

namespace Follows

variable {n : Nat} {calls : List Demand} {s : Over Fifo Store} (h : Follows n calls s)

include h

theorem put (c : Caller) (k : Key) (e : Entry) :
    (Fifo.put Store.cache c k e s).value = .ok () ∧
      Follows n (calls ++ [.put k e]) (Fifo.put Store.cache c k e s).state := by
  obtain ⟨rfl, hqueue, hfound⟩ := h
  have henqueue := enqueue_drop hqueue k
  have hown : (s.own.enqueue k).2.queue =
      (lineup (calls ++ [.put k e])).drop ((lineup (calls ++ [.put k e])).length - s.own.size) := by
    rw [henqueue, lineup_put]
  have hsize : (s.own.enqueue k).2.size = s.own.size := by rw [henqueue]
  have hdue : (s.own.enqueue k).1 = due s.own.size (lineup calls) k := by rw [henqueue]
  have hinsert (a : Key) := Table.get?_insert s.inner.entries k a e
  rw [Fifo.put_eq_makeRoom, makeRoom_store]
  cases hgone : givenUp enqueue s.own k with
  | none =>
    refine ⟨rfl, hsize, hown, fun a x => ?_⟩
    refine (Eq.congr_left (hinsert a)).trans ?_
    by_cases hka : k = a
    · rw [if_pos hka, Option.some_inj, ← hka, stays_put_same]
    · rw [if_neg hka, stays_put_other hka, ← hdue]
      refine (hfound a x).trans (iff_self_and.mpr fun _ hout => ?_)
      exact hka (eq_of_givenUp_eq_none hgone hout).symm
  | some out =>
    obtain ⟨hout, hne⟩ := givenUp_eq_some.mp hgone
    refine ⟨rfl, hsize, hown, fun a x => ?_⟩
    have herase := Table.get?_erase (s.inner.entries.insert k e) out a
    rw [hinsert] at herase
    refine (Eq.congr_left herase).trans ?_
    by_cases hka : k = a
    · rw [if_neg fun ho => hne (ho.trans hka.symm), if_pos hka, Option.some_inj, ← hka,
        stays_put_same]
    · rw [stays_put_other hka, ← hdue, hout, ← hfound]
      by_cases hoa : out = a
      · simp [hoa]
      · rw [if_neg hoa, if_neg hka]
        exact (and_iff_left fun ho => hoa (Option.some.inj ho)).symm

/-- A call that neither writes nor clears. -/
theorem pass {d : Demand} (hput : ∀ a x, d ≠ .put a x)
    (hline : lineup (calls ++ [d]) = lineup calls) {inner : Store}
    (hinner : ∀ k, inner.stored k = if d.renews k then none else s.inner.stored k) :
    Follows n (calls ++ [d]) ⟨s.own, inner⟩ where
  size := h.size
  queue := by
    rw [hline]
    exact h.queue
  found k e := by
    rw [stays_append hput hline, ← h.found, hinner]
    cases d.renews k <;> simp

theorem ask (c : Caller) (d : Demand) :
    ((cache Store.cache).ask c s d).Returns fun _ s' => Follows n (calls ++ [d]) s' := by
  cases d with
  | put k e => exact (h.put c k e).2
  | get k => exact h.pass (d := .get k) (by simp) (by simp [lineup]) fun _ => rfl
  | remove k =>
    refine h.pass (d := .remove k) (by simp) (by simp [lineup]) fun a => ?_
    refine (Table.get?_erase s.inner.entries k a).trans ?_
    simp only [Demand.renews, decide_eq_true_eq]
    rfl
  | clear =>
    refine ⟨h.size, ?_, fun k e => ?_⟩
    · rw [lineup_clear, List.drop_nil]
      rfl
    · rw [stays_concat]
      exact iff_of_false (Option.some_ne_none e).symm (by simp [Demand.renews])
  | size => exact h.pass (d := .size) (by simp) (by simp [lineup]) fun _ => rfl

theorem askAll (further : List (Caller × Demand)) :
    ((cache Store.cache).askAll further s).Returns fun _ s' =>
      Follows n (calls ++ further.map Prod.snd) s' := by
  induction further generalizing calls s with
  | nil => exact (List.append_nil calls).symm ▸ h
  | cons x further ih =>
    obtain ⟨c, d⟩ := x
    refine (h.ask c d).andThen fun c' a s' hs' => (ih hs').mapReply fun r hr => ?_
    rw [List.append_assoc] at hr
    exact hr

end Follows

/-- A layer of any size over an empty store: after any calls, a lookup is answered at once with the
entry that stays under the key, if one does, and it changes no answer to the calls that follow. -/
theorem found_iff_stays (size : Nat) (name : String) (calls : List (Caller × Demand)) :
    ∃ r, (cache Store.cache).askAll calls ⟨{ size }, { name }⟩ = .done r ∧
      ∀ c k, ∃ found, (cache Store.cache).get c k r.state = .done ⟨.ok found, r.state, []⟩ ∧
        (∀ e, found = some e ↔ Stays size (calls.map Prod.snd) k e) ∧
        ∀ later, (cache Store.cache).answers ((c, .get k) :: later) r.state =
          ((cache Store.cache).answers later r.state).map (.ok (.entry found) :: ·) := by
  have hstart : Follows size [] ⟨{ size }, { name }⟩ := by
    refine ⟨rfl, List.drop_nil.symm, fun k e => ⟨nofun, ?_⟩⟩
    rintro ⟨before, after, hcalls, -⟩
    exact absurd hcalls.symm (by simp)
  obtain ⟨r, hr, hend⟩ := (hstart.askAll calls).done
  refine ⟨r, hr, fun c k => ⟨r.state.inner.stored k, rfl, hend.found k, fun later => ?_⟩⟩
  have hasked : (cache Store.cache).ask c r.state (.get k) =
      .done ⟨.ok (.entry (r.state.inner.stored k)), r.state, []⟩ := rfl
  unfold Cache.answers
  rw [Cache.askAll, hasked, Run.andThen]
  dsimp only
  cases (cache Store.cache).askAll later r.state <;> rfl

-- A key that was removed and written again is given up in its older place, as the first of three.
example : (cache Store.cache).answers
    [({}, .put {} .null), ({}, .remove {}), ({}, .put {} .null),
      ({}, .put { hashcode := 1 } .null), ({}, .get {})] ⟨{ size := 2 }, { name := "users" }⟩ =
    some [.ok .done, .ok (.entry (some .null)), .ok .done, .ok .done, .ok (.entry none)] := rfl

end Fifo

end QueryCache
