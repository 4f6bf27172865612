import QueryCache.Proofs.Counters
import QueryCache.Proofs.Stack.Recency
import QueryCache.Proofs.Stack.Room

/-!
# Counted evictions

The layers that let entries go count evictions. Beside the counter there is the number of entries
that a layer has dropped: those that its store had, or would have after the call alone, and has no
more (`Store.missing`).

The layer that evicts the least recently touched keys counts just these. The one that evicts in the
order of the writes also counts a key that it gives up when the key is not stored any more. The
layer of weak entries does not count the entries that its lookups drop. `total_evictions` says this
of any calls.
-/

namespace QueryCache

/-- An eviction is reported and counted. -/
theorem Note.counted_evicted (e : Event) (id : String) (notes : List Note) :
    counted .eviction id (.event e :: .count .eviction id :: notes) =
      1 + counted .eviction id notes := by
  simp [counted, Nat.add_comm]

/-! ### Entries that a store has no more -/

namespace Store

/-- How many entries of a store another one, later, has no more. -/
def missing (s s' : Store) : Nat :=
  s.entries.entries.countP fun e => !s'.entries.contains e.1

/-- What a call leaves of a store if nothing else happens. -/
def asked (d : Demand) (s : Store) : Store := (Store.cache.ask {} s d).state

/-- A store goes by its name, and no key is stored twice. -/
def Proper (name : String) (s : Store) : Prop := s.name = name ∧ s.entries.keys.Nodup

theorem missing_eq_zero {s t : Store}
    (h : ∀ k, (s.stored k).isSome = true → (t.stored k).isSome = true) : s.missing t = 0 := by
  refine List.countP_eq_zero.mpr fun e he => ?_
  have hin : s.entries.contains e.1 = true :=
    (Table.contains_iff _ _).mpr (List.mem_map_of_mem he)
  have hkept : t.entries.contains e.1 = true := h e.1 hin
  rw [hkept]
  exact Bool.false_ne_true

/-- If nothing has come to be stored, as many entries are missing as there are fewer. -/
theorem missing_add_size {s t : Store} (hs : s.entries.keys.Nodup) (ht : t.entries.keys.Nodup)
    (h : ∀ k, (t.stored k).isSome = true → (s.stored k).isSome = true) :
    s.missing t + t.entries.size = s.entries.size := by
  have hsize := Table.size_eq_add hs hs ht (p := fun e => !t.entries.contains e.1)
    (q := fun _ => true) (fun k => ?_) fun k v v' _ hp hv' => ?_
  · rw [List.countP_true] at hsize
    exact hsize.symm
  · constructor
    · intro hk
      obtain ⟨v, hv⟩ := Option.isSome_iff_exists.mp hk
      cases hin : t.entries.contains k with
      | false => exact .inl ⟨v, hv, by simp [hin]⟩
      | true =>
        obtain ⟨v', hv'⟩ := Option.isSome_iff_exists.mp hin
        exact .inr ⟨v', hv', rfl⟩
    · rintro (⟨v, hv, -⟩ | ⟨v, hv, -⟩)
      · rw [hv]
        rfl
      · exact h k (Option.isSome_iff_exists.mpr ⟨v, hv⟩)
  · simp [Table.contains, hv'] at hp

/-- Of a removed key no more than its entry is missing. -/
theorem missing_erase {s : Store} (hs : s.entries.keys.Nodup) (k : Key) :
    s.missing { s with entries := s.entries.erase k } = if (s.stored k).isSome then 1 else 0 := by
  have hsame (e : Key × Entry) (he : e ∈ s.entries.entries) :
      (!(s.entries.erase k).contains e.1) = decide (e.1 = k) := by
    have hin : (s.entries.get? e.1).isSome = true :=
      (Table.contains_iff _ _).mpr (List.mem_map_of_mem he)
    rw [Table.contains, Table.get?_erase]
    by_cases hk : k = e.1
    · rw [if_pos hk, decide_eq_true hk.symm]
      rfl
    · rw [if_neg hk, hin, decide_eq_false fun h => hk h.symm]
      rfl
  have hcount : s.missing { s with entries := s.entries.erase k } = s.entries.keys.count k := by
    rw [missing, List.countP_congr fun e he => by rw [hsame e he], Table.keys, List.count,
      List.countP_map]
    rfl
  rw [hcount, List.Nodup.count hs]
  exact if_congr (Table.contains_iff _ _).symm rfl rfl

theorem missing_self (s : Store) : s.missing s = 0 := missing_eq_zero fun _ => id

/-- Of a removed key that was stored no more than its entry goes. -/
theorem size_erase {s : Store} (hs : s.entries.keys.Nodup) {k : Key}
    (hk : (s.stored k).isSome = true) :
    1 + (s.entries.erase k).size = s.entries.size := by
  have hmissing := missing_add_size (t := { s with entries := s.entries.erase k }) hs
    (Table.nodup_erase hs k) fun a ha => ?_
  · rw [missing_erase hs, if_pos hk] at hmissing
    exact hmissing
  · have hleft := Table.get?_erase s.entries k a
    unfold stored at ha ⊢
    dsimp only at ha
    rw [hleft] at ha
    split at ha
    · exact absurd ha Bool.false_ne_true
    · exact ha

theorem upholds_proper (name : String) (thread : Nat) :
    Store.cache.Upholds thread (fun _ => True) (Proper name) where
  size _ hs := hs
  put {_ k e _} _ _ hs := ⟨rfl, hs.1, Table.nodup_insert hs.2 k e⟩
  get _ hs := ⟨⟨_, rfl⟩, hs⟩
  remove {_ k _} _ hs := ⟨⟨_, rfl⟩, hs.1, Table.nodup_erase hs.2 k⟩
  clear _ hs := ⟨rfl, hs.1, List.nodup_nil⟩

theorem Proper.asked {name : String} {s : Store} (hs : s.Proper name) (d : Demand) :
    (s.asked d).Proper name := by
  obtain ⟨r, hr, -, hproper⟩ := ((upholds_proper name 0).ask (c := {}) rfl hs d).done
  rw [Store.asked, hr]
  exact hproper

end Store

/-! ### What a run comes to -/

section Tally

variable {ι τ α : Type}

/-- What the calls of a run weigh together, each by who asked for what and by the states before and
after it. -/
def tally (serve : Caller → τ → ι → Run τ α) (weight : Caller → ι → τ → τ → Nat) :
    List (Caller × ι) → τ → Nat
  | [], _ => 0
  | (c, q) :: rest, s =>
    match serve c s q with
    | .done r => weight c q s r.state + tally serve weight rest r.state
    | .wait .. => 0

variable {serve : Caller → τ → ι → Run τ α} {weight weight' : Caller → ι → τ → τ → Nat}

theorem tally_add (calls : List (Caller × ι)) (s : τ) :
    tally serve (fun c q s s' => weight c q s s' + weight' c q s s') calls s =
      tally serve weight calls s + tally serve weight' calls s := by
  induction calls generalizing s with
  | nil => rfl
  | cons x rest ih =>
    obtain ⟨c, q⟩ := x
    unfold tally
    cases serve c s q with
    | done r =>
      dsimp only
      rw [ih]
      omega
    | wait d s n ready resume => rfl

theorem tally_zero (calls : List (Caller × ι)) (s : τ) :
    tally serve (fun _ _ _ _ => 0) calls s = 0 := by
  induction calls generalizing s with
  | nil => rfl
  | cons x rest ih =>
    obtain ⟨c, q⟩ := x
    unfold tally
    cases serve c s q with
    | done r => exact (Nat.zero_add _).trans (ih r.state)
    | wait d s n ready resume => rfl

/-- If every call is answered at once, and counts what it weighs but for some part, so it is with
any number of calls. -/
theorem counted_all (all : List (Caller × ι) → τ → Run τ (List α))
    (weight weight' : Caller → ι → τ → τ → Nat) {inv : τ → Prop} {m : Metric} {id : String}
    (hnil : ∀ s, all [] s = .done ⟨[], s, []⟩)
    (hcons : ∀ c q rest s, all ((c, q) :: rest) s =
      (serve c s q).andThen c fun _ a s => (all rest s).mapReply (·.map (a :: ·)))
    (hserve : ∀ c q s, inv s → ∃ r, serve c s q = .done r ∧ inv r.state ∧
      Note.counted m id r.notes + weight' c q s r.state = weight c q s r.state)
    (calls : List (Caller × ι)) {s : τ} (hs : inv s) :
    ∃ r, all calls s = .done r ∧
      Note.counted m id r.notes + tally serve weight' calls s = tally serve weight calls s := by
  induction calls generalizing s with
  | nil => exact ⟨_, hnil s, rfl⟩
  | cons x rest ih =>
    obtain ⟨c, q⟩ := x
    obtain ⟨r, hr, hs', hcounted⟩ := hserve c q s hs
    obtain ⟨r', hr', hrest⟩ := ih hs'
    refine ⟨(r'.map (r.value :: ·)).after r.notes, ?_, ?_⟩
    · rw [hcons, hr, Run.andThen, hr']
      rfl
    · have hnotes : Note.counted m id ((r'.map (r.value :: ·)).after r.notes).notes =
          Note.counted m id r.notes + Note.counted m id r'.notes := Note.counted_append m id _ _
      unfold tally
      rw [hr, hnotes]
      dsimp only
      omega

end Tally

/-! ### Layers that evict for a write -/

section Evicting

variable {ο : Type}

/-- How many entries a layer drops in a call: those that the store would have after the call alone,
and has not. -/
def Over.dropped (_ : Caller) (d : Demand) (s s' : Over ο Store) : Nat :=
  (s.inner.asked d).missing s'.inner

/-- Whether a write gives up a key that is not stored any more. -/
def vacancy (enter : ο → Key → Option Key × ο) (d : Demand) (s : Over ο Store) : Nat :=
  match d with
  | .put k _ => if (givenUp enter s.own k).any fun x => !s.inner.entries.contains x then 1 else 0
  | .get _ | .remove _ | .clear | .size => 0

/-- A write counts the entry that it drops, or that it gives up a key which is not stored. -/
theorem makeRoom_counted (enter : ο → Key → Option Key × ο) (event : String → Key → Event)
    (c : Caller) (k : Key) (e : Entry) {s : Over ο Store} (hs : s.inner.entries.keys.Nodup) :
    Note.counted .eviction s.inner.name (makeRoom enter event Store.cache c k e s).notes =
      s.dropped c (.put k e) (makeRoom enter event Store.cache c k e s).state +
        vacancy enter (.put k e) s := by
  have hvacancy : vacancy enter (.put k e) s =
      if (givenUp enter s.own k).any fun x => !s.inner.entries.contains x then 1 else 0 := rfl
  rw [makeRoom_store, hvacancy]
  cases hgone : givenUp enter s.own k with
  | none => exact (Store.missing_self _).symm
  | some x =>
    have hkx : k ≠ x := (givenUp_eq_some.mp hgone).2.symm
    have hstored : (s.inner.asked (.put k e)).stored x = s.inner.stored x := by
      show (s.inner.entries.insert k e).get? x = _
      rw [Table.get?_insert, if_neg hkx]
      rfl
    have hmissing := Store.missing_erase (s := s.inner.asked (.put k e))
      (Table.nodup_insert hs k e) x
    rw [hstored] at hmissing
    have hsum : 1 = (if (s.inner.stored x).isSome = true then 1 else 0) +
        if (!(s.inner.stored x).isSome) = true then 1 else 0 := by
      cases (s.inner.stored x).isSome <;> rfl
    exact (Note.counted_evicted _ _ []).trans (hsum.trans (congrArg (· + _) hmissing.symm))

/-- A layer that makes room for a write, and does nothing else with the store than it is asked. -/
structure Evicts (cache : Cache (Over ο Store)) (enter : ο → Key → Option Key × ο) : Prop where
  put : ∃ event, cache.put = makeRoom enter event Store.cache
  pass : ∀ c s d, (∀ k e, d ≠ .put k e) →
    ∃ v own, cache.ask c s d = .done ⟨v, ⟨own, s.inner.asked d⟩, []⟩

theorem Lru.evicts : Evicts (Lru.cache Store.cache) record where
  put := ⟨_, rfl⟩
  pass c s d hd := by
    cases d with
    | put k e => exact absurd rfl (hd k e)
    | get k | remove k | clear | size => exact ⟨_, _, rfl⟩

theorem Fifo.evicts : Evicts (Fifo.cache Store.cache) enqueue where
  put := ⟨_, rfl⟩
  pass c s d hd := by
    cases d with
    | put k e => exact absurd rfl (hd k e)
    | get k | remove k | clear | size => exact ⟨_, _, rfl⟩

/-- Every call counts the entries that it drops, and the key that it gives up without an entry. -/
theorem Evicts.ask_counted {cache : Cache (Over ο Store)} {enter : ο → Key → Option Key × ο}
    (h : Evicts cache enter) {name : String} {s : Over ο Store} (hs : s.inner.Proper name)
    (c : Caller) (d : Demand) :
    ∃ r, cache.ask c s d = .done r ∧ r.state.inner.Proper name ∧
      Note.counted .eviction name r.notes = s.dropped c d r.state + vacancy enter d s := by
  by_cases hd : ∀ k e, d ≠ .put k e
  · obtain ⟨v, own, hask⟩ := h.pass c s d hd
    refine ⟨_, hask, hs.asked d, ?_⟩
    cases d with
    | put k e => exact absurd rfl (hd k e)
    | get k | remove k | clear | size => exact (Store.missing_self _).symm
  · obtain ⟨k, e, rfl⟩ : ∃ k e, d = .put k e := by simpa using hd
    obtain ⟨event, hput⟩ := h.put
    refine ⟨_, rfl, ?_, ?_⟩
    · have hinsert := hs.asked (.put k e)
      rw [hput]
      show (makeRoom enter event Store.cache c k e s).state.inner.Proper name
      rw [makeRoom_store]
      cases givenUp enter s.own k with
      | none => exact hinsert
      | some x => exact hinsert.asked (.remove x)
    · obtain ⟨rfl, hkeys⟩ := hs
      rw [hput]
      exact makeRoom_counted enter event c k e hkeys

end Evicting

namespace Lru

variable {l : Recency} {s : Over Lru Store} {name : String}

/-- How many entries the layer drops for a request. -/
def dropped (c : Caller) (q : Request) (s s' : Over Lru Store) : Nat :=
  match q with
  | .ask d => s.dropped c d s'
  | .resize _ => s.inner.missing s'.inner

theorem mem_of_record {l : Lru} {k x : Key} (h : (l.record k).1 = some x) : x ∈ l.order := by
  unfold record at h
  split at h
  · exact nomatch h
  · split at h
    · exact nomatch h
    · exact List.mem_of_getLast? h

/-- Every key that is given up is stored. -/
theorem Follows.vacancy_eq_zero (h : Follows l s) (d : Demand) : vacancy record d s = 0 := by
  cases d with
  | put k e =>
    refine if_neg fun hany => ?_
    obtain ⟨x, hx, hout⟩ := (Option.any_eq_true _ _).mp hany
    have hin := h.order_perm.mem_iff.mp (mem_of_record (givenUp_eq_some.mp hx).1)
    rw [(Table.contains_iff _ _).mpr hin] at hout
    exact nomatch hout
  | get k | remove k | clear | size => rfl

/-- Evicting from the end counts as many entries as there are fewer afterwards. -/
theorem Follows.shrink_counted (h : Follows l s) (c : Caller) (n fuel : Nat) :
    (Lru.shrink Store.cache c n fuel s).state.inner.name = s.inner.name ∧
      Note.counted .eviction s.inner.name (Lru.shrink Store.cache c n fuel s).notes +
        (Lru.shrink Store.cache c n fuel s).state.inner.entries.size = s.inner.entries.size := by
  induction fuel generalizing l s with
  | zero => exact ⟨rfl, Nat.zero_add _⟩
  | succ fuel ih =>
    unfold Lru.shrink
    by_cases hle : s.own.order.length ≤ n
    · rw [if_pos hle]
      exact ⟨rfl, Nat.zero_add _⟩
    · have hpos : 0 < s.own.order.length := by omega
      obtain ⟨k, hlast⟩ : ∃ k, s.own.order.getLast? = some k :=
        ⟨_, List.getLast?_eq_some_getLast (List.ne_nil_of_length_pos hpos)⟩
      obtain ⟨hvalue, hevicted⟩ := h.evict c hlast
      obtain ⟨hname, hcounted⟩ := ih hevicted
      have hfewer := hevicted.size_eq
      rw [h.length_order] at hpos
      rw [List.length_dropLast] at hfewer
      rw [if_neg hle, hlast]
      unfold Reply.andThen
      dsimp only
      rw [hvalue]
      refine ⟨hname, ?_⟩
      refine (congrArg (· + _) (Note.counted_evicted _ _ _)).trans ?_
      rw [Nat.add_assoc]
      refine (congrArg (1 + ·) hcounted).trans ?_
      rw [hfewer, h.size_eq]
      omega

/-- Every request counts the entries that it drops. -/
theorem Follows.serve_counted (h : Follows l s) (hroom : l.Roomy) (hs : s.inner.Proper name)
    (c : Caller) (q : Request) :
    ∃ r, Lru.serve Store.cache c s q = .done r ∧ Follows (l.after q) r.state ∧
      r.state.inner.Proper name ∧ Note.counted .eviction name r.notes = dropped c q s r.state := by
  obtain ⟨r, hr, -, hafter⟩ := (h.serve hroom c q).done
  refine ⟨r, hr, hafter, ?_⟩
  cases q with
  | ask d =>
    obtain ⟨r', hr', hproper, hcounted⟩ := evicts.ask_counted hs c d
    cases hr.symm.trans hr'
    rw [h.vacancy_eq_zero] at hcounted
    exact ⟨hproper, hcounted⟩
  | resize n =>
    obtain ⟨rfl, hkeys⟩ := hs
    have hsmaller (k : Key) (hk : (r.state.inner.stored k).isSome = true) :
        (s.inner.stored k).isSome = true := by
      have hkept : (Table.find k (l.pairs.take n.size)).isSome = true :=
        (congrArg Option.isSome (hafter.found k)).symm.trans hk
      rw [Table.find_isSome, List.map_take] at hkept
      have hfound := (Table.find_isSome k l.pairs).mpr (List.mem_of_mem_take hkept)
      exact (congrArg Option.isSome (h.found k)).trans hfound
    have hmissing := Store.missing_add_size hkeys hafter.keys hsmaller
    obtain ⟨hname, hcounted⟩ := h.shrink_counted c n.size s.own.order.length
    obtain ⟨hvalue, -⟩ :=
      h.shrink c n.size s.own.order.length (h.length_order ▸ Nat.le_add_left _ _)
    unfold Lru.serve setCapacity Reply.andThen at hr
    dsimp only at hr
    rw [hvalue] at hr
    cases hr
    refine ⟨⟨hname, hafter.keys⟩, Nat.add_right_cancel ((?_ : _ = _).trans hmissing.symm)⟩
    refine Eq.trans ?_ hcounted
    show Note.counted .eviction s.inner.name (_ ++ []) + _ = _
    rw [List.append_nil]
    rfl

/-- The layer is in step with a recency list, over a store of that name. -/
def Kept (name : String) (s : Over Lru Store) : Prop :=
  s.inner.Proper name ∧ ∃ l : Recency, l.Roomy ∧ Follows l s

/-- So do several requests. -/
theorem serveAll_counted (capacity : Capacity) (name : String)
    (requests : List (Caller × Request)) :
    ∃ r, serveAll Store.cache requests ⟨{ capacity }, { name }⟩ = .done r ∧
      Note.counted .eviction name r.notes =
        tally (serve Store.cache) dropped requests ⟨{ capacity }, { name }⟩ := by
  have hstart : Kept name ⟨{ capacity }, { name }⟩ := ⟨⟨rfl, List.nodup_nil⟩, { capacity },
    Nat.zero_le _, rfl, rfl, List.nodup_nil, List.nodup_nil, fun _ => rfl⟩
  have hserve (c : Caller) (q : Request) (s : Over Lru Store) (hs : Kept name s) :
      ∃ r, serve Store.cache c s q = .done r ∧ Kept name r.state ∧
        Note.counted .eviction name r.notes + 0 = dropped c q s r.state := by
    obtain ⟨hs, l, hroom, hl⟩ := hs
    obtain ⟨r, hr, hafter, hs', hcounted⟩ := hl.serve_counted hroom hs c q
    exact ⟨r, hr, ⟨hs', _, hroom.after q, hafter⟩, hcounted⟩
  obtain ⟨r, hr, hcounted⟩ := counted_all (serveAll Store.cache) dropped (fun _ _ _ _ => 0)
    (fun _ => rfl) (fun _ _ _ _ => rfl) hserve requests hstart
  rw [tally_zero, Nat.add_zero] at hcounted
  exact ⟨r, hr, hcounted⟩

end Lru

/-- Calls on the layer that evicts in the order of the writes. -/
theorem Fifo.askAll_counted (size : Nat) (name : String) (calls : List (Caller × Demand)) :
    ∃ r, (cache Store.cache).askAll calls ⟨{ size }, { name }⟩ = .done r ∧
      Note.counted .eviction name r.notes =
        tally (cache Store.cache).ask Over.dropped calls ⟨{ size }, { name }⟩ +
          tally (cache Store.cache).ask (fun _ d s _ => vacancy enqueue d s) calls
            ⟨{ size }, { name }⟩ := by
  obtain ⟨r, hr, hcounted⟩ := counted_all (cache Store.cache).askAll
    (fun c d s s' => s.dropped c d s' + vacancy enqueue d s) (fun _ _ _ _ => 0)
    (fun _ => rfl) (fun _ _ _ _ => rfl) (fun c d s hs => evicts.ask_counted hs c d) calls
    (s := ⟨{ size }, { name }⟩) ⟨rfl, List.nodup_nil⟩
  rw [tally_zero, Nat.add_zero, tally_add] at hcounted
  exact ⟨r, hr, hcounted⟩

/-! ### The layer of weak entries -/

/-- No key is dropped twice. -/
theorem Tracked.nodup_dead {t : Tracked} (hn : t.entries.keys.Nodup) (alive : RowsId → Bool)
    (limit : Nat) : (t.collect alive limit).1.Nodup := by
  obtain ⟨dropped, hkeys, -, hp⟩ := t.collect_perm alive limit
  have hboth := (hp.map Prod.fst).nodup_iff.mp hn
  rw [List.map_append] at hboth
  rw [hkeys]
  exact (List.nodup_append.mp hboth).1

namespace Weak

variable {s : Over Weak Store} {name : String}

/-- The store as a call finds it after its sweep. -/
def met (c : Caller) (d : Demand) (s : Over Weak Store) : Store :=
  match d with
  | .put _ e => (sweep Store.cache (c.holding fun id => e.holds id) sweepBatch s).state.inner
  | .get _ | .remove _ => (sweep Store.cache c sweepBatch s).state.inner
  | .size => (sweep Store.cache c s.own.tracked.entries.size s).state.inner
  | .clear => s.inner

/-- How many entries the layer drops in a call: in its sweep, and of those that the store would have
after the call alone. -/
def dropped (c : Caller) (d : Demand) (s s' : Over Weak Store) : Nat :=
  s.inner.missing (met c d s) + ((met c d s).asked d).missing s'.inner

/-- How many of these are dropped by a lookup that found the rows gone. -/
def spotted (c : Caller) (d : Demand) (s s' : Over Weak Store) : Nat :=
  match d with
  | .get _ => (met c d s).missing s'.inner
  | .put .. | .remove _ | .clear | .size => 0

/-- No key is tracked or stored twice, and what is tracked is stored. -/
structure Kept (name : String) (s : Over Weak Store) : Prop where
  single : Single s
  store : s.inner.Proper name
  sound : ∀ k, (slot Store.stored s k).Sound

theorem Handled.sound {inner : Cache Store} {c : Caller} {d : Demand} {refused : Prop}
    {s' : Over Weak Store} (h : Handled inner Store.stored c d s refused s')
    (hs : ∀ k, (slot Store.stored s k).Sound) (hd : refused → d.rows? = none) (k : Key) :
    (slot Store.stored s' k).Sound := by
  obtain ⟨v, hswept, hcalled⟩ := h.2 k
  exact ((hs k).swept hswept).called hcalled fun hr _ => hd hr

/-- Every key that is dropped inside is counted. -/
theorem dropAll_counted (c : Caller) {dead : List Key} (hn : dead.Nodup)
    (hkeys : s.inner.entries.keys.Nodup) (hdead : ∀ k ∈ dead, (s.inner.stored k).isSome = true) :
    Note.counted .eviction s.inner.name (dropAll Store.cache c dead s).notes +
      (dropAll Store.cache c dead s).state.inner.entries.size = s.inner.entries.size := by
  induction dead generalizing s with
  | nil => exact Nat.zero_add _
  | cons k rest ih =>
    obtain ⟨hk, hn⟩ := List.nodup_cons.mp hn
    have hsize := Store.size_erase hkeys (hdead k List.mem_cons_self)
    have hrest := ih (s := { s with
      inner := { s.inner with entries := s.inner.entries.erase k } }) hn
      (Table.nodup_erase hkeys k) fun a ha => ?_
    · refine (congrArg (· + _) (Note.counted_evicted _ _ _)).trans ?_
      rw [Nat.add_assoc]
      exact (congrArg (1 + ·) hrest).trans hsize
    · have hka : k ≠ a := fun hka => hk (hka ▸ ha)
      refine (congrArg Option.isSome (Table.get?_erase s.inner.entries k a)).trans ?_
      rw [if_neg hka]
      exact hdead a (List.mem_cons_of_mem k ha)

namespace Kept

variable (h : Kept name s)

include h

/-- A sweep counts the entries that it drops. -/
theorem sweep_counted (c : Caller) (limit : Nat) :
    (sweep Store.cache c limit s).value = .ok () ∧
      Note.counted .eviction name (sweep Store.cache c limit s).notes =
        s.inner.missing (sweep Store.cache c limit s).state.inner := by
  obtain ⟨hsingle, ⟨rfl, hkeys⟩, hsound⟩ := h
  obtain ⟨hvalue, -, hleft⟩ := sweep_upholds (Store.upholds_proper s.inner.name c.thread) (c := c)
    rfl limit ⟨rfl, hkeys⟩
  refine ⟨hvalue, ?_⟩
  have hdead (k : Key) (hk : k ∈ (s.own.tracked.collect (alive Store.cache c s) limit).1) :
      (s.inner.stored k).isSome = true := by
    obtain ⟨r, hr, -⟩ := Tracked.mem_collect hsingle _ limit hk
    exact Option.isSome_iff_exists.mpr ⟨_, hsound k r hr⟩
  have hcounted := dropAll_counted c (Tracked.nodup_dead hsingle (alive Store.cache c s) limit)
    (s := { s with own := { s.own with
      tracked := (s.own.tracked.collect (alive Store.cache c s) limit).2 } }) hkeys hdead
  obtain ⟨-, hspec⟩ := dropAll_spec Store.fallible c
    (s.own.tracked.collect (alive Store.cache c s) limit).1
    { s with own := { s.own with
      tracked := (s.own.tracked.collect (alive Store.cache c s) limit).2 } }
  have hmissing := Store.missing_add_size hkeys hleft fun k hk => ?_
  · exact Nat.add_right_cancel (hcounted.trans hmissing.symm)
  · by_cases hin : k ∈ (s.own.tracked.collect (alive Store.cache c s) limit).1
    · exact hdead k hin
    · exact (congrArg Option.isSome ((hspec k).1 hin)).symm.trans hk

/-- Every call is answered at once. -/
theorem ask (c : Caller) (d : Demand) :
    ∃ r, (cache Store.cache).ask c s d = .done r ∧ Kept name r.state := by
  obtain ⟨r, hr, ⟨b, hb⟩, hproper⟩ :=
    ((Weak.upholds (Store.upholds_proper name c.thread)).ask rfl h.store d).done
  obtain ⟨r', hr', hhandled⟩ := ask_handled Store.fallible h.single c d
  cases hr.symm.trans hr'
  refine ⟨r, hr, hhandled.1, hproper, ?_⟩
  cases d with
  | put k e =>
    have hput := put_handled Store.fallible h.single c k e
    have hreply : (cache Store.cache).put = put Store.cache := rfl
    rw [Cache.ask, Run.done.injEq, hreply] at hr
    generalize put Store.cache c k e s = written at hput hr
    rw [← hr] at hb ⊢
    refine hput.sound h.sound ?_
    rintro ⟨f, hf⟩
    rw [Reply.map, hf] at hb
    cases hb
  | get k | remove k | clear | size => exact hhandled.sound h.sound fun _ => rfl

end Kept

theorem get_of_swept {σ : Type} {inner : Cache σ} {c : Caller} {k : Key} {s : Over Weak σ}
    (h : (sweep inner c sweepBatch s).value = .ok ()) :
    get inner c k s =
      ((inside.run c (sweep inner c sweepBatch s).state fun c i => inner.get c k i).andThen c
        (found inner k)).after (sweep inner c sweepBatch s).notes := by
  unfold get
  dsimp only
  rw [h]

/-- What follows a lookup in the store is not counted. -/
theorem found_notes (k : Key) (c : Caller) (v : Except CacheFailure (Option Entry))
    (s : Over Weak Store) : ∃ r, found Store.cache k c v s = .done r ∧ r.notes = [] := by
  unfold found
  split
  · exact ⟨_, rfl, rfl⟩
  · exact ⟨_, rfl, rfl⟩
  · split <;> exact ⟨_, rfl, rfl⟩

/-- A call counts what its sweep drops, and a lookup may drop another entry. -/
theorem Kept.ask_counted (h : Kept name s) (c : Caller) (d : Demand)
    {r : Reply (Over Weak Store) (Except CacheFailure Response)}
    (hr : (cache Store.cache).ask c s d = .done r) :
    Note.counted .eviction name r.notes + spotted c d s r.state = dropped c d s r.state := by
  -- The sweep has a fixed number of checks, which must not be carried out: it is taken as any reply
  -- before the rest is unfolded.
  unfold Cache.ask cache at hr
  unfold dropped spotted met
  cases d with
  | put k e =>
    dsimp only at hr ⊢
    obtain ⟨hvalue, hcounted⟩ := h.sweep_counted (c.holding fun id => e.holds id) sweepBatch
    rw [Run.done.injEq, put_eq] at hr
    generalize sweep Store.cache (c.holding fun id => e.holds id) sweepBatch s = q
      at hvalue hcounted hr
    unfold Reply.andThen at hr
    rw [hvalue] at hr
    rw [← hr]
    show Note.counted .eviction name (q.notes ++ []) + 0 = _
    rw [List.append_nil, hcounted]
    refine congrArg (s.inner.missing q.state.inner + ·) (Store.missing_eq_zero fun a ha => ?_).symm
    change ((q.state.inner.entries.insert k e).get? a).isSome = true at ha
    show ((q.state.inner.entries.insert k e.weakened).get? a).isSome = true
    rw [Table.get?_insert] at ha ⊢
    split
    · rfl
    · next hka => rwa [if_neg hka] at ha
  | get k =>
    dsimp only at hr ⊢
    obtain ⟨hvalue, hcounted⟩ := h.sweep_counted c sweepBatch
    rw [get_of_swept hvalue] at hr
    generalize sweep Store.cache c sweepBatch s = q at hvalue hcounted hr
    obtain ⟨last, hfound, hnotes⟩ := found_notes k c (.ok (q.state.inner.stored k)) q.state
    change (((found Store.cache k c (.ok (q.state.inner.stored k)) q.state).after []).after
      q.notes).mapReply _ = _ at hr
    rw [hfound] at hr
    cases hr
    show Note.counted .eviction name (q.notes ++ ([] ++ last.notes)) + _ = _
    rw [hnotes, List.append_nil, List.append_nil, hcounted]
    rfl
  | remove k =>
    dsimp only at hr ⊢
    obtain ⟨hvalue, hcounted⟩ := h.sweep_counted c sweepBatch
    rw [Run.done.injEq, remove] at hr
    generalize sweep Store.cache c sweepBatch s = q at hvalue hcounted hr
    unfold Reply.andThen at hr
    rw [hvalue] at hr
    rw [← hr]
    show Note.counted .eviction name (q.notes ++ []) + 0 = _
    rw [List.append_nil, hcounted]
    exact congrArg (s.inner.missing q.state.inner + ·) (Store.missing_self _).symm
  | clear =>
    dsimp only at hr ⊢
    cases hr
    exact (congrArg₂ (· + ·) (Store.missing_self _) (Store.missing_self _)).symm
  | size =>
    dsimp only at hr ⊢
    obtain ⟨hvalue, hcounted⟩ := h.sweep_counted c s.own.tracked.entries.size
    rw [Run.done.injEq, size] at hr
    generalize sweep Store.cache c s.own.tracked.entries.size s = q at hvalue hcounted hr
    unfold Reply.andThen at hr
    rw [hvalue] at hr
    rw [← hr]
    show Note.counted .eviction name (q.notes ++ []) + 0 = _
    rw [List.append_nil, hcounted]
    exact congrArg (s.inner.missing q.state.inner + ·) (Store.missing_self _).symm

/-- So do several calls. -/
theorem askAll_counted (hardLinks : Nat) (name : String) (calls : List (Caller × Demand)) :
    ∃ r, (cache Store.cache).askAll calls ⟨{ hardLinks }, { name }⟩ = .done r ∧
      Note.counted .eviction name r.notes +
          tally (cache Store.cache).ask spotted calls ⟨{ hardLinks }, { name }⟩ =
        tally (cache Store.cache).ask dropped calls ⟨{ hardLinks }, { name }⟩ := by
  have hask (c : Caller) (d : Demand) (s : Over Weak Store) (hs : Kept name s) :
      ∃ r, (cache Store.cache).ask c s d = .done r ∧ Kept name r.state ∧
        Note.counted .eviction name r.notes + spotted c d s r.state = dropped c d s r.state := by
    obtain ⟨r, hr, hs'⟩ := hs.ask c d
    exact ⟨r, hr, hs', hs.ask_counted c d hr⟩
  exact counted_all _ _ _ (fun _ => rfl) (fun _ _ _ _ => rfl) hask calls
    ⟨List.nodup_nil, ⟨rfl, List.nodup_nil⟩, fun _ => nofun⟩

end Weak

/-! ### The counter and the entries -/

/-- Each of the three layers over an empty store, whatever is asked of it, by callers who may hold
any row lists at any time: all calls are answered at once, and the counter of evictions grows

- by the number of entries that the layer drops, if it evicts the least recently touched keys, also
  when its capacity is changed;
- by this and by the number of keys that it gives up when they are not stored any more, if it evicts
  in the order of the writes;
- by this without the entries that are dropped by lookups, if it lets go of weak entries. -/
theorem total_evictions (name : String) :
    (∀ capacity requests, ∃ r,
      Lru.serveAll Store.cache requests ⟨{ capacity }, { name }⟩ = .done r ∧
      ∀ counters : Counters, (counters.addNotes r.notes).total .eviction name =
        counters.total .eviction name +
          tally (Lru.serve Store.cache) Lru.dropped requests ⟨{ capacity }, { name }⟩) ∧
    (∀ size calls, ∃ r,
      (Fifo.cache Store.cache).askAll calls ⟨{ size }, { name }⟩ = .done r ∧
      ∀ counters : Counters, (counters.addNotes r.notes).total .eviction name =
        counters.total .eviction name +
          (tally (Fifo.cache Store.cache).ask Over.dropped calls ⟨{ size }, { name }⟩ +
            tally (Fifo.cache Store.cache).ask (fun _ d s _ => vacancy Fifo.enqueue d s) calls
              ⟨{ size }, { name }⟩)) ∧
    ∀ hardLinks calls, ∃ r,
      (Weak.cache Store.cache).askAll calls ⟨{ hardLinks }, { name }⟩ = .done r ∧
      ∀ counters : Counters, (counters.addNotes r.notes).total .eviction name +
          tally (Weak.cache Store.cache).ask Weak.spotted calls ⟨{ hardLinks }, { name }⟩ =
        counters.total .eviction name +
          tally (Weak.cache Store.cache).ask Weak.dropped calls ⟨{ hardLinks }, { name }⟩ := by
  refine ⟨fun capacity requests => ?_, fun size calls => ?_, fun hardLinks calls => ?_⟩
  · obtain ⟨r, hr, hcounted⟩ := Lru.serveAll_counted capacity name requests
    exact ⟨r, hr, fun counters => by rw [Counters.total_addNotes, hcounted]⟩
  · obtain ⟨r, hr, hcounted⟩ := Fifo.askAll_counted size name calls
    exact ⟨r, hr, fun counters => by rw [Counters.total_addNotes, hcounted]⟩
  · obtain ⟨r, hr, hcounted⟩ := Weak.askAll_counted hardLinks name calls
    exact ⟨r, hr, fun counters => by rw [Counters.total_addNotes, Nat.add_assoc, hcounted]⟩

/-- A key is written, removed, and given up for another one. -/
def turnedOver : List (Caller × Demand) :=
  [({}, .put {} .null), ({}, .remove {}), ({}, .put { hashcode := 1 } .null)]

/-- Rows that somebody holds are written under one key more than a sweep checks; then nobody holds
them, and the key that the sweep does not come to is looked up. -/
def outrun : List (Caller × Demand) :=
  (List.range 33).map (fun n => ({ held := fun id => id == 0 },
    .put { hashcode := Int32.ofNat n } (.rows ⟨0, []⟩))) ++
      [(({} : Caller), .get { hashcode := 1 })]

/-- An eviction is counted where no entry is dropped, and not counted where one is. -/
theorem evictions_miscounted :
    ((Fifo.cache Store.cache).askAll turnedOver ⟨{ size := 1 }, { name := "users" }⟩).reply?.map
        (fun r => (({} : Counters).addNotes r.notes).total .eviction "users") = some 1 ∧
    tally (Fifo.cache Store.cache).ask Over.dropped turnedOver
      ⟨{ size := 1 }, { name := "users" }⟩ = 0 ∧
    ((Weak.cache Store.cache).askAll outrun ⟨{ hardLinks := 0 }, { name := "users" }⟩).reply?.map
        (fun r => (({} : Counters).addNotes r.notes).total .eviction "users") = some 32 ∧
    tally (Weak.cache Store.cache).ask Weak.dropped outrun
      ⟨{ hardLinks := 0 }, { name := "users" }⟩ = 33 := by
  refine ⟨rfl, rfl, ?_, ?_⟩
  · decide +kernel
  · decide +kernel

end QueryCache
