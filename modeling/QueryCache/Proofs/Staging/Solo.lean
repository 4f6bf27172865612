import QueryCache.Proofs.Run
import QueryCache.Proofs.Staging.Calls

/-!
# Transactions over one shared cache

What holds of a shared cache after each of its operations holds after the end of a
transaction, and a lookup through staged work does to the shared cache what the lookup there
does. A transaction that uses one shared cache only is known by its staged work on it.
-/

namespace QueryCache

variable {π ρ σ : Type}

namespace Pending

/-! ### The calls of a commit -/

/-- A write of a commit was staged, or it is that of an explicit null. -/
theorem staged_of_step {p : Pending} {step : Step} (hs : step ∈ p.steps) {k : Key}
    {e : Entry} (hc : step.call = .put k e) : (k, e) ∈ p.writes.entries ∨ e = .null := by
  rw [steps] at hs
  rcases List.mem_append.mp hs with hs | hs
  · rcases List.mem_append.mp hs with hs | hs
    · split at hs
      · rw [List.mem_singleton.mp hs] at hc
        cases hc
      · exact absurd hs List.not_mem_nil
    · obtain ⟨w, hw, rfl⟩ := List.mem_map.mp hs
      injection hc with hk he
      subst hk he
      exact .inl hw
  · obtain ⟨a, _, rfl⟩ := List.mem_map.mp hs
    injection hc with _ he
    exact .inr he.symm

/-- A staged clear is made. -/
theorem clear_mem_steps {p : Pending} (h : p.clearFirst = true) : .clear ∈ p.steps := by
  rw [steps, if_pos h]
  exact List.mem_append_left _ (List.mem_append_left _ List.mem_cons_self)

/-- Every missed key is written to. -/
theorem put_of_missed {p : Pending} {k : Key} (hk : k ∈ p.misses.keys) :
    ∃ step ∈ p.steps, ∃ e, step.call = .put k e := by
  rw [steps]
  cases hw : p.writes.get? k with
  | some e =>
    refine ⟨.put k e, ?_, e, rfl⟩
    have hmem : Step.put k e ∈ p.writes.entries.map fun e => Step.put e.1 e.2 :=
      List.mem_map.mpr ⟨(k, e), Table.mem_entries_of_get? hw, rfl⟩
    exact List.mem_append_left _ (List.mem_append_right _ hmem)
  | none =>
    refine ⟨.putNull k, ?_, .null, rfl⟩
    have hmem : k ∈ p.unwritten := by
      rw [unwritten, List.mem_filter]
      refine ⟨hk, ?_⟩
      rw [Table.contains, hw]
      rfl
    exact List.mem_append_right _ (List.mem_map_of_mem hmem)

/-! ### What is kept -/

variable {P : σ → Prop} {shared : Cache σ}

section

variable {callers : Caller → Prop} (hheld : ∀ c held, callers c → callers (c.holding held))

include hheld

/-- Carrying steps out keeps what writes and clears of the same callers keep. -/
theorem runSteps_keepsFor
    (hput : ∀ c k e s, callers c → P s → P (shared.put c k e s).state)
    (hclear : ∀ c s, callers c → P s → P (shared.clear c s).state) {c : Caller} (hc : callers c)
    (steps : List Step) (s : σ) (hs : P s) : P (runSteps shared c steps s).state := by
  induction steps generalizing s with
  | nil => exact hs
  | cons step rest ih =>
    have hstep (c : Caller) (hc : callers c) : P (step.run shared c s).state := by
      cases step with
      | clear => exact hclear c s hc hs
      | put k e => exact hput c k e s hc hs
      | putNull k => exact hput c k .null s hc hs
    unfold runSteps
    simp only [Reply.andThen, Reply.after]
    split
    · exact ih _ (hstep _ (hheld _ _ hc))
    · exact ih _ (hstep _ (hheld _ _ hc))

omit hheld in
/-- Removing keys keeps what removals of the same caller keep. -/
theorem removeAll_keepsFor (hremove : ∀ c k s, callers c → P s → P (shared.remove c k s).state)
    {c : Caller} (hc : callers c) (keys : List Key) (s : σ) (hs : P s) :
    P (removeAll shared c keys s).state := by
  induction keys generalizing s with
  | nil => exact hs
  | cons k rest ih => exact ih _ (hremove c k s hc hs)

end

/-- What holds all along a lookup in the shared cache holds all along one through staged
work. -/
theorem get_always {others : σ → σ → Prop} {waiting ended : σ → Prop} {k : Key} {c : Caller}
    {s : Over Pending σ} (h : ∀ held, (shared.get (c.holding held) k s.inner).Always others
      waiting fun _ => ended) :
    (Pending.get shared c k s).Always (fun s s' => others s.inner s'.inner)
      (fun s => waiting s.inner) fun _ s => ended s.inner := by
  have hinside : (inside.run c s fun c i => shared.get c k i).Always
      (fun s s' => others s.inner s'.inner) (fun s => waiting s.inner)
      fun _ s => ended s.inner :=
    Run.Always.within (fun _ => True) (h _) True.intro (fun _ _ _ hi => hi)
      (fun _ _ _ _ _ moved => ⟨moved, True.intro⟩) fun _ _ _ _ hi => hi
  refine hinside.andThen fun c' a t ht => ?_
  cases a with
  | error f => exact ht
  | ok e => exact ht

/-- A lookup does to the shared cache what the lookup there does, learns from the answer at
its end and shows it. -/
theorem get_each {S : σ → σ → Prop} {L : σ → Except CacheFailure (Option Entry) → σ → Prop}
    {k : Key} (h : ∀ c s, (shared.get c k s).Each S L s) (c : Caller) (s : Over Pending σ) :
    (Pending.get shared c k s).Each (fun s s' => s'.own = s.own ∧ S s.inner s'.inner)
      (fun s v s' => ∃ a, L s.inner a s'.inner ∧ s'.own = s.own.learn k a ∧ v = s.own.shown a)
      s := by
  have hinside : (inside.run c s fun c i => shared.get c k i).Each
      (fun s s' => s'.own = s.own ∧ S s.inner s'.inner)
      (fun s a s' => s'.own = s.own ∧ L s.inner a s'.inner) s :=
    Run.Each.within (p := inside) (h _ s.inner) (fun _ _ hs => ⟨rfl, hs⟩) fun _ _ _ hl => ⟨rfl, hl⟩
  refine hinside.andThen ?_
  rintro c' s a s' ⟨hown, hl⟩
  cases a with
  | error f => exact ⟨.error f, hl, hown, rfl⟩
  | ok e =>
    refine ⟨.ok e, hl, ?_, ?_⟩
    · simp only [learn, ← hown]
    · simp only [shown, Except.map, ← hown]
      split <;> rfl

end Pending

namespace Transaction

section

variable {P : σ → Prop} {shared : ρ → Cache σ} {callers : Caller → Prop}
  (hheld : ∀ c held, callers c → callers (c.holding held))

include hheld

/-- What holds all along every lookup of the same callers in the shared caches holds all along
a lookup through staged work. -/
theorem get_always {others : σ → σ → Prop} {waiting ended : σ → Prop} {k : Key}
    {s : Over (Transaction ρ) σ} (h : ∀ ref c, callers c →
      ((shared ref).get c k s.inner).Always others waiting fun _ => ended) {c : Caller}
    (hc : callers c) (ref : ρ) :
    (get shared c ref k s).Always (fun s s' => others s.inner s'.inner)
      (fun s => waiting s.inner) fun _ s => ended s.inner :=
  Run.Always.within (fun _ => True)
    (Pending.get_always fun _ => h _ _ (hheld _ _ (hheld _ _ hc))) True.intro
    (fun _ _ _ hi => hi) (fun _ _ _ _ _ moved => ⟨moved, True.intro⟩) fun _ _ _ _ hi => hi

/-- Committing cache by cache keeps what writes and clears of the same callers keep. -/
theorem commitEach_keepsFor
    (hput : ∀ ref c k e s, callers c → P s → P ((shared ref).put c k e s).state)
    (hclear : ∀ ref c s, callers c → P s → P ((shared ref).clear c s).state) {c : Caller}
    (hc : callers c) (targets : List (String × ρ)) (s : Over (Transaction ρ) σ)
    (hs : P s.inner) : P (commitEach shared c targets s).state.inner := by
  induction targets generalizing s with
  | nil => exact hs
  | cons e rest ih =>
    have hfirst : P ((part e.1).reply c s fun c i =>
        Pending.commit (shared e.2) c i).state.inner :=
      Pending.runSteps_keepsFor hheld (hput e.2) (hclear e.2) (hheld _ _ hc) _ _ hs
    unfold commitEach
    simp only [Reply.andThen, Reply.after]
    split
    · exact ih _ hfirst
    · exact ih _ hfirst

/-- Rolling back cache by cache keeps what removals of the same callers keep. -/
theorem rollbackEach_keepsFor
    (hremove : ∀ ref c k s, callers c → P s → P ((shared ref).remove c k s).state) {c : Caller}
    (hc : callers c) (targets : List (String × ρ)) (s : Over (Transaction ρ) σ)
    (hs : P s.inner) : P (rollbackEach shared c targets s).state.inner := by
  induction targets generalizing s with
  | nil => exact hs
  | cons e rest ih =>
    exact ih _ (Pending.removeAll_keepsFor (hremove e.2) (hheld _ _ (hheld _ _ hc)) _ _ hs)

end

/-- Committing cache by cache keeps what writes and clears keep. -/
theorem commitEach_keeps {P : σ → Prop} {shared : ρ → Cache σ}
    (hput : ∀ ref c k e s, P s → P ((shared ref).put c k e s).state)
    (hclear : ∀ ref c s, P s → P ((shared ref).clear c s).state) (c : Caller)
    (targets : List (String × ρ)) (s : Over (Transaction ρ) σ) (hs : P s.inner) :
    P (commitEach shared c targets s).state.inner :=
  commitEach_keepsFor (fun _ _ (h : True) => h) (fun ref c k e s _ => hput ref c k e s)
    (fun ref c s _ => hclear ref c s) True.intro targets s hs

/-- Rolling back cache by cache keeps what removals keep. -/
theorem rollbackEach_keeps {P : σ → Prop} {shared : ρ → Cache σ}
    (hremove : ∀ ref c k s, P s → P ((shared ref).remove c k s).state) (c : Caller)
    (targets : List (String × ρ)) (s : Over (Transaction ρ) σ) (hs : P s.inner) :
    P (rollbackEach shared c targets s).state.inner :=
  rollbackEach_keepsFor (fun _ _ (h : True) => h) (fun ref c k s _ => hremove ref c k s) True.intro
    targets s hs

/-! ### One cache -/

/-- The transaction has used no cache but the named one. -/
structure OnlyFor (name : String) (t : Transaction ρ) : Prop where
  nodup : t.buffers.keys.Nodup
  named : ∀ n ∈ t.buffers.keys, n = name

theorem onlyFor_empty (name : String) : (empty : Transaction ρ).OnlyFor name :=
  ⟨List.nodup_nil, fun _ hn => absurd hn List.not_mem_nil⟩

/-- Using the cache, be it again, uses no other. -/
theorem OnlyFor.touch {name : String} {t : Transaction ρ} (h : t.OnlyFor name) (ref : ρ) :
    (t.touch name ref).OnlyFor name := by
  refine ⟨Table.nodup_insertNew h.nodup _ _, ?_⟩
  intro n hn
  rw [Transaction.touch, Table.keys_insertNew] at hn
  split at hn
  · exact h.named n hn
  · rcases List.mem_append.mp hn with hn | hn
    · exact h.named n hn
    · exact List.mem_singleton.mp hn

/-- Changing staged work uses no further cache. -/
theorem OnlyFor.modify {name : String} {t : Transaction ρ} (h : t.OnlyFor name)
    (f : Buffer ρ → Buffer ρ) : OnlyFor name ⟨t.buffers.modify name f⟩ := by
  constructor
  · rw [Table.keys_modify]
    exact h.nodup
  · rw [Table.keys_modify]
    exact h.named

/-- The staged work on a cache that has been used changes as told. -/
theorem pendingFor_modify (t : Transaction ρ) (name : String) (ref : ρ)
    (f : Buffer ρ → Buffer ρ) :
    ∃ b, b.pending = t.pendingFor name ∧
      pendingFor ⟨(t.touch name ref).buffers.modify name f⟩ name = (f b).pending := by
  have hb : (t.touch name ref).buffers.get? name =
      some ((t.buffers.get? name).getD { target := ref }) := by
    rw [Transaction.touch, Table.get?_insertNew, if_pos rfl]
  refine ⟨(t.buffers.get? name).getD { target := ref }, ?_, ?_⟩
  · rw [← pendingFor_touch t name name ref, pendingFor, hb]
    rfl
  · rw [pendingFor, Table.get?_modify, if_pos rfl, hb]
    rfl

/-- Staging changes the staged work as told. -/
theorem pendingFor_stage (t : Transaction ρ) (name : String) (ref : ρ) (f : Pending → Pending) :
    (t.stage name ref f).pendingFor name = f (t.pendingFor name) := by
  obtain ⟨b, hb, hp⟩ := pendingFor_modify t name ref fun b => { b with pending := f b.pending }
  exact hp.trans (congrArg f hb)

theorem OnlyFor.stage {name : String} {t : Transaction ρ} (h : t.OnlyFor name) (ref : ρ)
    (f : Pending → Pending) : (t.stage name ref f).OnlyFor name :=
  (h.touch ref).modify _

/-- Nothing was staged on the cache, and no other cache was used. -/
structure SameWork (name : String) (t t' : Transaction ρ) : Prop where
  only : t'.OnlyFor name
  writes : (t'.pendingFor name).writes = (t.pendingFor name).writes
  clearFirst : (t'.pendingFor name).clearFirst = (t.pendingFor name).clearFirst

theorem SameWork.trans {name : String} {t t' t'' : Transaction ρ} (h : SameWork name t t')
    (h' : SameWork name t' t'') : SameWork name t t'' :=
  ⟨h'.only, h'.writes.trans h.writes, h'.clearFirst.trans h.clearFirst⟩

/-- The targets of a transaction over one cache have its name. -/
theorem OnlyFor.targets {name : String} {t : Transaction ρ} (h : t.OnlyFor name) :
    (t.targets.map Prod.fst).Nodup ∧ ∀ e ∈ t.targets, e.1 = name := by
  constructor
  · rw [Transaction.targets, List.map_map]
    exact h.nodup
  · intro e he
    obtain ⟨b, hb, rfl⟩ := List.mem_map.mp he
    exact h.named _ (List.mem_map_of_mem hb)

/-- Staged work that is put back is there, unless the cache had not been used. -/
theorem pendingFor_place_self (n : String) (t : Over (Transaction ρ) σ) (i : Over Pending σ) :
    ((part n).place i t).own.pendingFor n = i.own ∨
      (t.own.pendingFor n = {} ∧ ((part n).place i t).own.pendingFor n = {}) := by
  simp only [part, pendingFor, Table.get?_modify, if_true]
  cases t.own.buffers.get? n with
  | none => exact .inr ⟨rfl, rfl⟩
  | some b => exact .inl rfl

/-- Putting back staged work without a new write or clear is no work, whichever cache it
is for. -/
private theorem sameWork_place {name : String} (n : String) {t : Over (Transaction ρ) σ}
    (ht : t.own.OnlyFor name) {i : Over Pending σ}
    (hw : i.own.writes = (t.own.pendingFor n).writes)
    (hc : i.own.clearFirst = (t.own.pendingFor n).clearFirst) :
    SameWork name t.own ((part n).place i t).own := by
  have honly : ((part n).place i t).own.OnlyFor name := by
    constructor
    · rw [part, Table.keys_modify]
      exact ht.nodup
    · rw [part, Table.keys_modify]
      exact ht.named
  by_cases hn : n = name
  · subst hn
    rcases pendingFor_place_self n t i with hput | ⟨hnone, hput⟩
    · exact ⟨honly, by rw [hput, hw], by rw [hput, hc]⟩
    · exact ⟨honly, by rw [hput, hnone], by rw [hput, hnone]⟩
  · refine ⟨honly, ?_, ?_⟩
    · rw [pendingFor_place hn]
    · rw [pendingFor_place hn]

/-- A lookup does to the shared caches what the lookup there does, and stages no write and no
clear. -/
theorem get_each {S : σ → σ → Prop} {L : σ → Except CacheFailure (Option Entry) → σ → Prop}
    (shared : ρ → Cache σ) {k : Key} (h : ∀ ref c s, ((shared ref).get c k s).Each S L s)
    (c : Caller) (ref : ρ) (s : Over (Transaction ρ) σ) (name : String) :
    (get shared c ref k s).Each
      (fun s s' => ((shared ref).id s.inner = name → s.own.OnlyFor name →
        SameWork name s.own s'.own) ∧ S s.inner s'.inner)
      (fun s _ s' => ((shared ref).id s.inner = name → s.own.OnlyFor name →
        SameWork name s.own s'.own) ∧ ∃ a, L s.inner a s'.inner) s := by
  have hpart (n : String) (t : Over (Transaction ρ) σ) (target : ρ) :
      ((part n).run c t fun c i => Pending.get (shared target) c k i).Each
      (fun s s' => (s.own.OnlyFor name → SameWork name s.own s'.own) ∧ S s.inner s'.inner)
      (fun s _ s' => (s.own.OnlyFor name → SameWork name s.own s'.own) ∧
        ∃ a, L s.inner a s'.inner) t := by
    refine Run.Each.within (p := part n) (Pending.get_each (h _) _ _) ?_ ?_
    · rintro t i ⟨hown, hs⟩
      exact ⟨fun ht => sameWork_place n ht (by rw [hown]; rfl) (by rw [hown]; rfl), hs⟩
    · rintro t v i ⟨a, hl, hown, _⟩
      have hkept := Pending.learn_kept (t.own.pendingFor n) k a
      exact ⟨fun ht => sameWork_place n ht (by rw [hown]; exact hkept.1)
        (by rw [hown]; exact hkept.2), a, hl⟩
  have hbegin (hid : (shared ref).id s.inner = name) (ho : s.own.OnlyFor name) :
      SameWork name s.own (s.own.touch ((shared ref).id s.inner) ref) := by
    subst hid
    exact ⟨ho.touch ref, by rw [pendingFor_touch], by rw [pendingFor_touch]⟩
  refine ((hpart _ { s with own := s.own.touch ((shared ref).id s.inner) ref } _).mono
    ?_ ?_).start ?_ ?_
  · exact fun s s' hs => ⟨fun _ ho => hs.1 ho, hs.2⟩
  · exact fun s v s' hl => ⟨fun _ ho => hl.1 ho, hl.2⟩
  · intro s' hs
    exact ⟨fun hid ho => (hbegin hid ho).trans (hs.1 hid (hbegin hid ho).only), hs.2⟩
  · intro v s' hl
    exact ⟨fun hid ho => (hbegin hid ho).trans (hl.1 hid (hbegin hid ho).only), hl.2⟩

/-- A commit makes the calls of the staged work on the one cache. -/
theorem OnlyFor.commit_journal {name : String} (mark : ρ → π) (shared : ρ → Cache σ)
    {s : Over (Transaction ρ) (Over (Journal π) σ)} (h : s.own.OnlyFor name) (c : Caller) :
    ∃ j : Journal π,
      (commitAll (Journal.caches mark shared) c s).state.inner.own = s.inner.own ++ j ∧
      (∀ x ∈ j, (∃ ref, x.target = mark ref) ∧
        ∃ step ∈ (s.own.pendingFor name).steps, x.call = step.call) ∧
      ∀ step ∈ (s.own.pendingFor name).steps, ∃ x ∈ j, x.call = step.call := by
  obtain ⟨j, hj, hc, _⟩ := commitEach_journal mark shared c s.own.targets h.targets.1 s
  refine ⟨j, hj, ?_, ?_⟩
  · intro x hx
    have hmem : (x.target, x.call) ∈ j.calls := List.mem_map_of_mem hx
    rw [hc, List.mem_flatMap] at hmem
    obtain ⟨e, he, hmem⟩ := hmem
    obtain ⟨step, hstep, heq⟩ := List.mem_map.mp hmem
    injection heq with htarget hcall
    rw [h.targets.2 e he] at hstep
    exact ⟨⟨e.2, htarget.symm⟩, step, hstep, hcall.symm⟩
  · intro step hstep
    cases hb : s.own.buffers.get? name with
    | none =>
      rw [pendingFor, hb] at hstep
      exact absurd hstep List.not_mem_nil
    | some b =>
      have he : (name, b.target) ∈ s.own.targets :=
        List.mem_map.mpr ⟨(name, b), Table.mem_entries_of_get? hb, rfl⟩
      have hmem : (mark b.target, step.call) ∈ j.calls := by
        rw [hc, List.mem_flatMap]
        exact ⟨_, he, List.mem_map_of_mem hstep⟩
      obtain ⟨x, hx, heq⟩ := List.mem_map.mp hmem
      injection heq with _ hcall
      exact ⟨x, hx, hcall⟩

/-- A rollback makes nothing but removals. -/
theorem OnlyFor.rollback_journal {name : String} (mark : ρ → π) (shared : ρ → Cache σ)
    {s : Over (Transaction ρ) (Over (Journal π) σ)} (h : s.own.OnlyFor name) (c : Caller) :
    ∃ j : Journal π,
      (rollbackAll (Journal.caches mark shared) c s).state.inner.own = s.inner.own ++ j ∧
      ∀ x ∈ j, (∃ ref, x.target = mark ref) ∧ ∃ k, x.call = .remove k := by
  obtain ⟨j, hj, hc⟩ := rollbackEach_journal mark shared c s.own.targets h.targets.1 s
  refine ⟨j, hj, fun x hx => ?_⟩
  have hmem : (x.target, x.call) ∈ j.calls := List.mem_map_of_mem hx
  rw [hc, List.mem_flatMap] at hmem
  obtain ⟨e, he, hmem⟩ := hmem
  obtain ⟨k, _, heq⟩ := List.mem_map.mp hmem
  injection heq with htarget hcall
  exact ⟨⟨e.2, htarget.symm⟩, k, hcall.symm⟩

end Transaction

end QueryCache
