import QueryCache.Proofs.Session.Hall
import QueryCache.Proofs.Stack.History
import QueryCache.Proofs.Staging.Solo

/-!
# Where staged and written rows come from

In every stretch of a session's work the rows it stages, and those it writes to the shared
stack, were staged before or have a number that had not been given yet; and a staged clear
stays staged until it is made or withdrawn. `goes` says so of everything a session does.
-/

namespace QueryCache

/-- The entry is staged under the key, or its rows have numbers from the given one on. -/
def Pending.Stems (p : Pending) (n : Nat) (k : Key) (e : Entry) : Prop :=
  (k, e) ∈ p.writes.entries ∨ ∀ r, e.list? = some r → n ≤ r.id

variable {ι κ : Type} {ls : List Layer} {name : String}

namespace Stage

/-- What the session of a scene has staged for the shared stack. -/
def work (name : String) (s : Stage ι κ ls) : Pending := s.session.staged.pendingFor name

/-- The journal accounts for the stack, and the session stages for nothing else. A closed
session has no clear staged. -/
structure Orderly (name : String) (s : Stage ι κ ls) : Prop where
  accounts : Journal.Accounts (Stack.cache ls) (Stack.has ls) name s.shared
  only : s.session.staged.OnlyFor name
  closed : s.session.closed = true → (s.work name).clearFirst = false

/-- From one scene of a session to a later one the journal grows by `new`. What the session
staged and wrote meanwhile was staged before or is newer, and a staged clear is still
staged unless it was made or withdrawn. -/
structure Proceeds (name : String) (i : ι) (new : Journal ι) (s s' : Stage ι κ ls) : Prop where
  settings : s'.session.settings = s.session.settings
  answered : s.client.answered ≤ s'.client.answered
  withdrawn : ∀ j, s.client.withdrawn j ≤ s'.client.withdrawn j
  journal : s'.shared.own = s.shared.own ++ new
  staged : ∀ k e, (k, e) ∈ (s'.work name).writes.entries →
    (s.work name).Stems s.client.answered k e
  written : ∀ x ∈ new, x.target = i → ∀ k e, x.call = .put k e →
    (s.work name).Stems s.client.answered k e
  cleared : (s.work name).clearFirst = true → (s'.work name).clearFirst = true ∨
    s.client.withdrawn i < s'.client.withdrawn i ∨ ∃ x ∈ new, x.target = i ∧ x.call = .clear

/-- Nothing happens. -/
theorem Proceeds.refl (name : String) (i : ι) (s : Stage ι κ ls) : Proceeds name i [] s s :=
  ⟨rfl, Nat.le_refl _, fun _ => Nat.le_refl _, (List.append_nil _).symm, fun _ _ he => .inl he,
    nofun, .inl⟩

theorem Proceeds.trans {i : ι} {new new' : Journal ι} {s s' s'' : Stage ι κ ls}
    (h : Proceeds name i new s s') (h' : Proceeds name i new' s' s'') :
    Proceeds name i (new ++ new') s s'' := by
  have hstems {k : Key} {e : Entry} (hs : (s'.work name).Stems s'.client.answered k e) :
      (s.work name).Stems s.client.answered k e := by
    rcases hs with hs | hs
    · exact h.staged k e hs
    · exact .inr fun r hr => Nat.le_trans h.answered (hs r hr)
  refine ⟨h'.settings.trans h.settings, Nat.le_trans h.answered h'.answered,
    fun j => Nat.le_trans (h.withdrawn j) (h'.withdrawn j), ?_, ?_, ?_, ?_⟩
  · rw [h'.journal, h.journal, List.append_assoc]
  · exact fun k e he => hstems (h'.staged k e he)
  · intro x hx htarget k e hcall
    rcases List.mem_append.mp hx with hx | hx
    · exact h.written x hx htarget k e hcall
    · exact hstems (h'.written x hx htarget k e hcall)
  · intro hc
    rcases h.cleared hc with hc | hw | ⟨x, hx, hmade⟩
    · rcases h'.cleared hc with hc | hw | ⟨x, hx, hmade⟩
      · exact .inl hc
      · exact .inr (.inl (Nat.lt_of_le_of_lt (h.withdrawn i) hw))
      · exact .inr (.inr ⟨x, List.mem_append_right _ hx, hmade⟩)
    · exact .inr (.inl (Nat.lt_of_lt_of_le hw (h'.withdrawn i)))
    · exact .inr (.inr ⟨x, List.mem_append_left _ hx, hmade⟩)

/-- A stretch of a session's own work: numbers grow, and an orderly scene becomes an orderly
one by calls of this session alone. -/
structure Goes (name : String) (i : ι) (s s' : Stage ι κ ls) : Prop where
  answered : s.client.answered ≤ s'.client.answered
  proceeds : s.Orderly name → s'.Orderly name ∧
    ∃ new, (∀ x ∈ new, x.target = i) ∧ Proceeds name i new s s'

theorem Goes.trans {i : ι} {s s' s'' : Stage ι κ ls} (h : Goes name i s s')
    (h' : Goes name i s' s'') : Goes name i s s'' := by
  refine ⟨Nat.le_trans h.answered h'.answered, fun ho => ?_⟩
  obtain ⟨ho', new, hnew, hp⟩ := h.proceeds ho
  obtain ⟨ho'', new', hnew', hp'⟩ := h'.proceeds ho'
  refine ⟨ho'', new ++ new', ?_, hp.trans hp'⟩
  intro x hx
  rcases List.mem_append.mp hx with hx | hx
  · exact hnew x hx
  · exact hnew' x hx

/-- A change of neither the staged work nor the stack. -/
theorem goes_quiet {i : ι} {s s' : Stage ι κ ls} (hst : s'.session.staged = s.session.staged)
    (hset : s'.session.settings = s.session.settings)
    (hcl : s'.session.closed = s.session.closed) (hsh : s'.shared = s.shared)
    (ha : s.client.answered ≤ s'.client.answered)
    (hw : ∀ j, s.client.withdrawn j ≤ s'.client.withdrawn j) : Goes name i s s' := by
  have hwork : s'.work name = s.work name := by rw [work, work, hst]
  refine ⟨ha, fun ho => ⟨⟨hsh ▸ ho.accounts, hst ▸ ho.only, ?_⟩, [], nofun, hset, ha, hw, ?_, ?_,
    nofun, ?_⟩⟩
  · rw [hwork, hcl]
    exact ho.closed
  · rw [hsh, List.append_nil]
  · rw [hwork]
    exact fun k e he => .inl he
  · rw [hwork]
    exact .inl

/-- The end of a transaction: nothing is staged any more, and the calls of the end were made. -/
theorem goes_ended {i : ι} {s s' : Stage ι κ ls} (hst : s'.session.staged = .empty)
    (hset : s'.session.settings = s.session.settings)
    (ha : s.client.answered ≤ s'.client.answered)
    (hw : ∀ j, s.client.withdrawn j ≤ s'.client.withdrawn j)
    (hend : s.Orderly name →
      Journal.Accounts (Stack.cache ls) (Stack.has ls) name s'.shared ∧
      ∃ new, s'.shared.own = s.shared.own ++ new ∧ (∀ x ∈ new, x.target = i) ∧
        (∀ x ∈ new, ∀ k e, x.call = .put k e → (s.work name).Stems s.client.answered k e) ∧
        ((s.work name).clearFirst = true → s.client.withdrawn i < s'.client.withdrawn i ∨
          ∃ x ∈ new, x.call = .clear)) : Goes name i s s' := by
  refine ⟨ha, fun ho => ?_⟩
  obtain ⟨hacc, new, hj, htargets, hputs, hclear⟩ := hend ho
  have hwork : s'.work name = {} := by
    rw [work, hst]
    rfl
  refine ⟨⟨hacc, ?_, ?_⟩, new, htargets, hset, ha, hw, hj, ?_, ?_, ?_⟩
  · rw [hst]
    exact Transaction.onlyFor_empty name
  · rw [hwork]
    exact fun _ => rfl
  · rw [hwork]
    exact fun k e he => absurd he List.not_mem_nil
  · exact fun x hx _ k e hcall => hputs x hx k e hcall
  · intro hc
    rcases hclear hc with hw | ⟨x, hx, hcall⟩
    · exact .inr (.inl hw)
    · exact .inr (.inr ⟨x, hx, htargets x hx, hcall⟩)

/-- More work is staged. Its rows are new for the scene in which the stretch began. -/
theorem goes_staged {i : ι} {s s' t : Stage ι κ ls} (h : Goes name i s s') {ref : Unit}
    {f : Pending → Pending}
    (ht : t.shared = s'.shared ∧ t.client = s'.client ∧
      t.session.settings = s'.session.settings ∧ t.session.closed = s'.session.closed)
    (hst : t.session.staged =
      s'.session.staged.stage ((Stack.cache ls).id s'.shared.inner) ref f)
    (hwrites : ∀ p k e, (k, e) ∈ (f p).writes.entries → (k, e) ∈ p.writes.entries ∨
      ∀ r, e.list? = some r → s.client.answered ≤ r.id)
    (hclear : ∀ p : Pending, p.clearFirst = true → (f p).clearFirst = true)
    (hclosed : s'.session.closed = true → ∀ p, (f p).clearFirst = p.clearFirst) :
    Goes name i s t := by
  obtain ⟨hshared, hclient, hsettings, hopen⟩ := ht
  refine ⟨by rw [hclient]; exact h.answered, fun ho => ?_⟩
  obtain ⟨ho', new, htargets, hp⟩ := h.proceeds ho
  rw [ho'.accounts.named] at hst
  have hwork : t.work name = f (s'.work name) := by
    rw [work, hst]
    exact Transaction.pendingFor_stage _ _ _ _
  refine ⟨⟨hshared ▸ ho'.accounts, ?_, ?_⟩, new, htargets, ?_, ?_, ?_, ?_, ?_, hp.written, ?_⟩
  · rw [hst]
    exact ho'.only.stage ref f
  · rw [hopen, hwork]
    exact fun hc => (hclosed hc _).trans (ho'.closed hc)
  · rw [hsettings, hp.settings]
  · rw [hclient]
    exact hp.answered
  · rw [hclient]
    exact hp.withdrawn
  · rw [hshared, hp.journal]
  · rw [hwork]
    intro k e he
    rcases hwrites _ k e he with he | he
    · exact hp.staged k e he
    · exact .inr he
  · rw [hwork, hclient]
    intro hc
    exact (hp.cleared hc).imp_left (hclear _)

theorem Goes.refl (name : String) (i : ι) (s : Stage ι κ ls) : Goes name i s s :=
  goes_quiet rfl rfl rfl rfl (Nat.le_refl _) fun _ => Nat.le_refl _

section Deeds

variable (u : Customs κ) (i : ι)

/-- A clear is staged, and what was staged before is dropped. -/
theorem goes_clear (ref : Unit) (s : Stage ι κ ls) (hs : s.session.closed = false) :
    Goes name i s ((Scene.staging (u.setting ls i)).place (Transaction.clear
      (u.setting ls i).cache ref ((Scene.staging (u.setting ls i)).view s)) s) := by
  refine goes_staged (Goes.refl name i s) (f := (·.stageClear)) ⟨rfl, rfl, rfl, rfl⟩ rfl ?_ ?_ ?_
  · exact fun p k e he => absurd he List.not_mem_nil
  · exact fun _ _ => rfl
  · exact fun hc => absurd (hs.symm.trans hc) nofun

/-- Rows that are new for a scene are staged in a later one. -/
theorem goes_stageRows {s s' : Stage ι κ ls} (h : Goes name i s s') (ref : Unit) (k : Key)
    {list : RowList} (hnew : s.client.Fresh list) :
    Goes name i s (s'.stageRows (u.setting ls i) ref k list) := by
  refine goes_staged h (f := (·.stage k (.rows list))) ⟨rfl, rfl, rfl, rfl⟩ rfl ?_ ?_ ?_
  · intro p a e he
    refine (Table.mem_entries_insert he).imp_right ?_
    intro heq r hr
    injection heq with _ heq
    subst heq
    injection hr with hr
    exact hr ▸ hnew
  · exact fun _ hc => hc
  · exact fun _ _ => rfl

/-- A commit makes the staged calls. -/
theorem goes_commit (hl : .probe ∉ ls) (c : Caller) (s : Stage ι κ ls) :
    Goes name i s ((Scene.staging (u.setting ls i)).reply c s
      (Transaction.commitAll (u.setting ls i).cache)).state := by
  have hf := Stack.faithful ls hl
  refine goes_ended rfl rfl (Nat.le_refl _) (fun _ => Nat.le_refl _) fun ho => ⟨?_, ?_⟩
  · exact Transaction.commitEach_keeps (fun _ c k e _ hs => hs.put hf i c k e)
      (fun _ c _ hs => hs.clear hf i c) _ _ _ ho.accounts
  · obtain ⟨new, hj, hcalls, hmade⟩ := Transaction.OnlyFor.commit_journal (fun _ => i)
      (fun _ => Stack.cache ls) (s := ⟨s.session.staged, s.shared⟩) ho.only
      (c.holding ((Scene.staging (u.setting ls i)).held s))
    refine ⟨new, hj, ?_, ?_, ?_⟩
    · intro x hx
      obtain ⟨⟨_, htarget⟩, _⟩ := hcalls x hx
      exact htarget
    · intro x hx k e hcall
      obtain ⟨_, step, hstep, heq⟩ := hcalls x hx
      rcases Pending.staged_of_step hstep (heq.symm.trans hcall) with he | rfl
      · exact .inl he
      · exact .inr fun r hr => nomatch hr
    · intro hc
      obtain ⟨x, hx, hcall⟩ := hmade .clear (Pending.clear_mem_steps hc)
      exact .inr ⟨x, hx, hcall⟩

/-- A rollback makes nothing but removals, and what was staged is withdrawn. -/
theorem goes_withdraw (hl : .probe ∉ ls) (c : Caller) {s s' : Stage ι κ ls}
    (hst : s'.session.staged = s.session.staged)
    (hset : s'.session.settings = s.session.settings) (hsh : s'.shared = s.shared)
    (ha : s.client.answered ≤ s'.client.answered)
    (hw : ∀ j, s.client.withdrawn j ≤ s'.client.withdrawn j)
    (hwithdrawn : s.client.withdrawn i < s'.client.withdrawn i) :
    Goes name i s ((Scene.staging (u.setting ls i)).reply c s'
      (Transaction.rollbackAll (u.setting ls i).cache)).state := by
  have hf := Stack.faithful ls hl
  refine goes_ended rfl hset ha hw fun ho => ⟨?_, ?_⟩
  · have hacc : Journal.Accounts (Stack.cache ls) (Stack.has ls) name s'.shared :=
      hsh ▸ ho.accounts
    exact Transaction.rollbackEach_keeps (fun _ c k _ hs => hs.remove hf i c k) _ _ _ hacc
  · obtain ⟨new, hj, hcalls⟩ := Transaction.OnlyFor.rollback_journal (fun _ => i)
      (fun _ => Stack.cache ls) (s := ⟨s'.session.staged, s'.shared⟩) (hst ▸ ho.only)
      (c.holding ((Scene.staging (u.setting ls i)).held s'))
    refine ⟨new, hsh ▸ hj, ?_, ?_, fun _ => .inl hwithdrawn⟩
    · intro x hx
      obtain ⟨⟨_, htarget⟩, _⟩ := hcalls x hx
      exact htarget
    · intro x hx k e hcall
      obtain ⟨_, a, hremove⟩ := hcalls x hx
      exact nomatch hcall.symm.trans hremove

/-- A lookup calls for nothing but one lookup, and stages no rows. -/
theorem goes_lookup (hl : .probe ∉ ls) (c : Caller) (ref : Unit) (k : Key) (s : Stage ι κ ls) :
    ((Scene.staging (u.setting ls i)).run c s fun c t =>
      Transaction.get (u.setting ls i).cache c ref k t).Each (Goes name i)
      (fun s _ s' => Goes name i s s') s := by
  have hlooked {s : Stage ι κ ls} {t : Over (Transaction Unit) (Ledger ι ls)} {new : Journal ι}
      (hwork : (Stack.cache ls).id s.shared.inner = name → s.session.staged.OnlyFor name →
        s.session.staged.SameWork name t.own)
      (hacc : Journal.Accounts (Stack.cache ls) (Stack.has ls) name s.shared →
        Journal.Accounts (Stack.cache ls) (Stack.has ls) name t.inner)
      (hj : t.inner.own = s.shared.own ++ new)
      (hnew : ∀ x ∈ new, x.target = i ∧ x.call = .get k) :
      Goes name i s ((Scene.staging (u.setting ls i)).place t s) := by
    refine ⟨Nat.le_refl _, fun ho => ?_⟩
    have hsame := hwork ho.accounts.named ho.only
    refine ⟨⟨hacc ho.accounts, hsame.only, ?_⟩, new, fun x hx => (hnew x hx).1, rfl,
      Nat.le_refl _, fun _ => Nat.le_refl _, hj, ?_, ?_, ?_⟩
    · exact fun hc => hsame.clearFirst.trans (ho.closed hc)
    · intro a e he
      rw [work, Scene.staging, hsame.writes] at he
      exact .inl he
    · intro x hx _ a e hcall
      exact nomatch hcall.symm.trans (hnew x hx).2
    · exact fun hc => .inl (hsame.clearFirst.trans hc)
  have heach := Transaction.get_each (u.setting ls i).cache
    (fun _ c s => Journal.Accounts.get name (Stack.faithful ls hl) i c k s)
    (c.holding ((Scene.staging (u.setting ls i)).held s)) ref
    ((Scene.staging (u.setting ls i)).view s) name
  refine heach.within ?_ ?_
  · intro s t h
    have hj : t.inner.own = s.shared.own ++ [] := by
      rw [h.2.1, List.append_nil]
      rfl
    exact hlooked h.1 h.2.2 hj nofun
  · rintro s v t ⟨hwork, a, hj, hacc⟩
    refine hlooked hwork hacc hj ?_
    intro x hx
    rw [List.mem_singleton.mp hx]
    exact ⟨rfl, rfl⟩

end Deeds

/-- Whatever a session does is a stretch of this kind, as long as its runners count. -/
theorem allows_goes [DecidableEq ι] (name : String) (u : Customs κ) (hl : .probe ∉ ls) (i : ι) :
    Scene.Allows (u.setting ls i) (Counted.Step i) Counted.Fresh (Goes name i) where
  refl := Goes.refl name i
  trans := Goes.trans
  session s x hst hset hcl := goes_quiet hst hset hcl rfl (Nat.le_refl _) fun _ => Nat.le_refl _
  close s x hs hst hset := by
    refine goes_ended hst hset (Nat.le_refl _) (fun _ => Nat.le_refl _) fun ho => ?_
    refine ⟨ho.accounts, [], (List.append_nil _).symm, ?_, ?_, ?_⟩
    · exact fun x hx => absurd hx List.not_mem_nil
    · exact fun x hx => absurd hx List.not_mem_nil
    · rw [work, hs]
      exact fun hc => absurd hc nofun
  client h := goes_quiet rfl rfl rfl rfl h.answered h.withdrawn
  deliver label list s := goes_quiet rfl rfl rfl rfl (Nat.le_refl _) fun _ => Nat.le_refl _
  clear := goes_clear u i
  lookup c ref k s := goes_lookup u i hl c ref k s
  older h hf := Nat.le_trans h.answered hf
  stage h hf := goes_stageRows u i h _ _ hf
  commit := goes_commit u i hl
  withdraw hw hstep hst hset hcl hsh :=
    goes_withdraw u i hl _ hst hset hsh hstep.answered hstep.withdrawn (hstep.heeded _ rfl hw)

end Stage

end QueryCache
