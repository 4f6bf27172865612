import QueryCache.Proofs.Journal
import QueryCache.Proofs.Stack.Contents

/-!
# What a journal tells about the contents

Behind a journal, whatever a faithful cache has in it or answers was written since the last
clear that the journal shows.
-/

namespace QueryCache

namespace Journal

variable {π σ : Type}

/-- Rows were written under a key, and no clear has followed. -/
def Stands (j : Journal π) (k : Key) (r : RowList) : Prop :=
  ∃ p x e q, j = p ++ x :: q ∧ x.call = .put k e ∧ e.list? = some r ∧ ∀ y ∈ q, y.call ≠ .clear

/-- A call that clears nothing leaves the written rows standing. -/
theorem Stands.concat {j : Journal π} {k : Key} {r : RowList} (h : j.Stands k r) {y : Record π}
    (hy : y.call ≠ .clear) : Stands (j ++ [y]) k r := by
  obtain ⟨p, x, e, q, rfl, hx, he, hq⟩ := h
  refine ⟨p, x, e, q ++ [y], by rw [List.append_assoc, List.cons_append], hx, he, ?_⟩
  intro z hz
  rcases List.mem_append.mp hz with hz | hz
  · exact hq z hz
  · rw [List.mem_singleton.mp hz]
    exact hy

/-- Rows stand that have just been written. -/
theorem stands_put (j : Journal π) {k : Key} {e : Entry} {r : RowList} (he : e.list? = some r)
    {x : Record π} (hx : x.call = .put k e) : Stands (j ++ [x]) k r :=
  ⟨j, x, e, [], rfl, hx, he, fun _ hy => absurd hy List.not_mem_nil⟩

/-- Every answer with rows is one with rows that stood. -/
def Truthful (j : Journal π) : Prop :=
  ∀ p x q k e r, j = p ++ x :: q → x.call = .get k → x.answer = .ok (some e) →
    e.list? = some r → Stands p k r

theorem Truthful.concat {j : Journal π} (h : j.Truthful) {y : Record π}
    (hy : ∀ k e r, y.call = .get k → y.answer = .ok (some e) → e.list? = some r →
      j.Stands k r) : Truthful (j ++ [y]) := by
  intro p x q k e r hj hx ha he
  rcases List.eq_nil_or_concat q with rfl | ⟨q, z, rfl⟩
  · obtain ⟨rfl, hz⟩ := List.append_inj' hj rfl
    injection hz with hz
    subst hz
    exact hy k e r hx ha he
  · rw [List.concat_eq_append, ← List.cons_append, ← List.append_assoc] at hj
    obtain ⟨rfl, _⟩ := List.append_inj' hj rfl
    exact h p x q k e r rfl hx ha he

/-- Rows that stand after a clear were written after it. -/
theorem Stands.after_clear {before later : Journal π} {x : Record π} {k : Key} {r : RowList}
    (h : Stands (before ++ x :: later) k r) (hx : x.call = .clear) :
    ∃ z ∈ later, ∃ e, z.call = .put k e ∧ e.list? = some r := by
  obtain ⟨p, z, e, q, hj, hz, he, hq⟩ := h
  have hne : x ≠ z := fun heq => nomatch hx.symm.trans ((congrArg Record.call heq).trans hz)
  rcases List.append_eq_append_iff.mp hj with ⟨a, _, ha⟩ | ⟨b, _, hb⟩
  · cases a with
    | nil =>
      injection ha with hxz _
      exact absurd hxz hne
    | cons x' a =>
      injection ha with _ ha
      refine ⟨z, ?_, e, hz, he⟩
      rw [ha]
      exact List.mem_append_right _ List.mem_cons_self
  · cases b with
    | nil =>
      injection hb with hzx _
      exact absurd hzx.symm hne
    | cons z' b =>
      injection hb with _ hb
      have hmem : x ∈ q := hb ▸ List.mem_append_right _ List.mem_cons_self
      exact absurd hx (hq x hmem)

/-- A cache with a name, behind a journal that accounts for its contents and its answers. -/
structure Accounts (cache : Cache σ) (has : σ → Key → RowList → Prop) (name : String)
    (s : Over (Journal π) σ) : Prop where
  named : cache.id s.inner = name
  contents : ∀ k r, has s.inner k r → s.own.Stands k r
  truthful : s.own.Truthful

variable {inner : Cache σ} {has : σ → Key → RowList → Prop} {name : String}
  {s : Over (Journal π) σ} (h : Accounts inner has name s) (hf : inner.Faithful has)

include h hf

/-- A write is accounted for. -/
theorem Accounts.put (m : π) (c : Caller) (k : Key) (e : Entry) :
    Accounts inner has name ((Journal.cache m inner).put c k e s).state := by
  have hput := hf.put (c.holding (inside.held s)) k e s.inner
  refine ⟨hput.2.trans h.named, ?_, ?_⟩
  · intro a r hr
    rcases hput.1 a r hr with hr | ⟨rfl, he⟩
    · exact (h.contents a r hr).concat nofun
    · exact stands_put s.own he rfl
  · exact h.truthful.concat fun _ _ _ hget => nomatch hget

/-- A removal is accounted for. -/
theorem Accounts.remove (m : π) (c : Caller) (k : Key) :
    Accounts inner has name ((Journal.cache m inner).remove c k s).state := by
  have hremove := hf.remove (c.holding (inside.held s)) k s.inner
  refine ⟨hremove.2.trans h.named, ?_, ?_⟩
  · intro a r hr
    exact (h.contents a r (hremove.1 a r hr)).concat nofun
  · exact h.truthful.concat fun _ _ _ hget => nomatch hget

/-- A clear is accounted for. -/
theorem Accounts.clear (m : π) (c : Caller) :
    Accounts inner has name ((Journal.cache m inner).clear c s).state := by
  have hclear := hf.clear (c.holding (inside.held s)) s.inner
  refine ⟨hclear.2.trans h.named, ?_, ?_⟩
  · intro a r hr
    exact absurd hr (hclear.1 a r)
  · exact h.truthful.concat fun _ _ _ hget => nomatch hget

omit h

variable (name) in
/-- A lookup writes its answer down at its end, and everything stays accounted for. -/
theorem Accounts.get (m : π) (c : Caller) (k : Key) (s : Over (Journal π) σ) :
    ((Journal.cache m inner).get c k s).Each
      (fun s s' => s'.own = s.own ∧ (Accounts inner has name s → Accounts inner has name s'))
      (fun s v s' => s'.own = s.own ++ [⟨m, .get k, v⟩] ∧
        (Accounts inner has name s → Accounts inner has name s')) s := by
  have hplain : (inside.run c s fun c i => inner.get c k i).Each
      (fun s s' => s'.own = s.own ∧ inner.Shrinks has s.inner s'.inner)
      (fun s v s' => s'.own = s.own ∧ inner.Answers has k s.inner v s'.inner) s :=
    Run.Each.within (p := inside) (hf.get _ k s.inner) (fun _ _ hs => ⟨rfl, hs⟩)
      fun _ _ _ hl => ⟨rfl, hl⟩
  have hnoted : ((Journal.cache m inner).get c k s).Each
      (fun s s' => s'.own = s.own ∧ inner.Shrinks has s.inner s'.inner)
      (fun s v s' => s'.own = s.own ++ [⟨m, .get k, v⟩] ∧
        inner.Answers has k s.inner v s'.inner) s :=
    hplain.mapReply fun s r hr => ⟨congrArg (· ++ _) hr.1, hr.2⟩
  refine hnoted.mono ?_ ?_
  · rintro s s' ⟨hown, hs⟩
    refine ⟨hown, fun ha => ⟨hs.2.trans ha.named, ?_, ?_⟩⟩
    · intro a r hr
      rw [hown]
      exact ha.contents a r (hs.1 a r hr)
    · rw [hown]
      exact ha.truthful
  · rintro s v s' ⟨hown, hs, hv⟩
    refine ⟨hown, fun ha => ⟨hs.2.trans ha.named, ?_, ?_⟩⟩
    · intro a r hr
      rw [hown]
      exact (ha.contents a r (hs.1 a r hr)).concat nofun
    · rw [hown]
      refine ha.truthful.concat ?_
      intro a e r hget hans he
      injection hget with hget
      subst hget
      exact ha.contents k r (hs.1 k r (hv e r hans he))

end Journal

end QueryCache
