import QueryCache.Proofs.Session.Descent
import QueryCache.Proofs.Stack.Built

/-!
# Rows after a committed update

Sessions take turns over one stack. Once a session has committed an update, a lookup in the
stack answers rows from before the update only if another session had staged them before
the update as well and has written them back by its own later commit.
-/

namespace QueryCache

deriving instance DecidableEq for Call, Record

variable {ι κ : Type} [DecidableEq ι] {ls : List Layer} {name : String} (u : Customs κ)

/-- Each stretch of an errand is one of the session's own work. -/
theorem Errand.goes (hl : .probe ∉ ls) (i : ι) (c : Caller) (s : Stage ι κ ls)
    (errand : Errand κ) :
    (errand.run u i c s).Each (Stage.Goes name i) (fun s _ s' => Stage.Goes name i s s') s := by
  have h := Stage.allows_goes name u hl i
  cases errand with
  | query r runner =>
    refine Run.Each.mapReply (h.query ?_ (h.refl s) r c) fun _ _ hr => hr
    intro c' s₀ s' hs
    exact h.converse _ (Talk.obeys_counted i _ _) c' hs rfl
  | update st runner =>
    exact h.update _ (fun z => Counted.step_own i z _) st s
  | act a =>
    exact h.perform a c (Counted.step_heed i a s.client s.client.own)

namespace Hall

/-- Every scene is orderly, and errands that wait go on as sessions do. -/
structure Kept (name : String) (h : Hall ι κ ls) : Prop where
  orderly : ∀ i, (h.scene i).Orderly name
  waiting : ∀ i run, h.waiting i = some run → ∃ s,
    run.Each (Stage.Goes name i) (fun s _ s' => Stage.Goes name i s s') s

/-- From one state to a later one every session has only gone on with its own work. -/
def Since (name : String) (h h' : Hall ι κ ls) : Prop :=
  ∃ new, ∀ i, Stage.Proceeds name i new (h.scene i) (h'.scene i)

omit [DecidableEq ι] in
theorem Since.refl (name : String) (h : Hall ι κ ls) : Since name h h :=
  ⟨[], fun i => Stage.Proceeds.refl name i (h.scene i)⟩

omit [DecidableEq ι] in
theorem Since.trans {h h' h'' : Hall ι κ ls} (a : Since name h h') (b : Since name h' h'') :
    Since name h h'' := by
  obtain ⟨new, ha⟩ := a
  obtain ⟨new', hb⟩ := b
  exact ⟨new ++ new', fun i => (ha i).trans (hb i)⟩

theorem scene_settle_self (h : Hall ι κ ls) (i : ι) (run : Run (Stage ι κ ls) Unit) :
    (h.settle i run).scene i = run.state := by
  rw [scene, settle]
  dsimp only
  rw [Function.update_self]

theorem scene_settle_of_ne (h : Hall ι κ ls) {i j : ι} (hj : j ≠ i)
    (run : Run (Stage ι κ ls) Unit) :
    (h.settle i run).scene j = ⟨h.sessions j, run.state.shared, run.state.client⟩ := by
  rw [scene, settle]
  dsimp only
  rw [Function.update_of_ne hj]

/-- A stretch of one session's work is a step of the whole. -/
theorem settle_kept {h : Hall ι κ ls} (hk : h.Kept name) {i : ι} {run : Run (Stage ι κ ls) Unit}
    (hrun : run.Each (Stage.Goes name i) (fun s _ s' => Stage.Goes name i s s') (h.scene i)) :
    (h.settle i run).Kept name ∧ Since name h (h.settle i run) := by
  obtain ⟨ho, new, htargets, hp⟩ := hrun.first.proceeds (hk.orderly i)
  refine ⟨⟨?_, ?_⟩, new, ?_⟩
  · intro j
    by_cases hj : j = i
    · subst hj
      rw [scene_settle_self]
      exact ho
    · rw [scene_settle_of_ne h hj]
      exact ⟨ho.accounts, (hk.orderly j).only, (hk.orderly j).closed⟩
  · intro j run' hw
    by_cases hj : j = i
    · subst hj
      rw [settle] at hw
      dsimp only at hw
      rw [Function.update_self] at hw
      split at hw
      · exact nomatch hw
      · injection hw with hw
        exact ⟨h.scene j, hw ▸ hrun⟩
    · rw [settle] at hw
      dsimp only at hw
      rw [Function.update_of_ne hj] at hw
      exact hk.waiting j run' hw
  · intro j
    by_cases hj : j = i
    · subst hj
      rw [scene_settle_self]
      exact hp
    · rw [scene_settle_of_ne h hj]
      refine ⟨rfl, hp.answered, hp.withdrawn, hp.journal, fun _ _ he => .inl he, ?_, .inl⟩
      intro x hx htarget
      exact absurd (htarget.symm.trans (htargets x hx)) hj

/-- One turn. -/
theorem turn_kept (hl : .probe ∉ ls) {h : Hall ι κ ls} (hk : h.Kept name) (t : Turn ι κ) :
    (h.turn u t).Kept name ∧ Since name h (h.turn u t) := by
  have idle : h.Kept name ∧ Since name h h := ⟨hk, Since.refl name h⟩
  cases t with
  | start i c errand =>
    unfold turn
    dsimp only
    split
    · exact idle
    · exact settle_kept hk (errand.goes u hl i c (h.scene i))
  | resume i c =>
    unfold turn
    dsimp only
    split
    · next d s n ready resume hw =>
      split
      · next come =>
        obtain ⟨s₀, _, hrest⟩ := hk.waiting i _ hw
        exact settle_kept hk (hrest c (h.scene i) come)
      · exact idle
    · exact idle

/-- Any number of turns. -/
theorem run_kept (hl : .probe ∉ ls) {h : Hall ι κ ls} (hk : h.Kept name)
    (turns : List (Turn ι κ)) :
    (h.run u turns).Kept name ∧ Since name h (h.run u turns) := by
  induction turns generalizing h with
  | nil => exact ⟨hk, Since.refl name h⟩
  | cons t rest ih =>
    obtain ⟨hk', hs⟩ := turn_kept u hl hk t
    obtain ⟨hk'', hs'⟩ := ih hk'
    exact ⟨hk'', hs.trans hs'⟩

omit [DecidableEq ι] in
/-- New sessions over the stack of a profile. -/
theorem kept_opened (p : Profile) (name : String) (settings : ι → SessionSettings) (own : κ) :
    (opened settings (p.build name).state own : Hall ι κ _).Kept name where
  orderly i :=
    { accounts := by
        refine ⟨p.id_build name, ?_, ?_⟩
        · exact fun k r hr => absurd hr (p.not_has_build name k r)
        · exact fun q x rest k e r hj => nomatch (List.append_eq_nil_iff.mp hj.symm).2
      only := Transaction.onlyFor_empty name
      closed := fun hc => nomatch hc }
  waiting i run hw := nomatch hw

/-! ### Committed updates -/

/-- An errand that is begun gets as far as its first wait. -/
theorem scene_start {h : Hall ι κ ls} {i : ι} (hidle : h.waiting i = none) (c : Caller)
    (errand : Errand κ) :
    (h.turn u (.start i c errand)).scene i = (errand.run u i c (h.scene i)).state := by
  simp only [turn, hidle]
  exact scene_settle_self h i _

/-- An update of a flushing statement drops what its session has staged and stages a clear. -/
theorem work_update {h : Hall ι κ ls} (hk : h.Kept name) {i : ι} (hidle : h.waiting i = none)
    (hopen : (h.sessions i).closed = false) (hon : (h.sessions i).settings.cacheEnabled = true)
    {st : Statement Unit} (hst : st.flush = true ∧ st.cache = some ()) (c : Caller)
    (runner : κ → Except Failure Nat × κ) :
    ((h.turn u (.start i c (.update st runner))).scene i).work name =
      ((h.scene i).work name).stageClear := by
  have hsession : (h.scene i).session.closed = false := hopen
  have hflush : ((h.scene i).session.settings.cacheEnabled && st.flush) = true := by
    rw [hst.1, Bool.and_true]
    exact hon
  rw [scene_start u hidle, Stage.work]
  simp only [Errand.run, Run.state, Reply.map, Scene.update, Scene.flush, hsession, hflush, hst.2,
    if_true, Bool.false_eq_true, if_false, Scene.onSession]
  rw [Session.staged_clearMemo]
  have hstage := Transaction.pendingFor_stage (h.scene i).session.staged name () (·.stageClear)
  rw [← (hk.orderly i).accounts.named] at hstage ⊢
  exact hstage

/-- After a commit, or the end of a session that commits, no clear is staged, and nothing
has been withdrawn. -/
theorem clearFirst_ended {h : Hall ι κ ls} (hk : h.Kept name) {i : ι}
    (hidle : h.waiting i = none) {last : Act} (hlast : last = .commit ∨ last = .close false)
    (c : Caller) :
    (((h.turn u (.start i c (.act last))).scene i).work name).clearFirst = false ∧
      ((h.turn u (.start i c (.act last))).scene i).client.withdrawn = h.client.withdrawn := by
  have hclosed := (hk.orderly i).closed
  rw [scene_start u hidle]
  rcases hlast with rfl | rfl
  · simp only [Errand.run, Run.state, Reply.map, Scene.perform, Scene.commit]
    split
    · next hc => exact ⟨hclosed hc, rfl⟩
    · exact ⟨rfl, rfl⟩
  · simp only [Errand.run, Run.state, Reply.map, Scene.perform, Scene.close]
    split
    · next hc => exact ⟨hclosed hc, rfl⟩
    · exact ⟨rfl, rfl⟩

omit [DecidableEq ι] in
/-- A staged clear that is not staged any more, and was not withdrawn, was made. -/
theorem Since.clear_made {h h' : Hall ι κ ls} (hs : Since name h h') {i : ι}
    (hbefore : ((h.scene i).work name).clearFirst = true)
    (hafter : ((h'.scene i).work name).clearFirst = false)
    (hw : h'.client.withdrawn i = h.client.withdrawn i) :
    ∃ upto x rest, h'.shared.own = h.shared.own ++ upto ++ x :: rest ∧ x.target = i ∧
      x.call = .clear := by
  obtain ⟨new, hs⟩ := hs
  rcases (hs i).cleared hbefore with hc | hw' | ⟨x, hx, hmade⟩
  · exact nomatch hafter.symm.trans hc
  · exact absurd hw (Nat.ne_of_gt hw')
  · obtain ⟨upto, rest, rfl⟩ := List.append_of_mem hx
    refine ⟨upto, x, rest, ?_, hmade⟩
    rw [List.append_assoc]
    exact (hs i).journal

omit [DecidableEq ι] in
/-- Rows that the stack answers after a clear were staged in the beginning, by the session
that wrote them after the clear, or are newer than that. -/
theorem Since.rows_after_clear {h h' : Hall ι κ ls} (hs : Since name h h') (hk : h'.Kept name)
    {upto later more : Journal ι} {x y : Record ι} {k : Key} {e : Entry} {r : RowList}
    (hj : h'.shared.own = h.shared.own ++ upto ++ x :: (later ++ y :: more))
    (hx : x.call = .clear) (hy : y.call = .get k) (ha : y.answer = .ok (some e))
    (he : e.list? = some r) :
    h.client.answered ≤ r.id ∨
      ∃ z ∈ later, ∃ e', z.call = .put k e' ∧ e'.list? = some r ∧
        (k, e') ∈ ((h.scene z.target).work name).writes.entries := by
  obtain ⟨new, hs⟩ := hs
  have hstands : Journal.Stands (h.shared.own ++ upto ++ x :: later) k r := by
    refine (hk.orderly x.target).accounts.truthful _ y more k e r ?_ hy ha he
    rw [List.append_assoc _ (x :: later), List.cons_append]
    exact hj
  obtain ⟨z, hz, e', hput, he'⟩ := hstands.after_clear hx
  have hnew : z ∈ new := by
    have heq : h.shared.own ++ new =
        h.shared.own ++ (upto ++ x :: (later ++ y :: more)) := by
      rw [← List.append_assoc, ← hj]
      exact ((hs z.target).journal).symm
    rw [List.append_cancel_left heq]
    exact List.mem_append_right _ (List.mem_cons_of_mem _ (List.mem_append_left _ hz))
  rcases (hs z.target).written z hnew rfl k e' hput with hold | hfresh
  · exact .inr ⟨z, hz, e', hput, he', hold⟩
  · exact .inl (hfresh r he')

/-- Once a session has committed an update, rows that the stack answers were answered by a
runner after the update, unless another session had staged them before it and wrote them
after the commit. -/
theorem committed_update_freshens (p : Profile) (name : String)
    (settings : ι → SessionSettings) (own : κ) (before between after : List (Turn ι κ)) (i : ι)
    (c c' : Caller) (st : Statement Unit) (runner : κ → Except Failure Nat × κ) (last : Act)
    (hst : st.flush = true ∧ st.cache = some ()) (hon : (settings i).cacheEnabled = true)
    (hlast : last = .commit ∨ last = .close false) :
    let h₀ : Hall ι κ _ := (opened settings (p.build name).state own).run u before
    let h₁ := h₀.turn u (.start i c (.update st runner))
    let h₂ := h₁.run u between
    let h₃ := h₂.turn u (.start i c' (.act last))
    let h₄ := h₃.run u after
    h₀.waiting i = none → (h₀.sessions i).closed = false → h₂.waiting i = none →
    h₂.client.withdrawn i = h₁.client.withdrawn i →
    ∃ upto x rest, h₃.shared.own = h₁.shared.own ++ upto ++ x :: rest ∧
      x.target = i ∧ x.call = .clear ∧
      ∀ later y more k e r,
        h₄.shared.own = h₁.shared.own ++ upto ++ x :: (later ++ y :: more) →
        y.call = .get k → y.answer = .ok (some e) → e.list? = some r →
        h₁.client.answered ≤ r.id ∨
        ∃ z ∈ later, z.target ≠ i ∧ ∃ e', z.call = .put k e' ∧ e'.list? = some r ∧
          (k, e') ∈ ((h₁.scene z.target).work name).writes.entries := by
  intro h₀ h₁ h₂ h₃ h₄ hidle₀ hopen hidle₂ hw
  have hl := p.no_probe name
  obtain ⟨hk₀, new, hs₀⟩ :
      h₀.Kept name ∧ Since name (opened settings (p.build name).state own) h₀ :=
    run_kept u hl (kept_opened p name settings own) before
  obtain ⟨hk₁, _⟩ : h₁.Kept name ∧ Since name h₀ h₁ := turn_kept u hl hk₀ _
  obtain ⟨hk₂, hs₂⟩ : h₂.Kept name ∧ Since name h₁ h₂ := run_kept u hl hk₁ between
  obtain ⟨hk₃, hs₃⟩ : h₃.Kept name ∧ Since name h₂ h₃ := turn_kept u hl hk₂ _
  obtain ⟨hk₄, hs₄⟩ : h₄.Kept name ∧ Since name h₃ h₄ := run_kept u hl hk₃ after
  have hon₀ : (h₀.sessions i).settings.cacheEnabled = true :=
    (congrArg SessionSettings.cacheEnabled (hs₀ i).settings).trans hon
  have hwork : (h₁.scene i).work name = ((h₀.scene i).work name).stageClear :=
    work_update u hk₀ hidle₀ hopen hon₀ hst c runner
  obtain ⟨hended, hsame⟩ := clearFirst_ended u hk₂ hidle₂ hlast c'
  obtain ⟨upto, x, rest, hj, htarget, hx⟩ := (hs₂.trans hs₃).clear_made
    (congrArg Pending.clearFirst hwork) hended ((congrFun hsame i).trans hw)
  refine ⟨upto, x, rest, hj, htarget, hx, ?_⟩
  intro later y more k e r hj' hy ha he
  rcases ((hs₂.trans hs₃).trans hs₄).rows_after_clear hk₄ hj' hx hy ha he with hnew | hold
  · exact .inl hnew
  · obtain ⟨z, hz, e', hput, he', hstaged⟩ := hold
    refine .inr ⟨z, hz, ?_, e', hput, he', hstaged⟩
    intro heq
    rw [heq, hwork] at hstaged
    exact absurd hstaged List.not_mem_nil

/-! ### Three sessions -/

/-- Runners that keep nothing, over whose client no rows are delivered. -/
def plain : Customs Unit := ⟨fun _ _ x => x, fun _ _ => false⟩

/-- A query that goes through the stack. -/
def names : Request Unit :=
  { statement := { (Statement.ofCommand "names" .select : Statement Unit) with cache := some () } }

/-- A statement that changes what the query reads. -/
def rename : Statement Unit :=
  { (Statement.ofCommand "rename" .update : Statement Unit) with cache := some () }

/-- A session reads the names. -/
def reads (i : Fin 3) : Turn (Fin 3) Unit :=
  .start i {} (.query names fun _ => .finish (.ok ⟨⟨0, []⟩, none⟩) ())

/-- A session changes the names. -/
def renames (i : Fin 3) : Turn (Fin 3) Unit := .start i {} (.update rename fun _ => (.ok 1, ()))

/-- A session commits. -/
def commits (i : Fin 3) : Turn (Fin 3) Unit := .start i {} (.act .commit)

/-- Three sessions over one stack. -/
def three : Hall (Fin 3) Unit (Profile.build {} "users").layers :=
  opened (fun _ => {}) (Profile.build {} "users").state ()

/-- One session reads before an update is made and again before it is committed, and another
one reads afterwards. -/
theorem committed_update_freshens_three :
    let h₀ := three.run plain [reads 0]
    let h₁ := h₀.turn plain (renames 1)
    let h₂ := h₁.run plain [reads 0]
    let h₃ := h₂.turn plain (commits 1)
    let h₄ := h₃.run plain [reads 2]
    h₀.waiting 1 = none ∧ (h₀.sessions 1).closed = false ∧ h₂.waiting 1 = none ∧
      h₂.client.withdrawn 1 = h₁.client.withdrawn 1 ∧
      ∃ upto x rest, h₃.shared.own = h₁.shared.own ++ upto ++ x :: rest ∧
        x.target = 1 ∧ x.call = .clear ∧
        ∀ later y more k e r,
          h₄.shared.own = h₁.shared.own ++ upto ++ x :: (later ++ y :: more) →
          y.call = .get k → y.answer = .ok (some e) → e.list? = some r →
          h₁.client.answered ≤ r.id ∨
          ∃ z ∈ later, z.target ≠ 1 ∧ ∃ e', z.call = .put k e' ∧ e'.list? = some r ∧
            (k, e') ∈ ((h₁.scene z.target).work "users").writes.entries := by
  have hidle : (three.run plain [reads 0]).waiting 1 = none := by decide +kernel
  have hfresh := committed_update_freshens plain {} "users" (fun _ => {}) () [reads 0] [reads 0]
    [reads 2] 1 {} {} rename (fun _ => (.ok 1, ())) .commit ⟨rfl, rfl⟩ rfl (.inl rfl) hidle
    (by decide +kernel) (by decide +kernel) (by decide +kernel)
  exact ⟨hidle, by decide +kernel, by decide +kernel, by decide +kernel, hfresh⟩

/-- One session stages rows, another one commits an update, and then the first one commits:
a session that has done nothing so far is answered the rows from before the update. -/
theorem committed_update_outdated :
    let committed := three.run plain [reads 0, renames 1, commits 1]
    let later := committed.run plain [commits 0, reads 2]
    (three.run plain [reads 0]).client.answered = 1 ∧ (committed.sessions 2).staged.size = 0 ∧
      later.shared.own.getLast? =
        some ⟨2, .get (names.statement.key {} {} none), .ok (some (.rows ⟨0, []⟩))⟩ := by
  exact ⟨by decide +kernel, by decide +kernel, by decide +kernel⟩

end Hall

end QueryCache
