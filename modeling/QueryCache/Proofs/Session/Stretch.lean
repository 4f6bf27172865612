import QueryCache.Proofs.Run
import QueryCache.Session.Talk

/-!
# What a session does in each stretch

A relation between scenes that allows every single thing a session does to its staged work,
to the shared caches and to the client also holds of every stretch of a whole query, however
deep the runner's own queries go. Runners are described by how they treat the client: `Obeys`
says it of each node of a conversation.
-/

namespace QueryCache

/-- Whether an act drops staged work. -/
def Act.withdraws : Act → Bool
  | .rollback | .close true => true
  | _ => false

/-- Each step of a conversation changes the client as it may, before an act in a way that
may depend on the act, and the rows of its answer are fresh for the client at the end. -/
def Talk.Obeys {ρ τ : Type} (step : Option Act → τ → τ → Prop) (fresh : τ → RowList → Prop) :
    Talk ρ τ → τ → Prop
  | .finish answer y, x => step none x y ∧ ∀ out, answer = .ok out → fresh x out.rows
  | .query _ y runner next, x =>
    step none x y ∧ (∀ z, (runner z).Obeys step fresh z) ∧ ∀ o z, (next o z).Obeys step fresh z
  | .update _ y runner next, x =>
    step none x y ∧ (∀ z, step none z (runner z).2) ∧ ∀ a z, (next a z).Obeys step fresh z
  | .act a y next, x => step (some a) x y ∧ ∀ e z, (next e z).Obeys step fresh z
  | .look y next, x => step none x y ∧ ∀ w z, (next w z).Obeys step fresh z

/-- Forgetting the session's memory leaves the staged work alone. -/
theorem Session.staged_clearMemo {ρ : Type} (x : Session ρ) : x.clearMemo.staged = x.staged := by
  unfold Session.clearMemo
  split <;> rfl

/-- Forgetting the session's memory leaves the settings alone. -/
theorem Session.settings_clearMemo {ρ : Type} (x : Session ρ) :
    x.clearMemo.settings = x.settings := by
  unfold Session.clearMemo
  split <;> rfl

/-- Forgetting the session's memory closes nothing. -/
theorem Session.closed_clearMemo {ρ : Type} (x : Session ρ) : x.clearMemo.closed = x.closed := by
  unfold Session.clearMemo
  split <;> rfl

/-- Forgetting the session's memory ends no query. -/
theorem Session.depth_clearMemo {ρ : Type} (x : Session ρ) : x.clearMemo.depth = x.depth := by
  unfold Session.clearMemo
  split <;> rfl

namespace Scene

variable {ρ σ τ : Type}

/-- A relation between scenes that allows each thing a session does. -/
structure Allows (g : Setting ρ σ τ) (step : Option Act → τ → τ → Prop)
    (fresh : τ → RowList → Prop) (R : Scene ρ σ τ → Scene ρ σ τ → Prop) : Prop where
  refl : ∀ s, R s s
  trans : ∀ {s s' s''}, R s s' → R s' s'' → R s s''
  /-- The session may change its memory, its waiting loads and its depth. -/
  session : ∀ s x, x.staged = s.session.staged → x.settings = s.session.settings →
    x.closed = s.session.closed → R s { s with session := x }
  /-- The session may be closed once nothing is staged. -/
  close : ∀ s x, s.session.staged = .empty → x.staged = .empty →
    x.settings = s.session.settings → R s { s with session := x }
  client : ∀ {a? s y}, step a? s.client y → R s { s with client := y }
  deliver : ∀ label list s, R s { s with client := g.deliver label list s.client }
  clear : ∀ ref s, s.session.closed = false →
    R s ((staging g).place (Transaction.clear g.cache ref ((staging g).view s)) s)
  lookup : ∀ c ref k s, ((staging g).run c s fun c i => Transaction.get g.cache c ref k i).Each
    R (fun s _ s' => R s s') s
  older : ∀ {s s' list}, R s s' → fresh s'.client list → fresh s.client list
  /-- Rows that are fresh for a scene may be staged in a later one. -/
  stage : ∀ {s s' ref k list}, R s s' → fresh s.client list → R s (s'.stageRows g ref k list)
  commit : ∀ c s, R s ((staging g).reply c s (Transaction.commitAll g.cache)).state
  /-- Staged work may be dropped once the client has been told. -/
  withdraw : ∀ {a c s s'}, Act.withdraws a = true → step (some a) s.client s'.client →
    s'.session.staged = s.session.staged → s'.session.settings = s.session.settings →
    s'.session.closed = s.session.closed → s'.shared = s.shared →
    R s ((staging g).reply c s' (Transaction.rollbackAll g.cache)).state

namespace Allows

variable {g : Setting ρ σ τ} {step : Option Act → τ → τ → Prop} {fresh : τ → RowList → Prop}
  {R : Scene ρ σ τ → Scene ρ σ τ → Prop} (h : Allows g step fresh R)

include h

theorem clearMemo (s : Scene ρ σ τ) : R s (s.onSession (·.clearMemo)) :=
  h.session s _ (Session.staged_clearMemo _) (Session.settings_clearMemo _)
    (Session.closed_clearMemo _)

theorem flush (st : Statement ρ) (s : Scene ρ σ τ) (hs : s.session.closed = false) :
    R s (s.flush g st) := by
  unfold Scene.flush
  split
  · cases st.cache with
    | none => exact h.refl s
    | some ref => exact h.clear ref s hs
  · exact h.refl s

theorem update (runner : τ → Except Failure Nat × τ) (hr : ∀ z, step none z (runner z).2)
    (st : Statement ρ) (s : Scene ρ σ τ) : R s (update g runner st s).state := by
  unfold Scene.update
  split
  · exact h.refl s
  · next hopen =>
    rw [Bool.not_eq_true] at hopen
    exact h.trans (h.trans (h.flush st s hopen) (h.clearMemo _)) (h.client (hr _))

theorem deliverAll (loads : List DeferredLoad) (s : Scene ρ σ τ) :
    R s (deliverAll g loads s).state := by
  induction loads generalizing s with
  | nil => exact h.refl s
  | cons load rest ih =>
    unfold Scene.deliverAll
    split
    · exact h.trans (h.deliver _ _ s) (ih _)
    · exact ih s

theorem finish (o : Outcome) (s : Scene ρ σ τ) : R s (finish g o s).state := by
  have hdepth := h.session s { s.session with depth := s.session.depth - 1 } rfl rfl rfl
  have hdeferred := h.trans hdepth
    (h.session _ { s.session with depth := s.session.depth - 1, deferred := [] } rfl rfl rfl)
  have hend {s' : Scene ρ σ τ} (hs' : R s s') :
      R s (if s'.session.settings.scope = .statement then s'.onSession (·.clearMemo) else s') := by
    split
    · exact h.trans hs' (h.clearMemo s')
    · exact hs'
  unfold Scene.finish
  dsimp only
  split
  · cases o.result with
    | ok list => exact hend (h.trans hdeferred (h.deliverAll _ _))
    | error f => exact hend hdeferred
  · exact hdepth

/-- What follows the runner's answer. -/
theorem answered {s₀ s : Scene ρ σ τ} (hs : R s₀ s) (r : Request ρ) (k : Key)
    (shared : Option ρ) (c : Caller) (a : Except Failure Output)
    (ha : ∀ out, a = .ok out → fresh s₀.client out.rows) :
    (Scene.answered g r k shared c a s).Each R (fun s _ s' => R s s') s₀ := by
  unfold Scene.answered
  cases a with
  | error f => exact h.trans hs (h.session s _ rfl rfl rfl)
  | ok out =>
    have hfresh := ha out rfl
    have hmemo (m : Memo) : R s₀ (s.onSession fun x => { x with memo := m }) :=
      h.trans hs (h.session s _ rfl rfl rfl)
    dsimp only
    split
    · cases shared with
      | none => exact hmemo _
      | some ref => exact h.stage (hmemo _) hfresh
    · cases shared with
      | none => exact hmemo _
      | some ref => exact h.stage (hmemo _) hfresh

/-- A query answered by a runner each stretch of which is allowed. -/
theorem fromRunner {runner : RunnerCall ρ σ τ}
    (hr : ∀ c s₀ s, R s₀ s → (runner c s).Each R
      (fun s a s' => R s s' ∧ ∀ out, a = .ok out → fresh s.client out.rows) s₀)
    {s₀ s : Scene ρ σ τ} (hs : R s₀ s) (r : Request ρ) (k : Key) (shared : Option ρ)
    (c : Caller) : (Scene.fromRunner g runner r k shared c s).Each R (fun s _ s' => R s s') s₀ := by
  unfold Scene.fromRunner
  refine Run.Each.andThen (hr c s₀ _ (h.trans hs (h.session s _ rfl rfl rfl))) ?_
  intro c' s₁ a s₂ hl
  exact h.answered hl.1 r k shared c' a hl.2

theorem resolve {runner : RunnerCall ρ σ τ}
    (hr : ∀ c s₀ s, R s₀ s → (runner c s).Each R
      (fun s a s' => R s s' ∧ ∀ out, a = .ok out → fresh s.client out.rows) s₀)
    {s₀ s : Scene ρ σ τ} (hs : R s₀ s) (r : Request ρ) (k : Key) (c : Caller) :
    (Scene.resolve g runner r k c s).Each R (fun s _ s' => R s s') s₀ := by
  unfold Scene.resolve
  split
  · exact hs
  · exact hs
  split
  · exact hs
  · exact h.fromRunner hr hs r k none c
  · next ref _ =>
    refine Run.Each.andThen ((h.lookup c ref k s).start (fun _ hl => h.trans hs hl)
      fun _ _ hl => h.trans hs hl) ?_
    intro c' s₁ found s₂ hl
    unfold Scene.looked
    split
    · exact hl
    · exact h.trans hl (h.session s₂ _ rfl rfl rfl)
    · exact h.fromRunner hr hl r k (some ref) c'

/-- A query whose runner calls are allowed in each stretch. -/
theorem query {runner : RunnerCall ρ σ τ}
    (hr : ∀ c s₀ s, R s₀ s → (runner c s).Each R
      (fun s a s' => R s s' ∧ ∀ out, a = .ok out → fresh s.client out.rows) s₀)
    {s₀ s : Scene ρ σ τ} (hs : R s₀ s) (r : Request ρ) (c : Caller) :
    (Scene.query g runner r c s).Each R (fun s _ s' => R s s') s₀ := by
  unfold Scene.query
  split
  · exact hs
  next hopen =>
  rw [Bool.not_eq_true] at hopen
  have hbegin {s' : Scene ρ σ τ} (hs' : R s₀ s') (hopen' : s'.session.closed = false)
      (depth : Nat) :
      R s₀ ((s'.flush g r.statement).onSession fun x => { x with depth := depth }) :=
    h.trans (h.trans hs' (h.flush r.statement s' hopen')) (h.session _ _ rfl rfl rfl)
  unfold Scene.queryAt
  rw [Run.each_after]
  refine Run.Each.andThen (h.resolve hr ?_ r _ c) ?_
  · split
    · exact hbegin (h.trans hs (h.clearMemo s)) ((Session.closed_clearMemo _).trans hopen) _
    · exact hbegin hs hopen _
  · intro c' s₁ o s₂ hl
    exact h.trans hl (h.finish o s₂)

/-- An act of a runner, once the client has been told. -/
theorem perform (a : Act) (c : Caller) {s : Scene ρ σ τ} {y : τ}
    (hy : step (some a) s.client y) : R s (Scene.perform g c a { s with client := y }).state := by
  have hclient : R s { s with client := y } := h.client hy
  cases a with
  | commit =>
    unfold Scene.perform Scene.commit
    dsimp only
    split
    · exact hclient
    · exact h.trans (h.trans hclient (h.clearMemo _)) (h.commit c _)
  | rollback =>
    unfold Scene.perform Scene.rollback
    dsimp only
    split
    · exact hclient
    · exact h.withdraw rfl hy (Session.staged_clearMemo _) (Session.settings_clearMemo _)
        (Session.closed_clearMemo _) rfl
  | close force =>
    unfold Scene.perform Scene.close
    dsimp only
    split
    · exact hclient
    · cases force with
      | true =>
        have hdropped : R s ((staging g).reply c { s with client := y }
            (Transaction.rollbackAll g.cache)).state :=
          h.withdraw (a := .close true) rfl hy rfl rfl rfl rfl
        exact h.trans hdropped (h.close _ _ rfl rfl rfl)
      | false => exact h.trans (h.trans hclient (h.commit c _)) (h.close _ _ rfl rfl rfl)
  | clearMemo => exact h.trans hclient (h.clearMemo _)
  | store k list => exact h.trans hclient (h.session _ _ rfl rfl rfl)
  | defer load =>
    unfold Scene.perform Scene.defer
    dsimp only
    split
    · exact hclient
    · split
      · exact h.trans hclient (h.deliver _ _ _)
      · exact h.trans hclient (h.session _ _ rfl rfl rfl)

/-- A whole conversation, by induction on what the runner does. -/
theorem converse (talk : Talk ρ τ) {x : τ} (ht : talk.Obeys step fresh x) (c : Caller)
    {s₀ s : Scene ρ σ τ} (hs : R s₀ s) (hx : s.client = x) :
    (Scene.converse g talk c s).Each R
      (fun s a s' => R s s' ∧ ∀ out, a = .ok out → fresh s.client out.rows) s₀ := by
  subst hx
  induction talk generalizing c s₀ s with
  | finish answer y =>
    refine ⟨h.trans hs (h.client ht.1), ?_⟩
    intro out hout
    exact h.older hs (ht.2 out hout)
  | query request y runner next ihr ihn =>
    obtain ⟨hy, hrunner, hnext⟩ := ht
    unfold Scene.converse
    refine Run.Each.andThen (h.query ?_ (h.trans hs (h.client hy)) request c) ?_
    · intro c' s₁ s₂ hs'
      exact ihr s₂.client c' hs' (hrunner _)
    · intro c' s₁ o s₂ hl
      exact ihn o s₂.client c' hl (hnext _ _)
  | update st y runner next ihn =>
    obtain ⟨hy, hrunner, hnext⟩ := ht
    unfold Scene.converse
    dsimp only
    rw [Run.each_after]
    exact ihn _ _ c (h.trans (h.trans hs (h.client hy)) (h.update runner hrunner st _)) (hnext _ _)
  | act a y next ihn =>
    obtain ⟨hy, hnext⟩ := ht
    unfold Scene.converse
    dsimp only
    rw [Run.each_after]
    exact ihn _ _ c (h.trans hs (h.perform a c hy)) (hnext _ _)
  | look y next ihn =>
    obtain ⟨hy, hnext⟩ := ht
    unfold Scene.converse
    exact ihn _ _ c (h.trans hs (h.client hy)) (hnext _ _)

end Allows

end Scene

end QueryCache
