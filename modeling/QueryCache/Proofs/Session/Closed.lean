import QueryCache.Proofs.Session.Deliveries

/-!
# Closed sessions

Once a session is closed it stays closed. Whatever is begun on it afterwards is refused or does
nothing: no runner is asked, no shared cache is called and no load waits any more. Only the
queries that were running when it was closed still end.

But the session is not empty for good. A query that was running leaves the rows of its runner in
the session's memory, and stages them, and rows that are stored by hand stay as well; forgetting
does nothing in a closed session, so nothing but the failure of such a query takes them away.
-/

namespace QueryCache

variable {ρ σ τ : Type}

/-- Rows are left under a key, by the answer of a runner or by hand. -/
def Happening.Leaves (k : Key) (list : RowList) : Happening ρ → Prop
  | did (.store key rows) _ => key = k ∧ rows = list
  | answered _ key a => key = k ∧ a.map (·.rows) = .ok list
  | _ => False

/-- A closed session forgets nothing when a query ends. -/
theorem Session.memo_concluded_of_closed {x : Session ρ} (h : x.closed = true) :
    x.concluded.memo = x.memo := by
  unfold concluded
  dsimp only
  split
  · rw [memo_clearMemo, if_pos h]
  · rfl

namespace Moment

variable {g : Setting ρ σ τ} {callers : Caller → Prop}
  {others : Scene ρ σ τ → Scene ρ σ τ → Prop} {m m₀ now later : Moment ρ σ τ} {e : Happening ρ}
  {es since : List (Happening ρ)}

/-- What is true of a session ever since it was closed: it is closed, no load waits, the running
queries are some of those that were running then, and rows are remembered and staged only where
such a query has returned or they were stored by hand. -/
structure Shut (m₀ : Moment ρ σ τ) (since : List (Happening ρ)) (now : Moment ρ σ τ) : Prop where
  closed : now.scene.session.closed = true
  deferred : now.scene.session.deferred = []
  frames : now.frames <:+ m₀.frames
  memo : ∀ k v, now.scene.session.memo.lookup k = some v →
    ∃ list, v = .resolved list ∧ ∃ e ∈ since, e.Leaves k list
  staged : now.scene.session.staged = .empty ∨ ∃ r k out, .answered r k (.ok out) ∈ since

/-- What was remembered is still accounted for when more has happened. -/
theorem Shut.remembered (hs : Shut m₀ since now) (e : Happening ρ) {k : Key} {v : Memory}
    (hv : now.scene.session.memo.lookup k = some v) :
    ∃ list, v = .resolved list ∧ ∃ e' ∈ since ++ [e], e'.Leaves k list := by
  obtain ⟨list, hlist, e', he', hleaves⟩ := hs.memo k v hv
  exact ⟨list, hlist, e', List.mem_append_left _ he', hleaves⟩

/-- And so is what was staged. -/
theorem Shut.fed (hs : Shut m₀ since now) (e : Happening ρ) :
    now.scene.session.staged = .empty ∨ ∃ r k out, .answered r k (.ok out) ∈ since ++ [e] := by
  rcases hs.staged with hempty | ⟨r, k, out, hin⟩
  · exact .inl hempty
  · exact .inr ⟨r, k, out, List.mem_append_left _ hin⟩

/-- The session may stay as it is. -/
theorem Shut.extend (hs : Shut m₀ since now) (e : Happening ρ)
    (hsession : later.scene.session = now.scene.session) (hframes : later.frames = now.frames) :
    Shut m₀ (since ++ [e]) later := by
  constructor
  · rw [hsession]
    exact hs.closed
  · rw [hsession]
    exact hs.deferred
  · rw [hframes]
    exact hs.frames
  · rw [hsession]
    exact fun k v hv => hs.remembered e hv
  · rw [hsession]
    exact hs.fed e

/-- The step that closes a session leaves nothing. -/
theorem Step.shut_closing {force : Bool} {x : Except Failure Unit}
    (h : Step g callers others m (.did (.close force) x) m₀)
    (isOpen : m.scene.session.closed = false) : Shut m₀ [] m₀ := by
  cases h with
  | @act fs _ client next s c r hc e =>
    have hsession : r.state.session =
        { s.session with memo := .empty, deferred := [], staged := .empty, closed := true } := by
      rw [← e]
      replace isOpen : s.session.closed = false := isOpen
      simp only [Scene.perform, Scene.close, isOpen, Bool.false_eq_true, if_false]
      cases force <;> rfl
    refine ⟨?_, ?_, List.suffix_rfl, fun k v hv => ?_, .inl ?_⟩
    · exact congrArg Session.closed hsession
    · exact congrArg Session.deferred hsession
    · have hnone : r.state.session.memo.lookup k = none := by
        rw [hsession]
        rfl
      exact absurd (hnone.symm.trans hv) (by simp)
    · exact congrArg Session.staged hsession

/-- Whatever happens in a closed session, what it is left with is accounted for. -/
theorem Step.shut (hothers : ∀ s s', others s s' → s'.session = s.session)
    (h : Step g callers others now e later) (hs : Shut m₀ since now) :
    Shut m₀ (since ++ [e]) later := by
  have hclosed := hs.closed
  cases h with
  | others moved => exact hs.extend _ (hothers _ _ moved) rfl
  | look => exact hs.extend _ rfl rfl
  | @update fs st client runner next s r e =>
    rw [Scene.update_closed g runner st (s := { s with client }) hclosed] at e
    subst e
    exact hs.extend _ rfl rfl
  | @act fs a client next s c r hc e =>
    rw [Scene.perform_closed g c a (s := { s with client }) hclosed] at e
    subst e
    cases a with
    | store k list =>
      refine ⟨hs.closed, hs.deferred, hs.frames, fun k' v hv => ?_, hs.fed _⟩
      replace hv := (Memo.lookup_resolve s.session.memo k k' list).symm.trans hv
      split at hv
      · next heq =>
        cases hv
        exact ⟨list, rfl, _, List.mem_append_right _ List.mem_cons_self, heq, rfl⟩
      · exact hs.remembered _ hv
    | _ => exact hs.extend _ rfl rfl
  | refuse closed => exact hs.extend _ rfl rfl
  | tell isOpen e => exact nomatch hclosed.symm.trans isOpen
  | ask isOpen e => exact nomatch hclosed.symm.trans isOpen
  | @answer f fs c a client s r e =>
    obtain ⟨⟨_, _, hclosed'⟩, hmemo⟩ := Scene.lookup_answered e
    have hr : r.state.session.closed = true := hclosed'.trans hclosed
    constructor
    · rw [session_conclude, Session.closed_concluded]
      exact hr
    · have hwaiting := (Scene.client_answered e).2
      rw [session_conclude, Session.deferred_concluded, hwaiting]
      split
      · rfl
      · exact hs.deferred
    · exact (List.suffix_cons f fs).trans hs.frames
    · intro k' v hv
      rw [session_conclude, Session.memo_concluded_of_closed hr, hmemo] at hv
      split at hv
      · next heq =>
        cases a with
        | error failure => exact nomatch hv
        | ok out =>
          cases hv
          exact ⟨out.rows, rfl, _, List.mem_append_right _ List.mem_cons_self, heq, rfl⟩
      · exact hs.remembered _ hv
    · rw [session_conclude, Session.staged_concluded]
      rcases Scene.staged_answered e with hsame | ⟨out, ref, rfl, _⟩
      · rw [hsame]
        exact hs.fed _
      · exact .inr ⟨_, _, out, List.mem_append_right _ List.mem_cons_self⟩

theorem Course.shut (hothers : ∀ s s', others s s' → s'.session = s.session)
    (c : Course g callers others m₀ since now) (hs : Shut m₀ [] m₀) : Shut m₀ since now := by
  induction c with
  | start => exact hs
  | step c h ih => exact h.shut hothers ih

/-- A step of a closed session calls no shared cache: it leaves them as they are, even those that
write down their calls. -/
theorem Step.shared_closed (h : Step g callers others now e later)
    (hclosed : now.scene.session.closed = true) (he : e ≠ .others) :
    later.scene.shared = now.scene.shared := by
  cases h with
  | others moved => exact absurd rfl he
  | look => rfl
  | @update fs st client runner next s r e =>
    rw [← e]
    exact Scene.shared_update g runner st _
  | @act fs a client next s c r hc e =>
    rw [← e, Scene.perform_closed g c a (s := { s with client }) hclosed]
    cases a <;> rfl
  | refuse closed => rfl
  | tell isOpen e => exact nomatch hclosed.symm.trans isOpen
  | ask isOpen e => exact nomatch hclosed.symm.trans isOpen
  | answer e =>
    refine (Scene.shared_finish g _ _).trans ?_
    rw [Scene.shared_answered e]

/-- What comes of the things that are begun on a closed session: queries, updates, commits and
loads are told that it is closed, and all other acts but that of storing rows do nothing. No query
gets as far as to its runner, and no runner of an update is called. -/
def Rejects (now later : Moment ρ σ τ) : Happening ρ → Prop
  | .refused r => ∃ client runner next, now.talk = .query r client runner next ∧
      later = ⟨now.frames, next ⟨.error .closed, r.bound⟩ client, { now.scene with client }⟩
  | .told .. | .asked .. => False
  | .updated st result => ∃ client runner next, now.talk = .update st client runner next ∧
      result = .error .closed ∧
      later = ⟨now.frames, next result client, { now.scene with client }⟩
  | .did a result => result = a.whenClosed ∧ later.scene.client = now.talk.client ∧
      ((∀ k list, a ≠ .store k list) → later.scene.session = now.scene.session)
  | .others | .looked | .answered .. => True

theorem Step.rejects (h : Step g callers others now e later)
    (hclosed : now.scene.session.closed = true) : now.Rejects later e := by
  cases h with
  | others moved => exact True.intro
  | look => exact True.intro
  | @update fs st client runner next s r e =>
    rw [Scene.update_closed g runner st (s := { s with client }) hclosed] at e
    subst e
    exact ⟨client, runner, next, rfl, rfl, rfl⟩
  | @act fs a client next s c r hc e =>
    rw [Scene.perform_closed g c a (s := { s with client }) hclosed] at e
    subst e
    cases a with
    | store k list => exact ⟨rfl, rfl, fun hno => absurd rfl (hno k list)⟩
    | _ => exact ⟨rfl, rfl, fun _ => rfl⟩
  | @refuse fs r client runner next s closed => exact ⟨client, runner, next, rfl, rfl⟩
  | tell isOpen e => exact nomatch hclosed.symm.trans isOpen
  | ask isOpen e => exact nomatch hclosed.symm.trans isOpen
  | answer e => exact True.intro

/-- Once a session is closed, be it by a runner, it stays closed, no load waits and none but the
queries that were running go on. What is begun on it is refused or does nothing: no runner is asked
and no shared cache is called. Rows are remembered only where a query that was running has returned
them or where they were stored by hand, and nothing is staged unless such a query has returned
rows. -/
theorem closed_is_final (hothers : ∀ s s', others s s' → s'.session = s.session)
    (isOpen : m.scene.session.closed = false) {force : Bool} {x : Except Failure Unit}
    (closing : Step g callers others m (.did (.close force) x) m₀)
    (c : Course g callers others m₀ since now) :
    Shut m₀ since now ∧
    (∀ st b w, now.scene.session.keyOf st b w = .error .closed) ∧
    ∀ e later, Step g callers others now e later →
      (e ≠ .others → later.scene.shared = now.scene.shared) ∧ now.Rejects later e := by
  have hs := c.shut hothers (closing.shut_closing isOpen)
  refine ⟨hs, fun st b w => if_pos hs.closed, fun e later h => ?_⟩
  exact ⟨h.shared_closed hs.closed, h.rejects hs.closed⟩

end Moment

/-- A query that feeds the only store. -/
def storedRequest : Request Unit where
  statement := { id := "sel", cache := some (), useCache := true, flush := false }
  key? := some {}

/-- A runner that closes the session, tries to commit and answers. -/
def closingInside (n : Nat) : Talk Unit Nat :=
  .act (.close true) (n + 1) fun _ n => .act .commit n fun _ n =>
    .finish (.ok { rows := ⟨7, []⟩ }) n

namespace Moment

/-- A runner that closes its session is told so when it commits, and it still ends its query. -/
theorem closed_is_final_inside :
    ∃ (m m₀ now later : Moment Unit Store Nat) (x : Except Failure Unit),
      m.scene.session.closed = false ∧
      Step oneStore (fun _ => True) Eq m (.did (.close true) (.ok ())) m₀ ∧
      Course oneStore (fun _ => True) Eq m₀ [] now ∧
      Step oneStore (fun _ => True) Eq now (.did .commit x) later ∧ x = .error .closed ∧
      later.scene.shared = now.scene.shared ∧
      ∃ ended, Step oneStore (fun _ => True) Eq later
        (.answered storedRequest {} (.ok { rows := ⟨7, []⟩ })) ended ∧ ended.frames = [] := by
  have begun : Course oneStore (fun _ => True) Eq
      (opened {} (.query storedRequest 0 closingInside fun _ n => .finish (.error .closed) n)
        { name := "users" } 0) [] _ := .start
  have asked := begun.step (.ask rfl (.missed (c := {}) rfl rfl True.intro (.done _) nofun))
  have next {m m' m'' : Moment Unit Store Nat} {es : List (Happening Unit)} {e : Happening Unit}
      (_ : Course oneStore (fun _ => True) Eq m es m')
      (h : Step oneStore (fun _ => True) Eq m' e m'') : Step oneStore (fun _ => True) Eq m' e m'' :=
    h
  have closing := next asked (.act (c := {}) True.intro rfl)
  have committing := next (asked.step closing) (.act (c := {}) True.intro rfl)
  have hothers (s s' : Scene Unit Store Nat) (h : s = s') : s'.session = s.session := by rw [h]
  obtain ⟨_, _, hall⟩ := closed_is_final hothers rfl closing .start
  obtain ⟨hshared, hrefused, _⟩ := hall _ _ committing
  exact ⟨_, _, _, _, _, rfl, closing, .start, committing, hrefused, hshared nofun, _,
    .answer (c := {}) rfl, rfl⟩

end Moment

/-- A closed session, with no query running, that remembers rows and has a staged write: its runner
closed it and then answered. And one that remembers rows which were stored after it was closed. -/
theorem closed_session_keeps_rows :
    (Scene.queryWith oneStore closingInside storedRequest {}
      ⟨{ settings := { scope := .statement } }, { name := "users" }, 0⟩).reply?.map (fun r =>
        (r.state.session.closed, r.state.session.depth, r.state.session.memo.size,
          r.state.session.staged.size)) = some (true, 0, 1, 1) ∧
    (let s := (Scene.close oneStore false {} ⟨{}, { name := "users" }, 0⟩).state
     let r := Scene.perform oneStore {} (.store {} ⟨7, []⟩) s
     (r.state.session.closed, r.state.session.depth, r.state.session.memo.size)) = (true, 0, 1) :=
  ⟨rfl, rfl⟩

end QueryCache
