import Mathlib.Data.List.Forall2
import QueryCache.Proofs.Session.Repeats

/-!
# Output values that are replayed

The values that a callable statement gives to its parameters are remembered under the key of the
query, and they stay there longer than the rows do: only forgetting everything drops them, and
nothing but the answer to another query for the key replaces them. In session scope and without a
query for the key still running there is no such answer, since every query for the key is told the
remembered rows. So each callable statement that is told these gets the values as well, whatever
its own parameters are.
-/

namespace QueryCache

variable {ρ σ τ : Type}

/-! ### Parameters that are given values -/

/-- The parameter `q` is what the parameter `p` becomes when values are replayed that another
statement was given before, which left the parameters `first`. -/
structure Parameter.Replays (bag : Bag) (first : Bound) (p q : Parameter) : Prop where
  name : q.name = p.name
  mode : q.mode = p.mode
  input : p.mode = .input → q = p
  unknown : bag.get? p.name = none → q = p
  known : p.mode ≠ .input → ∀ v, bag.get? p.name = some v → q.value = v ∧
    ∀ p' ∈ first.params, p'.name = p.name → p'.mode ≠ .input → p'.value = v

/-- A parameter that carries a result and has a recorded value becomes one with this value. -/
theorem Parameter.Replays.eq_of_known {bag : Bag} {first : Bound} {p q : Parameter}
    (h : Replays bag first p q) (hmode : p.mode ≠ .input) {v : Value}
    (hv : bag.get? p.name = some v) : q = { p with value := v } := by
  obtain ⟨name, mode, value⟩ := q
  obtain ⟨rfl, rfl, -, -, hknown⟩ := h
  rw [← (hknown hmode v hv).1]

namespace Bound

/-- A parameter that carries a result has the value that it was given. -/
theorem value_of_mem_accept {b : Bound} {bag : Bag} {p : Parameter}
    (hp : p ∈ (b.accept bag).params) (hmode : p.mode ≠ .input) {v : Value}
    (hv : bag.get? p.name = some v) : p.value = v := by
  obtain ⟨p₀, _, rfl⟩ := List.mem_map.mp hp
  by_cases h : p₀.mode = .input
  · rw [if_pos h] at hmode
    exact absurd h hmode
  · rw [if_neg h] at hv ⊢
    exact congrArg (Option.getD · p₀.value) hv

/-- Whoever is given the same values has them where the other one has. -/
theorem replays_accept (first b : Bound) (bag : Bag) :
    List.Forall₂ (Parameter.Replays bag (first.accept bag)) b.params (b.accept bag).params := by
  refine List.forall₂_map_right_iff.mpr (List.forall₂_same.mpr fun p _ => ?_)
  by_cases h : p.mode = .input
  · rw [if_pos h]
    exact ⟨rfl, rfl, fun _ => rfl, fun _ => rfl, fun hmode => absurd h hmode⟩
  · rw [if_neg h]
    refine ⟨rfl, rfl, fun hmode => absurd hmode h, fun hnone => ?_, fun _ v hv => ⟨?_, ?_⟩⟩
    · rw [hnone, Option.getD_none]
    · exact congrArg (Option.getD · p.value) hv
    · intro p' hp' hname hmode
      exact value_of_mem_accept hp' hmode (hname ▸ hv)

/-- Without parameters that go both ways, values that are given identify no other query. -/
theorem keyValues_accept {b : Bound} (hmodes : ∀ p ∈ b.params, p.mode ≠ .both) (bag : Bag) :
    (b.accept bag).keyValues = b.keyValues := by
  obtain ⟨sql, params⟩ := b
  unfold accept
  induction params with
  | nil => rfl
  | cons p params ih =>
    have hrest := ih fun p hp => hmodes p (List.mem_cons_of_mem _ hp)
    rw [List.map_cons, keyValues_cons, keyValues_cons, hrest]
    cases hmode : p.mode with
    | input => simp [hmode]
    | output => simp
    | both => exact absurd hmode (hmodes p List.mem_cons_self)

end Bound

/-! ### What is remembered -/

namespace Scene

variable {g : Setting ρ σ τ} {callers : Caller → Prop}
  {others : Scene ρ σ τ → Scene ρ σ τ → Prop} {s s' : Scene ρ σ τ} {r : Request ρ} {k : Key}

/-- A query that is told its outcome leaves the output values. -/
theorem Consults.outputs (hothers : ∀ s s', others s s' → s'.session = s.session) {o : Outcome}
    (h : Consults g callers others r k s (.told o) s') :
    s'.session.memo.outputs = s.session.memo.outputs := by
  cases ho : o.result with
  | error f => rw [(h.told_failure hothers ho).memo]
  | ok list =>
    obtain ⟨_, rfl⟩ | ⟨_, ref, c, reply, _, _, looked, _, rfl⟩ := h.told_rows ho
    · rfl
    · have hsame := congrArg Memo.outputs (alike_lookup hothers looked).memo
      exact hsame

/-- The answer of a runner leaves the output values of other keys. -/
theorem outputs_answered {shared : Option ρ} {c : Caller} {a : Except Failure Output}
    {reply : Reply (Scene ρ σ τ) Outcome} (h : answered g r k shared c a s = .done reply)
    {k' : Key} (hne : k ≠ k') :
    reply.state.session.memo.outputs.get? k' = s.session.memo.outputs.get? k' := by
  unfold answered at h
  cases a with
  | error f =>
    cases h
    rfl
  | ok out =>
    dsimp only at h
    split at h
    · have hkept := (Table.get?_insert s.session.memo.outputs k k'
        (out.outputs.getD r.bound.outputs)).trans (if_neg hne)
      cases shared <;> cases h <;> exact hkept
    · cases shared <;> cases h <;> rfl

/-- The answer to a callable statement gives values to its parameters, those that the runner
reports or else the present ones by name, and they are remembered. -/
theorem answered_callable {shared : Option ρ} {c : Caller} {out : Output}
    {reply : Reply (Scene ρ σ τ) Outcome} (hr : r.statement.isCallable = true)
    (h : answered g r k shared c (.ok out) s = .done reply) :
    let bag := out.outputs.getD r.bound.outputs
    reply.value = ⟨.ok out.rows, r.bound.accept bag⟩ ∧
      reply.state.session.memo.outputs.get? k = some bag := by
  intro bag
  have hstored := (Table.get?_insert s.session.memo.outputs k k bag).trans (if_pos rfl)
  unfold answered at h
  dsimp only at h
  rw [hr] at h
  cases shared <;> cases h <;> exact ⟨rfl, hstored⟩

/-- A callable statement that is told rows from memory has the recorded values. -/
theorem fromMemory_callable {list : RowList} {bag : Bag} (hr : r.statement.isCallable = true)
    (hbag : s.session.memo.outputs.get? k = some bag) :
    (s.fromMemory r k list).value = ⟨.ok list, r.bound.accept bag⟩ := by
  simp only [fromMemory, hbag, hr, if_true]

end Scene

/-- Whether an open session forgets everything by this, other than by the beginning of a query. -/
def Happening.wipes : Happening ρ → Bool
  | updated .. | did .commit _ | did .rollback _ | did .clearMemo _ | did (.close _) _ => true
  | _ => false

namespace Moment

/-- A session may get from one moment to another without being made to forget everything: there
is no update, commit, rollback, close or clearing of the memory, and no outermost query flushes.
Rows may be stored under any key. -/
inductive Uncleared (g : Setting ρ σ τ) (callers : Caller → Prop)
    (others : Scene ρ σ τ → Scene ρ σ τ → Prop) (m : Moment ρ σ τ) : Moment ρ σ τ → Prop
  | start : Uncleared g callers others m m
  | step {m' e m''} (c : Uncleared g callers others m m') (h : Step g callers others m' e m'')
      (kept : e.wipes = false) (inside : m'.frames = [] → e.flushes = false) :
      Uncleared g callers others m m''

variable {g : Setting ρ σ τ} {callers : Caller → Prop}
  {others : Scene ρ σ τ → Scene ρ σ τ → Prop} {m m' : Moment ρ σ τ} {e : Happening ρ}
  {es : List (Happening ρ)} {k : Key} {bag : Bag}

/-- Some rows and certain output values of a key are remembered by an open session in session
scope, and no query for the key is running. -/
structure Recorded (k : Key) (bag : Bag) (m : Moment ρ σ τ) : Prop where
  settled : ∃ list, m.Settled k list
  outputs : m.scene.session.memo.outputs.get? k = some bag

/-- An act that does not make the session forget leaves the output values. -/
theorem outputs_acted (x : Session ρ) {a : Act} {v : Except Failure Unit}
    (ha : (Happening.did (ρ := ρ) a v).wipes = false) :
    (x.acted a).memo.outputs = x.memo.outputs := by
  cases a with
  | store k' list => rfl
  | defer load => rw [Session.memo_acted_defer]
  | commit | rollback | clearMemo | close force => exact nomatch ha

variable (hothers : ∀ s s', others s s' → s'.session = s.session)

include hothers

/-- A step that does not make the session forget everything leaves some rows of the key
remembered, the same ones unless others are stored under it. -/
theorem Step.settled_again {list : RowList} (h : Step g callers others m e m') (ht : m.Tidy)
    (hs : m.Settled k list) (kept : e.wipes = false)
    (inside : m.frames = [] → e.flushes = false) : ∃ list', m'.Settled k list' := by
  cases hforgets : e.forgets k with
  | false => exact ⟨list, h.settled hothers ht hs hforgets inside⟩
  | true =>
    cases h with
    | @act fs a y next s c r hc e =>
      cases a with
      | store k' list' =>
        obtain rfl : k' = k := of_decide_eq_true hforgets
        subst e
        exact ⟨list', (Memo.lookup_resolve _ _ _ _).trans (if_pos rfl), hs.isOpen, hs.scope,
          hs.outermost⟩
      | defer load => exact nomatch hforgets
      | commit | rollback | clearMemo | close force => exact nomatch kept
    | update e => exact nomatch kept
    | _ => exact nomatch hforgets

/-- So it leaves the output values. -/
theorem Step.outputs_kept {list : RowList} (h : Step g callers others m e m') (ht : m.Tidy)
    (hs : m.Settled k list) (kept : e.wipes = false)
    (inside : m.frames = [] → e.flushes = false) :
    m'.scene.session.memo.outputs.get? k = m.scene.session.memo.outputs.get? k := by
  have hscope : m'.scene.session.settings.scope = .session := by
    rw [h.settings hothers]
    exact hs.scope
  cases h with
  | others moved => rw [hothers _ _ moved]
  | look => rfl
  | update e => exact nomatch kept
  | act hc e =>
    rw [(Scene.alike_perform e).memo, outputs_acted _ kept]
  | refuse closed => rfl
  | tell isOpen e =>
    rw [memo_conclude hscope, e.outputs hothers, memo_enter ht inside]
  | @ask fs r y runner next s shared s' isOpen e =>
    have hmemo := (e.asks hothers).1.memo.trans (memo_enter ht inside)
    have hsame := congrArg (fun memo : Memo => memo.outputs.get? k) hmemo
    exact hsame
  | answer e =>
    rw [memo_conclude hscope]
    exact Scene.outputs_answered e (hs.outermost _ List.mem_cons_self)

theorem Step.recorded (h : Step g callers others m e m') (ht : m.Tidy) (hr : m.Recorded k bag)
    (kept : e.wipes = false) (inside : m.frames = [] → e.flushes = false) : m'.Recorded k bag := by
  obtain ⟨list, hs⟩ := hr.settled
  exact ⟨h.settled_again hothers ht hs kept inside,
    (h.outputs_kept hothers ht hs kept inside).trans hr.outputs⟩

/-- As long as the session is not made to forget everything, output values stay remembered. -/
theorem Uncleared.recorded (c : Uncleared g callers others m m') (ht : m.Tidy)
    (hr : m.Recorded k bag) : m'.Tidy ∧ m'.Recorded k bag := by
  induction c with
  | start => exact ⟨ht, hr⟩
  | step c h kept inside ih =>
    exact ⟨h.tidy hothers ih.1, h.recorded hothers ih.1 ih.2 kept inside⟩

/-- The rows of a callable statement end its query with the values that it gives to its
parameters, and in session scope these are remembered. -/
theorem Step.answered_callable {r : Request ρ} {out : Output}
    (h : Step g callers others m (.answered r k (.ok out)) m')
    (hcallable : r.statement.isCallable = true)
    (hscope : m.scene.session.settings.scope = .session) :
    let bag := out.outputs.getD r.bound.outputs
    (∃ frame, m.frames = frame :: m'.frames ∧
      m'.talk = frame.next ⟨.ok out.rows, r.bound.accept bag⟩ m'.scene.client) ∧
    m'.scene.session.memo.outputs.get? k = some bag := by
  have hscope' : m'.scene.session.settings.scope = .session := by
    rw [h.settings hothers]
    exact hscope
  cases h with
  | @answer frame fs c a y s reply e =>
    obtain ⟨hvalue, hstored⟩ := Scene.answered_callable hcallable e
    refine ⟨⟨frame, rfl, congrArg (frame.next · _) hvalue⟩, ?_⟩
    rw [memo_conclude hscope']
    exact hstored

end Moment

/-- A query of a callable statement with one input parameter and some others. -/
def callRequest (outputs : List Parameter) : Request Unit where
  statement := { id := "call", protocol := .callable, useCache := false, flush := false }
  bound := { sql := "CALL f(?, ?, ?)", params := ⟨"id", .input, .int 7⟩ :: outputs }

/-- Values for an output parameter, and for an input parameter that takes none. -/
def reported : Bag := .ofList [("total", .int 42), ("id", .int 9)]

/-- A user calls a procedure, stores other rows under the key of the call, and calls the procedure
again with other output parameters. -/
def callingTwice : Talk Unit Nat :=
  .query (callRequest [⟨"total", .output, .null⟩, ⟨"total", .output, .int 1⟩]) 0
    (fun n => .finish (.ok { rows := ⟨1, []⟩, outputs := some reported }) n) fun _ n =>
    .act (.store ((callRequest []).keyIn {}) ⟨2, []⟩) n fun _ n =>
      .query (callRequest [⟨"total", .output, .int 5⟩, ⟨"rest", .output, .int 6⟩]) n
        (fun n => .finish (.error .closed) n)
        fun o n => .finish (o.result.map fun list => { rows := list }) n

namespace Moment

end Moment

end QueryCache
