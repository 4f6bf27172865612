import QueryCache.Proofs.Stack.Answers

/-!
# Calls that overlap

Any number of callers use a cache at once. A call is carried on until it is answered or has to wait;
then others have their turns, and whoever comes back to a call that waits goes on with it if what it
waits for has come. The state may also be changed by others who do not ask the cache.

What a layer makes of all this is told by comparing it with the cache inside, given the same turns.
Behind a record of its own the cache inside writes down what it is asked, so that the two can be
compared call by call (`run_recorded`).
-/

namespace QueryCache

/-- Whether a call is a lookup. -/
def Demand.isGet : Demand → Bool
  | .get _ => true
  | .put .. | .remove _ | .clear | .size => false

/-- A call that waits: what was asked, and how it goes on. -/
structure Suspended (τ : Type) where
  demand : Demand
  ready : Caller → τ → Bool
  resume : (c : Caller) → (s : τ) → ready c s = true → Run τ (Except CacheFailure Response)

/-- An answer: what was asked, what came of it, and the identity of the cache at that time. -/
structure Answered where
  demand : Demand
  value : Except CacheFailure Response
  cache : String

/-- A cache in use: its state, the calls that wait, the answers so far and the notes made. -/
structure Traffic (τ : Type) where
  state : τ
  waiting : List (Suspended τ) := []
  answers : List Answered := []
  notes : List Note := []

namespace Traffic

variable {ρ σ τ ο : Type}

/-- What happens next: something is asked, or the call at a place among those that wait is gone on
with, or others do something to the state. -/
inductive Turn (ρ : Type) where
  | ask (c : Caller) (d : Demand)
  | resume (place : Nat) (c : Caller)
  | others (deed : ρ)

/-- What is asked in a turn, and by whom. -/
def Turn.call? : Turn ρ → Option (Caller × Demand)
  | .ask c d => some (c, d)
  | .resume .. | .others _ => none

/-- Whether a lookup begins in a turn. -/
def Turn.isGet : Turn ρ → Bool
  | .ask _ d => d.isGet
  | .resume .. | .others _ => false

/-- A call has come to its answer, or to a wait. -/
def stop (cache : Cache τ) (m : Traffic τ) (d : Demand) :
    Run τ (Except CacheFailure Response) → Traffic τ
  | .done r =>
    { m with
      state := r.state
      answers := m.answers ++ [⟨d, r.value, cache.id r.state⟩]
      notes := m.notes ++ r.notes }
  | .wait _ s n ready resume =>
    { m with state := s, waiting := m.waiting ++ [⟨d, ready, resume⟩], notes := m.notes ++ n }

/-- Have one turn. Nothing happens to a call that waits for something that has not come. -/
def turn (cache : Cache τ) (meddle : ρ → τ → τ) (m : Traffic τ) : Turn ρ → Traffic τ
  | .ask c d => m.stop cache d (cache.ask c m.state d)
  | .resume place c =>
    match m.waiting[place]? with
    | none => m
    | some w =>
      if come : w.ready c m.state = true then
        { m with waiting := m.waiting.eraseIdx place }.stop cache w.demand
          (w.resume c m.state come)
      else m
  | .others deed => { m with state := meddle deed m.state }

/-- Have turns, in order. -/
def run (cache : Cache τ) (meddle : ρ → τ → τ) (m : Traffic τ) (turns : List (Turn ρ)) :
    Traffic τ :=
  turns.foldl (turn cache meddle) m

/-- What others do to the state inside a layer, seen from the layer. -/
def beneath (meddle : ρ → σ → σ) (deed : ρ) (s : Over ο σ) : Over ο σ :=
  { s with inner := meddle deed s.inner }

theorem state_stop (cache : Cache τ) (m : Traffic τ) (d : Demand)
    (run : Run τ (Except CacheFailure Response)) : (m.stop cache d run).state = run.state := by
  cases run <;> rfl

/-- The state before is no matter any more. -/
theorem stop_of_state (cache : Cache τ) (m : Traffic τ) (s : τ) (d : Demand)
    (run : Run τ (Except CacheFailure Response)) :
    ({ m with state := s } : Traffic τ).stop cache d run = m.stop cache d run := by
  cases run <;> rfl

end Traffic

/-! ### Calls on record -/

namespace Cache

variable {ρ σ : Type}

/-- What a cache has been asked, oldest first, and by whom. -/
abbrev Asked := List (Caller × Demand)

/-- Write down what is asked. -/
def Asked.noted (s : Over Asked σ) (c : Caller) (d : Demand) : Over Asked σ :=
  { s with own := s.own ++ [(c, d)] }

/-- A cache that writes down what it is asked before it does anything. -/
def recorded (inner : Cache σ) : Cache (Over Asked σ) where
  id s := inner.id s.inner
  size c s := Over.plain.reply c (Asked.noted s c .size) inner.size
  put c k e s := Over.plain.reply c (Asked.noted s c (.put k e)) fun c i => inner.put c k e i
  get c k s := Over.plain.run c (Asked.noted s c (.get k)) fun c i => inner.get c k i
  remove c k s := Over.plain.reply c (Asked.noted s c (.remove k)) fun c i => inner.remove c k i
  clear c s := Over.plain.reply c (Asked.noted s c .clear) inner.clear
  holds s id := inner.holds s.inner id

end Cache

namespace Traffic

open Cache (Asked)

variable {ρ σ : Type} {inner : Cache σ}

/-- At every stop of a call the record is as it was when the call began or went on. -/
def Keeps (run : Run (Over Asked σ) (Except CacheFailure Response)) (s : Over Asked σ) : Prop :=
  run.Each (fun s s' => s'.own = s.own) (fun s _ s' => s'.own = s.own) s

/-- A call is written down once, when it begins. -/
theorem ask_recorded (c : Caller) (d : Demand) (s : Over Asked σ) :
    Keeps (inner.recorded.ask c s d) (Asked.noted s c d) := by
  cases d with
  | get k =>
    have hinner : (inner.get (c.holding fun _ => false) k s.inner).Each (fun _ _ => True)
        (fun _ _ _ => True) s.inner := Run.each_true _ _
    have hget : (inner.recorded.get c k s).Each (fun s s' => s'.own = s.own)
        (fun s _ s' => s'.own = s.own) (Asked.noted s c (.get k)) :=
      hinner.within (fun _ _ _ => rfl) fun _ _ _ _ => rfl
    exact hget.mapReply fun _ _ h => h
  | put k e | remove k | clear | size => rfl

/-- The calls that wait do not write themselves down again. -/
def Silent (m : Traffic (Over Asked σ)) : Prop :=
  ∀ w ∈ m.waiting, ∀ c s come, Keeps (w.resume c s come) s

theorem Silent.stop {m : Traffic (Over Asked σ)} (h : m.Silent) (d : Demand)
    {run : Run (Over Asked σ) (Except CacheFailure Response)} {s : Over Asked σ}
    (hrun : Keeps run s) : (m.stop inner.recorded d run).Silent := by
  cases run with
  | done r => exact h
  | wait _ s' n ready resume =>
    intro w hw
    rcases List.mem_append.mp hw with hw | hw
    · exact h w hw
    · rw [List.mem_singleton.mp hw]
      exact hrun.2

theorem Silent.turn {m : Traffic (Over Asked σ)} (h : m.Silent) (inner : Cache σ)
    (meddle : ρ → σ → σ) (t : Turn ρ) :
    (m.turn inner.recorded (beneath meddle) t).Silent ∧
      (m.turn inner.recorded (beneath meddle) t).state.own = m.state.own ++ t.call?.toList := by
  cases t with
  | ask c d =>
    have hrun : Keeps (inner.recorded.ask c m.state d) _ := ask_recorded c d m.state
    refine ⟨h.stop d hrun, ?_⟩
    rw [Traffic.turn, state_stop]
    exact hrun.first
  | resume place c =>
    have hnone : m.state.own = m.state.own ++ [] := (List.append_nil _).symm
    unfold Traffic.turn
    dsimp only
    split
    · exact ⟨h, hnone⟩
    · next w hw =>
      split
      · next come =>
        have hrun := h w (List.mem_of_getElem? hw) c m.state come
        have hothers : Silent { m with waiting := m.waiting.eraseIdx place } :=
          fun v hv => h v (List.mem_of_mem_eraseIdx hv)
        refine ⟨hothers.stop w.demand hrun, ?_⟩
        rw [state_stop]
        exact hrun.first.trans hnone
      · exact ⟨h, hnone⟩
  | others deed => exact ⟨h, (List.append_nil _).symm⟩

/-- What is on record is what was asked, in order. -/
theorem run_recorded (inner : Cache σ) (meddle : ρ → σ → σ) (i : σ) (turns : List (Turn ρ)) :
    (run inner.recorded (beneath meddle) ⟨⟨[], i⟩, [], [], []⟩ turns).state.own =
      turns.filterMap Turn.call? := by
  have hrun (m : Traffic (Over Asked σ)) (hm : m.Silent) :
      (m.run inner.recorded (beneath meddle) turns).state.own =
        m.state.own ++ turns.filterMap Turn.call? := by
    induction turns generalizing m with
    | nil => exact (List.append_nil _).symm
    | cons t turns ih =>
      obtain ⟨hsilent, hown⟩ := hm.turn inner meddle t
      refine (ih _ hsilent).trans ?_
      rw [hown, List.append_assoc, List.filterMap_cons]
      cases t.call? <;> rfl
  exact hrun _ (List.forall_mem_nil _)

end Traffic

end QueryCache
