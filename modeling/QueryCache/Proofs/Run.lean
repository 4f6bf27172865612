import QueryCache.Run

/-!
# Runs under interference

A run that waits gives way to others, which may change the state before it goes on. What
others may do at a wait is a relation on states. `Ends` says with which replies a run can
end, `EndsBy` the same where only some callers go on with it, and `Always` what holds wherever
it stops: one assertion at every wait, another on the answer and the state at the end. All
three follow the run from one wait to the next. `Returns` says this of runs that do not wait,
and `Each` relates the two ends of every stretch between waits.
-/

namespace QueryCache

namespace Run

variable {σ τ α β : Type}

/-- A run ends with a reply when others change the state at every wait as they may. -/
inductive Ends (others : σ → σ → Prop) : Run σ α → Reply σ α → Prop
  | done (r : Reply σ α) : Ends others (.done r) r
  | wait {d s n ready resume c s' r} (moved : others s s') (come : ready c s' = true)
      (rest : Ends others (resume c s' come) r) :
      Ends others (.wait d s n ready resume) (r.after n)

/-- A run ends with a reply in this way, and none but some callers go on with it. -/
inductive EndsBy (callers : Caller → Prop) (others : σ → σ → Prop) : Run σ α → Reply σ α → Prop
  | done (r : Reply σ α) : EndsBy callers others (.done r) r
  | wait {d s n ready resume c s' r} (hc : callers c) (moved : others s s')
      (come : ready c s' = true) (rest : EndsBy callers others (resume c s' come) r) :
      EndsBy callers others (.wait d s n ready resume) (r.after n)

/-- One assertion holds at every wait of a run, and another of its answer and last state. -/
def Always (others : σ → σ → Prop) (waiting : σ → Prop) (ended : α → σ → Prop) :
    Run σ α → Prop
  | .done r => ended r.value r.state
  | .wait _ s _ ready resume =>
    waiting s ∧ ∀ c s' (come : ready c s' = true), others s s' →
      Always others waiting ended (resume c s' come)

variable {others : σ → σ → Prop} {waiting : σ → Prop} {ended : α → σ → Prop}

/-- What always holds at the end holds of every reply with which the run ends. -/
theorem Always.of_ends {run : Run σ α} {r : Reply σ α} (h : run.Always others waiting ended)
    (e : run.Ends others r) : ended r.value r.state := by
  induction e with
  | done r => exact h
  | wait moved come rest ih => exact ih (h.2 _ _ come moved)

/-- It does not matter who goes on with a run. -/
theorem EndsBy.ends {callers : Caller → Prop} {run : Run σ α} {r : Reply σ α}
    (e : run.EndsBy callers others r) : run.Ends others r := by
  induction e with
  | done r => exact .done r
  | wait hc moved come rest ih => exact .wait moved come ih

/-- Notes made earlier are all that they add. -/
theorem EndsBy.of_after {callers : Caller → Prop} {run : Run σ α} {n : List Note}
    {r : Reply σ α} (e : (run.after n).EndsBy callers others r) :
    ∃ r', run.EndsBy callers others r' ∧ r'.value = r.value ∧ r'.state = r.state := by
  cases run with
  | done r' =>
    cases e
    exact ⟨r', .done r', rfl, rfl⟩
  | wait d s n' ready resume =>
    cases e with
    | wait hc moved come rest => exact ⟨_, .wait hc moved come rest, rfl, rfl⟩

/-- A run in two parts ends as its second part does, which begins where the first one ended. -/
theorem EndsBy.of_andThen {callers : Caller → Prop} {run : Run σ α} {c : Caller}
    {next : Caller → α → σ → Run σ β} {r : Reply σ β} (hc : callers c)
    (e : (run.andThen c next).EndsBy callers others r) :
    ∃ c' first, callers c' ∧ run.EndsBy callers others first ∧
      ∃ r', (next c' first.value first.state).EndsBy callers others r' ∧
        r'.value = r.value ∧ r'.state = r.state := by
  induction run generalizing c r with
  | done first => exact ⟨c, first, hc, .done first, e.of_after⟩
  | wait d s n ready resume ih =>
    cases e with
    | wait hc' moved come rest =>
      obtain ⟨c', first, hc', hfirst, hrest⟩ := ih _ _ come hc' rest
      exact ⟨c', first.after n, hc', .wait ‹_› moved come hfirst, hrest⟩

/-- Weaker assertions hold as well. -/
theorem Always.mono {waiting' : σ → Prop} {ended' : α → σ → Prop} {run : Run σ α}
    (h : run.Always others waiting ended) (hw : ∀ s, waiting s → waiting' s)
    (he : ∀ a s, ended a s → ended' a s) : run.Always others waiting' ended' := by
  induction run with
  | done r => exact he _ _ h
  | wait d s n ready resume ih =>
    exact ⟨hw _ h.1, fun c s' come moved => ih c s' come (h.2 c s' come moved)⟩

/-- Notes made before a run stay before it when its answer is changed. -/
theorem map_after (run : Run σ α) (n : List Note) (f : α → β) :
    (run.after n).mapReply (·.map f) = (run.mapReply (·.map f)).after n := by
  cases run <;> rfl

/-- A run about which nothing is asked. -/
theorem always_true (run : Run σ α) :
    run.Always (fun _ _ => True) (fun _ => True) fun _ _ => True := by
  induction run with
  | done r => exact True.intro
  | wait d s n ready resume ih => exact ⟨True.intro, fun c s' come _ => ih c s' come⟩

/-- Notes made earlier change nothing. -/
theorem always_after (run : Run σ α) (n : List Note) :
    (run.after n).Always others waiting ended ↔ run.Always others waiting ended := by
  cases run <;> exact Iff.rfl

/-- A run goes on under the assertion with which its first part ended. -/
theorem Always.andThen {ended' : β → σ → Prop} {run : Run σ α} {c : Caller}
    {next : Caller → α → σ → Run σ β} (h : run.Always others waiting ended)
    (hn : ∀ c a s, ended a s → (next c a s).Always others waiting ended') :
    (run.andThen c next).Always others waiting ended' := by
  induction run generalizing c with
  | done r =>
    rw [Run.andThen, always_after]
    exact hn c _ _ h
  | wait d s n ready resume ih =>
    exact ⟨h.1, fun c' s' come moved => ih c' s' come (h.2 c' s' come moved)⟩

/-- A change of the reply changes only what holds at the end. -/
theorem Always.mapReply {ended' : β → σ → Prop} {f : Reply σ α → Reply σ β} {run : Run σ α}
    (h : run.Always others waiting ended)
    (hf : ∀ r, ended r.value r.state → ended' (f r).value (f r).state) :
    (run.mapReply f).Always others waiting ended' := by
  induction run with
  | done r => exact hf r h
  | wait d s n ready resume ih =>
    exact ⟨h.1, fun c s' come moved => ih c s' come (h.2 c s' come moved)⟩

/-- A run on a part of a state, seen from the whole. The frame holds of the rest of the
state as long as the run stands at its waits. -/
theorem Always.within (frame : τ → Prop) {p : Part τ σ} {others' : τ → τ → Prop}
    {waiting' : τ → Prop} {ended' : α → τ → Prop} {run : Run σ α} {t : τ}
    (h : run.Always others waiting ended) (ht : frame t)
    (hw : ∀ s t, frame t → waiting s → waiting' (p.place s t))
    (ho : ∀ s t t', frame t → waiting s → others' (p.place s t) t' →
      others s (p.view t') ∧ frame t')
    (he : ∀ a s t, frame t → ended a s → ended' a (p.place s t)) :
    (run.within p t).Always others' waiting' ended' := by
  induction run generalizing t with
  | done r => exact he _ _ _ ht h
  | wait d s n ready resume ih =>
    refine ⟨hw s t ht h.1, ?_⟩
    intro c t' come moved
    obtain ⟨hm, hf⟩ := ho s t t' ht h.1 moved
    exact ih _ _ come (h.2 _ _ come hm) hf

/-! ### Runs that do not wait -/

/-- The run has ended without waiting. -/
def AtOnce (run : Run σ α) : Prop := ∃ r, run = .done r

theorem AtOnce.within {p : Part τ σ} {run : Run σ α} (h : run.AtOnce) (t : τ) :
    (run.within p t).AtOnce := by
  obtain ⟨r, rfl⟩ := h
  exact ⟨_, rfl⟩

theorem AtOnce.mapReply {f : Reply σ α → Reply σ β} {run : Run σ α} (h : run.AtOnce) :
    (run.mapReply f).AtOnce := by
  obtain ⟨r, rfl⟩ := h
  exact ⟨_, rfl⟩

theorem AtOnce.after {run : Run σ α} (h : run.AtOnce) (n : List Note) :
    (run.after n).AtOnce := by
  obtain ⟨r, rfl⟩ := h
  exact ⟨_, rfl⟩

theorem AtOnce.andThen {run : Run σ α} {c : Caller} {next : Caller → α → σ → Run σ β}
    (h : run.AtOnce) (hn : ∀ a s, (next c a s).AtOnce) : (run.andThen c next).AtOnce := by
  obtain ⟨r, rfl⟩ := h
  exact (hn r.value r.state).after r.notes

/-- A run in two parts that has ended has ended in both of them. -/
theorem andThen_eq_done {run : Run σ α} {c : Caller} {next : Caller → α → σ → Run σ β}
    {r : Reply σ β} (h : run.andThen c next = .done r) :
    ∃ first last, run = .done first ∧ next c first.value first.state = .done last ∧
      last.value = r.value ∧ last.state = r.state := by
  cases run with
  | wait d s n ready resume =>
    rw [Run.andThen] at h
    exact nomatch h
  | done first =>
    rw [Run.andThen] at h
    cases hlast : next c first.value first.state with
    | wait d s n ready resume =>
      rw [hlast] at h
      exact nomatch h
    | done last =>
      rw [hlast] at h
      cases h
      exact ⟨first, last, rfl, hlast, rfl, rfl⟩

/-- A run on a part that has ended leaves the rest of the state alone. -/
theorem within_eq_done {p : Part τ σ} {t : τ} {run : Run σ α} {r : Reply τ α}
    (h : run.within p t = .done r) :
    ∃ part, run = .done part ∧ r.value = part.value ∧ r.state = p.place part.state t := by
  cases run with
  | wait d s n ready resume => exact nomatch h
  | done part =>
    cases h
    exact ⟨part, rfl, rfl, rfl⟩

/-- The run has ended without waiting, with such an answer and such a state. -/
def Returns (run : Run σ α) (ended : α → σ → Prop) : Prop :=
  run.Always (fun _ _ => True) (fun _ => False) ended

theorem Returns.done {ended : α → σ → Prop} {run : Run σ α} (h : run.Returns ended) :
    ∃ r, run = .done r ∧ ended r.value r.state := by
  cases run with
  | done r => exact ⟨r, rfl, h⟩
  | wait d s n ready resume => exact False.elim h.1

theorem Returns.mono {ended' : α → σ → Prop} {run : Run σ α} (h : run.Returns ended)
    (he : ∀ a s, ended a s → ended' a s) : run.Returns ended' :=
  Always.mono h (fun _ hf => hf) he

theorem returns_after (run : Run σ α) (n : List Note) :
    (run.after n).Returns ended ↔ run.Returns ended :=
  always_after run n

theorem Returns.andThen {ended' : β → σ → Prop} {run : Run σ α} {c : Caller}
    {next : Caller → α → σ → Run σ β} (h : run.Returns ended)
    (hn : ∀ c a s, ended a s → (next c a s).Returns ended') :
    (run.andThen c next).Returns ended' :=
  Always.andThen h hn

/-- Without a wait in between, the same caller goes on. -/
theorem Returns.andThen_same {ended' : β → σ → Prop} {run : Run σ α} {c : Caller}
    {next : Caller → α → σ → Run σ β} (h : run.Returns ended)
    (hn : ∀ a s, ended a s → (next c a s).Returns ended') :
    (run.andThen c next).Returns ended' := by
  obtain ⟨r, rfl, hr⟩ := h.done
  rw [Run.andThen, returns_after]
  exact hn _ _ hr

theorem Returns.mapReply {ended' : β → σ → Prop} {f : Reply σ α → Reply σ β} {run : Run σ α}
    (h : run.Returns ended)
    (hf : ∀ r, ended r.value r.state → ended' (f r).value (f r).state) :
    (run.mapReply f).Returns ended' :=
  Always.mapReply h hf

/-- A change of the answer changes only what holds of it. -/
theorem returns_map {f : α → β} {ended : β → σ → Prop} (run : Run σ α) :
    (run.mapReply (·.map f)).Returns ended ↔ run.Returns fun a s => ended (f a) s := by
  cases run with
  | done r => exact Iff.rfl
  | wait d s n ready resume => exact ⟨fun h => h.1.elim, fun h => h.1.elim⟩

theorem Returns.within {p : Part τ σ} {ended' : α → τ → Prop} {run : Run σ α} {t : τ}
    (h : run.Returns ended) (he : ∀ a s, ended a s → ended' a (p.place s t)) :
    (run.within p t).Returns ended' := by
  obtain ⟨r, rfl, hr⟩ := h.done
  exact he _ _ hr

/-! ### Stretches -/

/-- Every stretch of a run up to a wait is in one relation, and the last one, with the
answer, in another. The first stretch begins at the given state. -/
def Each (stretch : σ → σ → Prop) (last : σ → α → σ → Prop) (s₀ : σ) : Run σ α → Prop
  | .done r => last s₀ r.value r.state
  | .wait _ s _ ready resume =>
    stretch s₀ s ∧ ∀ c s' (come : ready c s' = true), Each stretch last s' (resume c s' come)

variable {stretch : σ → σ → Prop} {last : σ → α → σ → Prop}

/-- The first stretch may have begun earlier. -/
theorem Each.start {s₀ s₁ : σ} {run : Run σ α} (h : run.Each stretch last s₁)
    (hs : ∀ s, stretch s₁ s → stretch s₀ s) (hl : ∀ a s, last s₁ a s → last s₀ a s) :
    run.Each stretch last s₀ := by
  cases run with
  | done r => exact hl _ _ h
  | wait d s n ready resume => exact ⟨hs _ h.1, h.2⟩

/-- Stretches of which nothing is asked. -/
theorem each_true (run : Run σ α) (s₀ : σ) :
    run.Each (fun _ _ => True) (fun _ _ _ => True) s₀ := by
  induction run generalizing s₀ with
  | done r => exact True.intro
  | wait d s n ready resume ih => exact ⟨True.intro, fun c s' come => ih c s' come s'⟩

/-- What holds of every stretch holds of the one up to the first stop. -/
theorem Each.first {s₀ : σ} {run : Run σ α} (h : run.Each stretch (fun s _ s' => stretch s s') s₀) :
    stretch s₀ run.state := by
  cases run with
  | done r => exact h
  | wait d s n ready resume => exact h.1

/-- Weaker relations hold as well. -/
theorem Each.mono {stretch' : σ → σ → Prop} {last' : σ → α → σ → Prop} {s₀ : σ}
    {run : Run σ α} (h : run.Each stretch last s₀) (hs : ∀ s s', stretch s s' → stretch' s s')
    (hl : ∀ s a s', last s a s' → last' s a s') : run.Each stretch' last' s₀ := by
  induction run generalizing s₀ with
  | done r => exact hl _ _ _ h
  | wait d s n ready resume ih =>
    exact ⟨hs _ _ h.1, fun c s' come => ih c s' come (h.2 c s' come)⟩

/-- Notes made earlier change nothing. -/
theorem each_after (run : Run σ α) (n : List Note) (s₀ : σ) :
    (run.after n).Each stretch last s₀ ↔ run.Each stretch last s₀ := by
  cases run <;> exact Iff.rfl

/-- A run goes on in the last stretch of its first part. -/
theorem Each.andThen {last' : σ → β → σ → Prop} {s₀ : σ} {run : Run σ α} {c : Caller}
    {next : Caller → α → σ → Run σ β} (h : run.Each stretch last s₀)
    (hn : ∀ c s a s', last s a s' → (next c a s').Each stretch last' s) :
    (run.andThen c next).Each stretch last' s₀ := by
  induction run generalizing s₀ c with
  | done r =>
    rw [Run.andThen, each_after]
    exact hn c _ _ _ h
  | wait d s n ready resume ih => exact ⟨h.1, fun c' s' come => ih c' s' come (h.2 c' s' come)⟩

/-- A change of the reply changes only the last stretch. -/
theorem Each.mapReply {last' : σ → β → σ → Prop} {f : Reply σ α → Reply σ β} {s₀ : σ}
    {run : Run σ α} (h : run.Each stretch last s₀)
    (hf : ∀ s r, last s r.value r.state → last' s (f r).value (f r).state) :
    (run.mapReply f).Each stretch last' s₀ := by
  induction run generalizing s₀ with
  | done r => exact hf _ r h
  | wait d s n ready resume ih => exact ⟨h.1, fun c s' come => ih c s' come (h.2 c s' come)⟩

/-- A run on a part of a state, seen from the whole. -/
theorem Each.within {p : Part τ σ} {stretch' : τ → τ → Prop} {last' : τ → α → τ → Prop}
    {run : Run σ α} {t : τ} (h : run.Each stretch last (p.view t))
    (hs : ∀ t s, stretch (p.view t) s → stretch' t (p.place s t))
    (hl : ∀ t a s, last (p.view t) a s → last' t a (p.place s t)) :
    (run.within p t).Each stretch' last' t := by
  induction run generalizing t with
  | done r => exact hl _ _ _ h
  | wait d s n ready resume ih =>
    exact ⟨hs _ _ h.1, fun c t' come => ih _ _ come (h.2 _ _ come)⟩

end Run

end QueryCache
