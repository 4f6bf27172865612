import Mathlib.Data.List.Forall2
import QueryCache.Proofs.Counters
import QueryCache.Proofs.Stack.Traffic

/-!
# Counted lookups

Hit counting changes nothing: whatever the cache inside is and does, and however calls overlap, the
layer hands on every call as it is asked, and answers as the cache inside does. Its own tally says
how many lookups there were and how many of them found something, and what it counts for observers
comes to the same: every lookup is a hit, a miss, a failure or still waits (`lookups_counted`).

The cache inside may count hits and misses under the same identity, as hit counting over hit
counting does; then the totals that are published have grown by what both of them count
(`hits_counted_twice`).
-/

namespace QueryCache

namespace Answered

/-- What the answer to a lookup is counted as; an explicit null is a hit, and a failure counts as
nothing. -/
def metric? (a : Answered) : Option Metric :=
  match a.demand, a.value with
  | .get _, .ok (.entry (some _)) => some .hit
  | .get _, .ok _ => some .miss
  | _, _ => none

/-- Whether the answer is counted as such under an identity. -/
def counts (a : Answered) (x : Metric) (id : String) : Bool :=
  a.metric? = some x && a.cache = id

/-- Whether a lookup has failed. -/
def failed (a : Answered) : Bool :=
  a.demand.isGet && a.value matches .error _

theorem metric?_eq_none {a : Answered} (h : a.demand.isGet = false) : a.metric? = none := by
  obtain ⟨d, v, id⟩ := a
  cases d with
  | get k => exact nomatch h
  | put k e | remove k | clear | size => rfl

/-- The answer to a lookup is one of a hit, a miss and a failure; any other answer is none. -/
theorem isGet_eq (a : Answered) :
    (if a.demand.isGet then 1 else 0) =
      (if a.metric? = some .hit then 1 else 0) + (if a.metric? = some .miss then 1 else 0) +
        if a.failed then 1 else 0 := by
  obtain ⟨d, v, id⟩ := a
  cases d with
  | put k e | remove k | clear | size => rfl
  | get k =>
    cases v with
    | error f => rfl
    | ok r =>
      cases r with
      | done | count n => rfl
      | entry found => cases found <;> rfl

/-- Every answer to a lookup is a hit, a miss or a failure. -/
theorem countP_isGet (answers : List Answered) :
    answers.countP (·.demand.isGet) =
      answers.countP (·.metric? = some .hit) + answers.countP (·.metric? = some .miss) +
        answers.countP failed := by
  induction answers with
  | nil => rfl
  | cons a answers ih =>
    have ha := a.isGet_eq
    simp only [List.countP_cons, decide_eq_true_eq]
    omega

end Answered

namespace Tally

/-- The tally once something is asked. -/
def asked (t : Tally) (d : Demand) : Tally :=
  if d.isGet then { t with requests := t.requests + 1 } else t

/-- The tally once it is answered. -/
def answered (t : Tally) (a : Answered) : Tally :=
  if a.metric? = some .hit then { t with hits := t.hits + 1 } else t

theorem requests_asked (t : Tally) (d : Demand) :
    (t.asked d).requests = t.requests + if d.isGet then 1 else 0 := by
  unfold asked
  split <;> rfl

theorem hits_asked (t : Tally) (d : Demand) : (t.asked d).hits = t.hits := by
  unfold asked
  split <;> rfl

theorem requests_answered (t : Tally) (a : Answered) : (t.answered a).requests = t.requests := by
  unfold answered
  split <;> rfl

theorem hits_answered (t : Tally) (a : Answered) :
    (t.answered a).hits = t.hits + if a.metric? = some .hit then 1 else 0 := by
  unfold answered
  split <;> rfl

end Tally

namespace Logging

open Traffic

variable {ρ σ : Type} {inner : Cache σ}

/-! ### One call -/

/-- A call of the layer, entered with a tally, goes on as a call of the cache inside does. It waits
where that waits, and only lookups do; it answers the same and leaves the same inside, and counts
what that counts and the answer. -/
inductive Echoes (inner : Cache σ) (d : Demand) :
    Tally → Run (Over Tally σ) (Except CacheFailure Response) →
      Run σ (Except CacheFailure Response) → Prop
  | done {t : Tally} {n : List Note} (r : Reply σ (Except CacheFailure Response))
      (counts : ∀ x id, Note.counted x id n = Note.counted x id r.notes +
        if Answered.counts ⟨d, r.value, inner.id r.state⟩ x id then 1 else 0) :
      Echoes inner d t
        (.done ⟨r.value, ⟨t.answered ⟨d, r.value, inner.id r.state⟩, r.state⟩, n⟩) (.done r)
  | wait {t : Tally} {deadline s n n' ready ready' resume resume'} (lookup : d.isGet = true)
      (counts : ∀ x id, Note.counted x id n = Note.counted x id n')
      (same : ∀ c s, ready c s = ready' c s.inner)
      (rest : ∀ c s come come',
        Echoes inner d s.own (resume c s come) (resume' c s.inner come')) :
      Echoes inner d t (.wait deadline ⟨t, s⟩ n ready resume) (.wait deadline s n' ready' resume')

variable {d : Demand} {t : Tally} {call : Run (Over Tally σ) (Except CacheFailure Response)}
  {model : Run σ (Except CacheFailure Response)}

/-- Notes that count nothing may be made before. -/
theorem Echoes.after (h : Echoes inner d t call model) {notes : List Note}
    (hnotes : ∀ x id, Note.counted x id notes = 0) : Echoes inner d t (call.after notes) model := by
  cases h with
  | done r counts =>
    refine .done r fun x id => ?_
    rw [Note.counted_append, hnotes, Nat.zero_add, counts]
  | wait lookup counts same rest =>
    refine .wait lookup (fun x id => ?_) same rest
    rw [Note.counted_append, hnotes, Nat.zero_add, counts]

/-- Lookups are counted as they begin, not as they go on or end. -/
theorem Echoes.requests (h : Echoes inner d t call model) :
    call.state.own.requests = t.requests := by
  cases h with
  | done r counts => exact t.requests_answered _
  | wait lookup counts same rest => rfl

/-- An answer from inside is entered in the tally and counted, and goes on as it is. -/
theorem looked_counts (inner : Cache σ) (k : Key) (c : Caller)
    (v : Except CacheFailure (Option Entry)) (s : Over Tally σ) :
    let a : Answered := ⟨.get k, v.map .entry, inner.id s.inner⟩
    ∃ n, looked inner c v s = .done ⟨v, ⟨s.own.answered a, s.inner⟩, n⟩ ∧
      ∀ x id, Note.counted x id n = if a.counts x id then 1 else 0 := by
  obtain f | _ | e := v
  · exact ⟨_, rfl, fun x id => rfl⟩
  · refine ⟨_, rfl, fun x id => ?_⟩
    simp [Note.counted, List.countP_cons, Answered.counts, Answered.metric?, Except.map]
  · refine ⟨_, rfl, fun x id => ?_⟩
    simp [Note.counted, List.countP_cons, Answered.counts, Answered.metric?, Except.map]

/-- A lookup that the cache inside has begun, with what follows it. -/
theorem looked_echoes (inner : Cache σ) (k : Key) (c : Caller) (s : Over Tally σ)
    (lookup : Run σ (Except CacheFailure (Option Entry))) :
    Echoes inner (.get k) s.own
      (((lookup.within inside s).andThen c (looked inner)).mapReply (·.map (·.map .entry)))
      (lookup.mapReply (·.map (·.map .entry))) := by
  induction lookup generalizing c s with
  | done r =>
    obtain ⟨n, hlooked, hn⟩ := looked_counts inner k c r.value ⟨s.own, r.state⟩
    have hrun : ((Run.done r).within inside s).andThen c (looked inner) =
        .done ⟨r.value, ⟨s.own.answered ⟨.get k, r.value.map .entry, inner.id r.state⟩, r.state⟩,
          r.notes ++ n⟩ :=
      congrArg (Run.after · r.notes) hlooked
    rw [hrun]
    refine .done (r.map (·.map .entry)) fun x id => ?_
    rw [Note.counted_append, hn]
    rfl
  | wait deadline i n ready resume ih =>
    -- The caller passed inside is the same one, but not by definition.
    have hrest (c c' : Caller) (hc : c' = c) (t : Over Tally σ) (come : ready c' t.inner = true)
        (come' : ready c t.inner = true) :
        Echoes inner (.get k) t.own
          ((((resume c' t.inner come).within inside t).andThen c (looked inner)).mapReply
            (·.map (·.map .entry)))
          ((resume c t.inner come').mapReply (·.map (·.map .entry))) := by
      subst hc
      exact ih _ t.inner come _ t
    exact .wait rfl (fun _ _ => rfl) (fun c t => congrArg (ready · t.inner) c.holding_none)
      fun c t come come' => hrest c _ c.holding_none t come come'

/-- A call that is no lookup is not counted. -/
theorem Echoes.of_reply (hd : d.isGet = false) (t : Tally) {n : List Note}
    (r : Reply σ (Except CacheFailure Response))
    (counts : ∀ x id, Note.counted x id n = Note.counted x id r.notes) :
    Echoes inner d t (.done ⟨r.value, ⟨t, r.state⟩, n⟩) (.done r) := by
  have hnone : Answered.metric? ⟨d, r.value, inner.id r.state⟩ = none :=
    Answered.metric?_eq_none hd
  have htally : t.answered ⟨d, r.value, inner.id r.state⟩ = t := by
    rw [Tally.answered, hnone]
    rfl
  have hdone : Echoes inner d t
      (.done ⟨r.value, ⟨t.answered ⟨d, r.value, inner.id r.state⟩, r.state⟩, n⟩) (.done r) :=
    .done r fun x id => by simp [Answered.counts, hnone, counts]
  rwa [htally] at hdone

/-- The ends of a span and the report on a result count nothing. -/
theorem operation_echoes {α : Type} (hd : d.isGet = false) (s : Over Tally σ) (span : Span)
    {report : Except CacheFailure α → List Note}
    (hreport : ∀ v x id, Note.counted x id (report v) = 0) (r : Reply σ (Except CacheFailure α))
    (f : α → Response) :
    Echoes inner d s.own (.done ((operation span report (r.within inside s)).map (·.map f)))
      (.done (r.map (·.map f))) := by
  refine .of_reply hd s.own (r.map (·.map f)) fun x id => ?_
  have hnotes : (operation span report (r.within inside s)).notes =
      [.enter span] ++ (r.notes ++ (report r.value ++ [.leave])) :=
    congrArg (Note.enter span :: ·) (List.append_assoc ..)
  rw [Reply.map, hnotes, Note.counted_append, Note.counted_append, Note.counted_append, hreport]
  exact Nat.zero_add _

theorem counted_onFailure {α : Type} (name : String) (v : Except CacheFailure α) (x : Metric)
    (id : String) : Note.counted x id (onFailure name v) = 0 := by
  cases v <;> rfl

theorem counted_onRemoval (v : Except CacheFailure (Option Entry)) (x : Metric) (id : String) :
    Note.counted x id (onRemoval v) = 0 := by
  cases v <;> rfl

/-- The cache inside is called by the same caller. -/
theorem inside_reply {α : Type} (f : Caller → σ → Reply σ α) (c : Caller) (s : Over Tally σ) :
    inside.reply c s f = (f c s.inner).within inside s :=
  congrArg (fun c => (f c s.inner).within inside s) c.holding_none

theorem inside_run {α : Type} (f : Caller → σ → Run σ α) (c : Caller) (s : Over Tally σ) :
    inside.run c s f = (f c s.inner).within inside s :=
  congrArg (fun c => (f c s.inner).within inside s) c.holding_none

/-- The layer carries out a call as the cache inside does. -/
theorem ask_echoes (inner : Cache σ) (c : Caller) (d : Demand) (s : Over Tally σ) :
    Echoes inner d (s.own.asked d) ((cache inner).ask c s d) (inner.ask c s.inner d) := by
  cases d with
  | get k =>
    have hlooked := looked_echoes inner k c ⟨s.own.asked (.get k), s.inner⟩ (inner.get c k s.inner)
    have hask : (cache inner).ask c s (.get k) =
        ((((inner.get c k s.inner).within inside ⟨s.own.asked (.get k), s.inner⟩).andThen c
          (looked inner)).mapReply (·.map (·.map .entry))).after
            [.enter (.get (inner.id s.inner) k)] := by
      rw [← Run.map_after]
      unfold Cache.ask cache get
      dsimp only
      rw [inside_run]
      rfl
    rw [hask]
    exact hlooked.after fun _ _ => rfl
  | put k e =>
    unfold Cache.ask cache
    dsimp only
    rw [inside_reply]
    exact operation_echoes rfl s _ (counted_onFailure _) _ _
  | remove k =>
    unfold Cache.ask cache
    dsimp only
    rw [inside_reply]
    exact operation_echoes rfl s _ counted_onRemoval _ _
  | clear =>
    unfold Cache.ask cache
    dsimp only
    rw [inside_reply]
    exact operation_echoes rfl s _ (counted_onFailure _) _ _
  | size =>
    unfold Cache.ask cache
    dsimp only
    rw [inside_reply]
    exact .of_reply rfl s.own ((inner.size c s.inner).map fun n => .ok (.count n)) fun _ _ => rfl

/-! ### Calls that overlap -/

/-- A call of the layer waits as one of the cache inside does. -/
structure Echo (inner : Cache σ) (w : Suspended (Over Tally σ)) (v : Suspended σ) : Prop where
  demand : w.demand = v.demand
  lookup : v.demand.isGet = true
  ready : ∀ c s, w.ready c s = v.ready c s.inner
  rest : ∀ c s come come',
    Echoes inner v.demand s.own (w.resume c s come) (v.resume c s.inner come')

/-- The layer has made of its turns what the cache inside makes of the same ones, and has counted
the lookups that are answered, those that wait, and some that have begun. -/
structure Alike (inner : Cache σ) (begun : Nat) (m : Traffic (Over Tally σ)) (u : Traffic σ) :
    Prop where
  state : m.state.inner = u.state
  answers : m.answers = u.answers
  waiting : List.Forall₂ (Echo inner) m.waiting u.waiting
  requests : m.state.own.requests =
    m.answers.countP (·.demand.isGet) + m.waiting.length + begun
  hits : m.state.own.hits = m.answers.countP (·.metric? = some .hit)
  counts : ∀ x id, Note.counted x id m.notes =
    Note.counted x id u.notes + m.answers.countP (·.counts x id)

variable {m : Traffic (Over Tally σ)} {u : Traffic σ}

/-- A call comes to its answer or to a wait on both sides. -/
theorem Alike.stop (h : Alike inner (if d.isGet then 1 else 0) m u)
    (hcall : Echoes inner d m.state.own call model) :
    Alike inner 0 (m.stop (cache inner) d call) (u.stop inner d model) := by
  cases hcall with
  | done r counts =>
    dsimp only [Traffic.stop, cache]
    have hd : (⟨d, r.value, inner.id r.state⟩ : Answered).demand.isGet = d.isGet := rfl
    generalize (⟨d, r.value, inner.id r.state⟩ : Answered) = a at counts hd ⊢
    constructor
    case state => rfl
    case answers => exact congrArg (· ++ [a]) h.answers
    case waiting => exact h.waiting
    case requests =>
      rw [Tally.requests_answered, h.requests, List.countP_append, List.countP_singleton, hd]
      exact Nat.add_right_comm ..
    case hits =>
      rw [Tally.hits_answered, h.hits, List.countP_append, List.countP_singleton]
      simp only [decide_eq_true_eq]
    case counts =>
      intro x id
      rw [Note.counted_append, Note.counted_append, h.counts, counts, List.countP_append,
        List.countP_singleton]
      exact Nat.add_add_add_comm ..
  | wait lookup counts same rest =>
    rw [if_pos lookup] at h
    dsimp only [Traffic.stop]
    constructor
    case state => rfl
    case answers => exact h.answers
    case waiting => exact List.rel_append h.waiting (.cons ⟨rfl, lookup, same, rest⟩ .nil)
    case requests =>
      rw [h.requests, List.length_append]
      rfl
    case hits => exact h.hits
    case counts =>
      intro x id
      rw [Note.counted_append, Note.counted_append, h.counts, counts]
      exact Nat.add_right_comm ..

/-- A lookup that begins is counted. -/
theorem Alike.ask (h : Alike inner 0 m u) (d : Demand) :
    Alike inner (if d.isGet then 1 else 0)
      { m with state := ⟨m.state.own.asked d, m.state.inner⟩ } u where
  state := h.state
  answers := h.answers
  waiting := h.waiting
  requests := (Tally.requests_asked _ d).trans (congrArg (· + _) h.requests)
  hits := (Tally.hits_asked _ d).trans h.hits
  counts := h.counts

/-- A lookup that waited is on its way again. -/
theorem Alike.resume (h : Alike inner 0 m u) {place : Nat} {w : Suspended (Over Tally σ)}
    (hw : m.waiting[place]? = some w) (hd : d.isGet = true) :
    Alike inner (if d.isGet then 1 else 0) { m with waiting := m.waiting.eraseIdx place }
      { u with waiting := u.waiting.eraseIdx place } where
  state := h.state
  answers := h.answers
  waiting := by
    rw [List.eraseIdx_eq_take_drop_succ, List.eraseIdx_eq_take_drop_succ]
    exact List.rel_append (List.forall₂_take place h.waiting)
      (List.forall₂_drop (place + 1) h.waiting)
  requests := by
    have hlt : place < m.waiting.length := (List.getElem?_eq_some_iff.mp hw).1
    rw [h.requests, ← List.length_eraseIdx_add_one hlt, if_pos hd]
    rfl
  hits := h.hits
  counts := h.counts

/-- The same place holds calls that wait alike, or none. -/
theorem waiting_getElem? {ws : List (Suspended (Over Tally σ))} {vs : List (Suspended σ)}
    (h : List.Forall₂ (Echo inner) ws vs) (place : Nat) :
    Option.Rel (Echo inner) ws[place]? vs[place]? := by
  induction h generalizing place with
  | nil => exact .none
  | cons hecho hrest ih =>
    cases place with
    | zero => exact .some hecho
    | succ place => exact ih place

/-- The two sides stay alike in a turn, in which a lookup is counted if one begins. -/
theorem Alike.turn (h : Alike inner 0 m u) (meddle : ρ → σ → σ) (t : Turn ρ) :
    Alike inner 0 (m.turn (cache inner) (beneath meddle) t) (u.turn inner meddle t) ∧
      (m.turn (cache inner) (beneath meddle) t).state.own.requests =
        m.state.own.requests + if t.isGet then 1 else 0 := by
  obtain ⟨i, vs, answers, notes⟩ := u
  obtain rfl : m.state.inner = i := h.state
  cases t with
  | ask c d =>
    have hcall := ask_echoes inner c d m.state
    constructor
    · have hstop := (h.ask d).stop hcall
      rwa [stop_of_state] at hstop
    · rw [Traffic.turn, state_stop, hcall.requests]
      exact Tally.requests_asked _ d
  | resume place c =>
    have hplace := waiting_getElem? h.waiting place
    unfold Traffic.turn
    dsimp only at hplace ⊢
    generalize hw : m.waiting[place]? = w at hplace ⊢
    generalize vs[place]? = v at hplace ⊢
    cases hplace with
    | none => exact ⟨h, rfl⟩
    | @some w v hecho =>
      dsimp only
      by_cases come : w.ready c m.state = true
      · have come' : v.ready c m.state.inner = true := (hecho.ready c m.state).symm.trans come
        have hcall := hecho.rest c m.state come come'
        rw [dif_pos come, dif_pos come', hecho.demand]
        refine ⟨(h.resume hw hecho.lookup).stop hcall, ?_⟩
        rw [state_stop, hcall.requests]
        rfl
      · have come' : ¬v.ready c m.state.inner = true := fun hv =>
          come ((hecho.ready c m.state).trans hv)
        rw [dif_neg come, dif_neg come']
        exact ⟨h, rfl⟩
  | others deed =>
    exact ⟨⟨rfl, h.answers, h.waiting, h.requests, h.hits, h.counts⟩, rfl⟩

/-- The two sides stay alike in all turns, in which each lookup that begins is counted. -/
theorem Alike.run (h : Alike inner 0 m u) (meddle : ρ → σ → σ) (turns : List (Turn ρ)) :
    Alike inner 0 (m.run (cache inner) (beneath meddle) turns) (u.run inner meddle turns) ∧
      (m.run (cache inner) (beneath meddle) turns).state.own.requests =
        m.state.own.requests + turns.countP Turn.isGet := by
  induction turns generalizing m u with
  | nil => exact ⟨h, rfl⟩
  | cons t turns ih =>
    obtain ⟨hnext, hrequests⟩ := h.turn meddle t
    obtain ⟨hend, hlater⟩ := ih hnext
    refine ⟨hend, hlater.trans ?_⟩
    rw [hrequests, List.countP_cons, Nat.add_assoc, Nat.add_comm (turns.countP _)]

/-- What the layer has made of some turns, beside what the cache inside makes of the same ones. -/
structure Exact (turns : List (Turn ρ)) (m : Traffic (Over Tally σ)) (u : Traffic σ) : Prop where
  /-- The cache inside is as it is without the layer. -/
  state : m.state.inner = u.state
  /-- It gives the answers, failures as well as results. -/
  answers : m.answers = u.answers
  /-- The same calls wait. -/
  waiting : m.waiting.map (·.demand) = u.waiting.map (·.demand)
  /-- All lookups are in the tally. -/
  requests : m.state.own.requests = turns.countP Turn.isGet
  /-- So are those that have found something. -/
  hits : m.state.own.hits = m.answers.countP (·.metric? = some .hit)
  /-- There are no more of these than lookups. -/
  misses : m.state.own.hits + m.state.own.misses = m.state.own.requests
  /-- Every lookup has found something, has found nothing, has failed or waits. -/
  lookups : m.state.own.requests =
    m.state.own.hits + m.answers.countP (·.metric? = some .miss) +
      m.answers.countP Answered.failed + m.waiting.length
  /-- What is published grows by the first and the second of these, beyond what the cache inside
  adds to it. -/
  published : ∀ (counters : Counters) (id : String), (∀ a ∈ m.answers, a.cache = id) →
    (counters.addNotes m.notes).total .hit id =
        (counters.addNotes u.notes).total .hit id + m.state.own.hits ∧
      (counters.addNotes m.notes).total .miss id =
        (counters.addNotes u.notes).total .miss id + m.answers.countP (·.metric? = some .miss)

/-- With a fixed identity, all that is counted as a metric is counted there. -/
theorem countP_counts {answers : List Answered} {id : String} (h : ∀ a ∈ answers, a.cache = id)
    (x : Metric) : answers.countP (·.counts x id) = answers.countP (·.metric? = some x) :=
  List.countP_congr fun a ha => by simp [Answered.counts, h a ha]

/-- Sides that are alike after some turns, all lookups of which are in the tally, agree on all
counts. -/
theorem Alike.exact {turns : List (Turn ρ)} (h : Alike inner 0 m u)
    (hrequests : m.state.own.requests = turns.countP Turn.isGet) : Exact turns m u where
  state := h.state
  answers := h.answers
  waiting := by
    have hdemands : List.Forall₂ (· = ·) (m.waiting.map (·.demand)) (u.waiting.map (·.demand)) :=
      List.forall₂_map_left_iff.mpr
        (List.forall₂_map_right_iff.mpr (h.waiting.imp fun _ _ => Echo.demand))
    rwa [List.forall₂_eq_eq_eq] at hdemands
  requests := hrequests
  hits := h.hits
  misses := by
    have hlookups := Answered.countP_isGet m.answers
    have hall := h.requests
    have hhits := h.hits
    rw [Tally.misses]
    omega
  lookups := by
    rw [h.requests, Answered.countP_isGet, h.hits]
    omega
  published := by
    intro counters id hid
    have hgrown (x : Metric) : (counters.addNotes m.notes).total x id =
        (counters.addNotes u.notes).total x id + m.answers.countP (·.metric? = some x) := by
      rw [Counters.total_addNotes, Counters.total_addNotes, h.counts, countP_counts hid,
        Nat.add_assoc]
    refine ⟨?_, hgrown .miss⟩
    rw [h.hits]
    exact hgrown .hit

/-- Whatever the cache inside is and does, and whatever it is asked, hit counting over it is exact,
and asks it just what is asked, by the same callers and in the same order. -/
theorem lookups_counted (inner : Cache σ) (meddle : ρ → σ → σ) (i : σ) (turns : List (Turn ρ)) :
    Exact turns (run (cache inner) (beneath meddle) ⟨⟨{}, i⟩, [], [], []⟩ turns)
        (run inner meddle ⟨i, [], [], []⟩ turns) ∧
      (run (cache inner.recorded) (beneath (beneath meddle)) ⟨⟨{}, [], i⟩, [], [], []⟩
        turns).state.inner.own = turns.filterMap Turn.call? := by
  have hexact {τ : Type} (inner : Cache τ) (meddle : ρ → τ → τ) (i : τ) :
      Exact turns (run (cache inner) (beneath meddle) ⟨⟨{}, i⟩, [], [], []⟩ turns)
        (run inner meddle ⟨i, [], [], []⟩ turns) := by
    have hstart : Alike inner 0 ⟨⟨{}, i⟩, [], [], []⟩ ⟨i, [], [], []⟩ :=
      ⟨rfl, rfl, .nil, rfl, rfl, fun _ _ => rfl⟩
    obtain ⟨hend, hrequests⟩ := hstart.run meddle turns
    exact hend.exact (hrequests.trans (Nat.zero_add _))
  refine ⟨hexact inner meddle i, ?_⟩
  rw [(hexact inner.recorded (beneath meddle) ⟨[], i⟩).state]
  exact run_recorded inner meddle i turns

/-- Make the lookups that wait for a lock fail. -/
def interrupting (_ : Unit) (s : Over Blocking Store) : Over Blocking Store :=
  { s with own := s.own.interrupt }

/-- Three threads look up one key. The first finds nothing and writes it; the second waits for that
and finds an explicit null; the third waits for the second and is interrupted. -/
def crossing : List (Turn Unit) :=
  [.ask {} (.get {}), .ask { thread := 1 } (.get {}), .ask { thread := 2 } (.get {}),
    .ask {} (.put {} .null), .resume 0 { thread := 1 }, .others (), .resume 0 { thread := 2 }]

/-- Of the lookups in `crossing`, one hits, one misses and one fails. -/
theorem lookups_counted_crossing :
    let m := run (cache (Blocking.cache Store.cache)) (beneath interrupting)
      ⟨⟨{}, {}, ⟨"users", Table.empty⟩⟩, [], [], []⟩ crossing
    (∀ a ∈ m.answers, a.cache = "users") ∧ m.state.own = ⟨3, 1⟩ ∧
      m.answers.countP Answered.failed = 1 ∧ m.waiting = [] ∧
      (Counters.addNotes {} m.notes).total .hit "users" = 1 ∧
      (Counters.addNotes {} m.notes).total .miss "users" = 1 := by
  intro m
  have hid : ∀ a ∈ m.answers, a.cache = "users" := by
    have hall : (m.answers.all fun a => a.cache = "users") = true := rfl
    simpa using hall
  obtain ⟨hhits, hmisses⟩ :=
    (lookups_counted (Blocking.cache Store.cache) interrupting ⟨{}, ⟨"users", Table.empty⟩⟩
      crossing).1.published {} "users" hid
  exact ⟨hid, rfl, rfl, rfl, hhits, hmisses⟩

/-- Over a cache that itself counts hits, both are published: an explicit null that is written and
looked up is one hit of the tally, and two of the total. -/
theorem hits_counted_twice :
    let m := run (cache (cache Store.cache)) (fun (_ : Unit) s => s)
      ⟨⟨{}, {}, ⟨"users", Table.empty⟩⟩, [], [], []⟩ [.ask {} (.put {} .null), .ask {} (.get {})]
    m.state.own = ⟨1, 1⟩ ∧ m.answers.countP Answered.failed = 0 ∧ m.waiting = [] ∧
      (Counters.addNotes {} m.notes).total .hit "users" = 2 ∧
      (Counters.addNotes {} m.notes).total .miss "users" = 0 ∧
      ¬m.state.own.requests = (Counters.addNotes {} m.notes).total .hit "users" +
        (Counters.addNotes {} m.notes).total .miss "users" +
          m.answers.countP Answered.failed := by
  exact ⟨rfl, rfl, rfl, rfl, rfl, by decide⟩

end Logging

end QueryCache
