import QueryCache.Layer.Store
import QueryCache.Proofs.Run
import QueryCache.Proofs.Stack.LockTable

/-!
# Mutual exclusion by key locks

One layer of key locks, used by any number of threads, over a cache that may answer anything.
The threads make whole calls, one at a time and in any order; a lookup of a key that another
thread owns is suspended, and comes back when what it waits for has come. A course is a list of
such steps, with what the threads could see of each.

Which thread owns a key is told from the course alone: the thread looked the key up in vain and
has neither written nor removed it since, nor looked it up with any other outcome. The lock table
agrees with that, and from there all else follows.
-/

namespace QueryCache

namespace Blocking

/-! ### Whole calls by many threads -/

variable {σ : Type} {t : Nat} {k : Key}

/-- A lookup of a key that another thread owned when it began. -/
structure Waiter (σ : Type) where
  caller : Caller
  key : Key
  /-- The state in which the lookup began. -/
  state : Over Blocking σ
  blocked : state.own.claimable caller.thread key = false

/-- The layer over its cache, and the lookups that are suspended. -/
structure Room (σ : Type) where
  state : Over Blocking σ
  waiters : List (Waiter σ) := []

/-- What threads see of a step. -/
inductive Event where
  | put (thread : Nat) (key : Key)
  | removed (thread : Nat) (key : Key)
  | cleared (thread : Nat)
  | waits (thread : Nat) (key : Key)
  | got (thread : Nat) (key : Key) (answer : Except CacheFailure (Option Entry))
  | interrupted

/-- One call, up to its end or its suspension; or the end of a suspended lookup; or an
interruption of all suspended lookups. The cache inside answers at once. A thread may make calls
while a lookup of its own is suspended, which is more than threads can do. -/
inductive Step (inner : Cache σ) : Room σ → Event → Room σ → Prop
  | put (c : Caller) (k : Key) (e : Entry) (m : Room σ) :
      Step inner m (.put c.thread k) ⟨((cache inner).put c k e m.state).state, m.waiters⟩
  | remove (c : Caller) (k : Key) (m : Room σ) :
      Step inner m (.removed c.thread k) ⟨((cache inner).remove c k m.state).state, m.waiters⟩
  | clear (c : Caller) (m : Room σ) :
      Step inner m (.cleared c.thread) ⟨((cache inner).clear c m.state).state, m.waiters⟩
  | get {c : Caller} {k : Key} {m : Room σ} {r}
      (ends : (cache inner).get c k m.state = .done r) :
      Step inner m (.got c.thread k r.value) ⟨r.state, m.waiters⟩
  | wait {c : Caller} {k : Key} {m : Room σ}
      (blocked : m.state.own.claimable c.thread k = false) :
      Step inner m (.waits c.thread k)
        ⟨((cache inner).get c k m.state).state, ⟨c, k, m.state, blocked⟩ :: m.waiters⟩
  | wake {m : Room σ} {w : Waiter σ} {before after c d s n ready resume r}
      (waiting : m.waiters = before ++ w :: after) (same : c.thread = w.caller.thread)
      (suspended : (cache inner).get w.caller w.key w.state = .wait d s n ready resume)
      (come : ready c m.state = true) (ends : resume c m.state come = .done r) :
      Step inner m (.got c.thread w.key r.value) ⟨r.state, before ++ after⟩
  | interrupt (m : Room σ) :
      Step inner m .interrupted ⟨{ m.state with own := m.state.own.interrupt }, m.waiters⟩

/-- Steps one after another; the events are listed latest first. -/
inductive Course (inner : Cache σ) (start : Room σ) : List Event → Room σ → Prop
  | nil : Course inner start [] start
  | cons {events m e m'} (course : Course inner start events m) (step : Step inner m e m') :
      Course inner start (e :: events) m'

/-- Before its first use, the layer has no locks. -/
def fresh (timeout : Option Duration) (i : σ) : Room σ := ⟨⟨withTimeout timeout, i⟩, []⟩

/-- The lookup found nothing, or an explicit null. -/
def Misses (answer : Except CacheFailure (Option Entry)) : Prop :=
  answer = .ok none ∨ answer = .ok (some .null)

/-- The thread looks the key up in vain. -/
def Event.Takes (t : Nat) (k : Key) : Event → Prop
  | .got thread key answer => thread = t ∧ key = k ∧ Misses answer
  | .put .. | .removed .. | .cleared _ | .waits .. | .interrupted => False

/-- The thread writes or removes the key, or a lookup of it finds something or fails. -/
def Event.Frees (t : Nat) (k : Key) : Event → Prop
  | .put thread key | .removed thread key => thread = t ∧ key = k
  | .got thread key answer => thread = t ∧ key = k ∧ ¬ Misses answer
  | .cleared _ | .waits .. | .interrupted => False

/-- The thread has looked the key up in vain and has not freed it since. -/
def Owns (t : Nat) (k : Key) : List Event → Prop
  | [] => False
  | e :: earlier => e.Takes t k ∨ (Owns t k earlier ∧ ¬ e.Frees t k)

/-! ### What steps do to the locks -/

variable {inner : Cache σ}

/-- A lookup that found nothing keeps its lock, and any other gives it back. -/
theorem settle_own {c : Caller} {answer : Except CacheFailure (Option Entry)} {s : Over Blocking σ}
    {r} (ends : settle t k c answer s = .done r) :
    r.value = answer ∧
      ((Misses answer ∧ r.state.own = s.own) ∨
        (¬ Misses answer ∧ r.state.own = s.own.release t k)) := by
  unfold settle at ends
  split at ends
  · cases ends
    exact ⟨rfl, .inl ⟨.inl rfl, rfl⟩⟩
  · cases ends
    exact ⟨rfl, .inl ⟨.inr rfl, rfl⟩⟩
  · next hnone hnull =>
    cases ends
    exact ⟨rfl, .inr ⟨fun hm => hm.elim hnone hnull, rfl⟩⟩

/-- A lookup under its lock leaves the lock owned if it found nothing, and free otherwise. -/
theorem fetch_locks {c : Caller} {s : Over Blocking σ} {r}
    (ends : fetch inner t c k s = .done r) (hidle : s.own.IdleAt k) :
    r.state.own.NoneIdle ∧ ∃ owner : Option Nat,
      (Misses r.value ∧ owner = some t ∨ ¬ Misses r.value ∧ owner = none) ∧
      ∀ a, r.state.own.lockOf a =
        if k = a then { s.own.lockOf k with owner } else s.own.lockOf a := by
  obtain ⟨looked, settled, hlooked, hsettled, hvalue, hstate⟩ := Run.andThen_eq_done ends
  obtain ⟨_, _, _, hplace⟩ := Run.within_eq_done hlooked
  have hown : looked.state.own = s.own.claim t k := congrArg Over.own hplace
  obtain ⟨hanswer, hsettle⟩ := settle_own hsettled
  rw [hown, ← hanswer, hvalue, hstate] at hsettle
  rcases hsettle with ⟨hm, hkept⟩ | ⟨hm, hgiven⟩
  · rw [hkept]
    exact ⟨hidle.claim, some t, .inl ⟨hm, rfl⟩, lockOf_claim⟩
  · rw [hgiven]
    refine ⟨hidle.claim.release, none, .inr ⟨hm, rfl⟩, fun a => ?_⟩
    rw [lockOf_release, lockOf_claim, lockOf_claim]
    by_cases hka : k = a
    · simp [hka]
    · simp [hka]

/-- The answer of a lookup that gave up waiting. -/
def Refuses (answer : Except CacheFailure (Option Entry)) : Prop :=
  ∃ f : CacheFailure, answer = .error f ∧ (f.isLockTimeout = true ∨ f.isInterrupted = true)

/-- A suspended lookup goes on under its lock if it can take it, and gives up otherwise. -/
theorem resume_spec {c₀ c : Caller} {s₀ s : Over Blocking σ} {d n ready resume r}
    {s' : Over Blocking σ} (hb : s₀.own.claimable c₀.thread k = false)
    (suspended : (cache inner).get c₀ k s₀ = .wait d s' n ready resume)
    (come : ready c s = true) (ends : resume c s come = .done r) :
    ((s.own.unawait k).claimable c₀.thread k = true ∧
        fetch inner c₀.thread c k { s with own := s.own.unawait k } = .done r) ∨
      ((s.own.unawait k).claimable c₀.thread k = false ∧ Refuses r.value ∧
        r.state.own = (s.own.unawait k).discardIdle k) := by
  change Blocking.get inner c₀ k s₀ = _ at suspended
  unfold Blocking.get at suspended
  rw [if_neg (by simp [hb])] at suspended
  dsimp only at suspended
  split at suspended
  · cases suspended
    dsimp only at ends
    split at ends
    · next hcan => exact .inl ⟨hcan, ends⟩
    · next hcan =>
      cases ends
      exact .inr ⟨by simpa using hcan, ⟨_, rfl, .inr rfl⟩, rfl⟩
  · cases suspended
    dsimp only at ends
    split at ends
    · next hcan => exact .inl ⟨hcan, ends⟩
    · next hcan =>
      split at ends
      · cases ends
        exact .inr ⟨by simpa using hcan, ⟨_, rfl, .inr rfl⟩, rfl⟩
      · cases ends
        exact .inr ⟨by simpa using hcan, ⟨_, rfl, .inl rfl⟩, rfl⟩

/-- A lookup that ends without being suspended could take its lock. -/
theorem get_eq_done {c : Caller} {s : Over Blocking σ} {r}
    (ends : (cache inner).get c k s = .done r) :
    s.own.claimable c.thread k = true ∧ fetch inner c.thread c k s = .done r := by
  change Blocking.get inner c k s = _ at ends
  unfold Blocking.get at ends
  by_cases hcan : s.own.claimable c.thread k = true
  · rw [if_pos hcan] at ends
    exact ⟨hcan, ends⟩
  · rw [if_neg hcan] at ends
    dsimp only at ends
    split at ends <;> cases ends

/-- A lookup that is suspended is counted. -/
theorem own_get_of_blocked {c : Caller} {s : Over Blocking σ}
    (blocked : s.own.claimable c.thread k = false) :
    ((cache inner).get c k s).state.own = s.own.await k := by
  change (Blocking.get inner c k s).state.own = _
  unfold Blocking.get
  rw [if_neg (by simp [blocked])]
  dsimp only
  split <;> rfl

/-! ### Owners -/

variable {b : Blocking} {events : List Event}

/-- The lock table knows the owners. -/
def Tells (b : Blocking) (events : List Event) : Prop :=
  ∀ k t, (b.lockOf k).owner = some t ↔ Owns t k events

/-- A write or a removal by the owner, and no other, frees the key. -/
theorem Tells.release (h : b.Tells events) {e : Event} (htakes : ∀ u a, ¬ e.Takes u a)
    (hfrees : ∀ u a, e.Frees u a ↔ t = u ∧ k = a) : (b.release t k).Tells (e :: events) := by
  intro a u
  rw [lockOf_release]
  simp only [Owns, htakes u a, hfrees u a, false_or, ← h a u]
  by_cases howner : k = a ∧ (b.lockOf k).owner = some t
  · rw [if_pos howner]
    obtain ⟨rfl, howner⟩ := howner
    refine ⟨nofun, fun hu => (hu.2 ⟨?_, rfl⟩).elim⟩
    exact Option.some.inj (howner.symm.trans hu.1)
  · rw [if_neg howner]
    refine ⟨fun hu => ⟨hu, ?_⟩, And.left⟩
    rintro ⟨rfl, rfl⟩
    exact howner ⟨rfl, hu⟩

/-- A lookup under its lock makes the thread the owner or frees the key. -/
theorem Tells.fetch {b' : Blocking} {answer : Except CacheFailure (Option Entry)}
    {owner : Option Nat} (h : b.Tells events) (hcan : b.claimable t k = true)
    (howner : Misses answer ∧ owner = some t ∨ ¬ Misses answer ∧ owner = none)
    (hlocks : ∀ a, (b'.lockOf a).owner = if k = a then owner else (b.lockOf a).owner) :
    b'.Tells (.got t k answer :: events) := by
  intro a u
  rw [hlocks]
  simp only [Owns, Event.Takes, Event.Frees, ← h a u]
  by_cases hka : k = a
  · subst hka
    have hmine (hu : (b.lockOf k).owner = some u) : t = u := by
      rcases claimable_iff.mp hcan with hfree | hmine
      · exact nomatch hfree.symm.trans hu
      · exact Option.some.inj (hmine.symm.trans hu)
    rcases howner with ⟨hm, rfl⟩ | ⟨hm, rfl⟩
    · simpa [hm] using hmine
    · simpa [hm] using hmine
  · simp [hka]

/-- Everything else leaves the owners as they are. -/
theorem Tells.other {b' : Blocking} (h : b.Tells events) {e : Event}
    (htakes : ∀ u a, ¬ e.Takes u a) (hfrees : ∀ u a, Owns u a events → ¬ e.Frees u a)
    (hlocks : ∀ a, (b'.lockOf a).owner = (b.lockOf a).owner) : b'.Tells (e :: events) := by
  intro a u
  rw [hlocks, h a u]
  constructor
  · exact fun hu => .inr ⟨hu, hfrees u a hu⟩
  · exact fun hu => (hu.resolve_left (htakes u a)).1

/-- What holds of the locks between steps: none is idle, the owners are those of the course, and
the suspended lookups are counted. -/
structure Sound (m : Room σ) (events : List Event) : Prop where
  noneIdle : m.state.own.NoneIdle
  tells : m.state.own.Tells events
  waiting : ∀ k, (m.state.own.lockOf k).waiting = m.waiters.countP (·.key = k)

/-- A lookup under its lock leaves sound locks, and at most that lock was idle before. -/
theorem sound_of_fetch {c : Caller} {s : Over Blocking σ} {waiters : List (Waiter σ)} {r}
    (hidle : s.own.IdleAt k) (htells : s.own.Tells events)
    (hwaiting : ∀ a, (s.own.lockOf a).waiting = waiters.countP (·.key = a))
    (hcan : s.own.claimable t k = true) (ends : fetch inner t c k s = .done r) :
    Sound ⟨r.state, waiters⟩ (.got t k r.value :: events) := by
  obtain ⟨hnone, owner, howner, hlocks⟩ := fetch_locks ends hidle
  refine ⟨hnone, htells.fetch hcan howner fun a => ?_, fun a => ?_⟩
  · rw [hlocks]
    split <;> rfl
  · rw [← hwaiting a, hlocks]
    split
    · next hka => rw [hka]
    · rfl

/-- A suspended lookup that comes back leaves sound locks. -/
theorem Sound.wake {m : Room σ} (h : Sound m events) {w : Waiter σ} {before after c d s n ready}
    {resume r} (waiting : m.waiters = before ++ w :: after)
    (suspended : (cache inner).get w.caller w.key w.state = .wait d s n ready resume)
    (come : ready c m.state = true) (ends : resume c m.state come = .done r) :
    Sound ⟨r.state, before ++ after⟩ (.got w.caller.thread w.key r.value :: events) := by
  have hidle : (m.state.own.unawait w.key).IdleAt w.key := h.noneIdle.unawait
  have htells : (m.state.own.unawait w.key).Tells events := by
    intro a u
    rw [← h.tells a u, lockOf_unawait]
    split
    · next hka => rw [hka]
    · rfl
  have hwaiting (a : Key) : ((m.state.own.unawait w.key).lockOf a).waiting =
      (before ++ after).countP (·.key = a) := by
    have hcount := h.waiting a
    rw [waiting, List.countP_append, List.countP_cons] at hcount
    rw [lockOf_unawait, List.countP_append]
    by_cases hka : w.key = a
    · subst hka
      simp only [decide_true, if_true] at hcount ⊢
      omega
    · simp only [hka, decide_false, if_false] at hcount ⊢
      exact hcount
  rcases resume_spec w.blocked suspended come ends with ⟨hcan, hfetch⟩ | ⟨hcan, ⟨f, hf, _⟩, hown⟩
  · exact sound_of_fetch hidle htells hwaiting hcan hfetch
  · have hnomiss : ¬ Misses r.value := by
      rw [hf]
      rintro (hm | hm) <;> exact nomatch hm
    -- The key has an owner, which is another thread.
    have hother : ¬ Owns w.caller.thread w.key events := by
      rw [← htells]
      exact fun howner => nomatch hcan.symm.trans (claimable_iff.mpr (.inr howner))
    refine ⟨?_, ?_, fun a => ?_⟩
    · rw [hown]
      exact hidle.discardIdle
    · refine htells.other (fun _ _ ht => hnomiss ht.2.2) ?_ fun a => ?_
      · rintro u a hu ⟨rfl, rfl, _⟩
        exact hother hu
      · rw [hown, lockOf_discardIdle]
    · rw [hown, lockOf_discardIdle]
      exact hwaiting a

/-- A step keeps the locks sound. -/
theorem Sound.step {m m' : Room σ} {e : Event} (h : Sound m events) (step : Step inner m e m') :
    Sound m' (e :: events) := by
  cases step with
  | put c k e =>
    refine ⟨h.noneIdle.release, h.tells.release (fun _ _ => id) fun _ _ => Iff.rfl, fun a => ?_⟩
    exact waiting_release.trans (h.waiting a)
  | remove c k =>
    refine ⟨h.noneIdle.release, h.tells.release (fun _ _ => id) fun _ _ => Iff.rfl, fun a => ?_⟩
    exact waiting_release.trans (h.waiting a)
  | clear c =>
    exact ⟨h.noneIdle, h.tells.other (fun _ _ => id) (fun _ _ _ => id) fun _ => rfl, h.waiting⟩
  | get ends =>
    obtain ⟨hcan, hfetch⟩ := get_eq_done ends
    exact sound_of_fetch (h.noneIdle.idleAt _) h.tells h.waiting hcan hfetch
  | @wait c k _ blocked =>
    have hown : ((cache inner).get c k m.state).state.own = m.state.own.await k :=
      own_get_of_blocked blocked
    refine ⟨?_, h.tells.other (fun _ _ => id) (fun _ _ _ => id) fun a => ?_, fun a => ?_⟩
    · rw [hown]
      exact h.noneIdle.await
    · rw [hown, lockOf_await]
      split
      · next hka => rw [hka]
      · rfl
    · rw [hown, lockOf_await, List.countP_cons, ← h.waiting a]
      split
      · next hka => simp [hka]
      · next hka => simp [hka]
  | wake waiting same suspended come ends =>
    rw [same]
    exact h.wake waiting suspended come ends
  | interrupt =>
    exact ⟨h.noneIdle, h.tells.other (fun _ _ => id) (fun _ _ _ => id) fun _ => rfl, h.waiting⟩

/-- After a course, the locks are sound. -/
theorem Course.sound {timeout : Option Duration} {i : σ} {m : Room σ}
    (course : Course inner (fresh timeout i) events m) : Sound m events := by
  induction course with
  | nil => exact ⟨nofun, fun k t => ⟨nofun, False.elim⟩, fun k => rfl⟩
  | cons course step ih => exact ih.step step

/-- The lock of the key belongs to the thread. -/
def Room.Held (m : Room σ) (t : Nat) (k : Key) : Prop :=
  ∃ l, m.state.own.locks.get? k = some l ∧ l.owner = some t

theorem Room.held_iff {m : Room σ} : m.Held t k ↔ (m.state.own.lockOf k).owner = some t := by
  unfold Held lockOf
  cases m.state.own.locks.get? k with
  | none => simp
  | some l => simp

/-- No other thread's lookup of an owned key is answered. -/
theorem Step.refuses {m m' : Room σ} {t' : Nat} {answer : Except CacheFailure (Option Entry)}
    (step : Step inner m (.got t' k answer) m') (hheld : m.Held t k) (hne : t' ≠ t) :
    Refuses answer := by
  have howner := Room.held_iff.mp hheld
  -- Waiting or not, the other thread cannot take the lock.
  have hcannot {b : Blocking} (hb : (b.lockOf k).owner = some t)
      (hcan : b.claimable t' k = true) : False := by
    rcases claimable_iff.mp hcan with hfree | hmine
    · exact nomatch hb.symm.trans hfree
    · exact hne (Option.some.inj (hmine.symm.trans hb))
  cases step with
  | get ends => exact (hcannot howner (get_eq_done ends).1).elim
  | @wake _ w before after c d s n ready resume r waiting same suspended come ends =>
    rcases resume_spec w.blocked suspended come ends with ⟨hcan, _⟩ | ⟨_, hrefuses, _⟩
    · refine (hcannot ?_ (same ▸ hcan)).elim
      rw [lockOf_unawait, if_pos rfl]
      exact howner
    · exact hrefuses

/-- What key locks are for, at any time between calls. -/
structure Exclusive (inner : Cache σ) (m : Room σ) (events : List Event) : Prop where
  /-- No two threads own a key. -/
  unique : ∀ {t t' k}, Owns t k events → Owns t' k events → t = t'
  /-- The lock of a key belongs to the thread that owns the key. -/
  owner : ∀ {t k}, m.Held t k ↔ Owns t k events
  /-- A lock comes to a thread by its own lookup in vain only. -/
  taken : ∀ {t k e m'}, Step inner m e m' → ¬ m.Held t k → m'.Held t k → e.Takes t k
  /-- A lock stays with a thread until the thread itself frees the key. -/
  stays : ∀ {t k e m'}, Step inner m e m' → m.Held t k → (¬ m'.Held t k ↔ e.Frees t k)
  /-- Meanwhile no lookup of another thread is answered. -/
  refused : ∀ {t t' k answer m'}, Step inner m (.got t' k answer) m' → m.Held t k → t' ≠ t →
    Refuses answer
  /-- The locks are those of the keys that are owned or waited for. -/
  locked : ∀ k, m.state.own.locks.contains k = true ↔
    (∃ t, Owns t k events) ∨ ∃ w ∈ m.waiters, w.key = k

/-- A lookup in vain does not free the key. -/
theorem Event.not_frees_of_takes {e : Event} (h : e.Takes t k) : ¬ e.Frees t k := by
  cases e with
  | got thread key answer => exact fun hfrees => hfrees.2.2 h.2.2
  | put thread key => exact fun _ => h
  | removed thread key => exact fun _ => h
  | cleared thread => exact id
  | waits thread key => exact id
  | interrupted => exact id

/-- Whatever threads call, in any order, and whatever the cache inside answers: at most one
thread owns a key, from its lookup in vain until it frees the key itself. Until then it keeps all
other threads from an answer, and there are no locks but those in use. -/
theorem exclusive {timeout : Option Duration} {i : σ} {m : Room σ}
    (course : Course inner (fresh timeout i) events m) : Exclusive inner m events := by
  have hsound := course.sound
  have howner {t : Nat} {k : Key} : m.Held t k ↔ Owns t k events :=
    Room.held_iff.trans (hsound.tells k t)
  have hnext {t : Nat} {k : Key} {e : Event} {m' : Room σ} (step : Step inner m e m') :
      m'.Held t k ↔ e.Takes t k ∨ (m.Held t k ∧ ¬ e.Frees t k) := by
    rw [Room.held_iff, (course.cons step).sound.tells, Owns, howner]
  refine ⟨fun {t t' k} h h' => ?_, howner, fun step hnot h => ?_, fun step h => ?_,
    fun step h hne => step.refuses h hne, fun k => ?_⟩
  · rw [← hsound.tells] at h h'
    exact Option.some.inj (h.symm.trans h')
  · exact ((hnext step).mp h).resolve_right fun hkept => hnot hkept.1
  · rw [hnext step, not_or, not_and, not_not]
    constructor
    · exact fun hno => hno.2 h
    · exact fun hfrees => ⟨fun htakes => Event.not_frees_of_takes htakes hfrees, fun _ => hfrees⟩
  · rw [hsound.noneIdle.contains_iff, Option.ne_none_iff_exists', hsound.waiting,
      List.countP_pos_iff]
    simp only [decide_eq_true_eq]
    exact or_congr (exists_congr fun t => hsound.tells k t) Iff.rfl

/-- One thread looks a key up in vain and another one waits for it. The first one writes a null,
so the lock goes over to the second one. -/
def handedOver : List Event :=
  [.got 1 {} (.ok (some .null)), .put 0 {}, .waits 1 {}, .got 0 {} (.ok none)]

/-- After this the second thread owns the key, and no other does. -/
theorem exclusive_handedOver :
    ∃ m, Course Store.cache (fresh none { name := "users" }) handedOver m ∧
      Exclusive Store.cache m handedOver ∧ Owns 1 {} handedOver := by
  have begun : Course Store.cache (fresh none { name := "users" }) [] _ := .nil
  have hmiss := begun.cons (.get (c := {}) (k := {}) rfl)
  have hwaits := hmiss.cons (.wait (c := { thread := 1 }) (k := {}) rfl)
  have hput := hwaits.cons (.put {} {} .null _)
  have hwake := hput.cons (.wake (c := { thread := 1 }) (show _ = [] ++ _ :: [] from rfl) rfl rfl
    rfl rfl)
  exact ⟨_, hwake, exclusive hwake, .inl ⟨rfl, rfl, .inr rfl⟩⟩

end Blocking

end QueryCache
