import QueryCache.Proofs.Staging.Lookups

/-!
# Staged clears

Once a clear of a cache is staged it stays so until the transaction ends, whatever else is
staged or looked up, and until then no lookup shows anything of what the cache still has.
Caches are told apart by their names here, as they are in a transaction.
-/

namespace QueryCache

variable {ρ σ : Type}

/-- After a staged clear a lookup shows nothing of what the shared cache answered. -/
theorem Pending.shown_cleared {p : Pending} (h : p.clearFirst = true)
    (a : Except CacheFailure (Option Entry)) (e : Entry) : p.shown a ≠ .ok (some e) := by
  cases a with
  | error f => simp [shown, Except.map]
  | ok found => simp [shown, Except.map, h]

namespace Transaction

/-- Whether a clear of a named cache is staged. -/
def Clears (t : Transaction ρ) (name : String) : Prop := (t.pendingFor name).clearFirst = true

theorem not_clears_empty (name : String) : ¬ (empty : Transaction ρ).Clears name :=
  Bool.false_ne_true

/-- Staging a write leaves the staged clears as they are. -/
theorem clears_put (t : Transaction ρ) (name n : String) (ref : ρ) (k : Key) (e : Entry) :
    (t.stage name ref (·.stage k e)).Clears n ↔ t.Clears n := by
  by_cases hn : name = n
  · subst hn
    rw [Clears, pendingFor_stage]
    exact Iff.rfl
  · rw [Clears, pendingFor_stage_of_ne hn, Clears]

/-- Staging a clear adds it to those that are staged. -/
theorem clears_stageClear (t : Transaction ρ) (name n : String) (ref : ρ) :
    (t.stage name ref (·.stageClear)).Clears n ↔ name = n ∨ t.Clears n := by
  by_cases hn : name = n
  · subst hn
    rw [Clears, pendingFor_stage]
    exact iff_of_true rfl (.inl rfl)
  · rw [Clears, pendingFor_stage_of_ne hn]
    exact (or_iff_right hn).symm

/-- Learning from a lookup leaves the staged clears as they are. -/
theorem clears_learn (t : Transaction ρ) (name n : String) (ref : ρ) (k : Key)
    (a : Except CacheFailure (Option Entry)) :
    (t.learn name ref k a).Clears n ↔ t.Clears n := by
  rw [Clears, (pendingFor_learn_kept t name n ref k a).2, Clears]

end Transaction

end QueryCache
