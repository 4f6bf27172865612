import QueryCache.Trace.Report

/-!
# Totals of counters

Totals are kept by metric and by cache. A note that counts adds to one of them and leaves all others
alone, so the total of a metric of a cache grows by what is counted for the two.
-/

namespace QueryCache

namespace Counters

theorem total_add (counters : Counters) (m m' : Metric) (id id' : String) :
    (counters.add m' id').total m id =
      counters.total m id + if m' = m ∧ id' = id then 1 else 0 := by
  unfold total add
  dsimp only
  rw [Table.get?_insert]
  by_cases hm : m' = m
  · subst hm
    rw [if_pos rfl, Option.bind_some, Table.get?_insert]
    by_cases hid : id' = id
    · subst hid
      rw [if_pos rfl, if_pos ⟨rfl, rfl⟩]
      cases counters.totals.get? m' <;> rfl
    · rw [if_neg hid, if_neg fun h => hid h.2]
      cases counters.totals.get? m' <;> rfl
  · rw [if_neg hm, if_neg fun h => hm h.1]
    rfl

/-- A total grows by what is counted. -/
theorem total_addNotes (counters : Counters) (m : Metric) (id : String) (notes : List Note) :
    (counters.addNotes notes).total m id = counters.total m id + Note.counted m id notes := by
  induction notes generalizing counters with
  | nil => rfl
  | cons note notes ih =>
    have hcounted : Note.counted m id (note :: notes) =
        Note.counted m id [note] + Note.counted m id notes := Note.counted_append m id [note] notes
    rw [hcounted, ← Nat.add_assoc]
    cases note with
    | count m' id' =>
      have hone : Note.counted m id [.count m' id'] = if m' = m ∧ id' = id then 1 else 0 := by
        simp [Note.counted, List.countP_cons]
      rw [hone, ← total_add]
      exact ih _
    | enter span | leave | event e => exact ih counters

end Counters

end QueryCache
