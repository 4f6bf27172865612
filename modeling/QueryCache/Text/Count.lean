/-!
# Counts

Counts in configurations: unsigned 64-bit numbers in decimal digits, perhaps after a plus
sign.
-/

namespace QueryCache.Text

/-- The bound of counts. -/
def countBound : Nat := 18446744073709551616

private def ofDecimal (ds : List Char) : Option Nat :=
  if ds ≠ [] ∧ ds.all Char.isDigit then
    let n := ds.foldl (fun n c => 10 * n + (c.toNat - '0'.toNat)) 0
    if n < countBound then some n else none
  else none

/-- Read a count. -/
def count? (s : String) : Option Nat :=
  match s.toList with
  | '+' :: ds => ofDecimal ds
  | ds => ofDecimal ds

private theorem ofDecimal_eq_some_iff {ds : List Char} {n : Nat} :
    ofDecimal ds = some n ↔ ds ≠ [] ∧ (∀ c ∈ ds, c.isDigit = true) ∧
      ds.foldl (fun n c => 10 * n + (c.toNat - '0'.toNat)) 0 = n ∧ n < countBound := by
  simp only [ofDecimal, Option.ite_none_right_eq_some, Option.some.injEq, List.all_eq_true,
    and_assoc]
  constructor
  · rintro ⟨hne, hdigits, hlt, rfl⟩
    exact ⟨hne, hdigits, rfl, hlt⟩
  · rintro ⟨hne, hdigits, rfl, hlt⟩
    exact ⟨hne, hdigits, hlt, rfl⟩

/-- What is read as a count: a row of digits, perhaps after a plus sign, for a number within the
bound. -/
theorem count?_eq_some_iff {s : String} {n : Nat} :
    count? s = some n ↔ ∃ ds, (s.toList = ds ∨ s.toList = '+' :: ds) ∧ ds ≠ [] ∧
      (∀ c ∈ ds, c.isDigit = true) ∧
      ds.foldl (fun n c => 10 * n + (c.toNat - '0'.toNat)) 0 = n ∧ n < countBound := by
  unfold count?
  split
  · next ds hs =>
    rw [hs, ofDecimal_eq_some_iff]
    constructor
    · exact fun h => ⟨ds, .inr rfl, h⟩
    · rintro ⟨ds', heq | heq, h⟩
      · -- The sign is no digit.
        exact absurd (h.2.1 '+' (heq ▸ List.mem_cons_self)) (by decide)
      · rwa [(List.cons.inj heq).2]
  · next hs =>
    rw [ofDecimal_eq_some_iff]
    constructor
    · exact fun h => ⟨s.toList, .inl rfl, h⟩
    · rintro ⟨ds, heq | heq, h⟩
      · rwa [heq]
      · exact absurd heq (hs ds)

end QueryCache.Text
