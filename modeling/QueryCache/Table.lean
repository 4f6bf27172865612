/-!
# Tables

A finite map that keeps its keys in the order of their first insertion. Overwriting a key
keeps its place; erasing closes the gap; `swapErase` fills the gap with the last entry.
The order is part of the value, because the order in which staged writes reach a shared
cache, and the order in which a sweep meets the entries it tracks, are both observable.
-/

namespace QueryCache

/-- Keys with their values, oldest key first. -/
structure Table (κ α : Type) where
  entries : List (κ × α) := []
  deriving DecidableEq

namespace Table

variable {κ α β : Type} [DecidableEq κ]

/-- The table without entries. -/
def empty : Table κ α := ⟨[]⟩

instance : Inhabited (Table κ α) := ⟨empty⟩

/-- The keys, oldest first. -/
def keys (t : Table κ α) : List κ := t.entries.map Prod.fst

/-- The values, in the order of their keys. -/
def values (t : Table κ α) : List α := t.entries.map Prod.snd

/-- The number of keys. -/
def size (t : Table κ α) : Nat := t.entries.length

/-- Whether there is no entry. -/
def isEmpty (t : Table κ α) : Bool := t.entries.isEmpty

/-- The value of the first entry under a key. -/
def find (k : κ) : List (κ × α) → Option α
  | [] => none
  | (a, v) :: rest => if a = k then some v else find k rest

/-- The value under a key. -/
def get? (t : Table κ α) (k : κ) : Option α := find k t.entries

/-- Whether a key has an entry. -/
def contains (t : Table κ α) (k : κ) : Bool := (t.get? k).isSome

/-- Overwrite the first entry under a key, or append an entry. -/
def place (k : κ) (v : α) : List (κ × α) → List (κ × α)
  | [] => [(k, v)]
  | (a, w) :: rest => if a = k then (a, v) :: rest else (a, w) :: place k v rest

/-- Overwrite a key in its place, or append a new one. -/
def insert (t : Table κ α) (k : κ) (v : α) : Table κ α := ⟨place k v t.entries⟩

/-- Append a key that has no entry yet; an existing entry stays as it is. -/
def insertNew (t : Table κ α) (k : κ) (v : α) : Table κ α :=
  if t.contains k then t else ⟨t.entries ++ [(k, v)]⟩

/-- Drop a key; the later entries move up. -/
def erase (t : Table κ α) (k : κ) : Table κ α := ⟨t.entries.filter (·.1 ≠ k)⟩

/-- Change the value under a key, if there is one. -/
def modify (t : Table κ α) (k : κ) (f : α → α) : Table κ α :=
  ⟨t.entries.map fun e => if e.1 = k then (e.1, f e.2) else e⟩

/-- The entry at a position. -/
def at? (t : Table κ α) (i : Nat) : Option (κ × α) := t.entries[i]?

/-- Drop the entry at a position; the last entry takes the place. -/
def swapEraseAt (t : Table κ α) (i : Nat) : Table κ α :=
  match t.entries.getLast? with
  | none => t
  | some last =>
    if i + 1 < t.size then ⟨t.entries.dropLast.set i last⟩
    else if i + 1 = t.size then ⟨t.entries.dropLast⟩
    else t

/-- Drop a key; the last entry takes its place. -/
def swapErase (t : Table κ α) (k : κ) : Table κ α :=
  t.swapEraseAt (t.keys.idxOf k)

/-- A table from pairs, later values overwriting earlier ones. -/
def ofList (pairs : List (κ × α)) : Table κ α :=
  pairs.foldl (fun t e => t.insert e.1 e.2) empty

/-- Apply a function to every value. -/
def map (f : α → β) (t : Table κ α) : Table κ β :=
  ⟨t.entries.map fun e => (e.1, f e.2)⟩

/-- The entries in ascending order of their names. -/
def sorted (t : Table String α) : List (String × α) :=
  t.entries.mergeSort fun a b => a.1 ≤ b.1

omit [DecidableEq κ] in
/-- An empty table has size zero. -/
theorem size_empty : (empty : Table κ α).size = 0 := rfl

/-- An empty table finds nothing. -/
theorem get?_empty (k : κ) : (empty : Table κ α).get? k = none := rfl

private theorem find_place (k a : κ) (v : α) (l : List (κ × α)) :
    find a (place k v l) = if k = a then some v else find a l := by
  induction l with
  | nil => simp [place, find]
  | cons e rest ih =>
    obtain ⟨b, w⟩ := e
    by_cases hb : b = k
    · subst hb
      by_cases ha : b = a <;> simp [place, find, ha]
    · by_cases ha : b = a
      · subst ha
        have hk : ¬ k = b := fun h => hb h.symm
        simp [place, find, hb, hk]
      · simp [place, find, hb, ha, ih]

/-- What was inserted is found, and nothing else changes. -/
theorem get?_insert (t : Table κ α) (k a : κ) (v : α) :
    (t.insert k v).get? a = if k = a then some v else t.get? a :=
  find_place k a v t.entries

private theorem find_filter (k a : κ) (l : List (κ × α)) :
    find a (l.filter (·.1 ≠ k)) = if k = a then none else find a l := by
  induction l with
  | nil => simp [find]
  | cons e rest ih =>
    obtain ⟨b, w⟩ := e
    by_cases hb : b = k
    · subst hb
      by_cases ha : b = a <;> simp_all [find]
    · by_cases ha : b = a
      · subst ha
        have hk : ¬ k = b := fun h => hb h.symm
        simp [find, hb, hk]
      · simp_all [find]

/-- What was erased is not found, and nothing else changes. -/
theorem get?_erase (t : Table κ α) (k a : κ) :
    (t.erase k).get? a = if k = a then none else t.get? a :=
  find_filter k a t.entries

private theorem keys_place (k : κ) (v : α) (l : List (κ × α)) :
    (place k v l).map Prod.fst =
      if k ∈ l.map Prod.fst then l.map Prod.fst else l.map Prod.fst ++ [k] := by
  induction l with
  | nil => simp [place]
  | cons e rest ih =>
    obtain ⟨b, w⟩ := e
    by_cases hb : b = k
    · subst hb; simp [place]
    · have hk : ¬ k = b := fun h => hb h.symm
      by_cases hm : k ∈ rest.map Prod.fst <;> simp_all [place]

/-- Inserting keeps the order of the keys and appends a new one. -/
theorem keys_insert (t : Table κ α) (k : κ) (v : α) :
    (t.insert k v).keys = if k ∈ t.keys then t.keys else t.keys ++ [k] :=
  keys_place k v t.entries

end Table

end QueryCache
