import Mathlib.Data.List.Forall2
import Mathlib.Logic.Function.Basic
import QueryCache.Proofs.Key

/-!
# Keys are their component sequences

A caller makes keys in many ways: empty, of components, of a query, by folding more values into
one it holds, one at a time or many, and by copying one. `Making` is one such step over keys held
under names. In whatever order the steps come, a key is the one made of its component sequence at
once (`makeAll_eq_ofComponents`), so that the accumulators know nothing of chunks and copies.

The comparison of keys reads the accumulators and the components as far as both go. Below 2^32
components the count still tells the lengths apart, and the comparison is then an equivalence
that the hash of a key respects, which is all that a hash table asks for.
-/

namespace QueryCache

namespace Value

/-- Values that compare as equal have one structural hash. -/
theorem hash_eq_of_same {a b : Value} (h : a.same b = true) : a.hash = b.hash :=
  congrArg hash ((same_eq_true_iff a b).mp h)

end Value

namespace Key

variable {ν : Type}

/-- A step in the making of keys that are held under names. -/
inductive Making (ν : Type) where
  | new (name : ν)
  | standard (name : ν)
  | components (name : ν) (vs : List Value)
  | query (name : ν) (statement : String) (window : Window) (sql : String)
      (params : List Value) (environment : Option String)
  | update (name : ν) (v : Value)
  | updateAll (name : ν) (vs : List Value)
  | copy (name source : ν)

namespace Making

variable [DecidableEq ν]

/-- The keys after a step. A copy is a value of its own: later steps on one of the two names do
not reach the other. -/
def make (held : ν → Key) : Making ν → ν → Key
  | .new name => Function.update held name empty
  | .standard name => Function.update held name default
  | .components name vs => Function.update held name (ofComponents vs)
  | .query name statement window sql params environment =>
    Function.update held name (ofQuery statement window sql params environment)
  | .update name v => Function.update held name ((held name).update v)
  | .updateAll name vs => Function.update held name ((held name).updateAll vs)
  | .copy name source => Function.update held name (held source)

/-- The component sequences after a step, where each step says what it appends to what. -/
def write (held : ν → List Value) : Making ν → ν → List Value
  | .new name | .standard name => Function.update held name []
  | .components name vs => Function.update held name vs
  | .query name statement window sql params environment =>
    Function.update held name
      ([.text statement, .ofCount window.offset, .ofCount window.limit, .text sql] ++
        (params ++ environment.toList.map .text))
  | .update name v => Function.update held name (held name ++ [v])
  | .updateAll name vs => Function.update held name (held name ++ vs)
  | .copy name source => Function.update held name (held source)

/-- The keys after some steps; a name that no step has made a key for holds an empty one. -/
def makeAll (steps : List (Making ν)) : ν → Key := steps.foldl make fun _ => empty

/-- The component sequences after some steps. -/
def writeAll (steps : List (Making ν)) : ν → List Value := steps.foldl write fun _ => []

/-- A step makes keys of sequences out of keys of sequences. -/
theorem make_ofComponents (held : ν → List Value) (step : Making ν) :
    step.make (ofComponents ∘ held) = ofComponents ∘ step.write held := by
  cases step with
  | new name | standard name => exact (Function.comp_update ofComponents held name []).symm
  | components name vs | copy name source =>
    exact (Function.comp_update ofComponents held name _).symm
  | query name statement window sql params environment =>
    rw [make, write, Function.comp_update, ofQuery_eq_ofComponents]
  | update name v =>
    rw [make, write, Function.comp_update]
    exact congrArg _ (ofComponents_concat (held name) v).symm
  | updateAll name vs =>
    rw [make, write, Function.comp_update]
    exact congrArg _ (updateAll_append empty (held name) vs).symm

/-- After any steps every key is that of its component sequence. -/
theorem makeAll_eq_ofComponents (steps : List (Making ν)) (name : ν) :
    makeAll steps name = ofComponents (writeAll steps name) := by
  have h : steps.foldl make (ofComponents ∘ fun _ => []) =
      ofComponents ∘ steps.foldl write fun _ => [] :=
    List.foldl_hom (ofComponents ∘ ·) make_ofComponents
  exact congrFun h name

end Making

/-! ### Keys that the count can tell apart -/

/-- A key of fewer than 2^32 components. -/
structure Short where
  key : Key
  made : key = ofComponents key.components
  short : key.size < 2 ^ 32

namespace Short

/-- The key of a short sequence. -/
def ofSequence (vs : List Value) (h : vs.length < 2 ^ 32) : Short where
  key := ofComponents vs
  made := by rw [components_ofComponents]
  short := by rwa [size, components_ofComponents]

/-- Short keys agree just if they are one key. -/
theorem agrees_iff (a b : Short) : a.key.agrees b.key = true ↔ a.key = b.key := by
  rw [a.made, b.made, ofComponents_inj]
  exact agrees_ofComponents (Nat.lt_add_left _ a.short) (Nat.lt_add_left _ b.short)

/-- A hash table compares keys by their accumulators and components. -/
instance : BEq Short := ⟨fun a b => a.key.agrees b.key⟩

/-- A hash table places keys by their accumulated hash. -/
instance : Hashable Short := ⟨fun a => a.key.hashInput.toUInt32.toUInt64⟩

/-- The comparison of short keys is an equivalence. -/
theorem equivalence : Equivalence fun a b : Short => a.key.agrees b.key = true where
  refl a := (agrees_iff a a).mpr rfl
  symm h := (agrees_iff _ _).mpr ((agrees_iff _ _).mp h).symm
  trans h h' := (agrees_iff _ _).mpr (((agrees_iff _ _).mp h).trans ((agrees_iff _ _).mp h'))

instance : EquivBEq Short where
  rfl := equivalence.refl _
  symm := equivalence.symm
  trans := equivalence.trans

instance : LawfulHashable Short where
  hash_eq a b h := by
    change a.key.hashInput.toUInt32.toUInt64 = b.key.hashInput.toUInt32.toUInt64
    rw [(agrees_iff a b).mp h]

/-- A table finds short keys by equality where a hash table finds them by comparison. -/
theorem find_eq_find?_beq {α : Type} (entries : List (Short × α)) (a : Short) :
    Table.find a.key (entries.map fun e => (e.1.key, e.2)) =
      (entries.find? (·.1 == a)).map Prod.snd := by
  induction entries with
  | nil => rfl
  | cons e entries ih =>
    rw [List.map_cons, Table.find, List.find?_cons, ih]
    by_cases h : e.1.key = a.key
    · have hbeq : (e.1 == a) = true := (agrees_iff e.1 a).mpr h
      rw [if_pos h, hbeq]
      rfl
    · have hbeq : (e.1 == a) = false := eq_false_of_ne_true fun hb => h ((agrees_iff e.1 a).mp hb)
      rw [if_neg h, hbeq]

end Short

/-- Positions of two sequences hold values that compare as equal just if the sequences are one. -/
private theorem forall₂_same_iff {vs ws : List Value} :
    List.Forall₂ (fun v w => v.same w = true) vs ws ↔ vs = ws := by
  simp only [Value.same_eq_true_iff, List.forall₂_eq_eq_eq]

/-- Keys that are made in any way, by steps that fold, chunk and copy in any order, and that have
fewer than 2^32 components: each is the key of its component sequence, so that sequences
alone decide the hash, the checksum and the count; two keys agree just if the sequences have one
length and compare as equal value by value, and then they give a hash table one input. Values
compare as equal just if they are one datum, and such values have one structural hash. So the
comparison is, on short keys and these are among them, an equivalence that is lawful for hash
tables. -/
theorem keys_are_sequences [DecidableEq ν] (steps steps' : List (Making ν)) (name name' : ν)
    (hshort : (Making.writeAll steps name).length < 2 ^ 32)
    (hshort' : (Making.writeAll steps' name').length < 2 ^ 32) :
    let k := Making.makeAll steps name
    let k' := Making.makeAll steps' name'
    let vs := Making.writeAll steps name
    let vs' := Making.writeAll steps' name'
    k.components = vs ∧ k = ofComponents vs ∧
    (vs = vs' → k.hashcode = k'.hashcode ∧ k.checksum = k'.checksum ∧ k.count = k'.count) ∧
    (k.agrees k' = true ↔
      vs.length = vs'.length ∧ List.Forall₂ (fun v w => v.same w = true) vs vs') ∧
    (k.agrees k' = true → k.hashInput = k'.hashInput) ∧
    (∀ v w : Value, (v.same w = true ↔ v = w) ∧ (v.same w = true → v.hash = w.hash)) ∧
    (∃ a b : Short, a.key = k ∧ b.key = k') ∧
    Equivalence (fun a b : Short => a.key.agrees b.key = true) ∧
    EquivBEq Short ∧ LawfulHashable Short := by
  intro k k' vs vs'
  have hk : k = ofComponents vs := Making.makeAll_eq_ofComponents steps name
  have hk' : k' = ofComponents vs' := Making.makeAll_eq_ofComponents steps' name'
  have hagrees : k.agrees k' = true ↔ vs = vs' := by
    rw [hk, hk']
    exact agrees_ofComponents (Nat.lt_add_left _ hshort) (Nat.lt_add_left _ hshort')
  have hone (h : vs = vs') : k = k' := by rw [hk, hk', h]
  refine ⟨by rw [hk, components_ofComponents], hk, fun h => ?accumulators, ?agrees, fun h => ?hash,
    fun v w => ⟨Value.same_eq_true_iff v w, Value.hash_eq_of_same⟩,
    ⟨.ofSequence vs hshort, .ofSequence vs' hshort', hk.symm, hk'.symm⟩, Short.equivalence,
    inferInstance, inferInstance⟩
  case accumulators => exact hone h ▸ ⟨rfl, rfl, rfl⟩
  case agrees =>
    rw [hagrees, forall₂_same_iff]
    exact ⟨fun h => ⟨congrArg List.length h, h⟩, And.right⟩
  case hash => rw [hone (hagrees.mp h)]

/-- A key that is copied and then goes on in a chunk agrees with the one that is made at once; the
one it was copied from goes on by itself, and with a negative zero deep in an array it agrees with
neither. -/
theorem keys_are_sequences_copied :
    let nested (bits : UInt64) : Value := .array [.null, .array [.float bits]]
    let steps : List (Making String) :=
      [.standard "template", .update "template" (.text "selectUser"), .copy "extended" "template",
        .updateAll "extended" [.int 42, nested 0], .update "template" (.int 42),
        .update "template" (nested 0x8000000000000000),
        .components "whole" [.text "selectUser", .int 42, nested 0]]
    let made := Making.makeAll steps
    (made "extended").agrees (made "whole") = true ∧
      (made "extended").hashcode = (made "whole").hashcode ∧
      (made "template").agrees (made "whole") = false := by
  intro nested steps made
  obtain ⟨-, -, haccumulators, hagrees, -⟩ :=
    keys_are_sequences steps steps "extended" "whole" (by decide) (by decide)
  obtain ⟨-, -, -, hother, -⟩ :=
    keys_are_sequences steps steps "template" "whole" (by decide) (by decide)
  refine ⟨hagrees.mpr ⟨by decide, forall₂_same_iff.mpr (by decide)⟩,
    (haccumulators (by decide)).1, eq_false_of_ne_true fun h => ?_⟩
  exact absurd (forall₂_same_iff.mp (hother.mp h).2) (by decide)

end Key

end QueryCache
