import Mathlib.Algebra.BigOperators.Fin
import Mathlib.Algebra.BigOperators.Group.List.Basic
import Mathlib.RingTheory.Coprime.Lemmas
import Mathlib.Tactic.Ring
import QueryCache.Proofs.Key

/-!
# What the accumulators of a key add up to

The hash of a key is a polynomial in the multiplier in which every component counts by its place,
and the checksum is a sum that knows no places. The first wraps at 32 bits; the second never
reaches the end of its 64, as long as the places themselves are signed 32-bit words.

Two neighbours that change places therefore leave the checksum alone and move the hash by their
difference times 36 i - 1 and a power of 37. Both factors are odd, and an odd factor hides no
difference of words.
-/

namespace QueryCache

namespace Key

/-! ### Words with odd factors -/

/-- A word is zero just if the integer it is made of is a multiple of their range. -/
private theorem ofInt_eq_zero_iff {a : Int} : Int32.ofInt a = 0 ↔ (2 : Int) ^ 32 ∣ a := by
  rw [Int32.ofInt_eq_iff_bmod_eq_toInt, Int32.toInt_zero]
  exact (Int.dvd_iff_bmod_eq_zero (a := 4294967296)).symm

/-- An odd factor hides no difference of words. -/
theorem odd_mul_cancel (w : Int32) {x y : Int32} (h : (2 * w + 1) * x = (2 * w + 1) * y) :
    x = y := by
  have hproduct : Int32.ofInt ((2 * w.toInt + 1) * (x - y).toInt) = (2 * w + 1) * (x - y) := by
    rw [Int32.ofInt_mul, Int32.ofInt_add, Int32.ofInt_mul, Int32.ofInt_toInt, Int32.ofInt_toInt]
    rfl
  have hzero : (2 * w + 1) * (x - y) = 0 := by rw [Int32.mul_sub, h, Int32.sub_self]
  have hcoprime : IsCoprime ((2 : Int) ^ 32) (2 * w.toInt + 1) :=
    IsCoprime.pow_left ⟨-w.toInt, 1, by ring⟩
  have hdvd : (2 : Int) ^ 32 ∣ (x - y).toInt :=
    hcoprime.dvd_of_dvd_mul_left (ofInt_eq_zero_iff.mp (hproduct.trans hzero))
  have hsub : x - y = 0 := by
    rw [← Int32.ofInt_toInt (x - y)]
    exact ofInt_eq_zero_iff.mpr hdvd
  rw [← Int32.sub_add_cancel x y, hsub, Int32.zero_add]

/-! ### The hash -/

/-- What one more component does to the hash. -/
theorem hashcode_update (k : Key) (v : Value) :
    (k.update v).hashcode = 37 * k.hashcode + v.hash * (k.count + 1) := rfl

/-- The seed and the hashes of some components, each by its place and by the power of the
multiplier that later components have brought. -/
def weighted {n : Nat} (h : Fin n → Int) : Int :=
  17 * 37 ^ n + ∑ i : Fin n, (i + 1 : Int) * h i * 37 ^ (n - (i + 1))

/-- One more component multiplies what there was and comes in by its place. -/
theorem weighted_succ {n : Nat} (h : Fin (n + 1) → Int) :
    weighted h = 37 * weighted (fun i => h i.castSucc) + h (Fin.last n) * (n + 1) := by
  have hterm (i : Fin n) : (i + 1 : Int) * h i.castSucc * 37 ^ (n + 1 - (i + 1)) =
      37 * ((i + 1 : Int) * h i.castSucc * 37 ^ (n - (i + 1))) := by
    rw [Nat.sub_add_comm i.isLt]
    ring
  simp only [weighted, Fin.sum_univ_castSucc, Fin.val_castSucc, Fin.val_last, hterm,
    ← Finset.mul_sum, Nat.sub_self]
  ring

/-- The hash of a key is the weighted sum of its components, in words. -/
theorem hashcode_ofFn {n : Nat} (c : Fin n → Value) :
    (ofComponents (List.ofFn c)).hashcode = Int32.ofInt (weighted fun i => (c i).hash.toInt) := by
  induction n with
  | zero => rfl
  | succ n ih =>
    rw [List.ofFn_succ', List.concat_eq_append, ofComponents_concat, hashcode_update, ih,
      count_ofComponents, List.length_ofFn, weighted_succ, Int32.ofInt_add (37 * _),
      Int32.ofInt_mul 37, Int32.ofInt_mul _ (n + 1 : Int), Int32.ofInt_toInt,
      Int32.ofInt_add (n : Int), Int32.ofInt_eq_ofNat]
    rfl

/-! ### The checksum -/

/-- The structural hashes of a sequence, added up as integers. -/
def hashSum (vs : List Value) : Int := (vs.map (·.hash.toInt)).sum

/-- The last component is added last. -/
theorem hashSum_concat (vs : List Value) (v : Value) :
    hashSum (vs ++ [v]) = hashSum vs + v.hash.toInt := by
  rw [hashSum, List.map_append, List.sum_append, List.map_singleton, List.sum_singleton, hashSum]

/-- The sum of a sequence is bounded by its length. -/
theorem hashSum_bounds (vs : List Value) :
    -(2 ^ 31 * vs.length) ≤ hashSum vs ∧ hashSum vs ≤ 2 ^ 31 * vs.length := by
  induction vs with
  | nil => exact ⟨Int.le_refl 0, Int.le_refl 0⟩
  | cons v vs ih =>
    have hlow := v.hash.le_toInt
    have hhigh := v.hash.toInt_lt
    simp only [hashSum, List.map_cons, List.sum_cons, List.length_cons] at ih ⊢
    omega

/-- What one more component does to the checksum. -/
theorem checksum_update (k : Key) (v : Value) :
    (k.update v).checksum = k.checksum + v.hash.toInt64 := rfl

/-- The checksum of a key is the sum of its hashes, in words of 64 bits. -/
theorem checksum_ofComponents (vs : List Value) :
    (ofComponents vs).checksum = Int64.ofInt (hashSum vs) := by
  induction vs using List.reverseRecOn with
  | nil => rfl
  | append_singleton vs v ih =>
    have hwide : v.hash.toInt64 = Int64.ofInt v.hash.toInt := by
      rw [← Int32.toInt_toInt64, Int64.ofInt_toInt]
    rw [ofComponents_concat, checksum_update, ih, hwide, ← Int64.ofInt_add, hashSum_concat]

/-- Up to the length of a signed word the checksum is the sum itself. -/
theorem toInt_checksum {vs : List Value} (h : vs.length < 2 ^ 31) :
    (ofComponents vs).checksum.toInt = hashSum vs := by
  have hbounds := hashSum_bounds vs
  rw [checksum_ofComponents]
  exact Int64.toInt_ofInt_of_le (by omega) (by omega)

/-! ### Neighbours that change places -/

/-- Folding the same components keeps hashes apart, and only those that were. -/
theorem hashcode_updateAll_inj {k k' : Key} (hcount : k.count = k'.count) (vs : List Value) :
    (k.updateAll vs).hashcode = (k'.updateAll vs).hashcode ↔ k.hashcode = k'.hashcode := by
  induction vs generalizing k k' with
  | nil => exact Iff.rfl
  | cons v vs ih =>
    have hnext : (k.update v).count = (k'.update v).count := congrArg (· + 1) hcount
    refine (ih hnext).trans ?_
    rw [hashcode_update, hashcode_update, hcount, Int32.add_left_inj]
    have hodd : (37 : Int32) = 2 * 18 + 1 := by decide
    rw [hodd]
    exact ⟨odd_mul_cancel 18, congrArg _⟩

/-- Two components folded in either order give one hash just if their hashes are one. -/
theorem hashcode_update_comm_iff (k : Key) (a b : Value) :
    ((k.update b).update a).hashcode = ((k.update a).update b).hashcode ↔ a.hash = b.hash := by
  have hcount (v : Value) : (k.update v).count = k.count + 1 := rfl
  simp only [hashcode_update, hcount]
  constructor
  · intro h
    refine odd_mul_cancel (18 * k.count + 17) ?_
    grind
  · intro h
    rw [h]

/-- Two neighbours that change places leave the hash just if their hashes are one. -/
theorem hashcode_swap_iff (before after : List Value) (a b : Value) :
    (ofComponents (before ++ b :: a :: after)).hashcode =
      (ofComponents (before ++ a :: b :: after)).hashcode ↔ a.hash = b.hash := by
  rw [ofComponents, ofComponents, updateAll_append, updateAll_append]
  generalize empty.updateAll before = k
  have hcount : ((k.update b).update a).count = ((k.update a).update b).count := rfl
  exact (hashcode_updateAll_inj hcount after).trans (hashcode_update_comm_iff k a b)

/-- The order of components does not show in the checksum. -/
theorem checksum_perm {vs ws : List Value} (h : vs.Perm ws) :
    (ofComponents vs).checksum = (ofComponents ws).checksum := by
  rw [checksum_ofComponents, checksum_ofComponents, hashSum, hashSum, (h.map _).sum_eq]

/-- The key of fewer than 2^31 components: its hash is the seed and the structural hashes, each
times its place, every one times the power of 37 for the components after it, as a signed 32-bit
word; its checksum is the sum of the structural hashes, and no addition on the way to it wraps.
Neighbours that change places keep the checksum, and change the hash just if their structural
hashes differ. -/
theorem hashcode_weighted {vs : List Value} (hlen : vs.length < 2 ^ 31) :
    (ofComponents vs).hashcode.toInt = Int.bmod
      (17 * 37 ^ vs.length + ∑ i : Fin vs.length,
        ((i : Nat) + 1 : Int) * vs[i].hash.toInt * 37 ^ (vs.length - (i + 1))) (2 ^ 32) ∧
    (ofComponents vs).checksum.toInt = (vs.map (·.hash.toInt)).sum ∧
    (∀ before v after, vs = before ++ v :: after →
      ((ofComponents before).update v).checksum.toInt =
        (ofComponents before).checksum.toInt + v.hash.toInt) ∧
    ∀ before a b after, vs = before ++ a :: b :: after →
      (ofComponents (before ++ b :: a :: after)).checksum = (ofComponents vs).checksum ∧
      ((ofComponents (before ++ b :: a :: after)).hashcode ≠ (ofComponents vs).hashcode ↔
        a.hash ≠ b.hash) := by
  refine ⟨?hash, toInt_checksum hlen, ?exact, ?swap⟩
  case hash =>
    have h := hashcode_ofFn fun i : Fin vs.length => vs[i.val]
    rw [List.ofFn_getElem] at h
    rw [h, Int32.toInt_ofInt]
    rfl
  case exact =>
    rintro before v after rfl
    have hbefore : (before ++ [v]).length < 2 ^ 31 := by
      simp only [List.length_append, List.length_cons, List.length_nil] at hlen ⊢
      omega
    rw [← ofComponents_concat, toInt_checksum hbefore, hashSum_concat,
      toInt_checksum (Nat.lt_of_le_of_lt (by simp) hbefore)]
  case swap =>
    rintro before a b after rfl
    exact ⟨checksum_perm ((List.Perm.swap a b after).append_left before),
      not_congr (hashcode_swap_iff before after a b)⟩

/-- A seven and a three, and a three and a seven. -/
theorem hashcode_weighted_pair :
    (ofComponents [.int 7, .int 3]).hashcode = 23538 ∧
      (ofComponents [.int 7, .int 3]).checksum = 10 ∧
      (ofComponents [.int 3, .int 7]).checksum = 10 ∧
      (ofComponents [.int 3, .int 7]).hashcode ≠ 23538 := by
  have hlen : [Value.int 7, .int 3].length < 2 ^ 31 := by decide
  obtain ⟨hhash, hsum, -, hswap⟩ := hashcode_weighted hlen
  have hfirst : (ofComponents [.int 7, .int 3]).hashcode = 23538 :=
    Int32.toInt_inj.mp (hhash.trans (by decide))
  have hten : (ofComponents [.int 7, .int 3]).checksum = 10 :=
    Int64.toInt_inj.mp (hsum.trans (by decide))
  obtain ⟨hkept, hmoved⟩ := hswap [] (.int 7) (.int 3) [] rfl
  exact ⟨hfirst, hten, hkept.trans hten, hfirst ▸ hmoved.mpr (by decide)⟩

end Key

end QueryCache
