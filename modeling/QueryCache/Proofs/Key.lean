import Mathlib.Algebra.Group.Nat.Defs
import QueryCache.Key

/-!
# Keys tell queries apart

In one environment, and for windows that fit a signed word, equal keys come from equal
statements, windows, texts and values.

Keys are compared by their accumulators and then value by value as far as both go. Only the
count of the values, which wraps at 32 bits, keeps a key apart from a longer one that begins
with it; `agrees_ofComponents` says that this is enough for keys whose sizes differ by less
than that, and `agrees_updateAll_weightless` that it is not for others.
-/

namespace QueryCache

/-- Counts in the signed range are told apart. -/
theorem Value.ofCount_inj {m n : Nat} (hm : m ≤ 9223372036854775807)
    (hn : n ≤ 9223372036854775807) (h : ofCount m = ofCount n) : m = n := by
  unfold ofCount at h
  rw [Nat.min_eq_left hm, Nat.min_eq_left hn] at h
  injection h with h
  have hcast := congrArg Int64.toInt h
  rw [Int64.toInt_ofNat_of_lt (by omega), Int64.toInt_ofNat_of_lt (by omega)] at hcast
  omega

/-- A window both numbers of which are in the signed range. -/
def Window.Signed (w : Window) : Prop :=
  w.offset ≤ 9223372036854775807 ∧ w.limit ≤ 9223372036854775807

instance (w : Window) : Decidable w.Signed :=
  inferInstanceAs (Decidable (w.offset ≤ 9223372036854775807 ∧ w.limit ≤ 9223372036854775807))

namespace Key

/-- What a query key is made of, in order. -/
theorem components_ofQuery (statement : String) (w : Window) (sql : String)
    (params : List Value) (environment : Option String) :
    (ofQuery statement w sql params environment).components =
      [.text statement, .ofCount w.offset, .ofCount w.limit, .text sql] ++
        (params ++ environment.toList.map .text) := by
  unfold ofQuery
  cases environment with
  | none =>
    rw [components_updateAll, components_updateAll, Option.toList_none, List.map_nil,
      List.append_nil]
    rfl
  | some e =>
    rw [components_update, components_updateAll, components_updateAll, List.append_assoc]
    rfl

/-! ### The comparison of keys -/

/-- The count goes up by the number of values that are folded, and wraps. -/
theorem count_updateAll (k : Key) (vs : List Value) :
    (k.updateAll vs).count = k.count + Int32.ofNat vs.length := by
  induction vs generalizing k with
  | nil => exact (Int32.add_zero k.count).symm
  | cons v vs ih =>
    calc (k.updateAll (v :: vs)).count
        = (k.update v).count + Int32.ofNat vs.length := ih (k.update v)
      _ = k.count + 1 + Int32.ofNat vs.length := rfl
      _ = k.count + Int32.ofNat (vs.length + 1) := by
        rw [Int32.add_assoc, Int32.add_comm 1, Int32.ofNat_add]
        rfl

/-- Every query key is one of components. -/
theorem ofQuery_eq_ofComponents (statement : String) (w : Window) (sql : String)
    (params : List Value) (environment : Option String) :
    ofQuery statement w sql params environment = ofComponents
      ([.text statement, .ofCount w.offset, .ofCount w.limit, .text sql] ++
        (params ++ environment.toList.map .text)) := by
  unfold ofQuery ofComponents
  cases environment with
  | none =>
    rw [Option.toList_none, List.map_nil, List.append_nil, updateAll_append]
  | some e =>
    rw [Option.toList_some, List.map_singleton, updateAll_append, updateAll_append]
    rfl

/-- A key has the components that it was made of. -/
theorem components_ofComponents (vs : List Value) : (ofComponents vs).components = vs :=
  components_updateAll empty vs

/-- The count of a key of components. -/
theorem count_ofComponents (vs : List Value) :
    (ofComponents vs).count = Int32.ofNat vs.length :=
  (count_updateAll empty vs).trans (Int32.zero_add _)

/-- The last component is folded last. -/
theorem ofComponents_concat (vs : List Value) (v : Value) :
    ofComponents (vs ++ [v]) = (ofComponents vs).update v := updateAll_append empty vs [v]

/-- Keys of components are equal just if the components are. -/
theorem ofComponents_inj {vs ws : List Value} : ofComponents vs = ofComponents ws ↔ vs = ws := by
  constructor
  · intro h
    have hc := congrArg components h
    rwa [components_ofComponents, components_ofComponents] at hc
  · exact congrArg ofComponents

/-- Two words made of numbers that are not far apart tell these apart. -/
private theorem eq_of_int32_eq {m n : Nat} (hm : m < n + 4294967296) (hn : n < m + 4294967296)
    (h : Int32.ofNat m = Int32.ofNat n) : m = n := by
  have hmod : m % 4294967296 = n % 4294967296 := by
    have hbits := congrArg (fun x => x.toBitVec.toNat) h
    simpa using hbits
  omega

/-- Lists of one length are equal if they are so position by position. -/
private theorem all_zip_iff {vs ws : List Value} (h : vs.length = ws.length) :
    ((vs.zip ws).all fun p => p.1 = p.2) = true ↔ vs = ws := by
  induction vs generalizing ws with
  | nil => simp [List.eq_nil_of_length_eq_zero h.symm]
  | cons v vs ih =>
    cases ws with
    | nil => exact nomatch h
    | cons w ws =>
      rw [List.zip_cons_cons, List.all_cons, Bool.and_eq_true, ih (Nat.succ.inj h),
        decide_eq_true_iff, List.cons.injEq]

/-- Keys whose sizes the count can tell apart agree just if they have the same components. -/
theorem agrees_ofComponents {vs ws : List Value} (hv : vs.length < ws.length + 4294967296)
    (hw : ws.length < vs.length + 4294967296) :
    (ofComponents vs).agrees (ofComponents ws) = true ↔ vs = ws := by
  constructor
  · intro h
    simp only [agrees, Bool.and_eq_true, beq_iff_eq, components_ofComponents,
      count_ofComponents] at h
    exact (all_zip_iff (eq_of_int32_eq hv hw h.1.2)).mp h.2
  · rintro rfl
    simp only [agrees, Bool.and_eq_true, beq_self_eq_true, components_ofComponents, true_and]
    exact (all_zip_iff rfl).mpr rfl

/-- Query keys of one environment are told apart by what is asked. -/
theorem ofQuery_inj {statement statement' : String} {w w' : Window} {sql sql' : String}
    {params params' : List Value} {environment : Option String} (hw : w.Signed)
    (hw' : w'.Signed)
    (h : ofQuery statement w sql params environment =
      ofQuery statement' w' sql' params' environment) :
    statement = statement' ∧ w = w' ∧ sql = sql' ∧ params = params' := by
  have hc := congrArg components h
  rw [components_ofQuery, components_ofQuery] at hc
  obtain ⟨hhead, htail⟩ := List.append_inj hc rfl
  injection hhead with hstatement hhead
  injection hhead with hoffset hhead
  injection hhead with hlimit hhead
  injection hhead with hsql _
  injection hstatement with hstatement
  injection hsql with hsql
  refine ⟨hstatement, ?_, hsql, List.append_cancel_right htail⟩
  have ho := Value.ofCount_inj hw.1 hw'.1 hoffset
  have hl := Value.ofCount_inj hw.2 hw'.2 hlimit
  cases w
  cases w'
  exact congr (congrArg Window.mk ho) hl

/-! ### Where the count wraps -/

/-- The factor by which values without a hash, as many as the given power of two, multiply the
hash of a key. -/
def stretch : Nat → Int32
  | 0 => multiplier
  | j + 1 => stretch j * stretch j

/-- Values without a hash multiply the hash of a key and leave its checksum. -/
theorem updateAll_weightless (j : Nat) (k : Key) {vs : List Value} (hlen : vs.length = 2 ^ j)
    (hvs : ∀ v ∈ vs, v.hash = 0) :
    (k.updateAll vs).hashcode = stretch j * k.hashcode ∧
      (k.updateAll vs).checksum = k.checksum := by
  induction j generalizing k vs with
  | zero =>
    obtain ⟨v, rfl⟩ := List.length_eq_one_iff.mp hlen
    have hv : v.hash = 0 := hvs v List.mem_cons_self
    simp [updateAll, update, hv, stretch]
  | succ j ih =>
    have hsplit : vs.take (2 ^ j) ++ vs.drop (2 ^ j) = vs := List.take_append_drop _ _
    have hfirst : (vs.take (2 ^ j)).length = 2 ^ j := by
      simp
      omega
    have hlast : (vs.drop (2 ^ j)).length = 2 ^ j := by
      simp
      omega
    have htake := ih k hfirst fun v hv => hvs v (List.mem_of_mem_take hv)
    have hdrop := ih (k.updateAll (vs.take (2 ^ j))) hlast
      fun v hv => hvs v (List.mem_of_mem_drop hv)
    rw [← hsplit, updateAll_append, hdrop.1, hdrop.2, htake.1, htake.2]
    constructor
    · rw [stretch, Int32.mul_assoc]
    · rfl

/-- A list agrees with a longer one as far as both go. -/
private theorem all_zip_append (vs ws : List Value) :
    ((vs.zip (vs ++ ws)).all fun p => p.1 = p.2) = true := by
  induction vs with
  | nil => rfl
  | cons v vs ih => simpa using ih

/-- A key agrees with the one that goes on with 2^32 values without a hash: the count has come
round, and so has the power of the multiplier. -/
theorem agrees_updateAll_weightless (k : Key) {vs : List Value} (hlen : vs.length = 2 ^ 32)
    (hvs : ∀ v ∈ vs, v.hash = 0) : k.agrees (k.updateAll vs) = true := by
  have hweights := updateAll_weightless 32 k hlen hvs
  have hround : stretch 32 = 1 := by decide
  have hcount := count_updateAll k vs
  have hwrap : Int32.ofNat (2 ^ 32) = 0 := by decide
  rw [hlen, hwrap, Int32.add_zero] at hcount
  rw [agrees, components_updateAll, hweights.1, hweights.2, hcount, hround, Int32.one_mul,
    all_zip_append]
  simp

/-- So a key of components agrees with one of 2^32 more that have no hash. -/
theorem agrees_ofComponents_append (us : List Value) {vs : List Value}
    (hlen : vs.length = 2 ^ 32) (hvs : ∀ v ∈ vs, v.hash = 0) :
    (ofComponents us).agrees (ofComponents (us ++ vs)) = true := by
  rw [ofComponents, ofComponents, updateAll_append]
  exact agrees_updateAll_weightless _ hlen hvs

end Key

end QueryCache
