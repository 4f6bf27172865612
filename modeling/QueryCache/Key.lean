import QueryCache.Rows

/-!
# Cache keys

A key is built by folding values in order. Besides the values it keeps three running
accumulators: a position-weighted 32-bit hash, a 64-bit checksum and a 32-bit count, all of
which wrap. Keys are compared by the accumulators first and then value by value.
-/

namespace QueryCache

/-- The values folded so far with their accumulators. -/
structure Key where
  hashcode : Int32 := 17
  checksum : Int64 := 0
  count : Int32 := 0
  components : List Value := []
  deriving DecidableEq

namespace Key

instance : Inhabited Key := ⟨{}⟩

/-- The factor by which the hash grows with every component. -/
def multiplier : Int32 := 37

/-- The key without components. -/
def empty : Key := {}

/-- Fold one component into a key. -/
def update (k : Key) (v : Value) : Key :=
  let h := v.hash
  let count := k.count + 1
  { hashcode := multiplier * k.hashcode + h * count
    checksum := k.checksum + h.toInt64
    count := count
    components := k.components ++ [v] }

/-- Fold several components, in order. -/
def updateAll (k : Key) (vs : List Value) : Key := vs.foldl update k

/-- The key of a component sequence. -/
def ofComponents (vs : List Value) : Key := empty.updateAll vs

/-- The key of one execution of a statement: its name, the window, the SQL text, the
parameter values and, when there is one, the environment. -/
def ofQuery (statement : String) (window : Window) (sql : String) (params : List Value)
    (environment : Option String) : Key :=
  let head := [.text statement, .ofCount window.offset, .ofCount window.limit, .text sql]
  let base := (empty.updateAll head).updateAll params
  match environment with
  | none => base
  | some e => base.update (.text e)

/-- The number of components. -/
def size (k : Key) : Nat := k.components.length

/-- Comparison by accumulators, then component by component as far as both go. -/
def agrees (a b : Key) : Bool :=
  a.hashcode == b.hashcode && a.checksum == b.checksum && a.count == b.count &&
    (a.components.zip b.components).all fun p => p.1 = p.2

/-- What a hash table sees of a key. -/
def hashInput (k : Key) : Int32 := k.hashcode

/-- The written form: hash, checksum and components, separated by colons. -/
def display (k : Key) : String :=
  ":".intercalate (toString k.hashcode.toInt :: toString k.checksum.toInt ::
    k.components.map Value.display)

/-- The detailed written form. -/
def inspect (k : Key) : String :=
  Text.record "CacheKey"
    [("multiplier", toString multiplier.toInt),
     ("hashcode", toString k.hashcode.toInt),
     ("checksum", toString k.checksum.toInt),
     ("count", toString k.count.toInt),
     ("components", Text.list (Value.inspectAll k.components))]

/-- Folding keeps what was folded before and appends the new component. -/
theorem components_update (k : Key) (v : Value) :
    (k.update v).components = k.components ++ [v] := rfl

/-- Folding a sequence appends it. -/
theorem components_updateAll (k : Key) (vs : List Value) :
    (k.updateAll vs).components = k.components ++ vs := by
  induction vs generalizing k with
  | nil => simp [updateAll]
  | cons v vs ih =>
    have h := ih (k.update v)
    simp only [updateAll, List.foldl_cons] at h ⊢
    rw [h, components_update, List.append_assoc, List.singleton_append]

/-- Folding in two chunks is folding the joined sequence. -/
theorem updateAll_append (k : Key) (vs ws : List Value) :
    k.updateAll (vs ++ ws) = (k.updateAll vs).updateAll ws :=
  List.foldl_append

end Key

end QueryCache
