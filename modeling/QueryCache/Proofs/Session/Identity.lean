import QueryCache.Proofs.Key
import QueryCache.Session.Basic

/-!
# What a key stands for in a session

A session makes the key of a query out of the name of its statement, its window, its text and
the values that go into it, with the session's environment at the end. Nothing else about the
statement or the parameters takes part, so that inside one session a key stands for just one
query (`keys_identify_queries`).

The comparison of keys follows as long as their count tells the sizes apart. A query without
values and one with 2^32 nulls have keys that agree (`queries_confused`).
-/

namespace QueryCache

variable {ρ : Type}

/-- Two queries that differ in nothing that a key depends on. -/
structure SameQuery (st : Statement ρ) (b : Bound) (w : Window) (st' : Statement ρ) (b' : Bound)
    (w' : Window) : Prop where
  statement : st.id = st'.id
  offset : w.offset = w'.offset
  limit : w.limit = w'.limit
  sql : b.sql = b'.sql
  values : b.keyValues = b'.keyValues

namespace Statement

variable {st st' : Statement ρ} {b b' : Bound} {w w' : Window}

/-- In one environment two queries have one key just if they are the same query. -/
theorem key_eq_iff (hw : w.Signed) (hw' : w'.Signed) (environment : Option String) :
    st.key b w environment = st'.key b' w' environment ↔ SameQuery st b w st' b' w' := by
  constructor
  · intro h
    obtain ⟨hid, hwindow, hsql, hvalues⟩ := Key.ofQuery_inj hw hw' h
    exact ⟨hid, congrArg Window.offset hwindow, congrArg Window.limit hwindow, hsql, hvalues⟩
  · intro h
    have hwindow : w = w' := congr (congrArg Window.mk h.offset) h.limit
    rw [key, key, h.statement, hwindow, h.sql, h.values]

/-- The comparison of keys decides equality, if their sizes are ones that the count tells
apart. -/
theorem key_agrees_iff {environment environment' : Option String}
    (hk : (st.key b w environment).size < (st'.key b' w' environment').size + 4294967296)
    (hk' : (st'.key b' w' environment').size < (st.key b w environment).size + 4294967296) :
    (st.key b w environment).agrees (st'.key b' w' environment') = true ↔
      st.key b w environment = st'.key b' w' environment' := by
  unfold key Key.size at *
  rw [Key.components_ofQuery, Key.components_ofQuery] at hk hk'
  rw [Key.ofQuery_eq_ofComponents, Key.ofQuery_eq_ofComponents]
  exact (Key.agrees_ofComponents hk hk').trans Key.ofComponents_inj.symm

end Statement

namespace Session

/-- An open session makes a key for every query, and the keys of two queries with windows in the
signed range are equal just if the names of the statements, the windows, the texts and the values
that are not those of output parameters are. The comparison of keys says the same, as long as
the sizes of the keys differ by less than what a 32-bit count can tell apart. -/
theorem keys_identify_queries (x : Session ρ) (isOpen : x.closed = false)
    (st st' : Statement ρ) (b b' : Bound) {w w' : Window} (hw : w.Signed) (hw' : w'.Signed) :
    ∃ k k', x.keyOf st b w = .ok k ∧ x.keyOf st' b' w' = .ok k' ∧
      (k = k' ↔ SameQuery st b w st' b' w') ∧
      (k.size < k'.size + 4294967296 → k'.size < k.size + 4294967296 →
        (k.agrees k' = true ↔ SameQuery st b w st' b' w')) := by
  have hkey (st : Statement ρ) (b : Bound) (w : Window) :
      x.keyOf st b w = .ok (st.key b w x.settings.environment) := by
    rw [keyOf, if_neg (by rw [isOpen]; exact Bool.false_ne_true)]
  have hsame : st.key b w x.settings.environment = st'.key b' w' x.settings.environment ↔
      SameQuery st b w st' b' w' := Statement.key_eq_iff hw hw' _
  exact ⟨_, _, hkey st b w, hkey st' b' w', hsame,
    fun hk hk' => (Statement.key_agrees_iff hk hk').trans hsame⟩

/-- A query and one that has other parameter names, another value in an output parameter, another
protocol, a cache and other flags have one key; with the output parameter taken for an input they
have not. -/
theorem keys_identify_queries_dev :
    let x : Session Unit := { settings := { environment := some "dev" } }
    let st : Statement Unit := .ofCommand "call" .select
    let st' : Statement Unit :=
      { id := "call", command := .update, protocol := .callable, cache := some (),
        useCache := false, flush := true }
    let b (name : String) (mode : Mode) (v : Value) : Bound :=
      { sql := "CALL f(?, ?)", params := [⟨name, .input, .int 7⟩, ⟨"total", mode, v⟩] }
    (∃ k k', x.keyOf st (b "id" .output .null) {} = .ok k ∧
      x.keyOf st' (b "user" .output (.int 42)) {} = .ok k' ∧ k = k' ∧ k.agrees k' = true) ∧
    ∃ k k', x.keyOf st (b "id" .output .null) {} = .ok k ∧
      x.keyOf st' (b "user" .both (.int 42)) {} = .ok k' ∧ k ≠ k' ∧ k.agrees k' = false := by
  intro x st st' b
  have hw : ({} : Window).Signed := by decide
  constructor
  · obtain ⟨k, k', hk, hk', heq, hagrees⟩ := keys_identify_queries x rfl st st'
      (b "id" .output .null) (b "user" .output (.int 42)) hw hw
    have hsame : SameQuery st (b "id" .output .null) {} st' (b "user" .output (.int 42)) {} :=
      ⟨rfl, rfl, rfl, rfl, rfl⟩
    have h := heq.mpr hsame
    exact ⟨k, k', hk, hk', h, (hagrees (by rw [h]; omega) (by rw [h]; omega)).mpr hsame⟩
  · obtain ⟨k, k', hk, hk', heq, hagrees⟩ := keys_identify_queries x rfl st st'
      (b "id" .output .null) (b "user" .both (.int 42)) hw hw
    have hother : ¬ SameQuery st (b "id" .output .null) {} st' (b "user" .both (.int 42)) {} :=
      fun h => absurd h.values (by decide)
    refine ⟨k, k', hk, hk', fun h => hother (heq.mp h), ?_⟩
    cases Except.ok.inj hk
    cases Except.ok.inj hk'
    exact eq_false_of_ne_true fun h => hother ((hagrees (by decide) (by decide)).mp h)

/-- A query with as many nulls for its values. -/
def nulls (n : Nat) : Bound where
  sql := "SELECT ?"
  params := List.replicate n { name := "n" }

theorem keyValues_nulls (n : Nat) : (nulls n).keyValues = List.replicate n .null := by
  induction n with
  | zero => rfl
  | succ n ih =>
    rw [nulls, List.replicate_succ, Bound.keyValues_cons, if_neg nofun, List.replicate_succ]
    exact congrArg (Value.null :: ·) ih

/-- A closed session makes no key, whether the queries are the same or not. In an open one a query
without values and one with 2^32 nulls have keys that agree: the count comes round, and nulls have
no hash. -/
theorem queries_confused :
    let sel : Statement Unit := .ofCommand "sel" .select
    ({ closed := true } : Session Unit).keyOf sel (nulls 0) {} = .error .closed ∧
    ∃ k k', ({} : Session Unit).keyOf sel (nulls 0) {} = .ok k ∧
      ({} : Session Unit).keyOf sel (nulls 4294967296) {} = .ok k' ∧ k.agrees k' = true ∧
      ¬ SameQuery sel (nulls 0) {} sel (nulls 4294967296) {} := by
  intro sel
  have hkey (n : Nat) : sel.key (nulls n) {} none = .ofComponents
      ([.text "sel", .ofCount 0, .ofCount 2147483647, .text "SELECT ?"] ++
        List.replicate n .null) := by
    rw [Statement.key, Key.ofQuery_eq_ofComponents, keyValues_nulls, Option.toList_none,
      List.map_nil, List.append_nil]
    rfl
  refine ⟨rfl, _, _, rfl, rfl, ?_, ?_⟩
  · show (sel.key (nulls 0) {} none).agrees (sel.key (nulls 4294967296) {} none) = true
    rw [hkey, hkey, List.replicate_zero, List.append_nil]
    apply Key.agrees_ofComponents_append
    · rw [List.length_replicate]
      rfl
    · intro v hv
      rw [List.eq_of_mem_replicate hv]
      rfl
  · intro h
    have hlength := congrArg List.length h.values
    rw [keyValues_nulls, keyValues_nulls, List.length_replicate, List.length_replicate] at hlength
    exact nomatch hlength

end Session

end QueryCache
