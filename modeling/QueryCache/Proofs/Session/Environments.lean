import QueryCache.Proofs.Session.Identity

/-!
# Keys of different environments

The environment of a session is the last value of every key that the session makes. It stands
there without a mark of its own, so it can only be told from a parameter by what stands before
it: a session without an environment makes the key of another one's query if it asks for the same
with one more parameter, whose value spells the environment.

`environments_apart` says that this is the only way in which sessions of different environments
come to equal keys, and `environments_confused` that it is one. In particular two sessions that
both have an environment never share a key.
-/

namespace QueryCache

variable {ρ : Type}

/-- A query in a session without an environment passes for one in a session that has one: it asks
for the same, and its values end in one more, which spells the environment. -/
structure PassesFor (st : Statement ρ) (b : Bound) (w : Window) (environment : String)
    (st' : Statement ρ) (b' : Bound) (w' : Window) : Prop where
  statement : st.id = st'.id
  offset : Value.ofCount w.offset = Value.ofCount w'.offset
  limit : Value.ofCount w.limit = Value.ofCount w'.limit
  sql : b.sql = b'.sql
  values : b.keyValues = b'.keyValues ++ [.text environment]

/-- Of two queries in sessions with these environments, one is in a session without an environment
and passes for the other one. -/
def MixedUp (environment environment' : Option String) (st : Statement ρ) (b : Bound) (w : Window)
    (st' : Statement ρ) (b' : Bound) (w' : Window) : Prop :=
  (environment = none ∧ ∃ e, environment' = some e ∧ PassesFor st b w e st' b' w') ∨
    (environment' = none ∧ ∃ e, environment = some e ∧ PassesFor st' b' w' e st b w)

/-- Lists that end in different environments are equal just if one of them has no environment and
ends in a value that spells the other one's. -/
theorem append_environment_eq_iff {vs vs' : List Value} {environment environment' : Option String}
    (hne : environment ≠ environment') :
    vs ++ environment.toList.map .text = vs' ++ environment'.toList.map .text ↔
      (environment = none ∧ ∃ e, environment' = some e ∧ vs = vs' ++ [.text e]) ∨
        (environment' = none ∧ ∃ e, environment = some e ∧ vs' = vs ++ [.text e]) := by
  cases environment with
  | none =>
    cases environment' with
    | none => exact absurd rfl hne
    | some e => simp
  | some e =>
    cases environment' with
    | none => simp [eq_comm]
    | some e' =>
      have he : e ≠ e' := fun h => hne (congrArg some h)
      constructor
      · intro h
        have hlast := (List.append_inj' h rfl).2
        simp [he] at hlast
      · simp

/-- Keys made in different environments are equal just if the queries are mixed up. -/
theorem Statement.key_eq_iff_mixedUp {st st' : Statement ρ} {b b' : Bound} {w w' : Window}
    {environment environment' : Option String} (hne : environment ≠ environment') :
    st.key b w environment = st'.key b' w' environment' ↔
      MixedUp environment environment' st b w st' b' w' := by
  unfold key
  rw [Key.ofQuery_eq_ofComponents, Key.ofQuery_eq_ofComponents, Key.ofComponents_inj]
  simp only [List.cons_append, List.nil_append, List.cons.injEq, Value.text.injEq,
    append_environment_eq_iff hne]
  constructor
  · rintro ⟨hid, hoffset, hlimit, hsql, hvalues⟩
    apply hvalues.imp
    · rintro ⟨hnone, e, he, hv⟩
      exact ⟨hnone, e, he, hid, hoffset, hlimit, hsql, hv⟩
    · rintro ⟨hnone, e, he, hv⟩
      exact ⟨hnone, e, he, hid.symm, hoffset.symm, hlimit.symm, hsql.symm, hv⟩
  · rintro (⟨hnone, e, he, h⟩ | ⟨hnone, e, he, h⟩)
    · exact ⟨h.statement, h.offset, h.limit, h.sql, .inl ⟨hnone, e, he, h.values⟩⟩
    · exact ⟨h.statement.symm, h.offset.symm, h.limit.symm, h.sql.symm,
        .inr ⟨hnone, e, he, h.values⟩⟩

namespace Session

/-- Two open sessions with different environments make equal keys for two queries just if one
session has no environment and its query asks for the same as the other one, with one more value
at the end, which spells the environment of the other session. The comparison of keys says the
same, as long as the sizes of the keys differ by less than what a 32-bit count can tell apart. -/
theorem environments_apart (x y : Session ρ) (hx : x.closed = false) (hy : y.closed = false)
    (hne : x.settings.environment ≠ y.settings.environment) (st st' : Statement ρ) (b b' : Bound)
    (w w' : Window) :
    ∃ k k', x.keyOf st b w = .ok k ∧ y.keyOf st' b' w' = .ok k' ∧
      (k = k' ↔ MixedUp x.settings.environment y.settings.environment st b w st' b' w') ∧
      (k.size < k'.size + 4294967296 → k'.size < k.size + 4294967296 →
        (k.agrees k' = true ↔
          MixedUp x.settings.environment y.settings.environment st b w st' b' w')) := by
  have hkey (z : Session ρ) (hz : z.closed = false) (st : Statement ρ) (b : Bound) (w : Window) :
      z.keyOf st b w = .ok (st.key b w z.settings.environment) := by
    simp [keyOf, hz]
  have hsame : st.key b w x.settings.environment = st'.key b' w' y.settings.environment ↔
      MixedUp x.settings.environment y.settings.environment st b w st' b' w' :=
    Statement.key_eq_iff_mixedUp hne
  refine ⟨_, _, hkey x hx st b w, hkey y hy st' b' w', hsame, ?_⟩
  intro hk hk'
  exact (Statement.key_agrees_iff hk hk').trans hsame

/-- A query with one parameter, whose value spells an environment, is told apart in two sessions
that both have one. -/
theorem environments_apart_prod :
    let dev : Session Unit := { settings := { environment := some "dev" } }
    let prod : Session Unit := { settings := { environment := some "prod" } }
    let b : Bound := { sql := "SELECT ?", params := [{ name := "e", value := .text "dev" }] }
    ∃ k k', dev.keyOf (.ofCommand "sel" .select) b {} = .ok k ∧
      prod.keyOf (.ofCommand "sel" .select) b {} = .ok k' ∧ k ≠ k' ∧ k.agrees k' = false := by
  intro dev prod b
  obtain ⟨k, k', hk, hk', heq, hagrees⟩ := environments_apart dev prod rfl rfl (by decide)
    (.ofCommand "sel" .select) (.ofCommand "sel" .select) b b {} {}
  have hapart : ¬ MixedUp (ρ := Unit) (some "dev") (some "prod") (.ofCommand "sel" .select) b {}
      (.ofCommand "sel" .select) b {} := by
    rintro (⟨hnone, _⟩ | ⟨hnone, _⟩)
    · exact nomatch hnone
    · exact nomatch hnone
  refine ⟨k, k', hk, hk', fun h => hapart (heq.mp h), ?_⟩
  cases Except.ok.inj hk
  cases Except.ok.inj hk'
  exact eq_false_of_ne_true fun h => hapart ((hagrees (by decide) (by decide)).mp h)

/-- A query whose only value spells the environment `dev`, and one that goes on with nulls. -/
def spelling (nulls : Nat) : Bound where
  sql := "SELECT ?"
  params := { name := "e", value := .text "dev" } :: List.replicate nulls { name := "n" }

theorem keyValues_spelling (nulls : Nat) :
    (spelling nulls).keyValues = .text "dev" :: List.replicate nulls .null := by
  rw [spelling, Bound.keyValues_cons, if_neg nofun, ← keyValues_nulls]
  rfl

/-- A session without an environment makes a key of the environment `dev`. Even two sessions that
both have an environment come to keys that agree, if one key has 2^32 components more than the
other and these have no hash: nulls, and at the end the environment with the empty name. -/
theorem environments_confused :
    let inEnvironment (environment : Option String) : Session Unit :=
      { settings := { environment } }
    let sel : Statement Unit := .ofCommand "sel" .select
    (∃ k, (inEnvironment none).keyOf sel (spelling 0) {} = .ok k ∧
      (inEnvironment (some "dev")).keyOf sel { sql := "SELECT ?" } {} = .ok k) ∧
    ∃ k k', (inEnvironment (some "dev")).keyOf sel { sql := "SELECT ?" } {} = .ok k ∧
      (inEnvironment (some "")).keyOf sel (spelling 4294967295) {} = .ok k' ∧
      k.agrees k' = true := by
  intro inEnvironment sel
  have hkey (environment : Option String) (b : Bound) :
      (inEnvironment environment).keyOf sel b {} = .ok (sel.key b {} environment) := rfl
  have hsame : sel.key (spelling 0) {} none = sel.key { sql := "SELECT ?" } {} (some "dev") := by
    have hne : (none : Option String) ≠ some "dev" := nofun
    apply (Statement.key_eq_iff_mixedUp hne).mpr
    exact .inl ⟨rfl, "dev", rfl, rfl, rfl, rfl, rfl, keyValues_spelling 0⟩
  refine ⟨⟨_, hkey none (spelling 0), by rw [hkey, hsame]⟩, _, _, hkey _ _, hkey _ _, ?_⟩
  have hshort : sel.key { sql := "SELECT ?" } {} (some "dev") = .ofComponents
      [.text "sel", .ofCount 0, .ofCount 2147483647, .text "SELECT ?", .text "dev"] := rfl
  have hlong : sel.key (spelling 4294967295) {} (some "") = .ofComponents
      ([.text "sel", .ofCount 0, .ofCount 2147483647, .text "SELECT ?", .text "dev"] ++
        (List.replicate 4294967295 .null ++ [.text ""])) := by
    rw [Statement.key, Key.ofQuery_eq_ofComponents, keyValues_spelling]
    rfl
  rw [hshort, hlong]
  apply Key.agrees_ofComponents_append
  · rw [List.length_append, List.length_replicate]
    rfl
  · intro v hv
    rcases List.mem_append.mp hv with hv | hv
    · rw [List.eq_of_mem_replicate hv]
      rfl
    · rw [List.mem_singleton.mp hv]
      rfl

end Session

end QueryCache
